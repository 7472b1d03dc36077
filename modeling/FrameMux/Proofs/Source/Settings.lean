/-
**What a query can set.**

A query has five keys that mean something, each with values of its own: a rate, three limits and a word.
This module says without the reader which sizes and which values there are, and what one pair of a
query does to a source: nothing, set one knob, or be refused for one reason.

Main definitions:

* `FrameMux.SyntheticSource.IsSize` — the grammar of sizes;
* `FrameMux.SyntheticSource.Knob`, `Knob.Spells`, `Knob.Refuses` — what can be set in a query, which
  values spell a setting, and what is wrong with the others;
* `FrameMux.SyntheticSource.Knob.Sets` — one knob is set and nothing else changes;
* `FrameMux.SyntheticSource.Acceptable` — a pair with an unknown key or a good value.

Main results:

* `FrameMux.SyntheticSource.readSize?_eq_some_iff_isSize` — sizes are read by their grammar;
* `FrameMux.SyntheticSource.ext_settings` — a source is its size and its settings;
* `FrameMux.SyntheticSource.applyPair_cases` — **everything that one pair can do**.
-/

import FrameMux.Source.Synthetic

set_option relaxedAutoImplicit false
set_option autoImplicit false

namespace FrameMux

namespace SyntheticSource

open FrameMux.Text

/-! ### Sizes -/

/-- A width and a height up to 8192, joined by the first `x` of the text in either case. -/
def IsSize (cs : List Char) (width height : Nat) : Prop :=
  ∃ w x h, cs = w ++ x :: h ∧ (x = 'x' ∨ x = 'X') ∧ (∀ c ∈ w, c ≠ 'x' ∧ c ≠ 'X') ∧
    UnsignedNumeral w width ∧ UnsignedNumeral h height ∧
    (1 ≤ width ∧ width ≤ 8192) ∧ 1 ≤ height ∧ height ≤ 8192

theorem isTimes_iff {c : Char} : isTimes c = true ↔ c = 'x' ∨ c = 'X' := by simp [isTimes]

theorem isDimension_iff {d : UInt32} : isDimension d = true ↔ 1 ≤ d.toNat ∧ d.toNat ≤ 8192 := by
  simp [isDimension, maxDimension, UInt32.le_iff_toNat_le]

/-- A size is read exactly where the grammar has one. -/
theorem readSize?_eq_some_iff_isSize {cs : List Char} {width height : UInt32} :
    readSize? cs = some (width, height) ↔ IsSize cs width.toNat height.toNat := by
  rw [readSize?_eq_some_iff]
  constructor
  · rintro ⟨w, h, split, hw, hh, wide, high⟩
    obtain ⟨x, parts, times, before⟩ := splitFirst?_eq_some split
    refine ⟨w, x, h, parts, isTimes_iff.1 times, fun c inside => ?_, readU32_eq_ok_iff.1 hw,
      readU32_eq_ok_iff.1 hh, isDimension_iff.1 wide, isDimension_iff.1 high⟩
    simpa [isTimes] using before c inside
  · rintro ⟨w, x, h, rfl, times, before, hw, hh, wide, high⟩
    refine ⟨w, h, splitFirst?_append (isTimes_iff.2 times) fun c inside => ?_,
      readU32_eq_ok_iff.2 hw, readU32_eq_ok_iff.2 hh, isDimension_iff.2 wide, isDimension_iff.2 high⟩
    simpa [isTimes] using before c inside

/-- Whatever is a size in the grammar is read. -/
theorem exists_readSize? {cs : List Char} {width height : Nat} (h : IsSize cs width height) :
    ∃ w h : UInt32, readSize? cs = some (w, h) ∧ w.toNat = width ∧ h.toNat = height := by
  obtain ⟨-, -, -, -, -, -, -, -, wide, high⟩ := id h
  have fitW : width < UInt32.size := by rw [UInt32.size]; omega
  have fitH : height < UInt32.size := by rw [UInt32.size]; omega
  refine ⟨.ofNat width, .ofNat height, readSize?_eq_some_iff_isSize.2 ?_,
    UInt32.toNat_ofNat_of_lt' fitW, UInt32.toNat_ofNat_of_lt' fitH⟩
  rwa [UInt32.toNat_ofNat_of_lt' fitW, UInt32.toNat_ofNat_of_lt' fitH]

theorem readSize?_eq_none_iff {cs : List Char} :
    readSize? cs = none ↔ ∀ width height, ¬ IsSize cs width height := by
  constructor
  · intro none width height size
    obtain ⟨w, h, read, -, -⟩ := exists_readSize? size
    rw [none] at read
    cases read
  · intro unsized
    refine Option.eq_none_iff_forall_ne_some.2 fun ⟨w, h⟩ read => ?_
    exact unsized _ _ (readSize?_eq_some_iff_isSize.1 read)

/-! ### Settings -/

/-- What can be set in a query. -/
inductive Knob where
  | fps
  | frames
  | stallAfter
  | crashAfter
  | publish
deriving DecidableEq, Repr

/-- What a knob can be set to. -/
inductive Setting where
  | number (n : Nat)
  | flag (b : Bool)
deriving DecidableEq, Repr

namespace Knob

/-- The key that a knob has in a query. -/
def key : Knob → String
  | fps => "fps"
  | frames => "frames"
  | stallAfter => "stall_after"
  | crashAfter => "crash_after"
  | publish => "publish"

/-- The values that spell a setting: a rate is a positive 32-bit number, a limit is a 64-bit number,
and whether to publish is a word. -/
def Spells : Knob → List Char → Setting → Prop
  | fps, value, .number n => UnsignedNumeral value n ∧ 0 < n ∧ n < UInt32.size
  | publish, value, .flag b => value = (if b then "true" else "false").toList
  | frames, value, .number n | stallAfter, value, .number n | crashAfter, value, .number n =>
      UnsignedNumeral value n ∧ n < UInt64.size
  | _, _, _ => False

/-- The values that spell none, with what they should have been. -/
def Refuses : Knob → List Char → Expectation → Prop
  | fps, value, .number => ∀ n, UnsignedNumeral value n → UInt32.size ≤ n
  | fps, value, .positive => UnsignedNumeral value 0
  | publish, value, .boolean => value ≠ "true".toList ∧ value ≠ "false".toList
  | frames, value, .number | stallAfter, value, .number | crashAfter, value, .number =>
      ∀ n, UnsignedNumeral value n → UInt64.size ≤ n
  | _, _, _ => False

/-- The setting of a knob in a source; a limit may have none. -/
def setting? (s : SyntheticSource) : Knob → Option Setting
  | fps => some (.number s.fps.toNat)
  | frames => s.frames.map fun n => .number n.toNat
  | stallAfter => s.stallAfter.map fun n => .number n.toNat
  | crashAfter => s.crashAfter.map fun n => .number n.toNat
  | publish => some (.flag s.publish)

theorem key_injective {k k' : Knob} (h : k.key = k'.key) : k = k' := by
  cases k <;> cases k' <;> revert h <;> decide

/-- A value spells one setting at most. -/
theorem Spells.unique {k : Knob} {value : List Char} {x y : Setting} (hx : k.Spells value x)
    (hy : k.Spells value y) : x = y := by
  cases k with
  | fps | frames | stallAfter | crashAfter =>
      cases x with
      | flag => exact hx.elim
      | number m =>
          cases y with
          | flag => exact hy.elim
          | number n => exact congrArg Setting.number (hx.1.unique hy.1)
  | publish =>
      cases x with
      | number => exact hx.elim
      | flag b =>
          cases y with
          | number => exact hy.elim
          | flag c =>
              refine congrArg Setting.flag ?_
              have same := hx.symm.trans hy
              clear hx hy
              revert b c
              decide

/-- A value that spells a setting is not refused. -/
theorem Spells.not_refuses {k : Knob} {value : List Char} {x : Setting} {e : Expectation}
    (spells : k.Spells value x) : ¬ k.Refuses value e := by
  intro refuses
  cases k with
  | fps =>
      cases x with
      | flag => exact spells.elim
      | number n =>
          cases e with
          | number => exact absurd (refuses n spells.1) (Nat.not_le_of_lt spells.2.2)
          | positive => exact absurd (spells.1.unique refuses) (Nat.ne_of_gt spells.2.1)
          | boolean => exact refuses
  | frames | stallAfter | crashAfter =>
      cases x with
      | flag => exact spells.elim
      | number n =>
          cases e with
          | number => exact absurd (refuses n spells.1) (Nat.not_le_of_lt spells.2)
          | positive | boolean => exact refuses
  | publish =>
      cases x with
      | number => exact spells.elim
      | flag b =>
          cases e with
          | number | positive => exact refuses
          | boolean =>
              cases b with
              | false => exact refuses.2 spells
              | true => exact refuses.1 spells

/-- What is wrong with a value is one thing. -/
theorem Refuses.unique {k : Knob} {value : List Char} {e e' : Expectation}
    (h : k.Refuses value e) (h' : k.Refuses value e') : e = e' := by
  have zero : ¬ UInt32.size ≤ 0 := by decide
  cases k with
  | fps =>
      cases e with
      | boolean => exact h.elim
      | number =>
          cases e' with
          | boolean => exact h'.elim
          | number => rfl
          | positive => exact absurd (h 0 h') zero
      | positive =>
          cases e' with
          | boolean => exact h'.elim
          | number => exact absurd (h' 0 h) zero
          | positive => rfl
  | frames | stallAfter | crashAfter =>
      cases e with
      | boolean | positive => exact h.elim
      | number =>
          cases e' with
          | boolean | positive => exact h'.elim
          | number => rfl
  | publish =>
      cases e with
      | number | positive => exact h.elim
      | boolean =>
          cases e' with
          | number | positive => exact h'.elim
          | boolean => rfl

end Knob

/-- A source is known by its size and its settings. -/
theorem ext_settings {s s' : SyntheticSource} (width : s.width = s'.width)
    (height : s.height = s'.height) (settings : ∀ k : Knob, k.setting? s = k.setting? s') : s = s' := by
  have counts : ∀ {a b : Option UInt64},
      (a.map fun n => Setting.number n.toNat) = (b.map fun n => Setting.number n.toNat) → a = b := by
    intro a b same
    refine Option.map_injective (fun m n eq => ?_) same
    exact UInt64.toNat_inj.1 (Setting.number.inj eq)
  have fps : s.fps = s'.fps :=
    UInt32.toNat_inj.1 (Setting.number.inj (Option.some.inj (settings .fps)))
  have publish : s.publish = s'.publish := Setting.flag.inj (Option.some.inj (settings .publish))
  have frames := counts (settings .frames)
  have stallAfter := counts (settings .stallAfter)
  have crashAfter := counts (settings .crashAfter)
  cases s
  cases s'
  cases width
  cases height
  cases fps
  cases publish
  cases frames
  cases stallAfter
  cases crashAfter
  rfl

/-! ### One pair -/

/-- One knob is set and nothing else changes. -/
structure Knob.Sets (k : Knob) (x : Setting) (s s' : SyntheticSource) : Prop where
  set : k.setting? s' = some x
  others : ∀ k' : Knob, k' ≠ k → k'.setting? s' = k'.setting? s
  width : s'.width = s.width
  height : s'.height = s.height

theorem ofList_eq_iff {cs : List Char} {text : String} :
    String.ofList cs = text ↔ cs = text.toList := by
  constructor
  · rintro rfl
    exact String.toList_ofList.symm
  · rintro rfl
    exact String.ofList_toList

/-- The two words are read, and no others. -/
theorem readBool?_eq_some_iff {value : List Char} {b : Bool} :
    readBool? (String.ofList value) = some b ↔ Knob.publish.Spells value (.flag b) := by
  show _ ↔ value = (if b then "true" else "false").toList
  simp only [readBool?, ofList_eq_iff]
  by_cases yes : value = "true".toList
  · subst yes
    cases b <;> decide
  · by_cases no : value = "false".toList
    · subst no
      cases b <;> decide
    · rw [if_neg yes, if_neg no]
      cases b with
      | false => exact iff_of_false nofun no
      | true => exact iff_of_false nofun yes

/-- A limit is read as a 64-bit number. -/
theorem applyPair_limit {s : SyntheticSource} {k : Knob} {value : List Char}
    (put : UInt64 → SyntheticSource) (limit : k = .frames ∨ k = .stallAfter ∨ k = .crashAfter)
    (sets : ∀ n, k.Sets (.number n.toNat) s (put n))
    (bad : ∀ e, readU64 value = .error e →
      s.applyPair k.key (String.ofList value) = .error .number)
    (good : ∀ n, readU64 value = .ok n →
      s.applyPair k.key (String.ofList value) = .ok (put n)) :
    (∃ x s', k.Spells value x ∧ k.Sets x s s' ∧
      s.applyPair k.key (String.ofList value) = .ok s') ∨
    ∃ e, k.Refuses value e ∧
      s.applyPair k.key (String.ofList value) = .error e := by
  cases read : readU64 value with
  | error e =>
      refine .inr ⟨.number, ?_, bad e read⟩
      have out : ∀ n, UnsignedNumeral value n → UInt64.size ≤ n :=
        fun _ numeral => size_le_of_readU64_eq_error read numeral
      rcases limit with rfl | rfl | rfl <;> exact out
  | ok n =>
      refine .inl ⟨.number n.toNat, put n, ?_, sets n, good n read⟩
      have spelled : UnsignedNumeral value n.toNat ∧ n.toNat < UInt64.size :=
        ⟨readU64_eq_ok_iff.1 read, n.toNat_lt_size⟩
      rcases limit with rfl | rfl | rfl <;> exact spelled

/-- The value of a knob sets it, or is refused. -/
theorem applyPair_key (s : SyntheticSource) (k : Knob) (value : List Char) :
    (∃ x s', k.Spells value x ∧ k.Sets x s s' ∧
      s.applyPair k.key (String.ofList value) = .ok s') ∨
    ∃ e, k.Refuses value e ∧
      s.applyPair k.key (String.ofList value) = .error e := by
  cases k with
  | fps =>
      cases read : readU32 value with
      | error e =>
          have refused : Knob.fps.Refuses value .number :=
            fun _ numeral => size_le_of_readU32_eq_error read numeral
          exact .inr ⟨.number, refused, by simp [applyPair, Knob.key, read]⟩
      | ok fps =>
          have numeral := readU32_eq_ok_iff.1 read
          by_cases zero : fps = 0
          · subst zero
            have refused : Knob.fps.Refuses value .positive := numeral
            exact .inr ⟨.positive, refused, by simp [applyPair, Knob.key, read]⟩
          · have positive : 0 < fps.toNat := Nat.pos_of_ne_zero fun h => zero (UInt32.toNat_inj.1 h)
            have spelled : Knob.fps.Spells value (.number fps.toNat) :=
              ⟨numeral, positive, fps.toNat_lt_size⟩
            refine .inl ⟨_, { s with fps }, spelled, ⟨rfl, fun k' ne => ?_, rfl, rfl⟩,
              by simp [applyPair, Knob.key, read, zero]⟩
            cases k' with
            | fps => exact absurd rfl ne
            | frames | stallAfter | crashAfter | publish => rfl
  | frames =>
      refine applyPair_limit (fun n => { s with frames := some n }) (.inl rfl)
        (fun n => ⟨rfl, fun k' ne => ?_, rfl, rfl⟩)
        (fun e read => by simp [applyPair, Knob.key, readCount?, read, Except.toOption])
        (fun n read => by simp [applyPair, Knob.key, readCount?, read, Except.toOption])
      cases k' with
      | frames => exact absurd rfl ne
      | fps | stallAfter | crashAfter | publish => rfl
  | stallAfter =>
      refine applyPair_limit (fun n => { s with stallAfter := some n }) (.inr (.inl rfl))
        (fun n => ⟨rfl, fun k' ne => ?_, rfl, rfl⟩)
        (fun e read => by simp [applyPair, Knob.key, readCount?, read, Except.toOption])
        (fun n read => by simp [applyPair, Knob.key, readCount?, read, Except.toOption])
      cases k' with
      | stallAfter => exact absurd rfl ne
      | fps | frames | crashAfter | publish => rfl
  | crashAfter =>
      refine applyPair_limit (fun n => { s with crashAfter := some n }) (.inr (.inr rfl))
        (fun n => ⟨rfl, fun k' ne => ?_, rfl, rfl⟩)
        (fun e read => by simp [applyPair, Knob.key, readCount?, read, Except.toOption])
        (fun n read => by simp [applyPair, Knob.key, readCount?, read, Except.toOption])
      cases k' with
      | crashAfter => exact absurd rfl ne
      | fps | frames | stallAfter | publish => rfl
  | publish =>
      cases read : readBool? (String.ofList value) with
      | none =>
          have neither : ∀ b, ¬ Knob.publish.Spells value (.flag b) := by
            intro b spells
            rw [readBool?_eq_some_iff.2 spells] at read
            cases read
          have refused : Knob.publish.Refuses value .boolean := ⟨neither true, neither false⟩
          exact .inr ⟨.boolean, refused, by simp [applyPair, Knob.key, read]⟩
      | some b =>
          refine .inl ⟨.flag b, { s with publish := b }, readBool?_eq_some_iff.1 read,
            ⟨rfl, fun k' ne => ?_, rfl, rfl⟩, by simp [applyPair, Knob.key, read]⟩
          cases k' with
          | publish => exact absurd rfl ne
          | fps | frames | stallAfter | crashAfter => rfl

/-! ### The pairs of a query -/

/-- Some knob has the key. -/
def Known (key : List Char) : Prop := ∃ k : Knob, key = k.key.toList

/-- A pair with an unknown key or a value that spells a setting. -/
def Acceptable (pair : List Char × List Char) : Prop :=
  ∀ k : Knob, pair.1 = k.key.toList → ∃ x, k.Spells pair.2 x

/-- The error that names a pair, and what its value should have been. -/
def Refused (source : String) (pair : List Char × List Char) (e : SourceError) : Prop :=
  ∃ (k : Knob) (x : Expectation), pair.1 = k.key.toList ∧ k.Refuses pair.2 x ∧
    e = .badValue source (String.ofList pair.1) (String.ofList pair.2) x

theorem toList_key_injective {k k' : Knob} (h : k.key.toList = k'.key.toList) : k = k' :=
  Knob.key_injective (String.toList_inj.1 h)

/-- **Everything that one pair can do**: nothing if its key is unknown, else set a knob or be refused. -/
theorem applyPair_cases (s : SyntheticSource) (pair : List Char × List Char) :
    (¬ Known pair.1 ∧ s.applyPair (String.ofList pair.1) (String.ofList pair.2) = .ok s) ∨
    (∃ (k : Knob) (x : Setting) (s' : SyntheticSource), pair.1 = k.key.toList ∧
      k.Spells pair.2 x ∧ k.Sets x s s' ∧
      s.applyPair (String.ofList pair.1) (String.ofList pair.2) = .ok s') ∨
    ∃ (k : Knob) (e : Expectation), pair.1 = k.key.toList ∧ k.Refuses pair.2 e ∧
      s.applyPair (String.ofList pair.1) (String.ofList pair.2) = .error e := by
  by_cases known : Known pair.1
  · obtain ⟨k, key⟩ := known
    rw [ofList_eq_iff.2 key]
    rcases applyPair_key s k pair.2 with ⟨x, s', spells, sets, done⟩ | ⟨e, refuses, failed⟩
    · exact .inr (.inl ⟨k, x, s', key, spells, sets, done⟩)
    · exact .inr (.inr ⟨k, e, key, refuses, failed⟩)
  · have other : ∀ k : Knob, ¬ String.ofList pair.1 = k.key :=
      fun k same => known ⟨k, ofList_eq_iff.1 same⟩
    refine .inl ⟨known, ?_⟩
    exact (if_neg (other .fps)).trans <| (if_neg (other .frames)).trans <|
      (if_neg (other .stallAfter)).trans <| (if_neg (other .crashAfter)).trans <|
      if_neg (other .publish)

theorem acceptable_of_unknown {pair : List Char × List Char} (unknown : ¬ Known pair.1) :
    Acceptable pair :=
  fun k key => absurd ⟨k, key⟩ unknown

theorem acceptable_of_spells {k : Knob} {x : Setting} {pair : List Char × List Char}
    (key : pair.1 = k.key.toList) (spells : k.Spells pair.2 x) : Acceptable pair := by
  intro k' key'
  cases toList_key_injective (key.symm.trans key')
  exact ⟨x, spells⟩

theorem not_acceptable_of_refuses {k : Knob} {e : Expectation} {pair : List Char × List Char}
    (key : pair.1 = k.key.toList) (refuses : k.Refuses pair.2 e) : ¬ Acceptable pair := by
  intro acceptable
  obtain ⟨x, spells⟩ := acceptable k key
  exact spells.not_refuses refuses

end SyntheticSource

end FrameMux
