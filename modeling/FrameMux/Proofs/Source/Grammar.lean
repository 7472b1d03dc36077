/-
**Which URLs name a synthetic source.**

The reader goes through the pairs of a query in order, changes the source as it goes, and stops at the
first bad value; a key may come any number of times, between keys that mean nothing.  This module says
without the reader what it accepts: every value is checked, also one that a later pair overrides, and
the last value of a key is the one that counts.

Main definitions:

* `FrameMux.SyntheticSource.Knob.last?`, `Knob.Shows` — the last value of a key, and a source that has
  it;
* `FrameMux.SyntheticSource.Applied` — **a query applied to a source**.

Main results:

* `FrameMux.SyntheticSource.applied_insert_iff`, `applied_swap_iff` — what does not matter in a query;
* `FrameMux.SyntheticSource.applyPairs_eq_ok_iff`, `applyPairs_eq_error_iff` — a query is read exactly if
  it can be applied, and fails at its first bad value;
* `FrameMux.SyntheticSource.ofParts_eq_ok_iff`, `ofParts_eq_error_iff` — so is a URL;
* `FrameMux.SyntheticSource.grammar_exact` — **the grammar of sources**.
-/

import FrameMux.Proofs.Source.Settings

set_option relaxedAutoImplicit false
set_option autoImplicit false

namespace FrameMux

namespace SyntheticSource

/-! ### The last value of a key -/

/-- The last value that a query has for a knob. -/
def Knob.last? (k : Knob) (pairs : List (List Char × List Char)) : Option (List Char) :=
  (pairs.filter fun pair => pair.1 = k.key.toList).getLast?.map (·.2)

/-- The last value for a knob is its setting, or what it was set to before if there is none. -/
def Knob.Shows (k : Knob) (pairs : List (List Char × List Char)) (before : Option Setting)
    (s : SyntheticSource) : Prop :=
  match k.last? pairs with
  | none => k.setting? s = before
  | some value => ∃ x, k.Spells value x ∧ k.setting? s = some x

theorem Knob.last?_append (k : Knob) (l l' : List (List Char × List Char)) :
    k.last? (l ++ l') = (k.last? l').or (k.last? l) := by
  rw [last?, last?, last?, List.filter_append, List.getLast?_append, Option.map_or]

theorem Knob.last?_singleton_of_ne {k : Knob} {pair : List Char × List Char}
    (ne : pair.1 ≠ k.key.toList) : k.last? [pair] = none := by
  simp [last?, ne]

theorem Knob.last?_singleton_of_eq {k : Knob} {pair : List Char × List Char}
    (key : pair.1 = k.key.toList) : k.last? [pair] = some pair.2 := by
  simp [last?, key]

/-- A query applied to a source: every value is good, and the last ones are the settings. -/
structure Applied (pairs : List (List Char × List Char)) (s s' : SyntheticSource) : Prop where
  acceptable : ∀ pair ∈ pairs, Acceptable pair
  width : s'.width = s.width
  height : s'.height = s.height
  shows : ∀ k : Knob, k.Shows pairs (k.setting? s) s'

/-- A query makes one source at most out of another. -/
theorem Applied.unique {pairs : List (List Char × List Char)} {s s₁ s₂ : SyntheticSource}
    (h₁ : Applied pairs s s₁) (h₂ : Applied pairs s s₂) : s₁ = s₂ := by
  refine ext_settings (h₁.width.trans h₂.width.symm) (h₁.height.trans h₂.height.symm) fun k => ?_
  have shows₁ := h₁.shows k
  have shows₂ := h₂.shows k
  unfold Knob.Shows at shows₁ shows₂
  cases last : k.last? pairs with
  | none =>
      rw [last] at shows₁ shows₂
      exact shows₁.trans shows₂.symm
  | some value =>
      rw [last] at shows₁ shows₂
      obtain ⟨x, spells, set⟩ := shows₁
      obtain ⟨y, spells', set'⟩ := shows₂
      rw [set, set', spells.unique spells']

/-- Queries with the same last values, all values being good, do the same. -/
theorem applied_congr {pairs pairs' : List (List Char × List Char)} {s s' : SyntheticSource}
    (acceptable : (∀ pair ∈ pairs, Acceptable pair) ↔ ∀ pair ∈ pairs', Acceptable pair)
    (last : ∀ k : Knob, k.last? pairs = k.last? pairs') : Applied pairs s s' ↔ Applied pairs' s s' := by
  have shows : ∀ k : Knob, k.Shows pairs (k.setting? s) s' ↔ k.Shows pairs' (k.setting? s) s' := by
    intro k
    rw [Knob.Shows, Knob.Shows, last k]
  constructor
  · intro h
    exact ⟨acceptable.1 h.acceptable, h.width, h.height, fun k => (shows k).1 (h.shows k)⟩
  · intro h
    exact ⟨acceptable.2 h.acceptable, h.width, h.height, fun k => (shows k).2 (h.shows k)⟩

theorem applied_nil (s : SyntheticSource) : Applied [] s s where
  acceptable := List.forall_mem_nil _
  width := rfl
  height := rfl
  shows := fun _ => rfl

/-- A pair with an unknown key does nothing, wherever it stands. -/
theorem applied_insert_iff {before after : List (List Char × List Char)}
    {pair : List Char × List Char} (unknown : ¬ Known pair.1) {s s' : SyntheticSource} :
    Applied (before ++ pair :: after) s s' ↔ Applied (before ++ after) s s' := by
  refine applied_congr ?_ fun k => ?_
  · simp [or_imp, forall_and, acceptable_of_unknown unknown]
  · have apart : pair.1 ≠ k.key.toList := fun key => unknown ⟨k, key⟩
    rw [← List.singleton_append, Knob.last?_append, Knob.last?_append, Knob.last?_append,
      Knob.last?_singleton_of_ne apart, Option.or_none]

/-- Neighbours with different keys may change places. -/
theorem applied_swap_iff {before after : List (List Char × List Char)} {p q : List Char × List Char}
    (apart : p.1 ≠ q.1) {s s' : SyntheticSource} :
    Applied (before ++ p :: q :: after) s s' ↔ Applied (before ++ q :: p :: after) s s' := by
  refine applied_congr ?_ fun k => ?_
  · have perm : (before ++ p :: q :: after).Perm (before ++ q :: p :: after) :=
      (List.Perm.swap q p after).append_left before
    simp only [perm.mem_iff]
  · have either : k.last? [p] = none ∨ k.last? [q] = none := by
      by_cases key : p.1 = k.key.toList
      · exact .inr (Knob.last?_singleton_of_ne fun key' => apart (key.trans key'.symm))
      · exact .inl (Knob.last?_singleton_of_ne key)
    have same : k.last? ([p] ++ [q]) = k.last? ([q] ++ [p]) := by
      rw [Knob.last?_append, Knob.last?_append]
      rcases either with missing | missing <;> rw [missing, Option.none_or, Option.or_none]
    have split : ∀ a b : List Char × List Char, a :: b :: after = ([a] ++ [b]) ++ after :=
      fun _ _ => rfl
    rw [split, split, k.last?_append before, k.last?_append ([p] ++ [q]), k.last?_append before,
      k.last?_append ([q] ++ [p]), same]

/-- A pair that sets a knob comes before the rest of a query. -/
theorem Applied.cons_of_sets {pair : List Char × List Char} {pairs : List (List Char × List Char)}
    {k : Knob} {x : Setting} {s s₁ s' : SyntheticSource} (key : pair.1 = k.key.toList)
    (spells : k.Spells pair.2 x) (sets : k.Sets x s s₁) (h : Applied pairs s₁ s') :
    Applied (pair :: pairs) s s' where
  acceptable := List.forall_mem_cons.2 ⟨acceptable_of_spells key spells, h.acceptable⟩
  width := h.width.trans sets.width
  height := h.height.trans sets.height
  shows := by
    intro k'
    have shows := h.shows k'
    unfold Knob.Shows at shows ⊢
    rw [← List.singleton_append, Knob.last?_append]
    cases last : k'.last? pairs with
    | some value =>
        rw [last] at shows
        exact shows
    | none =>
        rw [last] at shows
        by_cases same : k' = k
        · subst same
          rw [Option.none_or, Knob.last?_singleton_of_eq key]
          exact ⟨x, spells, shows.trans sets.set⟩
        · have other : pair.1 ≠ k'.key.toList :=
            fun key' => same (toList_key_injective (key'.symm.trans key))
          rw [Option.none_or, Knob.last?_singleton_of_ne other]
          exact shows.trans (sets.others k' same)

/-- A query that is read is applied. -/
theorem applied_of_applyPairs {source : String} {pairs : List (List Char × List Char)}
    {s s' : SyntheticSource} (h : applyPairs source s pairs = .ok s') : Applied pairs s s' := by
  induction pairs generalizing s with
  | nil =>
      cases h
      exact applied_nil _
  | cons pair rest ih =>
      rw [applyPairs] at h
      rcases applyPair_cases s pair with ⟨unknown, kept⟩ | ⟨k, x, s₁, key, spells, sets, done⟩ |
        ⟨k, e, key, refuses, failed⟩
      · rw [kept] at h
        exact (@applied_insert_iff [] rest pair unknown _ _).2 (ih h)
      · rw [done] at h
        exact (ih h).cons_of_sets key spells sets
      · rw [failed] at h
        cases h

/-- A query of good values is read. -/
theorem exists_applyPairs (source : String) {pairs : List (List Char × List Char)}
    (acceptable : ∀ pair ∈ pairs, Acceptable pair) (s : SyntheticSource) :
    ∃ s', applyPairs source s pairs = .ok s' := by
  induction pairs generalizing s with
  | nil => exact ⟨s, rfl⟩
  | cons pair rest ih =>
      obtain ⟨good, acceptable⟩ := List.forall_mem_cons.1 acceptable
      rw [applyPairs]
      rcases applyPair_cases s pair with ⟨-, kept⟩ | ⟨k, x, s₁, key, spells, sets, done⟩ |
        ⟨k, e, key, refuses, failed⟩
      · rw [kept]
        exact ih acceptable s
      · rw [done]
        exact ih acceptable s₁
      · exact absurd good (not_acceptable_of_refuses key refuses)

/-- **A query is read exactly if it can be applied**, and then it is. -/
theorem applyPairs_eq_ok_iff {source : String} {pairs : List (List Char × List Char)}
    {s s' : SyntheticSource} : applyPairs source s pairs = .ok s' ↔ Applied pairs s s' := by
  constructor
  · exact applied_of_applyPairs
  · intro h
    obtain ⟨s₁, read⟩ := exists_applyPairs source h.acceptable s
    rw [read, (applied_of_applyPairs read).unique h]

/-- **A query fails at its first bad value**, whatever follows. -/
theorem applyPairs_eq_error_iff {source : String} {pairs : List (List Char × List Char)}
    {s : SyntheticSource} {e : SourceError} :
    applyPairs source s pairs = .error e ↔
      ∃ before pair after, pairs = before ++ pair :: after ∧ (∀ q ∈ before, Acceptable q) ∧
        Refused source pair e := by
  induction pairs generalizing s with
  | nil => simp [applyPairs]
  | cons pair rest ih =>
      have further : Acceptable pair → ((∃ before p after, rest = before ++ p :: after ∧
          (∀ q ∈ before, Acceptable q) ∧ Refused source p e) ↔
          ∃ before p after, pair :: rest = before ++ p :: after ∧
            (∀ q ∈ before, Acceptable q) ∧ Refused source p e) := by
        intro good
        constructor
        · rintro ⟨before, p, after, rfl, acceptable, refused⟩
          exact ⟨pair :: before, p, after, rfl, List.forall_mem_cons.2 ⟨good, acceptable⟩, refused⟩
        · rintro ⟨before, p, after, parts, acceptable, refused⟩
          cases before with
          | nil =>
              cases parts
              obtain ⟨k, x, key, refuses, -⟩ := refused
              exact absurd good (not_acceptable_of_refuses key refuses)
          | cons q before =>
              cases parts
              exact ⟨before, p, after, rfl, (List.forall_mem_cons.1 acceptable).2, refused⟩
      rw [applyPairs]
      rcases applyPair_cases s pair with ⟨unknown, kept⟩ | ⟨k, x, s₁, key, spells, sets, done⟩ |
        ⟨k, x, key, refuses, failed⟩
      · rw [kept, ← further (acceptable_of_unknown unknown)]
        exact ih
      · rw [done, ← further (acceptable_of_spells key spells)]
        exact ih
      · rw [failed]
        constructor
        · intro h
          cases h
          exact ⟨[], pair, rest, rfl, List.forall_mem_nil _, k, x, key, refuses, rfl⟩
        · rintro ⟨before, p, after, parts, acceptable, refused⟩
          cases before with
          | nil =>
              cases parts
              obtain ⟨k', x', key', refuses', rfl⟩ := refused
              cases toList_key_injective (key.symm.trans key')
              rw [refuses.unique refuses']
          | cons q before =>
              cases parts
              exact absurd (acceptable _ (List.mem_cons_self ..)) (not_acceptable_of_refuses key refuses)

/-! ### The parts of a URL -/

/-- What a knob is set to if no query says otherwise: 25 frames a second, no limits, and to publish. -/
def Knob.default? : Knob → Option Setting
  | fps => some (.number 25)
  | publish => some (.flag true)
  | frames | stallAfter | crashAfter => none

theorem setting?_ofSize (k : Knob) (width height : UInt32) :
    k.setting? (ofSize width height) = k.default? := by
  cases k <;> rfl

/-- A source is read from the parts of a URL exactly if the scheme is the one of synthetic sources, the
host is a size, and the query can be applied to a source of this size. -/
theorem ofParts_eq_ok_iff {source : String} {urlScheme : List Char} {host : Option String}
    {pairs : List (List Char × List Char)} {s : SyntheticSource} :
    ofParts source urlScheme host pairs = .ok s ↔
      urlScheme = scheme.toList ∧ ∃ h width height, host = some h ∧
        IsSize h.toList width.toNat height.toNat ∧ Applied pairs (ofSize width height) s := by
  unfold ofParts
  by_cases known : urlScheme = scheme.toList
  · rw [if_neg (not_not_intro known)]
    cases host with
    | none => simp
    | some h =>
        cases size : readSize? h.toList with
        | none =>
            have unsized := readSize?_eq_none_iff.1 size
            simp [size, unsized]
        | some dimensions =>
            obtain ⟨width, height⟩ := dimensions
            simp only [size, applyPairs_eq_ok_iff]
            constructor
            · intro applied
              exact ⟨known, h, width, height, rfl, readSize?_eq_some_iff_isSize.1 size, applied⟩
            · rintro ⟨-, h', width', height', same, size', applied⟩
              cases same
              rw [← readSize?_eq_some_iff_isSize, size] at size'
              cases size'
              exact applied
  · rw [if_pos known]
    simp [known]

/-- Whatever is no source is one for the first reason there is. -/
theorem ofParts_eq_error_iff {source : String} {urlScheme : List Char} {host : Option String}
    {pairs : List (List Char × List Char)} {e : SourceError} :
    ofParts source urlScheme host pairs = .error e ↔
      (urlScheme ≠ scheme.toList ∧ e = .unsupportedScheme (String.ofList urlScheme)) ∨
      urlScheme = scheme.toList ∧
        ((host = none ∧ e = .missingSize source) ∨
        (∃ h, host = some h ∧ (∀ width height, ¬ IsSize h.toList width height) ∧
          e = .badSize source h) ∨
        ((∃ h width height, host = some h ∧ IsSize h.toList width height) ∧
          ∃ before pair after, pairs = before ++ pair :: after ∧
            (∀ q ∈ before, Acceptable q) ∧ Refused source pair e)) := by
  unfold ofParts
  by_cases known : urlScheme = scheme.toList
  · rw [if_neg (not_not_intro known)]
    cases host with
    | none => simp [known, eq_comm]
    | some h =>
        cases size : readSize? h.toList with
        | none =>
            have unsized := readSize?_eq_none_iff.1 size
            simp [size, unsized, known, eq_comm]
        | some dimensions =>
            obtain ⟨width, height⟩ := dimensions
            have sized := readSize?_eq_some_iff_isSize.1 size
            simp only [size, applyPairs_eq_error_iff]
            constructor
            · intro failed
              exact .inr ⟨known, .inr (.inr ⟨⟨h, _, _, rfl, sized⟩, failed⟩)⟩
            · rintro (⟨other, -⟩ | ⟨-, ⟨missing, -⟩ | ⟨h', same, unsized, -⟩ | ⟨-, failed⟩⟩)
              · exact absurd known other
              · cases missing
              · cases same
                exact absurd sized (unsized _ _)
              · exact failed
  · rw [if_pos known]
    simp [known, eq_comm]

/-- A size is never empty and never greater than the greatest. -/
theorem frameLength_bounds {cs : List Char} {s : SyntheticSource}
    (size : IsSize cs s.width.toNat s.height.toNat) :
    3 ≤ s.frameLength ∧ s.frameLength ≤ 201326592 := by
  obtain ⟨-, -, -, -, -, -, -, -, ⟨wide, narrow⟩, high, low⟩ := size
  have least : 1 * 1 ≤ s.width.toNat * s.height.toNat := Nat.mul_le_mul wide high
  have greatest : s.width.toNat * s.height.toNat ≤ 8192 * 8192 := Nat.mul_le_mul narrow low
  rw [frameLength]
  omega

/-- **The grammar of sources.**  A URL, split into scheme, host and pairs, names a source exactly if its
scheme is the one, its host is a size and no pair has a bad value.  The source then has that size, and
each knob has its last value or its default; so pairs with unknown keys may be put in and taken out, and
neighbours with different keys may change places.  Otherwise the scheme, the host or the first bad pair
is named, whatever follows it. -/
theorem grammar_exact (source : String) (urlScheme : List Char) (host : Option String)
    (pairs : List (List Char × List Char)) :
    (∀ url, Url.parse source = .ok url →
      parse source = ofParts source url.scheme (url.host.map Url.Host.text) url.formPairs) ∧
    ((∃ s, ofParts source urlScheme host pairs = .ok s) ↔
      urlScheme = "test".toList ∧ (∃ h width height, host = some h ∧ IsSize h.toList width height) ∧
        ∀ pair ∈ pairs, Acceptable pair) ∧
    (∀ s, ofParts source urlScheme host pairs = .ok s →
      (∃ h, host = some h ∧ IsSize h.toList s.width.toNat s.height.toNat) ∧
      (∀ k : Knob, k.Shows pairs k.default? s) ∧
      s.frameLength = s.width.toNat * s.height.toNat * 3 ∧
      3 ≤ s.frameLength ∧ s.frameLength ≤ 201326592) ∧
    (∀ before pair after, pairs = before ++ pair :: after → ¬ Known pair.1 → ∀ source' s,
      ofParts source urlScheme host pairs = .ok s ↔
        ofParts source' urlScheme host (before ++ after) = .ok s) ∧
    (∀ before p q after, pairs = before ++ p :: q :: after → p.1 ≠ q.1 → ∀ source' s,
      ofParts source urlScheme host pairs = .ok s ↔
        ofParts source' urlScheme host (before ++ q :: p :: after) = .ok s) ∧
    (∀ e, ofParts source urlScheme host pairs = .error e ↔
      (urlScheme ≠ "test".toList ∧ e = .unsupportedScheme (String.ofList urlScheme)) ∨
      urlScheme = "test".toList ∧
        ((host = none ∧ e = .missingSize source) ∨
        (∃ h, host = some h ∧ (∀ width height, ¬ IsSize h.toList width height) ∧
          e = .badSize source h) ∨
        ((∃ h width height, host = some h ∧ IsSize h.toList width height) ∧
          ∃ before pair after, pairs = before ++ pair :: after ∧
            (∀ q ∈ before, Acceptable q) ∧ Refused source pair e))) := by
  refine ⟨fun url split => ?_, ⟨?_, ?_⟩, fun s read => ?_, ?_, ?_, fun e => ofParts_eq_error_iff⟩
  · rw [parse, split]
    rfl
  · rintro ⟨s, read⟩
    obtain ⟨known, h, width, height, same, size, applied⟩ := ofParts_eq_ok_iff.1 read
    exact ⟨known, ⟨h, _, _, same, size⟩, applied.acceptable⟩
  · rintro ⟨known, ⟨h, width, height, same, size⟩, acceptable⟩
    obtain ⟨w, l, read, rfl, rfl⟩ := exists_readSize? size
    obtain ⟨s, applied⟩ := exists_applyPairs source acceptable (ofSize w l)
    exact ⟨s, ofParts_eq_ok_iff.2
      ⟨known, h, w, l, same, size, applied_of_applyPairs applied⟩⟩
  · obtain ⟨-, h, width, height, same, size, applied⟩ := ofParts_eq_ok_iff.1 read
    have sized : IsSize h.toList s.width.toNat s.height.toNat := by
      rw [applied.width, applied.height]
      exact size
    refine ⟨⟨h, same, sized⟩, fun k => ?_, rfl, frameLength_bounds sized⟩
    rw [← setting?_ofSize k width height]
    exact applied.shows k
  · rintro before pair after rfl unknown source' s
    simp only [ofParts_eq_ok_iff, applied_insert_iff unknown]
  · rintro before p q after rfl apart source' s
    simp only [ofParts_eq_ok_iff, applied_swap_iff apart]

example : (parse "test://16X8?fps=1&id=2&publish=false&fps=50").toOption =
    some { ofSize 16 8 with fps := 50, publish := false } := by decide +kernel

end SyntheticSource

end FrameMux
