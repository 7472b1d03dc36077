/-
**Which texts assign a source.**

On the command line a source is written `ID=URL`, with white space allowed around either part.  The
reader splits, trims and converts one after the other, and a URL may itself hold equals signs, so what
it accepts is not to be seen from any one of its steps.  This module gives the grammar of assignments
without the reader: the number stands before the first equals sign, everything behind it is the URL,
and what is trimmed off is exactly the white space at the ends.

Main definitions:

* `FrameMux.Text.Trims` — a text without the white space at its ends;
* `FrameMux.Source.Spelled` — **a text spells a source**;
* `FrameMux.Source.Misspelled` — what is wrong with a text that spells none.

Main results:

* `FrameMux.Text.trim_eq_iff` — trimming is by the grammar;
* `FrameMux.Text.unsignedNumeral_toString` — the decimal text of a number is a numeral of it;
* `FrameMux.Source.assignment_exact` — **the grammar of assignments**.
-/

import FrameMux.Error
import Mathlib.Data.List.Basic
import Mathlib.Data.List.TakeWhile

set_option relaxedAutoImplicit false
set_option autoImplicit false

namespace FrameMux

namespace Text

/-! ### White space at the ends -/

/-- A text without the white space at its ends: nothing but white space is taken away, and none is left
at either end. -/
structure Trims (cs core : List Char) : Prop where
  around : ∃ before after, cs = before ++ core ++ after ∧ (∀ c ∈ before, isBlank c = true) ∧
    ∀ c ∈ after, isBlank c = true
  first : ∀ c ∈ core.head?, isBlank c = false
  last : ∀ c ∈ core.getLast?, isBlank c = false

/-- What is left once leading white space is gone does not start with any. -/
theorem isBlank_head?_dropWhile (cs : List Char) :
    ∀ c ∈ (cs.dropWhile isBlank).head?, isBlank c = false := by
  intro c first
  have found := List.head?_dropWhile_not isBlank cs
  rw [Option.mem_def.1 first] at found
  simpa using found

/-- A text without white space at its ends loses nothing. -/
theorem trims_self {cs : List Char} (first : ∀ c ∈ cs.head?, isBlank c = false)
    (last : ∀ c ∈ cs.getLast?, isBlank c = false) : Trims cs cs :=
  ⟨⟨[], [], by simp, by simp, by simp⟩, first, last⟩

/-- Trimming leaves a text without the white space at its ends. -/
theorem trims_trim (cs : List Char) : Trims cs (trim cs) := by
  have left : cs.takeWhile isBlank ++ trimLeft cs = cs := List.takeWhile_append_dropWhile
  have right : trim cs ++ ((trimLeft cs).reverse.takeWhile isBlank).reverse = trimLeft cs := by
    rw [trim, trimRight, ← List.reverse_append, List.takeWhile_append_dropWhile,
      List.reverse_reverse]
  refine ⟨⟨cs.takeWhile isBlank, ((trimLeft cs).reverse.takeWhile isBlank).reverse, ?_,
    fun c blank => List.mem_takeWhile_imp blank,
    fun c blank => List.mem_takeWhile_imp (List.mem_reverse.1 blank)⟩, ?_, ?_⟩
  · rw [List.append_assoc, right, left]
  · intro c first
    refine isBlank_head?_dropWhile cs c ?_
    show c ∈ (trimLeft cs).head?
    rw [← right, List.head?_append, Option.mem_def.1 first]
    rfl
  · intro c last
    refine isBlank_head?_dropWhile (trimLeft cs).reverse c ?_
    rwa [trim, trimRight, List.getLast?_reverse] at last

/-- Leading white space is dropped. -/
theorem trimLeft_append {before : List Char} (blank : ∀ c ∈ before, isBlank c = true)
    (cs : List Char) : trimLeft (before ++ cs) = trimLeft cs :=
  List.dropWhile_append_of_pos blank

/-- Trailing white space is dropped. -/
theorem trimRight_append {after : List Char} (blank : ∀ c ∈ after, isBlank c = true)
    (cs : List Char) : trimRight (cs ++ after) = trimRight cs := by
  rw [trimRight, List.reverse_append,
    List.dropWhile_append_of_pos fun c inside => blank c (List.mem_reverse.1 inside)]
  rfl

/-- A text without the white space at its ends is what trimming leaves. -/
theorem Trims.trim_eq {cs core : List Char} (h : Trims cs core) : trim cs = core := by
  obtain ⟨⟨before, after, rfl, leading, trailing⟩, first, last⟩ := h
  rw [trim, List.append_assoc, trimLeft_append leading]
  cases core with
  | nil =>
      have gone : trimLeft after = [] := List.dropWhile_eq_nil_iff.2 trailing
      rw [List.nil_append, gone]
      rfl
  | cons c rest =>
      have kept : ∀ tail, trimLeft (c :: tail) = c :: tail := fun tail =>
        List.dropWhile_cons_of_neg (by simp [first c rfl])
      have alone := trim_eq_self (c :: rest) first last
      rw [trim, kept] at alone
      rw [List.cons_append, kept, ← List.cons_append, trimRight_append trailing, alone]

/-- **Trimming is by the grammar.** -/
theorem trim_eq_iff {cs core : List Char} : trim cs = core ↔ Trims cs core :=
  ⟨fun h => h ▸ trims_trim cs, Trims.trim_eq⟩

/-! ### Numbers and their numerals -/

theorem digitValue?_of_isDigit {c : Char} (h : c.isDigit = true) :
    digitValue? c = some (c.toNat - '0'.toNat) :=
  if_pos (Char.isDigit_iff_toNat.1 h)

/-- A digit is neither white space nor an equals sign. -/
theorem isBlank_of_isDigit {c : Char} (h : c.isDigit = true) : isBlank c = false ∧ c ≠ '=' := by
  have range : 48 ≤ c.toNat ∧ c.toNat ≤ 57 := Char.isDigit_iff_toNat.1 h
  refine ⟨?_, fun same => ?_⟩
  · simp only [isBlank, Bool.or_eq_false_iff, Bool.and_eq_false_iff, decide_eq_false_iff_not]
    omega
  · subst same
    exact absurd range (by decide)

/-- The value of digits is the standard one. -/
theorem digitsValue_eq {cs : List Char} (digits : ∀ c ∈ cs, c.isDigit = true) :
    digitsValue cs = Nat.ofDigitChars 10 cs 0 := by
  rw [digitsValue, Nat.ofDigitChars_eq_foldl]
  refine List.foldl_ext _ _ _ fun acc c inside => ?_
  rw [digitValue?_of_isDigit (digits c inside), Option.getD_some, Nat.mul_comm]

/-- The decimal text of a number consists of digits. -/
theorem isDigit_of_mem_toString {n : Nat} {c : Char} (inside : c ∈ (toString n).toList) :
    c.isDigit = true := by
  rw [Nat.toString_eq_ofList_toDigits, String.toList_ofList] at inside
  exact Nat.isDigit_of_mem_toDigits (by decide) (by decide) inside

/-- The decimal text of a number is a numeral of it. -/
theorem unsignedNumeral_toString (n : Nat) : UnsignedNumeral (toString n).toList n := by
  have digits : ∀ c ∈ (toString n).toList, c.isDigit = true := fun c => isDigit_of_mem_toString
  refine ⟨_, Or.inl rfl, ?_, fun c inside => ?_, ?_⟩
  · rw [Nat.toString_eq_ofList_toDigits, String.toList_ofList]
    exact Nat.toDigits_ne_nil
  · rw [isDigit, digitValue?_of_isDigit (digits c inside)]
    rfl
  · rw [digitsValue_eq digits, Nat.toString_eq_ofList_toDigits, String.toList_ofList,
      Nat.ofDigitChars_ten_toDigits]

end Text

namespace Source

open FrameMux.Text

/-! ### Assignments -/

/-- A text spells a source: before its first equals sign stands a numeral of the source's number, and
behind it the source's URL, which is not empty; either may have white space around it. -/
def Spelled (text : String) (s : Source) : Prop :=
  ∃ l r number, text.toList = l ++ '=' :: r ∧ '=' ∉ l ∧ Trims l number ∧
    UnsignedNumeral number s.id.toNat ∧ Trims r s.url.toList ∧ s.url ≠ ""

/-- What is wrong with a text: it has no equals sign, what stands before the first one is not a numeral
of a 32-bit number, or nothing but white space stands behind it. -/
def Misspelled (text : String) : AssignmentError → Prop
  | .noEquals whole => whole = text ∧ '=' ∉ text.toList
  | .badNumber before _ =>
      ∃ r number, text.toList = before.toList ++ '=' :: r ∧ '=' ∉ before.toList ∧
        Trims before.toList number ∧ ∀ n, UnsignedNumeral number n → UInt32.size ≤ n
  | .emptyUrl id =>
      ∃ l r number, text.toList = l ++ '=' :: r ∧ '=' ∉ l ∧ Trims l number ∧
        UnsignedNumeral number id.toNat ∧ ∀ c ∈ r, isBlank c = true

/-- A text is split at its first equals sign. -/
theorem splitFirst?_equals_iff {cs l r : List Char} :
    splitFirst? (· == '=') cs = some (l, r) ↔ cs = l ++ '=' :: r ∧ '=' ∉ l := by
  constructor
  · intro split
    obtain ⟨c, rfl, hit, miss⟩ := splitFirst?_eq_some split
    obtain rfl : c = '=' := by simpa using hit
    exact ⟨rfl, fun inside => by simpa using miss _ inside⟩
  · rintro ⟨rfl, absent⟩
    refine splitFirst?_append (by simp) fun c inside => ?_
    simpa using fun same : c = '=' => absent (same ▸ inside)

/-- A text assigns a source exactly if it spells it. -/
theorem ofAssignment_eq_ok_iff_spelled {text : String} {s : Source} :
    ofAssignment text = .ok s ↔ Spelled text s := by
  rw [ofAssignment_eq_ok_iff]
  constructor
  · rintro ⟨l, r, split, read, full, same⟩
    obtain ⟨parts, absent⟩ := splitFirst?_equals_iff.1 split
    refine ⟨l, r, trim l, parts, absent, trims_trim l, readU32_eq_ok_iff.1 read, ?_, ?_⟩
    · rw [same, String.toList_ofList]
      exact trims_trim r
    · intro empty
      rw [empty] at same
      exact full (by simpa using congrArg String.toList same.symm)
  · rintro ⟨l, r, number, parts, absent, trimmed, numeral, url, full⟩
    refine ⟨l, r, splitFirst?_equals_iff.2 ⟨parts, absent⟩, ?_, ?_, ?_⟩
    · rw [trimmed.trim_eq]
      exact readU32_eq_ok_iff.2 numeral
    · rw [url.trim_eq]
      exact fun empty => full (String.toList_inj.1 empty)
    · rw [url.trim_eq, String.ofList_toList]

/-- A text that assigns nothing is misspelled in the way that is reported. -/
theorem misspelled_of_ofAssignment {text : String} {cause : AssignmentError}
    (refused : ofAssignment text = .error cause) : Misspelled text cause := by
  unfold ofAssignment at refused
  split at refused
  · next unsplit =>
      cases refused
      have absent := splitFirst?_eq_none_iff.1 unsplit
      exact ⟨rfl, fun inside => by simpa using absent _ inside⟩
  · next l r split =>
      obtain ⟨parts, absent⟩ := splitFirst?_equals_iff.1 split
      split at refused
      · next fault read =>
          cases refused
          rw [Misspelled, String.toList_ofList]
          exact ⟨r, trim l, parts, absent, trims_trim l,
            fun n numeral => size_le_of_readU32_eq_error read numeral⟩
      · next id read =>
          split at refused
          · next empty =>
              cases refused
              refine ⟨l, r, trim l, parts, absent, trims_trim l, readU32_eq_ok_iff.1 read, ?_⟩
              obtain ⟨⟨before, after, whole, leading, trailing⟩, -, -⟩ :=
                trim_eq_iff.1 (List.isEmpty_iff.1 empty)
              rw [whole, List.append_nil]
              intro c inside
              exact (List.mem_append.1 inside).elim (leading c) (trailing c)
          · cases refused

/-- The decimal text of a number, an equals sign and a URL without white space at its ends spell the
source with that number and URL. -/
theorem spelled_of_parts (id : UInt32) {url : String} (full : url ≠ "")
    (first : ∀ c ∈ url.toList.head?, isBlank c = false)
    (last : ∀ c ∈ url.toList.getLast?, isBlank c = false) :
    Spelled (toString id.toNat ++ "=" ++ url) ⟨id, url⟩ := by
  have plain : ∀ c ∈ (toString id.toNat).toList, isBlank c = false ∧ c ≠ '=' :=
    fun c inside => isBlank_of_isDigit (isDigit_of_mem_toString inside)
  refine ⟨(toString id.toNat).toList, url.toList, (toString id.toNat).toList, by simp,
    fun inside => (plain _ inside).2 rfl, ?_, unsignedNumeral_toString _, trims_self first last, full⟩
  exact trims_self (fun c inside => (plain c (List.mem_of_mem_head? inside)).1)
    fun c inside => (plain c (List.mem_of_mem_getLast? inside)).1

/-- **The grammar of assignments.**  A text assigns a source exactly if it spells it, and every other
text is refused as a configuration error that says what is wrong with it.  In particular a number in
decimal, an equals sign and a URL that is neither empty nor bounded by white space assign that number
and that URL, whatever else is in the URL. -/
theorem assignment_exact :
    (∀ text s, ofArgument text = .ok s ↔ Spelled text s) ∧
    (∀ text, (∀ s, ¬ Spelled text s) ↔
      ∃ cause, ofArgument text = .error (.configuration (.assignment cause)) ∧
        Misspelled text cause) ∧
    ∀ (id : UInt32) (url : String), url ≠ "" → (∀ c ∈ url.toList.head?, isBlank c = false) →
      (∀ c ∈ url.toList.getLast?, isBlank c = false) →
      ofArgument (toString id.toNat ++ "=" ++ url) = .ok ⟨id, url⟩ := by
  have accepted : ∀ text s, ofArgument text = .ok s ↔ Spelled text s := by
    intro text s
    rw [← ofAssignment_eq_ok_iff_spelled]
    unfold ofArgument
    cases ofAssignment text <;> simp [Except.mapError]
  refine ⟨accepted, fun text => ⟨fun unspelled => ?_, ?_⟩, ?_⟩
  · cases read : ofAssignment text with
    | ok s => exact absurd (ofAssignment_eq_ok_iff_spelled.1 read) (unspelled s)
    | error cause =>
        refine ⟨cause, ?_, misspelled_of_ofAssignment read⟩
        rw [ofArgument, read]
        rfl
  · rintro ⟨cause, refused, -⟩ s spelled
    rw [(accepted text s).2 spelled] at refused
    cases refused
  · intro id url full first last
    exact (accepted _ _).2 (spelled_of_parts id full first last)

/-- A URL with white space and equals signs of its own is assigned as it is. -/
theorem assignment_exact_rehearsed :
    (∀ c ∈ "rtsp://camera/live?a=1&b=x y=".toList.head?, isBlank c = false) ∧
    (∀ c ∈ "rtsp://camera/live?a=1&b=x y=".toList.getLast?, isBlank c = false) ∧
    ofArgument "7=rtsp://camera/live?a=1&b=x y=" = .ok ⟨7, "rtsp://camera/live?a=1&b=x y="⟩ := by
  have first : ∀ c ∈ "rtsp://camera/live?a=1&b=x y=".toList.head?, isBlank c = false := by
    have head : "rtsp://camera/live?a=1&b=x y=".toList.head? = some 'r' := by decide +kernel
    rw [head]
    rintro c ⟨⟩
    decide +kernel
  have last : ∀ c ∈ "rtsp://camera/live?a=1&b=x y=".toList.getLast?, isBlank c = false := by
    have tail : "rtsp://camera/live?a=1&b=x y=".toList.getLast? = some '=' := by decide +kernel
    rw [tail]
    rintro c ⟨⟩
    decide +kernel
  have whole : "7=rtsp://camera/live?a=1&b=x y=" =
      toString (7 : UInt32).toNat ++ "=" ++ "rtsp://camera/live?a=1&b=x y=" := by
    decide +kernel
  refine ⟨first, last, ?_⟩
  rw [whole]
  exact assignment_exact.2.2 7 _ (by decide) first last

example : ofArgument "\u00a0+7 = rtsp://camera\t" = .ok ⟨7, "rtsp://camera"⟩ := by decide +kernel

end Source

end FrameMux
