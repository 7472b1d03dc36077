/-
**The canonical form of a text.**

One text can be written in several ways: an accented letter alone, or the letter and the accent
after it, or two accents in either order.  The canonical form takes every character apart, puts
marks in the order of their classes, and joins what can be joined.  Korean syllables are taken apart
and joined by arithmetic, since their letters lie in the tables in order.

Main definitions:

* `FrameMux.Text.Canonical.syllableParts?`, `joinSyllable?` — Korean syllables;
* `FrameMux.Text.Canonical.decompose` — a character taken apart;
* `FrameMux.Text.Canonical.sortMarks` — marks in the order of their classes;
* `FrameMux.Text.Canonical.compose` — characters joined;
* `FrameMux.Text.canonical` — **the canonical form**.

Main results:

* `FrameMux.Text.Canonical.joinSyllable?_of_syllableParts?` — the parts of a syllable join to it;
* `FrameMux.Text.Canonical.sortMarks_perm` — sorting marks loses none;
* `FrameMux.Text.canonical_of_simple` — a text without code points from the first mark on is its own
  canonical form.
-/

import FrameMux.Text.Canonical.Classes
import FrameMux.Text.Canonical.Parts

set_option relaxedAutoImplicit false
set_option autoImplicit false

namespace FrameMux.Text

namespace Canonical

/-! ### Korean syllables -/

/-- The first syllable. -/
def firstSyllable : Nat := 0xac00

/-- The first leading consonant. -/
def firstLead : Nat := 0x1100

/-- The first vowel. -/
def firstVowel : Nat := 0x1161

/-- The code point before the first closing consonant. -/
def beforeTails : Nat := 0x11a7

/-- How many leading consonants there are. -/
def leadCount : Nat := 19

/-- How many vowels there are. -/
def vowelCount : Nat := 21

/-- How many ways there are to close a syllable, leaving it open included. -/
def tailCount : Nat := 28

/-- Whether a code point is a syllable. -/
def isSyllable (n : Nat) : Bool :=
  firstSyllable ≤ n && n < firstSyllable + leadCount * vowelCount * tailCount

/-- Whether a code point is an open syllable, one that ends in its vowel. -/
def isOpen (n : Nat) : Bool := isSyllable n && (n - firstSyllable) % tailCount = 0

/-- The two parts of a syllable: an open one is a consonant and a vowel, and a closed one an open
one and a consonant. -/
def syllableParts? (n : Nat) : Option (Nat × Nat) :=
  let i := n - firstSyllable
  if isOpen n then
    some (firstLead + i / (vowelCount * tailCount), firstVowel + i / tailCount % vowelCount)
  else if isSyllable n then some (n - i % tailCount, beforeTails + i % tailCount)
  else none

/-- The syllable that two parts join to. -/
def joinSyllable? (a b : Nat) : Option Nat :=
  if firstLead ≤ a ∧ a < firstLead + leadCount ∧ firstVowel ≤ b ∧ b < firstVowel + vowelCount then
    some (firstSyllable + ((a - firstLead) * vowelCount + (b - firstVowel)) * tailCount)
  else if isOpen a ∧ beforeTails < b ∧ b < beforeTails + tailCount then
    some (a + (b - beforeTails))
  else none

/-- What it takes for a code point to be an open syllable. -/
theorem isOpen_eq_true_iff {n : Nat} :
    isOpen n = true ↔ 0xac00 ≤ n ∧ n < 0xd7a4 ∧ (n - 0xac00) % 28 = 0 := by
  unfold isOpen isSyllable firstSyllable leadCount vowelCount tailCount
  rw [Bool.and_eq_true, Bool.and_eq_true, decide_eq_true_iff, decide_eq_true_iff,
    decide_eq_true_iff, and_assoc]

/-- What it takes for a code point to be a syllable. -/
theorem isSyllable_eq_true_iff {n : Nat} : isSyllable n = true ↔ 0xac00 ≤ n ∧ n < 0xd7a4 := by
  unfold isSyllable firstSyllable leadCount vowelCount tailCount
  rw [Bool.and_eq_true, decide_eq_true_iff, decide_eq_true_iff]

/-- The two parts of a syllable join to it. -/
theorem joinSyllable?_of_syllableParts? {n a b : Nat} (h : syllableParts? n = some (a, b)) :
    joinSyllable? a b = some n := by
  unfold syllableParts? at h
  split at h
  · -- An open syllable is a consonant and a vowel.
    rename_i opened
    have range := isOpen_eq_true_iff.1 opened
    obtain ⟨rfl, rfl⟩ := Prod.mk.inj (Option.some.inj h)
    unfold joinSyllable? firstLead firstVowel firstSyllable leadCount vowelCount tailCount
    exact (if_pos (by omega)).trans (congrArg some (by omega))
  · rename_i closed
    split at h
    · -- A closed syllable is an open one and a consonant.
      rename_i syllable
      have range := isSyllable_eq_true_iff.1 syllable
      have tail := mt isOpen_eq_true_iff.2 closed
      obtain ⟨rfl, rfl⟩ := Prod.mk.inj (Option.some.inj h)
      have start : isOpen (n - (n - firstSyllable) % tailCount) = true := by
        unfold firstSyllable tailCount
        exact isOpen_eq_true_iff.2 (by omega)
      unfold joinSyllable?
      refine (if_neg ?_).trans ((if_pos ⟨start, ?_⟩).trans (congrArg some ?_))
      · unfold firstLead leadCount firstSyllable tailCount
        omega
      · unfold firstSyllable tailCount beforeTails
        omega
      · unfold firstSyllable tailCount beforeTails
        omega
    · cases h

/-! ### Taking apart -/

/-- The parts of a character that is made of others. -/
def parts? (n : Nat) : Option (List Nat) :=
  match syllableParts? n with
  | some (a, b) => some [a, b]
  | none => (pairs.get? n).or (doubles.get? n)

/-- A character taken apart, and its parts as well, `depth` times. -/
def decomposeTo : Nat → Nat → List Nat
  | 0, n => [n]
  | depth + 1, n =>
      match parts? n with
      | some parts => parts.flatMap (decomposeTo depth)
      | none => [n]

/-- A character with three marks is taken apart three times. -/
def greatestDepth : Nat := 4

/-- A character taken apart. -/
def decompose (n : Nat) : List Nat := if n < 0x80 then [n] else decomposeTo greatestDepth n

/-! ### Sorting marks -/

/-- A code point with its class. -/
structure Classed where
  value : Nat
  rank : Nat
deriving DecidableEq, Repr

/-- A code point with the class that it has. -/
def Classed.of (n : Nat) : Classed := ⟨n, combiningClass n⟩

/-- Puts a character in front of sorted ones: a mark goes after the marks of lesser classes. -/
def insertMark (c : Classed) : List Classed → List Classed
  | [] => [c]
  | d :: rest =>
      if d.rank ≠ 0 ∧ d.rank < c.rank then d :: insertMark c rest else c :: d :: rest

/-- Every run of marks in the order of the classes, and in the order of the text within a class. -/
def sortMarks (cs : List Classed) : List Classed := cs.foldr insertMark []

/-- Putting a character in front loses none. -/
theorem insertMark_perm (c : Classed) (cs : List Classed) : (insertMark c cs).Perm (c :: cs) := by
  induction cs with
  | nil => exact .refl _
  | cons d rest ih =>
    unfold insertMark
    split
    · exact (ih.cons d).trans (.swap c d rest)
    · exact .refl _

/-- Sorting marks loses none. -/
theorem sortMarks_perm (cs : List Classed) : (sortMarks cs).Perm cs := by
  induction cs with
  | nil => exact .refl _
  | cons c rest ih => exact (insertMark_perm c _).trans (ih.cons c)

/-! ### Joining -/

/-- The character that two join to. -/
def join? (a b : Nat) : Option Nat := (joinSyllable? a b).or (pairs.source? [a, b])

/-- Whether a character cannot reach the one that it would join: a mark of its class or a greater
one stands between them. -/
def isBlocked (between : List Classed) (c : Classed) : Bool :=
  (between.head?.map fun d => decide (c.rank ≤ d.rank)).getD false

/-- Joins what follows to a character; `between` holds the marks after it that did not join, the
last one first. -/
def composeOnto (start : Nat) (between : List Classed) : List Classed → List Nat
  | [] => start :: between.reverse.map Classed.value
  | c :: rest =>
      match if isBlocked between c then none else join? start c.value with
      | some joined => composeOnto joined between rest
      | none =>
          if c.rank = 0 then
            (start :: between.reverse.map Classed.value) ++ composeOnto c.value [] rest
          else composeOnto start (c :: between) rest

/-- Joins what can be joined; marks without a character before them stay as they are. -/
def compose : List Classed → List Nat
  | [] => []
  | c :: rest => if c.rank = 0 then composeOnto c.value [] rest else c.value :: compose rest

end Canonical

/-! ### The canonical form -/

/-- Whether a text has no code point from the first mark on. -/
def isSimple (cs : List Char) : Bool := cs.all fun c => c.toNat < Canonical.firstMark

/-- The canonical form of a text. -/
def canonical (cs : List Char) : List Char :=
  -- Letters before the first mark stay together, and there is nothing else to join.
  if isSimple cs then cs
  else
    let apart := (cs.flatMap fun c => Canonical.decompose c.toNat).map Canonical.Classed.of
    (Canonical.compose (Canonical.sortMarks apart)).map Char.ofNat

/-- A text without code points from the first mark on is its own canonical form. -/
theorem canonical_of_simple {cs : List Char} (h : isSimple cs = true) : canonical cs = cs := by
  simp [canonical, h]

end FrameMux.Text
