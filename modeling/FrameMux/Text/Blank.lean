/-
**White space, trimming and splitting.**

A source assignment such as `3 = rtsp://camera` may carry white space on either side of its equals
sign.  White space here is the Unicode property of that name, which is wider than the ASCII blanks
and excludes the zero-width space.

Main definitions:

* `FrameMux.Text.isBlank` — the characters with the property `White_Space`;
* `FrameMux.Text.trim` — a text without white space at its ends;
* `FrameMux.Text.splitFirst?` — the two sides of the first character that satisfies a test.

Main results:

* `FrameMux.Text.splitFirst?_eq_some` — a split is a decomposition at the first hit;
* `FrameMux.Text.splitFirst?_eq_none_iff` — there is no split exactly when nothing satisfies the
  test;
* `FrameMux.Text.trim_eq_self` — trimming keeps a text without blanks at its ends.
-/

set_option relaxedAutoImplicit false
set_option autoImplicit false

namespace FrameMux.Text

/-! ### White space -/

/-- A character with the Unicode property `White_Space`. -/
def isBlank (c : Char) : Bool :=
  let n := c.toNat
  (0x9 ≤ n && n ≤ 0xd) || n = 0x20 || n = 0x85 || n = 0xa0 || n = 0x1680
    || (0x2000 ≤ n && n ≤ 0x200a) || n = 0x2028 || n = 0x2029 || n = 0x202f || n = 0x205f
    || n = 0x3000

/-- The text without its leading white space. -/
def trimLeft (cs : List Char) : List Char := cs.dropWhile isBlank

/-- The text without its trailing white space. -/
def trimRight (cs : List Char) : List Char := (cs.reverse.dropWhile isBlank).reverse

/-- The text without white space at its ends. -/
def trim (cs : List Char) : List Char := trimRight (trimLeft cs)

example : trim [' ', '5', ' ', 'a', '\t'] = ['5', ' ', 'a'] := by decide
example : isBlank (Char.ofNat 0x200b) = false := by decide

/-- A text that starts and ends with something else than white space is its own trimming. -/
theorem trim_eq_self (cs : List Char) (first : ∀ c ∈ cs.head?, isBlank c = false)
    (last : ∀ c ∈ cs.getLast?, isBlank c = false) : trim cs = cs := by
  have keep : ∀ l : List Char, (∀ c ∈ l.head?, isBlank c = false) → l.dropWhile isBlank = l := by
    intro l h
    cases l with
    | nil => rfl
    | cons c rest => simp [h c (by simp)]
  unfold trim trimRight trimLeft
  rw [keep cs first, keep cs.reverse (by simpa using last), List.reverse_reverse]

/-! ### Splitting -/

/-- What stands before and after the first character that satisfies `test`. -/
def splitFirst? (test : Char → Bool) : List Char → Option (List Char × List Char)
  | [] => none
  | c :: rest =>
      if test c then some ([], rest)
      else (splitFirst? test rest).map fun (before, after) => (c :: before, after)

/-- A split decomposes the text at a character that satisfies the test, none before it doing so. -/
theorem splitFirst?_eq_some {test : Char → Bool} {cs before after : List Char}
    (h : splitFirst? test cs = some (before, after)) :
    ∃ c, cs = before ++ c :: after ∧ test c = true ∧ ∀ d ∈ before, test d = false := by
  induction cs generalizing before with
  | nil => simp [splitFirst?] at h
  | cons c rest ih =>
    unfold splitFirst? at h
    by_cases hit : test c = true
    · simp [hit] at h
      obtain ⟨rfl, rfl⟩ := h
      exact ⟨c, rfl, hit, by simp⟩
    · simp only [hit] at h
      obtain ⟨⟨b, a⟩, found, same⟩ := Option.map_eq_some_iff.1 h
      obtain ⟨rfl, rfl⟩ := Prod.mk.inj same
      obtain ⟨d, split, hd, before'⟩ := ih found
      refine ⟨d, by simp [split], hd, ?_⟩
      intro x hx
      rcases List.mem_cons.1 hx with rfl | hx
      · simpa using hit
      · exact before' x hx

/-- Splitting at the first hit undoes joining at it. -/
theorem splitFirst?_append {test : Char → Bool} {before after : List Char} {c : Char}
    (hit : test c = true) (miss : ∀ d ∈ before, test d = false) :
    splitFirst? test (before ++ c :: after) = some (before, after) := by
  induction before with
  | nil => simp [splitFirst?, hit]
  | cons d rest ih =>
    simp [splitFirst?, miss d (by simp), ih fun x hx => miss x (by simp [hx])]

/-- There is no split exactly when no character satisfies the test. -/
theorem splitFirst?_eq_none_iff {test : Char → Bool} {cs : List Char} :
    splitFirst? test cs = none ↔ ∀ c ∈ cs, test c = false := by
  induction cs with
  | nil => simp [splitFirst?]
  | cons c rest ih => by_cases hit : test c = true <;> simp [splitFirst?, hit, ih]

/-- The pieces between the characters that satisfy `test`, the empty ones included. -/
def splitAll (test : Char → Bool) : List Char → List (List Char)
  | [] => [[]]
  | c :: rest =>
      match splitAll test rest with
      | [] => [[c]]
      | piece :: pieces => if test c then [] :: piece :: pieces else (c :: piece) :: pieces

example : splitAll (· == '.') ['1', '.', '.'] = [['1'], [], []] := by decide

end FrameMux.Text
