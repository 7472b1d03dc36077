/-
**Tables of code points.**

Whether a character can be seen, whether it is a mark, or in which direction it is written is a
matter of tables.  A table lists ranges of code points in increasing order.  It is written as lines
of words: the word `a8` stands for one code point, in hexadecimal digits, and the word `80-a0` for
all code points from the first to the last.  The tables of this library follow Unicode 17.

Main definitions:

* `FrameMux.Text.words` — the words of a text;
* `FrameMux.Text.hexNumber` — the value of hexadecimal digits;
* `FrameMux.Text.CodePoints` — a table, with `FrameMux.Text.CodePoints.holds`;
* `FrameMux.Text.CodePoints.ofLines` — **a table from its written form**.

Main results:

* `FrameMux.Text.CodePoints.holds_append` — a table in two pieces holds what one of them holds;
* `FrameMux.Text.CodePoints.holds_eq_true_iff` — a table holds the code points of its ranges.
-/

import FrameMux.Text.Blank
import FrameMux.Text.Unsigned

set_option relaxedAutoImplicit false
set_option autoImplicit false

namespace FrameMux.Text

/-! ### Words -/

/-- The words of a text, which stand between blanks. -/
def words (line : String) : List (List Char) :=
  (splitAll isBlank line.toList).filter fun word => !word.isEmpty

/-- The value of hexadecimal digits. -/
def hexNumber (cs : List Char) : Nat := cs.foldl (fun acc c => acc * 16 + (hexValue? c).getD 0) 0

/-- The first and the last code point of a range. -/
def readRange (cs : List Char) : Nat × Nat :=
  match splitFirst? (· == '-') cs with
  | some (first, last) => (hexNumber first, hexNumber last)
  | none => (hexNumber cs, hexNumber cs)

/-! ### Tables -/

/-- Ranges of code points, both ends included. -/
abbrev CodePoints := List (Nat × Nat)

namespace CodePoints

/-- Whether a code point lies in one of the ranges. -/
def holds (table : CodePoints) (n : Nat) : Bool := table.any fun range => range.1 ≤ n && n ≤ range.2

/-- The table that is written in some lines. -/
def ofLines (lines : List String) : CodePoints :=
  lines.flatMap fun line => (words line).map readRange

example : ofLines ["41-5a 61", "aa"] = [(0x41, 0x5a), (0x61, 0x61), (0xaa, 0xaa)] := by
  decide +kernel

/-- A table in two pieces holds what one of them holds. -/
theorem holds_append (a b : CodePoints) (n : Nat) :
    holds (a ++ b) n = (a.holds n || b.holds n) := List.any_append

/-- A table holds exactly the code points of its ranges. -/
theorem holds_eq_true_iff {table : CodePoints} {n : Nat} :
    table.holds n = true ↔ ∃ range ∈ table, range.1 ≤ n ∧ n ≤ range.2 := by
  simp [holds]

end CodePoints

end FrameMux.Text
