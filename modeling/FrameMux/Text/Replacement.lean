/-
**Tables of replacements.**

A replacement says which characters stand in for the characters of a range.  It is written as a
word: `c4=e4` replaces one code point, `fb00=66+66` replaces one by two, `41-5a=61` replaces each
code point of a range by the one that lies as far after the target as it lies after the start of the
range, and `100~12e=101` does so for every second code point.

Main definitions:

* `FrameMux.Text.Replacement` — one replacement, with `FrameMux.Text.Replacement.read?`;
* `FrameMux.Text.Replacements` — a table, with `FrameMux.Text.Replacements.ofLines`;
* `FrameMux.Text.Replacements.get?` — **what a code point is replaced by**.
-/

import FrameMux.Text.CodePoints

set_option relaxedAutoImplicit false
set_option autoImplicit false

namespace FrameMux.Text

/-- The characters that stand in for the code points of a range: `target` for the first one, and a
target moved on for each later one at a whole number of steps. -/
structure Replacement where
  first : Nat
  last : Nat
  step : Nat
  target : List Nat
deriving DecidableEq, Repr

namespace Replacement

/-- Whether a code point is replaced. -/
def covers (r : Replacement) (n : Nat) : Bool :=
  r.first ≤ n && n ≤ r.last && (n - r.first) % r.step = 0

/-- What a code point that is covered is replaced by. -/
def apply (r : Replacement) (n : Nat) : List Nat := r.target.map (· + (n - r.first))

/-- Reads a word. -/
def read? (cs : List Char) : Option Replacement :=
  (splitFirst? (· == '=') cs).map fun (source, target) =>
    let target := (splitAll (· == '+') target).map hexNumber
    match splitFirst? (· == '~') source with
    | some (first, last) => ⟨hexNumber first, hexNumber last, 2, target⟩
    | none => ⟨(readRange source).1, (readRange source).2, 1, target⟩

example : read? "100~12e=101".toList = some ⟨0x100, 0x12e, 2, [0x101]⟩ := by decide +kernel

end Replacement

/-- A table of replacements. -/
abbrev Replacements := List Replacement

namespace Replacements

/-- The table that is written in some lines. -/
def ofLines (lines : List String) : Replacements :=
  lines.flatMap fun line => (words line).filterMap Replacement.read?

/-- What a code point is replaced by, if it is replaced. -/
def get? (table : Replacements) (n : Nat) : Option (List Nat) :=
  (table.find? (·.covers n)).map (·.apply n)

/-- The code point that is replaced by a list of others. -/
def source? (table : Replacements) (target : List Nat) : Option Nat :=
  (table.find? (·.target = target)).map Replacement.first

example : get? (ofLines ["41-5a=61", "fb00=66+66"]) 0x43 = some [0x63] := by decide +kernel
example : get? (ofLines ["41-5a=61", "fb00=66+66"]) 0xfb00 = some [0x66, 0x66] := by decide +kernel
example : get? (ofLines ["100~12e=101"]) 0x103 = none := by decide +kernel

end Replacements

end FrameMux.Text
