/-
**Punycode.**

A part of a host name that holds characters beyond ASCII travels as ASCII text: its ASCII
characters, a hyphen, and then a sequence of numbers.  Each number says how far to go, through all
positions of the text so far and all code points, until the next character is inserted.  The numbers
are written with the digits `a` to `z` and `0` to `9`, the least significant digit first, and how
many digits a number has is seen from its digits against a threshold that adapts to the numbers so
far.  All positions and all weights of digits have to fit a 32-bit word.

Main definitions:

* `FrameMux.Url.Punycode.readDelta?` — one number and the rest of the digits;
* `FrameMux.Url.Punycode.decode?` — **the text** of a part of a name.

Main results:

* `FrameMux.Url.Punycode.length_readDelta?_lt` — a number takes up at least one digit.
-/

import FrameMux.Text.Blank

set_option relaxedAutoImplicit false
set_option autoImplicit false

namespace FrameMux.Url.Punycode

open FrameMux.Text

/-- The radix of the numbers. -/
def radix : Nat := 36

/-- The value of a digit. -/
def digit? (c : Char) : Option Nat :=
  if 'a' ≤ c ∧ c ≤ 'z' then some (c.toNat - 'a'.toNat)
  else if '0' ≤ c ∧ c ≤ '9' then some (c.toNat - '0'.toNat + 26)
  else none

/-- The least value of a digit at a position that is not the last digit of its number. -/
def threshold (position bias : Nat) : Nat := min 26 (max 1 (position - bias))

/-- Reads one number; `position` counts in steps of the radix, `weight` is what a digit here is
worth. -/
def readDelta? (bias : Nat) : Nat → Nat → Nat → List Char → Option (Nat × List Char)
  | _, _, _, [] => none
  | position, weight, value, c :: rest =>
      match digit? c with
      | none => none
      | some d =>
          let value := value + d * weight
          let least := threshold position bias
          if d < least then some (value, rest)
          else if weight * (radix - least) < UInt32.size then
            readDelta? bias (position + radix) (weight * (radix - least)) value rest
          else none

/-- A number takes up at least one digit. -/
theorem length_readDelta?_lt {bias position weight value delta : Nat} {cs rest : List Char}
    (h : readDelta? bias position weight value cs = some (delta, rest)) :
    rest.length < cs.length := by
  fun_induction readDelta? bias position weight value cs with
  | case1 => simp at h
  | case2 => simp at h
  | case3 =>
    simp only [Option.some.injEq, Prod.mk.injEq] at h
    rw [← h.2]
    exact Nat.lt_succ_self _
  | case4 _ _ _ _ _ _ _ _ _ _ _ ih => exact Nat.lt_succ_of_lt (ih h)
  | case5 => simp at h

/-- Brings a number down to the size that thresholds are for; `fuel` bounds the divisions. -/
def settle : Nat → Nat → Nat → Nat × Nat
  | 0, delta, steps => (delta, steps)
  | fuel + 1, delta, steps =>
      if 455 < delta then settle fuel (delta / 35) (steps + radix) else (delta, steps)

/-- The bias after a number that was read for a text of `length` characters. -/
def adapt (delta length : Nat) (isFirst : Bool) : Nat :=
  let halved := if isFirst then delta / 700 else delta / 2
  let spread := halved + halved / length
  let (rest, steps) := settle spread spread 0
  steps + radix * rest / (rest + 38)

/-- Where the decoding stands: the text so far, the next code point and the next position. -/
structure Progress where
  text : List Char
  codePoint : Nat
  position : Nat
  bias : Nat
  isFirst : Bool
deriving Repr

/-- A code point as a character, if it is one beyond ASCII. -/
def character? (n : Nat) : Option Char :=
  if h : n.isValidChar then if n < 0x80 then none else some (Char.ofNatAux n h) else none

/-- Inserts the character that a number leads to. -/
def insert? (p : Progress) (delta : Nat) : Option Progress :=
  let places := p.text.length + 1
  let reached := p.position + delta
  if UInt32.size ≤ reached then none
  else (character? (p.codePoint + reached / places)).map fun c =>
    { text := p.text.take (reached % places) ++ c :: p.text.drop (reached % places)
      codePoint := p.codePoint + reached / places
      position := reached % places + 1
      bias := adapt delta places p.isFirst
      isFirst := false }

/-- Inserts a character for every number. -/
def insertAll? (p : Progress) (cs : List Char) : Option (List Char) :=
  match cs with
  | [] => some p.text
  | c :: more =>
      match h : readDelta? p.bias radix 1 0 (c :: more) with
      | none => none
      | some (delta, rest) =>
          have : rest.length < (c :: more).length := length_readDelta?_lt h
          match insert? p delta with
          | none => none
          | some p => insertAll? p rest
termination_by cs.length
decreasing_by exact this

/-- The ASCII characters and the digits of the numbers, parted at the last hyphen. -/
def splitDigits (cs : List Char) : List Char × List Char :=
  match splitFirst? (· == '-') cs.reverse with
  | some (digits, text) => if text.isEmpty then ([], cs) else (text.reverse, digits.reverse)
  | none => ([], cs)

/-- The text that a part of a name stands for. -/
def decode? (cs : List Char) : Option (List Char) :=
  let (text, digits) := splitDigits cs
  insertAll? ⟨text, 0x80, 0, 72, true⟩ digits

example : decode? "mnchen-3ya".toList = some "münchen".toList := by decide +kernel
example : decode? "wgv71a119e".toList = some "日本語".toList := by decide +kernel
example : decode? "a".toList = some [Char.ofNat 0x80] := by decide +kernel
example : decode? "zz".toList = none := by decide +kernel

end FrameMux.Url.Punycode
