/-
**Reading decimal numbers.**

On the command line a number of seconds is written as a decimal: a sign, digits with a point among
them, and an exponent, each of the parts optional but for one digit; or as the name of an infinity
or of no number, in any case of letters.  The result is the nearest binary64 number.

Main definitions:

* `FrameMux.DecimalParts` — the digits and the exponent of a decimal;
* `FrameMux.readParts?` — the grammar without the sign;
* `FrameMux.Binary64.read?` — **the reader**.
-/

import FrameMux.Binary64.Basic
import FrameMux.Text.Unsigned

set_option relaxedAutoImplicit false
set_option autoImplicit false

namespace FrameMux

open FrameMux.Text

/-- The digits of a decimal as a natural, their number, and the power of ten. -/
structure DecimalParts where
  digits : Nat
  count : Nat
  exponent : Int
deriving DecidableEq, Repr

/-- An exponent behind its mark: an optional sign and digits. -/
def readExponent? (cs : List Char) : Option Int :=
  let (negative, digits) := match cs with
    | '+' :: rest => (false, rest)
    | '-' :: rest => (true, rest)
    | rest => (false, rest)
  if digits.isEmpty || !digits.all isDigit then none
  else some (if negative then -(digitsValue digits : Int) else digitsValue digits)

/-- A decimal without a sign. -/
def readParts? (cs : List Char) : Option DecimalParts :=
  let whole := cs.takeWhile isDigit
  let rest := cs.dropWhile isDigit
  let (fraction, rest) := match rest with
    | '.' :: rest => (rest.takeWhile isDigit, rest.dropWhile isDigit)
    | rest => ([], rest)
  let exponent? := match rest with
    | [] => some 0
    | mark :: rest => if mark.toLower = 'e' then readExponent? rest else none
  if whole.isEmpty && fraction.isEmpty then none
  else
    exponent?.map fun exponent =>
      ⟨digitsValue (whole ++ fraction), (whole ++ fraction).length, exponent - fraction.length⟩

namespace DecimalParts

/-- Beyond this power of ten every number but zero is infinite. -/
def hugeExponent : Nat := 310

/-- Below this power of ten, digits apart, every number is zero. -/
def tinyExponent : Nat := 330

/-- The nearest binary64 number. -/
def toBinary64 (negative : Bool) (p : DecimalParts) : Binary64 :=
  if p.digits = 0 then .zero negative
  else if (hugeExponent : Int) < p.exponent then .infinite negative
  else if p.exponent < -((tinyExponent + p.count : Nat) : Int) then .zero negative
  else if 0 ≤ p.exponent then .ofRatio negative ⟨p.digits * Nat.pow 10 p.exponent.toNat, 1⟩
  else .ofRatio negative ⟨p.digits, Nat.pow 10 (-p.exponent).toNat⟩

end DecimalParts

namespace Binary64

/-- The number without its sign. -/
def readUnsigned? (negative : Bool) (cs : List Char) : Option Binary64 :=
  let word := String.ofList (cs.map Char.toLower)
  if word = "inf" || word = "infinity" then some (.infinite negative)
  else if word = "nan" then some .nan
  else (readParts? cs).map (DecimalParts.toBinary64 negative)

/-- The number that a text spells. -/
def read? (text : String) : Option Binary64 :=
  match text.toList with
  | '-' :: rest => readUnsigned? true rest
  | '+' :: rest => readUnsigned? false rest
  | cs => readUnsigned? false cs

example : (read? "1.").map toBits = some 0x3ff0000000000000 := by decide +kernel
example : (read? "-.5e0").map toBits = some 0xbfe0000000000000 := by decide +kernel
example : read? "." = none := by decide +kernel
example : read? "1e" = none := by decide +kernel
example : read? "+Infinity" = some (.infinite false) := by decide +kernel

end Binary64

end FrameMux
