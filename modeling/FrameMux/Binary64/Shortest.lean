/-
**The shortest decimal that reads back as a given binary64 number.**

A number is printed with the fewest significant digits that still round to it, and of those with
the digits nearest to it.  The search is the definition: a number has an interval of reals that
round to it, and the decimals with `n` significant digits form a grid, so it suffices to look at the
two grid points around the number for `n = 1, 2, …, 17`.  How the digits are laid out — where
positional notation ends, whether a whole number shows a fraction — is a separate record, because
configuration files and messages differ there.

Main definitions:

* `FrameMux.Decimal` — a coefficient times a power of ten;
* `FrameMux.Binary64.shortestDigits` — **the shortest decimal** of a positive finite number;
* `FrameMux.DecimalLayout` — where positional notation applies and how whole numbers end;
* `FrameMux.Binary64.render` — a number in a layout;
* `FrameMux.DecimalLayout.plain`, `FrameMux.DecimalLayout.mixed` — the layouts of messages and of
  configuration files.
-/

import FrameMux.Binary64.Basic

set_option relaxedAutoImplicit false
set_option autoImplicit false

namespace FrameMux

/-! ### Decimals -/

/-- The number `coefficient · 10 ^ exponent`. -/
structure Decimal where
  coefficient : Nat
  exponent : Int
deriving DecidableEq, Repr

namespace Decimal

/-- The decimal as a quotient. -/
def toRatio (d : Decimal) : Ratio :=
  if 0 ≤ d.exponent then ⟨d.coefficient * Nat.pow 10 d.exponent.toNat, 1⟩
  else ⟨d.coefficient, Nat.pow 10 (-d.exponent).toNat⟩

/-- The digits of the coefficient, most significant first. -/
def digits (d : Decimal) : List Char := Nat.toDigits 10 d.coefficient

/-- How many digits stand before the decimal point; negative for leading zeros after it. -/
def point (d : Decimal) : Int := d.digits.length + d.exponent

/-- The same decimal without up to `n` zeros at the end of its coefficient. -/
def trimZeros : Nat → Decimal → Decimal
  | 0, d => d
  | n + 1, d =>
      if d.coefficient ≠ 0 ∧ d.coefficient % 10 = 0 then
        trimZeros n ⟨d.coefficient / 10, d.exponent + 1⟩
      else d

end Decimal

/-! ### The search for the shortest decimal -/

namespace Ratio

/-- The quotient times `10 ^ e`. -/
def scaleTen (r : Ratio) (e : Int) : Ratio :=
  if 0 ≤ e then ⟨r.num * Nat.pow 10 e.toNat, r.den⟩ else ⟨r.num, r.den * Nat.pow 10 (-e).toNat⟩

/-- The exponent `e` with `10 ^ (e - 1) ≤ r < 10 ^ e`, for a positive quotient. -/
def decimalExponent (r : Ratio) : Int :=
  let guess : Int := ((Nat.toDigits 10 r.num).length : Int) - (Nat.toDigits 10 r.den).length
  if (r.scaleTen (-guess)).den ≤ (r.scaleTen (-guess)).num then guess + 1 else guess

end Ratio

namespace Binary64

/-- Whether a quotient rounds to the positive number `mantissa · 2 ^ exponent`: it lies between the
midpoints to the neighbours, which belong to the interval when the mantissa is even. -/
def roundsTo (mantissa : Nat) (exponent : Int) (r : Ratio) : Bool :=
  let upper := (Ratio.ofNat (2 * mantissa + 1)).scale (exponent - 1)
  let lower :=
    -- Below a power of two the neighbour is half as far away.
    if mantissa = leastNormal ∧ leastExponent < exponent then
      (Ratio.ofNat (4 * mantissa - 1)).scale (exponent - 2)
    else (Ratio.ofNat (2 * mantissa - 1)).scale (exponent - 1)
  if mantissa % 2 = 0 then lower.le r && r.le upper
  else !r.le lower && !upper.le r

/-- The decimal with `n` digits that rounds to the number, the nearer one if there are two. -/
def digitsOfLength? (mantissa : Nat) (exponent : Int) (n : Nat) : Option Decimal :=
  let value := (Ratio.ofNat mantissa).scale exponent
  let unit := value.decimalExponent - n
  let scaled := value.scaleTen (-unit)
  -- If any decimal on this grid fits, one of the two nearest does.
  let below : Decimal := ⟨scaled.floor, unit⟩
  let above : Decimal := ⟨scaled.floor + 1, unit⟩
  let belowFits := roundsTo mantissa exponent below.toRatio
  let aboveFits := roundsTo mantissa exponent above.toRatio
  if belowFits && aboveFits then some ⟨scaled.round, unit⟩
  else if belowFits then some below
  else if aboveFits then some above
  else none

/-- The decimal with the fewest digits that rounds to the number; 17 digits always suffice. -/
def shortestDigits (mantissa : Nat) (exponent : Int) : Decimal :=
  let found := (List.range 17).findSome? fun n => digitsOfLength? mantissa exponent (n + 1)
  (found.getD ⟨0, 0⟩).trimZeros 17

end Binary64

/-! ### Layouts -/

/-- How a decimal is laid out: `positional` tells for which positions of the point no exponent is
written, and `wholeMark` follows a number without a fraction. -/
structure DecimalLayout where
  positional : Int → Bool
  wholeMark : String

namespace DecimalLayout

/-- Messages never write an exponent and leave whole numbers bare. -/
def plain : DecimalLayout := ⟨fun _ => true, ""⟩

/-- Configuration files write an exponent outside `1e-5 ≤ x < 1e16`, and whole numbers end in
`.0`. -/
def mixed : DecimalLayout := ⟨fun point => decide (-5 < point ∧ point ≤ 16), ".0"⟩

/-- A decimal without an exponent. -/
def layOut (layout : DecimalLayout) (d : Decimal) : String :=
  let digits := d.digits
  let point := d.point
  if point ≤ 0 then
    String.ofList ('0' :: '.' :: (List.replicate (-point).toNat '0' ++ digits))
  else if (digits.length : Int) ≤ point then
    String.ofList (digits ++ List.replicate (point.toNat - digits.length) '0') ++ layout.wholeMark
  else String.ofList (digits.take point.toNat ++ '.' :: digits.drop point.toNat)

/-- A decimal with one digit before the point and a signed exponent. -/
def scientific (d : Decimal) : String :=
  let fraction := d.digits.drop 1
  let mark := if fraction.isEmpty then [] else '.' :: fraction
  let sign := if 1 ≤ d.point then "+" else "-"
  String.ofList (d.digits.take 1 ++ mark) ++ "e" ++ sign ++ toString (d.point - 1).natAbs

end DecimalLayout

namespace Binary64

/-- The text of a number: its shortest decimal in the given layout. -/
def render (layout : DecimalLayout) : Binary64 → String
  | nan => "NaN"
  | infinite negative => if negative then "-inf" else "inf"
  | finite negative mantissa exponent =>
      let sign := if negative then "-" else ""
      if mantissa = 0 then sign ++ "0" ++ layout.wholeMark
      else
        let d := shortestDigits mantissa exponent
        sign ++ if layout.positional d.point then layout.layOut d else DecimalLayout.scientific d

end Binary64

end FrameMux
