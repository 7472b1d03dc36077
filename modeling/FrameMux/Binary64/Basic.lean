/-
**Binary64 numbers as exact integers.**

Seconds are written in configuration files as binary floating-point numbers, and throughput is
reported as one.  This module holds such a number exactly, as `± mantissa · 2 ^ exponent`, and
rounds an arbitrary quotient of naturals to the nearest one.  Every arithmetic operation is the
exact result followed by that one rounding, so a statement about a number is a statement about
naturals.

Main definitions:

* `FrameMux.roundHalfEven` — a quotient of naturals rounded to the nearest natural, a half to the
  even neighbour;
* `FrameMux.Ratio` — a nonnegative quotient of naturals, with scaling by powers of two;
* `FrameMux.Binary64` — a finite number, an infinity or no number;
* `FrameMux.Binary64.ofRatio` — **the rounding**: 53 significant bits, exponents from `-1074`,
  ties to even, overflow to infinity;
* `FrameMux.Binary64.add`, `mul`, `div` — the rounded operations;
* `FrameMux.Binary64.toBits` — the 64-bit interchange word.

Main results:

* `FrameMux.two_mul_roundHalfEven_le`, `FrameMux.le_two_mul_roundHalfEven` — the rounded quotient is
  within half a unit.
-/

set_option relaxedAutoImplicit false
set_option autoImplicit false

namespace FrameMux

/-! ### Rounding a quotient -/

/-- The natural nearest to `num / den`; of two equally near ones, the even one. -/
def roundHalfEven (num den : Nat) : Nat :=
  let floor := num / den
  let rest := num % den
  if 2 * rest < den then floor
  else if den < 2 * rest then floor + 1
  else floor + floor % 2

/-- The rounded quotient exceeds the quotient by at most half a unit. -/
theorem two_mul_roundHalfEven_le (num den : Nat) (h : 0 < den) :
    2 * (den * roundHalfEven num den) ≤ 2 * num + den := by
  have split := Nat.div_add_mod num den
  have small := Nat.mod_lt num h
  unfold roundHalfEven
  dsimp only
  split
  · rw [← split, Nat.mul_add_div h, Nat.div_eq_of_lt small]; simp; omega
  · split
    · rw [Nat.mul_add]; omega
    · have parity : num / den % 2 < 2 := Nat.mod_lt _ (by decide)
      have bound : den * (num / den % 2) ≤ den := by
        calc den * (num / den % 2) ≤ den * 1 := Nat.mul_le_mul_left _ (by omega)
          _ = den := Nat.mul_one _
      rw [Nat.mul_add]; omega

/-- The rounded quotient falls short of the quotient by at most half a unit. -/
theorem le_two_mul_roundHalfEven (num den : Nat) (h : 0 < den) :
    2 * num ≤ 2 * (den * roundHalfEven num den) + den := by
  have split := Nat.div_add_mod num den
  have small := Nat.mod_lt num h
  unfold roundHalfEven
  dsimp only
  split
  · omega
  · split
    · rw [Nat.mul_add]; omega
    · have grow : 0 ≤ den * (num / den % 2) := Nat.zero_le _
      rw [Nat.mul_add]; omega

/-! ### Nonnegative quotients -/

/-- The quotient `num / den`; `den` is positive wherever one is built. -/
structure Ratio where
  num : Nat
  den : Nat
deriving DecidableEq, Repr

namespace Ratio

/-- The quotient that a natural is. -/
def ofNat (n : Nat) : Ratio := ⟨n, 1⟩

/-- The quotient times `2 ^ e`. -/
def scale (r : Ratio) (e : Int) : Ratio :=
  if 0 ≤ e then ⟨r.num * Nat.pow 2 e.toNat, r.den⟩
  else ⟨r.num, r.den * Nat.pow 2 (-e).toNat⟩

/-- The sum of two quotients. -/
def add (r s : Ratio) : Ratio := ⟨r.num * s.den + s.num * r.den, r.den * s.den⟩

/-- The product of two quotients. -/
def mul (r s : Ratio) : Ratio := ⟨r.num * s.num, r.den * s.den⟩

/-- The quotient of two quotients, the second one positive. -/
def div (r s : Ratio) : Ratio := ⟨r.num * s.den, r.den * s.num⟩

/-- The order of two quotients. -/
def le (r s : Ratio) : Bool := r.num * s.den ≤ s.num * r.den

/-- The nearest natural, a half to the even neighbour. -/
def round (r : Ratio) : Nat := roundHalfEven r.num r.den

/-- The largest natural below the quotient. -/
def floor (r : Ratio) : Nat := r.num / r.den

/-- The exponent `e` with `2 ^ e ≤ r < 2 ^ (e + 1)`, for a positive quotient. -/
def binaryExponent (r : Ratio) : Int :=
  let guess : Int := (r.num.log2 : Int) - r.den.log2
  if (r.scale (-guess)).den ≤ (r.scale (-guess)).num then guess else guess - 1

end Ratio

/-! ### Binary64 numbers -/

/-- A binary64 number.  A finite one is `mantissa · 2 ^ exponent` with a sign; the functions below
keep `mantissa < 2 ^ 53`, `-1074 ≤ exponent`, and `2 ^ 52 ≤ mantissa` unless the exponent is the
least one, so that equal numbers are equal terms. -/
inductive Binary64 where
  | finite (negative : Bool) (mantissa : Nat) (exponent : Int)
  | infinite (negative : Bool)
  | nan
deriving DecidableEq, Repr

namespace Binary64

/-- The least exponent of a finite number. -/
def leastExponent : Int := -1074

/-- The greatest exponent of a finite number. -/
def greatestExponent : Int := 971

/-- The least mantissa of a number with full precision, `2 ^ 52`. -/
def leastNormal : Nat := 0x10000000000000

/-- Zero with a sign. -/
def zero (negative : Bool) : Binary64 := .finite negative 0 leastExponent

/-- The number nearest to a quotient, ties to the even mantissa. -/
def ofRatio (negative : Bool) (r : Ratio) : Binary64 :=
  if r.num = 0 then zero negative
  else
    let exponent := max (r.binaryExponent - 52) leastExponent
    let mantissa := (r.scale (-exponent)).round
    let carried := mantissa = 2 * leastNormal
    let mantissa := if carried then leastNormal else mantissa
    let exponent := if carried then exponent + 1 else exponent
    if greatestExponent < exponent then .infinite negative else .finite negative mantissa exponent

/-- The number nearest to a natural. -/
def ofNat (n : Nat) : Binary64 := ofRatio false (.ofNat n)

/-- The magnitude of a finite number as a quotient; the others have none. -/
def magnitude? : Binary64 → Option Ratio
  | finite _ mantissa exponent => some ((Ratio.ofNat mantissa).scale exponent)
  | _ => none

/-- Whether a number carries the minus sign. -/
def isNegative : Binary64 → Bool
  | finite negative _ _ => negative
  | infinite negative => negative
  | nan => false

/-- Whether a number is one of the two zeros. -/
def isZero : Binary64 → Bool
  | finite _ mantissa _ => mantissa = 0
  | _ => false

/-- The number with the opposite sign. -/
def neg : Binary64 → Binary64
  | finite negative mantissa exponent => finite (!negative) mantissa exponent
  | infinite negative => infinite (!negative)
  | nan => nan

/-- The rounded sum of two nonnegative finite numbers. -/
def add (a b : Binary64) : Binary64 :=
  match a.magnitude?, b.magnitude? with
  | some r, some s => ofRatio false (r.add s)
  | _, _ => nan

/-- The rounded product of two nonnegative finite numbers. -/
def mul (a b : Binary64) : Binary64 :=
  match a.magnitude?, b.magnitude? with
  | some r, some s => ofRatio false (r.mul s)
  | _, _ => nan

/-- The rounded quotient of two nonnegative finite numbers, the second one positive. -/
def div (a b : Binary64) : Binary64 :=
  match a.magnitude?, b.magnitude? with
  | some r, some s => ofRatio false (r.div s)
  | _, _ => nan

/-! ### The interchange word -/

/-- The sign as the top bit of a word. -/
def signBit (negative : Bool) : Nat := if negative then UInt64.size / 2 else 0

/-- The 64-bit word of a number: sign, biased exponent, fraction. -/
def toBits : Binary64 → UInt64
  | finite negative mantissa exponent =>
      if mantissa < leastNormal then UInt64.ofNat (signBit negative + mantissa)
      else
        UInt64.ofNat (signBit negative + (exponent + 1075).toNat * leastNormal
          + (mantissa - leastNormal))
  | infinite negative => UInt64.ofNat (signBit negative + 2047 * leastNormal)
  | nan => UInt64.ofNat (2047 * leastNormal + leastNormal / 2)

example : (ofNat 1).toBits = 0x3ff0000000000000 := by decide +kernel
example : (ofRatio false ⟨1, 10⟩).toBits = 0x3fb999999999999a := by decide +kernel
example : (ofRatio true ⟨1, Nat.pow 2 1074⟩).toBits = 0x8000000000000001 := by decide +kernel
example : ofRatio false ⟨Nat.pow 2 1024, 1⟩ = infinite false := by decide +kernel

end Binary64

end FrameMux
