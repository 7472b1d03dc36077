/-
**The values of rounded numbers.**

A binary64 number stands for a rational, and an operation on two of them is the exact result,
rounded.  This module relates the quotients and the numbers of `FrameMux.Binary64` to the rationals
they stand for, and says what the one rounding does to a value: a number of 53 significant bits is
kept, any other value moves by half a unit in the last place at most, and a value that is within half
a unit of a number moves to that number, unless it crosses a power of two on the way.

Main definitions:

* `FrameMux.Ratio.Denotes`, `FrameMux.Binary64.Denotes` — the rational that a quotient, or the
  magnitude of a finite number, stands for;
* `FrameMux.Binary64.Proper` — **the numbers of the format**, each in its one spelling;
* `FrameMux.Binary64.unitExponent` — the exponent of the last place at a value.

Main results:

* `FrameMux.Ratio.Denotes.binaryExponent_eq` — the exponent of a quotient is the binary logarithm of
  its value;
* `FrameMux.Binary64.exact_ofRatio` — **what can be kept is kept**;
* `FrameMux.Binary64.near_ofRatio` — **half a unit** is the most that rounding moves a value;
* `FrameMux.Binary64.nearest_ofRatio` — a value close to a number is rounded to it;
* `FrameMux.Binary64.proper_ofRatio` — rounding yields numbers of the format only.
-/

import FrameMux.Binary64.Basic
import Mathlib.Algebra.Order.Field.Power
import Mathlib.Data.Int.Log
import Mathlib.Data.Rat.Floor
import Mathlib.Tactic.FieldSimp
import Mathlib.Tactic.Linarith
import Mathlib.Tactic.NormNum
import Mathlib.Tactic.Positivity
import Mathlib.Tactic.Ring

set_option relaxedAutoImplicit false
set_option autoImplicit false

namespace FrameMux

/-! ### Quotients -/

namespace Ratio

/-- The rational that a quotient stands for. -/
structure Denotes (r : Ratio) (q : ℚ) : Prop where
  pos : 0 < r.den
  eq : (r.num : ℚ) = q * r.den

variable {r s : Ratio} {p q : ℚ}

theorem Denotes.den_pos (h : r.Denotes q) : (0 : ℚ) < r.den := Nat.cast_pos.2 h.pos

theorem Denotes.nonneg (h : r.Denotes q) : 0 ≤ q := by
  have num : 0 ≤ q * r.den := h.eq ▸ Nat.cast_nonneg r.num
  exact nonneg_of_mul_nonneg_left num h.den_pos

/-- The numerator vanishes with the value. -/
theorem Denotes.num_eq_zero_iff (h : r.Denotes q) : r.num = 0 ↔ q = 0 := by
  have den := h.den_pos.ne'
  rw [← Nat.cast_eq_zero (R := ℚ), h.eq]
  simp [den]

theorem denotes_of_pos (h : 0 < r.den) : r.Denotes (r.num / r.den) where
  pos := h
  eq := (div_mul_cancel₀ _ (Nat.cast_pos.2 h).ne').symm

theorem denotes_ofNat (n : Nat) : (ofNat n).Denotes n where
  pos := Nat.one_pos
  eq := by simp [ofNat]

theorem Denotes.scale (h : r.Denotes q) (e : Int) : (r.scale e).Denotes (q * 2 ^ e) := by
  unfold Ratio.scale
  split
  · next up =>
      obtain ⟨k, rfl⟩ := Int.eq_ofNat_of_zero_le up
      refine ⟨h.pos, ?_⟩
      simp only [Int.toNat_natCast, Nat.pow_eq, Nat.cast_mul, Nat.cast_pow, Nat.cast_ofNat,
        zpow_natCast, h.eq]
      ring
  · next down =>
      obtain ⟨k, rfl⟩ : ∃ k : Nat, e = -k := ⟨(-e).toNat, by omega⟩
      refine ⟨Nat.mul_pos h.pos (Nat.pow_pos (by decide)), ?_⟩
      have two : (2 : ℚ) ^ k ≠ 0 := by positivity
      simp only [neg_neg, Int.toNat_natCast, Nat.pow_eq, Nat.cast_mul, Nat.cast_pow, Nat.cast_ofNat,
        zpow_neg, zpow_natCast, h.eq]
      field_simp

theorem Denotes.add (hr : r.Denotes p) (hs : s.Denotes q) : (r.add s).Denotes (p + q) where
  pos := Nat.mul_pos hr.pos hs.pos
  eq := by
    simp only [Ratio.add, Nat.cast_add, Nat.cast_mul, hr.eq, hs.eq]
    ring

theorem Denotes.div (hr : r.Denotes p) (hs : s.Denotes q) (pos : 0 < q) :
    (r.div s).Denotes (p / q) where
  pos := by
    refine Nat.mul_pos hr.pos (Nat.pos_of_ne_zero fun zero => ?_)
    exact pos.ne' (hs.num_eq_zero_iff.1 zero)
  eq := by
    simp only [Ratio.div, Nat.cast_mul, hr.eq, hs.eq]
    field_simp

/-! ### The nearest natural -/

/-- Rounding moves a value by half a unit at most. -/
theorem Denotes.abs_round_sub_le (h : r.Denotes q) : |(r.round : ℚ) - q| ≤ 1 / 2 := by
  have den := h.den_pos
  have above : (2 : ℚ) * (r.den * r.round) ≤ 2 * r.num + r.den := by
    exact_mod_cast two_mul_roundHalfEven_le r.num r.den h.pos
  have below : (2 : ℚ) * r.num ≤ 2 * (r.den * r.round) + r.den := by
    exact_mod_cast le_two_mul_roundHalfEven r.num r.den h.pos
  rw [h.eq] at above below
  have up : (r.round : ℚ) ≤ q + 1 / 2 := by
    refine le_of_mul_le_mul_left ?_ den
    linarith
  have down : q ≤ r.round + 1 / 2 := by
    refine le_of_mul_le_mul_left ?_ den
    linarith
  exact abs_le.2 ⟨by linarith, by linarith⟩

/-- A natural that is less than half a unit away is the rounded value. -/
theorem Denotes.round_eq (h : r.Denotes q) {k : Nat} (close : |q - k| < 1 / 2) : r.round = k := by
  have moved := abs_le.1 h.abs_round_sub_le
  have near := abs_lt.1 close
  have below : (r.round : ℚ) < k + 1 := by linarith
  have above : (k : ℚ) < r.round + 1 := by linarith
  have below' : r.round < k + 1 := by exact_mod_cast below
  have above' : k < r.round + 1 := by exact_mod_cast above
  omega

/-- A common factor of a quotient's two parts does not matter to its rounding. -/
theorem roundHalfEven_mul (num den : Nat) {k : Nat} (pos : 0 < k) :
    roundHalfEven (k * num) (k * den) = roundHalfEven num den := by
  have double : 2 * (k * (num % den)) = k * (2 * (num % den)) := Nat.mul_left_comm 2 k _
  simp only [roundHalfEven, Nat.mul_div_mul_left _ _ pos, Nat.mul_mod_mul_left, double,
    Nat.mul_lt_mul_left pos]

/-- **The rounding depends on the value alone**, a half included. -/
theorem Denotes.round_congr (hr : r.Denotes q) (hs : s.Denotes q) : r.round = s.round := by
  have cross : s.den * r.num = r.den * s.num := by
    have casts : (s.den : ℚ) * r.num = r.den * s.num := by
      rw [hr.eq, hs.eq]
      ring
    exact_mod_cast casts
  calc r.round = roundHalfEven (s.den * r.num) (s.den * r.den) :=
        (roundHalfEven_mul _ _ hs.pos).symm
    _ = roundHalfEven (r.den * s.num) (r.den * s.den) := by rw [cross, Nat.mul_comm s.den]
    _ = s.round := roundHalfEven_mul _ _ hr.pos

/-! ### The binary exponent -/

/-- The binary logarithm is below the exponent of every greater power of two. -/
theorem log_lt {k : Int} (pos : 0 < q) (below : q < 2 ^ k) : Int.log 2 q < k :=
  (Int.lt_zpow_iff_log_lt (b := 2) (by decide) pos).1 (by exact_mod_cast below)

/-- The powers of two around a value determine its binary logarithm. -/
theorem log_eq {t : Int} (lower : (2 : ℚ) ^ t ≤ q) (upper : q < 2 ^ (t + 1)) :
    Int.log 2 q = t := by
  have pos : 0 < q := lt_of_lt_of_le (by positivity) lower
  have atLeast := (Int.zpow_le_iff_le_log (b := 2) (by decide) pos).1 (by exact_mod_cast lower)
  have below := log_lt pos upper
  omega

/-- A quotient reaches one when its numerator reaches its denominator. -/
theorem Denotes.den_le_num_iff (h : r.Denotes q) : r.den ≤ r.num ↔ 1 ≤ q := by
  rw [← Nat.cast_le (α := ℚ), h.eq]
  exact le_mul_iff_one_le_left h.den_pos

/-- The lengths of the two parts leave two candidates for the exponent. -/
theorem Denotes.between (h : r.Denotes q) (pos : 0 < q) :
    (2 : ℚ) ^ ((r.num.log2 : Int) - r.den.log2 - 1) ≤ q ∧
      q < 2 ^ ((r.num.log2 : Int) - r.den.log2 + 1) := by
  have num : r.num ≠ 0 := fun zero => pos.ne' (h.num_eq_zero_iff.1 zero)
  have numLower : (2 : ℚ) ^ (r.num.log2 : Int) ≤ q * r.den := by
    rw [← h.eq]
    exact_mod_cast Nat.log2_self_le num
  have numUpper : q * r.den < (2 : ℚ) ^ ((r.num.log2 : Int) + 1) := by
    rw [← h.eq]
    exact_mod_cast Nat.lt_log2_self
  have denLower : (2 : ℚ) ^ (r.den.log2 : Int) ≤ r.den := by
    exact_mod_cast Nat.log2_self_le h.pos.ne'
  have denUpper : (r.den : ℚ) < (2 : ℚ) ^ ((r.den.log2 : Int) + 1) := by
    exact_mod_cast Nat.lt_log2_self
  have two : (2 : ℚ) ≠ 0 := two_ne_zero
  constructor
  · refine le_of_mul_le_mul_right ?_ h.den_pos
    calc (2 : ℚ) ^ ((r.num.log2 : Int) - r.den.log2 - 1) * r.den
        ≤ 2 ^ ((r.num.log2 : Int) - r.den.log2 - 1) * 2 ^ ((r.den.log2 : Int) + 1) :=
          mul_le_mul_of_nonneg_left denUpper.le (by positivity)
      _ = 2 ^ (r.num.log2 : Int) := by
          rw [← zpow_add₀ two]
          congr 1
          omega
      _ ≤ q * r.den := numLower
  · refine lt_of_mul_lt_mul_right ?_ h.den_pos.le
    calc q * r.den < 2 ^ ((r.num.log2 : Int) + 1) := numUpper
      _ = 2 ^ ((r.num.log2 : Int) - r.den.log2 + 1) * 2 ^ (r.den.log2 : Int) := by
          rw [← zpow_add₀ two]
          congr 1
          omega
      _ ≤ 2 ^ ((r.num.log2 : Int) - r.den.log2 + 1) * r.den :=
          mul_le_mul_of_nonneg_left denLower (by positivity)

/-- **The exponent of a quotient is the binary logarithm of its value.** -/
theorem Denotes.binaryExponent_eq (h : r.Denotes q) (pos : 0 < q) :
    r.binaryExponent = Int.log 2 q := by
  obtain ⟨lower, upper⟩ := h.between pos
  have reached : ∀ t : Int, 1 ≤ q * 2 ^ (-t) ↔ (2 : ℚ) ^ t ≤ q := by
    intro t
    rw [zpow_neg, ← div_eq_mul_inv, one_le_div (by positivity)]
  have asked := (h.scale (-((r.num.log2 : Int) - r.den.log2))).den_le_num_iff.trans (reached _)
  unfold Ratio.binaryExponent
  dsimp only
  split
  · next high => exact (log_eq (asked.1 high) upper).symm
  · next low =>
      have short := not_le.1 fun high => low (asked.2 high)
      exact (log_eq lower (by rwa [sub_add_cancel])).symm

end Ratio

/-! ### Binary64 numbers -/

namespace Binary64

variable {x y : Binary64} {r : Ratio} {p q : ℚ} {negative : Bool}

/-- The rational that the magnitude of a finite number stands for. -/
def Denotes (x : Binary64) (q : ℚ) : Prop := ∃ r, x.magnitude? = some r ∧ r.Denotes q

/-- A number of the format: 53 bits at most, exponents within the bounds, and full precision unless
the exponent is the least one. -/
def Proper : Binary64 → Prop
  | finite _ mantissa exponent =>
      mantissa < 2 * leastNormal ∧ leastExponent ≤ exponent ∧ exponent ≤ greatestExponent ∧
        (leastNormal ≤ mantissa ∨ exponent = leastExponent)
  | infinite _ | nan => True

theorem denotes_finite (negative : Bool) (m : Nat) (e : Int) :
    (finite negative m e).Denotes (m * 2 ^ e) :=
  ⟨_, rfl, (Ratio.denotes_ofNat m).scale e⟩

/-- A finite number stands for its mantissa times a power of two, and for nothing else. -/
theorem Denotes.eq_finite (h : x.Denotes q) : ∃ negative m e, x = finite negative m e ∧
    (m : ℚ) * 2 ^ e = q := by
  obtain ⟨r, magnitude, denotes⟩ := h
  cases x with
  | finite negative m e =>
      obtain rfl := Option.some.inj magnitude
      have scaled := (Ratio.denotes_ofNat m).scale e
      have same := scaled.eq.symm.trans denotes.eq
      exact ⟨negative, m, e, rfl, mul_right_cancel₀ denotes.den_pos.ne' same⟩
  | infinite negative => cases magnitude
  | nan => cases magnitude

/-- What fits a word is far from overflow. -/
theorem lt_overflow (h : q < 2 ^ 64) : q < 2 ^ (1023 : Int) := by
  refine h.trans ?_
  rw [← zpow_natCast]
  exact zpow_lt_zpow_right₀ one_lt_two (by decide)

/-! ### The rounding -/

/-- The exponent of the last place of the numbers around a value. -/
def unitExponent (q : ℚ) : Int := max (Int.log 2 q - 52) leastExponent

/-- The rounding, in terms of the value: the last place, and how many of it there are. -/
theorem ofRatio_eq (h : r.Denotes q) (pos : 0 < q) (negative : Bool) :
    ofRatio negative r =
      if (r.scale (-unitExponent q)).round = 2 * leastNormal then
        if greatestExponent < unitExponent q + 1 then .infinite negative
        else .finite negative leastNormal (unitExponent q + 1)
      else
        if greatestExponent < unitExponent q then .infinite negative
        else .finite negative (r.scale (-unitExponent q)).round (unitExponent q) := by
  have num : r.num ≠ 0 := fun zero => pos.ne' (h.num_eq_zero_iff.1 zero)
  unfold ofRatio
  rw [if_neg num, h.binaryExponent_eq pos]
  dsimp only
  unfold unitExponent
  split <;> rfl

/-- Zero is kept. -/
theorem zero_ofRatio (h : r.Denotes 0) (negative : Bool) : ofRatio negative r = zero negative :=
  if_pos (h.num_eq_zero_iff.2 rfl)

theorem denotes_zero (h : r.Denotes 0) (negative : Bool) : (ofRatio negative r).Denotes 0 := by
  rw [zero_ofRatio h]
  simpa [zero] using denotes_finite negative 0 leastExponent

/-- A value in the range becomes a whole number of its last place. -/
theorem denotes_ofRatio (h : r.Denotes q) (pos : 0 < q) (small : q < 2 ^ (1023 : Int))
    (negative : Bool) :
    (ofRatio negative r).Denotes ((r.scale (-unitExponent q)).round * 2 ^ unitExponent q) := by
  have log := Ratio.log_lt pos small
  have exponent : unitExponent q ≤ 970 := by
    unfold unitExponent leastExponent
    omega
  rw [ofRatio_eq h pos]
  split
  · next carried =>
      rw [if_neg (by unfold greatestExponent; omega), carried]
      have same : ((2 * leastNormal : Nat) : ℚ) * 2 ^ unitExponent q =
          leastNormal * 2 ^ (unitExponent q + 1) := by
        rw [zpow_add_one₀ two_ne_zero, Nat.cast_mul, Nat.cast_ofNat]
        ring
      rw [same]
      exact denotes_finite _ _ _
  · rw [if_neg (by unfold greatestExponent; omega)]
    exact denotes_finite _ _ _

/-- A value is as many of its last place as it is. -/
theorem mul_unit (q : ℚ) : q * 2 ^ (-unitExponent q) * 2 ^ unitExponent q = q := by
  rw [mul_assoc, ← zpow_add₀ two_ne_zero, neg_add_cancel, zpow_zero, mul_one]

/-- The last place shows less than 53 bits of a value. -/
theorem mul_unit_lt (q : ℚ) : q * 2 ^ (-unitExponent q) < 2 ^ 53 := by
  have below : q < (2 : ℚ) ^ (Int.log 2 q + 1) := by
    exact_mod_cast Int.lt_zpow_succ_log_self (b := 2) (by decide) q
  have exponent : Int.log 2 q + 1 ≤ unitExponent q + 53 := by
    unfold unitExponent
    omega
  calc q * 2 ^ (-unitExponent q)
      < 2 ^ (Int.log 2 q + 1) * 2 ^ (-unitExponent q) :=
        mul_lt_mul_of_pos_right below (by positivity)
    _ ≤ 2 ^ (unitExponent q + 53) * 2 ^ (-unitExponent q) :=
        mul_le_mul_of_nonneg_right (zpow_le_zpow_right₀ one_le_two exponent) (by positivity)
    _ = 2 ^ 53 := by
        rw [← zpow_add₀ two_ne_zero, ← zpow_natCast]
        congr 1
        omega

/-- Unless the exponent is the least one, it shows 53 bits. -/
theorem le_mul_unit (pos : 0 < q) (full : unitExponent q = Int.log 2 q - 52) :
    2 ^ 52 ≤ q * 2 ^ (-unitExponent q) := by
  have reached : (2 : ℚ) ^ Int.log 2 q ≤ q := by
    exact_mod_cast Int.zpow_log_le_self (b := 2) (by decide) pos
  calc (2 : ℚ) ^ 52 = 2 ^ Int.log 2 q * 2 ^ (-unitExponent q) := by
        rw [← zpow_add₀ two_ne_zero, ← zpow_natCast]
        congr 1
        omega
    _ ≤ q * 2 ^ (-unitExponent q) := mul_le_mul_of_nonneg_right reached (by positivity)

/-- **Half a unit in the last place** is the most that rounding moves a value below a power of
two. -/
theorem near_ofRatio {k : Int} (h : r.Denotes q) (below : q < 2 ^ k) (low : -1021 ≤ k)
    (high : k ≤ 1023) (negative : Bool) :
    ∃ v, (ofRatio negative r).Denotes v ∧ |v - q| ≤ 2 ^ (k - 54) := by
  rcases h.nonneg.eq_or_lt with rfl | pos
  · exact ⟨0, denotes_zero h negative, by rw [sub_zero, abs_zero]; positivity⟩
  · have small : q < 2 ^ (1023 : Int) := below.trans_le (zpow_le_zpow_right₀ one_le_two high)
    have log := Ratio.log_lt pos below
    have exponent : unitExponent q - 1 ≤ k - 54 := by
      unfold unitExponent leastExponent
      omega
    refine ⟨_, denotes_ofRatio h pos small negative, ?_⟩
    have moved := (h.scale (-unitExponent q)).abs_round_sub_le
    generalize (r.scale (-unitExponent q)).round = n at moved ⊢
    calc |(n : ℚ) * 2 ^ unitExponent q - q|
        = |(n - q * 2 ^ (-unitExponent q)) * 2 ^ unitExponent q| := by rw [sub_mul, mul_unit]
      _ = |n - q * 2 ^ (-unitExponent q)| * 2 ^ unitExponent q := by
          rw [abs_mul, abs_of_pos (show (0 : ℚ) < 2 ^ unitExponent q by positivity)]
      _ ≤ 1 / 2 * 2 ^ unitExponent q := mul_le_mul_of_nonneg_right moved (by positivity)
      _ = 2 ^ (unitExponent q - 1) := by
          rw [zpow_sub_one₀ two_ne_zero]
          ring
      _ ≤ 2 ^ (k - 54) := zpow_le_zpow_right₀ one_le_two exponent

/-- A value less than half a unit from a multiple of the last place is rounded to it. -/
theorem denotes_of_close (h : r.Denotes q) (pos : 0 < q) (small : q < 2 ^ (1023 : Int)) {n : Nat}
    (close : |q * 2 ^ (-unitExponent q) - n| < 1 / 2) (negative : Bool) :
    (ofRatio negative r).Denotes (n * 2 ^ unitExponent q) := by
  have rounded := denotes_ofRatio h pos small negative
  rwa [(h.scale (-unitExponent q)).round_eq close] at rounded

/-- **What can be kept is kept**: a value of 53 bits at most is not changed by rounding. -/
theorem exact_ofRatio {m : Nat} {e : Int} (h : r.Denotes (m * 2 ^ e)) (bits : m < 2 ^ 53)
    (low : leastExponent ≤ e) (small : (m : ℚ) * 2 ^ e < 2 ^ (1023 : Int)) (negative : Bool) :
    (ofRatio negative r).Denotes (m * 2 ^ e) := by
  rcases h.nonneg.eq_or_lt with zero' | pos
  · rw [← zero'] at h ⊢
    exact denotes_zero h negative
  · have bits' : (m : ℚ) < 2 ^ (53 : Int) := by exact_mod_cast bits
    have log : Int.log 2 ((m : ℚ) * 2 ^ e) < 53 + e := by
      refine Ratio.log_lt pos ?_
      rw [zpow_add₀ two_ne_zero]
      exact mul_lt_mul_of_pos_right bits' (by positivity)
    -- the last place divides the power of two, so that the value is a multiple of it
    obtain ⟨k, shift⟩ : ∃ k : Nat, e = unitExponent (m * 2 ^ e) + k := by
      refine ⟨(e - unitExponent (m * 2 ^ e)).toNat, ?_⟩
      have le : unitExponent (m * 2 ^ e) ≤ e := by
        unfold unitExponent
        omega
      omega
    have whole : (m : ℚ) * 2 ^ e * 2 ^ (-unitExponent (m * 2 ^ e)) = (m * 2 ^ k : Nat) := by
      rw [mul_assoc, ← zpow_add₀ two_ne_zero]
      have : e + -unitExponent (m * 2 ^ e) = k := by omega
      rw [this, zpow_natCast]
      norm_cast
    have kept := denotes_of_close h pos small (n := m * 2 ^ k)
      (by rw [whole, sub_self, abs_zero]; norm_num) negative
    rwa [← whole, mul_unit] at kept

/-- **A value close to a number is rounded to it**, unless the number is a power of two: below that
the last place is a smaller one. -/
theorem nearest_ofRatio {m : Nat} {e : Int} (h : r.Denotes q) (normal : 2 ^ 52 < m)
    (bits : m < 2 ^ 53) (low : leastExponent ≤ e) (high : e ≤ 970)
    (close : |q - m * 2 ^ e| < 2 ^ (e - 1)) (negative : Bool) :
    (ofRatio negative r).Denotes (m * 2 ^ e) := by
  have unit : (0 : ℚ) < 2 ^ e := by positivity
  rw [zpow_sub_one₀ two_ne_zero] at close
  obtain ⟨above, below⟩ := abs_lt.1 close
  have normal' : (2 : ℚ) ^ 52 + 1 ≤ m := by exact_mod_cast normal
  have bits' : (m : ℚ) + 1 ≤ 2 ^ 53 := by exact_mod_cast bits
  have lower : (2 : ℚ) ^ (52 + e) ≤ q := by
    rw [zpow_add₀ two_ne_zero]
    have := mul_le_mul_of_nonneg_right normal' unit.le
    norm_num at this ⊢
    linarith
  have upper : q < 2 ^ (52 + e + 1) := by
    rw [show 52 + e + 1 = 53 + e by omega, zpow_add₀ two_ne_zero]
    have := mul_le_mul_of_nonneg_right bits' unit.le
    norm_num at this ⊢
    linarith
  have pos : 0 < q := lt_of_lt_of_le (by positivity) lower
  have place : unitExponent q = e := by
    rw [unitExponent, Ratio.log_eq lower upper]
    omega
  have small : q < 2 ^ (1023 : Int) := 
    upper.trans_le (zpow_le_zpow_right₀ one_le_two (by omega))
  have near : |q * 2 ^ (-unitExponent q) - m| < 1 / 2 := by
    rw [place]
    have scaled : q * 2 ^ (-e) - m = (q - m * 2 ^ e) * 2 ^ (-e) := by
      rw [sub_mul, mul_assoc (m : ℚ), ← zpow_add₀ two_ne_zero, add_neg_cancel, zpow_zero, mul_one]
    rw [scaled, abs_mul, abs_of_pos (show (0 : ℚ) < 2 ^ (-e) by positivity), zpow_neg,
      ← div_eq_mul_inv, div_lt_iff₀ unit]
    linarith
  have kept := denotes_of_close h pos small near negative
  rwa [place] at kept

/-- **Rounding yields numbers of the format only.** -/
theorem proper_ofRatio (h : 0 < r.den) (negative : Bool) : (ofRatio negative r).Proper := by
  have denotes := Ratio.denotes_of_pos h
  generalize (r.num : ℚ) / r.den = q at denotes
  rcases denotes.nonneg.eq_or_lt with rfl | pos
  · rw [zero_ofRatio denotes]
    exact ⟨by decide, by decide, by decide, Or.inr rfl⟩
  · have least : leastExponent ≤ unitExponent q := le_max_right _ _
    have moved := abs_le.1 (denotes.scale (-unitExponent q)).abs_round_sub_le
    have bits := mul_unit_lt q
    rw [ofRatio_eq denotes pos]
    generalize (r.scale (-unitExponent q)).round = n at moved ⊢
    split
    · split
      · trivial
      · next bounded =>
          exact ⟨by decide, by omega, by omega, Or.inl (Nat.le_refl _)⟩
    · next uncarried =>
        split
        · trivial
        · next bounded =>
            have atMost : (n : ℚ) < 2 ^ 53 + 1 := by linarith
            have atMost' : n < 2 ^ 53 + 1 := by exact_mod_cast atMost
            refine ⟨by unfold leastNormal at *; omega, least, by omega, ?_⟩
            rcases max_choice (Int.log 2 q - 52) leastExponent with full | subnormal
            · have atLeast : (2 : ℚ) ^ 52 < n + 1 := by
                have reached := le_mul_unit pos full
                linarith
              have atLeast' : 2 ^ 52 < n + 1 := by exact_mod_cast atLeast
              exact Or.inl (by unfold leastNormal; omega)
            · exact Or.inr subnormal

/-! ### The operations -/

/-- A number that rounding yields has the sign it was given. -/
theorem isNegative_ofRatio (negative : Bool) (r : Ratio) :
    (ofRatio negative r).isNegative = negative := by
  unfold ofRatio
  split
  · rfl
  · dsimp only
    split <;> split <;> rfl

/-- A natural of 53 bits, followed by zeros, is kept. -/
theorem denotes_ofNat {n k j : Nat} (eq : n = k * 2 ^ j) (bits : k < 2 ^ 53) (small : n < 2 ^ 64) :
    (ofNat n).Denotes n := by
  have value : (n : ℚ) = k * 2 ^ (j : Int) := by
    rw [eq, zpow_natCast, Nat.cast_mul, Nat.cast_pow, Nat.cast_ofNat]
  have denotes := Ratio.denotes_ofNat n
  have small' : (n : ℚ) < 2 ^ (1023 : Int) := lt_overflow (by exact_mod_cast small)
  rw [value] at denotes small' ⊢
  exact exact_ofRatio denotes bits (by unfold leastExponent; omega) small' false

/-- The sum is the rounded sum of the values. -/
theorem Denotes.add (hx : x.Denotes p) (hy : y.Denotes q) :
    ∃ r, r.Denotes (p + q) ∧ x.add y = ofRatio false r := by
  obtain ⟨r, magnitude, hr⟩ := hx
  obtain ⟨s, magnitude', hs⟩ := hy
  refine ⟨r.add s, hr.add hs, ?_⟩
  simp only [Binary64.add, magnitude, magnitude']

/-- The quotient is the rounded quotient of the values. -/
theorem Denotes.div (hx : x.Denotes p) (hy : y.Denotes q) (pos : 0 < q) :
    ∃ r, r.Denotes (p / q) ∧ x.div y = ofRatio false r := by
  obtain ⟨r, magnitude, hr⟩ := hx
  obtain ⟨s, magnitude', hs⟩ := hy
  refine ⟨r.div s, hr.div hs pos, ?_⟩
  simp only [Binary64.div, magnitude, magnitude']

/-- A sum carries no sign. -/
theorem isNegative_add (x y : Binary64) : (x.add y).isNegative = false := by
  unfold Binary64.add
  split
  · exact isNegative_ofRatio false _
  · rfl

/-- A sum is a number of the format. -/
theorem proper_add (x y : Binary64) : (x.add y).Proper := by
  cases x with
  | finite negative m e =>
      cases y with
      | finite negative' m' e' =>
          have sum := ((Ratio.denotes_ofNat m).scale e).add ((Ratio.denotes_ofNat m').scale e')
          exact proper_ofRatio sum.pos false
      | infinite _ | nan => trivial
  | infinite _ | nan => trivial

end Binary64

end FrameMux
