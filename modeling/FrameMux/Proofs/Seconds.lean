/-
**Durations that are saved and loaded.**

A duration is saved as a number of seconds, which is rounded twice: the nanoseconds beyond the whole
seconds are divided, and then the two parts are added.  Loading rounds once more, to the nearest
nanosecond.  Below `2 ^ 23` seconds the two roundings together move the value by less than half a
nanosecond, so loading undoes them.  Further up a nanosecond may be less than half a unit in the last
place, and saving does lose durations; but a duration that was loaded is the one nearest to a number
of seconds, and saving it gives that number back.

Main results:

* `FrameMux.Duration.ofSeconds_eq_ok`, `FrameMux.Duration.accepted` — what loading accepts, and the
  duration it makes of it;
* `FrameMux.Duration.toSeconds_eq` — what is added up in saving;
* `FrameMux.Duration.whole_kept`, `FrameMux.Duration.short_kept`,
  `FrameMux.Duration.fractional_kept` — whole seconds, short durations, and durations that come from
  a number with a fraction;
* `FrameMux.Duration.load_save_load` — **saving and loading keeps** every duration that was loaded,
  and every one below `2 ^ 23` seconds.
-/

import FrameMux.Proofs.Binary64
import FrameMux.Time

set_option relaxedAutoImplicit false
set_option autoImplicit false

namespace FrameMux.Duration

open Binary64

variable {x y : Binary64} {q : ℚ} {d : Duration}

/-! ### Loading -/

/-- A number that is not below zero, and below `2 ^ 64`, is accepted, and rounded to nanoseconds. -/
theorem ofSeconds_eq_ok (h : x.Denotes q) (sign : (x.isNegative && !x.isZero) = false)
    (small : q < 2 ^ 64) :
    ∃ r : Ratio, r.Denotes (q * 1000000000) ∧ ofSeconds x = .ok ⟨r.round⟩ := by
  obtain ⟨r, magnitude, denotes⟩ := h
  refine ⟨⟨r.num * nanosPerSecond, r.den⟩, ⟨denotes.pos, ?_⟩, ?_⟩
  · simp only [nanosPerSecond, Nat.cast_mul, Nat.cast_ofNat, denotes.eq]
    ring
  · have bounded : ¬ r.den * UInt64.size ≤ r.num := by
      intro big
      have big' : (r.den : ℚ) * 2 ^ 64 ≤ q * r.den := by
        rw [← denotes.eq]
        exact_mod_cast big
      rw [mul_comm] at big'
      exact absurd (le_of_mul_le_mul_right big' denotes.den_pos) (not_le.2 small)
    simp only [ofSeconds, sign, magnitude, if_neg bounded]
    rfl

/-- Nothing else is accepted. -/
theorem accepted (h : ofSeconds x = .ok d) :
    (x.isNegative && !x.isZero) = false ∧ ∃ q, x.Denotes q ∧ q < 2 ^ 64 := by
  unfold ofSeconds at h
  split at h
  · cases h
  · next sign =>
      refine ⟨Bool.eq_false_iff.2 sign, ?_⟩
      cases x with
      | finite negative m e =>
          have denotes := (Ratio.denotes_ofNat m).scale e
          refine ⟨_, denotes_finite negative m e, ?_⟩
          simp only [magnitude?] at h
          split at h
          · cases h
          · next bounded =>
              refine not_le.1 fun big => bounded ?_
              have big' : (2 ^ 64 : ℚ) * ((Ratio.ofNat m).scale e).den ≤
                  ((Ratio.ofNat m).scale e).num := by
                rw [denotes.eq]
                exact mul_le_mul_of_nonneg_right big denotes.den_pos.le
              rw [Nat.mul_comm]
              exact_mod_cast big'
      | infinite _ => cases h
      | nan => cases h

/-- The duration of a number of seconds is the nearest one. -/
theorem nanos_near (h : ofSeconds x = .ok d) (value : x.Denotes q) (small : q < 2 ^ 64) :
    |(d.nanos : ℚ) - q * 1000000000| ≤ 1 / 2 := by
  obtain ⟨r, denotes, eq⟩ := ofSeconds_eq_ok value (accepted h).1 small
  rw [eq] at h
  cases h
  exact denotes.abs_round_sub_le

/-- A number of seconds less than half a nanosecond from a duration is loaded as it. -/
theorem ofSeconds_of_close (h : x.Denotes q) (sign : x.isNegative = false) (small : q < 2 ^ 64)
    (close : |q * 1000000000 - d.nanos| < 1 / 2) : ofSeconds x = .ok d := by
  obtain ⟨r, denotes, eq⟩ := ofSeconds_eq_ok h (by rw [sign, Bool.false_and]) small
  rw [eq, denotes.round_eq close]

/-- Loading depends on the value alone, where it is half a nanosecond as well. -/
theorem ofSeconds_congr (hx : x.Denotes q) (hy : y.Denotes q) (sign : y.isNegative = false)
    (small : q < 2 ^ 64) (h : ofSeconds x = .ok d) : ofSeconds y = .ok d := by
  obtain ⟨r, denotes, eq⟩ := ofSeconds_eq_ok hx (accepted h).1 small
  obtain ⟨s, denotes', eq'⟩ := ofSeconds_eq_ok hy (by rw [sign, Bool.false_and]) small
  rw [← h, eq, eq', denotes.round_congr denotes']

/-! ### Saving -/

theorem subsecNanos_lt (d : Duration) : d.subsecNanos < 1000000000 := Nat.mod_lt _ (by decide)

/-- A duration is its whole seconds and a fraction. -/
theorem nanos_eq (d : Duration) :
    (d.nanos : ℚ) = (d.secs + d.subsecNanos / 1000000000) * 1000000000 := by
  have parts : (d.secs : ℚ) * 1000000000 + d.subsecNanos = d.nanos := by
    exact_mod_cast d.secs_add_subsecNanos
  rw [← parts]
  ring

/-- Whole seconds of 53 bits are added as they are, and the fraction is off by half a unit at
most. -/
theorem toSeconds_eq {k j : Nat} (whole : d.secs = k * 2 ^ j) (bits : k < 2 ^ 53)
    (small : d.secs < 2 ^ 64) :
    ∃ (r : Ratio) (v : ℚ), d.toSeconds = ofRatio false r ∧ r.Denotes (d.secs + v) ∧
      |v - d.subsecNanos / 1000000000| ≤ 2 ^ (-54 : Int) ∧ (d.subsecNanos = 0 → v = 0) := by
  have secs : (ofNat d.secs).Denotes d.secs := denotes_ofNat whole bits small
  have sub := d.subsecNanos_lt
  have kept : ∀ n : Nat, n ≤ 1000000000 → (ofNat n).Denotes n := by
    intro n le
    exact denotes_ofNat (k := n) (j := 0) (by omega) (by omega) (by omega)
  obtain ⟨s, quotient, divided⟩ := (kept d.subsecNanos sub.le).div (kept nanosPerSecond le_rfl)
    (by norm_num [nanosPerSecond])
  rw [show ((nanosPerSecond : Nat) : ℚ) = 1000000000 by norm_num [nanosPerSecond]] at quotient
  have fraction : ∃ v, (ofRatio false s).Denotes v ∧
      |v - d.subsecNanos / 1000000000| ≤ 2 ^ (-54 : Int) ∧ (d.subsecNanos = 0 → v = 0) := by
    rcases Nat.eq_zero_or_pos d.subsecNanos with none | some
    · rw [none, Nat.cast_zero, zero_div] at quotient ⊢
      exact ⟨0, denotes_zero quotient false, by norm_num, fun _ => rfl⟩
    · have below : (d.subsecNanos : ℚ) / 1000000000 < 2 ^ (0 : Int) := by
        rw [zpow_zero, div_lt_one (by norm_num)]
        exact_mod_cast sub
      obtain ⟨v, rounded, close⟩ := near_ofRatio quotient below (by decide) (by decide) false
      exact ⟨v, rounded, close, fun none => absurd none some.ne'⟩
  obtain ⟨v, rounded, close, none⟩ := fraction
  obtain ⟨r, sum, added⟩ := secs.add rounded
  refine ⟨r, v, ?_, sum, close, none⟩
  rw [← added, ← divided]
  rfl

/-- **Whole seconds** of 53 bits are saved exactly. -/
theorem whole_kept {k j : Nat} (whole : d.secs = k * 2 ^ j) (bits : k < 2 ^ 53)
    (small : d.secs < 2 ^ 64) (none : d.subsecNanos = 0) : ofSeconds d.toSeconds = .ok d := by
  obtain ⟨r, v, eq, sum, -, nothing⟩ := toSeconds_eq whole bits small
  have small' : (d.secs : ℚ) < 2 ^ 64 := by exact_mod_cast small
  have value : (d.secs : ℚ) = k * 2 ^ (j : Int) := by
    rw [whole, zpow_natCast, Nat.cast_mul, Nat.cast_pow, Nat.cast_ofNat]
  rw [nothing none, add_zero] at sum
  have saved : (ofRatio false r).Denotes d.secs := by
    have bounded := lt_overflow small'
    rw [value] at sum bounded ⊢
    exact exact_ofRatio sum bits (by unfold leastExponent; omega) bounded false
  rw [eq]
  refine ofSeconds_of_close saved (isNegative_ofRatio _ _) small' ?_
  rw [d.nanos_eq, none, Nat.cast_zero, zero_div, add_zero, sub_self, abs_zero]
  norm_num

/-- **Short durations** are saved to within half a nanosecond. -/
theorem short_kept (short : d.secs < 2 ^ 23) : ofSeconds d.toSeconds = .ok d := by
  obtain ⟨r, v, eq, sum, close, -⟩ := toSeconds_eq (d := d) (k := d.secs) (j := 0) (by omega)
    (short.trans (by norm_num)) (short.trans (by norm_num))
  have secs : (d.secs : ℚ) + 1 ≤ 2 ^ 23 := by exact_mod_cast short
  have sub : (d.subsecNanos : ℚ) + 1 ≤ 1000000000 := by exact_mod_cast d.subsecNanos_lt
  obtain ⟨low, high⟩ := abs_le.1 close
  have below : (d.secs : ℚ) + v < 2 ^ (23 : Int) := by
    norm_num at low high ⊢
    linarith
  obtain ⟨w, saved, close'⟩ := near_ofRatio sum below (by decide) (by decide) false
  obtain ⟨low', high'⟩ := abs_le.1 close'
  rw [eq]
  refine ofSeconds_of_close saved (isNegative_ofRatio _ _) ?_ ?_
  · norm_num at high' below ⊢
    linarith
  · rw [d.nanos_eq, abs_lt]
    norm_num at low high low' high' ⊢
    constructor <;> linarith

/-- **A number with a fraction** that is no power of two is what its duration is saved as: a
nanosecond is more than the two errors, and half a unit in the last place is more still. -/
theorem fractional_kept {m : Nat} {e : Int} (normal : 2 ^ 52 < m) (bits : m < 2 ^ 53)
    (low : -29 ≤ e) (high : e < 0)
    (near : |(d.nanos : ℚ) - m * 2 ^ e * 1000000000| ≤ 1 / 2) :
    d.toSeconds.Denotes (m * 2 ^ e) := by
  have bits' : (m : ℚ) < 2 ^ 53 := by exact_mod_cast bits
  have unit : (2 : ℚ) ^ e ≤ 2 ^ (-1 : Int) := zpow_le_zpow_right₀ one_le_two (by omega)
  have half : (2 : ℚ) ^ (-30 : Int) ≤ 2 ^ (e - 1) := zpow_le_zpow_right₀ one_le_two (by omega)
  have small : (m : ℚ) * 2 ^ e < 2 ^ 52 := by
    calc (m : ℚ) * 2 ^ e ≤ m * 2 ^ (-1 : Int) := mul_le_mul_of_nonneg_left unit (by positivity)
      _ < 2 ^ 53 * 2 ^ (-1 : Int) := mul_lt_mul_of_pos_right bits' (by positivity)
      _ = 2 ^ 52 := by norm_num
  rw [d.nanos_eq] at near
  obtain ⟨short, long⟩ := abs_le.1 near
  have secs : d.secs < 2 ^ 53 := by
    have fraction : (0 : ℚ) ≤ d.subsecNanos / 1000000000 := by positivity
    have below : (d.secs : ℚ) < 2 ^ 53 := by linarith
    exact_mod_cast below
  obtain ⟨r, v, eq, sum, close, -⟩ := toSeconds_eq (d := d) (k := d.secs) (j := 0) (by omega) secs
    (secs.trans (by norm_num))
  obtain ⟨below, above⟩ := abs_le.1 close
  rw [eq]
  refine nearest_ofRatio sum normal bits (by unfold leastExponent; omega) (by omega) ?_ false
  refine lt_of_lt_of_le (abs_lt.2 ?_) half
  norm_num at below above ⊢
  constructor <;> linarith

/-! ### Saving and loading -/

/-- A number of seconds that is a natural is loaded as that many seconds. -/
theorem secs_of_natural {n : Nat} (near : |(d.nanos : ℚ) - n * 1000000000| ≤ 1 / 2) :
    d.secs = n ∧ d.subsecNanos = 0 := by
  obtain ⟨low, high⟩ := abs_le.1 near
  have low' : (n : ℚ) * 1000000000 < d.nanos + 1 := by linarith
  have high' : (d.nanos : ℚ) < n * 1000000000 + 1 := by linarith
  have low'' : n * 1000000000 < d.nanos + 1 := by exact_mod_cast low'
  have high'' : d.nanos < n * 1000000000 + 1 := by exact_mod_cast high'
  have nanos : d.nanos = n * 1000000000 := by omega
  rw [secs, subsecNanos, nanos, nanosPerSecond]
  omega

/-- What was loaded from a natural of 53 bits, and zeros, is kept. -/
theorem natural_kept {k j : Nat} (bits : k < 2 ^ 53) (small : k * 2 ^ j < 2 ^ 64)
    (near : |(d.nanos : ℚ) - (k * 2 ^ j : Nat) * 1000000000| ≤ 1 / 2) :
    ofSeconds d.toSeconds = .ok d := by
  obtain ⟨whole, none⟩ := secs_of_natural near
  exact whole_kept whole bits (whole ▸ small) none

/-- A duration that was loaded from less than `2 ^ 23` seconds is a short one, or was rounded up to
just as many. -/
theorem kept_of_short (short : q < 2 ^ 23) (near : |(d.nanos : ℚ) - q * 1000000000| ≤ 1 / 2) :
    ofSeconds d.toSeconds = .ok d := by
  obtain ⟨-, high⟩ := abs_le.1 near
  have atMost : (d.nanos : ℚ) < 2 ^ 23 * 1000000000 + 1 := by linarith
  have atMost' : d.nanos < 2 ^ 23 * 1000000000 + 1 := by exact_mod_cast atMost
  by_cases below : d.secs < 2 ^ 23
  · exact short_kept below
  · have parts := d.secs_add_subsecNanos
    rw [nanosPerSecond] at parts
    exact whole_kept (k := 1) (j := 23) (by omega) (by omega) (by omega) (by omega)

/-- A number of the format from `2 ^ 23` on is a natural, or has a fraction and is no power of two;
either way its duration is saved as it. -/
theorem kept_of_long {negative : Bool} {m : Nat} {e : Int} (proper : (finite negative m e).Proper)
    (h : ofSeconds (finite negative m e) = .ok d) (small : (m : ℚ) * 2 ^ e < 2 ^ 64)
    (long : 2 ^ 23 ≤ (m : ℚ) * 2 ^ e) : ofSeconds d.toSeconds = .ok d := by
  have value := denotes_finite negative m e
  have near := nanos_near h value small
  obtain ⟨bits, -, -, full⟩ := proper
  simp only [leastNormal] at bits full
  rcases lt_or_ge e 0 with fraction | whole
  · have low : -29 ≤ e := by
      have bits' : (m : ℚ) < 2 ^ (53 : Int) := by exact_mod_cast bits
      have less : (2 : ℚ) ^ (23 : Int) < 2 ^ (53 + e) := by
        rw [zpow_add₀ two_ne_zero]
        exact lt_of_le_of_lt (by exact_mod_cast long)
          (mul_lt_mul_of_pos_right bits' (by positivity))
      have := (zpow_lt_zpow_iff_right₀ one_lt_two).1 less
      omega
    have normal : 2 ^ 52 ≤ m := full.resolve_right (by unfold leastExponent; omega)
    rcases normal.eq_or_lt with power | more
    · obtain ⟨j, shift⟩ : ∃ j : Nat, 52 + e = j := ⟨(52 + e).toNat, by omega⟩
      have natural : (m : ℚ) * 2 ^ e = (1 * 2 ^ j : Nat) := by
        rw [← power, Nat.cast_pow, Nat.cast_ofNat, ← zpow_natCast, ← zpow_add₀ two_ne_zero]
        rw [show ((52 : Nat) : Int) + e = j from shift, zpow_natCast]
        norm_cast
        omega
      rw [natural] at near small
      exact natural_kept (by decide) (by exact_mod_cast small) near
    · exact ofSeconds_congr value (fractional_kept more bits low fraction near)
        (isNegative_add _ _) small h
  · obtain ⟨j, rfl⟩ := Int.eq_ofNat_of_zero_le whole
    have natural : (m : ℚ) * 2 ^ (j : Int) = (m * 2 ^ j : Nat) := by
      rw [zpow_natCast, Nat.cast_mul, Nat.cast_pow, Nat.cast_ofNat]
    rw [natural] at near small
    exact natural_kept bits (by exact_mod_cast small) near

/-- Saving a configuration and loading it again **keeps every duration that was loaded**, from
whichever number of the format, and **every duration below `2 ^ 23` seconds**, wherever it comes
from.  What is saved is a number of the format each time. -/
theorem load_save_load :
    (∀ (x : Binary64) (d : Duration), x.Proper → ofSeconds x = .ok d →
      ofSeconds d.toSeconds = .ok d) ∧
    (∀ d : Duration, d.secs < 2 ^ 23 → ofSeconds d.toSeconds = .ok d) ∧
    ∀ d : Duration, d.toSeconds.Proper := by
  refine ⟨?_, fun d => short_kept, fun d => proper_add _ _⟩
  intro x d proper h
  obtain ⟨-, q, value, small⟩ := accepted h
  by_cases short : q < 2 ^ 23
  · exact kept_of_short short (nanos_near h value small)
  · obtain ⟨negative, m, e, rfl, rfl⟩ := value.eq_finite
    exact kept_of_long proper h small (not_lt.1 short)

/-- The number after `2 ^ 23` is loaded as `2 ^ 23` seconds and two nanoseconds, which is kept; so is
the last nanosecond below. -/
theorem load_save_load_rehearsed :
    (Binary64.finite false (2 ^ 52 + 1) (-29)).Proper ∧
    ofSeconds (.finite false (2 ^ 52 + 1) (-29)) = .ok ⟨8388608000000002⟩ ∧
    ofSeconds (toSeconds ⟨8388608000000002⟩) = .ok ⟨8388608000000002⟩ ∧
    secs ⟨8388607999999999⟩ < 2 ^ 23 ∧
    ofSeconds (toSeconds ⟨8388607999999999⟩) = .ok ⟨8388607999999999⟩ := by
  obtain ⟨loaded, short, -⟩ := load_save_load
  have proper : (Binary64.finite false (2 ^ 52 + 1) (-29)).Proper :=
    ⟨by decide, by decide, by decide, Or.inl (by decide)⟩
  have accepts : ofSeconds (.finite false (2 ^ 52 + 1) (-29)) = .ok ⟨8388608000000002⟩ := by
    decide +kernel
  have below : secs ⟨8388607999999999⟩ < 2 ^ 23 := by decide
  exact ⟨proper, accepts, loaded _ _ proper accepts, below, short _ below⟩

-- From `2 ^ 23` seconds on not every duration is kept: the first nanosecond becomes two.
example : (ofSeconds (toSeconds ⟨8388608000000001⟩)).toOption = some ⟨8388608000000002⟩ := by
  decide +kernel

end FrameMux.Duration
