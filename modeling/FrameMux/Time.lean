/-
**Instants and durations.**

Policies and stamps are measured in nanoseconds.  An instant counts from the start of the run; the
time between two instants is never negative, so a clock that steps back makes a gap of zero.  In
configuration files a duration is a number of seconds, possibly fractional, which is rounded to the
nearest nanosecond on the way in and printed as the nearest binary64 number on the way out.

Main definitions:

* `FrameMux.Duration` — a number of nanoseconds;
* `FrameMux.Duration.ofSeconds` — **reading seconds**: nearest nanosecond, ties to even, no negative
  numbers and none from `2 ^ 64` on;
* `FrameMux.Duration.toSeconds` — whole seconds plus the rounded fraction, rounded;
* `FrameMux.Instant`, `FrameMux.Instant.since` — a point in time, and the gap since another.
-/

import FrameMux.Binary64.Basic

set_option relaxedAutoImplicit false
set_option autoImplicit false

namespace FrameMux

/-! ### Durations -/

/-- A length of time. -/
structure Duration where
  nanos : Nat
deriving DecidableEq, Repr, Inhabited

/-- Why a number of seconds is no duration. -/
inductive SecondsError where
  | negative
  | tooBig
deriving DecidableEq, Repr

/-- The wording of a seconds error. -/
def SecondsError.message : SecondsError → String
  | negative => "cannot convert float seconds to Duration: value is negative"
  | tooBig => "cannot convert float seconds to Duration: value is either too big or NaN"

namespace Duration

instance : LE Duration := ⟨fun a b => a.nanos ≤ b.nanos⟩
instance : LT Duration := ⟨fun a b => a.nanos < b.nanos⟩
instance (a b : Duration) : Decidable (a ≤ b) := inferInstanceAs (Decidable (a.nanos ≤ b.nanos))
instance (a b : Duration) : Decidable (a < b) := inferInstanceAs (Decidable (a.nanos < b.nanos))

/-- The nanoseconds of one second. -/
def nanosPerSecond : Nat := 1000000000

/-- A number of whole seconds. -/
def ofSecs (n : Nat) : Duration := ⟨n * nanosPerSecond⟩

/-- A number of milliseconds. -/
def ofMillis (n : Nat) : Duration := ⟨n * 1000000⟩

/-- The whole seconds. -/
def secs (d : Duration) : Nat := d.nanos / nanosPerSecond

/-- The nanoseconds beyond the whole seconds. -/
def subsecNanos (d : Duration) : Nat := d.nanos % nanosPerSecond

/-- The whole milliseconds. -/
def millis (d : Duration) : Nat := d.nanos / 1000000

/-- The longer of two durations. -/
def max (a b : Duration) : Duration := if a ≤ b then b else a

/-- A duration is its whole seconds and the rest. -/
theorem secs_add_subsecNanos (d : Duration) :
    d.secs * nanosPerSecond + d.subsecNanos = d.nanos := by
  unfold secs subsecNanos
  rw [Nat.mul_comm]
  exact Nat.div_add_mod _ _

/-- The duration nearest to a number of seconds. -/
def ofSeconds (x : Binary64) : Except SecondsError Duration :=
  if x.isNegative && !x.isZero then .error .negative
  else
    match x.magnitude? with
    | none => .error .tooBig
    | some r =>
        if r.den * UInt64.size ≤ r.num then .error .tooBig
        else .ok ⟨roundHalfEven (r.num * nanosPerSecond) r.den⟩

/-- The number of seconds: the whole ones and the rounded fraction, added with rounding. -/
def toSeconds (d : Duration) : Binary64 :=
  (Binary64.ofNat d.secs).add ((Binary64.ofNat d.subsecNanos).div (Binary64.ofNat nanosPerSecond))

example : (ofSeconds (.zero true)).toOption = some ⟨0⟩ := by decide +kernel
example : (ofSeconds (.ofRatio true ⟨1, 10⟩)).toOption = none := by decide +kernel
example : (ofSeconds (.ofNat UInt64.size)).toOption = none := by decide +kernel
example : (ofSeconds (.ofRatio false ⟨3, 2000000000⟩)).toOption = some ⟨1⟩ := by decide +kernel

end Duration

/-! ### Instants -/

/-- A point in time, counted from the start of the run. -/
structure Instant where
  nanos : Nat
deriving DecidableEq, Repr, Inhabited

namespace Instant

instance : LE Instant := ⟨fun a b => a.nanos ≤ b.nanos⟩
instance (a b : Instant) : Decidable (a ≤ b) := inferInstanceAs (Decidable (a.nanos ≤ b.nanos))

/-- The instant a number of milliseconds after the start. -/
def ofMillis (n : Nat) : Instant := ⟨n * 1000000⟩

/-- The whole milliseconds from the start. -/
def millis (t : Instant) : Nat := t.nanos / 1000000

/-- The time from `earlier` to `now`, zero when the clock went back. -/
def since (now earlier : Instant) : Duration := ⟨now.nanos - earlier.nanos⟩

/-- The later of two instants. -/
def max (a b : Instant) : Instant := if a ≤ b then b else a

/-- The instant a duration later. -/
def add (t : Instant) (d : Duration) : Instant := ⟨t.nanos + d.nanos⟩

@[simp] theorem since_self (t : Instant) : t.since t = ⟨0⟩ := by simp [since]

end Instant

end FrameMux
