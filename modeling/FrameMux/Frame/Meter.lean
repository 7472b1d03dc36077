/-
**Throughput.**

The meter counts the frames of each second and reports their average over the last ten full seconds.
The counts of full seconds stand in a ring: when a second ends, its count goes over the oldest one.
A call may come long after the last, so ending seconds is a loop.

Main definitions:

* `FrameMux.ThroughputMeter` — the counts of the last full seconds and of the current one;
* `FrameMux.ThroughputMeter.closeSecond` — the end of one second;
* `FrameMux.ThroughputMeter.roll`, `FrameMux.ThroughputMeter.record` — **time and frames passing**;
* `FrameMux.ThroughputMeter.average` — frames per second.

Main results:

* `FrameMux.ThroughputMeter.roll_of_isOver`, `roll_of_not_isOver` — the two turns of the loop.
-/

import FrameMux.Time

set_option relaxedAutoImplicit false
set_option autoImplicit false

namespace FrameMux

namespace ThroughputMeter

/-- How many seconds are kept. -/
def window : Nat := 10

/-- The place in the ring after a place. -/
def after (place : Fin window) : Fin window := ⟨(place + 1) % window, Nat.mod_lt _ (by decide)⟩

end ThroughputMeter

/-- Frame counts of the last full seconds in a ring, and of the current second.  The places of the
ring that no second has filled yet hold zero. -/
structure ThroughputMeter where
  samples : Vector UInt32 ThroughputMeter.window
  filled : Nat
  next : Fin ThroughputMeter.window
  current : UInt32
  secondStart : Instant
deriving DecidableEq, Repr

namespace ThroughputMeter

/-- A meter at the start of its first second. -/
def start (now : Instant) : ThroughputMeter :=
  { samples := .replicate window 0, filled := 0, next := ⟨0, by decide⟩, current := 0
    secondStart := now }

/-- Whether the current second is over. -/
def isOver (m : ThroughputMeter) (now : Instant) : Bool :=
  decide (Duration.ofSecs 1 ≤ now.since m.secondStart)

/-- Ends the current second: its count is kept in place of the oldest one. -/
def closeSecond (m : ThroughputMeter) : ThroughputMeter :=
  { samples := m.samples.set m.next m.current
    filled := min (m.filled + 1) window
    next := after m.next
    current := 0
    secondStart := m.secondStart.add (.ofSecs 1) }

/-- A second is over once a second has passed since its start. -/
theorem isOver_iff {m : ThroughputMeter} {now : Instant} :
    m.isOver now = true ↔ m.secondStart.nanos + Duration.nanosPerSecond ≤ now.nanos := by
  have le_iff : m.isOver now = true ↔
      1 * Duration.nanosPerSecond ≤ now.nanos - m.secondStart.nanos := decide_eq_true_iff
  rw [le_iff, Duration.nanosPerSecond]
  omega

/-- A second that is over leaves less time to the next call. -/
theorem nanos_since_closeSecond_lt {m : ThroughputMeter} {now : Instant}
    (past : m.isOver now = true) :
    (now.since m.closeSecond.secondStart).nanos < (now.since m.secondStart).nanos := by
  rw [isOver_iff] at past
  show now.nanos - (m.secondStart.nanos + 1 * Duration.nanosPerSecond)
    < now.nanos - m.secondStart.nanos
  rw [Duration.nanosPerSecond] at past ⊢
  omega

/-- Ends every second that is over by now. -/
def roll (m : ThroughputMeter) (now : Instant) : ThroughputMeter :=
  if m.isOver now then m.closeSecond.roll now else m
termination_by (now.since m.secondStart).nanos
decreasing_by exact nanos_since_closeSecond_lt ‹_›

/-- Adds frames without passing the greatest count. -/
def saturatingAdd (a b : UInt32) : UInt32 :=
  UInt32.ofNat (min (a.toNat + b.toNat) (UInt32.size - 1))

/-- Counts frames that were handed out now; their number is taken modulo `2 ^ 32`. -/
def record (m : ThroughputMeter) (frames : Nat) (now : Instant) : ThroughputMeter :=
  let m := m.roll now
  { m with current := saturatingAdd m.current (UInt32.ofNat frames) }

/-- The frames of the kept seconds. -/
def total (m : ThroughputMeter) : Nat :=
  m.samples.toList.foldr (fun frames sum => frames.toNat + sum) 0

/-- The average over the kept seconds. -/
def average (m : ThroughputMeter) : Binary64 :=
  if m.filled = 0 then .zero false else (Binary64.ofNat m.total).div (.ofNat m.filled)

/-- While a second is over, the loop ends it and goes on. -/
theorem roll_of_isOver {m : ThroughputMeter} {now : Instant} (h : m.isOver now = true) :
    m.roll now = m.closeSecond.roll now := by
  rw [roll, if_pos h]

/-- The loop stops in a second that is not over. -/
theorem roll_of_not_isOver {m : ThroughputMeter} {now : Instant} (h : m.isOver now = false) :
    m.roll now = m := by
  rw [roll, h]
  exact if_neg Bool.false_ne_true

end ThroughputMeter

end FrameMux
