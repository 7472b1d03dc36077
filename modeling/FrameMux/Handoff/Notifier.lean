/-
**The notification counter.**

A producer signals by adding an event mask to a 64-bit counter; the multiplexer drains the counter,
which returns the sum and clears it.  Since signals add up, an event that is signalled twice before
a drain does not arrive as itself: `8 + 8` is an unknown bit.

Main definitions:

* `FrameMux.Notifier` — the counter;
* `FrameMux.Notifier.signal` — adding a mask, unless the counter would saturate;
* `FrameMux.Notifier.drain` — the known events of the sum, and the cleared counter.

Main results:

* `FrameMux.Notifier.signal_eq_ok_iff` — **when a signal succeeds**, and what it adds;
* `FrameMux.Notifier.drainRaw_eq_none_iff` — nothing is drained exactly from a zero counter.
-/

import FrameMux.Handoff.Error
import FrameMux.Handoff.EventMask

set_option relaxedAutoImplicit false
set_option autoImplicit false

namespace FrameMux

/-- A counter shared by the two sides. -/
structure Notifier where
  counter : UInt64
deriving DecidableEq, Repr, Inhabited

namespace Notifier

/-- A counter nobody has signalled. -/
def fresh : Notifier := ⟨0⟩

/-- The greatest word cannot be added, nor may the counter reach it. -/
def limit : Nat := UInt64.size - 1

/-- Adds a mask to the counter. -/
def signal (n : Notifier) (mask : EventMask) : Except ChannelError Notifier :=
  if mask.bits.toNat = limit then .error (.system .invalidArgument)
  else if limit ≤ n.counter.toNat + mask.bits.toNat then .error (.protocol .saturated)
  else .ok ⟨n.counter + mask.bits⟩

/-- Whether there is something to drain. -/
def pending (n : Notifier) : Bool := n.counter ≠ 0

/-- Takes the sum of all signals since the last time. -/
def drainRaw (n : Notifier) : Option UInt64 × Notifier :=
  if n.counter = 0 then (none, n) else (some n.counter, fresh)

/-- Takes the known events signalled since the last time. -/
def drain (n : Notifier) : Option EventMask × Notifier :=
  (n.drainRaw.1.map fun w => (EventMask.split w).1, n.drainRaw.2)

/-- A signal succeeds exactly when the sum stays below the greatest word, and then adds its mask. -/
theorem signal_eq_ok_iff {n m : Notifier} {mask : EventMask} :
    n.signal mask = .ok m ↔
      n.counter.toNat + mask.bits.toNat < limit ∧ m = ⟨n.counter + mask.bits⟩ := by
  unfold signal
  split
  · rename_i top
    simp only [reduceCtorEq, false_iff, not_and]
    intro below
    omega
  · split
    · simp only [reduceCtorEq, false_iff, not_and]
      intro below
      omega
    · constructor
      · intro h; cases h; exact ⟨by omega, rfl⟩
      · rintro ⟨_, rfl⟩; rfl

/-- Nothing is drained exactly when nothing was added. -/
theorem drainRaw_eq_none_iff {n : Notifier} : n.drainRaw.1 = none ↔ n.counter = 0 := by
  unfold drainRaw
  split <;> simp_all

/-- A drained counter is clear. -/
theorem drain_snd (n : Notifier) : n.drain.2 = fresh := by
  unfold drain drainRaw
  split
  · rename_i h
    exact congrArg Notifier.mk h
  · rfl

end Notifier

end FrameMux
