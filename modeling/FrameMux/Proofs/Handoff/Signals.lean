/-
**Events in the counter.**

Signals are added to the counter, so the counter says which events were signalled only as long as no
event is added twice.  This module keeps the two apart: a list of distinct events has the word of
all their bits, and adding the bit of one more event is the same as setting it.

Main definitions:

* `FrameMux.EventMask.ofEvents` — the mask of some events: the bitwise or of their bits.

Main results:

* `FrameMux.EventMask.contains_ofEvents` — the mask contains exactly these events;
* `FrameMux.Notifier.signal_ofEvents` — **signalling one more event** sets its bit;
* `FrameMux.Notifier.drain_ofEvents` — **draining** yields exactly these events, with no bit unknown.
-/

import FrameMux.Handoff.Notifier

set_option relaxedAutoImplicit false
set_option autoImplicit false

namespace FrameMux

namespace EventMask

/-- The mask of some events. -/
def ofEvents (l : List Event) : EventMask := ⟨l.foldr (fun e w => e.bit ||| w) 0⟩

/-- The word with the bits that are marked. -/
def word (started exited negotiated waiting : Bool) : UInt64 :=
  (if started then 1 else 0) ||| (if exited then 2 else 0) ||| (if negotiated then 4 else 0)
    ||| (if waiting then 8 else 0)

/-- The mask of some events, bit by bit. -/
theorem bits_ofEvents (l : List Event) :
    (ofEvents l).bits = word (l.contains .childStarted) (l.contains .pipelineExited)
      (l.contains .regionNegotiated) (l.contains .frameWaiting) := by
  induction l with
  | nil => rfl
  | cons e rest ih =>
      show e.bit ||| (ofEvents rest).bits = _
      simp only [ih, List.contains_cons]
      generalize rest.contains .childStarted = a
      generalize rest.contains .pipelineExited = b
      generalize rest.contains .regionNegotiated = c
      generalize rest.contains .frameWaiting = d
      revert a b c d
      cases e <;> decide

/-- A word has the bits that are marked. -/
theorem contains_word : ∀ started exited negotiated waiting : Bool,
    contains ⟨word started exited negotiated waiting⟩ .childStarted = started ∧
    contains ⟨word started exited negotiated waiting⟩ .pipelineExited = exited ∧
    contains ⟨word started exited negotiated waiting⟩ .regionNegotiated = negotiated ∧
    contains ⟨word started exited negotiated waiting⟩ .frameWaiting = waiting := by
  decide

/-- The mask contains exactly its events. -/
theorem contains_ofEvents (l : List Event) (e : Event) : (ofEvents l).contains e = l.contains e := by
  have marks := contains_word (l.contains .childStarted) (l.contains .pipelineExited)
    (l.contains .regionNegotiated) (l.contains .frameWaiting)
  rw [← bits_ofEvents] at marks
  obtain ⟨started, exited, negotiated, waiting⟩ := marks
  cases e with
  | childStarted => exact started
  | pipelineExited => exact exited
  | regionNegotiated => exact negotiated
  | frameWaiting => exact waiting

/-- The mask of no events, and of no other list, is empty. -/
theorem bits_ofEvents_eq_zero_iff {l : List Event} : (ofEvents l).bits = 0 ↔ l = [] := by
  constructor
  · intro zero
    cases l with
    | nil => rfl
    | cons e rest =>
        have marked : (ofEvents (e :: rest)).contains e = true := by
          rw [contains_ofEvents]
          simp
        rw [contains, zero] at marked
        simp at marked
  · rintro rfl
    rfl

/-- Only known bits are set. -/
theorem split_ofEvents (l : List Event) : split (ofEvents l).bits = (ofEvents l, 0) := by
  have known : ∀ a b c d, split (word a b c d) = (⟨word a b c d⟩, 0) := by decide
  rw [bits_ofEvents, known, ← bits_ofEvents]

/-- The word of some events is small. -/
theorem toNat_bits_ofEvents_le (l : List Event) : (ofEvents l).bits.toNat ≤ 15 := by
  have small : ∀ a b c d, (word a b c d).toNat ≤ 15 := by decide
  rw [bits_ofEvents]
  exact small _ _ _ _

/-- Adding a bit that is not marked is setting it. -/
theorem word_add : ∀ a b c d : Bool,
    word false b c d + 1 = 1 ||| word false b c d ∧ word a false c d + 2 = 2 ||| word a false c d ∧
    word a b false d + 4 = 4 ||| word a b false d ∧
    word a b c false + 8 = 8 ||| word a b c false := by
  decide

/-- Adding the bit of an event that is not there is setting it. -/
theorem bits_ofEvents_add {l : List Event} {e : Event} (new : e ∉ l) :
    (ofEvents l).bits + e.bit = (ofEvents (e :: l)).bits := by
  show (ofEvents l).bits + e.bit = e.bit ||| (ofEvents l).bits
  have unmarked : l.contains e = false := by simpa using new
  obtain ⟨started, exited, negotiated, waiting⟩ := word_add (l.contains .childStarted)
    (l.contains .pipelineExited) (l.contains .regionNegotiated) (l.contains .frameWaiting)
  rw [bits_ofEvents]
  cases e with
  | childStarted => rw [unmarked]; exact started
  | pipelineExited => rw [unmarked]; exact exited
  | regionNegotiated => rw [unmarked]; exact negotiated
  | frameWaiting => rw [unmarked]; exact waiting

end EventMask

namespace Notifier

/-- A counter without room for an event is not told of it. -/
theorem signal_of_full {n : Notifier} {e : Event}
    (full : limit ≤ n.counter.toNat + e.bit.toNat) :
    n.signal (.ofEvent e) = .error (.protocol .saturated) := by
  have small : (EventMask.ofEvent e).bits.toNat ≠ limit := by cases e <;> decide
  have full' : limit ≤ n.counter.toNat + (EventMask.ofEvent e).bits.toNat := full
  rw [signal, if_neg small, if_pos full']

/-- **Signalling an event** that is not in the counter sets its bit. -/
theorem signal_ofEvents {l : List Event} {e : Event} (new : e ∉ l) :
    signal ⟨(EventMask.ofEvents l).bits⟩ (.ofEvent e) =
      .ok ⟨(EventMask.ofEvents (e :: l)).bits⟩ := by
  have small := EventMask.toNat_bits_ofEvents_le l
  have bit : e.bit.toNat ≤ 8 := by cases e <;> decide
  rw [signal_eq_ok_iff]
  refine ⟨?_, by rw [← EventMask.bits_ofEvents_add new]; rfl⟩
  show (EventMask.ofEvents l).bits.toNat + e.bit.toNat < limit
  simp only [limit, UInt64.size]
  omega

/-- **Draining** yields exactly the events in the counter, and nothing if there are none. -/
theorem drain_ofEvents (l : List Event) :
    drain ⟨(EventMask.ofEvents l).bits⟩ =
      (if l = [] then none else some (EventMask.ofEvents l), fresh) := by
  refine Prod.ext ?_ (drain_snd _)
  show (drainRaw _).1.map _ = _
  by_cases empty : l = []
  · subst empty
    rfl
  · have pending : (EventMask.ofEvents l).bits ≠ 0 := fun zero =>
      empty (EventMask.bits_ofEvents_eq_zero_iff.1 zero)
    rw [if_neg empty, drainRaw, if_neg pending]
    simp only [Option.map_some, EventMask.split_ofEvents]

/-- A counter that holds something drains to something. -/
theorem drain_ne_none_of_pending {n : Notifier} (pending : n.pending = true) : n.drain.1 ≠ none := by
  intro nothing
  have clear := drainRaw_eq_none_iff.1 (Option.map_eq_none_iff.1 nothing)
  exact absurd clear (by simpa [Notifier.pending] using pending)

end Notifier

end FrameMux
