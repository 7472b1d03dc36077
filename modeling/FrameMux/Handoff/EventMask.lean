/-
**The events a producer announces.**

A producer tells the multiplexer what happened by adding a word of event bits to a shared counter.
Four bits are known; whatever else shows up in a drained word is ignored.

Main definitions:

* `FrameMux.Event` — the four events, each with its bit;
* `FrameMux.EventMask` — a word of event bits;
* `FrameMux.EventMask.split` — the known part of a drained word, and the rest;
* `FrameMux.EventMask.events` — the events of a mask, in the order of their bits.
-/

set_option relaxedAutoImplicit false
set_option autoImplicit false

namespace FrameMux

/-- What a producer announces. -/
inductive Event where
  | childStarted
  | pipelineExited
  | regionNegotiated
  | frameWaiting
deriving DecidableEq, Repr

namespace Event

/-- The bit of an event. -/
def bit : Event → UInt64
  | childStarted => 1
  | pipelineExited => 2
  | regionNegotiated => 4
  | frameWaiting => 8

/-- The name of an event. -/
def name : Event → String
  | childStarted => "CHILD_STARTED"
  | pipelineExited => "PIPELINE_EXITED"
  | regionNegotiated => "SHM_NEGOTIATED"
  | frameWaiting => "FRAME_WAITING"

/-- Every event, in the order of the bits. -/
def all : List Event := [childStarted, pipelineExited, regionNegotiated, frameWaiting]

end Event

/-- A word of event bits. -/
structure EventMask where
  bits : UInt64
deriving DecidableEq, Repr, Inhabited

namespace EventMask

/-- The mask of one event. -/
def ofEvent (e : Event) : EventMask := ⟨e.bit⟩

/-- The bits of all known events. -/
def knownBits : UInt64 := 15

/-- Whether an event is in a mask. -/
def contains (m : EventMask) (e : Event) : Bool := m.bits &&& e.bit ≠ 0

/-- The events of a mask. -/
def events (m : EventMask) : List Event := Event.all.filter m.contains

/-- The known part of a word, and its unknown bits. -/
def split (raw : UInt64) : EventMask × UInt64 := (⟨raw &&& knownBits⟩, raw &&& ~~~knownBits)

/-- The events of either of two masks. -/
def union (a b : EventMask) : EventMask := ⟨a.bits ||| b.bits⟩

@[simp] theorem split_fst (raw : UInt64) : (split raw).1 = ⟨raw &&& knownBits⟩ := rfl

example : (split 20).1.events = [.regionNegotiated] := by decide
example : (split (8 + 8)).1.events = [] := by decide

end EventMask

end FrameMux
