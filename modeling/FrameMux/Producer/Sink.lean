/-
**The producer's end of a link as a sink.**

A producer negotiates its slot with the first frame, or when asked to, and keeps it from then on.

Main definitions:

* `FrameMux.Link.negotiated` — whether the producer has a slot;
* `FrameMux.Link.ensureWriter` — a slot, negotiated now if there is none;
* `FrameMux.ShmSink` — **the sink**: a link, with the system's answer to mappings.

Main results:

* `FrameMux.Link.ensureWriter_of_negotiated` — negotiating again changes nothing.
-/

import FrameMux.Handoff.Link
import FrameMux.Producer.Pipeline

set_option relaxedAutoImplicit false
set_option autoImplicit false

namespace FrameMux

namespace Link

/-- Whether the producer has a slot to publish into. -/
def negotiated (l : Link) : Bool := l.writer.isSome

/-- A slot to publish into: the one there is, or a new one. -/
def ensureWriter (mmap : Mmap) (l : Link) (capacity : Nat) : Except ChannelError Unit × Link :=
  if l.negotiated then (.ok (), l)
  else
    match l.offer mmap true (UInt64.ofNat capacity) with
    | (.ok _, l) => (.ok (), l)
    | (.error e, l) => (.error e, l)

/-- Announces events. -/
def announce (l : Link) (mask : EventMask) : Except ProducerError Unit × Link :=
  ((l.signal mask).1.mapError .channel, (l.signal mask).2)

/-- Publishes a frame, into a slot of its length if there is none yet. -/
def publishFrame (mmap : Mmap) (l : Link) (data : Bytes) (width height : UInt32) :
    Except ProducerError PublishOutcome × Link :=
  match l.ensureWriter mmap data.length with
  | (.error e, l) => (.error (.channel e), l)
  | (.ok (), l) =>
      match l.publish data width height with
      | (some result, l) => (result.mapError .channel, l)
      | (none, l) => (.ok .busy, l)

/-- Negotiating again changes nothing. -/
theorem ensureWriter_of_negotiated {l : Link} (h : l.negotiated = true) (mmap : Mmap)
    (capacity : Nat) : l.ensureWriter mmap capacity = (.ok (), l) := by
  simp [ensureWriter, h]

end Link

/-- The producer's end of a link, in a process whose requests for mappings are answered in one way. -/
structure ShmSink where
  link : Link
  mmap : Mmap

instance : FrameSink ShmSink where
  announce s mask := ((s.link.announce mask).1, { s with link := (s.link.announce mask).2 })
  negotiate s capacity :=
    ((s.link.ensureWriter s.mmap capacity).1.mapError .channel,
      { s with link := (s.link.ensureWriter s.mmap capacity).2 })
  publish s data width height :=
    ((s.link.publishFrame s.mmap data width height).1,
      { s with link := (s.link.publishFrame s.mmap data width height).2 })

end FrameMux
