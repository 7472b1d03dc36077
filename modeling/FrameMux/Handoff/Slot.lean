/-
**The one-frame slot.**

The producer publishes frames into the slot of a region and the reader takes them out.  Publishing
claims an empty slot, or a ready one whose frame it replaces, fills it, and makes it ready; while
the reader holds the slot, publishing gives up.  Taking claims a ready slot, copies the frame, and
leaves the slot empty.  A slot in a state that no honest use produces is an error for either side,
and the reader empties it, so that the next frame gets through.

Main definitions:

* `FrameMux.SlotFrame` — a frame taken out of a slot;
* `FrameMux.PublishOutcome` — how publishing ended;
* `FrameMux.Region.claim?` — the producer's claim on the slot;
* `FrameMux.Region.publish` — **putting a frame in**;
* `FrameMux.Region.take` — **taking a frame out**;
* `FrameMux.Channel` — a region and the counter that tells about it.
-/

import FrameMux.Handoff.Notifier
import FrameMux.Handoff.Region

set_option relaxedAutoImplicit false
set_option autoImplicit false

namespace FrameMux

/-- A frame taken out of a slot, with its publish number. -/
structure SlotFrame where
  data : Bytes
  width : UInt32
  height : UInt32
  sequence : UInt64
deriving DecidableEq, Repr, Inhabited

/-- How publishing ended: into an empty slot, over a waiting frame, or not at all. -/
inductive PublishOutcome where
  | published
  | replaced
  | busy
deriving DecidableEq, Repr, Inhabited

/-- The name of an outcome. -/
def PublishOutcome.name : PublishOutcome → String
  | published => "Published"
  | replaced => "Replaced"
  | busy => "Busy"

namespace Region

/-- A slot met in a state it must not be in. -/
def unexpected (raw : UInt32) (during : SlotStep) : ChannelError :=
  .protocol (.unexpectedState raw during)

/-- What the producer's claim finds. -/
inductive Claim where
  | granted (header : Header) (replacing : Bool)
  | busy
  | refused (raw : UInt32)
deriving DecidableEq, Repr

/-- The producer's claim: an empty slot, or a ready one. -/
def claim? (h : Header) : Claim :=
  match h.transition .empty .writing with
  | .ok claimed => .granted claimed false
  | .error raw =>
      if raw = SlotState.reading.raw then .busy
      else if raw = SlotState.ready.raw then
        match h.transition .ready .writing with
        | .ok claimed => .granted claimed true
        | .error raw => .refused raw
      else .refused raw

/-- Puts a frame into the slot.  Its length has to be the capacity of the slot. -/
def publish (r : Region) (data : Bytes) (width height : UInt32) :
    Except ChannelError PublishOutcome × Region :=
  if data.length ≠ r.payloadCapacity.toNat then
    (.error (.sizeMismatch r.payloadCapacity.toNat data.length), r)
  else
    match claim? r.header with
    | .busy => (.ok .busy, r)
    | .refused raw => (.error (unexpected raw .publish), r)
    | .granted claimed replacing =>
        let (count, filled) :=
          (claimed.setFrame (UInt64.ofNat data.length) width height).bumpSequence
        let written := { r.writePayload data with header := filled }
        match count with
        -- Where the count ends the call does too, and the slot stays claimed.
        | none => (.error .overflow, written)
        | some _ =>
            -- The commit is what makes the frame visible: until then the slot is the producer's.
            match filled.transition .writing .ready with
            | .error raw => (.error (unexpected raw .publishCommit), written)
            | .ok committed =>
                let outcome := if replacing then PublishOutcome.replaced else .published
                (.ok outcome, { written with header := committed })

/-- The frame that the header describes. -/
def heldFrame (r : Region) : SlotFrame :=
  { data := r.readPayload r.header.nbytes.toNat
    width := r.header.width
    height := r.header.height
    sequence := r.header.sequence }

/-- Takes the frame out of a ready slot; a slot in any other known state has none. -/
def take (r : Region) : Except ChannelError (Option SlotFrame) × Region :=
  match r.header.transition .ready .reading with
  | .error raw =>
      if (SlotState.ofRaw? raw).isSome then (.ok none, r)
      else (.error (unexpected raw .take), r.mapHeader .reset)
  | .ok claimed =>
      -- From here on the slot is the reader's, so the header describes one frame.
      let held := { r with header := claimed }
      if held.payloadCapacity < claimed.nbytes then
        -- The frame is lost, but the slot is free for the next one.
        (.error (.protocol (.oversizedFrame claimed.nbytes held.payloadCapacity)),
          held.mapHeader .reset)
      else
        match claimed.transition .reading .empty with
        | .error raw => (.error (unexpected raw .takeRelease), held)
        | .ok released => (.ok (some held.heldFrame), { held with header := released })

/-- How many frames were published into the region. -/
def published (r : Region) : UInt64 := r.header.sequence

end Region

/-! ### A slot with its notifications -/

/-- A region and the counter that tells the reader about it. -/
structure Channel where
  region : Region
  notifier : Notifier
deriving DecidableEq, Repr, Inhabited

namespace Channel

/-- Puts a frame into the slot and tells the reader, unless a frame was waiting already. -/
def publish (c : Channel) (data : Bytes) (width height : UInt32) :
    Except ChannelError PublishOutcome × Channel :=
  match c.region.publish data width height with
  | (.ok .published, region) =>
      match c.notifier.signal (.ofEvent .frameWaiting) with
      | .ok notifier => (.ok .published, ⟨region, notifier⟩)
      | .error e => (.error e, ⟨region, c.notifier⟩)
  | (result, region) => (result, ⟨region, c.notifier⟩)

/-- Takes the frame out of the slot. -/
def take (c : Channel) : Except ChannelError (Option SlotFrame) × Channel :=
  (c.region.take.1, { c with region := c.region.take.2 })

end Channel

end FrameMux
