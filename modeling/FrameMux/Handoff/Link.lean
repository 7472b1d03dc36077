/-
**The link between one producer and the multiplexer.**

Every time a worker is spawned it gets a link of its own: a notification counter, a control socket,
and the memory files whose descriptors travelled over it.  The producer makes a region, sends it,
signals that it did, and publishes into it from then on; the multiplexer receives the region and
takes frames from the same memory.

Main definitions:

* `FrameMux.Link` — the state shared by the two sides;
* `FrameMux.Link.offer` — **the producer's half of the negotiation**;
* `FrameMux.Link.receiveRegion` — **the multiplexer's half**: every check on what arrives;
* `FrameMux.Link.publish`, `FrameMux.Link.take` — the slot operations on a file of the link;
* `FrameMux.Link.signal`, `FrameMux.Link.drain` — the counter's.
-/

import FrameMux.Handoff.Slot
import FrameMux.Handoff.Socket

set_option relaxedAutoImplicit false
set_option autoImplicit false

namespace FrameMux

/-- What a producer and the multiplexer share.  `writer` is the file that the producer publishes
into, once it has sent one. -/
structure Link where
  notifier : Notifier
  control : ControlSocket
  files : List MemoryFile
  writer : Option Nat
deriving DecidableEq, Repr, Inhabited

namespace Link

/-- A link just made. -/
def fresh : Link := ⟨.fresh, .fresh, [], none⟩

/-- The name of the regions that producers make. -/
def regionName : String := "camframe"

/-! ### The counter -/

/-- Adds an event mask to the counter. -/
def signal (l : Link) (mask : EventMask) : Except ChannelError Unit × Link :=
  match l.notifier.signal mask with
  | .ok notifier => (.ok (), { l with notifier })
  | .error e => (.error e, l)

/-- Takes the signalled events. -/
def drain (l : Link) : Option EventMask × Link :=
  (l.notifier.drain.1, { l with notifier := l.notifier.drain.2 })

/-! ### The files -/

/-- The memory of a file. -/
def region? (l : Link) (file : Nat) : Option Region := l.files[file]?.map (·.region)

/-- Changes the memory of a file. -/
def setRegion (l : Link) (file : Nat) (region : Region) : Link :=
  { l with files := l.files.modify file fun f => { f with region } }

/-- Overwrites bytes of a file. -/
def poke (l : Link) (file : Nat) (offset : Nat) (bytes : Bytes) : Link :=
  { l with files := l.files.modify file fun f => { f with region := f.region.poke offset bytes } }

/-- Adds a memory file; its number is the count before. -/
def addFile (l : Link) (file : MemoryFile) : Link := { l with files := l.files ++ [file] }

/-- Takes a frame out of the slot of a file. -/
def take (l : Link) (file : Nat) : Except ChannelError (Option SlotFrame) × Link :=
  match l.region? file with
  | none => (.ok none, l)
  | some region => (region.take.1, l.setRegion file region.take.2)

/-- Publishes a frame into the producer's region; without one there is no outcome. -/
def publish (l : Link) (data : Bytes) (width height : UInt32) :
    Option (Except ChannelError PublishOutcome) × Link :=
  match l.writer with
  | none => (none, l)
  | some file =>
      match l.region? file with
      | none => (none, l)
      | some region =>
          let (result, channel) := Channel.publish ⟨region, l.notifier⟩ data width height
          (some result, { l.setRegion file channel.region with notifier := channel.notifier })

/-! ### Negotiation -/

/-- The message that hands over a memory file, with all access to it. -/
def regionMessage (capacity : UInt64) (file : Nat) : SocketMessage :=
  ⟨littleEndian 8 capacity.toNat, [.memory file .readWrite]⟩

/-- Makes a region, with its header prepared if `prepare` says so, and sends it. -/
def sendRegion (mmap : Mmap) (l : Link) (prepare : Bool) (capacity : UInt64) :
    Except ChannelError Nat × Link :=
  match Region.create mmap regionName capacity with
  | .error e => (.error (.ofMapError e), l)
  | .ok region =>
      let file : MemoryFile := ⟨.fixedSize, if prepare then region.initialise else region⟩
      let number := l.files.length
      match l.control.send (regionMessage region.payloadCapacity number) with
      | .error cause => (.error (.negotiation (.sendFailed cause)), l)
      | .ok control => (.ok number, { l.addFile file with control })

/-- The producer's half of the negotiation: make a region, send it, tell, and publish into it from
now on.  The producer's own copy of the counter's descriptor is made after all that; that there may be
no descriptor left for it is left out, as it is everywhere. -/
def offer (mmap : Mmap) (l : Link) (prepare : Bool) (capacity : UInt64) :
    Except ChannelError Nat × Link :=
  match l.sendRegion mmap prepare capacity with
  | (.error e, l) => (.error e, l)
  | (.ok number, l) =>
      -- The region is on its way even if telling about it fails; then it has no writer.
      match l.signal (.ofEvent .regionNegotiated) with
      | (.error e, l) => (.error e, l)
      | (.ok (), l) => (.ok number, { l with writer := some number })

/-- The length of a negotiation message. -/
def messageLength : Nat := 8

/-- The most descriptors that fit beside a message. -/
def descriptorRoom : Nat := 4

/-- The one descriptor of a message, and its bytes. -/
def checkMessage (bytes : Bytes) (descriptors : List Descriptor) :
    Except NegotiationFault Descriptor :=
  -- How many descriptors came is judged before how many bytes did.
  if descriptorRoom < descriptors.length then .error .truncated
  else if 1 < descriptors.length then .error (.extraDescriptors descriptors.length)
  else if bytes.length ≠ messageLength then .error (.shortMessage bytes.length)
  else
    match descriptors with
    | [] => .error .noDescriptor
    | descriptor :: _ => .ok descriptor

/-- The region behind a descriptor, with the announced capacity and a prepared header. -/
def checkRegion (mmap : Mmap) (l : Link) (announced : UInt64) (descriptor : Descriptor) :
    Except NegotiationFault Nat :=
  match descriptor with
  | .other => .error (.unmappable (.invalid (.notSealable .invalidArgument)))
  | .memory number access =>
      match l.files[number]? with
      | none => .error (.unmappable (.invalid (.notSealable .invalidArgument)))
      | some file =>
          match file.checkUsable mmap access with
          | .error e => .error (.unmappable e)
          | .ok () =>
              if file.region.payloadCapacity ≠ announced then
                .error (.capacityMismatch announced file.region.payloadCapacity)
              else if file.region.header.magic ≠ Header.magicWord then
                .error (.badMagic file.region.header.magic)
              else .ok number

/-- The multiplexer's half of the negotiation: read one message and check everything about it. -/
def receiveRegion (mmap : Mmap) (l : Link) : Except ChannelError Nat × Link :=
  match l.control.receive messageLength with
  | (.error .nothingYet, _) => (.error (.negotiation (.receiveFailed .again)), l)
  | (.error .closed, _) => (.error (.negotiation .closedByPeer), l)
  | (.ok (bytes, descriptors), control) =>
      -- The message is used up whatever the checks say.
      let result : Except NegotiationFault Nat :=
        match checkMessage bytes descriptors with
        | .error fault => .error fault
        | .ok descriptor => l.checkRegion mmap (UInt64.ofNat (ofLittleEndian bytes)) descriptor
      (result.mapError .negotiation, { l with control })

/-! ### Ends -/

/-- Closes the producer's end of the control socket. -/
def closeSender (l : Link) : Link := { l with control := { l.control with senderOpen := false } }

/-- Closes the multiplexer's end of the control socket. -/
def closeReceiver (l : Link) : Link :=
  { l with control := { l.control with receiverOpen := false } }

end Link

end FrameMux
