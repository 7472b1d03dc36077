/-
**Frame regions.**

A region is a sealed memory file mapped by both sides: a 64-byte header and a payload for one frame.
The payload of a fresh file reads as zeros, so only the bytes up to the last one written are kept.
Lengths are 64-bit words, as the mapping takes them.  The header's 64 bytes are added to a capacity
with a check; they are subtracted from the length of a region, which no mapped region falls short of.

Main definitions:

* `FrameMux.Region` — the mapped memory: its length, header and payload;
* `FrameMux.Region.payloadCapacity` — the bytes behind the header;
* `FrameMux.Region.create` — **making a region** for a payload capacity;
* `FrameMux.Region.readPayload`, `FrameMux.Region.poke` — reading and overwriting bytes;
* `FrameMux.MemoryFile` — a memory file with its seals, and whether it can serve as a region.
-/

import FrameMux.Handoff.Header
import FrameMux.Handoff.Mapping

set_option relaxedAutoImplicit false
set_option autoImplicit false

namespace FrameMux

/-- The bytes of a frame. -/
abbrev Bytes := List UInt8

/-! ### Mapped memory -/

/-- A region as both sides see it.  The payload is zero beyond the bytes listed. -/
structure Region where
  length : UInt64
  header : Header
  payload : Bytes
deriving DecidableEq, Repr, Inhabited

/-- The bytes with `new` written at `offset`; the gap up to there reads as zero. -/
def spliceBytes (old : Bytes) (offset : Nat) (new : Bytes) : Bytes :=
  let before := old.take offset ++ List.replicate (offset - old.length) 0
  before ++ new ++ old.drop (offset + new.length)

namespace Region

/-- Zeroed memory of a length. -/
def zeroed (length : UInt64) : Region := ⟨length, .blank, []⟩

/-- The bytes behind the header. -/
def payloadCapacity (r : Region) : UInt64 := r.length - Header.size

/-- Whether the mapping has no bytes at all. -/
def isEmpty (r : Region) : Bool := r.length = 0

/-- The first `n` bytes of the payload. -/
def readPayload (r : Region) (n : Nat) : Bytes :=
  r.payload.take n ++ List.replicate (n - r.payload.length) 0

/-- Replaces the payload. -/
def writePayload (r : Region) (data : Bytes) : Region := { r with payload := data }

/-- Changes the header. -/
def mapHeader (r : Region) (f : Header → Header) : Region := { r with header := f r.header }

/-- Prepares the header for the first frame. -/
def initialise (r : Region) : Region := { r with header := .initialised }

/-- Overwrites bytes of the region: header fields, the unused rest of the header, the payload. -/
def poke (r : Region) (offset : Nat) (bytes : Bytes) : Region :=
  let inFields := bytes.take (Header.fieldsEnd - offset)
  let fields := (spliceBytes r.header.toBytes offset inFields).take Header.fieldsEnd
  let header := if inFields.isEmpty then r.header else .ofBytes fields
  let start := Header.size.toNat
  let behind := bytes.drop (start - offset)
  let payload :=
    if behind.isEmpty then r.payload else spliceBytes r.payload (offset - start) behind
  { r with header, payload }

@[simp] theorem length_readPayload (r : Region) (n : Nat) : (r.readPayload n).length = n := by
  simp only [readPayload, List.length_append, List.length_take, List.length_replicate]
  omega

/-! ### Making a region -/

/-- The longest name of a memory file, in bytes. -/
def longestName : Nat := 249

/-- Where the first NUL stands in a name, in bytes. -/
def nulPosition? (name : String) : Option Nat :=
  let before := name.toList.takeWhile (·.toNat ≠ 0)
  if before.length < name.toList.length then some (String.ofList before).utf8ByteSize else none

/-- Makes a zeroed region whose payload holds `capacity` bytes, with the system's answer to the mapping
of it.  Other ways for the system to fail, such as having no descriptors left, are left out. -/
def create (mmap : Mmap) (name : String) (capacity : UInt64) : Except MapError Region :=
  if capacity = 0 then .error (.invalid .zeroCapacity)
  else
    match nulPosition? name with
    | some position => .error (.invalid (.nulInName position))
    | none =>
        if longestName < name.utf8ByteSize then .error (.system .invalidArgument)
        else
          match checkedAdd Header.size capacity with
          | none => .error .overflow
          | some length =>
              -- The length of a file is a signed word.
              if UInt64.size / 2 ≤ length.toNat then .error (.system .invalidArgument)
              else
                match mmap .fixedSize .readWrite length with
                | .error cause => .error (.system cause)
                | .ok () => .ok (zeroed length)

end Region

/-! ### Memory files -/

/-- A memory file: its memory and the restrictions sealed onto it. -/
structure MemoryFile where
  seals : Seals
  region : Region
deriving DecidableEq, Repr, Inhabited

namespace MemoryFile

/-- Whether a file that was received with some access can serve as a region: its size has to be final
and beyond the header, and it has to be mapped. -/
def checkUsable (mmap : Mmap) (access : Access) (file : MemoryFile) : Except MapError Unit :=
  if !(file.seals.noShrink && file.seals.noGrow) then .error (.invalid (.resizable file.seals))
  else if file.region.length ≤ Header.size then
    .error (.invalid (.tooShort file.region.length))
  else
    match mmap file.seals access file.region.length with
    | .error cause => .error (.system cause)
    | .ok () => .ok ()

end MemoryFile

end FrameMux
