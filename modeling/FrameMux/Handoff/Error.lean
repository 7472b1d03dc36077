/-
**What can go wrong between a producer and the multiplexer.**

The two sides share a memory region, a notification counter and a control socket, and neither trusts
the other.  Each error is a cause of its own; its wording is in one function.

One outcome is no error that anybody returns: an addition of words whose sum is no word.  Arithmetic
is checked, so the call that meets one stops where it stands, and so do all the calls around it.  It
travels like an error here, as `overflow`, and whatever was changed before it stays changed.

Main definitions:

* `FrameMux.Seals` — the restrictions sealed onto a memory file;
* `FrameMux.RegionFault` — why a memory file is no usable region;
* `FrameMux.MapError` — an unusable region, a failed system call, or an overflow;
* `FrameMux.NegotiationFault` — why a region did not get across;
* `FrameMux.ProtocolFault` — a slot or counter in a condition that honest use never produces;
* `FrameMux.ChannelError` — **any error of the hand-off**, with `FrameMux.ChannelError.message`.
-/

import FrameMux.Errno

set_option relaxedAutoImplicit false
set_option autoImplicit false

namespace FrameMux

/-! ### Regions -/

/-- The restrictions sealed onto a memory file. -/
structure Seals where
  noMoreSeals : Bool
  noShrink : Bool
  noGrow : Bool
  noWrite : Bool
  noFutureWrite : Bool
deriving DecidableEq, Repr, Inhabited

namespace Seals

/-- A memory file without restrictions. -/
def none : Seals := ⟨false, false, false, false, false⟩

/-- The restrictions of a region made here: its size is final, and so are its seals. -/
def fixedSize : Seals := ⟨true, true, true, false, false⟩

/-- The seals that are set, by name. -/
def names (s : Seals) : List String :=
  (if s.noMoreSeals then ["SEAL"] else []) ++ (if s.noShrink then ["SHRINK"] else [])
    ++ (if s.noGrow then ["GROW"] else []) ++ (if s.noWrite then ["WRITE"] else [])
    ++ (if s.noFutureWrite then ["FUTURE_WRITE"] else [])

/-- How messages show a set of seals. -/
def text (s : Seals) : String :=
  "SealFlags(" ++ (if s.names.isEmpty then "0x0" else " | ".intercalate s.names) ++ ")"

example : fixedSize.text = "SealFlags(SEAL | SHRINK | GROW)" := by decide +kernel

end Seals

/-- Why a memory file is no usable region. -/
inductive RegionFault where
  | zeroCapacity
  | nulInName (position : Nat)
  | notSealable (cause : Errno)
  | resizable (seals : Seals)
  | tooShort (length : UInt64)
deriving DecidableEq, Repr

/-- The wording of a region fault. -/
def RegionFault.message : RegionFault → String
  | zeroCapacity => "payload capacity must be greater than 0"
  | nulInName position => s!"nul byte found in provided data at position: {position}"
  | notSealable cause => "descriptor is not a sealable memfd: " ++ cause.message
  | resizable seals => "region is not sealed against resizing (" ++ seals.text ++ ")"
  | tooShort length =>
      "region of " ++ toString length.toNat ++ " bytes cannot hold a 64-byte header and payload"

/-- What a sum that is no word is reported as where the call stops. -/
def overflowText : String := "attempt to add with overflow"

/-- Why a region could not be made or mapped: it is unusable, a system call failed, or the call
stopped at a sum that is no word. -/
inductive MapError where
  | invalid (fault : RegionFault)
  | system (cause : Errno)
  | overflow
deriving DecidableEq, Repr

/-- The wording of a mapping error. -/
def MapError.message : MapError → String
  | invalid fault => "Invalid shared region: " ++ fault.message
  | system cause => "System call failed: " ++ cause.message
  | overflow => overflowText

/-! ### Negotiation -/

/-- Why a region did not get from one side to the other. -/
inductive NegotiationFault where
  | sendFailed (cause : Errno)
  | receiveFailed (cause : Errno)
  | closedByPeer
  | truncated
  | extraDescriptors (count : Nat)
  | shortMessage (length : Nat)
  | noDescriptor
  | unmappable (cause : MapError)
  | capacityMismatch (announced actual : UInt64)
  | badMagic (word : UInt32)
deriving DecidableEq, Repr

/-- A word in lower-case hexadecimal. -/
def hexText (w : UInt32) : String := "0x" ++ String.ofList (Nat.toDigits 16 w.toNat)

/-- The wording of a negotiation fault. -/
def NegotiationFault.message : NegotiationFault → String
  | sendFailed cause => "sendmsg failed: " ++ cause.message
  | receiveFailed cause => "recvmsg failed: " ++ cause.message
  | closedByPeer => "control socket closed by peer"
  | truncated => "descriptor message truncated"
  | extraDescriptors count => s!"expected one descriptor, got {count}"
  | shortMessage length => s!"short negotiation message: {length} of 8 bytes"
  | noDescriptor => "no descriptor in negotiation message"
  | unmappable cause => "cannot map received region: " ++ cause.message
  | capacityMismatch announced actual =>
      "announced capacity " ++ toString announced.toNat ++ " does not match region capacity "
        ++ toString actual.toNat
  | badMagic word => "bad header magic " ++ hexText word

/-! ### The slot and the counter -/

/-- The step of a slot operation that met an unexpected state word. -/
inductive SlotStep where
  | publish
  | publishCommit
  | take
  | takeRelease
deriving DecidableEq, Repr

/-- The name of a step in messages. -/
def SlotStep.name : SlotStep → String
  | publish => "publish"
  | publishCommit => "publish commit"
  | take => "take"
  | takeRelease => "take release"

/-- A condition that honest use of the slot and the counter never produces. -/
inductive ProtocolFault where
  | unexpectedState (raw : UInt32) (during : SlotStep)
  | oversizedFrame (nbytes capacity : UInt64)
  | saturated
  | reported (text : String)
deriving DecidableEq, Repr

/-- The wording of a protocol fault. -/
def ProtocolFault.message : ProtocolFault → String
  | unexpectedState raw during =>
      "slot in unexpected state " ++ toString raw.toNat ++ " during " ++ during.name
  | oversizedFrame nbytes capacity =>
      "header claims " ++ toString nbytes.toNat ++ " bytes in a " ++ toString capacity.toNat
        ++ "-byte slot"
  | saturated => "notification counter saturated"
  | reported text => text

/-- Any error of the hand-off, or that the call stopped at a sum that is no word. -/
inductive ChannelError where
  | negotiation (fault : NegotiationFault)
  | sizeMismatch (expected actual : Nat)
  | protocol (fault : ProtocolFault)
  | region (fault : RegionFault)
  | system (cause : Errno)
  | overflow
deriving DecidableEq, Repr

namespace ChannelError

/-- The wording of an error. -/
def message : ChannelError → String
  | negotiation fault => "Shared-memory negotiation failed: " ++ fault.message
  | sizeMismatch expected actual =>
      s!"Frame size mismatch: slot holds {expected} bytes, frame has {actual}"
  | protocol fault => "Protocol violation: " ++ fault.message
  | region fault => (MapError.invalid fault).message
  | system cause => (MapError.system cause).message
  | overflow => MapError.overflow.message

/-- A mapping error as an error of the hand-off. -/
def ofMapError : MapError → ChannelError
  | .invalid fault => region fault
  | .system cause => system cause
  | .overflow => overflow

end ChannelError

end FrameMux
