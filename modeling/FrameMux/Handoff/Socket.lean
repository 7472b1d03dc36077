/-
**The control socket.**

The producer hands its region to the multiplexer over a socket: a stream of bytes in which a message
may carry descriptors.  A read gathers bytes across messages until it has enough, nothing is left,
or it has passed over a message with descriptors; what it leaves of a message comes later, without
descriptors.

Main definitions:

* `FrameMux.Descriptor` — a memory file, by its number, with the access granted, or something else;
* `FrameMux.SocketMessage` — bytes with descriptors;
* `FrameMux.ControlSocket` — the stream and the state of its two ends;
* `FrameMux.ControlSocket.send`, `FrameMux.ControlSocket.receive` — the two operations.

Main results:

* `FrameMux.gather_length_le` — a read never returns more bytes than asked for.
-/

import FrameMux.Handoff.Region

set_option relaxedAutoImplicit false
set_option autoImplicit false

namespace FrameMux

/-- What a message can carry beside its bytes: a descriptor of a memory file, opened in one of the
ways, or of something else. -/
inductive Descriptor where
  | memory (file : Nat) (access : Access)
  | other
deriving DecidableEq, Repr

/-- Bytes on the stream, with the descriptors that travel with the first of them. -/
structure SocketMessage where
  bytes : Bytes
  descriptors : List Descriptor
deriving DecidableEq, Repr

/-- A stream from the producer to the multiplexer. -/
structure ControlSocket where
  queue : List SocketMessage
  senderOpen : Bool
  receiverOpen : Bool
deriving DecidableEq, Repr, Inhabited

/-- What one read gathers: bytes, descriptors, and what stays on the stream. -/
structure Gathered where
  bytes : Bytes
  descriptors : List Descriptor
  rest : List SocketMessage
deriving DecidableEq, Repr

/-- Gathers up to `limit` bytes from the head of a stream. -/
def gather : Nat → List SocketMessage → Gathered
  | _, [] => ⟨[], [], []⟩
  | 0, queue => ⟨[], [], queue⟩
  | limit, message :: rest =>
      let got := message.bytes.take limit
      let left := message.bytes.drop limit
      if !left.isEmpty then ⟨got, message.descriptors, ⟨left, []⟩ :: rest⟩
      else if !message.descriptors.isEmpty then ⟨got, message.descriptors, rest⟩
      else
        let more := gather (limit - got.length) rest
        ⟨got ++ more.bytes, more.descriptors, more.rest⟩

/-- A read never returns more bytes than asked for. -/
theorem gather_length_le (limit : Nat) (queue : List SocketMessage) :
    (gather limit queue).bytes.length ≤ limit := by
  fun_induction gather limit queue with
  | case1 => simp
  | case2 => simp
  | case3 limit message rest _ got left h => exact List.length_take_le _ _
  | case4 limit message rest _ got left _ h => exact List.length_take_le _ _
  | case5 limit message rest _ got left _ _ more ih =>
    simp only [List.length_append]
    simp only [more, got, List.length_take] at ih ⊢
    omega

namespace ControlSocket

/-- A socket just made. -/
def fresh : ControlSocket := ⟨[], true, true⟩

/-- Puts a message on the stream; an empty one leaves no trace. -/
def send (s : ControlSocket) (message : SocketMessage) : Except Errno ControlSocket :=
  if !s.receiverOpen then .error .brokenPipe
  else if message.bytes.isEmpty then .ok s
  else .ok { s with queue := s.queue ++ [message] }

/-- Why a read found nothing. -/
inductive Idle where
  | nothingYet
  | closed
deriving DecidableEq, Repr

/-- Reads up to `limit` bytes. -/
def receive (s : ControlSocket) (limit : Nat) :
    Except Idle (Bytes × List Descriptor) × ControlSocket :=
  if s.queue.isEmpty then
    (.error (if s.senderOpen then .nothingYet else .closed), s)
  else
    let got := gather limit s.queue
    (.ok (got.bytes, got.descriptors), { s with queue := got.rest })

end ControlSocket

end FrameMux
