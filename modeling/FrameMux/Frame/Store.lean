/-
**The frame cache.**

The multiplexer caches one frame per worker until a consumer has taken and released it.  Consumers
either pull single frames, the longest neglected worker first, or batches of the oldest frames.

Main definitions:

* `FrameMux.CachedFrame` — the cache of one worker;
* `FrameMux.FrameStore` — the caches of all workers and the number of the last frame;
* `FrameMux.Frame` — a frame handed to a consumer;
* `FrameMux.FrameStore.fill` — **putting a frame in**, under the next number;
* `FrameMux.FrameStore.pullOne`, `FrameMux.FrameStore.pullBatch` — **taking frames**;
* `FrameMux.FrameStore.release?`, `FrameMux.FrameStore.reset` — giving a cache back.

Main results:

* `FrameMux.CachedFrame.isCandidate_clear` — a cleared cache offers nothing;
* `FrameMux.FrameStore.cached?_fill`, `cached?_reset` — what the operations do to the entries;
* `FrameMux.FrameStore.pullBatch_zero` — an empty batch is no batch.
-/

import FrameMux.Handoff.Region
import FrameMux.Roster
import FrameMux.Time

set_option relaxedAutoImplicit false
set_option autoImplicit false

namespace FrameMux

/-! ### Entries -/

/-- The cache of one worker.  A ready frame waits for a consumer until it is read; `age` counts how
often another worker was preferred.  The number of a frame and the age go up by one at a time, so they
are naturals: a 64-bit word holds them for `2 ^ 64` frames and pulls. -/
structure CachedFrame where
  data : Option Bytes
  width : UInt32
  height : UInt32
  fid : Nat
  ready : Bool
  read : Bool
  age : Nat
  filledAt : Option Instant
deriving DecidableEq, Repr, Inhabited

namespace CachedFrame

/-- A cache that never held a frame. -/
def vacant : CachedFrame := ⟨none, 0, 0, 0, false, true, 0, none⟩

/-- Whether a frame waits to be taken. -/
def isCandidate (e : CachedFrame) : Bool := e.ready && !e.read

/-- The cache without its frame; the number and the time of the frame stay. -/
def clear (e : CachedFrame) : CachedFrame :=
  { e with data := none, ready := false, read := true, age := 0 }

/-- The cache with a new frame. -/
def fill (fid : Nat) (data : Bytes) (width height : UInt32) (now : Instant) : CachedFrame :=
  ⟨some data, width, height, fid, true, false, 0, some now⟩

@[simp] theorem isCandidate_clear (e : CachedFrame) : e.clear.isCandidate = false := rfl

@[simp] theorem isCandidate_fill (fid : Nat) (data : Bytes) (width height : UInt32)
    (now : Instant) : (fill fid data width height now).isCandidate = true := rfl

end CachedFrame

/-- A frame handed to a consumer. -/
structure Frame where
  worker : WorkerId
  width : UInt32
  height : UInt32
  sequence : Nat
  data : Bytes
deriving DecidableEq, Repr, Inhabited

/-- The frame in a cache. -/
def CachedFrame.frame? (e : CachedFrame) (worker : WorkerId) : Option Frame :=
  e.data.map fun data => ⟨worker, e.width, e.height, e.fid, data⟩

/-! ### The store -/

/-- The caches of all workers, and the number of the last frame, which is the number of frames that
were ever cached. -/
structure FrameStore where
  entries : Roster CachedFrame
  lastFid : Nat

namespace FrameStore

/-- The store without workers. -/
def empty : FrameStore := ⟨.empty, 0⟩

instance : Inhabited FrameStore := ⟨empty⟩

/-- The cache of a worker. -/
def cached? (s : FrameStore) (id : WorkerId) : Option CachedFrame := s.entries.get? id

/-- Gives a worker a cache, unless it has one. -/
def addWorker (s : FrameStore) (id : WorkerId) : FrameStore :=
  if s.entries.contains id then s else { s with entries := s.entries.insert id .vacant }

/-- Whether a worker has a cache without a frame. -/
def isVacant (s : FrameStore) (id : WorkerId) : Bool :=
  match s.cached? id with
  | some e => e.data.isNone
  | none => false

/-- Puts a frame into the cache of a worker, under the next number. -/
def fill (s : FrameStore) (id : WorkerId) (data : Bytes) (width height : UInt32) (now : Instant) :
    FrameStore :=
  let fid := s.lastFid + 1
  ⟨s.entries.insert id (.fill fid data width height now), fid⟩

/-- The cached frame of a worker, whether or not it was taken. -/
def snapshot (s : FrameStore) (id : WorkerId) : Option Frame :=
  (s.cached? id).bind fun e => e.frame? id

/-- The workers whose frames wait to be taken, with their caches. -/
def candidates (s : FrameStore) : List (WorkerId × CachedFrame) :=
  s.entries.entries.filter fun p => p.2.isCandidate

/-- The candidate that was passed over most often, the first of equally neglected ones. -/
def mostNeglected? : List (WorkerId × CachedFrame) → Option (WorkerId × CachedFrame)
  | [] => none
  | p :: rest =>
      -- Only a greater age is preferred, so the first of equals stays.
      match mostNeglected? rest with
      | none => some p
      | some q => if p.2.age < q.2.age then some q else some p

/-- How one pull ages a cache. -/
def ageAfterPull (chosen id : WorkerId) (e : CachedFrame) : CachedFrame :=
  if e.isCandidate then { e with age := if id = chosen then 0 else e.age + 1 } else e

/-- Takes the frame of the most neglected worker; it stays a candidate until it is released. -/
def pullOne (s : FrameStore) : Option Frame × FrameStore :=
  match mostNeglected? s.candidates with
  | none => (none, s)
  | some (id, e) => (e.frame? id, { s with entries := s.entries.mapIdx (ageAfterPull id) })

/-- Marks the frames of some workers as read. -/
def markRead (s : FrameStore) (ids : List WorkerId) : FrameStore :=
  { s with
    entries := s.entries.mapIdx fun id e =>
      if ids.contains id then { e with read := true } else e }

/-- The candidates with the lowest frame numbers, in order. -/
def oldest (s : FrameStore) (n : Nat) : List (WorkerId × CachedFrame) :=
  (s.candidates.mergeSort fun p q => p.2.fid ≤ q.2.fid).take n

/-- Takes exactly `n` frames, the oldest first, or none at all. -/
def pullBatch (s : FrameStore) (n : Nat) : Option (List Frame) × FrameStore :=
  if n = 0 ∨ s.candidates.length < n then (none, s)
  else
    let chosen := s.oldest n
    (some (chosen.filterMap fun p => p.2.frame? p.1), s.markRead (chosen.map Prod.fst))

/-- Takes the frame out of a cache, if the worker has one. -/
def reset (s : FrameStore) (id : WorkerId) : FrameStore :=
  { s with entries := s.entries.modify id CachedFrame.clear }

/-- Gives a cache back; a worker without one is unknown. -/
def release? (s : FrameStore) (id : WorkerId) : Option FrameStore :=
  if s.entries.contains id then some (s.reset id) else none

/-- How long a worker's cached frame has been there. -/
def lastFrameAge? (s : FrameStore) (id : WorkerId) (now : Instant) : Option Duration :=
  match s.cached? id with
  | some e => if e.data.isSome then e.filledAt.map now.since else none
  | none => none

/-- How many frames wait to be taken. -/
def readyCount (s : FrameStore) : Nat := s.candidates.length

@[simp] theorem cached?_fill (s : FrameStore) (id other : WorkerId) (data : Bytes)
    (width height : UInt32) (now : Instant) :
    (s.fill id data width height now).cached? other =
      if id = other then some (.fill (s.lastFid + 1) data width height now)
      else s.cached? other := by
  simp [fill, cached?]

@[simp] theorem cached?_reset (s : FrameStore) (id other : WorkerId) :
    (s.reset id).cached? other =
      if other = id then (s.cached? other).map CachedFrame.clear else s.cached? other := by
  simp [reset, cached?]

/-- An empty batch is no batch. -/
theorem pullBatch_zero (s : FrameStore) : s.pullBatch 0 = (none, s) := by simp [pullBatch]

/-- A batch that is larger than what waits is no batch, and changes nothing. -/
theorem pullBatch_of_lt {s : FrameStore} {n : Nat} (h : s.readyCount < n) :
    s.pullBatch n = (none, s) := by
  have h : s.candidates.length < n := h
  simp [pullBatch, h]

end FrameStore

end FrameMux
