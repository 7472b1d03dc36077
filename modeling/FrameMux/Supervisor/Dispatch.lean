/-
**Events and frames.**

The multiplexer waits for counters, and for each token drains the counter of the worker and goes by
what was signalled.  Events of earlier generations are discarded.  Then it takes waiting frames into
the cache, where there is room.

The frames a producer skipped are added up in a word, with a check.  The numbers come from the
producer, so the sum can fail to be a word; then the pass ends in the middle, and with it the activity
that made it, for good.  What was done up to there stays.

Main definitions:

* `FrameMux.Supervisor.wait` — the tokens of signalled counters;
* `FrameMux.Supervisor.dispatch` — **one token**;
* `FrameMux.Supervisor.LookResult` — how a look at one worker's region ended;
* `FrameMux.Supervisor.readFrames` — **taking frames** from all alive workers.

Main results:

* `FrameMux.Supervisor.dispatch_of_generation` — a token of another generation only counts as
  discarded.
-/

import FrameMux.Supervisor.Tick

set_option relaxedAutoImplicit false
set_option autoImplicit false

namespace FrameMux

namespace Supervisor

variable {σ : Type}

/-! ### Events -/

/-- Waits for counters, without blocking. -/
def wait (s : Supervisor σ) : List Token × Supervisor σ :=
  let signalled := fun n => (s.links[n]?.map fun link => link.notifier.pending).getD false
  ((s.poller.wait signalled).1, { s with poller := (s.poller.wait signalled).2 })

/-- Drops an event. -/
def discard (s : Supervisor σ) : Option EventMask × Supervisor σ :=
  (none, { s with discarded := s.discarded + 1 })

/-- Takes part in a negotiation, unless the region is known already.  A failed negotiation is left
to the watchdog. -/
def negotiate (s : Supervisor σ) (id : WorkerId) (channels : WorkerLink) (mmap : Mmap) :
    Supervisor σ :=
  if channels.reader.isSome then s
  else
    match s.links[channels.link]?.map (Link.receiveRegion mmap) with
    | none => s
    | some (result, link) =>
        -- A refused message is gone from the socket.
        let s := s.modifyLink channels.link fun _ => link
        match result with
        | .error _ => s
        | .ok file =>
            let channels := some { channels with reader := some file }
            s.modifyWorker id fun w => { w with channels }

/-- Notes the marks that a mask sets on a worker. -/
def noteEvents (mask : EventMask) (w : Worker) : Worker :=
  { w with
    exitReported := w.exitReported || mask.contains .pipelineExited
    frameWaiting := w.frameWaiting || mask.contains .frameWaiting }

/-- Goes by what was signalled on a worker's link. -/
def applyMask (s : Supervisor σ) (id : WorkerId) (channels : WorkerLink) (mask : EventMask)
    (mmap : Mmap) : Supervisor σ :=
  let s := if mask.contains .regionNegotiated then s.negotiate id channels mmap else s
  s.modifyWorker id (noteEvents mask)

/-- Drains the counter that a token stands for and goes by what was signalled.  A region that comes
along is mapped, with the system's answer to that. -/
def dispatch (s : Supervisor σ) (token : Token) (mmap : Mmap) : Option EventMask × Supervisor σ :=
  match s.worker? token.worker with
  | none => s.discard
  | some w =>
      if w.generation ≠ token.generation then s.discard
      else
        match w.channels with
        | none => s.discard
        | some channels =>
            match s.links[channels.link]?.map Link.drain with
            | none => (none, s)
            | some (none, _) => (none, s)
            | some (some mask, link) =>
                let s := s.modifyLink channels.link fun _ => link
                (some mask, s.applyMask token.worker channels mask mmap)

/-- A token of another generation only counts as discarded. -/
theorem dispatch_of_generation {s : Supervisor σ} {token : Token} {w : Worker}
    (known : s.worker? token.worker = some w) (old : w.generation ≠ token.generation)
    (mmap : Mmap) :
    s.dispatch token mmap = (none, { s with discarded := s.discarded + 1 }) := by
  simp [dispatch, known, old, discard]

/-! ### Frames -/

/-- How many frames a reader missed before a frame. -/
def skippedBefore (sequence taken : UInt64) : UInt64 :=
  UInt64.ofNat (sequence.toNat - taken.toNat - 1)

/-- Marks a frame as taken, with the sum of all frames missed so far.  The number of frames received is
a word too; it goes up by one with each frame, so it stays one for `2 ^ 64` frames. -/
def noteTaken (dropped sequence : UInt64) (now : Instant) (w : Worker) : Worker :=
  { w with
    dropped
    taken := sequence
    received := w.received + 1
    frameWaiting := false
    lastFrame := some now }

/-- Marks that the producer published. -/
def notePublished (published : UInt64) (now : Instant) (w : Worker) : Worker :=
  if published = w.published then w else { w with published, lastFrame := some now }

/-- How a look at one worker's region ended: without a frame, with one, or in the middle, because the
frames missed are too many for a word. -/
inductive LookResult where
  | nothing
  | took
  | overflow
deriving DecidableEq, Repr

/-- Takes a waiting frame of a worker into the cache. -/
def takeFrame (s : Supervisor σ) (id : WorkerId) (w : Worker) (n file : Nat) (now : Instant) :
    LookResult × Supervisor σ :=
  match s.links[n]?.map fun link => link.take file with
  | none => (.nothing, s)
  | some (result, link) =>
      -- The slot has changed even where the frame was refused, or cannot be counted.
      let s := s.modifyLink n fun _ => link
      match result with
      | .ok (some frame) =>
          match checkedAdd w.dropped (skippedBefore frame.sequence w.taken) with
          | none => (.overflow, s)
          | some dropped =>
              (.took,
                { s.modifyWorker id (noteTaken dropped frame.sequence now) with
                  frames := s.frames.fill id frame.data frame.width frame.height now })
      | .ok none => (.nothing, s)
      | .error _ => (.nothing, s)

/-- Looks at the region of one worker, if it is alive and has negotiated. -/
def readWorker (s : Supervisor σ) (now : Instant) (id : WorkerId) : LookResult × Supervisor σ :=
  match s.worker? id with
  | none => (.nothing, s)
  | some w =>
      if w.state ≠ .alive then (.nothing, s)
      else
        match w.channels with
        | some ⟨n, some file⟩ =>
            let region := s.links[n]?.bind fun link => link.region? file
            let published := (region.map Region.published).getD 0
            -- The producer's progress counts even while nobody takes its frames.
            let s := s.modifyWorker id (notePublished published now)
            if w.frameWaiting && s.frames.isVacant id then s.takeFrame id w n file now
            else (.nothing, s)
        | _ => (.nothing, s)

/-- Looks at the regions of some workers in order, up to one at which it stops, and tells how many
frames were taken unless it stopped. -/
def readEach (now : Instant) : List WorkerId → Nat → Supervisor σ → Option Nat × Supervisor σ
  | [], taken, s => (some taken, s)
  | id :: rest, taken, s =>
      match s.readWorker now id with
      | (.overflow, s) => (none, s)
      | (.took, s) => readEach now rest (taken + 1) s
      | (.nothing, s) => readEach now rest taken s

/-- Takes waiting frames of all workers into the cache, and tells how many, unless the pass ended in
the middle. -/
def readFrames (s : Supervisor σ) (now : Instant) : Option Nat × Supervisor σ :=
  readEach now s.ids 0 s

end Supervisor

end FrameMux
