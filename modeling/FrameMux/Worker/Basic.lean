/-
**Workers.**

A worker is the supervisor's record of one source: where it is in its life, its process, its link to
the producer, and the marks of activity that tell whether it is still of use.

Main definitions:

* `FrameMux.WorkerLink` — the link of a worker and the region that it reads from, once negotiated;
* `FrameMux.Worker` — the record;
* `FrameMux.Worker.beginGeneration` — a new process with a new link;
* `FrameMux.Worker.lastActivity` — the latest mark of activity.
-/

import FrameMux.Time
import FrameMux.Worker.Id
import FrameMux.Worker.Lifecycle

set_option relaxedAutoImplicit false
set_option autoImplicit false

namespace FrameMux

/-- A link by its number, and the memory file that frames are read from, once it is known. -/
structure WorkerLink where
  link : Nat
  reader : Option Nat
deriving DecidableEq, Repr, Inhabited

/-- The supervisor's record of one source. -/
structure Worker where
  id : WorkerId
  source : String
  state : WorkerState
  since : Instant
  pid : Option Int
  generation : UInt32
  channels : Option WorkerLink
  frameWaiting : Bool
  exitReported : Bool
  lastFrame : Option Instant
  lastRelease : Option Instant
  lastSpawn : Option Instant
  published : UInt64
  taken : UInt64
  received : UInt64
  dropped : UInt64
  restarts : UInt32
deriving DecidableEq, Repr, Inhabited

namespace Worker

/-- A worker whose first process is yet to be started. -/
def new (id : WorkerId) (source : String) (now : Instant) : Worker where
  id := id
  source := source
  state := .creating
  since := now
  pid := none
  generation := 0
  channels := none
  frameWaiting := false
  exitReported := false
  lastFrame := none
  lastRelease := none
  lastSpawn := none
  published := 0
  taken := 0
  received := 0
  dropped := 0
  restarts := 0

/-- The memory file that frames are read from. -/
def reader? (w : Worker) : Option Nat := w.channels.bind (·.reader)

/-- Whether the region of the current generation is known. -/
def negotiated (w : Worker) : Bool := w.reader?.isSome

/-- Moves a worker to a state. -/
def enter (w : Worker) (state : WorkerState) (now : Instant) : Worker :=
  { w with state, since := now }

/-- A new process with a new link; every generation but the first is a restart.  The additions are those
of 32-bit words.  They stay in range for the first `2 ^ 32 - 1` processes of a worker; the one after
them has no generation of its own, and a program that checks its additions ends there. -/
def beginGeneration (w : Worker) (pid : Int) (link : Nat) : Worker :=
  { w with
    restarts := if w.generation = 0 then w.restarts else w.restarts + 1
    generation := w.generation + 1
    pid := some pid
    channels := some ⟨link, none⟩
    frameWaiting := false
    exitReported := false
    lastFrame := none
    lastRelease := none
    published := 0
    taken := 0 }

/-- The latest of two optional instants and a certain one. -/
def latest (t : Instant) (u : Option Instant) : Instant := (u.map t.max).getD t

/-- The latest mark of activity: entering a state, a frame, or a release. -/
def lastActivity (w : Worker) : Instant := latest (latest w.since w.lastFrame) w.lastRelease

end Worker

/-- What is reported about a worker. -/
structure WorkerHealth where
  id : WorkerId
  source : String
  state : WorkerState
  pid : Option Int
  generation : UInt32
  negotiated : Bool
  sinceLastFrame : Option Duration
  received : UInt64
  dropped : UInt64
  restarts : UInt32
deriving DecidableEq, Repr

/-- The report about a worker. -/
def Worker.health (w : Worker) (now : Instant) : WorkerHealth where
  id := w.id
  source := w.source
  state := w.state
  pid := w.pid
  generation := w.generation
  negotiated := w.negotiated
  sinceLastFrame := w.lastFrame.map now.since
  received := w.received
  dropped := w.dropped
  restarts := w.restarts

end FrameMux
