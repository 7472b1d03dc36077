/-
**The supervisor's state.**

The supervisor keeps a record per worker, the links to all producers it ever started, the poller
that watches their counters, and the frame cache.  A link lives on after its worker let go of it:
the producer still has its ends, and whatever it does there must not matter.

Main definitions:

* `FrameMux.Supervisor` — the state, over a process manager;
* `FrameMux.Supervisor.addWorker` — a new source;
* `FrameMux.Supervisor.modifyWorker`, `FrameMux.Supervisor.modifyLink` — changing one record;
* `FrameMux.Supervisor.produce` — **an action of a producer** on its link;
* `FrameMux.Supervisor.health` — the report.

Main results:

* `FrameMux.Supervisor.worker?_modifyWorker` — only the named worker changes;
* `FrameMux.Supervisor.worker?_produce` — producers do not touch the workers' records.
-/

import FrameMux.Error
import FrameMux.Frame.Store
import FrameMux.Handoff.Link
import FrameMux.Poller
import FrameMux.Worker.Watchdog

set_option relaxedAutoImplicit false
set_option autoImplicit false

namespace FrameMux

/-- The supervisor's state.  Link `n` belongs to the `n`-th producer that was started; `discarded`
counts the events that came too late, one by one, so that a natural and a 64-bit word agree on the
first `2 ^ 64`. -/
structure Supervisor (σ : Type) where
  manager : σ
  policy : Policy
  workers : Roster Worker
  links : List Link
  poller : Poller
  frames : FrameStore
  discarded : Nat

namespace Supervisor

variable {σ : Type}

/-- A supervisor without workers. -/
def start (manager : σ) (policy : Policy) : Supervisor σ :=
  ⟨manager, policy, .empty, [], .fresh, .empty, 0⟩

/-- The record of a worker. -/
def worker? (s : Supervisor σ) (id : WorkerId) : Option Worker := s.workers.get? id

/-- The workers, in order. -/
def ids (s : Supervisor σ) : List WorkerId := s.workers.ids

/-- Changes the record of a worker. -/
def modifyWorker (s : Supervisor σ) (id : WorkerId) (f : Worker → Worker) : Supervisor σ :=
  { s with workers := s.workers.modify id f }

/-- Changes a link. -/
def modifyLink (s : Supervisor σ) (n : Nat) (f : Link → Link) : Supervisor σ :=
  { s with links := s.links.modify n f }

/-- Adds a source; its first process is started by the next tick. -/
def addWorker (s : Supervisor σ) (id : WorkerId) (source : String) (now : Instant) :
    Except MuxError (Supervisor σ) :=
  if s.workers.contains id then .error (.configuration (.alreadySupervised id))
  else if maxWorkers ≤ s.workers.size then .error .tooManyWorkers
  else .ok { s with workers := s.workers.insert id (.new id source now) }

/-- Gives a worker a frame cache. -/
def addCache (s : Supervisor σ) (id : WorkerId) : Supervisor σ :=
  { s with frames := s.frames.addWorker id }

/-- Takes the frame out of a worker's cache. -/
def resetCache (s : Supervisor σ) (id : WorkerId) : Supervisor σ :=
  { s with frames := s.frames.reset id }

/-- A consumer gave the worker's frame back, which counts as activity. -/
def noteRelease (s : Supervisor σ) (id : WorkerId) (now : Instant) : Supervisor σ :=
  s.modifyWorker id fun w => { w with lastRelease := some now }

/-- The report about all workers. -/
def health (s : Supervisor σ) (now : Instant) : List WorkerHealth :=
  s.workers.values.map (·.health now)

/-- An action of a producer on its link; without such a link nothing happens.  A signal, which
changes the counter, wakes the poller. -/
def produce {α : Type} (s : Supervisor σ) (n : Nat) (act : Link → α × Link) :
    Option α × Supervisor σ :=
  match s.links[n]? with
  | none => (none, s)
  | some link =>
      let (result, changed) := act link
      let s := s.modifyLink n fun _ => changed
      if link.notifier = changed.notifier then (some result, s)
      else (some result, { s with poller := s.poller.wake n })

@[simp] theorem worker?_modifyWorker (s : Supervisor σ) (id other : WorkerId)
    (f : Worker → Worker) :
    (s.modifyWorker id f).worker? other =
      if other = id then (s.worker? other).map f else s.worker? other := by
  simp [modifyWorker, worker?]

@[simp] theorem worker?_resetCache (s : Supervisor σ) (id other : WorkerId) :
    (s.resetCache id).worker? other = s.worker? other := rfl

/-- Producers do not touch the workers' records. -/
theorem worker?_produce {α : Type} (s : Supervisor σ) (n : Nat) (act : Link → α × Link)
    (id : WorkerId) : (s.produce n act).2.worker? id = s.worker? id := by
  unfold produce
  split
  · rfl
  · dsimp only
    split <;> rfl

end Supervisor

end FrameMux
