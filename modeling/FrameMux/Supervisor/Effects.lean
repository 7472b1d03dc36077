/-
**Effects on workers.**

Starting a process, killing it, reaping it, letting go of its link and emptying its cache: each
effect reports its outcome as the next event in the worker's life.

Main definitions:

* `FrameMux.Supervisor.spawn` — a process with a link of its own, watched from then on;
* `FrameMux.Supervisor.releaseChannels` — letting go of a worker's link;
* `FrameMux.Supervisor.runEffect` — **any effect**, with the event that it leads to;
* `FrameMux.Supervisor.handleEvent` — **an event**, its effects, and what follows from them;
* `FrameMux.Supervisor.retry` — an effect that a worker is still waiting for.

Main results:

* `FrameMux.Supervisor.retry_of_not_owed` — what a worker is not waiting for is not done.
-/

import FrameMux.Supervisor.Basic

set_option relaxedAutoImplicit false
set_option autoImplicit false

namespace FrameMux

namespace Supervisor

variable {σ : Type}

/-- Marks an attempt to start a worker's process. -/
def noteAttempt (s : Supervisor σ) (id : WorkerId) (now : Instant) : Supervisor σ :=
  s.modifyWorker id fun w => { w with lastSpawn := some now }

/-- Closes the multiplexer's end of a link. -/
def closeLink (s : Supervisor σ) (channels : WorkerLink) : Supervisor σ :=
  s.modifyLink channels.link Link.closeReceiver

/-- Connects a started process: its link gets the next number and is watched under the next
generation.  A link that the worker still had is closed, but stays watched. -/
def adopt (s : Supervisor σ) (w : Worker) (started : Spawned) : Supervisor σ :=
  let number := s.links.length
  let link := started.early.foldl (fun link mask => (link.signal mask).2) Link.fresh
  let token : Token := ⟨w.id, w.generation + 1⟩
  -- What was signalled before the link is watched makes it ready at once.
  let s := (w.channels.map s.closeLink).getD s
  let s :=
    { s with
      links := s.links ++ [link]
      poller := s.poller.register number token link.notifier.pending }
  s.modifyWorker w.id fun w => w.beginGeneration started.pid number

/-- Starts a worker's process.  The failures of the system before and after that are left out, as they
are everywhere: there are descriptors for the socket pair and for the counter, and the poller watches
the counter.  Without a pair or a counter the attempt fails before a process is asked for. -/
def spawn [ProcessManager σ] (s : Supervisor σ) (id : WorkerId) (now : Instant) :
    LifecycleEvent × Supervisor σ :=
  match s.worker? id with
  | none => (.spawnFailed, s)
  | some w =>
      let s := s.noteAttempt id now
      match ProcessManager.spawn s.manager id w.source with
      | (none, manager) => (.spawnFailed, { s with manager })
      | (some started, manager) => (.spawned, { s with manager }.adopt w started)

/-- Lets go of a worker's link. -/
def releaseChannels (s : Supervisor σ) (id : WorkerId) : Supervisor σ :=
  let held := (s.worker? id).bind (·.channels)
  let s := s.modifyWorker id fun w => { w with frameWaiting := false, channels := none }
  match held with
  | none => s
  | some channels =>
      { s.closeLink channels with poller := s.poller.deregister channels.link }

/-- Kills a worker's process, if it has one. -/
def kill [ProcessManager σ] (s : Supervisor σ) (id : WorkerId) :
    Option LifecycleEvent × Supervisor σ :=
  match s.worker? id with
  | none => (none, s)
  | some w =>
      match w.pid with
      | none => (some .killed, s)
      | some pid =>
          let (killed, manager) := ProcessManager.kill s.manager pid
          (if killed then some .killed else none, { s with manager })

/-- Reaps a worker's process, if it has one. -/
def reap [ProcessManager σ] (s : Supervisor σ) (id : WorkerId) :
    Option LifecycleEvent × Supervisor σ :=
  match s.worker? id with
  | none => (none, s)
  | some w =>
      match w.pid with
      | none => (some .reaped, s)
      | some pid =>
          let (status, manager) := ProcessManager.reap s.manager pid
          let s := { s with manager }
          -- A reap that fails tells nothing, so the process counts as running.
          if (status.map ReapStatus.isDead).getD false then
            (some .reaped, s.modifyWorker id fun w => { w with pid := none })
          else (some .stillRunning, s)

/-- Carries out an effect; its outcome is the next event. -/
def runEffect [ProcessManager σ] (s : Supervisor σ) (id : WorkerId) (effect : Effect)
    (now : Instant) : Option LifecycleEvent × Supervisor σ :=
  match effect with
  | .spawn => (some (s.spawn id now).1, (s.spawn id now).2)
  | .kill => s.kill id
  | .reap => s.reap id
  | .release => (some .released, s.releaseChannels id)
  | .resetFrameSlot => (none, s.resetCache id)

/-- Carries out effects in order; the last event that one of them leads to is the next one. -/
def runEffects [ProcessManager σ] (id : WorkerId) (now : Instant) :
    List Effect → Option LifecycleEvent → Supervisor σ → Option LifecycleEvent × Supervisor σ
  | [], pending, s => (pending, s)
  | effect :: rest, pending, s =>
      let (event, s) := s.runEffect id effect now
      runEffects id now rest (event.or pending) s

/-- The most steps that one event can lead to. -/
def maxChain : Nat := 8

/-- Feeds an event to a worker, and then the events that its effects lead to. -/
def handleChain [ProcessManager σ] (id : WorkerId) (now : Instant) :
    Nat → LifecycleEvent → Supervisor σ → Supervisor σ
  | 0, _, s => s
  | fuel + 1, event, s =>
      match s.worker? id with
      | none => s
      | some w =>
          let step := w.state.step event
          -- Staying in a state does not restart its clock.
          let s :=
            if step.next = w.state then s else s.modifyWorker id fun w => w.enter step.next now
          match runEffects id now step.effects none s with
          | (none, s) => s
          | (some event, s) => handleChain id now fuel event s

/-- Feeds an event to a worker. -/
def handleEvent [ProcessManager σ] (s : Supervisor σ) (id : WorkerId) (event : LifecycleEvent)
    (now : Instant) : Supervisor σ :=
  handleChain id now maxChain event s

/-- The effect that a worker is waiting for. -/
def owed (s : Supervisor σ) (id : WorkerId) : Option Effect :=
  (s.worker? id).bind fun w => w.state.owed

/-- Carries out an effect again, if the worker is waiting for it. -/
def retry [ProcessManager σ] (s : Supervisor σ) (id : WorkerId) (effect : Effect)
    (now : Instant) : Supervisor σ :=
  if s.owed id = some effect then
    match s.runEffect id effect now with
    | (none, s) => s
    | (some event, s) => s.handleEvent id event now
  else s

/-- What a worker is not waiting for is not done. -/
theorem retry_of_not_owed [ProcessManager σ] {s : Supervisor σ} {id : WorkerId} {effect : Effect}
    (h : s.owed id ≠ some effect) (now : Instant) : s.retry id effect now = s := by
  simp [retry, h]

end Supervisor

end FrameMux
