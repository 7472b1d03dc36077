/-
**The supervisor's rounds.**

A tick looks at every worker in order: the watchdog may condemn it, its cool-down may be over, or it
may be waiting for an effect.  Processes are started no more often than the retry interval allows.
At the end everything is killed, reaped and released.

Main definitions:

* `FrameMux.Supervisor.tick` — **one round** over all workers;
* `FrameMux.Supervisor.killWorker`, `reapWorker`, `releaseWorker` — one owed effect of one worker;
* `FrameMux.Supervisor.killAll`, `reapAll`, `releaseAll`, `shutdown` — **the end**.

Main results:

* `FrameMux.Supervisor.killWorker_eq_error_iff` — the effects only fail for unknown workers.
-/

import FrameMux.Supervisor.Effects

set_option relaxedAutoImplicit false
set_option autoImplicit false

namespace FrameMux

namespace Supervisor

variable {σ : Type} [ProcessManager σ]

/-! ### Rounds -/

/-- Whether a worker's process may be started again. -/
def spawnDue (s : Supervisor σ) (w : Worker) (now : Instant) : Bool :=
  match w.lastSpawn with
  | none => true
  | some t => s.policy.spawnRetry ≤ now.since t

/-- What a worker is due for after the watchdog. -/
def advance (s : Supervisor σ) (id : WorkerId) (now : Instant) : Supervisor σ :=
  match s.worker? id with
  | none => s
  | some w =>
      match w.state with
      | .buried =>
          if s.policy.cooldown ≤ now.since w.since then s.handleEvent id .cooldownElapsed now else s
      -- A worker that has never been started is due at once.
      | .creating => if s.spawnDue w now then s.retry id .spawn now else s
      | state =>
          match state.owed with
          | some effect => s.retry id effect now
          | none => s

/-- The watchdog's look at a worker. -/
def judge (s : Supervisor σ) (id : WorkerId) (now : Instant) : Supervisor σ :=
  match (s.worker? id).bind fun w => w.verdict? s.policy now with
  | some event => s.handleEvent id event now
  | none => s

/-- One round for one worker. -/
def tickWorker (s : Supervisor σ) (now : Instant) (id : WorkerId) : Supervisor σ :=
  (s.judge id now).advance id now

/-- One round over all workers. -/
def tick (s : Supervisor σ) (now : Instant) : Supervisor σ :=
  s.ids.foldl (fun s id => s.tickWorker now id) s

/-! ### Single workers -/

/-- Carries out an owed effect of a known worker. -/
def retryKnown (s : Supervisor σ) (id : WorkerId) (effect : Effect) (now : Instant) :
    Except MuxError (Supervisor σ) :=
  if s.workers.contains id then .ok (s.retry id effect now) else .error (.unknownWorker id)

/-- Kills a worker's process if the worker is waiting for that. -/
def killWorker (s : Supervisor σ) (id : WorkerId) (now : Instant) :
    Except MuxError (Supervisor σ) :=
  s.retryKnown id .kill now

/-- Reaps a worker's process if the worker is waiting for that. -/
def reapWorker (s : Supervisor σ) (id : WorkerId) (now : Instant) :
    Except MuxError (Supervisor σ) :=
  s.retryKnown id .reap now

/-- Lets go of a worker's link if the worker is waiting for that. -/
def releaseWorker (s : Supervisor σ) (id : WorkerId) (now : Instant) :
    Except MuxError (Supervisor σ) :=
  s.retryKnown id .release now

/-- Killing fails only for unknown workers. -/
theorem killWorker_eq_error_iff {s : Supervisor σ} {id : WorkerId} {now : Instant} :
    (∃ e, s.killWorker id now = .error e) ↔ s.workers.contains id = false := by
  unfold killWorker retryKnown
  by_cases h : s.workers.contains id = true
  · simp [h]
  · simp [h]

/-! ### The end -/

/-- Kills the process of one worker, whatever its state. -/
def killProcess (s : Supervisor σ) (id : WorkerId) : Supervisor σ :=
  match (s.worker? id).bind (·.pid) with
  | none => s
  | some pid => { s with manager := (ProcessManager.kill s.manager pid).2 }

/-- Kills every process. -/
def killAll (s : Supervisor σ) : Supervisor σ := s.ids.foldl killProcess s

/-- Reaps the process of one worker, and counts it if it remains. -/
def reapProcess (acc : Nat × Supervisor σ) (id : WorkerId) : Nat × Supervisor σ :=
  let (remaining, s) := acc
  match (s.worker? id).bind (·.pid) with
  | none => (remaining, s)
  | some pid =>
      let (status, manager) := ProcessManager.reap s.manager pid
      let s := { s with manager }
      if (status.map ReapStatus.isDead).getD false then
        (remaining, s.modifyWorker id fun w => { w with pid := none })
      else (remaining + 1, s)

/-- Reaps every process that is over, and tells how many remain. -/
def reapAll (s : Supervisor σ) : Nat × Supervisor σ := s.ids.foldl reapProcess (0, s)

/-- Reaps until nothing remains, at most `rounds` times. -/
def reapUntilGone : Nat → Supervisor σ → Supervisor σ
  | 0, s => s
  | rounds + 1, s =>
      match s.reapAll with
      | (0, s) => s
      | (_, s) => reapUntilGone rounds s

/-- Lets go of every link and empties every cache. -/
def releaseAll (s : Supervisor σ) : Supervisor σ :=
  s.ids.foldl (fun s id => (s.releaseChannels id).resetCache id) s

/-- Kills, reaps for a number of rounds, and lets go. -/
def shutdown (s : Supervisor σ) (rounds : Nat) : Supervisor σ :=
  (reapUntilGone rounds s.killAll).releaseAll

end Supervisor

end FrameMux
