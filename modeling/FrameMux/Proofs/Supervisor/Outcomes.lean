/-
**What the supervisor's operations come to.**

An event leads to effects, whose outcomes are events again, and a tick may try what is left once
more.  However long such a chain can get, it comes to one of few results, depending on the worker's
state and on what the process manager answers.  This module computes them once, so that nothing else
has to follow the chain.

Main definitions:

* `FrameMux.Supervisor.bury` — a worker whose process is over is let go of;
* `FrameMux.Supervisor.reapAndBury`, `killAndReap`, `launch` — **what follows** from a reap, a kill
  and a start.

Main results:

* `FrameMux.Supervisor.handleEvent_of_alive`, `handleEvent_of_buried`, `handleEvent_of_idle` — the
  events from outside;
* `FrameMux.Supervisor.retry_of_infected` and the like — owed effects, by state;
* `FrameMux.Supervisor.advance_of_infected` and the like — a worker's turn in a round, by state.
-/

import FrameMux.Supervisor.Tick

set_option relaxedAutoImplicit false
set_option autoImplicit false

namespace FrameMux

/-- The events that come from outside: the watchdog's, and the end of a cool-down. -/
def LifecycleEvent.external : LifecycleEvent → Bool
  | stale | pipelineExited | cooldownElapsed => true
  | _ => false

/-- An event from outside condemns an alive worker, starts a buried one again, or does nothing. -/
theorem external_cases {event : LifecycleEvent} (external : event.external = true)
    (state : WorkerState) :
    state.step event = ⟨state, []⟩ ∨
    (state = .alive ∧ (event = .stale ∨ event = .pipelineExited)) ∨
    (state = .buried ∧ event = .cooldownElapsed) := by
  cases event with
  | stale | pipelineExited | cooldownElapsed => cases state <;> simp [WorkerState.step]
  | _ => cases external

namespace Supervisor

variable {σ : Type}

/-- A worker forgets the process that it had. -/
def forgetPid (s : Supervisor σ) (id : WorkerId) : Supervisor σ :=
  s.modifyWorker id fun w => { w with pid := none }

/-- A worker enters a state. -/
def enter (s : Supervisor σ) (id : WorkerId) (state : WorkerState) (now : Instant) : Supervisor σ :=
  s.modifyWorker id fun w => w.enter state now

/-! ### The workers' records -/

/-- The record of a worker bears its identifier. -/
def Named (s : Supervisor σ) (id : WorkerId) : Prop := ∀ w, s.worker? id = some w → w.id = id

@[simp] theorem worker?_enter (s : Supervisor σ) (id other : WorkerId) (state : WorkerState)
    (now : Instant) :
    (s.enter id state now).worker? other =
      if other = id then (s.worker? other).map fun w => w.enter state now else s.worker? other :=
  worker?_modifyWorker s id other _

@[simp] theorem worker?_forgetPid (s : Supervisor σ) (id other : WorkerId) :
    (s.forgetPid id).worker? other =
      if other = id then (s.worker? other).map fun w => { w with pid := none }
      else s.worker? other :=
  worker?_modifyWorker s id other _

@[simp] theorem worker?_noteAttempt (s : Supervisor σ) (id other : WorkerId) (now : Instant) :
    (s.noteAttempt id now).worker? other =
      if other = id then (s.worker? other).map fun w => { w with lastSpawn := some now }
      else s.worker? other :=
  worker?_modifyWorker s id other _

@[simp] theorem worker?_releaseChannels (s : Supervisor σ) (id other : WorkerId) :
    (s.releaseChannels id).worker? other =
      if other = id then
        (s.worker? other).map fun w => { w with frameWaiting := false, channels := none }
      else s.worker? other := by
  rw [← worker?_modifyWorker]
  unfold releaseChannels
  dsimp only
  split
  · rfl
  · rfl

@[simp] theorem worker?_adopt (s : Supervisor σ) (w : Worker) (started : Spawned)
    (other : WorkerId) :
    (s.adopt w started).worker? other =
      if other = w.id then
        (s.worker? other).map fun v => v.beginGeneration started.pid s.links.length
      else s.worker? other := by
  rw [← worker?_modifyWorker]
  cases channels : w.channels with
  | none =>
      simp only [adopt, channels]
      rfl
  | some held =>
      simp only [adopt, channels]
      rfl

/-- The record of a worker that entered a state. -/
theorem record_enter {id : WorkerId} {s : Supervisor σ} {w : Worker}
    (known : s.worker? id = some w) (state : WorkerState) (now : Instant) :
    (s.enter id state now).worker? id = some (w.enter state now) := by
  rw [worker?_enter, if_pos rfl, known]
  rfl

/-- The record of a worker that forgot its process. -/
theorem record_forgetPid {id : WorkerId} {s : Supervisor σ} {w : Worker}
    (known : s.worker? id = some w) :
    (s.forgetPid id).worker? id = some { w with pid := none } := by
  rw [worker?_forgetPid, if_pos rfl, known]
  rfl

/-- The record of a worker whose link was let go of. -/
theorem record_releaseChannels {id : WorkerId} {s : Supervisor σ} {w : Worker}
    (known : s.worker? id = some w) :
    (s.releaseChannels id).worker? id =
      some { w with frameWaiting := false, channels := none } := by
  rw [worker?_releaseChannels, if_pos rfl, known]
  rfl

/-- The record of a worker with a new process. -/
theorem record_adopt {s : Supervisor σ} {w v : Worker} (known : s.worker? w.id = some v)
    (started : Spawned) :
    (s.adopt w started).worker? w.id = some (v.beginGeneration started.pid s.links.length) := by
  rw [worker?_adopt, if_pos rfl, known]
  rfl

/-! ### What else they change -/

@[simp] theorem manager_enter (s : Supervisor σ) (id : WorkerId) (state : WorkerState)
    (now : Instant) : (s.enter id state now).manager = s.manager := rfl

@[simp] theorem manager_resetCache (s : Supervisor σ) (id : WorkerId) :
    (s.resetCache id).manager = s.manager := rfl

/-- Nothing changed but records, links, and which counters are watched. -/
structure LinksOnly (s s' : Supervisor σ) : Prop where
  manager : s'.manager = s.manager
  policy : s'.policy = s.policy
  frames : s'.frames = s.frames

/-- Letting go of a link leaves everything else alone. -/
theorem linksOnly_releaseChannels (s : Supervisor σ) (id : WorkerId) :
    LinksOnly s (s.releaseChannels id) := by
  unfold releaseChannels
  dsimp only
  split
  · exact ⟨rfl, rfl, rfl⟩
  · exact ⟨rfl, rfl, rfl⟩

@[simp] theorem manager_releaseChannels (s : Supervisor σ) (id : WorkerId) :
    (s.releaseChannels id).manager = s.manager := (s.linksOnly_releaseChannels id).manager

/-- So does connecting a started process. -/
theorem linksOnly_adopt (s : Supervisor σ) (w : Worker) (started : Spawned) :
    LinksOnly s (s.adopt w started) := by
  unfold adopt
  cases w.channels with
  | none => exact ⟨rfl, rfl, rfl⟩
  | some held => exact ⟨rfl, rfl, rfl⟩

/-- The link of a started process. -/
def opened (started : Spawned) : Link :=
  started.early.foldl (fun link mask => (link.signal mask).2) .fresh

/-- A worker without a link gets the next one. -/
theorem links_adopt {w : Worker} (unlinked : w.channels = none) (s : Supervisor σ)
    (started : Spawned) : (s.adopt w started).links = s.links ++ [opened started] := by
  simp only [adopt, unlinked]
  rfl

/-- The next link is watched under the next generation. -/
theorem poller_adopt {w : Worker} (unlinked : w.channels = none) (s : Supervisor σ)
    (started : Spawned) :
    (s.adopt w started).poller = s.poller.register s.links.length ⟨w.id, w.generation + 1⟩
      (opened started).notifier.pending := by
  simp only [adopt, unlinked]
  rfl

/-- A worker whose process is over is purged, let go of, and buried. -/
def bury (s : Supervisor σ) (id : WorkerId) (now : Instant) : Supervisor σ :=
  (((s.enter id .purged now).releaseChannels id).resetCache id).enter id .buried now

variable [ProcessManager σ]

/-- Whether a reap tells that the process is over. -/
def reapedDead (s : Supervisor σ) (pid : Int) : Bool :=
  ((ProcessManager.reap s.manager pid).1.map ReapStatus.isDead).getD false

/-- The supervisor after the process manager was asked to kill. -/
def afterKill (s : Supervisor σ) (pid : Int) : Supervisor σ :=
  { s with manager := (ProcessManager.kill s.manager pid).2 }

/-- The supervisor after the process manager was asked to reap. -/
def afterReap (s : Supervisor σ) (pid : Int) : Supervisor σ :=
  { s with manager := (ProcessManager.reap s.manager pid).2 }

/-- The supervisor after the process manager was asked to start a worker's process. -/
def afterSpawn (s : Supervisor σ) (id : WorkerId) (source : String) : Supervisor σ :=
  { s with manager := (ProcessManager.spawn s.manager id source).2 }

@[simp] theorem worker?_afterKill (s : Supervisor σ) (pid : Int) (id : WorkerId) :
    (s.afterKill pid).worker? id = s.worker? id := rfl

@[simp] theorem worker?_afterReap (s : Supervisor σ) (pid : Int) (id : WorkerId) :
    (s.afterReap pid).worker? id = s.worker? id := rfl

@[simp] theorem worker?_afterSpawn (s : Supervisor σ) (id other : WorkerId) (source : String) :
    (s.afterSpawn id source).worker? other = s.worker? other := rfl

/-- The record of a worker whose process was asked for. -/
theorem record_attempted {id : WorkerId} {s : Supervisor σ} {w : Worker}
    (known : s.worker? id = some w) (now : Instant) (source : String) :
    ((s.noteAttempt id now).afterSpawn id source).worker? id =
      some { w with lastSpawn := some now } := by
  rw [worker?_afterSpawn, worker?_noteAttempt, if_pos rfl, known]
  rfl

/-! ### What follows from an effect -/

/-- Reaps the process of a zombie, if it has one, and buries the worker if it is over. -/
def reapAndBury (s : Supervisor σ) (id : WorkerId) (process : Option Int) (now : Instant) :
    Supervisor σ :=
  match process with
  | none => s.bury id now
  | some pid =>
      if s.reapedDead pid then ((s.afterReap pid).forgetPid id).bury id now else s.afterReap pid

/-- Kills the process of an infected worker, if it has one, and goes on to reap it if that
succeeded. -/
def killAndReap (s : Supervisor σ) (id : WorkerId) (process : Option Int) (now : Instant) :
    Supervisor σ :=
  match process with
  | none => (s.enter id .zombie now).reapAndBury id none now
  | some pid =>
      if (ProcessManager.kill s.manager pid).1 then
        ((s.afterKill pid).enter id .zombie now).reapAndBury id (some pid) now
      else s.afterKill pid

/-- Starts the process of a worker that is being created; one that started makes it alive. -/
def launch (s : Supervisor σ) (id : WorkerId) (w : Worker) (now : Instant) : Supervisor σ :=
  match (ProcessManager.spawn s.manager id w.source).1 with
  | none => (s.noteAttempt id now).afterSpawn id w.source
  | some started =>
      (((s.noteAttempt id now).afterSpawn id w.source).adopt w started).enter id .alive now

/-! ### The chain of events -/

/-- Goes on with the event that an effect led to, if there is one. -/
def proceed (id : WorkerId) (now : Instant) (fuel : Nat) :
    Option LifecycleEvent × Supervisor σ → Supervisor σ
  | (none, s) => s
  | (some event, s) => handleChain id now fuel event s

/-- An event moves the worker, and what its effects lead to comes next. -/
theorem handleChain_succ {id : WorkerId} {s : Supervisor σ} {w : Worker}
    (known : s.worker? id = some w) (now : Instant) (fuel : Nat) (event : LifecycleEvent) :
    handleChain id now (fuel + 1) event s =
      proceed id now fuel (runEffects id now (w.state.step event).effects none
        (if (w.state.step event).next = w.state then s
          else s.enter id (w.state.step event).next now)) := by
  simp only [handleChain, known]
  rfl

/-- A worker that is already gone is left alone. -/
theorem handleChain_of_unknown {id : WorkerId} {s : Supervisor σ} (unknown : s.worker? id = none)
    (now : Instant) (fuel : Nat) (event : LifecycleEvent) :
    handleChain id now fuel event s = s := by
  cases fuel with
  | zero => rfl
  | succ fuel => simp only [handleChain, unknown]

/-- An event that neither moves a worker nor asks for an effect changes nothing. -/
theorem handleChain_of_idle {id : WorkerId} {s : Supervisor σ} {w : Worker}
    (known : s.worker? id = some w) (now : Instant) (fuel : Nat) {event : LifecycleEvent}
    (idle : w.state.step event = ⟨w.state, []⟩) : handleChain id now fuel event s = s := by
  cases fuel with
  | zero => rfl
  | succ fuel =>
      rw [handleChain_succ known, idle]
      simp only [runEffects, proceed, if_true]

/-- A single effect leads on by itself. -/
theorem runEffects_single (id : WorkerId) (now : Instant) (effect : Effect) (s : Supervisor σ) :
    runEffects id now [effect] none s = s.runEffect id effect now := by
  simp only [runEffects, Option.or_none]

/-- An event with a single effect and a new state. -/
theorem handleChain_of_single {id : WorkerId} {s : Supervisor σ} {w : Worker}
    (known : s.worker? id = some w) (now : Instant) (fuel : Nat) {event : LifecycleEvent}
    {next : WorkerState} {effect : Effect} (step : w.state.step event = ⟨next, [effect]⟩)
    (moves : next ≠ w.state) :
    handleChain id now (fuel + 1) event s =
      proceed id now fuel ((s.enter id next now).runEffect id effect now) := by
  rw [handleChain_succ known, step]
  simp only [runEffects_single, if_neg moves]

/-! ### Reaping, killing, starting -/

/-- A purged worker that was let go of is buried. -/
theorem handleChain_released {id : WorkerId} {s : Supervisor σ} {w : Worker}
    (known : s.worker? id = some w) (purged : w.state = .purged) (now : Instant) (fuel : Nat) :
    handleChain id now (fuel + 1) .released s = s.enter id .buried now := by
  have step : w.state.step .released = ⟨.buried, []⟩ := by rw [purged]; rfl
  have moves : ¬ WorkerState.buried = w.state := by rw [purged]; decide
  rw [handleChain_succ known, step]
  simp only [if_neg moves, runEffects, proceed]

/-- A dead zombie is purged and buried at once. -/
theorem handleChain_reaped {id : WorkerId} {s : Supervisor σ} {w : Worker}
    (known : s.worker? id = some w) (zombie : w.state = .zombie) (now : Instant) (fuel : Nat) :
    handleChain id now (fuel + 2) .reaped s =
      (((s.enter id .purged now).releaseChannels id).resetCache id).enter id .buried now := by
  have step : w.state.step .reaped = ⟨.purged, [.release, .resetFrameSlot]⟩ := by rw [zombie]; rfl
  have moves : ¬ WorkerState.purged = w.state := by rw [zombie]; decide
  have purged := record_releaseChannels (record_enter known .purged now)
  rw [handleChain_succ known, step]
  simp only [if_neg moves, runEffects, runEffect, Option.or_none, Option.none_or, proceed]
  exact handleChain_released (by rw [worker?_resetCache]; exact purged) rfl now fuel

/-- Reaping a worker's process either finds it over or still running. -/
theorem reap_eq {id : WorkerId} {s : Supervisor σ} {w : Worker} {pid : Int}
    (known : s.worker? id = some w) (has : w.pid = some pid) :
    s.reap id = if s.reapedDead pid then (some .reaped, (s.afterReap pid).forgetPid id)
      else (some .stillRunning, s.afterReap pid) := by
  simp only [reap, known, has]
  rfl

/-- Starting a worker's process either fails or connects it. -/
theorem spawn_eq {id : WorkerId} {s : Supervisor σ} {w : Worker} (known : s.worker? id = some w)
    (now : Instant) :
    s.spawn id now =
      match (ProcessManager.spawn s.manager id w.source).1 with
      | none => (.spawnFailed, (s.noteAttempt id now).afterSpawn id w.source)
      | some started =>
          (.spawned, ((s.noteAttempt id now).afterSpawn id w.source).adopt w started) := by
  have same : (s.noteAttempt id now).manager = s.manager := rfl
  simp only [spawn, known, afterSpawn, same]
  obtain ⟨answer, manager⟩ := ProcessManager.spawn s.manager id w.source
  cases answer with
  | none => rfl
  | some started => rfl

/-! ### Chains, from each effect on -/

/-- Reaping a zombie, and what follows. -/
theorem proceed_reap {id : WorkerId} {s : Supervisor σ} {w : Worker}
    (known : s.worker? id = some w) (zombie : w.state = .zombie) (now : Instant) (fuel : Nat) :
    proceed id now (fuel + 2) (s.runEffect id .reap now) = s.reapAndBury id w.pid now := by
  cases has : w.pid with
  | none =>
      have done : s.runEffect id .reap now = (some .reaped, s) := by
        simp only [runEffect, reap, known, has]
      rw [done, proceed, handleChain_reaped known zombie]
      rfl
  | some pid =>
      rw [runEffect, reap_eq known has, reapAndBury]
      split
      · have gone : ((s.afterReap pid).forgetPid id).worker? id = some { w with pid := none } :=
          record_forgetPid known
        rw [proceed, handleChain_reaped gone zombie]
        rfl
      · have known' : (s.afterReap pid).worker? id = some w := known
        rw [proceed, handleChain_of_idle known' now _ (by rw [zombie]; rfl)]

/-- A killed worker is reaped at once. -/
theorem handleChain_killed {id : WorkerId} {s : Supervisor σ} {w : Worker}
    (known : s.worker? id = some w) (infected : w.state = .infected) (now : Instant) (fuel : Nat) :
    handleChain id now (fuel + 3) .killed s =
      (s.enter id .zombie now).reapAndBury id w.pid now := by
  have step : w.state.step .killed = ⟨.zombie, [.reap]⟩ := by rw [infected]; rfl
  rw [handleChain_of_single known now (fuel + 2) step (by rw [infected]; decide)]
  exact proceed_reap (record_enter known .zombie now) rfl now fuel

/-- Killing an infected worker, and what follows. -/
theorem proceed_kill {id : WorkerId} {s : Supervisor σ} {w : Worker}
    (known : s.worker? id = some w) (infected : w.state = .infected) (now : Instant) (fuel : Nat) :
    proceed id now (fuel + 3) (s.runEffect id .kill now) = s.killAndReap id w.pid now := by
  cases has : w.pid with
  | none =>
      have done : s.runEffect id .kill now = (some .killed, s) := by
        simp only [runEffect, kill, known, has]
      rw [done, proceed, handleChain_killed known infected, has]
      rfl
  | some pid =>
      have known' : (s.afterKill pid).worker? id = some w := known
      have done : s.runEffect id .kill now =
          (if (ProcessManager.kill s.manager pid).1 then some .killed else none,
            s.afterKill pid) := by
        simp only [runEffect, kill, known, has]
        rfl
      rw [done, killAndReap]
      split
      · rw [proceed, handleChain_killed known' infected, has]
      · rfl

/-- Starting the process of a worker that is being created, and what follows. -/
theorem proceed_spawn {id : WorkerId} {s : Supervisor σ} {w : Worker}
    (known : s.worker? id = some w) (named : w.id = id) (creating : w.state = .creating)
    (now : Instant) (fuel : Nat) :
    proceed id now (fuel + 1) (s.runEffect id .spawn now) = s.launch id w now := by
  subst named
  have attempted := record_attempted known now w.source
  rw [runEffect, spawn_eq known, launch]
  cases answer : (ProcessManager.spawn s.manager w.id w.source).1 with
  | none =>
      have stays : w.state.step .spawnFailed = ⟨w.state, []⟩ := by rw [creating]; rfl
      exact handleChain_of_idle attempted now _ stays
  | some started =>
      obtain ⟨v, adopted, state⟩ : ∃ v, (((s.noteAttempt w.id now).afterSpawn w.id w.source).adopt
          w started).worker? w.id = some v ∧ v.state = .creating :=
        ⟨_, record_adopt attempted started, creating⟩
      have step : v.state.step .spawned = ⟨.alive, []⟩ := by rw [state]; rfl
      have moves : ¬ WorkerState.alive = v.state := by rw [state]; decide
      rw [proceed, handleChain_succ adopted, step]
      simp only [if_neg moves, runEffects, proceed]

/-- Letting go of a purged worker's link, and what follows. -/
theorem proceed_release {id : WorkerId} {s : Supervisor σ} {w : Worker}
    (known : s.worker? id = some w) (purged : w.state = .purged) (now : Instant) (fuel : Nat) :
    proceed id now (fuel + 1) (s.runEffect id .release now) =
      (s.releaseChannels id).enter id .buried now := by
  rw [runEffect, proceed, handleChain_released (record_releaseChannels known) purged]

/-! ### Events from outside -/

/-- An event that neither moves a worker nor asks for an effect changes nothing. -/
theorem handleEvent_of_idle {id : WorkerId} {s : Supervisor σ} {w : Worker}
    (known : s.worker? id = some w) (now : Instant) {event : LifecycleEvent}
    (idle : w.state.step event = ⟨w.state, []⟩) : s.handleEvent id event now = s :=
  handleChain_of_idle known now maxChain idle

/-- An alive worker that is condemned is killed. -/
theorem handleEvent_of_alive {id : WorkerId} {s : Supervisor σ} {w : Worker}
    (known : s.worker? id = some w) (alive : w.state = .alive) (now : Instant)
    {event : LifecycleEvent} (condemns : event = .stale ∨ event = .pipelineExited) :
    s.handleEvent id event now = (s.enter id .infected now).killAndReap id w.pid now := by
  have step : w.state.step event = ⟨.infected, [.kill]⟩ := by
    rw [alive]
    rcases condemns with rfl | rfl <;> rfl
  rw [handleEvent, maxChain, handleChain_of_single known now 7 step (by rw [alive]; decide)]
  exact proceed_kill (record_enter known .infected now) rfl now 4

/-- A buried worker whose cool-down is over is started again. -/
theorem handleEvent_of_buried {id : WorkerId} {s : Supervisor σ} {w : Worker}
    (known : s.worker? id = some w) (named : w.id = id) (buried : w.state = .buried)
    (now : Instant) :
    s.handleEvent id .cooldownElapsed now =
      (s.enter id .creating now).launch id (w.enter .creating now) now := by
  have step : w.state.step .cooldownElapsed = ⟨.creating, [.spawn]⟩ := by rw [buried]; rfl
  rw [handleEvent, maxChain, handleChain_of_single known now 7 step (by rw [buried]; decide)]
  exact proceed_spawn (record_enter known .creating now) named rfl now 6

/-! ### Owed effects -/

/-- An owed effect is carried out. -/
theorem retry_of_owed {id : WorkerId} {s : Supervisor σ} {w : Worker} {effect : Effect}
    (known : s.worker? id = some w) (owed : w.state.owed = some effect) (now : Instant) :
    s.retry id effect now = proceed id now maxChain (s.runEffect id effect now) := by
  have owed : s.owed id = some effect := by rw [Supervisor.owed, known]; exact owed
  rw [retry, if_pos owed]
  rcases s.runEffect id effect now with ⟨_ | event, s'⟩ <;> rfl

/-- What a worker that is being created owes. -/
theorem retry_of_creating {id : WorkerId} {s : Supervisor σ} {w : Worker}
    (known : s.worker? id = some w) (named : w.id = id) (creating : w.state = .creating)
    (now : Instant) : s.retry id .spawn now = s.launch id w now := by
  rw [retry_of_owed known (by rw [creating]; rfl)]
  exact proceed_spawn known named creating now 7

/-- What an infected worker owes. -/
theorem retry_of_infected {id : WorkerId} {s : Supervisor σ} {w : Worker}
    (known : s.worker? id = some w) (infected : w.state = .infected) (now : Instant) :
    s.retry id .kill now = s.killAndReap id w.pid now := by
  rw [retry_of_owed known (by rw [infected]; rfl)]
  exact proceed_kill known infected now 5

/-- What a zombie owes. -/
theorem retry_of_zombie {id : WorkerId} {s : Supervisor σ} {w : Worker}
    (known : s.worker? id = some w) (zombie : w.state = .zombie) (now : Instant) :
    s.retry id .reap now = s.reapAndBury id w.pid now := by
  rw [retry_of_owed known (by rw [zombie]; rfl)]
  exact proceed_reap known zombie now 6

/-- What a purged worker owes. -/
theorem retry_of_purged {id : WorkerId} {s : Supervisor σ} {w : Worker}
    (known : s.worker? id = some w) (purged : w.state = .purged) (now : Instant) :
    s.retry id .release now = (s.releaseChannels id).enter id .buried now := by
  rw [retry_of_owed known (by rw [purged]; rfl)]
  exact proceed_release known purged now 7

/-! ### A worker's turn in a round -/

/-- The watchdog raises one of two events, and only against alive workers. -/
theorem verdict?_cases {w : Worker} {policy : Policy} {now : Instant} {event : LifecycleEvent}
    (raised : w.verdict? policy now = some event) :
    w.state = .alive ∧ (event = .stale ∨ event = .pipelineExited) := by
  unfold Worker.verdict? at raised
  split at raised
  · cases raised
  · next alive =>
      refine ⟨Decidable.not_not.1 alive, ?_⟩
      split at raised
      · cases raised
        exact Or.inr rfl
      · split at raised
        · cases raised
          exact Or.inl rfl
        · cases raised

/-- The watchdog does not look at a worker that is unknown. -/
theorem judge_of_unknown {id : WorkerId} {s : Supervisor σ} (unknown : s.worker? id = none)
    (now : Instant) : s.judge id now = s := by
  simp only [judge, unknown, Option.bind_none]

/-- A worker that is unknown is due for nothing. -/
theorem advance_of_unknown {id : WorkerId} {s : Supervisor σ} (unknown : s.worker? id = none)
    (now : Instant) : s.advance id now = s := by
  simp only [advance, unknown]

/-- The watchdog leaves a worker alone that it has nothing against. -/
theorem judge_of_acquitted {id : WorkerId} {s : Supervisor σ} {w : Worker} {now : Instant}
    (known : s.worker? id = some w) (acquitted : w.verdict? s.policy now = none) :
    s.judge id now = s := by
  simp only [judge, known, Option.bind_some, acquitted]

/-- A worker that the watchdog condemns is killed. -/
theorem judge_of_condemned {id : WorkerId} {s : Supervisor σ} {w : Worker} {now : Instant}
    {event : LifecycleEvent} (known : s.worker? id = some w)
    (condemned : w.verdict? s.policy now = some event) :
    s.judge id now = (s.enter id .infected now).killAndReap id w.pid now := by
  obtain ⟨alive, condemns⟩ := verdict?_cases condemned
  simp only [judge, known, Option.bind_some, condemned]
  exact handleEvent_of_alive known alive now condemns

/-- An alive worker is due for nothing. -/
theorem advance_of_alive {id : WorkerId} {s : Supervisor σ} {w : Worker}
    (known : s.worker? id = some w) (alive : w.state = .alive) (now : Instant) :
    s.advance id now = s := by
  simp only [advance, known, alive, WorkerState.owed]

/-- A worker that is being created is started, unless the last attempt is too recent. -/
theorem advance_of_creating {id : WorkerId} {s : Supervisor σ} {w : Worker}
    (known : s.worker? id = some w) (named : w.id = id) (creating : w.state = .creating)
    (now : Instant) :
    s.advance id now = if s.spawnDue w now then s.launch id w now else s := by
  simp only [advance, known, creating, retry_of_creating known named creating]

/-- An infected worker is killed. -/
theorem advance_of_infected {id : WorkerId} {s : Supervisor σ} {w : Worker}
    (known : s.worker? id = some w) (infected : w.state = .infected) (now : Instant) :
    s.advance id now = s.killAndReap id w.pid now := by
  simp only [advance, known, infected, WorkerState.owed, retry_of_infected known infected]

/-- A zombie is reaped. -/
theorem advance_of_zombie {id : WorkerId} {s : Supervisor σ} {w : Worker}
    (known : s.worker? id = some w) (zombie : w.state = .zombie) (now : Instant) :
    s.advance id now = s.reapAndBury id w.pid now := by
  simp only [advance, known, zombie, WorkerState.owed, retry_of_zombie known zombie]

/-- A purged worker is let go of. -/
theorem advance_of_purged {id : WorkerId} {s : Supervisor σ} {w : Worker}
    (known : s.worker? id = some w) (purged : w.state = .purged) (now : Instant) :
    s.advance id now = (s.releaseChannels id).enter id .buried now := by
  simp only [advance, known, purged, WorkerState.owed, retry_of_purged known purged]

/-- A buried worker is started again once its cool-down is over. -/
theorem advance_of_buried {id : WorkerId} {s : Supervisor σ} {w : Worker}
    (known : s.worker? id = some w) (named : w.id = id) (buried : w.state = .buried)
    (now : Instant) :
    s.advance id now = if s.policy.cooldown ≤ now.since w.since then
      (s.enter id .creating now).launch id (w.enter .creating now) now else s := by
  simp only [advance, known, buried, handleEvent_of_buried known named buried]

end Supervisor

end FrameMux
