/-
**What the supervisor does for one worker.**

Whatever the supervisor is asked to do for a worker, it does by a chain of few moves: entering the
next state, asking the process manager to start, kill or reap a process, and letting go of the link
and the cached frame.  This module takes every operation apart into such moves, so that an invariant
need only be checked move by move.

Main definitions:

* `FrameMux.Supervisor.Move` — **the moves** for one worker;
* `FrameMux.Supervisor.Moves` — chains of moves.

Main results:

* `FrameMux.Supervisor.moves_handleEvent`, `moves_retry`, `moves_tickWorker` — the operations of the
  life cycle are chains of moves;
* `FrameMux.Supervisor.moves_killProcess`, `moves_reapProcess` — and so are those of the end.
-/

import FrameMux.Proofs.Supervisor.Outcomes

set_option relaxedAutoImplicit false
set_option autoImplicit false

namespace FrameMux

/-- The states that a worker enters by itself, after the one that it is in. -/
inductive WorkerState.Onward : WorkerState → WorkerState → Prop
  | condemned : Onward .alive .infected
  | killed : Onward .infected .zombie
  | rested : Onward .buried .creating

namespace Supervisor

variable {σ : Type} [ProcessManager σ]

/-- A move for one worker. -/
inductive Move (id : WorkerId) : Supervisor σ → Supervisor σ → Prop
  | enter {s : Supervisor σ} {w : Worker} {state : WorkerState} (now : Instant)
      (known : s.worker? id = some w) (onward : w.state.Onward state) :
      Move id s (s.enter id state now)
  | kill {s : Supervisor σ} {w : Worker} {pid : Int}
      (known : s.worker? id = some w) (has : w.pid = some pid) : Move id s (s.afterKill pid)
  | reapRunning {s : Supervisor σ} {w : Worker} {pid : Int}
      (known : s.worker? id = some w) (has : w.pid = some pid) (running : s.reapedDead pid = false) :
      Move id s (s.afterReap pid)
  | reapDead {s : Supervisor σ} {w : Worker} {pid : Int}
      (known : s.worker? id = some w) (has : w.pid = some pid) (dead : s.reapedDead pid = true) :
      Move id s ((s.afterReap pid).forgetPid id)
  | bury {s : Supervisor σ} {w : Worker} (now : Instant)
      (known : s.worker? id = some w) (zombie : w.state = .zombie) (gone : w.pid = none) :
      Move id s ((((s.enter id .purged now).releaseChannels id).resetCache id).enter id .buried now)
  | release {s : Supervisor σ} {w : Worker} (now : Instant)
      (known : s.worker? id = some w) (purged : w.state = .purged) :
      Move id s ((s.releaseChannels id).enter id .buried now)
  | letGo {s : Supervisor σ} : Move id s ((s.releaseChannels id).resetCache id)
  | spawnFailed {s : Supervisor σ} {w : Worker} (now : Instant)
      (known : s.worker? id = some w) (creating : w.state = .creating)
      (failed : (ProcessManager.spawn s.manager id w.source).1 = none) :
      Move id s ((s.noteAttempt id now).afterSpawn id w.source)
  | spawned {s : Supervisor σ} {w : Worker} {started : Spawned} (now : Instant)
      (known : s.worker? id = some w) (creating : w.state = .creating)
      (succeeded : (ProcessManager.spawn s.manager id w.source).1 = some started) :
      Move id s ((((s.noteAttempt id now).afterSpawn id w.source).adopt w started).enter id .alive
        now)

/-- A chain of moves for one worker. -/
inductive Moves (id : WorkerId) : Supervisor σ → Supervisor σ → Prop
  | refl (s : Supervisor σ) : Moves id s s
  | step {s s' s'' : Supervisor σ} : Move id s s' → Moves id s' s'' → Moves id s s''

theorem Move.moves {id : WorkerId} {s s' : Supervisor σ} (h : Move id s s') : Moves id s s' :=
  .step h (.refl s')

theorem Moves.trans {id : WorkerId} {s s' s'' : Supervisor σ} (h : Moves id s s')
    (h' : Moves id s' s'') : Moves id s s'' := by
  induction h with
  | refl _ => exact h'
  | step first _ ih => exact .step first (ih h')

/-! ### Reaping, killing, starting -/

/-- Reaping a zombie, and what follows. -/
theorem moves_reapAndBury {id : WorkerId} {s : Supervisor σ} {w : Worker}
    (known : s.worker? id = some w) (zombie : w.state = .zombie) (now : Instant) :
    Moves id s (s.reapAndBury id w.pid now) := by
  cases has : w.pid with
  | none => exact (Move.bury now known zombie has).moves
  | some pid =>
      rw [reapAndBury]
      split
      · next dead =>
          have gone : ((s.afterReap pid).forgetPid id).worker? id = some { w with pid := none } :=
            record_forgetPid known
          exact (Move.reapDead known has dead).moves.trans (Move.bury now gone zombie rfl).moves
      · next running => exact (Move.reapRunning known has (Bool.eq_false_iff.2 running)).moves

/-- Killing an infected worker, and what follows. -/
theorem moves_killAndReap {id : WorkerId} {s : Supervisor σ} {w : Worker}
    (known : s.worker? id = some w) (infected : w.state = .infected) (now : Instant) :
    Moves id s (s.killAndReap id w.pid now) := by
  have onward : w.state.Onward .zombie := by rw [infected]; exact .killed
  cases has : w.pid with
  | none =>
      have reaped := moves_reapAndBury (record_enter known .zombie now) rfl now
      rw [show (w.enter .zombie now).pid = none from has] at reaped
      exact .step (.enter now known onward) reaped
  | some pid =>
      have known' : (s.afterKill pid).worker? id = some w := known
      refine .step (.kill known has) ?_
      rw [killAndReap]
      split
      · have reaped := moves_reapAndBury (record_enter known' .zombie now) rfl now
        rw [show (w.enter .zombie now).pid = some pid from has] at reaped
        exact .step (.enter now known' onward) reaped
      · exact .refl _

/-- Starting the process of a worker that is being created, and what follows. -/
theorem moves_launch {id : WorkerId} {s : Supervisor σ} {w : Worker}
    (known : s.worker? id = some w) (creating : w.state = .creating) (now : Instant) :
    Moves id s (s.launch id w now) := by
  unfold launch
  split
  · next failed => exact (Move.spawnFailed now known creating failed).moves
  · next started succeeded => exact (Move.spawned now known creating succeeded).moves

/-! ### Operations -/

/-- An event from outside leads to a chain of moves. -/
theorem moves_handleEvent {id : WorkerId} {s : Supervisor σ} (named : s.Named id)
    {event : LifecycleEvent} (external : event.external = true) (now : Instant) :
    Moves id s (s.handleEvent id event now) := by
  cases known : s.worker? id with
  | none =>
      rw [handleEvent, handleChain_of_unknown known]
      exact .refl s
  | some w =>
      rcases external_cases external w.state with idle | ⟨alive, condemns⟩ | ⟨buried, rfl⟩
      · rw [handleEvent_of_idle known now idle]
        exact .refl s
      · rw [handleEvent_of_alive known alive now condemns]
        have onward : w.state.Onward .infected := by rw [alive]; exact .condemned
        exact .step (.enter now known onward)
          (moves_killAndReap (record_enter known .infected now) rfl now)
      · rw [handleEvent_of_buried known (named w known) buried now]
        have onward : w.state.Onward .creating := by rw [buried]; exact .rested
        exact .step (.enter now known onward) (moves_launch (record_enter known .creating now) rfl now)

/-- Trying an owed effect again is a chain of moves. -/
theorem moves_retry {id : WorkerId} {s : Supervisor σ} (named : s.Named id) (effect : Effect)
    (now : Instant) : Moves id s (s.retry id effect now) := by
  by_cases owed : s.owed id = some effect
  · obtain ⟨w, known, owes⟩ := Option.bind_eq_some_iff.1 owed
    cases state : w.state with
    | creating =>
        rw [state] at owes
        cases owes
        rw [retry_of_creating known (named w known) state]
        exact moves_launch known state now
    | infected =>
        rw [state] at owes
        cases owes
        rw [retry_of_infected known state]
        exact moves_killAndReap known state now
    | zombie =>
        rw [state] at owes
        cases owes
        rw [retry_of_zombie known state]
        exact moves_reapAndBury known state now
    | purged =>
        rw [state] at owes
        cases owes
        rw [retry_of_purged known state]
        exact (Move.release now known state).moves
    | alive | buried =>
        rw [state] at owes
        cases owes
  · rw [retry_of_not_owed owed]
    exact .refl s

/-- A move changes the record of its worker only. -/
theorem Move.worker?_of_ne {id other : WorkerId} {s s' : Supervisor σ} (h : Move id s s')
    (named : s.Named id) (ne : other ≠ id) : s'.worker? other = s.worker? other := by
  cases h with
  | @spawned w _ _ known =>
      have same : w.id = id := named w known
      simp [ne, same]
  | _ => simp [ne]

/-- A move does not rename its worker. -/
theorem Move.map_id {id : WorkerId} {s s' : Supervisor σ} (h : Move id s s') (named : s.Named id) :
    (s'.worker? id).map Worker.id = (s.worker? id).map Worker.id := by
  cases h with
  | @spawned w _ _ known =>
      have same : w.id = id := named w known
      simp [same, Function.comp_def, Worker.enter, Worker.beginGeneration]
  | _ => simp [Function.comp_def, Worker.enter]

theorem Move.named {id : WorkerId} {s s' : Supervisor σ} (h : Move id s s') (named : s.Named id) :
    s'.Named id := by
  intro w' known'
  have same := h.map_id named
  rw [known'] at same
  cases known : s.worker? id with
  | none =>
      rw [known] at same
      cases same
  | some w =>
      rw [known] at same
      exact (Option.some.inj same).trans (named w known)

theorem Moves.named {id : WorkerId} {s s' : Supervisor σ} (h : Moves id s s')
    (named : s.Named id) : s'.Named id := by
  induction h with
  | refl _ => exact named
  | step first _ ih => exact ih (first.named named)

/-- A chain of moves changes the record of its worker only. -/
theorem Moves.worker?_of_ne {id other : WorkerId} {s s' : Supervisor σ} (h : Moves id s s')
    (named : s.Named id) (ne : other ≠ id) : s'.worker? other = s.worker? other := by
  induction h with
  | refl _ => rfl
  | step first _ ih => rw [ih (first.named named), first.worker?_of_ne named ne]

/-- No move changes the policy. -/
theorem Move.policy {id : WorkerId} {s s' : Supervisor σ} (h : Move id s s') :
    s'.policy = s.policy := by
  cases h with
  | bury now => exact (linksOnly_releaseChannels (s.enter id .purged now) id).policy
  | letGo | release => exact (linksOnly_releaseChannels s id).policy
  | @spawned w started => exact (linksOnly_adopt _ w started).policy
  | _ => rfl

theorem Moves.policy {id : WorkerId} {s s' : Supervisor σ} (h : Moves id s s') :
    s'.policy = s.policy := by
  induction h with
  | refl _ => rfl
  | step first _ ih => rw [ih, first.policy]

/-- The watchdog's look at a worker is a chain of moves. -/
theorem moves_judge {id : WorkerId} {s : Supervisor σ} (named : s.Named id) (now : Instant) :
    Moves id s (s.judge id now) := by
  unfold judge
  split
  · next event raised =>
      cases known : s.worker? id with
      | none =>
          rw [known] at raised
          cases raised
      | some w =>
          rw [known] at raised
          obtain ⟨-, rfl | rfl⟩ := verdict?_cases raised
          · exact moves_handleEvent named rfl now
          · exact moves_handleEvent named rfl now
  · exact .refl s

/-- What a worker is due for is a chain of moves. -/
theorem moves_advance {id : WorkerId} {s : Supervisor σ} (named : s.Named id) (now : Instant) :
    Moves id s (s.advance id now) := by
  unfold advance
  split
  · exact .refl s
  · split
    · split
      · exact moves_handleEvent named rfl now
      · exact .refl s
    · split
      · exact moves_retry named .spawn now
      · exact .refl s
    · split
      · next effect _ => exact moves_retry named effect now
      · exact .refl s

/-- One round for one worker is a chain of moves. -/
theorem moves_tickWorker {id : WorkerId} {s : Supervisor σ} (named : s.Named id) (now : Instant) :
    Moves id s (s.tickWorker now id) := by
  have judged := moves_judge named now
  exact judged.trans (moves_advance (judged.named named) now)

/-- Killing a worker's process at the end is a move. -/
theorem moves_killProcess (s : Supervisor σ) (id : WorkerId) : Moves id s (s.killProcess id) := by
  unfold killProcess
  split
  · exact .refl s
  · next pid has =>
      obtain ⟨w, known, has⟩ := Option.bind_eq_some_iff.1 has
      exact (Move.kill known has).moves

/-- Reaping a worker's process at the end is a move. -/
theorem moves_reapProcess (s : Supervisor σ) (n : Nat) (id : WorkerId) :
    Moves id s (reapProcess (n, s) id).2 := by
  unfold reapProcess
  dsimp only
  split
  · exact .refl s
  · next pid has =>
      obtain ⟨w, known, has⟩ := Option.bind_eq_some_iff.1 has
      split
      · next dead => exact (Move.reapDead known has dead).moves
      · next running => exact (Move.reapRunning known has (Bool.eq_false_iff.2 running)).moves

end Supervisor

end FrameMux