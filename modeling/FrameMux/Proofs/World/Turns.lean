/-
**What a turn comes to.**

When the supervisor turns to a worker, the chain of events that follows leaves the worker with another
record and the record of calls with some more entries.  This module says which, for each of the few
ways in which such a chain can go, and keeps track of the attempts to start a process: a worker that
waits to be started has failed to be, unless nobody tried.

Main definitions:

* `FrameMux.Worker.Reaped`, `Killed`, `Launched` — **what becomes of a record**, and with which calls;
* `FrameMux.Supervisor.Told` — the record of a worker after some more calls;
* `FrameMux.World.Tries` — the attempts for a worker from one world to a later one.

Main results:

* `FrameMux.Supervisor.told_killAndReap` and the like — the chains come to that;
* `FrameMux.World.tries_step` — **every action** tries or leaves the attempts alone;
* `FrameMux.World.stamped_run` — a worker's stamp is that of the last attempt for it.
-/

import FrameMux.Proofs.World.Calls

set_option relaxedAutoImplicit false
set_option autoImplicit false

namespace FrameMux

/-! ### Records -/

namespace Worker

/-- The record of a worker that is let go of and buried. -/
def buriedAt (w : Worker) (now : Instant) : Worker :=
  { w with state := .buried, since := now, frameWaiting := false, channels := none }

/-- What becomes of a zombie when it is reaped: it is buried if its process is over, or stays. -/
inductive Reaped (w : Worker) (now : Instant) : Worker → List Call → Prop
  | gone (none : w.pid = none) : Reaped w now (w.buriedAt now) []
  | dead {pid : Int} {answer : Option ReapStatus} (has : w.pid = some pid)
      (ended : (answer.map ReapStatus.isDead).getD false = true) :
      Reaped w now ({ w with pid := none }.buriedAt now) [.reap pid answer]
  | running {pid : Int} {answer : Option ReapStatus} (has : w.pid = some pid)
      (runs : (answer.map ReapStatus.isDead).getD false = false) :
      Reaped w now w [.reap pid answer]

/-- What becomes of an infected worker when it is killed: it stays, or it is reaped. -/
inductive Killed (w : Worker) (now : Instant) : Worker → List Call → Prop
  | gone {w' : Worker} {new : List Call} (none : w.pid = none)
      (reaped : (w.enter .zombie now).Reaped now w' new) : Killed w now w' new
  | done {w' : Worker} {new : List Call} {pid : Int} (has : w.pid = some pid)
      (reaped : (w.enter .zombie now).Reaped now w' new) :
      Killed w now w' (.kill pid true :: new)
  | refused {pid : Int} (has : w.pid = some pid) : Killed w now w [.kill pid false]

/-- What becomes of a worker when its process is started: it stays, or it is alive. -/
inductive Launched (w : Worker) (now : Instant) : Worker → List Call → Prop
  | failed : Launched w now { w with lastSpawn := some now } [.spawn w.id w.source none]
  | started {started : Spawned} (link : Nat) :
      Launched w now
        (({ w with lastSpawn := some now }.beginGeneration started.pid link).enter .alive now)
        [.spawn w.id w.source (some started)]

end Worker

namespace Supervisor

variable {σ : Type}

/-! ### Chains -/

/-- The record of a worker, and the calls, after something was done for the worker. -/
structure Told (id : WorkerId) (s s' : Supervisor (Recorder σ)) (w : Worker) (new : List Call) :
    Prop where
  known : s'.worker? id = some w
  calls : s'.manager.calls = s.manager.calls ++ new

theorem told_refl {id : WorkerId} {s : Supervisor (Recorder σ)} {w : Worker}
    (known : s.worker? id = some w) : Told id s s w [] := ⟨known, (List.append_nil _).symm⟩

theorem Told.trans {id : WorkerId} {s s' s'' : Supervisor (Recorder σ)} {w w' : Worker}
    {new new' : List Call} (h : Told id s s' w new) (h' : Told id s' s'' w' new') :
    Told id s s'' w' (new ++ new') :=
  ⟨h'.known, by rw [h'.calls, h.calls, List.append_assoc]⟩

/-- Entering a state. -/
theorem told_enter {id : WorkerId} {s : Supervisor (Recorder σ)} {w : Worker}
    (known : s.worker? id = some w) (state : WorkerState) (now : Instant) :
    Told id s (s.enter id state now) (w.enter state now) [] :=
  ⟨record_enter known state now, (List.append_nil _).symm⟩

/-- Burying a worker. -/
theorem told_bury {id : WorkerId} {s : Supervisor (Recorder σ)} {w : Worker}
    (known : s.worker? id = some w) (now : Instant) :
    Told id s (s.bury id now) (w.buriedAt now) [] := by
  refine ⟨?_, by simp [bury]⟩
  exact record_enter (record_releaseChannels (record_enter known .purged now)) .buried now

variable [ProcessManager σ]

/-- Reaping a zombie, and what follows. -/
theorem told_reapAndBury {id : WorkerId} {s : Supervisor (Recorder σ)} {w : Worker}
    (known : s.worker? id = some w) (now : Instant) :
    ∃ w' new, Told id s (s.reapAndBury id w.pid now) w' new ∧ w.Reaped now w' new := by
  cases has : w.pid with
  | none => exact ⟨_, _, told_bury known now, .gone has⟩
  | some pid =>
      have asked : Told id s (s.afterReap pid) w [.reap pid (ProcessManager.reap s.manager pid).1] :=
        ⟨known, rfl⟩
      rw [reapAndBury]
      split
      · next dead =>
          have forgotten : ((s.afterReap pid).forgetPid id).worker? id = some { w with pid := none } :=
            record_forgetPid asked.known
          have gone : Told id s ((s.afterReap pid).forgetPid id) _ _ := ⟨forgotten, asked.calls⟩
          exact ⟨_, _, gone.trans (told_bury forgotten now), .dead has dead⟩
      · next running => exact ⟨_, _, asked, .running has (Bool.eq_false_iff.2 running)⟩

/-- Killing an infected worker, and what follows. -/
theorem told_killAndReap {id : WorkerId} {s : Supervisor (Recorder σ)} {w : Worker}
    (known : s.worker? id = some w) (now : Instant) :
    ∃ w' new, Told id s (s.killAndReap id w.pid now) w' new ∧ w.Killed now w' new := by
  cases has : w.pid with
  | none =>
      have zombie := told_enter known .zombie now
      obtain ⟨w', new, told, reaped⟩ := told_reapAndBury zombie.known now
      rw [show (w.enter .zombie now).pid = none from has] at told
      exact ⟨w', new, zombie.trans told, .gone has reaped⟩
  | some pid =>
      have asked : Told id s (s.afterKill pid) w [.kill pid (ProcessManager.kill s.manager pid).1] :=
        ⟨known, rfl⟩
      rw [killAndReap]
      split
      · next killed =>
          have zombie := told_enter asked.known .zombie now
          obtain ⟨w', new, told, reaped⟩ := told_reapAndBury zombie.known now
          rw [show (w.enter .zombie now).pid = some pid from has] at told
          rw [killed] at asked
          exact ⟨w', _, asked.trans (zombie.trans told), .done has reaped⟩
      · next refused =>
          rw [Bool.eq_false_iff.2 refused] at asked
          exact ⟨w, _, asked, .refused has⟩

/-- Starting the process of a worker, and what follows. -/
theorem told_launch {id : WorkerId} {s : Supervisor (Recorder σ)} {w : Worker}
    (known : s.worker? id = some w) (named : w.id = id) (now : Instant) :
    ∃ w' new, Told id s (s.launch id w now) w' new ∧ w.Launched now w' new := by
  subst named
  have attempted := record_attempted known now w.source
  unfold launch
  split
  · next failed =>
      refine ⟨_, [.spawn w.id w.source none], ⟨attempted, ?_⟩, .failed⟩
      rw [← failed]
      rfl
  · next started succeeded =>
      exact ⟨_, _, ⟨record_enter (record_adopt attempted started) .alive now,
        calls_spawned succeeded now⟩, .started _⟩

end Supervisor

/-! ### Attempts -/

/-- From one record to a later one with some calls between them, a process was not tried to be
started, or it was, and then it failed if the worker still waits for it. -/
inductive Worker.Tries (now : Option Instant) (w w' : Worker) (new : List Call) : Prop
  | idle (untried : new.filterMap Call.attempt? = []) (stamp : w'.lastSpawn = w.lastSpawn)
      (waits : w'.state = .creating → w.state = .creating)
  | tried {t : Instant} {last : Bool} (time : now = some t)
      (made : (new.filterMap Call.attempt?).getLast? = some last) (stamp : w'.lastSpawn = some t)
      (waits : w'.state = .creating → last = false)

namespace Worker

theorem Tries.refl (now : Option Instant) (w : Worker) : w.Tries now w [] :=
  .idle rfl rfl fun creating => creating

theorem Tries.trans {now : Option Instant} {w w' w'' : Worker} {new new' : List Call}
    (h : w.Tries now w' new) (h' : w'.Tries now w'' new') : w.Tries now w'' (new ++ new') := by
  cases h' with
  | idle untried' stamp' waits' =>
      cases h with
      | idle untried stamp waits =>
          refine .idle ?_ (stamp'.trans stamp) fun creating => waits (waits' creating)
          rw [List.filterMap_append, untried, untried', List.append_nil]
      | tried time made stamp waits =>
          refine .tried time ?_ (stamp'.trans stamp) fun creating => waits (waits' creating)
          rw [List.filterMap_append, untried', List.append_nil, made]
  | tried time' made' stamp' waits' =>
      refine .tried time' ?_ stamp' waits'
      rw [List.filterMap_append, List.getLast?_append, made']
      rfl

/-- Where nothing is tried, the time does not matter. -/
theorem Tries.any {w w' : Worker} {new : List Call} (h : w.Tries none w' new) (now : Option Instant) :
    w.Tries now w' new := by
  cases h with
  | idle untried stamp waits => exact .idle untried stamp waits
  | tried time => cases time

/-- A worker that is reaped is not started. -/
theorem Reaped.tries {w w' : Worker} {now : Instant} {new : List Call} (h : w.Reaped now w' new)
    (t : Option Instant) : w.Tries t w' new := by
  cases h with
  | gone => exact .idle rfl rfl nofun
  | dead => exact .idle rfl rfl nofun
  | running => exact .idle rfl rfl fun creating => creating

/-- A worker that enters a state other than the one in which it waits is not started. -/
theorem tries_enter (w : Worker) {state : WorkerState} (other : state ≠ .creating)
    (t : Option Instant) (now : Instant) : w.Tries t (w.enter state now) [] :=
  .idle rfl rfl fun creating => absurd creating other

/-- A worker that is killed is not started. -/
theorem Killed.tries {w w' : Worker} {now : Instant} {new : List Call} (h : w.Killed now w' new)
    (t : Option Instant) : w.Tries t w' new := by
  have zombie := w.tries_enter (by decide : WorkerState.zombie ≠ .creating) t now
  cases h with
  | gone _ reaped => exact zombie.trans (reaped.tries t)
  | @done _ new pid _ reaped =>
      have killed : w.Tries t (w.enter .zombie now) [.kill pid true] := .idle rfl rfl nofun
      exact killed.trans (reaped.tries t)
  | refused => exact .idle rfl rfl fun creating => creating

/-- A worker that is launched is started, or fails to be, whatever its record was before. -/
theorem Launched.tries {w w' : Worker} {now : Instant} {new : List Call} (h : w.Launched now w' new)
    (v : Worker) : v.Tries (some now) w' new := by
  cases h with
  | failed => exact .tried rfl rfl rfl fun _ => rfl
  | started => exact .tried rfl rfl rfl nofun

end Worker

namespace Supervisor

variable {σ : Type}

/-- What is done for a worker tries to start it, or leaves the attempts alone; a worker that is
unknown stays so. -/
def Attends (id : WorkerId) (now : Option Instant) (s s' : Supervisor (Recorder σ)) : Prop :=
  (s.worker? id = none ∧ s'.worker? id = none ∧ s'.manager.calls = s.manager.calls) ∨
  ∃ w w' new, s.worker? id = some w ∧ Told id s s' w' new ∧ w.Tries now w' new

theorem attends_refl (id : WorkerId) (now : Option Instant) (s : Supervisor (Recorder σ)) :
    Attends id now s s := by
  cases known : s.worker? id with
  | none => exact Or.inl ⟨known, known, rfl⟩
  | some w => exact Or.inr ⟨w, w, [], known, told_refl known, .refl now w⟩

theorem Attends.trans {id : WorkerId} {now : Option Instant} {s s' s'' : Supervisor (Recorder σ)}
    (h : Attends id now s s') (h' : Attends id now s' s'') : Attends id now s s'' := by
  rcases h with ⟨unknown, absent, same⟩ | ⟨w, w', new, known, told, tries⟩
  · rcases h' with ⟨-, absent', same'⟩ | ⟨v, -, -, known', -⟩
    · exact Or.inl ⟨unknown, absent', same'.trans same⟩
    · cases absent.symm.trans known'
  · rcases h' with ⟨absent, -⟩ | ⟨v, w'', new', known', told', tries'⟩
    · cases absent.symm.trans told.known
    · obtain rfl : w' = v := Option.some.inj (told.known.symm.trans known')
      exact Or.inr ⟨w, w'', new ++ new', known, told.trans told', tries.trans tries'⟩

/-- Where nothing is tried, the time does not matter. -/
theorem Attends.any {id : WorkerId} {s s' : Supervisor (Recorder σ)} (h : Attends id none s s')
    (now : Option Instant) : Attends id now s s' := by
  rcases h with unknown | ⟨w, w', new, known, told, tries⟩
  · exact Or.inl unknown
  · exact Or.inr ⟨w, w', new, known, told, tries.any now⟩

variable [ProcessManager σ]

/-- Condemning a worker starts none. -/
theorem spares_handleEvent {id : WorkerId} {s : Supervisor (Recorder σ)} {event : LifecycleEvent}
    (external : event.external = true) (other : event ≠ .cooldownElapsed) (now : Instant) :
    Attends id none s (s.handleEvent id event now) := by
  cases known : s.worker? id with
  | none =>
      rw [handleEvent, handleChain_of_unknown known]
      exact attends_refl id _ s
  | some w =>
      rcases external_cases external w.state with idle | ⟨alive, condemns⟩ | ⟨-, rested⟩
      · rw [handleEvent_of_idle known now idle]
        exact attends_refl id _ s
      · rw [handleEvent_of_alive known alive now condemns]
        have infected := told_enter known .infected now
        obtain ⟨w', new, told, killed⟩ := told_killAndReap infected.known now
        have entered : w.Tries none (w.enter .infected now) [] :=
          w.tries_enter (by decide) none now
        exact Or.inr ⟨w, w', _, known, infected.trans told, entered.trans (killed.tries none)⟩
      · exact absurd rested other

/-- An event from outside. -/
theorem attends_handleEvent {id : WorkerId} {s : Supervisor (Recorder σ)} (named : s.Named id)
    {event : LifecycleEvent} (external : event.external = true) (now : Instant) :
    Attends id (some now) s (s.handleEvent id event now) := by
  by_cases rested : event = .cooldownElapsed
  · subst rested
    cases known : s.worker? id with
    | none =>
        rw [handleEvent, handleChain_of_unknown known]
        exact attends_refl id _ s
    | some w =>
        rcases external_cases external w.state with idle | ⟨-, condemns⟩ | ⟨buried, -⟩
        · rw [handleEvent_of_idle known now idle]
          exact attends_refl id _ s
        · rcases condemns with other | other <;> cases other
        · rw [handleEvent_of_buried known (named w known) buried now]
          have creating := told_enter known .creating now
          obtain ⟨w', new, told, launched⟩ := told_launch creating.known (named w known) now
          -- The stay between burial and launch does not show.
          exact Or.inr ⟨w, w', _, known, creating.trans told, launched.tries w⟩
  · exact (spares_handleEvent external rested now).any (some now)

/-- A step of a teardown starts none either. -/
theorem spares_retry {id : WorkerId} {s : Supervisor (Recorder σ)} {effect : Effect}
    (teardown : effect ≠ .spawn) (now : Instant) : Attends id none s (s.retry id effect now) := by
  by_cases owed : s.owed id = some effect
  · obtain ⟨w, known, owes⟩ := Option.bind_eq_some_iff.1 owed
    cases state : w.state with
    | creating =>
        rw [state] at owes
        cases owes
        exact absurd rfl teardown
    | infected =>
        rw [state] at owes
        cases owes
        rw [retry_of_infected known state]
        obtain ⟨w', new, told, killed⟩ := told_killAndReap known now
        exact Or.inr ⟨w, w', new, known, told, killed.tries none⟩
    | zombie =>
        rw [state] at owes
        cases owes
        rw [retry_of_zombie known state]
        obtain ⟨w', new, told, reaped⟩ := told_reapAndBury known now
        exact Or.inr ⟨w, w', new, known, told, reaped.tries none⟩
    | purged =>
        rw [state] at owes
        cases owes
        rw [retry_of_purged known state]
        refine Or.inr ⟨w, _, [], known, ⟨record_enter (record_releaseChannels known) .buried now, ?_⟩,
          .idle rfl rfl nofun⟩
        rw [manager_enter, manager_releaseChannels, List.append_nil]
    | alive | buried =>
        rw [state] at owes
        cases owes
  · rw [retry_of_not_owed owed]
    exact attends_refl id _ s

/-- An owed effect. -/
theorem attends_retry {id : WorkerId} {s : Supervisor (Recorder σ)} (named : s.Named id)
    (effect : Effect) (now : Instant) : Attends id (some now) s (s.retry id effect now) := by
  by_cases start : effect = .spawn
  · subst start
    by_cases owed : s.owed id = some .spawn
    · obtain ⟨w, known, owes⟩ := Option.bind_eq_some_iff.1 owed
      have creating : w.state = .creating := by
        generalize w.state = state at owes
        cases state <;> first | rfl | cases owes
      rw [retry_of_creating known (named w known) creating]
      obtain ⟨w', new, told, launched⟩ := told_launch known (named w known) now
      exact Or.inr ⟨w, w', new, known, told, launched.tries w⟩
    · rw [retry_of_not_owed owed]
      exact attends_refl id _ s
  · exact (spares_retry start now).any (some now)

/-- The watchdog's look at a worker. -/
theorem attends_judge {id : WorkerId} {s : Supervisor (Recorder σ)} (named : s.Named id)
    (now : Instant) : Attends id (some now) s (s.judge id now) := by
  unfold judge
  split
  · next event raised =>
      obtain ⟨w, known, raised⟩ := Option.bind_eq_some_iff.1 raised
      obtain ⟨-, rfl | rfl⟩ := verdict?_cases raised
      · exact attends_handleEvent named rfl now
      · exact attends_handleEvent named rfl now
  · exact attends_refl id _ s

/-- What a worker is due for. -/
theorem attends_advance {id : WorkerId} {s : Supervisor (Recorder σ)} (named : s.Named id)
    (now : Instant) : Attends id (some now) s (s.advance id now) := by
  unfold advance
  split
  · exact attends_refl id _ s
  · split
    · split
      · exact attends_handleEvent named rfl now
      · exact attends_refl id _ s
    · split
      · exact attends_retry named .spawn now
      · exact attends_refl id _ s
    · split
      · next effect _ => exact attends_retry named effect now
      · exact attends_refl id _ s

/-- One round for one worker. -/
theorem attends_tickWorker {id : WorkerId} {s : Supervisor (Recorder σ)} (named : s.Named id)
    (now : Instant) : Attends id (some now) s (s.tickWorker now id) :=
  (attends_judge named now).trans
    (attends_advance ((moves_judge named now).named named) now)

/-- Killing a process at the end. -/
theorem attends_killProcess (s : Supervisor (Recorder σ)) (id : WorkerId) :
    Attends id none s (s.killProcess id) := by
  unfold killProcess
  split
  · exact attends_refl id _ s
  · next pid has =>
      obtain ⟨w, known, -⟩ := Option.bind_eq_some_iff.1 has
      exact Or.inr ⟨w, w, _, known, ⟨known, rfl⟩, .idle rfl rfl fun creating => creating⟩

/-- Reaping a process at the end. -/
theorem attends_reapProcess (s : Supervisor (Recorder σ)) (n : Nat) (id : WorkerId) :
    Attends id none s (reapProcess (n, s) id).2 := by
  unfold reapProcess
  dsimp only
  split
  · exact attends_refl id _ s
  · next pid has =>
      obtain ⟨w, known, -⟩ := Option.bind_eq_some_iff.1 has
      split
      · have forgotten : ((s.afterReap pid).forgetPid id).worker? id = some { w with pid := none } :=
          record_forgetPid known
        exact Or.inr ⟨w, _, [.reap pid (ProcessManager.reap s.manager pid).1], known,
          ⟨forgotten, rfl⟩, .idle rfl rfl fun creating => creating⟩
      · exact Or.inr ⟨w, w, [.reap pid (ProcessManager.reap s.manager pid).1], known, ⟨known, rfl⟩,
          .idle rfl rfl fun creating => creating⟩

omit [ProcessManager σ] in
/-- Letting go of everything at the end. -/
theorem attends_letGo (s : Supervisor (Recorder σ)) (id : WorkerId) :
    Attends id none s ((s.releaseChannels id).resetCache id) := by
  cases known : s.worker? id with
  | none =>
      refine Or.inl ⟨known, ?_, by simp⟩
      rw [worker?_resetCache, worker?_releaseChannels, if_pos rfl, known]
      rfl
  | some w =>
      refine Or.inr ⟨w, _, [], known, ⟨record_releaseChannels known, ?_⟩,
        .idle rfl rfl fun creating => creating⟩
      rw [manager_resetCache, manager_releaseChannels, List.append_nil]

end Supervisor

namespace World

variable {σ : Type}

/-! ### Attempts in a run -/

/-- The time of an action that may start a process. -/
def Action.time? : Action → Option Instant
  | .tick now | .event _ _ _ now | .killWorker _ now | .reapWorker _ now | .releaseWorker _ now =>
      some now
  | _ => none

/-- From one world to a later one, a worker's process was not tried to be started, or it was, and then
it failed if the worker still waits for it. -/
inductive Tries (id : WorkerId) (now : Option Instant) (w w' : World σ) : Prop
  | idle (calls : attempts id w'.calls = attempts id w.calls)
      (unknown : w'.sup.worker? id = none → w.sup.worker? id = none)
      (records : ∀ rec', w'.sup.worker? id = some rec' →
        (∃ rec, w.sup.worker? id = some rec ∧ rec'.lastSpawn = rec.lastSpawn ∧
          (rec'.state = .creating → rec.state = .creating)) ∨
        (w.sup.worker? id = none ∧ rec'.lastSpawn = none))
  | tried {new : List Bool} {t : Instant} {last : Bool} {rec' : Worker} (time : now = some t)
      (calls : attempts id w'.calls = attempts id w.calls ++ new) (made : new.getLast? = some last)
      (known : w'.sup.worker? id = some rec') (stamp : rec'.lastSpawn = some t)
      (waits : rec'.state = .creating → last = false)

/-- What leaves the record of a worker and its attempts alone. -/
theorem tries_of_same {id : WorkerId} {w w' : World σ} (now : Option Instant)
    (calls : attempts id w'.calls = attempts id w.calls)
    (same : w'.sup.worker? id = w.sup.worker? id) : Tries id now w w' := by
  refine .idle calls (fun unknown => same ▸ unknown) ?_
  intro rec known
  exact Or.inl ⟨rec, same ▸ known, rfl, fun creating => creating⟩

theorem Tries.trans {id : WorkerId} {now : Option Instant} {w w' w'' : World σ}
    (h : Tries id now w w') (h' : Tries id now w' w'') : Tries id now w w'' := by
  cases h' with
  | idle calls' unknown' records' =>
      cases h with
      | idle calls unknown records =>
          refine .idle (calls'.trans calls) (fun absent => unknown (unknown' absent)) ?_
          intro rec'' known''
          rcases records' rec'' known'' with ⟨rec', known', stamp', waits'⟩ | ⟨absent', stamp'⟩
          · rcases records rec' known' with ⟨rec, known, stamp, waits⟩ | ⟨absent, stamp⟩
            · exact Or.inl ⟨rec, known, stamp'.trans stamp, fun creating => waits (waits' creating)⟩
            · exact Or.inr ⟨absent, stamp'.trans stamp⟩
          · exact Or.inr ⟨unknown absent', stamp'⟩
      | @tried new t last rec' time calls made known stamp waits =>
          cases known'' : w''.sup.worker? id with
          | none => cases (unknown' known'').symm.trans known
          | some rec'' =>
              rcases records' rec'' known'' with ⟨v, known', stamp', waits'⟩ | ⟨absent, -⟩
              · obtain rfl : rec' = v := Option.some.inj (known.symm.trans known')
                exact .tried time (calls'.trans calls) made known'' (stamp'.trans stamp)
                  fun creating => waits (waits' creating)
              · cases absent.symm.trans known
  | tried time' calls' made' known' stamp' waits' =>
      cases h with
      | idle calls => exact .tried time' (by rw [calls', calls]) made' known' stamp' waits'
      | @tried new _ _ _ _ calls =>
          refine .tried time' (by rw [calls', calls, List.append_assoc]) ?_ known' stamp' waits'
          rw [List.getLast?_append, made']
          rfl

/-- What keeps all records up to marks and makes no calls. -/
theorem tries_of_keeps {w w' : World σ} (keeps : Supervisor.Keeps w.sup w'.sup)
    (calls : w'.calls = w.calls) (id : WorkerId) (now : Option Instant) : Tries id now w w' := by
  refine .idle (by rw [calls]) ?_ ?_
  · intro unknown
    cases before : w.sup.worker? id with
    | none => rfl
    | some rec =>
        obtain ⟨rec', known, -⟩ := keeps.kept id rec before
        cases unknown.symm.trans known
  · intro rec' known
    cases before : w.sup.worker? id with
    | none =>
        obtain ⟨source, t, rfl⟩ := keeps.added id rec' known before
        exact Or.inr ⟨rfl, rfl⟩
    | some rec =>
        obtain ⟨v, known', kept⟩ := keeps.kept id rec before
        obtain rfl : v = rec' := Option.some.inj (known'.symm.trans known)
        exact Or.inl ⟨rec, rfl, kept.lastSpawn, fun creating => kept.state ▸ creating⟩

/-- What is done for one worker. -/
theorem tries_follow {w : World σ} {id : WorkerId} {now : Option Instant}
    {s : Supervisor (Recorder σ)} (attends : Supervisor.Attends id now w.sup s)
    (others : ∀ other, other ≠ id → s.worker? other = w.sup.worker? other) (other : WorkerId) :
    Tries other now w (w.follow id s) := by
  rcases attends with ⟨unknown, absent, calls⟩ | ⟨rec, rec', new, known, told, tries⟩
  · refine tries_of_same now ?_ ?_
    · rw [attempts_follow id (calls.trans (List.append_nil _).symm)]
      simp
    · show s.worker? other = _
      by_cases same : other = id
      · rw [same, absent, unknown]
      · exact others other same
  · by_cases same : other = id
    · subst same
      have attempted := attempts_follow (w := w) other told.calls other
      rw [if_pos rfl] at attempted
      cases tries with
      | idle untried stamp waits =>
          rw [untried, List.append_nil] at attempted
          refine .idle attempted ?_ ?_
          · intro absent
            cases told.known.symm.trans absent
          · intro v known'
            obtain rfl : rec' = v := Option.some.inj (told.known.symm.trans known')
            exact Or.inl ⟨rec, known, stamp, waits⟩
      | tried time made stamp waits => exact .tried time attempted made told.known stamp waits
    · refine tries_of_same now ?_ (others other same)
      rw [attempts_follow id told.calls, if_neg same, List.append_nil]

/-- Something for every worker of a list tries or leaves the attempts alone if it does so for one. -/
theorem tries_forEach {f : World σ → WorkerId → World σ} {now : Option Instant} (id : WorkerId)
    (one : ∀ w other, Named w → Tries id now w (f w other) ∧ (f w other).Named) {w : World σ}
    (named : w.Named) (ids : List WorkerId) : Tries id now w (w.forEach ids f) := by
  refine And.right (forEach_induction (I := fun v => v.Named ∧ Tries id now w v) ?_
    ⟨named, tries_of_same now rfl rfl⟩ ids)
  rintro v other ⟨named, tries⟩
  obtain ⟨first, named'⟩ := one v other named
  exact ⟨named', tries.trans first⟩

variable [ProcessManager σ]

/-- What the supervisor does for a worker by a chain of moves. -/
theorem tries_moves {w : World σ} (named : w.Named) {id : WorkerId} {now : Option Instant}
    {s : Supervisor (Recorder σ)} (moves : Supervisor.Moves id w.sup s)
    (attends : Supervisor.Attends id now w.sup s) (other : WorkerId) :
    Tries other now w (w.follow id s) ∧ (w.follow id s).Named :=
  ⟨tries_follow attends (fun _ => moves.worker?_of_ne (named id)) other,
    (parts_follow (D := fun _ _ => True) moves rfl).named named⟩

/-- What the supervisor does for a worker on request. -/
theorem tries_attempt {w : World σ} (named : w.Named) (id : WorkerId) (effect : Effect)
    (now : Instant) (other : WorkerId) :
    Tries other (some now) w (w.attempt id (w.sup.retryKnown id effect now)) := by
  unfold Supervisor.retryKnown
  split
  · exact (tries_moves named (Supervisor.moves_retry (named id) effect now)
      (Supervisor.attends_retry (named id) effect now) other).1
  · exact tries_of_same _ rfl rfl

/-- A step of a teardown tries nothing. -/
theorem spares_attempt {w : World σ} (named : w.Named) (id : WorkerId) {effect : Effect}
    (teardown : effect ≠ .spawn) (now : Instant) (other : WorkerId) :
    Tries other none w (w.attempt id (w.sup.retryKnown id effect now)) := by
  unfold Supervisor.retryKnown
  split
  · exact (tries_moves named (Supervisor.moves_retry (named id) effect now)
      (Supervisor.spares_retry teardown now) other).1
  · exact tries_of_same _ rfl rfl

/-- **Every action** tries to start a worker's process, or leaves the attempts alone. -/
theorem tries_step {w : World σ} (named : w.Named) (a : Action) (id : WorkerId) :
    Tries id a.time? w (w.step a) := by
  cases a with
  | addWorker other source now =>
      simp only [step]
      split
      · next h => exact tries_of_keeps (keeps_add h) rfl id _
      · exact tries_of_same _ rfl rfl
  | tick now =>
      exact tries_forEach id (fun w other named =>
        tries_moves named (Supervisor.moves_tickWorker (named other) now)
          (Supervisor.attends_tickWorker (named other) now) id) named _
  | event other event external now =>
      exact (tries_moves named (Supervisor.moves_handleEvent (named other) external now)
        (Supervisor.attends_handleEvent (named other) external now) id).1
  | killWorker other now => exact tries_attempt named other .kill now id
  | reapWorker other now => exact tries_attempt named other .reap now id
  | releaseWorker other now => exact tries_attempt named other .release now id
  | killAll =>
      exact tries_forEach id (fun w other named =>
        tries_moves named (Supervisor.moves_killProcess w.sup other)
          (Supervisor.attends_killProcess w.sup other) id) named _
  | reapAll =>
      exact tries_forEach id (fun w other named =>
        tries_moves named (Supervisor.moves_reapProcess w.sup 0 other)
          (Supervisor.attends_reapProcess w.sup 0 other) id) named _
  | releaseAll =>
      exact tries_forEach id (fun w other named =>
        tries_moves named Supervisor.Move.letGo.moves (Supervisor.attends_letGo w.sup other) id)
        named _
  | wait => exact tries_of_same _ rfl rfl
  | dispatch token mmap =>
      obtain ⟨keeps, calls⟩ := (w.dispatched_dispatch token mmap).keeps
      exact tries_of_keeps keeps calls id _
  | readFrames now =>
      refine tries_forEach id (fun w other named => ?_) named _
      have received := w.received_receive now other
      obtain ⟨keeps, calls⟩ := received.keeps
      exact ⟨tries_of_keeps keeps calls id _, (Part.receive (D := fun _ _ => True) received).named named⟩
  | pullOne now => exact tries_of_keeps (w.keeps_pullOne now) rfl id _
  | pullBatch n now => exact tries_of_keeps (w.keeps_pullBatch n now) rfl id _
  | snapshot other => exact tries_of_same _ rfl rfl
  | release other now =>
      simp only [step]
      cases released : w.mux.release other now with
      | error e => exact tries_of_same _ rfl rfl
      | ok mux => exact tries_of_keeps (keeps_release released) rfl id _
  | produce n deed =>
      cases there : w.sup.links[n]? with
      | none =>
          rw [step, produce_of_unlinked there]
          exact tries_of_same _ rfl rfl
      | some link =>
          obtain ⟨keeps, calls⟩ := keeps_produce there deed
          exact tries_of_keeps keeps calls id _

/-- The last attempt to start a worker's process in a run was made by an action at some time, and this
is how it ended. -/
def LastAttempt (w : World σ) (l : List Action) (id : WorkerId) (t : Instant) (ok : Bool) : Prop :=
  ∃ before a after, l = before ++ a :: after ∧ a.time? = some t ∧
    attempts id (w.run (before ++ [a])).calls ≠ attempts id (w.run before).calls ∧
    attempts id (w.run l).calls = attempts id (w.run (before ++ [a])).calls ∧
    (attempts id (w.run l).calls).getLast? = some ok

/-- What the stamp of a worker's record says after a run: there was no attempt, or the last one was
made at that time, and it failed if the worker is waiting to be started. -/
def Stamped (w : World σ) (l : List Action) (id : WorkerId) (rec : Worker) : Prop :=
  (rec.lastSpawn = none ∧ attempts id (w.run l).calls = []) ∨
  ∃ t ok, rec.lastSpawn = some t ∧ w.LastAttempt l id t ok ∧ (rec.state = .creating → ok = false)

/-- An action more. -/
theorem stamped_step {w : World σ} {l : List Action} {id : WorkerId} {a : Action}
    (tries : Tries id a.time? (w.run l) ((w.run l).step a))
    (unknown : (w.run l).sup.worker? id = none → attempts id (w.run l).calls = [])
    (stamped : ∀ rec, (w.run l).sup.worker? id = some rec → w.Stamped l id rec) :
    ((w.run (l ++ [a])).sup.worker? id = none → attempts id (w.run (l ++ [a])).calls = []) ∧
    ∀ rec, (w.run (l ++ [a])).sup.worker? id = some rec → w.Stamped (l ++ [a]) id rec := by
  have after : w.run (l ++ [a]) = (w.run l).step a := w.run_append l [a]
  unfold Stamped LastAttempt
  rw [after]
  cases tries with
  | idle calls absent records =>
      rw [calls]
      refine ⟨fun none => unknown (absent none), ?_⟩
      intro rec' known'
      rcases records rec' known' with ⟨rec, known, stamp, waits⟩ | ⟨new, stamp⟩
      · rcases stamped rec known with ⟨never, none⟩ | ⟨t, ok, at_, ⟨before, b, rest, split, time, tried,
          last, ended⟩, failed⟩
        · exact Or.inl ⟨stamp.trans never, none⟩
        · refine Or.inr ⟨t, ok, stamp.trans at_, ⟨before, b, rest ++ [a], ?_, time, tried, last, ended⟩,
            fun creating => failed (waits creating)⟩
          rw [split, List.append_assoc, List.cons_append]
      · exact Or.inl ⟨stamp, unknown new⟩
  | @tried new t ok rec' time calls made known' stamp waits =>
      have some : new ≠ [] := by
        rintro rfl
        cases made
      refine ⟨fun absent => absurd (absent.symm.trans known') nofun, ?_⟩
      intro v known''
      obtain rfl : rec' = v := Option.some.inj (known'.symm.trans known'')
      refine Or.inr ⟨t, ok, stamp, ⟨l, a, [], rfl, time, ?_, ?_, ?_⟩, waits⟩
      · rw [after, calls]
        simpa using some
      · rw [after]
      · rw [calls, List.getLast?_append, made]
        rfl

/-- **The stamp of a record** is that of the last attempt in the run. -/
theorem stamped_run (manager : σ) (config : Config) (now : Instant) (l : List Action)
    {id : WorkerId} {rec : Worker}
    (known : ((start manager config now).run l).sup.worker? id = some rec) :
    (start manager config now).Stamped l id rec := by
  have all : ∀ l l', (((start manager config now).run l).sup.worker? id = none →
        attempts id ((start manager config now).run l).calls = []) ∧
      (∀ rec, ((start manager config now).run l).sup.worker? id = some rec →
        (start manager config now).Stamped l id rec) →
      ∀ rec, ((start manager config now).run (l ++ l')).sup.worker? id = some rec →
        (start manager config now).Stamped (l ++ l') id rec := by
    intro l l'
    induction l' generalizing l with
    | nil =>
        rw [List.append_nil]
        exact And.right
    | cons a rest ih =>
        rintro ⟨unknown, stamped⟩
        have named := named_run manager config now l
        have next := ih (l ++ [a]) (stamped_step (tries_step named a id) unknown stamped)
        rw [List.append_assoc] at next
        exact next
  exact all [] l ⟨fun _ => rfl, fun _ known => absurd known nofun⟩ rec known

end World

end FrameMux
