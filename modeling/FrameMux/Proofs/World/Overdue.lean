/-
**No step is overdue after a round.**

In a round the watchdog may condemn a worker, its teardown goes on as far as the process manager lets
it, what is still owed is tried once more, and a worker that has rested long enough is started again.
Whatever the process manager answers on the way, and however short the waiting times are, a worker is
afterwards either up to date or held up by an answer of this very round.

Main definitions:

* `FrameMux.lastKill?`, `FrameMux.lastReap?` — the last answers among some calls;
* `FrameMux.Worker.Settled` — **a worker that is up to date** after a round;
* `FrameMux.Obeyed` — every kill succeeded and every reap found the process over.

Main results:

* `FrameMux.Supervisor.settled_advance` — what a worker is due for settles it;
* `FrameMux.Supervisor.settled_tickWorker` — and so does its turn in a round;
* `FrameMux.World.tick_leaves_nothing_overdue` — **no step is overdue** after a round of any run.
-/

import FrameMux.Proofs.World.Registrations
import FrameMux.Proofs.World.Turns

set_option relaxedAutoImplicit false
set_option autoImplicit false

namespace FrameMux

/-! ### Answers -/

/-- A kill and its answer. -/
def Call.kill? : Call → Option (Int × Bool)
  | kill pid answer => some (pid, answer)
  | _ => none

/-- A reap and its answer. -/
def Call.reap? : Call → Option (Int × Option ReapStatus)
  | reap pid answer => some (pid, answer)
  | _ => none

/-- The last kill among some calls. -/
def lastKill? (calls : List Call) : Option (Int × Bool) := (calls.filterMap Call.kill?).getLast?

/-- The last reap among some calls. -/
def lastReap? (calls : List Call) : Option (Int × Option ReapStatus) :=
  (calls.filterMap Call.reap?).getLast?

theorem lastKill?_append {calls new : List Call} {k : Int × Bool} (h : lastKill? new = some k) :
    lastKill? (calls ++ new) = some k := by
  unfold lastKill? at h ⊢
  rw [List.filterMap_append, List.getLast?_append, h]
  rfl

theorem lastReap?_append {calls new : List Call} {r : Int × Option ReapStatus}
    (h : lastReap? new = some r) : lastReap? (calls ++ new) = some r := by
  unfold lastReap? at h ⊢
  rw [List.filterMap_append, List.getLast?_append, h]
  rfl

/-- Every kill succeeded, and every reap found the process over. -/
structure Obeyed (calls : List Call) : Prop where
  kills : ∀ pid ok, .kill pid ok ∈ calls → ok = true
  reaps : ∀ pid answer, .reap pid answer ∈ calls → (answer.map ReapStatus.isDead).getD false = true

theorem Obeyed.left {calls new : List Call} (h : Obeyed (calls ++ new)) : Obeyed calls where
  kills := fun pid ok mem => h.kills pid ok (List.mem_append_left _ mem)
  reaps := fun pid answer mem => h.reaps pid answer (List.mem_append_left _ mem)

/-! ### Records -/

namespace Worker

/-- A worker that is up to date at some time, after some calls that were made for it. -/
structure Settled (w : Worker) (policy : Policy) (now : Instant) (new : List Call) : Prop where
  unpurged : w.state ≠ .purged
  alive : w.state = .alive → w.exitReported = false ∧ w.verdict? policy now = none
  infected : w.state = .infected → ∃ pid, w.pid = some pid ∧ lastKill? new = some (pid, false)
  zombie : w.state = .zombie → ∃ pid answer, w.pid = some pid ∧
    lastReap? new = some (pid, answer) ∧ (answer = none ∨ answer = some .running)
  buried : w.state = .buried → now.since w.since < policy.cooldown ∨ w.since = now
  creating : w.state = .creating →
    ∃ t, w.lastSpawn = some t ∧ (t = now ∨ now.since t < policy.spawnRetry)

/-- Earlier calls do not matter. -/
theorem Settled.after {w : Worker} {policy : Policy} {now : Instant} {new : List Call}
    (h : w.Settled policy now new) (calls : List Call) : w.Settled policy now (calls ++ new) where
  unpurged := h.unpurged
  alive := h.alive
  infected := by
    intro infected
    obtain ⟨pid, has, last⟩ := h.infected infected
    exact ⟨pid, has, lastKill?_append last⟩
  zombie := by
    intro zombie
    obtain ⟨pid, answer, has, last, runs⟩ := h.zombie zombie
    exact ⟨pid, answer, has, lastReap?_append last, runs⟩
  buried := h.buried
  creating := h.creating

/-- An alive worker that the watchdog has nothing against. -/
theorem settled_of_alive {w : Worker} {policy : Policy} {now : Instant} (alive : w.state = .alive)
    (acquitted : w.verdict? policy now = none) (new : List Call) : w.Settled policy now new := by
  have unreported : w.exitReported = false := by
    cases reported : w.exitReported with
    | false => rfl
    | true =>
        rw [verdict?, if_neg (not_not_intro alive), if_pos reported] at acquitted
        cases acquitted
  refine ⟨?_, fun _ => ⟨unreported, acquitted⟩, ?_, ?_, ?_, ?_⟩
  all_goals
    rw [alive]
    intro other
    cases other

/-- A worker that was just buried. -/
theorem settled_buriedAt (w : Worker) (policy : Policy) (now : Instant) (new : List Call) :
    (w.buriedAt now).Settled policy now new :=
  ⟨nofun, nofun, nofun, nofun, fun _ => Or.inr rfl, nofun⟩

/-- A reap that does not find the process over fails, or finds it running. -/
theorem running_of_not_dead {answer : Option ReapStatus}
    (runs : (answer.map ReapStatus.isDead).getD false = false) :
    answer = none ∨ answer = some .running := by
  cases answer with
  | none => exact Or.inl rfl
  | some status => exact Or.inr (congrArg some (ReapStatus.isDead_eq_false_iff.1 runs))

/-- Reaping settles a zombie. -/
theorem Reaped.settled {w w' : Worker} {now : Instant} {new : List Call} (h : w.Reaped now w' new)
    (zombie : w.state = .zombie) (policy : Policy) : w'.Settled policy now new := by
  cases h with
  | gone | dead => exact settled_buriedAt _ policy now _
  | @running pid answer has runs =>
      refine ⟨?_, ?_, ?_, fun _ => ⟨pid, answer, has, rfl, running_of_not_dead runs⟩, ?_, ?_⟩
      all_goals
        rw [zombie]
        nofun

/-- Killing settles an infected worker. -/
theorem Killed.settled {w w' : Worker} {now : Instant} {new : List Call} (h : w.Killed now w' new)
    (infected : w.state = .infected) (policy : Policy) : w'.Settled policy now new := by
  cases h with
  | gone _ reaped => exact reaped.settled rfl policy
  | @done _ new pid _ reaped => exact (reaped.settled rfl policy).after [.kill pid true]
  | @refused pid has =>
      refine ⟨?_, ?_, fun _ => ⟨pid, has, rfl⟩, ?_, ?_, ?_⟩
      all_goals
        rw [infected]
        nofun

/-- A worker that was just started is up to date, and so is one whose start just failed. -/
theorem Launched.settled {w w' : Worker} {now : Instant} {new : List Call}
    (h : w.Launched now w' new) (creating : w.state = .creating) (policy : Policy) :
    w'.Settled policy now new := by
  cases h with
  | failed =>
      refine ⟨?_, ?_, ?_, ?_, ?_, fun _ => ⟨now, rfl, Or.inl rfl⟩⟩
      all_goals
        rw [creating]
        nofun
  | started link =>
      refine settled_of_alive rfl ?_ _
      -- It has been alive for no time, so no bound is passed.
      simp [verdict?, patience, negotiated, reader?, beginGeneration, enter]
      exact Nat.not_lt_zero _

/-- A worker whose reaping was tried is a zombie still, or buried. -/
theorem Reaped.fallen {w w' : Worker} {now : Instant} {new : List Call} (h : w.Reaped now w' new)
    (zombie : w.state = .zombie) : w'.state = .zombie ∨ w'.state = .buried := by
  cases h with
  | gone | dead => exact Or.inr rfl
  | running => exact Or.inl zombie

/-- A worker whose killing was tried is infected still, a zombie, or buried. -/
theorem Killed.fallen {w w' : Worker} {now : Instant} {new : List Call} (h : w.Killed now w' new)
    (infected : w.state = .infected) :
    w'.state = .infected ∨ w'.state = .zombie ∨ w'.state = .buried := by
  cases h with
  | gone _ reaped | done _ reaped => exact Or.inr (reaped.fallen rfl)
  | refused => exact Or.inl infected

/-- A worker that is buried since some time, without a process. -/
structure AtRest (w : Worker) (now : Instant) : Prop where
  buried : w.state = .buried
  since : w.since = now
  gone : w.pid = none

/-- If the process is found to be over, the worker is buried. -/
theorem Reaped.atRest {w w' : Worker} {now : Instant} {new : List Call} (h : w.Reaped now w' new)
    (obeyed : Obeyed new) : w'.AtRest now := by
  cases h with
  | gone none => exact ⟨rfl, rfl, none⟩
  | dead => exact ⟨rfl, rfl, rfl⟩
  | running _ runs =>
      have ended := obeyed.reaps _ _ (List.mem_singleton_self _)
      rw [runs] at ended
      cases ended

/-- If moreover the kill succeeds, so is an infected worker. -/
theorem Killed.atRest {w w' : Worker} {now : Instant} {new : List Call} (h : w.Killed now w' new)
    (obeyed : Obeyed new) : w'.AtRest now := by
  cases h with
  | gone _ reaped => exact reaped.atRest obeyed
  | @done _ new pid _ reaped =>
      exact reaped.atRest ⟨fun p ok mem => obeyed.kills p ok (List.mem_cons_of_mem _ mem),
        fun p answer mem => obeyed.reaps p answer (List.mem_cons_of_mem _ mem)⟩
  | refused => cases obeyed.kills _ _ (List.mem_singleton_self _)

end Worker

/-! ### Turns -/

namespace Supervisor

variable {σ : Type} [ProcessManager σ]

/-- **What a worker is due for settles it**, unless the watchdog has something against it. -/
theorem settled_advance {id : WorkerId} {s : Supervisor (Recorder σ)} {w : Worker}
    (known : s.worker? id = some w) (named : w.id = id) (unpurged : w.state ≠ .purged) (now : Instant)
    (acquitted : w.verdict? s.policy now = none) :
    ∃ w' new, Told id s (s.advance id now) w' new ∧ w'.Settled s.policy now new := by
  cases state : w.state with
  | alive =>
      rw [advance_of_alive known state]
      exact ⟨w, [], told_refl known, Worker.settled_of_alive state acquitted []⟩
  | infected =>
      rw [advance_of_infected known state]
      obtain ⟨w', new, told, killed⟩ := told_killAndReap known now
      exact ⟨w', new, told, killed.settled state _⟩
  | zombie =>
      rw [advance_of_zombie known state]
      obtain ⟨w', new, told, reaped⟩ := told_reapAndBury known now
      exact ⟨w', new, told, reaped.settled state _⟩
  | purged => exact absurd state unpurged
  | creating =>
      rw [advance_of_creating known named state]
      split
      · obtain ⟨w', new, told, launched⟩ := told_launch known named now
        exact ⟨w', new, told, launched.settled state _⟩
      · next early =>
          refine ⟨w, [], told_refl known, ?_⟩
          have waits : ∃ t, w.lastSpawn = some t ∧ now.since t < s.policy.spawnRetry := by
            cases stamp : w.lastSpawn with
            | none => simp [spawnDue, stamp] at early
            | some t =>
                refine ⟨t, rfl, Nat.lt_of_not_le fun long => early ?_⟩
                simp only [spawnDue, stamp]
                exact decide_eq_true long
          obtain ⟨t, stamp, soon⟩ := waits
          refine ⟨?_, ?_, ?_, ?_, ?_, fun _ => ⟨t, stamp, Or.inr soon⟩⟩
          all_goals
            rw [state]
            nofun
  | buried =>
      rw [advance_of_buried known named state]
      split
      · have creating := told_enter known .creating now
        obtain ⟨w', new, told, launched⟩ := told_launch creating.known named now
        exact ⟨w', new, creating.trans told, launched.settled rfl _⟩
      · next resting =>
          refine ⟨w, [], told_refl known, ?_⟩
          refine ⟨?_, ?_, ?_, ?_, fun _ => Or.inl (Nat.lt_of_not_le resting), ?_⟩
          all_goals
            rw [state]
            nofun

/-- What the watchdog leaves behind it has nothing against, and is not purged. -/
theorem told_judge {id : WorkerId} {s : Supervisor (Recorder σ)} {w : Worker}
    (known : s.worker? id = some w) (unpurged : w.state ≠ .purged) (now : Instant) :
    ∃ w' new, Told id s (s.judge id now) w' new ∧ w'.id = w.id ∧ w'.state ≠ .purged ∧
      w'.verdict? s.policy now = none ∧
      ((w.verdict? s.policy now = none ∧ w' = w ∧ new = []) ∨
        (w.verdict? s.policy now ≠ none ∧ (w.enter .infected now).Killed now w' new)) := by
  cases verdict : w.verdict? s.policy now with
  | none =>
      rw [judge_of_acquitted known verdict]
      exact ⟨w, [], told_refl known, rfl, unpurged, verdict, Or.inl ⟨rfl, rfl, rfl⟩⟩
  | some event =>
      rw [judge_of_condemned known verdict]
      have infected := told_enter known .infected now
      obtain ⟨w', new, told, killed⟩ := told_killAndReap infected.known now
      have fallen := killed.fallen rfl
      refine ⟨w', _, infected.trans told, ?_, ?_, ?_, Or.inr ⟨nofun, killed⟩⟩
      · cases killed with
        | gone _ reaped | done _ reaped => cases reaped <;> rfl
        | refused => rfl
      · rcases fallen with state | state | state <;> rw [state] <;> nofun
      · refine Worker.verdict?_of_state ?_ _ _
        rcases fallen with state | state | state <;> rw [state] <;> nofun

/-- **A turn settles its worker.** -/
theorem settled_tickWorker {id : WorkerId} {s : Supervisor (Recorder σ)} {w : Worker}
    (known : s.worker? id = some w) (named : w.id = id) (unpurged : w.state ≠ .purged)
    (now : Instant) :
    ∃ w' new, Told id s (s.tickWorker now id) w' new ∧ w'.Settled s.policy now new := by
  obtain ⟨v, first, judged, same, unpurged', acquitted, -⟩ := told_judge known unpurged now
  have named' : s.Named id := fun u known' => by
    obtain rfl : w = u := Option.some.inj (known.symm.trans known')
    exact named
  have policy := (moves_judge named' now).policy
  rw [← policy] at acquitted
  obtain ⟨w', new, told, settled⟩ := settled_advance judged.known (same.trans named) unpurged' now
    acquitted
  rw [policy] at settled
  exact ⟨w', first ++ new, judged.trans told, settled.after first⟩

/-- If the process manager does as it is told, a worker that the watchdog condemns comes to rest, and
then it is started at once if it need not rest. -/
theorem condemned_tickWorker {id : WorkerId} {s : Supervisor (Recorder σ)} {w w' : Worker}
    {new : List Call} (known : s.worker? id = some w) (named : w.id = id) (now : Instant)
    (condemned : w.verdict? s.policy now ≠ none) (told : Told id s (s.tickWorker now id) w' new)
    (obeyed : Obeyed new) :
    (∃ v, (s.judge id now).worker? id = some v ∧ v.AtRest now) ∧
    (s.policy.cooldown.nanos ≠ 0 → w'.AtRest now) ∧
    (s.policy.cooldown.nanos = 0 →
      new.filterMap Call.attempt? ≠ [] ∧ w'.lastSpawn = some now) := by
  have unpurged : w.state ≠ .purged := by
    intro purged
    exact condemned (Worker.verdict?_of_state (by rw [purged]; nofun) _ _)
  obtain ⟨v, first, judged, same, -, -, ⟨acquitted, -⟩ | ⟨-, killed⟩⟩ := told_judge known unpurged now
  · exact absurd acquitted condemned
  · have named' : s.Named id := fun u known' => by
      obtain rfl : w = u := Option.some.inj (known.symm.trans known')
      exact named
    have policy := (moves_judge named' now).policy
    -- The calls of the turn are those of the judgement and then some.
    have attends := attends_advance ((moves_judge named' now).named named') now
    obtain ⟨second, calls⟩ : ∃ second, (s.tickWorker now id).manager.calls =
        (s.judge id now).manager.calls ++ second := by
      rcases attends with ⟨-, -, calls⟩ | ⟨_, _, second, _, after, _⟩
      · exact ⟨[], by rw [List.append_nil]; exact calls⟩
      · exact ⟨second, after.calls⟩
    have split : new = first ++ second := by
      have all := told.calls
      rw [calls, judged.calls, List.append_assoc] at all
      exact (List.append_cancel_left all).symm
    have rest := killed.atRest (split ▸ obeyed).left
    have advanced := advance_of_buried judged.known (same.trans named) rest.buried now
    rw [policy, rest.since, Instant.since_self] at advanced
    refine ⟨⟨v, judged.known, rest⟩, ?_, ?_⟩
    · intro long
      have long : ¬ s.policy.cooldown ≤ ⟨0⟩ := fun short => long (Nat.le_zero.1 short)
      rw [if_neg long] at advanced
      have known' := told.known
      rw [tickWorker, advanced, judged.known] at known'
      cases known'
      exact rest
    · intro short
      have short : s.policy.cooldown ≤ ⟨0⟩ := Nat.le_of_eq short
      rw [if_pos short] at advanced
      have creating := told_enter judged.known .creating now
      obtain ⟨u, third, launched, outcome⟩ := told_launch creating.known (same.trans named) now
      have told' := judged.trans (creating.trans launched)
      rw [← advanced] at told'
      obtain rfl : u = w' := Option.some.inj (told'.known.symm.trans told.known)
      obtain rfl : first ++ ([] ++ third) = new :=
        List.append_cancel_left (told'.calls.symm.trans told.calls)
      rw [List.filterMap_append]
      cases outcome with
      | failed => exact ⟨by simp [Call.attempt?], rfl⟩
      | started => exact ⟨by simp [Call.attempt?], rfl⟩

/-- If the process manager does as it is told, a teardown that is under way comes to its end. -/
theorem fallen_tickWorker {id : WorkerId} {s : Supervisor (Recorder σ)} {w w' : Worker}
    {new : List Call} (known : s.worker? id = some w) (now : Instant)
    (fallen : w.state = .infected ∨ w.state = .zombie)
    (told : Told id s (s.tickWorker now id) w' new) (obeyed : Obeyed new) : w'.AtRest now := by
  have acquitted : w.verdict? s.policy now = none := by
    refine Worker.verdict?_of_state ?_ _ _
    rcases fallen with state | state <;> rw [state] <;> nofun
  rw [tickWorker, judge_of_acquitted known acquitted] at told
  rcases fallen with state | state
  · rw [advance_of_infected known state] at told
    obtain ⟨u, calls, told', killed⟩ := told_killAndReap known now
    obtain rfl : u = w' := Option.some.inj (told'.known.symm.trans told.known)
    obtain rfl : calls = new := List.append_cancel_left (told'.calls.symm.trans told.calls)
    exact killed.atRest obeyed
  · rw [advance_of_zombie known state] at told
    obtain ⟨u, calls, told', reaped⟩ := told_reapAndBury known now
    obtain rfl : u = w' := Option.some.inj (told'.known.symm.trans told.known)
    obtain rfl : calls = new := List.append_cancel_left (told'.calls.symm.trans told.calls)
    exact reaped.atRest obeyed

end Supervisor

/-! ### Rounds -/

namespace World

variable {σ : Type} [ProcessManager σ]

/-- The turn of a worker in a round. -/
def turn (now : Instant) (w : World σ) (id : WorkerId) : World σ :=
  w.follow id (w.sup.tickWorker now id)

theorem named_turn {w : World σ} (named : w.Named) (now : Instant) (id : WorkerId) :
    (w.turn now id).Named :=
  (parts_follow (D := fun _ _ => True) (Supervisor.moves_tickWorker (named id) now) rfl).named named

/-- A turn only adds calls. -/
theorem calls_turn {w : World σ} (named : w.Named) (now : Instant) (id : WorkerId) :
    ∃ new, (w.turn now id).sup.manager.calls = w.sup.manager.calls ++ new ∧
      (w.turn now id).calls = w.calls ++ new.map fun call => (id, call) := by
  obtain ⟨new, made⟩ := (Supervisor.moves_tickWorker (named id) now).calls
  exact ⟨new, made, by rw [turn, follow_eq id made]⟩

/-- Some turns only add calls. -/
theorem calls_turns {w : World σ} (named : w.Named) (now : Instant) (ids : List WorkerId) :
    ∃ new, (ids.foldl (turn now) w).calls = w.calls ++ new := by
  induction ids generalizing w with
  | nil => exact ⟨[], (List.append_nil _).symm⟩
  | cons id rest ih =>
      obtain ⟨new, -, first⟩ := calls_turn named now id
      obtain ⟨new', calls⟩ := ih (named_turn named now id)
      exact ⟨_, by rw [List.foldl_cons, calls, first, List.append_assoc]⟩

/-- What is left alone by the turns of others. -/
theorem turns_of_notMem {w : World σ} (named : w.Named) (now : Instant) {id : WorkerId}
    {ids : List WorkerId} (other : id ∉ ids) :
    (ids.foldl (turn now) w).Named ∧
    (ids.foldl (turn now) w).sup.worker? id = w.sup.worker? id ∧
    callsFor id (ids.foldl (turn now) w).calls = callsFor id w.calls ∧
    (ids.foldl (turn now) w).sup.policy = w.sup.policy ∧
    (ids.foldl (turn now) w).sup = ids.foldl (fun s id => s.tickWorker now id) w.sup := by
  induction ids generalizing w with
  | nil => exact ⟨named, rfl, rfl, rfl, rfl⟩
  | cons first rest ih =>
      have ne : id ≠ first := fun same => other (same ▸ List.mem_cons_self)
      have other : id ∉ rest := fun mem => other (List.mem_cons_of_mem _ mem)
      have moves := Supervisor.moves_tickWorker (named first) now
      obtain ⟨new, made⟩ := moves.calls
      obtain ⟨named', record, calls, policy, sup⟩ := ih (named_turn named now first) other
      refine ⟨named', record.trans (moves.worker?_of_ne (named first) ne), ?_,
        policy.trans moves.policy, sup⟩
      refine calls.trans ?_
      rw [turn, callsFor_follow first made, if_neg ne, List.append_nil]

/-- A round, from the point of view of one worker: the turns of some others, its own, and the turns of
the rest. -/
theorem round_of_known {w : World σ} (named : w.Named) (now : Instant) {id : WorkerId} {rec : Worker}
    (known : w.sup.worker? id = some rec) :
    ∃ (earlier later : List WorkerId) (v : World σ), w.sup.ids = earlier ++ id :: later ∧
      v.sup = earlier.foldl (fun s id => s.tickWorker now id) w.sup ∧
      v.sup.worker? id = some rec ∧ v.sup.policy = w.sup.policy ∧ v.Named ∧
      callsFor id v.calls = callsFor id w.calls ∧
      (w.step (.tick now)).sup.worker? id = (v.sup.tickWorker now id).worker? id ∧
      callsFor id (w.step (.tick now)).calls = callsFor id (v.turn now id).calls := by
  obtain ⟨earlier, later, split, before, after⟩ := Supervisor.split_ids known
  obtain ⟨named', record, calls, policy, sup⟩ := turns_of_notMem named now before
  obtain ⟨-, record', calls', -, -⟩ := turns_of_notMem (named_turn named' now id) now after
  have round : w.step (.tick now) =
      later.foldl (turn now) ((earlier.foldl (turn now) w).turn now id) := by
    show w.sup.ids.foldl (turn now) w = _
    rw [split, List.foldl_append, List.foldl_cons]
  refine ⟨earlier, later, _, split, sup, record.trans known, policy, named', calls, ?_, ?_⟩
  · rw [round, record']
    rfl
  · rw [round, calls']

/-- The policy stays the same. -/
theorem Named.policy_run {w : World σ} (named : w.Named) (l : List Action) :
    (w.run l).sup.policy = w.sup.policy := by
  refine (parts_run (D := fun _ _ => True) named l fun _ _ _ => trivial).induction
    (I := fun v => v.sup.policy = w.sup.policy) ?_ rfl
  intro v v' policy part
  rcases part.move_or_keeps with ⟨id, s, move, rfl⟩ | ⟨keeps, -⟩
  · exact move.policy.trans policy
  · exact keeps.policy.trans policy

/-- The policy is that of the configuration throughout every run. -/
theorem policy_run (manager : σ) (config : Config) (now : Instant) (l : List Action) :
    ((start manager config now).run l).sup.policy = config.policy :=
  (named_start manager config now).policy_run l

/-- **No step is overdue after a round** of any run.  Every worker is up to date: it is not purged; if
it is alive, its producer reported no exit and the watchdog has nothing against it; if it is infected
or a zombie, the last kill or reap of its process in this round did not succeed; if it is buried, its
cool-down is not over or it was buried just now; and if it waits to be started, the last attempt in
the run failed, and it was made just now or the interval between attempts is not over.  If the
process manager does as it is told, a teardown that is under way comes to its end in the round, and
so does one that becomes due in it, after which the worker is started again unless it has to rest. -/
theorem tick_leaves_nothing_overdue (manager : σ) (config : Config) (began : Instant)
    (l : List Action) {w : World σ} (reached : (start manager config began).run l = w)
    (now : Instant) :
    ∃ new, (w.step (.tick now)).calls = w.calls ++ new ∧
      ∀ id rec, (w.step (.tick now)).sup.worker? id = some rec →
        rec.Settled config.policy now (callsFor id new) ∧
        (rec.state = .creating → ∃ t,
          (start manager config began).LastAttempt (l ++ [.tick now]) id t false ∧
          (t = now ∨ now.since t < config.policy.spawnRetry)) ∧
        ∃ before, w.sup.worker? id = some before ∧ (Obeyed (callsFor id new) →
          (before.state = .infected ∨ before.state = .zombie → rec.AtRest now) ∧
          (before.state = .alive → before.exitReported = true ∨
              (before.patience config.policy).2 < now.since (before.patience config.policy).1 →
            (∃ earlier later, w.sup.ids = earlier ++ id :: later ∧
              ∃ gone, ((earlier.foldl (fun s id => s.tickWorker now id) w.sup).judge id now).worker? id
                = some gone ∧ gone.AtRest now) ∧
            (config.policy.cooldown.nanos ≠ 0 → rec.AtRest now) ∧
            (config.policy.cooldown.nanos = 0 →
              (callsFor id new).filterMap Call.attempt? ≠ [] ∧ rec.lastSpawn = some now))) := by
  subst reached
  have named := named_run manager config began l
  have policy := policy_run manager config began l
  have tidy := tidy_run manager config began l
  have stamped : ∀ id rec, (((start manager config began).run l).step (.tick now)).sup.worker? id =
      some rec → (start manager config began).Stamped (l ++ [.tick now]) id rec := by
    intro id rec known
    refine stamped_run manager config began (l ++ [.tick now]) ?_
    rw [run_append]
    exact known
  generalize (start manager config began).run l = w at named policy tidy stamped ⊢
  obtain ⟨new, calls⟩ := calls_turns named now w.sup.ids
  refine ⟨new, calls, ?_⟩
  intro id rec' known'
  cases known : w.sup.worker? id with
  | none =>
      have unlisted : id ∉ w.sup.ids := fun mem => by
        have some := (w.sup.workers.mem_ids_iff id).1 mem
        rw [show w.sup.workers.get? id = none from known] at some
        cases some
      have same := (turns_of_notMem named now unlisted).2.1
      cases (same.trans known).symm.trans known'
  | some rec =>
      obtain ⟨earlier, later, v, split, sup, at_, policy', named', calls', after, made⟩ :=
        round_of_known named now known
      have named_ : rec.id = id := named id rec known
      obtain ⟨u, calls'', told, settled⟩ :=
        Supervisor.settled_tickWorker at_ named_ (tidy id rec known).unpurged now
      obtain rfl : u = rec' := Option.some.inj (told.known.symm.trans (after.symm.trans known'))
      -- The calls for the worker in the round are those of its turn.
      obtain rfl : callsFor id new = calls'' := by
        rw [turn, callsFor_follow id told.calls, if_pos rfl, calls'] at made
        rw [show (w.step (.tick now)).calls = w.calls ++ new from calls, callsFor_append] at made
        exact List.append_cancel_left made
      rw [policy', policy] at settled
      refine ⟨settled, ?_, rec, rfl, ?_⟩
      · intro creating
        obtain ⟨t, stamp, soon⟩ := settled.creating creating
        rcases stamped id u known' with ⟨never, -⟩ | ⟨t', ok, stamp', last, failed⟩
        · cases never.symm.trans stamp
        · obtain rfl : t' = t := Option.some.inj (stamp'.symm.trans stamp)
          exact ⟨t', failed creating ▸ last, soon⟩
      · intro obeyed
        refine ⟨fun fallen => Supervisor.fallen_tickWorker at_ now fallen told obeyed, ?_⟩
        intro alive late
        have condemned : rec.verdict? v.sup.policy now ≠ none := by
          rw [policy', policy, Worker.verdict?, if_neg (not_not_intro alive)]
          split
          · exact Option.some_ne_none _
          · next unreported =>
              rw [if_pos (late.resolve_left unreported)]
              exact Option.some_ne_none _
        have outcome := Supervisor.condemned_tickWorker at_ named_ now condemned told obeyed
        rw [policy', policy, sup] at outcome
        obtain ⟨fell, rests, starts⟩ := outcome
        exact ⟨⟨earlier, later, split, fell⟩, rests, starts⟩

/-- In the rehearsal, if the producer reports its exit then, the next round buries the worker. -/
theorem tick_leaves_nothing_overdue_rehearsed :
    ∃ w rec, (start (σ := ScriptedManager) ⟨[.starts none [.ofEvent .childStarted]], [], [], 0, []⟩
        .defaults ⟨0⟩).run (rehearsal ++ [.produce 0 (.announce (.ofEvent .pipelineExited)), .wait,
          .dispatch ⟨⟨1⟩, 1⟩ .linux]) = w ∧
      (w.step (.tick ⟨2⟩)).calls = w.calls ++
        [(⟨1⟩, .kill 1000 true), (⟨1⟩, .reap 1000 (some (.signaled 9)))] ∧
      (w.step (.tick ⟨2⟩)).sup.worker? ⟨1⟩ = some rec ∧ rec.AtRest ⟨2⟩ ∧
      rec.Settled Config.defaults.policy ⟨2⟩ [.kill 1000 true, .reap 1000 (some (.signaled 9))] := by
  obtain ⟨new, calls, settles⟩ := tick_leaves_nothing_overdue (σ := ScriptedManager)
    ⟨[.starts none [.ofEvent .childStarted]], [], [], 0, []⟩ .defaults ⟨0⟩ (rehearsal ++
      [.produce 0 (.announce (.ofEvent .pipelineExited)), .wait, .dispatch ⟨⟨1⟩, 1⟩ .linux]) rfl ⟨2⟩
  obtain rfl : new = [(⟨1⟩, .kill 1000 true), (⟨1⟩, .reap 1000 (some (.signaled 9)))] :=
    List.append_cancel_left (calls.symm.trans rfl)
  obtain ⟨settled, -, before, known, obeys⟩ := settles ⟨1⟩ _ rfl
  have obeyed : Obeyed (callsFor ⟨1⟩
      [(⟨1⟩, .kill 1000 true), (⟨1⟩, .reap 1000 (some (.signaled 9)))]) := by
    constructor <;> simp [callsFor, ReapStatus.isDead]
  cases known
  obtain ⟨-, rests, -⟩ := (obeys obeyed).2 rfl (Or.inl rfl)
  exact ⟨_, _, rfl, calls, rfl, rests (by decide), settled⟩

end World

end FrameMux
