/-
**Process handles.**

A worker has at most one process, and the supervisor holds its identifier until a reap tells that the
process is over.  Only then may the system use the identifier for something else, so before that it
must not be given up, and after that it must not be used.  The supervisor keeps to this in every run:
it starts a process only for a worker without one, and kills and reaps only what a worker has.

Main definitions:

* `FrameMux.live` — the processes of a worker that are not known to be over, after some calls;
* `FrameMux.Call.Permitted` — when a call may be made;
* `FrameMux.World.Handled` — **the invariant**: the identifiers that are held are the live ones, and a
  worker that may be started has none.

Main results:

* `FrameMux.World.Handled.move` — every move keeps the invariant;
* `FrameMux.World.calls_permitted` — **every call of every run is permitted**.
-/

import FrameMux.Proofs.World.Parts

set_option relaxedAutoImplicit false
set_option autoImplicit false

namespace FrameMux

/-! ### Calls -/

/-- The live processes of a worker after a call for it. -/
def Call.after (pids : List Int) : Call → List Int
  | spawn _ _ (some started) => pids ++ [started.pid]
  | reap pid (some status) => if status.isDead then pids.filter fun p => p ≠ pid else pids
  | _ => pids

/-- The processes of a worker that were started and not reported dead since. -/
def live (id : WorkerId) (calls : List (WorkerId × Call)) : List Int :=
  (calls.filter fun c => c.1 = id).foldl (fun pids c => c.2.after pids) []

/-- Reaping the only process of a worker. -/
theorem Call.after_reap (pid : Int) (answer : Option ReapStatus) :
    Call.after [pid] (.reap pid answer) =
      if (answer.map ReapStatus.isDead).getD false then [] else [pid] := by
  cases answer with
  | none => rfl
  | some status =>
      simp only [after, Option.map_some, Option.getD_some]
      split
      · simp
      · rfl

/-- A call that may be made for a worker with these live processes: starting only if there is none,
killing and reaping only one of them. -/
def Call.Permitted (id : WorkerId) (pids : List Int) : Call → Prop
  | spawn name _ _ => name = id ∧ pids = []
  | kill pid _ => pid ∈ pids
  | reap pid _ => pid ∈ pids

/-- Every call was permitted when it was made. -/
def Disciplined (calls : List (WorkerId × Call)) : Prop :=
  ∀ before id call after, calls = before ++ (id, call) :: after → call.Permitted id (live id before)

/-- One more call. -/
theorem live_concat (calls : List (WorkerId × Call)) (id other : WorkerId) (call : Call) :
    live other (calls ++ [(id, call)]) =
      if other = id then call.after (live other calls) else live other calls := by
  unfold live
  rw [List.filter_append, List.foldl_append]
  by_cases same : other = id
  · rw [if_pos same, List.filter_cons_of_pos (by simp [same])]
    rfl
  · rw [if_neg same, List.filter_cons_of_neg (by simpa using Ne.symm same)]
    rfl

/-- One more permitted call. -/
theorem Disciplined.concat {calls : List (WorkerId × Call)} (h : Disciplined calls) {id : WorkerId}
    {call : Call} (permitted : call.Permitted id (live id calls)) :
    Disciplined (calls ++ [(id, call)]) := by
  intro before id' call' after eq
  rcases List.eq_nil_or_concat after with rfl | ⟨rest, last, rfl⟩
  · obtain ⟨rfl, same⟩ := List.append_inj' eq rfl
    cases same
    exact permitted
  · rw [List.concat_eq_append, ← List.cons_append, ← List.append_assoc] at eq
    obtain ⟨rfl, -⟩ := List.append_inj' eq rfl
    exact h before id' call' rest rfl

/-- Earlier calls were permitted too. -/
theorem Disciplined.of_append {before after : List (WorkerId × Call)}
    (h : Disciplined (before ++ after)) : Disciplined before := by
  intro before' id call after' eq
  exact h before' id call (after' ++ after) (by rw [eq, List.append_assoc, List.cons_append])

/-- Permitted calls never leave a worker with two live processes. -/
theorem Disciplined.length_live_le {calls : List (WorkerId × Call)} (h : Disciplined calls)
    (id : WorkerId) : (live id calls).length ≤ 1 := by
  induction n : calls.length generalizing calls with
  | zero =>
      rw [List.eq_nil_of_length_eq_zero n]
      exact Nat.zero_le 1
  | succ n ih =>
      rcases List.eq_nil_or_concat calls with rfl | ⟨before, ⟨id', call⟩, rfl⟩
      · exact Nat.zero_le 1
      · rw [List.concat_eq_append] at h n ⊢
        have short := ih h.of_append (by simpa using n)
        have permitted := h before id' call [] rfl
        rw [live_concat]
        split
        · next same =>
            subst same
            cases call with
            | spawn name source answer =>
                have none : live id before = [] := permitted.2
                cases answer with
                | none => exact short
                | some started =>
                    rw [none]
                    exact Nat.le_refl 1
            | kill pid answer => exact short
            | reap pid answer =>
                cases answer with
                | none => exact short
                | some status =>
                    simp only [Call.after]
                    split
                    · exact Nat.le_trans (List.length_filter_le _ _) short
                    · exact short
        · exact short

/-- The states of a worker that has no process. -/
def WorkerState.bare : WorkerState → Bool
  | creating | buried | purged => true
  | _ => false

namespace World

variable {σ : Type}

/-- The process that a worker has. -/
def pid? (s : Supervisor σ) (id : WorkerId) : Option Int := (s.worker? id).bind (·.pid)

theorem pid?_eq {s : Supervisor σ} {id : WorkerId} {rec : Worker} (known : s.worker? id = some rec) :
    pid? s id = rec.pid := by
  rw [pid?, known]
  rfl

/-- The calls are those that were recorded, each was permitted, every worker has the process that is
live, and in some states it has none. -/
structure Handled (w : World σ) : Prop where
  recorded : w.calls.map Prod.snd = w.sup.manager.calls
  disciplined : Disciplined w.calls
  live : ∀ id, live id w.calls = (pid? w.sup id).toList
  bare : ∀ id rec, w.sup.worker? id = some rec → rec.state.bare = true → rec.pid = none

/-- Nothing is called and no process changes. -/
theorem Handled.quiet {w w' : World σ} (h : w.Handled) (calls : w'.calls = w.calls)
    (manager : w'.sup.manager = w.sup.manager)
    (pids : ∀ id, pid? w'.sup id = pid? w.sup id)
    (bare : ∀ id rec, w'.sup.worker? id = some rec → rec.state.bare = true → rec.pid = none) :
    w'.Handled where
  recorded := by rw [calls, manager, h.recorded]
  disciplined := by rw [calls]; exact h.disciplined
  live := by
    intro id
    rw [calls, pids, h.live]
  bare := bare

/-- A move that makes no call leaves the calls alone. -/
theorem Handled.follow_quiet {w : World σ} (h : w.Handled) {id : WorkerId}
    {s : Supervisor (Recorder σ)} (manager : s.manager = w.sup.manager)
    (others : ∀ other, other ≠ id → s.worker? other = w.sup.worker? other)
    {rec : Worker} (known : s.worker? id = some rec) (pid : rec.pid = pid? w.sup id)
    (bare : rec.state.bare = true → rec.pid = none) : (w.follow id s).Handled := by
  have calls : (w.follow id s).calls = w.calls := by
    rw [follow_of_manager id manager]
    rfl
  refine h.quiet calls manager ?_ ?_
  · intro other
    show pid? s other = _
    by_cases same : other = id
    · subst same
      rw [pid?_eq known, pid]
    · rw [pid?, others other same]
      rfl
  · intro other rec' known'
    by_cases same : other = id
    · subst same
      obtain rfl : rec = rec' := Option.some.inj (known.symm.trans known')
      exact bare
    · exact h.bare other rec' ((others other same).symm.trans known')

/-- A move that makes a permitted call, and leaves the worker with the process that is live then. -/
theorem Handled.follow_call {w : World σ} (h : w.Handled) {id : WorkerId}
    {s : Supervisor (Recorder σ)} (call : Call)
    (made : s.manager.calls = w.sup.manager.calls ++ [call])
    (permitted : call.Permitted id (pid? w.sup id).toList)
    (others : ∀ other, other ≠ id → s.worker? other = w.sup.worker? other)
    {rec : Worker} (known : s.worker? id = some rec)
    (pid : rec.pid.toList = call.after (pid? w.sup id).toList)
    (bare : rec.state.bare = true → rec.pid = none) : (w.follow id s).Handled := by
  have calls : (w.follow id s).calls = w.calls ++ [(id, call)] := by
    rw [follow_eq id made]
    rfl
  refine ⟨?_, ?_, ?_, ?_⟩
  · rw [calls, List.map_append, h.recorded]
    exact made.symm
  · rw [calls]
    exact h.disciplined.concat (by rw [h.live]; exact permitted)
  · intro other
    show FrameMux.live other (w.follow id s).calls = (pid? s other).toList
    rw [calls, live_concat, h.live]
    by_cases same : other = id
    · subst same
      rw [if_pos rfl, pid?_eq known, pid]
    · rw [if_neg same, pid?, pid?, others other same]
  · intro other rec' known'
    by_cases same : other = id
    · subst same
      obtain rfl : rec = rec' := Option.some.inj (known.symm.trans known')
      exact bare
    · exact h.bare other rec' ((others other same).symm.trans known')

theorem handled_start (manager : σ) (config : Config) (now : Instant) :
    (start manager config now).Handled where
  recorded := rfl
  disciplined := by
    intro before id call after eq
    cases before <;> cases eq
  live := fun id => rfl
  bare := by
    intro id rec known
    cases known

variable [ProcessManager σ]

/-- **Every move keeps the invariant.** -/
theorem Handled.move {w : World σ} (h : w.Handled) (named : w.Named) {id : WorkerId}
    {s : Supervisor (Recorder σ)} (move : Supervisor.Move id w.sup s) : (w.follow id s).Handled := by
  have others : ∀ other, other ≠ id → s.worker? other = w.sup.worker? other :=
    fun _ => move.worker?_of_ne (named id)
  cases move with
  | @enter rec state now known onward =>
      refine h.follow_quiet rfl others (Supervisor.record_enter known state now)
        (pid?_eq known).symm ?_
      intro bare
      generalize before : rec.state = previous at onward
      cases onward with
      | condemned | killed => cases bare
      | rested => exact h.bare id rec known (by rw [before]; rfl)
  | @kill rec pid known has =>
      have pid? := (pid?_eq known).trans has
      have record : (w.sup.afterKill pid).worker? id = some rec := known
      refine h.follow_call (.kill pid _) rfl ?_ others record ?_ (h.bare id rec known)
      · rw [pid?]
        exact List.mem_singleton_self pid
      · rw [pid?, has]
        rfl
  | @reapRunning rec pid known has running =>
      have pid? := (pid?_eq known).trans has
      have record : (w.sup.afterReap pid).worker? id = some rec := known
      refine h.follow_call (.reap pid (ProcessManager.reap w.sup.manager pid).1) rfl ?_ others record
        ?_ (h.bare id rec known)
      · rw [pid?]
        exact List.mem_singleton_self pid
      · rw [pid?, has, Option.toList_some, Call.after_reap, if_neg]
        exact Bool.eq_false_iff.1 running
  | @reapDead rec pid known has dead =>
      have pid? := (pid?_eq known).trans has
      refine h.follow_call (.reap pid (ProcessManager.reap w.sup.manager pid).1) rfl ?_ others
        (Supervisor.record_forgetPid known) ?_ (fun _ => rfl)
      · rw [pid?]
        exact List.mem_singleton_self pid
      · rw [pid?, Option.toList_some, Call.after_reap]
        exact (if_pos dead).symm
  | @bury rec now known zombie gone =>
      have record := Supervisor.record_enter (Supervisor.record_releaseChannels
        (Supervisor.record_enter known .purged now)) .buried now
      exact h.follow_quiet (by simp) others record (pid?_eq known).symm (fun _ => gone)
  | @release rec now known purged =>
      have record := Supervisor.record_enter (Supervisor.record_releaseChannels known) .buried now
      have gone : rec.pid = none := h.bare id rec known (by rw [purged]; rfl)
      exact h.follow_quiet (by simp) others record (pid?_eq known).symm (fun _ => gone)
  | letGo =>
      have manager : ((w.sup.releaseChannels id).resetCache id).manager = w.sup.manager := by simp
      have calls : (w.follow id ((w.sup.releaseChannels id).resetCache id)).calls = w.calls := by
        rw [follow_of_manager id manager]
        rfl
      -- The worker may be unknown here, so its record is not at hand.
      refine h.quiet calls manager ?_ ?_
      · intro other
        show pid? ((w.sup.releaseChannels id).resetCache id) other = _
        rw [pid?, Supervisor.worker?_resetCache, Supervisor.worker?_releaseChannels, pid?]
        split
        · cases w.sup.worker? other <;> rfl
        · rfl
      · intro other rec known
        have known : ((w.sup.releaseChannels id).resetCache id).worker? other = some rec := known
        rw [Supervisor.worker?_resetCache, Supervisor.worker?_releaseChannels] at known
        split at known
        · obtain ⟨v, before, rfl⟩ := Option.map_eq_some_iff.1 known
          exact h.bare other v before
        · exact h.bare other rec known
  | @spawnFailed rec now known creating failed =>
      have gone : rec.pid = none := h.bare id rec known (by rw [creating]; rfl)
      have pid? := (pid?_eq known).trans gone
      have attempted := Supervisor.record_attempted known now rec.source
      refine h.follow_call (.spawn id rec.source none) ?_ ?_ others attempted ?_
        (fun _ => gone)
      · rw [← failed]
        rfl
      · rw [pid?]
        exact ⟨rfl, rfl⟩
      · show rec.pid.toList = _
        rw [pid?, gone]
        rfl
  | @spawned rec started now known creating succeeded =>
      have gone : rec.pid = none := h.bare id rec known (by rw [creating]; rfl)
      have pid? := (pid?_eq known).trans gone
      obtain rfl : rec.id = id := named id rec known
      have attempted := Supervisor.record_attempted known now rec.source
      have record := Supervisor.record_enter (Supervisor.record_adopt attempted started) .alive now
      refine h.follow_call _ (Supervisor.calls_spawned succeeded now) ?_ others record ?_
        (fun bare => nomatch bare)
      · rw [pid?]
        exact ⟨rfl, rfl⟩
      · rw [pid?]
        rfl

/-- So does every other part. -/
theorem Handled.part {D : Nat → Deed → Prop} {w w' : World σ} (h : w.Handled) (named : w.Named)
    (part : Part D w w') :
    w'.Handled := by
  rcases part.move_or_keeps with ⟨id, s, move, rfl⟩ | ⟨keeps, calls⟩
  · exact h.move named move
  · refine h.quiet calls keeps.manager ?_ ?_
    · intro id
      cases before : w.sup.worker? id with
      | none =>
          cases known : w'.sup.worker? id with
          | none => rw [pid?, pid?, known, before]
          | some rec =>
              obtain ⟨source, now, rfl⟩ := keeps.added id rec known before
              rw [pid?, pid?, known, before]
              rfl
      | some v =>
          obtain ⟨rec, known, kept⟩ := keeps.kept id v before
          rw [pid?_eq known, pid?_eq before, kept.pid]
    · intro id rec known bare
      cases before : w.sup.worker? id with
      | none =>
          obtain ⟨source, now, rfl⟩ := keeps.added id rec known before
          rfl
      | some v =>
          obtain ⟨rec', known', kept⟩ := keeps.kept id v before
          obtain rfl : rec' = rec := Option.some.inj (known'.symm.trans known)
          rw [kept.pid]
          rw [kept.state] at bare
          exact h.bare id v before bare

/-- The calls of a run, by worker, are the ones that the process manager saw.  **Each was permitted
when it was made**: a process was started for a worker only when all that were started for it before
had been reported dead, and only processes were killed or reaped that were started for the worker and
not yet reported dead.  So no worker ever has two live processes. -/
theorem calls_permitted (manager : σ) (config : Config) (now : Instant) (l : List Action) :
    ((start manager config now).run l).calls.map Prod.snd =
        ((start manager config now).run l).sup.manager.calls ∧
    Disciplined ((start manager config now).run l).calls ∧
    ∀ id before after, ((start manager config now).run l).calls = before ++ after →
      (FrameMux.live id before).length ≤ 1 := by
  have h : ((start manager config now).run l).Handled := run_induction manager config now
    (handled_start manager config now) (fun _ _ named h part => h.part named part) l
  refine ⟨h.recorded, h.disciplined, ?_⟩
  intro id before after eq
  have disciplined := h.disciplined
  rw [eq] at disciplined
  exact disciplined.of_append.length_live_le id

-- An identifier that the system gives out again is killed and reaped only after it was started again.
example : ((start (σ := ScriptedManager)
      ⟨[.starts (some 7) [], .fails, .starts (some 7) []], [false], [some .running], 0, []⟩
      .defaults ⟨0⟩).run [.addWorker ⟨1⟩ "cam" ⟨0⟩, .tick ⟨0⟩, .event ⟨1⟩ .stale rfl ⟨1⟩, .tick ⟨2⟩,
        .tick ⟨3⟩, .event ⟨1⟩ .cooldownElapsed rfl ⟨4⟩, .tick ⟨40 * Duration.nanosPerSecond⟩,
        .killAll, .reapAll]).calls.map Prod.snd =
    [.spawn ⟨1⟩ "cam" (some ⟨7, []⟩), .kill 7 false, .kill 7 true, .reap 7 (some .running),
      .reap 7 (some (.signaled 9)), .spawn ⟨1⟩ "cam" none, .spawn ⟨1⟩ "cam" (some ⟨7, []⟩),
      .kill 7 true, .reap 7 (some (.signaled 9))] := by
  decide

end World

end FrameMux
