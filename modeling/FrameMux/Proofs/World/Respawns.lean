/-
**How often a process is tried to be started.**

A process is started on two ways: a worker whose cool-down is over is created anew and started at once,
and a worker that waits to be started is tried again after a while.  Both come up in a round, the first
even in the round in which the worker was buried, and the second looks at a stamp that the first has
left.  A turn goes at most one of the ways, and only the second starts from where a failed attempt has
left the worker; that is why one interval governs both.

Main definitions:

* `FrameMux.World.Action.startTime?` — the time of an action that may start a process;
* `FrameMux.World.attempted` — the attempts that an action makes for a worker;
* `FrameMux.World.Waiting` — a worker waits to be started since the last attempt failed.

Main results:

* `FrameMux.World.attempted_cases` — an action makes one attempt at most, and leaves the worker waiting
  if it fails;
* `FrameMux.World.Waiting.attempted`, `FrameMux.World.Waiting.due` — a waiting worker is tried by a round
  that is late enough, and by nothing else;
* `FrameMux.World.Waiting.run` — so it waits throughout a run, up to such a round;
* `FrameMux.World.respawns_paced` — **attempts are paced**, throughout every run.
-/

import FrameMux.Proofs.World.Overdue

set_option relaxedAutoImplicit false
set_option autoImplicit false

namespace FrameMux

/-- A gap is long enough if its end is late enough. -/
theorem Instant.le_since_iff {t now : Instant} (order : t ≤ now) (d : Duration) :
    d ≤ now.since t ↔ t.add d ≤ now := by
  have order : t.nanos ≤ now.nanos := order
  show d.nanos ≤ now.nanos - t.nanos ↔ t.nanos + d.nanos ≤ now.nanos
  omega

/-! ### Turns -/

namespace Worker

/-- What a turn at some time makes of a worker: there is one attempt at most to start it, and if that
fails, the worker waits since then. -/
structure Paced (now : Instant) (w : Worker) (new : List Call) : Prop where
  once : (new.filterMap Call.attempt?).length ≤ 1
  failed : new.filterMap Call.attempt? = [false] → w.state = .creating ∧ w.lastSpawn = some now

/-- Without an attempt there is nothing to say. -/
theorem paced_of_untried {w : Worker} {new : List Call} (untried : new.filterMap Call.attempt? = [])
    (now : Instant) : w.Paced now new :=
  ⟨by rw [untried]; exact Nat.zero_le 1, by rw [untried]; nofun⟩

/-- Killing is no attempt. -/
theorem Killed.untried {w w' : Worker} {now : Instant} {new : List Call} (h : w.Killed now w' new) :
    new.filterMap Call.attempt? = [] := by
  cases h.tries none with
  | idle untried => exact untried
  | tried time => cases time

/-- Reaping is no attempt. -/
theorem Reaped.untried {w w' : Worker} {now : Instant} {new : List Call} (h : w.Reaped now w' new) :
    new.filterMap Call.attempt? = [] := by
  cases h.tries none with
  | idle untried => exact untried
  | tried time => cases time

/-- Launching is one. -/
theorem Launched.paced {w w' : Worker} {now : Instant} {new : List Call} (h : w.Launched now w' new)
    (creating : w.state = .creating) :
    w'.Paced now new ∧ (new.filterMap Call.attempt?).length = 1 := by
  cases h with
  | failed => exact ⟨⟨Nat.le_refl 1, fun _ => ⟨creating, rfl⟩⟩, rfl⟩
  | started => exact ⟨⟨Nat.le_refl 1, nofun⟩, rfl⟩

end Worker

namespace Supervisor

variable {σ : Type} [ProcessManager σ] {id : WorkerId} {s : Supervisor (Recorder σ)} {w : Worker}

/-- What a worker is due for is one attempt at most; a worker that waits to be started is tried if the
last attempt is not too recent. -/
theorem paced_advance (known : s.worker? id = some w) (named : w.id = id) (unpurged : w.state ≠ .purged)
    (now : Instant) :
    ∃ w' new, Told id s (s.advance id now) w' new ∧ w'.Paced now new ∧
      (w.state = .creating →
        (new.filterMap Call.attempt?).length = if s.spawnDue w now then 1 else 0) := by
  cases state : w.state with
  | alive =>
      rw [advance_of_alive known state]
      exact ⟨w, [], told_refl known, Worker.paced_of_untried rfl now, nofun⟩
  | infected =>
      rw [advance_of_infected known state]
      obtain ⟨w', new, told, killed⟩ := told_killAndReap known now
      exact ⟨w', new, told, Worker.paced_of_untried killed.untried now, nofun⟩
  | zombie =>
      rw [advance_of_zombie known state]
      obtain ⟨w', new, told, reaped⟩ := told_reapAndBury known now
      exact ⟨w', new, told, Worker.paced_of_untried reaped.untried now, nofun⟩
  | purged => exact absurd state unpurged
  | creating =>
      rw [advance_of_creating known named state]
      split
      · obtain ⟨w', new, told, launched⟩ := told_launch known named now
        obtain ⟨paced, one⟩ := launched.paced state
        exact ⟨w', new, told, paced, fun _ => one⟩
      · exact ⟨w, [], told_refl known, Worker.paced_of_untried rfl now, fun _ => rfl⟩
  | buried =>
      rw [advance_of_buried known named state]
      split
      · have creating := told_enter known .creating now
        obtain ⟨w', new, told, launched⟩ := told_launch creating.known named now
        exact ⟨w', new, creating.trans told, (launched.paced rfl).1, nofun⟩
      · exact ⟨w, [], told_refl known, Worker.paced_of_untried rfl now, nofun⟩

/-- **A turn in a round makes one attempt at most**: what the watchdog does is none. -/
theorem paced_tickWorker (known : s.worker? id = some w) (named : w.id = id)
    (unpurged : w.state ≠ .purged) (now : Instant) :
    ∃ w' new, Told id s (s.tickWorker now id) w' new ∧ w'.Paced now new ∧
      (w.state = .creating →
        (new.filterMap Call.attempt?).length = if s.spawnDue w now then 1 else 0) := by
  obtain ⟨v, first, judged, same, unpurged', -, verdict⟩ := told_judge known unpurged now
  have named' : s.Named id := fun u known' => by
    obtain rfl : w = u := Option.some.inj (known.symm.trans known')
    exact named
  have policy := (moves_judge named' now).policy
  obtain ⟨w', new, told, paced, tried⟩ := paced_advance judged.known (same.trans named) unpurged' now
  have untried : first.filterMap Call.attempt? = [] := by
    rcases verdict with ⟨-, -, rfl⟩ | ⟨-, killed⟩
    · rfl
    · exact killed.untried
  have all : (first ++ new).filterMap Call.attempt? = new.filterMap Call.attempt? := by
    rw [List.filterMap_append, untried, List.nil_append]
  refine ⟨w', first ++ new, judged.trans told, ⟨all ▸ paced.once, fun lost => paced.failed (all ▸ lost)⟩,
    fun creating => ?_⟩
  rcases verdict with ⟨-, rfl, rfl⟩ | ⟨condemned, -⟩
  · have due : (s.judge id now).spawnDue v now = s.spawnDue v now := by
      rw [spawnDue, spawnDue, policy]
    rw [all, tried creating, due]
  · exact absurd (Worker.verdict?_of_state (by rw [creating]; decide) _ _) condemned

/-- The end of a cool-down is an attempt to start a buried worker. -/
theorem paced_rested (known : s.worker? id = some w) (named : w.id = id) (now : Instant) :
    ∃ w' new, Told id s (s.handleEvent id .cooldownElapsed now) w' new ∧ w'.Paced now new ∧
      (w.state = .creating → new.filterMap Call.attempt? = []) := by
  have external : LifecycleEvent.external .cooldownElapsed = true := rfl
  rcases external_cases external w.state with idle | ⟨-, condemns⟩ | ⟨buried, -⟩
  · rw [handleEvent_of_idle known now idle]
    exact ⟨w, [], told_refl known, Worker.paced_of_untried rfl now, fun _ => rfl⟩
  · rcases condemns with other | other <;> cases other
  · rw [handleEvent_of_buried known named buried now]
    have creating := told_enter known .creating now
    obtain ⟨w', new, told, launched⟩ := told_launch creating.known named now
    refine ⟨w', new, creating.trans told, (launched.paced rfl).1, ?_⟩
    rw [buried]
    nofun

/-! ### Moves -/

/-- A move tries to start a worker that waits, or leaves it waiting. -/
theorem Move.waits {s' : Supervisor (Recorder σ)} (move : Move id s s') (known : s.worker? id = some w)
    (creating : w.state = .creating) :
    (∃ call ok, call.attempt? = some ok ∧ s'.manager.calls = s.manager.calls ++ [call]) ∨
    ∃ w', s'.worker? id = some w' ∧ w'.state = .creating ∧ w'.lastSpawn = w.lastSpawn := by
  have other {v : Worker} {state : WorkerState} (known' : s.worker? id = some v)
      (at_ : v.state = state) (ne : state ≠ .creating) : False := by
    obtain rfl : w = v := Option.some.inj (known.symm.trans known')
    exact ne (at_.symm.trans creating)
  cases move with
  | enter now known' onward =>
      obtain rfl := Option.some.inj (known.symm.trans known')
      rw [creating] at onward
      cases onward
  | kill => exact Or.inr ⟨w, known, creating, rfl⟩
  | reapRunning => exact Or.inr ⟨w, known, creating, rfl⟩
  | reapDead known' =>
      refine Or.inr ⟨{ w with pid := none }, ?_, creating, rfl⟩
      exact record_forgetPid (s := s.afterReap _) known
  | bury now known' zombie => exact (other known' zombie nofun).elim
  | release now known' purged => exact (other known' purged nofun).elim
  | letGo => exact Or.inr ⟨_, record_releaseChannels known, creating, rfl⟩
  | @spawnFailed v now known' creating' failed =>
      refine Or.inl ⟨.spawn id v.source none, false, rfl, ?_⟩
      rw [← failed]
      rfl
  | @spawned v started now known' creating' succeeded =>
      exact Or.inl ⟨_, true, rfl, calls_spawned succeeded now⟩

end Supervisor

namespace World

variable {σ : Type} {w w' : World σ} {id : WorkerId} {t : Instant}

/-! ### Attempts of an action -/

/-- The time of an action that may start a process. -/
def Action.startTime? : Action → Option Instant
  | .tick now | .event _ .cooldownElapsed _ now => some now
  | _ => none

/-- A worker waits to be started since the last attempt, at some time, failed. -/
def Waiting (w : World σ) (id : WorkerId) (t : Instant) : Prop :=
  ∃ rec, w.sup.worker? id = some rec ∧ rec.state = .creating ∧ rec.lastSpawn = some t

variable [ProcessManager σ]

/-- The attempts that an action makes for a worker, and whether they succeed. -/
def attempted (w : World σ) (a : Action) (id : WorkerId) : List Bool :=
  (attempts id (w.step a).calls).drop (attempts id w.calls).length

theorem attempted_eq {a : Action} {new : List Bool}
    (made : attempts id (w.step a).calls = attempts id w.calls ++ new) : w.attempted a id = new := by
  rw [attempted, made, List.drop_left]

/-- What an action attempts is added to the attempts so far. -/
theorem attempts_step (named : w.Named) (a : Action) (id : WorkerId) :
    attempts id (w.step a).calls = attempts id w.calls ++ w.attempted a id := by
  cases tries_step named a id with
  | idle calls =>
      have made := calls.trans (List.append_nil _).symm
      rw [attempted_eq made, made]
  | tried _ calls => rw [attempted_eq calls, calls]

/-- **Rounds and ended cool-downs apart, nothing is attempted.** -/
theorem attempted_of_untimed (named : w.Named) {a : Action} (untimed : a.startTime? = none)
    (id : WorkerId) : w.attempted a id = [] := by
  have spared : Tries id none w (w.step a) := by
    cases timed : a.time? with
    | none => exact timed ▸ tries_step named a id
    | some now =>
        cases a with
        | tick now => cases untimed
        | event other event external now =>
            have unrested : event ≠ .cooldownElapsed := by
              rintro rfl
              cases untimed
            exact (tries_moves named (Supervisor.moves_handleEvent (named other) external now)
              (Supervisor.spares_handleEvent external unrested now) id).1
        | killWorker other now => exact spares_attempt named other (by decide) now id
        | reapWorker other now => exact spares_attempt named other (by decide) now id
        | releaseWorker other now => exact spares_attempt named other (by decide) now id
        | _ => cases timed
  cases spared with
  | idle calls => exact attempted_eq (calls.trans (List.append_nil _).symm)
  | tried time => cases time

/-- The actions that may start a process: a round, and the end of a cool-down. -/
theorem Action.startTime?_cases {a : Action} (time : a.startTime? = some t) :
    a = .tick t ∨ ∃ other external, a = .event other .cooldownElapsed external t := by
  cases a with
  | tick now =>
      cases time
      exact Or.inl rfl
  | event other event external now =>
      cases event with
      | cooldownElapsed =>
          cases time
          exact Or.inr ⟨other, external, rfl⟩
      | _ => cases time
  | _ => cases time

/-- An event for one worker attempts nothing for another. -/
theorem attempted_event_of_ne (named : w.Named) {other : WorkerId} (ne : id ≠ other)
    {event : LifecycleEvent} (external : event.external = true) (now : Instant) :
    w.attempted (.event other event external now) id = [] := by
  obtain ⟨made, calls⟩ := (Supervisor.moves_handleEvent (named other) external now).calls
  have attempted := attempts_follow (w := w) other calls id
  rw [if_neg ne] at attempted
  exact attempted_eq attempted

/-- For a worker that is not known nothing is attempted. -/
theorem attempted_of_unknown (named : w.Named) (unknown : w.sup.worker? id = none) (a : Action) :
    w.attempted a id = [] := by
  cases timed : a.startTime? with
  | none => exact attempted_of_untimed named timed id
  | some t =>
      have same : attempts id (w.step a).calls = attempts id w.calls := by
        rcases Action.startTime?_cases timed with rfl | ⟨other, external, rfl⟩
        · have calls : callsFor id (w.step (.tick t)).calls = callsFor id w.calls :=
            (turns_of_notMem named t (Supervisor.notMem_ids unknown)).2.2.1
          rw [attempts, calls, attempts]
        · by_cases own : id = other
          · subst own
            have idle : w.sup.handleEvent id .cooldownElapsed t = w.sup :=
              Supervisor.handleChain_of_unknown unknown t _ _
            rw [step, idle, follow_of_manager id rfl]
            rfl
          · rw [attempts_step named, attempted_event_of_ne named own, List.append_nil]
      exact attempted_eq (same.trans (List.append_nil _).symm)

/-- **A round makes one attempt at most for a worker**, and one if the worker waits and is due. -/
theorem attempted_tick (named : w.Named) {rec : Worker} (known : w.sup.worker? id = some rec)
    (unpurged : rec.state ≠ .purged) (now : Instant) :
    (w.attempted (.tick now) id).length ≤ 1 ∧
    (w.attempted (.tick now) id = [false] → (w.step (.tick now)).Waiting id now) ∧
    (rec.state = .creating →
      (w.attempted (.tick now) id).length = if w.sup.spawnDue rec now then 1 else 0) := by
  obtain ⟨-, -, v, -, -, known', policy, named', calls, record, calls'⟩ := round_of_known named now known
  obtain ⟨rec', new, told, paced, tried⟩ :=
    Supervisor.paced_tickWorker known' (named id rec known) unpurged now
  have made : attempts id (w.step (.tick now)).calls =
      attempts id w.calls ++ new.filterMap Call.attempt? := by
    rw [attempts, calls', turn, callsFor_follow id told.calls, if_pos rfl, calls,
      List.filterMap_append, attempts]
  rw [attempted_eq made]
  refine ⟨paced.once, fun lost => ?_, fun creating => ?_⟩
  · obtain ⟨creating, stamp⟩ := paced.failed lost
    exact ⟨rec', record.trans told.known, creating, stamp⟩
  · have due : v.sup.spawnDue rec now = w.sup.spawnDue rec now := by
      rw [Supervisor.spawnDue, Supervisor.spawnDue, policy]
    rw [tried creating, due]

/-- So does the end of a cool-down, and none for a worker that waits. -/
theorem attempted_rested (named : w.Named) (other : WorkerId)
    (external : LifecycleEvent.external .cooldownElapsed = true) (now : Instant) {rec : Worker}
    (known : w.sup.worker? id = some rec) :
    (w.attempted (.event other .cooldownElapsed external now) id).length ≤ 1 ∧
    (w.attempted (.event other .cooldownElapsed external now) id = [false] →
      (w.step (.event other .cooldownElapsed external now)).Waiting id now) ∧
    (rec.state = .creating → w.attempted (.event other .cooldownElapsed external now) id = []) := by
  by_cases own : id = other
  · subst own
    obtain ⟨rec', new, told, paced, spared⟩ := Supervisor.paced_rested known (named id rec known) now
    have made := attempts_follow (w := w) id told.calls id
    rw [if_pos rfl] at made
    rw [attempted_eq made]
    exact ⟨paced.once, fun lost => ⟨rec', told.known, paced.failed lost⟩, spared⟩
  · rw [attempted_event_of_ne named own]
    exact ⟨Nat.zero_le 1, nofun, fun _ => rfl⟩

/-- **An action makes one attempt at most for a worker**, at its time, and leaves the worker waiting
since then if it fails. -/
theorem attempted_cases (named : w.Named)
    (tidy : ∀ id rec, w.sup.worker? id = some rec → rec.Tidy) (a : Action) (id : WorkerId) :
    w.attempted a id = [] ∨ ∃ now ok, a.startTime? = some now ∧ w.attempted a id = [ok] ∧
      (ok = false → (w.step a).Waiting id now) := by
  cases timed : a.startTime? with
  | none => exact Or.inl (attempted_of_untimed named timed id)
  | some now =>
      cases known : w.sup.worker? id with
      | none => exact Or.inl (attempted_of_unknown named known a)
      | some rec =>
          have once : (w.attempted a id).length ≤ 1 ∧
              (w.attempted a id = [false] → (w.step a).Waiting id now) := by
            rcases Action.startTime?_cases timed with rfl | ⟨other, external, rfl⟩
            · obtain ⟨one, lost, -⟩ := attempted_tick named known (tidy id rec known).unpurged now
              exact ⟨one, lost⟩
            · obtain ⟨one, lost, -⟩ := attempted_rested named other external now known
              exact ⟨one, lost⟩
          match made : w.attempted a id, once with
          | [], _ => exact Or.inl rfl
          | [ok], ⟨_, lost⟩ => exact Or.inr ⟨now, ok, rfl, rfl, fun failed => lost (by rw [failed])⟩

/-! ### Waiting -/

/-- An attempt that fails leaves the worker waiting. -/
theorem waiting_of_failed (named : w.Named)
    (tidy : ∀ id rec, w.sup.worker? id = some rec → rec.Tidy) {a : Action}
    (time : a.startTime? = some t) (failed : w.attempted a id = [false]) :
    (w.step a).Waiting id t := by
  rcases attempted_cases named tidy a id with none | ⟨now, ok, at_, made, lost⟩
  · cases failed.symm.trans none
  · cases failed.symm.trans made
    cases time.symm.trans at_
    exact lost rfl

/-- A part only adds attempts. -/
theorem attempts_part {D : Nat → Deed → Prop} (part : Part D w w') (id : WorkerId) :
    ∃ new, attempts id w'.calls = attempts id w.calls ++ new := by
  rcases part.move_or_keeps with ⟨other, s, move, rfl⟩ | ⟨-, calls⟩
  · obtain ⟨made, calls⟩ := move.calls
    exact ⟨_, attempts_follow other calls id⟩
  · exact ⟨[], by rw [calls, List.append_nil]⟩

/-- **A worker waits until it is tried**: nothing but an attempt changes its record. -/
theorem Waiting.part {D : Nat → Deed → Prop} (h : w.Waiting id t) (named : w.Named)
    (part : Part D w w') :
    ∃ new, attempts id w'.calls = attempts id w.calls ++ new ∧ (new = [] → w'.Waiting id t) := by
  obtain ⟨rec, known, creating, stamp⟩ := h
  rcases part.move_or_keeps with ⟨other, s, move, rfl⟩ | ⟨keeps, calls⟩
  · obtain ⟨made, calls⟩ := move.calls
    refine ⟨_, attempts_follow other calls id, ?_⟩
    by_cases own : id = other
    · subst own
      rw [if_pos rfl]
      intro untried
      rcases move.waits known creating with ⟨call, ok, attempts, calls'⟩ |
        ⟨rec', known', creating', stamp'⟩
      · obtain rfl : made = [call] := List.append_cancel_left (calls.symm.trans calls')
        rw [List.filterMap_cons_some attempts] at untried
        cases untried
      · exact ⟨rec', known', creating', stamp'.trans stamp⟩
    · exact fun _ => ⟨rec, (move.worker?_of_ne (named other) own).trans known, creating, stamp⟩
  · obtain ⟨rec', known', kept⟩ := keeps.kept id rec known
    refine ⟨[], by rw [calls, List.append_nil], fun _ => ?_⟩
    exact ⟨rec', known', kept.state.trans creating, kept.lastSpawn.trans stamp⟩

/-- An action that does not try a waiting worker keeps it waiting. -/
theorem Waiting.step (h : w.Waiting id t) (named : w.Named) {a : Action}
    (untried : w.attempted a id = []) : (w.step a).Waiting id t := by
  -- Attempts are never taken back, so what is not tried in the end is not tried on the way.
  have parts := parts_step (D := fun _ _ => True) named a fun _ _ _ => trivial
  have reached := parts.induction (I := fun v => v.Named ∧
    ∃ new, attempts id v.calls = attempts id w.calls ++ new ∧ (new = [] → v.Waiting id t))
    (fun v v' ⟨named, new, made, waits⟩ part => by
      refine ⟨part.named named, ?_⟩
      cases new with
      | nil =>
          obtain ⟨new', made', waits'⟩ := (waits rfl).part named part
          exact ⟨new', by rw [made', made, List.append_nil], waits'⟩
      | cons ok rest =>
          obtain ⟨new', made'⟩ := attempts_part part id
          exact ⟨ok :: rest ++ new', by rw [made', made, List.append_assoc], nofun⟩)
    ⟨named, [], (List.append_nil _).symm, fun _ => h⟩
  obtain ⟨-, new, made, waits⟩ := reached
  exact waits ((attempted_eq made).symm.trans untried)

/-- **A waiting worker is tried by a round that is late enough**, and by nothing else. -/
theorem Waiting.attempted (h : w.Waiting id t) (named : w.Named) (a : Action) :
    w.attempted a id = [] ∨ ∃ now, a = .tick now ∧ w.sup.policy.spawnRetry ≤ now.since t := by
  obtain ⟨rec, known, creating, stamp⟩ := h
  cases timed : a.startTime? with
  | none => exact Or.inl (attempted_of_untimed named timed id)
  | some now =>
      rcases Action.startTime?_cases timed with rfl | ⟨other, external, rfl⟩
      · have tried := (attempted_tick named known (by rw [creating]; decide) now).2.2 creating
        by_cases due : w.sup.policy.spawnRetry ≤ now.since t
        · exact Or.inr ⟨now, rfl, due⟩
        · have early : w.sup.spawnDue rec now = false := by
            simp only [Supervisor.spawnDue, stamp]
            exact decide_eq_false due
          rw [early] at tried
          exact Or.inl (List.eq_nil_of_length_eq_zero tried)
      · exact Or.inl ((attempted_rested named other external now known).2.2 creating)

/-- Such a round tries it once. -/
theorem Waiting.due (h : w.Waiting id t) (named : w.Named) {now : Instant}
    (due : w.sup.policy.spawnRetry ≤ now.since t) : (w.attempted (.tick now) id).length = 1 := by
  obtain ⟨rec, known, creating, stamp⟩ := h
  have late : w.sup.spawnDue rec now = true := by
    simp only [Supervisor.spawnDue, stamp]
    exact decide_eq_true due
  have tried := (attempted_tick named known (by rw [creating]; decide) now).2.2 creating
  rwa [late] at tried

/-- A worker waits throughout a run, unless there is a round that is late enough. -/
theorem Waiting.run (h : w.Waiting id t) (named : w.Named) (l : List Action) :
    (w.run l).Waiting id t ∨ ∃ now, .tick now ∈ l ∧ w.sup.policy.spawnRetry ≤ now.since t := by
  induction l generalizing w with
  | nil => exact Or.inl h
  | cons a rest ih =>
      rcases h.attempted named a with untried | ⟨now, rfl, due⟩
      · rcases ih (h.step named untried) (named.run [a]) with waits | ⟨now, later, due⟩
        · exact Or.inl waits
        · have due : (w.run [a]).sup.policy.spawnRetry ≤ now.since t := due
          rw [named.policy_run] at due
          exact Or.inr ⟨now, List.mem_cons_of_mem _ later, due⟩
      · exact Or.inr ⟨now, List.mem_cons_self, due⟩

/-- It is not tried before such a round. -/
theorem Waiting.run_attempted (h : w.Waiting id t) (named : w.Named) {l : List Action} {b : Action}
    (tried : (w.run l).attempted b id ≠ []) :
    ∃ now, .tick now ∈ l ++ [b] ∧ w.sup.policy.spawnRetry ≤ now.since t := by
  rcases h.run named l with waits | ⟨now, mem, due⟩
  · rcases waits.attempted (named.run l) b with none | ⟨now, rfl, due⟩
    · exact absurd none tried
    · exact ⟨now, by simp, named.policy_run l ▸ due⟩
  · exact ⟨now, List.mem_append_left _ mem, due⟩

/-- The first such round tries it once. -/
theorem Waiting.run_due (h : w.Waiting id t) (named : w.Named) {l : List Action} {now : Instant}
    (early : ∀ u, .tick u ∈ l → ¬ w.sup.policy.spawnRetry ≤ u.since t)
    (due : w.sup.policy.spawnRetry ≤ now.since t) :
    ((w.run l).attempted (.tick now) id).length = 1 := by
  rcases h.run named l with waits | ⟨u, mem, late⟩
  · exact waits.due (named.run l) (named.policy_run l ▸ due)
  · exact absurd late (early u mem)

/-! ### Generations -/

/-- The attempts of an action that succeed are one or none. -/
theorem count_attempted (named : w.Named)
    (tidy : ∀ id rec, w.sup.worker? id = some rec → rec.Tidy) (a : Action) (id : WorkerId) :
    (w.attempted a id).count true = if w.attempted a id = [true] then 1 else 0 := by
  rcases attempted_cases named tidy a id with none | ⟨-, ok, -, made, -⟩
  · rw [none]
    rfl
  · rw [made]
    cases ok <;> rfl

/-- A worker stays known, and its generation goes up by one if an attempt succeeds. -/
theorem generation_step (named : w.Named)
    (tidy : ∀ id rec, w.sup.worker? id = some rec → rec.Tidy) (counted : w.Counted) {a : Action}
    (counted' : (w.step a).Counted) {rec : Worker} (known : w.sup.worker? id = some rec) :
    ∃ rec', (w.step a).sup.worker? id = some rec' ∧
      rec'.generation = rec.generation + (if w.attempted a id = [true] then 1 else 0) ∧
      (started id (w.step a).calls < UInt32.size → rec'.generation.toNat =
        rec.generation.toNat + if w.attempted a id = [true] then 1 else 0) := by
  have starts : started id (w.step a).calls =
      started id w.calls + if w.attempted a id = [true] then 1 else 0 := by
    rw [started, attempts_step named, List.count_append, started, count_attempted named tidy]
  have stays : ∃ rec', (w.step a).sup.worker? id = some rec' := by
    cases tries_step named a id with
    | idle _ unknown =>
        cases known' : (w.step a).sup.worker? id with
        | none => cases (unknown known').symm.trans known
        | some rec' => exact ⟨rec', rfl⟩
    | tried _ _ _ known' => exact ⟨_, known'⟩
  obtain ⟨rec', known'⟩ := stays
  have after := counted'.generation id rec' known'
  have before := counted.generation id rec known
  rw [starts] at after
  refine ⟨rec', known', ?_, fun few => ?_⟩
  · rw [after, before, UInt32.ofNat_add]
    split <;> rfl
  · rw [after, before, UInt32.toNat_ofNat_of_lt' (starts ▸ few), UInt32.toNat_ofNat_of_lt' (by omega)]

/-! ### Runs -/

/-- If the times do not go back, what comes after an action is not earlier, and neither is what comes
after that. -/
theorem Action.ordered {before between after : List Action} {a b : Action}
    (paced : ((before ++ a :: (between ++ b :: after)).filterMap Action.startTime?).Pairwise (· ≤ ·))
    (time : a.startTime? = some t) {u : Instant} (mem : .tick u ∈ between ++ [b]) :
    t ≤ u ∧ ∀ now, b.startTime? = some now → u ≤ now := by
  rw [List.filterMap_append, List.filterMap_cons_some time] at paced
  obtain ⟨since, later⟩ := List.pairwise_cons.1 (List.pairwise_append.1 paced).2.1
  have timed : Action.startTime? (.tick u) = some u := rfl
  rcases List.mem_append.1 mem with mem | last
  · refine ⟨since u (List.mem_filterMap.2 ⟨_, List.mem_append_left _ mem, timed⟩), ?_⟩
    intro now at_
    rw [List.filterMap_append] at later
    exact (List.pairwise_append.1 later).2.2 u (List.mem_filterMap.2 ⟨_, mem, timed⟩) now
      (List.mem_filterMap.2 ⟨b, List.mem_cons_self, at_⟩)
  · obtain rfl := List.mem_singleton.1 last
    refine ⟨since u (List.mem_filterMap.2 ⟨_, List.mem_append_right _ List.mem_cons_self, timed⟩), ?_⟩
    intro now at_
    cases at_
    exact Nat.le_refl _

/-- **Attempts are paced**, in every run in which rounds and ended cool-downs come at times that do not
go back.  Every action makes one attempt at most to start the process of a worker, and none unless it
is one of these; the generation goes up by one if there is an attempt and it succeeds, and stays
otherwise.  After an attempt that failed there is none before the interval between attempts is over,
and the first round from then on makes exactly one.

Generations are 32-bit words.  As naturals they go up by one as well while fewer than `2 ^ 32`
processes were started, which is where that addition overflows. -/
theorem respawns_paced (manager : σ) (config : Config) (began : Instant) (l : List Action)
    (paced : (l.filterMap Action.startTime?).Pairwise (· ≤ ·)) (id : WorkerId) :
    (∀ before a after w, l = before ++ a :: after → (start manager config began).run before = w →
      attempts id (w.step a).calls = attempts id w.calls ++ w.attempted a id ∧
      (w.attempted a id = [] ∨ ∃ now ok, a.startTime? = some now ∧ w.attempted a id = [ok]) ∧
      ∀ rec, w.sup.worker? id = some rec → ∃ rec', (w.step a).sup.worker? id = some rec' ∧
        rec'.generation = rec.generation + (if w.attempted a id = [true] then 1 else 0) ∧
        (started id (w.step a).calls < UInt32.size → rec'.generation.toNat =
          rec.generation.toNat + if w.attempted a id = [true] then 1 else 0)) ∧
    ∀ before a between b after w v t, l = before ++ a :: (between ++ b :: after) →
      (start manager config began).run before = w → (w.step a).run between = v →
      a.startTime? = some t → w.attempted a id = [false] →
      (v.attempted b id ≠ [] → ∃ now, b.startTime? = some now ∧ t.add config.policy.spawnRetry ≤ now) ∧
      ∀ now, b = .tick now → t.add config.policy.spawnRetry ≤ now →
        (∀ earlier, .tick earlier ∈ between → ¬ t.add config.policy.spawnRetry ≤ earlier) →
        (v.attempted b id).length = 1 := by
  refine ⟨?_, ?_⟩
  · rintro before a after w - rfl
    have named := named_run manager config began before
    have tidy := tidy_run manager config began before
    have counted := counted_run manager config began before
    have counted' := counted_run manager config began (before ++ [a])
    rw [run_append] at counted'
    refine ⟨attempts_step named a id, ?_, fun rec known =>
      generation_step named tidy counted counted' known⟩
    rcases attempted_cases named tidy a id with none | ⟨now, ok, time, made, -⟩
    · exact Or.inl none
    · exact Or.inr ⟨now, ok, time, made⟩
  · rintro before a between b after w v t rfl rfl rfl time failed
    have named := named_run manager config began before
    have tidy := tidy_run manager config began before
    have waiting := waiting_of_failed named tidy time failed
    have named_step : (((start manager config began).run before).step a).Named := named.run [a]
    have policy : (((start manager config began).run before).step a).sup.policy = config.policy :=
      (named.policy_run [a]).trans (policy_run manager config began before)
    refine ⟨fun tried => ?_, ?_⟩
    · obtain ⟨u, mem, due⟩ := waiting.run_attempted named_step tried
      obtain ⟨order, last⟩ := Action.ordered paced time mem
      rw [policy, Instant.le_since_iff order] at due
      have later : b.startTime? ≠ none := fun untimed =>
        tried (attempted_of_untimed (named_step.run between) untimed id)
      obtain ⟨now, at_⟩ := Option.ne_none_iff_exists'.1 later
      exact ⟨now, at_, Nat.le_trans due (last now at_)⟩
    · rintro now rfl due early
      refine waiting.run_due named_step ?_ ?_
      · intro u mem
        rw [policy, Instant.le_since_iff (Action.ordered paced time (List.mem_append_left _ mem)).1]
        exact early u mem
      · rw [policy, Instant.le_since_iff (Action.ordered paced time (by simp)).1]
        exact due

/-- A rehearsal: the first attempt fails, a round that is too early and a request try nothing, and the
next round is late enough. -/
def persevering : List Action :=
  [.addWorker ⟨1⟩ "cam" ⟨0⟩, .tick ⟨0⟩, .tick (.ofMillis 19999), .killWorker ⟨1⟩ (.ofMillis 19999),
    .tick (.ofMillis 20000)]

/-- The process manager of the rehearsal. -/
def perseveringManager : ScriptedManager := ⟨[.fails], [], [], 0, []⟩

theorem respawns_paced_rehearsed :
    (persevering.filterMap Action.startTime?).Pairwise (· ≤ ·) ∧
    ∃ w v rec, (start perseveringManager .defaults ⟨0⟩).run (persevering.take 1) = w ∧
      w.attempted (.tick ⟨0⟩) ⟨1⟩ = [false] ∧
      (w.step (.tick ⟨0⟩)).run ((persevering.drop 2).take 2) = v ∧
      (v.attempted (.tick (.ofMillis 20000)) ⟨1⟩).length = 1 ∧
      (v.step (.tick (.ofMillis 20000))).sup.worker? ⟨1⟩ = some rec ∧ rec.generation = 1 := by
  have paced : (persevering.filterMap Action.startTime?).Pairwise (· ≤ ·) := by decide
  obtain ⟨each, spaced⟩ := respawns_paced perseveringManager .defaults ⟨0⟩ persevering paced ⟨1⟩
  have failed : ((start perseveringManager .defaults ⟨0⟩).run (persevering.take 1)).attempted
      (.tick ⟨0⟩) ⟨1⟩ = [false] := by decide +kernel
  obtain ⟨-, due⟩ := spaced (persevering.take 1) (.tick ⟨0⟩) ((persevering.drop 2).take 2)
    (.tick (.ofMillis 20000)) [] _ _ ⟨0⟩ rfl rfl rfl rfl failed
  have early : ∀ u, Action.tick u ∈ (persevering.drop 2).take 2 →
      ¬ Instant.add ⟨0⟩ Config.defaults.policy.spawnRetry ≤ u := by
    intro u mem
    obtain rfl : u = .ofMillis 19999 := by simpa [persevering] using mem
    decide
  have tried := due (.ofMillis 20000) rfl (by decide) early
  have succeeded : ((start perseveringManager .defaults ⟨0⟩).run (persevering.take 4)).attempted
      (.tick (.ofMillis 20000)) ⟨1⟩ = [true] := by decide +kernel
  obtain ⟨-, -, counts⟩ := each (persevering.take 4) (.tick (.ofMillis 20000)) [] _ rfl rfl
  obtain ⟨rec', known', generation, -⟩ := counts _ rfl
  rw [if_pos succeeded] at generation
  exact ⟨paced, _, _, rec', rfl, failed, rfl, tried, known', generation⟩

end World

end FrameMux
