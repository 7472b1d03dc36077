/-
**Going on with a teardown.**

A teardown may be gone on with on request, in three ways: each asks for the step that it is named for,
which is made if the worker waits for it, and the steps behind it follow as far as the process manager
lets them.  One request may thus bury a worker, and another may come to nothing; which of them does
what depends on the state and on the answers.  Whatever the order, a teardown only ever goes on.

Main definitions:

* `FrameMux.Teardown` — a request to go on with a teardown;
* `FrameMux.WorkerState.Falls` — the way that a worker goes down;
* `FrameMux.Worker.Fallen` — **what becomes of a record** under some requests, and with which calls;
* `FrameMux.Supervisor.resources` — the links, what is watched, and the cached frames;
* `FrameMux.World.Torn` — what becomes of a world.

Main results:

* `FrameMux.World.torn_request` — a request makes a worker fall, or leaves it where it is;
* `FrameMux.World.torn_requests` — **so do any number of them**;
* `FrameMux.World.teardowns_go_forward` — requests come to nothing or go forward, in every run.
-/

import FrameMux.Proofs.World.Asides
import FrameMux.Proofs.World.Overdue

set_option relaxedAutoImplicit false
set_option autoImplicit false

namespace FrameMux

/-! ### Requests -/

/-- A request to go on with a teardown at some time. -/
inductive Teardown where
  | kill (now : Instant)
  | reap (now : Instant)
  | release (now : Instant)
deriving DecidableEq, Repr

namespace Teardown

/-- The step that is asked for. -/
def effect : Teardown → Effect
  | kill _ => .kill
  | reap _ => .reap
  | release _ => .release

/-- When it is asked for. -/
def time : Teardown → Instant
  | kill now | reap now | release now => now

/-- The request for a worker, as an action. -/
def action (id : WorkerId) : Teardown → World.Action
  | kill now => .killWorker id now
  | reap now => .reapWorker id now
  | release now => .releaseWorker id now

/-- What the supervisor answers. -/
def answer {σ : Type} [ProcessManager σ] (s : Supervisor σ) (id : WorkerId) :
    Teardown → Except MuxError (Supervisor σ)
  | kill now => s.killWorker id now
  | reap now => s.reapWorker id now
  | release now => s.releaseWorker id now

theorem answer_of_unknown {σ : Type} [ProcessManager σ] {s : Supervisor σ} {id : WorkerId}
    (unknown : s.worker? id = none) (c : Teardown) : c.answer s id = .error (.unknownWorker id) := by
  have absent : s.workers.contains id = false := by
    show (s.worker? id).isSome = false
    rw [unknown]
    rfl
  cases c <;> exact if_neg (by rw [absent]; exact Bool.false_ne_true)

theorem answer_of_known {σ : Type} [ProcessManager σ] {s : Supervisor σ} {id : WorkerId} {w : Worker}
    (known : s.worker? id = some w) (c : Teardown) :
    c.answer s id = .ok (s.retry id c.effect c.time) := by
  have present : s.workers.contains id = true := by
    show (s.worker? id).isSome = true
    rw [known]
    rfl
  cases c <;> exact if_pos present

theorem step_action {σ : Type} [ProcessManager σ] (w : World σ) (id : WorkerId) (c : Teardown) :
    w.step (c.action id) = w.attempt id (c.answer w.sup id) := by
  cases c <;> rfl

end Teardown

/-! ### The way down -/

/-- From a state of a teardown to the same or a later one. -/
inductive WorkerState.Falls : WorkerState → WorkerState → Prop
  | infected : Falls .infected .infected
  | zombie : Falls .zombie .zombie
  | buried : Falls .buried .buried
  | killed : Falls .infected .zombie
  | reaped : Falls .zombie .buried
  | torn : Falls .infected .buried

theorem WorkerState.Falls.trans {a b c : WorkerState} (h : a.Falls b) (h' : b.Falls c) :
    a.Falls c := by
  cases h <;> cases h' <;> constructor

/-- What has fallen goes on from there. -/
theorem WorkerState.Falls.on {a b : WorkerState} (h : a.Falls b) : b.Falls b := by
  cases h <;> constructor

/-- A kill that succeeded. -/
def Call.kills : Call → Bool
  | kill _ ok => ok
  | _ => false

/-- A reap that found the process over. -/
def Call.buries : Call → Bool
  | reap _ answer => (answer.map ReapStatus.isDead).getD false
  | _ => false

/-- A call that kills or reaps a process. -/
inductive Call.Ends (process : Option Int) : Call → Prop
  | kill {pid : Int} (has : process = some pid) (ok : Bool) : Ends process (.kill pid ok)
  | reap {pid : Int} (has : process = some pid) (answer : Option ReapStatus) :
      Ends process (.reap pid answer)

namespace Worker

/-- What becomes of a worker that falls: its process is killed and reaped, one kill succeeds if it
leaves the first state, and one reap finds the process over if it comes to the last.  Up to then
nothing but its state changes, and then its process, its link and its mark are gone. -/
structure Fallen (w w' : Worker) (new : List Call) : Prop where
  falls : w.state.Falls w'.state
  ends : ∀ call ∈ new, call.Ends w.pid
  kills : new.countP Call.kills =
    if w.pid.isSome ∧ w.state = .infected ∧ w'.state ≠ .infected then 1 else 0
  buries : new.countP Call.buries =
    if w.pid.isSome ∧ w.state ≠ .buried ∧ w'.state = .buried then 1 else 0
  standing : w'.state ≠ .buried → w' = w.enter w'.state w'.since
  down : w.state ≠ .buried → w'.state = .buried → w' = { w with pid := none }.buriedAt w'.since
  rests : w.state = .buried → w' = w ∧ new = []

/-- A worker stays where it is on its way. -/
theorem Fallen.refl {w : Worker} (down : w.state.Falls w.state) : w.Fallen w [] where
  falls := down
  ends := nofun
  kills := by
    rw [if_neg]
    · rfl
    · rintro ⟨-, infected, other⟩
      exact other infected
  buries := by
    rw [if_neg]
    · rfl
    · rintro ⟨-, other, buried⟩
      exact other buried
  standing := fun _ => rfl
  down := fun other buried => absurd buried other
  rests := fun _ => ⟨rfl, rfl⟩

theorem Fallen.trans {w w' w'' : Worker} {new new' : List Call} (h : w.Fallen w' new)
    (h' : w'.Fallen w'' new') : w.Fallen w'' (new ++ new') := by
  by_cases buried : w'.state = .buried
  · obtain ⟨rfl, rfl⟩ := h'.rests buried
    rwa [List.append_nil]
  · have same := h.standing buried
    have pid : w'.pid = w.pid := by rw [same]; rfl
    have forgotten (t : Instant) :
        ({ w' with pid := none } : Worker).buriedAt t = { w with pid := none }.buriedAt t := by
      rw [same]
      rfl
    have unburied : w.state ≠ .buried := fun rests => buried ((h.rests rests).1 ▸ rests)
    have first := h.falls
    have second := h'.falls
    refine ⟨first.trans second, ?_, ?_, ?_, ?_, ?_, fun rests => absurd rests unburied⟩
    · intro call mem
      rcases List.mem_append.1 mem with mem | mem
      · exact h.ends call mem
      · exact pid ▸ h'.ends call mem
    · rw [List.countP_append, h.kills, h'.kills, pid]
      cases w.pid.isSome
      · simp
      · generalize w.state = a, w'.state = b, w''.state = c at first second
        cases first <;> cases second <;> decide
    · rw [List.countP_append, h.buries, h'.buries, pid]
      cases w.pid.isSome
      · simp
      · generalize w.state = a, w'.state = b, w''.state = c at first second
        cases first <;> cases second <;> decide
    · intro standing
      refine (h'.standing standing).trans ?_
      rw [same]
      rfl
    · intro _ down
      exact (h'.down buried down).trans (forgotten _)

/-- A worker that is reaped falls, or stays where it is. -/
theorem Reaped.fallen_of_zombie {w w' : Worker} {now : Instant} {new : List Call}
    (h : w.Reaped now w' new) (zombie : w.state = .zombie) : w.Fallen w' new := by
  have unburied : w.state ≠ .buried := by rw [zombie]; decide
  have falls : w.state.Falls .buried := by rw [zombie]; exact .reaped
  have kills (a : WorkerState) : (0 : Nat) =
      if w.pid.isSome ∧ w.state = .infected ∧ a ≠ .infected then 1 else 0 := by
    rw [zombie]
    simp
  cases h with
  | gone none =>
      refine ⟨falls, nofun, kills _, ?_, fun other => absurd rfl other, fun _ _ => ?_,
        fun buried => absurd buried unburied⟩
      · rw [none]
        rfl
      · rw [← none]
        rfl
  | @dead pid answer has ended =>
      refine ⟨falls, ?_, kills _, ?_, fun other => absurd rfl other, fun _ _ => rfl,
        fun buried => absurd buried unburied⟩
      · rintro call mem
        cases List.mem_singleton.1 mem
        exact .reap has answer
      · rw [has, if_pos ⟨rfl, unburied, rfl⟩, List.countP_singleton, Call.buries, if_pos ended]
  | @running pid answer has runs =>
      refine ⟨by rw [zombie]; exact .zombie, ?_, kills _, ?_, fun _ => rfl,
        fun _ buried => absurd buried unburied, fun buried => absurd buried unburied⟩
      · rintro call mem
        cases List.mem_singleton.1 mem
        exact .reap has answer
      · rw [List.countP_singleton, Call.buries, runs, if_neg Bool.false_ne_true, if_neg]
        rintro ⟨-, -, buried⟩
        exact unburied buried

/-- So does a worker that is killed. -/
theorem Killed.fallen_of_infected {w w' : Worker} {now : Instant} {new : List Call}
    (h : w.Killed now w' new) (infected : w.state = .infected) : w.Fallen w' new := by
  have unburied : w.state ≠ .buried := by rw [infected]; decide
  have falls : w.state.Falls .zombie := by rw [infected]; exact .killed
  have buries (a : WorkerState) (other : a ≠ .buried) : (0 : Nat) =
      if w.pid.isSome ∧ w.state ≠ .buried ∧ a = .buried then 1 else 0 := by
    simp [other]
  cases h with
  | gone none reaped =>
      have zombie : w.Fallen (w.enter .zombie now) [] := by
        refine ⟨falls, nofun, ?_, buries _ nofun, fun _ => rfl, fun _ => nofun,
          fun buried => absurd buried unburied⟩
        rw [none]
        rfl
      exact zombie.trans (reaped.fallen_of_zombie rfl)
  | @done _ new pid has reaped =>
      have zombie : w.Fallen (w.enter .zombie now) [.kill pid true] := by
        refine ⟨falls, ?_, ?_, buries _ nofun, fun _ => rfl, fun _ => nofun,
          fun buried => absurd buried unburied⟩
        · rintro call mem
          cases List.mem_singleton.1 mem
          exact .kill has true
        · rw [has, if_pos ⟨rfl, infected, nofun⟩]
          rfl
      exact zombie.trans (reaped.fallen_of_zombie rfl)
  | @refused pid has =>
      refine ⟨by rw [infected]; exact .infected, ?_, ?_, buries _ unburied, fun _ => rfl,
        fun _ buried => absurd buried unburied, fun buried => absurd buried unburied⟩
      · rintro call mem
        cases List.mem_singleton.1 mem
        exact .kill has false
      · simp [Call.kills, infected]

end Worker

/-! ### Resources -/

namespace Supervisor

variable {σ : Type} {id : WorkerId}

/-- The links, what is watched of them, and the cached frames. -/
def resources (s : Supervisor σ) : List Link × Poller × FrameStore := (s.links, s.poller, s.frames)

/-- The link of a worker is let go of, and its cache is emptied. -/
def letGo (s : Supervisor σ) (id : WorkerId) : Supervisor σ := (s.releaseChannels id).resetCache id

/-- What is let go of depends on the link that the worker holds. -/
theorem resources_letGo_congr {s s' : Supervisor σ} (same : s'.resources = s.resources)
    (held : (s'.worker? id).bind (·.channels) = (s.worker? id).bind (·.channels)) :
    (s'.letGo id).resources = (s.letGo id).resources := by
  obtain ⟨links, rest⟩ := Prod.mk.inj same
  obtain ⟨poller, frames⟩ := Prod.mk.inj rest
  have reset : (s'.letGo id).frames = (s.letGo id).frames := by
    show (s'.releaseChannels id).frames.reset id = (s.releaseChannels id).frames.reset id
    rw [(linksOnly_releaseChannels s' id).frames, (linksOnly_releaseChannels s id).frames, frames]
  have rest : (s'.releaseChannels id).links = (s.releaseChannels id).links ∧
      (s'.releaseChannels id).poller = (s.releaseChannels id).poller := by
    unfold releaseChannels
    dsimp only
    rw [held]
    cases (s.worker? id).bind (·.channels) with
    | none => exact ⟨links, poller⟩
    | some channels =>
        exact ⟨congrArg (·.modify channels.link Link.closeReceiver) links,
          congrArg (·.deregister channels.link) poller⟩
  exact Prod.ext rest.1 (Prod.ext rest.2 reset)

/-- The link that a known worker holds. -/
theorem bind_channels {s : Supervisor σ} {w : Worker} (known : s.worker? id = some w) :
    (s.worker? id).bind (·.channels) = w.channels := by
  rw [known]
  rfl

/-- Burying a worker lets go of its link and empties its cache. -/
theorem resources_bury {s : Supervisor σ} {w : Worker} (known : s.worker? id = some w)
    (now : Instant) : (s.bury id now).resources = (s.letGo id).resources := by
  have entered := record_enter known .purged now
  have held : ((s.enter id .purged now).worker? id).bind (·.channels) =
      (s.worker? id).bind (·.channels) := by
    rw [bind_channels entered, bind_channels known]
    rfl
  have same : (s.enter id .purged now).resources = s.resources := rfl
  exact resources_letGo_congr same held

/-- What leaves a link alone may be told from the resources. -/
theorem Spares.of_resources {s s' u : Supervisor σ} {n : Nat} (h : Spares s u n)
    (same : s'.resources = u.resources) : Spares s s' n := by
  obtain ⟨links, rest⟩ := Prod.mk.inj same
  obtain ⟨poller, -⟩ := Prod.mk.inj rest
  exact ⟨by rw [links, h.link], by rw [poller, h.token], fun ready => poller ▸ h.ready ready⟩

/-! ### What becomes of a supervisor -/

variable {s s' s'' : Supervisor (Recorder σ)} {w w' w'' : Worker} {new new' : List Call}

/-- What becomes of a supervisor when it goes on with the teardown of a worker. -/
structure Felled (id : WorkerId) (s s' : Supervisor (Recorder σ)) (w w' : Worker) (new : List Call) :
    Prop where
  told : Told id s s' w' new
  fallen : w.Fallen w' new
  resources : s'.resources =
    if w.state ≠ .buried ∧ w'.state = .buried then (s.letGo id).resources else s.resources

theorem Felled.refl (known : s.worker? id = some w) (falls : w.state.Falls w.state) :
    Felled id s s w w [] := by
  refine ⟨told_refl known, .refl falls, ?_⟩
  rw [if_neg]
  rintro ⟨unburied, buried⟩
  exact unburied buried

theorem Felled.trans (known : s.worker? id = some w) (h : Felled id s s' w w' new)
    (h' : Felled id s' s'' w' w'' new') : Felled id s s'' w w'' (new ++ new') := by
  refine ⟨h.told.trans h'.told, h.fallen.trans h'.fallen, ?_⟩
  by_cases buried : w'.state = .buried
  · obtain ⟨rfl, rfl⟩ := h'.fallen.rests buried
    rw [h'.resources, if_neg fun other => other.1 buried, h.resources]
  · have unburied : w.state ≠ .buried := fun rests => buried ((h.fallen.rests rests).1 ▸ rests)
    have same : s'.resources = s.resources := h.resources.trans (if_neg fun other => buried other.2)
    have held : (s'.worker? id).bind (·.channels) = (s.worker? id).bind (·.channels) := by
      rw [bind_channels h.told.known, bind_channels known, h.fallen.standing buried]
      rfl
    rw [h'.resources, resources_letGo_congr same held, same]
    simp only [buried, unburied, ne_eq, not_false_eq_true, true_and]

variable [ProcessManager σ]

/-- Reaping lets go of the link and empties the cache of a worker that it buries. -/
theorem resources_reapAndBury (known : s.worker? id = some w) (zombie : w.state = .zombie)
    (now : Instant) :
    ∃ w', (s.reapAndBury id w.pid now).worker? id = some w' ∧
      (s.reapAndBury id w.pid now).resources =
        if w'.state = .buried then (s.letGo id).resources else s.resources := by
  cases has : w.pid with
  | none =>
      exact ⟨_, (told_bury known now).known, (resources_bury known now).trans (if_pos rfl).symm⟩
  | some pid =>
      rw [reapAndBury]
      split
      · have forgotten : ((s.afterReap pid).forgetPid id).worker? id = some { w with pid := none } :=
          record_forgetPid (s := s.afterReap pid) known
        have held : (((s.afterReap pid).forgetPid id).worker? id).bind (·.channels) =
            (s.worker? id).bind (·.channels) := by
          rw [bind_channels forgotten, bind_channels known]
        have resources : (((s.afterReap pid).forgetPid id).bury id now).resources =
            (s.letGo id).resources :=
          (resources_bury forgotten now).trans (resources_letGo_congr rfl held)
        exact ⟨_, (told_bury forgotten now).known, resources.trans (if_pos rfl).symm⟩
      · refine ⟨w, known, ?_⟩
        rw [if_neg (by rw [zombie]; decide)]
        rfl

/-- So does killing. -/
theorem resources_killAndReap (known : s.worker? id = some w) (infected : w.state = .infected)
    (now : Instant) :
    ∃ w', (s.killAndReap id w.pid now).worker? id = some w' ∧
      (s.killAndReap id w.pid now).resources =
        if w'.state = .buried then (s.letGo id).resources else s.resources := by
  -- What is done before the worker is reaped concerns neither its link nor its cache.
  have reaped {u : Supervisor (Recorder σ)} (same : u.resources = s.resources)
      (known' : u.worker? id = some w) :
      ∃ w', ((u.enter id .zombie now).reapAndBury id w.pid now).worker? id = some w' ∧
        ((u.enter id .zombie now).reapAndBury id w.pid now).resources =
          if w'.state = .buried then (s.letGo id).resources else s.resources := by
    have entered := record_enter known' .zombie now
    obtain ⟨w', record, resources⟩ := resources_reapAndBury entered rfl now
    have held : ((u.enter id .zombie now).worker? id).bind (·.channels) =
        (s.worker? id).bind (·.channels) := by
      rw [bind_channels entered, bind_channels known]
      rfl
    refine ⟨w', record, resources.trans ?_⟩
    have entered' : (u.enter id .zombie now).resources = s.resources := same
    rw [resources_letGo_congr entered' held, entered']
  cases has : w.pid with
  | none =>
      rw [has] at reaped
      exact reaped rfl known
  | some pid =>
      rw [has] at reaped
      rw [killAndReap]
      split
      · exact reaped (u := s.afterKill pid) rfl known
      · refine ⟨w, known, ?_⟩
        rw [if_neg (by rw [infected]; decide)]
        rfl

/-- **A request makes a worker fall**, or leaves it where it is on its way. -/
theorem felled_retry (known : s.worker? id = some w) (falls : w.state.Falls w.state) (effect : Effect)
    (now : Instant) : ∃ w' new, Felled id s (s.retry id effect now) w w' new := by
  by_cases owed : s.owed id = some effect
  · have owes : w.state.owed = some effect := by
      rw [← owed, Supervisor.owed, known]
      rfl
    cases state : w.state with
    | infected =>
        rw [state] at owes
        cases owes
        rw [retry_of_infected known state]
        obtain ⟨w', new, told, killed⟩ := told_killAndReap known now
        obtain ⟨v, known', resources⟩ := resources_killAndReap known state now
        obtain rfl : w' = v := Option.some.inj (told.known.symm.trans known')
        refine ⟨w', new, told, killed.fallen_of_infected state, ?_⟩
        rw [resources, state]
        simp
    | zombie =>
        rw [state] at owes
        cases owes
        rw [retry_of_zombie known state]
        obtain ⟨w', new, told, reaped⟩ := told_reapAndBury known now
        obtain ⟨v, known', resources⟩ := resources_reapAndBury known state now
        obtain rfl : w' = v := Option.some.inj (told.known.symm.trans known')
        refine ⟨w', new, told, reaped.fallen_of_zombie state, ?_⟩
        rw [resources, state]
        simp
    | buried =>
        rw [state] at owes
        cases owes
    | creating | alive | purged =>
        rw [state] at falls
        cases falls
  · rw [retry_of_not_owed owed]
    exact ⟨w, [], .refl known falls⟩

end Supervisor

/-! ### Worlds -/

namespace World

variable {σ : Type} {id : WorkerId} {w w' w'' : World σ} {rec rec' rec'' : Worker}
  {new new' : List Call}

/-- What becomes of a world when a worker's teardown is gone on with. -/
structure Torn (id : WorkerId) (w w' : World σ) (rec rec' : Worker) (new : List Call) : Prop where
  felled : Supervisor.Felled id w.sup w'.sup rec rec' new
  calls : w'.calls = w.calls ++ new.map fun call => (id, call)
  others : ∀ other, other ≠ id → w'.sup.worker? other = w.sup.worker? other

theorem Torn.refl (known : w.sup.worker? id = some rec) (falls : rec.state.Falls rec.state) :
    Torn id w w rec rec [] :=
  ⟨.refl known falls, (List.append_nil _).symm, fun _ _ => rfl⟩

theorem Torn.trans (known : w.sup.worker? id = some rec) (h : Torn id w w' rec rec' new)
    (h' : Torn id w' w'' rec' rec'' new') : Torn id w w'' rec rec'' (new ++ new') :=
  ⟨h.felled.trans known h'.felled, by rw [h'.calls, h.calls, List.map_append, List.append_assoc],
    fun other ne => (h'.others other ne).trans (h.others other ne)⟩

/-- A worker is left alone: its record, the link that it holds and what is watched of it, its cached
frame, and the calls that were made for it. -/
structure Untouched (id : WorkerId) (w w' : World σ) : Prop where
  record : w'.sup.worker? id = w.sup.worker? id
  link : ∀ n, w.held? id = some n → Supervisor.Spares w.sup w'.sup n
  cache : w'.sup.frames.cached? id = w.sup.frames.cached? id
  calls : callsFor id w'.calls = callsFor id w.calls

/-- The other workers are left alone. -/
theorem Torn.untouched (h : Torn id w w' rec rec' new) (sound : w.Sound) {other : WorkerId}
    (ne : other ≠ id) : Untouched other w w' := by
  have resources : w'.sup.resources = w.sup.resources ∨
      w'.sup.resources = (w.sup.letGo id).resources := by
    have same := h.felled.resources
    split at same
    · exact Or.inr same
    · exact Or.inl same
  refine ⟨h.others other ne, ?_, ?_, ?_⟩
  · intro n holds
    rcases resources with same | gone
    · exact (Supervisor.spares_of_eq rfl rfl n).of_resources same
    · have spared : Supervisor.Spares w.sup (w.sup.releaseChannels id) n :=
        Supervisor.spares_releaseChannels (sound.alone ne holds).2
      exact (⟨spared.link, spared.token, spared.ready⟩ :
        Supervisor.Spares w.sup (w.sup.letGo id) n).of_resources gone
  · rcases resources with same | gone
    · rw [(Prod.mk.inj (Prod.mk.inj same).2).2]
    · rw [(Prod.mk.inj (Prod.mk.inj gone).2).2, Supervisor.letGo]
      show ((w.sup.releaseChannels id).frames.reset id).cached? other = _
      rw [Supervisor.cached?_reset_of_ne _ ne,
        (Supervisor.linksOnly_releaseChannels w.sup id).frames]
  · rw [h.calls, callsFor_append, callsFor_map, if_neg ne, List.append_nil]

variable [ProcessManager σ]

/-- **A request makes a worker fall**, and is answered with success. -/
theorem torn_request (named : w.Named) (known : w.sup.worker? id = some rec)
    (falls : rec.state.Falls rec.state) (c : Teardown) :
    (∃ rec' new, Torn id w (w.step (c.action id)) rec rec' new) ∧
    c.answer w.sup id = .ok (w.step (c.action id)).sup := by
  have answer := Teardown.answer_of_known known c
  have step : w.step (c.action id) = w.follow id (w.sup.retry id c.effect c.time) := by
    rw [Teardown.step_action, answer]
    rfl
  obtain ⟨rec', new, felled⟩ := Supervisor.felled_retry known falls c.effect c.time
  have moves := Supervisor.moves_retry (named id) c.effect c.time
  rw [step]
  refine ⟨⟨rec', new, felled, ?_, fun other ne => moves.worker?_of_ne (named id) ne⟩, answer⟩
  rw [follow_eq id felled.told.calls]

/-- **So do any number of requests.** -/
theorem torn_requests (named : w.Named) (known : w.sup.worker? id = some rec)
    (falls : rec.state.Falls rec.state) (l : List Teardown) :
    ∃ rec' new, Torn id w (w.run (l.map (Teardown.action id))) rec rec' new := by
  induction l generalizing w rec with
  | nil => exact ⟨rec, [], .refl known falls⟩
  | cons c rest ih =>
      obtain ⟨⟨rec', new, first⟩, -⟩ := torn_request named known falls c
      have named' : (w.step (c.action id)).Named := named.run [c.action id]
      obtain ⟨rec'', new', later⟩ := ih named' first.felled.told.known first.felled.fallen.falls.on
      exact ⟨rec'', new ++ new', first.trans known later⟩

/-- Requests for a worker that is not known are refused, and change nothing. -/
theorem request_of_unknown (unknown : w.sup.worker? id = none) (c : Teardown) :
    c.answer w.sup id = .error (.unknownWorker id) ∧ w.step (c.action id) = w := by
  have answer := Teardown.answer_of_unknown unknown c
  refine ⟨answer, ?_⟩
  rw [Teardown.step_action, answer]
  rfl

/-- Requests for a worker that waits for none of these steps come to nothing. -/
theorem request_of_idle (known : w.sup.worker? id = some rec)
    (idle : rec.state = .creating ∨ rec.state = .alive ∨ rec.state = .buried) (c : Teardown) :
    c.answer w.sup id = .ok w.sup ∧ w.step (c.action id) = w := by
  have owed : w.sup.owed id ≠ some c.effect := by
    rw [Supervisor.owed, known]
    show rec.state.owed ≠ _
    rcases idle with state | state | state <;> rw [state] <;> cases c <;>
      simp [Teardown.effect, WorkerState.owed]
  have answer := Teardown.answer_of_known known c
  rw [Supervisor.retry_of_not_owed owed] at answer
  refine ⟨answer, ?_⟩
  rw [Teardown.step_action, answer]
  exact follow_of_manager id rfl

/-- What single requests leave alone, any number of them leaves alone. -/
theorem run_of_still (still : ∀ c : Teardown, w.step (c.action id) = w) (l : List Teardown) :
    w.run (l.map (Teardown.action id)) = w := by
  induction l with
  | nil => rfl
  | cons c rest ih =>
      show (w.step (c.action id)).run (rest.map (Teardown.action id)) = w
      rw [still c]
      exact ih

/-! ### The theorem -/

/-- **Teardowns only go forward.**  In every world that is reached, and for any number of requests to
go on with the teardown of one worker, in any order, and one more, whatever the process manager
answers:

* if the worker is not known, they are refused and change nothing;
* if it waits to be started, is alive or is buried, they succeed and change nothing;
* if it is infected or a zombie, they succeed, and the worker only goes forward, from infected over
  zombie to buried.  No process is started for it; one kill succeeds if it leaves the first of these
  states, and one reap finds the process over if it comes to the last, but no more.  Its link is let go
  of and its cache is emptied if it is buried, and not before.  The other workers are left alone. -/
theorem teardowns_go_forward (manager : σ) (config : Config) (began : Instant) (l : List Action)
    {w : World σ} (reached : (start manager config began).run l = w) (id : WorkerId)
    (requests : List Teardown) {v : World σ}
    (requested : w.run (requests.map (Teardown.action id)) = v) (c : Teardown) :
    (w.sup.worker? id = none →
      v = w ∧ c.answer v.sup id = .error (.unknownWorker id) ∧ v.step (c.action id) = v) ∧
    ∀ rec, w.sup.worker? id = some rec → rec.state ≠ .purged ∧
      (rec.state = .creating ∨ rec.state = .alive ∨ rec.state = .buried →
        v = w ∧ c.answer v.sup id = .ok v.sup ∧ v.step (c.action id) = v) ∧
      (rec.state = .infected ∨ rec.state = .zombie → ∃ rec' new, Torn id w v rec rec' new ∧
        rec.state.Falls rec'.state ∧ (∀ call ∈ new, call.Ends rec.pid) ∧
        new.countP Call.kills ≤ 1 ∧ new.countP Call.buries ≤ 1 ∧
        v.sup.resources =
          (if rec'.state = .buried then (w.sup.letGo id).resources else w.sup.resources) ∧
        (∀ other, other ≠ id → Untouched other w v) ∧
        c.answer v.sup id = .ok (v.step (c.action id)).sup ∧
        (rec'.state = .buried → v.step (c.action id) = v) ∧
        ∃ rec'' new', Torn id v (v.step (c.action id)) rec' rec'' new') := by
  subst reached requested
  have named := named_run manager config began l
  have sound : ((start manager config began).run l).Sound := ⟨named, linked_run manager config began l⟩
  have tidy := tidy_run manager config began l
  generalize (start manager config began).run l = w at named sound tidy
  refine ⟨fun unknown => ?_, fun rec known => ⟨(tidy id rec known).unpurged, fun idle => ?_,
    fun falling => ?_⟩⟩
  · have still := run_of_still (fun c => (request_of_unknown unknown c).2) requests
    rw [still]
    exact ⟨rfl, request_of_unknown unknown c⟩
  · have still := run_of_still (fun c => (request_of_idle known idle c).2) requests
    rw [still]
    exact ⟨rfl, request_of_idle known idle c⟩
  · have falls : rec.state.Falls rec.state := by
      rcases falling with state | state <;> rw [state] <;> constructor
    have unburied : rec.state ≠ .buried := by
      rcases falling with state | state <;> rw [state] <;> decide
    obtain ⟨rec', new, torn⟩ := torn_requests named known falls requests
    obtain ⟨-, fallen, resources⟩ := torn.felled
    have known' := torn.felled.told.known
    obtain ⟨next, answer⟩ := torn_request (named.run _) known' fallen.falls.on c
    refine ⟨rec', new, torn, fallen.falls, fallen.ends, ?_, ?_, ?_,
      fun other ne => torn.untouched sound ne, answer, ?_, next⟩
    · rw [fallen.kills]
      split <;> decide
    · rw [fallen.buries]
      split <;> decide
    · rw [resources]
      simp only [unburied, ne_eq, not_false_eq_true, true_and]
    · exact fun buried => (request_of_idle known' (Or.inr (Or.inr buried)) c).2

/-- A rehearsal with a second worker: the first one's producer exits, but its process is not killed in
the next round. -/
def resisting : List Action :=
  .addWorker ⟨2⟩ "cam" ⟨0⟩ :: rehearsal ++
    [.produce 0 (.announce (.ofEvent .pipelineExited)), .wait, .dispatch ⟨⟨1⟩, 1⟩ .linux, .tick ⟨2⟩]

/-- The process manager of the rehearsal, for which two kills fail, and the first reap finds the process
still running. -/
def resistingManager : ScriptedManager := ⟨[], [false, false], [some .running], 0, []⟩

/-- Requests in a wrong order, with repetitions. -/
def insisting : List Teardown :=
  [.release ⟨3⟩, .reap ⟨3⟩, .kill ⟨3⟩, .kill ⟨4⟩, .release ⟨4⟩, .reap ⟨5⟩, .reap ⟨6⟩]

theorem teardowns_go_forward_rehearsed :
    ∃ w v rec rec' new, (start resistingManager .defaults ⟨0⟩).run resisting = w ∧
      w.run (insisting.map (Teardown.action ⟨1⟩)) = v ∧ w.sup.worker? ⟨1⟩ = some rec ∧
      rec.state = .infected ∧ Torn ⟨1⟩ w v rec rec' new ∧ rec'.state = .buried ∧
      new.countP Call.kills ≤ 1 ∧ new.countP Call.buries ≤ 1 ∧ Untouched ⟨2⟩ w v ∧
      v.step (.killWorker ⟨1⟩ ⟨7⟩) = v := by
  obtain ⟨-, known⟩ := teardowns_go_forward resistingManager .defaults ⟨0⟩ resisting rfl ⟨1⟩ insisting
    rfl (.kill ⟨7⟩)
  obtain ⟨-, -, falls⟩ := known _ rfl
  obtain ⟨rec', new, torn, -, -, kills, buries, -, others, -, rests, -⟩ := falls (Or.inl rfl)
  have ends : ((((start resistingManager .defaults ⟨0⟩).run resisting).run
      (insisting.map (Teardown.action ⟨1⟩))).sup.worker? ⟨1⟩).map (·.state) = some .buried := by
    decide +kernel
  have buried : rec'.state = .buried := by
    rw [torn.felled.told.known] at ends
    exact Option.some.inj ends
  exact ⟨_, _, _, rec', new, rfl, rfl, rfl, rfl, torn, buried, kills, buries, others ⟨2⟩ (by decide),
    rests buried⟩

end World

end FrameMux
