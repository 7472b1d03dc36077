/-
**A worker that has just negotiated.**

Until its region is known, a worker may be alive for as long as negotiating may take; from then on, no
gap in its activity may be longer than the staleness window.  Learning the region is no activity by
itself, so the new bound is measured from the start of the process, or from the consumer's last
release.  This module says exactly when a worker that learns its region is condemned by that.

Main results:

* `FrameMux.Worker.verdict?_eq_none_iff` — when the watchdog has nothing against a worker;
* `FrameMux.World.worker?_tick_iff` — a round leaves the record of an alive worker alone exactly if
  the watchdog has nothing against it;
* `FrameMux.World.spared_iff_prompt` — a worker that learns its region stays out of the watchdog's
  reach **exactly if it does so within the staleness window**;
* `FrameMux.World.latecomer_condemned` — one that takes longer, but not too long, is torn down with
  its first frame in the slot.
-/

import FrameMux.Proofs.World.Overdue
import FrameMux.Proofs.World.Records

set_option relaxedAutoImplicit false
set_option autoImplicit false

namespace FrameMux

namespace Worker

/-- The watchdog has nothing against an alive worker exactly if no exit was reported and its patience
is not at an end. -/
theorem verdict?_eq_none_iff {w : Worker} (alive : w.state = .alive) (policy : Policy)
    (now : Instant) :
    w.verdict? policy now = none ↔
      w.exitReported = false ∧ now.since (w.patience policy).1 ≤ (w.patience policy).2 := by
  rw [verdict?, if_neg (not_not_intro alive)]
  cases w.exitReported with
  | true =>
      rw [if_pos rfl]
      constructor
      · intro none
        cases none
      · rintro ⟨unreported, -⟩
        cases unreported
  | false =>
      rw [if_neg Bool.false_ne_true]
      split
      · next late =>
          constructor
          · intro none
            cases none
          · rintro ⟨-, timely⟩
            exact absurd late (Nat.not_lt.2 timely)
      · next timely => exact ⟨fun _ => ⟨rfl, Nat.not_lt.1 timely⟩, fun _ => rfl⟩

/-- Without a frame, the latest mark of activity is the consumer's. -/
theorem lastActivity_of_unseen {w : Worker} (unseen : w.lastFrame = none) :
    w.lastActivity = latest w.since w.lastRelease := by
  rw [lastActivity, unseen]
  rfl

end Worker

namespace World

variable {σ : Type} [ProcessManager σ]

/-- A round leaves the record of an alive worker alone exactly if the watchdog has nothing against the
worker. -/
theorem worker?_tick_iff {w : World σ} (named : w.Named) {id : WorkerId} {rec : Worker}
    (known : w.sup.worker? id = some rec) (alive : rec.state = .alive) (now : Instant) :
    (w.step (.tick now)).sup.worker? id = some rec ↔ rec.verdict? w.sup.policy now = none := by
  obtain ⟨_, _, v, -, -, at_, policy, named', -, after, -⟩ := round_of_known named now known
  rw [after, ← policy]
  have unpurged : rec.state ≠ .purged := by
    rw [alive]
    nofun
  constructor
  · intro stays
    obtain ⟨rec', new, told, settled⟩ :=
      Supervisor.settled_tickWorker at_ (named' id rec at_) unpurged now
    cases told.known.symm.trans stays
    exact (settled.alive alive).2
  · intro acquitted
    rw [Supervisor.tickWorker, Supervisor.judge_of_acquitted at_ acquitted,
      Supervisor.advance_of_alive at_ alive]
    exact at_

omit [ProcessManager σ] in
/-- What a token leaves of the record of a worker that learns its region by it. -/
theorem learned_of_dispatch {w : World σ} (unread : w.Unread) {token : Token} {mmap : Mmap}
    {rec rec' : Worker} (known : w.sup.worker? token.worker = some rec)
    (unlearned : rec.negotiated = false)
    (known' : (w.dispatch token mmap).sup.worker? token.worker = some rec')
    (learned : rec'.negotiated = true) :
    ∃ mask, (w.sup.dispatch token mmap).1 = some mask ∧ rec'.state = rec.state ∧
      rec'.exitReported = (rec.exitReported || mask.contains .pipelineExited) ∧
      rec'.lastActivity = Worker.latest rec.since rec.lastRelease := by
  have part := w.dispatched_dispatch token mmap
  generalize w.dispatch token mmap = w' at part known'
  cases part with
  | idle =>
      have same : w.sup.worker? token.worker = some rec' := known'
      cases known.symm.trans same
      rw [unlearned] at learned
      cases learned
  | @drained v channels link mask mmap' s known₀ current holds there drained _ rewired =>
      obtain rfl : v = rec := Option.some.inj (known₀.symm.trans known)
      have same : s.worker? token.worker = some rec' := known'
      cases rewired.worker.symm.trans same
      have unknown : channels.reader = none := by
        have reads : v.reader? = channels.reader := by rw [Worker.reader?, holds, Option.bind_some]
        rw [Worker.negotiated, reads] at unlearned
        exact Option.isNone_iff_eq_none.1 (Option.isSome_eq_false_iff.1 unlearned)
      obtain ⟨unseen, -⟩ := unread token.worker v channels.link known (by rw [holds, ← unknown])
      have dispatched := Supervisor.dispatch_of_drain known current holds there drained mmap
      exact ⟨mask, by rw [dispatched], rfl, rfl, Worker.lastActivity_of_unseen unseen⟩

/-- **A worker that learns its region stays out of the watchdog's reach exactly if it does so within the
staleness window**, measured from the start of its process or the consumer's last release, and no exit
is reported with it.  A round at the same time leaves it alone exactly then. -/
theorem spared_iff_prompt (manager : σ) (config : Config) (began : Instant) (l : List Action)
    {w : World σ} (reached : (start manager config began).run l = w) (token : Token) (mmap : Mmap)
    {rec rec' : Worker} (now : Instant) (known : w.sup.worker? token.worker = some rec)
    (alive : rec.state = .alive) (unlearned : rec.negotiated = false)
    (acquitted : rec.verdict? config.policy now = none)
    (known' : (w.step (.dispatch token mmap)).sup.worker? token.worker = some rec')
    (learned : rec'.negotiated = true) :
    ∃ mask, (w.sup.dispatch token mmap).1 = some mask ∧
      (rec'.verdict? config.policy now = none ↔
        mask.contains .pipelineExited = false ∧
          now.since (Worker.latest rec.since rec.lastRelease) ≤ config.policy.staleness) ∧
      (((w.step (.dispatch token mmap)).step (.tick now)).sup.worker? token.worker = some rec' ↔
        rec'.verdict? config.policy now = none) := by
  have unread : w.Unread := reached ▸ unread_run manager config began l
  have on : w.step (.dispatch token mmap) =
      (start manager config began).run (l ++ [.dispatch token mmap]) := by
    rw [run_append, reached]
    rfl
  have named' : (w.step (.dispatch token mmap)).Named := on ▸ named_run manager config began _
  have policy' : (w.step (.dispatch token mmap)).sup.policy = config.policy :=
    on ▸ policy_run manager config began _
  obtain ⟨mask, drained, state, reported, activity⟩ :=
    learned_of_dispatch unread known unlearned known' learned
  have alive' : rec'.state = .alive := state.trans alive
  have unreported := ((Worker.verdict?_eq_none_iff alive config.policy now).1 acquitted).1
  have patience : rec'.patience config.policy =
      (Worker.latest rec.since rec.lastRelease, config.policy.staleness) := by
    rw [Worker.patience, if_pos learned, activity]
  refine ⟨mask, drained, ?_, ?_⟩
  · rw [Worker.verdict?_eq_none_iff alive', reported, unreported, Bool.false_or, patience]
  · rw [worker?_tick_iff named' known' alive', policy']

/-! ### Late and later -/

/-- A worker whose producer takes its time to offer a region, and publishes at once. -/
def unheard : World ScriptedManager :=
  (start ⟨[.starts none [.ofEvent .childStarted]], [], [], 0, []⟩ .defaults ⟨0⟩).run
    [.addWorker ⟨1⟩ "cam" ⟨0⟩, .tick ⟨0⟩, .produce 0 (.offer .linux 12),
      .produce 0 (.publish ⟨List.replicate 12 1, 2, 2⟩), .wait]

/-- The number of nanoseconds of so many seconds after the start. -/
def secondsIn (n : Nat) : Instant := ⟨(Duration.ofSecs n).nanos⟩

/-- At three minutes sharp the worker is spared, and the round that follows leaves it alone. -/
theorem spared_iff_prompt_rehearsed :
    ∃ rec rec', unheard.sup.worker? ⟨1⟩ = some rec ∧ rec.state = .alive ∧ rec.negotiated = false ∧
      rec.verdict? Config.defaults.policy (secondsIn 180) = none ∧
      (unheard.step (.dispatch ⟨⟨1⟩, 1⟩ .linux)).sup.worker? ⟨1⟩ = some rec' ∧
      rec'.negotiated = true ∧ rec'.verdict? Config.defaults.policy (secondsIn 180) = none ∧
      ((unheard.step (.dispatch ⟨⟨1⟩, 1⟩ .linux)).step (.tick (secondsIn 180))).sup.worker? ⟨1⟩ =
        some rec' := by
  obtain ⟨mask, drained, spared, stays⟩ := spared_iff_prompt (σ := ScriptedManager) _ _ _ _
    (w := unheard) rfl ⟨⟨1⟩, 1⟩ .linux (secondsIn 180) rfl rfl rfl rfl rfl rfl
  have unreported : mask.contains .pipelineExited = false := by
    have mask_eq : (unheard.sup.dispatch ⟨⟨1⟩, 1⟩ .linux).1 =
        some (.ofEvents [.childStarted, .regionNegotiated, .frameWaiting]) := rfl
    cases mask_eq.symm.trans drained
    rfl
  have acquitted := spared.2 ⟨unreported, by decide⟩
  exact ⟨_, _, rfl, rfl, rfl, rfl, rfl, rfl, acquitted, stays.2 acquitted⟩

/-- Twenty seconds later it is too late by the staleness window, though there is time left to negotiate:
the watchdog had nothing against the worker before the token, and condemns it after.  The round kills
the process, whose first frame waits in the slot. -/
theorem latecomer_condemned :
    Config.defaults.policy.staleness ≤ Config.defaults.policy.negotiation ∧
    ∃ rec rec', unheard.sup.worker? ⟨1⟩ = some rec ∧ rec.state = .alive ∧ rec.negotiated = false ∧
      rec.verdict? Config.defaults.policy (secondsIn 200) = none ∧
      (unheard.step (.dispatch ⟨⟨1⟩, 1⟩ .linux)).sup.worker? ⟨1⟩ = some rec' ∧
      rec'.negotiated = true ∧ rec'.frameWaiting = true ∧
      rec'.verdict? Config.defaults.policy (secondsIn 200) = some .stale ∧
      ((unheard.step (.dispatch ⟨⟨1⟩, 1⟩ .linux)).step (.tick (secondsIn 200))).calls =
        unheard.calls ++ [(⟨1⟩, .kill 1000 true), (⟨1⟩, .reap 1000 (some (.signaled 9)))] :=
  ⟨by decide, _, _, rfl, rfl, rfl, rfl, rfl, rfl, rfl, rfl, rfl⟩

end World

end FrameMux
