/-
**What becomes of a record.**

Most of what happens to a worker concerns its process, its times or its marks, and leaves alone what it
has seen of its region.  Only three things change that: the worker gets a new link or loses its own,
it learns its region, or it takes a frame.  This module says so of every part of an action.

Main definitions:

* `FrameMux.Worker.Steady` — the same link, and the same frames seen;
* `FrameMux.Worker.Recast` — what a move, and whatever else looks into no region, makes of a record;
* `FrameMux.World.Unread` — a worker that has yet to learn its region has seen no frame.

Main results:

* `FrameMux.Supervisor.Move.recast` — every move recasts the record of its worker;
* `FrameMux.World.unread_run` — **no frame is seen before the region is known**, in any run.
-/

import FrameMux.Proofs.World.Parts

set_option relaxedAutoImplicit false
set_option autoImplicit false

namespace FrameMux

/-! ### Records -/

namespace Worker

/-- The record `w` has the link of `v`, and has seen the same frames. -/
structure Steady (v w : Worker) : Prop where
  channels : w.channels = v.channels
  lastFrame : w.lastFrame = v.lastFrame
  taken : w.taken = v.taken
  received : w.received = v.received
  dropped : w.dropped = v.dropped

theorem Steady.refl (w : Worker) : w.Steady w := ⟨rfl, rfl, rfl, rfl, rfl⟩

/-- What becomes of a record while nobody looks into its region: the worker has no link, or it has the
next link after so many and has seen nothing of it, or it is steady. -/
inductive Recast (links : Nat) (v : Option Worker) (w : Worker) : Prop
  | unlinked (unlinked : w.channels = none)
  | opened (holds : w.channels = some ⟨links, none⟩) (lastFrame : w.lastFrame = none)
      (taken : w.taken = 0)
  | steady {u : Worker} (known : v = some u) (steady : u.Steady w)

end Worker

namespace Supervisor

variable {σ : Type} [ProcessManager σ]

/-- A move recasts the record of its worker, and leaves those of others alone. -/
theorem Move.recast {id other : WorkerId} {s s' : Supervisor σ} (h : Move id s s')
    (named : s.Named id) {rec : Worker} (known : s'.worker? other = some rec) :
    rec.Recast s.links.length (s.worker? other) := by
  by_cases same : other = id
  · subst same
    cases h with
    | @enter v state now before =>
        cases (record_enter before state now).symm.trans known
        exact .steady before ⟨rfl, rfl, rfl, rfl, rfl⟩
    | kill | reapRunning => exact .steady known (.refl rec)
    | @reapDead v pid before =>
        cases (record_forgetPid before).symm.trans known
        exact .steady before ⟨rfl, rfl, rfl, rfl, rfl⟩
    | bury now before =>
        have purged := record_enter before .purged now
        cases (record_enter (record_releaseChannels purged) .buried now).symm.trans known
        exact .unlinked rfl
    | release now before =>
        cases (record_enter (record_releaseChannels before) .buried now).symm.trans known
        exact .unlinked rfl
    | letGo =>
        rw [worker?_resetCache, worker?_releaseChannels, if_pos rfl] at known
        obtain ⟨v, -, rfl⟩ := Option.map_eq_some_iff.1 known
        exact .unlinked rfl
    | @spawnFailed v now before =>
        cases (record_attempted before now _).symm.trans known
        exact .steady before ⟨rfl, rfl, rfl, rfl, rfl⟩
    | @spawned v started now before =>
        obtain rfl : v.id = other := named v before
        have attempted := record_attempted before now v.source
        cases (record_enter (record_adopt attempted started) .alive now).symm.trans known
        exact .opened rfl rfl rfl
  · exact .steady ((h.worker?_of_ne named same).symm.trans known) (.refl rec)

end Supervisor

namespace World

variable {σ : Type} [ProcessManager σ]

omit [ProcessManager σ] in
/-- A new source has no link, and the other records stay. -/
theorem recast_add {w : World σ} {id other : WorkerId} {source : String} {now : Instant}
    {s : Supervisor (Recorder σ)} (h : w.sup.addWorker id source now = .ok s) {rec : Worker}
    (known : (w.withSup (s.addCache id)).sup.worker? other = some rec) :
    rec.Recast w.sup.links.length (w.sup.worker? other) := by
  have known : s.worker? other = some rec := known
  rw [Supervisor.worker?_addWorker h] at known
  split at known
  · cases known
    exact .unlinked rfl
  · exact .steady known (.refl rec)

omit [ProcessManager σ] in
/-- Giving a frame back is noted on a record that is steady otherwise. -/
theorem recast_release {w : World σ} {id other : WorkerId} {now : Instant} {mux : Mux (Recorder σ)}
    (h : w.mux.release id now = .ok mux) {rec : Worker}
    (known : (World.sup { w with mux }).worker? other = some rec) :
    rec.Recast w.sup.links.length (w.sup.worker? other) := by
  rw [show World.sup { w with mux } = Supervisor.noteRelease _ _ _ from release_ok h,
    Supervisor.noteRelease, Supervisor.worker?_modifyWorker] at known
  split at known
  · obtain ⟨v, before, rfl⟩ := Option.map_eq_some_iff.1 known
    exact .steady before ⟨rfl, rfl, rfl, rfl, rfl⟩
  · exact .steady known (.refl rec)

/-! ### Before the region is known -/

/-- A worker that has a link and has yet to learn its region has seen no frame of it. -/
def Unread (w : World σ) : Prop :=
  ∀ id rec n, w.sup.worker? id = some rec → rec.channels = some ⟨n, none⟩ →
    rec.lastFrame = none ∧ rec.taken = 0

omit [ProcessManager σ] in
/-- Records that are recast. -/
theorem Unread.recast {w w' : World σ} (h : w.Unread)
    (recast : ∀ id rec, w'.sup.worker? id = some rec →
      rec.Recast w.sup.links.length (w.sup.worker? id)) : w'.Unread := by
  intro id rec n known holds
  cases recast id rec known with
  | unlinked unlinked =>
      rw [unlinked] at holds
      cases holds
  | opened _ lastFrame taken => exact ⟨lastFrame, taken⟩
  | @steady v before steady =>
      rw [steady.lastFrame, steady.taken]
      exact h id v n before (steady.channels.symm.trans holds)

omit [ProcessManager σ] in
/-- One record that had seen nothing if it has yet to learn its region, and others that stay. -/
theorem Unread.rewire {w w' : World σ} (h : w.Unread) {id : WorkerId} {rec : Worker} {n : Nat}
    {link : Link} (rewired : Supervisor.Rewired w.sup w'.sup id rec n link)
    (unread : ∀ m, rec.channels = some ⟨m, none⟩ → rec.lastFrame = none ∧ rec.taken = 0) :
    w'.Unread := by
  intro other rec' m known holds
  by_cases same : other = id
  · subst same
    cases rewired.worker.symm.trans known
    exact unread m holds
  · exact h other rec' m ((rewired.others other same).symm.trans known) holds

omit [ProcessManager σ] in
/-- A token may make a region known, but it shows nothing of it. -/
theorem Unread.dispatched {w w' : World σ} (h : w.Unread) {token : Token}
    (part : Dispatched w token w') : w'.Unread := by
  cases part with
  | idle => exact h
  | @drained rec channels link mask mmap s known _ holds _ _ _ rewired =>
      have rewired : Supervisor.Rewired w.sup (World.sup ({ w.withSup s with
          inFlight := w.inFlight.erase token }.modifyLedger channels.link Ledger.drained)) _ _ _ _ :=
        rewired
      refine h.rewire rewired ?_
      intro m unlearned
      -- A worker that does not know its region now did not know it before.
      have unknown : channels.reader = none := by
        have after : (Supervisor.negotiated mmap channels mask link.drain.2).2 = none :=
          congrArg WorkerLink.reader (Option.some.inj unlearned)
        unfold Supervisor.negotiated at after
        split at after
        · next receives => simpa using ((Bool.and_eq_true _ _).mp receives).2
        · exact after
      refine h token.worker rec channels.link known ?_
      rw [holds, ← unknown]

omit [ProcessManager σ] in
/-- Only the region of a worker that knows it is looked into. -/
theorem Unread.received {w w' : World σ} (h : w.Unread) {now : Instant} {id : WorkerId}
    (part : Received w now id w') : w'.Unread := by
  cases part with
  | skipped => exact h
  | @noted f rec n file quiet known reads =>
      intro other rec' m known' holds
      have known' : (w.sup.modifyWorker id f).worker? other = some rec' := known'
      rw [Supervisor.worker?_modifyWorker] at known'
      split at known'
      · next same =>
          rw [same, known] at known'
          cases known'
          rw [quiet.channels, reads] at holds
          cases holds
      · exact h other rec' m known' holds
  | @taken s rec n file link frame f dropped waits quiet took counted rewired =>
      have rewired : Supervisor.Rewired w.sup (World.sup { (w.withSup s).modifyLedger n
          Ledger.received with stored := w.stored ++ [w.receipt id n s] }) _ _ _ _ := rewired
      refine h.rewire rewired ?_
      intro m holds
      have same : (f rec).channels = some ⟨m, none⟩ := holds
      rw [quiet.channels, waits.holds] at same
      cases same
  | @missed s rec n file link f waits quiet _ rewired =>
      have rewired : Supervisor.Rewired w.sup (w.withSup s).sup _ _ _ _ := rewired
      refine h.rewire rewired ?_
      intro m holds
      rw [quiet.channels, waits.holds] at holds
      cases holds
  | @cut s rec n file link frame f waits quiet _ _ rewired =>
      have rewired : Supervisor.Rewired w.sup ((w.withSup s).modifyLedger n Ledger.interrupted).sup
        _ _ _ _ := rewired
      refine h.rewire rewired ?_
      intro m holds
      rw [quiet.channels, waits.holds] at holds
      cases holds

/-- **No frame is seen before the region is known.** -/
theorem Unread.part {D : Nat → Deed → Prop} {w w' : World σ} (h : w.Unread) (named : w.Named)
    (part : Part D w w') : w'.Unread := by
  cases part with
  | @move id s move => exact h.recast fun other rec known => move.recast (named id) known
  | add added => exact h.recast fun other rec known => recast_add added known
  | wait => exact h
  | dispatch dispatched => exact h.dispatched dispatched
  | receive received => exact h.received received
  | produce there d =>
      rw [produce_of_link there]
      exact h
  | pullOne now =>
      obtain ⟨frames, sup, -⟩ := w.sup_pullOne now
      intro id rec n known
      rw [sup] at known
      exact h id rec n known
  | pullBatch k now =>
      obtain ⟨frames, sup, -⟩ := w.sup_pullBatch k now
      intro id rec n known
      rw [sup] at known
      exact h id rec n known
  | release mux released => exact h.recast fun other rec known => recast_release released known

theorem unread_run (manager : σ) (config : Config) (now : Instant) (l : List Action) :
    ((start manager config now).run l).Unread := by
  refine run_induction (I := Unread) manager config now ?_ ?_ l
  · intro id rec n known
    cases known
  · intro w w' named unread part
    exact unread.part named part

end World

end FrameMux
