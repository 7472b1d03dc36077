/-
**Who has a cache, and what is in it.**

A worker gets its cache when it is added and keeps it for good; frames come and go in it.  This module
collects what holds of the caches in every world: what happens to them is a request to the frame store,
so they are coherent; every worker has one; and a frame that is in one came over a region that the
worker still knows.

Main definitions:

* `FrameMux.World.Catered` — every worker has a cache, and the caches are coherent;
* `FrameMux.World.Informed` — a worker with a cached frame knows the region that it came from;
* `FrameMux.World.Orderly` — what every run keeps.

Main results:

* `FrameMux.World.Part.request` — **every part is a request to the frame store**;
* `FrameMux.World.Orderly.part`, `FrameMux.World.orderly_run` — every run is orderly.
-/

import FrameMux.Proofs.Frame.Candidates
import FrameMux.Proofs.World.Looks
import FrameMux.Proofs.World.Records

set_option relaxedAutoImplicit false
set_option autoImplicit false

namespace FrameMux

namespace World

variable {σ : Type} [ProcessManager σ] {D : Nat → Deed → Prop} {w w' : World σ} {id : WorkerId}

/-! ### The frame store -/

/-- **Every part is a request to the frame store.** -/
theorem Part.request (part : Part D w w') :
    ∃ r : FrameStore.Request, w'.sup.frames = w.sup.frames.step r := by
  have idle {v : World σ} (same : v.sup.frames = w.sup.frames) :
      ∃ r : FrameStore.Request, v.sup.frames = w.sup.frames.step r := ⟨.snapshot ⟨0⟩, same⟩
  cases part with
  | @move id s move =>
      rcases move.frames with same | emptied
      · exact idle same
      · exact ⟨.reset id, emptied⟩
  | @add id source now s added =>
      obtain ⟨-, rfl⟩ := Supervisor.addWorker_ok added
      exact ⟨.addWorker id, rfl⟩
  | wait => exact idle rfl
  | dispatch dispatched =>
      cases dispatched with
      | idle => exact idle rfl
      | drained known current holds there drained frames rewired => exact idle frames
  | @receive _ now id received =>
      cases received with
      | skipped | noted => exact idle rfl
      | @taken s rec n file link frame f dropped waits quiet took counted rewired filled =>
          exact ⟨.fill id frame.data frame.width frame.height now, filled⟩
      | missed waits quiet missed rewired frames => exact idle frames
      | cut waits quiet took uncounted rewired frames => exact idle frames
  | produce there d =>
      rw [produce_of_link there]
      exact idle rfl
  | pullOne now =>
      simp only [World.step, Mux.pullOne]
      split
      · exact idle rfl
      · next frame frames pulled => exact ⟨.pullOne, (congrArg Prod.snd pulled).symm⟩
  | pullBatch n now =>
      simp only [World.step, Mux.pullBatch]
      split
      · exact idle rfl
      · next batch frames pulled => exact ⟨.pullBatch n, (congrArg Prod.snd pulled).symm⟩
  | @release id now mux released =>
      exact ⟨.reset id, congrArg (·.frames) (release_ok released)⟩

/-- A part makes no worker known, unless it adds one with its cache. -/
theorem Part.known_or_cached (part : Part D w w') (named : w.Named)
    (known : (w'.sup.worker? id).isSome = true) :
    (w.sup.worker? id).isSome = true ∨ (w'.sup.frames.cached? id).isSome = true := by
  cases part with
  | @move other s move =>
      left
      by_cases same : id = other
      · subst same
        have map_id := congrArg Option.isSome (move.map_id (named id))
        rw [Option.isSome_map, Option.isSome_map] at map_id
        exact map_id ▸ known
      · exact move.worker?_of_ne (named other) same ▸ known
  | @add other source now s added =>
      have record : s.worker? id = _ := Supervisor.worker?_addWorker added id
      by_cases same : other = id
      · right
        show ((s.frames.addWorker other).cached? id).isSome = true
        rw [FrameStore.cached?_addWorker, if_pos same]
        rfl
      · left
        rw [if_neg same] at record
        exact record ▸ known
  | wait => exact .inl known
  | dispatch dispatched =>
      left
      cases dispatched with
      | idle => exact known
      | drained before current holds there drained frames rewired =>
          exact rewired.isSome_worker? before id ▸ known
  | receive received =>
      left
      cases received with
      | skipped => exact known
      | noted => exact w.sup.isSome_worker?_modifyWorker _ id _ ▸ known
      | taken waits quiet took counted rewired filled =>
          exact rewired.isSome_worker? waits.known id ▸ known
      | missed waits quiet missed rewired frames =>
          exact rewired.isSome_worker? waits.known id ▸ known
      | cut waits quiet took uncounted rewired frames =>
          exact rewired.isSome_worker? waits.known id ▸ known
  | produce there d =>
      rw [produce_of_link there] at known
      exact .inl known
  | pullOne now =>
      obtain ⟨frames, sup, -⟩ := w.sup_pullOne now
      rw [sup] at known
      exact .inl known
  | pullBatch n now =>
      obtain ⟨frames, sup, -⟩ := w.sup_pullBatch n now
      rw [sup] at known
      exact .inl known
  | release mux released =>
      left
      have sup : World.sup { w with mux } = Supervisor.noteRelease _ _ _ := release_ok released
      rw [sup, Supervisor.noteRelease, Supervisor.isSome_worker?_modifyWorker] at known
      exact known

/-- Every worker has a cache, and the caches are coherent. -/
structure Catered (w : World σ) : Prop where
  coherent : w.sup.frames.Coherent
  cached : ∀ id, (w.sup.worker? id).isSome = true → (w.sup.frames.cached? id).isSome = true

theorem Catered.part (h : w.Catered) (named : w.Named) (part : Part D w w') : w'.Catered := by
  obtain ⟨r, frames⟩ := part.request
  refine ⟨frames ▸ h.coherent.step r, ?_⟩
  intro id known
  rcases part.known_or_cached named known with before | cached
  · rw [frames]
    exact FrameStore.isSome_cached?_step r (h.cached id before)
  · exact cached

/-! ### Where a cached frame came from -/

omit [ProcessManager σ] in
/-- A worker with a cached frame knows the region that it came from. -/
def Informed (w : World σ) : Prop :=
  ∀ id f rec n, w.sup.frames.snapshot id = some f → w.sup.worker? id = some rec →
    rec.channels ≠ some ⟨n, none⟩

omit [ProcessManager σ] in
/-- Records that are recast, and caches into which nothing is put. -/
theorem Informed.recast (h : w.Informed) (linked : w.Linked) (delivered : w.Delivered)
    (delivered' : w'.Delivered) (stored : w'.stored = w.stored)
    (shown : ∀ id f, w'.sup.frames.snapshot id = some f → w.sup.frames.snapshot id = some f)
    (recast : ∀ id rec, w'.sup.worker? id = some rec →
      rec.Recast w.sup.links.length (w.sup.worker? id)) : w'.Informed := by
  intro id f rec n cached known holds
  cases recast id rec known with
  | unlinked unlinked =>
      rw [unlinked] at holds
      cases holds
  | opened opened =>
      -- The frame came over the link that is served, and that one is new.
      obtain ⟨-, r, there, -, -, serves⟩ := delivered'.cached id f cached
      obtain ⟨-, link⟩ := (Supervisor.serves_iff known r.link).1 serves
      rw [opened] at link
      have new : w.sup.links.length = r.link := Option.some.inj link
      obtain ⟨g, old, -⟩ := delivered.genuine r (stored ▸ List.mem_of_getElem? there)
      have below := (List.getElem?_eq_some_iff.1 old).1
      have same := linked.ledgers
      omega
  | @steady v before steady =>
      exact h id f v n (shown id f cached) before (steady.channels.symm.trans holds)

omit [ProcessManager σ] in
/-- A token may make a region known, but none unknown. -/
theorem Informed.dispatched (h : w.Informed) {token : Token} (part : Dispatched w token w') :
    w'.Informed := by
  cases part with
  | idle => exact h
  | @drained rec channels link mask mmap s known current holds there drained frames rewired =>
      intro id f rec' n cached known' holds'
      have shown : w.sup.frames.snapshot id = some f :=
        (congrArg (·.snapshot id) frames).symm.trans cached
      by_cases same : id = token.worker
      · subst same
        cases rewired.worker.symm.trans known'
        have reader : (Supervisor.negotiated mmap channels mask link.drain.2).2 = none :=
          congrArg WorkerLink.reader (Option.some.inj holds')
        have unread : channels.reader = none := by
          unfold Supervisor.negotiated at reader
          split at reader
          · next receives => simpa using ((Bool.and_eq_true _ _).mp receives).2
          · exact reader
        exact h _ f rec channels.link shown known (by rw [holds, ← unread])
      · exact h id f rec' n shown ((rewired.others id same).symm.trans known') holds'

omit [ProcessManager σ] in
/-- A look stores a frame only over a region that is known. -/
theorem Informed.received (h : w.Informed) {now : Instant} {other : WorkerId}
    (part : Received w now other w') : w'.Informed := by
  intro id f rec n cached known holds
  obtain ⟨v, before, -, channels⟩ := part.unmoved known
  cases part with
  | skipped | noted => exact h id f v n cached before (channels.trans holds)
  | @taken s u m file link frame g dropped waits quiet took counted rewired filled =>
      have shown := (congrArg (·.snapshot id) filled).symm.trans cached
      rw [FrameStore.snapshot_fill] at shown
      split at shown
      · next same =>
          subst same
          cases waits.known.symm.trans before
          cases waits.holds.symm.trans (channels.trans holds)
      · exact h id f v n shown before (channels.trans holds)
  | missed waits quiet missed rewired frames =>
      have shown := (congrArg (·.snapshot id) frames).symm.trans cached
      exact h id f v n shown before (channels.trans holds)
  | cut waits quiet took uncounted rewired frames =>
      have shown := (congrArg (·.snapshot id) frames).symm.trans cached
      exact h id f v n shown before (channels.trans holds)

/-- **Every part keeps the workers informed.** -/
theorem Informed.part (h : w.Informed) (named : w.Named) (linked : w.Linked)
    (delivered : w.Delivered) (part : Part D w w') : w'.Informed := by
  have delivered' := delivered.part linked named part
  have same {v : World σ} (record : ∀ id, v.sup.worker? id = w.sup.worker? id)
      (cached : ∀ id, v.sup.frames.snapshot id = w.sup.frames.snapshot id) : v.Informed := by
    intro id f rec n shown known
    exact h id f rec n ((cached id).symm.trans shown) ((record id).symm.trans known)
  cases part with
  | @move other s move =>
      refine h.recast linked delivered delivered' rfl ?_ fun id rec => move.recast (named other)
      intro id f shown
      have shown : s.frames.snapshot id = some f := shown
      rcases move.frames with frames | emptied
      · exact frames ▸ shown
      · rw [emptied, FrameStore.snapshot_reset] at shown
        split at shown
        · cases shown
        · exact shown
  | add added =>
      refine h.recast linked delivered delivered' rfl ?_ fun id rec => recast_add added
      intro id f shown
      obtain ⟨-, rfl⟩ := Supervisor.addWorker_ok added
      exact (FrameStore.snapshot_addWorker _ _ _).symm.trans shown
  | wait => exact same (fun _ => rfl) fun _ => rfl
  | dispatch dispatched => exact h.dispatched dispatched
  | receive received => exact h.received received
  | produce there d =>
      rw [produce_of_link there]
      exact same (fun _ => rfl) fun _ => rfl
  | pullOne now =>
      obtain ⟨frames, sup, -, shows⟩ := w.sup_pullOne now
      exact same (fun id => congrArg (·.worker? id) sup) fun id => by rw [sup, ← shows id]
  | pullBatch m now =>
      obtain ⟨frames, sup, -, shows⟩ := w.sup_pullBatch m now
      exact same (fun id => congrArg (·.worker? id) sup) fun id => by rw [sup, ← shows id]
  | @release other now mux released =>
      refine h.recast linked delivered delivered' rfl ?_ fun id rec => recast_release released
      intro id f shown
      rw [show World.sup { w with mux } = Supervisor.noteRelease _ _ _ from release_ok released]
        at shown
      have shown : (w.sup.frames.reset other).snapshot id = some f := shown
      rw [FrameStore.snapshot_reset] at shown
      split at shown
      · cases shown
      · exact shown

/-- What every run keeps. -/
structure Orderly (w : World σ) : Prop where
  named : w.Named
  linked : w.Linked
  delivered : w.Delivered
  catered : w.Catered
  informed : w.Informed

namespace Orderly

omit [ProcessManager σ] in
theorem sound (h : w.Orderly) : w.Sound := ⟨h.named, h.linked⟩

theorem part (h : w.Orderly) (part : Part D w w') : w'.Orderly where
  named := part.named h.named
  linked := h.linked.part h.named (part.mono fun _ _ _ => trivial)
  delivered := h.delivered.part h.linked h.named part
  catered := h.catered.part h.named part
  informed := h.informed.part h.named h.linked h.delivered part

theorem run (h : w.Orderly) (l : List Action) : (w.run l).Orderly :=
  (parts_run (D := fun _ _ => True) h.named l fun _ _ _ => trivial).induction
    (fun _ _ h part => h.part part) h

theorem step (h : w.Orderly) (a : Action) : (w.step a).Orderly := h.run [a]

end Orderly

theorem orderly_run (manager : σ) (config : Config) (now : Instant) (l : List Action) :
    ((start manager config now).run l).Orderly := by
  refine Orderly.run ?_ l
  obtain ⟨linked, delivered⟩ := delivered_run manager config now []
  refine ⟨named_start manager config now, linked, delivered, ⟨FrameStore.coherent_empty, ?_⟩, ?_⟩
  · intro id known
    cases known
  · intro id f rec n shown
    cases shown

end World

end FrameMux
