/-
**Frames given back.**

A consumer gives a frame back by the name of its worker, and whatever is cached for the worker is
cleared.  That is the frame which was pulled, as long as the worker serves the link that the frame
came over.  If the worker is torn down in the meantime, its cache is cleared then, and may be filled
again before the frame is given back: what is cleared in its place has not been seen by anyone.  This
module keeps a tab of it.

Main definitions:

* `FrameMux.FrameStore.Onward` — what is newly cached has a new number;
* `FrameMux.World.Shelved` — a frame is cached, unless the service that it came from is over;
* `FrameMux.World.Tab`, `FrameMux.World.Tab.note` — **what became of the frames** that a consumer pulled
  from a worker;
* `FrameMux.World.Tab.Balanced` — every frame that was pulled was given back, or lost, or is there.

Main results:

* `FrameMux.World.cached_iff_serves` — a cached frame stays cached, until it is given back, exactly as
  long as its worker serves the link that it came over;
* `FrameMux.World.snapshot_step` — the numbers of newly cached frames are new, whatever the action;
* `FrameMux.World.Tab.Balanced.note` — every action keeps the tab balanced;
* `FrameMux.World.unseen_discarded_iff_lost` — of the releases that are due, one discards a frame that
  was never pulled **exactly if a pulled frame was lost** and not yet made up for;
* `FrameMux.World.release_discards_unseen` — that happens.
-/

import FrameMux.Proofs.World.Deliveries
import Mathlib.Data.List.Induction

set_option relaxedAutoImplicit false
set_option autoImplicit false

namespace FrameMux

/-! ### Emptied caches -/

/-- A move leaves the caches alone, or it empties the one of its worker, whose service is over then. -/
theorem Supervisor.Move.frames_or_ended {σ : Type} [ProcessManager σ] {id : WorkerId}
    {s s' : Supervisor σ} (h : Move id s s') :
    s'.frames = s.frames ∨ (s'.frames = s.frames.reset id ∧ ∀ n, ¬ s'.Serves id n) := by
  cases h with
  | bury now known =>
      refine Or.inr ⟨frames_letGo (s.enter id .purged now) id, ?_⟩
      intro n serves
      have purged := record_enter known .purged now
      have record := record_enter (record_releaseChannels purged) .buried now
      cases ((serves_iff record n).1 serves).1
  | letGo =>
      refine Or.inr ⟨frames_letGo s id, ?_⟩
      rintro n ⟨rec, known, -, held⟩
      rw [worker?_resetCache, worker?_releaseChannels, if_pos rfl] at known
      obtain ⟨v, -, rfl⟩ := Option.map_eq_some_iff.1 known
      cases held
  | release => exact Or.inl (linksOnly_releaseChannels s id).frames
  | @spawned w started => exact Or.inl (linksOnly_adopt _ w started).frames
  | _ => exact Or.inl rfl

/-! ### New numbers -/

/-- From one store to a later one: what is newly cached has a new number. -/
structure FrameStore.Onward (s s' : FrameStore) : Prop where
  lastFid : s.lastFid ≤ s'.lastFid
  fresh : ∀ id f, s'.snapshot id = some f → s.snapshot id = some f ∨ s.lastFid < f.sequence

namespace FrameStore.Onward

/-- Nothing new. -/
theorem of_snapshot {s s' : FrameStore} (lastFid : s'.lastFid = s.lastFid)
    (same : ∀ id, s'.snapshot id = s.snapshot id) : s.Onward s' where
  lastFid := Nat.le_of_eq lastFid.symm
  fresh := by
    intro id f shown
    exact Or.inl ((same id).symm.trans shown)

theorem refl (s : FrameStore) : s.Onward s := of_snapshot rfl fun _ => rfl

theorem trans {s s' s'' : FrameStore} (h : s.Onward s') (h' : s'.Onward s'') : s.Onward s'' where
  lastFid := Nat.le_trans h.lastFid h'.lastFid
  fresh := by
    intro id f shown
    rcases h'.fresh id f shown with before | new
    · exact h.fresh id f before
    · exact Or.inr (Nat.lt_of_le_of_lt h.lastFid new)

/-- A cache is emptied. -/
theorem reset (s : FrameStore) (id : WorkerId) : s.Onward (s.reset id) where
  lastFid := Nat.le_refl _
  fresh := by
    intro other f shown
    rw [snapshot_reset] at shown
    split at shown
    · cases shown
    · exact Or.inl shown

/-- A cache is filled. -/
theorem fill (s : FrameStore) (id : WorkerId) (data : Bytes) (width height : UInt32)
    (now : Instant) : s.Onward (s.fill id data width height now) where
  lastFid := Nat.le_succ _
  fresh := by
    intro other f shown
    rw [snapshot_fill] at shown
    split at shown
    · cases shown
      exact Or.inr (Nat.lt_succ_self _)
    · exact Or.inl shown

end FrameStore.Onward

/-- Whether an action pulls frames.  A snapshot only shows one. -/
def World.Action.pulls : World.Action → Bool
  | pullOne _ => true
  | pullBatch _ _ => true
  | _ => false

/-- Whether an action gives the frame of a worker back. -/
def World.Action.releases (id : WorkerId) : World.Action → Bool
  | release other _ => other = id
  | _ => false

namespace World

variable {σ : Type} [ProcessManager σ]

/-! ### A frame on the shelf -/

/-- A frame is cached, unless the service that it came from is over. -/
structure Shelved (id : WorkerId) (f : Frame) (n : Nat) (w : World σ) : Prop where
  named : w.Named
  linked : w.Linked
  delivered : w.Delivered
  old : n < w.ledgers.length
  stays : w.sup.frames.snapshot id = some f ∨ ¬ w.sup.Serves id n

namespace Shelved

variable {id : WorkerId} {f : Frame} {n : Nat} {w w' : World σ}

/-- A part need only be checked while the frame is cached: nobody comes back to an old service. -/
theorem part {D : Nat → Deed → Prop} (h : Shelved id f n w) (part : Part D w w')
    (kept : w.sup.frames.snapshot id = some f →
      w'.sup.frames.snapshot id = some f ∨ ¬ w'.sup.Serves id n) : Shelved id f n w' where
  named := part.named h.named
  linked := h.linked.part h.named part
  delivered := h.delivered.part h.linked h.named part
  old := Nat.lt_of_lt_of_le h.old (part.later h.linked h.delivered h.named).ledgers.length_le
  stays := by
    rcases h.stays with shown | gone
    · exact kept shown
    · right
      intro serves
      exact gone ((part.later h.linked h.delivered h.named).serves id n h.old serves)

/-- A move takes the frame away only by ending the service. -/
theorem move (h : Shelved id f n w) {other : WorkerId} {s : Supervisor (Recorder σ)}
    (move : Supervisor.Move other w.sup s) : Shelved id f n (w.follow other s) := by
  refine h.part (D := fun _ _ => True) (.move move) ?_
  intro shown
  show s.frames.snapshot id = some f ∨ ¬ s.Serves id n
  rcases move.frames_or_ended with same | ⟨emptied, gone⟩
  · rw [same]
    exact Or.inl shown
  · by_cases ours : id = other
    · subst ours
      exact Or.inr (gone n)
    · rw [emptied, FrameStore.snapshot_reset, if_neg ours]
      exact Or.inl shown

/-- A look at a region stores nothing where a frame is. -/
theorem receive (h : Shelved id f n w) (now : Instant) (other : WorkerId) :
    Shelved id f n (World.receive now w other) := by
  have received := w.received_receive now other
  refine h.part (D := fun _ _ => True) (.receive received) ?_
  intro shown
  left
  generalize World.receive now w other = w' at received
  cases received with
  | skipped => exact shown
  | noted => exact shown
  | @taken s rec m file link frame g dropped waits quiet took counted rewired filled =>
      show s.frames.snapshot id = some f
      have apart : other ≠ id := by
        rintro rfl
        -- The cache that is filled was vacant.
        have vacant := waits.vacant
        obtain ⟨e, cached, data⟩ := Option.bind_eq_some_iff.1 shown
        obtain ⟨bytes, there, -⟩ := Option.map_eq_some_iff.1 data
        rw [FrameStore.isVacant, cached] at vacant
        simp [there] at vacant
      rw [filled, FrameStore.snapshot_fill, if_neg apart]
      exact shown
  | @missed s _ _ _ _ _ _ _ _ _ frames | @cut s _ _ _ _ _ _ _ _ _ _ _ frames =>
      show s.frames.snapshot id = some f
      rw [frames]
      exact shown

/-- **A frame stays on the shelf** whatever happens, unless it is given back. -/
theorem step (h : Shelved id f n w) {a : Action} (kept : a.releases id = false) :
    Shelved id f n (w.step a) := by
  have unchanged (part : Part (fun _ _ => True) w (w.step a))
      (same : (w.step a).sup.frames.snapshot id = w.sup.frames.snapshot id) :
      Shelved id f n (w.step a) := h.part part fun shown => Or.inl (same.trans shown)
  cases supervises : a.supervises with
  | true =>
      exact supervise_induction (I := Shelved id f n) (fun _ h => h.named) (fun _ _ _ h m => h.move m)
        supervises h
  | false =>
      cases a with
      | readFrames now =>
          exact forEach_induction (I := Shelved id f n) (fun w id h => h.receive now id) h _
      | addWorker other source now =>
          simp only [World.step] at unchanged ⊢
          cases added : w.sup.addWorker other source now with
          | error e => exact h
          | ok s =>
              rw [added] at unchanged
              refine unchanged (.add added) ?_
              obtain ⟨-, rfl⟩ := Supervisor.addWorker_ok added
              exact FrameStore.snapshot_addWorker _ _ _
      | wait => exact unchanged .wait rfl
      | dispatch token mmap =>
          have dispatched := w.dispatched_dispatch token mmap
          refine unchanged (.dispatch dispatched) ?_
          show (w.dispatch token mmap).sup.frames.snapshot id = _
          generalize w.dispatch token mmap = w' at dispatched
          cases dispatched with
          | idle => rfl
          | drained known current holds there drained frames rewired =>
              exact congrArg (fun s => s.snapshot id) frames
      | pullOne now =>
          obtain ⟨frames, sup, -, same⟩ := w.sup_pullOne now
          refine unchanged (.pullOne now) ?_
          rw [sup]
          exact same id
      | pullBatch m now =>
          obtain ⟨frames, sup, -, same⟩ := w.sup_pullBatch m now
          refine unchanged (.pullBatch m now) ?_
          rw [sup]
          exact same id
      | snapshot other => exact h
      | release other now =>
          have apart : id ≠ other := by
            rintro rfl
            exact of_decide_eq_false kept rfl
          simp only [World.step] at unchanged ⊢
          cases released : w.mux.release other now with
          | error e => exact h
          | ok mux =>
              rw [released] at unchanged
              refine unchanged (.release mux released) ?_
              have sup : World.sup { w with mux } = Supervisor.noteRelease _ _ _ := release_ok released
              show (World.sup { w with mux }).frames.snapshot id = _
              rw [sup]
              exact (FrameStore.snapshot_reset _ _ _).trans (if_neg apart)
      | produce m deed =>
          cases there : w.sup.links[m]? with
          | none =>
              rw [World.step, produce_of_unlinked there]
              exact h
          | some link =>
              refine unchanged (.produce there deed trivial) ?_
              rw [World.step, produce_of_link there]
              rfl
      | _ => cases supervises

/-- And so it does in the course of any run. -/
theorem run (h : Shelved id f n w) (l : List Action) (kept : ∀ a ∈ l, a.releases id = false) :
    Shelved id f n (w.run l) := by
  induction l generalizing w with
  | nil => exact h
  | cons a rest ih =>
      refine ih (h.step (kept a List.mem_cons_self)) ?_
      intro b among
      exact kept b (List.mem_cons_of_mem a among)

end Shelved

/-- Whatever a part does, what is newly cached has a new number. -/
theorem Part.onward {D : Nat → Deed → Prop} {w w' : World σ} (h : Part D w w') :
    w.sup.frames.Onward w'.sup.frames := by
  cases h with
  | @move id s move =>
      show w.sup.frames.Onward s.frames
      rcases move.frames_or_ended with same | ⟨emptied, -⟩
      · rw [same]
        exact .refl _
      · rw [emptied]
        exact .reset _ id
  | @add id source now s added =>
      obtain ⟨-, rfl⟩ := Supervisor.addWorker_ok added
      exact .of_snapshot (FrameStore.lastFid_addWorker _ _) (FrameStore.snapshot_addWorker _ _)
  | wait => exact .refl _
  | dispatch dispatched =>
      cases dispatched with
      | idle => exact .refl _
      | @drained _ _ _ _ _ s known current holds there drained frames rewired =>
          show w.sup.frames.Onward s.frames
          rw [frames]
          exact .refl _
  | receive received =>
      cases received with
      | skipped | noted => exact .refl _
      | @taken s rec n file link frame f dropped waits quiet took counted rewired filled =>
          show w.sup.frames.Onward s.frames
          rw [filled]
          exact .fill _ _ _ _ _ _
      | @missed s _ _ _ _ _ _ _ _ _ frames | @cut s _ _ _ _ _ _ _ _ _ _ _ frames =>
          show w.sup.frames.Onward s.frames
          rw [frames]
          exact .refl _
  | produce there d =>
      rw [produce_of_link there]
      exact .refl _
  | pullOne now =>
      obtain ⟨frames, sup, lastFid, same⟩ := w.sup_pullOne now
      rw [sup]
      exact .of_snapshot lastFid same
  | pullBatch m now =>
      obtain ⟨frames, sup, lastFid, same⟩ := w.sup_pullBatch m now
      rw [sup]
      exact .of_snapshot lastFid same
  | @release id now mux released =>
      have sup : World.sup { w with mux } = Supervisor.noteRelease _ _ _ := release_ok released
      rw [sup]
      exact .reset _ id

/-- **What is newly cached has a new number**, whatever the action. -/
theorem snapshot_step {w : World σ} (named : w.Named) (a : Action) :
    w.sup.frames.Onward (w.step a).sup.frames :=
  (parts_step (D := fun _ _ => True) named a fun _ _ _ => trivial).induction
    (I := fun w' => w.sup.frames.Onward w'.sup.frames)
    (fun _ _ onward part => onward.trans part.onward) (.refl _)

/-- Giving a frame back empties the cache of its worker and no other. -/
theorem snapshot_release (w : World σ) (id : WorkerId) (now : Instant) (other : WorkerId) :
    (w.step (.release id now)).sup.frames.snapshot other =
      if other = id then none else w.sup.frames.snapshot other := by
  simp only [World.step]
  cases released : w.mux.release id now with
  | ok mux =>
      have sup : World.sup { w with mux } = Supervisor.noteRelease _ _ _ := release_ok released
      show (World.sup { w with mux }).frames.snapshot other = _
      rw [sup]
      exact FrameStore.snapshot_reset _ _ _
  | error e =>
      -- A release is refused only if there is no cache.
      show w.sup.frames.snapshot other = _
      have unknown : w.sup.frames.entries.contains id = false := by
        unfold Mux.release FrameStore.release? at released
        split at released
        · next refused =>
            split at refused
            · cases refused
            · next unknown => exact eq_false_of_ne_true unknown
        · cases released
      split
      · next same =>
          have absent : w.sup.frames.entries.get? id = none :=
            Option.isNone_iff_eq_none.1 (Option.isSome_eq_false_iff.1 unknown)
          rw [same, FrameStore.snapshot, FrameStore.cached?, absent]
          rfl
      · rfl

/-! ### The tab -/

omit [ProcessManager σ] in
/-- Whether the frame that is cached for a worker is among those that were pulled. -/
def outstanding (w : World σ) (id : WorkerId) (pulled : List Nat) : Bool :=
  (w.sup.frames.snapshot id).any fun f => decide (f.sequence ∈ pulled)

omit [ProcessManager σ] in
/-- The numbers of the frames that were pulled from a worker, after an action. -/
def pulledBy (w : World σ) (id : WorkerId) (a : Action) (pulled : List Nat) : List Nat :=
  match if a.pulls then (w.handed a).find? fun f => f.worker = id else none with
  | some f => pulled.insert f.sequence
  | none => pulled

/-- What became of the frames of one worker that a consumer pulled: their numbers, how often it gave
a frame back, how often what it gave back was not there, and how many were taken away from it. -/
structure Tab where
  pulled : List Nat
  released : Nat
  astray : Nat
  lost : Nat
deriving DecidableEq, Repr

namespace Tab

/-- Nothing was pulled yet. -/
def blank : Tab := ⟨[], 0, 0, 0⟩

/-- The tab after an action.  A release goes astray if no pulled frame is cached; if one is, and some
other action takes it away, it is lost. -/
def note (id : WorkerId) (w : World σ) (a : Action) (t : Tab) : Tab :=
  if a.releases id then
    { t with released := t.released + 1, astray := t.astray + (!w.outstanding id t.pulled).toNat }
  else
    let pulled := w.pulledBy id a t.pulled
    { t with
      pulled
      lost := t.lost + (w.outstanding id pulled && !(w.step a).outstanding id pulled).toNat }

/-- The tab after some actions. -/
def along (id : WorkerId) (w : World σ) : List Action → Tab → Tab
  | [], t => t
  | a :: rest, t => along id (w.step a) rest (t.note id w a)

theorem along_append (id : WorkerId) (w : World σ) (l l' : List Action) (t : Tab) :
    along id w (l ++ l') t = along id (w.run l) l' (along id w l t) := by
  induction l generalizing w t with
  | nil => rfl
  | cons a rest ih => exact ih (w.step a) (t.note id w a)

end Tab

omit [ProcessManager σ] in
/-- What is pulled from a worker is what is cached for it. -/
theorem pulledBy_cases (w : World σ) (id : WorkerId) (a : Action) (pulled : List Nat) :
    w.pulledBy id a pulled = pulled ∨ ∃ f, w.sup.frames.snapshot id = some f ∧
      w.pulledBy id a pulled = pulled.insert f.sequence := by
  unfold pulledBy
  split
  · next f found =>
      split at found
      · have ours : f.worker = id := by simpa using List.find?_some found
        have cached := snapshot_of_mem_handed (List.mem_of_find?_eq_some found)
        exact Or.inr ⟨f, ours ▸ cached, rfl⟩
      · cases found
  · exact Or.inl rfl

omit [ProcessManager σ] in
/-- A frame that is pulled for the first time is outstanding from then on. -/
theorem length_pulledBy (w : World σ) (id : WorkerId) (a : Action) (pulled : List Nat) :
    (w.pulledBy id a pulled).length + (w.outstanding id pulled).toNat =
      pulled.length + (w.outstanding id (w.pulledBy id a pulled)).toNat := by
  rcases w.pulledBy_cases id a pulled with same | ⟨f, cached, new⟩
  · rw [same]
  · rw [new, outstanding, outstanding, cached, Option.any_some, Option.any_some]
    by_cases known : f.sequence ∈ pulled
    · rw [List.insert_of_mem known]
    · rw [List.length_insert_of_not_mem known]
      simp [known]

/-! ### The balance -/

/-- Every frame that was pulled was given back, or lost, or is there; and none has a number that is yet
to be given. -/
structure Tab.Balanced (id : WorkerId) (w : World σ) (t : Tab) : Prop where
  even : t.pulled.length + t.astray = t.released + t.lost + (w.outstanding id t.pulled).toNat
  known : ∀ k ∈ t.pulled, k ≤ w.sup.frames.lastFid

omit [ProcessManager σ] in
/-- A cached frame has a number that was given. -/
theorem Delivered.sequence_le {w : World σ} (h : w.Delivered) {id : WorkerId} {f : Frame}
    (shown : w.sup.frames.snapshot id = some f) : f.sequence ≤ w.sup.frames.lastFid := by
  obtain ⟨positive, r, there, -⟩ := h.cached id f shown
  have below := (List.getElem?_eq_some_iff.1 there).1
  have counted := h.counted
  omega

namespace Tab.Balanced

variable {id : WorkerId} {w : World σ} {t : Tab}

omit [ProcessManager σ] in
theorem blank (id : WorkerId) (w : World σ) : Balanced id w .blank where
  even := by
    have nothing : w.outstanding id [] = false := by
      unfold outstanding
      cases w.sup.frames.snapshot id <;> rfl
    show 0 + 0 = 0 + 0 + (w.outstanding id []).toNat
    rw [nothing]
    rfl
  known := by
    intro k among
    cases among

omit [ProcessManager σ] in
/-- What is pulled has a number that was given. -/
theorem known_pulledBy (h : Balanced id w t) (delivered : w.Delivered) (a : Action) :
    ∀ k ∈ w.pulledBy id a t.pulled, k ≤ w.sup.frames.lastFid := by
  intro k among
  rcases w.pulledBy_cases id a t.pulled with same | ⟨f, cached, new⟩
  · rw [same] at among
    exact h.known k among
  · rw [new, List.mem_insert_iff] at among
    rcases among with rfl | among
    · exact delivered.sequence_le cached
    · exact h.known k among

/-- **Every action keeps the tab balanced.** -/
theorem note (h : Balanced id w t) (named : w.Named) (delivered : w.Delivered) (a : Action) :
    Balanced id (w.step a) (t.note id w a) := by
  have onward := snapshot_step named a
  have even := h.even
  unfold Tab.note
  split
  · next releases =>
      refine ⟨?_, fun k among => Nat.le_trans (h.known k among) onward.lastFid⟩
      have gone : (w.step a).outstanding id t.pulled = false := by
        cases a with
        | release other now =>
            obtain rfl : other = id := of_decide_eq_true releases
            rw [outstanding, snapshot_release, if_pos rfl]
            rfl
        | _ => cases releases
      show t.pulled.length + (t.astray + _) = t.released + 1 + t.lost + _
      rw [gone]
      cases there : w.outstanding id t.pulled <;> simp [there] at even ⊢ <;> omega
  · have known := h.known_pulledBy delivered a
    have length := w.length_pulledBy id a t.pulled
    generalize w.pulledBy id a t.pulled = pulled at known length
    refine ⟨?_, fun k among => Nat.le_trans (known k among) onward.lastFid⟩
    -- A frame with a number that was given is not newly cached.
    have stayed : (w.step a).outstanding id pulled = true → w.outstanding id pulled = true := by
      intro there
      obtain ⟨f, shown, among⟩ := (Option.any_eq_true _ _).1 there
      rcases onward.fresh id f shown with before | new
      · exact (Option.any_eq_true _ _).2 ⟨f, before, among⟩
      · have old := known f.sequence (of_decide_eq_true among)
        omega
    show pulled.length + t.astray = t.released + (t.lost + _) + _
    cases after : (w.step a).outstanding id pulled
    · cases before : w.outstanding id pulled <;> simp [before] at length ⊢ <;> omega
    · have before := stayed after
      simp [before] at length ⊢
      omega

/-- The tab of a run is balanced. -/
theorem along (id : WorkerId) (manager : σ) (config : Config) (began : Instant) (l : List Action) :
    Balanced id ((start manager config began).run l)
      (Tab.along id (start manager config began) l .blank) := by
  induction l using List.reverseRecOn with
  | nil => exact blank id _
  | append_singleton l a ih =>
      rw [run_append, Tab.along_append]
      exact ih.note (named_run manager config began l) (delivered_run manager config began l).2 a

omit [ProcessManager σ] in
/-- Of the releases that are due, one meets a frame that was not pulled exactly if a frame was lost
that no release went astray for. -/
theorem due_iff (h : Balanced id w t) {f : Frame} (cached : w.sup.frames.snapshot id = some f)
    (unseen : f.sequence ∉ t.pulled) : t.released < t.pulled.length ↔ t.astray < t.lost := by
  have even := h.even
  rw [outstanding, cached, Option.any_some, decide_eq_false unseen, Bool.toNat_false] at even
  omega

omit [ProcessManager σ] in
/-- As long as nothing was lost, a release that is due meets a frame that was pulled. -/
theorem there_of_due (h : Balanced id w t) (kept : t.lost = 0)
    (due : t.released < t.pulled.length) :
    ∃ f, w.sup.frames.snapshot id = some f ∧ f.sequence ∈ t.pulled := by
  have even := h.even
  have there : w.outstanding id t.pulled = true := by
    cases there : w.outstanding id t.pulled
    · rw [there, kept, Bool.toNat_false] at even
      omega
    · rfl
  obtain ⟨f, cached, among⟩ := (Option.any_eq_true _ _).1 there
  exact ⟨f, cached, of_decide_eq_true among⟩

end Tab.Balanced

/-! ### What is given back -/

/-- **A frame that was pulled is there when it is given back** exactly if its worker still serves the
link that it came over. -/
theorem cached_iff_serves {w : World σ} (named : w.Named) (linked : w.Linked)
    (delivered : w.Delivered) {id : WorkerId} {f : Frame}
    (shown : w.sup.frames.snapshot id = some f) {r : Receipt}
    (there : w.stored[f.sequence - 1]? = some r) {l : List Action}
    (kept : ∀ a ∈ l, a.releases id = false) :
    (w.run l).sup.frames.snapshot id = some f ↔ (w.run l).sup.Serves id r.link := by
  have later := later_run named linked delivered l
  have parts := parts_run (D := fun _ _ => True) named l fun _ _ _ => trivial
  have old : r.link < w.ledgers.length := by
    obtain ⟨g, opened, -⟩ := delivered.genuine r (List.mem_of_getElem? there)
    exact (List.getElem?_eq_some_iff.1 opened).1
  have shelved : Shelved id f r.link (w.run l) :=
    Shelved.run ⟨named, linked, delivered, old, Or.inl shown⟩ l kept
  constructor
  · intro shown'
    obtain ⟨-, r', there', -, -, serves⟩ := shelved.delivered.cached id f shown'
    -- The receipt is still the same.
    obtain ⟨new, stored⟩ := later.stored
    rw [← stored, List.getElem?_append_left (List.getElem?_eq_some_iff.1 there).1, there] at there'
    cases there'
    exact serves
  · intro serves
    exact shelved.stays.resolve_right fun gone => gone serves

/-- **A release discards an unseen frame exactly if a pulled one was lost.**  In every run, whatever
happens between the pulls and the releases, what was pulled from a worker was given back, or lost, or
is there.  So if a frame that was never pulled is cached, then a release is due exactly if more pulled
frames were lost than releases went astray; and as long as none was lost, a release that is due meets
a frame that was pulled.  A release empties the cache of its worker, whichever frame is in it.  A
frame that is pulled stays cached until it is given back, as long as its worker serves the link that
it came over, and no longer. -/
theorem unseen_discarded_iff_lost (manager : σ) (config : Config) (began : Instant) (l : List Action)
    {w : World σ} (reached : (start manager config began).run l = w) (id : WorkerId) {t : Tab}
    (kept : Tab.along id (start manager config began) l .blank = t) :
    t.pulled.length + t.astray = t.released + t.lost + (w.outstanding id t.pulled).toNat ∧
    (∀ f, w.sup.frames.snapshot id = some f → f.sequence ∉ t.pulled →
      (t.released < t.pulled.length ↔ t.astray < t.lost)) ∧
    (t.lost = 0 → t.released < t.pulled.length →
      ∃ f, w.sup.frames.snapshot id = some f ∧ f.sequence ∈ t.pulled) ∧
    (∀ now other, (w.step (.release id now)).sup.frames.snapshot other =
      if other = id then none else w.sup.frames.snapshot other) ∧
    ∀ a, ∀ f ∈ w.handed a, f.worker = id → ∃ r, w.stored[f.sequence - 1]? = some r ∧
      ∀ l', (∀ b ∈ a :: l', b.releases id = false) →
        ((w.run (a :: l')).sup.frames.snapshot id = some f ↔
          (w.run (a :: l')).sup.Serves id r.link) := by
  have balanced := Tab.Balanced.along id manager config began l
  have named := named_run manager config began l
  obtain ⟨linked, delivered⟩ := delivered_run manager config began l
  rw [reached] at balanced named linked delivered
  rw [kept] at balanced
  refine ⟨balanced.even, fun f cached unseen => balanced.due_iff cached unseen,
    balanced.there_of_due, w.snapshot_release id, ?_⟩
  rintro a f handed rfl
  have shown := snapshot_of_mem_handed handed
  obtain ⟨-, r, there, -⟩ := delivered.cached f.worker f shown
  exact ⟨r, there, fun l' kept => cached_iff_serves named linked delivered shown there kept⟩

/-! ### A frame that nobody saw -/

/-- An instant after the cool-down of what was buried at the second instant. -/
def afterCooldown (nanos : Nat) : Instant := ⟨20 * Duration.nanosPerSecond + nanos⟩

/-- A worker's frame is pulled, its pipeline exits, and it is torn down; its next process, which is
started after the cool-down, publishes a frame as well. -/
def succession : List Action :=
  [.addWorker ⟨1⟩ "cam" ⟨0⟩, .tick ⟨0⟩, .produce 0 (.offer .linux 4), .wait, .dispatch ⟨⟨1⟩, 1⟩ .linux,
    .produce 0 (.publish ⟨[1, 1, 1, 1], 1, 1⟩), .wait, .dispatch ⟨⟨1⟩, 1⟩ .linux, .readFrames ⟨1⟩,
    .pullOne ⟨1⟩, .produce 0 (.announce (.ofEvent .pipelineExited)), .wait, .dispatch ⟨⟨1⟩, 1⟩ .linux,
    .tick ⟨2⟩, .tick (afterCooldown 2), .produce 1 (.offer .linux 4), .wait, .dispatch ⟨⟨1⟩, 2⟩ .linux,
    .produce 1 (.publish ⟨[2, 2, 2, 2], 1, 1⟩), .wait, .dispatch ⟨⟨1⟩, 2⟩ .linux,
    .readFrames (afterCooldown 3)]

/-- The world before the succession, with two processes to start. -/
def unborn : World ScriptedManager :=
  start ⟨[.starts none [.ofEvent .childStarted], .starts none [.ofEvent .childStarted]], [], [], 0,
    []⟩ .defaults ⟨0⟩

/-- The world after the succession. -/
def succeeded : World ScriptedManager := unborn.run succession

/-- The tab of its consumer, who pulled one frame and gave none back yet. -/
def successionTab : Tab := Tab.along ⟨1⟩ unborn succession .blank

/-- The pulled frame is lost, and the release that is due for it meets another frame. -/
theorem unseen_discarded_iff_lost_rehearsed :
    successionTab.released < successionTab.pulled.length ∧ successionTab.astray < successionTab.lost ∧
    succeeded.sup.frames.snapshot ⟨1⟩ = some ⟨⟨1⟩, 1, 1, 2, [2, 2, 2, 2]⟩ ∧
    2 ∉ successionTab.pulled ∧
    (succeeded.step (.release ⟨1⟩ (afterCooldown 4))).sup.frames.snapshot ⟨1⟩ = none := by
  obtain ⟨-, due, -, released, -⟩ := unseen_discarded_iff_lost (σ := ScriptedManager) _ _ _ succession
    (w := succeeded) rfl ⟨1⟩ (t := successionTab) rfl
  have unseen : 2 ∉ successionTab.pulled := by decide
  have lost : successionTab.astray < successionTab.lost := by decide
  exact ⟨(due ⟨⟨1⟩, 1, 1, 2, [2, 2, 2, 2]⟩ rfl unseen).2 lost, lost, rfl, unseen,
    released (afterCooldown 4) ⟨1⟩⟩

/-- The consumer pulled the first frame, and gives a frame back for the first time: discarded is the
second frame, which would have been pulled next. -/
theorem release_discards_unseen :
    successionTab = ⟨[1], 0, 0, 1⟩ ∧
    (succeeded.sup.frames.snapshot ⟨1⟩).map (·.sequence) = some 2 ∧
    (succeeded.handed (.pullOne (afterCooldown 4))).map (·.sequence) = [2] ∧
    (succeeded.step (.release ⟨1⟩ (afterCooldown 4))).sup.frames.snapshot ⟨1⟩ = none ∧
    (succeeded.step (.release ⟨1⟩ (afterCooldown 4))).handed (.pullOne (afterCooldown 5)) = [] :=
  ⟨rfl, rfl, rfl, rfl, rfl⟩

end World

end FrameMux
