/-
**What is cached.**

A frame that a consumer gets is one that a cache holds: pulling chooses among the caches, and neither
ages nor marks touch what is in them.  This module says what each operation does to the cached
frames, the one that a snapshot shows, and that nothing else is ever handed out.

Main results:

* `FrameMux.FrameStore.snapshot_fill`, `snapshot_reset`, `snapshot_addWorker` — what the operations
  do to the cached frames;
* `FrameMux.FrameStore.snapshot_of_pullOne`, `snapshot_of_pullBatch` — **a frame that is pulled is
  cached**;
* `FrameMux.FrameStore.snapshot_pullOne`, `snapshot_pullBatch` — and stays so.
-/

import FrameMux.Frame.Store

set_option relaxedAutoImplicit false
set_option autoImplicit false

namespace FrameMux

/-! ### Rosters -/

/-- In a sorted list the first record of a worker is its only one. -/
theorem lookupIn_of_mem {α : Type} {l : List (WorkerId × α)}
    (sorted : l.Pairwise fun p q => p.1 < q.1) {p : WorkerId × α} (h : p ∈ l) :
    lookupIn p.1 l = some p.2 := by
  induction l with
  | nil => cases h
  | cons head rest ih =>
      obtain ⟨least, sorted⟩ := List.pairwise_cons.1 sorted
      rcases List.mem_cons.1 h with rfl | h
      · simp only [lookupIn, if_true]
      · have ne : ¬ head.1 = p.1 := WorkerId.ne_of_lt (least p h)
        simp only [lookupIn, if_neg ne]
        exact ih sorted h

/-- A record that is found is listed. -/
theorem mem_of_lookupIn {α : Type} {id : WorkerId} {a : α} {l : List (WorkerId × α)}
    (h : lookupIn id l = some a) : (id, a) ∈ l := by
  induction l with
  | nil => cases h
  | cons head rest ih =>
      obtain ⟨key, b⟩ := head
      simp only [lookupIn] at h
      split at h
      · next same =>
          cases h
          cases same
          exact List.mem_cons_self
      · exact List.mem_cons_of_mem _ (ih h)

/-- A listed record is the one of its worker. -/
theorem Roster.get?_of_mem {α : Type} (r : Roster α) {p : WorkerId × α} (h : p ∈ r.entries) :
    r.get? p.1 = some p.2 :=
  lookupIn_of_mem r.sorted h

namespace FrameStore

variable {s : FrameStore}

/-- A snapshot bears the name of its worker. -/
theorem worker_of_snapshot {id : WorkerId} {f : Frame} (h : s.snapshot id = some f) :
    f.worker = id := by
  obtain ⟨e, -, shown⟩ := Option.bind_eq_some_iff.1 h
  obtain ⟨data, -, rfl⟩ := Option.map_eq_some_iff.1 shown
  rfl

/-- Changes of records that leave the frames alone do not show. -/
theorem snapshot_mapIdx {f : WorkerId → CachedFrame → CachedFrame}
    (same : ∀ id e, (f id e).frame? id = e.frame? id) (s : FrameStore) (id : WorkerId) :
    snapshot { s with entries := s.entries.mapIdx f } id = s.snapshot id := by
  simp only [snapshot, cached?, Roster.get?_mapIdx]
  cases s.entries.get? id with
  | none => rfl
  | some e => exact same id e

/-! ### Changes of the caches -/

/-- A cache that is filled shows the new frame. -/
theorem snapshot_fill (s : FrameStore) (id other : WorkerId) (data : Bytes) (width height : UInt32)
    (now : Instant) :
    (s.fill id data width height now).snapshot other =
      if id = other then some ⟨id, width, height, s.lastFid + 1, data⟩ else s.snapshot other := by
  simp only [snapshot, cached?_fill]
  split
  · next same =>
      subst same
      rfl
  · rfl

/-- A cache that is given back shows nothing. -/
theorem snapshot_reset (s : FrameStore) (id other : WorkerId) :
    (s.reset id).snapshot other = if other = id then none else s.snapshot other := by
  simp only [snapshot, cached?_reset]
  split
  · cases s.cached? other <;> rfl
  · rfl

/-- A new cache is vacant, and one that is there already stays. -/
theorem cached?_addWorker (s : FrameStore) (id other : WorkerId) :
    (s.addWorker id).cached? other =
      if id = other then some ((s.cached? id).getD .vacant) else s.cached? other := by
  have known : s.entries.contains id = (s.cached? id).isSome := rfl
  unfold addWorker
  rw [known]
  cases cached : s.cached? id with
  | none => exact s.entries.get?_insert id other .vacant
  | some e =>
      rw [Option.isSome_some, if_pos rfl]
      split
      · next same => exact same ▸ cached
      · rfl

/-- A new cache shows nothing. -/
theorem snapshot_addWorker (s : FrameStore) (id other : WorkerId) :
    (s.addWorker id).snapshot other = s.snapshot other := by
  simp only [snapshot, cached?_addWorker]
  split
  · next same =>
      subst same
      cases s.cached? id <;> rfl
  · rfl

@[simp] theorem lastFid_addWorker (s : FrameStore) (id : WorkerId) :
    (s.addWorker id).lastFid = s.lastFid := by
  unfold addWorker
  split
  · rfl
  · rfl

/-! ### Pulling -/

/-- A candidate is cached. -/
theorem snapshot_of_mem_candidates {p : WorkerId × CachedFrame} (h : p ∈ s.candidates) :
    s.snapshot p.1 = p.2.frame? p.1 := by
  have known : s.cached? p.1 = some p.2 := s.entries.get?_of_mem (List.mem_filter.1 h).1
  rw [snapshot, known]
  rfl

/-- The most neglected candidate is one of them. -/
theorem mem_of_mostNeglected? {l : List (WorkerId × CachedFrame)} {p : WorkerId × CachedFrame}
    (h : mostNeglected? l = some p) : p ∈ l := by
  induction l with
  | nil => cases h
  | cons first rest ih =>
      unfold mostNeglected? at h
      cases found : mostNeglected? rest with
      | none =>
          rw [found] at h
          cases h
          exact List.mem_cons_self
      | some q =>
          simp only [found] at h ih
          split at h
          · exact List.mem_cons_of_mem _ (ih h)
          · cases h
            exact List.mem_cons_self

/-- **A frame that is pulled is cached.** -/
theorem snapshot_of_pullOne {f : Frame} (h : s.pullOne.1 = some f) :
    s.snapshot f.worker = some f := by
  unfold pullOne at h
  split at h
  · cases h
  · next id e chosen =>
      have cached := snapshot_of_mem_candidates (mem_of_mostNeglected? chosen)
      have shown : s.snapshot id = some f := cached.trans h
      rw [worker_of_snapshot shown, shown]

/-- So is every frame of a batch. -/
theorem snapshot_of_pullBatch {n : Nat} {l : List Frame} (h : (s.pullBatch n).1 = some l) {f : Frame}
    (hf : f ∈ l) : s.snapshot f.worker = some f := by
  unfold pullBatch at h
  split at h
  · cases h
  · cases h
    obtain ⟨p, chosen, shown⟩ := List.mem_filterMap.1 hf
    have candidate : p ∈ s.candidates := List.mem_mergeSort.1 (List.mem_of_mem_take chosen)
    have cached : s.snapshot p.1 = some f := (snapshot_of_mem_candidates candidate).trans shown
    rw [worker_of_snapshot cached, cached]

/-- Pulling a frame leaves it cached. -/
theorem snapshot_pullOne (s : FrameStore) (id : WorkerId) :
    s.pullOne.2.snapshot id = s.snapshot id := by
  unfold pullOne
  split
  · rfl
  · refine snapshot_mapIdx ?_ s id
    intro id e
    unfold ageAfterPull
    split
    · rfl
    · rfl

/-- So does pulling a batch. -/
theorem snapshot_pullBatch (s : FrameStore) (n : Nat) (id : WorkerId) :
    (s.pullBatch n).2.snapshot id = s.snapshot id := by
  unfold pullBatch
  split
  · rfl
  · refine snapshot_mapIdx ?_ s id
    intro id e
    split
    · rfl
    · rfl

@[simp] theorem lastFid_pullOne (s : FrameStore) : s.pullOne.2.lastFid = s.lastFid := by
  unfold pullOne
  split
  · rfl
  · rfl

@[simp] theorem lastFid_pullBatch (s : FrameStore) (n : Nat) :
    (s.pullBatch n).2.lastFid = s.lastFid := by
  unfold pullBatch
  split
  · rfl
  · rfl

end FrameStore

end FrameMux
