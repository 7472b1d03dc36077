/-
**Batches in order.**

A batch takes as many frames as were asked for, the oldest first, or none.  That it has the right length
rests on every candidate holding a frame, and that its frames are in a strict order on their numbers
being different.  Between two batches caches are filled, given back, reset and read one by one; this
module says that all the batches that a store ever hands out are in one order nevertheless.

Main definitions:

* `FrameMux.FrameStore.ranked` — the candidates by their numbers;
* `FrameMux.FrameStore.foremost` — the frames that a batch would take;
* `FrameMux.FrameStore.batched` — the frames of all batches of some requests, one after another;
* `FrameMux.FrameStore.Above` — what waits, and what is yet to come, has a number greater than a given
  one.

Main results:

* `FrameMux.FrameStore.pairwise_ranked` — no two candidates have the same rank;
* `FrameMux.FrameStore.pullBatch_fst_eq` — **what a batch is**, if there is one;
* `FrameMux.FrameStore.lt_of_notMem_foremost` — what is left is newer;
* `FrameMux.FrameStore.Above.step`, `FrameMux.FrameStore.above_of_mem_batch` — no request goes below
  the frames of a batch again;
* `FrameMux.FrameStore.batches_ordered` — **a batch is all or nothing, the oldest first**, and all
  batches are in one order.
-/

import FrameMux.Proofs.Frame.Candidates

set_option relaxedAutoImplicit false
set_option autoImplicit false

namespace FrameMux

namespace FrameStore

variable {s : FrameStore} {k n : Nat} {f : Frame} {r : Request}

/-! ### Ranks -/

/-- The candidates, the oldest first. -/
def ranked (s : FrameStore) : List (WorkerId × CachedFrame) :=
  s.candidates.mergeSort fun p q => p.2.fid ≤ q.2.fid

theorem mem_ranked_iff {p : WorkerId × CachedFrame} : p ∈ s.ranked ↔ p ∈ s.candidates :=
  List.mem_mergeSort

theorem length_ranked (s : FrameStore) : s.ranked.length = s.readyCount := List.length_mergeSort _

/-- No worker is ranked twice. -/
theorem nodup_ranked (s : FrameStore) : (s.ranked.map Prod.fst).Nodup := by
  have listed : (s.candidates.map Prod.fst).Nodup :=
    s.entries.nodup_ids.sublist (List.filter_sublist.map Prod.fst)
  exact ((List.mergeSort_perm _ _).map Prod.fst).nodup_iff.2 listed

/-- **No two candidates have the same rank**: their numbers differ. -/
theorem pairwise_ranked (h : s.Coherent) : s.ranked.Pairwise fun p q => p.2.fid < q.2.fid := by
  have sorted : s.ranked.Pairwise fun p q => decide (p.2.fid ≤ q.2.fid) = true := by
    refine List.pairwise_mergeSort ?_ ?_ s.candidates
    · intro a b c below above
      exact decide_eq_true (Nat.le_trans (of_decide_eq_true below) (of_decide_eq_true above))
    · intro a b
      rw [Bool.or_eq_true, decide_eq_true_iff, decide_eq_true_iff]
      exact Nat.le_total _ _
  have different : s.ranked.Pairwise fun p q => p.1 ≠ q.1 := List.pairwise_map.1 s.nodup_ranked
  refine (sorted.and different).imp_of_mem ?_
  rintro p q first second ⟨below, ne⟩
  obtain ⟨held, waits⟩ := mem_candidates_iff.1 (mem_ranked_iff.1 first)
  obtain ⟨held', -⟩ := mem_candidates_iff.1 (mem_ranked_iff.1 second)
  have ready : p.2.ready = true := (Bool.and_eq_true_iff.1 waits).1
  have apart : p.2.fid ≠ q.2.fid := fun same =>
    ne (h.apart p.1 q.1 p.2 q.2 held held' ((h.each p.1 p.2 held).numbered ready) same)
  exact Nat.lt_of_le_of_ne (of_decide_eq_true below) apart

/-! ### One batch -/

/-- A candidate holds a frame, which bears its worker's name and its number. -/
theorem frame?_of_mem_candidates (h : s.Coherent) {p : WorkerId × CachedFrame}
    (among : p ∈ s.candidates) :
    ∃ f, p.2.frame? p.1 = some f ∧ f.worker = p.1 ∧ f.sequence = p.2.fid := by
  obtain ⟨held, waits⟩ := mem_candidates_iff.1 among
  obtain ⟨f, holds⟩ := Option.isSome_iff_exists.1 ((h.each p.1 p.2 held).frame?_of_candidate waits p.1)
  refine ⟨f, holds, ?_⟩
  obtain ⟨data, -, rfl⟩ := Option.map_eq_some_iff.1 holds
  exact ⟨rfl, rfl⟩

/-- The frames that a batch would take. -/
def foremost (s : FrameStore) (n : Nat) : List Frame :=
  (s.oldest n).filterMap fun p => p.2.frame? p.1

theorem mem_candidates_of_mem_oldest {p : WorkerId × CachedFrame} (h : p ∈ s.oldest n) :
    p ∈ s.candidates :=
  mem_ranked_iff.1 (List.mem_of_mem_take h)

theorem mem_foremost_iff : f ∈ s.foremost n ↔ ∃ p ∈ s.oldest n, p.2.frame? p.1 = some f :=
  List.mem_filterMap

/-- As many as were asked for, if there are as many. -/
theorem length_foremost (h : s.Coherent) (enough : n ≤ s.readyCount) : (s.foremost n).length = n := by
  have all : (s.foremost n).length = (s.oldest n).length := by
    refine List.filterMap_length_eq_length.2 ?_
    intro p among
    obtain ⟨f, holds, -⟩ := frame?_of_mem_candidates h (mem_candidates_of_mem_oldest among)
    rw [holds]
    rfl
  have taken : (s.oldest n).length = n := List.length_take_of_le (s.length_ranked ▸ enough)
  rw [all, taken]

/-- The workers of the frames are the ones chosen. -/
theorem workers_foremost (h : s.Coherent) (n : Nat) :
    (s.foremost n).map (·.worker) = (s.oldest n).map Prod.fst := by
  have named : (s.foremost n).map (·.worker) =
      (s.oldest n).filterMap fun p => (p.2.frame? p.1).map (·.worker) := List.map_filterMap
  rw [named, ← List.filterMap_eq_map]
  refine List.filterMap_congr ?_
  intro p among
  obtain ⟨f, holds, worker, -⟩ := frame?_of_mem_candidates h (mem_candidates_of_mem_oldest among)
  rw [holds, Option.map_some, worker]
  rfl

theorem nodup_workers_foremost (h : s.Coherent) (n : Nat) : ((s.foremost n).map (·.worker)).Nodup := by
  rw [workers_foremost h]
  exact s.nodup_ranked.sublist ((List.take_sublist n _).map Prod.fst)

/-- They are in order. -/
theorem pairwise_foremost (h : s.Coherent) (n : Nat) :
    (s.foremost n).Pairwise (·.sequence < ·.sequence) := by
  have order : (s.oldest n).Pairwise fun p q => p.2.fid < q.2.fid :=
    (pairwise_ranked h).sublist (List.take_sublist n _)
  refine List.pairwise_filterMap.2 (order.imp ?_)
  rintro p q less f holds f' holds'
  obtain ⟨_, -, rfl⟩ := Option.map_eq_some_iff.1 holds
  obtain ⟨_, -, rfl⟩ := Option.map_eq_some_iff.1 holds'
  exact less

/-- They wait, each in the cache of its worker. -/
theorem cached_of_mem_foremost (h : f ∈ s.foremost n) :
    s.isWaiting f.worker = true ∧ s.snapshot f.worker = some f := by
  obtain ⟨p, among, holds⟩ := mem_foremost_iff.1 h
  have candidate := mem_candidates_of_mem_oldest among
  have shown := (snapshot_of_mem_candidates candidate).trans holds
  have worker := worker_of_snapshot shown
  exact ⟨isWaiting_iff.2 ⟨p.2, worker ▸ mem_candidates_iff.1 candidate⟩, worker ▸ shown⟩

/-- What waits and is not among them is newer than all of them. -/
theorem lt_of_notMem_foremost (h : s.Coherent) {id : WorkerId} {g : Frame}
    (waits : s.isWaiting id = true) (shown : s.snapshot id = some g) (left : g ∉ s.foremost n)
    (hf : f ∈ s.foremost n) : f.sequence < g.sequence := by
  obtain ⟨e, held, candidate⟩ := isWaiting_iff.1 waits
  have among : (id, e) ∈ s.candidates := mem_candidates_iff.2 ⟨held, candidate⟩
  have holds : e.frame? id = some g := (snapshot_of_mem_candidates among).symm.trans shown
  have rest : (id, e) ∈ s.ranked.drop n := by
    have ranked : (id, e) ∈ s.ranked := mem_ranked_iff.2 among
    rw [← List.take_append_drop n s.ranked] at ranked
    refine (List.mem_append.1 ranked).resolve_left ?_
    exact fun chosen => left (mem_foremost_iff.2 ⟨(id, e), chosen, holds⟩)
  obtain ⟨p, chosen, holds'⟩ := mem_foremost_iff.1 hf
  have order := pairwise_ranked h
  rw [← List.take_append_drop n s.ranked] at order
  have less := (List.pairwise_append.1 order).2.2 p chosen (id, e) rest
  obtain ⟨_, -, rfl⟩ := Option.map_eq_some_iff.1 holds
  obtain ⟨_, -, rfl⟩ := Option.map_eq_some_iff.1 holds'
  exact less

/-- **What a batch is**, if there is one. -/
theorem pullBatch_fst_eq (positive : 0 < n) (enough : n ≤ s.readyCount) :
    (s.pullBatch n).1 = some (s.foremost n) := by
  have granted : ¬ (n = 0 ∨ s.candidates.length < n) := by
    have count : s.readyCount = s.candidates.length := rfl
    omega
  unfold pullBatch
  rw [if_neg granted]
  rfl

/-- A batch marks the frames in it as read, and changes nothing else. -/
theorem cached?_pullBatch_of_le (h : s.Coherent) (positive : 0 < n) (enough : n ≤ s.readyCount)
    (id : WorkerId) :
    (s.pullBatch n).2.cached? id = (s.cached? id).map fun e =>
      if id ∈ (s.foremost n).map (·.worker) then { e with read := true } else e := by
  rw [cached?_pullBatch, if_neg (by omega), workers_foremost h]

/-! ### All batches -/

/-- The frames that a request takes in a batch. -/
def batch (s : FrameStore) : Request → List Frame
  | .pullBatch n => (s.pullBatch n).1.getD []
  | _ => []

/-- The frames of all the batches that some requests take, one after another. -/
def batched (s : FrameStore) : List Request → List Frame
  | [] => []
  | r :: l => s.batch r ++ (s.step r).batched l

/-- A frame of a batch is among the oldest, and the batch was granted. -/
theorem mem_batch_iff : f ∈ s.batch r ↔
    ∃ n, r = .pullBatch n ∧ 0 < n ∧ n ≤ s.readyCount ∧ f ∈ s.foremost n := by
  cases r with
  | pullBatch n =>
      by_cases granted : 0 < n ∧ n ≤ s.readyCount
      · obtain ⟨positive, enough⟩ := granted
        have taken : s.batch (.pullBatch n) = s.foremost n := by
          rw [batch, pullBatch_fst_eq positive enough]
          rfl
        rw [taken]
        constructor
        · exact fun among => ⟨n, rfl, positive, enough, among⟩
        · rintro ⟨_, same, -, -, among⟩
          cases same
          exact among
      · have refused : s.pullBatch n = (none, s) := by
          rcases Nat.eq_zero_or_pos n with rfl | positive
          · exact s.pullBatch_zero
          · exact pullBatch_of_lt (by omega)
        rw [batch, refused]
        constructor
        · exact fun among => absurd among List.not_mem_nil
        · rintro ⟨_, same, positive, enough, -⟩
          cases same
          exact absurd ⟨positive, enough⟩ granted
  | addWorker | fill | pullOne | release | reset | snapshot =>
      exact ⟨fun among => absurd among List.not_mem_nil, fun ⟨_, same, _⟩ => nomatch same⟩

theorem pairwise_batch (h : s.Coherent) (r : Request) :
    (s.batch r).Pairwise (·.sequence < ·.sequence) := by
  cases r with
  | pullBatch n =>
      by_cases granted : 0 < n ∧ n ≤ s.readyCount
      · rw [batch, pullBatch_fst_eq granted.1 granted.2]
        exact pairwise_foremost h n
      · have none : s.batch (.pullBatch n) = [] := by
          refine List.eq_nil_iff_forall_not_mem.2 ?_
          intro f among
          obtain ⟨_, same, positive, enough, -⟩ := mem_batch_iff.1 among
          cases same
          exact granted ⟨positive, enough⟩
        rw [none]
        exact List.Pairwise.nil
  | addWorker | fill | pullOne | release | reset | snapshot => exact List.Pairwise.nil

/-- Whatever waits has a number greater than the given one, and so will whatever is yet to be put in. -/
structure Above (s : FrameStore) (k : Nat) : Prop where
  last : k ≤ s.lastFid
  waiting : ∀ id e, s.cached? id = some e → e.isCandidate = true → k < e.fid

/-- **No request goes below.** -/
theorem Above.step (h : s.Above k) (r : Request) : (s.step r).Above k := by
  refine ⟨?_, ?_⟩
  · rw [lastFid_step]
    exact Nat.le_add_right_of_le h.last
  · intro id e cached waits
    rcases candidate_step cached waits with ⟨_, _, _, _, -, rfl⟩ | ⟨e₀, before, waited, rfl⟩
    · exact Nat.lt_succ_of_le h.last
    · rw [fid_aged]
      exact h.waiting id e₀ before waited

/-- Neither does a batch. -/
theorem Above.lt_of_mem_batch (h : s.Above k) (hf : f ∈ s.batch r) : k < f.sequence := by
  obtain ⟨n, -, -, -, among⟩ := mem_batch_iff.1 hf
  obtain ⟨p, chosen, holds⟩ := mem_foremost_iff.1 among
  obtain ⟨held, waits⟩ := mem_candidates_iff.1 (mem_candidates_of_mem_oldest chosen)
  obtain ⟨_, -, rfl⟩ := Option.map_eq_some_iff.1 holds
  exact h.waiting p.1 p.2 held waits

theorem Above.lt_of_mem_batched (h : s.Above k) {l : List Request} (hf : f ∈ s.batched l) :
    k < f.sequence := by
  induction l generalizing s with
  | nil => cases hf
  | cons r l ih =>
      rcases List.mem_append.1 hf with first | later
      · exact h.lt_of_mem_batch first
      · exact ih (h.step r) later

/-- **After a batch, whatever waits is newer** than the frames in it. -/
theorem above_of_mem_batch (h : s.Coherent) (hf : f ∈ s.batch r) : (s.step r).Above f.sequence := by
  obtain ⟨n, rfl, positive, enough, among⟩ := mem_batch_iff.1 hf
  refine ⟨?_, ?_⟩
  · have same : (s.step (.pullBatch n)).lastFid = s.lastFid := s.lastFid_pullBatch n
    obtain ⟨p, chosen, holds⟩ := mem_foremost_iff.1 among
    obtain ⟨held, -⟩ := mem_candidates_iff.1 (mem_candidates_of_mem_oldest chosen)
    obtain ⟨_, -, rfl⟩ := Option.map_eq_some_iff.1 holds
    rw [same]
    exact (h.each p.1 p.2 held).bounded
  · intro id e cached waits
    have after : (s.step (.pullBatch n)).cached? id = _ := cached?_pullBatch_of_le h positive enough id
    rw [cached] at after
    obtain ⟨e₀, before, same⟩ := Option.map_eq_some_iff.1 after.symm
    by_cases taken : id ∈ (s.foremost n).map (·.worker)
    · rw [if_pos taken] at same
      cases same
      simp [CachedFrame.isCandidate] at waits
    · rw [if_neg taken] at same
      cases same
      obtain ⟨g, holds, worker, number⟩ :=
        frame?_of_mem_candidates h (mem_candidates_iff.2 ⟨before, waits⟩ : (id, e) ∈ s.candidates)
      have shown : s.snapshot id = some g := by
        rw [snapshot, before]
        exact holds
      have left : g ∉ s.foremost n := fun inside => taken (List.mem_map.2 ⟨g, inside, worker⟩)
      have less := lt_of_notMem_foremost h (isWaiting_iff.2 ⟨e, before, waits⟩) shown left among
      exact number ▸ less

/-- **All the batches of a run are in one order.** -/
theorem pairwise_batched (h : s.Coherent) (l : List Request) :
    (s.batched l).Pairwise (·.sequence < ·.sequence) := by
  induction l generalizing s with
  | nil => exact List.Pairwise.nil
  | cons r l ih =>
      refine List.pairwise_append.2 ⟨pairwise_batch h r, ih (h.step r), ?_⟩
      intro f first g later
      exact (above_of_mem_batch h first).lt_of_mem_batched later

/-- **A batch is all or nothing, the oldest first, and all batches are in one order.**  If nothing is
asked for, or more than waits, there is no batch and nothing changes.  Otherwise there are as many
frames as were asked for, of different workers and in the order of their numbers; each is what its
worker's cache holds, those that are left are newer, and all that changes is that the frames of the
batch have been read.  And the batches that a store has ever handed out, one after another, bear greater
and greater numbers. -/
theorem batches_ordered (past : List Request) (k : Nat) :
    (k = 0 ∨ (empty.run past).readyCount < k →
      (empty.run past).pullBatch k = (none, empty.run past)) ∧
    (0 < k → k ≤ (empty.run past).readyCount →
      ∃ batch, ((empty.run past).pullBatch k).1 = some batch ∧
        batch.length = k ∧ (batch.map (·.worker)).Nodup ∧
        batch.Pairwise (·.sequence < ·.sequence) ∧
        (∀ f ∈ batch, (empty.run past).isWaiting f.worker = true ∧
          (empty.run past).snapshot f.worker = some f) ∧
        (∀ id g, (empty.run past).isWaiting id = true → (empty.run past).snapshot id = some g →
          g ∉ batch → ∀ f ∈ batch, f.sequence < g.sequence) ∧
        (∀ id, ((empty.run past).pullBatch k).2.cached? id =
          ((empty.run past).cached? id).map fun e =>
            if id ∈ batch.map (·.worker) then { e with read := true } else e) ∧
        ((empty.run past).pullBatch k).2.lastFid = (empty.run past).lastFid) ∧
    (empty.batched past).Pairwise (·.sequence < ·.sequence) := by
  have coherent : (empty.run past).Coherent := coherent_run coherent_empty past
  refine ⟨?_, ?_, pairwise_batched coherent_empty past⟩
  · rintro (rfl | few)
    · exact pullBatch_zero _
    · exact pullBatch_of_lt few
  · intro positive enough
    refine ⟨_, pullBatch_fst_eq positive enough, length_foremost coherent enough,
      nodup_workers_foremost coherent k, pairwise_foremost coherent k,
      fun f => cached_of_mem_foremost, ?_, cached?_pullBatch_of_le coherent positive enough,
      lastFid_pullBatch _ _⟩
    intro id g waits shown left f among
    exact lt_of_notMem_foremost coherent waits shown left among

/-- A rehearsal: of three frames two are taken, one is given back and filled again. -/
def harvest : List Request :=
  [.fill ⟨3⟩ [3] 1 1 ⟨0⟩, .fill ⟨1⟩ [1] 1 1 ⟨0⟩, .fill ⟨2⟩ [2] 1 1 ⟨0⟩, .pullBatch 2, .release ⟨3⟩,
    .fill ⟨3⟩ [4] 1 1 ⟨1⟩]

theorem batches_ordered_rehearsed :
    (empty.run harvest).readyCount = 2 ∧
    (empty.run harvest).pullBatch 3 = (none, empty.run harvest) ∧
    (∃ batch, ((empty.run harvest).pullBatch 2).1 = some batch ∧ batch.length = 2) ∧
    (empty.batched harvest).Pairwise (·.sequence < ·.sequence) := by
  have count : (empty.run harvest).readyCount = 2 := by cbv
  obtain ⟨refused, -, ordered⟩ := batches_ordered harvest 3
  obtain ⟨batch, taken, length, -⟩ := (batches_ordered harvest 2).2.1 (by decide) (by omega)
  exact ⟨count, refused (.inr (by omega)), ⟨batch, taken, length⟩, ordered⟩

end FrameStore

end FrameMux
