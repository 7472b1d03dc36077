/-
**Who waits.**

A frame waits from the request that puts it in until it is read, given back or replaced.  A pull prefers
the most neglected of the waiting frames and ages the others, a batch takes the oldest.  This module
says how the two choose, and where a frame that waits after a request was before.

Main definitions:

* `FrameMux.FrameStore.isWaiting` — whether a frame of a worker waits;
* `FrameMux.FrameStore.preferred?` — whose frame a pull gets;
* `FrameMux.FrameStore.aged` — what a request makes of a frame that goes on waiting.

Main results:

* `FrameMux.FrameStore.age_le_of_preferred?` — nobody is more neglected than the one preferred;
* `FrameMux.FrameStore.worker_pullOne` — a pull gets the frame of the one preferred;
* `FrameMux.FrameStore.cached?_pullOne`, `cached?_pullBatch` — what pulls do to the caches;
* `FrameMux.FrameStore.candidate_step` — **a frame that waits was just put in, or waited before**.
-/

import FrameMux.Proofs.Frame.Requests

set_option relaxedAutoImplicit false
set_option autoImplicit false

namespace FrameMux

/-- The pairs of a table are the workers with their records. -/
theorem Roster.mem_entries_iff {α : Type} (r : Roster α) (p : WorkerId × α) :
    p ∈ r.entries ↔ r.get? p.1 = some p.2 :=
  ⟨r.get?_of_mem, mem_of_lookupIn⟩

namespace FrameStore

variable {s : FrameStore} {id : WorkerId} {e : CachedFrame} {r : Request}

/-! ### Waiting -/

/-- Whether a frame of the worker waits to be taken. -/
def isWaiting (s : FrameStore) (id : WorkerId) : Bool := (s.cached? id).any CachedFrame.isCandidate

theorem isWaiting_iff : s.isWaiting id = true ↔ ∃ e, s.cached? id = some e ∧ e.isCandidate = true :=
  Option.any_eq_true _ _

/-- The candidates are the workers whose frames wait. -/
theorem mem_candidates_iff {p : WorkerId × CachedFrame} :
    p ∈ s.candidates ↔ s.cached? p.1 = some p.2 ∧ p.2.isCandidate = true := by
  have listed : p ∈ s.entries.entries ↔ s.cached? p.1 = some p.2 := s.entries.mem_entries_iff p
  rw [candidates, List.mem_filter, listed]

/-! ### Whom a pull prefers -/

/-- The worker whose frame a pull gets. -/
def preferred? (s : FrameStore) : Option WorkerId := (mostNeglected? s.candidates).map Prod.fst

/-- Somebody is preferred unless there is nobody. -/
theorem mostNeglected?_eq_none_iff {l : List (WorkerId × CachedFrame)} :
    mostNeglected? l = none ↔ l = [] := by
  cases l with
  | nil => simp [mostNeglected?]
  | cons p rest =>
      unfold mostNeglected?
      cases mostNeglected? rest with
      | none => simp
      | some q =>
          dsimp only
          split
          · simp
          · simp

/-- Nobody in a list is more neglected than the one preferred. -/
theorem age_le_of_mostNeglected? {l : List (WorkerId × CachedFrame)} {p q : WorkerId × CachedFrame}
    (h : mostNeglected? l = some p) (among : q ∈ l) : q.2.age ≤ p.2.age := by
  induction l generalizing p with
  | nil => cases among
  | cons first rest ih =>
      unfold mostNeglected? at h
      cases found : mostNeglected? rest with
      | none =>
          rw [found] at h
          cases h
          cases mostNeglected?_eq_none_iff.1 found
          cases List.mem_singleton.1 among
          exact Nat.le_refl _
      | some best =>
          simp only [found] at h
          have least := ih found
          split at h
          · next less =>
              cases h
              rcases List.mem_cons.1 among with rfl | among
              · exact Nat.le_of_lt less
              · exact least among
          · next notLess =>
              cases h
              rcases List.mem_cons.1 among with rfl | among
              · exact Nat.le_refl _
              · exact Nat.le_trans (least among) (Nat.not_lt.1 notLess)

/-- As long as a frame waits, somebody is preferred. -/
theorem isSome_preferred? (waits : s.isWaiting id = true) : s.preferred?.isSome = true := by
  obtain ⟨e, cached, candidate⟩ := isWaiting_iff.1 waits
  have among : (id, e) ∈ s.candidates := mem_candidates_iff.2 ⟨cached, candidate⟩
  cases found : mostNeglected? s.candidates with
  | none =>
      rw [mostNeglected?_eq_none_iff.1 found] at among
      cases among
  | some p =>
      rw [preferred?, found]
      rfl

/-- The frame of the one preferred waits. -/
theorem isWaiting_of_preferred? (h : s.preferred? = some id) : s.isWaiting id = true := by
  obtain ⟨⟨_, e⟩, found, rfl⟩ := Option.map_eq_some_iff.1 h
  exact isWaiting_iff.2 ⟨e, mem_candidates_iff.1 (mem_of_mostNeglected? found)⟩

/-- **Nobody who waits is more neglected than the one preferred.** -/
theorem age_le_of_preferred? {chosen : WorkerId} {f : CachedFrame} (h : s.preferred? = some chosen)
    (held : s.cached? chosen = some f) (cached : s.cached? id = some e)
    (waits : e.isCandidate = true) : e.age ≤ f.age := by
  obtain ⟨⟨chosen, f'⟩, found, rfl⟩ := Option.map_eq_some_iff.1 h
  have same : s.cached? chosen = some f' := (mem_candidates_iff.1 (mem_of_mostNeglected? found)).1
  rw [held] at same
  cases same
  have among : (id, e) ∈ s.candidates := mem_candidates_iff.2 ⟨cached, waits⟩
  exact age_le_of_mostNeglected? found among

/-- A pull gets the frame of the one preferred, and nothing if there is none. -/
theorem worker_pullOne (h : s.Coherent) : s.pullOne.1.map (·.worker) = s.preferred? := by
  unfold pullOne preferred?
  cases found : mostNeglected? s.candidates with
  | none => rfl
  | some p =>
      obtain ⟨id, e⟩ := p
      obtain ⟨cached, waits⟩ := mem_candidates_iff.1 (mem_of_mostNeglected? found)
      obtain ⟨f, holds⟩ := Option.isSome_iff_exists.1 ((h.each id e cached).frame?_of_candidate waits id)
      obtain ⟨data, -, rfl⟩ := Option.map_eq_some_iff.1 holds
      simp only [holds, Option.map_some]

/-! ### What pulls do to the caches -/

/-- What a request makes of a frame that goes on waiting: a pull ages it, unless it gets it. -/
def aged (s : FrameStore) (r : Request) (id : WorkerId) (e : CachedFrame) : CachedFrame :=
  match r with
  | .pullOne => (s.preferred?.map fun chosen => ageAfterPull chosen id e).getD e
  | _ => e

theorem isCandidate_ageAfterPull (chosen id : WorkerId) (e : CachedFrame) :
    (ageAfterPull chosen id e).isCandidate = e.isCandidate := by
  unfold ageAfterPull
  split
  · rfl
  · rfl

theorem fid_ageAfterPull (chosen id : WorkerId) (e : CachedFrame) :
    (ageAfterPull chosen id e).fid = e.fid := by
  unfold ageAfterPull
  split
  · rfl
  · rfl

theorem isCandidate_aged (s : FrameStore) (r : Request) (id : WorkerId) (e : CachedFrame) :
    (s.aged r id e).isCandidate = e.isCandidate := by
  cases r with
  | pullOne =>
      unfold aged
      cases s.preferred? with
      | none => rfl
      | some chosen => exact isCandidate_ageAfterPull chosen id e
  | addWorker | fill | pullBatch | release | reset | snapshot => rfl

/-- Aging shows in nothing but the age. -/
theorem fid_aged (s : FrameStore) (r : Request) (id : WorkerId) (e : CachedFrame) :
    (s.aged r id e).fid = e.fid := by
  cases r with
  | pullOne =>
      unfold aged
      cases s.preferred? with
      | none => rfl
      | some chosen => exact fid_ageAfterPull chosen id e
  | addWorker | fill | pullBatch | release | reset | snapshot => rfl

/-- A pull ages the frames that wait, apart from the one that it gets. -/
theorem cached?_pullOne (s : FrameStore) (id : WorkerId) :
    s.pullOne.2.cached? id = (s.cached? id).map (s.aged .pullOne id) := by
  unfold pullOne aged preferred?
  cases mostNeglected? s.candidates with
  | none => exact (Option.map_id_apply).symm
  | some p => exact s.entries.get?_mapIdx _ id

/-- A batch marks the frames in it as read. -/
theorem cached?_pullBatch (s : FrameStore) (n : Nat) (id : WorkerId) :
    (s.pullBatch n).2.cached? id =
      if n = 0 ∨ s.readyCount < n then s.cached? id
      else (s.cached? id).map fun e =>
        if id ∈ (s.oldest n).map Prod.fst then { e with read := true } else e := by
  unfold pullBatch readyCount
  split
  · rfl
  · refine (s.entries.get?_mapIdx _ id).trans (congrArg (Option.map · (s.cached? id)) ?_)
    funext e
    simp only [List.contains_iff_mem]

/-! ### A request and the frames that wait -/

/-- A cache that is given back offers nothing; in the others nothing changes. -/
theorem candidate_reset {other : WorkerId} (cached : (s.reset other).cached? id = some e)
    (waits : e.isCandidate = true) : s.cached? id = some e := by
  rw [cached?_reset] at cached
  split at cached
  · obtain ⟨e₀, -, rfl⟩ := Option.map_eq_some_iff.1 cached
    cases waits
  · exact cached

/-- **A frame that waits after a request was just put in, or waited before.** -/
theorem candidate_step (cached : (s.step r).cached? id = some e) (waits : e.isCandidate = true) :
    (∃ data width height now, r = .fill id data width height now ∧
      e = .fill (s.lastFid + 1) data width height now) ∨
    ∃ e₀, s.cached? id = some e₀ ∧ e₀.isCandidate = true ∧ e = s.aged r id e₀ := by
  cases r with
  | addWorker other =>
      have shown := (s.cached?_addWorker other id).symm.trans cached
      split at shown
      · next same =>
          subst same
          cases before : s.cached? other with
          | none =>
              rw [before] at shown
              cases shown
              cases waits
          | some e₀ =>
              rw [before] at shown
              cases shown
              exact .inr ⟨_, rfl, waits, rfl⟩
      · exact .inr ⟨e, shown, waits, rfl⟩
  | fill other data width height now =>
      have shown := (s.cached?_fill other id data width height now).symm.trans cached
      split at shown
      · next same =>
          subst same
          exact .inl ⟨data, width, height, now, rfl, (Option.some.inj shown).symm⟩
      · exact .inr ⟨e, shown, waits, rfl⟩
  | pullOne =>
      have shown := (s.cached?_pullOne id).symm.trans cached
      obtain ⟨e₀, before, rfl⟩ := Option.map_eq_some_iff.1 shown
      rw [isCandidate_aged] at waits
      exact .inr ⟨e₀, before, waits, rfl⟩
  | pullBatch n =>
      have shown := (s.cached?_pullBatch n id).symm.trans cached
      split at shown
      · exact .inr ⟨e, shown, waits, rfl⟩
      · obtain ⟨e₀, before, rfl⟩ := Option.map_eq_some_iff.1 shown
        split at waits
        · simp [CachedFrame.isCandidate] at waits
        · next left =>
            rw [if_neg left]
            exact .inr ⟨e₀, before, waits, rfl⟩
  | release other => exact .inr ⟨e, candidate_reset (s.step_release other ▸ cached) waits, waits, rfl⟩
  | reset other => exact .inr ⟨e, candidate_reset cached waits, waits, rfl⟩
  | snapshot other => exact .inr ⟨e, cached, waits, rfl⟩

/-- No request takes a cache away. -/
theorem isSome_cached?_step (r : Request) (known : (s.cached? id).isSome = true) :
    ((s.step r).cached? id).isSome = true := by
  cases r with
  | addWorker other =>
      have shown : (s.step (.addWorker other)).cached? id = _ := s.cached?_addWorker other id
      rw [shown]
      split
      · rfl
      · exact known
  | fill other data width height now =>
      have shown : (s.step (.fill other data width height now)).cached? id = _ :=
        s.cached?_fill other id data width height now
      rw [shown]
      split
      · rfl
      · exact known
  | pullOne =>
      have shown : (s.step .pullOne).cached? id = _ := s.cached?_pullOne id
      rw [shown, Option.isSome_map]
      exact known
  | pullBatch n =>
      have shown : (s.step (.pullBatch n)).cached? id = _ := s.cached?_pullBatch n id
      rw [shown]
      split
      · exact known
      · rw [Option.isSome_map]
        exact known
  | release other =>
      rw [step_release, cached?_reset]
      split
      · rw [Option.isSome_map]
        exact known
      · exact known
  | reset other =>
      have shown : (s.step (.reset other)).cached? id = _ := s.cached?_reset other id
      rw [shown]
      split
      · rw [Option.isSome_map]
        exact known
      · exact known
  | snapshot other => exact known

/-- So it is with any requests. -/
theorem isSome_cached?_run (l : List Request) (known : (s.cached? id).isSome = true) :
    ((s.run l).cached? id).isSome = true := by
  induction l generalizing s with
  | nil => exact known
  | cons r l ih => exact ih (isSome_cached?_step r known)

end FrameStore

end FrameMux
