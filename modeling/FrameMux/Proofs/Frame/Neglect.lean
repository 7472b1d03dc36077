/-
**Nobody is passed over twice.**

A pull prefers the worker that was passed over most often.  The ages by which it goes are not how long
a frame has been there: they start unequal, ties go to the lower number, and a worker that is given back
and filled again starts afresh.  This module says what a worker whose frame waits may rely on all the
same: every pull gets a frame, and no other worker is preferred twice before it.

Main definitions:

* `FrameMux.FrameStore.picks` — whose frames the pulls of some requests get;
* `FrameMux.FrameStore.StaysWaiting` — a frame waits all along;
* `FrameMux.FrameStore.Behind` — a worker is less neglected than one whose frame waits, or has none
  that does.

Main results:

* `FrameMux.FrameStore.behind_of_preferred?` — whoever is preferred falls behind;
* `FrameMux.FrameStore.Behind.step` — and stays behind, whatever is asked, until the other's turn;
* `FrameMux.FrameStore.bounded_bypass` — **nobody is passed over twice**, so the wait is at most one
  pull per worker.
-/

import FrameMux.Proofs.Frame.Candidates

set_option relaxedAutoImplicit false
set_option autoImplicit false

namespace FrameMux

namespace FrameStore

variable {s : FrameStore} {a b : WorkerId} {r : Request}

/-! ### Pulls of a run -/

/-- Whose frame a request gets, if it is a pull. -/
def pick? (s : FrameStore) : Request → Option (Option WorkerId)
  | .pullOne => some (s.pullOne.1.map (·.worker))
  | _ => none

/-- Whose frames the pulls among some requests get, one after another. -/
def picks (s : FrameStore) : List Request → List (Option WorkerId)
  | [] => []
  | r :: l => (s.pick? r).toList ++ (s.step r).picks l

/-- A frame of the worker waits all along: no request puts another in or takes it out, and none reads
it. -/
def StaysWaiting (id : WorkerId) (s : FrameStore) : List Request → Prop
  | [] => s.isWaiting id = true
  | r :: l => s.isWaiting id = true ∧ r.touches id = false ∧ StaysWaiting id (s.step r) l

theorem StaysWaiting.now {l : List Request} (h : StaysWaiting b s l) : s.isWaiting b = true := by
  cases l with
  | nil => exact h
  | cons r l => exact h.1

/-- A request is no pull, or gets the frame of the one preferred. -/
theorem pick?_cases (coherent : s.Coherent) (waits : s.isWaiting b = true) (r : Request) :
    s.pick? r = none ∨ ∃ chosen, r = .pullOne ∧ s.preferred? = some chosen ∧
      s.pick? r = some (some chosen) := by
  cases r with
  | pullOne =>
      obtain ⟨chosen, preferred⟩ := Option.isSome_iff_exists.1 (isSome_preferred? waits)
      refine .inr ⟨chosen, rfl, preferred, ?_⟩
      rw [pick?, worker_pullOne coherent, preferred]
  | addWorker | fill | pullBatch | release | reset | snapshot => exact .inl rfl

/-! ### Falling behind -/

/-- A worker has been passed over less often than one whose frame waits, unless none of its own does.
That one has been passed over since it last had its turn, so a new frame does not change the order. -/
def Behind (s : FrameStore) (a b : WorkerId) : Prop :=
  ∀ f, s.cached? b = some f → 0 < f.age ∧
    ∀ e, s.cached? a = some e → e.isCandidate = true → e.age < f.age

/-- Whoever is behind is not preferred. -/
theorem Behind.not_preferred (h : s.Behind a b) (waits : s.isWaiting b = true) :
    s.preferred? ≠ some a := by
  intro preferred
  obtain ⟨f, held, candidate⟩ := isWaiting_iff.1 waits
  obtain ⟨e, cached, ready⟩ := isWaiting_iff.1 (isWaiting_of_preferred? preferred)
  have less := (h f held).2 e cached ready
  have atLeast := age_le_of_preferred? preferred cached held candidate
  omega

/-- The age of a frame that waits after a pull. -/
theorem age_aged_pullOne {chosen id : WorkerId} {e : CachedFrame} (preferred : s.preferred? = some chosen)
    (waits : e.isCandidate = true) :
    (s.aged .pullOne id e).age = if id = chosen then 0 else e.age + 1 := by
  have aged : s.aged .pullOne id e = ageAfterPull chosen id e := by
    rw [aged, preferred]
    rfl
  rw [aged, ageAfterPull, if_pos waits]

/-- **Whoever is preferred falls behind** all the others whose frames wait. -/
theorem behind_of_preferred? (preferred : s.preferred? = some a) (waits : s.isWaiting b = true)
    (ne : a ≠ b) : (s.step .pullOne).Behind a b := by
  intro f held
  obtain ⟨f₀, before, candidate⟩ := isWaiting_iff.1 waits
  have after : (s.step .pullOne).cached? b = _ := s.cached?_pullOne b
  rw [held, before] at after
  cases after
  have age : (s.aged .pullOne b f₀).age = _ := age_aged_pullOne preferred candidate
  rw [if_neg ne.symm] at age
  refine ⟨by omega, ?_⟩
  intro e cached ready
  have after : (s.step .pullOne).cached? a = _ := s.cached?_pullOne a
  rw [cached] at after
  obtain ⟨e₀, -, rfl⟩ := Option.map_eq_some_iff.1 after.symm
  rw [isCandidate_aged] at ready
  rw [age_aged_pullOne preferred ready, if_pos rfl]
  omega

/-- **Whoever is behind stays behind** until it is the other's turn, whatever is asked. -/
theorem Behind.step (h : s.Behind a b) (untouched : r.touches b = false)
    (waits : (s.step r).isWaiting b = true)
    (passed : r = .pullOne → s.preferred? ≠ some b) : (s.step r).Behind a b := by
  intro f held
  obtain ⟨f', held', candidate⟩ := isWaiting_iff.1 waits
  rw [held] at held'
  cases held'
  rcases candidate_step held candidate with ⟨data, width, height, now, rfl, -⟩ | ⟨f₀, before, ready, rfl⟩
  · rw [Request.touches_fill] at untouched
    cases untouched
  obtain ⟨positive, less⟩ := h f₀ before
  have waited : s.isWaiting b = true := isWaiting_iff.2 ⟨f₀, before, ready⟩
  -- a pull that prefers a third worker ages both alike; everything else leaves the ages alone
  by_cases pull : r = .pullOne
  · subst pull
    obtain ⟨chosen, preferred⟩ := Option.isSome_iff_exists.1 (isSome_preferred? waited)
    have notB : b ≠ chosen := fun same => passed rfl (same ▸ preferred)
    have notA : a ≠ chosen := fun same => h.not_preferred waited (same ▸ preferred)
    rw [age_aged_pullOne preferred ready, if_neg notB]
    refine ⟨Nat.succ_pos _, ?_⟩
    intro e cached waitsA
    rcases candidate_step cached waitsA with ⟨_, _, _, _, same, -⟩ | ⟨e₀, beforeA, readyA, rfl⟩
    · cases same
    · rw [age_aged_pullOne preferred readyA, if_neg notA]
      exact Nat.succ_lt_succ (less e₀ beforeA readyA)
  · have still (id : WorkerId) (e : CachedFrame) : s.aged r id e = e := by
      cases r with
      | pullOne => exact absurd rfl pull
      | addWorker | fill | pullBatch | release | reset | snapshot => rfl
    rw [still]
    refine ⟨positive, ?_⟩
    intro e cached waitsA
    rcases candidate_step cached waitsA with ⟨_, _, _, _, -, rfl⟩ | ⟨e₀, beforeA, readyA, rfl⟩
    · exact positive
    · rw [still]
      exact less e₀ beforeA readyA

/-! ### Runs -/

/-- While a frame waits, every pull gets one. -/
theorem none_notMem_picks (coherent : s.Coherent) {l : List Request} (stays : StaysWaiting b s l) :
    none ∉ s.picks l := by
  induction l generalizing s with
  | nil => exact List.not_mem_nil
  | cons r l ih =>
      obtain ⟨waits, -, later⟩ := stays
      unfold picks
      rw [List.mem_append, not_or]
      refine ⟨?_, ih (coherent.step r) later⟩
      rcases pick?_cases coherent waits r with noPull | ⟨chosen, -, -, pull⟩
      · rw [noPull]
        exact List.not_mem_nil
      · rw [pull]
        simp

/-- Whoever is behind gets no turn before the other. -/
theorem Behind.notMem_picks (coherent : s.Coherent) {l : List Request} (stays : StaysWaiting b s l)
    (h : s.Behind a b) : some a ∉ (s.picks l).takeWhile (· ≠ some b) := by
  induction l generalizing s with
  | nil => exact List.not_mem_nil
  | cons r l ih =>
      obtain ⟨waits, untouched, later⟩ := stays
      unfold picks
      rcases pick?_cases coherent waits r with noPull | ⟨chosen, rfl, preferred, pull⟩
      · rw [noPull]
        refine ih (coherent.step r) later (h.step untouched later.now ?_)
        rintro rfl
        cases noPull
      · rw [pull]
        by_cases turn : chosen = b
        · simp [turn]
        · have notA : chosen ≠ a := fun same => h.not_preferred waits (same ▸ preferred)
          have passed : s.preferred? ≠ some b := by
            rw [preferred]
            exact fun same => turn (Option.some.inj same)
          have rest := ih (coherent.step _) later (h.step untouched later.now fun _ => passed)
          simpa [turn, notA.symm] using rest

/-- Nobody has two turns before one whose frame waits. -/
theorem nodup_picks (coherent : s.Coherent) {l : List Request} (stays : StaysWaiting b s l) :
    ((s.picks l).takeWhile (· ≠ some b)).Nodup := by
  induction l generalizing s with
  | nil => exact List.nodup_nil
  | cons r l ih =>
      obtain ⟨waits, -, later⟩ := stays
      have rest := ih (coherent.step r) later
      unfold picks
      rcases pick?_cases coherent waits r with noPull | ⟨chosen, rfl, preferred, pull⟩
      · rw [noPull]
        exact rest
      · rw [pull]
        by_cases turn : chosen = b
        · simp [turn]
        · have behind := behind_of_preferred? preferred waits turn
          have once := behind.notMem_picks (coherent.step _) later
          simpa [turn] using And.intro once rest

/-- Whoever has a turn has a cache, then and ever after. -/
theorem mem_ids_of_mem_picks (coherent : s.Coherent) {l : List Request} (h : some a ∈ s.picks l) :
    a ∈ (s.run l).entries.ids := by
  induction l generalizing s with
  | nil => cases h
  | cons r l ih =>
      rcases List.mem_append.1 h with first | later
      · cases r with
        | pullOne =>
            have preferred : s.preferred? = some a := by
              rw [← worker_pullOne coherent]
              exact (List.mem_singleton.1 first).symm
            obtain ⟨e, cached, -⟩ := isWaiting_iff.1 (isWaiting_of_preferred? preferred)
            have known : (s.cached? a).isSome = true := by rw [cached]; rfl
            exact (Roster.mem_ids_iff _ a).2 (isSome_cached?_run (.pullOne :: l) known)
        | addWorker | fill | pullBatch | release | reset | snapshot => cases first
      · exact ih (coherent.step r) later

/-- The wait of a frame is at most one pull per worker: those preferred before it are different workers
of the store, and it is one more. -/
theorem mem_take_picks (coherent : s.Coherent) {l : List Request} (stays : StaysWaiting b s l)
    (enough : (s.run l).entries.size ≤ (s.picks l).length) :
    some b ∈ (s.picks l).take (s.run l).entries.size := by
  by_contra absent
  let passed := (s.picks l).take (s.run l).entries.size
  have length : passed.length = (s.run l).entries.size := List.length_take_of_le enough
  have once : passed.Nodup := by
    refine (nodup_picks coherent stays).sublist ?_
    have others : ∀ pick ∈ passed, decide (pick ≠ some b) = true := by
      intro pick among
      exact decide_eq_true fun same => absent (same ▸ among)
    rw [← List.take_append_drop (s.run l).entries.size (s.picks l), List.takeWhile_append_of_pos others]
    exact List.sublist_append_left _ _
  have known : ∀ pick ∈ some b :: passed, pick ∈ (s.run l).entries.ids.map some := by
    intro pick among
    rcases List.mem_cons.1 among with rfl | among
    · obtain ⟨e, cached, -⟩ := isWaiting_iff.1 stays.now
      have here : ((s.run l).cached? b).isSome = true :=
        isSome_cached?_run l (by rw [cached]; rfl)
      exact List.mem_map_of_mem ((Roster.mem_ids_iff _ b).2 here)
    · have picked : pick ∈ s.picks l := List.mem_of_mem_take among
      cases pick with
      | none => exact absurd picked (none_notMem_picks coherent stays)
      | some a => exact List.mem_map_of_mem (mem_ids_of_mem_picks coherent picked)
  have few : (some b :: passed).length ≤ ((s.run l).entries.ids.map some).length :=
    (List.subperm_of_subset (List.nodup_cons.2 ⟨absent, once⟩) known).length_le
  have size : ((s.run l).entries.ids.map some).length = (s.run l).entries.size := by
    rw [List.length_map]
    exact List.length_map _
  rw [List.length_cons, length, size] at few
  omega

/-- **Nobody is passed over twice.**  In a store that has been in use, consider any requests during
which a frame of a worker waits all along: every pull among them gets a frame, none of the others is
preferred more than once before the worker has its turn, and it has its turn within as many pulls as
there are workers in the store. -/
theorem bounded_bypass (past l : List Request) (id : WorkerId)
    (stays : StaysWaiting id (empty.run past) l) :
    none ∉ (empty.run past).picks l ∧
    (∀ other, (((empty.run past).picks l).takeWhile (· ≠ some id)).count (some other) ≤ 1) ∧
    (((empty.run past).run l).entries.size ≤ ((empty.run past).picks l).length →
      some id ∈ ((empty.run past).picks l).take ((empty.run past).run l).entries.size) := by
  have coherent : (empty.run past).Coherent := coherent_run coherent_empty past
  refine ⟨none_notMem_picks coherent stays, ?_, mem_take_picks coherent stays⟩
  exact fun other => List.nodup_iff_count_le_one.1 (nodup_picks coherent stays) (some other)

/-- A rehearsal: two frames wait; the lower number is preferred, given back and filled again. -/
def contest : List Request :=
  [.pullOne, .release ⟨1⟩, .fill ⟨1⟩ [3] 1 1 ⟨1⟩, .snapshot ⟨2⟩, .pullOne]

theorem bounded_bypass_rehearsed :
    let past : List Request := [.fill ⟨1⟩ [1] 1 1 ⟨0⟩, .fill ⟨2⟩ [2] 1 1 ⟨0⟩]
    StaysWaiting ⟨2⟩ (empty.run past) contest ∧
    (empty.run past).picks contest = [some ⟨1⟩, some ⟨2⟩] ∧
    some ⟨2⟩ ∈ ((empty.run past).picks contest).take 2 := by
  intro past
  have stays : StaysWaiting ⟨2⟩ (empty.run past) contest := by
    refine ⟨?_, ?_, ?_, ?_, ?_, ?_, ?_, ?_, ?_, ?_, ?_⟩ <;> rfl
  have enough : ((empty.run past).run contest).entries.size ≤ ((empty.run past).picks contest).length := by
    decide
  exact ⟨stays, by rfl, (bounded_bypass past contest ⟨2⟩ stays).2.2 enough⟩

end FrameStore

end FrameMux
