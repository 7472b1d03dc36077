/-
**A frame store in use.**

A frame store answers one request after another: caches are added and filled, frames are pulled, shown
and given back.  An entry of the store has more than one mark of what it holds, and some of its fields
outlive the frame that they belong to.  This module says what the marks have to do with each other
after any requests, and where a frame comes from that a consumer gets.

Main definitions:

* `FrameMux.FrameStore.Request`, `FrameMux.FrameStore.step`, `FrameMux.FrameStore.run` — **what can be
  asked** of a store, and the store afterwards;
* `FrameMux.FrameStore.numbers`, `FrameMux.FrameStore.handed` — what the requests return;
* `FrameMux.FrameStore.Coherent` — the marks of all entries agree with what they hold, and no two
  entries bear one number;
* `FrameMux.FrameStore.Standing` — a frame is the last that was put in for its worker, and has not
  been taken out.

Main results:

* `FrameMux.FrameStore.Coherent.step`, `FrameMux.FrameStore.coherent_run` — every request keeps the
  store coherent;
* `FrameMux.FrameStore.pairwise_numbers` — frames get greater and greater numbers;
* `FrameMux.FrameStore.snapshot_run_iff` — **a cache shows the frame that stands**;
* `FrameMux.FrameStore.Coherent.pullOne_of_none` — a pull that gets nothing changes nothing;
* `FrameMux.FrameStore.cache_faithful` — all of it, for every sequence of requests.
-/

import FrameMux.Proofs.Frame.Cached
import Mathlib.Data.List.Induction
import Mathlib.Data.List.Permutation

set_option relaxedAutoImplicit false
set_option autoImplicit false

namespace FrameMux

namespace FrameStore

/-! ### Requests -/

/-- What can be asked of a store. -/
inductive Request where
  | addWorker (id : WorkerId)
  | fill (id : WorkerId) (data : Bytes) (width height : UInt32) (now : Instant)
  | pullOne
  | pullBatch (n : Nat)
  | release (id : WorkerId)
  | reset (id : WorkerId)
  | snapshot (id : WorkerId)
deriving DecidableEq, Repr

/-- The store after a request. -/
def step (s : FrameStore) : Request → FrameStore
  | .addWorker id => s.addWorker id
  | .fill id data width height now => s.fill id data width height now
  | .pullOne => s.pullOne.2
  | .pullBatch n => (s.pullBatch n).2
  | .release id => (s.release? id).getD s
  | .reset id => s.reset id
  | .snapshot _ => s

/-- The store after some requests. -/
def run (s : FrameStore) (l : List Request) : FrameStore := l.foldl step s

/-- The number that a request returns: the one under which it put a frame in. -/
def number? (s : FrameStore) : Request → Option Nat
  | .fill id data width height now => some (s.fill id data width height now).lastFid
  | _ => none

/-- The numbers that some requests return, one after another. -/
def numbers (s : FrameStore) : List Request → List Nat
  | [] => []
  | r :: l => (s.number? r).toList ++ (s.step r).numbers l

/-- The frames that a request hands to the consumer. -/
def handed (s : FrameStore) : Request → List Frame
  | .pullOne => s.pullOne.1.toList
  | .pullBatch n => (s.pullBatch n).1.getD []
  | .snapshot id => (s.snapshot id).toList
  | _ => []

/-- Whether a request puts a frame in for a worker, or takes it out. -/
def Request.touches (id : WorkerId) : Request → Bool
  | fill other _ _ _ _ => decide (id = other)
  | release other => decide (id = other)
  | reset other => decide (id = other)
  | _ => false

variable {s : FrameStore} {id : WorkerId} {r : Request}

theorem run_concat (s : FrameStore) (l : List Request) (r : Request) :
    s.run (l ++ [r]) = (s.run l).step r :=
  List.foldl_append

/-- There is nothing to take out of a cache that is not there. -/
theorem reset_of_unknown (unknown : s.cached? id = none) : s.reset id = s := by
  have absent : ∀ p ∈ s.entries.entries, ¬ p.1 = id := by
    intro p listed named
    have found := s.entries.get?_of_mem listed
    rw [named] at found
    exact absurd (unknown.symm.trans found) nofun
  have same : s.entries.entries.map (fun p => (p.1, if p.1 = id then p.2.clear else p.2)) =
      s.entries.entries := by
    refine (List.map_congr_left ?_).trans (List.map_id _)
    intro p listed
    rw [if_neg (absent p listed)]
    rfl
  show (⟨⟨_, _⟩, s.lastFid⟩ : FrameStore) = s
  simp only [same]

/-- Giving a cache back takes its frame out. -/
theorem step_release (s : FrameStore) (id : WorkerId) : s.step (.release id) = s.reset id := by
  have known : s.entries.contains id = (s.cached? id).isSome := rfl
  show (s.release? id).getD s = _
  rw [release?, known]
  cases cached : s.cached? id with
  | none => exact (reset_of_unknown cached).symm
  | some e => rfl

/-! ### Numbers -/

/-- Only a frame that is put in counts. -/
theorem lastFid_step (s : FrameStore) (r : Request) :
    (s.step r).lastFid = s.lastFid + (s.number? r).toList.length := by
  cases r with
  | addWorker id => exact s.lastFid_addWorker id
  | fill id data width height now => rfl
  | pullOne => exact s.lastFid_pullOne
  | pullBatch n => exact s.lastFid_pullBatch n
  | release id =>
      rw [step_release]
      rfl
  | reset id => rfl
  | snapshot id => rfl

/-- The number of the last frame is how many frames were put in. -/
theorem lastFid_run (s : FrameStore) (l : List Request) :
    (s.run l).lastFid = s.lastFid + (s.numbers l).length := by
  induction l generalizing s with
  | nil => rfl
  | cons r l ih =>
      have later : (s.run (r :: l)).lastFid = _ := ih (s.step r)
      rw [later, lastFid_step, numbers, List.length_append, Nat.add_assoc]

/-- A frame gets the number after the last. -/
theorem mem_number? {n : Nat} (h : n ∈ (s.number? r).toList) :
    n = s.lastFid + 1 ∧ (s.step r).lastFid = n := by
  cases r with
  | fill id data width height now =>
      cases List.mem_singleton.1 h
      exact ⟨rfl, rfl⟩
  | addWorker | pullOne | pullBatch | release | reset | snapshot => exact absurd h List.not_mem_nil

/-- What is put in later gets a greater number. -/
theorem lt_of_mem_numbers {l : List Request} {n : Nat} (h : n ∈ s.numbers l) : s.lastFid < n := by
  induction l generalizing s with
  | nil => cases h
  | cons r l ih =>
      rcases List.mem_append.1 h with first | later
      · have next := (mem_number? first).1
        omega
      · have later := ih later
        rw [lastFid_step] at later
        omega

/-- **Frames get greater and greater numbers.** -/
theorem pairwise_numbers (s : FrameStore) (l : List Request) :
    (s.numbers l).Pairwise (· < ·) := by
  induction l generalizing s with
  | nil => exact List.Pairwise.nil
  | cons r l ih =>
      refine List.pairwise_append.2 ⟨?_, ih (s.step r), ?_⟩
      · cases s.number? r with
        | none => exact List.Pairwise.nil
        | some n => exact List.pairwise_singleton _ n
      · intro n first m later
        have least := lt_of_mem_numbers later
        rwa [(mem_number? first).2] at least

end FrameStore

/-! ### Coherent entries -/

/-- The marks of an entry agree with what it holds: it is ready as long as there is a frame, a frame
that nobody has read is there, and has a number among those that were given. -/
structure CachedFrame.Coherent (last : Nat) (e : CachedFrame) : Prop where
  ready : e.ready = e.data.isSome
  unread : e.read = false → e.ready = true
  numbered : e.ready = true → 0 < e.fid
  bounded : e.fid ≤ last

namespace CachedFrame

variable {last : Nat} {e : CachedFrame}

theorem coherent_vacant (last : Nat) : vacant.Coherent last :=
  ⟨rfl, nofun, nofun, Nat.zero_le last⟩

theorem coherent_fill (last : Nat) (data : Bytes) (width height : UInt32) (now : Instant) :
    (fill (last + 1) data width height now).Coherent (last + 1) :=
  ⟨rfl, fun _ => rfl, fun _ => Nat.succ_pos last, Nat.le_refl _⟩

namespace Coherent

theorem mono {last' : Nat} (h : e.Coherent last) (le : last ≤ last') : e.Coherent last' :=
  ⟨h.ready, h.unread, h.numbered, Nat.le_trans h.bounded le⟩

theorem clear (h : e.Coherent last) : e.clear.Coherent last := ⟨rfl, nofun, nofun, h.bounded⟩

theorem ageAfterPull (h : e.Coherent last) (chosen id : WorkerId) :
    (FrameStore.ageAfterPull chosen id e).Coherent last := by
  unfold FrameStore.ageAfterPull
  split
  · exact ⟨h.ready, h.unread, h.numbered, h.bounded⟩
  · exact h

theorem markRead (h : e.Coherent last) : ({ e with read := true } : CachedFrame).Coherent last :=
  ⟨h.ready, nofun, h.numbered, h.bounded⟩

/-- A candidate holds a frame. -/
theorem frame?_of_candidate (h : e.Coherent last) (candidate : e.isCandidate = true)
    (id : WorkerId) : (e.frame? id).isSome = true := by
  have ready : e.ready = true := (Bool.and_eq_true_iff.1 candidate).1
  rw [frame?, Option.isSome_map, ← h.ready, ready]

end Coherent

end CachedFrame

namespace FrameStore

variable {s : FrameStore} {id : WorkerId} {r : Request}

/-! ### Coherent stores -/

/-- The marks of all entries agree with what they hold, and no two bear one number. -/
structure Coherent (s : FrameStore) : Prop where
  each : ∀ id e, s.cached? id = some e → e.Coherent s.lastFid
  apart : ∀ id id' e e', s.cached? id = some e → s.cached? id' = some e' → 0 < e.fid →
    e.fid = e'.fid → id = id'

theorem coherent_empty : empty.Coherent := ⟨nofun, nofun⟩

namespace Coherent

/-- Changes of the entries that keep the numbers and each entry coherent. -/
theorem mapIdx (h : s.Coherent) {f : WorkerId → CachedFrame → CachedFrame}
    (keeps : ∀ id e, e.Coherent s.lastFid → (f id e).Coherent s.lastFid)
    (fid : ∀ id e, (f id e).fid = e.fid) :
    Coherent { s with entries := s.entries.mapIdx f } := by
  have old : ∀ {id e}, (s.entries.mapIdx f).get? id = some e →
      ∃ e₀, s.cached? id = some e₀ ∧ f id e₀ = e := by
    intro id e cached
    rw [Roster.get?_mapIdx] at cached
    exact Option.map_eq_some_iff.1 cached
  refine ⟨?_, ?_⟩
  · intro id e cached
    obtain ⟨e₀, before, rfl⟩ := old cached
    exact keeps id e₀ (h.each id e₀ before)
  · intro id id' e e' cached cached' positive same
    obtain ⟨e₀, before, rfl⟩ := old cached
    obtain ⟨e₁, before', rfl⟩ := old cached'
    rw [fid] at positive
    rw [fid, fid] at same
    exact h.apart id id' e₀ e₁ before before' positive same

theorem reset (h : s.Coherent) (id : WorkerId) : (s.reset id).Coherent := by
  refine h.mapIdx ?_ ?_
  · intro key e each
    split
    · exact each.clear
    · exact each
  · intro key e
    split
    · rfl
    · rfl

theorem addWorker (h : s.Coherent) (id : WorkerId) : (s.addWorker id).Coherent := by
  have old : ∀ {other e}, (s.addWorker id).cached? other = some e →
      s.cached? other = some e ∨ e = .vacant := by
    intro other e cached
    rw [cached?_addWorker] at cached
    split at cached
    · next same =>
        subst same
        cases before : s.cached? id with
        | none =>
            rw [before] at cached
            exact .inr (Option.some.inj cached).symm
        | some e₀ =>
            rw [before] at cached
            exact .inl cached
    · exact .inl cached
  refine ⟨?_, ?_⟩
  · intro other e cached
    rw [lastFid_addWorker]
    rcases old cached with before | rfl
    · exact h.each other e before
    · exact CachedFrame.coherent_vacant _
  · intro i i' e e' cached cached' positive same
    rcases old cached with before | rfl
    · rcases old cached' with before' | rfl
      · exact h.apart i i' e e' before before' positive same
      · exact absurd positive (same ▸ Nat.lt_irrefl 0)
    · exact absurd positive (Nat.lt_irrefl 0)

/-- The new frame is the only one with its number, which is greater than all others. -/
theorem fill (h : s.Coherent) (id : WorkerId) (data : Bytes) (width height : UInt32)
    (now : Instant) : (s.fill id data width height now).Coherent := by
  have old : ∀ {other e}, (s.fill id data width height now).cached? other = some e →
      (id = other ∧ .fill (s.lastFid + 1) data width height now = e) ∨ s.cached? other = some e := by
    intro other e cached
    rw [cached?_fill] at cached
    split at cached
    · next same => exact .inl ⟨same, Option.some.inj cached⟩
    · exact .inr cached
  have below : ∀ {other e}, s.cached? other = some e → ¬ s.lastFid + 1 = e.fid := by
    intro other e cached same
    have bounded := (h.each other e cached).bounded
    omega
  refine ⟨?_, ?_⟩
  · intro other e cached
    rcases old cached with ⟨-, rfl⟩ | before
    · exact CachedFrame.coherent_fill s.lastFid data width height now
    · exact (h.each other e before).mono (Nat.le_succ s.lastFid)
  · intro i i' e e' cached cached' positive same
    rcases old cached with ⟨rfl, rfl⟩ | before
    · rcases old cached' with ⟨rfl, -⟩ | before'
      · rfl
      · exact absurd same (below before')
    · rcases old cached' with ⟨-, rfl⟩ | before'
      · exact absurd same.symm (below before)
      · exact h.apart i i' e e' before before' positive same

theorem pullOne (h : s.Coherent) : s.pullOne.2.Coherent := by
  unfold FrameStore.pullOne
  split
  · exact h
  · next chosen _ _ =>
      refine h.mapIdx (fun id e each => each.ageAfterPull chosen id) ?_
      intro id e
      unfold ageAfterPull
      split
      · rfl
      · rfl

theorem pullBatch (h : s.Coherent) (n : Nat) : (s.pullBatch n).2.Coherent := by
  unfold FrameStore.pullBatch
  split
  · exact h
  · refine h.mapIdx ?_ ?_
    · intro id e each
      split
      · exact each.markRead
      · exact each
    · intro id e
      split
      · rfl
      · rfl

/-- **A request keeps the store coherent.** -/
theorem step (h : s.Coherent) (r : Request) : (s.step r).Coherent := by
  cases r with
  | addWorker id => exact h.addWorker id
  | fill id data width height now => exact h.fill id data width height now
  | pullOne => exact h.pullOne
  | pullBatch n => exact h.pullBatch n
  | release id => exact s.step_release id ▸ h.reset id
  | reset id => exact h.reset id
  | snapshot id => exact h

/-- A pull that gets nothing changes nothing: whom it prefers holds a frame. -/
theorem pullOne_of_none (h : s.Coherent) (nothing : s.pullOne.1 = none) : s.pullOne.2 = s := by
  unfold FrameStore.pullOne at nothing ⊢
  cases chosen : mostNeglected? s.candidates with
  | none => rfl
  | some p =>
      obtain ⟨id, e⟩ := p
      obtain ⟨listed, candidate⟩ := List.mem_filter.1 (mem_of_mostNeglected? chosen)
      have each := h.each id e (s.entries.get?_of_mem listed)
      have holds := each.frame?_of_candidate candidate id
      have empty : e.frame? id = none := by simpa only [chosen] using nothing
      rw [empty] at holds
      cases holds

end Coherent

/-- A store in use is coherent. -/
theorem coherent_run (h : s.Coherent) (l : List Request) : (s.run l).Coherent := by
  induction l generalizing s with
  | nil => exact h
  | cons r l ih => exact ih (h.step r)

/-! ### Where a frame comes from -/

/-- A request about something else leaves the frame of a worker in place. -/
theorem snapshot_step_of_untouched (s : FrameStore) (untouched : r.touches id = false) :
    (s.step r).snapshot id = s.snapshot id := by
  cases r with
  | addWorker other => exact s.snapshot_addWorker other id
  | fill other data width height now =>
      have ne : ¬ id = other := of_decide_eq_false untouched
      exact (s.snapshot_fill other id data width height now).trans (if_neg (Ne.symm ne))
  | pullOne => exact s.snapshot_pullOne id
  | pullBatch n => exact s.snapshot_pullBatch n id
  | release other =>
      rw [step_release]
      exact (s.snapshot_reset other id).trans (if_neg (of_decide_eq_false untouched))
  | reset other => exact (s.snapshot_reset other id).trans (if_neg (of_decide_eq_false untouched))
  | snapshot other => rfl

/-- A request that touches the cache of a worker puts a frame in or leaves none. -/
theorem snapshot_step_of_touched (s : FrameStore) (touched : r.touches id = true) {f : Frame} :
    (s.step r).snapshot id = some f ↔
      ∃ now, r = .fill id f.data f.width f.height now ∧ f.worker = id ∧
        s.number? r = some f.sequence := by
  cases r with
  | fill other data width height now =>
      cases of_decide_eq_true touched
      have shown : (s.step (.fill id data width height now)).snapshot id = _ :=
        (s.snapshot_fill id id data width height now).trans (if_pos rfl)
      rw [shown]
      constructor
      · rintro ⟨rfl⟩
        exact ⟨now, rfl, rfl, rfl⟩
      · rintro ⟨now', same, worker, number⟩
        obtain ⟨_, _, _, sequence, _⟩ := f
        cases worker
        cases number
        cases same
        rfl
  | release other =>
      cases of_decide_eq_true touched
      rw [step_release, snapshot_reset, if_pos rfl]
      exact ⟨nofun, fun ⟨_, same, _⟩ => nomatch same⟩
  | reset other =>
      cases of_decide_eq_true touched
      have gone : (s.step (.reset id)).snapshot id = none := (s.snapshot_reset id id).trans (if_pos rfl)
      rw [gone]
      exact ⟨nofun, fun ⟨_, same, _⟩ => nomatch same⟩
  | addWorker | pullOne | pullBatch | snapshot => cases touched

/-- A frame is the last that some requests put in for its worker, and bears the number that was
returned; no request since has taken it out. -/
def Standing (l : List Request) (f : Frame) : Prop :=
  ∃ before now after, l = before ++ .fill f.worker f.data f.width f.height now :: after ∧
    (empty.run before).number? (.fill f.worker f.data f.width f.height now) = some f.sequence ∧
    ∀ r ∈ after, r.touches f.worker = false

theorem Request.touches_fill (id : WorkerId) (data : Bytes) (width height : UInt32) (now : Instant) :
    (Request.fill id data width height now).touches id = true :=
  decide_eq_true rfl

/-- A frame that stands was just put in, or stood already and was left alone. -/
theorem standing_concat {l : List Request} {f : Frame} :
    Standing (l ++ [r]) f ↔ (Standing l f ∧ r.touches f.worker = false) ∨
      ∃ now, r = .fill f.worker f.data f.width f.height now ∧
        (empty.run l).number? r = some f.sequence := by
  constructor
  · rintro ⟨before, now, after, same, number, untouched⟩
    rcases List.eq_nil_or_concat after with rfl | ⟨rest, last, rfl⟩
    · obtain ⟨rfl, last⟩ := List.append_inj' same rfl
      cases last
      exact .inr ⟨now, rfl, number⟩
    · have cut : l ++ [r] =
          (before ++ .fill f.worker f.data f.width f.height now :: rest) ++ [last] := by
        rw [same]
        simp
      obtain ⟨rfl, last⟩ := List.append_inj' cut rfl
      cases last
      refine .inl ⟨⟨before, now, rest, rfl, number, ?_⟩, untouched r (by simp)⟩
      intro r' among
      exact untouched r' (by simp [among])
  · rintro (⟨⟨before, now, after, rfl, number, untouched⟩, left⟩ | ⟨now, rfl, number⟩)
    · refine ⟨before, now, after ++ [r], by simp, number, ?_⟩
      intro r' among
      rcases List.mem_append.1 among with among | last
      · exact untouched r' among
      · exact List.mem_singleton.1 last ▸ left
    · exact ⟨l, now, [], rfl, number, nofun⟩

/-- **A cache shows the frame that stands.** -/
theorem snapshot_run_iff (l : List Request) (f : Frame) :
    (empty.run l).snapshot f.worker = some f ↔ Standing l f := by
  -- from the last request backwards: it has touched the cache, or what stood before still stands
  induction l using List.reverseRecOn with
  | nil => exact ⟨nofun, fun ⟨_, _, _, same, _⟩ => absurd same (by simp)⟩
  | append_singleton l r ih =>
      rw [run_concat, standing_concat]
      cases touched : r.touches f.worker with
      | false =>
          rw [snapshot_step_of_untouched _ touched, ih]
          constructor
          · exact fun stood => .inl ⟨stood, rfl⟩
          · rintro (⟨stood, -⟩ | ⟨now, rfl, -⟩)
            · exact stood
            · exact absurd (Request.touches_fill _ _ _ _ now) (by rw [touched]; exact nofun)
      | true =>
          rw [snapshot_step_of_touched _ touched]
          constructor
          · rintro ⟨now, filled, -, number⟩
            exact .inr ⟨now, filled, number⟩
          · rintro (⟨-, left⟩ | ⟨now, filled, number⟩)
            · cases left
            · exact ⟨now, filled, rfl, number⟩

/-- A consumer gets what the caches show. -/
theorem snapshot_of_mem_handed {f : Frame} (h : f ∈ s.handed r) :
    s.snapshot f.worker = some f := by
  cases r with
  | pullOne => exact snapshot_of_pullOne (Option.mem_toList.1 h)
  | pullBatch n =>
      cases pulled : (s.pullBatch n).1 with
      | none =>
          simp only [handed, pulled] at h
          cases h
      | some batch =>
          simp only [handed, pulled] at h
          exact snapshot_of_pullBatch pulled h
  | snapshot id =>
      have shown : s.snapshot id = some f := Option.mem_toList.1 h
      rw [worker_of_snapshot shown, shown]
  | addWorker | fill | release | reset => cases h

/-- **A store that was empty once is coherent after any requests, and every frame that it hands out is
the last one put in for its worker and not taken out since.**  The numbers that frames get go up and
count the frames; a frame that stands is shown; and a pull ages the caches only if it gets a frame. -/
theorem cache_faithful (l : List Request) :
    (empty.run l).Coherent ∧
    ((empty.numbers l).Pairwise (· < ·) ∧ (empty.run l).lastFid = (empty.numbers l).length) ∧
    (∀ r, ∀ f ∈ (empty.run l).handed r, Standing l f) ∧
    (∀ f, Standing l f → (empty.run l).snapshot f.worker = some f) ∧
    ((empty.run l).pullOne.1 = none → (empty.run l).pullOne.2 = empty.run l) := by
  have coherent : (empty.run l).Coherent := coherent_run coherent_empty l
  have count : (empty.run l).lastFid = (empty.numbers l).length :=
    (lastFid_run empty l).trans (Nat.zero_add _)
  refine ⟨coherent, ⟨pairwise_numbers empty l, count⟩, ?_, ?_, coherent.pullOne_of_none⟩
  · intro r f among
    exact (snapshot_run_iff l f).1 (snapshot_of_mem_handed among)
  · exact fun f => (snapshot_run_iff l f).2

/-- A rehearsal: a frame is put in, pulled and given back, and the next is taken in a batch, with one
of a worker that was never added. -/
def rehearsal : List Request :=
  [.addWorker ⟨1⟩, .fill ⟨2⟩ [2] 1 1 ⟨0⟩, .fill ⟨1⟩ [1] 1 1 ⟨0⟩, .pullOne, .release ⟨1⟩,
    .fill ⟨1⟩ [3] 1 1 ⟨1⟩, .pullBatch 2]

theorem cache_faithful_rehearsed :
    (empty.run rehearsal).handed (.snapshot ⟨1⟩) = [⟨⟨1⟩, 1, 1, 3, [3]⟩] ∧
    Standing rehearsal ⟨⟨1⟩, 1, 1, 3, [3]⟩ ∧
    (empty.run rehearsal).snapshot ⟨1⟩ = some ⟨⟨1⟩, 1, 1, 3, [3]⟩ ∧
    (empty.run rehearsal).pullOne.1 = none ∧
    (empty.run rehearsal).pullOne.2 = empty.run rehearsal := by
  have handed : (empty.run rehearsal).handed (.snapshot ⟨1⟩) = [⟨⟨1⟩, 1, 1, 3, [3]⟩] := by cbv
  have nothing : (empty.run rehearsal).pullOne.1 = none := by cbv
  obtain ⟨-, -, stands, shown, unchanged⟩ := cache_faithful rehearsal
  have standing := stands (.snapshot ⟨1⟩) ⟨⟨1⟩, 1, 1, 3, [3]⟩ (handed ▸ List.mem_singleton_self _)
  exact ⟨handed, standing, shown _ standing, nothing, unchanged nothing⟩

end FrameStore

end FrameMux
