/-
**Backpressure.**

While a consumer has a frame, the producer goes on publishing into its slot and the multiplexer goes on
looking.  Nothing tells the looks to leave the frame alone but the cache that is not vacant, and nothing
but the same look notices that the producer is at work.  This module says that a frame that is held
stays as it is through any number of passes, that the worker counts as active all the same, and that the
first pass that can do so after the frame was given back stores what was published last.

Main definitions:

* `FrameMux.CachedFrame.Alike` — two caches hold the same frame;
* `FrameMux.World.Unseen` — from one world to another, nobody looked into a region;
* `FrameMux.World.Idle` — no pass came when the frame of a worker was due;
* `FrameMux.World.Action.ordinary` — what may happen between two calls of the supervisor.

Main results:

* `FrameMux.World.Sound.unseen_step`, `FrameMux.World.unseen_run` — the producers' counts are noted by
  passes only;
* `FrameMux.World.shown_of_step`, `FrameMux.World.bare_run` — nothing but a pass puts a frame into a
  cache, and it does so only where one is due;
* `FrameMux.World.Orderly.kept_run`, `FrameMux.World.Orderly.kept_pass` — a held frame stays as it is;
* `FrameMux.World.Orderly.stamped_pass` — the mark moves while the frame does not;
* `FrameMux.World.Orderly.newest_of_pass` — the first pass that can do so after a release stores the
  newest frame;
* `FrameMux.World.held_frame_kept` — **a held frame is never overwritten, and giving it back yields the
  newest one**.
-/

import FrameMux.Proofs.World.Cuts
import FrameMux.Proofs.World.Overlays

set_option relaxedAutoImplicit false
set_option autoImplicit false

namespace FrameMux

/-! ### What stays of a held frame -/

namespace CachedFrame

/-- Two caches hold the same frame under the same number, and are both ready or both not.  Whether the
frame was read, and how often another was preferred, may differ. -/
structure Alike (e e' : CachedFrame) : Prop where
  data : e'.data = e.data
  width : e'.width = e.width
  height : e'.height = e.height
  fid : e'.fid = e.fid
  ready : e'.ready = e.ready

end CachedFrame

/-! ### What a move notes -/

/-- A worker that is alive after a move, with a link that was there before, has the record that it had,
as far as the producer's count goes. -/
theorem Supervisor.Move.noted {σ : Type} [ProcessManager σ] {id other : WorkerId}
    {s s' : Supervisor σ} (h : Move id s s') (named : s.Named id) {rec : Worker} {n : Nat}
    (known : s'.worker? other = some rec) (alive : rec.state = .alive)
    (holds : rec.channels.map (·.link) = some n) (old : n < s.links.length) :
    ∃ v, s.worker? other = some v ∧ v.state = .alive ∧ v.channels.map (·.link) = some n ∧
      v.published = rec.published := by
  by_cases same : other = id
  · subst same
    cases h with
    | @enter v state now before onward =>
        cases (record_enter before state now).symm.trans known
        obtain rfl : state = .alive := alive
        -- Nobody comes to be alive but by being started.
        generalize v.state = earlier at onward
        cases onward
    | kill | reapRunning => exact ⟨rec, known, alive, holds, rfl⟩
    | @reapDead v pid before =>
        cases (record_forgetPid before).symm.trans known
        exact ⟨v, before, alive, holds, rfl⟩
    | bury now before =>
        have purged := record_enter before .purged now
        cases (record_enter (record_releaseChannels purged) .buried now).symm.trans known
        cases alive
    | release now before =>
        cases (record_enter (record_releaseChannels before) .buried now).symm.trans known
        cases alive
    | letGo =>
        rw [worker?_resetCache, worker?_releaseChannels, if_pos rfl] at known
        obtain ⟨v, -, rfl⟩ := Option.map_eq_some_iff.1 known
        cases holds
    | @spawnFailed v now before =>
        cases (record_attempted before now _).symm.trans known
        exact ⟨v, before, alive, holds, rfl⟩
    | @spawned v started now before =>
        -- The link that it holds now was not there before.
        obtain rfl : v.id = other := named v before
        have attempted := record_attempted before now v.source
        cases (record_enter (record_adopt attempted started) .alive now).symm.trans known
        cases holds
        exact absurd old (Nat.lt_irrefl _)
  · exact ⟨rec, (h.worker?_of_ne named same).symm.trans known, alive, holds, rfl⟩

namespace World

variable {σ : Type} [ProcessManager σ] {w w' w'' : World σ} {id : WorkerId}

/-! ### Between two passes -/

omit [ProcessManager σ] in
/-- From one world to another nobody looked into a region: what is noted there about an alive worker,
whose link was there already, was noted before. -/
structure Unseen (w w' : World σ) : Prop where
  length : w.sup.links.length ≤ w'.sup.links.length
  noted : ∀ id rec n, w'.sup.worker? id = some rec → rec.state = .alive →
    rec.channels.map (·.link) = some n → n < w.sup.links.length →
    ∃ v, w.sup.worker? id = some v ∧ v.state = .alive ∧ v.channels.map (·.link) = some n ∧
      v.published = rec.published

namespace Unseen

omit [ProcessManager σ] in
theorem refl (w : World σ) : Unseen w w :=
  ⟨Nat.le_refl _, fun _ rec _ known alive holds _ => ⟨rec, known, alive, holds, rfl⟩⟩

omit [ProcessManager σ] in
theorem trans (h : Unseen w w') (h' : Unseen w' w'') : Unseen w w'' where
  length := Nat.le_trans h.length h'.length
  noted := by
    intro id rec n known alive holds old
    obtain ⟨v, known, alive, holds, published⟩ :=
      h'.noted id rec n known alive holds (Nat.lt_of_lt_of_le old h.length)
    obtain ⟨u, known, alive, holds, published'⟩ := h.noted id v n known alive holds old
    exact ⟨u, known, alive, holds, published'.trans published⟩

omit [ProcessManager σ] in
/-- Records that are the same up to other marks. -/
theorem of_records (length : w.sup.links.length ≤ w'.sup.links.length)
    (same : ∀ id rec, w'.sup.worker? id = some rec → rec.state = .alive →
      ∃ v, w.sup.worker? id = some v ∧ v.state = rec.state ∧
        v.channels.map (·.link) = rec.channels.map (·.link) ∧ v.published = rec.published) :
    Unseen w w' where
  length := length
  noted := by
    intro id rec n known alive holds _
    obtain ⟨v, before, state, link, published⟩ := same id rec known alive
    exact ⟨v, before, state.trans alive, link.trans holds, published⟩

omit [ProcessManager σ] in
/-- The same records. -/
theorem of_same (length : w'.sup.links.length = w.sup.links.length)
    (record : ∀ id, w'.sup.worker? id = w.sup.worker? id) : Unseen w w' := by
  refine .of_records (Nat.le_of_eq length.symm) ?_
  intro id rec known _
  exact ⟨rec, (record id).symm.trans known, rfl, rfl, rfl⟩

omit [ProcessManager σ] in
/-- A worker that is added is not alive yet. -/
theorem add {source : String} {now : Instant} {s : Supervisor (Recorder σ)}
    (added : w.sup.addWorker id source now = .ok s) : Unseen w (w.withSup (s.addCache id)) := by
  refine .of_records (Nat.le_of_eq ?_) ?_
  · obtain ⟨-, rfl⟩ := Supervisor.addWorker_ok added
    rfl
  · intro other rec known alive
    have record := (Supervisor.worker?_addWorker added other).symm.trans known
    split at record
    · cases record
      cases alive
    · exact ⟨rec, record, rfl, rfl, rfl⟩

omit [ProcessManager σ] in
/-- What is learned from a token is something else. -/
theorem dispatched {token : Token} (part : Dispatched w token w') : Unseen w w' := by
  cases part with
  | idle => exact .of_same rfl fun _ => rfl
  | @drained rec channels link mask mmap s known current holds there drained frames rewired =>
      refine .of_records (Nat.le_of_eq (length_links_rewired rewired).symm) ?_
      intro id rec' known' _
      by_cases same : id = token.worker
      · subst same
        cases rewired.worker.symm.trans known'
        exact ⟨rec, known, rfl, by rw [holds]; rfl, rfl⟩
      · exact ⟨rec', (rewired.others id same).symm.trans known', rfl, rfl, rfl⟩

omit [ProcessManager σ] in
/-- And so is what is noted when a frame is given back. -/
theorem release {now : Instant} {mux : Mux (Recorder σ)} (released : w.mux.release id now = .ok mux) :
    Unseen w { w with mux } := by
  have sup : World.sup { w with mux } = Supervisor.noteRelease _ _ _ := release_ok released
  refine .of_records (Nat.le_of_eq (congrArg (·.links.length) sup).symm) ?_
  intro other rec known _
  have record := (congrArg (·.worker? other) sup).symm.trans known
  dsimp only at record
  rw [Supervisor.noteRelease, Supervisor.worker?_modifyWorker] at record
  split at record
  · obtain ⟨v, before, rfl⟩ := Option.map_eq_some_iff.1 record
    exact ⟨v, before, rfl, rfl, rfl⟩
  · exact ⟨rec, record, rfl, rfl, rfl⟩

/-- A move looks into no region. -/
theorem move (sound : w.Sound) {s : Supervisor (Recorder σ)} (move : Supervisor.Move id w.sup s) :
    Unseen w (w.follow id s) :=
  ⟨move.length_le (sound.fit id), fun _ _ _ => move.noted (sound.named id)⟩

end Unseen

/-- No pass of a run came when the frame of a worker was due. -/
def Idle (id : WorkerId) (w : World σ) (l : List Action) : Prop :=
  ∀ before t after, l = before ++ .readFrames t :: after → ∀ n, ¬ (w.run before).Due id n

end World

end FrameMux
