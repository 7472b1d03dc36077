/-
**What is done for one worker.**

All workers share one supervisor, one cache, and the numbers of the links and of the frames.  Still,
what is done for one of them does not reach the others: they look as before, and nothing is called for
them.

Main definitions:

* `FrameMux.World.Sound` — what holds of every world on the way;
* `FrameMux.World.Aside` — **something was done for one worker**, as the others see it.

Main results:

* `FrameMux.World.Sound.aside_follow` — the supervisor's doings for a worker are such;
* `FrameMux.World.Sound.aside_dispatch`, `aside_receive`, `aside_produce` and the like — and so is
  **everything else that is about one worker**.
-/

import FrameMux.Proofs.Supervisor.View
import FrameMux.Proofs.World.Calls
import FrameMux.Proofs.World.Wakeups

set_option relaxedAutoImplicit false
set_option autoImplicit false

namespace FrameMux

namespace World

variable {σ : Type}

/-! ### Links apart -/

/-- Every record bears the identifier of its worker, and every worker is attached to the link that it
holds. -/
structure Sound (w : World σ) : Prop where
  named : w.Named
  linked : w.Linked

/-- So the process of every worker can be started. -/
theorem Sound.fit {w : World σ} (sound : w.Sound) (id : WorkerId) : w.sup.Fit id :=
  ⟨sound.named id, sound.linked.apart id⟩

/-- The link that a worker holds is there, and no other worker holds it. -/
theorem Sound.alone {w : World σ} (sound : w.Sound) {id other : WorkerId} (ne : other ≠ id) {n : Nat}
    (holds : w.held? other = some n) : n < w.sup.links.length ∧ w.held? id ≠ some n := by
  obtain ⟨channels, held, rfl⟩ := Option.map_eq_some_iff.1 holds
  obtain ⟨rec, known, held⟩ := Option.bind_eq_some_iff.1 held
  obtain ⟨g, l, attached⟩ := sound.linked.held other rec channels known held
  refine ⟨(List.getElem?_eq_some_iff.1 attached.link).1, ?_⟩
  intro holds'
  obtain ⟨channels', held', link⟩ := Option.map_eq_some_iff.1 holds'
  obtain ⟨rec', known', held'⟩ := Option.bind_eq_some_iff.1 held'
  exact ne (sound.linked.unique known held known' held' link.symm)

/-! ### Asides -/

/-- From one world to a later one, something was done for one worker only: nobody becomes known or
unknown, the other workers look the same, and all new calls are for the one. -/
structure Aside (id : WorkerId) (w w' : World σ) : Prop where
  sound : w'.Sound
  known : ∀ other, (w'.sup.worker? other).isSome = (w.sup.worker? other).isSome
  policy : w'.sup.policy = w.sup.policy
  views : ∀ other, other ≠ id → w'.sup.view other = w.sup.view other
  calls : ∃ new : List Call, w'.calls = w.calls ++ new.map fun call => (id, call)

namespace Aside

variable {w w' w'' : World σ} {id : WorkerId}

theorem refl (sound : w.Sound) (id : WorkerId) : Aside id w w :=
  ⟨sound, fun _ => rfl, rfl, fun _ _ => rfl, [], (List.append_nil _).symm⟩

theorem trans (h : Aside id w w') (h' : Aside id w' w'') : Aside id w w'' where
  sound := h'.sound
  known := fun other => (h'.known other).trans (h.known other)
  policy := h'.policy.trans h.policy
  views := fun other ne => (h'.views other ne).trans (h.views other ne)
  calls := by
    obtain ⟨new, made⟩ := h.calls
    obtain ⟨new', made'⟩ := h'.calls
    exact ⟨new ++ new', by rw [made', made, List.map_append, List.append_assoc]⟩

/-- Nothing is called for the others. -/
theorem callsFor_eq (h : Aside id w w') {other : WorkerId} (ne : other ≠ id) :
    callsFor other w'.calls = callsFor other w.calls := by
  obtain ⟨new, made⟩ := h.calls
  rw [made, callsFor_append, callsFor_map, if_neg ne, List.append_nil]

/-- What was called for the worker stays. -/
theorem callsFor_append (h : Aside id w w') :
    ∃ new, callsFor id w'.calls = callsFor id w.calls ++ new := by
  obtain ⟨new, made⟩ := h.calls
  exact ⟨new, by rw [made, FrameMux.callsFor_append, callsFor_map, if_pos rfl]⟩

/-- Nothing is called, no record is changed, and what is changed elsewhere does not show. -/
theorem of_same (sound : w'.Sound) (calls : w'.calls = w.calls)
    (policy : w'.sup.policy = w.sup.policy)
    (record : ∀ other, w'.sup.worker? other = w.sup.worker? other)
    (link : ∀ other, other ≠ id → ∀ n, w.held? other = some n →
      w'.sup.links[n]? = w.sup.links[n]?)
    (cache : ∀ other, other ≠ id → (w'.sup.frames.cached? other).map CachedFrame.unnumbered =
      (w.sup.frames.cached? other).map CachedFrame.unnumbered) : Aside id w w' where
  sound := sound
  known := fun other => by rw [record other]
  policy := policy
  views := fun other ne => Supervisor.view_congr (record other) (link other ne) (cache other ne)
  calls := ⟨[], by rw [calls, List.map_nil, List.append_nil]⟩

/-- One record is changed, and the link that its worker holds. -/
theorem of_rewired (sound : w.Sound) (sound' : w'.Sound) {rec rec' : Worker} {channels : WorkerLink}
    {link' : Link} (known : w.sup.worker? id = some rec) (holds : rec.channels = some channels)
    (rewired : Supervisor.Rewired w.sup w'.sup id rec' channels.link link')
    (calls : w'.calls = w.calls)
    (cache : ∀ other, other ≠ id → w'.sup.frames.cached? other = w.sup.frames.cached? other) :
    Aside id w w' where
  sound := sound'
  known := rewired.isSome_worker? known
  policy := rewired.policy
  views := by
    intro other ne
    refine Supervisor.view_congr (rewired.others other ne) ?_ (congrArg _ (cache other ne))
    intro n holds'
    have apart : channels.link ≠ n := by
      intro same
      exact (sound.alone ne holds').2 ((held?_eq known holds).trans (congrArg some same))
    rw [rewired.links, List.getElem?_set_ne apart]
  calls := ⟨[], by rw [calls, List.map_nil, List.append_nil]⟩

/-- One record is changed without its link, and the cache of its worker. -/
theorem of_modified (sound : w'.Sound) {f : Worker → Worker}
    (record : ∀ other, w'.sup.worker? other =
      if other = id then (w.sup.worker? other).map f else w.sup.worker? other)
    (links : w'.sup.links = w.sup.links) (calls : w'.calls = w.calls)
    (policy : w'.sup.policy = w.sup.policy)
    (cache : ∀ other, other ≠ id → w'.sup.frames.cached? other = w.sup.frames.cached? other) :
    Aside id w w' where
  sound := sound
  known := by
    intro other
    rw [record other]
    split
    · exact Option.isSome_map
    · rfl
  policy := policy
  views := by
    intro other ne
    refine Supervisor.view_congr ((record other).trans (if_neg ne)) ?_ (congrArg _ (cache other ne))
    intro n _
    rw [links]
  calls := ⟨[], by rw [calls, List.map_nil, List.append_nil]⟩

end Aside

/-! ### Events and frames -/

variable [ProcessManager σ] {w w' : World σ} {id : WorkerId}

/-- Every part leaves the world sound. -/
theorem Sound.part (sound : w.Sound) (part : Part (fun _ _ => True) w w') : w'.Sound :=
  ⟨part.named sound.named, sound.linked.part sound.named part⟩

/-- Dispatching a token is about its worker. -/
theorem Sound.aside_dispatch (sound : w.Sound) (token : Token) (mmap : Mmap) :
    Aside token.worker w (w.dispatch token mmap) := by
  have dispatched := w.dispatched_dispatch token mmap
  have sound' := sound.part (.dispatch dispatched)
  generalize w.dispatch token mmap = w' at dispatched sound' ⊢
  cases dispatched with
  | idle => exact .of_same sound' rfl rfl (fun _ => rfl) (fun _ _ _ _ => rfl) (fun _ _ => rfl)
  | drained known current holds there drained frames rewired =>
      exact .of_rewired sound sound' known holds ⟨rewired.manager, rewired.policy, rewired.poller,
        rewired.links, rewired.worker, rewired.others⟩ rfl fun other _ =>
          congrArg (·.cached? other) frames

/-- A look at a worker's region is about the worker. -/
theorem Sound.aside_receive (sound : w.Sound) (now : Instant) (id : WorkerId) :
    Aside id w (receive now w id) := by
  have received := w.received_receive now id
  have sound' := sound.part (.receive received)
  generalize receive now w id = w' at received sound' ⊢
  cases received with
  | skipped => exact .refl sound id
  | noted quiet =>
      exact .of_modified sound' (w.sup.worker?_modifyWorker id · _) rfl rfl rfl fun _ _ => rfl
  | taken waits quiet took counted rewired filled =>
      refine .of_rewired sound sound' waits.known waits.holds ⟨rewired.manager, rewired.policy,
        rewired.poller, rewired.links, rewired.worker, rewired.others⟩ rfl ?_
      intro other ne
      refine (congrArg (·.cached? other) filled).trans ?_
      rw [FrameStore.cached?_fill, if_neg ne.symm]
  | missed waits quiet _ rewired frames | cut waits quiet _ _ rewired frames =>
      exact .of_rewired sound sound' waits.known waits.holds ⟨rewired.manager, rewired.policy,
        rewired.poller, rewired.links, rewired.worker, rewired.others⟩ rfl fun other _ =>
          congrArg (·.cached? other) frames

/-- A deed of a producer is about the worker that holds the link, and if nobody does, then it may be
said to be about any worker. -/
theorem Sound.aside_produce (sound : w.Sound) {n : Nat}
    (others : ∀ other, other ≠ id → w.held? other ≠ some n) (d : Deed) :
    Aside id w (w.produce n d) := by
  cases there : w.sup.links[n]? with
  | none =>
      rw [produce_of_unlinked there]
      exact .refl sound id
  | some link =>
      have sound' := sound.part (.produce there d trivial)
      rw [produce_of_link there] at sound' ⊢
      refine .of_same sound' rfl rfl (fun _ => rfl) ?_ (fun _ _ => rfl)
      intro other ne m holds
      have apart : n ≠ m := fun same => others other ne (same ▸ holds)
      exact List.getElem?_set_ne apart

/-! ### The consumer -/

/-- A consumer gives the frame of a worker back. -/
theorem Sound.aside_release (sound : w.Sound) (id : WorkerId) (now : Instant) :
    Aside id w (w.step (.release id now)) := by
  simp only [step]
  cases released : w.mux.release id now with
  | error e => exact .refl sound id
  | ok mux =>
      have sup : World.sup { w with mux } = Supervisor.noteRelease _ _ _ := release_ok released
      refine .of_modified (sound.part (.release mux released)) (f := fun rec =>
        { rec with lastRelease := some now }) ?_ (congrArg (·.links) sup) rfl
        (congrArg (·.policy) sup) ?_
      · intro other
        refine (congrArg (·.worker? other) sup).trans ?_
        rw [Supervisor.noteRelease, Supervisor.worker?_modifyWorker]
        rfl
      · intro other ne
        refine (congrArg (·.frames.cached? other) sup).trans ?_
        exact Supervisor.cached?_reset_of_ne _ ne

omit [ProcessManager σ] in
/-- The cache of a worker is emptied. -/
theorem Sound.aside_resetCache (sound : w.Sound) (id : WorkerId) :
    Aside id w (w.withSup (w.sup.resetCache id)) := by
  have sound' : (w.withSup (w.sup.resetCache id)).Sound :=
    ⟨sound.named, sound.linked.withFrames rfl rfl rfl⟩
  refine .of_same sound' rfl rfl (fun _ => rfl) (fun _ _ _ _ => rfl) ?_
  intro other ne
  exact congrArg _ (Supervisor.cached?_reset_of_ne _ ne)

/-- Waiting for counters is about nobody. -/
theorem Sound.aside_wait (sound : w.Sound) (id : WorkerId) : Aside id w (w.step .wait) :=
  .of_same (sound.part .wait) rfl rfl (fun _ => rfl) (fun _ _ _ _ => rfl) (fun _ _ => rfl)

/-- Nor is pulling a single frame, which only makes the others wait longer. -/
theorem Sound.aside_pullOne (sound : w.Sound) (id : WorkerId) (now : Instant) :
    Aside id w (w.step (.pullOne now)) := by
  have sound' := sound.part (.pullOne now)
  have aged (chosen other : WorkerId) (e : CachedFrame) :
      (FrameStore.ageAfterPull chosen other e).unnumbered = e.unnumbered := by
    unfold FrameStore.ageAfterPull
    split <;> rfl
  simp only [step, Mux.pullOne] at sound' ⊢
  split at sound'
  · exact .refl sound id
  · next frame frames pulled =>
      refine .of_same sound' rfl rfl (fun _ => rfl) (fun _ _ _ _ => rfl) ?_
      intro other _
      unfold FrameStore.pullOne at pulled
      split at pulled
      · cases pulled
      · obtain ⟨-, rfl⟩ := Prod.mk.inj pulled
        show (Roster.get? (w.mux.supervisor.frames.entries.mapIdx _) other).map _ = _
        rw [Roster.get?_mapIdx, Option.map_map]
        exact congrArg (Option.map · _) (funext (aged _ other))

/-! ### The supervisor -/

/-- A move is about its worker. -/
theorem Sound.aside_move (sound : w.Sound) {s : Supervisor (Recorder σ)}
    (move : Supervisor.Move id w.sup s) : Aside id w (w.follow id s) where
  sound := sound.part (.move move)
  known := by
    intro other
    by_cases same : other = id
    · subst same
      have map_id := congrArg Option.isSome (move.map_id (sound.named other))
      rw [Option.isSome_map, Option.isSome_map] at map_id
      exact map_id
    · exact congrArg Option.isSome (move.worker?_of_ne (sound.named id) same)
  policy := move.policy
  views := fun other ne =>
    move.view_of_ne (sound.fit id) ne fun _ holds => sound.alone ne holds
  calls := by
    obtain ⟨new, made⟩ := move.calls
    exact ⟨new, by rw [follow_eq id made]⟩

/-- What the supervisor does for a worker by a chain of moves is about the worker. -/
theorem Sound.aside_follow (sound : w.Sound) {s : Supervisor (Recorder σ)}
    (moves : Supervisor.Moves id w.sup s) : Aside id w (w.follow id s) := by
  generalize same : w.sup = s₀ at moves
  induction moves generalizing w with
  | refl s =>
      subst same
      rw [follow_of_manager id rfl]
      exact .refl sound id
  | step first rest ih =>
      subst same
      obtain ⟨new, calls⟩ := first.calls
      obtain ⟨new', calls'⟩ := rest.calls
      have aside := sound.aside_move first
      rw [← follow_follow id calls calls']
      exact aside.trans (ih aside.sound rfl)

/-- So is what it does for a worker on request. -/
theorem Sound.aside_attempt (sound : w.Sound) (id : WorkerId) (effect : Effect) (now : Instant) :
    Aside id w (w.attempt id (w.sup.retryKnown id effect now)) := by
  unfold Supervisor.retryKnown
  split
  · exact sound.aside_follow (Supervisor.moves_retry (sound.named id) effect now)
  · exact .refl sound id

end World

end FrameMux
