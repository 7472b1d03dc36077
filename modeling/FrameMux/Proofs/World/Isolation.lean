/-
**Isolation.**

Two runs may differ in everything that concerns one worker: what the process manager answers for it,
what its producers do, which of its tokens are dispatched, and when its frame is given back.  Its link
may get another number, and its frames may take numbers away from others.  As long as every call for
another worker is answered by what was called for that worker, the others look the same in both runs,
unless a pass over the regions stops in the middle at the one: then it does not get to those behind it,
and what one producer writes into a header is felt by all of them.

Main definitions:

* `FrameMux.World.Happening` — what happens in a run, the producers named by their workers;
* `FrameMux.World.Happening.matters` — whether it **can matter to others** than a certain worker;
* `FrameMux.World.Uncut` — no pass was cut short at a worker;
* `FrameMux.World.Alike` — a worker looks the same in two worlds, or the answers for it differed;
* `FrameMux.World.Together` — two worlds in which all workers but one are alike.

Main results:

* `FrameMux.World.produce_eq` — every deed of a producer is such a happening;
* `FrameMux.World.Together.both` — what is done for a worker in both worlds keeps them together;
* `FrameMux.World.Together.pass` — so does a pass that is not cut short at the one;
* `FrameMux.World.Together.happen` — and so does **everything that happens in both**;
* `FrameMux.World.others_undisturbed` — **what concerns one worker does not reach another**, unless a
  pass is cut short at it;
* `FrameMux.World.cut_disturbs` — and then it does.
-/

import FrameMux.Proofs.World.Asides
import FrameMux.Proofs.World.Deliveries
import FrameMux.Proofs.World.InStep

set_option relaxedAutoImplicit false
set_option autoImplicit false

namespace FrameMux

namespace World

/-! ### Happenings -/

/-- Whether an action is about the workers one by one, and says about which.  The frames of a batch
are chosen among those of all workers, and the links of producers are numbered across all workers. -/
def Action.plain : Action → Bool
  | .pullBatch .. | .produce .. => false
  | _ => true

/-- What happens in a run: an action, a deed of the producer whose link a worker holds, a deed of a
producer whose link nobody holds, or the emptying of a worker's cache. -/
inductive Happening where
  | act (a : Action) (plain : a.plain = true)
  | produce (id : WorkerId) (deed : Deed)
  | stray (n : Nat) (deed : Deed)
  | reset (id : WorkerId)

/-- Whether an action can matter to others than a certain worker. -/
def Action.matters (id : WorkerId) : Action → Bool
  | .event other .. | .killWorker other _ | .reapWorker other _ | .releaseWorker other _
  | .release other _ => other ≠ id
  | .dispatch token _ => token.worker ≠ id
  | .wait | .pullOne _ | .snapshot _ => false
  | _ => true

/-- Whether what happens can matter to others than a certain worker. -/
def Happening.matters (id : WorkerId) : Happening → Bool
  | .act a _ => a.matters id
  | .produce other _ | .reset other => other ≠ id
  | .stray .. => false

section

variable {σ : Type}

/-- A deed of the producer whose link a worker holds. -/
def deed (w : World σ) (id : WorkerId) (d : Deed) : World σ :=
  (w.held? id).elim w fun n => w.produce n d

/-- A deed of a producer whose link nobody holds. -/
def stray (w : World σ) (n : Nat) (d : Deed) : World σ :=
  if w.sup.ids.any fun id => w.held? id = some n then w else w.produce n d

/-- The world after something happened. -/
def happen [ProcessManager σ] (w : World σ) : Happening → World σ
  | .act a _ => w.step a
  | .produce id d => w.deed id d
  | .stray n d => w.stray n d
  | .reset id => w.withSup (w.sup.resetCache id)

/-- The world after a history. -/
def after [ProcessManager σ] (w : World σ) (l : List Happening) : World σ := l.foldl happen w

/-- Every deed of a producer is one or the other. -/
theorem produce_eq (w : World σ) (n : Nat) (d : Deed) :
    (∃ id, w.held? id = some n ∧ w.produce n d = w.deed id d) ∨ w.produce n d = w.stray n d := by
  cases held : w.sup.ids.any fun id => w.held? id = some n with
  | false =>
      right
      rw [stray, held, if_neg Bool.false_ne_true]
  | true =>
      left
      obtain ⟨id, -, holds⟩ := List.any_eq_true.1 held
      have holds : w.held? id = some n := of_decide_eq_true holds
      exact ⟨id, holds, by rw [deed, holds, Option.elim_some]⟩

/-- A token is dispatched by the supervisor. -/
theorem sup_dispatch (w : World σ) (token : Token) (mmap : Mmap) :
    (w.dispatch token mmap).sup = (w.sup.dispatch token mmap).2 := by
  unfold dispatch
  dsimp only
  split
  · rfl
  · rfl

/-- A worker that holds a link is listed. -/
theorem mem_ids_of_held {w : World σ} {id : WorkerId} {n : Nat} (holds : w.held? id = some n) :
    id ∈ w.sup.ids := by
  obtain ⟨channels, held, -⟩ := Option.map_eq_some_iff.1 holds
  obtain ⟨rec, known, -⟩ := Option.bind_eq_some_iff.1 held
  exact (w.sup.workers.mem_ids_iff id).2 (Option.isSome_iff_exists.2 ⟨rec, known⟩)

variable [ProcessManager σ] {w : World σ}

/-- A deed of the producer whose link a worker holds is about the worker. -/
theorem Sound.aside_deed (sound : w.Sound) (id : WorkerId) (d : Deed) : Aside id w (w.deed id d) := by
  unfold deed
  cases holds : w.held? id with
  | none => exact .refl sound id
  | some n =>
      refine sound.aside_produce ?_ d
      intro other ne holds'
      exact (sound.alone ne holds').2 holds

/-- A deed on a link that nobody holds is about nobody. -/
theorem Sound.aside_stray (sound : w.Sound) (id : WorkerId) (n : Nat) (d : Deed) :
    Aside id w (w.stray n d) := by
  unfold stray
  split
  · exact .refl sound id
  · next free =>
      refine sound.aside_produce ?_ d
      intro other _ holds
      exact free (List.any_eq_true.2 ⟨other, mem_ids_of_held holds, decide_eq_true holds⟩)

omit [ProcessManager σ] in
/-- A deed calls nobody. -/
theorem calls_deed (w : World σ) (id : WorkerId) (d : Deed) : (w.deed id d).calls = w.calls := by
  unfold deed produce
  cases w.held? id with
  | none => rfl
  | some n =>
      rw [Option.elim_some]
      split <;> rfl

omit [ProcessManager σ] in
/-- What a deed does to the view of the worker that holds the link. -/
theorem view_deed (w : World σ) (id : WorkerId) (d : Deed) :
    (w.deed id d).sup.view id =
      { w.sup.view id with link := (w.sup.view id).link.map d.act } := by
  have holds : w.held? id = w.sup.held? id := rfl
  unfold deed
  rw [holds]
  cases holds : w.sup.held? id with
  | none =>
      unfold Supervisor.view
      rw [Option.elim_none, holds]
      rfl
  | some n =>
      rw [Option.elim_some]
      cases there : w.sup.links[n]? with
      | none =>
          rw [produce_of_unlinked there]
          unfold Supervisor.view
          rw [holds, Option.bind_some, there]
          rfl
      | some link =>
          rw [← Supervisor.view_modifyLink holds, produce_of_link there]
          refine Supervisor.view_congr rfl ?_ rfl
          intro m holds'
          obtain rfl : n = m := Option.some.inj (holds.symm.trans holds')
          show (w.sup.links.set n (d.act link))[n]? = (w.sup.links.modify n d.act)[n]?
          rw [List.getElem?_modify_eq, there]
          exact List.getElem?_set_self (List.getElem?_eq_some_iff.1 there).1

/-- What a consumer's release does to the view of the worker, if it has a cache. -/
theorem view_release (w : World σ) (id : WorkerId) (now : Instant) :
    (w.step (.release id now)).sup.view id =
      if (w.sup.view id).cache.isSome then
        { w.sup.view id with
          record := (w.sup.view id).record.map fun rec => { rec with lastRelease := some now }
          cache := (w.sup.view id).cache.map CachedFrame.clear }
      else w.sup.view id := by
  have cached : (w.sup.view id).cache.isSome = w.mux.supervisor.frames.entries.contains id :=
    Option.isSome_map
  rw [cached, ← Supervisor.view_noteRelease]
  simp only [step, Mux.release, FrameStore.release?]
  cases w.mux.supervisor.frames.entries.contains id <;> rfl

/-- **What cannot matter to others** is about the one worker, or about nobody. -/
theorem Sound.aside_happen (sound : w.Sound) {id : WorkerId} {h : Happening}
    (idle : h.matters id = false) : Aside id w (w.happen h) := by
  have same {other : WorkerId} (idle : decide (other ≠ id) = false) : other = id :=
    Decidable.not_not.1 (of_decide_eq_false idle)
  cases h with
  | produce other d =>
      obtain rfl := same idle
      exact sound.aside_deed other d
  | stray n d => exact sound.aside_stray id n d
  | reset other =>
      obtain rfl := same idle
      exact sound.aside_resetCache other
  | act a plain =>
      cases a with
      | event other event external now =>
          obtain rfl := same idle
          exact sound.aside_follow (Supervisor.moves_handleEvent (sound.named other) external now)
      | killWorker other now =>
          obtain rfl := same idle
          exact sound.aside_attempt other .kill now
      | reapWorker other now =>
          obtain rfl := same idle
          exact sound.aside_attempt other .reap now
      | releaseWorker other now =>
          obtain rfl := same idle
          exact sound.aside_attempt other .release now
      | dispatch token mmap =>
          obtain rfl := same idle
          exact sound.aside_dispatch token mmap
      | release other now =>
          obtain rfl := same idle
          exact sound.aside_release other now
      | wait => exact sound.aside_wait id
      | pullOne now => exact sound.aside_pullOne id now
      | snapshot other => exact .refl sound id
      | _ => cases idle

end

/-! ### What only grows -/

section

variable {σ : Type}

/-- No pass was cut short at a worker. -/
def Uncut (id : WorkerId) (w : World σ) : Prop := ∀ g ∈ w.ledgers, g.worker = id → g.cut = false

instance (id : WorkerId) (w : World σ) : Decidable (w.Uncut id) :=
  inferInstanceAs (Decidable (∀ g ∈ w.ledgers, g.worker = id → g.cut = false))

/-- What is never taken back: calls are only added, and ledgers only go on. -/
structure Grows (w w' : World σ) : Prop where
  calls : ∃ new, w'.calls = w.calls ++ new
  ledgers : LaterLedgers w.ledgers w'.ledgers

variable {w w' w'' : World σ} {id : WorkerId}

theorem Grows.refl (w : World σ) : Grows w w :=
  ⟨⟨[], (List.append_nil _).symm⟩, laterLedgers_refl _⟩

theorem Grows.trans (h : Grows w w') (h' : Grows w' w'') : Grows w w'' where
  calls := by
    obtain ⟨new, made⟩ := h.calls
    obtain ⟨new', made'⟩ := h'.calls
    exact ⟨new ++ new', by rw [made', made, List.append_assoc]⟩
  ledgers := h.ledgers.trans h'.ledgers

/-- What was not cut short in the end never was. -/
theorem Grows.uncut (h : Grows w w') (uncut : w'.Uncut id) : w.Uncut id := by
  intro g mem own
  obtain ⟨n, there⟩ := List.mem_iff_getElem?.1 mem
  obtain ⟨g', there', goes⟩ := h.ledgers n g there
  exact goes.cut (uncut g' (List.mem_of_getElem? there') (goes.worker.trans own))

/-- Answers that do not differ in the end never did. -/
theorem Grows.agree {τ : Type} {v v' : World τ} (h : Grows w w') (h' : Grows v v')
    (agree : ¬ Parted (callsFor id w'.calls) (callsFor id v'.calls)) :
    ¬ Parted (callsFor id w.calls) (callsFor id v.calls) := by
  intro parted
  obtain ⟨new, made⟩ := h.calls
  obtain ⟨new', made'⟩ := h'.calls
  rw [made, made', callsFor_append, callsFor_append] at agree
  exact agree (parted.append_right _ _)

variable [ProcessManager σ]

theorem Part.grows {D : Nat → Deed → Prop} (part : Part D w w') (books : SoundLedgers w.ledgers) :
    Grows w w' := by
  refine ⟨?_, (part.laterLedgers books).1⟩
  rcases part.move_or_keeps with ⟨id, s, move, rfl⟩ | ⟨-, calls⟩
  · obtain ⟨new, made⟩ := move.calls
    exact ⟨_, by rw [follow_eq id made]⟩
  · exact ⟨[], by rw [calls, List.append_nil]⟩

/-- An action. -/
theorem Joined.grows_step (h : w.Joined) (a : Action) : Grows w (w.step a) ∧ (w.step a).Joined :=
  (parts_step (D := fun _ _ => True) h.named a fun _ _ _ => trivial).induction
    (I := fun v => Grows w v ∧ v.Joined)
    (fun _ _ h part => ⟨h.1.trans (part.grows h.2.books), (h.2.part part).2⟩) ⟨.refl w, h⟩

/-- Whatever happens. -/
theorem Joined.grows_happen (h : w.Joined) (a : Happening) :
    Grows w (w.happen a) ∧ (w.happen a).Joined := by
  cases a with
  | act a plain => exact h.grows_step a
  | produce id d =>
      simp only [happen, World.deed]
      cases w.held? id with
      | none => exact ⟨.refl w, h⟩
      | some n => exact h.grows_step (.produce n d)
  | stray n d =>
      simp only [happen, World.stray]
      split
      · exact ⟨.refl w, h⟩
      · exact h.grows_step (.produce n d)
  | reset id =>
      obtain ⟨named, linked⟩ := ((⟨h.named, h.linked⟩ : w.Sound).aside_resetCache id).sound
      exact ⟨⟨⟨[], (List.append_nil _).symm⟩, laterLedgers_refl _⟩, named, linked, h.books⟩

/-- A history. -/
theorem Joined.grows_after (h : w.Joined) (l : List Happening) :
    Grows w (w.after l) ∧ (w.after l).Joined := by
  induction l generalizing w with
  | nil => exact ⟨.refl w, h⟩
  | cons a rest ih =>
      obtain ⟨first, h'⟩ := h.grows_happen a
      obtain ⟨later, done⟩ := ih h'
      exact ⟨first.trans later, done⟩

omit [ProcessManager σ] in
/-- The looks of a pass, one after another, up to one that stops it. -/
theorem forEach_looked_cons (w : World σ) (now : Instant) (id : WorkerId) (rest : List WorkerId) :
    w.forEach (Supervisor.looked now (id :: rest) w.sup) (receive now) =
      if (w.sup.readWorker now id).1 = .overflow then w.receive now id
      else (w.receive now id).forEach (Supervisor.looked now rest (w.receive now id).sup)
        (receive now) := by
  simp only [Supervisor.looked]
  rw [sup_receive]
  rcases w.sup.readWorker now id with ⟨result, s⟩
  cases result <;> rfl

omit [ProcessManager σ] in
/-- A look that stops a pass cuts the link of its worker. -/
theorem Sound.not_uncut_of_overflow (sound : w.Sound) {now : Instant}
    (stops : (w.sup.readWorker now id).1 = .overflow) : ¬ (w.receive now id).Uncut id := by
  intro uncut
  have look := w.sup.look_readWorker now id
  unfold receive at uncut
  generalize w.sup.readWorker now id = result at look stops uncut
  cases look with
  | cut waits quiet took uncounted rewired frames =>
      obtain ⟨g, l, attached⟩ := sound.linked.held id _ _ waits.known waits.holds
      simp only [held?_eq waits.known waits.holds] at uncut
      have cut := uncut g.interrupted (List.mem_of_getElem? (i := _) ((List.getElem?_modify_eq ..).trans
        (congrArg (Option.map Ledger.interrupted) attached.ledger))) attached.worker
      cases cut
  | _ => cases stops

end

/-! ### Two worlds -/

variable {σ τ : Type}

/-- A worker in two worlds: the answers to the calls for it differ somewhere, or all calls for it are
the same, and it looks the same. -/
def Alike (id : WorkerId) (w : World σ) (v : World τ) : Prop :=
  Parted (callsFor id w.calls) (callsFor id v.calls) ∨
  (callsFor id w.calls = callsFor id v.calls ∧ w.sup.view id = v.sup.view id)

/-- Two worlds in which the same workers are known, and all but one are alike. -/
structure Together (out : WorkerId) (w : World σ) (v : World τ) : Prop where
  sound : w.Sound
  sound' : v.Sound
  policy : w.sup.policy = v.sup.policy
  known : ∀ id, (w.sup.worker? id).isSome = (v.sup.worker? id).isSome
  alike : ∀ id, id ≠ out → Alike id w v

namespace Together

variable {out id : WorkerId} {w w' : World σ} {v v' : World τ}

/-- It does not matter which world is the first. -/
theorem symm (h : Together out w v) : Together out v w where
  sound := h.sound'
  sound' := h.sound
  policy := h.policy.symm
  known := fun id => (h.known id).symm
  alike := fun id ne => (h.alike id ne).imp Parted.symm fun ⟨calls, look⟩ => ⟨calls.symm, look.symm⟩

/-- Both worlds list the same workers. -/
theorem ids (h : Together out w v) : w.sup.ids = v.sup.ids := Roster.ids_eq_of_isSome_get? h.known

/-- In one world something is done for the worker that is left out. -/
theorem left (h : Together out w v) (aside : Aside out w w') : Together out w' v where
  sound := aside.sound
  sound' := h.sound'
  policy := aside.policy.trans h.policy
  known := fun other => (aside.known other).trans (h.known other)
  alike := by
    intro other ne
    unfold Alike
    rw [aside.callsFor_eq ne, aside.views other ne]
    exact h.alike other ne

/-- Or in the other world. -/
theorem right (h : Together out w v) (aside : Aside out v v') : Together out w v' :=
  (h.symm.left aside).symm

/-- **Something is done for a worker in both worlds**, in step as long as the worker looks the
same. -/
theorem both (h : Together out w v) (aside : Aside id w w') (aside' : Aside id v v')
    (own : w.sup.view id = v.sup.view id → ∃ new new',
      callsFor id w'.calls = callsFor id w.calls ++ new ∧
      callsFor id v'.calls = callsFor id v.calls ++ new' ∧
      (Parted new new' ∨ (new = new' ∧ w'.sup.view id = v'.sup.view id))) : Together out w' v' where
  sound := aside.sound
  sound' := aside'.sound
  policy := by rw [aside.policy, aside'.policy, h.policy]
  known := fun other => by rw [aside.known, aside'.known, h.known]
  alike := by
    intro other ne
    by_cases same : other = id
    · subst same
      rcases h.alike other ne with parted | ⟨calls, look⟩
      · -- Answers that differed are not undone by later calls.
        obtain ⟨new, made⟩ := aside.callsFor_append
        obtain ⟨new', made'⟩ := aside'.callsFor_append
        rw [Alike, made, made']
        exact Or.inl (parted.append_right new new')
      · obtain ⟨new, new', made, made', outcome⟩ := own look
        rw [Alike, made, made', calls]
        rcases outcome with parted | ⟨rfl, look⟩
        · exact Or.inl (parted.append_left _)
        · exact Or.inr ⟨rfl, look⟩
    · unfold Alike
      rw [aside.callsFor_eq same, aside'.callsFor_eq same, aside.views other same,
        aside'.views other same]
      exact h.alike other ne

/-- Something is done for a worker in both worlds, and nothing is called. -/
theorem quietly (h : Together out w v) (aside : Aside id w w') (aside' : Aside id v v')
    (calls : w'.calls = w.calls) (calls' : v'.calls = v.calls)
    (own : w.sup.view id = v.sup.view id → w'.sup.view id = v'.sup.view id) : Together out w' v' :=
  h.both aside aside' fun look =>
    ⟨[], [], by rw [calls, List.append_nil], by rw [calls', List.append_nil], Or.inr ⟨rfl, own look⟩⟩

/-- Something for every worker, in both worlds. -/
theorem forEach {f : World σ → WorkerId → World σ} {g : World τ → WorkerId → World τ}
    (one : ∀ w v id, Together out w v → Together out (f w id) (g v id)) (h : Together out w v) :
    Together out (w.forEach w.sup.ids f) (v.forEach v.sup.ids g) := by
  unfold World.forEach
  rw [h.ids]
  generalize v.sup.ids = ids
  induction ids generalizing w v with
  | nil => exact h
  | cons id rest ih => exact ih (one w v id h)

end Together

/-! ### What happens in both worlds -/

variable [ProcessManager σ] [ProcessManager τ] {out id : WorkerId} {w : World σ} {v : World τ}

namespace Together

/-- The supervisors do something for a worker. -/
theorem follow (h : Together out w v) {s : Supervisor (Recorder σ)} {t : Supervisor (Recorder τ)}
    (moves : Supervisor.Moves id w.sup s) (moves' : Supervisor.Moves id v.sup t)
    (inStep : w.sup.view id = v.sup.view id → Supervisor.InStep id w.sup s v.sup t) :
    Together out (w.follow id s) (v.follow id t) := by
  refine h.both (h.sound.aside_follow moves) (h.sound'.aside_follow moves') ?_
  intro look
  obtain ⟨new, new', made, made', outcome⟩ := inStep look
  refine ⟨new, new', ?_, ?_, outcome⟩
  · rw [callsFor_follow id made, if_pos rfl]
  · rw [callsFor_follow id made', if_pos rfl]

/-- The supervisors do something for a worker on request. -/
theorem attempt (h : Together out w v) (id : WorkerId) (effect : Effect) (now : Instant) :
    Together out (w.attempt id (w.sup.retryKnown id effect now))
      (v.attempt id (v.sup.retryKnown id effect now)) := by
  have known : w.sup.workers.contains id = v.sup.workers.contains id := h.known id
  unfold Supervisor.retryKnown
  rw [known]
  split
  · exact h.follow (Supervisor.moves_retry (h.sound.named id) effect now)
      (Supervisor.moves_retry (h.sound'.named id) effect now) fun look =>
        Supervisor.inStep_retry look (h.sound.fit id) (h.sound'.fit id) effect now
  · exact h

/-- A token is dispatched. -/
theorem dispatch (h : Together out w v) (token : Token) (mmap : Mmap) :
    Together out (w.dispatch token mmap) (v.dispatch token mmap) := by
  refine h.quietly (h.sound.aside_dispatch token mmap) (h.sound'.aside_dispatch token mmap)
    (w.dispatched_dispatch token mmap).keeps.2 (v.dispatched_dispatch token mmap).keeps.2 ?_
  intro look
  rw [sup_dispatch, sup_dispatch]
  exact Supervisor.view_dispatch look mmap

/-- A worker's region is looked at. -/
theorem receive (h : Together out w v) (now : Instant) (id : WorkerId) :
    Together out (World.receive now w id) (World.receive now v id) := by
  refine h.quietly (h.sound.aside_receive now id) (h.sound'.aside_receive now id)
    (w.received_receive now id).keeps.2 (v.received_receive now id).keeps.2 ?_
  intro look
  rw [sup_receive, sup_receive]
  exact (Prod.mk.inj (Supervisor.view_readWorker look now)).2

/-- **A pass** over the regions of some workers keeps the worlds together, if no answers for the others
differed, and it is not cut short at the one. -/
theorem pass (h : Together out w v) (agree : ∀ id, id ≠ out →
      ¬ Parted (callsFor id w.calls) (callsFor id v.calls)) (now : Instant) (ids : List WorkerId)
    (uncut : (w.forEach (Supervisor.looked now ids w.sup) (World.receive now)).Uncut out)
    (uncut' : (v.forEach (Supervisor.looked now ids v.sup) (World.receive now)).Uncut out) :
    Together out (w.forEach (Supervisor.looked now ids w.sup) (World.receive now))
      (v.forEach (Supervisor.looked now ids v.sup) (World.receive now)) := by
  induction ids generalizing w v with
  | nil => exact h
  | cons id rest ih =>
      have first := h.receive now id
      rw [forEach_looked_cons] at uncut uncut' ⊢
      rw [forEach_looked_cons]
      have alike : id ≠ out → (w.sup.readWorker now id).1 = (v.sup.readWorker now id).1 := by
        intro ne
        obtain ⟨-, look⟩ := (h.alike id ne).resolve_left (agree id ne)
        exact (Prod.mk.inj (Supervisor.view_readWorker look now)).1
      by_cases stops : (w.sup.readWorker now id).1 = .overflow
      · rw [if_pos stops] at uncut ⊢
        have ne : id ≠ out := by
          rintro rfl
          exact h.sound.not_uncut_of_overflow stops uncut
        rw [if_pos ((alike ne).symm.trans stops)]
        exact first
      · rw [if_neg stops] at uncut ⊢
        have goes : (v.sup.readWorker now id).1 ≠ .overflow := by
          intro stops'
          by_cases ne : id = out
          · subst ne
            rw [if_pos stops'] at uncut'
            exact h.sound'.not_uncut_of_overflow stops' uncut'
          · exact stops ((alike ne).trans stops')
        rw [if_neg goes] at uncut' ⊢
        refine ih first ?_ uncut uncut'
        rw [(w.received_receive now id).keeps.2, (v.received_receive now id).keeps.2]
        exact agree

/-- The producer whose link a worker holds does something. -/
theorem deed (h : Together out w v) (id : WorkerId) (d : Deed) :
    Together out (w.deed id d) (v.deed id d) := by
  refine h.quietly (h.sound.aside_deed id d) (h.sound'.aside_deed id d) (calls_deed w id d)
    (calls_deed v id d) ?_
  intro look
  rw [view_deed, view_deed, look]

/-- A consumer gives the frame of a worker back. -/
theorem release (h : Together out w v) (id : WorkerId) (now : Instant) :
    Together out (w.step (.release id now)) (v.step (.release id now)) := by
  refine h.quietly (h.sound.aside_release id now) (h.sound'.aside_release id now) rfl rfl ?_
  intro look
  rw [view_release, view_release, look]

omit [ProcessManager σ] [ProcessManager τ] in
/-- The cache of a worker is emptied. -/
theorem resetCache (h : Together out w v) (id : WorkerId) :
    Together out (w.withSup (w.sup.resetCache id)) (v.withSup (v.sup.resetCache id)) := by
  refine h.quietly (h.sound.aside_resetCache id) (h.sound'.aside_resetCache id) rfl rfl ?_
  intro look
  show (w.sup.resetCache id).view id = (v.sup.resetCache id).view id
  rw [Supervisor.view_resetCache, Supervisor.view_resetCache, look]

/-- A source is added, or refused, in both worlds. -/
theorem addWorker (h : Together out w v) (id : WorkerId) (source : String) (now : Instant) :
    Together out (w.step (.addWorker id source now)) (v.step (.addWorker id source now)) := by
  have outcome : (w.sup.addWorker id source now).isOk = (v.sup.addWorker id source now).isOk := by
    rw [Supervisor.isOk_addWorker, Supervisor.isOk_addWorker, h.known, h.ids]
  simp only [step]
  cases added : w.sup.addWorker id source now with
  | error e =>
      cases added' : v.sup.addWorker id source now with
      | error e' => exact h
      | ok t =>
          rw [added, added'] at outcome
          cases outcome
  | ok s =>
      cases added' : v.sup.addWorker id source now with
      | error e' =>
          rw [added, added'] at outcome
          cases outcome
      | ok t =>
          refine ⟨h.sound.part (.add added), h.sound'.part (.add added'), ?_, ?_, ?_⟩
          · exact (keeps_add added).policy.trans (h.policy.trans (keeps_add added').policy.symm)
          · intro other
            show (s.worker? other).isSome = (t.worker? other).isSome
            rw [Supervisor.worker?_addWorker added, Supervisor.worker?_addWorker added']
            split
            · rfl
            · exact h.known other
          · intro other ne
            rcases h.alike other ne with parted | ⟨calls, look⟩
            · exact Or.inl parted
            · refine Or.inr ⟨calls, ?_⟩
              show (s.addCache id).view other = (t.addCache id).view other
              by_cases same : other = id
              · subst same
                rw [Supervisor.view_addWorker added, Supervisor.view_addWorker added', look]
              · rw [Supervisor.view_addWorker_of_ne added same,
                  Supervisor.view_addWorker_of_ne added' same, look]

/-- **What happens in both worlds** keeps them together, if no answers for the others differed, and no
pass is cut short at the one. -/
theorem happen (h : Together out w v) (agree : ∀ id, id ≠ out →
      ¬ Parted (callsFor id w.calls) (callsFor id v.calls)) (a : Happening)
    (uncut : (w.happen a).Uncut out) (uncut' : (v.happen a).Uncut out) :
    Together out (w.happen a) (v.happen a) := by
  cases a with
  | produce id d => exact h.deed id d
  | stray n d => exact (h.left (h.sound.aside_stray out n d)).right (h.sound'.aside_stray out n d)
  | reset id => exact h.resetCache id
  | act a plain =>
      cases a with
      | addWorker id source now => exact h.addWorker id source now
      | tick now =>
          exact forEach (fun w v id h => h.follow (Supervisor.moves_tickWorker (h.sound.named id) now)
            (Supervisor.moves_tickWorker (h.sound'.named id) now) fun look =>
              Supervisor.inStep_tickWorker look h.policy (h.sound.fit id) (h.sound'.fit id) now) h
      | event id event external now =>
          exact h.follow (Supervisor.moves_handleEvent (h.sound.named id) external now)
            (Supervisor.moves_handleEvent (h.sound'.named id) external now) fun look =>
              Supervisor.inStep_handleEvent look (h.sound.fit id) (h.sound'.fit id) external now
      | killWorker id now => exact h.attempt id .kill now
      | reapWorker id now => exact h.attempt id .reap now
      | releaseWorker id now => exact h.attempt id .release now
      | killAll =>
          exact forEach (fun w v id h => h.follow (Supervisor.moves_killProcess w.sup id)
            (Supervisor.moves_killProcess v.sup id) Supervisor.inStep_killProcess) h
      | reapAll =>
          exact forEach (fun w v id h => h.follow (Supervisor.moves_reapProcess w.sup 0 id)
            (Supervisor.moves_reapProcess v.sup 0 id) (Supervisor.inStep_reapProcess · 0)) h
      | releaseAll =>
          exact forEach (fun w v id h => h.follow Supervisor.Move.letGo.moves
            Supervisor.Move.letGo.moves Supervisor.inStep_letGo) h
      | wait => exact (h.left (h.sound.aside_wait out)).right (h.sound'.aside_wait out)
      | dispatch token mmap => exact h.dispatch token mmap
      | readFrames now =>
          -- In both worlds the pass is over the same list.
          have ids := h.ids
          simp only [World.happen, World.step, looked] at uncut uncut' ⊢
          rw [← ids] at uncut' ⊢
          exact h.pass agree now w.sup.ids uncut uncut'
      | pullOne now =>
          exact (h.left (h.sound.aside_pullOne out now)).right (h.sound'.aside_pullOne out now)
      | snapshot id => exact h
      | release id now => exact h.release id now
      | pullBatch | produce => cases plain

/-! ### Histories -/

omit [ProcessManager σ] in
/-- What cannot matter to others happens in the other world. -/
theorem after_right (h : Together out w v) {l : List Happening}
    (idle : ∀ a ∈ l, ¬ a.matters out = true) : Together out w (v.after l) := by
  induction l generalizing v with
  | nil => exact h
  | cons a rest ih =>
      have first : a.matters out = false := Bool.eq_false_iff.2 (idle a List.mem_cons_self)
      exact ih (h.right (h.sound'.aside_happen first)) fun b mem =>
        idle b (List.mem_cons_of_mem _ mem)

/-- **Histories that only differ in what cannot matter to others** keep the worlds together, if no
answers for the others differ, and no pass is cut short at the one. -/
theorem after (h : Together out w v) (joined : w.Joined) (joined' : v.Joined) {l l' : List Happening}
    (same : l.filter (Happening.matters out) = l'.filter (Happening.matters out))
    (agree : ∀ id, id ≠ out →
      ¬ Parted (callsFor id (w.after l).calls) (callsFor id (v.after l').calls))
    (uncut : (w.after l).Uncut out) (uncut' : (v.after l').Uncut out) :
    Together out (w.after l) (v.after l') := by
  induction l generalizing w v l' with
  | nil =>
      have idle : ∀ a ∈ l', ¬ a.matters out = true := List.filter_eq_nil_iff.1 same.symm
      exact h.after_right idle
  | cons a rest ih =>
      obtain ⟨first, joined₁⟩ := joined.grows_happen a
      cases matters : a.matters out with
      | false =>
          rw [List.filter_cons_of_neg (Bool.eq_false_iff.1 matters)] at same
          exact ih (h.left (h.sound.aside_happen matters)) joined₁ joined' same agree uncut uncut'
      | true =>
          rw [List.filter_cons_of_pos matters] at same
          -- Up to the same happening there is nothing that matters in the other history.
          obtain ⟨before, rest', rfl, idle, -, same'⟩ := List.filter_eq_cons_iff.1 same.symm
          have joined : v.after (before ++ a :: rest') = ((v.after before).happen a).after rest' := by
            rw [World.after, List.foldl_append, List.foldl_cons]
            rfl
          rw [joined] at agree uncut' ⊢
          have met := h.after_right idle
          obtain ⟨first', joined₁'⟩ := (joined'.grows_after before).2.grows_happen a
          have last := (joined₁.grows_after rest).1
          have last' := (joined₁'.grows_after rest').1
          refine ih (met.happen (fun id ne => ?_) a (last.uncut uncut) (last'.uncut uncut')) joined₁
            joined₁' same'.symm agree uncut uncut'
          exact (first.trans last).agree (first'.trans last') (agree id ne)

end Together

/-- At the start nobody is known in either world. -/
theorem together_start (manager : σ) (manager' : τ) (config : Config) (began : Instant)
    (out : WorkerId) :
    Together out (start manager config began) (start manager' config began) where
  sound := ⟨named_start manager config began, linked_run manager config began []⟩
  sound' := ⟨named_start manager' config began, linked_run manager' config began []⟩
  policy := rfl
  known := fun _ => rfl
  alike := fun _ _ => Or.inr ⟨rfl, rfl⟩

/-- **What concerns one worker does not reach another**, unless a pass is cut short at it.  Let two
histories differ only in what cannot matter to others than one worker.  If in both of them the calls
for every other worker are answered by what is asked and by what was called for that worker before, and
in neither of them a pass over the regions stopped in the middle at the one, then the calls for every
other worker are the same in both, and it looks the same: its record but for the number of its link, the
link with its slot, its counter and its socket, and its cache but for the number and the age of the
frame.  The beginnings of the histories are histories as well, so this is so after every step. -/
theorem others_undisturbed (manager : σ) (manager' : τ) (config : Config) (began : Instant)
    (out : WorkerId) (l l' : List Happening)
    (same : l.filter (Happening.matters out) = l'.filter (Happening.matters out))
    {w : World σ} {v : World τ} (reached : (start manager config began).after l = w)
    (reached' : (start manager' config began).after l' = v)
    (oracle : WorkerId → List Call → Request → Call)
    (answered : ∀ id, id ≠ out → Answered (oracle id) (callsFor id w.calls))
    (answered' : ∀ id, id ≠ out → Answered (oracle id) (callsFor id v.calls))
    (uncut : w.Uncut out) (uncut' : v.Uncut out) {id : WorkerId} (other : id ≠ out) :
    callsFor id w.calls = callsFor id v.calls ∧ w.sup.view id = v.sup.view id := by
  subst reached reached'
  have agree (id : WorkerId) (ne : id ≠ out) :=
    not_parted_of_answered (answered id ne) (answered' id ne)
  have start := together_start manager manager' config began out
  have together := start.after (joined_start manager config began)
    (joined_start manager' config began) same agree uncut uncut'
  exact (together.alike id other).resolve_left (agree id other)

/-! ### Two runs, rehearsed -/

/-- Two workers are started, the producer of the second one offers a region and publishes, and its
frame is taken; meanwhile the first one does this and that. -/
def withFirst (busy busy' : List Happening) : List Happening :=
  [.act (.addWorker ⟨1⟩ "cam" ⟨0⟩) rfl, .act (.addWorker ⟨2⟩ "mic" ⟨0⟩) rfl, .act (.tick ⟨0⟩) rfl] ++
    busy ++ [.produce ⟨2⟩ (.offer .linux 12), .act (.dispatch ⟨⟨2⟩, 1⟩ .linux) rfl,
    .produce ⟨2⟩ (.publish ⟨List.replicate 12 2, 2, 2⟩), .act (.dispatch ⟨⟨2⟩, 1⟩ .linux) rfl] ++ busy' ++
    [.act (.readFrames ⟨1⟩) rfl, .act (.tick ⟨2⟩) rfl]

/-- The first worker's producer publishes too. -/
def bustle : List Happening :=
  withFirst [.produce ⟨1⟩ (.offer .linux 12), .act (.dispatch ⟨⟨1⟩, 1⟩ .linux) rfl]
    [.produce ⟨1⟩ (.publish ⟨List.replicate 12 1, 2, 2⟩), .act (.dispatch ⟨⟨1⟩, 1⟩ .linux) rfl]

/-- The first worker is idle. -/
def lull : List Happening := withFirst [] [.act (.killWorker ⟨1⟩ ⟨1⟩) rfl]

/-- The world in which the frames of both workers are taken. -/
def crowded : World ScriptedManager :=
  (start ⟨[.starts (some 7) [.ofEvent .childStarted], .starts (some 8) [.ofEvent .childStarted]], [],
    [], 0, []⟩ .defaults ⟨0⟩).after bustle

/-- The world in which the first worker's process could not be started. -/
def secluded : World ScriptedManager :=
  (start ⟨[.fails, .starts (some 8) [.ofEvent .childStarted]], [], [], 0, []⟩ .defaults
    ⟨0⟩).after lull

/-- One call for each of two workers: the other's is answered by itself. -/
theorem answered_pair {first id : WorkerId} (ne : id ≠ first) (second : WorkerId) (call call' : Call) :
    Answered (fun _ _ => call') (callsFor id [(first, call), (second, call')]) := by
  have calls : [(first, call), (second, call')] =
      [call].map (fun call => (first, call)) ++ [call'].map fun call => (second, call) := rfl
  rw [calls, callsFor_append, callsFor_map, callsFor_map, if_neg ne, List.nil_append]
  split
  · exact answered_singleton call'
  · exact answered_nil _

/-- Either way the second worker looks the same, although it holds another link, and its frame has
another number. -/
theorem others_undisturbed_rehearsed :
    bustle.filter (Happening.matters ⟨1⟩) = lull.filter (Happening.matters ⟨1⟩) ∧
    (callsFor ⟨1⟩ crowded.calls, callsFor ⟨1⟩ secluded.calls) =
      ([.spawn ⟨1⟩ "cam" (some ⟨7, [.ofEvent .childStarted]⟩)], [.spawn ⟨1⟩ "cam" none]) ∧
    callsFor ⟨2⟩ crowded.calls = [.spawn ⟨2⟩ "mic" (some ⟨8, [.ofEvent .childStarted]⟩)] ∧
    crowded.sup.view ⟨2⟩ = secluded.sup.view ⟨2⟩ ∧
    (crowded.held? ⟨2⟩, (crowded.sup.frames.cached? ⟨2⟩).map (·.fid)) = (some 1, some 2) ∧
    (secluded.held? ⟨2⟩, (secluded.sup.frames.cached? ⟨2⟩).map (·.fid)) = (some 0, some 1) := by
  have calls : callsFor ⟨2⟩ crowded.calls =
      [.spawn ⟨2⟩ "mic" (some ⟨8, [.ofEvent .childStarted]⟩)] := rfl
  have same : bustle.filter (Happening.matters ⟨1⟩) = lull.filter (Happening.matters ⟨1⟩) := rfl
  have all : crowded.calls = [(⟨1⟩, .spawn ⟨1⟩ "cam" (some ⟨7, [.ofEvent .childStarted]⟩)),
      (⟨2⟩, .spawn ⟨2⟩ "mic" (some ⟨8, [.ofEvent .childStarted]⟩))] := rfl
  have all' : secluded.calls = [(⟨1⟩, .spawn ⟨1⟩ "cam" none),
      (⟨2⟩, .spawn ⟨2⟩ "mic" (some ⟨8, [.ofEvent .childStarted]⟩))] := rfl
  obtain ⟨-, look⟩ := others_undisturbed _ _ .defaults ⟨0⟩ ⟨1⟩ bustle lull same
    (show _ = crowded from rfl) (show _ = secluded from rfl) (fun _ => _)
    (fun id ne => all ▸ answered_pair ne _ _ _) (fun id ne => all' ▸ answered_pair ne _ _ _)
    (by decide) (by decide)
    (by decide : (⟨2⟩ : WorkerId) ≠ ⟨1⟩)
  exact ⟨same, rfl, calls, look, rfl, rfl⟩

/-! ### A pass that is cut short -/

/-- A frame of the first worker under a number of its producer's choice, and the token for it. -/
def underNumber (sequence : UInt64) : List Happening :=
  [.produce ⟨1⟩ (.publish ⟨[1, 1, 1, 1], 1, 1⟩),
    .produce ⟨1⟩ (.other fun l => l.poke 0 24 (littleEndian 8 sequence.toNat)),
    .act (.dispatch ⟨⟨1⟩, 1⟩ .linux) rfl]

/-- Two workers are started, and the second one negotiates.  Three passes come, and before the last one
the second worker's producer publishes; before each the first one does this or that. -/
def withPasses (first second third : List Happening) : List Happening :=
  [.act (.addWorker ⟨1⟩ "cam" ⟨0⟩) rfl, .act (.addWorker ⟨2⟩ "mic" ⟨0⟩) rfl, .act (.tick ⟨0⟩) rfl,
    .produce ⟨2⟩ (.offer .linux 4), .act (.dispatch ⟨⟨2⟩, 1⟩ .linux) rfl] ++
    first ++ [.act (.readFrames ⟨1⟩) rfl] ++ second ++ [.act (.readFrames ⟨2⟩) rfl] ++ third ++
    [.produce ⟨2⟩ (.publish ⟨[2, 2, 2, 2], 1, 1⟩), .act (.dispatch ⟨⟨2⟩, 1⟩ .linux) rfl,
    .act (.readFrames ⟨3⟩) rfl]

/-- The first worker's producer gives its frames the greatest number but one, zero, and the greatest but
one again. -/
def flood : List Happening :=
  withPasses
    ([.produce ⟨1⟩ (.offer .linux 4), .act (.dispatch ⟨⟨1⟩, 1⟩ .linux) rfl] ++
      underNumber 18446744073709551614)
    (.act (.release ⟨1⟩ ⟨1⟩) rfl :: underNumber 0)
    (.act (.release ⟨1⟩ ⟨2⟩) rfl :: underNumber 18446744073709551614)

/-- The first worker's producer does nothing. -/
def ebb : List Happening := withPasses [] [] []

/-- The world after either, if both processes are started. -/
def afterwards (l : List Happening) : World ScriptedManager :=
  (start ⟨[.starts (some 7) [.ofEvent .childStarted], .starts (some 8) [.ofEvent .childStarted]], [],
    [], 0, []⟩ .defaults ⟨0⟩).after l

/-- **A pass that is cut short at one worker reaches another.**  The third number is too much for the
first worker's count, and the pass stops there; so the frame of the second worker is not taken, although
nothing else differs. -/
theorem cut_disturbs :
    flood.filter (Happening.matters ⟨1⟩) = ebb.filter (Happening.matters ⟨1⟩) ∧
    (∀ id, id ≠ ⟨1⟩ → ∃ oracle, Answered oracle (callsFor id (afterwards flood).calls) ∧
      Answered oracle (callsFor id (afterwards ebb).calls)) ∧
    ((afterwards flood).sup.view ⟨2⟩).cache.bind (·.data) = none ∧
    ((afterwards ebb).sup.view ⟨2⟩).cache.bind (·.data) = some [2, 2, 2, 2] ∧
    (afterwards flood).sup.view ⟨2⟩ ≠ (afterwards ebb).sup.view ⟨2⟩ := by
  have calls : (afterwards flood).calls =
      [(⟨1⟩, .spawn ⟨1⟩ "cam" (some ⟨7, [.ofEvent .childStarted]⟩)),
        (⟨2⟩, .spawn ⟨2⟩ "mic" (some ⟨8, [.ofEvent .childStarted]⟩))] := by decide +kernel
  have calls' : (afterwards ebb).calls = (afterwards flood).calls := by decide +kernel
  have missed : ((afterwards flood).sup.view ⟨2⟩).cache.bind (·.data) = none := by decide +kernel
  have stored : ((afterwards ebb).sup.view ⟨2⟩).cache.bind (·.data) = some [2, 2, 2, 2] := by
    decide +kernel
  refine ⟨rfl, fun id ne => ?_, missed, stored, fun same => ?_⟩
  · rw [calls', calls]
    exact ⟨_, answered_pair ne _ _ _, answered_pair ne _ _ _⟩
  · rw [same, stored] at missed
    cases missed

end World

end FrameMux
