/-
**Two worlds that differ in one link.**

In one world a link looks different from how it is in the other: the producer did something on it, or
its slot is claimed.  As long as the difference does not show, whatever happens in both worlds comes to
the same, and the link is all that they differ in.

Main definitions:

* `FrameMux.World.Overlaid` — **a world with another state of one link**;
* `FrameMux.World.Hidden` — what is different about a link does not show in a world.

Main results:

* `FrameMux.World.Part.held?_of`, `FrameMux.World.Hidden.part` — a link that nobody holds is never held
  again, so what was hidden stays hidden;
* `FrameMux.World.Overlaid.step` — **every action** that neither looks at a slot nor comes from the
  producer on the link keeps two such worlds apart in that link only;
* `FrameMux.World.Overlaid.readFrames` — and so does a look at all slots, if nobody holds the link.
-/

import FrameMux.Proofs.Supervisor.Overlays
import FrameMux.Proofs.World.Asides

set_option relaxedAutoImplicit false
set_option autoImplicit false

namespace FrameMux

namespace World

variable {σ : Type} {w w' v : World σ} {n d : Nat} {f : Link → Link} {all : Prop}

/-! ### Worlds apart -/

/-- The world `v` is `w` with another state of one link, with more events discarded, and, unless `all`
the books are the same, with other books on the link. -/
structure Overlaid (n : Nat) (f : Link → Link) (d : Nat) (all : Prop) (w v : World σ) : Prop where
  mux : v.mux = { w.mux with supervisor := w.sup.overlay n f d }
  calls : v.calls = w.calls
  stored : v.stored = w.stored
  length : v.ledgers.length = w.ledgers.length
  ledgers : ∀ m, (m = n → all) → v.ledgers[m]? = w.ledgers[m]?
  inFlight : all → v.inFlight = w.inFlight

namespace Overlaid

theorem sup (h : Overlaid n f d all w v) : v.sup = w.sup.overlay n f d :=
  congrArg Mux.supervisor h.mux

/-- The same workers are known, with the same records. -/
theorem held? (h : Overlaid n f d all w v) (id : WorkerId) : v.held? id = w.held? id := by
  rw [World.held?, h.sup]
  rfl

/-- The multiplexers differ in nothing but their supervisors. -/
theorem mux_withSup (h : Overlaid n f d all w v) (s : Supervisor (Recorder σ)) :
    (v.withSup s).mux = { w.mux with supervisor := s } := by
  show { v.mux with supervisor := s } = _
  rw [h.mux]

/-- The supervisors go on in the same way. -/
theorem withSup (h : Overlaid n f d all w v) (s : Supervisor (Recorder σ)) :
    Overlaid n f d all (w.withSup s) (v.withSup (s.overlay n f d)) where
  mux := h.mux_withSup (s.overlay n f d)
  calls := h.calls
  stored := h.stored
  length := h.length
  ledgers := h.ledgers
  inFlight := h.inFlight

/-- The same is noted in the ledger of a link. -/
theorem modifyLedger (h : Overlaid n f d all w v) (m : Nat) (g : Ledger → Ledger) :
    Overlaid n f d all (w.modifyLedger m g) (v.modifyLedger m g) where
  mux := h.mux
  calls := h.calls
  stored := h.stored
  length := by
    show (v.ledgers.modify m g).length = (w.ledgers.modify m g).length
    rw [List.length_modify, List.length_modify, h.length]
  ledgers := by
    intro k same
    show (v.ledgers.modify m g)[k]? = (w.ledgers.modify m g)[k]?
    rw [List.getElem?_modify, List.getElem?_modify, h.ledgers k same]
  inFlight := h.inFlight

/-- What the supervisors do for a worker is followed in both worlds. -/
theorem follow (h : Overlaid n f d all w v) (id : WorkerId) (s : Supervisor (Recorder σ)) :
    Overlaid n f d all (w.follow id s) (v.follow id (s.overlay n f d)) := by
  have moved := h.withSup s
  have new : v.newCalls (s.overlay n f d) = w.newCalls s := by
    rw [newCalls, h.sup]
    rfl
  unfold World.follow
  rw [new]
  refine ⟨moved.mux, congrArg (· ++ _) h.calls, h.stored, ?_, ?_, h.inFlight⟩
  · rw [List.length_append, List.length_append, h.length]
  · intro m same
    rw [List.getElem?_append, List.getElem?_append, h.length, h.ledgers m same]

/-- What the supervisors do for a worker on request is followed, too. -/
theorem attempt (h : Overlaid n f d all w v) (id : WorkerId)
    (result : Except MuxError (Supervisor (Recorder σ))) :
    Overlaid n f d all (w.attempt id result)
      (v.attempt id (result.map fun s => s.overlay n f d)) := by
  cases result with
  | error e => exact h
  | ok s => exact h.follow id s

end Overlaid

/-! ### Links that were there before -/

/-- Whatever happens to the links of a world with a supervisor that is rewired. -/
theorem length_links_rewired {s s' : Supervisor (Recorder σ)} {id : WorkerId} {rec : Worker}
    {m : Nat} {link : Link} (h : Supervisor.Rewired s s' id rec m link) :
    s'.links.length = s.links.length := by
  rw [h.links, List.length_set]

variable [ProcessManager σ] {D : Nat → Deed → Prop}

/-- No part takes a link away. -/
theorem Part.length_links_le (part : Part D w w') (fit : ∀ id, w.sup.Fit id) :
    w.sup.links.length ≤ w'.sup.links.length := by
  cases part with
  | @move id s move => exact move.length_le (fit id)
  | add added =>
      obtain ⟨-, rfl⟩ := Supervisor.addWorker_ok added
      exact Nat.le_refl _
  | wait => exact Nat.le_refl _
  | dispatch dispatched =>
      cases dispatched with
      | idle => exact Nat.le_refl _
      | drained _ _ _ _ _ _ rewired => exact Nat.le_of_eq (length_links_rewired rewired).symm
  | receive received =>
      cases received with
      | skipped | noted => exact Nat.le_refl _
      | missed _ _ _ rewired | taken _ _ _ _ rewired | cut _ _ _ _ rewired =>
          exact Nat.le_of_eq (length_links_rewired rewired).symm
  | produce there d =>
      rw [produce_of_link there]
      exact Nat.le_of_eq List.length_set.symm
  | pullOne now =>
      obtain ⟨frames, sup, -⟩ := w.sup_pullOne now
      exact Nat.le_of_eq (congrArg (·.links.length) sup).symm
  | pullBatch k now =>
      obtain ⟨frames, sup, -⟩ := w.sup_pullBatch k now
      exact Nat.le_of_eq (congrArg (·.links.length) sup).symm
  | release mux released =>
      rw [show World.sup { w with mux } = Supervisor.noteRelease _ _ _ from release_ok released]
      exact Nat.le_refl _

/-- No part makes a worker hold a link that was there before. -/
theorem Part.held?_of (part : Part D w w') (fit : ∀ id, w.sup.Fit id)
    (old : n < w.sup.links.length) {id : WorkerId} (holds : w'.sup.held? id = some n) :
    w.sup.held? id = some n := by
  rcases part.move_or_keeps with ⟨other, s, move, rfl⟩ | ⟨keeps, -⟩
  · exact move.held?_of (fit other) old holds
  · obtain ⟨channels, held, link⟩ := Option.map_eq_some_iff.1 holds
    obtain ⟨rec, known, holds'⟩ := Option.bind_eq_some_iff.1 held
    cases before : w.sup.worker? id with
    | none =>
        obtain ⟨source, now, rfl⟩ := keeps.added id rec known before
        cases holds'
    | some rec₀ =>
        obtain ⟨rec', known', kept⟩ := keeps.kept id rec₀ before
        obtain rfl : rec = rec' := Option.some.inj (known.symm.trans known')
        rw [Supervisor.held?_of_known before, ← kept.link, holds', Option.map_some, link]

/-- What is different about a link that is there does not show in a world. -/
structure Hidden (n : Nat) (f : Link → Link) (w : World σ) : Prop where
  sound : w.Sound
  old : n < w.sup.links.length
  unseen : Link.Covert f ∨ ∀ id, w.sup.held? id ≠ some n

omit [ProcessManager σ] in
/-- It does not show for any worker. -/
theorem Hidden.hides (h : w.Hidden n f) (id : WorkerId) : w.sup.Hides n f id :=
  h.unseen.imp_right fun unheld => unheld id

/-- **What is hidden stays hidden.** -/
theorem Hidden.part (h : w.Hidden n f) (part : Part D w w') : w'.Hidden n f where
  sound := ⟨part.named h.sound.named, h.sound.linked.part h.sound.named part⟩
  old := Nat.lt_of_lt_of_le h.old (part.length_links_le h.sound.fit)
  unseen := h.unseen.imp_right fun unheld id holds =>
    unheld id (part.held?_of h.sound.fit h.old holds)

theorem Hidden.parts (h : w.Hidden n f) (parts : Parts D w w') : w'.Hidden n f :=
  parts.induction (fun _ _ h part => h.part part) h

/-- What the supervisor does for a worker leaves it hidden. -/
theorem Hidden.follow (h : w.Hidden n f) {id : WorkerId} {s : Supervisor (Recorder σ)}
    (moves : Supervisor.Moves id w.sup s) : (w.follow id s).Hidden n f :=
  h.parts (parts_follow (D := fun _ _ => True) moves rfl)

/-! ### Actions in both worlds -/

namespace Overlaid

omit [ProcessManager σ] in
/-- Something for every worker of a list, in both worlds. -/
theorem forEach {I : World σ → Prop} {g g' : World σ → WorkerId → World σ}
    (one : ∀ w v id, I w → Overlaid n f d all w v →
      I (g w id) ∧ Overlaid n f d all (g w id) (g' v id))
    (h : Overlaid n f d all w v) (holds : I w) {ids ids' : List WorkerId} (same : ids' = ids) :
    Overlaid n f d all (w.forEach ids g) (v.forEach ids' g') := by
  subst same
  unfold World.forEach
  induction ids' generalizing w v with
  | nil => exact h
  | cons id rest ih =>
      obtain ⟨holds', h'⟩ := one w v id holds h
      exact ih h' holds'

omit [ProcessManager σ] in
/-- The same workers are known. -/
theorem ids (h : Overlaid n f d all w v) : v.sup.ids = w.sup.ids := by
  rw [h.sup]
  rfl

/-- The supervisors do something for a worker. -/
theorem follow_moves (h : Overlaid n f d all w v) (hidden : w.Hidden n f) {id : WorkerId}
    {s s' : Supervisor (Recorder σ)} (moves : Supervisor.Moves id w.sup s)
    (same : s' = s.overlay n f d) :
    (w.follow id s).Hidden n f ∧ Overlaid n f d all (w.follow id s) (v.follow id s') :=
  ⟨hidden.follow moves, same ▸ h.follow id s⟩

omit [ProcessManager σ] in
/-- A token is dispatched. -/
theorem dispatch (h : Overlaid n f d all w v) (hidden : w.Hidden n f) (token : Token)
    (mmap : Mmap) : Overlaid n f d all (w.dispatch token mmap) (v.dispatch token mmap) := by
  have same : v.sup.dispatch token mmap =
      ((w.sup.dispatch token mmap).1, (w.sup.dispatch token mmap).2.overlay n f d) := by
    rw [h.sup, Supervisor.dispatch_overlay (hidden.hides token.worker)]
  unfold World.dispatch
  rw [same, h.held? token.worker]
  obtain ⟨mask, s⟩ := w.sup.dispatch token mmap
  have moved : Overlaid n f d all { w.withSup s with inFlight := w.inFlight.erase token }
      { v.withSup (s.overlay n f d) with inFlight := v.inFlight.erase token } := by
    have moved := h.withSup s
    exact ⟨moved.mux, moved.calls, moved.stored, moved.length, moved.ledgers,
      fun full => congrArg (·.erase token) (h.inFlight full)⟩
  cases mask with
  | none => exact moved
  | some mask =>
      cases w.held? token.worker with
      | none => exact moved
      | some m => exact moved.modifyLedger m Ledger.drained

omit [ProcessManager σ] in
/-- The counters are waited for. -/
theorem wait (h : Overlaid n f d all w v)
    (unseen : (∀ l, (f l).notifier = l.notifier) ∨ w.sup.poller.token? n = none) :
    Overlaid n f d all { w.withSup w.sup.wait.2 with inFlight := w.inFlight ++ w.sup.wait.1 }
      { v.withSup v.sup.wait.2 with inFlight := v.inFlight ++ v.sup.wait.1 } := by
  have same : v.sup.wait = (w.sup.wait.1, w.sup.wait.2.overlay n f d) := by
    rw [h.sup, Supervisor.wait_overlay unseen]
  have moved := h.withSup w.sup.wait.2
  rw [same]
  exact ⟨moved.mux, moved.calls, moved.stored, moved.length, moved.ledgers,
    fun full => congrArg (· ++ w.sup.wait.1) (h.inFlight full)⟩

omit [ProcessManager σ] in
/-- A receipt is the same if the books on its link are. -/
theorem receipt (h : Overlaid n f d all w v) (id : WorkerId) {m : Nat} (known : m = n → all)
    (s : Supervisor (Recorder σ)) : v.receipt id m (s.overlay n f d) = w.receipt id m s := by
  unfold World.receipt
  rw [h.ledgers m known]
  rfl

omit [ProcessManager σ] in
/-- The region of a worker is looked into that does not hold the link. -/
theorem receive (h : Overlaid n f d all w v) {id : WorkerId} (unheld : w.sup.held? id ≠ some n)
    (now : Instant) : Overlaid n f d all (w.receive now id) (v.receive now id) := by
  have same : v.sup.readWorker now id =
      ((w.sup.readWorker now id).1, (w.sup.readWorker now id).2.overlay n f d) := by
    rw [h.sup, Supervisor.readWorker_overlay unheld]
  unfold World.receive
  rw [same, h.held? id]
  obtain ⟨result, s⟩ := w.sup.readWorker now id
  have moved := h.withSup s
  cases result with
  | nothing => exact moved
  | overflow =>
      cases w.held? id with
      | none => exact moved
      | some m => exact moved.modifyLedger m Ledger.interrupted
  | took =>
      cases holds : w.held? id with
      | none => exact moved
      | some m =>
          have other : m = n → all := by
            rintro rfl
            exact absurd holds unheld
          have noted := moved.modifyLedger m Ledger.received
          refine ⟨noted.mux, noted.calls, ?_, noted.length, noted.ledgers, noted.inFlight⟩
          show v.stored ++ [v.receipt id m (s.overlay n f d)] = w.stored ++ [w.receipt id m s]
          rw [h.stored, h.receipt id other]

omit [ProcessManager σ] in
/-- The producer on another link does something. -/
theorem produce (h : Overlaid n f d all w v) {m : Nat} (ne : m ≠ n) (deed : Deed) :
    Overlaid n f d all (w.produce m deed) (v.produce m deed) := by
  have there : v.sup.links[m]? = w.sup.links[m]? := by
    rw [h.sup, Supervisor.link_overlay_of_ne ne]
  cases linked : w.sup.links[m]? with
  | none =>
      rw [produce_of_unlinked linked, produce_of_unlinked (there.trans linked)]
      exact h
  | some link =>
      have links : (w.sup.links.modify n f).set m (deed.act link) =
          (w.sup.links.set m (deed.act link)).modify n f := by
        have set (l : List Link) : l.set m (deed.act link) = l.modify m fun _ => deed.act link := by
          rw [List.modify_eq_set]
        rw [set, set, List.modify_modify_ne _ _ _ ne.symm]
      have moved := (h.withSup { w.sup with
        links := w.sup.links.set m (deed.act link)
        poller := if link.notifier = (deed.act link).notifier then w.sup.poller
          else w.sup.poller.wake m }).modifyLedger m fun g => deed.note g link
      rw [produce_of_link linked, produce_of_link (there.trans linked), h.sup]
      simp only [Supervisor.overlay, ← links] at moved
      exact moved

/-- Something for every worker on request. -/
theorem attempt_retry (h : Overlaid n f d all w v) (hidden : w.Hidden n f) (id : WorkerId)
    (effect : Effect) (now : Instant) :
    Overlaid n f d all (w.attempt id (w.sup.retryKnown id effect now))
      (v.attempt id (v.sup.retryKnown id effect now)) := by
  have same : v.sup.retryKnown id effect now =
      (w.sup.retryKnown id effect now).map fun s => s.overlay n f d := by
    rw [h.sup]
    unfold Supervisor.retryKnown
    show (if w.sup.workers.contains id then _ else _) = _
    rw [Supervisor.retry_overlay (hidden.hides id) (hidden.sound.fit id) hidden.old]
    split <;> rfl
  rw [same]
  exact h.attempt id _

/-- A consumer pulls a frame. -/
theorem pullOne (h : Overlaid n f d all w v) (now : Instant) :
    Overlaid n f d all (w.step (.pullOne now)) (v.step (.pullOne now)) := by
  have frames : (w.sup.overlay n f d).frames = w.mux.supervisor.frames := rfl
  have mux : (v.mux.pullOne now).2 =
      { (w.mux.pullOne now).2 with
        supervisor := (w.mux.pullOne now).2.supervisor.overlay n f d } := by
    rw [h.mux]
    simp only [Mux.pullOne, frames]
    obtain ⟨frame, frames⟩ := w.mux.supervisor.frames.pullOne
    cases frame <;> rfl
  exact ⟨mux, h.calls, h.stored, h.length, h.ledgers, h.inFlight⟩

/-- A consumer pulls a batch. -/
theorem pullBatch (h : Overlaid n f d all w v) (k : Nat) (now : Instant) :
    Overlaid n f d all (w.step (.pullBatch k now)) (v.step (.pullBatch k now)) := by
  have frames : (w.sup.overlay n f d).frames = w.mux.supervisor.frames := rfl
  have mux : (v.mux.pullBatch k now).2 =
      { (w.mux.pullBatch k now).2 with
        supervisor := (w.mux.pullBatch k now).2.supervisor.overlay n f d } := by
    rw [h.mux]
    simp only [Mux.pullBatch, frames]
    obtain ⟨batch, frames⟩ := w.mux.supervisor.frames.pullBatch k
    cases batch <;> rfl
  exact ⟨mux, h.calls, h.stored, h.length, h.ledgers, h.inFlight⟩

/-- A consumer gives a frame back. -/
theorem release (h : Overlaid n f d all w v) (id : WorkerId) (now : Instant) :
    Overlaid n f d all (w.step (.release id now)) (v.step (.release id now)) := by
  have frames : (w.sup.overlay n f d).frames = w.mux.supervisor.frames := rfl
  have mux : (v.mux.release id now).toOption.getD v.mux =
      { (w.mux.release id now).toOption.getD w.mux with
        supervisor := ((w.mux.release id now).toOption.getD w.mux).supervisor.overlay n f d } := by
    rw [h.mux]
    simp only [Mux.release, frames]
    cases w.mux.supervisor.frames.release? id <;> rfl
  exact ⟨mux, h.calls, h.stored, h.length, h.ledgers, h.inFlight⟩

/-- A source is added. -/
theorem addWorker (h : Overlaid n f d all w v) (id : WorkerId) (source : String) (now : Instant) :
    Overlaid n f d all (w.step (.addWorker id source now)) (v.step (.addWorker id source now)) := by
  have same : v.sup.addWorker id source now =
      (w.sup.addWorker id source now).map fun s => s.overlay n f d := by
    rw [h.sup, Supervisor.addWorker_overlay]
  simp only [World.step, same]
  cases w.sup.addWorker id source now with
  | error e => exact h
  | ok s => exact h.withSup (s.addCache id)

/-! ### All actions -/

/-- **Every action** that neither looks at a slot nor comes from the producer on the link. -/
theorem step (h : Overlaid n f d all w v) (hidden : w.Hidden n f)
    (unseen : (∀ l, (f l).notifier = l.notifier) ∨ w.sup.poller.token? n = none) {a : Action}
    (blind : ∀ now, a ≠ .readFrames now) (other : ∀ deed, a ≠ .produce n deed) :
    Overlaid n f d all (w.step a) (v.step a) := by
  have fit (id : WorkerId) : w.sup.Fit id := hidden.sound.fit id
  cases a with
  | addWorker id source now => exact h.addWorker id source now
  | tick now =>
      refine forEach (I := Hidden n f) (fun w v id hidden h => ?_) h hidden h.ids
      refine h.follow_moves hidden (Supervisor.moves_tickWorker (hidden.sound.named id) now) ?_
      rw [h.sup]
      exact Supervisor.tickWorker_overlay (hidden.hides id) (hidden.sound.fit id) hidden.old now d
  | event id event external now =>
      have same := Supervisor.handleEvent_overlay (hidden.hides id) (fit id) hidden.old external now d
      rw [← h.sup] at same
      simp only [World.step, same]
      exact h.follow id _
  | killWorker id now => exact h.attempt_retry hidden id .kill now
  | reapWorker id now => exact h.attempt_retry hidden id .reap now
  | releaseWorker id now => exact h.attempt_retry hidden id .release now
  | killAll =>
      refine forEach (I := Hidden n f) (fun w v id hidden h => ?_) h hidden h.ids
      refine h.follow_moves hidden (Supervisor.moves_killProcess w.sup id) ?_
      rw [h.sup]
      exact Supervisor.killProcess_overlay w.sup n f d id
  | reapAll =>
      refine forEach (I := Hidden n f) (fun w v id hidden h => ?_) h hidden h.ids
      refine h.follow_moves hidden (Supervisor.moves_reapProcess w.sup 0 id) ?_
      rw [h.sup]
      exact Supervisor.reapProcess_overlay w.sup n f d 0 id
  | releaseAll =>
      refine forEach (I := Hidden n f) (fun w v id hidden h => ?_) h hidden h.ids
      refine h.follow_moves hidden Supervisor.Move.letGo.moves ?_
      rw [h.sup]
      exact Supervisor.letGo_overlay (hidden.hides id) d
  | wait => exact h.wait unseen
  | dispatch token mmap => exact h.dispatch hidden token mmap
  | readFrames now => exact absurd rfl (blind now)
  | pullOne now => exact h.pullOne now
  | pullBatch k now => exact h.pullBatch k now
  | snapshot id => exact h
  | release id now => exact h.release id now
  | produce m deed =>
      refine h.produce ?_ deed
      rintro rfl
      exact other deed rfl

/-- A look at all slots, if nobody holds the link. -/
theorem readFrames (h : Overlaid n f d all w v) (hidden : w.Hidden n f)
    (unheld : ∀ id, w.sup.held? id ≠ some n) (now : Instant) :
    Overlaid n f d all (w.step (.readFrames now)) (v.step (.readFrames now)) := by
  have one (w v : World σ) (id : WorkerId)
      (holds : w.Hidden n f ∧ ∀ id, w.sup.held? id ≠ some n) (h : Overlaid n f d all w v) :
      ((w.receive now id).Hidden n f ∧ ∀ other, (w.receive now id).sup.held? other ≠ some n) ∧
        Overlaid n f d all (w.receive now id) (v.receive now id) := by
    obtain ⟨hidden, unheld⟩ := holds
    have part : Part (fun _ _ => True) w (w.receive now id) := .receive (w.received_receive now id)
    exact ⟨⟨hidden.part part, fun other holds =>
      unheld other (part.held?_of hidden.sound.fit hidden.old holds)⟩, h.receive (unheld id) now⟩
  -- Looks end in the same way, so both passes get to the same workers.
  have looked : w.looked now = v.looked now := by
    unfold World.looked
    rw [h.ids]
    refine looked_congr (R := fun w v => (w.Hidden n f ∧ ∀ id, w.sup.held? id ≠ some n) ∧
      Overlaid n f d all w v) ?_ ⟨⟨hidden, unheld⟩, h⟩ w.sup.ids
    rintro w v id ⟨holds, h⟩
    refine ⟨?_, one w v id holds h⟩
    rw [h.sup, Supervisor.readWorker_overlay (holds.2 id)]
  exact forEach (I := fun w => w.Hidden n f ∧ ∀ id, w.sup.held? id ≠ some n) one h ⟨hidden, unheld⟩
    looked.symm

end Overlaid

end World

end FrameMux
