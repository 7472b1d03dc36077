/-
**One look for everybody.**

A pass looks into the regions of all workers in turn.  What it comes to for one of them is what its own
look comes to: the looks at the regions of the others leave its record, its link and its cache alone.
This module takes a pass apart from the point of view of one worker, and says how its count comes about.

Main definitions:

* `FrameMux.Supervisor.refilled` — the workers whose vacant caches a pass fills;
* `FrameMux.World.Beside` — what happened did not concern a worker;
* `FrameMux.World.counter?` — the producer's count in the region that a worker reads from;
* `FrameMux.World.Due` — a worker is alive, has negotiated and is marked, and the slot is ready.

Main results:

* `FrameMux.Supervisor.fst_readFrames` — **the count** of a pass that comes to its end is how many
  caches it fills;
* `FrameMux.World.Sound.pass_of_looked` — **a pass, from the point of view of one worker**;
* `FrameMux.World.Sound.pass_of_cached` — it changes nothing where a frame is cached, apart from marks;
* `FrameMux.World.Sound.due_of_pass`, `FrameMux.World.Sound.pass_of_due` — it stores a frame only where
  one is due, and then the newest one.
-/

import FrameMux.Proofs.World.Asides
import FrameMux.Proofs.World.Returns

set_option relaxedAutoImplicit false
set_option autoImplicit false

namespace FrameMux

/-! ### Vacant caches -/

namespace FrameStore

/-- A cache is vacant or not by what is in it. -/
theorem isVacant_congr {s s' : FrameStore} {id : WorkerId} (same : s'.cached? id = s.cached? id) :
    s'.isVacant id = s.isVacant id := by
  unfold isVacant
  rw [same]

end FrameStore

namespace Supervisor

variable {σ : Type} {s : Supervisor σ} {id other : WorkerId} {now : Instant}

/-! ### One look -/

/-- The workers whose vacant caches a pass fills. -/
def refilled (s : Supervisor σ) (now : Instant) : List WorkerId :=
  s.ids.filter fun i => s.frames.isVacant i && !(s.readFrames now).2.frames.isVacant i

/-- A look at the region of a worker that waits for a frame that is there: either the frame cannot be
counted and the look stops, or the frame is put into the cache. -/
theorem readWorker_of_take {w : Worker} {n file : Nat} {link : Link} {frame : SlotFrame}
    (waits : s.Waits id w n file link) (took : (link.take file).1 = .ok (some frame)) (now : Instant) :
    (checkedAdd w.dropped (skippedBefore frame.sequence w.taken) = none ∧
      (s.readWorker now id).1 = .overflow) ∨
    ((checkedAdd w.dropped (skippedBefore frame.sequence w.taken)).isSome = true ∧
      (s.readWorker now id).2.frames =
        s.frames.fill id frame.data frame.width frame.height now) := by
  have ready : (w.frameWaiting && s.frames.isVacant id) = true := by
    rw [waits.waiting, waits.vacant]
    rfl
  rw [readWorker_of_reader waits.known waits.alive waits.holds]
  dsimp only
  generalize notePublished _ now = f
  have vacant : (s.modifyWorker id f).frames.isVacant id = s.frames.isVacant id := rfl
  have there : (s.modifyWorker id f).links[n]? = some link := waits.there
  rw [vacant, if_pos ready, takeFrame_eq there, took]
  cases counted : checkedAdd w.dropped (skippedBefore frame.sequence w.taken) with
  | none => exact Or.inl ⟨rfl, by simp only [counted]⟩
  | some dropped =>
      right
      simp only [counted]
      exact ⟨rfl, rfl⟩

end Supervisor

namespace World

variable {σ : Type} {w w' w'' : World σ} {id other : WorkerId} {now : Instant}

/-! ### The producer's count -/

/-- The producer's count in the region that a worker reads from, if it has negotiated. -/
def counter? (w : World σ) (id : WorkerId) : Option UInt64 := do
  let rec ← w.sup.worker? id
  let channels ← rec.channels
  let file ← channels.reader
  return ((w.sup.links[channels.link]?.bind fun link => link.region? file).map
    Region.published).getD 0

theorem counter?_eq {rec : Worker} {n file : Nat} (known : w.sup.worker? id = some rec)
    (holds : rec.channels = some ⟨n, some file⟩) :
    w.counter? id = some (((w.sup.links[n]?.bind fun link => link.region? file).map
      Region.published).getD 0) := by
  simp only [counter?, known, holds, Option.bind_eq_bind, Option.bind_some]
  rfl

/-- A worker's frame is due: the worker is alive, has negotiated and is marked, and the slot of its
link is ready. -/
def Due (w : World σ) (id : WorkerId) (n : Nat) : Prop :=
  ∃ rec file link region, w.sup.worker? id = some rec ∧ rec.state = .alive ∧
    rec.channels = some ⟨n, some file⟩ ∧ rec.frameWaiting = true ∧ w.sup.links[n]? = some link ∧
    link.region? file = some region ∧ region.header.state = SlotState.ready.raw

theorem Due.isSome_worker? {n : Nat} (due : w.Due id n) : (w.sup.worker? id).isSome = true := by
  obtain ⟨rec, -, -, -, known, -⟩ := due
  exact Option.isSome_iff_exists.2 ⟨rec, known⟩

/-! ### What does not concern a worker -/

/-- What happened did not concern a worker: its record, its link, what was published over it and its
cache are as before. -/
structure Beside (id : WorkerId) (w w' : World σ) : Prop where
  record : w'.sup.worker? id = w.sup.worker? id
  link : ∀ n, w.held? id = some n → w'.sup.links[n]? = w.sup.links[n]?
  cached : w'.sup.frames.cached? id = w.sup.frames.cached? id
  lastFid : w.sup.frames.lastFid ≤ w'.sup.frames.lastFid
  looked : w.Looked w'

namespace Beside

theorem refl (id : WorkerId) (w : World σ) : Beside id w w :=
  ⟨rfl, fun _ _ => rfl, rfl, Nat.le_refl _, fun _ => rfl, fun _ g there => ⟨g, there, rfl, rfl, rfl⟩⟩

theorem trans (h : Beside id w w') (h' : Beside id w' w'') : Beside id w w'' where
  record := h'.record.trans h.record
  link := fun n holds => (h'.link n ((h.looked.held id).trans holds)).trans (h.link n holds)
  cached := h'.cached.trans h.cached
  lastFid := Nat.le_trans h.lastFid h'.lastFid
  looked := by
    refine ⟨fun other => (h'.looked.held other).trans (h.looked.held other), ?_⟩
    intro n g there
    obtain ⟨g', there', worker', honest', publishes'⟩ := h'.looked.ledgers n g there
    obtain ⟨g'', there'', worker'', honest'', publishes''⟩ := h.looked.ledgers n g' there'
    exact ⟨g'', there'', worker'.trans worker'', honest'.trans honest'', publishes'.trans publishes''⟩

/-- The link of a worker whose record is known. -/
theorem link_eq (h : Beside id w w') {rec : Worker} {channels : WorkerLink}
    (known : w.sup.worker? id = some rec) (holds : rec.channels = some channels) :
    w'.sup.links[channels.link]? = w.sup.links[channels.link]? :=
  h.link _ (held?_eq known holds)

theorem counter? (h : Beside id w w') {rec : Worker} {n file : Nat}
    (known : w.sup.worker? id = some rec) (holds : rec.channels = some ⟨n, some file⟩) :
    w'.counter? id = w.counter? id := by
  rw [counter?_eq known holds, counter?_eq (h.record.trans known) holds, h.link_eq known holds]

end Beside

variable [ProcessManager σ]

/-- **A look at the region of another worker** does not concern a worker. -/
theorem Sound.beside_receive (sound : w.Sound) (now : Instant) (ne : id ≠ other) :
    Beside id w (receive now w other) := by
  have received := w.received_receive now other
  have looked := received.looked
  have lastFid := (Part.receive (D := fun _ _ => True) received).onward.lastFid
  generalize receive now w other = v at received looked lastFid ⊢
  have apart {n m : Nat} (ours : w.held? id = some n) (theirs : w.held? other = some m) : m ≠ n :=
    fun same => (sound.alone ne ours).2 (same ▸ theirs)
  refine ⟨?_, ?_, ?_, lastFid, looked⟩
  · cases received with
    | skipped => rfl
    | noted => exact (Supervisor.worker?_modifyWorker _ _ _ _).trans (if_neg ne)
    | taken waits quiet took counted rewired filled => exact rewired.others id ne
    | missed waits quiet missed rewired frames => exact rewired.others id ne
    | cut waits quiet took uncounted rewired frames => exact rewired.others id ne
  · intro n holds
    have others {s : Supervisor (Recorder σ)} {rec rec' : Worker} {m file : Nat} {link link' : Link}
        (waits : w.sup.Waits other rec m file link)
        (rewired : Supervisor.Rewired w.sup s other rec' m link') : s.links[n]? = w.sup.links[n]? := by
      rw [rewired.links]
      exact List.getElem?_set_ne (apart holds (held?_eq waits.known waits.holds))
    cases received with
    | skipped | noted => rfl
    | taken waits quiet took counted rewired filled => exact others waits rewired
    | missed waits quiet missed rewired frames => exact others waits rewired
    | cut waits quiet took uncounted rewired frames => exact others waits rewired
  · cases received with
    | skipped | noted => rfl
    | taken waits quiet took counted rewired filled =>
        refine (congrArg (·.cached? id) filled).trans ?_
        rw [FrameStore.cached?_fill, if_neg ne.symm]
    | missed waits quiet missed rewired frames => exact congrArg (·.cached? id) frames
    | cut waits quiet took uncounted rewired frames => exact congrArg (·.cached? id) frames

/-- So it is with looks at the regions of several. -/
theorem Sound.beside_foldl (sound : w.Sound) (now : Instant) {ids : List WorkerId}
    (absent : id ∉ ids) :
    (ids.foldl (receive now) w).Sound ∧ Beside id w (ids.foldl (receive now) w) := by
  induction ids generalizing w with
  | nil => exact ⟨sound, .refl id w⟩
  | cons other rest ih =>
      rw [List.mem_cons, not_or] at absent
      obtain ⟨sound', beside⟩ := ih (sound.part (.receive (w.received_receive now other))) absent.2
      exact ⟨sound', (sound.beside_receive now absent.1).trans beside⟩

/-! ### A pass -/

omit [ProcessManager σ] in
/-- The supervisor after some looks. -/
theorem sup_foldl_receive (now : Instant) (ids : List WorkerId) (w : World σ) :
    (ids.foldl (receive now) w).sup = ids.foldl (fun s id => (s.readWorker now id).2) w.sup := by
  induction ids generalizing w with
  | nil => rfl
  | cons id rest ih => rw [List.foldl_cons, ih, sup_receive, List.foldl_cons]

/-- **A pass, from the point of view of one worker** that it gets to: the looks at the regions of some
others, the look at its own, and those at the regions of the rest. -/
theorem Sound.pass_of_looked (sound : w.Sound) {now : Instant} (reached : id ∈ w.looked now) :
    ∃ v, v.Sound ∧ Beside id w v ∧ Beside id (receive now v id) (w.step (.readFrames now)) ∧
      ((w.sup.readFrames now).1.isSome = true → (v.sup.readWorker now id).1 ≠ .overflow) := by
  have first : w.looked now <+: w.sup.ids := Supervisor.looked_isPrefix now w.sup.ids w.sup
  obtain ⟨earlier, later, split, before, after⟩ := Supervisor.split_of_mem first reached
  obtain ⟨sound', beside⟩ := sound.beside_foldl now before
  obtain ⟨-, beside'⟩ :=
    (sound'.part (.receive (World.received_receive _ now id))).beside_foldl now after
  have pass : w.step (.readFrames now) =
      later.foldl (receive now) (receive now (earlier.foldl (receive now) w) id) := by
    show (w.looked now).foldl (receive now) w = _
    rw [split, List.foldl_append, List.foldl_cons]
  refine ⟨_, sound', beside, pass ▸ beside', fun ended stops => ?_⟩
  obtain ⟨m, ended⟩ := Option.isSome_iff_exists.1 ended
  have whole : w.looked now = w.sup.ids := Supervisor.looked_eq_of_readEach ended
  rw [sup_foldl_receive] at stops
  have cut := Supervisor.readEach_eq_none_iff (k := 0).2
    ⟨earlier, id, later, whole.symm.trans split, stops⟩
  cases ended.symm.trans cut

omit [ProcessManager σ] in
/-- A pass that comes to its end gets to everybody who is known. -/
theorem mem_looked {rec : Worker} (known : w.sup.worker? id = some rec)
    (ended : (w.sup.readFrames now).1.isSome = true) : id ∈ w.looked now := by
  obtain ⟨m, ended⟩ := Option.isSome_iff_exists.1 ended
  have whole : w.looked now = w.sup.ids := Supervisor.looked_eq_of_readEach ended
  rw [whole]
  exact Supervisor.mem_ids known

omit [ProcessManager σ] in
/-- A look changes neither the state of a worker nor its link. -/
theorem Received.unmoved (received : Received w now id w') {rec : Worker}
    (known : w'.sup.worker? other = some rec) :
    ∃ v, w.sup.worker? other = some v ∧ v.state = rec.state ∧ v.channels = rec.channels := by
  have changed {s : Supervisor (Recorder σ)} {u u' : Worker} {n : Nat} {link : Link}
      (before : w.sup.worker? id = some u) (rewired : Supervisor.Rewired w.sup s id u' n link)
      (state : u'.state = u.state) (channels : u'.channels = u.channels)
      (known : s.worker? other = some rec) :
      ∃ v, w.sup.worker? other = some v ∧ v.state = rec.state ∧ v.channels = rec.channels := by
    by_cases same : other = id
    · subst same
      cases rewired.worker.symm.trans known
      exact ⟨u, before, state.symm, channels.symm⟩
    · exact ⟨rec, (rewired.others other same).symm.trans known, rfl, rfl⟩
  cases received with
  | skipped => exact ⟨rec, known, rfl, rfl⟩
  | @noted f u n file quiet before reads =>
      have after : (w.sup.modifyWorker id f).worker? other = some rec := known
      rw [Supervisor.worker?_modifyWorker] at after
      split at after
      · obtain ⟨v, before, rfl⟩ := Option.map_eq_some_iff.1 after
        exact ⟨v, before, (quiet.state v).symm, (quiet.channels v).symm⟩
      · exact ⟨rec, after, rfl, rfl⟩
  | taken waits quiet took counted rewired filled =>
      exact changed waits.known rewired (quiet.state _) (quiet.channels _) known
  | missed waits quiet missed rewired frames =>
      exact changed waits.known rewired (quiet.state _) (quiet.channels _) known
  | cut waits quiet took uncounted rewired frames =>
      exact changed waits.known rewired (quiet.state _) (quiet.channels _) known

end World

end FrameMux
