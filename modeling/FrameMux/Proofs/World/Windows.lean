/-
**Windows in which a slot is claimed.**

While one side has claimed a slot, the world is as it would be without the claim, but for that slot.
Whoever comes to the slot meanwhile leaves it alone, so everything that happens in such a window could
as well have happened with the slot free: to a look, as if the producers had gone first, and to a
publish, as if the picture had been there at once.

Main definitions:

* `FrameMux.World.InOrder` — somebody holds a link, and its producer goes by the protocol;
* `FrameMux.World.After` — a later world, from which one can look back;
* `FrameMux.World.Window` — **two worlds, one with the slot free, and one with it claimed**.

Main results:

* `FrameMux.World.Settled.after_turns` — turns lead to a later world;
* `FrameMux.World.Window.acts` — **whatever happens in a window** runs a course with the slot free.
-/

import FrameMux.Proofs.World.Accounts
import FrameMux.Proofs.World.Cuts
import FrameMux.Proofs.World.Deliveries
import FrameMux.Proofs.World.Overlays

set_option relaxedAutoImplicit false
set_option autoImplicit false

namespace FrameMux

/-- Other contents of a region show in its memory only. -/
theorem Link.covert_refilled (file : Nat) (contents : Region) :
    Link.Covert fun l => l.refilled file contents where
  notifier := fun _ => rfl
  drained := fun _ => rfl
  closed := fun _ => rfl
  received := by
    intro mmap l
    have checks (announced : UInt64) (descriptor : Descriptor) :
        (l.refilled file contents).checkRegion mmap announced descriptor =
          l.checkRegion mmap announced descriptor := by
      cases descriptor with
      | other => rfl
      | memory number access =>
          simp only [checkRegion, refilled, List.getElem?_modify]
          cases l.files[number]? with
          | none => rfl
          | some m =>
              by_cases same : file = number
              · simp only [same, if_true, Option.map_eq_map, Option.map_some]
                rfl
              · simp only [same, if_false, Option.map_eq_map, Option.map_some]
    have control : (l.refilled file contents).control = l.control := rfl
    unfold receiveRegion
    rw [control]
    split
    · rfl
    · rfl
    · simp only [checks]
      rfl

/-- Putting a link where it is. -/
theorem Supervisor.modifyLink_self {σ : Type} {s : Supervisor σ} {n : Nat} {link : Link}
    (there : s.links[n]? = some link) : s.modifyLink n (fun _ => link) = s := by
  have links : s.links.modify n (fun _ => link) = s.links := by
    rw [modify_congr (g := id), List.modify_id]
    exact fun l there' => Option.some.inj (there.symm.trans there')
  unfold modifyLink
  rw [links]

namespace World

variable {σ : Type} {w w' u v : World σ} {n file : Nat} {f : Link → Link}

/-! ### Looking back -/

/-- A worker holds the link, and the producer on it goes by the protocol. -/
def InOrder (n : Nat) (w : World σ) : Prop :=
  (∃ id, w.sup.held? id = some n) ∧ ∃ g, w.ledgers[n]? = some g ∧ g.honest = true

/-- The link is there, and nothing is wrong with the records and the ledgers. -/
structure Settled (n : Nat) (w : World σ) : Prop where
  fit : ∀ id, w.sup.Fit id
  sound : SoundLedgers w.ledgers
  old : n < w.sup.links.length
  noted : n < w.ledgers.length

/-- The world `w'` comes after `w`: whoever holds the link in the end held it before, and a producer
that goes by the protocol then did so before. -/
structure After (n : Nat) (w w' : World σ) : Prop where
  settled : w'.Settled n
  held : ∀ id, w'.sup.held? id = some n → w.sup.held? id = some n
  honest : (∃ g, w'.ledgers[n]? = some g ∧ g.honest = true) →
    ∃ g, w.ledgers[n]? = some g ∧ g.honest = true

/-- If the link is in order in the end, it was so before. -/
theorem After.inOrder (h : After n w w') (order : w'.InOrder n) : w.InOrder n :=
  ⟨order.1.imp h.held, h.honest order.2⟩

theorem After.trans {w'' : World σ} (h : After n w w') (h' : After n w' w'') : After n w w'' :=
  ⟨h'.settled, fun id holds => h.held id (h'.held id holds), fun honest => h.honest (h'.honest honest)⟩

theorem Settled.after_refl (settled : w.Settled n) : After n w w := ⟨settled, fun _ => id, id⟩

/-- Nobody comes back to the protocol. -/
theorem Settled.honest_of (settled : w.Settled n) (later : LaterLedgers w.ledgers w'.ledgers)
    (honest : ∃ g, w'.ledgers[n]? = some g ∧ g.honest = true) :
    ∃ g, w.ledgers[n]? = some g ∧ g.honest = true := by
  obtain ⟨g', there', honest⟩ := honest
  obtain ⟨g, there⟩ : ∃ g, w.ledgers[n]? = some g := ⟨_, List.getElem?_eq_getElem settled.noted⟩
  obtain ⟨g'', there'', later⟩ := later n _ there
  cases there'.symm.trans there''
  exact ⟨_, there, later.honest honest⟩

/-- A world after a change of records, other than of states and links, of links and of ledgers. -/
theorem Settled.after_change (settled : w.Settled n)
    (records : ∀ id rec', w'.sup.worker? id = some rec' → ∃ rec, w.sup.worker? id = some rec ∧
      rec'.id = rec.id ∧ rec'.state = rec.state ∧ rec'.channels = rec.channels)
    (length : w'.sup.links.length = w.sup.links.length)
    (goes : LaterLedgers w.ledgers w'.ledgers ∧ SoundLedgers w'.ledgers) : After n w w' := by
  refine ⟨⟨fun id => ⟨?_, ?_⟩, goes.2, length ▸ settled.old,
    Nat.lt_of_lt_of_le settled.noted goes.1.length_le⟩, fun id holds => ?_, settled.honest_of goes.1⟩
  · intro rec' known'
    obtain ⟨rec, known, same, -, -⟩ := records id rec' known'
    exact same.trans ((settled.fit id).named rec known)
  · intro rec' known' starting
    obtain ⟨rec, known, -, state, channels⟩ := records id rec' known'
    rw [channels]
    exact (settled.fit id).apart rec known (state ▸ starting)
  · obtain ⟨channels, held, link⟩ := Option.map_eq_some_iff.1 holds
    obtain ⟨rec', known', holds'⟩ := Option.bind_eq_some_iff.1 held
    obtain ⟨rec, known, -, -, channels'⟩ := records id rec' known'
    rw [Supervisor.held?_of_known known, ← channels', holds', Option.map_some, link]

section

variable [ProcessManager σ] {D : Nat → Deed → Prop}

/-- The records stay in order. -/
theorem Part.fit (part : Part D w w') (fit : ∀ id, w.sup.Fit id) (id : WorkerId) :
    w'.sup.Fit id := by
  rcases part.move_or_keeps with ⟨other, s, move, rfl⟩ | ⟨keeps, -⟩
  · by_cases same : id = other
    · subst same
      exact move.fit (fit id)
    · have unchanged : s.worker? id = w.sup.worker? id := move.worker?_of_ne (fit other).named same
      refine ⟨fun rec known => (fit id).named rec (unchanged.symm.trans known), ?_⟩
      exact fun rec known => (fit id).apart rec (unchanged.symm.trans known)
  · refine ⟨part.named (fun id => (fit id).named) id, ?_⟩
    intro rec known starting
    cases before : w.sup.worker? id with
    | none =>
        obtain ⟨source, now, rfl⟩ := keeps.added id rec known before
        rfl
    | some rec₀ =>
        obtain ⟨rec', known', kept⟩ := keeps.kept id rec₀ before
        cases known.symm.trans known'
        have unlinked := (fit id).apart rec₀ before (kept.state ▸ starting)
        exact Option.map_eq_none_iff.1 (by rw [kept.link, unlinked]; rfl)

/-- A world after a part of an action. -/
theorem Settled.after_part (settled : w.Settled n) (part : Part D w w') : After n w w' := by
  have goes := part.laterLedgers settled.sound
  refine ⟨⟨part.fit settled.fit, goes.2, ?_, ?_⟩, fun id holds => ?_, settled.honest_of goes.1⟩
  · exact Nat.lt_of_lt_of_le settled.old (part.length_links_le settled.fit)
  · exact Nat.lt_of_lt_of_le settled.noted goes.1.length_le
  · exact part.held?_of settled.fit settled.old holds

theorem Settled.after_parts (settled : w.Settled n) (parts : Parts D w w') : After n w w' :=
  parts.induction (fun _ _ after part => after.trans (after.settled.after_part part))
    settled.after_refl

/-- A world after some actions. -/
theorem Settled.after_run (settled : w.Settled n) (l : List Action) : After n w (w.run l) :=
  settled.after_parts (D := fun _ _ => True)
    (parts_run (fun id => (settled.fit id).named) l fun _ _ _ => trivial)

end

/-- Another state of the link, and something noted in its ledger. -/
theorem Settled.after_link (settled : w.Settled n) (g : Link → Link) {note : Ledger → Ledger}
    (goes : ∀ g, g.Sound → g.Later (note g) ∧ (note g).Sound) :
    After n w ((w.withSup (w.sup.modifyLink n g)).modifyLedger n note) :=
  settled.after_change (fun _ rec known => ⟨rec, known, rfl, rfl, rfl⟩) (List.length_modify _ _ _)
    (laterLedgers_modify settled.sound goes n)

/-- Another state of the link. -/
theorem Settled.after_modifyLink (settled : w.Settled n) (g : Link → Link) :
    After n w (w.withSup (w.sup.modifyLink n g)) :=
  settled.after_change (fun _ rec known => ⟨rec, known, rfl, rfl, rfl⟩) (List.length_modify _ _ _)
    ⟨laterLedgers_refl _, settled.sound⟩

/-- A record of which only marks and counts are changed. -/
theorem records_modifyWorker {s : Supervisor (Recorder σ)} {id other : WorkerId}
    {f : Worker → Worker} (same : ∀ rec, (f rec).id = rec.id ∧ (f rec).state = rec.state ∧
      (f rec).channels = rec.channels) {rec' : Worker}
    (known' : (s.modifyWorker id f).worker? other = some rec') :
    ∃ rec, s.worker? other = some rec ∧ rec'.id = rec.id ∧ rec'.state = rec.state ∧
      rec'.channels = rec.channels := by
  rw [Supervisor.worker?_modifyWorker] at known'
  split at known'
  · obtain ⟨rec, known, rfl⟩ := Option.map_eq_some_iff.1 known'
    exact ⟨rec, known, same rec⟩
  · exact ⟨rec', known', rfl, rfl, rfl⟩

/-- The first step of a look. -/
theorem Settled.after_beginLook (settled : w.Settled n) (id : WorkerId) (now : Instant)
    (region : Region) : After n w (w.beginLook id now n file region) := by
  refine settled.after_change ?_ (List.length_modify _ _ _) ⟨laterLedgers_refl _, settled.sound⟩
  intro other rec' known'
  have quiet := Supervisor.quiet_notePublished region.published now
  exact records_modifyWorker (fun rec => ⟨quiet.id rec, quiet.state rec, quiet.channels rec⟩) known'

/-- The second step of a look. -/
theorem Settled.after_finishLook (settled : w.Settled n) (id : WorkerId) (now : Instant) :
    After n w (w.finishLook id now n file) := by
  unfold finishLook
  split
  · next rec link _ _ =>
      generalize link.finishTake file = taken
      have sup : (w.noteLook id (w.sup.putAway id rec n now taken)).sup =
          (w.sup.putAway id rec n now taken).2 := by
        unfold noteLook
        split <;> rfl
      refine settled.after_change ?_ ?_ ?_
      · intro other rec' known'
        rw [sup] at known'
        unfold Supervisor.putAway at known'
        split at known'
        · next frame _ =>
            split at known'
            · exact ⟨rec', known', rfl, rfl, rfl⟩
            · next dropped _ =>
                exact records_modifyWorker (s := w.sup.modifyLink n fun _ => taken.2)
                  (f := Supervisor.noteTaken dropped frame.sequence now) (fun _ => ⟨rfl, rfl, rfl⟩)
                  known'
        · exact ⟨rec', known', rfl, rfl, rfl⟩
      · rw [sup]
        unfold Supervisor.putAway
        split
        · split <;> exact List.length_modify _ _ _
        · exact List.length_modify _ _ _
      · unfold noteLook
        split
        · exact laterLedgers_modify settled.sound (fun _ => Ledger.later_received) _
        · exact laterLedgers_modify settled.sound (fun _ => Ledger.later_interrupted) _
        · exact ⟨laterLedgers_refl _, settled.sound⟩
  · exact settled.after_refl

/-- The first step of a publish. -/
theorem Settled.after_beginFill (settled : w.Settled n) (p : Picture) (link : Link)
    (claimed : Region) : After n w (w.beginFill n p link file claimed) :=
  settled.after_link _ fun g => ((Deed.fill p).extends_note g link).later

/-- The last step of a publish. -/
theorem Settled.after_commit {s : Account σ} (settled : s.world.Settled n) (replacing : Bool) :
    After n s.world (s.commit n file replacing).world := by
  unfold Account.commit
  split
  · exact settled.after_refl
  · exact settled.after_modifyLink _

variable [ProcessManager σ]

theorem Settled.after_acts {s : Account σ} (settled : s.world.Settled n) (l : List Action) :
    After n s.world (s.acts n l).world := by
  rw [Account.world_acts]
  exact settled.after_run l

/-- A world after a turn. -/
theorem Settled.after_turn {s : Account σ} (settled : s.world.Settled n) (t : Turn) :
    After n s.world (s.turn n t).world := by
  cases t with
  | act a => exact settled.after_run [a]
  | look id now meanwhile =>
      simp only [Account.turn, Account.look]
      split
      · have looked : After n s.world (s.mapWorld fun w => w.receive now id).world :=
          settled.after_part (D := fun _ _ => True) (.receive (s.world.received_receive now id))
        exact looked.trans (looked.settled.after_acts _)
      · next file region _ =>
          have begun : After n s.world (s.mapWorld fun w => w.beginLook id now n file region).world :=
            settled.after_beginLook id now region
          have met := begun.settled.after_acts (meanwhile.map fun d => Action.produce d.1 d.2)
          exact (begun.trans met).trans (met.settled.after_finishLook id now)
  | fill p claimed written =>
      simp only [Account.turn, Account.fill]
      split
      · exact settled.after_acts _
      · next link file region replacing _ =>
          have begun : After n s.world (s.mapWorld fun w => w.beginFill n p link file region).world :=
            settled.after_beginFill p link region
          have met := begun.settled.after_acts claimed
          have stowed : After n _ (Account.mapWorld _ fun w => w.stow n file p).world :=
            met.settled.after_modifyLink fun link => link.mapRegion file fun r => r.stow p
          have met' := stowed.settled.after_acts written
          have all := ((begun.trans met).trans stowed).trans met'
          split
          · exact all.trans (met'.settled.after_commit replacing)
          · exact all

/-- A world after some turns. -/
theorem Settled.after_turns {s : Account σ} (settled : s.world.Settled n) (l : List Turn) :
    After n s.world (s.turns n l).world := by
  induction l generalizing s with
  | nil => exact settled.after_refl
  | cons t rest ih =>
      have first := settled.after_turn t
      exact first.trans (ih first.settled)

/-! ### Another state of one link -/

namespace Overlaid

omit [ProcessManager σ]

/-- A world with its link changed. -/
theorem of_modifyLink {g : Link → Link} (same : ∀ l, u.sup.links[n]? = some l → g l = f l) :
    Overlaid n f 0 True u (u.withSup (u.sup.modifyLink n g)) := by
  have links : u.sup.links.modify n g = u.sup.links.modify n f := modify_congr same
  refine ⟨?_, rfl, rfl, rfl, fun _ _ => rfl, fun _ => rfl⟩
  show { u.mux with supervisor := u.sup.modifyLink n g } = _
  rw [Supervisor.modifyLink, links]
  rfl

/-- Whatever the change leaves as it is. -/
theorem of_fixed (fixed : ∀ l, u.sup.links[n]? = some l → f l = l) : Overlaid n f 0 True u u := by
  have links : u.sup.links.modify n f = u.sup.links := by
    rw [modify_congr (g := id) fixed, List.modify_id]
  refine ⟨?_, rfl, rfl, rfl, fun _ _ => rfl, fun _ => rfl⟩
  rw [Supervisor.overlay, links]
  rfl

/-- The link is changed once more. -/
theorem modifyLink (h : Overlaid n f 0 True u v) (g : Link → Link) :
    Overlaid n (fun l => g (f l)) 0 True u (v.withSup (v.sup.modifyLink n g)) := by
  refine ⟨?_, h.calls, h.stored, h.length, h.ledgers, h.inFlight⟩
  rw [h.mux_withSup, h.sup]
  simp only [Supervisor.modifyLink, Supervisor.overlay, List.modify_modify_eq]
  rfl

/-- The worlds only differ in the link. -/
theorem withSup_eq (h : Overlaid n f 0 True u v) (s : Supervisor (Recorder σ)) :
    v.withSup s = u.withSup s := by
  have ledgers : v.ledgers = u.ledgers := List.ext_getElem? fun m => h.ledgers m fun _ => trivial
  show World.mk (v.withSup s).mux v.calls v.ledgers v.stored v.inFlight = _
  rw [h.mux_withSup, h.calls, ledgers, h.stored, h.inFlight trivial]
  rfl

/-- They are the same if the change leaves the link as it is. -/
theorem eq_of_fixed (h : Overlaid n f 0 True u v)
    (fixed : ∀ l, u.sup.links[n]? = some l → f l = l) : v = u := by
  have sup : v.sup = u.sup := by
    rw [h.sup]
    exact (of_fixed fixed).sup.symm
  calc v = v.withSup v.sup := rfl
    _ = u.withSup u.sup := by rw [h.withSup_eq, sup]
    _ = u := rfl

/-- A record is changed in both worlds. -/
theorem modifyWorker (h : Overlaid n f 0 True u v) (id : WorkerId) (g : Worker → Worker) :
    Overlaid n f 0 True (u.withSup (u.sup.modifyWorker id g))
      (v.withSup (v.sup.modifyWorker id g)) := by
  rw [h.sup]
  exact h.withSup (u.sup.modifyWorker id g)

/-- The producer on the link does something that goes with how it looks. -/
theorem produce_self (h : Overlaid n f 0 True u v) {link : Link}
    (there : u.sup.links[n]? = some link) {deed : Deed} (acts : deed.act (f link) = f (deed.act link))
    (unseen : ∀ l, (f l).notifier = l.notifier)
    (notes : ∀ g, deed.note g (f link) = deed.note g link) :
    Overlaid n f 0 True (u.produce n deed) (v.produce n deed) := by
  have there' : v.sup.links[n]? = some (f link) := by
    rw [h.sup, Supervisor.link_overlay_self, there]
    rfl
  have links : (u.sup.links.modify n f).set n (deed.act (f link)) =
      (u.sup.links.set n (deed.act link)).modify n f := by
    have set (l : List Link) (x : Link) : l.set n x = l.modify n fun _ => x := by
      rw [List.modify_eq_set]
    rw [set, set, List.modify_modify_eq, List.modify_modify_eq]
    exact congrArg (fun x => u.sup.links.modify n fun _ => x) acts
  have moved := (h.withSup { u.sup with
    links := u.sup.links.set n (deed.act link)
    poller := if link.notifier = (deed.act link).notifier then u.sup.poller
      else u.sup.poller.wake n }).modifyLedger n fun g => deed.note g link
  rw [produce_of_link there, produce_of_link there', h.sup]
  simp only [Supervisor.overlay, ← links] at moved
  simp only [notes, acts, unseen] at moved ⊢
  exact moved

end Overlaid

/-! ### Windows -/

/-- In the world `u` the slot of a link is free, and holds what it did; the world `v` is the same, but
the slot is claimed.  No pass was cut short on the link so far. -/
structure Window (n file : Nat) (free claimed : Region) (u v : World σ) : Prop where
  apart : Overlaid n (fun l => l.refilled file claimed) 0 True u v
  same : Overlaid n (fun l => l.refilled file free) 0 True u u
  claimed : claimed.Claimed
  sound : u.Sound
  settled : u.Settled n
  whole : u.Whole n

variable {free claimed : Region}

omit [ProcessManager σ] in
/-- The link behind a window, if it is in order: what its holder reads from is what its producer
publishes into, in either world. -/
theorem Window.link (h : Window n file free claimed u v) (order : v.InOrder n) :
    ∃ id rec reader g l r, u.sup.worker? id = some rec ∧ rec.channels = some ⟨n, reader⟩ ∧
      u.ledgers[n]? = some g ∧ g.honest = true ∧ u.sup.links[n]? = some l ∧
      Wired g l reader rec.frameWaiting ∧ (reader = none ∨ reader = some file) ∧
      .regionNegotiated ∈ g.signalled ∧ l.writer = some file ∧ l.region? file = some r ∧
      r.refilled free = r := by
  obtain ⟨⟨id, holds⟩, g, there, honest⟩ := order
  rw [h.apart.ledgers n fun _ => trivial] at there
  rw [show v.sup.held? id = u.sup.held? id from h.apart.held? id] at holds
  obtain ⟨channels, held, rfl⟩ := Option.map_eq_some_iff.1 holds
  obtain ⟨rec, known, holds⟩ := Option.bind_eq_some_iff.1 held
  obtain ⟨g', l, attached⟩ := h.sound.linked.held id rec channels known holds
  cases there.symm.trans attached.ledger
  have fixed : l.refilled file free = l := by
    have same := Supervisor.link_overlay_self u.sup channels.link (fun l => l.refilled file free) 0
    rw [← h.same.sup, attached.link] at same
    exact (Option.some.inj same).symm
  have writer : l.writer = some file := by rw [← fixed]; rfl
  have wired := attached.wired (h.whole.regular there honest)
  rcases wired.stage with ⟨unoffered, -⟩ | ⟨r, offered⟩
  · rw [unoffered.writer] at writer
    cases writer
  · obtain rfl : 0 = file := Option.some.inj (offered.writer.symm.trans writer)
    have refilled := l.region?_refilled 0 free
    rw [fixed, offered.region?] at refilled
    exact ⟨id, rec, channels.reader, g, l, r, known, holds, there, honest, attached.link, wired,
      offered.reader, offered.signalled, writer, offered.region?, (Option.some.inj refilled).symm⟩

omit [ProcessManager σ] in
/-- The same link with the slot claimed. -/
theorem Window.link_claimed (h : Window n file free claimed u v) {l : Link}
    (there : u.sup.links[n]? = some l) : v.sup.links[n]? = some (l.refilled file claimed) := by
  rw [h.apart.sup, Supervisor.link_overlay_self, there]
  rfl

/-- A window stays one if the same happens in both worlds. -/
theorem Window.parts {D : Nat → Deed → Prop} {u' v' : World σ}
    (h : Window n file free claimed u v) (parts : Parts D u u') (whole : u'.Whole n)
    (apart : Overlaid n (fun l => l.refilled file claimed) 0 True u' v')
    (same : Overlaid n (fun l => l.refilled file free) 0 True u' u') :
    Window n file free claimed u' v' where
  apart := apart
  same := same
  claimed := h.claimed
  sound := parts.induction
    (fun _ _ sound part => sound.part (part.mono fun _ _ _ => trivial)) h.sound
  settled := (h.settled.after_parts parts).settled
  whole := whole

omit [ProcessManager σ] in
/-- A world with the slot claimed is settled as well. -/
theorem Window.settled_claimed (h : Window n file free claimed u v) : v.Settled n where
  fit := by
    intro id
    rw [h.apart.sup]
    exact ⟨(h.settled.fit id).named, (h.settled.fit id).apart⟩
  sound := by
    rw [show v.ledgers = u.ledgers from List.ext_getElem? fun m => h.apart.ledgers m fun _ => trivial]
    exact h.settled.sound
  old := by
    rw [h.apart.sup]
    exact Nat.lt_of_lt_of_eq h.settled.old (List.length_modify _ _ _).symm
  noted := h.apart.length ▸ h.settled.noted

omit [ProcessManager σ] in
/-- A look at a slot that is claimed already finds nothing. -/
theorem Window.readWorker (h : Window n file free claimed u v) (order : v.InOrder n) {id : WorkerId}
    (holds : u.sup.held? id = some n) (now : Instant) :
    v.sup.readWorker now id = (.nothing, v.sup) ∨
    ∃ f rec file', Worker.Quiet f ∧ u.sup.worker? id = some rec ∧
      rec.channels = some ⟨n, some file'⟩ ∧
      v.sup.readWorker now id = (.nothing, v.sup.modifyWorker id f) := by
  obtain ⟨id', rec, reader, g, l, r, known, reads, -, -, there, -, same, -, -, memory, -⟩ :=
    h.link order
  -- Only one worker holds the link.
  obtain rfl : id = id' := by
    obtain ⟨channels, held, link⟩ := Option.map_eq_some_iff.1 holds
    obtain ⟨rec', known', holds⟩ := Option.bind_eq_some_iff.1 held
    exact h.sound.linked.unique known' holds known reads link
  have known' : v.sup.worker? id = some rec := by
    rw [h.apart.sup]
    exact known
  by_cases idle : rec.state = .alive → rec.reader? = none
  · exact Or.inl (Supervisor.readWorker_of_idle known' idle now)
  · obtain ⟨alive, negotiated⟩ := Classical.not_imp.1 idle
    rcases same with rfl | rfl
    · rw [Worker.reader?, reads] at negotiated
      exact absurd rfl negotiated
    · have there' := h.link_claimed there
      have occupied := Link.take_of_claimed ((l.region?_refilled file claimed).trans
        (congrArg _ memory)) (h.claimed.refilled r)
      right
      rw [Supervisor.readWorker_of_reader known' alive reads]
      dsimp only
      generalize ((v.sup.links[n]?.bind fun link => link.region? file).map
        Region.published).getD 0 = published
      refine ⟨_, rec, file, Supervisor.quiet_notePublished published now, known, reads, ?_⟩
      split
      · rw [Supervisor.takeFrame_eq (s := v.sup.modifyWorker id _) there', occupied]
        exact congrArg (Prod.mk Supervisor.LookResult.nothing) (Supervisor.modifyLink_self there')
      · rfl

omit [ProcessManager σ] in
/-- A look leaves the ledgers of the links alone that its worker does not hold. -/
theorem ledgers_receive_of_ne {id : WorkerId} (unheld : w.sup.held? id ≠ some n) (now : Instant) :
    (w.receive now id).ledgers[n]? = w.ledgers[n]? := by
  unfold receive
  generalize w.sup.readWorker now id = look
  have other {m : Nat} (holds : w.held? id = some m) : m ≠ n :=
    fun same => unheld (same ▸ holds)
  dsimp only
  split
  · next holds => exact List.getElem?_modify_ne _ _ (other holds)
  · next holds => exact List.getElem?_modify_ne _ _ (other holds)
  · rfl

/-- A look in a window: another slot is looked at in both worlds, and the claimed one is left alone. -/
theorem Window.receive (h : Window n file free claimed u v) (order : v.InOrder n) (now : Instant)
    (id : WorkerId) :
    ∃ u', Part (fun m _ => m ≠ n) u u' ∧ Window n file free claimed u' (v.receive now id) := by
  by_cases holds : u.sup.held? id = some n
  · rcases h.readWorker order holds now with idle | ⟨f, rec, file', quiet, known, reads, noted⟩
    · have done : v.receive now id = v := by
        show v.noteLook id (v.sup.readWorker now id) = v
        rw [idle]
        rfl
      rw [done]
      exact ⟨u, .receive (.skipped : Received u now id u), h⟩
    · have done : v.receive now id = v.withSup (v.sup.modifyWorker id f) := by
        show v.noteLook id (v.sup.readWorker now id) = _
        rw [noted]
        rfl
      have part : Part (fun m _ => m ≠ n) u (u.withSup (u.sup.modifyWorker id f)) :=
        .receive (.noted quiet known reads : Received u now id _)
      rw [done]
      exact ⟨_, part, h.parts part.parts h.whole (h.apart.modifyWorker id f)
        (h.same.modifyWorker id f)⟩
  · have part : Part (fun m _ => m ≠ n) u (u.receive now id) :=
      .receive (u.received_receive now id)
    have whole : (u.receive now id).Whole n := h.whole.of_eq (ledgers_receive_of_ne holds now)
    exact ⟨_, part, h.parts part.parts whole (h.apart.receive holds now) (h.same.receive holds now)⟩

theorem Settled.after_receives (settled : w.Settled n) (now : Instant) (ids : List WorkerId) :
    After n w (ids.foldl (World.receive now) w) := by
  induction ids generalizing w with
  | nil => exact settled.after_refl
  | cons id rest ih =>
      have first : After n w (w.receive now id) :=
        settled.after_part (D := fun _ _ => True) (.receive (w.received_receive now id))
      exact first.trans (ih first.settled)

/-- Looks at some slots. -/
theorem Window.receives (h : Window n file free claimed u v) (now : Instant) (ids : List WorkerId)
    (order : (ids.foldl (World.receive now) v).InOrder n) :
    ∃ u', Parts (fun m _ => m ≠ n) u u' ∧
      Window n file free claimed u' (ids.foldl (World.receive now) v) := by
  induction ids generalizing u v with
  | nil => exact ⟨u, .refl u, h⟩
  | cons id rest ih =>
      have order₀ := (h.settled_claimed.after_receives now (id :: rest)).inOrder order
      obtain ⟨u', part, h'⟩ := h.receive order₀ now id
      obtain ⟨u'', parts, h''⟩ := ih h' order
      exact ⟨u'', .step part parts, h''⟩

/-- What an action in a window comes to with the slot free: a course on which the same publishes end,
and none of them while the slot is the producer's. -/
def Matched (n file : Nat) (free claimed : Region) (outcomes : List PublishOutcome) (u v : World σ)
    (a : Action) : Prop :=
  ∃ u', Course n ⟨u, outcomes⟩ ⟨u', outcomes ++ (v.outcome? n a).toList⟩ ∧
    Window n file free claimed u' (v.step a) ∧
    (claimed.header.state = SlotState.writing.raw → v.outcome? n a = none)

omit [ProcessManager σ] in
/-- A deed that does nothing, neither on the link nor in the ledger. -/
theorem produce_of_idle {l : Link} {g : Ledger} {d : Deed} (there : w.sup.links[n]? = some l)
    (noted : w.ledgers[n]? = some g) (acts : d.act l = l) (notes : d.note g l = g) :
    w.produce n d = w := by
  have links : w.sup.links.set n l = w.sup.links := by
    obtain ⟨below, same⟩ := List.getElem?_eq_some_iff.1 there
    rw [← same, List.set_getElem_self]
  have ledgers : (w.ledgers.modify n fun g => d.note g l) = w.ledgers := by
    rw [modify_congr (g := id), List.modify_id]
    intro g' there'
    cases noted.symm.trans there'
    exact notes
  rw [produce_of_link there, acts, if_pos rfl, links]
  show { w.withSup w.sup with ledgers := w.ledgers.modify n fun g => d.note g l } = w
  rw [ledgers]
  rfl

omit [ProcessManager σ] in
/-- A deed after which the link is in order was by the protocol. -/
theorem InOrder.honest_note {l : Link} {g : Ledger} {d : Deed} (order : (w.produce n d).InOrder n)
    (there : w.sup.links[n]? = some l) (noted : w.ledgers[n]? = some g) :
    (d.note g l).honest = true := by
  obtain ⟨-, g', there', honest⟩ := order
  rw [produce_of_link there] at there'
  change (w.ledgers.modify n fun g => d.note g l)[n]? = some g' at there'
  rw [List.getElem?_modify_eq, noted] at there'
  cases there'
  exact honest

/-- A deed in a window that goes with how the link looks, and is no publish. -/
theorem Window.deed (h : Window n file free claimed u v) {l : Link} {d : Deed}
    (there : u.sup.links[n]? = some l)
    (acts : ∀ c, d.act (l.refilled file c) = (d.act l).refilled file c)
    (notes : ∀ c g, d.note g (l.refilled file c) = d.note g l) (ends : ∀ l, d.outcome? l = none)
    (outcomes : List PublishOutcome) :
    Matched n file free claimed outcomes u v (.produce n d) := by
  have part : Part (fun _ _ => True) u (u.produce n d) := .produce there d trivial
  have apart := h.apart.produce_self there (acts claimed) (fun _ => rfl) (notes claimed)
  have same := h.same.produce_self there (acts free) (fun _ => rfl) (notes free)
  have nothing : v.outcome? n (.produce n d) = none := by
    rw [outcome?, if_pos rfl, h.link_claimed there, Option.bind_some, ends]
  have whole : (u.step (.produce n d)).Whole n :=
    h.whole.step h.sound.named fun _ reads => Action.noConfusion reads
  refine ⟨u.produce n d, .deed there d ?_, h.parts part.parts whole apart same, fun _ => nothing⟩
  rw [nothing, ends]
  exact .refl _

/-- A publish in a window: it is turned away, and that is all. -/
theorem Window.refused (h : Window n file free claimed u v) {l : Link} {g : Ledger} {d : Deed}
    {result : Except ChannelError PublishOutcome} (there : u.sup.links[n]? = some l)
    (noted : u.ledgers[n]? = some g) (acts : d.act (l.refilled file claimed) = l.refilled file claimed)
    (notes : d.note g (l.refilled file claimed) = g)
    (ends : d.outcome? (l.refilled file claimed) = result.toOption)
    (away : Deed.TurnedAway result)
    (busy : result = .ok .busy → claimed.header.state = SlotState.reading.raw)
    (outcomes : List PublishOutcome) :
    Matched n file free claimed outcomes u v (.produce n d) := by
  have there' := h.link_claimed there
  have noted' : v.ledgers[n]? = some g := (h.apart.ledgers n fun _ => trivial).trans noted
  have idle : v.step (.produce n d) = v := produce_of_idle there' noted' acts notes
  have ended : v.outcome? n (.produce n d) = result.toOption := by
    rw [outcome?, if_pos rfl, there', Option.bind_some, ends]
  rw [Matched, ended, idle]
  refine ⟨u, ?_, h, ?_⟩
  · rcases away with ⟨e, -, rfl⟩ | rfl
    · show Course n _ ⟨u, outcomes ++ []⟩
      rw [List.append_nil]
      exact .refl _
    · exact .busy (.refl _)
  · intro writing
    rcases away with ⟨e, -, rfl⟩ | rfl
    · rfl
    · have reading := busy rfl
      rw [writing] at reading
      cases reading

/-- A deed on a link whose slot is claimed: it is done with the slot free as well, or it is a publish
that is turned away. -/
theorem Window.produce (h : Window n file free claimed u v) (d : Deed)
    (order : (v.produce n d).InOrder n) (outcomes : List PublishOutcome) :
    Matched n file free claimed outcomes u v (.produce n d) := by
  have order₀ := (h.settled_claimed.after_run [.produce n d]).inOrder order
  obtain ⟨-, -, -, g, l, r, -, -, noted, -, there, -, -, signalled, -, memory, -⟩ := h.link order₀
  have noted' : v.ledgers[n]? = some g := (h.apart.ledgers n fun _ => trivial).trans noted
  have honest := order.honest_note (h.link_claimed there) noted'
  have inside : (l.refilled file claimed).region? file = some (r.refilled claimed) :=
    (l.region?_refilled file claimed).trans (congrArg _ memory)
  cases d with
  | announce mask =>
      refine h.deed there (fun c => ?_) (fun _ _ => rfl) (fun _ => rfl) outcomes
      rw [Deed.act, Link.signal_refilled]
      rfl
  | hangUp => exact h.deed there (fun _ => rfl) (fun _ _ => rfl) (fun _ => rfl) outcomes
  | offer mmap capacity => exact absurd signalled (Deed.unsent_of_noteOffer honest)
  | other act => cases honest
  | fill p =>
      obtain ⟨result, done, away, busy⟩ := Link.fill_of_claimed rfl inside (h.claimed.refilled r) p
      obtain ⟨notes, -⟩ := Deed.note_of_refused (Deed.told_of_noteFill honest)
        (congrArg Prod.fst done) away
      refine h.refused (d := .fill p) there noted (congrArg Prod.snd done) notes ?_ away busy outcomes
      rw [Deed.outcome?, done]
      rfl
  | publish p =>
      obtain ⟨result, published, done, away, busy⟩ :=
        Link.publish_of_claimed rfl inside (h.claimed.refilled r) p
      obtain ⟨-, notes⟩ := Deed.note_of_refused (Deed.told_of_notePublish honest)
        (congrArg Prod.fst done) away
      refine h.refused (d := .publish p) there noted (congrArg Prod.snd published) notes ?_ away busy
        outcomes
      rw [Deed.outcome?, published]
      rfl

/-- **An action in a window** runs a course with the slot free. -/
theorem Window.act (h : Window n file free claimed u v) (a : Action) (order : (v.step a).InOrder n)
    (outcomes : List PublishOutcome) : Matched n file free claimed outcomes u v a := by
  have covert := Link.covert_refilled file
  by_cases ours : ∃ d, a = .produce n d
  · obtain ⟨d, rfl⟩ := ours
    exact h.produce d order outcomes
  · have quiet : v.outcome? n a = none := by
      cases a with
      | produce m d => exact if_neg fun same => ours ⟨d, by rw [same]⟩
      | _ => rfl
    rw [Matched, quiet, Option.toList_none, List.append_nil]
    by_cases reads : ∃ now, a = .readFrames now
    · obtain ⟨now, rfl⟩ := reads
      obtain ⟨u', parts, h'⟩ := h.receives now (v.looked now) order
      exact ⟨u', course_of_parts parts outcomes, h', fun _ => rfl⟩
    · have parts : Parts (fun m _ => m ≠ n) u (u.step a) := by
        refine parts_step h.sound.named a fun m d same => ?_
        rintro rfl
        exact ours ⟨d, same⟩
      have blind (now : Instant) : a ≠ .readFrames now := fun same => reads ⟨now, same⟩
      have other (d : Deed) : a ≠ .produce n d := fun same => ours ⟨d, same⟩
      have apart := h.apart.step ⟨h.sound, h.settled.old, Or.inl (covert claimed)⟩
        (Or.inl (covert claimed).notifier) blind other
      have same := h.same.step ⟨h.sound, h.settled.old, Or.inl (covert free)⟩
        (Or.inl (covert free).notifier) blind other
      have whole := h.whole.step h.sound.named blind
      exact ⟨u.step a, course_of_parts parts outcomes, h.parts parts whole apart same, fun _ => rfl⟩

/-- **Whatever happens in a window** runs a course with the slot free; while the slot is the
producer's, no publish ends. -/
theorem Window.acts (h : Window n file free claimed u v) (l : List Action)
    (order : (v.run l).InOrder n) (outcomes outcomes' : List PublishOutcome) :
    ∃ u' new, Course n ⟨u, outcomes⟩ ⟨u', outcomes ++ new⟩ ∧
      Window n file free claimed u' (v.run l) ∧
      Account.acts n ⟨v, outcomes'⟩ l = ⟨v.run l, outcomes' ++ new⟩ ∧
      (claimed.header.state = SlotState.writing.raw → new = []) := by
  induction l generalizing u v outcomes outcomes' with
  | nil =>
      refine ⟨u, [], ?_, h, ?_, fun _ => rfl⟩
      · rw [List.append_nil]
        exact .refl _
      · rw [List.append_nil]
        rfl
  | cons a rest ih =>
      have first := h.settled_claimed.after_run [a]
      have order₁ := (first.settled.after_run rest).inOrder order
      obtain ⟨u₁, course, h₁, none⟩ := h.act a order₁ outcomes
      obtain ⟨u', new, course', h', acted, none'⟩ := ih h₁ order
        (outcomes ++ (v.outcome? n a).toList) (outcomes' ++ (v.outcome? n a).toList)
      refine ⟨u', (v.outcome? n a).toList ++ new, ?_, h', ?_, ?_⟩
      · rw [← List.append_assoc]
        exact course.trans course'
      · rw [← List.append_assoc]
        exact acted
      · intro writing
        rw [none writing, none' writing]
        rfl

end World

end FrameMux
