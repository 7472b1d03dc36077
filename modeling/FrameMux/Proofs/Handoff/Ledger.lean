/-
**What a producer did.**

A ledger keeps what a producer did on its link: which events it signalled, which of them are still to
be drained, which pictures it published, which of them was taken last, and whether it has yet to tell
about the one in the slot.  It also keeps whether the producer went by the protocol: start and exit
are signalled once each, one region is offered, publishing tells about a picture exactly when it
filled an empty slot, every call is carried through, and nothing else touches the link.

Numbers are words, and on a link two of them are added up: the count of the pictures, by the producer,
and the count of the pictures missed, by the multiplexer.  Where a sum is no word the call stops in the
middle.  A producer that stops so has left the protocol; where the multiplexer does, the ledger says
that the link was cut.  A link is regular while neither has happened.

Main definitions:

* `FrameMux.Ledger` — what was done, and whether by the protocol;
* `FrameMux.Ledger.regular` — **the links of which most can be said**;
* `FrameMux.Deed` — what a producer can do, publishing as a whole or in its two halves;
* `FrameMux.Deed.act`, `FrameMux.Deed.note` — **a deed**, on the link and in the ledger;
* `FrameMux.Ledger.opening` — a link whose producer signalled before anyone listened;
* `FrameMux.Ledger.Later`, `FrameMux.LaterLedgers` — how ledgers go on while frames are taken.

Main results:

* `FrameMux.Link.publish_eq_fill` — publishing is filling the slot and then telling;
* `FrameMux.Deed.extends_note` — publishes are only ever added, and nobody comes back to the
  protocol;
* `FrameMux.laterLedgers_modify` — a list of ledgers goes on if one of them does.
-/

import FrameMux.Handoff.Link
import FrameMux.Proofs.Handoff.Picture
import FrameMux.Proofs.Handoff.Signals
import FrameMux.Worker.Id

set_option relaxedAutoImplicit false
set_option autoImplicit false

namespace FrameMux

/-! ### Publishing in two halves -/

namespace Link

/-- The first half of publishing: the slot, without the counter. -/
def fill (l : Link) (p : Picture) : Option (Except ChannelError PublishOutcome) × Link :=
  match l.writer with
  | none => (none, l)
  | some file =>
      match l.region? file with
      | none => (none, l)
      | some region =>
          (some (region.publish p.data p.width p.height).1,
            l.setRegion file (region.publish p.data p.width p.height).2)

/-- Publishing is filling the slot and, if it was empty, telling about it. -/
theorem publish_eq_fill (l : Link) (p : Picture) :
    (l.publish p.data p.width p.height).2 =
      match (l.fill p).1 with
      | some (.ok .published) => ((l.fill p).2.signal (.ofEvent .frameWaiting)).2
      | _ => (l.fill p).2 := by
  cases writer : l.writer with
  | none => simp only [publish, fill, writer]
  | some file =>
      cases memory : l.region? file with
      | none => simp only [publish, fill, writer, memory]
      | some region =>
          simp only [publish, fill, writer, memory, Channel.publish]
          obtain ⟨result, region'⟩ := region.publish p.data p.width p.height
          match result with
          | .error _ => rfl
          | .ok .busy => rfl
          | .ok .replaced => rfl
          | .ok .published =>
              -- The counter is not part of the memory, so it does not matter which comes first.
              simp only [signal, setRegion]
              cases l.notifier.signal (.ofEvent .frameWaiting) <;> rfl

end Link

/-! ### The ledger -/

/-- The event that a mask is of, if it is of a single one. -/
def EventMask.event? (mask : EventMask) : Option Event := Event.all.find? fun e => mask = .ofEvent e

/-- A mask of a single event is the mask of that event. -/
theorem EventMask.eq_of_event? {mask : EventMask} {e : Event} (h : mask.event? = some e) :
    mask = .ofEvent e := by
  simpa using List.find?_some h

/-- What a producer did on its link, what is still to be drained of it, and how many pictures it had
published when one was last taken.  `honest` says that the producer went by the protocol, `cut` that the
multiplexer once stopped in the middle of taking a picture, because it could not count those missed. -/
structure Ledger where
  worker : WorkerId
  honest : Bool
  cut : Bool
  signalled : List Event
  undrained : List Event
  untold : Bool
  publishes : List Picture
  taken : Nat
deriving DecidableEq, Repr

namespace Ledger

/-- The ledger of a producer that has done nothing. -/
def fresh (worker : WorkerId) : Ledger := ⟨worker, true, false, [], [], false, [], 0⟩

/-- Whether the producer went by the protocol, and the multiplexer was never cut short on the link. -/
def regular (g : Ledger) : Bool := g.honest && !g.cut

/-- Whether a producer may signal an event by itself now.  That it has sent a region it tells by
offering it. -/
def mayAnnounce (g : Ledger) : Event → Bool
  | .childStarted => !g.signalled.contains .childStarted
  | .pipelineExited => !g.signalled.contains .pipelineExited
  | .regionNegotiated => false
  | .frameWaiting => g.untold

/-- Notes a signal. -/
def announced (g : Ledger) (e : Event) : Ledger :=
  { g with
    signalled := e :: g.signalled
    undrained := e :: g.undrained
    untold := g.untold && e ≠ .frameWaiting }

/-- Notes a picture in the slot. -/
def filled (g : Ledger) (p : Picture) (untold : Bool) : Ledger :=
  { g with publishes := g.publishes ++ [p], untold }

/-- Notes that the producer left the protocol. -/
def strayed (g : Ledger) : Ledger := { g with honest := false }

/-- Notes that the counter was drained. -/
def drained (g : Ledger) : Ledger := { g with undrained := [] }

/-- Notes that the picture in the slot was taken. -/
def received (g : Ledger) : Ledger := { g with taken := g.publishes.length }

/-- Notes that the multiplexer stopped while it took the picture in the slot. -/
def interrupted (g : Ledger) : Ledger := { g with cut := true }

/-- A producer on a regular link goes by the protocol. -/
theorem honest_of_regular {g : Ledger} (regular : g.regular = true) : g.honest = true :=
  ((Bool.and_eq_true _ _).mp regular).1

theorem not_regular_interrupted (g : Ledger) : ¬ g.interrupted.regular = true := by
  simp [regular, interrupted]

end Ledger

/-- What a producer can do.  Filling the slot is the first half of publishing; the second half is to
announce that a frame is waiting.  With an offer comes the system's answer to the mapping of the
region.  A producer that ends hangs up the control socket. -/
inductive Deed where
  | announce (mask : EventMask)
  | offer (mmap : Mmap) (capacity : UInt64)
  | fill (p : Picture)
  | publish (p : Picture)
  | hangUp
  | other (act : Link → Link)

namespace Deed

/-- A deed on the link. -/
def act : Deed → Link → Link
  | announce mask, l => (l.signal mask).2
  | offer mmap capacity, l => (l.offer mmap true capacity).2
  | fill p, l => (l.fill p).2
  | publish p, l => (l.publish p.data p.width p.height).2
  | hangUp, l => l.closeSender
  | other f, l => f l

/-- A signal in the ledger. -/
def noteAnnounce (mask : EventMask) (g : Ledger) : Ledger :=
  match mask.event? with
  | some e => if g.mayAnnounce e then g.announced e else g.strayed
  | none => g.strayed

/-- An offer in the ledger; after one that failed another may follow. -/
def noteOffer (mmap : Mmap) (capacity : UInt64) (g : Ledger) (l : Link) : Ledger :=
  if g.signalled.contains .regionNegotiated then g.strayed
  else
    match (l.offer mmap true capacity).1 with
    | .ok _ => g.announced .regionNegotiated
    | .error _ => g

/-- A filled slot in the ledger, given how filling it ended. -/
def noteFilled (p : Picture) (g : Ledger) :
    Option (Except ChannelError PublishOutcome) → Ledger
  | some (.ok .published) => g.filled p true
  | some (.ok .replaced) => g.filled p false
  -- The slot stays claimed for good.
  | some (.error .overflow) => g.strayed
  | _ => g

/-- The first half of publishing in the ledger. -/
def noteFill (p : Picture) (g : Ledger) (l : Link) : Ledger :=
  -- While there is something to tell, publishing is not over.
  if g.untold then g.strayed else noteFilled p g (l.fill p).1

/-- Publishing as a whole in the ledger. -/
def notePublish (p : Picture) (g : Ledger) (l : Link) : Ledger :=
  if g.untold then g.strayed
  else
    match (l.fill p).1 with
    | some (.ok .published) => (g.filled p true).announced .frameWaiting
    | result => noteFilled p g result

/-- A deed in the ledger, given the link as it was before. -/
def note : Deed → Ledger → Link → Ledger
  | announce mask, g, _ => noteAnnounce mask g
  | offer mmap capacity, g, l => noteOffer mmap capacity g l
  | fill p, g, l => noteFill p g l
  | publish p, g, l => notePublish p g l
  | hangUp, g, _ => g
  | other _, g, _ => g.strayed

/-- A deed, in the ledger and on the link. -/
def perform (s : Ledger × Link) (d : Deed) : Ledger × Link := (d.note s.1 s.2, d.act s.2)

end Deed

/-- The ledger and the link of a process that signalled before anyone listened. -/
def Ledger.opening (worker : WorkerId) (early : List EventMask) : Ledger × Link :=
  (early.map Deed.announce).foldl Deed.perform (.fresh worker, .fresh)

/-- Signals before anyone listens are on the link that is watched later. -/
theorem Ledger.opening_snd (worker : WorkerId) (early : List EventMask) :
    (opening worker early).2 = early.foldl (fun link mask => (link.signal mask).2) Link.fresh := by
  unfold opening
  generalize Ledger.fresh worker = g
  generalize Link.fresh = l
  induction early generalizing g l with
  | nil => rfl
  | cons mask rest ih => exact ih _ _

/-- A signal publishes nothing. -/
theorem Deed.publishes_noteAnnounce (mask : EventMask) (g : Ledger) :
    (noteAnnounce mask g).publishes = g.publishes := by
  unfold noteAnnounce
  split
  · split <;> rfl
  · rfl

/-- Nothing is published before anyone listens. -/
theorem Ledger.publishes_opening (worker : WorkerId) (early : List EventMask) :
    (opening worker early).1.publishes = [] := by
  have unpublished : (fresh worker).publishes = [] := rfl
  unfold opening
  generalize fresh worker = g at unpublished ⊢
  generalize Link.fresh = l
  induction early generalizing g l with
  | nil => exact unpublished
  | cons mask rest ih => exact ih _ ((Deed.publishes_noteAnnounce mask g).trans unpublished) _

/-! ### By the protocol -/

namespace Deed

variable {p : Picture} {g : Ledger} {l : Link}

/-- A second offer is against the protocol. -/
theorem unsent_of_noteOffer {mmap : Mmap} {capacity : UInt64}
    (honest : (noteOffer mmap capacity g l).honest = true) :
    .regionNegotiated ∉ g.signalled := by
  intro sent
  rw [noteOffer, if_pos (by simpa using sent)] at honest
  cases honest

/-- Filling the slot while there is something to tell is against the protocol. -/
theorem told_of_noteFill (honest : (noteFill p g l).honest = true) : g.untold = false := by
  cases told : g.untold with
  | false => rfl
  | true =>
      rw [noteFill, if_pos told] at honest
      cases honest

/-- So is publishing as a whole. -/
theorem told_of_notePublish (honest : (notePublish p g l).honest = true) : g.untold = false := by
  cases told : g.untold with
  | false => rfl
  | true =>
      rw [notePublish, if_pos told] at honest
      cases honest

/-- A publish that stops in the middle is against the protocol. -/
theorem strayed_of_overflow (ended : (l.fill p).1 = some (.error .overflow)) :
    noteFill p g l = g.strayed ∧ notePublish p g l = g.strayed := by
  simp only [noteFill, notePublish, ended, noteFilled]
  exact ⟨ite_self _, ite_self _⟩

/-- Any other error leaves no trace in the ledger. -/
theorem noteFilled_of_error {e : ChannelError} (carried : e ≠ .overflow) (p : Picture) (g : Ledger) :
    noteFilled p g (some (.error e)) = g := by
  cases e with
  | overflow => exact absurd rfl carried
  | _ => rfl

/-- How a publish is turned away: with an error, or because a reader is busy. -/
def TurnedAway (result : Except ChannelError PublishOutcome) : Prop :=
  (∃ e, e ≠ .overflow ∧ result = .error e) ∨ result = .ok .busy

/-- A publish that is turned away leaves no trace in the ledger. -/
theorem note_of_refused {result : Except ChannelError PublishOutcome} (told : g.untold = false)
    (done : (l.fill p).1 = some result) (refused : TurnedAway result) :
    noteFill p g l = g ∧ notePublish p g l = g := by
  rw [noteFill, notePublish, if_neg (by simp [told]), if_neg (by simp [told]), done]
  rcases refused with ⟨e, carried, rfl⟩ | rfl
  · exact ⟨noteFilled_of_error carried p g, noteFilled_of_error carried p g⟩
  · exact ⟨rfl, rfl⟩

end Deed

/-! ### What deeds leave alone -/

/-- How a ledger can go on: the worker is the same, publishes are only added, and whoever has left
the protocol stays outside. -/
structure Ledger.Extends (g g' : Ledger) : Prop where
  worker : g'.worker = g.worker
  publishes : g.publishes <+: g'.publishes
  taken : g'.taken = g.taken
  cut : g'.cut = g.cut
  honest : g'.honest = true → g.honest = true

namespace Ledger

theorem Extends.refl (g : Ledger) : g.Extends g := ⟨rfl, List.prefix_refl _, rfl, rfl, id⟩

theorem Extends.trans {g g' g'' : Ledger} (h : g.Extends g') (h' : g'.Extends g'') :
    g.Extends g'' where
  worker := h'.worker.trans h.worker
  publishes := h.publishes.trans h'.publishes
  taken := h'.taken.trans h.taken
  cut := h'.cut.trans h.cut
  honest := fun honest => h.honest (h'.honest honest)

theorem extends_announced (g : Ledger) (e : Event) : g.Extends (g.announced e) :=
  ⟨rfl, List.prefix_refl _, rfl, rfl, id⟩

theorem extends_filled (g : Ledger) (p : Picture) (untold : Bool) :
    g.Extends (g.filled p untold) :=
  ⟨rfl, List.prefix_append _ _, rfl, rfl, id⟩

theorem extends_strayed (g : Ledger) : g.Extends g.strayed :=
  ⟨rfl, List.prefix_refl _, rfl, rfl, fun honest => nomatch honest⟩

theorem extends_drained (g : Ledger) : g.Extends g.drained :=
  ⟨rfl, List.prefix_refl _, rfl, rfl, id⟩

end Ledger

theorem Deed.extends_noteFilled (p : Picture) (g : Ledger)
    (result : Option (Except ChannelError PublishOutcome)) : g.Extends (noteFilled p g result) := by
  unfold noteFilled
  split
  · exact g.extends_filled p true
  · exact g.extends_filled p false
  · exact g.extends_strayed
  · exact .refl g

/-- A deed makes a ledger go on. -/
theorem Deed.extends_note (d : Deed) (g : Ledger) (l : Link) : g.Extends (d.note g l) := by
  cases d with
  | announce mask =>
      simp only [note, noteAnnounce]
      split
      · split
        · exact g.extends_announced _
        · exact g.extends_strayed
      · exact g.extends_strayed
  | offer mmap capacity =>
      simp only [note, noteOffer]
      split
      · exact g.extends_strayed
      · split
        · exact g.extends_announced _
        · exact .refl g
  | fill p =>
      simp only [note, noteFill]
      split
      · exact g.extends_strayed
      · exact extends_noteFilled p g _
  | publish p =>
      simp only [note, notePublish]
      split
      · exact g.extends_strayed
      · split
        · exact (g.extends_filled p true).trans (Ledger.extends_announced _ _)
        · exact extends_noteFilled p g _
  | hangUp => exact .refl g
  | other f => exact g.extends_strayed

/-- So does a number of deeds. -/
theorem Deed.extends_foldl (l : List Deed) (s : Ledger × Link) :
    s.1.Extends (l.foldl perform s).1 := by
  induction l generalizing s with
  | nil => exact .refl s.1
  | cons d rest ih => exact (d.extends_note s.1 s.2).trans (ih (perform s d))

/-- What was signalled before anyone listened extends the ledger of a new link. -/
theorem Ledger.extends_opening (worker : WorkerId) (early : List EventMask) :
    (fresh worker).Extends (opening worker early).1 :=
  Deed.extends_foldl (early.map .announce) (fresh worker, Link.fresh)

/-- A deed keeps no link regular that was not. -/
theorem Ledger.Extends.regular {g g' : Ledger} (h : g.Extends g') (regular : g'.regular = true) :
    g.regular = true := by
  simp only [Ledger.regular, Bool.and_eq_true, Bool.not_eq_true'] at regular ⊢
  exact ⟨h.honest regular.1, h.cut ▸ regular.2⟩

/-! ### Ledgers that go on -/

/-- How a ledger goes on while frames are taken: as by deeds, and more may have been taken, or the link
been cut. -/
structure Ledger.Later (g g' : Ledger) : Prop where
  worker : g'.worker = g.worker
  publishes : g.publishes <+: g'.publishes
  taken : g.taken ≤ g'.taken
  cut : g'.cut = false → g.cut = false
  honest : g'.honest = true → g.honest = true

theorem Ledger.Later.refl (g : Ledger) : g.Later g :=
  ⟨rfl, List.prefix_refl _, Nat.le_refl _, id, id⟩

/-- No link becomes regular again. -/
theorem Ledger.Later.regular {g g' : Ledger} (h : g.Later g') (regular : g'.regular = true) :
    g.regular = true := by
  simp only [Ledger.regular, Bool.and_eq_true, Bool.not_eq_true'] at regular ⊢
  exact ⟨h.honest regular.1, h.cut regular.2⟩

theorem Ledger.Later.trans {g g' g'' : Ledger} (h : g.Later g') (h' : g'.Later g'') :
    g.Later g'' where
  worker := h'.worker.trans h.worker
  publishes := h.publishes.trans h'.publishes
  taken := Nat.le_trans h.taken h'.taken
  cut := fun whole => h.cut (h'.cut whole)
  honest := fun honest => h.honest (h'.honest honest)

/-- No more was taken than was published. -/
def Ledger.Sound (g : Ledger) : Prop := g.taken ≤ g.publishes.length

/-- Deeds take nothing. -/
theorem Ledger.Extends.later {g g' : Ledger} (h : g.Extends g') (sound : g.Sound) :
    g.Later g' ∧ g'.Sound := by
  refine ⟨⟨h.worker, h.publishes, Nat.le_of_eq h.taken.symm, fun whole => h.cut ▸ whole, h.honest⟩,
    ?_⟩
  unfold Ledger.Sound at sound ⊢
  rw [h.taken]
  exact Nat.le_trans sound h.publishes.length_le

/-- Taking the picture that was published last. -/
theorem Ledger.later_received {g : Ledger} (sound : g.Sound) :
    g.Later g.received ∧ g.received.Sound :=
  ⟨⟨rfl, List.prefix_refl _, sound, id, id⟩, Nat.le_refl _⟩

/-- Stopping while it is taken. -/
theorem Ledger.later_interrupted {g : Ledger} (sound : g.Sound) :
    g.Later g.interrupted ∧ g.interrupted.Sound :=
  ⟨⟨rfl, List.prefix_refl _, Nat.le_refl _, nofun, id⟩, sound⟩

/-- The ledgers `l'` are `l`, gone on, and maybe some new ones. -/
def LaterLedgers (l l' : List Ledger) : Prop :=
  ∀ (n : Nat) (g : Ledger), l[n]? = some g → ∃ g', l'[n]? = some g' ∧ g.Later g'

theorem laterLedgers_refl (l : List Ledger) : LaterLedgers l l := fun _ g there => ⟨g, there, .refl g⟩

theorem LaterLedgers.trans {l l' l'' : List Ledger} (h : LaterLedgers l l')
    (h' : LaterLedgers l' l'') : LaterLedgers l l'' := by
  intro n g there
  obtain ⟨g', there', later⟩ := h n g there
  obtain ⟨g'', there'', later'⟩ := h' n g' there'
  exact ⟨g'', there'', later.trans later'⟩

/-- There are no fewer ledgers later. -/
theorem LaterLedgers.length_le {l l' : List Ledger} (h : LaterLedgers l l') :
    l.length ≤ l'.length := by
  refine Nat.le_of_not_lt fun shorter => ?_
  obtain ⟨g', there, -⟩ := h l'.length l[l'.length] (List.getElem?_eq_getElem shorter)
  rw [List.getElem?_eq_none (Nat.le_refl _)] at there
  cases there

/-- New ledgers leave the others alone. -/
theorem laterLedgers_append (l new : List Ledger) : LaterLedgers l (l ++ new) := by
  intro n g there
  have below : n < l.length := (List.getElem?_eq_some_iff.1 there).1
  exact ⟨g, (List.getElem?_append_left below).trans there, .refl g⟩

/-- Nobody has taken more than was published. -/
def SoundLedgers (l : List Ledger) : Prop := ∀ g ∈ l, g.Sound

/-- One ledger goes on. -/
theorem laterLedgers_modify {l : List Ledger} (sound : SoundLedgers l) {f : Ledger → Ledger}
    (step : ∀ g, g.Sound → g.Later (f g) ∧ (f g).Sound) (n : Nat) :
    LaterLedgers l (l.modify n f) ∧ SoundLedgers (l.modify n f) := by
  constructor
  · intro m g there
    rw [List.getElem?_modify, there]
    by_cases same : n = m
    · exact ⟨f g, by simp [same], (step g (sound g (List.mem_of_getElem? there))).1⟩
    · exact ⟨g, by simp [same], .refl g⟩
  · intro g mem
    obtain ⟨m, there⟩ := List.mem_iff_getElem?.1 mem
    rw [List.getElem?_modify] at there
    obtain ⟨g', before, rfl⟩ := Option.map_eq_some_iff.1 there
    have sound := sound g' (List.mem_of_getElem? before)
    split
    · exact (step g' sound).2
    · exact sound

end FrameMux
