/-
**Publishing and taking, step by step.**

Each side of a slot claims it first, works on it, and gives it up last.  In between the other side may
come to the slot, finds it claimed, and leaves it alone.  This module cuts both operations at their
claims, says that the pieces make up the whole, and what a claimed slot is to everyone else.

Main definitions:

* `FrameMux.Region.inState`, `FrameMux.Region.stow`, `FrameMux.Region.commit` — a claim, and **the
  other steps of publishing**;
* `FrameMux.Region.finishTake` — **the other step of taking**;
* `FrameMux.Link.grants?` — the claim of a producer that wants to publish;
* `FrameMux.Link.refilled` — the link with something else in the memory of its region.

Main results:

* `FrameMux.Region.publish_eq_commit`, `FrameMux.Region.take_eq_finishTake` — **the steps make up the
  operations**;
* `FrameMux.Link.take_of_claimed`, `fill_of_claimed`, `publish_of_claimed` — a claimed slot is left
  alone, and a publish that meets a reader is busy.
-/

import FrameMux.Proofs.Handoff.Ledger

set_option relaxedAutoImplicit false
set_option autoImplicit false

namespace FrameMux

namespace Region

/-! ### The steps of a slot -/

/-- The region with its slot in a state. -/
def inState (r : Region) (state : SlotState) : Region :=
  { r with header := { r.header with state := state.raw } }

/-- Puts a picture, its description and its number into a claimed slot. -/
def stow (r : Region) (p : Picture) : Region :=
  { r.writePayload p.data with
    header := (r.header.setFrame (UInt64.ofNat p.data.length) p.width p.height).bumpSequence.2 }

/-- Makes what was put into a claimed slot visible, which ends publishing. -/
def commit (r : Region) (replacing : Bool) : Except ChannelError PublishOutcome × Region :=
  match r.header.transition .writing .ready with
  | .error raw => (.error (unexpected raw .publishCommit), r)
  | .ok committed => (.ok (if replacing then .replaced else .published), { r with header := committed })

/-- Takes the frame out of a slot that the reader has claimed. -/
def finishTake (r : Region) : Except ChannelError (Option SlotFrame) × Region :=
  if r.payloadCapacity < r.header.nbytes then
    (.error (.protocol (.oversizedFrame r.header.nbytes r.payloadCapacity)), r.mapHeader .reset)
  else
    match r.header.transition .reading .empty with
    | .error raw => (.error (unexpected raw .takeRelease), r)
    | .ok released => (.ok (some r.heldFrame), { r with header := released })

/-- Whether one side has claimed the slot. -/
def Claimed (r : Region) : Prop :=
  r.header.state = SlotState.writing.raw ∨ r.header.state = SlotState.reading.raw

/-- What was put into a claimed slot becomes visible. -/
theorem commit_stow (r : Region) (p : Picture) (replacing : Bool) :
    ((r.inState .writing).stow p).commit replacing =
      (.ok (if replacing then .replaced else .published), r.filled p) := rfl

/-- **Publishing** is claiming the slot, putting the picture in, and making it visible, if it can be
counted. -/
theorem publish_eq_commit {r : Region} {p : Picture} {replacing : Bool}
    (fits : p.data.length = r.payloadCapacity.toNat)
    (granted : claim? r.header = .granted (r.inState .writing).header replacing) :
    r.publish p.data p.width p.height =
      if r.Countable then ((r.inState .writing).stow p).commit replacing
      else (.error .overflow, (r.inState .writing).stow p) := by
  rw [publish_of_granted fits granted, commit_stow]
  rfl

/-- **Taking** is claiming the slot and taking the frame out. -/
theorem take_eq_finishTake {r : Region} (ready : r.header.state = SlotState.ready.raw) :
    r.take = (r.inState .reading).finishTake := by
  have claimed : r.header.transition .ready .reading =
      .ok { r.header with state := SlotState.reading.raw } := by
    rw [Header.transition, if_pos ready]
  unfold take
  rw [claimed]
  rfl

/-- What the producer's claim finds in an empty slot or a ready one. -/
theorem claim?_eq_granted {h claimed : Header} {replacing : Bool}
    (granted : claim? h = .granted claimed replacing) :
    h.state = (if replacing then SlotState.ready else .empty).raw ∧
      claimed = { h with state := SlotState.writing.raw } := by
  simp only [claim?] at granted
  split at granted
  · next claimed' claimed =>
      obtain ⟨empty, rfl⟩ := Header.transition_eq_ok_iff.1 claimed
      cases granted
      exact ⟨empty, rfl⟩
  · next raw refused =>
      split at granted
      · cases granted
      · split at granted
        · split at granted
          · next claimed' claimed =>
              obtain ⟨ready, rfl⟩ := Header.transition_eq_ok_iff.1 claimed
              cases granted
              exact ⟨ready, rfl⟩
          · cases granted
        · cases granted

/-! ### A claimed slot -/

/-- A claimed slot is neither empty nor ready. -/
theorem Claimed.transition {r : Region} (claimed : r.Claimed) {source : SlotState}
    (free : source = .empty ∨ source = .ready) (target : SlotState) :
    r.header.transition source target = .error r.header.state := by
  rw [Header.transition, if_neg]
  rcases claimed with state | state <;> rcases free with rfl | rfl <;> rw [state] <;> decide

/-- Nothing is taken from a claimed slot. -/
theorem take_of_claimed {r : Region} (claimed : r.Claimed) : r.take = (.ok none, r) := by
  have known : (SlotState.ofRaw? r.header.state).isSome = true := by
    rcases claimed with state | state <;> rw [state] <;> rfl
  unfold take
  rw [claimed.transition (Or.inr rfl)]
  simp only [known, if_true]

/-- Nothing is published into a claimed slot: the producer is told that a reader is busy with it, or
that something is wrong. -/
theorem publish_of_claimed {r : Region} (claimed : r.Claimed) (p : Picture) :
    ∃ result, r.publish p.data p.width p.height = (result, r) ∧ Deed.TurnedAway result ∧
      (result = .ok .busy → r.header.state = SlotState.reading.raw) := by
  unfold publish
  by_cases fits : p.data.length = r.payloadCapacity.toNat
  · rw [if_neg (not_not_intro fits), claim?, claimed.transition (Or.inl rfl)]
    rcases claimed with writing | reading
    · have free : ¬ r.header.state = SlotState.reading.raw ∧
          ¬ r.header.state = SlotState.ready.raw := by
        rw [writing]
        decide
      simp only [if_neg free.1, if_neg free.2]
      exact ⟨_, rfl, Or.inl ⟨_, by simp [unexpected], rfl⟩, nofun⟩
    · simp only [if_pos reading]
      exact ⟨_, rfl, Or.inr rfl, fun _ => reading⟩
  · rw [if_pos fits]
    exact ⟨_, rfl, Or.inl ⟨_, by simp, rfl⟩, nofun⟩

/-! ### Other contents -/

/-- The region with the payload and the header of another one, but for the word that marks it. -/
def refilled (r contents : Region) : Region :=
  { r with
    payload := contents.payload
    header := { contents.header with magic := r.header.magic } }

/-- A claim does not depend on what else the memory holds. -/
theorem Claimed.refilled {contents : Region} (claimed : contents.Claimed) (r : Region) :
    (r.refilled contents).Claimed := claimed

/-- Making visible what is in a region with other contents. -/
theorem commit_refilled {contents : Region} (claimed : contents.header.state = SlotState.writing.raw)
    (r : Region) (replacing : Bool) :
    (r.refilled contents).commit replacing =
      (.ok (if replacing then .replaced else .published), r.refilled (contents.inState .ready)) := by
  have committed : (r.refilled contents).header.transition .writing .ready =
      .ok (r.refilled (contents.inState .ready)).header := by
    rw [Header.transition, if_pos]
    · rfl
    · exact claimed
  unfold commit
  rw [committed]
  rfl

end Region

/-- Two changes of an element that agree on it. -/
theorem modify_congr {α : Type} {l : List α} {n : Nat} {f g : α → α}
    (same : ∀ a, l[n]? = some a → f a = g a) : l.modify n f = l.modify n g := by
  refine List.ext_getElem? fun k => ?_
  rw [List.getElem?_modify, List.getElem?_modify]
  by_cases here : n = k
  · subst here
    cases there : l[n]? with
    | none => rfl
    | some a => simp [same a there]
  · simp [here]

namespace Link

variable {l : Link} {file : Nat} {r : Region}

/-! ### The steps on a link -/

/-- Changes the memory of a file by a function. -/
def mapRegion (l : Link) (file : Nat) (f : Region → Region) : Link :=
  { l with files := l.files.modify file fun m => { m with region := f m.region } }

/-- Takes the frame out of the slot of a file, once it is claimed. -/
def finishTake (l : Link) (file : Nat) : Except ChannelError (Option SlotFrame) × Link :=
  match l.region? file with
  | none => (.ok none, l)
  | some region => (region.finishTake.1, l.setRegion file region.finishTake.2)

/-- The slot that a producer may put a picture into: its file, the region once it is claimed, and
whether there was a frame in it. -/
def grants? (l : Link) (p : Picture) : Option (Nat × Region × Bool) :=
  match l.writer with
  | none => none
  | some file =>
      match l.region? file with
      | none => none
      | some region =>
          if p.data.length ≠ region.payloadCapacity.toNat then none
          else
            match Region.claim? region.header with
            | .granted claimed replacing => some (file, { region with header := claimed }, replacing)
            | _ => none

/-- What was there before a claim that is granted, and what comes of it. -/
theorem grants?_eq_some {p : Picture} {claimed : Region} {replacing : Bool}
    (granted : l.grants? p = some (file, claimed, replacing)) :
    ∃ region, l.writer = some file ∧ l.region? file = some region ∧
      claimed = region.inState .writing ∧
      l.fill p =
        if region.Countable then (some (.ok (if replacing then .replaced else .published)),
          l.setRegion file (region.filled p))
        else (some (.error .overflow), l.setRegion file (region.stuck p)) := by
  simp only [grants?] at granted
  split at granted
  · cases granted
  · next writer =>
      split at granted
      · cases granted
      · next region memory =>
          split at granted
          · cases granted
          · next fits =>
              split at granted
              · next claimed' replacing' claim =>
                  have fits := Decidable.not_not.1 fits
                  obtain ⟨-, rfl⟩ := Region.claim?_eq_granted claim
                  cases granted
                  refine ⟨region, writer, memory, rfl, ?_⟩
                  simp only [fill, writer, memory, Region.publish_of_granted fits claim]
                  split <;> rfl
              · cases granted

/-! ### A claimed slot of a link -/

/-- Writing back what is there. -/
theorem setRegion_self (memory : l.region? file = some r) : l.setRegion file r = l := by
  obtain ⟨m, there, rfl⟩ := Option.map_eq_some_iff.1 memory
  have files : (l.files.modify file fun f => { f with region := m.region }) = l.files := by
    rw [modify_congr (g := id), List.modify_id]
    intro f there'
    cases there.symm.trans there'
    rfl
  unfold setRegion
  rw [files]

/-- Reading back what was written. -/
theorem region?_setRegion (memory : l.region? file = some r) (r' : Region) :
    (l.setRegion file r').region? file = some r' := by
  obtain ⟨m, there, -⟩ := Option.map_eq_some_iff.1 memory
  simp only [region?, setRegion, List.getElem?_modify_eq, there]
  rfl

/-- Writing once more. -/
theorem setRegion_setRegion (l : Link) (file : Nat) (r r' : Region) :
    (l.setRegion file r).setRegion file r' = l.setRegion file r' := by
  simp only [setRegion, List.modify_modify_eq]
  rfl

/-- Changing what was written. -/
theorem mapRegion_setRegion (l : Link) (file : Nat) (r : Region) (f : Region → Region) :
    (l.setRegion file r).mapRegion file f = l.setRegion file (f r) := by
  simp only [setRegion, mapRegion, List.modify_modify_eq]
  rfl

/-- Nothing is taken from a claimed slot. -/
theorem take_of_claimed (memory : l.region? file = some r) (claimed : r.Claimed) :
    l.take file = (.ok none, l) := by
  simp only [take, memory, Region.take_of_claimed claimed, setRegion_self memory]

/-- Nothing is put into a claimed slot. -/
theorem fill_of_claimed (writer : l.writer = some file) (memory : l.region? file = some r)
    (claimed : r.Claimed) (p : Picture) :
    ∃ result, l.fill p = (some result, l) ∧ Deed.TurnedAway result ∧
      (result = .ok .busy → r.header.state = SlotState.reading.raw) := by
  obtain ⟨result, refused, outcome⟩ := Region.publish_of_claimed claimed p
  refine ⟨result, ?_, outcome⟩
  simp only [fill, writer, memory, refused, setRegion_self memory]

/-- Nothing is published into a claimed slot, and nobody is told. -/
theorem publish_of_claimed (writer : l.writer = some file) (memory : l.region? file = some r)
    (claimed : r.Claimed) (p : Picture) :
    ∃ result, l.publish p.data p.width p.height = (some result, l) ∧ l.fill p = (some result, l) ∧
      Deed.TurnedAway result ∧ (result = .ok .busy → r.header.state = SlotState.reading.raw) := by
  obtain ⟨result, refused, outcome⟩ := Region.publish_of_claimed claimed p
  refine ⟨result, ?_, ?_, outcome⟩
  · have alone : Channel.publish ⟨r, l.notifier⟩ p.data p.width p.height =
        (result, ⟨r, l.notifier⟩) := by
      rw [Channel.publish, refused]
      rcases outcome.1 with ⟨e, -, rfl⟩ | rfl
      · rfl
      · rfl
    simp only [publish, writer, memory, alone, setRegion_self memory]
    rw [← writer]
  · simp only [fill, writer, memory, refused, setRegion_self memory]

/-! ### Other contents of a link -/

/-- The link with other contents in the file that its producer publishes into. -/
def refilled (l : Link) (file : Nat) (contents : Region) : Link :=
  { l with
    writer := some file
    files := l.files.modify file fun m => { m with region := m.region.refilled contents } }

theorem region?_refilled (l : Link) (file : Nat) (contents : Region) :
    (l.refilled file contents).region? file = (l.region? file).map fun r => r.refilled contents := by
  simp only [region?, refilled, List.getElem?_modify_eq]
  cases l.files[file]? <;> rfl

/-- The contents that are there. -/
theorem refilled_self (writer : l.writer = some file) (memory : l.region? file = some r) :
    l.refilled file r = l := by
  have same := setRegion_self memory
  obtain ⟨m, there, rfl⟩ := Option.map_eq_some_iff.1 memory
  have files : (l.files.modify file fun f => { f with region := f.region.refilled m.region }) =
      l.files.modify file fun f => { f with region := m.region } := by
    refine modify_congr fun f there' => ?_
    cases there.symm.trans there'
    rfl
  unfold refilled
  rw [files, ← writer]
  exact same

/-- Overwriting a region leaves no trace of other contents. -/
theorem setRegion_refilled (writer : l.writer = some file) (contents r : Region) :
    (l.refilled file contents).setRegion file r = l.setRegion file r := by
  simp only [setRegion, refilled, List.modify_modify_eq, ← writer]
  rfl

/-- Other contents in a region just overwritten. -/
theorem refilled_setRegion (writer : l.writer = some file) (r contents : Region) :
    (l.setRegion file r).refilled file contents = l.setRegion file (r.refilled contents) := by
  simp only [setRegion, refilled, List.modify_modify_eq, ← writer]
  rfl

/-- Other contents in a region that is there. -/
theorem refilled_eq_setRegion (writer : l.writer = some file) (memory : l.region? file = some r)
    (contents : Region) : l.refilled file contents = l.setRegion file (r.refilled contents) := by
  rw [← refilled_setRegion writer, setRegion_self memory]

/-- Changing other contents. -/
theorem mapRegion_refilled {f : Region → Region} {contents contents' : Region}
    (changed : ∀ r : Region, f (r.refilled contents) = r.refilled contents') (l : Link) (file : Nat) :
    (l.refilled file contents).mapRegion file f = l.refilled file contents' := by
  simp only [mapRegion, refilled, List.modify_modify_eq]
  congr 2
  funext m
  exact congrArg (fun r => { m with region := r }) (changed m.region)

/-- Taking the frame out of a slot whose claim is all that changed. -/
theorem finishTake_refilled {contents : Region} (writer : l.writer = some file)
    (memory : l.region? file = some r) (same : r.refilled contents = r)
    (ready : contents.header.state = SlotState.ready.raw) :
    (l.refilled file (contents.inState .reading)).finishTake file = l.take file := by
  have claimed : (l.refilled file (contents.inState .reading)).region? file =
      some (r.inState .reading) := by
    rw [region?_refilled, memory, ← same]
    rfl
  have ready : r.header.state = SlotState.ready.raw := by
    rw [← same]
    exact ready
  simp only [finishTake, take, claimed, memory, Region.take_eq_finishTake ready,
    setRegion_refilled writer]

/-- The counter does not depend on the contents. -/
theorem signal_refilled (l : Link) (file : Nat) (contents : Region) (mask : EventMask) :
    (l.refilled file contents).signal mask =
      ((l.signal mask).1, (l.signal mask).2.refilled file contents) := by
  have same : (l.refilled file contents).notifier = l.notifier := rfl
  unfold signal
  rw [same]
  cases l.notifier.signal mask <;> rfl

end Link

/-! ### How publishes end -/

/-- How publishing ends: as filling the slot does, unless there is something to tell and the counter
refuses. -/
theorem Link.publish_fst_eq_fill (l : Link) (p : Picture) :
    (l.publish p.data p.width p.height).1 =
      match (l.fill p).1 with
      | some (.ok .published) =>
          match (l.fill p).2.notifier.signal (.ofEvent .frameWaiting) with
          | .ok _ => some (.ok .published)
          | .error e => some (.error e)
      | result => result := by
  cases writer : l.writer with
  | none => simp only [publish, fill, writer]
  | some file =>
      cases memory : l.region? file with
      | none => simp only [publish, fill, writer, memory]
      | some region =>
          simp only [publish, fill, writer, memory, Channel.publish]
          obtain ⟨result, region'⟩ := region.publish p.data p.width p.height
          cases result with
          | error e => rfl
          | ok done =>
              cases done with
              | busy => rfl
              | replaced => rfl
              | published =>
                  simp only [setRegion]
                  cases l.notifier.signal (.ofEvent .frameWaiting) <;> rfl

/-- How a deed ended, if it was a publish and there was a slot for it. -/
def Deed.outcome? : Deed → Link → Option PublishOutcome
  | .fill p, l => (l.fill p).1.bind Except.toOption
  | .publish p, l => (l.publish p.data p.width p.height).1.bind Except.toOption
  | _, _ => none

end FrameMux
