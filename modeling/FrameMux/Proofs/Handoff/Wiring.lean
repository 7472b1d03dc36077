/-
**Counter, slot and marks.**

Publishing tells about a picture only when the slot was empty, so between two takes the multiplexer
is told once.  That telling is on its way in one of three places: the producer has yet to signal it,
it is in the counter, or the worker is marked as having a frame waiting.  A link is wired when the
slot is ready exactly if it is in one of them, and the counter holds what the ledger says.

Main definitions:

* `FrameMux.Ledger.signs` — in how many places the telling is;
* `FrameMux.Region.Stocked` — the slot after some publishes, none of them under way;
* `FrameMux.Wired` — **the invariant** of one link, its ledger, and what its worker knows.

Main results:

* `FrameMux.Wired.perform` — every deed that leaves the link regular keeps it;
* `FrameMux.Wired.drained`, `FrameMux.Wired.receiveRegion` — so does what the multiplexer does on
  a token;
* `FrameMux.Wired.take` — **a frame that is waiting is there**, and taking it keeps the invariant.
-/

import FrameMux.Proofs.Handoff.Ledger

set_option relaxedAutoImplicit false
set_option autoImplicit false

namespace FrameMux

/-- In how many places it is on its way that a frame is waiting: as a mark on the worker, in the
counter, or still with the producer. -/
def Ledger.signs (g : Ledger) (waiting : Bool) : Nat :=
  waiting.toNat + (g.undrained.contains .frameWaiting).toNat + g.untold.toNat

/-- Whether the slot that the producer publishes into holds a frame. -/
def Link.slotReady (l : Link) : Bool :=
  match l.writer.bind l.region? with
  | some region => region.header.state = SlotState.ready.raw
  | none => false

/-- A slot that nobody is at work on, after some publishes. -/
structure Region.Stocked (r : Region) (publishes : List Picture) : Prop where
  state : r.header.state = SlotState.empty.raw ∨ r.header.state = SlotState.ready.raw
  counted : r.header.sequence = UInt64.ofNat publishes.length
  held : r.header.state = SlotState.ready.raw →
    ∃ p, publishes.getLast? = some p ∧ p.data.length = r.payloadCapacity.toNat ∧
      r.Holds p publishes.length

/-- A link whose producer has yet to offer a region. -/
structure Link.Unoffered (l : Link) (g : Ledger) (reader : Option Nat) : Prop where
  writer : l.writer = none
  files : l.files = []
  reader : reader = none
  untold : g.untold = false
  publishes : g.publishes = []

/-- A link whose producer has offered a region. -/
structure Link.Offered (l : Link) (g : Ledger) (reader : Option Nat) (region : Region) : Prop where
  writer : l.writer = some 0
  files : l.files = [⟨.fixedSize, region⟩]
  reader : reader = none ∨ reader = some 0
  signalled : .regionNegotiated ∈ g.signalled
  stocked : region.Stocked g.publishes

/-- The invariant of a link: what is in the counter and in the slot, given what the producer did and
what the worker knows. -/
structure Wired (g : Ledger) (l : Link) (reader : Option Nat) (waiting : Bool) : Prop where
  counter : l.notifier = ⟨(EventMask.ofEvents g.undrained).bits⟩
  signalled : ∀ e ∈ g.undrained, e ∈ g.signalled
  stage : (l.Unoffered g reader ∧ .regionNegotiated ∉ g.signalled) ∨
    ∃ region, l.Offered g reader region
  signs : g.signs waiting = l.slotReady.toNat
  fresh : g.taken + l.slotReady.toNat ≤ g.publishes.length

/-! ### Links and regions -/

theorem Region.stocked_initialise (r : Region) : r.initialise.Stocked [] where
  state := Or.inl rfl
  counted := rfl
  held := fun ready => absurd ready (by
    show SlotState.empty.raw ≠ SlotState.ready.raw
    decide)

namespace Link

theorem Unoffered.slotReady {l : Link} {g : Ledger} {reader : Option Nat}
    (h : l.Unoffered g reader) : l.slotReady = false := by
  simp only [Link.slotReady, h.writer, Option.bind_none]

theorem Offered.region? {l : Link} {g : Ledger} {reader : Option Nat} {region : Region}
    (h : l.Offered g reader region) : l.region? 0 = some region := by
  simp only [Link.region?, h.files]
  rfl

theorem Offered.slotReady {l : Link} {g : Ledger} {reader : Option Nat} {region : Region}
    (h : l.Offered g reader region) :
    l.slotReady = decide (region.header.state = SlotState.ready.raw) := by
  simp only [Link.slotReady, h.writer, Option.bind_some, h.region?]

/-- Writing back what is there. -/
theorem Offered.setRegion_self {l : Link} {g : Ledger} {reader : Option Nat} {region : Region}
    (h : l.Offered g reader region) : l.setRegion 0 region = l := by
  simp only [Link.setRegion]
  rw [h.files]
  show { l with files := [⟨.fixedSize, region⟩] } = l
  rw [← h.files]

/-- Other memory in the only file. -/
theorem Offered.setRegion {l : Link} {g : Ledger} {reader : Option Nat} {region : Region}
    (h : l.Offered g reader region) (g' : Ledger) (signalled : g'.signalled = g.signalled)
    {region' : Region} (stocked : region'.Stocked g'.publishes) :
    (l.setRegion 0 region').Offered g' reader region' where
  writer := h.writer
  files := by
    simp only [Link.setRegion, h.files]
    rfl
  reader := h.reader
  signalled := signalled ▸ h.signalled
  stocked := stocked

end Link

/-! ### Signals -/

namespace Wired

variable {g : Ledger} {l : Link} {reader : Option Nat} {waiting : Bool}

/-- There is never more than one sign of a waiting frame. -/
theorem signs_le (h : Wired g l reader waiting) : g.signs waiting ≤ 1 := by
  rw [h.signs]
  exact Bool.toNat_le _

/-- The slot is ready if the worker is marked. -/
theorem slotReady_of_waiting (h : Wired g l reader true) : l.slotReady = true := by
  have signs := h.signs
  cases ready : l.slotReady with
  | true => rfl
  | false =>
      simp only [ready, Ledger.signs, Bool.toNat_true, Bool.toNat_false] at signs
      omega

/-- How far the negotiation has come depends neither on the counter nor on the socket. -/
theorem stage_of_same (h : Wired g l reader waiting) {l' : Link} {g' : Ledger}
    (writer : l'.writer = l.writer) (files : l'.files = l.files)
    (signalled : g'.signalled = g.signalled) (untold : g'.untold = g.untold)
    (publishes : g'.publishes = g.publishes) :
    (l'.Unoffered g' reader ∧ .regionNegotiated ∉ g'.signalled) ∨
      ∃ region, l'.Offered g' reader region := by
  rcases h.stage with ⟨unoffered, unsent⟩ | ⟨region, offered⟩
  · exact Or.inl ⟨⟨writer.trans unoffered.writer, files.trans unoffered.files, unoffered.reader,
      untold.trans unoffered.untold, publishes.trans unoffered.publishes⟩, signalled ▸ unsent⟩
  · exact Or.inr ⟨region, writer.trans offered.writer, files.trans offered.files, offered.reader,
      signalled ▸ offered.signalled, publishes ▸ offered.stocked⟩

/-- What may be signalled is not in the counter. -/
theorem not_mem_undrained (h : Wired g l reader waiting) {e : Event} (may : g.mayAnnounce e = true) :
    e ∉ g.undrained := by
  intro there
  cases e with
  | childStarted => simp [Ledger.mayAnnounce, h.signalled _ there] at may
  | pipelineExited => simp [Ledger.mayAnnounce, h.signalled _ there] at may
  | regionNegotiated => simp [Ledger.mayAnnounce] at may
  | frameWaiting =>
      have untold : g.untold = true := may
      have le := h.signs_le
      simp only [Ledger.signs, untold, List.contains_iff_mem.2 there, Bool.toNat_true] at le
      omega

/-- Signalling what is not in the counter adds it there. -/
theorem signal (h : Wired g l reader waiting) {e : Event} (new : e ∉ g.undrained) :
    (l.signal (.ofEvent e)).2 =
      { l with notifier := ⟨(EventMask.ofEvents (e :: g.undrained)).bits⟩ } := by
  simp only [Link.signal, h.counter, Notifier.signal_ofEvents new]

/-- A signal by the protocol keeps the invariant. -/
theorem announced (h : Wired g l reader waiting) {e : Event} (may : g.mayAnnounce e = true) :
    Wired (g.announced e) (l.signal (.ofEvent e)).2 reader waiting := by
  have new := h.not_mem_undrained may
  have other : e ≠ .regionNegotiated := by
    rintro rfl
    cases may
  rw [h.signal new]
  refine ⟨rfl, ?_, ?_, ?_, h.fresh⟩
  · intro e' he'
    rcases List.mem_cons.1 he' with rfl | he'
    · exact List.mem_cons_self
    · exact List.mem_cons_of_mem _ (h.signalled e' he')
  · rcases h.stage with ⟨unoffered, unsent⟩ | ⟨region, offered⟩
    · refine Or.inl ⟨⟨unoffered.writer, unoffered.files, unoffered.reader, ?_,
        unoffered.publishes⟩, ?_⟩
      · simp [Ledger.announced, unoffered.untold]
      · simp [Ledger.announced, unsent, Ne.symm other]
    · exact Or.inr ⟨region, offered.writer, offered.files, offered.reader,
        List.mem_cons_of_mem _ offered.signalled, offered.stocked⟩
  · have same : Link.slotReady { l with
        notifier := ⟨(EventMask.ofEvents (e :: g.undrained)).bits⟩ } = l.slotReady := rfl
    rw [same, ← h.signs]
    by_cases waits : e = .frameWaiting
    · -- What the producer had yet to tell is in the counter now.
      subst waits
      have untold : g.untold = true := may
      have absent : g.undrained.contains .frameWaiting = false := by simpa using new
      simp only [Ledger.signs, Ledger.announced, untold, absent]
      simp
    · simp [Ledger.signs, Ledger.announced, waits, Ne.symm waits]

/-! ### Publishing -/

end Wired

/-- Filling the slot of an offered region: nothing happens, or the picture is there, or it cannot be
counted. -/
theorem Link.Offered.fill {l : Link} {g : Ledger} {reader : Option Nat} {region : Region}
    (h : l.Offered g reader region) (p : Picture) :
    (∃ fault, fault ≠ .overflow ∧ l.fill p = (some (.error fault), l)) ∨
    ((region.filled p).Stocked (g.publishes ++ [p]) ∧
      l.fill p = (some (.ok (if l.slotReady then .replaced else .published)),
        l.setRegion 0 (region.filled p))) ∨
    l.fill p = (some (.error .overflow), l.setRegion 0 (region.stuck p)) := by
  have filling : l.fill p = (some (region.publish p.data p.width p.height).1,
      l.setRegion 0 (region.publish p.data p.width p.height).2) := by
    simp only [Link.fill, h.writer, h.region?]
  by_cases fits : p.data.length = region.payloadCapacity.toNat
  · by_cases counts : region.Countable
    · refine .inr (.inl ⟨⟨Or.inr rfl, ?_, ?_⟩, ?_⟩)
      · show region.header.sequence + 1 = _
        rw [h.stocked.counted, List.length_append, UInt64.ofNat_add]
        rfl
      · intro _
        refine ⟨p, List.getLast?_concat, fits, ?_⟩
        rw [List.length_append]
        exact Region.holds_filled p h.stocked.counted
      · rw [filling, h.slotReady]
        rcases h.stocked.state with empty | ready
        · have unready : ¬ region.header.state = SlotState.ready.raw := by
            rw [empty]
            decide
          rw [Region.publish_of_empty fits empty counts, decide_eq_false unready]
          rfl
        · rw [Region.publish_of_ready fits ready counts, decide_eq_true ready]
          rfl
    · exact .inr (.inr (by
        rw [filling, Region.publish_of_uncountable fits h.stocked.state counts]))
  · left
    refine ⟨.sizeMismatch region.payloadCapacity.toNat p.data.length, by simp, ?_⟩
    rw [filling, Region.publish_of_length_ne fits, h.setRegion_self]

namespace Wired

variable {g : Ledger} {l : Link} {reader : Option Nat} {waiting : Bool}

/-- A picture in the slot is one more sign, unless there was one in it already. -/
theorem filled (h : Wired g l reader waiting) (told : g.untold = false) {region : Region}
    (offered : l.Offered g reader region) {p : Picture}
    (stocked : (region.filled p).Stocked (g.publishes ++ [p])) :
    Wired (g.filled p !l.slotReady) (l.setRegion 0 (region.filled p)) reader waiting := by
  have offered' : (l.setRegion 0 (region.filled p)).Offered (g.filled p !l.slotReady) reader
      (region.filled p) :=
    offered.setRegion (g.filled p !l.slotReady) rfl stocked
  have ready : (l.setRegion 0 (region.filled p)).slotReady = true := offered'.slotReady
  refine ⟨h.counter, h.signalled, Or.inr ⟨_, offered'⟩, ?_, ?_⟩
  · have signs := h.signs
    rw [ready]
    simp only [Ledger.signs, told, Bool.toNat_false, Nat.add_zero] at signs
    simp only [Ledger.signs, Ledger.filled, signs]
    cases l.slotReady <;> rfl
  · have fresh := h.fresh
    rw [ready]
    simp only [Ledger.filled, List.length_append, List.length_singleton, Bool.toNat_true]
    omega

/-- The first half of publishing: nothing happens, or the picture cannot be counted, or it replaces
another one, or it is the first one in the slot and there is something to tell. -/
theorem fill_cases (h : Wired g l reader waiting) (told : g.untold = false) (p : Picture) :
    l.fill p = (none, l) ∨
    (∃ fault, fault ≠ .overflow ∧ l.fill p = (some (.error fault), l)) ∨
    (l.fill p).1 = some (.error .overflow) ∨
    (∃ l', l.fill p = (some (.ok .replaced), l') ∧ Wired (g.filled p false) l' reader waiting) ∨
    (∃ l', l.fill p = (some (.ok .published), l') ∧ Wired (g.filled p true) l' reader waiting) := by
  rcases h.stage with ⟨unoffered, -⟩ | ⟨region, offered⟩
  · exact Or.inl (by simp only [Link.fill, unoffered.writer])
  · rcases offered.fill p with refused | ⟨stocked, done⟩ | stopped
    · exact Or.inr (Or.inl refused)
    · have wired := h.filled told offered stocked
      cases ready : l.slotReady with
      | true =>
          rw [ready] at done wired
          exact Or.inr (Or.inr (Or.inr (Or.inl ⟨_, done, wired⟩)))
      | false =>
          rw [ready] at done wired
          exact Or.inr (Or.inr (Or.inr (Or.inr ⟨_, done, wired⟩)))
    · exact Or.inr (Or.inr (Or.inl (by rw [stopped])))

/-- The first half of publishing keeps the invariant, if it is by the protocol. -/
theorem noteFill (h : Wired g l reader waiting) {p : Picture}
    (regular : (Deed.noteFill p g l).regular = true) :
    Wired (Deed.noteFill p g l) (l.fill p).2 reader waiting := by
  have told := Deed.told_of_noteFill (Ledger.honest_of_regular regular)
  rcases h.fill_cases told p with
    done | ⟨fault, carried, done⟩ | stopped | ⟨l', done, wired⟩ | ⟨l', done, wired⟩
  · rw [Deed.noteFill, if_neg (by simp [told]), done]
    exact h
  · rw [(Deed.note_of_refused told (by rw [done]) (Or.inl ⟨fault, carried, rfl⟩)).1, done]
    exact h
  · rw [(Deed.strayed_of_overflow stopped).1] at regular
    cases regular
  · rw [Deed.noteFill, if_neg (by simp [told]), done]
    exact wired
  · rw [Deed.noteFill, if_neg (by simp [told]), done]
    exact wired

/-- So does publishing as a whole. -/
theorem notePublish (h : Wired g l reader waiting) {p : Picture}
    (regular : (Deed.notePublish p g l).regular = true) :
    Wired (Deed.notePublish p g l) (l.publish p.data p.width p.height).2 reader waiting := by
  have told := Deed.told_of_notePublish (Ledger.honest_of_regular regular)
  rw [Link.publish_eq_fill]
  rcases h.fill_cases told p with
    done | ⟨fault, carried, done⟩ | stopped | ⟨l', done, wired⟩ | ⟨l', done, wired⟩
  · rw [Deed.notePublish, if_neg (by simp [told]), done]
    exact h
  · rw [(Deed.note_of_refused told (by rw [done]) (Or.inl ⟨fault, carried, rfl⟩)).2, done]
    exact h
  · rw [(Deed.strayed_of_overflow stopped).2] at regular
    cases regular
  · rw [Deed.notePublish, if_neg (by simp [told]), done]
    exact wired
  · rw [Deed.notePublish, if_neg (by simp [told]), done]
    exact wired.announced (e := .frameWaiting) rfl

/-! ### Offering a region -/

/-- The first offer: nothing happens, or the region is there and the multiplexer is told. -/
theorem offer_cases (h : Wired g l reader waiting) (unoffered : l.Unoffered g reader)
    (unsent : .regionNegotiated ∉ g.signalled) (mmap : Mmap) (capacity : UInt64) :
    (∃ fault, l.offer mmap true capacity = (.error fault, l)) ∨
    ∃ number l', l.offer mmap true capacity = (.ok number, l') ∧
      Wired (g.announced .regionNegotiated) l' reader waiting := by
  cases made : Region.create mmap Link.regionName capacity with
  | error fault =>
      refine Or.inl ⟨.ofMapError fault, ?_⟩
      simp only [Link.offer, Link.sendRegion, made]
  | ok region =>
      cases sent : l.control.send (Link.regionMessage region.payloadCapacity l.files.length) with
      | error cause =>
          refine Or.inl ⟨.negotiation (.sendFailed cause), ?_⟩
          simp only [Link.offer, Link.sendRegion, made, sent]
      | ok control =>
          have new : .regionNegotiated ∉ g.undrained := fun there => unsent (h.signalled _ there)
          let l' : Link := {
            notifier := ⟨(EventMask.ofEvents (.regionNegotiated :: g.undrained)).bits⟩
            control
            files := [⟨.fixedSize, region.initialise⟩]
            writer := some 0 }
          have onItsWay : l.sendRegion mmap true capacity =
              (.ok 0, { l' with notifier := l.notifier, writer := l.writer }) := by
            rw [unoffered.files] at sent
            simp only [Link.sendRegion, made, unoffered.files, sent]
            rw [Link.addFile, unoffered.files]
            rfl
          have done : l.offer mmap true capacity = (.ok 0, l') := by
            simp only [Link.offer, onItsWay, Link.signal, h.counter,
              Notifier.signal_ofEvents new]
            rfl
          have offered : l'.Offered (g.announced .regionNegotiated) reader region.initialise :=
            ⟨rfl, rfl, Or.inl unoffered.reader, List.mem_cons_self,
              unoffered.publishes ▸ region.stocked_initialise⟩
          refine Or.inr ⟨0, l', done, rfl, ?_, Or.inr ⟨_, offered⟩, ?_, ?_⟩
          · intro e he
            rcases List.mem_cons.1 he with rfl | he
            · exact List.mem_cons_self
            · exact List.mem_cons_of_mem _ (h.signalled e he)
          · have signs := h.signs
            rw [unoffered.slotReady] at signs
            rw [offered.slotReady]
            show (g.announced .regionNegotiated).signs waiting = 0
            simpa [Ledger.signs, Ledger.announced] using signs
          · have fresh := h.fresh
            rw [unoffered.slotReady] at fresh
            rw [offered.slotReady]
            exact fresh

/-- Offering a region keeps the invariant. -/
theorem noteOffer (h : Wired g l reader waiting) (unsent : .regionNegotiated ∉ g.signalled)
    (mmap : Mmap) (capacity : UInt64) :
    Wired (Deed.noteOffer mmap capacity g l) (l.offer mmap true capacity).2 reader waiting := by
  have unoffered : l.Unoffered g reader := by
    rcases h.stage with ⟨unoffered, -⟩ | ⟨region, offered⟩
    · exact unoffered
    · exact absurd offered.signalled unsent
  rw [Deed.noteOffer, if_neg (by simpa using unsent)]
  rcases h.offer_cases unoffered unsent mmap capacity with ⟨fault, done⟩ | ⟨number, l', done, wired⟩
  · rw [done]
    exact h
  · rw [done]
    exact wired

/-! ### All deeds -/

/-- **Every deed that leaves the link regular keeps the invariant.** -/
theorem perform (h : Wired g l reader waiting) {d : Deed} (regular : (d.note g l).regular = true) :
    Wired (d.note g l) (d.act l) reader waiting := by
  cases d with
  | announce mask =>
      simp only [Deed.note, Deed.noteAnnounce] at regular ⊢
      split at regular
      · next e single =>
          split at regular
          · next may =>
              rw [if_pos may]
              simp only [Deed.act, EventMask.eq_of_event? single]
              exact h.announced may
          · cases regular
      · cases regular
  | offer mmap capacity =>
      exact h.noteOffer (Deed.unsent_of_noteOffer (Ledger.honest_of_regular regular)) mmap capacity
  | fill p => exact h.noteFill regular
  | publish p => exact h.notePublish regular
  | hangUp =>
      -- The region that was sent stays, and so do its memory and the counter.
      exact ⟨h.counter, h.signalled, h.stage_of_same rfl rfl rfl rfl rfl, h.signs, h.fresh⟩
  | other f => cases regular

/-- A link is wired when its process is started, if that went by the protocol so far. -/
theorem opening (worker : WorkerId) (early : List EventMask)
    (regular : (Ledger.opening worker early).1.regular = true) :
    Wired (Ledger.opening worker early).1 (Ledger.opening worker early).2 none false := by
  have fresh : Wired (.fresh worker) .fresh none false :=
    ⟨rfl, nofun, Or.inl ⟨⟨rfl, rfl, rfl, rfl, rfl⟩, nofun⟩, rfl, Nat.le_refl _⟩
  unfold Ledger.opening at regular ⊢
  generalize Ledger.fresh worker = g at fresh regular ⊢
  generalize Link.fresh = l at fresh regular ⊢
  induction early generalizing g l with
  | nil => exact fresh
  | cons mask rest ih =>
      have before := (Deed.extends_foldl (rest.map .announce) (Deed.perform (g, l)
        (.announce mask))).regular regular
      exact ih _ _ (fresh.perform before) regular

end Wired

/-! ### The multiplexer's side -/

/-- A region that is accepted is a file of the link. -/
theorem Link.lt_of_checkRegion {mmap : Mmap} {l : Link} {announced : UInt64}
    {descriptor : Descriptor} {file : Nat} (h : l.checkRegion mmap announced descriptor = .ok file) :
    file < l.files.length := by
  cases descriptor with
  | other => cases h
  | memory number access =>
      simp only [checkRegion] at h
      split at h
      · cases h
      · next found =>
          have below : number < l.files.length := (List.getElem?_eq_some_iff.1 found).1
          split at h
          · cases h
          · split at h
            · cases h
            · split at h
              · cases h
              · cases h
                exact below

/-- Taking a frame leaves the counter alone. -/
theorem Link.notifier_take (l : Link) (file : Nat) : (l.take file).2.notifier = l.notifier := by
  unfold take
  split
  · rfl
  · rfl

/-- Receiving a region changes no more than the socket, and the region is a file of the link. -/
theorem Link.receiveRegion_cases (mmap : Mmap) (l : Link) :
    (∃ control, (l.receiveRegion mmap).2 = { l with control }) ∧
    ∀ file, (l.receiveRegion mmap).1 = .ok file → file < l.files.length := by
  unfold receiveRegion
  split
  · exact ⟨⟨l.control, rfl⟩, nofun⟩
  · exact ⟨⟨l.control, rfl⟩, nofun⟩
  · next bytes descriptors control received =>
      refine ⟨⟨control, rfl⟩, ?_⟩
      intro file accepted
      dsimp only at accepted
      cases one : checkMessage bytes descriptors with
      | error fault =>
          rw [one] at accepted
          cases accepted
      | ok descriptor =>
          rw [one] at accepted
          cases checked : l.checkRegion mmap (UInt64.ofNat (ofLittleEndian bytes)) descriptor with
          | error fault =>
              simp only [checked] at accepted
              cases accepted
          | ok number =>
              simp only [checked] at accepted
              cases accepted
              exact lt_of_checkRegion checked

namespace Link

variable {l : Link} {g : Ledger} {reader : Option Nat} {region : Region}

/-- The frame in the slot of an offered region is the picture that was published last, and the region
is as good without it. -/
theorem Offered.take_of_ready (h : l.Offered g reader region)
    (ready : region.header.state = SlotState.ready.raw) :
    ∃ p l', g.publishes.getLast? = some p ∧
      l.take 0 = (.ok (some ⟨p.data, p.width, p.height, UInt64.ofNat g.publishes.length⟩), l') ∧
      l'.notifier = l.notifier ∧ l'.slotReady = false ∧
      ∀ g' : Ledger, g'.signalled = g.signalled → g'.publishes = g.publishes →
        l'.Offered g' reader region.emptied := by
  obtain ⟨p, newest, fits, holds⟩ := h.stocked.held ready
  have short : p.data.length < UInt64.size := by
    rw [fits]
    exact region.payloadCapacity.toNat_lt
  have inside : region.header.nbytes ≤ region.payloadCapacity := by
    rw [holds.nbytes, fits, UInt64.ofNat_toNat]
    exact UInt64.le_refl _
  have unready : ¬ region.emptied.header.state = SlotState.ready.raw := by
    show ¬ SlotState.empty.raw = SlotState.ready.raw
    decide
  have emptied (g' : Ledger) (signalled : g'.signalled = g.signalled)
      (publishes : g'.publishes = g.publishes) :
      (l.setRegion 0 region.emptied).Offered g' reader region.emptied :=
    h.setRegion g' signalled ⟨Or.inl rfl, publishes ▸ h.stocked.counted, (absurd · unready)⟩
  refine ⟨p, l.setRegion 0 region.emptied, newest, ?_, rfl, ?_, emptied⟩
  · simp only [Link.take, h.region?, Region.take_of_ready ready inside, holds.heldFrame short]
  · exact (emptied g rfl rfl).slotReady.trans (decide_eq_false unready)

/-- There is no frame in a slot that is not ready. -/
theorem Offered.take_of_unready (h : l.Offered g reader region)
    (unready : ¬ region.header.state = SlotState.ready.raw) : l.take 0 = (.ok none, l) := by
  have empty : region.header.state = SlotState.empty.raw := h.stocked.state.resolve_right unready
  have nothing : region.take = (.ok none, region) := by
    have known : (SlotState.ofRaw? region.header.state).isSome = true := by
      rw [empty]
      rfl
    unfold Region.take
    rw [Header.transition, if_neg unready]
    simp only [known, if_true]
  simp only [take, h.region?, nothing, h.setRegion_self]

end Link

namespace Wired

variable {g : Ledger} {l : Link} {reader : Option Nat} {waiting : Bool}

/-- A drain yields exactly the events that were signalled and not drained. -/
theorem drain_fst (h : Wired g l reader waiting) :
    l.drain.1 = if g.undrained = [] then none else some (EventMask.ofEvents g.undrained) := by
  simp only [Link.drain, h.counter, Notifier.drain_ofEvents]

/-- A drain that notes a waiting frame on the worker keeps the invariant. -/
theorem drained (h : Wired g l reader waiting) :
    Wired g.drained l.drain.2 reader (waiting || g.undrained.contains .frameWaiting) := by
  refine ⟨?_, nofun, h.stage_of_same rfl rfl rfl rfl rfl, ?_, h.fresh⟩
  · simp only [Link.drain, Notifier.drain_snd]
    rfl
  · have le := h.signs_le
    have same : l.drain.2.slotReady = l.slotReady := rfl
    rw [same, ← h.signs]
    simp only [Ledger.signs] at le
    simp only [Ledger.signs, Ledger.drained, List.contains_nil]
    generalize g.undrained.contains .frameWaiting = counted at le ⊢
    -- Never both the mark and the bit, so taking one for the other loses nothing.
    cases waiting with
    | false => simp
    | true =>
        cases counted with
        | false => simp
        | true =>
            simp only [Bool.toNat_true] at le
            omega

/-- Receiving a region, or failing to, keeps the invariant. -/
theorem receiveRegion (h : Wired g l none waiting) (mmap : Mmap) :
    Wired g (l.receiveRegion mmap).2 (l.receiveRegion mmap).1.toOption waiting := by
  obtain ⟨⟨control, same⟩, inside⟩ := l.receiveRegion_cases mmap
  rw [same]
  refine ⟨h.counter, h.signalled, ?_, h.signs, h.fresh⟩
  cases received : (l.receiveRegion mmap).1 with
  | error fault => exact h.stage_of_same rfl rfl rfl rfl rfl
  | ok file =>
      have below := inside file received
      rcases h.stage with ⟨unoffered, -⟩ | ⟨region, offered⟩
      · rw [unoffered.files] at below
        exact absurd below (Nat.not_lt_zero _)
      · rw [offered.files] at below
        obtain rfl : file = 0 := Nat.lt_one_iff.1 below
        exact Or.inr ⟨region, offered.writer, offered.files, Or.inr rfl, offered.signalled,
          offered.stocked⟩

/-- **A frame that is waiting is there**: it is the picture that was published last, under its
number, it was not taken before, and taking it keeps the invariant. -/
theorem take {file : Nat} (h : Wired g l (some file) true) :
    ∃ p l', g.publishes.getLast? = some p ∧ g.taken < g.publishes.length ∧
      l.take file = (.ok (some ⟨p.data, p.width, p.height, UInt64.ofNat g.publishes.length⟩), l') ∧
      Wired g.received l' (some file) false := by
  rcases h.stage with ⟨unoffered, -⟩ | ⟨region, offered⟩
  · exact absurd unoffered.reader (by simp)
  · obtain rfl : file = 0 := by simpa using offered.reader
    have ready := h.slotReady_of_waiting
    have told := h.signs
    rw [ready] at told
    have state : region.header.state = SlotState.ready.raw := by
      simpa [offered.slotReady] using ready
    obtain ⟨p, l', newest, took, notifier, unready, emptied⟩ := offered.take_of_ready state
    have fresh := h.fresh
    rw [ready] at fresh
    refine ⟨p, l', newest, fresh, took, notifier.trans h.counter, h.signalled,
      Or.inr ⟨_, emptied g.received rfl rfl⟩, ?_, ?_⟩
    · rw [unready]
      simp only [Ledger.signs, Bool.toNat_true] at told
      simp only [Ledger.signs, Ledger.received, Bool.toNat_false]
      omega
    · rw [unready]
      exact Nat.le_refl _

end Wired

end FrameMux
