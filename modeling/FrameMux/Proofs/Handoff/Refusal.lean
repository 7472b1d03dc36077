/-
**A frame that is refused.**

A header that announces more bytes than there is room for costs its frame: the slot is emptied.  The
worker stays marked, though, as if the frame were still to come.  So when the next frame is told
about, one sign of it is too many, and once the frame is taken the surplus sign may be in the
counter.  A publish at that moment adds the bit for a waiting frame to itself, which makes it an
unknown bit, and nothing tells about the new frame, nor about any that replaces it.

Main definitions:

* `FrameMux.Link.tellings` — how often the counter says that a frame is waiting;
* `FrameMux.Link.Alert` — **the worker hears** of the frame in the slot, perhaps twice;
* `FrameMux.Link.Starved` — there is a frame in the slot, and **nothing tells about it**;
* `FrameMux.Link.Doubles` — a publish that tells about a frame while an earlier telling is pending;
* `FrameMux.Lasting` — what the multiplexer preserves, whatever it does with a link.

Main results:

* `FrameMux.Wired.alert_overwritten` — the worker hears of the frame whatever length it is given;
* `FrameMux.Link.Alert.publish` — a publish starves the worker exactly if it doubles a telling;
* `FrameMux.lasting_alert`, `FrameMux.lasting_starved` — the multiplexer changes neither.
-/

import FrameMux.Proofs.Handoff.Wiring

set_option relaxedAutoImplicit false
set_option autoImplicit false

namespace FrameMux

/-! ### Overwriting the length -/

/-- The fields are read back from their bytes. -/
theorem Header.ofBytes_toBytes (h : Header) : Header.ofBytes h.toBytes = h := by
  have narrow (x : UInt32) : UInt32.ofNat (ofLittleEndian (littleEndian 4 x.toNat)) = x := by
    rw [ofLittleEndian_littleEndian 4 x.toNat x.toNat_lt, UInt32.ofNat_toNat]
  have wide (x : UInt64) : UInt64.ofNat (ofLittleEndian (littleEndian 8 x.toNat)) = x := by
    rw [ofLittleEndian_littleEndian 8 x.toNat x.toNat_lt, UInt64.ofNat_toNat]
  simp [ofBytes, toBytes, List.drop_append, List.take_of_length_le, List.drop_eq_nil_of_le, narrow,
    wide]

/-- Other bytes in the place of the length. -/
theorem Header.splice_nbytes (h : Header) (nbytes : UInt64) :
    (spliceBytes h.toBytes 8 (littleEndian 8 nbytes.toNat)).take fieldsEnd =
      toBytes { h with nbytes } := by
  simp [spliceBytes, toBytes, fieldsEnd, List.take_append, List.drop_append,
    List.take_of_length_le, List.drop_eq_nil_of_le]

/-- Overwriting the length in the header changes nothing else. -/
theorem Region.poke_nbytes (r : Region) (nbytes : UInt64) :
    r.poke 8 (littleEndian 8 nbytes.toNat) = { r with header := { r.header with nbytes } } := by
  have inside : (littleEndian 8 nbytes.toNat).take (Header.fieldsEnd - 8) =
      littleEndian 8 nbytes.toNat := List.take_of_length_le (by simp [Header.fieldsEnd])
  have behind : (littleEndian 8 nbytes.toNat).drop (Header.size.toNat - 8) = [] :=
    List.drop_eq_nil_of_le (by simp [Header.size])
  have some_bytes : (littleEndian 8 nbytes.toNat).isEmpty = false := rfl
  simp only [poke, inside, behind, some_bytes, Header.splice_nbytes, Header.ofBytes_toBytes]
  rfl

/-- A producer writes another length into the header of its region. -/
def Deed.overwriteLength (nbytes : UInt64) : Deed :=
  .other fun l => l.poke 0 8 (littleEndian 8 nbytes.toNat)

namespace Link

/-! ### How often the counter tells -/

/-- How often the counter says that a frame is waiting, as long as every other event is signalled
once at most. -/
def tellings (l : Link) : Nat := l.notifier.counter.toNat / 8

/-- What a small counter says about a waiting frame: two tellings are none. -/
theorem contains_small : ∀ k < 24,
    EventMask.contains ⟨UInt64.ofNat k⟩ .frameWaiting = decide (k / 8 = 1) ∧
    (EventMask.split (UInt64.ofNat k)).1.contains .frameWaiting = decide (k / 8 = 1) := by
  decide

/-- The bit for a waiting frame is in the counter if that was told once, but not if it was told
twice. -/
theorem contains_frameWaiting {l : Link} (few : l.tellings ≤ 2) :
    EventMask.contains ⟨l.notifier.counter⟩ .frameWaiting = decide (l.tellings = 1) ∧
    (EventMask.split l.notifier.counter).1.contains .frameWaiting = decide (l.tellings = 1) := by
  have small : l.notifier.counter.toNat < 24 := by
    simp only [tellings] at few
    omega
  have marks := contains_small l.notifier.counter.toNat small
  rw [UInt64.ofNat_toNat] at marks
  exact marks

/-- Draining leaves nothing to tell. -/
theorem tellings_drain (l : Link) : l.drain.2.tellings = 0 := by
  have clear : l.drain.2.notifier = .fresh := Notifier.drain_snd l.notifier
  rw [tellings, clear]
  rfl

/-- What is drained of a waiting frame. -/
theorem contains_drained {l : Link} {mask : EventMask} (drained : l.drain.1 = some mask)
    (few : l.tellings ≤ 2) : mask.contains .frameWaiting = decide (l.tellings = 1) := by
  have drained : l.notifier.drain.1 = some mask := drained
  unfold Notifier.drain Notifier.drainRaw at drained
  split at drained
  · cases drained
  · cases drained
    exact (contains_frameWaiting few).2

/-- There is room for one more telling. -/
theorem signal_frameWaiting {l : Link} (few : l.tellings ≤ 1) :
    l.notifier.signal (.ofEvent .frameWaiting) = .ok ⟨l.notifier.counter + 8⟩ := by
  rw [Notifier.signal_eq_ok_iff]
  refine ⟨?_, rfl⟩
  show l.notifier.counter.toNat + 8 < Notifier.limit
  simp only [tellings] at few
  simp only [Notifier.limit, UInt64.size]
  omega

/-- One more telling counts once. -/
theorem tellings_add {l l' : Link} (few : l.tellings ≤ 1)
    (told : l'.notifier = ⟨l.notifier.counter + 8⟩) : l'.tellings = l.tellings + 1 := by
  have sum : (l.notifier.counter + 8).toNat = (l.notifier.counter.toNat + 8) % 2 ^ 64 :=
    UInt64.toNat_add _ _
  simp only [tellings] at few
  simp only [tellings, told, sum]
  omega

/-! ### A link in use -/

/-- A link whose producer publishes into its only region, where nobody is at work, and where so many
more pictures can be counted. -/
structure Fed (l : Link) (reader : Option Nat) (region : Region) (more : Nat) : Prop where
  writer : l.writer = some 0
  files : l.files = [⟨.fixedSize, region⟩]
  reader : reader = none ∨ reader = some 0
  state : region.header.state = SlotState.empty.raw ∨ region.header.state = SlotState.ready.raw
  counts : region.header.sequence.toNat + more < UInt64.size

theorem Offered.fed {l : Link} {g : Ledger} {reader : Option Nat} {region : Region} {more : Nat}
    (h : l.Offered g reader region) (few : g.publishes.length + more < UInt64.size) :
    l.Fed reader region more := by
  refine ⟨h.writer, h.files, h.reader, h.stocked.state, ?_⟩
  rw [h.stocked.counted, UInt64.toNat_ofNat_of_lt' (by omega)]
  exact few

namespace Fed

variable {l : Link} {reader : Option Nat} {region : Region} {more : Nat}

theorem region? (h : l.Fed reader region more) : l.region? 0 = some region := by
  simp only [Link.region?, h.files]
  rfl

theorem slotReady (h : l.Fed reader region more) :
    l.slotReady = decide (region.header.state = SlotState.ready.raw) := by
  simp only [Link.slotReady, h.writer, Option.bind_some, h.region?]

/-- The state of a slot that is not ready. -/
theorem empty (h : l.Fed reader region more) (unready : l.slotReady = false) :
    region.header.state = SlotState.empty.raw := by
  rw [h.slotReady, decide_eq_false_iff_not] at unready
  exact h.state.resolve_right unready

/-- The state of a slot that is. -/
theorem ready (h : l.Fed reader region more) (ready : l.slotReady = true) :
    region.header.state = SlotState.ready.raw := by
  rw [h.slotReady, decide_eq_true_iff] at ready
  exact ready

/-- One more picture can be counted. -/
theorem countable (h : l.Fed reader region (more + 1)) : region.Countable := by
  have counts := h.counts
  rw [Region.Countable]
  omega

/-- So fewer can. -/
theorem fewer (h : l.Fed reader region (more + 1)) : l.Fed reader region more :=
  ⟨h.writer, h.files, h.reader, h.state, Nat.lt_of_succ_lt h.counts⟩

/-- Another counter, another socket, another reader. -/
theorem same (h : l.Fed reader region more) {l' : Link} {reader' : Option Nat}
    (writer : l'.writer = l.writer) (files : l'.files = l.files)
    (reads : reader' = none ∨ reader' = some 0) : l'.Fed reader' region more :=
  ⟨writer.trans h.writer, files.trans h.files, reads, h.state, h.counts⟩

/-- Other memory. -/
theorem setRegion (h : l.Fed reader region more) (region' : Region)
    (state : region'.header.state = SlotState.empty.raw ∨
      region'.header.state = SlotState.ready.raw)
    (sequence : region'.header.sequence = region.header.sequence) :
    (l.setRegion 0 region').Fed reader region' more where
  writer := h.writer
  files := by
    simp only [Link.setRegion, h.files]
    rfl
  reader := h.reader
  state := state
  counts := sequence ▸ h.counts

/-- One more picture in the slot. -/
theorem filled (h : l.Fed reader region (more + 1)) (p : Picture) :
    (l.setRegion 0 (region.filled p)).Fed reader (region.filled p) more where
  writer := h.writer
  files := by
    simp only [Link.setRegion, h.files]
    rfl
  reader := h.reader
  state := Or.inr rfl
  counts := by
    have counts := h.counts
    have below : region.header.sequence.toNat + 1 < UInt64.size := by omega
    have next : (region.header.sequence + 1).toNat = region.header.sequence.toNat + 1 := by
      rw [UInt64.toNat_add]
      exact Nat.mod_eq_of_lt below
    show (region.header.sequence + 1).toNat + more < _
    omega

/-- Receiving a region does no more than find it. -/
theorem receiveRegion (h : l.Fed none region more) (mmap : Mmap) :
    (l.receiveRegion mmap).2.Fed (l.receiveRegion mmap).1.toOption region more ∧
    (l.receiveRegion mmap).2.notifier = l.notifier := by
  obtain ⟨⟨control, same⟩, inside⟩ := l.receiveRegion_cases mmap
  rw [same]
  refine ⟨h.same rfl rfl ?_, rfl⟩
  cases received : (l.receiveRegion mmap).1 with
  | error fault => exact Or.inl rfl
  | ok file =>
      have below := inside file received
      rw [h.files] at below
      obtain rfl : file = 0 := Nat.lt_one_iff.1 below
      exact Or.inr rfl

/-- What a publish comes to: it is refused, it replaces the frame in the slot, or it fills the slot
and tells about it. -/
theorem publish_cases (h : l.Fed reader region (more + 1)) (few : l.slotReady = false → l.tellings ≤ 1)
    (p : Picture) :
    (∃ fault, l.publish p.data p.width p.height = (some (.error fault), l)) ∨
    (l.slotReady = true ∧ p.data.length = region.payloadCapacity.toNat ∧
      l.publish p.data p.width p.height =
        (some (.ok .replaced), l.setRegion 0 (region.filled p))) ∨
    (l.slotReady = false ∧ p.data.length = region.payloadCapacity.toNat ∧
      l.publish p.data p.width p.height = (some (.ok .published),
        { l.setRegion 0 (region.filled p) with notifier := ⟨l.notifier.counter + 8⟩ })) := by
  have unchanged : l.setRegion 0 region = l := by
    simp only [Link.setRegion]
    rw [h.files]
    show { l with files := [⟨.fixedSize, region⟩] } = l
    rw [← h.files]
  by_cases fits : p.data.length = region.payloadCapacity.toNat
  · right
    cases ready : l.slotReady with
    | true =>
        refine Or.inl ⟨rfl, fits, ?_⟩
        simp only [Link.publish, h.writer, h.region?, Channel.publish,
          Region.publish_of_ready fits (h.ready ready) h.countable]
        rfl
    | false =>
        refine Or.inr ⟨rfl, fits, ?_⟩
        simp only [Link.publish, h.writer, h.region?, Channel.publish,
          Region.publish_of_empty fits (h.empty ready) h.countable,
          signal_frameWaiting (few ready)]
  · refine Or.inl ⟨.sizeMismatch region.payloadCapacity.toNat p.data.length, ?_⟩
    simp only [Link.publish, h.writer, h.region?, Channel.publish, Region.publish_of_length_ne fits]
    rw [unchanged]

/-- Looking into the slot leaves it empty, and a frame that fits is taken. -/
theorem take (h : l.Fed (some 0) region more) :
    (∃ region', (l.take 0).2.Fed (some 0) region' more) ∧ (l.take 0).2.slotReady = false ∧
    (l.slotReady = true → region.header.nbytes ≤ region.payloadCapacity →
      ∃ frame, (l.take 0).1 = .ok (some frame)) := by
  have looks : l.take 0 = (region.take.1, l.setRegion 0 region.take.2) := by
    simp only [Link.take, h.region?]
  have empties (region' : Region) (empty : region'.header.state = SlotState.empty.raw)
      (sequence : region'.header.sequence = region.header.sequence) :
      (l.setRegion 0 region').Fed (some 0) region' more ∧
      (l.setRegion 0 region').slotReady = false := by
    have fed := h.setRegion region' (Or.inl empty) sequence
    rw [fed.slotReady, empty]
    exact ⟨fed, rfl⟩
  rw [looks]
  cases ready : l.slotReady with
  | false =>
      have state := h.empty ready
      rw [Region.take_of_empty state]
      obtain ⟨fed, unready⟩ := empties region state rfl
      exact ⟨⟨_, fed⟩, unready, fun full => by cases full⟩
  | true =>
      have state := h.ready ready
      obtain ⟨fed, unready⟩ := empties region.emptied rfl rfl
      by_cases fits : region.header.nbytes ≤ region.payloadCapacity
      · rw [Region.take_of_ready state fits]
        exact ⟨⟨_, fed⟩, unready, fun _ _ => ⟨_, rfl⟩⟩
      · rw [Region.take_of_oversized state (UInt64.not_le.1 fits)]
        exact ⟨⟨_, fed⟩, unready, fun _ inside => absurd inside fits⟩

end Fed

/-! ### Signs of the frame in the slot -/

/-- The worker hears of the frame in the slot: it is marked, or the counter tells.  There may be one
sign too many, left behind by a frame that was refused; then the frame in the slot fits. -/
structure Alert (l : Link) (reader : Option Nat) (waiting : Bool) (region : Region)
    (more : Nat) : Prop extends l.Fed reader region more where
  told : l.slotReady = true → waiting = true ∨ l.tellings = 1
  few : l.tellings ≤ 1
  once : waiting = true → l.tellings = 1 → l.slotReady = true
  fits : waiting = true → l.tellings = 1 → region.header.nbytes ≤ region.payloadCapacity

/-- There is a frame in the slot and nothing tells about it: the two tellings in the counter, if any,
add up to an unknown bit. -/
structure Starved (l : Link) (reader : Option Nat) (waiting : Bool) (region : Region)
    (more : Nat) : Prop extends l.Fed reader region more where
  full : l.slotReady = true
  unmarked : waiting = false
  untold : l.tellings = 0 ∨ l.tellings = 2

/-- A publish that fills the slot and tells about it while the counter still tells about a frame. -/
def Doubles (l : Link) (p : Picture) : Prop :=
  l.slotReady = false ∧ EventMask.contains ⟨l.notifier.counter⟩ .frameWaiting = true ∧
    (l.publish p.data p.width p.height).1 = some (.ok .published)

/-- A worker that hears of its frame does not starve. -/
theorem Alert.not_starved {l : Link} {reader : Option Nat} {waiting : Bool} {region : Region}
    {more : Nat} (h : l.Alert reader waiting region more) :
    ¬ (l.slotReady = true ∧ waiting = false ∧
      EventMask.contains ⟨l.notifier.counter⟩ .frameWaiting = false) := by
  rintro ⟨full, unmarked, untold⟩
  have few := h.few
  rw [(contains_frameWaiting (by omega)).1, decide_eq_false_iff_not] at untold
  rcases h.told full with marked | told
  · rw [unmarked] at marked
    cases marked
  · exact untold told

/-- A worker that starves does. -/
theorem Starved.starved {l : Link} {reader : Option Nat} {waiting : Bool} {region : Region}
    {more : Nat} (h : l.Starved reader waiting region more) :
    l.slotReady = true ∧ waiting = false ∧
      EventMask.contains ⟨l.notifier.counter⟩ .frameWaiting = false := by
  have untold := h.untold
  refine ⟨h.full, h.unmarked, ?_⟩
  rw [(contains_frameWaiting (by omega)).1, decide_eq_false_iff_not]
  omega

end Link

/-- Whatever length the header of a waiting frame is given, the worker hears of it once. -/
theorem Wired.alert_overwritten {g : Ledger} {l : Link} {reader : Option Nat} {waiting : Bool}
    (h : Wired g l reader waiting) (told : g.untold = false) (full : l.slotReady = true)
    {more : Nat} (few : g.publishes.length + more < UInt64.size) (nbytes : UInt64) :
    ∃ region, ((Deed.overwriteLength nbytes).act l).Alert reader waiting region more := by
  rcases h.stage with ⟨unoffered, -⟩ | ⟨region, offered⟩
  · rw [unoffered.slotReady] at full
    cases full
  · have poked : (Deed.overwriteLength nbytes).act l =
        l.setRegion 0 { region with header := { region.header with nbytes } } := by
      simp only [Deed.act, Deed.overwriteLength, Link.poke, Link.setRegion, offered.files]
      rw [← region.poke_nbytes nbytes]
      rfl
    have fed := (offered.fed few).setRegion { region with header := { region.header with nbytes } }
      offered.stocked.state rfl
    have full' : (l.setRegion 0 { region with
        header := { region.header with nbytes } }).slotReady = true := by
      rw [fed.slotReady, ← full, offered.slotReady]
    -- The counter has the bit for a waiting frame exactly if that was signalled and not drained.
    have tellings : l.tellings = (g.undrained.contains .frameWaiting).toNat := by
      have words : ∀ a b c d, (EventMask.word a b c d).toNat / 8 = d.toNat := by decide
      rw [Link.tellings, h.counter, EventMask.bits_ofEvents, words]
    have signs := h.signs
    rw [full, Ledger.signs, told, ← tellings] at signs
    simp only [Bool.toNat_false, Bool.toNat_true, Nat.add_zero] at signs
    rw [poked]
    refine ⟨_, fed, fun _ => ?_, ?_, fun _ _ => full', ?_⟩
    · cases waiting with
      | true => exact Or.inl rfl
      | false =>
          rw [Bool.toNat_false, Nat.zero_add] at signs
          exact Or.inr signs
    · show l.tellings ≤ 1
      omega
    · intro marked once
      have once : l.tellings = 1 := once
      rw [marked, once] at signs
      cases signs

/-! ### Publishing -/

namespace Link

variable {l : Link} {reader : Option Nat} {waiting : Bool} {region : Region} {more : Nat}

/-- **A publish starves the worker** exactly if it doubles a telling. -/
theorem Alert.publish (h : l.Alert reader waiting region (more + 1)) (p : Picture) :
    (l.Doubles p → ∃ region', (Deed.act (.publish p) l).Starved reader waiting region' more) ∧
    (¬ l.Doubles p → ∃ region', (Deed.act (.publish p) l).Alert reader waiting region' more) := by
  have few := h.few
  have bit := (contains_frameWaiting (l := l) (by omega)).1
  have fed := h.toFed.filled p
  have filled : (l.setRegion 0 (region.filled p)).slotReady = true := fed.slotReady
  rcases h.toFed.publish_cases (fun _ => few) p with
    ⟨fault, done⟩ | ⟨full, fits, done⟩ | ⟨empty, fits, done⟩
  · refine ⟨?_, fun _ => ⟨region, ?_⟩⟩
    · rintro ⟨-, -, outcome⟩
      rw [done] at outcome
      cases outcome
    · rw [Deed.act, done]
      exact ⟨h.toFed.fewer, h.told, h.few, h.once, h.fits⟩
  · constructor
    · rintro ⟨empty, -⟩
      rw [full] at empty
      cases empty
    · intro _
      rw [Deed.act, done]
      refine ⟨_, fed, fun _ => h.told full, few, fun _ _ => filled, fun _ _ => ?_⟩
      show UInt64.ofNat p.data.length ≤ region.payloadCapacity
      rw [fits, UInt64.ofNat_toNat]
      exact UInt64.le_refl _
  · let l' : Link := { l.setRegion 0 (region.filled p) with
      notifier := ⟨l.notifier.counter + 8⟩ }
    have once : l'.tellings = l.tellings + 1 := tellings_add few rfl
    have fed' : l'.Fed reader (region.filled p) more := fed.same rfl rfl h.toFed.reader
    constructor
    · rintro ⟨-, pending, -⟩
      rw [bit, decide_eq_true_iff] at pending
      rw [Deed.act, done]
      refine ⟨_, fed', filled, ?_, Or.inr (by rw [once, pending])⟩
      -- The mark and the bit are never both there while the slot is empty.
      cases marked : waiting with
      | false => rfl
      | true =>
          rw [h.once marked pending] at empty
          cases empty
    · intro single
      have untold : l.tellings ≠ 1 := by
        intro pending
        refine single ⟨empty, ?_, by rw [done]⟩
        rw [bit, decide_eq_true pending]
      rw [Deed.act, done]
      refine ⟨_, fed', fun _ => Or.inr ?_, ?_, fun _ _ => filled, fun _ _ => ?_⟩
      · rw [once]
        omega
      · rw [once]
        omega
      · show UInt64.ofNat p.data.length ≤ region.payloadCapacity
        rw [fits, UInt64.ofNat_toNat]
        exact UInt64.le_refl _

/-- No publish tells a starved worker. -/
theorem Starved.publish (h : l.Starved reader waiting region (more + 1)) (p : Picture) :
    ∃ region', (Deed.act (.publish p) l).Starved reader waiting region' more := by
  rcases h.toFed.publish_cases (fun empty => by rw [h.full] at empty; cases empty) p with
    ⟨fault, done⟩ | ⟨-, -, done⟩ | ⟨empty, -⟩
  · rw [Deed.act, done]
    exact ⟨region, h.toFed.fewer, h.full, h.unmarked, h.untold⟩
  · have fed := h.toFed.filled p
    rw [Deed.act, done]
    exact ⟨_, fed, fed.slotReady, h.unmarked, h.untold⟩
  · rw [h.full] at empty
    cases empty

end Link

/-! ### The multiplexer's side -/

/-- What the multiplexer preserves, draining a link, receiving a region and looking into the slot,
given what the worker knows and whether it is marked. -/
structure Lasting (P : Link → Option Nat → Bool → Prop) : Prop where
  drained : ∀ {l reader waiting mask}, P l reader waiting → l.drain.1 = some mask →
    P l.drain.2 reader (waiting || mask.contains .frameWaiting)
  received : ∀ {l waiting} (mmap), P l none waiting →
    P (l.receiveRegion mmap).2 (l.receiveRegion mmap).1.toOption waiting
  taken : ∀ {l file frame}, P l (some file) true → (l.take file).1 = .ok (some frame) →
    P (l.take file).2 (some file) false
  missed : ∀ {l file}, P l (some file) true → (∀ frame, (l.take file).1 ≠ .ok (some frame)) →
    P (l.take file).2 (some file) true

/-- **The worker keeps hearing** of what is in the slot. -/
theorem lasting_alert (more : Nat) :
    Lasting fun l reader waiting => ∃ region, l.Alert reader waiting region more where
  drained := by
    rintro l reader waiting mask ⟨region, h⟩ drained
    have few := h.few
    have clear := l.tellings_drain
    rw [Link.contains_drained drained (by omega)]
    refine ⟨region, h.toFed.same rfl rfl h.toFed.reader, ?_, by omega, ?_, ?_⟩
    · intro full
      left
      rcases h.told full with marked | told
      · rw [marked, Bool.true_or]
      · rw [decide_eq_true told, Bool.or_true]
    · intro _ once
      omega
    · intro _ once
      omega
  received := by
    rintro l waiting mmap ⟨region, h⟩
    obtain ⟨fed, notifier⟩ := h.toFed.receiveRegion mmap
    have ready : (l.receiveRegion mmap).2.slotReady = l.slotReady := by
      rw [fed.slotReady, h.toFed.slotReady]
    have tellings : (l.receiveRegion mmap).2.tellings = l.tellings := by
      rw [Link.tellings, notifier, Link.tellings]
    exact ⟨region, fed, by rw [ready, tellings]; exact h.told, by rw [tellings]; exact h.few,
      by rw [ready, tellings]; exact h.once, by rw [tellings]; exact h.fits⟩
  taken := by
    rintro l file frame ⟨region, h⟩ took
    obtain rfl : file = 0 := by simpa using h.toFed.reader
    obtain ⟨⟨region', fed⟩, empty, -⟩ := h.toFed.take
    refine ⟨region', fed, ?_, ?_, ?_, ?_⟩
    · intro full
      rw [empty] at full
      cases full
    · rw [Link.tellings, l.notifier_take]
      exact h.few
    · intro marked
      cases marked
    · intro marked
      cases marked
  missed := by
    rintro l file ⟨region, h⟩ missed
    obtain rfl : file = 0 := by simpa using h.toFed.reader
    obtain ⟨⟨region', fed⟩, empty, takes⟩ := h.toFed.take
    -- With a sign too many the frame fits, so it would have been taken.
    have single : l.tellings ≠ 1 := by
      intro once
      obtain ⟨frame, took⟩ := takes (h.once rfl once) (h.fits rfl once)
      exact missed frame took
    have tellings : (l.take 0).2.tellings = l.tellings := by
      rw [Link.tellings, l.notifier_take, Link.tellings]
    rw [← tellings] at single
    exact ⟨region', fed, fun _ => Or.inl rfl, by rw [tellings]; exact h.few,
      fun _ once => absurd once single, fun _ once => absurd once single⟩

/-- Nothing makes a starved worker hear of the frame. -/
theorem lasting_starved (more : Nat) :
    Lasting fun l reader waiting => ∃ region, l.Starved reader waiting region more where
  drained := by
    rintro l reader waiting mask ⟨region, h⟩ drained
    have untold := h.untold
    have unmarked : (waiting || mask.contains .frameWaiting) = false := by
      rw [h.unmarked, Link.contains_drained drained (by omega), Bool.false_or,
        decide_eq_false_iff_not]
      omega
    exact ⟨region, h.toFed.same rfl rfl h.toFed.reader, h.full, unmarked, Or.inl l.tellings_drain⟩
  received := by
    rintro l waiting mmap ⟨region, h⟩
    obtain ⟨fed, notifier⟩ := h.toFed.receiveRegion mmap
    refine ⟨region, fed, ?_, h.unmarked, ?_⟩
    · rw [fed.slotReady, ← h.toFed.slotReady]
      exact h.full
    · rw [Link.tellings, notifier]
      exact h.untold
  taken := by
    rintro l file frame ⟨region, h⟩
    cases h.unmarked
  missed := by
    rintro l file ⟨region, h⟩
    cases h.unmarked

end FrameMux
