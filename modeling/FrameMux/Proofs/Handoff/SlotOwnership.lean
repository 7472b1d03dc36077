/-
**Who owns the slot.**

One producer and one reader work on the same region, each in the middle of a call of its own, and
any access of one may come between two accesses of the other.  The state word keeps them apart: the
producer stores only while it says that it writes, and the reader loads only while it says that it
reads.  This module states that as an invariant of schedules and proves it for the producer's
accesses; the reader's follow in `FrameMux.Proofs.Handoff.SlotDelivery`.

Main definitions:

* `FrameMux.Slot.Writer.Owns`, `FrameMux.Slot.Reader.Owns` — what the two calls rely on;
* `FrameMux.Slot.Run.Owned` — **the invariant**: the slot belongs to at most one side, and holds what
  was committed last.

Main results:

* `FrameMux.Slot.Run.Owned.write` — every access of the producer keeps the invariant.
-/

import FrameMux.Proofs.Handoff.SlotSteps

set_option relaxedAutoImplicit false
set_option autoImplicit false

namespace FrameMux.Slot

/-! ### The invariant -/

/-- The first bytes of a picture are in the payload. -/
def BytesIn (r : Region) (p : Picture) (n : Nat) : Prop := ∀ j < n, r.byteAt j = p.data.getD j 0

/-- What is in place when a store is due. -/
def Store.Due (r : Region) (p : Picture) : Store → Prop
  | byte i => i < p.data.length ∧ BytesIn r p i
  | nbytes => BytesIn r p p.data.length
  | width => BytesIn r p p.data.length ∧ r.header.nbytes = UInt64.ofNat p.data.length
  | height =>
      BytesIn r p p.data.length ∧ r.header.nbytes = UInt64.ofNat p.data.length ∧
        r.header.width = p.width
  | sequence =>
      BytesIn r p p.data.length ∧ r.header.nbytes = UInt64.ofNat p.data.length ∧
        r.header.width = p.width ∧ r.header.height = p.height

/-- The producer does not hold the slot: all that was claimed is committed and counted. -/
structure Resting (r : Region) (claims : List Picture) (committed : Nat) : Prop where
  state : r.header.state ≠ SlotState.writing.raw
  sequence : r.header.sequence = UInt64.ofNat claims.length
  committed : committed = claims.length

/-- The producer holds the slot for the picture that was claimed last. -/
structure Filling (r : Region) (claims : List Picture) (committed : Nat) (p : Picture) : Prop where
  state : r.header.state = SlotState.writing.raw
  fits : p.data.length = r.payloadCapacity.toNat
  last : claims[committed]? = some p
  committed : committed + 1 = claims.length

/-- What the producer's call relies on. -/
def Writer.Owns (r : Region) (claims : List Picture) (committed : Nat) : Writer → Prop
  | idle => Resting r claims committed
  | claim p | reclaim p => p.data.length = r.payloadCapacity.toNat ∧ Resting r claims committed
  | store p _ what =>
      Filling r claims committed p ∧ what.Due r p ∧ r.header.sequence = UInt64.ofNat committed
  | commit p _ => Filling r claims committed p ∧ r.Holds p claims.length
  | signal => Resting r claims committed
  | stopped => r.header.state = SlotState.writing.raw ∧ UInt64.size ≤ claims.length

/-- What the reader's call relies on.  There is never a violation to clear up. -/
def Reader.Owns (r : Region) : Reader → Prop
  | idle | claim => r.header.state ≠ SlotState.reading.raw
  | nbytes => r.header.state = SlotState.reading.raw
  | width n => r.header.state = SlotState.reading.raw ∧ n = r.header.nbytes
  | height n w => r.header.state = SlotState.reading.raw ∧ n = r.header.nbytes ∧ w = r.header.width
  | sequence n w h =>
      r.header.state = SlotState.reading.raw ∧ n = r.header.nbytes ∧ w = r.header.width ∧
        h = r.header.height
  | copy n part =>
      r.header.state = SlotState.reading.raw ∧ n = r.header.nbytes ∧
        (∃ k < n.toNat, part = { r.heldFrame with data := (List.range k).map r.byteAt })
  | release frame => r.header.state = SlotState.reading.raw ∧ frame = r.heldFrame
  | clear _ => False

/-- A taken frame is the picture of a number, as a whole. -/
def Delivered (claims : List Picture) (t : TakeResult × Nat) : Prop :=
  t.1 = .ok none ∨
    ∃ f p, t.1 = .ok (some f) ∧ 0 < t.2 ∧ claims[t.2 - 1]? = some p ∧ f.picture = p ∧
      f.sequence = UInt64.ofNat t.2

/-- How a call to publish may end: in a violation only where the counter is saturated, and short of its
count only where `2 ^ 64` pictures claimed the slot. -/
structure Permitted (claims : List Picture) (result : PublishResult) : Prop where
  saturated : ∀ fault, result = .error (.protocol fault) → fault = .saturated
  counted : result = .error .overflow → UInt64.size ≤ claims.length

/-- The slot belongs to at most one side, and holds what was committed last. -/
structure Run.Owned (s : Run) : Prop where
  word : ∃ state : SlotState, s.region.header.state = state.raw
  writer : s.writer.Owns s.region s.claims s.committed
  reader : s.reader.Owns s.region
  acquired : s.region.header.state = SlotState.reading.raw → s.acquired = s.committed
  held : s.region.header.state = SlotState.ready.raw ∨
      s.region.header.state = SlotState.reading.raw →
    ∃ p, 0 < s.committed ∧ s.claims[s.committed - 1]? = some p ∧
      p.data.length = s.region.payloadCapacity.toNat ∧ s.region.Holds p s.committed
  outcomes : ∀ result ∈ s.outcomes, Permitted s.claims result
  takes : ∀ t ∈ s.takes, Delivered s.claims t

/-! ### The producer's accesses -/

/-- Different states have different words. -/
theorem raw_ne {a b : SlotState} (h : a ≠ b) : a.raw ≠ b.raw := by
  intro same
  have read := congrArg SlotState.ofRaw? same
  rw [SlotState.ofRaw?_raw, SlotState.ofRaw?_raw] at read
  exact h (Option.some.inj read)

theorem writing_ne_reading : SlotState.writing.raw ≠ SlotState.reading.raw := raw_ne (by decide)

theorem writing_ne_ready : SlotState.writing.raw ≠ SlotState.ready.raw := raw_ne (by decide)

/-- Until the reader claims the slot, its call relies on nothing but that. -/
theorem Reader.Owns.free {r : Region} {q : Reader} (h : q.Owns r)
    (state : r.header.state ≠ SlotState.reading.raw) : q = .idle ∨ q = .claim := by
  cases q with
  | idle => exact Or.inl rfl
  | claim => exact Or.inr rfl
  | nbytes => exact absurd h state
  | width n => exact absurd h.1 state
  | height n w => exact absurd h.1 state
  | sequence n w h' => exact absurd h.1 state
  | copy n part => exact absurd h.1 state
  | release frame => exact absurd h.1 state
  | clear fault => exact h.elim

/-- What the reader's call relies on survives what the producer does to the slot meanwhile. -/
theorem Reader.Owns.of_free {r r' : Region} {q : Reader} (h : q.Owns r)
    (state : r.header.state ≠ SlotState.reading.raw)
    (state' : r'.header.state ≠ SlotState.reading.raw) : q.Owns r' := by
  rcases h.free state with rfl | rfl
  · exact state'
  · exact state'

/-- A byte that is due is in after its store. -/
theorem BytesIn.store {r : Region} {p : Picture} {i : Nat} (h : BytesIn r p i) :
    BytesIn (r.storeByte i (p.data.getD i 0)) p (i + 1) := by
  intro j hj
  rw [Region.byteAt_storeByte]
  split
  · next same => rw [same]
  · exact h j (by omega)

/-- After a store the next one is due. -/
theorem Store.due_perform {r : Region} {p : Picture} {what next : Store} (due : what.Due r p)
    (follows : what.next? p.data.length = some next) : next.Due (what.perform p r) p := by
  cases what with
  | byte i =>
      obtain rfl := Option.some.inj follows
      have stored := due.2.store
      unfold Store.afterBytes
      split
      · next more => exact ⟨more, stored⟩
      · next full =>
          have all : i + 1 = p.data.length := by
            have := due.1
            omega
          rw [all] at stored
          exact stored
  | nbytes => obtain rfl := Option.some.inj follows; exact ⟨due, rfl⟩
  | width => obtain rfl := Option.some.inj follows; exact ⟨due.1, due.2, rfl⟩
  | height => obtain rfl := Option.some.inj follows; exact ⟨due.1, due.2.1, due.2.2, rfl⟩
  | sequence => cases follows

/-- The first store is due as soon as the slot is claimed. -/
theorem Store.due_afterBytes (r : Region) (p : Picture) :
    (Store.afterBytes p.data.length 0).Due r p := by
  unfold Store.afterBytes
  split
  · next some => exact ⟨some, fun j hj => absurd hj (Nat.not_lt_zero j)⟩
  · next none =>
      intro j hj
      omega

/-- Stores leave the state word and the size of the region alone. -/
theorem Store.state_perform (p : Picture) (r : Region) (what : Store) :
    (what.perform p r).header.state = r.header.state := by
  cases what <;> rfl

theorem Store.payloadCapacity_perform (p : Picture) (r : Region) (what : Store) :
    (what.perform p r).payloadCapacity = r.payloadCapacity := by
  cases what <;> rfl

/-- Only the last store counts. -/
theorem Store.sequence_perform {p : Picture} {r : Region} {what next : Store} {length : Nat}
    (follows : what.next? length = some next) :
    (what.perform p r).header.sequence = r.header.sequence := by
  cases what with
  | sequence => cases follows
  | _ => rfl

/-- After the last store the region holds the picture. -/
theorem Store.holds_perform {r : Region} {p : Picture} {what : Store} {number : Nat}
    (due : what.Due r p) (last : what.next? p.data.length = none)
    (counted : r.header.sequence = UInt64.ofNat number) :
    (what.perform p r).Holds p (number + 1) := by
  cases what with
  | sequence =>
      obtain ⟨bytes, nbytes, width, height⟩ := due
      refine ⟨nbytes, width, height, ?_, Region.readPayload_eq_of_byteAt bytes⟩
      show r.header.sequence + 1 = UInt64.ofNat (number + 1)
      rw [counted, UInt64.ofNat_add]
      rfl
  | _ => cases last

/-- Storing changes neither the state nor the size, so the producer goes on filling. -/
theorem Filling.perform {r : Region} {claims : List Picture} {committed : Nat} {p : Picture}
    (h : Filling r claims committed p) (what : Store) :
    Filling (what.perform p r) claims committed p := by
  refine ⟨(what.state_perform p r).trans h.state, ?_, h.last, h.committed⟩
  rw [what.payloadCapacity_perform]
  exact h.fits

/-- A picture that cannot be counted is at least the one of number `2 ^ 64`. -/
theorem Filling.size_le_of_uncountable {r : Region} {claims : List Picture} {committed : Nat}
    {p : Picture} (h : Filling r claims committed p)
    (counted : r.header.sequence = UInt64.ofNat committed) (ended : ¬ r.Countable) :
    UInt64.size ≤ claims.length := by
  rw [← h.committed]
  refine Nat.not_lt.1 fun few => ended ?_
  rw [Region.Countable, counted, UInt64.toNat_ofNat_of_lt' (by omega)]
  omega

/-- Frames that were delivered stay delivered when more pictures claim the slot. -/
theorem Delivered.append {claims : List Picture} {t : TakeResult × Nat} (h : Delivered claims t)
    (more : List Picture) : Delivered (claims ++ more) t := by
  rcases h with h | ⟨f, p, result, positive, number, picture, sequence⟩
  · exact Or.inl h
  · refine Or.inr ⟨f, p, result, positive, ?_, picture, sequence⟩
    have inside := (List.getElem?_eq_some_iff.1 number).1
    rw [List.getElem?_append_left inside, number]

/-- A result that says how the slot was found is permitted. -/
theorem permitted_ok (claims : List Picture) (outcome : PublishOutcome) :
    Permitted claims (.ok outcome) :=
  ⟨nofun, nofun⟩

/-- What is permitted stays so when more pictures claim the slot. -/
theorem Permitted.append {claims : List Picture} {result : PublishResult}
    (h : Permitted claims result) (more : List Picture) : Permitted (claims ++ more) result := by
  refine ⟨h.saturated, fun overflow => Nat.le_trans (h.counted overflow) ?_⟩
  rw [List.length_append]
  exact Nat.le_add_right _ _

/-- One more result that is permitted. -/
theorem permitted_of_mem_append {claims : List Picture} {outcomes : List PublishResult}
    {result : Option PublishResult} (old : ∀ o ∈ outcomes, Permitted claims o)
    (new : ∀ o, result = some o → Permitted claims o) :
    ∀ o ∈ outcomes ++ result.toList, Permitted claims o := by
  intro o ho
  rcases List.mem_append.1 ho with before | last
  · exact old o before
  · exact new o (Option.mem_toList.1 last)

namespace Run

/-- The run after an access of the producer. -/
theorem write_eq {s : Run} {w : Writer} {c : Channel} {result : Option PublishResult}
    (h : s.writer.step s.toChannel = (w, c, result)) :
    s.write = { s with
      toChannel := c
      writer := w
      claims := s.claims ++ (s.writer.claimed? w).toList
      committed := if s.writer.commits w result then
        (s.claims ++ (s.writer.claimed? w).toList).length else s.committed
      outcomes := s.outcomes ++ result.toList } := by
  simp only [write, h]

/-- An access of the producer that leaves the region alone only moves its call on. -/
theorem Owned.withWriter {s : Run} (h : s.Owned) (notifier : Notifier) (w : Writer)
    (result : Option PublishResult) (owns : w.Owns s.region s.claims s.committed)
    (permitted : ∀ o, result = some o → Permitted s.claims o) :
    Owned { s with notifier, writer := w, outcomes := s.outcomes ++ result.toList } where
  word := h.word
  writer := owns
  reader := h.reader
  acquired := h.acquired
  held := h.held
  outcomes := permitted_of_mem_append h.outcomes permitted
  takes := h.takes

/-- Claiming the slot makes the producer its owner. -/
theorem Owned.granted {s : Run} (h : s.Owned) {p : Picture} (replacing : Bool)
    (fits : p.data.length = s.region.payloadCapacity.toNat)
    (resting : Resting s.region s.claims s.committed)
    (state : s.region.header.state ≠ SlotState.reading.raw) :
    Owned { s with
      writer := .store p replacing (.afterBytes p.data.length 0)
      region := { s.region with header := { s.region.header with state := SlotState.writing.raw } }
      claims := s.claims ++ [p] } where
  word := ⟨.writing, rfl⟩
  writer := by
    refine ⟨⟨rfl, fits, ?_, ?_⟩, Store.due_afterBytes _ p, ?_⟩
    · show (s.claims ++ [p])[s.committed]? = some p
      rw [resting.committed, List.getElem?_concat_length]
    · simp [resting.committed]
    · show s.region.header.sequence = UInt64.ofNat s.committed
      rw [resting.sequence, resting.committed]
  reader := h.reader.of_free state writing_ne_reading
  acquired := fun reading => absurd reading writing_ne_reading
  held := by
    rintro (ready | reading)
    · exact absurd ready writing_ne_ready
    · exact absurd reading writing_ne_reading
  outcomes := fun o ho => (h.outcomes o ho).append [p]
  takes := fun t ht => (h.takes t ht).append [p]

/-- A store of the producer keeps the slot its own. -/
theorem Owned.stored {s : Run} (h : s.Owned) {p : Picture} {what : Store}
    (filling : Filling s.region s.claims s.committed p) {w : Writer}
    (result : Option PublishResult)
    (owns : w.Owns (what.perform p s.region) s.claims s.committed)
    (permitted : ∀ o, result = some o → Permitted s.claims o) :
    Owned { s with
      region := what.perform p s.region, writer := w
      outcomes := s.outcomes ++ result.toList } where
  word := ⟨.writing, (what.state_perform p s.region).trans filling.state⟩
  writer := owns
  reader := by
    refine h.reader.of_free ?_ ?_
    · rw [filling.state]
      exact writing_ne_reading
    · rw [Store.state_perform, filling.state]
      exact writing_ne_reading
  acquired := by
    rw [Store.state_perform, filling.state]
    exact fun reading => absurd reading writing_ne_reading
  held := by
    rw [Store.state_perform, filling.state]
    rintro (ready | reading)
    · exact absurd ready writing_ne_ready
    · exact absurd reading writing_ne_reading
  outcomes := permitted_of_mem_append h.outcomes permitted
  takes := h.takes

/-- A claim for a picture is granted, refused for now, or tried again. -/
theorem Owned.write_claim {s : Run} (h : s.Owned) {p : Picture} (at_ : s.writer = .claim p) :
    s.write.Owned := by
  have owns := h.writer
  rw [at_] at owns
  obtain ⟨fits, resting⟩ := owns
  obtain ⟨state, word⟩ := h.word
  cases state with
  | empty =>
      have step := Writer.step_claim_of_empty p word
      rw [← at_] at step
      have free : s.region.header.state ≠ SlotState.reading.raw := by
        rw [word]
        exact raw_ne (by decide)
      rw [write_eq step, at_]
      simpa [Writer.claimed?, Writer.commits] using h.granted false fits resting free
  | ready =>
      have step := Writer.step_claim_of_ready p word
      rw [← at_] at step
      rw [write_eq step, at_]
      simpa [Writer.claimed?, Writer.commits] using
        h.withWriter s.notifier (.reclaim p) none ⟨fits, resting⟩ (by simp)
  | writing => exact absurd word resting.state
  | reading =>
      rw [write_eq (Writer.step_of_reading (.inl at_) word), at_]
      simpa [Writer.claimed?, Writer.commits] using
        h.withWriter s.notifier .idle (some (.ok .busy)) resting (by simp [permitted_ok])

/-- The second claim for a picture likewise. -/
theorem Owned.write_reclaim {s : Run} (h : s.Owned) {p : Picture} (at_ : s.writer = .reclaim p) :
    s.write.Owned := by
  have owns := h.writer
  rw [at_] at owns
  obtain ⟨fits, resting⟩ := owns
  obtain ⟨state, word⟩ := h.word
  cases state with
  | empty =>
      have step := Writer.step_reclaim_of_empty p word
      rw [← at_] at step
      rw [write_eq step, at_]
      simpa [Writer.claimed?, Writer.commits] using
        h.withWriter s.notifier (.claim p) none ⟨fits, resting⟩ (by simp)
  | ready =>
      have step := Writer.step_reclaim_of_ready p word
      rw [← at_] at step
      have free : s.region.header.state ≠ SlotState.reading.raw := by
        rw [word]
        exact raw_ne (by decide)
      rw [write_eq step, at_]
      simpa [Writer.claimed?, Writer.commits] using h.granted true fits resting free
  | writing => exact absurd word resting.state
  | reading =>
      rw [write_eq (Writer.step_of_reading (.inr at_) word), at_]
      simpa [Writer.claimed?, Writer.commits] using
        h.withWriter s.notifier .idle (some (.ok .busy)) resting (by simp [permitted_ok])

/-- A store is followed by the next one, and the last one by the commit. -/
theorem Owned.write_store {s : Run} (h : s.Owned) {p : Picture} {replacing : Bool} {what : Store}
    (at_ : s.writer = .store p replacing what) : s.write.Owned := by
  have owns := h.writer
  rw [at_] at owns
  obtain ⟨filling, due, counted⟩ := owns
  cases follows : what.next? p.data.length with
  | some next =>
      have step := Writer.step_store_of_next (c := s.toChannel) replacing follows
      rw [← at_] at step
      rw [write_eq step, at_]
      simpa [Writer.claimed?, Writer.commits] using
        h.stored filling (w := .store p replacing next) none ⟨filling.perform what,
          Store.due_perform due follows, (Store.sequence_perform follows).trans counted⟩ (by simp)
  | none =>
      by_cases counts : s.region.Countable
      · have step := Writer.step_store_of_countable replacing follows counts
        rw [← at_] at step
        have holds : (what.perform p s.region).Holds p s.claims.length := by
          rw [← filling.committed]
          exact Store.holds_perform due follows counted
        rw [write_eq step, at_]
        simpa [Writer.claimed?, Writer.commits] using
          h.stored filling (w := .commit p replacing) none ⟨filling.perform what, holds⟩ (by simp)
      · have step := Writer.step_store_of_uncountable replacing follows counts
        rw [← at_] at step
        have many := filling.size_le_of_uncountable counted counts
        rw [write_eq step, at_]
        simpa [Writer.claimed?, Writer.commits] using
          h.stored filling (w := .stopped) (some (.error .overflow))
            ⟨(filling.perform what).state, many⟩ (by rintro o ⟨⟩; exact ⟨nofun, fun _ => many⟩)

/-- The commit hands the picture to whoever claims the slot next. -/
theorem Owned.committed_ready {s : Run} (h : s.Owned) {p : Picture} {w : Writer}
    (filling : Filling s.region s.claims s.committed p)
    (holds : s.region.Holds p s.claims.length) (finished : w = .idle ∨ w = .signal)
    (result : Option PublishResult) (permitted : ∀ o, result = some o → Permitted s.claims o) :
    Owned { s with
      region := { s.region with header := { s.region.header with state := SlotState.ready.raw } }
      writer := w
      committed := s.claims.length
      outcomes := s.outcomes ++ result.toList } where
  word := ⟨.ready, rfl⟩
  writer := by
    rcases finished with rfl | rfl <;> exact ⟨writing_ne_ready.symm, holds.sequence, rfl⟩
  reader := by
    refine h.reader.of_free ?_ (raw_ne (a := .ready) (b := .reading) (by decide))
    rw [filling.state]
    exact writing_ne_reading
  acquired := fun reading => absurd reading (raw_ne (a := .ready) (b := .reading) (by decide))
  held := by
    intro _
    have last : s.claims[s.claims.length - 1]? = some p := by
      rw [← filling.committed, Nat.add_sub_cancel]
      exact filling.last
    have positive : 0 < s.claims.length := by
      rw [← filling.committed]
      exact Nat.succ_pos _
    exact ⟨p, positive, last, filling.fits, holds.withState _⟩
  outcomes := permitted_of_mem_append h.outcomes permitted
  takes := h.takes

/-- A commit ends the call where a picture was replaced, and otherwise leaves the reader to be told. -/
theorem Owned.write_commit {s : Run} (h : s.Owned) {p : Picture} {replacing : Bool}
    (at_ : s.writer = .commit p replacing) : s.write.Owned := by
  have owns := h.writer
  rw [at_] at owns
  obtain ⟨filling, holds⟩ := owns
  cases replacing with
  | true =>
      have step := Writer.step_commit_of_replacing p filling.state
      rw [← at_] at step
      rw [write_eq step, at_]
      simpa [Writer.claimed?, Writer.commits] using
        h.committed_ready filling holds (Or.inl rfl) (some (.ok .replaced))
          (by simp [permitted_ok])
  | false =>
      have step := Writer.step_commit_of_filling p filling.state
      rw [← at_] at step
      rw [write_eq step, at_]
      simpa [Writer.claimed?, Writer.commits] using
        h.committed_ready filling holds (Or.inr rfl) none (by simp)

/-- Telling about a picture ends the call, also where the counter has no room for it. -/
theorem Owned.write_signal {s : Run} (h : s.Owned) (at_ : s.writer = .signal) : s.write.Owned := by
  have resting := h.writer
  rw [at_] at resting
  by_cases room : Writer.Room s.notifier
  · have step := Writer.step_signal_of_room room
    rw [← at_] at step
    rw [write_eq step, at_]
    simpa [Writer.claimed?, Writer.commits] using
      h.withWriter _ .idle (some (.ok .published)) resting (by simp [permitted_ok])
  · have step := Writer.step_signal_of_full room
    rw [← at_] at step
    rw [write_eq step, at_]
    simpa [Writer.claimed?, Writer.commits] using
      h.withWriter s.notifier .idle (some (.error (.protocol .saturated))) resting
        (by rintro o ⟨⟩; exact ⟨by rintro fault ⟨⟩; rfl, nofun⟩)

/-- A producer that is in no call, or that stopped, makes no access. -/
theorem write_of_over {s : Run} (finished : s.writer = .idle ∨ s.writer = .stopped) : s.write = s := by
  rcases finished with at_ | at_
  · have step : s.writer.step s.toChannel = (.idle, s.toChannel, none) := by rw [at_]; rfl
    rw [write_eq step, at_]
    simp [Writer.claimed?, Writer.commits, ← at_]
  · have step : s.writer.step s.toChannel = (.stopped, s.toChannel, none) := by rw [at_]; rfl
    rw [write_eq step, at_]
    simp [Writer.claimed?, Writer.commits, ← at_]

/-- **The producer's accesses keep the invariant.** -/
theorem Owned.write {s : Run} (h : s.Owned) : s.write.Owned := by
  cases at_ : s.writer with
  | idle => rwa [write_of_over (.inl at_)]
  | claim p => exact h.write_claim at_
  | reclaim p => exact h.write_reclaim at_
  | store p replacing what => exact h.write_store at_
  | commit p replacing => exact h.write_commit at_
  | signal => exact h.write_signal at_
  | stopped => rwa [write_of_over (.inr at_)]

end Run

end FrameMux.Slot
