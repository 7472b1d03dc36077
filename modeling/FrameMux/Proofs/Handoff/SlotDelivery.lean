/-
**Frames that are taken.**

The reader's accesses keep the slot's owners apart as the producer's do, so the invariant holds
throughout every schedule.  What a call to take returns is then one picture as a whole, and the one
that was committed last when the call claimed the slot.  A call to publish tells about a picture after
it committed it, so it may still end in a violation: nothing but draining makes room in the counter.

Main definitions:

* `FrameMux.Slot.Undrained` — what some pictures leave that were taken while nobody drained.

Main results:

* `FrameMux.Slot.Run.Owned.read` — every access of the reader keeps the invariant;
* `FrameMux.Slot.Run.Owned.turns` — **the invariant holds throughout every schedule**;
* `FrameMux.Slot.Run.Owned.turn_violates_iff` — the one access that ends in a violation;
* `FrameMux.Slot.Run.taken_whole_and_latest` — no torn frame, no stale frame, no other violation;
* `FrameMux.Slot.Run.exists_turns_publish`, `FrameMux.Slot.Run.exists_turns_take` — an undisturbed call
  is a schedule;
* `FrameMux.Slot.Run.violation_of_publishing` — publishing and taking are enough for a violation.
-/

import FrameMux.Proofs.Handoff.SlotOwnership

set_option relaxedAutoImplicit false
set_option autoImplicit false

namespace FrameMux.Slot

/-! ### The reader's accesses -/

/-- A frame of which some bytes were copied is copied further, or done. -/
theorem Reader.owns_copyRest {r : Region} {part : SlotFrame} {k : Nat}
    (state : r.header.state = SlotState.reading.raw) (le : k ≤ r.header.nbytes.toNat)
    (copied : part = { r.heldFrame with data := (List.range k).map r.byteAt }) :
    (copyRest r.header.nbytes part).Owns r := by
  have length : part.data.length = k := by simp [copied]
  unfold copyRest
  split
  · next more => exact ⟨state, rfl, k, by omega, copied⟩
  · next full =>
      have all : k = r.header.nbytes.toNat := by omega
      refine ⟨state, ?_⟩
      rw [copied, all, ← Region.readPayload_eq_map]
      rfl

/-- A producer that does not hold the slot relies on nothing but that. -/
theorem Writer.Owns.withState {r : Region} {claims : List Picture} {committed : Nat} {w : Writer}
    (h : w.Owns r claims committed) (free : r.header.state ≠ SlotState.writing.raw) {state : UInt32}
    (free' : state ≠ SlotState.writing.raw) :
    w.Owns { r with header := { r.header with state } } claims committed := by
  cases w with
  | idle => exact ⟨free', h.sequence, h.committed⟩
  | claim p => exact ⟨h.1, free', h.2.sequence, h.2.committed⟩
  | reclaim p => exact ⟨h.1, free', h.2.sequence, h.2.committed⟩
  | store p replacing what => exact absurd h.1.state free
  | commit p replacing => exact absurd h.1.state free
  | signal => exact ⟨free', h.sequence, h.committed⟩
  | stopped => exact absurd h.1 free

namespace Run

/-- The run after an access of the reader. -/
theorem read_eq {s : Run} {q : Reader} {r : Region} {result : Option TakeResult}
    (h : s.reader.step s.region = (q, r, result)) :
    s.read = { s with
      reader := q
      region := r
      acquired := if s.reader.acquires q then s.committed else s.acquired
      takes := s.takes ++
        (result.map fun t =>
          (t, if s.reader.acquires q then s.committed else s.acquired)).toList } := by
  simp only [read, h]

/-- An access of the reader that leaves the region alone only moves its call on. -/
theorem Owned.withReader {s : Run} (h : s.Owned) {q : Reader} (owns : q.Owns s.region) :
    Owned { s with reader := q } where
  word := h.word
  writer := h.writer
  reader := owns
  acquired := h.acquired
  held := h.held
  outcomes := h.outcomes
  takes := h.takes

/-- A call to take that finds no frame ends with nothing. -/
theorem Owned.foundNothing {s : Run} (h : s.Owned)
    (state : s.region.header.state ≠ SlotState.reading.raw) :
    Owned { s with reader := .idle, takes := s.takes ++ [(.ok none, s.acquired)] } where
  word := h.word
  writer := h.writer
  reader := state
  acquired := h.acquired
  held := h.held
  outcomes := h.outcomes
  takes := by
    intro t ht
    rcases List.mem_append.1 ht with old | new
    · exact h.takes t old
    · exact Or.inl (by rw [List.mem_singleton.1 new])

/-- A ready slot becomes the reader's; in any other state there is nothing to take. -/
theorem Owned.read_claim {s : Run} (h : s.Owned) (at_ : s.reader = .claim) : s.read.Owned := by
  obtain ⟨state, word⟩ := h.word
  by_cases ready : state = .ready
  · subst ready
    have step : s.reader.step s.region = (.nbytes,
        { s.region with header := { s.region.header with state := SlotState.reading.raw } },
        none) := by
      rw [at_]
      simp only [Reader.step, Header.transition, if_pos word]
    have free : s.region.header.state ≠ SlotState.writing.raw := by
      rw [word]
      exact writing_ne_ready.symm
    rw [read_eq step, at_]
    simp only [Reader.acquires, Option.map_none, Option.toList_none, List.append_nil, if_true]
    obtain ⟨p, positive, number, fits, holds⟩ := h.held (Or.inl word)
    exact {
      word := ⟨.reading, rfl⟩
      writer := h.writer.withState free writing_ne_reading.symm
      reader := rfl
      acquired := fun _ => rfl
      held := fun _ => ⟨p, positive, number, fits, holds.withState _⟩
      outcomes := h.outcomes
      takes := h.takes }
  · have unready : s.region.header.state ≠ SlotState.ready.raw := by
      rw [word]
      exact raw_ne ready
    have step : s.reader.step s.region = (.idle, s.region, some (.ok none)) := by
      rw [at_]
      simp only [Reader.step, Header.transition, if_neg unready]
      rw [word, SlotState.ofRaw?_raw]
      rfl
    have owns := h.reader
    rw [at_] at owns
    rw [read_eq step, at_]
    simpa [Reader.acquires] using h.foundNothing owns

/-- While the reader holds the slot, its header describes a picture that fits. -/
theorem Owned.fits {s : Run} (h : s.Owned)
    (state : s.region.header.state = SlotState.reading.raw) :
    ¬ s.region.payloadCapacity < s.region.header.nbytes := by
  obtain ⟨p, -, -, fits, holds⟩ := h.held (Or.inr state)
  rw [holds.nbytes, fits, UInt64.ofNat_toNat]
  exact UInt64.lt_irrefl _

/-- Handing the slot back delivers the picture that was committed last. -/
theorem Owned.read_release {s : Run} (h : s.Owned) {frame : SlotFrame}
    (at_ : s.reader = .release frame) : s.read.Owned := by
  have owns := h.reader
  rw [at_] at owns
  obtain ⟨state, described⟩ := owns
  obtain ⟨p, positive, number, fits, holds⟩ := h.held (Or.inr state)
  have step : s.reader.step s.region = (.idle,
      { s.region with header := { s.region.header with state := SlotState.empty.raw } },
      some (.ok (some frame))) := by
    rw [at_]
    simp only [Reader.step, Header.transition, if_pos state]
  have free : s.region.header.state ≠ SlotState.writing.raw := by
    rw [state]
    exact writing_ne_reading.symm
  have whole : frame = ⟨p.data, p.width, p.height, UInt64.ofNat s.committed⟩ := by
    rw [described]
    refine holds.heldFrame ?_
    rw [fits]
    exact s.region.payloadCapacity.toNat_lt
  rw [read_eq step, at_]
  simp only [Reader.acquires, Option.map_some, Option.toList_some]
  exact {
    word := ⟨.empty, rfl⟩
    writer := h.writer.withState free (raw_ne (a := .empty) (b := .writing) (by decide))
    reader := raw_ne (a := .empty) (b := .reading) (by decide)
    acquired := fun reading => absurd reading (raw_ne (a := .empty) (b := .reading) (by decide))
    held := by
      rintro (ready | reading)
      · exact absurd ready (raw_ne (a := .empty) (b := .ready) (by decide))
      · exact absurd reading (raw_ne (a := .empty) (b := .reading) (by decide))
    outcomes := h.outcomes
    takes := by
      intro t ht
      rcases List.mem_append.1 ht with old | new
      · exact h.takes t old
      · obtain rfl := List.mem_singleton.1 new
        refine Or.inr ⟨frame, p, rfl, ?_, ?_, ?_, ?_⟩
        · simpa [h.acquired state] using positive
        · simpa [h.acquired state] using number
        · rw [whole]
          rfl
        · simp [whole, h.acquired state] }

/-- An access that only loads keeps the invariant. -/
theorem Owned.read_load {s : Run} (h : s.Owned) {q : Reader}
    (step : s.reader.step s.region = (q, s.region, none)) (owns : q.Owns s.region)
    (loads : s.reader.acquires q = false) : s.read.Owned := by
  rw [read_eq step, loads]
  simpa using h.withReader owns

/-- **The reader's accesses keep the invariant.** -/
theorem Owned.read {s : Run} (h : s.Owned) : s.read.Owned := by
  have owns := h.reader
  cases at_ : s.reader with
  | idle =>
      rw [at_] at owns
      exact h.read_load (by rw [at_]; rfl) owns (by rw [at_]; rfl)
  | claim => exact h.read_claim at_
  | nbytes =>
      rw [at_] at owns
      exact h.read_load (q := .width s.region.header.nbytes) (by rw [at_]; rfl) ⟨owns, rfl⟩
        (by rw [at_]; rfl)
  | width n =>
      rw [at_] at owns
      exact h.read_load (q := .height n s.region.header.width) (by rw [at_]; rfl)
        ⟨owns.1, owns.2, rfl⟩ (by rw [at_]; rfl)
  | height n w =>
      rw [at_] at owns
      obtain ⟨state, rfl, rfl⟩ := owns
      refine h.read_load (q := .sequence s.region.header.nbytes s.region.header.width
        s.region.header.height) ?_ ⟨state, rfl, rfl, rfl⟩ (by rw [at_]; rfl)
      rw [at_]
      simp only [Reader.step]
      rw [if_neg (h.fits state)]
  | sequence n w k =>
      rw [at_] at owns
      obtain ⟨state, rfl, rfl, rfl⟩ := owns
      refine h.read_load (by rw [at_]; rfl)
        (Reader.owns_copyRest (k := 0) state (Nat.zero_le _) rfl) ?_
      rw [at_]
      rfl
  | copy n part =>
      rw [at_] at owns
      obtain ⟨state, rfl, k, below, copied⟩ := owns
      have length : part.data.length = k := by simp [copied]
      refine h.read_load (by rw [at_]; rfl)
        (Reader.owns_copyRest (k := k + 1) state below ?_) ?_
      · rw [length, copied, List.range_succ, List.map_append]
        rfl
      · rw [at_]
        rfl
  | release frame => exact h.read_release at_
  | clear fault =>
      rw [at_] at owns
      exact owns.elim

/-! ### Schedules -/

/-- Others at the counter are in nobody's way. -/
theorem Owned.withNotifier {s : Run} (h : s.Owned) (notifier : Notifier) :
    Owned { s with notifier } :=
  ⟨h.word, h.writer, h.reader, h.acquired, h.held, h.outcomes, h.takes⟩

/-- **Whatever happens next keeps the invariant.** -/
theorem Owned.turn {s : Run} (h : s.Owned) (t : Turn) : (s.turn t).Owned := by
  cases t with
  | publish p =>
      simp only [Run.turn]
      split
      · next idle =>
          have owns := h.writer
          rw [idle] at owns
          unfold Writer.start
          split
          · exact h.withWriter s.notifier .idle (some (.error _)) owns
              (by rintro o ⟨⟩; exact ⟨nofun, nofun⟩)
          · next fits =>
              exact h.withWriter s.notifier (.claim p) none ⟨Decidable.not_not.1 fits, owns⟩
                (by simp)
      · exact h
  | write => exact h.write
  | take =>
      simp only [Run.turn]
      split
      · next idle =>
          have owns := h.reader
          rw [idle] at owns
          exact h.withReader (q := .claim) owns
      · exact h
  | read => exact h.read
  | drain => exact h.withNotifier _
  | announce mask => exact h.withNotifier _

/-- Nobody holds an initialised slot. -/
theorem owned_start (r : Region) (n : Notifier) : (start ⟨r.initialise, n⟩).Owned where
  word := ⟨.empty, rfl⟩
  writer := ⟨raw_ne (a := .empty) (b := .writing) (by decide), rfl, rfl⟩
  reader := raw_ne (a := .empty) (b := .reading) (by decide)
  acquired := fun _ => rfl
  held := by
    rintro (ready | reading)
    · exact absurd ready (raw_ne (a := .empty) (b := .ready) (by decide))
    · exact absurd reading (raw_ne (a := .empty) (b := .reading) (by decide))
  outcomes := fun o ho => absurd ho List.not_mem_nil
  takes := fun t ht => absurd ht List.not_mem_nil

/-- **The invariant holds throughout every schedule.** -/
theorem Owned.turns {s : Run} (h : s.Owned) (l : List Turn) : (s.turns l).Owned := by
  induction l generalizing s with
  | nil => exact h
  | cons t rest ih => exact ih (h.turn t)

/-- The producer stores only while the slot is its own. -/
theorem Owned.writing_of_stores {s : Run} (h : s.Owned) (stores : s.writer.stores = true) :
    s.region.header.state = SlotState.writing.raw := by
  have owns := h.writer
  cases at_ : s.writer with
  | store p replacing what =>
      rw [at_] at owns
      exact owns.1.state
  | idle | claim p | reclaim p | commit p replacing | signal | stopped =>
      rw [at_] at stores
      cases stores

/-- The reader loads only while the slot is its own. -/
theorem Owned.reading_of_loads {s : Run} (h : s.Owned) (loads : s.reader.loads = true) :
    s.region.header.state = SlotState.reading.raw := by
  have owns := h.reader
  cases at_ : s.reader with
  | nbytes => rw [at_] at owns; exact owns
  | width n => rw [at_] at owns; exact owns.1
  | height n w => rw [at_] at owns; exact owns.1
  | sequence n w k => rw [at_] at owns; exact owns.1
  | copy n part => rw [at_] at owns; exact owns.1
  | idle | claim | release frame | clear fault => rw [at_] at loads; cases loads

/-- **An access ends the producer's call in a violation exactly when** it tells about a picture and the
counter has no room. -/
theorem Owned.violates_iff {s : Run} (h : s.Owned) (fault : ProtocolFault) :
    (s.writer.step s.toChannel).2.2 = some (.error (.protocol fault)) ↔
      s.writer = .signal ∧ ¬ Writer.Room s.notifier ∧ fault = .saturated := by
  have owns := h.writer
  obtain ⟨state, word⟩ := h.word
  cases at_ : s.writer with
  | idle | stopped => simp [Writer.step]
  | claim p =>
      rw [at_] at owns
      cases state with
      | empty => simp [Writer.step_claim_of_empty p word]
      | ready => simp [Writer.step_claim_of_ready p word]
      | writing => exact absurd word owns.2.state
      | reading => simp [Writer.step_of_reading (.inl rfl) word]
  | reclaim p =>
      rw [at_] at owns
      cases state with
      | empty => simp [Writer.step_reclaim_of_empty p word]
      | ready => simp [Writer.step_reclaim_of_ready p word]
      | writing => exact absurd word owns.2.state
      | reading => simp [Writer.step_of_reading (.inr rfl) word]
  | store p replacing what =>
      cases follows : what.next? p.data.length with
      | some next => simp [Writer.step_store_of_next replacing follows]
      | none =>
          by_cases counts : s.region.Countable
          · simp [Writer.step_store_of_countable replacing follows counts]
          · simp [Writer.step_store_of_uncountable replacing follows counts]
  | commit p replacing =>
      rw [at_] at owns
      cases replacing with
      | true => simp [Writer.step_commit_of_replacing p owns.1.state]
      | false => simp [Writer.step_commit_of_filling p owns.1.state]
  | signal =>
      by_cases room : Writer.Room s.notifier
      · simp [Writer.step_signal_of_room room, room]
      · simp [Writer.step_signal_of_full room, room, eq_comm]

/-- What an access of the producer adds to the results is the result of its call, if it ends it. -/
theorem outcomes_write (s : Run) :
    s.write.outcomes = s.outcomes ++ (s.writer.step s.toChannel).2.2.toList := rfl

/-- Lists that go on from one list by one more element or by none. -/
theorem append_toList_eq_append_singleton_iff {α : Type} (l : List α) (o : Option α) (a : α) :
    l ++ o.toList = l ++ [a] ↔ o = some a := by
  cases o <;> simp

/-- **A turn ends in a violation exactly when** it is the producer's access that tells about a picture
and the counter has no room. -/
theorem Owned.turn_violates_iff {s : Run} (h : s.Owned) (t : Turn) (fault : ProtocolFault) :
    (s.turn t).outcomes = s.outcomes ++ [.error (.protocol fault)] ↔
      t = .write ∧ s.writer = .signal ∧ ¬ Writer.Room s.notifier ∧ fault = .saturated := by
  cases t with
  | write =>
      rw [Run.turn, outcomes_write, append_toList_eq_append_singleton_iff, h.violates_iff]
      simp
  | publish p =>
      simp only [Run.turn]
      split
      · unfold Writer.start
        split <;> simp
      · simp
  | take =>
      simp only [Run.turn]
      split <;> simp
  | read | drain | announce mask => simp [Run.turn, Run.read]

/-- What is still to be told about is committed, and telling leaves the region alone. -/
theorem Owned.write_signal_frame {s : Run} (h : s.Owned) (at_ : s.writer = .signal) :
    s.committed = s.claims.length ∧ s.write.region = s.region ∧ s.write.claims = s.claims ∧
      s.write.committed = s.committed := by
  have resting := h.writer
  rw [at_] at resting
  refine ⟨resting.committed, ?_⟩
  by_cases room : Writer.Room s.notifier
  · have step := Writer.step_signal_of_room room
    rw [← at_] at step
    rw [write_eq step, at_]
    exact ⟨rfl, List.append_nil _, rfl⟩
  · have step := Writer.step_signal_of_full room
    rw [← at_] at step
    rw [write_eq step, at_]
    exact ⟨rfl, List.append_nil _, rfl⟩

/-- A producer and a reader share an initialised slot under any schedule of their accesses, with
fewer than `2 ^ 64` pictures claiming it, and whatever is done to the counter meanwhile.  The state
word always names a state; the producer stores only while it says `writing`, the reader loads only
while it says `reading`.  A call to take never fails, and a call to publish is never stopped.  It ends
in a violation **exactly when it tells about a picture that it committed into an empty slot and the
counter has no room**; the picture stays committed.  And **every frame that is taken is one picture as
a whole**: the one that was committed last when the reader claimed the slot, with its number among the
pictures that claimed the slot. -/
theorem taken_whole_and_latest (r : Region) (n : Notifier) (l : List Turn) (s : Run)
    (reached : s = (start ⟨r.initialise, n⟩).turns l) (few : s.claims.length < UInt64.size) :
    (∃ state : SlotState, s.region.header.state = state.raw) ∧
    (s.writer.stores = true → s.region.header.state = SlotState.writing.raw) ∧
    (s.reader.loads = true → s.region.header.state = SlotState.reading.raw) ∧
    (∀ t fault, (s.turn t).outcomes = s.outcomes ++ [.error (.protocol fault)] ↔
      t = .write ∧ s.writer = .signal ∧
        Notifier.limit ≤ s.notifier.counter.toNat + 8 ∧ fault = .saturated) ∧
    (s.writer = .signal → s.committed = s.claims.length ∧ s.write.region = s.region ∧
      s.write.claims = s.claims ∧ s.write.committed = s.committed) ∧
    (∀ result ∈ s.outcomes, ∀ fault, result = .error (.protocol fault) → fault = .saturated) ∧
    (s.writer ≠ .stopped ∧ .error .overflow ∉ s.outcomes) ∧
    (∀ t ∈ s.takes, ∀ e, t.1 ≠ .error e) ∧
    (∀ t ∈ s.takes, ∀ f, t.1 = .ok (some f) →
      0 < t.2 ∧ s.claims[t.2 - 1]? = some f.picture ∧ f.sequence.toNat = t.2) := by
  have h : s.Owned := reached ▸ (owned_start r n).turns l
  refine ⟨h.word, h.writing_of_stores, h.reading_of_loads, ?_, h.write_signal_frame,
    fun result hr => (h.outcomes result hr).saturated, ⟨?_, ?_⟩, ?_, ?_⟩
  · intro t fault
    rw [h.turn_violates_iff, Writer.Room, Nat.not_lt]
  · intro stopped
    have owns := h.writer
    rw [stopped] at owns
    exact absurd owns.2 (Nat.not_le.2 few)
  · intro overflow
    exact absurd ((h.outcomes _ overflow).counted rfl) (Nat.not_le.2 few)
  · intro t ht e failed
    rcases h.takes t ht with nothing | ⟨f, p, taken, -⟩
    · rw [nothing] at failed
      cases failed
    · rw [taken] at failed
      cases failed
  · intro t ht f taken
    rcases h.takes t ht with nothing | ⟨g, p, taken', positive, number, picture, sequence⟩
    · rw [nothing] at taken
      cases taken
    · obtain rfl : g = f := by
        rw [taken] at taken'
        exact (Option.some.inj (Except.ok.inj taken')).symm
      have inside := (List.getElem?_eq_some_iff.1 number).1
      refine ⟨positive, by rw [number, picture], ?_⟩
      rw [sequence, UInt64.toNat_ofNat']
      refine Nat.mod_eq_of_lt ?_
      simp only [UInt64.size] at few
      omega

/-- A schedule: the second picture is refused because the reader claims the slot in between, and the
first one is taken byte by byte. -/
def raced : List Turn :=
  .publish ⟨[7, 9], 1, 2⟩ :: List.replicate 9 .write ++
    [.publish ⟨[3, 5], 1, 2⟩, .write, .take, .read, .write] ++ List.replicate 7 .read

/-- What is taken in it is the first picture, under the first number. -/
theorem taken_whole_and_latest_raced :
    ((start ⟨(Region.zeroed 66).initialise, .fresh⟩).turns raced).outcomes =
      [.ok .published, .ok .busy] ∧
    ((start ⟨(Region.zeroed 66).initialise, .fresh⟩).turns raced).takes =
      [(.ok (some ⟨[7, 9], 1, 2, 1⟩), 1)] ∧
    ((start ⟨(Region.zeroed 66).initialise, .fresh⟩).turns raced).claims[0]? =
      some ⟨[7, 9], 1, 2⟩ := by
  have few : ((start ⟨(Region.zeroed 66).initialise, .fresh⟩).turns raced).claims.length <
      UInt64.size := by decide
  have takes : ((start ⟨(Region.zeroed 66).initialise, .fresh⟩).turns raced).takes =
      [(.ok (some ⟨[7, 9], 1, 2, 1⟩), 1)] := rfl
  obtain ⟨-, -, -, -, -, -, -, -, whole⟩ :=
    taken_whole_and_latest (Region.zeroed 66) .fresh raced _ rfl few
  obtain ⟨-, claimed, -⟩ := whole (.ok (some ⟨[7, 9], 1, 2, 1⟩), 1)
    (by rw [takes]; exact List.mem_singleton_self _) _ rfl
  exact ⟨rfl, takes, claimed⟩

/-! ### A counter that nobody drains -/

end Run

namespace Writer

/-- How often a call to publish may still claim the slot. -/
def claimsLeft : Writer → Nat
  | claim _ | reclaim _ => 1
  | _ => 0

theorem claimsLeft_step {w w' : Writer} {c c' : Channel} {result : Option PublishResult}
    (step : w.step c = (w', c', result)) :
    (w.claimed? w').toList.length + w'.claimsLeft ≤ w.claimsLeft := by
  cases w with
  | claim p | reclaim p => cases w' <;> simp [claimed?, claimsLeft]
  | store p replacing what =>
      simp only [Writer.step] at step
      split at step
      · cases step
        simp [claimed?, claimsLeft]
      · split at step <;> cases step <;> simp [claimed?, claimsLeft]
  | commit p replacing =>
      simp only [Writer.step] at step
      split at step
      · split at step <;> cases step <;> simp [claimed?, claimsLeft]
      · cases step
        simp [claimed?, claimsLeft]
  | signal =>
      simp only [Writer.step] at step
      split at step <;> cases step <;> simp [claimed?, claimsLeft]
  | idle | stopped =>
      cases step
      simp [claimed?, claimsLeft]

/-- A call that ends leaves its producer idle, or stops it. -/
theorem idle_of_result {w w' : Writer} {c c' : Channel} {result : PublishResult}
    (step : w.step c = (w', c', some result)) : w' = .idle ∨ result = .error .overflow := by
  cases w with
  | claim p | reclaim p =>
      simp only [Writer.step] at step
      split at step
      · cases step
      · split at step
        · cases step
          exact Or.inl rfl
        · split at step <;> cases step
          exact Or.inl rfl
  | store p replacing what =>
      simp only [Writer.step] at step
      split at step
      · cases step
      · split at step <;> cases step
        exact Or.inr rfl
  | commit p replacing =>
      simp only [Writer.step] at step
      split at step
      · split at step <;> cases step
        exact Or.inl rfl
      · cases step
        exact Or.inl rfl
  | signal =>
      simp only [Writer.step] at step
      split at step <;> cases step <;> exact Or.inl rfl
  | idle | stopped => cases step

end Writer

/-- A call to take that ends leaves the reader idle. -/
theorem Reader.idle_of_result {q q' : Reader} {r r' : Region} {result : TakeResult}
    (step : q.step r = (q', r', some result)) : q' = .idle := by
  cases q with
  | claim =>
      simp only [Reader.step] at step
      split at step
      · cases step
      · split at step <;> cases step
        rfl
  | height n w =>
      simp only [Reader.step] at step
      split at step <;> cases step
  | release frame =>
      simp only [Reader.step] at step
      split at step <;> cases step <;> rfl
  | clear fault =>
      cases step
      rfl
  | idle | nbytes | width n | sequence n w h | copy n part => cases step

namespace Run

/-- The accesses of an undisturbed call to publish, as turns.  They claim the slot once at most. -/
theorem exists_turns_of_writer_alone {w : Writer} {c c' : Channel} {result : PublishResult}
    (alone : w.Alone c result c') {s : Run} (writer : s.writer = w) (channel : s.toChannel = c) :
    ∃ n claims committed w', claims.length ≤ s.claims.length + w.claimsLeft ∧
      (w' = .idle ∨ result = .error .overflow) ∧
      s.turns (List.replicate n .write) = { s with
        toChannel := c', writer := w', claims, committed, outcomes := s.outcomes ++ [result] } := by
  induction alone generalizing s with
  | last step =>
      subst writer channel
      have few := Writer.claimsLeft_step step
      refine ⟨1, _, _, _, ?_, Writer.idle_of_result step, write_eq step⟩
      rw [List.length_append]
      omega
  | more step _ ih =>
      subst writer channel
      have first := write_eq step
      obtain ⟨n, claims, committed, w', few, finished, rest⟩ := ih (s := s.write) (by rw [first])
        (by rw [first])
      refine ⟨n + 1, claims, committed, w', Nat.le_trans few ?_, finished, ?_⟩
      · have := Writer.claimsLeft_step step
        rw [first, List.length_append]
        omega
      · rw [List.replicate_succ, turns, List.foldl_cons]
        show s.write.turns _ = _
        rw [rest, first]
        simp

/-- The accesses of an undisturbed call to take, as turns. -/
theorem exists_turns_of_reader_alone {q : Reader} {r r' : Region} {result : TakeResult}
    (alone : q.Alone r result r') {s : Run} (reader : s.reader = q) (region : s.region = r) :
    ∃ n acquired, s.turns (List.replicate n .read) = { s with
      region := r', reader := .idle, acquired, takes := s.takes ++ [(result, acquired)] } := by
  induction alone generalizing s with
  | last step =>
      subst reader region
      obtain rfl := Reader.idle_of_result step
      exact ⟨1, _, read_eq step⟩
  | more step _ ih =>
      subst reader region
      have first := read_eq step
      obtain ⟨n, acquired, rest⟩ := ih (s := s.read) (by rw [first]) (by rw [first])
      refine ⟨n + 1, acquired, ?_⟩
      rw [List.replicate_succ, turns, List.foldl_cons]
      show s.read.turns _ = _
      rw [rest, first]
      simp

end Run

/-- A turn that begins a call or is an access of one: nobody else is at the counter. -/
def Turn.plain : Turn → Bool
  | .drain | .announce _ => false
  | _ => true

namespace Run

/-- A whole call to publish, as turns. -/
theorem exists_turns_publish {s : Run} (p : Picture) (idle : s.writer = .idle)
    (fits : p.data.length = s.region.payloadCapacity.toNat)
    (short : s.region.payload.length ≤ p.data.length)
    (counted : (s.toChannel.publish p.data p.width p.height).1 ≠ .error .overflow) :
    ∃ l claims committed, (∀ t ∈ l, t.plain = true) ∧ claims.length ≤ s.claims.length + 1 ∧
      s.turns l = { s with
        toChannel := (s.toChannel.publish p.data p.width p.height).2, claims, committed
        outcomes := s.outcomes ++ [(s.toChannel.publish p.data p.width p.height).1] } := by
  have begun : s.turn (.publish p) = { s with writer := .claim p } := by
    simp [turn, idle, Writer.start, fits]
  obtain ⟨n, claims, committed, w, few, finished, rest⟩ :=
    exists_turns_of_writer_alone (publish_alone fits short) (s := s.turn (.publish p))
      (by rw [begun]) (by rw [begun])
  obtain rfl := finished.resolve_right counted
  refine ⟨.publish p :: List.replicate n .write, claims, committed, ?_, ?_, ?_⟩
  · intro t ht
    rcases List.mem_cons.1 ht with rfl | later
    · rfl
    · rw [List.eq_of_mem_replicate later]
      rfl
  · simpa [begun, Writer.claimsLeft] using few
  · rw [turns, List.foldl_cons]
    show (s.turn (.publish p)).turns _ = _
    rw [rest, begun, ← idle]

/-- A whole call to take, as turns. -/
theorem exists_turns_take {s : Run} (idle : s.reader = .idle) :
    ∃ l acquired takes, (∀ t ∈ l, t.plain = true) ∧
      s.turns l = { s with toChannel := s.toChannel.take.2, acquired, takes } := by
  have begun : s.turn .take = { s with reader := .claim } := by
    simp [turn, idle]
  obtain ⟨n, acquired, rest⟩ := exists_turns_of_reader_alone (take_alone s.region)
    (s := s.turn .take) (by rw [begun]) (by rw [begun])
  refine ⟨.take :: List.replicate n .read, acquired, s.takes ++ [(s.region.take.1, acquired)],
    ?_, ?_⟩
  · intro t ht
    rcases List.mem_cons.1 ht with rfl | later
    · rfl
    · rw [List.eq_of_mem_replicate later]
      rfl
  · rw [turns, List.foldl_cons]
    show (s.turn .take).turns _ = _
    rw [rest, begun, ← idle]
    rfl

end Run

/-- A picture of one byte. -/
def speck : Picture := ⟨[7], 1, 1⟩

/-- Some specks were put in and taken out, and nobody drained the counter. -/
structure Undrained (k : Nat) (c : Channel) : Prop where
  length : c.region.length = 65
  short : c.region.payload.length ≤ 1
  state : c.region.header.state = SlotState.empty.raw
  sequence : c.region.header.sequence = UInt64.ofNat k
  counter : c.notifier.counter = UInt64.ofNat (8 * k)

namespace Undrained

variable {k : Nat} {c : Channel}

theorem fits (h : Undrained k c) : speck.data.length = c.region.payloadCapacity.toNat := by
  rw [Region.payloadCapacity, h.length]
  rfl

/-- The next speck is put in as a whole, and what is left is to tell about it. -/
theorem publish_eq (h : Undrained k c) (few : 8 * k < UInt64.size) :
    c.publish speck.data speck.width speck.height =
      match c.notifier.signal (.ofEvent .frameWaiting) with
      | .ok notifier => (.ok .published, ⟨c.region.filled speck, notifier⟩)
      | .error e => (.error e, ⟨c.region.filled speck, c.notifier⟩) := by
  have counts : c.region.Countable := by
    simp only [UInt64.size] at few
    rw [Region.Countable, h.sequence, UInt64.toNat_ofNat_of_lt' (by simp only [UInt64.size]; omega)]
    simp only [UInt64.size]
    omega
  cases told : c.notifier.signal (.ofEvent .frameWaiting) <;>
    simp only [Channel.publish, Region.publish_of_empty h.fits h.state counts, told]

/-- While the counter has room, the next speck is published; once it is taken there was one more. -/
theorem step (h : Undrained k c) (room : 8 * (k + 1) < Notifier.limit) :
    (c.publish speck.data speck.width speck.height).1 = .ok .published ∧
      Undrained (k + 1) (c.publish speck.data speck.width speck.height).2.take.2 := by
  simp only [Notifier.limit, UInt64.size] at room
  have told : c.notifier.signal (.ofEvent .frameWaiting) = .ok ⟨UInt64.ofNat (8 * (k + 1))⟩ := by
    refine Notifier.signal_eq_ok_iff.2 ⟨?_, ?_⟩
    · rw [h.counter, UInt64.toNat_ofNat_of_lt' (by simp only [UInt64.size]; omega)]
      show 8 * k + 8 < Notifier.limit
      simp only [Notifier.limit, UInt64.size]
      omega
    · rw [h.counter, Nat.mul_succ, UInt64.ofNat_add]
      rfl
  rw [h.publish_eq (by simp only [UInt64.size]; omega), told]
  refine ⟨rfl, ?_⟩
  rw [Channel.take, Region.take_filled h.fits]
  exact ⟨h.length, Nat.le_refl 1, rfl, (Region.holds_filled speck h.sequence).sequence, rfl⟩

/-- At the limit it is put in, and the call ends in a violation. -/
theorem publish_at_limit (h : Undrained k c) (few : 8 * k < UInt64.size)
    (full : Notifier.limit ≤ 8 * (k + 1)) :
    (c.publish speck.data speck.width speck.height).1 = .error (.protocol .saturated) := by
  have refused : c.notifier.signal (.ofEvent .frameWaiting) = .error (.protocol .saturated) := by
    refine Notifier.signal_of_full ?_
    rw [h.counter, UInt64.toNat_ofNat_of_lt' few]
    exact full
  rw [h.publish_eq few, refused]

end Undrained

namespace Run

/-- As many specks as the counter has room for are put in and taken out. -/
theorem exists_undrained (k : Nat) (room : 8 * k < Notifier.limit) :
    ∃ l, (∀ t ∈ l, t.plain = true) ∧
      ∀ s, s = (start ⟨(Region.zeroed 65).initialise, .fresh⟩).turns l →
        s.writer = .idle ∧ s.reader = .idle ∧ s.claims.length ≤ k ∧ Undrained k s.toChannel := by
  induction k with
  | zero =>
      refine ⟨[], nofun, ?_⟩
      rintro s rfl
      exact ⟨rfl, rfl, Nat.le_refl 0, rfl, Nat.zero_le 1, rfl, rfl, rfl⟩
  | succ k ih =>
      obtain ⟨before, plain, reached⟩ := ih (by omega)
      generalize run : (start ⟨(Region.zeroed 65).initialise, .fresh⟩).turns before = s at reached
      obtain ⟨writer, reader, few, undrained⟩ := reached s rfl
      obtain ⟨published, next⟩ := undrained.step room
      obtain ⟨put, claims, committed, plainPut, few', put_⟩ :=
        exists_turns_publish speck writer undrained.fits undrained.short (by rw [published]; nofun)
      obtain ⟨take, acquired, takes, plainTake, take_⟩ := exists_turns_take (s := s.turns put)
        (by rw [put_]; exact reader)
      refine ⟨before ++ (put ++ take), ?_, ?_⟩
      · intro t ht
        rcases List.mem_append.1 ht with first | later
        · exact plain t first
        · rcases List.mem_append.1 later with put' | take'
          · exact plainPut t put'
          · exact plainTake t take'
      · intro s' hs'
        rw [turns, List.foldl_append, List.foldl_append] at hs'
        change s' = ((turns _ before).turns put).turns take at hs'
        rw [run, take_, put_] at hs'
        subst hs'
        exact ⟨writer, reader, by dsimp only; omega, next⟩

/-- **Nobody has to do more than publish and take for a call to publish to end in a violation**: on a
fresh region with a fresh counter, fewer than `2 ^ 64` pictures are enough. -/
theorem violation_of_publishing : ∃ l : List Turn,
    (∀ t ∈ l, t.plain = true) ∧
    ((start ⟨(Region.zeroed 65).initialise, .fresh⟩).turns l).claims.length < UInt64.size ∧
    .error (.protocol .saturated) ∈
      ((start ⟨(Region.zeroed 65).initialise, .fresh⟩).turns l).outcomes := by
  obtain ⟨before, plain, reached⟩ := exists_undrained (2 ^ 61 - 1) (by decide)
  generalize run : (start ⟨(Region.zeroed 65).initialise, .fresh⟩).turns before = s at reached
  obtain ⟨writer, reader, few, undrained⟩ := reached s rfl
  have refused := undrained.publish_at_limit (by decide) (by decide)
  obtain ⟨put, claims, committed, plainPut, few', put_⟩ :=
    exists_turns_publish speck writer undrained.fits undrained.short (by rw [refused]; nofun)
  refine ⟨before ++ put, ?_, ?_⟩
  · intro t ht
    rcases List.mem_append.1 ht with first | later
    · exact plain t first
    · exact plainPut t later
  · have whole : (start ⟨(Region.zeroed 65).initialise, .fresh⟩).turns (before ++ put) =
        s.turns put := by
      rw [turns, List.foldl_append]
      exact congrArg (List.foldl turn · put) run
    rw [whole, put_, refused]
    refine ⟨?_, by simp⟩
    simp only [UInt64.size]
    show claims.length < _
    omega

end Run

end FrameMux.Slot
