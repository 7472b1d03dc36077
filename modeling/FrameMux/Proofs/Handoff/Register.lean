/-
**The slot as a register for one picture.**

Behind its header, its state words and its compare-and-swaps, the slot is a register: it holds one
picture or none, it may be held by its reader, and it counts what was put in.  This module says so by
a machine of that kind, which knows neither words nor bytes, and by a relation between the two that
every call preserves.  Whatever is asked of the slot and of its counter, in whatever order, the
machine gives the same answers.

Main definitions:

* `FrameMux.SlotCall`, `FrameMux.SlotAnswer` — what is asked of a slot, and what comes of it;
* `FrameMux.Register`, `FrameMux.Register.call` — **the register**;
* `FrameMux.Channel.call` — the slot, asked the same things;
* `FrameMux.Channel.Shows` — **a slot shows a register**;
* `FrameMux.Register.Unsaturated` — the counter never saturates.

Main results:

* `FrameMux.Channel.Shows.call` — every call gets the same answer, and preserves the relation;
* `FrameMux.Channel.Shows.answers` — so does every sequence of calls;
* `FrameMux.Register.after_publishes` — what publishes in a row come to;
* `FrameMux.Channel.fresh_of_create` — a region just made and initialised is a fresh slot;
* `FrameMux.Channel.slot_refines_register` — **a fresh slot is an empty register**, and of pictures
  published in a row it tells once and yields the last.
-/

import FrameMux.Proofs.Handoff.Sizing
import FrameMux.Proofs.Handoff.SlotOwnership
import Mathlib.Data.Nat.Bitwise

set_option relaxedAutoImplicit false
set_option autoImplicit false

namespace FrameMux

/-! ### Calls and answers -/

/-- What is asked of a slot and its counter.  A reader at work claims the slot and finishes with it;
taking is both at once. -/
inductive SlotCall where
  | publish (p : Picture)
  | take
  | published
  | drain
  | claim
  | finish
deriving DecidableEq, Repr

/-- Whether a call leaves the picture in the slot to the producer. -/
def SlotCall.spares : SlotCall → Bool
  | .publish _ | .published | .drain => true
  | .take | .claim | .finish => false

/-- The picture that a call puts into a slot for pictures of a length. -/
def SlotCall.put? (capacity : Nat) : SlotCall → Option Picture
  | .publish p => if p.data.length = capacity then some p else none
  | _ => none

/-- What comes of a call.  Numbers are naturals here, and what is drained is the number of the known
bits. -/
inductive SlotAnswer where
  | ended (how : Except ChannelError PublishOutcome)
  | taken (what : Except ChannelError (Option (Picture × Nat)))
  | counted (number : Nat)
  | drained (events : Option Nat)
  | moved (how : Except UInt32 Unit)
deriving DecidableEq, Repr

section Machines

variable {σ : Type} (call : σ → SlotCall → SlotAnswer × σ)

/-- What a machine answers to some calls. -/
def answersOf : σ → List SlotCall → List SlotAnswer
  | _, [] => []
  | s, a :: l => (call s a).1 :: answersOf (call s a).2 l

/-- The machine after some calls. -/
def afterCalls (s : σ) (l : List SlotCall) : σ := l.foldl (fun s a => (call s a).2) s

end Machines

/-! ### The register -/

/-- A register for one picture of a length, with the number of pictures put in and the counter that
tells about them. -/
structure Register where
  capacity : Nat
  content : Option Picture
  reading : Bool
  count : Nat
  events : Nat
deriving DecidableEq, Repr

namespace Register

/-- A register nobody has put anything in. -/
def fresh (capacity events : Nat) : Register := ⟨capacity, none, false, 0, events⟩

/-- What telling about a frame adds to the counter. -/
def waiting : Nat := 8

/-- The state that a register is in. -/
def state (r : Register) : SlotState :=
  if r.reading then .reading else if r.content.isSome then .ready else .empty

/-- A picture in the place of what was there, and one more counted. -/
def put (r : Register) (p : Picture) : Register :=
  { r with content := some p, count := r.count + 1 }

/-- The register with another counter. -/
def telling (r : Register) (events : Nat) : Register := { r with events := events }

/-- Publishes a picture, unless its length is wrong or the reader is at work.  It is told about if
there was none. -/
def publish (r : Register) (p : Picture) : Except ChannelError PublishOutcome × Register :=
  if p.data.length ≠ r.capacity then (.error (.sizeMismatch r.capacity p.data.length), r)
  else if r.reading then (.ok .busy, r)
  else if r.content = none then (.ok .published, (r.put p).telling (r.events + waiting))
  else (.ok .replaced, r.put p)

/-- Takes the picture out, with the number of those put in so far. -/
def take (r : Register) : Option (Picture × Nat) × Register :=
  if r.reading then (none, r)
  else (r.content.map fun p => (p, r.count), { r with content := none })

/-- The known events of the counter, which is cleared. -/
def drain (r : Register) : Option Nat × Register :=
  (if r.events = 0 then none else some (r.events % 16), r.telling 0)

/-- The reader starts on the picture, if there is one. -/
def claim (r : Register) : Except UInt32 Unit × Register :=
  if r.state = .ready then (.ok (), { r with reading := true }) else (.error r.state.raw, r)

/-- The reader is done with the picture. -/
def finish (r : Register) : Except UInt32 Unit × Register :=
  if r.reading then (.ok (), { r with content := none, reading := false })
  else (.error r.state.raw, r)

/-- A register, asked something. -/
def call (r : Register) : SlotCall → SlotAnswer × Register
  | .publish p => (.ended (r.publish p).1, (r.publish p).2)
  | .take => (.taken (.ok r.take.1), r.take.2)
  | .published => (.counted r.count, r)
  | .drain => (.drained r.drain.1, r.drain.2)
  | .claim => (.moved r.claim.1, r.claim.2)
  | .finish => (.moved r.finish.1, r.finish.2)

/-- The register after some calls. -/
def after (r : Register) (l : List SlotCall) : Register := afterCalls call r l

/-- The counter stays below the greatest word, at every point of some calls. -/
def Unsaturated : Register → List SlotCall → Prop
  | r, [] => r.events < Notifier.limit
  | r, a :: l => r.events < Notifier.limit ∧ Unsaturated (r.call a).2 l

/-- Whether the counter stays below the greatest word can be computed. -/
instance decidableUnsaturated : (r : Register) → (l : List SlotCall) → Decidable (r.Unsaturated l)
  | r, [] => inferInstanceAs (Decidable (r.events < Notifier.limit))
  | r, a :: l =>
      have : Decidable ((r.call a).2.Unsaturated l) := decidableUnsaturated (r.call a).2 l
      inferInstanceAs (Decidable (r.events < Notifier.limit ∧ (r.call a).2.Unsaturated l))

variable {r : Register} {l : List SlotCall} {p : Picture}

theorem Unsaturated.here (h : r.Unsaturated l) : r.events < Notifier.limit := by
  cases l with
  | nil => exact h
  | cons a l => exact h.1

theorem publish_of_length_ne (differs : p.data.length ≠ r.capacity) :
    r.publish p = (.error (.sizeMismatch r.capacity p.data.length), r) := if_pos differs

theorem publish_of_reading (fits : p.data.length = r.capacity) (reading : r.reading = true) :
    r.publish p = (.ok .busy, r) := by
  rw [publish, if_neg (not_not_intro fits), if_pos reading]

theorem publish_of_none (fits : p.data.length = r.capacity) (free : r.reading = false)
    (none : r.content = none) :
    r.publish p = (.ok .published, (r.put p).telling (r.events + waiting)) := by
  simp [publish, fits, free, none]

theorem publish_of_some (fits : p.data.length = r.capacity) (free : r.reading = false) {q : Picture}
    (some_q : r.content = some q) :
    r.publish p = (.ok .replaced, r.put p) := by
  simp [publish, fits, free, some_q]

theorem call_publish_of_fits (fits : p.data.length = r.capacity) (free : r.reading = false) :
    ∃ events, r.call (.publish p) =
      (.ended (.ok (if r.content = none then .published else .replaced)),
        (r.put p).telling events) := by
  cases there : r.content with
  | none =>
      refine ⟨r.events + waiting, ?_⟩
      rw [call, publish_of_none fits free there, if_pos rfl]
  | some q =>
      refine ⟨r.events, ?_⟩
      rw [call, publish_of_some fits free there, if_neg (by simp)]
      rfl

/-- The capacity of a register is final. -/
theorem capacity_after (r : Register) (l : List SlotCall) : (r.after l).capacity = r.capacity := by
  have step (r : Register) (a : SlotCall) : (r.call a).2.capacity = r.capacity := by
    cases a with
    | publish p =>
        simp only [call, publish]
        repeat' split
        all_goals rfl
    | take =>
        simp only [call, take]
        split <;> rfl
    | claim =>
        simp only [call, claim]
        split <;> rfl
    | finish =>
        simp only [call, finish]
        split <;> rfl
    | published | drain => rfl
  induction l generalizing r with
  | nil => rfl
  | cons a l ih => exact (ih (r.call a).2).trans (step r a)

/-- No call takes back that a picture was put in. -/
theorem count_le_call (r : Register) (a : SlotCall) : r.count ≤ (r.call a).2.count := by
  cases a with
  | publish p =>
      simp only [call, publish]
      split
      · exact Nat.le_refl _
      · split
        · exact Nat.le_refl _
        · split <;> exact Nat.le_succ _
  | take =>
      simp only [call, take]
      split <;> exact Nat.le_refl _
  | published => exact Nat.le_refl _
  | drain => exact Nat.le_refl _
  | claim =>
      simp only [call, claim]
      split <;> exact Nat.le_refl _
  | finish =>
      simp only [call, finish]
      split <;> exact Nat.le_refl _

/-- Nor do any number of calls. -/
theorem count_le_after (r : Register) (l : List SlotCall) : r.count ≤ (r.after l).count := by
  induction l generalizing r with
  | nil => exact Nat.le_refl _
  | cons a l ih => exact Nat.le_trans (r.count_le_call a) (ih (r.call a).2)

/-! ### Publishes in a row -/

theorem after_append (r : Register) (l₁ l₂ : List SlotCall) :
    r.after (l₁ ++ l₂) = (r.after l₁).after l₂ := List.foldl_append

/-- The counter that is not saturated in the course of some calls is not in the course of the first of
them. -/
theorem Unsaturated.left {l₁ l₂ : List SlotCall} (h : r.Unsaturated (l₁ ++ l₂)) :
    r.Unsaturated l₁ := by
  induction l₁ generalizing r with
  | nil => exact h.here
  | cons a l₁ ih => exact ⟨h.1, ih h.2⟩

/-- Nor is it in the course of the last of them. -/
theorem Unsaturated.right {l₁ l₂ : List SlotCall} (h : r.Unsaturated (l₁ ++ l₂)) :
    (r.after l₁).Unsaturated l₂ := by
  induction l₁ generalizing r with
  | nil => exact h
  | cons a l₁ ih => exact ih h.2

/-- **What publishes in a row come to** while the reader stays away: the last one that fits is left,
all that fit are counted, and one is told about if there was nothing to replace. -/
theorem after_publishes (free : r.reading = false) (away : ∀ a ∈ l, a.spares = true) :
    (r.after l).reading = false ∧
    (r.after l).content = (l.filterMap (SlotCall.put? r.capacity)).getLast?.or r.content ∧
    (r.after l).count = r.count + (l.filterMap (SlotCall.put? r.capacity)).length ∧
    (answersOf call r l).count (.ended (.ok .published)) =
      if r.content = none ∧ l.filterMap (SlotCall.put? r.capacity) ≠ [] then 1 else 0 := by
  induction l generalizing r with
  | nil => simp [after, afterCalls, answersOf, free]
  | cons a l ih =>
      have away' : ∀ b ∈ l, b.spares = true := by
        intro b among
        exact away b (List.mem_cons_of_mem a among)
      show (Register.after (r.call a).2 l).reading = false ∧
        (Register.after (r.call a).2 l).content = _ ∧ (Register.after (r.call a).2 l).count = _ ∧
        ((r.call a).1 :: answersOf call (r.call a).2 l).count _ = _
      cases a with
      | publish p =>
          by_cases fits : p.data.length = r.capacity
          · obtain ⟨events, step⟩ := call_publish_of_fits fits free
            obtain ⟨free', content, count, told⟩ :=
              @ih ((r.put p).telling events) free away'
            have first : (SlotCall.publish p :: l).filterMap (SlotCall.put? r.capacity) =
                p :: l.filterMap (SlotCall.put? r.capacity) :=
              List.filterMap_cons_some (if_pos fits)
            rw [step, first]
            refine ⟨free', content.trans ?_, count.trans ?_, ?_⟩
            · rw [List.getLast?_cons]
              show (l.filterMap (SlotCall.put? r.capacity)).getLast?.or (some p) = _
              cases (l.filterMap (SlotCall.put? r.capacity)).getLast? <;> rfl
            · exact Nat.add_right_comm r.count 1 _
            · rw [List.count_cons, told]
              by_cases none : r.content = none <;> simp [none, put, telling]
          · have step : r.call (.publish p) =
                (.ended (.error (.sizeMismatch r.capacity p.data.length)), r) := by
              rw [call, publish_of_length_ne fits]
            rw [step, List.filterMap_cons_none (by simp [SlotCall.put?, fits]),
              List.count_cons_of_ne (by simp)]
            exact ih free away'
      | published =>
          rw [List.count_cons_of_ne (by simp [call])]
          exact ih free away'
      | drain =>
          rw [List.count_cons_of_ne (by simp [call])]
          exact @ih (r.telling 0) free away'
      | take | claim | finish => cases away _ List.mem_cons_self

end Register

/-! ### The slot -/

namespace Channel

/-- A picture published into an empty slot is told about. -/
theorem publish_of_empty {c : Channel} {p : Picture}
    (fits : p.data.length = c.region.payloadCapacity.toNat)
    (empty : c.region.header.state = SlotState.empty.raw) (counts : c.region.Countable)
    (unsaturated : c.notifier.counter.toNat + 8 < Notifier.limit) :
    c.publish p.data p.width p.height =
      (.ok .published, ⟨c.region.filled p, ⟨c.notifier.counter + 8⟩⟩) := by
  have signalled : c.notifier.signal (.ofEvent .frameWaiting) = .ok ⟨c.notifier.counter + 8⟩ :=
    Notifier.signal_eq_ok_iff.2 ⟨unsaturated, rfl⟩
  rw [Channel.publish, Region.publish_of_empty fits empty counts]
  simp only [signalled]

/-- The reader moves the state word from one state to another. -/
def move (c : Channel) (source target : SlotState) : Except UInt32 Unit × Channel :=
  match c.region.header.transition source target with
  | .ok header => (.ok (), { c with region := { c.region with header := header } })
  | .error raw => (.error raw, c)

/-- The move happens in the state it starts from. -/
theorem move_of_eq {c : Channel} {source : SlotState} (state : c.region.header.state = source.raw)
    (target : SlotState) :
    c.move source target = (.ok (), { c with region := { c.region with
      header := { c.region.header with state := target.raw } } }) := by
  simp only [move, Header.transition, if_pos state]

/-- Nothing is moved in another state. -/
theorem move_of_ne {c : Channel} {source : SlotState} (state : c.region.header.state ≠ source.raw)
    (target : SlotState) : c.move source target = (.error c.region.header.state, c) := by
  simp only [move, Header.transition, if_neg state]

/-- The picture in a frame, and the frame's number. -/
def numbered (f : SlotFrame) : Picture × Nat := (f.picture, f.sequence.toNat)

/-- A slot with its counter, asked something. -/
def call (c : Channel) : SlotCall → SlotAnswer × Channel
  | .publish p =>
      (.ended (c.publish p.data p.width p.height).1, (c.publish p.data p.width p.height).2)
  | .take => (.taken (c.take.1.map (Option.map numbered)), c.take.2)
  | .published => (.counted c.region.published.toNat, c)
  | .drain =>
      (.drained (c.notifier.drain.1.map fun m => m.bits.toNat),
        { c with notifier := c.notifier.drain.2 })
  | .claim => (.moved (c.move .ready .reading).1, (c.move .ready .reading).2)
  | .finish => (.moved (c.move .reading .empty).1, (c.move .reading .empty).2)

/-- The slot after some calls. -/
def after (c : Channel) (l : List SlotCall) : Channel := afterCalls call c l

/-- A slot in a region of zeros behind a header, with a counter. -/
def fresh (capacity : UInt64) (notifier : Notifier) : Channel :=
  ⟨(Region.zeroed (Header.size + capacity)).initialise, notifier⟩

theorem after_append (c : Channel) (l₁ l₂ : List SlotCall) :
    c.after (l₁ ++ l₂) = (c.after l₁).after l₂ := List.foldl_append

/-- **A slot shows a register**: the words of the header say what the register is in, and the payload
starts with the bytes of its picture. -/
structure Shows (c : Channel) (r : Register) : Prop where
  capacity : c.region.payloadCapacity.toNat = r.capacity
  state : c.region.header.state = r.state.raw
  sequence : c.region.header.sequence = UInt64.ofNat r.count
  counter : c.notifier.counter.toNat = r.events
  content : ∀ p, r.content = some p → p.data.length = r.capacity ∧ c.region.Holds p r.count
  held : r.reading = true → r.content.isSome = true

namespace Shows

variable {c : Channel} {r : Register}

/-- The register that an initialised region shows is fresh. -/
theorem fresh (capacity : UInt64) (notifier : Notifier) :
    (Channel.fresh capacity notifier).Shows (.fresh capacity.toNat notifier.counter.toNat) where
  capacity := by
    show (Header.size + capacity - Header.size).toNat = capacity.toNat
    rw [UInt64.add_comm, UInt64.add_sub_cancel]
  state := rfl
  sequence := rfl
  counter := rfl
  content := by
    intro p none
    cases none
  held := by
    intro reading
    cases reading

/-- A free slot without a picture is empty. -/
theorem state_of_none (h : c.Shows r) (free : r.reading = false) (none : r.content = none) :
    c.region.header.state = SlotState.empty.raw := by
  have state : r.state = .empty := by simp [Register.state, free, none]
  rw [h.state, state]

/-- A free slot with a picture is ready. -/
theorem state_of_some (h : c.Shows r) (free : r.reading = false) {p : Picture}
    (there : r.content = some p) : c.region.header.state = SlotState.ready.raw := by
  have state : r.state = .ready := by simp [Register.state, free, there]
  rw [h.state, state]

/-- The slot of a reader at work is being read. -/
theorem state_of_reading (h : c.Shows r) (reading : r.reading = true) :
    c.region.header.state = SlotState.reading.raw := by
  have state : r.state = .reading := by simp [Register.state, reading]
  rw [h.state, state]

/-- A picture that fits is put into a free slot, and counted. -/
theorem filled (h : c.Shows r) (free : r.reading = false) {p : Picture}
    (fits : p.data.length = r.capacity) {notifier : Notifier} {events : Nat}
    (counter : notifier.counter.toNat = events) :
    Shows ⟨c.region.filled p, notifier⟩
      ((r.put p).telling events) where
  capacity := h.capacity
  state := by
    simp [Register.state, Register.put, Register.telling, free, Region.filled]
  sequence := (Region.holds_filled p h.sequence).sequence
  counter := counter
  content := by
    intro q there
    cases there
    exact ⟨fits, Region.holds_filled p h.sequence⟩
  held := fun _ => rfl

/-- One more picture can be counted in the slot if the register's count stays a word. -/
theorem countable (h : c.Shows r) (few : r.count + 1 < UInt64.size) : c.region.Countable := by
  rw [Region.Countable, h.sequence, UInt64.toNat_ofNat_of_lt' (by omega)]
  exact few

/-- Publishing does to the slot what it does to the register. -/
theorem publish (h : c.Shows r) (p : Picture) (few : (r.publish p).2.count < UInt64.size)
    (unsaturated : (r.publish p).2.events < Notifier.limit) :
    (c.publish p.data p.width p.height).1 = (r.publish p).1 ∧
    (c.publish p.data p.width p.height).2.Shows (r.publish p).2 := by
  by_cases fits : p.data.length = r.capacity
  · have fits' : p.data.length = c.region.payloadCapacity.toNat := fits.trans h.capacity.symm
    cases reading : r.reading with
    | true =>
        have busy : c.region.publish p.data p.width p.height = (.ok .busy, c.region) := by
          have state := h.state_of_reading reading
          simp only [Region.publish, if_neg (not_not_intro fits'), Region.claim?,
            Header.transition, state]
          rfl
        rw [Register.publish_of_reading fits reading, Channel.publish, busy]
        exact ⟨rfl, h⟩
    | false =>
        cases there : r.content with
        | none =>
            rw [Register.publish_of_none fits reading there] at few unsaturated
            have told : r.events + Register.waiting < Notifier.limit := unsaturated
            have small : c.notifier.counter.toNat + 8 < Notifier.limit := by
              rw [h.counter]
              exact told
            have sum : (c.notifier.counter + 8).toNat = r.events + Register.waiting := by
              rw [UInt64.toNat_add, ← h.counter]
              refine Nat.mod_eq_of_lt (Nat.lt_trans small ?_)
              decide
            rw [Register.publish_of_none fits reading there,
              publish_of_empty fits' (h.state_of_none reading there) (h.countable few) small]
            exact ⟨rfl, h.filled reading fits sum⟩
        | some q =>
            rw [Register.publish_of_some fits reading there] at few
            have filled := Region.publish_of_ready fits' (h.state_of_some reading there)
              (h.countable few)
            rw [Register.publish_of_some fits reading there, Channel.publish, filled]
            exact ⟨rfl, h.filled reading fits h.counter⟩
  · have differs : p.data.length ≠ c.region.payloadCapacity.toNat := by
      rw [h.capacity]
      exact fits
    rw [Register.publish_of_length_ne fits, Channel.publish, Region.publish_of_length_ne differs,
      h.capacity]
    exact ⟨rfl, h⟩

/-- A slot whose picture was given back shows a register without one. -/
theorem emptied (h : c.Shows r) :
    Shows ⟨c.region.emptied, c.notifier⟩ { r with content := none, reading := false } where
  capacity := h.capacity
  state := rfl
  sequence := h.sequence
  counter := h.counter
  content := by
    intro p none
    cases none
  held := by
    intro reading
    cases reading

/-- Taking takes the same picture, under the same number. -/
theorem take (h : c.Shows r) (few : r.count < UInt64.size) :
    c.take.1.map (Option.map numbered) = .ok r.take.1 ∧ c.take.2.Shows r.take.2 := by
  cases reading : r.reading with
  | true =>
      have nothing : c.region.take = (.ok none, c.region) := by
        have state := h.state_of_reading reading
        simp only [Region.take, Header.transition, state]
        rfl
      rw [Channel.take, Register.take, nothing, if_pos reading]
      exact ⟨rfl, h⟩
  | false =>
      cases there : r.content with
      | none =>
          have nothing := Region.take_of_empty (h.state_of_none reading there)
          have same : r.take = (none, r) := by
            rw [Register.take, if_neg (by simp [reading]), there]
            cases r
            cases there
            rfl
          rw [same, Channel.take, nothing]
          exact ⟨rfl, h⟩
      | some p =>
          obtain ⟨length, holds⟩ := h.content p there
          have short : p.data.length < UInt64.size := by
            rw [length, ← h.capacity]
            exact c.region.payloadCapacity.toNat_lt
          have room : c.region.header.nbytes ≤ c.region.payloadCapacity := by
            rw [UInt64.le_iff_toNat_le, holds.nbytes, UInt64.toNat_ofNat_of_lt' short, length,
              h.capacity]
          have taken := Region.take_of_ready (h.state_of_some reading there) room
          have number : (UInt64.ofNat r.count).toNat = r.count := UInt64.toNat_ofNat_of_lt' few
          have same : r.take = (some (p, r.count), { r with content := none, reading := false }) := by
            rw [Register.take, if_neg (by simp [reading]), there]
            cases r
            cases reading
            rfl
          rw [same, Channel.take, taken, holds.heldFrame short]
          refine ⟨?_, h.emptied⟩
          simp only [Except.map, Option.map_some, numbered, SlotFrame.picture, number]

/-- Draining yields the same events. -/
theorem drain (h : c.Shows r) :
    (c.notifier.drain.1.map fun m => m.bits.toNat) = r.drain.1 ∧
    Shows { c with notifier := c.notifier.drain.2 } r.drain.2 := by
  constructor
  · have zero : c.notifier.counter = 0 ↔ r.events = 0 := by
      rw [← h.counter, ← UInt64.toNat_inj]
      rfl
    have known : (c.notifier.counter &&& EventMask.knownBits).toNat = r.events % 16 := by
      rw [UInt64.toNat_and, h.counter]
      exact Nat.and_two_pow_sub_one_eq_mod r.events 4
    simp only [Notifier.drain, Notifier.drainRaw, Register.drain]
    by_cases none : r.events = 0
    · rw [if_pos (zero.2 none), if_pos none]
      rfl
    · rw [if_neg (fun nothing => none (zero.1 nothing)), if_neg none, ← known]
      rfl
  · rw [Notifier.drain_snd]
    exact ⟨h.capacity, h.state, h.sequence, rfl, h.content, h.held⟩

/-- A reader starts on the picture of a slot exactly if there is one to read. -/
theorem claim (h : c.Shows r) :
    (c.move .ready .reading).1 = r.claim.1 ∧ (c.move .ready .reading).2.Shows r.claim.2 := by
  by_cases ready : r.state = .ready
  · have state : c.region.header.state = SlotState.ready.raw := by rw [h.state, ready]
    have some_content : r.content.isSome = true := by
      by_contra missing
      cases reading : r.reading <;> simp [Register.state, reading, missing] at ready
    rw [Register.claim, if_pos ready, move_of_eq state]
    refine ⟨rfl, ⟨h.capacity, rfl, h.sequence, h.counter, ?_, fun _ => some_content⟩⟩
    intro p there
    obtain ⟨length, holds⟩ := h.content p there
    exact ⟨length, holds.withState _⟩
  · have state : c.region.header.state ≠ SlotState.ready.raw := by
      rw [h.state]
      exact Slot.raw_ne ready
    rw [Register.claim, if_neg ready, move_of_ne state, h.state]
    exact ⟨rfl, h⟩

/-- A reader is done with a slot exactly if it was reading. -/
theorem finish (h : c.Shows r) :
    (c.move .reading .empty).1 = r.finish.1 ∧ (c.move .reading .empty).2.Shows r.finish.2 := by
  cases reading : r.reading with
  | true =>
      have state := h.state_of_reading reading
      rw [Register.finish, if_pos reading, move_of_eq state]
      exact ⟨rfl, h.emptied⟩
  | false =>
      have state : c.region.header.state ≠ SlotState.reading.raw := by
        rw [h.state, Register.state, reading]
        cases r.content.isSome <;> decide
      rw [Register.finish, if_neg (by simp [reading]), move_of_ne state, h.state]
      exact ⟨rfl, h⟩

/-- **Every call gets the same answer, and preserves what is shown.** -/
theorem call (h : c.Shows r) (a : SlotCall) (few : (r.call a).2.count < UInt64.size)
    (unsaturated : (r.call a).2.events < Notifier.limit) :
    (c.call a).1 = (r.call a).1 ∧ (c.call a).2.Shows (r.call a).2 := by
  have before : r.count < UInt64.size := Nat.lt_of_le_of_lt (r.count_le_after [a]) few
  cases a with
  | publish p =>
      obtain ⟨same, shows_⟩ := h.publish p few unsaturated
      exact ⟨congrArg SlotAnswer.ended same, shows_⟩
  | take =>
      obtain ⟨same, shows_⟩ := h.take before
      exact ⟨congrArg SlotAnswer.taken same, shows_⟩
  | published =>
      have number : c.region.published.toNat = r.count := by
        rw [Region.published, h.sequence, UInt64.toNat_ofNat_of_lt' before]
      exact ⟨congrArg SlotAnswer.counted number, h⟩
  | drain =>
      obtain ⟨same, shows_⟩ := h.drain
      exact ⟨congrArg SlotAnswer.drained same, shows_⟩
  | claim =>
      obtain ⟨same, shows_⟩ := h.claim
      exact ⟨congrArg SlotAnswer.moved same, shows_⟩
  | finish =>
      obtain ⟨same, shows_⟩ := h.finish
      exact ⟨congrArg SlotAnswer.moved same, shows_⟩

/-- **So does every sequence of calls.** -/
theorem answers (h : c.Shows r) {l : List SlotCall} (few : (r.after l).count < UInt64.size)
    (unsaturated : r.Unsaturated l) :
    answersOf Channel.call c l = answersOf Register.call r l ∧ (c.after l).Shows (r.after l) := by
  induction l generalizing c r with
  | nil => exact ⟨rfl, h⟩
  | cons a l ih =>
      have few' : (r.call a).2.count < UInt64.size :=
        Nat.lt_of_le_of_lt ((r.call a).2.count_le_after l) few
      obtain ⟨same, shows_⟩ := h.call a few' unsaturated.2.here
      obtain ⟨rest, last⟩ := ih shows_ few unsaturated.2
      exact ⟨congrArg₂ List.cons same rest, last⟩

/-- The register of an empty slot has no picture and no reader at work. -/
theorem free_of_empty (h : c.Shows r) (empty : c.region.header.state = SlotState.empty.raw) :
    r.reading = false ∧ r.content = none := by
  cases reading : r.reading with
  | true =>
      rw [h.state_of_reading reading] at empty
      exact absurd empty (by decide)
  | false =>
      cases there : r.content with
      | none => exact ⟨rfl, rfl⟩
      | some p =>
          rw [h.state_of_some reading there] at empty
          exact absurd empty (by decide)

/-- The picture of a free register is taken from the slot, once. -/
theorem take_twice (h : c.Shows r) (few : r.count < UInt64.size) (free : r.reading = false)
    {p : Picture} (there : r.content = some p) :
    ∃ f c', c.take = (.ok (some f), c') ∧ f.picture = p ∧ f.sequence.toNat = r.count ∧
      c'.take = (.ok none, c') := by
  have taken : r.take = (some (p, r.count), { r with content := none }) := by
    rw [Register.take, if_neg (by simp [free]), there]
    rfl
  obtain ⟨result, shows_⟩ := h.take few
  rw [taken] at result shows_
  have nothing := Region.take_of_empty (shows_.state_of_none free rfl)
  cases first : c.take.1 with
  | error e =>
      rw [first] at result
      cases result
  | ok frame =>
      cases frame with
      | none =>
          rw [first] at result
          cases result
      | some f =>
          rw [first] at result
          have same : (f.picture, f.sequence.toNat) = (p, r.count) :=
            Option.some.inj (Except.ok.inj result)
          refine ⟨f, c.take.2, Prod.ext first rfl, congrArg Prod.fst same, ?_, ?_⟩
          · exact (Prod.mk.inj same).2
          · rw [Channel.take, nothing]

/-- Pictures put in a row into an empty slot are told about once, and the last of them is taken. -/
theorem row (h : c.Shows r) {l : List SlotCall} (few : (r.after l).count < UInt64.size)
    (unsaturated : r.Unsaturated l) (empty : c.region.header.state = SlotState.empty.raw)
    (away : ∀ a ∈ l, a.spares = true) {last : Picture}
    (latest : (l.filterMap (SlotCall.put? r.capacity)).getLast? = some last) :
    (answersOf Channel.call c l).count (.ended (.ok .published)) = 1 ∧
    ∃ f c', (c.after l).take = (.ok (some f), c') ∧ f.picture = last ∧
      f.sequence.toNat =
        c.region.published.toNat + (l.filterMap (SlotCall.put? r.capacity)).length ∧
      c'.take = (.ok none, c') := by
  obtain ⟨free, none⟩ := h.free_of_empty empty
  obtain ⟨free', content, count, told⟩ := Register.after_publishes free away
  obtain ⟨same, shows_⟩ := h.answers few unsaturated
  have some_put : l.filterMap (SlotCall.put? r.capacity) ≠ [] := by
    intro nothing
    rw [nothing] at latest
    cases latest
  have before : c.region.published.toNat = r.count := by
    rw [Region.published, h.sequence, UInt64.toNat_ofNat_of_lt']
    exact Nat.lt_of_le_of_lt (r.count_le_after l) few
  rw [latest] at content
  refine ⟨?_, ?_⟩
  · rw [same, told, if_pos ⟨none, some_put⟩]
  · rw [before, ← count]
    exact shows_.take_twice few free' content

end Shows

/-- A region just made and initialised is a fresh slot. -/
theorem fresh_of_create {mmap : Mmap} {name : String} {capacity : UInt64} {region : Region}
    (made : Region.create mmap name capacity = .ok region) (notifier : Notifier) :
    fresh capacity notifier = ⟨region.initialise, notifier⟩ := by
  rw [Region.eq_zeroed_of_create made]
  rfl

/-- **A fresh slot is an empty register**: whatever is asked of it, it answers as the register does,
and shows what the register holds.  Of pictures put into it in a row, however many and whatever else
is asked meanwhile, exactly one is told about, and one take yields the last of them, under the number
of all pictures put in so far. -/
theorem slot_refines_register (capacity : UInt64) (notifier : Notifier) (l : List SlotCall)
    {c : Channel} (new : fresh capacity notifier = c) {r : Register}
    (new_register : Register.fresh capacity.toNat notifier.counter.toNat = r)
    (few : (r.after l).count < UInt64.size) (unsaturated : r.Unsaturated l) :
    answersOf call c l = answersOf Register.call r l ∧ (c.after l).Shows (r.after l) ∧
    ∀ before row last, l = before ++ row →
      (c.after before).region.header.state = SlotState.empty.raw →
      (∀ a ∈ row, a.spares = true) →
      (row.filterMap (SlotCall.put? capacity.toNat)).getLast? = some last →
      (answersOf call (c.after before) row).count (.ended (.ok .published)) = 1 ∧
      ∃ f c', (c.after l).take = (.ok (some f), c') ∧ f.picture = last ∧
        f.sequence.toNat = (c.after before).region.published.toNat +
          (row.filterMap (SlotCall.put? capacity.toNat)).length ∧
        c'.take = (.ok none, c') := by
  subst new new_register
  have start := Shows.fresh capacity notifier
  obtain ⟨same, shows_⟩ := start.answers few unsaturated
  refine ⟨same, shows_, ?_⟩
  rintro before row last rfl empty away latest
  have capacity_before :
      ((Register.fresh capacity.toNat notifier.counter.toNat).after before).capacity = capacity.toNat :=
    Register.capacity_after _ before
  rw [Register.after_append] at few
  obtain ⟨-, shows_before⟩ :=
    start.answers (Nat.lt_of_le_of_lt (Register.count_le_after _ row) few) unsaturated.left
  rw [after_append]
  rw [← capacity_before] at latest ⊢
  exact shows_before.row few unsaturated.right empty away latest

/-- A rehearsal: a picture too short, and one that is replaced, and one put in while the reader is at
work. -/
def rehearsal : List SlotCall :=
  [.publish ⟨[1], 1, 1⟩, .publish ⟨[1, 2], 2, 1⟩, .publish ⟨[3, 4], 2, 1⟩, .published, .drain, .claim,
    .publish ⟨[5, 6], 2, 1⟩, .take, .finish]

/-- Two pictures in a row, with one too long between them. -/
def rehearsedRow : List SlotCall :=
  [.publish ⟨[5, 6], 2, 1⟩, .publish ⟨[7, 8, 9], 3, 1⟩, .drain, .publish ⟨[7, 8], 1, 2⟩]

theorem slot_refines_register_rehearsed :
    answersOf call (fresh 2 .fresh) (rehearsal ++ rehearsedRow) =
      [.ended (.error (.sizeMismatch 2 1)), .ended (.ok .published), .ended (.ok .replaced), .counted 2,
        .drained (some 8), .moved (.ok ()), .ended (.ok .busy), .taken (.ok none), .moved (.ok ()),
        .ended (.ok .published), .ended (.error (.sizeMismatch 2 3)), .drained (some 8),
        .ended (.ok .replaced)] ∧
    ∃ f c', ((fresh 2 .fresh).after (rehearsal ++ rehearsedRow)).take = (.ok (some f), c') ∧
      f.picture = ⟨[7, 8], 1, 2⟩ ∧ f.sequence.toNat = 4 ∧ c'.take = (.ok none, c') := by
  obtain ⟨same, -, inARow⟩ := slot_refines_register 2 .fresh (rehearsal ++ rehearsedRow) rfl rfl
    (by decide) (by decide)
  obtain ⟨-, f, c', taken, picture, number, nothing⟩ :=
    inARow rehearsal rehearsedRow ⟨[7, 8], 1, 2⟩ rfl (by decide) (by decide) (by decide)
  exact ⟨same.trans (by decide), f, c', taken, picture, number, nothing⟩

end Channel

end FrameMux
