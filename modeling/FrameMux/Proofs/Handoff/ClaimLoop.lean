/-
**How long a call to publish can last.**

A call to publish claims an empty slot, or else a ready one, and starts over when the slot is empty
by the time it asks for a ready one.  Nothing in the call counts these rounds.  They are bounded by
who may do what to an empty slot: only the producer itself leaves it, so that a round that starts
over finds the slot empty still, however the reader's accesses fall in between.

A call that filled an empty slot goes on to tell the reader.  That is one write to a counter which
never waits, so it adds one access and no round.

Main definitions:

* `FrameMux.Slot.Turn.isWrite` — the accesses of the producer within a schedule;
* `FrameMux.Slot.Writer.over` — the producer is in no call that goes on;
* `FrameMux.Slot.Run.passes` — how often a call under way enters its loop;
* `FrameMux.Slot.Writer.passesLeft`, `FrameMux.Slot.Writer.accessesLeft` — what a call may still
  need.

Main results:

* `FrameMux.Slot.Run.Owned.advance` — no turn of a schedule adds to what a call may still need, and
  an access of the producer uses some of it up;
* `FrameMux.Slot.Run.Owned.stays_empty` — an empty slot stays empty until the producer claims it;
* `FrameMux.Slot.Run.claim_loop_bounded` — **at most two rounds, and an end** after as many accesses
  to the slot as the picture has bytes, and eight, and one to the counter.
-/

import FrameMux.Proofs.Handoff.SlotDelivery

set_option relaxedAutoImplicit false
set_option autoImplicit false

namespace FrameMux.Slot

/-! ### The two sides -/

/-- An access of the producer, rather than of the reader or the start of a call. -/
def Turn.isWrite : Turn → Bool
  | .write => true
  | _ => false

/-- The producer is in no call that goes on: it is idle, or it stopped. -/
def Writer.isOver : Writer → Bool
  | idle | stopped => true
  | _ => false

/-- A call to take that has not claimed the slot leaves an empty one alone. -/
theorem Reader.Owns.step_of_empty {r : Region} {q : Reader} (h : q.Owns r)
    (empty : r.header.state = SlotState.empty.raw) : (q.step r).2.1 = r := by
  have unread : r.header.state ≠ SlotState.reading.raw := by
    rw [empty]
    exact raw_ne (by decide)
  rcases h.free unread with rfl | rfl
  · rfl
  · simp only [Reader.step, Header.transition, empty]
    rfl

/-! ### What a call may still need -/

/-- How often the loop of a call may still be entered.  Only an empty slot is sure to be granted at
the first claim. -/
def Writer.passesLeft (r : Region) : Writer → Nat
  | claim _ => if r.header.state = SlotState.empty.raw then 1 else 2
  | reclaim _ => 1
  | idle | store .. | commit .. | signal | stopped => 0

theorem Writer.passesLeft_of_empty {r : Region} (p : Picture)
    (empty : r.header.state = SlotState.empty.raw) : passesLeft r (claim p) = 1 := if_pos empty

theorem Writer.passesLeft_of_ne {r : Region} (p : Picture)
    (unempty : r.header.state ≠ SlotState.empty.raw) : passesLeft r (claim p) = 2 := if_neg unempty

/-- How many stores there are from one on, of a picture of a length. -/
def storesLeft (length : Nat) : Store → Nat
  | .byte i => (length - i - 1) + 5
  | .nbytes => 4
  | .width => 3
  | .height => 2
  | .sequence => 1

/-- How many accesses a call may still need: two for every round but the last, one for the claim
that is granted, after it the stores and the commit, and one to tell about the picture. -/
def Writer.accessesLeft (r : Region) : Writer → Nat
  | idle | stopped => 0
  | claim p => 2 * passesLeft r (claim p) + p.data.length + 5
  | reclaim p => p.data.length + 8
  | store p _ what => storesLeft p.data.length what + 2
  | commit .. => 2
  | signal => 1

/-- A call that needs no access is over, and one that needs a single one has only to tell. -/
theorem Writer.isOver_of_accessesLeft_le {r : Region} {w : Writer} (h : w.accessesLeft r ≤ 1) :
    w.isOver = true ∨ w = .signal ∧ w.accessesLeft r = 1 := by
  cases w with
  | idle | stopped => exact Or.inl rfl
  | signal => exact Or.inr ⟨rfl, rfl⟩
  | claim p | reclaim p | store p replacing what | commit p replacing =>
      simp only [accessesLeft] at h
      omega

/-- The first store of a picture begins all of them. -/
theorem storesLeft_afterBytes (length i : Nat) :
    storesLeft length (.afterBytes length i) = (length - i) + 4 := by
  unfold Store.afterBytes
  split
  · next more => simp only [storesLeft]; omega
  · next full => simp only [storesLeft]; omega

/-- Every store brings the call closer to the commit. -/
theorem storesLeft_next {length : Nat} {what next : Store} (follows : what.next? length = some next) :
    storesLeft length next + 1 ≤ storesLeft length what := by
  cases what with
  | byte i =>
      obtain rfl := Option.some.inj follows
      rw [storesLeft_afterBytes]
      simp only [storesLeft]
      omega
  | nbytes | width | height => obtain rfl := Option.some.inj follows; simp [storesLeft]
  | sequence => cases follows

theorem storesLeft_pos (length : Nat) (what : Store) : 1 ≤ storesLeft length what := by
  cases what <;> simp [storesLeft]

namespace Run

/-- How often the loop of the call under way may still be entered. -/
def passesLeft (s : Run) : Nat := s.writer.passesLeft s.region

/-- How many accesses the call under way may still need. -/
def accessesLeft (s : Run) : Nat := s.writer.accessesLeft s.region

/-- Whether a turn enters the loop of the call under way: its first claim is made. -/
def pass (s : Run) (t : Turn) : Nat :=
  match s.writer with
  | .claim _ => if t.isWrite then 1 else 0
  | _ => 0

/-- How often a schedule enters the loop of the call under way, up to the end of that call. -/
def passes (s : Run) : List Turn → Nat
  | [] => 0
  | t :: l => if s.writer.isOver then 0 else s.pass t + (s.turn t).passes l

/-- How many accesses of the producer there are in a schedule. -/
def writes (l : List Turn) : Nat := l.countP Turn.isWrite

/-! ### One turn -/

/-- What a turn of a schedule does to a call to publish that is under way.  The call uses up what it
may still need, and tells its outcome when it ends. -/
structure Advances (s : Run) (t : Turn) : Prop where
  passes : s.pass t + (s.turn t).passesLeft ≤ s.passesLeft
  accesses : (if t.isWrite then 1 else 0) + (s.turn t).accessesLeft ≤ s.accessesLeft
  outcomes : (s.turn t).writer.isOver = false → (s.turn t).outcomes = s.outcomes
  outcome : (s.turn t).writer.isOver = true →
    ∃ result, (s.turn t).outcomes = s.outcomes ++ [result]

/-- A turn that is not an access of the producer leaves the call under way as it is, and an empty
slot empty. -/
theorem Owned.aside {s : Run} (h : s.Owned) (busy : s.writer.isOver = false) {t : Turn}
    (other : t.isWrite = false) :
    (s.turn t).writer = s.writer ∧ (s.turn t).outcomes = s.outcomes ∧
    (s.region.header.state = SlotState.empty.raw →
      (s.turn t).region.header.state = SlotState.empty.raw) := by
  cases t with
  | publish p =>
      have same : s.turn (.publish p) = s := if_neg fun idle => by simp [idle, Writer.isOver] at busy
      rw [same]
      exact ⟨rfl, rfl, id⟩
  | write => cases other
  | take =>
      simp only [Run.turn]
      split
      · exact ⟨rfl, rfl, id⟩
      · exact ⟨rfl, rfl, id⟩
  | read =>
      refine ⟨rfl, rfl, fun empty => ?_⟩
      show (s.reader.step s.region).2.1.header.state = _
      rw [h.reader.step_of_empty empty]
      exact empty
  | drain | announce mask => exact ⟨rfl, rfl, id⟩

/-- So it costs the call nothing. -/
theorem Owned.advance_aside {s : Run} (h : s.Owned) (busy : s.writer.isOver = false) {t : Turn}
    (other : t.isWrite = false) : s.Advances t := by
  obtain ⟨writer, outcomes, empty⟩ := h.aside busy other
  have none : s.pass t = 0 := by
    unfold pass
    rw [other]
    split <;> rfl
  have passes : ∀ p, Writer.passesLeft (s.turn t).region (.claim p) ≤
      Writer.passesLeft s.region (.claim p) := by
    intro p
    by_cases now : s.region.header.state = SlotState.empty.raw
    · exact Nat.le_of_eq ((Writer.passesLeft_of_empty p (empty now)).trans
        (Writer.passesLeft_of_empty p now).symm)
    · rw [Writer.passesLeft_of_ne p now, Writer.passesLeft]
      split <;> omega
  refine ⟨?_, ?_, fun _ => outcomes, fun finished => absurd (writer ▸ finished) (by simp [busy])⟩
  · rw [none, Nat.zero_add, passesLeft, passesLeft, writer]
    cases s.writer with
    | claim p => exact passes p
    | idle | reclaim p | store p replacing what | commit p replacing | signal | stopped =>
        exact Nat.le_refl _
  · rw [other, accessesLeft, accessesLeft, writer]
    cases s.writer with
    | claim p =>
        have fewer := passes p
        simp only [Writer.accessesLeft]
        simp only [Bool.false_eq_true, if_false]
        omega
    | idle | reclaim p | store p replacing what | commit p replacing | signal | stopped =>
        exact Nat.le_of_eq (Nat.zero_add _)

/-- An access of the producer after which its call goes on. -/
theorem advances_more {s : Run} {w : Writer} {c : Channel}
    (step : s.writer.step s.toChannel = (w, c, none)) (busy : w.isOver = false)
    (passes : s.pass .write + w.passesLeft c.region ≤ s.passesLeft)
    (accesses : 1 + w.accessesLeft c.region ≤ s.accessesLeft) : s.Advances .write := by
  have after : s.turn .write = s.write := rfl
  rw [write_eq step] at after
  refine ⟨?_, ?_, fun _ => ?_, fun finished => ?_⟩
  · rw [after]
    exact passes
  · rw [after]
    exact accesses
  · rw [after]
    exact List.append_nil _
  · rw [after] at finished
    exact absurd finished (by simp [busy])

/-- An access of the producer that ends its call. -/
theorem advances_last {s : Run} {w : Writer} {c : Channel} {result : PublishResult}
    (step : s.writer.step s.toChannel = (w, c, some result)) (finished : w.isOver = true)
    (passes : s.pass .write ≤ s.passesLeft) (accesses : 1 ≤ s.accessesLeft) :
    s.Advances .write := by
  have after : s.turn .write = s.write := rfl
  rw [write_eq step] at after
  refine ⟨?_, ?_, fun busy => ?_, fun _ => ⟨result, ?_⟩⟩
  · rw [after]
    cases w with
    | idle | stopped => exact passes
    | claim p | reclaim p | store p replacing what | commit p replacing | signal => cases finished
  · rw [after]
    cases w with
    | idle | stopped => exact accesses
    | claim p | reclaim p | store p replacing what | commit p replacing | signal => cases finished
  · rw [after] at busy
    exact absurd busy (by simp [finished])
  · rw [after]
    rfl

/-- The first claim ends the call, or leaves at most one more round. -/
theorem Owned.advance_claim {s : Run} (h : s.Owned) {p : Picture} (at_ : s.writer = .claim p) :
    s.Advances .write := by
  have owns := h.writer
  rw [at_] at owns
  have entered : s.pass .write = 1 := by
    rw [pass, at_]
    rfl
  have passesLeft : s.passesLeft = Writer.passesLeft s.region (.claim p) := by
    rw [Run.passesLeft, at_]
  have accessesLeft : s.accessesLeft = 2 * s.passesLeft + p.data.length + 5 := by
    rw [passesLeft, Run.accessesLeft, at_, Writer.accessesLeft]
  obtain ⟨state, word⟩ := h.word
  cases state with
  | empty =>
      have step := Writer.step_claim_of_empty p word
      rw [← at_] at step
      have one := Writer.passesLeft_of_empty p word
      refine advances_more step rfl ?_ ?_
      · simp only [Writer.passesLeft]
        omega
      · simp only [Writer.accessesLeft, storesLeft_afterBytes]
        omega
  | ready =>
      have step := Writer.step_claim_of_ready p word
      rw [← at_] at step
      have unempty : s.region.header.state ≠ SlotState.empty.raw := by
        rw [word]
        exact raw_ne (by decide)
      have two := Writer.passesLeft_of_ne p unempty
      refine advances_more step rfl ?_ ?_
      · simp only [Writer.passesLeft]
        omega
      · simp only [Writer.accessesLeft]
        omega
  | writing => exact absurd word owns.2.state
  | reading =>
      have unempty : s.region.header.state ≠ SlotState.empty.raw := by
        rw [word]
        exact raw_ne (by decide)
      have two := Writer.passesLeft_of_ne p unempty
      exact advances_last (Writer.step_of_reading (.inl at_) word) rfl (by omega) (by omega)

/-- The second claim ends the call, or starts over on a slot that is sure to be granted. -/
theorem Owned.advance_reclaim {s : Run} (h : s.Owned) {p : Picture} (at_ : s.writer = .reclaim p) :
    s.Advances .write := by
  have owns := h.writer
  rw [at_] at owns
  have entered : s.pass .write = 0 := by rw [pass, at_]
  have passesLeft : s.passesLeft = 1 := by rw [Run.passesLeft, at_, Writer.passesLeft]
  have accessesLeft : s.accessesLeft = p.data.length + 8 := by
    rw [Run.accessesLeft, at_, Writer.accessesLeft]
  obtain ⟨state, word⟩ := h.word
  cases state with
  | empty =>
      have step := Writer.step_reclaim_of_empty p word
      rw [← at_] at step
      have one := Writer.passesLeft_of_empty p word
      refine advances_more step rfl (by omega) ?_
      rw [Writer.accessesLeft]
      omega
  | ready =>
      have step := Writer.step_reclaim_of_ready p word
      rw [← at_] at step
      refine advances_more step rfl ?_ ?_
      · simp only [Writer.passesLeft]
        omega
      · simp only [Writer.accessesLeft, storesLeft_afterBytes]
        omega
  | writing => exact absurd word owns.2.state
  | reading =>
      exact advances_last (Writer.step_of_reading (.inr at_) word) rfl (by omega) (by omega)

/-- A store is one of finitely many. -/
theorem advance_store {s : Run} {p : Picture} {replacing : Bool} {what : Store}
    (at_ : s.writer = .store p replacing what) : s.Advances .write := by
  have entered : s.pass .write = 0 := by rw [pass, at_]
  have accessesLeft : s.accessesLeft = storesLeft p.data.length what + 2 := by
    rw [Run.accessesLeft, at_, Writer.accessesLeft]
  cases follows : what.next? p.data.length with
  | some next =>
      have step := Writer.step_store_of_next (c := s.toChannel) replacing follows
      rw [← at_] at step
      have closer := storesLeft_next follows
      refine advances_more step rfl ?_ ?_
      · simp only [Writer.passesLeft]
        omega
      · simp only [Writer.accessesLeft]
        omega
  | none =>
      have due := storesLeft_pos p.data.length what
      by_cases counts : s.region.Countable
      · have step := Writer.step_store_of_countable replacing follows counts
        rw [← at_] at step
        refine advances_more step rfl ?_ ?_
        · simp only [Writer.passesLeft]
          omega
        · simp only [Writer.accessesLeft]
          omega
      · have step := Writer.step_store_of_uncountable replacing follows counts
        rw [← at_] at step
        exact advances_last step rfl (by omega) (by omega)

/-- The commit is the last access to the slot. -/
theorem Owned.advance_commit {s : Run} (h : s.Owned) {p : Picture} {replacing : Bool}
    (at_ : s.writer = .commit p replacing) : s.Advances .write := by
  have owns := h.writer
  rw [at_] at owns
  have entered : s.pass .write = 0 := by rw [pass, at_]
  have accessesLeft : s.accessesLeft = 2 := by rw [Run.accessesLeft, at_, Writer.accessesLeft]
  cases replacing with
  | true =>
      have step := Writer.step_commit_of_replacing p owns.1.state
      rw [← at_] at step
      exact advances_last step rfl (by omega) (by omega)
  | false =>
      have step := Writer.step_commit_of_filling p owns.1.state
      rw [← at_] at step
      refine advances_more step rfl ?_ ?_
      · simp only [Writer.passesLeft]
        omega
      · simp only [Writer.accessesLeft]
        omega

/-- Telling about the picture is the last access of all. -/
theorem advance_signal {s : Run} (at_ : s.writer = .signal) : s.Advances .write := by
  have entered : s.pass .write = 0 := by rw [pass, at_]
  have accessesLeft : s.accessesLeft = 1 := by rw [Run.accessesLeft, at_, Writer.accessesLeft]
  by_cases room : Writer.Room s.notifier
  · have step := Writer.step_signal_of_room room
    rw [← at_] at step
    exact advances_last step rfl (by omega) (by omega)
  · have step := Writer.step_signal_of_full room
    rw [← at_] at step
    exact advances_last step rfl (by omega) (by omega)

/-- **An access of the producer brings its call closer to the end.** -/
theorem Owned.advance_write {s : Run} (h : s.Owned) (busy : s.writer.isOver = false) :
    s.Advances .write := by
  cases at_ : s.writer with
  | idle | stopped => simp [at_, Writer.isOver] at busy
  | claim p => exact h.advance_claim at_
  | reclaim p => exact h.advance_reclaim at_
  | store p replacing what => exact advance_store at_
  | commit p replacing => exact h.advance_commit at_
  | signal => exact advance_signal at_

/-- **No turn of a schedule keeps a call to publish from its end.** -/
theorem Owned.advance {s : Run} (h : s.Owned) (busy : s.writer.isOver = false) (t : Turn) :
    s.Advances t := by
  cases isWrite : t.isWrite with
  | true =>
      cases t with
      | write => exact h.advance_write busy
      | publish p | take | read | drain | announce mask => cases isWrite
  | false => exact h.advance_aside busy isWrite

/-! ### Schedules -/

/-- However the accesses fall, the loop is not entered more often than the call may need. -/
theorem Owned.passes_le {s : Run} (h : s.Owned) (l : List Turn) : s.passes l ≤ s.passesLeft := by
  induction l generalizing s with
  | nil => exact Nat.zero_le _
  | cons t rest ih =>
      unfold passes
      split
      · exact Nat.zero_le _
      · next busy =>
          have now := (h.advance (by simpa using busy) t).passes
          have later := ih (h.turn t)
          omega

/-- After the accesses that a call to publish may need, but for some, no more than these are left.  It
has told its outcome if it is over, and not before. -/
theorem Owned.comes_to {s : Run} (h : s.Owned) (busy : s.writer.isOver = false) {l : List Turn}
    (most : Nat) (enough : s.accessesLeft ≤ writes l + most) :
    ∃ k ≤ l.length, (s.turns (l.take k)).accessesLeft ≤ most ∧
      ((s.turns (l.take k)).writer.isOver = false → (s.turns (l.take k)).outcomes = s.outcomes) ∧
      ((s.turns (l.take k)).writer.isOver = true →
        ∃ result, (s.turns (l.take k)).outcomes = s.outcomes ++ [result]) := by
  induction l generalizing s with
  | nil =>
      have none : writes [] = 0 := rfl
      rw [none, Nat.zero_add] at enough
      refine ⟨0, Nat.zero_le _, enough, fun _ => rfl, fun finished => ?_⟩
      change s.writer.isOver = true at finished
      exact absurd finished (by simp [busy])
  | cons t rest ih =>
      have advance := h.advance busy t
      cases finished : (s.turn t).writer.isOver with
      | true =>
          have none : (s.turn t).accessesLeft = 0 := by
            rw [accessesLeft]
            cases at_ : (s.turn t).writer <;> simp_all [Writer.isOver, Writer.accessesLeft]
          refine ⟨1, by simp, ?_, fun busy' => ?_, fun _ => advance.outcome finished⟩
          · show (s.turn t).accessesLeft ≤ most
            omega
          · change (s.turn t).writer.isOver = false at busy'
            exact absurd finished (by simp [busy'])
      | false =>
          have left : (s.turn t).accessesLeft ≤ writes rest + most := by
            have used := advance.accesses
            simp only [writes, List.countP_cons] at enough ⊢
            omega
          obtain ⟨k, inside, fewer, before, told⟩ := ih (h.turn t) finished left
          rw [advance.outcomes finished] at before told
          exact ⟨k + 1, by simpa using inside, fewer, before, told⟩

/-- **Only the producer ends the emptiness of a slot**: until its next access the call under way and
the slot stay as they are. -/
theorem Owned.stays_empty {s : Run} (h : s.Owned) (busy : s.writer.isOver = false)
    (empty : s.region.header.state = SlotState.empty.raw) {l : List Turn} (none : writes l = 0) :
    (s.turns l).writer = s.writer ∧
      (s.turns l).region.header.state = SlotState.empty.raw := by
  induction l generalizing s with
  | nil => exact ⟨rfl, empty⟩
  | cons t rest ih =>
      have other : t.isWrite = false := by
        cases write : t.isWrite with
        | true => simp [writes, write] at none
        | false => rfl
      have noneLeft : writes rest = 0 := by
        simpa [writes, other] using none
      obtain ⟨writer, -, remains⟩ := h.aside busy other
      have later := ih (h.turn t) (writer ▸ busy) (remains empty) noneLeft
      rw [writer] at later
      exact later

/-! ### A call to publish -/

/-- A call to publish begins at its first claim, or has ended by then over the length. -/
theorem turn_publish {s : Run} (idle : s.writer = .idle) (p : Picture) :
    ((s.turn (.publish p)).writer = .claim p ∧ (s.turn (.publish p)).outcomes = s.outcomes) ∨
    ((s.turn (.publish p)).writer = .idle ∧
      ∃ result, (s.turn (.publish p)).outcomes = s.outcomes ++ [result]) := by
  simp only [turn, if_pos idle]
  unfold Writer.start
  split
  · exact Or.inr ⟨rfl, _, rfl⟩
  · exact Or.inl ⟨rfl, List.append_nil _⟩

/-- A call that starts over has found the slot empty. -/
theorem Owned.empty_of_retry {s : Run} (h : s.Owned) {p : Picture} (at_ : s.writer = .reclaim p)
    (again : s.write.writer = .claim p) :
    s.region.header.state = SlotState.empty.raw ∧ s.write.region = s.region := by
  have owns := h.writer
  rw [at_] at owns
  obtain ⟨state, word⟩ := h.word
  cases state with
  | empty =>
      have step := Writer.step_reclaim_of_empty p word
      rw [← at_] at step
      rw [write_eq step]
      exact ⟨word, rfl⟩
  | ready =>
      have step := Writer.step_reclaim_of_ready p word
      rw [← at_] at step
      rw [write_eq step] at again
      cases again
  | writing => exact absurd word owns.2.state
  | reading =>
      rw [write_eq (Writer.step_of_reading (.inr at_) word)] at again
      cases again

/-- A producer stopped only if `2 ^ 64` pictures claimed the slot. -/
theorem Owned.idle_of_isOver {s : Run} (h : s.Owned) (finished : s.writer.isOver = true) :
    s.writer = .idle ∨ s.writer = .stopped ∧ UInt64.size ≤ s.claims.length := by
  have owns := h.writer
  cases at_ : s.writer with
  | idle => exact Or.inl rfl
  | stopped =>
      rw [at_] at owns
      exact Or.inr ⟨rfl, owns.2⟩
  | claim p | reclaim p | store p replacing what | commit p replacing | signal =>
      rw [at_] at finished
      cases finished

/-- A call that was under way has told its outcome, and its producer is idle, unless `2 ^ 64` pictures
claimed the slot. -/
def Ended (before after : Run) : Prop :=
  (after.writer = .idle ∨ after.writer = .stopped ∧ UInt64.size ≤ after.claims.length) ∧
    ∃ result, after.outcomes = before.outcomes ++ [result]

/-- A producer that is idle begins to publish a picture, on an initialised region that it shares
with one reader, at any point of any schedule; `c` is the run then.  However the accesses of the two
fall from there on, the call's **loop is entered at most twice**.  Once the call found the slot ready
and then empty, the **slot stays empty** until the producer's next access, which claims it.  In every
schedule in which the producer makes as many accesses as the picture has bytes, and eight, the call is
**done with the slot**: it has ended, or all that is left is to tell about the picture.  With one access
more the **call ends**. -/
theorem claim_loop_bounded {r : Region} {n : Notifier} {before : List Turn} {s c : Run} {p : Picture}
    (reached : (start ⟨r.initialise, n⟩).turns before = s) (idle : s.writer = .idle)
    (called : s.turn (.publish p) = c) :
    (∀ l, c.passes l ≤ 2) ∧
    (∀ l between, (c.turns l).writer = .reclaim p → (c.turns l).write.writer = .claim p →
      writes between = 0 →
        ((c.turns l).write.turns between).region.header.state = SlotState.empty.raw ∧
        ((c.turns l).write.turns between).writer = .claim p ∧
        ((c.turns l).write.turns between).write.writer =
          .store p false (.afterBytes p.data.length 0)) ∧
    (∀ l, p.data.length + 8 ≤ writes l →
      ∃ k ≤ l.length, (c.turns (l.take k)).writer = .signal ∨ s.Ended (c.turns (l.take k))) ∧
    (∀ l, p.data.length + 9 ≤ writes l → ∃ k ≤ l.length, s.Ended (c.turns (l.take k))) := by
  have owned : c.Owned := by
    rw [← called, ← reached]
    exact ((owned_start r n).turns before).turn (.publish p)
  have begun := turn_publish idle p
  rw [called] at begun
  have fewPasses : c.passesLeft ≤ 2 := by
    rcases begun with ⟨at_, -⟩ | ⟨at_, -⟩
    · rw [passesLeft, at_, Writer.passesLeft]
      split <;> omega
    · rw [passesLeft, at_]
      exact Nat.zero_le 2
  -- What is left of the call when it begins, if it has not ended over the length.
  have few : c.writer = .claim p → c.accessesLeft ≤ p.data.length + 9 := by
    intro at_
    have two : Writer.passesLeft c.region (.claim p) ≤ 2 := by
      rw [Writer.passesLeft]
      split <;> omega
    rw [accessesLeft, at_, Writer.accessesLeft]
    omega
  refine ⟨fun l => Nat.le_trans (owned.passes_le l) fewPasses, ?_, ?_, ?_⟩
  · intro l between at_ again none
    have ownedThen := owned.turns l
    obtain ⟨empty, same⟩ := ownedThen.empty_of_retry at_ again
    rw [← same] at empty
    have busy : (c.turns l).write.writer.isOver = false := by
      rw [again]
      rfl
    obtain ⟨writer, remains⟩ := ownedThen.write.stays_empty busy empty none
    rw [again] at writer
    have granted := Writer.step_claim_of_empty
      (c := ((c.turns l).write.turns between).toChannel) p remains
    rw [← writer] at granted
    refine ⟨remains, writer, ?_⟩
    rw [write_eq granted]
  · intro l enough
    rcases begun with ⟨at_, outcomes⟩ | ended
    · obtain ⟨k, inside, left, -, ends⟩ := owned.comes_to (by rw [at_]; rfl) 1
        (Nat.le_trans (few at_) (Nat.succ_le_succ enough))
      rw [outcomes] at ends
      rcases Writer.isOver_of_accessesLeft_le left with finished | ⟨telling, -⟩
      · exact ⟨k, inside, Or.inr ⟨(owned.turns _).idle_of_isOver finished, ends finished⟩⟩
      · exact ⟨k, inside, Or.inl telling⟩
    · exact ⟨0, Nat.zero_le _, Or.inr ⟨Or.inl ended.1, ended.2⟩⟩
  · intro l enough
    rcases begun with ⟨at_, outcomes⟩ | ended
    · obtain ⟨k, inside, left, -, ends⟩ := owned.comes_to (by rw [at_]; rfl) 0
        (Nat.le_trans (few at_) enough)
      have finished : (c.turns (l.take k)).writer.isOver = true := by
        rcases Writer.isOver_of_accessesLeft_le (Nat.le_trans left (Nat.zero_le 1)) with
          finished | ⟨-, one⟩
        · exact finished
        · rw [accessesLeft, one] at left
          exact absurd left (Nat.not_succ_le_zero 0)
      rw [outcomes] at ends
      exact ⟨k, inside, (owned.turns _).idle_of_isOver finished, ends finished⟩
    · exact ⟨0, Nat.zero_le _, Or.inl ended.1, ended.2⟩

/-- A schedule that makes a call start over: the reader claims the waiting frame and empties the slot
between the producer's two claims. -/
def contested : List Turn :=
  [.write, .take] ++ List.replicate 8 .read ++ .write :: .take :: .read :: List.replicate 10 .write

/-- The loop is entered twice then, and the call ends with the picture published. -/
theorem claim_loop_bounded_rehearsed :
    ((start ⟨(Region.zeroed 66).initialise, .fresh⟩).turns
      (.publish ⟨[7, 9], 1, 2⟩ :: List.replicate 9 .write)).writer = .idle ∧
    ∃ c : Run, c.passes contested = 2 ∧ (∀ l, c.passes l ≤ 2) ∧
      ((c.turns (contested.take 11)).turns [.take, .read]).region.header.state =
        SlotState.empty.raw ∧
      ∃ k ≤ contested.length, (c.turns (contested.take k)).writer = .idle ∧
        (c.turns contested).outcomes = [.ok .published, .ok .published] := by
  have idle : ((start ⟨(Region.zeroed 66).initialise, .fresh⟩).turns
      (.publish ⟨[7, 9], 1, 2⟩ :: List.replicate 9 .write)).writer = .idle := rfl
  obtain ⟨few, empty, -, ends⟩ := claim_loop_bounded (p := ⟨[3, 5], 1, 2⟩) rfl idle rfl
  obtain ⟨k, inside, ended, -⟩ := ends contested (by decide)
  obtain ⟨stays, -, -⟩ := empty (contested.take 10) [.take, .read] rfl rfl rfl
  have few' : ∀ k ≤ contested.length, (Run.turns (Run.turn
      ((start ⟨(Region.zeroed 66).initialise, .fresh⟩).turns
        (.publish ⟨[7, 9], 1, 2⟩ :: List.replicate 9 .write)) (.publish ⟨[3, 5], 1, 2⟩))
      (contested.take k)).claims.length < UInt64.size := by decide
  have running := ended.resolve_right fun stopped => absurd stopped.2 (Nat.not_le.2 (few' k inside))
  exact ⟨idle, _, rfl, few, stays, k, inside, running, rfl⟩

end Run

end FrameMux.Slot
