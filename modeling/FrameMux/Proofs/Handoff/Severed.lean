/-
**Links that were cut.**

Where the multiplexer stops in the middle of taking a picture, the slot is empty already, but the worker
is still marked, and the picture is in no count.  From then on the signs and the slot need not agree, so
the link is wired no more.  But it is not lost: the producer does not know, and goes on as before.  What
it put into the slot is still what the slot holds, and no picture is taken twice.

Main definitions:

* `FrameMux.Severed` — what still holds of a link that was cut;
* `FrameMux.Accounted` — what holds of a link whose producer goes by the protocol, cut or not.

Main results:

* `FrameMux.Severed.perform`, `FrameMux.Severed.take` — deeds by the protocol keep what holds, and so does
  taking what is in the slot;
* `FrameMux.Accounted.perform`, `drained`, `negotiated`, `took`, `missed`, `interrupted` — **everything
  that happens to a link** keeps the account of it;
* `FrameMux.Accounted.frame_eq` — **a frame that is taken** is the picture that was published last.
-/

import FrameMux.Proofs.Handoff.Wiring

set_option relaxedAutoImplicit false
set_option autoImplicit false

namespace FrameMux

/-- What holds of a link that was cut: its region was offered, the slot holds what was published last or
nothing, and that was not taken before. -/
structure Severed (g : Ledger) (l : Link) (reader : Option Nat) : Prop where
  offered : ∃ region, l.Offered g reader region
  fresh : g.taken + l.slotReady.toNat ≤ g.publishes.length

/-- What holds of a link, if its producer goes by the protocol: it is wired, or it was cut. -/
structure Accounted (g : Ledger) (l : Link) (reader : Option Nat) (waiting : Bool) : Prop where
  wired : g.regular = true → Wired g l reader waiting
  severed : g.honest = true → g.cut = true → Severed g l reader

/-- A signal only changes the counter. -/
theorem Link.signal_snd (l : Link) (mask : EventMask) :
    ∃ notifier, (l.signal mask).2 = { l with notifier } := by
  unfold signal
  split
  · exact ⟨_, rfl⟩
  · exact ⟨l.notifier, rfl⟩

namespace Severed

variable {g : Ledger} {l : Link} {reader : Option Nat}

/-- What holds depends neither on the counter nor on the socket. -/
theorem of_same (h : Severed g l reader) {g' : Ledger} {l' : Link} (writer : l'.writer = l.writer)
    (files : l'.files = l.files) (signalled : ∀ e ∈ g.signalled, e ∈ g'.signalled)
    (publishes : g'.publishes = g.publishes) (taken : g'.taken = g.taken) :
    Severed g' l' reader := by
  obtain ⟨region, offered⟩ := h.offered
  have memory : l'.region? = l.region? := by
    funext file
    simp only [Link.region?, files]
  have ready : l'.slotReady = l.slotReady := by
    simp only [Link.slotReady, writer, memory]
  refine ⟨⟨region, writer.trans offered.writer, files.trans offered.files, offered.reader,
    signalled _ offered.signalled, publishes ▸ offered.stocked⟩, ?_⟩
  rw [ready, publishes, taken]
  exact h.fresh

/-- So it does not depend on signals. -/
theorem signal (h : Severed g l reader) (mask : EventMask) {g' : Ledger}
    (signalled : ∀ e ∈ g.signalled, e ∈ g'.signalled) (publishes : g'.publishes = g.publishes)
    (taken : g'.taken = g.taken) : Severed g' (l.signal mask).2 reader := by
  obtain ⟨notifier, same⟩ := l.signal_snd mask
  rw [same]
  exact h.of_same rfl rfl signalled publishes taken

/-- Filling the slot by the protocol. -/
theorem noteFill (h : Severed g l reader) {p : Picture}
    (honest : (Deed.noteFill p g l).honest = true) :
    Severed (Deed.noteFilled p g (l.fill p).1) (l.fill p).2 reader := by
  obtain ⟨region, offered⟩ := h.offered
  rcases offered.fill p with ⟨fault, carried, done⟩ | ⟨stocked, done⟩ | stopped
  · rw [done, Deed.noteFilled_of_error carried]
    exact h
  · have put : Deed.noteFilled p g (l.fill p).1 = g.filled p !l.slotReady := by
      rw [done]
      cases l.slotReady <;> rfl
    have offered' := offered.setRegion (g.filled p !l.slotReady) rfl stocked
    have ready : (l.setRegion 0 (region.filled p)).slotReady = true := offered'.slotReady
    have fresh := h.fresh
    rw [put, done]
    refine ⟨⟨_, offered'⟩, ?_⟩
    rw [ready]
    simp only [Ledger.filled, List.length_append, List.length_singleton, Bool.toNat_true]
    omega
  · rw [(Deed.strayed_of_overflow (by rw [stopped])).1] at honest
    cases honest

/-- **A deed by the protocol** keeps what holds. -/
theorem perform (h : Severed g l reader) {d : Deed} (honest : (d.note g l).honest = true) :
    Severed (d.note g l) (d.act l) reader := by
  cases d with
  | announce mask =>
      simp only [Deed.note, Deed.noteAnnounce] at honest ⊢
      split at honest
      · split at honest
        · next may =>
            rw [if_pos may]
            exact h.signal mask (fun _ => List.mem_cons_of_mem _) rfl rfl
        · cases honest
      · cases honest
  | offer mmap capacity =>
      obtain ⟨region, offered⟩ := h.offered
      exact absurd offered.signalled (Deed.unsent_of_noteOffer honest)
  | fill p =>
      have told := Deed.told_of_noteFill honest
      rw [Deed.note, Deed.noteFill, if_neg (by simp [told])]
      exact h.noteFill honest
  | publish p =>
      have told := Deed.told_of_notePublish honest
      have filled : Severed (Deed.noteFilled p g (l.fill p).1) (l.fill p).2 reader := by
        refine h.noteFill (p := p) ?_
        simp only [Deed.note, Deed.notePublish, Deed.noteFill, told, Bool.false_eq_true,
          if_false] at honest ⊢
        split at honest
        · next put =>
            rw [put]
            exact honest
        · exact honest
      rw [Deed.note, Deed.act, Deed.notePublish, if_neg (by simp [told]), Link.publish_eq_fill]
      split
      · next put =>
          rw [put] at filled
          exact filled.signal _ (fun _ => List.mem_cons_of_mem _) rfl rfl
      · exact filled
  | hangUp => exact h.of_same rfl rfl (fun _ mem => mem) rfl rfl
  | other f => cases honest

/-- **Taking what is in the slot**: nothing, or the picture that was published last, which was not taken
before. -/
theorem take {file : Nat} (h : Severed g l (some file)) :
    l.take file = (.ok none, l) ∨
    ∃ p l', g.publishes.getLast? = some p ∧ g.taken < g.publishes.length ∧
      l.take file = (.ok (some ⟨p.data, p.width, p.height, UInt64.ofNat g.publishes.length⟩), l') ∧
      Severed g.received l' (some file) ∧ Severed g.interrupted l' (some file) := by
  obtain ⟨region, offered⟩ := h.offered
  obtain rfl : file = 0 := by simpa using offered.reader
  by_cases ready : region.header.state = SlotState.ready.raw
  · obtain ⟨p, l', newest, took, -, unready, emptied⟩ := offered.take_of_ready ready
    have fresh := h.fresh
    rw [offered.slotReady, decide_eq_true ready, Bool.toNat_true] at fresh
    refine Or.inr ⟨p, l', newest, fresh, took, ⟨⟨_, emptied g.received rfl rfl⟩, ?_⟩,
      ⟨⟨_, emptied g.interrupted rfl rfl⟩, ?_⟩⟩
    · rw [unready]
      exact Nat.le_refl _
    · rw [unready]
      exact Nat.le_of_lt fresh
  · exact Or.inl (offered.take_of_unready ready)

end Severed

/-! ### All links of a producer that goes by the protocol -/

namespace Accounted

variable {g : Ledger} {l : Link} {reader : Option Nat} {waiting : Bool}

/-- A link is wired or cut. -/
theorem wired_or_severed (h : Accounted g l reader waiting) (honest : g.honest = true) :
    Wired g l reader waiting ∨ Severed g l reader := by
  cases cut : g.cut with
  | false => exact Or.inl (h.wired (by simp [Ledger.regular, honest, cut]))
  | true => exact Or.inr (h.severed honest cut)

/-- How far the negotiation has come. -/
theorem stage (h : Accounted g l reader waiting) (honest : g.honest = true) :
    (l.Unoffered g reader ∧ .regionNegotiated ∉ g.signalled) ∨ ∃ region, l.Offered g reader region := by
  rcases h.wired_or_severed honest with wired | severed
  · exact wired.stage
  · exact Or.inr severed.offered

/-- A deed keeps the account. -/
theorem perform (h : Accounted g l reader waiting) (d : Deed) :
    Accounted (d.note g l) (d.act l) reader waiting where
  wired regular := (h.wired ((d.extends_note g l).regular regular)).perform regular
  severed honest cut :=
    (h.severed ((d.extends_note g l).honest honest) ((d.extends_note g l).cut ▸ cut)).perform honest

/-- A link that was just opened. -/
theorem opening (worker : WorkerId) (early : List EventMask) :
    Accounted (Ledger.opening worker early).1 (Ledger.opening worker early).2 none false where
  wired := Wired.opening worker early
  severed := by
    intro _ cut
    rw [Ledger.opening, (Deed.extends_foldl _ _).cut] at cut
    cases cut

/-- A drain keeps the account, if the worker is marked for what was drained. -/
theorem drained (h : Accounted g l reader waiting) {mask : EventMask} (drained : l.drain.1 = some mask) :
    Accounted g.drained l.drain.2 reader (waiting || mask.contains .frameWaiting) where
  wired regular := by
    have wired := h.wired regular
    have events := wired.drain_fst
    rw [drained] at events
    have waits : mask.contains .frameWaiting = g.undrained.contains .frameWaiting := by
      split at events
      · cases events
      · rw [Option.some.inj events, EventMask.contains_ofEvents]
    rw [waits]
    exact wired.drained
  severed honest cut := (h.severed honest cut).of_same rfl rfl (fun _ mem => mem) rfl rfl

/-- Receiving a region, or failing to, keeps the account. -/
theorem receiveRegion (h : Accounted g l none waiting) (mmap : Mmap) :
    Accounted g (l.receiveRegion mmap).2 (l.receiveRegion mmap).1.toOption waiting where
  wired regular := (h.wired regular).receiveRegion mmap
  severed honest cut := by
    have severed := h.severed honest cut
    obtain ⟨region, offered⟩ := severed.offered
    obtain ⟨⟨control, same⟩, inside⟩ := l.receiveRegion_cases mmap
    rw [same]
    refine ⟨⟨region, offered.writer, offered.files, ?_, offered.signalled, offered.stocked⟩,
      severed.fresh⟩
    cases received : (l.receiveRegion mmap).1 with
    | error fault => exact Or.inl rfl
    | ok file =>
        have below := inside file received
        rw [offered.files] at below
        exact Or.inr (congrArg some (Nat.lt_one_iff.1 below))

section

variable {file : Nat} {frame : SlotFrame} (h : Accounted g l (some file) true)

include h

/-- **A frame that is taken** is the picture that was published last, and was not taken before. -/
theorem frame_eq (honest : g.honest = true) (took : (l.take file).1 = .ok (some frame)) :
    ∃ p, g.publishes.getLast? = some p ∧ g.taken < g.publishes.length ∧
      frame = ⟨p.data, p.width, p.height, UInt64.ofNat g.publishes.length⟩ := by
  rcases h.wired_or_severed honest with wired | severed
  · obtain ⟨p, l', newest, untaken, done, -⟩ := wired.take
    rw [done] at took
    cases took
    exact ⟨p, newest, untaken, rfl⟩
  · rcases severed.take with nothing | ⟨p, l', newest, untaken, done, -⟩
    · rw [nothing] at took
      cases took
    · rw [done] at took
      cases took
      exact ⟨p, newest, untaken, rfl⟩

/-- Taking a frame keeps the account. -/
theorem took (took : (l.take file).1 = .ok (some frame)) :
    Accounted g.received (l.take file).2 (some file) false where
  wired regular := by
    obtain ⟨p, l', -, -, done, wired⟩ := (h.wired regular).take
    rw [done]
    exact wired
  severed honest cut := by
    rcases (h.severed honest cut).take with nothing | ⟨p, l', -, -, done, severed, -⟩
    · rw [nothing] at took
      cases took
    · rw [done]
      exact severed

/-- Finding none does, too: on a link that is wired it would have been there. -/
theorem missed (missed : ∀ frame, (l.take file).1 ≠ .ok (some frame)) :
    Accounted g (l.take file).2 (some file) true where
  wired regular := by
    obtain ⟨p, l', -, -, done, -⟩ := (h.wired regular).take
    exact absurd (congrArg Prod.fst done) (missed _)
  severed honest cut := by
    rcases (h.severed honest cut).take with nothing | ⟨p, l', -, -, done, -⟩
    · rw [nothing]
      exact h.severed honest cut
    · exact absurd (congrArg Prod.fst done) (missed _)

/-- And so does stopping in the middle, which cuts the link. -/
theorem interrupted (took : (l.take file).1 = .ok (some frame)) :
    Accounted g.interrupted (l.take file).2 (some file) true where
  wired regular := absurd regular g.not_regular_interrupted
  severed honest _ := by
    rcases h.wired_or_severed honest with wired | severed
    · have below := wired.fresh
      obtain ⟨p, l', -, -, done, after⟩ := wired.take
      rw [done]
      rcases after.stage with ⟨unoffered, -⟩ | ⟨region, offered⟩
      · cases unoffered.reader
      · have unready := after.fresh
        refine ⟨⟨region, offered.writer, offered.files, offered.reader, offered.signalled,
          offered.stocked⟩, ?_⟩
        change g.publishes.length + l'.slotReady.toNat ≤ g.publishes.length at unready
        show g.taken + l'.slotReady.toNat ≤ g.publishes.length
        omega
    · rcases severed.take with nothing | ⟨p, l', -, -, done, -, after⟩
      · rw [nothing] at took
        cases took
      · rw [done]
        exact after

end

end Accounted

end FrameMux
