/-
**Who is never cut short.**

A pass that stops in the middle loses the frame that it stopped at, which is out of the slot and in no
count, and from then on the signs of that link are worth nothing.  It takes numbers of a producer's own
making, or more pictures than a word counts: as long as all producers of a worker go by the protocol,
the frames that it missed are fewer than the pictures that they published.

Main definitions:

* `FrameMux.World.Whole` — no pass was cut short on a link whose producer goes by the protocol;
* `FrameMux.World.Faithful` — **all producers of a worker went by the protocol**, and published no more
  pictures than a word counts;
* `FrameMux.World.Frugal`, `FrameMux.World.Intact` — the invariants: no more was missed than put in,
  and nothing was cut short.

Main results:

* `FrameMux.World.Part.whole_or_overfull`, `FrameMux.World.Whole.step` — what cuts a link short;
* `FrameMux.World.Frugal.not_overfull` — **a faithful worker can count every frame**;
* `FrameMux.World.ends_of_faithful` — so passes come to their ends;
* `FrameMux.World.no_lost_wakeup` — **no wakeup is lost**, in any run.
-/

import FrameMux.Proofs.World.Sums

set_option relaxedAutoImplicit false
set_option autoImplicit false

namespace FrameMux

/-! ### Sums over ledgers -/

/-- What the ledgers of the producers of a worker come to, all in all. -/
def sumOver (f : Ledger → Nat) (id : WorkerId) : List Ledger → Nat
  | [] => 0
  | g :: rest => (if g.worker = id then f g else 0) + sumOver f id rest

/-- A sum after a change of one ledger. -/
theorem sumOver_modify {f : Ledger → Nat} {id : WorkerId} {l : List Ledger} {n : Nat} {g : Ledger}
    (there : l[n]? = some g) (own : g.worker = id) (change : Ledger → Ledger)
    (own' : (change g).worker = id) :
    sumOver f id (l.modify n change) + f g = sumOver f id l + f (change g) := by
  induction l generalizing n with
  | nil => cases there
  | cons first rest ih =>
      cases n with
      | zero =>
          cases there
          rw [List.modify_zero_cons, sumOver, sumOver, if_pos own, if_pos own']
          omega
      | succ n =>
          rw [List.modify_succ_cons, sumOver, sumOver, Nat.add_assoc, ih there, Nat.add_assoc]

/-- A sum over more ledgers, which come to more. -/
theorem sumOver_le {f f' : Ledger → Nat} {id : WorkerId} {l l' : List Ledger}
    (le : ∀ (n : Nat) (g : Ledger), l[n]? = some g →
      ∃ g', l'[n]? = some g' ∧ g'.worker = g.worker ∧ f g ≤ f' g') :
    sumOver f id l ≤ sumOver f' id l' := by
  induction l generalizing l' with
  | nil => exact Nat.zero_le _
  | cons g rest ih =>
      obtain ⟨g', first, worker, more⟩ := le 0 g rfl
      cases l' with
      | nil => cases first
      | cons g'' rest' =>
          cases first
          have others : sumOver f id rest ≤ sumOver f' id rest' := ih fun n => le (n + 1)
          rw [sumOver, sumOver, worker]
          split
          · exact Nat.add_le_add more others
          · exact Nat.add_le_add_left others 0

/-- One ledger is no more than all. -/
theorem le_sumOver {f : Ledger → Nat} {id : WorkerId} {l : List Ledger} {g : Ledger} (mem : g ∈ l)
    (own : g.worker = id) : f g ≤ sumOver f id l := by
  induction mem with
  | head =>
      rw [sumOver, if_pos own]
      exact Nat.le_add_right _ _
  | tail _ _ ih => exact Nat.le_trans ih (Nat.le_add_left _ _)

namespace World

variable {σ : Type} {w w' : World σ} {id : WorkerId} {n : Nat} {r : Receipt}

/-! ### Links on which no pass was cut short -/

/-- No pass was cut short on a link, as long as its producer goes by the protocol. -/
def Whole (n : Nat) (w : World σ) : Prop :=
  ∀ g, w.ledgers[n]? = some g → g.honest = true → g.cut = false

theorem Whole.regular (whole : w.Whole n) {g : Ledger} (noted : w.ledgers[n]? = some g)
    (honest : g.honest = true) : g.regular = true := by
  simp [Ledger.regular, honest, whole g noted honest]

theorem Whole.of_eq (whole : w.Whole n) (same : w'.ledgers[n]? = w.ledgers[n]?) : w'.Whole n :=
  fun g there => whole g (same ▸ there)

/-- By deeds no link is cut. -/
theorem Whole.noted (whole : w.Whole n) (noted : Noted w w') : w'.Whole n := by
  intro g' there' honest
  rcases noted n g' there' with ⟨-, id, opened⟩ | ⟨g, there, goes⟩
  · exact opened.cut
  · exact goes.cut.trans (whole g there (goes.honest honest))

/-- Nor is one by taking a frame. -/
theorem Whole.took (whole : w.Whole n) (took : Took w w' r) : w'.Whole n := by
  intro g' there' honest
  rw [took.ledgers, List.getElem?_modify] at there'
  obtain ⟨g, there, rfl⟩ := Option.map_eq_some_iff.1 there'
  split at honest
  · next same =>
      rw [if_pos same]
      exact whole g there honest
  · next other =>
      rw [if_neg other]
      exact whole g there honest

variable [ProcessManager σ]

/-- **What cuts a link short** is a frame that its worker cannot count. -/
theorem Part.whole_or_overfull {D : Nat → Deed → Prop} (part : Part D w w') (sound : w.Sound)
    (whole : w.Whole n) : w'.Whole n ∨ ∃ id, w.Overfull id n := by
  rcases part.uncounted_or_took sound with idle | ⟨r, took⟩
  · rcases idle.noted with noted | ⟨id, m, overfull, ledgers⟩
    · exact .inl (whole.noted noted)
    · by_cases same : m = n
      · exact .inr ⟨id, same ▸ overfull⟩
      · exact .inl (whole.of_eq (by rw [ledgers, List.getElem?_modify_ne _ _ same]))
  · exact .inl (whole.took took)

/-- Only a pass cuts a link short. -/
theorem Whole.step (whole : w.Whole n) (named : w.Named) {a : Action}
    (blind : ∀ now, a ≠ .readFrames now) : (w.step a).Whole n := by
  cases supervises : a.supervises with
  | true =>
      refine (supervise_induction (I := fun v => v.Named ∧ v.Whole n) (fun _ h => h.1) ?_ supervises
        ⟨named, whole⟩).2
      rintro v id s ⟨named, whole⟩ move
      obtain ⟨new, calls⟩ := move.calls
      exact ⟨Part.named (D := fun _ _ => True) (.move move) named, whole.noted (noted_follow calls)⟩
  | false =>
      refine whole.noted ?_
      cases a with
      | addWorker id source now =>
          simp only [World.step]
          split
          · exact noted_of_eq rfl
          · exact noted_of_eq rfl
      | dispatch token mmap =>
          have dispatched := w.dispatched_dispatch token mmap
          show Noted w (w.dispatch token mmap)
          generalize w.dispatch token mmap = v at dispatched ⊢
          cases dispatched with
          | idle => exact noted_of_eq rfl
          | drained => exact noted_modify rfl Ledger.extends_drained
      | readFrames now => exact absurd rfl (blind now)
      | produce m d =>
          cases there : w.sup.links[m]? with
          | none =>
              rw [World.step, produce_of_unlinked there]
              exact noted_of_eq rfl
          | some link =>
              rw [World.step, produce_of_link there]
              exact noted_modify rfl fun g => d.extends_note g _
      | wait | pullOne | pullBatch | snapshot | release => exact noted_of_eq rfl
      | _ => cases supervises

/-! ### Faithful producers -/

omit [ProcessManager σ] in
/-- **All producers of a worker went by the protocol**, and their pictures are no more than a word
counts. -/
structure Faithful (w : World σ) (id : WorkerId) : Prop where
  honest : ∀ g ∈ w.ledgers, g.worker = id → g.honest = true
  few : sumOver (·.publishes.length) id w.ledgers < UInt64.size

omit [ProcessManager σ] in
/-- They did so before. -/
theorem Faithful.earlier (h : w'.Faithful id) (later : LaterLedgers w.ledgers w'.ledgers) :
    w.Faithful id where
  honest := by
    intro g mem own
    obtain ⟨n, there⟩ := List.mem_iff_getElem?.1 mem
    obtain ⟨g', there', goes⟩ := later n g there
    exact goes.honest (h.honest g' (List.mem_of_getElem? there') (goes.worker.trans own))
  few := by
    refine Nat.lt_of_le_of_lt (sumOver_le fun n g there => ?_) h.few
    obtain ⟨g', there', goes⟩ := later n g there
    exact ⟨g', there', goes.worker, goes.publishes.length_le⟩

omit [ProcessManager σ] in
/-- The pictures of one of them are no more than a word counts. -/
theorem Faithful.publishes_lt (h : w.Faithful id) {g : Ledger} (mem : g ∈ w.ledgers)
    (own : g.worker = id) : g.publishes.length < UInt64.size :=
  Nat.lt_of_le_of_lt (le_sumOver (f := fun g => g.publishes.length) mem own) h.few

omit [ProcessManager σ] in
/-- No more frames were missed than pictures were put in up to those that were taken last. -/
structure Frugal (w : World σ) : Prop where
  latest : ∀ (n : Nat) (g : Ledger), w.ledgers[n]? = some g → g.honest = true →
    g.publishes.length < UInt64.size → g.taken = lastOver w.stored n
  total : ∀ id, w.Faithful id → skips id w.stored ≤ sumOver (·.taken) id w.ledgers

omit [ProcessManager σ] in
/-- What is not counted is not missed. -/
theorem Frugal.uncounted (h : w.Frugal) (orderly : w.Orderly) (idle : Uncounted w w')
    (later : LaterLedgers w.ledgers w'.ledgers) : w'.Frugal where
  latest := by
    intro n g' there' honest few
    have steady {g : Ledger} (there : w.ledgers[n]? = some g) (taken : g'.taken = g.taken)
        (before : g.honest = true) (publishes : g.publishes <+: g'.publishes) :
        g'.taken = lastOver w'.stored n := by
      rw [idle.stored, taken]
      exact h.latest n g there before (Nat.lt_of_le_of_lt publishes.length_le few)
    rcases idle.noted with noted | ⟨id, m, -, ledgers⟩
    · rcases noted n g' there' with ⟨new, id, opened⟩ | ⟨g, there, goes⟩
      · -- Over a new link nothing can have been taken.
        rw [idle.stored, lastOver_of_new]
        · exact opened.taken
        · intro r mem same
          obtain ⟨g, there, -⟩ := orderly.delivered.genuine r mem
          have below := (List.getElem?_eq_some_iff.1 there).1
          omega
      · exact steady there goes.taken (goes.honest honest) goes.publishes
    · rw [ledgers, List.getElem?_modify] at there'
      obtain ⟨g, there, rfl⟩ := Option.map_eq_some_iff.1 there'
      split at honest
      · next same =>
          rw [if_pos same] at steady ⊢
          exact steady there rfl honest (List.prefix_refl _)
      · next other =>
          rw [if_neg other] at steady ⊢
          exact steady there rfl honest (List.prefix_refl _)
  total := by
    intro id faithful
    rw [idle.stored]
    refine Nat.le_trans (h.total id (faithful.earlier later)) (sumOver_le fun n g there => ?_)
    obtain ⟨g', there', goes⟩ := later n g there
    exact ⟨g', there', goes.worker, goes.taken⟩

omit [ProcessManager σ] in
/-- Before a frame that is taken no more were missed than pictures put in. -/
theorem Frugal.took (h : w.Frugal) (sound : SoundLedgers w.ledgers) (took : Took w w' r)
    (later : LaterLedgers w.ledgers w'.ledgers) : w'.Frugal := by
  obtain ⟨g, newest⟩ := took.newest
  have here : w'.ledgers[r.link]? = some g.received := by
    rw [took.ledgers, List.getElem?_modify_eq, newest.ledger]
    rfl
  have sequence (honest : g.honest = true) (few : g.publishes.length < UInt64.size) :
      r.sequence.toNat = g.publishes.length := by
    rw [newest.sequence honest, newest.newest, UInt64.toNat_ofNat_of_lt' few]
  refine ⟨fun n g' there' honest few => ?_, fun id faithful => ?_⟩
  · rw [took.stored, lastOver_concat]
    by_cases same : r.link = n
    · subst same
      cases here.symm.trans there'
      rw [if_pos rfl, sequence honest few]
      rfl
    · rw [took.ledgers, List.getElem?_modify_ne _ _ same] at there'
      rw [if_neg same]
      exact h.latest n g' there' honest few
  · have before := h.total id (faithful.earlier later)
    rw [took.stored, skips_concat]
    by_cases own : r.worker = id
    · have worker : g.worker = id := newest.worker.trans own
      have honest := faithful.honest g.received (List.mem_of_getElem? here) worker
      have few := faithful.publishes_lt (List.mem_of_getElem? here) worker
      have sum := sumOver_modify (f := fun g => g.taken) newest.ledger worker
        Ledger.received worker
      have inside := sound g (List.mem_of_getElem? newest.ledger)
      change sumOver (fun g => g.taken) id _ + g.taken =
        sumOver (fun g => g.taken) id _ + g.publishes.length at sum
      unfold Ledger.Sound at inside
      rw [if_pos own, Receipt.jump, sequence honest few, ← h.latest _ g newest.ledger honest few,
        took.ledgers]
      omega
    · rw [if_neg own, Nat.add_zero]
      refine Nat.le_trans before (sumOver_le fun n g there => ?_)
      obtain ⟨g', there', goes⟩ := later n g there
      exact ⟨g', there', goes.worker, goes.taken⟩

omit [ProcessManager σ] in
/-- **A worker whose producers are faithful can count every frame.** -/
theorem Frugal.not_overfull (h : w.Frugal) (orderly : w.Orderly) (summed : w.Summed)
    (faithful : w.Faithful id) (n : Nat) : ¬ w.Overfull id n := by
  intro overfull
  obtain ⟨frame, ⟨rec, file, link, waits, took⟩, outside⟩ := summed.overfull_iff.1 overfull
  obtain ⟨g, l, attached⟩ := orderly.linked.held id rec _ waits.known waits.holds
  obtain rfl : l = link := Option.some.inj (attached.link.symm.trans waits.there)
  have ledger : w.ledgers[n]? = some g := attached.ledger
  have mem := List.mem_of_getElem? ledger
  have honest := faithful.honest g mem attached.worker
  have few := faithful.publishes_lt mem attached.worker
  obtain ⟨p, -, untaken, rfl⟩ := (waits.waiting ▸ attached.accounted).frame_eq honest took
  have total := h.total id faithful
  -- Once the frame is taken, what was taken is still no more than what was published.
  have sum := sumOver_modify (f := fun g => g.taken) ledger attached.worker
    Ledger.received attached.worker
  have sound := (laterLedgers_modify orderly.delivered.sound
    (fun _ => Ledger.later_received) n).2
  have inside : sumOver (fun g => g.taken) id (w.ledgers.modify n Ledger.received) ≤
      sumOver (fun g => g.publishes.length) id (w.ledgers.modify n Ledger.received) :=
    sumOver_le fun m g' there' => ⟨g', there', rfl, sound g' (List.mem_of_getElem? there')⟩
  have published : sumOver (fun g => g.publishes.length) id (w.ledgers.modify n Ledger.received) ≤
      sumOver (fun g => g.publishes.length) id w.ledgers := by
    refine sumOver_le fun m g' there' => ?_
    rw [List.getElem?_modify] at there'
    obtain ⟨g'', there'', rfl⟩ := Option.map_eq_some_iff.1 there'
    refine ⟨g'', there'', ?_, ?_⟩
    · split <;> rfl
    · split <;> exact Nat.le_refl _
  change sumOver (fun g => g.taken) id _ + g.taken =
    sumOver (fun g => g.taken) id _ + g.publishes.length at sum
  have fits := faithful.few
  rw [UInt64.toNat_ofNat_of_lt' few, ← h.latest n g ledger honest few] at outside
  omega

omit [ProcessManager σ] in
/-- No pass was cut short on a link of a worker whose producers are faithful. -/
def Intact (w : World σ) : Prop :=
  ∀ id, w.Faithful id → ∀ (n : Nat) (g : Ledger), w.ledgers[n]? = some g → g.worker = id → w.Whole n

theorem Intact.part {D : Nat → Deed → Prop} (h : w.Intact) (orderly : w.Orderly) (summed : w.Summed)
    (frugal : w.Frugal) (part : Part D w w') : w'.Intact := by
  intro id faithful' n g' there' own
  obtain ⟨later, -⟩ := part.laterLedgers orderly.delivered.sound
  have faithful := faithful'.earlier later
  have owned {g : Ledger} (there : w.ledgers[n]? = some g) : g.worker = id := by
    obtain ⟨g'', there'', goes⟩ := later n g there
    cases there'.symm.trans there''
    exact goes.worker.symm.trans own
  have whole : w.Whole n := fun g there => h id faithful n g there (owned there) g there
  rcases part.whole_or_overfull orderly.sound whole with whole' | ⟨holder, overfull⟩
  · exact whole'
  · have waiting := overfull
    obtain ⟨rec, file, link, frame, waits, -⟩ := waiting
    obtain ⟨g, l, attached⟩ := orderly.linked.held holder rec _ waits.known waits.holds
    obtain rfl : holder = id := attached.worker.symm.trans (owned attached.ledger)
    exact absurd overfull (frugal.not_overfull orderly summed faithful n)

end World

end FrameMux
