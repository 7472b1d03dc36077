/-
**Taking a frame from a hostile producer.**

The memory is shared, so while the reader takes a frame, the producer may write whatever it likes into
the header and the payload, between any two of the reader's accesses.  All it cannot do is resize the
memory, whose size is sealed.  This module follows a call to take under every such attack.  The length
that the reader checks is the one it copies by, since it loads it once; so the call stays in the
payload, ends in time, and writes nothing but the state word.

A slot that was found unfit is emptied for the next picture.  It gets through unless the hostile
producer left the greatest word for the number of pictures: the next one cannot be counted then, and
the call that tries stops in the middle, with the slot claimed.

Main definitions:

* `FrameMux.Slot.Overwrite`, `FrameMux.Slot.Attack` — what a hostile producer does to the memory, and
  when;
* `FrameMux.Slot.Place` — the words and bytes that an access is about;
* `FrameMux.Slot.Call`, `FrameMux.Slot.Attack.call` — **a call to take under an attack**;
* `FrameMux.Slot.Reader.Trusts` — what a reader may rely on: nothing but what it has checked itself.

Main results:

* `FrameMux.Slot.Reader.step_congr` — an access depends on the place it is about, and on no other;
* `FrameMux.Slot.Reader.region_step` — an access writes the state word, if anything;
* `FrameMux.Slot.Attack.trusts`, `FrameMux.Slot.Attack.ends` — what a call relies on holds throughout,
  and every call ends;
* `FrameMux.Slot.Attack.call_alone` — without an attack, the call is the whole operation;
* `FrameMux.Slot.Attack.take_withstands` — **a call to take withstands every attack**;
* `FrameMux.Slot.uncounted_after_violation` — after a violation the next picture may be lost all the
  same.
-/

import FrameMux.Proofs.Handoff.Halves
import FrameMux.Proofs.Handoff.Register

set_option relaxedAutoImplicit false
set_option autoImplicit false

namespace FrameMux.Slot

/-! ### Places -/

/-- What an access is about: a word of the header, or a byte of the payload. -/
inductive Place where
  | state
  | nbytes
  | width
  | height
  | sequence
  | byte (i : Nat)
deriving DecidableEq, Repr

/-- What is at a place of a region. -/
def Place.read (r : Region) : Place → Nat
  | state => r.header.state.toNat
  | nbytes => r.header.nbytes.toNat
  | width => r.header.width.toNat
  | height => r.header.height.toNat
  | sequence => r.header.sequence.toNat
  | byte i => (r.byteAt i).toNat

namespace Reader

variable {q : Reader} {r s : Region}

/-- The place that the next access is about. -/
def place? : Reader → Option Place
  | idle => none
  | claim | release _ | clear _ => some .state
  | nbytes => some .nbytes
  | width _ => some .width
  | height _ _ => some .height
  | sequence _ _ _ => some .sequence
  | copy _ part => some (.byte part.data.length)

/-- A ready slot is claimed. -/
theorem step_claim_of_ready (ready : r.header.state = SlotState.ready.raw) :
    claim.step r = (nbytes, r.inState .reading, none) := by
  simp only [step, Header.transition, if_pos ready, Region.inState]

/-- A slot that is not ready is left alone, unless its state is none. -/
theorem step_claim_of_ne (unready : r.header.state ≠ SlotState.ready.raw) :
    claim.step r =
      if (SlotState.ofRaw? r.header.state).isSome then (idle, r, some (.ok none))
      else (clear (Region.unexpected r.header.state .take), r, none) := by
  simp only [step, Header.transition, if_neg unready]

/-- A slot that is being read is handed back. -/
theorem step_release_of_reading {frame : SlotFrame}
    (reading : r.header.state = SlotState.reading.raw) :
    (release frame).step r = (idle, r.inState .empty, some (.ok (some frame))) := by
  simp only [step, Header.transition, if_pos reading, Region.inState]

/-- A slot that somebody else has moved on is not handed back. -/
theorem step_release_of_ne {frame : SlotFrame} (lost : r.header.state ≠ SlotState.reading.raw) :
    (release frame).step r =
      (idle, r, some (.error (Region.unexpected r.header.state .takeRelease))) := by
  simp only [step, Header.transition, if_neg lost]

/-- **An access depends on the place it is about, and on no other.** -/
theorem step_congr (length : r.length = s.length)
    (same : ∀ place, q.place? = some place → place.read r = place.read s) :
    (q.step r).1 = (q.step s).1 ∧ (q.step r).2.2 = (q.step s).2.2 := by
  have capacity : r.payloadCapacity = s.payloadCapacity := by
    rw [Region.payloadCapacity, Region.payloadCapacity, length]
  cases q with
  | idle => exact ⟨rfl, rfl⟩
  | claim =>
      have state : r.header.state = s.header.state := UInt32.toNat_inj.1 (same .state rfl)
      by_cases ready : s.header.state = SlotState.ready.raw
      · rw [step_claim_of_ready ready, step_claim_of_ready (state.trans ready)]
        exact ⟨rfl, rfl⟩
      · rw [step_claim_of_ne ready, step_claim_of_ne (state ▸ ready), state]
        split <;> exact ⟨rfl, rfl⟩
  | nbytes =>
      have nbytes : r.header.nbytes = s.header.nbytes := UInt64.toNat_inj.1 (same .nbytes rfl)
      simp only [step, nbytes, and_self]
  | width n =>
      have width : r.header.width = s.header.width := UInt32.toNat_inj.1 (same .width rfl)
      simp only [step, width, and_self]
  | height n w =>
      have height : r.header.height = s.header.height := UInt32.toNat_inj.1 (same .height rfl)
      simp only [step, capacity, height]
      split <;> exact ⟨rfl, rfl⟩
  | sequence n w h =>
      have sequence : r.header.sequence = s.header.sequence :=
        UInt64.toNat_inj.1 (same .sequence rfl)
      simp only [step, sequence, and_self]
  | copy n part =>
      have byte : r.byteAt part.data.length = s.byteAt part.data.length :=
        UInt8.toNat_inj.1 (same (.byte part.data.length) rfl)
      simp only [step, byte, and_self]
  | release frame =>
      have state : r.header.state = s.header.state := UInt32.toNat_inj.1 (same .state rfl)
      by_cases reading : s.header.state = SlotState.reading.raw
      · rw [step_release_of_reading reading, step_release_of_reading (state.trans reading)]
        exact ⟨rfl, rfl⟩
      · rw [step_release_of_ne reading, step_release_of_ne (state ▸ reading), state]
        exact ⟨rfl, rfl⟩
  | clear fault => exact ⟨rfl, rfl⟩

/-- **An access writes the state word, if anything.** -/
theorem region_step (q : Reader) (r : Region) :
    (q.step r).2.1 = r ∨ ∃ state, (q.step r).2.1 = r.inState state := by
  cases q with
  | claim =>
      by_cases ready : r.header.state = SlotState.ready.raw
      · rw [step_claim_of_ready ready]
        exact .inr ⟨.reading, rfl⟩
      · rw [step_claim_of_ne ready]
        split <;> exact .inl rfl
  | height n w =>
      simp only [step]
      split <;> exact .inl rfl
  | release frame =>
      by_cases reading : r.header.state = SlotState.reading.raw
      · rw [step_release_of_reading reading]
        exact .inr ⟨.empty, rfl⟩
      · rw [step_release_of_ne reading]
        exact .inl rfl
  | clear fault => exact .inr ⟨.empty, rfl⟩
  | idle | nbytes | width _ | sequence _ _ _ | copy _ _ => exact .inl rfl

/-! ### What a reader relies on -/

/-- How many accesses are left at most, if the payload has some bytes. -/
def left (capacity : Nat) : Reader → Nat
  | idle => 0
  | claim => capacity + 6
  | nbytes => capacity + 5
  | width _ => capacity + 4
  | height _ _ => capacity + 3
  | sequence n _ _ => n.toNat + 2
  | copy n part => n.toNat - part.data.length + 1
  | release _ => 1
  | clear _ => 1

/-- **What a reader may rely on**, given which lengths it has loaded: a length that it goes by is one of
them, and once it was checked there is room for it. -/
def Trusts (capacity : Nat) (loaded : UInt64 → Prop) : Reader → Prop
  | idle => False
  | claim | nbytes => True
  | width n | height n _ => loaded n
  | sequence n _ _ => loaded n ∧ n.toNat ≤ capacity
  | copy n part => loaded n ∧ n.toNat ≤ capacity ∧ part.data.length < n.toNat
  | release frame => ∃ n, loaded n ∧ n.toNat ≤ capacity ∧ frame.data.length = n.toNat
  | clear fault => ∃ cause, fault = .protocol cause

/-- How a call may end, given which lengths it has loaded. -/
def Sound (capacity : Nat) (loaded : UInt64 → Prop) : TakeResult → Prop
  | .ok none => True
  | .ok (some frame) => ∃ n, loaded n ∧ n.toNat ≤ capacity ∧ frame.data.length = n.toNat
  | .error fault => ∃ cause, fault = .protocol cause

/-- What an access may lead to: the call goes on, with fewer accesses left, or it ends. -/
def LeadsTo (capacity : Nat) (loaded : UInt64 → Prop) (q : Reader) :
    Reader × Region × Option TakeResult → Prop
  | (q', _, none) => q'.Trusts capacity loaded ∧ q'.left capacity < q.left capacity
  | (_, _, some result) => Sound capacity loaded result

variable {capacity : Nat} {loaded loaded' : UInt64 → Prop}

/-- A reader goes on to rely on what it has relied on. -/
theorem Trusts.mono (more : ∀ n, loaded n → loaded' n) (h : q.Trusts capacity loaded) :
    q.Trusts capacity loaded' := by
  cases q with
  | idle => exact h
  | claim | nbytes => exact h
  | width n => exact more n h
  | height n w => exact more n h
  | sequence n w h' => exact ⟨more n h.1, h.2⟩
  | copy n part => exact ⟨more n h.1, h.2⟩
  | release frame =>
      obtain ⟨n, there, room⟩ := h
      exact ⟨n, more n there, room⟩
  | clear fault => exact h

/-- What a call has loaded before it has loaded later. -/
theorem Sound.mono (more : ∀ n, loaded n → loaded' n) {result : TakeResult}
    (h : Sound capacity loaded result) : Sound capacity loaded' result := by
  cases result with
  | error fault => exact h
  | ok frame =>
      cases frame with
      | none => trivial
      | some frame =>
          obtain ⟨n, there, room⟩ := h
          exact ⟨n, more n there, room⟩

/-- A reader that relies on something has something left to do. -/
theorem Trusts.left_pos (h : q.Trusts capacity loaded) : 0 < q.left capacity := by
  cases q with
  | idle => exact h.elim
  | claim | nbytes | width _ | height _ _ | sequence _ _ _ | copy _ _ | release _ | clear _ =>
      exact Nat.succ_pos _

/-- It is about to access some place. -/
theorem Trusts.place (h : q.Trusts capacity loaded) : ∃ place, q.place? = some place := by
  cases q with
  | idle => exact h.elim
  | claim | nbytes | width _ | height _ _ | sequence _ _ _ | copy _ _ | release _ | clear _ =>
      exact ⟨_, rfl⟩

/-- If the place is a byte of the payload, there is room for it. -/
theorem Trusts.inside (h : q.Trusts capacity loaded) {i : Nat} (about : q.place? = some (.byte i)) :
    i < capacity := by
  cases q with
  | copy n part =>
      obtain ⟨-, room, inside⟩ := h
      cases about
      exact Nat.lt_of_lt_of_le inside room
  | idle | claim | nbytes | width _ | height _ _ | sequence _ _ _ | release _ | clear _ => cases about

/-- What is left to be copied is a part of what was checked. -/
theorem trusts_copyRest {n : UInt64} (part : SlotFrame) (there : loaded n)
    (room : n.toNat ≤ capacity) (inside : part.data.length ≤ n.toNat) :
    (copyRest n part).Trusts capacity loaded ∧
    (copyRest n part).left capacity ≤ n.toNat - part.data.length + 1 := by
  unfold copyRest
  split
  · next more => exact ⟨⟨there, room, more⟩, Nat.le_refl _⟩
  · next all =>
      refine ⟨⟨n, there, room, by omega⟩, ?_⟩
      simp only [left]
      omega

/-- **After an access the reader relies on what it has checked**, and fewer accesses are left, unless
the access was the last one. -/
theorem Trusts.step (room : r.payloadCapacity.toNat = capacity) (h : q.Trusts capacity loaded)
    (loads : q = nbytes → loaded r.header.nbytes) :
    q.LeadsTo capacity loaded (q.step r) := by
  cases q with
  | idle => exact h.elim
  | claim =>
      by_cases ready : r.header.state = SlotState.ready.raw
      · rw [step_claim_of_ready ready]
        exact ⟨trivial, Nat.lt_succ_self _⟩
      · rw [step_claim_of_ne ready]
        by_cases known : (SlotState.ofRaw? r.header.state).isSome = true
        · rw [if_pos known]
          trivial
        · rw [if_neg known]
          refine ⟨⟨_, rfl⟩, ?_⟩
          simp only [left]
          omega
  | nbytes => exact ⟨loads rfl, Nat.lt_succ_self _⟩
  | width n => exact ⟨h, Nat.lt_succ_self _⟩
  | height n w =>
      by_cases crowded : r.payloadCapacity < n
      · rw [show (height n w).step r = _ from if_pos crowded]
        refine ⟨⟨_, rfl⟩, ?_⟩
        simp only [left]
        omega
      · have fits : n.toNat ≤ capacity := by
          rw [← room]
          exact UInt64.le_iff_toNat_le.1 (UInt64.not_lt.1 crowded)
        rw [show (height n w).step r = _ from if_neg crowded]
        refine ⟨⟨h, fits⟩, ?_⟩
        simp only [left]
        omega
  | sequence n w h' =>
      obtain ⟨trusts, fewer⟩ :=
        trusts_copyRest ⟨[], w, h', r.header.sequence⟩ h.1 h.2 (Nat.zero_le _)
      exact ⟨trusts, Nat.lt_succ_of_le fewer⟩
  | copy n part =>
      obtain ⟨there, fits, inside⟩ := h
      have longer : (part.data ++ [r.byteAt part.data.length]).length = part.data.length + 1 :=
        List.length_append
      obtain ⟨trusts, fewer⟩ := trusts_copyRest
        { part with data := part.data ++ [r.byteAt part.data.length] } there fits
        (Nat.le_trans (Nat.le_of_eq longer) inside)
      refine ⟨trusts, Nat.lt_of_le_of_lt fewer ?_⟩
      simp only [left, longer]
      omega
  | release frame =>
      by_cases reading : r.header.state = SlotState.reading.raw
      · rw [step_release_of_reading reading]
        exact h
      · rw [step_release_of_ne reading]
        exact ⟨_, rfl⟩
  | clear fault => exact h

end Reader

/-! ### Slots that hold no frame -/

/-- Nothing is taken from a slot in any state but ready. -/
theorem take_of_known {r : Region} {state : SlotState} (known : r.header.state = state.raw)
    (unready : state ≠ .ready) : r.take = (.ok none, r) := by
  have refused : r.header.transition .ready .reading = .error r.header.state :=
    if_neg (by rw [known]; exact raw_ne unready)
  simp only [Region.take, refused]
  rw [if_pos (by rw [known, SlotState.ofRaw?_raw]; rfl)]

/-- A slot in no state at all is emptied. -/
theorem take_of_unknown {r : Region} (unknown : SlotState.ofRaw? r.header.state = none) :
    r.take = (.error (Region.unexpected r.header.state .take), r.inState .empty) := by
  have unready : r.header.state ≠ SlotState.ready.raw := by
    intro ready
    rw [ready, SlotState.ofRaw?_raw] at unknown
    cases unknown
  have refused : r.header.transition .ready .reading = .error r.header.state := if_neg unready
  simp only [Region.take, refused]
  rw [if_neg (by rw [unknown]; exact Bool.false_ne_true)]
  rfl

/-- What is published into an emptied slot is told about, and taken next, if it can be counted. -/
theorem publish_emptied {r : Region} {p : Picture} {notifier : Notifier}
    (fits : p.data.length = r.payloadCapacity.toNat)
    (unsaturated : notifier.counter.toNat + 8 < Notifier.limit) (counts : r.Countable) :
    ∃ told frame left,
      Channel.publish ⟨r.inState .empty, notifier⟩ p.data p.width p.height = (.ok .published, told) ∧
      told.take = (.ok (some frame), left) ∧ frame.picture = p := by
  have told := Channel.publish_of_empty (c := ⟨r.inState .empty, notifier⟩) fits rfl counts unsaturated
  have taken := Region.take_filled (r := r.inState .empty) fits
  exact ⟨_, _, _, told, by rw [Channel.take, taken], rfl⟩

/-- Otherwise the call that publishes it stops, and leaves the slot claimed. -/
theorem publish_emptied_of_uncountable {r : Region} {p : Picture} (notifier : Notifier)
    (fits : p.data.length = r.payloadCapacity.toNat) (ended : ¬ r.Countable) :
    Channel.publish ⟨r.inState .empty, notifier⟩ p.data p.width p.height =
      (.error .overflow, ⟨(r.inState .empty).stuck p, notifier⟩) := by
  rw [Channel.publish, Region.publish_of_uncountable (r := r.inState .empty) fits (Or.inl rfl) ended]

/-- **What a call to take comes to**, in memory that stays as it is.  A slot that it finds unfit is
good for the next picture. -/
theorem take_undisturbed (r : Region) :
    (r.header.state = SlotState.ready.raw → r.header.nbytes ≤ r.payloadCapacity →
      r.take = (.ok (some ⟨(List.range r.header.nbytes.toNat).map r.byteAt, r.header.width,
        r.header.height, r.header.sequence⟩), r.inState .empty)) ∧
    (r.header.state = SlotState.ready.raw → r.payloadCapacity < r.header.nbytes →
      ∃ fault, r.take = (.error (.protocol fault), r.inState .empty)) ∧
    (SlotState.ofRaw? r.header.state = none →
      ∃ fault, r.take = (.error (.protocol fault), r.inState .empty)) ∧
    (∀ state, r.header.state = SlotState.raw state → state ≠ .ready → r.take = (.ok none, r)) := by
  refine ⟨?_, ?_, ?_, ?_⟩
  · intro ready fits
    rw [Region.take_of_ready ready fits, Region.heldFrame, Region.readPayload_eq_map]
    rfl
  · intro ready crowded
    exact ⟨_, Region.take_of_oversized ready crowded⟩
  · intro unknown
    exact ⟨_, take_of_unknown unknown⟩
  · intro state known unready
    exact take_of_known known unready

/-- A call to take that fails leaves the slot empty. -/
theorem inState_of_take_error {r : Region} {fault : ChannelError}
    (failed : r.take.1 = .error fault) : r.take.2 = r.inState .empty := by
  obtain ⟨fit, oversized, unknown, known⟩ := take_undisturbed r
  cases state : SlotState.ofRaw? r.header.state with
  | none =>
      obtain ⟨cause, taken⟩ := unknown state
      rw [taken]
  | some found =>
      have named := SlotState.ofRaw?_eq_some_iff.1 state
      by_cases ready : found = .ready
      · subst ready
        by_cases crowded : r.payloadCapacity < r.header.nbytes
        · obtain ⟨cause, taken⟩ := oversized named crowded
          rw [taken]
        · rw [fit named (UInt64.not_lt.1 crowded)]
      · rw [known found named ready] at failed
        cases failed

/-! ### Attacks -/

/-- What a hostile producer does to the memory at once: anything that leaves its size. -/
structure Overwrite where
  apply : Region → Region
  length_apply : ∀ r, (apply r).length = r.length

/-- Bytes written over the header, or over the payload. -/
def Overwrite.poke (offset : Nat) (bytes : Bytes) : Overwrite :=
  ⟨fun r => r.poke offset bytes, fun _ => rfl⟩

/-- Nothing is done. -/
def Overwrite.none : Overwrite := ⟨fun r => r, fun _ => rfl⟩

/-- What is done to the memory before each access of the reader. -/
abbrev Attack := Nat → Overwrite

/-- A call to take: how far it has come, the memory, and its result once it is over. -/
structure Call where
  reader : Reader
  region : Region
  result : Option TakeResult

/-- The next access of a call, in memory that may have changed since the last one. -/
def Call.step (c : Call) (r : Region) : Call :=
  if c.result.isSome then { c with region := r }
  else ⟨(c.reader.step r).1, (c.reader.step r).2.1, (c.reader.step r).2.2⟩

namespace Attack

variable (attack : Attack) (r : Region)

/-- **A call to take under an attack**, after some accesses. -/
def call : Nat → Call
  | 0 => ⟨.claim, r, none⟩
  | k + 1 => (call k).step ((attack k).apply (call k).region)

/-- The memory that an access meets. -/
def met (k : Nat) : Region := (attack k).apply (attack.call r k).region

/-- Whether a call has loaded a length by the time of an access. -/
def Loaded (k : Nat) (n : UInt64) : Prop :=
  ∃ j < k, (attack.call r j).reader = .nbytes ∧ (attack.met r j).header.nbytes = n

variable {attack r} {k : Nat}

/-- The size of the memory is final. -/
theorem length_met (k : Nat) : (attack.met r k).length = r.length := by
  have region : (attack.call r k).region.length = r.length := by
    induction k with
    | zero => rfl
    | succ k ih =>
        have kept : (attack.met r k).length = r.length := ((attack k).length_apply _).trans ih
        show ((attack.call r k).step (attack.met r k)).region.length = r.length
        unfold Call.step
        split
        · exact kept
        · show ((attack.call r k).reader.step (attack.met r k)).2.1.length = r.length
          rcases (attack.call r k).reader.region_step (attack.met r k) with same | ⟨state, same⟩
          · rw [same, kept]
          · rw [same]
            exact kept
  exact ((attack k).length_apply _).trans region

/-- So is the room behind its header. -/
theorem capacity_met (k : Nat) : (attack.met r k).payloadCapacity = r.payloadCapacity := by
  rw [Region.payloadCapacity, Region.payloadCapacity, length_met]

theorem call_succ (open_ : (attack.call r k).result = none) :
    attack.call r (k + 1) = ⟨((attack.call r k).reader.step (attack.met r k)).1,
      ((attack.call r k).reader.step (attack.met r k)).2.1,
      ((attack.call r k).reader.step (attack.met r k)).2.2⟩ := by
  show (attack.call r k).step (attack.met r k) = _
  unfold Call.step
  rw [open_]
  rfl

/-- A call that is over stays so. -/
theorem result_succ {result : TakeResult} (finished : (attack.call r k).result = some result) :
    (attack.call r (k + 1)).result = some result := by
  show ((attack.call r k).step (attack.met r k)).result = some result
  unfold Call.step
  rw [if_pos (by rw [finished]; rfl)]
  exact finished

/-- **What a call relies on holds throughout**, it gets nearer to its end with every access, and it
ends only in ways it may. -/
theorem trusts (attack : Attack) (r : Region) (k : Nat) :
    ((attack.call r k).result = none →
      (attack.call r k).reader.Trusts r.payloadCapacity.toNat (attack.Loaded r k) ∧
      (attack.call r k).reader.left r.payloadCapacity.toNat + k ≤ r.payloadCapacity.toNat + 6) ∧
    ∀ result, (attack.call r k).result = some result →
      Reader.Sound r.payloadCapacity.toNat (attack.Loaded r k) result := by
  induction k with
  | zero =>
      refine ⟨fun _ => ⟨trivial, Nat.le_refl _⟩, ?_⟩
      intro result finished
      cases finished
  | succ k ih =>
      obtain ⟨going, ended⟩ := ih
      have more : ∀ n, attack.Loaded r k n → attack.Loaded r (k + 1) n := by
        rintro n ⟨j, before, loads⟩
        exact ⟨j, Nat.lt_succ_of_lt before, loads⟩
      cases open_ : (attack.call r k).result with
      | some result =>
          have finished := result_succ open_
          rw [finished]
          refine ⟨?_, ?_⟩
          · intro absent
            cases absent
          · rintro result' ⟨⟩
            exact (ended result open_).mono more
      | none =>
          obtain ⟨trusts, near⟩ := going open_
          have leads := (trusts.mono more).step (r := attack.met r k)
            (by rw [capacity_met]) (fun loads => ⟨k, Nat.lt_succ_self k, loads, rfl⟩)
          rw [call_succ open_]
          cases step : (attack.call r k).reader.step (attack.met r k) with
          | mk q rest =>
              obtain ⟨region, result⟩ := rest
              rw [step] at leads
              cases result with
              | none =>
                  refine ⟨fun _ => ⟨leads.1, ?_⟩, ?_⟩
                  · have fewer := leads.2
                    dsimp only
                    omega
                  · intro result finished
                    cases finished
              | some result =>
                  refine ⟨?_, ?_⟩
                  · intro absent
                    cases absent
                  · rintro result' ⟨⟩
                    exact leads

/-- **Every call ends**, after one access for each byte that there is room for, and six more. -/
theorem ends (attack : Attack) (r : Region) :
    (attack.call r (r.payloadCapacity.toNat + 6)).result.isSome := by
  cases open_ : (attack.call r (r.payloadCapacity.toNat + 6)).result with
  | some result => rfl
  | none =>
      obtain ⟨trusts, near⟩ := (attack.trusts r _).1 open_
      have active := trusts.left_pos
      omega

/-! ### No attack -/

/-- Without an attack, a call that is over stays as it is. -/
theorem call_of_over (idle : ∀ k, attack k = .none) {k m : Nat} (le : k ≤ m)
    (finished : (attack.call r k).result.isSome) : attack.call r m = attack.call r k := by
  induction le with
  | refl => rfl
  | @step m le ih =>
      have met : attack.met r m = (attack.call r k).region := by
        rw [Attack.met, idle, ih]
        rfl
      show (attack.call r m).step (attack.met r m) = attack.call r k
      rw [met, ih, Call.step, if_pos finished]

/-- Without an attack, the accesses of a call are those of a call that is left alone. -/
theorem call_of_alone (idle : ∀ k, attack k = .none) {q : Reader} {s s' : Region}
    {result : TakeResult} (alone : q.Alone s result s') (here : attack.call r k = ⟨q, s, none⟩) :
    ∃ j, (attack.call r j).result = some result ∧ (attack.call r j).region = s' := by
  have next {k : Nat} {q : Reader} {s : Region} (here : attack.call r k = ⟨q, s, none⟩) :
      attack.call r (k + 1) = ⟨(q.step s).1, (q.step s).2.1, (q.step s).2.2⟩ := by
    have met : attack.met r k = s := by
      rw [Attack.met, idle, here]
      rfl
    rw [call_succ (by rw [here]), met, here]
  induction alone generalizing k with
  | last step =>
      have there := next here
      rw [step] at there
      exact ⟨k + 1, by rw [there], by rw [there]⟩
  | more step _ ih =>
      have there := next here
      rw [step] at there
      exact ih there

/-- **Without an attack, the call is the whole operation.** -/
theorem call_alone (idle : ∀ k, attack k = .none) :
    (attack.call r (r.payloadCapacity.toNat + 6)).result = some r.take.1 ∧
    (attack.call r (r.payloadCapacity.toNat + 6)).region = r.take.2 := by
  obtain ⟨j, result, region⟩ := call_of_alone (k := 0) idle (take_alone r) rfl
  have finished : (attack.call r j).result.isSome := by
    rw [result]
    rfl
  rcases Nat.le_total j (r.payloadCapacity.toNat + 6) with before | after
  · rw [call_of_over idle before finished]
    exact ⟨result, region⟩
  · rw [← call_of_over idle after (attack.ends r)]
    exact ⟨result, region⟩

/-! ### Every attack -/

/-- **Each access of a call is about one place.**  No payload byte beyond the room for them is among
these places, and nothing but the state word is written. -/
theorem access (open_ : (attack.call r k).result = none) :
    ∃ place, (attack.call r k).reader.place? = some place ∧
      (∀ i, place = .byte i → i < r.payloadCapacity.toNat) ∧
      (∀ s : Region, s.length = r.length → place.read s = place.read (attack.met r k) →
        ((attack.call r k).reader.step s).1 = (attack.call r (k + 1)).reader ∧
        ((attack.call r k).reader.step s).2.2 = (attack.call r (k + 1)).result) ∧
      ((attack.call r (k + 1)).region = attack.met r k ∨
        ∃ state, (attack.call r (k + 1)).region = (attack.met r k).inState state) := by
  obtain ⟨trusts, -⟩ := (attack.trusts r k).1 open_
  obtain ⟨place, about⟩ := trusts.place
  refine ⟨place, about, ?_, ?_, ?_⟩
  · rintro i rfl
    exact trusts.inside about
  · intro s length same
    rw [call_succ open_]
    refine Reader.step_congr (length.trans (length_met k).symm) ?_
    intro other about'
    cases about.symm.trans about'
    exact same
  · rw [call_succ open_]
    exact (attack.call r k).reader.region_step (attack.met r k)

/-- How a call may end. -/
theorem outcome {result : TakeResult} (finished : (attack.call r k).result = some result) :
    result = .ok none ∨ (∃ fault, result = .error (.protocol fault)) ∨
    ∃ frame, result = .ok (some frame) ∧ frame.data.length ≤ r.payloadCapacity.toNat ∧
      ∃ j < k, (attack.call r j).reader = .nbytes ∧
        frame.data.length = (attack.met r j).header.nbytes.toNat := by
  have sound := (attack.trusts r k).2 result finished
  cases result with
  | error fault =>
      obtain ⟨cause, rfl⟩ := sound
      exact .inr (.inl ⟨cause, rfl⟩)
  | ok frame =>
      cases frame with
      | none => exact .inl rfl
      | some frame =>
          obtain ⟨n, ⟨j, before, loads, rfl⟩, room, length⟩ := sound
          exact .inr (.inr ⟨frame, rfl, length ▸ room, j, before, loads, length⟩)

/-- **A call to take withstands every attack.**  It ends in time; each of its accesses is about one
place, which is no byte beyond the payload, and nothing but the state word is written; and it ends with
no frame, with a violation, or with a frame of a length that it loaded itself and that there is room
for.  Without an attack, it yields what the header says there is, or empties a slot that is unfit.  The
next picture then **gets through exactly if it can be counted**; if not, the call that publishes it
stops and leaves the slot claimed. -/
theorem take_withstands (attack : Attack) (r : Region) :
    (attack.call r (r.payloadCapacity.toNat + 6)).result.isSome ∧
    (∀ k, (attack.call r k).result = none →
      ∃ place, (attack.call r k).reader.place? = some place ∧
        (∀ i, place = .byte i → i < r.payloadCapacity.toNat) ∧
        (∀ s : Region, s.length = r.length → place.read s = place.read (attack.met r k) →
          ((attack.call r k).reader.step s).1 = (attack.call r (k + 1)).reader ∧
          ((attack.call r k).reader.step s).2.2 = (attack.call r (k + 1)).result) ∧
        ((attack.call r (k + 1)).region = attack.met r k ∨
          ∃ state, (attack.call r (k + 1)).region = (attack.met r k).inState state)) ∧
    (∀ k result, (attack.call r k).result = some result →
      result = .ok none ∨ (∃ fault, result = .error (.protocol fault)) ∨
      ∃ frame, result = .ok (some frame) ∧ frame.data.length ≤ r.payloadCapacity.toNat ∧
        ∃ j < k, (attack.call r j).reader = .nbytes ∧
          frame.data.length = (attack.met r j).header.nbytes.toNat) ∧
    ((∀ k, attack k = .none) →
      (attack.call r (r.payloadCapacity.toNat + 6)).result = some r.take.1 ∧
      (attack.call r (r.payloadCapacity.toNat + 6)).region = r.take.2) ∧
    (r.header.state = SlotState.ready.raw → r.header.nbytes ≤ r.payloadCapacity →
      r.take = (.ok (some ⟨(List.range r.header.nbytes.toNat).map r.byteAt, r.header.width,
        r.header.height, r.header.sequence⟩), r.inState .empty)) ∧
    (r.header.state = SlotState.ready.raw → r.payloadCapacity < r.header.nbytes →
      ∃ fault, r.take = (.error (.protocol fault), r.inState .empty)) ∧
    (SlotState.ofRaw? r.header.state = none →
      ∃ fault, r.take = (.error (.protocol fault), r.inState .empty)) ∧
    (∀ state, r.header.state = SlotState.raw state → state ≠ .ready → r.take = (.ok none, r)) ∧
    ∀ fault p notifier, r.take.1 = .error fault → p.data.length = r.payloadCapacity.toNat →
      notifier.counter.toNat + 8 < Notifier.limit →
      ((∃ told frame left,
        Channel.publish ⟨r.take.2, notifier⟩ p.data p.width p.height = (.ok .published, told) ∧
        told.take = (.ok (some frame), left) ∧ frame.picture = p) ↔
        r.header.sequence.toNat + 1 < UInt64.size) ∧
      (¬ r.header.sequence.toNat + 1 < UInt64.size →
        ∃ told, Channel.publish ⟨r.take.2, notifier⟩ p.data p.width p.height =
            (.error .overflow, told) ∧
          told.region.header.state = SlotState.writing.raw) := by
  obtain ⟨fit, oversized, unknown, known⟩ := take_undisturbed r
  refine ⟨attack.ends r, fun k => access, fun k result => outcome, call_alone, fit, oversized, unknown,
    known, ?_⟩
  intro fault p notifier failed fits unsaturated
  rw [inState_of_take_error failed]
  refine ⟨⟨?_, publish_emptied fits unsaturated⟩, fun ended => ?_⟩
  · rintro ⟨told, frame, left, published, -⟩
    by_contra ended
    rw [publish_emptied_of_uncountable notifier fits ended] at published
    cases published
  · exact ⟨_, publish_emptied_of_uncountable notifier fits ended, rfl⟩

/-- A rehearsal: a frame of two bytes, waiting in a slot for two. -/
def rehearsal : Region := (Region.zeroed 66).initialise.filled ⟨[1, 2], 2, 1⟩

/-- Once the length is checked, the producer announces another one, and exchanges a byte. -/
def rehearsed : Attack := fun k =>
  if k = 4 then .poke 8 (littleEndian 8 4096) else if k = 5 then .poke 65 [9] else .none

/-- A slot whose description was made unfit: it announces five bytes where there is room for four. -/
def unfit (sequence : UInt64) : Region :=
  let r := (Region.zeroed 68).initialise.filled ⟨[1, 2, 3, 4], 1, 1⟩
  { r with header := { r.header with nbytes := 5, sequence } }

theorem take_withstands_rehearsed :
    (rehearsed.met rehearsal 4).header.nbytes = 4096 ∧
    (rehearsed.call rehearsal 8).result = some (.ok (some ⟨[1, 9], 2, 1, 1⟩)) ∧
    (∃ frame, (rehearsed.call rehearsal 8).result = some (.ok (some frame)) ∧
      frame.data.length ≤ rehearsal.payloadCapacity.toNat) ∧
    ∃ told frame left,
      Channel.publish ⟨(unfit 7).take.2, .fresh⟩ [5, 6, 7, 8] 2 2 = (.ok .published, told) ∧
      told.take = (.ok (some frame), left) ∧ frame.picture = ⟨[5, 6, 7, 8], 2, 2⟩ := by
  obtain ⟨-, -, ends, -⟩ := take_withstands rehearsed rehearsal
  obtain ⟨-, -, -, -, -, -, -, -, next⟩ := take_withstands (fun _ => .none) (unfit 7)
  have result : (rehearsed.call rehearsal 8).result = some (.ok (some ⟨[1, 9], 2, 1, 1⟩)) := by rfl
  refine ⟨by rfl, result, ?_, ?_⟩
  · rcases ends 8 _ result with absent | ⟨fault, failed⟩ | ⟨frame, taken, inside, -⟩
    · cases absent
    · cases failed
    · exact ⟨frame, by rw [result, taken], inside⟩
  · exact (next _ ⟨[5, 6, 7, 8], 2, 2⟩ .fresh rfl rfl (by decide)).1.2 (by decide)

end Attack

/-- **After a violation the next picture may be lost all the same**: where the number of pictures is the
greatest word, the slot is emptied, and the call that publishes into it stops and leaves it claimed. -/
theorem uncounted_after_violation :
    (Attack.unfit 0xffffffffffffffff).take.1 = .error (.protocol (.oversizedFrame 5 4)) ∧
    (Attack.unfit 0xffffffffffffffff).take.2.header.state = SlotState.empty.raw ∧
    (Channel.publish ⟨(Attack.unfit 0xffffffffffffffff).take.2, .fresh⟩ [5, 6, 7, 8] 2 2).1 =
      .error .overflow ∧
    (Channel.publish ⟨(Attack.unfit 0xffffffffffffffff).take.2, .fresh⟩
      [5, 6, 7, 8] 2 2).2.region.header.state = SlotState.writing.raw := by
  decide

end FrameMux.Slot
