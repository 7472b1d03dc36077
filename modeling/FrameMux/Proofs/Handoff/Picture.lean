/-
**Pictures in a region.**

What a producer hands over is a picture: bytes, a width and a height.  A region holds a picture when
its header describes it and its payload starts with its bytes; the sequence word then says which of
the published pictures it is.  Payloads are viewed byte by byte here, so that it does not matter in
which order, or in how many pieces, the bytes came in.

Main definitions:

* `FrameMux.Picture` — what a frame shows;
* `FrameMux.Region.byteAt`, `FrameMux.Region.storeByte` — one byte of the payload, read and written;
* `FrameMux.Region.Holds` — **a region holds a picture** under a number;
* `FrameMux.Region.Countable` — whether one more picture can be counted.

Main results:

* `FrameMux.Region.byteAt_storeByte` — a stored byte is read back, the others stay;
* `FrameMux.Region.Holds.heldFrame` — the frame that the header describes is the picture;
* `FrameMux.Region.publish_of_empty`, `publish_of_ready`, `publish_of_length_ne` — publishing into a
  slot that nobody holds;
* `FrameMux.Region.publish_of_uncountable` — where the numbers end, so does the call, in the middle;
* `FrameMux.Region.take_of_ready`, `take_of_empty`, `take_of_oversized` — taking from such a slot.
-/

import FrameMux.Handoff.Slot

set_option relaxedAutoImplicit false
set_option autoImplicit false

namespace FrameMux

/-- What a frame shows. -/
structure Picture where
  data : Bytes
  width : UInt32
  height : UInt32
deriving DecidableEq, Repr, Inhabited

/-- What a frame taken out of a slot shows. -/
def SlotFrame.picture (f : SlotFrame) : Picture := ⟨f.data, f.width, f.height⟩

namespace Region

/-! ### Single bytes -/

/-- A byte of the payload. -/
def byteAt (r : Region) (i : Nat) : UInt8 := r.payload.getD i 0

/-- Stores a byte of the payload. -/
def storeByte (r : Region) (i : Nat) (b : UInt8) : Region :=
  { r with payload := spliceBytes r.payload i [b] }

@[simp] theorem header_storeByte (r : Region) (i : Nat) (b : UInt8) :
    (r.storeByte i b).header = r.header := rfl

@[simp] theorem payloadCapacity_storeByte (r : Region) (i : Nat) (b : UInt8) :
    (r.storeByte i b).payloadCapacity = r.payloadCapacity := rfl

/-- Looking into bytes of which one was replaced. -/
theorem getD_spliceBytes (old : Bytes) (i j : Nat) (b : UInt8) :
    (spliceBytes old i [b]).getD j 0 = if j = i then b else old.getD j 0 := by
  have before : (old.take i ++ List.replicate (i - old.length) (0 : UInt8)).length = i := by
    simp only [List.length_append, List.length_take, List.length_replicate]
    omega
  unfold spliceBytes
  rw [List.getD_eq_getElem?_getD, List.getD_eq_getElem?_getD, List.append_assoc]
  rcases Nat.lt_trichotomy j i with below | same | above
  · rw [List.getElem?_append_left (by omega), if_neg (by omega)]
    rcases Nat.lt_or_ge j old.length with inside | outside
    · rw [List.getElem?_append_left (by simp; omega), List.getElem?_take_of_lt below]
    · rw [List.getElem?_append_right (by simp; omega), List.getElem?_eq_none outside]
      rw [List.getElem?_replicate]
      split <;> rfl
  · subst same
    rw [List.getElem?_append_right (by omega), if_pos rfl, before]
    simp
  · rw [List.getElem?_append_right (by omega), if_neg (by omega), before]
    obtain ⟨k, rfl⟩ : ∃ k, j = i + 1 + k := ⟨j - (i + 1), by omega⟩
    rw [List.getElem?_append_right (by simp; omega), List.getElem?_drop]
    simp only [List.length_singleton]
    congr 2
    omega

/-- A stored byte is read back, and the other bytes stay. -/
theorem byteAt_storeByte (r : Region) (i j : Nat) (b : UInt8) :
    (r.storeByte i b).byteAt j = if j = i then b else r.byteAt j :=
  getD_spliceBytes r.payload i j b

/-- The first bytes of the payload, one by one. -/
theorem readPayload_eq_map (r : Region) (n : Nat) :
    r.readPayload n = (List.range n).map r.byteAt := by
  refine List.ext_getElem (by simp) ?_
  intro i h₁ h₂
  have below : i < n := by simpa using h₁
  rw [List.getElem_map, List.getElem_range, byteAt, List.getD_eq_getElem?_getD]
  simp only [readPayload]
  rcases Nat.lt_or_ge i r.payload.length with inside | outside
  · rw [List.getElem_append_left (by simp; omega), List.getElem_take,
      List.getElem?_eq_getElem inside]
    rfl
  · rw [List.getElem_append_right (by simp; omega), List.getElem_replicate,
      List.getElem?_eq_none outside]
    rfl

/-- The first bytes of the payload are given bytes if they agree one by one. -/
theorem readPayload_eq_of_byteAt {r : Region} {data : Bytes}
    (h : ∀ i < data.length, r.byteAt i = data.getD i 0) : r.readPayload data.length = data := by
  rw [readPayload_eq_map]
  refine List.ext_getElem (by simp) ?_
  intro i h₁ h₂
  rw [List.getElem_map, List.getElem_range, h i h₂, List.getD_eq_getElem?_getD,
    List.getElem?_eq_getElem h₂]
  rfl

/-! ### Pictures -/

/-- A region holds a picture, the `number`-th one that claimed the slot. -/
structure Holds (r : Region) (p : Picture) (number : Nat) : Prop where
  nbytes : r.header.nbytes = UInt64.ofNat p.data.length
  width : r.header.width = p.width
  height : r.header.height = p.height
  sequence : r.header.sequence = UInt64.ofNat number
  payload : r.readPayload p.data.length = p.data

/-- Holding a picture is not a matter of the state word. -/
theorem Holds.withState {r : Region} {p : Picture} {number : Nat} (h : r.Holds p number)
    (state : UInt32) : Holds { r with header := { r.header with state } } p number :=
  ⟨h.nbytes, h.width, h.height, h.sequence, h.payload⟩

/-- The frame that the header describes is the picture that the region holds. -/
theorem Holds.heldFrame {r : Region} {p : Picture} {number : Nat} (h : r.Holds p number)
    (short : p.data.length < UInt64.size) :
    r.heldFrame = ⟨p.data, p.width, p.height, UInt64.ofNat number⟩ := by
  have length : r.header.nbytes.toNat = p.data.length := by
    rw [h.nbytes, UInt64.toNat_ofNat']
    exact Nat.mod_eq_of_lt short
  simp only [Region.heldFrame, length, h.payload, h.width, h.height, h.sequence]

/-! ### The slot when nobody is at work -/

/-- The region after a picture was put in. -/
def filled (r : Region) (p : Picture) : Region :=
  { r with
    payload := p.data
    header := { r.header with
      state := SlotState.ready.raw
      nbytes := UInt64.ofNat p.data.length
      width := p.width
      height := p.height
      sequence := r.header.sequence + 1 } }

/-- The region after its picture was taken out. -/
def emptied (r : Region) : Region :=
  { r with header := { r.header with state := SlotState.empty.raw } }

@[simp] theorem payloadCapacity_filled (r : Region) (p : Picture) :
    (r.filled p).payloadCapacity = r.payloadCapacity := rfl

@[simp] theorem payloadCapacity_emptied (r : Region) :
    r.emptied.payloadCapacity = r.payloadCapacity := rfl

/-- The picture that was put in is held, under the next number. -/
theorem holds_filled {r : Region} (p : Picture) {number : Nat}
    (counted : r.header.sequence = UInt64.ofNat number) : (r.filled p).Holds p (number + 1) where
  nbytes := rfl
  width := rfl
  height := rfl
  sequence := by
    show r.header.sequence + 1 = UInt64.ofNat (number + 1)
    rw [counted, UInt64.ofNat_add]
    rfl
  payload := by simp [filled, readPayload]

/-- A picture of another length than the slot's is refused. -/
theorem publish_of_length_ne {r : Region} {p : Picture}
    (differs : p.data.length ≠ r.payloadCapacity.toNat) :
    r.publish p.data p.width p.height =
      (.error (.sizeMismatch r.payloadCapacity.toNat p.data.length), r) := by
  unfold publish
  rw [if_pos differs]

/-- Whether one more picture can be counted. -/
def Countable (r : Region) : Prop := r.header.sequence.toNat + 1 < UInt64.size

instance (r : Region) : Decidable r.Countable := inferInstanceAs (Decidable (_ < _))

/-- The region after a picture was put in that cannot be counted: the slot is still claimed. -/
def stuck (r : Region) (p : Picture) : Region :=
  { r.filled p with header := { (r.filled p).header with state := SlotState.writing.raw } }

@[simp] theorem payloadCapacity_stuck (r : Region) (p : Picture) :
    (r.stuck p).payloadCapacity = r.payloadCapacity := rfl

/-- The producer's claim on an empty slot. -/
theorem claim?_of_empty {h : Header} (state : h.state = SlotState.empty.raw) :
    claim? h = .granted { h with state := SlotState.writing.raw } false := by
  unfold claim? Header.transition
  rw [if_pos state]

/-- Its claim on a ready one. -/
theorem claim?_of_ready {h : Header} (state : h.state = SlotState.ready.raw) :
    claim? h = .granted { h with state := SlotState.writing.raw } true := by
  unfold claim? Header.transition
  rw [state]
  rfl

/-- Once the slot is claimed, the picture is put in and, if it can be counted, made visible. -/
theorem publish_of_granted {r : Region} {p : Picture} {replacing : Bool}
    (fits : p.data.length = r.payloadCapacity.toNat)
    (claim : claim? r.header =
      .granted { r.header with state := SlotState.writing.raw } replacing) :
    r.publish p.data p.width p.height =
      if r.Countable then (.ok (if replacing then .replaced else .published), r.filled p)
      else (.error .overflow, r.stuck p) := by
  let described := Header.setFrame { r.header with state := SlotState.writing.raw }
    (UInt64.ofNat p.data.length) p.width p.height
  unfold publish
  rw [if_neg (not_not_intro fits), claim]
  by_cases counts : r.Countable
  · have counted := Header.bumpSequence_of_lt (h := described) counts
    simp only [described] at counted
    simp only [counted, if_pos counts]
    rfl
  · have counted := Header.bumpSequence_of_le (h := described) (Nat.not_lt.1 counts)
    simp only [described] at counted
    simp only [counted, if_neg counts]
    rfl

/-- A picture put into an empty slot is published. -/
theorem publish_of_empty {r : Region} {p : Picture}
    (fits : p.data.length = r.payloadCapacity.toNat)
    (state : r.header.state = SlotState.empty.raw) (counts : r.Countable) :
    r.publish p.data p.width p.height = (.ok .published, r.filled p) := by
  rw [publish_of_granted fits (claim?_of_empty state), if_pos counts]
  rfl

/-- A picture put over a waiting one replaces it. -/
theorem publish_of_ready {r : Region} {p : Picture}
    (fits : p.data.length = r.payloadCapacity.toNat)
    (state : r.header.state = SlotState.ready.raw) (counts : r.Countable) :
    r.publish p.data p.width p.height = (.ok .replaced, r.filled p) := by
  rw [publish_of_granted fits (claim?_of_ready state), if_pos counts]
  rfl

/-- A picture that cannot be counted is put in and never made visible. -/
theorem publish_of_uncountable {r : Region} {p : Picture}
    (fits : p.data.length = r.payloadCapacity.toNat)
    (free : r.header.state = SlotState.empty.raw ∨ r.header.state = SlotState.ready.raw)
    (ended : ¬ r.Countable) :
    r.publish p.data p.width p.height = (.error .overflow, r.stuck p) := by
  rcases free with empty | ready
  · rw [publish_of_granted fits (claim?_of_empty empty), if_neg ended]
  · rw [publish_of_granted fits (claim?_of_ready ready), if_neg ended]

/-- Nothing is taken from an empty slot. -/
theorem take_of_empty {r : Region} (state : r.header.state = SlotState.empty.raw) :
    r.take = (.ok none, r) := by
  unfold take Header.transition
  rw [state]
  rfl

/-- The picture of a ready slot is taken, and leaves the slot empty. -/
theorem take_of_ready {r : Region} (state : r.header.state = SlotState.ready.raw)
    (fits : r.header.nbytes ≤ r.payloadCapacity) : r.take = (.ok (some r.heldFrame), r.emptied) := by
  have claimed : r.header.transition .ready .reading =
      .ok { r.header with state := SlotState.reading.raw } := by
    unfold Header.transition
    rw [if_pos state]
  have room : ¬ payloadCapacity { r with header := { r.header with
      state := SlotState.reading.raw } } < r.header.nbytes := UInt64.not_lt.2 fits
  unfold take
  rw [claimed]
  simp only [if_neg room]
  rfl

/-- The picture that was put in is taken out, under the next number. -/
theorem take_filled {r : Region} {p : Picture} (fits : p.data.length = r.payloadCapacity.toNat) :
    (r.filled p).take =
      (.ok (some ⟨p.data, p.width, p.height, r.header.sequence + 1⟩), (r.filled p).emptied) := by
  have short : p.data.length < UInt64.size := by
    rw [fits]
    exact r.payloadCapacity.toNat_lt
  have holds : (r.filled p).Holds p (r.header.sequence.toNat + 1) :=
    holds_filled p UInt64.ofNat_toNat.symm
  have room : (r.filled p).header.nbytes ≤ (r.filled p).payloadCapacity := by
    refine UInt64.le_iff_toNat_le.2 (Nat.le_of_eq ?_)
    rw [holds.nbytes, UInt64.toNat_ofNat_of_lt' short, fits, payloadCapacity_filled]
  have number : UInt64.ofNat (r.header.sequence.toNat + 1) = r.header.sequence + 1 :=
    (UInt64.ofNat_add _ _).trans (congrArg (· + UInt64.ofNat 1) UInt64.ofNat_toNat)
  rw [take_of_ready rfl room, holds.heldFrame short, number]

/-- A frame that there is no room for is refused, and the slot is emptied. -/
theorem take_of_oversized {r : Region} (state : r.header.state = SlotState.ready.raw)
    (oversized : r.payloadCapacity < r.header.nbytes) :
    r.take =
      (.error (.protocol (.oversizedFrame r.header.nbytes r.payloadCapacity)), r.emptied) := by
  have claimed : r.header.transition .ready .reading =
      .ok { r.header with state := SlotState.reading.raw } := by
    unfold Header.transition
    rw [if_pos state]
  have crowded : payloadCapacity { r with header := { r.header with
      state := SlotState.reading.raw } } < r.header.nbytes := oversized
  unfold take
  rw [claimed]
  simp only [if_pos crowded]
  rfl

end Region

end FrameMux
