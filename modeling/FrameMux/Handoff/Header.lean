/-
**The header of a frame region.**

A region starts with 64 bytes, of which the first 32 hold six little-endian fields: a magic word,
the state word of the slot, and the length, width, height and sequence number of the frame.

Main definitions:

* `FrameMux.checkedAdd` — **the sum of two words, if it is a word**;
* `FrameMux.Header` — the fields;
* `FrameMux.Header.toBytes`, `FrameMux.Header.ofBytes` — their layout;
* `FrameMux.Header.initialised` — a header ready for the first frame;
* `FrameMux.Header.transition` — **compare and swap** on the state word;
* `FrameMux.Header.bumpSequence` — one more frame.

Main results:

* `FrameMux.checkedAdd_eq_some_iff`, `FrameMux.checkedAdd_eq_none_iff` — when two words have a sum;
* `FrameMux.Header.transition_eq_ok_iff` — the swap happens exactly in the expected state;
* `FrameMux.Header.length_toBytes` — the fields fill 32 bytes.
-/

import FrameMux.Handoff.SlotState

set_option relaxedAutoImplicit false
set_option autoImplicit false

namespace FrameMux

/-! ### Words -/

/-- The sum of two words.  Additions are checked: where the sum is no word there is none, and whoever
asked for it stops. -/
def checkedAdd (a b : UInt64) : Option UInt64 :=
  if a.toNat + b.toNat < UInt64.size then some (a + b) else none

theorem checkedAdd_eq_some_iff {a b c : UInt64} :
    checkedAdd a b = some c ↔ a.toNat + b.toNat < UInt64.size ∧ c = a + b := by
  unfold checkedAdd
  split
  · next below => simp [below, eq_comm]
  · next beyond => simp [beyond]

theorem checkedAdd_eq_none_iff {a b : UInt64} :
    checkedAdd a b = none ↔ UInt64.size ≤ a.toNat + b.toNat := by
  unfold checkedAdd
  split
  · next below => simp [Nat.not_le.2 below]
  · next beyond => simp [Nat.not_lt.1 beyond]

/-- A sum that is a word is the sum of the numbers. -/
theorem toNat_of_checkedAdd {a b c : UInt64} (h : checkedAdd a b = some c) :
    c.toNat = a.toNat + b.toNat := by
  obtain ⟨below, rfl⟩ := checkedAdd_eq_some_iff.1 h
  rw [UInt64.toNat_add, Nat.mod_eq_of_lt below]

/-! ### Little-endian words -/

/-- The `n` low bytes of a natural, the lowest first. -/
def littleEndian : Nat → Nat → List UInt8
  | 0, _ => []
  | n + 1, value => UInt8.ofNat value :: littleEndian n (value / 256)

/-- The natural with the given bytes, the lowest first. -/
def ofLittleEndian : List UInt8 → Nat
  | [] => 0
  | b :: rest => b.toNat + 256 * ofLittleEndian rest

@[simp] theorem length_littleEndian (n value : Nat) : (littleEndian n value).length = n := by
  induction n generalizing value with
  | zero => rfl
  | succ n ih => simp [littleEndian, ih]

/-- The bytes of a natural are read back as the natural, if they suffice for it. -/
theorem ofLittleEndian_littleEndian (n value : Nat) (h : value < Nat.pow 256 n) :
    ofLittleEndian (littleEndian n value) = value := by
  induction n generalizing value with
  | zero => simp at h; simp [littleEndian, ofLittleEndian, h]
  | succ n ih =>
    have rest : value / 256 < Nat.pow 256 n := by
      rw [Nat.div_lt_iff_lt_mul (by decide)]
      calc value < Nat.pow 256 (n + 1) := h
        _ = Nat.pow 256 n * 256 := rfl
    rw [littleEndian, ofLittleEndian, ih _ rest]
    simp only [UInt8.toNat_ofNat']
    omega

/-! ### Fields -/

/-- The fields of a region's header. -/
structure Header where
  magic : UInt32
  state : UInt32
  nbytes : UInt64
  width : UInt32
  height : UInt32
  sequence : UInt64
deriving DecidableEq, Repr, Inhabited

namespace Header

/-- The word that marks a frame region. -/
def magicWord : UInt32 := 0x4652414d

/-- The bytes that a header takes at the start of a region. -/
def size : UInt64 := 64

/-- The header of a fresh memory file. -/
def blank : Header := ⟨0, 0, 0, 0, 0, 0⟩

/-- The header of a region ready for its first frame. -/
def initialised : Header := ⟨magicWord, SlotState.empty.raw, 0, 0, 0, 0⟩

/-- Where the last field ends. -/
def fieldsEnd : Nat := 32

/-- The bytes of the fields. -/
def toBytes (h : Header) : List UInt8 :=
  littleEndian 4 h.magic.toNat ++ littleEndian 4 h.state.toNat ++ littleEndian 8 h.nbytes.toNat
    ++ littleEndian 4 h.width.toNat ++ littleEndian 4 h.height.toNat
    ++ littleEndian 8 h.sequence.toNat

/-- The fields in the first bytes of a region. -/
def ofBytes (bytes : List UInt8) : Header where
  magic := UInt32.ofNat (ofLittleEndian (bytes.take 4))
  state := UInt32.ofNat (ofLittleEndian ((bytes.drop 4).take 4))
  nbytes := UInt64.ofNat (ofLittleEndian ((bytes.drop 8).take 8))
  width := UInt32.ofNat (ofLittleEndian ((bytes.drop 16).take 4))
  height := UInt32.ofNat (ofLittleEndian ((bytes.drop 20).take 4))
  sequence := UInt64.ofNat (ofLittleEndian ((bytes.drop 24).take 8))

@[simp] theorem length_toBytes (h : Header) : h.toBytes.length = fieldsEnd := by
  simp [toBytes, fieldsEnd]

/-- The state that the state word names, or the word itself. -/
def slotState (h : Header) : Except UInt32 SlotState :=
  match SlotState.ofRaw? h.state with
  | some s => .ok s
  | none => .error h.state

/-- Moves the state word from one state to another, if it is in the first; otherwise tells what the
word was. -/
def transition (h : Header) (source target : SlotState) : Except UInt32 Header :=
  if h.state = source.raw then .ok { h with state := target.raw } else .error h.state

/-- Forces the slot to be empty. -/
def reset (h : Header) : Header := { h with state := SlotState.empty.raw }

/-- Writes the description of a frame. -/
def setFrame (h : Header) (nbytes : UInt64) (width height : UInt32) : Header :=
  { h with nbytes, width, height }

/-- Counts one more frame, and tells the new count.  The field is an atomic word, to which one is
added modulo `2 ^ 64`; the count that is told is a checked sum. -/
def bumpSequence (h : Header) : Option UInt64 × Header :=
  (checkedAdd h.sequence 1, { h with sequence := h.sequence + 1 })

/-- Below the greatest word the new count is told. -/
theorem bumpSequence_of_lt {h : Header} (below : h.sequence.toNat + 1 < UInt64.size) :
    h.bumpSequence = (some (h.sequence + 1), { h with sequence := h.sequence + 1 }) := by
  rw [bumpSequence, checkedAdd_eq_some_iff.2 ⟨below, rfl⟩]

/-- At the greatest word there is none. -/
theorem bumpSequence_of_le {h : Header} (beyond : UInt64.size ≤ h.sequence.toNat + 1) :
    h.bumpSequence = (none, { h with sequence := h.sequence + 1 }) := by
  rw [bumpSequence, checkedAdd_eq_none_iff.2 beyond]

/-- The swap happens exactly in the expected state. -/
theorem transition_eq_ok_iff {h h' : Header} {source target : SlotState} :
    h.transition source target = .ok h' ↔
      h.state = source.raw ∧ h' = { h with state := target.raw } := by
  unfold transition
  split
  · constructor
    · intro e; cases e; exact ⟨by assumption, rfl⟩
    · rintro ⟨_, rfl⟩; rfl
  · simp_all

end Header

end FrameMux
