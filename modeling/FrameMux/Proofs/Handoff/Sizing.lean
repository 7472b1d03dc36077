/-
**How large a region is made.**

A region has to hold the header and as many bytes behind it as were asked for.  The size is a checked
sum of 64-bit words.  Sizes from `2 ^ 63` on are refused by the system, so most capacities that are too
large end in an error; but for the greatest ones there is no sum, and whoever asks for one of them is
stopped before the system is asked.  This module says that a region that is made has its size, and for
which names and capacities there is neither a region nor an error.

Main definitions:

* `FrameMux.Region.Nameable` — the names that a memory file can have;
* `FrameMux.Region.Sized` — **a region has room** for its header and for a number of bytes;
* `FrameMux.Region.prepared` — a region for some bytes, ready for its first frame.

Main results:

* `FrameMux.Region.create_eq_ok_iff` — which regions are made;
* `FrameMux.Region.create_eq_overflow_iff` — when nothing is returned at all;
* `FrameMux.Region.sized_iff_summed` — **a region or an error is returned exactly if there is a sum**;
* `FrameMux.Region.greatest_capacity_stops` — the greatest capacity has none.
-/

import FrameMux.Handoff.Link

set_option relaxedAutoImplicit false
set_option autoImplicit false

namespace FrameMux.Region

variable {mmap : Mmap} {name : String} {capacity : UInt64} {r : Region}

/-! ### Which regions are made -/

/-- A memory file can have the name: it has no NUL in it and is not too long. -/
structure Nameable (name : String) : Prop where
  noNul : nulPosition? name = none
  short : name.utf8ByteSize ≤ longestName

/-- The name that regions are made under. -/
theorem nameable_regionName : Nameable Link.regionName := ⟨by decide +kernel, by decide +kernel⟩

/-- What making a region comes to, once bytes are asked for under a name that a file can have. -/
theorem create_of_nameable (some_bytes : capacity ≠ 0) (nameable : Nameable name) :
    create mmap name capacity =
      match checkedAdd Header.size capacity with
      | none => .error .overflow
      | some length =>
          if UInt64.size / 2 ≤ length.toNat then .error (.system .invalidArgument)
          else
            match mmap .fixedSize .readWrite length with
            | .error cause => .error (.system cause)
            | .ok () => .ok (zeroed length) := by
  unfold create
  rw [if_neg some_bytes, nameable.noNul]
  exact if_neg (Nat.not_lt.2 nameable.short)

/-- Under any other name, and for no bytes, there is an error. -/
theorem create_of_refused (mmap : Mmap) (refused : capacity = 0 ∨ ¬ Nameable name) :
    ∃ e, e ≠ .overflow ∧ create mmap name capacity = .error e := by
  unfold create
  split
  · exact ⟨_, by simp, rfl⟩
  · next some_bytes =>
      split
      · exact ⟨_, by simp, rfl⟩
      · next noNul =>
          split
          · exact ⟨_, by simp, rfl⟩
          · next short =>
              have nameable : Nameable name := ⟨noNul, Nat.not_lt.1 short⟩
              exact absurd refused (by simp [some_bytes, nameable])

/-- A region is made when bytes are asked for, under a name that a file can have, and the sum of the
header's size and theirs is a length that a file can have and that the system maps. -/
theorem create_eq_ok_iff :
    create mmap name capacity = .ok r ↔
      capacity ≠ 0 ∧ Nameable name ∧ Header.size.toNat + capacity.toNat < UInt64.size / 2 ∧
      mmap .fixedSize .readWrite (Header.size + capacity) = .ok () ∧
      r = zeroed (Header.size + capacity) := by
  by_cases refused : capacity = 0 ∨ ¬ Nameable name
  · obtain ⟨e, -, failed⟩ := create_of_refused mmap refused
    rw [failed]
    refine ⟨nofun, fun made => ?_⟩
    rcases refused with none | unnamed
    · exact absurd none made.1
    · exact absurd made.2.1 unnamed
  obtain ⟨some_bytes, nameable⟩ := not_or.1 refused
  have nameable := Classical.not_not.1 nameable
  rw [create_of_nameable some_bytes nameable]
  cases sum : checkedAdd Header.size capacity with
  | none =>
      have beyond := checkedAdd_eq_none_iff.1 sum
      simp only [UInt64.size] at beyond ⊢
      refine ⟨nofun, fun made => ?_⟩
      omega
  | some length =>
      have word := toNat_of_checkedAdd sum
      obtain ⟨-, rfl⟩ := checkedAdd_eq_some_iff.1 sum
      dsimp only
      rw [word]
      split
      · next long =>
          refine ⟨nofun, fun made => absurd made.2.2.1 (Nat.not_lt.2 long)⟩
      · next short =>
          split
          · next cause refused => simp [refused]
          · next granted =>
              simp [some_bytes, nameable, Nat.not_le.1 short, granted, eq_comm]

/-- A region that is made is zeroed memory of the sum's length. -/
theorem eq_zeroed_of_create (made : create mmap name capacity = .ok r) :
    r = zeroed (Header.size + capacity) :=
  (create_eq_ok_iff.1 made).2.2.2.2

/-- Nothing is returned exactly when bytes are asked for under a name that a file can have, and they
have no sum with the header's size. -/
theorem create_eq_overflow_iff (mmap : Mmap) :
    create mmap name capacity = .error .overflow ↔
      Nameable name ∧ UInt64.size ≤ Header.size.toNat + capacity.toNat := by
  by_cases refused : capacity = 0 ∨ ¬ Nameable name
  · obtain ⟨e, returned, failed⟩ := create_of_refused mmap refused
    rw [failed]
    refine ⟨fun stopped => absurd (Except.error.inj stopped) returned, fun stopped => ?_⟩
    rcases refused with rfl | unnamed
    · exact absurd stopped.2 (by decide)
    · exact absurd stopped.1 unnamed
  obtain ⟨some_bytes, nameable⟩ := not_or.1 refused
  have nameable := Classical.not_not.1 nameable
  rw [create_of_nameable some_bytes nameable]
  cases sum : checkedAdd Header.size capacity with
  | none => simp [nameable, checkedAdd_eq_none_iff.1 sum]
  | some length =>
      have below := (checkedAdd_eq_some_iff.1 sum).1
      simp only [nameable, true_and, Nat.not_le.2 below, iff_false]
      split
      · simp
      · split <;> simp

/-! ### Room for the header and the payload -/

/-- A region has room for its header and for `capacity` bytes: its length is their sum as naturals, at
least one byte was asked for, the header lies inside, the bytes behind it are as many as were asked
for, counted without going below zero, and each of them lies inside. -/
structure Sized (r : Region) (capacity : UInt64) : Prop where
  length : r.length.toNat = Header.size.toNat + capacity.toNat
  positive : 1 ≤ capacity.toNat
  header : Header.size.toNat ≤ r.length.toNat
  held : r.payloadCapacity = capacity
  counted : r.payloadCapacity.toNat = r.length.toNat - Header.size.toNat
  inside : ∀ offset < capacity.toNat, Header.size.toNat + offset < r.length.toNat

/-- Taking the header's size away leaves the bytes that were asked for. -/
theorem payloadCapacity_zeroed (capacity : UInt64) :
    (zeroed (Header.size + capacity)).payloadCapacity = capacity := by
  show Header.size + capacity - Header.size = capacity
  rw [UInt64.add_comm, UInt64.add_sub_cancel]

/-- **A region that is made has its size.** -/
theorem sized_of_create (made : create mmap name capacity = .ok r) : r.Sized capacity := by
  obtain ⟨some_bytes, -, short, -, rfl⟩ := create_eq_ok_iff.1 made
  have below : Header.size.toNat + capacity.toNat < UInt64.size :=
    Nat.lt_of_lt_of_le short (Nat.div_le_self _ _)
  have length : (zeroed (Header.size + capacity)).length.toNat =
      Header.size.toNat + capacity.toNat := by
    show (Header.size + capacity).toNat = _
    rw [UInt64.toNat_add]
    exact Nat.mod_eq_of_lt below
  have positive : capacity.toNat ≠ 0 := fun none => some_bytes (UInt64.toNat_inj.1 none)
  have held := payloadCapacity_zeroed capacity
  exact {
    length := length
    positive := Nat.one_le_iff_ne_zero.2 positive
    header := by omega
    held := held
    counted := by rw [held]; omega
    inside := fun offset below => by omega }

/-- **A region or an error is returned exactly if there is a sum.**  Whatever the system says to the
mapping, making a region returns an error, or a region with room for the header and the capacity,
unless the name is one that a file can have and the sum of the header's size and the capacity is
`2 ^ 64` or more.  Then it returns nothing. -/
theorem sized_iff_summed (mmap : Mmap) (name : String) (capacity : UInt64) :
    ((∃ e, e ≠ .overflow ∧ create mmap name capacity = .error e) ∨
      ∃ r, create mmap name capacity = .ok r ∧ r.Sized capacity) ↔
      ¬ (Nameable name ∧ UInt64.size ≤ Header.size.toNat + capacity.toNat) := by
  rw [← create_eq_overflow_iff mmap]
  cases ended : create mmap name capacity with
  | error e => simp
  | ok r => simp [sized_of_create ended]

/-- **The greatest capacity stops whoever asks for it**, and not even the system's answer to the mapping
is waited for. -/
theorem greatest_capacity_stops :
    create .linux Link.regionName 18446744073709551615 = .error .overflow ∧
    create .linux Link.regionName 18446744073709551551 = .error (.system .invalidArgument) := by
  refine ⟨(create_eq_overflow_iff _).2 ⟨nameable_regionName, by decide⟩, ?_⟩
  rw [create_of_nameable (by decide) nameable_regionName]
  rfl

/-! ### Prepared regions -/

/-- A prepared region for some bytes. -/
def prepared (capacity : UInt64) : Region := (zeroed (Header.size + capacity)).initialise

@[simp] theorem payloadCapacity_prepared (capacity : UInt64) :
    (prepared capacity).payloadCapacity = capacity :=
  payloadCapacity_zeroed capacity

/-- A region that is made and prepared. -/
theorem initialise_of_create (made : create mmap name capacity = .ok r) :
    r.initialise = prepared capacity := by
  rw [eq_zeroed_of_create made]
  rfl

end FrameMux.Region
