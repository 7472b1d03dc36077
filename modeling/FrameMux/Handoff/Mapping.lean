/-
**Mapping a memory file.**

Both sides use a region through a shared mapping that can be read and written.  Whether the system
grants one depends on the seals of the file, on how its descriptor was opened, on the length, and on
what the process has mapped already.  Nothing here can know the last of these, so the answer is a
parameter of everything that maps: a function of the other three, which may be another one at each
call.  What every such answer has in common is what the system documents.

Main definitions:

* `FrameMux.Access` — how a descriptor was opened;
* `FrameMux.Mmap` — **the system's answer** to a request for a mapping;
* `FrameMux.Mmap.Documented` — the requests that are always refused;
* `FrameMux.Mmap.linux` — the answer to a process whose address space is still free.

Main results:

* `FrameMux.Mmap.documented_linux` — that answer is as documented.
-/

import FrameMux.Handoff.Error

set_option relaxedAutoImplicit false
set_option autoImplicit false

namespace FrameMux

/-- How a descriptor was opened. -/
inductive Access where
  | readOnly
  | writeOnly
  | readWrite
deriving DecidableEq, Repr, Inhabited

/-- The system's answer to a request for a shared mapping, to be read and written, of a whole file:
given its seals, the access that its descriptor grants, and its length. -/
abbrev Mmap := Seals → Access → UInt64 → Except Errno Unit

namespace Mmap

/-- What is always refused: a mapping without bytes, and one through which could be written what must
not be. -/
structure Documented (mmap : Mmap) : Prop where
  empty : ∀ seals access, mmap seals access 0 ≠ .ok ()
  noWrite : ∀ seals access length, seals.noWrite = true → mmap seals access length ≠ .ok ()
  noFutureWrite : ∀ seals access length, seals.noFutureWrite = true →
    mmap seals access length ≠ .ok ()
  access : ∀ seals access length, access ≠ .readWrite → mmap seals access length ≠ .ok ()

/-- The address space of a process. -/
def addressSpace : Nat := 0x7ffffffff000

/-- The answer to a process that has all of its address space left.  A real one has less, and is
refused lengths that are granted here. -/
def linux : Mmap := fun seals access length =>
  if length = 0 then .error .invalidArgument
  else if addressSpace < length.toNat then .error .outOfMemory
  else if access ≠ .readWrite then .error .accessDenied
  else if seals.noWrite || seals.noFutureWrite then .error .notPermitted
  else .ok ()

/-- What it grants, in full. -/
theorem linux_eq_ok_iff {seals : Seals} {access : Access} {length : UInt64} :
    linux seals access length = .ok () ↔
      length ≠ 0 ∧ length.toNat ≤ addressSpace ∧ access = .readWrite ∧ seals.noWrite = false ∧
        seals.noFutureWrite = false := by
  unfold linux
  split
  · simp_all
  split
  · next long => simp [Nat.not_le.2 long]
  split
  · simp_all
  split
  · next sealed =>
      rcases (Bool.or_eq_true _ _).mp sealed with sealed | sealed
      · simp [sealed]
      · simp [sealed]
  · next nonempty fits opened unsealed =>
      rw [Bool.not_eq_true, Bool.or_eq_false_iff] at unsealed
      exact iff_of_true rfl
        ⟨nonempty, Nat.le_of_not_lt fits, Classical.not_not.1 opened, unsealed⟩

/-- The documented refusals are among its own. -/
theorem documented_linux : Documented linux where
  empty := fun _ _ granted => (linux_eq_ok_iff.1 granted).1 rfl
  noWrite := fun _ _ _ sealed granted => by
    rw [(linux_eq_ok_iff.1 granted).2.2.2.1] at sealed
    cases sealed
  noFutureWrite := fun _ _ _ sealed granted => by
    rw [(linux_eq_ok_iff.1 granted).2.2.2.2] at sealed
    cases sealed
  access := fun _ _ _ other granted => other (linux_eq_ok_iff.1 granted).2.2.1

end Mmap

end FrameMux
