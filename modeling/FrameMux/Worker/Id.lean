/-
**Worker and process identifiers.**

Every video source has a number, and the worker that serves it is named after it.  A process is
either the multiplexer itself or such a worker.

Main definitions:

* `FrameMux.WorkerId` — the identifier of a source and its worker, ordered by number;
* `FrameMux.ProcessId` — the multiplexer or a worker;
* `FrameMux.WorkerId.name`, `FrameMux.ProcessId.name` — how they appear in messages;
* `FrameMux.maxWorkers` — how many sources one multiplexer supervises.
-/

set_option relaxedAutoImplicit false
set_option autoImplicit false

namespace FrameMux

/-- The most sources that one multiplexer supervises. -/
def maxWorkers : Nat := 128

/-- The identifier of one video source and of the worker that serves it. -/
structure WorkerId where
  number : UInt32
deriving DecidableEq, Repr, Inhabited

namespace WorkerId

instance : LT WorkerId := ⟨fun a b => a.number < b.number⟩
instance : LE WorkerId := ⟨fun a b => a.number ≤ b.number⟩
instance (a b : WorkerId) : Decidable (a < b) := inferInstanceAs (Decidable (a.number < b.number))
instance (a b : WorkerId) : Decidable (a ≤ b) := inferInstanceAs (Decidable (a.number ≤ b.number))

/-- The name of a worker in messages. -/
def name (id : WorkerId) : String := "worker_" ++ toString id.number.toNat

theorem lt_irrefl (a : WorkerId) : ¬ a < a := UInt32.lt_irrefl a.number

theorem lt_trans {a b c : WorkerId} (h : a < b) (h' : b < c) : a < c := UInt32.lt_trans h h'

theorem ne_of_lt {a b : WorkerId} (h : a < b) : a ≠ b := fun e => lt_irrefl b (e ▸ h)

/-- Two identifiers are ordered one way or the other unless they are equal. -/
theorem lt_or_lt_of_ne {a b : WorkerId} (h : a ≠ b) : a < b ∨ b < a := by
  rcases UInt32.lt_or_lt_of_ne (a := a.number) (b := b.number)
    (fun e => h (by cases a; cases b; simp_all)) with l | r
  · exact Or.inl l
  · exact Or.inr r

end WorkerId

/-- The identifier of a process: the supervising one, or a worker. -/
inductive ProcessId where
  | muxer
  | worker (number : UInt32)
deriving DecidableEq, Repr

/-- The name of a process in messages. -/
def ProcessId.name : ProcessId → String
  | muxer => "streammux"
  | worker number => "worker_" ++ toString number.toNat

end FrameMux
