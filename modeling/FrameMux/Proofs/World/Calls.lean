/-
**The calls that were made for a worker.**

The record of calls goes over all workers.  What concerns one of them are the calls for it, and among
these the attempts to start its process, of which some succeed.

Main definitions:

* `FrameMux.callsFor` — the calls for a worker;
* `FrameMux.attempts` — **the attempts** to start its process, and whether they succeeded;
* `FrameMux.started` — how many of them did.

Main results:

* `FrameMux.World.callsFor_follow` — what is done for a worker adds to the calls for it only;
* `FrameMux.World.attempts_follow` — and so to its attempts.
-/

import FrameMux.Proofs.World.Parts

set_option relaxedAutoImplicit false
set_option autoImplicit false

namespace FrameMux

/-- The calls that were made for a worker. -/
def callsFor (id : WorkerId) (calls : List (WorkerId × Call)) : List Call :=
  (calls.filter fun c => c.1 = id).map Prod.snd

@[simp] theorem callsFor_append (id : WorkerId) (calls new : List (WorkerId × Call)) :
    callsFor id (calls ++ new) = callsFor id calls ++ callsFor id new := by
  simp only [callsFor, List.filter_append, List.map_append]

/-- Calls that were all made for one worker. -/
theorem callsFor_map (id other : WorkerId) (new : List Call) :
    callsFor other (new.map fun call => (id, call)) = if other = id then new else [] := by
  by_cases same : other = id
  · subst same
    simp [callsFor, List.filter_map, Function.comp_def]
  · simp [callsFor, same, Ne.symm same]

/-- Whether a call is an attempt to start a process, and whether it succeeded. -/
def Call.attempt? : Call → Option Bool
  | spawn _ _ answer => some answer.isSome
  | _ => none

/-- The attempts to start a worker's process, and whether they succeeded. -/
def attempts (id : WorkerId) (calls : List (WorkerId × Call)) : List Bool :=
  (callsFor id calls).filterMap Call.attempt?

/-- How many processes were started for a worker. -/
def started (id : WorkerId) (calls : List (WorkerId × Call)) : Nat := (attempts id calls).count true

namespace World

variable {σ : Type}

/-- What is done for a worker adds to the calls for it only. -/
theorem callsFor_follow {w : World σ} {s : Supervisor (Recorder σ)} {new : List Call} (id : WorkerId)
    (made : s.manager.calls = w.sup.manager.calls ++ new) (other : WorkerId) :
    callsFor other (w.follow id s).calls =
      callsFor other w.calls ++ if other = id then new else [] := by
  rw [follow_eq id made, callsFor_append, callsFor_map]

/-- What is done for a worker adds to its attempts only. -/
theorem attempts_follow {w : World σ} {s : Supervisor (Recorder σ)} {new : List Call} (id : WorkerId)
    (made : s.manager.calls = w.sup.manager.calls ++ new) (other : WorkerId) :
    attempts other (w.follow id s).calls =
      attempts other w.calls ++ if other = id then new.filterMap Call.attempt? else [] := by
  rw [attempts, callsFor_follow id made, List.filterMap_append, attempts]
  split
  · rfl
  · rfl

end World

end FrameMux
