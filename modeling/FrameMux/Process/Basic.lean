/-
**Child processes.**

The supervisor starts a producer per worker, kills it, and reaps it, all through a process manager.
Reaping never waits: a process is running, has ended one way or another, or is not there any more.

Main definitions:

* `FrameMux.ReapStatus` — what reaping finds;
* `FrameMux.SpawnReason` — why a process could not be started;
* `FrameMux.Spawned` — a started process and what it had signalled by then;
* `FrameMux.ProcessManager` — the three operations on child processes.

Main results:

* `FrameMux.ReapStatus.isDead_eq_false_iff` — only a running process is not dead.
-/

import FrameMux.Errno
import FrameMux.Handoff.EventMask
import FrameMux.Worker.Id

set_option relaxedAutoImplicit false
set_option autoImplicit false

namespace FrameMux

/-- What reaping finds of a process. -/
inductive ReapStatus where
  | running
  | exited (code : Int)
  | signaled (number : Int)
  | gone
deriving DecidableEq, Repr, Inhabited

namespace ReapStatus

/-- Whether a process is over. -/
def isDead : ReapStatus → Bool
  | running => false
  | _ => true

/-- Only a running process is not over. -/
theorem isDead_eq_false_iff {s : ReapStatus} : s.isDead = false ↔ s = running := by
  cases s <;> simp [isDead]

/-- The text of a status. -/
def text : ReapStatus → String
  | running => "running"
  | exited code => "exited:" ++ toString code
  | signaled number => "signaled:" ++ toString number
  | gone => "gone"

/-- The number behind a heading. -/
def numberAfter? (heading text : String) : Option Int :=
  if text.startsWith heading then (text.drop heading.length).toInt? else none

/-- The status with a text. -/
def ofText? (text : String) : Option ReapStatus :=
  if text = "running" then some running
  else if text = "gone" then some gone
  else ((numberAfter? "exited:" text).map exited).or ((numberAfter? "signaled:" text).map signaled)

end ReapStatus

/-- Why a process could not be started. -/
inductive SpawnReason where
  | system (cause : Errno)
  | nulByte
deriving DecidableEq, Repr

/-- The wording of a reason. -/
def SpawnReason.message : SpawnReason → String
  | system cause => cause.message
  | nulByte => "nul byte found in provided data"

/-- A started process: its identifier, and the masks it signalled before anyone listened. -/
structure Spawned where
  pid : Int
  early : List EventMask
deriving DecidableEq, Repr, Inhabited

/-- The operations on child processes.  Killing tells whether it succeeded, reaping tells what it
found unless it failed. -/
class ProcessManager (σ : Type) where
  spawn : σ → WorkerId → String → Option Spawned × σ
  kill : σ → Int → Bool × σ
  reap : σ → Int → Option ReapStatus × σ

end FrameMux
