/-
**A process manager that follows a script.**

To rehearse a supervisor without processes, a scripted manager answers each call with the next entry
of a script, and keeps a record of what it was asked.

Main definitions:

* `FrameMux.SpawnReply` — what a spawn answers;
* `FrameMux.ProcessCall` — what the manager was asked, and what it answered;
* `FrameMux.ScriptedManager` — the scripts and the record.
-/

import FrameMux.Process.Basic

set_option relaxedAutoImplicit false
set_option autoImplicit false

namespace FrameMux

/-- What a spawn answers: a process, with its identifier and early signals if they are given. -/
inductive SpawnReply where
  | fails
  | starts (pid : Option Int) (early : List EventMask)
deriving DecidableEq, Repr, Inhabited

/-- A call of the manager with its answer. -/
inductive ProcessCall where
  | spawn (id : WorkerId) (source : String) (pid : Option Int)
  | kill (pid : Int) (ok : Bool)
  | reap (pid : Int) (status : Option ReapStatus)
deriving DecidableEq, Repr

/-- The text of a call. -/
def ProcessCall.text : ProcessCall → String
  | spawn id source pid =>
      "spawn " ++ id.name ++ " " ++ source ++ " -> " ++ ((pid.map toString).getD "fail")
  | kill pid ok => "kill " ++ toString pid ++ " -> " ++ (if ok then "ok" else "err")
  | reap pid status =>
      "reap " ++ toString pid ++ " -> " ++ ((status.map ReapStatus.text).getD "err")

/-- The entries to come, the number of processes started, and the calls so far. -/
structure ScriptedManager where
  spawns : List SpawnReply
  kills : List Bool
  reaps : List (Option ReapStatus)
  children : Nat
  calls : List ProcessCall
deriving DecidableEq, Repr, Inhabited

namespace ScriptedManager

/-- The identifier of the first process, unless the script gives another. -/
def firstPid : Nat := 1000

/-- The status of a killed process. -/
def killed : ReapStatus := .signaled 9

/-- Adds a call to the record. -/
def record (m : ScriptedManager) (call : ProcessCall) : ScriptedManager :=
  { m with calls := m.calls ++ [call] }

/-- Answers a spawn; an exhausted script starts processes. -/
def spawn (m : ScriptedManager) (id : WorkerId) (source : String) :
    Option Spawned × ScriptedManager :=
  let next := { m with spawns := m.spawns.tail }
  match m.spawns.head?.getD (.starts none []) with
  | .fails => (none, next.record (.spawn id source none))
  | .starts pid early =>
      let pid := pid.getD ((firstPid + m.children : Nat) : Int)
      (some ⟨pid, early⟩,
        { next.record (.spawn id source (some pid)) with children := m.children + 1 })

/-- Answers a kill; an exhausted script succeeds. -/
def kill (m : ScriptedManager) (pid : Int) : Bool × ScriptedManager :=
  let ok := m.kills.head?.getD true
  (ok, { m with kills := m.kills.tail }.record (.kill pid ok))

/-- Answers a reap; with an exhausted script the process was killed. -/
def reap (m : ScriptedManager) (pid : Int) : Option ReapStatus × ScriptedManager :=
  let status := m.reaps.head?.getD (some killed)
  (status, { m with reaps := m.reaps.tail }.record (.reap pid status))

instance : ProcessManager ScriptedManager := ⟨spawn, kill, reap⟩

end ScriptedManager

end FrameMux
