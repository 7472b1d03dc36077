/-
**The life cycle of a worker.**

A worker is being created, alive, infected (to be killed), a zombie (to be reaped), purged (to be
released) or buried (waiting for its next life).  Each event moves it one step or leaves it where it
is, and asks for the effects that the new state owes.

Main definitions:

* `FrameMux.WorkerState`, `FrameMux.LifecycleEvent`, `FrameMux.Effect` — states, events and effects;
* `FrameMux.WorkerState.step` — **the transitions**;
* `FrameMux.WorkerState.owed` — the effect that a state is waiting for.
-/

set_option relaxedAutoImplicit false
set_option autoImplicit false

namespace FrameMux

/-- Where a worker is in its life. -/
inductive WorkerState where
  | creating
  | alive
  | infected
  | zombie
  | purged
  | buried
deriving DecidableEq, Repr, Inhabited

/-- What happens to a worker. -/
inductive LifecycleEvent where
  | spawned
  | spawnFailed
  | stale
  | pipelineExited
  | killed
  | reaped
  | stillRunning
  | released
  | cooldownElapsed
deriving DecidableEq, Repr, Inhabited

/-- What is to be done for a worker. -/
inductive Effect where
  | spawn
  | kill
  | reap
  | release
  | resetFrameSlot
deriving DecidableEq, Repr, Inhabited

/-- A list of names with what they name. -/
def lookupName? {α : Type} (all : List α) (name : α → String) (text : String) : Option α :=
  all.find? fun a => name a = text

namespace LifecycleEvent

/-- The name of an event. -/
def name : LifecycleEvent → String
  | spawned => "Spawned"
  | spawnFailed => "SpawnFailed"
  | stale => "Stale"
  | pipelineExited => "PipelineExited"
  | killed => "Killed"
  | reaped => "Reaped"
  | stillRunning => "StillRunning"
  | released => "Released"
  | cooldownElapsed => "CooldownElapsed"

/-- All events. -/
def all : List LifecycleEvent :=
  [spawned, spawnFailed, stale, pipelineExited, killed, reaped, stillRunning, released,
    cooldownElapsed]

/-- The event with a name. -/
def ofName? (text : String) : Option LifecycleEvent := lookupName? all name text

end LifecycleEvent

/-- The name of an effect. -/
def Effect.name : Effect → String
  | .spawn => "Spawn"
  | .kill => "Kill"
  | .reap => "Reap"
  | .release => "Release"
  | .resetFrameSlot => "ResetFrameSlot"

/-- A state to move to, and the effects that go with it. -/
structure Transition where
  next : WorkerState
  effects : List Effect
deriving DecidableEq, Repr

namespace WorkerState

/-- The name of a state in messages. -/
def name : WorkerState → String
  | creating => "creating"
  | alive => "alive"
  | infected => "infected"
  | zombie => "zombie"
  | purged => "purged"
  | buried => "buried"

/-- The name of a state in reports. -/
def title : WorkerState → String
  | creating => "Creating"
  | alive => "Alive"
  | infected => "Infected"
  | zombie => "Zombie"
  | purged => "Purged"
  | buried => "Buried"

/-- All states. -/
def all : List WorkerState := [creating, alive, infected, zombie, purged, buried]

/-- The state with a name. -/
def ofName? (text : String) : Option WorkerState := lookupName? all name text

/-- What an event does to a worker in a state. -/
def step : WorkerState → LifecycleEvent → Transition
  | creating, .spawned => ⟨alive, []⟩
  | alive, .stale => ⟨infected, [.kill]⟩
  | alive, .pipelineExited => ⟨infected, [.kill]⟩
  | infected, .killed => ⟨zombie, [.reap]⟩
  | zombie, .reaped => ⟨purged, [.release, .resetFrameSlot]⟩
  | purged, .released => ⟨buried, []⟩
  | buried, .cooldownElapsed => ⟨creating, [.spawn]⟩
  | state, _ => ⟨state, []⟩

/-- The effect that a state is waiting for. -/
def owed : WorkerState → Option Effect
  | creating => some .spawn
  | infected => some .kill
  | zombie => some .reap
  | purged => some .release
  | alive => none
  | buried => none

end WorkerState

end FrameMux
