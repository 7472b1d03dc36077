/-
**A multiplexer and everything around it.**

A world is a multiplexer at work, with the producers on the other ends of its links, a record of all
calls to the process manager, and a consumer.  What happens in it is one action after another, in any
order: calls of the supervisor, of the event loop and of the consumer, and deeds of the producers.
Beside the multiplexer the world keeps what no program keeps: who did what.

Main definitions:

* `FrameMux.Recorder` — a process manager whose calls are recorded with their answers;
* `FrameMux.World` — the multiplexer, the calls by worker, the ledgers of all producers, a receipt
  for every frame that was stored, and the tokens that were reported but not dispatched yet;
* `FrameMux.World.Action`, `FrameMux.World.step`, `FrameMux.World.run` — **what can happen**;
* `FrameMux.World.handed` — the frames that an action hands to the consumer;
* `FrameMux.World.Action.act` — what the program does.

Main results:

* `FrameMux.World.mux_step` — **a step of the world is the program's own**: it makes of the multiplexer
  what the program's function makes of it.
-/

import FrameMux.Mux
import FrameMux.Process.Script
import FrameMux.Proofs.Handoff.Ledger
import FrameMux.Proofs.Supervisor.Moves
import FrameMux.Proofs.Supervisor.Passes

set_option relaxedAutoImplicit false
set_option autoImplicit false

namespace FrameMux

/-! ### Recorded calls -/

/-- A call to the process manager and its answer. -/
inductive Call where
  | spawn (id : WorkerId) (source : String) (answer : Option Spawned)
  | kill (pid : Int) (answer : Bool)
  | reap (pid : Int) (answer : Option ReapStatus)
deriving DecidableEq, Repr

/-- A process manager with the calls that were made to it. -/
structure Recorder (σ : Type) where
  manager : σ
  calls : List Call

instance {σ : Type} [ProcessManager σ] : ProcessManager (Recorder σ) where
  spawn r id source :=
    ((ProcessManager.spawn r.manager id source).1,
      { manager := (ProcessManager.spawn r.manager id source).2
        calls := r.calls ++ [.spawn id source (ProcessManager.spawn r.manager id source).1] })
  kill r pid :=
    ((ProcessManager.kill r.manager pid).1,
      { manager := (ProcessManager.kill r.manager pid).2
        calls := r.calls ++ [.kill pid (ProcessManager.kill r.manager pid).1] })
  reap r pid :=
    ((ProcessManager.reap r.manager pid).1,
      { manager := (ProcessManager.reap r.manager pid).2
        calls := r.calls ++ [.reap pid (ProcessManager.reap r.manager pid).1] })

/-- The ledger of the producer that a call started. -/
def Call.opened (id : WorkerId) : Call → Option Ledger
  | spawn _ _ (some started) => some (Ledger.opening id started.early).1
  | _ => none

/-- In it is what was signalled before anyone listened, and nothing else. -/
theorem Call.exists_opening_of_opened {id : WorkerId} {call : Call} {g : Ledger}
    (h : call.opened id = some g) : ∃ early, (Ledger.opening id early).1 = g := by
  unfold Call.opened at h
  split at h
  · exact ⟨_, Option.some.inj h⟩
  · cases h

/-! ### Worlds -/

/-- What is known about a stored frame: whose it is, over which link it came, what it shows, the
number in its header, and how many pictures its producer had published when it was taken. -/
structure Receipt where
  worker : WorkerId
  link : Nat
  picture : Picture
  sequence : UInt64
  newest : Nat
deriving DecidableEq, Repr

/-- A multiplexer, the calls it made to the process manager for each worker, the ledgers of the
producers on its links, the receipts of the stored frames, and the tokens on their way. -/
structure World (σ : Type) where
  mux : Mux (Recorder σ)
  calls : List (WorkerId × Call)
  ledgers : List Ledger
  stored : List Receipt
  inFlight : List Token

namespace World

variable {σ : Type}

/-- A multiplexer without workers, for a configuration. -/
def start (manager : σ) (config : Config) (now : Instant) : World σ where
  mux := ⟨.start ⟨manager, []⟩ config.policy, .start now, config⟩
  calls := []
  ledgers := []
  stored := []
  inFlight := []

/-- The supervisor. -/
def sup (w : World σ) : Supervisor (Recorder σ) := w.mux.supervisor

/-- The world with another supervisor. -/
def withSup (w : World σ) (s : Supervisor (Recorder σ)) : World σ :=
  { w with mux := { w.mux with supervisor := s } }

/-- The calls that a supervisor has made beyond those known. -/
def newCalls (w : World σ) (s : Supervisor (Recorder σ)) : List Call :=
  s.manager.calls.drop w.sup.manager.calls.length

/-- What the supervisor did for a worker; every process that it started has a ledger. -/
def follow (w : World σ) (id : WorkerId) (s : Supervisor (Recorder σ)) : World σ :=
  { w.withSup s with
    calls := w.calls ++ (w.newCalls s).map fun call => (id, call)
    ledgers := w.ledgers ++ (w.newCalls s).filterMap (Call.opened id) }

/-- What the supervisor did for a worker, unless it does not know the worker. -/
def attempt (w : World σ) (id : WorkerId) (result : Except MuxError (Supervisor (Recorder σ))) :
    World σ :=
  match result with
  | .ok s => w.follow id s
  | .error _ => w

/-- Something for every worker of a list, in order. -/
def forEach (w : World σ) (ids : List WorkerId) (f : World σ → WorkerId → World σ) : World σ :=
  ids.foldl f w

/-- Changes the ledger of a link. -/
def modifyLedger (w : World σ) (n : Nat) (f : Ledger → Ledger) : World σ :=
  { w with ledgers := w.ledgers.modify n f }

/-- The link that a worker holds. -/
def held? (w : World σ) (id : WorkerId) : Option Nat :=
  ((w.sup.worker? id).bind (·.channels)).map (·.link)

/-- The receipt for the frame that was just stored for a worker. -/
def receipt (w : World σ) (id : WorkerId) (n : Nat) (s : Supervisor (Recorder σ)) : Receipt :=
  let entry := (s.frames.cached? id).getD .vacant
  { worker := id
    link := n
    picture := ⟨entry.data.getD [], entry.width, entry.height⟩
    sequence := ((s.worker? id).map (·.taken)).getD 0
    newest := (w.ledgers[n]?.map fun g => g.publishes.length).getD 0 }

/-- The multiplexer looks at the region of a worker.  A frame that it stores gets a receipt, and where
it stops in the middle the link is cut. -/
def receive (now : Instant) (w : World σ) (id : WorkerId) : World σ :=
  let (result, s) := w.sup.readWorker now id
  match result, w.held? id with
  | .took, some n =>
      { (w.withSup s).modifyLedger n Ledger.received with
        stored := w.stored ++ [w.receipt id n s] }
  | .overflow, some n => (w.withSup s).modifyLedger n Ledger.interrupted
  | _, _ => w.withSup s

/-- The workers that a pass over the regions gets to. -/
def looked (w : World σ) (now : Instant) : List WorkerId := Supervisor.looked now w.sup.ids w.sup

/-- The multiplexer drains the counter behind a token and goes by what was signalled. -/
def dispatch (w : World σ) (token : Token) (mmap : Mmap) : World σ :=
  let (mask, s) := w.sup.dispatch token mmap
  let w' := { w.withSup s with inFlight := w.inFlight.erase token }
  match mask, w.held? token.worker with
  | some _, some n => w'.modifyLedger n Ledger.drained
  | _, _ => w'

/-- A deed of a producer on its link. -/
def produce (w : World σ) (n : Nat) (d : Deed) : World σ :=
  match w.sup.links[n]? with
  | none => w
  | some link =>
      (w.withSup (w.sup.produce n fun l => ((), d.act l)).2).modifyLedger n fun g => d.note g link

/-- What can happen.  A token comes with the system's answer to the mapping of a region. -/
inductive Action where
  | addWorker (id : WorkerId) (source : String) (now : Instant)
  | tick (now : Instant)
  | event (id : WorkerId) (event : LifecycleEvent) (external : event.external = true) (now : Instant)
  | killWorker (id : WorkerId) (now : Instant)
  | reapWorker (id : WorkerId) (now : Instant)
  | releaseWorker (id : WorkerId) (now : Instant)
  | killAll
  | reapAll
  | releaseAll
  | wait
  | dispatch (token : Token) (mmap : Mmap)
  | readFrames (now : Instant)
  | pullOne (now : Instant)
  | pullBatch (n : Nat) (now : Instant)
  | snapshot (id : WorkerId)
  | release (id : WorkerId) (now : Instant)
  | produce (link : Nat) (deed : Deed)

variable [ProcessManager σ]

/-- The world after an action. -/
def step (w : World σ) : Action → World σ
  | .addWorker id source now =>
      match w.sup.addWorker id source now with
      | .ok s => w.withSup (s.addCache id)
      | .error _ => w
  | .tick now => w.forEach w.sup.ids fun w id => w.follow id (w.sup.tickWorker now id)
  | .event id event _ now => w.follow id (w.sup.handleEvent id event now)
  | .killWorker id now => w.attempt id (w.sup.killWorker id now)
  | .reapWorker id now => w.attempt id (w.sup.reapWorker id now)
  | .releaseWorker id now => w.attempt id (w.sup.releaseWorker id now)
  | .killAll => w.forEach w.sup.ids fun w id => w.follow id (w.sup.killProcess id)
  | .reapAll => w.forEach w.sup.ids fun w id => w.follow id (Supervisor.reapProcess (0, w.sup) id).2
  | .releaseAll =>
      w.forEach w.sup.ids fun w id => w.follow id ((w.sup.releaseChannels id).resetCache id)
  | .wait => { w.withSup w.sup.wait.2 with inFlight := w.inFlight ++ w.sup.wait.1 }
  | .dispatch token mmap => w.dispatch token mmap
  | .readFrames now => w.forEach (w.looked now) (receive now)
  | .pullOne now => { w with mux := (w.mux.pullOne now).2 }
  | .pullBatch n now => { w with mux := (w.mux.pullBatch n now).2 }
  | .snapshot _ => w
  | .release id now => { w with mux := (w.mux.release id now).toOption.getD w.mux }
  | .produce n deed => w.produce n deed

/-- The world after some actions. -/
def run (w : World σ) (l : List Action) : World σ := l.foldl step w

/-- A run goes on where it stopped. -/
theorem run_append (w : World σ) (l l' : List Action) : w.run (l ++ l') = (w.run l).run l' :=
  List.foldl_append

omit [ProcessManager σ] in
/-- The frames that an action hands to the consumer. -/
def handed (w : World σ) : Action → List Frame
  | .pullOne now => (w.mux.pullOne now).1.toList
  | .pullBatch n now => (w.mux.pullBatch n now).1.getD []
  | .snapshot id => (w.sup.frames.snapshot id).toList
  | _ => []

/-- A rehearsal: a worker is started, its producer offers a region and publishes twice, the frame is
taken and pulled, and of a third publish only the first half is done. -/
def rehearsal : List Action :=
  [.addWorker ⟨1⟩ "cam" ⟨0⟩, .tick ⟨0⟩, .produce 0 (.offer .linux 12), .wait,
    .dispatch ⟨⟨1⟩, 1⟩ .linux, .produce 0 (.publish ⟨List.replicate 12 1, 2, 2⟩),
    .produce 0 (.publish ⟨List.replicate 12 2, 2, 2⟩), .wait, .dispatch ⟨⟨1⟩, 1⟩ .linux,
    .readFrames ⟨1⟩, .pullOne ⟨1⟩, .produce 0 (.fill ⟨List.replicate 12 3, 2, 2⟩)]

/-- The world after the rehearsal, with a process that signals its start before anyone listens. -/
def rehearsed : World ScriptedManager :=
  (start ⟨[.starts none [.ofEvent .childStarted]], [], [], 0, []⟩ .defaults ⟨0⟩).run rehearsal

/-! ### The program's own functions -/

/-- What the program does: the calls of the multiplexer, and a producer's on its link. -/
def Action.act (m : Mux (Recorder σ)) : Action → Mux (Recorder σ)
  | .addWorker id source now =>
      match m.supervisor.addWorker id source now with
      | .ok s => m.mapSupervisor fun _ => s.addCache id
      | .error _ => m
  | .tick now => m.mapSupervisor fun s => s.tick now
  | .event id e _ now => m.mapSupervisor fun s => s.handleEvent id e now
  | .killWorker id now => m.mapSupervisor fun s => (s.killWorker id now).toOption.getD s
  | .reapWorker id now => m.mapSupervisor fun s => (s.reapWorker id now).toOption.getD s
  | .releaseWorker id now => m.mapSupervisor fun s => (s.releaseWorker id now).toOption.getD s
  | .killAll => m.mapSupervisor fun s => s.killAll
  | .reapAll => m.mapSupervisor fun s => s.reapAll.2
  | .releaseAll => m.mapSupervisor fun s => s.releaseAll
  | .wait => m.mapSupervisor fun s => s.wait.2
  | .dispatch token mmap => m.mapSupervisor fun s => (s.dispatch token mmap).2
  | .readFrames now => m.mapSupervisor fun s => (s.readFrames now).2
  | .pullOne now => (m.pullOne now).2
  | .pullBatch n now => (m.pullBatch n now).2
  | .snapshot _ => m
  | .release id now => (m.release id now).toOption.getD m
  | .produce n deed => m.mapSupervisor fun s => (s.produce n fun l => ((), deed.act l)).2

omit [ProcessManager σ] in
/-- A look at a region, as the multiplexer sees it. -/
theorem mux_receive (now : Instant) (w : World σ) (id : WorkerId) :
    (receive now w id).mux = w.mux.mapSupervisor fun s => (s.readWorker now id).2 := by
  unfold receive
  dsimp only
  split <;> rfl

omit [ProcessManager σ] in
theorem sup_receive (now : Instant) (w : World σ) (id : WorkerId) :
    (receive now w id).sup = (w.sup.readWorker now id).2 :=
  congrArg Mux.supervisor (mux_receive now w id)

end World

end FrameMux
