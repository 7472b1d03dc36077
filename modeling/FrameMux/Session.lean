/-
**Sessions.**

A session is a multiplexer at work: time passes turn by turn, producers act on the links of their
workers, and a consumer takes frames.  With real producers every process that is started serves its
source at once; with rehearsed ones the producers do what each round of the rehearsal says.

Main definitions:

* `FrameMux.Session` — a multiplexer with the system's answer to mappings, the time, and the number of
  producers that were started;
* `FrameMux.Session.turnUntil`, `FrameMux.Session.collectUntil` — turns until something holds,
  without and with a consumer;
* `FrameMux.Session.rehearse` — **one round** of a rehearsal;
* `FrameMux.Session.observe` — **a session with real producers**.
-/

import FrameMux.Mux
import FrameMux.Process.Script
import FrameMux.Producer.Process

set_option relaxedAutoImplicit false
set_option autoImplicit false

namespace FrameMux

/-- A multiplexer at work. -/
structure Session where
  mux : Mux ScriptedManager
  mmap : Mmap
  now : Instant
  served : Nat

/-- What the producers do in one round of a rehearsal. -/
structure Round where
  data : Bytes
  width : UInt32
  height : UInt32
  exits : Bool
deriving DecidableEq, Repr

namespace Session

/-- A session before its first turn. -/
def start (mux : Mux ScriptedManager) (mmap : Mmap) : Session := ⟨mux, mmap, ⟨0⟩, 0⟩

/-- The most turns that anything is waited for. -/
def patience : Nat := 5000

/-- The workers of the session. -/
def workers (s : Session) : List Worker := s.mux.supervisor.workers.values

/-- Lets time pass for one turn. -/
def turn (s : Session) : Session :=
  let now := s.now.add (s.mux.config.settings .tickInterval)
  { s with mux := s.mux.turn s.mmap now, now }

/-- Turns until something holds. -/
def turnUntil (step : Session → Session) (done : Session → Bool) : Nat → Session → Session
  | 0, s => s
  | fuel + 1, s => if done s then s else turnUntil step done fuel (step s)

/-- Turns in which a consumer takes frames, until enough sources were seen; the frames are in the
order in which they were taken. -/
def collectUntil (step : Session → Session) (batch sources : Nat) :
    Nat → List Frame → Session → List Frame × Session
  | 0, seen, s => (seen, s)
  | fuel + 1, seen, s =>
      -- Two frames of one source count as one source seen.
      if sources ≤ ((seen.map (·.worker)).eraseDups).length then (seen, s)
      else
        let s := step s
        let (frames, mux) := s.mux.consume batch s.now
        collectUntil step batch sources fuel (seen ++ frames) { s with mux }

/-- The frames by worker, as they were taken otherwise. -/
def byWorker (frames : List Frame) : List Frame :=
  frames.mergeSort fun a b => decide (a.worker ≤ b.worker)

/-- An action of the current producer of every worker. -/
def everyProducer (act : Worker → Link → Link) (s : Session) : Session :=
  s.workers.foldl (fun s w =>
    match w.channels with
    | none => s
    | some channels =>
        { s with mux := s.mux.mapSupervisor fun sup =>
            (sup.produce channels.link fun link => ((), act w link)).2 }) s

/-! ### Rehearsals -/

/-- Whether every worker has a process. -/
def allStarted (s : Session) : Bool := s.workers.all fun w => w.channels.isSome

/-- What a producer does in a round: start, negotiate, publish. -/
def perform (mmap : Mmap) (round : Round) (link : Link) : Link :=
  let link := (link.signal (.ofEvent .childStarted)).2
  let link := (link.offer mmap true (UInt64.ofNat round.data.length)).2
  (link.publish round.data round.width round.height).2

/-- One round: every producer performs, and frames are taken until every source was seen. -/
def performRound (round : Round) (batch : Nat) (s : Session) : List Frame × Session :=
  let s := turnUntil turn allStarted patience s
  let s := s.everyProducer fun _ => perform s.mmap round
  let (frames, s) := collectUntil turn batch s.workers.length patience [] s
  (byWorker frames, s)

/-- Every producer reports its exit, and turns pass until each has a successor. -/
def restart (s : Session) : Session :=
  let before := s.workers.map (·.generation)
  let s := s.everyProducer fun _ link => (link.signal (.ofEvent .pipelineExited)).2
  turnUntil turn (fun s =>
    (s.workers.zip before).all fun p => decide (p.2 < p.1.generation)) patience s

/-- One round, with the reports at its end, and the restart that may follow. -/
def rehearse (batch : Nat) (s : Session) (round : Round) :
    (List Frame × List WorkerHealth) × Session :=
  let (frames, s) := performRound round batch s
  let health := s.mux.supervisor.health s.now
  ((frames, health), if round.exits then s.restart else s)

/-! ### Real producers -/

/-- Lets every producer that was started since the last turn serve its source. -/
def serveNew (s : Session) : Session :=
  let started := s.mux.supervisor.links.length
  -- Links are numbered in the order of their making, so the new ones come after those served.
  let fresh := fun (w : Worker) =>
    (w.channels.map fun channels => decide (s.served ≤ channels.link)).getD false
  let s' := s.everyProducer fun w link =>
    if fresh w then (serve s.mmap link w.source 1).2 else link
  { s' with served := started }

/-- One turn with real producers. -/
def turnServing (s : Session) : Session := s.turn.serveNew

/-- Whether every worker has negotiated, or was restarted often enough. -/
def settled (restarts : Nat) (s : Session) : Bool :=
  s.workers.all fun w => w.negotiated || (0 < restarts && restarts ≤ w.restarts.toNat)

/-- A session with real producers: frames are taken until enough sources were seen, and turns pass
until every worker is settled. -/
def observe (batch sources restarts : Nat) (s : Session) : List Frame × Session :=
  let (frames, s) := collectUntil turnServing batch sources patience [] s
  (byWorker frames, turnUntil turnServing (settled restarts) patience s)

end Session

end FrameMux
