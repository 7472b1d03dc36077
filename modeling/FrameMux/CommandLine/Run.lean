/-
**Running from the command line.**

The multiplexer run from the command line is its own consumer: it takes frames, or batches of them,
and gives them straight back, and writes a line for each.  It runs until it is interrupted.

Main definitions:

* `FrameMux.frameLine`, `FrameMux.reportLine` — the lines that it writes;
* `FrameMux.Session.framesUntil` — **how many frames are handed out** until a text is written;
* `FrameMux.CommandResult`, `FrameMux.runCommand` — a whole run.
-/

import FrameMux.CommandLine.Arguments
import FrameMux.CommandLine.LogFilter
import FrameMux.Session

set_option relaxedAutoImplicit false
set_option autoImplicit false

namespace FrameMux

/-! ### Lines -/

/-- The line about a frame that was handed out. -/
def frameLine (f : Frame) : String :=
  f.worker.name ++ " frame #" ++ toString f.sequence ++ " " ++ toString f.width.toNat ++ "x"
    ++ toString f.height.toNat ++ " (" ++ toString f.data.length ++ " bytes)"

/-- A nonnegative number with one digit after the point. -/
def oneDecimal (x : Binary64) : String :=
  match x.magnitude? with
  | none => x.render .plain
  | some r =>
      let tenths := (r.mul (.ofNat 10)).round
      toString (tenths / 10) ++ "." ++ toString (tenths % 10)

/-- The line about the throughput. -/
def reportLine (m : Mux ScriptedManager) : String :=
  oneDecimal m.meter.average ++ " frames/s handed out, "
    ++ toString m.supervisor.frames.readyCount ++ " ready"

/-- Whether a text occurs in a list of characters. -/
def occursIn (text : List Char) : List Char → Bool
  | [] => text.isEmpty
  | c :: rest => text.isPrefixOf (c :: rest) || occursIn text rest

/-! ### Running -/

/-- What one turn writes and hands out. -/
structure TurnLog where
  lines : List String
  handed : Nat

namespace Session

/-- The report that is due, with the time of the next one. -/
def reportDue (filter : LogFilter) (next : Instant) (s : Session) :
    List String × Instant × Session :=
  if next ≤ s.now then
    let mux := { s.mux with meter := s.mux.meter.roll s.now }
    (if filter.writes LogFilter.throughputTopic .info then [reportLine mux] else [],
      s.now.add (s.mux.config.settings .statsInterval), { s with mux })
  else ([], next, s)

/-- One turn with real producers and the consumer. -/
def turnConsuming (filter : LogFilter) (batch : Nat) (next : Instant) (s : Session) :
    TurnLog × Instant × Session :=
  let s := s.turnServing
  let (reports, next, s) := s.reportDue filter next
  let (frames, mux) := s.mux.consume batch s.now
  let lines := if filter.writes LogFilter.programTopic .debug then frames.map frameLine else []
  (⟨reports ++ lines, frames.length⟩, next, { s with mux })

/-- How many frames are handed out until a text is written, at most `fuel` turns; if it never is,
none are counted. -/
def framesUntil (filter : LogFilter) (batch : Nat) (text : String) :
    Nat → Instant → Nat → Session → Nat
  | 0, _, _, _ => 0
  | fuel + 1, next, handed, s =>
      let (log, next, s) := s.turnConsuming filter batch next
      let handed := handed + log.handed
      if log.lines.any fun line => occursIn text.toList line.toList then handed
      else framesUntil filter batch text fuel next handed s

end Session

/-- How a command ended: its exit code, the error that it reported, how many frames it had handed
out when it was interrupted, and whether it said that it stopped. -/
structure CommandResult where
  exit : Nat
  error : Option String
  handed : Option Nat
  stopped : Bool
deriving DecidableEq, Repr

namespace CommandResult

/-- Arguments that ask for help, or make no sense. -/
def ofOptionFault : OptionFault → CommandResult
  | .help => ⟨0, none, none, false⟩
  | .usage => ⟨2, none, none, false⟩

/-- A reported error, after what was said about the filter of the log. -/
def ofError (a : Arguments) (e : MuxError) : CommandResult :=
  let complaints := LogFilter.complaints (LogFilter.textForMuxer a.logLevel)
  ⟨1, some ("\n".intercalate (complaints ++ ["Error: " ++ e.shown])), none, false⟩

end CommandResult

/-- The process manager of a run: without the program of its own directory nothing can be started.
-/
def managerFor (c : Config) : ScriptedManager :=
  match c.workerPath with
  | none => ⟨[], [], [], 0, []⟩
  -- Only the program beside the multiplexer serves sources: with another one no frame ever comes.
  | some _ => ⟨List.replicate Session.patience .fails, [], [], 0, []⟩

/-- How many turns a run is followed for. -/
def followedTurns : Nat := 400

/-- Runs a checked configuration until a text is written and it is interrupted. -/
def runConfig (c : Config) (a : Arguments) (text : String) : CommandResult :=
  match Mux.create c (managerFor c) ⟨0⟩ with
  | .error e => .ofError a e
  | .ok mux =>
      let filter := LogFilter.forMuxer a.logLevel
      let first : Instant := (⟨0⟩ : Instant).add (c.settings .statsInterval)
      let handed := (Session.start mux .linux).framesUntil filter a.batchSize text followedTurns first 0
      -- The interruption and the end are lines too.
      let interrupted := filter.writes LogFilter.programTopic .info
      ⟨0, none, if interrupted then some handed else none, filter.writes LogFilter.lifeTopic .info⟩

/-- Runs the multiplexer from the command line; `text` is what its interruption waits for. -/
def runCommand (readFile : String → Except FileFault (List UInt8)) (arguments : List String)
    (text : String) : CommandResult :=
  match Arguments.parse? arguments with
  | .error fault => .ofOptionFault fault
  | .ok a =>
      match a.toConfig readFile with
      | .error e => .ofError a e
      | .ok c => runConfig c a text

end FrameMux
