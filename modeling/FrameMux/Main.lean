/-
**The multiplexer as a command.**

This is the outer layer: it reads the arguments and the configuration file, runs the multiplexer
with producers of its own turn by turn, and writes its lines.  What happens in a turn, and what each
error says, is decided by the modules below it.

Main definitions:

* `FrameMux.fileFaultOf` — a failed read as a fault of the file;
* `FrameMux.follow` — the turns of a run, until the process is interrupted;
* `main` — the command.
-/

import FrameMux.CommandLine.Run

set_option relaxedAutoImplicit false
set_option autoImplicit false

namespace FrameMux

/-- A failed read as a fault of the file. -/
def fileFaultOf : IO.Error → FileFault
  | .noFileOrDirectory .. => .system .noEntry
  | .permissionDenied .. => .system .accessDenied
  | .inappropriateType .. => .system .isDirectory
  | .resourceExhausted .. => .system .outOfMemory
  | _ => .system .invalidArgument

/-- The bytes of a file, or why they could not be read. -/
def readConfigFile (path : String) : IO (Except FileFault (List UInt8)) := do
  try
    return .ok (← IO.FS.readBinFile path).toList
  catch cause =>
    return .error (fileFaultOf cause)

/-- How the command is used. -/
def usageText : String :=
  "Usage: framemux [--config FILE] [--source ID=URL]... [--worker-path FILE] [--batch-size N]\n"
    ++ "                [--log-level LEVEL] [--staleness-secs S] [--cooldown-secs S]"

/-- Writes the lines of turn after turn, at the pace of the configuration. -/
partial def follow (filter : LogFilter) (batch : Nat) (next : Instant) (s : Session) : IO Unit := do
  let (log, next, s) := s.turnConsuming filter batch next
  for line in log.lines do
    IO.println line
  IO.sleep (UInt32.ofNat ((s.mux.config.settings .tickInterval).millis))
  follow filter batch next s

/-- Reports an error. -/
def reportError (e : MuxError) : IO UInt32 := do
  IO.eprintln ("Error: " ++ e.shown)
  return 1

/-- Runs the multiplexer with understood arguments. -/
def runWith (a : Arguments) : IO UInt32 := do
  for complaint in LogFilter.complaints (LogFilter.textForMuxer a.logLevel) do
    IO.eprintln complaint
  let file ← match a.config with
    | some path => readConfigFile path
    | none => pure (.ok [])
  match a.toConfig (fun _ => file) with
  | .error e => reportError e
  | .ok c =>
      match Mux.create c (managerFor c) ⟨0⟩ with
      | .error e => reportError e
      | .ok mux =>
          let first : Instant := (⟨0⟩ : Instant).add (c.settings .statsInterval)
          follow (LogFilter.forMuxer a.logLevel) a.batchSize first (Session.start mux .linux)
          return 0

/-- Runs the multiplexer with its arguments. -/
def runArguments (arguments : List String) : IO UInt32 := do
  match Arguments.parse? arguments with
  | .error .help =>
      IO.println usageText
      return 0
  | .error .usage =>
      IO.eprintln usageText
      return 2
  | .ok a => runWith a

end FrameMux

/-- The command. -/
def main (arguments : List String) : IO UInt32 := FrameMux.runArguments arguments
