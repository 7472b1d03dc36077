/-
**What can go wrong in the multiplexer.**

Main definitions:

* `FrameMux.FileFault` — why a file could not be read as text;
* `FrameMux.MuxError` — any error of the multiplexer, with `FrameMux.MuxError.message` for its text
  and `FrameMux.MuxError.shown` for how the command line reports it.
-/

import FrameMux.Config.Json
import FrameMux.Process.Program

set_option relaxedAutoImplicit false
set_option autoImplicit false

namespace FrameMux

open FrameMux.Text

/-- Why a file could not be read as text. -/
inductive FileFault where
  | system (cause : Errno)
  | notUtf8
deriving DecidableEq, Repr

namespace FileFault

/-- The wording of ill-formed text. -/
def notUtf8Text : String := "stream did not contain valid UTF-8"

/-- The wording of a file fault. -/
def message : FileFault → String
  | system cause => cause.message
  | notUtf8 => notUtf8Text

/-- The name of an error number's kind in reports. -/
def kindName : Errno → String
  | .noEntry => "NotFound"
  | .accessDenied => "PermissionDenied"
  | .notPermitted => "PermissionDenied"
  | .isDirectory => "IsADirectory"
  | .notDirectory => "NotADirectory"
  | .invalidArgument => "InvalidInput"
  | .outOfMemory => "OutOfMemory"
  | .fileTooLarge => "FileTooLarge"
  | .brokenPipe => "BrokenPipe"
  | .again => "WouldBlock"

/-- How a report shows a file fault with all its parts. -/
def shown : FileFault → String
  | system cause =>
      "Os \x7b code: " ++ toString cause.code ++ ", kind: " ++ kindName cause ++ ", message: "
        ++ quote cause.text ++ " \x7d"
  | notUtf8 => "Error \x7b kind: InvalidData, message: " ++ quote notUtf8Text ++ " \x7d"

end FileFault

/-- The bytes of a file that is to be read as text; programs hold none. -/
def FileSystem.readText (fs : FileSystem) (path : String) : Except FileFault (List UInt8) :=
  match fs.bytesAt? path with
  | some bytes => .ok bytes
  | none =>
      if fs.directories.contains path then .error (.system .isDirectory)
      else if (fs.programAt? path).isSome then .error .notUtf8
      else if fs.throughFile path then .error (.system .notDirectory)
      else .error (.system .noEntry)

/-- Any error of the multiplexer. -/
inductive MuxError where
  | spawnFailed (cause : SpawnError)
  | unknownWorker (id : WorkerId)
  | tooManyWorkers
  | configuration (fault : ConfigFault)
  | file (fault : FileFault)
  | json (fault : Json.Fault)
deriving DecidableEq, Repr

namespace MuxError

/-- The wording of an error. -/
def message : MuxError → String
  | spawnFailed cause => "Failed to spawn worker " ++ cause.id.name ++ ": " ++ cause.message
  | unknownWorker id => "Unknown worker: " ++ id.name
  | tooManyWorkers =>
      "Too many workers: at most " ++ toString maxWorkers ++ " sources are supported"
  | configuration fault => "Configuration error: " ++ fault.message
  | file fault => "I/O error: " ++ fault.message
  | json fault => "JSON error: " ++ fault.message

/-- How the command line reports an error with all its parts. -/
def shown : MuxError → String
  | spawnFailed cause =>
      "SpawnFailed \x7b worker: WorkerId(" ++ toString cause.id.number.toNat ++ "), reason: "
        ++ quote cause.message ++ " \x7d"
  | unknownWorker id =>
      "UnknownWorker \x7b worker: WorkerId(" ++ toString id.number.toNat ++ ") \x7d"
  | tooManyWorkers => "TooManyWorkers \x7b limit: " ++ toString maxWorkers ++ " \x7d"
  | configuration fault => "Configuration \x7b message: " ++ quote fault.message ++ " \x7d"
  | file fault => "Io(" ++ fault.shown ++ ")"
  | json fault => "Json(" ++ fault.shown ++ ")"

/-- An invalid configuration as an error. -/
def ofInvalidConfig : InvalidConfig → MuxError
  | .fault fault => configuration fault
  | .tooManySources => tooManyWorkers

end MuxError

/-- The configuration in a file's bytes, which have to be well-formed UTF-8. -/
def Config.ofFile (bytes : List UInt8) : Except MuxError Config :=
  match Utf8.decodeStrict? bytes with
  | none => .error (.file .notUtf8)
  | some _ => (Config.ofJson bytes).mapError .json

/-- The source that a command-line text assigns. -/
def Source.ofArgument (text : String) : Except MuxError Source :=
  (Source.ofAssignment text).mapError fun cause => .configuration (.assignment cause)

/-- Checks a configuration before a run. -/
def Config.check (c : Config) : Except MuxError Unit := c.validate.mapError .ofInvalidConfig

end FrameMux
