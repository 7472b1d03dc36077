/-
**Starting programs.**

A worker is started from a program file.  A file system is modelled by what matters for that: which
files are programs, with the code they exit with when they are handed the arguments of a worker, and
which other files and directories there are.

Main definitions:

* `FrameMux.FileSystem` — the programs and the other files;
* `FrameMux.FileSystem.start` — **starting a program** on a source;
* `FrameMux.SpawnError` — a worker that could not be started.
-/

import FrameMux.Process.Basic

set_option relaxedAutoImplicit false
set_option autoImplicit false

namespace FrameMux

/-- A worker that could not be started from a program file. -/
structure SpawnError where
  id : WorkerId
  path : String
  reason : SpawnReason
deriving DecidableEq, Repr

/-- The wording of a spawn error, without its heading. -/
def SpawnError.message (e : SpawnError) : String := e.path ++ ": " ++ e.reason.message

/-- Programs by path with the code they exit with, other files with their bytes, and directories.
Programs in the `searched` directories are found by their bare names. -/
structure FileSystem where
  searched : List String
  programs : List (String × Int)
  files : List (String × List UInt8)
  directories : List String
deriving Repr

namespace FileSystem

/-- The file system of a plain machine. -/
def plain : FileSystem where
  searched := ["/usr/bin", "/bin"]
  programs :=
    ["/bin", "/usr/bin"].flatMap fun dir =>
      [("true", 0), ("false", 1), ("echo", 0), ("cat", 1), ("sleep", 1), ("ls", 2), ("sh", 2),
        ("env", 125)].map fun (name, code) => (dir ++ "/" ++ name, code)
  files := [("/dev/null", []), ("/etc/passwd", "root:x:0:0:".toUTF8.toList), ("/etc/hostname", [])]
  directories :=
    ["/", "/bin", "/bin/", "/usr", "/usr/bin", "/dev", "/etc", "/proc", "/root", "/tmp", "/tmp/",
      ".", "..", "./", "../"]

/-- The file system with one more file. -/
def withFile (fs : FileSystem) (path : String) (bytes : List UInt8) : FileSystem :=
  { fs with files := (path, bytes) :: fs.files }

/-- The bytes of the file at a path that is no program. -/
def bytesAt? (fs : FileSystem) (path : String) : Option (List UInt8) :=
  (fs.files.find? fun p => p.1 = path).map Prod.snd

/-- The code of the program at a path. -/
def programAt? (fs : FileSystem) (path : String) : Option Int :=
  (fs.programs.find? fun p => p.1 = path).map Prod.snd

/-- The code of the program that a path names: bare names are searched for. -/
def find? (fs : FileSystem) (path : String) : Option Int :=
  if path.toList.contains '/' then fs.programAt? path
  else fs.searched.findSome? fun dir => fs.programAt? (dir ++ "/" ++ path)

/-- Whether a path leads through a file that is no directory. -/
def throughFile (fs : FileSystem) (path : String) : Bool :=
  (fs.programs.map Prod.fst ++ fs.files.map Prod.fst).any fun p => path.startsWith (p ++ "/")

/-- Why no program can be started from a path. -/
def refusal (fs : FileSystem) (path : String) : Errno :=
  let present := fs.directories.contains path || (fs.bytesAt? path).isSome
  if present && path.toList.contains '/' then .accessDenied
  else if fs.throughFile path then .notDirectory
  else .noEntry

/-- Whether a text can be handed to a program. -/
def hasNul (text : String) : Bool := text.toList.any (·.toNat = 0)

/-- Starts the program at a path for a worker, and tells how it ends. -/
def start (fs : FileSystem) (id : WorkerId) (path source : String) :
    Except SpawnError ReapStatus :=
  if hasNul path || hasNul source then .error ⟨id, path, .nulByte⟩
  else
    match fs.find? path with
    | some code => .ok (.exited code)
    | none => .error ⟨id, path, .system (fs.refusal path)⟩

end FileSystem

end FrameMux
