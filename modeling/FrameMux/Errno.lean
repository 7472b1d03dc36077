/-
**Error numbers of system calls.**

The handful of operating-system errors that the frame hand-off can meet, with their numbers and
texts.

Main definitions:

* `FrameMux.Errno` — the error numbers;
* `FrameMux.Errno.message` — the text and the number, as messages show them.
-/

set_option relaxedAutoImplicit false
set_option autoImplicit false

namespace FrameMux

/-- Why a system call failed. -/
inductive Errno where
  | notPermitted
  | noEntry
  | again
  | outOfMemory
  | accessDenied
  | notDirectory
  | isDirectory
  | invalidArgument
  | fileTooLarge
  | brokenPipe
deriving DecidableEq, Repr

namespace Errno

/-- The number of an error. -/
def code : Errno → Nat
  | notPermitted => 1
  | noEntry => 2
  | again => 11
  | outOfMemory => 12
  | accessDenied => 13
  | notDirectory => 20
  | isDirectory => 21
  | invalidArgument => 22
  | fileTooLarge => 27
  | brokenPipe => 32

/-- The text of an error. -/
def text : Errno → String
  | notPermitted => "Operation not permitted"
  | noEntry => "No such file or directory"
  | again => "Resource temporarily unavailable"
  | outOfMemory => "Cannot allocate memory"
  | accessDenied => "Permission denied"
  | notDirectory => "Not a directory"
  | isDirectory => "Is a directory"
  | invalidArgument => "Invalid argument"
  | fileTooLarge => "File too large"
  | brokenPipe => "Broken pipe"

/-- The text and the number of an error. -/
def message (e : Errno) : String := e.text ++ " (os error " ++ toString e.code ++ ")"

end Errno

end FrameMux
