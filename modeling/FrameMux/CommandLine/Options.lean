/-
**Command-line options.**

All arguments are long options with one value each, written `--name value` or `--name=value`, and
the request for help.  Arguments are looked at in order, and the first one that is wrong, or the
request for help, ends the reading.

Main definitions:

* `FrameMux.OptionShape` — the name of an option, whether it may be repeated, and which values it
  takes;
* `FrameMux.OptionFault` — why arguments are not used: they ask for help, or make no sense;
* `FrameMux.scanOptions` — **the values** of all options, in order.

Main results:

* `FrameMux.scanOptions_help` — a request for help in front is granted.
-/

set_option relaxedAutoImplicit false
set_option autoImplicit false

namespace FrameMux

/-- An option of a command. -/
structure OptionShape where
  name : String
  repeatable : Bool
  accepts : String → Bool

/-- Why arguments are not used. -/
inductive OptionFault where
  | help
  | usage
deriving DecidableEq, Repr

/-- Whether an argument is an option rather than a value; a single hyphen is a value. -/
def looksLikeOption (argument : String) : Bool := argument.startsWith "-" && argument ≠ "-"

/-- The name and the attached value of an argument that starts with two hyphens. -/
def splitLong? (argument : String) : Option (String × Option String) :=
  match argument.toList with
  | '-' :: '-' :: rest =>
      let name := rest.takeWhile (· ≠ '=')
      match rest.dropWhile (· ≠ '=') with
      | _ :: value => some (String.ofList name, some (String.ofList value))
      | [] => some (String.ofList name, none)
  | _ => none

/-- Whether an argument asks for help. -/
def asksForHelp (argument : String) : Bool := argument = "--help" || argument.startsWith "-h"

/-- Adds the value of an option to those so far. -/
def addOption (shape : OptionShape) (value : String) (seen : List (String × String)) :
    Except OptionFault (List (String × String)) :=
  if !shape.repeatable && seen.any (fun p => p.1 = shape.name) then .error .usage
  else if !shape.accepts value then .error .usage
  else .ok (seen ++ [(shape.name, value)])

/-- The values of all options in order; `pending` is an option that waits for its value. -/
def scanOptionsFrom (shapes : List OptionShape) :
    List String → Option OptionShape → List (String × String) →
      Except OptionFault (List (String × String))
  | [], none, seen => .ok seen
  | [], some _, _ => .error .usage
  | argument :: rest, some shape, seen =>
      if looksLikeOption argument then .error .usage
      else
        match addOption shape argument seen with
        | .error fault => .error fault
        | .ok seen => scanOptionsFrom shapes rest none seen
  | argument :: rest, none, seen =>
      if asksForHelp argument then .error .help
      else if argument = "--" then if rest.isEmpty then .ok seen else .error .usage
      else
        match splitLong? argument with
        | none => .error .usage
        | some (name, value?) =>
            match shapes.find? fun shape => shape.name = name with
            | none => .error .usage
            | some shape =>
                match value? with
                | none => scanOptionsFrom shapes rest (some shape) seen
                | some value =>
                    match addOption shape value seen with
                    | .error fault => .error fault
                    | .ok seen => scanOptionsFrom shapes rest none seen

/-- The values of all options in order. -/
def scanOptions (shapes : List OptionShape) (arguments : List String) :
    Except OptionFault (List (String × String)) :=
  scanOptionsFrom shapes arguments none []

/-- A request for help in front is granted. -/
theorem scanOptions_help (shapes : List OptionShape) (rest : List String) :
    scanOptions shapes ("--help" :: rest) = .error .help := rfl

end FrameMux
