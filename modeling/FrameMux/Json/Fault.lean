/-
**What can be wrong with a JSON text.**

A fault says what is wrong and where: a line and the number of its bytes that were read, counting
the offending one.  A fault that concerns a whole record is found before the reader knows where to
place it, so the position is optional and is filled in where the record ends.

Main definitions:

* `FrameMux.Json.Position` — a line and a column;
* `FrameMux.Json.Unexpected` — a value of the wrong kind;
* `FrameMux.Json.Problem` — what is wrong;
* `FrameMux.Json.Fault` — a problem at a place, with `FrameMux.Json.Fault.message`.
-/

import FrameMux.Binary64.Shortest
import FrameMux.Text.Quoted

set_option relaxedAutoImplicit false
set_option autoImplicit false

namespace FrameMux.Json

/-- A place in a text: lines count from one, columns count the bytes read of the line. -/
structure Position where
  line : Nat
  column : Nat
deriving DecidableEq, Repr, Inhabited

/-- A value of the wrong kind. -/
inductive Unexpected where
  | null
  | boolean (value : Bool)
  | integer (value : Int)
  | floating (value : Binary64)
  | text (value : String)
  | sequence
  | map
  | unitVariant
deriving DecidableEq, Repr

/-- How messages show a value of the wrong kind. -/
def Unexpected.message : Unexpected → String
  | null => "null"
  | boolean value => "boolean `" ++ (if value then "true" else "false") ++ "`"
  | integer value => "integer `" ++ toString value ++ "`"
  | floating value => "floating point `" ++ value.render .mixed ++ "`"
  | text value => "string " ++ Text.quote value
  | sequence => "sequence"
  | map => "map"
  | unitVariant => "unit variant"

/-- What is wrong with a text. -/
inductive Problem where
  | endInList
  | endInObject
  | endInText
  | endInValue
  | expectedColon
  | expectedListEnd
  | expectedObjectEnd
  | expectedWord
  | expectedValue
  | invalidEscape
  | invalidNumber
  | outOfRange
  | controlCharacter
  | keyNotText
  | loneSurrogate
  | brokenEscape
  | trailingComma
  | trailingCharacters
  | wrongKind (found : Unexpected) (expected : String)
  | wrongValue (found : Unexpected) (expected : String)
  | wrongLength (length : Nat) (expected : String)
  | missingField (name : String)
  | duplicateField (name : String)
  | unknownVariant (name : String) (expected : String)
  | rejected (reason : String)
deriving DecidableEq, Repr

/-- The wording of a problem. -/
def Problem.message : Problem → String
  | endInList => "EOF while parsing a list"
  | endInObject => "EOF while parsing an object"
  | endInText => "EOF while parsing a string"
  | endInValue => "EOF while parsing a value"
  | expectedColon => "expected `:`"
  | expectedListEnd => "expected `,` or `]`"
  | expectedObjectEnd => "expected `,` or `\x7d`"
  | expectedWord => "expected ident"
  | expectedValue => "expected value"
  | invalidEscape => "invalid escape"
  | invalidNumber => "invalid number"
  | outOfRange => "number out of range"
  | controlCharacter => "control character (\\u0000-\\u001F) found while parsing a string"
  | keyNotText => "key must be a string"
  | loneSurrogate => "lone leading surrogate in hex escape"
  | brokenEscape => "unexpected end of hex escape"
  | trailingComma => "trailing comma"
  | trailingCharacters => "trailing characters"
  | wrongKind found expected => "invalid type: " ++ found.message ++ ", expected " ++ expected
  | wrongValue found expected => "invalid value: " ++ found.message ++ ", expected " ++ expected
  | wrongLength length expected =>
      "invalid length " ++ toString length ++ ", expected " ++ expected
  | missingField name => "missing field `" ++ name ++ "`"
  | duplicateField name => "duplicate field `" ++ name ++ "`"
  | unknownVariant name expected => "unknown variant `" ++ name ++ "`, expected " ++ expected
  | rejected reason => reason

/-- A problem and its place, if that is known. -/
structure Fault where
  problem : Problem
  position : Option Position
deriving DecidableEq, Repr

namespace Fault

/-- The wording of a fault. -/
def message (f : Fault) : String :=
  match f.position with
  | none => f.problem.message
  | some p =>
      f.problem.message ++ " at line " ++ toString p.line ++ " column " ++ toString p.column

/-- Places a fault that has no place yet. -/
def placeAt (f : Fault) (p : Position) : Fault := { f with position := some (f.position.getD p) }

/-- How a report shows a fault with all its parts. -/
def shown (f : Fault) : String :=
  let p := f.position.getD ⟨0, 0⟩
  "Error(" ++ Text.quote f.problem.message ++ ", line: " ++ toString p.line ++ ", column: "
    ++ toString p.column ++ ")"

end Fault

end FrameMux.Json
