/-
**Passing over a JSON value.**

Fields that a record does not know are passed over.  The values inside may be nested to any depth,
so the brackets that are still open are kept on a list.

Main definitions:

* `FrameMux.Json.Bracket` — an open list or object;
* `FrameMux.Json.skipScalar` — a value without parts, or the bracket that it opens;
* `FrameMux.Json.skipClosing` — closing brackets up to the next value;
* `FrameMux.Json.skipValue` — **passing over a whole value**.
-/

import FrameMux.Json.Number
import FrameMux.Json.Text

set_option relaxedAutoImplicit false
set_option autoImplicit false

namespace FrameMux.Json

/-- The opening brace. -/
def openBrace : UInt8 := 0x7b

/-- The closing brace. -/
def closeBrace : UInt8 := 0x7d

/-- An open list or object. -/
inductive Bracket where
  | list
  | object
deriving DecidableEq, Repr

namespace Bracket

/-- The byte that closes a bracket. -/
def closing : Bracket → UInt8
  | list => code ']'
  | object => closeBrace

/-- The end of the text inside a bracket. -/
def atEnd : Bracket → Problem
  | list => .endInList
  | object => .endInObject

/-- Something other than a comma or the closing byte after a value. -/
def notClosed : Bracket → Problem
  | list => .expectedListEnd
  | object => .expectedObjectEnd

end Bracket

/-- Passes over a value without parts, or over the opening byte of a bracket. -/
def skipScalar : Reader (Option Bracket) := do
  match ← skipBlanks with
  | none => failAhead .endInValue
  | some b =>
      if b = code 'n' then eat *> readWord ['u', 'l', 'l'] *> pure none
      else if b = code 't' then eat *> readWord ['r', 'u', 'e'] *> pure none
      else if b = code 'f' then eat *> readWord ['a', 'l', 's', 'e'] *> pure none
      else if b = code '-' then eat *> skipNumber *> pure none
      else if isDigitByte b then skipNumber *> pure none
      else if b = code '"' then eat *> skipText *> pure none
      else if b = code '[' then eat *> pure (some .list)
      else if b = openBrace then eat *> pure (some .object)
      else failAhead .expectedValue

/-- Closes brackets up to a comma, or up to the first value of a bracket just opened; what is left
are the brackets that are still open, innermost first. -/
def skipClosing : Bool → List Bracket → Reader (List Bracket)
  | _, [] => return []
  | afterValue, bracket :: outer => do
      match ← skipBlanks with
      | none => failAhead bracket.atEnd
      | some b =>
          if b = code ',' ∧ afterValue then
            eat
            return bracket :: outer
          else if b = bracket.closing then
            eat
            skipClosing true outer
          else if afterValue then failAhead bracket.notClosed
          else return bracket :: outer

/-- Passes over the colon behind a key. -/
def readColon : Reader Unit := do
  match ← skipBlanks with
  | none => failAhead .endInObject
  | some b => if b = code ':' then eat else failAhead .expectedColon

/-- Passes over a key and its colon inside an object. -/
def skipKey : Bracket → Reader Unit
  | .list => return ()
  | .object => do
      match ← skipBlanks with
      | none => failAhead .endInObject
      | some b =>
          if b = code '"' then
            eat
            skipText
            readColon
          else failAhead .keyNotText

/-- Passes over values until no bracket is open; each value takes at least one byte, so `fuel`
counts the bytes. -/
def skipValues : Nat → List Bracket → Reader Unit
  | 0, _ => failAhead .endInValue
  | fuel + 1, opened => do
      let pending ← match ← skipScalar with
        | some bracket => skipClosing false (bracket :: opened)
        | none => skipClosing true opened
      match pending with
      | [] => return ()
      | bracket :: _ =>
          skipKey bracket
          skipValues fuel pending

/-- Passes over one value. -/
def skipValue : Reader Unit := do skipValues ((← get).rest.length + 1) []

end FrameMux.Json
