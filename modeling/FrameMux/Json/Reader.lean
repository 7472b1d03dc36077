/-
**Reading a JSON text byte by byte.**

A reader walks over the bytes of a text with a cursor.  When it fails, the cursor stays where it is,
because the record around it may still have to find its end.

Main definitions:

* `FrameMux.Json.Cursor` — the place reached and the bytes to come;
* `FrameMux.Json.Reader` — a computation that moves a cursor and may fail;
* `FrameMux.Json.failHere`, `FrameMux.Json.failAhead` — failing after the bytes read, or with the
  next byte counted;
* `FrameMux.Json.skipBlanks` — the next byte that is no white space;
* `FrameMux.Json.placed` — a reader whose faults are placed where it stopped.

Main results:

* `FrameMux.Json.Cursor.length_rest_advance` — moving on consumes a byte, if there is one.
-/

import FrameMux.Json.Fault

set_option relaxedAutoImplicit false
set_option autoImplicit false

namespace FrameMux.Json

/-! ### Cursors -/

/-- The place reached in a text, and the bytes to come. -/
structure Cursor where
  position : Position
  rest : List UInt8
deriving DecidableEq, Repr

namespace Cursor

/-- The line feed. -/
def lineFeed : UInt8 := 10

/-- The start of a text. -/
def start (bytes : List UInt8) : Cursor := ⟨⟨1, 0⟩, bytes⟩

/-- The place after one more byte. -/
def after (p : Position) (b : UInt8) : Position :=
  if b = lineFeed then ⟨p.line + 1, 0⟩ else ⟨p.line, p.column + 1⟩

/-- The cursor after the next byte, if there is one. -/
def advance (c : Cursor) : Cursor :=
  match c.rest with
  | [] => c
  | b :: rest => ⟨after c.position b, rest⟩

/-- The place with the next byte counted, if there is one. -/
def ahead (c : Cursor) : Position := c.advance.position

/-- Moving on consumes a byte, if there is one. -/
theorem length_rest_advance (c : Cursor) : c.advance.rest.length = c.rest.length - 1 := by
  unfold advance
  split <;> simp_all

/-- Whether a byte is white space between values. -/
def isBlank (b : UInt8) : Bool := b = 32 || b = 10 || b = 9 || b = 13

/-- Moves past white space: `rest` are the bytes from the place on. -/
def pastBlanks : Position → List UInt8 → Cursor
  | p, [] => ⟨p, []⟩
  | p, b :: rest => if isBlank b then pastBlanks (after p b) rest else ⟨p, b :: rest⟩

/-- Moves past bytes that satisfy a test. -/
def past (test : UInt8 → Bool) : Position → List UInt8 → Cursor
  | p, [] => ⟨p, []⟩
  | p, b :: rest => if test b then past test (after p b) rest else ⟨p, b :: rest⟩

end Cursor

/-! ### Readers -/

/-- A computation that moves a cursor and may fail. -/
abbrev Reader := ExceptT Fault (StateM Cursor)

/-- Runs a reader from the start of a text. -/
def Reader.runOn {α : Type} (r : Reader α) (bytes : List UInt8) : Except Fault α :=
  (r.run.run (Cursor.start bytes)).1

/-- Fails after the bytes read so far. -/
def failHere {α : Type} (problem : Problem) : Reader α := do
  throw ⟨problem, some (← get).position⟩

/-- Fails with the next byte counted. -/
def failAhead {α : Type} (problem : Problem) : Reader α := do
  throw ⟨problem, some (← get).ahead⟩

/-- Fails at a place that is not known yet. -/
def failSomewhere {α : Type} (problem : Problem) : Reader α := throw ⟨problem, none⟩

/-- The next byte, which stays there. -/
def peek : Reader (Option UInt8) := do return (← get).rest.head?

/-- Moves past the next byte. -/
def eat : Reader Unit := modify Cursor.advance

/-- The next byte, which is passed. -/
def next : Reader (Option UInt8) := do
  let b ← peek
  eat
  return b

/-- Moves past white space and looks at the next byte. -/
def skipBlanks : Reader (Option UInt8) := do
  modify fun c => Cursor.pastBlanks c.position c.rest
  peek

/-- A reader whose faults are placed where it stopped, unless they have a place. -/
def placed {α : Type} (r : Reader α) : Reader α := do
  try r catch fault => throw (fault.placeAt (← get).position)

/-- The code of an ASCII character. -/
def code (c : Char) : UInt8 := UInt8.ofNat c.toNat

/-- Passes the rest of a word whose first letter was passed. -/
def readWord : List Char → Reader Unit
  | [] => return ()
  | c :: rest => do
      match ← next with
      | none => failHere .endInValue
      | some b => if b = code c then readWord rest else failHere .expectedWord

end FrameMux.Json
