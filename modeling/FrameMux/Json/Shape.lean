/-
**Reading values of known shape.**

A configuration is read straight into its types.  Each reader here accepts one shape of value and
says, for any other, what it found and what it expected.  A record may be written as an object or as
a list of its fields; faults inside it that have no place yet are placed where the record's end was
looked for.

Main definitions:

* `FrameMux.Json.failShape` — the fault of a value of another shape;
* `FrameMux.Json.readString`, `readBinary64`, `readWord32` — scalars;
* `FrameMux.Json.nextItem`, `FrameMux.Json.nextKey` — the steps through lists and objects;
* `FrameMux.Json.closed` — the end of a list or object after its content, however that went;
* `FrameMux.Json.readList`, `FrameMux.Json.readFields`, `FrameMux.Json.readRecord` — the whole of
  them;
* `FrameMux.Json.readDocument` — one value and nothing behind it.
-/

import FrameMux.Json.Skip

set_option relaxedAutoImplicit false
set_option autoImplicit false

namespace FrameMux.Json

/-! ### Values of another shape -/

/-- The scalar that starts at the next byte, as a value of the wrong kind; lists and objects are not
passed over. -/
def readUnexpected : Reader Unexpected := do
  match ← peek with
  | none => failAhead .expectedValue
  | some b =>
      if b = code 'n' then eat *> readWord ['u', 'l', 'l'] *> pure .null
      else if b = code 't' then eat *> readWord ['r', 'u', 'e'] *> pure (.boolean true)
      else if b = code 'f' then eat *> readWord ['a', 'l', 's', 'e'] *> pure (.boolean false)
      else if b = code '-' then eat *> do return (← readNumber false).unexpected
      else if isDigitByte b then return (← readNumber true).unexpected
      else if b = code '"' then eat *> do return .text (← readText)
      else if b = code '[' then return .sequence
      else if b = openBrace then return .map
      else failAhead .expectedValue

/-- Fails because the next value is not what was expected. -/
def failShape {α : Type} (expected : String) : Reader α :=
  placed do failSomewhere (.wrongKind (← readUnexpected) expected)

/-- The first byte of a value. -/
def startValue : Reader UInt8 := do
  match ← skipBlanks with
  | none => failAhead .endInValue
  | some b => return b

/-! ### Scalars -/

/-- Reads a string. -/
def readString (expected : String) : Reader String := do
  let b ← startValue
  if b = code '"' then eat *> readText else failShape expected

/-- Reads a number and makes something of it. -/
def readNumeric {α : Type} (expected : String) (f : Number → Except Problem α) : Reader α := do
  let b ← startValue
  let number ←
    if b = code '-' then eat *> readNumber false
    else if isDigitByte b then readNumber true
    else failShape expected
  match f number with
  | .ok value => return value
  | .error problem => failHere problem

/-- Reads a binary64 number. -/
def readBinary64 : Reader Binary64 := readNumeric "f64" fun number => .ok number.toBinary64

/-- A 32-bit number, or what is wrong with it. -/
def toWord32 : Number → Except Problem UInt32
  | .natural n =>
      if n < UInt32.size then .ok (UInt32.ofNat n) else .error (.wrongValue (.integer n) "u32")
  | .negative n => .error (.wrongValue (.integer n) "u32")
  | .floating x => .error (.wrongKind (.floating x) "u32")

/-- Reads a 32-bit number. -/
def readWord32 : Reader UInt32 := readNumeric "u32" toWord32

/-- Reads `null`, or a value. -/
def readOptional {α : Type} (r : Reader α) : Reader (Option α) := do
  match ← skipBlanks with
  | some b =>
      if b = code 'n' then eat *> readWord ['u', 'l', 'l'] *> pure none
      else some <$> r
  | none => some <$> r

/-- Reads `null`. -/
def readNull (expected : String) : Reader Unit := do
  let b ← startValue
  if b = code 'n' then eat *> readWord ['u', 'l', 'l'] else failShape expected

/-! ### Steps through lists and objects -/

/-- Whether a list has another item, which is then next. -/
def nextItem (first : Bool) : Reader Bool := do
  match ← skipBlanks with
  | none => failAhead .endInList
  | some b =>
      if b = code ']' then return false
      else if first then return true
      else if b = code ',' then
        eat
        match ← skipBlanks with
        | none => failAhead .endInValue
        | some b => if b = code ']' then failAhead .trailingComma else return true
      else failAhead .expectedListEnd

/-- Reads the key at the next byte. -/
def readKey (b : UInt8) : Reader (Option String) := do
  if b = code '"' then eat *> do return some (← readText) else failAhead .keyNotText

/-- The next key of an object, if there is one. -/
def nextKey (first : Bool) : Reader (Option String) := do
  match ← skipBlanks with
  | none => failAhead .endInObject
  | some b =>
      if b = closeBrace then return none
      else if first then readKey b
      else if b = code ',' then
        eat
        match ← skipBlanks with
        | none => failAhead .endInValue
        | some b => if b = closeBrace then failAhead .trailingComma else readKey b
      else failAhead .expectedObjectEnd

/-- Passes the end of a list or object. -/
def closeBracket : Bracket → Reader Unit
  | .list => do
      match ← skipBlanks with
      | none => failAhead .endInList
      | some b =>
          if b = code ']' then eat
          else if b = code ',' then
            eat
            match ← skipBlanks with
            | some b =>
                if b = code ']' then failAhead .trailingComma else failAhead .trailingCharacters
            | none => failAhead .trailingCharacters
          else failAhead .trailingCharacters
  | .object => do
      match ← skipBlanks with
      | none => failAhead .endInObject
      | some b =>
          if b = closeBrace then eat
          else if b = code ',' then failAhead .trailingComma
          else failAhead .trailingCharacters

/-- Reads the content of a list or object and passes its end.  The end is looked for even if the
content is at fault; then its own fault is dropped, and the first one is placed where that search
stopped. -/
def closed {α : Type} (bracket : Bracket) (content : Reader α) : Reader α := placed do
  eat
  match ← observing content with
  | .ok value =>
      closeBracket bracket
      return value
  | .error fault =>
      -- The search for the end only moves the place where the fault is reported.
      discard (observing (closeBracket bracket))
      throw fault
where
  /-- Runs a reader and keeps its fault as a value. -/
  observing {β : Type} (r : Reader β) : Reader (Except Fault β) := do
    try return .ok (← r) catch fault => return .error fault

/-! ### Whole lists and objects -/

/-- Reads the items of a list, at most `fuel` of them. -/
def readItems {α : Type} (item : Reader α) : Nat → Bool → Reader (List α)
  | 0, _ => return []
  | fuel + 1, first => do
      if ← nextItem first then
        let value ← item
        return value :: (← readItems item fuel false)
      else return []

/-- Reads a list of items of one kind. -/
def readList {α : Type} (item : Reader α) : Reader (List α) := do
  let b ← startValue
  if b = code '[' then
    closed .list do readItems item ((← get).rest.length + 1) true
  else failShape "a sequence"

/-- How a record is filled in: `fields` are its names in order, each with the reader that sets it.
-/
structure RecordShape (ρ : Type) where
  fields : List (String × (ρ → Reader ρ))

/-- Reads the fields of a record from an object onto `record`; `seen` are the names so far, and
fields without a reader are passed over. -/
def readFields {ρ : Type} (shape : RecordShape ρ) :
    Nat → Bool → List String → ρ → Reader (ρ × List String)
  | 0, _, seen, record => return (record, seen)
  | fuel + 1, first, seen, record => do
      match ← nextKey first with
      | none => return (record, seen)
      | some key =>
          match shape.fields.find? fun field => field.1 = key with
          | none =>
              readColon
              skipValue
              readFields shape fuel false seen record
          | some (name, set) =>
              -- A repeated field is noticed before its value is read.
              if seen.contains name then failSomewhere (.duplicateField name)
              else
                readColon
                let record ← set record
                readFields shape fuel false (name :: seen) record

/-- Reads the fields of a record from a list, as many as there are; also tells how many. -/
def readPositions {ρ : Type} : List (String × (ρ → Reader ρ)) → Nat → ρ → Reader (ρ × Nat)
  | [], count, record => return (record, count)
  | (_, set) :: rest, count, record => do
      if ← nextItem (count = 0) then readPositions rest (count + 1) (← set record)
      else return (record, count)

/-- Reads a record.  `complete` is asked for the names that an object gave, and `long` for the
number of fields that a list gave. -/
def readRecord {ρ α : Type} (shape : RecordShape ρ) (expected : String) (start : ρ)
    (complete : List String → ρ → Except Problem α) (long : Nat → ρ → Except Problem α) :
    Reader α := do
  let b ← startValue
  if b = code '[' then
    closed .list do
      let (record, count) ← readPositions shape.fields 0 start
      settle (long count record)
  else if b = openBrace then
    closed .object do
      let (record, seen) ← readFields shape ((← get).rest.length + 1) true [] start
      settle (complete seen record)
  else failShape expected
where
  /-- A result whose problem has no place yet. -/
  settle : Except Problem α → Reader α
    | .ok value => return value
    | .error problem => failSomewhere problem

/-- Reads one value and makes sure that nothing follows. -/
def readDocument {α : Type} (r : Reader α) : Reader α := do
  let value ← r
  match ← skipBlanks with
  | none => return value
  | some _ => failAhead .trailingCharacters

end FrameMux.Json
