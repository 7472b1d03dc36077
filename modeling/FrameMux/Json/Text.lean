/-
**Strings in JSON texts.**

Main definitions:

* `FrameMux.Json.readText` — the text of a string whose opening quote was passed;
* `FrameMux.Json.skipText` — passing over such a string without decoding its escapes;
* `FrameMux.Json.readEscape`, `FrameMux.Json.readFourHex` — escapes and their digits.
-/

import FrameMux.Json.Reader
import FrameMux.Text.Unsigned
import FrameMux.Text.Utf8

set_option relaxedAutoImplicit false
set_option autoImplicit false

namespace FrameMux.Json

open FrameMux.Text

/-- The value of four hexadecimal digits. -/
def fourHex? (a b c d : UInt8) : Option Nat :=
  [a, b, c, d].foldlM (fun acc x =>
    (hexValue? (Char.ofNat x.toNat)).map fun value => acc * 16 + value) 0

/-- Moves a cursor to the end of its text. -/
def Cursor.toEnd (c : Cursor) : Cursor := Cursor.past (fun _ => true) c.position c.rest

/-- Reads the four digits of an escape; all four bytes are passed, whatever they are. -/
def readFourHex : Reader Nat := do
  match (← get).rest with
  | a :: b :: c :: d :: _ =>
      modify fun cursor => cursor.advance.advance.advance.advance
      match fourHex? a b c d with
      | some value => return value
      | none => failHere .invalidEscape
  | _ =>
      modify Cursor.toEnd
      failHere .endInText

/-- Whether a code unit is the first half of a pair. -/
def isLeading (n : Nat) : Bool := 0xd800 ≤ n && n ≤ 0xdbff

/-- Whether a code unit is the second half of a pair. -/
def isTrailing (n : Nat) : Bool := 0xdc00 ≤ n && n ≤ 0xdfff

/-- Passes a byte inside an escape that has to be the given one. -/
def expectInEscape (c : Char) : Reader Unit := do
  match ← peek with
  | none => failHere .endInText
  | some b =>
      eat
      if b ≠ code c then failHere .brokenEscape

/-- Reads the code point of an escape after its `u`. -/
def readCodePoint : Reader Char := do
  let first ← readFourHex
  if isTrailing first then failHere .loneSurrogate
  else if isLeading first then
    expectInEscape '\\'
    expectInEscape 'u'
    let second ← readFourHex
    if isTrailing second then
      return Char.ofNat ((first - 0xd800) * 0x400 + (second - 0xdc00) + 0x10000)
    else failHere .loneSurrogate
  else return Char.ofNat first

/-- The characters with an escape of one letter. -/
def shortEscapes : List (Char × Char) :=
  [('"', '"'), ('\\', '\\'), ('/', '/'), ('b', Char.ofNat 8), ('f', Char.ofNat 12),
    ('n', '\n'), ('r', '\r'), ('t', '\t')]

/-- The character of a one-letter escape. -/
def shortEscape? (b : UInt8) : Option Char :=
  (shortEscapes.find? fun p => code p.1 = b).map Prod.snd

/-- Reads an escape whose backslash was passed. -/
def readEscape : Reader Char := do
  match ← next with
  | none => failHere .endInText
  | some b =>
      if b = code 'u' then readCodePoint
      else
        match shortEscape? b with
        | some c => return c
        | none => failHere .invalidEscape

/-- Reads a string up to its closing quote onto the bytes so far; each step passes at least one
byte, so `fuel` counts the bytes. -/
def readTextFrom : Nat → List UInt8 → Reader (List UInt8)
  | 0, _ => failHere .endInText
  | fuel + 1, acc => do
      match ← next with
      | none => failHere .endInText
      | some b =>
          if b = code '"' then return acc.reverse
          else if b = code '\\' then
            let c ← readEscape
            readTextFrom fuel ((Utf8.encode [c]).reverse ++ acc)
          -- Bytes beyond ASCII are copied here and decoded with the whole text.
          else if b < 0x20 then failHere .controlCharacter
          else readTextFrom fuel (b :: acc)

/-- Reads a string whose opening quote was passed. -/
def readText : Reader String := do
  let bytes ← readTextFrom ((← get).rest.length + 1) []
  return String.ofList (Utf8.decodeLossy bytes)

/-- Passes over an escape whose backslash was passed. -/
def skipEscape : Reader Unit := do
  match ← next with
  | none => failHere .endInText
  | some b =>
      if b = code 'u' then discard readFourHex
      else if (shortEscape? b).isNone then failHere .invalidEscape

/-- Passes over a string up to its closing quote; a control character is not passed. -/
def skipTextFrom : Nat → Reader Unit
  | 0 => failHere .endInText
  | fuel + 1 => do
      match ← peek with
      | none => failHere .endInText
      | some b =>
          if b = code '"' then eat
          else if b = code '\\' then
            eat
            skipEscape
            skipTextFrom fuel
          else if b < 0x20 then failHere .controlCharacter
          else
            eat
            skipTextFrom fuel

/-- Passes over a string whose opening quote was passed. -/
def skipText : Reader Unit := do skipTextFrom ((← get).rest.length + 1)

end FrameMux.Json
