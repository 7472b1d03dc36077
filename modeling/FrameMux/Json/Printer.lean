/-
**Writing JSON.**

Configurations are written without blanks, with their fields in order; strings escape quotes,
backslashes and control characters and nothing else.

Main definitions:

* `FrameMux.Json.stringText` — a string;
* `FrameMux.Json.listText`, `FrameMux.Json.objectText` — lists and objects of written parts.
-/

import FrameMux.Json.Text

set_option relaxedAutoImplicit false
set_option autoImplicit false

namespace FrameMux.Json

/-- The written form of a character inside a string. -/
def writeChar (c : Char) : List Char :=
  if c = '/' then ['/']
  else
    match shortEscapes.find? fun p => p.2 = c with
    | some (letter, _) => ['\\', letter]
    | none =>
        if c.toNat < 0x20 then
          ['\\', 'u', '0', '0', Nat.digitChar (c.toNat / 16), Nat.digitChar (c.toNat % 16)]
        else [c]

/-- A string. -/
def stringText (text : String) : String :=
  String.ofList ('"' :: (text.toList.flatMap writeChar ++ ['"']))

/-- A list of written items. -/
def listText (items : List String) : String := "[" ++ ",".intercalate items ++ "]"

/-- An object of names with written values. -/
def objectText (fields : List (String × String)) : String :=
  "\x7b" ++ ",".intercalate (fields.map fun f => stringText f.1 ++ ":" ++ f.2) ++ "\x7d"

example : stringText "a\"/\n" = "\"a\\\"/\\n\"" := by decide +kernel

end FrameMux.Json
