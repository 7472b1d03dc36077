/-
**Quoted text in messages.**

Messages show foreign text between quotes, with everything escaped that a reader could not see: such
a character is named by its code point, and a few control characters have short forms.

Main definitions:

* `FrameMux.Text.isVisible` — whether a character is shown as itself;
* `FrameMux.Text.escapeChar` — the shown form of a character;
* `FrameMux.Text.quote` — **a text between quotes**.
-/

import FrameMux.Text.Hidden

set_option relaxedAutoImplicit false
set_option autoImplicit false

namespace FrameMux.Text

/-- Whether a character is shown as itself. -/
def isVisible (c : Char) : Bool :=
  if c.toNat < 0x7f then 0x20 ≤ c.toNat else !hidden.holds c.toNat

/-- The shown form of a character. -/
def escapeChar (c : Char) : List Char :=
  if c = '"' then ['\\', '"']
  else if c = '\\' then ['\\', '\\']
  else if c = '\n' then ['\\', 'n']
  else if c = '\r' then ['\\', 'r']
  else if c = '\t' then ['\\', 't']
  else if c.toNat = 0 then ['\\', '0']
  else if isVisible c then [c]
  else ['\\', 'u', Char.ofNat 0x7b] ++ Nat.toDigits 16 c.toNat ++ [Char.ofNat 0x7d]

/-- A text between quotes. -/
def quote (text : String) : String :=
  String.ofList ('"' :: (text.toList.flatMap escapeChar ++ ['"']))

example : quote "a\tb\\" = "\"a\\tb\\\\\"" := by decide +kernel

end FrameMux.Text
