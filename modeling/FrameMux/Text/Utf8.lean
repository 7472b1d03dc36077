/-
**UTF-8, read strictly and leniently.**

Configuration files have to be well-formed UTF-8, while the values in a query string are decoded
leniently: every ill-formed stretch becomes one replacement character.  Both readings come from one
machine that consumes a byte at a time.  A stretch is ill-formed from its first byte up to the
first byte that cannot continue it, and that byte starts afresh.

Main definitions:

* `FrameMux.Text.Utf8.scalars` — the characters of a byte string, ill-formed stretches as `none`;
* `FrameMux.Text.Utf8.decodeStrict?` — the text of a well-formed byte string;
* `FrameMux.Text.Utf8.decodeLossy` — the text with replacement characters;
* `FrameMux.Text.Utf8.encode` — the bytes of a text.
-/

set_option relaxedAutoImplicit false
set_option autoImplicit false

namespace FrameMux.Text.Utf8

/-- Where the machine stands between two bytes: between characters, or `missing` bytes short of one,
of which the next has to lie between `low` and `high`. -/
inductive Stage where
  | start
  | within (value : Nat) (missing : Nat) (low high : UInt8)
deriving DecidableEq, Repr

/-- What the first byte of a character leads to: a whole character, a stage, or nothing. -/
def lead (b : UInt8) : Option (Char ⊕ Stage) :=
  let n := b.toNat
  if n < 0x80 then some (.inl (Char.ofNat n))
  else if n < 0xc2 then none
  else if n < 0xe0 then some (.inr (.within (n % 0x20) 1 0x80 0xbf))
  else if n = 0xe0 then some (.inr (.within 0 2 0xa0 0xbf))
  else if n = 0xed then some (.inr (.within 0xd 2 0x80 0x9f))
  else if n < 0xf0 then some (.inr (.within (n % 0x10) 2 0x80 0xbf))
  else if n = 0xf0 then some (.inr (.within 0 3 0x90 0xbf))
  else if n < 0xf4 then some (.inr (.within (n % 8) 3 0x80 0xbf))
  else if n = 0xf4 then some (.inr (.within 4 3 0x80 0x8f))
  else none

/-- The characters of a byte string that starts at a stage; an ill-formed stretch is one `none`. -/
def scalarsFrom : Stage → List UInt8 → List (Option Char)
  | .start, [] => []
  | .within .., [] => [none]
  | .start, b :: rest =>
      match lead b with
      | none => none :: scalarsFrom .start rest
      | some (.inl c) => some c :: scalarsFrom .start rest
      | some (.inr stage) => scalarsFrom stage rest
  | .within value missing low high, b :: rest =>
      if low ≤ b ∧ b ≤ high then
        let value := value * 0x40 + b.toNat % 0x40
        if missing ≤ 1 then some (Char.ofNat value) :: scalarsFrom .start rest
        else scalarsFrom (.within value (missing - 1) 0x80 0xbf) rest
      else
        match lead b with
        | none => none :: none :: scalarsFrom .start rest
        | some (.inl c) => none :: some c :: scalarsFrom .start rest
        | some (.inr stage) => none :: scalarsFrom stage rest

/-- The characters of a byte string. -/
def scalars (bytes : List UInt8) : List (Option Char) := scalarsFrom .start bytes

/-- The text of a well-formed byte string. -/
def decodeStrict? (bytes : List UInt8) : Option (List Char) := (scalars bytes).mapM id

/-- The replacement character. -/
def replacement : Char := Char.ofNat 0xfffd

/-- The text of a byte string, each ill-formed stretch as one replacement character. -/
def decodeLossy (bytes : List UInt8) : List Char := (scalars bytes).map (·.getD replacement)

/-- The bytes of a text. -/
def encode (cs : List Char) : List UInt8 := cs.flatMap String.utf8EncodeChar

example : decodeLossy [0xe2, 0x82] = [replacement] := by decide
example : decodeLossy [0xe2, 0x41, 0xff] = [replacement, 'A', replacement] := by decide
example : decodeStrict? [0xc3, 0x28] = none := by decide
example : decodeStrict? [0xed, 0xa0, 0x80] = none := by decide
example : decodeStrict? [0xf0, 0x9f, 0x98, 0x80] = some [Char.ofNat 0x1f600] := by decide

end FrameMux.Text.Utf8
