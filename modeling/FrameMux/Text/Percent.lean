/-
**Percent encoding and form values.**

A host name outside the web schemes is kept as written, with control bytes and non-ASCII bytes
percent-encoded; a query string is read as a form, whose pairs stand between ampersands, with a plus
sign for a space and percent-encoded bytes.

Main definitions:

* `FrameMux.Text.Percent.encodeControls` — a text with control and non-ASCII bytes encoded;
* `FrameMux.Text.Percent.decode` — the bytes of a percent-encoded byte string;
* `FrameMux.Text.Percent.formPairs` — **the pairs of a form**, in order.
-/

import FrameMux.Text.Blank
import FrameMux.Text.Unsigned
import FrameMux.Text.Utf8

set_option relaxedAutoImplicit false
set_option autoImplicit false

namespace FrameMux.Text.Percent

/-- The upper-case hexadecimal digit of a value below 16. -/
def upperHex (n : Nat) : Char := (Nat.digitChar n).toUpper

/-- The percent encoding of a byte. -/
def encodeByte (b : UInt8) : List Char := ['%', upperHex (b.toNat / 16), upperHex (b.toNat % 16)]

/-- The text with every control byte and every byte of a non-ASCII character encoded. -/
def encodeControls (cs : List Char) : List Char :=
  cs.flatMap fun c =>
    if 0x20 ≤ c.toNat ∧ c.toNat < 0x7f then [c] else (Utf8.encode [c]).flatMap encodeByte

/-- The bytes with every percent sign and two hexadecimal digits replaced by the byte they name. -/
def decode : List UInt8 → List UInt8
  | b :: high :: low :: rest =>
      if b = 0x25 then
        match hexValue? (Char.ofNat high.toNat), hexValue? (Char.ofNat low.toNat) with
        | some h, some l => UInt8.ofNat (h * 16 + l) :: decode rest
        | _, _ => b :: decode (high :: low :: rest)
      else b :: decode (high :: low :: rest)
  | bytes => bytes

/-- One name or value of a form: plus signs are spaces, then percent decoding, then UTF-8. -/
def formText (cs : List Char) : List Char :=
  Utf8.decodeLossy (decode (Utf8.encode (cs.map fun c => if c = '+' then ' ' else c)))

/-- The pairs of a form in order; empty pieces are skipped and a missing value is empty. -/
def formPairs (query : List Char) : List (List Char × List Char) :=
  ((splitAll (· == '&') query).filter (!·.isEmpty)).map fun piece =>
    match splitFirst? (· == '=') piece with
    | some (name, value) => (formText name, formText value)
    | none => (formText piece, [])

example : formPairs "&fps=%2B5&=1&x+y".toList =
    [("fps".toList, "+5".toList), ([], ['1']), ("x y".toList, [])] := by decide +kernel
example : encodeControls [Char.ofNat 0xff18, 'x'] = "%EF%BC%98x".toList := by decide +kernel

end FrameMux.Text.Percent
