/-
**Hosts.**

Web schemes have hosts in the sense of the domain name system, percent-decoded and mapped as
international names are; every other scheme has an opaque host, kept as written with control and
non-ASCII bytes percent-encoded.

Main definitions:

* `FrameMux.Url.Host` — a name or an address;
* `FrameMux.Url.UrlError` — why a text is no URL;
* `FrameMux.Url.readOpaqueHost`, `FrameMux.Url.readWebHost` — the two readings.
-/

import FrameMux.Text.Percent
import FrameMux.Url.Address
import FrameMux.Url.Name

set_option relaxedAutoImplicit false
set_option autoImplicit false

namespace FrameMux.Url

open FrameMux.Text

/-- Why a text is no URL. -/
inductive UrlError where
  | relative
  | emptyHost
  | invalidPort
  | invalidDomainCharacter
  | invalidGroups
  | invalidQuad
  | invalidInternational
deriving DecidableEq, Repr

/-- The wording of a URL error. -/
def UrlError.message : UrlError → String
  | relative => "relative URL without a base"
  | emptyHost => "empty host"
  | invalidPort => "invalid port number"
  | invalidDomainCharacter => "invalid domain character"
  | invalidGroups => "invalid IPv6 address"
  | invalidQuad => "invalid IPv4 address"
  | invalidInternational => "invalid international domain name"

/-- A host: a name, four bytes, or eight groups. -/
inductive Host where
  | name (text : List Char)
  | quad (value : Nat)
  | groups (values : List Nat)
deriving DecidableEq, Repr

namespace Host

/-- The text of a host. -/
def text : Host → String
  | name cs => String.ofList cs
  | quad value =>
      ".".intercalate ([3, 2, 1, 0].map fun i => toString (value / Nat.pow 256 i % 256))
  | groups values => "[" ++ groupsText values ++ "]"

end Host

/-- An address between square brackets. -/
def readBracketed (cs : List Char) : Except UrlError Host :=
  if cs.length < 2 ∨ cs.getLast? ≠ some ']' then .error .invalidGroups
  else
    match readGroups? ((cs.drop 1).dropLast) with
    | some groups => .ok (.groups groups)
    | none => .error .invalidGroups

/-! ### Opaque hosts -/

/-- The host of a scheme that is not a web scheme. -/
def readOpaqueHost (cs : List Char) : Except UrlError Host :=
  if cs.head? = some '[' then readBracketed cs
  else if cs.any isHostDelimiter then .error .invalidDomainCharacter
  else .ok (.name (Percent.encodeControls cs))

/-! ### Domain names -/

/-- The host of a web scheme. -/
def readWebHost (cs : List Char) : Except UrlError Host :=
  if cs.head? = some '[' then readBracketed cs
  else
    match (Utf8.decodeStrict? (Percent.decode (Utf8.encode cs))).bind Name.read? with
    | none => .error .invalidInternational
    | some [] => .error .emptyHost
    | some domain =>
        -- A name that ends like an address has to be one.
        if endsInNumber domain then
          match readQuad? domain with
          | some value => .ok (.quad value)
          | none => .error .invalidQuad
        else .ok (.name domain)

end FrameMux.Url
