/-
**URLs.**

A source is named by a URL.  Of a URL only its scheme, its host and its query matter here, but
anything that keeps it from being one has to be noticed: white space and control characters at its
ends are dropped, tabs and line breaks anywhere are, the scheme is in lower case, and web schemes
read their hosts differently from all others.

Main definitions:

* `FrameMux.Url` — scheme, host and query;
* `FrameMux.Url.SchemeKind` — web, file and other schemes;
* `FrameMux.Url.readAuthority` — the host behind an optional user and before an optional port;
* `FrameMux.Url.parse` — **the reader**;
* `FrameMux.Url.formPairs` — the pairs of the query.

Main results:

* `FrameMux.Url.parse_error_of_no_scheme` — without a scheme there is no URL.
-/

import FrameMux.Url.Host

set_option relaxedAutoImplicit false
set_option autoImplicit false

namespace FrameMux

/-- The parts of a URL that matter for a source. -/
structure Url where
  scheme : List Char
  host : Option Url.Host
  query : Option (List Char)
deriving DecidableEq, Repr

namespace Url

open FrameMux.Text

/-! ### Schemes -/

/-- The three ways in which schemes have hosts. -/
inductive SchemeKind where
  | web
  | file
  | other
deriving DecidableEq, Repr

/-- The kind of a scheme in lower case. -/
def schemeKind (scheme : List Char) : SchemeKind :=
  if scheme = "file".toList then .file
  else if ["http", "https", "ws", "wss", "ftp"].any fun s => s.toList = scheme then .web
  else .other

/-- Whether a backslash counts as a slash. -/
def SchemeKind.isSpecial : SchemeKind → Bool
  | .other => false
  | _ => true

/-- The characters that a URL is read from: nothing up to a space at either end, no tabs and no line
breaks. -/
def cleaned (cs : List Char) : List Char :=
  let low := fun c : Char => decide (c.toNat ≤ 0x20)
  let inner := ((cs.dropWhile low).reverse.dropWhile low).reverse
  inner.filter fun c => c ≠ '\t' ∧ c ≠ '\n' ∧ c ≠ '\r'

/-- Whether a character can stand in a scheme after its first letter. -/
def isSchemeChar (c : Char) : Bool :=
  c.isAlpha || isDigit c || c = '+' || c = '-' || c = '.'

/-- The scheme in lower case and what follows its colon. -/
def splitScheme? (cs : List Char) : Option (List Char × List Char) :=
  match cs with
  | [] => none
  | c :: _ =>
      if c.isAlpha then
        match cs.dropWhile isSchemeChar with
        | ':' :: rest => some ((cs.takeWhile isSchemeChar).map Char.toLower, rest)
        | _ => none
      else none

/-! ### Hosts -/

/-- Whether a character ends the authority. -/
def endsAuthority (special : Bool) (c : Char) : Bool :=
  c = '/' || c = '?' || c = '#' || (special && c = '\\')

/-- The part of the authority before its last at-sign, if there is one, and the part behind. -/
def splitUser (authority : List Char) : Option (List Char) × List Char :=
  match splitFirst? (· == '@') authority.reverse with
  | some (host, user) => (some user.reverse, host.reverse)
  | none => (none, authority)

/-- The text up to the first colon outside square brackets, and the rest. -/
def splitPort : Bool → List Char → List Char × List Char
  | _, [] => ([], [])
  | inside, c :: rest =>
      if c = ':' ∧ !inside then ([], c :: rest)
      else
        let inside := if c = '[' then true else if c = ']' then false else inside
        let (host, port) := splitPort inside rest
        (c :: host, port)

/-- A port is a number of up to 16 bits, or nothing. -/
def checkPort (cs : List Char) : Except UrlError Unit :=
  if cs.all isDigit && decide (digitsValue cs < UInt16.size) then .ok () else .error .invalidPort

/-- Whether the part before the at-sign names a user or a password. -/
def namesUser (user : List Char) : Bool := !(user.isEmpty || user == [':'])

/-- The host of an authority; `delimited` tells whether something follows the authority. -/
def readAuthority (special delimited : Bool) (authority : List Char) :
    Except UrlError (Option Host) := do
  let (user, rest) := splitUser authority
  if user = some [] && rest.isEmpty && delimited then throw .emptyHost
  let (hostText, portText) := splitPort false rest
  if special && hostText.isEmpty then throw .emptyHost
  let host ← if special then readWebHost hostText else readOpaqueHost hostText
  if hostText.isEmpty && !portText.isEmpty then throw .emptyHost
  -- A port ends at a backslash too, even where that is no slash.
  checkPort ((portText.drop 1).takeWhile (· ≠ '\\'))
  if hostText.isEmpty then
    if (user.map namesUser).getD false then throw .emptyHost else return none
  else return some host

/-- Whether a text is a drive letter, which a file URL has in place of a host. -/
def isDriveLetter (cs : List Char) : Bool :=
  match cs with
  | [letter, mark] => letter.isAlpha && (mark = ':' || mark = '|')
  | _ => false

/-- The host of a file URL; the local machine is none. -/
def readFileHost (cs : List Char) : Except UrlError (Option Host) :=
  if cs.isEmpty || isDriveLetter cs then .ok none
  else
    match readWebHost cs with
    | .error e => .error e
    | .ok host => .ok (if host = .name "localhost".toList then none else some host)

/-- The host in what follows the scheme, according to its kind. -/
def readHost (kind : SchemeKind) (rest : List Char) : Except UrlError (Option Host) :=
  let isSlash := fun c : Char => c = '/' || c = '\\'
  let upToEnd := fun cs : List Char =>
    (cs.takeWhile (!endsAuthority kind.isSpecial ·), !(cs.all (!endsAuthority kind.isSpecial ·)))
  match kind with
  | .web =>
      let (authority, delimited) := upToEnd (rest.dropWhile isSlash)
      readAuthority true delimited authority
  | .other =>
      match rest with
      | '/' :: '/' :: rest =>
          let (authority, delimited) := upToEnd rest
          readAuthority false delimited authority
      | _ => .ok none
  | .file =>
      match rest with
      | first :: second :: rest =>
          if isSlash first && isSlash second then readFileHost (upToEnd rest).1 else .ok none
      | _ => .ok none

/-- The query: what stands between the first question mark and the fragment. -/
def readQuery (rest : List Char) : Option (List Char) :=
  match (rest.takeWhile (· ≠ '#')).dropWhile (· ≠ '?') with
  | _ :: query => some query
  | [] => none

/-- The URL in a text. -/
def parse (text : String) : Except UrlError Url :=
  match splitScheme? (cleaned text.toList) with
  | none => .error .relative
  | some (scheme, rest) =>
      match readHost (schemeKind scheme) rest with
      | .error e => .error e
      | .ok host => .ok ⟨scheme, host, readQuery rest⟩

/-- The pairs of the query, in order. -/
def formPairs (url : Url) : List (List Char × List Char) :=
  Percent.formPairs (url.query.getD [])

/-- Without a scheme there is no URL. -/
theorem parse_error_of_no_scheme {text : String} (h : splitScheme? (cleaned text.toList) = none) :
    parse text = .error .relative := by
  simp [parse, h]

end Url

end FrameMux
