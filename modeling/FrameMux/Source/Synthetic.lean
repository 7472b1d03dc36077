/-
**Synthetic sources.**

A source of the scheme `test` asks for a moving test picture of a given size; its query sets the
frame rate and provokes faults.  Every other scheme names a source that an outside program has to
decode.

Main definitions:

* `FrameMux.SyntheticSource` — size, rate and faults of a test picture;
* `FrameMux.SourceError` — why a text names no synthetic source;
* `FrameMux.readSize?` — a width and a height joined by an `x`;
* `FrameMux.SyntheticSource.applyPair` — what one pair of the query sets;
* `FrameMux.SyntheticSource.ofParts` — the source that the parts of a URL describe;
* `FrameMux.SyntheticSource.parse` — **the reader**.

Main results:

* `FrameMux.readSize?_eq_some_iff` — **the grammar of sizes**.
-/

import FrameMux.Time
import FrameMux.Url.Basic

set_option relaxedAutoImplicit false
set_option autoImplicit false

namespace FrameMux

open FrameMux.Text

/-- What a value in a query should have been. -/
inductive Expectation where
  | number
  | positive
  | boolean
deriving DecidableEq, Repr

/-- The wording of an expectation that was not met. -/
def Expectation.message : Expectation → String
  | number => "not a number"
  | positive => "must be positive"
  | boolean => "expected true or false"

/-- Why a text names no synthetic source. -/
inductive SourceError where
  | notUrl (source : String) (cause : Url.UrlError)
  | missingSize (source : String)
  | badSize (source : String) (host : String)
  | badValue (source : String) (key value : String) (expected : Expectation)
  | unsupportedScheme (scheme : String)
deriving DecidableEq, Repr

/-- The wording of a source error. -/
def SourceError.message : SourceError → String
  | notUrl source cause => "Invalid source '" ++ source ++ "': " ++ cause.message
  | missingSize source => "Invalid source '" ++ source ++ "': missing WIDTHxHEIGHT"
  | badSize source host =>
      "Invalid source '" ++ source ++ "': '" ++ host ++ "' is not WIDTHxHEIGHT"
  | badValue source key value expected =>
      "Invalid source '" ++ source ++ "': " ++ key ++ "=" ++ value ++ ": " ++ expected.message
  | unsupportedScheme scheme =>
      "Unsupported source scheme '" ++ scheme
        ++ "'; decoding is provided by an external pipeline"

/-- A test picture: its size, its rate, after how many frames it ends, stalls or crashes, and
whether it publishes at all. -/
structure SyntheticSource where
  width : UInt32
  height : UInt32
  fps : UInt32
  frames : Option UInt64
  stallAfter : Option UInt64
  crashAfter : Option UInt64
  publish : Bool
deriving DecidableEq, Repr, Inhabited

namespace SyntheticSource

/-- The scheme of synthetic sources. -/
def scheme : String := "test"

/-- The rate of a source that names none. -/
def defaultFps : UInt32 := 25

/-- The greatest width and height. -/
def maxDimension : UInt32 := 8192

/-- A source of a size, with defaults for the rest. -/
def ofSize (width height : UInt32) : SyntheticSource :=
  { width, height, fps := defaultFps, frames := none, stallAfter := none, crashAfter := none
    publish := true }

end SyntheticSource

/-! ### Sizes -/

/-- Whether a width or a height can be served. -/
def isDimension (d : UInt32) : Bool := 1 ≤ d && d ≤ SyntheticSource.maxDimension

/-- Whether a character joins the width and the height. -/
def isTimes (c : Char) : Bool := c = 'x' || c = 'X'

/-- A width and a height joined by the first `x`. -/
def readSize? (cs : List Char) : Option (UInt32 × UInt32) :=
  match splitFirst? isTimes cs with
  | none => none
  | some (w, h) =>
      match readU32 w, readU32 h with
      | .ok width, .ok height =>
          if isDimension width && isDimension height then some (width, height) else none
      | _, _ => none

/-- A size is two dimensions around the first `x`, each of them a 32-bit numeral. -/
theorem readSize?_eq_some_iff {cs : List Char} {width height : UInt32} :
    readSize? cs = some (width, height) ↔
      ∃ w h, splitFirst? isTimes cs = some (w, h) ∧ readU32 w = .ok width ∧
        readU32 h = .ok height ∧ isDimension width = true ∧ isDimension height = true := by
  unfold readSize?
  constructor
  · intro e
    split at e
    · cases e
    · rename_i w h split
      split at e
      · rename_i width' height' hw hh
        split at e
        · rename_i valid
          simp only [Option.some.injEq, Prod.mk.injEq] at e
          obtain ⟨rfl, rfl⟩ := e
          simp only [Bool.and_eq_true] at valid
          exact ⟨w, h, split, hw, hh, valid.1, valid.2⟩
        · cases e
      · cases e
  · rintro ⟨w, h, split, hw, hh, valid, valid'⟩
    simp [split, hw, hh, valid, valid']

/-! ### Queries -/

/-- The boolean that a text spells. -/
def readBool? (text : String) : Option Bool :=
  if text = "true" then some true else if text = "false" then some false else none

/-- The 64-bit number that a text spells. -/
def readCount? (value : String) : Option UInt64 := (readU64 value.toList).toOption

namespace SyntheticSource

/-- What one pair of the query sets; pairs with other keys set nothing. -/
def applyPair (s : SyntheticSource) (key value : String) : Except Expectation SyntheticSource :=
  if key = "fps" then
    match readU32 value.toList with
    | .error _ => .error .number
    | .ok fps => if fps = 0 then .error .positive else .ok { s with fps }
  else if key = "frames" then
    match readCount? value with
    | none => .error .number
    | some n => .ok { s with frames := some n }
  else if key = "stall_after" then
    match readCount? value with
    | none => .error .number
    | some n => .ok { s with stallAfter := some n }
  else if key = "crash_after" then
    match readCount? value with
    | none => .error .number
    | some n => .ok { s with crashAfter := some n }
  else if key = "publish" then
    match readBool? value with
    | none => .error .boolean
    | some publish => .ok { s with publish }
  else .ok s

/-- Applies the pairs of a query in order, up to the first one with a bad value. -/
def applyPairs (source : String) :
    SyntheticSource → List (List Char × List Char) → Except SourceError SyntheticSource
  | s, [] => .ok s
  | s, (key, value) :: rest =>
      match s.applyPair (String.ofList key) (String.ofList value) with
      | .ok s => applyPairs source s rest
      | .error expected =>
          .error (.badValue source (String.ofList key) (String.ofList value) expected)

/-- The source that the parts of a URL describe: its scheme, its host if it has one, and the pairs of
its query in order. -/
def ofParts (source : String) (urlScheme : List Char) (host : Option String)
    (pairs : List (List Char × List Char)) : Except SourceError SyntheticSource :=
  if urlScheme ≠ scheme.toList then .error (.unsupportedScheme (String.ofList urlScheme))
  else
    match host with
    | none => .error (.missingSize source)
    | some host =>
        match readSize? host.toList with
        | none => .error (.badSize source host)
        | some (width, height) => applyPairs source (ofSize width height) pairs

/-- The source that a URL describes. -/
def ofUrl (source : String) (url : Url) : Except SourceError SyntheticSource :=
  ofParts source url.scheme (url.host.map Url.Host.text) url.formPairs

/-- The source that a text names. -/
def parse (source : String) : Except SourceError SyntheticSource :=
  match Url.parse source with
  | .error cause => .error (.notUrl source cause)
  | .ok url => ofUrl source url

/-- The bytes of one frame, three to a pixel.  A size that is parsed has no side above 8192, so the
product is far below `2 ^ 64`; of sizes that are never parsed this is the product all the same. -/
def frameLength (s : SyntheticSource) : Nat := s.width.toNat * s.height.toNat * 3

/-- The time between two frames, in whole nanoseconds. -/
def frameInterval (s : SyntheticSource) : Duration := ⟨Duration.nanosPerSecond / s.fps.toNat⟩

end SyntheticSource

end FrameMux
