/-
**Configuration files.**

A configuration file is a JSON object in which every field may be missing, or a list of the fields
in order that may stop early.  Durations are numbers of seconds.

Main definitions:

* `FrameMux.Config.readJson`, `FrameMux.Config.ofJson` — **reading** a configuration;
* `FrameMux.Config.toJson` — writing one;
* `FrameMux.readWorkerId`, `FrameMux.readProcessId`, `FrameMux.ProcessId.toJson` — identifiers.
-/

import FrameMux.Config.Basic
import FrameMux.Json.Printer
import FrameMux.Json.Shape

set_option relaxedAutoImplicit false
set_option autoImplicit false

namespace FrameMux

open FrameMux.Json

/-! ### Sources -/

/-- A source being read: its fields so far. -/
structure SourceDraft where
  id : Option UInt32
  url : Option String
deriving Repr

namespace SourceDraft

/-- The fields of a source. -/
def shape : RecordShape SourceDraft where
  fields :=
    [("id", fun d => do return { d with id := some (← readWord32) }),
      ("url", fun d => do return { d with url := some (← readString "a string") })]

/-- The source, once both fields are there. -/
def complete (d : SourceDraft) : Except Problem Source :=
  match d.id, d.url with
  | none, _ => .error (.missingField "id")
  | _, none => .error (.missingField "url")
  | some id, some url => .ok ⟨id, url⟩

/-- The source of a list with `count` fields. -/
def ofPositions (count : Nat) (d : SourceDraft) : Except Problem Source :=
  match d.id, d.url with
  | some id, some url => .ok ⟨id, url⟩
  | _, _ => .error (.wrongLength count "struct SourceConfig with 2 elements")

end SourceDraft

/-- Reads a source. -/
def Source.readJson : Reader Source :=
  readRecord SourceDraft.shape "struct SourceConfig" ⟨none, none⟩ (fun _ => SourceDraft.complete)
    SourceDraft.ofPositions

/-- Writes a source. -/
def Source.toJson (s : Source) : String :=
  objectText [("id", toString s.id.toNat), ("url", stringText s.url)]

/-! ### Configurations -/

/-- Reads a number of seconds. -/
def Duration.readJson : Reader Duration := do
  match Duration.ofSeconds (← readBinary64) with
  | .ok d => return d
  | .error cause => failSomewhere (.rejected cause.message)

/-- Writes a number of seconds. -/
def Duration.toJson (d : Duration) : String := d.toSeconds.render .mixed

namespace Config

/-- The fields of a configuration. -/
def shape : RecordShape Config where
  fields :=
    [("worker_path", fun c => do
        return { c with workerPath := ← readOptional (readString "path string") }),
      ("sources", fun c => do return { c with sources := ← readList Source.readJson })]
    ++ Setting.all.map fun s => (s.name, fun c => do return c.set s (← Duration.readJson))

/-- Reads a configuration. -/
def readJson : Reader Config :=
  readRecord shape "struct MuxConfig" defaults (fun _ => .ok) (fun _ => .ok)

/-- The configuration in the text of a file. -/
def ofJson (bytes : List UInt8) : Except Fault Config := (readDocument readJson).runOn bytes

/-- Writes a configuration. -/
def toJson (c : Config) : String :=
  objectText
    ([("worker_path", (c.workerPath.map stringText).getD "null"),
      ("sources", listText (c.sources.map Source.toJson))]
    ++ Setting.all.map fun s => (s.name, (c.settings s).toJson))

end Config

/-! ### Identifiers -/

/-- Reads a worker number. -/
def readWorkerId : Reader WorkerId := do return ⟨← readWord32⟩

/-- The name of a kind of process in a text. -/
def readProcessKind : Reader Bool := placed do
  let name ← readString "variant identifier"
  if name = "Muxer" then return true
  else if name = "Worker" then return false
  else failSomewhere (.unknownVariant name "`Muxer` or `Worker`")

/-- Goes to the key of the object, which has to be a text. -/
def readProcessKey : Reader Unit := do
  match ← skipBlanks with
  | none => failAhead .endInObject
  | some b =>
      if b = closeBrace then failAhead .expectedValue
      else if b = code '"' then pure ()
      else failAhead .keyNotText

/-- Reads a process identifier: the name of the multiplexer, or an object with the one field that
names the kind of process. -/
def readProcessId : Reader ProcessId := do
  match ← skipBlanks with
  | none => failAhead .endInValue
  | some b =>
      if b = openBrace then
        eat
        readProcessKey
        let muxer ← readProcessKind
        readColon
        let id ← if muxer then readNull "unit" *> pure ProcessId.muxer
          else ProcessId.worker <$> readWord32
        match ← skipBlanks with
        | none => failHere .endInObject
        | some b => if b = closeBrace then eat *> pure id else failHere .expectedValue
      else if b = code '"' then
        if ← readProcessKind then return .muxer
        else failSomewhere (.wrongKind .unitVariant "newtype variant")
      else failAhead .expectedValue

/-- Writes a worker identifier. -/
def WorkerId.toJson (id : WorkerId) : String := toString id.number.toNat

/-- Writes a process identifier. -/
def ProcessId.toJson : ProcessId → String
  | muxer => stringText "Muxer"
  | worker number => objectText [("Worker", toString number.toNat)]

end FrameMux
