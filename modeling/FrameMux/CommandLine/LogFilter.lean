/-
**Which lines of the log are written.**

Every line of the log has a topic and a level.  A filter is a comma-separated list of rules such as
`shared=warn`: lines whose topic starts with the rule's are written up to the rule's level.  A rule
may also be a level alone, for all topics, or a topic alone, for all levels.  Of the rules that
cover a topic the one with the longest topic decides, and of two rules for one topic the later one.
Texts that are no rule are passed over, and without any rule only errors are written.

Main definitions:

* `FrameMux.LogLevel` — how much is written, with `FrameMux.LogLevel.ofName?`;
* `FrameMux.LogRule` — one rule, with `FrameMux.LogRule.parse`;
* `FrameMux.LogFilter` — a list of rules, with `FrameMux.LogFilter.parse` and, for what is passed
  over, `FrameMux.LogFilter.complaints`;
* `FrameMux.LogFilter.writes` — **whether a line is written**;
* `FrameMux.LogFilter.textForMuxer` — the filter that a level given as an argument leads to.

Main results:

* `FrameMux.LogFilter.decisive?_append_of_covers` — a later rule wins unless an earlier one has a
  longer topic.
-/

import FrameMux.Text.Blank
import FrameMux.Text.Unsigned

set_option relaxedAutoImplicit false
set_option autoImplicit false

namespace FrameMux

open FrameMux.Text

/-! ### Levels -/

/-- How much of the log is written: each level includes the ones before it. -/
inductive LogLevel where
  | off
  | error
  | warn
  | info
  | debug
  | trace
deriving DecidableEq, Repr

namespace LogLevel

/-- The levels from the least to the most. -/
def all : List LogLevel := [off, error, warn, info, debug, trace]

/-- The place of a level among the levels. -/
def rank : LogLevel → Nat
  | off => 0
  | error => 1
  | warn => 2
  | info => 3
  | debug => 4
  | trace => 5

/-- The name of a level. -/
def name : LogLevel → String
  | off => "off"
  | error => "error"
  | warn => "warn"
  | info => "info"
  | debug => "debug"
  | trace => "trace"

/-- Whether a filter at this level writes a line of another level. -/
def includes (limit line : LogLevel) : Bool := line.rank ≤ limit.rank

/-- The level with a name, in either case, or with a number. -/
def ofName? (cs : List Char) : Option LogLevel :=
  match readU64 cs with
  | .ok number => all[number.toNat]?
  | .error _ => all.find? fun level => level.name.toList = cs.map Char.toLower

end LogLevel

/-! ### Rules -/

/-- Lines whose topic starts with `topic` are written up to `level`; a narrowed rule is only about
parts of a run that this log does not mark, so it is never about a line. -/
structure LogRule where
  topic : List Char
  level : LogLevel
  narrowed : Bool
deriving DecidableEq, Repr

/-- Why a text is no rule. -/
inductive LogRuleFault where
  | malformed
  | unknownLevel
deriving DecidableEq, Repr

/-- The wording of a fault. -/
def LogRuleFault.message : LogRuleFault → String
  | malformed => "invalid filter directive"
  | unknownLevel =>
      "error parsing level filter: expected one of "
        ++ ", ".intercalate (LogLevel.all.map fun level => "\"" ++ level.name ++ "\"")
        ++ ", or a number 0-5"

namespace LogRule

/-- Whether a rule may start with a character, brackets apart. -/
def isStart (c : Char) : Bool := c.isAlphanum || 0x80 ≤ c.toNat || ['-', ':', '_'].contains c

/-- Whether a character opens the field that a rule is narrowed to. -/
def opensField (c : Char) : Bool := c.toNat = 0x7b

/-- Whether a character closes the field that a rule is narrowed to. -/
def closesField (c : Char) : Bool := c.toNat = 0x7d

/-- What follows a narrowing, which is a name, a field or both, after its opening bracket. -/
def afterNarrowing? (cs : List Char) : Option (List Char) :=
  match cs.dropWhile fun c => c ≠ ']' && !opensField c with
  | [] => none
  | ']' :: rest => some rest
  | _ :: field =>
      match splitFirst? closesField field with
      | some (_ :: _, ']' :: rest) => some rest
      | _ => none

/-- The level at the end of a rule; without a text it is the greatest. -/
def endLevel (cs : List Char) : Except LogRuleFault LogLevel :=
  if cs.isEmpty then .ok .trace
  else
    match LogLevel.ofName? cs with
    | some level => .ok level
    | none => .error .unknownLevel

/-- Reads one rule.  Blanks may stand before it only if it names no level. -/
def parse (piece : List Char) : Except LogRuleFault LogRule :=
  let indented := (piece.head?.map isBlank).getD false
  let levelOf (cs : List Char) := if indented then .error .unknownLevel else endLevel cs
  let text := trimLeft piece
  if !((text.head?.map fun c => c = '[' || isStart c).getD false) then .error .malformed
  else
    let topic := text.takeWhile fun c => c ≠ '=' && c ≠ '['
    match text.drop topic.length with
    | [] =>
        match LogLevel.ofName? piece with
        | some level => .ok ⟨[], level, false⟩
        | none => .ok ⟨piece, .trace, false⟩
    | '=' :: level => (levelOf level).map (⟨topic, ·, false⟩)
    | _ :: narrowing =>
        match afterNarrowing? narrowing with
        | none => .error .malformed
        | some ('=' :: level) => (levelOf level).map (⟨topic, ·, true⟩)
        | some rest => if (trim rest).isEmpty then .ok ⟨topic, .trace, true⟩ else .error .malformed

/-- Whether a rule is about a topic. -/
def covers (r : LogRule) (topic : List Char) : Bool := !r.narrowed && r.topic.isPrefixOf topic

end LogRule

example : LogRule.parse "shared=Warn".toList = .ok ⟨"shared".toList, .warn, false⟩ := by cbv
example : LogRule.parse "4".toList = .ok ⟨[], .debug, false⟩ := by cbv
example : LogRule.parse "shared=loud".toList = .error .unknownLevel := by cbv
example : LogRule.parse "shared[start]=off".toList = .ok ⟨"shared".toList, .off, true⟩ := by cbv
example : LogRule.parse "[start".toList = .error .malformed := by cbv

/-! ### Filters -/

/-- A list of rules. -/
abbrev LogFilter := List LogRule

namespace LogFilter

/-- The texts between commas, without the empty ones. -/
def pieces (cs : List Char) : List (List Char) :=
  (splitAll (· == ',') cs).filter fun piece => !piece.isEmpty

/-- Reads the rules between commas. -/
def parse (cs : List Char) : LogFilter :=
  (pieces cs).filterMap fun piece => (LogRule.parse piece).toOption

/-- What is said about the texts that are passed over. -/
def complaints (cs : List Char) : List String :=
  (pieces cs).filterMap fun piece =>
    match LogRule.parse piece with
    | .ok _ => none
    | .error fault => some ("ignoring `" ++ String.ofList piece ++ "`: " ++ fault.message)

/-- The rule that decides about a topic. -/
def decisive? (filter : LogFilter) (topic : List Char) : Option LogRule :=
  (filter.filter (LogRule.covers · topic)).foldl
    (fun best r =>
      match best with
      | some b => if b.topic.length ≤ r.topic.length then some r else some b
      | none => some r)
    none

/-- How much is written about a topic. -/
def level (filter : LogFilter) (topic : List Char) : LogLevel :=
  if filter.isEmpty then .error
  else ((filter.decisive? topic).map LogRule.level).getD .off

/-- Whether a line is written. -/
def writes (filter : LogFilter) (topic : List Char) (line : LogLevel) : Bool :=
  (filter.level topic).includes line

/-- A rule at the end decides unless an earlier one has a longer topic. -/
theorem decisive?_append_of_covers (filter : LogFilter) (r : LogRule) (topic : List Char)
    (h : r.covers topic = true) :
    decisive? (filter ++ [r]) topic =
      match filter.decisive? topic with
      | some b => if b.topic.length ≤ r.topic.length then some r else some b
      | none => some r := by
  simp [decisive?, List.filter_append, h]

/-! ### The topics of the multiplexer -/

/-- The topic of the program itself. -/
def programTopic : List Char := "streammux".toList

/-- The topic of lines about throughput. -/
def throughputTopic : List Char := programTopic ++ "::muxer".toList

/-- What the topics of shared code start with. -/
def sharedTopic : List Char := "shared".toList

/-- The topic of lines about the life of a process. -/
def lifeTopic : List Char := sharedTopic ++ "::logging".toList

/-- The filter for a level given as an argument: the text stands for the level of two topics, and
may go on with rules of its own. -/
def textForMuxer (level : String) : List Char :=
  programTopic ++ '=' :: level.toList ++ ',' :: sharedTopic ++ '=' :: level.toList

/-- The filter for a level given as an argument. -/
def forMuxer (level : String) : LogFilter := parse (textForMuxer level)

example : (forMuxer "info,streammux=debug").writes programTopic .debug = true := by decide +kernel
example : (forMuxer "debug").writes throughputTopic .trace = false := by decide +kernel
example : (forMuxer "loud").writes lifeTopic .error = true := by decide +kernel

end LogFilter

end FrameMux
