/-
**The arguments of the multiplexer.**

The arguments name a configuration file, add sources, and override a few settings.

Main definitions:

* `FrameMux.Arguments` — the arguments of the multiplexer, with `FrameMux.Arguments.parse?`;
* `FrameMux.Arguments.toConfig` — **the configuration** that they lead to;
* `FrameMux.checkProducerArguments` — whether arguments are those of a producer.
-/

import FrameMux.Binary64.Reading
import FrameMux.CommandLine.Options
import FrameMux.Error

set_option relaxedAutoImplicit false
set_option autoImplicit false

namespace FrameMux

open FrameMux.Text

/-- The arguments of the multiplexer. -/
structure Arguments where
  config : Option String
  sources : List String
  workerPath : Option String
  batchSize : Nat
  logLevel : String
  stalenessSecs : Option Binary64
  cooldownSecs : Option Binary64
deriving Repr

namespace Arguments

/-- A value that names a file. -/
def isPath (value : String) : Bool := !value.isEmpty

/-- A value that is a 64-bit number. -/
def isCount (value : String) : Bool := (readU64 value.toList).toOption.isSome

/-- A value that is a number of seconds. -/
def isSeconds (value : String) : Bool := (Binary64.read? value).isSome

/-- The options of the multiplexer. -/
def shapes : List OptionShape :=
  [⟨"config", false, isPath⟩, ⟨"source", true, fun _ => true⟩, ⟨"worker-path", false, isPath⟩,
    ⟨"batch-size", false, isCount⟩, ⟨"log-level", false, fun _ => true⟩,
    ⟨"staleness-secs", false, isSeconds⟩, ⟨"cooldown-secs", false, isSeconds⟩]

/-- The values of an option. -/
def valuesOf (name : String) (values : List (String × String)) : List String :=
  (values.filter fun p => p.1 = name).map Prod.snd

/-- The value of an option. -/
def valueOf? (name : String) (values : List (String × String)) : Option String :=
  (valuesOf name values).head?

/-- The level of messages when none is given. -/
def defaultLevel : String := "info"

/-- The arguments in a list of texts. -/
def parse? (arguments : List String) : Except OptionFault Arguments :=
  (scanOptions shapes arguments).map fun values =>
    { config := valueOf? "config" values
      sources := valuesOf "source" values
      workerPath := valueOf? "worker-path" values
      batchSize := ((valueOf? "batch-size" values).bind fun v =>
        (readU64 v.toList).toOption.map UInt64.toNat).getD 0
      logLevel := (valueOf? "log-level" values).getD defaultLevel
      stalenessSecs := (valueOf? "staleness-secs" values).bind Binary64.read?
      cooldownSecs := (valueOf? "cooldown-secs" values).bind Binary64.read? }

/-- A number of seconds as a duration. -/
def seconds (value : Binary64) : Except MuxError Duration :=
  (Duration.ofSeconds value).mapError fun cause => .configuration (.badSeconds value cause)

/-- Adds sources in order. -/
def addSources : List String → Config → Except MuxError Config
  | [], c => .ok c
  | text :: rest, c =>
      match Source.ofArgument text with
      | .error e => .error e
      | .ok source => addSources rest (c.withSource source)

/-- Overrides the staleness window; the negotiation timeout is not left shorter. -/
def overrideStaleness (value : Option Binary64) (c : Config) : Except MuxError Config :=
  match value with
  | none => .ok c
  | some value =>
      (seconds value).map fun d =>
        (c.set .stalenessWindow d).set .negotiationTimeout
          ((c.settings .negotiationTimeout).max d)

/-- Overrides the cool-down. -/
def overrideCooldown (value : Option Binary64) (c : Config) : Except MuxError Config :=
  match value with
  | none => .ok c
  | some value => (seconds value).map fun d => c.set .cooldown d

/-- The configuration that the arguments lead to, checked; `readFile` yields the bytes of a file. -/
def toConfig (readFile : String → Except FileFault (List UInt8)) (a : Arguments) :
    Except MuxError Config := do
  let c ← match a.config with
    | none => .ok Config.defaults
    | some path =>
        match readFile path with
        | .error fault => .error (.file fault)
        | .ok bytes => Config.ofFile bytes
  let c ← addSources a.sources c
  let c := (a.workerPath.map c.withWorkerPath).getD c
  let c ← overrideStaleness a.stalenessSecs c
  let c ← overrideCooldown a.cooldownSecs c
  c.check
  return c

end Arguments

/-- The options of a producer. -/
def producerShapes : List OptionShape :=
  [⟨"id", false, fun value => (readU32 value.toList).toOption.isSome⟩,
    ⟨"source", false, fun _ => true⟩, ⟨"log-level", false, fun _ => true⟩]

/-- Whether arguments are those of a producer: it needs a number and a source. -/
def checkProducerArguments (arguments : List String) : Except OptionFault Unit :=
  match scanOptions producerShapes arguments with
  | .error fault => .error fault
  | .ok values =>
      if (Arguments.valueOf? "id" values).isSome && (Arguments.valueOf? "source" values).isSome then
        .ok ()
      else .error .usage

end FrameMux
