/-
**Configuration.**

A configuration lists the sources, may name the worker program, and sets eight durations.

Main definitions:

* `FrameMux.Setting` — the eight durations by name;
* `FrameMux.Config` — a configuration, with `FrameMux.Config.defaults`;
* `FrameMux.Policy` — the durations that the supervisor goes by;
* `FrameMux.ConfigFault` — what can be wrong with a configuration;
* `FrameMux.Config.validate` — **the check** before a run.

Main results:

* `FrameMux.firstRepeated?_eq_none_iff` — nothing is repeated exactly when all sources have numbers
  of their own;
* `FrameMux.Config.validate_eq_ok_iff` — **what the check demands**.
-/

import FrameMux.Binary64.Shortest
import FrameMux.Source.Assignment
import FrameMux.Time

set_option relaxedAutoImplicit false
set_option autoImplicit false

namespace FrameMux

/-! ### Settings -/

/-- The durations of a configuration. -/
inductive Setting where
  | stalenessWindow
  | negotiationTimeout
  | cooldown
  | spawnRetryInterval
  | readerInterval
  | tickInterval
  | pollTimeout
  | statsInterval
deriving DecidableEq, Repr

namespace Setting

/-- All settings in the order of a configuration file. -/
def all : List Setting :=
  [stalenessWindow, negotiationTimeout, cooldown, spawnRetryInterval, readerInterval, tickInterval,
    pollTimeout, statsInterval]

/-- The name of a setting in a configuration file. -/
def name : Setting → String
  | stalenessWindow => "staleness_window"
  | negotiationTimeout => "negotiation_timeout"
  | cooldown => "cooldown"
  | spawnRetryInterval => "spawn_retry_interval"
  | readerInterval => "reader_interval"
  | tickInterval => "tick_interval"
  | pollTimeout => "poll_timeout"
  | statsInterval => "stats_interval"

/-- The value of a setting that a file leaves out. -/
def defaultValue : Setting → Duration
  | stalenessWindow => .ofSecs 180
  | negotiationTimeout => .ofSecs 300
  | cooldown => .ofSecs 20
  | spawnRetryInterval => .ofSecs 20
  | readerInterval => .ofMillis 10
  | tickInterval => .ofMillis 100
  | pollTimeout => .ofMillis 100
  | statsInterval => .ofSecs 1

/-- The settings that must not be zero, in the order in which they are checked. -/
def nonzero : List Setting :=
  [stalenessWindow, spawnRetryInterval, readerInterval, tickInterval, pollTimeout, statsInterval]

end Setting

/-! ### Configurations -/

/-- A configuration. -/
structure Config where
  workerPath : Option String
  sources : List Source
  settings : Setting → Duration

/-- The durations that the supervisor goes by. -/
structure Policy where
  staleness : Duration
  negotiation : Duration
  cooldown : Duration
  spawnRetry : Duration
deriving DecidableEq, Repr, Inhabited

/-- What can be wrong with a configuration. -/
inductive ConfigFault where
  | assignment (cause : AssignmentError)
  | noSources
  | duplicateId (id : UInt32)
  | shortNegotiation
  | zeroSetting (setting : Setting)
  | badSeconds (value : Binary64) (cause : SecondsError)
  | alreadySupervised (id : WorkerId)
deriving DecidableEq, Repr

/-- The wording of a configuration fault. -/
def ConfigFault.message : ConfigFault → String
  | assignment cause => cause.message
  | noSources => "at least one source is required"
  | duplicateId id => "duplicate source id " ++ toString id.toNat
  | shortNegotiation => "negotiation_timeout must not be shorter than staleness_window"
  | zeroSetting setting => setting.name ++ " must be greater than zero"
  | badSeconds value cause =>
      "invalid duration " ++ value.render .plain ++ ": " ++ cause.message
  | alreadySupervised id => id.name ++ " is already supervised"

/-- Why a configuration cannot be run. -/
inductive InvalidConfig where
  | fault (fault : ConfigFault)
  | tooManySources
deriving DecidableEq, Repr

/-- The first of a list of numbers that stands there a second time. -/
def firstRepeated? : List UInt32 → List UInt32 → Option UInt32
  | _, [] => none
  | seen, id :: rest => if id ∈ seen then some id else firstRepeated? (id :: seen) rest

/-- Nothing is repeated exactly when the numbers differ from each other and from those seen. -/
theorem firstRepeated?_eq_none_iff {seen ids : List UInt32} :
    firstRepeated? seen ids = none ↔ ids.Nodup ∧ ∀ id ∈ ids, id ∉ seen := by
  induction ids generalizing seen with
  | nil => simp [firstRepeated?]
  | cons id rest ih =>
    unfold firstRepeated?
    split
    · rename_i found
      simp only [reduceCtorEq, false_iff, not_and]
      intro _ unseen
      exact unseen id (by simp) found
    · rename_i fresh
      rw [ih]
      simp only [List.nodup_cons, List.mem_cons, forall_eq_or_imp, not_or]
      constructor
      · rintro ⟨distinct, unseen⟩
        refine ⟨⟨fun h => (unseen id h).1 rfl, distinct⟩, fresh, fun a ha => (unseen a ha).2⟩
      · rintro ⟨⟨absent, distinct⟩, _, unseen⟩
        exact ⟨distinct, fun a ha => ⟨fun e => absent (e ▸ ha), unseen a ha⟩⟩

namespace Config

/-- The configuration without sources. -/
def defaults : Config := ⟨none, [], Setting.defaultValue⟩

/-- Sets a duration. -/
def set (c : Config) (setting : Setting) (value : Duration) : Config :=
  { c with settings := fun s => if s = setting then value else c.settings s }

/-- Adds a source. -/
def withSource (c : Config) (source : Source) : Config :=
  { c with sources := c.sources ++ [source] }

/-- Names the worker program. -/
def withWorkerPath (c : Config) (path : String) : Config := { c with workerPath := some path }

/-- Whether two configurations say the same. -/
def same (a b : Config) : Bool :=
  a.workerPath == b.workerPath && a.sources == b.sources
    && Setting.all.all fun s => a.settings s == b.settings s

/-- What the supervisor goes by. -/
def policy (c : Config) : Policy where
  staleness := c.settings .stalenessWindow
  negotiation := c.settings .negotiationTimeout
  cooldown := c.settings .cooldown
  spawnRetry := c.settings .spawnRetryInterval

/-- The file name of the worker program that stands beside the multiplexer's own. -/
def siblingProgram : String := "producer"

/-- Checks a configuration before a run. -/
def validate (c : Config) : Except InvalidConfig Unit :=
  if c.sources = [] then .error (.fault .noSources)
  -- The faults have an order: sources, numbers, the two timeouts, zeros.
  else if maxWorkers < c.sources.length then .error .tooManySources
  else
    match firstRepeated? [] (c.sources.map (·.id)) with
    | some id => .error (.fault (.duplicateId id))
    | none =>
        if c.settings .negotiationTimeout < c.settings .stalenessWindow then
          .error (.fault .shortNegotiation)
        else
          match Setting.nonzero.find? fun s => (c.settings s).nanos = 0 with
          | some setting => .error (.fault (.zeroSetting setting))
          | none => .ok ()

/-- The check demands between one and 128 sources with numbers of their own, a negotiation timeout
not shorter than the staleness window, and no zero among the settings that must not be zero. -/
theorem validate_eq_ok_iff {c : Config} :
    c.validate = .ok () ↔
      c.sources ≠ [] ∧ c.sources.length ≤ maxWorkers ∧ (c.sources.map (·.id)).Nodup ∧
        c.settings .stalenessWindow ≤ c.settings .negotiationTimeout ∧
        ∀ s ∈ Setting.nonzero, (c.settings s).nanos ≠ 0 := by
  have order : ∀ a b : Duration, ¬ a < b ↔ b ≤ a := fun a b => Nat.not_lt
  have distinct : firstRepeated? [] (c.sources.map (·.id)) = none ↔
      (c.sources.map (·.id)).Nodup := by
    rw [firstRepeated?_eq_none_iff]
    simp
  have positive : (Setting.nonzero.find? fun s => decide ((c.settings s).nanos = 0)) = none ↔
      ∀ s ∈ Setting.nonzero, (c.settings s).nanos ≠ 0 := by
    rw [List.find?_eq_none]
    simp
  rw [← order, ← distinct, ← positive]
  unfold validate
  by_cases noSources : c.sources = []
  · simp [noSources]
  · by_cases many : maxWorkers < c.sources.length
    · simp [noSources, many, Nat.not_le.2 many]
    · cases repeated : firstRepeated? [] (c.sources.map (·.id)) with
      | some id => simp [noSources, many]
      | none =>
        by_cases short : c.settings .negotiationTimeout < c.settings .stalenessWindow
        · simp [noSources, many, short]
        · cases zero : Setting.nonzero.find? fun s => decide ((c.settings s).nanos = 0) with
          | some s => simp [noSources, many, short]
          | none => simp [noSources, many, short, Nat.not_lt.1 many]

end Config

end FrameMux
