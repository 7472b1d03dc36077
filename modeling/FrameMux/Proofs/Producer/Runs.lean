/-
**How a pipeline ends.**

A run takes one step after another until one of them does not continue.  Three limits may end it, each of
them set or not, one before another where they meet; without a limit nothing ends it but a failure.  This
module says in closed form, over a sink that never fails, when a run ends, how, and with which calls.  A
run begins with the clock, and the clock of a source with more than a frame a nanosecond has no period:
such a run does not come to its first step.

Main definitions:

* `FrameMux.SyntheticSource.Paced` — whether the clock of a source has a period;
* `FrameMux.Pipeline.limits`, `FrameMux.Pipeline.verdictAt` — the limits that are set, and what the least
  of them says;
* `FrameMux.Pipeline.Returns` — **how a run ends**, however many steps it takes;
* `FrameMux.Pipeline.NeverFails`, `FrameMux.Pipeline.PublishedOnly` — a sink that does whatever the
  pipeline asks of it, and calls that all pass on a frame.

Main results:

* `FrameMux.Pipeline.returns_iff`, `not_returns_of_continues` — a run ends with the first step that does
  not continue;
* `FrameMux.Pipeline.verdict?_of_least` — the least limit says how;
* `FrameMux.Pipeline.published_stepped` — **below the limits every step passes on a frame**;
* `FrameMux.Pipeline.closed_form_iff_paced` — **runs in closed form**.
-/

import FrameMux.Producer.Process
import FrameMux.Producer.Script
import FrameMux.Proofs.Producer.Calls

set_option relaxedAutoImplicit false
set_option autoImplicit false

namespace FrameMux

/-! ### The clock of a source -/

/-- Whether the clock of a source has a period: a frame a second at least, and one a nanosecond at
most. -/
def SyntheticSource.Paced (s : SyntheticSource) : Prop :=
  0 < s.fps.toNat ∧ s.fps.toNat ≤ 1000000000

instance (s : SyntheticSource) : Decidable s.Paced :=
  inferInstanceAs (Decidable (0 < s.fps.toNat ∧ s.fps.toNat ≤ 1000000000))

theorem SyntheticSource.nanos_frameInterval_eq_zero_iff (s : SyntheticSource) :
    s.frameInterval.nanos = 0 ↔ ¬ s.Paced := by
  rw [frameInterval, Nat.div_eq_zero_iff, Paced, Duration.nanosPerSecond]
  omega

theorem SyntheticSource.nanos_frameInterval_pos_iff (s : SyntheticSource) :
    0 < s.frameInterval.nanos ↔ s.Paced := by
  rw [Nat.pos_iff_ne_zero, ne_eq, nanos_frameInterval_eq_zero_iff, Decidable.not_not]

namespace Pipeline

/-! ### Limits -/

/-- The limits of a source that are set. -/
def limits (source : SyntheticSource) : List Nat :=
  ([source.crashAfter, source.frames, source.stallAfter].filterMap id).map UInt64.toNat

/-- How a run ends whose least limit is reached: a crash before the end, the end before a stall. -/
def verdictAt (source : SyntheticSource) (m : Nat) : Progress :=
  if source.crashAfter.map UInt64.toNat = some m then .crash
  else if source.frames.map UInt64.toNat = some m then .finished
  else .stall

theorem mem_limits_iff {source : SyntheticSource} {m : Nat} :
    m ∈ limits source ↔ source.crashAfter.map UInt64.toNat = some m ∨
      source.frames.map UInt64.toNat = some m ∨ source.stallAfter.map UInt64.toNat = some m := by
  simp only [limits, List.mem_map, List.mem_filterMap, List.mem_cons, List.not_mem_nil, or_false, id,
    Option.map_eq_some_iff, or_and_right, exists_or, exists_eq_left]

/-- The limit of a source is the least of its limits. -/
theorem limit?_eq_some_iff {source : SyntheticSource} {m : Nat} :
    limit? source = some m ↔ m ∈ limits source ∧ ∀ l ∈ limits source, m ≤ l :=
  List.min?_eq_some_iff

theorem limit?_eq_none_iff {source : SyntheticSource} : limit? source = none ↔ limits source = [] :=
  List.min?_eq_none_iff

variable {σ : Type}

theorem reached_iff {p : Pipeline σ} {limit : Option UInt64} :
    p.reached limit = true ↔ ∃ l, limit.map UInt64.toNat = some l ∧ l ≤ p.counts.produced := by
  cases limit <;> simp [reached]

/-- Below all its limits a source has no verdict. -/
theorem verdict?_of_below {p : Pipeline σ} (below : ∀ l ∈ limits p.source, p.counts.produced < l) :
    p.verdict? = none := by
  have unreached : ∀ limit : Option UInt64,
      (∀ l, limit.map UInt64.toNat = some l → l ∈ limits p.source) → ¬ p.reached limit = true := by
    intro limit set reached
    obtain ⟨l, said, le⟩ := reached_iff.1 reached
    exact Nat.not_le.2 (below l (set l said)) le
  rw [verdict?, if_neg (unreached _ fun l said => mem_limits_iff.2 (.inl said)),
    if_neg (unreached _ fun l said => mem_limits_iff.2 (.inr (.inl said))),
    if_neg (unreached _ fun l said => mem_limits_iff.2 (.inr (.inr said)))]

/-- **The least limit, once it is reached, says how a run ends.** -/
theorem verdict?_of_least {p : Pipeline σ} (least : limit? p.source = some p.counts.produced) :
    p.verdict? = some (verdictAt p.source p.counts.produced) := by
  obtain ⟨member, least⟩ := limit?_eq_some_iff.1 least
  -- No limit is below the count, so one that is reached is the count itself.
  have reached : ∀ limit : Option UInt64,
      (∀ l, limit.map UInt64.toNat = some l → l ∈ limits p.source) →
      (p.reached limit = true ↔ limit.map UInt64.toNat = some p.counts.produced) := by
    intro limit set
    rw [reached_iff]
    constructor
    · rintro ⟨l, said, le⟩
      rw [said, Nat.le_antisymm le (least l (set l said))]
    · intro said
      exact ⟨_, said, Nat.le_refl _⟩
  rw [verdict?, verdictAt]
  simp only [reached _ fun l said => mem_limits_iff.2 (.inl said),
    reached _ fun l said => mem_limits_iff.2 (.inr (.inl said)),
    reached _ fun l said => mem_limits_iff.2 (.inr (.inr said))]
  by_cases crashes : p.source.crashAfter.map UInt64.toNat = some p.counts.produced
  · rw [if_pos crashes, if_pos crashes]
  · rw [if_neg crashes, if_neg crashes]
    by_cases ends : p.source.frames.map UInt64.toNat = some p.counts.produced
    · rw [if_pos ends, if_pos ends]
    · have stalls := ((mem_limits_iff.1 member).resolve_left crashes).resolve_left ends
      rw [if_neg ends, if_neg ends, if_pos stalls]

/-! ### Runs -/

variable [FrameSink σ]

/-- How a run ends: with something else than to continue, after some number of steps. -/
def Returns (p : Pipeline σ) (result : Except ProducerError Progress) (q : Pipeline σ) : Prop :=
  result ≠ .ok .continue ∧ ∃ fuel, p.runPaced fuel = some (result, q)

/-- Steps that continue come before the rest of a run. -/
theorem run_of_continues {p : Pipeline σ} {n : Nat}
    (continues : ∀ k < n, (p.stepped k).step.1 = .ok .continue) (fuel : Nat) :
    p.run (n + fuel) = (p.stepped n).run fuel := by
  induction n generalizing fuel with
  | zero => rw [Nat.zero_add, stepped]
  | succ n ih =>
      have next : (p.stepped n).step = (.ok .continue, p.stepped (n + 1)) :=
        Prod.ext (continues n (Nat.lt_succ_self n)) rfl
      rw [Nat.add_assoc, Nat.add_comm 1, ih fun k lt => continues k (Nat.lt_succ_of_lt lt), run, next]

/-- A step that does not continue is the last one. -/
theorem run_of_stops {p : Pipeline σ} (stops : p.step.1 ≠ .ok .continue) (fuel : Nat) :
    p.run (fuel + 1) = p.step := by
  rw [run]
  split
  · rename_i q next
    rw [next] at stops
    exact absurd rfl stops
  · rfl

/-- Without an end there is no result. -/
theorem not_returns_of_continues {p : Pipeline σ}
    (continues : ∀ k, (p.stepped k).step.1 = .ok .continue) (result : Except ProducerError Progress)
    (q : Pipeline σ) : ¬ Returns p result q := by
  rintro ⟨ended, fuel, ran⟩
  rw [runPaced] at ran
  split at ran
  · cases ran
  · have same : p.run fuel = (.ok .continue, p.stepped fuel) :=
      run_of_continues (n := fuel) (fun k _ => continues k) 0
    rw [same] at ran
    cases ran
    exact ended rfl

theorem not_returns_of_not_paced {p : Pipeline σ} (overpaced : ¬ p.source.Paced)
    (result : Except ProducerError Progress) (q : Pipeline σ) : ¬ Returns p result q := by
  rintro ⟨-, fuel, ran⟩
  rw [runPaced, if_pos (p.source.nanos_frameInterval_eq_zero_iff.2 overpaced)] at ran
  cases ran

/-- **A run ends with the first step that does not continue**, if there is a clock to begin with. -/
theorem returns_iff {p p' : Pipeline σ} {n : Nat} {verdict : Progress}
    (continues : ∀ k < n, (p.stepped k).step.1 = .ok .continue)
    (last : (p.stepped n).step = (.ok verdict, p')) (stops : verdict ≠ .continue)
    (result : Except ProducerError Progress) (q : Pipeline σ) :
    Returns p result q ↔ p.source.Paced ∧ result = .ok verdict ∧ q = p' := by
  have ended : (.ok verdict : Except ProducerError Progress) ≠ .ok .continue :=
    fun same => stops (Except.ok.inj same)
  have all : ∀ fuel, p.run (n + (fuel + 1)) = (.ok verdict, p') := by
    intro fuel
    rw [run_of_continues continues, run_of_stops (by rw [last]; exact ended), last]
  by_cases paced : p.source.Paced
  · have clock : ¬ p.source.frameInterval.nanos = 0 := fun none =>
      p.source.nanos_frameInterval_eq_zero_iff.1 none paced
    constructor
    · rintro ⟨other, fuel, ran⟩
      rw [runPaced, if_neg clock, Option.some.injEq] at ran
      -- With less fuel a run has not ended yet, with more it is the same run.
      rcases Nat.lt_or_ge n fuel with more | less
      · obtain ⟨rest, rfl⟩ := Nat.exists_eq_add_of_lt more
        rw [Nat.add_assoc, all] at ran
        cases ran
        exact ⟨paced, rfl, rfl⟩
      · have early : p.run fuel = (.ok .continue, p.stepped fuel) :=
          run_of_continues (n := fuel) (fun k lt => continues k (Nat.lt_of_lt_of_le lt less)) 0
        rw [early] at ran
        cases ran
        exact absurd rfl other
    · rintro ⟨-, rfl, rfl⟩
      exact ⟨ended, n + 1, by rw [runPaced, if_neg clock, all]⟩
  · constructor
    · intro returns
      exact absurd returns (not_returns_of_not_paced paced result q)
    · rintro ⟨paced', -⟩
      exact absurd paced' paced

/-- Under watch, a run does what it does without. -/
theorem forget_run (p : Pipeline (Watched σ)) (fuel : Nat) :
    p.forget.run fuel = ((p.run fuel).1, (p.run fuel).2.forget) := by
  induction fuel generalizing p with
  | zero => rfl
  | succ fuel ih =>
      rw [run, run, forget_step]
      rcases p.step with ⟨_ | progress, q⟩
      · rfl
      · cases progress with
        | «continue» => exact ih q
        | stall => rfl
        | crash => rfl
        | finished => rfl

theorem returns_forget_iff {p : Pipeline (Watched σ)} {result : Except ProducerError Progress}
    {q : Pipeline σ} : Returns p.forget result q ↔ ∃ w, Returns p result w ∧ w.forget = q := by
  have clock : p.forget.source.frameInterval = p.source.frameInterval := rfl
  constructor
  · rintro ⟨ended, fuel, ran⟩
    rw [runPaced, clock, forget_run] at ran
    split at ran
    · cases ran
    · rename_i ticks
      cases ran
      exact ⟨(p.run fuel).2, ⟨ended, fuel, if_neg ticks⟩, rfl⟩
  · rintro ⟨w, ⟨ended, fuel, ran⟩, rfl⟩
    refine ⟨ended, fuel, ?_⟩
    rw [runPaced] at ran ⊢
    rw [clock, forget_run]
    split at ran
    · cases ran
    · rename_i ticks
      rw [if_neg ticks, Option.some.inj ran]

/-! ### Sinks that never fail -/

/-- The sink does whatever the pipeline asks of it, as long as it is asked. -/
def NeverFails (source : SyntheticSource) (sink : σ) : Prop :=
  ∀ n, ∀ entry ∈ record source sink n, entry.succeeded = true

/-- So many frames were passed on, no call failed, and nothing else was asked. -/
def PublishedOnly (entries : List SinkEntry) (n : Nat) : Prop :=
  ∃ calls : List Publishing, entries = calls.map .published ∧ calls.length = n ∧
    ∀ call ∈ calls, call.answer.isOk = true

/-- A sink that stays in states in which it does not fail never fails. -/
theorem neverFails_of_invariant (Fine : σ → Prop) (source : SyntheticSource) {sink : σ}
    (initial : Fine sink)
    (negotiate : ∀ s, Fine s → ∀ capacity, (FrameSink.negotiate s capacity).1.isOk = true ∧
      Fine (FrameSink.negotiate s capacity).2)
    (publish : ∀ s, Fine s → ∀ data width height,
      (FrameSink.publish s data width height).1.isOk = true ∧
      Fine (FrameSink.publish s data width height).2) : NeverFails source sink := by
  -- The state of the sink after so many steps goes into the induction, for the next answer is up to it.
  have kept : ∀ n, Fine ((watched source sink).stepped n).sink.sink ∧
      ∀ entry ∈ record source sink n, entry.succeeded = true := by
    intro n
    induction n with
    | zero => exact ⟨initial, List.forall_mem_nil _⟩
    | succ n ih =>
        obtain ⟨fine, succeeded⟩ := ih
        rw [record, stepped]
        rcases ((watched source sink).stepped n).step_cases with ⟨verdict, -, done⟩ |
          ⟨-, -, answer, next, asked, done⟩ | ⟨-, -, frame, answer, next, -, asked, done⟩
        · rw [done]
          exact ⟨fine, succeeded⟩
        · have good := negotiate _ fine
            ((watched source sink).stepped n).source.frameLength
          rw [asked] at good
          rw [done]
          exact ⟨good.2, List.forall_mem_append.2 ⟨succeeded, List.forall_mem_singleton.2 good.1⟩⟩
        · have good := publish _ fine frame ((watched source sink).stepped n).source.width
            ((watched source sink).stepped n).source.height
          rw [asked] at good
          rw [done]
          exact ⟨good.2, List.forall_mem_append.2 ⟨succeeded, List.forall_mem_singleton.2 good.1⟩⟩
  exact fun n => (kept n).2

/-- Below the limits a step passes on a frame and continues. -/
theorem published_step {source : SyntheticSource} {sink : σ} (publishes : source.publish = true)
    (fine : NeverFails source sink) {n : Nat}
    (below : ∀ l ∈ limits source, ((watched source sink).stepped n).counts.produced < l) :
    ∃ call : Publishing, call.answer.isOk = true ∧
      record source sink (n + 1) = record source sink n ++ [.published call] ∧
      ((watched source sink).stepped (n + 1)).counts.produced
        = ((watched source sink).stepped n).counts.produced + 1 ∧
      ((watched source sink).stepped n).step.1 = .ok .continue := by
  have kept := (accounted_stepped source sink n).kept
  have succeeded := fine (n + 1)
  rw [record, stepped] at succeeded ⊢
  rcases ((watched source sink).stepped n).step_cases with ⟨verdict, reached, -⟩ | ⟨-, mute, -⟩ |
    ⟨-, -, frame, answer, next, -, -, done⟩
  · rw [verdict?_of_below (by rw [kept]; exact below)] at reached
    cases reached
  · rw [kept, publishes] at mute
    cases mute
  · rw [done] at succeeded ⊢
    have isOk : answer.isOk = true := succeeded _ (List.mem_append_right _ (List.mem_singleton.2 rfl))
    obtain ⟨outcome, rfl⟩ : ∃ outcome, answer = .ok outcome := by
      cases answer with
      | error e => cases isOk
      | ok outcome => exact ⟨outcome, rfl⟩
    exact ⟨_, isOk, rfl, PipelineCounts.produced_record _ outcome, rfl⟩

/-- **Below the limits every step passes on a frame and continues.** -/
theorem published_stepped {source : SyntheticSource} {sink : σ} (publishes : source.publish = true)
    (fine : NeverFails source sink) {n : Nat} (below : ∀ l ∈ limits source, n ≤ l) :
    ((watched source sink).stepped n).counts.produced = n ∧
      PublishedOnly (record source sink n) n ∧
      ∀ k < n, ((watched source sink).stepped k).step.1 = .ok .continue := by
  induction n with
  | zero =>
      refine ⟨rfl, ⟨[], rfl, rfl, List.forall_mem_nil _⟩, fun k lt => ?_⟩
      exact absurd lt (Nat.not_lt_zero k)
  | succ n ih =>
      obtain ⟨produced, ⟨calls, recorded, count, isOk⟩, continues⟩ :=
        ih fun l member => Nat.le_of_succ_le (below l member)
      obtain ⟨call, isOk', recorded', produced', continues'⟩ :=
        published_step publishes fine (n := n) (by rw [produced]; exact below)
      refine ⟨?_, ⟨calls ++ [call], ?_, ?_, ?_⟩, ?_⟩
      · rw [produced', produced]
      · rw [recorded', recorded, List.map_append, List.map_singleton]
      · rw [List.length_append, count, List.length_singleton]
      · exact List.forall_mem_append.2 ⟨isOk, List.forall_mem_singleton.2 isOk'⟩
      · intro k lt
        rcases Nat.lt_succ_iff_lt_or_eq.1 lt with less | rfl
        · exact continues k less
        · exact continues'

/-- A source that must not publish asks for a slot, and stalls. -/
theorem negotiated_step {source : SyntheticSource} {sink : σ} (mute : source.publish = false)
    (fine : NeverFails source sink) (below : ∀ l ∈ limits source, 0 < l) :
    record source sink 1 = [.negotiated source.frameLength (.ok ())] ∧
      (watched source sink).step = (.ok .stall, (watched source sink).stepped 1) := by
  have succeeded := fine 1
  rw [record, stepped, stepped] at succeeded ⊢
  rcases (watched source sink).step_cases with ⟨verdict, reached, -⟩ |
    ⟨-, -, answer, next, -, done⟩ | ⟨-, publishes, -⟩
  · rw [verdict?_of_below (p := watched source sink) below] at reached
    cases reached
  · rw [done] at succeeded ⊢
    cases answer with
    | error e => cases succeeded _ (List.mem_singleton.2 rfl)
    | ok _ => exact ⟨rfl, rfl⟩
  · cases publishes.symm.trans mute

/-- A source that must not publish does not, whatever the sink answers. -/
theorem publishings_of_mute {source : SyntheticSource} (mute : source.publish = false) (sink : σ)
    (n : Nat) : publishings (record source sink n) = [] := by
  induction n with
  | zero => rfl
  | succ n ih =>
      have kept := (accounted_stepped source sink n).kept
      rw [record] at ih
      rw [record, stepped]
      rcases ((watched source sink).stepped n).step_cases with ⟨verdict, -, done⟩ |
        ⟨-, -, answer, next, -, done⟩ | ⟨-, publishes, -⟩
      · rw [done]
        exact ih
      · rw [done, Watched.noted, publishings_append, publishings_negotiated, List.append_nil]
        exact ih
      · rw [kept, mute] at publishes
        cases publishes

/-! ### The closed form -/

theorem verdictAt_ne_continue (source : SyntheticSource) (m : Nat) :
    verdictAt source m ≠ .continue := by
  rw [verdictAt]
  split
  · decide
  · split <;> decide

/-- A run whose steps continue up to the least limit ends there, without another call. -/
theorem returns_iff_of_least {source : SyntheticSource} {sink : σ} {n m : Nat}
    (continues : ∀ k < n, ((watched source sink).stepped k).step.1 = .ok .continue)
    (produced : ((watched source sink).stepped n).counts.produced = m)
    (least : limit? source = some m) (result : Except ProducerError Progress)
    (w : Pipeline (Watched σ)) :
    Returns (watched source sink) result w ↔
      source.Paced ∧ result = .ok (verdictAt source m) ∧ w = (watched source sink).stepped n := by
  have kept := (accounted_stepped source sink n).kept
  have verdict := verdict?_of_least (p := (watched source sink).stepped n)
    (by rw [kept, produced]; exact least)
  rw [kept, produced] at verdict
  exact returns_iff continues (step_of_verdict verdict) (verdictAt_ne_continue source m) result w

/-- **Runs in closed form**, over a sink that never fails: a source that publishes passes on as many
frames as its least limit says, and ends as this limit says, or goes on for ever; one that must not
publish asks for a slot and stalls, unless a limit ends it before.  Both need a clock with a period.
Over any sink, every frame is counted on which the sink does not fail, and every frame that is passed on
shows the picture under the number of its call. -/
theorem closed_form_iff_paced (source : SyntheticSource) (sink : σ) :
    (∀ result q, Returns (start source sink) result q ↔
      ∃ w, Returns (watched source sink) result w ∧ w.forget = q) ∧
    (NeverFails source sink →
      (source.publish = true →
        (∀ m, limit? source = some m →
          PublishedOnly (record source sink m) m ∧
          ∀ result w, Returns (watched source sink) result w ↔
            source.Paced ∧ result = .ok (verdictAt source m) ∧ w = (watched source sink).stepped m) ∧
        (limit? source = none → ∀ result w, ¬ Returns (watched source sink) result w)) ∧
      (source.publish = false →
        (limit? source = some 0 →
          ∀ result w, Returns (watched source sink) result w ↔
            source.Paced ∧ result = .ok (verdictAt source 0) ∧ w = watched source sink) ∧
        (limit? source ≠ some 0 →
          record source sink 1 = [.negotiated source.frameLength (.ok ())] ∧
          ∀ result w, Returns (watched source sink) result w ↔
            source.Paced ∧ result = .ok .stall ∧ w = (watched source sink).stepped 1))) ∧
    (source.publish = false → ∀ n, publishings (record source sink n) = []) ∧
    ∀ n, let p := (start source sink).stepped n
      let calls := publishings (record source sink n)
      ((watched source sink).stepped n).forget = p ∧
      p.counts.produced = p.counts.published + p.counts.replaced + p.counts.busy ∧
      p.counts.produced = calls.countP (fun call => call.answer.isOk) ∧
      ∀ i call, calls[i]? = some call →
        call.width = source.width ∧ call.height = source.height ∧
        call.data.length = source.width.toNat * source.height.toNat * 3 ∧
        ∀ x < source.width.toNat, ∀ y < source.height.toNat,
          ((call.data.drop ((y * source.width.toNat + x) * 3)).take 3).map UInt8.toNat
            = [(x + i) % 256, (y + i) % 256, i % 256] := by
  have nothing : ∀ k < 0, ((watched source sink).stepped k).step.1 = .ok .continue :=
    fun k lt => absurd lt (Nat.not_lt_zero k)
  refine ⟨fun result q => returns_forget_iff (p := watched source sink), fun fine => ⟨?_, ?_⟩,
    fun mute n => publishings_of_mute mute sink n, fun n => ?_⟩
  · intro publishes
    refine ⟨fun m least => ?_, fun unlimited => ?_⟩
    · obtain ⟨produced, only, continues⟩ :=
        published_stepped publishes fine (limit?_eq_some_iff.1 least).2
      exact ⟨only, returns_iff_of_least continues produced least⟩
    · have none : limits source = [] := limit?_eq_none_iff.1 unlimited
      refine not_returns_of_continues fun k => ?_
      have continues := (published_stepped publishes fine (n := k + 1) (by simp [none])).2.2
      exact continues k (Nat.lt_succ_self k)
  · intro mute
    refine ⟨returns_iff_of_least nothing rfl, fun later => ?_⟩
    have below : ∀ l ∈ limits source, 0 < l := by
      intro l member
      refine Nat.pos_of_ne_zero fun zero => later ?_
      subst zero
      exact limit?_eq_some_iff.2 ⟨member, fun l _ => Nat.zero_le l⟩
    obtain ⟨recorded, last⟩ := negotiated_step mute fine below
    exact ⟨recorded, returns_iff nothing last (by decide)⟩
  · have accounts := accounted_stepped source sink n
    have same : ((watched source sink).stepped n).forget = (start source sink).stepped n :=
      forget_stepped (watched source sink) n
    refine ⟨same, ?_, ?_, fun i call there => accounts.publishing there⟩
    · rw [← same]
      exact accounts.counted.1
    · rw [← same]
      exact accounts.counted.2

/-- A sink without a script takes every frame. -/
theorem neverFails_unscripted (source : SyntheticSource) :
    NeverFails source (⟨[], []⟩ : ScriptedSink) := by
  refine neverFails_of_invariant (fun s => s.outcomes = []) source rfl ?_ ?_
  · rintro ⟨outcomes, calls⟩ rfl capacity
    exact ⟨rfl, rfl⟩
  · rintro ⟨outcomes, calls⟩ rfl data width height
    exact ⟨rfl, rfl⟩

/-- Three limits, of which a crash and the end meet after three frames: the crash comes first. -/
theorem closed_form_rehearsed :
    let source := { SyntheticSource.ofSize 4 2 with
      crashAfter := some 3, frames := some 3, stallAfter := some 5 }
    let sink : ScriptedSink := ⟨[], []⟩
    (∃ q, Returns (start source sink) (.ok .crash) q) ∧ PublishedOnly (record source sink 3) 3 := by
  intro source sink
  obtain ⟨watch, runs, -⟩ := closed_form_iff_paced source sink
  obtain ⟨limited, -⟩ := (runs (neverFails_unscripted source)).1 rfl
  obtain ⟨only, returns⟩ := limited 3 (by decide)
  have paced : source.Paced := by decide
  exact ⟨⟨_, (watch _ _).2 ⟨_, (returns _ _).2 ⟨paced, rfl, rfl⟩, rfl⟩⟩, only⟩

/-- **A frame limit that no run comes to**: the source is read, its sink never fails, and it should pass on
two frames and end; but it asks for more than a frame a nanosecond, and the producer breaks down. -/
theorem overpaced_never_returns :
    ∃ source, SyntheticSource.parse "test://2x2?fps=1000000001&frames=2" = .ok source ∧
      source.publish = true ∧ limit? source = some 2 ∧ verdictAt source 2 = .finished ∧
      NeverFails source (⟨[], []⟩ : ScriptedSink) ∧
      (∀ result q, ¬ Returns (start source (⟨[], []⟩ : ScriptedSink)) result q) ∧
      (runProducer .linux .fresh "test://2x2?fps=1000000001&frames=2" none).status
        = .exited ProducerRun.breakdownCode := by
  refine ⟨{ SyntheticSource.ofSize 2 2 with fps := 1000000001, frames := some 2 }, rfl, rfl, rfl, rfl,
    neverFails_unscripted _, not_returns_of_not_paced ?_, ?_⟩
  · decide
  · decide +kernel

end Pipeline

end FrameMux
