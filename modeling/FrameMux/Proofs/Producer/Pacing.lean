/-
**Which sources start.**

The reader of sources takes every positive 32-bit number for a rate.  The pipeline divides a second by it,
in whole nanoseconds, and starts a clock with the quotient as its period.  The two do not agree: a rate of
more than a frame a nanosecond is read, and has no period.  This module says which of the sources that are
read come to their first step, and that a producer of any other one breaks down.

Main definitions:

* `FrameMux.SyntheticSource.Rated` — the rate that a query gives a source.

Main results:

* `FrameMux.SyntheticSource.rated_of_parse`, `Rated.pos` — a source that is read has the last rate of its
  query, which is positive;
* `FrameMux.breaksDown_iff` — a producer breaks down exactly if the clock has no period;
* `FrameMux.SyntheticSource.starts_iff_rate_bounded` — **which sources come to their first step**.
-/

import FrameMux.Proofs.Producer.Runs
import FrameMux.Proofs.Source.Grammar

set_option relaxedAutoImplicit false
set_option autoImplicit false

namespace FrameMux

open FrameMux.Text

/-! ### Producers that break down -/

/-- A run of one step is this step. -/
theorem Pipeline.run_one {σ : Type} [FrameSink σ] (p : Pipeline σ) : p.run 1 = p.step := by
  rw [run]
  split
  · rename_i q next
    rw [run, next]
  · rfl

/-- The run of a pipeline comes to its first step exactly if there is a clock for it. -/
theorem Pipeline.runPaced_one_iff {σ : Type} [FrameSink σ] (p : Pipeline σ) :
    p.runPaced 1 = some p.step ↔ p.source.Paced := by
  rw [runPaced, run_one]
  split
  · rename_i stopped
    simp [p.source.nanos_frameInterval_eq_zero_iff.1 stopped]
  · rename_i ticks
    simpa using mt p.source.nanos_frameInterval_eq_zero_iff.2 ticks

/-- A producer that serves a source breaks down exactly if there is no clock for it. -/
theorem breaksDown_iff (mmap : Mmap) (link : Link) (source : SyntheticSource) (enough : Nat) :
    (serveSource mmap link source enough).1 = .ended (.exited ProducerRun.breakdownCode) ↔
      ¬ source.Paced := by
  rw [← source.nanos_frameInterval_eq_zero_iff]
  by_cases stopped : source.frameInterval.nanos = 0
  · rw [serveSource, Pipeline.runPaced, Pipeline.start, if_pos stopped]
    exact ⟨fun _ => stopped, fun _ => rfl⟩
  · have served :
        (serveSource mmap link source enough).1 ≠ .ended (.exited ProducerRun.breakdownCode) := by
      rw [serveSource, Pipeline.runPaced, Pipeline.start, if_neg stopped]
      split
      · next unserved => cases unserved
      all_goals simp [ProducerRun.errorCode, ProducerRun.breakdownCode]
    exact ⟨fun broken => absurd broken served, fun none => absurd none stopped⟩

namespace SyntheticSource

/-! ### Rates -/

/-- A source has the last rate of a query, or the default if there is none. -/
def Rated (pairs : List (List Char × List Char)) (s : SyntheticSource) : Prop :=
  match Knob.fps.last? pairs with
  | none => s.fps.toNat = 25
  | some value => UnsignedNumeral value s.fps.toNat ∧ 0 < s.fps.toNat

theorem Rated.pos {pairs : List (List Char × List Char)} {s : SyntheticSource} (h : Rated pairs s) :
    0 < s.fps.toNat := by
  unfold Rated at h
  split at h
  · omega
  · exact h.2

/-- A source that is read has the rate that the query of its URL gives it. -/
theorem rated_of_parse {text : String} {source : SyntheticSource} (read : parse text = .ok source) :
    ∃ url, Url.parse text = .ok url ∧ Rated url.formPairs source := by
  cases split : Url.parse text with
  | error cause =>
      rw [parse, split] at read
      cases read
  | ok url =>
      rw [parse, split] at read
      obtain ⟨-, h, width, height, -, -, applied⟩ := ofParts_eq_ok_iff.1 read
      refine ⟨url, rfl, ?_⟩
      have shows := applied.shows .fps
      unfold Knob.Shows at shows
      unfold Rated
      cases last : Knob.fps.last? url.formPairs with
      | none =>
          rw [last] at shows
          exact Setting.number.inj (Option.some.inj shows)
      | some value =>
          rw [last] at shows
          obtain ⟨x, spells, set⟩ := shows
          cases Option.some.inj set
          exact ⟨spells.1, spells.2.1⟩

/-- **Which sources come to their first step.**  A source that is read has a positive rate; its frames
have a time between them, its run comes to a first step over any sink, and its producer does not break
down, exactly if the rate is a frame a nanosecond at most. -/
theorem starts_iff_rate_bounded {text : String} {source : SyntheticSource}
    (read : parse text = .ok source) :
    (∃ url, Url.parse text = .ok url ∧ Rated url.formPairs source) ∧ 0 < source.fps.toNat ∧
      (0 < source.frameInterval.nanos ↔ source.fps.toNat ≤ 1000000000) ∧
      (∀ {σ : Type} [FrameSink σ] (sink : σ),
        (Pipeline.start source sink).runPaced 1 = some (Pipeline.start source sink).step ↔
          source.fps.toNat ≤ 1000000000) ∧
      ∀ mmap link enough,
        (serveSource mmap link source enough).1 = .ended (.exited ProducerRun.breakdownCode) ↔
          1000000000 < source.fps.toNat := by
  obtain ⟨url, split, rated⟩ := rated_of_parse read
  have paced : source.Paced ↔ source.fps.toNat ≤ 1000000000 := and_iff_right rated.pos
  refine ⟨⟨url, split, rated⟩, rated.pos, ?_, fun sink => ?_, fun mmap link enough => ?_⟩
  · exact source.nanos_frameInterval_pos_iff.trans paced
  · exact (Pipeline.runPaced_one_iff _).trans paced
  · rw [breaksDown_iff, paced, Nat.not_le]

theorem starts_iff_rate_bounded_rehearsed :
    ∃ source, parse "test://4x2?fps=2000000000&fps=1000000000" = .ok source ∧
      0 < source.frameInterval.nanos ∧
      (serveSource .linux .fresh source 1).1 ≠ .ended (.exited ProducerRun.breakdownCode) := by
  have read : parse "test://4x2?fps=2000000000&fps=1000000000"
      = .ok { ofSize 4 2 with fps := 1000000000 } := rfl
  obtain ⟨-, -, interval, -, breaks⟩ := starts_iff_rate_bounded read
  exact ⟨_, read, interval.2 (by decide), fun broken => absurd ((breaks _ _ _).1 broken) (by decide)⟩

/-- **A source that is read and does not start**: its frames have no time between them, and its producer
breaks down where it should crash. -/
theorem overpaced_does_not_start :
    ∃ source, parse "test://2x2?fps=1000000001&crash_after=0" = .ok source ∧
      source.frameInterval.nanos = 0 ∧
      (∀ sink : ShmSink,
        (Pipeline.start source sink).runPaced 1 ≠ some (Pipeline.start source sink).step) ∧
      (runProducer .linux .fresh "test://2x2?fps=1000000001&crash_after=0" none).status
        = .exited ProducerRun.breakdownCode := by
  have unpaced : ¬ { ofSize 2 2 with fps := 1000000001, crashAfter := some 0 }.Paced := by decide
  refine ⟨_, rfl, rfl, fun sink => ?_, ?_⟩
  · rw [ne_eq, Pipeline.runPaced_one_iff]
    exact unpaced
  · decide +kernel

end SyntheticSource

end FrameMux
