/-
**What a pipeline asks of its sink.**

A pipeline meets its sink in calls, and any of them may fail.  A frame that fails is rendered and not
counted, so the number of the picture runs ahead of the count of frames.  To speak of the calls, a witness
is put between the two: a watched sink answers as the sink does, and keeps every call with its answer.
Nothing that the pipeline does depends on the witness, and the counts of the pipeline are what the witness
saw, whatever the sink answers.

Main definitions:

* `FrameMux.Publishing`, `FrameMux.SinkEntry` — a call on a sink, with its answer;
* `FrameMux.Watched` — **a sink under watch**;
* `FrameMux.Pipeline.Accounted` — **the invariant**: every frame that was passed on, and every count;
* `FrameMux.Pipeline.stepped`, `FrameMux.Pipeline.record` — a pipeline after some steps, and the calls
  that it has made.

Main results:

* `FrameMux.Pipeline.Accounted.counted`, `Accounted.publishing` — the counts of a pipeline, and the
  frames that it passes on, pixel by pixel;
* `FrameMux.Pipeline.step_cases` — **what a step can do**;
* `FrameMux.Pipeline.forget_stepped` — under watch, a pipeline does what it does without;
* `FrameMux.Pipeline.accounted_stepped` — **every number of steps keeps the accounts**.
-/

import FrameMux.Producer.Pipeline

set_option relaxedAutoImplicit false
set_option autoImplicit false

namespace FrameMux

/-! ### Calls and answers -/

/-- A frame that a sink was given, and what the sink answered. -/
structure Publishing where
  data : Bytes
  width : UInt32
  height : UInt32
  answer : Except ProducerError PublishOutcome

/-- What a sink was asked, and what it answered. -/
inductive SinkEntry where
  | announced (mask : EventMask) (answer : Except ProducerError Unit)
  | negotiated (capacity : Nat) (answer : Except ProducerError Unit)
  | published (call : Publishing)

namespace SinkEntry

/-- Whether the sink did what it was asked. -/
def succeeded : SinkEntry → Bool
  | announced _ answer => answer.isOk
  | negotiated _ answer => answer.isOk
  | published call => call.answer.isOk

/-- The call with a frame that an entry is about. -/
def publishing? : SinkEntry → Option Publishing
  | published call => some call
  | announced _ _ | negotiated _ _ => none

end SinkEntry

/-- The calls with frames, in order, failed ones included. -/
def publishings (entries : List SinkEntry) : List Publishing :=
  entries.filterMap SinkEntry.publishing?

/-- How the calls with frames ended that did not fail. -/
def outcomes (entries : List SinkEntry) : List PublishOutcome :=
  (publishings entries).filterMap (·.answer.toOption)

theorem publishings_append (l l' : List SinkEntry) :
    publishings (l ++ l') = publishings l ++ publishings l' := List.filterMap_append

theorem outcomes_append (l l' : List SinkEntry) : outcomes (l ++ l') = outcomes l ++ outcomes l' := by
  rw [outcomes, publishings_append, List.filterMap_append, outcomes, outcomes]

@[simp] theorem publishings_published (call : Publishing) : publishings [.published call] = [call] :=
  rfl

@[simp] theorem publishings_negotiated (capacity : Nat) (answer : Except ProducerError Unit) :
    publishings [.negotiated capacity answer] = [] := rfl

@[simp] theorem outcomes_negotiated (capacity : Nat) (answer : Except ProducerError Unit) :
    outcomes [.negotiated capacity answer] = [] := rfl

theorem length_outcomes (l : List SinkEntry) :
    (outcomes l).length = (publishings l).countP fun call => call.answer.isOk := by
  rw [outcomes, List.length_filterMap_eq_countP]
  congr 1
  funext call
  cases call.answer <;> rfl

/-! ### Counts -/

namespace PipelineCounts

/-- The counts of frames that ended so. -/
def ofOutcomes (l : List PublishOutcome) : PipelineCounts :=
  ⟨l.length, l.count .published, l.count .replaced, l.count .busy⟩

/-- One more frame that ended so is one more in the counts. -/
theorem ofOutcomes_append_singleton (l : List PublishOutcome) (outcome : PublishOutcome) :
    ofOutcomes (l ++ [outcome]) = (ofOutcomes l).record outcome := by
  cases outcome <;> simp [ofOutcomes, record]

@[simp] theorem produced_record (c : PipelineCounts) (outcome : PublishOutcome) :
    (c.record outcome).produced = c.produced + 1 := by
  cases outcome <;> rfl

/-- Every frame ended one way. -/
theorem produced_ofOutcomes (l : List PublishOutcome) :
    (ofOutcomes l).produced
      = (ofOutcomes l).published + (ofOutcomes l).replaced + (ofOutcomes l).busy := by
  induction l with
  | nil => rfl
  | cons outcome rest ih =>
      simp only [ofOutcomes] at ih ⊢
      cases outcome <;> simp [ih] <;> omega

/-- Counts a frame if the sink did not fail on it. -/
def note (c : PipelineCounts) : Except ProducerError PublishOutcome → PipelineCounts
  | .ok outcome => c.record outcome
  | .error _ => c

end PipelineCounts

/-! ### A sink under watch -/

/-- A sink, with the calls on it so far. -/
structure Watched (σ : Type) where
  sink : σ
  entries : List SinkEntry

namespace Watched

variable {σ : Type}

/-- A sink that nothing was asked of yet. -/
def of (sink : σ) : Watched σ := ⟨sink, []⟩

/-- The sink went on to another state, and the call is kept. -/
def noted (w : Watched σ) (sink : σ) (entry : SinkEntry) : Watched σ := ⟨sink, w.entries ++ [entry]⟩

/-- A watched sink answers as the sink does. -/
instance [FrameSink σ] : FrameSink (Watched σ) where
  announce w mask :=
    ((FrameSink.announce w.sink mask).1, w.noted (FrameSink.announce w.sink mask).2
      (.announced mask (FrameSink.announce w.sink mask).1))
  negotiate w capacity :=
    ((FrameSink.negotiate w.sink capacity).1, w.noted (FrameSink.negotiate w.sink capacity).2
      (.negotiated capacity (FrameSink.negotiate w.sink capacity).1))
  publish w data width height :=
    ((FrameSink.publish w.sink data width height).1,
      w.noted (FrameSink.publish w.sink data width height).2
        (.published ⟨data, width, height, (FrameSink.publish w.sink data width height).1⟩))

section

variable [FrameSink σ] {w : Watched σ} {sink : σ}

theorem negotiate_eq {capacity : Nat} {answer : Except ProducerError Unit}
    (asked : FrameSink.negotiate w.sink capacity = (answer, sink)) :
    FrameSink.negotiate w capacity = (answer, w.noted sink (.negotiated capacity answer)) := by
  change ((FrameSink.negotiate w.sink capacity).1, w.noted (FrameSink.negotiate w.sink capacity).2 _) = _
  rw [asked]

theorem publish_eq {data : Bytes} {width height : UInt32}
    {answer : Except ProducerError PublishOutcome}
    (asked : FrameSink.publish w.sink data width height = (answer, sink)) :
    FrameSink.publish w data width height
      = (answer, w.noted sink (.published ⟨data, width, height, answer⟩)) := by
  change ((FrameSink.publish w.sink data width height).1,
    w.noted (FrameSink.publish w.sink data width height).2 _) = _
  rw [asked]

end

end Watched

namespace Pipeline

variable {σ : Type}

/-- A pipeline before its first frame, with its sink under watch. -/
def watched (source : SyntheticSource) (sink : σ) : Pipeline (Watched σ) :=
  start source (Watched.of sink)

/-! ### Accounts -/

/-- What the witness saw so far, whatever the sink answered: every call with a frame had the next frame
of the picture, and the frames on which the sink did not fail are counted, by how they ended. -/
structure Accounted (source : SyntheticSource) (p : Pipeline (Watched σ)) : Prop where
  kept : p.source = source
  frames : (publishings p.sink.entries).map (fun call => (call.data, call.width, call.height))
    = (List.range p.rendered).map fun i =>
        (testFrame source.width.toNat source.height.toNat i, source.width, source.height)
  counts : p.counts = .ofOutcomes (outcomes p.sink.entries)

theorem accounted_watched (source : SyntheticSource) (sink : σ) :
    Accounted source (watched source sink) where
  kept := rfl
  frames := rfl
  counts := rfl

/-- A frame is counted if the sink did not fail on it, and it ended one way. -/
theorem Accounted.counted {source : SyntheticSource} {p : Pipeline (Watched σ)}
    (h : Accounted source p) :
    p.counts.produced = p.counts.published + p.counts.replaced + p.counts.busy ∧
      p.counts.produced = (publishings p.sink.entries).countP fun call => call.answer.isOk := by
  rw [h.counts]
  exact ⟨PipelineCounts.produced_ofOutcomes _, length_outcomes _⟩

/-- The frame of a call has the size of the source, and its pixels are those of the picture under the
number of the call. -/
theorem Accounted.publishing {source : SyntheticSource} {p : Pipeline (Watched σ)}
    (h : Accounted source p) {i : Nat} {call : Publishing}
    (there : (publishings p.sink.entries)[i]? = some call) :
    call.width = source.width ∧ call.height = source.height ∧
      call.data.length = source.width.toNat * source.height.toNat * 3 ∧
      ∀ x < source.width.toNat, ∀ y < source.height.toNat,
        ((call.data.drop ((y * source.width.toNat + x) * 3)).take 3).map UInt8.toNat
          = [(x + i) % 256, (y + i) % 256, i % 256] := by
  have frame : (call.data, call.width, call.height)
      = (testFrame source.width.toNat source.height.toNat i, source.width, source.height) := by
    -- The call stands where its number stands among the frames of the picture.
    have same := congrArg (·[i]?) h.frames
    simp only [List.getElem?_map, there, Option.map_some] at same
    obtain ⟨j, numbered, shown⟩ := Option.map_eq_some_iff.1 same.symm
    obtain ⟨_, rfl⟩ := List.getElem?_eq_some_iff.1 numbered
    rw [List.getElem_range] at shown
    exact shown.symm
  simp only [Prod.mk.injEq] at frame
  obtain ⟨data, width, height⟩ := frame
  refine ⟨width, height, ?_, ?_⟩
  · rw [data, length_testFrame]
  · intro x column y row
    rw [data, pixel_testFrame column row]
    simp [pixel]

/-! ### Steps -/

/-- The pipeline without the watch on its sink. -/
def forget (p : Pipeline (Watched σ)) : Pipeline σ := ⟨p.source, p.sink.sink, p.rendered, p.counts⟩

variable [FrameSink σ]

/-- A pipeline after some steps, whatever comes of them. -/
def stepped : Nat → Pipeline σ → Pipeline σ
  | 0, p => p
  | n + 1, p => (stepped n p).step.2

/-- The calls that a pipeline makes in its first steps. -/
def record (source : SyntheticSource) (sink : σ) (n : Nat) : List SinkEntry :=
  ((watched source sink).stepped n).sink.entries

/-- A source that must not publish has its slot negotiated. -/
theorem step_of_negotiate {p : Pipeline σ} (free : p.verdict? = none)
    (mute : p.source.publish = false) {answer : Except ProducerError Unit} {sink : σ}
    (asked : FrameSink.negotiate p.sink p.source.frameLength = (answer, sink)) :
    p.step = (answer.map fun _ => .stall, { p with sink }) := by
  simp only [step, free, mute, Bool.false_eq_true, if_false, negotiate, asked]
  cases answer <;> rfl

/-- The number of the picture goes on with every frame, the counts with those that do not fail. -/
theorem step_of_publish {p : Pipeline σ} (free : p.verdict? = none)
    (publishes : p.source.publish = true) {frame : Bytes}
    (shown : frame = testFrame p.source.width.toNat p.source.height.toNat p.rendered)
    {answer : Except ProducerError PublishOutcome} {sink : σ}
    (asked : FrameSink.publish p.sink frame p.source.width p.source.height = (answer, sink)) :
    p.step = (answer.map fun _ => .continue,
      { p with sink, rendered := p.rendered + 1, counts := p.counts.note answer }) := by
  simp only [step, free, publishes, if_true, render, ← shown, asked]
  cases answer <;> rfl

/-- **What a step can do**: reach a limit, negotiate, or pass on the next frame. -/
theorem step_cases (p : Pipeline (Watched σ)) :
    (∃ verdict, p.verdict? = some verdict ∧ p.step = (.ok verdict, p)) ∨
    (p.verdict? = none ∧ p.source.publish = false ∧
      ∃ answer sink, FrameSink.negotiate p.sink.sink p.source.frameLength = (answer, sink) ∧
        p.step = (answer.map fun _ => .stall,
          { p with sink := p.sink.noted sink (.negotiated p.source.frameLength answer) })) ∨
    (p.verdict? = none ∧ p.source.publish = true ∧
      ∃ frame answer sink,
        frame = testFrame p.source.width.toNat p.source.height.toNat p.rendered ∧
        FrameSink.publish p.sink.sink frame p.source.width p.source.height = (answer, sink) ∧
        p.step = (answer.map fun _ => .continue,
          { p with
            sink := p.sink.noted sink
              (.published ⟨frame, p.source.width, p.source.height, answer⟩)
            rendered := p.rendered + 1
            counts := p.counts.note answer })) := by
  cases free : p.verdict? with
  | some verdict => exact .inl ⟨verdict, rfl, step_of_verdict free⟩
  | none =>
      refine .inr ?_
      cases publish : p.source.publish with
      | false =>
          exact .inl ⟨rfl, rfl, _, _, rfl, step_of_negotiate free publish (Watched.negotiate_eq rfl)⟩
      | true =>
          exact .inr ⟨rfl, rfl, _, _, _, rfl, rfl,
            step_of_publish free publish rfl (Watched.publish_eq rfl)⟩

/-- Under watch, a step does what it does without. -/
theorem forget_step (p : Pipeline (Watched σ)) : p.forget.step = (p.step.1, p.step.2.forget) := by
  rcases p.step_cases with ⟨verdict, reached, done⟩ | ⟨free, mute, answer, sink, asked, done⟩ |
    ⟨free, publishes, frame, answer, sink, shown, asked, done⟩
  · rw [done]
    exact step_of_verdict reached
  · rw [done]
    exact step_of_negotiate (p := p.forget) free mute asked
  · rw [done]
    exact step_of_publish (p := p.forget) free publishes shown asked

/-- **Under watch, a pipeline does what it does without**, for any number of steps. -/
theorem forget_stepped (p : Pipeline (Watched σ)) (n : Nat) :
    (p.stepped n).forget = p.forget.stepped n := by
  induction n with
  | zero => rfl
  | succ n ih => rw [stepped, stepped, ← ih, forget_step]

/-- **A step keeps the accounts.** -/
theorem Accounted.step {source : SyntheticSource} {p : Pipeline (Watched σ)} (h : Accounted source p) :
    Accounted source p.step.2 := by
  obtain ⟨rfl, frames, counts⟩ := h
  rcases p.step_cases with ⟨verdict, -, done⟩ | ⟨-, -, answer, sink, -, done⟩ |
    ⟨-, -, frame, answer, sink, shown, -, done⟩
  · rw [done]
    exact ⟨rfl, frames, counts⟩
  · rw [done]
    refine ⟨rfl, ?_, ?_⟩
    · rw [Watched.noted, publishings_append, publishings_negotiated, List.append_nil]
      exact frames
    · rw [Watched.noted, outcomes_append, outcomes_negotiated, List.append_nil]
      exact counts
  · rw [done]
    refine ⟨rfl, ?_, ?_⟩
    · rw [Watched.noted, publishings_append, publishings_published, List.map_append, frames,
        List.range_succ, List.map_append, shown]
      rfl
    -- The number of the picture has gone on already; only the answer decides whether it is counted.
    · rw [Watched.noted, outcomes_append]
      cases answer with
      | error e =>
          rw [PipelineCounts.note, counts]
          exact congrArg _ (List.append_nil _).symm
      | ok outcome =>
          rw [PipelineCounts.note, counts]
          exact (PipelineCounts.ofOutcomes_append_singleton _ outcome).symm

/-- **Every number of steps keeps the accounts.** -/
theorem accounted_stepped (source : SyntheticSource) (sink : σ) (n : Nat) :
    Accounted source ((watched source sink).stepped n) := by
  induction n with
  | zero => exact accounted_watched source sink
  | succ n ih => exact ih.step

end Pipeline

end FrameMux
