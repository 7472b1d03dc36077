/-
**The producer's pipeline.**

A pipeline renders the test picture of its source, frame by frame, into a sink.  Limits of the
source come first: a crash before the end, the end before a stall.  A source that must not publish
only negotiates its slot and stalls.

Main definitions:

* `FrameMux.FrameSink` — what a pipeline needs of the place that its frames go to;
* `FrameMux.Pipeline` — source, sink and counts;
* `FrameMux.Pipeline.verdict?` — **whether a limit is reached**, and which;
* `FrameMux.Pipeline.step` — one frame;
* `FrameMux.Pipeline.run` — frames until one step does not continue;
* `FrameMux.Pipeline.runPaced` — **a run at the rate of the source**.

Main results:

* `FrameMux.Pipeline.step_of_verdict` — a reached limit ends the step without touching the sink.
-/

import FrameMux.Handoff.Slot
import FrameMux.Producer.Error
import FrameMux.Producer.Pattern

set_option relaxedAutoImplicit false
set_option autoImplicit false

namespace FrameMux

/-- The place that frames go to: it announces events, negotiates a slot, and takes frames. -/
class FrameSink (σ : Type) where
  announce : σ → EventMask → Except ProducerError Unit × σ
  negotiate : σ → Nat → Except ProducerError Unit × σ
  publish : σ → Bytes → UInt32 → UInt32 → Except ProducerError PublishOutcome × σ

/-- How a step of a pipeline ended. -/
inductive Progress where
  | continue
  | stall
  | crash
  | finished
deriving DecidableEq, Repr, Inhabited

/-- The name of a progress. -/
def Progress.name : Progress → String
  | .continue => "Continue"
  | .stall => "Stall"
  | .crash => "Crash"
  | .finished => "Finished"

/-- The frames of a pipeline, by the outcome of publishing.  The counts start at zero and go up by one
with a frame, so they are naturals here: only after `2 ^ 64` frames would a 64-bit word differ. -/
structure PipelineCounts where
  produced : Nat
  published : Nat
  replaced : Nat
  busy : Nat
deriving DecidableEq, Repr, Inhabited

/-- Counts one more frame. -/
def PipelineCounts.record (c : PipelineCounts) (outcome : PublishOutcome) : PipelineCounts :=
  let c := { c with produced := c.produced + 1 }
  match outcome with
  | .published => { c with published := c.published + 1 }
  | .replaced => { c with replaced := c.replaced + 1 }
  | .busy => { c with busy := c.busy + 1 }

/-- A source with a sink; `rendered` numbers the next frame of the picture, and counts like the
others. -/
structure Pipeline (σ : Type) where
  source : SyntheticSource
  sink : σ
  rendered : Nat
  counts : PipelineCounts

namespace Pipeline

variable {σ : Type}

/-- A pipeline before its first frame. -/
def start (source : SyntheticSource) (sink : σ) : Pipeline σ := ⟨source, sink, 0, ⟨0, 0, 0, 0⟩⟩

/-- Whether as many frames were produced as a limit says. -/
def reached (p : Pipeline σ) (limit : Option UInt64) : Bool :=
  match limit with
  | some n => n.toNat ≤ p.counts.produced
  | none => false

/-- The limit that is reached, if one is. -/
def verdict? (p : Pipeline σ) : Option Progress :=
  if p.reached p.source.crashAfter then some .crash
  else if p.reached p.source.frames then some .finished
  else if p.reached p.source.stallAfter then some .stall
  else none

/-- Negotiates a slot for the frames of the source. -/
def negotiate [FrameSink σ] (p : Pipeline σ) : Except ProducerError Progress × Pipeline σ :=
  match FrameSink.negotiate p.sink p.source.frameLength with
  | (.ok (), sink) => (.ok .stall, { p with sink })
  | (.error e, sink) => (.error e, { p with sink })

/-- Renders the next frame and publishes it. -/
def render [FrameSink σ] (p : Pipeline σ) : Except ProducerError Progress × Pipeline σ :=
  let frame := testFrame p.source.width.toNat p.source.height.toNat p.rendered
  let p := { p with rendered := p.rendered + 1 }
  match FrameSink.publish p.sink frame p.source.width p.source.height with
  | (.ok outcome, sink) => (.ok .continue, { p with sink, counts := p.counts.record outcome })
  | (.error e, sink) => (.error e, { p with sink })

/-- One step: a reached limit, or a negotiation, or a frame. -/
def step [FrameSink σ] (p : Pipeline σ) : Except ProducerError Progress × Pipeline σ :=
  match p.verdict? with
  | some verdict => (.ok verdict, p)
  | none => if p.source.publish then p.render else p.negotiate

/-- Steps until one does not continue, at most `fuel` of them. -/
def run [FrameSink σ] : Nat → Pipeline σ → Except ProducerError Progress × Pipeline σ
  | 0, p => (.ok .continue, p)
  | fuel + 1, p =>
      match p.step with
      | (.ok .continue, p) => run fuel p
      | result => result

/-- A run at the rate of the source, of at most `fuel` steps.  A clock without a period does not start:
the producer breaks down, and there is no run. -/
def runPaced [FrameSink σ] (fuel : Nat) (p : Pipeline σ) :
    Option (Except ProducerError Progress × Pipeline σ) :=
  if p.source.frameInterval.nanos = 0 then none else some (p.run fuel)

/-- The least of the limits that are set. -/
def limit? (source : SyntheticSource) : Option Nat :=
  (([source.crashAfter, source.frames, source.stallAfter].filterMap id).map UInt64.toNat).min?

/-- As many steps as a run can take before a limit ends it. -/
def runFuel (p : Pipeline σ) : Nat := (limit? p.source).getD 0 + 1

/-- A reached limit ends the step without touching the sink. -/
theorem step_of_verdict [FrameSink σ] {p : Pipeline σ} {verdict : Progress}
    (h : p.verdict? = some verdict) : p.step = (.ok verdict, p) := by
  simp [step, h]

end Pipeline

end FrameMux
