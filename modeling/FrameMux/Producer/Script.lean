/-
**A sink that follows a script.**

To rehearse a pipeline without memory or sockets, a scripted sink answers every negotiation and
every frame with the next outcome of its script, and keeps what it was asked to do.

Main definitions:

* `FrameMux.SinkOutcome` — what the sink answers next;
* `FrameMux.SinkCall` — what the sink was asked;
* `FrameMux.ScriptedSink` — the script and the calls so far.
-/

import FrameMux.Producer.Pipeline

set_option relaxedAutoImplicit false
set_option autoImplicit false

namespace FrameMux

/-- What a scripted sink answers. -/
inductive SinkOutcome where
  | publish (outcome : PublishOutcome)
  | fails (text : String)
  | violates (text : String)
deriving DecidableEq, Repr

/-- The outcome that a script entry names; unknown entries are protocol violations. -/
def SinkOutcome.ofText (text : String) : SinkOutcome :=
  if text = "published" then .publish .published
  else if text = "replaced" then .publish .replaced
  else if text = "busy" then .publish .busy
  else if text = "io" then .fails "scripted io"
  else .violates text

/-- The answer as a result. -/
def SinkOutcome.result : SinkOutcome → Except ProducerError PublishOutcome
  | publish outcome => .ok outcome
  | fails text => .error (.failed text)
  | violates text => .error (.channel (.protocol (.reported text)))

/-- What a scripted sink was asked. -/
inductive SinkCall where
  | announced (mask : EventMask)
  | negotiated (capacity : Nat)
  | published (data : Bytes) (width height : UInt32)
deriving DecidableEq, Repr

/-- The outcomes to come and the calls so far. -/
structure ScriptedSink where
  outcomes : List SinkOutcome
  calls : List SinkCall
deriving DecidableEq, Repr, Inhabited

namespace ScriptedSink

/-- Answers a call with the next outcome; an exhausted script publishes. -/
def answer (s : ScriptedSink) (call : SinkCall) :
    Except ProducerError PublishOutcome × ScriptedSink :=
  ((s.outcomes.head?.getD (.publish .published)).result,
    ⟨s.outcomes.tail, s.calls ++ [call]⟩)

instance : FrameSink ScriptedSink where
  announce s mask := (.ok (), { s with calls := s.calls ++ [.announced mask] })
  negotiate s capacity :=
    ((s.answer (.negotiated capacity)).1.map fun _ => (), (s.answer (.negotiated capacity)).2)
  publish s data width height := s.answer (.published data width height)

end ScriptedSink

end FrameMux
