/-
**The producer process.**

A producer announces that it started, serves its source, and announces that it ends.  It ends well
when its source does or when it is interrupted, with an error code when its source is bad or its
multiplexer is gone, and without a word when it crashes, breaks down or is killed.

Main definitions:

* `FrameMux.StopRule` — when a producer is stopped from outside, and how;
* `FrameMux.ProducerRun` — how it ended, and the link it left behind;
* `FrameMux.serve` — a producer up to where it waits or ends by itself;
* `FrameMux.runProducer` — **a whole run** over a link.
-/

import FrameMux.Process.Basic
import FrameMux.Producer.Sink

set_option relaxedAutoImplicit false
set_option autoImplicit false

namespace FrameMux

/-- When a producer is stopped: once these events were announced and that many frames published. -/
structure StopRule where
  events : EventMask
  published : Nat
  interrupt : Bool
deriving DecidableEq, Repr

/-- How a producer ended, and its link. -/
structure ProducerRun where
  status : ReapStatus
  link : Link
deriving DecidableEq, Repr

namespace ProducerRun

/-- The exit code of a producer that reports an error. -/
def errorCode : Int := 1

/-- The exit code of a producer that breaks down. -/
def breakdownCode : Int := 101

/-- The exit code for arguments that are not understood. -/
def usageCode : Int := 2

/-- The signal of a process that aborts itself. -/
def abortSignal : Int := 6

/-- The signal of a process that is killed. -/
def killSignal : Int := 9

end ProducerRun

/-- The report of a producer's end, whether or not it gets through. -/
def reportExit (link : Link) : Link := (link.announce (.ofEvent .pipelineExited)).2

/-- Whether a source text can follow its option on a command line. -/
def isArgumentValue (source : String) : Bool := !source.startsWith "-" || source = "-"

/-- How far a producer has come on its own: it waits or goes on, it has ended, or it has broken down in
the middle of a call, at a sum that is no word. -/
inductive Serving where
  | running
  | ended (status : ReapStatus)
  | stopped
deriving DecidableEq, Repr

/-- How many steps a source takes up to its limit, or `enough` of them if it has none. -/
def stepBound (source : SyntheticSource) (enough : Nat) : Nat :=
  ((Pipeline.limit? source).getD enough) + 1

/-- A started producer serves its source, for `enough` frames if the source sets no limit. -/
def serveSource (mmap : Mmap) (link : Link) (source : SyntheticSource) (enough : Nat) :
    Serving × Link :=
  match (Pipeline.start source (⟨link, mmap⟩ : ShmSink)).runPaced (stepBound source enough) with
  | none => (.ended (.exited ProducerRun.breakdownCode), link)
  | some (.error (.channel .overflow), p) => (.stopped, p.sink.link)
  | some (.error _, p) => (.ended (.exited ProducerRun.errorCode), reportExit p.sink.link)
  | some (.ok .crash, p) => (.ended (.signaled ProducerRun.abortSignal), p.sink.link)
  | some (.ok .finished, p) => (.ended (.exited 0), reportExit p.sink.link)
  | some (.ok .stall, p) => (.running, p.sink.link)
  | some (.ok .continue, p) => (.running, p.sink.link)

/-- A producer starts and serves the source that a text names. -/
def serve (mmap : Mmap) (link : Link) (sourceText : String) (enough : Nat) : Serving × Link :=
  if !isArgumentValue sourceText then (.ended (.exited ProducerRun.usageCode), link)
  else
    match link.announce (.ofEvent .childStarted) with
    | (.error _, link) => (.ended (.exited ProducerRun.errorCode), link)
    | (.ok (), link) =>
        match SyntheticSource.parse sourceText with
        -- The multiplexer hears of the end also when the source was no source.
        | .error _ => (.ended (.exited ProducerRun.errorCode), reportExit link)
        | .ok source => serveSource mmap link source enough

/-- Runs a producer over a link up to its end; one that does not end by itself is stopped. -/
def runProducer (mmap : Mmap) (link : Link) (sourceText : String) (stop : Option StopRule) :
    ProducerRun :=
  match serve mmap link sourceText ((stop.map (·.published)).getD 0) with
  | (.ended status, link) => ⟨status, link⟩
  | (.stopped, link) => ⟨.exited ProducerRun.breakdownCode, link⟩
  | (.running, link) =>
      if (stop.map (·.interrupt)).getD true then ⟨.exited 0, reportExit link⟩
      else ⟨.signaled ProducerRun.killSignal, link⟩

end FrameMux
