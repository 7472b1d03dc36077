/-
**The multiplexer.**

What a consumer sees: frames to pull and release, and reports.  Behind it are the supervisor and the
throughput meter.

Main definitions:

* `FrameMux.Mux` — supervisor, meter and configuration;
* `FrameMux.Mux.create` — **a multiplexer** for a valid configuration;
* `FrameMux.Mux.pullOne`, `pullBatch`, `release` — the consumer's calls;
* `FrameMux.Mux.pump` — the events that are waiting;
* `FrameMux.Mux.shutdown`, `FrameMux.Mux.abandon` — the two ends.

Main results:

* `FrameMux.Mux.create_error_of_invalid` — an invalid configuration makes no multiplexer.
-/

import FrameMux.Frame.Meter
import FrameMux.Supervisor.Dispatch

set_option relaxedAutoImplicit false
set_option autoImplicit false

namespace FrameMux

/-- Supervisor, meter and configuration. -/
structure Mux (σ : Type) where
  supervisor : Supervisor σ
  meter : ThroughputMeter
  config : Config

namespace Mux

variable {σ : Type}

/-- Supervises the sources of a configuration, each with a cache. -/
def addSources (now : Instant) :
    List Source → Supervisor σ → Except MuxError (Supervisor σ)
  | [], s => .ok s
  | source :: rest, s =>
      match s.addWorker source.worker source.url now with
      | .error e => .error e
      | .ok s => addSources now rest (s.addCache source.worker)

/-- A multiplexer for a configuration, nothing started yet. -/
def create (config : Config) (manager : σ) (now : Instant) : Except MuxError (Mux σ) :=
  match config.check with
  | .error e => .error e
  | .ok () =>
      (addSources now config.sources (Supervisor.start manager config.policy)).map fun supervisor =>
        ⟨supervisor, .start now, config⟩

/-- Changes the supervisor. -/
def mapSupervisor (m : Mux σ) (f : Supervisor σ → Supervisor σ) : Mux σ :=
  { m with supervisor := f m.supervisor }

/-- Replaces the frame caches. -/
def withFrames (m : Mux σ) (frames : FrameStore) : Mux σ :=
  m.mapSupervisor fun s => { s with frames }

/-- The frame of the most neglected source; the consumer has to release it. -/
def pullOne (m : Mux σ) (now : Instant) : Option Frame × Mux σ :=
  match m.supervisor.frames.pullOne with
  | (none, _) => (none, m)
  | (some frame, frames) => (some frame, { m.withFrames frames with meter := m.meter.record 1 now })

/-- Exactly `n` frames, the oldest first, or none. -/
def pullBatch (m : Mux σ) (n : Nat) (now : Instant) : Option (List Frame) × Mux σ :=
  match m.supervisor.frames.pullBatch n with
  | (none, _) => (none, m)
  | (some batch, frames) =>
      (some batch, { m.withFrames frames with meter := m.meter.record batch.length now })

/-- Gives a source's frame back; that also counts as activity of its worker. -/
def release (m : Mux σ) (id : WorkerId) (now : Instant) : Except MuxError (Mux σ) :=
  match m.supervisor.frames.release? id with
  | none => .error (.unknownWorker id)
  | some frames => .ok ((m.withFrames frames).mapSupervisor fun s => s.noteRelease id now)

/-- The frames that a consumer takes in one go: a batch, or a single one if the batch is empty.
They are released at once. -/
def consume (m : Mux σ) (batch : Nat) (now : Instant) : List Frame × Mux σ :=
  let (frames, m) :=
    if batch = 0 then ((m.pullOne now).1.toList, (m.pullOne now).2)
    else ((m.pullBatch batch now).1.getD [], (m.pullBatch batch now).2)
  (frames, frames.foldl (fun m f => (m.release f.worker now).toOption.getD m) m)

/-- Dispatches tokens in order. -/
def dispatchAll (mmap : Mmap) (tokens : List Token) (s : Supervisor σ) :
    List (Token × Option EventMask) × Supervisor σ :=
  tokens.foldl (fun (seen, s) token =>
    let (mask, s) := s.dispatch token mmap
    (seen ++ [(token, mask)], s)) ([], s)

/-- Waits without blocking and dispatches what is there, in the order of the tokens. -/
def pumpSupervisor (mmap : Mmap) (s : Supervisor σ) :
    List (Token × Option EventMask) × Supervisor σ :=
  let (tokens, s) := s.wait
  dispatchAll mmap (tokens.mergeSort Token.before) s

/-- Waits without blocking and dispatches what is there. -/
def pump (mmap : Mmap) (m : Mux σ) : List (Token × Option EventMask) × Mux σ :=
  let (seen, supervisor) := pumpSupervisor mmap m.supervisor
  (seen, { m with supervisor })

/-- One turn of all activities: life cycle, events, frames.  The activities are threads of their own.
A pass over the frames that ends in the middle ends its thread, and no frames are read any more; the
others go on with the state that it left, which the next turn stands for only up to there. -/
def turn [ProcessManager σ] (mmap : Mmap) (m : Mux σ) (now : Instant) : Mux σ :=
  let m := m.mapSupervisor fun s => s.tick now
  (m.pump mmap).2.mapSupervisor fun s => (s.readFrames now).2

/-- How often an orderly end looks for processes that are over. -/
def shutdownRounds : Nat := 200

/-- The orderly end: kill, reap until nothing remains, let go. -/
def shutdown [ProcessManager σ] (m : Mux σ) : Mux σ :=
  m.mapSupervisor fun s => s.shutdown shutdownRounds

/-- The abrupt end: kill, reap once, let go. -/
def abandon [ProcessManager σ] (m : Mux σ) : Mux σ := m.mapSupervisor fun s => s.shutdown 1

/-- An invalid configuration makes no multiplexer. -/
theorem create_error_of_invalid {config : Config} {e : MuxError} (h : config.check = .error e)
    (manager : σ) (now : Instant) : create config manager now = .error e := by
  simp [create, h]

end Mux

end FrameMux
