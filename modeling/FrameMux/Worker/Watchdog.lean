/-
**The watchdog.**

An alive worker has to go when its producer reported its exit, when it has negotiated but shown no
activity for longer than the staleness window, or when it has not negotiated within its time.

Main definitions:

* `FrameMux.Worker.verdict?` — the event that the watchdog raises.

Main results:

* `FrameMux.Worker.verdict?_of_state` — only alive workers are judged.
-/

import FrameMux.Config.Basic
import FrameMux.Worker.Basic

set_option relaxedAutoImplicit false
set_option autoImplicit false

namespace FrameMux

namespace Worker

/-- Since when a worker has been without activity, and for how long it may be. -/
def patience (w : Worker) (policy : Policy) : Instant × Duration :=
  if w.negotiated then (w.lastActivity, policy.staleness) else (w.since, policy.negotiation)

/-- The event that the watchdog raises. -/
def verdict? (w : Worker) (policy : Policy) (now : Instant) : Option LifecycleEvent :=
  if w.state ≠ .alive then none
  else if w.exitReported then some .pipelineExited
  else if (w.patience policy).2 < now.since (w.patience policy).1 then some .stale
  else none

/-- Only alive workers are judged. -/
theorem verdict?_of_state {w : Worker} (h : w.state ≠ .alive) (policy : Policy) (now : Instant) :
    w.verdict? policy now = none := by
  simp [verdict?, h]

end Worker

end FrameMux
