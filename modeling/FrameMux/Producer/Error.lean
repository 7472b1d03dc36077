/-
**What can go wrong in a producer.**

Main definitions:

* `FrameMux.ProducerError` — a source that cannot be served, an error of the hand-off, or a failed
  system operation;
* `FrameMux.ProducerError.message` — its wording.
-/

import FrameMux.Handoff.Error
import FrameMux.Source.Synthetic

set_option relaxedAutoImplicit false
set_option autoImplicit false

namespace FrameMux

/-- Any error of a producer. -/
inductive ProducerError where
  | source (cause : SourceError)
  | channel (cause : ChannelError)
  | failed (text : String)
deriving DecidableEq, Repr

/-- The wording of a producer error. -/
def ProducerError.message : ProducerError → String
  | source cause => cause.message
  | channel cause => "Frame channel error: " ++ cause.message
  | failed text => "IO error: " ++ text

end FrameMux
