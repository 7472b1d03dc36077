/-
**Sources and their numbers.**

A configured source is a URL with a number; on the command line it is written `ID=URL`.

Main definitions:

* `FrameMux.Source` — a numbered URL;
* `FrameMux.AssignmentError` — why a text assigns no source;
* `FrameMux.Source.ofAssignment` — **the reader** of `ID=URL`.

Main results:

* `FrameMux.Source.ofAssignment_eq_ok_iff` — **what is accepted**: a numeral, an equals sign and a
  URL that is not blank, with white space around either.
-/

import FrameMux.Text.Blank
import FrameMux.Text.Unsigned
import FrameMux.Worker.Id

set_option relaxedAutoImplicit false
set_option autoImplicit false

namespace FrameMux

open FrameMux.Text

/-- A configured source. -/
structure Source where
  id : UInt32
  url : String
deriving DecidableEq, Repr, Inhabited

/-- Why a text assigns no source. -/
inductive AssignmentError where
  | noEquals (text : String)
  | badNumber (text : String) (cause : NumeralError)
  | emptyUrl (id : UInt32)
deriving DecidableEq, Repr

/-- The wording of an assignment error. -/
def AssignmentError.message : AssignmentError → String
  | noEquals text => "source '" ++ text ++ "' is not ID=URL"
  | badNumber text cause => "source id '" ++ text ++ "': " ++ cause.message
  | emptyUrl id => "source " ++ toString id.toNat ++ " has an empty URL"

namespace Source

/-- The worker that serves a source. -/
def worker (s : Source) : WorkerId := ⟨s.id⟩

/-- The source that a text of the form `ID=URL` assigns. -/
def ofAssignment (text : String) : Except AssignmentError Source :=
  match splitFirst? (· == '=') text.toList with
  | none => .error (.noEquals text)
  | some (number, url) =>
      match readU32 (trim number) with
      | .error cause => .error (.badNumber (String.ofList number) cause)
      | .ok id =>
          if (trim url).isEmpty then .error (.emptyUrl id)
          else .ok ⟨id, String.ofList (trim url)⟩

/-- A text assigns a source exactly when a 32-bit numeral stands before its first equals sign and
something not blank behind, white space aside. -/
theorem ofAssignment_eq_ok_iff {text : String} {s : Source} :
    ofAssignment text = .ok s ↔
      ∃ number url, splitFirst? (· == '=') text.toList = some (number, url) ∧
        readU32 (trim number) = .ok s.id ∧ trim url ≠ [] ∧ s.url = String.ofList (trim url) := by
  obtain ⟨sid, surl⟩ := s
  unfold ofAssignment
  constructor
  · intro e
    split at e
    · cases e
    · rename_i number url split
      split at e
      · cases e
      · rename_i id read
        split at e
        · cases e
        · rename_i full
          cases e
          exact ⟨number, url, split, read, by simpa using full, rfl⟩
  · rintro ⟨number, url, split, read, full, rfl⟩
    simp [split, read, full]

end Source

end FrameMux
