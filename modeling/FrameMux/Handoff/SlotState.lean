/-
**The state word of a frame slot.**

A slot holds one frame and a word that says who may touch it.  The producer claims an empty slot, or
a ready one whose frame it replaces; the reader claims a ready one.

Main definitions:

* `FrameMux.SlotState` — the four states;
* `FrameMux.SlotState.raw`, `FrameMux.SlotState.ofRaw?` — their words.

Main results:

* `FrameMux.SlotState.ofRaw?_raw`, `FrameMux.SlotState.ofRaw?_eq_some_iff` — a word names a state
  exactly when it is that state's word.
-/

set_option relaxedAutoImplicit false
set_option autoImplicit false

namespace FrameMux

/-- Who may touch a slot. -/
inductive SlotState where
  | empty
  | ready
  | writing
  | reading
deriving DecidableEq, Repr, Inhabited

namespace SlotState

/-- The word of a state. -/
def raw : SlotState → UInt32
  | empty => 0
  | ready => 1
  | writing => 2
  | reading => 3

/-- The state of a word; other words name none. -/
def ofRaw? (w : UInt32) : Option SlotState :=
  if w = 0 then some empty
  else if w = 1 then some ready
  else if w = 2 then some writing
  else if w = 3 then some reading
  else none

/-- The name of a state. -/
def name : SlotState → String
  | empty => "Empty"
  | ready => "Ready"
  | writing => "Writing"
  | reading => "Reading"

/-- The state with a name. -/
def ofName? (text : String) : Option SlotState :=
  [empty, ready, writing, reading].find? fun s => s.name = text

@[simp] theorem ofRaw?_raw (s : SlotState) : ofRaw? s.raw = some s := by
  cases s <;> rfl

/-- A word names a state exactly when it is the word of that state. -/
theorem ofRaw?_eq_some_iff {w : UInt32} {s : SlotState} : ofRaw? w = some s ↔ w = s.raw := by
  constructor
  · intro h
    unfold ofRaw? at h
    repeat' split at h
    all_goals simp_all [raw]
    all_goals subst h; rfl
  · rintro rfl
    exact ofRaw?_raw s

end SlotState

end FrameMux
