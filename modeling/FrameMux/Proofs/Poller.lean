/-
**Ready counters.**

The poller reports a counter once for every time it became ready, so a counter that holds something
is lost for good if it is neither ready nor reported.  This module says what each operation does to
the tokens of watched counters and to the ready ones, and that a wait does not lose any.

Main results:

* `FrameMux.Poller.token?_register`, `token?_wake`, `token?_deregister` — what stays watched;
* `FrameMux.Poller.mem_ready_wake` — a watched counter that is woken is ready;
* `FrameMux.Poller.mem_wait` — **a ready counter that holds something** is reported by a wait or stays
  ready;
* `FrameMux.Poller.wait_congr` — what a counter holds that is not watched does not matter.
-/

import FrameMux.Poller

set_option relaxedAutoImplicit false
set_option autoImplicit false

namespace FrameMux

namespace Poller

variable {p : Poller} {counter other : Nat} {token : Token}

/-! ### Watched counters -/

@[simp] theorem watched_wake (p : Poller) (counter : Nat) :
    (p.wake counter).watched = p.watched := by
  unfold wake
  split
  · rfl
  · rfl

/-- Registering a counter puts it behind the others. -/
theorem watched_register (p : Poller) (counter : Nat) (token : Token) (signalled : Bool) :
    (p.register counter token signalled).watched =
      (p.watched.filter fun w => w.1 ≠ counter) ++ [(counter, token)] := by
  unfold register
  dsimp only
  split
  · rw [watched_wake]
  · rfl

@[simp] theorem token?_wake (p : Poller) (counter other : Nat) :
    (p.wake counter).token? other = p.token? other := by
  unfold wake
  split
  · rfl
  · rfl

/-- The other counters are found behind a filter. -/
theorem find?_filter_ne (l : List (Nat × Token)) (h : other ≠ counter) :
    (l.filter fun w => w.1 ≠ counter).find? (fun w => w.1 = other) =
      l.find? fun w => w.1 = other := by
  rw [List.find?_filter]
  refine congrArg (fun q => l.find? q) ?_
  funext w
  by_cases same : w.1 = other
  · simp [same, h]
  · simp [same]

/-- A counter that was let go of is the only one not watched any more. -/
theorem token?_deregister (h : other ≠ counter) :
    (p.deregister counter).token? other = p.token? other := by
  simp only [token?, deregister, find?_filter_ne p.watched h]

/-- The poller that also watches a counter. -/
def watching (p : Poller) (counter : Nat) (token : Token) : Poller :=
  { p with watched := (p.watched.filter fun w => w.1 ≠ counter) ++ [(counter, token)] }

/-- Registering a counter is watching it, and waking it if something is in it. -/
theorem register_eq (p : Poller) (counter : Nat) (token : Token) (signalled : Bool) :
    p.register counter token signalled =
      if signalled then (p.watching counter token).wake counter else p.watching counter token := rfl

theorem token?_watching_self (p : Poller) (counter : Nat) (token : Token) :
    (p.watching counter token).token? counter = some token := by
  have before : (p.watched.filter fun w => w.1 ≠ counter).find? (fun w => w.1 = counter) = none := by
    rw [List.find?_eq_none]
    intro w hw
    simpa using (List.mem_filter.1 hw).2
  simp only [token?, watching, List.find?_append, before]
  simp

/-- A registered counter is watched under its token. -/
theorem token?_register_self (p : Poller) (counter : Nat) (token : Token) (signalled : Bool) :
    (p.register counter token signalled).token? counter = some token := by
  rw [register_eq]
  split
  · rw [token?_wake, token?_watching_self]
  · exact p.token?_watching_self counter token

/-- Registering a counter leaves the tokens of the others alone. -/
theorem token?_register_of_ne (h : other ≠ counter) (token : Token) (signalled : Bool) :
    (p.register counter token signalled).token? other = p.token? other := by
  have watching : (p.watching counter token).token? other = p.token? other := by
    simp only [token?, watching, List.find?_append, find?_filter_ne p.watched h]
    simp [Ne.symm h]
  rw [register_eq]
  split
  · rw [token?_wake, watching]
  · exact watching

/-! ### Ready counters -/

/-- A ready counter stays ready when one is woken. -/
theorem mem_ready_wake_of_mem (h : other ∈ p.ready) (counter : Nat) :
    other ∈ (p.wake counter).ready := by
  unfold wake
  split
  · exact List.mem_append_left _ h
  · exact h

/-- A watched counter that is woken is ready. -/
theorem mem_ready_wake (watched : p.token? counter = some token) :
    counter ∈ (p.wake counter).ready := by
  unfold wake
  split
  · exact List.mem_append_right _ (List.mem_singleton_self _)
  · next already => simpa [watched] using already

/-- A ready counter stays ready when one is registered. -/
theorem mem_ready_register_of_mem (h : other ∈ p.ready) (counter : Nat) (token : Token)
    (signalled : Bool) : other ∈ (p.register counter token signalled).ready := by
  have h : other ∈ (p.watching counter token).ready := h
  rw [register_eq]
  split
  · exact mem_ready_wake_of_mem h counter
  · exact h

/-- A counter that is registered with something in it is ready. -/
theorem mem_ready_register (p : Poller) (counter : Nat) (token : Token) :
    counter ∈ (p.register counter token true).ready :=
  mem_ready_wake (p.token?_watching_self counter token)

/-- A ready counter stays ready when another one is let go of. -/
theorem mem_ready_deregister (h : other ∈ p.ready) (ne : other ≠ counter) :
    other ∈ (p.deregister counter).ready :=
  List.mem_filter.2 ⟨h, by simpa using ne⟩

/-! ### Waiting -/

/-- Going through ready counters, one that holds something is reported or left. -/
theorem mem_collect {signalled : Nat → Bool} (watched : p.token? counter = some token)
    (pending : signalled counter = true) (room : Nat) {ready : List Nat} (h : counter ∈ ready) :
    token ∈ (p.collect signalled room ready).1 ∨ counter ∈ (p.collect signalled room ready).2 := by
  fun_induction collect p signalled room ready with
  | case1 => exact Or.inr h
  | case2 => cases h
  | case3 room first rest unwatched ih =>
      rcases List.mem_cons.1 h with rfl | h
      · rw [watched] at unwatched
        cases unwatched
      · exact ih h
  | case4 room first rest token' watched' holds tokens left eq ih =>
      rw [eq] at ih
      rcases List.mem_cons.1 h with rfl | h
      · rw [watched] at watched'
        cases watched'
        exact Or.inl List.mem_cons_self
      · rcases ih h with reported | left
        · exact Or.inl (List.mem_cons_of_mem _ reported)
        · exact Or.inr left
  | case5 room first rest token' watched' empty ih =>
      rcases List.mem_cons.1 h with rfl | h
      · exact absurd pending empty
      · exact ih h

/-- **A ready counter that holds something** is reported by a wait, or stays ready. -/
theorem mem_wait (signalled : Nat → Bool) (watched : p.token? counter = some token)
    (pending : signalled counter = true) (h : counter ∈ p.ready) :
    token ∈ (p.wait signalled).1 ∨ counter ∈ (p.wait signalled).2.ready :=
  mem_collect watched pending batch h

/-- Counters that are not watched do not matter when ready counters are gone through. -/
theorem collect_congr {signalled signalled' : Nat → Bool}
    (same : ∀ counter, p.token? counter ≠ none → signalled counter = signalled' counter)
    (room : Nat) (ready : List Nat) :
    p.collect signalled room ready = p.collect signalled' room ready := by
  fun_induction collect p signalled room ready with
  | case1 => simp only [collect]
  | case2 => simp only [collect]
  | case3 room first rest unwatched ih => simp only [collect, unwatched, ih]
  | case4 room first rest token watched holds tokens left eq ih =>
      rw [eq] at ih
      have holds' := (same first (by rw [watched]; nofun)).symm.trans holds
      simp only [collect, watched, holds', if_true, ← ih]
  | case5 room first rest token watched empty ih =>
      have empty' := (same first (by rw [watched]; nofun)) ▸ empty
      simp only [collect, watched, if_neg empty', ih]

/-- Nor when it is waited for some. -/
theorem wait_congr (p : Poller) {signalled signalled' : Nat → Bool}
    (same : ∀ counter, p.token? counter ≠ none → signalled counter = signalled' counter) :
    p.wait signalled = p.wait signalled' := by
  unfold wait
  rw [collect_congr same]

end Poller

end FrameMux
