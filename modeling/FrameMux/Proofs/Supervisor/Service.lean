/-
**Which worker serves which link.**

A worker serves its link from the moment its process is started until it leaves the zombie state, or
until everything is let go of.  It never comes back to a link, and a frame stays in its cache only as
long as it serves the link that the frame came over.

Main definitions:

* `FrameMux.Supervisor.Serves` — **a worker serves a link**;
* `FrameMux.Supervisor.Relinked` — what a move can do to the links;
* `FrameMux.Supervisor.Fit` — a worker whose process can be started.

Main results:

* `FrameMux.Supervisor.Move.relinked` — every move does one of these;

* `FrameMux.Supervisor.Move.serves_of` — no move makes a worker serve a link that was there before;
* `FrameMux.Supervisor.Move.serves` — a move that ends the service empties the cache;
* `FrameMux.Supervisor.Keeps.serves_iff` — everything else changes no service.
-/

import FrameMux.Proofs.Supervisor.Moves
import FrameMux.Proofs.Supervisor.Passes

set_option relaxedAutoImplicit false
set_option autoImplicit false

namespace FrameMux

/-- The states from the start of a process until it is known to be over. -/
def WorkerState.inService : WorkerState → Bool
  | .alive | .infected | .zombie => true
  | _ => false

/-- A worker goes on within its service, or it starts anew from outside of it. -/
theorem WorkerState.Onward.inService {state state' : WorkerState} (h : state.Onward state') :
    state'.inService = state.inService := by
  cases h <;> rfl

namespace Supervisor

variable {σ : Type}

/-- A worker serves a link: it holds the link, and its process is not known to be over. -/
def Serves (s : Supervisor σ) (id : WorkerId) (n : Nat) : Prop :=
  ∃ rec, s.worker? id = some rec ∧ rec.state.inService = true ∧
    rec.channels.map (·.link) = some n

/-- Whether a worker serves a link only depends on its record. -/
theorem serves_congr {s s' : Supervisor σ} {id : WorkerId} (same : s'.worker? id = s.worker? id)
    (n : Nat) : s'.Serves id n ↔ s.Serves id n := by
  unfold Serves
  rw [same]

/-- A worker whose record is known. -/
theorem serves_iff {s : Supervisor σ} {id : WorkerId} {rec : Worker}
    (known : s.worker? id = some rec) (n : Nat) :
    s.Serves id n ↔ rec.state.inService = true ∧ rec.channels.map (·.link) = some n := by
  constructor
  · rintro ⟨rec', known', serving⟩
    obtain rfl : rec = rec' := Option.some.inj (known.symm.trans known')
    exact serving
  · exact fun serving => ⟨rec, known, serving⟩

/-- A worker whose record was changed without its state and its link. -/
theorem serves_of_kept {s s' : Supervisor σ} {id : WorkerId} {v rec : Worker}
    (known : s.worker? id = some v) (known' : s'.worker? id = some rec)
    (state : rec.state.inService = v.state.inService) (channels : rec.channels = v.channels)
    (n : Nat) : s'.Serves id n ↔ s.Serves id n := by
  rw [serves_iff known, serves_iff known', state, channels]

/-- What only changes marks changes no service. -/
theorem Keeps.serves_iff {s s' : Supervisor σ} (h : Keeps s s') (id : WorkerId) (n : Nat) :
    s'.Serves id n ↔ s.Serves id n := by
  cases before : s.worker? id with
  | none =>
      constructor
      · rintro ⟨rec, known, serving, -⟩
        obtain ⟨source, now, rfl⟩ := h.added id rec known before
        cases serving
      · rintro ⟨rec, known, -⟩
        rw [before] at known
        cases known
  | some v =>
      obtain ⟨rec, known, kept⟩ := h.kept id v before
      rw [Supervisor.serves_iff known, Supervisor.serves_iff before, kept.state, kept.link]

/-- A worker whose region is looked into serves its link. -/
theorem Waits.serves {s : Supervisor σ} {id : WorkerId} {w : Worker} {n file : Nat} {link : Link}
    (waits : s.Waits id w n file link) : s.Serves id n := by
  refine ⟨w, waits.known, ?_, ?_⟩
  · rw [waits.alive]
    rfl
  · rw [waits.holds]
    rfl

/-- Letting go of a worker's link and of its frame. -/
theorem frames_letGo (s : Supervisor σ) (id : WorkerId) :
    ((s.releaseChannels id).resetCache id).frames = s.frames.reset id := by
  show FrameStore.reset (s.releaseChannels id).frames id = _
  rw [(linksOnly_releaseChannels s id).frames]

variable [ProcessManager σ]

/-- A move leaves the caches alone or empties the one of its worker. -/
theorem Move.frames {id : WorkerId} {s s' : Supervisor σ} (h : Move id s s') :
    s'.frames = s.frames ∨ s'.frames = s.frames.reset id := by
  cases h with
  | bury now => exact Or.inr (frames_letGo (s.enter id .purged now) id)
  | letGo => exact Or.inr (frames_letGo s id)
  | release => exact Or.inl (linksOnly_releaseChannels s id).frames
  | @spawned w started => exact Or.inl (linksOnly_adopt _ w started).frames
  | _ => exact Or.inl rfl

/-- No move makes a worker serve a link that was there before. -/
theorem Move.serves_of {id : WorkerId} {s s' : Supervisor σ} (h : Move id s s')
    (named : s.Named id) {other : WorkerId} {n : Nat} (old : n < s.links.length)
    (serves : s'.Serves other n) : s.Serves other n := by
  by_cases same : other = id
  · subst same
    cases h with
    | enter now known onward =>
        exact (serves_of_kept known (record_enter known _ now) onward.inService rfl n).1 serves
    | kill known => exact (serves_congr rfl n).1 serves
    | reapRunning known => exact (serves_congr rfl n).1 serves
    | reapDead known =>
        exact (serves_of_kept known (record_forgetPid known) rfl rfl n).1 serves
    | bury now known =>
        have purged := record_enter known .purged now
        have record := record_enter (record_releaseChannels purged) .buried now
        cases ((serves_iff record n).1 serves).1
    | release now known =>
        have record := record_enter (record_releaseChannels known) .buried now
        cases ((serves_iff record n).1 serves).1
    | letGo =>
        obtain ⟨rec, known, -, held⟩ := serves
        rw [worker?_resetCache, worker?_releaseChannels, if_pos rfl] at known
        obtain ⟨v, -, rfl⟩ := Option.map_eq_some_iff.1 known
        cases held
    | spawnFailed now known =>
        exact (serves_of_kept known (record_attempted known now _) rfl rfl n).1 serves
    | @spawned rec started now known creating =>
        -- The link that it serves now is a new one.
        obtain rfl : rec.id = other := named rec known
        have attempted := record_attempted known now rec.source
        have record := record_enter (record_adopt attempted started) .alive now
        have latest : some s.links.length = some n := ((serves_iff record n).1 serves).2
        cases latest
        exact absurd old (Nat.lt_irrefl _)
  · exact (serves_congr (h.worker?_of_ne named same) n).1 serves

/-- A move that ends the service of a worker empties its cache. -/
theorem Move.serves {id : WorkerId} {s s' : Supervisor σ} (h : Move id s s') (named : s.Named id)
    {other : WorkerId} {n : Nat} (serves : s.Serves other n) :
    s'.Serves other n ∨ (other = id ∧ s'.frames = s.frames.reset id) := by
  by_cases same : other = id
  · subst same
    cases h with
    | @enter rec state now known onward =>
        have record := record_enter known state now
        exact Or.inl ((serves_of_kept known record onward.inService rfl n).2 serves)
    | kill known => exact Or.inl ((serves_congr rfl n).2 serves)
    | reapRunning known => exact Or.inl ((serves_congr rfl n).2 serves)
    | reapDead known =>
        exact Or.inl ((serves_of_kept known (record_forgetPid known) rfl rfl n).2 serves)
    | bury now => exact Or.inr ⟨rfl, frames_letGo (s.enter other .purged now) other⟩
    | release now known purged =>
        have inService := ((serves_iff known n).1 serves).1
        rw [purged] at inService
        cases inService
    | letGo => exact Or.inr ⟨rfl, frames_letGo s other⟩
    | spawnFailed now known =>
        exact Or.inl ((serves_of_kept known (record_attempted known now _) rfl rfl n).2 serves)
    | spawned now known creating =>
        have inService := ((serves_iff known n).1 serves).1
        rw [creating] at inService
        cases inService
  · exact Or.inl ((serves_congr (h.worker?_of_ne named same) n).2 serves)

/-! ### Links -/

/-- What can become of the links, and of the link that a worker holds: nothing, or the worker lets go
of it, or it gets the next one. -/
inductive Relinked (id : WorkerId) (s s' : Supervisor σ) : Prop
  | kept {rec rec' : Worker} (links : s'.links = s.links) (known : s.worker? id = some rec)
      (known' : s'.worker? id = some rec') (channels : rec'.channels = rec.channels)
      (waiting : rec'.frameWaiting = rec.frameWaiting)
  | released (length : s'.links.length = s.links.length)
      (others : ∀ n, ((s.worker? id).bind (·.channels)).map (·.link) ≠ some n →
        s'.links[n]? = s.links[n]?)
      (unlinked : ∀ rec', s'.worker? id = some rec' → rec'.channels = none)
  | opened {rec' : Worker} {link : Link} (links : s'.links = s.links ++ [link])
      (known' : s'.worker? id = some rec') (holds : rec'.channels = some ⟨s.links.length, none⟩)

omit [ProcessManager σ] in
/-- Letting go of the link that a worker holds. -/
theorem relinked_releaseChannels {s s' : Supervisor σ} {id : WorkerId} (s₀ : Supervisor σ)
    (before : s₀.links = s.links)
    (held : (s₀.worker? id).bind (·.channels) = (s.worker? id).bind (·.channels))
    (links : s'.links = (s₀.releaseChannels id).links)
    (unlinked : ∀ rec', s'.worker? id = some rec' → rec'.channels = none) : Relinked id s s' := by
  refine .released ?_ ?_ unlinked
  · rw [links, length_links_releaseChannels, before]
  · intro n other
    rw [← held] at other
    rw [links, (spares_releaseChannels other).link, before]

/-- The record of a worker bears its identifier, and holds no link while its process is about to be
started. -/
structure Fit (s : Supervisor σ) (id : WorkerId) : Prop where
  named : s.Named id
  apart : ∀ rec, s.worker? id = some rec → rec.state = .creating ∨ rec.state = .buried →
    rec.channels = none

/-- A move leaves its worker fit. -/
theorem Move.fit {id : WorkerId} {s s' : Supervisor σ} (h : Move id s s') (fit : s.Fit id) :
    s'.Fit id := by
  refine ⟨h.named fit.named, ?_⟩
  intro rec' known'
  cases h with
  | @enter rec state now known onward =>
      cases (record_enter known state now).symm.trans known'
      intro starting
      generalize before : rec.state = previous at onward
      cases onward with
      | condemned | killed => rcases starting with starting | starting <;> cases starting
      | rested => exact fit.apart rec known (Or.inr before)
  | kill | reapRunning => exact fit.apart rec' known'
  | @reapDead rec pid known =>
      cases (record_forgetPid known).symm.trans known'
      exact fit.apart rec known
  | bury now known =>
      have purged := record_enter known .purged now
      cases (record_enter (record_releaseChannels purged) .buried now).symm.trans known'
      exact fun _ => rfl
  | release now known =>
      cases (record_enter (record_releaseChannels known) .buried now).symm.trans known'
      exact fun _ => rfl
  | letGo =>
      rw [worker?_resetCache, worker?_releaseChannels, if_pos rfl] at known'
      obtain ⟨rec, -, rfl⟩ := Option.map_eq_some_iff.1 known'
      exact fun _ => rfl
  | @spawnFailed rec now known =>
      cases (record_attempted known now _).symm.trans known'
      exact fit.apart rec known
  | @spawned rec started now known =>
      obtain rfl : rec.id = id := fit.named rec known
      have attempted := record_attempted known now rec.source
      cases (record_enter (record_adopt attempted started) .alive now).symm.trans known'
      rintro (starting | starting) <;> cases starting

/-- So does a chain of moves. -/
theorem Moves.fit {id : WorkerId} {s s' : Supervisor σ} (h : Moves id s s') (fit : s.Fit id) :
    s'.Fit id := by
  induction h with
  | refl _ => exact fit
  | step first _ ih => exact ih (first.fit fit)

/-- **What a move does to the links** of a fit worker. -/
theorem Move.relinked {id : WorkerId} {s s' : Supervisor σ} (h : Move id s s') (fit : s.Fit id) :
    Relinked id s s' := by
  cases h with
  | @enter w state now known => exact .kept rfl known (record_enter known state now) rfl rfl
  | kill known => exact .kept rfl known known rfl rfl
  | reapRunning known => exact .kept rfl known known rfl rfl
  | reapDead known => exact .kept rfl known (record_forgetPid known) rfl rfl
  | spawnFailed now known => exact .kept rfl known (record_attempted known now _) rfl rfl
  | @bury rec now known =>
      have purged := record_enter known .purged now
      have record := record_enter (record_releaseChannels purged) .buried now
      refine relinked_releaseChannels (s.enter id .purged now) rfl ?_ rfl ?_
      · rw [purged, known]
        rfl
      · intro rec' known'
        cases record.symm.trans known'
        rfl
  | release now known =>
      have record := record_enter (record_releaseChannels known) .buried now
      refine relinked_releaseChannels s rfl rfl rfl ?_
      intro rec' known'
      cases record.symm.trans known'
      rfl
  | letGo =>
      refine relinked_releaseChannels s rfl rfl rfl ?_
      intro rec' known'
      rw [worker?_resetCache, worker?_releaseChannels, if_pos rfl] at known'
      obtain ⟨rec, -, rfl⟩ := Option.map_eq_some_iff.1 known'
      rfl
  | @spawned rec started now known creating =>
      obtain rfl : rec.id = id := fit.named rec known
      have attempted := record_attempted known now rec.source
      have record := record_enter (record_adopt attempted started) .alive now
      exact .opened (links_adopt (fit.apart rec known (Or.inl creating)) _ started) record rfl

end Supervisor

end FrameMux
