/-
**What there is to see of a worker.**

Links are numbered in the order in which processes were started, and frames in the order in which
they were stored, so these numbers depend on all workers.  Everything else in the record of a worker,
in the link that it holds and in its cache is in its view.  This module says what each operation does
to the view of the worker that it is about, and when the view of another worker stays.

Main definitions:

* `FrameMux.WorkerView` — **what there is to see** of a worker;
* `FrameMux.Supervisor.view` — the view of a worker in a supervisor;
* `FrameMux.Worker.Blind` — changes of a record that do not look at the number of the link.

Main results:

* `FrameMux.Supervisor.view_modifyWorker` and the like — what an operation does to the view;
* `FrameMux.Supervisor.view_congr` — when the view stays;
* `FrameMux.Supervisor.twins_of_view` — the same view means the same record up to the number of the
  link;
* `FrameMux.Supervisor.view_dispatch`, `view_readWorker` — **an event and a look at a region** come
  to the same for a worker that looks the same;
* `FrameMux.Supervisor.Move.view_of_ne` — **a move for one worker** leaves the view of another.
-/

import FrameMux.Proofs.Frame.Cached
import FrameMux.Proofs.Supervisor.Service

set_option relaxedAutoImplicit false
set_option autoImplicit false

namespace FrameMux

/-! ### Views -/

namespace Worker

/-- The record with another number for the link, if there is one. -/
def renumber (n : Nat) (w : Worker) : Worker :=
  { w with channels := w.channels.map fun c => { c with link := n } }

/-- The record without the number of the link. -/
def unnumbered (w : Worker) : Worker := w.renumber 0

/-- A change of a record that does not look at the number of the link, and keeps it. -/
structure Blind (f : Worker → Worker) : Prop where
  unnumbered : ∀ w, (f w).unnumbered = f w.unnumbered
  link : ∀ w, (f w).channels.map (·.link) = w.channels.map (·.link)

/-- Records that only differ in the number of the link. -/
theorem eq_renumber_of_unnumbered {w v : Worker} (h : w.unnumbered = v.unnumbered) :
    ∃ n, v = w.renumber n := by
  obtain ⟨id, source, state, since, pid, generation, channels, waiting, reported, lastFrame,
    lastRelease, lastSpawn, published, taken, received, dropped, restarts⟩ := w
  obtain ⟨id', source', state', since', pid', generation', channels', waiting', reported', lastFrame',
    lastRelease', lastSpawn', published', taken', received', dropped', restarts'⟩ := v
  simp only [unnumbered, renumber, Worker.mk.injEq] at h
  obtain ⟨rfl, rfl, rfl, rfl, rfl, rfl, same, rfl, rfl, rfl, rfl, rfl, rfl, rfl, rfl, rfl, rfl⟩ := h
  cases channels with
  | none =>
      cases channels' with
      | none => exact ⟨0, rfl⟩
      | some c' => cases same
  | some c =>
      cases channels' with
      | none => cases same
      | some c' =>
          obtain ⟨n, reader⟩ := c
          obtain ⟨n', reader'⟩ := c'
          simp only [Option.map_some, Option.some.injEq, WorkerLink.mk.injEq, true_and] at same
          exact ⟨n', by rw [same]; rfl⟩

theorem renumber_of_unlinked {w : Worker} (unlinked : w.channels = none) (n : Nat) :
    w.renumber n = w := by
  rw [renumber, unlinked, Option.map_none, ← unlinked]

theorem reader?_renumber (n : Nat) (w : Worker) : (w.renumber n).reader? = w.reader? := by
  unfold reader? renumber
  cases w.channels <;> rfl

/-- The watchdog does not look at the number of the link. -/
theorem verdict?_renumber (n : Nat) (w : Worker) (policy : Policy) (now : Instant) :
    (w.renumber n).verdict? policy now = w.verdict? policy now := by
  have negotiated : (w.renumber n).negotiated = w.negotiated := by
    rw [Worker.negotiated, reader?_renumber, Worker.negotiated]
  unfold verdict? patience
  rw [negotiated]
  rfl

end Worker

/-- The cache without the number and the age of the frame. -/
def CachedFrame.unnumbered (e : CachedFrame) : CachedFrame := { e with fid := 0, age := 0 }

/-- What there is to see of a worker: its record, the link that it holds, and its cache. -/
structure WorkerView where
  record : Option Worker
  link : Option Link
  cache : Option CachedFrame
deriving DecidableEq

namespace Supervisor

variable {σ : Type} {s s' : Supervisor σ} {id other : WorkerId}

/-- The number of the link that a worker holds. -/
def held? (s : Supervisor σ) (id : WorkerId) : Option Nat :=
  ((s.worker? id).bind (·.channels)).map (·.link)

/-- The view of a worker. -/
def view (s : Supervisor σ) (id : WorkerId) : WorkerView where
  record := (s.worker? id).map Worker.unnumbered
  link := (s.held? id).bind fun n => s.links[n]?
  cache := (s.frames.cached? id).map CachedFrame.unnumbered

theorem held?_of_known {w : Worker} (known : s.worker? id = some w) :
    s.held? id = w.channels.map (·.link) := by
  rw [held?, known]
  rfl

/-! ### When a view stays -/

/-- The view of a worker stays if its record, the link that it holds and its cache do. -/
theorem view_congr (record : s'.worker? id = s.worker? id)
    (link : ∀ n, s.held? id = some n → s'.links[n]? = s.links[n]?)
    (cache : (s'.frames.cached? id).map CachedFrame.unnumbered =
      (s.frames.cached? id).map CachedFrame.unnumbered) : s'.view id = s.view id := by
  have held : s'.held? id = s.held? id := by rw [held?, record, held?]
  unfold view
  rw [record, held, cache]
  cases holds : s.held? id with
  | none => rfl
  | some n =>
      rw [Option.bind_some, Option.bind_some, link n holds]

/-- The cache of another worker is emptied. -/
theorem cached?_reset_of_ne (frames : FrameStore) (ne : id ≠ other) :
    (frames.reset other).cached? id = frames.cached? id := by
  rw [FrameStore.cached?_reset, if_neg ne]

/-! ### What the operations do to the view of their worker -/

/-- A change of the record keeps the link. -/
theorem held?_modifyWorker {f : Worker → Worker} (blind : Worker.Blind f) (s : Supervisor σ)
    (id : WorkerId) : (s.modifyWorker id f).held? id = s.held? id := by
  rw [held?, worker?_modifyWorker, if_pos rfl, held?]
  cases s.worker? id with
  | none => rfl
  | some w => exact blind.link w

/-- A change of the record. -/
theorem view_modifyWorker {f : Worker → Worker} (blind : Worker.Blind f) (s : Supervisor σ)
    (id : WorkerId) :
    (s.modifyWorker id f).view id = { s.view id with record := (s.view id).record.map f } := by
  unfold view
  rw [held?_modifyWorker blind, worker?_modifyWorker, if_pos rfl]
  cases s.worker? id with
  | none => rfl
  | some w =>
      simp only [Option.map_some, blind.unnumbered]
      rfl

/-- A change of the link that the worker holds. -/
theorem view_modifyLink {n : Nat} (holds : s.held? id = some n) (f : Link → Link) :
    (s.modifyLink n f).view id = { s.view id with link := (s.view id).link.map f } := by
  have holds' : (s.modifyLink n f).held? id = some n := holds
  unfold view
  rw [holds, holds', Option.bind_some, Option.bind_some]
  show WorkerView.mk _ ((s.links.modify n f)[n]?) _ = _
  rw [List.getElem?_modify_eq]
  rfl

/-- Entering a state. -/
theorem view_enter (s : Supervisor σ) (id : WorkerId) (state : WorkerState) (now : Instant) :
    (s.enter id state now).view id =
      { s.view id with record := (s.view id).record.map fun w => w.enter state now } := by
  have blind : Worker.Blind fun w => w.enter state now := ⟨fun _ => rfl, fun _ => rfl⟩
  exact view_modifyWorker blind s id

/-- Forgetting the process. -/
theorem view_forgetPid (s : Supervisor σ) (id : WorkerId) :
    (s.forgetPid id).view id =
      { s.view id with record := (s.view id).record.map fun w => { w with pid := none } } := by
  have blind : Worker.Blind fun w => { w with pid := none } := ⟨fun _ => rfl, fun _ => rfl⟩
  exact view_modifyWorker blind s id

/-- Marking an attempt to start the process. -/
theorem view_noteAttempt (s : Supervisor σ) (id : WorkerId) (now : Instant) :
    (s.noteAttempt id now).view id =
      { s.view id with
        record := (s.view id).record.map fun w => { w with lastSpawn := some now } } := by
  have blind : Worker.Blind fun w => { w with lastSpawn := some now } :=
    ⟨fun _ => rfl, fun _ => rfl⟩
  exact view_modifyWorker blind s id

/-- Letting go of the link. -/
theorem view_releaseChannels (s : Supervisor σ) (id : WorkerId) :
    (s.releaseChannels id).view id =
      { s.view id with
        record := (s.view id).record.map fun w => { w with frameWaiting := false, channels := none }
        link := none } := by
  have unheld : (s.releaseChannels id).held? id = none := by
    rw [held?, worker?_releaseChannels, if_pos rfl]
    cases s.worker? id <;> rfl
  unfold view
  rw [unheld, worker?_releaseChannels, if_pos rfl, (linksOnly_releaseChannels s id).frames]
  cases s.worker? id <;> rfl

/-- Emptying the cache. -/
theorem view_resetCache (s : Supervisor σ) (id : WorkerId) :
    (s.resetCache id).view id =
      { s.view id with cache := (s.view id).cache.map CachedFrame.clear } := by
  have cache : (s.resetCache id).frames.cached? id =
      (s.frames.cached? id).map CachedFrame.clear := by
    show (s.frames.reset id).cached? id = _
    rw [FrameStore.cached?_reset, if_pos rfl]
  unfold view
  rw [cache]
  cases s.frames.cached? id <;> rfl

/-- Burying a worker. -/
theorem view_bury (s : Supervisor σ) (id : WorkerId) (now : Instant) :
    (s.bury id now).view id =
      { record := (s.view id).record.map fun w =>
          { w with state := .buried, since := now, frameWaiting := false, channels := none }
        link := none
        cache := (s.view id).cache.map CachedFrame.clear } := by
  rw [bury, view_enter, view_resetCache, view_releaseChannels, view_enter]
  simp only [Option.map_map]
  rfl

/-- Connecting a started process. -/
theorem view_adopt {w v : Worker} (known : s.worker? w.id = some v) (unlinked : w.channels = none)
    (started : Spawned) :
    (s.adopt w started).view w.id =
      { s.view w.id with
        record := (s.view w.id).record.map fun v => v.beginGeneration started.pid 0
        link := some (opened started) } := by
  have record := record_adopt known started
  have holds : (s.adopt w started).held? w.id = some s.links.length := by
    rw [held?_of_known record]
    rfl
  unfold view
  rw [holds, record, (linksOnly_adopt s w started).frames, known, links_adopt unlinked, Option.bind_some,
    List.getElem?_concat_length]
  rfl

/-- Filling the cache. -/
theorem view_fill (s : Supervisor σ) (id : WorkerId) (data : Bytes) (width height : UInt32)
    (now : Instant) :
    view { s with frames := s.frames.fill id data width height now } id =
      { s.view id with cache := some (.fill 0 data width height now) } := by
  have cache : (s.frames.fill id data width height now).cached? id =
      some (.fill (s.frames.lastFid + 1) data width height now) := by
    rw [FrameStore.cached?_fill, if_pos rfl]
  unfold view
  simp only [cache]
  rfl

/-- A consumer gives the frame back. -/
theorem view_noteRelease (s : Supervisor σ) (id : WorkerId) (now : Instant) :
    (noteRelease { s with frames := s.frames.reset id } id now).view id =
      { s.view id with
        record := (s.view id).record.map fun w => { w with lastRelease := some now }
        cache := (s.view id).cache.map CachedFrame.clear } := by
  have blind : Worker.Blind fun w => { w with lastRelease := some now } :=
    ⟨fun _ => rfl, fun _ => rfl⟩
  exact (view_modifyWorker blind (s.resetCache id) id).trans (by rw [view_resetCache])

/-- Whether a source can be added depends on which workers are known. -/
theorem isOk_addWorker (s : Supervisor σ) (id : WorkerId) (source : String) (now : Instant) :
    (s.addWorker id source now).isOk =
      (!(s.worker? id).isSome && decide (s.ids.length < maxWorkers)) := by
  have known : s.workers.contains id = (s.worker? id).isSome := rfl
  have size : s.ids.length = s.workers.size := List.length_map _
  unfold addWorker
  rw [known, ← size]
  cases (s.worker? id).isSome with
  | true => rfl
  | false =>
      by_cases full : maxWorkers ≤ s.ids.length
      · rw [decide_eq_false (Nat.not_lt.2 full)]
        simp only [Bool.false_eq_true, if_false, if_pos full]
        rfl
      · rw [decide_eq_true (Nat.lt_of_not_le full)]
        simp only [Bool.false_eq_true, if_false, if_neg full]
        rfl

/-- A new source. -/
theorem view_addWorker {source : String} {now : Instant} (h : s.addWorker id source now = .ok s') :
    (s'.addCache id).view id =
      { record := some (.new id source now)
        link := none
        cache := some ((s.view id).cache.getD .vacant) } := by
  have record : (s'.addCache id).worker? id = some (.new id source now) := by
    show s'.worker? id = _
    rw [worker?_addWorker h, if_pos rfl]
  have frames : s'.frames = s.frames := by
    obtain ⟨-, rfl⟩ := addWorker_ok h
    rfl
  have cache : (s'.addCache id).frames.cached? id = some ((s.frames.cached? id).getD .vacant) := by
    show (s'.frames.addWorker id).cached? id = _
    rw [FrameStore.cached?_addWorker, if_pos rfl, frames]
  unfold view
  rw [held?_of_known record, record, cache]
  cases s.frames.cached? id <;> rfl

/-- The others do not change. -/
theorem view_addWorker_of_ne {source : String} {now : Instant}
    (h : s.addWorker id source now = .ok s') (ne : other ≠ id) :
    (s'.addCache id).view other = s.view other := by
  have record : s'.worker? other = s.worker? other := by
    rw [worker?_addWorker h, if_neg ne.symm]
  obtain ⟨-, rfl⟩ := addWorker_ok h
  refine view_congr record (fun _ _ => rfl) ?_
  show ((s.frames.addWorker id).cached? other).map _ = _
  rw [FrameStore.cached?_addWorker, if_neg ne.symm]

/-! ### Two supervisors -/

/-- Where a worker looks the same, it is unknown in both, or its records are the same up to the number
of the link, which is the same link. -/
theorem twins_of_view {τ : Type} {t : Supervisor τ} (same : s.view id = t.view id) :
    (s.worker? id = none ∧ t.worker? id = none) ∨
    ∃ w n, s.worker? id = some w ∧ t.worker? id = some (w.renumber n) ∧
      ∀ c, w.channels = some c → s.links[c.link]? = t.links[n]? := by
  have record : (s.worker? id).map Worker.unnumbered = (t.worker? id).map Worker.unnumbered :=
    congrArg WorkerView.record same
  have link : ((s.held? id).bind fun n => s.links[n]?) = (t.held? id).bind fun n => t.links[n]? :=
    congrArg WorkerView.link same
  cases known : s.worker? id with
  | none =>
      rw [known] at record
      exact Or.inl ⟨rfl, Option.map_eq_none_iff.1 record.symm⟩
  | some w =>
      right
      rw [known] at record
      obtain ⟨v, known', eq⟩ := Option.map_eq_some_iff.1 record.symm
      obtain ⟨n, rfl⟩ := Worker.eq_renumber_of_unnumbered eq.symm
      refine ⟨w, n, rfl, known', ?_⟩
      intro c holds
      rw [held?_of_known known, held?_of_known known', Worker.renumber, holds] at link
      exact link

/-- Where a worker looks the same, it has a vacant cache in both or in neither. -/
theorem isVacant_of_view {τ : Type} {t : Supervisor τ} (same : s.view id = t.view id) :
    s.frames.isVacant id = t.frames.isVacant id := by
  have cache : (s.frames.cached? id).map CachedFrame.unnumbered =
      (t.frames.cached? id).map CachedFrame.unnumbered := congrArg WorkerView.cache same
  have vacant : ∀ frames : FrameStore, frames.isVacant id =
      (((frames.cached? id).map CachedFrame.unnumbered).map fun e => e.data.isNone).getD false := by
    intro frames
    unfold FrameStore.isVacant
    cases frames.cached? id <;> rfl
  rw [vacant, vacant, cache]

/-- Where a worker looks the same and holds a link in one supervisor, it holds the same link in the
other, under its number there. -/
theorem twin_holds {τ : Type} {t : Supervisor τ} (same : s.view id = t.view id) {w : Worker}
    {c : WorkerLink} {link : Link} (known : s.worker? id = some w) (holds : w.channels = some c)
    (there : s.links[c.link]? = some link) :
    ∃ n, t.worker? id = some (w.renumber n) ∧ (w.renumber n).channels = some { c with link := n } ∧
      t.links[n]? = some link := by
  rcases twins_of_view same with ⟨unknown, -⟩ | ⟨v, n, known₁, known', links⟩
  · cases unknown.symm.trans known
  · obtain rfl : v = w := Option.some.inj (known₁.symm.trans known)
    refine ⟨n, known', ?_, (links c holds).symm.trans there⟩
    rw [Worker.renumber, holds]
    rfl

/-! ### Events and frames -/

/-- The view of a worker with another record and another state of the link that it holds. -/
theorem Rewired.view {w : Worker} {n : Nat} {link : Link} (h : Rewired s s' id w n link)
    (holds : w.channels.map (·.link) = some n) (old : n < s.links.length)
    (frames : s'.frames = s.frames) :
    s'.view id = ⟨some w.unnumbered, some link, (s.view id).cache⟩ := by
  have holds' : s'.held? id = some n := (held?_of_known h.worker).trans holds
  unfold Supervisor.view
  rw [holds', h.worker, h.links, frames, Option.bind_some, List.getElem?_set_self old]
  rfl

/-- Dispatching a token has the same outcome for a worker that looks the same. -/
theorem view_dispatch {τ : Type} {t : Supervisor τ} {token : Token}
    (same : s.view token.worker = t.view token.worker) (mmap : Mmap) :
    (s.dispatch token mmap).2.view token.worker =
      (t.dispatch token mmap).2.view token.worker := by
  rcases s.dispatch_cases token mmap with ⟨⟨d, done⟩, idle⟩ |
    ⟨w, c, link, mask, s', known, current, holds, there, drained, done, frames, rewired⟩
  · rcases t.dispatch_cases token mmap with ⟨⟨d', done'⟩, -⟩ |
      ⟨v, c, link, mask, t', known, current, holds, there, drained, -⟩
    · rw [done, done']
      exact same
    · obtain ⟨n, known', holds', there'⟩ := twin_holds same.symm known holds there
      rw [idle _ _ link known' current holds' there'] at drained
      cases drained
  · obtain ⟨n, known₁, holds₁, there₁⟩ := twin_holds same known holds there
    rcases t.dispatch_cases token mmap with ⟨-, idle⟩ |
      ⟨v, c', link', mask', t', known', -, holds', there', drained', done', frames', rewired'⟩
    · rw [idle _ _ link known₁ current holds₁ there₁] at drained
      cases drained
    · obtain rfl : w.renumber n = v := Option.some.inj (known₁.symm.trans known')
      obtain rfl : { c with link := n } = c' := Option.some.inj (holds₁.symm.trans holds')
      obtain rfl : link = link' := Option.some.inj (there₁.symm.trans there')
      obtain rfl : mask = mask' := Option.some.inj (drained.symm.trans drained')
      rw [done, done', rewired.view rfl (List.getElem?_eq_some_iff.1 there).1 frames,
        rewired'.view rfl (List.getElem?_eq_some_iff.1 there').1 frames', same]
      rfl

/-- How a look into the slot ends, and the view after it. -/
theorem view_takeFrame {n file : Nat} {link : Link} (holds : s.held? id = some n)
    (there : s.links[n]? = some link) (w : Worker) (now : Instant) :
    ((s.takeFrame id w n file now).1, (s.takeFrame id w n file now).2.view id) =
      match (link.take file).1 with
      | .ok (some frame) =>
          match checkedAdd w.dropped (skippedBefore frame.sequence w.taken) with
          | none => (.overflow, { s.view id with link := some (link.take file).2 })
          | some dropped => (.took,
              { record := (s.view id).record.map (noteTaken dropped frame.sequence now)
                link := some (link.take file).2
                cache := some (.fill 0 frame.data frame.width frame.height now) })
      | _ => (.nothing, { s.view id with link := some (link.take file).2 }) := by
  have blind (dropped sequence : UInt64) : Worker.Blind (noteTaken dropped sequence now) :=
    ⟨fun _ => rfl, fun _ => rfl⟩
  have looked : (s.modifyLink n fun _ => (link.take file).2).view id =
      { s.view id with link := some (link.take file).2 } := by
    rw [view_modifyLink holds]
    unfold Supervisor.view
    rw [holds, Option.bind_some, there]
    rfl
  rw [takeFrame_eq there]
  cases (link.take file).1 with
  | error fault => exact congrArg (Prod.mk _) looked
  | ok frame? =>
      cases frame? with
      | none => exact congrArg (Prod.mk _) looked
      | some frame =>
          dsimp only
          cases checkedAdd w.dropped (skippedBefore frame.sequence w.taken) with
          | none => exact congrArg (Prod.mk _) looked
          | some dropped =>
              refine congrArg (Prod.mk _)
                ((view_fill _ id frame.data frame.width frame.height now).trans ?_)
              rw [view_modifyWorker (blind dropped frame.sequence), looked]

/-- A worker that is not alive, or has yet to negotiate, is passed by. -/
theorem readWorker_of_idle {w : Worker} (known : s.worker? id = some w)
    (idle : w.state = .alive → w.reader? = none) (now : Instant) :
    s.readWorker now id = (.nothing, s) := by
  unfold readWorker
  simp only [known]
  split
  · rfl
  · next alive =>
      have unread := idle (Decidable.not_not.1 alive)
      split
      · next n file holds =>
          rw [Worker.reader?, holds] at unread
          cases unread
      · rfl

/-- The region of an alive worker that has negotiated is looked into. -/
theorem readWorker_of_reader {w : Worker} {n file : Nat} (known : s.worker? id = some w)
    (alive : w.state = .alive) (holds : w.channels = some ⟨n, some file⟩) (now : Instant) :
    s.readWorker now id =
      let published :=
        ((s.links[n]?.bind fun link => link.region? file).map Region.published).getD 0
      let s := s.modifyWorker id (notePublished published now)
      if w.frameWaiting && s.frames.isVacant id then s.takeFrame id w n file now
      else (.nothing, s) := by
  unfold readWorker
  simp only [known, alive, holds, ne_eq, not_true, if_false]

theorem blind_notePublished (published : UInt64) (now : Instant) :
    Worker.Blind (notePublished published now) := by
  constructor
  · intro w
    show (if published = w.published then w else _).unnumbered =
      if published = w.published then w.unnumbered else _
    split <;> rfl
  · intro w
    unfold notePublished
    split <;> rfl

/-- A look at a worker's region ends in the same way, and has the same outcome, for a worker that
looks the same. -/
theorem view_readWorker {τ : Type} {t : Supervisor τ} (same : s.view id = t.view id)
    (now : Instant) :
    ((s.readWorker now id).1, (s.readWorker now id).2.view id) =
      ((t.readWorker now id).1, (t.readWorker now id).2.view id) := by
  rcases twins_of_view same with ⟨unknown, unknown'⟩ | ⟨w, n, known, known', links⟩
  · simp only [readWorker, unknown, unknown', same]
  · by_cases reads : w.state = .alive ∧ ∃ m file, w.channels = some ⟨m, some file⟩
    · obtain ⟨alive, m, file, holds⟩ := reads
      have links : s.links[m]? = t.links[n]? := links _ holds
      have holds' : (w.renumber n).channels = some ⟨n, some file⟩ := by
        rw [Worker.renumber, holds]
        rfl
      rw [readWorker_of_reader known alive holds, readWorker_of_reader known' alive holds', links]
      generalize (((t.links[n]?.bind fun link => link.region? file).map
        Region.published).getD 0) = published
      have blind := blind_notePublished published now
      have noted : (s.modifyWorker id (notePublished published now)).view id =
          (t.modifyWorker id (notePublished published now)).view id := by
        rw [view_modifyWorker blind, view_modifyWorker blind, same]
      have vacant := isVacant_of_view noted
      have waiting : (w.renumber n).frameWaiting = w.frameWaiting := rfl
      dsimp only
      rw [vacant, waiting]
      split
      · cases there : t.links[n]? with
        | none =>
            rw [takeFrame_of_unlinked (s := s.modifyWorker id _) (links.trans there),
              takeFrame_of_unlinked (s := t.modifyWorker id _) there, noted]
        | some link =>
            have held : (s.modifyWorker id (notePublished published now)).held? id = some m := by
              rw [held?_modifyWorker blind, held?_of_known known, holds]
              rfl
            have held' : (t.modifyWorker id (notePublished published now)).held? id = some n := by
              rw [held?_modifyWorker blind, held?_of_known known', holds']
              rfl
            rw [view_takeFrame held (links.trans there), view_takeFrame held' there, noted]
            rfl
      · rw [noted]
    · have idle : w.state = .alive → w.reader? = none := by
        intro alive
        cases unread : w.reader? with
        | none => rfl
        | some file =>
            obtain ⟨c, holds, reads'⟩ := Option.bind_eq_some_iff.1 unread
            exact absurd ⟨alive, c.link, file, by rw [holds, ← reads']⟩ reads
      have idle' : (w.renumber n).state = .alive → (w.renumber n).reader? = none := by
        rw [Worker.reader?_renumber]
        exact idle
      rw [readWorker_of_idle known idle, readWorker_of_idle known' idle', same]

/-! ### Moves -/

variable [ProcessManager σ]

/-- **A move for one worker does not change the view of another**, unless they hold the same link. -/
theorem Move.view_of_ne {id : WorkerId} {s s' : Supervisor σ} (h : Move id s s') (fit : s.Fit id)
    {other : WorkerId} (ne : other ≠ id)
    (alone : ∀ n, s.held? other = some n → n < s.links.length ∧ s.held? id ≠ some n) :
    s'.view other = s.view other := by
  refine view_congr (h.worker?_of_ne fit.named ne) ?_ ?_
  · intro n holds
    obtain ⟨old, unshared⟩ := alone n holds
    cases h.relinked fit with
    | kept links => rw [links]
    | released _ others => exact others n unshared
    | opened links => rw [links, List.getElem?_append_left old]
  · rcases h.frames with frames | frames
    · rw [frames]
    · rw [frames, cached?_reset_of_ne _ ne]

end Supervisor

end FrameMux
