/-
**What an event and a look at a region come to.**

Dispatching a token either changes nothing that matters or drains the counter of the link that its
worker holds; looking at a region either changes nothing that matters or takes what is in the slot.
Both are stated here once, with everything they depend on and everything they change.  A pass looks at
one region after another, and where a look stops in the middle the pass does too.

Main definitions:

* `FrameMux.Worker.Quiet` — changes of a record that leave its process, its link and its marks alone;
* `FrameMux.Supervisor.Rewired` — another record for one worker, and another state of one link;
* `FrameMux.Supervisor.negotiated` — the link and the file read from, after a mask was drained;
* `FrameMux.Supervisor.looked` — the workers that a pass gets to.

Main results:

* `FrameMux.Supervisor.dispatch_cases` — **one token**;
* `FrameMux.Supervisor.look_readWorker` — **one look**;
* `FrameMux.Supervisor.readEach_snd`, `looked_eq_of_readEach` — **one pass**, and when it gets to
  everybody.
-/

import FrameMux.Proofs.Poller
import FrameMux.Supervisor.Dispatch

set_option relaxedAutoImplicit false
set_option autoImplicit false

namespace FrameMux

/-- A change of a record that only concerns its times and the producer's own count. -/
structure Worker.Quiet (f : Worker → Worker) : Prop where
  id : ∀ w, (f w).id = w.id
  state : ∀ w, (f w).state = w.state
  pid : ∀ w, (f w).pid = w.pid
  generation : ∀ w, (f w).generation = w.generation
  channels : ∀ w, (f w).channels = w.channels
  frameWaiting : ∀ w, (f w).frameWaiting = w.frameWaiting
  restarts : ∀ w, (f w).restarts = w.restarts
  lastSpawn : ∀ w, (f w).lastSpawn = w.lastSpawn
  taken : ∀ w, (f w).taken = w.taken
  received : ∀ w, (f w).received = w.received
  dropped : ∀ w, (f w).dropped = w.dropped

/-- Nothing is changed. -/
theorem Worker.Quiet.refl : Worker.Quiet fun w => w :=
  ⟨fun _ => rfl, fun _ => rfl, fun _ => rfl, fun _ => rfl, fun _ => rfl, fun _ => rfl, fun _ => rfl,
    fun _ => rfl, fun _ => rfl, fun _ => rfl, fun _ => rfl⟩

/-- A consumer gave a frame back. -/
theorem Worker.quiet_lastRelease (lastRelease : Option Instant) :
    Worker.Quiet fun w => { w with lastRelease } :=
  ⟨fun _ => rfl, fun _ => rfl, fun _ => rfl, fun _ => rfl, fun _ => rfl, fun _ => rfl, fun _ => rfl,
    fun _ => rfl, fun _ => rfl, fun _ => rfl, fun _ => rfl⟩

namespace Supervisor

variable {σ : Type}

theorem quiet_notePublished (published : UInt64) (now : Instant) :
    Worker.Quiet (notePublished published now) := by
  refine ⟨?_, ?_, ?_, ?_, ?_, ?_, ?_, ?_, ?_, ?_, ?_⟩
  all_goals
    intro w
    unfold notePublished
    split <;> rfl

/-- The supervisor `s'` is `s` with another record for one worker and another state of one link, the
cache apart. -/
structure Rewired (s s' : Supervisor σ) (id : WorkerId) (w : Worker) (n : Nat) (link : Link) :
    Prop where
  manager : s'.manager = s.manager
  policy : s'.policy = s.policy
  poller : s'.poller = s.poller
  links : s'.links = s.links.set n link
  worker : s'.worker? id = some w
  others : ∀ other, other ≠ id → s'.worker? other = s.worker? other

/-- Nothing is changed. -/
theorem rewired_refl {s : Supervisor σ} {id : WorkerId} {w : Worker} {n : Nat} {link : Link}
    (known : s.worker? id = some w) (there : s.links[n]? = some link) :
    Rewired s s id w n link where
  manager := rfl
  policy := rfl
  poller := rfl
  links := by
    obtain ⟨below, rfl⟩ := List.getElem?_eq_some_iff.1 there
    exact (List.set_getElem_self below).symm
  worker := known
  others := fun _ _ => rfl

/-- Changing a record makes nobody known. -/
theorem isSome_worker?_modifyWorker (s : Supervisor σ) (id other : WorkerId) (f : Worker → Worker) :
    ((s.modifyWorker id f).worker? other).isSome = (s.worker? other).isSome := by
  rw [worker?_modifyWorker]
  split
  · exact Option.isSome_map
  · rfl

/-- Nor does changing a record and a link. -/
theorem Rewired.isSome_worker? {s s' : Supervisor σ} {id : WorkerId} {v w : Worker} {n : Nat}
    {link : Link} (h : Rewired s s' id w n link) (known : s.worker? id = some v) (other : WorkerId) :
    (s'.worker? other).isSome = (s.worker? other).isSome := by
  by_cases same : other = id
  · rw [same, h.worker, known]
    rfl
  · rw [h.others other same]

/-- Changing the record once more. -/
theorem Rewired.modifyWorker {s s' : Supervisor σ} {id : WorkerId} {w : Worker} {n : Nat}
    {link : Link} (h : Rewired s s' id w n link) (f : Worker → Worker) :
    Rewired s (s'.modifyWorker id f) id (f w) n link where
  manager := h.manager
  policy := h.policy
  poller := h.poller
  links := h.links
  worker := by
    rw [worker?_modifyWorker, if_pos rfl, h.worker]
    rfl
  others := by
    intro other ne
    rw [worker?_modifyWorker, if_neg ne, h.others other ne]

/-- Changing the link once more. -/
theorem Rewired.modifyLink {s s' : Supervisor σ} {id : WorkerId} {w : Worker} {n : Nat}
    {link : Link} (h : Rewired s s' id w n link) (link' : Link) :
    Rewired s (s'.modifyLink n fun _ => link') id w n link' where
  manager := h.manager
  policy := h.policy
  poller := h.poller
  links := by
    show s'.links.modify n _ = _
    rw [h.links, List.modify_eq_set, List.set_set]
  worker := h.worker
  others := h.others

/-! ### Events -/

/-- The link and the file read from, once a mask was drained: a region is received if the mask says
so and none is known. -/
def negotiated (mmap : Mmap) (channels : WorkerLink) (mask : EventMask) (drained : Link) :
    Link × Option Nat :=
  if mask.contains .regionNegotiated && channels.reader.isNone then
    ((drained.receiveRegion mmap).2, (drained.receiveRegion mmap).1.toOption)
  else (drained, channels.reader)

/-- The record of a worker after a mask was drained. -/
def noteMask (mmap : Mmap) (channels : WorkerLink) (mask : EventMask) (drained : Link) (w : Worker) :
    Worker :=
  noteEvents mask
    { w with channels := some ⟨channels.link, (negotiated mmap channels mask drained).2⟩ }

/-- Going by a mask. -/
theorem rewired_applyMask {s s' : Supervisor σ} {id : WorkerId} {w : Worker} {channels : WorkerLink}
    {drained : Link} (h : Rewired s s' id w channels.link drained)
    (holds : w.channels = some channels) (there : s'.links[channels.link]? = some drained)
    (mask : EventMask) (mmap : Mmap) :
    Rewired s (s'.applyMask id channels mask mmap) id (noteMask mmap channels mask drained w)
      channels.link (negotiated mmap channels mask drained).1 ∧
    (s'.applyMask id channels mask mmap).frames = s'.frames := by
  have same : { w with channels := some ⟨channels.link, channels.reader⟩ } = w := by rw [← holds]
  by_cases receives : mask.contains .regionNegotiated = true
  · cases reader : channels.reader with
    | some file =>
        have done : negotiated mmap channels mask drained = (drained, channels.reader) := by
          simp [negotiated, reader]
        have unchanged : s'.negotiate id channels mmap = s' := by simp [negotiate, reader]
        simp only [applyMask, receives, if_true, unchanged, noteMask, done, same]
        exact ⟨h.modifyWorker _, rfl⟩
    | none =>
        rw [reader] at same
        have done : negotiated mmap channels mask drained =
            ((drained.receiveRegion mmap).2, (drained.receiveRegion mmap).1.toOption) := by
          simp [negotiated, receives, reader]
        simp only [applyMask, receives, if_true, negotiate, reader, there, Option.map_some, noteMask,
          done]
        obtain ⟨result, link⟩ := drained.receiveRegion mmap
        cases result with
        | error fault =>
            simp only [Except.toOption, same]
            exact ⟨(h.modifyLink link).modifyWorker _, rfl⟩
        | ok file => exact ⟨((h.modifyLink link).modifyWorker _).modifyWorker _, rfl⟩
  · have done : negotiated mmap channels mask drained = (drained, channels.reader) := by
      simp [negotiated, receives]
    simp only [applyMask, if_neg receives, noteMask, done, same]
    exact ⟨h.modifyWorker _, rfl⟩

/-- A token that finds something in the counter of the link that its worker holds. -/
theorem dispatch_of_drain {s : Supervisor σ} {token : Token} {w : Worker} {channels : WorkerLink}
    {link : Link} {mask : EventMask} (known : s.worker? token.worker = some w)
    (current : w.generation = token.generation) (holds : w.channels = some channels)
    (there : s.links[channels.link]? = some link) (drained : link.drain.1 = some mask)
    (mmap : Mmap) :
    s.dispatch token mmap = (some mask,
      (s.modifyLink channels.link fun _ => link.drain.2).applyMask token.worker channels mask
        mmap) := by
  have both : link.drain = (some mask, link.drain.2) := by rw [← drained]
  unfold dispatch
  simp only [known]
  rw [if_neg (not_not_intro current)]
  simp only [holds, there, Option.map_some]
  rw [both]

/-- A token that finds nothing there. -/
theorem dispatch_of_idle {s : Supervisor σ} {token : Token}
    (idle : ∀ w channels link, s.worker? token.worker = some w → w.generation = token.generation →
      w.channels = some channels → s.links[channels.link]? = some link → link.drain.1 = none)
    (mmap : Mmap) :
    ∃ discarded, s.dispatch token mmap = (none, { s with discarded }) := by
  unfold dispatch
  split
  · exact ⟨_, rfl⟩
  · next w known =>
      split
      · exact ⟨_, rfl⟩
      · next current =>
          split
          · exact ⟨_, rfl⟩
          · next channels holds =>
              cases there : s.links[channels.link]? with
              | none => exact ⟨s.discarded, rfl⟩
              | some link =>
                  have nothing := idle w channels link known (Decidable.not_not.1 current) holds there
                  have both : link.drain = (none, link.drain.2) := by rw [← nothing]
                  rw [Option.map_some, both]
                  exact ⟨s.discarded, rfl⟩

/-- A token either finds an empty counter, or none at all, or it drains the counter of the link that
its worker holds. -/
theorem dispatch_cases (s : Supervisor σ) (token : Token) (mmap : Mmap) :
    ((∃ discarded, s.dispatch token mmap = (none, { s with discarded })) ∧
      ∀ w channels link, s.worker? token.worker = some w → w.generation = token.generation →
        w.channels = some channels → s.links[channels.link]? = some link → link.drain.1 = none) ∨
    ∃ w channels link mask s', s.worker? token.worker = some w ∧ w.generation = token.generation ∧
      w.channels = some channels ∧ s.links[channels.link]? = some link ∧
      link.drain.1 = some mask ∧ s.dispatch token mmap = (some mask, s') ∧ s'.frames = s.frames ∧
      Rewired s s' token.worker (noteMask mmap channels mask link.drain.2 w) channels.link
        (negotiated mmap channels mask link.drain.2).1 := by
  by_cases idle : ∀ w channels link, s.worker? token.worker = some w →
      w.generation = token.generation → w.channels = some channels →
      s.links[channels.link]? = some link → link.drain.1 = none
  · exact Or.inl ⟨dispatch_of_idle idle mmap, idle⟩
  · right
    simp only [Classical.not_forall] at idle
    obtain ⟨w, channels, link, known, current, holds, there, found⟩ := idle
    obtain ⟨mask, drained⟩ := Option.ne_none_iff_exists'.1 found
    have after : (s.modifyLink channels.link fun _ => link.drain.2).links[channels.link]? =
        some link.drain.2 := by
      show (s.links.modify _ _)[channels.link]? = _
      rw [List.getElem?_modify_eq, there]
      rfl
    obtain ⟨rewired, frames⟩ := rewired_applyMask
      ((rewired_refl known there).modifyLink link.drain.2) holds after mask mmap
    exact ⟨w, channels, link, mask, _, known, current, holds, there, drained,
      dispatch_of_drain known current holds there drained mmap, frames, rewired⟩

/-! ### Frames -/

/-- A worker whose region is looked into: it is alive, has negotiated and is marked, its cache is
vacant, and its link is there. -/
structure Waits (s : Supervisor σ) (id : WorkerId) (w : Worker) (n file : Nat) (link : Link) :
    Prop where
  known : s.worker? id = some w
  alive : w.state = .alive
  holds : w.channels = some ⟨n, some file⟩
  waiting : w.frameWaiting = true
  vacant : s.frames.isVacant id = true
  there : s.links[n]? = some link

/-- What is noted quietly about a waiting worker leaves it the link that it holds. -/
theorem Waits.link_of_quiet {s : Supervisor σ} {id : WorkerId} {w : Worker} {n file : Nat} {link : Link}
    (waits : s.Waits id w n file link) {f : Worker → Worker} (quiet : Worker.Quiet f) :
    (f w).channels.map (·.link) = some n := by
  rw [quiet.channels, waits.holds]
  rfl

/-- A worker that holds another link is another worker, and neither is touched. -/
theorem Rewired.apart {s s' : Supervisor σ} {holder id : WorkerId} {w v : Worker} {m n : Nat}
    {link : Link} {reader : Option Nat} (h : Rewired s s' holder w m link)
    (holds : w.channels.map (·.link) = some m) (ne : m ≠ n) (known : s'.worker? id = some v)
    (held : v.channels = some ⟨n, reader⟩) :
    s.worker? id = some v ∧ s'.links[n]? = s.links[n]? := by
  have self : id ≠ holder := by
    rintro rfl
    cases h.worker.symm.trans known
    rw [held] at holds
    exact ne (Option.some.inj holds).symm
  exact ⟨(h.others id self).symm.trans known, by rw [h.links, List.getElem?_set_ne ne]⟩

/-- Taking what is in the slot of a worker. -/
theorem takeFrame_eq {s : Supervisor σ} {id : WorkerId} {n file : Nat} {link : Link}
    (there : s.links[n]? = some link) (w : Worker) (now : Instant) :
    s.takeFrame id w n file now =
      match (link.take file).1 with
      | .ok (some frame) =>
          match checkedAdd w.dropped (skippedBefore frame.sequence w.taken) with
          | none => (.overflow, s.modifyLink n fun _ => (link.take file).2)
          | some dropped =>
              (.took, { (s.modifyLink n fun _ => (link.take file).2).modifyWorker id
                  (noteTaken dropped frame.sequence now) with
                frames := s.frames.fill id frame.data frame.width frame.height now })
      | _ => (.nothing, s.modifyLink n fun _ => (link.take file).2) := by
  unfold takeFrame
  simp only [there, Option.map_some]
  obtain ⟨fault | _ | frame, link'⟩ := link.take file <;> rfl

/-- Without a link there is no slot to look into. -/
theorem takeFrame_of_unlinked {s : Supervisor σ} {id : WorkerId} {n : Nat}
    (unlinked : s.links[n]? = none) (w : Worker) (file : Nat) (now : Instant) :
    s.takeFrame id w n file now = (.nothing, s) := by
  simp only [takeFrame, unlinked, Option.map_none]

/-- What a look at a worker's region comes to: nothing, a note that the producer published, a frame,
none where one should be, or one that cannot be counted. -/
inductive Look (s : Supervisor σ) (now : Instant) (id : WorkerId) : LookResult × Supervisor σ → Prop
  | skipped : Look s now id (.nothing, s)
  | noted {f : Worker → Worker} {w : Worker} {n file : Nat} (quiet : Worker.Quiet f)
      (known : s.worker? id = some w) (reads : w.channels = some ⟨n, some file⟩) :
      Look s now id (.nothing, s.modifyWorker id f)
  | taken {s' : Supervisor σ} {w : Worker} {n file : Nat} {link : Link} {frame : SlotFrame}
      {f : Worker → Worker} {dropped : UInt64} (waits : s.Waits id w n file link)
      (quiet : Worker.Quiet f) (took : (link.take file).1 = .ok (some frame))
      (counted : checkedAdd w.dropped (skippedBefore frame.sequence w.taken) = some dropped)
      (rewired : Rewired s s' id (noteTaken dropped frame.sequence now (f w)) n (link.take file).2)
      (filled : s'.frames = s.frames.fill id frame.data frame.width frame.height now) :
      Look s now id (.took, s')
  | missed {s' : Supervisor σ} {w : Worker} {n file : Nat} {link : Link}
      {f : Worker → Worker} (waits : s.Waits id w n file link) (quiet : Worker.Quiet f)
      (missed : ∀ frame, (link.take file).1 ≠ .ok (some frame))
      (rewired : Rewired s s' id (f w) n (link.take file).2)
      (frames : s'.frames = s.frames) :
      Look s now id (.nothing, s')
  | cut {s' : Supervisor σ} {w : Worker} {n file : Nat} {link : Link} {frame : SlotFrame}
      {f : Worker → Worker} (waits : s.Waits id w n file link) (quiet : Worker.Quiet f)
      (took : (link.take file).1 = .ok (some frame))
      (uncounted : checkedAdd w.dropped (skippedBefore frame.sequence w.taken) = none)
      (rewired : Rewired s s' id (f w) n (link.take file).2)
      (frames : s'.frames = s.frames) :
      Look s now id (.overflow, s')

/-- Looking into the slot of a worker that waits for it, once the producer's progress is noted. -/
theorem Waits.look {s : Supervisor σ} {id : WorkerId} {w : Worker} {n file : Nat} {link : Link}
    (waits : s.Waits id w n file link) {f : Worker → Worker} (quiet : Worker.Quiet f)
    (now : Instant) : Look s now id ((s.modifyWorker id f).takeFrame id w n file now) := by
  have there : (s.modifyWorker id f).links[n]? = some link := waits.there
  have rewired := ((rewired_refl waits.known waits.there).modifyWorker f).modifyLink
    (link.take file).2
  rw [takeFrame_eq there]
  split
  · next frame took =>
      split
      · next uncounted => exact .cut waits quiet took uncounted rewired rfl
      · next dropped counted =>
          have noted := rewired.modifyWorker (noteTaken dropped frame.sequence now)
          exact .taken waits quiet took counted
            ⟨noted.manager, noted.policy, noted.poller, noted.links, noted.worker, noted.others⟩ rfl
  · next missed => exact .missed waits quiet missed rewired rfl

/-- **A look at a worker's region** comes to one of these. -/
theorem look_readWorker (s : Supervisor σ) (now : Instant) (id : WorkerId) :
    Look s now id (s.readWorker now id) := by
  unfold readWorker
  split
  · exact .skipped
  · next w known =>
      split
      · exact .skipped
      · next alive =>
          split
          · next n file holds =>
              dsimp only
              generalize ((s.links[n]?.bind fun link => link.region? file).map
                Region.published).getD 0 = published
              have quiet := quiet_notePublished published now
              generalize notePublished published now = f at quiet ⊢
              split
              · next ready =>
                  obtain ⟨waiting, vacant⟩ := (Bool.and_eq_true _ _).mp ready
                  cases there : s.links[n]? with
                  | none =>
                      have there' : (s.modifyWorker id f).links[n]? = none := there
                      rw [takeFrame_of_unlinked there']
                      exact .noted quiet known holds
                  | some link =>
                      have waits : s.Waits id w n file link :=
                        ⟨known, Decidable.not_not.1 alive, holds, waiting, vacant, there⟩
                      exact waits.look quiet now
              · exact .noted quiet known holds
          · exact .skipped

/-! ### Passes -/

/-- The workers that a pass gets to: all of them, up to one at which it stops. -/
def looked (now : Instant) : List WorkerId → Supervisor σ → List WorkerId
  | [], _ => []
  | id :: rest, s =>
      match s.readWorker now id with
      | (.overflow, _) => [id]
      | (_, s) => id :: looked now rest s

/-- A pass gets to the first workers of its list. -/
theorem looked_isPrefix (now : Instant) (ids : List WorkerId) (s : Supervisor σ) :
    looked now ids s <+: ids := by
  induction ids generalizing s with
  | nil => exact List.prefix_refl _
  | cons id rest ih =>
      unfold looked
      split
      · exact List.prefix_append [id] rest
      · exact (List.prefix_cons_inj id).2 (ih _)

/-- A pass that comes to its end gets to everybody. -/
theorem looked_eq_of_readEach {now : Instant} {ids : List WorkerId} {k m : Nat} {s : Supervisor σ}
    (ended : (readEach now ids k s).1 = some m) : looked now ids s = ids := by
  induction ids generalizing k s with
  | nil => rfl
  | cons id rest ih =>
      unfold readEach at ended
      unfold looked
      rcases look : s.readWorker now id with ⟨result, s'⟩
      rw [look] at ended
      cases result with
      | overflow => cases ended
      | took => exact congrArg (id :: ·) (ih ended)
      | nothing => exact congrArg (id :: ·) (ih ended)

/-- **A pass stops in the middle** exactly if one of its looks does. -/
theorem readEach_eq_none_iff {now : Instant} {ids : List WorkerId} {k : Nat} {s : Supervisor σ} :
    (readEach now ids k s).1 = none ↔ ∃ earlier id later, ids = earlier ++ id :: later ∧
      ((earlier.foldl (fun s id => (s.readWorker now id).2) s).readWorker now id).1 = .overflow := by
  induction ids generalizing k s with
  | nil =>
      refine ⟨nofun, ?_⟩
      rintro ⟨earlier, id, later, split, -⟩
      cases earlier <;> cases split
  | cons first rest ih =>
      -- The look that stops is the first one, or one of the rest.
      have either : (∃ earlier id later, first :: rest = earlier ++ id :: later ∧
          ((earlier.foldl (fun s id => (s.readWorker now id).2) s).readWorker now id).1 = .overflow) ↔
          (s.readWorker now first).1 = .overflow ∨ ∃ earlier id later, rest = earlier ++ id :: later ∧
            ((earlier.foldl (fun s id => (s.readWorker now id).2)
              (s.readWorker now first).2).readWorker now id).1 = .overflow := by
        constructor
        · rintro ⟨earlier, id, later, split, stops⟩
          cases earlier with
          | nil =>
              cases split
              exact Or.inl stops
          | cons other earlier =>
              cases split
              exact Or.inr ⟨earlier, id, later, rfl, stops⟩
        · rintro (stops | ⟨earlier, id, later, rfl, stops⟩)
          · exact ⟨[], first, rest, rfl, stops⟩
          · exact ⟨first :: earlier, id, later, rfl, stops⟩
      rw [either]
      unfold readEach
      rcases look : s.readWorker now first with ⟨result, s'⟩
      cases result with
      | overflow => exact ⟨fun _ => Or.inl rfl, fun _ => rfl⟩
      | took => exact ih.trans ⟨Or.inr, fun stops => stops.resolve_left nofun⟩
      | nothing => exact ih.trans ⟨Or.inr, fun stops => stops.resolve_left nofun⟩

/-! ### What passes keep -/

/-- A worker that is not known is not listed. -/
theorem notMem_ids {s : Supervisor σ} {id : WorkerId} (unknown : s.worker? id = none) : id ∉ s.ids := by
  intro listed
  have known : (s.worker? id).isSome = true := (s.workers.mem_ids_iff id).1 listed
  rw [unknown] at known
  cases known

/-- A worker that is known is listed. -/
theorem mem_ids {s : Supervisor σ} {id : WorkerId} {w : Worker} (known : s.worker? id = some w) :
    id ∈ s.ids := (s.workers.mem_ids_iff id).2 (Option.isSome_iff_exists.2 ⟨w, known⟩)

/-- Among the first workers of the list, each comes once. -/
theorem split_of_mem {s : Supervisor σ} {id : WorkerId} {ids : List WorkerId} (first : ids <+: s.ids)
    (listed : id ∈ ids) :
    ∃ earlier later : List WorkerId, ids = earlier ++ id :: later ∧ id ∉ earlier ∧ id ∉ later := by
  obtain ⟨earlier, later, split⟩ := List.append_of_mem listed
  have nodup : ids.Nodup := s.workers.nodup_ids.sublist first.sublist
  rw [split] at nodup
  obtain ⟨-, nodup', apart⟩ := List.nodup_append.1 nodup
  exact ⟨earlier, later, split, fun mem => apart id mem id List.mem_cons_self rfl,
    (List.nodup_cons.1 nodup').1⟩

/-- A worker that is known is listed once. -/
theorem split_ids {s : Supervisor σ} {id : WorkerId} {w : Worker} (known : s.worker? id = some w) :
    ∃ earlier later : List WorkerId, s.ids = earlier ++ id :: later ∧ id ∉ earlier ∧ id ∉ later :=
  split_of_mem (List.prefix_refl _) (mem_ids known)

end Supervisor

/-- The record `w` is `v` with other marks: the worker is in the same state, with the same process
and the same link, and without a link it has no new mark either. -/
structure Worker.Kept (v w : Worker) : Prop where
  id : w.id = v.id
  state : w.state = v.state
  pid : w.pid = v.pid
  generation : w.generation = v.generation
  link : w.channels.map (·.link) = v.channels.map (·.link)
  waiting : v.channels = none → w.frameWaiting = v.frameWaiting
  restarts : w.restarts = v.restarts
  lastSpawn : w.lastSpawn = v.lastSpawn

theorem Worker.Kept.refl (w : Worker) : w.Kept w :=
  ⟨rfl, rfl, rfl, rfl, rfl, fun _ => rfl, rfl, rfl⟩

theorem Worker.Quiet.kept {f : Worker → Worker} (quiet : Quiet f) (w : Worker) : w.Kept (f w) :=
  ⟨quiet.id w, quiet.state w, quiet.pid w, quiet.generation w, by rw [quiet.channels w],
    fun _ => quiet.frameWaiting w, quiet.restarts w, quiet.lastSpawn w⟩

namespace Supervisor

variable {σ : Type}

/-- The records of `s'` are those of `s` up to marks, and there may be new workers; the same counters
are watched. -/
structure Keeps (s s' : Supervisor σ) : Prop where
  manager : s'.manager = s.manager
  policy : s'.policy = s.policy
  watched : s'.poller.watched = s.poller.watched
  kept : ∀ id v, s.worker? id = some v → ∃ w, s'.worker? id = some w ∧ v.Kept w
  added : ∀ id w, s'.worker? id = some w → s.worker? id = none →
    ∃ source now, w = .new id source now

/-- The same records. -/
theorem keeps_of_worker? {s s' : Supervisor σ} (manager : s'.manager = s.manager)
    (policy : s'.policy = s.policy) (watched : s'.poller.watched = s.poller.watched)
    (same : ∀ id, s'.worker? id = s.worker? id) : Keeps s s' where
  manager := manager
  policy := policy
  watched := watched
  kept := fun id v known => ⟨v, (same id).trans known, .refl v⟩
  added := by
    intro id w known unknown
    rw [same, unknown] at known
    cases known

/-- A quiet change of one record. -/
theorem keeps_modifyWorker (s : Supervisor σ) (id : WorkerId) {f : Worker → Worker}
    (quiet : Worker.Quiet f) : Keeps s (s.modifyWorker id f) where
  manager := rfl
  policy := rfl
  watched := rfl
  kept := by
    intro other v known
    rw [worker?_modifyWorker, known]
    by_cases same : other = id
    · exact ⟨f v, by rw [if_pos same]; rfl, quiet.kept v⟩
    · exact ⟨v, by rw [if_neg same], .refl v⟩
  added := by
    intro other w known unknown
    rw [worker?_modifyWorker, unknown] at known
    split at known
    · cases known
    · cases known

/-- Another record for one worker, with the same process and the same link. -/
theorem Rewired.keeps {s s' : Supervisor σ} {id : WorkerId} {v w : Worker} {n : Nat} {link : Link}
    (h : Rewired s s' id w n link) (known : s.worker? id = some v) (kept : v.Kept w) :
    Keeps s s' where
  manager := h.manager
  policy := h.policy
  watched := by rw [h.poller]
  kept := by
    intro other u known'
    by_cases same : other = id
    · subst same
      obtain rfl : v = u := Option.some.inj (known.symm.trans known')
      exact ⟨w, h.worker, kept⟩
    · exact ⟨u, (h.others other same).trans known', .refl u⟩
  added := by
    intro other u known' unknown
    by_cases same : other = id
    · subst same
      rw [known] at unknown
      cases unknown
    · rw [h.others other same, unknown] at known'
      cases known'

/-- Going by a mask only changes marks. -/
theorem kept_noteMask {w : Worker} {channels : WorkerLink} (holds : w.channels = some channels)
    (mmap : Mmap) (mask : EventMask) (drained : Link) :
    w.Kept (noteMask mmap channels mask drained w) := by
  refine ⟨rfl, rfl, rfl, rfl, by rw [holds]; rfl, ?_, rfl, rfl⟩
  intro unlinked
  rw [holds] at unlinked
  cases unlinked

/-- Taking a frame only changes marks. -/
theorem Waits.keeps_taken {s s' : Supervisor σ} {id : WorkerId} {w : Worker} {n file : Nat}
    {link link' : Link} {f : Worker → Worker} {dropped sequence : UInt64} {now : Instant}
    (waits : s.Waits id w n file link) (quiet : Worker.Quiet f)
    (rewired : Rewired s s' id (noteTaken dropped sequence now (f w)) n link') : Keeps s s' := by
  have kept := quiet.kept w
  refine rewired.keeps waits.known ⟨kept.id, kept.state, kept.pid, kept.generation, kept.link, ?_,
    kept.restarts, kept.lastSpawn⟩
  intro unlinked
  rw [waits.holds] at unlinked
  cases unlinked

/-- A source that was added was unknown before. -/
theorem addWorker_ok {s s' : Supervisor σ} {id : WorkerId} {source : String} {now : Instant}
    (h : s.addWorker id source now = .ok s') :
    s.worker? id = none ∧ s' = { s with workers := s.workers.insert id (.new id source now) } := by
  unfold addWorker at h
  split at h
  · cases h
  · next unknown =>
      split at h
      · cases h
      · cases h
        exact ⟨by simpa [Roster.contains, worker?] using unknown, rfl⟩

/-- The records when a source was added. -/
theorem worker?_addWorker {s s' : Supervisor σ} {id : WorkerId} {source : String} {now : Instant}
    (h : s.addWorker id source now = .ok s') (other : WorkerId) :
    s'.worker? other = if id = other then some (.new id source now) else s.worker? other := by
  obtain ⟨-, rfl⟩ := addWorker_ok h
  exact Roster.get?_insert _ _ _ _

/-- A new source. -/
theorem keeps_addWorker {s s' : Supervisor σ} {id : WorkerId} {source : String} {now : Instant}
    (h : s.addWorker id source now = .ok s') : Keeps s s' where
  manager := by
    obtain ⟨-, rfl⟩ := addWorker_ok h
    rfl
  policy := by
    obtain ⟨-, rfl⟩ := addWorker_ok h
    rfl
  watched := by
    obtain ⟨-, rfl⟩ := addWorker_ok h
    rfl
  kept := by
    intro other v known
    have ne : id ≠ other := by
      rintro rfl
      rw [(addWorker_ok h).1] at known
      cases known
    exact ⟨v, by rw [worker?_addWorker h, if_neg ne, known], .refl v⟩
  added := by
    intro other w known unknown
    rw [worker?_addWorker h] at known
    split at known
    · next same =>
        cases known
        exact ⟨source, now, by rw [same]⟩
    · rw [unknown] at known
      cases known

/-! ### What is left alone -/

/-- A link, its token and its place among the ready ones are left alone. -/
structure Spares (s s' : Supervisor σ) (n : Nat) : Prop where
  link : s'.links[n]? = s.links[n]?
  token : s'.poller.token? n = s.poller.token? n
  ready : n ∈ s.poller.ready → n ∈ s'.poller.ready

theorem spares_of_eq {s s' : Supervisor σ} (links : s'.links = s.links)
    (poller : s'.poller = s.poller) (n : Nat) : Spares s s' n :=
  ⟨by rw [links], by rw [poller], fun ready => poller ▸ ready⟩

/-- Another state of one link leaves the others alone. -/
theorem Rewired.spares {s s' : Supervisor σ} {id : WorkerId} {w : Worker} {n : Nat} {link : Link}
    (h : Rewired s s' id w n link) {other : Nat} (ne : n ≠ other) : Spares s s' other :=
  ⟨by rw [h.links, List.getElem?_set_ne ne], by rw [h.poller], fun ready => h.poller ▸ ready⟩

/-- Letting go of a worker's link leaves the others alone. -/
theorem spares_releaseChannels {s : Supervisor σ} {id : WorkerId} {n : Nat}
    (other : (((s.worker? id).bind (·.channels)).map (·.link)) ≠ some n) :
    Spares s (s.releaseChannels id) n := by
  unfold releaseChannels
  dsimp only
  split
  · exact ⟨rfl, rfl, fun ready => ready⟩
  · next channels held =>
      have ne : channels.link ≠ n := by
        rintro rfl
        exact other (by rw [held]; rfl)
      refine ⟨List.getElem?_modify_ne _ _ ne, Poller.token?_deregister (Ne.symm ne), ?_⟩
      exact fun ready => Poller.mem_ready_deregister ready (Ne.symm ne)

theorem length_links_releaseChannels (s : Supervisor σ) (id : WorkerId) :
    (s.releaseChannels id).links.length = s.links.length := by
  unfold releaseChannels
  dsimp only
  split
  · rfl
  · exact List.length_modify _ _ _

end Supervisor

end FrameMux
