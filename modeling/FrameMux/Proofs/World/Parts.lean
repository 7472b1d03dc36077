/-
**Actions in parts.**

An action may concern every worker in turn, and what it does for one of them may take several moves.
All of it is made of few kinds of parts, so an invariant of worlds need only be checked part by part.

Main definitions:

* `FrameMux.World.Part` — **the parts** of actions;
* `FrameMux.World.Parts` — chains of parts;
* `FrameMux.World.Named` — every record bears the identifier of its worker;
* `FrameMux.World.Action.supervises` — what the supervisor does of its own accord, or on request.

Main results:

* `FrameMux.World.supervise_induction` — what every move preserves, the supervisor preserves;
* `FrameMux.World.parts_step` — **every action is a chain of parts**;
* `FrameMux.World.run_induction` — what every part preserves holds throughout every run.
-/

import FrameMux.Proofs.Frame.Cached
import FrameMux.Proofs.Supervisor.Passes
import FrameMux.Proofs.World.Basic

set_option relaxedAutoImplicit false
set_option autoImplicit false

namespace FrameMux

namespace World

variable {σ : Type}

/-! ### Following the supervisor -/

/-- The calls beyond those known. -/
theorem newCalls_eq {w : World σ} {s : Supervisor (Recorder σ)} {new : List Call}
    (h : s.manager.calls = w.sup.manager.calls ++ new) : w.newCalls s = new := by
  rw [newCalls, h]
  exact List.drop_left

/-- Following a supervisor that made some calls. -/
theorem follow_eq {w : World σ} {s : Supervisor (Recorder σ)} {new : List Call} (id : WorkerId)
    (h : s.manager.calls = w.sup.manager.calls ++ new) :
    w.follow id s = { w.withSup s with
      calls := w.calls ++ new.map fun call => (id, call)
      ledgers := w.ledgers ++ new.filterMap (Call.opened id) } := by
  rw [follow, newCalls_eq h]

/-- Following a supervisor that made no calls. -/
theorem follow_of_manager {w : World σ} {s : Supervisor (Recorder σ)} (id : WorkerId)
    (same : s.manager = w.sup.manager) : w.follow id s = w.withSup s := by
  have none_made : s.manager.calls = w.sup.manager.calls ++ [] := by rw [same, List.append_nil]
  rw [follow_eq id none_made]
  simp [withSup]

/-- Following in two steps. -/
theorem follow_follow {w : World σ} {s s' : Supervisor (Recorder σ)} {new new' : List Call}
    (id : WorkerId) (h : s.manager.calls = w.sup.manager.calls ++ new)
    (h' : s'.manager.calls = s.manager.calls ++ new') :
    (w.follow id s).follow id s' = w.follow id s' := by
  have all : s'.manager.calls = w.sup.manager.calls ++ (new ++ new') := by
    rw [h', h, List.append_assoc]
  rw [follow_eq (w := w) id all, follow_eq (w := w.follow id s) id h', follow_eq (w := w) id h]
  simp [withSup]

/-! ### What the other parts come to -/

/-- What dispatching a token comes to: there is nothing to drain, or the link that the worker holds
is drained. -/
inductive Dispatched (w : World σ) (token : Token) : World σ → Prop
  | idle {discarded : Nat}
      (idle : ∀ rec channels link, w.sup.worker? token.worker = some rec →
        rec.generation = token.generation → rec.channels = some channels →
        w.sup.links[channels.link]? = some link → link.drain.1 = none) :
      Dispatched w token { w.withSup { w.sup with discarded } with
        inFlight := w.inFlight.erase token }
  | drained {rec : Worker} {channels : WorkerLink} {link : Link} {mask : EventMask} {mmap : Mmap}
      {s : Supervisor (Recorder σ)} (known : w.sup.worker? token.worker = some rec)
      (current : rec.generation = token.generation) (holds : rec.channels = some channels)
      (there : w.sup.links[channels.link]? = some link) (drained : link.drain.1 = some mask)
      (frames : s.frames = w.sup.frames)
      (rewired : Supervisor.Rewired w.sup s token.worker
        (Supervisor.noteMask mmap channels mask link.drain.2 rec) channels.link
        (Supervisor.negotiated mmap channels mask link.drain.2).1) :
      Dispatched w token ({ w.withSup s with inFlight := w.inFlight.erase token }.modifyLedger
        channels.link Ledger.drained)

theorem held?_eq {w : World σ} {id : WorkerId} {rec : Worker} {channels : WorkerLink}
    (known : w.sup.worker? id = some rec) (holds : rec.channels = some channels) :
    w.held? id = some channels.link := by
  rw [held?, known, Option.bind_some, holds]
  rfl

theorem dispatched_dispatch (w : World σ) (token : Token) (mmap : Mmap) :
    Dispatched w token (w.dispatch token mmap) := by
  rcases w.sup.dispatch_cases token mmap with ⟨⟨discarded, done⟩, idle⟩ |
    ⟨rec, channels, link, mask, s, known, current, holds, there, drained, done, frames, rewired⟩
  · simp only [dispatch, done]
    exact .idle idle
  · simp only [dispatch, done, held?_eq known holds]
    exact .drained known current holds there drained frames rewired

/-- What looking at a worker's region comes to: nothing, a note that the producer published, a frame
with its receipt, none where one should be, or one that cannot be counted. -/
inductive Received (w : World σ) (now : Instant) (id : WorkerId) : World σ → Prop
  | skipped : Received w now id w
  | noted {f : Worker → Worker} {rec : Worker} {n file : Nat} (quiet : Worker.Quiet f)
      (known : w.sup.worker? id = some rec) (reads : rec.channels = some ⟨n, some file⟩) :
      Received w now id (w.withSup (w.sup.modifyWorker id f))
  | taken {s : Supervisor (Recorder σ)} {rec : Worker} {n file : Nat} {link : Link}
      {frame : SlotFrame} {f : Worker → Worker} {dropped : UInt64}
      (waits : w.sup.Waits id rec n file link)
      (quiet : Worker.Quiet f) (took : (link.take file).1 = .ok (some frame))
      (counted : checkedAdd rec.dropped (Supervisor.skippedBefore frame.sequence rec.taken) =
        some dropped)
      (rewired : Supervisor.Rewired w.sup s id
        (Supervisor.noteTaken dropped frame.sequence now (f rec)) n (link.take file).2)
      (filled : s.frames = w.sup.frames.fill id frame.data frame.width frame.height now) :
      Received w now id { (w.withSup s).modifyLedger n Ledger.received with
        stored := w.stored ++ [w.receipt id n s] }
  | missed {s : Supervisor (Recorder σ)} {rec : Worker} {n file : Nat} {link : Link}
      {f : Worker → Worker} (waits : w.sup.Waits id rec n file link) (quiet : Worker.Quiet f)
      (missed : ∀ frame, (link.take file).1 ≠ .ok (some frame))
      (rewired : Supervisor.Rewired w.sup s id (f rec) n (link.take file).2)
      (frames : s.frames = w.sup.frames) :
      Received w now id (w.withSup s)
  | cut {s : Supervisor (Recorder σ)} {rec : Worker} {n file : Nat} {link : Link}
      {frame : SlotFrame} {f : Worker → Worker} (waits : w.sup.Waits id rec n file link)
      (quiet : Worker.Quiet f) (took : (link.take file).1 = .ok (some frame))
      (uncounted : checkedAdd rec.dropped (Supervisor.skippedBefore frame.sequence rec.taken) = none)
      (rewired : Supervisor.Rewired w.sup s id (f rec) n (link.take file).2)
      (frames : s.frames = w.sup.frames) :
      Received w now id ((w.withSup s).modifyLedger n Ledger.interrupted)

theorem received_receive (w : World σ) (now : Instant) (id : WorkerId) :
    Received w now id (receive now w id) := by
  have look := w.sup.look_readWorker now id
  unfold receive
  generalize w.sup.readWorker now id = result at look ⊢
  cases look with
  | skipped => exact .skipped
  | noted quiet known reads => exact .noted quiet known reads
  | taken waits quiet took counted rewired filled =>
      simp only [held?_eq waits.known waits.holds]
      exact .taken waits quiet took counted rewired filled
  | missed waits quiet missed rewired frames => exact .missed waits quiet missed rewired frames
  | cut waits quiet took uncounted rewired frames =>
      simp only [held?_eq waits.known waits.holds]
      exact .cut waits quiet took uncounted rewired frames

/-- Two passes get to the same workers, if looks end in the same way wherever they are related, and
leave what is related. -/
theorem looked_congr {τ : Type} {R : World σ → World τ → Prop} {now : Instant}
    (one : ∀ w v id, R w v → (w.sup.readWorker now id).1 = (v.sup.readWorker now id).1 ∧
      R (w.receive now id) (v.receive now id)) {w : World σ} {v : World τ} (h : R w v)
    (ids : List WorkerId) :
    Supervisor.looked now ids w.sup = Supervisor.looked now ids v.sup := by
  induction ids generalizing w v with
  | nil => rfl
  | cons id rest ih =>
      obtain ⟨ended, h'⟩ := one w v id h
      have same := ih h'
      rw [sup_receive, sup_receive] at same
      simp only [Supervisor.looked]
      revert ended same
      rcases w.sup.readWorker now id with ⟨result, s⟩
      rcases v.sup.readWorker now id with ⟨result', t⟩
      rintro (rfl : result = result') same
      cases result with
      | overflow => rfl
      | nothing | took => exact congrArg (id :: ·) same

/-- A deed of a producer changes its link and its ledger, and wakes the poller if it signals. -/
theorem produce_of_link {w : World σ} {n : Nat} {link : Link} (there : w.sup.links[n]? = some link)
    (d : Deed) :
    w.produce n d = (w.withSup { w.sup with
      links := w.sup.links.set n (d.act link)
      poller := if link.notifier = (d.act link).notifier then w.sup.poller
        else w.sup.poller.wake n }).modifyLedger n fun g => d.note g link := by
  have changed : w.sup.links.modify n (fun _ => d.act link) = w.sup.links.set n (d.act link) := by
    rw [List.modify_eq_set]
  simp only [produce, there, Supervisor.produce, Supervisor.modifyLink, changed]
  split
  · rfl
  · rfl

/-- A deed without a link changes nothing. -/
theorem produce_of_unlinked {w : World σ} {n : Nat} (unlinked : w.sup.links[n]? = none) (d : Deed) :
    w.produce n d = w := by
  simp only [produce, unlinked]

/-- A consumer gives the frame of a worker back. -/
theorem release_ok {m m' : Mux (Recorder σ)} {id : WorkerId} {now : Instant}
    (h : m.release id now = .ok m') :
    m'.supervisor =
      { m.supervisor with frames := m.supervisor.frames.reset id }.noteRelease id now := by
  simp only [Mux.release, FrameStore.release?] at h
  split at h
  · cases h
  · next frames released =>
      split at released
      · cases released
        cases h
        rfl
      · cases released

/-- Another cache. -/
theorem keeps_withFrames (s : Supervisor (Recorder σ)) (frames : FrameStore) :
    Supervisor.Keeps s { s with frames } :=
  Supervisor.keeps_of_worker? rfl rfl rfl fun _ => rfl

/-- Another cache, and a note that a consumer gave a frame back. -/
theorem keeps_noteRelease (s : Supervisor (Recorder σ)) (frames : FrameStore) (id : WorkerId)
    (now : Instant) : Supervisor.Keeps s ({ s with frames }.noteRelease id now) := by
  have quiet := Worker.quiet_lastRelease (some now)
  have keeps := Supervisor.keeps_modifyWorker s id quiet
  exact ⟨keeps.manager, keeps.policy, keeps.watched, keeps.kept, keeps.added⟩

/-! ### Parts that keep the records -/

/-- Dispatching a token keeps all records up to marks. -/
theorem Dispatched.keeps {w w' : World σ} {token : Token} (h : Dispatched w token w') :
    Supervisor.Keeps w.sup w'.sup ∧ w'.calls = w.calls := by
  cases h with
  | idle => exact ⟨Supervisor.keeps_of_worker? rfl rfl rfl fun _ => rfl, rfl⟩
  | drained known current holds there drained frames rewired =>
      exact ⟨rewired.keeps known (Supervisor.kept_noteMask holds _ _ _), rfl⟩

/-- So does a look at a worker's region. -/
theorem Received.keeps {w w' : World σ} {now : Instant} {id : WorkerId}
    (h : Received w now id w') : Supervisor.Keeps w.sup w'.sup ∧ w'.calls = w.calls := by
  cases h with
  | skipped => exact ⟨Supervisor.keeps_of_worker? rfl rfl rfl fun _ => rfl, rfl⟩
  | noted quiet => exact ⟨Supervisor.keeps_modifyWorker w.sup _ quiet, rfl⟩
  | taken waits quiet took counted rewired filled => exact ⟨waits.keeps_taken quiet rewired, rfl⟩
  | missed waits quiet missed rewired frames =>
      exact ⟨rewired.keeps waits.known (quiet.kept _), rfl⟩
  | cut waits quiet took uncounted rewired frames =>
      exact ⟨rewired.keeps waits.known (quiet.kept _), rfl⟩

/-- A new source. -/
theorem keeps_add {w : World σ} {id : WorkerId} {source : String} {now : Instant}
    {s : Supervisor (Recorder σ)} (h : w.sup.addWorker id source now = .ok s) :
    Supervisor.Keeps w.sup (w.withSup (s.addCache id)).sup := by
  have keeps := Supervisor.keeps_addWorker h
  exact ⟨keeps.manager, keeps.policy, keeps.watched, keeps.kept, keeps.added⟩

/-- A deed of a producer. -/
theorem keeps_produce {w : World σ} {n : Nat} {link : Link} (there : w.sup.links[n]? = some link)
    (d : Deed) : Supervisor.Keeps w.sup (w.produce n d).sup ∧ (w.produce n d).calls = w.calls := by
  rw [produce_of_link there]
  refine ⟨Supervisor.keeps_of_worker? rfl rfl ?_ fun _ => rfl, rfl⟩
  show (if _ then w.sup.poller else w.sup.poller.wake _).watched = _
  split
  · rfl
  · exact w.sup.poller.watched_wake _

/-- A consumer's release. -/
theorem keeps_release {w : World σ} {id : WorkerId} {now : Instant} {mux : Mux (Recorder σ)}
    (h : w.mux.release id now = .ok mux) : Supervisor.Keeps w.sup (World.sup { w with mux }) := by
  have sup : World.sup { w with mux } = Supervisor.noteRelease _ _ _ := release_ok h
  rw [sup]
  exact keeps_noteRelease _ _ _ _

/-- Every record bears the identifier of its worker. -/
def Named (w : World σ) : Prop := ∀ id, w.sup.Named id

theorem named_start (manager : σ) (config : Config) (now : Instant) :
    (start manager config now).Named := by
  intro id rec known
  cases known

end World

/-- The calls when a process was started. -/
theorem Supervisor.calls_spawned {σ : Type} [ProcessManager σ] {id : WorkerId}
    {s : Supervisor (Recorder σ)} {w : Worker} {started : Spawned}
    (succeeded : (ProcessManager.spawn s.manager id w.source).1 = some started) (now : Instant) :
    ((((s.noteAttempt id now).afterSpawn id w.source).adopt w started).enter id .alive
      now).manager.calls = s.manager.calls ++ [.spawn id w.source (some started)] := by
  rw [manager_enter, (linksOnly_adopt _ w started).manager, ← succeeded]
  rfl

/-- A move only adds to the record of calls. -/
theorem Supervisor.Move.calls {σ : Type} [ProcessManager σ] {id : WorkerId}
    {s s' : Supervisor (Recorder σ)} (h : Move id s s') :
    ∃ new, s'.manager.calls = s.manager.calls ++ new := by
  cases h with
  | enter => exact ⟨[], (List.append_nil _).symm⟩
  | kill => exact ⟨_, rfl⟩
  | reapRunning => exact ⟨_, rfl⟩
  | reapDead => exact ⟨_, rfl⟩
  | bury => exact ⟨[], by simp⟩
  | release => exact ⟨[], by simp⟩
  | letGo => exact ⟨[], by simp⟩
  | spawnFailed => exact ⟨_, rfl⟩
  | spawned now _ _ succeeded => exact ⟨_, calls_spawned succeeded now⟩

theorem Supervisor.Moves.calls {σ : Type} [ProcessManager σ] {id : WorkerId}
    {s s' : Supervisor (Recorder σ)} (h : Moves id s s') :
    ∃ new, s'.manager.calls = s.manager.calls ++ new := by
  induction h with
  | refl s => exact ⟨[], (List.append_nil _).symm⟩
  | step first _ ih =>
      obtain ⟨new, eq⟩ := first.calls
      obtain ⟨new', eq'⟩ := ih
      exact ⟨new ++ new', by rw [eq', eq, List.append_assoc]⟩

namespace World

variable {σ : Type} [ProcessManager σ]

/-! ### Parts -/

/-- One part of an action, given which deeds of the producers there may be. -/
inductive Part (D : Nat → Deed → Prop) : World σ → World σ → Prop
  | move {w : World σ} {id : WorkerId} {s : Supervisor (Recorder σ)}
      (h : Supervisor.Move id w.sup s) : Part D w (w.follow id s)
  | add {w : World σ} {id : WorkerId} {source : String} {now : Instant}
      {s : Supervisor (Recorder σ)} (h : w.sup.addWorker id source now = .ok s) :
      Part D w (w.withSup (s.addCache id))
  | wait {w : World σ} :
      Part D w { w.withSup w.sup.wait.2 with inFlight := w.inFlight ++ w.sup.wait.1 }
  | dispatch {w w' : World σ} {token : Token} (h : Dispatched w token w') :
      Part D w w'
  | receive {w w' : World σ} {now : Instant} {id : WorkerId} (h : Received w now id w') :
      Part D w w'
  | produce {w : World σ} {n : Nat} {link : Link} (there : w.sup.links[n]? = some link) (d : Deed)
      (allowed : D n d) : Part D w (w.produce n d)
  | pullOne {w : World σ} (now : Instant) : Part D w (w.step (.pullOne now))
  | pullBatch {w : World σ} (n : Nat) (now : Instant) :
      Part D w (w.step (.pullBatch n now))
  | release {w : World σ} {id : WorkerId} {now : Instant} (mux : Mux (Recorder σ))
      (h : w.mux.release id now = .ok mux) : Part D w { w with mux }

/-- A chain of parts. -/
inductive Parts (D : Nat → Deed → Prop) : World σ → World σ → Prop
  | refl (w : World σ) : Parts D w w
  | step {w w' w'' : World σ} : Part D w w' → Parts D w' w'' → Parts D w w''

variable {D : Nat → Deed → Prop}

/-- More deeds may be allowed. -/
theorem Part.mono {D' : Nat → Deed → Prop} (wider : ∀ n d, D n d → D' n d) {w w' : World σ}
    (h : Part D w w') : Part D' w w' := by
  cases h with
  | move h => exact .move h
  | add h => exact .add h
  | wait => exact .wait
  | dispatch h => exact .dispatch h
  | receive h => exact .receive h
  | produce there d allowed => exact .produce there d (wider _ d allowed)
  | pullOne now => exact .pullOne now
  | pullBatch n now => exact .pullBatch n now
  | release mux h => exact .release mux h

theorem Part.parts {w w' : World σ} (h : Part D w w') : Parts D w w' := .step h (.refl w')

theorem Parts.trans {w w' w'' : World σ} (h : Parts D w w')
    (h' : Parts D w' w'') : Parts D w w'' := by
  induction h with
  | refl _ => exact h'
  | step first _ ih => exact .step first (ih h')

/-- What every part preserves, every chain of parts preserves. -/
theorem Parts.induction {I : World σ → Prop} (part : ∀ w w', I w → Part D w w' → I w')
    {w w' : World σ} (h : Parts D w w') (start : I w) : I w' := by
  induction h with
  | refl _ => exact start
  | step first _ ih => exact ih (part _ _ start first)

/-! ### Induction over an action -/

omit [ProcessManager σ] in
/-- What is done for every worker of a list preserves what it preserves for one. -/
theorem forEach_induction {I : World σ → Prop} {f : World σ → WorkerId → World σ}
    (one : ∀ w id, I w → I (f w id)) {w : World σ} (start : I w) (ids : List WorkerId) :
    I (w.forEach ids f) := by
  unfold forEach
  induction ids generalizing w with
  | nil => exact start
  | cons id rest ih => exact ih (one w id start)

/-- What every move preserves, every chain of moves preserves. -/
theorem follow_induction {I : World σ → Prop}
    (move : ∀ w id s, I w → Supervisor.Move id w.sup s → I (w.follow id s)) {id : WorkerId}
    {s s' : Supervisor (Recorder σ)} (h : Supervisor.Moves id s s') {w : World σ} (same : w.sup = s)
    (start : I w) : I (w.follow id s') := by
  induction h generalizing w with
  | refl s =>
      subst same
      rwa [follow_of_manager id rfl]
  | step first rest ih =>
      subst same
      obtain ⟨new, calls⟩ := first.calls
      obtain ⟨new', calls'⟩ := rest.calls
      rw [← follow_follow id calls calls']
      exact ih rfl (move w id _ start first)

/-- What the supervisor does of its own accord, or on request. -/
def Action.supervises : Action → Bool
  | tick _ | event _ _ _ _ | killWorker _ _ | reapWorker _ _ | releaseWorker _ _ | killAll | reapAll
  | releaseAll => true
  | _ => false

/-- **What every move preserves, the supervisor preserves** in whatever it does. -/
theorem supervise_induction {I : World σ → Prop} (named : ∀ w, I w → w.Named)
    (move : ∀ w id s, I w → Supervisor.Move id w.sup s → I (w.follow id s)) {a : Action}
    (supervises : a.supervises = true) {w : World σ} (start : I w) : I (w.step a) := by
  have follow {v : World σ} {id : WorkerId} {s : Supervisor (Recorder σ)} (h : I v)
      (moves : Supervisor.Moves id v.sup s) : I (v.follow id s) :=
    follow_induction move moves rfl h
  have attempt (id : WorkerId) (effect : Effect) (now : Instant) :
      I (w.attempt id (w.sup.retryKnown id effect now)) := by
    unfold Supervisor.retryKnown
    split
    · exact follow start (Supervisor.moves_retry (named w start id) effect now)
    · exact start
  cases a with
  | tick now =>
      refine forEach_induction ?_ start _
      exact fun v id h => follow h (Supervisor.moves_tickWorker (named v h id) now)
  | event id event external now =>
      exact follow start (Supervisor.moves_handleEvent (named w start id) external now)
  | killWorker id now => exact attempt id .kill now
  | reapWorker id now => exact attempt id .reap now
  | releaseWorker id now => exact attempt id .release now
  | killAll =>
      refine forEach_induction ?_ start _
      exact fun v id h => follow h (Supervisor.moves_killProcess v.sup id)
  | reapAll =>
      refine forEach_induction ?_ start _
      exact fun v id h => follow h (Supervisor.moves_reapProcess v.sup 0 id)
  | releaseAll =>
      refine forEach_induction ?_ start _
      exact fun v id h => follow h Supervisor.Move.letGo.moves
  | _ => cases supervises

/-- What the supervisor does for a worker comes in parts. -/
theorem parts_follow {id : WorkerId} {s s' : Supervisor (Recorder σ)}
    (h : Supervisor.Moves id s s') {w : World σ} (same : w.sup = s) :
    Parts D w (w.follow id s') := by
  refine follow_induction (I := Parts D w) ?_ h same (.refl w)
  exact fun v id s parts move => parts.trans (Part.move move).parts

/-! ### Parts that are no moves -/

/-- Pulling a frame concerns nothing but the caches, and takes nothing out of them. -/
theorem sup_pullOne (w : World σ) (now : Instant) :
    ∃ frames, (w.step (.pullOne now)).sup = { w.sup with frames } ∧
      frames.lastFid = w.sup.frames.lastFid ∧
      ∀ id, frames.snapshot id = w.sup.frames.snapshot id := by
  have lastFid := w.sup.frames.lastFid_pullOne
  have snapshot := w.sup.frames.snapshot_pullOne
  simp only [step, Mux.pullOne]
  split
  · exact ⟨w.sup.frames, rfl, rfl, fun _ => rfl⟩
  · next frame frames pulled =>
      change w.sup.frames.pullOne = _ at pulled
      rw [pulled] at lastFid snapshot
      exact ⟨frames, rfl, lastFid, snapshot⟩

/-- So does pulling a batch. -/
theorem sup_pullBatch (w : World σ) (n : Nat) (now : Instant) :
    ∃ frames, (w.step (.pullBatch n now)).sup = { w.sup with frames } ∧
      frames.lastFid = w.sup.frames.lastFid ∧
      ∀ id, frames.snapshot id = w.sup.frames.snapshot id := by
  have lastFid := w.sup.frames.lastFid_pullBatch n
  have snapshot := w.sup.frames.snapshot_pullBatch n
  simp only [step, Mux.pullBatch]
  split
  · exact ⟨w.sup.frames, rfl, rfl, fun _ => rfl⟩
  · next batch frames pulled =>
      change w.sup.frames.pullBatch n = _ at pulled
      rw [pulled] at lastFid snapshot
      exact ⟨frames, rfl, lastFid, snapshot⟩

theorem keeps_pullOne (w : World σ) (now : Instant) :
    Supervisor.Keeps w.sup (w.step (.pullOne now)).sup := by
  obtain ⟨frames, eq, -⟩ := w.sup_pullOne now
  rw [eq]
  exact keeps_withFrames w.sup frames

theorem keeps_pullBatch (w : World σ) (n : Nat) (now : Instant) :
    Supervisor.Keeps w.sup (w.step (.pullBatch n now)).sup := by
  obtain ⟨frames, eq, -⟩ := w.sup_pullBatch n now
  rw [eq]
  exact keeps_withFrames w.sup frames

/-- A part is a move for one worker, or it keeps all records up to marks and makes no calls. -/
theorem Part.move_or_keeps {w w' : World σ} (h : Part D w w') :
    (∃ id s, Supervisor.Move id w.sup s ∧ w' = w.follow id s) ∨
    (Supervisor.Keeps w.sup w'.sup ∧ w'.calls = w.calls) := by
  cases h with
  | move h => exact Or.inl ⟨_, _, h, rfl⟩
  | add h => exact Or.inr ⟨keeps_add h, rfl⟩
  | wait => exact Or.inr ⟨Supervisor.keeps_of_worker? rfl rfl rfl fun _ => rfl, rfl⟩
  | dispatch h => exact Or.inr h.keeps
  | receive h => exact Or.inr h.keeps
  | produce there d => exact Or.inr (keeps_produce there d)
  | pullOne now => exact Or.inr ⟨w.keeps_pullOne now, rfl⟩
  | pullBatch n now => exact Or.inr ⟨w.keeps_pullBatch n now, rfl⟩
  | release mux h => exact Or.inr ⟨keeps_release h, rfl⟩

/-! ### Names -/

theorem Part.named {w w' : World σ} (h : Part D w w') (named : w.Named) : w'.Named := by
  intro other rec known
  rcases h.move_or_keeps with ⟨id, s, move, rfl⟩ | ⟨keeps, -⟩
  · by_cases same : other = id
    · subst same
      exact move.named (named other) rec known
    · have unchanged : s.worker? other = w.sup.worker? other :=
        move.worker?_of_ne (named id) same
      exact named other rec (unchanged.symm.trans known)
  · cases before : w.sup.worker? other with
    | none =>
        obtain ⟨source, now, rfl⟩ := keeps.added other rec known before
        rfl
    | some v =>
        obtain ⟨u, known', kept⟩ := keeps.kept other v before
        obtain rfl : u = rec := Option.some.inj (known'.symm.trans known)
        exact kept.id.trans (named other v before)

theorem Parts.named {w w' : World σ} (h : Parts D w w') (named : w.Named) : w'.Named :=
  h.induction (fun _ _ named part => part.named named) named

/-! ### Actions -/

/-- **Every action is a chain of parts.** -/
theorem parts_step {w : World σ} (named : w.Named) (a : Action)
    (allowed : ∀ n d, a = .produce n d → D n d) : Parts D w (w.step a) := by
  cases supervises : a.supervises with
  | true =>
      refine (supervise_induction (I := fun v => v.Named ∧ Parts D w v) (fun _ h => h.1) ?_ supervises
        ⟨named, .refl w⟩).2
      rintro v id s ⟨named, parts⟩ move
      have part : Part D v (v.follow id s) := .move move
      exact ⟨part.named named, parts.trans part.parts⟩
  | false =>
      cases a with
      | addWorker id source now =>
          simp only [step]
          split
          · next h => exact (Part.add h).parts
          · exact .refl w
      | wait => exact Part.wait.parts
      | dispatch token mmap => exact (Part.dispatch (w.dispatched_dispatch token mmap)).parts
      | readFrames now =>
          refine forEach_induction (I := Parts D w) ?_ (.refl w) _
          exact fun v id parts => parts.trans (Part.receive (v.received_receive now id)).parts
      | pullOne now => exact (Part.pullOne now).parts
      | pullBatch n now => exact (Part.pullBatch n now).parts
      | snapshot id => exact .refl w
      | release id now =>
          simp only [step]
          cases released : w.mux.release id now with
          | error e => exact .refl w
          | ok mux => exact (Part.release mux released).parts
      | produce n deed =>
          cases there : w.sup.links[n]? with
          | none =>
              rw [step, produce_of_unlinked there]
              exact .refl w
          | some link => exact (Part.produce there deed (allowed n deed rfl)).parts
      | _ => cases supervises

/-- Every run is a chain of parts. -/
theorem parts_run {w : World σ} (named : w.Named) (l : List Action)
    (allowed : ∀ n d, .produce n d ∈ l → D n d) : Parts D w (w.run l) := by
  induction l generalizing w with
  | nil => exact .refl w
  | cons a rest ih =>
      have first : Parts D w (w.step a) := by
        refine parts_step named a ?_
        rintro n d rfl
        exact allowed n d List.mem_cons_self
      exact first.trans (ih (first.named named) fun n d mem =>
        allowed n d (List.mem_cons_of_mem _ mem))

/-- Records go on bearing the identifiers of their workers. -/
theorem Named.run {w : World σ} (named : w.Named) (l : List Action) : (w.run l).Named :=
  (parts_run (D := fun _ _ => True) named l fun _ _ _ => trivial).named named

/-- The records of every run bear the identifiers of their workers. -/
theorem named_run (manager : σ) (config : Config) (now : Instant) (l : List Action) :
    ((start manager config now).run l).Named :=
  (named_start manager config now).run l

/-- **What holds at the start and is preserved by every part holds throughout every run.** -/
theorem run_induction {I : World σ → Prop} (manager : σ) (config : Config) (now : Instant)
    (initial : I (start manager config now))
    (part : ∀ w w', Named w → I w → Part (fun _ _ => True) w w' → I w') (l : List Action) :
    I ((start manager config now).run l) := by
  have both : ∀ w w', Named w ∧ I w → Part (fun _ _ => True) w w' → Named w' ∧ I w' := fun w w' h p =>
    ⟨p.named h.1, part w w' h.1 h.2 p⟩
  have named := named_start manager config now
  exact ((parts_run named l fun _ _ _ => trivial).induction both ⟨named, initial⟩).2

end World

end FrameMux
