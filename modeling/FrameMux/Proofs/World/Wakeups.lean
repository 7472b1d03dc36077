/-
**Wakeups.**

A producer tells about a picture once, and the poller reports a counter once, so the source is
starved for good if either gets lost on the way to the worker's mark.  This module says what holds of a
worker and its link all along: the link is accounted for, and a counter that holds something will be
drained.

Main definitions:

* `FrameMux.World.Attached` — what holds of a worker, its link, and the ledger of its producer;
* `FrameMux.World.Linked` — **the invariant**: it holds of every worker that has a link.

Main results:

* `FrameMux.World.Linked.rewire` — what concerns one worker and its link keeps it;
* `FrameMux.World.Linked.move`, `FrameMux.World.Linked.part` — every part of an action keeps it;
* `FrameMux.World.linked_run` — **the invariant holds throughout every run**.
-/

import FrameMux.Proofs.Handoff.Severed
import FrameMux.Proofs.Poller
import FrameMux.Proofs.World.Parts

set_option relaxedAutoImplicit false
set_option autoImplicit false

namespace FrameMux

namespace World

variable {σ : Type}

/-- A worker with the link that it holds and the ledger of the producer at its other end: the counter
is watched under the worker's generation, the link is accounted for, and a counter that holds something
is ready or reported. -/
structure Attached (w : World σ) (id : WorkerId) (rec : Worker) (channels : WorkerLink) (g : Ledger)
    (l : Link) : Prop where
  ledger : w.ledgers[channels.link]? = some g
  link : w.sup.links[channels.link]? = some l
  worker : g.worker = id
  watched : w.sup.poller.token? channels.link = some ⟨id, rec.generation⟩
  accounted : Accounted g l channels.reader rec.frameWaiting
  awake : l.notifier.pending = true →
    channels.link ∈ w.sup.poller.ready ∨ ⟨id, rec.generation⟩ ∈ w.inFlight

/-- Every link has a ledger, every worker that holds a link is attached to it, and a worker that is
about to be started holds none. -/
structure Linked (w : World σ) : Prop where
  ledgers : w.ledgers.length = w.sup.links.length
  held : ∀ id rec channels, w.sup.worker? id = some rec → rec.channels = some channels →
    ∃ g l, Attached w id rec channels g l
  apart : ∀ id rec, w.sup.worker? id = some rec →
    rec.state = .creating ∨ rec.state = .buried → rec.channels = none

/-- A link that is regular is wired. -/
theorem Attached.wired {w : World σ} {id : WorkerId} {rec : Worker} {channels : WorkerLink}
    {g : Ledger} {l : Link} (h : Attached w id rec channels g l) (regular : g.regular = true) :
    Wired g l channels.reader rec.frameWaiting := h.accounted.wired regular

/-- An attached worker stays attached if its link and its ledger are left alone. -/
theorem Attached.mono {w w' : World σ} {id : WorkerId} {rec rec' : Worker} {channels : WorkerLink}
    {g : Ledger} {l : Link} (h : Attached w id rec channels g l)
    (ledger : w'.ledgers[channels.link]? = w.ledgers[channels.link]?)
    (spares : Supervisor.Spares w.sup w'.sup channels.link)
    (reported : ⟨id, rec.generation⟩ ∈ w.inFlight → ⟨id, rec.generation⟩ ∈ w'.inFlight)
    (generation : rec'.generation = rec.generation)
    (waiting : rec'.frameWaiting = rec.frameWaiting) : Attached w' id rec' channels g l where
  ledger := ledger.trans h.ledger
  link := spares.link.trans h.link
  worker := h.worker
  watched := by rw [spares.token, h.watched, generation]
  accounted := by rw [waiting]; exact h.accounted
  awake := by
    rw [generation]
    exact fun pending => (h.awake pending).imp spares.ready reported

/-- No two workers hold one link. -/
theorem Linked.unique {w : World σ} (h : w.Linked) {id id' : WorkerId} {rec rec' : Worker}
    {channels channels' : WorkerLink} (known : w.sup.worker? id = some rec)
    (holds : rec.channels = some channels) (known' : w.sup.worker? id' = some rec')
    (holds' : rec'.channels = some channels') (same : channels.link = channels'.link) : id = id' := by
  obtain ⟨g, l, attached⟩ := h.held id rec channels known holds
  obtain ⟨g', l', attached'⟩ := h.held id' rec' channels' known' holds'
  have ledger := attached.ledger
  rw [same, attached'.ledger] at ledger
  cases ledger
  exact attached.worker.symm.trans attached'.worker

/-- The ledgers when no process was started. -/
theorem ledgers_follow {w : World σ} {s : Supervisor (Recorder σ)} {new : List Call} (id : WorkerId)
    (made : s.manager.calls = w.sup.manager.calls ++ new)
    (unopened : new.filterMap (Call.opened id) = []) : (w.follow id s).ledgers = w.ledgers := by
  rw [follow_eq id made, unopened, List.append_nil]

/-- The ledgers when nothing was called. -/
theorem ledgers_follow_of_manager {w : World σ} {s : Supervisor (Recorder σ)} (id : WorkerId)
    (manager : s.manager = w.sup.manager) : (w.follow id s).ledgers = w.ledgers := by
  rw [follow_of_manager id manager]
  rfl

/-- A move that leaves the links alone. -/
theorem Linked.follow_same {w : World σ} (h : w.Linked) {id : WorkerId}
    {s : Supervisor (Recorder σ)} (links : s.links = w.sup.links) (poller : s.poller = w.sup.poller)
    (ledgers : (w.follow id s).ledgers = w.ledgers)
    (others : ∀ other, other ≠ id → s.worker? other = w.sup.worker? other)
    {rec rec' : Worker} (known : w.sup.worker? id = some rec) (known' : s.worker? id = some rec')
    (generation : rec'.generation = rec.generation) (channels : rec'.channels = rec.channels)
    (waiting : rec'.frameWaiting = rec.frameWaiting)
    (apart : rec'.state = .creating ∨ rec'.state = .buried → rec'.channels = none) :
    (w.follow id s).Linked where
  ledgers := by
    rw [ledgers, h.ledgers]
    exact congrArg List.length links.symm
  held := by
    intro other v held known'' holds
    have known'' : s.worker? other = some v := known''
    by_cases same : other = id
    · subst same
      obtain rfl : rec' = v := Option.some.inj (known'.symm.trans known'')
      obtain ⟨g, l, attached⟩ := h.held other rec held known (channels ▸ holds)
      exact ⟨g, l, attached.mono (by rw [ledgers]) (Supervisor.spares_of_eq links poller _)
        (fun reported => reported) generation waiting⟩
    · obtain ⟨g, l, attached⟩ := h.held other v held ((others other same).symm.trans known'') holds
      exact ⟨g, l, attached.mono (by rw [ledgers]) (Supervisor.spares_of_eq links poller _)
        (fun reported => reported) rfl rfl⟩
  apart := by
    intro other v known''
    have known'' : s.worker? other = some v := known''
    by_cases same : other = id
    · subst same
      obtain rfl : rec' = v := Option.some.inj (known'.symm.trans known'')
      exact apart
    · exact h.apart other v ((others other same).symm.trans known'')

/-- A move that lets go of a worker's link. -/
theorem Linked.follow_released {w : World σ} (h : w.Linked) {id : WorkerId}
    {s : Supervisor (Recorder σ)} (length : s.links.length = w.sup.links.length)
    (spares : ∀ n, w.held? id ≠ some n → Supervisor.Spares w.sup s n)
    (ledgers : (w.follow id s).ledgers = w.ledgers)
    (others : ∀ other, other ≠ id → s.worker? other = w.sup.worker? other)
    (released : ∀ rec, s.worker? id = some rec → rec.channels = none) :
    (w.follow id s).Linked where
  ledgers := by
    rw [ledgers, h.ledgers]
    exact length.symm
  held := by
    intro other v channels known holds
    have known : s.worker? other = some v := known
    by_cases same : other = id
    · subst same
      rw [released v known] at holds
      cases holds
    · have known' := (others other same).symm.trans known
      obtain ⟨g, l, attached⟩ := h.held other v channels known' holds
      -- The link of another worker is another link.
      have other_link : w.held? id ≠ some channels.link := by
        intro held
        obtain ⟨channels', held, link⟩ := Option.map_eq_some_iff.1 held
        obtain ⟨rec, known'', holds'⟩ := Option.bind_eq_some_iff.1 held
        exact same (h.unique known' holds known'' holds' link.symm)
      exact ⟨g, l, attached.mono (by rw [ledgers]) (spares _ other_link) (fun t => t) rfl rfl⟩
  apart := by
    intro other v known
    have known : s.worker? other = some v := known
    by_cases same : other = id
    · subst same
      exact fun _ => released v known
    · exact h.apart other v ((others other same).symm.trans known)

/-- A move that gives a worker a new link. -/
theorem Linked.follow_opened {w : World σ} (h : w.Linked) {id : WorkerId} {generation : UInt32}
    (early : List EventMask) {s : Supervisor (Recorder σ)}
    (links : s.links = w.sup.links ++ [(Ledger.opening id early).2])
    (poller : s.poller = w.sup.poller.register w.sup.links.length ⟨id, generation⟩
      (Ledger.opening id early).2.notifier.pending)
    (ledgers : (w.follow id s).ledgers = w.ledgers ++ [(Ledger.opening id early).1])
    (others : ∀ other, other ≠ id → s.worker? other = w.sup.worker? other)
    {rec : Worker} (known : s.worker? id = some rec) (current : rec.generation = generation)
    (holds : rec.channels = some ⟨w.sup.links.length, none⟩) (waiting : rec.frameWaiting = false)
    (alive : rec.state = .alive) : (w.follow id s).Linked where
  ledgers := by
    show _ = s.links.length
    rw [ledgers, links, List.length_append, List.length_append, h.ledgers]
    rfl
  held := by
    intro other v channels known' holds'
    have known' : s.worker? other = some v := known'
    by_cases same : other = id
    · subst same
      obtain rfl : rec = v := Option.some.inj (known.symm.trans known')
      obtain rfl : ⟨w.sup.links.length, none⟩ = channels := Option.some.inj (holds.symm.trans holds')
      refine ⟨(Ledger.opening other early).1, (Ledger.opening other early).2, ?_, ?_, ?_, ?_, ?_, ?_⟩
      · rw [ledgers, ← h.ledgers, List.getElem?_concat_length]
      · show s.links[_]? = _
        rw [links, List.getElem?_concat_length]
      · exact (Deed.extends_foldl (early.map .announce) (.fresh other, .fresh)).worker
      · show s.poller.token? _ = _
        rw [poller, current, Poller.token?_register_self]
      · rw [waiting]
        exact Accounted.opening other early
      · intro pending
        left
        show _ ∈ s.poller.ready
        rw [poller, pending]
        exact Poller.mem_ready_register _ _ _
    · have known'' := (others other same).symm.trans known'
      obtain ⟨g, l, attached⟩ := h.held other v channels known'' holds'
      have below : channels.link < w.sup.links.length := (List.getElem?_eq_some_iff.1 attached.link).1
      have ne : channels.link ≠ w.sup.links.length := Nat.ne_of_lt below
      have spares : Supervisor.Spares w.sup s channels.link := by
        refine ⟨?_, ?_, ?_⟩
        · rw [links, List.getElem?_append_left below]
        · rw [poller, Poller.token?_register_of_ne ne]
        · intro ready
          rw [poller]
          exact Poller.mem_ready_register_of_mem ready _ _ _
      refine ⟨g, l, attached.mono ?_ spares (fun t => t) rfl rfl⟩
      rw [ledgers, List.getElem?_append_left (h.ledgers ▸ below)]
  apart := by
    intro other v known' starting
    have known' : s.worker? other = some v := known'
    by_cases same : other = id
    · subst same
      obtain rfl : rec = v := Option.some.inj (known.symm.trans known')
      rw [alive] at starting
      rcases starting with starting | starting <;> cases starting
    · exact h.apart other v ((others other same).symm.trans known') starting

/-! ### Other parts -/

/-- Another record for one worker, and another state of its link and of the ledger behind it. -/
theorem Linked.rewire {w w' : World σ} (h : w.Linked) {id : WorkerId} {rec rec' : Worker}
    {channels channels' : WorkerLink} {l l' : Link} (known : w.sup.worker? id = some rec)
    (holds : rec.channels = some channels) (there : w.sup.links[channels.link]? = some l)
    (rewired : Supervisor.Rewired w.sup w'.sup id rec' channels.link l')
    (holds' : rec'.channels = some channels') (link : channels'.link = channels.link)
    (state : rec'.state = rec.state) (generation : rec'.generation = rec.generation)
    (f : Ledger → Ledger) (ledgers : w'.ledgers = w.ledgers.modify channels.link f)
    (worker : ∀ g, (f g).worker = g.worker)
    (accounted : ∀ g, Accounted g l channels.reader rec.frameWaiting →
      Accounted (f g) l' channels'.reader rec'.frameWaiting)
    (awake : l'.notifier.pending = true → l.notifier.pending = true ∧ w'.inFlight = w.inFlight)
    (reported : ∀ t : Token, t.worker ≠ id → t ∈ w.inFlight → t ∈ w'.inFlight) : w'.Linked := by
  obtain ⟨g, l₀, attached⟩ := h.held id rec channels known holds
  obtain rfl : l₀ = l := Option.some.inj (attached.link.symm.trans there)
  have below : channels.link < w.sup.links.length := (List.getElem?_eq_some_iff.1 there).1
  refine ⟨?_, ?_, ?_⟩
  · rw [ledgers, rewired.links, List.length_modify, List.length_set, h.ledgers]
  · intro other v held known' holds''
    by_cases same : other = id
    · subst same
      obtain rfl : rec' = v := Option.some.inj (rewired.worker.symm.trans known')
      obtain rfl : channels' = held := Option.some.inj (holds'.symm.trans holds'')
      refine ⟨f g, l', ?_, ?_, (worker g).trans attached.worker, ?_, ?_, ?_⟩
      · rw [ledgers, link, List.getElem?_modify_eq, attached.ledger]
        rfl
      · rw [rewired.links, link, List.getElem?_set_self below]
      · rw [rewired.poller, link, generation, attached.watched]
      · exact accounted g attached.accounted
      · intro pending
        obtain ⟨before, inFlight⟩ := awake pending
        rw [rewired.poller, link, generation, inFlight]
        exact attached.awake before
    · have before := (rewired.others other same).symm.trans known'
      obtain ⟨g', l₁, attached'⟩ := h.held other v held before holds''
      have apart : channels.link ≠ held.link := fun link =>
        same (h.unique known holds before holds'' link).symm
      have ledger : w'.ledgers[held.link]? = w.ledgers[held.link]? := by
        rw [ledgers, List.getElem?_modify_ne _ _ apart]
      exact ⟨g', l₁, attached'.mono ledger (rewired.spares apart) (reported _ same) rfl rfl⟩
  · intro other v known'
    by_cases same : other = id
    · subst same
      obtain rfl : rec' = v := Option.some.inj (rewired.worker.symm.trans known')
      intro starting
      rw [state] at starting
      rw [h.apart other rec known starting] at holds
      cases holds
    · exact h.apart other v ((rewired.others other same).symm.trans known')

/-- Something that concerns no link, and records only quietly. -/
theorem Linked.of_spares {w w' : World σ} (h : w.Linked) (ledgers : w'.ledgers = w.ledgers)
    (links : w'.sup.links = w.sup.links)
    (spares : ∀ n, Supervisor.Spares w.sup w'.sup n) (inFlight : w'.inFlight = w.inFlight)
    (records : ∀ id rec', w'.sup.worker? id = some rec' → rec'.channels = none ∨
      ∃ rec, w.sup.worker? id = some rec ∧ rec'.channels = rec.channels ∧
        rec'.state = rec.state ∧ rec'.generation = rec.generation ∧
        rec'.frameWaiting = rec.frameWaiting) : w'.Linked where
  ledgers := by rw [ledgers, links, h.ledgers]
  held := by
    intro id rec' channels known holds
    rcases records id rec' known with unlinked | ⟨rec, known', same, -, generation, waiting⟩
    · rw [unlinked] at holds
      cases holds
    · obtain ⟨g, l, attached⟩ := h.held id rec channels known' (same ▸ holds)
      exact ⟨g, l, attached.mono (by rw [ledgers]) (spares _) (by rw [inFlight]; exact fun t => t)
        generation waiting⟩
  apart := by
    intro id rec' known starting
    rcases records id rec' known with unlinked | ⟨rec, known', same, state, -, -⟩
    · exact unlinked
    · rw [same]
      exact h.apart id rec known' (state ▸ starting)

/-- A wait reports ready counters or leaves them ready. -/
theorem Linked.wait {w : World σ} (h : w.Linked) :
    Linked { w.withSup w.sup.wait.2 with inFlight := w.inFlight ++ w.sup.wait.1 } where
  ledgers := h.ledgers
  held := by
    intro id rec channels known holds
    obtain ⟨g, l, attached⟩ := h.held id rec channels known holds
    refine ⟨g, l, attached.ledger, attached.link, attached.worker, attached.watched,
      attached.accounted, ?_⟩
    intro pending
    rcases attached.awake pending with ready | reported
    · have signalled : ((w.sup.links[channels.link]?.map fun link =>
          link.notifier.pending).getD false) = true := by
        rw [attached.link]
        exact pending
      rcases Poller.mem_wait (fun n => (w.sup.links[n]?.map fun link =>
        link.notifier.pending).getD false) attached.watched signalled ready with reported | left
      · exact Or.inr (List.mem_append_right _ reported)
      · exact Or.inl left
    · exact Or.inr (List.mem_append_left _ reported)
  apart := h.apart

/-- What negotiating does to the link of a worker leaves the counter alone. -/
theorem notifier_negotiated (mmap : Mmap) (channels : WorkerLink) (mask : EventMask) (l : Link) :
    (Supervisor.negotiated mmap channels mask l).1.notifier = l.notifier := by
  unfold Supervisor.negotiated
  split
  · obtain ⟨⟨control, same⟩, -⟩ := l.receiveRegion_cases mmap
    rw [same]
  · rfl

/-- Negotiating keeps the account of a link. -/
theorem accounted_negotiated {g : Ledger} {l : Link} {waiting : Bool} (channels : WorkerLink)
    (h : Accounted g l channels.reader waiting) (mmap : Mmap) (mask : EventMask) :
    Accounted g (Supervisor.negotiated mmap channels mask l).1
      (Supervisor.negotiated mmap channels mask l).2 waiting := by
  unfold Supervisor.negotiated
  split
  · next receives =>
      have unread : channels.reader = none := by simpa using ((Bool.and_eq_true _ _).mp receives).2
      exact (unread ▸ h).receiveRegion mmap
  · exact h

/-- Dispatching a token keeps the invariant. -/
theorem Linked.dispatched {w w' : World σ} (h : w.Linked) {token : Token}
    (part : Dispatched w token w') : w'.Linked := by
  cases part with
  | @idle discarded idle =>
      refine ⟨h.ledgers, ?_, h.apart⟩
      intro id rec channels known holds
      obtain ⟨g, l, attached⟩ := h.held id rec channels known holds
      refine ⟨g, l, attached.ledger, attached.link, attached.worker, attached.watched,
        attached.accounted, ?_⟩
      intro pending
      refine (attached.awake pending).imp (fun ready => ready) ?_
      intro reported
      by_cases same : ⟨id, rec.generation⟩ = token
      · -- Then there would have been something to drain.
        subst same
        have nothing := idle rec channels l known rfl holds attached.link
        exact absurd nothing (Notifier.drain_ne_none_of_pending pending)
      · exact (List.mem_erase_of_ne same).2 reported
  | @drained rec channels link mask mmap s known current holds there drained frames rewired =>
      have rewired : Supervisor.Rewired w.sup ({ w.withSup s with
          inFlight := w.inFlight.erase token }.modifyLedger channels.link Ledger.drained).sup
          _ _ _ _ := rewired
      refine h.rewire known holds there rewired rfl rfl rfl rfl Ledger.drained rfl (fun _ => rfl)
        (fun g accounted => accounted_negotiated channels (accounted.drained drained) mmap mask) ?_ ?_
      · -- A drained counter holds nothing.
        intro pending
        rw [notifier_negotiated, show link.drain.2.notifier = .fresh from
          Notifier.drain_snd link.notifier] at pending
        cases pending
      · intro t other reported
        exact (List.mem_erase_of_ne (ne_of_apply_ne Token.worker other)).2 reported

/-- A look at a worker's region keeps the invariant. -/
theorem Linked.received {w w' : World σ} (h : w.Linked) {now : Instant} {id : WorkerId}
    (part : Received w now id w') : w'.Linked := by
  cases part with
  | skipped => exact h
  | @noted f _ _ _ quiet =>
      refine h.of_spares rfl rfl (fun n => ⟨rfl, rfl, fun ready => ready⟩) rfl ?_
      intro other rec' known
      have known : (w.sup.modifyWorker id f).worker? other = some rec' := known
      right
      rw [Supervisor.worker?_modifyWorker] at known
      split at known
      · obtain ⟨rec, known', rfl⟩ := Option.map_eq_some_iff.1 known
        exact ⟨rec, known', quiet.channels rec, quiet.state rec, quiet.generation rec,
          quiet.frameWaiting rec⟩
      · exact ⟨rec', known, rfl, rfl, rfl, rfl⟩
  | @taken s rec n file link frame f dropped waits quiet took counted rewired filled =>
      have rewired : Supervisor.Rewired w.sup (World.sup { (w.withSup s).modifyLedger n
          Ledger.received with stored := w.stored ++ [w.receipt id n s] }) _ _ _ _ := rewired
      have holds' : (f rec).channels = some ⟨n, some file⟩ := (quiet.channels rec).trans waits.holds
      refine h.rewire waits.known waits.holds waits.there rewired holds' rfl (quiet.state rec)
        (quiet.generation rec) Ledger.received rfl (fun _ => rfl)
        (fun g accounted => (waits.waiting ▸ accounted).took took) ?_ (fun _ _ reported => reported)
      rw [Link.notifier_take]
      exact fun pending => ⟨pending, rfl⟩
  | @missed s rec n file link f waits quiet missed rewired frames =>
      have holds' : (f rec).channels = some ⟨n, some file⟩ := (quiet.channels rec).trans waits.holds
      have rewired : Supervisor.Rewired w.sup (w.withSup s).sup id (f rec) n (link.take file).2 :=
        rewired
      refine h.rewire waits.known waits.holds waits.there rewired holds' rfl
        (quiet.state rec) (quiet.generation rec) (fun g => g) (List.modify_id _ _).symm
        (fun _ => rfl) (fun g accounted => ?_) ?_ (fun _ _ reported => reported)
      · rw [waits.waiting] at accounted
        rw [quiet.frameWaiting, waits.waiting]
        exact accounted.missed missed
      · rw [Link.notifier_take]
        exact fun pending => ⟨pending, rfl⟩
  | @cut s rec n file link frame f waits quiet took uncounted rewired frames =>
      have holds' : (f rec).channels = some ⟨n, some file⟩ := (quiet.channels rec).trans waits.holds
      have rewired : Supervisor.Rewired w.sup ((w.withSup s).modifyLedger n Ledger.interrupted).sup id
          (f rec) n (link.take file).2 := rewired
      refine h.rewire waits.known waits.holds waits.there rewired holds' rfl (quiet.state rec)
        (quiet.generation rec) Ledger.interrupted rfl (fun _ => rfl) (fun g accounted => ?_) ?_
        (fun _ _ reported => reported)
      · rw [waits.waiting] at accounted
        rw [quiet.frameWaiting, waits.waiting]
        exact accounted.interrupted took
      · rw [Link.notifier_take]
        exact fun pending => ⟨pending, rfl⟩

/-- A deed of a producer keeps the invariant. -/
theorem Linked.produced {w : World σ} (h : w.Linked) {n : Nat} {link : Link}
    (there : w.sup.links[n]? = some link) (d : Deed) : (w.produce n d).Linked := by
  rw [produce_of_link there]
  have below : n < w.sup.links.length := (List.getElem?_eq_some_iff.1 there).1
  refine ⟨?_, ?_, h.apart⟩
  · show (w.ledgers.modify _ _).length = (w.sup.links.set _ _).length
    rw [List.length_modify, List.length_set, h.ledgers]
  · intro id rec channels known holds
    obtain ⟨g, l, attached⟩ := h.held id rec channels known holds
    by_cases same : n = channels.link
    · subst same
      obtain rfl : l = link := Option.some.inj (attached.link.symm.trans there)
      have ours : (w.ledgers.modify channels.link fun g => d.note g l)[channels.link]? =
          some (d.note g l) := by
        rw [List.getElem?_modify_eq, attached.ledger]
        rfl
      refine ⟨d.note g l, d.act l, ours, List.getElem?_set_self below, ?_, ?_, ?_, ?_⟩
      · exact (d.extends_note g l).worker.trans attached.worker
      · show (if l.notifier = (d.act l).notifier then w.sup.poller
          else w.sup.poller.wake channels.link).token? channels.link = _
        split
        · exact attached.watched
        · rw [Poller.token?_wake, attached.watched]
      · exact attached.accounted.perform d
      · intro pending
        show channels.link ∈ (if l.notifier = (d.act l).notifier then w.sup.poller
          else w.sup.poller.wake channels.link).ready ∨ _
        split
        · next unchanged => exact attached.awake (unchanged ▸ pending)
        · exact Or.inl (Poller.mem_ready_wake attached.watched)
    · refine ⟨g, l, attached.mono (List.getElem?_modify_ne _ _ same) ⟨?_, ?_, ?_⟩
        (fun reported => reported) rfl rfl⟩
      · exact List.getElem?_set_ne same
      · show (if link.notifier = (d.act link).notifier then w.sup.poller
          else w.sup.poller.wake n).token? channels.link = _
        split
        · rfl
        · rw [Poller.token?_wake]
      · intro ready
        show channels.link ∈ (if link.notifier = (d.act link).notifier then w.sup.poller
          else w.sup.poller.wake n).ready
        split
        · exact ready
        · exact Poller.mem_ready_wake_of_mem ready n

/-- A world with other frames. -/
theorem Linked.withFrames {w w' : World σ} (h : w.Linked) {frames : FrameStore}
    (sup : w'.sup = { w.sup with frames }) (ledgers : w'.ledgers = w.ledgers)
    (inFlight : w'.inFlight = w.inFlight) : w'.Linked := by
  refine h.of_spares ledgers ?_ ?_ inFlight ?_
  · rw [sup]
  · intro n
    rw [sup]
    exact ⟨rfl, rfl, fun ready => ready⟩
  · intro id rec known
    rw [sup] at known
    exact Or.inr ⟨rec, known, rfl, rfl, rfl, rfl⟩

variable [ProcessManager σ]

/-- **Every move keeps the invariant.** -/
theorem Linked.move {w : World σ} (h : w.Linked) (named : w.Named) {id : WorkerId}
    {s : Supervisor (Recorder σ)} (move : Supervisor.Move id w.sup s) : (w.follow id s).Linked := by
  have others : ∀ other, other ≠ id → s.worker? other = w.sup.worker? other :=
    fun _ => move.worker?_of_ne (named id)
  cases move with
  | @enter rec state now known onward =>
      refine h.follow_same rfl rfl (ledgers_follow_of_manager id rfl) others known
        (Supervisor.record_enter known state now) rfl rfl rfl ?_
      -- A worker gets there only from a state in which it has no link.
      intro starting
      generalize before : rec.state = previous at onward
      cases onward with
      | condemned | killed => rcases starting with starting | starting <;> cases starting
      | rested => exact h.apart id rec known (Or.inr before)
  | @kill rec pid known has =>
      exact h.follow_same rfl rfl (ledgers_follow id rfl rfl) others known known rfl rfl rfl
        (h.apart id rec known)
  | @reapRunning rec pid known has running =>
      exact h.follow_same rfl rfl (ledgers_follow id rfl rfl) others known known rfl rfl rfl
        (h.apart id rec known)
  | @reapDead rec pid known has dead =>
      exact h.follow_same rfl rfl (ledgers_follow id rfl rfl) others known
        (Supervisor.record_forgetPid known) rfl rfl rfl (h.apart id rec known)
  | @bury rec now known zombie gone =>
      have purged := Supervisor.record_enter known .purged now
      have record := Supervisor.record_enter (Supervisor.record_releaseChannels purged) .buried now
      refine h.follow_released ?_ ?_ ?_ others ?_
      · exact Supervisor.length_links_releaseChannels _ id
      · intro n held
        have spares : Supervisor.Spares (w.sup.enter id .purged now)
            ((w.sup.enter id .purged now).releaseChannels id) n := by
          refine Supervisor.spares_releaseChannels ?_
          rw [purged]
          rw [held?, known] at held
          exact held
        exact ⟨spares.link, spares.token, spares.ready⟩
      · exact ledgers_follow_of_manager id (by simp)
      · intro rec' known'
        cases record.symm.trans known'
        rfl
  | @release rec now known purged =>
      have record := Supervisor.record_enter (Supervisor.record_releaseChannels known) .buried now
      refine h.follow_released ?_ ?_ ?_ others ?_
      · exact Supervisor.length_links_releaseChannels _ id
      · intro n held
        have spares : Supervisor.Spares w.sup (w.sup.releaseChannels id) n :=
          Supervisor.spares_releaseChannels held
        exact ⟨spares.link, spares.token, spares.ready⟩
      · exact ledgers_follow_of_manager id (by simp)
      · intro rec' known'
        cases record.symm.trans known'
        rfl
  | letGo =>
      refine h.follow_released ?_ ?_ ?_ others ?_
      · exact Supervisor.length_links_releaseChannels _ id
      · intro n held
        have spares : Supervisor.Spares w.sup (w.sup.releaseChannels id) n :=
          Supervisor.spares_releaseChannels held
        exact ⟨spares.link, spares.token, spares.ready⟩
      · exact ledgers_follow_of_manager id (by simp)
      · intro rec known
        rw [Supervisor.worker?_resetCache, Supervisor.worker?_releaseChannels, if_pos rfl] at known
        obtain ⟨v, -, rfl⟩ := Option.map_eq_some_iff.1 known
        rfl
  | @spawnFailed rec now known creating failed =>
      have attempted := Supervisor.record_attempted known now rec.source
      have unopened : [Call.spawn id rec.source (ProcessManager.spawn w.sup.manager id
          rec.source).1].filterMap (Call.opened id) = [] := by
        rw [failed]
        rfl
      exact h.follow_same rfl rfl (ledgers_follow id rfl unopened) others known attempted rfl rfl rfl
        (h.apart id rec known)
  | @spawned rec started now known creating succeeded =>
      obtain rfl : rec.id = id := named id rec known
      have unlinked : rec.channels = none := h.apart rec.id rec known (Or.inl creating)
      have attempted := Supervisor.record_attempted known now rec.source
      have record := Supervisor.record_enter (Supervisor.record_adopt attempted started) .alive now
      refine h.follow_opened started.early ?_ ?_ ?_ others record rfl rfl rfl rfl
      · show (Supervisor.adopt _ rec started).links = _
        rw [Supervisor.links_adopt unlinked, Ledger.opening_snd]
        rfl
      · show (Supervisor.adopt _ rec started).poller = _
        rw [Supervisor.poller_adopt unlinked, Ledger.opening_snd]
        rfl
      · rw [follow_eq rec.id (Supervisor.calls_spawned succeeded now)]
        rfl

/-- **Every part keeps the invariant.** -/
theorem Linked.part {D : Nat → Deed → Prop} {w w' : World σ} (h : w.Linked) (named : w.Named)
    (part : Part D w w') :
    w'.Linked := by
  cases part with
  | move move => exact h.move named move
  | @add id source now s added =>
      refine h.of_spares rfl ?_ ?_ rfl ?_
      · obtain ⟨-, rfl⟩ := Supervisor.addWorker_ok added
        rfl
      · obtain ⟨-, rfl⟩ := Supervisor.addWorker_ok added
        exact fun n => ⟨rfl, rfl, fun ready => ready⟩
      · intro other rec known
        have known : s.worker? other = some rec := known
        rw [Supervisor.worker?_addWorker added] at known
        split at known
        · cases known
          exact Or.inl rfl
        · exact Or.inr ⟨rec, known, rfl, rfl, rfl, rfl⟩
  | wait => exact h.wait
  | dispatch dispatched => exact h.dispatched dispatched
  | receive received => exact h.received received
  | produce there d => exact h.produced there d
  | pullOne now =>
      obtain ⟨frames, sup, -⟩ := w.sup_pullOne now
      exact h.withFrames sup rfl rfl
  | pullBatch n now =>
      obtain ⟨frames, sup, -⟩ := w.sup_pullBatch n now
      exact h.withFrames sup rfl rfl
  | @release id now mux released =>
      have sup : World.sup { w with mux } = Supervisor.noteRelease _ _ _ := release_ok released
      refine h.of_spares rfl ?_ ?_ rfl ?_
      · rw [sup]
        rfl
      · intro n
        rw [sup]
        exact ⟨rfl, rfl, fun ready => ready⟩
      · intro other rec' known
        rw [sup] at known
        right
        rw [Supervisor.noteRelease, Supervisor.worker?_modifyWorker] at known
        split at known
        · obtain ⟨rec, known', rfl⟩ := Option.map_eq_some_iff.1 known
          exact ⟨rec, known', rfl, rfl, rfl, rfl⟩
        · exact ⟨rec', known, rfl, rfl, rfl, rfl⟩

/-- The invariant holds throughout every run. -/
theorem linked_run (manager : σ) (config : Config) (now : Instant) (l : List Action) :
    ((start manager config now).run l).Linked := by
  refine run_induction manager config now ?_ (fun _ _ named linked part => linked.part named part) l
  refine ⟨rfl, ?_, ?_⟩
  · intro id rec channels known
    cases known
  · intro id rec known
    cases known

end World

end FrameMux
