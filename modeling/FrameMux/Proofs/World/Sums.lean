/-
**What the counts of frames stand at.**

For every worker two words count the frames that were taken and those that were missed before them.  The
second grows by how far the numbers in the headers jump, and those are written by another process: a
number may be the greatest there is, then go back, then be the greatest again.  Where the sum is no
word, the look that would count the frame stops instead, so that both counts are always exactly what the
frames that were stored come to.

Main definitions:

* `FrameMux.lastOver`, `FrameMux.Receipt.jump` — the number of the last frame over a link, and how many
  numbers a frame jumps over;
* `FrameMux.skips` — **how many numbers were jumped over** for a worker;
* `FrameMux.World.framesReceived`, `FrameMux.World.framesDropped` — the counts of a worker;
* `FrameMux.World.Awaits`, `FrameMux.World.Overfull` — a frame waits for a worker, and one that it
  cannot count;
* `FrameMux.World.Summed` — **the invariant**: the counts are those of the receipts.

Main results:

* `FrameMux.World.Part.uncounted_or_took` — a part of an action counts nothing, or one frame;
* `FrameMux.World.summed_run` — **the counts are those of the receipts**, throughout every run;
* `FrameMux.World.Sound.stops_iff` — a pass stops exactly where a worker has a frame that it cannot
  count.
-/

import FrameMux.Proofs.World.Caches

set_option relaxedAutoImplicit false
set_option autoImplicit false

namespace FrameMux

/-! ### Jumps -/

/-- The number of the last frame that came over a link; zero if none did. -/
def lastOver (l : List Receipt) (n : Nat) : Nat :=
  ((l.filter fun r => r.link = n).getLast?.map fun r => r.sequence.toNat).getD 0

/-- How many numbers a frame jumps over, after some others. -/
def Receipt.jump (r : Receipt) (before : List Receipt) : Nat :=
  r.sequence.toNat - lastOver before r.link - 1

/-- How many numbers the frames of a worker jump over, after some others. -/
def skipsAfter (id : WorkerId) : List Receipt → List Receipt → Nat
  | _, [] => 0
  | before, r :: rest =>
      (if r.worker = id then r.jump before else 0) + skipsAfter id (before ++ [r]) rest

/-- **How many numbers were jumped over** for a worker. -/
def skips (id : WorkerId) (l : List Receipt) : Nat := skipsAfter id [] l

theorem skipsAfter_append (id : WorkerId) (before l l' : List Receipt) :
    skipsAfter id before (l ++ l') = skipsAfter id before l + skipsAfter id (before ++ l) l' := by
  induction l generalizing before with
  | nil => simp [skipsAfter]
  | cons r rest ih =>
      rw [List.cons_append, skipsAfter, ih, skipsAfter, List.append_assoc, Nat.add_assoc]
      rfl

theorem skips_append (id : WorkerId) (l l' : List Receipt) :
    skips id (l ++ l') = skips id l + skipsAfter id l l' := by
  rw [skips, skipsAfter_append, List.nil_append, skips]

theorem skips_concat (id : WorkerId) (l : List Receipt) (r : Receipt) :
    skips id (l ++ [r]) = skips id l + if r.worker = id then r.jump l else 0 := by
  rw [skips_append]
  rfl

/-- The frame that came last over a link. -/
theorem lastOver_concat (l : List Receipt) (r : Receipt) (n : Nat) :
    lastOver (l ++ [r]) n = if r.link = n then r.sequence.toNat else lastOver l n := by
  unfold lastOver
  by_cases same : r.link = n
  · simp [List.filter_append, same]
  · simp [List.filter_append, same]

/-- Over a link that is new, none did. -/
theorem lastOver_of_new {l : List Receipt} {n : Nat} (new : ∀ r ∈ l, r.link ≠ n) : lastOver l n = 0 := by
  have none_over : l.filter (fun r => r.link = n) = [] := by
    refine List.filter_eq_nil_iff.2 fun r mem => ?_
    simpa using new r mem
  rw [lastOver, none_over]
  rfl

/-! ### Counts -/

/-- What is counted in a record, and the link that it is counted over. -/
def Worker.tally (w : Worker) : UInt64 × UInt64 × UInt64 × Option Nat :=
  (w.received, w.dropped, w.taken, w.channels.map (·.link))

/-- A move counts nothing. -/
theorem Supervisor.Move.map_totals {σ : Type} [ProcessManager σ] {id : WorkerId}
    {s s' : Supervisor σ} (h : Move id s s') (named : s.Named id) (other : WorkerId) :
    (s'.worker? other).map (fun w => (w.received, w.dropped)) =
      (s.worker? other).map fun w => (w.received, w.dropped) := by
  by_cases same : other = id
  · subst same
    cases h with
    | @spawned w _ _ known =>
        have own : w.id = other := named w known
        simp [own, Function.comp_def, Worker.enter, Worker.beginGeneration]
    | _ => simp [Function.comp_def, Worker.enter]
  · rw [h.worker?_of_ne named same]

/-- The ledger of a process that was just started only has what was signalled before. -/
theorem Call.extends_opened {id : WorkerId} {call : Call} {g : Ledger}
    (h : call.opened id = some g) : (Ledger.fresh id).Extends g := by
  obtain ⟨early, rfl⟩ := call.exists_opening_of_opened h
  exact Ledger.extends_opening id early

namespace World

variable {σ : Type} {w w' : World σ} {id : WorkerId} {r : Receipt}

/-- How many frames of a worker were taken, as the worker's record has it. -/
def framesReceived (w : World σ) (id : WorkerId) : UInt64 :=
  ((w.sup.worker? id).map (·.received)).getD 0

/-- How many frames of a worker were dropped, as the worker's record has it. -/
def framesDropped (w : World σ) (id : WorkerId) : UInt64 :=
  ((w.sup.worker? id).map (·.dropped)).getD 0

/-- The number of the frame of a worker that was taken last. -/
def lastTaken (w : World σ) (id : WorkerId) : UInt64 := ((w.sup.worker? id).map (·.taken)).getD 0

/-- A frame waits for a worker: the next look at its region takes it out of the slot of its link. -/
def Awaits (w : World σ) (id : WorkerId) (n : Nat) (frame : SlotFrame) : Prop :=
  ∃ rec file link, w.sup.Waits id rec n file link ∧ (link.take file).1 = .ok (some frame)

/-- A frame waits for a worker that it cannot count: what it missed before that frame, with all that it
missed before, is no word. -/
def Overfull (w : World σ) (id : WorkerId) (n : Nat) : Prop :=
  ∃ rec file link frame, w.sup.Waits id rec n file link ∧ (link.take file).1 = .ok (some frame) ∧
    checkedAdd rec.dropped (Supervisor.skippedBefore frame.sequence rec.taken) = none

/-- Ledgers that go on by deeds, and new ones. -/
def Noted (w w' : World σ) : Prop :=
  ∀ (n : Nat) (g' : Ledger), w'.ledgers[n]? = some g' →
    (w.ledgers.length ≤ n ∧ ∃ id, (Ledger.fresh id).Extends g') ∨
    ∃ g, w.ledgers[n]? = some g ∧ g.Extends g'

/-- A link is cut over which a frame waits that its worker cannot count. -/
def Interrupts (w w' : World σ) : Prop :=
  ∃ id n, w.Overfull id n ∧ w'.ledgers = w.ledgers.modify n Ledger.interrupted

/-- Nothing is counted: no frame is stored, and what a worker has taken last over its link is as before,
unless the link is new. -/
structure Uncounted (w w' : World σ) : Prop where
  stored : w'.stored = w.stored
  noted : Noted w w' ∨ Interrupts w w'
  received : ∀ id, w'.framesReceived id = w.framesReceived id
  dropped : ∀ id, w'.framesDropped id = w.framesDropped id
  taken : ∀ id n, w'.held? id = some n →
    n = w.sup.links.length ∧ w'.lastTaken id = 0 ∨
    w.held? id = some n ∧ w'.lastTaken id = w.lastTaken id

/-- One frame of a worker is counted. -/
structure Took (w w' : World σ) (r : Receipt) : Prop where
  newest : ∃ g, r.Newest w g
  stored : w'.stored = w.stored ++ [r]
  ledgers : w'.ledgers = w.ledgers.modify r.link Ledger.received
  received : w'.framesReceived r.worker = w.framesReceived r.worker + 1
  dropped : checkedAdd (w.framesDropped r.worker)
    (Supervisor.skippedBefore r.sequence (w.lastTaken r.worker)) = some (w'.framesDropped r.worker)
  taken : w'.lastTaken r.worker = r.sequence
  others : ∀ other, other ≠ r.worker → w'.sup.worker? other = w.sup.worker? other
  holders : ∀ other, w'.held? other = w.held? other

/-! ### Parts -/

theorem Took.held (took : Took w w' r) : w.held? r.worker = some r.link :=
  took.newest.elim fun _ newest => newest.held

/-- The same ledgers. -/
theorem noted_of_eq (same : w'.ledgers = w.ledgers) : Noted w w' := by
  intro n g there
  exact .inr ⟨g, same ▸ there, .refl g⟩

/-- One ledger goes on by a deed. -/
theorem noted_modify {m : Nat} {f : Ledger → Ledger} (ledgers : w'.ledgers = w.ledgers.modify m f)
    (extends_ : ∀ g : Ledger, g.Extends (f g)) : Noted w w' := by
  intro n g' there'
  rw [ledgers, List.getElem?_modify] at there'
  obtain ⟨g, there, rfl⟩ := Option.map_eq_some_iff.1 there'
  refine .inr ⟨g, there, ?_⟩
  split
  · exact extends_ g
  · exact .refl g

/-- The ledger of a process that is started is new. -/
theorem noted_follow {new : List Call} {s : Supervisor (Recorder σ)}
    (calls : s.manager.calls = w.sup.manager.calls ++ new) : Noted w (w.follow id s) := by
  rw [follow_eq id calls]
  intro n g' there'
  by_cases old : n < w.ledgers.length
  · exact .inr ⟨g', (List.getElem?_append_left old).symm.trans there', .refl g'⟩
  · have opened := (List.getElem?_append_right (Nat.le_of_not_lt old)).symm.trans there'
    obtain ⟨call, -, opened⟩ := List.mem_filterMap.1 (List.mem_of_getElem? opened)
    exact .inl ⟨Nat.le_of_not_lt old, id, Call.extends_opened opened⟩

/-- Records that tally as before count nothing. -/
theorem uncounted_of_tally (stored : w'.stored = w.stored) (noted : Noted w w' ∨ Interrupts w w')
    (same : ∀ id, (w'.sup.worker? id).map Worker.tally = (w.sup.worker? id).map Worker.tally) :
    Uncounted w w' := by
  have agree {α : Type} (f : UInt64 × UInt64 × UInt64 × Option Nat → α) (id : WorkerId) :
      (w'.sup.worker? id).map (fun rec => f rec.tally) =
        (w.sup.worker? id).map fun rec => f rec.tally := by
    have both := congrArg (Option.map f) (same id)
    rwa [Option.map_map, Option.map_map] at both
  refine ⟨stored, noted, fun id => congrArg (·.getD 0) (agree (·.1) id),
    fun id => congrArg (·.getD 0) (agree (·.2.1) id), fun id n holds => .inr ⟨?_, ?_⟩⟩
  · have links := congrArg Option.join (agree (·.2.2.2) id)
    have held (v : World σ) : v.held? id =
        ((v.sup.worker? id).map fun rec => rec.channels.map (·.link)).join := by
      rw [held?]
      cases v.sup.worker? id <;> rfl
    rw [held, ← holds, held]
    exact links.symm
  · exact congrArg (·.getD 0) (agree (·.2.2.1) id)

/-- Records that are recast count nothing, if their totals are kept. -/
theorem uncounted_of_recast (stored : w'.stored = w.stored) (noted : Noted w w' ∨ Interrupts w w')
    (totals : ∀ id, w'.framesReceived id = w.framesReceived id ∧
      w'.framesDropped id = w.framesDropped id)
    (recast : ∀ id rec, w'.sup.worker? id = some rec →
      rec.Recast w.sup.links.length (w.sup.worker? id)) : Uncounted w w' := by
  refine ⟨stored, noted, fun id => (totals id).1, fun id => (totals id).2, fun id n holds => ?_⟩
  obtain ⟨channels, held, rfl⟩ := Option.map_eq_some_iff.1 holds
  obtain ⟨rec, known, held⟩ := Option.bind_eq_some_iff.1 held
  have taken : w'.lastTaken id = rec.taken := by rw [lastTaken, known]; rfl
  cases recast id rec known with
  | unlinked unlinked =>
      rw [unlinked] at held
      cases held
  | opened opened _ none_taken =>
      cases opened.symm.trans held
      exact .inl ⟨rfl, taken.trans none_taken⟩
  | @steady v before steady =>
      refine .inr ⟨held?_eq before (steady.channels.symm.trans held), ?_⟩
      rw [taken, steady.taken, lastTaken, before]
      rfl

/-- A record that is changed, in what is not counted. -/
theorem tally_modify {s : Supervisor (Recorder σ)} {other : WorkerId} {f : Worker → Worker}
    (blind : ∀ rec, (f rec).tally = rec.tally) (id : WorkerId) :
    ((s.modifyWorker other f).worker? id).map Worker.tally = (s.worker? id).map Worker.tally := by
  rw [Supervisor.worker?_modifyWorker]
  split
  · rw [Option.map_map]
    exact congrArg (fun g => (s.worker? id).map g) (funext blind)
  · rfl

/-- What is noted quietly is not counted. -/
theorem Quiet.tally {f : Worker → Worker} (quiet : Worker.Quiet f) (rec : Worker) :
    (f rec).tally = rec.tally := by
  rw [Worker.tally, quiet.received, quiet.dropped, quiet.taken, quiet.channels, Worker.tally]

/-- Another record for one worker, that tallies. -/
theorem tally_rewired {s s' : Supervisor (Recorder σ)} {other : WorkerId} {v rec : Worker} {n : Nat}
    {link : Link} (rewired : Supervisor.Rewired s s' other rec n link)
    (known : s.worker? other = some v) (same : rec.tally = v.tally) (id : WorkerId) :
    (s'.worker? id).map Worker.tally = (s.worker? id).map Worker.tally := by
  by_cases own : id = other
  · rw [own, rewired.worker, known, Option.map_some, Option.map_some, same]
  · rw [rewired.others id own]

/-- A token counts nothing. -/
theorem uncounted_of_dispatched {token : Token} (part : Dispatched w token w') : Uncounted w w' := by
  cases part with
  | idle => exact uncounted_of_tally rfl (.inl (noted_of_eq rfl)) fun _ => rfl
  | @drained rec channels link mask mmap s known current holds there drained frames rewired =>
      refine uncounted_of_tally rfl (.inl (noted_modify rfl Ledger.extends_drained))
        (tally_rewired rewired known ?_)
      show (_, _, _, some channels.link) = (_, _, _, rec.channels.map (·.link))
      rw [holds]
      rfl

/-- **A look counts nothing, or the frame that it takes.** -/
theorem Received.uncounted_or_took (linked : w.Linked) {now : Instant} (part : Received w now id w') :
    Uncounted w w' ∨ ∃ r, r.worker = id ∧ Took w w' r := by
  cases part with
  | skipped => exact .inl (uncounted_of_tally rfl (.inl (noted_of_eq rfl)) fun _ => rfl)
  | noted quiet =>
      exact .inl (uncounted_of_tally rfl (.inl (noted_of_eq rfl)) (tally_modify (Quiet.tally quiet)))
  | missed waits quiet missed rewired frames =>
      exact .inl (uncounted_of_tally rfl (.inl (noted_of_eq rfl))
        (tally_rewired rewired waits.known (Quiet.tally quiet _)))
  | cut waits quiet took uncounted rewired frames =>
      exact .inl (uncounted_of_tally rfl
        (.inr ⟨id, _, ⟨_, _, _, _, waits, took, uncounted⟩, rfl⟩)
        (tally_rewired rewired waits.known (Quiet.tally quiet _)))
  | @taken s rec n file link frame f dropped waits quiet took counted rewired filled =>
      obtain ⟨g, newest, -, receipt⟩ := linked.newest waits took rewired filled
      have known : s.worker? id = some (Supervisor.noteTaken dropped frame.sequence now (f rec)) :=
        rewired.worker
      refine .inr ⟨w.receipt id n s, by rw [receipt], ?_⟩
      rw [receipt] at newest ⊢
      refine ⟨⟨g, newest⟩, rfl, rfl, ?_, ?_, ?_, rewired.others, fun other => ?_⟩
      · show ((s.worker? id).map (·.received)).getD 0 = ((w.sup.worker? id).map (·.received)).getD 0 + 1
        rw [known, waits.known]
        exact congrArg (· + 1) (quiet.received rec)
      · show checkedAdd (((w.sup.worker? id).map (·.dropped)).getD 0) (Supervisor.skippedBefore
          frame.sequence (((w.sup.worker? id).map (·.taken)).getD 0)) =
            some (((s.worker? id).map (·.dropped)).getD 0)
        rw [known, waits.known]
        exact counted
      · show ((s.worker? id).map (·.taken)).getD 0 = _
        rw [known]
        rfl
      · have keeps : Supervisor.Keeps w.sup s := waits.keeps_taken quiet rewired
        exact held?_of_keeps keeps other

variable [ProcessManager σ]

/-- **A part of an action counts nothing, or one frame.** -/
theorem Part.uncounted_or_took {D : Nat → Deed → Prop} (part : Part D w w') (sound : w.Sound) :
    Uncounted w w' ∨ ∃ r, Took w w' r := by
  cases part with
  | @move id s move =>
      obtain ⟨new, calls⟩ := move.calls
      refine .inl (uncounted_of_recast rfl (.inl (noted_follow calls)) (fun other => ?_)
        fun other rec known => move.recast (sound.named id) known)
      have totals := move.map_totals (sound.named id) other
      have received := congrArg (Option.map Prod.fst) totals
      have dropped := congrArg (Option.map Prod.snd) totals
      rw [Option.map_map, Option.map_map] at received dropped
      exact ⟨congrArg (·.getD 0) received, congrArg (·.getD 0) dropped⟩
  | @add id source now s added =>
      refine .inl (uncounted_of_recast rfl (.inl (noted_of_eq rfl)) (fun other => ?_)
        fun other rec known => recast_add added known)
      show ((s.worker? other).map (·.received)).getD 0 = ((w.sup.worker? other).map (·.received)).getD 0 ∧
        ((s.worker? other).map (·.dropped)).getD 0 = ((w.sup.worker? other).map (·.dropped)).getD 0
      rw [Supervisor.worker?_addWorker added]
      split
      · next same =>
          subst same
          rw [(Supervisor.addWorker_ok added).1]
          exact ⟨rfl, rfl⟩
      · exact ⟨rfl, rfl⟩
  | wait => exact .inl (uncounted_of_tally rfl (.inl (noted_of_eq rfl)) fun _ => rfl)
  | dispatch dispatched => exact .inl (uncounted_of_dispatched dispatched)
  | receive received =>
      exact (received.uncounted_or_took sound.linked).imp_right fun ⟨r, _, took⟩ => ⟨r, took⟩
  | produce there d =>
      rw [produce_of_link there]
      refine .inl (uncounted_of_tally rfl ?_ fun _ => rfl)
      exact .inl (noted_modify rfl fun g => d.extends_note g _)
  | pullOne now =>
      obtain ⟨frames, sup, -⟩ := w.sup_pullOne now
      exact .inl (uncounted_of_tally rfl (.inl (noted_of_eq rfl)) fun id => by rw [sup]; rfl)
  | pullBatch n now =>
      obtain ⟨frames, sup, -⟩ := w.sup_pullBatch n now
      exact .inl (uncounted_of_tally rfl (.inl (noted_of_eq rfl)) fun id => by rw [sup]; rfl)
  | release mux released =>
      refine .inl (uncounted_of_tally rfl (.inl (noted_of_eq rfl)) fun id => ?_)
      rw [show World.sup { w with mux } = Supervisor.noteRelease _ _ _ from release_ok released]
      exact (tally_modify (Quiet.tally (Worker.quiet_lastRelease _)) id :)

/-! ### The invariant -/

omit [ProcessManager σ] in
/-- **The counts are those of the receipts**: that of the frames received as far as words go, and that
of the frames missed exactly. -/
structure Summed (w : World σ) : Prop where
  received : ∀ id, w.framesReceived id = UInt64.ofNat (w.stored.countP fun r => r.worker = id)
  dropped : ∀ id, (w.framesDropped id).toNat = skips id w.stored
  taken : ∀ id n, w.held? id = some n → (w.lastTaken id).toNat = lastOver w.stored n

omit [ProcessManager σ] in
/-- What a frame adds to the count of dropped ones is how far its number jumps. -/
theorem Took.jump (took : Took w w' r) (h : w.Summed) :
    (Supervisor.skippedBefore r.sequence (w.lastTaken r.worker)).toNat = r.jump w.stored := by
  have small := r.sequence.toNat_lt
  rw [Supervisor.skippedBefore, h.taken _ _ took.held, UInt64.toNat_ofNat_of_lt']
  · rfl
  · show _ < 2 ^ 64
    omega

omit [ProcessManager σ] in
theorem Summed.uncounted (h : w.Summed) (orderly : w.Orderly) (idle : Uncounted w w') : w'.Summed where
  received := fun id => by rw [idle.received, idle.stored, h.received]
  dropped := fun id => by rw [idle.dropped, idle.stored, h.dropped]
  taken := by
    intro id n holds
    rw [idle.stored]
    rcases idle.taken id n holds with ⟨rfl, none_taken⟩ | ⟨holds', same⟩
    · -- Over a new link nothing can have been taken.
      have new : ∀ r ∈ w.stored, r.link ≠ w.sup.links.length := by
        intro r mem same
        obtain ⟨g, there, -⟩ := orderly.delivered.genuine r mem
        have below := (List.getElem?_eq_some_iff.1 there).1
        rw [orderly.linked.ledgers, same] at below
        exact absurd below (Nat.lt_irrefl _)
      rw [none_taken, lastOver_of_new new]
      rfl
    · rw [same, h.taken id n holds']

omit [ProcessManager σ] in
theorem Summed.took (h : w.Summed) (sound : w.Sound) (took : Took w w' r) : w'.Summed where
  received := by
    intro id
    rw [took.stored, List.countP_append]
    by_cases own : id = r.worker
    · subst own
      rw [took.received, h.received, UInt64.ofNat_add]
      simp
    · have same : w'.framesReceived id = w.framesReceived id := by
        rw [framesReceived, took.others id own, framesReceived]
      rw [same, h.received, List.countP_singleton, if_neg (by simpa using Ne.symm own)]
      rfl
  dropped := by
    intro id
    rw [took.stored, skips_concat]
    by_cases own : id = r.worker
    · subst own
      rw [toNat_of_checkedAdd took.dropped, h.dropped, if_pos rfl, took.jump h]
    · have same : w'.framesDropped id = w.framesDropped id := by
        rw [framesDropped, took.others id own, framesDropped]
      rw [same, h.dropped, if_neg (Ne.symm own), Nat.add_zero]
  taken := by
    intro id n holds
    rw [took.holders] at holds
    rw [took.stored, lastOver_concat]
    by_cases own : id = r.worker
    · subst own
      rw [took.held] at holds
      rw [took.taken, if_pos (Option.some.inj holds)]
    · have apart : r.link ≠ n := fun same => (sound.alone (Ne.symm own) took.held).2 (same ▸ holds)
      have same : w'.lastTaken id = w.lastTaken id := by
        rw [lastTaken, took.others id own, lastTaken]
      rw [same, if_neg apart, h.taken id n holds]

theorem Summed.part {D : Nat → Deed → Prop} (h : w.Summed) (orderly : w.Orderly)
    (part : Part D w w') : w'.Summed := by
  rcases part.uncounted_or_took orderly.sound with idle | ⟨r, took⟩
  · exact h.uncounted orderly idle
  · exact h.took orderly.sound took

/-- **The counts are those of the receipts**, throughout every run. -/
theorem summed_run (manager : σ) (config : Config) (now : Instant) (l : List Action) :
    ((start manager config now).run l).Orderly ∧ ((start manager config now).run l).Summed := by
  have orderly := orderly_run manager config now []
  have summed : (start manager config now).Summed := by
    refine ⟨fun id => rfl, fun id => rfl, fun id n holds => ?_⟩
    cases holds
  exact (parts_run (D := fun _ _ => True) orderly.named l fun _ _ _ => trivial).induction
    (I := fun w => w.Orderly ∧ w.Summed) (fun _ _ h part => ⟨h.1.part part, h.2.part h.1 part⟩)
    ⟨orderly, summed⟩

/-! ### Where a pass stops -/

omit [ProcessManager σ] in
/-- A worker waits for the same frame as long as nothing concerns it. -/
theorem Beside.waits_iff (beside : Beside id w w') {rec : Worker} {n file : Nat} {link : Link} :
    w'.sup.Waits id rec n file link ↔ w.sup.Waits id rec n file link := by
  constructor
  · intro waits
    have known := beside.record.symm.trans waits.known
    exact ⟨known, waits.alive, waits.holds, waits.waiting,
      (FrameStore.isVacant_congr beside.cached).symm.trans waits.vacant,
      (beside.link_eq known waits.holds).symm.trans waits.there⟩
  · intro waits
    exact ⟨beside.record.trans waits.known, waits.alive, waits.holds, waits.waiting,
      (FrameStore.isVacant_congr beside.cached).trans waits.vacant,
      (beside.link_eq waits.known waits.holds).trans waits.there⟩

/-- **A pass stops in the middle exactly if a frame waits for a worker that it cannot count.** -/
theorem Sound.stops_iff (sound : w.Sound) (now : Instant) :
    (w.sup.readFrames now).1 = none ↔ ∃ id n, w.Overfull id n := by
  constructor
  · intro stops
    obtain ⟨earlier, id, later, split, overflow⟩ := Supervisor.readEach_eq_none_iff.1 stops
    have absent : id ∉ earlier := by
      have nodup : w.sup.ids.Nodup := w.sup.workers.nodup_ids
      rw [split] at nodup
      exact fun mem => (List.nodup_append.1 nodup).2.2 id mem id List.mem_cons_self rfl
    obtain ⟨-, beside⟩ := sound.beside_foldl now absent
    rw [← sup_foldl_receive] at overflow
    have look := (earlier.foldl (receive now) w).sup.look_readWorker now id
    generalize Supervisor.readWorker _ now id = result at look overflow
    cases look with
    | cut waits quiet took uncounted rewired frames =>
        exact ⟨id, _, _, _, _, _, beside.waits_iff.1 waits, took, uncounted⟩
    | _ => cases overflow
  · rintro ⟨id, n, rec, file, link, frame, waits, took, uncounted⟩
    rw [← Option.not_isSome_iff_eq_none]
    intro ended
    obtain ⟨v, -, beside, -, goes⟩ := sound.pass_of_looked (mem_looked waits.known ended)
    rcases Supervisor.readWorker_of_take (beside.waits_iff.2 waits) took now with stops | ⟨counted, -⟩
    · exact goes ended stops.2
    · rw [uncounted] at counted
      cases counted

omit [ProcessManager σ] in
/-- **A frame that cannot be counted**: with how far its number jumps, the total of the jumps is out of
range. -/
theorem Summed.overfull_iff (h : w.Summed) {n : Nat} :
    w.Overfull id n ↔ ∃ frame, w.Awaits id n frame ∧
      UInt64.size ≤ skips id w.stored + (frame.sequence.toNat - lastOver w.stored n - 1) := by
  have sum {rec : Worker} {file : Nat} {link : Link} {frame : SlotFrame}
      (waits : w.sup.Waits id rec n file link) :
      checkedAdd rec.dropped (Supervisor.skippedBefore frame.sequence rec.taken) = none ↔
        UInt64.size ≤ skips id w.stored + (frame.sequence.toNat - lastOver w.stored n - 1) := by
    have dropped : rec.dropped.toNat = skips id w.stored := by
      rw [← h.dropped id, framesDropped, waits.known]
      rfl
    have taken : rec.taken.toNat = lastOver w.stored n := by
      rw [← h.taken id n (held?_eq waits.known waits.holds), lastTaken, waits.known]
      rfl
    have below := frame.sequence.toNat_lt
    rw [checkedAdd_eq_none_iff, Supervisor.skippedBefore, UInt64.toNat_ofNat_of_lt', dropped, taken]
    show _ < 2 ^ 64
    omega
  constructor
  · rintro ⟨rec, file, link, frame, waits, took, uncounted⟩
    exact ⟨frame, ⟨rec, file, link, waits, took⟩, (sum waits).1 uncounted⟩
  · rintro ⟨frame, ⟨rec, file, link, waits, took⟩, outside⟩
    exact ⟨rec, file, link, frame, waits, took, (sum waits).2 outside⟩

end World

end FrameMux
