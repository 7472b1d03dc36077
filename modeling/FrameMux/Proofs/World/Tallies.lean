/-
**Every frame is counted once.**

What a worker has counted of its link, what its producer put in, and how the publishes ended are three
accounts of the same frames.  From the beginning of a generation they tally, whatever happens, and even
if the two sides meet at the slot.

Main definitions:

* `FrameMux.World.Counting` — the counts of a link that a worker holds;
* `FrameMux.World.Tallied` — **the invariant** of an account.

Main results:

* `FrameMux.World.Counting.part` — every part of an action is a step of the counts, or begins them;
* `FrameMux.World.Tallied.course` — **every course keeps the counts tallied**, and cuts no pass short;
* `FrameMux.World.frames_counted_once` — what that comes to for a generation.
-/

import FrameMux.Proofs.Handoff.Tally
import FrameMux.Proofs.World.Courses
import FrameMux.Proofs.World.Records

set_option relaxedAutoImplicit false
set_option autoImplicit false

namespace FrameMux

/-- Nothing was published over a new link. -/
theorem Call.publishes_opened {id : WorkerId} {call : Call} {g : Ledger}
    (h : call.opened id = some g) : g.publishes = [] := by
  obtain ⟨early, rfl⟩ := call.exists_opening_of_opened h
  exact Ledger.publishes_opening id early

namespace World

variable {σ : Type} {w w' : World σ} {id : WorkerId} {n : Nat} {c c' c₀ : Counts}

/-! ### The counts of a link -/

/-- The counts of a link that a worker holds, whose producer goes by the protocol and on which no pass
was cut short. -/
inductive Counting (w : World σ) (id : WorkerId) (n : Nat) : Counts → Prop
  | intro {rec : Worker} {reader : Option Nat} {g : Ledger} {l : Link}
      (known : w.sup.worker? id = some rec) (holds : rec.channels = some ⟨n, reader⟩)
      (noted : w.ledgers[n]? = some g) (regular : g.regular = true)
      (there : w.sup.links[n]? = some l) : Counting w id n (.of rec g l)

/-- What leaves the link alone, and in the record what is counted. -/
theorem Counting.of_same (h : Counting w' id n c)
    (record : ∀ rec' reader, w'.sup.worker? id = some rec' → rec'.channels = some ⟨n, reader⟩ →
      ∃ rec, w.sup.worker? id = some rec ∧ rec.channels = some ⟨n, reader⟩ ∧
        ∀ g l, Counts.of rec' g l = .of rec g l)
    (noted : w'.ledgers[n]? = w.ledgers[n]?) (there : w'.sup.links[n]? = w.sup.links[n]?) :
    Counting w id n c := by
  obtain ⟨known', holds', noted', regular, there'⟩ := h
  obtain ⟨rec, known, holds, same⟩ := record _ _ known' holds'
  rw [same]
  exact .intro known holds (noted.symm.trans noted') regular (there.symm.trans there')

/-- No record is changed, and no link. -/
theorem Counting.of_eq (h : Counting w' id n c) (record : w'.sup.worker? id = w.sup.worker? id)
    (noted : w'.ledgers[n]? = w.ledgers[n]?) (there : w'.sup.links[n]? = w.sup.links[n]?) :
    Counting w id n c :=
  h.of_same (fun rec _ known holds => ⟨rec, record.symm.trans known, holds, fun _ _ => rfl⟩) noted
    there

/-- What is noted quietly does not count. -/
theorem counts_of_quiet {f : Worker → Worker} (quiet : Worker.Quiet f) (rec : Worker) (g : Ledger)
    (l : Link) : Counts.of (f rec) g l = .of rec g l := by
  rw [Counts.of, quiet.taken, quiet.received, quiet.dropped]
  rfl

/-- Something is noted quietly on one record. -/
theorem Counting.of_quiet (h : Counting w' id n c) {f : Worker → Worker} (quiet : Worker.Quiet f)
    (other : WorkerId) (record : w'.sup.worker? id =
      if id = other then (w.sup.worker? id).map f else w.sup.worker? id)
    (noted : w'.ledgers[n]? = w.ledgers[n]?) (there : w'.sup.links[n]? = w.sup.links[n]?) :
    Counting w id n c := by
  refine h.of_same (fun rec' reader known' holds' => ?_) noted there
  rw [record] at known'
  split at known'
  · obtain ⟨rec, known, rfl⟩ := Option.map_eq_some_iff.1 known'
    exact ⟨rec, known, (quiet.channels rec).symm.trans holds', counts_of_quiet quiet rec⟩
  · exact ⟨rec', known', holds', fun _ _ => rfl⟩

/-- Another record for one worker, and another state of the link that it holds and of its ledger. -/
theorem Counting.of_rewired (h : Counting w' id n c) (linked : w.Linked) {holder : WorkerId}
    {rec rec' : Worker} {channels : WorkerLink} {l' : Link}
    (known : w.sup.worker? holder = some rec) (holds : rec.channels = some channels)
    (rewired : Supervisor.Rewired w.sup w'.sup holder rec' channels.link l')
    (f : Ledger → Ledger) (ledgers : w'.ledgers = w.ledgers.modify channels.link f)
    (regular : ∀ g, (f g).regular = g.regular)
    (link : rec'.channels.map (·.link) = some channels.link) :
    Counting w id n c ∨
      ∃ g l, Attached w id rec channels g l ∧ g.regular = true ∧ Counting w id n (.of rec g l) ∧
        c = .of rec' (f g) l' := by
  obtain ⟨g, l, attached⟩ := linked.held holder rec channels known holds
  obtain ⟨known', holds', noted', regular', there'⟩ := h
  by_cases self : id = holder
  · subst self
    cases rewired.worker.symm.trans known'
    obtain rfl : n = channels.link := by simpa [holds'] using link
    rw [ledgers, List.getElem?_modify_eq, attached.ledger] at noted'
    cases noted'
    rw [rewired.links, List.getElem?_set_self (List.getElem?_eq_some_iff.1 attached.link).1] at there'
    cases there'
    have regular := (regular g).symm.trans regular'
    exact Or.inr ⟨g, l, attached, regular,
      .intro known holds attached.ledger regular attached.link, rfl⟩
  · have before := (rewired.others id self).symm.trans known'
    -- The link of another worker is another link.
    have apart : channels.link ≠ n := fun same =>
      self (linked.unique before holds' known holds same.symm)
    rw [ledgers, List.getElem?_modify_ne _ _ apart] at noted'
    rw [rewired.links, List.getElem?_set_ne apart] at there'
    exact Or.inl (.intro before holds' noted' regular' there')

/-! ### Parts -/

/-- What negotiating does to a link does not show in the slot. -/
theorem slotReady_negotiated (mmap : Mmap) (channels : WorkerLink) (mask : EventMask) (l : Link) :
    (Supervisor.negotiated mmap channels mask l).1.slotReady = l.slotReady := by
  unfold Supervisor.negotiated
  split
  · obtain ⟨⟨control, same⟩, -⟩ := l.receiveRegion_cases mmap
    rw [same]
    rfl
  · rfl

/-- A token counts nothing. -/
theorem Counting.dispatched (h : Counting w' id n c) (linked : w.Linked) {token : Token}
    (part : Dispatched w token w') : Counting w id n c := by
  cases part with
  | idle => exact h.of_eq rfl rfl rfl
  | @drained rec channels link mask mmap s known current holds there drained frames rewired =>
      have rewired : Supervisor.Rewired w.sup ({ w.withSup s with
          inFlight := w.inFlight.erase token }.modifyLedger channels.link Ledger.drained).sup
          _ _ _ _ := rewired
      rcases h.of_rewired linked known holds rewired Ledger.drained rfl (fun _ => rfl) rfl with
        same | ⟨g, l, attached, -, before, rfl⟩
      · exact same
      · cases there.symm.trans attached.link
        have same : Counts.of (Supervisor.noteMask mmap channels mask link.drain.2 rec) g.drained
            (Supervisor.negotiated mmap channels mask link.drain.2).1 = .of rec g link := by
          rw [Counts.of, slotReady_negotiated]
          rfl
        rw [same]
        exact before

/-- Nothing is counted any more of a link that is cut, and the others are left alone. -/
theorem Counting.of_cut {s : Supervisor (Recorder σ)} {other : WorkerId} {rec : Worker} {m file : Nat}
    {link l' : Link} {f : Worker → Worker}
    (h : Counting ((w.withSup s).modifyLedger m Ledger.interrupted) id n c)
    (waits : w.sup.Waits other rec m file link) (quiet : Worker.Quiet f)
    (rewired : Supervisor.Rewired w.sup s other (f rec) m l') : Counting w id n c := by
  obtain ⟨known', holds', noted', regular', there'⟩ := h
  have ledgers : ((w.withSup s).modifyLedger m Ledger.interrupted).ledgers =
      w.ledgers.modify m Ledger.interrupted := rfl
  have apart : m ≠ n := by
    rintro rfl
    rw [ledgers, List.getElem?_modify_eq] at noted'
    obtain ⟨g, -, rfl⟩ := Option.map_eq_some_iff.1 noted'
    exact g.not_regular_interrupted regular'
  obtain ⟨known, kept⟩ := rewired.apart (waits.link_of_quiet quiet) apart known' holds'
  rw [ledgers, List.getElem?_modify_ne _ _ apart] at noted'
  exact .intro known holds' noted' regular' (kept.symm.trans there')

/-- A look at a worker's region counts a frame, or nothing. -/
theorem Counting.received (h : Counting w' id n c') (linked : w.Linked) {now : Instant}
    {other : WorkerId} (part : Received w now other w') :
    ∃ c, Counting w id n c ∧ Counts.Step c [] c' := by
  cases part with
  | skipped => exact ⟨c', h, .stay⟩
  | @noted f _ _ _ quiet =>
      exact ⟨c', h.of_quiet quiet other (Supervisor.worker?_modifyWorker w.sup other id f) rfl rfl,
        .stay⟩
  | @taken s rec m file link frame f dropped waits quiet took counted rewired filled =>
      have rewired : Supervisor.Rewired w.sup (World.sup { (w.withSup s).modifyLedger m
          Ledger.received with stored := w.stored ++ [w.receipt other m s] }) _ _ _ _ := rewired
      rcases h.of_rewired linked waits.known waits.holds rewired Ledger.received rfl (fun _ => rfl)
        (waits.link_of_quiet quiet) with same | ⟨g, l, attached, regular, before, rfl⟩
      · exact ⟨c', same, .stay⟩
      · cases waits.there.symm.trans attached.link
        have wired := attached.wired regular
        rw [waits.waiting] at wired
        obtain ⟨frame', took', step⟩ := wired.counts_take
        cases took.symm.trans took'
        rw [← quiet.dropped, ← quiet.taken] at counted
        have step := step (f rec) now dropped counted
        rw [counts_of_quiet quiet] at step
        exact ⟨_, before, step⟩
  | @missed s rec m file link f waits quiet missed rewired frames =>
      have rewired : Supervisor.Rewired w.sup (w.withSup s).sup other (f rec) m (link.take file).2 :=
        rewired
      rcases h.of_rewired linked waits.known waits.holds rewired (fun g => g)
        (List.modify_id ..).symm (fun _ => rfl) (waits.link_of_quiet quiet) with
        same | ⟨g, l, attached, regular, before, rfl⟩
      · exact ⟨c', same, .stay⟩
      · -- A frame that is waiting is there.
        cases waits.there.symm.trans attached.link
        have wired := attached.wired regular
        rw [waits.waiting] at wired
        obtain ⟨frame, took, -⟩ := wired.counts_take
        exact absurd took (missed frame)
  | cut waits quiet took uncounted rewired frames =>
      exact ⟨c', h.of_cut waits quiet rewired, .stay⟩

variable [ProcessManager σ]

/-- A move leaves a link alone that its worker does not let go of. -/
theorem Sound.link_of_move (sound : w.Sound) {other : WorkerId} {s : Supervisor (Recorder σ)}
    (move : Supervisor.Move other w.sup s) {rec rec' : Worker} {reader : Option Nat}
    (known : w.sup.worker? id = some rec) (holds : rec.channels = some ⟨n, reader⟩)
    (known' : s.worker? id = some rec') (holds' : rec'.channels = some ⟨n, reader⟩) :
    s.links[n]? = w.sup.links[n]? := by
  cases move.relinked (sound.fit other) with
  | kept links => rw [links]
  | released length others unlinked =>
      by_cases self : id = other
      · subst self
        rw [unlinked rec' known'] at holds'
        cases holds'
      · exact others n (sound.alone self (held?_eq known holds)).2
  | opened links =>
      obtain ⟨g, l, attached⟩ := sound.linked.held id rec _ known holds
      rw [links, List.getElem?_append_left (List.getElem?_eq_some_iff.1 attached.link).1]

/-- A move counts nothing, or it begins a generation. -/
theorem Counting.move {other : WorkerId} {s : Supervisor (Recorder σ)}
    (h : Counting (w.follow other s) id n c) (sound : w.Sound)
    (move : Supervisor.Move other w.sup s) :
    Counting w id n c ∨ (w.sup.links.length ≤ n ∧ c.Blank) := by
  have sound' : (w.follow other s).Sound := sound.part (.move move)
  obtain ⟨new, calls⟩ := move.calls
  have ledgers : (w.follow other s).ledgers = w.ledgers ++ new.filterMap (Call.opened other) := by
    rw [follow_eq other calls]
  obtain ⟨known', holds', noted', regular', there'⟩ := h
  next rec' reader g' l' =>
  have recast := move.recast (sound.named other) known'
  cases recast with
  | unlinked unlinked =>
      rw [unlinked] at holds'
      cases holds'
  | opened latest _ taken =>
      obtain ⟨rfl, rfl⟩ : n = w.sup.links.length ∧ reader = none := by
        cases latest.symm.trans holds'
        exact ⟨rfl, rfl⟩
      have unpublished : g'.publishes = [] := by
        rw [ledgers, ← sound.linked.ledgers, List.getElem?_append_right (Nat.le_refl _)] at noted'
        obtain ⟨call, -, opened⟩ := List.mem_filterMap.1 (List.mem_of_getElem? noted')
        exact Call.publishes_opened opened
      obtain ⟨g, l, attached⟩ := sound'.linked.held id rec' _ known' holds'
      cases attached.ledger.symm.trans noted'
      cases attached.link.symm.trans there'
      exact Or.inr ⟨Nat.le_refl _, (attached.wired regular').blank unpublished taken⟩
  | @steady rec known steady =>
      have holds : rec.channels = some ⟨n, reader⟩ := steady.channels.symm.trans holds'
      obtain ⟨g, l, attached⟩ := sound.linked.held id rec _ known holds
      have below : n < w.ledgers.length := (List.getElem?_eq_some_iff.1 attached.ledger).1
      have h : Counting (w.follow other s) id n (.of rec' g' l') :=
        .intro known' holds' noted' regular' there'
      refine Or.inl (h.of_same ?_ ?_ (sound.link_of_move move known holds known' holds'))
      · intro rec'' reader' known'' holds''
        cases known'.symm.trans known''
        refine ⟨rec, known, steady.channels.symm.trans holds'', fun g l => ?_⟩
        rw [Counts.of, steady.taken, steady.received, steady.dropped]
        rfl
      · rw [ledgers, List.getElem?_append_left below]

/-- **A part of an action** is a step of the counts, unless it begins a generation. -/
theorem Counting.part (h : Counting w' id n c') (sound : w.Sound)
    (part : Part (fun m _ => m ≠ n) w w') :
    (∃ c, Counting w id n c ∧ Counts.Step c [] c') ∨ (w.sup.links.length ≤ n ∧ c'.Blank) := by
  have stays (before : Counting w id n c') :
      (∃ c, Counting w id n c ∧ Counts.Step c [] c') ∨ (w.sup.links.length ≤ n ∧ c'.Blank) :=
    Or.inl ⟨c', before, .stay⟩
  cases part with
  | move move => exact (h.move sound move).elim stays Or.inr
  | add added =>
      refine stays (h.of_same (fun rec' reader known' holds' => ?_) rfl ?_)
      · have known' := (Supervisor.worker?_addWorker added id).symm.trans known'
        split at known'
        · cases known'
          cases holds'
        · exact ⟨rec', known', holds', fun _ _ => rfl⟩
      · obtain ⟨-, rfl⟩ := Supervisor.addWorker_ok added
        rfl
  | wait => exact stays (h.of_eq rfl rfl rfl)
  | dispatch dispatched => exact stays (h.dispatched sound.linked dispatched)
  | receive received => exact Or.inl (h.received sound.linked received)
  | produce there d other =>
      rw [produce_of_link there] at h
      exact stays (h.of_eq rfl (List.getElem?_modify_ne _ _ other) (List.getElem?_set_ne other))
  | pullOne now =>
      obtain ⟨frames, sup, -⟩ := w.sup_pullOne now
      exact stays (h.of_eq (by rw [sup]; rfl) rfl (by rw [sup]))
  | pullBatch k now =>
      obtain ⟨frames, sup, -⟩ := w.sup_pullBatch k now
      exact stays (h.of_eq (by rw [sup]; rfl) rfl (by rw [sup]))
  | @release other now mux released =>
      have sup : World.sup { w with mux } = Supervisor.noteRelease _ _ _ := release_ok released
      have quiet := Worker.quiet_lastRelease (some now)
      refine stays (h.of_quiet quiet other ?_ rfl (by rw [sup]; rfl))
      rw [sup, Supervisor.noteRelease, Supervisor.worker?_modifyWorker]
      rfl

omit [ProcessManager σ] in
/-- **A deed by the protocol** is a step of the counts. -/
theorem Counting.deed {l : Link} (there : w.sup.links[n]? = some l) (d : Deed)
    (h : Counting (w.produce n d) id n c') (linked : w.Linked) :
    ∃ c, Counting w id n c ∧ Counts.Step c (d.outcome? l).toList c' := by
  rw [produce_of_link there] at h
  obtain ⟨known, holds, noted', regular', there'⟩ := h
  next rec reader g' l' =>
  have known : w.sup.worker? id = some rec := known
  obtain ⟨g, l₀, attached⟩ := linked.held id rec _ known holds
  cases there.symm.trans attached.link
  change (w.ledgers.modify n fun g => d.note g l)[n]? = some g' at noted'
  change (w.sup.links.set n (d.act l))[n]? = some l' at there'
  rw [List.getElem?_modify_eq, attached.ledger] at noted'
  rw [List.getElem?_set_self (List.getElem?_eq_some_iff.1 there).1] at there'
  cases noted'
  cases there'
  have regular := (d.extends_note g l).regular regular'
  exact ⟨_, .intro known holds attached.ledger regular there,
    (attached.wired regular).counts_deed rec (Ledger.honest_of_regular regular')⟩

/-! ### Accounts that tally -/

/-- Whatever is counted of a link tallies with how the publishes over it ended. -/
structure Tallied (c₀ : Counts) (id : WorkerId) (n : Nat) (s : Account σ) : Prop where
  sound : s.world.Sound
  old : n < s.world.sup.links.length
  tally : ∀ c, Counting s.world id n c → ∃ k, c₀.Tally c s.outcomes k

omit [ProcessManager σ] in
/-- **A worker whose counts tally can count the next frame**, as long as they fit. -/
theorem Tallied.not_overfull {s : Account σ} (h : Tallied c₀ id n s) (whole : s.world.Whole n)
    (order : s.world.InOrder n) (holds : s.world.sup.held? id = some n)
    (fits : Counts.Fits c₀.dropped s.outcomes) (other : WorkerId) : ¬ s.world.Overfull other n := by
  rintro ⟨rec, file, link, frame, waits, took, uncounted⟩
  obtain rfl : id = other := by
    obtain ⟨channels, held, linked⟩ := Option.map_eq_some_iff.1 holds
    obtain ⟨rec', known', holds'⟩ := Option.bind_eq_some_iff.1 held
    exact h.sound.linked.unique known' holds' waits.known waits.holds linked
  obtain ⟨g, l, attached⟩ := h.sound.linked.held id rec _ waits.known waits.holds
  cases waits.there.symm.trans attached.link
  obtain ⟨-, g', noted, honest⟩ := order
  cases noted.symm.trans attached.ledger
  have regular := whole.regular noted honest
  obtain ⟨k, tally⟩ := h.tally _ (.intro waits.known waits.holds noted regular waits.there)
  have wired := attached.wired regular
  rw [waits.waiting] at wired
  obtain ⟨p, l', -, -, done, -⟩ := wired.take
  rw [done] at took
  cases took
  exact Nat.not_lt_of_le (checkedAdd_eq_none_iff.1 uncounted)
    (tally.counted wired.slotReady_of_waiting fits)

/-- A course only adds to how publishes ended. -/
theorem Course.outcomes {s s' : Account σ} (h : Course n s s') : s.outcomes <+: s'.outcomes := by
  induction h with
  | refl s => exact List.prefix_refl _
  | part _ _ ih => exact ih
  | deed _ _ _ ih => exact (List.prefix_append _ _).trans ih
  | busy _ ih => exact (List.prefix_append _ _).trans ih

/-- **Counts go on to tally** on every course, and no pass is cut short on it, if in the end the worker
holds the link, its producer went by the protocol, and the counts fit. -/
theorem Tallied.course {s s' : Account σ} (h : Tallied c₀ id n s) (settled : s.world.Settled n)
    (whole : s.world.Whole n) (course : Course n s s') (order : s'.world.InOrder n)
    (holds : s'.world.sup.held? id = some n) (fits : Counts.Fits c₀.dropped s'.outcomes) :
    Tallied c₀ id n s' ∧ s'.world.Whole n := by
  induction course with
  | refl _ => exact ⟨h, whole⟩
  | @part s s' w part rest ih =>
      have fits₀ := fits.earlier rest.outcomes
      have first := settled.after_part part
      have after := first.trans (first.settled.after_parts rest.parts)
      have whole' : w.Whole n := (part.whole_or_overfull h.sound whole).resolve_right
        fun ⟨other, overfull⟩ =>
          h.not_overfull whole (after.inOrder order) (after.held id holds) fits₀ other overfull
      refine ih ⟨h.sound.part (part.mono fun _ _ _ => trivial),
        Nat.lt_of_lt_of_le h.old (part.length_links_le h.sound.fit), fun c' counting => ?_⟩
        first.settled whole' order holds fits
      rcases counting.part h.sound part with ⟨c, before, step⟩ | ⟨new, -⟩
      · obtain ⟨k, tally⟩ := h.tally c before
        exact List.append_nil s.outcomes ▸ tally.step step
      · exact absurd h.old (Nat.not_lt_of_le new)
  | @deed s s' link there d _ ih =>
      have part : Part (fun _ _ => True) s.world (s.world.produce n d) := .produce there d trivial
      have whole' : (s.world.step (.produce n d)).Whole n := whole.step h.sound.named nofun
      refine ih ⟨h.sound.part part, Nat.lt_of_lt_of_le h.old (part.length_links_le h.sound.fit),
        fun c' counting => ?_⟩ (settled.after_part part).settled whole' order holds fits
      obtain ⟨c, before, step⟩ := counting.deed there d h.sound.linked
      obtain ⟨k, tally⟩ := h.tally c before
      exact tally.step step
  | busy _ ih =>
      refine ih ⟨h.sound, h.old, fun c counting => ?_⟩ settled whole order holds fits
      obtain ⟨k, tally⟩ := h.tally c counting
      exact tally.step .busy

/-- Actions only add to how publishes ended. -/
theorem Account.outcomes_acts (n : Nat) (s : Account σ) (l : List Action) :
    s.outcomes <+: (s.acts n l).outcomes := by
  induction l generalizing s with
  | nil => exact List.prefix_refl _
  | cons a rest ih => exact (List.prefix_append _ _).trans (ih (s.act n a))

/-- So do turns. -/
theorem Account.outcomes_turn (n : Nat) (s : Account σ) (t : Turn) :
    s.outcomes <+: (s.turn n t).outcomes := by
  cases t with
  | act a => exact List.prefix_append _ _
  | look id now meanwhile =>
      simp only [turn, look]
      split
      · exact Account.outcomes_acts n (s.mapWorld fun w => w.receive now id) _
      · next file region _ =>
          exact Account.outcomes_acts n (s.mapWorld fun w => w.beginLook id now n file region) _
  | fill p claimed written =>
      simp only [turn, fill]
      split
      · exact Account.outcomes_acts n s _
      · next link file region replacing _ =>
          let begun := s.mapWorld fun w => w.beginFill n p link file region
          let stowed := (begun.acts n claimed).mapWorld fun w => w.stow n file p
          have both : s.outcomes <+: (stowed.acts n written).outcomes :=
            (Account.outcomes_acts n begun claimed).trans (Account.outcomes_acts n stowed written)
          split
          · refine both.trans ?_
            unfold commit
            split
            · exact List.prefix_refl _
            · exact List.prefix_append _ _
          · exact both

theorem Account.outcomes_turns (n : Nat) (s : Account σ) (l : List Turn) :
    s.outcomes <+: (s.turns n l).outcomes := by
  induction l generalizing s with
  | nil => exact List.prefix_refl _
  | cons t rest ih => exact (Account.outcomes_turn n s t).trans (ih (s.turn n t))

/-- **Turns keep the counts tallied**, and no pass is cut short, if the counts fit in the end. -/
theorem Tallied.turns {s : Account σ} (h : Tallied c₀ id n s) (settled : s.world.Settled n)
    (whole : s.world.Whole n) (l : List Turn) (order : (s.turns n l).world.InOrder n)
    (holds : (s.turns n l).world.sup.held? id = some n)
    (fits : Counts.Fits c₀.dropped (s.turns n l).outcomes) :
    Tallied c₀ id n (s.turns n l) ∧ (s.turns n l).world.Whole n := by
  induction l generalizing s with
  | nil => exact ⟨h, whole⟩
  | cons t rest ih =>
      have first := settled.after_turn t
      have later := first.settled.after_turns rest
      have order₁ := later.inOrder order
      obtain ⟨tallied, whole'⟩ := h.course settled whole
        (course_turn h.sound settled whole t order₁) order₁ (later.held id holds)
        (fits.earlier (Account.outcomes_turns n (s.turn n t) rest))
      exact ih tallied first.settled whole' order holds fits

/-! ### Generations -/

end World

end FrameMux
