/-
**After a refusal.**

A producer that overwrites the length of a waiting frame once, and otherwise only publishes, can
starve its own source: the refused frame leaves its mark behind, so there is a sign too many from
then on, and a publish that meets the surplus sign in the counter is never told about.  This module
says when that happens, and that it does not pass.

Main definitions:

* `FrameMux.World.Holding` — what is true of a link as long as a worker holds it;
* `FrameMux.World.Unbroken` — no pass was cut short on a link;
* `FrameMux.World.Doubled` — in the course of some actions a publish **doubled a telling**.

Main results:

* `FrameMux.World.Holding.step` — what the multiplexer preserves of a link outlasts every action but
  the deeds of its producer;
* `FrameMux.World.starves_iff_doubled` — after a refusal, a source starves **exactly if a telling was
  doubled**, and then it starves for good.
-/

import FrameMux.Proofs.Handoff.Refusal
import FrameMux.Proofs.Supervisor.Service
import FrameMux.Proofs.World.Receipts

set_option relaxedAutoImplicit false
set_option autoImplicit false

namespace FrameMux

namespace World

variable {σ : Type}

/-! ### A link in the hands of a worker -/

/-- If a worker holds a certain link, then something is true of the link and of what the worker knows
about it.  The link is there, so nobody will get it anew. -/
structure Holding (P : Link → Option Nat → Bool → Prop) (id : WorkerId) (n : Nat) (w : World σ) :
    Prop where
  old : n < w.sup.links.length
  holds : ∀ rec reader, w.sup.worker? id = some rec → rec.channels = some ⟨n, reader⟩ →
    ∃ link, w.sup.links[n]? = some link ∧ P link reader rec.frameWaiting

variable {P : Link → Option Nat → Bool → Prop} {id : WorkerId} {n : Nat}

/-- The link is left alone, and so is what the worker knows about it. -/
theorem Holding.mono {w w' : World σ} (h : Holding P id n w)
    (length : w.sup.links.length ≤ w'.sup.links.length)
    (same : ∀ rec' reader, w'.sup.worker? id = some rec' → rec'.channels = some ⟨n, reader⟩ →
      ∃ rec, w.sup.worker? id = some rec ∧ rec.channels = some ⟨n, reader⟩ ∧
        rec'.frameWaiting = rec.frameWaiting ∧ w'.sup.links[n]? = w.sup.links[n]?) :
    Holding P id n w' where
  old := Nat.lt_of_lt_of_le h.old length
  holds := by
    intro rec' reader known' holds'
    obtain ⟨rec, known, holds, waiting, link⟩ := same rec' reader known' holds'
    rw [waiting, link]
    exact h.holds rec reader known holds

/-- No link and no record is changed. -/
theorem Holding.of_same {w w' : World σ} (h : Holding P id n w) (links : w'.sup.links = w.sup.links)
    (record : w'.sup.worker? id = w.sup.worker? id) : Holding P id n w' := by
  refine h.mono (Nat.le_of_eq (congrArg List.length links).symm) ?_
  intro rec' reader known' holds'
  exact ⟨rec', record.symm.trans known', holds', rfl, by rw [links]⟩

/-- Only one record is changed, and only its times and counts. -/
theorem Holding.quiet {w w' : World σ} (h : Holding P id n w) (other : WorkerId)
    {f : Worker → Worker} (quiet : Worker.Quiet f) (links : w'.sup.links = w.sup.links)
    (record : w'.sup.worker? id =
      if id = other then (w.sup.worker? id).map f else w.sup.worker? id) :
    Holding P id n w' := by
  refine h.mono (Nat.le_of_eq (congrArg List.length links).symm) ?_
  intro rec' reader known' holds'
  rw [record] at known'
  split at known'
  · obtain ⟨rec, known, rfl⟩ := Option.map_eq_some_iff.1 known'
    rw [quiet.channels] at holds'
    exact ⟨rec, known, holds', quiet.frameWaiting rec, by rw [links]⟩
  · exact ⟨rec', known', holds', rfl, by rw [links]⟩

/-- Another record for one worker, and another state of the link that it holds. -/
theorem Holding.rewire {w w' : World σ} (h : Holding P id n w) (linked : w.Linked)
    {holder : WorkerId} {rec : Worker} {channels channels' : WorkerLink} {l l' : Link}
    (known : w.sup.worker? holder = some rec) (holds : rec.channels = some channels)
    (there : w.sup.links[channels.link]? = some l) (rec' : Worker)
    (rewired : Supervisor.Rewired w.sup w'.sup holder rec' channels.link l')
    (holds' : rec'.channels = some channels') (same : channels'.link = channels.link)
    (goes : P l channels.reader rec.frameWaiting → P l' channels'.reader rec'.frameWaiting) :
    Holding P id n w' where
  old := by
    rw [rewired.links, List.length_set]
    exact h.old
  holds := by
    intro v reader known' holds''
    by_cases self : id = holder
    · subst self
      obtain rfl : rec' = v := Option.some.inj (rewired.worker.symm.trans known')
      obtain rfl : channels' = ⟨n, reader⟩ := Option.some.inj (holds'.symm.trans holds'')
      obtain rfl : n = channels.link := same
      obtain ⟨l₀, there', before⟩ := h.holds rec channels.reader known holds
      obtain rfl : l₀ = l := Option.some.inj (there'.symm.trans there)
      exact ⟨l', by rw [rewired.links, List.getElem?_set_self h.old], goes before⟩
    · have before := (rewired.others id self).symm.trans known'
      obtain ⟨l₀, there', still⟩ := h.holds v reader before holds''
      -- The link of another worker is another link.
      have apart : channels.link ≠ n := fun link =>
        self (linked.unique before holds'' known holds link.symm)
      exact ⟨l₀, by rw [rewired.links, List.getElem?_set_ne apart, there'], still⟩

/-- No pass was cut short on a link. -/
def Unbroken (n : Nat) (w : World σ) : Prop :=
  ∀ g, w.ledgers[n]? = some g → g.cut = false

/-- Nor was one before. -/
theorem Unbroken.earlier {w w' : World σ} (h : w'.Unbroken n)
    (later : LaterLedgers w.ledgers w'.ledgers) : w.Unbroken n := by
  intro g there
  obtain ⟨g', there', goes⟩ := later n g there
  exact goes.cut (h g' there')

/-! ### Parts -/

/-- Dispatching a token. -/
theorem Holding.dispatched {w w' : World σ} (h : Holding P id n w) (lasting : Lasting P)
    (linked : w.Linked) {token : Token} (part : Dispatched w token w') : Holding P id n w' := by
  cases part with
  | idle => exact h.of_same rfl rfl
  | @drained rec channels link mask mmap s known current holds there drained frames rewired =>
      refine h.rewire linked known holds there (Supervisor.noteMask mmap channels mask link.drain.2 rec)
        ⟨rewired.manager, rewired.policy, rewired.poller, rewired.links,
        rewired.worker, rewired.others⟩ rfl rfl ?_
      intro before
      have after := lasting.drained before drained
      show P (Supervisor.negotiated mmap channels mask link.drain.2).1
        (Supervisor.negotiated mmap channels mask link.drain.2).2 (rec.frameWaiting || _)
      unfold Supervisor.negotiated
      split
      · next receives =>
          have unread : channels.reader = none := by
            simpa using ((Bool.and_eq_true _ _).mp receives).2
          exact lasting.received mmap (unread ▸ after)
      · exact after

/-- A look at a worker's region, if the link is not cut by it. -/
theorem Holding.received {w w' : World σ} (h : Holding P id n w) (lasting : Lasting P)
    (linked : w.Linked) {now : Instant} {other : WorkerId} (part : Received w now other w')
    (unbroken : w'.Unbroken n) : Holding P id n w' := by
  cases part with
  | skipped => exact h
  | @noted f _ _ _ quiet =>
      exact h.quiet other quiet rfl (Supervisor.worker?_modifyWorker w.sup other id f)
  | @taken s rec m file link frame f dropped waits quiet took counted rewired filled =>
      have holds' : (f rec).channels = some ⟨m, some file⟩ := (quiet.channels rec).trans waits.holds
      refine h.rewire linked waits.known waits.holds waits.there (Supervisor.noteTaken
        dropped frame.sequence now (f rec))
        ⟨rewired.manager, rewired.policy, rewired.poller, rewired.links,
        rewired.worker, rewired.others⟩ holds' rfl ?_
      intro before
      rw [waits.waiting] at before
      exact lasting.taken before took
  | @missed s rec m file link f waits quiet missed rewired frames =>
      have holds' : (f rec).channels = some ⟨m, some file⟩ := (quiet.channels rec).trans waits.holds
      have rewired : Supervisor.Rewired w.sup (w.withSup s).sup other (f rec) m
        (link.take file).2 := rewired
      refine h.rewire linked waits.known waits.holds waits.there (f rec) rewired holds' rfl ?_
      intro before
      rw [waits.waiting] at before
      rw [quiet.frameWaiting, waits.waiting]
      exact lasting.missed before missed
  | @cut s rec m file link frame f waits quiet took uncounted rewired frames =>
      have rewired : Supervisor.Rewired w.sup ((w.withSup s).modifyLedger m Ledger.interrupted).sup
        other (f rec) m (link.take file).2 := rewired
      have apart : m ≠ n := by
        rintro rfl
        obtain ⟨g, l, attached⟩ := linked.held other rec _ waits.known waits.holds
        cases unbroken g.interrupted
          ((List.getElem?_modify_eq ..).trans (congrArg (Option.map _) attached.ledger))
      refine h.mono (Nat.le_of_eq ?_) ?_
      · rw [rewired.links, List.length_set]
      · intro rec' reader known' holds'
        obtain ⟨known, kept⟩ := rewired.apart (waits.link_of_quiet quiet) apart known' holds'
        exact ⟨rec', known, holds', rfl, kept⟩

/-- A deed of the producer on another link. -/
theorem Holding.produced {w : World σ} (h : Holding P id n w) {m : Nat} (other : m ≠ n) {link : Link}
    (there : w.sup.links[m]? = some link) (d : Deed) : Holding P id n (w.produce m d) := by
  rw [produce_of_link there]
  refine h.mono (Nat.le_of_eq List.length_set.symm) ?_
  intro rec' reader known' holds'
  exact ⟨rec', known', holds', rfl, List.getElem?_set_ne other⟩

variable [ProcessManager σ]

/-- A move. -/
theorem Holding.move {w : World σ} (h : Holding P id n w) (named : w.Named) (linked : w.Linked)
    {other : WorkerId} {s : Supervisor (Recorder σ)} (move : Supervisor.Move other w.sup s) :
    Holding P id n (w.follow other s) := by
  have relinked := move.relinked ⟨named other, linked.apart other⟩
  have others : id ≠ other → s.worker? id = w.sup.worker? id := move.worker?_of_ne (named other)
  cases relinked with
  | @kept rec rec₁ links known known₁ channels waiting =>
      refine h.mono (Nat.le_of_eq (congrArg List.length links).symm) ?_
      intro rec' reader known' holds'
      have known' : s.worker? id = some rec' := known'
      have links : (w.follow other s).sup.links[n]? = w.sup.links[n]? := congrArg (·[n]?) links
      by_cases self : id = other
      · subst self
        obtain rfl : rec₁ = rec' := Option.some.inj (known₁.symm.trans known')
        exact ⟨rec, known, channels ▸ holds', waiting, links⟩
      · exact ⟨rec', (others self).symm.trans known', holds', rfl, links⟩
  | released length spares unlinked =>
      refine h.mono (Nat.le_of_eq length.symm) ?_
      intro rec' reader known' holds'
      have known' : s.worker? id = some rec' := known'
      by_cases self : id = other
      · subst self
        rw [unlinked rec' known'] at holds'
        cases holds'
      · have before := (others self).symm.trans known'
        refine ⟨rec', before, holds', rfl, spares n ?_⟩
        intro held
        obtain ⟨channels, held, link⟩ := Option.map_eq_some_iff.1 held
        obtain ⟨v, known, holds⟩ := Option.bind_eq_some_iff.1 held
        exact self (linked.unique before holds' known holds link.symm)
  | @opened rec₁ link links known₁ holds₁ =>
      refine h.mono ?_ ?_
      · show _ ≤ s.links.length
        rw [links, List.length_append]
        exact Nat.le_add_right _ _
      · intro rec' reader known' holds'
        have known' : s.worker? id = some rec' := known'
        by_cases self : id = other
        · subst self
          obtain rfl : rec₁ = rec' := Option.some.inj (known₁.symm.trans known')
          rw [holds₁] at holds'
          cases holds'
          exact absurd h.old (Nat.lt_irrefl _)
        · refine ⟨rec', (others self).symm.trans known', holds', rfl, ?_⟩
          show s.links[n]? = _
          rw [links, List.getElem?_append_left h.old]

/-- **What the multiplexer preserves of a link outlasts** every part but the deeds of its producer, if
the link is not cut. -/
theorem Holding.part {w w' : World σ} (h : Holding P id n w) (lasting : Lasting P)
    (named : w.Named) (linked : w.Linked) (part : Part (fun m _ => m ≠ n) w w')
    (unbroken : w'.Unbroken n) : Holding P id n w' := by
  cases part with
  | move move => exact h.move named linked move
  | @add other source now s added =>
      obtain ⟨-, rfl⟩ := Supervisor.addWorker_ok added
      refine h.mono (Nat.le_refl _) ?_
      intro rec' reader known' holds'
      have known' := (Supervisor.worker?_addWorker added id).symm.trans known'
      split at known'
      · cases known'
        cases holds'
      · exact ⟨rec', known', holds', rfl, rfl⟩
  | wait => exact h.of_same rfl rfl
  | dispatch dispatched => exact h.dispatched lasting linked dispatched
  | receive received => exact h.received lasting linked received unbroken
  | produce there d other => exact h.produced other there d
  | pullOne now =>
      obtain ⟨frames, sup, -⟩ := w.sup_pullOne now
      exact h.of_same (by rw [sup]) (by rw [sup]; rfl)
  | pullBatch k now =>
      obtain ⟨frames, sup, -⟩ := w.sup_pullBatch k now
      exact h.of_same (by rw [sup]) (by rw [sup]; rfl)
  | @release other now mux released =>
      have sup : World.sup { w with mux } = Supervisor.noteRelease _ _ _ := release_ok released
      have quiet := Worker.quiet_lastRelease (some now)
      refine h.quiet other quiet (by rw [sup]; rfl) ?_
      rw [sup, Supervisor.noteRelease, Supervisor.worker?_modifyWorker]
      rfl

/-- An action that is no deed of the producer on the link, and does not cut it. -/
theorem Holding.step {w : World σ} (h : Holding P id n w) (lasting : Lasting P) (joined : w.Joined)
    {a : Action} (other : ∀ d, a ≠ .produce n d) (unbroken : (w.step a).Unbroken n) :
    Holding P id n (w.step a) := by
  have parts : Parts (fun m _ => m ≠ n) w (w.step a) := by
    refine parts_step joined.named a ?_
    rintro m d rfl rfl
    exact other d rfl
  generalize w.step a = v at parts unbroken ⊢
  induction parts with
  | refl w => exact h
  | step part rest ih =>
      obtain ⟨-, joined'⟩ := joined.part part
      have first := unbroken.earlier (joined'.parts rest).1
      exact ih (h.part lasting joined.named joined.linked part first) joined' unbroken

omit [ProcessManager σ] in
/-- A deed of the producer on the link. -/
theorem Holding.deed {Q : Link → Option Nat → Bool → Prop} {w : World σ} (h : Holding P id n w)
    {d : Deed} (goes : ∀ link reader waiting, w.sup.links[n]? = some link → P link reader waiting →
      Q (d.act link) reader waiting) : Holding Q id n (w.produce n d) := by
  obtain ⟨l, there⟩ : ∃ l, w.sup.links[n]? = some l := ⟨_, List.getElem?_eq_getElem h.old⟩
  rw [produce_of_link there]
  refine ⟨Nat.lt_of_lt_of_eq h.old List.length_set.symm, ?_⟩
  intro rec reader known holds
  obtain ⟨link, there', before⟩ := h.holds rec reader known holds
  obtain rfl := Option.some.inj (there.symm.trans there')
  exact ⟨_, List.getElem?_set_self h.old, goes _ reader rec.frameWaiting there before⟩

/-! ### Runs after a refusal -/

/-- In the course of some actions a publish on a link doubled a telling. -/
def Doubled (w : World σ) (n : Nat) (l : List Action) : Prop :=
  ∃ before p after link, l = before ++ .produce n (.publish p) :: after ∧
    (w.run before).sup.links[n]? = some link ∧ link.Doubles p

/-- The first action doubles a telling, or a later one does. -/
theorem doubled_cons (w : World σ) (n : Nat) (a : Action) (rest : List Action) :
    w.Doubled n (a :: rest) ↔
      (∃ p link, a = .produce n (.publish p) ∧ w.sup.links[n]? = some link ∧ link.Doubles p) ∨
      (w.step a).Doubled n rest := by
  constructor
  · rintro ⟨before, p, after, link, split, there, doubles⟩
    cases before with
    | nil =>
        cases split
        exact Or.inl ⟨p, link, rfl, there, doubles⟩
    | cons b before =>
        cases split
        exact Or.inr ⟨before, p, after, link, rfl, there, doubles⟩
  · rintro (⟨p, link, rfl, there, doubles⟩ | ⟨before, p, after, link, rfl, there, doubles⟩)
    · exact ⟨[], p, rest, link, rfl, there, doubles⟩
    · exact ⟨a :: before, p, after, link, rfl, there, doubles⟩

/-- How many deeds of the producer on a link there are among some actions. -/
def deedsOn (n : Nat) (l : List Action) : Nat :=
  l.countP fun a => match a with
    | .produce m _ => m = n
    | _ => false

theorem deedsOn_deed (n : Nat) (d : Deed) (rest : List Action) :
    deedsOn n (.produce n d :: rest) = deedsOn n rest + 1 :=
  List.countP_cons_of_pos (decide_eq_true rfl)

theorem deedsOn_other {a : Action} (other : ¬ ∃ d, a = .produce n d) (rest : List Action) :
    deedsOn n (a :: rest) = deedsOn n rest := by
  refine List.countP_cons_of_neg ?_
  cases a with
  | produce m d => exact fun same => other ⟨d, by rw [of_decide_eq_true same]⟩
  | _ => exact Bool.false_ne_true

/-- A starved source stays starved as long as its worker holds the link. -/
theorem starved_run {w : World σ} (joined : w.Joined) {l : List Action}
    (publishes : ∀ d, .produce n d ∈ l → ∃ p, d = .publish p) (unbroken : (w.run l).Unbroken n)
    (starved : Holding (fun link reader waiting => ∃ r, link.Starved reader waiting r
      (deedsOn n l)) id n w) :
    Holding (fun link reader waiting => ∃ r, link.Starved reader waiting r 0) id n (w.run l) := by
  induction l generalizing w with
  | nil => exact starved
  | cons a rest ih =>
      obtain ⟨-, joined'⟩ := joined.step a
      refine ih joined' (fun d mem => publishes d (List.mem_cons_of_mem _ mem)) unbroken ?_
      by_cases ours : ∃ d, a = .produce n d
      · obtain ⟨d, rfl⟩ := ours
        obtain ⟨p, rfl⟩ := publishes d List.mem_cons_self
        rw [deedsOn_deed] at starved
        exact starved.deed fun link reader waiting _ ⟨_, h⟩ => h.publish p
      · rw [deedsOn_other ours] at starved
        exact starved.step (lasting_starved _) joined (fun d eq => ours ⟨d, eq⟩)
          (unbroken.earlier (joined'.run rest).1)

/-- **A source that is heard of starves exactly if a telling is doubled.** -/
theorem fate_run {w : World σ} (joined : w.Joined) {l : List Action}
    (publishes : ∀ d, .produce n d ∈ l → ∃ p, d = .publish p) (unbroken : (w.run l).Unbroken n)
    (alert : Holding (fun link reader waiting => ∃ r, link.Alert reader waiting r
      (deedsOn n l)) id n w) :
    (w.Doubled n l →
      Holding (fun link reader waiting => ∃ r, link.Starved reader waiting r 0) id n (w.run l)) ∧
    (¬ w.Doubled n l →
      Holding (fun link reader waiting => ∃ r, link.Alert reader waiting r 0) id n (w.run l)) := by
  induction l generalizing w with
  | nil =>
      refine ⟨?_, fun _ => alert⟩
      rintro ⟨before, p, after, link, split, -⟩
      cases before <;> cases split
  | cons a rest ih =>
      obtain ⟨-, joined'⟩ := joined.step a
      have publishes' : ∀ d, .produce n d ∈ rest → ∃ p, d = .publish p := fun d mem =>
        publishes d (List.mem_cons_of_mem _ mem)
      rw [doubled_cons]
      by_cases ours : ∃ d, a = .produce n d
      · obtain ⟨d, rfl⟩ := ours
        obtain ⟨p, rfl⟩ := publishes d List.mem_cons_self
        rw [deedsOn_deed] at alert
        obtain ⟨link, there⟩ : ∃ link, w.sup.links[n]? = some link :=
          ⟨_, List.getElem?_eq_getElem alert.old⟩
        by_cases doubles : link.Doubles p
        · -- From here on nothing helps.
          have starved : Holding (fun link reader waiting => ∃ r, link.Starved reader waiting r
              (deedsOn n rest)) id n (w.step (.produce n (.publish p))) := by
            refine alert.deed ?_
            rintro link' reader waiting there' ⟨_, h⟩
            obtain rfl := Option.some.inj (there.symm.trans there')
            exact (h.publish p).1 doubles
          exact ⟨fun _ => starved_run joined' publishes' unbroken starved, fun single =>
            absurd (Or.inl ⟨p, link, rfl, there, doubles⟩) single⟩
        · have later := ih joined' publishes' unbroken (by
            refine alert.deed ?_
            rintro link' reader waiting there' ⟨_, h⟩
            obtain rfl := Option.some.inj (there.symm.trans there')
            exact (h.publish p).2 doubles)
          constructor
          · rintro (⟨p', link', same, there', doubles'⟩ | doubled)
            · cases same
              obtain rfl := Option.some.inj (there.symm.trans there')
              exact absurd doubles' doubles
            · exact later.1 doubled
          · exact fun single => later.2 fun doubled => single (Or.inr doubled)
      · rw [deedsOn_other ours] at alert
        have later := ih joined' publishes' unbroken (alert.step (lasting_alert _) joined
          (fun d eq => ours ⟨d, eq⟩) (unbroken.earlier (joined'.run rest).1))
        constructor
        · rintro (⟨p, link, rfl, -⟩ | doubled)
          · exact absurd ⟨_, rfl⟩ ours
          · exact later.1 doubled
        · exact fun single => later.2 fun doubled => single (Or.inr doubled)

/-- **One violation can starve a source for good.**  Let a producer that went by the protocol so far,
with a frame in the slot and nothing left to tell, overwrite the length of that frame, whatever the
new length is, and do nothing but publish from then on.  As long as the worker holds the link, the
slot is ready with neither a mark nor a bit to tell about it exactly if some publish since then
filled the slot and told about it while the counter still told about an earlier frame.

Two things are left out in which the program stops: a publish that the header cannot count any more, and
a pass that is cut short on the link, as it can only be by what the worker missed of earlier links. -/
theorem starves_iff_doubled (manager : σ) (config : Config) (began : Instant) (l l' : List Action)
    (nbytes : UInt64) {w w' : World σ} (violated : (start manager config began).run l = w)
    (reached : (w.step (.produce n (.overwriteLength nbytes))).run l' = w')
    {g : Ledger} {link : Link} (ledger : w.ledgers[n]? = some g) (honest : g.honest = true)
    (told : g.untold = false) (there : w.sup.links[n]? = some link) (full : link.slotReady = true)
    (publishes : ∀ d, .produce n d ∈ l' → ∃ p, d = .publish p)
    (few : g.publishes.length + deedsOn n l' < UInt64.size) {g' : Ledger}
    (ledger' : w'.ledgers[n]? = some g') (uncut : g'.cut = false)
    {rec : Worker} {reader : Option Nat} (known : w'.sup.worker? id = some rec)
    (holds : rec.channels = some ⟨n, reader⟩) :
    ∃ link', w'.sup.links[n]? = some link' ∧
      ((link'.slotReady = true ∧ rec.frameWaiting = false ∧
          EventMask.contains ⟨link'.notifier.counter⟩ .frameWaiting = false) ↔
        (w.step (.produce n (.overwriteLength nbytes))).Doubled n l') := by
  have joined : w.Joined := violated ▸ ((joined_start manager config began).run l).2
  obtain ⟨later, joined₁⟩ := joined.step (.produce n (.overwriteLength nbytes))
  obtain ⟨onward, -⟩ := joined₁.run l'
  have unbroken : w'.Unbroken n := fun g there => Option.some.inj (ledger'.symm.trans there) ▸ uncut
  rw [reached] at onward
  have regular : g.regular = true := by
    simp [Ledger.regular, honest, (unbroken.earlier onward).earlier later g ledger]
  have before : Holding (fun l reader waiting => l = link ∧ Wired g link reader waiting) id n w := by
    refine ⟨(List.getElem?_eq_some_iff.1 there).1, ?_⟩
    intro v reads known₁ holds₁
    obtain ⟨g', link', attached⟩ := joined.linked.held id v _ known₁ holds₁
    obtain rfl := Option.some.inj (attached.ledger.symm.trans ledger)
    obtain rfl := Option.some.inj (attached.link.symm.trans there)
    exact ⟨_, there, rfl, attached.wired regular⟩
  have alert : Holding (fun link reader waiting => ∃ r, link.Alert reader waiting r
      (deedsOn n l')) id n (w.step (.produce n (.overwriteLength nbytes))) :=
    before.deed fun _ _ _ _ attached =>
      attached.1 ▸ attached.2.alert_overwritten told full few nbytes
  obtain ⟨starves, hears⟩ := fate_run joined₁ publishes (reached ▸ unbroken) alert
  rw [reached] at starves hears
  by_cases doubled : (w.step (.produce n (.overwriteLength nbytes))).Doubled n l'
  · obtain ⟨link', there', region, starved⟩ := (starves doubled).holds rec reader known holds
    exact ⟨link', there', fun _ => doubled, fun _ => starved.starved⟩
  · obtain ⟨link', there', region, alert⟩ := (hears doubled).holds rec reader known holds
    exact ⟨link', there', fun starved => absurd starved alert.not_starved,
      fun now => absurd now doubled⟩

/-! ### A refusal, rehearsed -/

/-- A picture of four bytes. -/
def patch (b : UInt8) : Picture := ⟨List.replicate 4 b, 1, 1⟩

/-- A worker is started, its producer offers room for four bytes and publishes, and the worker is
marked. -/
def beforeRefusal : List Action :=
  [.addWorker ⟨1⟩ "cam" ⟨0⟩, .tick ⟨0⟩, .produce 0 (.offer .linux 4), .wait, .dispatch ⟨⟨1⟩, 1⟩ .linux,
    .produce 0 (.publish (patch 1)), .wait, .dispatch ⟨⟨1⟩, 1⟩ .linux]

/-- The frame is refused and the next one taken, by the mark of the refused one; a third one is
published while the telling of the second is in the counter, which is then drained and looked at. -/
def afterRefusal : List Action :=
  [.readFrames ⟨1⟩, .produce 0 (.publish (patch 2)), .readFrames ⟨2⟩,
    .produce 0 (.publish (patch 3)), .wait, .dispatch ⟨⟨1⟩, 1⟩ .linux, .release ⟨1⟩ ⟨3⟩, .readFrames ⟨3⟩]

/-- The world in which the frame is about to be given another length. -/
def marked : World ScriptedManager :=
  (start ⟨[.starts none [.ofEvent .childStarted]], [], [], 0, []⟩ .defaults ⟨0⟩).run beforeRefusal

/-- The world after the refusal and what followed. -/
def deaf : World ScriptedManager :=
  (marked.step (.produce 0 (.overwriteLength 5))).run afterRefusal

/-- The rehearsed producer does nothing but publish after its violation. -/
theorem publishes_afterRefusal : ∀ d, .produce 0 d ∈ afterRefusal → ∃ p, d = .publish p := by
  intro d mem
  simp only [afterRefusal, List.mem_cons, List.not_mem_nil, reduceCtorEq, or_false, false_or,
    Action.produce.injEq, true_and] at mem
  rcases mem with rfl | rfl <;> exact ⟨_, rfl⟩

/-- In the rehearsal a telling was doubled, and the source starves. -/
theorem starves_iff_doubled_rehearsed :
    ∃ link, deaf.sup.links[0]? = some link ∧
      (link.slotReady = true ∧
        (deaf.sup.worker? ⟨1⟩).map (·.frameWaiting) = some false ∧
        EventMask.contains ⟨link.notifier.counter⟩ .frameWaiting = false) ∧
      (marked.step (.produce 0 (.overwriteLength 5))).Doubled 0 afterRefusal := by
  have known : deaf.sup.worker? ⟨1⟩ = some _ := rfl
  have ledger : marked.ledgers[0]? = some _ := rfl
  have there : marked.sup.links[0]? = some _ := rfl
  obtain ⟨link, there', starves⟩ := starves_iff_doubled _ _ _ beforeRefusal afterRefusal 5 rfl rfl
    ledger rfl rfl there rfl publishes_afterRefusal (by decide) rfl rfl known rfl
  have slot : deaf.sup.links[0]?.map (fun l => (l.slotReady,
      EventMask.contains ⟨l.notifier.counter⟩ .frameWaiting)) = some (true, false) := rfl
  obtain ⟨full, untold⟩ : link.slotReady = true ∧
      EventMask.contains ⟨link.notifier.counter⟩ .frameWaiting = false := by
    simpa using (congrArg (Option.map _) there').symm.trans slot
  exact ⟨link, there', ⟨full, rfl, untold⟩, starves.1 ⟨full, rfl, untold⟩⟩

/-- A refused frame, and nothing but publishes after that: the slot is ready and no publish is under
way, but the worker is not marked and the counter is empty. -/
theorem refusal_starves :
    marked.ledgers[0]?.map (fun g => (g.honest, g.untold)) = some (true, false) ∧
    ((marked.step (.produce 0 (.overwriteLength 5))).sup.links[0]?.map fun l => (l.take 0).1) =
      some (.error (.protocol (.oversizedFrame 5 4))) ∧
    (∀ d, .produce 0 d ∈ afterRefusal → ∃ p, d = .publish p) ∧
    ((deaf.sup.worker? ⟨1⟩).map fun rec => (rec.state, rec.channels, rec.frameWaiting)) =
      some (.alive, some ⟨0, some 0⟩, false) ∧
    deaf.sup.links[0]?.map (fun l => (l.slotReady, l.notifier.counter)) = some (true, 0) ∧
    deaf.ledgers[0]?.map (·.untold) = some false :=
  ⟨rfl, rfl, publishes_afterRefusal, rfl, rfl, rfl⟩

end World

end FrameMux
