/-
**Turns in one order.**

A look and a publish that go in steps come to what they would come to at once: a look when its frame is
copied out, after everything that the producers did meanwhile, and a publish when its claim is granted,
before everything else.

Main results:

* `FrameMux.World.window_beginLook`, `FrameMux.World.window_beginFill` — either opens a window;
* `FrameMux.World.Window.finishLook`, `FrameMux.World.Window.commit` — and closes it;
* `FrameMux.World.course_turn` — **a turn runs a course**, if the link is in order afterwards.
-/

import FrameMux.Proofs.World.Windows

set_option relaxedAutoImplicit false
set_option autoImplicit false

namespace FrameMux

namespace World

variable {σ : Type} [ProcessManager σ] {w w' u v : World σ} {n file : Nat} {free claimed : Region}

/-! ### Looks -/

/-- Deeds of producers leave the records and the caches alone. -/
theorem sup_run_produce (w : World σ) (l : List (Nat × Deed)) :
    (w.run (l.map fun d => Action.produce d.1 d.2)).sup.workers = w.sup.workers ∧
      (w.run (l.map fun d => Action.produce d.1 d.2)).sup.frames = w.sup.frames := by
  induction l generalizing w with
  | nil => exact ⟨rfl, rfl⟩
  | cons d rest ih =>
      have first : (w.produce d.1 d.2).sup.workers = w.sup.workers ∧
          (w.produce d.1 d.2).sup.frames = w.sup.frames := by
        cases there : w.sup.links[d.1]? with
        | none => rw [produce_of_unlinked there]; exact ⟨rfl, rfl⟩
        | some link => rw [produce_of_link there]; exact ⟨rfl, rfl⟩
      obtain ⟨workers, frames⟩ := ih (w.produce d.1 d.2)
      exact ⟨workers.trans first.1, frames.trans first.2⟩

omit [ProcessManager σ] in
/-- A worker that waits for a frame reads what the producer publishes into. -/
theorem InOrder.writer (order : w.InOrder n) (sound : w.Sound) (whole : w.Whole n) {id : WorkerId}
    {rec : Worker} {link : Link} (waits : w.sup.Waits id rec n file link) :
    link.writer = some file := by
  obtain ⟨-, g, noted, honest⟩ := order
  obtain ⟨g', l, attached⟩ := sound.linked.held id rec _ waits.known waits.holds
  cases noted.symm.trans attached.ledger
  cases waits.there.symm.trans attached.link
  rcases (attached.wired (whole.regular noted honest)).stage with ⟨unoffered, -⟩ | ⟨r, offered⟩
  · cases unoffered.reader
  · rcases offered.reader with unread | read
    · cases unread
    · rw [offered.writer, ← read]

/-- The window that a look opens. -/
theorem window_beginLook (sound : w.Sound) (settled : w.Settled n) (whole : w.Whole n)
    (order : w.InOrder n) {id : WorkerId} {rec : Worker} {link : Link} {region : Region}
    (waits : w.sup.Waits id rec n file link) (memory : link.region? file = some region)
    (now : Instant) :
    ∃ u, Part (fun m _ => m ≠ n) w u ∧
      Window n file region (region.inState .reading) u (w.beginLook id now n file region) := by
  have quiet := Supervisor.quiet_notePublished region.published now
  have writer := order.writer sound whole waits
  have part : Part (fun m _ => m ≠ n) w (w.withSup
      (w.sup.modifyWorker id (Supervisor.notePublished region.published now))) :=
    .receive (.noted quiet waits.known waits.holds : Received w now id _)
  refine ⟨_, part, ⟨?_, ?_, Or.inr rfl, sound.part (part.mono fun _ _ _ => trivial),
    (settled.after_part part).settled, whole⟩⟩
  · refine Overlaid.of_modifyLink (g := fun link => link.setRegion file (region.inState .reading)) ?_
    intro l there
    cases waits.there.symm.trans there
    exact (Link.refilled_eq_setRegion writer memory (region.inState .reading)).symm
  · refine Overlaid.of_fixed fun l there => ?_
    cases waits.there.symm.trans there
    exact Link.refilled_self writer memory

omit [ProcessManager σ] in
/-- The world after a look in a window. -/
theorem Window.finishLook {region : Region} (h : Window n file region (region.inState .reading) u v)
    (order : v.InOrder n) (ready : region.header.state = SlotState.ready.raw) (id : WorkerId)
    (now : Instant) :
    ∃ l, u.sup.links[n]? = some l ∧ ∀ rec, u.sup.worker? id = some rec →
      v.finishLook id now n file = u.noteLook id (u.sup.putAway id rec n now (l.take file)) := by
  obtain ⟨-, -, -, -, l, r, -, -, -, -, there, -, -, -, writer, memory, refilled⟩ := h.link order
  refine ⟨l, there, fun rec known => ?_⟩
  have sup : v.sup = u.sup.modifyLink n fun l => l.refilled file (region.inState .reading) :=
    h.apart.sup
  have known : v.sup.worker? id = some rec := by
    rw [sup]
    exact known
  rw [World.finishLook, h.link_claimed there, known]
  dsimp only
  rw [Link.finishTake_refilled writer memory refilled ready, sup, Supervisor.putAway_modifyLink]
  exact Account.noteLook_congr (h.apart.withSup_eq _) (h.apart.held? id) h.apart.stored
    (List.ext_getElem? fun m => h.apart.ledgers m fun _ => trivial)

/-- The worker still waits when the producers are done. -/
theorem waits_after_produce {id : WorkerId} {rec : Worker} {link l : Link} {region : Region}
    (waits : w.sup.Waits id rec n file link) (now : Instant) (meanwhile : List (Nat × Deed))
    (window : Window n file free claimed u ((w.beginLook id now n file region).run
      (meanwhile.map fun d => Action.produce d.1 d.2))) (there : u.sup.links[n]? = some l) :
    u.sup.Waits id (Supervisor.notePublished region.published now rec) n file l := by
  have quiet := Supervisor.quiet_notePublished region.published now
  obtain ⟨workers, frames⟩ := sup_run_produce (w.beginLook id now n file region) meanwhile
  generalize (w.beginLook id now n file region).run _ = v at window workers frames
  have sup : v.sup = u.sup.overlay n (fun l => l.refilled file claimed) 0 := window.apart.sup
  have workers : u.sup.workers =
      (w.sup.modifyWorker id (Supervisor.notePublished region.published now)).workers := by
    rw [← show v.sup.workers = u.sup.workers by rw [sup]; rfl, workers]
    rfl
  have frames : u.sup.frames = w.sup.frames := by
    rw [← show v.sup.frames = u.sup.frames by rw [sup]; rfl, frames]
    rfl
  refine ⟨?_, ?_, ?_, ?_, ?_, there⟩
  · have known := w.sup.worker?_modifyWorker id id (Supervisor.notePublished region.published now)
    rw [if_pos rfl, waits.known] at known
    rw [Supervisor.worker?, workers]
    exact known
  · rw [quiet.state, waits.alive]
  · rw [quiet.channels, waits.holds]
  · rw [quiet.frameWaiting, waits.waiting]
  · rw [frames, waits.vacant]

/-- **A look runs a course**: the producers' deeds come first, and publishes on the link are turned
away. -/
theorem course_look {s : Account σ} (sound : s.world.Sound) (settled : s.world.Settled n)
    (whole : s.world.Whole n) (id : WorkerId) (now : Instant) (meanwhile : List (Nat × Deed))
    (order : (s.look n id now meanwhile).world.InOrder n) :
    Course n s (s.look n id now meanwhile) := by
  have order₀ := (settled.after_turn (.look id now meanwhile)).inOrder order
  cases claims : s.world.sup.claims? id n with
  | none =>
      simp only [Account.look, claims]
      have part : Part (fun m _ => m ≠ n) s.world (s.world.receive now id) :=
        .receive (s.world.received_receive now id)
      exact .part part (course_acts (part.named sound.named) _)
  | some claim =>
      obtain ⟨file, region⟩ := claim
      simp only [Account.look, claims, Account.mapWorld] at order ⊢
      obtain ⟨rec, link, waits, memory, ready⟩ := Supervisor.claims?_eq_some claims
      obtain ⟨u, noted, window⟩ := window_beginLook sound settled whole order₀ waits memory now
      have met := window.settled_claimed.after_run (meanwhile.map fun d => Action.produce d.1 d.2)
      have order₁ : InOrder n ((s.world.beginLook id now n file region).run
          (meanwhile.map fun d => Action.produce d.1 d.2)) := by
        rw [Account.world_acts] at order
        exact (met.settled.after_finishLook id now).inOrder order
      obtain ⟨u', new, course, window', acted, -⟩ := window.acts _ order₁ s.outcomes s.outcomes
      obtain ⟨l, there, finished⟩ := window'.finishLook order₁ ready id now
      have waits' := waits_after_produce waits now meanwhile window' there
      simp only [acted, finished _ waits'.known]
      have last : Part (fun m _ => m ≠ n) u' _ := .receive (received_noteLook waits' now)
      exact (Course.part noted course).trans (.part last (.refl _))

/-! ### Publishes -/

/-- The window that a publish opens: with the slot free, the picture is there at once. -/
theorem window_beginFill (sound : w.Sound) (settled : w.Settled n) (whole : w.Whole n) {p : Picture}
    {link : Link} {region : Region} (there : w.sup.links[n]? = some link)
    (writer : link.writer = some file) (memory : link.region? file = some region)
    (filled : (link.fill p).2 = link.setRegion file (region.filled p)) :
    Window n file (region.filled p) (region.inState .writing) (w.produce n (.fill p))
      (w.beginFill n p link file (region.inState .writing)) := by
  have part : Part (fun _ _ => True) w (w.produce n (.fill p)) := .produce there _ trivial
  let u := w.withSup (w.sup.modifyLink n fun link => link.setRegion file (region.filled p))
  have links : u.sup.links[n]? = some (link.setRegion file (region.filled p)) := by
    show (w.sup.links.modify n _)[n]? = _
    rw [List.getElem?_modify_eq, there]
    rfl
  have memory' := Link.region?_setRegion memory (region.filled p)
  have done : w.produce n (.fill p) = u.modifyLedger n fun g => (Deed.fill p).note g link :=
    produce_fill there filled
  have begun : w.beginFill n p link file (region.inState .writing) =
      (u.withSup (u.sup.modifyLink n fun link =>
        link.setRegion file (region.inState .writing))).modifyLedger n
          fun g => (Deed.fill p).note g link := by
    rw [show u.sup = w.sup.modifyLink n _ from rfl, Supervisor.modifyLink_setRegion]
    rfl
  refine ⟨?_, ?_, Or.inl rfl, sound.part part, (settled.after_part part).settled,
    whole.step sound.named (a := .produce n (.fill p)) nofun⟩
  · rw [done, begun]
    refine (Overlaid.of_modifyLink (u := u) fun l there' => ?_).modifyLedger n _
    cases links.symm.trans there'
    exact (Link.refilled_eq_setRegion (l := link.setRegion file (region.filled p)) writer memory'
      (region.inState .writing)).symm
  · rw [done]
    refine Overlaid.of_fixed fun l there' => ?_
    cases links.symm.trans there'
    exact Link.refilled_self (l := link.setRegion file (region.filled p)) writer memory'

omit [ProcessManager σ] in
/-- A picture is written into the slot that the producer has claimed. -/
theorem Window.stow (h : Window n file free claimed u v) (p : Picture) :
    Window n file free (claimed.stow p) u (v.stow n file p) where
  apart := by
    have changed (l : Link) : (l.refilled file claimed).mapRegion file (fun r => r.stow p) =
        l.refilled file (claimed.stow p) :=
      Link.mapRegion_refilled (f := fun r => r.stow p) (fun _ => rfl) l file
    have stowed := h.apart.modifyLink fun link => link.mapRegion file fun r => r.stow p
    simp only [changed] at stowed
    exact stowed
  same := h.same
  claimed := h.claimed
  sound := h.sound
  settled := h.settled
  whole := h.whole

omit [ProcessManager σ] in
/-- Whether a picture can be counted shows in what is claimed. -/
theorem Window.countable (h : Window n file free claimed u v) (order : v.InOrder n) :
    v.countable n file = decide claimed.Countable := by
  obtain ⟨-, -, -, -, l, r, -, -, -, -, there, -, -, -, -, memory, -⟩ := h.link order
  have inside : (l.refilled file claimed).region? file = some (r.refilled claimed) :=
    (l.region?_refilled file claimed).trans (congrArg _ memory)
  rw [World.countable, h.link_claimed there, Option.bind_some, inside]
  rfl

omit [ProcessManager σ] in
/-- A claim after which the link is in order is for a picture that can be counted. -/
theorem InOrder.countable {p : Picture} {link : Link} {begun region filled : Region} {replacing : Bool}
    (order : (w.beginFill n p link file begun).InOrder n) (noted : n < w.ledgers.length)
    (done : link.fill p = if region.Countable
      then (some (.ok (if replacing then .replaced else .published)), link.setRegion file filled)
      else (some (.error .overflow), link.setRegion file (region.stuck p))) : region.Countable := by
  refine Classical.not_not.1 fun uncounted => ?_
  rw [if_neg uncounted] at done
  obtain ⟨-, g, there, honest⟩ := order
  change (w.ledgers.modify n fun g => (Deed.fill p).note g link)[n]? = some g at there
  rw [List.getElem?_modify_eq, List.getElem?_eq_getElem noted] at there
  cases there
  change (Deed.noteFill p _ link).honest = true at honest
  rw [(Deed.strayed_of_overflow (by rw [done])).1] at honest
  cases honest

omit [ProcessManager σ] in
/-- The account after a publish in a window. -/
theorem Window.commit {contents : Region} (h : Window n file (contents.inState .ready) contents u v)
    (order : v.InOrder n) (writing : contents.header.state = SlotState.writing.raw)
    (replacing : Bool) (outcomes : List PublishOutcome) :
    Account.commit n file replacing ⟨v, outcomes⟩ =
      ⟨u, outcomes ++ [if replacing then .replaced else .published]⟩ := by
  obtain ⟨-, -, -, -, l, r, -, -, -, -, there, -, -, -, writer, memory, refilled⟩ := h.link order
  have inside : (l.refilled file contents).region? file = some (r.refilled contents) :=
    (l.region?_refilled file contents).trans (congrArg _ memory)
  have world := (h.apart.modifyLink fun link => link.setRegion file r).eq_of_fixed (by
    intro l' there'
    cases there.symm.trans there'
    rw [Link.setRegion_refilled writer, Link.setRegion_self memory])
  simp only [Account.commit, h.link_claimed there, Option.bind_some, inside,
    Region.commit_refilled writing, refilled, world]
  rfl

/-- A link that is in order after a publish was so before the picture was written, and before it became
visible. -/
theorem Settled.inOrder_of_fill (settled : v.Settled n) {met stowed : Account σ} {p : Picture}
    {outcomes : List PublishOutcome} {claimed written : List Action} {replacing : Bool}
    (meets : Account.acts n ⟨v, outcomes⟩ claimed = met)
    (stows : Account.acts n ⟨met.world.stow n file p, met.outcomes⟩ written = stowed)
    (order : (if met.world.countable n file then stowed.commit n file replacing
      else stowed).world.InOrder n) :
    After n v met.world ∧ met.world.InOrder n ∧ stowed.world.InOrder n := by
  subst meets stows
  have after₁ := settled.after_acts (s := ⟨v, outcomes⟩) claimed
  have after₂ := after₁.settled.after_modifyLink fun link => link.mapRegion file fun r => r.stow p
  have after₃ := after₂.settled.after_acts (s := ⟨_, (Account.acts n ⟨v, outcomes⟩ claimed).outcomes⟩)
    written
  refine ⟨after₁, ?_⟩
  split at order
  · have order₂ := (after₃.settled.after_commit replacing).inOrder order
    exact ⟨(after₂.trans after₃).inOrder order₂, order₂⟩
  · exact ⟨(after₂.trans after₃).inOrder order, order⟩

/-- **A publish runs a course**: the picture is there before everything else happens. -/
theorem course_fill {s : Account σ} (sound : s.world.Sound) (settled : s.world.Settled n)
    (whole : s.world.Whole n) (p : Picture) (claimed written : List Action)
    (order : (s.fill n p claimed written).world.InOrder n) :
    Course n s (s.fill n p claimed written) := by
  cases granted : s.world.sup.links[n]?.bind fun link =>
      (link.grants? p).map fun grant => (link, grant) with
  | none =>
      simp only [Account.fill, granted]
      exact course_acts sound.named _
  | some grant =>
      obtain ⟨link, file, claim, replacing⟩ := grant
      obtain ⟨link', there, grants⟩ := Option.bind_eq_some_iff.1 granted
      obtain ⟨grant, grants, same⟩ := Option.map_eq_some_iff.1 grants
      cases same
      obtain ⟨region, writer, memory, rfl, done⟩ := Link.grants?_eq_some grants
      have begun : After n s.world (s.world.beginFill n p link file (region.inState .writing)) :=
        settled.after_beginFill p link _
      let v := s.world.beginFill n p link file (region.inState .writing)
      let met : Account σ := Account.acts n ⟨v, s.outcomes⟩ claimed
      let stowed : Account σ := Account.acts n ⟨met.world.stow n file p, met.outcomes⟩ written
      have filled : s.fill n p claimed written =
          if met.world.countable n file then stowed.commit n file replacing else stowed := by
        simp only [Account.fill, granted]
        rfl
      rw [filled] at order ⊢
      have meets : Account.acts n ⟨v, s.outcomes⟩ claimed = met := rfl
      have stows : Account.acts n ⟨met.world.stow n file p, met.outcomes⟩ written = stowed := rfl
      obtain ⟨after₁, order₁, order₂⟩ := begun.settled.inOrder_of_fill meets stows order
      -- The order in the end is one all along, so the picture can be counted, and is committed.
      have counts := (after₁.inOrder order₁).countable settled.noted done
      rw [if_pos counts] at done
      have window := window_beginFill sound settled whole there writer memory (congrArg Prod.snd done)
      simp only [met, stowed, Account.world_acts] at order₁ order₂
      obtain ⟨u₁, new, course₁, window₁, acts₁, none₁⟩ := window.acts claimed order₁
        (s.outcomes ++ [if replacing then .replaced else .published]) s.outcomes
      obtain ⟨u₂, new', course₂, window₂, acts₂, none₂⟩ := (window₁.stow p).acts written order₂
        (s.outcomes ++ [if replacing then .replaced else .published]) s.outcomes
      obtain rfl := none₁ rfl
      obtain rfl := none₂ rfl
      simp only [List.append_nil] at course₁ acts₁ course₂ acts₂
      have window₂ : Window n file (((region.inState .writing).stow p).inState .ready)
        ((region.inState .writing).stow p) u₂ _ := window₂
      have done₂ := window₂.commit order₂ rfl replacing s.outcomes
      have countable : met.world.countable n file = true := by
        simp only [met, Account.world_acts]
        exact (window₁.countable order₁).trans (decide_eq_true counts)
      rw [if_pos countable]
      simp only [stowed, met, v, acts₁, acts₂, done₂]
      refine .deed there (.fill p) ?_
      rw [Deed.outcome?, done]
      exact course₁.trans course₂

/-- **A turn runs a course.** -/
theorem course_turn {s : Account σ} (sound : s.world.Sound) (settled : s.world.Settled n)
    (whole : s.world.Whole n) (t : Turn)
    (order : (s.turn n t).world.InOrder n) : Course n s (s.turn n t) := by
  cases t with
  | act a => exact course_act sound.named a
  | look id now meanwhile => exact course_look sound settled whole id now meanwhile order
  | fill p claimed written => exact course_fill sound settled whole p claimed written order

end World

end FrameMux
