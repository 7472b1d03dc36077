/-
**Turns in which the two sides of a slot meet.**

An action of a world is over before the next one begins.  The slot of one link is watched more closely
here: while the multiplexer takes a frame out of it, the producers go on, and while its producer puts
a picture in, everything else goes on.  An account keeps beside the world how the publishes over the
link ended.

Main definitions:

* `FrameMux.World.Account` — a world, and how the publishes over a link ended in it;
* `FrameMux.World.Turn`, `FrameMux.World.Account.turn` — **what can happen**, with others in between;
* `FrameMux.World.Course` — accounts that come of parts of actions, of deeds of the producer, and of
  publishes that were turned away.

Main results:

* `FrameMux.World.Account.turn_alone` — **a turn in which nobody else does anything** is the action
  that it stands for;
* `FrameMux.World.course_acts` — actions run a course.
-/

import FrameMux.Proofs.Handoff.Halves
import FrameMux.Proofs.World.Asides

set_option relaxedAutoImplicit false
set_option autoImplicit false

namespace FrameMux

/-! ### A look in two steps -/

namespace Supervisor

variable {σ : Type}

/-- The slot of a link that a look at a worker claims: its file, and the region as it was before. -/
def claims? (s : Supervisor σ) (id : WorkerId) (n : Nat) : Option (Nat × Region) :=
  match s.worker? id with
  | none => none
  | some w =>
      match w.channels with
      | some ⟨m, some file⟩ =>
          match s.links[m]?.bind fun link => link.region? file with
          | none => none
          | some region =>
              if m = n ∧ w.state = .alive ∧ w.frameWaiting = true ∧ s.frames.isVacant id = true ∧
                  region.header.state = SlotState.ready.raw then some (file, region)
              else none
      | _ => none

/-- A look claims the slot of a worker that waits for a frame, if there is one. -/
theorem claims?_eq_some {s : Supervisor σ} {id : WorkerId} {n file : Nat} {region : Region}
    (claims : s.claims? id n = some (file, region)) :
    ∃ w link, s.Waits id w n file link ∧ link.region? file = some region ∧
      region.header.state = SlotState.ready.raw := by
  simp only [claims?] at claims
  split at claims
  · cases claims
  · next w known =>
      split at claims
      · next m file' holds =>
          split at claims
          · cases claims
          · next region' found =>
              split at claims
              · next opens =>
                  obtain ⟨rfl, alive, waiting, vacant, ready⟩ := opens
                  obtain ⟨link, there, memory⟩ := Option.bind_eq_some_iff.1 found
                  cases claims
                  exact ⟨w, link, ⟨known, alive, holds, waiting, vacant, there⟩, memory, ready⟩
              · cases claims
      · cases claims

/-- What becomes of a frame that was taken out of the slot of a link for a worker, and of the link. -/
def putAway (s : Supervisor σ) (id : WorkerId) (w : Worker) (n : Nat) (now : Instant)
    (taken : Except ChannelError (Option SlotFrame) × Link) : LookResult × Supervisor σ :=
  match taken.1 with
  | .ok (some frame) =>
      match checkedAdd w.dropped (skippedBefore frame.sequence w.taken) with
      | none => (.overflow, s.modifyLink n fun _ => taken.2)
      | some dropped =>
          (.took, { (s.modifyLink n fun _ => taken.2).modifyWorker id
              (noteTaken dropped frame.sequence now) with
            frames := s.frames.fill id frame.data frame.width frame.height now })
  | _ => (.nothing, s.modifyLink n fun _ => taken.2)

/-- It does not matter what the link looked like meanwhile. -/
theorem putAway_modifyLink (s : Supervisor σ) (id : WorkerId) (w : Worker) (n : Nat) (now : Instant)
    (f : Link → Link) (taken : Except ChannelError (Option SlotFrame) × Link) :
    (s.modifyLink n f).putAway id w n now taken = s.putAway id w n now taken := by
  have links : (s.modifyLink n f).modifyLink n (fun _ => taken.2) =
      s.modifyLink n fun _ => taken.2 := by
    simp only [modifyLink, List.modify_modify_eq]
    rfl
  unfold putAway
  rw [links]
  rfl

/-- What is noted quietly does not matter either. -/
theorem putAway_quiet {f : Worker → Worker} (quiet : Worker.Quiet f) (s : Supervisor σ)
    (id : WorkerId) (w : Worker) (n : Nat) (now : Instant)
    (taken : Except ChannelError (Option SlotFrame) × Link) :
    s.putAway id (f w) n now taken = s.putAway id w n now taken := by
  unfold putAway
  rw [quiet.dropped, quiet.taken]

/-- What was written into a link is written over. -/
theorem modifyLink_setRegion (s : Supervisor σ) (n file : Nat) (r r' : Region) :
    (s.modifyLink n fun link => link.setRegion file r).modifyLink n
      (fun link => link.setRegion file r') = s.modifyLink n fun link => link.setRegion file r' := by
  have links : (fun link : Link => link.setRegion file r') ∘ (fun link : Link =>
      link.setRegion file r) = fun link => link.setRegion file r' :=
    funext fun link => link.setRegion_setRegion file r r'
  simp only [modifyLink, List.modify_modify_eq, links]

/-- What was written into a link is changed. -/
theorem modifyLink_mapRegion (s : Supervisor σ) (n file : Nat) (r : Region) (f : Region → Region) :
    (s.modifyLink n fun link => link.setRegion file r).modifyLink n
      (fun link => link.mapRegion file f) = s.modifyLink n fun link => link.setRegion file (f r) := by
  have links : (fun link : Link => link.mapRegion file f) ∘ (fun link : Link =>
      link.setRegion file r) = fun link => link.setRegion file (f r) :=
    funext fun link => link.mapRegion_setRegion file r f
  simp only [modifyLink, List.modify_modify_eq, links]

/-- A look that claims a slot notes that the producer published, and takes what is in the slot. -/
theorem readWorker_of_claims {s : Supervisor σ} {id : WorkerId} {w : Worker} {n file : Nat}
    {link : Link} {region : Region} (waits : s.Waits id w n file link)
    (memory : link.region? file = some region) (now : Instant) :
    s.readWorker now id =
      (s.modifyWorker id (notePublished region.published now)).putAway id w n now (link.take file) := by
  have there : (s.modifyWorker id (notePublished region.published now)).links[n]? = some link :=
    waits.there
  have vacant : (s.modifyWorker id (notePublished region.published now)).frames.isVacant id = true :=
    waits.vacant
  rw [readWorker_of_reader waits.known waits.alive waits.holds]
  simp only [waits.there, Option.bind_some, memory, Option.map_some, Option.getD_some, waits.waiting,
    vacant, Bool.and_self, if_true, takeFrame_eq there]
  rfl

end Supervisor

namespace World

variable {σ : Type}

/-- What comes of a look at a worker's region: a frame that was stored gets a receipt, and a link on
which the look stopped in the middle is cut. -/
def noteLook (w : World σ) (id : WorkerId)
    (look : Supervisor.LookResult × Supervisor (Recorder σ)) : World σ :=
  match look.1, w.held? id with
  | .took, some n =>
      { (w.withSup look.2).modifyLedger n Ledger.received with
        stored := w.stored ++ [w.receipt id n look.2] }
  | .overflow, some n => (w.withSup look.2).modifyLedger n Ledger.interrupted
  | _, _ => w.withSup look.2

/-- Taking what is in the slot of a worker that waits for a frame is a look at its region. -/
theorem received_noteLook {w : World σ} {id : WorkerId} {rec : Worker} {n file : Nat} {link : Link}
    (waits : w.sup.Waits id rec n file link) (now : Instant) :
    Received w now id (w.noteLook id (w.sup.putAway id rec n now (link.take file))) := by
  have quiet := Worker.Quiet.refl
  have rewired := (Supervisor.rewired_refl waits.known waits.there).modifyLink (link.take file).2
  unfold Supervisor.putAway
  split
  · next frame took =>
      split
      · next uncounted =>
          simp only [noteLook, held?_eq waits.known waits.holds]
          exact .cut waits quiet took uncounted rewired rfl
      · next dropped counted =>
          have noted := rewired.modifyWorker (Supervisor.noteTaken dropped frame.sequence now)
          simp only [noteLook, held?_eq waits.known waits.holds]
          exact .taken waits quiet took counted ⟨noted.manager, noted.policy, noted.poller,
            noted.links, noted.worker, noted.others⟩ rfl
  · next missed => exact .missed waits quiet missed rewired rfl

/-- The first step of a look that claims a slot: the producer's progress is noted, and the slot is the
reader's. -/
def beginLook (w : World σ) (id : WorkerId) (now : Instant) (n file : Nat) (region : Region) :
    World σ :=
  w.withSup ((w.sup.modifyWorker id (Supervisor.notePublished region.published now)).modifyLink n
    fun link => link.setRegion file (region.inState .reading))

/-- The second step: the frame is copied out, and the slot given back. -/
def finishLook (w : World σ) (id : WorkerId) (now : Instant) (n file : Nat) : World σ :=
  match w.sup.worker? id, w.sup.links[n]? with
  | some rec, some link => w.noteLook id (w.sup.putAway id rec n now (link.finishTake file))
  | _, _ => w

/-! ### Publishing in three steps -/

/-- The first step of a publish: the slot is the producer's, and the picture is in its ledger. -/
def beginFill (w : World σ) (n : Nat) (p : Picture) (link : Link) (file : Nat) (claimed : Region) :
    World σ :=
  (w.withSup (w.sup.modifyLink n fun link => link.setRegion file claimed)).modifyLedger n
    fun g => (Deed.fill p).note g link

/-- Whether one more picture can be counted in the region of a file. -/
def countable (w : World σ) (n file : Nat) : Bool :=
  (w.sup.links[n]?.bind fun link => link.region? file).any fun region => decide region.Countable

/-- The second step: the picture is written, and counted. -/
def stow (w : World σ) (n file : Nat) (p : Picture) : World σ :=
  w.withSup (w.sup.modifyLink n fun link => link.mapRegion file fun r => r.stow p)

/-- The steps at once, if the claim is granted. -/
theorem produce_fill {w : World σ} {n file : Nat} {p : Picture} {link : Link} {region : Region}
    (there : w.sup.links[n]? = some link) (filled : (link.fill p).2 = link.setRegion file region) :
    w.produce n (.fill p) = (w.withSup (w.sup.modifyLink n fun link =>
      link.setRegion file region)).modifyLedger n fun g => (Deed.fill p).note g link := by
  have acted : (Deed.fill p).act link = link.setRegion file region := filled
  have unsignalled : link.notifier = (link.setRegion file region).notifier := rfl
  have set : w.sup.links.set n (link.setRegion file region) =
      w.sup.links.modify n fun link => link.setRegion file region := by
    rw [List.modify_eq_set, there]
    rfl
  rw [produce_of_link there, acted, if_pos unsignalled, set]
  rfl

/-! ### Accounts -/

/-- A world, and how the publishes over a link ended in it. -/
structure Account (σ : Type) where
  world : World σ
  outcomes : List PublishOutcome

/-- What can happen while one link is watched closely: an action; a look at a worker's region, with
deeds of the producers while the slot of the link is the reader's; and the producer on the link
filling the slot, with actions while it is the producer's, before the picture is written and after. -/
inductive Turn where
  | act (a : Action)
  | look (id : WorkerId) (now : Instant) (meanwhile : List (Nat × Deed))
  | fill (p : Picture) (claimed written : List Action)

/-- How a publish over a link ends, if an action is one. -/
def outcome? (n : Nat) (w : World σ) : Action → Option PublishOutcome
  | .produce m d => if m = n then w.sup.links[n]?.bind d.outcome? else none
  | _ => none

namespace Account

/-- What is done to the world. -/
def mapWorld (s : Account σ) (f : World σ → World σ) : Account σ := { s with world := f s.world }

/-- The last step of a publish: the picture becomes visible, which ends it. -/
def commit (n file : Nat) (replacing : Bool) (s : Account σ) : Account σ :=
  match s.world.sup.links[n]?.bind fun link => link.region? file with
  | none => s
  | some region =>
      { world := s.world.withSup (s.world.sup.modifyLink n fun link =>
          link.setRegion file (region.commit replacing).2)
        outcomes := s.outcomes ++ (region.commit replacing).1.toOption.toList }

variable [ProcessManager σ]

/-- An action. -/
def act (n : Nat) (s : Account σ) (a : Action) : Account σ where
  world := s.world.step a
  outcomes := s.outcomes ++ (s.world.outcome? n a).toList

/-- Some actions. -/
def acts (n : Nat) (s : Account σ) (l : List Action) : Account σ := l.foldl (act n) s

/-- A look at a worker's region.  If it claims the slot of the link, the producers go on before the
slot is given back. -/
def look (n : Nat) (s : Account σ) (id : WorkerId) (now : Instant) (meanwhile : List (Nat × Deed)) :
    Account σ :=
  let deeds := meanwhile.map fun d => Action.produce d.1 d.2
  match s.world.sup.claims? id n with
  | none => (s.mapWorld fun w => w.receive now id).acts n deeds
  | some (file, region) =>
      ((s.mapWorld fun w => w.beginLook id now n file region).acts n deeds).mapWorld fun w =>
        w.finishLook id now n file

/-- The producer on the link fills the slot.  If its claim is granted, everything else goes on before
the picture is written, and again before it becomes visible.  One that cannot be counted never does. -/
def fill (n : Nat) (s : Account σ) (p : Picture) (claimed written : List Action) : Account σ :=
  match s.world.sup.links[n]?.bind fun link => (link.grants? p).map fun grant => (link, grant) with
  | none => s.acts n (.produce n (.fill p) :: (claimed ++ written))
  | some (link, file, region, replacing) =>
      let begun := s.mapWorld fun w => w.beginFill n p link file region
      let met := begun.acts n claimed
      let stowed := (met.mapWorld fun w => w.stow n file p).acts n written
      if met.world.countable n file then stowed.commit n file replacing else stowed

/-- A turn. -/
def turn (n : Nat) (s : Account σ) : Turn → Account σ
  | .act a => s.act n a
  | .look id now meanwhile => s.look n id now meanwhile
  | .fill p claimed written => s.fill n p claimed written

/-- Some turns. -/
def turns (n : Nat) (s : Account σ) (l : List Turn) : Account σ := l.foldl (turn n) s

/-- The actions run on in the world. -/
theorem world_acts (n : Nat) (s : Account σ) (l : List Action) :
    (s.acts n l).world = s.world.run l := by
  induction l generalizing s with
  | nil => rfl
  | cons a rest ih => exact ih (s.act n a)

omit [ProcessManager σ] in
/-- Two worlds in which the same is noted come to the same. -/
theorem noteLook_congr {w v : World σ} {id : WorkerId}
    {look : Supervisor.LookResult × Supervisor (Recorder σ)}
    (withSup : v.withSup look.2 = w.withSup look.2) (held : v.held? id = w.held? id)
    (stored : v.stored = w.stored) (ledgers : v.ledgers = w.ledgers) :
    v.noteLook id look = w.noteLook id look := by
  have receipt (m : Nat) : v.receipt id m look.2 = w.receipt id m look.2 := by
    rw [World.receipt, ledgers, World.receipt]
  unfold noteLook
  rw [held]
  split
  · rw [withSup, stored, receipt]
  · rw [withSup]
  · exact withSup

/-- A look during which nobody else does anything is a look. -/
theorem look_nil (n : Nat) (s : Account σ) (id : WorkerId) (now : Instant) :
    s.look n id now [] = s.mapWorld fun w => w.receive now id := by
  simp only [look]
  split
  · rfl
  · next file region claims =>
      obtain ⟨w, link, waits, memory, ready⟩ := Supervisor.claims?_eq_some claims
      let claimed := link.setRegion file (region.inState .reading)
      have there : (s.world.beginLook id now n file region).sup.links[n]? = some claimed := by
        show (s.world.sup.links.modify n _)[n]? = _
        rw [List.getElem?_modify_eq, waits.there]
        rfl
      have held : (s.world.beginLook id now n file region).held? id = s.world.held? id :=
        Supervisor.held?_modifyWorker (Supervisor.blind_notePublished _ now) s.world.sup id
      have known : (s.world.beginLook id now n file region).sup.worker? id =
          some (Supervisor.notePublished region.published now w) := by
        have noted := s.world.sup.worker?_modifyWorker id id
          (Supervisor.notePublished region.published now)
        rw [if_pos rfl, waits.known] at noted
        exact noted
      have finished : claimed.finishTake file = link.take file := by
        simp only [Link.finishTake, Link.take, claimed, Link.region?_setRegion memory, memory,
          Region.take_eq_finishTake ready, Link.setRegion_setRegion]
      show Account.mk _ _ = Account.mk _ _
      congr 1
      show (s.world.beginLook id now n file region).finishLook id now n file =
        s.world.noteLook id (s.world.sup.readWorker now id)
      rw [finishLook, there, known]
      simp only [finished]
      rw [Supervisor.readWorker_of_claims waits memory,
        Supervisor.putAway_quiet (Supervisor.quiet_notePublished region.published now)]
      have same := Supervisor.putAway_modifyLink (s.world.sup.modifyWorker id
        (Supervisor.notePublished region.published now)) id w n now
        (fun link => link.setRegion file (region.inState .reading)) (link.take file)
      show noteLook _ id (Supervisor.putAway (Supervisor.modifyLink _ n _) id w n now _) = _
      rw [same]
      exact noteLook_congr rfl held rfl rfl

/-- A fill during which nobody else does anything is the deed. -/
theorem fill_nil (n : Nat) (s : Account σ) (p : Picture) :
    s.fill n p [] [] = s.act n (.produce n (.fill p)) := by
  simp only [fill]
  split
  · rfl
  · next link file claimed replacing granted =>
      obtain ⟨link', there, granted⟩ := Option.bind_eq_some_iff.1 granted
      obtain ⟨grant, granted, same⟩ := Option.map_eq_some_iff.1 granted
      cases same
      obtain ⟨region, writer, memory, rfl, done⟩ := Link.grants?_eq_some granted
      let begun := s.world.beginFill n p link file (region.inState .writing)
      let stowed := begun.stow n file p
      have linked (r : Region) : (s.world.sup.modifyLink n fun link =>
          link.setRegion file r).links[n]? = some (link.setRegion file r) :=
        (List.getElem?_modify_eq ..).trans (congrArg _ there)
      have claimed : begun.countable n file = decide region.Countable := by
        show ((s.world.sup.modifyLink n fun link =>
          link.setRegion file (region.inState .writing)).links[n]?.bind _).any _ = _
        rw [linked, Option.bind_some, Link.region?_setRegion memory]
        rfl
      have sup : stowed.sup = s.world.sup.modifyLink n fun link =>
          link.setRegion file ((region.inState .writing).stow p) :=
        Supervisor.modifyLink_mapRegion _ n file _ _
      have world (s' : Supervisor (Recorder σ)) : stowed.withSup s' =
          (s.world.withSup s').modifyLedger n fun g => (Deed.fill p).note g link := rfl
      show (if begun.countable n file = true then Account.commit n file replacing ⟨stowed, s.outcomes⟩
        else ⟨stowed, s.outcomes⟩) = Account.act n s (.produce n (.fill p))
      simp only [claimed, decide_eq_true_eq, act, outcome?, if_true, there, Option.bind_some,
        Deed.outcome?, done]
      by_cases counts : region.Countable
      · rw [if_pos counts] at done
        have acted : s.world.step (.produce n (.fill p)) = _ :=
          produce_fill there (congrArg Prod.snd done)
        simp only [if_pos counts, commit, sup, linked, Option.bind_some, Link.region?_setRegion memory,
          Region.commit_stow, Supervisor.modifyLink_setRegion, acted, world]
      · rw [if_neg counts] at done
        have acted : s.world.step (.produce n (.fill p)) = _ :=
          produce_fill there (congrArg Prod.snd done)
        have stuck : stowed = stowed.withSup stowed.sup := rfl
        simp only [if_neg counts, acted]
        rw [stuck, world, sup]
        exact congrArg _ (List.append_nil _).symm

/-- **A turn in which nobody else does anything** is the action that it stands for: a pass looks at a
worker's region at once, and a producer's picture is put in at once. -/
theorem turn_alone (n : Nat) (s : Account σ) :
    (∀ id now, s.turn n (.look id now []) = s.mapWorld fun w => w.receive now id) ∧
    ∀ p, s.turn n (.fill p [] []) = s.turn n (.act (.produce n (.fill p))) :=
  ⟨s.look_nil n, s.fill_nil n⟩

end Account

/-! ### Courses -/

variable [ProcessManager σ] {n : Nat} {s s' s'' : Account σ}

/-- What can come of an account: parts of actions that are no deeds on the link, deeds of the producer
on it, and publishes that were turned away because a reader was busy with the slot. -/
inductive Course (n : Nat) : Account σ → Account σ → Prop
  | refl (s : Account σ) : Course n s s
  | part {s s' : Account σ} {w : World σ} (part : Part (fun m _ => m ≠ n) s.world w)
      (rest : Course n ⟨w, s.outcomes⟩ s') : Course n s s'
  | deed {s s' : Account σ} {link : Link} (there : s.world.sup.links[n]? = some link) (d : Deed)
      (rest : Course n ⟨s.world.produce n d, s.outcomes ++ (d.outcome? link).toList⟩ s') :
      Course n s s'
  | busy {s s' : Account σ} (rest : Course n ⟨s.world, s.outcomes ++ [.busy]⟩ s') : Course n s s'

theorem Course.trans (h : Course n s s') (h' : Course n s' s'') : Course n s s'' := by
  induction h with
  | refl _ => exact h'
  | part part _ ih => exact .part part (ih h')
  | deed there d _ ih => exact .deed there d (ih h')
  | busy _ ih => exact .busy (ih h')

/-- Parts of actions that are no deeds on the link. -/
theorem course_of_parts {w w' : World σ} (parts : Parts (fun m _ => m ≠ n) w w')
    (outcomes : List PublishOutcome) : Course n ⟨w, outcomes⟩ ⟨w', outcomes⟩ := by
  induction parts with
  | refl w => exact .refl _
  | step first _ ih => exact .part first ih

/-- The world of an account goes through parts of actions. -/
theorem Course.parts (h : Course n s s') : Parts (fun _ _ => True) s.world s'.world := by
  induction h with
  | refl s => exact .refl s.world
  | part part _ ih => exact .step (part.mono fun _ _ _ => trivial) ih
  | deed there d _ ih => exact .step (.produce there d trivial) ih
  | busy _ ih => exact ih

/-- An action runs a course. -/
theorem course_act (named : s.world.Named) (a : Action) : Course n s (s.act n a) := by
  have other (none : s.world.outcome? n a = none) (ne : ∀ m d, a = .produce m d → m ≠ n) :
      Course n s (s.act n a) := by
    rw [Account.act, none, Option.toList_none, List.append_nil]
    exact course_of_parts (parts_step named a ne) s.outcomes
  cases a with
  | produce m d =>
      by_cases same : m = n
      · subst same
        cases there : s.world.sup.links[m]? with
        | none =>
            have unlinked : s.world.step (.produce m d) = s.world := produce_of_unlinked there d
            rw [Account.act, unlinked, outcome?, if_pos rfl, there, Option.bind_none,
              Option.toList_none, List.append_nil]
            exact .refl s
        | some link =>
            rw [Account.act, outcome?, if_pos rfl, there]
            exact .deed there d (.refl _)
      · refine other (if_neg same) ?_
        rintro m' d' same'
        cases same'
        exact same
  | _ => exact other rfl nofun

/-- Some actions run a course. -/
theorem course_acts (named : s.world.Named) (l : List Action) : Course n s (s.acts n l) := by
  induction l generalizing s with
  | nil => exact .refl s
  | cons a rest ih =>
      have first := course_act (n := n) named a
      exact first.trans (ih (first.parts.named named))

end World

end FrameMux
