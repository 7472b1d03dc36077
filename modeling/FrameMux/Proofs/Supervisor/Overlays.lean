/-
**A link that looks different.**

A link may be in another state than the supervisor could tell: nobody holds it any more, or what is
different about it lies in its memory, where only a look at its slot would show it.  Whatever the
supervisor does then comes to the same, and the link stays different in the same way.

Main definitions:

* `FrameMux.Link.Covert` — changes of a link that show in its memory only;
* `FrameMux.Supervisor.overlay` — **the supervisor with another state of one link**, and with more
  events discarded;
* `FrameMux.Supervisor.Hides` — what is different about a link does not show for a worker.

Main results:

* `FrameMux.Supervisor.tickWorker_overlay`, `handleEvent_overlay`, `retry_overlay` and the like —
  **every operation** on a worker that hides the difference commutes with it;
* `FrameMux.Supervisor.dispatch_overlay`, `wait_overlay` — so do the operations on events;
* `FrameMux.Supervisor.readWorker_overlay` — and so does a look at the region of a worker that does
  not hold the link.
-/

import FrameMux.Proofs.Supervisor.View

set_option relaxedAutoImplicit false
set_option autoImplicit false

namespace FrameMux

/-- A change of a link that shows in its memory only: neither the counter nor the socket is changed,
and what the multiplexer reads from them is the same. -/
structure Link.Covert (f : Link → Link) : Prop where
  notifier : ∀ l, (f l).notifier = l.notifier
  drained : ∀ l, (f l).drain.2 = f l.drain.2
  received : ∀ mmap l,
    (f l).receiveRegion mmap = ((l.receiveRegion mmap).1, f (l.receiveRegion mmap).2)
  closed : ∀ l, (f l).closeReceiver = f l.closeReceiver

/-- The same is drained. -/
theorem Link.Covert.drain {f : Link → Link} (covert : Covert f) (l : Link) :
    (f l).drain = (l.drain.1, f l.drain.2) := by
  have same : (f l).drain.1 = l.drain.1 := by rw [Link.drain, covert.notifier, Link.drain]
  exact Prod.ext same (covert.drained l)

namespace Supervisor

variable {σ : Type} {s : Supervisor σ} {n d : Nat} {f : Link → Link} {id : WorkerId}

/-- The supervisor with another state of one link, and with more events discarded. -/
def overlay (s : Supervisor σ) (n : Nat) (f : Link → Link) (d : Nat) : Supervisor σ :=
  { s with links := s.links.modify n f, discarded := s.discarded + d }

/-- What is different about a link does not show in what is done for a worker. -/
def Hides (s : Supervisor σ) (n : Nat) (f : Link → Link) (id : WorkerId) : Prop :=
  Link.Covert f ∨ s.held? id ≠ some n

/-! ### Records, links, and what else there is -/

@[simp] theorem worker?_overlay (s : Supervisor σ) (n : Nat) (f : Link → Link) (d : Nat)
    (id : WorkerId) : (s.overlay n f d).worker? id = s.worker? id := rfl

/-- Another link is there as before. -/
theorem link_overlay_of_ne {m : Nat} (ne : m ≠ n) (s : Supervisor σ) (f : Link → Link) (d : Nat) :
    (s.overlay n f d).links[m]? = s.links[m]? :=
  List.getElem?_modify_ne f s.links ne.symm

/-- The link itself is there as it looks. -/
theorem link_overlay_self (s : Supervisor σ) (n : Nat) (f : Link → Link) (d : Nat) :
    (s.overlay n f d).links[n]? = s.links[n]?.map f :=
  List.getElem?_modify_eq f n s.links

/-- Changing another link. -/
theorem modifyLink_overlay_of_ne {m : Nat} (ne : m ≠ n) (s : Supervisor σ) (f g : Link → Link)
    (d : Nat) : (s.overlay n f d).modifyLink m g = (s.modifyLink m g).overlay n f d := by
  simp only [modifyLink, overlay, List.modify_modify_ne f g s.links ne.symm]

/-- Changing the link itself, in a way that goes with how it looks. -/
theorem modifyLink_overlay_self {g g' : Link → Link} (commutes : ∀ l, g' (f l) = f (g l))
    (s : Supervisor σ) (n d : Nat) :
    (s.overlay n f d).modifyLink n g' = (s.modifyLink n g).overlay n f d := by
  simp only [modifyLink, overlay, List.modify_modify_eq]
  exact congrArg (fun h => Supervisor.mk s.manager s.policy s.workers (s.links.modify n h) s.poller
    s.frames (s.discarded + d)) (funext commutes)

/-- Closing the link of a worker. -/
theorem closeLink_overlay {channels : WorkerLink} (hides : Link.Covert f ∨ channels.link ≠ n)
    (s : Supervisor σ) (d : Nat) :
    (s.overlay n f d).closeLink channels = (s.closeLink channels).overlay n f d := by
  unfold closeLink
  by_cases same : channels.link = n
  · have covert := hides.resolve_right (not_not_intro same)
    rw [same]
    exact modifyLink_overlay_self covert.closed s n d
  · exact modifyLink_overlay_of_ne same s f Link.closeReceiver d

/-- What shows for a worker depends on the link that it holds. -/
theorem Hides.of_held {s' : Supervisor σ} (h : s.Hides n f id) (same : s'.held? id = s.held? id) :
    s'.Hides n f id := by
  rw [Hides, same]
  exact h

/-- What is different about a link is hidden by a worker with this record. -/
theorem Hides.channels {w : Worker} {channels : WorkerLink} (h : s.Hides n f id)
    (known : s.worker? id = some w) (holds : w.channels = some channels) :
    Link.Covert f ∨ channels.link ≠ n := by
  refine h.imp_right fun unheld same => unheld ?_
  rw [held?_of_known known, holds, Option.map_some, same]

theorem held?_enter (s : Supervisor σ) (id : WorkerId) (state : WorkerState) (now : Instant) :
    (s.enter id state now).held? id = s.held? id := by
  have blind : Worker.Blind fun w => w.enter state now := ⟨fun _ => rfl, fun _ => rfl⟩
  exact held?_modifyWorker blind s id

theorem held?_forgetPid (s : Supervisor σ) (id : WorkerId) :
    (s.forgetPid id).held? id = s.held? id := by
  have blind : Worker.Blind fun w => { w with pid := none } := ⟨fun _ => rfl, fun _ => rfl⟩
  exact held?_modifyWorker blind s id

/-! ### Letting go, and starting anew -/

/-- Letting go of a worker's link. -/
theorem releaseChannels_overlay (hides : s.Hides n f id) (d : Nat) :
    (s.overlay n f d).releaseChannels id = (s.releaseChannels id).overlay n f d := by
  simp only [releaseChannels, worker?_overlay]
  cases held : (s.worker? id).bind (·.channels) with
  | none => rfl
  | some channels =>
      obtain ⟨w, known, holds⟩ := Option.bind_eq_some_iff.1 held
      have closed := closeLink_overlay (hides.channels known holds)
        (s.modifyWorker id fun w => { w with frameWaiting := false, channels := none }) d
      exact congrArg (fun t : Supervisor σ =>
        { t with poller := s.poller.deregister channels.link }) closed

/-- Burying a worker. -/
theorem bury_overlay (hides : s.Hides n f id) (now : Instant) (d : Nat) :
    (s.overlay n f d).bury id now = (s.bury id now).overlay n f d := by
  have released := releaseChannels_overlay (hides.of_held (held?_enter s id .purged now)) d
  exact congrArg (fun t : Supervisor σ => (t.resetCache id).enter id .buried now) released

/-- A change of a link that was there before. -/
theorem modify_concat {α : Type} {l : List α} {n : Nat} (old : n < l.length) (g : α → α) (a : α) :
    (l ++ [a]).modify n g = l.modify n g ++ [a] := by
  refine List.ext_getElem? fun m => ?_
  rw [List.getElem?_modify, List.getElem?_append, List.getElem?_append, List.length_modify,
    List.getElem?_modify]
  by_cases here : m < l.length
  · rw [if_pos here, if_pos here]
  · have apart : n ≠ m := by omega
    rw [if_neg here, if_neg here]
    simp only [if_neg apart, id_map']

/-- Connecting the process of a worker without a link: the new link is another one. -/
theorem adopt_overlay {w : Worker} (unlinked : w.channels = none) (old : n < s.links.length)
    (started : Spawned) (d : Nat) :
    (s.overlay n f d).adopt w started = (s.adopt w started).overlay n f d := by
  simp only [adopt, unlinked, Option.map_none, Option.getD_none, overlay, modifyWorker,
    List.length_modify, modify_concat old]

variable [ProcessManager σ]

/-- Starting the process of a worker without a link. -/
theorem launch_overlay {w : Worker} (unlinked : w.channels = none) (old : n < s.links.length)
    (now : Instant) (d : Nat) :
    (s.overlay n f d).launch id w now = (s.launch id w now).overlay n f d := by
  unfold launch
  have same : (s.overlay n f d).manager = s.manager := rfl
  rw [same]
  cases (ProcessManager.spawn s.manager id w.source).1 with
  | none => rfl
  | some started =>
      have adopted := adopt_overlay (s := (s.noteAttempt id now).afterSpawn id w.source) (f := f)
        unlinked old started d
      exact congrArg (fun t : Supervisor σ => t.enter id .alive now) adopted

/-- Reaping a zombie. -/
theorem reapAndBury_overlay (hides : s.Hides n f id) (process : Option Int) (now : Instant) (d : Nat) :
    (s.overlay n f d).reapAndBury id process now = (s.reapAndBury id process now).overlay n f d := by
  cases process with
  | none => exact bury_overlay hides now d
  | some pid =>
      have same : (s.overlay n f d).reapedDead pid = s.reapedDead pid := rfl
      rw [reapAndBury, reapAndBury, same]
      split
      · exact bury_overlay (s := (s.afterReap pid).forgetPid id)
          (hides.of_held (held?_forgetPid (s.afterReap pid) id)) now d
      · rfl

/-- Killing an infected worker. -/
theorem killAndReap_overlay (hides : s.Hides n f id) (process : Option Int) (now : Instant) (d : Nat) :
    (s.overlay n f d).killAndReap id process now = (s.killAndReap id process now).overlay n f d := by
  cases process with
  | none =>
      exact reapAndBury_overlay (s := s.enter id .zombie now)
        (hides.of_held (held?_enter s id .zombie now)) none now d
  | some pid =>
      have same : (s.overlay n f d).manager = s.manager := rfl
      rw [killAndReap, killAndReap, same]
      split
      · exact reapAndBury_overlay (s := (s.afterKill pid).enter id .zombie now)
          (hides.of_held (held?_enter (s.afterKill pid) id .zombie now)) (some pid) now d
      · rfl

/-! ### Operations on a worker -/

/-- Starting a buried worker again. -/
theorem relaunch_overlay {w : Worker} (fit : s.Fit id) (known : s.worker? id = some w)
    (buried : w.state = .buried) (old : n < s.links.length) (now : Instant) (d : Nat) :
    ((s.overlay n f d).enter id .creating now).launch id (w.enter .creating now) now =
      ((s.enter id .creating now).launch id (w.enter .creating now) now).overlay n f d := by
  have unlinked : (w.enter .creating now).channels = none := fit.apart w known (Or.inr buried)
  exact launch_overlay (s := s.enter id .creating now) unlinked old now d

/-- An event from outside. -/
theorem handleEvent_overlay (hides : s.Hides n f id) (fit : s.Fit id) (old : n < s.links.length)
    {event : LifecycleEvent} (external : event.external = true) (now : Instant) (d : Nat) :
    (s.overlay n f d).handleEvent id event now = (s.handleEvent id event now).overlay n f d := by
  cases known : s.worker? id with
  | none =>
      have known' : (s.overlay n f d).worker? id = none := known
      rw [handleEvent, handleChain_of_unknown known', handleEvent, handleChain_of_unknown known]
  | some w =>
      have known' : (s.overlay n f d).worker? id = some w := known
      rcases external_cases external w.state with idle | ⟨alive, condemns⟩ | ⟨buried, rfl⟩
      · rw [handleEvent_of_idle known now idle, handleEvent_of_idle known' now idle]
      · rw [handleEvent_of_alive known alive now condemns,
          handleEvent_of_alive known' alive now condemns]
        exact killAndReap_overlay (hides.of_held (held?_enter s id .infected now)) w.pid now d
      · rw [handleEvent_of_buried known (fit.named w known) buried,
          handleEvent_of_buried known' (fit.named w known) buried]
        exact relaunch_overlay fit known buried old now d

omit [ProcessManager σ] in
/-- Letting go of a purged worker's link. -/
theorem release_overlay (hides : s.Hides n f id) (now : Instant) (d : Nat) :
    ((s.overlay n f d).releaseChannels id).enter id .buried now =
      ((s.releaseChannels id).enter id .buried now).overlay n f d :=
  congrArg (fun t : Supervisor σ => t.enter id .buried now) (releaseChannels_overlay hides d)

/-- Trying an owed effect again. -/
theorem retry_overlay (hides : s.Hides n f id) (fit : s.Fit id) (old : n < s.links.length)
    (effect : Effect) (now : Instant) (d : Nat) :
    (s.overlay n f d).retry id effect now = (s.retry id effect now).overlay n f d := by
  by_cases owes : s.owed id = some effect
  · cases known : s.worker? id with
    | none =>
        rw [Supervisor.owed, known] at owes
        cases owes
    | some w =>
        have known' : (s.overlay n f d).worker? id = some w := known
        rw [Supervisor.owed, known] at owes
        change w.state.owed = some effect at owes
        cases state : w.state with
        | creating =>
            rw [state] at owes
            cases owes
            rw [retry_of_creating known (fit.named w known) state,
              retry_of_creating known' (fit.named w known) state]
            exact launch_overlay (fit.apart w known (Or.inl state)) old now d
        | infected =>
            rw [state] at owes
            cases owes
            rw [retry_of_infected known state, retry_of_infected known' state]
            exact killAndReap_overlay hides w.pid now d
        | zombie =>
            rw [state] at owes
            cases owes
            rw [retry_of_zombie known state, retry_of_zombie known' state]
            exact reapAndBury_overlay hides w.pid now d
        | purged =>
            rw [state] at owes
            cases owes
            rw [retry_of_purged known state, retry_of_purged known' state]
            exact release_overlay hides now d
        | alive | buried =>
            rw [state] at owes
            cases owes
  · rw [retry_of_not_owed owes, retry_of_not_owed (s := s.overlay n f d) owes]

/-- The watchdog's look at a worker. -/
theorem judge_overlay (hides : s.Hides n f id) (now : Instant) (d : Nat) :
    (s.overlay n f d).judge id now = (s.judge id now).overlay n f d := by
  cases known : s.worker? id with
  | none =>
      have known' : (s.overlay n f d).worker? id = none := known
      rw [judge_of_unknown known, judge_of_unknown known']
  | some w =>
      have known' : (s.overlay n f d).worker? id = some w := known
      cases raised : w.verdict? s.policy now with
      | none =>
          have raised' : w.verdict? (s.overlay n f d).policy now = none := raised
          rw [judge_of_acquitted known raised, judge_of_acquitted known' raised']
      | some event =>
          have raised' : w.verdict? (s.overlay n f d).policy now = some event := raised
          rw [judge_of_condemned known raised, judge_of_condemned known' raised']
          exact killAndReap_overlay (hides.of_held (held?_enter s id .infected now)) w.pid now d

/-- What a worker is due for. -/
theorem advance_overlay (hides : s.Hides n f id) (fit : s.Fit id) (old : n < s.links.length)
    (now : Instant) (d : Nat) :
    (s.overlay n f d).advance id now = (s.advance id now).overlay n f d := by
  cases known : s.worker? id with
  | none =>
      have known' : (s.overlay n f d).worker? id = none := known
      rw [advance_of_unknown known, advance_of_unknown known']
  | some w =>
      have known' : (s.overlay n f d).worker? id = some w := known
      have named := fit.named w known
      cases state : w.state with
      | alive => rw [advance_of_alive known state, advance_of_alive known' state]
      | creating =>
          rw [advance_of_creating known named state, advance_of_creating known' named state]
          show (if s.spawnDue w now then _ else _) = _
          split
          · exact launch_overlay (fit.apart w known (Or.inl state)) old now d
          · rfl
      | infected =>
          rw [advance_of_infected known state, advance_of_infected known' state]
          exact killAndReap_overlay hides w.pid now d
      | zombie =>
          rw [advance_of_zombie known state, advance_of_zombie known' state]
          exact reapAndBury_overlay hides w.pid now d
      | purged =>
          rw [advance_of_purged known state, advance_of_purged known' state]
          exact release_overlay hides now d
      | buried =>
          rw [advance_of_buried known named state, advance_of_buried known' named state]
          show (if s.policy.cooldown ≤ now.since w.since then _ else _) = _
          split
          · exact relaunch_overlay fit known state old now d
          · rfl

/-! ### Who holds what -/

/-- No move makes a worker hold a link that was there before. -/
theorem Move.held?_of {s' : Supervisor σ} (h : Move id s s') (fit : s.Fit id) {m : Nat}
    (old : m < s.links.length) {other : WorkerId} (holds : s'.held? other = some m) :
    s.held? other = some m := by
  by_cases same : other = id
  · subst same
    cases h.relinked fit with
    | @kept w w' links known known' channels =>
        rw [held?_of_known known', channels] at holds
        rw [held?_of_known known, holds]
    | released _ _ unlinked =>
        obtain ⟨channels, held, -⟩ := Option.map_eq_some_iff.1 holds
        obtain ⟨w', known', holds⟩ := Option.bind_eq_some_iff.1 held
        rw [unlinked w' known'] at holds
        cases holds
    | opened links known' holds' =>
        rw [held?_of_known known', holds', Option.map_some] at holds
        cases holds
        exact absurd old (Nat.lt_irrefl _)
  · rwa [held?, h.worker?_of_ne fit.named same] at holds

/-- Links are only ever added. -/
theorem Move.length_le {s' : Supervisor σ} (h : Move id s s') (fit : s.Fit id) :
    s.links.length ≤ s'.links.length := by
  cases h.relinked fit with
  | kept links => exact Nat.le_of_eq (congrArg List.length links.symm)
  | released length => exact Nat.le_of_eq length.symm
  | opened links =>
      rw [links, List.length_append]
      exact Nat.le_add_right _ _

/-- Nor does a chain of moves take a link away. -/
theorem Moves.length_le {s' : Supervisor σ} (h : Moves id s s') (fit : s.Fit id) :
    s.links.length ≤ s'.links.length := by
  induction h with
  | refl s => exact Nat.le_refl _
  | step first _ ih => exact Nat.le_trans (first.length_le fit) (ih (first.fit fit))

/-- Nor does it make a worker hold one that was there before. -/
theorem Moves.held?_of {s' : Supervisor σ} (h : Moves id s s') (fit : s.Fit id) {m : Nat}
    (old : m < s.links.length) {other : WorkerId} (holds : s'.held? other = some m) :
    s.held? other = some m := by
  induction h with
  | refl s => exact holds
  | step first _ ih =>
      exact first.held?_of fit old
        (ih (first.fit fit) (Nat.lt_of_lt_of_le old (first.length_le fit)) holds)

/-! ### A worker's turn -/

/-- What hides a difference goes on hiding it. -/
theorem Moves.hides {s' : Supervisor σ} (h : Moves id s s') (fit : s.Fit id)
    (old : n < s.links.length) (hides : s.Hides n f id) : s'.Hides n f id :=
  hides.imp_right fun unheld holds => unheld (h.held?_of fit old holds)

/-- **A worker's turn in a round.** -/
theorem tickWorker_overlay (hides : s.Hides n f id) (fit : s.Fit id) (old : n < s.links.length)
    (now : Instant) (d : Nat) :
    (s.overlay n f d).tickWorker now id = (s.tickWorker now id).overlay n f d := by
  have moves := moves_judge fit.named now
  rw [tickWorker, judge_overlay hides, tickWorker]
  exact advance_overlay (moves.hides fit old hides) (moves.fit fit)
    (Nat.lt_of_lt_of_le old (moves.length_le fit)) now d

/-! ### The end -/

/-- Killing a worker's process at the end. -/
theorem killProcess_overlay (s : Supervisor σ) (n : Nat) (f : Link → Link) (d : Nat)
    (id : WorkerId) : (s.overlay n f d).killProcess id = (s.killProcess id).overlay n f d := by
  unfold killProcess
  rw [worker?_overlay]
  split <;> rfl

/-- Reaping a worker's process at the end. -/
theorem reapProcess_overlay (s : Supervisor σ) (n : Nat) (f : Link → Link) (d k : Nat)
    (id : WorkerId) :
    (reapProcess (k, s.overlay n f d) id).2 = (reapProcess (k, s) id).2.overlay n f d := by
  unfold reapProcess
  simp only [worker?_overlay]
  cases (s.worker? id).bind (·.pid) with
  | none => rfl
  | some pid =>
      show (if s.reapedDead pid = true then _ else _ : Nat × Supervisor σ).2 =
        (if s.reapedDead pid = true then _ else _ : Nat × Supervisor σ).2.overlay n f d
      split <;> rfl

omit [ProcessManager σ] in
/-- Letting go of everything of a worker at the end. -/
theorem letGo_overlay (hides : s.Hides n f id) (d : Nat) :
    ((s.overlay n f d).releaseChannels id).resetCache id =
      ((s.releaseChannels id).resetCache id).overlay n f d :=
  congrArg (fun t : Supervisor σ => t.resetCache id) (releaseChannels_overlay hides d)

/-! ### Sources, events and frames -/

omit [ProcessManager σ] in
/-- A new source. -/
theorem addWorker_overlay (s : Supervisor σ) (n : Nat) (f : Link → Link) (d : Nat) (id : WorkerId)
    (source : String) (now : Instant) :
    (s.overlay n f d).addWorker id source now =
      (s.addWorker id source now).map fun t => t.overlay n f d := by
  unfold addWorker
  show (if s.workers.contains id = true then _ else if maxWorkers ≤ s.workers.size then _ else _) = _
  split
  · rfl
  · split <;> rfl

omit [ProcessManager σ] in
/-- Waiting, if the difference does not show in the counter, or nobody watches it. -/
theorem wait_overlay (unseen : (∀ l, (f l).notifier = l.notifier) ∨ s.poller.token? n = none)
    (d : Nat) : (s.overlay n f d).wait = (s.wait.1, s.wait.2.overlay n f d) := by
  have same : ∀ m, s.poller.token? m ≠ none →
      (((s.overlay n f d).links[m]?.map fun link => link.notifier.pending).getD false) =
        ((s.links[m]?.map fun link => link.notifier.pending).getD false) := by
    intro m watched
    by_cases self : m = n
    · subst self
      rw [link_overlay_self, Option.map_map]
      congr 2
      funext l
      exact congrArg Notifier.pending (unseen.resolve_right watched l)
    · rw [link_overlay_of_ne self]
  have poller : (s.overlay n f d).poller = s.poller := rfl
  simp only [wait, poller, s.poller.wait_congr same]
  rfl

omit [ProcessManager σ] in
/-- Taking part in a negotiation. -/
theorem negotiate_overlay {channels : WorkerLink} (hides : Link.Covert f ∨ channels.link ≠ n)
    (s : Supervisor σ) (d : Nat) (id : WorkerId) (mmap : Mmap) :
    (s.overlay n f d).negotiate id channels mmap =
      (s.negotiate id channels mmap).overlay n f d := by
  unfold negotiate
  split
  · rfl
  · by_cases self : channels.link = n
    · have covert := hides.resolve_right (not_not_intro self)
      rw [self, link_overlay_self]
      cases s.links[n]? with
      | none => rfl
      | some link =>
          have changed :
              (s.overlay n f d).modifyLink n (fun _ => f (link.receiveRegion mmap).2) =
                (s.modifyLink n fun _ => (link.receiveRegion mmap).2).overlay n f d :=
            modifyLink_overlay_self (by intro l; rfl) s n d
          simp only [Option.map_some, covert.received, changed]
          cases (link.receiveRegion mmap).1 <;> rfl
    · rw [link_overlay_of_ne self]
      cases s.links[channels.link]? with
      | none => rfl
      | some link =>
          simp only [Option.map_some, modifyLink_overlay_of_ne self]
          cases (link.receiveRegion mmap).1 <;> rfl

omit [ProcessManager σ] in
/-- Going by a mask. -/
theorem applyMask_overlay {channels : WorkerLink} (hides : Link.Covert f ∨ channels.link ≠ n)
    (s : Supervisor σ) (d : Nat) (id : WorkerId) (mask : EventMask) (mmap : Mmap) :
    (s.overlay n f d).applyMask id channels mask mmap =
      (s.applyMask id channels mask mmap).overlay n f d := by
  unfold applyMask
  split
  · exact congrArg (fun t : Supervisor σ => t.modifyWorker id (noteEvents mask))
      (negotiate_overlay hides s d id mmap)
  · rfl

omit [ProcessManager σ] in
/-- **Dispatching a token.** -/
theorem dispatch_overlay {token : Token} (hides : s.Hides n f token.worker) (d : Nat)
    (mmap : Mmap) :
    (s.overlay n f d).dispatch token mmap =
      ((s.dispatch token mmap).1, (s.dispatch token mmap).2.overlay n f d) := by
  unfold dispatch
  rw [worker?_overlay]
  cases known : s.worker? token.worker with
  | none => exact Prod.ext rfl (by simp only [discard, overlay, Nat.add_right_comm])
  | some w =>
      dsimp only
      split
      · exact Prod.ext rfl (by simp only [discard, overlay, Nat.add_right_comm])
      · cases holds : w.channels with
        | none => exact Prod.ext rfl (by simp only [discard, overlay, Nat.add_right_comm])
        | some channels =>
            have hides := hides.channels known holds
            dsimp only
            by_cases self : channels.link = n
            · have covert := hides.resolve_right (not_not_intro self)
              rw [self, link_overlay_self]
              cases s.links[n]? with
              | none => rfl
              | some link =>
                  simp only [Option.map_some, covert.drain]
                  obtain ⟨mask?, drained⟩ := link.drain
                  cases mask? with
                  | none => rfl
                  | some mask =>
                      have changed : (s.overlay n f d).modifyLink n (fun _ => f drained) =
                          (s.modifyLink n fun _ => drained).overlay n f d :=
                        modifyLink_overlay_self (by intro l; rfl) s n d
                      dsimp only
                      rw [changed, applyMask_overlay hides]
            · rw [link_overlay_of_ne self]
              cases s.links[channels.link]? with
              | none => rfl
              | some link =>
                  simp only [Option.map_some]
                  obtain ⟨mask?, drained⟩ := link.drain
                  cases mask? with
                  | none => rfl
                  | some mask =>
                      dsimp only
                      rw [modifyLink_overlay_of_ne self, applyMask_overlay hides]

omit [ProcessManager σ] in
/-- Taking a frame over another link. -/
theorem takeFrame_overlay {m : Nat} (ne : m ≠ n) (s : Supervisor σ) (f : Link → Link) (d : Nat)
    (id : WorkerId) (w : Worker) (file : Nat) (now : Instant) :
    (s.overlay n f d).takeFrame id w m file now =
      ((s.takeFrame id w m file now).1, (s.takeFrame id w m file now).2.overlay n f d) := by
  unfold takeFrame
  rw [link_overlay_of_ne ne]
  cases s.links[m]? with
  | none => rfl
  | some link =>
      simp only [Option.map_some, modifyLink_overlay_of_ne ne]
      cases (link.take file).1 with
      | error fault => rfl
      | ok frame? =>
          cases frame? with
          | none => rfl
          | some frame =>
              dsimp only
              cases checkedAdd w.dropped (skippedBefore frame.sequence w.taken) <;> rfl

omit [ProcessManager σ] in
/-- **A look at the region of a worker** that does not hold the link. -/
theorem readWorker_overlay (unheld : s.held? id ≠ some n) (f : Link → Link) (d : Nat)
    (now : Instant) :
    (s.overlay n f d).readWorker now id =
      ((s.readWorker now id).1, (s.readWorker now id).2.overlay n f d) := by
  unfold readWorker
  rw [worker?_overlay]
  cases known : s.worker? id with
  | none => rfl
  | some w =>
      dsimp only
      split
      · rfl
      · split
        · next m file holds =>
            have ne : m ≠ n := by
              rintro rfl
              exact unheld (by rw [held?_of_known known, holds]; rfl)
            have look : ∀ (t : Supervisor σ) (due : Bool),
                (if due then (t.overlay n f d).takeFrame id w m file now
                  else (.nothing, t.overlay n f d)) =
                ((if due then t.takeFrame id w m file now else (.nothing, t)).1,
                  (if due then t.takeFrame id w m file now
                    else (.nothing, t)).2.overlay n f d) := by
              intro t due
              cases due with
              | true => exact takeFrame_overlay ne t f d id w file now
              | false => rfl
            rw [link_overlay_of_ne ne]
            generalize ((s.links[m]?.bind fun link => link.region? file).map
              Region.published).getD 0 = published
            exact look (s.modifyWorker id (notePublished published now))
              (w.frameWaiting && s.frames.isVacant id)
        · rfl

end Supervisor

end FrameMux
