/-
**Generations apart.**

When a worker lets go of its link, the processes that it was shared with still have their ends of it,
and tokens of the generation may be on their way.  Whatever is done on the link from then on, and
whenever those tokens are dispatched, it comes to nothing: the multiplexer goes on as it would have
without, but for the number of events that it discarded.

Main definitions:

* `FrameMux.World.Action.stale` — deeds on one link, and tokens of one generation.

Main results:

* `FrameMux.World.Part.held?_or_started` — a worker comes to hold a link only when a process is
  started for it;
* `FrameMux.World.Overlaid.stale` — what is stale shows nowhere, if nobody holds the link and the
  generation is over;
* `FrameMux.World.overlaid_run` — a run is overlaid on **the same run without what is stale**;
* `FrameMux.World.generations_apart` — two runs that only differ in what is stale differ in nothing
  else.
-/

import FrameMux.Proofs.World.Overlays
import FrameMux.Proofs.World.Registrations
import Mathlib.Data.List.Induction

set_option relaxedAutoImplicit false
set_option autoImplicit false

namespace FrameMux

namespace Supervisor

variable {σ : Type} [ProcessManager σ] {id : WorkerId} {s s' : Supervisor (Recorder σ)}

omit [ProcessManager σ] in
/-- Whoever lets go of a link holds none. -/
theorem held?_releaseChannels (s : Supervisor (Recorder σ)) (id : WorkerId) :
    (s.releaseChannels id).held? id = none := by
  rw [held?, worker?_releaseChannels, if_pos rfl]
  cases s.worker? id <;> rfl

/-- A move leaves its worker the link that it holds, or none, or it starts a process. -/
theorem Move.held?_or_started (move : Move id s s') :
    ∃ new, s'.manager.calls = s.manager.calls ++ new ∧
      (s'.held? id = s.held? id ∨ s'.held? id = none ∨
        0 < (new.filterMap Call.attempt?).count true) := by
  cases move with
  | enter now => exact ⟨[], (List.append_nil _).symm, Or.inl (held?_enter s id _ now)⟩
  | kill | reapRunning => exact ⟨[_], rfl, Or.inl rfl⟩
  | @reapDead w pid => exact ⟨[_], rfl, Or.inl (held?_forgetPid (s.afterReap pid) id)⟩
  | bury now =>
      refine ⟨[], by simp, Or.inr (Or.inl ?_)⟩
      rw [held?_enter]
      exact held?_releaseChannels _ id
  | release now =>
      refine ⟨[], by simp, Or.inr (Or.inl ?_)⟩
      rw [held?_enter]
      exact held?_releaseChannels s id
  | letGo => exact ⟨[], by simp, Or.inr (Or.inl (held?_releaseChannels s id))⟩
  | @spawnFailed w now =>
      have blind : Worker.Blind fun w => { w with lastSpawn := some now } :=
        ⟨fun _ => rfl, fun _ => rfl⟩
      exact ⟨[_], rfl, Or.inl (held?_modifyWorker blind s id)⟩
  | spawned now _ _ succeeded =>
      exact ⟨_, calls_spawned succeeded now, Or.inr (Or.inr Nat.zero_lt_one)⟩

end Supervisor

namespace World

variable {σ : Type} [ProcessManager σ] {w w' v : World σ} {n d : Nat} {f : Link → Link}
  {id : WorkerId} {D : Nat → Deed → Prop}

/-! ### Links and starts -/

/-- **A worker comes to hold a link only when a process is started for it.** -/
theorem Part.held?_or_started (part : Part D w w') (named : w.Named) (id : WorkerId) :
    started id w.calls ≤ started id w'.calls ∧
      (w'.sup.held? id = w.sup.held? id ∨ w'.sup.held? id = none ∨
        started id w.calls < started id w'.calls) := by
  rcases part.move_or_keeps with ⟨other, s, move, rfl⟩ | ⟨keeps, calls⟩
  · by_cases same : id = other
    · subst same
      obtain ⟨new, made, outcome⟩ := move.held?_or_started
      have count : started id (w.follow id s).calls =
          started id w.calls + (new.filterMap Call.attempt?).count true := by
        rw [started, attempts_follow id made, if_pos rfl, List.count_append, started]
      rw [count]
      refine ⟨Nat.le_add_right _ _, outcome.imp_right (Or.imp_right fun one => ?_)⟩
      exact Nat.lt_add_of_pos_right one
    · obtain ⟨new, made⟩ := move.calls
      have count : started id (w.follow other s).calls = started id w.calls := by
        rw [started, attempts_follow other made, if_neg same, List.append_nil, started]
      have record : s.worker? id = w.sup.worker? id := move.worker?_of_ne (named other) same
      refine ⟨Nat.le_of_eq count.symm, Or.inl ?_⟩
      show s.held? id = _
      rw [Supervisor.held?, record, Supervisor.held?]
  · refine ⟨Nat.le_of_eq (by rw [calls]), ?_⟩
    cases before : w.sup.worker? id with
    | none =>
        right; left
        cases known : w'.sup.worker? id with
        | none => rw [Supervisor.held?, known]; rfl
        | some rec =>
            obtain ⟨source, now, rfl⟩ := keeps.added id rec known before
            rw [Supervisor.held?_of_known known]
            rfl
    | some rec₀ =>
        left
        obtain ⟨rec, known, kept⟩ := keeps.kept id rec₀ before
        rw [Supervisor.held?_of_known known, Supervisor.held?_of_known before, kept.link]

/-- Throughout a run, a worker holds what it held at first, or nothing, or a process was started for
it meanwhile. -/
theorem held?_or_started_run (named : w.Named) (id : WorkerId) (l : List Action) :
    started id w.calls ≤ started id (w.run l).calls ∧
      ((w.run l).sup.held? id = w.sup.held? id ∨ (w.run l).sup.held? id = none ∨
        started id w.calls < started id (w.run l).calls) := by
  refine ((parts_run (D := fun _ _ => True) named l fun _ _ _ => trivial).induction
    (I := fun w' => w'.Named ∧ started id w.calls ≤ started id w'.calls ∧
      (w'.sup.held? id = w.sup.held? id ∨ w'.sup.held? id = none ∨
        started id w.calls < started id w'.calls)) ?_ ⟨named, Nat.le_refl _, Or.inl rfl⟩).2
  rintro w₁ w₂ ⟨named, le, outcome⟩ part
  obtain ⟨le', outcome'⟩ := part.held?_or_started named id
  refine ⟨part.named named, Nat.le_trans le le', ?_⟩
  rcases outcome' with same | unlinked | more
  · rcases outcome with held | unlinked | more
    · exact Or.inl (same.trans held)
    · exact Or.inr (Or.inl (same.trans unlinked))
    · exact Or.inr (Or.inr (Nat.lt_of_lt_of_le more le'))
  · exact Or.inr (Or.inl unlinked)
  · exact Or.inr (Or.inr (Nat.lt_of_le_of_lt le more))

/-- Throughout a run, nobody comes to hold a link that was there before. -/
theorem held?_of_run (sound : w.Sound) (old : n < w.sup.links.length) (l : List Action) :
    (w.run l).Sound ∧ n < (w.run l).sup.links.length ∧
      ∀ id, (w.run l).sup.held? id = some n → w.sup.held? id = some n := by
  refine (parts_run (D := fun _ _ => True) sound.named l fun _ _ _ => trivial).induction
    (I := fun w' => w'.Sound ∧ n < w'.sup.links.length ∧
      ∀ id, w'.sup.held? id = some n → w.sup.held? id = some n) ?_ ⟨sound, old, fun _ holds => holds⟩
  rintro w₁ w₂ ⟨sound, old, held⟩ part
  exact ⟨sound.part part, Nat.lt_of_lt_of_le old (part.length_links_le sound.fit),
    fun id holds => held id (part.held?_of sound.fit old holds)⟩

/-- A link that was let go of: it is still there, but nobody holds it, and it is not watched. -/
structure Abandoned (n : Nat) (w : World σ) : Prop where
  sound : w.Sound
  old : n < w.sup.links.length
  unheld : ∀ id, w.sup.held? id ≠ some n
  unwatched : w.sup.poller.token? n = none

omit [ProcessManager σ] in
/-- Whatever is done on it is hidden. -/
theorem Abandoned.hidden (h : w.Abandoned n) (f : Link → Link) : w.Hidden n f :=
  ⟨h.sound, h.old, Or.inr h.unheld⟩

omit [ProcessManager σ] in
/-- A link that nobody holds is not watched. -/
theorem unwatched_of_unheld {s : Supervisor σ} (entitled : s.Entitled)
    (unheld : ∀ id, s.held? id ≠ some n) : s.poller.token? n = none := by
  cases watched : s.poller.token? n with
  | none => rfl
  | some token =>
      obtain ⟨r, found, rfl⟩ := Option.map_eq_some_iff.1 watched
      obtain rfl : r.1 = n := by simpa using List.find?_some found
      obtain ⟨rec, known, holds, -⟩ := (s.mem_registrations_iff r.1 r.2).1
        (entitled.owner r (List.mem_of_find?_eq_some found))
      exact absurd ((Supervisor.held?_of_known known).trans holds) (unheld r.2.worker)

/-- A link that a worker let go of is abandoned for good. -/
theorem abandoned_run (manager : σ) (config : Config) (began : Instant) {before : List Action}
    {w₀ w₁ : World σ} (reached : (start manager config began).run before = w₀)
    (holds : w₀.held? id = some n) {mid : List Action} (released : w₀.run mid = w₁)
    (gone : w₁.held? id ≠ some n) (l : List Action) : (w₁.run l).Abandoned n := by
  have sound₀ : w₀.Sound :=
    reached ▸ ⟨named_run manager config began before, linked_run manager config began before⟩
  have old₀ : n < w₀.sup.links.length := by
    obtain ⟨channels, held, rfl⟩ := Option.map_eq_some_iff.1 holds
    obtain ⟨rec, known, held⟩ := Option.bind_eq_some_iff.1 held
    obtain ⟨g, link, attached⟩ := sound₀.linked.held id rec channels known held
    exact (List.getElem?_eq_some_iff.1 attached.link).1
  obtain ⟨sound₁, old₁, held₁⟩ := held?_of_run sound₀ old₀ mid
  rw [released] at sound₁ old₁ held₁
  obtain ⟨sound, old, held⟩ := held?_of_run sound₁ old₁ l
  -- Nobody else held the link before it was let go of, and nobody comes to hold it afterwards.
  have unheld : ∀ other, (w₁.run l).sup.held? other ≠ some n := by
    intro other holds'
    by_cases same : other = id
    · subst same
      exact gone (held other holds')
    · exact (sound₀.alone same (held₁ other (held other holds'))).2 holds
  have entitled := entitled_run manager config began (before ++ (mid ++ l))
  rw [run_append, run_append, reached, released] at entitled
  exact ⟨sound, old, unheld, unwatched_of_unheld entitled unheld⟩

/-! ### What is stale -/

/-- What is done on a link, and the dispatching of a token. -/
def Action.stale (n : Nat) (token : Token) : Action → Bool
  | .produce m _ => m = n
  | .dispatch t _ => t = token
  | _ => false

/-- A generation is over: the worker is in another one, or it holds nothing. -/
def Over (w : World σ) (token : Token) : Prop :=
  ∀ rec, w.sup.worker? token.worker = some rec →
    rec.generation ≠ token.generation ∨ rec.channels = none

omit [ProcessManager σ] in
/-- Waking a counter that is not watched. -/
theorem wake_of_unwatched {p : Poller} (unwatched : p.token? n = none) : p.wake n = p := by
  rw [Poller.wake, unwatched]
  rfl

omit [ProcessManager σ] in
/-- A token of a generation that is over is discarded. -/
theorem dispatch_of_over {token : Token} (past : w.Over token) (mmap : Mmap) :
    w.sup.dispatch token mmap = w.sup.discard := by
  unfold Supervisor.dispatch
  split
  · rfl
  · next rec known =>
      split
      · rfl
      · next current =>
          rw [(past rec known).resolve_left current]

omit [ProcessManager σ] in
/-- A deed on the link of an overlay is another overlay, if the link is not watched. -/
theorem Overlaid.stale_produce (h : Overlaid n f d False w v)
    (unwatched : w.sup.poller.token? n = none) (deed : Deed) :
    ∃ f, Overlaid n f d False w (v.produce n deed) := by
  cases there : v.sup.links[n]? with
  | none => exact ⟨f, by rwa [produce_of_unlinked there]⟩
  | some link =>
      have links : (w.sup.links.modify n f).set n (deed.act link) =
          w.sup.links.modify n fun _ => deed.act link := by
        rw [List.modify_eq_set, List.set_set, List.modify_eq_set]
      have poller : v.sup.poller = w.sup.poller := by
        rw [h.sup]
        rfl
      refine ⟨fun _ => deed.act link, ?_⟩
      rw [produce_of_link there, poller, wake_of_unwatched unwatched, ite_self, h.sup]
      refine ⟨(h.mux_withSup _).trans ?_, h.calls, h.stored, ?_, ?_, nofun⟩
      · simp only [Supervisor.overlay, links]
      · show (v.ledgers.modify n _).length = _
        rw [List.length_modify, h.length]
      · intro m other
        show (v.ledgers.modify n _)[m]? = _
        rw [List.getElem?_modify_ne _ _ fun same => other same.symm, h.ledgers m other]

omit [ProcessManager σ] in
/-- A token of a generation that is over is one more event discarded. -/
theorem Overlaid.stale_dispatch (h : Overlaid n f d False w v) {token : Token} (past : v.Over token)
    (mmap : Mmap) : Overlaid n f (d + 1) False w (v.dispatch token mmap) := by
  have done : v.dispatch token mmap =
      { v.withSup { v.sup with discarded := v.sup.discarded + 1 } with
        inFlight := v.inFlight.erase token } := by
    simp only [World.dispatch, dispatch_of_over past, Supervisor.discard]
  rw [done, h.sup]
  exact ⟨h.mux_withSup _, h.calls, h.stored, h.length, h.ledgers, False.elim⟩

/-- **What is stale shows nowhere.** -/
theorem Overlaid.stale (h : Overlaid n f d False w v) (unwatched : w.sup.poller.token? n = none)
    {token : Token} (past : v.Over token) {a : Action} (stale : a.stale n token = true) :
    ∃ f d, Overlaid n f d False w (v.step a) := by
  cases a with
  | produce m deed =>
      obtain rfl : m = n := of_decide_eq_true stale
      obtain ⟨f, h⟩ := h.stale_produce unwatched deed
      exact ⟨f, d, h⟩
  | dispatch other mmap =>
      obtain rfl : other = token := of_decide_eq_true stale
      exact ⟨f, d + 1, h.stale_dispatch past mmap⟩
  | _ => cases stale

/-- What is not stale comes to the same in both worlds. -/
theorem Overlaid.fresh (h : Overlaid n f d False w v) (abandoned : w.Abandoned n) {token : Token}
    {a : Action} (fresh : a.stale n token = false) : Overlaid n f d False (w.step a) (v.step a) := by
  by_cases reads : ∃ now, a = .readFrames now
  · obtain ⟨now, rfl⟩ := reads
    exact h.readFrames (abandoned.hidden f) abandoned.unheld now
  · refine h.step (abandoned.hidden f) (Or.inr abandoned.unwatched)
      (fun now same => reads ⟨now, same⟩) ?_
    rintro deed rfl
    exact absurd rfl (of_decide_eq_false fresh)

/-! ### Generations -/

/-- A generation is over once its link is let go of, up to the time that the word for generations has
run over. -/
theorem over_of_few {w₀ : World σ} (counted₀ : w₀.Counted) (named₀ : w₀.Named) {rec : Worker}
    {channels : WorkerLink} (known : w₀.sup.worker? id = some rec)
    (holds : rec.channels = some channels) {l : List Action} (counted : (w₀.run l).Counted)
    (gone : (w₀.run l).sup.held? id ≠ some channels.link)
    (few : started id (w₀.run l).calls < started id w₀.calls + UInt32.size) :
    (w₀.run l).Over ⟨id, rec.generation⟩ := by
  intro rec' known'
  obtain ⟨le, outcome⟩ := held?_or_started_run named₀ id l
  rcases outcome with held | unlinked | more
  · rw [Supervisor.held?_of_known known, holds] at held
    exact absurd held gone
  · right
    rw [Supervisor.held?_of_known known'] at unlinked
    exact Option.map_eq_none_iff.1 unlinked
  · left
    rw [counted.generation id rec' known', counted₀.generation id rec known]
    intro same
    have same := congrArg UInt32.toNat same
    rw [UInt32.toNat_ofNat', UInt32.toNat_ofNat'] at same
    simp only [UInt32.size] at few
    omega

omit [ProcessManager σ] in
/-- A world is overlaid on itself. -/
theorem overlaid_refl (w : World σ) (n : Nat) : Overlaid n (fun l => l) 0 False w w := by
  refine ⟨?_, rfl, rfl, rfl, fun _ _ => rfl, False.elim⟩
  have links : w.sup.links.modify n (fun l => l) = w.sup.links := List.modify_id n w.sup.links
  simp only [Supervisor.overlay, links]
  rfl

/-- The actions that are not stale. -/
def freshOnly (n : Nat) (token : Token) (l : List Action) : List Action :=
  l.filter fun a => !a.stale n token

omit [ProcessManager σ] in
/-- One more action is not stale. -/
theorem freshOnly_concat_of_fresh {token : Token} {a : Action} (fresh : a.stale n token = false)
    (l : List Action) : freshOnly n token (l ++ [a]) = freshOnly n token l ++ [a] := by
  simp [freshOnly, fresh]

omit [ProcessManager σ] in
/-- One more action is stale. -/
theorem freshOnly_concat_of_stale {token : Token} {a : Action} (stale : a.stale n token = true)
    (l : List Action) : freshOnly n token (l ++ [a]) = freshOnly n token l := by
  simp [freshOnly, stale]

/-- As a run goes on, processes are started for a worker, and none is forgotten. -/
theorem started_run_append (sound : w.Sound) (id : WorkerId) (l l' : List Action) :
    started id (w.run l).calls ≤ started id (w.run (l ++ l')).calls := by
  rw [run_append]
  have named := sound.named.run l
  exact (held?_or_started_run named id l').1

/-- **A run is overlaid on the same run without what is stale.** -/
theorem overlaid_run (manager : σ) (config : Config) (began : Instant) {before mid : List Action}
    {w₀ w₁ : World σ} (reached : (start manager config began).run before = w₀) {rec : Worker}
    {channels : WorkerLink} (known : w₀.sup.worker? id = some rec)
    (holds : rec.channels = some channels) (released : w₀.run mid = w₁)
    (gone : w₁.held? id ≠ some channels.link) (l : List Action)
    (few : started id (w₁.run l).calls < started id w₀.calls + UInt32.size ∨
      started id (w₁.run (freshOnly channels.link ⟨id, rec.generation⟩ l)).calls <
        started id w₀.calls + UInt32.size) :
    ∃ f d, Overlaid channels.link f d False
      (w₁.run (freshOnly channels.link ⟨id, rec.generation⟩ l)) (w₁.run l) := by
  have abandoned := abandoned_run manager config began reached (held?_eq known holds) released gone
  have counted₀ : w₀.Counted := reached ▸ counted_run manager config began before
  have named₀ : w₀.Named := reached ▸ named_run manager config began before
  have more := started_run_append (abandoned []).sound id
  -- induction on the run; if few processes are started in all of it, few are in its beginning
  induction l using List.reverseRecOn with
  | nil => exact ⟨_, 0, overlaid_refl w₁ channels.link⟩
  | append_singleton l a ih =>
      cases stale : a.stale channels.link ⟨id, rec.generation⟩ with
      | false =>
          rw [freshOnly_concat_of_fresh stale] at few ⊢
          obtain ⟨f, d, h⟩ :=
            ih (few.imp (Nat.lt_of_le_of_lt (more _ _)) (Nat.lt_of_le_of_lt (more _ _)))
          rw [run_append, run_append]
          exact ⟨f, d, h.fresh (abandoned _) stale⟩
      | true =>
          rw [freshOnly_concat_of_stale stale] at few ⊢
          obtain ⟨f, d, h⟩ := ih (few.imp_left (Nat.lt_of_le_of_lt (more _ _)))
          have few : started id (w₁.run l).calls < started id w₀.calls + UInt32.size :=
            few.elim (Nat.lt_of_le_of_lt (more _ _)) (h.calls ▸ ·)
          have from₀ : w₁.run l = w₀.run (mid ++ l) := by rw [run_append, released]
          have counted := counted_run manager config began (before ++ (mid ++ l))
          rw [run_append, reached] at counted
          have unheld := (abandoned l).unheld id
          rw [from₀] at unheld few
          have past := over_of_few counted₀ named₀ known holds counted unheld few
          rw [← from₀] at past
          rw [run_append]
          exact h.stale (abandoned _).unwatched past stale

omit [ProcessManager σ] in
/-- Two worlds that are overlaid on the same one differ in the link and in the events discarded. -/
theorem Overlaid.both {u : World σ} {f' : Link → Link} {d' : Nat} (h : Overlaid n f d False u w)
    (h' : Overlaid n f' d' False u v) :
    ∃ link discarded, v.mux = { w.mux with
      supervisor := { w.sup with links := w.sup.links.set n link, discarded } } := by
  have links : u.sup.links.modify n f' =
      (u.sup.links.modify n f).set n (f' (u.sup.links[n]?.getD default)) := by
    rw [List.modify_eq_set, List.modify_eq_set, List.set_set]
  refine ⟨f' (u.sup.links[n]?.getD default), u.sup.discarded + d', ?_⟩
  rw [h'.mux, h.mux, h.sup]
  simp only [Supervisor.overlay, links]

omit [ProcessManager σ] in
/-- What an action hands to the consumer depends on the caches. -/
theorem handed_congr (frames : v.sup.frames = w.sup.frames) (a : Action) :
    v.handed a = w.handed a := by
  have frames' : v.mux.supervisor.frames = w.mux.supervisor.frames := frames
  cases a with
  | pullOne now =>
      simp only [handed, Mux.pullOne, frames']
      obtain ⟨frame, rest⟩ := w.mux.supervisor.frames.pullOne
      cases frame <;> rfl
  | pullBatch k now =>
      simp only [handed, Mux.pullBatch, frames']
      obtain ⟨batch, rest⟩ := w.mux.supervisor.frames.pullBatch k
      cases batch <;> rfl
  | snapshot id => simp only [handed, frames]
  | _ => rfl

/-- **Generations are apart.**  Let a worker let go of the link that it held in some generation, and
let two runs go on from there that only differ in deeds on that link, and in when tokens of that
generation are dispatched.  Then the multiplexers are the same in both, with every record, every
other link, the poller, the caches, the meter and the process manager, but for the state of that link
and the number of events that were discarded; the same calls were made, the same frames were stored,
and the next action hands the same frames to the consumer.  The beginnings of the runs are such runs
as well, so this is so after every step.

It only takes that fewer than `2 ^ 32` processes are started for the worker in between.  Before there
can be as many, the addition of one to the 32-bit word of its generation has overflowed, which a
program that checks its additions does not survive. -/
theorem generations_apart (manager : σ) (config : Config) (began : Instant)
    (before mid l l' : List Action) {w₀ w₁ : World σ}
    (reached : (start manager config began).run before = w₀) {rec : Worker} {channels : WorkerLink}
    (known : w₀.sup.worker? id = some rec) (holds : rec.channels = some channels)
    (released : w₀.run mid = w₁) (gone : w₁.held? id ≠ some channels.link)
    (same : freshOnly channels.link ⟨id, rec.generation⟩ l =
      freshOnly channels.link ⟨id, rec.generation⟩ l')
    (few : started id (w₁.run l).calls < started id w₀.calls + UInt32.size) :
    (∃ link discarded, (w₁.run l').mux = { (w₁.run l).mux with
      supervisor := { (w₁.run l).sup with
        links := (w₁.run l).sup.links.set channels.link link
        discarded } }) ∧
    (w₁.run l').calls = (w₁.run l).calls ∧ (w₁.run l').stored = (w₁.run l).stored ∧
    ∀ a, (w₁.run l').handed a = (w₁.run l).handed a := by
  have overlaid := overlaid_run manager config began reached known holds released gone
  obtain ⟨f, d, h⟩ := overlaid l (Or.inl few)
  rw [h.calls, same] at few
  obtain ⟨f', d', h'⟩ := overlaid l' (Or.inr few)
  rw [same] at h
  refine ⟨h.both h', h'.calls.trans h.calls.symm, h'.stored.trans h.stored.symm, ?_⟩
  exact handed_congr (by rw [h'.sup, h.sup]; rfl)

/-! ### Two runs, rehearsed -/

/-- In the rehearsal the producer tells about its picture, the poller reports it, and before the
token is dispatched the producer's process is found to have exited. -/
def bereaved : List Action :=
  [.produce 0 (.announce (.ofEvent .frameWaiting)), .wait, .event ⟨1⟩ .pipelineExited rfl ⟨2⟩]

/-- The worker is started again; its new producer offers a region and publishes, and the frame is
taken.  Meanwhile this and that is done. -/
def secondLife (idle idle' : List Action) : List Action :=
  [.tick ⟨(Duration.ofSecs 60).nanos⟩] ++ idle ++ [.produce 1 (.offer .linux 12), .wait] ++ idle' ++
    [.dispatch ⟨⟨1⟩, 2⟩ .linux, .produce 1 (.publish ⟨List.replicate 12 4, 2, 2⟩), .wait,
      .dispatch ⟨⟨1⟩, 2⟩ .linux, .readFrames ⟨(Duration.ofSecs 61).nanos⟩]

/-- The old producer goes on as if nothing had happened, and the old token is dispatched, twice. -/
def haunted : List Action :=
  secondLife
    [.produce 0 (.publish ⟨List.replicate 12 5, 2, 2⟩), .dispatch ⟨⟨1⟩, 1⟩ .linux,
      .produce 0 (.announce (.ofEvent .pipelineExited)), .produce 0 (.other Link.closeSender)]
    [.dispatch ⟨⟨1⟩, 1⟩ .linux]

/-- Either way the frame of the second generation is handed out, after the old producer closed its end
and two old tokens were discarded, or without. -/
theorem generations_apart_rehearsed :
    ∃ w v : World ScriptedManager, w = (rehearsed.run bereaved).run (secondLife [] []) ∧
      v = (rehearsed.run bereaved).run haunted ∧
      freshOnly 0 ⟨⟨1⟩, 1⟩ (secondLife [] []) = freshOnly 0 ⟨⟨1⟩, 1⟩ haunted ∧
      (∃ link discarded, v.mux = { w.mux with
        supervisor := { w.sup with links := w.sup.links.set 0 link, discarded } }) ∧
      (w.sup.discarded, v.sup.discarded) = (0, 2) ∧
      (w.sup.links[0]?.map (·.control.senderOpen), v.sup.links[0]?.map (·.control.senderOpen)) =
        (some true, some false) ∧
      w.handed (.snapshot ⟨1⟩) = [⟨⟨1⟩, 2, 2, 2, List.replicate 12 4⟩] ∧
      v.handed (.snapshot ⟨1⟩) = w.handed (.snapshot ⟨1⟩) := by
  have same : freshOnly 0 ⟨⟨1⟩, 1⟩ (secondLife [] []) = freshOnly 0 ⟨⟨1⟩, 1⟩ haunted := rfl
  have gone : (rehearsed.run bereaved).held? ⟨1⟩ ≠ some 0 := by
    have unlinked : (rehearsed.run bereaved).held? ⟨1⟩ = none := rfl
    rw [unlinked]
    nofun
  have known : rehearsed.sup.worker? ⟨1⟩ = some _ := rfl
  obtain ⟨mux, -, -, handed⟩ := generations_apart (σ := ScriptedManager) _ _ _ rehearsal bereaved
    (secondLife [] []) haunted rfl known rfl rfl gone same (by decide)
  exact ⟨_, _, rfl, rfl, same, mux, rfl, rfl, by decide, handed _⟩

end World

end FrameMux
