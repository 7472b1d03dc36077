/-
**Receipts, ledgers and caches.**

Every frame that is stored gets a receipt: whose it is, over which link it came, what it shows, and
the number of the publish it stems from.  This module ties the three kinds of books together: a
receipt agrees with the ledger of its link however that goes on, receipts of one link are in the
order of the publishes, and what is in a cache has a receipt over the link that its worker serves.

Main definitions:

* `FrameMux.Receipt.Genuine`, `FrameMux.Receipt.Newest` — a receipt agrees with a ledger, and is for
  what was published last;
* `FrameMux.World.Delivered` — **the invariant**.

Main results:

* `FrameMux.World.Linked.newest` — the receipt for a frame just taken is for what was published last;
* `FrameMux.World.Delivered.part` — every part of an action keeps the invariant.
-/

import FrameMux.Proofs.Supervisor.Service
import FrameMux.Proofs.World.Wakeups

set_option relaxedAutoImplicit false
set_option autoImplicit false

namespace FrameMux

/-- Nothing was taken yet over a new link. -/
theorem Call.sound_opened {id : WorkerId} {call : Call} {g : Ledger} (h : call.opened id = some g) :
    g.Sound := by
  obtain ⟨early, rfl⟩ := call.exists_opening_of_opened h
  exact ((Ledger.extends_opening id early).later (Nat.le_refl _)).2

/-! ### Receipts -/

/-- A receipt agrees with the ledger of its link: no more was taken than the ledger says, and if the
producer went by the protocol, the picture is the publish with the number of the receipt. -/
structure Receipt.Genuine (r : Receipt) (g : Ledger) : Prop where
  worker : g.worker = r.worker
  newest : r.newest ≤ g.taken
  positive : g.honest = true → 0 < r.newest
  picture : g.honest = true → g.publishes[r.newest - 1]? = some r.picture
  sequence : g.honest = true → r.sequence = UInt64.ofNat r.newest

/-- It agrees with every later one. -/
theorem Receipt.Genuine.later {r : Receipt} {g g' : Ledger} (h : r.Genuine g) (later : g.Later g') :
    r.Genuine g' where
  worker := later.worker.trans h.worker
  newest := Nat.le_trans h.newest later.taken
  positive := fun honest => h.positive (later.honest honest)
  picture := by
    intro honest
    have before := h.picture (later.honest honest)
    have below : r.newest - 1 < g.publishes.length := (List.getElem?_eq_some_iff.1 before).1
    obtain ⟨rest, all⟩ := later.publishes
    rw [← all, List.getElem?_append_left below, before]
  sequence := fun honest => h.sequence (later.honest honest)

/-- A receipt for what was published last over the link that the worker holds. -/
structure Receipt.Newest {σ : Type} (r : Receipt) (w : World σ) (g : Ledger) : Prop where
  held : w.held? r.worker = some r.link
  ledger : w.ledgers[r.link]? = some g
  worker : g.worker = r.worker
  newest : r.newest = g.publishes.length
  picture : g.honest = true → g.publishes.getLast? = some r.picture
  sequence : g.honest = true → r.sequence = UInt64.ofNat r.newest

/-- It agrees with the ledger once the picture was taken. -/
theorem Receipt.Newest.genuine {σ : Type} {r : Receipt} {w : World σ} {g : Ledger}
    (h : r.Newest w g) : r.Genuine g.received where
  worker := h.worker
  newest := Nat.le_of_eq h.newest
  positive := by
    intro honest
    rw [h.newest]
    exact List.length_pos_iff_exists_mem.2 ⟨_, List.mem_of_getLast? (h.picture honest)⟩
  picture := by
    intro honest
    show g.publishes[r.newest - 1]? = _
    rw [h.newest, ← List.getLast?_eq_getElem?]
    exact h.picture honest
  sequence := h.sequence

namespace World

variable {σ : Type}

/-! ### The invariant -/

/-- **Ledgers only go on.** -/
theorem Part.laterLedgers [ProcessManager σ] {D : Nat → Deed → Prop} {w w' : World σ}
    (part : Part D w w')
    (sound : SoundLedgers w.ledgers) :
    LaterLedgers w.ledgers w'.ledgers ∧ SoundLedgers w'.ledgers := by
  have unchanged : LaterLedgers w.ledgers w.ledgers ∧ SoundLedgers w.ledgers :=
    ⟨laterLedgers_refl _, sound⟩
  cases part with
  | @move id s move =>
      obtain ⟨new, calls⟩ := move.calls
      rw [follow_eq id calls]
      refine ⟨laterLedgers_append _ _, ?_⟩
      intro g mem
      rcases List.mem_append.1 mem with old | opened
      · exact sound g old
      · obtain ⟨call, -, opened⟩ := List.mem_filterMap.1 opened
        exact Call.sound_opened opened
  | dispatch dispatched =>
      cases dispatched with
      | idle => exact unchanged
      | drained => exact laterLedgers_modify sound (fun g => g.extends_drained.later) _
  | receive received =>
      cases received with
      | taken => exact laterLedgers_modify sound (fun _ => Ledger.later_received) _
      | cut => exact laterLedgers_modify sound (fun _ => Ledger.later_interrupted) _
      | skipped | noted | missed => exact unchanged
  | produce there d =>
      rw [produce_of_link there]
      exact laterLedgers_modify sound (fun g => (d.extends_note g _).later) _
  | add | wait | pullOne | pullBatch | release => exact unchanged

/-- A world in which everything hangs together: the records, the links, and what the ledgers say of the
frames that were taken. -/
structure Joined (w : World σ) : Prop where
  named : w.Named
  linked : w.Linked
  books : SoundLedgers w.ledgers

section

variable [ProcessManager σ]

theorem joined_start (manager : σ) (config : Config) (now : Instant) :
    (start manager config now).Joined where
  named := named_start manager config now
  linked := linked_run manager config now []
  books := fun _ mem => absurd mem List.not_mem_nil

theorem Joined.part {D : Nat → Deed → Prop} {w w' : World σ} (h : w.Joined) (part : Part D w w') :
    LaterLedgers w.ledgers w'.ledgers ∧ w'.Joined := by
  obtain ⟨later, books⟩ := part.laterLedgers h.books
  exact ⟨later, part.named h.named, h.linked.part h.named part, books⟩

theorem Joined.parts {D : Nat → Deed → Prop} {w w' : World σ} (h : w.Joined) (parts : Parts D w w') :
    LaterLedgers w.ledgers w'.ledgers ∧ w'.Joined := by
  refine parts.induction (I := fun v => LaterLedgers w.ledgers v.ledgers ∧ v.Joined) ?_
    ⟨laterLedgers_refl _, h⟩
  rintro v v' ⟨later, joined⟩ part
  obtain ⟨more, joined'⟩ := joined.part part
  exact ⟨later.trans more, joined'⟩

theorem Joined.step {w : World σ} (h : w.Joined) (a : Action) :
    LaterLedgers w.ledgers (w.step a).ledgers ∧ (w.step a).Joined :=
  h.parts (parts_step (D := fun _ _ => True) h.named a fun _ _ _ => trivial)

theorem Joined.run {w : World σ} (h : w.Joined) (l : List Action) :
    LaterLedgers w.ledgers (w.run l).ledgers ∧ (w.run l).Joined :=
  h.parts (parts_run (D := fun _ _ => True) h.named l fun _ _ _ => trivial)

end

/-- Receipts agree with ledgers, those of one link are in the order of the publishes, and a frame in
a cache has a receipt over the link that its worker serves. -/
structure Delivered (w : World σ) : Prop where
  counted : w.stored.length = w.sup.frames.lastFid
  sound : SoundLedgers w.ledgers
  genuine : ∀ r ∈ w.stored, ∃ g, w.ledgers[r.link]? = some g ∧ r.Genuine g
  ordered : w.stored.Pairwise fun r r' => r.link = r'.link →
    ∀ g, w.ledgers[r.link]? = some g → g.honest = true → r.newest < r'.newest
  cached : ∀ id f, w.sup.frames.snapshot id = some f → 0 < f.sequence ∧
    ∃ r, w.stored[f.sequence - 1]? = some r ∧ r.worker = id ∧
      r.picture = ⟨f.data, f.width, f.height⟩ ∧ w.sup.Serves id r.link

/-- Receipts stay in order as ledgers go on. -/
theorem Delivered.ordered_later {w : World σ} (h : w.Delivered) {ledgers : List Ledger}
    (later : LaterLedgers w.ledgers ledgers) :
    w.stored.Pairwise fun r r' => r.link = r'.link →
      ∀ g, ledgers[r.link]? = some g → g.honest = true → r.newest < r'.newest := by
  refine List.Pairwise.imp_of_mem ?_ h.ordered
  intro r r' mem mem' ordered same g there honest
  obtain ⟨g', before, -⟩ := h.genuine r mem
  obtain ⟨g'', there', goes⟩ := later _ _ before
  obtain rfl : g'' = g := Option.some.inj (there'.symm.trans there)
  exact ordered same g' before (goes.honest honest)

/-- What stores nothing, and leaves what is cached with a worker that serves its link. -/
theorem Delivered.mono {w w' : World σ} (h : w.Delivered) (stored : w'.stored = w.stored)
    (lastFid : w'.sup.frames.lastFid = w.sup.frames.lastFid)
    (goes : LaterLedgers w.ledgers w'.ledgers ∧ SoundLedgers w'.ledgers)
    (cached : ∀ id f, w'.sup.frames.snapshot id = some f → w.sup.frames.snapshot id = some f ∧
      ∀ n, w.sup.Serves id n → w'.sup.Serves id n) : w'.Delivered where
  counted := by rw [stored, lastFid, h.counted]
  sound := goes.2
  genuine := by
    intro r mem
    obtain ⟨g, there, genuine⟩ := h.genuine r (stored ▸ mem)
    obtain ⟨g', there', later⟩ := goes.1 _ _ there
    exact ⟨g', there', genuine.later later⟩
  ordered := by
    rw [stored]
    exact h.ordered_later goes.1
  cached := by
    intro id f shown
    obtain ⟨before, serves⟩ := cached id f shown
    obtain ⟨positive, r, found, worker, picture, serving⟩ := h.cached id f before
    exact ⟨positive, r, stored ▸ found, worker, picture, serves _ serving⟩

/-- What stores nothing, shows no other frames, and only changes marks. -/
theorem Delivered.keeps {w w' : World σ} (h : w.Delivered) (stored : w'.stored = w.stored)
    (goes : LaterLedgers w.ledgers w'.ledgers ∧ SoundLedgers w'.ledgers)
    (keeps : Supervisor.Keeps w.sup w'.sup)
    (lastFid : w'.sup.frames.lastFid = w.sup.frames.lastFid)
    (shows : ∀ id f, w'.sup.frames.snapshot id = some f → w.sup.frames.snapshot id = some f) :
    w'.Delivered := by
  refine h.mono stored lastFid goes ?_
  exact fun id f shown => ⟨shows id f shown, fun n => (keeps.serves_iff id n).2⟩

/-- What only concerns the caches and takes nothing out of them. -/
theorem Delivered.pulled {w w' : World σ} (h : w.Delivered) (stored : w'.stored = w.stored)
    (goes : LaterLedgers w.ledgers w'.ledgers ∧ SoundLedgers w'.ledgers) {frames : FrameStore}
    (sup : w'.sup = { w.sup with frames }) (lastFid : frames.lastFid = w.sup.frames.lastFid)
    (snapshot : ∀ id, frames.snapshot id = w.sup.frames.snapshot id) : w'.Delivered := by
  refine h.keeps stored goes ?_ ?_ ?_
  · rw [sup]
    exact keeps_withFrames w.sup frames
  · rw [sup, lastFid]
  · intro id f shown
    rw [sup] at shown
    rw [← snapshot id, shown]

/-! ### Taking a frame -/

/-- The receipt for a frame that was just taken is for what was published last. -/
theorem Linked.newest {w : World σ} (h : w.Linked) {id : WorkerId} {rec : Worker} {n file : Nat}
    {link : Link} {frame : SlotFrame} {f : Worker → Worker} {dropped : UInt64} {now : Instant}
    {s : Supervisor (Recorder σ)} (waits : w.sup.Waits id rec n file link)
    (took : (link.take file).1 = .ok (some frame))
    (rewired : Supervisor.Rewired w.sup s id
      (Supervisor.noteTaken dropped frame.sequence now (f rec)) n (link.take file).2)
    (filled : s.frames = w.sup.frames.fill id frame.data frame.width frame.height now) :
    ∃ g, (w.receipt id n s).Newest w g ∧ (g.honest = true → g.taken < g.publishes.length) ∧
      w.receipt id n s = ⟨id, n, ⟨frame.data, frame.width, frame.height⟩, frame.sequence,
        g.publishes.length⟩ := by
  obtain ⟨g, l, attached⟩ := h.held id rec _ waits.known waits.holds
  obtain rfl : l = link := Option.some.inj (attached.link.symm.trans waits.there)
  have entry : s.frames.cached? id =
      some (.fill (w.sup.frames.lastFid + 1) frame.data frame.width frame.height now) := by
    rw [filled, FrameStore.cached?_fill, if_pos rfl]
  have ledger : w.ledgers[n]? = some g := attached.ledger
  have receipt : w.receipt id n s = ⟨id, n, ⟨frame.data, frame.width, frame.height⟩,
      frame.sequence, g.publishes.length⟩ := by
    simp only [receipt, entry, rewired.worker, ledger]
    rfl
  refine ⟨g, ?_, ?_, receipt⟩
  · rw [receipt]
    refine ⟨held?_eq waits.known waits.holds, ledger, attached.worker, rfl, ?_, ?_⟩
    all_goals
      intro honest
      obtain ⟨p, newest, -, rfl⟩ := (waits.waiting ▸ attached.accounted).frame_eq honest took
    · exact newest
    · rfl
  · intro honest
    obtain ⟨p, -, untaken, -⟩ := (waits.waiting ▸ attached.accounted).frame_eq honest took
    exact untaken

/-- Taking a frame keeps the invariant. -/
theorem Delivered.taken {w : World σ} (h : w.Delivered) {id : WorkerId} {n : Nat} {g : Ledger}
    {data : Bytes} {width height : UInt32} {now : Instant} {r : Receipt}
    {s : Supervisor (Recorder σ)} (newest : r.Newest w g)
    (untaken : g.honest = true → g.taken < g.publishes.length) (worker : r.worker = id)
    (link : r.link = n) (picture : r.picture = ⟨data, width, height⟩)
    (filled : s.frames = w.sup.frames.fill id data width height now)
    (serves : ∀ other m, w.sup.Serves other m → s.Serves other m) (serving : s.Serves id n) :
    Delivered { (w.withSup s).modifyLedger n Ledger.received with stored := w.stored ++ [r] } := by
  subst worker link
  obtain ⟨goes, sound⟩ := laterLedgers_modify h.sound (fun _ => Ledger.later_received) r.link
  have ours : (w.ledgers.modify r.link Ledger.received)[r.link]? = some g.received := by
    rw [List.getElem?_modify_eq, newest.ledger]
    rfl
  refine ⟨?_, ?_, ?_, ?_, ?_⟩
  · show (w.stored ++ [r]).length = s.frames.lastFid
    rw [filled, List.length_append, h.counted]
    rfl
  · exact sound
  · intro r' mem
    rcases List.mem_append.1 mem with old | new
    · obtain ⟨g', there, genuine⟩ := h.genuine r' old
      obtain ⟨g'', there', later⟩ := goes _ _ there
      exact ⟨g'', there', genuine.later later⟩
    · obtain rfl := List.mem_singleton.1 new
      exact ⟨g.received, ours, newest.genuine⟩
  · refine List.pairwise_append.2 ⟨h.ordered_later goes, List.pairwise_singleton _ _, ?_⟩
    intro r' old r'' new same g' there honest
    obtain rfl := List.mem_singleton.1 new
    -- What was taken before is not newer than what was taken last.
    obtain ⟨g₀, before, genuine⟩ := h.genuine r' old
    rw [same, newest.ledger] at before
    cases before
    have there : (w.ledgers.modify r''.link Ledger.received)[r'.link]? = some g' := there
    rw [same, ours] at there
    cases there
    rw [newest.newest]
    exact Nat.lt_of_le_of_lt genuine.newest (untaken honest)
  · intro other f shown
    change s.frames.snapshot other = some f at shown
    rw [filled, FrameStore.snapshot_fill] at shown
    split at shown
    · next same =>
        subst same
        cases shown
        refine ⟨Nat.succ_pos _, r, ?_, rfl, picture, serving⟩
        show (w.stored ++ [r])[w.sup.frames.lastFid]? = some r
        rw [← h.counted, List.getElem?_concat_length]
    · obtain ⟨positive, r', found, worker, picture, serving⟩ := h.cached other f shown
      have below : f.sequence - 1 < w.stored.length := (List.getElem?_eq_some_iff.1 found).1
      exact ⟨positive, r', (List.getElem?_append_left below).trans found, worker, picture,
        serves _ _ serving⟩

/-- What is handed to a consumer is cached. -/
theorem snapshot_of_mem_handed {w : World σ} {a : Action} {f : Frame} (h : f ∈ w.handed a) :
    w.sup.frames.snapshot f.worker = some f := by
  cases a with
  | pullOne now =>
      have pulled := Option.mem_toList.1 h
      simp only [Mux.pullOne] at pulled
      split at pulled
      · cases pulled
      · next frame frames pulled' =>
          cases pulled
          exact FrameStore.snapshot_of_pullOne (congrArg Prod.fst pulled')
  | pullBatch n now =>
      simp only [handed, Mux.pullBatch] at h
      split at h
      · cases h
      · next batch frames pulled =>
          exact FrameStore.snapshot_of_pullBatch (congrArg Prod.fst pulled) h
  | snapshot id =>
      have shown := Option.mem_toList.1 h
      rw [FrameStore.worker_of_snapshot shown]
      exact shown
  | _ => cases h

variable [ProcessManager σ]

/-- **Every part keeps the invariant.** -/
theorem Delivered.part {D : Nat → Deed → Prop} {w w' : World σ} (h : w.Delivered)
    (linked : w.Linked) (named : w.Named)
    (part : Part D w w') : w'.Delivered := by
  have goes := part.laterLedgers h.sound
  cases part with
  | @move id s move =>
      refine h.mono rfl ?_ goes ?_
      · show s.frames.lastFid = _
        rcases move.frames with same | emptied
        · rw [same]
        · rw [emptied]
          rfl
      · intro other f shown
        change s.frames.snapshot other = some f at shown
        constructor
        · rcases move.frames with same | emptied
          · rw [← same, shown]
          · rw [emptied, FrameStore.snapshot_reset] at shown
            split at shown
            · cases shown
            · exact shown
        · intro n serves
          rcases move.serves (named id) serves with serves' | ⟨same, emptied⟩
          · exact serves'
          · -- A worker whose service ended has nothing cached.
            rw [emptied, FrameStore.snapshot_reset, if_pos same] at shown
            cases shown
  | @add id source now s added =>
      have kept := Supervisor.keeps_addWorker added
      have frames : s.frames = w.sup.frames := by
        obtain ⟨-, rfl⟩ := Supervisor.addWorker_ok added
        rfl
      refine h.keeps rfl goes ⟨kept.manager, kept.policy, kept.watched, kept.kept, kept.added⟩ ?_ ?_
      · show (s.frames.addWorker id).lastFid = _
        rw [FrameStore.lastFid_addWorker, frames]
      · intro other f shown
        change (s.frames.addWorker id).snapshot other = some f at shown
        rw [FrameStore.snapshot_addWorker, frames] at shown
        exact shown
  | wait => exact h.mono rfl rfl goes fun _ _ shown => ⟨shown, fun _ serves => serves⟩
  | dispatch dispatched =>
      cases dispatched with
      | idle => exact h.mono rfl rfl goes fun _ _ shown => ⟨shown, fun _ serves => serves⟩
      | drained known current holds there drained frames rewired =>
          have keeps := rewired.keeps known (Supervisor.kept_noteMask holds _ _ _)
          refine h.keeps rfl goes ⟨keeps.manager, keeps.policy, keeps.watched, keeps.kept, keeps.added⟩
            (congrArg _ frames) ?_
          exact fun id f shown => (congrArg (fun s => s.snapshot id) frames).symm.trans shown
  | @receive _ now id received =>
      cases received with
      | skipped => exact h
      | noted quiet =>
          have keeps := Supervisor.keeps_modifyWorker w.sup id quiet
          exact h.keeps rfl goes keeps rfl fun _ _ shown => shown
      | @taken s rec n file link frame f dropped waits quiet took counted rewired filled =>
          obtain ⟨g, newest, untaken, receipt⟩ := linked.newest waits took rewired filled
          have keeps := waits.keeps_taken quiet rewired
          exact h.taken newest untaken (by rw [receipt]) (by rw [receipt]) (by rw [receipt]) filled
            (fun other m => (keeps.serves_iff other m).2) ((keeps.serves_iff id n).2 waits.serves)
      | missed waits quiet _ rewired frames | cut waits quiet _ _ rewired frames =>
          have keeps := rewired.keeps waits.known (quiet.kept _)
          refine h.keeps rfl goes keeps (congrArg _ frames) ?_
          exact fun id f shown => (congrArg (fun s => s.snapshot id) frames).symm.trans shown
  | produce there d =>
      rw [produce_of_link there] at goes ⊢
      exact h.mono rfl rfl goes fun _ _ shown => ⟨shown, fun _ serves => serves⟩
  | pullOne now =>
      obtain ⟨frames, sup, lastFid, snapshot⟩ := w.sup_pullOne now
      exact h.pulled rfl goes sup lastFid snapshot
  | pullBatch n now =>
      obtain ⟨frames, sup, lastFid, snapshot⟩ := w.sup_pullBatch n now
      exact h.pulled rfl goes sup lastFid snapshot
  | @release id now mux released =>
      have sup : World.sup { w with mux } = Supervisor.noteRelease _ _ _ := release_ok released
      refine h.keeps rfl goes ?_ ?_ ?_
      · rw [sup]
        exact keeps_noteRelease _ _ _ _
      · rw [sup]
        rfl
      · intro other f shown
        rw [sup] at shown
        change (w.sup.frames.reset id).snapshot other = some f at shown
        rw [FrameStore.snapshot_reset] at shown
        split at shown
        · cases shown
        · exact shown

end World

end FrameMux
