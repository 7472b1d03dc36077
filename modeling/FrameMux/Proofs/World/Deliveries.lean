/-
**Frames are delivered soundly.**

A link has one producer, so the receipts of a link say what became of the publishes of one generation
of a worker.  In every run they are some of the publishes, in their order and none twice, each the
newest one when it was taken; and a consumer only ever gets what has a receipt over the link that the
worker serves.  A worker never comes back to a link, so nothing is delivered over it any more once
its service ended.

Main definitions:

* `FrameMux.World.Looked` — what looking into regions leaves alone;
* `FrameMux.World.Later` — what never changes back from a world to a later one.

Main results:

* `FrameMux.World.Linked.stored_step` — **what an action stores** was published last;
* `FrameMux.World.later_run` — every run leads to a later world;
* `FrameMux.World.deliveries_sound` — **deliveries are sound** in every run.
-/

import FrameMux.Proofs.World.Receipts

set_option relaxedAutoImplicit false
set_option autoImplicit false

namespace FrameMux

namespace World

variable {σ : Type}

/-! ### What an action stores -/

/-- What looking into regions leaves alone: who holds which link, and what was published over it. -/
structure Looked (w w' : World σ) : Prop where
  held : ∀ id, w'.held? id = w.held? id
  ledgers : ∀ (n : Nat) (g' : Ledger), w'.ledgers[n]? = some g' → ∃ g, w.ledgers[n]? = some g ∧
    g'.worker = g.worker ∧ g'.honest = g.honest ∧ g'.publishes = g.publishes

/-- What only changes marks changes no holder of a link. -/
theorem held?_of_keeps {w w' : World σ} (keeps : Supervisor.Keeps w.sup w'.sup) (id : WorkerId) :
    w'.held? id = w.held? id := by
  unfold held?
  cases before : w.sup.worker? id with
  | none =>
      cases known : w'.sup.worker? id with
      | none => rfl
      | some rec =>
          obtain ⟨source, now, rfl⟩ := keeps.added id rec known before
          rfl
  | some v =>
      obtain ⟨rec, known, kept⟩ := keeps.kept id v before
      rw [known]
      exact kept.link

theorem Received.looked {w w' : World σ} {now : Instant} {id : WorkerId}
    (part : Received w now id w') : w.Looked w' := by
  have same : ∀ (n : Nat) (g : Ledger), w.ledgers[n]? = some g → ∃ g', w.ledgers[n]? = some g' ∧
      g.worker = g'.worker ∧ g.honest = g'.honest ∧ g.publishes = g'.publishes :=
    fun _ g there => ⟨g, there, rfl, rfl, rfl⟩
  have modified (f : Ledger → Ledger) (worker : ∀ g, (f g).worker = g.worker)
      (honest : ∀ g, (f g).honest = g.honest) (publishes : ∀ g, (f g).publishes = g.publishes)
      (n m : Nat) (g' : Ledger) (there : (w.ledgers.modify n f)[m]? = some g') :
      ∃ g, w.ledgers[m]? = some g ∧ g'.worker = g.worker ∧ g'.honest = g.honest ∧
        g'.publishes = g.publishes := by
    rw [List.getElem?_modify] at there
    obtain ⟨g, before, rfl⟩ := Option.map_eq_some_iff.1 there
    refine ⟨g, before, ?_⟩
    split
    · exact ⟨worker g, honest g, publishes g⟩
    · exact ⟨rfl, rfl, rfl⟩
  cases part with
  | skipped => exact ⟨fun _ => rfl, same⟩
  | noted quiet => exact ⟨held?_of_keeps (Supervisor.keeps_modifyWorker w.sup _ quiet), same⟩
  | taken waits quiet took counted rewired filled =>
      exact ⟨held?_of_keeps (waits.keeps_taken quiet rewired),
        modified Ledger.received (fun _ => rfl) (fun _ => rfl) (fun _ => rfl) _⟩
  | cut waits quiet took uncounted rewired frames =>
      exact ⟨held?_of_keeps (rewired.keeps waits.known (quiet.kept _)),
        modified Ledger.interrupted (fun _ => rfl) (fun _ => rfl) (fun _ => rfl) _⟩
  | missed waits quiet missed rewired =>
      exact ⟨held?_of_keeps (rewired.keeps waits.known (quiet.kept _)), same⟩

/-- What was published last is so no matter which regions were looked into before. -/
theorem Looked.newest {w w' : World σ} (h : w.Looked w') {r : Receipt} {g' : Ledger}
    (newest : r.Newest w' g') : ∃ g, r.Newest w g := by
  obtain ⟨g, there, worker, honest, publishes⟩ := h.ledgers _ _ newest.ledger
  refine ⟨g, (h.held _).symm.trans newest.held, there, worker.symm.trans newest.worker, ?_, ?_, ?_⟩
  · rw [← publishes, newest.newest]
  · rw [← publishes, ← honest]
    exact newest.picture
  · rw [← honest]
    exact newest.sequence

/-- A look stores what was published last, if anything. -/
theorem Linked.stored_received {w w' : World σ} (h : w.Linked) {now : Instant} {id : WorkerId}
    (part : Received w now id w') :
    ∃ new, w'.stored = w.stored ++ new ∧ ∀ r ∈ new, ∃ g, r.Newest w g := by
  cases part with
  | @taken s rec n file link frame f dropped waits quiet took counted rewired filled =>
      obtain ⟨g, newest, -⟩ := h.newest waits took rewired filled
      refine ⟨[w.receipt id n s], rfl, ?_⟩
      intro r mem
      obtain rfl := List.mem_singleton.1 mem
      exact ⟨g, newest⟩
  | skipped | noted | missed | cut => exact ⟨[], (List.append_nil _).symm, nofun⟩

/-- Looking into some regions stores what was published last over their links. -/
theorem Linked.stored_foldl {w : World σ} (h : w.Linked) (now : Instant) (ids : List WorkerId) :
    ∃ new, (ids.foldl (receive now) w).stored = w.stored ++ new ∧ ∀ r ∈ new, ∃ g, r.Newest w g := by
  induction ids generalizing w with
  | nil => exact ⟨[], (List.append_nil _).symm, nofun⟩
  | cons id rest ih =>
      have first := w.received_receive now id
      obtain ⟨new, stored, newest⟩ := h.stored_received first
      obtain ⟨new', stored', newest'⟩ := ih (h.received first)
      refine ⟨new ++ new', ?_, ?_⟩
      · rw [List.foldl_cons, stored', stored, List.append_assoc]
      · intro r mem
        rcases List.mem_append.1 mem with mem | mem
        · exact newest r mem
        · obtain ⟨g, newest⟩ := newest' r mem
          exact first.looked.newest newest

/-- Dispatching a token stores nothing. -/
theorem Dispatched.stored {w w' : World σ} {token : Token} (part : Dispatched w token w') :
    w'.stored = w.stored := by
  cases part <;> rfl

/-- Something for every worker of a list that stores nothing. -/
theorem stored_forEach {f : World σ → WorkerId → World σ}
    (same : ∀ w id, (f w id).stored = w.stored) (w : World σ) (ids : List WorkerId) :
    (w.forEach ids f).stored = w.stored :=
  forEach_induction (I := fun v => v.stored = w.stored) (fun v id stored => (same v id).trans stored)
    rfl ids

theorem stored_attempt (w : World σ) (id : WorkerId)
    (result : Except MuxError (Supervisor (Recorder σ))) :
    (w.attempt id result).stored = w.stored := by
  cases result <;> rfl

variable [ProcessManager σ]

/-- Whether an action looks into the regions. -/
def Action.passes : Action → Bool
  | readFrames _ => true
  | _ => false

/-- Nothing is stored unless the regions are looked into. -/
theorem stored_step_of_not_passes (w : World σ) {a : Action} (blind : a.passes = false) :
    (w.step a).stored = w.stored := by
  cases a with
  | readFrames now => cases blind
  | addWorker id source now =>
      simp only [step]
      split
      · rfl
      · rfl
  | tick | killAll | reapAll | releaseAll =>
      refine stored_forEach ?_ w _
      exact fun _ _ => rfl
  | killWorker | reapWorker | releaseWorker => exact w.stored_attempt _ _
  | dispatch token mmap => exact (w.dispatched_dispatch token mmap).stored
  | produce n deed =>
      simp only [step, produce]
      split
      · rfl
      · rfl
  | event | wait | pullOne | pullBatch | snapshot | release => rfl

/-- **What an action stores** was published last over the link that the worker held. -/
theorem Linked.stored_step {w : World σ} (h : w.Linked) (a : Action) :
    ∃ new, (w.step a).stored = w.stored ++ new ∧ ∀ r ∈ new, ∃ g, r.Newest w g := by
  cases passes : a.passes with
  | false => exact ⟨[], by rw [w.stored_step_of_not_passes passes, List.append_nil], nofun⟩
  | true =>
      cases a with
      | readFrames now => exact h.stored_foldl now (w.looked now)
      | _ => cases passes

/-! ### Later worlds -/

/-- What never changes back: ledgers only go on, receipts are only added, and no worker comes to serve
a link that was there before. -/
structure Later (w w' : World σ) : Prop where
  ledgers : LaterLedgers w.ledgers w'.ledgers
  stored : w.stored <+: w'.stored
  serves : ∀ id n, n < w.ledgers.length → w'.sup.Serves id n → w.sup.Serves id n

omit [ProcessManager σ] in
theorem Later.refl (w : World σ) : w.Later w where
  ledgers := laterLedgers_refl _
  stored := List.prefix_refl _
  serves := fun _ _ _ serves => serves

omit [ProcessManager σ] in
theorem Later.trans {w w' w'' : World σ} (h : w.Later w') (h' : w'.Later w'') : w.Later w'' where
  ledgers := h.ledgers.trans h'.ledgers
  stored := h.stored.trans h'.stored
  serves := fun id n old serves =>
    h.serves id n old (h'.serves id n (Nat.lt_of_lt_of_le old h.ledgers.length_le) serves)

/-- A part leads to a later world. -/
theorem Part.later {D : Nat → Deed → Prop} {w w' : World σ} (part : Part D w w')
    (linked : w.Linked) (delivered : w.Delivered)
    (named : w.Named) : w.Later w' where
  ledgers := (part.laterLedgers delivered.sound).1
  stored := by
    cases part with
    | dispatch dispatched =>
        exact ⟨[], (List.append_nil _).trans dispatched.stored.symm⟩
    | receive received =>
        obtain ⟨new, stored, -⟩ := linked.stored_received received
        rw [stored]
        exact List.prefix_append _ _
    | produce there d =>
        rw [produce_of_link there]
        exact List.prefix_refl _
    | move | add | wait | pullOne | pullBatch | release => exact List.prefix_refl _
  serves := by
    intro id n old serves
    rcases part.move_or_keeps with ⟨other, s, move, rfl⟩ | ⟨keeps, -⟩
    · exact move.serves_of (named other) (linked.ledgers ▸ old) serves
    · exact (keeps.serves_iff id n).1 serves

/-- What is kept throughout every run. -/
theorem delivered_run (manager : σ) (config : Config) (now : Instant) (l : List Action) :
    ((start manager config now).run l).Linked ∧ ((start manager config now).run l).Delivered := by
  refine run_induction (I := fun w => w.Linked ∧ w.Delivered) manager config now ?_ ?_ l
  · refine ⟨linked_run manager config now [], rfl, nofun, nofun, List.Pairwise.nil, ?_⟩
    intro id f shown
    cases shown
  · intro w w' named h part
    exact ⟨h.1.part named part, h.2.part h.1 named part⟩

/-- Every run leads to a later world. -/
theorem later_run {w : World σ} (named : w.Named) (linked : w.Linked) (delivered : w.Delivered)
    (l : List Action) : w.Later (w.run l) := by
  have both := (parts_run (D := fun _ _ => True) named l fun _ _ _ => trivial).induction
    (I := fun w' => w'.Named ∧ w'.Linked ∧ w'.Delivered ∧ w.Later w') ?_
    ⟨named, linked, delivered, .refl w⟩
  · exact both.2.2.2
  · rintro v v' ⟨named, linked, delivered, later⟩ part
    exact ⟨part.named named, linked.part named part, delivered.part linked named part,
      later.trans (part.later linked delivered named)⟩

/-! ### Deliveries -/

omit [ProcessManager σ] in
/-- Receipts in the order of the publishes that they are for show some of these, in their order. -/
theorem sublist_of_pairwise {publishes : List Picture} {l : List Receipt}
    (increasing : l.Pairwise fun r r' => r.newest < r'.newest)
    (pictures : ∀ r ∈ l, publishes[r.newest - 1]? = some r.picture) {k : Nat}
    (above : ∀ r ∈ l, k < r.newest) : (l.map (·.picture)).Sublist (publishes.drop k) := by
  induction l generalizing k with
  | nil => exact List.nil_sublist _
  | cons r rest ih =>
      obtain ⟨least, increasing⟩ := List.pairwise_cons.1 increasing
      obtain ⟨below, shown⟩ := List.getElem?_eq_some_iff.1 (pictures r List.mem_cons_self)
      have here : k < r.newest := above r List.mem_cons_self
      have tail := ih increasing (fun r' mem => pictures r' (List.mem_cons_of_mem _ mem)) least
      have split : publishes.drop (r.newest - 1) = r.picture :: publishes.drop r.newest := by
        rw [List.drop_eq_getElem_cons below, shown, Nat.sub_add_cancel (Nat.lt_of_le_of_lt
          (Nat.zero_le k) here)]
      have whole : (r.picture :: rest.map (·.picture)).Sublist (publishes.drop (r.newest - 1)) := by
        rw [split]
        exact tail.cons_cons r.picture
      exact whole.trans (List.drop_sublist_drop_left _ (Nat.le_sub_one_of_lt here))

omit [ProcessManager σ] in
/-- The receipts of one link. -/
theorem Delivered.receipts_of_link {w : World σ} (h : w.Delivered) {n : Nat} {g : Ledger}
    (there : w.ledgers[n]? = some g) (honest : g.honest = true) :
    ((w.stored.filter fun r => r.link = n).Pairwise fun r r' => r.newest < r'.newest) ∧
    ∀ r ∈ w.stored.filter fun r => r.link = n, r.Genuine g := by
  have genuine : ∀ r ∈ w.stored.filter fun r => r.link = n, r.Genuine g := by
    intro r mem
    obtain ⟨mem, link⟩ := List.mem_filter.1 mem
    obtain ⟨g', there', genuine⟩ := h.genuine r mem
    have link : r.link = n := by simpa using link
    rw [link, there] at there'
    cases there'
    exact genuine
  refine ⟨?_, genuine⟩
  refine List.Pairwise.imp_of_mem ?_ (h.ordered.filter _)
  intro r r' mem mem' ordered
  have link : r.link = n := by simpa using (List.mem_filter.1 mem).2
  have link' : r'.link = n := by simpa using (List.mem_filter.1 mem').2
  exact ordered (link.trans link'.symm) g (link ▸ there) honest

omit [ProcessManager σ] in
/-- As long as the number of publishes is a word, the words in the headers increase with them. -/
theorem sequence_lt_of_genuine {g : Ledger} (honest : g.honest = true)
    (few : g.publishes.length < UInt64.size) {l : List Receipt}
    (increasing : l.Pairwise fun r r' => r.newest < r'.newest) (genuine : ∀ r ∈ l, r.Genuine g) :
    l.Pairwise fun r r' => r.sequence < r'.sequence := by
  have small : ∀ r ∈ l, r.newest < UInt64.size := by
    intro r mem
    obtain ⟨below, -⟩ := List.getElem?_eq_some_iff.1 ((genuine r mem).picture honest)
    have positive := (genuine r mem).positive honest
    omega
  refine List.Pairwise.imp_of_mem ?_ increasing
  intro r r' mem mem' lt
  rw [(genuine r mem).sequence honest, (genuine r' mem').sequence honest, UInt64.lt_iff_toNat_lt,
    UInt64.toNat_ofNat_of_lt' (small r mem), UInt64.toNat_ofNat_of_lt' (small r' mem')]
  exact lt

/-- **Deliveries are sound.**  In every run: every frame that was stored has a receipt; one that is
handed out has a receipt over the link that its worker serves, and shows what the producer at the
other end of that link published; the receipts over a link, if its producer went by the protocol,
show some of the publishes in their order, none twice, under their numbers; what the next action
stores was published last over the link that its worker holds; and once the worker of a link does
not serve it any more, no action ever hands out a frame that came over it. -/
theorem deliveries_sound (manager : σ) (config : Config) (now : Instant) (l : List Action)
    {w : World σ} (reached : (start manager config now).run l = w) :
    w.stored.length = w.sup.frames.lastFid ∧
    (∀ a, ∀ f ∈ w.handed a, 0 < f.sequence ∧ ∃ r g, w.stored[f.sequence - 1]? = some r ∧
      w.ledgers[r.link]? = some g ∧ r.worker = f.worker ∧ g.worker = f.worker ∧
      r.picture = ⟨f.data, f.width, f.height⟩ ∧
      (g.honest = true → g.publishes[r.newest - 1]? = some r.picture) ∧
      w.sup.Serves f.worker r.link) ∧
    (∀ (n : Nat) g, w.ledgers[n]? = some g → g.honest = true →
      ((w.stored.filter fun r => r.link = n).map (·.picture)).Sublist g.publishes ∧
      (w.stored.filter fun r => r.link = n).Pairwise (fun r r' => r.newest < r'.newest) ∧
      (g.publishes.length < UInt64.size →
        (w.stored.filter fun r => r.link = n).Pairwise fun r r' => r.sequence < r'.sequence) ∧
      ∀ r ∈ w.stored.filter fun r => r.link = n, r.worker = g.worker ∧ 0 < r.newest ∧
        g.publishes[r.newest - 1]? = some r.picture ∧ r.sequence = UInt64.ofNat r.newest) ∧
    (∀ a, ∃ new, (w.step a).stored = w.stored ++ new ∧ ∀ r ∈ new, ∃ g, r.Newest w g) ∧
    ∀ (n : Nat) g, w.ledgers[n]? = some g → ¬ w.sup.Serves g.worker n →
      ∀ l' a, ∀ f ∈ (w.run l').handed a, ∀ r, (w.run l').stored[f.sequence - 1]? = some r →
        r.link ≠ n := by
  subst reached
  obtain ⟨linked, delivered⟩ := delivered_run manager config now l
  have named := named_run manager config now l
  refine ⟨delivered.counted, ?_, ?_, linked.stored_step, ?_⟩
  · intro a f mem
    obtain ⟨positive, r, found, worker, picture, serves⟩ :=
      delivered.cached _ _ (snapshot_of_mem_handed mem)
    obtain ⟨g, there, genuine⟩ := delivered.genuine r (List.mem_of_getElem? found)
    exact ⟨positive, r, g, found, there, worker, genuine.worker.trans worker, picture,
      genuine.picture, serves⟩
  · intro n g there honest
    obtain ⟨increasing, genuine⟩ := delivered.receipts_of_link there honest
    refine ⟨?_, increasing, ?_, ?_⟩
    · exact sublist_of_pairwise (k := 0) increasing (fun r mem => (genuine r mem).picture honest)
        fun r mem => (genuine r mem).positive honest
    · exact fun few => sequence_lt_of_genuine honest few increasing genuine
    · exact fun r mem => ⟨(genuine r mem).worker.symm, (genuine r mem).positive honest,
        (genuine r mem).picture honest, (genuine r mem).sequence honest⟩
  · intro n g there ended l' a f mem r found link
    subst link
    have later := later_run named linked delivered l'
    have delivered' := (delivered_run manager config now (l ++ l')).2
    rw [run_append] at delivered'
    obtain ⟨-, r', found', worker, -, serves⟩ := delivered'.cached _ _ (snapshot_of_mem_handed mem)
    obtain rfl : r' = r := Option.some.inj (found'.symm.trans found)
    obtain ⟨g', there', genuine⟩ := delivered'.genuine r' (List.mem_of_getElem? found)
    obtain ⟨g'', there'', goes⟩ := later.ledgers _ _ there
    obtain rfl : g'' = g' := Option.some.inj (there''.symm.trans there')
    -- The worker of the receipt is the worker of the link, then and now.
    have same : g.worker = f.worker := goes.worker.symm.trans (genuine.worker.trans worker)
    have below : r'.link < ((start manager config now).run l).ledgers.length :=
      (List.getElem?_eq_some_iff.1 there).1
    exact ended (same ▸ later.serves _ _ below serves)

/-- In the rehearsal the second picture is handed out, under the second number of its producer. -/
theorem deliveries_sound_rehearsed :
    ∃ f r g, f ∈ rehearsed.handed (.snapshot ⟨1⟩) ∧ rehearsed.stored[f.sequence - 1]? = some r ∧
      rehearsed.ledgers[r.link]? = some g ∧ g.honest = true ∧ r.newest = 2 ∧
      r.picture = ⟨f.data, f.width, f.height⟩ ∧ g.publishes[r.newest - 1]? = some r.picture ∧
      rehearsed.sup.Serves ⟨1⟩ r.link := by
  have handed : ⟨⟨1⟩, 2, 2, 1, List.replicate 12 2⟩ ∈ rehearsed.handed (.snapshot ⟨1⟩) := by decide
  obtain ⟨-, deliveries, -⟩ := deliveries_sound _ _ _ rehearsal (w := rehearsed) rfl
  obtain ⟨-, r, g, found, ledger, -, -, picture, published, serves⟩ := deliveries _ _ handed
  have stored : rehearsed.stored[0]?.map (fun r => (r.link, r.newest)) = some (0, 2) := rfl
  obtain ⟨link, newest⟩ : r.link = 0 ∧ r.newest = 2 := by
    simpa using (congrArg (Option.map _) found).symm.trans stored
  have books : rehearsed.ledgers[0]?.map (·.honest) = some true := rfl
  have honest : g.honest = true := by
    rw [← link, ledger] at books
    simpa using books
  exact ⟨_, r, g, handed, found, ledger, honest, newest, picture, published honest, serves⟩

end World

end FrameMux
