/-
**Nothing is left over.**

A worker's process, its link, its mark and its cached frame come with its start and go with its
burial, and its link is watched exactly as long as the worker holds it.  Many operations set or clear
them, some stop half way, and at the end everything is let go of in whatever state a worker is.  In
every run a worker that waits for its next start has none of them, every watched counter is that of a
link that its worker holds, under the current generation, and the counts of generations and restarts
are those of the processes that were started.

Main definitions:

* `FrameMux.Worker.Tidy` — a record without a mark for a link that is gone;
* `FrameMux.Supervisor.registrations` — the counters that are to be watched, one per held link;
* `FrameMux.Supervisor.Entitled` — every watched counter is one of them;
* `FrameMux.World.Counted` — a worker's generation and restarts are counts of its starts.

Main results:

* `FrameMux.World.counted_run`, `FrameMux.World.entitled_run` — the invariants hold in every run;
* `FrameMux.World.nothing_left_over` — **nothing is left over** in any run.
-/

import FrameMux.Proofs.World.Calls
import FrameMux.Proofs.World.Deliveries
import FrameMux.Proofs.World.Handles

set_option relaxedAutoImplicit false
set_option autoImplicit false

namespace FrameMux

/-! ### Records -/

/-- The record of a worker that is on its way through no teardown, and has no mark without a link. -/
structure Worker.Tidy (w : Worker) : Prop where
  unpurged : w.state ≠ .purged
  unmarked : w.channels = none → w.frameWaiting = false

theorem Worker.Kept.tidy {v w : Worker} (kept : v.Kept w) (tidy : v.Tidy) : w.Tidy where
  unpurged := by
    rw [kept.state]
    exact tidy.unpurged
  unmarked := by
    intro unlinked
    have before : v.channels = none := by
      have link := kept.link
      rw [unlinked] at link
      exact Option.map_eq_none_iff.1 link.symm
    rw [kept.waiting before]
    exact tidy.unmarked before

/-- The generation of a worker and the number of its restarts. -/
def Worker.counts (w : Worker) : UInt32 × UInt32 := (w.generation, w.restarts)

/-- The number of restarts after a number of starts: every start but the first, and but those that
find the generation back at zero because the word ran over. -/
def restartsAfter (starts : Nat) : UInt32 := UInt32.ofNat (starts - 1 - (starts - 1) / UInt32.size)

/-- One more start. -/
theorem restartsAfter_succ (starts : Nat) :
    restartsAfter (starts + 1) =
      if UInt32.ofNat starts = 0 then restartsAfter starts else restartsAfter starts + 1 := by
  have zero_iff : UInt32.ofNat starts = 0 ↔ starts % UInt32.size = 0 := by
    rw [← UInt32.toNat_inj]
    simp [UInt32.toNat_ofNat', UInt32.size]
  simp only [zero_iff, restartsAfter, Nat.add_sub_cancel, UInt32.size]
  split
  · congr 1
    omega
  · next inside =>
      rw [show (1 : UInt32) = UInt32.ofNat 1 from rfl, ← UInt32.ofNat_add]
      congr 1
      omega

/-- As long as the word does not run over, every start but the first is a restart. -/
theorem restartsAfter_of_le {starts : Nat} (few : starts ≤ UInt32.size) :
    restartsAfter starts = if starts = 0 then 0 else UInt32.ofNat starts - 1 := by
  have none_over : (starts - 1) / UInt32.size = 0 := by
    rw [Nat.div_eq_zero_iff]
    simp only [UInt32.size] at few ⊢
    omega
  rw [restartsAfter, none_over, Nat.sub_zero]
  split
  · next never => rw [never]; rfl
  · next ever =>
      rw [show (1 : UInt32) = UInt32.ofNat 1 from rfl, UInt32.ofNat_sub (by omega)]

namespace Supervisor

variable {σ : Type} [ProcessManager σ]

/-- A move leaves all records tidy. -/
theorem Move.tidy {id : WorkerId} {s s' : Supervisor σ} (h : Move id s s') (named : s.Named id)
    (tidy : ∀ other w, s.worker? other = some w → w.Tidy) {other : WorkerId} {w : Worker}
    (known' : s'.worker? other = some w) : w.Tidy := by
  by_cases same : other = id
  · subst same
    cases h with
    | @enter v state now known onward =>
        cases (record_enter known state now).symm.trans known'
        refine ⟨?_, (tidy other v known).unmarked⟩
        intro purged
        change state = .purged at purged
        subst purged
        generalize v.state = before at onward
        cases onward
    | kill known => exact tidy other w known'
    | reapRunning known => exact tidy other w known'
    | reapDead known =>
        cases (record_forgetPid known).symm.trans known'
        exact ⟨(tidy other _ known).unpurged, (tidy other _ known).unmarked⟩
    | bury now known =>
        have record := record_enter (record_releaseChannels (record_enter known .purged now)) .buried now
        cases record.symm.trans known'
        exact ⟨nofun, fun _ => rfl⟩
    | release now known =>
        cases (record_enter (record_releaseChannels known) .buried now).symm.trans known'
        exact ⟨nofun, fun _ => rfl⟩
    | letGo =>
        rw [worker?_resetCache, worker?_releaseChannels, if_pos rfl] at known'
        obtain ⟨v, known, rfl⟩ := Option.map_eq_some_iff.1 known'
        exact ⟨(tidy other v known).unpurged, fun _ => rfl⟩
    | spawnFailed now known =>
        cases (record_attempted known now _).symm.trans known'
        exact ⟨(tidy other _ known).unpurged, (tidy other _ known).unmarked⟩
    | @spawned v started now known =>
        obtain rfl : v.id = other := named v known
        have record := record_enter (record_adopt (record_attempted known now v.source) started)
          .alive now
        cases record.symm.trans known'
        exact ⟨nofun, nofun⟩
  · exact tidy other w ((h.worker?_of_ne named same).symm.trans known')

end Supervisor

/-! ### Registrations -/

namespace Supervisor

variable {σ : Type}

/-- The counters that are to be watched: that of every link that a worker holds, under the worker's
generation. -/
def registrations (s : Supervisor σ) : List (Nat × Token) :=
  s.workers.entries.filterMap fun p =>
    p.2.channels.map fun channels => (channels.link, ⟨p.1, p.2.generation⟩)

/-- A counter that is to be watched is that of a link that its worker holds. -/
theorem mem_registrations_iff (s : Supervisor σ) (n : Nat) (t : Token) :
    (n, t) ∈ s.registrations ↔ ∃ w, s.worker? t.worker = some w ∧
      w.channels.map (·.link) = some n ∧ w.generation = t.generation := by
  simp only [registrations, List.mem_filterMap]
  constructor
  · rintro ⟨p, listed, found⟩
    obtain ⟨channels, holds, same⟩ := Option.map_eq_some_iff.1 found
    cases same
    exact ⟨p.2, s.workers.get?_of_mem listed, by rw [holds]; rfl, rfl⟩
  · rintro ⟨w, known, link, generation⟩
    obtain ⟨channels, holds, rfl⟩ := Option.map_eq_some_iff.1 link
    refine ⟨(t.worker, w), mem_of_lookupIn known, ?_⟩
    rw [holds, Option.map_some, generation]

/-- No worker holds two links. -/
theorem nodup_registrations (s : Supervisor σ) : s.registrations.Nodup := by
  refine List.Pairwise.filterMap _ ?_ s.workers.sorted
  intro p q before a found b found'
  obtain ⟨-, -, rfl⟩ := Option.map_eq_some_iff.1 found
  obtain ⟨-, -, rfl⟩ := Option.map_eq_some_iff.1 found'
  intro same
  exact WorkerId.ne_of_lt before (congrArg (fun r => r.2.worker) same)

/-- No counter is watched twice, and every watched counter is that of a link that its worker holds,
under the worker's generation. -/
structure Entitled (s : Supervisor σ) : Prop where
  keys : (s.poller.watched.map Prod.fst).Nodup
  owner : ∀ r ∈ s.poller.watched, r ∈ s.registrations

/-- If, besides, every held link is watched, the watched counters are those that are to be. -/
theorem Entitled.perm {s : Supervisor σ} (h : s.Entitled)
    (held : ∀ r ∈ s.registrations, r ∈ s.poller.watched) : s.poller.watched.Perm s.registrations :=
  (List.perm_ext_iff_of_nodup (List.Pairwise.of_map _ (fun _ _ => ne_of_apply_ne _) h.keys)
    s.nodup_registrations).2
    fun r => ⟨h.owner r, held r⟩

/-- What watches no other counters, and changes no holder of a link. -/
theorem Entitled.same {s s' : Supervisor σ} (h : s.Entitled)
    (watched : s'.poller.watched = s.poller.watched)
    (records : ∀ id w, s.worker? id = some w → ∃ w', s'.worker? id = some w' ∧
      w'.channels.map (·.link) = w.channels.map (·.link) ∧ w'.generation = w.generation) :
    s'.Entitled where
  keys := by rw [watched]; exact h.keys
  owner := by
    rintro ⟨n, t⟩ mem
    rw [watched] at mem
    obtain ⟨w, known, link, generation⟩ := (s.mem_registrations_iff n t).1 (h.owner _ mem)
    obtain ⟨w', known', link', generation'⟩ := records _ w known
    exact (s'.mem_registrations_iff n t).2
      ⟨w', known', link'.trans link, generation'.trans generation⟩

/-- What changes one record, but neither its link nor its generation. -/
theorem Entitled.record {s s' : Supervisor σ} (h : s.Entitled)
    (watched : s'.poller.watched = s.poller.watched) {id : WorkerId} {w w' : Worker}
    (others : ∀ other, other ≠ id → s'.worker? other = s.worker? other)
    (known : s.worker? id = some w) (known' : s'.worker? id = some w')
    (channels : w'.channels = w.channels) (generation : w'.generation = w.generation) :
    s'.Entitled := by
  refine h.same watched ?_
  intro other v before
  by_cases same : other = id
  · subst same
    obtain rfl : w = v := Option.some.inj (known.symm.trans before)
    exact ⟨w', known', by rw [channels], generation⟩
  · exact ⟨v, (others other same).trans before, rfl, rfl⟩

/-- The counters that stay watched when a worker's link is let go of. -/
theorem watched_releaseChannels (s : Supervisor σ) (id : WorkerId) :
    (s.releaseChannels id).poller.watched = s.poller.watched.filter fun r =>
      ((s.worker? id).bind (·.channels)).map (·.link) ≠ some r.1 := by
  unfold releaseChannels
  dsimp only
  split
  · next unlinked =>
      rw [unlinked]
      exact (List.filter_eq_self.2 fun r _ => rfl).symm
  · next channels held =>
      simp only [held, Option.map_some, ne_eq, Option.some.injEq]
      exact List.filter_congr fun r _ => by simp [eq_comm]

/-- What lets go of a worker's link. -/
theorem Entitled.released {s s' : Supervisor σ} (h : s.Entitled) {id : WorkerId}
    (watched : s'.poller.watched = s.poller.watched.filter fun r =>
      ((s.worker? id).bind (·.channels)).map (·.link) ≠ some r.1)
    (others : ∀ other, other ≠ id → s'.worker? other = s.worker? other) : s'.Entitled where
  keys := by
    rw [watched]
    exact h.keys.sublist (List.filter_sublist.map _)
  owner := by
    rintro ⟨n, t⟩ mem
    rw [watched] at mem
    obtain ⟨mem, other⟩ := List.mem_filter.1 mem
    obtain ⟨w, known, link, generation⟩ := (s.mem_registrations_iff n t).1 (h.owner _ mem)
    have ne : t.worker ≠ id := by
      rintro rfl
      rw [known] at other
      simp [link] at other
    exact (s'.mem_registrations_iff n t).2 ⟨w, (others _ ne).trans known, link, generation⟩

/-- What gives a worker that holds no link a new one. -/
theorem Entitled.opened {s s' : Supervisor σ} (h : s.Entitled) {id : WorkerId} {w w' : Worker}
    {n : Nat} (watched : s'.poller.watched =
      (s.poller.watched.filter fun r => r.1 ≠ n) ++ [(n, ⟨id, w'.generation⟩)])
    (others : ∀ other, other ≠ id → s'.worker? other = s.worker? other)
    (known : s.worker? id = some w) (unlinked : w.channels = none)
    (known' : s'.worker? id = some w') (holds : w'.channels.map (·.link) = some n) :
    s'.Entitled where
  keys := by
    rw [watched, List.map_append, List.map_singleton]
    refine List.nodup_append.2 ⟨h.keys.sublist (List.filter_sublist.map _),
      List.pairwise_singleton _ _, ?_⟩
    intro a mem b last
    obtain ⟨r, kept, rfl⟩ := List.mem_map.1 mem
    rw [List.mem_singleton.1 last]
    simpa using (List.mem_filter.1 kept).2
  owner := by
    rintro ⟨m, t⟩ mem
    rw [watched] at mem
    rcases List.mem_append.1 mem with mem | last
    · obtain ⟨v, before, link, generation⟩ :=
        (s.mem_registrations_iff m t).1 (h.owner _ (List.mem_filter.1 mem).1)
      have ne : t.worker ≠ id := by
        rintro rfl
        obtain rfl : w = v := Option.some.inj (known.symm.trans before)
        rw [unlinked] at link
        cases link
      exact (s'.mem_registrations_iff m t).2 ⟨v, (others _ ne).trans before, link, generation⟩
    · cases List.mem_singleton.1 last
      exact (s'.mem_registrations_iff n _).2 ⟨w', known', holds, rfl⟩

variable [ProcessManager σ]

/-- **Every move leaves only watched what is to be.** -/
theorem Entitled.move {id : WorkerId} {s s' : Supervisor σ} (h : s.Entitled) (named : s.Named id)
    (apart : ∀ w, s.worker? id = some w → w.state = .creating → w.channels = none)
    (move : Move id s s') : s'.Entitled := by
  have others : ∀ other, other ≠ id → s'.worker? other = s.worker? other :=
    fun _ => move.worker?_of_ne named
  cases move with
  | enter now known => exact h.record rfl others known (record_enter known _ now) rfl rfl
  | kill known => exact h.record rfl others known known rfl rfl
  | reapRunning known => exact h.record rfl others known known rfl rfl
  | reapDead known => exact h.record rfl others known (record_forgetPid known) rfl rfl
  | bury now known =>
      refine h.released ?_ others
      have purged := record_enter known .purged now
      refine (watched_releaseChannels (s.enter id .purged now) id).trans ?_
      rw [purged, known]
      rfl
  | release now known => exact h.released (watched_releaseChannels s id) others
  | letGo => exact h.released (watched_releaseChannels s id) others
  | spawnFailed now known => exact h.record rfl others known (record_attempted known now _) rfl rfl
  | @spawned w started now known creating =>
      obtain rfl : w.id = id := named w known
      have unlinked := apart w known creating
      have record := record_enter (record_adopt (record_attempted known now w.source) started)
        .alive now
      refine h.opened ?_ others known unlinked record rfl
      show (adopt _ w started).poller.watched = _
      rw [poller_adopt unlinked, Poller.watched_register]
      rfl

end Supervisor

namespace World

variable {σ : Type}

/-! ### Counts -/

/-- The generation of a worker and the number of its restarts are counts of the processes that were
started for it. -/
structure Counted (w : World σ) : Prop where
  generation : ∀ id rec, w.sup.worker? id = some rec →
    rec.generation = UInt32.ofNat (started id w.calls)
  restarts : ∀ id rec, w.sup.worker? id = some rec → rec.restarts = restartsAfter (started id w.calls)
  unknown : ∀ id, w.sup.worker? id = none → started id w.calls = 0

/-- What starts no process, and changes no count. -/
theorem Counted.same {w w' : World σ} (h : w.Counted)
    (calls : ∀ id, started id w'.calls = started id w.calls)
    (records : ∀ id rec', w'.sup.worker? id = some rec' →
      (∃ rec, w.sup.worker? id = some rec ∧ rec'.generation = rec.generation ∧
        rec'.restarts = rec.restarts) ∨
      (w.sup.worker? id = none ∧ rec'.generation = 0 ∧ rec'.restarts = 0))
    (unknown : ∀ id, w'.sup.worker? id = none → w.sup.worker? id = none) : w'.Counted where
  generation := by
    intro id rec' known'
    rw [calls]
    rcases records id rec' known' with ⟨rec, known, generation, -⟩ | ⟨absent, generation, -⟩
    · exact generation.trans (h.generation id rec known)
    · rw [generation, h.unknown id absent]
      rfl
  restarts := by
    intro id rec' known'
    rw [calls]
    rcases records id rec' known' with ⟨rec, known, -, restarts⟩ | ⟨absent, -, restarts⟩
    · exact restarts.trans (h.restarts id rec known)
    · rw [restarts, h.unknown id absent]
      rfl
  unknown := by
    intro id absent
    rw [calls]
    exact h.unknown id (unknown id absent)

/-- A move that starts no process. -/
theorem Counted.follow_same {w : World σ} (h : w.Counted) (new : List Call) {id : WorkerId}
    {s : Supervisor (Recorder σ)}
    (made : s.manager.calls = w.sup.manager.calls ++ new)
    (unstarted : (new.filterMap Call.attempt?).count true = 0)
    (others : ∀ other, other ≠ id → s.worker? other = w.sup.worker? other)
    (own : (s.worker? id).map Worker.counts = (w.sup.worker? id).map Worker.counts) :
    (w.follow id s).Counted := by
  have counts : ∀ other,
      (s.worker? other).map Worker.counts = (w.sup.worker? other).map Worker.counts := by
    intro other
    by_cases same : other = id
    · rw [same, own]
    · rw [others other same]
  refine h.same ?_ ?_ ?_
  · intro other
    rw [started, attempts_follow id made, List.count_append]
    split
    · rw [unstarted]
      rfl
    · rfl
  · intro other rec' known'
    have same := counts other
    have known' : s.worker? other = some rec' := known'
    rw [known', Option.map_some] at same
    obtain ⟨rec, known, eq⟩ := Option.map_eq_some_iff.1 same.symm
    obtain ⟨generation, restarts⟩ := Prod.mk.inj eq
    exact Or.inl ⟨rec, known, generation.symm, restarts.symm⟩
  · intro other absent
    have same := counts other
    have absent : s.worker? other = none := absent
    rw [absent] at same
    exact Option.map_eq_none_iff.1 same.symm

/-- A move that starts a process. -/
theorem Counted.follow_started {w : World σ} (h : w.Counted) {id : WorkerId}
    {s : Supervisor (Recorder σ)} {new : List Call}
    (made : s.manager.calls = w.sup.manager.calls ++ new)
    (one : new.filterMap Call.attempt? = [true])
    (others : ∀ other, other ≠ id → s.worker? other = w.sup.worker? other)
    {rec rec' : Worker} (known : w.sup.worker? id = some rec) (known' : s.worker? id = some rec')
    (generation : rec'.generation = rec.generation + 1)
    (restarts : rec'.restarts = if rec.generation = 0 then rec.restarts else rec.restarts + 1) :
    (w.follow id s).Counted := by
  have own : started id (w.follow id s).calls = started id w.calls + 1 := by
    rw [started, attempts_follow id made, if_pos rfl, one, List.count_append]
    rfl
  have calls : ∀ other, other ≠ id →
      started other (w.follow id s).calls = started other w.calls := by
    intro other ne
    rw [started, attempts_follow id made, if_neg ne, List.append_nil, started]
  refine ⟨?_, ?_, ?_⟩
  · intro other v record
    have record : s.worker? other = some v := record
    by_cases same : other = id
    · subst same
      obtain rfl : rec' = v := Option.some.inj (known'.symm.trans record)
      rw [own, generation, h.generation other rec known, UInt32.ofNat_add]
      rfl
    · rw [calls other same]
      exact h.generation other v ((others other same).symm.trans record)
  · intro other v record
    have record : s.worker? other = some v := record
    by_cases same : other = id
    · subst same
      obtain rfl : rec' = v := Option.some.inj (known'.symm.trans record)
      rw [own, restarts, restartsAfter_succ, h.generation other rec known,
        h.restarts other rec known]
    · rw [calls other same]
      exact h.restarts other v ((others other same).symm.trans record)
  · intro other absent
    have ne : other ≠ id := by
      rintro rfl
      cases known'.symm.trans absent
    rw [calls other ne]
    exact h.unknown other ((others other ne).symm.trans absent)

variable [ProcessManager σ]

/-- **Every move keeps the counts.** -/
theorem Counted.move {w : World σ} (h : w.Counted) (named : w.Named) {id : WorkerId}
    {s : Supervisor (Recorder σ)} (move : Supervisor.Move id w.sup s) : (w.follow id s).Counted := by
  have others : ∀ other, other ≠ id → s.worker? other = w.sup.worker? other :=
    fun _ => move.worker?_of_ne (named id)
  cases move with
  | enter now known =>
      refine h.follow_same [] (List.append_nil _).symm rfl others ?_
      rw [Supervisor.record_enter known, known]
      rfl
  | kill known => exact h.follow_same [_] rfl rfl others rfl
  | reapRunning known => exact h.follow_same [_] rfl rfl others rfl
  | @reapDead rec pid known =>
      refine h.follow_same [_] rfl rfl others ?_
      have record : ((w.sup.afterReap pid).forgetPid id).worker? id = some { rec with pid := none } :=
        Supervisor.record_forgetPid known
      rw [record, known]
      rfl
  | bury now known =>
      have purged := Supervisor.record_enter known .purged now
      refine h.follow_same [] (by simp) rfl others ?_
      have record := Supervisor.record_enter (Supervisor.record_releaseChannels purged) .buried now
      rw [known]
      exact (congrArg (Option.map Worker.counts) record).trans rfl
  | release now known =>
      refine h.follow_same [] (by simp) rfl others ?_
      rw [Supervisor.record_enter (Supervisor.record_releaseChannels known), known]
      rfl
  | letGo =>
      refine h.follow_same [] (by simp) rfl others ?_
      rw [Supervisor.worker?_resetCache, Supervisor.worker?_releaseChannels, if_pos rfl]
      cases w.sup.worker? id <;> rfl
  | @spawnFailed rec now known creating failed =>
      refine h.follow_same [.spawn id rec.source none] ?_ rfl others ?_
      · rw [← failed]
        rfl
      · rw [Supervisor.record_attempted known, known]
        rfl
  | @spawned rec started now known creating succeeded =>
      obtain rfl : rec.id = id := named id rec known
      have attempted := Supervisor.record_attempted known now rec.source
      have record := Supervisor.record_enter (Supervisor.record_adopt attempted started) .alive now
      exact h.follow_started (Supervisor.calls_spawned succeeded now) rfl others known record rfl rfl

/-- So does every other part. -/
theorem Counted.part {D : Nat → Deed → Prop} {w w' : World σ} (h : w.Counted) (named : w.Named)
    (part : Part D w w') :
    w'.Counted := by
  rcases part.move_or_keeps with ⟨id, s, move, rfl⟩ | ⟨keeps, calls⟩
  · exact h.move named move
  · refine h.same (fun id => by rw [calls]) ?_ ?_
    · intro id rec' known'
      cases before : w.sup.worker? id with
      | none =>
          obtain ⟨source, now, rfl⟩ := keeps.added id rec' known' before
          exact Or.inr ⟨rfl, rfl, rfl⟩
      | some rec =>
          obtain ⟨v, known, kept⟩ := keeps.kept id rec before
          obtain rfl : v = rec' := Option.some.inj (known.symm.trans known')
          exact Or.inl ⟨rec, rfl, kept.generation, kept.restarts⟩
    · intro id absent
      cases before : w.sup.worker? id with
      | none => rfl
      | some rec =>
          obtain ⟨v, known, -⟩ := keeps.kept id rec before
          rw [known] at absent
          cases absent

/-- The counts are right throughout every run. -/
theorem counted_run (manager : σ) (config : Config) (now : Instant) (l : List Action) :
    ((start manager config now).run l).Counted := by
  refine run_induction manager config now ?_ (fun _ _ named counted part => counted.part named part) l
  refine ⟨?_, ?_, fun _ _ => rfl⟩
  · intro id rec known
    cases known
  · intro id rec known
    cases known

/-! ### Tidiness -/

/-- Every part leaves all records tidy. -/
theorem Part.tidy {D : Nat → Deed → Prop} {w w' : World σ} (part : Part D w w') (named : w.Named)
    (tidy : ∀ id rec, w.sup.worker? id = some rec → rec.Tidy) :
    ∀ id rec, w'.sup.worker? id = some rec → rec.Tidy := by
  intro other rec known'
  rcases part.move_or_keeps with ⟨id, s, move, rfl⟩ | ⟨keeps, -⟩
  · exact move.tidy (named id) tidy known'
  · cases before : w.sup.worker? other with
    | none =>
        obtain ⟨source, now, rfl⟩ := keeps.added other rec known' before
        exact ⟨nofun, fun _ => rfl⟩
    | some v =>
        obtain ⟨u, known, kept⟩ := keeps.kept other v before
        obtain rfl : u = rec := Option.some.inj (known.symm.trans known')
        exact kept.tidy (tidy other v before)

/-- All records are tidy throughout every run. -/
theorem tidy_run (manager : σ) (config : Config) (now : Instant) (l : List Action) :
    ∀ id rec, ((start manager config now).run l).sup.worker? id = some rec → rec.Tidy := by
  refine run_induction (I := fun w => ∀ id rec, w.sup.worker? id = some rec → rec.Tidy) manager config
    now ?_ (fun _ _ named tidy part => part.tidy named tidy) l
  intro id rec known
  cases known

/-- Only what is to be watched is watched, throughout every run. -/
theorem entitled_run (manager : σ) (config : Config) (now : Instant) (l : List Action) :
    ((start manager config now).run l).sup.Entitled := by
  have initial : ((start manager config now).sup).Entitled := by
    refine ⟨List.Pairwise.nil, ?_⟩
    intro r mem
    cases mem
  refine (run_induction (I := fun w => w.Linked ∧ w.sup.Entitled) manager config now
    ⟨linked_run manager config now [], initial⟩ ?_ l).2
  rintro w w' named ⟨linked, entitled⟩ part
  refine ⟨linked.part named part, ?_⟩
  rcases part.move_or_keeps with ⟨id, s, move, rfl⟩ | ⟨keeps, -⟩
  · exact entitled.move (named id) (fun rec known creating =>
      linked.apart id rec known (Or.inl creating)) move
  · refine entitled.same keeps.watched ?_
    intro id rec known
    obtain ⟨rec', known', kept⟩ := keeps.kept id rec known
    exact ⟨rec', known', kept.link, kept.generation⟩

omit [ProcessManager σ] in
/-- A link that is held is watched. -/
theorem Linked.watched_of_mem {w : World σ} (h : w.Linked) {r : Nat × Token}
    (held : r ∈ w.sup.registrations) : r ∈ w.sup.poller.watched := by
  obtain ⟨n, t⟩ := r
  obtain ⟨rec, known, link, generation⟩ := (w.sup.mem_registrations_iff n t).1 held
  obtain ⟨channels, holds, rfl⟩ := Option.map_eq_some_iff.1 link
  obtain ⟨g, l, attached⟩ := h.held t.worker rec channels known holds
  obtain ⟨r, found, token⟩ := Option.map_eq_some_iff.1 attached.watched
  have counter : r.1 = channels.link := by simpa using List.find?_some found
  have mem := List.mem_of_find?_eq_some found
  rw [generation] at token
  rw [← counter]
  obtain ⟨n, u⟩ := r
  cases token
  exact mem

/-- **Nothing is left over.**  In every run: no worker stays purged; one that waits to be started or
rests has no process, no link, no mark and no cached frame; generations and restarts count the
processes that were started, so that restarts are one less than generations, or none before the
first, up to `2 ^ 32` starts; and the watched counters are exactly those of the links that workers
hold, each once, on the link whose producer was started for the worker, and under the worker's current
generation.

The bound on the starts is no assumption about the workers: it is where the addition of one to the
32-bit word that counts generations overflows.  A program that checks its additions gets no further. -/
theorem nothing_left_over (manager : σ) (config : Config) (now : Instant) (l : List Action)
    {w : World σ} (reached : (start manager config now).run l = w) :
    (∀ id rec, w.sup.worker? id = some rec →
      rec.state ≠ .purged ∧
      (rec.state = .creating ∨ rec.state = .buried →
        rec.pid = none ∧ rec.channels = none ∧ rec.frameWaiting = false ∧
          w.sup.frames.snapshot id = none) ∧
      rec.generation = UInt32.ofNat (started id w.calls) ∧
      rec.restarts = restartsAfter (started id w.calls) ∧
      (started id w.calls ≤ UInt32.size →
        rec.restarts = if started id w.calls = 0 then 0 else rec.generation - 1)) ∧
    w.sup.poller.watched.Perm w.sup.registrations ∧
    (w.sup.poller.watched.map Prod.fst).Nodup ∧
    ∀ n t, (n, t) ∈ w.sup.registrations →
      ∃ g, w.ledgers[n]? = some g ∧ g.worker = t.worker ∧ n < w.sup.links.length := by
  subst reached
  obtain ⟨linked, delivered⟩ := delivered_run manager config now l
  have handled : ((start manager config now).run l).Handled := run_induction manager config now
    (handled_start manager config now) (fun _ _ named h part => h.part named part) l
  have counted := counted_run manager config now l
  have tidy := tidy_run manager config now l
  have entitled := entitled_run manager config now l
  refine ⟨?_, entitled.perm fun r => linked.watched_of_mem, entitled.keys, ?_⟩
  · intro id rec known
    have generation := counted.generation id rec known
    have restarts := counted.restarts id rec known
    refine ⟨(tidy id rec known).unpurged, ?_, generation, restarts, ?_⟩
    · intro resting
      have unlinked := linked.apart id rec known resting
      refine ⟨handled.bare id rec known ?_, unlinked, (tidy id rec known).unmarked unlinked, ?_⟩
      · rcases resting with state | state <;> rw [state] <;> rfl
      · -- A cached frame came over a link that its worker serves.
        cases shown : ((start manager config now).run l).sup.frames.snapshot id with
        | none => rfl
        | some f =>
            obtain ⟨-, r, -, -, -, serves⟩ := delivered.cached id f shown
            have held := ((Supervisor.serves_iff known _).1 serves).2
            rw [unlinked] at held
            cases held
    · intro few
      rw [restarts, restartsAfter_of_le few, generation]
  · intro n t held
    obtain ⟨rec, known, link, -⟩ := (Supervisor.mem_registrations_iff _ n t).1 held
    obtain ⟨channels, holds, rfl⟩ := Option.map_eq_some_iff.1 link
    obtain ⟨g, l', attached⟩ := linked.held t.worker rec channels known holds
    exact ⟨g, attached.ledger, attached.worker, (List.getElem?_eq_some_iff.1 attached.link).1⟩

/-- In the rehearsal with a second worker, the first one's producer exits with a frame cached: then
the first worker rests and only the link of the second is watched. -/
theorem nothing_left_over_rehearsed :
    ∃ w rec, ((start (σ := ScriptedManager) ⟨[], [], [], 0, []⟩ .defaults ⟨0⟩).run
        (.addWorker ⟨2⟩ "cam" ⟨0⟩ :: rehearsal ++ [.event ⟨1⟩ .pipelineExited rfl ⟨2⟩])) = w ∧
      w.sup.worker? ⟨1⟩ = some rec ∧ rec.state = .buried ∧ rec.generation = 1 ∧ rec.pid = none ∧
      rec.channels = none ∧ rec.frameWaiting = false ∧ w.sup.frames.snapshot ⟨1⟩ = none ∧
      rec.restarts = 0 ∧ w.sup.poller.watched.Perm [(1, ⟨⟨2⟩, 1⟩)] := by
  obtain ⟨records, watched, -⟩ := nothing_left_over (σ := ScriptedManager) ⟨[], [], [], 0, []⟩
    .defaults ⟨0⟩ (.addWorker ⟨2⟩ "cam" ⟨0⟩ :: rehearsal ++ [.event ⟨1⟩ .pipelineExited rfl ⟨2⟩]) rfl
  have known : (((start (σ := ScriptedManager) ⟨[], [], [], 0, []⟩ .defaults ⟨0⟩).run
      (.addWorker ⟨2⟩ "cam" ⟨0⟩ :: rehearsal ++
        [.event ⟨1⟩ .pipelineExited rfl ⟨2⟩])).sup.worker? ⟨1⟩) = some _ := rfl
  obtain ⟨-, resting, -, -, few⟩ := records ⟨1⟩ _ known
  obtain ⟨gone, unlinked, unmarked, empty⟩ := resting (Or.inr rfl)
  exact ⟨_, _, rfl, known, rfl, rfl, gone, unlinked, unmarked, empty, few (by decide), watched⟩

end World

end FrameMux
