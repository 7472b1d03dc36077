/-
**From a configuration to a multiplexer.**

A configuration is checked before a multiplexer is made from it, and every source is checked once more
when it is taken on: the check looks at the list of sources as a whole, taking on a source looks at
those that came before it.  This module says that the two agree, so that no configuration passes the
check and is given up half way, and who is supervised in the end.

Main definitions:

* `FrameMux.Config.Fit` — what a configuration has to be like;
* `FrameMux.Source.of?` — the source that a worker serves;
* `FrameMux.Mux.Enrolled` — exactly the given sources are supervised, all of them new, each with a
  vacant cache.

Main results:

* `FrameMux.Mux.Enrolled.addWorker` — one more source can be taken on as long as it is a new one and
  there is room;
* `FrameMux.Mux.Enrolled.addSources` — so can all sources of a list;
* `FrameMux.Mux.create_agrees` — **the check decides** whether there is a multiplexer, and names the
  error if there is none.
-/

import FrameMux.Mux
import FrameMux.Proofs.Supervisor.View
import Mathlib.Data.List.Nodup

set_option relaxedAutoImplicit false
set_option autoImplicit false

namespace FrameMux

/-! ### What is checked -/

/-- What a configuration has to be like: it has between one and 128 sources with numbers of their own,
waits for a negotiation at least as long as for a frame, and has no zero where time has to pass. -/
structure Config.Fit (c : Config) : Prop where
  nonempty : 1 ≤ c.sources.length
  few : c.sources.length ≤ 128
  distinct : (c.sources.map (·.id)).Nodup
  patient : c.settings .stalenessWindow ≤ c.settings .negotiationTimeout
  staleness : c.settings .stalenessWindow ≠ ⟨0⟩
  spawnRetry : c.settings .spawnRetryInterval ≠ ⟨0⟩
  reader : c.settings .readerInterval ≠ ⟨0⟩
  tick : c.settings .tickInterval ≠ ⟨0⟩
  poll : c.settings .pollTimeout ≠ ⟨0⟩
  stats : c.settings .statsInterval ≠ ⟨0⟩

/-- A length of time is zero when it has no nanoseconds. -/
theorem Duration.nanos_ne_zero_iff {d : Duration} : d.nanos ≠ 0 ↔ d ≠ ⟨0⟩ :=
  not_congr ⟨fun none => congrArg Duration.mk none, fun zero => congrArg Duration.nanos zero⟩

/-- The check lets exactly the fit configurations pass. -/
theorem Config.validate_eq_ok_iff_fit {c : Config} : c.validate = .ok () ↔ c.Fit := by
  have nonempty : c.sources ≠ [] ↔ 1 ≤ c.sources.length := List.length_pos_iff.symm
  rw [validate_eq_ok_iff, nonempty]
  simp only [Duration.nanos_ne_zero_iff, Setting.nonzero, List.forall_mem_cons]
  constructor
  · rintro ⟨nonempty, few, distinct, patient, staleness, spawnRetry, reader, tick, poll, stats, -⟩
    exact ⟨nonempty, few, distinct, patient, staleness, spawnRetry, reader, tick, poll, stats⟩
  · intro fit
    exact ⟨fit.nonempty, fit.few, fit.distinct, fit.patient, fit.staleness, fit.spawnRetry, fit.reader,
      fit.tick, fit.poll, fit.stats, nofun⟩

/-- Sources with numbers of their own are served by workers of their own. -/
theorem Source.nodup_map_worker {l : List Source} (distinct : (l.map (·.id)).Nodup) :
    (l.map Source.worker).Nodup := by
  have named : l.map Source.worker = (l.map (·.id)).map WorkerId.mk := by
    rw [List.map_map]
    rfl
  rw [named]
  exact distinct.map fun _ _ same => congrArg WorkerId.number same

/-- The source that a worker serves. -/
def Source.of? (l : List Source) (id : WorkerId) : Option Source :=
  l.find? fun source => source.worker = id

theorem Source.isSome_of?_iff {l : List Source} {id : WorkerId} :
    (of? l id).isSome = true ↔ id ∈ l.map Source.worker := by
  simp [of?]

/-- The worker of one more source serves that one, if it did not serve any before. -/
theorem Source.of?_concat {l : List Source} {source : Source} (unserved : of? l source.worker = none)
    (id : WorkerId) :
    of? (l ++ [source]) id = if source.worker = id then some source else of? l id := by
  have split : of? (l ++ [source]) id = (of? l id).or (of? [source] id) := List.find?_append
  rw [split]
  by_cases same : source.worker = id
  · subst same
    rw [unserved, Option.none_or]
    simp [of?]
  · have alone : of? [source] id = none := by simp [of?, same]
    rw [alone, Option.or_none, if_neg same]

/-- If all workers differ, each serves the source that it was taken on for. -/
theorem Source.of?_of_mem {l : List Source} (distinct : (l.map Source.worker).Nodup) {source : Source}
    (h : source ∈ l) : of? l source.worker = some source := by
  cases found : of? l source.worker with
  | none =>
      have unserved := List.find?_eq_none.1 found source h
      exact absurd (decide_eq_true rfl) unserved
  | some other =>
      have same : other.worker = source.worker := of_decide_eq_true (List.find?_some found :)
      exact congrArg some (List.inj_on_of_nodup_map distinct (List.mem_of_find?_eq_some found) h same)

namespace Mux

variable {σ : Type} {l : List Source} {now : Instant} {s : Supervisor σ}

/-! ### Taking on sources -/

/-- Exactly the given sources are supervised, and exactly they have a cache; every worker is new, and
every cache vacant. -/
structure Enrolled (l : List Source) (now : Instant) (s : Supervisor σ) : Prop where
  worker : ∀ id, s.worker? id = (Source.of? l id).map fun source => .new id source.url now
  cached : ∀ id, s.frames.cached? id = (Source.of? l id).map fun _ => .vacant

theorem enrolled_start (manager : σ) (policy : Policy) (now : Instant) :
    Enrolled [] now (Supervisor.start manager policy) :=
  ⟨fun _ => rfl, fun _ => rfl⟩

namespace Enrolled

/-- The workers are those of the sources. -/
theorem ids_perm (h : Enrolled l now s) (distinct : (l.map Source.worker).Nodup) :
    s.ids.Perm (l.map Source.worker) := by
  refine (List.perm_ext_iff_of_nodup s.workers.nodup_ids distinct).2 ?_
  intro id
  have known : (s.worker? id).isSome = (Source.of? l id).isSome := by
    rw [h.worker, Option.isSome_map]
  have listed : id ∈ s.workers.ids ↔ (s.worker? id).isSome = true := s.workers.mem_ids_iff id
  rw [listed, known, Source.isSome_of?_iff]

/-- The caches are those of the workers. -/
theorem ids_frames (h : Enrolled l now s) : s.frames.entries.ids = s.ids := by
  refine Roster.ids_eq_of_isSome_get? ?_
  intro id
  have cached : (s.frames.cached? id).isSome = (s.worker? id).isSome := by
    rw [h.cached, h.worker, Option.isSome_map, Option.isSome_map]
  exact cached

/-- Each worker is new and is to serve its source, and its cache is vacant. -/
theorem of_mem (h : Enrolled l now s) (distinct : (l.map Source.worker).Nodup) {source : Source}
    (among : source ∈ l) :
    s.worker? source.worker = some (.new source.worker source.url now) ∧
      s.frames.cached? source.worker = some .vacant := by
  rw [h.worker, h.cached, Source.of?_of_mem distinct among]
  exact ⟨rfl, rfl⟩

/-- Who was unknown is enrolled by being taken on. -/
theorem enrol (h : Enrolled l now s) {source : Source} {s' : Supervisor σ}
    (unserved : Source.of? l source.worker = none)
    (added : s.addWorker source.worker source.url now = .ok s') :
    Enrolled (l ++ [source]) now (s'.addCache source.worker) where
  worker := by
    intro id
    have record : (s'.addCache source.worker).worker? id = _ := Supervisor.worker?_addWorker added id
    rw [record, Source.of?_concat unserved]
    split
    · next same =>
        subst same
        rfl
    · exact h.worker id
  cached := by
    intro id
    have frames : s'.frames = s.frames := by
      obtain ⟨-, rfl⟩ := Supervisor.addWorker_ok added
      rfl
    have cache : (s'.addCache source.worker).frames.cached? id = _ :=
      s'.frames.cached?_addWorker source.worker id
    rw [cache, Source.of?_concat unserved, frames]
    split
    · rw [h.cached, unserved]
      rfl
    · exact h.cached id

/-- **One more source** is taken on if no other bears its number and there is room. -/
theorem addWorker (h : Enrolled l now s) {source : Source}
    (distinct : ((l ++ [source]).map Source.worker).Nodup) (room : l.length < maxWorkers) :
    ∃ s', s.addWorker source.worker source.url now = .ok s' ∧
      Enrolled (l ++ [source]) now (s'.addCache source.worker) := by
  obtain ⟨distinct, -, fresh⟩ := List.nodup_append'.1 (List.map_append (f := Source.worker) ▸ distinct)
  have unserved : Source.of? l source.worker = none := by
    refine Option.not_isSome_iff_eq_none.1 ?_
    rw [Source.isSome_of?_iff]
    exact fun before => fresh before List.mem_cons_self
  have unknown : (s.worker? source.worker).isSome = false := by
    rw [h.worker, unserved]
    rfl
  have size : s.ids.length = l.length :=
    (h.ids_perm distinct).length_eq.trans (List.length_map _)
  have taken : (s.addWorker source.worker source.url now).isOk = true := by
    rw [Supervisor.isOk_addWorker, unknown, size, decide_eq_true room]
    rfl
  cases added : s.addWorker source.worker source.url now with
  | error e =>
      rw [added] at taken
      cases taken
  | ok s' => exact ⟨s', rfl, h.enrol unserved added⟩

/-- **All sources of a list** are taken on if they differ from each other and from those before, and
there is room for all. -/
theorem addSources (h : Enrolled l now s) (rest : List Source)
    (distinct : ((l ++ rest).map Source.worker).Nodup) (room : (l ++ rest).length ≤ maxWorkers) :
    ∃ s', Mux.addSources now rest s = .ok s' ∧ Enrolled (l ++ rest) now s' := by
  induction rest generalizing l s with
  | nil => exact ⟨s, rfl, (List.append_nil l).symm ▸ h⟩
  | cons source rest ih =>
      have regroup : l ++ source :: rest = l ++ [source] ++ rest := List.append_cons l source rest
      rw [regroup] at distinct room ⊢
      have here : l.length < maxWorkers := by
        rw [List.length_append, List.length_append, List.length_singleton] at room
        omega
      have apart : ((l ++ [source]).map Source.worker).Nodup := by
        rw [List.map_append] at distinct
        exact (List.nodup_append'.1 distinct).1
      obtain ⟨s₁, added, enrolled⟩ := h.addWorker apart here
      obtain ⟨s₂, others, enrolled⟩ := ih enrolled distinct room
      refine ⟨s₂, ?_, enrolled⟩
      unfold Mux.addSources
      rw [added]
      exact others

end Enrolled

/-! ### The check and the making -/

/-- No source of a fit configuration is refused, wherever it stands. -/
theorem addWorker_of_fit {config : Config} (fit : config.Fit) (manager : σ) (now : Instant)
    {before after : List Source} {source : Source} (listed : config.sources = before ++ source :: after) :
    ∃ s s', addSources now before (.start manager config.policy) = .ok s ∧
      s.addWorker source.worker source.url now = .ok s' := by
  have regroup : config.sources = before ++ [source] ++ after :=
    listed.trans (List.append_cons before source after)
  have distinct := Source.nodup_map_worker fit.distinct
  have few := fit.few
  rw [regroup, List.map_append] at distinct
  rw [regroup, List.length_append, List.length_append, List.length_singleton] at few
  have apart := (List.nodup_append'.1 distinct).1
  have earlier : (before.map Source.worker).Nodup := by
    rw [List.map_append] at apart
    exact (List.nodup_append'.1 apart).1
  have room : before.length < maxWorkers := by
    unfold maxWorkers
    omega
  obtain ⟨s, added, enrolled⟩ :=
    (enrolled_start manager config.policy now).addSources before earlier (Nat.le_of_lt room)
  obtain ⟨s', taken, -⟩ := enrolled.addWorker apart room
  exact ⟨s, s', added, taken⟩

/-- **The check decides whether there is a multiplexer.**  It lets exactly the fit configurations pass.
From such a one a multiplexer is made: no source is refused on the way, and in the end exactly the
sources of the configuration are supervised, new and with vacant caches.  From any other there is none,
for the reason that the check gave. -/
theorem create_agrees (config : Config) (manager : σ) (now : Instant) :
    (config.validate = .ok () ↔ config.Fit) ∧
    (config.validate = .ok () →
      (∀ before source after, config.sources = before ++ source :: after →
        ∃ s s', addSources now before (.start manager config.policy) = .ok s ∧
          s.addWorker source.worker source.url now = .ok s') ∧
      ∃ m, create config manager now = .ok m ∧
        m.supervisor.ids.Perm (config.sources.map Source.worker) ∧
        m.supervisor.frames.entries.ids = m.supervisor.ids ∧
        ∀ source ∈ config.sources,
          m.supervisor.worker? source.worker = some (.new source.worker source.url now) ∧
          m.supervisor.frames.cached? source.worker = some .vacant) ∧
    (∀ e, config.validate = .error e →
      create config manager now = .error (.ofInvalidConfig e)) := by
  refine ⟨Config.validate_eq_ok_iff_fit, ?_, ?_⟩
  · intro valid
    have fit := Config.validate_eq_ok_iff_fit.1 valid
    refine ⟨fun before source after => addWorker_of_fit fit manager now, ?_⟩
    have distinct := Source.nodup_map_worker fit.distinct
    obtain ⟨s, added, enrolled⟩ :=
      (enrolled_start manager config.policy now).addSources config.sources distinct fit.few
    rw [List.nil_append] at enrolled
    refine ⟨⟨s, .start now, config⟩, ?_, enrolled.ids_perm distinct, enrolled.ids_frames, ?_⟩
    · have checked : config.check = .ok () := by
        rw [Config.check, valid]
        rfl
      unfold create
      rw [checked, added]
      rfl
    · exact fun source => enrolled.of_mem distinct
  · intro e invalid
    refine create_error_of_invalid ?_ manager now
    rw [Config.check, invalid]
    rfl

/-- A rehearsal: two sources, the greater number first. -/
def rehearsal : Config := (Config.defaults.withSource ⟨7, "a"⟩).withSource ⟨3, "b"⟩

theorem create_agrees_rehearsed :
    rehearsal.validate = .ok () ∧
    (∃ s s' : Supervisor Unit, addSources ⟨5⟩ [⟨7, "a"⟩] (.start () rehearsal.policy) = .ok s ∧
      s.addWorker ⟨3⟩ "b" ⟨5⟩ = .ok s') ∧
    (∃ m, create rehearsal () ⟨5⟩ = .ok m ∧
      m.supervisor.worker? ⟨3⟩ = some (.new ⟨3⟩ "b" ⟨5⟩)) ∧
    Config.defaults.validate = .error (.fault .noSources) ∧
    create Config.defaults () ⟨5⟩ = .error (.configuration .noSources) := by
  have valid : rehearsal.validate = .ok () := by rfl
  have invalid : Config.defaults.validate = .error (.fault .noSources) := by rfl
  obtain ⟨taken, m, created, -, -, each⟩ := (create_agrees rehearsal () ⟨5⟩).2.1 valid
  have source : (⟨3, "b"⟩ : Source) ∈ rehearsal.sources := by decide
  exact ⟨valid, taken [⟨7, "a"⟩] ⟨3, "b"⟩ [] rfl, ⟨m, created, (each _ source).1⟩, invalid,
    (create_agrees Config.defaults () ⟨5⟩).2.2 _ invalid⟩

end Mux

end FrameMux
