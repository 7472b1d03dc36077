/-
**What the meter shows.**

A call on a meter may come at any time: in the same second as the last one, after a gap of any length, or
with a time that has passed already, even one before the meter was started.  Its ring starts partly
filled, wraps, and has zeros written over old counts in a gap; the count of a second saturates.  This
module says what the ring holds all the same, by the calls alone: the counts of the last ten full
seconds up to the latest time that any call has given.

Main definitions:

* `FrameMux.ThroughputMeter.MeterCall`, `FrameMux.ThroughputMeter.run` — a call, and a meter after some;
* `FrameMux.ThroughputMeter.completed` — how many full seconds lie between the start and the latest
  time;
* `FrameMux.ThroughputMeter.countIn` — **the count of a second**;
* `FrameMux.ThroughputMeter.Shows` — **the invariant**: what each place of the ring holds.

Main results:

* `FrameMux.ThroughputMeter.roll_eq_iterate`, `isOver_iterate_iff` — the loop ends as many seconds as
  are over;
* `FrameMux.ThroughputMeter.Shows.total` — the ring is added up to the counts of the last ten seconds;
* `FrameMux.ThroughputMeter.shows_run` — every sequence of calls keeps the invariant;
* `FrameMux.ThroughputMeter.meter_closed_form` — **the meter in closed form**.
-/

import FrameMux.Frame.Meter
import Mathlib.Algebra.BigOperators.Fin
import Mathlib.Algebra.BigOperators.Intervals
import Mathlib.Data.List.Induction

set_option relaxedAutoImplicit false
set_option autoImplicit false

namespace FrameMux

namespace ThroughputMeter

/-! ### Calls -/

/-- A call on a meter. -/
inductive MeterCall where
  | record (frames : Nat) (now : Instant)
  | roll (now : Instant)
deriving DecidableEq, Repr

namespace MeterCall

/-- The time that a call gives. -/
def now : MeterCall → Instant
  | record _ now => now
  | roll now => now

/-- The frames that a call counts. -/
def frames : MeterCall → Nat
  | record frames _ => frames
  | roll _ => 0

end MeterCall

variable {m : ThroughputMeter} {t₀ now : Instant} {count : Nat → Nat} {K : Nat}

/-- A meter after a call. -/
def call (m : ThroughputMeter) : MeterCall → ThroughputMeter
  | .record frames now => m.record frames now
  | .roll now => m.roll now

/-- A meter after some calls, from its start. -/
def run (t₀ : Instant) (calls : List MeterCall) : ThroughputMeter := calls.foldl call (start t₀)

/-- The latest time that was given, or the start if none is later. -/
def latest (t₀ : Instant) (calls : List MeterCall) : Instant :=
  calls.foldl (fun t c => t.max c.now) t₀

/-- How many full seconds lie between the start and the latest time. -/
def completed (t₀ : Instant) (calls : List MeterCall) : Nat := ((latest t₀ calls).since t₀).secs

/-- How many frames were recorded while the latest time, that of the record included, lay in second
`p` after the start. -/
def framesIn (t₀ : Instant) (calls : List MeterCall) (p : Nat) : Nat :=
  ∑ i ∈ Finset.range calls.length,
    if completed t₀ (calls.take (i + 1)) = p then calls[i]?.elim 0 MeterCall.frames else 0

/-- **The count of a second**: its frames, up to the greatest 32-bit number. -/
def countIn (t₀ : Instant) (calls : List MeterCall) (p : Nat) : Nat :=
  min (UInt32.size - 1) (framesIn t₀ calls p)

theorem nanos_max (s t : Instant) : (s.max t).nanos = max s.nanos t.nanos := by
  unfold Instant.max
  split
  · next le => exact (Nat.max_eq_right le).symm
  · next gt => exact (Nat.max_eq_left (Nat.le_of_not_le gt)).symm

theorem latest_concat (t₀ : Instant) (calls : List MeterCall) (c : MeterCall) :
    latest t₀ (calls ++ [c]) = (latest t₀ calls).max c.now := by
  simp [latest]

theorem nanos_le_latest (t₀ : Instant) (calls : List MeterCall) :
    t₀.nanos ≤ (latest t₀ calls).nanos := by
  induction calls using List.reverseRecOn with
  | nil => exact Nat.le_refl _
  | append_singleton calls c ih =>
      rw [latest_concat, nanos_max]
      exact Nat.le_trans ih (Nat.le_max_left ..)

/-- More calls complete no fewer seconds. -/
theorem completed_take_le (t₀ : Instant) (calls : List MeterCall) (n : Nat) :
    completed t₀ (calls.take n) ≤ completed t₀ calls := by
  have split : latest t₀ calls = latest (latest t₀ (calls.take n)) (calls.drop n) := by
    rw [latest, latest, latest, ← List.foldl_append, List.take_append_drop]
  have later := nanos_le_latest (latest t₀ (calls.take n)) (calls.drop n)
  rw [← split] at later
  exact Nat.div_le_div_right (Nat.sub_le_sub_right later _)

/-- Only the last call of a sequence counts in its own right: the others count as they did. -/
theorem framesIn_concat (t₀ : Instant) (calls : List MeterCall) (c : MeterCall) (p : Nat) :
    framesIn t₀ (calls ++ [c]) p =
      framesIn t₀ calls p + if completed t₀ (calls ++ [c]) = p then c.frames else 0 := by
  rw [framesIn, List.length_append, List.length_singleton, Finset.sum_range_succ]
  congr 1
  · refine Finset.sum_congr rfl fun i inside => ?_
    have lt : i < calls.length := Finset.mem_range.1 inside
    rw [List.take_append_of_le_length (by omega), List.getElem?_append_left lt]
  · have whole : (calls ++ [c]).take (calls.length + 1) = calls ++ [c] :=
      List.take_of_length_le (by simp)
    rw [whole, List.getElem?_concat_length]
    rfl

/-- Nothing is counted in a second after the latest time. -/
theorem framesIn_of_lt {calls : List MeterCall} {p : Nat} (later : completed t₀ calls < p) :
    framesIn t₀ calls p = 0 := by
  refine Finset.sum_eq_zero fun i _ => if_neg ?_
  have le := completed_take_le t₀ calls (i + 1)
  omega

theorem countIn_of_lt {calls : List MeterCall} {p : Nat} (later : completed t₀ calls < p) :
    countIn t₀ calls p = 0 := by
  rw [countIn, framesIn_of_lt later, Nat.min_zero]

/-! ### The loop -/

theorem nanos_closeSecond (m : ThroughputMeter) :
    m.closeSecond.secondStart.nanos = m.secondStart.nanos + Duration.nanosPerSecond := by
  show _ + 1 * _ = _
  rw [Nat.one_mul]

theorem nanos_iterate_closeSecond (m : ThroughputMeter) (n : Nat) :
    (closeSecond^[n] m).secondStart.nanos = m.secondStart.nanos + n * Duration.nanosPerSecond := by
  induction n with
  | zero => simp
  | succ n ih => rw [Function.iterate_succ_apply', nanos_closeSecond, ih, Nat.add_mul, Nat.one_mul,
      Nat.add_assoc]

/-- After `i` turns of the loop a second is over exactly if more than `i` were. -/
theorem isOver_iterate_iff {i : Nat} :
    (closeSecond^[i] m).isOver now = true ↔ i < (now.since m.secondStart).secs := by
  rw [isOver_iff, nanos_iterate_closeSecond]
  show _ ↔ i < (now.nanos - m.secondStart.nanos) / Duration.nanosPerSecond
  rw [Duration.nanosPerSecond]
  omega

/-- **The loop ends the seconds that are over**, one at a time. -/
theorem roll_eq_iterate (m : ThroughputMeter) (now : Instant) :
    m.roll now = closeSecond^[(now.since m.secondStart).secs] m := by
  generalize seconds : (now.since m.secondStart).secs = n
  induction n generalizing m with
  | zero =>
      have stops : m.isOver now = false := by
        rw [← Bool.not_eq_true, ← Function.iterate_zero_apply closeSecond m, isOver_iterate_iff]
        simp [seconds]
      exact roll_of_not_isOver stops
  | succ n ih =>
      have goes : m.isOver now = true := by
        rw [← Function.iterate_zero_apply closeSecond m, isOver_iterate_iff]
        simp [seconds]
      have fewer : (now.since m.closeSecond.secondStart).secs = n := by
        change (now.nanos - m.closeSecond.secondStart.nanos) / Duration.nanosPerSecond = n
        change (now.nanos - m.secondStart.nanos) / Duration.nanosPerSecond = n + 1 at seconds
        rw [nanos_closeSecond]
        rw [Duration.nanosPerSecond] at seconds ⊢
        omega
      rw [roll_of_isOver goes, ih m.closeSecond fewer, Function.iterate_succ_apply]

/-! ### The ring -/

/-- **What a meter shows** after `K` full seconds, if `count` says how many frames each second counts:
the last seconds stand in the ring by their number, a place that no second has reached holds zero, and
the current second is the one that follows. -/
structure Shows (m : ThroughputMeter) (t₀ : Instant) (count : Nat → Nat) (K : Nat) : Prop where
  second : m.secondStart.nanos = t₀.nanos + K * Duration.nanosPerSecond
  filled : m.filled = min K window
  next : m.next.val = K % window
  current : m.current.toNat = count K
  kept : ∀ (j : Fin window) (p : Nat), K ≤ p + window → p < K → p % window = j →
    m.samples[j].toNat = count p
  blank : ∀ j : Fin window, K ≤ j → m.samples[j].toNat = 0

/-- Seconds that are less than ten apart have different places. -/
theorem mod_window_ne {p q : Nat} (lt : p < q) (near : q < p + window) :
    p % window ≠ q % window := by
  rw [window] at near ⊢
  omega

/-- Every place below `K` is that of one of the last ten seconds before `K`. -/
theorem exists_mod_window {j : Nat} (small : j < window) (reached : j < K) :
    ∃ p, K ≤ p + window ∧ p < K ∧ p % window = j := by
  refine ⟨j + window * ((K - 1 - j) / window), ?_, ?_, ?_⟩
  · rw [window] at small ⊢
    omega
  · rw [window] at small ⊢
    omega
  · rw [Nat.add_mul_mod_self_left, Nat.mod_eq_of_lt small]

/-- A place of the ring after the end of a second. -/
theorem samples_closeSecond (m : ThroughputMeter) (j : Fin window) :
    m.closeSecond.samples[j] = if m.next = j then m.current else m.samples[j] := by
  show (m.samples.set m.next m.current)[(j : Nat)] = _
  rw [Vector.getElem_set]
  simp [Fin.ext_iff]

theorem shows_start (t₀ : Instant) (zero : count 0 = 0) : (start t₀).Shows t₀ count 0 where
  second := by simp [start]
  filled := rfl
  next := rfl
  current := by rw [zero]; rfl
  kept := fun j p _ lt => absurd lt (Nat.not_lt_zero p)
  blank := fun j _ => by simp [start]

/-- The end of a second puts its count over the one of ten seconds before. -/
theorem Shows.closeSecond (h : m.Shows t₀ count K) (new : count (K + 1) = 0) :
    m.closeSecond.Shows t₀ count (K + 1) where
  second := by rw [nanos_closeSecond, h.second, Nat.add_mul, Nat.one_mul, Nat.add_assoc]
  filled := by
    show min (m.filled + 1) window = _
    rw [h.filled]
    omega
  next := by
    show (m.next.val + 1) % window = _
    rw [h.next, Nat.mod_add_mod]
  current := new.symm
  kept := by
    intro j p recent past place
    rw [samples_closeSecond]
    rcases Nat.lt_succ_iff_lt_or_eq.1 past with before | rfl
    · have other : m.next ≠ j := by
        rintro rfl
        exact mod_window_ne before (by omega) (place.trans h.next)
      rw [if_neg other]
      exact h.kept j p (by omega) before place
    · have same : m.next = j := Fin.ext (h.next.trans place)
      rw [if_pos same]
      exact h.current
  blank := by
    intro j unreached
    have other : m.next ≠ j := by
      rintro rfl
      have next := h.next
      rw [Nat.mod_eq_of_lt (by omega)] at next
      omega
    rw [samples_closeSecond, if_neg other]
    exact h.blank j (by omega)

/-- So does the end of several, as nothing is counted in the seconds after the current one. -/
theorem Shows.iterate (h : m.Shows t₀ count K) (later : ∀ p, K < p → count p = 0) (n : Nat) :
    (ThroughputMeter.closeSecond^[n] m).Shows t₀ count (K + n) := by
  induction n with
  | zero => exact h
  | succ n ih =>
      rw [Function.iterate_succ_apply']
      exact ih.closeSecond (later _ (by omega))

/-- The frames of the kept seconds are the sum over the places of the ring. -/
theorem total_eq_sum (m : ThroughputMeter) : m.total = ∑ j : Fin window, m.samples[j].toNat := by
  have listed : m.samples.toList = List.ofFn fun j : Fin window => m.samples[j] := by
    refine List.ext_getElem (by simp) fun i _ _ => ?_
    simp
  have added : m.total = (m.samples.toList.map UInt32.toNat).sum := List.foldr_map.symm
  rw [added, listed, List.map_ofFn, List.sum_ofFn]
  rfl

/-- **The ring is added up to the counts of the last ten seconds**: each of them has a place of its own,
and the other places hold zero. -/
theorem Shows.total (h : m.Shows t₀ count K) :
    m.total = ∑ p ∈ Finset.Ico (K - window) K, count p := by
  let place : Nat → Fin window := fun p => ⟨p % window, Nat.mod_lt _ (by decide)⟩
  have recent : ∀ p ∈ Finset.Ico (K - window) K, K ≤ p + window ∧ p < K := by
    intro p inside
    have bounds := Finset.mem_Ico.1 inside
    omega
  have apart : Set.InjOn place (Finset.Ico (K - window) K) := by
    intro p hp q hq same
    have same : p % window = q % window := congrArg Fin.val same
    rcases Nat.lt_trichotomy p q with lt | eq | gt
    · exact absurd same (mod_window_ne lt (by have := recent p hp; have := recent q hq; omega))
    · exact eq
    · exact absurd same.symm (mod_window_ne gt (by have := recent p hp; have := recent q hq; omega))
  rw [total_eq_sum]
  calc ∑ j : Fin window, m.samples[j].toNat
      = ∑ j ∈ (Finset.Ico (K - window) K).image place, m.samples[j].toNat := by
        refine (Finset.sum_subset (Finset.subset_univ _) fun j _ unused => ?_).symm
        refine h.blank j (Nat.le_of_not_lt fun reached => unused ?_)
        obtain ⟨p, recent, past, same⟩ := exists_mod_window j.isLt reached
        exact Finset.mem_image.2 ⟨p, Finset.mem_Ico.2 (by omega), Fin.ext same⟩
    _ = ∑ p ∈ Finset.Ico (K - window) K, m.samples[place p].toNat := Finset.sum_image apart
    _ = ∑ p ∈ Finset.Ico (K - window) K, count p := by
        refine Finset.sum_congr rfl fun p inside => ?_
        exact h.kept (place p) p (recent p inside).1 (recent p inside).2 rfl

/-! ### Runs -/

/-- The seconds that are over at a call are those that it completes. -/
theorem Shows.secs_since {calls : List MeterCall} {c : MeterCall}
    (h : m.Shows t₀ count (completed t₀ calls)) :
    (c.now.since m.secondStart).secs = completed t₀ (calls ++ [c]) - completed t₀ calls := by
  have second := h.second
  rw [completed] at second ⊢
  rw [completed, latest_concat]
  change (c.now.nanos - m.secondStart.nanos) / Duration.nanosPerSecond =
    ((latest t₀ calls |>.max c.now).nanos - t₀.nanos) / Duration.nanosPerSecond
      - ((latest t₀ calls).nanos - t₀.nanos) / Duration.nanosPerSecond
  change _ = _ + ((latest t₀ calls).nanos - t₀.nanos) / Duration.nanosPerSecond * _ at second
  rw [nanos_max, second]
  rw [Duration.nanosPerSecond]
  omega

/-- A call ends the seconds that it completes. -/
theorem Shows.roll {calls : List MeterCall} (h : m.Shows t₀ (countIn t₀ calls) (completed t₀ calls))
    (c : MeterCall) :
    (m.roll c.now).Shows t₀ (countIn t₀ calls) (completed t₀ (calls ++ [c])) := by
  have grows : completed t₀ calls ≤ completed t₀ (calls ++ [c]) := by
    have le := completed_take_le t₀ (calls ++ [c]) calls.length
    rwa [List.take_left] at le
  have ended := h.iterate (fun p later => countIn_of_lt later)
    (completed t₀ (calls ++ [c]) - completed t₀ calls)
  rwa [Nat.add_sub_cancel' grows, ← h.secs_since, ← roll_eq_iterate] at ended

theorem toNat_saturatingAdd (a b : UInt32) :
    (saturatingAdd a b).toNat = min (a.toNat + b.toNat) (UInt32.size - 1) := by
  rw [saturatingAdd, UInt32.toNat_ofNat_of_lt']
  rw [UInt32.size]
  omega

/-- A call that has ended its seconds counts its frames. -/
theorem Shows.recorded {calls : List MeterCall} {c : MeterCall}
    (h : m.Shows t₀ (countIn t₀ calls) (completed t₀ (calls ++ [c]))) (fit : c.frames < UInt32.size) :
    ({ m with current := saturatingAdd m.current (UInt32.ofNat c.frames) } : ThroughputMeter).Shows t₀
      (countIn t₀ (calls ++ [c])) (completed t₀ (calls ++ [c])) where
  second := h.second
  filled := h.filled
  next := h.next
  current := by
    show (saturatingAdd m.current (UInt32.ofNat c.frames)).toNat = _
    rw [toNat_saturatingAdd, h.current, UInt32.toNat_ofNat_of_lt' fit, countIn, countIn,
      framesIn_concat, if_pos rfl]
    omega
  kept := by
    intro j p recent past place
    rw [h.kept j p recent past place, countIn, countIn, framesIn_concat, if_neg (by omega), Nat.add_zero]
  blank := h.blank

/-- **Every call keeps what a meter shows.** -/
theorem Shows.call {calls : List MeterCall} (h : m.Shows t₀ (countIn t₀ calls) (completed t₀ calls))
    {c : MeterCall} (fit : c.frames < UInt32.size) :
    (m.call c).Shows t₀ (countIn t₀ (calls ++ [c])) (completed t₀ (calls ++ [c])) := by
  cases c with
  | record frames now => exact (h.roll (.record frames now)).recorded fit
  | roll now =>
      have same : countIn t₀ (calls ++ [.roll now]) = countIn t₀ calls := by
        funext p
        rw [countIn, countIn, framesIn_concat]
        simp [MeterCall.frames]
      rw [same]
      exact h.roll (.roll now)

/-- **Every sequence of calls does.** -/
theorem shows_run (t₀ : Instant) (calls : List MeterCall)
    (fit : ∀ c ∈ calls, c.frames < UInt32.size) :
    (run t₀ calls).Shows t₀ (countIn t₀ calls) (completed t₀ calls) := by
  induction calls using List.reverseRecOn with
  | nil =>
      have none : completed t₀ [] = 0 := by simp [completed, latest, Duration.secs]
      rw [none]
      exact shows_start t₀ rfl
  | append_singleton calls c ih =>
      have before := ih fun d inside => fit d (by simp [inside])
      rw [run, List.foldl_append]
      exact before.call (fit c (by simp))

/-- **The meter in closed form**: after any calls, its ring is added up to the counts of the last ten full
seconds, as many of them as there are, the average is their quotient, and the loop of the next call has
one turn for each second that this call completes. -/
theorem meter_closed_form (t₀ : Instant) (calls : List MeterCall)
    (fit : ∀ c ∈ calls, c.frames < UInt32.size) :
    let m := run t₀ calls
    let K := completed t₀ calls
    let frames := ∑ p ∈ Finset.Ico (K - window) K, countIn t₀ calls p
    m.total = frames ∧ m.filled = min K window ∧
      m.average = (if K = 0 then .zero false
        else (Binary64.ofNat frames).div (.ofNat (min K window))) ∧
      ∀ c : MeterCall,
        let turns := completed t₀ (calls ++ [c]) - K
        m.roll c.now = closeSecond^[turns] m ∧
          (∀ i < turns, (closeSecond^[i] m).isOver c.now = true) ∧
          (closeSecond^[turns] m).isOver c.now = false := by
  intro m K frames
  have shows := shows_run t₀ calls fit
  have total : m.total = frames := shows.total
  have filled : m.filled = min K window := shows.filled
  refine ⟨total, filled, ?_, fun c => ⟨?_, fun i turn => ?_, ?_⟩⟩
  · have empty : min K window = 0 ↔ K = 0 := by
      rw [window]
      omega
    rw [average, total, filled]
    simp only [empty]
  · rw [roll_eq_iterate, shows.secs_since]
  · rw [isOver_iterate_iff, shows.secs_since]
    exact turn
  · rw [← Bool.not_eq_true, isOver_iterate_iff, shows.secs_since]
    exact Nat.lt_irrefl _

/-- Calls that fill a second beyond the greatest count, give a time before the start, skip some seconds
and step back. -/
def unsteadyCalls : List MeterCall :=
  [.record 4294967295 (.ofMillis 5000), .record 7 (.ofMillis 5500), .roll (.ofMillis 3000),
    .record 4 (.ofMillis 12200), .record 5 (.ofMillis 11000), .roll (.ofMillis 14000)]

/-- A meter of nine full seconds, one of them full to the brim and one counted after the clock went back;
the next call is two and a half seconds later. -/
theorem meter_closed_form_rehearsed :
    (∀ c ∈ unsteadyCalls, c.frames < UInt32.size) ∧
      (run (.ofMillis 5000) unsteadyCalls).total = 4294967304 ∧
      (run (.ofMillis 5000) unsteadyCalls).filled = 9 ∧
      (run (.ofMillis 5000) unsteadyCalls).average = (Binary64.ofNat 4294967304).div (.ofNat 9) ∧
      (run (.ofMillis 5000) unsteadyCalls).roll (.ofMillis 16500) =
        (run (.ofMillis 5000) unsteadyCalls).closeSecond.closeSecond := by
  have fit : ∀ c ∈ unsteadyCalls, c.frames < UInt32.size := by decide
  have seconds : completed (.ofMillis 5000) unsteadyCalls = 9 := by decide +kernel
  have next : completed (.ofMillis 5000) (unsteadyCalls ++ [.roll (.ofMillis 16500)]) = 11 := by
    decide +kernel
  have frames : ∑ p ∈ Finset.Ico (9 - window) 9, countIn (.ofMillis 5000) unsteadyCalls p
      = 4294967304 := by decide +kernel
  obtain ⟨total, filled, average, turns⟩ := meter_closed_form (.ofMillis 5000) unsteadyCalls fit
  simp only [seconds, frames] at total filled average
  have ended := (turns (.roll (.ofMillis 16500))).1
  rw [seconds, next] at ended
  exact ⟨fit, total, filled, average, ended⟩

end ThroughputMeter

end FrameMux
