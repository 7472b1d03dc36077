/-
**Numbers that stop a pass.**

A producer may write any number into the header of a frame, and the multiplexer takes how far it jumps
for the number of frames that were missed.  A single jump is a word, but the sum of several may be none,
and a number that goes back adds nothing, so that the next one can jump as far again.  Then the pass over
the regions stops in the middle.  Until that happens both counts are what the frames come to, and nothing
makes them less.

Main results:

* `FrameMux.World.pass_stops_iff_skips` — **a pass stops exactly where the total of the jumps is out of
  range**, and the counts only ever grow;
* `FrameMux.World.three_numbers_stop_a_pass` — a producer that writes three numbers stops one.
-/

import FrameMux.Proofs.World.Sums

set_option relaxedAutoImplicit false
set_option autoImplicit false

namespace FrameMux

/-- What was jumped over stays so. -/
theorem skips_le_of_prefix {l l' : List Receipt} (first : l <+: l') (id : WorkerId) :
    skips id l ≤ skips id l' := by
  obtain ⟨rest, rfl⟩ := first
  rw [skips_append]
  exact Nat.le_add_right _ _

namespace World

variable {σ : Type}

/-- The frames that are taken in a run are too few to be no word. -/
theorem Summed.received_eq {w : World σ} (h : w.Summed) (few : w.stored.length < UInt32.size)
    (id : WorkerId) : (w.framesReceived id).toNat = w.stored.countP (fun r => r.worker = id) := by
  have counted : w.stored.countP (fun r => r.worker = id) ≤ w.stored.length := List.countP_le_length
  have size : UInt64.size = 2 ^ 64 := rfl
  have fewer : UInt32.size = 2 ^ 32 := rfl
  rw [h.received]
  exact UInt64.toNat_ofNat_of_lt' (by omega)

variable [ProcessManager σ]

/-- **A pass stops exactly where the total of the jumps is out of range.**  In every run in which fewer
than `2 ^ 32` frames are taken, whatever the producers write into their regions: for every worker the
count of frames received is the number of frames taken for it, and the count of frames missed is how
many numbers they jump over in all.  So neither count is ever less than it was before.

And a pass over the regions comes to its end unless a frame waits for a worker whose number jumps so far
that, with all that was jumped over before, the total is no word. -/
theorem pass_stops_iff_skips (manager : σ) (config : Config) (began : Instant) (l : List Action)
    {w : World σ} (reached : (start manager config began).run l = w)
    (few : w.stored.length < UInt32.size) :
    (∀ id, (w.framesReceived id).toNat = w.stored.countP (fun r => r.worker = id) ∧
      (w.framesDropped id).toNat = skips id w.stored) ∧
    (∀ before after, l = before ++ after → ∀ v, (start manager config began).run before = v →
      ∀ id, v.framesReceived id ≤ w.framesReceived id ∧ v.framesDropped id ≤ w.framesDropped id) ∧
    ∀ now, (w.sup.readFrames now).1 = none ↔ ∃ id n frame, w.Awaits id n frame ∧
      UInt64.size ≤ skips id w.stored + (frame.sequence.toNat - lastOver w.stored n - 1) := by
  obtain ⟨orderly, summed⟩ : w.Orderly ∧ w.Summed := reached ▸ summed_run manager config began l
  refine ⟨fun id => ⟨summed.received_eq few id, summed.dropped id⟩, ?_, fun now => ?_⟩
  · rintro before after rfl v rfl id
    obtain ⟨earlier, summed'⟩ := summed_run manager config began before
    have first : ((start manager config began).run before).stored <+: w.stored := by
      rw [← reached, run_append]
      exact (later_run earlier.named earlier.linked earlier.delivered after).stored
    have few' := Nat.lt_of_le_of_lt first.length_le few
    rw [UInt64.le_iff_toNat_le, UInt64.le_iff_toNat_le, summed'.received_eq few' id,
      summed.received_eq few id, summed'.dropped id, summed.dropped id]
    exact ⟨first.sublist.countP_le, skips_le_of_prefix first id⟩
  · rw [orderly.sound.stops_iff now]
    exact exists_congr fun id => exists_congr fun n => summed.overfull_iff

/-- A frame under a number of the producer's choice, and the token for it. -/
def numbered (sequence : UInt64) : List Action :=
  [.produce 0 (.publish ⟨[1, 1, 1, 1], 1, 1⟩),
    .produce 0 (.other fun l => l.poke 0 24 (littleEndian 8 sequence.toNat)), .wait,
    .dispatch ⟨⟨1⟩, 1⟩ .linux]

/-- A rehearsal: a worker negotiates, and its producer gives its frames the greatest number but one,
then zero, then the greatest but one again.  The first two are taken and given back. -/
def jumping : List Action :=
  [.addWorker ⟨1⟩ "cam" ⟨0⟩, .tick ⟨0⟩, .produce 0 (.offer .linux 4), .wait, .dispatch ⟨⟨1⟩, 1⟩ .linux] ++
    numbered 18446744073709551614 ++ [.readFrames ⟨1⟩, .release ⟨1⟩ ⟨1⟩] ++
    numbered 0 ++ [.readFrames ⟨2⟩, .release ⟨1⟩ ⟨2⟩] ++ numbered 18446744073709551614

/-- The world after the rehearsal. -/
def jumped : World ScriptedManager :=
  (start ⟨[.starts none [.ofEvent .childStarted]], [], [], 0, []⟩ .defaults ⟨0⟩).run jumping

theorem pass_stops_iff_skips_rehearsed :
    jumped.stored.length < UInt32.size ∧
    (jumped.framesDropped ⟨1⟩).toNat = skips ⟨1⟩ jumped.stored ∧
    skips ⟨1⟩ jumped.stored = 18446744073709551613 ∧ (jumped.sup.readFrames ⟨3⟩).1 = none := by
  have few : jumped.stored.length < UInt32.size := by decide +kernel
  have total : skips ⟨1⟩ jumped.stored = 18446744073709551613 := by decide +kernel
  have last : lastOver jumped.stored 0 = 0 := by decide +kernel
  have awaits : jumped.Awaits ⟨1⟩ 0 ⟨[1, 1, 1, 1], 1, 1, 18446744073709551614⟩ :=
    ⟨_, 0, _, ⟨rfl, rfl, rfl, rfl, rfl, rfl⟩, rfl⟩
  obtain ⟨counts, -, stops⟩ :=
    pass_stops_iff_skips (σ := ScriptedManager) _ _ _ jumping (w := jumped) rfl few
  refine ⟨few, (counts ⟨1⟩).2, total, (stops ⟨3⟩).2 ⟨⟨1⟩, 0, _, awaits, ?_⟩⟩
  rw [total, last]
  decide

/-- **Three numbers stop a pass**: two frames were taken, and at the third the pass stops in the
middle. -/
theorem three_numbers_stop_a_pass :
    jumped.stored.length = 2 ∧ (jumped.sup.readFrames ⟨3⟩).1 = none := by
  constructor <;> decide +kernel

end World

end FrameMux
