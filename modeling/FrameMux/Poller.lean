/-
**Waiting for notifications.**

The poller watches notification counters and tells which were signalled.  It is edge triggered: a
counter becomes ready with every signal and is reported once for it, unless it was drained before.
A wait reports at most 64 counters, in the order in which they became ready.

Main definitions:

* `FrameMux.Token` — the worker and the generation that a counter belongs to, packed into one word;
* `FrameMux.Poller` — the watched counters, and the ready ones;
* `FrameMux.Poller.register`, `FrameMux.Poller.deregister`, `FrameMux.Poller.wake` — what makes
  counters watched and ready;
* `FrameMux.Poller.wait` — **the reports**.

Main results:

* `FrameMux.Token.unpack_pack` — packing loses nothing;
* `FrameMux.Poller.length_wait_le` — a wait reports at most 64 counters.
-/

import FrameMux.Worker.Id

set_option relaxedAutoImplicit false
set_option autoImplicit false

namespace FrameMux

/-! ### Tokens -/

/-- The worker and the generation that a counter belongs to. -/
structure Token where
  worker : WorkerId
  generation : UInt32
deriving DecidableEq, Repr, Inhabited

namespace Token

/-- The worker in the upper half of a word and the generation in the lower. -/
def pack (t : Token) : UInt64 :=
  UInt64.ofNat (t.worker.number.toNat * UInt32.size + t.generation.toNat)

/-- The token in a word. -/
def unpack (raw : UInt64) : Token :=
  ⟨⟨UInt32.ofNat (raw.toNat / UInt32.size)⟩, UInt32.ofNat (raw.toNat % UInt32.size)⟩

/-- Packing loses nothing. -/
theorem unpack_pack (t : Token) : unpack t.pack = t := by
  obtain ⟨⟨w⟩, g⟩ := t
  have hw := w.toNat_lt
  have hg := g.toNat_lt
  have total : (pack ⟨⟨w⟩, g⟩).toNat = w.toNat * UInt32.size + g.toNat := by
    simp only [pack, UInt64.toNat_ofNat', UInt32.size]
    omega
  have upper : (w.toNat * UInt32.size + g.toNat) / UInt32.size = w.toNat := by
    simp only [UInt32.size]
    omega
  have lower : (w.toNat * UInt32.size + g.toNat) % UInt32.size = g.toNat := by
    simp only [UInt32.size]
    omega
  simp only [unpack, total, upper, lower, UInt32.ofNat_toNat]

/-- Whether a token comes before another one: by worker, then by generation. -/
def before (a b : Token) : Bool := a.pack ≤ b.pack

end Token

/-! ### The poller -/

/-- Watched counters with their tokens, and the ready ones in order. -/
structure Poller where
  watched : List (Nat × Token)
  ready : List Nat
deriving DecidableEq, Repr, Inhabited

namespace Poller

/-- A poller that watches nothing. -/
def fresh : Poller := ⟨[], []⟩

/-- The most counters that one wait reports. -/
def batch : Nat := 64

/-- The token of a watched counter. -/
def token? (p : Poller) (counter : Nat) : Option Token :=
  (p.watched.find? fun w => w.1 = counter).map Prod.snd

/-- Makes a watched counter ready; one that is ready keeps its place. -/
def wake (p : Poller) (counter : Nat) : Poller :=
  if (p.token? counter).isSome && !p.ready.contains counter then
    { p with ready := p.ready ++ [counter] }
  else p

/-- Forgets a counter. -/
def deregister (p : Poller) (counter : Nat) : Poller :=
  ⟨p.watched.filter fun w => w.1 ≠ counter, p.ready.filter fun c => c ≠ counter⟩

/-- Watches a counter under a token, in place of the one it had; a signalled counter is ready at
once. -/
def register (p : Poller) (counter : Nat) (token : Token) (signalled : Bool) : Poller :=
  let watched := (p.watched.filter fun w => w.1 ≠ counter) ++ [(counter, token)]
  let p := { p with watched }
  if signalled then p.wake counter else p

/-- Goes through ready counters up to a number of reports; drained counters are forgotten.  What is
left is ready for the next wait. -/
def collect (p : Poller) (signalled : Nat → Bool) : Nat → List Nat → List Token × List Nat
  | 0, ready => ([], ready)
  | _, [] => ([], [])
  | room + 1, counter :: rest =>
      match p.token? counter with
      | none => collect p signalled (room + 1) rest
      | some token =>
          if signalled counter then
            let (tokens, left) := collect p signalled room rest
            (token :: tokens, left)
          -- A counter that was drained meanwhile gives up its place and takes no room.
          else collect p signalled (room + 1) rest

/-- Reports ready counters; `signalled` tells which counters hold something. -/
def wait (p : Poller) (signalled : Nat → Bool) : List Token × Poller :=
  let (tokens, left) := p.collect signalled batch p.ready
  (tokens, { p with ready := left })

/-- As many reports as there is room for. -/
theorem length_collect_le (p : Poller) (signalled : Nat → Bool) (room : Nat) (ready : List Nat) :
    (p.collect signalled room ready).1.length ≤ room := by
  fun_induction collect p signalled room ready with
  | case1 => simp
  | case2 => simp
  | case3 _ _ _ _ ih => exact ih
  | case4 _ _ _ _ _ _ _ _ eq ih =>
    simp only [eq] at ih
    simp only [List.length_cons]
    omega
  | case5 _ _ _ _ _ _ ih => exact ih

/-- A wait reports at most 64 counters. -/
theorem length_wait_le (p : Poller) (signalled : Nat → Bool) :
    (p.wait signalled).1.length ≤ batch :=
  p.length_collect_le signalled batch p.ready

end Poller

end FrameMux
