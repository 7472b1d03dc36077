/-
**Publishing and taking, access by access.**

The producer and the reader work on one region at the same time, and what one of them does in the
middle of a call the other may see.  This module spells both calls out: each compare and swap of the
state word, each load or store of a header field, and each byte copied is a step of its own.  So is the
write to the counter, which comes last where a picture filled an empty slot.  Left alone, the steps of
a call amount to the whole call.

Main definitions:

* `FrameMux.Slot.Writer`, `FrameMux.Slot.Reader` — how far a call to publish or to take has come;
* `FrameMux.Slot.Writer.step`, `FrameMux.Slot.Reader.step` — **one access**;
* `FrameMux.Slot.Writer.Alone`, `FrameMux.Slot.Reader.Alone` — a call that nobody disturbs;
* `FrameMux.Slot.Run`, `FrameMux.Slot.Run.turns` — **a producer and a reader on one region**, under
  any schedule of their accesses, with others at the counter.

Main results:

* `FrameMux.Slot.publish_alone`, `FrameMux.Slot.take_alone` — **an undisturbed call is the whole
  operation** on the region: same result, same memory.
-/

import FrameMux.Proofs.Handoff.Picture
import FrameMux.Proofs.Handoff.Signals

set_option relaxedAutoImplicit false
set_option autoImplicit false

namespace FrameMux.Slot

/-! ### The producer's call -/

/-- What the producer stores while it holds the slot. -/
inductive Store where
  | byte (i : Nat)
  | nbytes
  | width
  | height
  | sequence
deriving DecidableEq, Repr

namespace Store

/-- The store that is due when some bytes of a picture of a length are in. -/
def afterBytes (length i : Nat) : Store := if i < length then byte i else nbytes

/-- The store that follows, until all is stored. -/
def next? (length : Nat) : Store → Option Store
  | byte i => some (afterBytes length (i + 1))
  | nbytes => some width
  | width => some height
  | height => some sequence
  | sequence => none

/-- Stores one part of a picture. -/
def perform (p : Picture) (r : Region) : Store → Region
  | byte i => r.storeByte i (p.data.getD i 0)
  | nbytes => r.mapHeader fun h => { h with nbytes := UInt64.ofNat p.data.length }
  | width => r.mapHeader fun h => { h with width := p.width }
  | height => r.mapHeader fun h => { h with height := p.height }
  | sequence => r.mapHeader fun h => h.bumpSequence.2

end Store

/-- How far a call to publish has come: about to claim an empty slot, about to claim a ready one,
about to store a part, about to commit, or about to tell about a picture that filled an empty slot.  A
call that cannot count its picture stops in the middle, and its producer with it. -/
inductive Writer where
  | idle
  | claim (p : Picture)
  | reclaim (p : Picture)
  | store (p : Picture) (replacing : Bool) (what : Store)
  | commit (p : Picture) (replacing : Bool)
  | signal
  | stopped
deriving DecidableEq, Repr

/-- How a call to publish ends. -/
abbrev PublishResult := Except ChannelError PublishOutcome

namespace Writer

/-- A call to publish, up to its first access.  The length is looked at before the slot is. -/
def start (r : Region) (p : Picture) : Writer × Option PublishResult :=
  if p.data.length ≠ r.payloadCapacity.toNat then
    (idle, some (.error (.sizeMismatch r.payloadCapacity.toNat p.data.length)))
  else (claim p, none)

/-- One access of the producer, and the result if it is the last one. -/
def step (c : Channel) : Writer → Writer × Channel × Option PublishResult
  | idle => (idle, c, none)
  | claim p =>
      match c.region.header.transition .empty .writing with
      | .ok header =>
          (store p false (.afterBytes p.data.length 0), { c with region := { c.region with header } },
            none)
      | .error raw =>
          if raw = SlotState.reading.raw then (idle, c, some (.ok .busy))
          else if raw = SlotState.ready.raw then (reclaim p, c, none)
          else (idle, c, some (.error (Region.unexpected raw .publish)))
  | reclaim p =>
      match c.region.header.transition .ready .writing with
      | .ok header =>
          (store p true (.afterBytes p.data.length 0), { c with region := { c.region with header } },
            none)
      | .error raw =>
          if raw = SlotState.reading.raw then (idle, c, some (.ok .busy))
          -- The reader emptied the slot in between, so it is claimed as an empty one.
          else if raw = SlotState.empty.raw then (claim p, c, none)
          else (idle, c, some (.error (Region.unexpected raw .publish)))
  | store p replacing what =>
      let stored := { c with region := what.perform p c.region }
      match what.next? p.data.length with
      | some next => (store p replacing next, stored, none)
      | none =>
          -- The last store is the count.
          match c.region.header.bumpSequence.1 with
          | some _ => (commit p replacing, stored, none)
          | none => (stopped, stored, some (.error .overflow))
  | commit _ replacing =>
      match c.region.header.transition .writing .ready with
      | .ok header =>
          let committed := { c with region := { c.region with header } }
          if replacing then (idle, committed, some (.ok .replaced)) else (signal, committed, none)
      | .error raw => (idle, c, some (.error (Region.unexpected raw .publishCommit)))
  | signal =>
      match c.notifier.signal (.ofEvent .frameWaiting) with
      | .ok notifier => (idle, { c with notifier }, some (.ok .published))
      | .error e => (idle, c, some (.error e))
  | stopped => (stopped, c, none)

/-- The first claim is granted on an empty slot. -/
theorem step_claim_of_empty {c : Channel} (p : Picture)
    (word : c.region.header.state = SlotState.empty.raw) :
    (claim p).step c = (.store p false (.afterBytes p.data.length 0),
      { c with region := { c.region with
        header := { c.region.header with state := SlotState.writing.raw } } }, none) := by
  unfold step
  simp only [Header.transition, if_pos word]

/-- On a ready slot it is followed by the second one. -/
theorem step_claim_of_ready {c : Channel} (p : Picture)
    (word : c.region.header.state = SlotState.ready.raw) :
    (claim p).step c = (.reclaim p, c, none) := by
  unfold step
  simp only [Header.transition, word]
  rfl

/-- The second claim is granted on a ready slot. -/
theorem step_reclaim_of_ready {c : Channel} (p : Picture)
    (word : c.region.header.state = SlotState.ready.raw) :
    (reclaim p).step c = (.store p true (.afterBytes p.data.length 0),
      { c with region := { c.region with
        header := { c.region.header with state := SlotState.writing.raw } } }, none) := by
  unfold step
  simp only [Header.transition, if_pos word]

/-- On an empty slot the loop starts over. -/
theorem step_reclaim_of_empty {c : Channel} (p : Picture)
    (word : c.region.header.state = SlotState.empty.raw) :
    (reclaim p).step c = (.claim p, c, none) := by
  unfold step
  simp only [Header.transition, word]
  rfl

/-- While the reader holds the slot, either claim ends the call. -/
theorem step_of_reading {c : Channel} {w : Writer} {p : Picture}
    (at_ : w = .claim p ∨ w = .reclaim p) (word : c.region.header.state = SlotState.reading.raw) :
    w.step c = (.idle, c, some (.ok .busy)) := by
  rcases at_ with rfl | rfl
  · unfold step
    simp only [Header.transition, word]
    rfl
  · unfold step
    simp only [Header.transition, word]
    rfl

/-- A store is followed by the next one. -/
theorem step_store_of_next {c : Channel} {p : Picture} {what next : Store} (replacing : Bool)
    (follows : what.next? p.data.length = some next) :
    (store p replacing what).step c =
      (.store p replacing next, { c with region := what.perform p c.region }, none) := by
  unfold step
  simp only [follows]

/-- The last store is followed by the commit, if the picture can be counted. -/
theorem step_store_of_countable {c : Channel} {p : Picture} {what : Store} (replacing : Bool)
    (last : what.next? p.data.length = none) (counts : c.region.Countable) :
    (store p replacing what).step c =
      (.commit p replacing, { c with region := what.perform p c.region }, none) := by
  unfold step
  simp only [last, Header.bumpSequence_of_lt counts]

/-- Otherwise the call stops. -/
theorem step_store_of_uncountable {c : Channel} {p : Picture} {what : Store} (replacing : Bool)
    (last : what.next? p.data.length = none) (ended : ¬ c.region.Countable) :
    (store p replacing what).step c =
      (.stopped, { c with region := what.perform p c.region }, some (.error .overflow)) := by
  unfold step
  simp only [last, Header.bumpSequence_of_le (Nat.not_lt.1 ended)]

/-- A commit over a waiting picture hands over the slot that the producer holds, and ends the call. -/
theorem step_commit_of_replacing {c : Channel} (p : Picture)
    (word : c.region.header.state = SlotState.writing.raw) :
    (commit p true).step c = (.idle,
      { c with region := { c.region with
        header := { c.region.header with state := SlotState.ready.raw } } },
      some (.ok .replaced)) := by
  unfold step
  simp only [Header.transition, if_pos word, if_true]

/-- After a commit into an empty slot the reader is still to be told. -/
theorem step_commit_of_filling {c : Channel} (p : Picture)
    (word : c.region.header.state = SlotState.writing.raw) :
    (commit p false).step c = (.signal,
      { c with region := { c.region with
        header := { c.region.header with state := SlotState.ready.raw } } }, none) := by
  unfold step
  simp only [Header.transition, if_pos word]
  rfl

/-- The counter has room for one more picture. -/
def Room (n : Notifier) : Prop := n.counter.toNat + 8 < Notifier.limit

instance (n : Notifier) : Decidable (Room n) := inferInstanceAs (Decidable (_ < _))

/-- Telling succeeds while the counter has room. -/
theorem step_signal_of_room {c : Channel} (room : Room c.notifier) :
    signal.step c = (.idle, { c with notifier := ⟨c.notifier.counter + 8⟩ },
      some (.ok .published)) := by
  have told : c.notifier.signal (.ofEvent .frameWaiting) = .ok ⟨c.notifier.counter + 8⟩ :=
    Notifier.signal_eq_ok_iff.2 ⟨room, rfl⟩
  unfold step
  simp only [told]

/-- Otherwise it is a violation, and the picture stays where it is. -/
theorem step_signal_of_full {c : Channel} (full : ¬ Room c.notifier) :
    signal.step c = (.idle, c, some (.error (.protocol .saturated))) := by
  unfold step
  simp only [Notifier.signal_of_full (e := .frameWaiting) (Nat.not_lt.1 full)]

/-- A call to publish of which nobody sees the middle. -/
inductive Alone : Writer → Channel → PublishResult → Channel → Prop
  | last {w w' : Writer} {c c' : Channel} {result : PublishResult} :
      w.step c = (w', c', some result) → Alone w c result c'
  | more {w w' : Writer} {c c' c'' : Channel} {result : PublishResult} :
      w.step c = (w', c', none) → Alone w' c' result c'' → Alone w c result c''

end Writer

/-! ### The reader's call -/

/-- How far a call to take has come: about to claim a ready slot, about to load a field or a byte
given what was loaded before, about to hand the slot back with a frame, or about to clear it after a
violation. -/
inductive Reader where
  | idle
  | claim
  | nbytes
  | width (nbytes : UInt64)
  | height (nbytes : UInt64) (width : UInt32)
  | sequence (nbytes : UInt64) (width height : UInt32)
  | copy (nbytes : UInt64) (part : SlotFrame)
  | release (frame : SlotFrame)
  | clear (fault : ChannelError)
deriving DecidableEq, Repr

/-- How a call to take ends. -/
abbrev TakeResult := Except ChannelError (Option SlotFrame)

namespace Reader

/-- What is to be done with a frame of which some bytes were copied. -/
def copyRest (nbytes : UInt64) (part : SlotFrame) : Reader :=
  if part.data.length < nbytes.toNat then copy nbytes part else release part

/-- One access of the reader, and the result if it is the last one. -/
def step (r : Region) : Reader → Reader × Region × Option TakeResult
  | idle => (idle, r, none)
  | claim =>
      match r.header.transition .ready .reading with
      | .ok header => (nbytes, { r with header }, none)
      | .error raw =>
          if (SlotState.ofRaw? raw).isSome then (idle, r, some (.ok none))
          else (clear (Region.unexpected raw .take), r, none)
  | nbytes => (width r.header.nbytes, r, none)
  | width n => (height n r.header.width, r, none)
  | height n w =>
      if r.payloadCapacity < n then
        (clear (.protocol (.oversizedFrame n r.payloadCapacity)), r, none)
      else (sequence n w r.header.height, r, none)
  | sequence n w h => (copyRest n ⟨[], w, h, r.header.sequence⟩, r, none)
  | copy n part =>
      (copyRest n { part with data := part.data ++ [r.byteAt part.data.length] }, r, none)
  | release frame =>
      match r.header.transition .reading .empty with
      | .ok header => (idle, { r with header }, some (.ok (some frame)))
      | .error raw => (idle, r, some (.error (Region.unexpected raw .takeRelease)))
  | clear fault => (idle, r.mapHeader .reset, some (.error fault))

/-- A call to take of which nobody sees the middle. -/
inductive Alone : Reader → Region → TakeResult → Region → Prop
  | last {q q' : Reader} {r r' : Region} {result : TakeResult} :
      q.step r = (q', r', some result) → Alone q r result r'
  | more {q q' : Reader} {r r' r'' : Region} {result : TakeResult} :
      q.step r = (q', r', none) → Alone q' r' result r'' → Alone q r result r''

end Reader

/-! ### Undisturbed calls -/

/-- Putting the next byte into a payload whose first bytes are in already. -/
theorem spliceBytes_take_append_drop (data old : Bytes) {i : Nat} (h : i < data.length) :
    spliceBytes (data.take i ++ old.drop i) i [data.getD i 0] =
      data.take (i + 1) ++ old.drop (i + 1) := by
  have before : (data.take i).length = i := by
    rw [List.length_take]
    omega
  have byte : data.getD i 0 = data[i] := by
    rw [List.getD_eq_getElem?_getD, List.getElem?_eq_getElem h]
    rfl
  unfold spliceBytes
  rw [List.take_left' before, List.length_append, before, byte, List.take_add_one,
    List.getElem?_eq_getElem h, List.length_singleton, ← List.drop_drop, List.drop_left' before,
    List.drop_drop]
  simp

/-- Once some bytes are in, the stores of the other bytes complete the payload. -/
theorem Writer.alone_bytes {p : Picture} {replacing : Bool} {c c' : Channel} {result : PublishResult}
    {old : Bytes} (short : old.length ≤ p.data.length) {i : Nat}
    (inside : c.region.payload = p.data.take i ++ old.drop i)
    (rest : Alone (.store p replacing .nbytes) { c with region := { c.region with payload := p.data } }
      result c') :
    Alone (.store p replacing (.afterBytes p.data.length i)) c result c' := by
  -- induction on the number of bytes that are still to come
  induction hn : p.data.length - i generalizing i c with
  | zero =>
      have all : c.region.payload = p.data := by
        rw [inside, List.take_of_length_le (by omega), List.drop_eq_nil_of_le (by omega),
          List.append_nil]
      rw [Store.afterBytes, if_neg (by omega)]
      rwa [← all] at rest
  | succ n ih =>
      have h : i < p.data.length := by omega
      rw [Store.afterBytes, if_pos h]
      refine .more (step_store_of_next replacing rfl) (ih ?_ rest (by omega))
      show spliceBytes c.region.payload i [p.data.getD i 0] = _
      rw [inside, spliceBytes_take_append_drop _ _ h]

/-- Once the slot is claimed, an undisturbed call puts the picture in, and either makes it visible or
stops. -/
theorem Writer.alone_claimed {p : Picture} {replacing : Bool} {c c' : Channel} {result : PublishResult}
    (short : c.region.payload.length ≤ p.data.length)
    (counted : c.region.Countable → Alone (.commit p replacing)
      { c with region := (c.region.stuck p) } result c')
    (ended : ¬ c.region.Countable →
      result = .error .overflow ∧ c' = { c with region := c.region.stuck p }) :
    Alone (.store p replacing (.afterBytes p.data.length 0))
      { c with region := { c.region with
        header := { c.region.header with state := SlotState.writing.raw } } } result c' := by
  refine alone_bytes short (by simp) ?_
  refine .more (step_store_of_next replacing rfl) (.more (step_store_of_next replacing rfl)
    (.more (step_store_of_next replacing rfl) ?_))
  by_cases counts : c.region.Countable
  · exact .more (step_store_of_countable replacing rfl counts) (counted counts)
  · obtain ⟨rfl, rfl⟩ := ended counts
    exact .last (step_store_of_uncountable replacing rfl counts)

/-- Telling about a picture is the last step of a call. -/
theorem Writer.alone_signal (c : Channel) :
    Alone .signal c
      (match c.notifier.signal (.ofEvent .frameWaiting) with
        | .ok _ => .ok .published
        | .error e => .error e)
      (match c.notifier.signal (.ofEvent .frameWaiting) with
        | .ok notifier => { c with notifier }
        | .error _ => c) := by
  refine @Alone.last _ .idle _ _ _ ?_
  simp only [step]
  cases c.notifier.signal (.ofEvent .frameWaiting) <;> rfl

/-- **An undisturbed call to publish is the whole operation.** -/
theorem publish_alone {c : Channel} {p : Picture}
    (fits : p.data.length = c.region.payloadCapacity.toNat)
    (short : c.region.payload.length ≤ p.data.length) :
    Writer.Alone (.claim p) c (c.publish p.data p.width p.height).1
      (c.publish p.data p.width p.height).2 := by
  by_cases empty : c.region.header.state = SlotState.empty.raw
  · refine .more (Writer.step_claim_of_empty p empty) (Writer.alone_claimed short ?_ ?_)
    · intro counts
      refine .more (Writer.step_commit_of_filling p rfl) ?_
      rw [Channel.publish, Region.publish_of_empty fits empty counts]
      have told := Writer.alone_signal { c with region := c.region.filled p }
      dsimp only at told ⊢
      cases signalled : c.notifier.signal (.ofEvent .frameWaiting) <;> rw [signalled] at told <;>
        exact told
    · intro ended
      rw [Channel.publish, Region.publish_of_uncountable fits (Or.inl empty) ended]
      exact ⟨rfl, rfl⟩
  by_cases ready : c.region.header.state = SlotState.ready.raw
  · refine .more (Writer.step_claim_of_ready p ready) (.more (Writer.step_reclaim_of_ready p ready)
      (Writer.alone_claimed short ?_ ?_))
    · intro counts
      rw [Channel.publish, Region.publish_of_ready fits ready counts]
      exact .last (Writer.step_commit_of_replacing p rfl)
    · intro ended
      rw [Channel.publish, Region.publish_of_uncountable fits (Or.inr ready) ended]
      exact ⟨rfl, rfl⟩
  -- In any other state the call ends with its first access.
  have refused : c.region.header.transition .empty .writing = .error c.region.header.state := by
    rw [Header.transition, if_neg empty]
  by_cases reading : c.region.header.state = SlotState.reading.raw
  · have busy : c.region.publish p.data p.width p.height = (.ok .busy, c.region) := by
      simp only [Region.publish, Region.claim?, refused, if_neg (not_not_intro fits),
        if_pos reading]
    rw [Channel.publish, busy]
    exact .last (Writer.step_of_reading (.inl rfl) reading)
  · have unexpected : c.region.publish p.data p.width p.height =
        (.error (Region.unexpected c.region.header.state .publish), c.region) := by
      simp only [Region.publish, Region.claim?, refused, if_neg (not_not_intro fits),
        if_neg reading, if_neg ready]
    rw [Channel.publish, unexpected]
    exact .last (by simp only [Writer.step, refused, if_neg reading, if_neg ready]; rfl)

/-- The copied bytes and those still to come are the bytes that the header describes. -/
theorem Reader.alone_copy {r r' : Region} {n : UInt64} {part : SlotFrame} {result : TakeResult}
    {k : Nat} (inside : part.data = (List.range k).map r.byteAt) (le : k ≤ n.toNat)
    (rest : Alone (.release { part with data := r.readPayload n.toNat }) r result r') :
    Alone (copyRest n part) r result r' := by
  induction hn : n.toNat - k generalizing k part with
  | zero =>
      have all : part.data = r.readPayload n.toNat := by
        rw [inside, Region.readPayload_eq_map, show k = n.toNat by omega]
      rw [copyRest, if_neg (by rw [inside]; simp; omega)]
      rwa [← all] at rest
  | succ m ih =>
      have length : part.data.length = k := by simp [inside]
      rw [copyRest, if_pos (by omega)]
      refine .more rfl (ih (k := k + 1) ?_ (by omega) rest (by omega))
      rw [List.range_succ, List.map_append, length, inside]
      rfl

/-- A header that claims more bytes than there are ends the call with a cleared slot. -/
theorem Reader.alone_oversized {r : Region} (oversized : r.payloadCapacity < r.header.nbytes) :
    Alone .nbytes r (.error (.protocol (.oversizedFrame r.header.nbytes r.payloadCapacity)))
      (r.mapHeader .reset) := by
  have judged : (height r.header.nbytes r.header.width).step r =
      (clear (.protocol (.oversizedFrame r.header.nbytes r.payloadCapacity)), r, none) := by
    simp only [step]
    rw [if_pos oversized]
  exact .more rfl (.more rfl (.more judged (.last rfl)))

/-- Once the slot is claimed, an undisturbed call takes the frame that the header describes. -/
theorem Reader.alone_claimed {r : Region} (state : r.header.state = SlotState.reading.raw)
    (fits : ¬ r.payloadCapacity < r.header.nbytes) :
    Alone .nbytes r (.ok (some r.heldFrame)) r.emptied := by
  have judged : (height r.header.nbytes r.header.width).step r =
      (sequence r.header.nbytes r.header.width r.header.height, r, none) := by
    simp only [step]
    rw [if_neg fits]
  have released : (release r.heldFrame).step r =
      (idle, r.emptied, some (.ok (some r.heldFrame))) := by
    unfold step
    simp only [Header.transition, if_pos state]
    rfl
  refine .more rfl (.more rfl (.more judged (.more rfl ?_)))
  exact alone_copy (k := 0) rfl (Nat.zero_le _) (.last released)

/-- **An undisturbed call to take is the whole operation.** -/
theorem take_alone (r : Region) : Reader.Alone .claim r r.take.1 r.take.2 := by
  by_cases ready : r.header.state = SlotState.ready.raw
  · have claimed : r.header.transition .ready .reading =
        .ok { r.header with state := SlotState.reading.raw } := by
      rw [Header.transition, if_pos ready]
    refine .more (by simp only [Reader.step, claimed]; rfl) ?_
    simp only [Region.take, claimed]
    by_cases oversized : Region.payloadCapacity { r with header := { r.header with
        state := SlotState.reading.raw } } < r.header.nbytes
    · rw [if_pos oversized]
      exact Reader.alone_oversized oversized
    · rw [if_neg oversized]
      exact Reader.alone_claimed rfl oversized
  · have refused : r.header.transition .ready .reading = .error r.header.state := by
      rw [Header.transition, if_neg ready]
    simp only [Region.take, refused]
    by_cases known : (SlotState.ofRaw? r.header.state).isSome
    · rw [if_pos known]
      exact .last (by simp only [Reader.step, refused]; rw [if_pos known])
    · rw [if_neg known]
      exact .more (by simp only [Reader.step, refused]; rw [if_neg known]) (.last rfl)

/-! ### Schedules -/

/-- The picture that an access of the producer claims the slot for. -/
def Writer.claimed? : Writer → Writer → Option Picture
  | .claim p, .store .. => some p
  | .reclaim p, .store .. => some p
  | _, _ => none

/-- Whether an access of the producer commits its picture: the call ends with that, or goes on to tell
about it. -/
def Writer.commits : Writer → Writer → Option PublishResult → Bool
  | .commit .., .signal, _ => true
  | .commit .., _, some (.ok _) => true
  | _, _, _ => false

/-- Whether an access of the reader claims the slot. -/
def Reader.acquires : Reader → Reader → Bool
  | .claim, .nbytes => true
  | _, _ => false

/-- Whether the next access of the producer is a store to the header's fields or to the payload. -/
def Writer.stores : Writer → Bool
  | .store .. => true
  | _ => false

/-- Whether the next access of the reader is a load of a header field or of a byte. -/
def Reader.loads : Reader → Bool
  | .nbytes | .width .. | .height .. | .sequence .. | .copy .. => true
  | _ => false

/-- A producer and a reader at work on one region, and the counter that tells the reader about it.
`claims` are the pictures that claimed the slot, in order; `committed` is the number of the one that was
committed last, and `acquired` the number of the one that was committed last when the reader last
claimed the slot.  `takes` are the results of the calls to take, each with that number. -/
structure Run extends Channel where
  writer : Writer
  reader : Reader
  claims : List Picture
  committed : Nat
  acquired : Nat
  outcomes : List PublishResult
  takes : List (TakeResult × Nat)

/-- What happens next: a call begins, or a call that is under way makes one access; the multiplexer
drains the counter; or the producer announces something else. -/
inductive Turn where
  | publish (p : Picture)
  | write
  | take
  | read
  | drain
  | announce (mask : EventMask)
deriving Repr

namespace Run

/-- Both sides idle. -/
def start (c : Channel) : Run := ⟨c, .idle, .idle, [], 0, 0, [], []⟩

/-- An access of the producer. -/
def write (s : Run) : Run :=
  let (writer, toChannel, result) := s.writer.step s.toChannel
  let claims := s.claims ++ (s.writer.claimed? writer).toList
  { s with
    toChannel, writer, claims
    committed := if s.writer.commits writer result then claims.length else s.committed
    outcomes := s.outcomes ++ result.toList }

/-- An access of the reader. -/
def read (s : Run) : Run :=
  let (reader, region, result) := s.reader.step s.region
  let acquired := if s.reader.acquires reader then s.committed else s.acquired
  { s with
    reader, region, acquired
    takes := s.takes ++ (result.map fun t => (t, acquired)).toList }

/-- What happens next.  A side that is in the middle of a call does not begin another one. -/
def turn (s : Run) : Turn → Run
  | .publish p =>
      if s.writer = .idle then
        { s with
          writer := (Writer.start s.region p).1
          outcomes := s.outcomes ++ (Writer.start s.region p).2.toList }
      else s
  | .write => s.write
  | .take => if s.reader = .idle then { s with reader := .claim } else s
  | .read => s.read
  | .drain => { s with notifier := s.notifier.drain.2 }
  | .announce mask => { s with notifier := ((s.notifier.signal mask).toOption).getD s.notifier }

/-- A schedule. -/
def turns (s : Run) (l : List Turn) : Run := l.foldl turn s

end Run

end FrameMux.Slot
