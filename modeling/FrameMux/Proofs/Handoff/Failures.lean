/-
**What a failed request leaves behind.**

A producer asks its link for three things: to announce events, to negotiate a slot, to publish a
frame.  Each of them can fail, and a caller that is told so would like to be where it was before.  The
naive reading, that an error means nothing happened, is wrong at one point: a negotiation sends its
region before it signals, and a publication makes its frame visible before it signals, so that where
the counter has no room left the effect is there and the answer is an error.  This module shows that
this is the only point.

A call that stops because a picture cannot be counted returns no error at all, so nothing is said here
about what it leaves behind.

Main definitions:

* `FrameMux.SinkRequest`, `FrameMux.Link.request` — what a producer asks for, and what comes of it;
* `FrameMux.Link.Traceless` — a link on which nothing has happened that anybody could notice;
* `FrameMux.Link.Unheard` — **the effect of a request comes about and cannot be told**;
* `FrameMux.SinkAct`, `FrameMux.Link.life` — a link through a sequence of requests, with what the
  other side does in between;
* `FrameMux.Link.sentOver`, `FrameMux.Link.strandedOver` — the messages that it sends, and the regions
  among them that nobody was told about.

Main results:

* `FrameMux.Link.ensureWriter_of_full`, `FrameMux.Link.publish_of_full` — the two effects that stay;
* `FrameMux.Link.request_of_unheard`, `FrameMux.Link.request_of_heard` — how a request fails;
* `FrameMux.Link.accounted_life` — every region on the socket is the writer's or was stranded;
* `FrameMux.Link.traceless_iff_heard` — **a failed request leaves no trace exactly if it is not an
  unheard one**, and over its life a link sends one region for its writer and one for every stranded
  negotiation;
* `FrameMux.Link.negotiation_strands_region` — a failed negotiation that is retried sends two regions.
-/

import FrameMux.Producer.Sink
import FrameMux.Proofs.Handoff.Acceptance
import FrameMux.Proofs.Handoff.Signals

set_option relaxedAutoImplicit false
set_option autoImplicit false

namespace FrameMux

/-! ### Requests -/

/-- What a producer asks of its link.  A frame is no longer than memory can be. -/
inductive SinkRequest where
  | announce (mask : EventMask)
  | negotiate (capacity : UInt64)
  | publish (p : Picture) (addressable : p.data.length < UInt64.size)

/-- The capacity of the slot that a request needs. -/
def SinkRequest.capacity? : SinkRequest → Option UInt64
  | .announce _ => none
  | .negotiate capacity => some capacity
  | .publish p _ => some (UInt64.ofNat p.data.length)

/-- What happens to a link: a request of its producer, or something that the other side does, a
misbehaving one included.  Whenever something may have to be mapped, the system gives some answer. -/
inductive SinkAct where
  | request (mmap : Mmap) (r : SinkRequest)
  | drain
  | receive (mmap : Mmap)
  | take (file : Nat)
  | poke (file offset : Nat) (bytes : Bytes)
  | hangUp

/-- The error of a result, if it is one. -/
def failure? {α : Type} : Except ProducerError α → Option ProducerError
  | .ok _ => none
  | .error e => some e

/-- **The ends of a publication.**  The picture is in the slot, which was empty if it replaces none; or
the region is as it was; or the picture could not be counted. -/
theorem Region.publish_cases (r : Region) (p : Picture) :
    (r.publish p.data p.width p.height = (.ok .published, r.filled p) ∧
      p.data.length = r.payloadCapacity.toNat ∧ r.header.state = SlotState.empty.raw ∧
      r.Countable) ∨
    r.publish p.data p.width p.height = (.ok .replaced, r.filled p) ∨
    (∃ result, r.publish p.data p.width p.height = (result, r) ∧ result ≠ .ok .published) ∨
    r.publish p.data p.width p.height = (.error .overflow, r.stuck p) := by
  by_cases fits : p.data.length = r.payloadCapacity.toNat
  · cases claim : claim? r.header with
    | granted claimed replacing =>
        obtain ⟨state, rfl⟩ := claim?_eq_granted claim
        have ended := publish_of_granted fits claim
        by_cases counts : r.Countable
        · rw [if_pos counts] at ended
          cases replacing with
          | false => exact .inl ⟨ended, fits, state, counts⟩
          | true => exact .inr (.inl ended)
        · rw [if_neg counts] at ended
          exact .inr (.inr (.inr ended))
    | busy =>
        refine .inr (.inr (.inl ⟨.ok .busy, ?_, by simp⟩))
        rw [publish, if_neg (not_not_intro fits), claim]
    | refused raw =>
        refine .inr (.inr (.inl ⟨.error (unexpected raw .publish), ?_, by simp⟩))
        rw [publish, if_neg (not_not_intro fits), claim]
  · exact .inr (.inr (.inl ⟨_, Region.publish_of_length_ne fits, by simp⟩))

namespace Link

variable {mmap : Mmap} {l l' : Link} {capacity : UInt64} {p : Picture} {k : Nat}

/-- Asks something of a link: the error, if the answer is one, and the link afterwards. -/
def request (mmap : Mmap) (l : Link) (r : SinkRequest) : Option ProducerError × Link :=
  let sink : ShmSink := ⟨l, mmap⟩
  match r with
  | .announce mask => (failure? (FrameSink.announce sink mask).1, (FrameSink.announce sink mask).2.link)
  | .negotiate capacity =>
      (failure? (FrameSink.negotiate sink capacity.toNat).1,
        (FrameSink.negotiate sink capacity.toNat).2.link)
  | .publish p _ =>
      (failure? (FrameSink.publish sink p.data p.width p.height).1,
        (FrameSink.publish sink p.data p.width p.height).2.link)

/-- Nothing has happened that anybody could notice: the socket, the counter, whether there is a slot,
and the memory of the slot are as they were. -/
structure Traceless (before after : Link) : Prop where
  control : after.control = before.control
  counter : after.notifier = before.notifier
  negotiated : after.negotiated = before.negotiated
  memory : ∀ k, before.writer = some k →
    after.writer = some k ∧ after.region? k = before.region? k

theorem Traceless.refl (l : Link) : l.Traceless l := ⟨rfl, rfl, rfl, fun _ writer => ⟨writer, rfl⟩⟩

/-- Asked for a slot of a capacity, the link makes a region and sends it: it has no slot yet, the
region can be made, and the other end of the socket is open. -/
def offers (mmap : Mmap) (l : Link) (capacity : UInt64) : Bool :=
  !l.negotiated && (Region.create mmap regionName capacity).isOk && l.control.receiverOpen

/-- The counter has no room for so much more. -/
def full (l : Link) (more : Nat) : Bool := decide (Notifier.limit ≤ l.notifier.counter.toNat + more)

/-- **The effect of a request comes about and cannot be told**: a region is sent, or a frame is put
into an empty slot, or both, and there is no room in the counter to say so. -/
def Unheard (mmap : Mmap) (l : Link) : SinkRequest → Prop
  | .announce _ => False
  | .negotiate capacity => l.offers mmap capacity = true ∧ l.full 4 = true
  | .publish p _ =>
      l.offers mmap (UInt64.ofNat p.data.length) = true ∧ l.full 12 = true ∨
      ∃ k r, l.writer = some k ∧ l.region? k = some r ∧
        p.data.length = r.payloadCapacity.toNat ∧ r.header.state = SlotState.empty.raw ∧
        r.Countable ∧ l.full 8 = true

/-! ### Telling -/

theorem full_eq_false_iff {more : Nat} :
    l.full more = false ↔ l.notifier.counter.toNat + more < Notifier.limit := by
  rw [full, decide_eq_false_iff_not, Nat.not_le]

/-- Where there is room, an event is told. -/
theorem signal_of_room {e : Event} (room : l.full e.bit.toNat = false) :
    l.signal (.ofEvent e) = (.ok (), { l with notifier := ⟨l.notifier.counter + e.bit⟩ }) := by
  have told : l.notifier.signal (.ofEvent e) = .ok ⟨l.notifier.counter + e.bit⟩ :=
    Notifier.signal_eq_ok_iff.2 ⟨full_eq_false_iff.1 room, rfl⟩
  rw [signal, told]

/-- Where there is none, it is not. -/
theorem signal_of_full {e : Event} (full : l.full e.bit.toNat = true) :
    l.signal (.ofEvent e) = (.error (.protocol .saturated), l) := by
  rw [signal, Notifier.signal_of_full (of_decide_eq_true full)]

/-! ### Negotiating -/

/-- The link after a region was sent. -/
def sent (l : Link) (capacity : UInt64) : Link :=
  l.withRegion capacity (l.control.queue ++ [regionMessage capacity l.files.length])

/-- The link after a region was sent and told about. -/
def opened (l : Link) (capacity : UInt64) : Link :=
  { l.sent capacity with
    notifier := ⟨l.notifier.counter + 4⟩
    writer := some l.files.length }

/-- What is offered is sent. -/
theorem sendRegion_of_offers (offers : l.offers mmap capacity = true) :
    l.sendRegion mmap true capacity = (.ok l.files.length, l.sent capacity) := by
  simp only [Link.offers, Bool.and_eq_true] at offers
  obtain ⟨⟨-, makes⟩, receiver⟩ := offers
  cases made : Region.create mmap regionName capacity with
  | error e => rw [made] at makes; cases makes
  | ok region =>
      have holds := (Region.sized_of_create made).held
      have ready := Region.initialise_of_create made
      have posted : l.control.send (regionMessage capacity l.files.length) =
          .ok { l.control with
            queue := l.control.queue ++ [regionMessage capacity l.files.length] } := by
        simp [ControlSocket.send, receiver, regionMessage, littleEndian]
      simp only [sendRegion, made, holds, posted, if_true, ready]
      rfl

/-- A link with a slot, or without an offer, stays as it is: with a slot there is nothing to do, and
without an offer nothing can be done. -/
theorem ensureWriter_of_not_offers (offers : l.offers mmap capacity = false) :
    (∃ result, l.ensureWriter mmap capacity.toNat = (result, l)) ∧
    ((l.ensureWriter mmap capacity.toNat).1 = .ok () ↔ l.negotiated = true) := by
  cases negotiated : l.negotiated with
  | true =>
      rw [ensureWriter_of_negotiated negotiated]
      exact ⟨⟨_, rfl⟩, by simp⟩
  | false =>
      have refused : ∃ e, l.sendRegion mmap true capacity = (.error e, l) := by
        cases made : Region.create mmap regionName capacity with
        | error e => exact ⟨.ofMapError e, by simp only [sendRegion, made]⟩
        | ok region =>
            have closed : l.control.receiverOpen = false := by
              simpa [Link.offers, negotiated, made, Except.isOk, Except.toBool] using offers
            have unsent : ∀ m, l.control.send m = .error .brokenPipe := fun m => by
              simp [ControlSocket.send, closed]
            exact ⟨.negotiation (.sendFailed .brokenPipe), by simp only [sendRegion, made, unsent]⟩
      obtain ⟨e, refused⟩ := refused
      have ended : l.ensureWriter mmap capacity.toNat = (.error e, l) := by
        simp [ensureWriter, negotiated, offer, refused]
      rw [ended]
      exact ⟨⟨_, rfl⟩, by simp⟩

/-- An offer that can be told about opens the slot. -/
theorem ensureWriter_of_room (offers : l.offers mmap capacity = true) (room : l.full 4 = false) :
    l.ensureWriter mmap capacity.toNat = (.ok (), l.opened capacity) := by
  have unopened : l.negotiated = false := by
    simp only [Link.offers, Bool.and_eq_true, Bool.not_eq_true'] at offers
    exact offers.1.1
  have told := signal_of_room (l := l.sent capacity) (e := .regionNegotiated) room
  simp only [ensureWriter, unopened, Bool.false_eq_true, if_false, offer, UInt64.ofNat_toNat,
    sendRegion_of_offers offers, told]
  rfl

/-- **An offer that cannot be told about is on its way all the same.** -/
theorem ensureWriter_of_full (offers : l.offers mmap capacity = true) (full : l.full 4 = true) :
    l.ensureWriter mmap capacity.toNat = (.error (.protocol .saturated), l.sent capacity) := by
  have unopened : l.negotiated = false := by
    simp only [Link.offers, Bool.and_eq_true, Bool.not_eq_true'] at offers
    exact offers.1.1
  have untold := signal_of_full (l := l.sent capacity) (e := .regionNegotiated) full
  simp only [ensureWriter, unopened, Bool.false_eq_true, if_false, offer, UInt64.ofNat_toNat,
    sendRegion_of_offers offers, untold]

/-! ### Publishing -/

section Slot

variable {r : Region} (writer : l.writer = some k) (memory : l.region? k = some r)

include writer memory

/-- A picture put into an empty slot is told about, where there is room. -/
theorem publish_of_room (fits : p.data.length = r.payloadCapacity.toNat)
    (empty : r.header.state = SlotState.empty.raw) (counts : r.Countable)
    (room : l.full 8 = false) :
    l.publish p.data p.width p.height = (some (.ok .published),
      { l.setRegion k (r.filled p) with notifier := ⟨l.notifier.counter + 8⟩ }) := by
  have told :=
    Channel.publish_of_empty (c := ⟨r, l.notifier⟩) fits empty counts (full_eq_false_iff.1 room)
  simp only [publish, writer, memory, told]

/-- **Where there is none, the picture is in the slot all the same.** -/
theorem publish_of_full (fits : p.data.length = r.payloadCapacity.toNat)
    (empty : r.header.state = SlotState.empty.raw) (counts : r.Countable)
    (full : l.full 8 = true) :
    l.publish p.data p.width p.height =
      (some (.error (.protocol .saturated)), l.setRegion k (r.filled p)) := by
  have untold : l.notifier.signal (.ofEvent .frameWaiting) = .error (.protocol .saturated) :=
    Notifier.signal_of_full (of_decide_eq_true full)
  have published : Channel.publish ⟨r, l.notifier⟩ p.data p.width p.height =
      (.error (.protocol .saturated), ⟨r.filled p, l.notifier⟩) := by
    simp only [Channel.publish, Region.publish_of_empty fits empty counts, untold]
  simp only [publish, writer, memory, published]
  rfl

/-- Without an empty slot for the picture, nothing has to be told: a picture is replaced, or nothing
happens, or the call stops. -/
theorem publish_of_not_empty
    (unfit : p.data.length = r.payloadCapacity.toNat → r.header.state = SlotState.empty.raw →
      ¬ r.Countable) :
    l.publish p.data p.width p.height = (some (.ok .replaced), l.setRegion k (r.filled p)) ∨
    (∃ result, l.publish p.data p.width p.height = (some result, l)) ∨
    l.publish p.data p.width p.height = (some (.error .overflow), l.setRegion k (r.stuck p)) := by
  have quiet {result : Except ChannelError PublishOutcome} {r' : Region}
      (ended : r.publish p.data p.width p.height = (result, r')) (other : result ≠ .ok .published) :
      l.publish p.data p.width p.height = (some result, l.setRegion k r') := by
    have published : Channel.publish ⟨r, l.notifier⟩ p.data p.width p.height =
        (result, ⟨r', l.notifier⟩) := by
      rw [Channel.publish, ended]
      split
      · next same => exact absurd (congrArg Prod.fst same) other
      · next same => cases same; rfl
    simp only [publish, writer, memory, published]
    rfl
  rcases r.publish_cases p with ⟨-, fits, empty, counts⟩ | replaced | ⟨result, ended, other⟩ | stopped
  · exact absurd counts (unfit fits empty)
  · exact .inl (quiet replaced (by simp))
  · have kept := quiet ended other
    rw [setRegion_self memory] at kept
    exact .inr (.inl ⟨result, kept⟩)
  · exact .inr (.inr (quiet stopped (by simp)))

end Slot

/-- Unless a picture in an empty slot cannot be told about, publishing succeeds, or changes nothing, or
stops. -/
theorem publish_of_heard
    (heard : ∀ k r, l.writer = some k → l.region? k = some r →
      p.data.length = r.payloadCapacity.toNat → r.header.state = SlotState.empty.raw →
      r.Countable → l.full 8 = false) :
    (l.publish p.data p.width p.height).2 = l ∨
    (∃ outcome l', l.publish p.data p.width p.height = (some (.ok outcome), l')) ∨
    ∃ l', l.publish p.data p.width p.height = (some (.error .overflow), l') := by
  cases writer : l.writer with
  | none => exact .inl (by simp only [publish, writer])
  | some k =>
      cases memory : l.region? k with
      | none => exact .inl (by simp only [publish, writer, memory])
      | some r =>
          by_cases free : p.data.length = r.payloadCapacity.toNat ∧
              r.header.state = SlotState.empty.raw ∧ r.Countable
          · obtain ⟨fits, empty, counts⟩ := free
            have room := heard k r writer memory fits empty counts
            exact .inr (.inl ⟨_, _, publish_of_room writer memory fits empty counts room⟩)
          · have unfit := fun fits empty counts => free ⟨fits, empty, counts⟩
            rcases publish_of_not_empty writer memory unfit with replaced | ⟨result, kept⟩ | stopped
            · exact .inr (.inl ⟨_, _, replaced⟩)
            · exact .inl (by rw [kept])
            · exact .inr (.inr ⟨_, stopped⟩)

/-- A frame goes into the slot that is opened for it. -/
theorem publishFrame_of_publish {result : Except ChannelError PublishOutcome} {l'' : Link}
    (opened : l.ensureWriter mmap p.data.length = (.ok (), l'))
    (published : l'.publish p.data p.width p.height = (some result, l'')) :
    l.publishFrame mmap p.data p.width p.height = (result.mapError .channel, l'') := by
  simp only [publishFrame, opened, published]

/-- Publishing is the last thing that happens to the link. -/
theorem publishFrame_snd (opened : l.ensureWriter mmap p.data.length = (.ok (), l')) :
    (l.publishFrame mmap p.data p.width p.height).2 = (l'.publish p.data p.width p.height).2 := by
  simp only [publishFrame, opened]
  split
  · next ended => rw [ended]
  · next ended => rw [ended]

/-- Without a slot there is nothing to put a frame into. -/
theorem publishFrame_of_error {e : ChannelError}
    (failed : l.ensureWriter mmap p.data.length = (.error e, l')) :
    l.publishFrame mmap p.data p.width p.height = (.error (.channel e), l') := by
  simp only [publishFrame, failed]

/-! ### One request -/

/-- A region that is sent is noticed. -/
theorem not_traceless_of_queue {m : SocketMessage}
    (queue : l'.control.queue = l.control.queue ++ [m]) : ¬ l.Traceless l' := by
  intro traceless
  rw [traceless.control] at queue
  exact absurd (congrArg List.length queue) (by simp)

/-- The slot that is opened. -/
theorem region?_opened (l : Link) (capacity : UInt64) :
    (l.opened capacity).region? l.files.length = some (Region.prepared capacity) :=
  Option.map_eq_some_iff.2 ⟨_, l.files_withRegion capacity
    (l.control.queue ++ [regionMessage capacity l.files.length]), rfl⟩

/-- Opening a slot takes room for one event; twelve are room for two. -/
theorem full_opened (room : l.full 4 = false) : (l.opened capacity).full 8 = l.full 12 := by
  have below := full_eq_false_iff.1 room
  have sum : (l.notifier.counter + 4).toNat = l.notifier.counter.toNat + 4 := by
    rw [UInt64.toNat_add]
    exact Nat.mod_eq_of_lt (Nat.lt_of_lt_of_le below (Nat.sub_le _ _))
  show decide (Notifier.limit ≤ (l.notifier.counter + 4).toNat + 8) = _
  rw [sum, Nat.add_assoc, full]

theorem full_mono {more most : Nat} (le : more ≤ most) (room : l.full most = false) :
    l.full more = false := by
  rw [full_eq_false_iff] at room ⊢
  omega

/-- The length of a picture as a capacity. -/
theorem toNat_ofNat_length (addressable : p.data.length < UInt64.size) :
    (UInt64.ofNat p.data.length).toNat = p.data.length :=
  UInt64.toNat_ofNat_of_lt' addressable

/-- A region that is made for a picture fits it. -/
theorem fits_prepared (addressable : p.data.length < UInt64.size) :
    p.data.length = (Region.prepared (UInt64.ofNat p.data.length)).payloadCapacity.toNat := by
  rw [Region.payloadCapacity_prepared, toNat_ofNat_length addressable]

/-- **What is unheard is an error that leaves a trace.** -/
theorem request_of_unheard {r : SinkRequest} (unheard : l.Unheard mmap r) :
    (l.request mmap r).1 = some (.channel (.protocol .saturated)) ∧
      ¬ l.Traceless (l.request mmap r).2 := by
  cases r with
  | announce mask => exact unheard.elim
  | negotiate capacity =>
      obtain ⟨offers, full⟩ := unheard
      have ended : l.request mmap (.negotiate capacity) =
          (some (.channel (.protocol .saturated)), l.sent capacity) := by
        simp only [request, FrameSink.negotiate, ensureWriter_of_full offers full]
        rfl
      rw [ended]
      exact ⟨rfl, not_traceless_of_queue rfl⟩
  | publish p addressable =>
      have capacity := toNat_ofNat_length addressable
      -- It is the publication's last step that fails, wherever it fails.
      have of_error {l' : Link}
          (ended : l.publishFrame mmap p.data p.width p.height =
            (.error (.channel (.protocol .saturated)), l')) (trace : ¬ l.Traceless l') :
          (l.request mmap (.publish p addressable)).1 = some (.channel (.protocol .saturated)) ∧
          ¬ l.Traceless (l.request mmap (.publish p addressable)).2 := by
        simp only [request, FrameSink.publish, ended]
        exact ⟨rfl, trace⟩
      rcases unheard with ⟨offers, full⟩ | ⟨k, r, writer, memory, fits, empty, counts, full⟩
      · cases room : l.full 4 with
        | true =>
            have failed := ensureWriter_of_full offers room
            rw [capacity] at failed
            exact of_error (publishFrame_of_error failed) (not_traceless_of_queue rfl)
        | false =>
            have opened := ensureWriter_of_room offers room
            rw [capacity] at opened
            have filled := publish_of_full rfl (region?_opened l _) (fits_prepared addressable) rfl
              (Region.countable_prepared _) ((full_opened room).trans full)
            exact of_error (publishFrame_of_publish opened filled) (not_traceless_of_queue rfl)
      · have negotiated : l.negotiated = true := by simp [Link.negotiated, writer]
        have filled := publish_of_full writer memory fits empty counts full
        refine of_error (publishFrame_of_publish (ensureWriter_of_negotiated negotiated _ _) filled) ?_
        intro traceless
        have same := (traceless.memory k writer).2
        rw [memory, region?_setRegion memory] at same
        have state : SlotState.ready.raw = r.header.state :=
          congrArg (fun region => region.header.state) (Option.some.inj same)
        rw [empty] at state
        cases state

/-- **Any other error leaves the link as it was.** -/
theorem request_of_heard {r : SinkRequest} (heard : ¬ l.Unheard mmap r) {e : ProducerError}
    (failed : (l.request mmap r).1 = some e) (returned : e ≠ .channel .overflow) :
    (l.request mmap r).2 = l := by
  cases r with
  | announce mask =>
      simp only [request, FrameSink.announce, announce, signal] at failed ⊢
      split at failed
      · cases failed
      · rfl
  | negotiate capacity =>
      simp only [request, FrameSink.negotiate] at failed ⊢
      cases offers : l.offers mmap capacity with
      | true =>
          have room : l.full 4 = false := eq_false_of_ne_true fun full => heard ⟨offers, full⟩
          rw [ensureWriter_of_room offers room] at failed
          cases failed
      | false =>
          obtain ⟨⟨result, ended⟩, -⟩ := ensureWriter_of_not_offers offers
          rw [ended]
  | publish p addressable =>
      have capacity := toNat_ofNat_length addressable
      simp only [request, FrameSink.publish] at failed ⊢
      cases offers : l.offers mmap (UInt64.ofNat p.data.length) with
      | true =>
          have room : l.full 12 = false :=
            eq_false_of_ne_true fun full => heard (.inl ⟨offers, full⟩)
          have room₄ := full_mono (by decide : 4 ≤ 12) room
          have opened := ensureWriter_of_room offers room₄
          rw [capacity] at opened
          have told := publish_of_room rfl (region?_opened l _) (fits_prepared addressable) rfl
            (Region.countable_prepared _) ((full_opened room₄).trans room)
          rw [publishFrame_of_publish opened told] at failed
          cases failed
      | false =>
          obtain ⟨⟨result, ended⟩, -⟩ := ensureWriter_of_not_offers offers
          rw [capacity] at ended
          cases result with
          | error e => rw [publishFrame_of_error ended]
          | ok done =>
              have heard' : ∀ k r, l.writer = some k → l.region? k = some r →
                  p.data.length = r.payloadCapacity.toNat →
                  r.header.state = SlotState.empty.raw → r.Countable → l.full 8 = false :=
                fun k r writer memory fits empty counts => eq_false_of_ne_true fun full =>
                  heard (.inr ⟨k, r, writer, memory, fits, empty, counts, full⟩)
              rcases publish_of_heard heard' with kept | ⟨outcome, l', done⟩ | ⟨l', stopped⟩
              · rw [publishFrame_snd ended, kept]
              · rw [publishFrame_of_publish ended done] at failed
                cases failed
              · rw [publishFrame_of_publish ended stopped] at failed
                cases failed
                exact absurd rfl returned

/-! ### What a request sends -/

/-- The capacity of the region that a request makes the link send, if it does. -/
def offer? (mmap : Mmap) (l : Link) (r : SinkRequest) : Option UInt64 :=
  r.capacity?.filter (l.offers mmap)

/-- The link after the part of a request that is about the socket. -/
def offered (mmap : Mmap) (l : Link) (r : SinkRequest) : Link :=
  match l.offer? mmap r with
  | none => l
  | some capacity => if l.full 4 then l.sent capacity else l.opened capacity

/-- Counter and memory aside, nothing changes: what was sent, how many files there are, and which of
them is published into. -/
structure Steady (before after : Link) : Prop where
  control : after.control = before.control
  files : after.files.length = before.files.length
  writer : after.writer = before.writer

theorem Steady.refl (l : Link) : l.Steady l := ⟨rfl, rfl, rfl⟩

theorem steady_setRegion (l : Link) (file : Nat) (r : Region) (n : Notifier) :
    l.Steady { l.setRegion file r with notifier := n } :=
  ⟨rfl, List.length_modify .., rfl⟩

theorem steady_publish (l : Link) (p : Picture) :
    l.Steady (l.publish p.data p.width p.height).2 := by
  unfold publish
  split
  · exact .refl l
  · split
    · exact .refl l
    · exact steady_setRegion ..

theorem steady_signal (l : Link) (mask : EventMask) : l.Steady (l.signal mask).2 := by
  unfold signal
  split
  · exact ⟨rfl, rfl, rfl⟩
  · exact .refl l

/-- Asking for a slot makes the link send what it offers, and nothing else. -/
theorem ensureWriter_offered (mmap : Mmap) (l : Link) {r : SinkRequest}
    (needs : r.capacity? = some capacity) :
    (l.ensureWriter mmap capacity.toNat).2 = l.offered mmap r := by
  cases offers : l.offers mmap capacity with
  | false =>
      have none : l.offer? mmap r = none := by simp [offer?, needs, Option.filter, offers]
      obtain ⟨⟨result, ended⟩, -⟩ := ensureWriter_of_not_offers offers
      rw [ended, offered, none]
  | true =>
      have some : l.offer? mmap r = some capacity := by simp [offer?, needs, Option.filter, offers]
      rw [offered, some]
      cases full : l.full 4 with
      | true => rw [ensureWriter_of_full offers full]; rfl
      | false => rw [ensureWriter_of_room offers full]; rfl

/-- **Beyond what it offers, a request sends nothing.** -/
theorem request_steady (mmap : Mmap) (l : Link) (r : SinkRequest) :
    (l.offered mmap r).Steady (l.request mmap r).2 := by
  cases r with
  | announce mask => exact steady_signal l mask
  | negotiate capacity =>
      rw [← ensureWriter_offered mmap l rfl]
      exact .refl _
  | publish p addressable =>
      have same := ensureWriter_offered mmap l (r := .publish p addressable) rfl
      rw [toNat_ofNat_length addressable] at same
      rw [← same]
      show Steady _ (l.publishFrame mmap p.data p.width p.height).2
      cases ended : l.ensureWriter mmap p.data.length with
      | mk result l' =>
          cases result with
          | error e =>
              rw [publishFrame_of_error ended]
              exact .refl l'
          | ok done =>
              rw [publishFrame_snd ended]
              exact steady_publish l' p

/-! ### The life of a link -/

/-- A link after something happened to it. -/
def act (l : Link) : SinkAct → Link
  | .request mmap r => (l.request mmap r).2
  | .drain => l.drain.2
  | .receive mmap => (l.receiveRegion mmap).2
  | .take file => (l.take file).2
  | .poke file offset bytes => l.poke file offset bytes
  | .hangUp => l.closeReceiver

/-- **A link through a sequence of requests**, from when it was made. -/
def life (acts : List SinkAct) : Link := acts.foldl act fresh

/-- What is put on the socket. -/
def sending (l : Link) : SinkAct → List SocketMessage
  | .request mmap r => (l.request mmap r).2.control.queue.drop l.control.queue.length
  | _ => []

/-- Whether a region is sent that nobody is told about. -/
def strands (l : Link) : SinkAct → Bool
  | .request mmap r => (l.offer? mmap r).isSome && l.full 4
  | _ => false

/-- All that is put on the socket in a sequence of requests. -/
def sentOver : Link → List SinkAct → List SocketMessage
  | _, [] => []
  | l, a :: rest => l.sending a ++ sentOver (l.act a) rest

/-- How many regions are sent in a sequence of requests without anybody being told. -/
def strandedOver : Link → List SinkAct → Nat
  | _, [] => 0
  | l, a :: rest => (l.strands a).toNat + strandedOver (l.act a) rest

/-- What was sent is every file once, in turn; every file was stranded but the writer's, and the
writer's is the last. -/
structure Accounted (l : Link) (sent : List SocketMessage) (stranded : Nat) : Prop where
  numbered : sent.map (·.descriptors) = (List.range l.files.length).map fun k => [.memory k .readWrite]
  balance : l.files.length = stranded + l.negotiated.toNat
  last : ∀ k, l.writer = some k → k + 1 = l.files.length

/-- Nothing was sent over a new link. -/
theorem accounted_fresh : fresh.Accounted [] 0 := ⟨rfl, rfl, fun _ writer => by cases writer⟩

/-- What leaves files and writer alone leaves the account alone. -/
theorem Accounted.same {sent : List SocketMessage} {stranded : Nat} (h : l.Accounted sent stranded)
    (files : l'.files.length = l.files.length) (writer : l'.writer = l.writer) :
    l'.Accounted sent stranded where
  numbered := by rw [files, h.numbered]
  balance := by rw [files, h.balance, negotiated, negotiated, writer]
  last := by rw [files, writer]; exact h.last

/-- An offer sends one file, which is stranded or becomes the writer's. -/
theorem Accounted.offered {sent : List SocketMessage} {stranded : Nat}
    (h : l.Accounted sent stranded) (mmap : Mmap) (r : SinkRequest) :
    (l.offered mmap r).Accounted (sent ++ (l.offered mmap r).control.queue.drop l.control.queue.length)
      (stranded + ((l.offer? mmap r).isSome && l.full 4).toNat) := by
  unfold Link.offered
  cases offer : l.offer? mmap r with
  | none => simpa using h
  | some capacity =>
      have unopened : l.negotiated = false := by
        have offers : l.offers mmap capacity = true := (Option.filter_eq_some_iff.1 offer).2
        simp only [Link.offers, Bool.and_eq_true, Bool.not_eq_true'] at offers
        exact offers.1.1
      have balance := h.balance
      rw [unopened] at balance
      have files : (l.sent capacity).files.length = l.files.length + 1 := by
        simp [Link.sent, withRegion]
      have posted : (l.sent capacity).control.queue.drop l.control.queue.length =
          [regionMessage capacity l.files.length] := by
        simp [Link.sent, withRegion]
      have numbered : (sent ++ [regionMessage capacity l.files.length]).map (·.descriptors) =
          (List.range (l.files.length + 1)).map fun k => [Descriptor.memory k .readWrite] := by
        rw [List.map_append, h.numbered, List.range_succ, List.map_append]
        rfl
      cases l.full 4 with
      | true =>
          show (l.sent capacity).Accounted
            (sent ++ (l.sent capacity).control.queue.drop l.control.queue.length) (stranded + 1)
          have still : (l.sent capacity).negotiated = false := unopened
          refine ⟨by rw [posted, files, numbered], by rw [files, balance, still]; rfl, ?_⟩
          intro k writer
          have none : l.writer = none := by simpa [negotiated] using unopened
          cases none.symm.trans writer
      | false =>
          show (l.opened capacity).Accounted
            (sent ++ (l.sent capacity).control.queue.drop l.control.queue.length) (stranded + 0)
          refine ⟨by rw [posted, numbered, ← files]; rfl, files.trans (by rw [balance]; rfl), ?_⟩
          intro k writer
          cases writer
          exact files.symm

/-- **Whatever happens to a link, it stays accounted for.** -/
theorem Accounted.act {sent : List SocketMessage} {stranded : Nat} (h : l.Accounted sent stranded)
    (a : SinkAct) : (l.act a).Accounted (sent ++ l.sending a) (stranded + (l.strands a).toNat) := by
  have aside {a : SinkAct} (quiet : l.sending a = []) (told : l.strands a = false)
      (files : (l.act a).files.length = l.files.length) (writer : (l.act a).writer = l.writer) :
      (l.act a).Accounted (sent ++ l.sending a) (stranded + (l.strands a).toNat) := by
    rw [quiet, told, List.append_nil]
    exact h.same files writer
  cases a with
  | request mmap r =>
      have steady := l.request_steady mmap r
      have offered := h.offered mmap r
      rw [← steady.control] at offered
      exact offered.same steady.files steady.writer
  | drain => exact aside rfl rfl rfl rfl
  | receive mmap =>
      refine aside rfl rfl ?_ ?_ <;> simp only [Link.act, receiveRegion] <;> split <;> rfl
  | take file =>
      refine aside rfl rfl ?_ ?_ <;> simp only [Link.act, take] <;> split <;>
        simp [setRegion]
  | poke file offset bytes => exact aside rfl rfl (List.length_modify ..) rfl
  | hangUp => exact aside rfl rfl rfl rfl

/-- **Every region on the socket is the writer's or was stranded**, over the life of a link. -/
theorem accounted_life (acts : List SinkAct) :
    (life acts).Accounted (sentOver fresh acts) (strandedOver fresh acts) := by
  have along (acts : List SinkAct) : ∀ {l : Link} {sent : List SocketMessage} {stranded : Nat},
      l.Accounted sent stranded →
      (acts.foldl act l).Accounted (sent ++ sentOver l acts) (stranded + strandedOver l acts) := by
    induction acts with
    | nil =>
        intro l sent stranded h
        simpa [sentOver, strandedOver] using h
    | cons a rest ih =>
        intro l sent stranded h
        have rest := ih (h.act a)
        rwa [List.append_assoc, Nat.add_assoc] at rest
  have account := along acts accounted_fresh
  rwa [List.nil_append, Nat.zero_add] at account

/-! ### The theorem -/

/-- A request for a slot succeeds if there is one, or if one is offered and can be told about. -/
theorem request_negotiate_eq_none_iff :
    (l.request mmap (.negotiate capacity)).1 = none ↔
      l.negotiated = true ∨ l.offers mmap capacity = true ∧ l.full 4 = false := by
  show failure? ((l.ensureWriter mmap capacity.toNat).1.mapError _) = none ↔ _
  cases offers : l.offers mmap capacity with
  | false =>
      obtain ⟨-, ok_iff⟩ := ensureWriter_of_not_offers offers
      rw [← ok_iff]
      cases (l.ensureWriter mmap capacity.toNat).1 <;> simp [failure?, Except.mapError]
  | true =>
      have unopened : l.negotiated = false := by
        simp only [Link.offers, Bool.and_eq_true, Bool.not_eq_true'] at offers
        exact offers.1.1
      cases full : l.full 4 with
      | true =>
          rw [ensureWriter_of_full offers full]
          simp [failure?, Except.mapError, unopened]
      | false =>
          rw [ensureWriter_of_room offers full]
          simp [failure?, Except.mapError]

/-- **A failed request leaves no trace exactly if it is not an unheard one.**  Whatever the state of a
link, its socket, its counter and its memory, and whatever the system says to a mapping: a request whose
effect cannot be told fails, and its effect is there; any other that returns an error leaves the link as
it was, so it can be made again, and a negotiation succeeds as soon as its region can be made, sent and
told about.

Over the life of a link, whatever its producer asks for and whatever the other side does: each region
goes over the socket once, in turn; all of them were stranded by an unheard request but the one that is
published into, which is the last.  So one region is sent if and only if none was stranded. -/
theorem traceless_iff_heard (mmap : Mmap) (l : Link) (r : SinkRequest) (acts : List SinkAct) :
    (l.Unheard mmap r → (l.request mmap r).1 = some (.channel (.protocol .saturated)) ∧
      ¬ l.Traceless (l.request mmap r).2) ∧
    (∀ e, (l.request mmap r).1 = some e → e ≠ .channel .overflow →
      (l.Traceless (l.request mmap r).2 ↔ ¬ l.Unheard mmap r) ∧
        (¬ l.Unheard mmap r → (l.request mmap r).2 = l)) ∧
    (∀ capacity, (l.request mmap (.negotiate capacity)).1 = none ↔
      l.negotiated = true ∨ l.offers mmap capacity = true ∧ l.full 4 = false) ∧
    (sentOver fresh acts).map (·.descriptors) =
      (List.range (life acts).files.length).map (fun k => [.memory k .readWrite]) ∧
    (sentOver fresh acts).length = strandedOver fresh acts + (life acts).negotiated.toNat ∧
    ∀ k, (life acts).writer = some k →
      (sentOver fresh acts).getLast?.map (·.descriptors) = some [.memory k .readWrite] ∧
      ((sentOver fresh acts).length = 1 ↔ strandedOver fresh acts = 0) := by
  have account := accounted_life acts
  have files : (sentOver fresh acts).length = (life acts).files.length := by
    have lengths := congrArg List.length account.numbered
    rwa [List.length_map, List.length_map, List.length_range] at lengths
  have balance := files.trans account.balance
  refine ⟨request_of_unheard, ?_, fun capacity => request_negotiate_eq_none_iff,
    account.numbered, balance, ?_⟩
  · intro e failed returned
    refine ⟨⟨fun traceless unheard => (request_of_unheard unheard).2 traceless, fun heard => ?_⟩,
      fun heard => request_of_heard heard failed returned⟩
    rw [request_of_heard heard failed returned]
    exact .refl l
  · intro k writer
    have negotiated : (life acts).negotiated = true := by simp [Link.negotiated, writer]
    refine ⟨?_, ?_⟩
    · rw [← List.getLast?_map, account.numbered, ← account.last k writer, List.range_succ,
        List.map_append]
      exact List.getLast?_concat
    · rw [balance, negotiated]
      simp

/-- A counter that is signalled full, and a producer that negotiates, is told that it failed, and
negotiates again once the counter was drained; the other side receives a region, and a frame is
published. -/
def retried : List SinkAct :=
  [.request .linux (.announce ⟨18446744073709551614⟩), .request .linux (.negotiate 4), .drain,
    .request .linux (.negotiate 4), .receive .linux,
    .request .linux (.publish ⟨[1, 1, 1, 1], 1, 1⟩ (by decide))]

theorem traceless_iff_heard_rehearsed :
    (¬ (life (retried.take 1)).Traceless (life (retried.take 2))) ∧
    ((life (retried.take 3)).request .linux (.negotiate 4)).1 = none ∧
    (sentOver fresh retried).map (·.descriptors) = [[.memory 0 .readWrite], [.memory 1 .readWrite]] := by
  obtain ⟨unheard, -, negotiates, sent, -, -⟩ :=
    traceless_iff_heard .linux (life (retried.take 1)) (.negotiate 4) retried
  obtain ⟨-, -, again, -⟩ :=
    traceless_iff_heard .linux (life (retried.take 3)) (.negotiate 4) retried
  refine ⟨(unheard ⟨by decide +kernel, by decide +kernel⟩).2, ?_, sent.trans (by decide +kernel)⟩
  exact (again 4).2 (.inr ⟨by decide +kernel, by decide +kernel⟩)

/-- **A failed negotiation that is retried sends two regions**: the call that fails has put one on the
socket, and it is that one which the other side receives, while the frame goes into the second. -/
theorem negotiation_strands_region :
    ((life (retried.take 1)).request .linux (.negotiate 4)).1 = some (.channel (.protocol .saturated)) ∧
    ((life (retried.take 1)).request .linux (.negotiate 4)).2.control ≠ (life (retried.take 1)).control ∧
    (sentOver fresh retried).length = 2 ∧ (life retried).writer = some 1 ∧
    ((life (retried.take 4)).receiveRegion .linux).1 = .ok 0 ∧
    ((life (retried.take 5)).request .linux (.publish ⟨[1, 1, 1, 1], 1, 1⟩ (by decide))).1 = none ∧
    ((life retried).take 0).1 = .ok none := by
  refine ⟨?_, ?_, ?_, ?_, ?_, ?_, ?_⟩ <;> decide +kernel

end Link

end FrameMux
