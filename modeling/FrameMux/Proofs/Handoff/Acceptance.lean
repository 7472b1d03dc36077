/-
**Which regions are accepted.**

The multiplexer maps a region only after it has checked the message that brought it, the descriptor in
the message, the seals and the size of the file, and the header.  The checks come in an order, and a
later one relies on an earlier one; together they amount to a plain description of what is accepted.
One function at a time, this module reads the description off the checks, and then follows a region
from the producer that makes it to the multiplexer that maps it.

The last word is the system's: it may refuse to map a file that passed every check.  Its answer is a
parameter here, of which no more is assumed than that it refuses what it documents to refuse, and it
need not be the same for both sides.

Main definitions:

* `FrameMux.MemoryFile.Fit` — a file that can serve as a region of an announced capacity;
* `FrameMux.Link.Brings` — **the next read brings a valid message** about a file;
* `FrameMux.Link.Maps` — the system maps the file.

Main results:

* `FrameMux.MemoryFile.checkUsable_eq_ok_iff`, `FrameMux.Link.checkMessage_eq_ok_iff`,
  `FrameMux.Link.checkRegion_eq_ok_iff`, `FrameMux.Link.receiveRegion_eq_ok_iff` — what passes each
  check;
* `FrameMux.Link.sendRegion_eq`, `FrameMux.Link.receiveRegion_withRegion` — a region on its way over the
  socket;
* `FrameMux.Link.publish_then_take` — what is published on one side is taken on the other;
* `FrameMux.Link.regions_accepted_exactly` — **exactly the valid messages are accepted**, and a region
  that is made, sent and received is one memory on both sides;
* `FrameMux.Link.unmappable_refused` — a file that cannot be mapped is not accepted.
-/

import FrameMux.Proofs.Handoff.Halves
import FrameMux.Proofs.Handoff.Register

set_option relaxedAutoImplicit false
set_option autoImplicit false

namespace FrameMux

/-! ### The checks one by one -/

/-- A natural read from bytes is as short as they are. -/
theorem ofLittleEndian_lt (bytes : List UInt8) : ofLittleEndian bytes < 256 ^ bytes.length := by
  induction bytes with
  | nil => exact Nat.one_pos
  | cons b bytes ih =>
      have small : b.toNat < 256 := b.toNat_lt
      rw [ofLittleEndian, List.length_cons, Nat.pow_succ]
      omega

namespace MemoryFile

/-- A file can serve as a region: its size is final and leaves room behind the header, it can be written
to, it has the announced capacity, and its header is a region's. -/
structure Fit (file : MemoryFile) (announced : Nat) : Prop where
  noShrink : file.seals.noShrink = true
  noGrow : file.seals.noGrow = true
  writable : file.seals.noWrite = false
  beyond : Header.size.toNat < file.region.length.toNat
  announced : announced = file.region.length.toNat - Header.size.toNat
  magic : file.region.header.magic = Header.magicWord

/-- What passes for a usable file. -/
theorem checkUsable_eq_ok_iff {mmap : Mmap} {access : Access} {file : MemoryFile} :
    file.checkUsable mmap access = .ok () ↔
      file.seals.noShrink = true ∧ file.seals.noGrow = true ∧
      Header.size.toNat < file.region.length.toNat ∧
      mmap file.seals access file.region.length = .ok () := by
  have short_iff : ¬ file.region.length ≤ Header.size ↔
      Header.size.toNat < file.region.length.toNat := by
    rw [UInt64.le_iff_toNat_le, Nat.not_le]
  constructor
  · intro passed
    unfold checkUsable at passed
    split at passed
    · cases passed
    · next final =>
        obtain ⟨noShrink, noGrow⟩ : file.seals.noShrink = true ∧ file.seals.noGrow = true := by
          simpa using final
        split at passed
        · cases passed
        · next beyond =>
            split at passed
            · cases passed
            · next granted => exact ⟨noShrink, noGrow, short_iff.1 beyond, granted⟩
  · rintro ⟨noShrink, noGrow, beyond, granted⟩
    unfold checkUsable
    rw [if_neg (by simp [noShrink, noGrow]), if_neg (short_iff.2 beyond), granted]

end MemoryFile

/-- Nothing was published into a prepared region yet. -/
theorem Region.countable_prepared (capacity : UInt64) : (Region.prepared capacity).Countable := by
  show (0 : UInt64).toNat + 1 < UInt64.size
  decide

namespace Link

variable {mmap : Mmap} {l : Link} {bytes : Bytes} {descriptors : List Descriptor} {k : Nat}

/-- What passes for a message. -/
theorem checkMessage_eq_ok_iff {descriptor : Descriptor} :
    checkMessage bytes descriptors = .ok descriptor ↔
      descriptors = [descriptor] ∧ bytes.length = messageLength := by
  constructor
  · intro passed
    unfold checkMessage at passed
    split at passed
    · cases passed
    · split at passed
      · cases passed
      · next few =>
          split at passed
          · cases passed
          · next length =>
              cases descriptors with
              | nil => cases passed
              | cons first rest =>
                  cases passed
                  have none_left : rest = [] := by
                    rw [← List.length_eq_zero_iff]
                    simp only [List.length_cons] at few
                    omega
                  exact ⟨by rw [none_left], Decidable.not_not.1 length⟩
  · rintro ⟨rfl, length⟩
    unfold checkMessage
    rw [if_neg (by simp [descriptorRoom]), if_neg (by simp), if_neg (not_not_intro length)]

/-- What passes for a region. -/
theorem checkRegion_eq_ok_iff {announced : UInt64} {descriptor : Descriptor} :
    l.checkRegion mmap announced descriptor = .ok k ↔
      ∃ access, descriptor = .memory k access ∧ ∃ file, l.files[k]? = some file ∧
        file.checkUsable mmap access = .ok () ∧
        file.region.payloadCapacity = announced ∧ file.region.header.magic = Header.magicWord := by
  constructor
  · intro passed
    unfold checkRegion at passed
    split at passed
    · cases passed
    · next number access =>
        split at passed
        · cases passed
        · next file there =>
            split at passed
            · cases passed
            · next usable =>
                split at passed
                · cases passed
                · next same =>
                    split at passed
                    · cases passed
                    · next magic =>
                        cases passed
                        exact ⟨access, rfl, file, there, usable, Decidable.not_not.1 same,
                          Decidable.not_not.1 magic⟩
  · rintro ⟨access, rfl, file, there, usable, same, magic⟩
    simp only [checkRegion, there, usable]
    rw [if_neg (not_not_intro same), if_neg (not_not_intro magic)]

/-- **The next read brings a valid message** about a file: the bytes of a word, and one descriptor, which
grants some access to a memory file that is fit for the capacity that the word announces. -/
def Brings (l : Link) (k : Nat) (access : Access) : Prop :=
  ∃ bytes control file,
    l.control.receive messageLength = (.ok (bytes, [.memory k access]), control) ∧
    bytes.length = messageLength ∧ l.files[k]? = some file ∧ file.Fit (ofLittleEndian bytes)

/-- The system maps a file, through a descriptor that grants some access to it. -/
def Maps (mmap : Mmap) (l : Link) (k : Nat) (access : Access) : Prop :=
  ∀ file, l.files[k]? = some file → mmap file.seals access file.region.length = .ok ()

/-- What a read of a message comes to. -/
theorem receiveRegion_of_read {control : ControlSocket}
    (read : l.control.receive messageLength = (.ok (bytes, descriptors), control)) :
    l.receiveRegion mmap =
      (((checkMessage bytes descriptors).bind
        (l.checkRegion mmap (UInt64.ofNat (ofLittleEndian bytes)))).mapError .negotiation,
        { l with control }) := by
  unfold receiveRegion
  rw [read]
  dsimp only
  cases checkMessage bytes descriptors <;> rfl

/-- What is not read is not accepted. -/
theorem receiveRegion_of_unread (mmap : Mmap) {idle : ControlSocket.Idle} {control : ControlSocket}
    (unread : l.control.receive messageLength = (.error idle, control)) :
    ∃ fault, l.receiveRegion mmap = (.error (.negotiation fault), l) := by
  unfold receiveRegion
  rw [unread]
  cases idle with
  | nothingYet => exact ⟨_, rfl⟩
  | closed => exact ⟨_, rfl⟩

/-- The capacity of a file is the announced one exactly if they are the same number. -/
theorem payloadCapacity_eq_iff {r : Region} (length : bytes.length = messageLength)
    (beyond : Header.size.toNat < r.length.toNat) :
    r.payloadCapacity = UInt64.ofNat (ofLittleEndian bytes) ↔
      ofLittleEndian bytes = r.length.toNat - Header.size.toNat := by
  have small : ofLittleEndian bytes < UInt64.size := by
    have below := ofLittleEndian_lt bytes
    rwa [length] at below
  rw [← UInt64.toNat_inj, UInt64.toNat_ofNat_of_lt' small, Region.payloadCapacity,
    UInt64.toNat_sub_of_le _ _ (UInt64.le_iff_toNat_le.2 (Nat.le_of_lt beyond))]
  exact eq_comm

/-- A file passes the checks for the word of a message exactly if it is fit for the capacity that the
word announces, and the system maps it. -/
theorem fit_iff (documented : mmap.Documented) {access : Access} {file : MemoryFile}
    (length : bytes.length = messageLength) :
    (file.checkUsable mmap access = .ok () ∧
      file.region.payloadCapacity = UInt64.ofNat (ofLittleEndian bytes) ∧
      file.region.header.magic = Header.magicWord) ↔
    file.Fit (ofLittleEndian bytes) ∧ mmap file.seals access file.region.length = .ok () := by
  rw [MemoryFile.checkUsable_eq_ok_iff]
  constructor
  · rintro ⟨⟨noShrink, noGrow, beyond, granted⟩, announced, magic⟩
    have writable : file.seals.noWrite = false := by
      cases sealed : file.seals.noWrite with
      | false => rfl
      | true => exact absurd granted (documented.noWrite _ _ _ sealed)
    exact ⟨⟨noShrink, noGrow, writable, beyond, (payloadCapacity_eq_iff length beyond).1 announced,
      magic⟩, granted⟩
  · rintro ⟨fit, granted⟩
    exact ⟨⟨fit.noShrink, fit.noGrow, fit.beyond, granted⟩,
      (payloadCapacity_eq_iff length fit.beyond).2 fit.announced, fit.magic⟩

/-- What passes all checks. -/
theorem checked_eq_ok_iff (documented : mmap.Documented) :
    (checkMessage bytes descriptors).bind
        (l.checkRegion mmap (UInt64.ofNat (ofLittleEndian bytes))) = .ok k ↔
      ∃ access, descriptors = [.memory k access] ∧ bytes.length = messageLength ∧
        ∃ file, l.files[k]? = some file ∧ file.Fit (ofLittleEndian bytes) ∧
          mmap file.seals access file.region.length = .ok () := by
  constructor
  · intro passed
    cases one : checkMessage bytes descriptors with
    | error fault =>
        rw [one] at passed
        cases passed
    | ok descriptor =>
        obtain ⟨rfl, length⟩ := checkMessage_eq_ok_iff.1 one
        rw [one] at passed
        obtain ⟨access, rfl, file, there, usable⟩ := checkRegion_eq_ok_iff.1 passed
        exact ⟨access, rfl, length, file, there, (fit_iff documented length).1 usable⟩
  · rintro ⟨access, rfl, length, file, there, fit⟩
    rw [checkMessage_eq_ok_iff.2 ⟨rfl, length⟩]
    exact checkRegion_eq_ok_iff.2 ⟨access, rfl, file, there, (fit_iff documented length).2 fit⟩

/-- **What is accepted.** -/
theorem receiveRegion_eq_ok_iff (documented : mmap.Documented) :
    (l.receiveRegion mmap).1 = .ok k ↔ ∃ access, l.Brings k access ∧ l.Maps mmap k access := by
  constructor
  · intro accepted
    cases read : l.control.receive messageLength with
    | mk outcome control =>
        cases outcome with
        | error idle =>
            obtain ⟨fault, refused⟩ := receiveRegion_of_unread mmap read
            rw [refused] at accepted
            cases accepted
        | ok message =>
            obtain ⟨bytes, descriptors⟩ := message
            rw [receiveRegion_of_read read] at accepted
            cases checked : (checkMessage bytes descriptors).bind
                (l.checkRegion mmap (UInt64.ofNat (ofLittleEndian bytes))) with
            | error fault =>
                rw [checked] at accepted
                cases accepted
            | ok number =>
                rw [checked] at accepted
                cases accepted
                obtain ⟨access, rfl, length, file, there, fit, granted⟩ :=
                  (checked_eq_ok_iff documented).1 checked
                refine ⟨access, ⟨bytes, control, file, read, length, there, fit⟩, ?_⟩
                intro file' there'
                cases there.symm.trans there'
                exact granted
  · rintro ⟨access, ⟨bytes, control, file, read, length, there, fit⟩, granted⟩
    have checked := (checked_eq_ok_iff documented).2
      ⟨access, rfl, length, file, there, fit, granted file there⟩
    rw [receiveRegion_of_read read, checked]
    rfl

/-- **Everything else is a failed negotiation.** -/
theorem receiveRegion_error {e : ChannelError} (failed : (l.receiveRegion mmap).1 = .error e) :
    ∃ fault, e = .negotiation fault := by
  cases read : l.control.receive messageLength with
  | mk outcome control =>
      cases outcome with
      | error idle =>
          obtain ⟨fault, refused⟩ := receiveRegion_of_unread mmap read
          rw [refused] at failed
          cases failed
          exact ⟨fault, rfl⟩
      | ok message =>
          obtain ⟨bytes, descriptors⟩ := message
          rw [receiveRegion_of_read read] at failed
          cases checked : (checkMessage bytes descriptors).bind
              (l.checkRegion mmap (UInt64.ofNat (ofLittleEndian bytes))) with
          | error fault =>
              rw [checked] at failed
              cases failed
              exact ⟨fault, rfl⟩
          | ok number =>
              rw [checked] at failed
              cases failed

/-! ### From one side to the other -/

/-- A capacity for which the sum with the header's size is a length that a file can have. -/
def Fileable (capacity : UInt64) : Prop :=
  0 < capacity.toNat ∧ Header.size.toNat + capacity.toNat < UInt64.size / 2

instance (capacity : UInt64) : Decidable (Fileable capacity) := inferInstanceAs (Decidable (_ ∧ _))

/-- The length of a region for such a capacity. -/
theorem Fileable.length {capacity : UInt64} (h : Fileable capacity) :
    (Header.size + capacity).toNat = Header.size.toNat + capacity.toNat := by
  rw [UInt64.toNat_add]
  exact Nat.mod_eq_of_lt (Nat.lt_of_lt_of_le h.2 (Nat.div_le_self _ _))

/-- A region for some bytes is made, if the system maps it. -/
theorem create_of_mapped {capacity : UInt64} (fileable : Fileable capacity)
    (mapped : mmap .fixedSize .readWrite (Header.size + capacity) = .ok ()) :
    Region.create mmap regionName capacity = .ok (Region.zeroed (Header.size + capacity)) := by
  refine Region.create_eq_ok_iff.2 ⟨?_, Region.nameable_regionName, fileable.2, mapped, rfl⟩
  rintro rfl
  exact absurd fileable.1 (Nat.lt_irrefl 0)

/-- A link with a prepared region for some bytes, and other messages on the socket. -/
def withRegion (l : Link) (capacity : UInt64) (queue : List SocketMessage) : Link :=
  { l with
    files := l.files ++ [⟨.fixedSize, Region.prepared capacity⟩]
    control := { l.control with queue := queue } }

theorem files_withRegion (l : Link) (capacity : UInt64) (queue : List SocketMessage) :
    (l.withRegion capacity queue).files[l.files.length]? =
      some ⟨.fixedSize, Region.prepared capacity⟩ := by
  simp [withRegion]

/-- **Sending a region** puts its capacity and its descriptor on the socket. -/
theorem sendRegion_eq {capacity : UInt64} (fileable : Fileable capacity)
    (mapped : mmap .fixedSize .readWrite (Header.size + capacity) = .ok ())
    (receiver : l.control.receiverOpen = true) :
    l.sendRegion mmap true capacity = (.ok l.files.length,
      l.withRegion capacity (l.control.queue ++ [regionMessage capacity l.files.length])) := by
  have sent : l.control.send (regionMessage capacity l.files.length) =
      .ok { l.control with
        queue := l.control.queue ++ [regionMessage capacity l.files.length] } := by
    simp [ControlSocket.send, receiver, regionMessage, littleEndian]
  unfold sendRegion
  rw [create_of_mapped fileable mapped]
  dsimp only
  rw [Region.payloadCapacity_zeroed, sent]
  rfl

/-- **Receiving it** yields the same file. -/
theorem receiveRegion_withRegion (documented : mmap.Documented) {capacity : UInt64}
    (fileable : Fileable capacity)
    (mapped : mmap .fixedSize .readWrite (Header.size + capacity) = .ok ()) :
    (l.withRegion capacity [regionMessage capacity l.files.length]).receiveRegion mmap =
      (.ok l.files.length, l.withRegion capacity []) := by
  have sum := fileable.length
  have positive := fileable.1
  have read : (l.withRegion capacity [regionMessage capacity l.files.length]).control.receive
      messageLength =
      (.ok (littleEndian 8 capacity.toNat, [.memory l.files.length .readWrite]),
        (l.withRegion capacity []).control) := by
    simp [ControlSocket.receive, withRegion, regionMessage, gather, messageLength, littleEndian]
  have there := l.files_withRegion capacity [regionMessage capacity l.files.length]
  have word : ofLittleEndian (littleEndian 8 capacity.toNat) = capacity.toNat :=
    ofLittleEndian_littleEndian 8 capacity.toNat capacity.toNat_lt
  have fit : MemoryFile.Fit ⟨.fixedSize, Region.prepared capacity⟩
      (ofLittleEndian (littleEndian 8 capacity.toNat)) := by
    refine ⟨rfl, rfl, rfl, ?_, ?_, rfl⟩
    · show Header.size.toNat < (Header.size + capacity).toNat
      omega
    · show _ = (Header.size + capacity).toNat - Header.size.toNat
      rw [word]
      omega
  have accepted : ((l.withRegion capacity [regionMessage capacity l.files.length]).receiveRegion
      mmap).1 = .ok l.files.length := by
    refine (receiveRegion_eq_ok_iff documented).2
      ⟨.readWrite, ⟨_, _, _, read, length_littleEndian _ _, there, fit⟩, ?_⟩
    intro file there'
    cases there.symm.trans there'
    exact mapped
  refine Prod.ext accepted ?_
  rw [receiveRegion_of_read read]
  rfl

/-- **Both sides have one memory**: what the producer publishes, the multiplexer takes. -/
theorem publish_then_take {r : Region} {p : Picture} (writer : l.writer = some k)
    (memory : l.region? k = some r) (empty : r.header.state = SlotState.empty.raw)
    (counts : r.Countable) (fits : p.data.length = r.payloadCapacity.toNat)
    (unsaturated : l.notifier.counter.toNat + 8 < Notifier.limit) :
    ∃ told left, l.publish p.data p.width p.height = (some (.ok .published), told) ∧
      told.take k = (.ok (some ⟨p.data, p.width, p.height, r.header.sequence + 1⟩), left) := by
  have told := Channel.publish_of_empty (c := ⟨r, l.notifier⟩) fits empty counts unsaturated
  have memory' := region?_setRegion memory (r.filled p)
  refine ⟨{ l.setRegion k (r.filled p) with notifier := ⟨l.notifier.counter + 8⟩ },
    { l.setRegion k (r.filled p).emptied with notifier := ⟨l.notifier.counter + 8⟩ }, ?_, ?_⟩
  · simp only [publish, writer, memory, told]
  · have there : Link.region? { l.setRegion k (r.filled p) with
        notifier := ⟨l.notifier.counter + 8⟩ } k = some (r.filled p) := memory'
    have again := setRegion_setRegion l k (r.filled p) (r.filled p).emptied
    rw [take, there]
    simp only [Region.take_filled fits, ← again]
    rfl

/-- **Exactly the valid messages are accepted.**  A region is accepted if and only if the next read
brings a valid message about its file, and the system maps the file; the region is that file's memory.
Nothing else is accepted, and every refusal is a failed negotiation.  Neither side is ever given a
mapping of a file that is sealed against writing now or later, or through a descriptor that was not
opened for both reading and writing.

So a region that the producer makes, prepares and sends, which takes a mapping of it on either side, is
accepted on the other side as the same memory: what is published into it there is taken from it here. -/
theorem regions_accepted_exactly {mmap : Mmap} (documented : mmap.Documented) (mmap' : Mmap)
    (l : Link) :
    (∀ k, (l.receiveRegion mmap).1 = .ok k ↔ ∃ access, l.Brings k access ∧ l.Maps mmap k access) ∧
    (∀ e, (l.receiveRegion mmap).1 = .error e → ∃ fault, e = .negotiation fault) ∧
    (∀ k, (l.receiveRegion mmap).1 = .ok k → ∃ file, l.files[k]? = some file ∧
      (l.receiveRegion mmap).2.region? k = some file.region ∧
      file.region.payloadCapacity.toNat = file.region.length.toNat - Header.size.toNat ∧
      file.seals.noFutureWrite = false ∧ ∀ access, l.Brings k access → access = .readWrite) ∧
    ∀ capacity : UInt64, Fileable capacity →
      mmap' .fixedSize .readWrite (Header.size + capacity) = .ok () →
      mmap .fixedSize .readWrite (Header.size + capacity) = .ok () →
      l.control.receiverOpen = true → l.control.queue = [] →
      ∃ sent received region, l.sendRegion mmap' true capacity = (.ok l.files.length, sent) ∧
        sent.receiveRegion mmap = (.ok l.files.length, received) ∧
        received.region? l.files.length = some region ∧ region.payloadCapacity = capacity ∧
        ∀ p : Picture, p.data.length = capacity.toNat →
          l.notifier.counter.toNat + 8 < Notifier.limit →
          ∃ told left, publish { received with writer := some l.files.length } p.data p.width p.height =
              (some (.ok .published), told) ∧
            told.take l.files.length = (.ok (some ⟨p.data, p.width, p.height, 1⟩), left) := by
  refine ⟨fun k => receiveRegion_eq_ok_iff documented, fun e => receiveRegion_error, ?_, ?_⟩
  · intro k accepted
    obtain ⟨access, ⟨bytes, control, file, read, -, there, fit⟩, maps⟩ :=
      (receiveRegion_eq_ok_iff documented).1 accepted
    have granted := maps file there
    refine ⟨file, there, ?_, ?_, ?_, ?_⟩
    · rw [receiveRegion_of_read read]
      exact Option.map_eq_some_iff.2 ⟨file, there, rfl⟩
    · exact UInt64.toNat_sub_of_le _ _ (UInt64.le_iff_toNat_le.2 (Nat.le_of_lt fit.beyond))
    · cases sealed : file.seals.noFutureWrite with
      | false => rfl
      | true => exact absurd granted (documented.noFutureWrite _ _ _ sealed)
    · rintro access' ⟨_, _, _, read', -⟩
      cases read.symm.trans read'
      by_contra other
      exact documented.access _ _ _ other granted
  · intro capacity fileable mapped' mapped receiver idle
    have sent := sendRegion_eq fileable mapped' receiver
    rw [idle] at sent
    have memory : (l.withRegion capacity []).region? l.files.length =
        some (Region.prepared capacity) :=
      Option.map_eq_some_iff.2 ⟨_, l.files_withRegion capacity [], rfl⟩
    refine ⟨_, _, _, sent, receiveRegion_withRegion documented fileable mapped, memory,
      Region.payloadCapacity_prepared capacity, ?_⟩
    intro p fits unsaturated
    exact publish_then_take (l := { l.withRegion capacity [] with writer := some l.files.length }) rfl
      memory rfl (Region.countable_prepared capacity) (by rw [Region.payloadCapacity_prepared, fits])
      unsaturated

/-- A region for four bytes, from a producer to the multiplexer. -/
theorem regions_accepted_exactly_four :
    Mmap.Documented .linux ∧ Fileable 4 ∧
    ∃ sent received region, fresh.sendRegion .linux true 4 = (.ok 0, sent) ∧
      sent.receiveRegion .linux = (.ok 0, received) ∧ received.region? 0 = some region ∧
      region.payloadCapacity = 4 ∧
      ∃ told left, publish { received with writer := some 0 } [1, 2, 3, 4] 2 2 =
          (some (.ok .published), told) ∧
        told.take 0 = (.ok (some ⟨[1, 2, 3, 4], 2, 2, 1⟩), left) := by
  obtain ⟨-, -, -, roundTrip⟩ :=
    regions_accepted_exactly Mmap.documented_linux .linux fresh
  obtain ⟨sent, received, region, sends, receives, memory, capacity, gets⟩ :=
    roundTrip 4 (by decide) (by decide) (by decide) rfl rfl
  exact ⟨Mmap.documented_linux, by decide, sent, received, region, sends, receives, memory, capacity,
    gets ⟨[1, 2, 3, 4], 2, 2⟩ rfl (by decide)⟩

/-- A link over which a valid message about a file of `2 ^ 47` bytes was sent. -/
def oversized : Link where
  notifier := .fresh
  control := ⟨[regionMessage 140737488355264 0], true, true⟩
  files := [⟨⟨false, true, true, false, false⟩, Region.prepared 140737488355264⟩]
  writer := none

/-- **A file that cannot be mapped is not accepted**, however valid the message about it: here it is
longer than the address space. -/
theorem unmappable_refused :
    oversized.Brings 0 .readWrite ∧
    (oversized.receiveRegion .linux).1 =
      .error (.negotiation (.unmappable (.system .outOfMemory))) := by
  have fit : MemoryFile.Fit ⟨⟨false, true, true, false, false⟩, Region.prepared 140737488355264⟩
      (ofLittleEndian (littleEndian 8 140737488355264)) := by
    refine ⟨rfl, rfl, rfl, ?_, ?_, rfl⟩ <;> decide
  exact ⟨⟨littleEndian 8 140737488355264, ⟨[], true, true⟩, _, rfl, rfl, rfl, fit⟩, rfl⟩

end Link

end FrameMux
