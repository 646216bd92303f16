import Gsml3.Foundation.StopAndWait
import Gsml3.Lapdm.Link

/-!
# Reliable delivery over a lossy link

The counting invariant of stop-and-wait transfer, instantiated for both
directions of a link.  A `Ledger` is the unbounded history behind the
three-bit sequence variables of one entity: the segments it numbered, how many
of them it knows to be received and how many it received itself.  `Carries`
relates a frame on the wire to the item and the count it stands for, and
`Joint` relates two stations to two ledgers.  Every step of an entity is a
short sequence of ledger steps.

The ledger of an entity starts with eight segments the run never sees.  They
are the history of an entity whose variables have wrapped to zero before the
run starts; an outstanding frame of that time may still be repeated.
-/

namespace Gsml3

namespace Lapdm

open Foundation

/-- The sequence number of a count. -/
def seq (count : Nat) : Fin 8 :=
  Fin.ofNat 8 count

theorem seq_eq_iff {first second : Nat} : seq first = seq second ↔ first % 8 = second % 8 := by
  simp [seq, Fin.ext_iff]

theorem seq_succ (count : Nat) : seq count + 1 = seq (count + 1) := by
  simp [seq, Fin.ext_iff, Fin.val_add]

namespace LAPDmEntity

/-- An established entity reads an encoded I-frame of a peer. -/
theorem receiveFrame_makeIFrame {e : LAPDmEntity} {sapi : SAPI} {command pf more : Bool}
    {nr ns : Fin 8} {info : List UInt8} (ready : e.state = .linkEstablished)
    (short : info.length ≤ 63) :
    e.receiveFrame (encodeFrame (makeIFrame sapi command nr ns pf more info)) =
      if SAPI.onWire sapi ≠ e.sapi then { e with framesReceived := e.framesReceived + 1 }
      else
        ({ e with
            establishmentInProgress := false
            framesReceived := e.framesReceived + 1 }.processAck nr).checkSequence
          (makeIFrame (SAPI.onWire sapi) command nr ns pf more info) := by
  rw [receiveFrame, decode_encodeFrame_makeIFrame short]
  simp only [makeIFrame, receiveIFrame, completeEstablishment, ready, reduceCtorEq, ↓reduceIte,
    ne_eq, not_true_eq_false]

/-- An established entity reads an encoded RR or REJ response of a peer. -/
theorem receiveFrame_makeSFrame {e : LAPDmEntity} {sapi : SAPI} {pf : Bool} {nr : Fin 8}
    {sType : LAPDmSFrameType} (ready : e.state = .linkEstablished)
    (kind : sType = .rr ∨ sType = .rej) :
    e.receiveFrame (encodeFrame (makeSFrame sapi nr pf sType)) =
      if SAPI.onWire sapi ≠ e.sapi then { e with framesReceived := e.framesReceived + 1 }
      else
        let acked := { e with
          establishmentInProgress := false
          framesReceived := e.framesReceived + 1 }.processAck nr
        if sType = .rej ∧ pf then acked.sendRR true else acked := by
  rw [receiveFrame, decode_encodeFrame_makeSFrame]
  rcases kind with rfl | rfl
  · simp [makeSFrame, receiveSFrame, completeEstablishment, ready]
  · simp [makeSFrame, receiveSFrame, completeEstablishment, ready]

end LAPDmEntity

/-- What a frame stands for: the number of the segment it carries, if any, and
the count it acknowledges. -/
structure Packet where
  data : Option Nat
  count : Nat

/-- A frame on the wire of an entity serving `sapi` that numbered `sent`. -/
inductive Carries (sapi : SAPI) (sent : List (Segment UInt8)) : List UInt8 → Packet → Prop where
  | item {command pf : Bool} {number count : Nat} {segment : Segment UInt8} :
      sent[number]? = some segment → segment.info.length ≤ 63 →
      Carries sapi sent
        (encodeFrame (makeIFrame sapi command (seq count) (seq number) pf segment.more
          segment.info))
        ⟨some number, count⟩
  | supervisory {sType : LAPDmSFrameType} {pf : Bool} {count : Nat} :
      sType = .rr ∨ sType = .rej →
      Carries sapi sent (encodeFrame (makeSFrame sapi (seq count) pf sType)) ⟨none, count⟩

/-- Frames keep their meaning when further segments are numbered. -/
theorem Carries.mono {sapi : SAPI} {sent later : List (Segment UInt8)}
    {frameBytes : List UInt8} {packet : Packet} (carries : Carries sapi sent frameBytes packet) :
    Carries sapi (sent ++ later) frameBytes packet := by
  cases carries with
  | item present short => exact .item (List.getElem?_append_left
      (List.getElem?_eq_some_iff.mp present).1 ▸ present) short
  | supervisory kind => exact .supervisory kind

/-- The history behind the sequence variables of one entity. -/
structure Ledger where
  sent : List (Segment UInt8)
  acked : Nat
  received : Nat
  packets : List Packet

namespace Ledger

/-- Numbers of the segments in flight. -/
def items (ledger : Ledger) : List Nat :=
  ledger.packets.filterMap Packet.data

/-- Counts in flight. -/
def counts (ledger : Ledger) : List Nat :=
  ledger.packets.map Packet.count

end Ledger

/-- The frame an expired T200 repeats is the last numbered segment. -/
def Outstanding (e : LAPDmEntity) (sent : List (Segment UInt8)) : Prop :=
  e.pending = .none ∨
    (e.pending = .iFrame ∧ ∃ earlier,
      sent = earlier ++ [⟨e.pendingInfo, e.pendingMore⟩] ∧ e.pendingNs = seq earlier.length)

/-- One station and the direction it sends in.  `held` are the octets its
reassembly buffer held when the link was joined. -/
structure Half (limit : Nat) (held : List UInt8) (own : Station) (mine theirs : Ledger) :
    Prop where
  established : own.entity.state = .linkEstablished
  profile : own.entity.profile.n201 = limit
  vs : own.entity.vs = seq mine.sent.length
  va : own.entity.va = seq mine.acked
  vr : own.entity.vr = seq mine.received
  outstanding : Outstanding own.entity mine.sent
  consistent : own.entity.QueueConsistent
  bounded : ∀ segment ∈ mine.sent, segment.info.length ≤ limit
  carried : List.Forall₂ (Carries own.entity.sapi mine.sent) own.wire mine.packets
  transfer : StopAndWait mine.sent.length mine.acked theirs.received mine.items theirs.counts
  preloaded : 8 ≤ mine.received
  segmented : mine.sent.drop 8 ++ own.entity.backlog = own.accepted.flatMap (segments limit)
  reassembled : (⟨[], held⟩ : Reassembly UInt8).acceptAll
    ((theirs.sent.take mine.received).drop 8) = ⟨own.released, own.entity.reassemblyBuffer⟩

/-- Two stations and their ledgers. -/
structure Joint (limit : Nat) (heldOwn heldPeer : List UInt8) (own peer : Station)
    (mine theirs : Ledger) : Prop where
  forward : Half limit heldOwn own mine theirs
  backward : Half limit heldPeer peer theirs mine

/-- Removing the entries at one position keeps two related lists related. -/
private theorem forall₂_eraseIdx {α β : Type*} {related : α → β → Prop} {first : List α}
    {second : List β} (pairs : List.Forall₂ related first second) (position : Nat) :
    List.Forall₂ related (first.eraseIdx position) (second.eraseIdx position) := by
  induction pairs generalizing position with
  | nil => exact .nil
  | cons head tail ih =>
      cases position with
      | zero => exact tail
      | succ position => exact .cons head (ih position)

namespace Joint

variable {limit : Nat} {heldOwn heldPeer : List UInt8} {own peer : Station}
variable {mine theirs : Ledger}

theorem symm (joint : Joint limit heldOwn heldPeer own peer mine theirs) :
    Joint limit heldPeer heldOwn peer own theirs mine :=
  ⟨joint.backward, joint.forward⟩

/-- The segments the peer has taken are among those numbered. -/
theorem received_le (joint : Joint limit heldOwn heldPeer own peer mine theirs) :
    theirs.received ≤ mine.sent.length :=
  joint.forward.transfer.received_le

/-- An idle line has everything acknowledged. -/
theorem acked_eq (joint : Joint limit heldOwn heldPeer own peer mine theirs)
    (idle : own.entity.vs = own.entity.va) : mine.acked = mine.sent.length := by
  have transfer := joint.forward.transfer
  have low := transfer.acked_le
  have high := transfer.received_le
  have width := transfer.window
  rw [joint.forward.vs, joint.forward.va, seq_eq_iff] at idle
  omega

/-- Moving callbacks to the channel changes nothing. -/
theorem settle (joint : Joint limit heldOwn heldPeer own peer mine theirs) :
    Joint limit heldOwn heldPeer own.settle peer mine theirs := by
  have half := joint.forward
  refine ⟨{ half with
    consistent := half.consistent.frame rfl rfl rfl rfl
    carried := ?_
    reassembled := ?_ }, joint.backward⟩
  · simpa [Station.settle, Station.wire] using half.carried
  · simpa [Station.settle, Station.released] using half.reassembled

/-- The head segment of the backlog is numbered and transmitted. -/
theorem sendSegment {target : LAPDmEntity} {segment : Segment UInt8}
    (joint : Joint limit heldOwn heldPeer own peer mine theirs)
    (short : limit ≤ 63)
    (idle : own.entity.vs = own.entity.va)
    (fits : segment.info.length ≤ limit)
    (sent : own.entity.SendsSegment target segment) :
    Joint limit heldOwn heldPeer { own with entity := target } peer
      { mine with
        sent := mine.sent ++ [segment]
        packets := mine.packets ++ [⟨some mine.sent.length, mine.received⟩] }
      theirs := by
  have half := joint.forward
  have enough := joint.backward.preloaded.trans joint.received_le
  constructor
  · constructor
    case established => exact sent.state.trans half.established
    case profile => exact sent.profile ▸ half.profile
    case vs =>
      rw [sent.vs, half.vs, seq_succ, List.length_append, List.length_singleton]
    case va => exact sent.va.trans half.va
    case vr => exact sent.vr.trans half.vr
    case outstanding =>
      refine .inr ⟨sent.pending, mine.sent, ?_, sent.pendingNs.trans half.vs⟩
      rw [sent.pendingInfo, sent.pendingMore]
    case consistent => exact sent.consistent
    case bounded =>
      intro piece member
      rcases List.mem_append.mp member with old | new
      · exact half.bounded piece old
      · obtain rfl : piece = segment := by simpa using new
        exact fits
    case carried =>
      rw [sent.sapi, Station.wire, sent.outputs, transmitted_append, ← List.append_assoc]
      refine List.rel_append (half.carried.imp fun _ _ carries => carries.mono) ?_
      refine .cons ?_ .nil
      rw [half.vs, half.vr]
      exact .item (by simp) (fits.trans short)
    case transfer =>
      have next := half.transfer.send_next (joint.acked_eq idle)
      simpa [Ledger.items] using next
    case preloaded => exact half.preloaded
    case segmented =>
      rw [← half.segmented, sent.backlog, List.drop_append_of_le_length enough]
      simp
    case reassembled =>
      rw [Station.released, sent.outputs, sent.reassemblyBuffer, passedUp_append]
      simpa [Station.released] using half.reassembled
  · have other := joint.backward
    refine { other with transfer := ?_, reassembled := ?_ }
    · simpa [Ledger.counts] using other.transfer.report
    · rw [← other.reassembled, List.take_append_of_le_length joint.received_le]

/-- With nothing outstanding the entity sends the head of its backlog, if there
is one. -/
theorem trySendNextSegment (joint : Joint limit heldOwn heldPeer own peer mine theirs)
    (positive : 1 ≤ limit) (short : limit ≤ 63) (idle : own.entity.vs = own.entity.va) :
    ∃ mine', mine'.received = mine.received ∧
      Joint limit heldOwn heldPeer { own with entity := own.entity.trySendNextSegment } peer
        mine' theirs := by
  have half := joint.forward
  have room : 0 < own.entity.profile.n201 := half.profile.symm ▸ positive
  rcases LAPDmEntity.trySendNextSegment_cases room half.consistent idle with
    ⟨-, same⟩ | ⟨segment, sent⟩
  · exact ⟨mine, rfl, by rwa [same]⟩
  · have fits : segment.info.length ≤ limit := by
      rw [← half.profile]
      exact LAPDmEntity.Coherent.length_le_of_mem_backlog room
        (sent.backlog ▸ List.mem_cons_self ..)
    refine ⟨_, ?_, joint.sendSegment short idle fits sent⟩
    rfl

/-- A frame leaves the peer's channel unread. -/
theorem skip {frameBytes : List UInt8} {rest : List (List UInt8)}
    (joint : Joint limit heldOwn heldPeer own peer mine theirs)
    (head : peer.outbound = frameBytes :: rest) :
    ∃ packet packets, theirs.packets = packet :: packets ∧
      Carries peer.entity.sapi theirs.sent frameBytes packet ∧
      Joint limit heldOwn heldPeer own { peer with outbound := rest } mine
        { theirs with packets := packets } := by
  have wire : peer.wire = frameBytes :: ({ peer with outbound := rest } : Station).wire := by
    rw [Station.wire, head]
    rfl
  have carried := joint.backward.carried
  rw [wire] at carried
  obtain ⟨packet, packets, carries, others, split⟩ := List.forall₂_cons_left_iff.mp carried
  have behind : packets.Sublist theirs.packets := split ▸ List.sublist_cons_self _ _
  refine ⟨packet, packets, split, carries, ⟨?_, ?_⟩⟩
  · exact { joint.forward with
      transfer := joint.forward.transfer.lose_acks (behind.map _) }
  · exact { joint.backward with
      carried := others
      transfer := joint.backward.transfer.lose_data (behind.filterMap _) }

/-- A count leaves the peer's channel and becomes V(A). -/
theorem adopt {packet : Packet}
    (joint : Joint limit heldOwn heldPeer own peer mine theirs)
    (before : StopAndWait mine.sent.length mine.acked theirs.received mine.items
      (packet.count :: theirs.counts)) :
    Joint limit heldOwn heldPeer
      { own with entity := { own.entity with va := seq packet.count } } peer
      { mine with acked := packet.count } theirs := by
  refine ⟨{ joint.forward with
    va := rfl
    consistent := joint.forward.consistent.frame rfl rfl rfl rfl
    transfer := before.adopt }, ?_⟩
  exact { joint.backward with }

/-- A supervisory frame reports V(R). -/
theorem reply {sType : LAPDmSFrameType}
    (joint : Joint limit heldOwn heldPeer own peer mine theirs)
    (kind : sType = .rr ∨ sType = .rej) (pf : Bool) :
    Joint limit heldOwn heldPeer
      { own with
        entity := own.entity.sendFrame
          (makeSFrame own.entity.sapi own.entity.vr pf sType) } peer
      { mine with packets := mine.packets ++ [⟨none, mine.received⟩] } theirs := by
  have half := joint.forward
  refine ⟨{ half with
    consistent := half.consistent.frame rfl rfl rfl rfl
    carried := ?_
    transfer := ?_
    reassembled := ?_ }, { joint.backward with transfer := ?_ }⟩
  · rw [Station.wire]
    simp only [LAPDmEntity.sendFrame, transmitted_append]
    rw [← List.append_assoc, half.vr]
    exact List.rel_append half.carried (.cons (.supervisory kind) .nil)
  · simpa [Ledger.items] using half.transfer
  · simpa [Station.released, LAPDmEntity.sendFrame] using half.reassembled
  · simpa [Ledger.counts] using joint.backward.transfer.report

/-- Timers, statistics and the establishment flag are not part of the
relation. -/
theorem irrelevant (joint : Joint limit heldOwn heldPeer own peer mine theirs)
    (inProgress t200Active : Bool)
    (rc t200RemainingMs framesReceived retransmissions : UInt32) :
    Joint limit heldOwn heldPeer
      { own with
        entity := { own.entity with
          establishmentInProgress := inProgress, t200Active := t200Active, rc := rc
          t200RemainingMs := t200RemainingMs, framesReceived := framesReceived
          retransmissions := retransmissions } }
      peer mine theirs := by
  refine ⟨{ joint.forward with
    consistent := joint.forward.consistent.frame rfl rfl rfl rfl }, ?_⟩
  exact { joint.backward with }

/-- Once the count is adopted, the rest of `processAck` sends at most one
segment. -/
theorem processAck {entity : LAPDmEntity} {nr : Fin 8} (positive : 1 ≤ limit) (short : limit ≤ 63)
    (joint : Joint limit heldOwn heldPeer
      { own with entity := { entity with va := nr } } peer mine theirs) :
    ∃ mine', mine'.received = mine.received ∧
      Joint limit heldOwn heldPeer { own with entity := entity.processAck nr } peer
        mine' theirs := by
  rw [LAPDmEntity.processAck]
  dsimp only
  split
  case isTrue same =>
    exact (joint.irrelevant _ false 0 _ _ _).trySendNextSegment positive short same.symm
  case isFalse => exact ⟨mine, rfl, joint⟩

/-- The expected segment is taken: V(R) advances and the segment joins the
buffer, which the last segment of a message passes up. -/
theorem take {segment : Segment UInt8}
    (joint : Joint limit heldOwn heldPeer own peer mine theirs)
    (present : theirs.sent[mine.received]? = some segment)
    (ahead : ∀ item ∈ theirs.items, mine.received ≤ item)
    {target : LAPDmEntity}
    (taken : target =
      if segment.more then
        { own.entity.advanceVR with
          reassemblyBuffer := own.entity.reassemblyBuffer ++ segment.info }
      else
        { own.entity.advanceVR with
          reassemblyBuffer := []
          outputs := own.entity.outputs ++
            [.deliver own.entity.sapi .L3_DATA
              (own.entity.reassemblyBuffer ++ segment.info)] }) :
    Joint limit heldOwn heldPeer { own with entity := target } peer
      { mine with received := mine.received + 1 } theirs := by
  have half := joint.forward
  obtain ⟨available, found⟩ := List.getElem?_eq_some_iff.mp present
  have extended : (theirs.sent.take (mine.received + 1)).drop 8 =
      (theirs.sent.take mine.received).drop 8 ++ [segment] := by
    rw [List.take_add_one, present, Option.toList_some, List.drop_append_of_le_length]
    rw [List.length_take]
    exact le_min half.preloaded (half.preloaded.trans available.le)
  refine ⟨?_, { joint.backward with
    transfer := joint.backward.transfer.advance available ahead }⟩
  cases marked : segment.more with
  | true =>
      rw [marked, if_pos rfl] at taken
      subst taken
      refine { half with
        consistent := half.consistent.frame rfl rfl rfl rfl
        vr := by rw [LAPDmEntity.advanceVR, half.vr, seq_succ]
        preloaded := half.preloaded.trans (Nat.le_succ _)
        reassembled := ?_ }
      rw [extended, Reassembly.acceptAll_append, half.reassembled]
      simp [Reassembly.accept, marked, Station.released, LAPDmEntity.advanceVR]
  | false =>
      rw [marked, if_neg (by decide)] at taken
      subst taken
      refine { half with
        consistent := half.consistent.frame rfl rfl rfl rfl
        vr := by rw [LAPDmEntity.advanceVR, half.vr, seq_succ]
        preloaded := half.preloaded.trans (Nat.le_succ _)
        carried := ?_
        reassembled := ?_ }
      · simpa [Station.wire, LAPDmEntity.advanceVR] using half.carried
      · rw [extended, Reassembly.acceptAll_append, half.reassembled]
        simp [Reassembly.accept, marked, Station.released]

/-- An expired T200 repeats the last numbered segment or sends nothing. -/
theorem retransmitPending (short : limit ≤ 63)
    (joint : Joint limit heldOwn heldPeer own peer mine theirs) :
    ∃ mine', Joint limit heldOwn heldPeer
      { own with entity := own.entity.retransmitPending } peer mine' theirs := by
  have half := joint.forward
  rcases half.outstanding with none | ⟨iFrame, earlier, history, number⟩
  · exact ⟨mine, by rwa [LAPDmEntity.retransmitPending, none]⟩
  · have size : mine.sent.length = earlier.length + 1 := by simp [history]
    refine ⟨{ mine with
      packets := mine.packets ++ [⟨some earlier.length, mine.received⟩] }, ?_⟩
    rw [LAPDmEntity.retransmitPending, iFrame]
    refine ⟨{ half with
      consistent := half.consistent.frame rfl rfl rfl rfl
      outstanding := .inr ⟨iFrame, earlier, history, number⟩
      carried := ?_
      transfer := ?_
      reassembled := ?_ }, { joint.backward with transfer := ?_ }⟩
    · rw [Station.wire]
      simp only [LAPDmEntity.sendFrame, transmitted_append]
      rw [← List.append_assoc, half.vr, number]
      refine List.rel_append half.carried (.cons ?_ .nil)
      have member : (⟨own.entity.pendingInfo, own.entity.pendingMore⟩ : Segment UInt8) ∈
          mine.sent := by simp [history]
      have last : mine.sent[earlier.length]? =
          some ⟨own.entity.pendingInfo, own.entity.pendingMore⟩ := by simp [history]
      exact @Carries.item _ _ _ _ _ _ ⟨own.entity.pendingInfo, own.entity.pendingMore⟩ last
        ((half.bounded _ member).trans short)
    · have again := (size ▸ half.transfer).send_again
      rw [← size] at again
      simpa [Ledger.items] using again
    · simpa [Station.released, LAPDmEntity.sendFrame] using half.reassembled
    · simpa [Ledger.counts] using joint.backward.transfer.report

/-- The handler behind the sequence check takes the expected segment, unless it
releases the link. -/
theorem acceptIFrame {segment : Segment UInt8} {frame : LAPDmFrame}
    (joint : Joint limit heldOwn heldPeer own peer mine theirs)
    (present : theirs.sent[mine.received]? = some segment)
    (ahead : ∀ item ∈ theirs.items, mine.received ≤ item)
    (info : frame.info = segment.info) (more : frame.more = segment.more)
    (kept : (own.entity.advanceVR.acceptIFrame frame).state = .linkEstablished) :
    ∃ mine', Joint limit heldOwn heldPeer
      { own with entity := own.entity.advanceVR.acceptIFrame frame } peer mine' theirs := by
  rw [LAPDmEntity.acceptIFrame] at kept ⊢
  split at kept
  case isTrue => simp [LAPDmEntity.abnormalRelease, LAPDmEntity.deliverL3,
    LAPDmEntity.transitionTo] at kept
  case isFalse fits =>
    rw [if_neg fits]
    have taken := joint.take present ahead rfl
    refine ⟨{ mine with
      received := mine.received + 1
      packets := mine.packets ++ [⟨none, mine.received + 1⟩] }, ?_⟩
    rw [info, more]
    cases marked : segment.more with
    | true =>
        rw [marked] at taken
        exact taken.reply (.inl rfl) frame.iCtrl.pf
    | false =>
        rw [marked] at taken
        exact taken.reply (.inl rfl) frame.iCtrl.pf

/-- The sequence check takes the segment exactly when it is the expected one;
otherwise the entity rejects it. -/
theorem checkSequence {number : Nat} {segment : Segment UInt8} {frame : LAPDmFrame}
    (joint : Joint limit heldOwn heldPeer own peer mine theirs)
    (present : theirs.sent[number]? = some segment)
    (distinct : number % 8 = mine.received % 8 ↔ number = mine.received)
    (ahead : ∀ item ∈ theirs.items, number ≤ item)
    (ns : frame.iCtrl.ns = seq number)
    (info : frame.info = segment.info) (more : frame.more = segment.more)
    (kept : (own.entity.checkSequence frame).state = .linkEstablished) :
    ∃ mine', Joint limit heldOwn heldPeer
      { own with entity := own.entity.checkSequence frame } peer mine' theirs := by
  have rejected : frame.iCtrl.ns ≠ own.entity.vr ↔ number ≠ mine.received := by
    rw [ns, joint.forward.vr, ne_eq, seq_eq_iff, distinct]
  rw [LAPDmEntity.checkSequence] at kept ⊢
  by_cases expected : number = mine.received
  · subst expected
    rw [if_neg (by simp [rejected])] at kept ⊢
    exact joint.acceptIFrame present ahead info more kept
  · rw [if_pos (rejected.mpr expected)]
    exact ⟨_, joint.reply (.inr rfl) frame.iCtrl.pf⟩

/-- The acknowledgement of a frame at the head of the peer's channel. -/
theorem acknowledge {frameBytes : List UInt8} {rest : List (List UInt8)}
    (positive : 1 ≤ limit) (short : limit ≤ 63)
    (joint : Joint limit heldOwn heldPeer own peer mine theirs)
    (head : peer.outbound = frameBytes :: rest) {entity : LAPDmEntity}
    (counted : entity = { own.entity with
      establishmentInProgress := false, framesReceived := own.entity.framesReceived + 1 }) :
    ∃ packet packets, theirs.packets = packet :: packets ∧
      Carries peer.entity.sapi theirs.sent frameBytes packet ∧
      ∃ mine', mine'.received = mine.received ∧
        Joint limit heldOwn heldPeer
          { own with entity := entity.processAck (seq packet.count) }
          { peer with outbound := rest } mine' { theirs with packets := packets } := by
  obtain ⟨packet, packets, split, carries, popped⟩ := joint.skip head
  have counts : theirs.counts =
      packet.count :: ({ theirs with packets := packets } : Ledger).counts := by
    rw [Ledger.counts, split]
    rfl
  have adopted := popped.adopt (counts ▸ joint.forward.transfer)
  have started := adopted.irrelevant false own.entity.t200Active own.entity.rc
    own.entity.t200RemainingMs (own.entity.framesReceived + 1) own.entity.retransmissions
  refine ⟨packet, packets, split, carries, ?_⟩
  have ready : Joint limit heldOwn heldPeer
      { own with entity := { entity with va := seq packet.count } }
      { peer with outbound := rest } { mine with acked := packet.count }
      { theirs with packets := packets } := by
    subst counted
    exact started
  have acked := ready.processAck positive short
  exact acked

/-- A received frame is dropped, or it is processed with the ledger steps of
its kind.  `kept` excludes the handlers that release the link. -/
theorem receiveFrame {frameBytes : List UInt8} {rest : List (List UInt8)}
    (positive : 1 ≤ limit) (short : limit ≤ 63)
    (joint : Joint limit heldOwn heldPeer own peer mine theirs)
    (head : peer.outbound = frameBytes :: rest)
    (kept : (own.entity.receiveFrame frameBytes).state = .linkEstablished) :
    ∃ mine' theirs', Joint limit heldOwn heldPeer
      { own with entity := own.entity.receiveFrame frameBytes }
      { peer with outbound := rest } mine' theirs' := by
  have ready := joint.forward.established
  obtain ⟨-, remaining, -, -, popped⟩ := joint.skip head
  have dropped := popped.irrelevant own.entity.establishmentInProgress own.entity.t200Active
    own.entity.rc own.entity.t200RemainingMs (own.entity.framesReceived + 1)
    own.entity.retransmissions
  obtain ⟨packet, packets, split, carries, mine', same, acked⟩ :=
    joint.acknowledge positive short head rfl
  have items : theirs.items = packet.data.toList ++
      ({ theirs with packets := packets } : Ledger).items := by
    rw [Ledger.items, split]
    cases packet with
    | mk data count => cases data <;> rfl
  cases carries with
  | @item command pf number count segment present fits =>
      have distinct : number % 8 = mine.received % 8 ↔ number = mine.received :=
        joint.backward.transfer.item_mod_iff (by omega) (by simp [items])
      have ordered := items ▸ joint.backward.transfer.data_ordered
      rw [LAPDmEntity.receiveFrame_makeIFrame ready fits] at kept ⊢
      split at kept
      case isTrue other =>
        rw [if_pos other]
        exact ⟨mine, _, dropped⟩
      case isFalse ours =>
        rw [if_neg ours]
        obtain ⟨final, checked⟩ := acked.checkSequence present (by rwa [same])
          (List.pairwise_cons.mp ordered).1 rfl rfl rfl kept
        exact ⟨final, _, checked⟩
  | @supervisory sType pf count kind =>
      rw [LAPDmEntity.receiveFrame_makeSFrame ready kind] at kept ⊢
      split at kept
      case isTrue other =>
        rw [if_pos other]
        exact ⟨mine, _, dropped⟩
      case isFalse ours =>
        rw [if_neg ours]
        split
        · exact ⟨_, _, acked.reply (.inl rfl) true⟩
        · exact ⟨mine', _, acked⟩

/-- An accepted message joins the backlog; on an idle line its first segment
goes out. -/
theorem sendData (positive : 1 ≤ limit) (short : limit ≤ 63)
    (joint : Joint limit heldOwn heldPeer own peer mine theirs) {l3Data : List UInt8}
    (nonempty : l3Data ≠ []) :
    ∃ mine', Joint limit heldOwn heldPeer
      { own with
        entity := (own.entity.enqueue l3Data).trySendNextSegment
        accepted := own.accepted ++ [l3Data] } peer mine' theirs := by
  have half := joint.forward
  have queued : Joint limit heldOwn heldPeer
      { own with
        entity := own.entity.enqueue l3Data
        accepted := own.accepted ++ [l3Data] } peer mine theirs := by
    refine ⟨{ half with
      consistent := half.consistent.enqueue nonempty
      segmented := ?_ }, joint.backward⟩
    have backlog : (own.entity.enqueue l3Data).backlog =
        own.entity.backlog ++ segments limit l3Data := by
      rw [LAPDmEntity.backlog, LAPDmEntity.unsent_enqueue half.consistent, List.flatMap_append,
        LAPDmEntity.backlog, ← half.profile]
      simp [LAPDmEntity.enqueue]
    rw [backlog, ← List.append_assoc, half.segmented]
    simp
  by_cases idle : own.entity.vs = own.entity.va
  · obtain ⟨mine', -, sent⟩ := queued.trySendNextSegment positive short idle
    exact ⟨mine', sent⟩
  · refine ⟨mine, ?_⟩
    rw [LAPDmEntity.trySendNextSegment, if_pos (by exact idle)]
    exact queued

/-- A frame of the own channel is lost. -/
theorem lose (joint : Joint limit heldOwn heldPeer own peer mine theirs) {position : Nat}
    (inside : position < own.outbound.length) :
    ∃ mine', Joint limit heldOwn heldPeer
      { own with outbound := own.outbound.eraseIdx position } peer mine' theirs := by
  have fewer := List.eraseIdx_sublist mine.packets position
  refine ⟨{ mine with packets := mine.packets.eraseIdx position }, ?_, ?_⟩
  · refine { joint.forward with
      carried := ?_
      transfer := joint.forward.transfer.lose_data (fewer.filterMap _) }
    rw [Station.wire, ← List.eraseIdx_append_of_lt_length inside]
    exact forall₂_eraseIdx joint.forward.carried position
  · exact { joint.backward with
      transfer := joint.backward.transfer.lose_acks (fewer.map _) }

/-- Time passes; `kept` excludes the expiry that exhausts the budget. -/
theorem tickT200 (short : limit ≤ 63)
    (joint : Joint limit heldOwn heldPeer own peer mine theirs) {elapsed : Int}
    (kept : (own.entity.tickT200 elapsed).1.state = .linkEstablished) :
    ∃ mine', Joint limit heldOwn heldPeer
      { own with entity := (own.entity.tickT200 elapsed).1 } peer mine' theirs := by
  rw [LAPDmEntity.tickT200] at kept ⊢
  split at kept
  case isTrue stopped =>
    rw [if_pos stopped]
    exact ⟨mine, joint⟩
  case isFalse running =>
    rw [if_neg running]
    split at kept
    case isTrue early =>
      rw [if_pos early]
      exact ⟨mine, joint.irrelevant _ _ _ _ _ _⟩
    case isFalse due =>
      rw [if_neg due]
      dsimp only at kept ⊢
      split at kept
      case isTrue budget =>
        rw [if_pos budget]
        have expired := joint.irrelevant own.entity.establishmentInProgress false
          own.entity.rc 0 own.entity.framesReceived own.entity.retransmissions
        obtain ⟨mine', repeated⟩ := expired.retransmitPending short
        exact ⟨mine', repeated.irrelevant _ _ _ _ _ _⟩
      case isFalse exhausted =>
        simp [LAPDmEntity.abnormalRelease, LAPDmEntity.deliverL3,
          LAPDmEntity.transitionTo] at kept

/-- Every action that leaves the link established keeps the relation. -/
theorem act {own' peer' : Station} {action : Action} (positive : 1 ≤ limit) (short : limit ≤ 63)
    (joint : Joint limit heldOwn heldPeer own peer mine theirs)
    (stepped : act own peer action = some (own', peer'))
    (kept : own'.entity.state = .linkEstablished) :
    ∃ mine' theirs', Joint limit heldOwn heldPeer own' peer' mine' theirs' := by
  cases action with
  | sendData l3Data =>
      simp only [Lapdm.act, LAPDmEntity.sendData, LAPDmEntity.isEstablished,
        joint.forward.established, decide_true, Bool.true_or, Bool.true_eq_false,
        ↓reduceIte] at stepped
      by_cases empty : l3Data = []
      · simp only [empty, ↓reduceIte, Option.some.injEq, Prod.mk.injEq] at stepped
        obtain ⟨rfl, rfl⟩ := stepped
        exact ⟨mine, theirs, joint.settle⟩
      · simp only [empty, ↓reduceIte, Option.some.injEq, Prod.mk.injEq] at stepped
        obtain ⟨rfl, rfl⟩ := stepped
        obtain ⟨mine', sent⟩ := joint.sendData positive short empty
        exact ⟨mine', theirs, sent.settle⟩
  | receive =>
      cases head : peer.outbound with
      | nil => simp [Lapdm.act, head] at stepped
      | cons frameBytes rest =>
          simp only [Lapdm.act, head, Option.some.injEq, Prod.mk.injEq] at stepped
          obtain ⟨rfl, rfl⟩ := stepped
          obtain ⟨mine', theirs', received⟩ := joint.receiveFrame positive short head kept
          exact ⟨mine', theirs', received.settle⟩
  | lose position =>
      by_cases inside : position < own.outbound.length
      · simp only [Lapdm.act, inside, ↓reduceIte, Option.some.injEq, Prod.mk.injEq] at stepped
        obtain ⟨rfl, rfl⟩ := stepped
        obtain ⟨mine', lost⟩ := joint.lose inside
        exact ⟨mine', theirs, lost⟩
      · simp [Lapdm.act, inside] at stepped
  | tickT200 elapsed =>
      simp only [Lapdm.act, Option.some.injEq, Prod.mk.injEq] at stepped
      obtain ⟨rfl, rfl⟩ := stepped
      obtain ⟨mine', ticked⟩ := joint.tickT200 short kept
      exact ⟨mine', theirs, ticked.settle⟩

/-- What the peer passed up is a prefix of what this side accepted, behind the
octets the peer's buffer held at the start. -/
theorem delivered_prefix (joint : Joint limit heldOwn heldPeer own peer mine theirs) :
    peer.delivered <+: Reassembly.prepend heldPeer own.accepted := by
  have taken : (mine.sent.take theirs.received).drop 8 ++
      (mine.sent.drop theirs.received ++ own.entity.backlog) =
      own.accepted.flatMap (segments limit) := by
    rw [← joint.forward.segmented, ← List.append_assoc]
    congr 1
    conv_rhs => rw [← List.take_append_drop theirs.received mine.sent]
    rw [List.drop_append_of_le_length]
    rw [List.length_take]
    exact le_min joint.backward.preloaded (joint.backward.preloaded.trans joint.received_le)
  have released := Reassembly.delivered_prefix heldPeer taken
  rw [joint.backward.reassembled] at released
  exact (List.prefix_append _ _).trans released

end Joint

/-- The two stations of a link stand for some pair of histories. -/
def Synchronised (limit : Nat) (heldLeft heldRight : List UInt8) (link : Link) : Prop :=
  ∃ mine theirs, Joint limit heldLeft heldRight link.left link.right mine theirs

/-- Synchronisation is kept along every run of an established link. -/
theorem Synchronised.run {limit : Nat} {heldLeft heldRight : List UInt8} {origin link : Link}
    {events : List (Side × Action)} (positive : 1 ≤ limit) (short : limit ≤ 63)
    (synchronised : Synchronised limit heldLeft heldRight origin)
    (run : origin.Run events link) : Synchronised limit heldLeft heldRight link := by
  refine run.invariant (fun _ => Synchronised limit heldLeft heldRight)
    synchronised ?_
  rintro past source target ⟨side, action⟩ ⟨mine, theirs, joint⟩ stepped kept
  cases side with
  | left =>
      obtain ⟨⟨own', peer'⟩, acted, rfl⟩ := Option.map_eq_some_iff.mp stepped
      exact joint.act positive short acted kept.1
  | right =>
      obtain ⟨⟨own', peer'⟩, acted, rfl⟩ := Option.map_eq_some_iff.mp stepped
      obtain ⟨theirs', mine', next⟩ := joint.symm.act positive short acted kept.2
      exact ⟨mine', theirs', next.symm⟩

end Lapdm

end Gsml3
