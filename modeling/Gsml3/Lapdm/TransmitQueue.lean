import Gsml3.Foundation.Segmentation
import Gsml3.Lapdm.Entity

/-!
# Transmit queue

The entity keeps the octets of all queued messages in one flat buffer together
with the end offset of each message, the index of the message being sent and
the offset of its next octet.  `QueueConsistent` is the bookkeeping invariant,
`unsent` the messages the buffer stands for and `backlog` the segments they are
still going to be sent as.  The specification of `trySendNextSegment` is stated
over the backlog: it transmits the first segment and leaves the others.
-/

namespace Gsml3

namespace Lapdm

open Foundation

/-- The messages of a flat buffer from offset `pos` on, given their ends. -/
def messagesFrom (queue : List UInt8) : Nat → List Nat → List (List UInt8)
  | _, [] => []
  | pos, stop :: ends => (queue.drop pos).take (stop - pos) :: messagesFrom queue stop ends

/-- Octets appended behind the last end form one further message. -/
theorem messagesFrom_append (queue data : List UInt8) (pos : Nat) (ends : List Nat)
    (increasing : (pos :: ends).Pairwise (· ≤ ·))
    (filled : (pos :: ends).getLast (List.cons_ne_nil pos ends) = queue.length) :
    messagesFrom (queue ++ data) pos (ends ++ [queue.length + data.length]) =
      messagesFrom queue pos ends ++ [data] := by
  induction ends generalizing pos with
  | nil =>
      obtain rfl : pos = queue.length := filled
      simp [messagesFrom]
  | cons stop ends ih =>
      have tail := (List.pairwise_cons.mp increasing).2
      rw [List.getLast_cons (List.cons_ne_nil stop ends)] at filled
      have bounded : stop ≤ queue.length := filled ▸ tail.rel_getLast (by simp)
      have ordered := (List.pairwise_cons.mp increasing).1 stop (by simp)
      have head : ((queue ++ data).drop pos).take (stop - pos) =
          (queue.drop pos).take (stop - pos) := by
        rw [List.drop_append_of_le_length (by omega), List.take_append_of_le_length]
        rw [List.length_drop]
        omega
      rw [List.cons_append, messagesFrom, head, ih stop tail filled, messagesFrom,
        List.cons_append]

namespace LAPDmEntity

/-- Messages accepted for transmission of which octets remain to be sent. -/
def unsent (e : LAPDmEntity) : List (List UInt8) :=
  messagesFrom e.txQueue e.txQueuePos (e.txMsgEnds.drop e.txMsgIdx)

/-- Segments that remain to be sent. -/
def backlog (e : LAPDmEntity) : List (Segment UInt8) :=
  e.unsent.flatMap (segments e.profile.n201)

/-- The bookkeeping of the transmit queue. -/
structure QueueConsistent (e : LAPDmEntity) : Prop where
  increasing : e.txMsgEnds.Pairwise (· < ·)
  position : ∀ stop ∈ e.txMsgEnds.drop e.txMsgIdx, e.txQueuePos < stop
  filled : (0 :: e.txMsgEnds).getLast (List.cons_ne_nil 0 _) = e.txQueue.length
  drained : e.txMsgEnds.length ≤ e.txMsgIdx →
    e.txMsgEnds = [] ∧ e.txMsgIdx = 0 ∧ e.txQueuePos = 0

/-- An empty queue is consistent. -/
theorem QueueConsistent.of_empty {e : LAPDmEntity} (queue : e.txQueue = [])
    (ends : e.txMsgEnds = []) (index : e.txMsgIdx = 0) (pos : e.txQueuePos = 0) :
    e.QueueConsistent := by
  refine ⟨?_, ?_, ?_, fun _ => ⟨ends, index, pos⟩⟩ <;> simp [queue, ends]

namespace QueueConsistent

variable {e : LAPDmEntity}

/-- The bookkeeping reads the queue only. -/
theorem frame {target : LAPDmEntity} (consistent : e.QueueConsistent)
    (queue : target.txQueue = e.txQueue) (ends : target.txMsgEnds = e.txMsgEnds)
    (index : target.txMsgIdx = e.txMsgIdx) (pos : target.txQueuePos = e.txQueuePos) :
    target.QueueConsistent := by
  obtain ⟨increasing, position, filled, drained⟩ := consistent
  refine ⟨?_, ?_, ?_, ?_⟩
  · rwa [ends]
  · rwa [ends, index, pos]
  · simpa only [ends, queue] using filled
  · rwa [ends, index, pos]

/-- The offset and the remaining ends increase strictly. -/
theorem pending_increasing (consistent : e.QueueConsistent) :
    (e.txQueuePos :: e.txMsgEnds.drop e.txMsgIdx).Pairwise (· < ·) :=
  List.pairwise_cons.mpr
    ⟨consistent.position, consistent.increasing.sublist (List.drop_sublist _ _)⟩

/-- The last remaining end, or the offset of a drained queue, is the size of
the buffer. -/
theorem pending_filled (consistent : e.QueueConsistent) :
    (e.txQueuePos :: e.txMsgEnds.drop e.txMsgIdx).getLast (List.cons_ne_nil _ _) =
      e.txQueue.length := by
  have filled := consistent.filled
  by_cases empty : e.txMsgEnds.length ≤ e.txMsgIdx
  · obtain ⟨ends, index, pos⟩ := consistent.drained empty
    simp only [ends, index, pos, List.drop_nil] at filled ⊢
    exact filled
  · have remaining : e.txMsgEnds.drop e.txMsgIdx ≠ [] := by
      rw [ne_eq, List.drop_eq_nil_iff]
      exact empty
    have some_end : e.txMsgEnds ≠ [] := fun none => remaining (by rw [none, List.drop_nil])
    rw [List.getLast_cons some_end] at filled
    rw [List.getLast_cons remaining, List.getLast_drop, filled]

/-- Every remaining end lies inside the buffer. -/
theorem end_le (consistent : e.QueueConsistent) {stop : Nat}
    (member : stop ∈ e.txMsgEnds.drop e.txMsgIdx) : stop ≤ e.txQueue.length := by
  have increasing := consistent.pending_increasing.imp fun before => le_of_lt before
  rw [← consistent.pending_filled]
  exact increasing.rel_getLast (List.mem_cons_of_mem _ member)

end QueueConsistent

/-- Enqueueing a message keeps the bookkeeping. -/
theorem QueueConsistent.enqueue {e : LAPDmEntity} (consistent : e.QueueConsistent)
    {l3Data : List UInt8} (nonempty : l3Data ≠ []) : (e.enqueue l3Data).QueueConsistent := by
  have positive := List.length_pos_iff.mpr nonempty
  have below : ∀ stop ∈ 0 :: e.txMsgEnds, stop ≤ e.txQueue.length := by
    intro stop member
    have increasing : (0 :: e.txMsgEnds).Pairwise (· ≤ ·) :=
      List.pairwise_cons.mpr
        ⟨fun _ _ => Nat.zero_le _, consistent.increasing.imp fun before => le_of_lt before⟩
    exact consistent.filled ▸ increasing.rel_getLast member
  refine ⟨?_, ?_, ?_, ?_⟩
  · refine List.pairwise_append.mpr ⟨consistent.increasing, by simp, ?_⟩
    intro earlier member last new
    obtain rfl : last = e.txQueue.length + l3Data.length := by simpa using new
    have bound := below earlier (List.mem_cons_of_mem 0 member)
    omega
  · intro stop member
    have bound := consistent.pending_increasing.imp fun before => le_of_lt before
    have here := consistent.pending_filled ▸ bound.rel_getLast (List.mem_cons_self ..)
    simp only [LAPDmEntity.enqueue, List.drop_append, List.mem_append] at member ⊢
    rcases member with old | new
    · exact consistent.position stop old
    · obtain rfl : stop = e.txQueue.length + l3Data.length := by
        simpa using List.mem_of_mem_drop new
      omega
  · simp [LAPDmEntity.enqueue, List.length_append]
  · intro beyond
    simp only [LAPDmEntity.enqueue, List.length_append, List.length_singleton] at beyond
    have empty := consistent.drained (by omega)
    simp only [empty, List.length_nil] at beyond
    omega

/-- Enqueueing a message adds it behind the unsent ones. -/
theorem unsent_enqueue {e : LAPDmEntity} (consistent : e.QueueConsistent)
    (l3Data : List UInt8) : (e.enqueue l3Data).unsent = e.unsent ++ [l3Data] := by
  have within : e.txMsgIdx ≤ e.txMsgEnds.length := by
    by_contra beyond
    have empty := consistent.drained (by omega)
    simp only [empty, List.length_nil] at beyond
    omega
  have increasing := consistent.pending_increasing.imp fun before => le_of_lt before
  rw [unsent, LAPDmEntity.enqueue, List.drop_append_of_le_length within]
  exact messagesFrom_append e.txQueue l3Data e.txQueuePos _ increasing consistent.pending_filled

/-- `target` is `source` after it numbered, stored and transmitted `segment`
from the head of its backlog. -/
structure SendsSegment (source target : LAPDmEntity) (segment : Segment UInt8) : Prop where
  outputs : target.outputs = source.outputs ++
    [.transmit (encodeFrame (makeIFrame source.sapi source.commandBit source.vr source.vs
      false segment.more segment.info))]
  vs : target.vs = source.vs + 1
  va : target.va = source.va
  vr : target.vr = source.vr
  pending : target.pending = .iFrame
  pendingNs : target.pendingNs = source.vs
  pendingMore : target.pendingMore = segment.more
  pendingInfo : target.pendingInfo = segment.info
  profile : target.profile = source.profile
  state : target.state = source.state
  sapi : target.sapi = source.sapi
  commandBit : target.commandBit = source.commandBit
  reassemblyBuffer : target.reassemblyBuffer = source.reassemblyBuffer
  t200Active : target.t200Active = true
  consistent : target.QueueConsistent
  backlog : source.backlog = segment :: target.backlog

/-- Advancing the queue touches the queue only. -/
theorem advanceQueue_frame (e : LAPDmEntity) (msgEnd chunkSize : Nat) :
    ∃ queue ends pos index, e.advanceQueue msgEnd chunkSize =
      { e with txQueue := queue, txMsgEnds := ends, txQueuePos := pos, txMsgIdx := index } := by
  rw [advanceQueue]
  split
  · split <;> exact ⟨_, _, _, _, rfl⟩
  · exact ⟨_, _, _, _, rfl⟩

/-- Advancing over the head segment of the first unsent message leaves the
other segments in a consistent queue. -/
private theorem advanceQueue_spec {e : LAPDmEntity} {msgEnd : Nat} {ends : List Nat}
    (positive : 0 < e.profile.n201) (consistent : e.QueueConsistent)
    (current : e.txMsgEnds.drop e.txMsgIdx = msgEnd :: ends) :
    (e.advanceQueue msgEnd (min (msgEnd - e.txQueuePos) e.profile.n201)).QueueConsistent ∧
      e.backlog =
        ⟨(e.txQueue.drop e.txQueuePos).take (min (msgEnd - e.txQueuePos) e.profile.n201),
          decide (e.profile.n201 < msgEnd - e.txQueuePos)⟩ ::
        (e.advanceQueue msgEnd (min (msgEnd - e.txQueuePos) e.profile.n201)).backlog := by
  have bounded : msgEnd ≤ e.txQueue.length := consistent.end_le (by simp [current])
  have ahead : e.txQueuePos < msgEnd := consistent.position msgEnd (by simp [current])
  have inside : e.txMsgIdx < e.txMsgEnds.length := by
    by_contra beyond
    rw [List.drop_eq_nil_of_le (by omega)] at current
    exact List.cons_ne_nil _ _ current.symm
  have later : e.txMsgEnds.drop (e.txMsgIdx + 1) = ends := by
    rw [List.drop_eq_getElem_cons inside] at current
    exact (List.cons.inj current).2
  have ordered := current ▸ consistent.increasing.sublist (List.drop_sublist e.txMsgIdx _)
  have message : ((e.txQueue.drop e.txQueuePos).take (msgEnd - e.txQueuePos)).length =
      msgEnd - e.txQueuePos := by
    rw [List.length_take, List.length_drop]
    omega
  have unsent : e.unsent =
      (e.txQueue.drop e.txQueuePos).take (msgEnd - e.txQueuePos) ::
        messagesFrom e.txQueue msgEnd ends := by
    rw [LAPDmEntity.unsent, current, messagesFrom]
  by_cases short : msgEnd - e.txQueuePos ≤ e.profile.n201
  · have first : segments e.profile.n201
        ((e.txQueue.drop e.txQueuePos).take (msgEnd - e.txQueuePos)) =
        [⟨(e.txQueue.drop e.txQueuePos).take (msgEnd - e.txQueuePos), false⟩] :=
      segments_of_short (by omega)
    have unmarked : decide (e.profile.n201 < msgEnd - e.txQueuePos) = false :=
      decide_eq_false (by omega)
    have whole : e.txQueuePos + (msgEnd - e.txQueuePos) = msgEnd := by omega
    rw [Nat.min_eq_left short, unmarked]
    rw [backlog, unsent, List.flatMap_cons, first]
    by_cases final : e.txMsgEnds.length ≤ e.txMsgIdx + 1
    · obtain rfl : ends = [] := by rw [← later, List.drop_eq_nil_of_le final]
      have drained : e.advanceQueue msgEnd (msgEnd - e.txQueuePos) =
          { e with txQueue := [], txMsgEnds := [], txQueuePos := 0, txMsgIdx := 0 } := by
        rw [advanceQueue, if_pos (by omega), if_pos final]
      rw [drained]
      exact ⟨.of_empty rfl rfl rfl rfl, rfl⟩
    · have stepped : e.advanceQueue msgEnd (msgEnd - e.txQueuePos) =
          { e with txQueuePos := msgEnd, txMsgIdx := e.txMsgIdx + 1 } := by
        rw [advanceQueue, if_pos (by omega), if_neg final, whole]
      rw [stepped]
      refine ⟨⟨consistent.increasing, ?_, consistent.filled, fun beyond => absurd beyond final⟩, ?_⟩
      · intro stop member
        rw [later] at member
        exact (List.pairwise_cons.mp ordered).1 stop member
      · simp only [backlog, LAPDmEntity.unsent, later, List.singleton_append]
  · have marked : decide (e.profile.n201 < msgEnd - e.txQueuePos) = true :=
      decide_eq_true (by omega)
    have longer : e.profile.n201 <
        ((e.txQueue.drop e.txQueuePos).take (msgEnd - e.txQueuePos)).length := by omega
    have first := segments_of_long positive longer
    have stepped : e.advanceQueue msgEnd e.profile.n201 =
        { e with txQueuePos := e.txQueuePos + e.profile.n201 } := by
      rw [advanceQueue, if_neg (by omega)]
    rw [Nat.min_eq_right (by omega), marked, stepped]
    refine ⟨⟨consistent.increasing, ?_, consistent.filled, fun beyond => absurd beyond (by
      change ¬ e.txMsgEnds.length ≤ e.txMsgIdx
      omega)⟩, ?_⟩
    · intro stop member
      change stop ∈ e.txMsgEnds.drop e.txMsgIdx at member
      change e.txQueuePos + e.profile.n201 < stop
      rw [current] at member
      rcases List.mem_cons.mp member with rfl | farther
      · omega
      · have beyond := (List.pairwise_cons.mp ordered).1 stop farther
        omega
    · have rest : ((e.txQueue.drop e.txQueuePos).take (msgEnd - e.txQueuePos)).drop
            e.profile.n201 =
          (e.txQueue.drop (e.txQueuePos + e.profile.n201)).take
            (msgEnd - (e.txQueuePos + e.profile.n201)) := by
        rw [List.drop_take, List.drop_drop, Nat.sub_add_eq]
      have piece : ((e.txQueue.drop e.txQueuePos).take (msgEnd - e.txQueuePos)).take
            e.profile.n201 = (e.txQueue.drop e.txQueuePos).take e.profile.n201 := by
        rw [List.take_take, Nat.min_eq_left (by omega)]
      simp only [backlog, LAPDmEntity.unsent, current, messagesFrom, List.flatMap_cons,
        first, piece, rest, List.cons_append]

/-- Sending from an idle line either finds no segment or sends the first one. -/
theorem trySendNextSegment_cases {e : LAPDmEntity} (positive : 0 < e.profile.n201)
    (consistent : e.QueueConsistent) (idle : e.vs = e.va) :
    (e.backlog = [] ∧ e.trySendNextSegment = e) ∨
      ∃ segment, SendsSegment e e.trySendNextSegment segment := by
  cases current : e.txMsgEnds.drop e.txMsgIdx with
  | nil =>
      have absent : e.txMsgEnds[e.txMsgIdx]? = none := by
        rw [List.getElem?_eq_none_iff]
        exact List.drop_eq_nil_iff.mp current
      refine .inl ⟨?_, ?_⟩
      · simp [backlog, unsent, current, messagesFrom]
      · rw [trySendNextSegment, if_neg (not_not.mpr idle), absent]
  | cons msgEnd ends =>
      have present : e.txMsgEnds[e.txMsgIdx]? = some msgEnd := by
        rw [← List.head?_drop, current, List.head?_cons]
      let payload := (e.txQueue.drop e.txQueuePos).take
        (min (msgEnd - e.txQueuePos) e.profile.n201)
      let more := decide (e.profile.n201 < msgEnd - e.txQueuePos)
      let built := e.buildIFrame payload more
      have sent : e.trySendNextSegment =
          built.advanceQueue msgEnd (min (msgEnd - e.txQueuePos) e.profile.n201) := by
        rw [trySendNextSegment, if_neg (not_not.mpr idle), present]
      have carried : built.QueueConsistent := consistent.frame rfl rfl rfl rfl
      obtain ⟨advanced, split⟩ := advanceQueue_spec (e := built) positive carried current
      obtain ⟨queue, ends, pos, index, frame⟩ :=
        advanceQueue_frame built msgEnd (min (msgEnd - e.txQueuePos) e.profile.n201)
      refine .inr ⟨⟨payload, more⟩, ?_⟩
      rw [sent]
      constructor
      case consistent => exact advanced
      case backlog => exact split
      all_goals rw [frame]; rfl

end LAPDmEntity

end Lapdm

end Gsml3
