import Gsml3.Lapdm.TransmitQueue

/-!
# Invariants of a single entity

What holds of an entity after any sequence of public calls, whatever frames it
received: the transmit queue is consistent, and on an established link the
outstanding frame is either absent or the last numbered I-frame.
-/

namespace Gsml3

namespace Lapdm

open Foundation

namespace LAPDmEntity

section Profile

variable (e : LAPDmEntity)

@[simp] theorem profile_abnormalRelease (withDM : Bool) :
    (e.abnormalRelease withDM).profile = e.profile := by
  cases withDM <;> rfl

@[simp] theorem profile_advanceQueue (msgEnd chunkSize : Nat) :
    (e.advanceQueue msgEnd chunkSize).profile = e.profile := by
  rw [advanceQueue]
  split
  · split <;> rfl
  · rfl

@[simp] theorem profile_trySendNextSegment : e.trySendNextSegment.profile = e.profile := by
  rw [trySendNextSegment]
  split
  · rfl
  · split
    · rfl
    · exact profile_advanceQueue _ _ _

@[simp] theorem profile_processAck (nr : Fin 8) : (e.processAck nr).profile = e.profile := by
  rw [processAck]
  split
  · exact profile_trySendNextSegment _
  · rfl

@[simp] theorem profile_completeEstablishment :
    e.completeEstablishment.profile = e.profile := by
  rw [completeEstablishment]
  split <;> rfl

@[simp] theorem profile_acceptIFrame (frame : LAPDmFrame) :
    (e.acceptIFrame frame).profile = e.profile := by
  rw [acceptIFrame]
  split
  · exact profile_abnormalRelease e false
  · cases frame.more <;> rfl

@[simp] theorem profile_checkSequence (frame : LAPDmFrame) :
    (e.checkSequence frame).profile = e.profile := by
  rw [checkSequence]
  split
  · rfl
  · exact profile_acceptIFrame _ frame

theorem profile_receiveFrame (frameBytes : List UInt8) :
    (e.receiveFrame frameBytes).profile = e.profile := by
  rw [receiveFrame]
  split
  · rfl
  · next frame _ =>
    dsimp only
    split
    · rfl
    · cases frame.format with
      | iFormat =>
          dsimp only [receiveIFrame]
          split
          · simp
          · simp
      | sFormat =>
          dsimp only [receiveSFrame]
          cases frame.sType <;> dsimp only <;> repeat' split
          all_goals simp [sendRR, sendFrame]
      | uFormat =>
          dsimp only [receiveUFrame, handleSABME, handleUA, handleDM, handleDISC, handleUI]
          cases frame.uType <;> dsimp only <;> repeat' split
          all_goals rfl

/-- No call changes the channel profile. -/
theorem profile_call (request : Call) : (e.call request).profile = e.profile := by
  cases request with
  | openEntity sapi commandBit => rfl
  | receiveFrame frameBytes => exact e.profile_receiveFrame frameBytes
  | sendUI sapi l3Data => rfl
  | sendData l3Data =>
      dsimp only [call, sendData]
      split
      · rfl
      · split
        · rfl
        · exact profile_trySendNextSegment _
  | sendSABME info =>
      dsimp only [call, sendSABME]
      split
      · rfl
      · split <;> rfl
  | sendDISC =>
      dsimp only [call, sendDISC]
      split <;> rfl
  | hardRelease => rfl
  | tickT200 elapsed =>
      dsimp only [call, tickT200]
      split
      · rfl
      · split
        · rfl
        · split
          · dsimp only [retransmitPending]
            cases e.pending <;> rfl
          · exact profile_abnormalRelease _ false
  | resetStats => rfl

end Profile

/-- The invariant of an entity under arbitrary calls. -/
structure Coherent (e : LAPDmEntity) : Prop where
  queue : e.QueueConsistent
  outstanding : e.isEstablished = true → e.pending = .none ∨
    (e.pending = .iFrame ∧ e.pendingNs + 1 = e.vs ∧
      e.pendingInfo.length ≤ e.profile.n201)

namespace Coherent

variable {e : LAPDmEntity}

/-- An entity with cleared counters is coherent. -/
theorem of_cleared (queue : e.txQueue = []) (ends : e.txMsgEnds = [])
    (index : e.txMsgIdx = 0) (pos : e.txQueuePos = 0) (pending : e.pending = .none) :
    e.Coherent :=
  ⟨.of_empty queue ends index pos, fun _ => .inl pending⟩

/-- Coherence reads the queue, the outstanding frame and the state only. -/
theorem frame {target : LAPDmEntity} (coherent : e.Coherent)
    (profile : target.profile = e.profile) (queue : target.txQueue = e.txQueue)
    (ends : target.txMsgEnds = e.txMsgEnds) (index : target.txMsgIdx = e.txMsgIdx)
    (pos : target.txQueuePos = e.txQueuePos)
    (outstanding : target.isEstablished = true → e.isEstablished = true ∧
      target.pending = e.pending ∧ target.pendingNs = e.pendingNs ∧ target.vs = e.vs ∧
      target.pendingInfo = e.pendingInfo) : target.Coherent := by
  refine ⟨coherent.queue.frame queue ends index pos, fun established => ?_⟩
  obtain ⟨before, pending, number, vs, info⟩ := outstanding established
  rw [pending, number, vs, info, profile]
  exact coherent.outstanding before

/-- A segment of the backlog fits the payload limit. -/
theorem length_le_of_mem_backlog (positive : 0 < e.profile.n201) {segment : Segment UInt8}
    (member : segment ∈ e.backlog) : segment.info.length ≤ e.profile.n201 := by
  obtain ⟨message, -, piece⟩ := List.mem_flatMap.mp member
  exact length_info_le_of_mem_segments positive message segment piece

/-- Sending a segment keeps the entity coherent. -/
theorem trySendNextSegment (positive : 0 < e.profile.n201) (coherent : e.Coherent) :
    e.trySendNextSegment.Coherent := by
  by_cases idle : e.vs = e.va
  · rcases trySendNextSegment_cases positive coherent.queue idle with ⟨-, same⟩ | ⟨segment, sent⟩
    · rwa [same]
    · refine ⟨sent.consistent, fun _ => .inr ⟨sent.pending, ?_, ?_⟩⟩
      · rw [sent.pendingNs, sent.vs]
      · rw [sent.pendingInfo, sent.profile]
        exact length_le_of_mem_backlog positive (sent.backlog ▸ List.mem_cons_self ..)
  · rwa [LAPDmEntity.trySendNextSegment, if_pos idle]

/-- An acknowledgement keeps the entity coherent. -/
theorem processAck (positive : 0 < e.profile.n201) (coherent : e.Coherent) (nr : Fin 8) :
    (e.processAck nr).Coherent := by
  rw [LAPDmEntity.processAck]
  split
  · refine trySendNextSegment positive ?_
    exact coherent.frame rfl rfl rfl rfl rfl fun established => ⟨established, rfl, rfl, rfl, rfl⟩
  · exact coherent.frame rfl rfl rfl rfl rfl fun established => ⟨established, rfl, rfl, rfl, rfl⟩

/-- Callbacks, counters of the timer and statistics do not matter. -/
private theorem same {target : LAPDmEntity} (coherent : e.Coherent)
    (profile : target.profile = e.profile) (queue : target.txQueue = e.txQueue)
    (ends : target.txMsgEnds = e.txMsgEnds) (index : target.txMsgIdx = e.txMsgIdx)
    (pos : target.txQueuePos = e.txQueuePos) (state : target.state = e.state)
    (pending : target.pending = e.pending) (number : target.pendingNs = e.pendingNs)
    (vs : target.vs = e.vs) (info : target.pendingInfo = e.pendingInfo) : target.Coherent := by
  refine coherent.frame profile queue ends index pos fun established => ?_
  refine ⟨?_, pending, number, vs, info⟩
  rwa [isEstablished, state] at established

/-- A release leaves a coherent entity. -/
theorem abnormalRelease (e : LAPDmEntity) (withDM : Bool) :
    (e.abnormalRelease withDM).Coherent := by
  cases withDM <;> exact .of_cleared rfl rfl rfl rfl rfl

theorem completeEstablishment (coherent : e.Coherent) : e.completeEstablishment.Coherent := by
  rw [LAPDmEntity.completeEstablishment]
  split
  case isTrue contention =>
    refine coherent.frame rfl rfl rfl rfl rfl fun _ => ⟨?_, rfl, rfl, rfl, rfl⟩
    simp [isEstablished, contention]
  case isFalse => exact coherent

/-- A frame in sequence keeps the entity coherent. -/
theorem acceptIFrame (coherent : e.Coherent) (frame : LAPDmFrame) :
    (e.acceptIFrame frame).Coherent := by
  rw [LAPDmEntity.acceptIFrame]
  split
  · exact abnormalRelease e false
  · cases frame.more <;> exact coherent.same rfl rfl rfl rfl rfl rfl rfl rfl rfl rfl

/-- The sequence check keeps the entity coherent. -/
theorem checkSequence (coherent : e.Coherent) (frame : LAPDmFrame) :
    (e.checkSequence frame).Coherent := by
  rw [LAPDmEntity.checkSequence]
  split
  · exact coherent.same rfl rfl rfl rfl rfl rfl rfl rfl rfl rfl
  · refine acceptIFrame ?_ frame
    exact coherent.same rfl rfl rfl rfl rfl rfl rfl rfl rfl rfl

/-- An I frame keeps the entity coherent. -/
theorem receiveIFrame (positive : 0 < e.profile.n201) (coherent : e.Coherent)
    (frame : LAPDmFrame) : (e.receiveIFrame frame).Coherent := by
  let started := { e with establishmentInProgress := false }
  have opened : started.completeEstablishment.Coherent :=
    completeEstablishment (e := started)
      (coherent.same rfl rfl rfl rfl rfl rfl rfl rfl rfl rfl)
  have limit : 0 < started.completeEstablishment.profile.n201 := by
    rwa [profile_completeEstablishment]
  have acked := processAck limit opened frame.iCtrl.nr
  rw [LAPDmEntity.receiveIFrame]
  split
  · exact opened
  · exact checkSequence acked frame

/-- A supervisory frame keeps the entity coherent. -/
theorem receiveSFrame (positive : 0 < e.profile.n201) (coherent : e.Coherent)
    (frame : LAPDmFrame) : (e.receiveSFrame frame).Coherent := by
  let started := { e with establishmentInProgress := false }
  have opened : started.completeEstablishment.Coherent :=
    completeEstablishment (e := started)
      (coherent.same rfl rfl rfl rfl rfl rfl rfl rfl rfl rfl)
  have limit : 0 < started.completeEstablishment.profile.n201 := by
    rwa [profile_completeEstablishment]
  have acked := processAck limit opened frame.nr
  have answered : ((started.completeEstablishment.processAck frame.nr).sendRR true).Coherent :=
    acked.same rfl rfl rfl rfl rfl rfl rfl rfl rfl rfl
  rw [LAPDmEntity.receiveSFrame]
  cases frame.sType with
  | rr =>
      dsimp only
      split
      · exact opened
      · split
        · exact answered
        · exact acked
  | rnr => exact abnormalRelease started true
  | rej =>
      dsimp only
      split
      · exact opened
      · split
        · split
          · exact abnormalRelease _ true
          · exact answered
        · exact acked
  | reserved => exact coherent.same rfl rfl rfl rfl rfl rfl rfl rfl rfl rfl

/-- A SABME keeps the entity coherent. -/
theorem handleSABME (coherent : e.Coherent) (frame : LAPDmFrame) :
    (e.handleSABME frame).Coherent := by
  have answered : ∀ reply, (e.sendFrame reply).Coherent := fun reply =>
    coherent.same rfl rfl rfl rfl rfl rfl rfl rfl rfl rfl
  rw [LAPDmEntity.handleSABME]
  split
  · exact coherent
  · cases state : e.state with
    | linkReleased =>
        dsimp only
        split <;> exact .of_cleared rfl rfl rfl rfl rfl
    | awaitingEstablish => exact answered _
    | awaitingRelease => exact answered _
    | linkEstablished =>
        dsimp only
        split
        · split <;> exact answered _
        · split
          · exact abnormalRelease e true
          · exact .of_cleared rfl rfl rfl rfl rfl
    | contentionResolution =>
        dsimp only
        split
        · refine coherent.frame rfl rfl rfl rfl rfl fun _ => ⟨?_, rfl, rfl, rfl, rfl⟩
          simp [isEstablished, state]
        · exact coherent
    | unused => exact coherent

/-- An unnumbered frame keeps the entity coherent. -/
theorem receiveUFrame (coherent : e.Coherent) (frame : LAPDmFrame) :
    (e.receiveUFrame frame).Coherent := by
  rw [LAPDmEntity.receiveUFrame]
  cases frame.uType with
  | sabme => exact handleSABME coherent frame
  | ua =>
      dsimp only [handleUA]
      split
      · exact coherent
      · cases e.state <;> first
          | exact coherent
          | exact .of_cleared rfl rfl rfl rfl rfl
  | dm =>
      dsimp only [handleDM]
      split
      · exact coherent
      · cases state : e.state <;> first
          | exact coherent
          | exact .of_cleared rfl rfl rfl rfl rfl
          | exact coherent.same rfl rfl rfl rfl rfl state.symm rfl rfl rfl rfl
  | disc =>
      dsimp only [handleDISC]
      cases state : e.state <;> first
        | exact .of_cleared rfl rfl rfl rfl rfl
        | exact coherent.same rfl rfl rfl rfl rfl state.symm rfl rfl rfl rfl
  | ui => exact coherent.same rfl rfl rfl rfl rfl rfl rfl rfl rfl rfl

/-- Every frame keeps the entity coherent. -/
theorem receiveFrame (positive : 0 < e.profile.n201) (coherent : e.Coherent)
    (frameBytes : List UInt8) : (e.receiveFrame frameBytes).Coherent := by
  rw [LAPDmEntity.receiveFrame]
  split
  · exact coherent
  · next frame _ =>
    have counted : { e with framesReceived := e.framesReceived + 1 }.Coherent :=
      coherent.same rfl rfl rfl rfl rfl rfl rfl rfl rfl rfl
    dsimp only
    split
    · exact counted
    · cases frame.format with
      | iFormat =>
          refine receiveIFrame ?_ counted frame
          exact positive
      | sFormat =>
          refine receiveSFrame ?_ counted frame
          exact positive
      | uFormat => exact receiveUFrame counted frame

/-- Data keeps the entity coherent. -/
theorem sendData (positive : 0 < e.profile.n201) (coherent : e.Coherent)
    (l3Data : List UInt8) : (e.sendData l3Data).1.Coherent := by
  rw [LAPDmEntity.sendData]
  split
  · exact coherent
  · split
    · exact coherent
    · next nonempty =>
      refine trySendNextSegment (e := e.enqueue l3Data) positive ?_
      exact ⟨coherent.queue.enqueue nonempty, coherent.outstanding⟩

/-- A tick keeps the entity coherent. -/
theorem tickT200 (coherent : e.Coherent) (elapsed : Int) : (e.tickT200 elapsed).1.Coherent := by
  rw [LAPDmEntity.tickT200]
  split
  · exact coherent
  · split
    · exact coherent.same rfl rfl rfl rfl rfl rfl rfl rfl rfl rfl
    · dsimp only
      split
      · dsimp only [retransmitPending]
        cases pending : e.pending <;>
          exact coherent.same rfl rfl rfl rfl rfl rfl pending.symm rfl rfl rfl
      · exact abnormalRelease _ false

/-- Every public call keeps an entity coherent. -/
theorem call (positive : 0 < e.profile.n201) (coherent : e.Coherent) (request : Call) :
    (e.call request).Coherent := by
  cases request with
  | openEntity sapi commandBit => exact .of_cleared rfl rfl rfl rfl rfl
  | receiveFrame frameBytes => exact receiveFrame positive coherent frameBytes
  | sendUI sapi l3Data => exact coherent.same rfl rfl rfl rfl rfl rfl rfl rfl rfl rfl
  | sendData l3Data => exact sendData positive coherent l3Data
  | sendSABME info =>
      dsimp only [LAPDmEntity.call, LAPDmEntity.sendSABME]
      split
      · exact coherent.same rfl rfl rfl rfl rfl rfl rfl rfl rfl rfl
      · split
        · exact coherent
        · exact coherent.frame rfl rfl rfl rfl rfl fun established => by
            simp [isEstablished, transitionTo] at established
  | sendDISC =>
      dsimp only [LAPDmEntity.call, LAPDmEntity.sendDISC]
      split
      · exact coherent
      · exact coherent.frame rfl rfl rfl rfl rfl fun established => by
          simp [isEstablished, transitionTo] at established
  | hardRelease => exact .of_cleared rfl rfl rfl rfl rfl
  | tickT200 elapsed => exact tickT200 coherent elapsed
  | resetStats => exact coherent.same rfl rfl rfl rfl rfl rfl rfl rfl rfl rfl

end Coherent

/-- Reachable entities with a positive payload limit are coherent. -/
theorem Reachable.coherent {e : LAPDmEntity} (positive : 0 < e.profile.n201)
    (reachable : e.Reachable) : e.Coherent := by
  obtain ⟨profile, calls, run⟩ := reachable
  have both : e.profile = profile ∧ (0 < profile.n201 → e.Coherent) := by
    refine run.invariant
      (fun _ state => state.profile = profile ∧ (0 < profile.n201 → state.Coherent))
      ⟨rfl, fun _ => .of_cleared rfl rfl rfl rfl rfl⟩ ?_
    rintro past source target request ⟨same, coherent⟩ stepped -
    obtain rfl := Option.some.inj stepped
    refine ⟨(profile_call source request).trans same, fun limit => ?_⟩
    exact (coherent limit).call (same.symm ▸ limit) request
  exact both.2 (both.1 ▸ positive)

end LAPDmEntity

end Lapdm

end Gsml3
