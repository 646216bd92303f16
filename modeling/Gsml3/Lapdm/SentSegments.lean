import Gsml3.Lapdm.AcceptedData
import Gsml3.Lapdm.Unopened

/-!
# Segments on the air

The messages that `sendData` accepted on a link and the segments that were sent of them are kept on
record beside the entity.  A segment is read off the octets handed to layer 1, where an I-frame
without P bit is no repetition.  The cursors of the transmit queue stand for exactly the segments
that the record still lacks.
-/

namespace Gsml3

namespace Lapdm

open Foundation

/-- The segment in octets handed to layer 1, if they are an I-frame that is sent for the first
time: a repetition has the P bit. -/
def segmentOnAir : List UInt8 → Option (Segment UInt8)
  | _ :: ctrl :: header :: info =>
      if (ctrl &&& 0x03 = 0x00 ∨ ctrl &&& 0x03 = 0x02) ∧
          (LAPDmIControlField.decode ctrl).pf = false then
        some ⟨info, (LAPDmLengthField.decode header).more⟩
      else none
  | _ => none

/-- The segments sent with callbacks, in order. -/
def segmentsOnAir (outputs : List Output) : List (Segment UInt8) :=
  (transmitted outputs).filterMap segmentOnAir

/-- The segments of outputs in sequence. -/
@[simp] theorem segmentsOnAir_append (first second : List Output) :
    segmentsOnAir (first ++ second) = segmentsOnAir first ++ segmentsOnAir second := by
  rw [segmentsOnAir, transmitted_append, List.filterMap_append]
  rfl

theorem uFrameControlByte_low (uType : LAPDmUFrameType) (pf : Bool) :
    uFrameControlByte uType pf &&& 0x03 = 0x03 := by
  cases uType <;> cases pf <;> rfl

/-- What is read off the octets is the segment of an I-frame without P bit. -/
theorem segmentOnAir_encodeFrame (frame : LAPDmFrame) :
    segmentOnAir (encodeFrame frame) =
      if frame.format = .iFormat ∧ frame.iCtrl.pf = false then some ⟨frame.info, frame.more⟩
      else none := by
  cases format : frame.format with
  | iFormat =>
      have control := LAPDmIControlField.encode_format frame.iCtrl.nr frame.iCtrl.ns frame.iCtrl.pf
      have number := LAPDmIControlField.decode_encode frame.iCtrl.nr frame.iCtrl.ns frame.iCtrl.pf
      rw [encodeFrame, format, if_neg (by simp), encodeControl, format, segmentOnAir, number,
        LAPDmLengthField.ofSize, LAPDmLengthField.decode_encode]
      simp [control]
  | sFormat =>
      have control := LAPDmSControlField.encode_format frame.nr frame.sType frame.pf
      rw [encodeFrame, format, if_pos rfl, encodeControl, format, segmentOnAir]
      simp [control]
  | uFormat =>
      have control := uFrameControlByte_low frame.uType frame.pf
      rw [encodeFrame, format, if_neg (by simp), encodeControl, format, segmentOnAir]
      simp [control]

/-- A frame is a segment when it is an I frame without the poll bit. -/
theorem segmentsOnAir_frame (frame : LAPDmFrame) :
    segmentsOnAir [.transmit (encodeFrame frame)] =
      if frame.format = .iFormat ∧ frame.iCtrl.pf = false then [⟨frame.info, frame.more⟩]
      else [] := by
  by_cases first : frame.format = .iFormat ∧ frame.iCtrl.pf = false
  · simp [segmentsOnAir, segmentOnAir_encodeFrame, first]
  · simp [segmentsOnAir, segmentOnAir_encodeFrame, first]

/-- A U-frame is no I-frame. -/
theorem unnumbered {frame : LAPDmFrame} (format : frame.format = .uFormat) :
    ¬ (frame.format = .iFormat ∧ frame.iCtrl.pf = false) := by
  simp [format]

/-- A supervisory frame is no segment. -/
theorem supervisory {frame : LAPDmFrame} (format : frame.format = .sFormat) :
    ¬ (frame.format = .iFormat ∧ frame.iCtrl.pf = false) := by
  simp [format]

namespace LAPDmEntity

/-! ## Calls that send no segment -/

/-- No segment is sent. -/
def Wordless (e target : LAPDmEntity) : Prop :=
  ∃ new, target.outputs = e.outputs ++ new ∧ segmentsOnAir new = []

section Wordless

variable {e middle target : LAPDmEntity}

theorem Wordless.refl (e : LAPDmEntity) : Wordless e e :=
  ⟨[], (List.append_nil _).symm, rfl⟩

/-- Steps without a segment compose. -/
theorem Wordless.trans (first : Wordless e middle) (second : Wordless middle target) :
    Wordless e target := by
  obtain ⟨before, outputs, none⟩ := first
  obtain ⟨after, more, still⟩ := second
  refine ⟨before ++ after, ?_, ?_⟩
  · rw [more, outputs, List.append_assoc]
  · rw [segmentsOnAir_append, none, still, List.append_nil]

/-- A step without a callback. -/
theorem Wordless.unheard (wordless : Wordless e middle)
    (outputs : target.outputs = middle.outputs) : Wordless e target := by
  obtain ⟨before, earlier, none⟩ := wordless
  exact ⟨before, outputs.trans earlier, none⟩

/-- A frame that is no I-frame, or a repeated one. -/
theorem Wordless.sendFrame (wordless : Wordless e middle) {frame : LAPDmFrame}
    (other : ¬ (frame.format = .iFormat ∧ frame.iCtrl.pf = false)) :
    Wordless e (middle.sendFrame frame) := by
  apply wordless.trans
  refine ⟨_, rfl, ?_⟩
  rw [segmentsOnAir_frame, if_neg other]

theorem Wordless.deliverL3 (wordless : Wordless e middle) (prim : Primitive)
    (data : List UInt8) : Wordless e (middle.deliverL3 prim data) :=
  wordless.trans ⟨_, rfl, rfl⟩

/-- A release sends no segment. -/
theorem wordless_abnormalRelease (e : LAPDmEntity) (withDM : Bool) :
    Wordless e (e.abnormalRelease withDM) := by
  cases withDM with
  | false =>
      apply Wordless.deliverL3
      exact (Wordless.refl e).unheard rfl
  | true =>
      have refused : Wordless e (e.sendDM true) := (Wordless.refl e).sendFrame (unnumbered rfl)
      apply Wordless.deliverL3
      exact refused.unheard rfl

/-- A SABME sends no segment. -/
theorem wordless_handleSABME (e : LAPDmEntity) (frame : LAPDmFrame) :
    Wordless e (e.handleSABME frame) := by
  have same := Wordless.refl e
  have answered : Wordless e (e.sendUA frame.pf) := same.sendFrame (unnumbered rfl)
  have echoed : Wordless e (e.sendUAWithEcho frame.info frame.pf) :=
    same.sendFrame (unnumbered rfl)
  have indicated : Wordless e ({ e.clearCounters with establishmentInProgress := true }.deliverL3
      .L3_ESTABLISH_INDICATION frame.info) := by
    apply Wordless.deliverL3
    exact same.unheard rfl
  rw [handleSABME]
  split
  · exact same
  · cases e.state with
    | linkReleased =>
        simp only
        split
        · apply Wordless.unheard _ rfl
          apply Wordless.sendFrame _ (unnumbered rfl)
          exact indicated.unheard rfl
        · apply Wordless.sendFrame _ (unnumbered rfl)
          exact indicated.unheard rfl
    | awaitingEstablish => exact answered
    | awaitingRelease => exact same.sendFrame (unnumbered rfl)
    | linkEstablished =>
        simp only
        split
        · split
          · exact echoed
          · exact answered
        · split
          · exact wordless_abnormalRelease e true
          · exact answered.unheard rfl
    | contentionResolution =>
        simp only
        split
        · exact echoed.unheard rfl
        · exact same
    | unused => exact same

/-- The handlers of U-frames answer with U-frames. -/
theorem wordless_receiveUFrame (e : LAPDmEntity) (frame : LAPDmFrame) :
    Wordless e (e.receiveUFrame frame) := by
  have same := Wordless.refl e
  have answered : Wordless e
      ({ e with establishmentInProgress := false }.sendUA frame.pf) :=
    (same.unheard rfl).sendFrame (unnumbered rfl)
  rw [receiveUFrame]
  cases frame.uType with
  | sabme => exact wordless_handleSABME e frame
  | ua =>
      simp only [handleUA]
      split
      · exact same
      · cases e.state with
        | awaitingEstablish => exact (same.unheard rfl).deliverL3 _ _
        | awaitingRelease => exact (same.unheard rfl).deliverL3 _ _
        | _ => exact same
  | dm =>
      simp only [handleDM]
      split
      · exact same
      · cases e.state with
        | linkReleased | unused => exact same
        | _ => exact (same.unheard rfl).deliverL3 _ _
  | disc =>
      simp only [handleDISC]
      cases e.state with
      | linkReleased => exact (same.unheard rfl).sendFrame (unnumbered rfl)
      | awaitingEstablish => exact (same.unheard rfl).deliverL3 _ _
      | unused => exact same.unheard rfl
      | _ => exact (answered.unheard rfl).deliverL3 _ _
  | ui => exact same.deliverL3 _ _

/-- A tick sends no segment, since a retransmission has the poll bit. -/
theorem wordless_tickT200 (e : LAPDmEntity) (elapsed : Int) :
    Wordless e (e.tickT200 elapsed).1 := by
  have expired : Wordless e { e with t200RemainingMs := 0, t200Active := false } :=
    (Wordless.refl e).unheard rfl
  rw [tickT200]
  split
  · exact .refl e
  · split
    · exact (Wordless.refl e).unheard rfl
    · simp only
      split
      · apply Wordless.unheard _ rfl
        rw [retransmitPending]
        split
        · apply expired.sendFrame
          simp [makeIFrame]
        · exact expired.sendFrame (unnumbered rfl)
        · exact expired.sendFrame (unnumbered rfl)
        · exact expired
      · exact expired.trans (wordless_abnormalRelease _ false)

/-- Without a link no segment is sent. -/
theorem wordless_of_down (down : e.isEstablished = false) (request : Call) :
    Wordless e (e.call request) := by
  have same := Wordless.refl e
  cases request with
  | openEntity sapi commandBit => exact same.unheard rfl
  | receiveFrame frameBytes =>
      have settled : Wordless e { e with
          framesReceived := e.framesReceived + 1
          establishmentInProgress := false } := same.unheard rfl
      rw [call, receiveFrame]
      cases LAPDmFrame.decode frameBytes with
      | error _ => exact same
      | ok frame =>
          simp only
          split
          · exact same.unheard rfl
          · cases frame.format with
            | iFormat =>
                simp only
                rw [receiveIFrame_of_idle down]
                exact settled
            | sFormat =>
                simp only
                by_cases kind : frame.sType = .rnr
                · rw [receiveSFrame, kind]
                  exact settled.trans (wordless_abnormalRelease _ true)
                · rw [receiveSFrame_of_idle down kind]
                  exact settled
            | uFormat =>
                apply Wordless.trans _ (wordless_receiveUFrame _ frame)
                exact same.unheard rfl
  | sendUI sapi l3Data => exact same.sendFrame (unnumbered rfl)
  | sendData l3Data =>
      rw [call, sendData, if_pos down]
      exact same
  | sendSABME info =>
      have asked : Wordless e
          (e.sendFrame (makeSABMEFrame e.sapi e.commandBit info)) :=
        same.sendFrame (unnumbered rfl)
      rw [call, sendSABME]
      split
      · exact same.deliverL3 _ _
      · split
        · exact same
        · exact asked.unheard rfl
  | sendDISC =>
      rw [call, sendDISC, if_pos down]
      exact same
  | hardRelease => exact same.unheard rfl
  | tickT200 elapsed => exact wordless_tickT200 e elapsed
  | resetStats => exact same.unheard rfl

end Wordless

/-! ## Sending from the queue -/

/-- An entity sends segments from the head of its queue and keeps the others. -/
structure Emits (e target : LAPDmEntity) : Prop where
  profile : target.profile = e.profile
  queue : target.QueueConsistent
  sent : ∃ new, target.outputs = e.outputs ++ new ∧
    e.backlog = segmentsOnAir new ++ target.backlog

section Emits

variable {e middle target : LAPDmEntity}

theorem Emits.refl (queue : e.QueueConsistent) : Emits e e :=
  ⟨rfl, queue, [], (List.append_nil _).symm, rfl⟩

/-- Steps that send from the backlog compose. -/
theorem Emits.trans (first : Emits e middle) (second : Emits middle target) : Emits e target := by
  obtain ⟨before, outputs, split⟩ := first.sent
  obtain ⟨after, more, rest⟩ := second.sent
  refine ⟨second.profile.trans first.profile, second.queue, before ++ after, ?_, ?_⟩
  · rw [more, outputs, List.append_assoc]
  · rw [split, rest, segmentsOnAir_append, List.append_assoc]

/-- Neither the queue is touched nor a segment sent. -/
theorem Emits.quietly (emits : Emits e middle) (wordless : Wordless middle target)
    (profile : target.profile = middle.profile) (queue : target.txQueue = middle.txQueue)
    (ends : target.txMsgEnds = middle.txMsgEnds) (index : target.txMsgIdx = middle.txMsgIdx)
    (pos : target.txQueuePos = middle.txQueuePos) : Emits e target := by
  obtain ⟨new, outputs, none⟩ := wordless
  apply emits.trans
  refine ⟨profile, emits.queue.frame queue ends index pos, new, outputs, ?_⟩
  rw [none, backlog, unsent, backlog, unsent, profile, queue, ends, index, pos, List.nil_append]

/-- The steps without a callback. -/
theorem Emits.unheard (emits : Emits e middle) (profile : target.profile = middle.profile)
    (queue : target.txQueue = middle.txQueue) (ends : target.txMsgEnds = middle.txMsgEnds)
    (index : target.txMsgIdx = middle.txMsgIdx) (pos : target.txQueuePos = middle.txQueuePos)
    (outputs : target.outputs = middle.outputs) : Emits e target :=
  emits.quietly ((Wordless.refl middle).unheard outputs) profile queue ends index pos

theorem Emits.sendFrame (emits : Emits e middle) {frame : LAPDmFrame}
    (other : ¬ (frame.format = .iFormat ∧ frame.iCtrl.pf = false)) :
    Emits e (middle.sendFrame frame) :=
  emits.quietly ((Wordless.refl middle).sendFrame other) rfl rfl rfl rfl rfl

theorem Emits.deliverL3 (emits : Emits e middle) (prim : Primitive) (data : List UInt8) :
    Emits e (middle.deliverL3 prim data) :=
  emits.quietly ((Wordless.refl middle).deliverL3 prim data) rfl rfl rfl rfl rfl

/-- The next segment is taken from the backlog. -/
theorem emits_trySendNextSegment (positive : 0 < e.profile.n201) (queue : e.QueueConsistent) :
    Emits e e.trySendNextSegment := by
  by_cases idle : e.vs = e.va
  · rcases trySendNextSegment_cases positive queue idle with ⟨-, same⟩ | ⟨segment, sent⟩
    · rw [same]
      exact .refl queue
    · refine ⟨sent.profile, sent.consistent, _, sent.outputs, ?_⟩
      rw [segmentsOnAir_frame, if_pos ⟨rfl, rfl⟩]
      exact sent.backlog
  · rw [trySendNextSegment, if_pos idle]
    exact .refl queue

/-- An acknowledgement sends from the backlog. -/
theorem Emits.processAck (positive : 0 < e.profile.n201) (emits : Emits e middle) (nr : Fin 8) :
    Emits e (middle.processAck nr) := by
  rw [LAPDmEntity.processAck]
  split
  · have stopped : Emits e { middle with va := nr, rc := 0, t200Active := false } :=
      emits.unheard rfl rfl rfl rfl rfl rfl
    apply stopped.trans
    apply emits_trySendNextSegment _ stopped.queue
    rw [stopped.profile]
    exact positive
  · exact emits.unheard rfl rfl rfl rfl rfl rfl

theorem Emits.completeEstablishment (emits : Emits e middle) :
    Emits e middle.completeEstablishment := by
  rw [LAPDmEntity.completeEstablishment]
  split
  · exact emits.unheard rfl rfl rfl rfl rfl rfl
  · exact emits

end Emits

/-! ## Calls on an established link -/

/-- The link is released behind segments from the head of the queue; what is left of it is
dropped. -/
structure Cuts (e target : LAPDmEntity) : Prop where
  down : target.isEstablished = false
  sent : ∃ new rest, target.outputs = e.outputs ++ new ∧ e.backlog = segmentsOnAir new ++ rest

section Calls

variable {e middle target : LAPDmEntity}

/-- A step that brings the link down gives the backlog up. -/
theorem Emits.cut (emits : Emits e middle) (wordless : Wordless middle target)
    (down : target.isEstablished = false) : Cuts e target := by
  obtain ⟨before, outputs, split⟩ := emits.sent
  obtain ⟨after, more, none⟩ := wordless
  refine ⟨down, before ++ after, middle.backlog, ?_, ?_⟩
  · rw [more, outputs, List.append_assoc]
  · rw [split, segmentsOnAir_append, none, List.append_nil]

theorem Emits.abnormalRelease (emits : Emits e middle) (withDM : Bool) :
    Cuts e (middle.abnormalRelease withDM) := by
  apply emits.cut (wordless_abnormalRelease middle withDM)
  cases withDM <;> rfl

/-- The sequence check leaves the backlog, or gives it up with the link. -/
theorem Emits.checkSequence (emits : Emits e middle) (frame : LAPDmFrame) :
    Emits e (middle.checkSequence frame) ∨ Cuts e (middle.checkSequence frame) := by
  rw [LAPDmEntity.checkSequence]
  split
  · left
    exact emits.sendFrame (supervisory rfl)
  · have numbered : Emits e middle.advanceVR := emits.unheard rfl rfl rfl rfl rfl rfl
    rw [acceptIFrame]
    split
    · exact .inr (numbered.abnormalRelease false)
    · left
      have appended : Emits e { middle.advanceVR with
          reassemblyBuffer := middle.advanceVR.reassemblyBuffer ++ frame.info } :=
        numbered.unheard rfl rfl rfl rfl rfl rfl
      apply Emits.sendFrame _ (supervisory rfl)
      split
      · exact appended
      · exact (appended.deliverL3 _ _).unheard rfl rfl rfl rfl rfl rfl

/-- An I frame sends from the backlog, or gives it up with the link. -/
theorem Emits.receiveIFrame (positive : 0 < e.profile.n201) (emits : Emits e middle)
    (frame : LAPDmFrame) :
    Emits e (middle.receiveIFrame frame) ∨ Cuts e (middle.receiveIFrame frame) := by
  have opened : Emits e { middle with establishmentInProgress := false }.completeEstablishment := by
    apply Emits.completeEstablishment
    exact emits.unheard rfl rfl rfl rfl rfl rfl
  rw [LAPDmEntity.receiveIFrame]
  split
  · exact .inl opened
  · exact (opened.processAck positive frame.iCtrl.nr).checkSequence frame

/-- A supervisory frame sends from the backlog, or gives it up with the link. -/
theorem Emits.receiveSFrame (positive : 0 < e.profile.n201) (emits : Emits e middle)
    (frame : LAPDmFrame) :
    Emits e (middle.receiveSFrame frame) ∨ Cuts e (middle.receiveSFrame frame) := by
  have settled : Emits e { middle with establishmentInProgress := false } :=
    emits.unheard rfl rfl rfl rfl rfl rfl
  have opened := settled.completeEstablishment
  have acked := opened.processAck positive frame.nr
  have answered : Emits e ({ middle with
      establishmentInProgress := false }.completeEstablishment.processAck frame.nr |>.sendRR true) :=
    acked.sendFrame (supervisory rfl)
  rw [LAPDmEntity.receiveSFrame]
  cases frame.sType with
  | rr =>
      simp only
      split
      · exact .inl opened
      · split
        · exact .inl answered
        · exact .inl acked
  | rnr => exact .inr (settled.abnormalRelease true)
  | rej =>
      simp only
      split
      · exact .inl opened
      · split
        · split
          · exact .inr (acked.abnormalRelease true)
          · exact .inl answered
        · exact .inl acked
  | reserved => exact .inl settled

/-- A U-frame leaves the queue of an established link, releases the link or establishes it
again. -/
theorem Emits.receiveUFrame {frame : LAPDmFrame} (emits : Emits e middle)
    (established : middle.isEstablished = true) :
    (Emits e (middle.receiveUFrame frame) ∨ Cuts e (middle.receiveUFrame frame)) ∨
      middle.state = .linkEstablished ∧ middle.establishmentInProgress = false ∧
        frame.uType = .sabme ∧ frame.pf = true ∧ frame.info = [] := by
  have phase : middle.state = .linkEstablished ∨ middle.state = .contentionResolution := by
    simpa [isEstablished] using established
  have echoed : Emits e (middle.sendUAWithEcho frame.info frame.pf) :=
    emits.sendFrame (unnumbered rfl)
  have answered : Emits e (middle.sendUA frame.pf) := emits.sendFrame (unnumbered rfl)
  rw [LAPDmEntity.receiveUFrame]
  cases kind : frame.uType with
  | sabme =>
      simp only [handleSABME]
      split
      · exact .inl (.inl emits)
      case isFalse polled =>
        rcases phase with state | state
        · simp only [state]
          split
          · left
            left
            split
            · exact echoed
            · exact answered
          case isFalse settled =>
            split
            · exact .inl (.inr (emits.abnormalRelease true))
            case isFalse empty =>
              right
              exact ⟨trivial, Bool.eq_false_iff.mpr settled, trivial,
                Bool.not_eq_false _ ▸ polled, not_not.mp empty⟩
        · simp only [state]
          left
          left
          split
          · exact echoed.unheard rfl rfl rfl rfl rfl rfl
          · exact emits
  | ua =>
      left
      left
      simp only [handleUA]
      split
      · exact emits
      · rcases phase with state | state
        · simpa only [state] using emits
        · simpa only [state] using emits
  | dm =>
      left
      left
      simp only [handleDM]
      split
      · exact emits
      · have started : Emits e { middle with
            t200Active := true, t200RemainingMs := middle.profile.t200Ms } :=
          emits.unheard rfl rfl rfl rfl rfl rfl
        have told := started.deliverL3 .L3_RELEASE_INDICATION []
        rcases phase with state | state
        · simpa only [state] using told
        · simpa only [state] using told
  | disc =>
      left
      right
      have wordless := wordless_receiveUFrame middle frame
      rw [LAPDmEntity.receiveUFrame, kind] at wordless
      apply emits.cut wordless
      simp only [handleDISC]
      rcases phase with state | state
      · simp only [state]
        rfl
      · simp only [state]
        rfl
  | ui => exact .inl (.inl (emits.deliverL3 _ _))

/-- A frame sends from the backlog, gives it up, or starts the link anew. -/
theorem emits_receiveFrame (positive : 0 < e.profile.n201) (queue : e.QueueConsistent)
    (established : e.isEstablished = true) (frameBytes : List UInt8) :
    (Emits e (e.receiveFrame frameBytes) ∨ Cuts e (e.receiveFrame frameBytes)) ∨
      e.Restarts (.receiveFrame frameBytes) := by
  rw [LAPDmEntity.receiveFrame]
  cases decoded : LAPDmFrame.decode frameBytes with
  | error _ => exact .inl (.inl (.refl queue))
  | ok frame =>
      have counted : Emits e { e with framesReceived := e.framesReceived + 1 } :=
        (Emits.refl queue).unheard rfl rfl rfl rfl rfl rfl
      simp only
      split
      · exact .inl (.inl counted)
      case isFalse own =>
        cases format : frame.format with
        | iFormat => exact .inl (counted.receiveIFrame positive frame)
        | sFormat => exact .inl (counted.receiveSFrame positive frame)
        | uFormat =>
            rcases counted.receiveUFrame established with emits | ⟨state, settled, kind, final, empty⟩
            · exact .inl emits
            · right
              refine ⟨state, settled, ?_⟩
              rw [← empty]
              exact reads_of_decode decoded (not_not.mp own) format kind final

/-- A tick leaves the backlog, or gives it up with the link. -/
theorem emits_tickT200 (queue : e.QueueConsistent) (elapsed : Int) :
    Emits e (e.tickT200 elapsed).1 ∨ Cuts e (e.tickT200 elapsed).1 := by
  have idle := Emits.refl queue
  have wordless := wordless_tickT200 e elapsed
  rcases tickT200_cases e elapsed with keeps | ⟨released, -⟩
  · left
    apply idle.quietly wordless
    · exact (congrArg LAPDmEntity.profile keeps.bare :)
    · exact (congrArg LAPDmEntity.txQueue keeps.bare :)
    · exact (congrArg LAPDmEntity.txMsgEnds keeps.bare :)
    · exact (congrArg LAPDmEntity.txMsgIdx keeps.bare :)
    · exact (congrArg LAPDmEntity.txQueuePos keeps.bare :)
  · right
    apply idle.cut wordless
    rw [isEstablished, released]
    rfl

end Calls

/-! ## Calls that establish a link -/

/-- A link begins with an empty queue. -/
theorem backlog_of_opened {e : LAPDmEntity} (down : e.isEstablished = false) {request : Call}
    (up : (e.call request).isEstablished = true) : (e.call request).backlog = [] := by
  have still (target : LAPDmEntity) (same : target.isEstablished = e.isEstablished)
      (up : target.isEstablished = true) : target.backlog = [] :=
    absurd (up.symm.trans (same.trans down)) (by simp)
  cases request with
  | openEntity sapi commandBit => cases up
  | receiveFrame frameBytes =>
      have other : e.inSequence frameBytes = none := by
        cases next : e.inSequence frameBytes with
        | none => rfl
        | some frame => exact absurd ((receiveFrame_inSequence next).1.symm.trans down) (by simp)
      cases received_of_other other with
      | kept keeps => exact still _ keeps.isEstablished up
      | accepted info released read accepts => exact (congrArg backlog accepts.bare :)
      | echoed info contention => simp [isEstablished, contention] at down
      | restarted established => simp [isEstablished, established] at down
      | confirmed awaiting keeps => exact (congrArg backlog keeps.bare :)
      | released releases =>
          rcases releases.down with state | state
          · simp [call, isEstablished, state] at up
          · simp [call, isEstablished, state] at up
      | acknowledged nr taken =>
          exact absurd ((established_of_acceptedNr taken).symm.trans down) (by simp)
  | sendUI sapi l3Data => exact still _ (keeps_sendUI e sapi l3Data).isEstablished up
  | sendData l3Data =>
      rcases sendData_cases e l3Data with ⟨same, -⟩ | ⟨established, -⟩
      · exact still _ (congrArg isEstablished same) up
      · exact absurd (established.symm.trans down) (by simp)
  | sendSABME info =>
      rcases sendSABME_cases e info with keeps | ⟨-, keeps⟩
      · exact still _ keeps.isEstablished up
      · exact absurd (up.symm.trans keeps.isEstablished) (by simp [isEstablished, transitionTo])
  | sendDISC =>
      rcases sendDISC_cases e with keeps | ⟨established, -⟩
      · exact still _ keeps.isEstablished up
      · exact absurd (established.symm.trans down) (by simp)
  | hardRelease => cases up
  | tickT200 elapsed =>
      rcases tickT200_cases e elapsed with keeps | ⟨released, -⟩
      · exact still _ keeps.isEstablished up
      · simp [call, isEstablished, released] at up
  | resetStats => exact still _ (keeps_resetStats e).isEstablished up

/-- A link that starts anew has no backlog. -/
theorem backlog_of_restarts {e : LAPDmEntity} {request : Call} (restarts : e.Restarts request) :
    (e.call request).backlog = [] := by
  cases request with
  | receiveFrame frameBytes =>
      obtain ⟨frame, -, -, answered⟩ := receiveFrame_restarts restarts
      rw [call, answered]
      rfl
  | _ => exact restarts.elim

/-! ## The record -/

/-- The message that a call accepts. -/
def acceptedMessages (e : LAPDmEntity) : Call → List (List UInt8)
  | .sendData l3Data =>
      match (e.sendData l3Data).2 with
      | .ok () => [l3Data]
      | .error _ => []
  | _ => []

/-- A call establishes a link, or establishes it again. -/
def Begins (e : LAPDmEntity) (request : Call) (target : LAPDmEntity) : Prop :=
  target.isEstablished = true ∧ (e.isEstablished = false ∨ e.Restarts request)

instance (e : LAPDmEntity) (request : Call) (target : LAPDmEntity) :
    Decidable (Begins e request target) :=
  inferInstanceAs (Decidable (_ ∧ (_ ∨ _)))

/-- What `sendData` accepted on the last link that was established, and the segments sent on
it. -/
structure Traffic where
  messages : List (List UInt8)
  segments : List (Segment UInt8)

/-- The record after a call. -/
def Traffic.after (traffic : Traffic) (e : LAPDmEntity) (request : Call) (target : LAPDmEntity) :
    Traffic :=
  if Begins e request target then ⟨[], segmentsOnAir (news e target)⟩
  else
    ⟨traffic.messages ++ e.acceptedMessages request,
      traffic.segments ++ segmentsOnAir (news e target)⟩

/-- An entity with the traffic of its link. -/
def conversing : Machine (LAPDmEntity × Traffic) Call :=
  machine.recording Traffic.after

/-- An entity behind its construction; there was no link. -/
def unused (profile : LAPDmChannelProfile) : LAPDmEntity × Traffic :=
  ({ profile := profile }, ⟨[], []⟩)

/-! ## Steps -/

section Steps

variable {e target : LAPDmEntity}

/-- The segments owed before a call and those of the message it accepts are sent by it or left,
and an established link still owes what is left. -/
def Spends (e : LAPDmEntity) (request : Call) (target : LAPDmEntity) : Prop :=
  ∃ new rest, target.outputs = e.outputs ++ new ∧
    e.backlog ++ (e.acceptedMessages request).flatMap (segments e.profile.n201) =
      segmentsOnAir new ++ rest ∧
    (target.isEstablished = true → rest = target.backlog)

/-- A call that accepts nothing spends what it sends. -/
theorem spends_of_emits {request : Call} (nothing : e.acceptedMessages request = [])
    (outcome : Emits e target ∨ Cuts e target) : Spends e request target := by
  rw [Spends, nothing, List.flatMap_nil, List.append_nil]
  rcases outcome with emits | cuts
  · obtain ⟨new, outputs, split⟩ := emits.sent
    exact ⟨new, _, outputs, split, fun _ => rfl⟩
  · obtain ⟨new, rest, outputs, split⟩ := cuts.sent
    exact ⟨new, rest, outputs, split, fun up => absurd (up.symm.trans cuts.down) (by simp)⟩

/-- A message is queued behind the others, and a segment sent if none is outstanding. -/
theorem spends_sendData (positive : 0 < e.profile.n201) (queue : e.QueueConsistent)
    (l3Data : List UInt8) : Spends e (.sendData l3Data) (e.sendData l3Data).1 := by
  rcases sendData_cases e l3Data with ⟨same, error, refused⟩ | ⟨established, some, taken, sent⟩
  · rw [same]
    apply spends_of_emits
    · rw [acceptedMessages, refused]
    · exact .inl (.refl queue)
  · have owed : (e.enqueue l3Data).backlog =
        e.backlog ++ segments e.profile.n201 l3Data := by
      rw [backlog, unsent_enqueue queue, List.flatMap_append, List.flatMap_singleton]
      rfl
    have emits : Emits (e.enqueue l3Data) (e.enqueue l3Data).trySendNextSegment :=
      emits_trySendNextSegment positive (queue.enqueue some)
    obtain ⟨new, outputs, split⟩ := emits.sent
    rw [sent, Spends, acceptedMessages, taken]
    refine ⟨new, _, outputs, ?_, fun _ => rfl⟩
    rw [List.flatMap_singleton, ← owed]
    exact split

/-- What a call does to the segments of an established link. -/
theorem spends_call (positive : 0 < e.profile.n201) (queue : e.QueueConsistent)
    (established : e.isEstablished = true) {request : Call} (other : ¬ e.Restarts request) :
    Spends e request (e.call request) := by
  have same := Emits.refl queue
  cases request with
  | openEntity sapi commandBit =>
      apply spends_of_emits rfl
      exact .inr (same.cut ((Wordless.refl e).unheard rfl) rfl)
  | receiveFrame frameBytes =>
      apply spends_of_emits rfl
      exact (emits_receiveFrame positive queue established frameBytes).resolve_right other
  | sendUI sapi l3Data =>
      apply spends_of_emits rfl
      exact .inl (same.sendFrame (unnumbered rfl))
  | sendData l3Data => exact spends_sendData positive queue l3Data
  | sendSABME info =>
      apply spends_of_emits rfl
      rw [call, sendSABME, if_pos established]
      exact .inl (same.deliverL3 _ _)
  | sendDISC =>
      apply spends_of_emits rfl
      have asked : Wordless e (e.sendFrame (makeDISCFrame e.sapi e.commandBit)) :=
        (Wordless.refl e).sendFrame (unnumbered rfl)
      have up : ¬ e.isEstablished = false := by simp [established]
      rw [call, sendDISC, if_neg up]
      exact .inr (same.cut (asked.unheard rfl) rfl)
  | hardRelease =>
      apply spends_of_emits rfl
      exact .inr (same.cut ((Wordless.refl e).unheard rfl) rfl)
  | tickT200 elapsed =>
      apply spends_of_emits rfl
      exact emits_tickT200 queue elapsed
  | resetStats =>
      apply spends_of_emits rfl
      exact .inl (same.unheard rfl rfl rfl rfl rfl rfl)

end Steps

/-! ## Idle links -/

/-- An established link without an outstanding frame owes no segment. -/
def CaughtUp (e : LAPDmEntity) : Prop :=
  e.isEstablished = true → e.vs = e.va → e.backlog = []

section CaughtUp

variable {e middle target : LAPDmEntity}

/-- What is kept stays caught up. -/
theorem CaughtUp.keeps (caughtUp : CaughtUp middle) (keeps : Keeps middle target) :
    CaughtUp target := by
  have same : target.backlog = middle.backlog := (congrArg backlog keeps.bare :)
  rw [CaughtUp, keeps.isEstablished, keeps.vs, keeps.va, same]
  exact caughtUp

/-- An empty backlog is caught up. -/
theorem caughtUp_of_empty (empty : target.backlog = []) : CaughtUp target :=
  fun _ _ => empty

/-- Without a link there is nothing to catch up. -/
theorem caughtUp_of_down (down : target.isEstablished = false) : CaughtUp target :=
  fun up => absurd (up.symm.trans down) (by simp)

/-- Behind the attempt to send, a frame is out or the backlog is empty. -/
theorem caughtUp_trySendNextSegment (positive : 0 < e.profile.n201) (queue : e.QueueConsistent) :
    CaughtUp e.trySendNextSegment := by
  intro _ level
  by_cases idle : e.vs = e.va
  · rcases trySendNextSegment_cases positive queue idle with ⟨empty, same⟩ | ⟨segment, sent⟩
    · rw [same]
      exact empty
    · rw [sent.vs, sent.va, idle] at level
      exact absurd (add_eq_left.mp level) (by simp)
  · rw [trySendNextSegment, if_pos idle] at level
    exact absurd level idle

theorem caughtUp_processAck (positive : 0 < e.profile.n201) (queue : e.QueueConsistent)
    (nr : Fin 8) : CaughtUp (e.processAck nr) := by
  rw [processAck]
  by_cases caught_up : nr = e.vs
  · simp only [caught_up, if_true]
    apply caughtUp_trySendNextSegment
    · exact positive
    · exact queue.frame rfl rfl rfl rfl
  · simp only [if_neg caught_up]
    intro _ level
    exact absurd level.symm caught_up

theorem caughtUp_acknowledged (positive : 0 < e.profile.n201) (queue : e.QueueConsistent)
    (established : e.isEstablished = true) (nr : Fin 8) : CaughtUp (e.acknowledged nr) := by
  rw [acknowledged, opened, completeEstablishment_eq]
  · apply caughtUp_processAck
    · exact positive
    · exact queue.frame rfl rfl rfl rfl
  · exact established

/-- A frame leaves the entity caught up. -/
theorem caughtUp_receiveFrame (positive : 0 < e.profile.n201) (queue : e.QueueConsistent)
    (caughtUp : CaughtUp e) (frameBytes : List UInt8) : CaughtUp (e.receiveFrame frameBytes) := by
  have released (releases : Releases e (e.receiveFrame frameBytes)) :
      CaughtUp (e.receiveFrame frameBytes) := by
    apply caughtUp_of_down
    rcases releases.down with state | state
    · rw [isEstablished, state]
      rfl
    · rw [isEstablished, state]
      rfl
  cases next : e.inSequence frameBytes with
  | some frame =>
      have established := (receiveFrame_inSequence next).1
      have acked := caughtUp_acknowledged positive queue established frame.iCtrl.nr
      have counted (buffer : List UInt8)
          (bare : (e.receiveFrame frameBytes).bare = (e.counted frame.iCtrl.nr buffer).bare) :
          CaughtUp (e.receiveFrame frameBytes) := by
        intro _ level
        have vs := (congrArg LAPDmEntity.vs bare :)
        have va := (congrArg LAPDmEntity.va bare :)
        have up : (e.acknowledged frame.iCtrl.nr).isEstablished = true := by
          rw [isEstablished, acknowledged_state established]
          rfl
        apply (congrArg backlog bare :).trans
        apply acked up
        exact vs.symm.trans (level.trans va)
      cases expected_of_inSequence next with
      | refused _ _ releases _ => exact released releases
      | appended _ _ _ bare => exact counted _ bare
      | completed _ _ _ bare => exact counted _ bare
  | none =>
      cases received_of_other next with
      | kept keeps => exact caughtUp.keeps keeps
      | accepted info state read accepts =>
          exact caughtUp_of_empty (congrArg backlog accepts.bare :)
      | echoed info contention read matching keeps =>
          apply CaughtUp.keeps _ keeps
          intro _ level
          apply caughtUp _ level
          rw [isEstablished, contention]
          rfl
      | restarted established flag read keeps untold =>
          exact caughtUp_of_empty (congrArg backlog keeps.bare :)
      | confirmed awaiting keeps => exact caughtUp_of_empty (congrArg backlog keeps.bare :)
      | released releases => exact released releases
      | acknowledged nr taken keeps =>
          apply CaughtUp.keeps _ keeps
          exact caughtUp_acknowledged positive queue (established_of_acceptedNr taken) nr

/-- Every call leaves the entity caught up. -/
theorem caughtUp_call (positive : 0 < e.profile.n201) (queue : e.QueueConsistent)
    (caughtUp : CaughtUp e) (request : Call) : CaughtUp (e.call request) := by
  cases request with
  | openEntity sapi commandBit => exact caughtUp_of_down rfl
  | receiveFrame frameBytes => exact caughtUp_receiveFrame positive queue caughtUp frameBytes
  | sendUI sapi l3Data => exact caughtUp.keeps (keeps_sendUI e sapi l3Data)
  | sendData l3Data =>
      rcases sendData_cases e l3Data with ⟨same, -⟩ | ⟨-, some, -, sent⟩
      · rw [call, same]
        exact caughtUp
      · rw [call, sent]
        exact caughtUp_trySendNextSegment positive (queue.enqueue some)
  | sendSABME info =>
      rcases sendSABME_cases e info with keeps | ⟨-, keeps⟩
      · exact caughtUp.keeps keeps
      · exact caughtUp_of_down keeps.isEstablished
  | sendDISC =>
      rcases sendDISC_cases e with keeps | ⟨-, keeps⟩
      · exact caughtUp.keeps keeps
      · exact caughtUp_of_down keeps.isEstablished
  | hardRelease => exact caughtUp_of_down rfl
  | tickT200 elapsed =>
      rcases tickT200_cases e elapsed with keeps | ⟨released, -⟩
      · exact caughtUp.keeps keeps
      · apply caughtUp_of_down
        rw [call, isEstablished, released]
        rfl
  | resetStats => exact caughtUp.keeps (keeps_resetStats e)

end CaughtUp

/-! ## Runs -/

/-- What holds of an entity and the traffic of its link: the segments sent and those still owed
are the segments of the accepted messages. -/
structure Conversed (w : LAPDmEntity × Traffic) : Prop where
  coherent : w.1.Coherent
  caughtUp : CaughtUp w.1
  sent : ∃ rest, w.2.segments ++ rest = w.2.messages.flatMap (segments w.1.profile.n201) ∧
    (w.1.isEstablished = true → rest = w.1.backlog)

section Runs

variable {e : LAPDmEntity} {traffic : Traffic}

/-- Without a link no message is accepted. -/
theorem acceptedMessages_of_down (down : e.isEstablished = false) (request : Call) :
    e.acceptedMessages request = [] := by
  cases request with
  | sendData l3Data => rw [acceptedMessages, sendData, if_pos down]
  | _ => rfl

/-- A link is established again without a segment. -/
theorem restarts_wordless {request : Call} (restarts : e.Restarts request) :
    (e.call request).isEstablished = true ∧ Wordless e (e.call request) := by
  cases request with
  | receiveFrame frameBytes =>
      obtain ⟨frame, -, -, answered⟩ := receiveFrame_restarts restarts
      have counted : Wordless e { e with framesReceived := e.framesReceived + 1 } :=
        (Wordless.refl e).unheard rfl
      rw [call, answered]
      constructor
      · simp [isEstablished, clearCounters, sendUA, sendFrame, restarts.1]
      · have acked := counted.sendFrame (unnumbered (rfl : (makeUAFrame e.sapi true []).format = _))
        exact acked.unheard rfl
  | _ => exact restarts.elim

/-- A call keeps the account of segments and messages. -/
theorem Conversed.call (conversed : Conversed (e, traffic)) (positive : 0 < e.profile.n201)
    (request : Call) :
    Conversed (e.call request, traffic.after e request (e.call request)) := by
  refine ⟨conversed.coherent.call positive request,
    caughtUp_call positive conversed.coherent.queue conversed.caughtUp request, ?_⟩
  obtain ⟨rest, sent, owed⟩ := conversed.sent
  simp only [profile_call]
  by_cases begins : Begins e request (e.call request)
  · have first : Wordless e (e.call request) ∧ (e.call request).backlog = [] := by
      rcases begins.2 with down | restarts
      · exact ⟨wordless_of_down down request, backlog_of_opened down begins.1⟩
      · exact ⟨(restarts_wordless restarts).2, backlog_of_restarts restarts⟩
    obtain ⟨⟨new, outputs, none⟩, empty⟩ := first
    rw [Traffic.after, if_pos begins, news_of_outputs outputs, none, empty]
    exact ⟨[], rfl, fun _ => rfl⟩
  · rw [Traffic.after, if_neg begins]
    by_cases down : e.isEstablished = false
    · obtain ⟨new, outputs, none⟩ := wordless_of_down down request
      rw [news_of_outputs outputs, none, acceptedMessages_of_down down]
      simp only [List.append_nil]
      exact ⟨rest, sent, fun up => absurd ⟨up, .inl down⟩ begins⟩
    · have established : e.isEstablished = true := by simpa using down
      have other : ¬ e.Restarts request := fun restarts =>
        begins ⟨(restarts_wordless restarts).1, .inr restarts⟩
      obtain ⟨new, left, outputs, split, still⟩ :=
        spends_call positive conversed.coherent.queue established other
      rw [news_of_outputs outputs]
      refine ⟨left, ?_, still⟩
      rw [List.append_assoc, ← split, ← owed established, ← List.append_assoc, sent,
        List.flatMap_append]

/-- The account holds in every state of every run. -/
theorem Conversed.of_run {profile : LAPDmChannelProfile} (positive : 0 < profile.n201)
    {calls : List Call} {w : LAPDmEntity × Traffic}
    (run : conversing.Run (fun _ _ _ => True) (unused profile) calls w) :
    Conversed w ∧ w.1.profile = profile := by
  refine run.invariant (fun _ state => Conversed state ∧ state.1.profile = profile) ?_ ?_
  · refine ⟨⟨?_, ?_, [], rfl, ?_⟩, rfl⟩
    · exact .of_cleared rfl rfl rfl rfl rfl
    · exact caughtUp_of_down rfl
    · rintro ⟨⟩
  · rintro past ⟨e, traffic⟩ target request ⟨conversed, same⟩ stepped -
    obtain rfl := Option.some.inj stepped
    refine ⟨conversed.call ?_ request, (profile_call e request).trans same⟩
    rw [same]
    exact positive

/-- **Segmentation**: after any calls the queue is consistent, and the segments sent on a link are
the first of the segments of the messages accepted on it.  An established link has the others in
its queue, and there are none if no frame is outstanding. -/
theorem sent_segmentsOf {profile : LAPDmChannelProfile} (positive : 0 < profile.n201)
    {calls : List Call} {w : LAPDmEntity × Traffic}
    (run : conversing.Run (fun _ _ _ => True) (unused profile) calls w) :
    w.1.QueueConsistent ∧
      ∃ pieces, List.Forall₂ (SegmentsOf profile.n201) w.2.messages pieces ∧
        w.2.segments <+: pieces.flatten ∧
        (w.1.isEstablished = true → w.2.segments ++ w.1.backlog = pieces.flatten) ∧
        (w.1.isEstablished = true → w.1.vs = w.1.va → w.2.segments = pieces.flatten) := by
  obtain ⟨conversed, rfl⟩ := Conversed.of_run positive run
  obtain ⟨rest, sent, owed⟩ := conversed.sent
  rw [List.flatMap] at sent
  refine ⟨conversed.coherent.queue, w.2.messages.map (segments w.1.profile.n201), ?_, ?_, ?_, ?_⟩
  · rw [List.forall₂_map_right_iff]
    exact List.forall₂_same.mpr fun message _ => segmentsOf_segments positive message
  · rw [← sent]
    exact List.prefix_append _ _
  · intro established
    rw [← owed established]
    exact sent
  · intro established level
    have none : rest = [] :=
      (owed established).trans (conversed.caughtUp established level)
    rw [← sent, none, List.append_nil]

/-- A mobile establishes the link and polls it; two messages are sent and acknowledged segment by
segment. -/
private def talking : List Call :=
  [.openEntity .sapi0 true, .receiveFrame (encodeFrame (makeSABMEFrame .sapi0 false [])),
    .receiveFrame (encodeFrame (makeRRFrame .sapi0 0 false)),
    .sendData (.replicate 25 7), .sendData [1, 2],
    .receiveFrame (encodeFrame (makeRRFrame .sapi0 1 false)),
    .receiveFrame (encodeFrame (makeRRFrame .sapi0 2 false)),
    .receiveFrame (encodeFrame (makeRRFrame .sapi0 3 false))]

/-- The longer message takes two segments. -/
theorem sent_segmentsOf_two :
    ∃ w, conversing.Run (fun _ _ _ => True) (unused .SDCCH) talking w ∧
      w.2.messages = [.replicate 25 7, [1, 2]] ∧
      w.2.segments = [⟨.replicate 20 7, true⟩, ⟨.replicate 5 7, false⟩, ⟨[1, 2], false⟩] ∧
      ∃ pieces, List.Forall₂ (SegmentsOf 20) w.2.messages pieces ∧
        w.2.segments = pieces.flatten := by
  obtain ⟨w, executed⟩ := Option.isSome_iff_exists.mp (show (conversing.exec
    (fun _ _ _ => True) (unused .SDCCH) talking).isSome by decide)
  have facts : ∀ w ∈ conversing.exec (fun _ _ _ => True) (unused .SDCCH) talking,
      w.1.isEstablished = true ∧ w.1.vs = w.1.va ∧
      w.2.messages = [.replicate 25 7, [1, 2]] ∧
      w.2.segments = [⟨.replicate 20 7, true⟩, ⟨.replicate 5 7, false⟩, ⟨[1, 2], false⟩] := by
    decide
  obtain ⟨established, level, messages, segments⟩ := facts w executed
  have run := Machine.Run.exec talking .origin executed
  have room : 0 < LAPDmChannelProfile.SDCCH.n201 := by decide
  obtain ⟨-, pieces, each, -, -, sent⟩ := sent_segmentsOf room run
  exact ⟨w, run, messages, segments, pieces, each, sent established level⟩

end Runs

end LAPDmEntity

end Lapdm

end Gsml3
