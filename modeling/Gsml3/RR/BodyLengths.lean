import Gsml3.RR.Messages

/-!
# Announced and written lengths

A message is written into its announced length; the writer neither clears what it does not
reach nor reports what does not fit.  Where the two lengths agree, what is written depends on
the message only.
-/

namespace Gsml3

open BitWriter (Op endPos)

namespace L3Encoding

/-- Whatever the buffer holds, the message is written with its announced length to the same
octets, and the writer of the body ends behind its last field and behind the body. -/
structure WrittenExactly (msg : L3Encoding) : Prop where
  octets : ∀ out out', msg.wireLength ≤ out.length → msg.wireLength ≤ out'.length →
    ∃ buffer buffer', msg.writeL3Body out = .ok (buffer, msg.wireLength) ∧
      msg.writeL3Body out' = .ok (buffer', msg.wireLength) ∧
      buffer.take msg.wireLength = buffer'.take msg.wireLength
  advances : ∀ out : List UInt8, msg.bodyLength ≤ out.length →
    (msg.writeBody out).pos = msg.bodyLength * 8
  complete : ∀ out : List UInt8, msg.bodyLength ≤ out.length →
    (msg.writeBody out).pos = endPos 0 msg.fields

variable {msg : L3Encoding}

/-- A message that fills its announced length is written as a whole. -/
theorem Exact.writtenExactly (exact : msg.Exact) : msg.WrittenExactly := by
  refine ⟨fun out out' room room' => ?_, fun out room => (exact.writeBody room).1,
    fun out room => (exact.writeBody room).1.trans exact.fields.symm⟩
  refine ⟨_, _, exact.writeL3Body room, exact.writeL3Body room', ?_⟩
  rw [List.take_left' msg.octets_length, List.take_left' msg.octets_length]

/-- A message without copied octets is written exactly if its lengths agree. -/
theorem writtenExactly_iff (fields : ∀ data, .writeBytes data ∉ msg.fields) :
    msg.WrittenExactly ↔ endPos 0 msg.fields = msg.bodyLength * 8 := by
  constructor
  · intro written
    have room : msg.bodyLength ≤ (List.replicate msg.bodyLength (0 : UInt8)).length :=
      (List.length_replicate ..).ge
    rw [← written.complete _ room, written.advances _ room]
  · intro agree
    exact Exact.writtenExactly ⟨fun data member => absurd member (fields data), agree⟩

end L3Encoding

/-! ## Written lengths -/

section Written

variable (pos : Nat)

/-- Channels and page mode take one octet. -/
@[simp] theorem endPos_writePaging (channelsNeeded : Vector Stack.ChannelType 2)
    (pageMode : L3PageMode) : endPos pos (writePaging channelsNeeded pageMode) = pos + 8 :=
  rfl

/-- An identity takes its length octet and its value. -/
@[simp] theorem endPos_writeIdentity (identity : Stack.L3MobileIdentity) :
    endPos pos (writeIdentity identity) = pos + 8 * (1 + identity.lengthV) := by
  rw [writeIdentity, BitWriter.endPos_cons, Stack.L3MobileIdentity.endPos_write]
  change pos + 8 + _ = _
  omega

@[simp] theorem endPos_writeTMSIs (tmsis : List UInt32) :
    endPos pos (writeTMSIs tmsis) = pos + 32 * tmsis.length :=
  BitWriter.endPos_flatMap (fun _ _ => rfl) tmsis pos

@[simp] theorem StartTime.endPos_write (time : StartTime) : endPos pos time.write = pos + 24 :=
  rfl

@[simp] theorem ImmediateAssignmentFields.endPos_writeRest (msg : ImmediateAssignmentFields) :
    endPos pos msg.writeRest =
      pos + 8 * (1 + msg.mobileAllocation.length + if msg.startTimePresent then 1 + 2 else 0) := by
  rw [writeRest, BitWriter.endPos_cons, BitWriter.endPos_append, endPos_writeOctets]
  split
  · rw [StartTime.endPos_write]
    change pos + 8 + _ + _ = _
    omega
  · change pos + 8 + _ = _
    omega

end Written

/-- The two counts of the mobile allocation differ unless it is empty. -/
theorem ImmediateAssignmentFields.mobileAllocation_length (msg : ImmediateAssignmentFields) :
    (if msg.mobileAllocation ≠ [] then 1 + msg.mobileAllocation.length else 0) =
        msg.mobileAllocation.length ↔
      msg.mobileAllocation = [] := by
  cases msg.mobileAllocation with
  | nil => simp
  | cons => simp

/-- The announced length is right without a mobile allocation only. -/
theorem L3ImmediateAssignment.endPos_write (msg : L3ImmediateAssignment) :
    endPos 0 msg.write = msg.bodyLength * 8 ↔ msg.mobileAllocation = [] := by
  rw [← msg.toImmediateAssignmentFields.mobileAllocation_length, write, bodyLength,
    ImmediateAssignmentFields.bodyLength]
  simp only [BitWriter.endPos_append, L3DedicatedModeOrTBF.endPos_write, L3PageMode.endPos_write,
    Stack.L3ChannelDescription.endPos_write, L3RequestReference.endPos_write,
    L3TimingAdvance.endPos_write, ImmediateAssignmentFields.endPos_writeRest, endPos_writeOctets,
    L3RequestReference.lengthV, Stack.L3ChannelDescription.lengthV, L3TimingAdvance.lengthV]
  omega

/-- The announced length is right without a mobile allocation only. -/
theorem L3ImmediateAssignmentExtended.endPos_write (msg : L3ImmediateAssignmentExtended) :
    endPos 0 msg.write = msg.bodyLength * 8 ↔ msg.mobileAllocation = [] := by
  rw [← msg.toImmediateAssignmentFields.mobileAllocation_length, write, bodyLength,
    ImmediateAssignmentFields.bodyLength]
  simp only [BitWriter.endPos_append, L3DedicatedModeOrTBF.endPos_write, L3PageMode.endPos_write,
    Stack.L3ChannelDescription.endPos_write, L3RequestReference.endPos_write,
    L3TimingAdvance.endPos_write, ImmediateAssignmentFields.endPos_writeRest,
    L3RequestReference.lengthV, Stack.L3ChannelDescription.lengthV, L3TimingAdvance.lengthV]
  cases msg.haveAdditionalChannel with
  | true =>
      simp only [if_true, Stack.L3ChannelDescription.endPos_write,
        Stack.L3ChannelDescription.lengthV]
      omega
  | false =>
      simp only [Bool.false_eq_true, if_false, BitWriter.endPos_nil]
      omega

/-- The announced length is right without a channel description only. -/
theorem L3ConfigurationChangeCommand.endPos_write (msg : L3ConfigurationChangeCommand) :
    endPos 0 msg.write = msg.bodyLength * 8 ↔ msg.haveChanDesc = false := by
  rw [write, bodyLength]
  cases msg.haveChanDesc <;> cases msg.havePowerCmd <;>
    simp [Op.width, Stack.L3ChannelDescription.lengthV, L3PowerCommand.lengthV]

theorem L3MeasurementReport.endPos_write (msg : L3MeasurementReport) :
    endPos 0 msg.write = msg.bodyLength * 8 := by
  rw [write, bodyLength]
  simp [Op.width]
  omega

/-- The announced length is right for all six neighbours only. -/
theorem L3ExtendedMeasurementReport.endPos_write (msg : L3ExtendedMeasurementReport) :
    endPos 0 msg.write = bodyLength * 8 ↔ 6 ≤ msg.measurementResults.noNcell.toNat := by
  rw [write, bodyLength, L3MeasurementResults.endPos_write]
  omega

theorem L3PagingRequestType1.endPos_write (msg : L3PagingRequestType1) :
    endPos 0 msg.write = msg.bodyLength * 8 := by
  rw [write, bodyLength]
  split
  · simp [Op.width]
    omega
  · simp
    omega

theorem L3PagingRequestType2.endPos_write (msg : L3PagingRequestType2) :
    endPos 0 msg.write = msg.bodyLength * 8 := by
  have size : msg.tmsis.size = 2 := rfl
  rw [write, bodyLength, size]
  split
  · simp [Op.width]
    omega
  · simp
    omega

theorem L3PagingRequestType3.endPos_write (msg : L3PagingRequestType3) :
    endPos 0 msg.write = msg.bodyLength * 8 := by
  have size : msg.tmsis.size = 4 := rfl
  rw [write, bodyLength, size]
  simp
  omega

theorem L3PagingResponse.endPos_write (msg : L3PagingResponse) :
    endPos 0 msg.write = msg.bodyLength * 8 := by
  rw [write, bodyLength]
  split
  · simp [Op.width]
    omega
  · simp [Op.width]
    omega

theorem L3ChannelRelease.endPos_write (msg : L3ChannelRelease) :
    endPos 0 msg.write = msg.bodyLength * 8 := by
  rw [write, bodyLength]
  split
  · simp [Op.width, writeFlag]
    omega
  · simp [Op.width]
    omega

theorem L3AssignmentCommand.endPos_write (msg : L3AssignmentCommand) :
    endPos 0 msg.write = msg.bodyLength * 8 := by
  rw [write, bodyLength]
  cases msg.haveMode1 <;> cases msg.isAMR <;>
    simp [Op.width, Stack.L3ChannelDescription.lengthV, L3PowerCommand.lengthV,
      L3ChannelMode.lengthV, L3MultiRateConfiguration.lengthV] <;> omega

theorem L3HandoverCommand.endPos_write (msg : L3HandoverCommand) :
    endPos 0 msg.write = msg.bodyLength * 8 := by
  rw [write, bodyLength]
  simp [L3CellDescription.lengthV, Stack.L3ChannelDescription.lengthV,
    L3HandoverReference.lengthV, L3PowerCommandAndAccessType.lengthV,
    L3SynchronizationIndication.lengthV]
  omega

/-! ## No octets are copied -/

/-- The calls write field by field. -/
def NoCopy (ops : List Op) : Prop :=
  ∀ data, .writeBytes data ∉ ops

section NoCopy

variable {op : Op} {ops front back : List Op}

@[simp] theorem noCopy_nil : NoCopy [] :=
  fun _ => List.not_mem_nil

@[simp] theorem noCopy_cons :
    NoCopy (op :: ops) ↔ (∀ data, op ≠ .writeBytes data) ∧ NoCopy ops := by
  simp only [NoCopy, List.mem_cons, not_or, forall_and, eq_comm, ne_eq]

@[simp] theorem noCopy_append : NoCopy (front ++ back) ↔ NoCopy front ∧ NoCopy back := by
  simp only [NoCopy, List.mem_append, not_or, forall_and]

/-- A choice copies no octets when neither part does. -/
@[simp] theorem noCopy_ite {condition : Prop} [Decidable condition] (left : NoCopy front)
    (right : NoCopy back) : NoCopy (if condition then front else back) := by
  split
  · exact left
  · exact right

theorem noCopy_flatMap {α : Type} {write : α → List Op} {parts : List α}
    (single : ∀ part, NoCopy (write part)) : NoCopy (parts.flatMap write) := by
  intro data member
  obtain ⟨part, -, written⟩ := List.mem_flatMap.mp member
  exact single part data written

@[simp] theorem noCopy_writeOctets (octets : List UInt8) : NoCopy (writeOctets octets) :=
  noCopy_flatMap fun octet => by simp

@[simp] theorem noCopy_writeTMSIs (tmsis : List UInt32) : NoCopy (writeTMSIs tmsis) :=
  noCopy_flatMap fun tmsi => by simp

theorem noCopy_writePairs (digits : List Char) :
    NoCopy (Stack.L3MobileIdentity.writePairs digits) := by
  induction digits using Stack.L3MobileIdentity.writePairs.induct with
  | case1 => exact noCopy_nil
  | case2 digit =>
      simp [Stack.L3MobileIdentity.writePairs, Stack.L3MobileIdentity.writeDigit]
  | case3 digit next digits ih =>
      simp [Stack.L3MobileIdentity.writePairs, Stack.L3MobileIdentity.writeDigit, ih]

theorem noCopy_writeDigits (type : Stack.MobileIDType) (digits : List Char) :
    NoCopy (Stack.L3MobileIdentity.writeDigits type digits) := by
  cases digits with
  | nil => simp [Stack.L3MobileIdentity.writeDigits]
  | cons digit digits =>
      simp [Stack.L3MobileIdentity.writeDigits, Stack.L3MobileIdentity.writeDigit,
        noCopy_writePairs]

@[simp] theorem noCopy_writeIdentity (identity : Stack.L3MobileIdentity) :
    NoCopy (writeIdentity identity) := by
  rw [writeIdentity, noCopy_cons]
  refine ⟨nofun, ?_⟩
  rw [Stack.L3MobileIdentity.write]
  split
  · simp
  · exact noCopy_writeDigits _ _
  · exact noCopy_writeDigits _ _

@[simp] theorem noCopy_channel (channel : Stack.L3ChannelDescription) :
    NoCopy channel.write := by
  rw [Stack.L3ChannelDescription.write]
  simp

@[simp] theorem noCopy_results (results : L3MeasurementResults) : NoCopy results.write := by
  rw [L3MeasurementResults.write, noCopy_append]
  refine ⟨by simp [writeFlag], noCopy_flatMap fun i => ?_⟩
  simp [L3MeasurementResults.writeNcell]

@[simp] theorem noCopy_writeRest (msg : ImmediateAssignmentFields) : NoCopy msg.writeRest := by
  simp [ImmediateAssignmentFields.writeRest, StartTime.write]

/-- The encoders write fields only. -/
theorem RRMessage.noCopy_write (msg : RRMessage) : NoCopy msg.write := by
  cases msg with
  | immediateAssignment msg =>
      simp [write, L3ImmediateAssignment.write, L3DedicatedModeOrTBF.write, L3PageMode.write,
        L3RequestReference.write, L3TimingAdvance.write]
  | immediateAssignmentExtended msg =>
      simp [write, L3ImmediateAssignmentExtended.write, L3DedicatedModeOrTBF.write,
        L3PageMode.write, L3RequestReference.write, L3TimingAdvance.write]
  | configurationChangeCommand msg =>
      simp [write, L3ConfigurationChangeCommand.write, L3PowerCommand.write]
  | measurementReport msg => simp [write, L3MeasurementReport.write]
  | extendedMeasurementReport msg => simp [write, L3ExtendedMeasurementReport.write]
  | pagingRequestType1 msg =>
      simp [write, L3PagingRequestType1.write, writePaging, L3PageMode.write]
  | pagingRequestType2 msg =>
      simp [write, L3PagingRequestType2.write, writePaging, L3PageMode.write]
  | pagingRequestType3 msg =>
      simp [write, L3PagingRequestType3.write, writePaging, L3PageMode.write]
  | pagingResponse msg =>
      simp [write, L3PagingResponse.write, L3MobileStationClassmark2.write]
  | channelRelease msg => simp [write, L3ChannelRelease.write, writeFlag]
  | assignmentCommand msg =>
      simp [write, L3AssignmentCommand.write, L3PowerCommand.write, L3ChannelMode.write,
        L3MultiRateConfiguration.write]
  | handoverCommand msg =>
      simp [write, L3HandoverCommand.write, L3CellDescription.write, L3HandoverReference.write,
        L3PowerCommandAndAccessType.write, L3SynchronizationIndication.write, writeFlag]

end NoCopy

/-! ## Which messages are written exactly -/

namespace RRMessage

/-- The announced length counts what is written: it misses the identifier of a channel in a
configuration change, counts an octet too many for a mobile allocation, and is that of six
neighbour cells in an extended measurement report. -/
def CountsBody : RRMessage → Prop
  | .immediateAssignment msg => msg.mobileAllocation = []
  | .immediateAssignmentExtended msg => msg.mobileAllocation = []
  | .configurationChangeCommand msg => msg.haveChanDesc = false
  | .extendedMeasurementReport msg => 6 ≤ msg.measurementResults.noNcell.toNat
  | _ => True

/-- A message fills its announced length when that counts its body. -/
theorem endPos_write (msg : RRMessage) :
    endPos 0 msg.write = msg.bodyLength * 8 ↔ msg.CountsBody := by
  cases msg with
  | immediateAssignment msg => exact msg.endPos_write
  | immediateAssignmentExtended msg => exact msg.endPos_write
  | configurationChangeCommand msg => exact msg.endPos_write
  | extendedMeasurementReport msg => exact msg.endPos_write
  | measurementReport msg => exact iff_true_intro msg.endPos_write
  | pagingRequestType1 msg => exact iff_true_intro msg.endPos_write
  | pagingRequestType2 msg => exact iff_true_intro msg.endPos_write
  | pagingRequestType3 msg => exact iff_true_intro msg.endPos_write
  | pagingResponse msg => exact iff_true_intro msg.endPos_write
  | channelRelease msg => exact iff_true_intro msg.endPos_write
  | assignmentCommand msg => exact iff_true_intro msg.endPos_write
  | handoverCommand msg => exact iff_true_intro msg.endPos_write

/-- A message is written exactly if its announced length counts what is written. -/
theorem written_iff_countsBody (msg : RRMessage) :
    msg.encoding.WrittenExactly ↔ msg.CountsBody :=
  (@L3Encoding.writtenExactly_iff msg.encoding msg.noCopy_write).trans msg.endPos_write

/-- An immediate assignment with a mobile allocation of one octet, in two buffers. -/
theorem octet_left_over :
    ∃ (msg : RRMessage) (out out' buffer buffer' : List UInt8),
      msg.encoding.wireLength ≤ out.length ∧ msg.encoding.wireLength ≤ out'.length ∧
      msg.encoding.writeL3Body out = .ok (buffer, msg.encoding.wireLength) ∧
      msg.encoding.writeL3Body out' = .ok (buffer', msg.encoding.wireLength) ∧
      buffer.take msg.encoding.wireLength ≠ buffer'.take msg.encoding.wireLength := by
  refine ⟨.immediateAssignment { mobileAllocation := [0x01] }, List.replicate 13 0x00,
    List.replicate 13 0xff,
    [0x06, 0x3f, 0, 0, 0, 0, 0, 0, 0, 0, 0x01, 0x01, 0x00],
    [0x06, 0x3f, 0, 0, 0, 0, 0, 0, 0, 0, 0x01, 0x01, 0xff], ?_⟩
  decide

end RRMessage

end Gsml3
