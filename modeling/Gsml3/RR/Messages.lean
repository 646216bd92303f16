import Gsml3.Core.L3Header
import Gsml3.RR.Elements

/-!
# Radio resource messages

The messages that assign and release channels, page and report measurements: each announces
the length of its body and writes it in two separate functions.
-/

namespace Gsml3

open BitWriter (Op)
open Stack (ChannelType L3ChannelDescription L3MobileIdentity)

/-! ## Paging -/

/-- The code of a needed channel; a type that paging cannot ask for is coded as any channel. -/
def channelNeededCode : ChannelType → UInt32
  | .anyDCCHType => 0
  | .sdcchType => 1
  | .tchfType => 2
  | .anyTCHType => 3
  | _ => 0

/-- The first octet of a paging request. -/
def writePaging (channelsNeeded : Vector ChannelType 2) (pageMode : L3PageMode) : List Op :=
  [.writeField (channelNeededCode channelsNeeded[1]) 2,
    .writeField (channelNeededCode channelsNeeded[0]) 2] ++ pageMode.write

/-- An identity behind its length. -/
def writeIdentity (identity : L3MobileIdentity) : List Op :=
  .writeField (UInt32.ofNat identity.lengthV) 8 :: identity.write

/-- A paging request for one or two identities. -/
structure L3PagingRequestType1 where
  mobileIds : Vector L3MobileIdentity 2 := #v[{}, {}]
  mobileIdCount : Nat := 0
  channelsNeeded : Vector ChannelType 2 := #v[.anyDCCHType, .anyDCCHType]
  pageMode : L3PageMode := {}
  additionalIes : List UInt8 := []
deriving DecidableEq, Repr

namespace L3PagingRequestType1

/-- The page mode octet, the identities with their length octets, and the octets kept. -/
def bodyLength (msg : L3PagingRequestType1) : Nat :=
  1 + (msg.mobileIds[0].lengthV + 1) +
    (if 1 < msg.mobileIdCount then 2 + msg.mobileIds[1].lengthV else 0) +
    msg.additionalIes.length

/-- The second identity goes behind its identifier, when there is one. -/
def write (msg : L3PagingRequestType1) : List Op :=
  writePaging msg.channelsNeeded msg.pageMode ++ writeIdentity msg.mobileIds[0] ++
    (if 1 < msg.mobileIdCount then .writeField 0x17 8 :: writeIdentity msg.mobileIds[1]
      else []) ++
    writeOctets msg.additionalIes

end L3PagingRequestType1

/-- Each TMSI in four octets. -/
def writeTMSIs (tmsis : List UInt32) : List Op :=
  tmsis.flatMap fun tmsi => [.writeField tmsi 32]

/-- A paging request for two TMSIs and an optional third identity. -/
structure L3PagingRequestType2 where
  tmsis : Vector UInt32 2 := #v[0, 0]
  channelsNeeded : Vector ChannelType 2 := #v[.anyDCCHType, .anyDCCHType]
  pageMode : L3PageMode := {}
  thirdIdentity : L3MobileIdentity := {}
  haveThirdIdentity : Bool := false
  additionalIes : List UInt8 := []
deriving DecidableEq, Repr

namespace L3PagingRequestType2

/-- The page mode octet, two TMSIs, the third identity with its header, and the octets kept. -/
def bodyLength (msg : L3PagingRequestType2) : Nat :=
  1 + msg.tmsis.size * 4 +
    (if msg.haveThirdIdentity then 2 + msg.thirdIdentity.lengthV else 0) +
    msg.additionalIes.length

/-- The third identity goes behind its identifier, when there is one. -/
def write (msg : L3PagingRequestType2) : List Op :=
  writePaging msg.channelsNeeded msg.pageMode ++ writeTMSIs msg.tmsis.toList ++
    (if msg.haveThirdIdentity then .writeField 0x17 8 :: writeIdentity msg.thirdIdentity
      else []) ++
    writeOctets msg.additionalIes

end L3PagingRequestType2

/-- A paging request for four TMSIs. -/
structure L3PagingRequestType3 where
  tmsis : Vector UInt32 4 := #v[0, 0, 0, 0]
  channelsNeeded : Vector ChannelType 2 := #v[.anyDCCHType, .anyDCCHType]
  pageMode : L3PageMode := {}
  additionalIes : List UInt8 := []
deriving DecidableEq, Repr

namespace L3PagingRequestType3

/-- The page mode octet, four TMSIs and the octets kept. -/
def bodyLength (msg : L3PagingRequestType3) : Nat :=
  1 + msg.tmsis.size * 4 + msg.additionalIes.length

/-- The TMSIs, then the octets kept. -/
def write (msg : L3PagingRequestType3) : List Op :=
  writePaging msg.channelsNeeded msg.pageMode ++ writeTMSIs msg.tmsis.toList ++
    writeOctets msg.additionalIes

end L3PagingRequestType3

/-- The answer of a paged mobile: key sequence number, classmark and identity. -/
structure L3PagingResponse where
  cksn : UInt32 := 0
  classmark : L3MobileStationClassmark2 := {}
  mobileId : L3MobileIdentity := {}
  haveAdditionalUpdateParameter : Bool := false
  additionalUpdateParameter : UInt8 := 0
  additionalIes : List UInt8 := []
deriving DecidableEq, Repr

namespace L3PagingResponse

/-- The key octet, two values with their length octets, and what follows them. -/
def bodyLength (msg : L3PagingResponse) : Nat :=
  1 + 1 + msg.classmark.lengthV + 1 + msg.mobileId.lengthV +
    (if msg.haveAdditionalUpdateParameter then 1 else 0) + msg.additionalIes.length

/-- The key sequence number in the low half octet, then the two values behind their lengths. -/
def write (msg : L3PagingResponse) : List Op :=
  [.writeField 0 4, .writeField (msg.cksn &&& 0x0F) 4,
    .writeField (UInt32.ofNat msg.classmark.lengthV) 8] ++ msg.classmark.write ++
    writeIdentity msg.mobileId ++
    (if msg.haveAdditionalUpdateParameter then
      [.writeField msg.additionalUpdateParameter.toUInt32 8] else []) ++
    writeOctets msg.additionalIes

end L3PagingResponse

/-! ## Release, assignment and handover -/

/-- The release of a channel, with its cause and the GPRS resumption bit. -/
structure L3ChannelRelease where
  cause : UInt8 := 0
  gprsResumptionPresent : Bool := false
  gprsResumptionBit : Bool := false
  additionalIes : List UInt8 := []
deriving DecidableEq, Repr

namespace L3ChannelRelease

/-- The cause, the resumption octet when present, and the octets kept. -/
def bodyLength (msg : L3ChannelRelease) : Nat :=
  1 + (if msg.gprsResumptionPresent then 1 else 0) + msg.additionalIes.length

/-- The resumption bit is the lowest bit of an octet of type TV with identifier `C`. -/
def write (msg : L3ChannelRelease) : List Op :=
  [.writeField msg.cause.toUInt32 8] ++
    (if msg.gprsResumptionPresent then
      [.writeField 0x0C 4, .writeField 0 3, writeFlag msg.gprsResumptionBit] else []) ++
    writeOctets msg.additionalIes

end L3ChannelRelease

/-- The assignment of a channel, its power and its mode. -/
structure L3AssignmentCommand where
  channel : L3ChannelDescription := {}
  powerCommand : L3PowerCommand := {}
  haveMode1 : Bool := false
  mode1 : L3ChannelMode := {}
  multiRate : L3MultiRateConfiguration := {}
  additionalIes : List UInt8 := []
deriving DecidableEq, Repr

namespace L3AssignmentCommand

/-- Whether the first mode asks for adaptive multi-rate speech. -/
def isAMR (msg : L3AssignmentCommand) : Bool :=
  msg.haveMode1 && msg.mode1.isAMR

/-- The fixed elements, the mode with its identifier, and the configuration that the mode implies.
-/
def bodyLength (msg : L3AssignmentCommand) : Nat :=
  L3ChannelDescription.lengthV + L3PowerCommand.lengthV +
    (if msg.haveMode1 then 1 + L3ChannelMode.lengthV else 0) +
    (if msg.isAMR then 1 + 1 + L3MultiRateConfiguration.lengthV else 0) +
    msg.additionalIes.length

/-- The multi-rate configuration is written only for a mode of adaptive multi-rate. -/
def write (msg : L3AssignmentCommand) : List Op :=
  msg.channel.write ++ msg.powerCommand.write ++
    (if msg.haveMode1 then .writeField 0x63 8 :: msg.mode1.write else []) ++
    (if msg.isAMR then
      [.writeField 0x03 8, .writeField (UInt32.ofNat L3MultiRateConfiguration.lengthV) 8] ++
        msg.multiRate.write
      else []) ++
    writeOctets msg.additionalIes

end L3AssignmentCommand

/-- The command to change to a channel of another cell. -/
structure L3HandoverCommand where
  cellDescription : L3CellDescription := {}
  channelDescriptionAfter : L3ChannelDescription2 := {}
  handoverReference : L3HandoverReference := {}
  powerCommandAccessType : L3PowerCommandAndAccessType := {}
  synchronizationIndication : L3SynchronizationIndication := {}
  additionalIes : List UInt8 := []
deriving DecidableEq, Repr

namespace L3HandoverCommand

/-- The lengths of the five elements and the octets kept. -/
def bodyLength (msg : L3HandoverCommand) : Nat :=
  L3CellDescription.lengthV + L3ChannelDescription.lengthV + L3HandoverReference.lengthV +
    L3PowerCommandAndAccessType.lengthV + L3SynchronizationIndication.lengthV +
    msg.additionalIes.length

/-- The five elements in the order of the message, then the octets kept. -/
def write (msg : L3HandoverCommand) : List Op :=
  msg.cellDescription.write ++ msg.channelDescriptionAfter.write ++
    msg.handoverReference.write ++ msg.powerCommandAccessType.write ++
    msg.synchronizationIndication.write ++ writeOctets msg.additionalIes

end L3HandoverCommand

/-- A change of the channel or of the power, each optional. -/
structure L3ConfigurationChangeCommand where
  haveChanDesc : Bool := false
  chanDesc : L3ChannelDescription := {}
  havePowerCmd : Bool := false
  powerCmd : L3PowerCommand := {}
deriving DecidableEq, Repr

namespace L3ConfigurationChangeCommand

/-- The identifier of the power command is counted, that of the channel is not. -/
def bodyLength (msg : L3ConfigurationChangeCommand) : Nat :=
  (if msg.haveChanDesc then L3ChannelDescription.lengthV else 0) +
    (if msg.havePowerCmd then 1 + L3PowerCommand.lengthV else 0)

/-- Each element behind its identifier, when there. -/
def write (msg : L3ConfigurationChangeCommand) : List Op :=
  (if msg.haveChanDesc then .writeField 0x64 8 :: msg.chanDesc.write else []) ++
    (if msg.havePowerCmd then .writeField 0x65 8 :: msg.powerCmd.write else [])

end L3ConfigurationChangeCommand

/-! ## Immediate assignment -/

/-- The starting time of an assignment, as reduced frame number. -/
structure StartTime where
  t1 : UInt8 := 0
  t3 : UInt8 := 0
  t2 : UInt8 := 0
deriving DecidableEq, Repr

/-- The identifier and the two octets that hold `t1`, `t3` and `t2`. -/
def StartTime.write (time : StartTime) : List Op :=
  [.writeField 0x7c 8, .writeField (time.t1.toUInt32 <<< 3 ||| time.t3.toUInt32 >>> 3) 8,
    .writeField ((time.t3.toUInt32 &&& 0x07) <<< 5 ||| time.t2.toUInt32) 8]

/-- The part that the immediate assignment and its extended form share. -/
structure ImmediateAssignmentFields where
  pageMode : L3PageMode := {}
  dedicatedModeOrTBF : L3DedicatedModeOrTBF := {}
  requestReference : L3RequestReference := {}
  channelDescription : L3ChannelDescription := {}
  timingAdvance : L3TimingAdvance := {}
  mobileAllocation : List UInt8 := []
  startTimePresent : Bool := false
  startTime : StartTime := {}
deriving DecidableEq, Repr

namespace ImmediateAssignmentFields

/-- The length octet of the mobile allocation is counted twice if there is one. -/
def bodyLength (msg : ImmediateAssignmentFields) : Nat :=
  1 + 1 + L3RequestReference.lengthV + L3ChannelDescription.lengthV + L3TimingAdvance.lengthV +
    (if msg.mobileAllocation ≠ [] then 1 + msg.mobileAllocation.length else 0) +
    (if msg.startTimePresent then 1 + 2 else 0)

/-- The mobile allocation behind its length, and the starting time. -/
def writeRest (msg : ImmediateAssignmentFields) : List Op :=
  .writeField (UInt32.ofNat msg.mobileAllocation.length) 8 ::
    (writeOctets msg.mobileAllocation ++
      (if msg.startTimePresent then msg.startTime.write else []))

end ImmediateAssignmentFields

/-- An immediate assignment with the octets behind the known elements. -/
structure L3ImmediateAssignment extends ImmediateAssignmentFields where
  additionalIes : List UInt8 := []
deriving DecidableEq, Repr

namespace L3ImmediateAssignment

/-- The length of the known fields and the octets kept. -/
def bodyLength (msg : L3ImmediateAssignment) : Nat :=
  msg.toImmediateAssignmentFields.bodyLength + msg.additionalIes.length

/-- The mandatory elements, the optional rest and the octets kept. -/
def write (msg : L3ImmediateAssignment) : List Op :=
  msg.dedicatedModeOrTBF.write ++ msg.pageMode.write ++ msg.channelDescription.write ++
    msg.requestReference.write ++ msg.timingAdvance.write ++ msg.writeRest ++
    writeOctets msg.additionalIes

end L3ImmediateAssignment

/-- An immediate assignment with a second channel description. -/
structure L3ImmediateAssignmentExtended extends ImmediateAssignmentFields where
  haveAdditionalChannel : Bool := false
  additionalChannel : L3AdditionalChannelDescription := {}
deriving DecidableEq, Repr

namespace L3ImmediateAssignmentExtended

/-- The length of the known fields and of the second channel, when there. -/
def bodyLength (msg : L3ImmediateAssignmentExtended) : Nat :=
  msg.toImmediateAssignmentFields.bodyLength +
    if msg.haveAdditionalChannel then L3ChannelDescription.lengthV else 0

/-- The request reference comes before the channel. -/
def write (msg : L3ImmediateAssignmentExtended) : List Op :=
  msg.dedicatedModeOrTBF.write ++ msg.pageMode.write ++ msg.requestReference.write ++
    msg.channelDescription.write ++ msg.timingAdvance.write ++ msg.writeRest ++
    if msg.haveAdditionalChannel then msg.additionalChannel.write else []

end L3ImmediateAssignmentExtended

/-! ## Measurement reports -/

/-- A measurement report with the octets behind the results. -/
structure L3MeasurementReport where
  measurementResults : L3MeasurementResults := {}
  additionalIes : List UInt8 := []
deriving DecidableEq, Repr

namespace L3MeasurementReport

/-- The bits of the results, rounded up to octets, and the octets kept. -/
def bodyLength (msg : L3MeasurementReport) : Nat :=
  (26 + 17 * min msg.measurementResults.noNcell.toNat 6 + 7) / 8 + msg.additionalIes.length

/-- The results are filled up to an octet before the octets kept. -/
def write (msg : L3MeasurementReport) : List Op :=
  msg.measurementResults.write ++ [.alignToOctet] ++ writeOctets msg.additionalIes

end L3MeasurementReport

/-- An extended measurement report, written as the results of a plain one. -/
structure L3ExtendedMeasurementReport where
  measurementResults : L3MeasurementResults := {}
deriving DecidableEq, Repr

namespace L3ExtendedMeasurementReport

/-- The octets of results with six neighbour cells. -/
def bodyLength : Nat := 16

/-- The results as a plain report writes them. -/
def write (msg : L3ExtendedMeasurementReport) : List Op :=
  msg.measurementResults.write

end L3ExtendedMeasurementReport

/-! ## The messages -/

/-- The radio resource messages whose encoders are modelled. -/
inductive RRMessage where
  | immediateAssignment (msg : L3ImmediateAssignment)
  | immediateAssignmentExtended (msg : L3ImmediateAssignmentExtended)
  | configurationChangeCommand (msg : L3ConfigurationChangeCommand)
  | measurementReport (msg : L3MeasurementReport)
  | extendedMeasurementReport (msg : L3ExtendedMeasurementReport)
  | pagingRequestType1 (msg : L3PagingRequestType1)
  | pagingRequestType2 (msg : L3PagingRequestType2)
  | pagingRequestType3 (msg : L3PagingRequestType3)
  | pagingResponse (msg : L3PagingResponse)
  | channelRelease (msg : L3ChannelRelease)
  | assignmentCommand (msg : L3AssignmentCommand)
  | handoverCommand (msg : L3HandoverCommand)
deriving DecidableEq, Repr

namespace RRMessage

/-- The message type octet of a message. -/
def mti : RRMessage → Nat
  | .immediateAssignment _ => 0x3f
  | .immediateAssignmentExtended _ => 0x39
  | .configurationChangeCommand _ => 0x30
  | .measurementReport _ => 0x15
  | .extendedMeasurementReport _ => 0x36
  | .pagingRequestType1 _ => 0x21
  | .pagingRequestType2 _ => 0x22
  | .pagingRequestType3 _ => 0x24
  | .pagingResponse _ => 0x27
  | .channelRelease _ => 0x0d
  | .assignmentCommand _ => 0x2e
  | .handoverCommand _ => 0x2b

/-- The length that each message announces of its body. -/
def bodyLength : RRMessage → Nat
  | .immediateAssignment msg => msg.bodyLength
  | .immediateAssignmentExtended msg => msg.bodyLength
  | .configurationChangeCommand msg => msg.bodyLength
  | .measurementReport msg => msg.bodyLength
  | .extendedMeasurementReport _ => L3ExtendedMeasurementReport.bodyLength
  | .pagingRequestType1 msg => msg.bodyLength
  | .pagingRequestType2 msg => msg.bodyLength
  | .pagingRequestType3 msg => msg.bodyLength
  | .pagingResponse msg => msg.bodyLength
  | .channelRelease msg => msg.bodyLength
  | .assignmentCommand msg => msg.bodyLength
  | .handoverCommand msg => msg.bodyLength

/-- The body that each message writes. -/
def write : RRMessage → List Op
  | .immediateAssignment msg => msg.write
  | .immediateAssignmentExtended msg => msg.write
  | .configurationChangeCommand msg => msg.write
  | .measurementReport msg => msg.write
  | .extendedMeasurementReport msg => msg.write
  | .pagingRequestType1 msg => msg.write
  | .pagingRequestType2 msg => msg.write
  | .pagingRequestType3 msg => msg.write
  | .pagingResponse msg => msg.write
  | .channelRelease msg => msg.write
  | .assignmentCommand msg => msg.write
  | .handoverCommand msg => msg.write

/-- A message with its header octets, its announced length and its body. -/
def encoding (msg : RRMessage) : L3Encoding where
  pd := 0x06
  mti := msg.mti
  bodyLength := msg.bodyLength
  fields := msg.write

end RRMessage

end Gsml3
