import Gsml3.Core.TaggedElements
import Gsml3.MM.Messages

/-!
# GPRS mobility messages

A leading part of half octets, a routing area, and optional elements in any order: of a fixed
size, or with their length in front.  What follows an unknown one is kept as octets.
-/

namespace Gsml3

open BitWriter (Op)
open FieldParser
open Stack (L3LocationAreaIdentity L3MobileIdentity)
open Stack.L3MobileIdentity (readIdentity)

/-! ## Elements -/

/-- `readBytes` into an array. -/
def FieldParser.readArray (count : Nat) : FieldParser (Vector UInt8 count) := do
  let octets ← readBytes count
  pure (Vector.ofFn fun i : Fin count => octets.getD i 0)

/-- The layout of a location area in front of the routing area code. -/
structure L3RoutingAreaIdentification extends L3LocationAreaIdentity where
  rac : UInt8 := 0
deriving DecidableEq, Repr

namespace L3RoutingAreaIdentification

/-- A routing area identification has six octets. -/
def lengthV : Nat := 6

/-- The location area, then the routing area code. -/
def parse : FieldParser L3RoutingAreaIdentification := do
  let lai ← L3LocationAreaIdentity.parse
  let rac ← readNarrow 8
  pure { lai with rac }

/-- The location area, then the routing area code. -/
def write (rai : L3RoutingAreaIdentification) : List Op :=
  rai.toL3LocationAreaIdentity.write ++ [.writeField rai.rac.toUInt32 8]

end L3RoutingAreaIdentification

/-- A timer as a unit and a number of units. -/
structure GprsTimerValue where
  units : UInt8 := 7
  value : UInt8 := 0
deriving DecidableEq, Repr

namespace GprsTimerValue

/-- The unit in the upper three bits, the number in the lower five. -/
def octet (timer : GprsTimerValue) : UInt8 :=
  ((timer.units &&& 0x07) <<< 5) ||| (timer.value &&& 0x1F)

/-- The octet, taken apart. -/
def parse : FieldParser GprsTimerValue := do
  let octet ← readNarrow 8
  pure { units := (octet >>> 5) &&& 0x07, value := octet &&& 0x1F }

/-- The octet of the timer. -/
def write (timer : GprsTimerValue) : List Op :=
  [.writeField timer.octet.toUInt32 8]

end GprsTimerValue

/-- `L3PDPContextStatus::lengthV()`. -/
def pdpContextStatusLength : Nat := 2

/-! ## Attach accept -/

/-- The attach result is its code in the octet. -/
structure L3AttachAccept where
  attachResult : UInt8 := 1
  forceToStandby : Bool := false
  raUpdateTimer : GprsTimerValue := {}
  radioPrioritySms : UInt8 := 0
  radioPriorityTom8 : UInt8 := 0
  rai : L3RoutingAreaIdentification := {}
  havePtmsiSignature : Bool := false
  ptmsiSignature : Vector UInt8 3 := .replicate 3 0
  haveReadyTimer : Bool := false
  readyTimer : Vector UInt8 2 := .replicate 2 0
  havePTMSI : Bool := false
  ptmsi : L3MobileIdentity := {}
  additionalIes : List UInt8 := []
deriving DecidableEq, Repr

namespace L3AttachAccept

/-- The leading part, the elements that are there, and the octets kept. -/
def bodyLength (msg : L3AttachAccept) : Nat :=
  3 + L3RoutingAreaIdentification.lengthV + (if msg.havePtmsiSignature then 4 else 0) +
    (if msg.haveReadyTimer then 3 else 0) +
    (if msg.havePTMSI then 2 + msg.ptmsi.lengthV else 0) + msg.additionalIes.length

/-- The mandatory part of the message. -/
def parseLeading : FieldParser L3AttachAccept := do
  let first ← readNarrow 8
  let raUpdateTimer ← GprsTimerValue.parse
  let third ← readNarrow 8
  let rai ← L3RoutingAreaIdentification.parse
  pure { forceToStandby := (first >>> 4) &&& 0x01 != 0, attachResult := first &&& 0x0F,
         raUpdateTimer, radioPrioritySms := (third >>> 4) &&& 0x0F,
         radioPriorityTom8 := third &&& 0x0F, rai }

/-- The optional elements, each taken once. -/
def elements : List (TaggedElement L3AttachAccept) :=
  [{ iei := 0x19
     wanted := fun msg => !msg.havePtmsiSignature
     value := fun msg => do
       let ptmsiSignature ← readArray 3
       pure { msg with havePtmsiSignature := true, ptmsiSignature } },
   { iei := 0x17
     wanted := fun msg => !msg.haveReadyTimer
     value := fun msg => do
       let readyTimer ← readArray 2
       pure { msg with haveReadyTimer := true, readyTimer } },
   { iei := 0x18
     wanted := fun msg => !msg.havePTMSI
     value := fun msg => do
       let ptmsi ← readIdentity
       pure { msg with havePTMSI := true, ptmsi } }]

/-- The mandatory part, the optional elements in any order, and the rest as octets. -/
def parse : FieldParser L3AttachAccept := do
  let leading ← parseLeading
  let msg ← readTaggedElements elements leading
  let additionalIes ← readOpaqueTail "truncated optional IEs"
  pure { msg with additionalIes }

/-- The mandatory part of the message. -/
def writeLeading (msg : L3AttachAccept) : List Op :=
  [.writeField (((if msg.forceToStandby then (1 : UInt32) else 0) <<< 4) |||
    (msg.attachResult.toUInt32 &&& 0x0F)) 8] ++ msg.raUpdateTimer.write ++
    [.writeField (((msg.radioPrioritySms.toUInt32 &&& 0x0F) <<< 4) |||
      (msg.radioPriorityTom8.toUInt32 &&& 0x0F)) 8] ++ msg.rai.write

/-- The mandatory part, the elements that are there in a fixed order, and the octets kept. -/
def write (msg : L3AttachAccept) : List Op :=
  msg.writeLeading ++
    (if msg.havePtmsiSignature then
      [.writeField 0x19 8, .writeBytes msg.ptmsiSignature.toList] else []) ++
    (if msg.haveReadyTimer then
      [.writeField 0x17 8, .writeBytes msg.readyTimer.toList] else []) ++
    (if msg.havePTMSI then .writeField 0x18 8 :: writeIdentity msg.ptmsi else []) ++
    writeOctets msg.additionalIes

end L3AttachAccept

/-! ## Routing area update accept -/

/-- The update result is its code in the octet. -/
structure L3RoutingAreaUpdateAccept where
  forceToStandby : Bool := false
  updateResult : UInt8 := 0
  raUpdateTimer : GprsTimerValue := {}
  rai : L3RoutingAreaIdentification := {}
  havePtmsiSignature : Bool := false
  ptmsiSignature : Vector UInt8 3 := .replicate 3 0
  havePTMSI : Bool := false
  ptmsi : L3MobileIdentity := {}
  haveReadyTimer : Bool := false
  readyTimer : Vector UInt8 2 := .replicate 2 0
  havePdpContextStatus : Bool := false
  pdpContextStatus : Vector UInt8 2 := .replicate 2 0
  additionalIes : List UInt8 := []
deriving DecidableEq, Repr

namespace L3RoutingAreaUpdateAccept

/-- The leading part, the elements that are there, and the octets kept. -/
def bodyLength (msg : L3RoutingAreaUpdateAccept) : Nat :=
  2 + L3RoutingAreaIdentification.lengthV + (if msg.havePtmsiSignature then 4 else 0) +
    (if msg.havePTMSI then 2 + msg.ptmsi.lengthV else 0) +
    (if msg.haveReadyTimer then 3 else 0) + (if msg.havePdpContextStatus then 4 else 0) +
    msg.additionalIes.length

/-- The mandatory part of the message. -/
def parseLeading : FieldParser L3RoutingAreaUpdateAccept := do
  let first ← readNarrow 8
  let raUpdateTimer ← GprsTimerValue.parse
  let rai ← L3RoutingAreaIdentification.parse
  pure { updateResult := (first >>> 1) &&& 0x07, forceToStandby := first &&& 0x01 != 0,
         raUpdateTimer, rai }

/-- The status has its length in front. -/
def readPdpContextStatus : FieldParser (Vector UInt8 2) := do
  let length ← readField 8
  if length = pdpContextStatusLength then readArray 2
  else throw { code := .invalidValue, message := "invalid PDP context status length" }

/-- The optional elements, each taken once. -/
def elements : List (TaggedElement L3RoutingAreaUpdateAccept) :=
  [{ iei := 0x19
     wanted := fun msg => !msg.havePtmsiSignature
     value := fun msg => do
       let ptmsiSignature ← readArray 3
       pure { msg with havePtmsiSignature := true, ptmsiSignature } },
   { iei := 0x18
     wanted := fun msg => !msg.havePTMSI
     value := fun msg => do
       let ptmsi ← readIdentity
       pure { msg with havePTMSI := true, ptmsi } },
   { iei := 0x17
     wanted := fun msg => !msg.haveReadyTimer
     value := fun msg => do
       let readyTimer ← readArray 2
       pure { msg with haveReadyTimer := true, readyTimer } },
   { iei := 0x32
     wanted := fun msg => !msg.havePdpContextStatus
     value := fun msg => do
       let pdpContextStatus ← readPdpContextStatus
       pure { msg with havePdpContextStatus := true, pdpContextStatus } }]

/-- The mandatory part, the optional elements in any order, and the rest as octets. -/
def parse : FieldParser L3RoutingAreaUpdateAccept := do
  let leading ← parseLeading
  let msg ← readTaggedElements elements leading
  let additionalIes ← readOpaqueTail "truncated optional IEs"
  pure { msg with additionalIes }

/-- The mandatory part of the message. -/
def writeLeading (msg : L3RoutingAreaUpdateAccept) : List Op :=
  [.writeField (((msg.updateResult.toUInt32 &&& 0x07) <<< 1) |||
    (if msg.forceToStandby then 1 else 0)) 8] ++ msg.raUpdateTimer.write ++ msg.rai.write

/-- The mandatory part, the elements that are there in a fixed order, and the octets kept. -/
def write (msg : L3RoutingAreaUpdateAccept) : List Op :=
  msg.writeLeading ++
    (if msg.havePtmsiSignature then
      [.writeField 0x19 8, .writeBytes msg.ptmsiSignature.toList] else []) ++
    (if msg.havePTMSI then .writeField 0x18 8 :: writeIdentity msg.ptmsi else []) ++
    (if msg.haveReadyTimer then
      [.writeField 0x17 8, .writeBytes msg.readyTimer.toList] else []) ++
    (if msg.havePdpContextStatus then
      [.writeField 0x32 8, .writeField (UInt32.ofNat pdpContextStatusLength) 8,
        .writeBytes msg.pdpContextStatus.toList] else []) ++
    writeOctets msg.additionalIes

end L3RoutingAreaUpdateAccept

/-! ## Detach request -/

/-- Power off and force to standby are flags of the one and the other direction; the cause is its
code. -/
structure L3DetachRequest where
  detachType : UInt8 := 0
  powerOff : Bool := false
  forceToStandby : Bool := false
  havePTMSI : Bool := false
  ptmsi : L3MobileIdentity := {}
  haveCause : Bool := false
  cause : UInt8 := 0
  additionalIes : List UInt8 := []
deriving DecidableEq, Repr

namespace L3DetachRequest

/-- The first octet, the elements that are there, and the octets kept. -/
def bodyLength (msg : L3DetachRequest) : Nat :=
  1 + (if msg.havePTMSI then 2 + msg.ptmsi.lengthV else 0) + (if msg.haveCause then 2 else 0) +
    msg.additionalIes.length

/-- The type and the two flags of the first octet. -/
def parseLeading : FieldParser L3DetachRequest := do
  let octet ← readNarrow 8
  pure { detachType := octet &&& 0x07, powerOff := (octet >>> 3) &&& 0x01 != 0,
         forceToStandby := (octet >>> 4) &&& 0x01 != 0 }

/-- They are read as often as they come. -/
def elements : List (TaggedElement L3DetachRequest) :=
  [{ iei := 0x18
     wanted := fun _ => true
     value := fun msg => do
       let ptmsi ← readIdentity
       pure { msg with havePTMSI := true, ptmsi } },
   { iei := 0x25
     wanted := fun _ => true
     value := fun msg => do
       let cause ← readNarrow 8
       pure { msg with haveCause := true, cause } }]

/-- The first octet, the optional elements in any order, and the rest as octets. -/
def parse : FieldParser L3DetachRequest := do
  let leading ← parseLeading
  let msg ← readTaggedElements elements leading
  let additionalIes ← readOpaqueTail "truncated optional IEs"
  pure { msg with additionalIes }

/-- The type and the two flags of the first octet. -/
def writeLeading (msg : L3DetachRequest) : List Op :=
  [.writeField ((msg.detachType.toUInt32 &&& 0x07) ||| (if msg.powerOff then 0x08 else 0) |||
    (if msg.forceToStandby then 0x10 else 0)) 8]

/-- The first octet, the elements that are there in a fixed order, and the octets kept. -/
def write (msg : L3DetachRequest) : List Op :=
  msg.writeLeading ++
    (if msg.havePTMSI then .writeField 0x18 8 :: writeIdentity msg.ptmsi else []) ++
    (if msg.haveCause then [.writeField 0x25 8, .writeField msg.cause.toUInt32 8] else []) ++
    writeOctets msg.additionalIes

end L3DetachRequest

end Gsml3
