import Gsml3.Common.ClassmarkCodec
import Gsml3.Common.IdentityOctets
import Gsml3.RR.Messages

/-!
# Mobility messages

The messages by which a phone asks for a service or for a location update, and takes leave: parts
that are always there in front of elements with an identifier, or of octets that are kept as they
are.
-/

namespace Gsml3

open BitWriter (Op)
open FieldParser
open Stack (L3LocationAreaIdentity L3MobileIdentity)
open Stack.L3MobileIdentity (readIdentity)

/-! ## Elements -/

namespace Stack.L3LocationAreaIdentity

/-- A location area identity has five octets. -/
def lengthV : Nat := 5

/-- The digits of the codes are nibbles, the second one of an octet first. -/
def parse : FieldParser L3LocationAreaIdentity := do
  let mcc2 ← readUnsigned 4
  let mcc1 ← readUnsigned 4
  let mnc3 ← readUnsigned 4
  let mcc3 ← readUnsigned 4
  let mnc2 ← readUnsigned 4
  let mnc1 ← readUnsigned 4
  let lac ← readWord 16
  pure { mcc := #v[mcc1, mcc2, mcc3], mnc := #v[mnc1, mnc2, mnc3], lac }

/-- The digits of the two codes are packed in pairs; the area code follows. -/
def write (lai : L3LocationAreaIdentity) : List Op :=
  [.writeField lai.mcc[1] 4, .writeField lai.mcc[0] 4, .writeField lai.mnc[2] 4,
    .writeField lai.mcc[2] 4, .writeField lai.mnc[1] 4, .writeField lai.mnc[0] 4,
    .writeField lai.lac.toUInt32 16]

end Stack.L3LocationAreaIdentity

/-- The first classmark, of one octet. -/
structure L3MobileStationClassmark1 where
  revisionLevel : UInt32 := 0
  esInd : UInt32 := 0
  a5_1 : UInt32 := 0
  rfPowerCapability : UInt32 := 0
deriving DecidableEq, Repr

namespace L3MobileStationClassmark1

def lengthV : Nat := 1

/-- A spare bit and the four fields. -/
def parse : FieldParser L3MobileStationClassmark1 := do
  let _ ← readField 1
  let revisionLevel ← readUnsigned 2
  let esInd ← readUnsigned 1
  let a5_1 ← readUnsigned 1
  let rfPowerCapability ← readUnsigned 3
  pure { revisionLevel, esInd, a5_1, rfPowerCapability }

/-- A spare bit and the four fields. -/
def write (classmark : L3MobileStationClassmark1) : List Op :=
  [.writeField 0 1, .writeField classmark.revisionLevel 2, .writeField classmark.esInd 1,
    .writeField classmark.a5_1 1, .writeField classmark.rfPowerCapability 3]

end L3MobileStationClassmark1

/-- The spare bit of the identifier is not looked at. -/
def isTLVType (expectedIEI peek : Nat) : Bool :=
  peek &&& 0x7F == expectedIEI

/-- A value behind its identifier and its length. -/
def parseTLV {α : Type} (missing : String) (value : Nat → FieldParser α) (expectedIEI : Nat) :
    FieldParser α := do
  if ← hasMore then
    let iei ← readField 8
    if isTLVType expectedIEI iei then
      let length ← readOctet
      value length.toNat
    else
      let found ← position
      throw { code := .invalidIE, message := "unexpected TLV type", bitPosition := found - 8 }
  else
    let found ← position
    throw { code := .truncatedInput, message := missing, bitPosition := found }

/-- A mobile identity behind its identifier and length. -/
def parseTLVMI : Nat → FieldParser L3MobileIdentity :=
  parseTLV "no TLV for MI" L3MobileIdentity.parse

/-- The size is fixed, and the length octet is not looked at. -/
def parseTLVLAI : Nat → FieldParser L3LocationAreaIdentity :=
  parseTLV "no TLV for LAI" fun _ => L3LocationAreaIdentity.parse

/-- A mobile identity behind its identifier and length. -/
def writeTLVMI (type : UInt32) (identity : L3MobileIdentity) : List Op :=
  .writeField type 8 :: .writeField (UInt32.ofNat identity.lengthV) 8 :: identity.write

/-- A location area identity behind its identifier and length. -/
def writeTLVLAI (type : UInt32) (lai : L3LocationAreaIdentity) : List Op :=
  .writeField type 8 :: .writeField (UInt32.ofNat L3LocationAreaIdentity.lengthV) 8 :: lai.write

/-! ## Messages -/

/-- A mobile takes its leave. -/
structure L3IMSIDetachIndication where
  classmark : L3MobileStationClassmark1 := {}
  mobileIdentity : L3MobileIdentity := {}
deriving DecidableEq, Repr

namespace L3IMSIDetachIndication

/-- The classmark, and the identity with its length octet. -/
def bodyLength (msg : L3IMSIDetachIndication) : Nat :=
  L3MobileStationClassmark1.lengthV + (1 + msg.mobileIdentity.lengthV)

/-- The classmark, then the identity. -/
def parse : FieldParser L3IMSIDetachIndication := do
  let classmark ← L3MobileStationClassmark1.parse
  let mobileIdentity ← readIdentity
  pure { classmark, mobileIdentity }

/-- The classmark, then the identity. -/
def write (msg : L3IMSIDetachIndication) : List Op :=
  msg.classmark.write ++ writeIdentity msg.mobileIdentity

end L3IMSIDetachIndication

/-- The service type is its code in the octet. -/
structure L3CMServiceRequest where
  cksn : UInt32 := 0
  serviceType : UInt8 := 0
  classmark : L3MobileStationClassmark2 := {}
  mobileIdentity : L3MobileIdentity := {}
  additionalIes : List UInt8 := []
deriving DecidableEq, Repr

namespace L3CMServiceRequest

/-- The first octet, two values with their length octets, and the octets kept. -/
def bodyLength (msg : L3CMServiceRequest) : Nat :=
  1 + (1 + msg.classmark.lengthV) + (1 + msg.mobileIdentity.lengthV) + msg.additionalIes.length

/-- The key sequence number and the service share the first octet. -/
def parse : FieldParser L3CMServiceRequest := do
  let octet ← readUnsigned 8
  let classmark ← L3MobileStationClassmark2.read
  let mobileIdentity ← readIdentity
  let additionalIes ← readOpaqueTail "truncated optional IEs"
  pure { cksn := (octet >>> 4) &&& 0x07, serviceType := (octet &&& 0x0F).toUInt8, classmark,
         mobileIdentity, additionalIes }

/-- The key sequence number and the service share the first octet. -/
def write (msg : L3CMServiceRequest) : List Op :=
  [.writeField (((msg.cksn &&& 0x07) <<< 4) ||| (msg.serviceType.toUInt32 &&& 0x0F)) 8] ++
    (.writeField (UInt32.ofNat msg.classmark.lengthV) 8 :: msg.classmark.write) ++
    writeIdentity msg.mobileIdentity ++ writeOctets msg.additionalIes

end L3CMServiceRequest

/-- A mobile asks for its connection again. -/
structure L3CMReestablishmentRequest where
  cksn : UInt32 := 0
  classmark : L3MobileStationClassmark2 := {}
  mobileID : L3MobileIdentity := {}
  haveLAI : Bool := false
  lai : L3LocationAreaIdentity := {}
deriving DecidableEq, Repr

namespace L3CMReestablishmentRequest

/-- The first octet, two values with their length octets, and the area when there. -/
def bodyLength (msg : L3CMReestablishmentRequest) : Nat :=
  1 + (1 + msg.classmark.lengthV) + (1 + msg.mobileID.lengthV) +
    if msg.haveLAI then 2 + L3LocationAreaIdentity.lengthV else 0

/-- The area is read only behind its identifier. -/
def parse : FieldParser L3CMReestablishmentRequest := do
  let octet ← readUnsigned 8
  let classmark ← L3MobileStationClassmark2.read
  let mobileID ← readIdentity
  let lai ← readOptional 8 (isTLVType 0x13) (parseTLVLAI 0x13)
  pure { cksn := octet &&& 0x07, classmark, mobileID, haveLAI := lai.isSome, lai := lai.getD {} }

/-- The area goes behind its identifier and length. -/
def write (msg : L3CMReestablishmentRequest) : List Op :=
  [.writeField (msg.cksn &&& 0x07) 8] ++
    (.writeField (UInt32.ofNat msg.classmark.lengthV) 8 :: msg.classmark.write) ++
    writeIdentity msg.mobileID ++ (if msg.haveLAI then writeTLVLAI 0x13 msg.lai else [])

end L3CMReestablishmentRequest

/-- The network accepts an update, perhaps with a new identity. -/
structure L3LocationUpdatingAccept where
  lai : L3LocationAreaIdentity := {}
  followOnProceed : Bool := false
  haveMobileIdentity : Bool := false
  mobileIdentity : L3MobileIdentity := {}
deriving DecidableEq, Repr

namespace L3LocationUpdatingAccept

/-- The area, and what is there of identity and flag. -/
def bodyLength (msg : L3LocationUpdatingAccept) : Nat :=
  L3LocationAreaIdentity.lengthV +
    (if msg.haveMobileIdentity then 2 + msg.mobileIdentity.lengthV else 0) +
    if msg.followOnProceed then 1 else 0

/-- Where an octet of this value is ahead, all of its bits are there. -/
def readFollowOnProceed : FieldParser Bool := do
  let peek ← peekField 8
  if peek == 0xA1 then
    let _ ← readField 8
    pure true
  else pure false

/-- The identity and the flag are read only behind their identifiers. -/
def parse : FieldParser L3LocationUpdatingAccept := do
  let lai ← L3LocationAreaIdentity.parse
  let mobileIdentity ← readOptional 8 (isTLVType 0x17) (parseTLVMI 0x17)
  let followOnProceed ← readFollowOnProceed
  pure { lai, followOnProceed, haveMobileIdentity := mobileIdentity.isSome,
         mobileIdentity := mobileIdentity.getD {} }

/-- The identity goes behind its identifier; the flag is an identifier of its own. -/
def write (msg : L3LocationUpdatingAccept) : List Op :=
  msg.lai.write ++ (if msg.haveMobileIdentity then writeTLVMI 0x17 msg.mobileIdentity else []) ++
    (if msg.followOnProceed then [.writeField 0xA1 8] else [])

end L3LocationUpdatingAccept

/-- A mobile reports its location area. -/
structure L3LocationUpdatingRequest where
  cksn : UInt32 := 0
  followOnRequest : Bool := false
  updateType : UInt32 := 0
  lai : L3LocationAreaIdentity := {}
  classmark : L3MobileStationClassmark1 := {}
  mobileIdentity : L3MobileIdentity := {}
  additionalIes : List UInt8 := []
deriving DecidableEq, Repr

namespace L3LocationUpdatingRequest

/-- The first octet, area, classmark, identity with its length, and the octets kept. -/
def bodyLength (msg : L3LocationUpdatingRequest) : Nat :=
  1 + L3LocationAreaIdentity.lengthV + L3MobileStationClassmark1.lengthV +
    (1 + msg.mobileIdentity.lengthV) + msg.additionalIes.length

/-- The first octet holds the key sequence number, the flag and the type. -/
def parse : FieldParser L3LocationUpdatingRequest := do
  let octet ← readUnsigned 8
  let lai ← L3LocationAreaIdentity.parse
  let classmark ← L3MobileStationClassmark1.parse
  let mobileIdentity ← readIdentity
  let additionalIes ← readOpaqueTail "truncated optional IEs"
  pure { cksn := (octet >>> 4) &&& 0x07, followOnRequest := (octet >>> 3) &&& 0x01 != 0,
         updateType := octet &&& 0x03, lai, classmark, mobileIdentity, additionalIes }

/-- The first octet holds the key sequence number, the flag and the type. -/
def write (msg : L3LocationUpdatingRequest) : List Op :=
  [.writeField (((msg.cksn &&& 0x07) <<< 4) ||| (if msg.followOnRequest then 0x08 else 0) |||
    (msg.updateType &&& 0x03)) 8] ++
    msg.lai.write ++ msg.classmark.write ++ writeIdentity msg.mobileIdentity ++
    writeOctets msg.additionalIes

end L3LocationUpdatingRequest

end Gsml3
