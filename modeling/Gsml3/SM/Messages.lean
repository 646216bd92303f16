import Gsml3.Core.L3Header
import Gsml3.Core.OctetParsing
import Gsml3.Parser

/-!
# Session management messages

A leading part of half octets, quality of service and address, in front of optional elements in
any order: some in one octet, the others behind their identifier and length.  An element that a
message does not know, that was there before, or that its own parser refuses is kept as octets.
-/

namespace Gsml3

open BitWriter (Op)
open FieldParser

/-! ## Elements -/

/-- The two address families that a PDP address may be of. -/
inductive PdpTypeNumber where
  | ipv4
  | ipv6
deriving DecidableEq, Repr

namespace PdpTypeNumber

/-- The octet of a PDP type number. -/
def code : PdpTypeNumber → UInt8
  | ipv4 => 0x21
  | ipv6 => 0x53

/-- The PDP type number of an octet, `none` for an octet of neither family. -/
def ofCode? (code : UInt8) : Option PdpTypeNumber :=
  if code = 0x21 then some ipv4
  else if code = 0x53 then some ipv6
  else none

/-- The octets that an address of the family takes. -/
def addressOctets : PdpTypeNumber → Nat
  | ipv4 => 4
  | ipv6 => 16

end PdpTypeNumber

/-- A PDP address; only a static address has octets in the value. -/
structure L3PDPAddress where
  typeOrg : UInt8 := 0x01
  typeNumber : PdpTypeNumber := .ipv4
  staticAddress : Bool := false
  address : Vector UInt8 16 := .replicate 16 0
deriving DecidableEq, Repr

namespace L3PDPAddress

/-- The octets of the address itself. -/
def addressSize (addr : L3PDPAddress) : Nat :=
  if addr.staticAddress then addr.typeNumber.addressOctets else 0

/-- The two type octets and the address. -/
def lengthV (addr : L3PDPAddress) : Nat :=
  2 + addr.addressSize

/-- A refused address has moved behind the octets that were looked at. -/
def parse (lengthBytes : Nat) : StoppingParser L3PDPAddress := do
  if lengthBytes < 2 then .refuse .truncatedInput "PDP address too short"
  else
    let firstOctet ← .read readOctet
    if firstOctet &&& 0xF0 ≠ 0 then .refuse .invalidValue "PDP type organization"
    else
      let typeNumber ← .read readOctet
      match PdpTypeNumber.ofCode? typeNumber with
      | none => .refuse .invalidValue "PDP type number"
      | some typeNumber =>
          if lengthBytes = 2 then pure { typeOrg := firstOctet &&& 0x0F, typeNumber }
          else if lengthBytes = 2 + typeNumber.addressOctets then
            let octets ← .read (readBytes typeNumber.addressOctets)
            pure {
              typeOrg := firstOctet &&& 0x0F
              typeNumber
              staticAddress := true
              address := .ofFn fun i => octets.getD i 0 }
          else .refuse .invalidValue "PDP address length"

/-- The type octets, then as many octets of the address as the family has. -/
def write (addr : L3PDPAddress) : List Op :=
  [.writeField (addr.typeOrg &&& 0x0F).toUInt32 8, .writeField addr.typeNumber.code.toUInt32 8] ++
    if addr.staticAddress then [.writeBytes (addr.address.toList.take addr.addressSize)] else []

end L3PDPAddress

/-- Octets, if there are any. -/
def writeFilled (octets : List UInt8) : List Op :=
  if octets.isEmpty then [] else [.writeBytes octets]

/-- The quality of service: three coded octets, and the octets behind them. -/
structure L3QoS where
  delayClass : UInt8 := 0
  reliabilityClass : UInt8 := 0
  precedenceClass : UInt8 := 0
  peakThroughput : UInt8 := 0
  meanThroughput : UInt8 := 0
  additionalCharacteristics : List UInt8 := []
deriving DecidableEq, Repr

namespace L3QoS

/-- The three coded octets and those behind them. -/
def lengthV (qos : L3QoS) : Nat :=
  3 + qos.additionalCharacteristics.length

/-- A value under three octets or with reserved bits set is refused. -/
def parse (lengthBytes : Nat) : FieldParser L3QoS := do
  if lengthBytes < 3 then refuse .truncatedInput "QoS too short"
  else
    let octet1 ← readOctet
    if octet1 &&& 0xC0 ≠ 0 then refuse .invalidValue "QoS reserved bits"
    else
      let octet2 ← readOctet
      if octet2 &&& 0x08 ≠ 0 then refuse .invalidValue "QoS reserved bits"
      else
        let octet3 ← readOctet
        if octet3 &&& 0xE0 ≠ 0 then refuse .invalidValue "QoS reserved bits"
        else
          let additionalCharacteristics ← readBytes (lengthBytes - 3)
          pure {
            delayClass := (octet1 >>> 3) &&& 0x07
            reliabilityClass := octet1 &&& 0x07
            peakThroughput := (octet2 >>> 4) &&& 0x0F
            precedenceClass := octet2 &&& 0x07
            meanThroughput := octet3 &&& 0x1F
            additionalCharacteristics }

/-- Each class is masked to its width before it is packed. -/
def write (qos : L3QoS) : List Op :=
  [.writeField (((qos.delayClass &&& 0x07).toUInt32 <<< 3) |||
      (qos.reliabilityClass &&& 0x07).toUInt32) 8,
    .writeField (((qos.peakThroughput &&& 0x0F).toUInt32 <<< 4) |||
      (qos.precedenceClass &&& 0x07).toUInt32) 8,
    .writeField (qos.meanThroughput &&& 0x1F).toUInt32 8] ++
    writeFilled qos.additionalCharacteristics

end L3QoS

/-- `L3TearDownIndicator::parse`. -/
def parseTearDownIndicator : FieldParser Bool := do
  let octet ← readOctet
  if octet &&& 0xF0 ≠ 0x90 then refuse .invalidIE "tear-down indicator identifier"
  else pure (octet &&& 0x01 ≠ 0)

/-! ## Optional elements -/

/-- The optional elements that session management messages share; unknown elements are kept as
octets in `additionalIes`. -/
structure SMOptions where
  pdpAddress : Option L3PDPAddress := none
  apn : Option (List UInt8) := none
  tearDownIndicator : Option Bool := none
  pco : Option (List UInt8) := none
  requestType : Option UInt8 := none
  additionalIes : List UInt8 := []
deriving DecidableEq, Repr

/-- The optional elements that a message knows beside the protocol configuration options. -/
structure KnownElements where
  pdpAddress : Bool := false
  apn : Bool := false
  tearDownIndicator : Bool := false
  requestType : Bool := false
deriving DecidableEq, Repr

/-- `kPdpAddressTlvIEI`. -/
def pdpAddressIEI : UInt8 := 0x2B

/-- `L3AccessPointName::IEI`. -/
def apnIEI : UInt8 := 0x28

/-- `L3ProtocolConfigOptions::IEI`. -/
def pcoIEI : UInt8 := 0x27

/-- The identifier without its extension bit, and the length. -/
def readTLVHeader : FieldParser (UInt8 × UInt8) := do
  let rawType ← readOctet
  let len ← readOctet
  pure (rawType &&& 0x7F, len)

namespace SMOptions

/-- Adds the octets of an element that the message does not know. -/
def keep (options : SMOptions) (octets : List UInt8) : SMOptions :=
  { options with additionalIes := options.additionalIes ++ octets }

/-- The value octets are read one by one. -/
def appendTlvToTail (options : SMOptions) (iei len : UInt8) : FieldParser SMOptions := do
  let value ← readOctets len.toNat
  pure (options.keep (iei :: len :: value))

/-- An element that is known and was not there before, if its parser does not refuse it. -/
def readTyped (known : KnownElements) (options : SMOptions) (iei len : UInt8) :
    FieldParser (Option SMOptions) :=
  if iei = pdpAddressIEI ∧ known.pdpAddress ∧ options.pdpAddress = none then do
    let addr ← (L3PDPAddress.parse len.toNat).attempt
    pure (addr.map fun addr => { options with pdpAddress := some addr })
  else if iei = apnIEI ∧ known.apn ∧ options.apn = none then do
    let apn ← (StoppingParser.read (readBytes len.toNat)).attempt
    pure (apn.map fun apn => { options with apn := some apn })
  else if iei = pcoIEI ∧ options.pco = none then do
    let pco ← (StoppingParser.read (readBytes len.toNat)).attempt
    pure (pco.map fun pco => { options with pco := some pco })
  else pure none

/-- An element in one octet; a second request type is kept as an octet. -/
def readSingle (known : KnownElements) (options : SMOptions) (peeked : Nat) :
    Option (FieldParser SMOptions) :=
  if known.requestType ∧ peeked &&& 0xF0 = 0xA0 then some do
    let octet ← readOctet
    pure (if options.requestType = none then { options with requestType := some (octet &&& 0x0F) }
      else options.keep [octet])
  else if known.tearDownIndicator ∧ peeked &&& 0xF0 = 0x90 then some do
    let flag ← parseTearDownIndicator
    pure { options with tearDownIndicator := some flag }
  else none

/-- An element that is not typed is kept as octets. -/
def readTLV (known : KnownElements) (options : SMOptions) : FieldParser SMOptions := do
  let (iei, len) ← readTLVHeader
  match ← readTyped known options iei len with
  | some typed => pure typed
  | none => appendTlvToTail options iei len

/-- A round of the loop; an octet that is left alone ends it. -/
def readElement (known : KnownElements) (options : SMOptions) :
    FieldParser (Option SMOptions) := do
  let bits ← remainingBits
  if bits < 8 then pure none
  else
    let peeked ← peekField 8
    match readSingle known options peeked with
    | some single => some <$> single
    | none =>
        if bits < 16 then pure none else some <$> readTLV known options

/-- The loop over the elements, if there is one, and what is left. -/
def read (known : Option KnownElements) (truncated : String) : FieldParser SMOptions := do
  let options ← match known with
    | none => pure {}
    | some known => do
        let bits ← remainingBits
        whileSome (readElement known) bits {}
  let tail ← readOpaqueTail truncated
  pure (options.keep tail)

/-- An element behind its identifier and length. -/
def writeTLV (iei : UInt8) (length : Nat) (value : List Op) : List Op :=
  [.writeField iei.toUInt32 8, .writeField (UInt32.ofNat length) 8] ++ value

/-- The known elements in the order of the fields, then the kept octets. -/
def write (options : SMOptions) : List Op :=
  writePresent (fun addr => writeTLV pdpAddressIEI addr.lengthV addr.write) options.pdpAddress ++
    writePresent (fun apn => writeTLV apnIEI apn.length (writeFilled apn)) options.apn ++
    writePresent (fun flag => [.writeField (0x90 ||| if flag then 1 else 0) 8])
      options.tearDownIndicator ++
    writePresent (fun pco => writeTLV pcoIEI pco.length (writeFilled pco)) options.pco ++
    writePresent (fun type => [.writeField (0xA0 ||| (type &&& 0x0F).toUInt32) 8])
      options.requestType ++
    writeOctets options.additionalIes

/-- The length that `bodyLength` counts for the optional elements. -/
def length (options : SMOptions) : Nat :=
  options.pdpAddress.elim 0 (2 + ·.lengthV) + options.apn.elim 0 (2 + ·.length) +
    options.tearDownIndicator.elim 0 (fun _ => 1) + options.pco.elim 0 (2 + ·.length) +
    options.requestType.elim 0 (fun _ => 1) + options.additionalIes.length

end SMOptions

/-! ## Leading parts -/

/-- A value in the low half of an octet. -/
def readLowNibble (what : String) : FieldParser UInt8 := do
  let octet ← readOctet
  if octet &&& 0xF0 ≠ 0 then refuse .invalidValue what else pure (octet &&& 0x0F)

/-- A value in the low half of an octet; the high half is 0. -/
def writeLowNibble (value : UInt8) : List Op :=
  [.writeField (value &&& 0x0F).toUInt32 8]

/-- A quality of service behind its length octet. -/
def readQoS : FieldParser L3QoS := do
  let length ← readOctet
  L3QoS.parse length.toNat

/-- The quality of service behind the length octet it announces. -/
def writeQoS (qos : L3QoS) : List Op :=
  .writeField (UInt32.ofNat qos.lengthV) 8 :: qos.write

/-- A PDP address behind its length octet; an address that is refused fails the message. -/
def readPDPAddress : FieldParser L3PDPAddress := do
  let length ← readOctet
  (L3PDPAddress.parse length.toNat).required

/-- The PDP address behind the length octet it announces. -/
def writePDPAddress (addr : L3PDPAddress) : List Op :=
  .writeField (UInt32.ofNat addr.lengthV) 8 :: addr.write

/-- The mandatory part of an activation request. -/
structure ActivateRequestPart where
  nSapi : UInt8 := 0
  lLcSapi : UInt8 := 0
  qos : L3QoS := {}
  pdpAddress : L3PDPAddress := {}
deriving DecidableEq, Repr

namespace ActivateRequestPart

/-- The four elements in the order of the message. -/
def parse : FieldParser ActivateRequestPart := do
  let nSapi ← readLowNibble "requested NSAPI"
  let lLcSapi ← readLowNibble "requested LLC SAPI"
  let qos ← readQoS
  let pdpAddress ← readPDPAddress
  pure { nSapi, lLcSapi, qos, pdpAddress }

/-- The four elements in the order they are read. -/
def write (part : ActivateRequestPart) : List Op :=
  writeLowNibble part.nSapi ++ writeLowNibble part.lLcSapi ++ writeQoS part.qos ++
    writePDPAddress part.pdpAddress

/-- Two half octet values and two values with their length octets. -/
def length (part : ActivateRequestPart) : Nat :=
  2 + (1 + part.qos.lengthV) + (1 + part.pdpAddress.lengthV)

end ActivateRequestPart

/-- The mandatory part of an activation accept. -/
structure ActivateAcceptPart where
  lLcSapi : UInt8 := 0
  qos : L3QoS := {}
  radioPriority : UInt8 := 0
deriving DecidableEq, Repr

namespace ActivateAcceptPart

/-- The three elements in the order of the message. -/
def parse : FieldParser ActivateAcceptPart := do
  let lLcSapi ← readLowNibble "negotiated LLC SAPI"
  let qos ← readQoS
  let radioPriority ← readLowNibble "radio priority for SMS"
  pure { lLcSapi, qos, radioPriority }

/-- The three elements in the order they are read. -/
def write (part : ActivateAcceptPart) : List Op :=
  writeLowNibble part.lLcSapi ++ writeQoS part.qos ++ writeLowNibble part.radioPriority

/-- Two half octet values and the quality of service. -/
def length (part : ActivateAcceptPart) : Nat :=
  1 + (1 + part.qos.lengthV) + 1

end ActivateAcceptPart

/-- A context and its quality of service. -/
structure ContextPart where
  pdpHandle : UInt8 := 0
  qos : L3QoS := {}
deriving DecidableEq, Repr

namespace ContextPart

/-- The handle, then the quality of service. -/
def parse : FieldParser ContextPart := do
  let pdpHandle ← readLowNibble "PDP handle"
  let qos ← readQoS
  pure { pdpHandle, qos }

/-- The handle, then the quality of service. -/
def write (part : ContextPart) : List Op :=
  writeLowNibble part.pdpHandle ++ writeQoS part.qos

/-- One octet of handle and the quality of service. -/
def length (part : ContextPart) : Nat :=
  1 + (1 + part.qos.lengthV)

end ContextPart

/-- The mandatory part of a message that names a context and its address. -/
structure AddressedContextPart where
  pdpHandle : UInt8 := 0
  qos : L3QoS := {}
  pdpAddress : L3PDPAddress := {}
deriving DecidableEq, Repr

namespace AddressedContextPart

/-- The handle, the quality of service and the address. -/
def parse : FieldParser AddressedContextPart := do
  let pdpHandle ← readLowNibble "PDP handle"
  let qos ← readQoS
  let pdpAddress ← readPDPAddress
  pure { pdpHandle, qos, pdpAddress }

/-- The handle, the quality of service and the address. -/
def write (part : AddressedContextPart) : List Op :=
  writeLowNibble part.pdpHandle ++ writeQoS part.qos ++ writePDPAddress part.pdpAddress

/-- One octet of handle and two values with their length octets. -/
def length (part : AddressedContextPart) : Nat :=
  1 + (1 + part.qos.lengthV) + (1 + part.pdpAddress.lengthV)

end AddressedContextPart

/-! ## Messages -/

/-- A leading part and the optional elements. -/
structure SMMessage (Part : Type) where
  part : Part
  options : SMOptions := {}
deriving DecidableEq, Repr

/-- How a message is read and written; without a loop over elements, what is behind the leading
part is kept as octets. -/
structure SMFormat (Part : Type) where
  mti : Nat
  parsePart : FieldParser Part
  writePart : Part → List Op
  partLength : Part → Nat
  known : Option KnownElements
  truncated : String

namespace SMFormat

variable {Part : Type}

/-- The mandatory part, then the optional elements that the format knows. -/
def parse (format : SMFormat Part) : FieldParser (SMMessage Part) := do
  let part ← format.parsePart
  let options ← SMOptions.read format.known format.truncated
  pure { part, options }

/-- The mandatory part, then the optional elements. -/
def write (format : SMFormat Part) (msg : SMMessage Part) : List Op :=
  format.writePart msg.part ++ msg.options.write

/-- The octets that a body is announced to have. -/
def bodyLength (format : SMFormat Part) (msg : SMMessage Part) : Nat :=
  format.partLength msg.part + msg.options.length

/-- `L3PD::GPRSSessionManagement`. -/
def pd : Nat := 0x0A

/-- The message as `writeL3Body` writes it. -/
def encoding (format : SMFormat Part) (msg : SMMessage Part) : L3Encoding where
  pd := pd
  mti := format.mti
  bodyLength := format.bodyLength msg
  fields := format.write msg

/-- The cause is its value octet, in front of octets that are kept. -/
def cause (mti : Nat) (known : Option KnownElements) (truncated : String) : SMFormat UInt8 where
  mti := mti
  parsePart := readOctet
  writePart cause := [.writeField cause.toUInt32 8]
  partLength _ := 1
  known := known
  truncated := truncated

/-- A message of a handle and a quality of service. -/
def context (mti : Nat) (known : KnownElements) (truncated : String) :
    SMFormat ContextPart where
  mti := mti
  parsePart := ContextPart.parse
  writePart := ContextPart.write
  partLength := ContextPart.length
  known := some known
  truncated := truncated

/-- A message of a handle, a quality of service and an address. -/
def addressedContext (mti : Nat) (truncated : String) : SMFormat AddressedContextPart where
  mti := mti
  parsePart := AddressedContextPart.parse
  writePart := AddressedContextPart.write
  partLength := AddressedContextPart.length
  known := some { apn := true }
  truncated := truncated

/-- A message whose mandatory part is a quality of service. -/
def service (mti : Nat) (truncated : String) : SMFormat L3QoS where
  mti := mti
  parsePart := readQoS
  writePart := writeQoS
  partLength qos := 1 + qos.lengthV
  known := some {}
  truncated := truncated

end SMFormat

/-- Activate PDP Context Request. -/
def L3ActivatePDPContextRequest : SMFormat ActivateRequestPart where
  mti := 0x41
  parsePart := ActivateRequestPart.parse
  writePart := ActivateRequestPart.write
  partLength := ActivateRequestPart.length
  known := some { apn := true, requestType := true }
  truncated := "activate PDP context request: truncated optional IEs"

/-- Activate PDP Context Accept. -/
def L3ActivatePDPContextAccept : SMFormat ActivateAcceptPart where
  mti := 0x42
  parsePart := ActivateAcceptPart.parse
  writePart := ActivateAcceptPart.write
  partLength := ActivateAcceptPart.length
  known := some { pdpAddress := true }
  truncated := "activate PDP context accept: truncated optional IEs"

/-- Activate PDP Context Reject. -/
def L3ActivatePDPContextReject : SMFormat UInt8 :=
  .cause 0x43 none "activate PDP context reject: truncated optional IEs"

/-- Request PDP Context Activation. -/
def L3RequestPDPContextActivation : SMFormat AddressedContextPart :=
  .addressedContext 0x44 "request PDP context activation: truncated optional IEs"

/-- Request PDP Context Activation Reject. -/
def L3RequestPDPContextActivationReject : SMFormat UInt8 :=
  .cause 0x45 none "request PDP context activation reject: truncated optional IEs"

/-- Deactivate PDP Context Request, the one message with a tear down indicator. -/
def L3DeactivatePDPContextRequest : SMFormat UInt8 :=
  .cause 0x46 (some { tearDownIndicator := true })
    "deactivate PDP context request: truncated optional IEs"

/-- Deactivate PDP Context Accept, which has no mandatory part. -/
def L3DeactivatePDPContextAccept : SMFormat Unit where
  mti := 0x47
  parsePart := pure ()
  writePart _ := []
  partLength _ := 0
  known := none
  truncated := "deactivate PDP context accept: truncated optional IEs"

/-- Modify PDP Context Request, from the network. -/
def L3ModifyPDPContextRequest : SMFormat ContextPart :=
  .context 0x48 {} "modify PDP context request: truncated optional IEs"

/-- Modify PDP Context Accept, to the network. -/
def L3ModifyPDPContextAccept : SMFormat ContextPart :=
  .context 0x49 {} "modify PDP context accept: truncated optional IEs"

/-- Modify PDP Context Request, from the mobile. -/
def L3ModifyPDPContextRequestMS : SMFormat ContextPart :=
  .context 0x4A {} "modify PDP context request (MS): truncated optional IEs"

/-- Modify PDP Context Accept, from the network. -/
def L3ModifyPDPContextAcceptNet : SMFormat ContextPart :=
  .context 0x4B {} "modify PDP context accept (SGSN): truncated optional IEs"

/-- Modify PDP Context Reject. -/
def L3ModifyPDPContextReject : SMFormat UInt8 :=
  .cause 0x4C none "modify PDP context reject: truncated optional IEs"

/-- Activate Secondary PDP Context Request. -/
def L3ActivateSecondaryPDPContextRequest : SMFormat AddressedContextPart :=
  .addressedContext 0x4D "activate secondary PDP context request: truncated optional IEs"

/-- Activate Secondary PDP Context Accept. -/
def L3ActivateSecondaryPDPContextAccept : SMFormat ContextPart :=
  .context 0x4E { pdpAddress := true }
    "activate secondary PDP context accept: truncated optional IEs"

/-- Activate Secondary PDP Context Reject. -/
def L3ActivateSecondaryPDPContextReject : SMFormat UInt8 :=
  .cause 0x4F none "activate secondary PDP context reject: truncated optional IEs"

/-- SM Status. -/
def L3SMStatus : SMFormat UInt8 :=
  .cause 0x55 none "SM status: truncated optional IEs"

/-- Activate MBMS Context Request. -/
def L3ActivateMBMSContextRequest : SMFormat L3QoS :=
  .service 0x56 "activate MBMS context request: truncated optional IEs"

/-- Activate MBMS Context Accept. -/
def L3ActivateMBMSContextAccept : SMFormat ContextPart :=
  .context 0x57 {} "activate MBMS context accept: truncated optional IEs"

/-- Activate MBMS Context Reject. -/
def L3ActivateMBMSContextReject : SMFormat UInt8 :=
  .cause 0x58 none "activate MBMS context reject: truncated optional IEs"

/-- Request MBMS Context Activation. -/
def L3RequestMBMSContextActivation : SMFormat L3QoS :=
  .service 0x59 "request MBMS context activation: truncated optional IEs"

/-- Request MBMS Context Activation Reject. -/
def L3RequestMBMSContextActivationReject : SMFormat UInt8 :=
  .cause 0x5A none "request MBMS context activation reject: truncated optional IEs"

/-- Request Secondary PDP Context Activation. -/
def L3RequestSecondaryPDPContextActivation : SMFormat AddressedContextPart :=
  .addressedContext 0x5B "request secondary PDP context activation: truncated optional IEs"

/-- Request Secondary PDP Context Activation Reject. -/
def L3RequestSecondaryPDPContextActivationReject : SMFormat UInt8 :=
  .cause 0x5C none "request secondary PDP context activation reject: truncated optional IEs"

/-- SM Notification, whose mandatory part is the handle. -/
def L3SMNotification : SMFormat UInt8 where
  mti := 0x5D
  parsePart := readLowNibble "PDP handle"
  writePart := writeLowNibble
  partLength _ := 1
  known := none
  truncated := "SM notification: truncated optional IEs"

/-- A message of the discriminator. -/
inductive SM where
  | activatePDPContextRequest (msg : SMMessage ActivateRequestPart)
  | activatePDPContextAccept (msg : SMMessage ActivateAcceptPart)
  | activatePDPContextReject (msg : SMMessage UInt8)
  | requestPDPContextActivation (msg : SMMessage AddressedContextPart)
  | requestPDPContextActivationReject (msg : SMMessage UInt8)
  | deactivatePDPContextRequest (msg : SMMessage UInt8)
  | deactivatePDPContextAccept (msg : SMMessage Unit)
  | modifyPDPContextRequest (msg : SMMessage ContextPart)
  | modifyPDPContextAccept (msg : SMMessage ContextPart)
  | modifyPDPContextRequestMS (msg : SMMessage ContextPart)
  | modifyPDPContextAcceptNet (msg : SMMessage ContextPart)
  | modifyPDPContextReject (msg : SMMessage UInt8)
  | activateSecondaryPDPContextRequest (msg : SMMessage AddressedContextPart)
  | activateSecondaryPDPContextAccept (msg : SMMessage ContextPart)
  | activateSecondaryPDPContextReject (msg : SMMessage UInt8)
  | smStatus (msg : SMMessage UInt8)
  | activateMBMSContextRequest (msg : SMMessage L3QoS)
  | activateMBMSContextAccept (msg : SMMessage ContextPart)
  | activateMBMSContextReject (msg : SMMessage UInt8)
  | requestMBMSContextActivation (msg : SMMessage L3QoS)
  | requestMBMSContextActivationReject (msg : SMMessage UInt8)
  | requestSecondaryPDPContextActivation (msg : SMMessage AddressedContextPart)
  | requestSecondaryPDPContextActivationReject (msg : SMMessage UInt8)
  | smNotification (msg : SMMessage UInt8)
deriving DecidableEq, Repr

namespace SM

/-- A message under the encoding of its own format. -/
def encoding : SM → L3Encoding
  | activatePDPContextRequest msg => L3ActivatePDPContextRequest.encoding msg
  | activatePDPContextAccept msg => L3ActivatePDPContextAccept.encoding msg
  | activatePDPContextReject msg => L3ActivatePDPContextReject.encoding msg
  | requestPDPContextActivation msg => L3RequestPDPContextActivation.encoding msg
  | requestPDPContextActivationReject msg => L3RequestPDPContextActivationReject.encoding msg
  | deactivatePDPContextRequest msg => L3DeactivatePDPContextRequest.encoding msg
  | deactivatePDPContextAccept msg => L3DeactivatePDPContextAccept.encoding msg
  | modifyPDPContextRequest msg => L3ModifyPDPContextRequest.encoding msg
  | modifyPDPContextAccept msg => L3ModifyPDPContextAccept.encoding msg
  | modifyPDPContextRequestMS msg => L3ModifyPDPContextRequestMS.encoding msg
  | modifyPDPContextAcceptNet msg => L3ModifyPDPContextAcceptNet.encoding msg
  | modifyPDPContextReject msg => L3ModifyPDPContextReject.encoding msg
  | activateSecondaryPDPContextRequest msg => L3ActivateSecondaryPDPContextRequest.encoding msg
  | activateSecondaryPDPContextAccept msg => L3ActivateSecondaryPDPContextAccept.encoding msg
  | activateSecondaryPDPContextReject msg => L3ActivateSecondaryPDPContextReject.encoding msg
  | smStatus msg => L3SMStatus.encoding msg
  | activateMBMSContextRequest msg => L3ActivateMBMSContextRequest.encoding msg
  | activateMBMSContextAccept msg => L3ActivateMBMSContextAccept.encoding msg
  | activateMBMSContextReject msg => L3ActivateMBMSContextReject.encoding msg
  | requestMBMSContextActivation msg => L3RequestMBMSContextActivation.encoding msg
  | requestMBMSContextActivationReject msg => L3RequestMBMSContextActivationReject.encoding msg
  | requestSecondaryPDPContextActivation msg =>
      L3RequestSecondaryPDPContextActivation.encoding msg
  | requestSecondaryPDPContextActivationReject msg =>
      L3RequestSecondaryPDPContextActivationReject.encoding msg
  | smNotification msg => L3SMNotification.encoding msg

/-- `kSMParseTable`. -/
def parseBody : Nat → Option (FieldParser SM)
  | 0x41 => some (activatePDPContextRequest <$> L3ActivatePDPContextRequest.parse)
  | 0x42 => some (activatePDPContextAccept <$> L3ActivatePDPContextAccept.parse)
  | 0x43 => some (activatePDPContextReject <$> L3ActivatePDPContextReject.parse)
  | 0x44 => some (requestPDPContextActivation <$> L3RequestPDPContextActivation.parse)
  | 0x45 => some (requestPDPContextActivationReject <$> L3RequestPDPContextActivationReject.parse)
  | 0x46 => some (deactivatePDPContextRequest <$> L3DeactivatePDPContextRequest.parse)
  | 0x47 => some (deactivatePDPContextAccept <$> L3DeactivatePDPContextAccept.parse)
  | 0x48 => some (modifyPDPContextRequest <$> L3ModifyPDPContextRequest.parse)
  | 0x49 => some (modifyPDPContextAccept <$> L3ModifyPDPContextAccept.parse)
  | 0x4A => some (modifyPDPContextRequestMS <$> L3ModifyPDPContextRequestMS.parse)
  | 0x4B => some (modifyPDPContextAcceptNet <$> L3ModifyPDPContextAcceptNet.parse)
  | 0x4C => some (modifyPDPContextReject <$> L3ModifyPDPContextReject.parse)
  | 0x4D => some (activateSecondaryPDPContextRequest <$> L3ActivateSecondaryPDPContextRequest.parse)
  | 0x4E => some (activateSecondaryPDPContextAccept <$> L3ActivateSecondaryPDPContextAccept.parse)
  | 0x4F => some (activateSecondaryPDPContextReject <$> L3ActivateSecondaryPDPContextReject.parse)
  | 0x55 => some (smStatus <$> L3SMStatus.parse)
  | 0x56 => some (activateMBMSContextRequest <$> L3ActivateMBMSContextRequest.parse)
  | 0x57 => some (activateMBMSContextAccept <$> L3ActivateMBMSContextAccept.parse)
  | 0x58 => some (activateMBMSContextReject <$> L3ActivateMBMSContextReject.parse)
  | 0x59 => some (requestMBMSContextActivation <$> L3RequestMBMSContextActivation.parse)
  | 0x5A => some (requestMBMSContextActivationReject <$> L3RequestMBMSContextActivationReject.parse)
  | 0x5B =>
      some (requestSecondaryPDPContextActivation <$> L3RequestSecondaryPDPContextActivation.parse)
  | 0x5C => some (requestSecondaryPDPContextActivationReject <$>
      L3RequestSecondaryPDPContextActivationReject.parse)
  | 0x5D => some (smNotification <$> L3SMNotification.parse)
  | _ => none

/-- The messages of the discriminator, and all others outside the fixed-length table. -/
def others {M : Type} (rest : L3Header → FieldParser M) (hdr : L3Header) : FieldParser (SM ⊕ M) :=
  if hdr.pd = SMFormat.pd then
    match parseBody hdr.mti with
    | some parser => .inl <$> parser
    | none => throw { code := .invalidMTI, message := "Unknown SM MTI", bitPosition := hdr.mti }
  else .inr <$> rest hdr

end SM

end Gsml3
