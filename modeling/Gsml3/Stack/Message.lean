import Mathlib

/-!
# Messages and external data

What the protocol procedures see of a parsed layer-3 message: its protocol
discriminator, message type and transaction identifier, and the fields of the
messages they look into.  `ExternalData` is what the application feeds into a
procedure besides messages.
-/

namespace Gsml3

namespace Stack

/-- Protocol discriminator. -/
inductive L3PD where
  | groupCallControl
  | broadcastCallControl
  | callControl
  | mobilityManagement
  | radioResource
  | gprsMobilityManagement
  | sms
  | gprsSessionManagement
  | nonCallSS
  | location
  | packetDomainSupplementaryServices1
  | packetDomainSupplementaryServices2
  | testProcedure
  | undefined
deriving DecidableEq, Repr

/-- Service type of a CM Service Request. -/
inductive CMServiceType where
  | undefinedType
  | mobileOriginatedCall
  | emergencyCall
  | shortMessage
  | supplementaryService
  | voiceCallGroup
  | voiceBroadcast
  | locationService
  | mobileTerminatedCall
  | mobileTerminatedShortMessage
  | handoverCall
  | locationUpdateRequest
deriving DecidableEq, Repr

/-- Call control cause value. -/
abbrev CCCause := UInt8

/-- The cause of a call that ends in the normal way. -/
def CCCause.normalCallClearing : CCCause := 16

/-- Mobility management reject cause value. -/
abbrev MMRejectCause := UInt8

/-- The reject cause a session has before any rejection. -/
def MMRejectCause.zero : MMRejectCause := 0

/-- The cause of an answer that does not match the challenge. -/
def MMRejectCause.macFailure : MMRejectCause := 0x14

/-! ## Message types -/

namespace MTI

def channelRequest : Int := 0x181
def pagingResponse : Int := 0x27
def assignmentComplete : Int := 0x29
def cipheringModeComplete : Int := 0x32
def handoverComplete : Int := 0x2c
def handoverFailure : Int := 0x28
def imsiDetachIndication : Int := 0x01
def authenticationResponse : Int := 0x14
def identityResponse : Int := 0x19
def cmServiceRequest : Int := 0x24
def setup : Int := 0x05
def callConfirmed : Int := 0x08
def connectAcknowledge : Int := 0x0f
def disconnect : Int := 0x25
def release : Int := 0x2d

end MTI

/-- A parsed message.  Every message kind without a constructor of its own is
an `other`: procedures see its discriminator, type and transaction identifier
only. -/
inductive ParsedMessage where
  | channelRequest (requestReference : UInt8)
  | cmServiceRequest (serviceType : CMServiceType)
  | authenticationResponse (sres : UInt32)
  | setup (ti : UInt8)
  | disconnect (ti : UInt8) (cause : CCCause)
  | other (pd : L3PD) (mti : Int) (ti : UInt8)
deriving DecidableEq, Repr

/-- The protocol discriminator of a message. -/
def messagePD : ParsedMessage → L3PD
  | .channelRequest _ => .radioResource
  | .cmServiceRequest _ => .mobilityManagement
  | .authenticationResponse _ => .mobilityManagement
  | .setup _ => .callControl
  | .disconnect _ _ => .callControl
  | .other pd _ _ => pd

/-- The message type of a message. -/
def messageMTI : ParsedMessage → Int
  | .channelRequest _ => MTI.channelRequest
  | .cmServiceRequest _ => MTI.cmServiceRequest
  | .authenticationResponse _ => MTI.authenticationResponse
  | .setup _ => MTI.setup
  | .disconnect _ _ => MTI.disconnect
  | .other _ mti _ => mti

/-- The transaction identifier; a message without one has 0. -/
def messageTI : ParsedMessage → UInt8
  | .setup ti => ti
  | .disconnect ti _ => ti
  | .other _ _ ti => ti
  | _ => 0

/-- The message has this discriminator and type. -/
def ParsedMessage.Is (msg : ParsedMessage) (pd : L3PD) (mti : Int) : Prop :=
  messagePD msg = pd ∧ messageMTI msg = mti

instance (msg : ParsedMessage) (pd : L3PD) (mti : Int) : Decidable (msg.Is pd mti) :=
  inferInstanceAs (Decidable (_ ∧ _))

/-! Typed access to a message, as by `tryGet`. -/

namespace ParsedMessage

/-- The request reference of a Channel Request. -/
def channelRequest? : ParsedMessage → Option UInt8
  | .channelRequest requestReference => some requestReference
  | _ => none

/-- The service that a CM Service Request asks for. -/
def cmServiceRequest? : ParsedMessage → Option CMServiceType
  | .cmServiceRequest serviceType => some serviceType
  | _ => none

/-- The signed response of an Authentication Response. -/
def authenticationResponse? : ParsedMessage → Option UInt32
  | .authenticationResponse sres => some sres
  | _ => none

/-- The transaction identifier of a Setup. -/
def setup? : ParsedMessage → Option UInt8
  | .setup ti => some ti
  | _ => none

/-- The transaction identifier and cause of a Disconnect. -/
def disconnect? : ParsedMessage → Option (UInt8 × CCCause)
  | .disconnect ti cause => some (ti, cause)
  | _ => none

end ParsedMessage

/-! ## Information elements -/

/-- Logical channel type. -/
inductive ChannelType where
  | schType
  | fcchType
  | bcchType
  | ccchType
  | rachType
  | sacchType
  | cbchType
  | sdcchType
  | facchType
  | tchfType
  | tchhType
  | anyTCHType
  | pdtchCS1Type
  | pdtchCS2Type
  | pdtchCS3Type
  | pdtchCS4Type
  | loopbackFullType
  | loopbackHalfType
  | anyDCCHType
  | undefinedCHType
deriving DecidableEq, Repr

/-- Type of a mobile identity. -/
inductive MobileIDType where
  | noID
  | imsi
  | imei
  | imeisv
  | tmsi
deriving DecidableEq, Repr

/-- Mobile identity.  The digits are the characters before the terminating zero
of the source's array. -/
structure L3MobileIdentity where
  type : MobileIDType := .noID
  digits : List Char := []
  tmsi : UInt32 := 0
deriving DecidableEq, Repr

namespace L3MobileIdentity

/-- The identity of a temporary subscriber number. -/
def ofTMSI (tmsi : UInt32) : L3MobileIdentity :=
  { type := .tmsi, tmsi := tmsi }

/-- Whether a character is a decimal digit. -/
def isDigit (c : Char) : Bool :=
  '0' ≤ c ∧ c ≤ '9'

/-- Only decimal digits are stored, and at most nineteen of them. -/
def ofIMSI (digits : List Char) : L3MobileIdentity :=
  { type := .imsi, digits := (digits.filter isDigit).take 19 }

end L3MobileIdentity

/-- Location area identity. -/
structure L3LocationAreaIdentity where
  mcc : Vector UInt32 3 := .replicate 3 0
  mnc : Vector UInt32 3 := .replicate 3 0
  lac : UInt16 := 0
deriving DecidableEq, Repr

/-- Channel description. -/
structure L3ChannelDescription where
  typeAndOffset : UInt8 := 0
  tn : UInt8 := 0
  tsc : UInt8 := 0
  hFlag : UInt32 := 0
  arfcn : UInt16 := 0
  maio : UInt8 := 0
  hsn : UInt8 := 0
  initialized : Bool := false
deriving DecidableEq, Repr

/-- Descriptor of an allocated channel. -/
structure ChannelDescriptor where
  type : ChannelType := .undefinedCHType
  trxNumber : UInt8 := 0
  timeslot : UInt8 := 0
  arfcn : UInt16 := 0
deriving DecidableEq, Repr

/-! ## External data -/

/-- Authentication challenge.  The expected response is big-endian. -/
structure AuthChallenge where
  rand : Vector UInt8 16
  expectedSres : Vector UInt8 4
deriving DecidableEq, Repr

/-- The expected response as the 32-bit number it is compared as. -/
def sresValue (sres : Vector UInt8 4) : UInt32 :=
  sres[0].toUInt32 <<< 24 ||| sres[1].toUInt32 <<< 16 ||| sres[2].toUInt32 <<< 8 |||
    sres[3].toUInt32

/-- Decision of the visitor location register. -/
structure VLRDecision where
  accept : Bool := false
  newTmsi : Option UInt32 := none
  rejectCause : MMRejectCause := .zero
deriving DecidableEq, Repr

/-- The data that starts a paging procedure. -/
structure PagingTrigger where
  identity : L3MobileIdentity
  targetChannel : ChannelType := .sdcchType
deriving DecidableEq, Repr

/-- The data that starts a ciphering mode procedure. -/
structure CipheringParameters where
  algorithmSelector : UInt8 := 0
  enableCiphering : Bool := true
deriving DecidableEq, Repr

/-- Handover target; the target cell is not used by any procedure. -/
structure HandoverTarget where
  channel : L3ChannelDescription
deriving DecidableEq, Repr

/-- Data the application feeds into a procedure. -/
inductive ExternalData where
  | authChallenge (challenge : AuthChallenge)
  | vlrDecision (decision : VLRDecision)
  | pagingTrigger (trigger : PagingTrigger)
  | cipheringParameters (params : CipheringParameters)
  | handoverTarget (target : HandoverTarget)
deriving DecidableEq, Repr

end Stack

end Gsml3
