import Gsml3.Core.L3Header
import Gsml3.CC.Elements

/-!
# Messages of the fixed-length table

The fifteen messages whose length the framers take from a table: most have a cause or nothing
behind the header.
-/

namespace Gsml3

open FieldParser
open BitWriter (Op)

/-! ## A cause -/

/-- A message whose body is one octet with a cause. -/
structure CauseMessage where
  cause : UInt8
deriving DecidableEq, Repr

/-- The octet of the cause. -/
def CauseMessage.parse : FieldParser CauseMessage := do
  let cause ← readOctet
  pure { cause := cause }

/-- The octet of the cause. -/
def CauseMessage.write (msg : CauseMessage) : List Op :=
  [.writeField msg.cause.toUInt32 8]

/-- RR Status. -/
abbrev L3RRStatus := CauseMessage

/-- Assignment Complete. -/
abbrev L3AssignmentComplete := CauseMessage

/-- Assignment Failure. -/
abbrev L3AssignmentFailure := CauseMessage

/-- CM Service Reject. -/
abbrev L3CMServiceReject := CauseMessage

/-- MM Status. -/
abbrev L3MMStatus := CauseMessage

/-- The cause of a transaction. -/
structure L3CCNotify extends CauseMessage where
  ti : Nat := 7
deriving DecidableEq, Repr

/-! ## Ciphering mode -/

/-- The command to cipher, or not to. -/
structure L3CipheringModeCommand where
  ciphering : Bool := false
  algorithm : Nat := 0
  includeIMEISV : Bool := false
deriving DecidableEq, Repr

/-- The algorithm is one more than its identifier. -/
def L3CipheringModeCommand.parse : FieldParser L3CipheringModeCommand := do
  let _ ← readField 3
  let imeisv ← readField 1
  let identifier ← readField 3
  let ciphering ← readField 1
  pure
    { includeIMEISV := imeisv ≠ 0
      ciphering := ciphering ≠ 0
      algorithm := if ciphering ≠ 0 then identifier + 1 else 0 }

/-- Without ciphering the identifier is 0. -/
def L3CipheringModeCommand.write (msg : L3CipheringModeCommand) : List Op :=
  [.writeField 0 3, .writeField (if msg.includeIMEISV then 1 else 0) 1,
    .writeField (if msg.ciphering then (UInt32.ofNat msg.algorithm - 1) &&& 0x07 else 0) 3,
    .writeField (if msg.ciphering then 1 else 0) 1]

/-! ## Status of a call -/

/-- CC Status: a cause and the state of the call. -/
structure L3CCStatus where
  ti : Nat := 7
  cause : Nat := 16
  callState : Nat := 0
deriving DecidableEq, Repr

/-- The state behind the two bits of the coding standard. -/
def L3CallState.parse : FieldParser Nat := do
  let _ ← readField 2
  readField 6

/-- The error of a cause that is announced too short. -/
def causeTooShort (bitPosition : Nat) : ParseError where
  code := .truncatedInput
  message := "CC Status cause length too short"
  bitPosition := bitPosition

/-- `L3CauseElement::lengthV()`. -/
def L3CauseElement.lengthV : Nat := 2

/-- The octets of the cause beyond the two that are read are skipped. -/
def L3CCStatus.parse : FieldParser L3CCStatus := do
  let causeLen ← readLength
  if causeLen < L3CauseElement.lengthV then
    throw (causeTooShort (← position))
  else
    let cause ← L3CauseElement.parse
    skipBytes (causeLen - L3CauseElement.lengthV)
    let callState ← L3CallState.parse
    pure { cause := cause.cause, callState := callState }

/-- The two octets, with the coding standard of GSM. -/
def L3CauseElement.write (element : L3CauseElement) : List Op :=
  [.writeField 0 1, .writeField 0x3 2, .writeField 0 1,
    .writeField (UInt32.ofNat element.location) 4, .writeField 1 1,
    .writeField (UInt32.ofNat element.cause) 7]

/-- The state behind the coding standard of GSM. -/
def L3CallState.write (callState : Nat) : List Op :=
  [.writeField 3 2, .writeField (UInt32.ofNat callState) 6]

/-- The cause behind its length octet, then the state; the location is always 1. -/
def L3CCStatus.write (msg : L3CCStatus) : List Op :=
  .writeField (UInt32.ofNat L3CauseElement.lengthV) 8 ::
    (L3CauseElement.write { location := 1, cause := msg.cause } ++ L3CallState.write msg.callState)

/-! ## The messages -/

/-- The messages whose body has a fixed length. -/
inductive FixedMessage where
  | rrStatus (msg : L3RRStatus)
  | classmarkEnquiry
  | assignmentComplete (msg : L3AssignmentComplete)
  | assignmentFailure (msg : L3AssignmentFailure)
  | cipheringModeCommand (msg : L3CipheringModeCommand)
  | cmServiceAccept
  | cmServiceReject (msg : L3CMServiceReject)
  | cmServiceAbort
  | mmAbort
  | mmStatus (msg : L3MMStatus)
  | ccStatus (msg : L3CCStatus)
  | ccNotify (msg : L3CCNotify)
  | bccCallConfirmed (ti : Nat)
  | bccConnectAcknowledge (ti : Nat)
  | gccCallConfirmed (ti : Nat)
deriving DecidableEq, Repr

namespace FixedMessage

/-- The parser of a body by discriminator and message type; the transaction comes from the
header. -/
def parseBody (pd mti ti : Nat) : Option (FieldParser FixedMessage) :=
  match pd, mti with
  | 0x06, 0x12 => some (rrStatus <$> CauseMessage.parse)
  | 0x06, 0x13 => some (pure classmarkEnquiry)
  | 0x06, 0x29 => some (assignmentComplete <$> CauseMessage.parse)
  | 0x06, 0x2f => some (assignmentFailure <$> CauseMessage.parse)
  | 0x06, 0x35 => some (cipheringModeCommand <$> L3CipheringModeCommand.parse)
  | 0x05, 0x21 => some (pure cmServiceAccept)
  | 0x05, 0x22 => some (cmServiceReject <$> CauseMessage.parse)
  | 0x05, 0x23 => some (pure cmServiceAbort)
  | 0x05, 0x29 => some (pure mmAbort)
  | 0x05, 0x31 => some (mmStatus <$> CauseMessage.parse)
  | 0x03, 0x3d => some ((fun msg => ccStatus { msg with ti := ti }) <$> L3CCStatus.parse)
  | 0x03, 0x3e => some ((fun msg => ccNotify { msg with ti := ti }) <$> CauseMessage.parse)
  | 0x01, 0x04 => some (pure (bccCallConfirmed ti))
  | 0x01, 0x09 => some (pure (bccConnectAcknowledge ti))
  | 0x00, 0x03 => some (pure (gccCallConfirmed ti))
  | _, _ => none

/-- The protocol discriminator of a message. -/
def pd : FixedMessage → Nat
  | .rrStatus _ | .classmarkEnquiry | .assignmentComplete _ | .assignmentFailure _
  | .cipheringModeCommand _ => 0x06
  | .cmServiceAccept | .cmServiceReject _ | .cmServiceAbort | .mmAbort | .mmStatus _ => 0x05
  | .ccStatus _ | .ccNotify _ => 0x03
  | .bccCallConfirmed _ | .bccConnectAcknowledge _ => 0x01
  | .gccCallConfirmed _ => 0x00

/-- The message type of a message. -/
def mti : FixedMessage → Nat
  | .rrStatus _ => 0x12
  | .classmarkEnquiry => 0x13
  | .assignmentComplete _ => 0x29
  | .assignmentFailure _ => 0x2f
  | .cipheringModeCommand _ => 0x35
  | .cmServiceAccept => 0x21
  | .cmServiceReject _ => 0x22
  | .cmServiceAbort => 0x23
  | .mmAbort => 0x29
  | .mmStatus _ => 0x31
  | .ccStatus _ => 0x3d
  | .ccNotify _ => 0x3e
  | .bccCallConfirmed _ => 0x04
  | .bccConnectAcknowledge _ => 0x09
  | .gccCallConfirmed _ => 0x03

/-- The transaction identifier; a message without one has 0. -/
def ti : FixedMessage → Nat
  | .ccStatus msg => msg.ti
  | .ccNotify msg => msg.ti
  | .bccCallConfirmed ti | .bccConnectAcknowledge ti | .gccCallConfirmed ti => ti
  | _ => 0

/-- The announced length of the body. -/
def bodyLength : FixedMessage → Nat
  | .rrStatus _ | .assignmentComplete _ | .assignmentFailure _ | .cipheringModeCommand _
  | .cmServiceReject _ | .mmStatus _ | .ccNotify _ => 1
  | .ccStatus _ => 4
  | _ => 0

/-- The body; a message without one writes nothing. -/
def write : FixedMessage → List Op
  | .rrStatus msg | .assignmentComplete msg | .assignmentFailure msg | .cmServiceReject msg
  | .mmStatus msg => msg.write
  | .cipheringModeCommand msg => msg.write
  | .ccStatus msg => msg.write
  | .ccNotify msg => msg.toCauseMessage.write
  | _ => []

/-- A message with its header, its announced length and its body. -/
def encoding (msg : FixedMessage) : L3Encoding where
  pd := msg.pd
  mti := msg.mti
  ti := msg.ti
  bodyLength := msg.bodyLength
  fields := msg.write

end FixedMessage

end Gsml3
