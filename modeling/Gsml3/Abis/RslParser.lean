import Gsml3.Abis.RslTypes
import Gsml3.Core.Types
import Gsml3.Foundation.Elements

/-!
# RSL parser

The header of a frame, its information elements, and the layer 3 message one of them
carries.  An element that points into the frame is the list of its octets.
-/

namespace Gsml3

namespace Abis

open Foundation (Element)

structure RSLParsedMessage where
  discriminator : RSLDiscriminator := .rll
  msgType : UInt8 := 0
  chanNr : UInt8 := 0
  linkId : UInt8 := 0
  transparent : Bool := false
  l3Payload : List UInt8 := []
  informationElements : List Element := []
  rawData : List UInt8 := []
deriving DecidableEq, Repr

namespace RSLParsedMessage

/-- The number of elements a message has room for. -/
def MAX_IE : Nat := 32

end RSLParsedMessage

/-- Parse at most `slots` information elements; a truncated one ends the list. -/
def parseIEs : Nat → List UInt8 → List Element
  | 0, _ => []
  | _, [] => []
  | slots + 1, type :: data =>
      match rslIeEncoding type with
      | .tv =>
          let vsize := (rslIeTvValueSize type).toNat
          if data.length < vsize then []
          else ⟨type, data.take vsize⟩ :: parseIEs slots (data.drop vsize)
      | .tl16v =>
          match data with
          | high :: low :: data =>
              let vlen := (high.toUInt16 <<< 8 ||| low.toUInt16).toNat
              if data.length < vlen then []
              else ⟨type, data.take vlen⟩ :: parseIEs slots (data.drop vlen)
          | _ => []
      | .lv =>
          match data with
          | [] => []
          | octet :: data =>
              let vlen := octet.toNat
              if data.length < vlen then []
              else ⟨type, data.take vlen⟩ :: parseIEs slots (data.drop vlen)

namespace RSLParser

/-- The first element of a type. -/
def findIE (parsed : RSLParsedMessage) (ieType : UInt8) : Option Element :=
  parsed.informationElements.find? fun ie => ie.type = ieType

/-- The message carries its payload in the layer 3 information element. -/
def carriesL3 (msg : RSLParsedMessage) : Bool :=
  match msg.discriminator with
  | .rll =>
      msg.msgType = RSLL3MessageType.dataReq ∨ msg.msgType = RSLL3MessageType.dataInd ∨
        msg.msgType = RSLL3MessageType.unitDataReq ∨ msg.msgType = RSLL3MessageType.unitDataInd
  | .commonChannel | .dedicatedChannel => true
  | _ => false

/-- Extract what `parse` takes from the elements. -/
def extract (msg : RSLParsedMessage) : RSLParsedMessage :=
  let chanNr := ((findIE msg RSL_IE.chanNr).bind (·.val.head?)).getD msg.chanNr
  let linkId := ((findIE msg RSL_IE.linkIdent).bind (·.val.head?)).getD msg.linkId
  let l3 :=
    if carriesL3 msg then ((findIE msg RSL_IE.l3Info).map Element.val).getD msg.l3Payload
    else msg.l3Payload
  let l3Payload :=
    if l3.isEmpty then ((findIE msg RSL_IE.fullBCCHInfo).map Element.val).getD l3 else l3
  { msg with chanNr, linkId, l3Payload }

def parse (data : List UInt8) : Except ParseError RSLParsedMessage :=
  match data with
  | first :: msgType :: payload =>
      match decodeRslFirstOctet first with
      | none =>
          .error { code := .invalidValue, message := "Reserved RSL message group" }
      | some firstOctet =>
          match rslGroupToDiscriminator firstOctet.group with
          | none =>
              .error { code := .invalidValue, message := "Unknown RSL message group" }
          | some discriminator =>
              .ok (extract {
                discriminator
                transparent := firstOctet.transparent
                msgType
                informationElements := parseIEs RSLParsedMessage.MAX_IE payload
                rawData := data })
  | _ => .error { code := .truncatedInput, message := "RSL message too short for header" }

def extractL3 (parsed : RSLParsedMessage) : Option (List UInt8) :=
  if parsed.l3Payload.isEmpty then none else some parsed.l3Payload

end RSLParser

/-! ## Decoded values -/

/-- Value of the uplink measurements element. -/
structure RSLUplinkMeas where
  dtxDownlink : Bool := false
  rxlevFull : UInt8 := 0
  rxlevSub : UInt8 := 0
  rxqFull : UInt8 := 0
  rxqSub : UInt8 := 0
deriving DecidableEq, Repr

/-- Value of the frame number element. -/
structure RSLFrameNumber where
  t1p : UInt8 := 0
  t3 : UInt8 := 0
  t2 : UInt8 := 0
deriving DecidableEq, Repr

namespace RSLParser

/-- A longer value has supplementary octets that are not decoded. -/
def getUplinkMeas (parsed : RSLParsedMessage) : Option RSLUplinkMeas :=
  (findIE parsed RSL_IE.uplinkMeas).bind fun ie =>
    match ie.val with
    | first :: second :: third :: _ =>
        some {
          dtxDownlink := first &&& 0x40 ≠ 0
          rxlevFull := first &&& 0x3F
          rxlevSub := second &&& 0x3F
          rxqFull := third >>> 3 &&& 0x07
          rxqSub := third &&& 0x07 }
    | _ => none

def getFrameNumber (parsed : RSLParsedMessage) : Option RSLFrameNumber :=
  (findIE parsed RSL_IE.frameNumber).bind fun ie =>
    match ie.val with
    | [first, second] =>
        some {
          t1p := first >>> 3
          t3 := (first &&& 0x07) <<< 3 ||| second >>> 5
          t2 := second &&& 0x1F }
    | _ => none

end RSLParser

end Abis

end Gsml3
