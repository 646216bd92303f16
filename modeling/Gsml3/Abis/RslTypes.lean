import Mathlib

/-!
# RSL types

Message groups, message types, information elements and their encoding classes on the A-bis
interface, as far as the builders and the parser use them.
-/

namespace Gsml3

namespace Abis

/-- Message group of an RSL frame. -/
inductive RSLDiscriminator where
  | rll
  | commonChannel
  | dedicatedChannel
  | trxManagement
  | lcs
  | ipAccess
deriving DecidableEq, Repr

/-- The group code of a discriminator. -/
def RSLDiscriminator.code : RSLDiscriminator → UInt8
  | .rll => 0x01
  | .commonChannel => 0x06
  | .dedicatedChannel => 0x04
  | .trxManagement => 0x08
  | .lcs => 0x10
  | .ipAccess => 0x3F

/-- First octet of a frame: message group and transparent flag. -/
def rslFirstOctet (d : RSLDiscriminator) (transparent : Bool) : UInt8 :=
  (d.code &&& 0x7F) <<< 1 ||| if transparent then 1 else 0

/-- The first octet of a message: its group, and the transparency bit. -/
structure RSLFirstOctet where
  group : UInt8
  transparent : Bool
deriving DecidableEq, Repr

/-- The group 0 is reserved, as are those from `0x40` on. -/
def decodeRslFirstOctet (octet : UInt8) : Option RSLFirstOctet :=
  let group := octet >>> 1
  if group = 0 ∨ 0x3F < group then none
  else some { group, transparent := octet &&& 0x01 ≠ 0 }

/-- The discriminator of a group code, `none` for a code of no group. -/
def rslGroupToDiscriminator (group : UInt8) : Option RSLDiscriminator :=
  if group = 0x01 then some .rll
  else if group = 0x04 then some .dedicatedChannel
  else if group = 0x06 then some .commonChannel
  else if group = 0x08 then some .trxManagement
  else if group = 0x10 then some .lcs
  else if group = 0x3F then some .ipAccess
  else none

/-! ## Message types -/

namespace RSLL3MessageType

def dataReq : UInt8 := 0x01
def dataInd : UInt8 := 0x02
def unitDataReq : UInt8 := 0x0A
def unitDataInd : UInt8 := 0x0B

end RSLL3MessageType

namespace RSLDChanMessageType

def chanActivAck : UInt8 := 0x22
def chanActivNack : UInt8 := 0x23
def connFail : UInt8 := 0x24
def handoDet : UInt8 := 0x27
def measRes : UInt8 := 0x28
def rfChanRelAck : UInt8 := 0x33

end RSLDChanMessageType

namespace RSLCChanMessageType

def ccchLoadInd : UInt8 := 0x12
def chanRqd : UInt8 := 0x13
def deleteInd : UInt8 := 0x14

end RSLCChanMessageType

/-! ## Information elements -/

namespace RSL_IE

def chanNr : UInt8 := 0x01
def linkIdent : UInt8 := 0x02
def bsPower : UInt8 := 0x04
def frameNumber : UInt8 := 0x08
def l1Info : UInt8 := 0x0A
def l3Info : UInt8 := 0x0B
def pagingLoad : UInt8 := 0x0F
def accessDelay : UInt8 := 0x11
def rachLoad : UInt8 := 0x12
def reqReference : UInt8 := 0x13
def uplinkMeas : UInt8 := 0x19
def cause : UInt8 := 0x1A
def measResNr : UInt8 := 0x1B
def fullBCCHInfo : UInt8 := 0x27
def fullImmAssInfo : UInt8 := 0x2B

end RSL_IE

/-- Encoding class of an information element: a value of fixed size, or one behind a length
field of 8 or 16 bits. -/
inductive RSLEIEncoding where
  | tv
  | lv
  | tl16v
deriving DecidableEq, Repr

/-- How an element is framed, by its identifier; an identifier not listed has a length octet. -/
def rslIeEncoding (iei : UInt8) : RSLEIEncoding :=
  if iei ∈ ([0x01, 0x02, 0x03, 0x04, 0x08, 0x09, 0x0A, 0x0D, 0x0E, 0x0F, 0x11, 0x13, 0x14, 0x17,
      0x18, 0x1B, 0x1C, 0x1E, 0x25, 0x28, 0x29, 0x2D, 0x2E, 0x37, 0xF0, 0xF1, 0xF2, 0xF3, 0xF4,
      0xF5, 0xF8, 0xF9, 0xFC] : List UInt8) then .tv
  else if iei = 0x0B then .tl16v
  else .lv

/-- Size of the value of an element of fixed size. -/
def rslIeTvValueSize (iei : UInt8) : UInt8 :=
  if iei ∈ ([0x08, 0x0A, 0x0F, 0x17, 0xF1, 0xF3, 0xF8] : List UInt8) then 2
  else if iei = 0x13 then 3
  else if iei ∈ ([0x01, 0x02, 0x03, 0x04, 0x09, 0x0D, 0x0E, 0x11, 0x14, 0x18, 0x1B, 0x1C, 0x1E,
      0x25, 0x28, 0x29, 0x2D, 0x2E, 0x37, 0xF2, 0xF4, 0xF9, 0xFC] : List UInt8) then 1
  else if iei ∈ ([0xF0, 0xF5] : List UInt8) then 4
  else 0

/-- Value of an error cause; every octet has the type. -/
abbrev RSLErrorCause := UInt8

namespace RSLChannelNumber

def rach : UInt8 := 0x11
def pchAgch : UInt8 := 0x12

/-- A channel number of a five-bit code and a timeslot. -/
def encode (code tn : UInt8) : UInt8 :=
  (code &&& 0x1F) <<< 3 ||| tn &&& 0x07

end RSLChannelNumber

end Abis

end Gsml3
