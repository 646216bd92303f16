import Gsml3.CC.Elements

/-!
# Supplementary service messages

The body of a Release Complete of supplementary services holds optional elements only.
-/

namespace Gsml3

open FieldParser

structure L3OctetAlignedProtocolElement where
  data : List UInt8 := []
  extant : Bool := false
deriving DecidableEq, Repr

def L3OctetAlignedProtocolElement.parse (lengthBytes : Nat) :
    FieldParser L3OctetAlignedProtocolElement := do
  let data ← readBytes lengthBytes
  pure { data := data, extant := true }

structure L3SupServReleaseCompleteMessage where
  ti : Nat := 7
  facility : L3OctetAlignedProtocolElement := {}
  cause : Option L3CauseElement := none
deriving DecidableEq, Repr

namespace L3SupServReleaseCompleteMessage

/-- A round of the loop over the elements; the identifier is compared without its first
bit. -/
def readElement (msg : L3SupServReleaseCompleteMessage) :
    FieldParser L3SupServReleaseCompleteMessage := do
  let tag ← readOctet
  let iei := tag &&& 0x7F
  let ext : Bool := tag &&& 0x80 ≠ 0
  if iei = 0x08 then
    let _ ← readField 8
    let cause ← L3CauseElement.parse
    pure { msg with cause := some cause }
  else if iei = 0x1c then
    let len ← readField 8
    if 0 < len then
      let facility ← L3OctetAlignedProtocolElement.parse len
      pure { msg with facility := facility }
    else pure msg
  else if ext then
    let skip ← readField 8
    if 0 < skip then
      let _ ← readBytes skip
      pure msg
    else pure msg
  else pure msg

def parse : FieldParser L3SupServReleaseCompleteMessage :=
  parseRounds readElement {}

end L3SupServReleaseCompleteMessage

end Gsml3
