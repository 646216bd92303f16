import Gsml3.Common.SI13RestOctets
import Gsml3.Core.OptionalFields

/-!
# SI3 and SI4 rest octets

A record of optional groups, filled to the octet boundary with the leading bits of the padding
octet, and the octets behind it, which are kept as they are.  A region of padding octets only
carries no record.
-/

namespace Gsml3

open BitWriter (Op fields endPos)
open FieldParser (remainingBits readBytes alignToOctet tryValue tryFlag tryOptional writeOptional)
open Foundation (bitString bitValue)

/-! ## The region -/

namespace RestOctets

/-- The octet that fills unused rest octets. -/
def restOctetsPadding : UInt8 := 0x2B

/-- Whether the octets are nothing but filling. -/
def isAllPadding (octets : List UInt8) : Bool :=
  octets.all (· == restOctetsPadding)

/-- SI13 rest octets are padded the same way. -/
def padToOctetWithPattern (pos : Nat) : List Op :=
  L3SI13RestOctets.writePadding pos

/-- `peekField(8) & 0xFF`, where an octet is left. -/
def peekOctet : FieldParser UInt8 := fun cursor =>
  .ok (UInt8.ofNat (bitValue (cursor.slice 8)), cursor)

/-- The whole octets that are left. -/
def captureTrailingOctets : FieldParser (List UInt8) := do
  let bits ← remainingBits
  readBytes (bits / 8)

/-- A reader of its own over these octets. -/
def staged {α : Type} (parser : FieldParser α) (octets : List UInt8) : FieldParser α := fun cursor =>
  (parser (.between [] (bitString octets))).map fun read => (read.1, cursor)

/-- `decode` reads a record and the octets behind it; octets without a record are preserved. -/
def parseRegion {α : Type} (decode : FieldParser α) (preserve : List UInt8 → α) :
    FieldParser α := do
  let bits ← remainingBits
  if bits / 8 = 0 then pure (preserve [])
  else
    let first ← peekOctet
    if first ≠ restOctetsPadding then decode
    else
      -- a record may start with a padding octet
      let region ← readBytes (bits / 8)
      if isAllPadding region then pure (preserve region) else staged decode region

end RestOctets

open RestOctets

/-! ## Groups -/

/-- The cell reselection parameters. -/
structure SelectionParameters where
  cbq : Bool := false
  cellReselectOffset : BitVec 6 := 0
  temporaryOffset : BitVec 3 := 0
  penaltyTime : BitVec 5 := 0
deriving DecidableEq

namespace SelectionParameters

/-- The flag and the three values. -/
def parse : FieldParser SelectionParameters := do
  let cbq ← tryFlag
  let cellReselectOffset ← tryValue 6
  let temporaryOffset ← tryValue 3
  let penaltyTime ← tryValue 5
  pure { cbq, cellReselectOffset, temporaryOffset, penaltyTime }

/-- The flag and the three values. -/
def write (group : SelectionParameters) : List Op :=
  [writeFlag group.cbq, writeValue group.cellReselectOffset, writeValue group.temporaryOffset,
    writeValue group.penaltyTime]

end SelectionParameters

/-- The announcement of GPRS and of where SI13 is sent. -/
structure GprsIndicator where
  raColour : BitVec 3 := 0
  si13Position : Bool := false
deriving DecidableEq

namespace GprsIndicator

/-- The colour and the position. -/
def parse : FieldParser GprsIndicator := do
  let raColour ← tryValue 3
  let si13Position ← tryFlag
  pure { raColour, si13Position }

/-- The colour and the position. -/
def write (group : GprsIndicator) : List Op :=
  [writeValue group.raColour, writeFlag group.si13Position]

end GprsIndicator

/-! ## SI3 -/

/-- A group is there if its presence flag is set.  The indicator of the Iu mode belongs to a
record without GPRS, the position of SI21 to one without `schedWhere`. -/
structure L3SI3RestOctets where
  selection : Option SelectionParameters := none
  powerOffset : Option (BitVec 2) := none
  si2terInd : Bool := false
  earlyCmInd : Bool := false
  schedWhere : Option (BitVec 3) := none
  gprs : Option GprsIndicator := none
  umtsEarlyCmInd : Bool := false
  si2quaterInd : Option Bool := none
  iuModeInd : Bool := false
  si21Pos : Option (BitVec 1) := none
  opaqueTail : List UInt8 := []
deriving DecidableEq

namespace L3SI3RestOctets

/-- The groups of the record in their order. -/
def decodeRecord : FieldParser L3SI3RestOctets := do
  let selection ← tryOptional SelectionParameters.parse
  let powerOffset ← tryOptional (tryValue 2)
  let si2terInd ← tryFlag
  let earlyCmInd ← tryFlag
  let schedWhere ← tryOptional (tryValue 3)
  let gprs ← tryOptional GprsIndicator.parse
  let umtsEarlyCmInd ← tryFlag
  let si2quaterInd ← tryOptional tryFlag
  let iuModeInd ← (if gprs.isSome then pure false else tryFlag)
  let si21Pos ← (if schedWhere.isSome then pure none else tryOptional (tryValue 1))
  pure {
    selection, powerOffset, si2terInd, earlyCmInd, schedWhere, gprs, umtsEarlyCmInd
    si2quaterInd, iuModeInd, si21Pos }

/-- The record, then what is left of the region as octets. -/
def decode : FieldParser L3SI3RestOctets := do
  let rest ← decodeRecord
  alignToOctet
  let opaqueTail ← captureTrailingOctets
  pure { rest with opaqueTail := opaqueTail }

/-- A region of nothing but filling is kept as octets, another one is decoded. -/
def parse : FieldParser L3SI3RestOctets :=
  parseRegion decode fun octets => { opaqueTail := octets }

/-- Whether no group and no flag is set. -/
def noRecordBits (rest : L3SI3RestOctets) : Bool :=
  !rest.selection.isSome && !rest.powerOffset.isSome && !rest.schedWhere.isSome &&
    !rest.gprs.isSome && !rest.si2quaterInd.isSome && !rest.si21Pos.isSome &&
    !rest.si2terInd && !rest.earlyCmInd && !rest.umtsEarlyCmInd && !rest.iuModeInd

/-- Padding octets that were preserved. -/
def PaddingOnly (rest : L3SI3RestOctets) : Prop :=
  rest.noRecordBits = true ∧ rest.opaqueTail ≠ [] ∧ isAllPadding rest.opaqueTail = true

instance (rest : L3SI3RestOctets) : Decidable rest.PaddingOnly :=
  inferInstanceAs (Decidable (_ ∧ _ ∧ _))

/-- The bits of the record as `lengthV` counts them. -/
def recordBits (rest : L3SI3RestOctets) : Nat :=
  1 + (if rest.selection.isSome then 1 + 6 + 3 + 5 else 0) +
    1 + (if rest.powerOffset.isSome then 2 else 0) + (1 + 1) +
    1 + (if rest.schedWhere.isSome then 3 else 0) + 1 + (if rest.gprs.isSome then 3 + 1 else 0) +
    1 + 1 + (if rest.si2quaterInd.isSome then 1 else 0) + (if rest.gprs.isSome then 0 else 1) +
    (if rest.schedWhere.isSome then 0 else 1 + if rest.si21Pos.isSome then 1 else 0)

/-- The octets of filling, or those of the record with its tail. -/
def lengthV (rest : L3SI3RestOctets) : Nat :=
  if rest.PaddingOnly then rest.opaqueTail.length
  else (rest.recordBits + 7) / 8 + rest.opaqueTail.length

/-- The groups in the order they are read. -/
def writeRecord (rest : L3SI3RestOctets) : List Op :=
  writeOptional SelectionParameters.write rest.selection ++
    (writeOptional (fun value => [writeValue value]) rest.powerOffset ++
    ([writeFlag rest.si2terInd] ++ ([writeFlag rest.earlyCmInd] ++
    (writeOptional (fun value => [writeValue value]) rest.schedWhere ++
    (writeOptional GprsIndicator.write rest.gprs ++ ([writeFlag rest.umtsEarlyCmInd] ++
    (writeOptional (fun flag => [writeFlag flag]) rest.si2quaterInd ++
    ((if rest.gprs.isSome then [] else [writeFlag rest.iuModeInd]) ++
    (if rest.schedWhere.isSome then []
      else writeOptional (fun value => [writeValue value]) rest.si21Pos)))))))))

/-- The record is filled up to an octet by the padding pattern. -/
def write (rest : L3SI3RestOctets) (pos : Nat) : List Op :=
  if rest.PaddingOnly then [.writeBytes rest.opaqueTail]
  else rest.writeRecord ++ (padToOctetWithPattern (endPos pos rest.writeRecord) ++
    writeOctets rest.opaqueTail)

end L3SI3RestOctets

/-! ## SI4 -/

/-- The part `restS` takes all octets behind the groups. -/
structure L3SIType4RestOctets where
  selection : Option SelectionParameters := none
  powerOffset : Option (BitVec 2) := none
  gprs : Option GprsIndicator := none
  restS : Option (List UInt8) := none
  opaqueTail : List UInt8 := []
deriving DecidableEq

namespace L3SIType4RestOctets

/-- The record up to the presence bit of the S part, which is empty so far. -/
def decodeGroups : FieldParser L3SIType4RestOctets := do
  let selection ← tryOptional SelectionParameters.parse
  let powerOffset ← tryOptional (tryValue 2)
  let gprs ← tryOptional GprsIndicator.parse
  let restSPresent ← tryFlag
  pure { selection, powerOffset, gprs, restS := if restSPresent then some [] else none }

/-- The groups; a rest announced behind them takes the remaining octets. -/
def decodeRecord : FieldParser L3SIType4RestOctets := do
  let rest ← decodeGroups
  if rest.restS.isSome then
    alignToOctet
    let restS ← captureTrailingOctets
    pure { rest with restS := some restS }
  else pure rest

/-- The record, then what is left of the region as octets. -/
def decode : FieldParser L3SIType4RestOctets := do
  let rest ← decodeRecord
  alignToOctet
  let opaqueTail ← captureTrailingOctets
  pure { rest with opaqueTail := opaqueTail }

/-- A region of nothing but filling is kept as octets, another one is decoded. -/
def parse : FieldParser L3SIType4RestOctets :=
  parseRegion decode fun octets => { opaqueTail := octets }

/-- Whether no group is there. -/
def noRecordBits (rest : L3SIType4RestOctets) : Bool :=
  !rest.selection.isSome && !rest.powerOffset.isSome && !rest.gprs.isSome && !rest.restS.isSome

/-- Padding octets that were preserved. -/
def PaddingOnly (rest : L3SIType4RestOctets) : Prop :=
  rest.noRecordBits = true ∧ rest.opaqueTail ≠ [] ∧ isAllPadding rest.opaqueTail = true

instance (rest : L3SIType4RestOctets) : Decidable rest.PaddingOnly :=
  inferInstanceAs (Decidable (_ ∧ _ ∧ _))

/-- No rest octets at all. -/
def Absent (rest : L3SIType4RestOctets) : Prop :=
  rest.noRecordBits = true ∧ rest.opaqueTail = []

instance (rest : L3SIType4RestOctets) : Decidable rest.Absent :=
  inferInstanceAs (Decidable (_ ∧ _))

/-- The bits of the record as `lengthV` counts them. -/
def recordBits (rest : L3SIType4RestOctets) : Nat :=
  1 + (if rest.selection.isSome then 1 + 6 + 3 + 5 else 0) +
    1 + (if rest.powerOffset.isSome then 2 else 0) +
    1 + (if rest.gprs.isSome then 3 + 1 else 0) + 1

/-- Filling, nothing at all, or the record with its rest and tail. -/
def lengthV (rest : L3SIType4RestOctets) : Nat :=
  if rest.PaddingOnly then rest.opaqueTail.length
  else if rest.Absent then 0
  else (rest.recordBits + 7) / 8 + rest.restS.elim 0 List.length + rest.opaqueTail.length

/-- The groups in the order they are read. -/
def writeGroups (rest : L3SIType4RestOctets) : List Op :=
  writeOptional SelectionParameters.write rest.selection ++
    (writeOptional (fun value => [writeValue value]) rest.powerOffset ++
    (writeOptional GprsIndicator.write rest.gprs ++ [writeFlag rest.restS.isSome]))

/-- The record is filled up to an octet by the padding pattern before the rest. -/
def write (rest : L3SIType4RestOctets) (pos : Nat) : List Op :=
  if rest.PaddingOnly then [.writeBytes rest.opaqueTail]
  else if rest.Absent then []
  else rest.writeGroups ++ (padToOctetWithPattern (endPos pos rest.writeGroups) ++
    (rest.restS.elim [] (fun octets => [.writeBytes octets]) ++ writeOctets rest.opaqueTail))

end L3SIType4RestOctets

end Gsml3
