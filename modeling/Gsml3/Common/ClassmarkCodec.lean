import Gsml3.RR.ElementCodecs

/-!
# Classmark read back

A classmark of three to seven octets is read with its length; the octets behind the first three
are kept as they are.
-/

namespace Gsml3

open BitWriter (Op fields endPos)
open FieldParser
open Foundation (bitString)

namespace L3MobileStationClassmark2

def parse (length : Nat) : FieldParser L3MobileStationClassmark2 :=
  if length < 3 ∨ 7 < length then
    throw { code := .invalidValue, message := "classmark 2 length out of range" }
  else do
    let _ ← readField 1
    let revisionLevel ← readUnsigned 2
    let esInd ← readUnsigned 1
    let a5_1 ← readUnsigned 1
    let rfPowerCapability ← readUnsigned 3
    let _ ← readField 1
    let psCapability ← readUnsigned 1
    let ssScreenIndicator ← readUnsigned 2
    let smCapability ← readUnsigned 1
    let vbs ← readUnsigned 1
    let vgcs ← readUnsigned 1
    let fc ← readUnsigned 1
    let cm3 ← readUnsigned 1
    let _ ← readField 1
    let lcsvaCapability ← readUnsigned 1
    let ucs2 ← readUnsigned 1
    let soLSA ← readUnsigned 1
    let cmsf ← readUnsigned 1
    let a5_3 ← readUnsigned 1
    let a5_2 ← readUnsigned 1
    let extended ← readOctets (length - 3)
    pure { revisionLevel, esInd, a5_1, a5_3, a5_2, rfPowerCapability, psCapability,
           ssScreenIndicator, smCapability, vbs, vgcs, fc, cm3, lcsvaCapability, ucs2, soLSA, cmsf,
           extended }

/-- The fields are in range, and four octets at most follow the first three. -/
structure Canonical (classmark : L3MobileStationClassmark2) : Prop where
  revisionLevel : classmark.revisionLevel.toNat < 2 ^ 2
  esInd : classmark.esInd.toNat < 2 ^ 1
  a5_1 : classmark.a5_1.toNat < 2 ^ 1
  rfPowerCapability : classmark.rfPowerCapability.toNat < 2 ^ 3
  psCapability : classmark.psCapability.toNat < 2 ^ 1
  ssScreenIndicator : classmark.ssScreenIndicator.toNat < 2 ^ 2
  smCapability : classmark.smCapability.toNat < 2 ^ 1
  vbs : classmark.vbs.toNat < 2 ^ 1
  vgcs : classmark.vgcs.toNat < 2 ^ 1
  fc : classmark.fc.toNat < 2 ^ 1
  cm3 : classmark.cm3.toNat < 2 ^ 1
  lcsvaCapability : classmark.lcsvaCapability.toNat < 2 ^ 1
  ucs2 : classmark.ucs2.toNat < 2 ^ 1
  soLSA : classmark.soLSA.toNat < 2 ^ 1
  cmsf : classmark.cmsf.toNat < 2 ^ 1
  a5_3 : classmark.a5_3.toNat < 2 ^ 1
  a5_2 : classmark.a5_2.toNat < 2 ^ 1
  extended : classmark.extended.length ≤ 4

theorem takes_write {classmark : L3MobileStationClassmark2} (canonical : classmark.Canonical)
    (pos : Nat) :
    Takes (parse classmark.lengthV) (fields pos classmark.write) (some classmark) := by
  have size := canonical.extended
  rw [parse, lengthV, if_neg (by omega), Nat.add_sub_cancel_left, write]
  refine Takes.skipped ?_ (by simp)
  refine Takes.unsigned ?_ canonical.revisionLevel (by simp)
  refine Takes.unsigned ?_ canonical.esInd (by simp)
  refine Takes.unsigned ?_ canonical.a5_1 (by simp)
  refine Takes.unsigned ?_ canonical.rfPowerCapability (by simp)
  refine Takes.skipped ?_ (by simp)
  refine Takes.unsigned ?_ canonical.psCapability (by simp)
  refine Takes.unsigned ?_ canonical.ssScreenIndicator (by simp)
  refine Takes.unsigned ?_ canonical.smCapability (by simp)
  refine Takes.unsigned ?_ canonical.vbs (by simp)
  refine Takes.unsigned ?_ canonical.vgcs (by simp)
  refine Takes.unsigned ?_ canonical.fc (by simp)
  refine Takes.unsigned ?_ canonical.cm3 (by simp)
  refine Takes.skipped ?_ (by simp)
  refine Takes.unsigned ?_ canonical.lcsvaCapability (by simp)
  refine Takes.unsigned ?_ canonical.ucs2 (by simp)
  refine Takes.unsigned ?_ canonical.soLSA (by simp)
  refine Takes.unsigned ?_ canonical.cmsf (by simp)
  refine Takes.unsigned ?_ canonical.a5_3 (by simp)
  refine Takes.unsigned ?_ canonical.a5_2 (by simp)
  exact (takes_writeOctets classmark.extended _).yield _

theorem ensures_parse (length : Nat) :
    Ensures (parse length) fun classmark read =>
      classmark.Canonical ∧ read.length = 8 * length := by
  rw [parse]
  split
  case isTrue => exact Ensures.throw _
  case isFalse inRange =>
    refine (ensures_readField 1).bind fun _ _ field1 => ?_
    refine (ensures_readUnsigned 2 (by simp)).bind fun revisionLevel _ field2 => ?_
    refine (ensures_readUnsigned 1 (by simp)).bind fun esInd _ field3 => ?_
    refine (ensures_readUnsigned 1 (by simp)).bind fun a5_1 _ field4 => ?_
    refine (ensures_readUnsigned 3 (by simp)).bind fun rfPowerCapability _ field5 => ?_
    refine (ensures_readField 1).bind fun _ _ field6 => ?_
    refine (ensures_readUnsigned 1 (by simp)).bind fun psCapability _ field7 => ?_
    refine (ensures_readUnsigned 2 (by simp)).bind fun ssScreenIndicator _ field8 => ?_
    refine (ensures_readUnsigned 1 (by simp)).bind fun smCapability _ field9 => ?_
    refine (ensures_readUnsigned 1 (by simp)).bind fun vbs _ field10 => ?_
    refine (ensures_readUnsigned 1 (by simp)).bind fun vgcs _ field11 => ?_
    refine (ensures_readUnsigned 1 (by simp)).bind fun fc _ field12 => ?_
    refine (ensures_readUnsigned 1 (by simp)).bind fun cm3 _ field13 => ?_
    refine (ensures_readField 1).bind fun _ _ field14 => ?_
    refine (ensures_readUnsigned 1 (by simp)).bind fun lcsvaCapability _ field15 => ?_
    refine (ensures_readUnsigned 1 (by simp)).bind fun ucs2 _ field16 => ?_
    refine (ensures_readUnsigned 1 (by simp)).bind fun soLSA _ field17 => ?_
    refine (ensures_readUnsigned 1 (by simp)).bind fun cmsf _ field18 => ?_
    refine (ensures_readUnsigned 1 (by simp)).bind fun a5_3 _ field19 => ?_
    refine (ensures_readUnsigned 1 (by simp)).bind fun a5_2 _ field20 => ?_
    refine (ensures_readOctets (length - 3)).bind fun extended _ rest => Ensures.pure ⟨?_, ?_⟩
    · exact ⟨field2.1, field3.1, field4.1, field5.1, field7.1, field8.1, field9.1, field10.1,
        field11.1, field12.1, field13.1, field15.1, field16.1, field17.1, field18.1, field19.1,
        field20.1, rest.1.trans_le (by omega)⟩
    · simp only [List.length_append, List.length_nil, rest.2, field1.1, field2.2, field3.2,
        field4.2, field5.2, field6.1, field7.2, field8.2, field9.2, field10.2, field11.2,
        field12.2, field13.2, field14.1, field15.2, field16.2, field17.2, field18.2, field19.2,
        field20.2]
      omega

/-! ## Behind an octet with the length -/

/-- A classmark behind an octet with its length. -/
def read : FieldParser L3MobileStationClassmark2 := do
  let length ← readOctet
  parse length.toNat

theorem takes_read {classmark : L3MobileStationClassmark2} (canonical : classmark.Canonical)
    (pos : Nat) :
    Takes read (fields pos (.writeField (UInt32.ofNat classmark.lengthV) 8 :: classmark.write))
      (some classmark) := by
  have small : classmark.lengthV < 256 := by
    have size := canonical.extended
    rw [lengthV]
    omega
  refine Takes.octetField ?_
  rw [toNat_lengthOctet small]
  exact takes_write canonical _

/-- As many octets are read as the first one says. -/
theorem ensures_read :
    Ensures read fun classmark bits =>
      classmark.Canonical ∧ ∃ length value,
        bits = bitString (length :: value) ∧ value.length = length.toNat := by
  refine ensures_readOctet_eq.bind fun length front announced => ?_
  refine (ensures_parse length.toNat).mono fun classmark bits holds => ⟨holds.1, length, ?_⟩
  obtain ⟨value, size, rfl⟩ := exists_octets holds.2
  refine ⟨value, ?_, size⟩
  rw [announced, ← Foundation.bitString_append]
  rfl

end L3MobileStationClassmark2

end Gsml3
