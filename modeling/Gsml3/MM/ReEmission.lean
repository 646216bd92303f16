import Gsml3.Foundation.PackedFields
import Gsml3.MM.Messages
import Gsml3.RR.PagingReEmission

/-!
# Mobility messages written again

A body that is accepted with nothing left over is written with its announced length, and what is
written is accepted as the same message with nothing left over, unless the identity loses a digit.
-/

namespace Gsml3

open BitWriter (Op fields endPos)
open FieldParser
open Foundation (bitString)
open Stack (L3LocationAreaIdentity L3MobileIdentity)
open L3PagingResponse (behindClassmark)
open Stack.L3MobileIdentity (DigitsKept Framed Parsed behind readIdentity reread)

/-! ## Nothing left over -/

section Accepts

variable {α : Type} {parser : FieldParser α} {octets : List UInt8} {msg again : α}

/-- The octets are accepted, and nothing is left over. -/
def Accepts (parser : FieldParser α) (octets : List UInt8) (msg : α) : Prop :=
  parser (.between [] (bitString octets)) = .ok (msg, .between (bitString octets) [])

/-- A message is written with its announced length and accepted again. -/
structure ReEncodes (parser : FieldParser α) (write : List Op) (bodyLength : Nat) (msg : α) :
    Prop where
  length : endPos 0 write = bodyLength * 8
  accepted : Accepts parser (octetsOf write) msg

/-- A message that is taken is accepted. -/
theorem TakesAll.accepts (takes : TakesAll parser (bitString octets) (some msg)) :
    Accepts parser octets msg :=
  ok_of_toOption (takes [])

/-- What a parser ensures holds of the accepted octets. -/
theorem accepts_leaves {post : α → List Bool → List Bool → Prop} (leaves : Leaves parser post)
    (accepted : Accepts parser octets msg) : post msg (bitString octets) [] := by
  obtain ⟨read, rest, split, moved, holds⟩ := leaves _ _ _ _ accepted
  have none : rest = [] := by
    have lengths := congrArg (fun cursor => cursor.bits.length - cursor.pos) moved
    simp only [BitCursor.between, List.length_append, List.length_nil, Nat.add_sub_cancel_left]
      at lengths
    exact List.eq_nil_of_length_eq_zero lengths.symm
  rw [none, List.append_nil] at split
  rwa [split, ← none]

/-- What is read of a message and what is read of its octets. -/
theorem reEncodes_iff_again {write : List Op} {bodyLength : Nat}
    (takes : TakesAll parser (fields 0 write) (some again))
    (length : endPos 0 write = bodyLength * 8) :
    ReEncodes parser write bodyLength msg ↔ again = msg := by
  have whole : 8 ∣ endPos 0 write := ⟨bodyLength, by rw [length, Nat.mul_comm]⟩
  rw [← bitString_octetsOf whole] at takes
  have accepted := TakesAll.accepts takes
  constructor
  · intro encodes
    exact (Prod.mk.inj (Except.ok.inj (accepted.symm.trans encodes.accepted))).1
  · rintro rfl
    exact ⟨length, accepted⟩

end Accepts

/-! ## Elements -/

namespace Stack.L3LocationAreaIdentity

/-- The digits fit their half octets. -/
structure Canonical (lai : L3LocationAreaIdentity) : Prop where
  mcc : ∀ digit ∈ lai.mcc, digit.toNat < 2 ^ 4
  mnc : ∀ digit ∈ lai.mnc, digit.toNat < 2 ^ 4

theorem canonical_default : Canonical {} := by
  constructor
  · simp
  · simp

/-- Areas come back, and those that are read are canonical. -/
theorem codec : Codec parse write Canonical where
  takes := by
    intro lai canonical pos
    have mcc (i : Nat) (inside : i < 3) : lai.mcc[i].toNat < 2 ^ 4 :=
      canonical.mcc _ (Vector.getElem_mem inside)
    have mnc (i : Nat) (inside : i < 3) : lai.mnc[i].toNat < 2 ^ 4 :=
      canonical.mnc _ (Vector.getElem_mem inside)
    have digits (code : Vector UInt32 3) : #v[code[0], code[1], code[2]] = code := by
      apply Vector.ext
      intro i inside
      obtain rfl | rfl | rfl : i = 0 ∨ i = 1 ∨ i = 2 := by omega
      · rfl
      · rfl
      · rfl
    refine Takes.unsigned ?_ (mcc 1 (by decide)) (by simp)
    refine Takes.unsigned ?_ (mcc 0 (by decide)) (by simp)
    refine Takes.unsigned ?_ (mnc 2 (by decide)) (by simp)
    refine Takes.unsigned ?_ (mcc 2 (by decide)) (by simp)
    refine Takes.unsigned ?_ (mnc 1 (by decide)) (by simp)
    refine Takes.unsigned ?_ (mnc 0 (by decide)) (by simp)
    refine Takes.word ?_ lai.lac.toNat_lt (by simp)
    rw [digits lai.mcc, digits lai.mnc]
    exact Takes.pure lai
  returns := by
    refine (ensures_readUnsigned 4 (by simp)).bind fun mcc2 _ second => ?_
    refine (ensures_readUnsigned 4 (by simp)).bind fun mcc1 _ first => ?_
    refine (ensures_readUnsigned 4 (by simp)).bind fun mnc3 _ sixth => ?_
    refine (ensures_readUnsigned 4 (by simp)).bind fun mcc3 _ third => ?_
    refine (ensures_readUnsigned 4 (by simp)).bind fun mnc2 _ fifth => ?_
    refine (ensures_readUnsigned 4 (by simp)).bind fun mnc1 _ fourth => ?_
    refine (ensures_readWord 16 (by simp)).bind fun lac _ _ => Ensures.pure ⟨?_, ?_⟩
    · simp only [Vector.mem_mk, List.mem_toArray, List.mem_cons, List.not_mem_nil, or_false]
      rintro digit (rfl | rfl | rfl)
      · exact first.1
      · exact second.1
      · exact third.1
    · simp only [Vector.mem_mk, List.mem_toArray, List.mem_cons, List.not_mem_nil, or_false]
      rintro digit (rfl | rfl | rfl)
      · exact fourth.1
      · exact fifth.1
      · exact sixth.1

theorem ensures_parse :
    Ensures parse fun lai read =>
      lai.Canonical ∧ ∃ octets, octets.length = lengthV ∧ read = bitString octets := by
  have length : Ensures parse fun _ read => read.length = 8 * lengthV := by
    refine (ensures_readUnsigned 4 (by simp)).bind fun _ _ field1 => ?_
    refine (ensures_readUnsigned 4 (by simp)).bind fun _ _ field2 => ?_
    refine (ensures_readUnsigned 4 (by simp)).bind fun _ _ field3 => ?_
    refine (ensures_readUnsigned 4 (by simp)).bind fun _ _ field4 => ?_
    refine (ensures_readUnsigned 4 (by simp)).bind fun _ _ field5 => ?_
    refine (ensures_readUnsigned 4 (by simp)).bind fun _ _ field6 => ?_
    refine (ensures_readWord 16 (by simp)).bind fun _ _ field7 => Ensures.pure ?_
    simp only [List.length_append, List.length_nil, field1.2, field2.2, field3.2, field4.2,
      field5.2, field6.2, field7.2, lengthV]
  exact (codec.returns.and length).mono fun _ _ holds => ⟨holds.1, exists_octets holds.2⟩

end Stack.L3LocationAreaIdentity

namespace L3MobileStationClassmark1

/-- The fields fit their bits. -/
structure Canonical (classmark : L3MobileStationClassmark1) : Prop where
  revisionLevel : classmark.revisionLevel.toNat < 2 ^ 2
  esInd : classmark.esInd.toNat < 2 ^ 1
  a5_1 : classmark.a5_1.toNat < 2 ^ 1
  rfPowerCapability : classmark.rfPowerCapability.toNat < 2 ^ 3

/-- Canonical classmarks come back. -/
theorem takes_write {classmark : L3MobileStationClassmark1} (canonical : classmark.Canonical)
    (pos : Nat) : Takes parse (fields pos classmark.write) (some classmark) := by
  refine Takes.skipped ?_ (by simp)
  refine Takes.unsigned ?_ canonical.revisionLevel (by simp)
  refine Takes.unsigned ?_ canonical.esInd (by simp)
  refine Takes.unsigned ?_ canonical.a5_1 (by simp)
  refine Takes.unsigned ?_ canonical.rfPowerCapability (by simp)
  exact Takes.pure classmark

theorem ensures_parse :
    Ensures parse fun classmark read =>
      classmark.Canonical ∧ ∃ octet, read = bitString [octet] := by
  refine (ensures_readField 1).bind fun _ _ spare => ?_
  refine (ensures_readUnsigned 2 (by simp)).bind fun _ _ revision => ?_
  refine (ensures_readUnsigned 1 (by simp)).bind fun _ _ early => ?_
  refine (ensures_readUnsigned 1 (by simp)).bind fun _ _ algorithm => ?_
  refine (ensures_readUnsigned 3 (by simp)).bind fun _ _ power => Ensures.pure ⟨?_, ?_⟩
  · exact ⟨revision.1, early.1, algorithm.1, power.1⟩
  · apply exists_octet
    simp only [List.length_append, List.length_nil, spare.1, revision.2, early.2, algorithm.2,
      power.2]

end L3MobileStationClassmark1

/-! ## Behind an identifier -/

section TLV

variable {α : Type} {missing : String} {value : Nat → FieldParser α} {expectedIEI pos : Nat}

/-- A value behind its identifier and length. -/
theorem takes_parseTLV {type : UInt32} {ops : List Op} {result : α}
    (expected : isTLVType expectedIEI (type.toNat % 2 ^ 8) = true)
    (takes : Takes (do
      let length ← readOctet
      value length.toNat) (fields (pos + 8) ops) (some result)) :
    Takes (parseTLV missing value expectedIEI) (fields pos (.writeField type 8 :: ops))
      (some result) := by
  refine Takes.more (List.cons_ne_nil _ _) ?_
  rw [if_pos rfl]
  refine Takes.skipped ?_ (by simp)
  rw [if_pos expected]
  exact takes

/-- What is read behind an identifier. -/
theorem ensures_parseTLV {post : α → List Bool → Prop}
    (reads : Ensures (do
      let length ← readOctet
      value length.toNat) post) :
    Ensures (parseTLV missing value expectedIEI) fun result read =>
      ∃ iei more, read = bitString [iei] ++ more ∧ post result more := by
  refine ensures_hasMore.bind fun more _ none => ?_
  subst none
  cases more with
  | false => exact ensures_position.bind fun _ _ _ => Ensures.throw _
  | true =>
      refine (ensures_readField 8).bind fun iei front first => ?_
      obtain ⟨octet, rfl⟩ := exists_octet first.1
      split
      case isTrue => exact reads.mono fun result read holds => ⟨octet, read, rfl, holds⟩
      case isFalse => exact ensures_position.bind fun _ _ _ => Ensures.throw _

end TLV

theorem ensures_parseTLVLAI (expectedIEI : Nat) :
    Ensures (parseTLVLAI expectedIEI) fun lai read =>
      lai.Canonical ∧ ∃ octets, read = bitString octets := by
  have area : Ensures (do
      let _ ← readOctet
      L3LocationAreaIdentity.parse) fun lai read =>
        lai.Canonical ∧ ∃ octets, read = bitString octets := by
    refine ensures_readOctet_eq.bind fun length front announced => ?_
    refine L3LocationAreaIdentity.ensures_parse.mono fun lai read holds => ?_
    obtain ⟨canonical, value, _, rfl⟩ := holds
    refine ⟨canonical, length :: value, ?_⟩
    rw [announced, ← Foundation.bitString_append]
    rfl
  refine (ensures_parseTLV area).mono fun lai read holds => ?_
  obtain ⟨iei, more, rfl, canonical, value, rfl⟩ := holds
  exact ⟨canonical, iei :: value, (Foundation.bitString_append [iei] value).symm⟩

/-- The identifier of an identity, whatever its first bit. -/
theorem isTLVType_iff (iei : UInt8) : isTLVType 0x17 iei.toNat = true ↔ iei &&& 0x7F = 0x17 :=
  announcesIdentity_iff iei

/-! ## Detach -/

namespace L3IMSIDetachIndication

theorem endPos_write (msg : L3IMSIDetachIndication) :
    endPos 0 msg.write = msg.bodyLength * 8 := by
  rw [write, bodyLength, BitWriter.endPos_append, endPos_writeIdentity]
  change 8 + 8 * (1 + msg.mobileIdentity.lengthV) = (1 + _) * 8
  omega

/-- An accepted message is accepted again behind its writer exactly when its digits are kept. -/
theorem reEncodes_iff {octets : List UInt8} {msg : L3IMSIDetachIndication}
    (accepted : Accepts parse octets msg) :
    ReEncodes parse msg.write msg.bodyLength msg ↔ DigitsKept (octets.drop 1) := by
  have leaves : Leaves parse fun msg read _ =>
      bitString octets = read → msg.classmark.Canonical ∧ Parsed msg.mobileIdentity ∧
        (rereadIdentity msg.mobileIdentity = msg.mobileIdentity ↔ DigitsKept (octets.drop 1)) := by
    refine L3MobileStationClassmark1.ensures_parse.leaves.bind fun classmark _ => ?_
    refine L3MobileIdentity.ensures_readIdentity.leaves.bind fun identity _ => ?_
    refine Leaves.pure fun _ => ?_
    rintro ⟨ids, rfl, framed, parsed, kept⟩ ⟨canonical, octet, rfl⟩ bits
    have split : octets = octet :: ids := by
      apply bitString_injective
      rw [bits, List.append_nil, ← Foundation.bitString_append]
      rfl
    subst split
    exact ⟨canonical, parsed, (rereadIdentity_eq_iff identity).trans kept⟩
  obtain ⟨canonical, parsed, kept⟩ := accepts_leaves leaves accepted rfl
  have takes : TakesAll parse (fields 0 msg.write)
      (some { msg with mobileIdentity := rereadIdentity msg.mobileIdentity }) := by
    refine Takes.part_all (L3MobileStationClassmark1.takes_write canonical 0) ?_
    exact ((L3MobileIdentity.takes_writeIdentity parsed _).yield _).all
  refine (reEncodes_iff_again takes msg.endPos_write).trans (Iff.trans ?_ kept)
  constructor
  · exact congrArg mobileIdentity
  · exact fun same => by rw [same]

end L3IMSIDetachIndication

/-! ## Service and re-establishment -/

section Head

variable {cksn type : UInt32}

theorem cksn_toNat (octet : UInt32) :
    ((octet >>> 4) &&& 0x07).toNat = octet.toNat / 2 ^ 4 % 2 ^ 3 := by
  have shifted : (octet >>> 4).toNat = octet.toNat / 2 ^ 4 :=
    Foundation.wide_toNat_shiftRight octet (by decide)
  rw [@Foundation.wide_toNat_and_mask 3 _ _ rfl, shifted]

theorem low_toNat (octet : UInt32) : (octet &&& 0x0F).toNat = octet.toNat % 2 ^ 4 :=
  Foundation.wide_toNat_and_mask octet rfl

/-- A sequence number above the low half of the octet. -/
theorem sequence_toNat (small : cksn.toNat < 2 ^ 3) (low : type.toNat < 2 ^ 4) :
    (((cksn &&& 0x07) <<< 4) ||| type).toNat = cksn.toNat * 2 ^ 4 + type.toNat := by
  have high : (cksn &&& 0x07).toNat = cksn.toNat % 2 ^ 3 := Foundation.wide_toNat_and_mask cksn rfl
  rw [Nat.mod_eq_of_lt small] at high
  rw [← high]
  exact Foundation.wide_packed_toNat 4 (by decide) low (by omega)

theorem cksn_eq {octet : UInt32} (small : cksn.toNat < 2 ^ 3) (low : type.toNat < 2 ^ 4)
    (packed : octet = ((cksn &&& 0x07) <<< 4) ||| type) : (octet >>> 4) &&& 0x07 = cksn := by
  apply UInt32.toNat_inj.mp
  rw [cksn_toNat, packed, sequence_toNat small low]
  omega

end Head

namespace L3CMServiceRequest

theorem endPos_write (msg : L3CMServiceRequest) : endPos 0 msg.write = msg.bodyLength * 8 := by
  rw [write, bodyLength]
  simp [Op.width]
  omega

/-- The elements are ones that reading leaves as they are. -/
structure Canonical (msg : L3CMServiceRequest) : Prop where
  cksn : msg.cksn.toNat < 2 ^ 3
  serviceType : msg.serviceType.toNat < 2 ^ 4
  classmark : msg.classmark.Canonical
  mobileIdentity : Parsed msg.mobileIdentity

theorem takesAll_write {msg : L3CMServiceRequest} (canonical : msg.Canonical) :
    TakesAll parse (fields 0 msg.write)
      (some { msg with mobileIdentity := rereadIdentity msg.mobileIdentity }) := by
  obtain ⟨sequence, service, classmark, identity⟩ := canonical
  have type : (msg.serviceType.toUInt32 &&& 0x0F).toNat = msg.serviceType.toNat := by
    rw [low_toNat, UInt8.toNat_toUInt32, Nat.mod_eq_of_lt service]
  have packed := sequence_toNat sequence (type.trans_lt service)
  have takes := (@takes_writeField
    (((msg.cksn &&& 0x07) <<< 4) ||| (msg.serviceType.toUInt32 &&& 0x0F)) 8 0
    (by decide) (by decide)).map UInt32.ofNat
  rw [Nat.mod_eq_of_lt (by rw [packed, type]; omega), Option.map_some, UInt32.ofNat_toNat] at takes
  rw [write]
  simp only [List.append_assoc]
  refine Takes.part_all takes.single ?_
  refine Takes.part_all (L3MobileStationClassmark2.takes_read classmark _) ?_
  refine Takes.part_all (L3MobileIdentity.takes_writeIdentity identity _) ?_
  have low : ((((msg.cksn &&& 0x07) <<< 4) ||| (msg.serviceType.toUInt32 &&& 0x0F)) &&&
      0x0F).toUInt8 = msg.serviceType := by
    apply UInt8.toNat_inj.mp
    rw [UInt32.toNat_toUInt8, low_toNat, packed, type]
    omega
  rw [cksn_eq sequence (type.trans_lt service) rfl, low]
  exact (takesAll_writeOctets _ msg.additionalIes _).yield _

/-- An accepted message is accepted again behind its writer exactly when its digits are kept. -/
theorem reEncodes_iff {octets : List UInt8} {msg : L3CMServiceRequest}
    (accepted : Accepts parse octets msg) :
    ReEncodes parse msg.write msg.bodyLength msg ↔ DigitsKept (behindClassmark octets) := by
  have leaves : Leaves parse fun msg read _ =>
      bitString octets = read → msg.Canonical ∧
        (rereadIdentity msg.mobileIdentity = msg.mobileIdentity ↔
          DigitsKept (behindClassmark octets)) := by
    refine (ensures_readUnsigned 8 (by simp)).leaves.bind fun head _ => ?_
    refine L3MobileStationClassmark2.ensures_read.leaves.bind fun classmark _ => ?_
    refine L3MobileIdentity.ensures_readIdentity.leaves.bind fun identity _ => ?_
    refine (ensures_tail _).leaves.bind fun tail _ => Leaves.pure fun _ => ?_
    rintro rfl ⟨ids, rfl, framed, parsed, kept⟩ ⟨canonical, length, value, rfl, size⟩ first bits
    obtain ⟨octet, rfl⟩ := exists_octet first.2
    have split : octets = octet :: length :: (value ++ (ids ++ tail)) := by
      apply bitString_injective
      rw [bits, List.append_nil, ← Foundation.bitString_append, ← Foundation.bitString_append,
        ← Foundation.bitString_append]
      rfl
    subst split
    refine ⟨⟨?_, ?_, canonical, parsed⟩, ?_⟩
    · rw [cksn_toNat]
      exact Nat.mod_lt _ (by decide)
    · rw [UInt32.toNat_toUInt8, low_toNat]
      omega
    · rw [rereadIdentity_eq_iff, kept]
      change _ ↔ DigitsKept ((value ++ (ids ++ tail)).drop length.toNat)
      rw [List.drop_left' size, L3MobileIdentity.digitsKept_append framed]
  obtain ⟨canonical, kept⟩ := accepts_leaves leaves accepted rfl
  refine (reEncodes_iff_again (takesAll_write canonical) msg.endPos_write).trans (Iff.trans ?_ kept)
  constructor
  · exact congrArg mobileIdentity
  · exact fun same => by rw [same]

end L3CMServiceRequest

namespace L3CMReestablishmentRequest

/-- The area, if it is there. -/
def foundLAI (msg : L3CMReestablishmentRequest) : Option L3LocationAreaIdentity :=
  if msg.haveLAI then some msg.lai else none

theorem endPos_write (msg : L3CMReestablishmentRequest) :
    endPos 0 msg.write = msg.bodyLength * 8 := by
  rw [write, bodyLength]
  cases msg.haveLAI with
  | false =>
      simp [Op.width]
      omega
  | true =>
      simp [Op.width, writeTLVLAI, L3LocationAreaIdentity.write, L3LocationAreaIdentity.lengthV]
      omega

/-- An area that is not there is the default one. -/
structure Canonical (msg : L3CMReestablishmentRequest) : Prop where
  cksn : msg.cksn.toNat < 2 ^ 3
  classmark : msg.classmark.Canonical
  mobileID : Parsed msg.mobileID
  lai : msg.lai.Canonical
  noLAI : msg.haveLAI = false → msg.lai = {}

/-- A canonical area comes back behind its identifier. -/
theorem takes_parseTLVLAI {lai : L3LocationAreaIdentity} (canonical : lai.Canonical) (pos : Nat) :
    Takes (parseTLVLAI 0x13) (fields pos (writeTLVLAI 0x13 lai)) (some lai) := by
  refine takes_parseTLV rfl ?_
  refine Takes.octetField ?_
  exact L3LocationAreaIdentity.codec.takes lai canonical _

theorem takesAll_write {msg : L3CMReestablishmentRequest} (canonical : msg.Canonical) :
    TakesAll parse (fields 0 msg.write)
      (some { msg with mobileID := rereadIdentity msg.mobileID }) := by
  obtain ⟨sequence, classmark, identity, area, default⟩ := canonical
  have masked : (msg.cksn &&& 0x07).toNat = msg.cksn.toNat % 2 ^ 3 :=
    Foundation.wide_toNat_and_mask msg.cksn rfl
  have small : (msg.cksn &&& 0x07).toNat < 2 ^ 8 := by omega
  have same : (msg.cksn &&& 0x07) &&& 0x07 = msg.cksn := by
    apply UInt32.toNat_inj.mp
    rw [@Foundation.wide_toNat_and_mask 3 _ _ rfl, masked, Nat.mod_mod, Nat.mod_eq_of_lt sequence]
  have written : msg.write = [.writeField (msg.cksn &&& 0x07) 8] ++
      ((.writeField (UInt32.ofNat msg.classmark.lengthV) 8 :: msg.classmark.write) ++
        (writeIdentity msg.mobileID ++ (writePresent (writeTLVLAI 0x13) msg.foundLAI ++ []))) := by
    rw [write, foundLAI]
    simp only [List.append_assoc, List.append_nil]
    cases msg.haveLAI with
    | false => rfl
    | true => rfl
  have found : msg.foundLAI.isSome = msg.haveLAI ∧ msg.foundLAI.getD {} = msg.lai := by
    rw [foundLAI]
    cases present : msg.haveLAI with
    | true => exact ⟨rfl, rfl⟩
    | false => exact ⟨rfl, (default present).symm⟩
  have all : ∀ lai ∈ msg.foundLAI, lai.Canonical := by
    intro lai member
    rw [foundLAI] at member
    split at member
    · exact Option.some.inj member ▸ area
    · cases member
  rw [written]
  refine Takes.part_all
    (Takes.single ((takes_writeField 0 (by decide) (by decide)).map UInt32.ofNat)) ?_
  rw [Nat.mod_eq_of_lt small, UInt32.ofNat_toNat]
  refine Takes.part_all (L3MobileStationClassmark2.takes_read classmark _) ?_
  refine Takes.part_all (L3MobileIdentity.takes_writeIdentity identity _) ?_
  refine TakesAll.optional_reread (fun lai member => takes_parseTLVLAI (all lai member) _)
    (fun lai _ => ⟨0x13, _, rfl, rfl⟩) (fun _ => ?_) rfl ?_ (by simp)
  · exact fun some_bit => absurd rfl some_bit
  · rw [Option.map_id', found.1, found.2, same]
    exact (Takes.pure _).all

/-- An accepted message is accepted again behind its writer exactly when its digits are kept. -/
theorem reEncodes_iff {octets : List UInt8} {msg : L3CMReestablishmentRequest}
    (accepted : Accepts parse octets msg) :
    ReEncodes parse msg.write msg.bodyLength msg ↔ DigitsKept (behindClassmark octets) := by
  have leaves : Leaves parse fun msg read _ =>
      bitString octets = read → msg.Canonical ∧
        (rereadIdentity msg.mobileID = msg.mobileID ↔ DigitsKept (behindClassmark octets)) := by
    refine (ensures_readUnsigned 8 (by simp)).leaves.bind fun head _ => ?_
    refine L3MobileStationClassmark2.ensures_read.leaves.bind fun classmark _ => ?_
    refine L3MobileIdentity.ensures_readIdentity.leaves.bind fun identity _ => ?_
    refine (leaves_readOptional (ensures_parseTLVLAI 0x13)).bind fun found more => Leaves.pure fun rest left => ?_
    rintro ⟨ids, rfl, framed, parsed, kept⟩ ⟨canonical, length, value, rfl, size⟩ first bits
    obtain ⟨octet, rfl⟩ := exists_octet first.2
    have behind : ∃ tail, more = bitString tail ∧ (found.getD {}).Canonical := by
      cases found with
      | none => exact ⟨[], left.1, L3LocationAreaIdentity.canonical_default⟩
      | some lai =>
          obtain ⟨⟨canonical, tail, rfl⟩, _⟩ := left
          exact ⟨tail, rfl, canonical⟩
    obtain ⟨tail, rfl, area⟩ := behind
    have split : octets = octet :: length :: (value ++ (ids ++ tail)) := by
      apply bitString_injective
      rw [bits, List.append_nil, ← Foundation.bitString_append, ← Foundation.bitString_append,
        ← Foundation.bitString_append]
      rfl
    subst split
    refine ⟨⟨?_, canonical, parsed, area, ?_⟩, ?_⟩
    · rw [@Foundation.wide_toNat_and_mask 3 _ _ rfl]
      exact Nat.mod_lt _ (by decide)
    · intro absent
      cases found with
      | none => rfl
      | some => cases absent
    · rw [rereadIdentity_eq_iff, kept]
      change _ ↔ DigitsKept ((value ++ (ids ++ tail)).drop length.toNat)
      rw [List.drop_left' size, L3MobileIdentity.digitsKept_append framed]
  obtain ⟨canonical, kept⟩ := accepts_leaves leaves accepted rfl
  refine (reEncodes_iff_again (takesAll_write canonical) msg.endPos_write).trans (Iff.trans ?_ kept)
  constructor
  · exact congrArg mobileID
  · exact fun same => by rw [same]

end L3CMReestablishmentRequest

/-! ## Location updating -/

namespace L3LocationUpdatingAccept

/-- The identity, if it is there. -/
def foundIdentity (msg : L3LocationUpdatingAccept) : Option L3MobileIdentity :=
  if msg.haveMobileIdentity then some msg.mobileIdentity else none

/-- The flag is an identifier of its own. -/
def writeFollowOnProceed (followOnProceed : Bool) : List Op :=
  if followOnProceed then [.writeField 0xA1 8] else []

theorem endPos_write (msg : L3LocationUpdatingAccept) :
    endPos 0 msg.write = msg.bodyLength * 8 := by
  rw [write, bodyLength]
  cases msg.haveMobileIdentity <;> cases msg.followOnProceed <;>
    simp [Op.width, writeTLVMI, L3LocationAreaIdentity.write, L3LocationAreaIdentity.lengthV] <;>
    omega

/-- An identity that is not there is the default one. -/
structure Canonical (msg : L3LocationUpdatingAccept) : Prop where
  lai : msg.lai.Canonical
  mobileIdentity : ∀ identity ∈ msg.foundIdentity, Parsed identity
  noIdentity : msg.haveMobileIdentity = false → msg.mobileIdentity = {}

theorem fields_followOn (followOnProceed : Bool) (pos : Nat) :
    fields pos (writeFollowOnProceed followOnProceed) =
      bitString (if followOnProceed then [0xA1] else []) := by
  cases followOnProceed <;> rfl

/-- The flag comes back at the end of the message. -/
theorem takesAll_followOn (followOnProceed : Bool) :
    TakesAll readFollowOnProceed (bitString (if followOnProceed then [0xA1] else []))
      (some followOnProceed) := by
  cases followOnProceed with
  | false =>
      intro before
      rw [readFollowOnProceed, toOption_bind, peek_between, if_neg (by decide),
        show bitString [] = [] from rfl, List.append_nil]
      rfl
  | true =>
      have ahead : peeked 8 (bitString [0xA1]) = 0xA1 := peeked_cons 0xA1 []
      have takes := (@takes_readField 8 (bitString [0xA1]) rfl (by decide) (by decide)).yield
        fun _ => true
      refine (Takes.peek (by decide) ?_).all
      rw [if_pos rfl, ahead]
      exact takes

theorem leaves_followOn :
    Leaves readFollowOnProceed fun followOnProceed read _ =>
      read = bitString (if followOnProceed then [0xA1] else []) := by
  refine (leaves_peekField 8).bind fun peek _ => ?_
  split
  case isTrue ahead =>
    refine (ensures_readField 8).leaves.bind fun _ front => Leaves.pure fun rest first peeks => ?_
    obtain ⟨octet, rfl⟩ := exists_octet first.1
    have same : octet = 0xA1 := by
      apply UInt8.toNat_inj.mp
      rw [← peeked_octet octet rest]
      rw [List.append_nil] at peeks
      exact peeks.2.symm.trans (eq_of_beq ahead)
    rw [peeks.1, same]
    rfl
  case isFalse => exact Leaves.pure fun _ peeks => by rw [peeks.1]; rfl

theorem takesAll_write {msg : L3LocationUpdatingAccept} (canonical : msg.Canonical) :
    TakesAll parse (fields 0 msg.write)
      (some { msg with mobileIdentity := rereadIdentity msg.mobileIdentity }) := by
  obtain ⟨area, parsed, default⟩ := canonical
  have written : msg.write = msg.lai.write ++ (writePresent (writeTLVMI 0x17) msg.foundIdentity ++
      writeFollowOnProceed msg.followOnProceed) := by
    rw [write, foundIdentity, writeFollowOnProceed, List.append_assoc]
    cases msg.haveMobileIdentity with
    | false => rfl
    | true => rfl
  have found : (msg.foundIdentity.map rereadIdentity).isSome = msg.haveMobileIdentity ∧
      (msg.foundIdentity.map rereadIdentity).getD {} = rereadIdentity msg.mobileIdentity := by
    rw [foundIdentity]
    cases present : msg.haveMobileIdentity with
    | true => exact ⟨rfl, rfl⟩
    | false =>
        rw [default present]
        exact ⟨rfl, rfl⟩
  have element (identity : L3MobileIdentity) (member : identity ∈ msg.foundIdentity) :
      Takes (parseTLVMI 0x17) (fields (endPos 0 msg.lai.write) (writeTLVMI 0x17 identity))
        (some (rereadIdentity identity)) := by
    refine takes_parseTLV rfl ?_
    exact L3MobileIdentity.takes_writeIdentity (parsed identity member) _
  rw [written]
  refine Takes.part_all (L3LocationAreaIdentity.codec.takes _ area 0) ?_
  refine TakesAll.optional_reread element (fun _ _ => ⟨0x17, _, rfl, rfl⟩) (fun _ => ?_)
    (fields_followOn msg.followOnProceed _) ?_ (by simp)
  · rw [lacks_octets_iff]
    intro octet first
    split at first
    · obtain rfl := Option.some.inj first
      rfl
    · cases first
  · rw [found.1, found.2]
    exact (takesAll_followOn msg.followOnProceed).yield _

/-- An accepted message is accepted again behind its writer exactly when its identity is kept. -/
theorem reEncodes_iff {octets : List UInt8} {msg : L3LocationUpdatingAccept}
    (accepted : Accepts parse octets msg) :
    ReEncodes parse msg.write msg.bodyLength msg ↔ TaggedKept (octets.drop 5) := by
  have identity : Ensures (parseTLVMI 0x17) fun identity read =>
      ∃ iei octets, read = bitString (iei :: octets) ∧ Framed octets ∧ Parsed identity ∧
        (rereadIdentity identity = identity ↔ DigitsKept octets) := by
    refine (ensures_parseTLV L3MobileIdentity.ensures_readIdentity).mono fun identity read holds => ?_
    obtain ⟨iei, more, rfl, octets, rfl, framed, parsed, kept⟩ := holds
    refine ⟨iei, octets, (Foundation.bitString_append [iei] octets).symm, framed, parsed, ?_⟩
    rw [rereadIdentity_eq_iff, kept]
  have leaves : Leaves parse fun msg read _ =>
      bitString octets = read → msg.Canonical ∧
        (rereadIdentity msg.mobileIdentity = msg.mobileIdentity ↔ TaggedKept (octets.drop 5)) := by
    refine L3LocationAreaIdentity.ensures_parse.leaves.bind fun lai _ => ?_
    refine (leaves_readOptional identity).bind fun found front => ?_
    refine leaves_followOn.bind fun followOn more => Leaves.pure fun rest read => ?_
    rintro left ⟨canonical, area, size, rfl⟩ bits
    rw [List.append_nil] at left bits
    subst read
    cases found with
    | none =>
        obtain ⟨rfl, lacks⟩ := left
        have split : octets = area ++ (if followOn then [0xA1] else []) := by
          apply bitString_injective
          rw [bits, List.nil_append, ← Foundation.bitString_append]
        have behind : octets.drop 5 = if followOn then [0xA1] else [] :=
          split ▸ List.drop_left' size
        rw [behind]
        refine ⟨⟨canonical, nofun, fun _ => rfl⟩, iff_of_true rfl ?_⟩
        cases followOn with
        | false => exact trivial
        | true => exact fun tagged => absurd tagged (by decide)
    | some identity =>
        obtain ⟨⟨iei, ids, rfl, framed, parsed, kept⟩, announced⟩ := left
        have split : octets = area ++ (iei :: (ids ++ (if followOn then [0xA1] else []))) := by
          apply bitString_injective
          rw [bits, ← List.cons_append, Foundation.bitString_append, Foundation.bitString_append]
        have behind : octets.drop 5 = iei :: (ids ++ if followOn then [0xA1] else []) :=
          split ▸ List.drop_left' size
        rw [peeked_front] at announced
        rw [behind]
        refine ⟨⟨canonical, ?_, nofun⟩, ?_⟩
        · intro other same
          exact Option.some.inj same ▸ parsed
        · rw [TaggedKept, imp_iff_right ((isTLVType_iff iei).mp announced),
            L3MobileIdentity.digitsKept_append framed]
          exact kept
  obtain ⟨canonical, kept⟩ := accepts_leaves leaves accepted rfl
  refine (reEncodes_iff_again (takesAll_write canonical) msg.endPos_write).trans (Iff.trans ?_ kept)
  constructor
  · exact congrArg mobileIdentity
  · exact fun same => by rw [same]

end L3LocationUpdatingAccept

namespace L3LocationUpdatingRequest

theorem endPos_write (msg : L3LocationUpdatingRequest) :
    endPos 0 msg.write = msg.bodyLength * 8 := by
  rw [write, bodyLength]
  simp [Op.width, L3LocationAreaIdentity.write, L3LocationAreaIdentity.lengthV,
    L3MobileStationClassmark1.write, L3MobileStationClassmark1.lengthV]
  omega

/-- The elements are ones that reading leaves as they are. -/
structure Canonical (msg : L3LocationUpdatingRequest) : Prop where
  cksn : msg.cksn.toNat < 2 ^ 3
  updateType : msg.updateType.toNat < 2 ^ 2
  lai : msg.lai.Canonical
  classmark : msg.classmark.Canonical
  mobileIdentity : Parsed msg.mobileIdentity

/-- The low half of the first octet. -/
def lowHalf (followOnRequest : Bool) (updateType : UInt32) : UInt32 :=
  (if followOnRequest then 0x08 else 0) ||| (updateType &&& 0x03)

theorem lowHalf_toNat {updateType : UInt32} (followOnRequest : Bool)
    (small : updateType.toNat < 2 ^ 2) :
    (lowHalf followOnRequest updateType).toNat =
      (if followOnRequest then 8 else 0) + updateType.toNat := by
  have masked : (updateType &&& 0x03).toNat = updateType.toNat % 2 ^ 2 :=
    Foundation.wide_toNat_and_mask updateType rfl
  rw [Nat.mod_eq_of_lt small] at masked
  rw [lowHalf, ← masked]
  cases followOnRequest with
  | false =>
      rw [if_neg Bool.false_ne_true, if_neg Bool.false_ne_true, Nat.zero_add]
      exact congrArg UInt32.toNat (UInt32.zero_or ..)
  | true =>
      rw [if_pos rfl, if_pos rfl]
      exact @Foundation.wide_packed_toNat 1 (updateType &&& 0x03) 3 (by decide) (by omega) (by decide)

theorem takesAll_write {msg : L3LocationUpdatingRequest} (canonical : msg.Canonical) :
    TakesAll parse (fields 0 msg.write)
      (some { msg with mobileIdentity := rereadIdentity msg.mobileIdentity }) := by
  obtain ⟨sequence, update, area, classmark, identity⟩ := canonical
  have half := lowHalf_toNat msg.followOnRequest update
  have low : (lowHalf msg.followOnRequest msg.updateType).toNat < 2 ^ 4 := by
    rw [half]
    split <;> omega
  have packed := sequence_toNat sequence low
  have written : msg.write =
      [.writeField (((msg.cksn &&& 0x07) <<< 4) ||| lowHalf msg.followOnRequest msg.updateType) 8] ++
        (msg.lai.write ++ (msg.classmark.write ++
          (writeIdentity msg.mobileIdentity ++ writeOctets msg.additionalIes))) := by
    rw [write, lowHalf, ← UInt32.or_assoc]
    simp only [List.append_assoc]
  rw [written]
  generalize head : ((msg.cksn &&& 0x07) <<< 4) ||| lowHalf msg.followOnRequest msg.updateType =
    octet at *
  have small : octet.toNat < 2 ^ 8 := by omega
  refine Takes.part_all
    (Takes.single ((takes_writeField 0 (by decide) (by decide)).map UInt32.ofNat)) ?_
  rw [Nat.mod_eq_of_lt small, UInt32.ofNat_toNat]
  refine Takes.part_all (L3LocationAreaIdentity.codec.takes _ area _) ?_
  refine Takes.part_all (L3MobileStationClassmark1.takes_write classmark _) ?_
  refine Takes.part_all (L3MobileIdentity.takes_writeIdentity identity _) ?_
  have followOn : ((octet >>> 3) &&& 0x01 != 0) = msg.followOnRequest := by
    have shifted : (octet >>> 3).toNat = octet.toNat / 2 ^ 3 :=
      Foundation.wide_toNat_shiftRight octet (by decide)
    have bit : ((octet >>> 3) &&& 0x01).toNat = (octet >>> 3).toNat % 2 ^ 1 :=
      Foundation.wide_toNat_and_mask _ rfl
    have nonzero : ((octet >>> 3) &&& 0x01) ≠ 0 ↔ msg.followOnRequest = true := by
      rw [Ne, ← UInt32.toNat_inj, bit, shifted, packed, half]
      split <;> simp_all <;> omega
    rw [Bool.eq_iff_iff, bne_iff_ne, nonzero]
  have update : octet &&& 0x03 = msg.updateType := by
    apply UInt32.toNat_inj.mp
    rw [@Foundation.wide_toNat_and_mask 2 _ _ rfl, packed, half]
    split <;> omega
  rw [cksn_eq sequence low head.symm, followOn, update]
  exact (takesAll_writeOctets _ msg.additionalIes _).yield _

/-- An accepted message is accepted again behind its writer exactly when its digits are kept. -/
theorem reEncodes_iff {octets : List UInt8} {msg : L3LocationUpdatingRequest}
    (accepted : Accepts parse octets msg) :
    ReEncodes parse msg.write msg.bodyLength msg ↔ DigitsKept (octets.drop 7) := by
  have leaves : Leaves parse fun msg read _ =>
      bitString octets = read → msg.Canonical ∧
        (rereadIdentity msg.mobileIdentity = msg.mobileIdentity ↔ DigitsKept (octets.drop 7)) := by
    refine (ensures_readUnsigned 8 (by simp)).leaves.bind fun head _ => ?_
    refine L3LocationAreaIdentity.ensures_parse.leaves.bind fun lai _ => ?_
    refine L3MobileStationClassmark1.ensures_parse.leaves.bind fun classmark _ => ?_
    refine L3MobileIdentity.ensures_readIdentity.leaves.bind fun identity _ => ?_
    refine (ensures_tail _).leaves.bind fun tail _ => Leaves.pure fun _ => ?_
    rintro rfl ⟨ids, rfl, framed, parsed, kept⟩ ⟨canonical, mark, rfl⟩ ⟨code, area, size, rfl⟩
      first bits
    obtain ⟨octet, rfl⟩ := exists_octet first.2
    have split : octets = ([octet] ++ (area ++ [mark])) ++ (ids ++ tail) := by
      apply bitString_injective
      rw [bits, List.append_nil]
      simp only [Foundation.bitString_append, List.append_assoc]
    have behind : octets.drop 7 = ids ++ tail := by
      rw [split]
      apply List.drop_left'
      rw [List.length_append, List.length_append, size]
      rfl
    refine ⟨⟨?_, ?_, code, canonical, parsed⟩, ?_⟩
    · rw [cksn_toNat]
      exact Nat.mod_lt _ (by decide)
    · rw [@Foundation.wide_toNat_and_mask 2 _ _ rfl]
      exact Nat.mod_lt _ (by decide)
    · rw [rereadIdentity_eq_iff, kept, behind, L3MobileIdentity.digitsKept_append framed]
  obtain ⟨canonical, kept⟩ := accepts_leaves leaves accepted rfl
  refine (reEncodes_iff_again (takesAll_write canonical) msg.endPos_write).trans (Iff.trans ?_ kept)
  constructor
  · exact congrArg mobileIdentity
  · exact fun same => by rw [same]

end L3LocationUpdatingRequest

/-! ## What is written again -/

/-- Every message that is accepted with nothing left over is written with its announced length and
accepted again, unless the first digit of its identity is no decimal one and stands behind another
such nibble. -/
theorem reEncoded_iff (octets : List UInt8) :
    (∀ msg, Accepts L3IMSIDetachIndication.parse octets msg →
      (ReEncodes L3IMSIDetachIndication.parse msg.write msg.bodyLength msg ↔
        DigitsKept (octets.drop 1))) ∧
    (∀ msg, Accepts L3CMServiceRequest.parse octets msg →
      (ReEncodes L3CMServiceRequest.parse msg.write msg.bodyLength msg ↔
        DigitsKept (behindClassmark octets))) ∧
    (∀ msg, Accepts L3CMReestablishmentRequest.parse octets msg →
      (ReEncodes L3CMReestablishmentRequest.parse msg.write msg.bodyLength msg ↔
        DigitsKept (behindClassmark octets))) ∧
    (∀ msg, Accepts L3LocationUpdatingAccept.parse octets msg →
      (ReEncodes L3LocationUpdatingAccept.parse msg.write msg.bodyLength msg ↔
        TaggedKept (octets.drop 5))) ∧
    (∀ msg, Accepts L3LocationUpdatingRequest.parse octets msg →
      (ReEncodes L3LocationUpdatingRequest.parse msg.write msg.bodyLength msg ↔
        DigitsKept (octets.drop 7))) :=
  ⟨fun _ => L3IMSIDetachIndication.reEncodes_iff, fun _ => L3CMServiceRequest.reEncodes_iff,
    fun _ => L3CMReestablishmentRequest.reEncodes_iff,
    fun _ => L3LocationUpdatingAccept.reEncodes_iff,
    fun _ => L3LocationUpdatingRequest.reEncodes_iff⟩

/-- An IMSI of the nibbles 10, 10 and 1 behind a classmark. -/
theorem detached_digit_lost :
    ∃ msg, Accepts L3IMSIDetachIndication.parse [0x00, 0x02, 0xA9, 0x1A] msg ∧
      ¬ ReEncodes L3IMSIDetachIndication.parse msg.write msg.bodyLength msg := by
  have accepted : Accepts L3IMSIDetachIndication.parse [0x00, 0x02, 0xA9, 0x1A]
      { mobileIdentity := { type := .imsi, digits := [':', '1'] } } := by
    apply ok_of_toOption
    with_unfolding_all decide
  refine ⟨_, accepted, fun encoded => ?_⟩
  have kept := (L3IMSIDetachIndication.reEncodes_iff accepted).mp encoded
  exact kept (.inl rfl) (by decide) ⟨by decide, 0x1A, rfl, by decide⟩

end Gsml3
