import Gsml3.Common.ClassmarkCodec
import Gsml3.RR.ReEmission

/-!
# Paging messages written again

A paging message comes back from what is written for it unless an identity loses a digit, which
the octets that it was parsed from tell.
-/

namespace Gsml3

open BitWriter (Op fields endPos)
open FieldParser
open Foundation (bitString)
open Stack (L3MobileIdentity)
open Stack.L3MobileIdentity (DigitsKept Framed Parsed behind readIdentity reread)

/-! ## An identity behind an identifier -/

/-- The spare bit of the identifier is not looked at. -/
def announcesIdentity (peek : Nat) : Bool :=
  peek &&& 0x7F == 0x17

/-- An identity behind its identifier. -/
def readTagged : FieldParser L3MobileIdentity := do
  let _ ← readField 8
  readIdentity

/-- An identity behind its identifier. -/
def writeTagged (identity : L3MobileIdentity) : List Op :=
  .writeField 0x17 8 :: writeIdentity identity

/-- The identity that is read from what is written for one that was read. -/
def rereadIdentity (identity : L3MobileIdentity) : L3MobileIdentity :=
  { identity with digits := reread identity.digits }

/-- No digit is lost of an identity in front of these octets, if there is one. -/
def TaggedKept : List UInt8 → Prop
  | iei :: octets => iei &&& 0x7F = 0x17 → DigitsKept octets
  | [] => True

/-- An identity comes back when its digits do. -/
theorem rereadIdentity_eq_iff (identity : L3MobileIdentity) :
    rereadIdentity identity = identity ↔ reread identity.digits = identity.digits := by
  constructor
  · exact congrArg L3MobileIdentity.digits
  · intro kept
    rw [rereadIdentity, kept]

/-- The identifier of an identity, whatever its first bit. -/
theorem announcesIdentity_iff (iei : UInt8) :
    announcesIdentity iei.toNat = true ↔ iei &&& 0x7F = 0x17 := by
  rw [announcesIdentity, beq_iff_eq, ← UInt8.toNat_inj, UInt8.toNat_and]
  rfl

/-- An identity that is read behind its identifier. -/
theorem ensures_readTagged :
    Ensures readTagged fun identity read =>
      ∃ iei octets, read = bitString (iei :: octets) ∧ Framed octets ∧ Parsed identity ∧
        (rereadIdentity identity = identity ↔ DigitsKept octets) := by
  refine (ensures_readField 8).bind fun _ front first => ?_
  obtain ⟨iei, rfl⟩ := exists_octet first.1
  refine L3MobileIdentity.ensures_readIdentity.mono fun identity read holds => ?_
  obtain ⟨octets, rfl, framed, parsed, kept⟩ := holds
  refine ⟨iei, octets, (Foundation.bitString_append [iei] octets).symm, framed, parsed, ?_⟩
  rw [rereadIdentity_eq_iff, kept]

/-- A parsed identity comes back behind its identifier. -/
theorem takes_writeTagged {identity : L3MobileIdentity} (parsed : Parsed identity) (pos : Nat) :
    Takes readTagged (fields pos (writeTagged identity)) (some (rereadIdentity identity)) := by
  refine Takes.skipped ?_ (by simp)
  exact L3MobileIdentity.takes_writeIdentity parsed _

section Tagged

variable {α : Type} {mk : Option L3MobileIdentity → List UInt8 → α}

/-- Another identity and the octets that are left. -/
theorem leaves_tagged (message : String) :
    Leaves (do
      let found ← readOptional 8 announcesIdentity readTagged
      let tail ← readOpaqueTail message
      pure (mk found tail)) fun msg read rest =>
        rest = [] ∧ ∃ octets found tail, read = bitString octets ∧ msg = mk found tail ∧
          (∀ identity ∈ found, Parsed identity) ∧
          (found = none → Lacks 8 announcesIdentity (bitString tail)) ∧
          (found.map rereadIdentity = found ↔ TaggedKept octets) := by
  refine (leaves_readOptional ensures_readTagged).bind fun found front => ?_
  refine (leaves_tail message).bind fun tail more => Leaves.pure fun rest left holds => ?_
  obtain ⟨rfl, rfl⟩ := left
  rw [List.append_nil] at holds ⊢
  cases found with
  | none =>
      obtain ⟨rfl, lacks⟩ := holds
      rw [List.append_nil] at lacks
      refine ⟨rfl, tail, none, tail, rfl, rfl, nofun, fun _ => lacks, iff_of_true rfl ?_⟩
      cases tail with
      | nil => exact trivial
      | cons iei tail =>
          intro tagged
          have announced := (announcesIdentity_iff iei).mpr tagged
          rw [(lacks_octets_iff _).mp lacks iei rfl] at announced
          cases announced
  | some identity =>
      obtain ⟨⟨iei, octets, rfl, framed, parsed, kept⟩, announced⟩ := holds
      refine ⟨rfl, iei :: (octets ++ tail), some identity, tail, ?_, rfl, ?_, nofun, ?_⟩
      · exact (Foundation.bitString_append (iei :: octets) tail).symm
      · intro other same
        exact Option.some.inj same ▸ parsed
      · rw [peeked_front, announcesIdentity_iff] at announced
        rw [Option.map_some, Option.some_inj, kept, TaggedKept, imp_iff_right announced,
          L3MobileIdentity.digitsKept_append framed]

/-- An identity that may be there, and the octets left. -/
theorem takesAll_tagged (message : String) {found : Option L3MobileIdentity} {tail : List UInt8}
    (parsed : ∀ identity ∈ found, Parsed identity)
    (lacks : found = none → Lacks 8 announcesIdentity (bitString tail)) (pos : Nat) :
    TakesAll (do
      let found ← readOptional 8 announcesIdentity readTagged
      let tail ← readOpaqueTail message
      pure (mk found tail)) (fields pos (writePresent writeTagged found ++ writeOctets tail))
        (some (mk (found.map rereadIdentity) tail)) := by
  refine TakesAll.optional_reread
    (fun identity member => takes_writeTagged (parsed identity member) pos)
    (fun _ _ => ⟨0x17, _, rfl, rfl⟩) lacks (fields_writeOctets tail _) ?_ (by simp)
  exact (takesAll_tail message tail).yield _

end Tagged

/-! ## Paging requests -/

/-- What is read of a message and what is read of its octets. -/
theorem reEmits_iff_again {α : Type} {parser : FieldParser α} {write front : List Op}
    {tail : List UInt8} {bodyLength : Nat} {msg again : α}
    (takes : TakesAll parser (fields 0 write) (some again)) (length : endPos 0 write = bodyLength * 8)
    (ends : write = front ++ writeOctets tail) :
    ReEmits parser write bodyLength tail msg ↔ again = msg := by
  have whole : 8 ∣ endPos 0 write := ⟨bodyLength, by rw [length, Nat.mul_comm]⟩
  rw [← bitString_octetsOf whole] at takes
  constructor
  · intro emitted
    exact Option.some.inj (takes.parse_eq.symm.trans emitted.roundTrips.restored)
  · rintro rfl
    refine ⟨⟨length, takes.parse_eq⟩, ?_⟩
    subst ends
    exact suffix_octetsOf length

theorem PagingHead.ensures_octet :
    Ensures PagingHead.parse fun head read =>
      head.Canonical ∧ ∃ octet, read = bitString [octet] := by
  have mode : Ensures L3PageMode.parse fun _ read => read.length = 4 := by
    refine (ensures_readNarrow 4 (by simp)).bind fun value read consumed => ?_
    split
    · exact Ensures.throw _
    · exact Ensures.pure (by rw [List.append_nil, consumed.2])
  have length : Ensures PagingHead.parse fun _ read => read.length = 8 := by
    refine (ensures_readField 2).bind fun _ _ second => ?_
    refine (ensures_readField 2).bind fun _ _ first => ?_
    refine mode.bind fun _ _ third => Ensures.pure ?_
    simp only [List.length_append, second.1, first.1, third, List.length_nil]
  exact (PagingHead.codec.returns.and length).mono fun _ _ holds => ⟨holds.1, exists_octet holds.2⟩

theorem parse_leaves {α : Type} {parser : FieldParser α} {post : α → List Bool → List Bool → Prop}
    {octets : List UInt8} {value : α} (leaves : Leaves parser post)
    (parsed : parse parser octets = some value) :
    ∃ read rest, bitString octets = read ++ rest ∧ post value read rest := by
  unfold parse at parsed
  cases run : parser (.between [] (bitString octets)) with
  | error =>
      rw [run] at parsed
      cases parsed
  | ok outcome =>
      obtain ⟨result, last⟩ := outcome
      rw [run] at parsed
      obtain rfl := Option.some.inj parsed
      obtain ⟨read, rest, split, _, holds⟩ := leaves _ _ _ _ run
      exact ⟨read, rest, split, holds⟩

namespace L3PagingRequestType1

/-- A message of these parts. -/
def ofParts (head : PagingHead) (first : L3MobileIdentity) (second : Option L3MobileIdentity)
    (additionalIes : List UInt8) : L3PagingRequestType1 where
  mobileIds := #v[first, second.getD {}]
  mobileIdCount := if second.isSome then 2 else 1
  channelsNeeded := head.channelsNeeded
  pageMode := head.pageMode
  additionalIes := additionalIes

/-- The head, one identity, the second one when announced, and what is left. -/
def parse : FieldParser L3PagingRequestType1 := do
  let head ← PagingHead.parse
  let first ← readIdentity
  let second ← readOptional 8 announcesIdentity readTagged
  let additionalIes ← readOpaqueTail "truncated rest octets"
  pure (ofParts head first second additionalIes)

variable {head : PagingHead} {first : L3MobileIdentity} {second : Option L3MobileIdentity}
  {tail : List UInt8}

theorem write_ofParts : (ofParts head first second tail).write =
    (head.write ++ writeIdentity first ++ writePresent writeTagged second) ++ writeOctets tail := by
  cases second with
  | none => rfl
  | some => rfl

/-- The parts of a page come back. -/
theorem takesAll_ofParts (canonical : head.Canonical) (parsed : Parsed first)
    (others : ∀ identity ∈ second, Parsed identity)
    (lacks : second = none → Lacks 8 announcesIdentity (bitString tail)) :
    TakesAll parse (fields 0 (ofParts head first second tail).write)
      (some (ofParts head (rereadIdentity first) (second.map rereadIdentity) tail)) := by
  rw [write_ofParts]
  simp only [List.append_assoc]
  refine Takes.part_all (PagingHead.codec.takes head canonical 0) ?_
  refine Takes.part_all (L3MobileIdentity.takes_writeIdentity parsed _) ?_
  exact takesAll_tagged _ others lacks _

theorem ofParts_reread :
    ofParts head (rereadIdentity first) (second.map rereadIdentity) tail =
        ofParts head first second tail ↔
      rereadIdentity first = first ∧ second.map rereadIdentity = second := by
  constructor
  · intro same
    have ids := congrArg mobileIds same
    have one : rereadIdentity first = first := congrArg (fun ids => ids[0]) ids
    have two : (second.map rereadIdentity).getD {} = second.getD {} :=
      congrArg (fun ids => ids[1]) ids
    refine ⟨one, ?_⟩
    cases second with
    | none => rfl
    | some identity => exact congrArg some two
  · rintro ⟨one, two⟩
    rw [one, two]

/-- A page is emitted again as it was read when both identities keep their digits. -/
theorem reEmits_iff {octets : List UInt8} {msg : L3PagingRequestType1}
    (parsed : FieldParser.parse parse octets = some msg) :
    ReEmits parse msg.write msg.bodyLength msg.additionalIes msg ↔
      DigitsKept (octets.drop 1) ∧ TaggedKept (behind (octets.drop 1)) := by
  have leaves : Leaves parse fun msg read rest =>
      rest = [] ∧ (bitString octets = read →
        (ReEmits parse msg.write msg.bodyLength msg.additionalIes msg ↔
          DigitsKept (octets.drop 1) ∧ TaggedKept (behind (octets.drop 1)))) := by
    refine PagingHead.ensures_octet.leaves.bind fun head _ => ?_
    refine L3MobileIdentity.ensures_readIdentity.leaves.bind fun first _ => ?_
    refine (@leaves_tagged _ (ofParts head first) _).mono fun msg _ rest left => ?_
    rintro ⟨ids, rfl, framed, first_parsed, kept⟩ ⟨canonical, octet, rfl⟩
    obtain ⟨rfl, more, second, tail, rfl, rfl, others, lacks, tagged⟩ := left
    refine ⟨rfl, fun bits => ?_⟩
    have split : octets = octet :: (ids ++ more) := by
      apply bitString_injective
      rw [bits, ← Foundation.bitString_append, ← Foundation.bitString_append]
      rfl
    subst split
    refine (reEmits_iff_again (takesAll_ofParts canonical first_parsed others lacks)
      (endPos_write _) write_ofParts).trans ?_
    rw [ofParts_reread, rereadIdentity_eq_iff, kept, tagged]
    change _ ↔ DigitsKept (ids ++ more) ∧ TaggedKept (behind (ids ++ more))
    rw [L3MobileIdentity.digitsKept_append framed, L3MobileIdentity.behind_append framed]
  obtain ⟨read, rest, bits, rfl, holds⟩ := parse_leaves leaves parsed
  exact holds (bits.trans (List.append_nil read))

end L3PagingRequestType1

namespace L3PagingRequestType2

/-- A message of these parts. -/
def ofParts (head : PagingHead) (tmsis : Vector UInt32 2) (third : Option L3MobileIdentity)
    (additionalIes : List UInt8) : L3PagingRequestType2 where
  tmsis := tmsis
  channelsNeeded := head.channelsNeeded
  pageMode := head.pageMode
  thirdIdentity := third.getD {}
  haveThirdIdentity := third.isSome
  additionalIes := additionalIes

/-- The head, two TMSIs, the third identity when announced, and what is left. -/
def parse : FieldParser L3PagingRequestType2 := do
  let head ← PagingHead.parse
  let tmsis ← readTMSIs 2
  let third ← readOptional 8 announcesIdentity readTagged
  let additionalIes ← readOpaqueTail "truncated rest octets"
  pure (ofParts head tmsis third additionalIes)

variable {head : PagingHead} {tmsis : Vector UInt32 2} {third : Option L3MobileIdentity}
  {tail : List UInt8}

theorem write_ofParts : (ofParts head tmsis third tail).write =
    (head.write ++ writeTMSIs tmsis.toList ++ writePresent writeTagged third) ++
      writeOctets tail := by
  cases third with
  | none => rfl
  | some => rfl

/-- The parts of a page come back. -/
theorem takesAll_ofParts (canonical : head.Canonical)
    (others : ∀ identity ∈ third, Parsed identity)
    (lacks : third = none → Lacks 8 announcesIdentity (bitString tail)) :
    TakesAll parse (fields 0 (ofParts head tmsis third tail).write)
      (some (ofParts head tmsis (third.map rereadIdentity) tail)) := by
  rw [write_ofParts]
  simp only [List.append_assoc]
  refine Takes.part_all (PagingHead.codec.takes head canonical 0) ?_
  refine Takes.part_all (takes_readTMSIs tmsis _) ?_
  exact takesAll_tagged _ others lacks _

theorem ofParts_reread :
    ofParts head tmsis (third.map rereadIdentity) tail = ofParts head tmsis third tail ↔
      third.map rereadIdentity = third := by
  constructor
  · intro same
    have one := congrArg thirdIdentity same
    cases third with
    | none => rfl
    | some identity => exact congrArg some one
  · exact fun kept => by rw [kept]

/-- A page is emitted again as it was read when the third identity keeps its digits. -/
theorem reEmits_iff {octets : List UInt8} {msg : L3PagingRequestType2}
    (parsed : FieldParser.parse parse octets = some msg) :
    ReEmits parse msg.write msg.bodyLength msg.additionalIes msg ↔
      TaggedKept (octets.drop 9) := by
  have leaves : Leaves parse fun msg read rest =>
      rest = [] ∧ (bitString octets = read →
        (ReEmits parse msg.write msg.bodyLength msg.additionalIes msg ↔
          TaggedKept (octets.drop 9))) := by
    refine PagingHead.ensures_octet.leaves.bind fun head _ => ?_
    refine (ensures_readTMSIs 2).leaves.bind fun tmsis _ => ?_
    refine (@leaves_tagged _ (ofParts head tmsis) _).mono fun msg _ rest left => ?_
    rintro length ⟨canonical, octet, rfl⟩
    obtain ⟨rfl, more, third, tail, rfl, rfl, others, lacks, tagged⟩ := left
    refine ⟨rfl, fun bits => ?_⟩
    obtain ⟨identities, size, rfl⟩ := @exists_octets 8 _ length
    have split : octets = (octet :: identities) ++ more := by
      apply bitString_injective
      rw [bits, Foundation.bitString_append, ← List.append_assoc, ← Foundation.bitString_append]
      rfl
    subst split
    refine (reEmits_iff_again (takesAll_ofParts canonical others lacks)
      (endPos_write _) write_ofParts).trans ?_
    rw [ofParts_reread, tagged, List.drop_left' (congrArg (· + 1) size)]
  obtain ⟨read, rest, bits, rfl, holds⟩ := parse_leaves leaves parsed
  exact holds (bits.trans (List.append_nil read))

end L3PagingRequestType2

/-! ## Paging response -/

namespace L3PagingResponse

/-- The additional update parameter and the octets behind it. -/
def readUpdateParameter : FieldParser (UInt8 × List UInt8) := do
  let parameter ← readNarrow 8
  let additionalIes ← readOpaqueTail "truncated rest octets"
  pure (parameter, additionalIes)

/-- A message of these parts. -/
def ofParts (cksn : UInt32) (classmark : L3MobileStationClassmark2) (mobileId : L3MobileIdentity)
    (rest : Option (UInt8 × List UInt8)) : L3PagingResponse where
  cksn := cksn &&& 0x0F
  classmark := classmark
  mobileId := mobileId
  haveAdditionalUpdateParameter := rest.isSome
  additionalUpdateParameter := (rest.map Prod.fst).getD 0
  additionalIes := (rest.map Prod.snd).getD []

/-- The key sequence number, the classmark and the identity, and what is left. -/
def parse : FieldParser L3PagingResponse := do
  let _ ← readField 4
  let cksn ← readUnsigned 4
  let classmark ← L3MobileStationClassmark2.read
  let mobileId ← readIdentity
  let rest ← readIfMore readUpdateParameter
  pure (ofParts cksn classmark mobileId rest)

/-- The octets behind the classmark. -/
def behindClassmark : List UInt8 → List UInt8
  | _ :: length :: octets => octets.drop length.toNat
  | _ => []

variable {cksn : UInt32} {classmark : L3MobileStationClassmark2} {mobileId : L3MobileIdentity}
  {rest : Option (UInt8 × List UInt8)}

theorem masked (small : cksn.toNat < 2 ^ 4) : cksn &&& 0x0F = cksn := by
  apply UInt32.toNat_inj.mp
  rw [UInt32.toNat_and]
  exact (Nat.and_two_pow_sub_one_eq_mod cksn.toNat 4).trans (Nat.mod_eq_of_lt small)

/-- The parts of a response come back. -/
theorem takesAll_ofParts (small : cksn.toNat < 2 ^ 4) (canonical : classmark.Canonical)
    (parsed : Parsed mobileId) :
    TakesAll parse (fields 0 (ofParts cksn classmark mobileId rest).write)
      (some (ofParts cksn classmark (rereadIdentity mobileId) rest)) := by
  have written : (ofParts cksn classmark mobileId rest).write =
      .writeField 0 4 :: .writeField cksn 4 ::
        ((.writeField (UInt32.ofNat classmark.lengthV) 8 :: classmark.write) ++
          (writeIdentity mobileId ++ (writePresent (fun rest =>
            .writeField rest.1.toUInt32 8 :: writeOctets rest.2) rest))) := by
    rw [write, ofParts, masked small, masked small]
    simp only [List.append_assoc]
    cases rest with
    | none => rfl
    | some => rfl
  have sequence := (@takes_writeField cksn 4 4 (by decide) (by decide)).map UInt32.ofNat
  rw [Nat.mod_eq_of_lt small, Option.map_some, UInt32.ofNat_toNat] at sequence
  rw [written]
  refine (takes_writeField 0 (by decide) (by decide)).bind_all ?_
  refine sequence.bind_all ?_
  refine Takes.part_all (L3MobileStationClassmark2.takes_read canonical _) ?_
  refine Takes.part_all (L3MobileIdentity.takes_writeIdentity parsed _) ?_
  cases rest with
  | none => exact TakesAll.ifMore_none (Takes.pure _).all
  | some rest =>
      obtain ⟨parameter, additionalIes⟩ := rest
      have takes (pos : Nat) : TakesAll readUpdateParameter
          (fields pos (.writeField parameter.toUInt32 8 :: writeOctets additionalIes))
          (some (parameter, additionalIes)) := by
        refine TakesAll.narrow ?_ parameter.toNat_lt (by simp)
        exact (takesAll_writeOctets _ additionalIes _).yield _
      exact TakesAll.ifMore (List.cons_ne_nil _ _) ((takes _).yield fun rest =>
        ofParts cksn classmark (rereadIdentity mobileId) (some rest))

theorem ofParts_reread :
    ofParts cksn classmark (rereadIdentity mobileId) rest = ofParts cksn classmark mobileId rest ↔
      rereadIdentity mobileId = mobileId := by
  constructor
  · exact congrArg L3PagingResponse.mobileId
  · exact fun kept => by rw [kept]

theorem leaves_readUpdateParameter :
    Leaves readUpdateParameter fun _ read rest =>
      rest = [] ∧ ∃ octets, read = bitString octets := by
  refine (ensures_readNarrow 8 (by simp)).leaves.bind fun parameter _ => ?_
  refine (leaves_tail _).bind fun tail _ => Leaves.pure fun rest left octet => ?_
  obtain ⟨rfl, rfl⟩ := left
  obtain ⟨first, _, rfl⟩ := @exists_octets 1 _ octet.2
  refine ⟨rfl, first ++ tail, ?_⟩
  rw [List.append_nil, Foundation.bitString_append]

/-- A response is emitted again as it was read when the identity keeps its digits. -/
theorem reEmits_iff {octets : List UInt8} {msg : L3PagingResponse}
    (parsed : FieldParser.parse parse octets = some msg) :
    ReEmits parse msg.write msg.bodyLength msg.additionalIes msg ↔
      DigitsKept (behindClassmark octets) := by
  have leaves : Leaves parse fun msg read rest =>
      rest = [] ∧ (bitString octets = read →
        (ReEmits parse msg.write msg.bodyLength msg.additionalIes msg ↔
          DigitsKept (behindClassmark octets))) := by
    refine (ensures_readField 4).leaves.bind fun _ spare => ?_
    refine (ensures_readUnsigned 4 (by simp)).leaves.bind fun cksn sequence => ?_
    refine L3MobileStationClassmark2.ensures_read.leaves.bind fun classmark _ => ?_
    refine L3MobileIdentity.ensures_readIdentity.leaves.bind fun mobileId _ => ?_
    refine (leaves_ifMore leaves_readUpdateParameter).bind fun found more => ?_
    refine Leaves.pure fun rest left => ?_
    rintro ⟨ids, rfl, framed, first_parsed, kept⟩ ⟨canonical, length, value, rfl, size⟩ small zero
    have behind : rest = [] ∧ ∃ octets, more = bitString octets := by
      cases found with
      | none => exact ⟨left.2, [], left.1⟩
      | some => exact left
    obtain ⟨rfl, more, rfl⟩ := behind
    refine ⟨rfl, fun bits => ?_⟩
    have head : (spare ++ sequence).length = 8 := by
      rw [List.length_append, zero.1, small.2]
    obtain ⟨octet, same⟩ := exists_octet head
    have split : octets = octet :: length :: (value ++ (ids ++ more)) := by
      apply bitString_injective
      rw [bits, List.append_nil, ← List.append_assoc, same, ← Foundation.bitString_append,
        ← Foundation.bitString_append, ← Foundation.bitString_append]
      rfl
    subst split
    refine (reEmits_iff_again (takesAll_ofParts small.1 canonical first_parsed)
      (endPos_write _) rfl).trans ?_
    rw [ofParts_reread, rereadIdentity_eq_iff, kept]
    change _ ↔ DigitsKept ((value ++ (ids ++ more)).drop length.toNat)
    rw [List.drop_left' size, L3MobileIdentity.digitsKept_append framed]
  obtain ⟨read, rest, bits, rfl, holds⟩ := parse_leaves leaves parsed
  exact holds (bits.trans (List.append_nil read))

end L3PagingResponse

/-! ## What is written again -/

/-- Every accepted message comes back from what is written for it, with its tail at the end, unless
the first digit of an identity is no decimal one and stands behind another such nibble. -/
theorem reEmitted_iff (octets : List UInt8) :
    (∀ msg, parse L3PagingRequestType1.parse octets = some msg →
      (ReEmits L3PagingRequestType1.parse msg.write msg.bodyLength msg.additionalIes msg ↔
        DigitsKept (octets.drop 1) ∧ TaggedKept (behind (octets.drop 1)))) ∧
    (∀ msg, parse L3PagingRequestType2.parse octets = some msg →
      (ReEmits L3PagingRequestType2.parse msg.write msg.bodyLength msg.additionalIes msg ↔
        TaggedKept (octets.drop 9))) ∧
    (∀ msg, parse L3PagingResponse.parse octets = some msg →
      (ReEmits L3PagingResponse.parse msg.write msg.bodyLength msg.additionalIes msg ↔
        DigitsKept (L3PagingResponse.behindClassmark octets))) ∧
    (∀ msg, parse L3PagingRequestType3.parse octets = some msg →
      ReEmits L3PagingRequestType3.parse msg.write msg.bodyLength msg.additionalIes msg) ∧
    (∀ msg, parse L3ChannelRelease.parse octets = some msg →
      ReEmits L3ChannelRelease.parse msg.write msg.bodyLength msg.additionalIes msg) ∧
    (∀ msg, parse L3AssignmentCommand.parse octets = some msg →
      ReEmits L3AssignmentCommand.parse msg.write msg.bodyLength msg.additionalIes msg) ∧
    (∀ msg, parse L3HandoverCommand.parse octets = some msg →
      ReEmits L3HandoverCommand.parse msg.write msg.bodyLength msg.additionalIes msg) :=
  ⟨fun _ => L3PagingRequestType1.reEmits_iff, fun _ => L3PagingRequestType2.reEmits_iff,
    fun _ => L3PagingResponse.reEmits_iff, fun _ => L3PagingRequestType3.reEmits,
    fun _ => L3ChannelRelease.reEmits, fun _ => L3AssignmentCommand.reEmits,
    fun _ => L3HandoverCommand.reEmits⟩

/-- An IMSI of the nibbles 10, 10 and 1, of which the first one is dropped. -/
theorem paged_digit_lost :
    ∃ msg, parse L3PagingRequestType1.parse [0x00, 0x02, 0xA9, 0x1A] = some msg ∧
      ¬ ReEmits L3PagingRequestType1.parse msg.write msg.bodyLength msg.additionalIes msg := by
  have parsed : parse L3PagingRequestType1.parse [0x00, 0x02, 0xA9, 0x1A] =
      some { mobileIds := #v[{ type := .imsi, digits := [':', '1'] }, {}], mobileIdCount := 1 } := by
    with_unfolding_all decide
  refine ⟨_, parsed, fun emitted => ?_⟩
  have kept := (L3PagingRequestType1.reEmits_iff parsed).mp emitted
  exact kept.1 (.inl rfl) (by decide) ⟨by decide, 0x1A, rfl, by decide⟩

end Gsml3
