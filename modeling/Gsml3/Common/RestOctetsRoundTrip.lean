import Gsml3.Common.RestOctets

/-!
# Rest octets written and read back

A region is a record, padding bits up to the octet boundary, and the octets behind them.  The
parser finds these parts in every region; it finds them again in what is written.
-/

namespace Gsml3

open BitWriter (Op fields endPos)
open FieldParser (Takes Finds ReadsWritten Tolerant Steady remainingBits readBytes alignToOctet)
open Foundation (bitString octetGroups)

namespace RestOctets

/-! ## The parts of a region -/

section Region

variable {α β : Type} {parser : FieldParser α} {value other : α} {region octets : List UInt8}

/-- From any octet boundary on, the region is read to its end with this value. -/
def Decodes (parser : FieldParser α) (region : List UInt8) (value : α) : Prop :=
  ∀ before, before.length % 8 = 0 → parser (.between before (bitString region)) =
    .ok (value, .between (before ++ bitString region) [])

/-- A region is decoded in one way only. -/
theorem Decodes.unique (one : Decodes parser region value) (two : Decodes parser region other) :
    value = other :=
  (Prod.mk.inj (Except.ok.inj ((one [] rfl).symm.trans (two [] rfl)))).1

theorem bitString_injective {one other : List UInt8} (same : bitString one = bitString other) :
    one = other := by
  have length := congrArg List.length same
  rw [Foundation.bitString_length, Foundation.bitString_length] at length
  have groups := Foundation.octetGroups_bitString one []
  rw [same, Nat.eq_of_mul_eq_mul_left (by decide) length,
    Foundation.octetGroups_bitString] at groups
  exact groups.symm

/-- The octets left in a region. -/
theorem octets_left (before : List Bool) (octets : List UInt8) :
    ((BitCursor.between before (bitString octets)).bits.length -
      (BitCursor.between before (bitString octets)).pos) / 8 = octets.length := by
  rw [BitCursor.between, List.length_append, Nat.add_sub_cancel_left,
    Foundation.bitString_length, Nat.mul_div_cancel_left _ (by decide)]

theorem readBytes_all (before : List Bool) (octets : List UInt8) :
    readBytes octets.length (.between before (bitString octets)) =
      .ok (octets, .between (before ++ bitString octets) []) := by
  have run := Steady.of_takes (FieldParser.takes_readBytes octets) before []
  rwa [List.append_nil] at run

theorem captureTrailingOctets_eq (before : List Bool) (octets : List UInt8) :
    captureTrailingOctets (.between before (bitString octets)) =
      .ok (octets, .between (before ++ bitString octets) []) := by
  change readBytes (((BitCursor.between before (bitString octets)).bits.length -
    (BitCursor.between before (bitString octets)).pos) / 8) _ = _
  rw [octets_left, readBytes_all]

/-- The bits to the octet boundary are dropped, and the octets behind them are kept. -/
theorem aligned_tail {before behind : List Bool} (aligned : (before ++ behind).length % 8 = 0) :
    ∃ pad octets, behind = pad ++ bitString octets ∧
      pad.length = (8 - before.length % 8) % 8 ∧
      ∀ (next : List UInt8 → FieldParser β),
        (alignToOctet >>= fun _ => captureTrailingOctets >>= next) (.between before behind) =
          next octets (.between (before ++ behind) []) := by
  generalize spare : (8 - before.length % 8) % 8 = count
  rw [List.length_append] at aligned
  have pad : (behind.take count).length = count := by
    rw [List.length_take]
    omega
  have whole : (behind.drop count).length = 8 * ((behind.length - count) / 8) := by
    rw [List.length_drop]
    omega
  have octets := FieldParser.bitString_octetGroups whole
  refine ⟨behind.take count, octetGroups ((behind.length - count) / 8) (behind.drop count), ?_,
    pad, fun next => ?_⟩
  · rw [octets, List.take_append_drop]
  · change (alignToOctet (.between before behind) >>= fun read =>
      captureTrailingOctets read.2 >>= fun read => next read.1 read.2) = _
    rw [FieldParser.alignToOctet_eq, spare]
    change (captureTrailingOctets (.between (before ++ behind.take count) (behind.drop count)) >>=
      fun read => next read.1 read.2) = _
    rw [← octets, captureTrailingOctets_eq, octets, List.append_assoc, List.take_append_drop]
    rfl

end Region

/-! ## Records -/

section Records

variable {α : Type} {record : FieldParser α} {write : α → List Op} {valid : α → Prop}
  {attach : α → List UInt8 → α} {rest : α} {region octets : List UInt8} {pad : List Bool} {pos : Nat}

/-- A record, the padding bits, and the octets behind them. -/
def framed (record : FieldParser α) (attach : α → List UInt8 → α) : FieldParser α := do
  let rest ← record
  alignToOctet
  let octets ← captureTrailingOctets
  pure (attach rest octets)

/-- The parser takes the bits of every valid record, and never reads anything else. -/
structure RecordCodec (record : FieldParser α) (write : α → List Op) (valid : α → Prop) :
    Prop where
  takes : ∀ rest, valid rest → ∀ pos, Takes record (fields pos (write rest)) (some rest)
  finds : Finds record fun rest read behind => valid rest ∧ ReadsWritten (write rest) read behind

/-- The region is a record in these bits, with padding bits and octets behind it. -/
structure Parts (region : List UInt8) (read pad : List Bool) (octets : List UInt8) : Prop where
  split : bitString region = read ++ (pad ++ bitString octets)
  spare : pad.length = (8 - read.length % 8) % 8

/-- A record whose padding is skipped, with the octets behind it. -/
theorem Parts.framed_eq {read before : List Bool} (parts : Parts region read pad octets)
    (start : before.length % 8 = 0)
    (run : record (.between before (bitString region)) =
      .ok (rest, .between (before ++ read) (pad ++ bitString octets))) :
    framed record attach (.between before (bitString region)) =
      .ok (attach rest octets, .between (before ++ bitString region) []) := by
  have length := congrArg List.length parts.split
  rw [Foundation.bitString_length] at length
  have aligned : (before ++ read ++ (pad ++ bitString octets)).length % 8 = 0 := by
    rw [List.append_assoc, List.length_append]
    omega
  obtain ⟨pad', octets', same, spare, tail⟩ := @aligned_tail α _ _ aligned
  have lengths : pad.length = pad'.length := by
    rw [parts.spare, spare, List.length_append]
    omega
  obtain ⟨_, same⟩ := List.append_inj same lengths
  rw [← bitString_injective same] at tail
  change (record (.between before (bitString region)) >>= fun read =>
    (alignToOctet >>= fun _ => captureTrailingOctets >>= fun octets =>
      pure (attach read.1 octets)) read.2) = _
  rw [run]
  refine (tail fun octets => pure (attach rest octets)).trans ?_
  rw [List.append_assoc, ← parts.split]
  rfl

/-- Every region has a record in front, padding behind it and a tail. -/
theorem RecordCodec.parts (codec : RecordCodec record write valid) (octets : List UInt8) :
    ∃ rest read pad tail, Parts octets read pad tail ∧ valid rest ∧
      ReadsWritten (write rest) read (pad ++ bitString tail) ∧
      ∀ attach, Decodes (framed record attach) octets (attach rest tail) := by
  obtain ⟨rest, read, behind, split, ⟨holds, written⟩, run⟩ := codec.finds (bitString octets)
  have length := congrArg List.length split
  rw [Foundation.bitString_length] at length
  have aligned : (read ++ behind).length % 8 = 0 := by omega
  obtain ⟨pad, tail, rfl, spare, _⟩ := @aligned_tail α read behind aligned
  have parts : Parts octets read pad tail := ⟨split, spare⟩
  exact ⟨rest, read, pad, tail, parts, holds, written,
    fun attach before start => parts.framed_eq start (run before)⟩

/-- The written record is decoded, with its tail. -/
theorem RecordCodec.decodes (codec : RecordCodec record write valid)
    (attach : α → List UInt8 → α) (holds : valid rest)
    (parts : Parts region (fields pos (write rest)) pad octets) :
    Decodes (framed record attach) region (attach rest octets) := by
  intro before start
  refine parts.framed_eq start ?_
  rw [parts.split]
  exact Steady.of_takes (codec.takes rest holds pos) before (pad ++ bitString octets)

/-! ## Padding octets -/

theorem isAllPadding_cons {octet : UInt8} :
    isAllPadding (octet :: octets) = true ↔ octet = 0x2B ∧ isAllPadding octets = true := by
  rw [isAllPadding, List.all_cons, Bool.and_eq_true, beq_iff_eq]
  rfl

theorem isAllPadding_eq (padding : isAllPadding octets = true) :
    octets = List.replicate octets.length restOctetsPadding :=
  List.eq_replicate_iff.mpr ⟨rfl, fun octet member => beq_iff_eq.mp (List.all_eq_true.mp padding octet member)⟩

/-- Padding may stand in front or behind. -/
theorem isAllPadding_swap (padding : isAllPadding octets = true) :
    octets ++ [0x2B, 0x2B] = [0x2B, 0x2B] ++ octets := by
  rw [isAllPadding_eq padding]
  change _ ++ List.replicate 2 restOctetsPadding = List.replicate 2 restOctetsPadding ++ _
  rw [List.replicate_append_replicate, List.replicate_append_replicate, Nat.add_comm]

theorem peekOctet_eq (before : List Bool) (octet : UInt8) (octets : List UInt8) :
    peekOctet (.between before (bitString (octet :: octets))) =
      .ok (octet, .between before (bitString (octet :: octets))) := by
  have slice : (BitCursor.between before (bitString (octet :: octets))).slice 8 =
      Foundation.valueBits 8 octet.toNat := by
    rw [BitCursor.slice, BitCursor.between, List.drop_left, Foundation.bitString_cons,
      List.take_left' (Foundation.valueBits_length ..)]
  unfold peekOctet
  rw [slice, Foundation.bitValue_valueBits, Nat.mod_eq_of_lt octet.toNat_lt, UInt8.ofNat_toNat]

variable {decode : FieldParser α} {preserve : List UInt8 → α} {value : α}

theorem parseRegion_cons (before : List Bool) (octet : UInt8) (octets : List UInt8) :
    parseRegion decode preserve (.between before (bitString (octet :: octets))) =
      if octet ≠ 0x2B then decode (.between before (bitString (octet :: octets)))
      else if isAllPadding (octet :: octets) = true then
        .ok (preserve (octet :: octets), .between (before ++ bitString (octet :: octets)) [])
      else staged decode (octet :: octets) (.between (before ++ bitString (octet :: octets)) []) := by
  have count := octets_left before (octet :: octets)
  have nonempty : (octet :: octets).length ≠ 0 := Nat.succ_ne_zero _
  change (if _ / 8 = 0 then _ else _ : FieldParser α) _ = _
  rw [count, if_neg nonempty]
  change (peekOctet _ >>= fun read => (if read.1 ≠ 0x2B then decode else _ : FieldParser α) read.2) = _
  rw [peekOctet_eq]
  change (if octet ≠ 0x2B then decode else _ : FieldParser α) _ = _
  split
  · rfl
  · change (readBytes _ _ >>= fun read => (if isAllPadding read.1 = true then
      pure (preserve read.1) else staged decode read.1 : FieldParser α) read.2) = _
    rw [readBytes_all]
    change (if isAllPadding (octet :: octets) = true then pure (preserve (octet :: octets))
      else staged decode (octet :: octets) : FieldParser α) _ = _
    split
    · rfl
    · rfl

/-- A region of filling is kept as it is. -/
theorem decodes_padding (padding : isAllPadding region = true) :
    Decodes (parseRegion decode preserve) region (preserve region) := by
  intro before start
  cases region with
  | nil =>
      change (if _ / 8 = 0 then _ else _ : FieldParser α) _ = _
      rw [octets_left, if_pos List.length_nil]
      exact congrArg Except.ok (by rw [show bitString [] = [] from rfl, List.append_nil])
  | cons octet octets =>
      obtain ⟨first, _⟩ := isAllPadding_cons.mp padding
      rw [parseRegion_cons, if_neg (not_not.mpr first), if_pos padding]

/-- A region with a record is decoded. -/
theorem decodes_record (record : ¬ isAllPadding region = true) (run : Decodes decode region value) :
    Decodes (parseRegion decode preserve) region value := by
  intro before start
  cases region with
  | nil => exact absurd rfl record
  | cons octet octets =>
      rw [parseRegion_cons, if_neg record]
      split
      · exact run before start
      · unfold staged
        rw [run [] rfl]
        rfl

/-- A region of padding octets, or a record with its padding bits and the octets behind. -/
inductive Parsed (write : α → List Op) (valid : α → Prop) (preserve : List UInt8 → α)
    (attach : α → List UInt8 → α) (region : List UInt8) : α → Prop where
  | padding (only : isAllPadding region = true) :
      Parsed write valid preserve attach region (preserve region)
  | record {rest : α} {read pad : List Bool} {octets : List UInt8}
      (other : ¬ isAllPadding region = true) (holds : valid rest)
      (parts : Parts region read pad octets)
      (written : ReadsWritten (write rest) read (pad ++ bitString octets)) :
      Parsed write valid preserve attach region (attach rest octets)

/-- Every region is parsed, into filling or into a record with its tail. -/
theorem RecordCodec.parsed (codec : RecordCodec record write valid)
    (whole : ∀ region value, Decodes (framed record attach) region value →
      Decodes decode region value) (region : List UInt8) :
    ∃ value, Decodes (parseRegion decode preserve) region value ∧
      Parsed write valid preserve attach region value := by
  by_cases only : isAllPadding region = true
  · exact ⟨preserve region, decodes_padding only, .padding only⟩
  · obtain ⟨rest, read, pad, octets, parts, holds, written, run⟩ := codec.parts region
    exact ⟨attach rest octets, decodes_record only (whole region _ (run attach)),
      .record only holds parts written⟩

end Records

/-! ## Written regions -/

section Written

variable {ops : List Op} {region octets : List UInt8} {read pad : List Bool} {pos : Nat}

theorem fields_padToOctetWithPattern (start pos : Nat) :
    fields pos (padToOctetWithPattern start) =
      (bitString [restOctetsPadding]).take ((8 - start % 8) % 8) := by
  have small : (8 - start % 8) % 8 < 8 := Nat.mod_lt _ (by decide)
  unfold padToOctetWithPattern L3SI13RestOctets.writePadding
  generalize (8 - start % 8) % 8 = spare at small
  interval_cases spare
  all_goals rfl

/-- A record written at an octet boundary, its padding, and octets behind it. -/
theorem written_parts (ops : List Op) (aligned : pos % 8 = 0) (octets : List UInt8) :
    ∃ region, Parts region (fields pos ops)
      (fields (endPos pos ops) (padToOctetWithPattern (endPos pos ops))) octets := by
  have record := BitWriter.fields_length pos ops
  have padding := BitWriter.fields_length (endPos pos ops) (padToOctetWithPattern (endPos pos ops))
  rw [padToOctetWithPattern, L3SI13RestOctets.endPos_writePadding] at padding
  have whole : (fields pos ops ++ (fields (endPos pos ops)
      (padToOctetWithPattern (endPos pos ops)) ++ bitString octets)).length =
      8 * (((fields pos ops).length + 7) / 8 + octets.length) := by
    rw [List.length_append, List.length_append, Foundation.bitString_length,
      padToOctetWithPattern]
    omega
  refine ⟨octetGroups _ _, FieldParser.bitString_octetGroups whole, ?_⟩
  rw [padToOctetWithPattern]
  omega

/-- The region is long enough for the record, and the bits behind the record are those of the
padding octet up to the octet boundary. -/
structure PaddedAs (ops : List Op) (region : List UInt8) : Prop where
  complete : endPos 0 ops ≤ 8 * region.length
  padding : (bitString [restOctetsPadding]).take ((8 - endPos 0 ops % 8) % 8) <+:
    (bitString region).drop (endPos 0 ops)

/-- What is written for such a region is the region. -/
theorem Parts.written_eq (parts : Parts region read pad octets) (aligned : pos % 8 = 0)
    (length : (fields pos ops).length = endPos 0 ops)
    (written : ReadsWritten ops read (pad ++ bitString octets)) (padded : PaddedAs ops region) :
    fields pos ops ++ (fields (endPos pos ops) (padToOctetWithPattern (endPos pos ops)) ++
      bitString octets) = bitString region := by
  have total := congrArg List.length parts.split
  have reached := BitWriter.fields_length pos ops
  have complete := padded.complete
  rw [Foundation.bitString_length, List.length_append] at total
  rcases written pos with rfl | short
  · obtain ⟨more, split⟩ := padded.padding
    rw [parts.split, ← length, List.drop_left] at split
    have spare : (8 - (fields pos ops).length % 8) % 8 = pad.length := parts.spare.symm
    have same : (bitString [restOctetsPadding]).take pad.length = pad := by
      refine (List.append_inj (spare ▸ split) ?_).1
      rw [List.length_take, Foundation.bitString_length, List.length_singleton, ← spare]
      exact Nat.min_eq_left (Nat.le_of_lt (Nat.mod_lt _ (by decide)))
    have start : (8 - endPos pos ops % 8) % 8 = pad.length := by omega
    rw [fields_padToOctetWithPattern, start, same, parts.split]
  · omega

end Written

end RestOctets

open RestOctets

/-! ## Groups -/

theorem SelectionParameters.tolerant :
    Tolerant SelectionParameters.parse SelectionParameters.write := by
  constructor
  · intro group pos
    refine Takes.part (FieldParser.tolerant_tryFlag.takes group.cbq _) ?_
    refine Takes.part ((FieldParser.tolerant_tryValue 6 (by simp)).takes group.cellReselectOffset _) ?_
    refine Takes.part ((FieldParser.tolerant_tryValue 3 (by simp)).takes group.temporaryOffset _) ?_
    exact ((FieldParser.tolerant_tryValue 5 (by simp)).takes group.penaltyTime _).yield _
  · refine FieldParser.tolerant_tryFlag.finds.bind fun cbq _ => ?_
    refine (FieldParser.tolerant_tryValue 6 (by simp)).finds.bind fun cellReselectOffset _ => ?_
    refine (FieldParser.tolerant_tryValue 3 (by simp)).finds.bind fun temporaryOffset _ => ?_
    refine (FieldParser.tolerant_tryValue 5 (by simp)).finds.bind fun penaltyTime _ => Finds.pure fun rest => ?_
    intro fourth third second first
    exact first.append (second.append (third.append fourth.last))

theorem GprsIndicator.tolerant : Tolerant GprsIndicator.parse GprsIndicator.write := by
  constructor
  · intro group pos
    refine Takes.part ((FieldParser.tolerant_tryValue 3 (by simp)).takes group.raColour _) ?_
    exact (FieldParser.tolerant_tryFlag.takes group.si13Position _).yield _
  · refine (FieldParser.tolerant_tryValue 3 (by simp)).finds.bind fun raColour _ => ?_
    refine FieldParser.tolerant_tryFlag.finds.bind fun si13Position _ => Finds.pure fun rest => ?_
    intro second first
    exact first.append second.last

/-! ## SI3 -/

namespace L3SI3RestOctets

/-- Fields that a record of its kind does not have are at their defaults. -/
structure Canonical (rest : L3SI3RestOctets) : Prop where
  iuMode : rest.gprs.isSome = true → rest.iuModeInd = false
  si21 : rest.schedWhere.isSome = true → rest.si21Pos = none
  noTail : rest.opaqueTail = []

theorem codec : RecordCodec decodeRecord writeRecord Canonical := by
  constructor
  · intro rest canonical pos
    have noTail : some rest = some { rest with opaqueTail := [] } := by rw [← canonical.noTail]
    rw [noTail]
    refine Takes.part (SelectionParameters.tolerant.optional.takes rest.selection _) ?_
    refine Takes.part ((FieldParser.tolerant_tryValue 2 (by simp)).optional.takes rest.powerOffset _) ?_
    refine Takes.part (FieldParser.tolerant_tryFlag.takes rest.si2terInd _) ?_
    refine Takes.part (FieldParser.tolerant_tryFlag.takes rest.earlyCmInd _) ?_
    refine Takes.part ((FieldParser.tolerant_tryValue 3 (by simp)).optional.takes rest.schedWhere _) ?_
    refine Takes.part (GprsIndicator.tolerant.optional.takes rest.gprs _) ?_
    refine Takes.part (FieldParser.tolerant_tryFlag.takes rest.umtsEarlyCmInd _) ?_
    refine Takes.part (FieldParser.tolerant_tryFlag.optional.takes rest.si2quaterInd _) ?_
    refine Takes.part (FieldParser.tolerant_tryFlag.takes_unless canonical.iuMode _) ?_
    exact (((FieldParser.tolerant_tryValue 1 (by simp)).optional.takes_unless canonical.si21 _).yield _)
  · refine SelectionParameters.tolerant.optional.finds.bind fun selection _ => ?_
    refine (FieldParser.tolerant_tryValue 2 (by simp)).optional.finds.bind fun powerOffset _ => ?_
    refine FieldParser.tolerant_tryFlag.finds.bind fun si2terInd _ => ?_
    refine FieldParser.tolerant_tryFlag.finds.bind fun earlyCmInd _ => ?_
    refine (FieldParser.tolerant_tryValue 3 (by simp)).optional.finds.bind fun schedWhere _ => ?_
    refine GprsIndicator.tolerant.optional.finds.bind fun gprs _ => ?_
    refine FieldParser.tolerant_tryFlag.finds.bind fun umtsEarlyCmInd _ => ?_
    refine FieldParser.tolerant_tryFlag.optional.finds.bind fun si2quaterInd _ => ?_
    refine (FieldParser.tolerant_tryFlag.finds_unless _).bind fun iuModeInd _ => ?_
    refine ((FieldParser.tolerant_tryValue 1 (by simp)).optional.finds_unless _).bind fun si21Pos _ =>
      Finds.pure fun rest => ?_
    intro si21 iuMode si2quater umts gprs' sched early si2ter power selection'
    refine ⟨⟨iuMode.1, si21.1, rfl⟩, ?_⟩
    exact selection'.append (power.append (si2ter.append (early.append (sched.append
      (gprs'.append (umts.append (si2quater.append (iuMode.2.append si21.2.last))))))))

theorem endPos_writeRecord (rest : L3SI3RestOctets) (pos : Nat) :
    endPos pos rest.writeRecord = pos + rest.recordBits := by
  have selection := @FieldParser.endPos_writeOptional _ SelectionParameters.write
    (1 + 6 + 3 + 5) fun _ _ => rfl
  have power := @FieldParser.endPos_writeOptional _ (fun value : BitVec 2 => [writeValue value]) 2
    fun _ _ => rfl
  have sched := @FieldParser.endPos_writeOptional _ (fun value : BitVec 3 => [writeValue value]) 3
    fun _ _ => rfl
  have gprs := @FieldParser.endPos_writeOptional _ GprsIndicator.write (3 + 1) fun _ _ => rfl
  have si2quater := @FieldParser.endPos_writeOptional _ (fun flag => [writeFlag flag]) 1
    fun _ _ => rfl
  have si21 := @FieldParser.endPos_writeOptional _ (fun value : BitVec 1 => [writeValue value]) 1
    fun _ _ => rfl
  have flag (flag : Bool) (pos : Nat) : endPos pos [writeFlag flag] = pos + 1 := rfl
  have iuMode (pos : Nat) : endPos pos (if rest.gprs.isSome then [] else [writeFlag rest.iuModeInd]) =
      pos + if rest.gprs.isSome then 0 else 1 := by
    split
    · rfl
    · rfl
  have si21' (pos : Nat) : endPos pos (if rest.schedWhere.isSome then []
      else FieldParser.writeOptional (fun value => [writeValue value]) rest.si21Pos) =
      pos + if rest.schedWhere.isSome then 0 else 1 + if rest.si21Pos.isSome then 1 else 0 := by
    split
    · rfl
    · exact si21 ..
  unfold writeRecord recordBits
  simp only [BitWriter.endPos_append, selection, power, sched, gprs, si2quater, flag, iuMode, si21']
  omega

theorem endPos_write (rest : L3SI3RestOctets) {pos : Nat} (aligned : pos % 8 = 0) :
    endPos pos (rest.write pos) = pos + 8 * rest.lengthV := by
  unfold write lengthV
  split
  · rfl
  · rw [BitWriter.endPos_append, BitWriter.endPos_append, endPos_writeOctets,
      padToOctetWithPattern, L3SI13RestOctets.endPos_writePadding, endPos_writeRecord]
    omega

theorem fields_length (rest : L3SI3RestOctets) (pos : Nat) :
    (fields pos rest.writeRecord).length = rest.recordBits := by
  have reached := BitWriter.fields_length pos rest.writeRecord
  rw [endPos_writeRecord] at reached
  exact Nat.add_left_cancel reached

/-- A record without a bit. -/
theorem noRecordBits_eq {rest : L3SI3RestOctets} (clear : rest.noRecordBits = true) :
    rest = { opaqueTail := rest.opaqueTail } := by
  obtain ⟨selection, power, si2ter, early, sched, gprs, umts, si2quater, iuMode, si21, tail⟩ := rest
  simp only [noRecordBits, Bool.and_eq_true, Bool.not_eq_true', Option.isSome_eq_false_iff,
    Option.isNone_iff_eq_none] at clear
  obtain ⟨⟨⟨⟨⟨⟨⟨⟨⟨rfl, rfl⟩, rfl⟩, rfl⟩, rfl⟩, rfl⟩, rfl⟩, rfl⟩, rfl⟩, rfl⟩ := clear
  rfl

/-- The record that two padding octets start with. -/
def leading : L3SI3RestOctets where
  si2terInd := true
  schedWhere := some 3
  si2quaterInd := some false
  iuModeInd := true

/-- Its padding is not the end of the second octet. -/
theorem not_allPadding {rest : L3SI3RestOctets} {pos : Nat} {region octets : List UInt8}
    (canonical : Canonical rest) (aligned : pos % 8 = 0)
    (parts : Parts region (fields pos rest.writeRecord) (fields (endPos pos rest.writeRecord)
      (padToOctetWithPattern (endPos pos rest.writeRecord))) octets) :
    ¬ isAllPadding region = true := by
  intro padding
  have leads : bitString [0x2B, 0x2B] = fields 0 leading.writeRecord ++ [false, true, true] := by
    decide
  have same : fields pos rest.writeRecord ++ (fields (endPos pos rest.writeRecord)
      (padToOctetWithPattern (endPos pos rest.writeRecord)) ++ bitString octets ++
        bitString [0x2B, 0x2B]) =
      fields 0 leading.writeRecord ++ ([false, true, true] ++ bitString region) := by
    rw [← List.append_assoc (fields 0 _), ← leads, ← Foundation.bitString_append,
      ← List.append_assoc, ← parts.split, ← Foundation.bitString_append, isAllPadding_swap padding]
  obtain ⟨rfl, bits⟩ := Steady.same_front (codec.takes rest canonical pos)
    (codec.takes leading ⟨fun present => absurd present Bool.false_ne_true, fun _ => rfl, rfl⟩ 0)
    same
  rw [bits, List.append_cancel_left_eq, fields_padToOctetWithPattern, endPos_writeRecord,
    show (8 - (pos + leading.recordBits) % 8) % 8 = 3 by
      change (8 - (pos + 13) % 8) % 8 = 3
      omega] at same
  cases same

/-- The fields agree with each other, whatever octets stand behind the record. -/
abbrev Consistent (rest : L3SI3RestOctets) : Prop :=
  Canonical { rest with opaqueTail := [] }

/-- A consistent value is written as octets that are read back. -/
theorem reads_write {rest : L3SI3RestOctets} (consistent : Consistent rest) {pos : Nat}
    (aligned : pos % 8 = 0) :
    ∃ octets, fields pos (rest.write pos) = bitString octets ∧ Decodes parse octets rest := by
  unfold write
  by_cases only : rest.PaddingOnly
  · refine ⟨rest.opaqueTail, ?_, ?_⟩
    · rw [if_pos only]
      exact List.append_nil _
    · rw [noRecordBits_eq only.1]
      exact decodes_padding only.2.2
  · obtain ⟨region, parts⟩ := written_parts rest.writeRecord aligned rest.opaqueTail
    refine ⟨region, ?_, ?_⟩
    · rw [if_neg only, BitWriter.fields_append, BitWriter.fields_append, fields_writeOctets,
        parts.split]
    · have run := codec.decodes (fun rest octets => { rest with opaqueTail := octets }) consistent
        parts
      exact decodes_record (not_allPadding consistent aligned parts) run

abbrev ParsedFrom (region : List UInt8) (rest : L3SI3RestOctets) : Prop :=
  Parsed writeRecord Canonical (fun octets => { opaqueTail := octets })
    (fun rest octets => { rest with opaqueTail := octets }) region rest

theorem parsed_from (region : List UInt8) :
    ∃ rest, Decodes parse region rest ∧ ParsedFrom region rest :=
  codec.parsed (fun _ _ run => run) region

/-- What was parsed is consistent. -/
theorem ParsedFrom.consistent {region : List UInt8} {rest : L3SI3RestOctets}
    (parsed : ParsedFrom region rest) : Consistent rest := by
  cases parsed with
  | padding => exact ⟨fun _ => rfl, fun _ => rfl, rfl⟩
  | record _ canonical => exact ⟨canonical.iuMode, canonical.si21, rfl⟩

/-- Filling is written again as it was. -/
theorem ParsedFrom.restored_padding {region : List UInt8} {rest : L3SI3RestOctets}
    (parsed : ParsedFrom region rest) (only : isAllPadding region = true) (some : region ≠ [])
    (pos : Nat) : fields pos (rest.write pos) = bitString region := by
  cases parsed with
  | padding =>
      have only : PaddingOnly { opaqueTail := region } := ⟨rfl, some, only⟩
      unfold write
      rw [if_pos only]
      exact List.append_nil _
  | record other => exact absurd only other

/-- A record padded by the pattern is written again as it was. -/
theorem ParsedFrom.restored_record {region : List UInt8} {rest : L3SI3RestOctets}
    (parsed : ParsedFrom region rest) (padded : PaddedAs rest.writeRecord region)
    (bits : ¬ rest.PaddingOnly) {pos : Nat} (aligned : pos % 8 = 0) :
    fields pos (rest.write pos) = bitString region := by
  cases parsed with
  | padding only =>
      by_cases empty : region = []
      · have complete := padded.complete
        rw [empty] at complete
        cases complete
      · exact absurd ⟨rfl, empty, only⟩ bits
  | @record rest read pad octets other canonical parts written =>
      have length : (fields pos rest.writeRecord).length = endPos 0 rest.writeRecord := by
        rw [fields_length, endPos_writeRecord, Nat.zero_add]
      unfold write
      rw [if_neg bits, BitWriter.fields_append, BitWriter.fields_append, fields_writeOctets]
      exact parts.written_eq aligned length written padded

end L3SI3RestOctets

/-! ## SI4 -/

namespace L3SIType4RestOctets

/-- The octets behind the groups are not there yet. -/
structure Canonical (rest : L3SIType4RestOctets) : Prop where
  noRestS : rest.restS = if rest.restS.isSome then some [] else none
  noTail : rest.opaqueTail = []

/-- The octets behind the groups are the S part if there is one. -/
def attach (rest : L3SIType4RestOctets) (octets : List UInt8) : L3SIType4RestOctets :=
  if rest.restS.isSome then { rest with restS := some octets, opaqueTail := [] }
  else { rest with opaqueTail := octets }

theorem codec : RecordCodec decodeGroups writeGroups Canonical := by
  constructor
  · intro rest canonical pos
    have groups : some rest = some (L3SIType4RestOctets.mk rest.selection rest.powerOffset rest.gprs
        (if rest.restS.isSome then some [] else none) []) := by
      rw [← canonical.noRestS, ← canonical.noTail]
    rw [groups]
    refine Takes.part (SelectionParameters.tolerant.optional.takes rest.selection _) ?_
    refine Takes.part ((FieldParser.tolerant_tryValue 2 (by simp)).optional.takes rest.powerOffset _) ?_
    refine Takes.part (GprsIndicator.tolerant.optional.takes rest.gprs _) ?_
    exact (FieldParser.tolerant_tryFlag.takes rest.restS.isSome _).yield _
  · refine SelectionParameters.tolerant.optional.finds.bind fun selection _ => ?_
    refine (FieldParser.tolerant_tryValue 2 (by simp)).optional.finds.bind fun powerOffset _ => ?_
    refine GprsIndicator.tolerant.optional.finds.bind fun gprs _ => ?_
    refine FieldParser.tolerant_tryFlag.finds.bind fun present _ => Finds.pure fun rest => ?_
    intro flag gprs' power selection'
    cases present with
    | true =>
        exact ⟨⟨rfl, rfl⟩, selection'.append (power.append (gprs'.append flag.last))⟩
    | false =>
        exact ⟨⟨rfl, rfl⟩, selection'.append (power.append (gprs'.append flag.last))⟩

/-- Behind an S part nothing is left. -/
theorem decode_of_framed (region : List UInt8) (rest : L3SIType4RestOctets)
    (run : Decodes (framed decodeGroups attach) region rest) : Decodes decode region rest := by
  intro before start
  have whole : (before ++ bitString region).length % 8 = 0 := by
    rw [List.length_append, Foundation.bitString_length]
    omega
  obtain ⟨pad, nothing, none, _, atEnd⟩ :=
    @aligned_tail L3SIType4RestOctets (before ++ bitString region) [] (by rwa [List.append_nil])
  obtain rfl : nothing = [] := bitString_injective (List.append_eq_nil_iff.mp none.symm).2
  rw [List.append_nil] at atEnd
  obtain ⟨groups, behind, read, tail⟩ := FieldParser.bind_eq_ok.mp (run before start)
  obtain ⟨_, boundary, align, tail⟩ := FieldParser.bind_eq_ok.mp tail
  obtain ⟨octets, last, capture, done⟩ := FieldParser.bind_eq_ok.mp tail
  obtain ⟨rfl, rfl⟩ := Prod.mk.inj (Except.ok.inj done)
  unfold attach decode decodeRecord
  by_cases present : groups.restS.isSome = true
  · rw [if_pos present]
    refine FieldParser.bind_eq_ok.mpr ⟨{ groups with restS := some octets }, _,
      FieldParser.bind_eq_ok.mpr ⟨groups, behind, read, ?_⟩, atEnd _⟩
    rw [if_pos present]
    exact FieldParser.bind_eq_ok.mpr ⟨(), boundary, align,
      FieldParser.bind_eq_ok.mpr ⟨octets, _, capture, rfl⟩⟩
  · rw [if_neg present]
    refine FieldParser.bind_eq_ok.mpr ⟨groups, behind,
      FieldParser.bind_eq_ok.mpr ⟨groups, behind, read, ?_⟩, ?_⟩
    · rw [if_neg present]
      rfl
    · exact FieldParser.bind_eq_ok.mpr ⟨(), boundary, align,
        FieldParser.bind_eq_ok.mpr ⟨octets, _, capture, rfl⟩⟩

theorem endPos_writeGroups (rest : L3SIType4RestOctets) (pos : Nat) :
    endPos pos rest.writeGroups = pos + rest.recordBits := by
  have selection := @FieldParser.endPos_writeOptional _ SelectionParameters.write
    (1 + 6 + 3 + 5) fun _ _ => rfl
  have power := @FieldParser.endPos_writeOptional _ (fun value : BitVec 2 => [writeValue value]) 2
    fun _ _ => rfl
  have gprs := @FieldParser.endPos_writeOptional _ GprsIndicator.write (3 + 1) fun _ _ => rfl
  have flag (flag : Bool) (pos : Nat) : endPos pos [writeFlag flag] = pos + 1 := rfl
  unfold writeGroups recordBits
  simp only [BitWriter.endPos_append, selection, power, gprs, flag]
  omega

theorem endPos_write (rest : L3SIType4RestOctets) {pos : Nat} (aligned : pos % 8 = 0) :
    endPos pos (rest.write pos) = pos + 8 * rest.lengthV := by
  have tail (pos : Nat) : endPos pos (rest.restS.elim [] fun octets => [.writeBytes octets]) =
      pos + 8 * rest.restS.elim 0 List.length := by
    cases rest.restS with
    | none => rfl
    | some => rfl
  unfold write lengthV
  split
  · rfl
  · split
    · rfl
    · rw [BitWriter.endPos_append, BitWriter.endPos_append, BitWriter.endPos_append, tail,
        endPos_writeOctets, padToOctetWithPattern, L3SI13RestOctets.endPos_writePadding,
        endPos_writeGroups]
      omega

theorem fields_length (rest : L3SIType4RestOctets) (pos : Nat) :
    (fields pos rest.writeGroups).length = rest.recordBits := by
  have reached := BitWriter.fields_length pos rest.writeGroups
  rw [endPos_writeGroups] at reached
  exact Nat.add_left_cancel reached

/-- A record without a bit. -/
theorem noRecordBits_eq {rest : L3SIType4RestOctets} (clear : rest.noRecordBits = true) :
    rest = { opaqueTail := rest.opaqueTail } := by
  obtain ⟨selection, power, gprs, restS, tail⟩ := rest
  simp only [noRecordBits, Bool.and_eq_true, Bool.not_eq_true', Option.isSome_eq_false_iff,
    Option.isNone_iff_eq_none] at clear
  obtain ⟨⟨⟨rfl, rfl⟩, rfl⟩, rfl⟩ := clear
  rfl

/-- The record that a padding octet stands for. -/
def leading : L3SIType4RestOctets where
  gprs := some { raColour := 2, si13Position := true }
  restS := some []

/-- A region that starts with this record: the S part of padding octets only is one. -/
theorem leading_of_allPadding {rest : L3SIType4RestOctets} {pos : Nat}
    {region octets : List UInt8} {pad : List Bool} (canonical : Canonical rest)
    (parts : Parts region (fields pos rest.writeGroups) pad octets)
    (padding : isAllPadding region = true) : rest = leading := by
  have leads : bitString [0x2B] = fields 0 leading.writeGroups := by decide
  have same : fields pos rest.writeGroups ++ (pad ++ bitString octets ++ bitString [0x2B, 0x2B]) =
      fields 0 leading.writeGroups ++ (bitString [0x2B] ++ bitString region) := by
    rw [← List.append_assoc (fields 0 _), ← leads, ← Foundation.bitString_append,
      ← List.append_assoc, ← parts.split, ← Foundation.bitString_append,
      ← Foundation.bitString_append, isAllPadding_swap padding]
    rfl
  exact (Steady.same_front (codec.takes rest canonical pos) (codec.takes leading ⟨rfl, rfl⟩ 0)
    same).1

abbrev ParsedFrom (region : List UInt8) (rest : L3SIType4RestOctets) : Prop :=
  Parsed writeGroups Canonical (fun octets => { opaqueTail := octets }) attach region rest

theorem parsed_from (region : List UInt8) :
    ∃ rest, Decodes parse region rest ∧ ParsedFrom region rest :=
  codec.parsed decode_of_framed region

theorem writeGroups_attach (rest : L3SIType4RestOctets) (octets : List UInt8) :
    (attach rest octets).writeGroups = rest.writeGroups := by
  unfold attach
  by_cases present : rest.restS.isSome = true
  · rw [if_pos present]
    unfold writeGroups
    rw [present]
    rfl
  · rw [if_neg present]
    rfl

/-- Behind the record and its padding the octets are written, as an S part or as they are. -/
theorem fields_write_attach {rest : L3SIType4RestOctets} {octets : List UInt8} {pos : Nat}
    (bits : ¬ (attach rest octets).PaddingOnly)
    (some : ¬ (attach rest octets).Absent) :
    fields pos ((attach rest octets).write pos) =
      fields pos rest.writeGroups ++ (fields (endPos pos rest.writeGroups)
        (padToOctetWithPattern (endPos pos rest.writeGroups)) ++ bitString octets) := by
  have tail (pos : Nat) : fields pos ((attach rest octets).restS.elim []
      (fun octets => [.writeBytes octets]) ++ writeOctets (attach rest octets).opaqueTail) =
      bitString octets := by
    unfold attach
    by_cases present : rest.restS.isSome = true
    · rw [if_pos present]
      exact List.append_nil _
    · have none : rest.restS = none := Option.not_isSome_iff_eq_none.mp present
      rw [if_neg present]
      change fields pos (rest.restS.elim [] _ ++ writeOctets octets) = _
      rw [none]
      exact fields_writeOctets octets pos
  unfold write
  rw [if_neg bits, if_neg some, BitWriter.fields_append, BitWriter.fields_append, tail,
    writeGroups_attach]

/-- The region that is written is not one of padding octets, as this would have been one. -/
theorem not_allPadding {rest : L3SIType4RestOctets} {pos : Nat} {region written octets : List UInt8}
    {read pad : List Bool} (canonical : Canonical rest)
    (other : ¬ isAllPadding region = true) (parts : Parts region read pad octets)
    (reads : ReadsWritten rest.writeGroups read (pad ++ bitString octets))
    (again : Parts written (fields pos rest.writeGroups) (fields (endPos pos rest.writeGroups)
      (padToOctetWithPattern (endPos pos rest.writeGroups))) octets) :
    ¬ isAllPadding written = true := by
  intro padding
  obtain rfl := leading_of_allPadding canonical again padding
  have width : (fields pos leading.writeGroups).length = 8 := fields_length leading pos
  have total := congrArg List.length parts.split
  rw [Foundation.bitString_length, List.length_append] at total
  apply other
  rcases reads pos with rfl | short
  · have spare := parts.spare
    have spare' := again.spare
    rw [width] at spare spare'
    have same := parts.split
    rw [List.eq_nil_of_length_eq_zero spare, ← List.eq_nil_of_length_eq_zero spare',
      ← again.split] at same
    rwa [bitString_injective same]
  · rw [width] at short
    have empty : region.length = 0 := by omega
    rw [List.eq_nil_of_length_eq_zero empty]
    rfl

/-- What was parsed is written as octets that are read back. -/
theorem ParsedFrom.reads_write {region : List UInt8} {rest : L3SIType4RestOctets}
    (parsed : ParsedFrom region rest) {pos : Nat} (aligned : pos % 8 = 0) :
    ∃ octets, fields pos (rest.write pos) = bitString octets ∧ Decodes parse octets rest := by
  by_cases only : rest.PaddingOnly
  · refine ⟨rest.opaqueTail, ?_, ?_⟩
    · unfold write
      rw [if_pos only]
      exact List.append_nil _
    · rw [noRecordBits_eq only.1]
      exact decodes_padding only.2.2
  · by_cases absent : rest.Absent
    · refine ⟨[], ?_, ?_⟩
      · unfold write
        rw [if_neg only, if_pos absent]
        rfl
      · rw [noRecordBits_eq absent.1, absent.2]
        exact decodes_padding rfl
    · cases parsed with
      | padding padding =>
          by_cases empty : region = []
          · exact absurd ⟨rfl, empty⟩ absent
          · exact absurd ⟨rfl, empty, padding⟩ only
      | @record rest read pad octets other canonical parts reads =>
          obtain ⟨written, again⟩ := written_parts rest.writeGroups aligned octets
          refine ⟨written, ?_, ?_⟩
          · rw [fields_write_attach only absent, again.split]
          · exact decodes_record (not_allPadding canonical other parts reads again)
              (decode_of_framed written _ (codec.decodes attach canonical again))

/-- Filling is written again as it was. -/
theorem ParsedFrom.restored_padding {region : List UInt8} {rest : L3SIType4RestOctets}
    (parsed : ParsedFrom region rest) (padding : isAllPadding region = true) (pos : Nat) :
    fields pos (rest.write pos) = bitString region := by
  cases parsed with
  | padding =>
      unfold write
      by_cases empty : region = []
      · rw [empty]
        rfl
      · have only : PaddingOnly { opaqueTail := region } := ⟨rfl, empty, padding⟩
        rw [if_pos only]
        exact List.append_nil _
  | record other => exact absurd padding other

/-- A record padded by the pattern is written again as it was. -/
theorem ParsedFrom.restored_record {region : List UInt8} {rest : L3SIType4RestOctets}
    (parsed : ParsedFrom region rest) (padded : PaddedAs rest.writeGroups region)
    (bits : ¬ rest.PaddingOnly) (some : ¬ rest.Absent) {pos : Nat} (aligned : pos % 8 = 0) :
    fields pos (rest.write pos) = bitString region := by
  cases parsed with
  | padding padding =>
      by_cases empty : region = []
      · exact absurd ⟨rfl, empty⟩ some
      · exact absurd ⟨rfl, empty, padding⟩ bits
  | @record rest read pad octets other canonical parts reads =>
      have length : (fields pos rest.writeGroups).length = endPos 0 rest.writeGroups := by
        rw [fields_length, endPos_writeGroups, Nat.zero_add]
      rw [writeGroups_attach] at padded
      rw [fields_write_attach bits some]
      exact parts.written_eq aligned length reads padded

end L3SIType4RestOctets

/-! ## Both -/

namespace RestOctets

/-- From an octet boundary on as many octets are written as announced, and these are parsed to
the same value. -/
structure RoundTrip {α : Type} (parse : FieldParser α) (rest : α) (write : Nat → List Op)
    (lengthV : Nat) : Prop where
  length : ∀ pos, pos % 8 = 0 → endPos pos (write pos) = pos + 8 * lengthV
  reads : ∀ pos, pos % 8 = 0 →
    ∃ octets, fields pos (write pos) = bitString octets ∧ Decodes parse octets rest

/-- The octets that are written are these. -/
def Restores (write : Nat → List Op) (region : List UInt8) : Prop :=
  ∀ pos, pos % 8 = 0 → fields pos (write pos) = bitString region

end RestOctets

/-- Rest octets come back from what is written for them.  A region is restored if it consists of
padding octets, or if its record is complete and padded with the leading bits of the padding
octet; but a record without a bit is not written in front of padding octets, nor is it in SI4 with
nothing behind it. -/
theorem rest_octets_round_trip :
    (∀ before region rest next, before.length % 8 = 0 →
      L3SI3RestOctets.parse (.between before (bitString region)) = .ok (rest, next) →
      RoundTrip L3SI3RestOctets.parse rest rest.write rest.lengthV ∧
        (isAllPadding region = true → region ≠ [] → Restores rest.write region) ∧
        (PaddedAs rest.writeRecord region → ¬ rest.PaddingOnly → Restores rest.write region)) ∧
    ∀ before region rest next, before.length % 8 = 0 →
      L3SIType4RestOctets.parse (.between before (bitString region)) = .ok (rest, next) →
      RoundTrip L3SIType4RestOctets.parse rest rest.write rest.lengthV ∧
        (isAllPadding region = true → Restores rest.write region) ∧
        (PaddedAs rest.writeGroups region → ¬ rest.PaddingOnly → ¬ rest.Absent →
          Restores rest.write region) := by
  constructor
  · intro before region rest next start run
    obtain ⟨parsed, decodes, form⟩ := L3SI3RestOctets.parsed_from region
    obtain rfl : parsed = rest := by
      rw [decodes before start] at run
      exact (Prod.mk.inj (Except.ok.inj run)).1
    refine ⟨⟨fun pos => parsed.endPos_write, fun pos => L3SI3RestOctets.reads_write form.consistent⟩,
      fun only some pos _ => form.restored_padding only some pos,
      fun padded bits pos => form.restored_record padded bits⟩
  · intro before region rest next start run
    obtain ⟨parsed, decodes, form⟩ := L3SIType4RestOctets.parsed_from region
    obtain rfl : parsed = rest := by
      rw [decodes before start] at run
      exact (Prod.mk.inj (Except.ok.inj run)).1
    refine ⟨⟨fun pos => parsed.endPos_write, fun pos => form.reads_write⟩,
      fun only pos _ => form.restored_padding only pos,
      fun padded bits some pos => form.restored_record padded bits some⟩

/-- The indicator of SI2ter, and padding bits. -/
theorem rest_octets_round_trip_si2ter :
    Restores (L3SI3RestOctets.write { si2terInd := true }) [0x20, 0x0A] :=
  (rest_octets_round_trip.1 [] [0x20, 0x0A] { si2terInd := true }
    (.between (bitString [0x20, 0x0A]) []) rfl (by decide)).2.2
      ⟨by decide, by decide⟩ (by decide)

/-- An octet for a record without a bit, padded as it should be: nothing is written for it. -/
theorem absent_record_dropped :
    FieldParser.parse L3SIType4RestOctets.parse [0x02] = some {} ∧
      PaddedAs (L3SIType4RestOctets.writeGroups {}) [0x02] ∧
      ¬ Restores (L3SIType4RestOctets.write {}) [0x02] := by
  refine ⟨by decide, ⟨by decide, by decide⟩, fun restores => ?_⟩
  cases restores 0 rfl

end Gsml3
