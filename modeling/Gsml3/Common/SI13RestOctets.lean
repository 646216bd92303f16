import Gsml3.Common.GprsRoundTrip

/-!
# SI13 rest octets

The GPRS elements behind the change marks of the cell, padded to the octet boundary with the
leading bits of the padding octet.
-/

namespace Gsml3

open BitWriter (Op fields endPos)
open FieldParser (Takes Ensures Leaves ReadsBack ExactCodec readBits readFlag alignToOctet)

/-- The rest octets of SI13. -/
structure L3SI13RestOctets where
  presence : Bool := false
  bcchChangeMark : BitVec 3 := 0
  siChangeField : BitVec 4 := 0
  presence2 : Bool := false
  si13ChangeMark : BitVec 2 := 0
  gprsMa : L3GprsMobileAllocation := {}
  rac : BitVec 8 := 0
  spgcCcchSup : Bool := false
  priorityAccessThr : BitVec 3 := 0
  networkControlOrder : BitVec 2 := 0
  cellOptions : L3GPRSCellOptions := {}
  powerControlParameters : L3GPRSSI13PowerControlParameters := {}
deriving DecidableEq

namespace L3SI13RestOctets

/-- The mobile allocation and its change mark, when announced. -/
def parseMaGroup (presence2 : Bool) : FieldParser (BitVec 2 × L3GprsMobileAllocation) :=
  if presence2 then do
    let si13ChangeMark ← readBits 2
    let gprsMa ← L3GprsMobileAllocation.parse
    pure (si13ChangeMark, gprsMa)
  else pure (0, {})

/-- The fields in their order. -/
def parseRecord : FieldParser L3SI13RestOctets := do
  let presence ← readFlag
  let bcchChangeMark ← readBits 3
  let siChangeField ← readBits 4
  let presence2 ← readFlag
  let group ← parseMaGroup presence2
  -- The PBCCH is absent, whatever the bit says.
  let _ ← readFlag
  let rac ← readBits 8
  let spgcCcchSup ← readFlag
  let priorityAccessThr ← readBits 3
  let networkControlOrder ← readBits 2
  let cellOptions ← L3GPRSCellOptions.parse
  let powerControlParameters ← L3GPRSSI13PowerControlParameters.parse
  pure {
    presence, bcchChangeMark, siChangeField, presence2, si13ChangeMark := group.1
    gprsMa := group.2, rac, spgcCcchSup, priorityAccessThr, networkControlOrder, cellOptions
    powerControlParameters }

/-- The record, up to the end of its last octet. -/
def parse : FieldParser L3SI13RestOctets := do
  let rest ← parseRecord
  alignToOctet
  pure rest

/-- The bits of the record, rounded up to octets. -/
def lengthV (rest : L3SI13RestOctets) : Nat :=
  ((1 + 3 + 4 + 1) + (if rest.presence2 then 2 + rest.gprsMa.lengthBits else 0) +
    (1 + 8 + 1 + 3 + 2) + rest.cellOptions.lengthBits +
    L3GPRSSI13PowerControlParameters.lengthBits + 7) / 8

/-- The mobile allocation and its change mark, when announced. -/
def writeMaGroup (rest : L3SI13RestOctets) : List Op :=
  if rest.presence2 then writeValue rest.si13ChangeMark :: rest.gprsMa.writeBits else []

/-- The fields in the order they are read. -/
def writeRecord (rest : L3SI13RestOctets) : List Op :=
  [writeFlag rest.presence, writeValue rest.bcchChangeMark, writeValue rest.siChangeField,
    writeFlag rest.presence2] ++ (rest.writeMaGroup ++
  ([writeFlag false, writeValue rest.rac, writeFlag rest.spgcCcchSup,
    writeValue rest.priorityAccessThr, writeValue rest.networkControlOrder] ++
  (rest.cellOptions.writeBits ++ rest.powerControlParameters.writeBits)))

/-- The leading bits of `00101011` up to the octet boundary. -/
def writePadding (pos : Nat) : List Op :=
  (List.range ((8 - pos % 8) % 8)).map fun i =>
    .writeField (UInt32.ofNat (0x2B >>> (7 - i) &&& 1)) 1

/-- The padding depends on the position of the writer. -/
def write (rest : L3SI13RestOctets) (pos : Nat) : List Op :=
  rest.writeRecord ++ writePadding (endPos pos rest.writeRecord)

/-! ## Lengths -/

theorem endPos_writePadding (start pos : Nat) :
    endPos pos (writePadding start) = pos + (8 - start % 8) % 8 := by
  unfold writePadding
  generalize (8 - start % 8) % 8 = spare
  induction spare with
  | zero => rfl
  | succ spare ih =>
      rw [List.range_succ, List.map_append, BitWriter.endPos_append, ih]
      rfl

theorem endPos_writeMaGroup (rest : L3SI13RestOctets) (pos : Nat) :
    endPos pos rest.writeMaGroup =
      pos + if rest.presence2 then 2 + rest.gprsMa.lengthBits else 0 := by
  unfold writeMaGroup
  split
  · rw [BitWriter.endPos_cons, L3GprsMobileAllocation.endPos_writeBits]
    exact Nat.add_assoc ..
  · rfl

theorem endPos_writeRecord (rest : L3SI13RestOctets) (pos : Nat) :
    endPos pos rest.writeRecord =
      pos + ((1 + 3 + 4 + 1) + (if rest.presence2 then 2 + rest.gprsMa.lengthBits else 0) +
        (1 + 8 + 1 + 3 + 2) + rest.cellOptions.lengthBits +
        L3GPRSSI13PowerControlParameters.lengthBits) := by
  unfold writeRecord
  rw [BitWriter.endPos_append, BitWriter.endPos_append, BitWriter.endPos_append,
    BitWriter.endPos_append, endPos_writeMaGroup, L3GPRSCellOptions.endPos_writeBits,
    L3GPRSSI13PowerControlParameters.endPos_writeBits]
  change pos + 1 + 3 + 4 + 1 + _ + 1 + 8 + 1 + 3 + 2 + _ + _ = _
  omega

/-- From an octet boundary the record takes `lengthV` octets. -/
theorem endPos_write (rest : L3SI13RestOctets) {pos : Nat} (aligned : pos % 8 = 0) :
    endPos pos (rest.write pos) = pos + 8 * rest.lengthV := by
  unfold write lengthV
  rw [BitWriter.endPos_append, endPos_writePadding, endPos_writeRecord]
  omega

/-! ## Round trip -/

/-- The values that reading leaves as they are. -/
structure Canonical (rest : L3SI13RestOctets) : Prop where
  noGroup : rest.presence2 = false → rest.si13ChangeMark = 0 ∧ rest.gprsMa = {}
  group : rest.presence2 = true → rest.gprsMa.Canonical ∧ ¬ rest.gprsMa.EmptyList
  options : rest.cellOptions.Canonical

theorem leaves_parseMaGroup (presence2 : Bool) :
    Leaves (parseMaGroup presence2) fun group _ rest =>
      (presence2 = false → group = (0, {})) ∧
        (presence2 = true → group.2.Canonical ∧ (group.2.EmptyList → rest.length < 4)) := by
  cases presence2 with
  | true =>
      refine (FieldParser.ensures_readBits 2).leaves.bind fun mark _ => ?_
      refine L3GprsMobileAllocation.leaves_parse.bind fun gprsMa _ => Leaves.pure fun rest => ?_
      intro parsed _
      exact ⟨fun absent => absurd absent.symm Bool.false_ne_true,
        fun _ => ⟨parsed.1, fun empty => (parsed.2 empty).2⟩⟩
  | false =>
      exact Leaves.pure fun _ => ⟨fun _ => rfl, fun present => absurd present Bool.false_ne_true⟩

theorem leaves_parseRecord : Leaves parseRecord fun rest _ _ => Canonical rest := by
  refine FieldParser.ensures_readFlag.leaves.bind fun _ _ => ?_
  refine (FieldParser.ensures_readBits 3).leaves.bind fun _ _ => ?_
  refine (FieldParser.ensures_readBits 4).leaves.bind fun _ _ => ?_
  refine FieldParser.ensures_readFlag.leaves.bind fun presence2 _ => ?_
  refine (leaves_parseMaGroup presence2).bind fun group _ => ?_
  refine FieldParser.ensures_readFlag.leaves.bind fun _ _ => ?_
  refine (FieldParser.ensures_readBits 8).leaves.bind fun _ rac => ?_
  refine FieldParser.ensures_readFlag.leaves.bind fun _ _ => ?_
  refine (FieldParser.ensures_readBits 3).leaves.bind fun _ _ => ?_
  refine (FieldParser.ensures_readBits 2).leaves.bind fun _ _ => ?_
  refine L3GPRSCellOptions.ensures_parse.leaves.bind fun _ _ => ?_
  refine L3GPRSSI13PowerControlParameters.ensures_parse.leaves.bind fun _ _ =>
    Leaves.pure fun rest => ?_
  intro _ options _ _ _ wide _ maGroup _ _ _ _
  refine ⟨fun absent => ?_, fun present => ⟨(maGroup.2 present).1, fun empty => ?_⟩, options⟩
  · rw [maGroup.1 absent]
    exact ⟨rfl, rfl⟩
  · have short := (maGroup.2 present).2 empty
    simp only [List.length_append] at short
    omega

theorem leaves_parse : Leaves parse fun rest _ _ => Canonical rest := by
  refine leaves_parseRecord.bind fun rest _ => ?_
  exact FieldParser.ensures_alignToOctet.leaves.bind fun _ _ =>
    Leaves.pure fun _ _ canonical => canonical

theorem takes_writeMaGroup {rest : L3SI13RestOctets} (canonical : Canonical rest) (pos : Nat) :
    Takes (parseMaGroup rest.presence2) (fields pos rest.writeMaGroup)
      (some (rest.si13ChangeMark, rest.gprsMa)) := by
  unfold parseMaGroup writeMaGroup
  cases presence : rest.presence2 with
  | true =>
      obtain ⟨allocation, listed⟩ := canonical.group presence
      rw [if_pos rfl, if_pos rfl]
      refine Takes.value ?_ (by simp)
      exact (L3GprsMobileAllocation.takes_writeBits allocation listed _).yield _
  | false =>
      obtain ⟨mark, allocation⟩ := canonical.noGroup presence
      rw [if_neg Bool.false_ne_true, if_neg Bool.false_ne_true, mark, allocation]
      exact Takes.pure _

theorem takes_writeRecord {rest : L3SI13RestOctets} (canonical : Canonical rest) (pos : Nat) :
    Takes parseRecord (fields pos rest.writeRecord) (some rest) := by
  change Takes parseRecord (fields pos (writeFlag rest.presence ::
    writeValue rest.bcchChangeMark :: writeValue rest.siChangeField :: writeFlag rest.presence2 ::
    (rest.writeMaGroup ++ (writeFlag false :: writeValue rest.rac :: writeFlag rest.spgcCcchSup ::
      writeValue rest.priorityAccessThr :: writeValue rest.networkControlOrder ::
      (rest.cellOptions.writeBits ++ rest.powerControlParameters.writeBits))))) _
  apply Takes.flag
  iterate 2 refine Takes.value ?_ (by simp)
  apply Takes.flag
  refine Takes.part (takes_writeMaGroup canonical _) ?_
  refine Takes.step (FieldParser.takes_writeFlag false _) ?_
  refine Takes.value (Takes.flag ?_) (by simp)
  iterate 2 refine Takes.value ?_ (by simp)
  refine Takes.part (L3GPRSCellOptions.takes_writeBits canonical.options _) ?_
  exact (L3GPRSSI13PowerControlParameters.takes_writeBits _ _).yield _

/-- The record with its padding is read back, and the reader is at the octet boundary. -/
theorem reads_write {rest : L3SI13RestOctets} (canonical : Canonical rest) :
    ReadsBack parse rest.write rest := by
  intro before after
  have record := takes_writeRecord canonical before.length
  have reached := BitWriter.fields_length before.length rest.writeRecord
  unfold write
  rw [BitWriter.fields_append, ← reached, List.append_assoc, ← List.append_assoc before]
  generalize fields before.length rest.writeRecord = bits at record
  have padding := BitWriter.fields_length (before.length + bits.length)
    (writePadding (before.length + bits.length))
  rw [endPos_writePadding, Nat.add_left_cancel_iff, ← List.length_append] at padding
  refine (record.run_bind _ before _).trans ?_
  rw [FieldParser.toOption_bind, FieldParser.alignToOctet_eq, ← padding, List.length_append,
    List.take_left, List.drop_left]
  rfl

/-! ## The elements together -/

theorem cellOptions_exact :
    ExactCodec L3GPRSCellOptions.parse L3GPRSCellOptions.writeBits L3GPRSCellOptions.lengthBits where
  length := L3GPRSCellOptions.endPos_writeBits
  reads := by
    intro before after options next run front
    obtain ⟨_, _, _, _, canonical⟩ := L3GPRSCellOptions.ensures_parse _ _ _ _ run
    exact (Takes.readsBack (L3GPRSCellOptions.takes_writeBits canonical)).alone front

theorem gprsMa_exact :
    ExactCodec L3GprsMobileAllocation.parse L3GprsMobileAllocation.writeBits
      L3GprsMobileAllocation.lengthBits where
  length := L3GprsMobileAllocation.endPos_writeBits
  reads := by
    intro before after allocation next run front
    obtain ⟨_, rest, _, _, canonical, edge⟩ := L3GprsMobileAllocation.leaves_parse _ _ _ _ run
    have reads := @L3GprsMobileAllocation.reads_writeBits allocation canonical front []
      fun empty => ⟨(edge empty).1, by decide⟩
    rwa [List.append_nil] at reads

theorem powerControl_exact :
    ExactCodec L3GPRSSI13PowerControlParameters.parse L3GPRSSI13PowerControlParameters.writeBits
      fun _ => L3GPRSSI13PowerControlParameters.lengthBits where
  length := L3GPRSSI13PowerControlParameters.endPos_writeBits
  reads := by
    intro before after parameters next run front
    exact (Takes.readsBack
      (L3GPRSSI13PowerControlParameters.takes_writeBits parameters)).alone front

/-- The rest octets and their elements are written with their lengths, and what was parsed is read
back from what is written. -/
theorem si13_elements_exact :
    ExactCodec L3GPRSCellOptions.parse L3GPRSCellOptions.writeBits L3GPRSCellOptions.lengthBits ∧
      ExactCodec L3GprsMobileAllocation.parse L3GprsMobileAllocation.writeBits
        L3GprsMobileAllocation.lengthBits ∧
      (ExactCodec L3GPRSSI13PowerControlParameters.parse L3GPRSSI13PowerControlParameters.writeBits
        fun _ => L3GPRSSI13PowerControlParameters.lengthBits) ∧
      (∀ (rest : L3SI13RestOctets) (pos : Nat), pos % 8 = 0 →
        endPos pos (rest.write pos) = pos + 8 * rest.lengthV) ∧
      ∀ before after rest next, parse (.between before after) = .ok (rest, next) →
        ReadsBack parse rest.write rest := by
  refine ⟨cellOptions_exact, gprsMa_exact, powerControl_exact, fun rest _ => endPos_write rest, ?_⟩
  intro before after rest next run
  obtain ⟨_, _, _, _, canonical⟩ := leaves_parse _ _ _ _ run
  exact reads_write canonical

/-- All groups are there: two frequency lists, a bitmap of five frequencies, the neighbour
parameters and six bits of extension. -/
private def announced : L3SI13RestOctets where
  presence := true
  bcchChangeMark := 5
  siChangeField := 9
  presence2 := true
  si13ChangeMark := 2
  gprsMa :=
    { hsn := 11
      rflNumberListPresent := true
      rflNumbers := { numbers := [3, 14], fits := by decide }
      maLength := 5
      maBitmap := #v[0xB0, 0, 0, 0, 0, 0, 0, 0] }
  rac := 0x47
  spgcCcchSup := true
  priorityAccessThr := 6
  networkControlOrder := 1
  cellOptions :=
    { nmo := 2
      t3168 := 5
      drxTimerMax := 3
      bsCvMax := 10
      panPresence := true
      panDec := 1
      panInc := 2
      panMax := 7
      extInfoPresence := true
      extInfoLength := 6
      extInfo := [0xA4] }
  powerControlParameters := { alpha := 7, tAvgW := 21, pcMeasChan := true, nAvgI := 12 }

theorem si13_elements_exact_announced :
    endPos 8 (write announced 8) = 8 + 8 * lengthV announced ∧
      ReadsBack parse (write announced) announced := by
  have parsed : parse (.between [] (fields 0 (announced.write 0))) =
      .ok (announced, .between (fields 0 (announced.write 0)) []) := by
    set_option maxRecDepth 8000 in
    decide +kernel
  exact ⟨si13_elements_exact.2.2.2.1 announced 8 rfl,
    si13_elements_exact.2.2.2.2 [] _ announced _ parsed⟩

end L3SI13RestOctets

end Gsml3
