import Gsml3.Common.GprsElements

/-!
# GPRS elements written and read back

`writeBits` writes as many bits as `lengthBits` says, and what a parser can return is read
back from them.  The list of a mobile allocation may be announced and empty at the end of
the input only.
-/

namespace Gsml3

open BitWriter (Op fields endPos)
open FieldParser (Takes Ensures Leaves ReadsBack readBits readFlag readFlags remainingBits)
open OctetBits (firstBits packBits bitAt)

theorem fields_writeFlags (flags : List Bool) (pos : Nat) :
    fields pos (flags.map writeFlag) = flags :=
  FieldParser.fields_flags flags pos

@[simp] theorem endPos_writeFlags (flags : List Bool) (pos : Nat) :
    endPos pos (flags.map writeFlag) = pos + flags.length := by
  rw [← BitWriter.fields_length, fields_writeFlags]

theorem takes_writeFlags (flags : List Bool) (pos : Nat) :
    Takes (readFlags flags.length) (fields pos (flags.map writeFlag)) (some flags) := by
  rw [fields_writeFlags]
  exact FieldParser.takes_readFlags flags

/-! ## Cell options -/

namespace L3GPRSCellOptions

theorem endPos_writePan (options : L3GPRSCellOptions) (pos : Nat) :
    endPos pos options.writePan = pos + if options.panPresence then 3 + 3 + 3 else 0 := by
  unfold writePan
  split <;> rfl

theorem endPos_writeExtInfo (options : L3GPRSCellOptions) (pos : Nat) :
    endPos pos options.writeExtInfo =
      pos + if options.extInfoPresence then 6 + options.extInfoLength.toNat else 0 := by
  unfold writeExtInfo
  split
  · rw [BitWriter.endPos_cons, endPos_writeFlags, OctetBits.firstBits_length]
    exact Nat.add_assoc ..
  · rfl

theorem endPos_writeBits (options : L3GPRSCellOptions) (pos : Nat) :
    endPos pos options.writeBits = pos + options.lengthBits := by
  unfold writeBits lengthBits
  rw [BitWriter.endPos_append, BitWriter.endPos_append, endPos_writePan, BitWriter.endPos_cons,
    endPos_writeExtInfo]
  change pos + 2 + 3 + 3 + 3 + 1 + 1 + 4 + 1 + _ + 1 + _ = _
  split <;> split <;> omega

/-- An absent group is at its defaults, and the extension octets are packed bits. -/
structure Canonical (options : L3GPRSCellOptions) : Prop where
  pan : options.panPresence = false → options.panDec = 0 ∧ options.panInc = 0 ∧ options.panMax = 0
  noExt : options.extInfoPresence = false → options.extInfoLength = 0 ∧ options.extInfo = []
  ext : options.extInfoPresence = true →
    packBits (firstBits options.extInfo options.extInfoLength.toNat) = options.extInfo

theorem ensures_parsePan (panPresence : Bool) :
    Ensures (parsePan panPresence) fun pan _ => panPresence = false → pan = (0, 0, 0) := by
  cases panPresence with
  | true =>
      refine (FieldParser.ensures_readBits 3).bind fun _ _ _ => ?_
      refine (FieldParser.ensures_readBits 3).bind fun _ _ _ => ?_
      refine (FieldParser.ensures_readBits 3).bind fun _ _ _ => Ensures.pure ?_
      intro absent
      cases absent
  | false => exact Ensures.pure fun _ => rfl

/-- Bits beyond the announced extension are 0. -/
theorem ensures_parseExtInfo (extInfoPresence : Bool) :
    Ensures (parseExtInfo extInfoPresence) fun ext _ =>
      (extInfoPresence = false → ext = (0, [])) ∧
        (extInfoPresence = true → packBits (firstBits ext.2 ext.1.toNat) = ext.2) := by
  cases extInfoPresence with
  | true =>
      refine (FieldParser.ensures_readBits 6).bind fun length _ _ => ?_
      refine (FieldParser.ensures_readFlags length.toNat).bind fun bits _ read => Ensures.pure ?_
      refine ⟨fun absent => absurd absent.symm Bool.false_ne_true, fun _ => ?_⟩
      rw [← read.1, OctetBits.firstBits_packBits]
  | false => exact Ensures.pure ⟨fun _ => rfl, fun present => (Bool.false_ne_true present).elim⟩

/-- Options that are read are canonical. -/
theorem ensures_parse : Ensures parse fun options _ => Canonical options := by
  refine (FieldParser.ensures_readBits 2).bind fun _ _ _ => ?_
  refine (FieldParser.ensures_readBits 3).bind fun _ _ _ => ?_
  refine (FieldParser.ensures_readBits 3).bind fun _ _ _ => ?_
  refine (FieldParser.ensures_readBits 3).bind fun _ _ _ => ?_
  refine (FieldParser.ensures_readBits 1).bind fun _ _ _ => ?_
  refine (FieldParser.ensures_readBits 1).bind fun _ _ _ => ?_
  refine (FieldParser.ensures_readBits 4).bind fun _ _ _ => ?_
  refine FieldParser.ensures_readFlag.bind fun panPresence _ _ => ?_
  refine (ensures_parsePan panPresence).bind fun pan _ absentPan => ?_
  refine FieldParser.ensures_readFlag.bind fun extInfoPresence _ _ => ?_
  refine (ensures_parseExtInfo extInfoPresence).bind fun ext _ extInfo => Ensures.pure ?_
  constructor
  · intro absent
    rw [absentPan absent]
    exact ⟨rfl, rfl, rfl⟩
  · intro absent
    rw [extInfo.1 absent]
    exact ⟨rfl, rfl⟩
  · exact extInfo.2

/-- The counter comes back when announced. -/
theorem takes_writePan {options : L3GPRSCellOptions} (canonical : Canonical options) (pos : Nat) :
    Takes (parsePan options.panPresence) (fields pos options.writePan)
      (some (options.panDec, options.panInc, options.panMax)) := by
  unfold parsePan writePan
  cases presence : options.panPresence with
  | true =>
      rw [if_pos rfl, if_pos rfl]
      refine Takes.value ?_ (by simp)
      refine Takes.value ?_ (by simp)
      refine Takes.value ?_ (by simp)
      exact Takes.pure _
  | false =>
      obtain ⟨dec, inc, max⟩ := canonical.pan presence
      rw [if_neg Bool.false_ne_true, if_neg Bool.false_ne_true, dec, inc, max]
      exact Takes.pure _

/-- The extension comes back. -/
theorem takes_writeExtInfo {options : L3GPRSCellOptions} (canonical : Canonical options)
    (pos : Nat) :
    Takes (parseExtInfo options.extInfoPresence) (fields pos options.writeExtInfo)
      (some (options.extInfoLength, options.extInfo)) := by
  unfold parseExtInfo writeExtInfo
  cases presence : options.extInfoPresence with
  | true =>
      rw [if_pos rfl, if_pos rfl]
      refine Takes.value ?_ (by simp)
      have bits := takes_writeFlags (firstBits options.extInfo options.extInfoLength.toNat) (pos + 6)
      rw [OctetBits.firstBits_length] at bits
      have takes := bits.yield fun bits => (options.extInfoLength, packBits bits)
      rw [Option.map_some, canonical.ext presence] at takes
      exact takes
  | false =>
      obtain ⟨length, octets⟩ := canonical.noExt presence
      rw [if_neg Bool.false_ne_true, if_neg Bool.false_ne_true, length, octets]
      exact Takes.pure _

/-- Canonical options come back. -/
theorem takes_writeBits {options : L3GPRSCellOptions} (canonical : Canonical options) (pos : Nat) :
    Takes parse (fields pos options.writeBits) (some options) := by
  have pan := takes_writePan canonical
  have ext := takes_writeExtInfo canonical
  change Takes parse (fields pos (writeValue options.nmo :: writeValue options.t3168 ::
    writeValue options.t3192 :: writeValue options.drxTimerMax ::
    writeValue options.accessBurstType :: writeValue options.controlAckType ::
    writeValue options.bsCvMax :: writeFlag options.panPresence ::
    (options.writePan ++ (writeFlag options.extInfoPresence :: options.writeExtInfo)))) _
  iterate 7 refine Takes.value ?_ (by simp)
  apply Takes.flag
  refine Takes.part (pan _) (Takes.flag ?_)
  exact (ext _).yield _

end L3GPRSCellOptions

/-! ## Power control -/

namespace L3GPRSSI13PowerControlParameters

theorem endPos_writeBits (parameters : L3GPRSSI13PowerControlParameters) (pos : Nat) :
    endPos pos parameters.writeBits = pos + lengthBits :=
  rfl

/-- The parameters come back. -/
theorem takes_writeBits (parameters : L3GPRSSI13PowerControlParameters) (pos : Nat) :
    Takes parse (fields pos parameters.writeBits) (some parameters) := by
  iterate 3 refine Takes.value ?_ (by simp)
  apply Takes.flag
  exact Takes.value (Takes.pure _) (by simp)

theorem ensures_parse : Ensures parse fun _ _ => True := by
  refine (FieldParser.ensures_readBits 4).bind fun _ _ _ => ?_
  refine (FieldParser.ensures_readBits 5).bind fun _ _ _ => ?_
  refine (FieldParser.ensures_readBits 5).bind fun _ _ _ => ?_
  refine FieldParser.ensures_readFlag.bind fun _ _ _ => ?_
  exact (FieldParser.ensures_readBits 4).bind fun _ _ _ => Ensures.pure trivial

end L3GPRSSI13PowerControlParameters

/-! ## Mobile allocation -/

namespace L3GprsMobileAllocation

theorem endPos_writeRfl (numbers : List (BitVec 4)) (pos : Nat) :
    endPos pos (writeRfl numbers) = pos + 5 * numbers.length := by
  induction numbers generalizing pos with
  | nil => rfl
  | cons number numbers ih =>
      rw [writeRfl, BitWriter.endPos_cons, BitWriter.endPos_cons, ih, List.length_cons]
      change pos + 4 + 1 + _ = _
      omega

theorem endPos_writeMa (allocation : L3GprsMobileAllocation) (pos : Nat) :
    endPos pos allocation.writeMa =
      pos + if allocation.maPresent then 0 else 6 + allocation.maLength.toNat := by
  have small := allocation.maLength.isLt
  unfold writeMa
  split
  · rfl
  · rw [BitWriter.endPos_cons, endPos_writeFlags, OctetBits.firstBits_length,
      Nat.min_eq_left (by omega)]
    exact Nat.add_assoc ..

theorem endPos_writeBits (allocation : L3GprsMobileAllocation) (pos : Nat) :
    endPos pos allocation.writeBits = pos + allocation.lengthBits := by
  unfold writeBits lengthBits
  rw [BitWriter.endPos_append, BitWriter.endPos_append, endPos_writeRfl, BitWriter.endPos_cons,
    endPos_writeMa]
  change pos + 6 + 1 + _ + 1 + _ = _
  omega

/-- An absent group is at its defaults, and the bitmap is packed bits. -/
structure Canonical (allocation : L3GprsMobileAllocation) : Prop where
  noRfl : allocation.rflNumberListPresent = false → allocation.rflNumbers = {}
  noMa : allocation.maPresent = true →
    allocation.maLength = 0 ∧ allocation.maBitmap = Vector.replicate 8 0
  ma : allocation.maPresent = false →
    bitmapOctets (packBits (firstBits allocation.maBitmap.toList allocation.maLength.toNat)) =
      allocation.maBitmap

/-- An announced list without a number. -/
def EmptyList (allocation : L3GprsMobileAllocation) : Prop :=
  allocation.rflNumberListPresent = true ∧ allocation.rflNumbers.numbers = []

/-- The octets of the map hold its first 64 bits. -/
theorem firstBits_bitmapOctets {octets : List UInt8} {count : Nat} (small : count ≤ 64) :
    firstBits (bitmapOctets octets).toList count = firstBits octets count := by
  unfold firstBits
  refine List.map_congr_left fun pos member => ?_
  have inside := List.mem_range.mp member
  unfold bitAt bitmapOctets
  rw [Vector.toList_ofFn, List.getD_eq_getElem _ _ (by rw [List.length_ofFn]; omega),
    List.getElem_ofFn]

/-- The map is empty when absent, and holds its bits when there. -/
theorem ensures_parseMa (maPresent : Bool) :
    Ensures (parseMa maPresent) fun ma read =>
      (maPresent = true → ma = (0, Vector.replicate 8 0)) ∧
        (maPresent = false →
          6 ≤ read.length ∧ bitmapOctets (packBits (firstBits ma.2.toList ma.1.toNat)) = ma.2) := by
  cases maPresent with
  | true => exact Ensures.pure ⟨fun _ => rfl, fun absent => absurd absent.symm Bool.false_ne_true⟩
  | false =>
      refine (FieldParser.ensures_readBits 6).bind fun length first wide => ?_
      refine (FieldParser.ensures_readFlags length.toNat).bind fun bits more read =>
        Ensures.pure ⟨fun present => absurd present Bool.false_ne_true, fun _ => ⟨?_, ?_⟩⟩
      · rw [List.length_append, wide]
        exact Nat.le_add_right ..
      · have small := length.isLt
        rw [firstBits_bitmapOctets (by omega), ← read.1, OctetBits.firstBits_packBits]

/-- A canonical map comes back. -/
theorem takes_writeMa {allocation : L3GprsMobileAllocation} (canonical : Canonical allocation)
    (pos : Nat) :
    Takes (parseMa allocation.maPresent) (fields pos allocation.writeMa)
      (some (allocation.maLength, allocation.maBitmap)) := by
  have small := allocation.maLength.isLt
  unfold parseMa writeMa
  cases presence : allocation.maPresent with
  | true =>
      obtain ⟨length, octets⟩ := canonical.noMa presence
      rw [if_pos rfl, if_pos rfl, length, octets]
      exact Takes.pure _
  | false =>
      rw [if_neg Bool.false_ne_true, if_neg Bool.false_ne_true, Nat.min_eq_left (by omega)]
      refine Takes.value ?_ (by simp)
      have bits := takes_writeFlags
        (firstBits allocation.maBitmap.toList allocation.maLength.toNat) (pos + 6)
      rw [OctetBits.firstBits_length] at bits
      have takes := bits.yield fun bits => (allocation.maLength, bitmapOctets (packBits bits))
      rw [Option.map_some, canonical.ma presence] at takes
      exact takes

/-! ### The list of numbers -/

/-- A number that is pushed leaves no empty list. -/
theorem push_ne_nil (stored : RflNumbers) (number : BitVec 4) :
    (stored.push number).numbers ≠ [] := by
  unfold RflNumbers.push
  split
  case isTrue => exact List.append_ne_nil_of_right_ne_nil _ (List.cons_ne_nil _ _)
  case isFalse full =>
    intro empty
    rw [empty] at full
    exact full (by decide)

/-- Reading a list leaves none empty that was not. -/
theorem ensures_parseRfl (rounds : Nat) (stored : RflNumbers) :
    Ensures (parseRfl rounds stored) fun parsed _ =>
      stored.numbers ≠ [] → parsed.numbers ≠ [] := by
  induction rounds generalizing stored with
  | zero => exact Ensures.pure id
  | succ rounds ih =>
      refine FieldParser.ensures_remainingBits.bind fun bits _ _ => ?_
      by_cases room : 5 ≤ bits
      · rw [if_pos room]
        refine (FieldParser.ensures_readBits 4).bind fun number _ _ => ?_
        refine FieldParser.ensures_readFlag.bind fun more _ _ => ?_
        have pushed := push_ne_nil stored number
        cases more with
        | true => exact (ih (stored.push number)).mono fun _ _ nonempty _ => nonempty pushed
        | false => exact Ensures.pure fun _ => pushed
      · rw [if_neg room]
        exact Ensures.pure id

/-- The list stays empty only where there are no five bits for a number. -/
theorem leaves_parseRfl (rounds : Nat) :
    Leaves (parseRfl rounds {}) fun parsed _ rest =>
      parsed.numbers = [] → rest.length < 5 ∨ rounds = 0 := by
  cases rounds with
  | zero => exact Leaves.pure fun _ _ => .inr rfl
  | succ rounds =>
      refine FieldParser.leaves_remainingBits.bind fun bits _ => ?_
      by_cases room : 5 ≤ bits
      · have nonempty : Ensures (do
            let number ← readBits 4
            let more ← readFlag
            if more then parseRfl rounds (RflNumbers.push {} number)
              else pure (RflNumbers.push {} number)) fun parsed _ => parsed.numbers ≠ [] := by
          refine (FieldParser.ensures_readBits 4).bind fun number _ _ => ?_
          refine FieldParser.ensures_readFlag.bind fun more _ _ => ?_
          have pushed := push_ne_nil {} number
          cases more with
          | true => exact (ensures_parseRfl rounds _).mono fun _ _ kept => kept pushed
          | false => exact Ensures.pure pushed
        rw [if_pos room]
        exact nonempty.leaves.mono fun _ _ _ nonempty _ empty => absurd empty nonempty
      · rw [if_neg room]
        refine Leaves.pure fun rest counted _ => .inl ?_
        rw [counted.2] at room
        exact Nat.lt_of_not_le room

/-- An announced list is empty only when fewer than five bits were left. -/
theorem leaves_parseRflList (rflNumberListPresent : Bool) :
    Leaves (parseRflList rflNumberListPresent) fun parsed _ rest =>
      (rflNumberListPresent = false → parsed = {}) ∧
        (rflNumberListPresent = true → parsed.numbers = [] → rest.length < 5) := by
  cases rflNumberListPresent with
  | true =>
      refine FieldParser.leaves_remainingBits.bind fun bits _ => ?_
      refine (leaves_parseRfl bits).mono fun parsed read rest none counted => ?_
      refine ⟨fun absent => absurd absent.symm Bool.false_ne_true, fun _ empty => ?_⟩
      rcases none empty with short | stopped
      · exact short
      · have total := counted.2
        rw [stopped, List.length_append] at total
        omega
  | false =>
      exact Leaves.pure fun _ => ⟨fun _ => rfl, fun present => absurd present Bool.false_ne_true⟩

/-- A list is its numbers. -/
theorem RflNumbers.eq_of_numbers {stored other : RflNumbers}
    (same : stored.numbers = other.numbers) : stored = other := by
  obtain ⟨numbers, fits⟩ := stored
  obtain ⟨others, fits'⟩ := other
  obtain rfl : numbers = others := same
  rfl

/-- A number goes to the end while there is room. -/
theorem push_numbers {stored : RflNumbers} (room : stored.numbers.length < 8)
    (number : BitVec 4) : (stored.push number).numbers = stored.numbers ++ [number] := by
  rw [RflNumbers.push, dif_pos room]

/-- A list that is not empty comes back. -/
theorem takes_writeRfl {stored result : RflNumbers} {numbers : List (BitVec 4)}
    (nonempty : numbers ≠ []) (joined : result.numbers = stored.numbers ++ numbers) {rounds : Nat}
    (enough : numbers.length ≤ rounds) (pos : Nat) :
    Takes (parseRfl rounds stored) (fields pos (writeRfl numbers)) (some result) := by
  induction numbers generalizing stored rounds pos with
  | nil => exact absurd rfl nonempty
  | cons number numbers ih =>
      obtain ⟨rounds, rfl⟩ : ∃ later, rounds = later + 1 :=
        ⟨rounds - 1, by rw [List.length_cons] at enough; omega⟩
      have total := congrArg List.length joined
      have fits := result.fits
      rw [List.length_append, List.length_cons] at total
      have pushed := @push_numbers stored (by omega) number
      refine Takes.remaining fun bits left => ?_
      have length := BitWriter.fields_length pos (writeRfl (number :: numbers))
      rw [endPos_writeRfl, List.length_cons] at length
      rw [if_pos (by omega)]
      refine Takes.value (Takes.flag ?_) (by simp)
      cases numbers with
      | nil =>
          obtain rfl : result = stored.push number :=
            RflNumbers.eq_of_numbers (joined.trans pushed.symm)
          exact Takes.pure _
      | cons next numbers =>
          refine ih (List.cons_ne_nil _ _) ?_ (Nat.le_of_succ_le_succ enough) _
          rw [joined, pushed, List.append_assoc]
          rfl

/-- The list comes back unless it is announced and empty. -/
theorem takes_writeRflList {allocation : L3GprsMobileAllocation}
    (canonical : Canonical allocation) (listed : ¬ EmptyList allocation) (pos : Nat) :
    Takes (parseRflList allocation.rflNumberListPresent)
      (fields pos (writeRfl allocation.rflNumbers.numbers)) (some allocation.rflNumbers) := by
  unfold parseRflList
  cases presence : allocation.rflNumberListPresent with
  | true =>
      rw [if_pos rfl]
      refine Takes.remaining fun bits left => ?_
      have length := BitWriter.fields_length pos (writeRfl allocation.rflNumbers.numbers)
      rw [endPos_writeRfl] at length
      exact takes_writeRfl (fun empty => listed ⟨presence, empty⟩) rfl (by omega) pos
  | false =>
      rw [if_neg Bool.false_ne_true, canonical.noRfl presence]
      exact Takes.pure _

/-! ### The whole element -/

/-- An allocation that is read is canonical, and empty at the end of the record only. -/
theorem leaves_parse : Leaves parse fun allocation _ rest =>
    Canonical allocation ∧
      (EmptyList allocation → allocation.maPresent = true ∧ rest.length < 4) := by
  refine (FieldParser.ensures_readBits 6).leaves.bind fun hsn _ => ?_
  refine FieldParser.ensures_readFlag.leaves.bind fun listPresent _ => ?_
  refine (leaves_parseRflList listPresent).bind fun numbers _ => ?_
  refine FieldParser.ensures_readFlag.leaves.bind fun maPresent flag => ?_
  refine (ensures_parseMa maPresent).leaves.bind fun ma read => Leaves.pure fun rest => ?_
  intro parsed one list _ _
  refine ⟨⟨list.1, fun present => ?_, fun absent => (parsed.2 absent).2⟩, ?_⟩
  · rw [parsed.1 present]
    exact ⟨rfl, rfl⟩
  · rintro ⟨present, empty⟩
    have short := list.2 present empty
    simp only [List.append_nil, List.length_append] at short one
    cases maPresent with
    | true => exact ⟨rfl, by omega⟩
    | false =>
        have wide := (parsed.2 rfl).1
        omega

/-- A canonical allocation without an empty list comes back. -/
theorem takes_writeBits {allocation : L3GprsMobileAllocation} (canonical : Canonical allocation)
    (listed : ¬ EmptyList allocation) (pos : Nat) :
    Takes parse (fields pos allocation.writeBits) (some allocation) := by
  change Takes parse (fields pos (writeValue allocation.hsn ::
    writeFlag allocation.rflNumberListPresent ::
    (writeRfl allocation.rflNumbers.numbers ++
      (writeFlag allocation.maPresent :: allocation.writeMa)))) _
  refine Takes.value (Takes.flag ?_) (by simp)
  refine Takes.part (takes_writeRflList canonical listed _) (Takes.flag ?_)
  exact (takes_writeMa canonical _).yield _

/-- Where fewer than five bits are left, an announced list is empty. -/
theorem parseRflList_short {before after : List Bool} (short : after.length < 5) :
    (parseRflList true (.between before after)).toOption = some ({}, .between before after) := by
  have left : (BitCursor.between before after).bits.length -
      (BitCursor.between before after).pos = after.length := by
    rw [BitCursor.between, List.length_append, Nat.add_sub_cancel_left]
  change (parseRfl ((BitCursor.between before after).bits.length -
    (BitCursor.between before after).pos) {} (.between before after)).toOption = _
  rw [left]
  cases count : after.length with
  | zero => rfl
  | succ rounds =>
      change ((if 5 ≤ (BitCursor.between before after).bits.length -
        (BitCursor.between before after).pos then _ else pure {} : FieldParser RflNumbers)
          (.between before after)).toOption = _
      rw [left, if_neg (Nat.not_le.mpr short)]
      rfl

/-- An empty list at the end of the record comes back. -/
theorem reads_emptyList {allocation : L3GprsMobileAllocation} (canonical : Canonical allocation)
    (empty : EmptyList allocation) (assigned : allocation.maPresent = true)
    {before after : List Bool} (short : after.length < 4) :
    (parse (.between before (fields before.length allocation.writeBits ++ after))).toOption =
      some (allocation, .between (before ++ fields before.length allocation.writeBits) after) := by
  obtain ⟨hsn, listPresent, ⟨numbers, fits⟩, maPresent, maLength, maBitmap⟩ := allocation
  obtain ⟨listed, none⟩ := empty
  obtain ⟨length, bitmap⟩ := canonical.noMa assigned
  simp only at listed none assigned length bitmap
  subst listed none assigned length bitmap
  have value := FieldParser.takes_writeValue hsn before.length (by decide) (by decide)
  have flag := FieldParser.takes_writeFlag true
  have bits : fields before.length (writeBits {
      hsn, rflNumberListPresent := true, rflNumbers := { numbers := [], fits := fits }
      maPresent := true, maLength := 0, maBitmap := Vector.replicate 8 0 }) =
        (writeValue hsn).field before.length ++ ((writeFlag true).field (before.length + 6) ++
          ((writeFlag true).field (before.length + 7) ++ [])) := rfl
  rw [bits, List.append_nil, List.append_assoc, List.append_assoc]
  refine (value.run_bind _ before _).trans (((flag _).run_bind _ _ _).trans ?_)
  rw [FieldParser.toOption_bind, parseRflList_short (by
    rw [List.length_append, Op.field_length]
    change 1 + after.length < 5
    omega)]
  refine ((flag _).run_bind _ _ _).trans ?_
  simp only [parseMa, List.append_assoc]
  rfl

/-- What the parser can return is read back. -/
theorem reads_writeBits {allocation : L3GprsMobileAllocation} (canonical : Canonical allocation)
    {before after : List Bool}
    (edge : EmptyList allocation → allocation.maPresent = true ∧ after.length < 4) :
    (parse (.between before (fields before.length allocation.writeBits ++ after))).toOption =
      some (allocation, .between (before ++ fields before.length allocation.writeBits) after) := by
  by_cases empty : EmptyList allocation
  · exact reads_emptyList canonical empty (edge empty).1 (edge empty).2
  · exact takes_writeBits canonical empty before.length before after

end L3GprsMobileAllocation

end Gsml3
