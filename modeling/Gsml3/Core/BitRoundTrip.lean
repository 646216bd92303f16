import Gsml3.Core.BitReading
import Gsml3.Core.BitWriter

/-!
# Writing and reading are inverse

Each call of a writer replaces the bits at its position and no others, so what a
list of calls leaves in the buffer is the concatenation of its fields.  A reader
of fewer than `2 ^ 32` octets gives them back.
-/

namespace Gsml3

open Foundation (bitValue bitString valueBits overwrite)

namespace BitWriter

/-! ## Fields -/

/-- The bits a call writes at a position. -/
def Op.field (pos : Nat) : Op → List Bool
  | .writeField value nbits => valueBits (min nbits 32) value.toNat
  | .writeBytes data => bitString data
  | .alignToOctet => valueBits ((8 - pos % 8) % 8) 0

/-- Their number. -/
def Op.width (pos : Nat) : Op → Nat
  | .writeField _ nbits => min nbits 32
  | .writeBytes data => 8 * data.length
  | .alignToOctet => (8 - pos % 8) % 8

@[simp] theorem Op.field_length (op : Op) (pos : Nat) : (op.field pos).length = op.width pos := by
  cases op with
  | writeField => exact Foundation.valueBits_length ..
  | writeBytes => exact Foundation.bitString_length ..
  | alignToOctet => exact Foundation.valueBits_length ..

/-- The position after a list of calls: the sum of the widths. -/
def endPos (pos : Nat) (ops : List Op) : Nat :=
  ops.foldl (fun pos op => pos + op.width pos) pos

@[simp] theorem endPos_nil (pos : Nat) : endPos pos [] = pos :=
  rfl

@[simp] theorem endPos_cons (pos : Nat) (op : Op) (ops : List Op) :
    endPos pos (op :: ops) = endPos (pos + op.width pos) ops :=
  rfl

@[simp] theorem endPos_append (pos : Nat) (earlier later : List Op) :
    endPos pos (earlier ++ later) = endPos (endPos pos earlier) later :=
  List.foldl_append

/-- Parts of one width, one after the other. -/
theorem endPos_flatMap {α : Type} {write : α → List Op} {width : Nat}
    (counts : ∀ part pos, endPos pos (write part) = pos + width) (parts : List α) (pos : Nat) :
    endPos pos (parts.flatMap write) = pos + width * parts.length := by
  induction parts generalizing pos with
  | nil => rfl
  | cons part parts ih =>
      rw [List.flatMap_cons, endPos_append, counts, ih, List.length_cons]
      ring

/-- The fields of a list of calls, one after the other. -/
def fields : Nat → List Op → List Bool
  | _, [] => []
  | pos, op :: ops => op.field pos ++ fields (pos + op.width pos) ops

theorem fields_length (pos : Nat) (ops : List Op) :
    pos + (fields pos ops).length = endPos pos ops := by
  induction ops generalizing pos with
  | nil => rfl
  | cons op ops ih =>
      rw [fields, List.length_append, Op.field_length, ← Nat.add_assoc, ih]
      rfl

theorem fields_append (pos : Nat) (earlier later : List Op) :
    fields pos (earlier ++ later) = fields pos earlier ++ fields (endPos pos earlier) later := by
  induction earlier generalizing pos with
  | nil => rfl
  | cons op earlier ih =>
      rw [List.cons_append, fields, ih, fields, List.append_assoc]
      rfl

/-! ## What a call writes -/

/-- A call that leaves the buffer with `field` at the position, and moves behind
it. -/
structure Wrote (writer target : BitWriter) (field : List Bool) : Prop where
  bits : target.bits = writer.bits
  pos : target.pos = writer.pos + field.length
  buf : bitString target.buf = overwrite (bitString writer.buf) writer.pos field
  length : target.buf.length = writer.buf.length

/-- The writer's bits lie in its buffer. -/
def Covered (writer : BitWriter) : Prop :=
  writer.bits ≤ 8 * writer.buf.length

namespace Wrote

variable {writer middle target : BitWriter} {first second field : List Bool}

theorem refl (writer : BitWriter) : Wrote writer writer [] :=
  ⟨rfl, rfl, (Foundation.overwrite_nil ..).symm, rfl⟩

theorem trans (covered : Covered writer) (inside : writer.pos ≤ writer.bits)
    (early : Wrote writer middle first) (late : Wrote middle target second) :
    Wrote writer target (first ++ second) := by
  refine ⟨late.bits.trans early.bits, ?_, ?_, late.length.trans early.length⟩
  · rw [late.pos, early.pos, List.length_append, Nat.add_assoc]
  · rw [late.buf, early.buf, early.pos, Foundation.overwrite_append]
    rw [Foundation.bitString_length]
    exact inside.trans covered

theorem covered (wrote : Wrote writer target field) (covered : Covered writer) :
    Covered target := by
  rw [Covered, wrote.bits, wrote.length]
  exact covered

end Wrote

/-- Setting a bit of an octet sets a bit of its list. -/
theorem setBit_testBit (octet : UInt8) {bitIdx i : Nat} (bit : Bool) (high : bitIdx < 8)
    (inside : i < 8) :
    (setBit octet bitIdx bit).toNat.testBit i =
      if i = bitIdx then bit else octet.toNat.testBit i := by
  have bound : 2 ^ bitIdx < 2 ^ 8 := Nat.pow_lt_pow_right (by decide) high
  have single : (UInt8.ofNat (1 <<< bitIdx)).toNat = 2 ^ bitIdx := by
    rw [Nat.one_shiftLeft]
    exact UInt8.toNat_ofNat_of_lt bound
  have cleared : (~~~UInt8.ofNat (1 <<< bitIdx)).toNat = 2 ^ 8 - (2 ^ bitIdx + 1) := by
    rw [UInt8.toNat_not, single, Nat.sub_sub, Nat.add_comm 1]
    rfl
  cases bit with
  | true =>
      rw [setBit, if_pos rfl, UInt8.toNat_or, Nat.testBit_or, single, Nat.testBit_two_pow]
      by_cases same : i = bitIdx
      · rw [if_pos same, decide_eq_true same.symm, Bool.or_true]
      · rw [if_neg same, decide_eq_false (Ne.symm same), Bool.or_false]
  | false =>
      rw [setBit, if_neg Bool.false_ne_true, UInt8.toNat_and, Nat.testBit_and, cleared,
        Nat.testBit_two_pow_sub_succ bound, decide_eq_true inside, Bool.true_and,
        Nat.testBit_two_pow]
      by_cases same : i = bitIdx
      · rw [if_pos same, decide_eq_true same.symm, Bool.not_true, Bool.and_false]
      · rw [if_neg same, decide_eq_false (Ne.symm same), Bool.not_false, Bool.and_true]

section Calls

variable {writer : BitWriter}

theorem putBit_wrote (covered : Covered writer) (room : writer.pos < writer.bits) (bit : Bool) :
    Wrote writer (writer.putBit bit) [bit] := by
  have inside : writer.pos < (bitString writer.buf).length := by
    rw [Foundation.bitString_length]
    exact room.trans_le covered
  refine ⟨rfl, rfl, ?_, List.length_modify ..⟩
  rw [Foundation.overwrite_set inside]
  refine List.ext_getElem? fun i => ?_
  rw [Foundation.bitString_getElem?, List.getElem?_set, Foundation.bitString_getElem?]
  have high : 7 - writer.pos % 8 < 8 := by omega
  have low : 7 - i % 8 < 8 := by omega
  by_cases same : writer.pos = i
  · obtain rfl := same
    rw [Foundation.bitString_length] at inside
    have octet := List.getElem?_eq_getElem (l := writer.buf) (i := writer.pos / 8) (by omega)
    rw [if_pos rfl, if_pos (by rw [Foundation.bitString_length]; exact inside), putBit,
      List.getElem?_modify_eq, octet]
    change some ((setBit _ _ bit).toNat.testBit _) = some bit
    rw [setBit_testBit _ _ high low, if_pos rfl]
  · rw [if_neg same, putBit, List.getElem?_modify]
    cases writer.buf[i / 8]? with
    | none => rfl
    | some octet =>
        by_cases shared : writer.pos / 8 = i / 8
        · simp only [if_pos shared]
          change some ((setBit _ _ bit).toNat.testBit _) = _
          rw [setBit_testBit _ _ high low, if_neg (by omega)]
          rfl
        · simp only [if_neg shared]
          rfl

theorem writeBits_wrote (covered : Covered writer) (value : UInt32) {n : Nat}
    (room : writer.pos + n ≤ writer.bits) :
    Wrote writer (writer.writeBits value n) (valueBits n value.toNat) := by
  induction n generalizing writer with
  | zero => exact .refl writer
  | succ n ih =>
      have first := putBit_wrote covered (by omega) (value.toNat.testBit n)
      have rest := ih (first.covered covered)
        (by rw [first.bits, first.pos, List.length_singleton]; omega)
      rw [writeBits, if_neg (by omega)]
      exact first.trans covered (by omega) rest

theorem writeField_wrote (covered : Covered writer) (value : UInt32) (nbits : Nat)
    (room : writer.pos + min nbits 32 ≤ writer.bits) :
    Wrote writer (writer.writeField value nbits) (valueBits (min nbits 32) value.toNat) :=
  writeBits_wrote covered value room

theorem writeOctet_wrote (covered : Covered writer) (v : UInt8)
    (room : writer.pos + 8 ≤ writer.bits) :
    Wrote writer (writer.writeOctet v) (valueBits 8 v.toNat) := by
  have wrote := writeField_wrote covered v.toUInt32 8 room
  rwa [UInt8.toNat_toUInt32] at wrote

/-- Octets written one by one. -/
theorem octets_wrote (covered : Covered writer) (data : List UInt8)
    (room : writer.pos + 8 * data.length ≤ writer.bits) :
    Wrote writer (data.foldl writeOctet writer) (bitString data) := by
  induction data generalizing writer with
  | nil => exact .refl writer
  | cons v data ih =>
      rw [List.length_cons] at room
      have first := writeOctet_wrote covered v (by omega)
      have rest := ih (first.covered covered)
        (by rw [first.bits, first.pos, Foundation.valueBits_length]; omega)
      exact first.trans covered (by omega) rest

theorem writeBytes_wrote (covered : Covered writer) (size : writer.bits < 2 ^ 64)
    (data : List UInt8) (room : writer.pos + 8 * data.length ≤ writer.bits) :
    Wrote writer (writer.writeBytes data) (bitString data) := by
  have wrap : (writer.pos + data.length * 8) % 2 ^ 64 = writer.pos + 8 * data.length := by omega
  rw [writeBytes, wrap]
  split
  case isTrue empty =>
    rw [List.length_eq_zero_iff.mp empty]
    exact .refl writer
  case isFalse =>
    split
    case isTrue aligned =>
      have start : 8 * (writer.pos / 8) = writer.pos := by omega
      have covered : writer.bits ≤ 8 * writer.buf.length := covered
      refine ⟨rfl, by rw [Foundation.bitString_length], ?_, ?_⟩
      · rw [Foundation.bitString_append, Foundation.bitString_append, Foundation.bitString_take,
          Foundation.bitString_drop, Nat.mul_add, start, overwrite, Foundation.bitString_length]
      · simp only [List.length_append, List.length_take, List.length_drop]
        omega
    case isFalse => exact octets_wrote covered data room

theorem exec_wrote (covered : Covered writer) (op : Op)
    (size : ∀ data, op = .writeBytes data → writer.bits < 2 ^ 64)
    (room : writer.pos + op.width writer.pos ≤ writer.bits) :
    Wrote writer (writer.exec op) (op.field writer.pos) := by
  cases op with
  | writeField value nbits => exact writeField_wrote covered value nbits room
  | writeBytes data => exact writeBytes_wrote covered (size data rfl) data room
  | alignToOctet =>
      rw [exec, alignToOctet]
      simp only [Op.width] at room
      split
      case isTrue aligned =>
        rw [Op.field, aligned]
        exact .refl writer
      case isFalse =>
        have narrow : min ((8 - writer.pos % 8) % 8) 32 = (8 - writer.pos % 8) % 8 := by omega
        have wrote := writeField_wrote covered 0 ((8 - writer.pos % 8) % 8) (by omega)
        rw [narrow] at wrote
        exact wrote

/-- A list of calls writes its fields, one after the other. -/
theorem write_wrote (covered : Covered writer) (ops : List Op)
    (size : ∀ data, .writeBytes data ∈ ops → writer.bits < 2 ^ 64)
    (room : endPos writer.pos ops ≤ writer.bits) :
    Wrote writer (writer.write ops) (fields writer.pos ops) := by
  induction ops generalizing writer with
  | nil => exact .refl writer
  | cons op ops ih =>
      have reached := fields_length (writer.pos + op.width writer.pos) ops
      change endPos (writer.pos + op.width writer.pos) ops ≤ writer.bits at room
      have first := exec_wrote covered op
        (fun data same => size data (same ▸ List.mem_cons_self)) (by omega)
      have moved := first.pos
      rw [Op.field_length] at moved
      have rest := ih (first.covered covered)
        (fun data member => first.bits ▸ size data (List.mem_cons_of_mem _ member))
        (by rw [moved, first.bits]; exact room)
      rw [moved] at rest
      exact first.trans covered (by omega) rest

end Calls

/-! ## Reading back -/

/-- The call that reads back what a call wrote, and what it has to return. -/
def Op.reading : Op → BitReader.Op × Option BitReader.Result
  | .writeField value nbits => (.readField nbits, some (.field (value.toNat % 2 ^ nbits)))
  | .writeBytes data => (.readBytes data.length, some (.octets data))
  | .alignToOctet => (.alignToOctet, some .done)

/-- A list of calls the claim is about: widths of at most 32 bits, which fit. -/
structure Fits (nbits : Nat) (ops : List Op) : Prop where
  narrow : ∀ value width, Op.writeField value width ∈ ops → width ≤ 32
  room : endPos 0 ops ≤ nbits

/-- Writing a list of calls to a buffer and reading it back. -/
structure RoundTrip (buf : List UInt8) (nbits : Nat) (ops : List Op) : Prop where
  position : (write { buf := buf, bits := nbits } ops).pos = endPos 0 ops
  unaltered : ∀ earlier later, ops = earlier ++ later →
    (bitString (write { buf := buf, bits := nbits } ops).buf).take (endPos 0 earlier) =
      (bitString (write { buf := buf, bits := nbits } earlier).buf).take (endPos 0 earlier)
  read : ∃ reader, BitReader.machine.exec (fun _ _ _ => True)
      (BitReader.make (some (write { buf := buf, bits := nbits } ops).buf) nbits)
      (ops.map Op.reading) = some reader ∧
    reader.pos = endPos 0 ops

/-- A reader at a field reads it back. -/
theorem read_field {reader : BitReader} (placed : reader.Placed) {op : Op}
    (narrow : ∀ value width, op = .writeField value width → width ≤ 32) {rest : List Bool}
    (stored : reader.cursor.bits.drop reader.pos = op.field reader.pos ++ rest) :
    BitReader.machine.step reader op.reading =
      some (reader.seek (reader.pos + op.width reader.pos)) := by
  have length := placed.bits_length
  have inside := placed.inside
  have position : reader.cursor.pos = reader.pos := rfl
  have room : reader.pos + op.width reader.pos ≤ reader.totalBits := by
    have lengths := congrArg List.length stored
    rw [List.length_drop, length, List.length_append, Op.field_length] at lengths
    omega
  cases op with
  | writeField value nbits =>
      have narrow := narrow value nbits rfl
      have whole : min nbits 32 = nbits := Nat.min_eq_left narrow
      simp only [Op.field, Op.width, whole] at stored room
      have slice : reader.cursor.slice nbits = valueBits nbits value.toNat := by
        rw [BitCursor.slice, position, stored, List.take_left' (Foundation.valueBits_length ..)]
      refine (placed.follows_readField nbits).step ?_
      rw [BitCursor.read, length, position, if_pos ⟨narrow, room⟩, slice,
        Foundation.bitValue_valueBits, Op.width, whole]
  | writeBytes data =>
      simp only [Op.field, Op.width] at stored room
      refine ((placed.follows_readBytes data.length).mpr (.inr (.inl room))).step ?_
      rw [BitCursor.read, length, position, if_pos room, stored,
        Foundation.octetGroups_bitString]
      rfl
  | alignToOctet =>
      simp only [Op.width] at room
      have next : min ((reader.pos + 7) / 8 * 8) reader.totalBits =
          reader.pos + (8 - reader.pos % 8) % 8 := by omega
      refine placed.follows_alignToOctet.step ?_
      rw [BitCursor.read, length, position, next]
      rfl

theorem read_fields {reader : BitReader} (placed : reader.Placed) {ops : List Op}
    (narrow : ∀ value width, Op.writeField value width ∈ ops → width ≤ 32) {rest : List Bool}
    (stored : reader.cursor.bits.drop reader.pos = fields reader.pos ops ++ rest) :
    BitReader.machine.exec (fun _ _ _ => True) reader (ops.map Op.reading) =
      some (reader.seek (endPos reader.pos ops)) := by
  induction ops generalizing reader with
  | nil =>
      rw [List.map_nil, Foundation.Machine.exec, endPos, List.foldl_nil, placed.seek_pos]
  | cons op ops ih =>
      rw [fields, List.append_assoc] at stored
      have first := read_field placed
        (fun value width same => narrow value width (same ▸ List.mem_cons_self ..)) stored
      have room : reader.pos + op.width reader.pos ≤ reader.totalBits := by
        have lengths := congrArg List.length stored
        rw [List.length_drop, placed.bits_length, List.length_append, Op.field_length] at lengths
        have inside := placed.inside
        omega
      have behind : (reader.seek (reader.pos + op.width reader.pos)).cursor.bits.drop
          (reader.pos + op.width reader.pos) =
            fields (reader.pos + op.width reader.pos) ops ++ rest := by
        change reader.cursor.bits.drop _ = _
        rw [← List.drop_drop, stored, List.drop_left' (Op.field_length ..)]
      have rest := ih (placed.seek room)
        (fun value width member => narrow value width (List.mem_cons_of_mem _ member)) behind
      rw [List.map_cons, Foundation.Machine.exec, first]
      exact rest

/-- Of fewer than `2 ^ 32` octets, everything written is read back. -/
theorem round_trip {buf : List UInt8} {nbits : Nat} {ops : List Op}
    (covered : nbits ≤ 8 * buf.length) (small : (nbits + 7) / 8 < 2 ^ 32)
    (fits : Fits nbits ops) : RoundTrip buf nbits ops := by
  obtain ⟨origin, origin_eq⟩ : ∃ origin : BitWriter, origin = { buf := buf, bits := nbits } :=
    ⟨_, rfl⟩
  have bits : origin.bits = nbits := by rw [origin_eq]
  have pos : origin.pos = 0 := by rw [origin_eq]
  have origin_covered : Covered origin := by rw [origin_eq]; exact covered
  have lengths : ∀ ops, (fields 0 ops).length = endPos 0 ops := fun ops => by
    rw [← fields_length, Nat.zero_add]
  have wrote : ∀ ops, endPos 0 ops ≤ nbits → Wrote origin (origin.write ops) (fields 0 ops) := by
    intro ops room
    have wrote := write_wrote origin_covered ops (fun _ _ => by omega)
      (by rw [pos, bits]; exact room)
    rwa [pos] at wrote
  have stored : ∀ ops, endPos 0 ops ≤ nbits → bitString (origin.write ops).buf =
      fields 0 ops ++ (bitString origin.buf).drop (endPos 0 ops) := by
    intro ops room
    rw [(wrote ops room).buf, overwrite, lengths, pos, Nat.zero_add]
    rfl
  constructor
  · rw [← origin_eq, (wrote ops fits.room).pos, lengths, pos, Nat.zero_add]
  · rintro earlier later rfl
    have split := fields_append 0 earlier later
    have reached : endPos 0 earlier ≤ endPos 0 (earlier ++ later) := by
      rw [← lengths, ← lengths, split, List.length_append]
      exact Nat.le_add_right ..
    rw [← origin_eq, stored _ fits.room, stored _ (reached.trans fits.room), split,
      List.append_assoc, List.take_left' (lengths earlier), List.take_left' (lengths earlier)]
  · have whole : (origin.write ops).buf.length = buf.length := by
      rw [(wrote ops fits.room).length, origin_eq]
    have placed : (BitReader.make (some (origin.write ops).buf) nbits).Placed :=
      ⟨(Nat.zero_div 8).symm, (Nat.zero_mod 8).symm, Nat.zero_le _, by
        change nbits ≤ 8 * (origin.write ops).buf.length
        rw [whole]
        exact covered, small⟩
    have short : (fields 0 ops).length ≤ nbits := by
      rw [lengths]
      exact fits.room
    have bits : (BitReader.make (some (origin.write ops).buf) nbits).cursor.bits.drop 0 =
        fields 0 ops ++ ((bitString origin.buf).drop (endPos 0 ops)).take
          (nbits - (fields 0 ops).length) := by
      change ((bitString (origin.write ops).buf).take nbits).drop 0 = _
      rw [List.drop_zero, stored ops fits.room, List.take_append, List.take_of_length_le short]
    have read := read_fields placed fits.narrow bits
    rw [← origin_eq]
    exact ⟨_, read, rfl⟩

/-! ## Buffers of `2 ^ 32` octets -/

/-- Behind the truncated number of octets no octet is loaded. -/
theorem fieldValue_truncated {reader : BitReader} (aligned : reader.bitOffset = 0)
    (beyond : reader.totalBytes % 2 ^ 32 ≤ reader.byteIndex % 2 ^ 32) :
    reader.fieldValue 8 = 0 := by
  have span : min (BitReader.fieldSpanBytes 0 8) 4 = 1 := rfl
  have none_loaded : min ((reader.byteIndex % 2 ^ 32 + 1) % 2 ^ 32) (reader.totalBytes % 2 ^ 32) -
      reader.byteIndex % 2 ^ 32 = 0 := by omega
  simp only [BitReader.fieldValue, if_pos aligned, span, BitReader.loadN, none_loaded,
    List.range'_zero, List.foldl_nil, Nat.zero_shiftRight, Nat.zero_and]

/-- Skipping whole octets from the start. -/
theorem readBytes_start {reader : BitReader} {r : Nat} (aligned : reader.bitOffset = 0)
    (start : reader.byteIndex = 0) (small : r < 2 ^ 32)
    (succeeded : (reader.readBytes r).2.2.isOk = true) :
    (reader.readBytes r).1.bitOffset = 0 ∧ (reader.readBytes r).1.byteIndex = r ∧
      (reader.readBytes r).1.totalBytes = reader.totalBytes := by
  rw [BitReader.readBytes] at succeeded ⊢
  split at succeeded
  case isTrue empty =>
    rw [if_pos empty]
    exact ⟨aligned, start.trans empty.symm, rfl⟩
  case isFalse some_octets =>
    rw [if_neg some_octets]
    split at succeeded
    case isTrue => cases succeeded
    case isFalse some_buffer =>
      rw [if_neg some_buffer]
      split at succeeded
      case isTrue => cases succeeded
      case isFalse accepted =>
        rw [if_neg accepted, if_pos aligned, start, Nat.zero_add]
        exact ⟨aligned, Nat.mod_eq_of_lt (by omega), rfl⟩

/-- A field of an octet that is not loaded does not read as one. -/
theorem readField_ne_one {reader : BitReader} (truncated : reader.fieldValue 8 = 0) :
    (reader.exec (.readField 8)).2.toOption ≠ some (.field 1) := by
  simp only [BitReader.exec, BitReader.readField, truncated]
  repeat' split
  all_goals simp [Except.map, Except.toOption]

/-- Of `2 ^ 32` octets and more, one written octet reads as zero. -/
theorem octet_misread (buf : List UInt8) {nbits : Nat} (size : nbits < 2 ^ 64)
    (large : 2 ^ 32 ≤ (nbits + 7) / 8) :
    ∃ ops, Fits nbits ops ∧ ¬ RoundTrip buf nbits ops := by
  obtain ⟨r, r_eq⟩ : ∃ r, r = (nbits + 7) % 2 ^ 64 / 8 % 2 ^ 32 := ⟨_, rfl⟩
  refine ⟨[.writeBytes (List.replicate r 0), .writeField 1 8], ⟨?_, ?_⟩, fun trip => ?_⟩
  · intro value width member
    simp only [List.mem_cons, Op.writeField.injEq, reduceCtorEq, List.not_mem_nil, or_false,
      false_or] at member
    rw [member.2]
    decide
  · simp only [endPos, List.foldl_cons, List.foldl_nil, Op.width, List.length_replicate]
    omega
  · obtain ⟨reader, executed, -⟩ := trip.read
    generalize (write { buf := buf, bits := nbits } _).buf = written at executed
    obtain ⟨middle, skipped, executed⟩ := Option.bind_eq_some_iff.mp executed
    rw [if_pos trivial] at executed
    obtain ⟨last, read, -⟩ := Option.bind_eq_some_iff.mp executed
    obtain ⟨returned, rfl⟩ := BitReader.step_eq_some skipped
    obtain ⟨misread, -⟩ := BitReader.step_eq_some read
    rw [List.length_replicate] at returned misread
    have succeeded : ((BitReader.make (some written) nbits).readBytes r).2.2.isOk = true := by
      simp only [BitReader.exec] at returned
      cases outcome : ((BitReader.make (some written) nbits).readBytes r).2.2 with
      | error error =>
          rw [outcome] at returned
          exact absurd returned.symm (Option.some_ne_none _)
      | ok => rfl
    obtain ⟨aligned, index, bytes⟩ :=
      @readBytes_start (BitReader.make (some written) nbits) r rfl rfl (by omega) succeeded
    refine readField_ne_one (fieldValue_truncated aligned ?_) misread
    have total : (BitReader.make (some written) nbits).totalBytes = (nbits + 7) % 2 ^ 64 / 8 := rfl
    rw [bytes, total]
    change _ ≤ ((BitReader.make (some written) nbits).readBytes r).1.byteIndex % 2 ^ 32
    rw [index]
    omega

/-- Everything that fits is read back exactly when the buffer has fewer than
`2 ^ 32` octets. -/
theorem round_trip_iff (buf : List UInt8) (nbits : UInt64)
    (covered : nbits.toNat ≤ 8 * buf.length) :
    (∀ ops, Fits nbits.toNat ops → RoundTrip buf nbits.toNat ops) ↔
      (nbits.toNat + 7) / 8 < 2 ^ 32 := by
  constructor
  · intro trips
    by_contra large
    obtain ⟨ops, fits, misread⟩ := octet_misread buf nbits.toNat_lt (not_lt.mp large)
    exact misread (trips ops fits)
  · exact fun small ops fits => round_trip covered small fits

/-- A buffer of two octets. -/
theorem round_trip_two_octets :
    (16 : UInt64).toNat ≤ 8 * ([0xFF, 0xFF] : List UInt8).length ∧
      ((∀ ops, Fits (16 : UInt64).toNat ops →
          RoundTrip [0xFF, 0xFF] (16 : UInt64).toNat ops) ↔
        ((16 : UInt64).toNat + 7) / 8 < 2 ^ 32) :=
  ⟨by decide, round_trip_iff [0xFF, 0xFF] 16 (by decide)⟩

/-- A buffer of `2 ^ 32` octets. -/
theorem large_buffer_misread :
    ∃ ops, Fits (2 ^ 35) ops ∧ ¬ RoundTrip (List.replicate (2 ^ 32) 0) (2 ^ 35) ops :=
  octet_misread _ (by decide) (by decide)

end BitWriter

end Gsml3
