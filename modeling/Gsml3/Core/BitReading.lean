import Gsml3.Foundation.BitString
import Gsml3.Core.BitReader

/-!
# Reading refines bit lists

`BitCursor` reads the same fields from a list of bits.  A reader of the first
bits of a buffer of fewer than `2 ^ 32` octets follows it call for call, except
where `readBytes` accepts octets that end behind the last bit: its check counts
whole octets.
-/

namespace Gsml3

open Foundation (bitValue bitString octetGroups bitString_drop bitString_take)

/-! ## The abstract reader -/

/-- A position in a list of bits. -/
structure BitCursor where
  bits : List Bool
  pos : Nat := 0
deriving DecidableEq, Repr

namespace BitCursor

/-- The next `n` bits, as far as there are. -/
def slice (cursor : BitCursor) (n : Nat) : List Bool :=
  (cursor.bits.drop cursor.pos).take n

/-- A call on the list: what it returns and where it leaves the position. -/
def read (cursor : BitCursor) : BitReader.Op → Option (BitReader.Result × Nat)
  | .readField nbits =>
      if nbits ≤ 32 ∧ cursor.pos + nbits ≤ cursor.bits.length then
        some (.field (bitValue (cursor.slice nbits)), cursor.pos + nbits)
      else none
  | .peekField nbits =>
      let field := cursor.slice (min nbits 32)
      some (.field (bitValue field * 2 ^ (min nbits 32 - field.length)), cursor.pos)
  | .readBytes count =>
      if cursor.pos + 8 * count ≤ cursor.bits.length then
        some (.octets (octetGroups count (cursor.bits.drop cursor.pos)), cursor.pos + 8 * count)
      else none
  | .alignToOctet => some (.done, min ((cursor.pos + 7) / 8 * 8) cursor.bits.length)

/-- A call that fails returns nothing and leaves the position. -/
def machine : Foundation.Machine BitCursor (BitReader.Op × Option BitReader.Result) where
  step := fun cursor event => match cursor.read event.1 with
    | some (result, pos) => if event.2 = some result then some { cursor with pos := pos } else none
    | none => if event.2 = none then some cursor else none

end BitCursor

namespace BitReader

/-! ## Loads -/

section Loads

variable {buf : List UInt8}

theorem foldl_octets (octets : List UInt8) (val : Nat)
    (narrow : val * 2 ^ (8 * octets.length) + bitValue (bitString octets) < 2 ^ 32) :
    octets.foldl (fun val octet => (val <<< 8 ||| octet.toNat) % 2 ^ 32) val =
      val * 2 ^ (8 * octets.length) + bitValue (bitString octets) := by
  induction octets generalizing val with
  | nil => simp [bitString, bitValue]
  | cons octet rest ih =>
      have join : val <<< 8 ||| octet.toNat = val * 2 ^ 8 + octet.toNat := by
        rw [← Nat.shiftLeft_add_eq_or_of_lt octet.toNat_lt, Nat.shiftLeft_eq]
      have value : val * 2 ^ (8 * (octet :: rest).length) + bitValue (bitString (octet :: rest)) =
          (val * 2 ^ 8 + octet.toNat) * 2 ^ (8 * rest.length) + bitValue (bitString rest) := by
        rw [Foundation.bitString_cons, Foundation.bitValue_append, Foundation.bitValue_valueBits,
          Foundation.bitString_length, Nat.mod_eq_of_lt octet.toNat_lt, List.length_cons,
          Nat.mul_succ, pow_add]
        ring
      rw [value] at narrow ⊢
      have first : val * 2 ^ 8 + octet.toNat < 2 ^ 32 := by
        refine lt_of_le_of_lt ?_ narrow
        exact (Nat.le_mul_of_pos_right _ (Nat.two_pow_pos _)).trans (Nat.le_add_right ..)
      rw [List.foldl_cons, join, Nat.mod_eq_of_lt first]
      exact ih _ narrow

/-- A load inside the buffer is the value of its octets. -/
theorem loadN_eq {start totalBytes n : Nat} (inside : start + n ≤ totalBytes)
    (covered : totalBytes ≤ buf.length) (small : totalBytes < 2 ^ 32) (few : n ≤ 4) :
    loadN buf start totalBytes n = (bitValue (bitString ((buf.drop start).take n)), n) := by
  have length : ((buf.drop start).take n).length = n := by
    rw [List.length_take, List.length_drop]
    omega
  have octets : (List.range' start n).map (fun i => buf.getD i 0) = (buf.drop start).take n := by
    refine List.ext_getElem (by rw [List.length_map, List.length_range', length]) ?_
    intro i inRange inBuf
    rw [length] at inBuf
    rw [List.getElem_map, List.getElem_range', List.getElem_take, List.getElem_drop, Nat.one_mul,
      List.getD_eq_getElem _ _ (by omega)]
  have narrow : bitValue (bitString ((buf.drop start).take n)) < 2 ^ 32 := by
    refine (Foundation.bitValue_lt _).trans_le (Nat.pow_le_pow_right (by decide) ?_)
    rw [Foundation.bitString_length, length]
    omega
  have stop : min ((start + n) % 2 ^ 32) totalBytes - start = n := by
    rw [Nat.mod_eq_of_lt (by omega)]
    omega
  have value := foldl_octets ((buf.drop start).take n) 0 (by simpa using narrow)
  rw [← octets, List.foldl_map, octets] at value
  simp only [loadN, Nat.mod_eq_of_lt (show start < 2 ^ 32 by omega), Nat.mod_eq_of_lt small, stop,
    value, Nat.zero_mul, Nat.zero_add]

/-- Shifting and masking a load cuts out a field. -/
theorem window_eq {index off octets n : Nat} (inside : index + octets ≤ buf.length)
    (fits : off + n ≤ 8 * octets) (narrow : n ≤ 32) :
    (bitValue (bitString ((buf.drop index).take octets)) >>> (octets * 8 - off - n)) &&&
        fieldMask n =
      bitValue (((bitString buf).drop (8 * index + off)).take n) := by
  have length : (bitString ((buf.drop index).take octets)).length = 8 * octets := by
    rw [Foundation.bitString_length, List.length_take, List.length_drop]
    omega
  have mask : fieldMask n = 2 ^ n - 1 := by
    rw [fieldMask, Nat.shiftRight_eq_div_pow]
    interval_cases n <;> rfl
  have field := Foundation.bitValue_slice (show off + n ≤ _ by rw [length]; exact fits)
  rw [length, Nat.mul_comm] at field
  rw [mask, Nat.and_two_pow_sub_one_eq_mod, Nat.shiftRight_eq_div_pow, ← field, bitString_take,
    bitString_drop, List.drop_take, List.drop_drop, List.take_take, Nat.min_eq_left (by omega)]

end Loads

/-! ## Fields -/

/-- The shape of a reader over a buffer of fewer than `2 ^ 32` octets. -/
structure Placed (reader : BitReader) : Prop where
  byteIndex : reader.byteIndex = reader.pos / 8
  bitOffset : reader.bitOffset = reader.pos % 8
  inside : reader.pos ≤ reader.totalBits
  covered : reader.totalBits ≤ 8 * reader.octets.length
  small : (reader.totalBits + 7) / 8 < 2 ^ 32

/-- The list of the first `totalBits` bits, at the reader's position. -/
def cursor (reader : BitReader) : BitCursor where
  bits := (bitString reader.octets).take reader.totalBits
  pos := reader.pos

namespace Placed

variable {reader : BitReader} {n : Nat}

theorem bits_length (placed : Placed reader) : reader.cursor.bits.length = reader.totalBits := by
  have covered := placed.covered
  rw [cursor, List.length_take, Foundation.bitString_length, Nat.min_eq_left covered]

theorem totalBytes (placed : Placed reader) :
    reader.totalBytes = (reader.totalBits + 7) / 8 := by
  have covered := placed.covered
  have small := placed.small
  cases buf : reader.buf with
  | none =>
      rw [octets, buf] at covered
      simp only [Option.getD_none, List.length_nil] at covered
      simp only [BitReader.totalBytes, buf]
      omega
  | some =>
      simp only [BitReader.totalBytes, buf, bitBytes]
      omega

theorem bitBytes (placed : Placed reader) : reader.bitBytes = (reader.totalBits + 7) / 8 := by
  have small := placed.small
  rw [BitReader.bitBytes]
  omega

theorem remainingBytes (placed : Placed reader) :
    reader.remainingBytes = (reader.totalBits - reader.pos + 7) / 8 := by
  have small := placed.small
  have inside := placed.inside
  rw [BitReader.remainingBytes]
  omega

theorem seek (placed : Placed reader) {pos : Nat} (inside : pos ≤ reader.totalBits) :
    Placed (reader.seek pos) :=
  ⟨rfl, rfl, inside, placed.covered, placed.small⟩

/-- The field cut out of the octets it spans. -/
theorem span_eq (placed : Placed reader) {m : Nat} (fits : reader.bitOffset + n ≤ 8 * m)
    (spanned : 8 * m < reader.bitOffset + n + 8) (narrow : n ≤ 32)
    (inside : reader.pos + n ≤ reader.totalBits) :
    (bitValue (bitString ((reader.octets.drop reader.byteIndex).take m)) >>>
        (m * 8 - reader.bitOffset - n)) &&& fieldMask n =
      bitValue (reader.cursor.slice n) := by
  have covered := placed.covered
  have byteIndex := placed.byteIndex
  have bitOffset := placed.bitOffset
  have start : 8 * reader.byteIndex + reader.bitOffset = reader.pos := by omega
  have short : n ≤ reader.totalBits - reader.pos := by omega
  rw [window_eq (by omega) fits narrow, start, BitCursor.slice, cursor, List.drop_take,
    List.take_take, Nat.min_eq_left short]

/-- A load that covers the field, cut out by a shift and a mask. -/
theorem load_eq (placed : Placed reader) {m : Nat} (fits : reader.bitOffset + n ≤ 8 * m)
    (spanned : 8 * m < reader.bitOffset + n + 8) (few : m ≤ 4) (narrow : n ≤ 32)
    (inside : reader.pos + n ≤ reader.totalBits) :
    ((loadN reader.octets reader.byteIndex reader.totalBytes m).1 >>>
        ((loadN reader.octets reader.byteIndex reader.totalBytes m).2 * 8 -
          reader.bitOffset - n)) &&& fieldMask n =
      bitValue (reader.cursor.slice n) := by
  have small := placed.small
  have covered := placed.covered
  have byteIndex := placed.byteIndex
  have bitOffset := placed.bitOffset
  have total := placed.totalBytes
  rw [loadN_eq (by omega) (by omega) (by omega) few]
  exact placed.span_eq fits spanned narrow inside

/-- The field at the position, on all three paths. -/
theorem fieldValue_eq (placed : Placed reader) (positive : 0 < n) (narrow : n ≤ 32)
    (inside : reader.pos + n ≤ reader.totalBits) :
    reader.fieldValue n = bitValue (reader.cursor.slice n) := by
  have offset_lt : reader.bitOffset < 8 := by
    rw [placed.bitOffset]
    exact Nat.mod_lt _ (by decide)
  simp only [fieldValue, fieldSpanBytes, if_neg (Nat.pos_iff_ne_zero.mp positive)]
  split
  case isTrue aligned =>
    have span : min ((0 + n - 1) / 8 + 1) 4 = (n - 1) / 8 + 1 := by omega
    have load := placed.load_eq (m := (n - 1) / 8 + 1) (by omega) (by omega) (by omega)
      narrow inside
    rw [aligned, Nat.sub_zero] at load
    rw [span]
    exact load
  case isFalse misaligned =>
    split
    case isTrue enough =>
      exact placed.load_eq (by omega) (by omega) enough.2 narrow inside
    case isFalse =>
      split
      case isTrue window =>
        have span : min ((reader.bitOffset + n - 1) / 8 + 1) 4 =
            (reader.bitOffset + n - 1) / 8 + 1 := by omega
        rw [span]
        exact placed.load_eq (by omega) (by omega) (by omega) narrow inside
      case isFalse wide =>
        have small := placed.small
        have covered := placed.covered
        have byteIndex := placed.byteIndex
        have bitOffset := placed.bitOffset
        have total := placed.totalBytes
        have five := placed.span_eq (m := 5) (by omega) (by omega) narrow inside
        have join := List.take_add (l := reader.octets.drop reader.byteIndex) (i := 4) (j := 1)
        rw [List.drop_drop] at join
        have last :
            (bitString ((reader.octets.drop (reader.byteIndex + 4)).take 1)).length = 8 := by
          rw [Foundation.bitString_length, List.length_take, List.length_drop]
          omega
        have low := Foundation.bitValue_lt
          (bitString ((reader.octets.drop (reader.byteIndex + 4)).take 1))
        rw [last] at low
        rw [join, Foundation.bitString_append, Foundation.bitValue_append, last,
          ← Nat.shiftLeft_eq, Nat.shiftLeft_add_eq_or_of_lt low] at five
        rw [loadN_eq (by omega) (by omega) (by omega) (by decide),
          loadN_eq (by omega) (by omega) (by omega) (by decide)]
        exact five

theorem seek_pos (placed : Placed reader) : reader.seek reader.pos = reader := by
  rw [BitReader.seek, ← placed.byteIndex, ← placed.bitOffset]

theorem buf_ne_none (placed : Placed reader) (some_bits : 0 < reader.totalBits) :
    reader.buf ≠ none := by
  intro null
  have covered := placed.covered
  rw [octets, null] at covered
  simp only [Option.getD_none, List.length_nil] at covered
  omega

theorem readField_eq (placed : Placed reader) (positive : 0 < n) (narrow : n ≤ 32)
    (inside : reader.pos + n ≤ reader.totalBits) :
    reader.readField n =
      (reader.seek (reader.pos + n), .ok (bitValue (reader.cursor.slice n))) := by
  have small := placed.small
  have wrap : (reader.pos + n) % 2 ^ 64 = reader.pos + n := by omega
  rw [readField, if_neg (by omega), if_neg (placed.buf_ne_none (by omega)), if_neg (by omega),
    wrap, if_neg (by omega), placed.fieldValue_eq positive narrow inside]

/-- A field that ends behind the last bit is an error. -/
theorem readField_beyond (placed : Placed reader) (narrow : n ≤ 32)
    (beyond : reader.totalBits < reader.pos + n) :
    ∃ error, reader.readField n = (reader, .error error) := by
  have small := placed.small
  have inside := placed.inside
  have wrap : (reader.pos + n) % 2 ^ 64 = reader.pos + n := by omega
  rw [readField, if_neg (by omega)]
  split
  case isTrue => exact ⟨_, rfl⟩
  case isFalse =>
    rw [if_neg (by omega), wrap, if_pos beyond]
    exact ⟨_, rfl⟩

/-! ## Octets inside octets -/

/-- The octets cut out of one load. -/
theorem chunk_eq (placed : Placed reader) (misaligned : reader.bitOffset ≠ 0) {count : Nat}
    (few : count ≤ 3) (inside : reader.pos + 8 * count ≤ reader.totalBits) :
    ((List.range count).map fun i =>
        UInt8.ofNat ((loadN reader.octets reader.byteIndex reader.totalBytes (count + 1)).1 >>>
          ((loadN reader.octets reader.byteIndex reader.totalBytes (count + 1)).2 * 8 -
            reader.bitOffset - (i + 1) * 8))) =
      octetGroups count (reader.cursor.bits.drop reader.pos) := by
  have small := placed.small
  have covered := placed.covered
  have byteIndex := placed.byteIndex
  have bitOffset := placed.bitOffset
  have total := placed.totalBytes
  rw [loadN_eq (by omega) (by omega) (by omega) (by omega), Foundation.octetGroups_eq_map]
  refine List.map_congr_left fun i before => ?_
  rw [List.mem_range] at before
  have window := @window_eq reader.octets reader.byteIndex (reader.bitOffset + 8 * i) (count + 1) 8
    (by omega) (by omega) (by decide)
  have shift : (count + 1) * 8 - (reader.bitOffset + 8 * i) - 8 =
      (count + 1) * 8 - reader.bitOffset - (i + 1) * 8 := by omega
  have start : 8 * reader.byteIndex + (reader.bitOffset + 8 * i) = reader.pos + 8 * i := by omega
  have octet : ∀ value : Nat, UInt8.ofNat (value &&& fieldMask 8) = UInt8.ofNat value := by
    intro value
    have mask : fieldMask 8 = 2 ^ 8 - 1 := rfl
    rw [mask, Nat.and_two_pow_sub_one_eq_mod]
    exact UInt8.ofNat_mod_size
  rw [shift, start] at window
  rw [← octet, window, cursor, List.drop_drop, List.drop_take, List.take_take,
    Nat.min_eq_left (by omega)]

/-- One round at a position inside an octet. -/
theorem readChunks_chunk (placed : Placed reader) (misaligned : reader.pos % 8 ≠ 0)
    {left : Nat} (some_left : left ≠ 0)
    (inside : reader.pos + 8 * min left 3 ≤ reader.totalBits)
    (enough : fieldSpanBytes (reader.pos % 8) (min left 3 * 8) ≤ reader.remainingBytes)
    (rounds : Nat) (out : List UInt8) :
    readChunks (rounds + 1) reader out left =
      readChunks rounds (reader.seek (reader.pos + 8 * min left 3))
        (out ++ octetGroups (min left 3) (reader.cursor.bits.drop reader.pos))
        (left - min left 3) := by
  have small := placed.small
  have bitOffset := placed.bitOffset
  have span : fieldSpanBytes (reader.pos % 8) (min left 3 * 8) = min left 3 + 1 := by
    rw [fieldSpanBytes, if_neg (by omega)]
    omega
  have chunk := placed.chunk_eq (by omega) (Nat.min_le_right left 3) inside
  have next : (reader.pos + min left 3 * 8) % 2 ^ 64 = reader.pos + 8 * min left 3 := by omega
  have moved : reader.seek (reader.pos + 8 * min left 3) =
      { reader with
        pos := reader.pos + 8 * min left 3
        byteIndex := (reader.pos + 8 * min left 3) / 8 } := by
    have same : (reader.pos + 8 * min left 3) % 8 = reader.bitOffset := by omega
    rw [BitReader.seek, same]
  rw [bitOffset] at chunk
  rw [span] at enough
  simp only [readChunks, if_neg some_left, span, next]
  rw [if_pos ⟨enough, by omega⟩, chunk, moved]

/-- Octets inside the list are read in order. -/
theorem readChunks_eq (placed : Placed reader) (misaligned : reader.pos % 8 ≠ 0)
    {rounds left : Nat} (enough : left ≤ rounds) (out : List UInt8)
    (inside : reader.pos + 8 * left ≤ reader.totalBits) :
    readChunks rounds reader out left =
      (reader.seek (reader.pos + 8 * left),
        out ++ octetGroups left (reader.cursor.bits.drop reader.pos), .ok ()) := by
  induction rounds generalizing reader left out with
  | zero =>
      obtain rfl : left = 0 := by omega
      rw [readChunks, Nat.mul_zero, Nat.add_zero, placed.seek_pos, octetGroups, List.append_nil]
  | succ rounds ih =>
      by_cases finished : left = 0
      · rw [readChunks, if_pos finished, finished, Nat.mul_zero, Nat.add_zero, placed.seek_pos,
          octetGroups, List.append_nil]
      · -- a round reads `taken` octets, and the rest is read from behind them
        have round : ∀ taken, 0 < taken → taken ≤ left →
            readChunks rounds (reader.seek (reader.pos + 8 * taken))
                (out ++ octetGroups taken (reader.cursor.bits.drop reader.pos)) (left - taken) =
              (reader.seek (reader.pos + 8 * left),
                out ++ octetGroups left (reader.cursor.bits.drop reader.pos), .ok ()) := by
          intro taken positive bounded
          have within : reader.pos + 8 * taken ≤ reader.totalBits := by omega
          have fewer : left - taken ≤ rounds := by omega
          have rest := ih (placed.seek within) (by simp only [BitReader.seek]; omega) fewer
            (out ++ octetGroups taken (reader.cursor.bits.drop reader.pos))
            (by simp only [BitReader.seek]; omega)
          have groups := Foundation.octetGroups_add taken (left - taken)
            (reader.cursor.bits.drop reader.pos)
          have stop : reader.pos + 8 * taken + 8 * (left - taken) = reader.pos + 8 * left := by
            omega
          rw [Nat.add_sub_cancel' bounded, List.drop_drop] at groups
          rw [rest, groups, ← List.append_assoc]
          simp only [BitReader.seek, stop]
          rfl
        by_cases window : fieldSpanBytes (reader.pos % 8) (min left 3 * 8) ≤ reader.remainingBytes
        · rw [placed.readChunks_chunk misaligned finished (by omega) window]
          exact round (min left 3) (by omega) (Nat.min_le_left ..)
        · have field := placed.readField_eq (n := 8) (by decide) (by decide) (by omega)
          rw [readChunks, if_neg finished]
          simp only [window, false_and, if_false, field]
          exact round 1 Nat.one_pos (by omega)

/-- When the octets end behind the last bit, the whole octets before it are read
and then the call fails. -/
theorem readChunks_short (placed : Placed reader) (misaligned : reader.pos % 8 ≠ 0)
    {rounds left : Nat} (enough : left ≤ rounds) (out : List UInt8)
    (beyond : reader.totalBits < reader.pos + 8 * left) :
    ∃ error written, readChunks rounds reader out left =
      (reader.seek (reader.pos + 8 * ((reader.totalBits - reader.pos) / 8)), written,
        .error error) := by
  have inside := placed.inside
  induction rounds generalizing reader left out with
  | zero => omega
  | succ rounds ih =>
      have some_left : left ≠ 0 := by omega
      -- a round reads `taken` octets, and the rest fails behind them
      have round : ∀ taken out, 0 < taken → taken ≤ left →
          reader.pos + 8 * taken ≤ reader.totalBits →
          ∃ error written,
            readChunks rounds (reader.seek (reader.pos + 8 * taken)) out (left - taken) =
              (reader.seek (reader.pos + 8 * ((reader.totalBits - reader.pos) / 8)), written,
                .error error) := by
        intro taken out positive bounded within
        have fewer : left - taken ≤ rounds := by omega
        obtain ⟨error, written, rest⟩ := ih (placed.seek within)
          (by simp only [BitReader.seek]; omega) fewer out (by simp only [BitReader.seek]; omega)
          within
        have stop : reader.pos + 8 * taken +
            8 * ((reader.totalBits - (reader.pos + 8 * taken)) / 8) =
              reader.pos + 8 * ((reader.totalBits - reader.pos) / 8) := by omega
        refine ⟨error, written, rest.trans ?_⟩
        simp only [BitReader.seek, stop]
      have span : fieldSpanBytes (reader.pos % 8) (min left 3 * 8) = min left 3 + 1 := by
        rw [fieldSpanBytes, if_neg (by omega)]
        omega
      by_cases window : fieldSpanBytes (reader.pos % 8) (min left 3 * 8) ≤ reader.remainingBytes
      · have within : reader.pos + 8 * min left 3 ≤ reader.totalBits := by
          rw [span, placed.remainingBytes] at window
          omega
        rw [placed.readChunks_chunk misaligned some_left within window]
        exact round _ _ (by omega) (Nat.min_le_left ..) within
      · rw [readChunks, if_neg some_left]
        simp only [window, false_and, if_false]
        by_cases fits : reader.pos + 8 ≤ reader.totalBits
        · rw [placed.readField_eq (n := 8) (by decide) (by decide) fits]
          exact round 1 _ Nat.one_pos (by omega) fits
        · obtain ⟨error, field⟩ := placed.readField_beyond (n := 8) (by decide) (by omega)
          have none_left : (reader.totalBits - reader.pos) / 8 = 0 := by omega
          rw [field, none_left, Nat.mul_zero, Nat.add_zero, placed.seek_pos]
          exact ⟨error, out, rfl⟩

end Placed

/-! ## Calls -/

/-- A call whose octets end inside the list, or which fails before it has read
any: there is no buffer, the octet-wise check refuses it, or it starts inside the
last octet. -/
def WithinBits (reader : BitReader) : Op → Prop
  | .readBytes count =>
      reader.buf = none ∨ reader.pos + 8 * count ≤ reader.totalBits ∨
        reader.bitBytes < (reader.pos / 8 + count) % 2 ^ 64 ∨
        reader.pos % 8 ≠ 0 ∧ reader.totalBits < reader.pos + 8
  | _ => True

/-- A call returns what the list returns, and moves where it moves. -/
def Follows (reader : BitReader) (op : Op) : Prop :=
  (reader.exec op).2.toOption = (reader.cursor.read op).map Prod.fst ∧
    (reader.exec op).1 = reader.seek (((reader.cursor.read op).map Prod.snd).getD reader.pos)

namespace Placed

variable {reader : BitReader}

theorem follows_succeeds {op : Op} {result : Result} {pos : Nat}
    (read : reader.cursor.read op = some (result, pos))
    (exec : reader.exec op = (reader.seek pos, .ok result)) : Follows reader op := by
  rw [Follows, read, exec]
  exact ⟨rfl, rfl⟩

theorem follows_fails (placed : Placed reader) {op : Op} {error : ParseError}
    (read : reader.cursor.read op = none)
    (exec : reader.exec op = (reader, .error error)) : Follows reader op := by
  rw [Follows, read, exec]
  exact ⟨rfl, placed.seek_pos.symm⟩

theorem follows_readField (placed : Placed reader) (nbits : Nat) :
    Follows reader (.readField nbits) := by
  have length := placed.bits_length
  have inside := placed.inside
  have position : reader.cursor.pos = reader.pos := rfl
  by_cases fits : nbits ≤ 32 ∧ reader.pos + nbits ≤ reader.totalBits
  · have read : reader.cursor.read (.readField nbits) =
        some (.field (bitValue (reader.cursor.slice nbits)), reader.pos + nbits) := by
      rw [BitCursor.read, length, position, if_pos fits]
    refine follows_succeeds read ?_
    rcases Nat.eq_zero_or_pos nbits with rfl | positive
    · rw [Nat.add_zero, placed.seek_pos]
      simp only [exec, readField, if_true, BitCursor.slice, List.take_zero]
      rfl
    · simp only [exec, placed.readField_eq positive fits.1 fits.2]
      rfl
  · have read : reader.cursor.read (.readField nbits) = none := by
      rw [BitCursor.read, length, position, if_neg fits]
    obtain ⟨error, failed⟩ : ∃ error, reader.readField nbits = (reader, .error error) := by
      by_cases narrow : nbits ≤ 32
      · exact placed.readField_beyond narrow (by omega)
      · rw [readField, if_neg (by omega)]
        split
        case isTrue => exact ⟨_, rfl⟩
        case isFalse => exact ⟨_, if_pos (by omega)⟩
    have exec : reader.exec (.readField nbits) = (reader, .error error) := by
      simp only [BitReader.exec, failed]
      rfl
    exact placed.follows_fails read exec

theorem peekField_eq (placed : Placed reader) (nbits : Nat) :
    reader.peekField nbits =
      bitValue (reader.cursor.slice (min nbits 32)) *
        2 ^ (min nbits 32 - (reader.cursor.slice (min nbits 32)).length) := by
  have inside := placed.inside
  have small := placed.small
  -- the field stops at the last bit
  obtain ⟨actual, actual_eq⟩ :
      ∃ actual, actual = min (min nbits 32) (reader.totalBits - reader.pos) :=
    ⟨_, rfl⟩
  have cut : reader.cursor.slice (min nbits 32) = reader.cursor.slice actual := by
    have rest : (reader.cursor.bits.drop reader.cursor.pos).length =
        reader.totalBits - reader.pos := by
      rw [List.length_drop, placed.bits_length]
      rfl
    rw [BitCursor.slice, BitCursor.slice, List.take_eq_take_iff, rest, actual_eq]
    omega
  have length : (reader.cursor.slice actual).length = actual := by
    have position : reader.cursor.pos = reader.pos := rfl
    rw [BitCursor.slice, List.length_take, List.length_drop, placed.bits_length, position]
    omega
  have bound := Foundation.bitValue_lt (reader.cursor.slice actual)
  rw [length] at bound
  rw [cut, length]
  rcases Nat.eq_zero_or_pos nbits with rfl | positive
  · rw [peekField, if_pos rfl]
    obtain rfl : actual = 0 := by omega
    simp only [BitCursor.slice, List.take_zero]
    rfl
  · have wrap : (min ((reader.pos + min nbits 32) % 2 ^ 64) reader.totalBits + 2 ^ 64 -
        reader.pos) % 2 ^ 32 = actual := by omega
    simp only [peekField, if_neg (Nat.pos_iff_ne_zero.mp positive), wrap]
    split
    case isTrue empty =>
      subst empty
      simp only [BitCursor.slice, List.take_zero]
      exact (Nat.zero_mul _).symm
    case isFalse some_bits =>
      rw [placed.fieldValue_eq (by omega) (by omega) (by omega), Nat.shiftLeft_eq]
      refine Nat.mod_eq_of_lt ?_
      calc bitValue (reader.cursor.slice actual) * 2 ^ (min nbits 32 - actual)
          < 2 ^ actual * 2 ^ (min nbits 32 - actual) :=
            Nat.mul_lt_mul_of_pos_right bound (Nat.two_pow_pos _)
        _ = 2 ^ min nbits 32 := by rw [← pow_add, Nat.add_sub_cancel' (by omega)]
        _ ≤ 2 ^ 32 := Nat.pow_le_pow_right (by decide) (Nat.min_le_right ..)

theorem follows_peekField (placed : Placed reader) (nbits : Nat) :
    Follows reader (.peekField nbits) := by
  refine follows_succeeds rfl ?_
  rw [exec, placed.peekField_eq]
  change _ = (reader.seek reader.pos, _)
  rw [placed.seek_pos]

theorem follows_alignToOctet (placed : Placed reader) : Follows reader .alignToOctet := by
  have inside := placed.inside
  refine follows_succeeds rfl ?_
  rw [exec, alignToOctet, placed.bits_length]
  change _ = (reader.seek (min ((reader.pos + 7) / 8 * 8) reader.totalBits), _)
  split
  case isTrue aligned =>
    have same : min ((reader.pos + 7) / 8 * 8) reader.totalBits = reader.pos := by omega
    rw [same]
  case isFalse =>
    have next : (reader.pos + 7) / 8 * 8 = reader.pos + (8 - reader.pos % 8) := by omega
    rw [next]

/-- The octets at an octet boundary are the bits there. -/
theorem octets_eq (placed : Placed reader) (aligned : reader.pos % 8 = 0) {count : Nat}
    (inside : reader.pos + 8 * count ≤ reader.totalBits) :
    (reader.octets.drop reader.byteIndex).take count =
      octetGroups count (reader.cursor.bits.drop reader.pos) := by
  have covered := placed.covered
  have byteIndex := placed.byteIndex
  have start : 8 * reader.byteIndex = reader.pos := by omega
  obtain ⟨out, out_eq⟩ : ∃ out, out = (reader.octets.drop reader.byteIndex).take count := ⟨_, rfl⟩
  have length : out.length = count := by
    rw [out_eq, List.length_take, List.length_drop]
    omega
  have bits : (reader.cursor.bits.drop reader.pos).take (8 * count) = bitString out := by
    have short : 8 * count ≤ reader.totalBits - reader.pos := by omega
    rw [out_eq, bitString_take, bitString_drop, start, cursor, List.drop_take, List.take_take,
      Nat.min_eq_left short]
  have groups := Foundation.octetGroups_bitString out
    ((reader.cursor.bits.drop reader.pos).drop (8 * count))
  rw [← bits, List.take_append_drop, length] at groups
  rw [← out_eq, groups]

/-- Octets that end inside the list are read. -/
theorem readBytes_eq (placed : Placed reader) {count : Nat}
    (inside : reader.pos + 8 * count ≤ reader.totalBits) :
    reader.readBytes count =
      (reader.seek (reader.pos + 8 * count),
        octetGroups count (reader.cursor.bits.drop reader.pos), .ok ()) := by
  have small := placed.small
  have covered := placed.covered
  have byteIndex := placed.byteIndex
  have bitOffset := placed.bitOffset
  rcases Nat.eq_zero_or_pos count with rfl | positive
  · rw [readBytes, if_pos rfl, Nat.mul_zero, Nat.add_zero, placed.seek_pos, octetGroups]
  · have fits : ¬ reader.bitBytes < (reader.pos / 8 + count) % 2 ^ 64 := by
      rw [placed.bitBytes]
      omega
    rw [readBytes, if_neg (by omega), if_neg (placed.buf_ne_none (by omega)), if_neg fits]
    split
    case isTrue aligned =>
      have next : (reader.pos + count * 8) % 2 ^ 64 = reader.pos + 8 * count := by omega
      have index : (reader.byteIndex + count) % 2 ^ 64 = (reader.pos + 8 * count) / 8 := by omega
      have offset : (reader.pos + 8 * count) % 8 = reader.bitOffset := by omega
      rw [next, index, BitReader.seek, offset, placed.octets_eq (by omega) inside]
    case isFalse misaligned =>
      rw [placed.readChunks_eq (by omega) le_rfl [] inside]
      rfl

/-- A call without a buffer, or which the octet-wise check refuses, fails. -/
theorem readBytes_refused {count : Nat} (positive : 0 < count)
    (refused : reader.buf = none ∨ reader.bitBytes < (reader.pos / 8 + count) % 2 ^ 64) :
    ∃ error, reader.readBytes count = (reader, [], .error error) := by
  rw [readBytes, if_neg (Nat.pos_iff_ne_zero.mp positive)]
  split
  case isTrue => exact ⟨_, rfl⟩
  case isFalse some_buffer =>
    exact ⟨_, if_pos (refused.resolve_left some_buffer)⟩

/-- The octet-wise check accepts octets that end behind the last bit: at an octet
boundary they are read, elsewhere the call fails behind the last whole octet. -/
theorem readBytes_short (placed : Placed reader) {count : Nat} (some_buffer : reader.buf ≠ none)
    (accepted : ¬ reader.bitBytes < (reader.pos / 8 + count) % 2 ^ 64)
    (beyond : reader.totalBits < reader.pos + 8 * count) :
    (∃ next result, reader.exec (.readBytes count) = (next, .ok result)) ∧ reader.pos % 8 = 0 ∨
      reader.pos % 8 ≠ 0 ∧
        ∃ error, reader.exec (.readBytes count) =
          (reader.seek (reader.pos + 8 * ((reader.totalBits - reader.pos) / 8)),
            .error error) := by
  have inside := placed.inside
  have bitOffset := placed.bitOffset
  simp only [exec]
  rw [readBytes, if_neg (by omega), if_neg some_buffer, if_neg accepted]
  split
  case isTrue aligned => exact .inl ⟨⟨_, _, rfl⟩, by omega⟩
  case isFalse misaligned =>
    obtain ⟨error, written, failed⟩ :=
      placed.readChunks_short (by omega) (le_refl count) [] beyond
    rw [failed]
    exact .inr ⟨by omega, error, rfl⟩

/-- `readBytes` follows the list of bits exactly where it keeps to them. -/
theorem follows_readBytes (placed : Placed reader) (count : Nat) :
    Follows reader (.readBytes count) ↔ reader.WithinBits (.readBytes count) := by
  have length := placed.bits_length
  have inside := placed.inside
  have position : reader.cursor.pos = reader.pos := rfl
  by_cases fits : reader.pos + 8 * count ≤ reader.totalBits
  · have read : reader.cursor.read (.readBytes count) =
        some (.octets (octetGroups count (reader.cursor.bits.drop reader.pos)),
          reader.pos + 8 * count) := by
      rw [BitCursor.read, length, position, if_pos fits]
    refine iff_of_true (follows_succeeds read ?_) (.inr (.inl fits))
    simp only [exec, placed.readBytes_eq fits]
    rfl
  have read : reader.cursor.read (.readBytes count) = none := by
    rw [BitCursor.read, length, position, if_neg fits]
  by_cases refused : reader.buf = none ∨
      reader.bitBytes < (reader.pos / 8 + count) % 2 ^ 64
  · refine iff_of_true ?_ (refused.imp_right fun check => .inr (.inl check))
    obtain ⟨error, failed⟩ := readBytes_refused (by omega) refused
    have exec : reader.exec (.readBytes count) = (reader, .error error) := by
      simp only [BitReader.exec, failed]
      rfl
    exact placed.follows_fails read exec
  · obtain ⟨some_buffer, accepted⟩ := not_or.mp refused
    rw [Follows, read]
    rcases placed.readBytes_short some_buffer accepted (not_le.mp fits) with
      ⟨⟨next, result, succeeded⟩, aligned⟩ | ⟨misaligned, error, failed⟩
    · rw [succeeded]
      refine iff_of_false (fun follows => absurd follows.1 (Option.some_ne_none result)) ?_
      rintro (null | fit | check | last)
      · exact some_buffer null
      · exact fits fit
      · exact accepted check
      · exact last.1 aligned
    · rw [failed]
      constructor
      · rintro ⟨-, same⟩
        have same : reader.pos + 8 * ((reader.totalBits - reader.pos) / 8) = reader.pos :=
          congrArg BitReader.pos same
        exact .inr (.inr (.inr ⟨misaligned, by omega⟩))
      · rintro (null | fit | check | last)
        · exact absurd null some_buffer
        · exact absurd fit fits
        · exact absurd check accepted
        · have whole : (reader.totalBits - reader.pos) / 8 = 0 := by omega
          rw [whole]
          exact ⟨rfl, rfl⟩

theorem follows (placed : Placed reader) {op : Op} (within : reader.WithinBits op) :
    Follows reader op := by
  cases op with
  | readField nbits => exact placed.follows_readField nbits
  | peekField nbits => exact placed.follows_peekField nbits
  | readBytes count => exact (placed.follows_readBytes count).mpr within
  | alignToOctet => exact placed.follows_alignToOctet

end Placed

/-! ## Runs -/

instance (reader : BitReader) (op : Op) : Decidable (reader.WithinBits op) :=
  match op with
  | .readField _ | .peekField _ | .alignToOctet => .isTrue trivial
  | .readBytes _ => inferInstanceAs (Decidable (_ ∨ _))

theorem step_eq_some {reader target : BitReader} {op : Op} {result : Option Result}
    (stepped : machine.step reader (op, result) = some target) :
    (reader.exec op).2.toOption = result ∧ (reader.exec op).1 = target := by
  simp only [machine] at stepped
  split at stepped
  case isTrue same => exact ⟨same, Option.some.inj stepped⟩
  case isFalse => exact absurd stepped.symm (Option.some_ne_none target)

/-- A call that follows the list of bits is a step of the list. -/
theorem cursor_step {reader target : BitReader} {event : Op × Option Result}
    (follows : Follows reader event.1) (stepped : machine.step reader event = some target) :
    BitCursor.machine.step reader.cursor event = some target.cursor := by
  obtain ⟨op, returned⟩ := event
  obtain ⟨result, moved⟩ := follows
  obtain ⟨same, rfl⟩ := step_eq_some stepped
  rw [result] at same
  rw [moved]
  cases read : reader.cursor.read op with
  | none =>
      rw [read] at same
      simp only [BitCursor.machine, read, ← same]
      rfl
  | some reply =>
      rw [read] at same
      simp only [BitCursor.machine, read, ← same]
      exact if_pos rfl

/-- The call is a step with what the list returns. -/
theorem Follows.step {reader : BitReader} {op : Op} {result : Result} {pos : Nat}
    (follows : Follows reader op) (read : reader.cursor.read op = some (result, pos)) :
    machine.step reader (op, some result) = some (reader.seek pos) := by
  obtain ⟨returned, moved⟩ := follows
  rw [read] at returned moved
  simp only [machine, returned, moved]
  exact if_pos rfl

theorem Follows.placed {reader target : BitReader} {event : Op × Option Result}
    (follows : Follows reader event.1) (placed : Placed reader)
    (stepped : machine.step reader event = some target) :
    Placed target ∧ target.buf = reader.buf ∧ target.totalBits = reader.totalBits := by
  obtain ⟨op, returned⟩ := event
  obtain ⟨-, moved⟩ := follows
  have length := placed.bits_length
  have inside := placed.inside
  have position : reader.cursor.pos = reader.pos := rfl
  obtain ⟨-, rfl⟩ := step_eq_some stepped
  rw [moved]
  refine ⟨placed.seek ?_, rfl, rfl⟩
  cases op with
  | readField nbits =>
      rw [BitCursor.read, length, position]
      split
      case isTrue fits => exact fits.2
      case isFalse => exact inside
  | peekField nbits => exact inside
  | readBytes count =>
      rw [BitCursor.read, length, position]
      split
      case isTrue fits => exact fits
      case isFalse => exact inside
  | alignToOctet =>
      rw [BitCursor.read, length]
      exact Nat.min_le_right ..

/-- A reader of the first `nbits` bits of a buffer of fewer than `2 ^ 32` octets
runs as the list of these bits does, while `readBytes` keeps to them. -/
theorem runs_as_bit_list {buf : Option (List UInt8)} {nbits : Nat}
    (covered : nbits ≤ 8 * (buf.getD []).length) (small : (nbits + 7) / 8 < 2 ^ 32)
    {events : List (Op × Option Result)} {reader : BitReader}
    (run : machine.Run (fun source event _ => source.WithinBits event.1) (make buf nbits)
      events reader) :
    BitCursor.machine.Run (fun _ _ _ => True)
        { bits := (bitString (buf.getD [])).take nbits } events
        { bits := (bitString (buf.getD [])).take nbits, pos := reader.pos } ∧
      reader.pos ≤ nbits := by
  have invariant : Placed reader ∧ reader.buf = buf ∧ reader.totalBits = nbits ∧
      BitCursor.machine.Run (fun _ _ _ => True) (make buf nbits).cursor events reader.cursor := by
    refine run.invariant
      (fun events reader => Placed reader ∧ reader.buf = buf ∧ reader.totalBits = nbits ∧
        BitCursor.machine.Run (fun _ _ _ => True) (make buf nbits).cursor events reader.cursor)
      ⟨⟨(Nat.zero_div 8).symm, (Nat.zero_mod 8).symm, Nat.zero_le _, covered, small⟩, rfl, rfl,
        .origin⟩ ?_
    rintro past source target event ⟨placed, buf_eq, total_eq, ran⟩ stepped within
    have follows := placed.follows within
    obtain ⟨next, same_buf, same_total⟩ := follows.placed placed stepped
    exact ⟨next, same_buf.trans buf_eq, same_total.trans total_eq,
      ran.next (cursor_step follows stepped) trivial⟩
  obtain ⟨placed, rfl, rfl, ran⟩ := invariant
  exact ⟨ran, placed.inside⟩

/-- Fields across octets, octets inside octets and an alignment behind the last
bit of twelve. -/
theorem runs_as_bit_list_twelve :
    12 ≤ 8 * ((some [0xA5, 0x3C] : Option (List UInt8)).getD []).length ∧
      (12 + 7) / 8 < 2 ^ 32 ∧
      ∃ reader : BitReader,
        BitCursor.machine.Run (fun _ _ _ => True)
          { bits := (bitString [0xA5, 0x3C]).take 12 }
          [(.readField 4, some (.field 10)), (.readBytes 3, none),
            (.readBytes 1, some (.octets [0x53])), (.peekField 8, some (.field 0)),
            (.alignToOctet, some .done)]
          { bits := (bitString [0xA5, 0x3C]).take 12, pos := reader.pos } ∧
          reader.pos ≤ 12 := by
  let events : List (Op × Option Result) :=
    [(.readField 4, some (.field 10)), (.readBytes 3, none),
      (.readBytes 1, some (.octets [0x53])), (.peekField 8, some (.field 0)),
      (.alignToOctet, some .done)]
  obtain ⟨reader, executed⟩ := Option.isSome_iff_exists.mp
    (show (machine.exec (fun source event _ => source.WithinBits event.1)
      (make (some [0xA5, 0x3C]) 12) events).isSome by decide +kernel)
  refine ⟨by decide, by decide, reader, ?_⟩
  exact @runs_as_bit_list (some [0xA5, 0x3C]) 12 (by decide) (by decide) events reader
    (.exec events .origin executed)

/-- The octet-wise check lets `readBytes` read behind the last bit, and fail with
the position moved. -/
theorem readBytes_leaves_bits :
    ((make (some [0xA5, 0x3C]) 12).readBytes 2).2.2 = .ok () ∧
      ((make (some [0xA5, 0x3C]) 12).readBytes 2).1.pos = 16 ∧
      (((make (some [0xA5, 0x3C]) 16).readField 4).1.readBytes 2).2.2 =
        .error { code := .truncatedInput, message := "read past end", bitPosition := 12 } ∧
      ((make (some [0xA5, 0x3C]) 16).readField 4).1.pos = 4 ∧
      (((make (some [0xA5, 0x3C]) 16).readField 4).1.readBytes 2).1.pos = 12 :=
  ⟨rfl, rfl, rfl, rfl, rfl⟩

end BitReader

end Gsml3
