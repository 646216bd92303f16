import Gsml3.Foundation.BitBuffer
import Gsml3.RR.ElementCodecs

/-!
# Network names

A name is a text in one of three alphabets, with country initials behind it.  Texts of 7-bit
characters are packed into octets whose bits are then reversed; a text of octets is written like
one of 7-bit characters.
-/

namespace Gsml3

open BitWriter (Op fields endPos)
open FieldParser
open Foundation

/-! ## The default alphabet -/

/-- The characters of the default alphabet by their codes. -/
def gGSMAlphabet : List UInt8 :=
  [0x40, 0xA3, 0x24, 0xA5, 0xE8, 0xE9, 0xF9, 0xEC, 0xF2, 0xE7, 0x0A, 0xD8, 0xF8, 0x0D, 0xC5, 0xE5,
    0x44, 0x5F, 0x46, 0x47, 0x4C, 0x4F, 0x50, 0x43, 0x53, 0x54, 0x5A, 0x20, 0xC6, 0xE6, 0xDF, 0xC9,
    0x21, 0x22, 0x23, 0xA4, 0x25, 0x26, 0x27, 0x28, 0x29, 0x2A, 0x2B, 0x2C, 0x2D, 0x2E, 0x2F,
    0x30, 0x31, 0x32, 0x33, 0x34, 0x35, 0x36, 0x37, 0x38, 0x39, 0x3A, 0x3B, 0x3C, 0x3D, 0x3E, 0x3F,
    0xA1, 0x41, 0x42, 0x43, 0x44, 0x45, 0x46, 0x47, 0x48, 0x49, 0x4A, 0x4B, 0x4C, 0x4D, 0x4E, 0x4F,
    0x50, 0x51, 0x52, 0x53, 0x54, 0x55, 0x56, 0x57, 0x58, 0x59, 0x5A, 0xC4, 0xD6, 0xD1, 0xDC, 0xA7,
    0xBF, 0x61, 0x62, 0x63, 0x64, 0x65, 0x66, 0x67, 0x68, 0x69, 0x6A, 0x6B, 0x6C, 0x6D, 0x6E, 0x6F,
    0x70, 0x71, 0x72, 0x73, 0x74, 0x75, 0x76, 0x77, 0x78, 0x79, 0x7A, 0xE4, 0xF6, 0xF1, 0xFC, 0xE1]

/-- The first code of a character; the code of others is that of an exclamation mark. -/
def encodeGSMChar (ascii : UInt8) : UInt8 :=
  match gGSMAlphabet.idxOf? ascii with
  | some i => UInt8.ofNat i
  | none => 0x20

/-- The character of a code, a blank for a code outside the table. -/
def decodeGSMChar (code : UInt8) : UInt8 :=
  gGSMAlphabet.getD code.toNat 0x20

/-- A character after it was written and read. -/
def recodeGSMChar (ascii : UInt8) : UInt8 :=
  decodeGSMChar (encodeGSMChar ascii)

/-- The octet with its bits in reverse order. -/
def reverseBits8 (b : UInt8) : UInt8 :=
  let shift (state : UInt8 × UInt8) : UInt8 × UInt8 :=
    (state.1 <<< 1 ||| (state.2 &&& 1), state.2 >>> 1)
  (shift^[8] (0, b)).1

/-- Two reversals give the octet back. -/
theorem reverseBits8_reverseBits8 (b : UInt8) : reverseBits8 (reverseBits8 b) = b := by
  revert b
  apply Foundation.forall_octet
  decide +kernel

theorem reversed_twice (octets : List UInt8) :
    (octets.map reverseBits8).map reverseBits8 = octets := by
  rw [List.map_map]
  exact (List.map_congr_left fun octet _ => reverseBits8_reverseBits8 octet).trans (List.map_id _)

/-- The code of a character is its place in the alphabet. -/
theorem encodeGSMChar_place (ascii : UInt8) :
    encodeGSMChar ascii = 0x20 ∧ ascii ∉ gGSMAlphabet ∨
      ∃ i, ∃ inside : i < gGSMAlphabet.length,
        encodeGSMChar ascii = UInt8.ofNat i ∧ gGSMAlphabet[i] = ascii := by
  rw [encodeGSMChar]
  cases place : gGSMAlphabet.idxOf? ascii with
  | none => exact .inl ⟨rfl, List.idxOf?_eq_none_iff.mp place⟩
  | some i =>
      obtain ⟨inside, same, -⟩ := List.findIdx?_eq_some_iff_getElem.mp place
      exact .inr ⟨i, inside, rfl, eq_of_beq same⟩

/-- A code of the alphabet has seven bits. -/
theorem encodeGSMChar_small (ascii : UInt8) : (encodeGSMChar ascii).toNat < 2 ^ 7 := by
  obtain ⟨code, -⟩ | ⟨i, inside, code, -⟩ := encodeGSMChar_place ascii
  · rw [code]
    decide
  · have small : i < 127 := inside
    rw [code, UInt8.toNat_ofNat_of_lt' (small.trans (by decide))]
    exact small.trans (by decide)

/-- The characters of the alphabet come back, others as an exclamation mark. -/
theorem recodeGSMChar_eq (ascii : UInt8) :
    recodeGSMChar ascii = if ascii ∈ gGSMAlphabet then ascii else 0x21 := by
  obtain ⟨code, missing⟩ | ⟨i, inside, code, same⟩ := encodeGSMChar_place ascii
  · rw [recodeGSMChar, code, if_neg missing]
    rfl
  · have small : i < 127 := inside
    rw [recodeGSMChar, code, decodeGSMChar, UInt8.toNat_ofNat_of_lt' (small.trans (by decide)),
      if_pos (same ▸ List.getElem_mem inside), List.getD_eq_getElem _ _ inside, same]

/-- No character comes back as NUL. -/
theorem recodeGSMChar_ne_zero (ascii : UInt8) : recodeGSMChar ascii ≠ 0 := by
  rw [recodeGSMChar_eq]
  split
  case isTrue member =>
    rintro rfl
    revert member
    decide
  case isFalse => decide

/-- The characters that come back are those of the alphabet. -/
theorem recodeGSMChar_eq_iff (ascii : UInt8) :
    recodeGSMChar ascii = ascii ↔ ascii ∈ gGSMAlphabet := by
  rw [recodeGSMChar_eq]
  split
  case isTrue member => exact iff_of_true rfl member
  case isFalse missing =>
    refine iff_of_false ?_ missing
    rintro rfl
    exact missing (by decide)

/-- The alphabets that a name can be coded in. -/
inductive GSMAlphabet where
  | sevenBit
  | eightBit
  | ucs2
deriving DecidableEq, Repr

/-! ## Names -/

/-- `mName` up to the octet that ends it. -/
@[ext] structure L3NetworkName where
  alphabet : GSMAlphabet := .sevenBit
  name : List UInt8 := []
  ci : Int := 0
  short : name.length ≤ 93 := by decide
  ends : 0 ∉ name := by decide
deriving DecidableEq, Repr

namespace L3NetworkName

/-- The characters that a name has room for. -/
def maxLen : Nat := 93

/-- `mName` with a zero behind the octets that were stored. -/
def stored (alphabet : GSMAlphabet) (octets : List UInt8) (ci : Int) : L3NetworkName where
  alphabet := alphabet
  name := (octets.take maxLen).takeWhile (· ≠ 0)
  ci := ci
  short := (List.takeWhile_prefix _).length_le.trans (List.length_take_le _ _)
  ends member := by
    have := List.mem_takeWhile_imp member
    simp at this

/-- The octets of the country initials. -/
def ciLength (name : L3NetworkName) : Nat :=
  if name.ci ≠ 0 then 2 else 0

/-- The octets that the characters are packed into. -/
def nameBytes (name : L3NetworkName) : Nat :=
  (name.name.length * 7 + 7) / 8

/-- The header octet, the characters and the country initials. -/
def lengthV (name : L3NetworkName) : Nat :=
  match name.alphabet with
  | .sevenBit => 1 + name.nameBytes + name.ciLength
  | .ucs2 => 1 + name.name.length * 2 + name.ciLength
  | .eightBit => 1 + name.name.length + name.ciLength

/-- The buffer before its octets are reversed. -/
def packed (name : L3NetworkName) : List UInt8 :=
  (BitBuffer.putValues 7 (.replicate name.nameBytes 0, 0) (name.name.map encodeGSMChar)).1

/-- A character is sign-extended. -/
def wideChar (c : UInt8) : UInt32 :=
  c.toInt8.toInt32.toUInt32

/-- The country initials, when there. -/
def writeCI (name : L3NetworkName) : List Op :=
  if name.ci ≠ 0 then [.writeField (UInt32.ofInt name.ci) 16] else []

/-- The extension bit, the coding, the flag of the initials and the number of spare bits. -/
def writeHeader (name : L3NetworkName) (coding spareBits : UInt32) : List Op :=
  [.writeField 1 1, .writeField coding 3, .writeField (if name.ci ≠ 0 then 1 else 0) 1,
    .writeField spareBits 3]

/-- The header, the characters of the alphabet and the country initials. -/
def write (name : L3NetworkName) : List Op :=
  match name.alphabet with
  | .ucs2 =>
      name.writeHeader 1 0 ++ name.name.map (fun c => .writeField (wideChar c) 16) ++ name.writeCI
  | _ =>
      name.writeHeader 0 (UInt32.ofNat (name.nameBytes * 8 - name.name.length * 7)) ++
        writeOctets (name.packed.map reverseBits8) ++ name.writeCI

/-- A difference of sizes wraps around. -/
def sizeSub (size other : Nat) : Nat :=
  (size + 2 ^ 64 - other) % 2 ^ 64

/-- The low octets of 16-bit characters. -/
def readUcs2 : Nat → FieldParser (List UInt8)
  | 0 => pure []
  | count + 1 => do
      let ch ← readField 16
      let octets ← readUcs2 count
      pure (UInt8.ofNat ch :: octets)

/-- The country initials when announced and there; the flag in their place otherwise. -/
def readCI (alphabet : GSMAlphabet) (octets : List UInt8) (ciFlag : Nat) :
    FieldParser L3NetworkName := do
  if ciFlag ≠ 0 then
    if ← hasMore then
      let ci ← readField 16
      pure (stored alphabet octets ci)
    else pure (stored alphabet octets ciFlag)
  else pure (stored alphabet octets ciFlag)

/-- The characters in a buffer. -/
def unpacked (buffer : List UInt8) (numChars : Nat) : List UInt8 :=
  (List.range (min numChars maxLen)).map fun i =>
    decodeGSMChar (BitBuffer.readBits 7 buffer (7 * i))

/-- The branch of the default alphabet.  There is no result where the buffer is larger than a
vector can be: its constructor throws. -/
def readText (nameBytes spareBits ciFlag : Nat) : FieldParser (Option L3NetworkName) := do
  if nameBytes = 0 then pure (some (stored .sevenBit [] ciFlag))
  else if 2 ^ 63 ≤ nameBytes then pure none
  else
    let octets ← readOctets nameBytes
    let numChars := sizeSub (nameBytes * 8) spareBits / 7
    some <$> readCI .sevenBit (unpacked (octets.map reverseBits8) numChars) ciFlag

/-- What `parse` does behind the first octet. -/
def readBody (expectedLength coding ciFlag spareBits : Nat) :
    FieldParser (Option L3NetworkName) := do
  let ciBytes := if ciFlag ≠ 0 then 2 else 0
  let nameBytes := sizeSub (sizeSub expectedLength 1) ciBytes
  if coding = 1 then
    let octets ← readUcs2 (min (nameBytes / 2) maxLen)
    some <$> readCI .ucs2 octets ciFlag
  else readText nameBytes spareBits ciFlag

/-- `parse` with the expected length. -/
def parse (expectedLength : Nat) : FieldParser (Option L3NetworkName) := do
  let _ ← readField 1
  let coding ← readField 3
  let ciFlag ← readField 1
  let spareBits ← readField 3
  readBody expectedLength coding ciFlag spareBits

/-! ## Texts -/

/-- A text without NUL that fits is stored as it is. -/
theorem stored_name {alphabet : GSMAlphabet} {octets : List UInt8} {ci : Int}
    (short : octets.length ≤ maxLen) (ends : 0 ∉ octets) :
    (stored alphabet octets ci).name = octets := by
  change (octets.take maxLen).takeWhile (· ≠ 0) = octets
  rw [List.take_of_length_le short, List.takeWhile_eq_self_iff]
  intro octet member
  exact decide_eq_true (ne_of_mem_of_not_mem member ends)

variable (name : L3NetworkName)

/-- The characters fit the octets counted for them. -/
theorem nameBytes_room : 7 * (name.name.map encodeGSMChar).length ≤ 8 * name.nameBytes := by
  rw [List.length_map, nameBytes]
  omega

@[simp] theorem packed_length : name.packed.length = name.nameBytes :=
  (BitBuffer.holds_putValues name.nameBytes_room).length

/-- The characters that are unpacked. -/
theorem unpacked_packed : unpacked name.packed name.name.length = name.name.map recodeGSMChar := by
  rw [unpacked, maxLen, Nat.min_eq_left name.short]
  refine List.ext_getElem (by simp) fun i inside _ => ?_
  have position : i < (name.name.map encodeGSMChar).length := by simpa using inside
  rw [List.getElem_map, List.getElem_range, packed,
    BitBuffer.readBits_putValues (by decide) name.nameBytes_room position ?small,
    List.getElem_map, List.getElem_map]
  case small =>
    rw [List.getElem_map]
    exact encodeGSMChar_small _
  rfl

/-- Wide characters of one octet come back. -/
theorem takes_readUcs2 (octets : List UInt8) (pos : Nat) :
    Takes (readUcs2 octets.length)
      (fields pos (octets.map fun c => .writeField (wideChar c) 16)) (some octets) := by
  induction octets generalizing pos with
  | nil => exact Takes.pure []
  | cons c octets ih =>
      rw [List.length_cons, readUcs2, List.map_cons]
      refine Takes.skipped ?_ (by decide)
      have low : UInt8.ofNat ((wideChar c).toNat % 2 ^ 16) = c := by
        revert c
        apply Foundation.forall_octet
        decide +kernel
      rw [low]
      exact (ih (pos + 16)).yield (c :: ·)

/-! ## Lengths -/

/-- The length counts the octets of the name. -/
def Counted : Prop :=
  name.alphabet = .eightBit → name.name.length < 8

instance : Decidable name.Counted :=
  inferInstanceAs (Decidable (_ → _))

@[simp] theorem endPos_writeCI (pos : Nat) :
    endPos pos name.writeCI = pos + 8 * name.ciLength := by
  rw [writeCI, ciLength]
  split
  case isTrue => rfl
  case isFalse => rfl

@[simp] theorem endPos_wideChars (octets : List UInt8) (pos : Nat) :
    endPos pos (octets.map fun c => .writeField (wideChar c) 16) = pos + 16 * octets.length := by
  rw [List.map_eq_flatMap]
  exact BitWriter.endPos_flatMap (fun _ _ => rfl) octets pos

theorem nameBytes_small : name.nameBytes ≤ 82 := by
  have := name.short
  rw [nameBytes]
  omega

theorem ciLength_le : name.ciLength ≤ 2 := by
  rw [ciLength]
  split
  case isTrue => exact le_rfl
  case isFalse => exact Nat.zero_le 2

/-- The length fits its octet. -/
theorem lengthV_small : name.lengthV < 256 := by
  have small := name.nameBytes_small
  have short := name.short
  have initials := name.ciLength_le
  rw [lengthV]
  cases name.alphabet with
  | sevenBit =>
      change 1 + _ + _ < 256
      omega
  | ucs2 =>
      change 1 + _ + _ < 256
      omega
  | eightBit =>
      change 1 + _ + _ < 256
      omega

/-- The octets that are written behind the first one. -/
def bodyBytes : Nat :=
  match name.alphabet with
  | .ucs2 => 2 * name.name.length
  | _ => name.nameBytes

/-- A text that is not of 16-bit characters. -/
theorem write_text (text : name.alphabet ≠ .ucs2) :
    name.bodyBytes = name.nameBytes ∧ name.write =
      name.writeHeader 0 (UInt32.ofNat (name.nameBytes * 8 - name.name.length * 7)) ++
        (writeOctets (name.packed.map reverseBits8) ++ name.writeCI) := by
  rw [write, bodyBytes, ← List.append_assoc]
  cases alphabet : name.alphabet with
  | ucs2 => exact absurd alphabet text
  | sevenBit => exact ⟨rfl, rfl⟩
  | eightBit => exact ⟨rfl, rfl⟩

/-- The octets of the header, the characters and the country initials. -/
theorem endPos_write (pos : Nat) :
    endPos pos name.write = pos + 8 * (1 + name.bodyBytes + name.ciLength) := by
  by_cases ucs2 : name.alphabet = .ucs2
  · rw [write, bodyBytes, ucs2]
    simp only [BitWriter.endPos_append, endPos_wideChars, endPos_writeCI]
    change pos + 8 + 16 * _ + _ = _
    omega
  · obtain ⟨bytes, written⟩ := name.write_text ucs2
    rw [written, bytes]
    simp only [BitWriter.endPos_append, endPos_writeOctets, endPos_writeCI, List.length_map,
      packed_length]
    change pos + 8 + 8 * _ + _ = _
    omega

/-- The announced length is what is written when the characters are counted as they are coded. -/
theorem lengthV_eq_iff : name.lengthV = 1 + name.bodyBytes + name.ciLength ↔ name.Counted := by
  rw [lengthV, bodyBytes, Counted]
  cases name.alphabet with
  | sevenBit => exact iff_of_true rfl (by simp)
  | ucs2 => exact iff_of_true (by rw [Nat.mul_comm]) (by simp)
  | eightBit =>
      refine Iff.trans ?_ (imp_iff_right rfl).symm
      change 1 + _ + _ = 1 + name.nameBytes + _ ↔ _
      rw [nameBytes]
      omega

/-! ## Names read back -/

/-- The initials as an unsigned field of 16 bits. -/
def ciField : Nat :=
  (UInt32.ofInt name.ci).toNat % 2 ^ 16

theorem ciField_eq : (name.ciField : Int) = name.ci % 2 ^ 16 := by
  have reduced : (UInt32.ofInt name.ci).toNat = (name.ci % 2 ^ 32).toNat % 2 ^ 32 :=
    UInt32.toNat_ofNat
  rw [ciField, reduced]
  omega

/-- The bit that announces the country initials. -/
def ciFlag : Nat :=
  if name.ci ≠ 0 then 1 else 0

theorem ciFlag_field : ((if name.ci ≠ 0 then 1 else 0 : UInt32).toNat % 2 ^ 1) = name.ciFlag := by
  rw [ciFlag]
  split
  case isTrue => rfl
  case isFalse => rfl

theorem ciLength_flag : (if name.ciFlag ≠ 0 then 2 else 0) = name.ciLength := by
  rw [ciFlag, ciLength]
  split
  case isTrue => rfl
  case isFalse => rfl

/-- The country initials come back, cut to their field. -/
theorem takes_readCI (alphabet : GSMAlphabet) (octets : List UInt8) (pos : Nat) :
    Takes (readCI alphabet octets name.ciFlag) (fields pos name.writeCI)
      (some (stored alphabet octets name.ciField)) := by
  rw [readCI, writeCI, ciFlag]
  by_cases initials : name.ci = 0
  · have field : name.ciField = 0 := by
      rw [ciField, initials]
      rfl
    rw [if_neg (not_not.mpr initials), if_neg (not_not.mpr initials), field]
    exact Takes.pure _
  · rw [if_pos initials, if_pos initials]
    refine Takes.more ?_ (Takes.skipped (Takes.pure _) (by decide))
    exact List.ne_nil_of_length_pos (by simp [fields, Op.width])

variable {name} {expectedLength : Nat} (pos : Nat)

/-- The header octet in front of the body. -/
theorem takes_header {coding spareBits : UInt32} {ops : List Op}
    {result : Option (Option L3NetworkName)}
    (rest : Takes (readBody expectedLength (coding.toNat % 2 ^ 3) name.ciFlag
      (spareBits.toNat % 2 ^ 3)) (fields (pos + 8) ops) result) :
    Takes (parse expectedLength) (fields pos (name.writeHeader coding spareBits ++ ops))
      result := by
  rw [← ciFlag_field] at rest
  rw [parse, writeHeader]
  exact Takes.skipped (Takes.skipped (Takes.skipped (Takes.skipped rest (by decide)) (by decide))
    (by decide)) (by decide)

/-- Header and initials leave the characters of the announced length. -/
theorem sizeSub_parts {bytes : Nat} (small : bytes < 2 ^ 32) :
    sizeSub (sizeSub (1 + bytes + name.ciLength) 1) (if name.ciFlag ≠ 0 then 2 else 0) =
      bytes := by
  have initials := name.ciLength_le
  rw [ciLength_flag, sizeSub, sizeSub]
  omega

/-- A name in UCS2 comes back. -/
theorem takes_ucs2 (ucs2 : name.alphabet = .ucs2) :
    Takes (parse (1 + name.bodyBytes + name.ciLength)) (fields pos name.write)
      (some (some (stored .ucs2 name.name name.ciField))) := by
  have short := name.short
  have bytes : name.bodyBytes = 2 * name.name.length := by rw [bodyBytes, ucs2]
  rw [write, ucs2, bytes]
  change Takes _ (fields pos (name.writeHeader 1 0 ++ _ ++ _)) _
  rw [List.append_assoc]
  refine takes_header pos ?_
  rw [readBody, sizeSub_parts (by omega), Nat.mul_div_cancel_left _ Nat.two_pos,
    Nat.min_eq_left (show name.name.length ≤ maxLen from short)]
  exact Takes.part (takes_readUcs2 name.name _) ((name.takes_readCI .ucs2 name.name _).map some)

theorem spareBits_field (name : L3NetworkName) :
    (UInt32.ofNat (name.nameBytes * 8 - name.name.length * 7)).toNat % 2 ^ 3 =
      name.nameBytes * 8 - name.name.length * 7 := by
  have small := name.nameBytes_small
  have word : name.nameBytes * 8 - name.name.length * 7 < 4294967296 := by omega
  rw [UInt32.toNat_ofNat_of_lt' word, nameBytes]
  omega

/-- The spare bits tell a last character from the bits behind it. -/
theorem numChars_eq (name : L3NetworkName) :
    sizeSub (name.nameBytes * 8) (name.nameBytes * 8 - name.name.length * 7) / 7 =
      name.name.length := by
  have short := name.short
  rw [sizeSub, nameBytes]
  omega

/-- A text comes back with the characters that the alphabet has for it. -/
theorem takes_text (text : name.alphabet ≠ .ucs2) (left : name.name ≠ []) :
    Takes (parse (1 + name.bodyBytes + name.ciLength)) (fields pos name.write)
      (some (some (stored .sevenBit (name.name.map recodeGSMChar) name.ciField))) := by
  have small := name.nameBytes_small
  have some_chars := List.length_pos_of_ne_nil left
  obtain ⟨bytes, written⟩ := name.write_text text
  rw [written, bytes]
  refine takes_header pos ?_
  have room : name.nameBytes ≠ 0 := by
    rw [nameBytes]
    omega
  rw [readBody, sizeSub_parts (by omega), spareBits_field]
  change Takes (readText _ _ _) _ _
  rw [readText, if_neg room, if_neg (by omega)]
  have octets := takes_readOctets (name.packed.map reverseBits8)
  rw [← fields_writeOctets _ (pos + 8), List.length_map, packed_length] at octets
  refine octets.part ?_
  rw [reversed_twice, numChars_eq]
  change Takes (some <$> readCI _ (unpacked name.packed name.name.length) _) _ _
  rw [unpacked_packed]
  exact (name.takes_readCI .sevenBit _ _).map some

/-- An empty text has no characters to write. -/
theorem write_empty (text : name.alphabet ≠ .ucs2) (empty : name.name = []) :
    name.write = name.writeHeader 0 0 ++ name.writeCI := by
  rw [(name.write_text text).2, packed, nameBytes, empty]
  rfl

/-- Nothing is read behind the first octet of an empty text. -/
theorem takes_empty (text : name.alphabet ≠ .ucs2) (empty : name.name = []) :
    Takes (parse (1 + name.bodyBytes + name.ciLength)) (fields pos (name.writeHeader 0 0))
      (some (some (stored .sevenBit [] name.ciFlag))) := by
  have none_written : name.nameBytes = 0 := by rw [nameBytes, empty, List.length_nil]
  rw [(name.write_text text).1, none_written, ← List.append_nil (name.writeHeader 0 0)]
  refine takes_header pos ?_
  rw [readBody, sizeSub_parts (by decide)]
  exact Takes.pure _

/-! ## Every name -/

/-- An empty text with initials is read without them. -/
def LeavesInitials (name : L3NetworkName) : Prop :=
  name.alphabet ≠ .ucs2 ∧ name.name = [] ∧ name.ci ≠ 0

instance : Decidable name.LeavesInitials :=
  inferInstanceAs (Decidable (_ ∧ _))

/-- A name comes back unless its initials are left out. -/
theorem takes_kept (text : name.alphabet ≠ .ucs2) (kept : ¬ name.LeavesInitials) :
    Takes (parse (1 + name.bodyBytes + name.ciLength)) (fields pos name.write)
      (some (some (stored .sevenBit (name.name.map recodeGSMChar) name.ciField))) := by
  by_cases empty : name.name = []
  case neg => exact takes_text pos text empty
  case pos =>
    have zero : name.ci = 0 := not_not.mp fun initials => kept ⟨text, empty, initials⟩
    have written : name.write = name.writeHeader 0 0 := by
      rw [write_empty text empty, writeCI, if_neg (not_not.mpr zero), List.append_nil]
    have field : name.ciField = name.ciFlag := by
      rw [ciField, ciFlag, zero]
      rfl
    rw [written, empty, field]
    exact takes_empty pos text empty

/-- The calls whose bits are read again. -/
def reread (name : L3NetworkName) : List Op :=
  if name.LeavesInitials then name.writeHeader 0 0 else name.write

/-- The name that comes back: initials without a sign, characters of the default alphabet, and no
text of octets. -/
def comesBack (name : L3NetworkName) : L3NetworkName :=
  if name.LeavesInitials then stored .sevenBit [] 1
  else
    match name.alphabet with
    | .ucs2 => stored .ucs2 name.name (name.ci % 2 ^ 16)
    | _ => stored .sevenBit (name.name.map recodeGSMChar) (name.ci % 2 ^ 16)

/-- The names that come back unchanged. -/
structure Canonical (name : L3NetworkName) : Prop where
  alphabet : name.alphabet ≠ .eightBit
  characters : name.alphabet = .sevenBit → ∀ c ∈ name.name, c ∈ gGSMAlphabet
  initials : 0 ≤ name.ci ∧ name.ci < 2 ^ 16
  flag : name.LeavesInitials → name.ci = 1

theorem canonical_default : Canonical {} :=
  ⟨by decide, fun _ _ member => absurd member List.not_mem_nil, by decide,
    (absurd · (by decide))⟩

theorem takes_comesBack (name : L3NetworkName) (pos : Nat) :
    Takes (parse (1 + name.bodyBytes + name.ciLength)) (fields pos name.reread)
      (some (some name.comesBack)) := by
  rw [reread, comesBack, ← ciField_eq]
  by_cases leaves : name.LeavesInitials
  · have flag : name.ciFlag = 1 := if_pos leaves.2.2
    have takes := takes_empty pos leaves.1 leaves.2.1
    rw [flag] at takes
    rw [if_pos leaves, if_pos leaves]
    exact takes
  rw [if_neg leaves, if_neg leaves]
  cases alphabet : name.alphabet with
  | ucs2 => exact takes_ucs2 pos alphabet
  | sevenBit => exact takes_kept pos (by simp [alphabet]) leaves
  | eightBit => exact takes_kept pos (by simp [alphabet]) leaves

theorem recoded_name (name : L3NetworkName) (ci : Int) :
    (stored .sevenBit (name.name.map recodeGSMChar) ci).name = name.name.map recodeGSMChar := by
  refine stored_name ?_ ?_
  · rw [List.length_map]
    exact name.short
  · rw [List.mem_map]
    rintro ⟨c, -, zero⟩
    exact recodeGSMChar_ne_zero c zero

theorem recoded_eq_iff (name : L3NetworkName) :
    name.name.map recodeGSMChar = name.name ↔ ∀ c ∈ name.name, c ∈ gGSMAlphabet := by
  have each : name.name.map recodeGSMChar = name.name.map id ↔
      ∀ c ∈ name.name, recodeGSMChar c = id c := List.map_inj_left
  rw [List.map_id] at each
  simp only [each, id, recodeGSMChar_eq_iff]

theorem comesBack_eq_iff (name : L3NetworkName) : name.comesBack = name ↔ name.Canonical := by
  have unsigned : name.ci % 2 ^ 16 = name.ci ↔ 0 ≤ name.ci ∧ name.ci < 2 ^ 16 := by omega
  rw [comesBack, L3NetworkName.ext_iff]
  by_cases leaves : name.LeavesInitials
  · rw [if_pos leaves, leaves.2.1]
    constructor
    · rintro ⟨alphabet, -, ci⟩
      have seven : .sevenBit = name.alphabet := alphabet
      have one : 1 = name.ci := ci
      exact {
        alphabet := by simp [← seven]
        characters := by simp [leaves.2.1]
        initials := by omega
        flag := fun _ => one.symm }
    · intro canonical
      refine ⟨?_, rfl, (canonical.flag leaves).symm⟩
      cases alphabet : name.alphabet with
      | sevenBit => rfl
      | eightBit => exact absurd alphabet canonical.alphabet
      | ucs2 => exact absurd alphabet leaves.1
  rw [if_neg leaves]
  cases alphabet : name.alphabet with
  | ucs2 =>
      constructor
      · rintro ⟨-, -, ci⟩
        exact ⟨by simp [alphabet], by simp [alphabet], unsigned.mp ci, (absurd · leaves)⟩
      · intro canonical
        exact ⟨rfl, stored_name name.short name.ends, unsigned.mpr canonical.initials⟩
  | sevenBit =>
      constructor
      · rintro ⟨-, text, ci⟩
        rw [recoded_name] at text
        exact ⟨by simp [alphabet], fun _ => name.recoded_eq_iff.mp text, unsigned.mp ci,
          (absurd · leaves)⟩
      · intro canonical
        refine ⟨rfl, ?_, unsigned.mpr canonical.initials⟩
        rw [recoded_name]
        exact name.recoded_eq_iff.mpr (canonical.characters alphabet)
  | eightBit =>
      refine iff_of_false ?_ fun canonical => canonical.alphabet alphabet
      rintro ⟨seven, -⟩
      cases seven

/-- The length counts the octets that are written, unless a text of octets has eight characters or
more.  With that length every other name is read again, and the one that comes back is the same
exactly for the canonical names. -/
theorem written_name (name : L3NetworkName) (pos : Nat) :
    (endPos pos name.write = pos + 8 * name.lengthV ↔ name.Counted) ∧
      (name.Counted → Takes (parse name.lengthV) (fields pos name.reread)
        (some (some name.comesBack))) ∧
      (name.comesBack = name ↔ name.Canonical) := by
  refine ⟨?_, fun counted => ?_, name.comesBack_eq_iff⟩
  · rw [endPos_write, ← lengthV_eq_iff]
    omega
  · rw [name.lengthV_eq_iff.mpr counted]
    exact takes_comesBack name pos

/-- Three characters with initials. -/
theorem written_name_short :
    Takes (parse 6) (fields 0 (stored .sevenBit [0x40, 0xA3, 0x24] 234).write)
      (some (some (stored .sevenBit [0x40, 0xA3, 0x24] 234))) := by
  have written := written_name (stored .sevenBit [0x40, 0xA3, 0x24] 234) 0
  have takes := written.2.1 (by decide)
  have characters := (recoded_eq_iff (stored .sevenBit [0x40, 0xA3, 0x24] 234)).mp (by decide)
  rw [written.2.2.mpr ⟨by decide, fun _ => characters, by decide, (absurd · (by decide))⟩] at takes
  exact takes

/-! ## Declared lengths -/

end L3NetworkName

end Gsml3
