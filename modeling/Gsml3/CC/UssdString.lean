import Gsml3.Foundation.BitAccumulator

/-!
# Unstructured supplementary service strings

Texts of 7-bit characters are packed into octets.  The decoder is not told how many characters
there are, and gives out one for every seven bits.
-/

namespace Gsml3

open Foundation (BitAccumulator)

/-- The width of the accumulator. -/
def accumulatorBits : Nat := 32

/-- The codes of seven bits, taken from the octets. -/
def gsm7bitDecode (data : List UInt8) : List UInt8 :=
  (BitAccumulator.repack accumulatorBits 8 7 {} (data.map UInt8.toNat)).1.map UInt8.ofNat

/-- The codes of seven bits, packed into octets. -/
def gsm7bitEncode (text : List UInt8) : List UInt8 :=
  (BitAccumulator.flush 8 (BitAccumulator.repack accumulatorBits 7 8 {}
    (text.map fun c => (c &&& 0x7F).toNat))).map UInt8.ofNat

/-- A coding scheme and the octets of a string. -/
structure L3USSDData where
  dcs : UInt8 := 0x0F
  rawUssdString : List UInt8 := []
deriving DecidableEq, Repr

namespace L3USSDData

/-- `Alphabet::UCS2`. -/
def ucs2 : UInt8 := 6

/-- The low half of the coding scheme. -/
def alphabet (data : L3USSDData) : UInt8 :=
  data.dcs &&& 0x0F

/-- Two octets a character; what is no 7-bit character becomes a question mark. -/
def decodeUcs2 : List UInt8 → List UInt8
  | high :: low :: rest =>
      (if high = 0 ∧ low < 128 then low else '?'.toUInt8) :: decodeUcs2 rest
  | _ => []

/-- The text by its alphabet; all but UCS2 is taken for the default one. -/
def decodeUssdString (data : L3USSDData) : List UInt8 :=
  if data.alphabet = ucs2 then decodeUcs2 data.rawUssdString
  else gsm7bitDecode data.rawUssdString

/-- The text in the default alphabet. -/
def encodeUssdString (text : List UInt8) : List UInt8 :=
  gsm7bitEncode text

end L3USSDData

/-! ## Round trip -/

section RoundTrip

variable {text : List UInt8}

theorem masked_of_sevenBit (sevenBit : ∀ c ∈ text, c < 128) :
    (text.map fun c => (c &&& 0x7F).toNat) = text.map UInt8.toNat := by
  apply List.map_congr_left
  intro c member
  have small : c.toNat < 128 := sevenBit c member
  rw [UInt8.toNat_and]
  exact (Nat.and_two_pow_sub_one_eq_mod c.toNat 7).trans (Nat.mod_eq_of_lt small)

theorem map_toNat_ofNat {values : List Nat} (octets : ∀ value ∈ values, value < 2 ^ 8) :
    (values.map UInt8.ofNat).map UInt8.toNat = values := by
  rw [List.map_map]
  refine (List.map_congr_left fun value member => ?_).trans (List.map_id values)
  exact (UInt8.toNat_ofNat' ..).trans (Nat.mod_eq_of_lt (octets value member))

/-- Octets for `n` characters have room for one more if and only if seven bits are left over. -/
theorem packed_room (n : Nat) :
    8 * ((7 * n + 7) / 8) / 7 - n = if n % 8 = 7 then 1 else 0 := by
  have octets : (7 * n + 7) / 8 = 7 * (n / 8) + n % 8 := by omega
  rw [octets]
  split
  · omega
  · omega

/-- A text comes back, with a character of zeros behind it if seven bits are left over. -/
theorem gsm7bitDecode_encode (sevenBit : ∀ c ∈ text, c < 128) :
    (gsm7bitEncode text).length = (7 * text.length + 7) / 8 ∧
      gsm7bitDecode (gsm7bitEncode text) =
        text ++ List.replicate (if text.length % 8 = 7 then 1 else 0) 0 := by
  have small : ∀ digit ∈ text.map UInt8.toNat, digit < 2 ^ 7 := by
    intro digit member
    obtain ⟨c, mem, rfl⟩ := List.mem_map.mp member
    exact sevenBit c mem
  obtain ⟨length, octets, unpacked⟩ :=
    @BitAccumulator.unpack_pack accumulatorBits 7 8 (by decide) (by decide) (by decide) _ small
  rw [List.length_map] at length unpacked
  rw [gsm7bitEncode, masked_of_sevenBit sevenBit]
  refine ⟨(List.length_map _).trans length, ?_⟩
  have same : (text.map UInt8.toNat).map UInt8.ofNat = text := by
    rw [List.map_map]
    exact (List.map_congr_left fun c _ => UInt8.ofNat_toNat).trans (List.map_id text)
  rw [gsm7bitDecode, map_toNat_ofNat octets, unpacked, length, Nat.add_sub_assoc (by decide),
    packed_room, List.map_append, same, List.map_replicate]
  rfl

/-- Under a 7-bit coding scheme a text comes back unless its length is 7 modulo 8. -/
theorem ussd_text_restored_iff {dcs : UInt8} (scheme : dcs &&& 0x0F ≠ L3USSDData.ucs2)
    (sevenBit : ∀ c ∈ text, c < 128) :
    (L3USSDData.encodeUssdString text).length = (7 * text.length + 7) / 8 ∧
        L3USSDData.decodeUssdString {
          dcs
          rawUssdString := L3USSDData.encodeUssdString text } = text ↔
      text.length % 8 ≠ 7 := by
  obtain ⟨length, decoded⟩ := gsm7bitDecode_encode sevenBit
  have sevenBitScheme : L3USSDData.decodeUssdString {
      dcs
      rawUssdString := L3USSDData.encodeUssdString text } = gsm7bitDecode (gsm7bitEncode text) :=
    if_neg scheme
  rw [sevenBitScheme, L3USSDData.encodeUssdString, decoded]
  constructor
  · rintro ⟨-, restored⟩ seven
    rw [if_pos seven] at restored
    exact absurd (List.append_right_eq_self.mp restored) nofun
  · intro other
    rw [if_neg other]
    exact ⟨length, List.append_nil text⟩

theorem ussd_text_restored_balance :
    (L3USSDData.encodeUssdString [0x2A, 0x31, 0x30, 0x30, 0x23]).length = (7 * 5 + 7) / 8 ∧
        L3USSDData.decodeUssdString {
          dcs := 0x0F
          rawUssdString := L3USSDData.encodeUssdString [0x2A, 0x31, 0x30, 0x30, 0x23] } =
            [0x2A, 0x31, 0x30, 0x30, 0x23] ↔
      5 % 8 ≠ 7 :=
  @ussd_text_restored_iff [0x2A, 0x31, 0x30, 0x30, 0x23] 0x0F (by decide) (by simp)

/-- Seven letters come back with a character more. -/
theorem seven_letters_grow :
    ¬ ∀ text : List UInt8, (∀ c ∈ text, c < 128) → ∀ dcs : UInt8,
      dcs &&& 0x0F ≠ L3USSDData.ucs2 →
        L3USSDData.decodeUssdString {
          dcs
          rawUssdString := L3USSDData.encodeUssdString text } = text := by
  intro restored
  have letters := restored [0x42, 0x61, 0x6C, 0x61, 0x6E, 0x63, 0x65] (by simp) 0x0F (by decide)
  revert letters
  decide

end RoundTrip

end Gsml3
