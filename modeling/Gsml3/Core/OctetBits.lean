import Gsml3.Core.BitRoundTrip

/-!
# Bits of octet arrays

Bitmaps are octet arrays that start at zero and in which single bits are set.  Bits are
counted from the most significant bit of the first octet.
-/

namespace Gsml3

namespace OctetBits

/-- `octets[pos / 8] & (1u << (7 - pos % 8))`. -/
def bitAt (octets : List UInt8) (pos : Nat) : Bool :=
  (octets.getD (pos / 8) 0).toNat.testBit (7 - pos % 8)

/-- `octets[pos / 8] |= 1u << (7 - pos % 8)`. -/
def raiseBit (octets : List UInt8) (pos : Nat) : List UInt8 :=
  octets.modify (pos / 8) fun octet => BitWriter.setBit octet (7 - pos % 8) true

/-- The bits from a position on, of which those that are set are raised. -/
def raiseBits (octets : List UInt8) (pos : Nat) : List Bool → List UInt8
  | [] => octets
  | bit :: bits => raiseBits (if bit then raiseBit octets pos else octets) (pos + 1) bits

/-- As many octets as the bits need. -/
def packBits (bits : List Bool) : List UInt8 :=
  raiseBits (List.replicate ((bits.length + 7) / 8) 0) 0 bits

/-- The first bits of an array; there are none behind its end. -/
def firstBits (octets : List UInt8) (count : Nat) : List Bool :=
  (List.range count).map (bitAt octets)

@[simp] theorem firstBits_length (octets : List UInt8) (count : Nat) :
    (firstBits octets count).length = count := by
  rw [firstBits, List.length_map, List.length_range]

@[simp] theorem raiseBit_length (octets : List UInt8) (pos : Nat) :
    (raiseBit octets pos).length = octets.length :=
  List.length_modify ..

@[simp] theorem raiseBits_length (octets : List UInt8) (pos : Nat) (bits : List Bool) :
    (raiseBits octets pos bits).length = octets.length := by
  induction bits generalizing octets pos with
  | nil => rfl
  | cons bit bits ih =>
      rw [raiseBits, ih]
      split
      · exact raiseBit_length octets pos
      · rfl

@[simp] theorem packBits_length (bits : List Bool) :
    (packBits bits).length = (bits.length + 7) / 8 := by
  rw [packBits, raiseBits_length, List.length_replicate]

theorem bitAt_zeros (count pos : Nat) : bitAt (List.replicate count 0) pos = false := by
  unfold bitAt
  rw [List.getD_eq_getElem?_getD, List.getElem?_replicate]
  split
  · exact Nat.zero_testBit _
  · exact Nat.zero_testBit _

/-- An octet is known by its bits. -/
theorem getD_eq_of_bitAt {octets others : List UInt8} {index : Nat}
    (same : ∀ i < 8, bitAt octets (8 * index + i) = bitAt others (8 * index + i)) :
    octets.getD index 0 = others.getD index 0 := by
  refine UInt8.toNat_inj.mp (Nat.eq_of_testBit_eq fun i => ?_)
  by_cases low : i < 8
  · have bit := same (7 - i) (by omega)
    unfold bitAt at bit
    have place : (8 * index + (7 - i)) / 8 = index := by omega
    have mirror : 7 - (8 * index + (7 - i)) % 8 = i := by omega
    rwa [place, mirror] at bit
  · have high : 2 ^ 8 ≤ 2 ^ i := Nat.pow_le_pow_right (by decide) (by omega)
    rw [Nat.testBit_lt_two_pow ((octets.getD index 0).toNat_lt.trans_le high),
      Nat.testBit_lt_two_pow ((others.getD index 0).toNat_lt.trans_le high)]

/-- Raising a bit leaves the other bits as they are. -/
theorem bitAt_raiseBit {octets : List UInt8} {pos : Nat} (inside : pos < 8 * octets.length)
    (other : Nat) :
    bitAt (raiseBit octets pos) other = (bitAt octets other || decide (other = pos)) := by
  unfold bitAt raiseBit
  rw [List.getD_eq_getElem?_getD, List.getD_eq_getElem?_getD, List.getElem?_modify]
  by_cases shared : pos / 8 = other / 8
  · have octet := List.getElem?_eq_getElem (l := octets) (i := other / 8) (by omega)
    simp only [if_pos shared]
    rw [octet, Option.map_eq_map, Option.map_some, Option.getD_some, Option.getD_some,
      BitWriter.setBit_testBit _ _ (by omega) (by omega)]
    by_cases same : other = pos
    · rw [if_pos (by rw [same]), decide_eq_true same, Bool.or_true]
    · rw [if_neg (by omega), decide_eq_false same, Bool.or_false]
  · have apart : other ≠ pos := fun same => shared (same ▸ rfl)
    simp only [if_neg shared]
    rw [decide_eq_false apart, Bool.or_false, id_map']

/-- Of several bits. -/
theorem bitAt_foldl {octets : List UInt8} (positions : List Nat)
    (inside : ∀ pos ∈ positions, pos < 8 * octets.length) (other : Nat) :
    bitAt (positions.foldl raiseBit octets) other =
      (bitAt octets other || decide (other ∈ positions)) := by
  induction positions generalizing octets with
  | nil => simp
  | cons pos positions ih =>
      rw [List.foldl_cons, ih, bitAt_raiseBit (inside pos List.mem_cons_self), Bool.or_assoc]
      · congr 1
        simp only [List.mem_cons, Bool.decide_or]
      · intro later member
        rw [raiseBit_length]
        exact inside later (List.mem_cons_of_mem _ member)

/-- Of a string of bits. -/
theorem bitAt_raiseBits {octets : List UInt8} {pos : Nat} {bits : List Bool}
    (inside : pos + bits.length ≤ 8 * octets.length) (other : Nat) :
    bitAt (raiseBits octets pos bits) other =
      (bitAt octets other || decide (pos ≤ other) && bits.getD (other - pos) false) := by
  induction bits generalizing octets pos with
  | nil => simp [raiseBits]
  | cons bit bits ih =>
      rw [List.length_cons] at inside
      have raised : bitAt (if bit then raiseBit octets pos else octets) other =
          (bitAt octets other || decide (other = pos) && bit) := by
        cases bit with
        | true =>
            rw [if_pos rfl, bitAt_raiseBit (by omega), Bool.and_true]
        | false =>
            rw [if_neg Bool.false_ne_true, Bool.and_false, Bool.or_false]
      have length : (if bit then raiseBit octets pos else octets).length = octets.length := by
        split
        · exact raiseBit_length octets pos
        · rfl
      rw [raiseBits, ih (by rw [length]; omega), raised, Bool.or_assoc]
      congr 1
      rcases Nat.lt_trichotomy other pos with before | same | behind
      · simp [Nat.not_le.mpr before, Nat.not_le.mpr (Nat.lt_succ_of_lt before), before.ne]
      · simp [same]
      · obtain ⟨offset, rfl⟩ := Nat.exists_eq_add_of_lt behind
        have next : pos + offset + 1 - pos = offset + 1 := by omega
        have rest : pos + offset + 1 - (pos + 1) = offset := by omega
        have apart : ¬ pos + offset + 1 = pos := by omega
        have first : pos + 1 ≤ pos + offset + 1 := by omega
        rw [next, rest, List.getD_cons_succ, decide_eq_false apart, decide_eq_true first,
          decide_eq_true (Nat.le_of_succ_le first), Bool.false_and, Bool.false_or]

/-- Packed bits come back out. -/
theorem firstBits_packBits (bits : List Bool) : firstBits (packBits bits) bits.length = bits := by
  have room : 0 + bits.length ≤ 8 * (List.replicate ((bits.length + 7) / 8) (0 : UInt8)).length := by
    rw [List.length_replicate]
    omega
  unfold firstBits packBits
  refine List.ext_getElem (by rw [List.length_map, List.length_range]) fun i _ inside => ?_
  rw [List.getElem_map, List.getElem_range, bitAt_raiseBits room, bitAt_zeros, Bool.false_or,
    decide_eq_true (Nat.zero_le i), Bool.true_and, Nat.sub_zero, List.getD_eq_getElem _ _ inside]

end OctetBits

end Gsml3
