import Mathlib

/-!
# Bit strings

Lists of bits with the most significant bit first: their value, the bits of a
number of given width, and the bits of an octet string.
-/

namespace Foundation

/-- The number a list of bits stands for. -/
def bitValue (bits : List Bool) : Nat :=
  bits.foldl (fun value bit => 2 * value + bit.toNat) 0

/-- The lowest `width` bits of a number. -/
def valueBits : Nat → Nat → List Bool
  | 0, _ => []
  | width + 1, value => value.testBit width :: valueBits width value

/-- The bits of an octet string. -/
def bitString (octets : List UInt8) : List Bool :=
  octets.flatMap fun octet => valueBits 8 octet.toNat

/-- The octets that `count` groups of eight bits stand for. -/
def octetGroups : Nat → List Bool → List UInt8
  | 0, _ => []
  | count + 1, bits => UInt8.ofNat (bitValue (bits.take 8)) :: octetGroups count (bits.drop 8)

/-- The string with `field` in place of its bits from `start` on. -/
def overwrite (bits : List Bool) (start : Nat) (field : List Bool) : List Bool :=
  bits.take start ++ field ++ bits.drop (start + field.length)

/-! ## Values -/

section Values

variable {bits : List Bool}

theorem foldl_bits (bits : List Bool) (start : Nat) :
    bits.foldl (fun value bit => 2 * value + bit.toNat) start =
      start * 2 ^ bits.length + bitValue bits := by
  induction bits generalizing start with
  | nil => simp [bitValue]
  | cons bit rest ih =>
      rw [bitValue, List.foldl_cons, List.foldl_cons, ih, ih, List.length_cons, pow_succ]
      ring

theorem bitValue_append (front back : List Bool) :
    bitValue (front ++ back) = bitValue front * 2 ^ back.length + bitValue back := by
  rw [bitValue, List.foldl_append, foldl_bits]
  rfl

theorem bitValue_cons (bit : Bool) (bits : List Bool) :
    bitValue (bit :: bits) = bit.toNat * 2 ^ bits.length + bitValue bits := by
  rw [← List.singleton_append, bitValue_append]
  simp [bitValue]

theorem bitValue_lt (bits : List Bool) : bitValue bits < 2 ^ bits.length := by
  induction bits with
  | nil => exact Nat.one_pos
  | cons bit rest ih =>
      rw [bitValue_cons, List.length_cons, pow_succ]
      cases bit <;> simp only [Bool.toNat_false, Bool.toNat_true] <;> omega

/-- The value of a piece of a bit string is a field of its value. -/
theorem bitValue_slice {start width : Nat} (inside : start + width ≤ bits.length) :
    bitValue ((bits.drop start).take width) =
      bitValue bits / 2 ^ (bits.length - start - width) % 2 ^ width := by
  obtain ⟨front, field, back, rfl, rfl, rfl⟩ :
      ∃ front field back, bits = front ++ field ++ back ∧ start = front.length ∧
        width = field.length := by
    refine ⟨bits.take start, (bits.drop start).take width, (bits.drop start).drop width, ?_, ?_, ?_⟩
    · rw [List.append_assoc, List.take_append_drop, List.take_append_drop]
    · rw [List.length_take]
      omega
    · rw [List.length_take, List.length_drop]
      omega
  have length : (front ++ field ++ back).length - front.length - field.length = back.length := by
    rw [List.length_append, List.length_append]
    omega
  rw [length, List.append_assoc, List.drop_left, List.take_left, ← List.append_assoc,
    bitValue_append, bitValue_append, mul_comm _ (2 ^ back.length),
    Nat.mul_add_div (Nat.two_pow_pos _), Nat.div_eq_of_lt (bitValue_lt back), Nat.add_zero,
    Nat.mul_add_mod_self_right, Nat.mod_eq_of_lt (bitValue_lt field)]

end Values

/-! ## Bits of numbers -/

section Numbers

@[simp] theorem valueBits_length (width value : Nat) : (valueBits width value).length = width := by
  induction width with
  | zero => rfl
  | succ width ih => rw [valueBits, List.length_cons, ih]

theorem valueBits_getElem? {width i : Nat} (value : Nat) (inside : i < width) :
    (valueBits width value)[i]? = some (value.testBit (width - 1 - i)) := by
  induction width generalizing i with
  | zero => omega
  | succ width ih =>
      cases i with
      | zero => rfl
      | succ i =>
          rw [valueBits, List.getElem?_cons_succ, ih (by omega)]
          congr 2
          omega

/-- Writing a number out and reading it back keeps its lowest bits. -/
theorem valueBits_add (high low value : Nat) :
    valueBits (high + low) value = valueBits high (value / 2 ^ low) ++ valueBits low value := by
  induction high with
  | zero => rw [Nat.zero_add, valueBits, List.nil_append]
  | succ high ih =>
      rw [Nat.succ_add, valueBits, valueBits, ih, Nat.testBit_div_two_pow, List.cons_append]

@[simp] theorem bitValue_valueBits (width value : Nat) :
    bitValue (valueBits width value) = value % 2 ^ width := by
  induction width with
  | zero => simp [valueBits, bitValue, Nat.mod_one]
  | succ width ih =>
      rw [valueBits, bitValue_cons, ih, valueBits_length, Nat.mod_pow_succ, Nat.toNat_testBit,
        Nat.add_comm, Nat.mul_comm]

end Numbers

/-! ## Octet strings -/

/-- A property of the 256 octets, checked nibble by nibble. -/
theorem forall_octet {property : UInt8 → Prop}
    (checked : ∀ high low : Fin 16, property (UInt8.ofNat (16 * high + low))) (octet : UInt8) :
    property octet := by
  have small := octet.toNat_lt
  have found := checked ⟨octet.toNat / 16, by omega⟩ ⟨octet.toNat % 16, by omega⟩
  simpa [Nat.div_add_mod] using found

section Octets

variable (octets : List UInt8)

@[simp] theorem bitString_length : (bitString octets).length = 8 * octets.length := by
  induction octets with
  | nil => rfl
  | cons octet rest ih =>
      rw [bitString, List.flatMap_cons, List.length_append, valueBits_length, ← bitString, ih,
        List.length_cons]
      omega

theorem bitString_cons (octet : UInt8) :
    bitString (octet :: octets) = valueBits 8 octet.toNat ++ bitString octets :=
  rfl

theorem bitString_append (front back : List UInt8) :
    bitString (front ++ back) = bitString front ++ bitString back :=
  List.flatMap_append

theorem bitString_drop (n : Nat) :
    bitString (octets.drop n) = (bitString octets).drop (8 * n) := by
  induction n generalizing octets with
  | zero => rfl
  | succ n ih =>
      cases octets with
      | nil => simp [bitString]
      | cons octet rest =>
          have whole : (valueBits 8 octet.toNat).length ≤ 8 * (n + 1) := by
            rw [valueBits_length]
            omega
          rw [List.drop_succ_cons, ih, bitString_cons, List.drop_append,
            List.drop_of_length_le whole, valueBits_length, List.nil_append, Nat.mul_succ,
            Nat.add_sub_cancel]

theorem bitString_take (n : Nat) :
    bitString (octets.take n) = (bitString octets).take (8 * n) := by
  induction n generalizing octets with
  | zero => simp [bitString]
  | succ n ih =>
      cases octets with
      | nil => simp [bitString]
      | cons octet rest =>
          have whole : (valueBits 8 octet.toNat).length ≤ 8 * (n + 1) := by
            rw [valueBits_length]
            omega
          rw [List.take_succ_cons, bitString_cons, ih, bitString_cons, List.take_append,
            List.take_of_length_le whole, valueBits_length, Nat.mul_succ, Nat.add_sub_cancel]

theorem bitString_getElem? (i : Nat) :
    (bitString octets)[i]? =
      octets[i / 8]?.map fun octet => octet.toNat.testBit (7 - i % 8) := by
  have place : i = 8 * (i / 8) + i % 8 := by omega
  have low : i % 8 < 8 := Nat.mod_lt _ (by decide)
  rw [place, ← List.getElem?_drop, ← bitString_drop, ← place]
  cases rest : octets.drop (i / 8) with
  | nil =>
      rw [List.drop_eq_nil_iff] at rest
      rw [List.getElem?_eq_none rest]
      rfl
  | cons octet tail =>
      have head : octets[i / 8]? = some octet := by
        rw [← List.head?_drop, rest]
        rfl
      rw [head, bitString_cons, List.getElem?_append_left (by rw [valueBits_length]; exact low),
        valueBits_getElem? _ low]
      rfl

/-- Grouping the bits of an octet string gives its octets. -/
theorem octetGroups_bitString (rest : List Bool) :
    octetGroups octets.length (bitString octets ++ rest) = octets := by
  induction octets with
  | nil => rfl
  | cons octet octets ih =>
      have eight : 8 = (valueBits 8 octet.toNat).length := (valueBits_length ..).symm
      rw [List.length_cons, octetGroups, bitString_cons, List.append_assoc, List.take_append,
        List.drop_append, valueBits_length, Nat.sub_self, List.take_zero, List.drop_zero,
        List.take_of_length_le eight.ge, List.drop_of_length_le eight.ge, List.append_nil,
        List.nil_append, ih, bitValue_valueBits]
      congr 1
      exact UInt8.toNat_inj.mp (by simp)

theorem octetGroups_succ (count : Nat) (bits : List Bool) :
    octetGroups (count + 1) bits =
      UInt8.ofNat (bitValue (bits.take 8)) :: octetGroups count (bits.drop 8) :=
  rfl

theorem octetGroups_add (m n : Nat) (bits : List Bool) :
    octetGroups (m + n) bits = octetGroups m bits ++ octetGroups n (bits.drop (8 * m)) := by
  induction m generalizing bits with
  | zero => rw [Nat.zero_add, octetGroups, List.nil_append, Nat.mul_zero, List.drop_zero]
  | succ m ih =>
      rw [Nat.add_right_comm, octetGroups_succ, octetGroups_succ, ih, List.drop_drop,
        List.cons_append, Nat.mul_succ, Nat.add_comm 8]

theorem octetGroups_eq_map (count : Nat) (bits : List Bool) :
    octetGroups count bits =
      (List.range count).map fun i => UInt8.ofNat (bitValue ((bits.drop (8 * i)).take 8)) := by
  induction count with
  | zero => rfl
  | succ count ih =>
      rw [octetGroups_add, ih, List.range_succ, List.map_append]
      rfl

end Octets

/-! ## Overwriting -/

section Overwriting

variable {bits : List Bool} {start : Nat}

theorem overwrite_nil (bits : List Bool) (start : Nat) : overwrite bits start [] = bits := by
  rw [overwrite, List.append_nil, List.length_nil, Nat.add_zero, List.take_append_drop]

/-- Two fields in a row. -/
theorem overwrite_append (inside : start ≤ bits.length) (first second : List Bool) :
    overwrite (overwrite bits start first) (start + first.length) second =
      overwrite bits start (first ++ second) := by
  have length : (bits.take start ++ first).length = start + first.length := by
    rw [List.length_append, List.length_take, Nat.min_eq_left inside]
  rw [overwrite, overwrite, overwrite, List.take_left' length, ← List.drop_drop,
    List.drop_left' length, List.drop_drop, List.length_append, List.append_assoc _ first second,
    Nat.add_assoc]

theorem overwrite_set (inside : start < bits.length) (bit : Bool) :
    overwrite bits start [bit] = bits.set start bit := by
  rw [overwrite, List.set_eq_take_append_cons_drop, if_pos inside, List.append_assoc]
  rfl

end Overwriting

end Foundation
