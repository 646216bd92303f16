import Mathlib.Data.Nat.Bitwise

/-!
# Fields packed into octets

Shifts and masks of octets as quotients and remainders, and a starting time of three fields in
two octets.
-/

namespace Foundation

/-- A field above a field of `width` bits. -/
theorem packed_toNat {high low : UInt8} (width : Nat) (narrow : width < 8)
    (small : low.toNat < 2 ^ width) (fits : high.toNat * 2 ^ width < 2 ^ 8) :
    (high <<< UInt8.ofNat width ||| low).toNat = high.toNat * 2 ^ width + low.toNat := by
  have reduced : width % 2 ^ 8 % 8 = width := by omega
  rw [UInt8.toNat_or, UInt8.toNat_shiftLeft, UInt8.toNat_ofNat', reduced, Nat.shiftLeft_eq,
    Nat.mod_eq_of_lt fits, ← Nat.shiftLeft_eq, ← Nat.shiftLeft_add_eq_or_of_lt small,
    Nat.shiftLeft_eq]

theorem toNat_and_mask (octet : UInt8) {mask : UInt8} {width : Nat}
    (ones : mask.toNat = 2 ^ width - 1) : (octet &&& mask).toNat = octet.toNat % 2 ^ width := by
  rw [UInt8.toNat_and, ones, Nat.and_two_pow_sub_one_eq_mod]

theorem toNat_shiftRight (octet : UInt8) {width : Nat} (narrow : width < 8) :
    (octet >>> UInt8.ofNat width).toNat = octet.toNat / 2 ^ width := by
  have reduced : width % 2 ^ 8 % 8 = width := by omega
  rw [UInt8.toNat_shiftRight, UInt8.toNat_ofNat', reduced, Nat.shiftRight_eq_div_pow]

section Wide

variable {high low : UInt32} {width : Nat}

theorem wide_packed_toNat (width : Nat) (narrow : width < 32) (small : low.toNat < 2 ^ width)
    (fits : high.toNat * 2 ^ width < 2 ^ 32) :
    (high <<< UInt32.ofNat width ||| low).toNat = high.toNat * 2 ^ width + low.toNat := by
  have reduced : width % 2 ^ 32 % 32 = width := by omega
  rw [UInt32.toNat_or, UInt32.toNat_shiftLeft, UInt32.toNat_ofNat', reduced, Nat.shiftLeft_eq,
    Nat.mod_eq_of_lt fits, ← Nat.shiftLeft_eq, ← Nat.shiftLeft_add_eq_or_of_lt small,
    Nat.shiftLeft_eq]

theorem wide_toNat_and_mask (value : UInt32) {mask : UInt32} (ones : mask.toNat = 2 ^ width - 1) :
    (value &&& mask).toNat = value.toNat % 2 ^ width := by
  rw [UInt32.toNat_and, ones, Nat.and_two_pow_sub_one_eq_mod]

theorem wide_toNat_shiftRight (value : UInt32) (narrow : width < 32) :
    (value >>> UInt32.ofNat width).toNat = value.toNat / 2 ^ width := by
  have reduced : width % 2 ^ 32 % 32 = width := by omega
  rw [UInt32.toNat_shiftRight, UInt32.toNat_ofNat', reduced, Nat.shiftRight_eq_div_pow]

end Wide

/-- Three fields of 5, 6 and 5 bits come out of their two octets. -/
theorem startingTime_decoded {t1p t3 t2 : UInt8} (t1p_fits : t1p.toNat < 32)
    (t3_fits : t3.toNat < 64) (t2_fits : t2.toNat < 32) {first second : UInt8}
    (packed_first : first = t1p <<< 3 ||| t3 >>> 3)
    (packed_second : second = (t3 &&& 0x07) <<< 5 ||| t2) :
    first >>> 3 = t1p ∧ (first &&& 0x07) <<< 3 ||| second >>> 5 = t3 ∧ second &&& 0x1F = t2 := by
  have high : (t3 >>> 3).toNat = t3.toNat / 2 ^ 3 := toNat_shiftRight t3 (by decide)
  have low : (t3 &&& 0x07).toNat = t3.toNat % 2 ^ 3 := toNat_and_mask t3 (by decide)
  have first_toNat : first.toNat = t1p.toNat * 2 ^ 3 + t3.toNat / 2 ^ 3 := by
    rw [packed_first, ← high]
    exact packed_toNat 3 (by decide) (by omega) (by omega)
  have second_toNat : second.toNat = t3.toNat % 2 ^ 3 * 2 ^ 5 + t2.toNat := by
    rw [packed_second, ← low]
    exact packed_toNat 5 (by decide) (by omega) (by omega)
  have first_low : (first &&& 0x07).toNat = first.toNat % 2 ^ 3 := toNat_and_mask first (by decide)
  have second_high : (second >>> 5).toNat = second.toNat / 2 ^ 5 :=
    toNat_shiftRight second (by decide)
  refine ⟨UInt8.toNat_inj.mp ?_, UInt8.toNat_inj.mp ?_, UInt8.toNat_inj.mp ?_⟩
  · have shifted : (first >>> 3).toNat = first.toNat / 2 ^ 3 := toNat_shiftRight first (by decide)
    omega
  · have joined : ((first &&& 0x07) <<< 3 ||| second >>> 5).toNat =
        (first &&& 0x07).toNat * 2 ^ 3 + (second >>> 5).toNat :=
      packed_toNat 3 (by decide) (by omega) (by omega)
    omega
  · have masked : (second &&& 0x1F).toNat = second.toNat % 2 ^ 5 :=
      toNat_and_mask second (by decide)
    omega

/-- The fields that come out of two octets are of 5, 6 and 5 bits. -/
theorem startingTime_fits (first second : UInt8) :
    (first >>> 3).toNat < 2 ^ 5 ∧ ((first &&& 0x07) <<< 3 ||| second >>> 5).toNat < 2 ^ 6 ∧
      (second &&& 0x1F).toNat < 2 ^ 5 := by
  have first_small := first.toNat_lt
  have second_small := second.toNat_lt
  have shifted : (first >>> 3).toNat = first.toNat / 2 ^ 3 := toNat_shiftRight first (by decide)
  have low : (first &&& 0x07).toNat = first.toNat % 2 ^ 3 := toNat_and_mask first (by decide)
  have high : (second >>> 5).toNat = second.toNat / 2 ^ 5 := toNat_shiftRight second (by decide)
  have masked : (second &&& 0x1F).toNat = second.toNat % 2 ^ 5 :=
    toNat_and_mask second (by decide)
  have joined : ((first &&& 0x07) <<< 3 ||| second >>> 5).toNat =
      (first &&& 0x07).toNat * 2 ^ 3 + (second >>> 5).toNat :=
    packed_toNat 3 (by decide) (by omega) (by omega)
  omega

theorem toUInt8_packed (high low : UInt8) :
    (high.toUInt32 <<< 3 ||| low.toUInt32 >>> 3).toUInt8 = high <<< 3 ||| low >>> 3 := by
  have shifted : (low >>> 3).toUInt32 = low.toUInt32 >>> 3 := UInt8.toUInt32_shiftRight low 3
  rw [UInt32.toUInt8_or, UInt32.toUInt8_shiftLeft _ _ (by decide), UInt8.toUInt8_toUInt32, ← shifted,
    UInt8.toUInt8_toUInt32]
  rfl

end Foundation
