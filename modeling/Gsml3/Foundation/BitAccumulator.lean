import Mathlib.Data.Nat.Bitwise
import Mathlib.Data.Nat.Digits.Lemmas
import Mathlib.Tactic.Ring
import Mathlib.Tactic.Set

/-!
# Bit accumulators

Digits of one width are repacked into digits of another.  Each digit is put above the bits that
an accumulator holds, and its lowest bits are given out as long as there are enough of them.
The digits given out and the bits held make up the value of the digits taken in.
-/

namespace Foundation

/-- Bits that are not given out yet. -/
structure BitAccumulator where
  bits : Nat := 0
  count : Nat := 0
deriving DecidableEq, Repr

namespace BitAccumulator

/-- Put a digit above the bits held, in a machine word. -/
def add (word inWidth : Nat) (held : BitAccumulator) (digit : Nat) : BitAccumulator where
  bits := held.bits ||| digit <<< held.count % 2 ^ word
  count := held.count + inWidth

/-- Give out digits while there are enough bits. -/
def drain (outWidth : Nat) : Nat → BitAccumulator → List Nat × BitAccumulator
  | 0, held => ([], held)
  | rounds + 1, held =>
      if outWidth ≤ held.count then
        let rest := drain outWidth rounds {
          bits := held.bits >>> outWidth
          count := held.count - outWidth }
        (held.bits % 2 ^ outWidth :: rest.1, rest.2)
      else ([], held)

def repack (word inWidth outWidth : Nat) :
    BitAccumulator → List Nat → List Nat × BitAccumulator
  | held, [] => ([], held)
  | held, digit :: digits =>
      let added := held.add word inWidth digit
      let drained := drain outWidth added.count added
      let rest := repack word inWidth outWidth drained.2 digits
      (drained.1 ++ rest.1, rest.2)

/-- The last digit has what is left of the bits, if there are any. -/
def flush (outWidth : Nat) (result : List Nat × BitAccumulator) : List Nat :=
  result.1 ++ if 0 < result.2.count then [result.2.bits % 2 ^ outWidth] else []

variable {word inWidth outWidth : Nat} {held : BitAccumulator}
  {result later : List Nat × BitAccumulator} {value total : Nat}

/-! ## What is held -/

/-- The digits given out and the bits held, fewer than a digit has, are a value of so many
bits. -/
structure Holds (outWidth : Nat) (result : List Nat × BitAccumulator) (value total : Nat) :
    Prop where
  value_eq : Nat.ofDigits (2 ^ outWidth) result.1 +
    2 ^ (outWidth * result.1.length) * result.2.bits = value
  total_eq : outWidth * result.1.length + result.2.count = total
  digits_lt : ∀ digit ∈ result.1, digit < 2 ^ outWidth
  bits_lt : result.2.bits < 2 ^ result.2.count
  count_lt : result.2.count < outWidth

theorem holds_nil (bits_lt : held.bits < 2 ^ held.count) (count_lt : held.count < outWidth) :
    Holds outWidth ([], held) held.bits held.count where
  value_eq := by simp
  total_eq := by simp
  digits_lt := nofun
  bits_lt := bits_lt
  count_lt := count_lt

/-- What follows goes on with the bits that were held. -/
theorem Holds.append (first : Holds outWidth result value total) {rest restTotal : Nat}
    (second : Holds outWidth later (result.2.bits + 2 ^ result.2.count * rest)
      (result.2.count + restTotal)) :
    Holds outWidth (result.1 ++ later.1, later.2) (value + 2 ^ total * rest)
      (total + restTotal) where
  value_eq := by
    rw [Nat.ofDigits_append, List.length_append, ← pow_mul, Nat.mul_add, pow_add, add_assoc,
      mul_assoc, ← mul_add, second.value_eq, mul_add, ← add_assoc, first.value_eq, ← mul_assoc,
      ← pow_add, first.total_eq]
  total_eq := by
    rw [List.length_append, Nat.mul_add, Nat.add_assoc, second.total_eq, ← Nat.add_assoc,
      first.total_eq]
  digits_lt := by
    intro digit member
    rcases List.mem_append.mp member with member | member
    · exact first.digits_lt digit member
    · exact second.digits_lt digit member
  bits_lt := second.bits_lt
  count_lt := second.count_lt

theorem drain_holds (positive : 0 < outWidth) {rounds : Nat} (enough : held.count ≤ rounds)
    (bits_lt : held.bits < 2 ^ held.count) :
    Holds outWidth (drain outWidth rounds held) held.bits held.count := by
  induction rounds generalizing held with
  | zero => exact holds_nil bits_lt (enough.trans_lt positive)
  | succ rounds ih =>
      rw [drain]
      split
      case isFalse few => exact holds_nil bits_lt (Nat.lt_of_not_le few)
      case isTrue full =>
        have shifted : held.bits >>> outWidth < 2 ^ (held.count - outWidth) := by
          rw [Nat.shiftRight_eq_div_pow]
          apply Nat.div_lt_of_lt_mul
          rwa [← pow_add, Nat.add_sub_cancel' full]
        have rest := @ih {
          bits := held.bits >>> outWidth
          count := held.count - outWidth } (by change held.count - outWidth ≤ _; omega) shifted
        refine ⟨?_, ?_, ?_, rest.bits_lt, rest.count_lt⟩
        · have value := rest.value_eq
          set drained := drain outWidth rounds {
            bits := held.bits >>> outWidth
            count := held.count - outWidth }
          rw [Nat.shiftRight_eq_div_pow] at value
          calc Nat.ofDigits (2 ^ outWidth) (held.bits % 2 ^ outWidth :: drained.1) +
                2 ^ (outWidth * (drained.1.length + 1)) * drained.2.bits
              = held.bits % 2 ^ outWidth + 2 ^ outWidth * (Nat.ofDigits (2 ^ outWidth) drained.1 +
                  2 ^ (outWidth * drained.1.length) * drained.2.bits) := by
                rw [Nat.ofDigits_cons]
                ring
            _ = held.bits := by rw [value, Nat.mod_add_div]
        · rw [List.length_cons, Nat.mul_succ, Nat.add_right_comm, rest.total_eq]
          exact Nat.sub_add_cancel full
        · intro digit member
          rcases List.mem_cons.mp member with rfl | member
          · exact Nat.mod_lt _ (Nat.two_pow_pos outWidth)
          · exact rest.digits_lt digit member

/-- A digit above the bits held, which leave it room in the word. -/
theorem add_bits {digit : Nat} (room : held.count + inWidth ≤ word)
    (bits_lt : held.bits < 2 ^ held.count) (small : digit < 2 ^ inWidth) :
    (held.add word inWidth digit).bits = held.bits + 2 ^ held.count * digit := by
  have fits : digit <<< held.count < 2 ^ word := by
    rw [Nat.shiftLeft_eq]
    calc digit * 2 ^ held.count < 2 ^ inWidth * 2 ^ held.count :=
          Nat.mul_lt_mul_of_pos_right small (Nat.two_pow_pos _)
      _ = 2 ^ (held.count + inWidth) := by rw [pow_add, mul_comm]
      _ ≤ 2 ^ word := Nat.pow_le_pow_right Nat.two_pos room
  change held.bits ||| digit <<< held.count % 2 ^ word = _
  rw [Nat.mod_eq_of_lt fits, Nat.lor_comm, ← Nat.shiftLeft_add_eq_or_of_lt bits_lt,
    Nat.shiftLeft_eq, Nat.add_comm, mul_comm]

theorem repack_holds (positive : 0 < outWidth) (room : outWidth + inWidth ≤ word)
    (bits_lt : held.bits < 2 ^ held.count) (count_lt : held.count < outWidth) {digits : List Nat}
    (small : ∀ digit ∈ digits, digit < 2 ^ inWidth) :
    Holds outWidth (repack word inWidth outWidth held digits)
      (held.bits + 2 ^ held.count * Nat.ofDigits (2 ^ inWidth) digits)
      (held.count + inWidth * digits.length) := by
  induction digits generalizing held with
  | nil =>
      rw [Nat.ofDigits_nil]
      exact holds_nil bits_lt count_lt
  | cons digit digits ih =>
      have digit_lt := small digit List.mem_cons_self
      have bits := @add_bits word inWidth held digit (by omega) bits_lt digit_lt
      have added_lt : (held.add word inWidth digit).bits <
          2 ^ (held.add word inWidth digit).count := by
        rw [bits]
        change _ < 2 ^ (held.count + inWidth)
        calc held.bits + 2 ^ held.count * digit < 2 ^ held.count * (digit + 1) := by
              rw [mul_add, mul_one, Nat.add_comm]
              exact Nat.add_lt_add_left bits_lt _
          _ ≤ 2 ^ held.count * 2 ^ inWidth := Nat.mul_le_mul_left _ digit_lt
          _ = 2 ^ (held.count + inWidth) := (pow_add ..).symm
      have first := drain_holds positive le_rfl added_lt
      have second := @ih _ first.bits_lt first.count_lt
        fun digit member => small digit (List.mem_cons_of_mem _ member)
      have all := first.append second
      have value : (held.add word inWidth digit).bits +
          2 ^ (held.add word inWidth digit).count * Nat.ofDigits (2 ^ inWidth) digits =
            held.bits + 2 ^ held.count * Nat.ofDigits (2 ^ inWidth) (digit :: digits) := by
        rw [bits, Nat.ofDigits_cons]
        change _ + 2 ^ (held.count + inWidth) * _ = _
        rw [pow_add, mul_add, mul_assoc, add_assoc]
      have count : (held.add word inWidth digit).count + inWidth * digits.length =
          held.count + inWidth * (digit :: digits).length := by
        rw [List.length_cons, Nat.mul_succ]
        change held.count + inWidth + _ = _
        omega
      rw [value, count] at all
      exact all

/-! ## Packing and unpacking -/

/-- Digits whose value is that of shorter ones have zeros above them. -/
theorem Holds.eq_append_zeros {digits : List Nat}
    (holds : Holds outWidth result (Nat.ofDigits (2 ^ outWidth) digits) total)
    (small : ∀ digit ∈ digits, digit < 2 ^ outWidth) (enough : digits.length ≤ result.1.length) :
    result.1 = digits ++ List.replicate (result.1.length - digits.length) 0 := by
  have base : 1 < 2 ^ outWidth := Nat.one_lt_two_pow (by have := holds.count_lt; omega)
  have bounded : Nat.ofDigits (2 ^ outWidth) digits < 2 ^ (outWidth * result.1.length) := by
    rw [pow_mul]
    exact (Nat.ofDigits_lt_base_pow_length base small).trans_le
      (Nat.pow_le_pow_right (by omega) enough)
  have value := holds.value_eq
  have empty : result.2.bits = 0 := by
    by_contra some_bit
    have := Nat.le_mul_of_pos_right (2 ^ (outWidth * result.1.length))
      (Nat.pos_of_ne_zero some_bit)
    omega
  rw [empty, Nat.mul_zero, Nat.add_zero] at value
  apply Nat.ofDigits_inj_of_len_eq base
  · rw [List.length_append, List.length_replicate, Nat.add_sub_cancel' enough]
  · exact holds.digits_lt
  · intro digit member
    rcases List.mem_append.mp member with member | member
    · exact small digit member
    · rw [List.eq_of_mem_replicate member]
      exact Nat.two_pow_pos outWidth
  · rw [Nat.ofDigits_append_replicate_zero, value]

section Flush

variable (holds : Holds outWidth result value total)

include holds

theorem Holds.ofDigits_flush : Nat.ofDigits (2 ^ outWidth) (flush outWidth result) = value := by
  have small : result.2.bits < 2 ^ outWidth :=
    holds.bits_lt.trans_le (Nat.pow_le_pow_right Nat.two_pos holds.count_lt.le)
  rw [flush, Nat.ofDigits_append, ← pow_mul, ← holds.value_eq]
  split
  · rw [Nat.ofDigits_singleton, Nat.mod_eq_of_lt small]
  · have none : result.2.count = 0 := by omega
    have empty := holds.bits_lt
    rw [none, pow_zero, Nat.lt_one_iff] at empty
    rw [empty, Nat.ofDigits_nil]

theorem Holds.length_flush : (flush outWidth result).length = (total + outWidth - 1) / outWidth := by
  have few := holds.count_lt
  rw [flush, List.length_append, ← holds.total_eq]
  split
  · rw [List.length_singleton, Nat.add_assoc, Nat.add_sub_assoc (by omega),
      Nat.mul_add_div (by omega)]
    congr 1
    exact (Nat.div_eq_of_lt_le (by omega) (by omega)).symm
  · rw [List.length_nil, Nat.add_assoc, Nat.add_sub_assoc (by omega), Nat.mul_add_div (by omega)]
    congr 1
    exact (Nat.div_eq_of_lt (by omega)).symm

theorem Holds.flush_lt : ∀ digit ∈ flush outWidth result, digit < 2 ^ outWidth := by
  intro digit member
  rcases List.mem_append.mp member with member | member
  · exact holds.digits_lt digit member
  · split at member
    · rw [List.mem_singleton.mp member]
      exact Nat.mod_lt _ (Nat.two_pow_pos outWidth)
    · cases member

end Flush

/-- Digits that are packed and unpacked come back with as many zeros as the bits of the last
packed digit make up. -/
theorem unpack_pack (out_positive : 0 < outWidth) (in_positive : 0 < inWidth)
    (room : outWidth + inWidth ≤ word) {digits : List Nat}
    (small : ∀ digit ∈ digits, digit < 2 ^ inWidth) :
    let packed := flush outWidth (repack word inWidth outWidth {} digits)
    packed.length = (inWidth * digits.length + outWidth - 1) / outWidth ∧
      (∀ digit ∈ packed, digit < 2 ^ outWidth) ∧
      (repack word outWidth inWidth {} packed).1 =
        digits ++ List.replicate (outWidth * packed.length / inWidth - digits.length) 0 := by
  intro packed
  have packs := @repack_holds word inWidth outWidth {} out_positive room (by decide) out_positive _
    small
  rw [Nat.zero_add, Nat.zero_add, pow_zero, one_mul] at packs
  have unpacks := @repack_holds word outWidth inWidth {} in_positive (by omega) (by decide)
    in_positive _ packs.flush_lt
  rw [Nat.zero_add, Nat.zero_add, pow_zero, one_mul, packs.ofDigits_flush] at unpacks
  have length : (repack word outWidth inWidth {} packed).1.length =
      outWidth * packed.length / inWidth := by
    rw [← unpacks.total_eq, Nat.mul_add_div in_positive,
      Nat.div_eq_of_lt unpacks.count_lt, Nat.add_zero]
  have enough : inWidth * digits.length ≤ outWidth * packed.length := by
    rw [packs.length_flush]
    have := Nat.lt_mul_div_succ (inWidth * digits.length + outWidth - 1) out_positive
    rw [Nat.mul_add, Nat.mul_one] at this
    omega
  refine ⟨packs.length_flush, packs.flush_lt, ?_⟩
  rw [← length]
  apply unpacks.eq_append_zeros small
  rw [length]
  exact (Nat.le_div_iff_mul_le in_positive).mpr (by rwa [mul_comm])

end BitAccumulator

end Foundation
