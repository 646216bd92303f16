import Gsml3.Foundation.BitString

/-!
# Bits in octets

A buffer of octets as a row of bits, the lowest of each octet first.  Bits are set in a buffer of
zeros one by one; groups of bits are read from any position on.
-/

namespace Foundation.BitBuffer

/-- The bit at a position; there are zeros behind the end. -/
def getBit (buffer : List UInt8) (pos : Nat) : Bool :=
  (buffer.getD (pos / 8) 0).toNat.testBit (pos % 8)

/-- A bit that is set stays set; behind the end nothing is written. -/
def orBit (buffer : List UInt8) (pos : Nat) (bit : Bool) : List UInt8 :=
  buffer.modify (pos / 8) fun octet => octet ||| (if bit then 1 else 0) <<< UInt8.ofNat (pos % 8)

/-- The lowest bits of a value. -/
def lowBits (width : Nat) (value : UInt8) : List Bool :=
  (List.range width).map value.toNat.testBit

/-- Bits that are set one behind the other, and the position behind them. -/
def putBits (state : List UInt8 × Nat) (bits : List Bool) : List UInt8 × Nat :=
  bits.foldl (fun state bit => (orBit state.1 state.2 bit, state.2 + 1)) state

/-- The value of a group of bits, its lowest bit first. -/
def readBits (width : Nat) (buffer : List UInt8) (pos : Nat) : UInt8 :=
  (List.range width).foldl
    (fun value bit => value ||| (if getBit buffer (pos + bit) then 1 else 0) <<< UInt8.ofNat bit) 0

variable {buffer : List UInt8} {pos : Nat}

@[simp] theorem orBit_length (bit : Bool) : (orBit buffer pos bit).length = buffer.length :=
  List.length_modify ..

theorem testBit_orOctet (octet : UInt8) (bit : Bool) {shift other : Nat} (inside : shift < 8) :
    (octet ||| (if bit then 1 else 0) <<< UInt8.ofNat shift).toNat.testBit other =
      (octet.toNat.testBit other || (bit && decide (shift = other))) := by
  have shifted : ((if bit then 1 else 0) <<< UInt8.ofNat shift : UInt8).toNat =
      if bit then 2 ^ shift else 0 := by
    interval_cases shift <;> cases bit <;> rfl
  rw [UInt8.toNat_or, Nat.testBit_or, shifted]
  cases bit with
  | false => rw [if_neg Bool.false_ne_true, Nat.zero_testBit, Bool.false_and]
  | true => rw [if_pos rfl, Nat.testBit_two_pow, Bool.true_and]

theorem getBit_orBit (bit : Bool) (inside : pos < 8 * buffer.length) (other : Nat) :
    getBit (orBit buffer pos bit) other =
      (getBit buffer other || (bit && decide (pos = other))) := by
  rw [getBit, getBit, orBit, List.getD_eq_getElem?_getD, List.getElem?_modify,
    List.getD_eq_getElem?_getD]
  by_cases same : pos / 8 = other / 8
  · have room : other / 8 < buffer.length := by omega
    have bits : pos % 8 = other % 8 ↔ pos = other := by omega
    simp only [if_pos same]
    rw [List.getElem?_eq_getElem room]
    change (_ ||| _ : UInt8).toNat.testBit _ = _
    rw [testBit_orOctet _ _ (Nat.mod_lt _ (by decide)), decide_eq_decide.mpr bits]
    rfl
  · have apart : pos ≠ other := fun equal => same (equal ▸ rfl)
    simp only [if_neg same]
    rw [decide_eq_false apart, Bool.and_false, Bool.or_false]
    cases buffer[other / 8]? <;> rfl

/-- The first bits of the buffer, with zeros behind them. -/
structure Holds (count : Nat) (state : List UInt8 × Nat) (bits : List Bool) : Prop where
  length : state.1.length = count
  pos : state.2 = bits.length
  bit : ∀ i, getBit state.1 i = bits.getD i false

theorem holds_nil (count : Nat) : Holds count (.replicate count 0, 0) [] where
  length := List.length_replicate
  pos := rfl
  bit i := by
    rw [getBit, List.getD_eq_getElem?_getD, List.getElem?_replicate]
    split
    · exact Nat.zero_testBit _
    · exact Nat.zero_testBit _

theorem Holds.put {count : Nat} {state : List UInt8 × Nat} {earlier bits : List Bool}
    (holds : Holds count state earlier) (room : (earlier ++ bits).length ≤ 8 * count) :
    Holds count (putBits state bits) (earlier ++ bits) := by
  induction bits generalizing state earlier with
  | nil =>
      rw [List.append_nil]
      exact holds
  | cons bit bits ih =>
      have inside : state.2 < 8 * state.1.length := by
        rw [List.length_append, List.length_cons] at room
        rw [holds.pos, holds.length]
        omega
      have one : Holds count (orBit state.1 state.2 bit, state.2 + 1) (earlier ++ [bit]) := {
        length := (orBit_length bit).trans holds.length
        pos := by
          rw [List.length_append, holds.pos]
          rfl
        bit := by
          intro i
          rw [getBit_orBit bit inside, holds.bit, holds.pos, List.getD_eq_getElem?_getD,
            List.getD_eq_getElem?_getD, List.getElem?_append]
          rcases Nat.lt_trichotomy i earlier.length with before | rfl | behind
          · rw [if_pos before, decide_eq_false (Nat.ne_of_gt before), Bool.and_false,
              Bool.or_false]
          · rw [if_neg (Nat.lt_irrefl _), List.getElem?_eq_none le_rfl, decide_eq_true rfl,
              Nat.sub_self]
            exact Bool.and_true bit
          · have outside : [bit].length ≤ i - earlier.length := Nat.sub_pos_of_lt behind
            rw [if_neg (Nat.not_lt.mpr behind.le), List.getElem?_eq_none behind.le,
              List.getElem?_eq_none outside, decide_eq_false (Nat.ne_of_lt behind), Bool.and_false]
            rfl }
      have later := ih one (by rwa [List.append_assoc])
      rwa [List.append_assoc] at later

/-- A group of bits that were put is read again. -/
theorem readBits_eq {width : Nat} {value : UInt8} (narrow : width ≤ 8)
    (small : value.toNat < 2 ^ width)
    (bits : ∀ i < width, getBit buffer (pos + i) = value.toNat.testBit i) :
    readBits width buffer pos = value := by
  have upTo (count : Nat) (inside : count ≤ width) (j : Nat) :
      (readBits count buffer pos).toNat.testBit j =
        (value.toNat.testBit j && decide (j < count)) := by
    induction count with
    | zero =>
        rw [decide_eq_false (Nat.not_lt_zero j), Bool.and_false]
        exact Nat.zero_testBit j
    | succ count ih =>
        rw [readBits, List.range_succ, List.foldl_append]
        change (readBits count buffer pos ||| _ : UInt8).toNat.testBit j = _
        rw [testBit_orOctet _ _ (by omega), ih (by omega), bits count (by omega)]
        rcases Nat.lt_trichotomy j count with less | rfl | more
        · rw [decide_eq_true less, decide_eq_false (by omega), decide_eq_true (by omega)]
          simp
        · rw [decide_eq_false (Nat.lt_irrefl _), decide_eq_true rfl,
            decide_eq_true (Nat.lt_succ_self _)]
          simp
        · rw [decide_eq_false (by omega), decide_eq_false (by omega), decide_eq_false (by omega)]
          simp
  apply UInt8.toNat_inj.mp
  apply Nat.eq_of_testBit_eq
  intro j
  rw [upTo width le_rfl]
  by_cases inside : j < width
  · rw [decide_eq_true inside, Bool.and_true]
  · rw [decide_eq_false inside, Bool.and_false, Nat.testBit_lt_two_pow (small.trans_le
      (Nat.pow_le_pow_right Nat.two_pos (Nat.not_lt.mp inside)))]

/-- Values that are put one behind the other. -/
def putValues (width : Nat) (state : List UInt8 × Nat) (values : List UInt8) : List UInt8 × Nat :=
  values.foldl (fun state value => putBits state (lowBits width value)) state

@[simp] theorem lowBits_length (width : Nat) (value : UInt8) :
    (lowBits width value).length = width := by
  rw [lowBits, List.length_map, List.length_range]

theorem lowBits_getD {width i : Nat} (value : UInt8) (inside : i < width) :
    (lowBits width value).getD i false = value.toNat.testBit i := by
  rw [lowBits, List.getD_eq_getElem _ _ (by rwa [List.length_map, List.length_range]),
    List.getElem_map, List.getElem_range]

/-- The row of bits that several values make. -/
def valuesBits (width : Nat) (values : List UInt8) : List Bool :=
  values.flatMap (lowBits width)

@[simp] theorem valuesBits_length (width : Nat) (values : List UInt8) :
    (valuesBits width values).length = width * values.length := by
  induction values with
  | nil => rfl
  | cons value values ih =>
      rw [valuesBits, List.flatMap_cons, List.length_append, lowBits_length]
      change width + (valuesBits width values).length = _
      rw [ih, List.length_cons, Nat.mul_succ, Nat.add_comm]

/-- A value stands behind those before it. -/
theorem valuesBits_getD {width i bit : Nat} {values : List UInt8} (inside : i < values.length)
    (small : bit < width) :
    (valuesBits width values).getD (width * i + bit) false = values[i].toNat.testBit bit := by
  induction values generalizing i with
  | nil => exact absurd inside (Nat.not_lt_zero i)
  | cons value values ih =>
      rw [valuesBits, List.flatMap_cons]
      change (lowBits width value ++ valuesBits width values).getD _ _ = _
      cases i with
      | zero =>
          rw [Nat.mul_zero, Nat.zero_add, List.getD_append _ _ _ _ (by rwa [lowBits_length]),
            lowBits_getD value small]
          rfl
      | succ i =>
          have behind : width * (i + 1) + bit = width + (width * i + bit) := by
            rw [Nat.mul_succ]
            omega
          rw [behind, List.getD_append_right _ _ _ _ (by rw [lowBits_length]; omega),
            lowBits_length, Nat.add_sub_cancel_left, ih (Nat.lt_of_succ_lt_succ inside)]
          rfl

/-- Values that have room are put. -/
theorem holds_putValues {width count : Nat} {values : List UInt8}
    (room : width * values.length ≤ 8 * count) :
    Holds count (putValues width (.replicate count 0, 0) values) (valuesBits width values) := by
  have fits : ([] ++ valuesBits width values).length ≤ 8 * count := by
    rwa [List.nil_append, valuesBits_length]
  have put := (holds_nil count).put fits
  rw [putBits, valuesBits, List.foldl_flatMap] at put
  exact put

/-- What was put is read again. -/
theorem readBits_putValues {width count i : Nat} {values : List UInt8} (narrow : width ≤ 8)
    (room : width * values.length ≤ 8 * count) (inside : i < values.length)
    (small : values[i].toNat < 2 ^ width) :
    readBits width (putValues width (.replicate count 0, 0) values).1 (width * i) = values[i] := by
  refine readBits_eq narrow small fun bit within => ?_
  rw [(holds_putValues room).bit, valuesBits_getD inside within]

end Foundation.BitBuffer
