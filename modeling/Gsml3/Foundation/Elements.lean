import Mathlib

/-!
# Tagged information elements

Lists of elements of a type octet, a length field if the type has no fixed size, and a
value.  Encoding and decoding are inverse as long as each value fits its format.
-/

namespace Foundation

/-- An information element. -/
structure Element where
  type : UInt8
  val : List UInt8
deriving DecidableEq, Repr

namespace Element

/-- How the value of an element is delimited: by its type, or by a length field. -/
inductive Format where
  | fixed (size : Nat)
  | counted (width : Nat)
deriving DecidableEq, Repr

/-! ## Length fields -/

/-- A number as a big-endian field of octets. -/
def lengthField : Nat → Nat → List UInt8
  | 0, _ => []
  | width + 1, n => UInt8.ofNat (n / 256 ^ width) :: lengthField width n

def readLength (field : List UInt8) : Nat :=
  field.foldl (fun n octet => n * 256 + octet.toNat) 0

@[simp] theorem lengthField_length (width n : Nat) : (lengthField width n).length = width := by
  induction width with
  | zero => rfl
  | succ width ih => rw [lengthField, List.length_cons, ih]

theorem readLength_from (field : List UInt8) (start : Nat) :
    field.foldl (fun n octet => n * 256 + octet.toNat) start =
      start * 256 ^ field.length + readLength field := by
  induction field generalizing start with
  | nil => simp [readLength]
  | cons octet field ih =>
      rw [readLength, List.foldl_cons, List.foldl_cons, ih, ih (0 * 256 + octet.toNat),
        List.length_cons, pow_succ]
      ring

theorem readLength_cons (octet : UInt8) (field : List UInt8) :
    readLength (octet :: field) = octet.toNat * 256 ^ field.length + readLength field := by
  rw [readLength, List.foldl_cons, readLength_from, Nat.zero_mul, Nat.zero_add]

theorem readLength_lengthField (width n : Nat) :
    readLength (lengthField width n) = n % 256 ^ width := by
  induction width with
  | zero =>
      rw [pow_zero, Nat.mod_one]
      rfl
  | succ width ih =>
      rw [lengthField, readLength_cons, ih, lengthField_length, UInt8.toNat_ofNat']
      change n / 256 ^ width % 256 * 256 ^ width + n % 256 ^ width = _
      rw [pow_succ, Nat.mod_mul, Nat.mul_comm, Nat.add_comm]

/-! ## Lists of elements -/

variable (format : UInt8 → Format)

/-- The value fits its format. -/
def WellFormed (element : Element) : Prop :=
  match format element.type with
  | .fixed size => element.val.length = size
  | .counted width => element.val.length < 256 ^ width

def encode (element : Element) : List UInt8 :=
  match format element.type with
  | .fixed _ => element.type :: element.val
  | .counted width =>
      element.type :: (lengthField width element.val.length ++ element.val)

/-- Split the value of an element off. -/
def takeValue : Format → List UInt8 → Option (List UInt8 × List UInt8)
  | .fixed size, data => if data.length < size then none else some (data.take size, data.drop size)
  | .counted width, data =>
      if data.length < width then none
      else
        let size := readLength (data.take width)
        let data := data.drop width
        if data.length < size then none else some (data.take size, data.drop size)

/-- Decode a list of at most `slots` elements; a truncated element ends it. -/
def decode : Nat → List UInt8 → List Element
  | 0, _ => []
  | _, [] => []
  | slots + 1, type :: data =>
      match takeValue (format type) data with
      | none => []
      | some (val, data) => ⟨type, val⟩ :: decode slots data

variable {format} {element : Element}

theorem takeValue_fixed (val rest : List UInt8) :
    takeValue (.fixed val.length) (val ++ rest) = some (val, rest) := by
  have enough : ¬ (val ++ rest).length < val.length := by
    rw [List.length_append]
    omega
  rw [takeValue, if_neg enough, List.take_left, List.drop_left]

theorem takeValue_counted {width : Nat} (val rest : List UInt8) (fits : val.length < 256 ^ width) :
    takeValue (.counted width) (lengthField width val.length ++ val ++ rest) =
      some (val, rest) := by
  obtain ⟨field, written⟩ : ∃ field, field = lengthField width val.length := ⟨_, rfl⟩
  have size : field.length = width := by rw [written, lengthField_length]
  have read : readLength field = val.length := by
    rw [written, readLength_lengthField, Nat.mod_eq_of_lt fits]
  have long : ¬ (field ++ val ++ rest).length < field.length := by
    rw [List.length_append, List.length_append]
    omega
  have enough : ¬ (val ++ rest).length < val.length := by
    rw [List.length_append]
    omega
  rw [← written, ← size, takeValue, if_neg long, List.append_assoc, List.take_left,
    List.drop_left, read]
  simp only [if_neg enough, List.take_left, List.drop_left]

theorem decode_cons (slots : Nat) (formed : element.WellFormed format) (rest : List UInt8) :
    decode format (slots + 1) (element.encode format ++ rest) =
      element :: decode format slots rest := by
  obtain ⟨type, val⟩ := element
  rw [WellFormed] at formed
  rw [encode]
  cases shape : format type with
  | fixed size =>
      simp only [shape] at formed ⊢
      rw [List.cons_append, decode, shape, ← formed, takeValue_fixed]
  | counted width =>
      simp only [shape] at formed ⊢
      rw [List.cons_append, decode, shape, takeValue_counted val rest formed]

/-- Decoding gives back the elements that were encoded. -/
theorem decode_encode {elements : List Element} {slots : Nat}
    (formed : ∀ element ∈ elements, element.WellFormed format) (room : elements.length ≤ slots) :
    decode format slots (elements.flatMap (encode format)) = elements := by
  induction elements generalizing slots with
  | nil =>
      cases slots with
      | zero => rfl
      | succ slots => rfl
  | cons element elements ih =>
      cases slots with
      | zero => exact absurd room (Nat.not_succ_le_zero _)
      | succ slots =>
          rw [List.flatMap_cons, decode_cons slots (formed element List.mem_cons_self)]
          congr 1
          apply ih
          · exact fun other member => formed other (List.mem_cons_of_mem _ member)
          · exact Nat.le_of_succ_le_succ room

/-! ## Values that do not fit -/

/-- The part of the value that a length field counts, when the length is reduced to it. -/
def cut (format : UInt8 → Format) (element : Element) : Element :=
  match format element.type with
  | .fixed _ => element
  | .counted width =>
      { element with val := element.val.take (element.val.length % 256 ^ width) }

@[simp] theorem cut_type (format : UInt8 → Format) (element : Element) :
    (element.cut format).type = element.type := by
  rw [cut]
  split <;> rfl

theorem cut_of_wellFormed (formed : element.WellFormed format) : element.cut format = element := by
  obtain ⟨type, val⟩ := element
  rw [WellFormed] at formed
  rw [cut]
  cases shape : format type with
  | fixed size => simp only
  | counted width =>
      simp only [shape] at formed
      simp only [Nat.mod_eq_of_lt formed, List.take_length]

theorem cut_length {width : Nat} (shape : format element.type = .counted width) :
    (element.cut format).val.length = element.val.length % 256 ^ width := by
  rw [cut]
  simp only [shape, List.length_take]
  exact Nat.min_eq_left (Nat.mod_le _ _)

theorem cut_wellFormed
    (sized : ∀ size, format element.type = .fixed size → element.val.length = size) :
    (element.cut format).WellFormed format := by
  rw [WellFormed, cut_type]
  cases shape : format element.type with
  | fixed size =>
      simp only [cut, shape]
      exact sized size shape
  | counted width =>
      simp only
      rw [cut_length shape]
      exact Nat.mod_lt _ (Nat.pow_pos (by decide))

end Element

end Foundation
