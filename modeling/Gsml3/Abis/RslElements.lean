import Gsml3.Abis.RslBuilder
import Gsml3.Abis.RslParser

/-!
# RSL elements

What the writers of the builder append is an information element in the format the parser
reads; an element whose length does not fit its field is cut.
-/

namespace Gsml3

namespace Abis

open Foundation (Element)
open Foundation.OutputBuffer

/-! ## Formats -/

/-- Format of the elements of a type. -/
def rslFormat (iei : UInt8) : Element.Format :=
  match rslIeEncoding iei with
  | .tv => .fixed (rslIeTvValueSize iei).toNat
  | .lv => .counted 1
  | .tl16v => .counted 2

theorem toNat_wide (high low : UInt8) :
    (high.toUInt16 <<< 8 ||| low.toUInt16).toNat = high.toNat * 256 + low.toNat := by
  have small := high.toNat_lt
  rw [UInt16.toNat_or, UInt16.toNat_shiftLeft, UInt8.toNat_toUInt16, UInt8.toNat_toUInt16]
  change high.toNat <<< 8 % 2 ^ 16 ||| low.toNat = _
  rw [Nat.shiftLeft_eq, Nat.mod_eq_of_lt (by omega), ← Nat.shiftLeft_eq,
    ← Nat.shiftLeft_add_eq_or_of_lt low.toNat_lt, Nat.shiftLeft_eq]

theorem readLength_one (octet : UInt8) (data : List UInt8) :
    Element.readLength ((octet :: data).take 1) = octet.toNat := by
  rw [List.take_succ_cons, List.take_zero, Element.readLength_cons, List.length_nil, pow_zero,
    Nat.mul_one]
  rfl

theorem readLength_two (high low : UInt8) (data : List UInt8) :
    Element.readLength ((high :: low :: data).take 2) = high.toNat * 256 + low.toNat := by
  rw [List.take_succ_cons, Element.readLength_cons, readLength_one, List.length_take,
    List.length_cons, Nat.min_eq_left (Nat.succ_le_succ (Nat.zero_le _)), pow_one]

/-- The parser decodes elements of these formats. -/
theorem parseIEs_eq (slots : Nat) (data : List UInt8) :
    parseIEs slots data = Element.decode rslFormat slots data := by
  induction slots generalizing data with
  | zero => cases data <;> rfl
  | succ slots ih =>
      cases data with
      | nil => rfl
      | cons type data =>
          cases encoding : rslIeEncoding type with
          | tv =>
              simp only [parseIEs, Element.decode, rslFormat, encoding, Element.takeValue, ih]
              split <;> rfl
          | lv =>
              simp only [parseIEs, Element.decode, rslFormat, encoding, Element.takeValue, ih]
              cases data with
              | nil => rfl
              | cons octet data =>
                  simp only [readLength_one, List.drop_one, List.tail_cons, List.length_cons,
                    Nat.not_lt.mpr (Nat.succ_le_succ (Nat.zero_le data.length)), if_false]
                  split <;> rfl
          | tl16v =>
              simp only [parseIEs, Element.decode, rslFormat, encoding, Element.takeValue, ih]
              rcases data with _ | ⟨high, _ | ⟨low, data⟩⟩
              · rfl
              · rfl
              · have long : ¬ data.length + 1 + 1 < 2 := by omega
                simp only [readLength_two, toNat_wide, List.drop_succ_cons, List.drop_zero,
                  List.length_cons, if_neg long]
                split <;> rfl

/-! ## Writers -/

variable {buf out octets more : List UInt8} {type : UInt8}

theorem filled_writeTVFixed (buf octets : List UInt8) (type : UInt8) (val : List UInt8) :
    ((filled buf octets).bind fun (buf, off) => writeTVFixed buf off type val) =
      filled buf (octets ++ type :: val) := by
  rw [← filled_write]
  congr 1
  funext ⟨buf, off⟩
  change writeTVFixed buf off type val = _
  rw [writeTVFixed, Nat.add_assoc, Nat.add_comm 1]
  rfl

theorem filled_writeLV (buf octets : List UInt8) (type : UInt8) {val : List UInt8} {len : UInt8}
    (inside : len.toNat ≤ val.length) :
    ((filled buf octets).bind fun (buf, off) => writeLV buf off type val len) =
      filled buf (octets ++ type :: len :: val.take len.toNat) := by
  rw [← filled_write]
  congr 1
  funext ⟨buf, off⟩
  have size : (type :: len :: val.take len.toNat).length = 2 + len.toNat := by
    rw [List.length_cons, List.length_cons, List.length_take, Nat.min_eq_left inside]
    omega
  change writeLV buf off type val len = _
  rw [writeLV, Nat.add_assoc, ← size]

theorem filled_writeTL16V (buf octets : List UInt8) (type : UInt8) {val : List UInt8}
    {len : UInt16} (inside : len.toNat ≤ val.length) :
    ((filled buf octets).bind fun (buf, off) => writeTL16V buf off type val len) =
      filled buf (octets ++ type :: ((len >>> 8) &&& 0xFF).toUInt8 :: (len &&& 0xFF).toUInt8 ::
        val.take len.toNat) := by
  rw [← filled_write]
  congr 1
  funext ⟨buf, off⟩
  have size : (type :: ((len >>> 8) &&& 0xFF).toUInt8 :: (len &&& 0xFF).toUInt8 ::
      val.take len.toNat).length = 3 + len.toNat := by
    rw [List.length_cons, List.length_cons, List.length_cons, List.length_take,
      Nat.min_eq_left inside]
    omega
  change writeTL16V buf off type val len = _
  rw [writeTL16V, Nat.add_assoc, ← size]

section Sequence

variable {Result : Type} (k : List UInt8 × Nat → Option Result)

theorem bind_writeTVFixed (buf octets : List UInt8) (type : UInt8) (val : List UInt8) :
    (filled buf octets >>= fun (buf, off) => writeTVFixed buf off type val >>= k) =
      filled buf (octets ++ type :: val) >>= k := by
  rw [← filled_writeTVFixed]
  exact (Option.bind_assoc _ _ _).symm

theorem bind_writeLV (buf octets : List UInt8) (type : UInt8) {val : List UInt8} {len : UInt8}
    (inside : len.toNat ≤ val.length) :
    (filled buf octets >>= fun (buf, off) => writeLV buf off type val len >>= k) =
      filled buf (octets ++ type :: len :: val.take len.toNat) >>= k := by
  rw [← filled_writeLV buf octets type inside]
  exact (Option.bind_assoc _ _ _).symm

theorem bind_writeTL16V (buf octets : List UInt8) (type : UInt8) {val : List UInt8}
    {len : UInt16} (inside : len.toNat ≤ val.length) :
    (filled buf octets >>= fun (buf, off) => writeTL16V buf off type val len >>= k) =
      filled buf (octets ++ type :: ((len >>> 8) &&& 0xFF).toUInt8 :: (len &&& 0xFF).toUInt8 ::
        val.take len.toNat) >>= k := by
  rw [← filled_writeTL16V buf octets type inside]
  exact (Option.bind_assoc _ _ _).symm

end Sequence

/-! ### Their elements -/

theorem encode_fixed {val : List UInt8} (encoding : rslIeEncoding type = .tv) :
    (Element.cut rslFormat ⟨type, val⟩).encode rslFormat = type :: val := by
  simp only [Element.encode, Element.cut, rslFormat, encoding]

theorem encode_counted {val : List UInt8} (encoding : rslIeEncoding type = .lv) :
    (Element.cut rslFormat ⟨type, val⟩).encode rslFormat =
      type :: UInt8.ofNat val.length :: val.take (UInt8.ofNat val.length).toNat := by
  have shape : rslFormat type = .counted 1 := by rw [rslFormat, encoding]
  have reduced : (val.take (val.length % 256 ^ 1)).length = val.length % 256 := by
    rw [List.length_take]
    exact Nat.min_eq_left (Nat.mod_le _ _)
  have count : UInt8.ofNat (val.length % 256 / 256 ^ 0) = UInt8.ofNat val.length := by
    apply UInt8.toNat_inj.mp
    rw [UInt8.toNat_ofNat', UInt8.toNat_ofNat', pow_zero, Nat.div_one]
    exact Nat.mod_mod _ _
  simp only [Element.encode, Element.cut, shape, Element.lengthField, reduced, count]
  rfl

theorem octet_and (n : Nat) : n % 256 &&& 255 = n % 256 :=
  (Nat.and_two_pow_sub_one_eq_mod _ 8).trans (Nat.mod_mod n 256)

theorem encode_wide {val : List UInt8} (encoding : rslIeEncoding type = .tl16v) :
    (Element.cut rslFormat ⟨type, val⟩).encode rslFormat =
      type :: ((UInt16.ofNat val.length >>> 8) &&& 0xFF).toUInt8 ::
        (UInt16.ofNat val.length &&& 0xFF).toUInt8 ::
        val.take (UInt16.ofNat val.length).toNat := by
  have shape : rslFormat type = .counted 2 := by rw [rslFormat, encoding]
  have reduced : (val.take (val.length % 256 ^ 2)).length = val.length % 65536 := by
    rw [List.length_take]
    exact Nat.min_eq_left (Nat.mod_le _ _)
  have high : UInt8.ofNat (val.length % 65536 / 256 ^ 1) =
      ((UInt16.ofNat val.length >>> 8) &&& 0xFF).toUInt8 := by
    apply UInt8.toNat_inj.mp
    simpa [UInt16.toNat_shiftRight, Nat.shiftRight_eq_div_pow] using (octet_and _).symm
  have low : UInt8.ofNat (val.length % 65536 / 256 ^ 0) =
      (UInt16.ofNat val.length &&& 0xFF).toUInt8 := by
    apply UInt8.toNat_inj.mp
    simpa using (octet_and _).symm
  simp only [Element.encode, Element.cut, shape, Element.lengthField, reduced, high, low]
  rfl

theorem wellFormed_fixed {val : List UInt8} (encoding : rslIeEncoding type = .tv)
    (size : val.length = (rslIeTvValueSize type).toNat) :
    (⟨type, val⟩ : Element).WellFormed rslFormat := by
  simp only [Element.WellFormed, rslFormat, encoding]
  exact size

theorem wellFormed_counted {val : List UInt8} (encoding : rslIeEncoding type = .lv)
    (fits : val.length < 2 ^ 8) : (⟨type, val⟩ : Element).WellFormed rslFormat := by
  simp only [Element.WellFormed, rslFormat, encoding]
  exact fits

theorem wellFormed_octet (val : UInt8) (encoding : rslIeEncoding type = .tv)
    (size : rslIeTvValueSize type = 1) : (⟨type, [val]⟩ : Element).WellFormed rslFormat :=
  wellFormed_fixed encoding (by rw [size]; rfl)

end Abis

end Gsml3
