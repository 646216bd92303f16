import Gsml3.Core.FieldCodec
import Gsml3.Core.OctetBits

/-!
# Cell channel description

The variable-length form of the BCCH frequency list: a base ARFCN of ten bits and a bitmap of
the 111 channels above it.  The base field ends in the first bit of the third octet, which
`encode` does not write.
-/

namespace Gsml3

open BitWriter (Op fields)
open FieldParser (Takes readBytes)
open OctetBits (bitAt raiseBit)

/-- The octets of the element and the frequencies they stand for. -/
structure L3CellChannelDescription where
  raw : Vector UInt8 16
  base : UInt16
  arfcns : List UInt16
deriving DecidableEq

namespace L3CellChannelDescription

/-- Sixteen octets as an array. -/
def rawOctets (octets : List UInt8) : Vector UInt8 16 :=
  Vector.ofFn fun i : Fin 16 => octets.getD i 0

/-- The ten bits of the base frequency. -/
def decodeBase (raw : List UInt8) : UInt16 :=
  UInt16.ofNat (((raw.getD 0 0).toNat &&& 0x01) <<< 9 ||| (raw.getD 1 0).toNat <<< 1 |||
    ((raw.getD 2 0).toNat >>> 7 &&& 0x01))

/-- The base and the frequencies whose bits are set; a base 0 is not listed. -/
def decode (raw : List UInt8) : UInt16 × List UInt16 :=
  let base := decodeBase raw
  let bitmap := (List.range 111).filter fun i => bitAt raw (17 + i)
  (base, (if base ≠ 0 then [base] else []) ++ bitmap.map fun i => base + 1 + UInt16.ofNat i)

/-- The octets in front of the bitmap: the header `1000111`, and the base down to bit 1. -/
def blank (base : UInt16) : List UInt8 :=
  UInt8.ofNat (0x47 <<< 1 ||| base.toNat >>> 9) :: UInt8.ofNat (base.toNat >>> 1 &&& 0xFF) ::
    List.replicate 14 0

/-- The bit of a channel in the bitmap. -/
def bitmapPos (base arfcn : UInt16) : Option Nat :=
  if arfcn ≤ base then none
  else
    let i := arfcn.toNat - base.toNat - 1
    if 111 ≤ i then none else some (17 + i)

/-- The octets of a sorted list, with its first frequency as base. -/
def encode (sorted : List UInt16) : List UInt8 :=
  let base := sorted.headD 0
  (sorted.filterMap (bitmapPos base)).foldl raiseBit (blank base)

/-- `std::sort` and `std::unique`. -/
def sorted (arfcns : List UInt16) : List UInt16 :=
  arfcns.mergeSort.dedup

/-- The constructor from a list of ARFCNs. -/
def ofArfcns (arfcns : List UInt16) : L3CellChannelDescription where
  raw := rawOctets (encode (sorted arfcns))
  base := (sorted arfcns).headD 0
  arfcns := sorted arfcns

/-- Sixteen octets. -/
def lengthV : Nat := 16

/-- The octets, kept and decoded. -/
def parse : FieldParser L3CellChannelDescription := do
  let octets ← readBytes 16
  let (base, arfcns) := decode octets
  pure { raw := rawOctets octets, base := base, arfcns := arfcns }

/-- The octets as they are kept. -/
def write (description : L3CellChannelDescription) : List Op :=
  [.writeBytes description.raw.toList]

/-! ## Octets -/

theorem rawOctets_toList {octets : List UInt8} (size : octets.length = 16) :
    (rawOctets octets).toList = octets := by
  unfold rawOctets
  rw [Vector.toList_ofFn]
  refine List.ext_getElem (by rw [List.length_ofFn, size]) fun i _ inside => ?_
  rw [List.getElem_ofFn]
  exact List.getD_eq_getElem _ _ inside

theorem decodeBase_toNat (raw : List UInt8) :
    (decodeBase raw).toNat =
      512 * (bitAt raw 7).toNat + 2 * (raw.getD 1 0).toNat + (bitAt raw 16).toNat := by
  have first : (raw.getD 0 0).toNat &&& 0x01 = (bitAt raw 7).toNat := by
    rw [Nat.and_one_is_mod, bitAt, Nat.toNat_testBit, pow_zero, Nat.div_one]
  have last : (raw.getD 2 0).toNat >>> 7 &&& 0x01 = (bitAt raw 16).toNat := by
    rw [Nat.and_one_is_mod, Nat.shiftRight_eq_div_pow, bitAt, Nat.toNat_testBit]
  have middle := (raw.getD 1 0).toNat_lt
  have high := (bitAt raw 7).toNat_le
  have low := (bitAt raw 16).toNat_le
  have joined : (bitAt raw 7).toNat <<< 9 ||| (raw.getD 1 0).toNat <<< 1 =
      ((bitAt raw 7).toNat <<< 8 + (raw.getD 1 0).toNat) <<< 1 := by
    rw [← Nat.shiftLeft_add_eq_or_of_lt (by rw [Nat.shiftLeft_eq]; omega)]
    simp only [Nat.shiftLeft_eq]
    omega
  unfold decodeBase
  rw [first, last, joined, ← Nat.shiftLeft_add_eq_or_of_lt (by omega), UInt16.toNat_ofNat_of_lt']
  · simp only [Nat.shiftLeft_eq]
    omega
  · simp only [Nat.shiftLeft_eq]
    change _ < 65536
    omega

/-! ## Encoding -/

theorem bitmapPos_eq_some {base arfcn : UInt16} {pos : Nat} :
    bitmapPos base arfcn = some pos ↔
      base.toNat < arfcn.toNat ∧ arfcn.toNat ≤ base.toNat + 111 ∧
        pos = 17 + (arfcn.toNat - base.toNat - 1) := by
  have order := UInt16.le_iff_toNat_le (a := arfcn) (b := base)
  unfold bitmapPos
  by_cases low : arfcn ≤ base
  · have below := order.mp low
    rw [if_pos low]
    simp only [reduceCtorEq, false_iff]
    omega
  · have above := mt order.mpr low
    rw [if_neg low]
    by_cases far : 111 ≤ arfcn.toNat - base.toNat - 1
    · simp only [if_pos far, reduceCtorEq, false_iff]
      omega
    · simp only [if_neg far, Option.some.injEq]
      omega

section Encoding

variable (sorted : List UInt16)

theorem bitmap_inside (base : UInt16) :
    ∀ pos ∈ sorted.filterMap (bitmapPos base), 17 ≤ pos ∧ pos < 8 * (blank base).length := by
  intro pos member
  obtain ⟨arfcn, _, marked⟩ := List.mem_filterMap.mp member
  obtain ⟨above, near, rfl⟩ := bitmapPos_eq_some.mp marked
  change 17 ≤ 17 + _ ∧ 17 + _ < 128
  omega

theorem encode_length : (encode sorted).length = 16 := by
  unfold encode
  generalize sorted.headD 0 = base
  suffices ∀ positions octets, (List.foldl raiseBit octets positions).length = octets.length from
    this _ (blank base)
  intro positions octets
  induction positions generalizing octets with
  | nil => rfl
  | cons pos positions ih =>
      rw [List.foldl_cons, ih, OctetBits.raiseBit_length]

theorem bitAt_encode (pos : Nat) :
    bitAt (encode sorted) pos =
      (bitAt (blank (sorted.headD 0)) pos ||
        decide (pos ∈ sorted.filterMap (bitmapPos (sorted.headD 0)))) :=
  OctetBits.bitAt_foldl _ (fun pos member => (bitmap_inside sorted _ pos member).2) pos

/-- A bit in front of the bitmap. -/
theorem bitAt_encode_head {pos : Nat} (head : pos < 17) :
    bitAt (encode sorted) pos = bitAt (blank (sorted.headD 0)) pos := by
  rw [bitAt_encode, decide_eq_false, Bool.or_false]
  intro member
  exact absurd (bitmap_inside sorted _ pos member).1 (by omega)

/-- A bit of the bitmap. -/
theorem bitAt_encode_bitmap {i : Nat} (inside : i < 111) :
    bitAt (encode sorted) (17 + i) = true ↔
      ∃ arfcn ∈ sorted, arfcn.toNat = (sorted.headD 0).toNat + 1 + i := by
  have empty : bitAt (blank (sorted.headD 0)) (17 + i) = false := by
    have place : (17 + i) / 8 = (17 + i) / 8 - 2 + 1 + 1 := by omega
    unfold bitAt blank
    rw [place, List.getD_cons_succ, List.getD_cons_succ, List.getD_eq_getElem?_getD,
      List.getElem?_replicate]
    split <;> exact Nat.zero_testBit _
  rw [bitAt_encode, empty, Bool.false_or, decide_eq_true_iff, List.mem_filterMap]
  constructor
  · rintro ⟨arfcn, member, marked⟩
    obtain ⟨above, near, place⟩ := bitmapPos_eq_some.mp marked
    exact ⟨arfcn, member, by omega⟩
  · rintro ⟨arfcn, member, place⟩
    exact ⟨arfcn, member, bitmapPos_eq_some.mpr ⟨by omega, by omega, by omega⟩⟩

/-- The lowest bit of the base is lost. -/
theorem decodeBase_encode (inRange : (sorted.headD 0).toNat < 1024) :
    (decodeBase (encode sorted)).toNat = 2 * ((sorted.headD 0).toNat / 2) := by
  have second : (encode sorted).getD 1 0 = (blank (sorted.headD 0)).getD 1 0 :=
    OctetBits.getD_eq_of_bitAt fun i inside => bitAt_encode_head sorted (by omega)
  rw [decodeBase_toNat, bitAt_encode_head sorted (by omega), bitAt_encode_head sorted (by omega),
    second]
  generalize sorted.headD 0 = base at inRange
  have top : bitAt (blank base) 7 = (base.toNat / 512).testBit 0 := by
    change (UInt8.ofNat (0x47 <<< 1 ||| base.toNat >>> 9)).toNat.testBit 0 = _
    rw [UInt8.toNat_ofNat', Nat.testBit_mod_two_pow, Nat.testBit_or, Nat.shiftRight_eq_div_pow]
    rfl
  have middle : ((blank base).getD 1 0).toNat = base.toNat / 2 % 256 := by
    change (UInt8.ofNat (base.toNat >>> 1 &&& (2 ^ 8 - 1))).toNat = _
    rw [Nat.and_two_pow_sub_one_eq_mod, UInt8.toNat_ofNat', Nat.mod_mod, Nat.shiftRight_eq_div_pow]
  have bottom : bitAt (blank base) 16 = false := Nat.zero_testBit 7
  rw [top, middle, bottom, Nat.toNat_testBit, Bool.toNat_false]
  omega

end Encoding

/-! ## Building, writing and parsing -/

/-- The lowest member is even and not zero, and all members are in the bitmap's range. -/
def Restorable (arfcns : List UInt16) : Prop :=
  ∀ lowest ∈ arfcns, (∀ arfcn ∈ arfcns, lowest ≤ arfcn) →
    lowest.toNat % 2 = 0 ∧ lowest.toNat ≠ 0 ∧ ∀ arfcn ∈ arfcns, arfcn.toNat ≤ lowest.toNat + 111

/-- The parsed description of a list. -/
def reparsed (arfcns : List UInt16) : L3CellChannelDescription :=
  let octets := encode (sorted arfcns)
  { raw := rawOctets octets, base := (decode octets).1, arfcns := (decode octets).2 }

theorem parse_write (arfcns : List UInt16) (pos : Nat) :
    Takes parse (fields pos (ofArfcns arfcns).write) (some (reparsed arfcns)) := by
  have size := encode_length (sorted arfcns)
  have octets : fields pos (ofArfcns arfcns).write =
      Foundation.bitString (encode (sorted arfcns)) := by
    unfold write ofArfcns
    simp only [rawOctets_toList size]
    exact List.append_nil _
  have takes := FieldParser.takes_readBytes (encode (sorted arfcns))
  rw [size] at takes
  rw [octets]
  exact takes.yield _

theorem mem_decode {raw : List UInt8} {arfcn : UInt16} (small : (decodeBase raw).toNat < 1024) :
    arfcn ∈ (decode raw).2 ↔
      (decodeBase raw).toNat ≠ 0 ∧ arfcn = decodeBase raw ∨
        ∃ i < 111, bitAt raw (17 + i) = true ∧ arfcn.toNat = (decodeBase raw).toNat + 1 + i := by
  have zero : decodeBase raw ≠ 0 ↔ (decodeBase raw).toNat ≠ 0 := by
    rw [Ne, Ne, ← UInt16.toNat_inj]
    rfl
  have above {i : Nat} (inside : i < 111) :
      (decodeBase raw + 1 + UInt16.ofNat i).toNat = (decodeBase raw).toNat + 1 + i := by
    rw [UInt16.toNat_add, UInt16.toNat_add, UInt16.toNat_ofNat', UInt16.toNat_one]
    omega
  unfold decode
  simp only [List.mem_append, List.mem_map, List.mem_filter, List.mem_range]
  refine or_congr ?_ ⟨?_, ?_⟩
  · rw [← zero]
    split
    case isTrue nonzero => simp [nonzero]
    case isFalse iszero => simp [iszero]
  · rintro ⟨i, ⟨inside, marked⟩, rfl⟩
    exact ⟨i, inside, marked, above inside⟩
  · rintro ⟨i, inside, marked, place⟩
    exact ⟨i, ⟨inside, marked⟩, UInt16.toNat_inj.mp ((above inside).trans place.symm)⟩

section Members

variable (arfcns : List UInt16)

theorem mem_sorted {arfcn : UInt16} : arfcn ∈ sorted arfcns ↔ arfcn ∈ arfcns := by
  unfold sorted
  rw [List.mem_dedup]
  exact (List.mergeSort_perm ..).mem_iff

/-- The base of a list that is not empty is its lowest member. -/
theorem base_least (nonempty : arfcns ≠ []) :
    (sorted arfcns).headD 0 ∈ arfcns ∧
      ∀ arfcn ∈ arfcns, (sorted arfcns).headD 0 ≤ arfcn := by
  have ordered : (sorted arfcns).Pairwise (· ≤ ·) := by
    have ordered : arfcns.mergeSort.Pairwise (· ≤ ·) :=
      (List.pairwise_mergeSort (fun a b c => by simpa using UInt16.le_trans)
        (fun a b => by simpa using UInt16.le_total a b) arfcns).imp of_decide_eq_true
    exact ordered.sublist (List.dedup_sublist _)
  have members := @mem_sorted arfcns
  cases list : sorted arfcns with
  | nil =>
      rw [list] at members
      exact absurd (List.eq_nil_iff_forall_not_mem.mpr fun arfcn member =>
        List.not_mem_nil (members.mpr member)) nonempty
  | cons lowest others =>
      rw [list] at members ordered
      refine ⟨members.mp List.mem_cons_self, fun arfcn member => ?_⟩
      rcases List.mem_cons.mp (members.mpr member) with rfl | member
      · exact UInt16.le_refl _
      · exact (List.pairwise_cons.mp ordered).1 arfcn member

end Members

section RoundTrip

variable {arfcns : List UInt16}

/-- The lowest bit of the base is gone, and the channels of the bitmap are counted from there. -/
theorem mem_reparsed (inRange : ∀ arfcn ∈ arfcns, arfcn < 1024) (arfcn : UInt16) :
    arfcn ∈ (reparsed arfcns).arfcns ↔
      let base := ((sorted arfcns).headD 0).toNat
      2 * (base / 2) ≠ 0 ∧ arfcn.toNat = 2 * (base / 2) ∨
        ∃ i < 111, (∃ member ∈ arfcns, member.toNat = base + 1 + i) ∧
          arfcn.toNat = 2 * (base / 2) + 1 + i := by
  have small : ((sorted arfcns).headD 0).toNat < 1024 := by
    by_cases empty : arfcns = []
    · subst empty
      simp [sorted]
    · exact UInt16.lt_iff_toNat_lt.mp (inRange _ (base_least arfcns empty).1)
  have base := decodeBase_encode (sorted arfcns) small
  unfold reparsed
  rw [mem_decode (by rw [base]; omega), ← UInt16.toNat_inj, base]
  refine or_congr Iff.rfl (exists_congr fun i => and_congr_right fun inside => ?_)
  rw [bitAt_encode_bitmap (sorted arfcns) inside]
  simp only [mem_sorted]

/-- A list whose base is not written in full loses its lowest member. -/
theorem restorable_of_restored (inRange : ∀ arfcn ∈ arfcns, arfcn < 1024)
    (restored : ∀ arfcn, arfcn ∈ (reparsed arfcns).arfcns ↔ arfcn ∈ arfcns) :
    Restorable arfcns := by
  intro lowest member least
  have nonempty : arfcns ≠ [] := List.ne_nil_of_mem member
  obtain ⟨first, below⟩ := base_least arfcns nonempty
  have same : (sorted arfcns).headD 0 = lowest :=
    UInt16.le_antisymm (below lowest member) (least _ first)
  have parsed (arfcn : UInt16) := (restored arfcn).symm.trans (mem_reparsed inRange arfcn)
  simp only [same] at parsed
  have reached := (parsed lowest).mp member
  have low (arfcn : UInt16) (member : arfcn ∈ arfcns) : lowest.toNat ≤ arfcn.toNat :=
    UInt16.le_iff_toNat_le.mp (least arfcn member)
  have bound (arfcn : UInt16) (member : arfcn ∈ arfcns) : arfcn.toNat < 1024 :=
    UInt16.lt_iff_toNat_lt.mp (inRange arfcn member)
  rcases reached with ⟨nonzero, even⟩ | ⟨i, inside, _, odd⟩
  · refine ⟨by omega, by omega, fun arfcn member => ?_⟩
    rcases (parsed arfcn).mp member with ⟨_, same⟩ | ⟨i, inside, _, place⟩
    · omega
    · omega
  · -- The base below the lowest member would be a member itself, unless it is zero.
    have small := bound lowest member
    have one : lowest.toNat = 1 := by
      by_contra larger
      have length : (UInt16.ofNat (lowest.toNat - 1)).toNat = lowest.toNat - 1 :=
        UInt16.toNat_ofNat_of_lt' (by change _ < 65536; omega)
      have lower := (parsed (UInt16.ofNat (lowest.toNat - 1))).mpr (.inl ⟨by omega, by omega⟩)
      have := low _ lower
      omega
    -- With base zero a member is there for the channel above it, and so without end.
    have climbs (n : Nat) : ∃ arfcn ∈ arfcns, arfcn.toNat = 1 + n := by
      induction n with
      | zero => exact ⟨lowest, member, one⟩
      | succ n ih =>
          obtain ⟨arfcn, member, place⟩ := ih
          rcases (parsed arfcn).mp member with ⟨nonzero, _⟩ | ⟨i, _, ⟨next, above, at_next⟩, at_i⟩
          · omega
          · exact ⟨next, above, by omega⟩
    obtain ⟨arfcn, member, place⟩ := climbs 1023
    have := bound arfcn member
    omega

theorem restored_of_restorable (inRange : ∀ arfcn ∈ arfcns, arfcn < 1024)
    (restorable : Restorable arfcns) (arfcn : UInt16) :
    arfcn ∈ (reparsed arfcns).arfcns ↔ arfcn ∈ arfcns := by
  rw [mem_reparsed inRange]
  by_cases empty : arfcns = []
  · subst empty
    have none : sorted [] = [] := by simp [sorted]
    simp [none]
  · obtain ⟨first, below⟩ := base_least arfcns empty
    obtain ⟨even, nonzero, near⟩ := restorable _ first below
    have low (arfcn : UInt16) (member : arfcn ∈ arfcns) :=
      UInt16.le_iff_toNat_le.mp (below arfcn member)
    generalize (sorted arfcns).headD 0 = base at first even nonzero near low
    have whole : 2 * (base.toNat / 2) = base.toNat := by omega
    simp only [whole]
    constructor
    · rintro (⟨_, same⟩ | ⟨i, _, ⟨member, present, at_member⟩, at_i⟩)
      · rw [UInt16.toNat_inj.mp same]
        exact first
      · rw [UInt16.toNat_inj.mp (at_i.trans at_member.symm)]
        exact present
    · intro member
      have above := low arfcn member
      have near := near arfcn member
      rcases above.eq_or_lt with same | above
      · exact .inl ⟨nonzero, same.symm⟩
      · exact .inr ⟨arfcn.toNat - base.toNat - 1, by omega, ⟨arfcn, member, by omega⟩, by omega⟩

/-- A list of ARFCNs comes back from its sixteen octets if and only if its lowest member is even
and not zero. -/
theorem restored_iff (inRange : ∀ arfcn ∈ arfcns, arfcn < 1024) :
    (∃ description,
      (∀ pos, Takes parse (fields pos (ofArfcns arfcns).write) (some description)) ∧
        ∀ arfcn, arfcn ∈ description.arfcns ↔ arfcn ∈ arfcns) ↔ Restorable arfcns := by
  constructor
  · rintro ⟨description, takes, restored⟩
    have same := (takes 0).unique (parse_write arfcns 0)
    injection same with same
    rw [same] at restored
    exact restorable_of_restored inRange restored
  · intro restorable
    exact ⟨reparsed arfcns, parse_write arfcns, restored_of_restorable inRange restorable⟩

theorem restored_iff_carrier :
    (∃ description,
      (∀ pos, Takes parse (fields pos (ofArfcns [874, 875]).write) (some description)) ∧
        ∀ arfcn, arfcn ∈ description.arfcns ↔ arfcn ∈ [874, 875]) ↔ Restorable [874, 875] :=
  restored_iff (by simp)

/-- The channel 871 comes back as 870. -/
theorem odd_channel_lost :
    ¬ ∃ description,
      (∀ pos, Takes parse (fields pos (ofArfcns [871]).write) (some description)) ∧
        ∀ arfcn, arfcn ∈ description.arfcns ↔ arfcn ∈ [871] := by
  rintro ⟨description, takes, restored⟩
  have same := (takes 0).unique (parse_write [871] 0)
  injection same with same
  rw [same] at restored
  have restorable := restorable_of_restored (by simp) restored
  exact absurd (restorable 871 (List.mem_singleton_self _) (by simp)).1 (by decide)

end RoundTrip

end L3CellChannelDescription

end Gsml3
