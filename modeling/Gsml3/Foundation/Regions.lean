import Mathlib

/-!
# Regions carved out of spaces

Regions of an address space are handed out from the front of spaces that lie apart, the next one
behind all that was handed out of its space.  Such regions lie apart, each inside a space, so
together they are no larger than the addresses they lie between.  A region starts at an aligned
address if the address behind the last one is rounded up, which a mask does for powers of two.
-/

namespace Foundation

/-! ## Rounding up -/

/-- The least multiple of the alignment that is not below a number. -/
def roundUp (alignment n : Nat) : Nat :=
  (n + (alignment - 1)) / alignment * alignment

section RoundUp

variable {alignment : Nat}

theorem dvd_roundUp (n : Nat) : alignment ∣ roundUp alignment n :=
  Nat.dvd_mul_left _ _

theorem le_roundUp (positive : 0 < alignment) (n : Nat) : n ≤ roundUp alignment n := by
  have split := Nat.div_add_mod (n + (alignment - 1)) alignment
  have rest := Nat.mod_lt (n + (alignment - 1)) positive
  rw [roundUp, Nat.mul_comm]
  omega

theorem roundUp_lt (positive : 0 < alignment) (n : Nat) :
    roundUp alignment n < n + alignment := by
  have below := Nat.div_mul_le_self (n + (alignment - 1)) alignment
  rw [roundUp]
  omega

end RoundUp

/-! ## Masks -/

/-- The bits outside a mask, beside those inside it, make up the number. -/
theorem toNat_and_not (n mask : UInt64) :
    (n &&& ~~~mask).toNat + (n &&& mask).toNat = n.toNat := by
  have apart : (n.toBitVec &&& ~~~mask.toBitVec) &&& (n.toBitVec &&& mask.toBitVec) = 0 := by
    ext i
    simp only [BitVec.getElem_and, BitVec.getElem_not]
    cases n.toBitVec[i] <;> cases mask.toBitVec[i] <;> simp
  have whole : (n.toBitVec &&& ~~~mask.toBitVec) ||| (n.toBitVec &&& mask.toBitVec) =
      n.toBitVec := by
    ext i
    simp only [BitVec.getElem_or, BitVec.getElem_and, BitVec.getElem_not]
    cases n.toBitVec[i] <;> cases mask.toBitVec[i] <;> simp
  have sum := BitVec.toNat_add_of_and_eq_zero apart
  rw [BitVec.add_eq_or_of_and_eq_zero _ _ apart, whole] at sum
  exact sum.symm

/-- Round up with a mask, in 64 bits. -/
def alignUp (n alignment : UInt64) : UInt64 :=
  (n + alignment - 1) &&& ~~~(alignment - 1)

/-- The mask rounds up to a multiple of a power of two, if that is a number of 64 bits. -/
theorem toNat_alignUp {n alignment : UInt64} (power : alignment.toNat.isPowerOfTwo)
    (fits : roundUp alignment.toNat n.toNat < 2 ^ 64) :
    (alignUp n alignment).toNat = roundUp alignment.toNat n.toNat := by
  obtain ⟨k, exponent⟩ := power
  have positive : 0 < alignment.toNat := exponent ▸ Nat.two_pow_pos k
  have small : alignment.toNat < 2 ^ 64 := alignment.toNat_lt
  have divides : alignment.toNat ∣ 2 ^ 64 := by
    rw [exponent] at small ⊢
    exact Nat.pow_dvd_pow 2 (Nat.le_of_lt ((Nat.pow_lt_pow_iff_right (by simp)).mp small))
  -- the sum does not wrap either
  have room : n.toNat + (alignment.toNat - 1) < 2 ^ 64 := by
    obtain ⟨factor, rounded⟩ : alignment.toNat ∣ roundUp alignment.toNat n.toNat :=
      dvd_roundUp n.toNat
    obtain ⟨top, whole⟩ := divides
    have next : factor + 1 ≤ top := by
      rw [rounded, whole] at fits
      exact Nat.lt_of_mul_lt_mul_left fits
    have last := Nat.mul_le_mul_left alignment.toNat next
    have above := le_roundUp positive n.toNat
    rw [rounded] at above
    rw [← whole, Nat.mul_add, Nat.mul_one] at last
    omega
  have sum : (n + alignment - 1).toNat = n.toNat + (alignment.toNat - 1) := by
    rw [UInt64.toNat_sub, UInt64.toNat_add, UInt64.toNat_one]
    omega
  have mask : (alignment - 1).toNat = 2 ^ k - 1 := by
    rw [UInt64.toNat_sub, UInt64.toNat_one, ← exponent]
    omega
  have split := toNat_and_not (n + alignment - 1) (alignment - 1)
  rw [UInt64.toNat_and (n + alignment - 1) (alignment - 1), mask, Nat.and_two_pow_sub_one_eq_mod,
    sum, ← exponent] at split
  have parts := Nat.div_add_mod (n.toNat + (alignment.toNat - 1)) alignment.toNat
  rw [alignUp, roundUp, Nat.mul_comm]
  omega

/-! ## Regions -/

/-- So many addresses from the first one on. -/
structure Region where
  start : Nat
  size : Nat
deriving DecidableEq

namespace Region

/-- The address behind a region. -/
def stop (region : Region) : Nat :=
  region.start + region.size

/-- No address is in both regions. -/
def Apart (region other : Region) : Prop :=
  region.stop ≤ other.start ∨ other.stop ≤ region.start

/-- A region lies between the ends of another. -/
def Within (region outer : Region) : Prop :=
  outer.start ≤ region.start ∧ region.stop ≤ outer.stop

instance (region other : Region) : Decidable (region.Apart other) :=
  inferInstanceAs (Decidable (_ ∨ _))

instance (region outer : Region) : Decidable (region.Within outer) :=
  inferInstanceAs (Decidable (_ ∧ _))

theorem Apart.symm {region other : Region} (apart : region.Apart other) : other.Apart region :=
  Or.symm apart

theorem Within.trans {region middle outer : Region} (first : region.Within middle)
    (second : middle.Within outer) : region.Within outer :=
  ⟨second.1.trans first.1, first.2.trans second.2⟩

theorem Apart.mono {region other inner : Region} (apart : region.Apart other)
    (within : inner.Within region) : inner.Apart other := by
  rcases apart with before | behind
  · exact .inl (within.2.trans before)
  · exact .inr (behind.trans within.1)

/-- Regions that lie apart are together no larger than the addresses they lie between. -/
theorem sum_size_le {low high : Nat} {regions : List Region}
    (apart : regions.Pairwise Apart)
    (between : ∀ region ∈ regions, low ≤ region.start ∧ region.stop ≤ high) :
    (regions.map size).sum ≤ high - low := by
  have covered : ∃ addresses : Finset Nat, addresses.card = (regions.map size).sum ∧
      (∀ a ∈ addresses, ∃ region ∈ regions, region.start ≤ a ∧ a < region.stop) := by
    induction regions with
    | nil => exact ⟨∅, rfl, by simp⟩
    | cons region regions ih =>
        obtain ⟨first, others⟩ := List.pairwise_cons.mp apart
        obtain ⟨addresses, count, inside⟩ :=
          ih others fun other member => between other (List.mem_cons_of_mem _ member)
        have disjoint : Disjoint (Finset.Ico region.start region.stop) addresses := by
          apply Finset.disjoint_left.mpr
          intro a here there
          obtain ⟨other, member, from_, below⟩ := inside a there
          have own := Finset.mem_Ico.mp here
          rcases first other member with before | behind <;> omega
        refine ⟨Finset.Ico region.start region.stop ∪ addresses, ?_, ?_⟩
        · rw [Finset.card_union_of_disjoint disjoint, count, Nat.card_Ico, List.map_cons,
            List.sum_cons, stop, Nat.add_sub_cancel_left]
        · intro a member
          rcases Finset.mem_union.mp member with here | there
          · exact ⟨region, List.mem_cons_self .., Finset.mem_Ico.mp here⟩
          · obtain ⟨other, later, ends⟩ := inside a there
            exact ⟨other, List.mem_cons_of_mem _ later, ends⟩
  obtain ⟨addresses, count, inside⟩ := covered
  rw [← count, ← Nat.card_Ico]
  apply Finset.card_le_card
  intro a member
  obtain ⟨region, of, from_, below⟩ := inside a member
  have ends := between region of
  rw [Finset.mem_Ico]
  omega

end Region

/-! ## Spaces -/

/-- A space, filled from its start up to `filled`. -/
structure Space where
  region : Region
  filled : Nat

/-- The filled part of a space. -/
def Space.taken (space : Space) : Region :=
  ⟨space.region.start, space.filled⟩

/-- Regions that lie apart in the filled parts of spaces that lie apart. -/
structure Carved (spaces : List Space) (regions : List Region) : Prop where
  filled : ∀ space ∈ spaces, space.filled ≤ space.region.size
  distinct : (spaces.map Space.region).Pairwise Region.Apart
  inside : ∀ region ∈ regions, ∃ space ∈ spaces, region.Within space.taken
  apart : regions.Pairwise Region.Apart

namespace Carved

variable {spaces : List Space} {regions : List Region}

theorem none : Carved [] [] :=
  ⟨by simp, by simp, by simp, by simp⟩

theorem taken_within {space : Space} (filled : space.filled ≤ space.region.size) :
    space.taken.Within space.region :=
  ⟨Nat.le_refl _, Nat.add_le_add_left filled _⟩

/-- Every region is inside a space. -/
theorem within (carved : Carved spaces regions) {region : Region} (member : region ∈ regions) :
    ∃ space ∈ spaces, region.Within space.region := by
  obtain ⟨space, of, inside⟩ := carved.inside region member
  exact ⟨space, of, inside.trans (taken_within (carved.filled space of))⟩

/-- A space is added. -/
theorem addSpace (carved : Carved spaces regions) {space : Space}
    (filled : space.filled ≤ space.region.size)
    (fresh : ∀ other ∈ spaces, other.region.Apart space.region) :
    Carved (spaces ++ [space]) regions := by
  refine ⟨?_, ?_, ?_, carved.apart⟩
  · intro other member
    rcases List.mem_append.mp member with old | new
    · exact carved.filled other old
    · rw [List.mem_singleton.mp new]
      exact filled
  · rw [List.map_append, List.map_singleton]
    refine List.pairwise_append.mpr ⟨carved.distinct, by simp, ?_⟩
    intro region old new last
    obtain ⟨other, member, rfl⟩ := List.mem_map.mp old
    rw [List.mem_singleton.mp last]
    exact fresh other member
  · intro region member
    obtain ⟨other, of, inside⟩ := carved.inside region member
    exact ⟨other, List.mem_append_left _ of, inside⟩

/-- A region is handed out from the last space, behind what is filled. -/
theorem carve {front : List Space} {space : Space} (carved : Carved (front ++ [space]) regions)
    {region : Region} {filled : Nat} (behind : space.taken.stop ≤ region.start)
    (upTo : region.stop ≤ space.region.start + filled) (room : filled ≤ space.region.size) :
    Carved (front ++ [{ space with filled := filled }]) (regions ++ [region]) := by
  have more : space.filled ≤ filled := by
    have sized : region.start ≤ region.stop := Nat.le_add_right _ _
    have order := (behind.trans sized).trans upTo
    exact Nat.le_of_add_le_add_left order
  have own : region.Within { space with filled := filled }.taken :=
    ⟨(Nat.le_add_right _ _).trans behind, upTo⟩
  have last : space ∈ front ++ [space] := by simp
  refine ⟨?_, ?_, ?_, ?_⟩
  · intro other member
    rcases List.mem_append.mp member with old | new
    · exact carved.filled other (List.mem_append_left _ old)
    · rw [List.mem_singleton.mp new]
      exact room
  · have same := carved.distinct
    rw [List.map_append, List.map_singleton] at same ⊢
    exact same
  · intro other member
    rcases List.mem_append.mp member with old | new
    · obtain ⟨holder, of, inside⟩ := carved.inside other old
      rcases List.mem_append.mp of with before | here
      · exact ⟨holder, List.mem_append_left _ before, inside⟩
      · rw [List.mem_singleton.mp here] at inside
        refine ⟨{ space with filled := filled }, by simp, inside.trans ?_⟩
        exact ⟨Nat.le_refl _, Nat.add_le_add_left more _⟩
    · rw [List.mem_singleton.mp new]
      exact ⟨{ space with filled := filled }, by simp, own⟩
  · refine List.pairwise_append.mpr ⟨carved.apart, by simp, ?_⟩
    intro other old new member
    rw [List.mem_singleton.mp member]
    obtain ⟨holder, of, inside⟩ := carved.inside other old
    rcases List.mem_append.mp of with before | here
    · -- the last space lies apart from the others
      have spaces := carved.distinct
      rw [List.map_append, List.map_singleton] at spaces
      have distinct := (List.pairwise_append.mp spaces).2.2 holder.region
        (List.mem_map_of_mem before) space.region (List.mem_singleton_self _)
      have holding := carved.filled holder of
      have taken : region.Within space.region :=
        own.trans (taken_within (by exact room))
      have mine := distinct.mono (inside.trans (taken_within holding))
      exact (mine.symm.mono taken).symm
    · rw [List.mem_singleton.mp here] at inside
      exact .inl (inside.2.trans behind)

end Carved

end Foundation
