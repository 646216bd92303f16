import Gsml3.Foundation.Recording
import Gsml3.Foundation.Regions

/-!
# Arena allocator

Memory is handed out from the front of blocks that the heap provides; a request that does not fit
the last block gets a block of its own.  Sizes and addresses are numbers of 64 bits that wrap
around.  The last block is aligned by its offset only, so the address is aligned if the heap
aligned the block, and both tests of the size compare sums that may have wrapped around.
-/

namespace Gsml3

open Foundation

/-- Storage of an arena: the address of its first octet, its size and the offset of the first
octet that is not handed out. -/
structure Arena.Block where
  data : UInt64
  size : UInt64
  offset : UInt64
deriving DecidableEq

structure Arena where
  mBlocks : List Arena.Block
  mUsed : UInt64
deriving DecidableEq

namespace Arena

/-- True if v is a power of two (and non-zero). -/
def isPowerOfTwo (v : UInt64) : Bool :=
  v ≠ 0 && (v &&& (v - 1)) = 0

/-- Minimum block size for newly created blocks. -/
def kMinBlockSize : UInt64 := 65536

namespace Block

/-- The offset of a region behind what is handed out. -/
def alignedOffset (b : Block) (alignment : UInt64) : UInt64 :=
  alignUp b.offset alignment

/-- The test of the source, whose sum may wrap around. -/
def fits (b : Block) (bytes alignment : UInt64) : Bool :=
  b.alignedOffset alignment + bytes ≤ b.size

end Block

/-- What a call of `allocate` comes back with; `badAlloc` is the exception of the heap. -/
inductive Reply where
  | null
  | pointer (ptr : UInt64)
  | badAlloc
deriving DecidableEq

/-- An arena whose first block, of `initialCapacity` octets, the heap put at `data`. -/
def create (data initialCapacity : UInt64) : Arena :=
  ⟨[⟨data, initialCapacity, 0⟩], 0⟩

/-- The last block, if the request fits it. -/
def current (arena : Arena) (bytes alignment : UInt64) : Option Block :=
  arena.mBlocks.getLast?.filter fun b => b.fits bytes alignment

/-- The room of a new block. -/
def blockCapacity (bytes alignment : UInt64) : UInt64 :=
  if (bytes + alignment) * 2 < kMinBlockSize then kMinBlockSize else (bytes + alignment) * 2

/-- The size of a new block, which has room to align its first region. -/
def newBlockSize (bytes alignment : UInt64) : UInt64 :=
  blockCapacity bytes alignment + alignment

/-- The fast path: the region is behind what is handed out of the last block. -/
def serve (arena : Arena) (b : Block) (bytes alignment : UInt64) : Arena × Reply :=
  let alignedOffset := b.alignedOffset alignment
  ({ mBlocks := arena.mBlocks.dropLast ++ [{ b with offset := alignedOffset + bytes }]
     mUsed := arena.mUsed + bytes }, .pointer (b.data + alignedOffset))

/-- A new block, whose first region starts behind the slack that aligns it. -/
def extend (arena : Arena) (base bytes alignment : UInt64) : Arena × Reply :=
  let slack := alignUp base alignment - base
  ({ mBlocks := arena.mBlocks ++ [⟨base, newBlockSize bytes alignment, slack + bytes⟩]
     mUsed := arena.mUsed + bytes }, .pointer (base + slack))

/-- `allocate`; the heap answers a request for a new block with its address, or throws. -/
def allocate (arena : Arena) (bytes alignment : UInt64) (heap : Option UInt64) : Arena × Reply :=
  if bytes = 0 then (arena, .null)
  else if isPowerOfTwo alignment = false then (arena, .null)
  else
    match arena.current bytes alignment, heap with
    | some b, _ => arena.serve b bytes alignment
    | none, some base => arena.extend base bytes alignment
    | none, none => (arena, .badAlloc)

def reset : Arena :=
  ⟨[], 0⟩

/-- A call, with the answer of the heap should it be asked for a block. -/
inductive Call where
  | allocate (bytes alignment : UInt64) (heap : Option UInt64)
  | reset
deriving DecidableEq

def call (arena : Arena) : Call → Arena
  | .allocate bytes alignment heap => (arena.allocate bytes alignment heap).1
  | .reset => reset

/-- The arena as a machine; every call returns or throws. -/
def machine : Machine Arena Call where
  step := fun arena request => some (arena.call request)

/-! ## What was handed out -/

/-- A region handed out and the alignment that was asked for. -/
structure Grant where
  region : Region
  alignment : Nat
deriving DecidableEq

/-- What a call hands out. -/
def grants (arena : Arena) : Call → List Grant
  | .allocate bytes alignment heap =>
      match (arena.allocate bytes alignment heap).2 with
      | .pointer ptr => [⟨⟨ptr.toNat, bytes.toNat⟩, alignment.toNat⟩]
      | _ => []
  | .reset => []

/-- What was handed out since the last `reset`. -/
def granted (held : List Grant) (arena : Arena) (request : Call) (_ : Arena) : List Grant :=
  match request with
  | .allocate .. => held ++ arena.grants request
  | .reset => []

/-- An arena with what it handed out. -/
def granting : Machine (Arena × List Grant) Call :=
  machine.recording granted

/-- The addresses of a block, filled up to its offset. -/
def space (b : Block) : Space :=
  ⟨⟨b.data.toNat, b.size.toNat⟩, b.offset.toNat⟩

/-- The heap provides storage at `base`, aligned as on the platform, that no block has. -/
structure Provides (platform : Nat) (arena : Arena) (base size : UInt64) : Prop where
  aligned : platform ∣ base.toNat
  valid : base ≠ 0
  ends : base.toNat + size.toNat ≤ 2 ^ 64
  fresh : ∀ b ∈ arena.mBlocks, (space b).region.Apart ⟨base.toNat, size.toNat⟩

instance (platform : Nat) (arena : Arena) (base size : UInt64) :
    Decidable (Provides platform arena base size) :=
  decidable_of_iff
    (platform ∣ base.toNat ∧ base ≠ 0 ∧ base.toNat + size.toNat ≤ 2 ^ 64 ∧
      ∀ b ∈ arena.mBlocks, (space b).region.Apart ⟨base.toNat, size.toNat⟩)
    (Iff.intro (fun all => ⟨all.1, all.2.1, all.2.2.1, all.2.2.2⟩)
      fun provided => ⟨provided.aligned, provided.valid, provided.ends, provided.fresh⟩)

/-- The heap answers as it should. -/
def Answered (platform : Nat) (arena : Arena) : Call → Prop
  | .allocate bytes alignment (some base) =>
      Provides platform arena base (newBlockSize bytes alignment)
  | _ => True

instance (platform : Nat) (arena : Arena) (request : Call) :
    Decidable (Answered platform arena request) :=
  match request with
  | .allocate bytes alignment (some base) =>
      inferInstanceAs (Decidable (Provides platform arena base (newBlockSize bytes alignment)))
  | .allocate _ _ none => .isTrue trivial
  | .reset => .isTrue trivial

/-- Every region since the last `reset` is inside a block, apart from the others and aligned, and
the usage counts their octets. -/
structure Sound (w : Arena × List Grant) : Prop where
  inside : ∀ grant ∈ w.2, ∃ b ∈ w.1.mBlocks, grant.region.Within (space b).region
  apart : (w.2.map Grant.region).Pairwise Region.Apart
  aligned : ∀ grant ∈ w.2, grant.alignment ∣ grant.region.start
  used : w.1.mUsed.toNat = ((w.2.map Grant.region).map Region.size).sum

/-- No sum of a request is beyond 64 bits, and a request that the last block serves asks for no
more than the alignment of that block. -/
def Within64 (arena : Arena) : Call → Prop
  | .allocate bytes alignment _ =>
      bytes ≠ 0 → isPowerOfTwo alignment = true →
        match arena.current bytes alignment with
        | some b =>
            alignment.toNat ∣ b.data.toNat ∧
              roundUp alignment.toNat b.offset.toNat + bytes.toNat < 2 ^ 64
        | none => 2 * (bytes.toNat + alignment.toNat) + alignment.toNat < 2 ^ 64
  | .reset => True

instance (arena : Arena) (request : Call) : Decidable (Within64 arena request) :=
  match request with
  | .allocate bytes alignment _ =>
      match served : arena.current bytes alignment with
      | some b => decidable_of_iff
          (bytes ≠ 0 → isPowerOfTwo alignment = true →
            alignment.toNat ∣ b.data.toNat ∧
              roundUp alignment.toNat b.offset.toNat + bytes.toNat < 2 ^ 64)
          (by rw [Within64, served])
      | none => decidable_of_iff
          (bytes ≠ 0 → isPowerOfTwo alignment = true →
            2 * (bytes.toNat + alignment.toNat) + alignment.toNat < 2 ^ 64)
          (by rw [Within64, served])
  | .reset => .isTrue trivial

theorem isPowerOfTwo_toNat {v : UInt64} (power : isPowerOfTwo v = true) :
    v.toNat.isPowerOfTwo := by
  simp only [isPowerOfTwo, ne_eq, decide_not, Bool.and_eq_true, Bool.not_eq_true',
    decide_eq_false_iff_not, decide_eq_true_eq] at power
  obtain ⟨nonzero, common⟩ := power
  apply Nat.ne_zero_and_sub_one_eq_zero_iff_isPowerOfTwo.mp
  have positive : v.toNat ≠ 0 := fun zero => nonzero (UInt64.toNat_inj.mp zero)
  have before : (v - 1).toNat = v.toNat - 1 := by
    have bound := v.toNat_lt
    rw [UInt64.toNat_sub, UInt64.toNat_one]
    omega
  refine ⟨positive, ?_⟩
  rw [← before, ← UInt64.toNat_and, common]
  rfl

/-! ## Allocations -/

section Allocations

variable {arena : Arena} {bytes alignment : UInt64} {heap : Option UInt64}

/-- What an allocation does: nothing, or it is served from the last block or from a new one. -/
inductive Allocated (arena : Arena) (bytes alignment : UInt64) (heap : Option UInt64) : Prop where
  | refused (same : (arena.allocate bytes alignment heap).1 = arena)
      (nothing : arena.grants (.allocate bytes alignment heap) = [])
  | served (asked : bytes ≠ 0) (power : isPowerOfTwo alignment = true) (front : List Block)
      (b : Block) (blocks : arena.mBlocks = front ++ [b])
      (current : arena.current bytes alignment = some b)
      (room : b.alignedOffset alignment + bytes ≤ b.size)
      (result : (arena.allocate bytes alignment heap).1 =
        { mBlocks := front ++ [{ b with offset := b.alignedOffset alignment + bytes }]
          mUsed := arena.mUsed + bytes })
      (grant : arena.grants (.allocate bytes alignment heap) =
        [⟨⟨(b.data + b.alignedOffset alignment).toNat, bytes.toNat⟩, alignment.toNat⟩])
  | extended (asked : bytes ≠ 0) (power : isPowerOfTwo alignment = true)
      (current : arena.current bytes alignment = none) (base : UInt64) (answer : heap = some base)
      (result : (arena.allocate bytes alignment heap).1 =
        { mBlocks := arena.mBlocks ++
            [⟨base, newBlockSize bytes alignment, alignUp base alignment - base + bytes⟩]
          mUsed := arena.mUsed + bytes })
      (grant : arena.grants (.allocate bytes alignment heap) =
        [⟨⟨(base + (alignUp base alignment - base)).toNat, bytes.toNat⟩, alignment.toNat⟩])

theorem allocated (arena : Arena) (bytes alignment : UInt64) (heap : Option UInt64) :
    Allocated arena bytes alignment heap := by
  by_cases zero : bytes = 0
  · have same : arena.allocate bytes alignment heap = (arena, .null) := if_pos zero
    exact .refused (by rw [same]) (by rw [grants, same])
  · by_cases odd : isPowerOfTwo alignment = false
    · have same : arena.allocate bytes alignment heap = (arena, .null) :=
        (if_neg zero).trans (if_pos odd)
      exact .refused (by rw [same]) (by rw [grants, same])
    · have power : isPowerOfTwo alignment = true := by simpa using odd
      cases current : arena.current bytes alignment with
      | some b =>
          obtain ⟨last, fits⟩ := Option.filter_eq_some_iff.mp current
          obtain ⟨front, blocks⟩ := List.getLast?_eq_some_iff.mp last
          have room : b.alignedOffset alignment + bytes ≤ b.size := by simpa [Block.fits] using fits
          have served : arena.allocate bytes alignment heap = arena.serve b bytes alignment := by
            simp [allocate, zero, power, current]
          apply Allocated.served zero power front b blocks current room
          · rw [served, serve, blocks, List.dropLast_concat]
          · rw [grants, served, serve]
      | none =>
          cases heap with
          | none =>
              have same : arena.allocate bytes alignment none = (arena, .badAlloc) := by
                simp [allocate, zero, power, current]
              exact .refused (by rw [same]) (by rw [grants, same])
          | some base =>
              have extended : arena.allocate bytes alignment (some base) =
                  arena.extend base bytes alignment := by
                simp [allocate, zero, power, current]
              apply Allocated.extended zero power current base rfl
              · rw [extended, extend]
              · rw [grants, extended, extend]

end Allocations

/-! ## Runs -/

/-- The addresses of the blocks of an arena. -/
def spaces (arena : Arena) : List Space :=
  arena.mBlocks.map space

/-- The invariant: the regions are carved out of the blocks, which are storage of the heap. -/
structure Holds (w : Arena × List Grant) : Prop where
  carved : Carved w.1.spaces (w.2.map Grant.region)
  valid : ∀ b ∈ w.1.mBlocks, 1 ≤ b.data.toNat ∧ b.data.toNat + b.size.toNat ≤ 2 ^ 64
  aligned : ∀ grant ∈ w.2, grant.alignment ∣ grant.region.start
  used : w.1.mUsed.toNat = ((w.2.map Grant.region).map Region.size).sum

section Steps

variable {platform : Nat} {arena : Arena} {held : List Grant} {request : Call}

theorem Holds.sound {w : Arena × List Grant} (holds : Holds w) : Sound w := by
  refine ⟨?_, holds.carved.apart, holds.aligned, holds.used⟩
  intro grant member
  obtain ⟨outer, of, inside⟩ := holds.carved.within (List.mem_map_of_mem member)
  obtain ⟨b, block, rfl⟩ := List.mem_map.mp of
  exact ⟨b, block, inside⟩

theorem holds_reset : Holds (reset, []) :=
  ⟨.none, by simp [reset], by simp, rfl⟩

/-- The blocks are storage at valid addresses, so the octets handed out can be counted. -/
theorem Holds.grant {grant : Grant} {blocks : List Block} {bytes : UInt64}
    (holds : Holds (arena, held))
    (carved : Carved (blocks.map space) (held.map Grant.region ++ [grant.region]))
    (valid : ∀ b ∈ blocks, 1 ≤ b.data.toNat ∧ b.data.toNat + b.size.toNat ≤ 2 ^ 64)
    (aligned : grant.alignment ∣ grant.region.start) (size : grant.region.size = bytes.toNat) :
    Holds (⟨blocks, arena.mUsed + bytes⟩, held ++ [grant]) := by
  refine ⟨?_, valid, ?_, ?_⟩
  · rw [List.map_append, List.map_singleton]
    exact carved
  · intro other member
    rcases List.mem_append.mp member with old | new
    · exact holds.aligned other old
    · rw [List.mem_singleton.mp new]
      exact aligned
  · have between : ∀ region ∈ held.map Grant.region ++ [grant.region],
        1 ≤ region.start ∧ region.stop ≤ 2 ^ 64 := by
      intro region member
      obtain ⟨outer, of, inside⟩ := carved.within member
      obtain ⟨b, block, rfl⟩ := List.mem_map.mp of
      obtain ⟨first, last⟩ := valid b block
      exact ⟨first.trans inside.1, inside.2.trans last⟩
    have bound := Region.sum_size_le carved.apart between
    have used := holds.used
    simp only [List.map_append, List.map_singleton, List.sum_append, List.sum_singleton,
      size] at bound used ⊢
    rw [UInt64.toNat_add, used]
    omega

theorem Holds.served {bytes alignment : UInt64} (holds : Holds (arena, held))
    (asked : bytes ≠ 0) (power : isPowerOfTwo alignment = true) {front : List Block} {b : Block}
    (blocks : arena.mBlocks = front ++ [b])
    (room : b.alignedOffset alignment + bytes ≤ b.size)
    (aligned : alignment.toNat ∣ b.data.toNat)
    (fits : roundUp alignment.toNat b.offset.toNat + bytes.toNat < 2 ^ 64) :
    Holds
      ({ mBlocks := front ++ [{ b with offset := b.alignedOffset alignment + bytes }]
         mUsed := arena.mUsed + bytes },
        held ++ [⟨⟨(b.data + b.alignedOffset alignment).toNat, bytes.toNat⟩,
          alignment.toNat⟩]) := by
  have two := isPowerOfTwo_toNat power
  have positive := Nat.pos_of_isPowerOfTwo two
  have some : 0 < bytes.toNat := by
    apply Nat.pos_of_ne_zero
    exact fun zero => asked (UInt64.toNat_inj.mp zero)
  have member : b ∈ arena.mBlocks := by simp [blocks]
  obtain ⟨first, last⟩ := holds.valid b member
  have offset : (b.alignedOffset alignment).toNat =
      roundUp alignment.toNat b.offset.toNat := by
    apply toNat_alignUp two
    omega
  have filled : (b.alignedOffset alignment + bytes).toNat =
      roundUp alignment.toNat b.offset.toNat + bytes.toNat := by
    rw [UInt64.toNat_add, offset, Nat.mod_eq_of_lt fits]
  have within : roundUp alignment.toNat b.offset.toNat + bytes.toNat ≤ b.size.toNat := by
    rw [← filled]
    exact UInt64.le_iff_toNat_le.mp room
  have pointer : (b.data + b.alignedOffset alignment).toNat =
      b.data.toNat + roundUp alignment.toNat b.offset.toNat := by
    rw [UInt64.toNat_add, offset]
    omega
  have above := le_roundUp positive b.offset.toNat
  have carved := holds.carved
  rw [spaces, blocks, List.map_append, List.map_singleton] at carved
  apply holds.grant
  · rw [List.map_append, List.map_singleton]
    apply carved.carve
    · rw [pointer]
      exact Nat.add_le_add_left above _
    · change (b.data + b.alignedOffset alignment).toNat + bytes.toNat ≤
        b.data.toNat + (b.alignedOffset alignment + bytes).toNat
      rw [pointer, filled, Nat.add_assoc]
    · rw [filled]
      exact within
  · intro other of
    rcases List.mem_append.mp of with old | new
    · apply holds.valid other
      rw [blocks]
      exact List.mem_append_left _ old
    · rw [List.mem_singleton.mp new]
      exact ⟨first, last⟩
  · change alignment.toNat ∣ (b.data + b.alignedOffset alignment).toNat
    rw [pointer]
    exact Nat.dvd_add aligned (dvd_roundUp _)
  · rfl

/-- A new block has room for the slack and the region. -/
theorem toNat_newBlockSize {bytes alignment : UInt64}
    (fits : 2 * (bytes.toNat + alignment.toNat) + alignment.toNat < 2 ^ 64) :
    bytes.toNat + alignment.toNat + alignment.toNat ≤ (newBlockSize bytes alignment).toNat := by
  have doubled : ((bytes + alignment) * 2).toNat = 2 * (bytes.toNat + alignment.toNat) := by
    have two : (2 : UInt64).toNat = 2 := rfl
    rw [UInt64.toNat_mul, UInt64.toNat_add, two]
    omega
  have least : kMinBlockSize.toNat = 65536 := rfl
  rw [newBlockSize, blockCapacity]
  split
  case isTrue small =>
    rw [UInt64.lt_iff_toNat_lt, doubled, least] at small
    rw [UInt64.toNat_add, least]
    omega
  case isFalse =>
    rw [UInt64.toNat_add, doubled, Nat.mod_eq_of_lt fits]
    omega

theorem Holds.extended {bytes alignment base : UInt64} (holds : Holds (arena, held))
    (power : isPowerOfTwo alignment = true)
    (provided : Provides platform arena base (newBlockSize bytes alignment))
    (fits : 2 * (bytes.toNat + alignment.toNat) + alignment.toNat < 2 ^ 64) :
    Holds
      ({ mBlocks := arena.mBlocks ++
           [⟨base, newBlockSize bytes alignment, alignUp base alignment - base + bytes⟩]
         mUsed := arena.mUsed + bytes },
        held ++ [⟨⟨(base + (alignUp base alignment - base)).toNat, bytes.toNat⟩,
          alignment.toNat⟩]) := by
  have two := isPowerOfTwo_toNat power
  have positive := Nat.pos_of_isPowerOfTwo two
  have room := toNat_newBlockSize fits
  have ends := provided.ends
  have above := le_roundUp positive base.toNat
  have below := roundUp_lt positive base.toNat
  have up : (alignUp base alignment).toNat = roundUp alignment.toNat base.toNat := by
    apply toNat_alignUp two
    omega
  have slack : (alignUp base alignment - base).toNat =
      roundUp alignment.toNat base.toNat - base.toNat := by
    rw [UInt64.toNat_sub_of_le, up]
    rw [UInt64.le_iff_toNat_le, up]
    exact above
  have offset : (alignUp base alignment - base + bytes).toNat =
      roundUp alignment.toNat base.toNat - base.toNat + bytes.toNat := by
    rw [UInt64.toNat_add, slack]
    omega
  have pointer : (base + (alignUp base alignment - base)).toNat =
      roundUp alignment.toNat base.toNat := by
    rw [UInt64.toNat_add, slack]
    omega
  have valid : 1 ≤ base.toNat := by
    apply Nat.pos_of_ne_zero
    exact fun zero => provided.valid (UInt64.toNat_inj.mp zero)
  apply holds.grant
  · rw [List.map_append, List.map_singleton]
    have added : Carved (arena.spaces ++ [⟨⟨base.toNat, (newBlockSize bytes alignment).toNat⟩, 0⟩])
        (held.map Grant.region) := by
      apply holds.carved.addSpace (Nat.zero_le _)
      intro other member
      obtain ⟨b, block, rfl⟩ := List.mem_map.mp member
      exact provided.fresh b block
    apply added.carve
    · rw [pointer]
      exact above
    · change (base + (alignUp base alignment - base)).toNat + bytes.toNat ≤
        base.toNat + (alignUp base alignment - base + bytes).toNat
      rw [pointer, offset]
      omega
    · rw [offset]
      change _ ≤ (newBlockSize bytes alignment).toNat
      omega
  · intro other of
    rcases List.mem_append.mp of with old | new
    · exact holds.valid other old
    · rw [List.mem_singleton.mp new]
      exact ⟨valid, ends⟩
  · change alignment.toNat ∣ (base + (alignUp base alignment - base)).toNat
    rw [pointer]
    exact dvd_roundUp _
  · rfl

theorem Holds.call (holds : Holds (arena, held)) (answered : Answered platform arena request)
    (within : Within64 arena request) :
    Holds (arena.call request, granted held arena request (arena.call request)) := by
  cases request with
  | reset => exact holds_reset
  | allocate bytes alignment heap =>
      rw [granted, Arena.call]
      cases allocated arena bytes alignment heap with
      | refused same nothing =>
          rw [same, nothing, List.append_nil]
          exact holds
      | served asked power front b blocks current room result grant =>
          have sums := within asked power
          rw [current] at sums
          rw [result, grant]
          exact holds.served asked power blocks room sums.1 sums.2
      | extended asked power current base answer result grant =>
          have sums := within asked power
          rw [current] at sums
          rw [answer] at answered
          rw [result, grant]
          exact holds.extended power answered sums

end Steps

/-- **Allocation**: if no sum of a request is beyond 64 bits and none that the last block serves
asks for more than its alignment, every region handed out is inside a block, apart from the others
and aligned. -/
theorem sound_of_run {platform : Nat} {data initialCapacity : UInt64}
    (provided : Provides platform reset data initialCapacity) {calls : List Call}
    {w : Arena × List Grant}
    (run : granting.Run (fun source request _ =>
      Answered platform source.1 request ∧ Within64 source.1 request)
      (create data initialCapacity, []) calls w) : Sound w := by
  have start : Holds (create data initialCapacity, []) := by
    have valid : 1 ≤ data.toNat := by
      apply Nat.pos_of_ne_zero
      exact fun zero => provided.valid (UInt64.toNat_inj.mp zero)
    refine ⟨?_, ?_, by simp, rfl⟩
    · exact Carved.none.addSpace (Nat.zero_le _) (by simp)
    · intro b member
      rw [List.mem_singleton.mp member]
      exact ⟨valid, provided.ends⟩
  have holds : Holds w := by
    refine run.invariant (fun _ state => Holds state) start ?_
    rintro past ⟨arena, held⟩ target request holds stepped ⟨answered, within⟩
    obtain rfl := Option.some.inj stepped
    exact holds.call answered within
  exact holds.sound

/-- A short request from the first block and a long one from a block of its own. -/
theorem sound_of_run_two :
    ∃ w, granting.Run (fun source request _ =>
        Answered 16 source.1 request ∧ Within64 source.1 request)
        (create 65536 4096, []) [.allocate 8 32 none, .allocate 5000 64 (some 131088)] w ∧
      w.2 = [⟨⟨65536, 8⟩, 32⟩, ⟨⟨131136, 5000⟩, 64⟩] ∧ Sound w := by
  have provided : Provides 16 reset 65536 4096 := by decide
  obtain ⟨w, executed⟩ := Option.isSome_iff_exists.mp (show (granting.exec
    (fun source request _ => Answered 16 source.1 request ∧ Within64 source.1 request)
    (create 65536 4096, []) [.allocate 8 32 none, .allocate 5000 64 (some 131088)]).isSome
    by decide)
  have held : ∀ w ∈ granting.exec
      (fun source request _ => Answered 16 source.1 request ∧ Within64 source.1 request)
      (create 65536 4096, []) [.allocate 8 32 none, .allocate 5000 64 (some 131088)],
      w.2 = [⟨⟨65536, 8⟩, 32⟩, ⟨⟨131136, 5000⟩, 64⟩] := by
    decide
  have run := Machine.Run.exec _ .origin executed
  exact ⟨w, run, held w executed, sound_of_run provided run⟩

/-- The first block serves an alignment that it has not, and a size that wraps around. -/
theorem serves_unsound :
    Provides 16 reset 65552 4096 ∧
      (∃ w, granting.Run (fun source request _ => Answered 16 source.1 request)
          (create 65552 4096, []) [.allocate 1 32 none] w ∧
        w.2 = [⟨⟨65552, 1⟩, 32⟩] ∧ ¬ Sound w) ∧
      ∃ w, granting.Run (fun source request _ => Answered 16 source.1 request)
          (create 65552 4096, []) [.allocate 8 8 none, .allocate 18446744073709551608 8 none] w ∧
        w.2 = [⟨⟨65552, 8⟩, 8⟩, ⟨⟨65560, 18446744073709551608⟩, 8⟩] ∧ ¬ Sound w := by
  refine ⟨by decide, ?_, ?_⟩
  · obtain ⟨w, executed⟩ := Option.isSome_iff_exists.mp (show (granting.exec
      (fun source request _ => Answered 16 source.1 request) (create 65552 4096, [])
      [.allocate 1 32 none]).isSome by decide)
    have held : ∀ w ∈ granting.exec (fun source request _ => Answered 16 source.1 request)
        (create 65552 4096, []) [.allocate 1 32 none], w.2 = [⟨⟨65552, 1⟩, 32⟩] := by
      decide
    have regions := held w executed
    refine ⟨w, Machine.Run.exec _ .origin executed, regions, fun sound => ?_⟩
    have aligned := sound.aligned ⟨⟨65552, 1⟩, 32⟩ (by simp [regions])
    simp at aligned
  · obtain ⟨w, executed⟩ := Option.isSome_iff_exists.mp (show (granting.exec
      (fun source request _ => Answered 16 source.1 request) (create 65552 4096, [])
      [.allocate 8 8 none, .allocate 18446744073709551608 8 none]).isSome by decide)
    have held : ∀ w ∈ granting.exec (fun source request _ => Answered 16 source.1 request)
        (create 65552 4096, []) [.allocate 8 8 none, .allocate 18446744073709551608 8 none],
        w.1.mBlocks = [⟨65552, 4096, 0⟩] ∧
        w.2 = [⟨⟨65552, 8⟩, 8⟩, ⟨⟨65560, 18446744073709551608⟩, 8⟩] := by
      decide
    obtain ⟨blocks, regions⟩ := held w executed
    refine ⟨w, Machine.Run.exec _ .origin executed, regions, fun sound => ?_⟩
    obtain ⟨b, member, -, ends⟩ :=
      sound.inside ⟨⟨65560, 18446744073709551608⟩, 8⟩ (by simp [regions])
    rw [blocks, List.mem_singleton] at member
    rw [member] at ends
    simp [space, Region.stop] at ends

end Arena

end Gsml3
