import Gsml3.Foundation.CircularBuffer
import Gsml3.Bitstream.RingBuffer

/-!
# The ring buffer is a queue

Along every interleaving of the two sides the octets read are a prefix of the
octets accepted.  The invariant counts octets without wrapping: the accepted
octets that are not released yet, with those the producer is copying behind
them, lie in the buffer as one run, which never fills it.
-/

namespace Gsml3

namespace Bitstream

open Foundation (Holds)

/-! ## Sizes -/

section Sizes

/-- Bit `i` is set when one of the `n` bits of `x` from `i` on is. -/
def Smeared (x n y : Nat) : Prop :=
  ∀ i, y.testBit i = true ↔ ∃ j < n, x.testBit (i + j) = true

theorem Smeared.double {x n y : Nat} (smeared : Smeared x n y) :
    Smeared x (n + n) (y ||| y >>> n) := by
  intro i
  rw [Nat.testBit_or, Nat.testBit_shiftRight, Bool.or_eq_true, smeared, smeared]
  constructor
  · rintro (⟨j, bound, set⟩ | ⟨j, bound, set⟩)
    · exact ⟨j, by omega, set⟩
    · exact ⟨n + j, by omega, by rwa [← Nat.add_assoc, Nat.add_comm i n]⟩
  · rintro ⟨j, bound, set⟩
    by_cases low : j < n
    · exact .inl ⟨j, low, set⟩
    · refine .inr ⟨j - n, by omega, ?_⟩
      rwa [show n + i + (j - n) = i + j by omega]

theorem smear_smeared (x : Nat) : Smeared x 64 (smear x) := by
  have one : Smeared x 1 x := by
    intro i
    constructor
    · exact fun set => ⟨0, Nat.one_pos, set⟩
    · rintro ⟨j, bound, set⟩
      obtain rfl : j = 0 := by omega
      exact set
  exact one.double.double.double.double.double.double

/-- Smearing sets every bit below the top one. -/
theorem smear_eq {x k : Nat} (low : 2 ^ k ≤ x) (high : x < 2 ^ (k + 1)) (small : k < 64) :
    smear x = 2 ^ (k + 1) - 1 := by
  refine Nat.eq_of_testBit_eq fun i => ?_
  rw [Nat.testBit_two_pow_sub_one]
  have top : x.testBit k = true := by
    rw [Nat.testBit_eq_decide_div_mod_eq]
    have quotient : x / 2 ^ k = 1 := by
      rw [Nat.div_eq_iff (Nat.two_pow_pos k)]
      rw [pow_succ] at high
      omega
    rw [quotient]
    rfl
  have above : ∀ j, k < j → x.testBit j = false := fun j beyond =>
    Nat.testBit_lt_two_pow (high.trans_le (Nat.pow_le_pow_right (by decide) beyond))
  by_cases below : i < k + 1
  · rw [decide_eq_true below, smear_smeared x i]
    exact ⟨k - i, by omega, by rwa [Nat.add_sub_cancel' (by omega)]⟩
  · rw [decide_eq_false below]
    refine Bool.eq_false_iff.mpr fun set => ?_
    obtain ⟨j, -, set⟩ := (smear_smeared x i).mp set
    rw [above (i + j) (by omega)] at set
    cases set

/-- A capacity is rounded up to a power of two of 64 bits. -/
theorem physicalSize_eq {capacity : Nat} (small : capacity ≤ 2 ^ 63) :
    ∃ k, 0 < k ∧ k ≤ 63 ∧ physicalSize capacity = 2 ^ k := by
  obtain ⟨cap, rounded⟩ : ∃ cap, cap = (if capacity < 2 then 2 else capacity) - 1 := ⟨_, rfl⟩
  have positive : cap ≠ 0 := by
    rw [rounded]
    split <;> omega
  have bounded : cap < 2 ^ 63 := by
    rw [rounded]
    split <;> omega
  have log_lt : Nat.log2 cap < 63 := (Nat.log2_lt positive).mpr bounded
  have size := smear_eq (Nat.log2_self_le positive) Nat.lt_log2_self (by omega)
  refine ⟨Nat.log2 cap + 1, Nat.succ_pos _, by omega, ?_⟩
  rw [physicalSize, ← rounded, size, Nat.sub_add_cancel Nat.one_le_two_pow]
  exact Nat.mod_eq_of_lt (Nat.pow_lt_pow_right (by decide) (by omega))

/-- Beyond that the size is cut to zero. -/
theorem physicalSize_zero {capacity : Nat} (large : 2 ^ 63 < capacity)
    (fits : capacity < 2 ^ 64) : physicalSize capacity = 0 := by
  have size := @smear_eq (capacity - 1) 63 (by omega) (by omega) (by decide)
  rw [physicalSize, if_neg (by omega), size]
  rfl

end Sizes

namespace RingBuffer

/-- The shape of a ring with `2 ^ k` places. -/
structure Sized (ring : RingBuffer) (k : Nat) : Prop where
  positive : 0 < k
  small : k ≤ 63
  length : ring.buf.length = 2 ^ k
  mask : ring.mask = 2 ^ k - 1
  capacity : ring.capacity = 2 ^ k - 1

section Positions

variable {k start len : Nat}

theorem pow_bounds (small : k ≤ 63) : 1 ≤ 2 ^ k ∧ 2 ^ k ≤ 2 ^ 63 :=
  ⟨Nat.one_le_two_pow, Nat.pow_le_pow_right (by decide) small⟩

theorem firstSegment_eq {size : Nat} (positive : 0 < size) (small : size ≤ 2 ^ 63)
    (inside : start < size) (len : Nat) :
    firstSegment (size - 1) start len = min (size - start) len := by
  rw [firstSegment, Nat.sub_add_cancel positive, Nat.mod_eq_of_lt (by omega), sizeSub]
  omega

theorem and_mask_eq (k n : Nat) : n &&& (2 ^ k - 1) = n % 2 ^ k :=
  Nat.and_two_pow_sub_one_eq_mod n k

/-- Octet `i` of a copy lies `i` places after its start. -/
theorem copyPos_eq (small : k ≤ 63) (inside : start < 2 ^ k) {i : Nat} (before : i < len)
    (fits : len ≤ 2 ^ k) : copyPos (2 ^ k - 1) start len i = (start + i) % 2 ^ k := by
  obtain ⟨low, high⟩ := pow_bounds small
  rw [copyPos, firstSegment_eq low high inside, and_mask_eq]
  generalize 2 ^ k = size at *
  split
  case isTrue linear => rw [Nat.mod_eq_of_lt (by omega)]
  case isFalse wrapped =>
    have first : min (size - start) len = size - start := by omega
    rw [first, Nat.add_sub_cancel' inside.le, Nat.mod_self, Nat.zero_add,
      Nat.mod_eq_sub_mod (by omega), Nat.mod_eq_of_lt (by omega)]
    omega

/-- The index after a copy. -/
theorem endPos_eq (small : k ≤ 63) (inside : start < 2 ^ k) (len : Nat) :
    endPos (2 ^ k - 1) start len = (start + len) % 2 ^ k := by
  obtain ⟨low, high⟩ := pow_bounds small
  rw [endPos, firstSegment_eq low high inside, and_mask_eq, and_mask_eq]
  split
  case isTrue =>
    rw [Nat.mod_add_mod, Nat.add_assoc, Nat.add_sub_cancel' (Nat.min_le_right ..)]
  case isFalse whole =>
    have all : min (2 ^ k - start) len = len := by omega
    rw [all]

end Positions

/-- The gap between two indexes, computed from their places in the buffer. -/
theorem index_gap {size written released : Nat} (positive : 0 < size)
    (ordered : released ≤ written) (room : written < released + size) :
    (if released % size ≤ written % size then written % size - released % size
      else size - released % size + written % size) = written - released := by
  have written_lt := Nat.mod_lt written positive
  have released_lt := Nat.mod_lt released positive
  have split_written := Nat.div_add_mod written size
  have split_released := Nat.div_add_mod released size
  have first : released / size ≤ written / size := Nat.div_le_div_right ordered
  have last : written / size ≤ released / size + 1 := by
    rw [← Nat.add_div_right _ positive]
    exact Nat.div_le_div_right room.le
  rcases Nat.eq_or_lt_of_le first with same | next
  · rw [← same] at split_written
    rw [if_pos (by omega)]
    omega
  · obtain same : written / size = released / size + 1 := by omega
    rw [same, Nat.mul_add, Nat.mul_one] at split_written
    rw [if_neg (by omega)]
    omega

/-- With indexes counted without end, the octets between them are available. -/
theorem available_eq {ring : RingBuffer} {k written released : Nat} (sized : ring.Sized k)
    (head : ring.head = written % 2 ^ k) (tail : ring.tail = released % 2 ^ k)
    (ordered : released ≤ written) (room : written < released + 2 ^ k) :
    ring.available = written - released := by
  obtain ⟨low, high⟩ := pow_bounds sized.small
  have gap := index_gap low ordered room
  have head_lt := Nat.mod_lt written low
  have tail_lt := Nat.mod_lt released low
  rw [available, head, tail, sized.mask, Nat.sub_add_cancel low]
  generalize 2 ^ k = size at *
  have whole : size % 2 ^ 64 = size := Nat.mod_eq_of_lt (by omega)
  rw [whole, sizeSub]
  by_cases unwrapped : released % size ≤ written % size
  · rw [if_pos unwrapped] at gap ⊢
    exact gap
  · rw [if_neg unwrapped] at gap ⊢
    omega

theorem freeSpace_eq {ring : RingBuffer} {k : Nat} (sized : ring.Sized k)
    (bounded : ring.available ≤ ring.capacity) :
    ring.freeSpace = ring.capacity - ring.available := by
  obtain ⟨low, high⟩ := pow_bounds sized.small
  have capacity := sized.capacity
  rw [freeSpace, sizeSub]
  omega

end RingBuffer

/-! ## The invariant -/

namespace Writer

/-- The octets the producer is writing. -/
def data : Writer → List UInt8
  | .idle => []
  | .copying data _ _ => data

/-- Those it has copied. -/
def copied : Writer → List UInt8
  | .idle => []
  | .copying data _ copied => data.take copied

end Writer

namespace Reader

/-- The number of octets the consumer has copied out. -/
def copied : Reader → Nat
  | .idle => 0
  | .copying _ _ copied => copied

end Reader

namespace Queue

/-- Between steps, with `released` octets given back to the producer: the
octets accepted since, and those being copied in, lie in the buffer as one run,
which leaves a place free. -/
structure Consistent (k released : Nat) (queue : Queue) : Prop where
  sized : queue.ring.Sized k
  head : queue.ring.head = queue.accepted.length % 2 ^ k
  tail : queue.ring.tail = released % 2 ^ k
  ordered : released ≤ queue.accepted.length
  holds : Holds queue.ring.buf released
    (queue.accepted.drop released ++ queue.writer.copied)
  room : queue.accepted.length + queue.writer.data.length < released + 2 ^ k
  writing : ∀ data start copied, queue.writer = .copying data start copied →
    start = queue.ring.head ∧ copied ≤ data.length
  reading : ∀ count start copied, queue.reader = .copying count start copied →
    start = queue.ring.tail ∧ copied ≤ count ∧ released + count ≤ queue.accepted.length
  delivered : queue.delivered = queue.accepted.take (released + queue.reader.copied)

namespace Consistent

variable {k released : Nat} {queue target : Queue}

theorem available (consistent : Consistent k released queue) :
    queue.ring.available = queue.accepted.length - released :=
  RingBuffer.available_eq consistent.sized consistent.head consistent.tail consistent.ordered
    (by have room := consistent.room; omega)

theorem available_le (consistent : Consistent k released queue) :
    queue.ring.available ≤ queue.ring.capacity := by
  have room := consistent.room
  have positive := (RingBuffer.pow_bounds consistent.sized.small).1
  rw [consistent.available, consistent.sized.capacity]
  omega

/-- The producer sets out to write octets for which it saw space. -/
theorem startWrite (consistent : Consistent k released queue) (idle : queue.writer = .idle)
    {data : List UInt8} (fits : data.length ≤ queue.ring.freeSpace) :
    Consistent k released { queue with writer := .copying data queue.ring.head 0 } := by
  have free := RingBuffer.freeSpace_eq consistent.sized consistent.available_le
  rw [consistent.available, consistent.sized.capacity] at free
  have room := consistent.room
  have holds := consistent.holds
  have ordered := consistent.ordered
  have positive := (RingBuffer.pow_bounds consistent.sized.small).1
  rw [idle] at holds
  refine ⟨consistent.sized, consistent.head, consistent.tail, ordered, holds, ?_, ?_,
    consistent.reading, consistent.delivered⟩
  · change queue.accepted.length + data.length < released + 2 ^ k
    omega
  · rintro _ _ _ ⟨⟩
    exact ⟨rfl, Nat.zero_le _⟩

theorem loadWrite (consistent : Consistent k released queue) {data : List UInt8}
    (run : queue.loadWrite data = some target) : Consistent k released target := by
  cases writing : queue.writer with
  | copying => simp [Queue.loadWrite, writing] at run
  | idle =>
      simp only [Queue.loadWrite, writing] at run
      split at run
      case isTrue =>
        obtain rfl := Option.some.inj run
        exact consistent
      case isFalse =>
        obtain rfl := Option.some.inj run
        exact consistent.startWrite writing (List.length_take_le ..)

theorem copyIn (consistent : Consistent k released queue) (run : queue.copyIn = some target) :
    Consistent k released target := by
  cases writing : queue.writer with
  | idle => simp [Queue.copyIn, writing] at run
  | copying data start copied =>
      simp only [Queue.copyIn, writing] at run
      obtain ⟨octet, next, rfl⟩ := Option.map_eq_some_iff.mp run
      obtain ⟨inside, octet_eq⟩ := List.getElem?_eq_some_iff.mp next
      obtain ⟨start_eq, -⟩ := consistent.writing data start copied writing
      have sized := consistent.sized
      have room := consistent.room
      have holds := consistent.holds
      have ordered := consistent.ordered
      rw [writing] at room holds
      simp only [Writer.data, Writer.copied] at room holds
      have positive := (RingBuffer.pow_bounds sized.small).1
      have length : (queue.accepted.drop released ++ data.take copied).length =
          queue.accepted.length - released + copied := by
        rw [List.length_append, List.length_drop, List.length_take, Nat.min_eq_left inside.le]
      have place : RingBuffer.copyPos queue.ring.mask start data.length copied =
          (released + (queue.accepted.drop released ++ data.take copied).length) %
            queue.ring.buf.length := by
        have below : queue.ring.head < 2 ^ k := by
          rw [consistent.head]
          exact Nat.mod_lt _ positive
        rw [sized.mask, sized.length, start_eq,
          RingBuffer.copyPos_eq sized.small below inside (by omega), consistent.head,
          Nat.mod_add_mod, length]
        congr 1
        omega
      have extended := holds.set (by rw [length, sized.length]; omega) octet
      rw [← place, List.append_assoc, ← octet_eq, List.take_append_getElem] at extended
      refine ⟨⟨sized.positive, sized.small, ?_, sized.mask, sized.capacity⟩, consistent.head,
        consistent.tail, ordered, ?_, room, ?_, consistent.reading, consistent.delivered⟩
      · rw [List.length_set, sized.length]
      · rw [octet_eq] at extended
        exact extended
      · rintro _ _ _ ⟨⟩
        exact ⟨start_eq, inside⟩

/-- The octets copied in are accepted with the new head. -/
theorem accept (consistent : Consistent k released queue) {data : List UInt8} {start : Nat}
    (writing : queue.writer = .copying data start data.length) {head : Nat}
    (head_eq : head = (queue.accepted ++ data).length % 2 ^ k) :
    Consistent k released
      { queue with ring.head := head, writer := .idle, accepted := queue.accepted ++ data } := by
  have sized := consistent.sized
  have room := consistent.room
  have holds := consistent.holds
  have ordered := consistent.ordered
  have delivered := consistent.delivered
  rw [writing] at room holds
  simp only [Writer.data, Writer.copied, List.take_length] at room holds
  refine ⟨⟨sized.positive, sized.small, sized.length, sized.mask, sized.capacity⟩, head_eq,
    consistent.tail, ?_, ?_, ?_, ?_, ?_, ?_⟩
  · rw [List.length_append]
    omega
  · rw [List.drop_append_of_le_length ordered]
    simpa [Writer.copied] using holds
  · rw [List.length_append]
    simpa [Writer.data] using room
  · rintro _ _ _ ⟨⟩
  · intro count start copied reading
    obtain ⟨tail_eq, bound, within⟩ := consistent.reading count start copied reading
    refine ⟨tail_eq, bound, ?_⟩
    rw [List.length_append]
    omega
  · have within : released + queue.reader.copied ≤ queue.accepted.length := by
      cases reading : queue.reader with
      | idle => exact ordered
      | copying count start copied =>
          obtain ⟨-, bound, within⟩ := consistent.reading count start copied reading
          simp only [Reader.copied]
          omega
    rw [List.take_append_of_le_length within]
    exact delivered

theorem publishHead (consistent : Consistent k released queue)
    (run : queue.publishHead = some target) : Consistent k released target := by
  cases writing : queue.writer with
  | idle => simp [Queue.publishHead, writing] at run
  | copying data start copied =>
      simp only [Queue.publishHead, writing] at run
      split at run
      case isFalse => cases run
      case isTrue finished =>
        obtain rfl := Option.some.inj run
        obtain ⟨start_eq, -⟩ := consistent.writing data start copied writing
        have below : queue.ring.head < 2 ^ k := by
          rw [consistent.head]
          exact Nat.mod_lt _ (Nat.two_pow_pos k)
        rw [finished] at writing
        refine consistent.accept writing ?_
        rw [consistent.sized.mask, start_eq, RingBuffer.endPos_eq consistent.sized.small below,
          consistent.head, Nat.mod_add_mod, List.length_append]

/-- The consumer sets out to read octets it saw. -/
theorem startRead (consistent : Consistent k released queue) (idle : queue.reader = .idle)
    {count : Nat} (seen : count ≤ queue.ring.available) :
    Consistent k released { queue with reader := .copying count queue.ring.tail 0 } := by
  have delivered := consistent.delivered
  have ordered := consistent.ordered
  rw [consistent.available] at seen
  rw [idle] at delivered
  refine ⟨consistent.sized, consistent.head, consistent.tail, ordered, consistent.holds,
    consistent.room, consistent.writing, ?_, delivered⟩
  rintro _ _ _ ⟨⟩
  exact ⟨rfl, Nat.zero_le _, Nat.add_le_of_le_sub' ordered seen⟩

theorem loadRead (consistent : Consistent k released queue) {maxSize : Nat}
    (run : queue.loadRead maxSize = some target) : Consistent k released target := by
  cases reading : queue.reader with
  | copying => simp [Queue.loadRead, reading] at run
  | idle =>
      simp only [Queue.loadRead, reading] at run
      split at run
      case isTrue =>
        obtain rfl := Option.some.inj run
        exact consistent
      case isFalse =>
        obtain rfl := Option.some.inj run
        exact consistent.startRead reading (Nat.min_le_right ..)

/-- The octet the consumer copies next is the next accepted one. -/
theorem octet_eq (consistent : Consistent k released queue) {count start copied : Nat}
    (reading : queue.reader = .copying count start copied) (more : copied < count) :
    queue.ring.buf[RingBuffer.copyPos queue.ring.mask start count copied]? =
      queue.accepted[released + copied]? := by
  obtain ⟨start_eq, -, within⟩ := consistent.reading count start copied reading
  have sized := consistent.sized
  have room := consistent.room
  have positive := Nat.two_pow_pos k
  have below : queue.ring.tail < 2 ^ k := by
    rw [consistent.tail]
    exact Nat.mod_lt _ positive
  have stored := consistent.holds copied (by
    rw [List.length_append, List.length_drop]
    omega)
  rw [sized.length, List.getElem?_append_left (by rw [List.length_drop]; omega),
    List.getElem?_drop] at stored
  rw [sized.mask, start_eq, RingBuffer.copyPos_eq sized.small below more (by omega),
    consistent.tail, Nat.mod_add_mod]
  exact stored

theorem copyOut (consistent : Consistent k released queue) (run : queue.copyOut = some target) :
    Consistent k released target := by
  cases reading : queue.reader with
  | idle => simp [Queue.copyOut, reading] at run
  | copying count start copied =>
      simp only [Queue.copyOut, reading] at run
      split at run
      case isFalse => cases run
      case isTrue more =>
        obtain rfl := Option.some.inj run
        obtain ⟨start_eq, -, within⟩ := consistent.reading count start copied reading
        have delivered := consistent.delivered
        have octet := consistent.octet_eq reading more
        rw [reading] at delivered
        refine ⟨consistent.sized, consistent.head, consistent.tail, consistent.ordered,
          consistent.holds, consistent.room, consistent.writing, ?_, ?_⟩
        · rintro _ _ _ ⟨⟩
          exact ⟨start_eq, more, within⟩
        · have inside : released + copied < queue.accepted.length := by omega
          change queue.delivered ++ [_] = queue.accepted.take (released + copied + 1)
          rw [List.getD_eq_getElem?_getD, octet, List.getElem?_eq_getElem inside,
            Option.getD_some, delivered]
          exact List.take_append_getElem inside

/-- The octets copied out are released with the new tail. -/
theorem release (consistent : Consistent k released queue) {count start : Nat}
    (reading : queue.reader = .copying count start count) {tail : Nat}
    (tail_eq : tail = (released + count) % 2 ^ k) :
    Consistent k (released + count) { queue with ring.tail := tail, reader := .idle } := by
  obtain ⟨-, -, within⟩ := consistent.reading count start count reading
  have sized := consistent.sized
  have room := consistent.room
  have delivered := consistent.delivered
  have holds := consistent.holds.drop count
  rw [List.drop_append_of_le_length (by rw [List.length_drop]; omega), List.drop_drop] at holds
  rw [reading] at delivered
  refine ⟨⟨sized.positive, sized.small, sized.length, sized.mask, sized.capacity⟩,
    consistent.head, tail_eq, within, holds, ?_, consistent.writing, ?_, delivered⟩
  · change queue.accepted.length + queue.writer.data.length < released + count + 2 ^ k
    omega
  · rintro _ _ _ ⟨⟩

theorem publishTail (consistent : Consistent k released queue)
    (run : queue.publishTail = some target) : ∃ released, Consistent k released target := by
  cases reading : queue.reader with
  | idle => simp [Queue.publishTail, reading] at run
  | copying count start copied =>
      simp only [Queue.publishTail, reading] at run
      split at run
      case isFalse => cases run
      case isTrue finished =>
        obtain rfl := Option.some.inj run
        obtain ⟨start_eq, -⟩ := consistent.reading count start copied reading
        have below : queue.ring.tail < 2 ^ k := by
          rw [consistent.tail]
          exact Nat.mod_lt _ (Nat.two_pow_pos k)
        rw [finished] at reading
        refine ⟨_, consistent.release reading ?_⟩
        rw [consistent.sized.mask, start_eq, RingBuffer.endPos_eq consistent.sized.small below,
          consistent.tail, Nat.mod_add_mod]

/-- One step of either side. -/
theorem step (consistent : Consistent k released queue) {event : QueueStep}
    (run : machine.step queue event = some target) : ∃ released, Consistent k released target := by
  cases event with
  | loadWrite => exact ⟨released, consistent.loadWrite run⟩
  | copyIn => exact ⟨released, consistent.copyIn run⟩
  | publishHead => exact ⟨released, consistent.publishHead run⟩
  | loadRead => exact ⟨released, consistent.loadRead run⟩
  | copyOut => exact ⟨released, consistent.copyOut run⟩
  | publishTail => exact consistent.publishTail run

end Consistent

/-- A new buffer whose size is a power of two. -/
theorem initial_consistent {capacity k : Nat} (positive : 0 < k) (small : k ≤ 63)
    (size : physicalSize capacity = 2 ^ k) : Consistent k 0 (initial capacity) := by
  obtain ⟨low, high⟩ := RingBuffer.pow_bounds small
  have mask : sizeSub (2 ^ k) 1 = 2 ^ k - 1 := by
    rw [sizeSub]
    generalize 2 ^ k = size at *
    omega
  refine ⟨⟨positive, small, ?_, ?_, ?_⟩, (Nat.zero_mod _).symm, (Nat.zero_mod _).symm, le_rfl,
    Holds.nil _ _, ?_, ?_, ?_, rfl⟩
  · rw [initial, RingBuffer.make, size, List.length_replicate]
  · rw [initial, RingBuffer.make, size, mask]
  · rw [initial, RingBuffer.make, size, mask]
  · exact Nat.lt_add_left 0 low
  · rintro _ _ _ ⟨⟩
  · rintro _ _ _ ⟨⟩

/-! ## The queue property -/

/-- Reads are in order, and the free space is computed without a wrap. -/
structure Sound (queue : Queue) : Prop where
  in_order : queue.delivered <+: queue.accepted
  available_le : queue.ring.available ≤ queue.ring.capacity
  free_add_available : queue.ring.freeSpace + queue.ring.available = queue.ring.capacity

theorem Consistent.sound {k released : Nat} {queue : Queue}
    (consistent : Consistent k released queue) : queue.Sound := by
  refine ⟨?_, consistent.available_le, ?_⟩
  · rw [consistent.delivered]
    exact List.take_prefix ..
  · rw [RingBuffer.freeSpace_eq consistent.sized consistent.available_le]
    exact Nat.sub_add_cancel consistent.available_le

/-- Every interleaving keeps the invariant. -/
theorem run_consistent {capacity k : Nat} (positive : 0 < k) (small : k ≤ 63)
    (size : physicalSize capacity = 2 ^ k) {events : List QueueStep} {queue : Queue}
    (run : machine.Run (fun _ _ _ => True) (initial capacity) events queue) :
    ∃ released, Consistent k released queue := by
  refine run.invariant (fun _ state => ∃ released, Consistent k released state)
    ⟨0, initial_consistent positive small size⟩ ?_
  rintro past source target event ⟨released, consistent⟩ stepped -
  exact consistent.step stepped

/-- A buffer whose size was cut to zero: every copy lies outside it, so the
octet read is not the one written. -/
theorem empty_buffer_misreads {capacity : Nat} (size : physicalSize capacity = 0) :
    ∃ events queue, machine.Run (fun _ _ _ => True) (initial capacity) events queue ∧
      queue.accepted = [7] ∧ queue.delivered = [0] := by
  let last : Nat := 2 ^ 64 - 1
  let emptied : Queue := { ring := { buf := [], mask := last, capacity := last } }
  have start : initial capacity = emptied := by
    rw [initial, RingBuffer.make, size]
    with_unfolding_all decide
  let events : List QueueStep := [.loadWrite [7], .copyIn, .publishHead, .loadRead 1, .copyOut]
  obtain ⟨queue, executed⟩ := Option.isSome_iff_exists.mp
    (show (machine.exec (fun _ _ _ => True) emptied events).isSome by with_unfolding_all decide)
  have logs : ∀ queue ∈ machine.exec (fun _ _ _ => True) emptied events,
      queue.accepted = [7] ∧ queue.delivered = [0] := by with_unfolding_all decide
  rw [start]
  exact ⟨events, queue, .exec events .origin executed, logs queue executed⟩

/-- The queue property holds along every interleaving exactly when the requested
capacity can be rounded up to a power of two in 64 bits. -/
theorem sound_iff (capacity : UInt64) :
    (∀ events queue,
      machine.Run (fun _ _ _ => True) (initial capacity.toNat) events queue → queue.Sound) ↔
      capacity.toNat ≤ 2 ^ 63 := by
  constructor
  · intro sound
    by_contra large
    obtain ⟨events, queue, run, accepted, delivered⟩ :=
      empty_buffer_misreads (physicalSize_zero (not_le.mp large) capacity.toNat_lt)
    have ordered := (sound events queue run).in_order
    rw [accepted, delivered] at ordered
    exact absurd ordered (by decide)
  · intro small events queue run
    obtain ⟨k, positive, bounded, size⟩ := physicalSize_eq small
    obtain ⟨released, consistent⟩ := run_consistent positive bounded size run
    exact consistent.sound

/-- The smallest capacity whose rounding overflows. -/
theorem overflowing_capacity_misreads :
    ∃ events queue,
      machine.Run (fun _ _ _ => True) (initial (2 ^ 63 + 1)) events queue ∧
      ¬ queue.delivered <+: queue.accepted := by
  have size : physicalSize (2 ^ 63 + 1) = 0 := physicalSize_zero (by omega) (by omega)
  obtain ⟨events, queue, run, accepted, delivered⟩ := empty_buffer_misreads size
  refine ⟨events, queue, run, ?_⟩
  rw [accepted, delivered]
  decide

end Queue

end Bitstream

end Gsml3
