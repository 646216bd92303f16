import Gsml3.Foundation.Machine

/-!
# Ring buffer

The byte queue between one producer and one consumer.  Each side loads both
indexes, copies octets in at most two segments and then publishes its own index;
`Queue` interleaves these steps, octet by octet, and logs the octets accepted by
finished writes and the octets read so far.

Sizes and indexes are 64-bit as in the source.  A copy outside the buffer, which
the source leaves undefined, changes nothing here and reads zero.
-/

namespace Gsml3

namespace Bitstream

/-- Difference of two sizes, modulo `2 ^ 64`. -/
@[irreducible] def sizeSub (m n : Nat) : Nat :=
  (m + 2 ^ 64 - n) % 2 ^ 64

/-- The or-shift cascade of the constructor: all bits below the top one are
set. -/
def smear (cap : Nat) : Nat :=
  let cap := cap ||| cap >>> 1
  let cap := cap ||| cap >>> 2
  let cap := cap ||| cap >>> 4
  let cap := cap ||| cap >>> 8
  let cap := cap ||| cap >>> 16
  cap ||| cap >>> 32

/-- The physical size the constructor rounds a requested capacity up to. -/
def physicalSize (capacity : Nat) : Nat :=
  (smear ((if capacity < 2 then 2 else capacity) - 1) + 1) % 2 ^ 64

/-- The buffer with the positions of its reader and its writer. -/
structure RingBuffer where
  buf : List UInt8
  head : Nat := 0
  tail : Nat := 0
  mask : Nat
  capacity : Nat
deriving DecidableEq, Repr

namespace RingBuffer

/-- The constructor. -/
def make (capacity : Nat) : RingBuffer :=
  let cap := physicalSize capacity
  { buf := List.replicate cap 0, mask := sizeSub cap 1, capacity := sizeSub cap 1 }

/-- Number of octets between two index values. -/
def available (ring : RingBuffer) : Nat :=
  if ring.tail ≤ ring.head then ring.head - ring.tail
  else (sizeSub ((ring.mask + 1) % 2 ^ 64) ring.tail + ring.head) % 2 ^ 64

/-- The octets that can be written, in 64 bits. -/
def freeSpace (ring : RingBuffer) : Nat :=
  sizeSub ring.capacity ring.available

/-- Length of the segment up to the end of the buffer. -/
def firstSegment (mask start len : Nat) : Nat :=
  min (sizeSub ((mask + 1) % 2 ^ 64) start) len

/-- Where octet `i` of a copy of `len` octets from `start` on lies. -/
@[irreducible] def copyPos (mask start len i : Nat) : Nat :=
  let first := firstSegment mask start len
  if i < first then start + i else ((start + first) &&& mask) + (i - first)

/-- The index after a copy. -/
@[irreducible] def endPos (mask start len : Nat) : Nat :=
  let first := firstSegment mask start len
  let next := (start + first) &&& mask
  if 0 < len - first then (next + (len - first)) &&& mask else next

end RingBuffer

/-! ## Interleaved steps -/

/-- Where the producer is in `write`; `data` is cut to the free space it saw. -/
inductive Writer where
  | idle
  | copying (data : List UInt8) (start copied : Nat)
deriving DecidableEq, Repr

/-- Where the consumer is in `read`. -/
inductive Reader where
  | idle
  | copying (count start copied : Nat)
deriving DecidableEq, Repr

/-- The buffer with the progress of the call of each side, and what went through. -/
structure Queue where
  ring : RingBuffer
  writer : Writer := .idle
  reader : Reader := .idle
  accepted : List UInt8 := []
  delivered : List UInt8 := []
deriving DecidableEq, Repr

/-- A step of the producer or of the consumer. -/
inductive QueueStep where
  | loadWrite (data : List UInt8)
  | copyIn
  | publishHead
  | loadRead (maxSize : Nat)
  | copyOut
  | publishTail
deriving DecidableEq, Repr

namespace Queue

/-- `write` up to the copy: without free space it returns. -/
def loadWrite (queue : Queue) (data : List UInt8) : Option Queue :=
  match queue.writer with
  | .idle =>
      let free := queue.ring.freeSpace
      if free = 0 then some queue
      else some { queue with writer := .copying (data.take free) queue.ring.head 0 }
  | .copying .. => none

/-- The writer stores its next octet. -/
def copyIn (queue : Queue) : Option Queue :=
  match queue.writer with
  | .copying data start copied =>
      data[copied]?.map fun octet =>
        { queue with
          ring.buf := queue.ring.buf.set
            (RingBuffer.copyPos queue.ring.mask start data.length copied) octet
          writer := .copying data start (copied + 1) }
  | .idle => none

/-- The writer makes its octets visible and is done. -/
def publishHead (queue : Queue) : Option Queue :=
  match queue.writer with
  | .copying data start copied =>
      if copied = data.length then
        some { queue with
          ring.head := RingBuffer.endPos queue.ring.mask start data.length
          writer := .idle
          accepted := queue.accepted ++ data }
      else none
  | .idle => none

/-- `read` up to the copy: without octets it returns. -/
def loadRead (queue : Queue) (maxSize : Nat) : Option Queue :=
  match queue.reader with
  | .idle =>
      let avail := queue.ring.available
      if avail = 0 then some queue
      else some { queue with reader := .copying (min maxSize avail) queue.ring.tail 0 }
  | .copying .. => none

/-- The reader fetches its next octet. -/
def copyOut (queue : Queue) : Option Queue :=
  match queue.reader with
  | .copying count start copied =>
      if copied < count then
        some { queue with
          reader := .copying count start (copied + 1)
          delivered := queue.delivered ++
            [queue.ring.buf.getD (RingBuffer.copyPos queue.ring.mask start count copied) 0] }
      else none
  | .idle => none

/-- The reader gives the octets up and is done. -/
def publishTail (queue : Queue) : Option Queue :=
  match queue.reader with
  | .copying count start copied =>
      if copied = count then
        some { queue with
          ring.tail := RingBuffer.endPos queue.ring.mask start count
          reader := .idle }
      else none
  | .idle => none

/-- The two sides as one machine. -/
def machine : Foundation.Machine Queue QueueStep where
  step := fun queue event => match event with
    | .loadWrite data => queue.loadWrite data
    | .copyIn => queue.copyIn
    | .publishHead => queue.publishHead
    | .loadRead maxSize => queue.loadRead maxSize
    | .copyOut => queue.copyOut
    | .publishTail => queue.publishTail

/-- A queue over a new buffer. -/
def initial (capacity : Nat) : Queue :=
  { ring := RingBuffer.make capacity }

end Queue

end Bitstream

end Gsml3
