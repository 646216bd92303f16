import Gsml3.Foundation.Machine
import Gsml3.Core.Types

/-!
# Bit reader

`BitReader` reads fields from the most significant bit of each octet on.  Its
fields are sizes of 64 bits; the octet loads count in 32 bits, as in the source.
An octet outside the buffer reads as zero, and a shift by a negative count,
which the source leaves undefined, is a shift by zero.
-/

namespace Gsml3

/-- The position in a buffer of bits, as a bit count and as octet and offset. -/
structure BitReader where
  buf : Option (List UInt8)
  totalBits : Nat
  pos : Nat := 0
  byteIndex : Nat := 0
  bitOffset : Nat := 0
deriving DecidableEq, Repr

namespace BitReader

/-- Load up to `n` octets from `start` on as a big-endian number, with the number
of octets loaded. -/
def loadN (buf : List UInt8) (start totalBytes n : Nat) : Nat × Nat :=
  let s := start % 2 ^ 32
  let m := totalBytes % 2 ^ 32
  let e := min ((s + n) % 2 ^ 32) m
  ((List.range' s (e - s)).foldl
    (fun val i => (val <<< 8 ||| (buf.getD i 0).toNat) % 2 ^ 32) 0, e - s)

/-- Number of octets a field of `nbits` bits spans from bit `bitOff` of the first
one on. -/
def fieldSpanBytes (bitOff nbits : Nat) : Nat :=
  if nbits = 0 then 0 else (bitOff + nbits - 1) / 8 + 1

/-- The octets of the buffer; a null buffer has none. -/
def octets (reader : BitReader) : List UInt8 :=
  reader.buf.getD []

/-- Number of octets that hold the bits. -/
def bitBytes (reader : BitReader) : Nat :=
  (reader.totalBits + 7) % 2 ^ 64 / 8

/-- The octets of the buffer. -/
def totalBytes (reader : BitReader) : Nat :=
  match reader.buf with
  | none => 0
  | some _ => reader.bitBytes

/-- The octets that hold what is left, in 32 bits. -/
def remainingBytes (reader : BitReader) : Nat :=
  (reader.totalBits + 2 ^ 64 - reader.pos + 7) % 2 ^ 64 / 8 % 2 ^ 32

/-- The mask of a field of `nbits` bits. -/
def fieldMask (nbits : Nat) : Nat :=
  (2 ^ 32 - 1) >>> (32 - nbits)

/-- The field of `nbits` bits at the position, as `readField` and `peekField`
both load it; `peekField` returns early when no octet is loaded, where this is
zero as well. -/
def fieldValue (reader : BitReader) (nbits : Nat) : Nat :=
  let load := fun start n => loadN reader.octets start reader.totalBytes n
  if reader.bitOffset = 0 then
    let (loaded, actual) := load reader.byteIndex (min (fieldSpanBytes 0 nbits) 4)
    (loaded >>> (actual * 8 - nbits)) &&& fieldMask nbits
  else
    let needBytes := fieldSpanBytes reader.bitOffset nbits
    if needBytes ≤ reader.remainingBytes ∧ needBytes ≤ 4 then
      let (loaded, actual) := load reader.byteIndex needBytes
      (loaded >>> (actual * 8 - reader.bitOffset - nbits)) &&& fieldMask nbits
    else if reader.bitOffset + nbits ≤ 32 then
      let (loaded, actual) := load reader.byteIndex (min needBytes 4)
      (loaded >>> (actual * 8 - reader.bitOffset - nbits)) &&& fieldMask nbits
    else
      let lo := (load reader.byteIndex 4).1
      let hi := (load (reader.byteIndex + 4) 1).1
      ((lo <<< 8 ||| hi) >>> (40 - reader.bitOffset - nbits)) &&& fieldMask nbits

/-- Set the position and the two fields derived from it. -/
def seek (reader : BitReader) (pos : Nat) : BitReader :=
  { reader with pos := pos, byteIndex := pos / 8, bitOffset := pos % 8 }

/-- The error of a reader without buffer. -/
def nullBuffer (reader : BitReader) : ParseError where
  code := .truncatedInput
  message := "null buffer"
  bitPosition := reader.pos

/-- The error of a read beyond the end. -/
def readPastEnd (reader : BitReader) : ParseError where
  code := .truncatedInput
  message := "read past end"
  bitPosition := reader.pos

/-- A field of up to 32 bits, the first bit highest. -/
def readField (reader : BitReader) (nbits : Nat) : BitReader × Except ParseError Nat :=
  if nbits = 0 then (reader, .ok 0)
  else if reader.buf = none then (reader, .error reader.nullBuffer)
  else if 32 < nbits then
    (reader, .error { code := .invalidValue, message := "field too large" })
  else if reader.totalBits < (reader.pos + nbits) % 2 ^ 64 then
    (reader, .error reader.readPastEnd)
  else (reader.seek ((reader.pos + nbits) % 2 ^ 64), .ok (reader.fieldValue nbits))

/-- The value of a field without moving; bits beyond the end are left out. -/
def peekField (reader : BitReader) (nbits : Nat) : Nat :=
  if nbits = 0 then 0
  else
    let nbits := min nbits 32
    let limit := min ((reader.pos + nbits) % 2 ^ 64) reader.totalBits
    let actualNbits := (limit + 2 ^ 64 - reader.pos) % 2 ^ 32
    if actualNbits = 0 then 0
    else reader.fieldValue actualNbits <<< (nbits - actualNbits) % 2 ^ 32

/-- Moves to the next octet boundary, not beyond the end. -/
def alignToOctet (reader : BitReader) : BitReader :=
  if reader.pos % 8 = 0 then reader.seek reader.pos
  else reader.seek (min (reader.pos + (8 - reader.pos % 8)) reader.totalBits)

/-- The loop of `readBytes` at a position inside an octet, with `left` octets to
read; each round takes at least one, so `rounds = left` rounds are enough. -/
def readChunks : Nat → BitReader → List UInt8 → Nat →
    BitReader × List UInt8 × Except ParseError Unit
  | 0, reader, out, _ => (reader, out, .ok ())
  | rounds + 1, reader, out, left =>
      if left = 0 then (reader, out, .ok ())
      else
        let bitOff := reader.pos % 8
        let takeBytes := min left 3
        let needBytes := fieldSpanBytes bitOff (takeBytes * 8)
        if needBytes ≤ reader.remainingBytes ∧ needBytes ≤ 4 then
          let (loaded, actual) :=
            loadN reader.octets reader.byteIndex reader.totalBytes needBytes
          let chunk := (List.range takeBytes).map fun i =>
            UInt8.ofNat (loaded >>> (actual * 8 - bitOff - (i + 1) * 8))
          let pos := (reader.pos + takeBytes * 8) % 2 ^ 64
          readChunks rounds { reader with pos := pos, byteIndex := pos / 8 } (out ++ chunk)
            (left - takeBytes)
        else
          match reader.readField 8 with
          | (reader, .error error) => (reader, out, .error error)
          | (reader, .ok value) =>
              readChunks rounds reader (out ++ [UInt8.ofNat value]) (left - 1)

/-- Read `count` octets: the reader after it, the octets written to the output
and the result. -/
def readBytes (reader : BitReader) (count : Nat) :
    BitReader × List UInt8 × Except ParseError Unit :=
  if count = 0 then (reader, [], .ok ())
  else if reader.buf = none then (reader, [], .error reader.nullBuffer)
  else if reader.bitBytes < (reader.pos / 8 + count) % 2 ^ 64 then
    (reader, [], .error reader.readPastEnd)
  else if reader.bitOffset = 0 then
    ({ reader with
        pos := (reader.pos + count * 8) % 2 ^ 64
        byteIndex := (reader.byteIndex + count) % 2 ^ 64 },
      (reader.octets.drop reader.byteIndex).take count, .ok ())
  else
    match readChunks count reader [] count with
    | (reader, out, .error error) => (reader, out, .error error)
    | (reader, out, .ok ()) => ({ reader with bitOffset := reader.pos % 8 }, out, .ok ())

/-! ## Runs -/

/-- A call on a reader. -/
inductive Op where
  | readField (nbits : Nat)
  | peekField (nbits : Nat)
  | readBytes (count : Nat)
  | alignToOctet
deriving DecidableEq, Repr

/-- What a successful call returns. -/
inductive Result where
  | field (value : Nat)
  | octets (out : List UInt8)
  | done
deriving DecidableEq, Repr

/-- One call of the reader and what it returns. -/
def exec (reader : BitReader) : Op → BitReader × Except ParseError Result
  | .readField nbits =>
      let (next, result) := reader.readField nbits
      (next, result.map .field)
  | .peekField nbits => (reader, .ok (.field (reader.peekField nbits)))
  | .readBytes count =>
      let (next, out, result) := reader.readBytes count
      (next, result.map fun _ => .octets out)
  | .alignToOctet => (reader.alignToOctet, .ok .done)

/-- An event is a call with the result it returned, `none` for an error. -/
def machine : Foundation.Machine BitReader (Op × Option Result) where
  step := fun reader event =>
    let (next, result) := reader.exec event.1
    if result.toOption = event.2 then some next else none

/-- A reader of the first `nbits` bits of a buffer. -/
def make (buf : Option (List UInt8)) (nbits : Nat) : BitReader :=
  { buf := buf, totalBits := nbits }

end BitReader

end Gsml3
