import Gsml3.Foundation.BitString

/-!
# Bit writer

`BitWriter` sets single bits of octets it does not clear first, and copies whole
octets at octet boundaries.  An octet outside the buffer is not written.
-/

namespace Gsml3

/-- A buffer of `bits` bits and the position in it. -/
structure BitWriter where
  buf : List UInt8
  bits : Nat
  pos : Nat := 0
deriving DecidableEq, Repr

namespace BitWriter

/-- Set one bit of an octet; bit 7 is the most significant one. -/
def setBit (octet : UInt8) (bitIdx : Nat) (bit : Bool) : UInt8 :=
  if bit then octet ||| UInt8.ofNat (1 <<< bitIdx) else octet &&& ~~~UInt8.ofNat (1 <<< bitIdx)

/-- Write one bit and advance. -/
def putBit (writer : BitWriter) (bit : Bool) : BitWriter :=
  { writer with
    buf := writer.buf.modify (writer.pos / 8) fun octet =>
      setBit octet (7 - writer.pos % 8) bit
    pos := writer.pos + 1 }

/-- The loop of `writeField`: it ends early behind the last bit. -/
def writeBits (writer : BitWriter) (value : UInt32) : Nat → BitWriter
  | 0 => writer
  | i + 1 =>
      if writer.bits ≤ writer.pos then writer
      else (writer.putBit (value.toNat.testBit i)).writeBits value i

/-- A field of at most 32 bits, the highest bit first. -/
def writeField (writer : BitWriter) (value : UInt32) (nbits : Nat) : BitWriter :=
  writer.writeBits value (min nbits 32)

/-- A field of eight bits. -/
def writeOctet (writer : BitWriter) (v : UInt8) : BitWriter :=
  writer.writeField v.toUInt32 8

/-- Octets, copied as a whole at an octet boundary. -/
def writeBytes (writer : BitWriter) (data : List UInt8) : BitWriter :=
  if data.length = 0 then writer
  else if writer.pos % 8 = 0 ∧ (writer.pos + data.length * 8) % 2 ^ 64 ≤ writer.bits then
    { writer with
      buf := writer.buf.take (writer.pos / 8) ++ data ++
        writer.buf.drop (writer.pos / 8 + data.length)
      pos := (writer.pos + data.length * 8) % 2 ^ 64 }
  else data.foldl writeOctet writer

/-- Fills the octet up with zeros. -/
def alignToOctet (writer : BitWriter) : BitWriter :=
  let spare := (8 - writer.pos % 8) % 8
  if spare = 0 then writer else writer.writeField 0 spare

/-- A call on a writer. -/
inductive Op where
  | writeField (value : UInt32) (nbits : Nat)
  | writeBytes (data : List UInt8)
  | alignToOctet
deriving DecidableEq, Repr

/-- One operation of the writer. -/
def exec (writer : BitWriter) : Op → BitWriter
  | .writeField value nbits => writer.writeField value nbits
  | .writeBytes data => writer.writeBytes data
  | .alignToOctet => writer.alignToOctet

/-- A list of calls. -/
def write (writer : BitWriter) (ops : List Op) : BitWriter :=
  ops.foldl exec writer

end BitWriter

end Gsml3
