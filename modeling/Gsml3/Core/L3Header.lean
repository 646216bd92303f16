import Gsml3.Core.BitRoundTrip

/-!
# Layer 3 headers

The two octets in front of a standard message: discriminator, transaction and message type.
`writeL3Body` writes a message behind its header; the bit writer of the body neither clears the
buffer nor reports an overflow.
-/

namespace Gsml3

open Foundation (bitString bitString_drop bitString_take octetGroups)

/-! ## Parsing -/

/-- The fields of the two header octets. -/
structure L3Header where
  pd : Nat
  mti : Nat
  ti : Nat
  tif : Bool
deriving DecidableEq, Repr

/-- `kRRTifShortBase`. -/
def kRRTifShortBase : Nat := 0x100

/-- The protocol discriminators with a message type of six bits. -/
def hasNetworkIndicator (pd : Nat) : Bool :=
  pd = 0x05 ∨ pd = 0x03 ∨ pd = 0x0b ∨ pd = 0x01 ∨ pd = 0x00

/-- The header of a message, which needs two octets. -/
def parseL3Header (data : List UInt8) : Except ParseError L3Header :=
  match data with
  | byte0 :: byte1 :: _ =>
      let pd := byte0.toNat &&& 0x0F
      let tif : Bool := byte0.toNat >>> 4 &&& 0x01 ≠ 0
      if pd = 0x02 ∨ pd = 0x04 ∨ pd = 0x07 then
        .error { code := .invalidPD, message := "Reserved Protocol Discriminator" }
      else
        .ok
          { pd := pd
            ti := byte0.toNat >>> 5 &&& 0x07
            tif := tif
            mti :=
              if hasNetworkIndicator pd then byte1.toNat &&& 0x3F
              else if pd = 0x06 ∧ tif then kRRTifShortBase ||| (byte1.toNat &&& 0x1F)
              else if pd = 0x09 then byte1.toNat &&& 0x1F
              else byte1.toNat }
  | _ => .error { code := .truncatedInput, message := "L3 header requires at least 2 bytes" }

/-! ## Writing -/

/-- Messages without a standard header. -/
def isNoHeaderShort (mti : Nat) : Bool :=
  0x181 ≤ mti

/-- Short messages of radio resources carry the transaction indicator flag. -/
def isTifShort (mti : Nat) : Bool :=
  kRRTifShortBase ≤ mti ∧ mti < kRRTifShortBase + 16

/-- The octets of a header. -/
def encodeL3Header (pd mti ti : Nat) (tif : Bool) : UInt8 × UInt8 :=
  let octet1 :=
    if isTifShort mti ∧ pd = 0x06 then mti &&& 0x1F
    else if hasNetworkIndicator pd then mti &&& 0x3F
    else mti &&& 0xFF
  (UInt8.ofNat ((ti &&& 0x07) <<< 5 ||| (if tif then 0x10 else 0) ||| (pd &&& 0x0F)),
    UInt8.ofNat octet1)

/-- What a message is written with: its header fields, the length it announces and the calls
of its `write` on the bit writer. -/
structure L3Encoding where
  pd : Nat
  mti : Nat
  ti : Nat := 0
  bodyLength : Nat
  fields : List BitWriter.Op
deriving DecidableEq, Repr

namespace L3Encoding

/-- The octets of the message with its header. -/
def wireLength (msg : L3Encoding) : Nat :=
  if isNoHeaderShort msg.mti then msg.bodyLength else 2 + msg.bodyLength

/-- The writer of the body after `write`. -/
def writeBody (msg : L3Encoding) (out : List UInt8) : BitWriter :=
  BitWriter.write { buf := out, bits := msg.bodyLength * 8 } msg.fields

/-- The error of a buffer that the message does not fit. -/
def outputTooSmall : ParseError where
  code := .bufferTooSmall
  message := "output buffer too small"

/-- The buffer after the call, and the number of octets written. -/
def writeL3Body (msg : L3Encoding) (out : List UInt8) : Except ParseError (List UInt8 × Nat) :=
  if out.length < msg.wireLength then .error outputTooSmall
  else if isNoHeaderShort msg.mti then .ok ((msg.writeBody out).buf, msg.bodyLength)
  else
    let (octet0, octet1) := encodeL3Header msg.pd msg.mti msg.ti (isTifShort msg.mti)
    .ok (octet0 :: octet1 :: (msg.writeBody (out.drop 2)).buf, 2 + msg.bodyLength)

/-! ## What is written -/

/-- `bodyLength` counts what `write` writes. -/
structure Exact (msg : L3Encoding) : Prop where
  size : ∀ data, .writeBytes data ∈ msg.fields → msg.bodyLength * 8 < 2 ^ 64
  fields : BitWriter.endPos 0 msg.fields = msg.bodyLength * 8

/-- The header octets; a message of the short form has none. -/
def header (msg : L3Encoding) : List UInt8 :=
  if isNoHeaderShort msg.mti then []
  else
    let (octet0, octet1) := encodeL3Header msg.pd msg.mti msg.ti (isTifShort msg.mti)
    [octet0, octet1]

/-- The octets that the fields of the body give. -/
def body (msg : L3Encoding) : List UInt8 :=
  octetGroups msg.bodyLength (BitWriter.fields 0 msg.fields)

/-- The octets of the message. -/
def octets (msg : L3Encoding) : List UInt8 :=
  msg.header ++ msg.body

variable {msg : L3Encoding} {out : List UInt8}

theorem body_length (msg : L3Encoding) : msg.body.length = msg.bodyLength := by
  rw [body, Foundation.octetGroups_eq_map, List.length_map, List.length_range]

theorem octets_length (msg : L3Encoding) : msg.octets.length = msg.wireLength := by
  rw [octets, List.length_append, body_length, header, wireLength]
  split
  · exact Nat.zero_add _
  · rfl

theorem octets_of_bits (octets : List UInt8) :
    octetGroups octets.length (bitString octets) = octets := by
  have back := Foundation.octetGroups_bitString octets []
  rwa [List.append_nil] at back

/-- The writer ends behind the body, with nothing of the buffer left in it. -/
theorem Exact.writeBody (exact : msg.Exact) (room : msg.bodyLength ≤ out.length) :
    (msg.writeBody out).pos = msg.bodyLength * 8 ∧
      (msg.writeBody out).buf = msg.body ++ out.drop msg.bodyLength := by
  have total := exact.fields
  have covered : BitWriter.Covered { buf := out, bits := msg.bodyLength * 8 } := by
    change msg.bodyLength * 8 ≤ 8 * out.length
    omega
  have wrote := BitWriter.write_wrote covered msg.fields exact.size total.le
  have count := BitWriter.fields_length 0 msg.fields
  rw [total, Nat.zero_add] at count
  have pos : (msg.writeBody out).pos = 0 + (BitWriter.fields 0 msg.fields).length := wrote.pos
  have length : (msg.writeBody out).buf.length = out.length := wrote.length
  have buf : bitString (msg.writeBody out).buf =
      BitWriter.fields 0 msg.fields ++ bitString (out.drop msg.bodyLength) := by
    rw [bitString_drop, Nat.mul_comm, ← count, ← Nat.zero_add (BitWriter.fields 0 _).length]
    exact wrote.buf
  rw [Nat.zero_add, count] at pos
  have front : (msg.writeBody out).buf.take msg.bodyLength = msg.body := by
    have inside : ((msg.writeBody out).buf.take msg.bodyLength).length = msg.bodyLength := by
      rw [List.length_take, length, Nat.min_eq_left room]
    rw [← octets_of_bits ((msg.writeBody out).buf.take msg.bodyLength), inside,
      bitString_take, buf, List.take_left' (by omega), body]
  have back : (msg.writeBody out).buf.drop msg.bodyLength = out.drop msg.bodyLength := by
    rw [← octets_of_bits ((msg.writeBody out).buf.drop msg.bodyLength),
      ← octets_of_bits (out.drop msg.bodyLength), bitString_drop, buf,
      List.drop_left' (by omega), List.length_drop, List.length_drop, length]
  refine ⟨pos, ?_⟩
  rw [← front, ← back, List.take_append_drop]

/-- A message is written in front of what stays of the buffer. -/
theorem Exact.writeL3Body (exact : msg.Exact) (room : msg.wireLength ≤ out.length) :
    msg.writeL3Body out = .ok (msg.octets ++ out.drop msg.wireLength, msg.wireLength) := by
  rw [L3Encoding.writeL3Body, if_neg (not_lt.mpr room), octets, header]
  rw [wireLength] at room ⊢
  split
  case isTrue short =>
    rw [if_pos short] at room
    rw [(exact.writeBody room).2]
    rfl
  case isFalse standard =>
    rw [if_neg standard] at room
    have body : (msg.writeBody (out.drop 2)).buf = msg.body ++ (out.drop 2).drop msg.bodyLength :=
      (exact.writeBody (by rw [List.length_drop]; omega)).2
    rw [List.drop_drop] at body
    simp only [body]
    rfl

/-- What is written does not depend on the buffer. -/
theorem Exact.written {buffer : List UInt8} {n : Nat} (exact : msg.Exact)
    (written : msg.writeL3Body out = .ok (buffer, n)) :
    n = msg.wireLength ∧ buffer.take n = msg.octets := by
  have room : msg.wireLength ≤ out.length := by
    by_contra small
    rw [L3Encoding.writeL3Body, if_pos (not_le.mp small)] at written
    cases written
  rw [exact.writeL3Body room] at written
  obtain ⟨rfl, rfl⟩ := Prod.mk.inj (Except.ok.inj written)
  exact ⟨rfl, List.take_left' msg.octets_length⟩

end L3Encoding

end Gsml3
