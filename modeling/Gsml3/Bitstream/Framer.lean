import Gsml3.Foundation.Machine
import Gsml3.Core.Types

/-!
# Framers

`L3Framer` cuts the octets of a source into layer 3 frames, by a length octet
before each frame or by the headers in the stream; it buffers what it reads and
caches how far it has looked for a header.  `InlineFramer` cuts a buffer in
memory in the same two ways.

`data` holds the octets of the buffer up to its end mark; an octet behind it
reads as zero.  Sizes and positions are 64-bit where the source adds to them.
-/

namespace Gsml3

namespace Bitstream

/-! ## Sources -/

/-- A source of octets, as the portions its reads deliver; an empty portion is a
read without data.  A live source is never at its end. -/
structure ByteSource where
  chunks : List (List UInt8)
  live : Bool := false
deriving DecidableEq, Repr

namespace ByteSource

/-- The octets still to come. -/
def rest (source : ByteSource) : List UInt8 :=
  source.chunks.flatten

/-- Read at most `maxSize` octets. -/
def read (source : ByteSource) (maxSize : Nat) : List UInt8 × ByteSource :=
  match source.chunks with
  | [] => ([], source)
  | chunk :: chunks =>
      if chunk.length ≤ maxSize then (chunk, { source with chunks := chunks })
      else (chunk.take maxSize, { source with chunks := chunk.drop maxSize :: chunks })

/-- Whether nothing more can come. -/
def atEof (source : ByteSource) : Bool :=
  !source.live && source.rest.isEmpty

/-- `SpanByteSource`: a buffer in memory. -/
def span (data : List UInt8) : ByteSource :=
  { chunks := [data] }

end ByteSource

/-! ## Headers -/

/-- `kFixedFrameEntries`: discriminator, message type and length of the messages
of fixed length. -/
def fixedFrameEntries : List (Nat × Nat × Nat) :=
  [ (0x06, 0x12, 3), (0x06, 0x13, 2), (0x06, 0x29, 3), (0x06, 0x2F, 3), (0x06, 0x35, 3),
    (0x05, 0x21, 2), (0x05, 0x22, 3), (0x05, 0x23, 2), (0x05, 0x29, 2), (0x05, 0x31, 3),
    (0x03, 0x3D, 6), (0x03, 0x3E, 3),
    (0x01, 0x04, 2), (0x01, 0x09, 2),
    (0x00, 0x03, 2),
    (0xFF, 0, 0) ]

/-- Length of a message of fixed length, zero for any other. -/
def fixedFrameLength (pd mti : Nat) : Nat :=
  match fixedFrameEntries.find? fun entry => entry.1 == pd && entry.2.1 == mti with
  | some entry => entry.2.2
  | none => 0

/-- The offset of a message type of the short form. -/
def rrTifShortBase : Nat := 0x100

/-- The protocol discriminator in the first octet of a header. -/
def discriminator (b0 : UInt8) : Nat :=
  b0.toNat &&& 0x0F

/-- The message type, as the table of fixed lengths has it. -/
def internalMti (b0 b1 : UInt8) : Nat :=
  let pd := discriminator b0
  if pd = 0x05 ∨ pd = 0x03 ∨ pd = 0x0b ∨ pd = 0x01 ∨ pd = 0x00 then b1.toNat &&& 0x3F
  else if pd = 0x06 ∧ b0.toNat &&& 0x10 ≠ 0 then rrTifShortBase ||| (b1.toNat &&& 0x1F)
  else b1.toNat

/-- The octet can start a header: its discriminator is not a reserved one. -/
def plausibleHeader (octet : UInt8) : Bool :=
  [0x00, 0x01, 0x03, 0x05, 0x06, 0x08, 0x09, 0x0a, 0x0b, 0x0c, 0x0d, 0x0e, 0x0f].contains
    (discriminator octet)

/-- `parseL3Header`, with its discriminator for the header: it refuses short data
and the reserved discriminators. -/
def parseL3Header (data : List UInt8) : Except ParseError Nat :=
  if data.length < 2 then
    .error { code := .truncatedInput, message := "L3 header requires at least 2 bytes" }
  else
    let pd := discriminator (data.getD 0 0)
    if pd = 0x02 ∨ pd = 0x04 ∨ pd = 0x07 then
      .error { code := .invalidPD, message := "Reserved Protocol Discriminator" }
    else .ok pd

/-! ## The buffered framer -/

/-- How frames are delimited, and the bounds on their lengths. -/
structure FrameConfig where
  useL2Length : Bool := true
  maxMessageLength : Nat := 4096
  minHeaderLength : Nat := 2
deriving DecidableEq, Repr

/-- A frame and the length that was announced for it. -/
structure ExtractedFrame where
  data : List UInt8
  l2Length : Nat
deriving DecidableEq, Repr

/-- `size` is the size of the allocated buffer. -/
structure L3Framer where
  source : ByteSource
  config : FrameConfig := {}
  data : List UInt8 := []
  size : Nat := 4096
  pos : Nat := 0
  boundaryScanPos : Nat := 0
deriving DecidableEq, Repr

namespace L3Framer

/-- The octet `i` of the buffered data. -/
def octet (framer : L3Framer) (i : Nat) : UInt8 :=
  framer.data.getD i 0

/-- Number of octets buffered and not consumed. -/
def buffered (framer : L3Framer) : Nat :=
  framer.data.length - framer.pos

/-- Shift the octets not consumed to the front, when enough were consumed; the
scan position moves with them. -/
def compact (framer : L3Framer) : L3Framer :=
  if 1024 < framer.pos then
    { framer with
      data := framer.data.drop framer.pos
      boundaryScanPos :=
        if 0 < framer.boundaryScanPos then
          (framer.boundaryScanPos + 2 ^ 64 - framer.pos) % 2 ^ 64
        else 0
      pos := 0 }
  else framer

/-- Grow a full buffer. -/
def ensureCapacity (framer : L3Framer) : L3Framer :=
  if framer.size ≤ framer.data.length then
    let target := framer.data.length + 4096
    { framer with
      size := if framer.size < 2 ^ 20 then max target (framer.size * 2) else target }
  else framer

/-- Read more octets; the result says whether there were any. -/
def fillBuffer (framer : L3Framer) : L3Framer × Bool :=
  let framer := framer.compact.ensureCapacity
  let (chunk, source) := framer.source.read (framer.size - framer.data.length)
  ({ framer with source := source, data := framer.data ++ chunk }, !chunk.isEmpty)

/-- Give up an octet. -/
def skipOctet (framer : L3Framer) (error : ParseError) :
    L3Framer × Except ParseError ExtractedFrame :=
  ({ framer with pos := framer.pos + 1 }, .error error)

/-- `tryExtract` with a length octet before each frame. -/
def extractLength (framer : L3Framer) (atEof : Bool) :
    L3Framer × Except ParseError ExtractedFrame :=
  if framer.buffered < 1 then
    (framer, .error { code := .truncatedInput, message := "need L2 length octet" })
  else
    let l2len := (framer.octet framer.pos).toNat
    if l2len = 0 ∨ framer.config.maxMessageLength < l2len then
      framer.skipOctet { code := .invalidValue, message := "L2 length out of range" }
    else if framer.buffered < l2len + 1 then
      (framer, .error
        { code := if atEof then .sourceExhausted else .truncatedInput
          message := "incomplete frame (L2 length)" })
    else
      ({ framer with pos := framer.pos + (l2len + 1), boundaryScanPos := 0 },
        .ok { data := (framer.data.drop (framer.pos + 1)).take l2len, l2Length := l2len })

/-- Where the octets end that are scanned for the next header. -/
def scanLimit (framer : L3Framer) : Nat :=
  (framer.pos + 2 + framer.config.maxMessageLength) % 2 ^ 64

/-- Distance of the next plausible header. -/
def scanBoundary (framer : L3Framer) : Option Nat :=
  let scanFrom := max framer.boundaryScanPos (framer.pos + 2)
  let scanStop := min (framer.data.length - 1) framer.scanLimit
  ((List.range' scanFrom (scanStop - scanFrom)).find? fun i => plausibleHeader (framer.octet i)).map
    (· - framer.pos)

/-- The fixed length of the message at the position, zero if it has none. -/
def fixedLength (framer : L3Framer) : Nat :=
  let b0 := framer.octet framer.pos
  let b1 := framer.octet (framer.pos + 1)
  fixedFrameLength (discriminator b0) (internalMti b0 b1)

/-- Check the header of a frame whose length is known, and take the frame. -/
def takeFrame (framer : L3Framer) (frameLen : Nat) :
    L3Framer × Except ParseError ExtractedFrame :=
  if framer.buffered < frameLen then
    (framer, .error { code := .truncatedInput, message := "incomplete frame (header-based)" })
  else
    let data := (framer.data.drop framer.pos).take frameLen
    match parseL3Header data with
    | .error _ =>
        framer.skipOctet { code := .invalidPD, message := "invalid L3 header in frame" }
    | .ok _ =>
        ({ framer with pos := framer.pos + frameLen, boundaryScanPos := 0 },
          .ok { data := data, l2Length := 0 })

/-- `tryExtract` by the headers. -/
def extractHeader (framer : L3Framer) (atEof : Bool) :
    L3Framer × Except ParseError ExtractedFrame :=
  if atEof then
    if framer.config.maxMessageLength < framer.buffered then
      (framer, .error
        { code := .sourceExhausted, message := "trailing data exceeds maxMessageLength" })
    else framer.takeFrame framer.buffered
  else if framer.fixedLength ≠ 0 then framer.takeFrame framer.fixedLength
  else
    match framer.scanBoundary with
    | none =>
        ({ framer with boundaryScanPos := min framer.data.length framer.scanLimit },
          .error
            { code := .truncatedInput, message := "variable-length frame, need more data" })
    | some frameLen =>
        if framer.config.maxMessageLength < frameLen then
          framer.skipOctet { code := .invalidValue, message := "frame exceeds maxMessageLength" }
        else framer.takeFrame frameLen

/-- Takes a frame from the front of the buffer; the error tells whether more may come. -/
def tryExtract (framer : L3Framer) (atEof : Bool) :
    L3Framer × Except ParseError ExtractedFrame :=
  if framer.buffered < framer.config.minHeaderLength then
    (framer, .error
      { code := if atEof then .sourceExhausted else .truncatedInput
        message := "insufficient data for L3 header" })
  else if framer.config.useL2Length then framer.extractLength atEof
  else framer.extractHeader atEof

/-- The error when the source has ended. -/
def sourceExhausted : ParseError where
  code := .sourceExhausted
  message := "source exhausted"

/-- The error when the source may give more. -/
def noDataYet : ParseError where
  code := .truncatedInput
  message := "no data available yet"

/-- One round of the loop of `nextFrame`; no result when the loop goes round
again. -/
def round (framer : L3Framer) : L3Framer × Option (Except ParseError ExtractedFrame) :=
  match framer.tryExtract false with
  | (framer, .ok frame) => (framer, some (.ok frame))
  | (framer, .error error) =>
      if error.code = .invalidPD ∨ error.code = .invalidValue then (framer, none)
      else
        match framer.fillBuffer with
        | (framer, true) => (framer, none)
        | (framer, false) =>
            if framer.source.atEof then
              match framer.tryExtract true with
              | (framer, .ok tail) => (framer, some (.ok tail))
              | (framer, .error _) => (framer, some (.error sourceExhausted))
            else (framer, some (.error noDataYet))

/-- `nextFrame`, if it returns within `rounds` rounds. -/
def nextFrame : Nat → L3Framer → Option (L3Framer × Except ParseError ExtractedFrame)
  | 0, _ => none
  | rounds + 1, framer =>
      match framer.round with
      | (framer, some result) => some (framer, result)
      | (framer, none) => nextFrame rounds framer

end L3Framer

/-! ## Reading a source -/

/-- A caller that calls `nextFrame` until the source is exhausted, with the frames
it got. -/
structure Reading where
  framer : L3Framer
  frames : List ExtractedFrame := []
  finished : Bool := false
deriving DecidableEq, Repr

namespace Reading

/-- The caller after a round of the framer. -/
def after (reading : Reading) (framer : L3Framer) :
    Option (Except ParseError ExtractedFrame) → Reading
  | some (.ok frame) => { reading with framer := framer, frames := reading.frames ++ [frame] }
  | some (.error error) =>
      { reading with framer := framer, finished := error.code == .sourceExhausted }
  | none => { reading with framer := framer }

/-- One round of the framer. -/
def step (reading : Reading) : Option Reading :=
  if reading.finished then none
  else some (reading.after reading.framer.round.1 reading.framer.round.2)

/-- The readings of a source as steps of a machine. -/
def machine : Foundation.Machine Reading Unit where
  step := fun reading _ => reading.step

/-- A new framer over a source. -/
def start (config : FrameConfig) (source : ByteSource) : Reading :=
  { framer := { source := source, config := config } }

end Reading

/-! ## The framer in memory -/

/-- The framer over a buffer that is there as a whole. -/
structure InlineFramer where
  data : List UInt8
  useL2Length : Bool := true
  maxFrameLen : Nat := 4096
  pos : Nat := 0
  resyncSkips : Nat := 0
deriving DecidableEq, Repr

namespace InlineFramer

/-- The octet `i` of the buffer. -/
def octet (framer : InlineFramer) (i : Nat) : UInt8 :=
  framer.data.getD i 0

/-- Take the frame of `frameLen` octets at the position. -/
def takeFrame (framer : InlineFramer) (frameLen : Nat) : InlineFramer × Option (List UInt8) :=
  ({ framer with pos := framer.pos + frameLen },
    some ((framer.data.drop framer.pos).take frameLen))

/-- Skip the length octets out of range; `octets` bounds the octets left. -/
def skipCorrupt : Nat → InlineFramer → InlineFramer
  | 0, framer => framer
  | octets + 1, framer =>
      if framer.data.length < framer.pos + 1 then framer
      else
        let frameLen := (framer.octet framer.pos).toNat
        if frameLen = 0 ∨ framer.maxFrameLen < frameLen then
          skipCorrupt octets
            { framer with pos := framer.pos + 1, resyncSkips := framer.resyncSkips + 1 }
        else framer

/-- The next frame by its length octet, behind the octets that start none. -/
def nextFrameLength (framer : InlineFramer) : InlineFramer × Option (List UInt8) :=
  let framer := framer.skipCorrupt (framer.data.length - framer.pos)
  if framer.data.length < framer.pos + 1 then (framer, none)
  else
    let frameLen := (framer.octet framer.pos).toNat
    if framer.data.length < framer.pos + 1 + frameLen then (framer, none)
    else { framer with pos := framer.pos + 1 }.takeFrame frameLen

/-- Distance of the next plausible header. -/
def scanBoundary (framer : InlineFramer) : Option Nat :=
  let searchEnd := min ((framer.pos + 2 + framer.maxFrameLen) % 2 ^ 64) framer.data.length
  ((List.range' (framer.pos + 2) (searchEnd - 1 - (framer.pos + 2))).find? fun i =>
    plausibleHeader (framer.octet i)).map (· - framer.pos)

/-- The length of the message at the position, 0 if it is not fixed. -/
def fixedLength (framer : InlineFramer) : Nat :=
  let b0 := framer.octet framer.pos
  let b1 := framer.octet (framer.pos + 1)
  fixedFrameLength (discriminator b0) (internalMti b0 b1)

/-- The next frame by its header. -/
def nextFrameHeader (framer : InlineFramer) : InlineFramer × Option (List UInt8) :=
  if framer.data.length < framer.pos + 2 then (framer, none)
  else if framer.fixedLength ≠ 0 then
    if framer.data.length < framer.pos + framer.fixedLength then (framer, none)
    else framer.takeFrame framer.fixedLength
  else
    match framer.scanBoundary with
    | none =>
        let rest := framer.data.length - framer.pos
        if rest < 2 ∨ framer.maxFrameLen < rest then (framer, none) else framer.takeFrame rest
    | some frameLen =>
        if framer.maxFrameLen < frameLen then (framer, none) else framer.takeFrame frameLen

/-- The next frame by the configured rule. -/
def nextFrame (framer : InlineFramer) : InlineFramer × Option (List UInt8) :=
  if framer.data.length ≤ framer.pos then (framer, none)
  else if framer.useL2Length then framer.nextFrameLength
  else framer.nextFrameHeader

/-- The frames of a caller that calls `nextFrame` until it returns none; there is
no result if that takes more than `calls` calls. -/
def frames : Nat → InlineFramer → Option (List (List UInt8))
  | 0, _ => none
  | calls + 1, framer =>
      match framer.nextFrame with
      | (_, none) => some []
      | (framer, some frame) => (frames calls framer).map (frame :: ·)

end InlineFramer

end Bitstream

end Gsml3
