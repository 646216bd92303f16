import Gsml3.FixedMessages

/-!
# The parser's entry point

`parseL3` tells frames of one and four octets from messages with a header: these short messages
of radio resources have none.  The parsers of messages outside the fixed-length table are a
parameter.
-/

namespace Gsml3

open FieldParser

/-- A parsed message; `M` are the messages outside the fixed-length table. -/
inductive ParsedMessage (M : Type) where
  | fixed (msg : FixedMessage)
  | channelRequest (requestReference : Nat)
  | handoverAccess (handoverNumber : Nat)
  | other (msg : M)
deriving DecidableEq, Repr

/-- Reserved bits that are set are refused. -/
def L3HandoverAccess.parse : FieldParser Nat := do
  let handoverNumber ← readField 27
  let reserved ← readField 5
  if reserved ≠ 0 then
    throw { code := .invalidValue, message := "HandoverAccess: reserved bits must be zero" }
  else pure handoverNumber

namespace Parser

variable {M : Type}

/-- A parser on an octet string, with the bits it leaves. -/
def runOn {α : Type} (parser : FieldParser α) (data : List UInt8) : Except ParseError (α × Nat) :=
  (parser (.between [] (Foundation.bitString data))).map fun read =>
    (read.1, read.2.bits.length - read.2.pos)

/-- The body of a message of fixed length, or of another one. -/
def parseStandardBody (others : L3Header → FieldParser M) (hdr : L3Header) :
    FieldParser (ParsedMessage M) :=
  match FixedMessage.parseBody hdr.pd hdr.mti hdr.ti with
  | some parser => .fixed <$> parser
  | none => .other <$> others hdr

/-- The error of a message that does not use up its octets. -/
def trailingData : ParseError where
  code := .lengthMismatch
  message := "trailing data after L3 message"

/-- A message behind its header. -/
def parseStandard (others : L3Header → FieldParser M) (requireFullConsumption : Bool)
    (data : List UInt8) : Except ParseError (ParsedMessage M) :=
  match parseL3Header data with
  | .error error => .error error
  | .ok hdr =>
      match runOn (parseStandardBody others hdr) (data.drop 2) with
      | .error error => .error error
      | .ok (msg, remainingBits) =>
          if requireFullConsumption ∧ remainingBits ≠ 0 then .error trailingData else .ok msg

/-- A handover access has no header. -/
def parseHandoverAccess (data : List UInt8) : Except ParseError (ParsedMessage M) :=
  (runOn L3HandoverAccess.parse data).map fun read => .handoverAccess read.1

/-- The message behind the header, if it ends with the frame. -/
def parseExactly (others : L3Header → FieldParser M) (data : List UInt8) :
    Option (ParsedMessage M) :=
  match parseL3Header data with
  | .error _ => none
  | .ok hdr =>
      match runOn (parseStandardBody others hdr) (data.drop 2) with
      | .ok (msg, 0) => some msg
      | _ => none

/-- The message of a frame of four octets, if it is not left to the standard parse.  In
broadcast and group call control the short message comes first. -/
def parseFourOctets (others : L3Header → FieldParser M) (data : List UInt8) :
    Option (ParsedMessage M) :=
  let pdNibble := (data.getD 0 0).toNat &&& 0x0F
  let short := (parseHandoverAccess data).toOption
  if pdNibble = 0x01 ∨ pdNibble = 0x00 then short
  else (parseExactly others data).or short

/-- The parser of a whole message; an empty input is refused. -/
def parseL3 (others : L3Header → FieldParser M) (requireFullConsumption : Bool)
    (data : List UInt8) : Except ParseError (ParsedMessage M) :=
  if data = [] then .error { code := .truncatedInput, message := "Empty input" }
  else if data.length = 1 then
    (runOn (readField 8) data).map fun read => .channelRequest read.1
  else if data.length = 4 then
    match parseFourOctets others data with
    | some msg => .ok msg
    | none => parseStandard others requireFullConsumption data
  else parseStandard others requireFullConsumption data

end Parser

end Gsml3
