import Gsml3.Core.FieldParser

/-!
# Call control elements

The parsers of the information elements that call control and supplementary service messages
carry.  A parser of a value of variable length gets the declared length; lengths are counted
in 64 bits.
-/

namespace Gsml3

open FieldParser

/-! ## Parts of an element -/

/-- One octet read as an information element identifier. -/
def readIEI : FieldParser UInt8 :=
  readOctet

/-- One octet read as the length of a value. -/
def readLength : FieldParser Nat :=
  readField 8

/-- Steps over `len` octets whose values are not kept. -/
def skipBytes : Nat → FieldParser Unit
  | 0 => pure ()
  | len + 1 => do
      let _ ← readField 8
      skipBytes len

/-- Steps over the value of an element of type TV: one octet. -/
def skipTV : FieldParser Unit := do
  let _ ← readField 8

/-- Steps over a length octet and the value it announces. -/
def skipValue : FieldParser Unit := do
  let len ← readLength
  skipBytes len

/-- `lengthBytes - 1`. -/
def oneLess (lengthBytes : Nat) : Nat :=
  (lengthBytes + (2 ^ 64 - 1)) % 2 ^ 64

/-! ## Opaque values -/

/-- An element that keeps its octets. -/
structure OpaqueElement where
  data : List UInt8 := []
deriving DecidableEq, Repr

/-- Keeps all octets of the declared value. -/
def OpaqueElement.parse (lengthBytes : Nat) : FieldParser OpaqueElement := do
  let data ← readOctets lengthBytes
  pure { data := data }

/-- The Facility element: the component octets of a supplementary service. -/
abbrev L3SupServFacilityIE := OpaqueElement

/-- The call control capabilities of the network, kept as octets. -/
abbrev L3NetworkCCCapabilities := OpaqueElement

/-- The low layer compatibility element, kept as octets. -/
abbrev L3LowLayerCompatibility := OpaqueElement

/-- The high layer compatibility element, kept as octets. -/
abbrev L3HighLayerCompatibility := OpaqueElement

/-- The user-user element, kept as octets. -/
abbrev L3UserUser := OpaqueElement

/-- The call control capabilities of the mobile, kept as octets. -/
abbrev L3CCCapabilities := OpaqueElement

def L3SupServFacilityIE.parse : Nat → FieldParser L3SupServFacilityIE :=
  OpaqueElement.parse

def L3NetworkCCCapabilities.parse : Nat → FieldParser L3NetworkCCCapabilities :=
  OpaqueElement.parse

def L3LowLayerCompatibility.parse : Nat → FieldParser L3LowLayerCompatibility :=
  OpaqueElement.parse

def L3HighLayerCompatibility.parse : Nat → FieldParser L3HighLayerCompatibility :=
  OpaqueElement.parse

def L3UserUser.parse : Nat → FieldParser L3UserUser :=
  OpaqueElement.parse

def L3CCCapabilities.parse : Nat → FieldParser L3CCCapabilities :=
  OpaqueElement.parse

/-! ## Bearer capability -/

/-- The bearer capability: octet 3, and octet 3a with its extension octets. -/
structure L3BearerCapability where
  octet3 : UInt8 := 0x0f
  haveOctet3a : Bool := true
  firstOctet3a : UInt8 := 0x80
  extendedOctets : List UInt8 := []
deriving DecidableEq, Repr

/-- An empty value is refused; a value of one octet has octet 3 only and leaves the other fields at
their defaults. -/
def L3BearerCapability.parse (lengthBytes : Nat) : FieldParser L3BearerCapability :=
  match lengthBytes with
  | 0 => throw { code := .truncatedInput, message := "Bearer capability value is empty" }
  | 1 => do
      let octet3 ← readOctet
      pure { octet3 := octet3 }
  | remaining + 2 => do
      let octet3 ← readOctet
      let firstOctet3a ← readOctet
      let extendedOctets ← readOctets remaining
      pure {
        octet3 := octet3
        firstOctet3a := firstOctet3a
        extendedOctets := extendedOctets }

/-! ## Supported codecs -/

/-- The codec bitmaps of the element, by radio access system. -/
structure L3SupportedCodecList where
  gsmCodecs : List UInt8 := []
  umtsCodecs : List UInt8 := []
deriving DecidableEq, Repr

/-- The loop over the codec bitmaps, with `left` octets before the end of the element; each
round reads two octets or more. -/
def L3SupportedCodecList.parseBitmaps :
    Nat → Nat → L3SupportedCodecList → FieldParser L3SupportedCodecList
  | 0, _, result => pure result
  | rounds + 1, left, result =>
      if 2 ≤ left then do
        let sysId ← readField 8
        let bitmapLen ← readField 8
        let fixedLen := min bitmapLen (left - 2)
        let codecs ← readOctets fixedLen
        parseBitmaps rounds (left - 2 - fixedLen)
          (if sysId = 0 then { result with gsmCodecs := result.gsmCodecs ++ codecs }
          else if sysId = 4 then { result with umtsCodecs := result.umtsCodecs ++ codecs }
          else result)
      else pure result

/-- The whole element; no value has more rounds than octets. -/
def L3SupportedCodecList.parse (lengthBytes : Nat) : FieldParser L3SupportedCodecList :=
  parseBitmaps lengthBytes lengthBytes {}

/-! ## Party numbers -/

/-- The digit that a half octet of a party number stands for. -/
def bcdDecode (d : Nat) : Char :=
  if d = 10 then '*'
  else if d = 11 then '#'
  else if d ≤ 9 then Char.ofNat ('0'.toNat + d)
  else '0'

namespace L3BCDDigits

/-- The number of digits that `L3BCDDigits` has room for. -/
def maxDigits : Nat := 20

/-- Store the digits of one octet; the second one only if it is no filler and has room. -/
def push (digits : List Char) (d1 d2 : Nat) : List Char :=
  let digits := digits ++ [bcdDecode d1]
  if d2 ≠ 0x0f ∧ digits.length < maxDigits then digits ++ [bcdDecode d2] else digits

/-- Reads two digits from each octet, the low half octet first, while there is room. -/
def parseOctets : Nat → List Char → FieldParser (List Char)
  | 0, digits => pure digits
  | numOctets + 1, digits =>
      if digits.length < maxDigits then do
        let d2 ← readField 4
        let d1 ← readField 4
        parseOctets numOctets (push digits d1 d2)
      else pure digits

/-- Reads `numOctets` octets of digits; the digits of an international number start with `+`. -/
def parse (numOctets : Nat) (international : Bool) : FieldParser (List Char) :=
  parseOctets numOctets (if international then ['+'] else [])

end L3BCDDigits

/-- `TypeOfNumber::International`. -/
def TypeOfNumber.international : Nat := 1

/-- The number a call is made to. -/
structure L3CalledPartyBCDNumber where
  type : Nat := 0
  plan : Nat := 0
  digits : List Char := []
deriving DecidableEq, Repr

/-- Octet 3, with its extension bit ignored, and the digits in the rest of the value. -/
def L3CalledPartyBCDNumber.parse (lengthBytes : Nat) : FieldParser L3CalledPartyBCDNumber := do
  let _ ← readField 1
  let type ← readField 3
  let plan ← readField 4
  let digits ← L3BCDDigits.parse (oneLess lengthBytes) (type = TypeOfNumber.international)
  pure { type := type, plan := plan, digits := digits }

/-- The number a call was connected to, coded as a called party number. -/
abbrev L3ConnectedNumber := L3CalledPartyBCDNumber

/-- The parser of the called party number, at the connected number. -/
def L3ConnectedNumber.parse : Nat → FieldParser L3ConnectedNumber :=
  L3CalledPartyBCDNumber.parse

/-- The number a call comes from, with octet 3a when it is there. -/
structure L3CallingPartyBCDNumber where
  type : Nat := 0
  plan : Nat := 0
  digits : List Char := []
  haveOctet3a : Bool := false
  presentationIndicator : Nat := 0
  screeningIndicator : Nat := 0
deriving DecidableEq, Repr

/-- Octet 3a is read when the extension bit of octet 3 is 0. -/
def L3CallingPartyBCDNumber.parse (lengthBytes : Nat) :
    FieldParser L3CallingPartyBCDNumber := do
  let extension ← readField 1
  let type ← readField 3
  let plan ← readField 4
  let remainingLength := oneLess lengthBytes
  if extension = 0 then
    let _ ← readField 1
    let presentationIndicator ← readField 2
    let _ ← readField 3
    let screeningIndicator ← readField 2
    let digits ← L3BCDDigits.parse (oneLess remainingLength) (type = TypeOfNumber.international)
    pure {
      type := type
      plan := plan
      digits := digits
      haveOctet3a := true
      presentationIndicator := presentationIndicator
      screeningIndicator := screeningIndicator }
  else
    let digits ← L3BCDDigits.parse remainingLength (type = TypeOfNumber.international)
    pure { type := type, plan := plan, digits := digits }

/-! ## Sub-addresses -/

/-- One item of a subaddress: its selector, its length and its octets. -/
structure SubAddressItem where
  sel : Nat
  len : Nat
  data : List UInt8
deriving DecidableEq, Repr

/-- The items of a subaddress. -/
structure L3SubAddress where
  items : List SubAddressItem := []
deriving DecidableEq, Repr

/-- Reads the announced number of items, as long as two octets remain. -/
def L3SubAddress.parseItems : Nat → Nat → FieldParser (List SubAddressItem)
  | 0, _ => pure []
  | numItems + 1, remaining =>
      if 2 ≤ remaining then do
        let octet ← readField 8
        let len := min (octet &&& 0x1f) (remaining - 1)
        let data ← readOctets len
        let items ← parseItems numItems (remaining - 1 - len)
        pure ({ sel := octet >>> 5 &&& 0x07, len := len, data := data } :: items)
      else pure []

/-- The number of items, then the items in the rest of the value. -/
def L3SubAddress.parse (lengthBytes : Nat) : FieldParser L3SubAddress := do
  let numItems ← readField 8
  let items ← parseItems numItems (oneLess lengthBytes)
  pure { items := items }

/-! ## Values of fixed length -/

/-- The location and value of a cause; normal call clearing by default. -/
structure L3CauseElement where
  location : Nat := 1
  cause : Nat := 16
deriving DecidableEq, Repr

/-- The coding standard and the two extension bits are checked, not kept. -/
def L3CauseElement.parse : FieldParser L3CauseElement := do
  let ext ← readField 1
  let codingStandard ← readField 2
  let _ ← readField 1
  let location ← readField 4
  let extensionIndicator ← readField 1
  let cause ← readField 7
  if ext ≠ 0 ∨ codingStandard ≠ 0x3 ∨ extensionIndicator ≠ 1 then
    throw { code := .invalidValue, message := "Unsupported cause value octet layout" }
  else pure { location := location, cause := cause }

/-- The location and description of a progress indicator. -/
structure L3ProgressIndicator where
  location : Nat := 1
  progress : Nat := 0
deriving DecidableEq, Repr

/-- The value in one octet. -/
def L3ProgressIndicator.parseTV : FieldParser L3ProgressIndicator := do
  let location ← readField 4
  let progress ← readField 4
  pure { location := location, progress := progress }

/-- The tone a Signal element asks for. -/
structure L3Signal where
  signalValue : Nat := 1
deriving DecidableEq, Repr

/-- The octet of the value. -/
def L3Signal.parse : FieldParser L3Signal := do
  let value ← readField 8
  pure { signalValue := value }

/-- The version of the supplementary service protocol. -/
structure L3SupServVersionIndicator where
  version : Nat := 0
deriving DecidableEq, Repr

/-- The octet of the value. -/
def L3SupServVersionIndicator.parse : FieldParser L3SupServVersionIndicator := do
  let version ← readField 8
  pure { version := version }

/-- The priority level, and whether it is requested. -/
structure L3Priority where
  priorityLevel : Nat := 0
  request : Bool := false
deriving DecidableEq, Repr

/-- The flag in bit 7 and the level in bits 4 to 6 of the octet. -/
def L3Priority.parse : FieldParser L3Priority := do
  let val ← readField 8
  pure { request := val &&& 0x40 ≠ 0, priorityLevel := val >>> 3 &&& 0x07 }

/-- The identity of a stream, and whether it is a voice broadcast. -/
structure L3StreamIdentifier where
  streamId : Nat := 0
  vbs : Bool := false
deriving DecidableEq, Repr

/-- The flag in bit 5 and the identity in the low half of the octet. -/
def L3StreamIdentifier.parse : FieldParser L3StreamIdentifier := do
  let val ← readField 8
  pure { vbs := val &&& 0x10 ≠ 0, streamId := val &&& 0x0f }

/-- A marker whose identifier is the whole element. -/
structure L3CLIRMarker where
deriving DecidableEq, Repr

/-- Nothing is read: the element is its identifier. -/
def L3CLIRMarker.parse : FieldParser L3CLIRMarker :=
  pure {}

/-- The marker that suppresses the restriction of the calling number. -/
abbrev L3CLIRSuppression := L3CLIRMarker

/-- The marker that invokes the restriction of the calling number. -/
abbrev L3CLIRInvocation := L3CLIRMarker

end Gsml3
