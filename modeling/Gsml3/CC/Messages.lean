import Gsml3.CC.Elements

/-!
# Call set-up messages

The bodies of Setup, Call Proceeding and Connect hold optional elements only.  A round of the
loop that reads them reads an identifier, and the content it announces.
-/

namespace Gsml3

open FieldParser

/-- A single octet: the value is the low half of the identifier. -/
def isHalfOctet (iei : UInt8) : Bool :=
  iei &&& 0xf0 = 0xd0

/-- A round of the loop over the elements. -/
def readElement {σ : Type} (readContent : σ → Nat → FieldParser σ) (msg : σ) :
    FieldParser σ := do
  let iei ← readIEI
  if isHalfOctet iei then pure msg else readContent msg iei.toNat

/-- The length, and a value that is parsed with it. -/
def readValue {α : Type} (parse : Nat → FieldParser α) : FieldParser α := do
  let len ← readLength
  parse len

/-- A stream identifier takes one octet; further ones that the length counts are skipped. -/
def readStreamIdentifier (innerLen : Nat) : FieldParser L3StreamIdentifier := do
  let streamIdentifier ← L3StreamIdentifier.parse
  skipBytes (innerLen - 1)
  pure streamIdentifier

/-- A version indicator takes one octet, if the length counts any; further ones are
skipped. -/
def readSSVersion (innerLen : Nat) : FieldParser (Option L3SupServVersionIndicator) :=
  if 1 ≤ innerLen then do
    let ssVersion ← L3SupServVersionIndicator.parse
    skipBytes (innerLen - 1)
    pure (some ssVersion)
  else do
    skipBytes innerLen
    pure none

/-! ## Setup -/

/-- A Setup with its optional elements. -/
structure L3Setup where
  ti : Nat := 7
  calledParty : Option L3CalledPartyBCDNumber := none
  callingParty : Option L3CallingPartyBCDNumber := none
  signal : Option L3Signal := none
  bearerCapability : Option L3BearerCapability := some {}
  supportedCodecs : Option L3SupportedCodecList := none
  facility : Option L3SupServFacilityIE := none
  ssVersion : Option L3SupServVersionIndicator := none
  subAddress : Option L3SubAddress := none
  lowLayerCompat : Option L3LowLayerCompatibility := none
  highLayerCompat : Option L3HighLayerCompatibility := none
  userUser : Option L3UserUser := none
  clirSuppression : Option L3CLIRSuppression := none
  clirInvocation : Option L3CLIRInvocation := none
  ccCapabilities : Option L3CCCapabilities := none
  streamIdentifier : Option L3StreamIdentifier := none
deriving DecidableEq, Repr

namespace L3Setup

/-- The part of an element behind its identifier. -/
def readContent (msg : L3Setup) (iei : Nat) : FieldParser L3Setup :=
  match iei with
  | 0x04 => do
      let p ← readValue L3BearerCapability.parse
      pure { msg with bearerCapability := some p }
  | 0x1c => do
      let p ← readValue L3SupServFacilityIE.parse
      pure { msg with facility := some p }
  | 0x1e => do
      skipTV
      pure msg
  | 0x34 => do
      let p ← L3Signal.parse
      pure { msg with signal := some p }
  | 0x5c => do
      let p ← readValue L3CallingPartyBCDNumber.parse
      pure { msg with callingParty := some p }
  | 0x5d | 0x6d => do
      let p ← readValue L3SubAddress.parse
      pure { msg with subAddress := some p }
  | 0x5e => do
      let p ← readValue L3CalledPartyBCDNumber.parse
      pure { msg with calledParty := some p }
  | 0x7c => do
      let p ← readValue L3LowLayerCompatibility.parse
      pure { msg with lowLayerCompat := some p }
  | 0x7d => do
      let p ← readValue L3HighLayerCompatibility.parse
      pure { msg with highLayerCompat := some p }
  | 0x7e => do
      let p ← readValue L3UserUser.parse
      pure { msg with userUser := some p }
  | 0x7f => do
      let p ← readValue readSSVersion
      pure { msg with ssVersion := p.or msg.ssVersion }
  | 0xa1 => do
      let p ← L3CLIRMarker.parse
      pure { msg with clirSuppression := some p }
  | 0xa2 => do
      let p ← L3CLIRMarker.parse
      pure { msg with clirInvocation := some p }
  | 0x15 => do
      let p ← readValue L3CCCapabilities.parse
      pure { msg with ccCapabilities := some p }
  | 0x2d => do
      let p ← readValue readStreamIdentifier
      pure { msg with streamIdentifier := some p }
  | 0x40 => do
      let p ← readValue L3SupportedCodecList.parse
      pure { msg with supportedCodecs := some p }
  | 0xa3 => pure msg
  | 0x8e | 0xc1 | 0xc2 => do
      skipTV
      pure msg
  -- the identifiers that are named only to be skipped are skipped like unknown ones
  | _ => do
      skipValue
      pure msg

/-- The elements in any order, to the end of the message. -/
def parse : FieldParser L3Setup :=
  parseRounds (readElement readContent) {}

end L3Setup

/-! ## Call Proceeding -/

/-- A Call Proceeding with its optional elements. -/
structure L3CallProceeding where
  ti : Nat := 7
  bearerCapability : Option L3BearerCapability := none
  progress : Option L3ProgressIndicator := none
  priority : Option L3Priority := none
  networkCCCapabilities : Option L3NetworkCCCapabilities := none
deriving DecidableEq, Repr

namespace L3CallProceeding

/-- The value of an element by its identifier; an unknown one is skipped. -/
def readContent (msg : L3CallProceeding) (iei : Nat) : FieldParser L3CallProceeding :=
  match iei with
  -- a repeat indicator counts as half an octet behind its identifier
  | 0x0d => do
      let _ ← readField 4
      pure msg
  | 0x1e => do
      let p ← L3ProgressIndicator.parseTV
      pure { msg with progress := some p }
  | 0x88 => do
      let p ← L3Priority.parse
      pure { msg with priority := some p }
  | 0x2f => do
      let p ← readValue L3NetworkCCCapabilities.parse
      pure { msg with networkCCCapabilities := some p }
  | _ => do
      skipValue
      pure msg

/-- The elements in any order, to the end of the message. -/
def parse : FieldParser L3CallProceeding :=
  parseRounds (readElement readContent) {}

end L3CallProceeding

/-! ## Connect -/

/-- A Connect with its optional elements. -/
structure L3Connect where
  ti : Nat := 7
  progress : Option L3ProgressIndicator := none
  connectedNumber : Option L3ConnectedNumber := none
  connectedSubAddress : Option L3SubAddress := none
  userUser : Option L3UserUser := none
  streamIdentifier : Option L3StreamIdentifier := none
deriving DecidableEq, Repr

namespace L3Connect

/-- The value of an element by its identifier; an unknown one is skipped. -/
def readContent (msg : L3Connect) (iei : Nat) : FieldParser L3Connect :=
  match iei with
  | 0x1e => do
      let p ← L3ProgressIndicator.parseTV
      pure { msg with progress := some p }
  | 0x9c => do
      let p ← readValue L3ConnectedNumber.parse
      pure { msg with connectedNumber := some p }
  | 0x9b => do
      let p ← readValue L3SubAddress.parse
      pure { msg with connectedSubAddress := some p }
  | 0x7e => do
      let p ← readValue L3UserUser.parse
      pure { msg with userUser := some p }
  | 0x2d => do
      let p ← readValue readStreamIdentifier
      pure { msg with streamIdentifier := some p }
  | 0x8e => do
      skipTV
      pure msg
  | _ => do
      skipValue
      pure msg

/-- The elements in any order, to the end of the message. -/
def parse : FieldParser L3Connect :=
  parseRounds (readElement readContent) {}

end L3Connect

end Gsml3
