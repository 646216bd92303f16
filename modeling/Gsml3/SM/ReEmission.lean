import Gsml3.SM.LeadingParts
import Gsml3.WrittenFrames

/-!
# Session management messages that are written again

A parsed message is written with as many octets as it was read from, less those of a refused
address that were lost.  Read again it is the same message, unless it could have an address and
lost octets of one that was refused.
-/

namespace Gsml3

open BitWriter (Op octetsWritten)
open FieldParser
open OctetParser (Recovers)
open Foundation (bitString)

/-! ## Options behind a leading part -/

namespace SMOptions

/-- What the octets behind a leading part are read as. -/
def Sorted : Option KnownElements → List UInt8 → SMOptions → Prop
  | none, octets, options => options = ({} : SMOptions).keep octets
  | some known, octets, options => Sorts known {} octets options

def optionOctets (known : Option KnownElements) : OctetParser SMOptions := do
  let options ← match known with
    | none => pure {}
    | some known => do
        let bits ← fun octets => some (8 * octets.length, octets)
        OctetParser.whileSome (element known) bits {}
  let tail ← OctetParser.tail
  pure (options.keep tail)

/-- The optional elements are read octet by octet. -/
theorem octetwise_read (known : Option KnownElements) (truncated : String) :
    Octetwise (read known truncated) (optionOctets known) := by
  have tail (options : SMOptions) : Octetwise (do
      let tail ← readOpaqueTail truncated
      pure (options.keep tail)) (do
      let tail ← OctetParser.tail
      pure (options.keep tail)) :=
    (octetwise_tail truncated).bind fun tail => Octetwise.pure _
  cases known with
  | none => exact (Octetwise.pure {}).bind tail
  | some known =>
      have loop := octetwise_remainingBits.bind fun bits =>
        octetwise_whileSome (octetwise_readElement known) bits {}
      exact loop.bind tail

variable {known : Option KnownElements} {octets rest : List UInt8} {options : SMOptions}

/-- The optional elements are read exactly when their octets can be sorted. -/
theorem optionOctets_iff :
    optionOctets known octets = some (options, rest) ↔ rest = [] ∧ Sorted known octets options := by
  cases known with
  | none =>
      have all : optionOctets none octets = some (({} : SMOptions).keep octets, []) := rfl
      rw [all, Sorted]
      constructor
      · intro read
        obtain ⟨rfl, rfl⟩ := Prod.mk.inj (Option.some.inj read)
        exact ⟨rfl, rfl⟩
      · rintro ⟨rfl, rfl⟩
        rfl
  | some known =>
      have loop : optionOctets (some known) octets = region known (8 * octets.length) {} octets :=
        rfl
      have enough : octets.length ≤ 8 * octets.length := Nat.le_mul_of_pos_left _ (by decide)
      rw [loop, Sorted]
      constructor
      · exact sorts_of_region enough
      · rintro ⟨rfl, sorts⟩
        exact region_of_sorts sorts enough

/-- Sorted elements take no more octets than they had. -/
theorem Sorted.length_le (sorted : Sorted known octets options) :
    options.length ≤ octets.length := by
  cases known with
  | none =>
      obtain rfl := sorted
      exact (length_keep {} octets).le.trans (Nat.zero_add _).le
  | some known => exact (Sorts.length_le sorted).trans (Nat.zero_add _).le

/-- Octets that are all kept are written as they stood. -/
theorem octets_write_keep (octets : List UInt8) :
    octetsWritten (({} : SMOptions).keep octets).write = octets :=
  octets_write _

theorem whole_writePresent {α : Type} {write : α → List Op}
    (whole : ∀ value, ∀ op ∈ write value, op.Whole) (value : Option α) :
    ∀ op ∈ writePresent write value, op.Whole := by
  cases value with
  | none => exact nofun
  | some value => exact whole value

theorem whole_writeTLV {value : List Op} (iei : UInt8) (length : Nat)
    (whole : ∀ op ∈ value, op.Whole) : ∀ op ∈ writeTLV iei length value, op.Whole :=
  List.forall_mem_cons.mpr ⟨rfl, List.forall_mem_cons.mpr ⟨rfl, whole⟩⟩

theorem whole_write (options : SMOptions) : ∀ op ∈ options.write, op.Whole := by
  have address := whole_writePresent (fun addr : L3PDPAddress =>
    whole_writeTLV pdpAddressIEI addr.lengthV addr.whole_write) options.pdpAddress
  have apn := whole_writePresent (fun apn : List UInt8 =>
    whole_writeTLV apnIEI apn.length (whole_writeFilled apn)) options.apn
  have indicator := @whole_writePresent Bool
    (fun flag => [.writeField (0x90 ||| if flag then 1 else 0) 8])
    (fun _ => List.forall_mem_singleton.mpr rfl) options.tearDownIndicator
  have pco := whole_writePresent (fun pco : List UInt8 =>
    whole_writeTLV pcoIEI pco.length (whole_writeFilled pco)) options.pco
  have request := @whole_writePresent UInt8
    (fun type => [.writeField (0xA0 ||| (type &&& 0x0F).toUInt32) 8])
    (fun _ => List.forall_mem_singleton.mpr rfl) options.requestType
  have kept := BitWriter.whole_writeOctets options.additionalIes
  simp only [write, List.forall_mem_append]
  exact ⟨⟨⟨⟨⟨address, apn⟩, indicator⟩, pco⟩, request⟩, kept⟩

end SMOptions

/-! ## Messages of a format -/

namespace SMFormat

variable {Part : Type} {format : SMFormat Part} {reader : OctetParser Part}
  {octets rest : List UInt8} {msg : SMMessage Part}

def messageOctets (reader : OctetParser Part) (known : Option KnownElements) :
    OctetParser (SMMessage Part) := do
  let part ← reader
  let options ← SMOptions.optionOctets known
  pure { part, options }

/-- A message with an octetwise leading part is read octet by octet. -/
theorem octetwise_parse (leading : LeadingPart format reader) :
    Octetwise format.parse (messageOctets reader format.known) :=
  leading.octetwise.bind fun _ =>
    (SMOptions.octetwise_read format.known format.truncated).bind fun _ => Octetwise.pure _

/-- A message is read when its part is and the rest can be sorted. -/
theorem messageOctets_iff {known : Option KnownElements} :
    messageOctets reader known octets = some (msg, rest) ↔ rest = [] ∧ ∃ behind,
      reader octets = some (msg.part, behind) ∧ SMOptions.Sorted known behind msg.options := by
  constructor
  · intro read
    obtain ⟨part, behind, one, read⟩ := OctetParser.bind_eq_some.mp read
    obtain ⟨options, left, two, read⟩ := OctetParser.bind_eq_some.mp read
    obtain ⟨rfl, rfl⟩ := Prod.mk.inj (Option.some.inj read)
    obtain ⟨none, sorted⟩ := SMOptions.optionOctets_iff.mp two
    exact ⟨none, behind, one, sorted⟩
  · rintro ⟨rfl, behind, one, sorted⟩
    rw [messageOctets, OctetParser.bind_of_eq one,
      OctetParser.bind_of_eq (SMOptions.optionOctets_iff.mpr ⟨rfl, sorted⟩)]
    rfl

/-- A message is parsed when its part is read and the rest can be sorted. -/
theorem parse_iff (leading : LeadingPart format reader) :
    FieldParser.parse format.parse octets = some msg ↔ ∃ behind,
      reader octets = some (msg.part, behind) ∧
        SMOptions.Sorted format.known behind msg.options := by
  rw [(octetwise_parse leading).parse_eq, Option.map_eq_some_iff]
  constructor
  · rintro ⟨⟨found, rest⟩, read, rfl⟩
    exact (messageOctets_iff.mp read).2
  · intro read
    exact ⟨(msg, []), messageOctets_iff.mpr ⟨rfl, read⟩, rfl⟩

theorem octets_write (format : SMFormat Part) (msg : SMMessage Part) :
    octetsWritten (format.write msg) =
      octetsWritten (format.writePart msg.part) ++ octetsWritten msg.options.write :=
  BitWriter.octetsWritten_append _ _

/-- A message takes the octets counted for it. -/
theorem length_write (leading : LeadingPart format reader) (msg : SMMessage Part) :
    (octetsWritten (format.write msg)).length = format.bodyLength msg := by
  rw [octets_write, List.length_append, leading.length, SMOptions.octets_write,
    SMOptions.written_length]
  rfl

theorem whole_write (leading : LeadingPart format reader) (msg : SMMessage Part) :
    ∀ op ∈ format.write msg, op.Whole :=
  List.forall_mem_append.mpr ⟨leading.whole msg.part, msg.options.whole_write⟩

/-- A parsed message announces no more octets than it was read from. -/
theorem bodyLength_le (leading : LeadingPart format reader)
    (parsed : FieldParser.parse format.parse octets = some msg) :
    format.bodyLength msg ≤ octets.length := by
  obtain ⟨behind, read, sorted⟩ := (parse_iff leading).mp parsed
  rw [(leading.recovers octets msg.part behind read).1, leading.length]
  exact Nat.add_le_add_left sorted.length_le _

/-- What is written of a parsed message is read as that message, exactly where an address was
found, or could not be, or no octet was lost. -/
theorem parse_write_iff (leading : LeadingPart format reader)
    (unknown : ∀ known ∈ format.known, known.pdpAddress = true → known.tearDownIndicator = false)
    (parsed : FieldParser.parse format.parse octets = some msg) :
    FieldParser.parse format.parse (octetsWritten (format.write msg)) = some msg ↔
      ∀ known ∈ format.known, known.pdpAddress = true →
        msg.options.pdpAddress ≠ none ∨ format.bodyLength msg = octets.length := by
  obtain ⟨behind, read, sorted⟩ := (parse_iff leading).mp parsed
  obtain ⟨size, again⟩ := leading.recovers octets msg.part behind read
  have alone : FieldParser.parse format.parse (octetsWritten (format.write msg)) = some msg ↔
      SMOptions.Sorted format.known (octetsWritten msg.options.write) msg.options := by
    rw [parse_iff leading, octets_write, again]
    constructor
    · rintro ⟨_, same, sorted⟩
      obtain ⟨-, rfl⟩ := Prod.mk.inj (Option.some.inj same)
      exact sorted
    · exact fun sorted => ⟨_, rfl, sorted⟩
  have lengths : format.bodyLength msg = octets.length ↔
      msg.options.length = behind.length := by
    rw [size, leading.length]
    exact Nat.add_left_cancel_iff
  rw [alone, lengths]
  cases known : format.known with
  | none =>
      rw [known] at sorted
      have kept : msg.options = ({} : SMOptions).keep behind := sorted
      apply iff_of_true
      · rw [kept, SMOptions.octets_write_keep]
        rfl
      · exact nofun
  | some known' =>
      rw [known] at sorted unknown
      have iff := SMOptions.resorted_iff sorted (unknown known' rfl)
      constructor
      · rintro resorted _ ⟨⟩
        exact iff.mp resorted
      · exact fun settled => iff.mpr (settled known' rfl)

/-- The body of the encoding is what the message writes. -/
theorem body_encoding (leading : LeadingPart format reader) (msg : SMMessage Part) :
    (format.encoding msg).body = octetsWritten (format.write msg) := by
  rw [L3Encoding.body]
  change Foundation.octetGroups (format.bodyLength msg) (BitWriter.fields 0 (format.write msg)) = _
  rw [BitWriter.fields_whole (whole_write leading msg), ← length_write leading,
    L3Encoding.octets_of_bits]

/-- The header of a message is one the parser looks behind. -/
theorem writtenStandard (leading : LeadingPart format reader)
    (header : StandardHeader pd format.mti) (msg : SMMessage Part) :
    Parser.WrittenStandard (format.encoding msg) where
  header := header
  length := by
    change BitWriter.endPos 0 (format.write msg) = format.bodyLength msg * 8
    rw [BitWriter.endPos_whole (whole_write leading msg), length_write leading, Nat.zero_add,
      Nat.mul_comm]
  notFour _ := by
    change ¬(pd = 0x01 ∨ pd = 0x00)
    decide

/-- A parsed message takes all its octets. -/
theorem takesAll_parse (leading : LeadingPart format reader)
    (parsed : FieldParser.parse format.parse octets = some msg) :
    TakesAll format.parse (bitString octets) (some msg) := by
  intro before
  have read := messageOctets_iff.mpr ⟨rfl, (parse_iff leading).mp parsed⟩
  obtain ⟨front, split, run⟩ := (octetwise_parse leading).reads read
  rw [List.append_nil] at split
  rw [run, ← split]
  rfl

end SMFormat

/-! ## All messages -/

namespace SM

/-- The options of a message that may have an address among them. -/
def addressable : SM → Option SMOptions
  | activatePDPContextAccept msg => some msg.options
  | activateSecondaryPDPContextAccept msg => some msg.options
  | _ => none

/-- The format that a message is read and written in. -/
structure Formed {Part : Type} (msg : SM) (format : SMFormat Part) (reader : OctetParser Part)
    (wrap : SMMessage Part → SM) (inner : SMMessage Part) : Prop where
  leading : LeadingPart format reader
  header : StandardHeader SMFormat.pd format.mti
  injective : Function.Injective wrap
  wrapped : msg = wrap inner
  encoding : msg.encoding = format.encoding inner
  entry : parseBody format.mti = some (wrap <$> format.parse)
  unknown : format.known.all (fun known => !(known.pdpAddress && known.tearDownIndicator)) = true
  addressable : msg.addressable =
    format.known.bind fun known => if known.pdpAddress then some inner.options else none

/-- Every message has a format of its own. -/
theorem formed (msg : SM) : ∃ (Part : Type) (format : SMFormat Part) (reader : OctetParser Part)
    (wrap : SMMessage Part → SM) (inner : SMMessage Part),
      Formed msg format reader wrap inner := by
  cases msg with
  | activatePDPContextRequest msg =>
      exact ⟨_, L3ActivatePDPContextRequest, _, activatePDPContextRequest, msg,
        leadingPart_activateRequest, by decide, fun _ _ => activatePDPContextRequest.inj, rfl, rfl,
        rfl, rfl, rfl⟩
  | activatePDPContextAccept msg =>
      exact ⟨_, L3ActivatePDPContextAccept, _, activatePDPContextAccept, msg,
        leadingPart_activateAccept, by decide, fun _ _ => activatePDPContextAccept.inj, rfl, rfl,
        rfl, rfl, rfl⟩
  | activatePDPContextReject msg =>
      exact ⟨_, L3ActivatePDPContextReject, _, activatePDPContextReject, msg,
        leadingPart_cause _ _ _, by decide, fun _ _ => activatePDPContextReject.inj, rfl, rfl,
        rfl, rfl, rfl⟩
  | requestPDPContextActivation msg =>
      exact ⟨_, L3RequestPDPContextActivation, _, requestPDPContextActivation, msg,
        leadingPart_addressedContext _ _, by decide, fun _ _ => requestPDPContextActivation.inj,
        rfl, rfl, rfl, rfl, rfl⟩
  | requestPDPContextActivationReject msg =>
      exact ⟨_, L3RequestPDPContextActivationReject, _, requestPDPContextActivationReject, msg,
        leadingPart_cause _ _ _, by decide, fun _ _ => requestPDPContextActivationReject.inj, rfl,
        rfl, rfl, rfl, rfl⟩
  | deactivatePDPContextRequest msg =>
      exact ⟨_, L3DeactivatePDPContextRequest, _, deactivatePDPContextRequest, msg,
        leadingPart_cause _ _ _, by decide, fun _ _ => deactivatePDPContextRequest.inj, rfl, rfl,
        rfl, rfl, rfl⟩
  | deactivatePDPContextAccept msg =>
      exact ⟨_, L3DeactivatePDPContextAccept, _, deactivatePDPContextAccept, msg,
        leadingPart_deactivateAccept, by decide, fun _ _ => deactivatePDPContextAccept.inj, rfl,
        rfl, rfl, rfl, rfl⟩
  | modifyPDPContextRequest msg =>
      exact ⟨_, L3ModifyPDPContextRequest, _, modifyPDPContextRequest, msg,
        leadingPart_context _ _ _, by decide, fun _ _ => modifyPDPContextRequest.inj, rfl, rfl,
        rfl, rfl, rfl⟩
  | modifyPDPContextAccept msg =>
      exact ⟨_, L3ModifyPDPContextAccept, _, modifyPDPContextAccept, msg,
        leadingPart_context _ _ _, by decide, fun _ _ => modifyPDPContextAccept.inj, rfl, rfl,
        rfl, rfl, rfl⟩
  | modifyPDPContextRequestMS msg =>
      exact ⟨_, L3ModifyPDPContextRequestMS, _, modifyPDPContextRequestMS, msg,
        leadingPart_context _ _ _, by decide, fun _ _ => modifyPDPContextRequestMS.inj, rfl, rfl,
        rfl, rfl, rfl⟩
  | modifyPDPContextAcceptNet msg =>
      exact ⟨_, L3ModifyPDPContextAcceptNet, _, modifyPDPContextAcceptNet, msg,
        leadingPart_context _ _ _, by decide, fun _ _ => modifyPDPContextAcceptNet.inj, rfl, rfl,
        rfl, rfl, rfl⟩
  | modifyPDPContextReject msg =>
      exact ⟨_, L3ModifyPDPContextReject, _, modifyPDPContextReject, msg,
        leadingPart_cause _ _ _, by decide, fun _ _ => modifyPDPContextReject.inj, rfl, rfl,
        rfl, rfl, rfl⟩
  | activateSecondaryPDPContextRequest msg =>
      exact ⟨_, L3ActivateSecondaryPDPContextRequest, _, activateSecondaryPDPContextRequest, msg,
        leadingPart_addressedContext _ _, by decide,
        fun _ _ => activateSecondaryPDPContextRequest.inj, rfl, rfl, rfl, rfl, rfl⟩
  | activateSecondaryPDPContextAccept msg =>
      exact ⟨_, L3ActivateSecondaryPDPContextAccept, _, activateSecondaryPDPContextAccept, msg,
        leadingPart_context _ _ _, by decide, fun _ _ => activateSecondaryPDPContextAccept.inj,
        rfl, rfl, rfl, rfl, rfl⟩
  | activateSecondaryPDPContextReject msg =>
      exact ⟨_, L3ActivateSecondaryPDPContextReject, _, activateSecondaryPDPContextReject, msg,
        leadingPart_cause _ _ _, by decide, fun _ _ => activateSecondaryPDPContextReject.inj, rfl,
        rfl, rfl, rfl, rfl⟩
  | smStatus msg =>
      exact ⟨_, L3SMStatus, _, smStatus, msg, leadingPart_cause _ _ _, by decide,
        fun _ _ => smStatus.inj, rfl, rfl, rfl, rfl, rfl⟩
  | activateMBMSContextRequest msg =>
      exact ⟨_, L3ActivateMBMSContextRequest, _, activateMBMSContextRequest, msg,
        leadingPart_service _ _, by decide, fun _ _ => activateMBMSContextRequest.inj, rfl, rfl,
        rfl, rfl, rfl⟩
  | activateMBMSContextAccept msg =>
      exact ⟨_, L3ActivateMBMSContextAccept, _, activateMBMSContextAccept, msg,
        leadingPart_context _ _ _, by decide, fun _ _ => activateMBMSContextAccept.inj, rfl, rfl,
        rfl, rfl, rfl⟩
  | activateMBMSContextReject msg =>
      exact ⟨_, L3ActivateMBMSContextReject, _, activateMBMSContextReject, msg,
        leadingPart_cause _ _ _, by decide, fun _ _ => activateMBMSContextReject.inj, rfl, rfl,
        rfl, rfl, rfl⟩
  | requestMBMSContextActivation msg =>
      exact ⟨_, L3RequestMBMSContextActivation, _, requestMBMSContextActivation, msg,
        leadingPart_service _ _, by decide, fun _ _ => requestMBMSContextActivation.inj, rfl, rfl,
        rfl, rfl, rfl⟩
  | requestMBMSContextActivationReject msg =>
      exact ⟨_, L3RequestMBMSContextActivationReject, _, requestMBMSContextActivationReject, msg,
        leadingPart_cause _ _ _, by decide, fun _ _ => requestMBMSContextActivationReject.inj,
        rfl, rfl, rfl, rfl, rfl⟩
  | requestSecondaryPDPContextActivation msg =>
      exact ⟨_, L3RequestSecondaryPDPContextActivation, _, requestSecondaryPDPContextActivation,
        msg, leadingPart_addressedContext _ _, by decide,
        fun _ _ => requestSecondaryPDPContextActivation.inj, rfl, rfl, rfl, rfl, rfl⟩
  | requestSecondaryPDPContextActivationReject msg =>
      exact ⟨_, L3RequestSecondaryPDPContextActivationReject, _,
        requestSecondaryPDPContextActivationReject, msg, leadingPart_cause _ _ _, by decide,
        fun _ _ => requestSecondaryPDPContextActivationReject.inj, rfl, rfl, rfl, rfl, rfl⟩
  | smNotification msg =>
      exact ⟨_, L3SMNotification, _, smNotification, msg, leadingPart_notification, by decide,
        fun _ _ => smNotification.inj, rfl, rfl, rfl, rfl, rfl⟩

/-! ### Frames -/

section Frames

variable {M : Type} {rest : L3Header → FieldParser M} {requireFullConsumption : Bool}
  {data octets : List UInt8} {msg : SM} {hdr : L3Header}

theorem parse_map {α β : Type} (parser : FieldParser α) (f : α → β) (octets : List UInt8) :
    FieldParser.parse (f <$> parser) octets = (FieldParser.parse parser octets).map f :=
  parse_yield parser f octets

/-- What a run of a parser gives is what parsing gives. -/
theorem parse_of_runOn {α : Type} {parser : FieldParser α} {value : α} {left : Nat}
    (run : Parser.runOn parser octets = .ok (value, left)) :
    FieldParser.parse parser octets = some value := by
  rw [Parser.runOn] at run
  rw [FieldParser.parse]
  cases read : parser (.between [] (bitString octets)) with
  | error error =>
      rw [read] at run
      cases run
  | ok result =>
      rw [read] at run
      obtain ⟨rfl, -⟩ := Prod.mk.inj (Except.ok.inj run)
      rfl

/-- A parsed message is the wrapped one of its format. -/
theorem parse_wrapped {Part : Type} {format : SMFormat Part} {wrap : SMMessage Part → SM}
    (parsed : FieldParser.parse (wrap <$> format.parse) octets = some msg) :
    ∃ inner, FieldParser.parse format.parse octets = some inner ∧ wrap inner = msg := by
  rw [parse_map] at parsed
  exact Option.map_eq_some_iff.mp parsed

/-- The parser of a type reads messages of that type. -/
theorem mti_of_parsed {mti : Nat} {parser : FieldParser SM} (entry : parseBody mti = some parser)
    (parsed : FieldParser.parse parser octets = some msg) : msg.encoding.mti = mti := by
  unfold parseBody at entry
  split at entry
  case h_25 => cases entry
  all_goals
    obtain rfl := Option.some.inj entry
    obtain ⟨inner, -, rfl⟩ := parse_wrapped parsed
    rfl

/-- No message of fixed length has this discriminator. -/
theorem fixed_silent (mti ti : Nat) : FixedMessage.parseBody SMFormat.pd mti ti = none := by
  rfl

/-- A parsed message came from the parser of its type. -/
theorem body_of_parsed
    (parsed : FieldParser.parse (Parser.parseStandardBody (others rest) hdr) octets =
      some (.other (.inl msg))) :
    ∃ parser, parseBody hdr.mti = some parser ∧
      FieldParser.parse parser octets = some msg := by
  rw [Parser.parseStandardBody] at parsed
  split at parsed
  case h_1 =>
    rw [parse_map] at parsed
    obtain ⟨fixed, -, same⟩ := Option.map_eq_some_iff.mp parsed
    cases same
  case h_2 =>
    rw [parse_map] at parsed
    obtain ⟨found, read, same⟩ := Option.map_eq_some_iff.mp parsed
    cases same
    rw [others] at read
    split at read
    case isFalse =>
      rw [parse_map] at read
      obtain ⟨other, -, same⟩ := Option.map_eq_some_iff.mp read
      cases same
    case isTrue =>
      cases entry : parseBody hdr.mti with
      | none =>
          rw [entry] at read
          cases read
      | some parser =>
          rw [entry] at read
          dsimp only at read
          rw [parse_map] at read
          obtain ⟨inner, read, same⟩ := Option.map_eq_some_iff.mp read
          cases same
          exact ⟨parser, rfl, read⟩

theorem parseHandoverAccess_other {N : Type} {other : N} :
    (Parser.parseHandoverAccess data : Except ParseError (ParsedMessage N)).toOption ≠
      some (.other other) := by
  intro same
  rw [Parser.parseHandoverAccess] at same
  cases read : Parser.runOn L3HandoverAccess.parse data with
  | error error =>
      rw [read] at same
      cases same
  | ok result =>
      rw [read] at same
      cases same

/-- A message of the discriminator stands behind its header. -/
theorem body_of_parseL3
    (accepted : Parser.parseL3 (others rest) requireFullConsumption data =
      .ok (.other (.inl msg))) :
    ∃ hdr parser, parseL3Header data = .ok hdr ∧ parseBody hdr.mti = some parser ∧
      FieldParser.parse parser (data.drop 2) = some msg := by
  have behind {hdr : L3Header} {left : Nat} (header : parseL3Header data = .ok hdr)
      (run : Parser.runOn (Parser.parseStandardBody (others rest) hdr) (data.drop 2) =
        .ok (.other (.inl msg), left)) :
      ∃ hdr parser, parseL3Header data = .ok hdr ∧ parseBody hdr.mti = some parser ∧
        FieldParser.parse parser (data.drop 2) = some msg := by
    obtain ⟨parser, entry, read⟩ := body_of_parsed (parse_of_runOn run)
    exact ⟨hdr, parser, header, entry, read⟩
  have standard (accepted : Parser.parseStandard (others rest) requireFullConsumption data =
      .ok (.other (.inl msg))) :
      ∃ hdr parser, parseL3Header data = .ok hdr ∧ parseBody hdr.mti = some parser ∧
        FieldParser.parse parser (data.drop 2) = some msg := by
    rw [Parser.parseStandard] at accepted
    split at accepted
    case h_1 => cases accepted
    case h_2 hdr header =>
      split at accepted
      case h_1 => cases accepted
      case h_2 found remainingBits run =>
        split at accepted
        case isTrue => cases accepted
        case isFalse =>
          obtain rfl := Except.ok.inj accepted
          exact behind header run
  rw [Parser.parseL3] at accepted
  split at accepted
  case isTrue => cases accepted
  case isFalse =>
    split at accepted
    case isTrue =>
      cases read : Parser.runOn (readField 8) data with
      | error error =>
          rw [read] at accepted
          cases accepted
      | ok result =>
          rw [read] at accepted
          cases accepted
    case isFalse =>
      split at accepted
      case isFalse => exact standard accepted
      case isTrue =>
        cases four : Parser.parseFourOctets (others rest) data with
        | none =>
            rw [four] at accepted
            exact standard accepted
        | some found =>
            rw [four] at accepted
            obtain rfl := Except.ok.inj accepted
            rw [Parser.parseFourOctets] at four
            split at four
            case isTrue => exact absurd four parseHandoverAccess_other
            case isFalse =>
              rcases Option.or_eq_some_iff.mp four with exactly | ⟨-, short⟩
              · rw [Parser.parseExactly] at exactly
                split at exactly
                case h_1 => cases exactly
                case h_2 hdr header =>
                  split at exactly
                  case h_1 found run =>
                    obtain rfl := Option.some.inj exactly
                    exact behind header run
                  case h_2 => cases exactly
              · exact absurd short parseHandoverAccess_other

theorem length_of_header (header : parseL3Header data = .ok hdr) :
    data.length = 2 + (data.drop 2).length := by
  match data with
  | [] | [_] => cases header
  | _ :: _ :: data => exact Nat.add_comm data.length 2

section Formed

variable {Part : Type} {format : SMFormat Part} {reader : OctetParser Part}
  {wrap : SMMessage Part → SM} {inner : SMMessage Part}

/-- The header of a message is one the parser looks behind. -/
theorem Formed.standard (formed : Formed msg format reader wrap inner) :
    Parser.WrittenStandard msg.encoding := by
  rw [formed.encoding]
  exact SMFormat.writtenStandard formed.leading formed.header inner

/-- Behind the header stands what the message writes. -/
theorem Formed.body (formed : Formed msg format reader wrap inner) :
    msg.encoding.octets.drop 2 = octetsWritten (format.write inner) := by
  rw [formed.standard.octets_eq, formed.encoding]
  exact SMFormat.body_encoding formed.leading inner

/-- A message takes its header and the octets counted for its body. -/
theorem Formed.wireLength (formed : Formed msg format reader wrap inner) :
    msg.encoding.octets.length = 2 + format.bodyLength inner := by
  rw [formed.standard.octets_eq, List.length_cons, List.length_cons, L3Encoding.body_length,
    formed.encoding, Nat.add_comm 2]
  rfl

/-- The message behind a header of its type. -/
theorem Formed.parse_iff (formed : Formed msg format reader wrap inner) :
    FieldParser.parse (wrap <$> format.parse) octets = some msg ↔
      FieldParser.parse format.parse octets = some inner := by
  constructor
  · intro parsed
    obtain ⟨found, read, same⟩ := parse_wrapped parsed
    rw [formed.wrapped] at same
    rwa [formed.injective same] at read
  · intro read
    rw [parse_map, read, formed.wrapped]
    rfl

/-- What `parseL3` makes of a message that is written again is what its body is read as. -/
theorem Formed.parseL3_iff (formed : Formed msg format reader wrap inner) :
    Parser.parseL3 (others rest) requireFullConsumption msg.encoding.octets =
        .ok (.other (.inl msg)) ↔
      FieldParser.parse format.parse (octetsWritten (format.write inner)) = some inner := by
  have mti : msg.encoding.mti = format.mti := congrArg L3Encoding.mti formed.encoding
  have pd : msg.encoding.pd = SMFormat.pd := congrArg L3Encoding.pd formed.encoding
  constructor
  · intro accepted
    obtain ⟨hdr, parser, header, entry, read⟩ := body_of_parseL3 accepted
    rw [formed.standard.parseL3Header_eq] at header
    obtain rfl := Except.ok.inj header
    change parseBody msg.encoding.mti = some parser at entry
    rw [mti, formed.entry] at entry
    obtain rfl := Option.some.inj entry
    rw [formed.body] at read
    exact formed.parse_iff.mp read
  · intro read
    apply Parser.parseL3_written formed.standard
    have takes := SMFormat.takesAll_parse formed.leading read
    have written : BitWriter.fields 0 msg.encoding.fields =
        bitString (octetsWritten (format.write inner)) := by
      rw [formed.encoding]
      exact BitWriter.fields_whole (SMFormat.whole_write formed.leading inner) 0
    have silent : FixedMessage.parseBody (Parser.readHeader msg.encoding).pd
        (Parser.readHeader msg.encoding).mti (Parser.readHeader msg.encoding).ti = none := by
      change FixedMessage.parseBody msg.encoding.pd _ _ = none
      rw [pd, fixed_silent]
    have own : (Parser.readHeader msg.encoding).pd = SMFormat.pd := pd
    have found : parseBody (Parser.readHeader msg.encoding).mti = some (wrap <$> format.parse) := by
      change parseBody msg.encoding.mti = _
      rw [mti, formed.entry]
    rw [Parser.parseStandardBody, silent, others, if_pos own, found, written, formed.wrapped]
    exact ((takes.yield wrap).yield Sum.inl).yield ParsedMessage.other

end Formed

/-- A message announces the octets that it is written with. -/
theorem encoding_exact (msg : SM) (size : msg.encoding.bodyLength * 8 < 2 ^ 64) :
    msg.encoding.Exact := by
  obtain ⟨Part, format, reader, wrap, inner, formed⟩ := msg.formed
  exact ⟨fun _ _ => size, formed.standard.length⟩

/-- A parsed message is written in no more octets than it was parsed from; parsed again, they are
the same message exactly where it could not have an address among its options, or has one, or no
octet was lost. -/
theorem parsed_again (size : data.length * 8 < 2 ^ 64)
    (accepted : Parser.parseL3 (others rest) requireFullConsumption data =
      .ok (.other (.inl msg))) {out buffer : List UInt8} {n : Nat}
    (written : msg.encoding.writeL3Body out = .ok (buffer, n)) :
    n ≤ data.length ∧
      (Parser.parseL3 (others rest) requireFullConsumption (buffer.take n) =
          .ok (.other (.inl msg)) ↔
        ∀ options ∈ msg.addressable, options.pdpAddress ≠ none ∨ n = data.length) := by
  obtain ⟨Part, format, reader, wrap, inner, formed⟩ := msg.formed
  obtain ⟨hdr, parser, header, entry, read⟩ := body_of_parseL3 accepted
  have mti : msg.encoding.mti = format.mti := congrArg L3Encoding.mti formed.encoding
  rw [← mti_of_parsed entry read, mti, formed.entry] at entry
  obtain rfl := Option.some.inj entry
  have parsed := formed.parse_iff.mp read
  have count := length_of_header header
  have fewer := SMFormat.bodyLength_le formed.leading parsed
  have announced : msg.encoding.bodyLength = format.bodyLength inner :=
    congrArg L3Encoding.bodyLength formed.encoding
  obtain ⟨wire, taken⟩ := (msg.encoding_exact (by omega)).written written
  have length : n = 2 + format.bodyLength inner := by
    rw [wire, ← L3Encoding.octets_length, formed.wireLength]
  have whole : n = data.length ↔ format.bodyLength inner = (data.drop 2).length := by omega
  have unknown : ∀ known ∈ format.known, known.pdpAddress = true →
      known.tearDownIndicator = false := by
    intro known member address
    have both := formed.unknown
    rw [Option.mem_def.mp member, Option.all_some, address, Bool.true_and] at both
    exact Bool.not_eq_true' _ ▸ both
  refine ⟨by omega, ?_⟩
  rw [taken, formed.parseL3_iff, SMFormat.parse_write_iff formed.leading unknown parsed, whole,
    formed.addressable]
  cases format.known with
  | none =>
      apply iff_of_true
      · nofun
      · nofun
  | some known =>
      rw [Option.bind_some]
      cases knows : known.pdpAddress with
      | false =>
          apply iff_of_true
          · rintro _ ⟨⟩ address
            cases knows.symm.trans address
          · exact nofun
      | true =>
          constructor
          · rintro settled _ ⟨⟩
            exact settled known rfl knows
          · rintro settled _ ⟨⟩ _
            exact settled inner.options rfl

/-- An accept whose address is refused behind its first octet: that octet is lost. -/
theorem parsed_again_refused :
    let rest (_ : L3Header) : FieldParser Unit := pure ()
    let msg : SM := .activatePDPContextAccept {
      part := {
        lLcSapi := 3
        qos := { delayClass := 1, reliabilityClass := 1 }
        radioPriority := 1 }
      options := { additionalIes := [0x2B, 2, 0x21, 0x27] } }
    ∃ buffer, msg.encoding.writeL3Body (.replicate 16 0) = .ok (buffer, 12) ∧
      Parser.parseL3 (others rest) true (buffer.take 12) ≠ .ok (.other (.inl msg)) := by
  intro rest msg
  have accepted : Parser.parseL3 (others rest) true
      [0x0A, 0x42, 3, 3, 0x09, 0, 0, 1, 0x2B, 2, 0xF1, 0x21, 0x27] = .ok (.other (.inl msg)) := by
    rfl
  have written : msg.encoding.writeL3Body (.replicate 16 0) =
      .ok (msg.encoding.octets ++ (List.replicate 16 0).drop 12, 12) :=
    (msg.encoding_exact (by decide)).writeL3Body (by decide)
  refine ⟨_, written, fun again => ?_⟩
  have outcome := (parsed_again (by decide) accepted written).2.mp again _ rfl
  rcases outcome with found | whole
  · exact found rfl
  · cases whole

end Frames

end SM

end Gsml3
