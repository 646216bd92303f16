import Gsml3.SM.Resorting

/-!
# The leading parts of session management messages

Each part is read from as many octets as it is written with, and read again from these in front of
any others.
-/

namespace Gsml3

open BitWriter (Op octetsWritten)
open FieldParser
open OctetParser (Recovers Yields)

/-! ## Half octets -/

/-- A value in the low half of an octet, whose high half must be 0. -/
def lowNibbleOctets : OctetParser UInt8 := do
  let octet ← OctetParser.next
  if octet &&& 0xF0 ≠ 0 then failure else pure (octet &&& 0x0F)

/-- A value in the low half is read octet by octet. -/
theorem octetwise_readLowNibble (what : String) :
    Octetwise (readLowNibble what) lowNibbleOctets := by
  apply octetwise_readOctet.bind
  intro octet
  exact .ite (fun _ => .refuse _ _) fun _ => .pure _

theorem octets_lowNibble (value : UInt8) :
    octetsWritten (writeLowNibble value) = [value &&& 0x0F] := by
  rw [writeLowNibble, BitWriter.octetsWritten_cons, BitWriter.octetsWritten_nil, Op.octets,
    UInt8.toUInt8_toUInt32, List.append_nil]

/-- A value that was read is written as its octet. -/
theorem recovers_lowNibble :
    Recovers lowNibbleOctets fun value => octetsWritten (writeLowNibble value) := by
  intro octets value rest read
  obtain ⟨octet, left, one, two⟩ := OctetParser.bind_eq_some.mp read
  obtain ⟨size, again⟩ := OctetParser.recovers_next octets octet left one
  split at two
  case isTrue => cases two
  case isFalse =>
    obtain ⟨rfl, rfl⟩ := Prod.mk.inj (Option.some.inj two)
    dsimp only
    rw [octets_lowNibble]
    refine ⟨size, fun more => ?_⟩
    obtain ⟨same, clear⟩ := L3PDPAddress.masked_nibble octet
    rw [same, lowNibbleOctets]
    change (if (octet &&& 0x0F) &&& 0xF0 ≠ 0 then failure
      else pure ((octet &&& 0x0F) &&& 0x0F) : OctetParser UInt8) more = _
    rw [if_neg (not_not.mpr clear), same]
    rfl

/-! ## Quality of service -/

namespace L3QoS

/-- The quality of service of a value of `lengthBytes` octets. -/
def ofOctets (lengthBytes : Nat) : OctetParser L3QoS :=
  if lengthBytes < 3 then failure
  else do
    let octet1 ← OctetParser.next
    if octet1 &&& 0xC0 ≠ 0 then failure
    else
      let octet2 ← OctetParser.next
      if octet2 &&& 0x08 ≠ 0 then failure
      else
        let octet3 ← OctetParser.next
        if octet3 &&& 0xE0 ≠ 0 then failure
        else
          let additionalCharacteristics ← OctetParser.take (lengthBytes - 3)
          pure {
            delayClass := (octet1 >>> 3) &&& 0x07
            reliabilityClass := octet1 &&& 0x07
            peakThroughput := (octet2 >>> 4) &&& 0x0F
            precedenceClass := octet2 &&& 0x07
            meanThroughput := octet3 &&& 0x1F
            additionalCharacteristics }

/-- A quality of service is read octet by octet. -/
theorem octetwise_parse (lengthBytes : Nat) :
    Octetwise (parse lengthBytes) (ofOctets lengthBytes) := by
  apply Octetwise.ite
  · exact fun _ => .refuse _ _
  · intro _
    apply octetwise_readOctet.bind
    intro octet1
    apply Octetwise.ite
    · exact fun _ => .refuse _ _
    · intro _
      apply octetwise_readOctet.bind
      intro octet2
      apply Octetwise.ite
      · exact fun _ => .refuse _ _
      · intro _
        apply octetwise_readOctet.bind
        intro octet3
        apply Octetwise.ite
        · exact fun _ => .refuse _ _
        · intro _
          exact (octetwise_readBytes _).bind fun _ => .pure _

/-- The values of the first three octets. -/
def ofFields (octet1 octet2 octet3 : UInt8) (additionalCharacteristics : List UInt8) : L3QoS where
  delayClass := (octet1 >>> 3) &&& 0x07
  reliabilityClass := octet1 &&& 0x07
  peakThroughput := (octet2 >>> 4) &&& 0x0F
  precedenceClass := octet2 &&& 0x07
  meanThroughput := octet3 &&& 0x1F
  additionalCharacteristics := additionalCharacteristics

/-- Three octets without reserved bits, and those behind them. -/
theorem run_cons {octet1 octet2 octet3 : UInt8} {more rest : List UInt8}
    (clear1 : octet1 &&& 0xC0 = 0) (clear2 : octet2 &&& 0x08 = 0) (clear3 : octet3 &&& 0xE0 = 0) :
    ofOctets (3 + more.length) (octet1 :: octet2 :: octet3 :: (more ++ rest)) =
      some (ofFields octet1 octet2 octet3 more, rest) := by
  rw [ofOctets, if_neg (Nat.not_lt.mpr (Nat.le_add_right 3 _))]
  change (if octet1 &&& 0xC0 ≠ 0 then failure else _ : OctetParser L3QoS) _ = _
  rw [if_neg (not_not.mpr clear1)]
  change (if octet2 &&& 0x08 ≠ 0 then failure else _ : OctetParser L3QoS) _ = _
  rw [if_neg (not_not.mpr clear2)]
  change (if octet3 &&& 0xE0 ≠ 0 then failure else _ : OctetParser L3QoS) _ = _
  rw [if_neg (not_not.mpr clear3), Nat.add_sub_cancel_left,
    OctetParser.bind_of_eq (OctetParser.take_append more rest)]
  rfl

/-- A quality of service that was read had no reserved bits. -/
theorem of_read {lengthBytes : Nat} {octets rest : List UInt8} {qos : L3QoS}
    (read : ofOctets lengthBytes octets = some (qos, rest)) :
    ∃ octet1 octet2 octet3 more, octet1 &&& 0xC0 = 0 ∧ octet2 &&& 0x08 = 0 ∧
      octet3 &&& 0xE0 = 0 ∧ lengthBytes = 3 + more.length ∧
      octets = octet1 :: octet2 :: octet3 :: (more ++ rest) ∧
      qos = ofFields octet1 octet2 octet3 more := by
  have next_some {octets rest : List UInt8} {octet : UInt8}
      (read : OctetParser.next octets = some (octet, rest)) : octets = octet :: rest := by
    cases octets with
    | nil => cases read
    | cons first behind =>
        obtain ⟨rfl, rfl⟩ := Prod.mk.inj (Option.some.inj read)
        rfl
  rw [ofOctets] at read
  split at read
  case isTrue => cases read
  case isFalse long =>
    obtain ⟨octet1, behind1, one, read⟩ := OctetParser.bind_eq_some.mp read
    split at read
    case isTrue => cases read
    case isFalse clear1 =>
      obtain ⟨octet2, behind2, two, read⟩ := OctetParser.bind_eq_some.mp read
      split at read
      case isTrue => cases read
      case isFalse clear2 =>
        obtain ⟨octet3, behind3, three, read⟩ := OctetParser.bind_eq_some.mp read
        split at read
        case isTrue => cases read
        case isFalse clear3 =>
          obtain ⟨more, behind4, four, read⟩ := OctetParser.bind_eq_some.mp read
          obtain ⟨same, rfl⟩ := Prod.mk.inj (Option.some.inj read)
          obtain ⟨size, rfl⟩ := OctetParser.take_eq_some four
          rw [next_some one, next_some two, next_some three]
          exact ⟨octet1, octet2, octet3, more, not_not.mp clear1, not_not.mp clear2,
            not_not.mp clear3, by omega, rfl, same.symm⟩

/-- The octets that a quality of service is written as. -/
theorem octets_write (qos : L3QoS) :
    octetsWritten qos.write =
      ((qos.delayClass &&& 0x07) <<< 3 ||| (qos.reliabilityClass &&& 0x07)) ::
        ((qos.peakThroughput &&& 0x0F) <<< 4 ||| (qos.precedenceClass &&& 0x07)) ::
          (qos.meanThroughput &&& 0x1F) :: qos.additionalCharacteristics := by
  have three (value : UInt8) : (value.toUInt32 <<< 3).toUInt8 = value <<< 3 := by
    revert value
    apply Foundation.forall_octet
    decide
  have four (value : UInt8) : (value.toUInt32 <<< 4).toUInt8 = value <<< 4 := by
    revert value
    apply Foundation.forall_octet
    decide
  simp only [write, SMOptions.octets_writeFilled, BitWriter.octetsWritten_cons, Op.octets,
    UInt32.toUInt8_or, three, four, UInt8.toUInt8_toUInt32, List.cons_append, List.nil_append]

/-- The fields of an octet without reserved bits give the octet again. -/
theorem fields_again : ∀ octet : UInt8,
    (octet &&& 0xC0 = 0 → (((octet >>> 3) &&& 0x07) &&& 0x07) <<< 3 |||
        ((octet &&& 0x07) &&& 0x07) = octet) ∧
      (octet &&& 0x08 = 0 → (((octet >>> 4) &&& 0x0F) &&& 0x0F) <<< 4 |||
        ((octet &&& 0x07) &&& 0x07) = octet) ∧
      (octet &&& 0xE0 = 0 → (octet &&& 0x1F) &&& 0x1F = octet) := by
  apply Foundation.forall_octet
  decide

/-- What is read is written as it stood. -/
theorem octets_ofFields {octet1 octet2 octet3 : UInt8} {more : List UInt8}
    (clear1 : octet1 &&& 0xC0 = 0) (clear2 : octet2 &&& 0x08 = 0) (clear3 : octet3 &&& 0xE0 = 0) :
    octetsWritten (ofFields octet1 octet2 octet3 more).write =
      octet1 :: octet2 :: octet3 :: more := by
  rw [octets_write]
  change ((((octet1 >>> 3) &&& 0x07) &&& 0x07) <<< 3 ||| ((octet1 &&& 0x07) &&& 0x07)) ::
    ((((octet2 >>> 4) &&& 0x0F) &&& 0x0F) <<< 4 ||| ((octet2 &&& 0x07) &&& 0x07)) ::
      ((octet3 &&& 0x1F) &&& 0x1F) :: more = _
  rw [(fields_again octet1).1 clear1, (fields_again octet2).2.1 clear2,
    (fields_again octet3).2.2 clear3]

end L3QoS

/-- A quality of service behind its length octet. -/
def qosOctets : OctetParser L3QoS := do
  let length ← OctetParser.next
  L3QoS.ofOctets length.toNat

theorem octetwise_readQoS : Octetwise readQoS qosOctets :=
  octetwise_readOctet.bind fun length => L3QoS.octetwise_parse length.toNat

theorem octets_writeQoS (qos : L3QoS) :
    octetsWritten (writeQoS qos) = UInt8.ofNat qos.lengthV :: octetsWritten qos.write := by
  rw [writeQoS, BitWriter.octetsWritten_cons, Op.octets, UInt32.toUInt8_ofNat']
  rfl

/-- A quality of service that was read is written as its octets. -/
theorem recovers_qos : Recovers qosOctets fun qos => octetsWritten (writeQoS qos) := by
  intro octets qos rest read
  obtain ⟨length, left, one, two⟩ := OctetParser.bind_eq_some.mp read
  obtain ⟨octet1, octet2, octet3, more, clear1, clear2, clear3, size, rfl, rfl⟩ :=
    L3QoS.of_read two
  have first := (OctetParser.recovers_next octets length _ one).1
  have announced : UInt8.ofNat (L3QoS.ofFields octet1 octet2 octet3 more).lengthV = length := by
    change UInt8.ofNat (3 + more.length) = length
    rw [← size, UInt8.ofNat_toNat]
  dsimp only
  rw [octets_writeQoS, announced, L3QoS.octets_ofFields clear1 clear2 clear3]
  constructor
  · rw [first]
    simp only [List.length_cons, List.length_nil, List.length_append]
    omega
  · intro later
    change L3QoS.ofOctets length.toNat (octet1 :: octet2 :: octet3 :: (more ++ later)) = _
    rw [size, L3QoS.run_cons clear1 clear2 clear3]

/-! ## Addresses -/

/-- A PDP address behind its length octet. -/
def pdpAddressOctets : OctetParser L3PDPAddress := do
  let length ← OctetParser.next
  fun octets => ((L3PDPAddress.ofOctets length.toNat).run.run octets).1.map fun addr =>
    (addr, ((L3PDPAddress.ofOctets length.toNat).run.run octets).2)

theorem octetwise_readPDPAddress : Octetwise readPDPAddress pdpAddressOctets :=
  octetwise_readOctet.bind fun length => (L3PDPAddress.halts_parse length.toNat).required

theorem octets_writePDPAddress (addr : L3PDPAddress) :
    octetsWritten (writePDPAddress addr) = UInt8.ofNat addr.lengthV :: addr.octets := by
  rw [writePDPAddress, BitWriter.octetsWritten_cons, Op.octets, UInt32.toUInt8_ofNat']
  rfl

/-- An address that was read is written as its octets. -/
theorem recovers_pdpAddress :
    Recovers pdpAddressOctets fun addr => octetsWritten (writePDPAddress addr) := by
  intro octets addr rest read
  obtain ⟨length, left, one, two⟩ := OctetParser.bind_eq_some.mp read
  obtain ⟨found, same, same_pair⟩ := Option.map_eq_some_iff.mp two
  obtain ⟨rfl, behind⟩ := Prod.mk.inj same_pair
  obtain ⟨canonical, size, count⟩ := L3PDPAddress.of_read (Prod.ext same behind)
  have first : octets.length = 1 + left.length :=
    (OctetParser.recovers_next octets length left one).1
  have announced : UInt8.ofNat found.lengthV = length := by
    rw [← size, UInt8.ofNat_toNat]
  dsimp only
  rw [octets_writePDPAddress, announced]
  constructor
  · have same := found.octets_length
    rw [first, List.length_cons]
    omega
  · intro more
    have again := L3PDPAddress.reads_octets canonical more
    rw [← size] at again
    change ((L3PDPAddress.ofOctets length.toNat).run.run (found.octets ++ more)).1.map (fun addr =>
      (addr, ((L3PDPAddress.ofOctets length.toNat).run.run (found.octets ++ more)).2)) = _
    rw [again]
    rfl

/-! ## Whole octets -/

theorem whole_writeFilled (octets : List UInt8) : ∀ op ∈ writeFilled octets, op.Whole := by
  rw [writeFilled]
  split
  case isTrue => exact nofun
  case isFalse => exact List.forall_mem_singleton.mpr trivial

theorem whole_lowNibble (value : UInt8) : ∀ op ∈ writeLowNibble value, op.Whole :=
  List.forall_mem_singleton.mpr rfl

theorem whole_writeQoS (qos : L3QoS) : ∀ op ∈ writeQoS qos, op.Whole := by
  have front : ∀ op ∈ [Op.writeField (((qos.delayClass &&& 0x07).toUInt32 <<< 3) |||
        (qos.reliabilityClass &&& 0x07).toUInt32) 8,
      .writeField (((qos.peakThroughput &&& 0x0F).toUInt32 <<< 4) |||
        (qos.precedenceClass &&& 0x07).toUInt32) 8,
      .writeField (qos.meanThroughput &&& 0x1F).toUInt32 8], op.Whole := by
    simp [Op.Whole]
  have values : ∀ op ∈ qos.write, op.Whole :=
    List.forall_mem_append.mpr ⟨front, whole_writeFilled _⟩
  exact List.forall_mem_cons.mpr ⟨rfl, values⟩

theorem whole_writePDPAddress (addr : L3PDPAddress) : ∀ op ∈ writePDPAddress addr, op.Whole :=
  List.forall_mem_cons.mpr ⟨rfl, addr.whole_write⟩

/-! ## Parts -/

/-- How the leading part of a message is read and written. -/
structure LeadingPart {Part : Type} (format : SMFormat Part) (reader : OctetParser Part) :
    Prop where
  octetwise : Octetwise format.parsePart reader
  recovers : Recovers reader fun part => octetsWritten (format.writePart part)
  whole : ∀ part, ∀ op ∈ format.writePart part, op.Whole
  length : ∀ part, (octetsWritten (format.writePart part)).length = format.partLength part

/-- The length octet and the value. -/
theorem length_writeQoS (qos : L3QoS) :
    (octetsWritten (writeQoS qos)).length = 1 + qos.lengthV := by
  rw [octets_writeQoS, L3QoS.octets_write, L3QoS.lengthV]
  simp only [List.length_cons]
  omega

theorem length_writePDPAddress (addr : L3PDPAddress) :
    (octetsWritten (writePDPAddress addr)).length = 1 + addr.lengthV := by
  rw [octets_writePDPAddress, List.length_cons, addr.octets_length, Nat.add_comm]

/-- The cause of a message is read octet by octet and written again. -/
theorem leadingPart_cause (mti : Nat) (known : Option KnownElements) (truncated : String) :
    LeadingPart (.cause mti known truncated) OctetParser.next where
  octetwise := octetwise_readOctet
  recovers := by
    intro octets cause rest read
    have octet :
        octetsWritten ((SMFormat.cause mti known truncated).writePart cause) = [cause] := by
      change [cause.toUInt32.toUInt8] = _
      rw [UInt8.toUInt8_toUInt32]
    dsimp only
    rw [octet]
    exact OctetParser.recovers_next octets cause rest read
  whole _ := List.forall_mem_singleton.mpr rfl
  length _ := rfl

/-- The part of a context message, octet by octet. -/
def contextOctets : OctetParser ContextPart := do
  let pdpHandle ← lowNibbleOctets
  let qos ← qosOctets
  pure { pdpHandle, qos }

/-- The handle and quality of service are read octet by octet and written again. -/
theorem leadingPart_context (mti : Nat) (known : KnownElements) (truncated : String) :
    LeadingPart (.context mti known truncated) contextOctets where
  octetwise :=
    (octetwise_readLowNibble _).bind fun _ => octetwise_readQoS.bind fun _ => Octetwise.pure _
  recovers := by
    have behind (pdpHandle : UInt8) : Recovers (do
        let qos ← qosOctets
        pure { pdpHandle, qos }) fun part : ContextPart => octetsWritten (writeQoS part.qos) := by
      apply recovers_qos.bind fun qos => OctetParser.recovers_pure _
      exact fun qos => OctetParser.yields_pure (List.append_nil _).symm
    apply recovers_lowNibble.bind behind
    intro pdpHandle
    apply Yields.bind
    exact fun qos => OctetParser.yields_pure (BitWriter.octetsWritten_append _ _)
  whole part := List.forall_mem_append.mpr ⟨whole_lowNibble _, whole_writeQoS _⟩
  length part := by
    change (octetsWritten (ContextPart.write part)).length = ContextPart.length part
    rw [ContextPart.write, BitWriter.octetsWritten_append, List.length_append, length_writeQoS]
    rfl

/-- The part of an addressed context message, octet by octet. -/
def addressedContextOctets : OctetParser AddressedContextPart := do
  let pdpHandle ← lowNibbleOctets
  let qos ← qosOctets
  let pdpAddress ← pdpAddressOctets
  pure { pdpHandle, qos, pdpAddress }

/-- The part with an address is read octet by octet and written again. -/
theorem leadingPart_addressedContext (mti : Nat) (truncated : String) :
    LeadingPart (.addressedContext mti truncated) addressedContextOctets where
  octetwise :=
    (octetwise_readLowNibble _).bind fun _ => octetwise_readQoS.bind fun _ =>
      octetwise_readPDPAddress.bind fun _ => Octetwise.pure _
  recovers := by
    have address (pdpHandle : UInt8) (qos : L3QoS) : Recovers (do
        let pdpAddress ← pdpAddressOctets
        pure { pdpHandle, qos, pdpAddress }) fun part : AddressedContextPart =>
          octetsWritten (writePDPAddress part.pdpAddress) := by
      apply recovers_pdpAddress.bind fun pdpAddress => OctetParser.recovers_pure _
      exact fun pdpAddress => OctetParser.yields_pure (List.append_nil _).symm
    have behind (pdpHandle : UInt8) : Recovers (do
        let qos ← qosOctets
        let pdpAddress ← pdpAddressOctets
        pure { pdpHandle, qos, pdpAddress }) fun part : AddressedContextPart =>
          octetsWritten (writeQoS part.qos ++ writePDPAddress part.pdpAddress) := by
      apply recovers_qos.bind (address pdpHandle)
      intro qos
      apply Yields.bind
      exact fun pdpAddress => OctetParser.yields_pure (BitWriter.octetsWritten_append _ _)
    apply recovers_lowNibble.bind behind
    intro pdpHandle
    apply Yields.bind
    intro qos
    apply Yields.bind
    intro pdpAddress
    apply OctetParser.yields_pure
    rw [← BitWriter.octetsWritten_append, ← List.append_assoc]
    rfl
  whole part :=
    List.forall_mem_append.mpr ⟨List.forall_mem_append.mpr ⟨whole_lowNibble _, whole_writeQoS _⟩,
      whole_writePDPAddress _⟩
  length part := by
    change (octetsWritten (AddressedContextPart.write part)).length =
      AddressedContextPart.length part
    rw [AddressedContextPart.write, BitWriter.octetsWritten_append,
      BitWriter.octetsWritten_append, List.length_append, List.length_append, length_writeQoS,
      length_writePDPAddress]
    rfl

/-- The quality of service is read octet by octet and written again. -/
theorem leadingPart_service (mti : Nat) (truncated : String) :
    LeadingPart (.service mti truncated) qosOctets where
  octetwise := octetwise_readQoS
  recovers := recovers_qos
  whole := whole_writeQoS
  length := length_writeQoS

/-- The part of an activation request, octet by octet. -/
def activateRequestOctets : OctetParser ActivateRequestPart := do
  let nSapi ← lowNibbleOctets
  let lLcSapi ← lowNibbleOctets
  let qos ← qosOctets
  let pdpAddress ← pdpAddressOctets
  pure { nSapi, lLcSapi, qos, pdpAddress }

/-- The part of an activation request is read octet by octet and written again. -/
theorem leadingPart_activateRequest :
    LeadingPart L3ActivatePDPContextRequest activateRequestOctets where
  octetwise :=
    (octetwise_readLowNibble _).bind fun _ => (octetwise_readLowNibble _).bind fun _ =>
      octetwise_readQoS.bind fun _ => octetwise_readPDPAddress.bind fun _ => Octetwise.pure _
  recovers := by
    have address (nSapi lLcSapi : UInt8) (qos : L3QoS) : Recovers (do
        let pdpAddress ← pdpAddressOctets
        pure { nSapi, lLcSapi, qos, pdpAddress }) fun part : ActivateRequestPart =>
          octetsWritten (writePDPAddress part.pdpAddress) := by
      apply recovers_pdpAddress.bind fun pdpAddress => OctetParser.recovers_pure _
      exact fun pdpAddress => OctetParser.yields_pure (List.append_nil _).symm
    have quality (nSapi lLcSapi : UInt8) : Recovers (do
        let qos ← qosOctets
        let pdpAddress ← pdpAddressOctets
        pure { nSapi, lLcSapi, qos, pdpAddress }) fun part : ActivateRequestPart =>
          octetsWritten (writeQoS part.qos ++ writePDPAddress part.pdpAddress) := by
      apply recovers_qos.bind (address nSapi lLcSapi)
      intro qos
      apply Yields.bind
      exact fun pdpAddress => OctetParser.yields_pure (BitWriter.octetsWritten_append _ _)
    have behind (nSapi : UInt8) : Recovers (do
        let lLcSapi ← lowNibbleOctets
        let qos ← qosOctets
        let pdpAddress ← pdpAddressOctets
        pure { nSapi, lLcSapi, qos, pdpAddress }) fun part : ActivateRequestPart =>
          octetsWritten (writeLowNibble part.lLcSapi ++
            (writeQoS part.qos ++ writePDPAddress part.pdpAddress)) := by
      apply recovers_lowNibble.bind (quality nSapi)
      intro lLcSapi
      apply Yields.bind
      intro qos
      apply Yields.bind
      exact fun pdpAddress => OctetParser.yields_pure (BitWriter.octetsWritten_append _ _)
    apply recovers_lowNibble.bind behind
    intro nSapi
    apply Yields.bind
    intro lLcSapi
    apply Yields.bind
    intro qos
    apply Yields.bind
    intro pdpAddress
    apply OctetParser.yields_pure
    rw [← BitWriter.octetsWritten_append, ← List.append_assoc, ← List.append_assoc]
    rfl
  whole part :=
    List.forall_mem_append.mpr ⟨List.forall_mem_append.mpr ⟨List.forall_mem_append.mpr
      ⟨whole_lowNibble _, whole_lowNibble _⟩, whole_writeQoS _⟩, whole_writePDPAddress _⟩
  length part := by
    change (octetsWritten (ActivateRequestPart.write part)).length =
      ActivateRequestPart.length part
    rw [ActivateRequestPart.write, BitWriter.octetsWritten_append,
      BitWriter.octetsWritten_append, BitWriter.octetsWritten_append, List.length_append,
      List.length_append, List.length_append, length_writeQoS, length_writePDPAddress]
    rfl

/-- The part of an activation accept, octet by octet. -/
def activateAcceptOctets : OctetParser ActivateAcceptPart := do
  let lLcSapi ← lowNibbleOctets
  let qos ← qosOctets
  let radioPriority ← lowNibbleOctets
  pure { lLcSapi, qos, radioPriority }

/-- The part of an activation accept is read octet by octet and written again. -/
theorem leadingPart_activateAccept :
    LeadingPart L3ActivatePDPContextAccept activateAcceptOctets where
  octetwise :=
    (octetwise_readLowNibble _).bind fun _ => octetwise_readQoS.bind fun _ =>
      (octetwise_readLowNibble _).bind fun _ => Octetwise.pure _
  recovers := by
    have priority (lLcSapi : UInt8) (qos : L3QoS) : Recovers (do
        let radioPriority ← lowNibbleOctets
        pure { lLcSapi, qos, radioPriority }) fun part : ActivateAcceptPart =>
          octetsWritten (writeLowNibble part.radioPriority) := by
      apply recovers_lowNibble.bind fun radioPriority => OctetParser.recovers_pure _
      exact fun radioPriority => OctetParser.yields_pure (List.append_nil _).symm
    have behind (lLcSapi : UInt8) : Recovers (do
        let qos ← qosOctets
        let radioPriority ← lowNibbleOctets
        pure { lLcSapi, qos, radioPriority }) fun part : ActivateAcceptPart =>
          octetsWritten (writeQoS part.qos ++ writeLowNibble part.radioPriority) := by
      apply recovers_qos.bind (priority lLcSapi)
      intro qos
      apply Yields.bind
      exact fun radioPriority => OctetParser.yields_pure (BitWriter.octetsWritten_append _ _)
    apply recovers_lowNibble.bind behind
    intro lLcSapi
    apply Yields.bind
    intro qos
    apply Yields.bind
    intro radioPriority
    apply OctetParser.yields_pure
    rw [← BitWriter.octetsWritten_append, ← List.append_assoc]
    rfl
  whole part :=
    List.forall_mem_append.mpr ⟨List.forall_mem_append.mpr ⟨whole_lowNibble _, whole_writeQoS _⟩,
      whole_lowNibble _⟩
  length part := by
    change (octetsWritten (ActivateAcceptPart.write part)).length = ActivateAcceptPart.length part
    rw [ActivateAcceptPart.write, BitWriter.octetsWritten_append,
      BitWriter.octetsWritten_append, List.length_append, List.length_append, length_writeQoS]
    rfl

/-- Without a mandatory part there is nothing to read or write. -/
theorem leadingPart_deactivateAccept : LeadingPart L3DeactivatePDPContextAccept (pure ()) where
  octetwise := Octetwise.pure ()
  recovers := OctetParser.recovers_pure ()
  whole _ := nofun
  length _ := rfl

/-- The handle of a notification is read octet by octet and written again. -/
theorem leadingPart_notification : LeadingPart L3SMNotification lowNibbleOctets where
  octetwise := octetwise_readLowNibble _
  recovers := recovers_lowNibble
  whole := whole_lowNibble
  length _ := rfl

end Gsml3
