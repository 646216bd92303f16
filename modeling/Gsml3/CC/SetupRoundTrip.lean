import Gsml3.CC.ElementWrites
import Gsml3.Core.ElementRounds

/-!
# Setup read back

The elements of a Setup are written in a fixed order and read in any.  Each of them is read back as
its own parser reads it; without a bearer capability the default one is read.
-/

namespace Gsml3

open BitWriter (Op fields endPos)
open FieldParser

/-! ## Elements with their identifiers -/

section Tagged

variable {α : Type} {write : α → List Op}

/-- An identifier, a length and a value. -/
def writeTLV (iei : UInt8) (lengthV : α → Nat) (write : α → List Op) (value : α) : List Op :=
  .writeField iei.toUInt32 8 :: .writeField (UInt32.ofNat (lengthV value)) 8 :: write value

/-- An identifier and a value. -/
def writeTV (iei : UInt8) (write : α → List Op) (value : α) : List Op :=
  .writeField iei.toUInt32 8 :: write value

/-- An identifier that is the whole element. -/
def writeT (iei : UInt8) (_ : α) : List Op :=
  [.writeField iei.toUInt32 8]

variable {σ β : Type} {readContent : σ → Nat → FieldParser σ} {state : σ}
  {iei : UInt8} {value : α} {read : β} {pos : Nat}

theorem fields_tagged_ne (iei : UInt8) (ops : List Op) (pos : Nat) :
    fields pos (.writeField iei.toUInt32 8 :: ops) ≠ [] := by
  apply List.append_ne_nil_of_left_ne_nil
  apply List.ne_nil_of_length_pos
  exact Nat.lt_of_lt_of_eq (Nat.zero_lt_succ 7) (Foundation.valueBits_length 8 _).symm

theorem takes_element (kept : isHalfOctet iei = false) {ops : List Op} {next : σ}
    (takes : Takes (readContent state iei.toNat) (fields (pos + 8) ops) (some next)) :
    Takes (readElement readContent state) (fields pos (.writeField iei.toUInt32 8 :: ops))
      (some next) := by
  refine Takes.octetField ?_
  rw [UInt8.toUInt8_toUInt32, if_neg (Bool.eq_false_iff.mp kept)]
  exact takes

theorem takes_tlv {parse : Nat → FieldParser β} {lengthV : α → Nat} (set : β → σ)
    (content : readContent state iei.toNat = readValue parse >>= fun p => pure (set p))
    (kept : isHalfOctet iei = false) (small : lengthV value < 2 ^ 8)
    (takes : ∀ pos, Takes (parse (lengthV value)) (fields pos (write value)) (some read)) :
    Takes (readElement readContent state) (fields pos (writeTLV iei lengthV write value))
      (some (set read)) := by
  apply takes_element kept
  rw [content, readValue, bind_assoc]
  refine Takes.skipped ?_ (by simp)
  rw [stored_ofNat _ 8 (by decide), Nat.mod_eq_of_lt small]
  exact (takes _).yield set

variable {found : Option α} {reread : α → β} {ops : List Op} {final : σ}

/-- An element with a length is merged into the message if it is there. -/
theorem leads_tlv {parse : Nat → FieldParser β} {lengthV : α → Nat} (merge : σ → Option β → σ)
    (absent : merge state none = state)
    (content : readContent state iei.toNat =
      readValue parse >>= fun p => pure (merge state (some p)))
    (kept : isHalfOctet iei = false) (small : ∀ value ∈ found, lengthV value < 2 ^ 8)
    (takes : ∀ value ∈ found, ∀ pos,
      Takes (parse (lengthV value)) (fields pos (write value)) (some (reread value)))
    (rest : Leads (readElement readContent) (merge state (found.map reread))
      (fields (endPos pos (writePresent (writeTLV iei lengthV write) found)) ops) final) :
    Leads (readElement readContent) state
      (fields pos (writePresent (writeTLV iei lengthV write) found ++ ops)) final := by
  apply Leads.optional merge absent _ _ rest
  · intro value _
    exact fields_tagged_ne iei _ pos
  · intro value member
    apply takes_tlv (fun read => merge state (some read)) content kept (small value member)
    exact takes value member

theorem leads_tv {parse : FieldParser β} (merge : σ → Option β → σ)
    (absent : merge state none = state)
    (content : readContent state iei.toNat = parse >>= fun p => pure (merge state (some p)))
    (kept : isHalfOctet iei = false)
    (takes : ∀ value ∈ found, ∀ pos, Takes parse (fields pos (write value)) (some (reread value)))
    (rest : Leads (readElement readContent) (merge state (found.map reread))
      (fields (endPos pos (writePresent (writeTV iei write) found)) ops) final) :
    Leads (readElement readContent) state
      (fields pos (writePresent (writeTV iei write) found ++ ops)) final := by
  apply Leads.optional merge absent _ _ rest
  · intro value _
    exact fields_tagged_ne iei _ pos
  · intro value member
    apply takes_element kept
    rw [content]
    exact (takes value member _).yield _

theorem leads_t (merge : σ → Option α → σ) (absent : merge state none = state)
    (content : ∀ value, readContent state iei.toNat = pure (merge state (some value)))
    (kept : isHalfOctet iei = false)
    (rest : Leads (readElement readContent) (merge state (found.map id))
      (fields (endPos pos (writePresent (writeT iei) found)) ops) final) :
    Leads (readElement readContent) state
      (fields pos (writePresent (writeT iei) found ++ ops)) final := by
  apply Leads.optional merge absent _ _ rest
  · intro value _
    exact fields_tagged_ne iei _ pos
  · intro value _
    apply takes_element kept
    rw [content value]
    exact Takes.pure _

/-- The octets of an element with a length. -/
def lengthTLV (lengthV : α → Nat) (found : Option α) : Nat :=
  found.elim 0 fun value => 2 + lengthV value

def lengthTV (found : Option α) : Nat :=
  found.elim 0 fun _ => 2

def lengthT (found : Option α) : Nat :=
  found.elim 0 fun _ => 1

theorem endPos_tlv {lengthV : α → Nat}
    (length : ∀ value ∈ found, ∀ pos, endPos pos (write value) = pos + 8 * lengthV value) :
    endPos pos (writePresent (writeTLV iei lengthV write) found) =
      pos + 8 * lengthTLV lengthV found := by
  cases found with
  | none => rfl
  | some value =>
      change endPos (pos + 8 + 8) (write value) = pos + 8 * (2 + lengthV value)
      rw [length value rfl]
      omega

theorem endPos_tv (length : ∀ value ∈ found, ∀ pos, endPos pos (write value) = pos + 8 * 1) :
    endPos pos (writePresent (writeTV iei write) found) = pos + 8 * lengthTV found := by
  cases found with
  | none => rfl
  | some value => exact length value rfl _

theorem endPos_t : endPos pos (writePresent (writeT iei) found) = pos + 8 * lengthT found := by
  cases found with
  | none => rfl
  | some value => rfl

/-- An element that may be missing is read back as it is just if its value is canonical. -/
theorem map_reread_eq_iff {reread : α → α} {Canonical : α → Prop}
    (own : ∀ value ∈ found, (reread value = value ↔ Canonical value)) :
    found.map reread = found ↔ ∀ value ∈ found, Canonical value := by
  cases found with
  | none => exact iff_of_true rfl nofun
  | some value =>
      rw [Option.map_some, Option.some_inj, own value rfl]
      constructor
      · rintro canonical _ ⟨⟩
        exact canonical
      · exact fun canonical => canonical value rfl

end Tagged

/-! ## Setup -/

namespace L3Setup

/-- A list of codecs is written only if there are any. -/
def writtenCodecs (msg : L3Setup) : Option L3SupportedCodecList :=
  msg.supportedCodecs.filter fun codecs => codecs.isGsmPresent || codecs.isUmtsPresent

def write (msg : L3Setup) : List Op :=
  writePresent (writeTLV 0x04 L3BearerCapability.lengthV L3BearerCapability.write)
      msg.bearerCapability ++ (
    writePresent (writeTLV 0x5c L3CallingPartyBCDNumber.lengthV L3CallingPartyBCDNumber.write)
      msg.callingParty ++ (
    writePresent (writeTLV 0x5e L3CalledPartyBCDNumber.lengthV L3CalledPartyBCDNumber.write)
      msg.calledParty ++ (
    writePresent (writeTLV 0x40 L3SupportedCodecList.lengthV L3SupportedCodecList.write)
      msg.writtenCodecs ++ (
    writePresent (writeTV 0x34 L3Signal.write) msg.signal ++ (
    writePresent (writeTLV 0x5d L3SubAddress.lengthV L3SubAddress.write) msg.subAddress ++ (
    writePresent (writeTLV 0x7c OpaqueElement.lengthV OpaqueElement.write) msg.lowLayerCompat ++ (
    writePresent (writeTLV 0x7d OpaqueElement.lengthV OpaqueElement.write)
      msg.highLayerCompat ++ (
    writePresent (writeTLV 0x7e OpaqueElement.lengthV OpaqueElement.write) msg.userUser ++ (
    writePresent (writeT 0xa1) msg.clirSuppression ++ (
    writePresent (writeT 0xa2) msg.clirInvocation ++ (
    writePresent (writeTLV 0x15 OpaqueElement.lengthV OpaqueElement.write) msg.ccCapabilities ++ (
    writePresent (writeTLV 0x2d (fun _ => 1) L3StreamIdentifier.write) msg.streamIdentifier ++ (
    writePresent (writeTLV 0x1c OpaqueElement.lengthV OpaqueElement.write) msg.facility ++ (
    writePresent (writeTLV 0x7f (fun _ => 1) L3SupServVersionIndicator.write) msg.ssVersion ++
      []))))))))))))))

/-- The announced values are as long as their octets, and counted in one. -/
structure Writable (msg : L3Setup) : Prop where
  bearerCapability : ∀ value ∈ msg.bearerCapability, value.lengthV < 256
  callingParty : ∀ value ∈ msg.callingParty, L3BCDDigits.Stored value.digits
  calledParty : ∀ value ∈ msg.calledParty, L3BCDDigits.Stored value.digits
  supportedCodecs : ∀ value ∈ msg.supportedCodecs, value.lengthV < 256
  subAddress : ∀ value ∈ msg.subAddress, value.Formed ∧ value.lengthV < 256
  lowLayerCompat : ∀ value ∈ msg.lowLayerCompat, value.data.length < 256
  highLayerCompat : ∀ value ∈ msg.highLayerCompat, value.data.length < 256
  userUser : ∀ value ∈ msg.userUser, value.data.length < 256
  ccCapabilities : ∀ value ∈ msg.ccCapabilities, value.data.length < 256
  facility : ∀ value ∈ msg.facility, value.data.length < 256

/-- The message that is read back. -/
def reread (msg : L3Setup) : L3Setup where
  calledParty := msg.calledParty.map L3CalledPartyBCDNumber.reread
  callingParty := msg.callingParty.map L3CallingPartyBCDNumber.reread
  signal := msg.signal.map L3Signal.reread
  bearerCapability := (msg.bearerCapability.map L3BearerCapability.reread).or (some {})
  supportedCodecs := msg.writtenCodecs
  facility := msg.facility
  ssVersion := msg.ssVersion.map L3SupServVersionIndicator.reread
  subAddress := msg.subAddress
  lowLayerCompat := msg.lowLayerCompat
  highLayerCompat := msg.highLayerCompat
  userUser := msg.userUser
  clirSuppression := msg.clirSuppression
  clirInvocation := msg.clirInvocation
  ccCapabilities := msg.ccCapabilities
  streamIdentifier := msg.streamIdentifier.map L3StreamIdentifier.reread

theorem Writable.codecs_small {msg : L3Setup} (writable : msg.Writable)
    {value : L3SupportedCodecList} (written : value ∈ msg.writtenCodecs) :
    value.lengthV < 2 ^ 8 :=
  writable.supportedCodecs value (Option.mem_filter_iff.mp written).1

theorem takes_ssVersion (state : L3Setup) (value : L3SupServVersionIndicator) (pos : Nat) :
    Takes (readElement readContent state)
      (fields pos (writeTLV 0x7f (fun _ => 1) L3SupServVersionIndicator.write value))
      (some { state with ssVersion := some value.reread }) := by
  exact @takes_tlv _ _ _ _ readContent state 0x7f value (some value.reread) pos readSSVersion
    (fun _ => 1) (fun read => { state with ssVersion := read.or state.ssVersion }) rfl rfl
    (Nat.one_lt_two_pow (by simp)) value.takes_readSSVersion

theorem leads (msg : L3Setup) (writable : msg.Writable) :
    Leads (readElement readContent) {} (fields 0 msg.write) msg.reread := by
  refine leads_tlv (fun state found =>
    { state with bearerCapability := found.or state.bearerCapability }) rfl rfl rfl
    writable.bearerCapability (fun value _ => value.rereads.takes) ?_
  refine leads_tlv (fun state found =>
    { state with callingParty := found.or state.callingParty }) rfl rfl rfl
    (fun value member => L3CallingPartyBCDNumber.lengthV_lt (writable.callingParty value member))
    (fun value member =>
      (L3CallingPartyBCDNumber.rereads (writable.callingParty value member)).takes) ?_
  refine leads_tlv (fun state found =>
    { state with calledParty := found.or state.calledParty }) rfl rfl rfl
    (fun value member => L3CalledPartyBCDNumber.lengthV_lt (writable.calledParty value member))
    (fun value member =>
      (L3CalledPartyBCDNumber.rereads (writable.calledParty value member)).takes) ?_
  refine leads_tlv (fun state found =>
    { state with supportedCodecs := found.or state.supportedCodecs }) rfl rfl rfl
    (fun value member => writable.codecs_small member)
    (fun value member => (L3SupportedCodecList.rereads (writable.codecs_small member)).takes) ?_
  refine leads_tv (fun state found =>
    { state with signal := found.or state.signal }) rfl rfl rfl
    (fun value _ => value.rereads.takes) ?_
  refine leads_tlv (fun state found =>
    { state with subAddress := found.or state.subAddress }) rfl rfl rfl
    (fun value member => (writable.subAddress value member).2)
    (fun value member => (L3SubAddress.rereads (writable.subAddress value member).1
      (writable.subAddress value member).2).takes) ?_
  refine leads_tlv (fun state found =>
    { state with lowLayerCompat := found.or state.lowLayerCompat }) rfl rfl rfl
    writable.lowLayerCompat (fun value _ => value.rereads.takes) ?_
  refine leads_tlv (fun state found =>
    { state with highLayerCompat := found.or state.highLayerCompat }) rfl rfl rfl
    writable.highLayerCompat (fun value _ => value.rereads.takes) ?_
  refine leads_tlv (fun state found => { state with userUser := found.or state.userUser }) rfl
    rfl rfl writable.userUser (fun value _ => value.rereads.takes) ?_
  refine leads_t (fun state found =>
    { state with clirSuppression := found.or state.clirSuppression }) rfl (fun _ => rfl) rfl ?_
  refine leads_t (fun state found =>
    { state with clirInvocation := found.or state.clirInvocation }) rfl (fun _ => rfl) rfl ?_
  refine leads_tlv (fun state found =>
    { state with ccCapabilities := found.or state.ccCapabilities }) rfl rfl rfl
    writable.ccCapabilities (fun value _ => value.rereads.takes) ?_
  refine leads_tlv (fun state found =>
    { state with streamIdentifier := found.or state.streamIdentifier }) rfl rfl rfl
    (fun _ _ => by simp) (fun value _ => value.rereads.takes) ?_
  refine leads_tlv (fun state found => { state with facility := found.or state.facility }) rfl
    rfl rfl writable.facility (fun value _ => value.rereads.takes) ?_
  refine @Leads.optional _ _ _ _ _ _ _ _ _ _ L3SupServVersionIndicator.reread
    (fun state found => { state with ssVersion := found.or state.ssVersion })
    rfl (fun _ _ => fields_tagged_ne 0x7f _ _) (fun value _ => ?_) (Leads.done ?_)
  · exact takes_ssVersion _ value _
  · simp only [reread, Option.map_id_fun, Option.or_none]
    rfl

def bodyLength (msg : L3Setup) : Nat :=
  lengthTLV L3BearerCapability.lengthV msg.bearerCapability +
    lengthTLV L3CalledPartyBCDNumber.lengthV msg.calledParty +
    lengthTLV L3CallingPartyBCDNumber.lengthV msg.callingParty +
    lengthTLV L3SupportedCodecList.lengthV msg.writtenCodecs +
    lengthTV msg.signal +
    lengthTLV L3SubAddress.lengthV msg.subAddress +
    lengthTLV OpaqueElement.lengthV msg.lowLayerCompat +
    lengthTLV OpaqueElement.lengthV msg.highLayerCompat +
    lengthTLV OpaqueElement.lengthV msg.userUser +
    lengthT msg.clirSuppression +
    lengthT msg.clirInvocation +
    lengthTLV OpaqueElement.lengthV msg.ccCapabilities +
    lengthTLV (fun _ => 1) msg.streamIdentifier +
    (lengthTLV OpaqueElement.lengthV msg.facility + lengthTLV (fun _ => 1) msg.ssVersion)

theorem endPos_write (msg : L3Setup) (writable : msg.Writable) :
    endPos 0 msg.write = msg.bodyLength * 8 := by
  unfold write
  simp only [BitWriter.endPos_append]
  rw [endPos_tlv fun value _ => value.rereads.length,
    endPos_tlv fun value member =>
      (L3CallingPartyBCDNumber.rereads (writable.callingParty value member)).length,
    endPos_tlv fun value member =>
      (L3CalledPartyBCDNumber.rereads (writable.calledParty value member)).length,
    endPos_tlv fun value member =>
      (L3SupportedCodecList.rereads (writable.codecs_small member)).length,
    endPos_tv fun value _ => value.rereads.length,
    endPos_tlv fun value member => (L3SubAddress.rereads (writable.subAddress value member).1
      (writable.subAddress value member).2).length,
    endPos_tlv fun value _ => value.rereads.length,
    endPos_tlv fun value _ => value.rereads.length,
    endPos_tlv fun value _ => value.rereads.length,
    endPos_t, endPos_t,
    endPos_tlv fun value _ => value.rereads.length,
    endPos_tlv fun value _ => value.rereads.length,
    endPos_tlv fun value _ => value.rereads.length,
    endPos_tlv fun value _ => value.rereads.length, endPos, List.foldl_nil, bodyLength]
  omega

/-- A message that is read back as it is: it has a bearer capability with octet 3a, no empty list
of codecs, and values of the width of their fields. -/
structure Canonical (msg : L3Setup) : Prop where
  ti : msg.ti = 7
  calledParty : ∀ value ∈ msg.calledParty, value.Canonical
  callingParty : ∀ value ∈ msg.callingParty, value.Canonical
  signal : ∀ value ∈ msg.signal, value.signalValue < 2 ^ 8
  bearerCapability : ∃ value ∈ msg.bearerCapability, value.haveOctet3a = true
  supportedCodecs : ∀ value ∈ msg.supportedCodecs,
    (value.isGsmPresent || value.isUmtsPresent) = true
  ssVersion : ∀ value ∈ msg.ssVersion, value.version < 2 ^ 8
  streamIdentifier : ∀ value ∈ msg.streamIdentifier, value.streamId < 2 ^ 4

theorem bearer_reread_eq_iff (bearer : Option L3BearerCapability) :
    (bearer.map L3BearerCapability.reread).or (some {}) = bearer ↔
      ∃ value ∈ bearer, value.haveOctet3a = true := by
  cases bearer with
  | none => exact iff_of_false nofun nofun
  | some capability =>
      rw [Option.map_some, Option.some_or, Option.some_inj, L3BearerCapability.reread_eq_iff]
      constructor
      · exact fun octet3a => ⟨capability, rfl, octet3a⟩
      · rintro ⟨_, ⟨⟩, octet3a⟩
        exact octet3a

theorem writtenCodecs_eq_iff (msg : L3Setup) :
    msg.writtenCodecs = msg.supportedCodecs ↔ ∀ value ∈ msg.supportedCodecs,
      (value.isGsmPresent || value.isUmtsPresent) = true := by
  rw [writtenCodecs]
  cases msg.supportedCodecs with
  | none => exact iff_of_true rfl nofun
  | some codecs =>
      rw [Option.filter_some_eq_some]
      constructor
      · rintro present _ ⟨⟩
        exact present
      · exact fun present => present codecs rfl

theorem reread_eq_iff {msg : L3Setup} (writable : msg.Writable) :
    msg.reread = msg ↔ msg.Canonical := by
  have called := map_reread_eq_iff fun value member =>
    L3CalledPartyBCDNumber.reread_eq_iff (writable.calledParty value member)
  have calling := map_reread_eq_iff fun value member =>
    L3CallingPartyBCDNumber.reread_eq_iff (writable.callingParty value member)
  have signal := @map_reread_eq_iff _ msg.signal _ _ fun value _ => value.reread_eq_iff
  have version := @map_reread_eq_iff _ msg.ssVersion _ _ fun value _ => value.reread_eq_iff
  have stream := @map_reread_eq_iff _ msg.streamIdentifier _ _ fun value _ => value.reread_eq_iff
  have bearer := bearer_reread_eq_iff msg.bearerCapability
  have codecs := msg.writtenCodecs_eq_iff
  constructor
  · intro same
    have part {γ : Type} (field : L3Setup → γ) : field msg.reread = field msg :=
      congrArg field same
    exact
      { ti := (part L3Setup.ti).symm
        calledParty := called.mp (part L3Setup.calledParty)
        callingParty := calling.mp (part L3Setup.callingParty)
        signal := signal.mp (part L3Setup.signal)
        bearerCapability := bearer.mp (part L3Setup.bearerCapability)
        supportedCodecs := codecs.mp (part L3Setup.supportedCodecs)
        ssVersion := version.mp (part L3Setup.ssVersion)
        streamIdentifier := stream.mp (part L3Setup.streamIdentifier) }
  · intro canonical
    rw [reread, called.mpr canonical.calledParty, calling.mpr canonical.callingParty,
      signal.mpr canonical.signal, bearer.mpr canonical.bearerCapability,
      codecs.mpr canonical.supportedCodecs, version.mpr canonical.ssVersion,
      stream.mpr canonical.streamIdentifier, ← canonical.ti]

end L3Setup

end Gsml3
