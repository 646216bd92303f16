import Gsml3.CC.SetupRoundTrip

/-!
# Call control messages read back

Call Proceeding, Connect, Alerting and the messages that release a call.  A bearer capability of a
Call Proceeding is skipped when it is read; the location of a released cause is not kept.
-/

namespace Gsml3

open BitWriter (Op fields endPos)
open FieldParser

/-! ## Call Proceeding -/

namespace L3CallProceeding

/-- The optional elements in the order of the message. -/
def write (msg : L3CallProceeding) : List Op :=
  writePresent (writeTLV 0x04 L3BearerCapability.lengthV L3BearerCapability.write)
      msg.bearerCapability ++ (
    writePresent (writeTV 0x1e L3ProgressIndicator.writeTV) msg.progress ++ (
    writePresent (writeTV 0x88 L3Priority.write) msg.priority ++ (
    writePresent (writeTLV 0x2f OpaqueElement.lengthV OpaqueElement.write)
      msg.networkCCCapabilities ++ [])))

/-- The announced length of the body. -/
def bodyLength (msg : L3CallProceeding) : Nat :=
  lengthTLV L3BearerCapability.lengthV msg.bearerCapability + lengthTV msg.progress +
    lengthTV msg.priority + lengthTLV OpaqueElement.lengthV msg.networkCCCapabilities

/-- The values fit behind a length octet. -/
structure Writable (msg : L3CallProceeding) : Prop where
  bearerCapability : ∀ value ∈ msg.bearerCapability, value.lengthV < 256
  networkCCCapabilities : ∀ value ∈ msg.networkCCCapabilities, value.data.length < 256

/-- The message that is read back: the bearer capability is lost. -/
def reread (msg : L3CallProceeding) : L3CallProceeding where
  progress := msg.progress.map L3ProgressIndicator.reread
  priority := msg.priority.map L3Priority.reread
  networkCCCapabilities := msg.networkCCCapabilities

theorem takes_bearerCapability (state : L3CallProceeding) {value : L3BearerCapability}
    (small : value.lengthV < 256) (pos : Nat) :
    Takes (readElement readContent state)
      (fields pos (writeTLV 0x04 L3BearerCapability.lengthV L3BearerCapability.write value))
      (some state) := by
  apply takes_element rfl
  have octets : (value.octet3 :: value.behind).length < 256 := by
    rw [List.length_cons, ← L3BearerCapability.lengthV_eq]
    exact small
  have bits : fields (pos + 8) (.writeField (UInt32.ofNat value.lengthV) 8 :: value.write) =
      Foundation.bitString
        (UInt8.ofNat (value.octet3 :: value.behind).length :: value.octet3 :: value.behind) := by
    rw [bitString_first, ← L3BearerCapability.fields_write, List.length_cons,
      ← L3BearerCapability.lengthV_eq, Foundation.bitString, List.flatMap_singleton]
    change Foundation.valueBits 8 _ ++ _ = _
    rw [UInt32.toNat_ofNat_of_lt' (small.trans (by decide)), UInt8.toNat_ofNat_of_lt' small]
  change Takes (do skipValue; pure state) (fields (pos + 8)
    (.writeField (UInt32.ofNat value.lengthV) 8 :: value.write)) _
  rw [bits]
  exact (takes_skipValue octets).yield _

/-- The rounds over the written elements lead to the message that is read again. -/
theorem leads (msg : L3CallProceeding) (writable : msg.Writable) :
    Leads (readElement readContent) {} (fields 0 msg.write) msg.reread := by
  refine @Leads.optional _ _ _ _ _ _ L3BearerCapability _ _ _ id (fun state _ => state) rfl
    (fun _ _ => fields_tagged_ne 0x04 _ _)
    (fun value member => takes_bearerCapability _ (writable.bearerCapability value member) _) ?_
  refine leads_tv (fun state found => { state with progress := found.or state.progress }) rfl rfl
    rfl (fun value _ => value.rereads.takes) ?_
  refine leads_tv (fun state found => { state with priority := found.or state.priority }) rfl rfl
    rfl (fun value _ => value.rereads.takes) ?_
  refine leads_tlv (fun state found =>
    { state with networkCCCapabilities := found.or state.networkCCCapabilities }) rfl rfl rfl
    writable.networkCCCapabilities (fun value _ => value.rereads.takes) (Leads.done ?_)
  simp only [reread, Option.map_id_fun, Option.or_none]
  rfl

/-- The body fills its announced length. -/
theorem endPos_write (msg : L3CallProceeding) : endPos 0 msg.write = msg.bodyLength * 8 := by
  unfold write
  simp only [BitWriter.endPos_append]
  rw [endPos_tlv fun value _ => value.rereads.length,
    endPos_tv fun value _ => value.rereads.length,
    endPos_tv fun value _ => value.rereads.length,
    endPos_tlv fun value _ => value.rereads.length, endPos, List.foldl_nil, bodyLength]
  omega

/-- A message that is read back as it is: it has no bearer capability. -/
structure Canonical (msg : L3CallProceeding) : Prop where
  ti : msg.ti = 7
  bearerCapability : msg.bearerCapability = none
  progress : ∀ value ∈ msg.progress, value.Canonical
  priority : ∀ value ∈ msg.priority, value.priorityLevel < 2 ^ 3

/-- Canonical messages come back as they are. -/
theorem reread_eq_iff (msg : L3CallProceeding) : msg.reread = msg ↔ msg.Canonical := by
  have progress := @map_reread_eq_iff _ msg.progress _ _ fun value _ => value.reread_eq_iff
  have priority := @map_reread_eq_iff _ msg.priority _ _ fun value _ => value.reread_eq_iff
  constructor
  · intro same
    have part {γ : Type} (field : L3CallProceeding → γ) : field msg.reread = field msg :=
      congrArg field same
    exact
      { ti := (part L3CallProceeding.ti).symm
        bearerCapability := (part L3CallProceeding.bearerCapability).symm
        progress := progress.mp (part L3CallProceeding.progress)
        priority := priority.mp (part L3CallProceeding.priority) }
  · intro canonical
    rw [reread, progress.mpr canonical.progress, priority.mpr canonical.priority, ← canonical.ti,
      ← canonical.bearerCapability]

end L3CallProceeding

/-! ## Connect -/

namespace L3Connect

/-- The optional elements in the order of the message. -/
def write (msg : L3Connect) : List Op :=
  writePresent (writeTV 0x1e L3ProgressIndicator.writeTV) msg.progress ++ (
    writePresent (writeTLV 0x9c L3ConnectedNumber.lengthV L3ConnectedNumber.write)
      msg.connectedNumber ++ (
    writePresent (writeTLV 0x9b L3SubAddress.lengthV L3SubAddress.write)
      msg.connectedSubAddress ++ (
    writePresent (writeTLV 0x7e OpaqueElement.lengthV OpaqueElement.write) msg.userUser ++ (
    writePresent (writeTLV 0x2d (fun _ => 1) L3StreamIdentifier.write) msg.streamIdentifier ++
      []))))

/-- The announced length of the body. -/
def bodyLength (msg : L3Connect) : Nat :=
  lengthTV msg.progress + lengthTLV L3ConnectedNumber.lengthV msg.connectedNumber +
    lengthTLV L3SubAddress.lengthV msg.connectedSubAddress +
    lengthTLV OpaqueElement.lengthV msg.userUser + lengthTLV (fun _ => 1) msg.streamIdentifier

/-- The number fits its storage, the other values fit behind a length octet. -/
structure Writable (msg : L3Connect) : Prop where
  connectedNumber : ∀ value ∈ msg.connectedNumber, L3BCDDigits.Stored value.digits
  connectedSubAddress : ∀ value ∈ msg.connectedSubAddress, value.Formed ∧ value.lengthV < 256
  userUser : ∀ value ∈ msg.userUser, value.data.length < 256

/-- The message that is read back. -/
def reread (msg : L3Connect) : L3Connect where
  progress := msg.progress.map L3ProgressIndicator.reread
  connectedNumber := msg.connectedNumber.map L3CalledPartyBCDNumber.reread
  connectedSubAddress := msg.connectedSubAddress
  userUser := msg.userUser
  streamIdentifier := msg.streamIdentifier.map L3StreamIdentifier.reread

/-- The rounds over the written elements lead to the message that is read again. -/
theorem leads (msg : L3Connect) (writable : msg.Writable) :
    Leads (readElement readContent) {} (fields 0 msg.write) msg.reread := by
  refine leads_tv (fun state found => { state with progress := found.or state.progress }) rfl rfl
    rfl (fun value _ => value.rereads.takes) ?_
  refine leads_tlv (fun state found =>
    { state with connectedNumber := found.or state.connectedNumber }) rfl rfl rfl
    (fun value member =>
      L3CalledPartyBCDNumber.lengthV_lt (writable.connectedNumber value member))
    (fun value member =>
      (L3ConnectedNumber.rereads (writable.connectedNumber value member)).takes) ?_
  refine leads_tlv (fun state found =>
    { state with connectedSubAddress := found.or state.connectedSubAddress }) rfl rfl rfl
    (fun value member => (writable.connectedSubAddress value member).2)
    (fun value member => (L3SubAddress.rereads (writable.connectedSubAddress value member).1
      (writable.connectedSubAddress value member).2).takes) ?_
  refine leads_tlv (fun state found => { state with userUser := found.or state.userUser }) rfl
    rfl rfl writable.userUser (fun value _ => value.rereads.takes) ?_
  refine leads_tlv (fun state found =>
    { state with streamIdentifier := found.or state.streamIdentifier }) rfl rfl rfl
    (fun _ _ => by simp) (fun value _ => value.rereads.takes) (Leads.done ?_)
  simp only [reread, Option.map_id_fun, Option.or_none]
  rfl

/-- The body fills its announced length. -/
theorem endPos_write (msg : L3Connect) (writable : msg.Writable) :
    endPos 0 msg.write = msg.bodyLength * 8 := by
  unfold write
  simp only [BitWriter.endPos_append]
  rw [endPos_tv fun value _ => value.rereads.length,
    endPos_tlv fun value member =>
      (L3ConnectedNumber.rereads (writable.connectedNumber value member)).length,
    endPos_tlv fun value member => (L3SubAddress.rereads
      (writable.connectedSubAddress value member).1
      (writable.connectedSubAddress value member).2).length,
    endPos_tlv fun value _ => value.rereads.length,
    endPos_tlv fun value _ => value.rereads.length, endPos, List.foldl_nil, bodyLength]
  omega

/-- The values that reading leaves as they are. -/
structure Canonical (msg : L3Connect) : Prop where
  ti : msg.ti = 7
  progress : ∀ value ∈ msg.progress, value.Canonical
  connectedNumber : ∀ value ∈ msg.connectedNumber, L3CalledPartyBCDNumber.Canonical value
  streamIdentifier : ∀ value ∈ msg.streamIdentifier, value.streamId < 2 ^ 4

/-- Canonical messages come back as they are. -/
theorem reread_eq_iff {msg : L3Connect} (writable : msg.Writable) :
    msg.reread = msg ↔ msg.Canonical := by
  have progress := @map_reread_eq_iff _ msg.progress _ _ fun value _ => value.reread_eq_iff
  have connected := map_reread_eq_iff fun value member =>
    L3CalledPartyBCDNumber.reread_eq_iff (writable.connectedNumber value member)
  have stream := @map_reread_eq_iff _ msg.streamIdentifier _ _ fun value _ => value.reread_eq_iff
  constructor
  · intro same
    have part {γ : Type} (field : L3Connect → γ) : field msg.reread = field msg :=
      congrArg field same
    exact
      { ti := (part L3Connect.ti).symm
        progress := progress.mp (part L3Connect.progress)
        connectedNumber := connected.mp (part L3Connect.connectedNumber)
        streamIdentifier := stream.mp (part L3Connect.streamIdentifier) }
  · intro canonical
    rw [reread, progress.mpr canonical.progress, connected.mpr canonical.connectedNumber,
      stream.mpr canonical.streamIdentifier, ← canonical.ti]

end L3Connect

/-! ## The common part -/

/-- `detail::ccCommonParse`: a facility and a version indicator, any number of times. -/
def commonElements {σ : Type} (setFacility : σ → L3SupServFacilityIE → σ)
    (setVersion : σ → L3SupServVersionIndicator → σ) : Nat → Option (σ → FieldParser σ)
  | 0x1c => some fun msg => do
      let f ← readValue L3SupServFacilityIE.parse
      pure (setFacility msg f)
  | 0x7f => some fun msg => do
      let v ← readValue readSSVersion
      pure (v.elim msg (setVersion msg))
  | _ => none

/-- A loop over elements of one identifier. -/
def singleElement {σ : Type} (iei : Nat) (element : σ → FieldParser σ) (peek : Nat) :
    Option (σ → FieldParser σ) :=
  if peek = iei then some element else none

/-- `detail::ccCommonWrite`. -/
def ccCommonWrite (facility : Option L3SupServFacilityIE)
    (ssVersion : Option L3SupServVersionIndicator) : List Op :=
  writePresent (writeTLV 0x1c OpaqueElement.lengthV OpaqueElement.write) facility ++
    writePresent (writeTLV 0x7f (fun _ => 1) L3SupServVersionIndicator.write) ssVersion

/-- `detail::ccCommonLength`. -/
def ccCommonLength (facility : Option L3SupServFacilityIE)
    (ssVersion : Option L3SupServVersionIndicator) : Nat :=
  lengthTLV OpaqueElement.lengthV facility + lengthTLV (fun _ => 1) ssVersion

section Common

variable {σ β : Type} {next : σ → FieldParser β} {state : σ} {pos : Nat} {ops : List Op}
  {result : Option β} {facility : Option L3SupServFacilityIE}
  {ssVersion : Option L3SupServVersionIndicator}

theorem endPos_ccCommonWrite (pos : Nat) :
    endPos pos (ccCommonWrite facility ssVersion) =
      pos + 8 * ccCommonLength facility ssVersion := by
  rw [ccCommonWrite, BitWriter.endPos_append, endPos_tlv fun value _ => value.rereads.length,
    endPos_tlv fun value _ => value.rereads.length, ccCommonLength]
  omega

/-- A value behind its length octet. -/
theorem takes_counted {α γ : Type} {parse : Nat → FieldParser γ} (lengthV : α → Nat)
    {write : α → List Op} {value : α} {read : γ} (set : γ → σ) (small : lengthV value < 2 ^ 8)
    (takes : ∀ pos, Takes (parse (lengthV value)) (fields pos (write value)) (some read)) :
    Takes (readValue parse >>= fun p => pure (set p))
      (fields pos (.writeField (UInt32.ofNat (lengthV value)) 8 :: write value))
      (some (set read)) := by
  rw [readValue, bind_assoc]
  refine Takes.skipped ?_ (by simp)
  rw [stored_ofNat _ 8 (by decide), Nat.mod_eq_of_lt small]
  exact (takes _).yield set

theorem takes_facility (set : L3SupServFacilityIE → σ) {value : L3SupServFacilityIE}
    (small : value.data.length < 256) :
    Takes (readValue L3SupServFacilityIE.parse >>= fun f => pure (set f))
      (fields pos (.writeField (UInt32.ofNat value.lengthV) 8 :: value.write))
      (some (set value)) :=
  takes_counted OpaqueElement.lengthV set small value.rereads.takes

theorem takes_version (set : L3SupServVersionIndicator → σ)
    (value : L3SupServVersionIndicator) :
    Takes (readValue readSSVersion >>= fun v => pure (v.elim state set))
      (fields pos (.writeField 1 8 :: value.write)) (some (set value.reread)) :=
  takes_counted (fun _ => 1) (fun v => v.elim state set) (by simp) value.takes_readSSVersion

/-- The common part is read, and what stops the loop is left. -/
theorem takes_common (mergeFacility : σ → Option L3SupServFacilityIE → σ)
    (mergeVersion : σ → Option L3SupServVersionIndicator → σ)
    (noFacility : ∀ state, mergeFacility state none = state)
    (noVersion : ∀ state, mergeVersion state none = state)
    (small : ∀ value ∈ facility, value.data.length < 256)
    (stops : Stops (commonElements (fun msg f => mergeFacility msg (some f))
        (fun msg v => mergeVersion msg (some v)))
      (fields (endPos pos (ccCommonWrite facility ssVersion)) ops))
    (merged : σ) (merge : mergeVersion (mergeFacility state facility)
      (ssVersion.map L3SupServVersionIndicator.reread) = merged)
    (rest : TakesAll (next merged)
      (fields (endPos pos (ccCommonWrite facility ssVersion)) ops) result) :
    TakesAll (readWhile (commonElements (fun msg f => mergeFacility msg (some f))
        (fun msg v => mergeVersion msg (some v))) state >>= next)
      (fields pos (ccCommonWrite facility ssVersion ++ ops)) result := by
  rw [ccCommonWrite, BitWriter.endPos_append] at stops rest
  rw [ccCommonWrite, List.append_assoc]
  apply TakesAhead.start
  refine @TakesAhead.optional _ _ _ _ _ _ _ _ _ _ _ _ _ (fun value => value) 0x1c _
    mergeFacility (noFacility state) (fun _ => rfl) rfl (fun value member => ?_) ?_
  · exact takes_facility (fun f => mergeFacility state (some f)) (small value member)
  rw [Option.map_id_fun']
  refine @TakesAhead.optional _ _ _ _ _ _ _ _ _ _ _ _ _ L3SupServVersionIndicator.reread 0x7f _
    mergeVersion (noVersion _) (fun _ => rfl) rfl (fun value _ => ?_) ?_
  · exact takes_version (fun v => mergeVersion _ (some v)) value
  rw [id_eq, merge]
  exact TakesAhead.stop stops rest

end Common

/-! ## Alerting -/

/-- An Alerting with its optional elements. -/
structure L3Alerting where
  ti : Nat := 7
  progress : Option L3ProgressIndicator := none
  facility : Option L3SupServFacilityIE := none
  ssVersion : Option L3SupServVersionIndicator := none
  userUser : Option L3UserUser := none
deriving DecidableEq, Repr

namespace L3Alerting

/-- The elements of the common part. -/
def common : Nat → Option (L3Alerting → FieldParser L3Alerting) :=
  commonElements (fun msg f => { msg with facility := some f })
    (fun msg v => { msg with ssVersion := some v })

/-- The progress indicator, taken once. -/
def progressElement : Nat → Option (L3Alerting → FieldParser L3Alerting) :=
  singleElement 0x1e fun msg => do
    let p ← L3ProgressIndicator.parseTV
    pure { msg with progress := some p }

/-- The user-user element, taken once. -/
def userUserElement : Nat → Option (L3Alerting → FieldParser L3Alerting) :=
  singleElement 0x7e fun msg => do
    let p ← readValue L3UserUser.parse
    pure { msg with userUser := some p }

/-- The common elements may stand before and behind the progress indicator. -/
def parse : FieldParser L3Alerting := do
  let msg ← readWhile common {}
  let msg ← readWhile progressElement msg
  let msg ← readWhile common msg
  readWhile userUserElement msg

/-- The optional elements in the order of the message. -/
def write (msg : L3Alerting) : List Op :=
  writePresent (writeTV 0x1e L3ProgressIndicator.writeTV) msg.progress ++ (
    ccCommonWrite msg.facility msg.ssVersion ++ (
    writePresent (writeTLV 0x7e OpaqueElement.lengthV OpaqueElement.write) msg.userUser ++ []))

/-- The announced length of the body. -/
def bodyLength (msg : L3Alerting) : Nat :=
  lengthTV msg.progress + lengthTLV OpaqueElement.lengthV msg.userUser +
    ccCommonLength msg.facility msg.ssVersion

/-- The values fit behind a length octet. -/
structure Writable (msg : L3Alerting) : Prop where
  facility : ∀ value ∈ msg.facility, value.data.length < 256
  userUser : ∀ value ∈ msg.userUser, value.data.length < 256

/-- The message that is read back. -/
def reread (msg : L3Alerting) : L3Alerting where
  progress := msg.progress.map L3ProgressIndicator.reread
  facility := msg.facility
  ssVersion := msg.ssVersion.map L3SupServVersionIndicator.reread
  userUser := msg.userUser

section Loops

variable {ti : Nat} {progress : Option L3ProgressIndicator}
  {facility : Option L3SupServFacilityIE} {ssVersion : Option L3SupServVersionIndicator}
  {userUser : Option L3UserUser} {pos : Nat}

theorem takes_userUser (small : ∀ value ∈ userUser, value.data.length < 256) :
    TakesAll (readWhile userUserElement ⟨ti, progress, facility, ssVersion, none⟩)
      (fields pos (writePresent (writeTLV 0x7e OpaqueElement.lengthV OpaqueElement.write)
        userUser ++ []))
      (some ⟨ti, progress, facility, ssVersion, userUser⟩) := by
  rw [← bind_pure (readWhile _ _)]
  apply TakesAhead.start
  apply @TakesAhead.optional _ _ _ _ _ _ _ _ _ _ _ _ _ (fun value => value) 0x7e _
    (fun _ found => ⟨ti, progress, facility, ssVersion, found⟩) rfl (fun _ => rfl) rfl
  · intro value member
    apply takes_counted OpaqueElement.lengthV (fun p => L3Alerting.mk ti progress facility
      ssVersion (some p)) (small value member) value.rereads.takes
  · rw [Option.map_id_fun']
    exact TakesAhead.stop (Stops.nil _ _) (Takes.pure _).all

theorem stops_userUser {elements : Nat → Option (L3Alerting → FieldParser L3Alerting)}
    (silent : elements 0x7e = none) :
    Stops elements (fields pos (writePresent
      (writeTLV 0x7e OpaqueElement.lengthV OpaqueElement.write) userUser ++ [])) :=
  @Stops.optional _ _ _ _ _ _ _ 0x7e _ (fun _ => rfl) silent (Stops.nil _ _)

/-- The elements behind the progress indicator are none of it. -/
theorem stops_progressElement :
    Stops progressElement (fields pos (ccCommonWrite facility ssVersion ++ (writePresent
      (writeTLV 0x7e OpaqueElement.lengthV OpaqueElement.write) userUser ++ []))) := by
  rw [ccCommonWrite, List.append_assoc]
  apply @Stops.optional _ _ _ _ _ _ _ 0x1c _ (fun _ => rfl) rfl
  apply @Stops.optional _ _ _ _ _ _ _ 0x7f _ (fun _ => rfl) rfl
  exact stops_userUser rfl

/-- The loop over the common part reads it, and leaves the user data. -/
theorem takes_commonPart {next : L3Alerting → FieldParser L3Alerting}
    {result : Option L3Alerting} (small : ∀ value ∈ facility, value.data.length < 256)
    (rest : ∀ pos, TakesAll
      (next ⟨ti, progress, facility, ssVersion.map L3SupServVersionIndicator.reread, none⟩)
      (fields pos (writePresent (writeTLV 0x7e OpaqueElement.lengthV OpaqueElement.write)
        userUser ++ [])) result) :
    TakesAll (readWhile common ⟨ti, progress, none, none, none⟩ >>= next)
      (fields pos (ccCommonWrite facility ssVersion ++ (
        writePresent (writeTLV 0x7e OpaqueElement.lengthV OpaqueElement.write) userUser ++ [])))
      result := by
  have merged : L3Alerting.mk ti progress (facility.or none)
      ((ssVersion.map L3SupServVersionIndicator.reread).or none) none =
      ⟨ti, progress, facility, ssVersion.map L3SupServVersionIndicator.reread, none⟩ := by
    rw [Option.or_none, Option.or_none]
  exact @takes_common _ _ next ⟨ti, progress, none, none, none⟩ _ _ _ _ _
    (fun msg found => ⟨msg.ti, msg.progress, found.or msg.facility, msg.ssVersion, msg.userUser⟩)
    (fun msg found => ⟨msg.ti, msg.progress, msg.facility, found.or msg.ssVersion, msg.userUser⟩)
    (fun _ => rfl) (fun _ => rfl) small (stops_userUser rfl) _ merged (rest _)

/-- A loop that does not meet its elements leaves everything. -/
theorem takes_silent {elements : Nat → Option (L3Alerting → FieldParser L3Alerting)}
    {next : L3Alerting → FieldParser L3Alerting} {state : L3Alerting} {bits : List Bool}
    {result : Option L3Alerting} (stops : Stops elements bits)
    (rest : TakesAll (next state) bits result) :
    TakesAll (readWhile elements state >>= next) bits result :=
  TakesAhead.start (TakesAhead.stop stops rest)

end Loops

/-- The common part is read by the first loop over it, or behind a progress indicator by the
second. -/
theorem takesAll (msg : L3Alerting) (writable : msg.Writable) :
    TakesAll parse (fields 0 msg.write) (some msg.reread) := by
  obtain ⟨ti, progress, facility, ssVersion, userUser⟩ := msg
  have behind (progress : Option L3ProgressIndicator) (pos : Nat) :=
    @takes_userUser 7 progress facility (ssVersion.map L3SupServVersionIndicator.reread) userUser
      pos writable.userUser
  cases progress with
  | none =>
      apply takes_commonPart writable.facility
      intro pos
      apply takes_silent (stops_userUser rfl)
      exact takes_silent (stops_userUser rfl) (behind none pos)
  | some value =>
      have stops :
          Stops common (fields 0 (write ⟨ti, some value, facility, ssVersion, userUser⟩)) := by
        rw [write, BitWriter.fields_append]
        exact @Stops.written _ _ _ _ 0x1e _ rfl
      apply takes_silent stops
      apply TakesAhead.start
      refine @TakesAhead.optional _ _ _ _ _ _ _ _ _ _ _ _ (some value) L3ProgressIndicator.reread
        0x1e _ (fun _ found => ⟨7, found, none, none, none⟩) rfl (fun _ => rfl) rfl ?_ ?_
      · intro value _
        exact (value.rereads.takes _).yield fun p => L3Alerting.mk 7 (some p) none none none
      · apply TakesAhead.stop stops_progressElement
        exact takes_commonPart writable.facility (behind _)

/-- The body fills its announced length. -/
theorem endPos_write (msg : L3Alerting) : endPos 0 msg.write = msg.bodyLength * 8 := by
  unfold write
  rw [BitWriter.endPos_append, BitWriter.endPos_append, BitWriter.endPos_append,
    endPos_tv fun value _ => value.rereads.length, endPos_ccCommonWrite,
    endPos_tlv fun value _ => value.rereads.length, endPos, List.foldl_nil, bodyLength]
  omega

/-- The values that reading leaves as they are. -/
structure Canonical (msg : L3Alerting) : Prop where
  ti : msg.ti = 7
  progress : ∀ value ∈ msg.progress, value.Canonical
  ssVersion : ∀ value ∈ msg.ssVersion, value.version < 2 ^ 8

/-- Canonical messages come back as they are. -/
theorem reread_eq_iff (msg : L3Alerting) : msg.reread = msg ↔ msg.Canonical := by
  have progress := @map_reread_eq_iff _ msg.progress _ _ fun value _ => value.reread_eq_iff
  have version := @map_reread_eq_iff _ msg.ssVersion _ _ fun value _ => value.reread_eq_iff
  constructor
  · intro same
    have part {γ : Type} (field : L3Alerting → γ) : field msg.reread = field msg :=
      congrArg field same
    exact
      { ti := (part L3Alerting.ti).symm
        progress := progress.mp (part L3Alerting.progress)
        ssVersion := version.mp (part L3Alerting.ssVersion) }
  · intro canonical
    rw [reread, progress.mpr canonical.progress, version.mpr canonical.ssVersion, ← canonical.ti]

end L3Alerting

/-! ## Release -/

/-- A message that releases a call, or says that it is released.  The location of its cause is
not kept. -/
structure ReleaseMessage where
  ti : Nat := 7
  cause : Option Nat := none
  facility : Option L3SupServFacilityIE := none
  ssVersion : Option L3SupServVersionIndicator := none
deriving DecidableEq, Repr

/-- A Release. -/
abbrev L3Release := ReleaseMessage

/-- A Release Complete. -/
abbrev L3ReleaseComplete := ReleaseMessage

namespace ReleaseMessage

/-- The cause, of which the value is kept. -/
def causeElement : Nat → Option (ReleaseMessage → FieldParser ReleaseMessage) :=
  singleElement 0x08 fun msg => do
    let p ← readValue fun _ => L3CauseElement.parse
    pure { msg with cause := some p.cause }

/-- The facility and the version, stored in the message. -/
def common : Nat → Option (ReleaseMessage → FieldParser ReleaseMessage) :=
  commonElements (fun msg f => { msg with facility := some f })
    (fun msg v => { msg with ssVersion := some v })

/-- The cause, then the common elements. -/
def parse : FieldParser ReleaseMessage := do
  let msg ← readWhile causeElement {}
  readWhile common msg

/-- The cause of a private network that serves the local user. -/
def writeCause (cause : Nat) : List Op :=
  L3CauseElement.write { location := 1, cause }

/-- The cause behind its identifier and length, then the common elements. -/
def write (msg : ReleaseMessage) : List Op :=
  writePresent (writeTLV 0x08 (fun _ => L3CauseElement.lengthV) writeCause) msg.cause ++
    (ccCommonWrite msg.facility msg.ssVersion ++ [])

/-- The announced length of the body. -/
def bodyLength (msg : ReleaseMessage) : Nat :=
  lengthTLV (fun _ => L3CauseElement.lengthV) msg.cause + ccCommonLength msg.facility msg.ssVersion

/-- The facility fits behind a length octet. -/
def Writable (msg : ReleaseMessage) : Prop :=
  ∀ value ∈ msg.facility, value.data.length < 256

/-- The message that is read back. -/
def reread (msg : ReleaseMessage) : ReleaseMessage where
  cause := msg.cause.map (· % 2 ^ 7)
  facility := msg.facility
  ssVersion := msg.ssVersion.map L3SupServVersionIndicator.reread

/-- A release message comes back. -/
theorem takesAll (msg : ReleaseMessage) (writable : msg.Writable) :
    TakesAll parse (fields 0 msg.write) (some msg.reread) := by
  obtain ⟨ti, cause, facility, ssVersion⟩ := msg
  have merged : ReleaseMessage.mk 7 (cause.map (· % 2 ^ 7)) (facility.or none)
      ((ssVersion.map L3SupServVersionIndicator.reread).or none) =
      reread ⟨ti, cause, facility, ssVersion⟩ := by
    rw [Option.or_none, Option.or_none]
    rfl
  have common_part (pos : Nat) := @takes_common ReleaseMessage ReleaseMessage pure
    ⟨7, cause.map (· % 2 ^ 7), none, none⟩ pos [] _ _ _
    (fun msg found => ⟨msg.ti, msg.cause, found.or msg.facility, msg.ssVersion⟩)
    (fun msg found => ⟨msg.ti, msg.cause, msg.facility, found.or msg.ssVersion⟩)
    (fun _ => rfl) (fun _ => rfl) writable (Stops.nil _ _) _ merged (Takes.pure _).all
  have stops (pos : Nat) : Stops causeElement (fields pos (ccCommonWrite facility ssVersion ++ []))
      := by
    rw [ccCommonWrite, List.append_assoc]
    apply @Stops.optional _ _ _ _ _ _ _ 0x1c _ (fun _ => rfl) rfl
    exact @Stops.optional _ _ _ _ _ _ _ 0x7f _ (fun _ => rfl) rfl (Stops.nil _ _)
  apply TakesAhead.start
  refine @TakesAhead.optional _ _ _ _ _ _ _ _ _ _ _ _ cause (· % 2 ^ 7) 0x08 _
    (fun _ found => ⟨7, found, none, none⟩) rfl (fun _ => rfl) rfl ?_ ?_
  · intro value _
    exact @takes_counted _ _ _ _ (fun _ => L3CauseElement.parse)
      (fun _ => L3CauseElement.lengthV) writeCause value _
      (fun p : L3CauseElement => ReleaseMessage.mk 7 (some p.cause) none none) (by decide)
      (L3CauseElement.rereads { location := 1, cause := value }).takes
  · apply TakesAhead.stop (stops _)
    rw [← bind_pure (readWhile _ _)]
    exact common_part _

theorem endPos_write (msg : ReleaseMessage) : endPos 0 msg.write = msg.bodyLength * 8 := by
  unfold write
  rw [BitWriter.endPos_append, BitWriter.endPos_append, endPos_tlv fun _ _ _ => rfl,
    endPos_ccCommonWrite, endPos, List.foldl_nil, bodyLength]
  omega

/-- The values that reading leaves as they are. -/
structure Canonical (msg : ReleaseMessage) : Prop where
  ti : msg.ti = 7
  cause : ∀ value ∈ msg.cause, value < 2 ^ 7
  ssVersion : ∀ value ∈ msg.ssVersion, value.version < 2 ^ 8

/-- Canonical messages come back as they are. -/
theorem reread_eq_iff (msg : ReleaseMessage) : msg.reread = msg ↔ msg.Canonical := by
  have cause := @map_reread_eq_iff _ msg.cause (· % 2 ^ 7) _ fun value _ =>
    Nat.mod_eq_iff_lt (by decide)
  have version := @map_reread_eq_iff _ msg.ssVersion _ _ fun value _ => value.reread_eq_iff
  constructor
  · intro same
    have part {γ : Type} (field : ReleaseMessage → γ) : field msg.reread = field msg :=
      congrArg field same
    exact
      { ti := (part ReleaseMessage.ti).symm
        cause := cause.mp (part ReleaseMessage.cause)
        ssVersion := version.mp (part ReleaseMessage.ssVersion) }
  · intro canonical
    rw [reread, cause.mpr canonical.cause, version.mpr canonical.ssVersion, ← canonical.ti]

end ReleaseMessage

/-! ## Disconnect -/

/-- A Disconnect, whose cause is mandatory. -/
structure L3Disconnect where
  ti : Nat := 7
  cause : Nat := 16
  location : Nat := 1
deriving DecidableEq, Repr

namespace L3Disconnect

/-- The error of a cause that is announced too short. -/
def causeTooShort (bitPosition : Nat) : ParseError where
  code := .truncatedInput
  message := "Disconnect cause length too short"
  bitPosition := bitPosition

/-- The octets of the cause beyond the two that are read are skipped. -/
def parse : FieldParser L3Disconnect := do
  let causeLen ← readLength
  if causeLen < L3CauseElement.lengthV then
    throw (causeTooShort (← position))
  else
    let cause ← L3CauseElement.parse
    skipBytes (causeLen - L3CauseElement.lengthV)
    pure { cause := cause.cause, location := cause.location }

/-- The cause behind its length octet. -/
def write (msg : L3Disconnect) : List Op :=
  .writeField (UInt32.ofNat L3CauseElement.lengthV) 8 ::
    L3CauseElement.write { location := msg.location, cause := msg.cause }

/-- The length octet and the cause. -/
def bodyLength (_ : L3Disconnect) : Nat :=
  1 + L3CauseElement.lengthV

/-- The message that is read back. -/
def reread (msg : L3Disconnect) : L3Disconnect where
  cause := msg.cause % 2 ^ 7
  location := msg.location % 2 ^ 4

/-- A Disconnect comes back. -/
theorem takesAll (msg : L3Disconnect) : TakesAll parse (fields 0 msg.write) (some msg.reread) := by
  have cause (pos : Nat) :=
    (L3CauseElement.rereads { location := msg.location, cause := msg.cause }).takes pos
  refine (Takes.skipped ?_ (by decide)).all
  rw [stored_ofNat _ 8 (by decide), if_neg (by decide), ← List.append_nil (fields _ _)]
  exact (cause _).bind (Takes.pure _)

/-- The values that reading leaves as they are. -/
structure Canonical (msg : L3Disconnect) : Prop where
  ti : msg.ti = 7
  cause : msg.cause < 2 ^ 7
  location : msg.location < 2 ^ 4

/-- Canonical messages come back as they are. -/
theorem reread_eq_iff (msg : L3Disconnect) : msg.reread = msg ↔ msg.Canonical := by
  obtain ⟨ti, cause, location⟩ := msg
  rw [reread, L3Disconnect.mk.injEq, Nat.mod_eq_iff_lt (by decide), Nat.mod_eq_iff_lt (by decide)]
  constructor
  · exact fun ⟨own, cause, location⟩ => ⟨own.symm, cause, location⟩
  · exact fun canonical => ⟨canonical.ti.symm, canonical.cause, canonical.location⟩

end L3Disconnect

/-! ## Reading back -/

/-- Each of these messages is written in the octets it announces, which are parsed to the message
that is read back; that is the message itself just if it is canonical. -/
theorem calls_read_back :
    (∀ msg : L3Setup, msg.Writable →
      RoundTrips L3Setup.parse msg.write msg.bodyLength msg.reread ∧
        (msg.reread = msg ↔ msg.Canonical)) ∧
    (∀ msg : L3CallProceeding, msg.Writable →
      RoundTrips L3CallProceeding.parse msg.write msg.bodyLength msg.reread ∧
        (msg.reread = msg ↔ msg.Canonical)) ∧
    (∀ msg : L3Alerting, msg.Writable →
      RoundTrips L3Alerting.parse msg.write msg.bodyLength msg.reread ∧
        (msg.reread = msg ↔ msg.Canonical)) ∧
    (∀ msg : L3Connect, msg.Writable →
      RoundTrips L3Connect.parse msg.write msg.bodyLength msg.reread ∧
        (msg.reread = msg ↔ msg.Canonical)) ∧
    (∀ msg : ReleaseMessage, msg.Writable →
      RoundTrips ReleaseMessage.parse msg.write msg.bodyLength msg.reread ∧
        (msg.reread = msg ↔ msg.Canonical)) ∧
    (∀ msg : L3Disconnect,
      RoundTrips L3Disconnect.parse msg.write msg.bodyLength msg.reread ∧
        (msg.reread = msg ↔ msg.Canonical)) := by
  refine ⟨fun msg writable => ⟨⟨msg.endPos_write writable, ?_⟩, L3Setup.reread_eq_iff writable⟩,
    fun msg writable => ⟨⟨msg.endPos_write, ?_⟩, msg.reread_eq_iff⟩,
    fun msg writable => ⟨⟨msg.endPos_write, ?_⟩, msg.reread_eq_iff⟩,
    fun msg writable => ⟨⟨msg.endPos_write writable, ?_⟩, L3Connect.reread_eq_iff writable⟩,
    fun msg writable => ⟨⟨msg.endPos_write, ?_⟩, msg.reread_eq_iff⟩,
    fun msg => ⟨⟨rfl, ?_⟩, msg.reread_eq_iff⟩⟩
  · exact (msg.leads writable).parse_eq (msg.endPos_write writable ▸ Nat.dvd_mul_left ..)
  · exact (msg.leads writable).parse_eq (msg.endPos_write ▸ Nat.dvd_mul_left ..)
  · apply TakesAll.parse_eq
    rw [bitString_octetsOf (msg.endPos_write ▸ Nat.dvd_mul_left ..)]
    exact msg.takesAll writable
  · exact (msg.leads writable).parse_eq (msg.endPos_write writable ▸ Nat.dvd_mul_left ..)
  · apply TakesAll.parse_eq
    rw [bitString_octetsOf (msg.endPos_write ▸ Nat.dvd_mul_left ..)]
    exact msg.takesAll writable
  · apply TakesAll.parse_eq
    have whole : endPos 0 msg.write = msg.bodyLength * 8 := rfl
    rw [bitString_octetsOf (whole ▸ Nat.dvd_mul_left ..)]
    exact msg.takesAll

/-- A Setup to an international number comes back with its plus sign. -/
theorem calls_read_back_international :
    let msg : L3Setup := { calledParty := some (L3CalledPartyBCDNumber.ofText ['+', '4', '9']) }
    RoundTrips L3Setup.parse msg.write msg.bodyLength
        { calledParty := some ⟨TypeOfNumber.international, NumberingPlan.e164, ['+', '4', '9']⟩ } ∧
      ¬ msg.Canonical := by
  intro msg
  have writable : msg.Writable := by
    constructor
    · rintro _ ⟨⟩
      decide
    · exact nofun
    · rintro _ ⟨⟩
      exact L3BCDDigits.stored_ofText ['4', '9']
    all_goals exact nofun
  obtain ⟨trips, canonical⟩ := calls_read_back.1 msg writable
  exact ⟨trips, fun holds => absurd (canonical.mpr holds) (by decide)⟩

end Gsml3
