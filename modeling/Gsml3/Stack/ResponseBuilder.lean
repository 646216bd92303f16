import Gsml3.Stack.Procedure
import Gsml3.Stack.ResponseMessages

/-!
# Responses built from tokens

The response builder turns a token into the octets of a message, with the parameters that the
procedures left in the session.  The network side and the mobile side agree on them: what is parsed
of the octets carries these parameters, and without them nothing is written.
-/

namespace Gsml3

open FieldParser

namespace Stack

namespace ResponseBuilder

open Response (others)

/-! ## Writing -/

/-- `writeL3` into a buffer: the buffer after the call, and the number of octets or -1. -/
def writeL3 (msg : Response) (out : List UInt8) : List UInt8 × Int :=
  match msg.encoding.writeL3Body out with
  | .ok (buffer, size) => (buffer, size)
  | .error _ => (out, -1)

/-- `writeL3Bytes`: a buffer of just the size of the message. -/
def writeL3Bytes (msg : Response) : Except ParseError (List UInt8) :=
  (msg.encoding.writeL3Body (.replicate msg.encoding.wireLength 0)).map
    fun written => written.1.take written.2

/-! ## Builders

Each builder has two forms, one that returns the octets and one that writes into a buffer: they
are `writeL3Bytes` and `writeL3` of the message that is built here. -/

/-- The assignment of a channel, with the request it answers when that is known. -/
def buildImmediateAssignment (channel : L3ChannelDescription) (timingAdvance : UInt8)
    (requestRef : Option L3RequestReference) : Response :=
  .immediateAssignment
    { channelDescription := channel
      timingAdvance := { timingAdvance }
      requestReference := requestRef.getD {} }

/-- The mode is announced unless it is signalling only. -/
def buildAssignmentCommand (channel : L3ChannelDescription) (mode : L3ChannelMode) : Response :=
  .assignmentCommand
    (if mode.mode ≠ 0 then { channel, haveMode1 := true, mode1 := mode } else { channel })

/-- A Channel Release with a cause. -/
def buildChannelRelease (cause : UInt8) : Response :=
  .channelRelease { cause }

/-- Algorithm 0 asks for no ciphering. -/
def buildCipheringModeCommand (cipherAlgo : UInt8) : Response :=
  .fixed (.cipheringModeCommand
    { ciphering := cipherAlgo ≠ 0, algorithm := cipherAlgo.toNat })

/-- The timing advance for a mobile in handover. -/
def buildPhysicalInformation (timingAdvance : UInt8) : Response :=
  .physicalInformation { timingAdvance := { timingAdvance } }

/-- A CM Service Accept, which has no body. -/
def buildCMServiceAccept : Response :=
  .fixed .cmServiceAccept

/-- A CM Service Reject with a cause. -/
def buildCMServiceReject (cause : MMRejectCause) : Response :=
  .fixed (.cmServiceReject { cause })

/-- The request for an identity of a given type. -/
def buildIdentityRequest (type : Nat) : Response :=
  .identityRequest { type }

/-- The first sixteen octets; those that are missing are zero. -/
def buildAuthenticationRequest (rand : List UInt8) : Response :=
  .authenticationRequest { rand := .ofFn fun i => rand.getD i 0 }

/-- The accepted area, with the TMSI when one was assigned. -/
def buildLocationUpdatingAccept (lai : L3LocationAreaIdentity) (newTmsi : Option UInt32) :
    Response :=
  match newTmsi with
  | some tmsi => .locationUpdatingAccept
      { lai, haveMobileIdentity := true, mobileIdentity := .ofTMSI tmsi }
  | none => .locationUpdatingAccept { lai }

/-- A Location Updating Reject with a cause. -/
def buildLocationUpdatingReject (cause : MMRejectCause) : Response :=
  .locationUpdatingReject { cause }

/-- A new TMSI for the area. -/
def buildTMSIReallocationCommand (lai : L3LocationAreaIdentity) (tmsi : UInt32) : Response :=
  .tmsiReallocationCommand { lai, tmsi := .ofTMSI tmsi }

/-- A Call Proceeding of a transaction. -/
def buildCallProceeding (ti : UInt8) : Response :=
  .callProceeding { ti := ti.toNat }

/-- An Alerting of a transaction. -/
def buildAlerting (ti : UInt8) : Response :=
  .alerting { ti := ti.toNat }

/-- A Connect of a transaction. -/
def buildConnect (ti : UInt8) : Response :=
  .connect { ti := ti.toNat }

/-- A Connect Acknowledge of a transaction. -/
def buildConnectAcknowledge (ti : UInt8) : Response :=
  .connectAcknowledge ti.toNat

/-- A Disconnect of a transaction, with a cause. -/
def buildDisconnect (ti : UInt8) (cause : CCCause) : Response :=
  .disconnect { ti := ti.toNat, cause := cause.toNat }

/-- A Release of a transaction, with a cause. -/
def buildRelease (ti : UInt8) (cause : CCCause) : Response :=
  .release { ti := ti.toNat, cause := some cause.toNat }

/-- A Release Complete of a transaction, without a cause. -/
def buildReleaseComplete (ti : UInt8) : Response :=
  .releaseComplete { ti := ti.toNat }

/-- A page for one identity, which asks for a stand-alone control channel. -/
def buildPagingRequestType1 (identity : L3MobileIdentity) : Response :=
  .pagingRequestType1
    { mobileIds := #v[identity, {}]
      mobileIdCount := 1
      channelsNeeded := #v[.sdcchType, .anyDCCHType] }

/-- The error of a page that only a TMSI can be given to. -/
def requiresTMSI (message : String) : ParseError where
  code := .invalidValue
  message := message

/-- Only TMSIs are paged; the places that are left are zero. -/
def buildPagingRequestType2 (identity : L3MobileIdentity) : Except ParseError Response :=
  if identity.type = .tmsi then
    .ok (.pagingRequestType2
      { tmsis := #v[identity.tmsi, 0], channelsNeeded := #v[.sdcchType, .anyDCCHType] })
  else .error (requiresTMSI "PagingRequestType2 requires a TMSI identity")

/-- A page in the form of four TMSIs, three of them 0. -/
def buildPagingRequestType3 (identity : L3MobileIdentity) : Except ParseError Response :=
  if identity.type = .tmsi then
    .ok (.pagingRequestType3
      { tmsis := #v[identity.tmsi, 0, 0, 0], channelsNeeded := #v[.sdcchType, .anyDCCHType] })
  else .error (requiresTMSI "PagingRequestType3 requires a TMSI identity")

/-- The channel loses its `initialized` mark, as the copy in the message does. -/
def buildHandoverCommand (channel : L3ChannelDescription) : Response :=
  .handoverCommand { channelDescriptionAfter := { channel with initialized := false } }

/-- The characters in front of the terminating zero. -/
def cString (text : List Char) : List Char :=
  text.takeWhile (· ≠ '\x00')

/-- Without a number the Setup has no called party; a number ends at its first NUL. -/
def buildSetup (calledNumber : List Char) (ti : UInt8) : Response :=
  if calledNumber = [] then .setup { ti := ti.toNat }
  else .setup { ti := ti.toNat, calledParty := some (.ofText (cString calledNumber)) }

/-- There are one to twenty digits. -/
def buildSetupZeroAlloc (digits : List Char) (ti : UInt8) : Option Response :=
  if digits.length = 0 then none
  else if L3BCDDigits.maxDigits < digits.length then none
  else some (.setup { ti := ti.toNat, calledParty := some (.ofText (cString digits)) })

/-! ## Responses -/

/-- A response that is not built is answered with -1. -/
def writeBuilt (built : Option Response) (out : List UInt8) : List UInt8 × Int :=
  match built with
  | some msg => writeL3 msg out
  | none => (out, -1)

/-- The message of a token, written to `out`; without a session the result is -1. -/
def buildResponseFromToken (token : ResponseToken) (out : List UInt8)
    (session : Option SessionCore) : List UInt8 × Int :=
  match session with
  | none => (out, -1)
  | some session =>
      let r := session.response
      match token with
      | .none => (out, 0)
      | .immediateAssignment =>
          if r.hasChannel = false then (out, -1)
          else if r.hasRequestRef then
            writeL3 (buildImmediateAssignment r.channel 0 (some ⟨r.requestRef, 0, 0, 0⟩)) out
          else writeL3 (buildImmediateAssignment r.channel 0 none) out
      | .assignmentCommand =>
          if r.hasChannel = false then (out, -1)
          else writeL3 (buildAssignmentCommand r.channel {}) out
      | .channelRelease => writeL3 (buildChannelRelease 0) out
      | .cipheringModeCommand =>
          writeL3 (buildCipheringModeCommand (if r.hasCipherAlgo then r.cipherAlgo else 1)) out
      | .physicalInformation => writeL3 (buildPhysicalInformation 0) out
      | .handoverCommand =>
          if r.hasHoChannel = false then (out, -1)
          else writeL3 (buildHandoverCommand r.hoChannel) out
      | .pagingRequestType1 =>
          if r.hasIdentity = false then (out, -1)
          else writeL3 (buildPagingRequestType1 r.identity) out
      | .pagingRequestType2 =>
          if r.hasIdentity = false then (out, -1)
          else writeBuilt (buildPagingRequestType2 r.identity).toOption out
      | .pagingRequestType3 =>
          if r.hasIdentity = false then (out, -1)
          else writeBuilt (buildPagingRequestType3 r.identity).toOption out
      | .cmServiceAccept => writeL3 buildCMServiceAccept out
      | .cmServiceReject => writeL3 (buildCMServiceReject r.mmCause) out
      | .identityRequest => writeL3 (buildIdentityRequest 1) out
      | .authenticationRequest =>
          if r.hasRand = false then (out, -1)
          else writeL3 (buildAuthenticationRequest r.rand.toList) out
      | .locationUpdatingAccept =>
          writeL3 (buildLocationUpdatingAccept (session.context.lai.getD {}) r.newTmsi) out
      | .locationUpdatingReject => writeL3 (buildLocationUpdatingReject r.mmCause) out
      | .tmsiReallocationCommand =>
          let id := session.context.identity
          writeL3 (buildTMSIReallocationCommand (session.context.lai.getD {})
            (if id.type = .tmsi then id.tmsi else 0)) out
      | .callProceeding => writeL3 (buildCallProceeding r.ti) out
      | .alerting => writeL3 (buildAlerting r.ti) out
      | .connect => writeL3 (buildConnect r.ti) out
      | .connectAcknowledge => writeL3 (buildConnectAcknowledge r.ti) out
      | .disconnect => writeL3 (buildDisconnect r.ti r.ccCause) out
      | .release => writeL3 (buildRelease r.ti r.ccCause) out
      | .releaseComplete => writeL3 (buildReleaseComplete r.ti) out
      | .setup =>
          if r.hasCalledNumber = false then (out, -1)
          else writeBuilt (buildSetupZeroAlloc r.calledNumber r.ti) out

/-! ## What is written -/

/-- A response is written in front of what stays of the buffer, if it fits. -/
theorem writeL3_eq {msg : Response} (readable : msg.Readable) (out : List UInt8) :
    writeL3 msg out =
      if msg.encoding.octets.length ≤ out.length then
        (msg.encoding.octets ++ out.drop msg.encoding.octets.length,
          (msg.encoding.octets.length : Int))
      else (out, -1) := by
  rw [writeL3, L3Encoding.octets_length]
  split
  case h_1 buffer size written =>
    have room : msg.encoding.wireLength ≤ out.length := by
      by_contra small
      rw [L3Encoding.writeL3Body, if_pos (not_le.mp small)] at written
      cases written
    rw [(Response.encoding_exact readable).writeL3Body room] at written
    obtain ⟨rfl, rfl⟩ := Prod.mk.inj (Except.ok.inj written)
    rw [if_pos room]
  case h_2 error failed =>
    rw [if_neg]
    intro room
    rw [(Response.encoding_exact readable).writeL3Body room] at failed
    cases failed

/-- Both forms of a builder give the same octets. -/
theorem writeL3Bytes_eq {msg : Response} (readable : msg.Readable) :
    writeL3Bytes msg = .ok msg.encoding.octets := by
  have size : (List.replicate msg.encoding.wireLength (0 : UInt8)).length =
      msg.encoding.wireLength := List.length_replicate ..
  rw [writeL3Bytes, (Response.encoding_exact readable).writeL3Body size.ge]
  exact congrArg Except.ok (List.take_left' msg.encoding.octets_length)

/-! ## What a response carries -/

section Carries

variable (session : SessionCore)

/-- The parameters that a response needs are there. -/
def Provided : ResponseToken → Prop
  | .immediateAssignment | .assignmentCommand => session.response.hasChannel = true
  | .handoverCommand => session.response.hasHoChannel = true
  | .pagingRequestType1 => session.response.hasIdentity = true
  | .pagingRequestType2 | .pagingRequestType3 =>
      session.response.hasIdentity = true ∧ session.response.identity.type = .tmsi
  | .authenticationRequest => session.response.hasRand = true
  | .setup => session.response.hasCalledNumber = true ∧ session.response.calledNumber ≠ [] ∧
      session.response.calledNumber.length ≤ L3BCDDigits.maxDigits
  | _ => True

/-- The message that the other side reads is the one asked for, with these parameters. -/
def Carries : ResponseToken → Response → Prop
  | .immediateAssignment, .immediateAssignment msg =>
      msg.channelDescription = session.response.channel ∧ msg.timingAdvance.timingAdvance = 0 ∧
        (session.response.hasRequestRef = true →
          msg.requestReference.ra = session.response.requestRef)
  | .assignmentCommand, .assignmentCommand msg =>
      msg.channel = session.response.channel ∧ msg.haveMode1 = false
  | .channelRelease, .channelRelease msg => msg.cause = 0
  | .cipheringModeCommand, .fixed (.cipheringModeCommand msg) =>
      let algorithm := if session.response.hasCipherAlgo then session.response.cipherAlgo else 1
      msg.algorithm = algorithm.toNat ∧ (msg.ciphering = true ↔ algorithm ≠ 0)
  | .physicalInformation, .physicalInformation msg => msg.timingAdvance.timingAdvance = 0
  | .handoverCommand, .handoverCommand msg =>
      { msg.channelDescriptionAfter with initialized := session.response.hoChannel.initialized } =
        session.response.hoChannel
  | .pagingRequestType1, .pagingRequestType1 msg =>
      msg.mobileIdCount = 1 ∧ msg.mobileIds.get 0 = session.response.identity
  | .pagingRequestType2, .pagingRequestType2 msg =>
      msg.tmsis = #v[session.response.identity.tmsi, 0] ∧ msg.haveThirdIdentity = false
  | .pagingRequestType3, .pagingRequestType3 msg =>
      msg.tmsis = #v[session.response.identity.tmsi, 0, 0, 0]
  | .cmServiceAccept, .fixed .cmServiceAccept => True
  | .cmServiceReject, .fixed (.cmServiceReject msg) => msg.cause = session.response.mmCause
  | .identityRequest, .identityRequest msg => msg.type = 1
  | .authenticationRequest, .authenticationRequest msg => msg.rand = session.response.rand
  | .locationUpdatingAccept, .locationUpdatingAccept msg =>
      msg.lai = session.context.lai.getD {} ∧
        msg.foundIdentity = session.response.newTmsi.map .ofTMSI
  | .locationUpdatingReject, .locationUpdatingReject msg => msg.cause = session.response.mmCause
  | .tmsiReallocationCommand, .tmsiReallocationCommand msg =>
      msg.lai = session.context.lai.getD {} ∧
        (session.context.identity.type = .tmsi → msg.tmsi = .ofTMSI session.context.identity.tmsi)
  | .callProceeding, .callProceeding msg => msg.ti = session.response.ti.toNat
  | .alerting, .alerting msg => msg.ti = session.response.ti.toNat
  | .connect, .connect msg => msg.ti = session.response.ti.toNat
  | .connectAcknowledge, .connectAcknowledge ti => ti = session.response.ti.toNat
  | .disconnect, .disconnect msg =>
      msg.ti = session.response.ti.toNat ∧ msg.cause = session.response.ccCause.toNat
  | .release, .release msg =>
      msg.ti = session.response.ti.toNat ∧ msg.cause = some session.response.ccCause.toNat
  | .releaseComplete, .releaseComplete msg =>
      msg.ti = session.response.ti.toNat ∧ msg.cause = none
  | .setup, .setup msg =>
      msg.ti = session.response.ti.toNat ∧
        msg.calledParty.map L3CalledPartyBCDNumber.digits = some session.response.calledNumber
  | _, _ => False

/-- Digits, behind a plus sign at most. -/
def Dialled (number : List Char) : Prop :=
  ∀ c ∈ L3BCDDigits.unsigned number, L3BCDDigits.stores c = true ∧ c ≠ '+'

/-- The parameters that are set fit the fields they are written in. -/
structure Valid : Prop where
  channel : session.response.hasChannel = true → session.response.channel.Canonical true
  hoChannel : session.response.hasHoChannel = true →
    L3ChannelDescription.Canonical false { session.response.hoChannel with initialized := false }
  cipherAlgo : session.response.hasCipherAlgo = true → session.response.cipherAlgo.toNat ≤ 8
  identity : session.response.hasIdentity = true →
    L3MobileIdentity.Built session.response.identity
  lai : ∀ lai ∈ session.context.lai, lai.Canonical
  ti : session.response.ti.toNat < 2 ^ 3
  ccCause : session.response.ccCause.toNat < 2 ^ 7
  calledNumber : session.response.hasCalledNumber = true → Dialled session.response.calledNumber

end Carries

/-! ## Numbers -/

/-- A dialled number has no NUL. -/
theorem cString_eq {text : List Char} (dialled : Dialled text) : cString text = text := by
  apply List.takeWhile_eq_self_iff.mpr
  intro c member
  apply decide_eq_true
  rintro rfl
  cases text with
  | nil => cases member
  | cons first rest =>
      by_cases plus : first = '+'
      · subst plus
        rcases List.mem_cons.mp member with zero | member
        · cases zero
        · exact absurd (dialled _ member).1 (by decide)
      · have head : (first :: rest).head? ≠ some '+' := fun same => plus (Option.some.inj same)
        rw [Dialled, L3BCDDigits.unsigned_of_head head] at dialled
        exact absurd (dialled _ member).1 (by decide)

/-- Digits that are stored and have room stay as they are. -/
theorem ofText_eq {digits : List Char} (stored : ∀ c ∈ digits, L3BCDDigits.stores c = true)
    (room : digits.length ≤ L3BCDDigits.maxDigits) : L3BCDDigits.ofText digits = digits := by
  rw [L3BCDDigits.ofText, List.filter_eq_self.mpr stored, List.take_of_length_le room]

/-- A number is read back with its plus sign and all its digits. -/
theorem reread_called {number : List Char} (dialled : Dialled number)
    (room : number.length ≤ L3BCDDigits.maxDigits) :
    (L3CalledPartyBCDNumber.reread (.ofText number)).digits = number := by
  by_cases signed : number.head? = some '+'
  · obtain ⟨digits, rfl⟩ := List.head?_eq_some_iff.mp signed
    change ∀ c ∈ digits, L3BCDDigits.stores c = true ∧ c ≠ '+' at dialled
    have plain : '+' ∉ digits := fun member => (dialled _ member).2 rfl
    have kept := L3BCDDigits.map_redigit_eq (fun c member => (dialled c member).1) plain
    have whole : L3BCDDigits.unsigned digits = digits :=
      L3BCDDigits.unsigned_of_head fun head => plain (List.mem_of_head? head)
    change L3BCDDigits.reread true (L3BCDDigits.ofText digits) = _
    rw [ofText_eq (fun c member => (dialled c member).1) (Nat.le_of_succ_le room),
      L3BCDDigits.reread, whole, kept]
    exact List.take_of_length_le room
  · have whole := L3BCDDigits.unsigned_of_head signed
    rw [Dialled, whole] at dialled
    have plain : '+' ∉ number := fun member => (dialled _ member).2 rfl
    have national : L3CalledPartyBCDNumber.ofText number =
        ⟨TypeOfNumber.national, NumberingPlan.e164, L3BCDDigits.ofText number⟩ := by
      rw [L3CalledPartyBCDNumber.ofText]
      rintro digits rfl
      exact signed rfl
    rw [national, ofText_eq (fun c member => (dialled c member).1) room]
    change L3BCDDigits.reread false number = number
    rw [L3BCDDigits.reread, whole,
      L3BCDDigits.map_redigit_eq (fun c member => (dialled c member).1) plain]
    exact List.take_of_length_le room

/-! ## Readable responses -/

/-- The head of a page that the builder makes is canonical. -/
theorem canonical_paging (pageMode : L3PageMode) (small : pageMode.pageMode ≤ 3) :
    PagingHead.Canonical ⟨#v[.sdcchType, .anyDCCHType], pageMode⟩ where
  coded i inside := by
    obtain rfl | rfl : i = 0 ∨ i = 1 := by omega
    · rfl
    · rfl
  pageMode := small

theorem lacks_nil (nbits : Nat) (announces : Nat → Bool) : Lacks nbits announces [] :=
  fun some_bit => absurd rfl some_bit

theorem canonical_requestRef (ra : UInt8) : L3RequestReference.Canonical ⟨ra, 0, 0, 0⟩ :=
  ⟨Nat.two_pow_pos 5, Nat.two_pow_pos 6, Nat.two_pow_pos 5⟩

/-- A TMSI is an identity that a constructor builds. -/
theorem built_ofTMSI (tmsi : UInt32) : L3MobileIdentity.Built (.ofTMSI tmsi) :=
  rfl

theorem built_default : L3MobileIdentity.Built {} :=
  ⟨rfl, rfl⟩

section Readable

variable {channel : L3ChannelDescription} {identity : L3MobileIdentity}
  {lai : L3LocationAreaIdentity}

theorem readable_immediateAssignment (canonical : channel.Canonical true)
    {requestRef : Option L3RequestReference} (reference : (requestRef.getD {}).Canonical) :
    (buildImmediateAssignment channel 0 requestRef).Readable := by
  refine ⟨rfl, ⟨?_, fun _ _ => nofun⟩⟩
  exact
    { pageMode := Nat.zero_le _
      dedicatedModeOrTBF := ⟨Nat.two_pow_pos 1, Nat.two_pow_pos 1, Nat.two_pow_pos 1⟩
      requestReference := reference
      channelDescription := canonical
      timingAdvance := Nat.zero_le _
      mobileAllocation := Nat.two_pow_pos 8
      startTime := ⟨Nat.two_pow_pos 5, Nat.two_pow_pos 6, Nat.two_pow_pos 5⟩
      noStartTime := fun _ => rfl }

theorem readable_assignmentCommand (canonical : channel.Canonical true) :
    (buildAssignmentCommand channel {}).Readable where
  channel := canonical
  powerCommand := Nat.two_pow_pos 5
  mode1 _ := rfl
  options := Nat.two_pow_pos 8
  multiRate _ := rfl
  tail _ := lacks_nil 8 _

theorem readable_channelRelease (cause : UInt8) : (buildChannelRelease cause).Readable where
  bit _ := rfl
  tail _ := lacks_nil 4 _

theorem readable_cipheringModeCommand {cipherAlgo : UInt8} (small : cipherAlgo.toNat ≤ 8) :
    (buildCipheringModeCommand cipherAlgo).Readable where
  algorithm started := by
    have other : cipherAlgo ≠ 0 := of_decide_eq_true started
    refine ⟨Nat.pos_of_ne_zero fun zero => other ?_, small⟩
    exact UInt8.toNat_inj.mp zero
  none stopped := by
    have zero : cipherAlgo = 0 := not_not.mp (of_decide_eq_false stopped)
    rw [zero]
    rfl

theorem readable_handoverCommand
    (canonical : L3ChannelDescription.Canonical false { channel with initialized := false }) :
    (buildHandoverCommand channel).Readable where
  cellDescription := ⟨Nat.two_pow_pos 10, Nat.two_pow_pos 3, Nat.two_pow_pos 3⟩
  channelDescriptionAfter := canonical
  powerCommandAccessType := Nat.two_pow_pos 5
  synchronizationIndication := Nat.two_pow_pos 2

theorem readable_pagingRequestType1 (built : identity.Built) :
    (buildPagingRequestType1 identity).Readable :=
  ⟨⟨#v[.sdcchType, .anyDCCHType], {}⟩, identity, none, [],
    canonical_paging {} (Nat.zero_le _), built, nofun, fun _ => lacks_nil 8 _, rfl⟩

theorem readable_pagingRequestType2 (tmsi : UInt32) :
    (Response.pagingRequestType2
      { tmsis := #v[tmsi, 0], channelsNeeded := #v[.sdcchType, .anyDCCHType] }).Readable :=
  ⟨⟨#v[.sdcchType, .anyDCCHType], {}⟩, #v[tmsi, 0], none, [],
    canonical_paging {} (Nat.zero_le _), nofun, fun _ => lacks_nil 8 _, rfl⟩

theorem readable_pagingRequestType3 (tmsi : UInt32) :
    (Response.pagingRequestType3
      { tmsis := #v[tmsi, 0, 0, 0], channelsNeeded := #v[.sdcchType, .anyDCCHType] }).Readable :=
  canonical_paging {} (Nat.zero_le _)

theorem readable_locationUpdatingAccept (canonical : lai.Canonical) (newTmsi : Option UInt32) :
    (buildLocationUpdatingAccept lai newTmsi).Readable := by
  cases newTmsi with
  | none => exact ⟨canonical, built_default, fun _ => rfl⟩
  | some tmsi => exact ⟨canonical, built_ofTMSI tmsi, nofun⟩

theorem readable_setup (number : L3CalledPartyBCDNumber) (ti : Nat)
    (stored : L3BCDDigits.Stored number.digits) :
    (Response.setup { ti, calledParty := some number }).Readable := by
  constructor
  case bearerCapability =>
    intro value member
    obtain rfl := Option.some.inj member
    decide
  case calledParty =>
    intro value member
    obtain rfl := Option.some.inj member
    exact stored
  all_goals exact nofun

/-- The number of a Setup fits its storage. -/
theorem stored_called (text : List Char) :
    L3BCDDigits.Stored (L3CalledPartyBCDNumber.ofText text).digits := by
  unfold L3CalledPartyBCDNumber.ofText
  split
  · exact L3BCDDigits.stored_ofText _
  · exact L3BCDDigits.stored_ofText _

end Readable

/-! ## Responses carry their parameters -/

section Answers

variable {M : Type} (rest : Gsml3.L3Header → FieldParser M)

/-- The octets do not depend on the buffer, and what is parsed of them carries the parameters. -/
def Answers (session : SessionCore) (token : ResponseToken)
    (answer : List UInt8 → List UInt8 × Int) : Prop :=
  ∃ octets read,
    (∀ out, answer out =
      if octets.length ≤ out.length then
        (octets ++ out.drop octets.length, (octets.length : Int))
      else (out, -1)) ∧
    (∀ requireFullConsumption, Parser.parseL3 (others rest) requireFullConsumption octets =
      .ok (Response.parsed read)) ∧
    Carries session token read

variable {session : SessionCore} {token : ResponseToken}

/-- A readable response that is written answers its token. -/
theorem answers_of {answer : List UInt8 → List UInt8 × Int} (msg : Response)
    (readable : msg.Readable) (written : ∀ out, answer out = writeL3 msg out)
    (carries : Carries session token msg.reread) : Answers rest session token answer := by
  refine ⟨msg.encoding.octets, msg.reread, fun out => ?_, fun full => ?_, carries⟩
  · rw [written]
    exact writeL3_eq readable out
  · exact Response.read_back rest full readable

/-- A response is built from its parameters, and read back with them. -/
theorem answers_provided (valid : Valid session) (asks : token ≠ .none)
    (provided : Provided session token) :
    Answers rest session token fun out => buildResponseFromToken token out (some session) := by
  have area : (session.context.lai.getD {}).Canonical := by
    cases found : session.context.lai with
    | none => exact L3LocationAreaIdentity.canonical_default
    | some lai => exact valid.lai lai found
  have ti : session.response.ti.toNat % 2 ^ 3 = session.response.ti.toNat :=
    Nat.mod_eq_of_lt valid.ti
  have cause : session.response.ccCause.toNat % 2 ^ 7 = session.response.ccCause.toNat :=
    Nat.mod_eq_of_lt valid.ccCause
  cases token with
  | none => exact absurd rfl asks
  | immediateAssignment =>
      have present : session.response.hasChannel = true := provided
      have canonical := valid.channel present
      cases known : session.response.hasRequestRef with
      | true =>
          have readable := @readable_immediateAssignment _ canonical
            (some ⟨session.response.requestRef, 0, 0, 0⟩) (canonical_requestRef _)
          apply answers_of rest _ readable
          · intro out
            simp only [buildResponseFromToken, present, known]
            rfl
          · exact ⟨rfl, rfl, fun _ => rfl⟩
      | false =>
          have readable := @readable_immediateAssignment _ canonical none (canonical_requestRef 0)
          apply answers_of rest _ readable
          · intro out
            simp only [buildResponseFromToken, present, known]
            rfl
          · exact ⟨rfl, rfl, fun some => absurd (known.symm.trans some) nofun⟩
  | assignmentCommand =>
      have present : session.response.hasChannel = true := provided
      apply answers_of rest _ (readable_assignmentCommand (valid.channel present))
      · intro out
        simp only [buildResponseFromToken, present]
        rfl
      · exact ⟨rfl, rfl⟩
  | channelRelease =>
      exact answers_of rest _ (readable_channelRelease 0) (fun _ => rfl) rfl
  | cipheringModeCommand =>
      have small : (if session.response.hasCipherAlgo then session.response.cipherAlgo
          else 1).toNat ≤ 8 := by
        split
        case isTrue known => exact valid.cipherAlgo known
        case isFalse => decide
      apply answers_of rest _ (readable_cipheringModeCommand small) (fun _ => rfl)
      exact ⟨rfl, decide_eq_true_iff⟩
  | physicalInformation =>
      exact answers_of rest (buildPhysicalInformation 0) (Nat.zero_le _) (fun _ => rfl) rfl
  | handoverCommand =>
      have present : session.response.hasHoChannel = true := provided
      apply answers_of rest _ (readable_handoverCommand (valid.hoChannel present))
      · intro out
        simp only [buildResponseFromToken, present]
        rfl
      · rfl
  | pagingRequestType1 =>
      have present : session.response.hasIdentity = true := provided
      apply answers_of rest _ (readable_pagingRequestType1 (valid.identity present))
      · intro out
        simp only [buildResponseFromToken, present]
        rfl
      · exact ⟨rfl, rfl⟩
  | pagingRequestType2 =>
      obtain ⟨present, tmsi⟩ := provided
      apply answers_of rest _ (readable_pagingRequestType2 session.response.identity.tmsi)
      · intro out
        simp only [buildResponseFromToken, present, buildPagingRequestType2, if_pos tmsi]
        rfl
      · exact ⟨rfl, rfl⟩
  | pagingRequestType3 =>
      obtain ⟨present, tmsi⟩ := provided
      apply answers_of rest _ (readable_pagingRequestType3 session.response.identity.tmsi)
      · intro out
        simp only [buildResponseFromToken, present, buildPagingRequestType3, if_pos tmsi]
        rfl
      · rfl
  | cmServiceAccept => exact answers_of rest buildCMServiceAccept trivial (fun _ => rfl) trivial
  | cmServiceReject =>
      exact answers_of rest (buildCMServiceReject _) trivial (fun _ => rfl) rfl
  | identityRequest =>
      have small : 1 < 2 ^ 4 := by decide
      exact answers_of rest (buildIdentityRequest 1) small (fun _ => rfl) rfl
  | authenticationRequest =>
      have present : session.response.hasRand = true := provided
      apply answers_of rest (buildAuthenticationRequest session.response.rand.toList)
        (Nat.two_pow_pos 3)
      · intro out
        simp only [buildResponseFromToken, present]
        rfl
      · exact L3AuthenticationRequest.ofFn_toList _
  | locationUpdatingAccept =>
      apply answers_of rest _ (readable_locationUpdatingAccept area session.response.newTmsi)
        (fun _ => rfl)
      cases found : session.response.newTmsi with
      | none => exact ⟨rfl, by rw [found]; rfl⟩
      | some tmsi => exact ⟨rfl, by rw [found]; rfl⟩
  | locationUpdatingReject =>
      exact answers_of rest (buildLocationUpdatingReject _) trivial (fun _ => rfl) rfl
  | tmsiReallocationCommand =>
      apply answers_of rest (buildTMSIReallocationCommand _ _) ⟨area, built_ofTMSI _⟩
        (fun _ => rfl)
      refine ⟨rfl, fun tmsi => ?_⟩
      exact congrArg L3MobileIdentity.ofTMSI (if_pos tmsi)
  | callProceeding =>
      exact answers_of rest (buildCallProceeding _) ⟨nofun, nofun⟩ (fun _ => rfl) ti
  | alerting => exact answers_of rest (buildAlerting _) ⟨nofun, nofun⟩ (fun _ => rfl) ti
  | connect => exact answers_of rest (buildConnect _) ⟨nofun, nofun, nofun⟩ (fun _ => rfl) ti
  | connectAcknowledge =>
      exact answers_of rest (buildConnectAcknowledge _) trivial (fun _ => rfl) ti
  | disconnect =>
      exact answers_of rest (buildDisconnect _ _) trivial (fun _ => rfl) ⟨ti, cause⟩
  | release =>
      exact answers_of rest (buildRelease _ _) nofun (fun _ => rfl) ⟨ti, congrArg some cause⟩
  | releaseComplete =>
      exact answers_of rest (buildReleaseComplete _) nofun (fun _ => rfl) ⟨ti, rfl⟩
  | setup =>
      obtain ⟨present, filled, room⟩ := provided
      have dialled := valid.calledNumber present
      apply answers_of rest _ (readable_setup (.ofText session.response.calledNumber)
        session.response.ti.toNat (stored_called _))
      · intro out
        have digits : ¬ session.response.calledNumber.length = 0 :=
          fun none => filled (List.eq_nil_of_length_eq_zero none)
        simp only [buildResponseFromToken, present, buildSetupZeroAlloc, if_neg digits,
          if_neg (not_lt.mpr room), cString_eq dialled]
        rfl
      · exact ⟨ti, congrArg some (reread_called dialled room)⟩

/-- Without its parameters a response is not built, and the buffer stays as it is. -/
theorem missing (lacks : ¬ Provided session token) (out : List UInt8) :
    buildResponseFromToken token out (some session) = (out, -1) := by
  have unset {flag : Bool} (lacks : ¬ flag = true) : flag = false := Bool.eq_false_of_not_eq_true lacks
  cases token with
  | immediateAssignment | assignmentCommand | handoverCommand | pagingRequestType1
  | authenticationRequest => exact if_pos (unset lacks)
  | pagingRequestType2 =>
      cases present : session.response.hasIdentity with
      | false => exact if_pos present
      | true =>
          have other : ¬ session.response.identity.type = .tmsi := fun tmsi => lacks ⟨present, tmsi⟩
          simp only [buildResponseFromToken, present, buildPagingRequestType2, if_neg other]
          rfl
  | pagingRequestType3 =>
      cases present : session.response.hasIdentity with
      | false => exact if_pos present
      | true =>
          have other : ¬ session.response.identity.type = .tmsi := fun tmsi => lacks ⟨present, tmsi⟩
          simp only [buildResponseFromToken, present, buildPagingRequestType3, if_neg other]
          rfl
  | setup =>
      cases present : session.response.hasCalledNumber with
      | false => exact if_pos present
      | true =>
          have refused : buildSetupZeroAlloc session.response.calledNumber session.response.ti =
              none := by
            rw [buildSetupZeroAlloc]
            split
            case isTrue => rfl
            case isFalse filled =>
              apply if_pos
              by_contra short
              exact lacks ⟨present, fun none => filled (none ▸ rfl), not_lt.mp short⟩
          simp only [buildResponseFromToken, present, refused]
          rfl
  | _ => exact absurd trivial lacks

end Answers

end ResponseBuilder

end Stack

end Gsml3
