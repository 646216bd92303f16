import Gsml3.CC.CallRoundTrips
import Gsml3.MM.ReEmission
import Gsml3.RR.AssignmentRoundTrip
import Gsml3.RR.PagingReEmission
import Gsml3.WrittenFrames

/-!
# The messages of responses

The messages that the network answers with, and what `parseL3` makes of their octets: each comes
back as it is, with what its own parser does not keep replaced.
-/

namespace Gsml3

open BitWriter (Op fields endPos)
open FieldParser
open Foundation (bitString)
open Stack (L3LocationAreaIdentity L3MobileIdentity)
open Stack.L3MobileIdentity (Built readIdentity)

/-! ## Messages of one octet -/

/-- The timing advance for a mobile that comes by handover. -/
structure L3PhysicalInformation where
  timingAdvance : L3TimingAdvance := {}
deriving DecidableEq, Repr

namespace L3PhysicalInformation

/-- The one octet of the timing advance. -/
def bodyLength (_ : L3PhysicalInformation) : Nat :=
  L3TimingAdvance.lengthV

/-- The timing advance. -/
def parse : FieldParser L3PhysicalInformation := do
  let timingAdvance ← L3TimingAdvance.parse
  pure { timingAdvance }

/-- The timing advance. -/
def write (msg : L3PhysicalInformation) : List Op :=
  msg.timingAdvance.write

/-- A timing advance in range comes back. -/
theorem takes_write {msg : L3PhysicalInformation} (inRange : msg.timingAdvance.timingAdvance ≤ 219)
    (pos : Nat) : Takes parse (fields pos msg.write) (some msg) :=
  (L3TimingAdvance.codec.takes msg.timingAdvance inRange pos).yield L3PhysicalInformation.mk

end L3PhysicalInformation

/-- The type of identity is not looked at. -/
structure L3IdentityRequest where
  type : Nat := 0
deriving DecidableEq, Repr

namespace L3IdentityRequest

/-- One octet. -/
def bodyLength (_ : L3IdentityRequest) : Nat := 1

/-- The type in the low half octet. -/
def parse : FieldParser L3IdentityRequest := do
  let _ ← readField 4
  let type ← readField 4
  pure { type }

/-- The type in the low half octet. -/
def write (msg : L3IdentityRequest) : List Op :=
  [.writeField 0 4, .writeField (UInt32.ofNat msg.type) 4]

/-- A type of four bits comes back. -/
theorem takes_write {msg : L3IdentityRequest} (small : msg.type < 2 ^ 4) (pos : Nat) :
    Takes parse (fields pos msg.write) (some msg) := by
  refine Takes.skipped (Takes.skipped ?_ (by simp)) (by simp)
  rw [stored_ofNat _ 4 (by decide), Nat.mod_eq_of_lt small]
  exact Takes.pure msg

end L3IdentityRequest

/-- Location Updating Reject, a message of a cause. -/
abbrev L3LocationUpdatingReject := CauseMessage

/-- Every cause comes back. -/
theorem CauseMessage.takes_write (msg : CauseMessage) (pos : Nat) :
    Takes CauseMessage.parse (fields pos msg.write) (some msg) := by
  have octet := takes_readOctet msg.cause
  rw [← fields_writeOctets [msg.cause] pos] at octet
  exact octet.yield CauseMessage.mk

/-! ## Authentication -/

/-- The challenge of an authentication, with the octets behind it. -/
structure L3AuthenticationRequest where
  cksn : UInt32 := 0
  rand : Vector UInt8 16 := .replicate 16 0
  additionalIes : List UInt8 := []
deriving DecidableEq, Repr

namespace L3AuthenticationRequest

/-- The key octet, the challenge and the octets kept. -/
def bodyLength (msg : L3AuthenticationRequest) : Nat :=
  17 + msg.additionalIes.length

/-- The key sequence number, the challenge and what is left. -/
def parse : FieldParser L3AuthenticationRequest := do
  let octet ← readUnsigned 8
  let rand ← readOctets 16
  let additionalIes ← readOpaqueTail "truncated optional IEs"
  pure { cksn := octet &&& 0x07, rand := .ofFn fun i => rand.getD i 0, additionalIes }

/-- The key sequence number, the challenge and the octets kept. -/
def write (msg : L3AuthenticationRequest) : List Op :=
  [.writeField (msg.cksn &&& 0x07) 8] ++ writeOctets msg.rand.toList ++
    writeOctets msg.additionalIes

/-- The challenge fills the announced length. -/
theorem endPos_write (msg : L3AuthenticationRequest) :
    endPos 0 msg.write = msg.bodyLength * 8 := by
  rw [write, BitWriter.endPos_append, BitWriter.endPos_append, endPos_writeOctets,
    endPos_writeOctets, Vector.length_toList, bodyLength]
  change 8 + 8 * 16 + 8 * msg.additionalIes.length = _
  omega

theorem ofFn_toList (rand : Vector UInt8 16) :
    (Vector.ofFn fun i : Fin 16 => rand.toList.getD i 0) = rand := by
  apply Vector.ext
  intro i inside
  rw [Vector.getElem_ofFn, List.getD_eq_getElem _ _ (Vector.length_toList ▸ inside),
    Vector.getElem_toList]

/-- A key sequence number of three bits comes back, with challenge and tail. -/
theorem takesAll_write {msg : L3AuthenticationRequest} (small : msg.cksn.toNat < 2 ^ 3) :
    TakesAll parse (fields 0 msg.write) (some msg) := by
  obtain ⟨cksn, rand, additionalIes⟩ := msg
  have masked : cksn &&& 0x07 = cksn := by
    apply UInt32.toNat_inj.mp
    rw [UInt32.toNat_and]
    exact (Nat.and_two_pow_sub_one_eq_mod cksn.toNat 3).trans (Nat.mod_eq_of_lt small)
  have octets (pos : Nat) : Takes (readOctets 16) (fields pos (writeOctets rand.toList))
      (some rand.toList) := by
    have whole := takes_writeOctets rand.toList pos
    rwa [Vector.length_toList] at whole
  have tail (pos : Nat) := (takesAll_writeOctets "truncated optional IEs" additionalIes pos).yield
    fun additionalIes => L3AuthenticationRequest.mk cksn rand additionalIes
  rw [write, masked, List.append_assoc]
  refine Takes.part_all (Takes.single ((takes_writeField 0 (by decide) (by decide)).map
    UInt32.ofNat)) (Takes.part_all (octets _) ?_)
  rw [Nat.mod_eq_of_lt (small.trans (by decide)), UInt32.ofNat_toNat, masked, ofFn_toList]
  exact tail _

end L3AuthenticationRequest

/-! ## Allocation of a TMSI -/

/-- A new temporary identity for a location area. -/
structure L3TMSIReallocationCommand where
  lai : L3LocationAreaIdentity := {}
  tmsi : L3MobileIdentity := {}
deriving DecidableEq, Repr

namespace L3TMSIReallocationCommand

/-- The area, and the identity with its length octet. -/
def bodyLength (msg : L3TMSIReallocationCommand) : Nat :=
  L3LocationAreaIdentity.lengthV + (1 + msg.tmsi.lengthV)

/-- The area, then the identity. -/
def parse : FieldParser L3TMSIReallocationCommand := do
  let lai ← L3LocationAreaIdentity.parse
  let tmsi ← readIdentity
  pure { lai, tmsi }

/-- The area, then the identity. -/
def write (msg : L3TMSIReallocationCommand) : List Op :=
  msg.lai.write ++ writeIdentity msg.tmsi

/-- Area and identity fill the announced length. -/
theorem endPos_write (msg : L3TMSIReallocationCommand) :
    endPos 0 msg.write = msg.bodyLength * 8 := by
  rw [write, bodyLength]
  simp [Op.width, L3LocationAreaIdentity.write, L3LocationAreaIdentity.lengthV, writeIdentity]
  omega

/-- A built identity comes back behind its area. -/
theorem takes_write {msg : L3TMSIReallocationCommand} (area : msg.lai.Canonical)
    (built : Built msg.tmsi) : Takes parse (fields 0 msg.write) (some msg) := by
  obtain ⟨parsed, kept⟩ := built.parsed
  have identity := L3MobileIdentity.takes_writeIdentity parsed (endPos 0 msg.lai.write)
  rw [kept] at identity
  exact Takes.part (L3LocationAreaIdentity.codec.takes _ area 0)
    (identity.yield (L3TMSIReallocationCommand.mk msg.lai))

end L3TMSIReallocationCommand

/-! ## Messages of the fixed-length table -/

namespace L3CipheringModeCommand

/-- Ciphering is started with one of eight algorithms, or there is none. -/
structure Canonical (msg : L3CipheringModeCommand) : Prop where
  algorithm : msg.ciphering = true → 1 ≤ msg.algorithm ∧ msg.algorithm ≤ 8
  none : msg.ciphering = false → msg.algorithm = 0

/-- An algorithm between 1 and 8 survives the shift to its identifier. -/
theorem identifier_back (algorithm : Nat) (small : algorithm ≤ 8) (positive : 1 ≤ algorithm) :
    ((UInt32.ofNat algorithm - 1) &&& 0x07).toNat % 2 ^ 3 + 1 = algorithm := by
  revert algorithm
  decide

/-- A canonical command comes back. -/
theorem takes_write {msg : L3CipheringModeCommand} (canonical : msg.Canonical) (pos : Nat) :
    Takes parse (fields pos msg.write) (some msg) := by
  obtain ⟨ciphering, algorithm, imeisv⟩ := msg
  obtain ⟨started, none⟩ := canonical
  refine Takes.skipped (Takes.skipped (Takes.skipped (Takes.skipped ?_ (by simp)) (by simp))
    (by simp)) (by simp)
  cases ciphering with
  | false =>
      obtain rfl := none rfl
      cases imeisv <;> exact Takes.pure _
  | true =>
      obtain ⟨positive, small⟩ := started rfl
      have back := identifier_back algorithm small positive
      rw [if_pos rfl, if_pos rfl, if_pos (by decide), back]
      cases imeisv <;> exact Takes.pure _

end L3CipheringModeCommand

namespace L3CCStatus

/-- Cause and state come back; the transaction is that of the default. -/
theorem takes_write {msg : L3CCStatus} (cause : msg.cause < 2 ^ 7) (callState : msg.callState < 2 ^ 6)
    (pos : Nat) : Takes parse (fields pos msg.write) (some { msg with ti := 7 }) := by
  have element (pos : Nat) :=
    (L3CauseElement.rereads { location := 1, cause := msg.cause }).takes pos
  have state (pos : Nat) :
      Takes L3CallState.parse (fields pos (L3CallState.write msg.callState)) (some msg.callState) := by
    refine Takes.skipped ?_ (by simp)
    rw [← bind_pure (readField 6)]
    refine Takes.skipped ?_ (by simp)
    rw [stored_ofNat _ 6 (by decide), Nat.mod_eq_of_lt callState]
    exact Takes.pure _
  refine Takes.skipped ?_ (by simp)
  rw [stored_ofNat _ 8 (by decide), if_neg (by decide)]
  refine Takes.part (element _) ?_
  have kept : (L3CauseElement.reread { location := 1, cause := msg.cause }).cause = msg.cause :=
    Nat.mod_eq_of_lt cause
  rw [kept]
  exact (state _).yield fun callState => L3CCStatus.mk 7 msg.cause callState

end L3CCStatus

namespace FixedMessage

/-- The transaction is read from the header, and each field holds its value. -/
def Canonical : FixedMessage → Prop
  | .cipheringModeCommand msg => msg.Canonical
  | .ccStatus msg => msg.ti < 2 ^ 3 ∧ msg.cause < 2 ^ 7 ∧ msg.callState < 2 ^ 6
  | .ccNotify msg => msg.ti < 2 ^ 3
  | .bccCallConfirmed ti | .bccConnectAcknowledge ti | .gccCallConfirmed ti => ti < 2 ^ 3
  | _ => True

/-- The transaction identifier of a canonical message fits the header. -/
theorem Canonical.transaction {msg : FixedMessage} (canonical : msg.Canonical) :
    msg.ti % 2 ^ 3 = msg.ti := by
  apply Nat.mod_eq_of_lt
  cases msg with
  | ccStatus => exact canonical.1
  | ccNotify | bccCallConfirmed | bccConnectAcknowledge | gccCallConfirmed => exact canonical
  | _ => exact Nat.two_pow_pos 3

/-- A canonical message has a parser by its header, which gets it back. -/
theorem takesAll_write {msg : FixedMessage} (canonical : msg.Canonical) :
    ∃ parser, parseBody msg.pd msg.mti (msg.ti % 2 ^ 3) = some parser ∧
      TakesAll parser (fields 0 msg.write) (some msg) := by
  rw [canonical.transaction]
  cases msg with
  | rrStatus msg => exact ⟨_, rfl, ((msg.takes_write 0).map rrStatus).all⟩
  | classmarkEnquiry => exact ⟨_, rfl, (Takes.pure _).all⟩
  | assignmentComplete msg => exact ⟨_, rfl, ((msg.takes_write 0).map assignmentComplete).all⟩
  | assignmentFailure msg => exact ⟨_, rfl, ((msg.takes_write 0).map assignmentFailure).all⟩
  | cipheringModeCommand msg =>
      exact ⟨_, rfl, ((L3CipheringModeCommand.takes_write canonical 0).map
        cipheringModeCommand).all⟩
  | cmServiceAccept => exact ⟨_, rfl, (Takes.pure _).all⟩
  | cmServiceReject msg => exact ⟨_, rfl, ((msg.takes_write 0).map cmServiceReject).all⟩
  | cmServiceAbort => exact ⟨_, rfl, (Takes.pure _).all⟩
  | mmAbort => exact ⟨_, rfl, (Takes.pure _).all⟩
  | mmStatus msg => exact ⟨_, rfl, ((msg.takes_write 0).map mmStatus).all⟩
  | ccStatus msg =>
      obtain ⟨-, cause, callState⟩ := canonical
      exact ⟨_, rfl, ((L3CCStatus.takes_write cause callState 0).map
        fun read : L3CCStatus => ccStatus { read with ti := msg.ti }).all⟩
  | ccNotify msg =>
      exact ⟨_, rfl, ((msg.toCauseMessage.takes_write 0).map
        fun read => ccNotify ⟨read, msg.ti⟩).all⟩
  | bccCallConfirmed ti => exact ⟨_, rfl, (Takes.pure _).all⟩
  | bccConnectAcknowledge ti => exact ⟨_, rfl, (Takes.pure _).all⟩
  | gccCallConfirmed ti => exact ⟨_, rfl, (Takes.pure _).all⟩

/-- The header of a message of fixed length is one the parser looks behind. -/
theorem writtenStandard (msg : FixedMessage) : Parser.WrittenStandard msg.encoding where
  header := by cases msg <;> exact of_decide_eq_true rfl
  length := by
    cases msg <;> rfl
  notFour two := by cases msg <;> cases two

end FixedMessage

/-! ## Messages that are written again by other modules -/

/-- A page by TMSIs comes back. -/
theorem L3PagingRequestType3.takesAll_write {msg : L3PagingRequestType3}
    (canonical : msg.head.Canonical) : TakesAll parse (fields 0 msg.write) (some msg) := by
  rw [write, List.append_assoc]
  refine Takes.part_all (PagingHead.codec.takes msg.head canonical 0) ?_
  refine Takes.part_all (takes_readTMSIs msg.tmsis _) ?_
  exact (takesAll_writeOctets _ msg.additionalIes _).yield _

/-- A canonical command comes back. -/
theorem L3HandoverCommand.takesAll_write {msg : L3HandoverCommand} (canonical : msg.Canonical) :
    TakesAll parse (fields 0 msg.write) (some msg) := by
  rw [write]
  simp only [List.append_assoc]
  refine Takes.part_all (L3CellDescription.codec.takes _ canonical.cellDescription 0) ?_
  refine Takes.part_all ((Stack.L3ChannelDescription.codec_parseFields false).takes _
    canonical.channelDescriptionAfter _) ?_
  refine Takes.part_all (L3HandoverReference.codec.takes _ trivial _) ?_
  refine Takes.part_all (L3PowerCommandAndAccessType.codec.takes _
    canonical.powerCommandAccessType _) ?_
  refine Takes.part_all (L3SynchronizationIndication.codec.takes _
    canonical.synchronizationIndication _) ?_
  exact (takesAll_writeOctets _ msg.additionalIes _).yield _

/-! ## The responses -/

/-- The messages that answer a token. -/
inductive Response where
  | fixed (msg : FixedMessage)
  | immediateAssignment (msg : L3ImmediateAssignment)
  | assignmentCommand (msg : L3AssignmentCommand)
  | channelRelease (msg : L3ChannelRelease)
  | physicalInformation (msg : L3PhysicalInformation)
  | handoverCommand (msg : L3HandoverCommand)
  | pagingRequestType1 (msg : L3PagingRequestType1)
  | pagingRequestType2 (msg : L3PagingRequestType2)
  | pagingRequestType3 (msg : L3PagingRequestType3)
  | identityRequest (msg : L3IdentityRequest)
  | authenticationRequest (msg : L3AuthenticationRequest)
  | locationUpdatingAccept (msg : L3LocationUpdatingAccept)
  | locationUpdatingReject (msg : L3LocationUpdatingReject)
  | tmsiReallocationCommand (msg : L3TMSIReallocationCommand)
  | callProceeding (msg : L3CallProceeding)
  | alerting (msg : L3Alerting)
  | connect (msg : L3Connect)
  | connectAcknowledge (ti : Nat)
  | disconnect (msg : L3Disconnect)
  | release (msg : L3Release)
  | releaseComplete (msg : L3ReleaseComplete)
  | setup (msg : L3Setup)
deriving DecidableEq, Repr

namespace Response

/-- What `writeL3` writes a message with. -/
def encoding : Response → L3Encoding
  | .fixed msg => msg.encoding
  | .immediateAssignment msg => RRMessage.encoding (.immediateAssignment msg)
  | .assignmentCommand msg => RRMessage.encoding (.assignmentCommand msg)
  | .channelRelease msg => RRMessage.encoding (.channelRelease msg)
  | .physicalInformation msg =>
      { pd := 0x06, mti := 0x2d, bodyLength := msg.bodyLength, fields := msg.write }
  | .handoverCommand msg => RRMessage.encoding (.handoverCommand msg)
  | .pagingRequestType1 msg => RRMessage.encoding (.pagingRequestType1 msg)
  | .pagingRequestType2 msg => RRMessage.encoding (.pagingRequestType2 msg)
  | .pagingRequestType3 msg => RRMessage.encoding (.pagingRequestType3 msg)
  | .identityRequest msg =>
      { pd := 0x05, mti := 0x18, bodyLength := msg.bodyLength, fields := msg.write }
  | .authenticationRequest msg =>
      { pd := 0x05, mti := 0x12, bodyLength := msg.bodyLength, fields := msg.write }
  | .locationUpdatingAccept msg =>
      { pd := 0x05, mti := 0x02, bodyLength := msg.bodyLength, fields := msg.write }
  | .locationUpdatingReject msg =>
      { pd := 0x05, mti := 0x04, bodyLength := 1, fields := msg.write }
  | .tmsiReallocationCommand msg =>
      { pd := 0x05, mti := 0x1a, bodyLength := msg.bodyLength, fields := msg.write }
  | .callProceeding msg =>
      { pd := 0x03, mti := 0x02, ti := msg.ti, bodyLength := msg.bodyLength, fields := msg.write }
  | .alerting msg =>
      { pd := 0x03, mti := 0x01, ti := msg.ti, bodyLength := msg.bodyLength, fields := msg.write }
  | .connect msg =>
      { pd := 0x03, mti := 0x07, ti := msg.ti, bodyLength := msg.bodyLength, fields := msg.write }
  | .connectAcknowledge ti => { pd := 0x03, mti := 0x0f, ti := ti, bodyLength := 0, fields := [] }
  | .disconnect msg =>
      { pd := 0x03, mti := 0x25, ti := msg.ti, bodyLength := msg.bodyLength, fields := msg.write }
  | .release msg =>
      { pd := 0x03, mti := 0x2d, ti := msg.ti, bodyLength := msg.bodyLength, fields := msg.write }
  | .releaseComplete msg =>
      { pd := 0x03, mti := 0x2a, ti := msg.ti, bodyLength := msg.bodyLength, fields := msg.write }
  | .setup msg =>
      { pd := 0x03, mti := 0x05, ti := msg.ti, bodyLength := msg.bodyLength, fields := msg.write }

/-- The entries of the parse tables; a transaction is set from the header. -/
def parseBody (pd mti ti : Nat) : Option (FieldParser Response) :=
  match pd, mti with
  | 0x06, 0x3f => some (immediateAssignment <$> L3ImmediateAssignment.parse)
  | 0x06, 0x2e => some (assignmentCommand <$> L3AssignmentCommand.parse)
  | 0x06, 0x0d => some (channelRelease <$> L3ChannelRelease.parse)
  | 0x06, 0x2d => some (physicalInformation <$> L3PhysicalInformation.parse)
  | 0x06, 0x2b => some (handoverCommand <$> L3HandoverCommand.parse)
  | 0x06, 0x21 => some (pagingRequestType1 <$> L3PagingRequestType1.parse)
  | 0x06, 0x22 => some (pagingRequestType2 <$> L3PagingRequestType2.parse)
  | 0x06, 0x24 => some (pagingRequestType3 <$> L3PagingRequestType3.parse)
  | 0x05, 0x18 => some (identityRequest <$> L3IdentityRequest.parse)
  | 0x05, 0x12 => some (authenticationRequest <$> L3AuthenticationRequest.parse)
  | 0x05, 0x02 => some (locationUpdatingAccept <$> L3LocationUpdatingAccept.parse)
  | 0x05, 0x04 => some (locationUpdatingReject <$> CauseMessage.parse)
  | 0x05, 0x1a => some (tmsiReallocationCommand <$> L3TMSIReallocationCommand.parse)
  | 0x03, 0x02 => some ((fun msg => callProceeding { msg with ti }) <$> L3CallProceeding.parse)
  | 0x03, 0x01 => some ((fun msg => alerting { msg with ti }) <$> L3Alerting.parse)
  | 0x03, 0x07 => some ((fun msg => connect { msg with ti }) <$> L3Connect.parse)
  | 0x03, 0x0f => some (pure (connectAcknowledge ti))
  | 0x03, 0x25 => some ((fun msg => disconnect { msg with ti }) <$> L3Disconnect.parse)
  | 0x03, 0x2d => some ((fun msg => release { msg with ti }) <$> ReleaseMessage.parse)
  | 0x03, 0x2a => some ((fun msg => releaseComplete { msg with ti }) <$> ReleaseMessage.parse)
  | 0x03, 0x05 => some ((fun msg => setup { msg with ti }) <$> L3Setup.parse)
  | _, _ => none

/-- The messages outside the fixed-length table: those of responses, and all others. -/
def others {M : Type} (rest : L3Header → FieldParser M) (hdr : L3Header) :
    FieldParser (Response ⊕ M) :=
  match parseBody hdr.pd hdr.mti hdr.ti with
  | some parser => .inl <$> parser
  | none => .inr <$> rest hdr

/-- A response as `parseL3` returns it. -/
def parsed {M : Type} : Response → ParsedMessage (Response ⊕ M)
  | .fixed msg => .fixed msg
  | msg => .other (.inl msg)

/-- The message that is read back: a transaction is one of eight, and what the parser of a call
control message does not keep is lost. -/
def reread : Response → Response
  | .callProceeding msg => .callProceeding { msg.reread with ti := msg.ti % 2 ^ 3 }
  | .alerting msg => .alerting { msg.reread with ti := msg.ti % 2 ^ 3 }
  | .connect msg => .connect { msg.reread with ti := msg.ti % 2 ^ 3 }
  | .connectAcknowledge ti => .connectAcknowledge (ti % 2 ^ 3)
  | .disconnect msg => .disconnect { msg.reread with ti := msg.ti % 2 ^ 3 }
  | .release msg => .release { ReleaseMessage.reread msg with ti := msg.ti % 2 ^ 3 }
  | .releaseComplete msg => .releaseComplete { ReleaseMessage.reread msg with ti := msg.ti % 2 ^ 3 }
  | .setup msg => .setup { msg.reread with ti := msg.ti % 2 ^ 3 }
  | msg => msg

/-- The message is one that its own parser reads from what is written for it: fields hold their
values, identities are those that are built, and strings fit their lengths. -/
def Readable : Response → Prop
  | .fixed msg => msg.Canonical
  | .immediateAssignment msg => msg.mobileAllocation = [] ∧ msg.Canonical
  | .assignmentCommand msg => msg.Canonical
  | .channelRelease msg => msg.Canonical
  | .physicalInformation msg => msg.timingAdvance.timingAdvance ≤ 219
  | .handoverCommand msg => msg.Canonical
  | .pagingRequestType1 msg => ∃ head first second tail, head.Canonical ∧ Built first ∧
      (∀ identity ∈ second, Built identity) ∧
      (second = none → Lacks 8 announcesIdentity (bitString tail)) ∧
      msg = .ofParts head first second tail
  | .pagingRequestType2 msg => ∃ head tmsis third tail, head.Canonical ∧
      (∀ identity ∈ third, Built identity) ∧
      (third = none → Lacks 8 announcesIdentity (bitString tail)) ∧
      msg = .ofParts head tmsis third tail
  | .pagingRequestType3 msg => msg.head.Canonical
  | .identityRequest msg => msg.type < 2 ^ 4
  | .authenticationRequest msg => msg.cksn.toNat < 2 ^ 3
  | .locationUpdatingAccept msg => msg.lai.Canonical ∧ Built msg.mobileIdentity ∧
      (msg.haveMobileIdentity = false → msg.mobileIdentity = {})
  | .locationUpdatingReject _ => True
  | .tmsiReallocationCommand msg => msg.lai.Canonical ∧ Built msg.tmsi
  | .callProceeding msg => msg.Writable
  | .alerting msg => msg.Writable
  | .connect msg => msg.Writable
  | .connectAcknowledge _ => True
  | .disconnect _ => True
  | .release msg => ReleaseMessage.Writable msg
  | .releaseComplete msg => ReleaseMessage.Writable msg
  | .setup msg => msg.Writable

section Built

variable {head : PagingHead} {first : L3MobileIdentity} {found : Option L3MobileIdentity}
  {tail : List UInt8}

/-- An identity that a constructor built is what reading makes of it. -/
theorem rereadIdentity_built (built : Built first) : rereadIdentity first = first :=
  (rereadIdentity_eq_iff first).mpr built.parsed.2

theorem map_rereadIdentity_built (built : ∀ identity ∈ found, Built identity) :
    found.map rereadIdentity = found := by
  cases found with
  | none => rfl
  | some identity => exact congrArg some (rereadIdentity_built (built identity rfl))

/-- A page for built identities comes back. -/
theorem takesAll_type1 (canonical : head.Canonical) (one : Built first)
    (others : ∀ identity ∈ found, Built identity)
    (lacks : found = none → Lacks 8 announcesIdentity (bitString tail)) :
    TakesAll L3PagingRequestType1.parse
      (fields 0 (L3PagingRequestType1.ofParts head first found tail).write)
      (some (.ofParts head first found tail)) := by
  have takes := L3PagingRequestType1.takesAll_ofParts canonical one.parsed.1
    (fun identity member => (others identity member).parsed.1) lacks
  rwa [rereadIdentity_built one, map_rereadIdentity_built others] at takes

/-- A page for two TMSIs and a built identity comes back. -/
theorem takesAll_type2 {tmsis : Vector UInt32 2} (canonical : head.Canonical)
    (others : ∀ identity ∈ found, Built identity)
    (lacks : found = none → Lacks 8 announcesIdentity (bitString tail)) :
    TakesAll L3PagingRequestType2.parse
      (fields 0 (L3PagingRequestType2.ofParts head tmsis found tail).write)
      (some (.ofParts head tmsis found tail)) := by
  have takes := @L3PagingRequestType2.takesAll_ofParts head tmsis found tail canonical
    (fun identity member => (others identity member).parsed.1) lacks
  rwa [map_rereadIdentity_built others] at takes

/-- An accept comes back when its absent identity is the default one. -/
theorem takesAll_accept {msg : L3LocationUpdatingAccept} (area : msg.lai.Canonical)
    (built : Built msg.mobileIdentity)
    (default : msg.haveMobileIdentity = false → msg.mobileIdentity = {}) :
    TakesAll L3LocationUpdatingAccept.parse (fields 0 msg.write) (some msg) := by
  have canonical : msg.Canonical := by
    refine ⟨area, fun identity member => ?_, default⟩
    rw [L3LocationUpdatingAccept.foundIdentity] at member
    split at member
    · obtain rfl := Option.some.inj member
      exact built.parsed.1
    · cases member
  have takes := L3LocationUpdatingAccept.takesAll_write canonical
  rwa [rereadIdentity_built built] at takes

end Built

/-- The entry of the parse tables for a message reads what is written for it. -/
theorem takesAll {msg : Response} (readable : msg.Readable)
    (other : ∀ fixed, msg ≠ .fixed fixed) :
    ∃ parser, parseBody msg.encoding.pd msg.encoding.mti (msg.encoding.ti % 2 ^ 3) = some parser ∧
      TakesAll parser (fields 0 msg.encoding.fields) (some msg.reread) := by
  cases msg with
  | fixed msg => exact absurd rfl (other msg)
  | immediateAssignment msg =>
      exact ⟨_, rfl, (L3ImmediateAssignment.takesAll_parse readable.2).yield immediateAssignment⟩
  | assignmentCommand msg =>
      exact ⟨_, rfl, (L3AssignmentCommand.takesAll_parse readable).yield assignmentCommand⟩
  | channelRelease msg =>
      exact ⟨_, rfl, (L3ChannelRelease.takesAll_parse readable).yield channelRelease⟩
  | physicalInformation msg =>
      exact ⟨_, rfl, (L3PhysicalInformation.takes_write readable 0).all.yield physicalInformation⟩
  | handoverCommand msg =>
      exact ⟨_, rfl, (L3HandoverCommand.takesAll_write readable).yield handoverCommand⟩
  | pagingRequestType1 msg =>
      obtain ⟨head, first, second, tail, canonical, one, others, lacks, rfl⟩ := readable
      exact ⟨_, rfl, (takesAll_type1 canonical one others lacks).yield pagingRequestType1⟩
  | pagingRequestType2 msg =>
      obtain ⟨head, tmsis, third, tail, canonical, others, lacks, rfl⟩ := readable
      exact ⟨_, rfl, (takesAll_type2 canonical others lacks).yield pagingRequestType2⟩
  | pagingRequestType3 msg =>
      exact ⟨_, rfl, (L3PagingRequestType3.takesAll_write readable).yield pagingRequestType3⟩
  | identityRequest msg =>
      exact ⟨_, rfl, (L3IdentityRequest.takes_write readable 0).all.yield identityRequest⟩
  | authenticationRequest msg =>
      exact ⟨_, rfl, (L3AuthenticationRequest.takesAll_write readable).yield authenticationRequest⟩
  | locationUpdatingAccept msg =>
      obtain ⟨area, built, default⟩ := readable
      exact ⟨_, rfl, (takesAll_accept area built default).yield locationUpdatingAccept⟩
  | locationUpdatingReject msg =>
      exact ⟨_, rfl, (CauseMessage.takes_write msg 0).all.yield locationUpdatingReject⟩
  | tmsiReallocationCommand msg =>
      exact ⟨_, rfl, (L3TMSIReallocationCommand.takes_write readable.1 readable.2).all.yield
        tmsiReallocationCommand⟩
  | callProceeding msg =>
      exact ⟨_, rfl, (msg.leads readable).takesAll.yield
        fun read => callProceeding { read with ti := msg.ti % 2 ^ 3 }⟩
  | alerting msg =>
      exact ⟨_, rfl, (msg.takesAll readable).yield
        fun read => alerting { read with ti := msg.ti % 2 ^ 3 }⟩
  | connect msg =>
      exact ⟨_, rfl, (msg.leads readable).takesAll.yield
        fun read => connect { read with ti := msg.ti % 2 ^ 3 }⟩
  | connectAcknowledge ti => exact ⟨_, rfl, (Takes.pure _).all⟩
  | disconnect msg =>
      exact ⟨_, rfl, msg.takesAll.yield
        fun read => disconnect { read with ti := msg.ti % 2 ^ 3 }⟩
  | release msg =>
      exact ⟨_, rfl, (ReleaseMessage.takesAll msg readable).yield
        fun read => release { read with ti := msg.ti % 2 ^ 3 }⟩
  | releaseComplete msg =>
      exact ⟨_, rfl, (ReleaseMessage.takesAll msg readable).yield
        fun read => releaseComplete { read with ti := msg.ti % 2 ^ 3 }⟩
  | setup msg =>
      exact ⟨_, rfl, (msg.leads readable).takesAll.yield
        fun read => setup { read with ti := msg.ti % 2 ^ 3 }⟩

/-- The body of a readable response fills the announced length. -/
theorem endPos_encoding {msg : Response} (readable : msg.Readable) :
    endPos 0 msg.encoding.fields = msg.encoding.bodyLength * 8 := by
  cases msg with
  | fixed msg => exact msg.writtenStandard.length
  | immediateAssignment msg => exact msg.endPos_write.mpr readable.1
  | assignmentCommand msg => exact msg.endPos_write
  | channelRelease msg => exact msg.endPos_write
  | physicalInformation msg => rfl
  | handoverCommand msg => exact msg.endPos_write
  | pagingRequestType1 msg => exact msg.endPos_write
  | pagingRequestType2 msg => exact msg.endPos_write
  | pagingRequestType3 msg => exact msg.endPos_write
  | identityRequest msg => rfl
  | authenticationRequest msg => exact msg.endPos_write
  | locationUpdatingAccept msg => exact msg.endPos_write
  | locationUpdatingReject msg => rfl
  | tmsiReallocationCommand msg => exact msg.endPos_write
  | callProceeding msg => exact msg.endPos_write
  | alerting msg => exact msg.endPos_write
  | connect msg => exact msg.endPos_write readable
  | connectAcknowledge ti => rfl
  | disconnect msg => rfl
  | release msg => exact ReleaseMessage.endPos_write msg
  | releaseComplete msg => exact ReleaseMessage.endPos_write msg
  | setup msg => exact msg.endPos_write readable

section NoCopy

variable {α : Type} {write : α → List Op} {found : Option α}

/-- An optional element copies no octets when the element does not. -/
theorem noCopy_writePresent (each : ∀ value, NoCopy (write value)) :
    NoCopy (writePresent write found) := by
  cases found with
  | none => exact noCopy_nil
  | some value => exact each value

theorem noCopy_writeTLV {iei : UInt8} {lengthV : α → Nat} (each : ∀ value, NoCopy (write value)) :
    NoCopy (writePresent (writeTLV iei lengthV write) found) := by
  apply noCopy_writePresent
  intro value
  simp [writeTLV, each]

theorem noCopy_writeTV {iei : UInt8} (each : ∀ value, NoCopy (write value)) :
    NoCopy (writePresent (writeTV iei write) found) := by
  apply noCopy_writePresent
  intro value
  simp [writeTV, each]

theorem noCopy_opaque (element : OpaqueElement) : NoCopy element.write :=
  noCopy_writeOctets element.data

theorem noCopy_bearer (capability : L3BearerCapability) : NoCopy capability.write := by
  simp [L3BearerCapability.write]

theorem noCopy_codecs (list : L3SupportedCodecList) : NoCopy list.write := by
  have bitmap (sysId : UInt32) (codecs : List UInt8) :
      NoCopy (L3SupportedCodecList.writeBitmap sysId codecs) := by
    rw [L3SupportedCodecList.writeBitmap]
    split
    · exact noCopy_nil
    · simp
  rw [L3SupportedCodecList.write, noCopy_append]
  exact ⟨bitmap _ _, bitmap _ _⟩

theorem noCopy_digits (digits : List Char) : NoCopy (L3BCDDigits.write digits) := by
  have pairs (digits : List Char) : NoCopy (L3BCDDigits.writePairs digits) := by
    induction digits using L3BCDDigits.writePairs.induct with
    | case1 => exact noCopy_nil
    | case2 digit => simp [L3BCDDigits.writePairs]
    | case3 digit next digits ih => simp [L3BCDDigits.writePairs, ih]
  exact pairs _

theorem noCopy_called (number : L3CalledPartyBCDNumber) : NoCopy number.write := by
  simp [L3CalledPartyBCDNumber.write, writeType, noCopy_digits]

theorem noCopy_calling (number : L3CallingPartyBCDNumber) : NoCopy number.write := by
  simp [L3CallingPartyBCDNumber.write, L3CallingPartyBCDNumber.writeIndicators, writeType,
    noCopy_digits]

theorem noCopy_subAddress (address : L3SubAddress) : NoCopy address.write := by
  rw [L3SubAddress.write, noCopy_cons]
  refine ⟨nofun, noCopy_flatMap fun item => ?_⟩
  simp [SubAddressItem.write]

theorem noCopy_common (facility : Option L3SupServFacilityIE)
    (ssVersion : Option L3SupServVersionIndicator) : NoCopy (ccCommonWrite facility ssVersion) := by
  rw [ccCommonWrite, noCopy_append]
  exact ⟨noCopy_writeTLV noCopy_opaque,
    noCopy_writeTLV fun _ => by simp [L3SupServVersionIndicator.write]⟩

theorem noCopy_progress (indicator : L3ProgressIndicator) : NoCopy indicator.writeTV := by
  simp [L3ProgressIndicator.writeTV]

theorem noCopy_stream (identifier : L3StreamIdentifier) : NoCopy identifier.write := by
  simp [L3StreamIdentifier.write]

theorem noCopy_callProceeding (msg : L3CallProceeding) : NoCopy msg.write := by
  simp only [L3CallProceeding.write, noCopy_append]
  exact ⟨noCopy_writeTLV noCopy_bearer, noCopy_writeTV noCopy_progress,
    noCopy_writeTV fun _ => by simp [L3Priority.write], noCopy_writeTLV noCopy_opaque, noCopy_nil⟩

theorem noCopy_connect (msg : L3Connect) : NoCopy msg.write := by
  simp only [L3Connect.write, noCopy_append]
  exact ⟨noCopy_writeTV noCopy_progress, noCopy_writeTLV noCopy_called,
    noCopy_writeTLV noCopy_subAddress, noCopy_writeTLV noCopy_opaque,
    noCopy_writeTLV noCopy_stream, noCopy_nil⟩

theorem noCopy_alerting (msg : L3Alerting) : NoCopy msg.write := by
  simp only [L3Alerting.write, noCopy_append]
  exact ⟨noCopy_writeTV noCopy_progress, noCopy_common _ _, noCopy_writeTLV noCopy_opaque,
    noCopy_nil⟩

theorem noCopy_release (msg : ReleaseMessage) : NoCopy msg.write := by
  simp only [ReleaseMessage.write, noCopy_append]
  refine ⟨noCopy_writeTLV fun cause => ?_, noCopy_common _ _, noCopy_nil⟩
  simp [ReleaseMessage.writeCause, L3CauseElement.write]

theorem noCopy_setup (msg : L3Setup) : NoCopy msg.write := by
  have single {β : Type} (iei : UInt8) (found : Option β) :
      NoCopy (writePresent (writeT iei) found) :=
    noCopy_writePresent fun _ => by simp [writeT]
  simp only [L3Setup.write, noCopy_append]
  exact ⟨noCopy_writeTLV noCopy_bearer, noCopy_writeTLV noCopy_calling,
    noCopy_writeTLV noCopy_called, noCopy_writeTLV noCopy_codecs,
    noCopy_writeTV fun _ => by simp [L3Signal.write], noCopy_writeTLV noCopy_subAddress,
    noCopy_writeTLV noCopy_opaque, noCopy_writeTLV noCopy_opaque, noCopy_writeTLV noCopy_opaque,
    single _ _, single _ _, noCopy_writeTLV noCopy_opaque, noCopy_writeTLV noCopy_stream,
    noCopy_writeTLV noCopy_opaque,
    noCopy_writeTLV fun _ => by simp [L3SupServVersionIndicator.write], noCopy_nil⟩

/-- The encoders of responses that are not of fixed length write fields only. -/
theorem noCopy_encoding {msg : Response} (other : ∀ fixed, msg ≠ .fixed fixed) :
    NoCopy msg.encoding.fields := by
  cases msg with
  | fixed msg => exact absurd rfl (other msg)
  | immediateAssignment msg => exact RRMessage.noCopy_write (.immediateAssignment msg)
  | assignmentCommand msg => exact RRMessage.noCopy_write (.assignmentCommand msg)
  | channelRelease msg => exact RRMessage.noCopy_write (.channelRelease msg)
  | physicalInformation msg =>
      simp [encoding, L3PhysicalInformation.write, L3TimingAdvance.write]
  | handoverCommand msg => exact RRMessage.noCopy_write (.handoverCommand msg)
  | pagingRequestType1 msg => exact RRMessage.noCopy_write (.pagingRequestType1 msg)
  | pagingRequestType2 msg => exact RRMessage.noCopy_write (.pagingRequestType2 msg)
  | pagingRequestType3 msg => exact RRMessage.noCopy_write (.pagingRequestType3 msg)
  | identityRequest msg => simp [encoding, L3IdentityRequest.write]
  | authenticationRequest msg => simp [encoding, L3AuthenticationRequest.write]
  | locationUpdatingAccept msg =>
      have identity := noCopy_cons.mp (noCopy_writeIdentity msg.mobileIdentity)
      simp [encoding, L3LocationUpdatingAccept.write, L3LocationAreaIdentity.write, writeTLVMI,
        identity.2]
  | locationUpdatingReject msg => simp [encoding, CauseMessage.write]
  | tmsiReallocationCommand msg =>
      simp [encoding, L3TMSIReallocationCommand.write, L3LocationAreaIdentity.write]
  | callProceeding msg => exact noCopy_callProceeding msg
  | alerting msg => exact noCopy_alerting msg
  | connect msg => exact noCopy_connect msg
  | connectAcknowledge ti => exact noCopy_nil
  | disconnect msg => simp [encoding, L3Disconnect.write, L3CauseElement.write]
  | release msg => exact noCopy_release msg
  | releaseComplete msg => exact noCopy_release msg
  | setup msg => exact noCopy_setup msg

end NoCopy

/-- A readable response is written in exactly the announced length. -/
theorem encoding_exact {msg : Response} (readable : msg.Readable) : msg.encoding.Exact := by
  by_cases isFixed : ∃ fixed, msg = .fixed fixed
  · obtain ⟨fixed, rfl⟩ := isFixed
    exact fixed.encoding_exact
  · have other (fixed : FixedMessage) : msg ≠ .fixed fixed := fun same => isFixed ⟨fixed, same⟩
    exact ⟨fun data member => absurd member (noCopy_encoding other data),
      endPos_encoding readable⟩

/-- The header of a readable response is one the parser looks behind. -/
theorem writtenStandard {msg : Response} (readable : msg.Readable) :
    Parser.WrittenStandard msg.encoding where
  header := by
    cases msg with
    | fixed msg => exact msg.writtenStandard.header
    | _ => exact of_decide_eq_true rfl
  length := endPos_encoding readable
  notFour two := by
    cases msg with
    | fixed msg => exact msg.writtenStandard.notFour two
    | _ => exact of_decide_eq_true rfl

/-- What `parseL3` returns for the octets of a response: the message that is read back. -/
theorem read_back {M : Type} (rest : L3Header → FieldParser M) (requireFullConsumption : Bool)
    {msg : Response} (readable : msg.Readable) :
    Parser.parseL3 (others rest) requireFullConsumption msg.encoding.octets =
      .ok msg.reread.parsed := by
  apply Parser.parseL3_written (writtenStandard readable)
  rw [Parser.parseStandardBody]
  by_cases isFixed : ∃ fixed, msg = .fixed fixed
  · obtain ⟨fixed, rfl⟩ := isFixed
    obtain ⟨parser, entry, takes⟩ := FixedMessage.takesAll_write readable
    have found : FixedMessage.parseBody (Parser.readHeader (encoding (.fixed fixed))).pd
        (Parser.readHeader (encoding (.fixed fixed))).mti
        (Parser.readHeader (encoding (.fixed fixed))).ti = some parser := entry
    rw [found]
    exact takes.yield ParsedMessage.fixed
  · have other (fixed : FixedMessage) : msg ≠ .fixed fixed := fun same => isFixed ⟨fixed, same⟩
    obtain ⟨parser, entry, takes⟩ := takesAll readable other
    have silent : FixedMessage.parseBody (Parser.readHeader msg.encoding).pd
        (Parser.readHeader msg.encoding).mti (Parser.readHeader msg.encoding).ti = none := by
      cases msg with
      | fixed fixed => exact absurd rfl (other fixed)
      | _ => rfl
    have found : parseBody (Parser.readHeader msg.encoding).pd (Parser.readHeader msg.encoding).mti
        (Parser.readHeader msg.encoding).ti = some parser := entry
    have same : msg.reread.parsed = ParsedMessage.other (Sum.inl msg.reread : Response ⊕ M) := by
      cases msg with
      | fixed fixed => exact absurd rfl (other fixed)
      | _ => rfl
    rw [silent, same, others, found]
    exact (takes.yield Sum.inl).yield ParsedMessage.other

end Response

end Gsml3
