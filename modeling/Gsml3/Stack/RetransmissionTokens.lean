import Gsml3.Stack.OrchestratorCalls
import Gsml3.Stack.ResponseBuilder

/-!
# Retransmission tokens

The token an orchestrator queues for retransmission is that of the Identity Request, while
the pending response is the one of the last answer to a message.
-/

namespace Gsml3

namespace Stack

namespace ProcedureOrchestrator

variable {own : ProcedureOrchestrator} {phase : ChainPhase} {proc : Procedure}
  {session : Option SessionCore} {last : ResponseToken}

/-- Replay a call; the phase is the one that the last message was fed in. -/
def replay (past : ProcedureOrchestrator × ChainPhase) (event : Op × Reply) :
    ProcedureOrchestrator × ChainPhase :=
  ((past.1.perform event.1).orchestrator,
    match event.1 with
    | .feed _ _ => past.1.currentPhase
    | _ => past.2)

/-- The phase of the chain that the last message of a run was fed in. -/
def lastFedPhase (events : List (Op × Reply)) : ChainPhase :=
  (events.foldl replay ({}, .none)).2

/-- The tokens of an orchestrator that verifies an identity tell whether it was fed since. -/
structure TokensAgree (fedIn : ChainPhase) (own : ProcedureOrchestrator) : Prop where
  queued : own.retransmitToken = .none ∨ own.retransmitToken = .identityRequest
  answered : fedIn = .none ∧ own.lastToken = .cmServiceAccept ∨
    fedIn = .identityVerification ∧ own.lastToken = .identityRequest

theorem conclude_phase {fed : Fed Procedure} (fits : Fits phase fed.proc)
    (reports : Reports fed.proc.type fed.result) :
    ((working phase proc session last).conclude fed).orchestrator.currentPhase ≠
      .identityVerification := by
  obtain ⟨next, session', result⟩ := fed
  change Fits phase next at fits
  change Reports next.type result at reports
  have apart : phase ≠ .identityVerification := by
    rintro rfl
    cases fits
  cases reports with
  | continues => exact apart
  | respond token other => exact apart
  | completes reason =>
      rw [conclude_completes fits]
      cases fits with
      | authentication own => nofun
      | cipheringMode own => nofun
      | callSetupMO own => nofun
  | fails reason => nofun

theorem startChain_tokens {msg : ParsedMessage}
    (verifies : ((idle session last).startChain msg).orchestrator.currentPhase =
      .identityVerification) :
    TokensAgree .none ((idle session last).startChain msg).orchestrator := by
  rcases detectChainPhase_cases msg with rfl | rfl | detach | release | other
  · rw [startChain_call] at verifies
    cases verifies
  · by_cases known : KnownByTMSI session
    · rw [startChain_known known] at verifies
      cases verifies
    · rw [startChain_unknown known]
      exact ⟨.inr rfl, .inl ⟨rfl, rfl⟩⟩
  · rw [startChain, detach] at verifies
    cases verifies
  · rw [startChain, release] at verifies
    cases verifies
  · rw [startChain, other] at verifies
    cases verifies

theorem feed_tokens (resting : Resting own) (msg : ParsedMessage) (session : Option SessionCore)
    (verifies : (own.feed msg session).orchestrator.currentPhase = .identityVerification)
    (agree : own.currentPhase = .identityVerification →
      own.retransmitToken = .none ∨ own.retransmitToken = .identityRequest) :
    TokensAgree own.currentPhase (own.feed msg session).orchestrator := by
  cases resting with
  | idle kept last => exact startChain_tokens verifies
  | working fits kept last =>
      have fed := fits.feed msg session
      cases fits with
      | authentication own => exact absurd verifies (conclude_phase fed.1 fed.2)
      | cipheringMode own => exact absurd verifies (conclude_phase fed.1 fed.2)
      | callSetupMO own => exact absurd verifies (conclude_phase fed.1 fed.2)
  | identifying kept last remaining retransmissions queued =>
      change (stay ((identifying session last remaining retransmissions
        queued).handleIdentityVerification msg)).orchestrator.currentPhase = _ at verifies
      change TokensAgree .identityVerification (stay ((identifying session last remaining
        retransmissions queued).handleIdentityVerification msg)).orchestrator
      by_cases response : msg.Is .mobilityManagement MTI.identityResponse
      · rw [handleIdentityVerification_response response] at verifies
        cases verifies
      · rw [handleIdentityVerification_other response]
        exact ⟨agree rfl, .inr ⟨rfl, rfl⟩⟩
  | locating kept last remaining => cases verifies

theorem feedExternalTyped_tokens {fedIn : ChainPhase} (resting : Resting own)
    (data : ExternalData)
    (verifies : (own.feedExternalTyped data).orchestrator.currentPhase = .identityVerification)
    (agree : own.currentPhase = .identityVerification → TokensAgree fedIn own) :
    TokensAgree fedIn (own.feedExternalTyped data).orchestrator := by
  cases resting with
  | idle session last => cases verifies
  | working fits session last =>
      have fed := fits.feedExternalTyped data session
      exact absurd verifies (conclude_phase fed.1 fed.2)
  | identifying session last remaining retransmissions queued => exact agree rfl
  | locating session last remaining =>
      cases data with
      | vlrDecision vlr =>
          cases accept : vlr.accept with
          | true =>
              rw [locating_accept accept] at verifies
              cases verifies
          | false =>
              rw [locating_reject accept] at verifies
              cases verifies
      | _ => cases verifies

theorem tickAll_tokens {fedIn : ChainPhase} (resting : Resting own) (delta : Int)
    (verifies : (own.tickAll delta).orchestrator.currentPhase = .identityVerification)
    (agree : own.currentPhase = .identityVerification → TokensAgree fedIn own) :
    TokensAgree fedIn (own.tickAll delta).orchestrator := by
  cases resting with
  | idle session last => cases verifies
  | working fits session last =>
      rw [tickAll_working] at verifies
      split at verifies
      · cases verifies
      · cases verifies
        cases fits
  | identifying session last remaining retransmissions queued =>
      rw [tickAll_identifying] at verifies ⊢
      split at verifies
      case isTrue expired =>
        rw [if_pos expired]
        split at verifies
        case isTrue left =>
          rw [if_pos left]
          exact ⟨.inr rfl, (agree rfl).answered⟩
        case isFalse => cases verifies
      case isFalse running =>
        rw [if_neg running]
        exact ⟨(agree rfl).queued, (agree rfl).answered⟩
  | locating session last remaining =>
      rw [tickAll_locating] at verifies
      split at verifies
      · cases verifies
      · cases verifies

/-- The tokens agree with the phase of the last message after every run. -/
theorem tokens_of_run {events : List (Op × Reply)}
    (run : machine.Run (fun _ _ _ => True) {} events own) :
    events.foldl replay ({}, .none) = (own, lastFedPhase events) ∧
      (own.currentPhase = .identityVerification → TokensAgree (lastFedPhase events) own) := by
  have holds := run.invariant (fun past state => Resting state ∧
    past.foldl replay ({}, .none) = (state, lastFedPhase past) ∧
    (state.currentPhase = .identityVerification → TokensAgree (lastFedPhase past) state))
    ⟨.idle none .none, rfl, nofun⟩ ?_
  · exact holds.2
  · rintro past source target ⟨op, reply⟩ ⟨resting, replayed, agree⟩ stepped -
    obtain ⟨rfl, -⟩ := Prod.mk.inj (Option.some.inj (Foundation.Machine.ofCalls_step.mp stepped))
    have extended : (past ++ [(op, reply)]).foldl replay ({}, .none) =
        replay (source, lastFedPhase past) (op, reply) := by
      rw [List.foldl_append, replayed]
      rfl
    have fed_phase : lastFedPhase (past ++ [(op, reply)]) =
        (replay (source, lastFedPhase past) (op, reply)).2 := by
      rw [lastFedPhase, extended]
    refine ⟨(perform_outcome resting op).resting, by rw [extended, fed_phase]; rfl, ?_⟩
    intro verifies
    rw [fed_phase]
    cases op with
    | feed msg session =>
        exact feed_tokens resting msg session verifies fun phase => (agree phase).queued
    | feedExternalTyped data => exact feedExternalTyped_tokens resting data verifies agree
    | tickAll delta => exact tickAll_tokens resting delta verifies agree
    | cancelAll => cases verifies
    | takeRetransmissionToken => exact ⟨.inl rfl, (agree verifies).answered⟩

/-- A token is queued only while an identity is verified. -/
theorem Resting.queued_phase (resting : Resting own) (queued : own.retransmitToken ≠ .none) :
    own.currentPhase = .identityVerification := by
  cases resting with
  | idle session last => exact absurd rfl queued
  | working fits session last => exact absurd rfl queued
  | identifying session last remaining retransmissions token => rfl
  | locating session last remaining => exact absurd rfl queued

/-! ## The response builder -/

/-- What the response builder writes into a buffer; a failure is `none`. -/
def builtInto (out : List UInt8) (token : ResponseToken) (session : Option SessionCore) :
    Option (List UInt8) :=
  let (buf, n) := ResponseBuilder.buildResponseFromToken token out session
  if n < 0 then none else some (buf.take n.toNat)

section BuiltInto

variable {out : List UInt8} (core : SessionCore)

/-- A response that is written has its octets. -/
theorem written_octets {msg : Response} (readable : msg.Readable)
    (room : msg.encoding.octets.length ≤ out.length) :
    (if (ResponseBuilder.writeL3 msg out).2 < 0 then none
      else some ((ResponseBuilder.writeL3 msg out).1.take
        (ResponseBuilder.writeL3 msg out).2.toNat)) = some msg.encoding.octets := by
  have positive : ¬ (msg.encoding.octets.length : Int) < 0 :=
    Int.not_lt.mpr (Int.natCast_nonneg _)
  rw [ResponseBuilder.writeL3_eq readable, if_pos room, if_neg positive, Int.toNat_natCast,
    List.take_left]

theorem builtInto_cmServiceAccept (room : 2 ≤ out.length) :
    builtInto out .cmServiceAccept (some core) = some [0x05, 0x21] :=
  @written_octets out ResponseBuilder.buildCMServiceAccept trivial room

theorem builtInto_identityRequest (room : 3 ≤ out.length) :
    builtInto out .identityRequest (some core) = some [0x05, 0x18, 0x01] :=
  @written_octets out (ResponseBuilder.buildIdentityRequest 1)
    (show 1 < 2 ^ 4 by decide) room

/-- A buffer that holds both messages tells them apart. -/
theorem builtInto_distinct (room : 3 ≤ out.length) :
    builtInto out .cmServiceAccept (some core) ≠ builtInto out .identityRequest (some core) := by
  rw [builtInto_cmServiceAccept core (le_of_lt room), builtInto_identityRequest core room]
  decide

end BuiltInto

/-- A response that is built after a token was taken is the one of that token exactly when the
last message was fed to a chain that verified the identity already. -/
theorem retransmission_built_iff {Message : Type} {events : List (Op × Reply)}
    (run : machine.Run (fun _ _ _ => True) {} events own)
    (build : ResponseToken → Option SessionCore → Option Message) (session : Option SessionCore)
    (distinct : build .cmServiceAccept session ≠ build .identityRequest session)
    (taken : own.takeRetransmissionToken.2 ≠ .none) :
    own.takeRetransmissionToken.1.buildPendingResponse build session =
        build own.takeRetransmissionToken.2 session ↔
      lastFedPhase events = .identityVerification := by
  have agree := (tokens_of_run run).2 ((resting_of_run run).queued_phase taken)
  have queued : own.takeRetransmissionToken.2 = .identityRequest := agree.queued.resolve_left taken
  have pending : own.takeRetransmissionToken.1.buildPendingResponse build session =
      if own.lastToken = .none then none else build own.lastToken session := rfl
  rw [queued, pending]
  rcases agree.answered with ⟨fedIn, answered⟩ | ⟨fedIn, answered⟩
  · rw [answered, fedIn]
    exact iff_of_false distinct nofun
  · rw [answered, fedIn]
    exact iff_of_true rfl rfl

/-- A location update of an unknown subscriber. -/
private def unknownUpdate : List (Op × Reply) :=
  [(.feed (.cmServiceRequest .locationUpdateRequest) none, { result := .respond .cmServiceAccept })]

/-- When another message was fed before the request is repeated, the request is built, for any
session and in any buffer that holds it. -/
theorem retransmission_built_fed :
    ∃ own, machine.exec (fun _ _ _ => True) {} (unknownUpdate ++
        [(.feed (.channelRequest 7) none, { result := .respond .identityRequest })]) = some own ∧
      ∀ (out : List UInt8) (core : SessionCore), 3 ≤ out.length →
        own.takeRetransmissionToken.1.buildPendingResponse (builtInto out) (some core) =
          some [0x05, 0x18, 0x01] := by
  obtain ⟨own, executed⟩ := Option.isSome_iff_exists.mp (show (machine.exec (fun _ _ _ => True) {}
    (unknownUpdate ++ [(.feed (.channelRequest 7) none,
      { result := .respond .identityRequest })])).isSome by decide)
  have token : ∀ own ∈ machine.exec (fun _ _ _ => True) {} (unknownUpdate ++
      [(.feed (.channelRequest 7) none, { result := .respond .identityRequest })]),
      own.takeRetransmissionToken.2 = .identityRequest := by
    decide
  have taken := token own executed
  refine ⟨own, executed, fun out core room => ?_⟩
  have built := (retransmission_built_iff (.exec _ .origin executed) (builtInto out) (some core)
    (builtInto_distinct core room) (by rw [taken]; nofun)).mpr (by decide)
  rw [built, taken]
  exact builtInto_identityRequest core room

/-- The token of the first Identity Request builds a CM Service Accept. -/
theorem retransmission_builds_accept :
    ∃ own, machine.exec (fun _ _ _ => True) {} unknownUpdate = some own ∧
      own.takeRetransmissionToken.2 = .identityRequest ∧
        own.takeRetransmissionToken.1.buildPendingResponse (builtInto [0, 0, 0]) (some {}) =
          some [0x05, 0x21] := by
  have tokens : ∀ own ∈ machine.exec (fun _ _ _ => True) {} unknownUpdate,
      own.takeRetransmissionToken.2 = .identityRequest ∧
        own.takeRetransmissionToken.1.lastToken = .cmServiceAccept := by
    decide
  obtain ⟨own, executed⟩ := Option.isSome_iff_exists.mp
    (show (machine.exec (fun _ _ _ => True) {} unknownUpdate).isSome by decide)
  obtain ⟨taken, last⟩ := tokens own executed
  refine ⟨own, executed, taken, ?_⟩
  rw [buildPendingResponse, last]
  exact @builtInto_cmServiceAccept [0, 0, 0] {} (by decide)

end ProcedureOrchestrator

end Stack

end Gsml3
