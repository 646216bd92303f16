import Gsml3.Stack.ProcedureOrchestrator
import Gsml3.Foundation.Machine

/-!
# Calls of an orchestrator

Between two calls an orchestrator is idle, verifies an identity, runs one of three
procedures, or waits for the location register.
-/

namespace Gsml3

namespace Stack

/-! ## Reports of the procedures in a chain -/

/-- The answers to a location update. -/
def updatingTokens : List ResponseToken :=
  [.locationUpdatingAccept, .locationUpdatingReject]

/-- What a step of a procedure in a chain reports: it never answers the location update. -/
inductive Reports (type : ProcedureType) : ProcedureStepResult → Prop
  | continues : Reports type {}
  | respond (token : ResponseToken) (other : token ∉ updatingTokens) : Reports type (.respond token)
  | completes (reason : String) : Reports type (.finish .completed type .completed reason)
  | fails (reason : String) : Reports type (.finish .failed type .failed reason)

/-- The comparison of the answer reports as a procedure of a chain does. -/
theorem Authentication.verify_reports (own : Authentication) (msg : ParsedMessage) :
    Reports Authentication.type (own.verify msg).2 := by
  rw [Authentication.verify]
  simp only
  split
  · split
    · split
      · exact .completes _
      · exact .fails _
    · exact .fails _
  · exact .completes _

/-- A message to an authentication makes it report as a procedure of a chain does. -/
theorem Authentication.feed_reports (own : Authentication) (msg : ParsedMessage)
    (session : Option SessionCore) : Reports Authentication.type (own.feed msg session).result := by
  rw [Authentication.feed]
  cases own.base.currentState with
  | sendAuthReq => exact .respond _ (by decide)
  | waitResponse =>
      simp only
      split
      · exact verify_reports own msg
      · exact .continues
  | init | verifySres | completed | failed => exact .continues

/-- A challenge makes an authentication report as a procedure of a chain does. -/
theorem Authentication.feedExternalTyped_reports (own : Authentication) (data : ExternalData)
    (session : Option SessionCore) :
    Reports Authentication.type (own.feedExternalTyped data session).result := by
  cases data with
  | authChallenge chal =>
      rw [Authentication.feedExternalTyped]
      simp only
      split
      · exact .respond _ (by decide)
      · exact .continues
  | _ => exact .continues

/-- A message to a ciphering mode change makes it report as a procedure of a chain does. -/
theorem CipheringMode.feed_reports (own : CipheringMode) (msg : ParsedMessage)
    (session : Option SessionCore) : Reports CipheringMode.type (own.feed msg session).result := by
  rw [CipheringMode.feed]
  cases own.base.currentState with
  | sendCommand => exact .respond _ (by decide)
  | waitComplete =>
      simp only
      split
      · exact .completes _
      · exact .continues
  | init | completed | failed => exact .continues

/-- Parameters make a ciphering mode change report as a procedure of a chain does. -/
theorem CipheringMode.feedExternalTyped_reports (own : CipheringMode) (data : ExternalData)
    (session : Option SessionCore) :
    Reports CipheringMode.type (own.feedExternalTyped data session).result := by
  cases data with
  | cipheringParameters params =>
      rw [CipheringMode.feedExternalTyped]
      split
      · exact .respond _ (by decide)
      · exact .continues
  | _ => exact .continues

/-- The answer to a Setup reports as a procedure of a chain does. -/
theorem CallSetupMO.proceed_reports (own : CallSetupMO) (msg : ParsedMessage)
    (session : Option SessionCore) : Reports CallSetupMO.type (own.proceed msg session).result := by
  rw [CallSetupMO.proceed]
  split
  · exact .respond _ (by decide)
  · exact .respond _ (by decide)

/-- A message to a call setup makes it report as a procedure of a chain does. -/
theorem CallSetupMO.feed_reports (own : CallSetupMO) (msg : ParsedMessage)
    (session : Option SessionCore) : Reports CallSetupMO.type (own.feed msg session).result := by
  rw [CallSetupMO.feed]
  cases own.base.currentState with
  | init =>
      simp only
      split
      · exact .respond _ (by decide)
      · split
        · exact proceed_reports own msg session
        · exact .continues
  | waitSetup =>
      simp only
      split
      · exact proceed_reports own msg session
      · exact .continues
  | waitAssignComplete =>
      simp only
      split
      · exact .respond _ (by decide)
      · exact .continues
  | active =>
      simp only
      split
      · exact .completes _
      · exact .continues
  | proceeding | alerting | connect => exact .respond _ (by decide)
  | serviceAccept | assignTCH | completed | failed => exact .continues

namespace ProcedureOrchestrator

variable {own target : ProcedureOrchestrator} {phase : ChainPhase} {proc : Procedure}
  {session : Option SessionCore} {last : ResponseToken}

/-! ## Resting orchestrators -/

/-- The phases that run a procedure in a chain, with the class of their procedure. -/
inductive Fits : ChainPhase → Procedure → Prop
  | authentication (own : Authentication) : Fits .authentication (.authentication own)
  | cipheringMode (own : CipheringMode) : Fits .cipheringMode (.cipheringMode own)
  | callSetupMO (own : CallSetupMO) : Fits .callSetupMO (.callSetupMO own)

/-- The chain a phase belongs to. -/
def chainOf : ChainPhase → ProcedureType
  | .callSetupMO => .callSetupMO
  | _ => .locationUpdate

/-- No chain is active. -/
def idle (session : Option SessionCore) (last : ResponseToken) : ProcedureOrchestrator :=
  { session := session, lastToken := last }

/-- A procedure is at work. -/
def working (phase : ChainPhase) (proc : Procedure) (session : Option SessionCore)
    (last : ResponseToken) : ProcedureOrchestrator :=
  { currentPhase := phase
    currentProcedure := some proc
    session := session
    lastToken := last
    chainType := chainOf phase }

/-- The identity of the mobile is asked for. -/
def identifying (session : Option SessionCore) (last : ResponseToken) (remaining : Int)
    (retransmissions : Nat) (queued : ResponseToken) : ProcedureOrchestrator :=
  { currentPhase := .identityVerification
    session := session
    lastToken := last
    chainType := .locationUpdate
    phaseTimerPolicy := ⟨.T3102, 3000, maxIdentityRetransmissions, .identityRequest⟩
    phaseTimerRemaining := remaining
    phaseTimerRunning := true
    phaseRetransmissions := retransmissions
    retransmitToken := queued }

/-- The decision of the location register is awaited. -/
def locating (session : Option SessionCore) (last : ResponseToken) (remaining : Int) :
    ProcedureOrchestrator :=
  { currentPhase := .locationUpdate
    session := session
    lastToken := last
    chainType := .locationUpdate
    phaseTimerPolicy := ⟨.T3103, 5000, 0, .none⟩
    phaseTimerRemaining := remaining
    phaseTimerRunning := true }

/-- The orchestrators between two calls. -/
inductive Resting : ProcedureOrchestrator → Prop
  | idle (session : Option SessionCore) (last : ResponseToken) : Resting (idle session last)
  | working {phase : ChainPhase} {proc : Procedure} (fits : Fits phase proc)
      (session : Option SessionCore) (last : ResponseToken) :
      Resting (working phase proc session last)
  | identifying (session : Option SessionCore) (last : ResponseToken) (remaining : Int)
      (retransmissions : Nat) (queued : ResponseToken) :
      Resting (identifying session last remaining retransmissions queued)
  | locating (session : Option SessionCore) (last : ResponseToken) (remaining : Int) :
      Resting (locating session last remaining)

/-- A phase with a procedure is not the idle one. -/
theorem Fits.phase_ne_none (fits : Fits phase proc) : phase ≠ .none := by
  rintro rfl
  cases fits

/-- Exactly an idle orchestrator has no procedure, no timer and no chain. -/
theorem Resting.idle_iff (resting : Resting own) :
    own.currentPhase = .none ↔
      own.currentProcedure = none ∧ own.phaseTimerRunning = false ∧ own.chainType = .unknown := by
  cases resting with
  | idle session last => exact iff_of_true rfl ⟨rfl, rfl, rfl⟩
  | working fits session last => exact iff_of_false fits.phase_ne_none fun both => nomatch both.1
  | identifying session last remaining retransmissions queued =>
      exact iff_of_false nofun fun both => nomatch both.2.1
  | locating session last remaining => exact iff_of_false nofun fun both => nomatch both.2.1

/-- An orchestrator that rests without a phase is idle but for its session and token. -/
theorem Resting.eq_idle (resting : Resting own) (none_active : own.currentPhase = .none) :
    own = .idle own.session own.lastToken := by
  cases resting with
  | idle session last => rfl
  | working fits session last => exact absurd none_active fits.phase_ne_none
  | identifying session last remaining retransmissions queued => cases none_active
  | locating session last remaining => cases none_active

/-! ## Outcomes of calls -/

/-- The result ends a chain: a completed authentication or ciphering does not. -/
def Terminal (result : ProcedureStepResult) : Prop :=
  result.finalResult.state.isTerminal = true ∧
    ¬ (result.finalResult.state = .completed ∧
      result.finalResult.type ∈ [ProcedureType.authentication, .cipheringMode])

/-- After a call the orchestrator rests, keeps the token of its answer, and is idle when the
chain ended. -/
structure Outcome (chained : Chained) : Prop where
  resting : Resting chained.orchestrator
  answered : chained.result.action = .sendResponseWithToken →
    chained.orchestrator.lastToken = chained.result.responseToken
  ended : 0 < chained.failed ∨ Terminal chained.result → chained.orchestrator.currentPhase = .none

/-- A procedure stays one of its phase when it takes a message. -/
theorem Fits.feed (fits : Fits phase proc) (msg : ParsedMessage) (session : Option SessionCore) :
    Fits phase (proc.feed msg session).proc ∧
      Reports (proc.feed msg session).proc.type (proc.feed msg session).result := by
  cases fits with
  | authentication own => exact ⟨.authentication _, own.feed_reports msg session⟩
  | cipheringMode own => exact ⟨.cipheringMode _, own.feed_reports msg session⟩
  | callSetupMO own => exact ⟨.callSetupMO _, own.feed_reports msg session⟩

/-- A procedure stays one of its phase when it takes data. -/
theorem Fits.feedExternalTyped (fits : Fits phase proc) (data : ExternalData)
    (session : Option SessionCore) :
    Fits phase (proc.feedExternalTyped data session).proc ∧
      Reports (proc.feedExternalTyped data session).proc.type
        (proc.feedExternalTyped data session).result := by
  cases fits with
  | authentication own => exact ⟨.authentication _, own.feedExternalTyped_reports data session⟩
  | cipheringMode own => exact ⟨.cipheringMode _, own.feedExternalTyped_reports data session⟩
  | callSetupMO own => exact ⟨.callSetupMO own, .continues⟩

/-- A procedure stays one of its phase as time passes. -/
theorem Fits.tick (fits : Fits phase proc) (delta : Int) : Fits phase (proc.tick delta).1 := by
  cases fits with
  | authentication own => exact .authentication _
  | cipheringMode own => exact .cipheringMode _
  | callSetupMO own => exact .callSetupMO _

/-- The orchestrator after the procedure of a phase has completed. -/
def advanced (phase : ChainPhase) (session : Option SessionCore) (last : ResponseToken) :
    ProcedureOrchestrator :=
  match phase with
  | .authentication =>
      working .cipheringMode (.cipheringMode { cipherAlgo := 0 })
        (session.map fun s => { s with mmSM := .authenticated, rrSM := .cipherMode }) last
  | .cipheringMode =>
      locating (session.map fun s =>
        { s with rrSM := .active, context.ciphered := true, mmSM := .locationUpdate }) last 5000
  | _ => idle session last

/-- The chain rests after a phase was left for the next. -/
theorem advanced_resting (phase : ChainPhase) (session : Option SessionCore)
    (last : ResponseToken) : Resting (advanced phase session last) := by
  cases phase with
  | authentication => exact .working (.cipheringMode _) _ _
  | cipheringMode => exact .locating _ _ _
  | _ => exact .idle _ _

section Conclude

variable {next : Procedure} {kept : Option SessionCore}

/-- A procedure that goes on leaves the chain in its phase. -/
theorem conclude_continues :
    (working phase proc kept last).conclude ⟨next, session, {}⟩ =
      stay (working phase next session last, {}) := rfl

/-- A response is remembered as the last token. -/
theorem conclude_respond (token : ResponseToken) :
    (working phase proc kept last).conclude ⟨next, session, .respond token⟩ =
      stay (working phase next session token, .respond token) := rfl

/-- A completed procedure leads to the next phase, or ends the chain. -/
theorem conclude_completes (fits : Fits phase next) (type : ProcedureType) (reason : String) :
    (working phase proc kept last).conclude
        ⟨next, session, .finish .completed type .completed reason⟩ =
      stay (advanced phase session last, .finish .completed type .completed reason) := by
  cases fits with
  | authentication own => cases session <;> rfl
  | cipheringMode own => cases session <;> rfl
  | callSetupMO own => rfl

/-- A failed procedure ends the chain, with the parameters of the response cleared. -/
theorem conclude_fails (type : ProcedureType) (reason : String) :
    (working phase proc kept last).conclude ⟨next, session, .finish .failed type .failed reason⟩ =
      ⟨idle none .none, session.map fun s => s.expose fun _ => {},
        .finish .failed type .failed reason, 0⟩ := rfl

end Conclude

theorem conclude_outcome {fed : Fed Procedure} (fits : Fits phase fed.proc)
    (reports : Reports fed.proc.type fed.result) :
    Outcome ((working phase proc session last).conclude fed) := by
  obtain ⟨next, session', result⟩ := fed
  change Fits phase next at fits
  change Reports next.type result at reports
  cases reports with
  | continues =>
      rw [conclude_continues]
      exact ⟨.working fits _ _, nofun, fun ends => (ends.resolve_left nofun).elim nofun⟩
  | respond token other =>
      rw [conclude_respond]
      exact ⟨.working fits _ _, fun _ => rfl, fun ends => (ends.resolve_left nofun).elim nofun⟩
  | completes reason =>
      rw [conclude_completes fits]
      refine ⟨advanced_resting _ _ _, nofun, ?_⟩
      rintro (failed | ⟨-, ends⟩)
      · cases failed
      · cases fits with
        | authentication own => exact absurd ⟨rfl, .head _⟩ ends
        | cipheringMode own => exact absurd ⟨rfl, .tail _ (.head _)⟩ ends
        | callSetupMO own => rfl
  | fails reason =>
      rw [conclude_fails]
      exact ⟨.idle _ _, nofun, fun _ => rfl⟩

/-! ## Starting a chain -/

/-- The session at the first phase after the CM Service Request. -/
def started (phase : ChainPhase) (session : Option SessionCore) : Option SessionCore :=
  session.map fun s => enterPhase phase (enterPhase .cmServiceRequest (s.expose fun _ => {}))

/-- The subscriber is known by a temporary identity. -/
def KnownByTMSI (session : Option SessionCore) : Prop :=
  (session.any fun s => s.context.identity.type = .tmsi) = true

/-- The messages a chain starts on. -/
theorem detectChainPhase_cases (msg : ParsedMessage) :
    msg = .cmServiceRequest .mobileOriginatedCall ∨ msg = .cmServiceRequest .locationUpdateRequest ∨
      detectChainPhase msg = .imsiDetach ∨ detectChainPhase msg = .callRelease ∨
      detectChainPhase msg = .none := by
  rw [detectChainPhase]
  split
  case isTrue chain =>
      cases msg with
      | cmServiceRequest serviceType =>
          rcases chain.2 with update | call
          · exact .inr (.inl (congrArg _ (Option.some.inj update)))
          · exact .inl (congrArg _ (Option.some.inj call))
      | _ => exact chain.2.elim nofun nofun
  case isFalse =>
      split
      · exact .inr (.inr (.inl rfl))
      · split
        · exact .inr (.inr (.inr (.inl rfl)))
        · exact .inr (.inr (.inr (.inr rfl)))

theorem startChain_call : (idle session last).startChain (.cmServiceRequest .mobileOriginatedCall) =
    stay (working .callSetupMO (.callSetupMO {}) (started .callSetupMO session) .cmServiceAccept,
      .respond .cmServiceAccept) := by
  cases session <;> rfl

theorem startChain_known (known : KnownByTMSI session) :
    (idle session last).startChain (.cmServiceRequest .locationUpdateRequest) =
      stay (working .authentication (.authentication {}) (started .authentication session)
        .cmServiceAccept, .respond .cmServiceAccept) := by
  cases session with
  | none => cases known
  | some s =>
      change stay (transitionToPhase _ (afterServiceRequest _ _), _) = _
      have next : ∀ own : ProcedureOrchestrator, KnownByTMSI own.session →
          own.afterServiceRequest (.cmServiceRequest .locationUpdateRequest) = .authentication :=
        fun own tmsi => if_pos tmsi
      rw [next _ known]
      rfl

theorem startChain_unknown (unknown : ¬ KnownByTMSI session) :
    (idle session last).startChain (.cmServiceRequest .locationUpdateRequest) =
      stay (identifying (started .identityVerification session) .cmServiceAccept 0 0
        .identityRequest, .respond .cmServiceAccept) := by
  cases session with
  | none => rfl
  | some s =>
      change stay (transitionToPhase _ (afterServiceRequest _ _), _) = _
      have next : ∀ own : ProcedureOrchestrator, ¬ KnownByTMSI own.session →
          own.afterServiceRequest (.cmServiceRequest .locationUpdateRequest) =
            .identityVerification :=
        fun own tmsi => if_neg tmsi
      rw [next _ unknown]
      rfl

theorem startChain_outcome (msg : ParsedMessage) : Outcome ((idle session last).startChain msg) := by
  rcases detectChainPhase_cases msg with rfl | rfl | detach | release | other
  · rw [startChain_call]
    exact ⟨.working (.callSetupMO _) _ _, fun _ => rfl,
      fun ends => (ends.resolve_left nofun).elim nofun⟩
  · by_cases known : KnownByTMSI session
    · rw [startChain_known known]
      exact ⟨.working (.authentication _) _ _, fun _ => rfl,
        fun ends => (ends.resolve_left nofun).elim nofun⟩
    · rw [startChain_unknown known]
      exact ⟨.identifying _ _ _ _ _, fun _ => rfl,
        fun ends => (ends.resolve_left nofun).elim nofun⟩
  · rw [startChain, detach]
    exact ⟨.idle _ _, fun _ => rfl, fun _ => rfl⟩
  · rw [startChain, release]
    exact ⟨.idle _ _, fun _ => rfl, fun _ => rfl⟩
  · rw [startChain, other]
    exact ⟨.idle _ _, nofun, fun ends => (ends.resolve_left nofun).elim nofun⟩

/-! ## Each call -/

theorem handleIdentityVerification_response {msg : ParsedMessage}
    (response : msg.Is .mobilityManagement MTI.identityResponse) (remaining : Int)
    (retransmissions : Nat) (queued : ResponseToken) :
    (identifying session last remaining retransmissions queued).handleIdentityVerification msg =
      (working .authentication (.authentication {})
        (session.map fun s => { s with mmSM := .authentication }) last, {}) := by
  rw [handleIdentityVerification, if_pos response]
  cases session <;> rfl

theorem handleIdentityVerification_other {msg : ParsedMessage}
    (other : ¬ msg.Is .mobilityManagement MTI.identityResponse) (remaining : Int)
    (retransmissions : Nat) (queued : ResponseToken) :
    (identifying session last remaining retransmissions queued).handleIdentityVerification msg =
      (identifying session .identityRequest 3000 retransmissions queued,
        .respond .identityRequest) := by
  rw [handleIdentityVerification, if_neg other]
  rfl

theorem feed_outcome (resting : Resting own) (msg : ParsedMessage)
    (session : Option SessionCore) : Outcome (own.feed msg session) := by
  cases resting with
  | idle _ last => exact startChain_outcome msg
  | working fits _ last =>
      have fed := fits.feed msg session
      cases fits with
      | authentication own => exact conclude_outcome fed.1 fed.2
      | cipheringMode own => exact conclude_outcome fed.1 fed.2
      | callSetupMO own => exact conclude_outcome fed.1 fed.2
  | identifying _ last remaining retransmissions queued =>
      change Outcome (stay ((identifying session last remaining retransmissions
        queued).handleIdentityVerification msg))
      by_cases response : msg.Is .mobilityManagement MTI.identityResponse
      · rw [handleIdentityVerification_response response]
        exact ⟨.working (.authentication _) _ _, nofun,
          fun ends => (ends.resolve_left nofun).elim nofun⟩
      · rw [handleIdentityVerification_other response]
        exact ⟨.identifying _ _ _ _ _, fun _ => rfl,
          fun ends => (ends.resolve_left nofun).elim nofun⟩
  | locating _ last remaining =>
      exact ⟨.locating _ _ _, nofun, fun ends => (ends.resolve_left nofun).elim nofun⟩

/-- The session with the decision of the location register. -/
def decided (vlr : VLRDecision) (session : Option SessionCore) : Option SessionCore :=
  session.map fun s =>
    { s.expose fun r => { r with newTmsi := vlr.newTmsi, mmCause := vlr.rejectCause } with
      mmSM := if vlr.accept then .registered else .deregistered }

theorem locating_accept {vlr : VLRDecision} (accept : vlr.accept = true) (remaining : Int) :
    (locating session last remaining).feedExternalTyped (.vlrDecision vlr) =
      stay (idle (decided vlr session) .locationUpdatingAccept,
        .respondLast .locationUpdatingAccept .locationUpdate .completed "vlr_accept") := by
  change endIfTerminal (handleExternalDataLocationUpdate _ _) = _
  rw [handleExternalDataLocationUpdate]
  simp only [accept]
  cases session with
  | none => rfl
  | some s =>
      rw [decided]
      simp only [accept]
      rfl

theorem locating_reject {vlr : VLRDecision} (reject : vlr.accept = false) (remaining : Int) :
    (locating session last remaining).feedExternalTyped (.vlrDecision vlr) =
      stay (idle (decided vlr session) .locationUpdatingReject,
        .respondLast .locationUpdatingReject .locationUpdate .failed "vlr_reject") := by
  change endIfTerminal (handleExternalDataLocationUpdate _ _) = _
  rw [handleExternalDataLocationUpdate]
  simp only [reject]
  cases session with
  | none => rfl
  | some s =>
      rw [decided]
      simp only [reject]
      rfl

theorem feedExternalTyped_outcome (resting : Resting own) (data : ExternalData) :
    Outcome (own.feedExternalTyped data) := by
  cases resting with
  | idle session last => exact ⟨.idle _ _, nofun, fun ends => (ends.resolve_left nofun).elim nofun⟩
  | working fits session last =>
      have fed := fits.feedExternalTyped data session
      exact conclude_outcome fed.1 fed.2
  | identifying session last remaining retransmissions queued =>
      exact ⟨.identifying _ _ _ _ _, nofun, fun ends => (ends.resolve_left nofun).elim nofun⟩
  | locating session last remaining =>
      cases data with
      | vlrDecision vlr =>
          cases accept : vlr.accept with
          | true =>
              rw [locating_accept accept]
              exact ⟨.idle _ _, fun _ => rfl, fun _ => rfl⟩
          | false =>
              rw [locating_reject accept]
              exact ⟨.idle _ _, fun _ => rfl, fun _ => rfl⟩
      | _ => exact ⟨.locating _ _ _, nofun, fun ends => (ends.resolve_left nofun).elim nofun⟩

theorem tickAll_identifying (remaining : Int) (retransmissions : Nat) (queued : ResponseToken)
    (delta : Int) :
    (identifying session last remaining retransmissions queued).tickAll delta =
      if remaining - delta ≤ 0 then
        if retransmissions < maxIdentityRetransmissions then
          stay (identifying session last 3000 (retransmissions + 1) .identityRequest, {})
        else ⟨idle none .none, session.map fun s => s.expose fun _ => {}, {}, 1⟩
      else stay (identifying session last (remaining - delta) retransmissions queued, {}) := by
  have expired : (0 < maxIdentityRetransmissions ∧ retransmissions < maxIdentityRetransmissions) ↔
      retransmissions < maxIdentityRetransmissions :=
    and_iff_right (by decide)
  change tickProcedure (if remaining - delta ≤ 0 then if 0 < maxIdentityRetransmissions ∧
    retransmissions < maxIdentityRetransmissions then _ else _ else _) delta = _
  simp only [expired]
  split
  · split <;> rfl
  · rfl

theorem tickAll_locating (remaining : Int) (delta : Int) :
    (locating session last remaining).tickAll delta =
      if remaining - delta ≤ 0 then
        ⟨idle none .none, session.map fun s => s.expose fun _ => {}, {}, 1⟩
      else stay (locating session last (remaining - delta), {}) := by
  change tickProcedure (if remaining - delta ≤ 0 then if 0 < 0 ∧ 0 < 0 then _ else _ else _)
    delta = _
  split <;> rfl

theorem tickAll_working (delta : Int) :
    (working phase proc session last).tickAll delta =
      if (proc.tick delta).2.action = .failed then
        ⟨idle none .none, session.map fun s => s.expose fun _ => {}, {}, 1⟩
      else stay (working phase (proc.tick delta).1 session last, {}) := by
  change tickProcedure (stay (working phase proc session last, {})) delta = _
  rw [tickProcedure]
  simp only [stay, working]
  split <;> rfl

theorem not_terminal_continues : ¬ (0 < 0 ∨ Terminal {}) := by
  rintro (failed | ⟨terminal, -⟩)
  · cases failed
  · cases terminal

/-- A tick ends in one of the known ways. -/
theorem tickAll_outcome (resting : Resting own) (delta : Int) : Outcome (own.tickAll delta) := by
  cases resting with
  | idle session last => exact ⟨.idle _ _, nofun, fun ends => absurd ends not_terminal_continues⟩
  | working fits session last =>
      rw [tickAll_working]
      split
      · exact ⟨.idle _ _, nofun, fun _ => rfl⟩
      · exact ⟨.working (fits.tick delta) _ _, nofun,
          fun ends => absurd ends not_terminal_continues⟩
  | identifying session last remaining retransmissions queued =>
      rw [tickAll_identifying]
      split
      · split
        · exact ⟨.identifying _ _ _ _ _, nofun, fun ends => absurd ends not_terminal_continues⟩
        · exact ⟨.idle _ _, nofun, fun _ => rfl⟩
      · exact ⟨.identifying _ _ _ _ _, nofun, fun ends => absurd ends not_terminal_continues⟩
  | locating session last remaining =>
      rw [tickAll_locating]
      split
      · exact ⟨.idle _ _, nofun, fun _ => rfl⟩
      · exact ⟨.locating _ _ _, nofun, fun ends => absurd ends not_terminal_continues⟩

/-! ## Runs -/

inductive Op where
  | feed (msg : ParsedMessage) (session : Option SessionCore)
  | feedExternalTyped (data : ExternalData)
  | tickAll (delta : Int)
  | cancelAll
  | takeRetransmissionToken
deriving DecidableEq

structure Reply where
  result : ProcedureStepResult := {}
  session : Option SessionCore := none
  failed : Nat := 0
  token : ResponseToken := .none
deriving DecidableEq

/-- The chain after a call. -/
def perform (own : ProcedureOrchestrator) : Op → Chained
  | .feed msg session => own.feed msg session
  | .feedExternalTyped data => own.feedExternalTyped data
  | .tickAll delta => own.tickAll delta
  | .cancelAll => own.cancelAll
  | .takeRetransmissionToken => stay (own.takeRetransmissionToken.1, {})

/-- The token a call hands out. -/
def handedOut (own : ProcedureOrchestrator) : Op → ResponseToken
  | .takeRetransmissionToken => own.takeRetransmissionToken.2
  | _ => .none

def exec (own : ProcedureOrchestrator) (op : Op) : Option (ProcedureOrchestrator × Reply) :=
  some ((own.perform op).orchestrator,
    ⟨(own.perform op).result, (own.perform op).session, (own.perform op).failed,
      own.handedOut op⟩)

/-- The orchestrator as a machine. -/
def machine : Foundation.Machine ProcedureOrchestrator (Op × Reply) :=
  .ofCalls exec

/-- Every call ends in one of the known ways. -/
theorem perform_outcome (resting : Resting own) (op : Op) : Outcome (own.perform op) := by
  cases op with
  | feed msg session => exact feed_outcome resting msg session
  | feedExternalTyped data => exact feedExternalTyped_outcome resting data
  | tickAll delta => exact tickAll_outcome resting delta
  | cancelAll => exact ⟨.idle none .none, nofun, fun _ => rfl⟩
  | takeRetransmissionToken =>
      refine ⟨?_, nofun, fun ends => absurd ends not_terminal_continues⟩
      cases resting with
      | idle session last => exact .idle session last
      | working fits session last => exact .working fits session last
      | identifying session last remaining retransmissions queued =>
          exact .identifying session last remaining retransmissions .none
      | locating session last remaining => exact .locating session last remaining

/-- Between the calls of a run the chain rests. -/
theorem resting_of_run {events : List (Op × Reply)}
    (run : machine.Run (fun _ _ _ => True) {} events own) : Resting own := by
  refine run.invariant (fun _ state => Resting state) (.idle none .none) ?_
  intro _ source target event resting stepped _
  have call := Option.some.inj (Foundation.Machine.ofCalls_step.mp stepped)
  obtain rfl := (Prod.mk.inj call).1
  exact (perform_outcome resting event.1).resting

/-- An idle orchestrator starts a chain as a new one does, with cleared response parameters. -/
theorem idle_feed_fresh {msg : ParsedMessage} (starts : detectChainPhase msg ≠ .none)
    (kept session : Option SessionCore) (last : ResponseToken) :
    (idle kept last).feed msg session =
      ({} : ProcedureOrchestrator).feed msg (session.map fun s => s.expose fun _ => {}) := by
  obtain ⟨cleared, cleared_eq⟩ : ∃ cleared : Option SessionCore,
      cleared = session.map fun s => s.expose fun _ => {} := ⟨_, rfl⟩
  have cleared_started (phase : ChainPhase) : started phase cleared = started phase session := by
    rw [cleared_eq]
    cases session <;> rfl
  have cleared_known : KnownByTMSI cleared ↔ KnownByTMSI session := by
    rw [cleared_eq]
    cases session <;> rfl
  rw [← cleared_eq]
  change (idle session last).startChain msg = (idle cleared .none).startChain msg
  rcases detectChainPhase_cases msg with rfl | rfl | detach | release | other
  · rw [startChain_call, startChain_call, cleared_started]
  · by_cases known : KnownByTMSI session
    · rw [startChain_known known, startChain_known (cleared_known.mpr known), cleared_started]
    · rw [startChain_unknown known, startChain_unknown fun h => known (cleared_known.mp h),
        cleared_started]
  · rw [startChain, startChain, detach, cleared_eq]
    cases session <;> rfl
  · rw [startChain, startChain, release, cleared_eq]
    cases session <;> rfl
  · exact absurd other starts

/-- The orchestrator is idle exactly without procedure, timer and chain; the end of a chain
leaves it idle, every answer is kept as the last token, and a new chain starts as on a new
orchestrator. -/
theorem chains_coherent {events : List (Op × Reply)}
    (run : machine.Run (fun _ _ _ => True) {} events own) :
    (own.currentPhase = .none ↔
        own.currentProcedure = none ∧ own.phaseTimerRunning = false ∧ own.chainType = .unknown) ∧
      (∀ (op : Op) (target : ProcedureOrchestrator) (reply : Reply),
        exec own op = some (target, reply) →
          (op = .cancelAll ∨ 0 < reply.failed ∨ Terminal reply.result →
            target.currentPhase = .none) ∧
          (reply.result.action = .sendResponseWithToken →
            target.lastToken = reply.result.responseToken)) ∧
      (own.currentPhase = .none →
        ∀ (msg : ParsedMessage) (session : Option SessionCore), detectChainPhase msg ≠ .none →
          own.feed msg session =
            ({} : ProcedureOrchestrator).feed msg (session.map fun s => s.expose fun _ => {})) := by
  have resting := resting_of_run run
  refine ⟨resting.idle_iff, ?_, ?_⟩
  · intro op target reply call
    obtain ⟨rfl, rfl⟩ := Prod.mk.inj (Option.some.inj call)
    have outcome := perform_outcome resting op
    refine ⟨?_, outcome.answered⟩
    rintro (rfl | ends)
    · rfl
    · exact outcome.ended ends
  · intro none_active msg session starts
    rw [resting.eq_idle none_active]
    exact idle_feed_fresh starts _ session _

/-- A location update that asks for the identity of the mobile. -/
theorem chains_coherent_identifying :
    ∃ own, machine.exec (fun _ _ _ => True) {}
        [(.feed (.cmServiceRequest .locationUpdateRequest) none,
          { result := .respond .cmServiceAccept })] = some own ∧
      own.currentPhase = .identityVerification ∧
      (own.currentPhase = .none ↔
        own.currentProcedure = none ∧ own.phaseTimerRunning = false ∧ own.chainType = .unknown) := by
  obtain ⟨own, executed⟩ := Option.isSome_iff_exists.mp (show (machine.exec (fun _ _ _ => True) {}
    [(.feed (.cmServiceRequest .locationUpdateRequest) none,
      { result := .respond .cmServiceAccept })]).isSome by decide)
  have phase : ∀ own ∈ machine.exec (fun _ _ _ => True) {}
      [(.feed (.cmServiceRequest .locationUpdateRequest) none,
        { result := .respond .cmServiceAccept })],
      own.currentPhase = .identityVerification := by
    decide
  exact ⟨own, executed, phase own executed, (chains_coherent (.exec _ .origin executed)).1⟩

end ProcedureOrchestrator

end Stack

end Gsml3
