import Gsml3.Stack.OrchestratorCalls
import Gsml3.Foundation.History

/-!
# Authorisation of location updates

A location update is accepted only after authentication against the latest challenge,
ciphering and the decision of the location register, in this order and within one chain.
-/

namespace Gsml3

namespace Stack

namespace ProcedureOrchestrator

open Foundation.History

variable {own : ProcedureOrchestrator} {session : Option SessionCore} {last : ResponseToken}
  {past : List (Op × Reply)}

/-! ## What happened in a chain -/

/-- The challenge an event delivers. -/
def challenge? (event : Op × Reply) : Option AuthChallenge :=
  match event.1 with
  | .feedExternalTyped (.authChallenge chal) => some chal
  | _ => none

/-- The mobile has answered the latest challenge as expected. -/
def Authenticated (past : List (Op × Reply)) : Prop :=
  Happened (fun before event => ∃ (sres : UInt32) (session : Option SessionCore)
    (chal : AuthChallenge), event.1 = .feed (.authenticationResponse sres) session ∧
      latest challenge? before = some chal ∧ sres = sresValue chal.expectedSres) past

/-- After that, ciphering parameters were delivered. -/
def CipheringStarted (past : List (Op × Reply)) : Prop :=
  Happened (fun before event => Authenticated before ∧
    ∃ params, event.1 = .feedExternalTyped (.cipheringParameters params)) past

/-- After that, the mobile has completed ciphering. -/
def Ciphered (past : List (Op × Reply)) : Prop :=
  Happened (fun before event => CipheringStarted before ∧
    ∃ (msg : ParsedMessage) (session : Option SessionCore), event.1 = .feed msg session ∧
      msg.Is .radioResource MTI.cipheringModeComplete) past

/-- What has happened in a chain when it is in its phase. -/
inductive Evidence (past : List (Op × Reply)) : ProcedureOrchestrator → Prop
  | calling (own : CallSetupMO) (session : Option SessionCore) (last : ResponseToken) :
      Evidence past (working .callSetupMO (.callSetupMO own) session last)
  | identifying (session : Option SessionCore) (last : ResponseToken) (remaining : Int)
      (retransmissions : Nat) (queued : ResponseToken) :
      Evidence past (identifying session last remaining retransmissions queued)
  | authenticating (own : Authentication)
      (expects : own.base.currentState = .init ∨ own.hasExpectedSRES = true ∧
        ∃ chal, latest challenge? past = some chal ∧ own.expectedSRES = chal.expectedSres)
      (session : Option SessionCore) (last : ResponseToken) :
      Evidence past (working .authentication (.authentication own) session last)
  | ciphering (own : CipheringMode) (authenticated : Authenticated past)
      (started : own.base.currentState = .init ∨ CipheringStarted past)
      (session : Option SessionCore) (last : ResponseToken) :
      Evidence past (working .cipheringMode (.cipheringMode own) session last)
  | locating (ciphered : Ciphered past) (session : Option SessionCore) (last : ResponseToken)
      (remaining : Int) : Evidence past (locating session last remaining)

/-! ## Steps -/

/-- A checked response ends the authentication, successfully only with the expected one. -/
theorem verify_cases {own : Authentication} (expects : own.hasExpectedSRES = true)
    (msg : ParsedMessage) :
    (∃ sres, msg = .authenticationResponse sres ∧ sres = sresValue own.expectedSRES ∧
        (own.verify msg).2 = .finish .completed Authentication.type .completed "auth_success") ∨
      ∃ reason, (own.verify msg).2 = .finish .failed Authentication.type .failed reason := by
  rw [Authentication.verify]
  simp only [expects, if_true]
  split
  case h_1 sres typed =>
      have response : msg = .authenticationResponse sres := by
        cases msg with
        | authenticationResponse _ => exact congrArg _ (Option.some.inj typed)
        | _ => cases typed
      split
      case isTrue same => exact .inl ⟨sres, response, same, rfl⟩
      case isFalse => exact .inr ⟨_, rfl⟩
  case h_2 => exact .inr ⟨_, rfl⟩

theorem feed_authenticating {own : Authentication}
    (expects : own.base.currentState = .init ∨ own.hasExpectedSRES = true ∧
      ∃ chal, latest challenge? past = some chal ∧ own.expectedSRES = chal.expectedSres)
    (kept session : Option SessionCore) (last : ResponseToken) (msg : ParsedMessage) (reply : Reply)
    (active : ((working .authentication (.authentication own) kept last).feed msg
      session).orchestrator.currentPhase ≠ .none) :
    Evidence (past ++ [(.feed msg session, reply)])
      ((working .authentication (.authentication own) kept last).feed msg session).orchestrator := by
  have latest_kept : latest challenge? (past ++ [(Op.feed msg session, reply)]) =
      latest challenge? past := latest_snoc_none rfl
  have idles : (own.feed msg session) = ⟨own, session, {}⟩ →
      Evidence (past ++ [(.feed msg session, reply)])
        ((working .authentication (.authentication own) kept last).feed msg session).orchestrator := by
    intro fed
    change Evidence _ ((working _ _ session last).conclude
      ((own.feed msg session).map .authentication)).orchestrator
    rw [fed]
    exact .authenticating _ (by rw [latest_kept]; exact expects) session last
  cases state : own.base.currentState with
  | init | verifySres | completed | failed =>
      exact idles (by rw [Authentication.feed, state])
  | sendAuthReq =>
      have fed : own.feed msg session =
          ⟨{ own with base := (own.base.startTimer .T3106 3000).transitionTo .waitResponse },
            session, .respond .authenticationRequest⟩ := by
        rw [Authentication.feed, state]
      change Evidence _ ((working _ _ session last).conclude
        ((own.feed msg session).map .authentication)).orchestrator
      rw [fed]
      have challenged := expects.resolve_left (by rw [state]; simp)
      exact .authenticating _ (.inr (by rw [latest_kept]; exact challenged)) session _
  | waitResponse =>
      by_cases response : msg.Is .mobilityManagement MTI.authenticationResponse
      case neg => exact idles (by rw [Authentication.feed, state]; exact if_neg response)
      case pos =>
        have fed : own.feed msg session = ⟨(own.verify msg).1, session, (own.verify msg).2⟩ := by
          rw [Authentication.feed, state]
          exact if_pos response
        obtain ⟨expected, chal, delivered, same⟩ := expects.resolve_left (by rw [state]; simp)
        change ((working _ _ session last).conclude
          ((own.feed msg session).map .authentication)).orchestrator.currentPhase ≠ _ at active
        change Evidence _ ((working _ _ session last).conclude
          ((own.feed msg session).map .authentication)).orchestrator
        rw [fed] at active ⊢
        rcases verify_cases expected msg with ⟨sres, rfl, matched, verified⟩ | ⟨reason, failed⟩
        · rw [verified]
          refine .ciphering _ (happened_now ⟨sres, session, chal, rfl, delivered, ?_⟩) (.inl rfl) _ _
          rw [matched, same]
        · rw [failed] at active
          exact absurd rfl active

theorem feed_ciphering {own : CipheringMode} (authenticated : Authenticated past)
    (started : own.base.currentState = .init ∨ CipheringStarted past)
    (kept session : Option SessionCore) (last : ResponseToken) (msg : ParsedMessage)
    (reply : Reply) :
    Evidence (past ++ [(.feed msg session, reply)])
      ((working .cipheringMode (.cipheringMode own) kept last).feed msg session).orchestrator := by
  change Evidence _ ((working _ _ session last).conclude
    ((own.feed msg session).map .cipheringMode)).orchestrator
  have idles : (own.feed msg session) = ⟨own, session, {}⟩ →
      Evidence (past ++ [(.feed msg session, reply)]) ((working .cipheringMode
        (.cipheringMode own) session last).conclude
          ((own.feed msg session).map .cipheringMode)).orchestrator := by
    intro fed
    rw [fed]
    exact .ciphering _ (authenticated.snoc _) (started.imp id fun h => h.snoc _) session last
  cases state : own.base.currentState with
  | init | completed | failed => exact idles (by rw [CipheringMode.feed, state])
  | sendCommand =>
      have fed : own.feed msg session =
          ⟨{ own with base := (own.base.startTimer .T3101 3000).transitionTo .waitComplete },
            session, .respond .cipheringModeCommand⟩ := by
        rw [CipheringMode.feed, state]
      rw [fed]
      have asked := started.resolve_left (by rw [state]; simp)
      exact .ciphering _ (authenticated.snoc _) (.inr (asked.snoc _)) session _
  | waitComplete =>
      by_cases completes : msg.Is .radioResource MTI.cipheringModeComplete
      case neg => exact idles (by rw [CipheringMode.feed, state]; exact if_neg completes)
      case pos =>
        have fed : own.feed msg session = ⟨{ own with base := own.base.complete }, session,
            .finish .completed CipheringMode.type .completed "ciphering_activated"⟩ := by
          rw [CipheringMode.feed, state]
          exact if_pos completes
        rw [fed]
        have asked := started.resolve_left (by rw [state]; simp)
        exact .locating (happened_now ⟨asked, msg, session, rfl, completes⟩) _ _ _

theorem conclude_calling {own : CallSetupMO} {fed : Fed CallSetupMO}
    (reports : Reports CallSetupMO.type fed.result)
    (active : ((working .callSetupMO (.callSetupMO own) session last).conclude
      (fed.map .callSetupMO)).orchestrator.currentPhase ≠ .none) (past : List (Op × Reply)) :
    Evidence past ((working .callSetupMO (.callSetupMO own) session last).conclude
      (fed.map .callSetupMO)).orchestrator := by
  obtain ⟨next, session', result⟩ := fed
  change Reports CallSetupMO.type result at reports
  cases reports with
  | continues => exact .calling next session' last
  | respond token other => exact .calling next session' token
  | completes reason => exact absurd rfl active
  | fails reason => exact absurd rfl active

theorem Evidence.feed (evidence : Evidence past own) (msg : ParsedMessage)
    (session : Option SessionCore) (reply : Reply)
    (active : (own.feed msg session).orchestrator.currentPhase ≠ .none) :
    Evidence (past ++ [(.feed msg session, reply)]) (own.feed msg session).orchestrator := by
  cases evidence with
  | calling own kept last => exact conclude_calling (own.feed_reports msg session) active _
  | identifying kept last remaining retransmissions queued =>
      change Evidence _ (stay (handleIdentityVerification
        (.identifying session last remaining retransmissions queued) msg)).orchestrator
      by_cases response : msg.Is .mobilityManagement MTI.identityResponse
      · rw [handleIdentityVerification_response response]
        exact .authenticating _ (.inl rfl) _ _
      · rw [handleIdentityVerification_other response]
        exact .identifying _ _ _ _ _
  | authenticating own expects kept last =>
      exact feed_authenticating expects kept session last msg reply active
  | ciphering own authenticated started kept last =>
      exact feed_ciphering authenticated started kept session last msg reply
  | locating ciphered kept last remaining => exact .locating (ciphered.snoc _) _ _ _

theorem external_authenticating {own : Authentication}
    (expects : own.base.currentState = .init ∨ own.hasExpectedSRES = true ∧
      ∃ chal, latest challenge? past = some chal ∧ own.expectedSRES = chal.expectedSres)
    (session : Option SessionCore) (last : ResponseToken) (data : ExternalData) (reply : Reply) :
    Evidence (past ++ [(.feedExternalTyped data, reply)])
      ((working .authentication (.authentication own) session last).feedExternalTyped
        data).orchestrator := by
  change Evidence _ ((working _ _ session last).conclude
    ((own.feedExternalTyped data session).map .authentication)).orchestrator
  cases data with
  | authChallenge chal =>
      have delivered : latest challenge?
          (past ++ [(Op.feedExternalTyped (.authChallenge chal), reply)]) = some chal :=
        latest_snoc_some rfl
      rw [Authentication.feedExternalTyped]
      simp only
      split
      · exact .authenticating _ (.inr ⟨rfl, chal, delivered, rfl⟩) _ _
      · exact .authenticating _ (.inr ⟨rfl, chal, delivered, rfl⟩) _ _
  | vlrDecision | pagingTrigger | cipheringParameters | handoverTarget =>
      exact .authenticating _ (by rw [latest_snoc_none rfl]; exact expects) session last

theorem external_ciphering {own : CipheringMode} (authenticated : Authenticated past)
    (started : own.base.currentState = .init ∨ CipheringStarted past)
    (session : Option SessionCore) (last : ResponseToken) (data : ExternalData) (reply : Reply) :
    Evidence (past ++ [(.feedExternalTyped data, reply)])
      ((working .cipheringMode (.cipheringMode own) session last).feedExternalTyped
        data).orchestrator := by
  change Evidence _ ((working _ _ session last).conclude
    ((own.feedExternalTyped data session).map .cipheringMode)).orchestrator
  have kept := authenticated.snoc (.feedExternalTyped data, reply)
  cases data with
  | cipheringParameters params =>
      have asked : CipheringStarted
          (past ++ [(.feedExternalTyped (.cipheringParameters params), reply)]) :=
        happened_now ⟨authenticated, params, rfl⟩
      rw [CipheringMode.feedExternalTyped]
      split
      · exact .ciphering _ kept (.inr asked) _ _
      · exact .ciphering _ kept (.inr asked) _ _
  | vlrDecision | pagingTrigger | authChallenge | handoverTarget =>
      exact .ciphering _ kept (started.imp id fun h => h.snoc _) session last

theorem Evidence.feedExternalTyped (evidence : Evidence past own) (data : ExternalData)
    (reply : Reply) (active : (own.feedExternalTyped data).orchestrator.currentPhase ≠ .none) :
    Evidence (past ++ [(.feedExternalTyped data, reply)])
      (own.feedExternalTyped data).orchestrator := by
  cases evidence with
  | calling own session last => exact .calling own session last
  | identifying session last remaining retransmissions queued => exact .identifying _ _ _ _ _
  | authenticating own expects session last =>
      exact external_authenticating expects session last data reply
  | ciphering own authenticated started session last =>
      exact external_ciphering authenticated started session last data reply
  | locating ciphered session last remaining =>
      cases data with
      | vlrDecision vlr =>
          cases accept : vlr.accept with
          | true =>
              rw [locating_accept accept] at active
              exact absurd rfl active
          | false =>
              rw [locating_reject accept] at active
              exact absurd rfl active
      | authChallenge | pagingTrigger | cipheringParameters | handoverTarget =>
          exact .locating (ciphered.snoc _) session last remaining

theorem Evidence.tickAll (evidence : Evidence past own) (delta : Int) (reply : Reply)
    (active : (own.tickAll delta).orchestrator.currentPhase ≠ .none) :
    Evidence (past ++ [(.tickAll delta, reply)]) (own.tickAll delta).orchestrator := by
  cases evidence with
  | calling own session last =>
      rw [tickAll_working] at active ⊢
      split at active
      case isTrue => exact absurd rfl active
      case isFalse alive =>
        rw [if_neg alive]
        exact .calling _ session last
  | identifying session last remaining retransmissions queued =>
      rw [tickAll_identifying] at active ⊢
      split at active
      case isTrue expired =>
        rw [if_pos expired]
        split at active
        case isTrue left =>
          rw [if_pos left]
          exact .identifying _ _ _ _ _
        case isFalse => exact absurd rfl active
      case isFalse left =>
        rw [if_neg left]
        exact .identifying _ _ _ _ _
  | authenticating own expects session last =>
      rw [tickAll_working] at active ⊢
      split at active
      case isTrue => exact absurd rfl active
      case isFalse alive =>
        rw [if_neg alive]
        have state : (own.tick delta).1.base.currentState = own.base.currentState :=
          doTick_alive alive
        exact .authenticating (own.tick delta).1
          (by rw [state, latest_snoc_none rfl]; exact expects) session last
  | ciphering own authenticated started session last =>
      rw [tickAll_working] at active ⊢
      split at active
      case isTrue => exact absurd rfl active
      case isFalse alive =>
        rw [if_neg alive]
        have state : (own.tick delta).1.base.currentState = own.base.currentState :=
          doTick_alive alive
        exact .ciphering (own.tick delta).1 (authenticated.snoc _)
          (by rw [state]; exact started.imp id fun h => h.snoc _) session last
  | locating ciphered session last remaining =>
      rw [tickAll_locating] at active ⊢
      split at active
      case isTrue => exact absurd rfl active
      case isFalse left =>
        rw [if_neg left]
        exact .locating (ciphered.snoc _) session last _

/-- A step of an active chain adds to what has happened in it. -/
theorem Evidence.perform (evidence : Evidence past own) (op : Op) (reply : Reply)
    (active : (own.perform op).orchestrator.currentPhase ≠ .none) :
    Evidence (past ++ [(op, reply)]) (own.perform op).orchestrator := by
  cases op with
  | feed msg session => exact evidence.feed msg session reply active
  | feedExternalTyped data => exact evidence.feedExternalTyped data reply active
  | tickAll delta => exact evidence.tickAll delta reply active
  | cancelAll => exact absurd rfl active
  | takeRetransmissionToken =>
      have silent : latest challenge? (past ++ [(Op.takeRetransmissionToken, reply)]) =
          latest challenge? past := latest_snoc_none rfl
      cases evidence with
      | calling own session last => exact .calling own session last
      | identifying session last remaining retransmissions queued => exact .identifying _ _ _ _ _
      | authenticating own expects session last =>
          exact .authenticating own (by rw [silent]; exact expects) session last
      | ciphering own authenticated started session last =>
          exact .ciphering own (authenticated.snoc _) (started.imp id fun h => h.snoc _) session last
      | locating ciphered session last remaining =>
          exact .locating (ciphered.snoc _) session last remaining

/-- The first step of a chain. -/
theorem startChain_evidence (msg : ParsedMessage)
    (active : ((idle session last).startChain msg).orchestrator.currentPhase ≠ .none)
    (past : List (Op × Reply)) :
    Evidence past ((idle session last).startChain msg).orchestrator := by
  rcases detectChainPhase_cases msg with rfl | rfl | detach | release | other
  · rw [startChain_call]
    exact .calling _ _ _
  · by_cases known : KnownByTMSI session
    · rw [startChain_known known]
      exact .authenticating _ (.inl rfl) _ _
    · rw [startChain_unknown known]
      exact .identifying _ _ _ _ _
  · rw [startChain, detach] at active
    exact absurd rfl active
  · rw [startChain, release] at active
    exact absurd rfl active
  · rw [startChain, other] at active
    exact absurd rfl active

theorem perform_idle_evidence (op : Op)
    (active : ((idle session last).perform op).orchestrator.currentPhase ≠ .none)
    (past : List (Op × Reply)) : Evidence past ((idle session last).perform op).orchestrator := by
  cases op with
  | feed msg session => exact startChain_evidence msg active past
  | feedExternalTyped data => exact absurd rfl active
  | tickAll delta => exact absurd rfl active
  | cancelAll => exact absurd rfl active
  | takeRetransmissionToken => exact absurd rfl active

/-! ## Runs -/

/-- The chain of an orchestrator: the part of the run since the orchestrator was last idle. -/
def ChainSince (events chain : List (Op × Reply)) (own : ProcedureOrchestrator) : Prop :=
  ∃ (before : List (Op × Reply)) (origin : ProcedureOrchestrator),
    events = before ++ chain ∧ machine.Run (fun _ _ _ => True) {} before origin ∧
      origin.currentPhase = .none ∧
      machine.Run (fun _ _ target => target.currentPhase ≠ .none) origin chain own

theorem chain_of_run {events : List (Op × Reply)}
    (run : machine.Run (fun _ _ _ => True) {} events own) (active : own.currentPhase ≠ .none) :
    ∃ chain, ChainSince events chain own ∧ Evidence chain own := by
  induction run with
  | origin => exact absurd rfl active
  | @next events source target event run stepped _ ih =>
      obtain ⟨op, reply⟩ := event
      obtain ⟨rfl, -⟩ := Prod.mk.inj (Option.some.inj (Foundation.Machine.ofCalls_step.mp stepped))
      by_cases idled : source.currentPhase = .none
      · have resting := (resting_of_run run).eq_idle idled
        refine ⟨[(op, reply)], ⟨events, source, rfl, run, idled,
          Foundation.Machine.Run.origin.next stepped active⟩, ?_⟩
        rw [resting] at active ⊢
        exact perform_idle_evidence op active _
      · obtain ⟨chain, ⟨before, origin, rfl, reached, idle, ran⟩, evidence⟩ := ih idled
        exact ⟨chain ++ [(op, reply)],
          ⟨before, origin, (List.append_assoc _ _ _), reached, idle, ran.next stepped active⟩,
          evidence.perform op reply active⟩

theorem not_updating {type : ProcedureType} {result : ProcedureStepResult}
    (reports : Reports type result) : result.responseToken ∉ updatingTokens := by
  cases reports with
  | respond token other => exact other
  | continues => exact (by decide : ResponseToken.none ∉ updatingTokens)
  | completes reason => exact (by decide : ResponseToken.none ∉ updatingTokens)
  | fails reason => exact (by decide : ResponseToken.none ∉ updatingTokens)

theorem conclude_result (fed : Fed Procedure) : (own.conclude fed).result = fed.result := by
  rw [conclude]
  simp only
  split <;> rfl

theorem startChain_token (msg : ParsedMessage) :
    ((idle session last).startChain msg).result.responseToken ≠ .locationUpdatingAccept := by
  rcases detectChainPhase_cases msg with rfl | rfl | detach | release | other
  · rw [startChain_call]
    rintro ⟨⟩
  · by_cases known : KnownByTMSI session
    · rw [startChain_known known]
      rintro ⟨⟩
    · rw [startChain_unknown known]
      rintro ⟨⟩
  · rw [startChain, detach]
    rintro ⟨⟩
  · rw [startChain, release]
    rintro ⟨⟩
  · rw [startChain, other]
    rintro ⟨⟩

theorem feed_token (resting : Resting own) (msg : ParsedMessage) (session : Option SessionCore) :
    (own.feed msg session).result.responseToken ≠ .locationUpdatingAccept := by
  cases resting with
  | idle kept last => exact startChain_token msg
  | working fits kept last =>
      have silent := not_updating (fits.feed msg session).2
      have other (fed : Fed Procedure) (apart : fed.result.responseToken ∉ updatingTokens)
          (own : ProcedureOrchestrator) :
          (own.conclude fed).result.responseToken ≠ .locationUpdatingAccept := by
        rw [conclude_result]
        intro same
        exact apart (by rw [same]; decide)
      cases fits with
      | authentication own => exact other _ silent _
      | cipheringMode own => exact other _ silent _
      | callSetupMO own => exact other _ silent _
  | identifying kept last remaining retransmissions queued =>
      change (stay ((identifying session last remaining retransmissions
        queued).handleIdentityVerification msg)).result.responseToken ≠ _
      by_cases response : msg.Is .mobilityManagement MTI.identityResponse
      · rw [handleIdentityVerification_response response]
        nofun
      · rw [handleIdentityVerification_other response]
        nofun
  | locating kept last remaining => nofun

/-- Only the decision of the location register accepts an update, in its phase. -/
theorem accept_cases (resting : Resting own) {op : Op}
    (accepted : (own.perform op).result.responseToken = .locationUpdatingAccept) :
    own.currentPhase = .locationUpdate ∧
      ∃ vlr, op = .feedExternalTyped (.vlrDecision vlr) ∧ vlr.accept = true := by
  cases op with
  | feed msg session => exact absurd accepted (feed_token resting msg session)
  | cancelAll => cases accepted
  | takeRetransmissionToken => cases accepted
  | tickAll delta =>
      exfalso
      cases resting with
      | idle session last => cases accepted
      | working fits session last =>
          change ((working _ _ session last).tickAll delta).result.responseToken = _ at accepted
          rw [tickAll_working] at accepted
          split at accepted <;> cases accepted
      | identifying session last remaining retransmissions queued =>
          change ((identifying session last remaining retransmissions queued).tickAll
            delta).result.responseToken = _ at accepted
          rw [tickAll_identifying] at accepted
          split at accepted
          · split at accepted <;> cases accepted
          · cases accepted
      | locating session last remaining =>
          change ((locating session last remaining).tickAll delta).result.responseToken = _ at accepted
          rw [tickAll_locating] at accepted
          split at accepted <;> cases accepted
  | feedExternalTyped data =>
      cases resting with
      | idle session last => cases accepted
      | @working phase proc fits session last =>
          have silent := not_updating (fits.feedExternalTyped data session).2
          change ((working phase proc session last).conclude _).result.responseToken = _ at accepted
          rw [conclude_result] at accepted
          have same : (proc.feedExternalTyped data session).result.responseToken =
              .locationUpdatingAccept := accepted
          rw [same] at silent
          exact absurd (.head _) silent
      | identifying session last remaining retransmissions queued => cases accepted
      | locating session last remaining =>
          refine ⟨rfl, ?_⟩
          cases data with
          | vlrDecision vlr =>
              cases accept : vlr.accept with
              | true => exact ⟨vlr, rfl, accept⟩
              | false =>
                  change ((locating session last remaining).feedExternalTyped
                    (.vlrDecision vlr)).result.responseToken = _ at accepted
                  rw [locating_reject accept] at accepted
                  cases accepted
          | authChallenge | pagingTrigger | cipheringParameters | handoverTarget => cases accepted

/-- A location update is accepted only by a decision of the location register, in a chain in
which the mobile answered the latest challenge as expected, ciphering parameters were delivered
after that, and the mobile completed ciphering after those. -/
theorem accept_authorised {events : List (Op × Reply)}
    (run : machine.Run (fun _ _ _ => True) {} events own) {op : Op} {reply : Reply}
    {target : ProcedureOrchestrator} (call : exec own op = some (target, reply))
    (accepted : reply.result.responseToken = .locationUpdatingAccept) :
    (∃ vlr, op = .feedExternalTyped (.vlrDecision vlr) ∧ vlr.accept = true) ∧
      ∃ chain, ChainSince events chain own ∧ Ciphered chain := by
  obtain ⟨rfl, rfl⟩ := Prod.mk.inj (Option.some.inj call)
  obtain ⟨phase, decision⟩ := accept_cases (resting_of_run run) accepted
  obtain ⟨chain, since, evidence⟩ := chain_of_run run (by rw [phase]; nofun)
  refine ⟨decision, chain, since, ?_⟩
  cases evidence with
  | locating ciphered session last remaining => exact ciphered
  | calling own session last => cases phase
  | identifying session last remaining retransmissions queued => cases phase
  | authenticating own expects session last => cases phase
  | ciphering own authenticated started session last => cases phase

/-- The calls with the replies they get. -/
private def recorded (own : ProcedureOrchestrator) : List Op → List (Op × Reply)
  | [] => []
  | op :: ops =>
      (op, ⟨(own.perform op).result, (own.perform op).session, (own.perform op).failed,
        own.handedOut op⟩) :: recorded (own.perform op).orchestrator ops

private def knownSession : SessionCore :=
  { context.identity := .ofTMSI 1 }

/-- The calls of a location update of a known subscriber up to the decision. -/
private def updateCalls : List Op :=
  [.feed (.cmServiceRequest .locationUpdateRequest) (some knownSession),
    .feedExternalTyped (.authChallenge ⟨.replicate 16 1, .replicate 4 2⟩),
    .feed (.channelRequest 7) (some knownSession),
    .feed (.authenticationResponse 0x02020202) (some knownSession),
    .feedExternalTyped (.cipheringParameters { algorithmSelector := 1 }),
    .feed (.channelRequest 7) (some knownSession),
    .feed (.other .radioResource MTI.cipheringModeComplete 0) (some knownSession)]

/-- The update of a known subscriber is accepted. -/
theorem accept_authorised_known :
    ∃ own, machine.exec (fun _ _ _ => True) {} (recorded {} updateCalls) = some own ∧
      ∃ target reply, exec own (.feedExternalTyped (.vlrDecision { accept := true })) =
          some (target, reply) ∧
        reply.result.responseToken = .locationUpdatingAccept ∧
        ∃ chain, ChainSince (recorded {} updateCalls) chain own ∧ Ciphered chain := by
  obtain ⟨own, executed⟩ := Option.isSome_iff_exists.mp (show (machine.exec (fun _ _ _ => True) {}
    (recorded {} updateCalls)).isSome by decide)
  have accepts : ∀ own ∈ machine.exec (fun _ _ _ => True) {} (recorded {} updateCalls),
      (own.perform (.feedExternalTyped (.vlrDecision { accept := true }))).result.responseToken =
        .locationUpdatingAccept := by
    decide
  have accepted := accepts own executed
  exact ⟨own, executed, _, _, rfl, accepted,
    (accept_authorised (.exec _ .origin executed) rfl accepted).2⟩

end ProcedureOrchestrator

end Stack

end Gsml3
