import Gsml3.Stack.ProcedureRunner

/-!
# Procedure orchestrator

Chains of procedures: a location update runs through identity verification,
authentication, ciphering and the decision of the location register, an outgoing
call through its setup.  A phase has a procedure or is handled inline, with a
timer of its own.  The orchestrator keeps the session of the last message; its
model holds the contents of that session.
-/

namespace Gsml3

namespace Stack

/-- The phases of a chain. -/
inductive ChainPhase where
  | none
  | cmServiceRequest
  | identityVerification
  | authentication
  | cipheringMode
  | locationUpdate
  | callSetupMO
  | callSetupMT
  | channelAssignment
  | paging
  | handover
  | imsiDetach
  | periodicLocationUpdate
  | callRelease
deriving DecidableEq, Repr

/-- Timer policy of a phase; without retransmissions the first expiry ends the chain. -/
structure PhaseTimerPolicy where
  id : L3TimerId := .unknown
  duration : Int := 0
  maxRetransmissions : Nat := 0
  retransmitToken : ResponseToken := .none
deriving DecidableEq, Repr

/-- The retransmissions that an identity phase allows. -/
def maxIdentityRetransmissions : Nat := 3

/-- The chain: its phase, the procedure of the phase, the session and the phase timer. -/
structure ProcedureOrchestrator where
  currentPhase : ChainPhase := .none
  currentProcedure : Option Procedure := none
  session : Option SessionCore := none
  lastToken : ResponseToken := .none
  chainType : ProcedureType := .unknown
  phaseTimerPolicy : PhaseTimerPolicy := {}
  phaseTimerRemaining : Int := 0
  phaseTimerRunning : Bool := false
  phaseRetransmissions : Nat := 0
  retransmitToken : ResponseToken := .none
deriving DecidableEq, Repr

/-- Outcome of a call: the orchestrator, the contents of the session it worked on, the result
of the step and the number of failures. -/
structure Chained where
  orchestrator : ProcedureOrchestrator
  session : Option SessionCore
  result : ProcedureStepResult := {}
  failed : Nat := 0

namespace ProcedureOrchestrator

/-! ## Phases -/

/-- The first phase of the chain that a message starts. -/
def detectChainPhase (msg : ParsedMessage) : ChainPhase :=
  if msg.Is .mobilityManagement MTI.cmServiceRequest ∧
      (msg.cmServiceRequest? = some .locationUpdateRequest ∨
        msg.cmServiceRequest? = some .mobileOriginatedCall) then
    .cmServiceRequest
  else if msg.Is .mobilityManagement MTI.imsiDetachIndication then .imsiDetach
  else if msg.Is .callControl MTI.disconnect then .callRelease
  else .none

/-- The protocol states of the session follow the phase. -/
def enterPhase (phase : ChainPhase) (session : SessionCore) : SessionCore :=
  match phase with
  | .cmServiceRequest => { session with mmSM := .serviceRequest }
  | .identityVerification => { session with mmSM := .waitingIdentity }
  | .authentication => { session with mmSM := .authentication }
  | .cipheringMode => { session with rrSM := .cipherMode }
  | .locationUpdate => { session with mmSM := .locationUpdate }
  | .callSetupMO => { session with ccSM := .setupReceived }
  | .callSetupMT => { session with ccSM := .setupReceived }
  | .imsiDetach => { session with mmSM := .serviceRequest }
  | .callRelease => { session with ccSM := .disconnectReceived }
  | _ => session

/-- The procedure that carries out a phase, for the phases that have one. -/
def createProcedureForPhase : ChainPhase → Option Procedure
  | .authentication => some ProcedureFactory.createAuthentication
  | .cipheringMode => some (ProcedureFactory.createCipheringMode 0)
  | .callSetupMO => some ProcedureFactory.createCallSetupMO
  | .callSetupMT => some (ProcedureFactory.createCallSetupMT [])
  | .channelAssignment => some (ProcedureFactory.createChannelAssignment .sdcchType)
  | .paging => some (ProcedureFactory.createPaging {})
  | .handover => some (ProcedureFactory.createHandover {})
  | _ => none

/-- The timer of the phase and its retransmissions go back to their first values. -/
def stopPhaseTimer (own : ProcedureOrchestrator) : ProcedureOrchestrator :=
  { own with
    phaseTimerPolicy := {}
    phaseTimerRemaining := 0
    phaseTimerRunning := false
    phaseRetransmissions := 0
    retransmitToken := .none }

/-- Enters a phase with its procedure, if it has one, and its timer. -/
def transitionToPhase (own : ProcedureOrchestrator) (phase : ChainPhase) :
    ProcedureOrchestrator :=
  let own := { own with
    currentPhase := phase
    session := own.session.map (enterPhase phase)
    currentProcedure := createProcedureForPhase phase }
  match phase with
  | .locationUpdate =>
      { own with
        phaseTimerPolicy := ⟨.T3103, 5000, 0, .none⟩
        phaseTimerRemaining := 5000
        phaseTimerRunning := true
        phaseRetransmissions := 0 }
  | .identityVerification =>
      -- The request is due at once; the first tick queues it again and starts the window.
      { own with
        phaseTimerPolicy := ⟨.T3102, 3000, maxIdentityRetransmissions, .identityRequest⟩
        phaseTimerRemaining := 0
        phaseTimerRunning := true
        phaseRetransmissions := 0
        retransmitToken := .identityRequest }
  | _ => own.stopPhaseTimer

/-- Change the session. -/
def onSession (own : ProcedureOrchestrator) (change : SessionCore → SessionCore) :
    ProcedureOrchestrator :=
  { own with session := own.session.map change }

/-- The chain after a completed procedure, and whether it goes on. -/
def onProcedureCompleted (own : ProcedureOrchestrator) : ProcedureOrchestrator × Bool :=
  match own.currentPhase with
  | .authentication =>
      ((own.onSession fun s => { s with mmSM := .authenticated }).transitionToPhase
        .cipheringMode, true)
  | .cipheringMode =>
      ((own.onSession fun s => { s with rrSM := .active, context.ciphered := true })
        |>.transitionToPhase .locationUpdate, true)
  | .locationUpdate =>
      ((own.onSession fun s => { s with mmSM := .registered }).stopPhaseTimer, false)
  | _ => (own, false)

/-- The last token stays: the terminal response may still be built. -/
def endChain (own : ProcedureOrchestrator) : ProcedureOrchestrator :=
  { own.stopPhaseTimer with
    currentProcedure := none
    currentPhase := .none
    chainType := .unknown }

/-- Cancel the chain; the response parameters of the session are cleared. -/
def cancelAll (own : ProcedureOrchestrator) : Chained :=
  ⟨{ own.stopPhaseTimer with
      currentProcedure := none
      currentPhase := .none
      session := none
      lastToken := .none
      chainType := .unknown },
    own.session.map fun s => s.expose fun _ => {}, {}, 0⟩

/-- Answer with a response. -/
def respond (own : ProcedureOrchestrator) (result : ProcedureStepResult) :
    ProcedureOrchestrator × ProcedureStepResult :=
  ({ own with lastToken := result.responseToken }, result)

/-- Outcome of an inline phase that goes on. -/
def stay (stepped : ProcedureOrchestrator × ProcedureStepResult) : Chained :=
  ⟨stepped.1, stepped.1.session, stepped.2, 0⟩

/-- Outcome of an inline phase; a terminal result ends the chain. -/
def endIfTerminal (stepped : ProcedureOrchestrator × ProcedureStepResult) : Chained :=
  if stepped.2.finalResult.state.isTerminal then stay (stepped.1.endChain, stepped.2)
  else stay stepped

/-- Take over the outcome of feeding the current procedure. -/
def conclude (own : ProcedureOrchestrator) (fed : Fed Procedure) : Chained :=
  let own := { own with currentProcedure := some fed.proc, session := fed.session }
  let own :=
    if fed.result.action = .sendResponseWithToken then
      { own with lastToken := fed.result.responseToken }
    else own
  match fed.result.finalResult.state with
  | .completed =>
      let completed := own.onProcedureCompleted
      stay (if completed.2 then completed.1 else completed.1.endChain, fed.result)
  | .failed | .timedOut => { own.cancelAll with result := fed.result }
  | _ => stay (own, fed.result)

/-! ## Inline phases -/

/-- The service is accepted. -/
def handleCMServiceRequest (own : ProcedureOrchestrator) :
    ProcedureOrchestrator × ProcedureStepResult :=
  own.respond (.respond .cmServiceAccept)

/-- An identity response ends the phase; another message leaves it waiting. -/
def handleIdentityVerification (own : ProcedureOrchestrator) (msg : ParsedMessage) :
    ProcedureOrchestrator × ProcedureStepResult :=
  if msg.Is .mobilityManagement MTI.identityResponse then
    ((own.onSession fun s => { s with mmSM := .identityVerified }).transitionToPhase
      .authentication, {})
  else
    let own :=
      if own.phaseTimerPolicy.id = .T3102 then
        { own with
          phaseTimerRemaining := own.phaseTimerPolicy.duration
          phaseTimerRunning := true }
      else own
    own.respond (.respond .identityRequest)

/-- The phase waits for the decision of the location register. -/
def handleLocationUpdatePhase (own : ProcedureOrchestrator) :
    ProcedureOrchestrator × ProcedureStepResult :=
  (own, { action := .waitingExternal })

/-- The accept is the last response of the chain and deregisters the subscriber. -/
def handleIMSIDetachPhase (own : ProcedureOrchestrator) :
    ProcedureOrchestrator × ProcedureStepResult :=
  (own.onSession fun s => { s with mmSM := .deregistered }).respond
    (.respondLast .cmServiceAccept .imsiDetach .completed "imsi_detach_accept")

/-- The transaction and cause a Disconnect asks to release. -/
def releaseParameters (msg : ParsedMessage) (response : ResponseContext) : ResponseContext :=
  match msg.disconnect? with
  | some (ti, cause) => { response with ti := ti, ccCause := cause }
  | none => { response with ti := messageTI msg }

/-- A Release is the last response of the chain. -/
def handleCallReleasePhase (own : ProcedureOrchestrator) (msg : ParsedMessage) :
    ProcedureOrchestrator × ProcedureStepResult :=
  (own.onSession fun s => { s.expose (releaseParameters msg) with ccSM := .release }).respond
    (.respondLast .release .callRelease .completed "release_sent")

/-- The decision of the register is the last response of the chain. -/
def handleExternalDataLocationUpdate (own : ProcedureOrchestrator) (data : ExternalData) :
    ProcedureOrchestrator × ProcedureStepResult :=
  match data with
  | .vlrDecision vlr =>
      let own := own.onSession fun s =>
        s.expose fun r => { r with newTmsi := vlr.newTmsi, mmCause := vlr.rejectCause }
      if vlr.accept then
        let accepted := (own.onSession fun s => { s with mmSM := .registered }).respond
          (.respondLast .locationUpdatingAccept .locationUpdate .completed "vlr_accept")
        (accepted.1.stopPhaseTimer, accepted.2)
      else
        let rejected := (own.onSession fun s => { s with mmSM := .deregistered }).respond
          (.respondLast .locationUpdatingReject .locationUpdate .failed "vlr_reject")
        (rejected.1.stopPhaseTimer, rejected.2)
  | _ => (own, {})

/-! ## Calls -/

/-- The phase after an accepted CM Service Request. -/
def afterServiceRequest (own : ProcedureOrchestrator) (msg : ParsedMessage) : ChainPhase :=
  if msg.cmServiceRequest? = some .mobileOriginatedCall then .callSetupMO
  else if own.session.any fun s => s.context.identity.type = .tmsi then .authentication
  else .identityVerification

/-- Start the chain a message asks for, with cleared response parameters. -/
def startChain (own : ProcedureOrchestrator) (msg : ParsedMessage) : Chained :=
  match detectChainPhase msg with
  | .none => stay (own, {})
  | phase =>
      let own := { own.onSession fun s => s.expose fun _ => {} with chainType := .unknown }
      match phase with
      | .imsiDetach =>
          endIfTerminal
            { own.transitionToPhase .imsiDetach with chainType := .imsiDetach }.handleIMSIDetachPhase
      | .callRelease =>
          endIfTerminal
            ({ own.transitionToPhase .callRelease with
              chainType := .callRelease }.handleCallReleasePhase msg)
      | _ =>
          let own := { own with
            chainType :=
              match msg.cmServiceRequest? with
              | some .mobileOriginatedCall => .callSetupMO
              | some _ => .locationUpdate
              | none => own.chainType }
          let accepted := (own.transitionToPhase .cmServiceRequest).handleCMServiceRequest
          stay (accepted.1.transitionToPhase (accepted.1.afterServiceRequest msg), accepted.2)

/-- Without a chain a message may start one; else the phase or its procedure takes it. -/
def feed (own : ProcedureOrchestrator) (msg : ParsedMessage) (session : Option SessionCore) :
    Chained :=
  let own := { own with session := session }
  match own.currentPhase with
  | .none => own.startChain msg
  | .cmServiceRequest => stay own.handleCMServiceRequest
  | .identityVerification => stay (own.handleIdentityVerification msg)
  | .locationUpdate => stay own.handleLocationUpdatePhase
  | .imsiDetach => endIfTerminal own.handleIMSIDetachPhase
  | .callRelease => endIfTerminal (own.handleCallReleasePhase msg)
  | _ =>
      match own.currentProcedure with
      | some proc => own.conclude (proc.feed msg own.session)
      | none => stay (own, {})

/-- The data goes to the procedure of the phase, or to the phase without one. -/
def feedExternalTyped (own : ProcedureOrchestrator) (data : ExternalData) : Chained :=
  match own.currentProcedure with
  | some proc => own.conclude (proc.feedExternalTyped data own.session)
  | none =>
      match own.currentPhase with
      | .locationUpdate => endIfTerminal (own.handleExternalDataLocationUpdate data)
      | _ => stay (own, {})

/-- Tick the timer of an inline phase. -/
def tickPhaseTimer (own : ProcedureOrchestrator) (delta : Int) : Chained :=
  if own.phaseTimerRunning then
    let own := { own with phaseTimerRemaining := own.phaseTimerRemaining - delta }
    if own.phaseTimerRemaining ≤ 0 then
      if 0 < own.phaseTimerPolicy.maxRetransmissions ∧
          own.phaseRetransmissions < own.phaseTimerPolicy.maxRetransmissions then
        let own := { own with
          phaseRetransmissions := own.phaseRetransmissions + 1
          retransmitToken := own.phaseTimerPolicy.retransmitToken
          phaseTimerRemaining := own.phaseTimerPolicy.duration }
        stay (own, {})
      else { own.cancelAll with failed := 1 }
    else stay (own, {})
  else stay (own, {})

/-- Tick the current procedure. -/
def tickProcedure (ticked : Chained) (delta : Int) : Chained :=
  match ticked.orchestrator.currentProcedure with
  | some proc =>
      let own := { ticked.orchestrator with currentProcedure := some (proc.tick delta).1 }
      if (proc.tick delta).2.action = .failed then
        { own.cancelAll with failed := ticked.failed + 1 }
      else { ticked with orchestrator := own }
  | none => ticked

/-- The phase timer counts before the procedure does. -/
def tickAll (own : ProcedureOrchestrator) (delta : Int) : Chained :=
  tickProcedure (own.tickPhaseTimer delta) delta

/-- Hands the pending token over and clears it. -/
def takeRetransmissionToken (own : ProcedureOrchestrator) :
    ProcedureOrchestrator × ResponseToken :=
  ({ own with retransmitToken := .none }, own.retransmitToken)

/-- Build the message of the last token; there is none before the first token. -/
def buildPendingResponse {Message : Type}
    (buildResponseFromToken : ResponseToken → Option SessionCore → Option Message)
    (own : ProcedureOrchestrator) (session : Option SessionCore) : Option Message :=
  if own.lastToken = .none then none else buildResponseFromToken own.lastToken session

end ProcedureOrchestrator

end Stack

end Gsml3
