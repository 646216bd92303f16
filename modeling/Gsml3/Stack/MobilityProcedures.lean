import Gsml3.Stack.Procedure

/-!
# Mobility management procedures

Authentication, ciphering mode setting, location updating and IMSI detach, as
the network side runs them.
-/

namespace Gsml3

namespace Stack

/-! ## Authentication -/

/-- The states of an authentication. -/
inductive AuthenticationState where
  | init
  | sendAuthReq
  | waitResponse
  | verifySres
  | completed
  | failed
deriving DecidableEq, Repr

instance : ProcedureStates AuthenticationState where
  completed := .completed
  failed := .failed
  procState
    | .completed => .completed
    | .failed => .failed
    | _ => .inProgress

/-- An authentication: its state, and the challenge it was given. -/
structure Authentication where
  base : StateMixin AuthenticationState := { currentState := .init }
  randBuffer : Vector UInt8 16 := .replicate 16 0
  hasRand : Bool := false
  expectedSRES : Vector UInt8 4 := .replicate 4 0
  hasExpectedSRES : Bool := false
deriving DecidableEq, Repr

namespace Authentication

def type : ProcedureType := .authentication

/-- The messages that an authentication asks for. -/
def Matches (msg : ParsedMessage) : Prop :=
  msg.Is .mobilityManagement MTI.authenticationResponse

instance (msg : ParsedMessage) : Decidable (Matches msg) :=
  inferInstanceAs (Decidable (msg.Is _ _))

/-- Check a response against the expected one. -/
def verify (own : Authentication) (msg : ParsedMessage) : Authentication × ProcedureStepResult :=
  let own := { own with base := own.base.transitionTo .verifySres }
  let completed := { own with base := own.base.complete }
  let failed := { own with base := own.base.fail }
  if own.hasExpectedSRES then
    match msg.authenticationResponse? with
    | some sres =>
        if sres = sresValue own.expectedSRES then
          (completed, .finish .completed type .completed "auth_success")
        else (failed, .finish .failed type .failed "sres_mismatch")
    | none => (failed, .finish .failed type .failed "invalid_response")
  else (completed, .finish .completed type .completed "auth_no_verify")

/-- In `sendAuthReq` any message sends the request; the answer is then compared. -/
def feed (own : Authentication) (msg : ParsedMessage) (session : Option SessionCore) :
    Fed Authentication :=
  match own.base.currentState with
  | .sendAuthReq =>
      ⟨{ own with base := (own.base.startTimer .T3106 3000).transitionTo .waitResponse },
        session, .respond .authenticationRequest⟩
  | .waitResponse =>
      if msg.Is .mobilityManagement MTI.authenticationResponse then
        ⟨(own.verify msg).1, session, (own.verify msg).2⟩
      else ⟨own, session, {}⟩
  | .init | .verifySres | .completed | .failed => ⟨own, session, {}⟩

def feedExternalTyped (own : Authentication) (data : ExternalData)
    (session : Option SessionCore) : Fed Authentication :=
  match data with
  | .authChallenge chal =>
      let own := { own with
        randBuffer := chal.rand
        hasRand := true
        expectedSRES := chal.expectedSres
        hasExpectedSRES := true }
      let session := session.map fun s =>
        s.expose fun r => { r with rand := chal.rand, hasRand := true }
      if own.base.currentState = .init then
        ⟨{ own with base := own.base.transitionTo .sendAuthReq }, session,
          .respond .authenticationRequest⟩
      else ⟨own, session, {}⟩
  | _ => ⟨own, session, {}⟩

def tick (own : Authentication) (delta : Int) : Authentication × ProcedureStepResult :=
  let (base, result) := own.base.doTick type delta
  ({ own with base := base }, result)

end Authentication

/-! ## Ciphering mode -/

/-- The states of a ciphering mode change. -/
inductive CipheringModeState where
  | init
  | sendCommand
  | waitComplete
  | completed
  | failed
deriving DecidableEq, Repr

instance : ProcedureStates CipheringModeState where
  completed := .completed
  failed := .failed
  procState
    | .completed => .completed
    | .failed => .failed
    | _ => .inProgress

/-- A ciphering mode change and the algorithm it asks for. -/
structure CipheringMode where
  base : StateMixin CipheringModeState := { currentState := .init }
  cipherAlgo : UInt8
deriving DecidableEq, Repr

namespace CipheringMode

def type : ProcedureType := .cipheringMode

/-- The messages that a ciphering mode change asks for. -/
def Matches (msg : ParsedMessage) : Prop :=
  msg.Is .radioResource MTI.cipheringModeComplete

instance (msg : ParsedMessage) : Decidable (Matches msg) :=
  inferInstanceAs (Decidable (msg.Is _ _))

/-- In `sendCommand` any message sends the command; its completion ends the procedure. -/
def feed (own : CipheringMode) (msg : ParsedMessage) (session : Option SessionCore) :
    Fed CipheringMode :=
  match own.base.currentState with
  | .sendCommand =>
      ⟨{ own with base := (own.base.startTimer .T3101 3000).transitionTo .waitComplete },
        session, .respond .cipheringModeCommand⟩
  | .waitComplete =>
      if msg.Is .radioResource MTI.cipheringModeComplete then
        ⟨{ own with base := own.base.complete }, session,
          .finish .completed type .completed "ciphering_activated"⟩
      else ⟨own, session, {}⟩
  | .init | .completed | .failed => ⟨own, session, {}⟩

/-- The parameters start the procedure from its first state only. -/
def feedExternalTyped (own : CipheringMode) (data : ExternalData)
    (session : Option SessionCore) : Fed CipheringMode :=
  match data with
  | .cipheringParameters params =>
      if own.base.currentState = .init then
        ⟨{ own with base := (own.base.transitionTo .sendCommand).startTimer .T3101 3000 },
          session.map fun s => s.expose fun r =>
            { r with cipherAlgo := params.algorithmSelector, hasCipherAlgo := true },
          .respond .cipheringModeCommand⟩
      else ⟨own, session, {}⟩
  | _ => ⟨own, session, {}⟩

def tick (own : CipheringMode) (delta : Int) : CipheringMode × ProcedureStepResult :=
  let (base, result) := own.base.doTick type delta
  ({ own with base := base }, result)

end CipheringMode

/-! ## Location updating -/

/-- The states of a location update. -/
inductive LocationUpdateState where
  | init
  | identityCheck
  | requestIdentity
  | authCheck
  | sendAuth
  | waitAuth
  | verifyAuth
  | luRequest
  | waitingExternal
  | sendAccept
  | sendReject
  | completed
  | failed
deriving DecidableEq, Repr

instance : ProcedureStates LocationUpdateState where
  completed := .completed
  failed := .failed
  procState
    | .completed => .completed
    | .failed => .failed
    | .waitingExternal => .waitingExternal
    | _ => .inProgress

/-- A location update: its state, the challenge and the identities it was given. -/
structure LocationUpdate where
  base : StateMixin LocationUpdateState := { currentState := .init }
  randBuffer : Vector UInt8 16 := .replicate 16 0
  hasRand : Bool := false
  expectedSRES : Vector UInt8 4 := .replicate 4 0
  hasExpectedSRES : Bool := false
  lai : L3LocationAreaIdentity := {}
  newTmsi : Option UInt32 := none
  rejectCause : MMRejectCause := .zero
deriving DecidableEq, Repr

namespace LocationUpdate

def type : ProcedureType := .locationUpdate

/-- The messages that a location update asks for. -/
def Matches (msg : ParsedMessage) : Prop :=
  msg.Is .mobilityManagement MTI.cmServiceRequest ∨
    msg.Is .mobilityManagement MTI.identityResponse ∨
    msg.Is .mobilityManagement MTI.authenticationResponse

instance (msg : ParsedMessage) : Decidable (Matches msg) :=
  inferInstanceAs (Decidable (_ ∨ _))

/-- Move to another state. -/
def goto (own : LocationUpdate) (s : LocationUpdateState) : LocationUpdate :=
  { own with base := own.base.transitionTo s }

/-- Check a response against the expected one. -/
def verify (own : LocationUpdate) (msg : ParsedMessage) : LocationUpdate × ProcedureStepResult :=
  let own := own.goto .verifyAuth
  let reject := ({ own with rejectCause := .macFailure }.goto .sendReject,
    ProcedureStepResult.respond .locationUpdatingReject)
  if own.hasExpectedSRES then
    match msg.authenticationResponse? with
    | some sres =>
        if sres = sresValue own.expectedSRES then (own.goto .luRequest, {}) else reject
    | none => reject
  else (own.goto .luRequest, {})

/-- The state switch of `feed`. -/
def feedState (own : LocationUpdate) (msg : ParsedMessage) (session : Option SessionCore) :
    LocationUpdate × ProcedureStepResult :=
  match own.base.currentState with
  | .init =>
      if messagePD msg = .mobilityManagement ∨ messagePD msg = .radioResource then
        (own.goto .identityCheck, {})
      else (own, {})
  | .identityCheck =>
      if session.any fun s => s.context.identity.type = .tmsi then (own.goto .authCheck, {})
      else (own.goto .requestIdentity, .respond .identityRequest)
  | .requestIdentity =>
      if msg.Is .mobilityManagement MTI.identityResponse then (own.goto .authCheck, {})
      else (own, {})
  | .authCheck =>
      if own.hasRand then
        ({ own with base := (own.base.transitionTo .sendAuth).startTimer .T3106 3000 },
          .respond .authenticationRequest)
      else (own.goto .luRequest, {})
  | .sendAuth => (own.goto .waitAuth, {})
  | .waitAuth =>
      if msg.Is .mobilityManagement MTI.authenticationResponse then own.verify msg
      else (own, {})
  | .luRequest =>
      ({ own with
          lai := match session with
            | some s => s.context.lai.getD {}
            | none => own.lai
          base := (own.base.transitionTo .waitingExternal).startTimer .T3103 5000 },
        { action := .waitingExternal })
  | .sendAccept =>
      ({ own with base := own.base.complete },
        .respondLast .locationUpdatingAccept type .completed "accept_sent")
  | .sendReject =>
      ({ own with base := own.base.fail },
        .respondLast .locationUpdatingReject type .failed "reject_sent")
  | .verifyAuth | .waitingExternal | .completed | .failed => (own, {})

/-- A step of the state machine; the terminal result is reported once. -/
def feed (own : LocationUpdate) (msg : ParsedMessage) (session : Option SessionCore) :
    Fed LocationUpdate :=
  let (own, result) := own.feedState msg session
  ⟨own, session, result.reportTerminal type own.base.procState⟩

def feedExternalTyped (own : LocationUpdate) (data : ExternalData)
    (session : Option SessionCore) : Fed LocationUpdate :=
  match data with
  | .authChallenge chal =>
      let own := { own with
        randBuffer := chal.rand
        hasRand := true
        expectedSRES := chal.expectedSres
        hasExpectedSRES := true }
      let session := session.map fun s =>
        s.expose fun r => { r with rand := chal.rand, hasRand := true }
      if own.base.currentState = .authCheck then
        ⟨{ own with base := (own.base.transitionTo .sendAuth).startTimer .T3106 3000 }, session,
          .respond .authenticationRequest⟩
      else ⟨own, session, {}⟩
  | .vlrDecision vlr =>
      if own.base.currentState = .waitingExternal then
        let own := { own with base := own.base.stopTimer }
        let session := session.map fun s =>
          s.expose fun r => { r with newTmsi := vlr.newTmsi, mmCause := vlr.rejectCause }
        if vlr.accept then
          ⟨{ own with
              newTmsi := vlr.newTmsi
              base := (own.base.transitionTo .sendAccept).complete }, session,
            .respondLast .locationUpdatingAccept type .completed "vlr_accept"⟩
        else
          ⟨{ own with
              rejectCause := vlr.rejectCause
              base := (own.base.transitionTo .sendReject).fail }, session,
            .respondLast .locationUpdatingReject type .failed "vlr_reject"⟩
      else ⟨own, session, {}⟩
  | _ => ⟨own, session, {}⟩

def tick (own : LocationUpdate) (delta : Int) : LocationUpdate × ProcedureStepResult :=
  let (base, result) := own.base.doTick type delta
  ({ own with base := base }, result)

end LocationUpdate

/-! ## IMSI detach -/

/-- The states of a detach. -/
inductive IMSIDetachState where
  | init
  | sendCMServiceAccept
  | waitDetachComplete
  | completed
  | failed
deriving DecidableEq, Repr

instance : ProcedureStates IMSIDetachState where
  completed := .completed
  failed := .failed
  procState
    | .completed => .completed
    | .failed => .failed
    | _ => .inProgress

/-- A detach has nothing but its state. -/
structure IMSIDetach where
  base : StateMixin IMSIDetachState := { currentState := .init }
deriving DecidableEq, Repr

namespace IMSIDetach

def type : ProcedureType := .imsiDetach

/-- Every mobility management message is one a detach asks for. -/
def Matches (msg : ParsedMessage) : Prop :=
  messagePD msg = .mobilityManagement

instance (msg : ParsedMessage) : Decidable (Matches msg) :=
  inferInstanceAs (Decidable (_ = _))

/-- The state that sends the accept. -/
def sendAccept (own : IMSIDetach) : IMSIDetach × ProcedureStepResult :=
  (⟨(own.base.transitionTo .waitDetachComplete).startTimer .T3112 5000⟩,
    .respond .cmServiceAccept)

/-- The state switch of `feed`; the initial state falls through to the next. -/
def feedState (own : IMSIDetach) (msg : ParsedMessage) : IMSIDetach × ProcedureStepResult :=
  match own.base.currentState with
  | .init =>
      if messagePD msg = .mobilityManagement then
        sendAccept ⟨own.base.transitionTo .sendCMServiceAccept⟩
      else (own, {})
  | .sendCMServiceAccept => own.sendAccept
  | .waitDetachComplete =>
      if messagePD msg = .mobilityManagement then
        (⟨own.base.complete⟩, .finish .completed type .completed "detach_complete")
      else (own, {})
  | .completed | .failed => (own, {})

/-- A step of the state machine, with its terminal result reported. -/
def feed (own : IMSIDetach) (msg : ParsedMessage) (session : Option SessionCore) :
    Fed IMSIDetach :=
  let (own, result) := own.feedState msg
  ⟨own, session, result.reportTerminal type own.base.procState⟩

def tick (own : IMSIDetach) (delta : Int) : IMSIDetach × ProcedureStepResult :=
  let (base, result) := own.base.doTick type delta
  (⟨base⟩, result)

end IMSIDetach

end Stack

end Gsml3
