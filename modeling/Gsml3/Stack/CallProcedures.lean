import Gsml3.Stack.Procedure

/-!
# Call control procedures

Mobile originated and mobile terminated call setup, and call release.
-/

namespace Gsml3

namespace Stack

/-! ## Mobile originated call setup -/

/-- The states of a call that a mobile starts. -/
inductive CallSetupMOState where
  | init
  | serviceAccept
  | waitSetup
  | proceeding
  | assignTCH
  | waitAssignComplete
  | alerting
  | connect
  | active
  | completed
  | failed
deriving DecidableEq, Repr

instance : ProcedureStates CallSetupMOState where
  completed := .completed
  failed := .failed
  procState
    | .completed => .completed
    | .failed => .failed
    | _ => .inProgress

/-- A call that a mobile starts, and its transaction. -/
structure CallSetupMO where
  base : StateMixin CallSetupMOState := { currentState := .init }
  ti : UInt8 := 0
deriving DecidableEq, Repr

namespace CallSetupMO

def type : ProcedureType := .callSetupMO

/-- The messages that a call from a mobile asks for. -/
def Matches (msg : ParsedMessage) : Prop :=
  msg.Is .mobilityManagement MTI.cmServiceRequest ∨ msg.Is .callControl MTI.setup ∨
    msg.Is .callControl MTI.connectAcknowledge ∨ msg.Is .radioResource MTI.assignmentComplete

instance (msg : ParsedMessage) : Decidable (Matches msg) :=
  inferInstanceAs (Decidable (_ ∨ _))

/-- Take over the transaction of a Setup and answer it. -/
def proceed (own : CallSetupMO) (msg : ParsedMessage) (session : Option SessionCore) :
    Fed CallSetupMO :=
  let base := (own.base.startTimer .T3101 3000).transitionTo .proceeding
  match msg.setup? with
  | some ti =>
      ⟨⟨base, ti⟩,
        session.map fun s => s.expose fun r =>
          { r with ti := ti, ccCause := .normalCallClearing },
        .respond .callProceeding⟩
  | none => ⟨{ own with base := base }, session, .respond .callProceeding⟩

/-- A state that waits takes the message it waits for; the others respond to any message. -/
def feed (own : CallSetupMO) (msg : ParsedMessage) (session : Option SessionCore) :
    Fed CallSetupMO :=
  let step (s : CallSetupMOState) (result : ProcedureStepResult) : Fed CallSetupMO :=
    ⟨{ own with base := own.base.transitionTo s }, session, result⟩
  match own.base.currentState with
  | .init =>
      if msg.Is .mobilityManagement MTI.cmServiceRequest then
        step .serviceAccept (.respond .cmServiceAccept)
      else if msg.Is .callControl MTI.setup then own.proceed msg session
      else ⟨own, session, {}⟩
  | .serviceAccept => step .waitSetup {}
  | .waitSetup =>
      if msg.Is .callControl MTI.setup then own.proceed msg session
      else ⟨own, session, {}⟩
  | .proceeding =>
      ⟨{ own with base := (own.base.transitionTo .assignTCH).startTimer .T3101 3000 }, session,
        .respond .assignmentCommand⟩
  | .assignTCH => step .waitAssignComplete {}
  | .waitAssignComplete =>
      if msg.Is .radioResource MTI.assignmentComplete then step .alerting (.respond .alerting)
      else ⟨own, session, {}⟩
  | .alerting => step .connect (.respond .connect)
  | .connect => step .active (.respond .connectAcknowledge)
  | .active =>
      if msg.Is .callControl MTI.connectAcknowledge then
        ⟨{ own with base := own.base.complete }, session,
          .finish .completed type .completed "call_active"⟩
      else ⟨own, session, {}⟩
  | .completed | .failed => ⟨own, session, {}⟩

def tick (own : CallSetupMO) (delta : Int) : CallSetupMO × ProcedureStepResult :=
  let (base, result) := own.base.doTick type delta
  ({ own with base := base }, result)

end CallSetupMO

/-! ## Mobile terminated call setup -/

/-- The states of a call to a mobile. -/
inductive CallSetupMTState where
  | init
  | page
  | waitPageResponse
  | assignSDCCH
  | sendSetup
  | waitConfirmed
  | assignTCH
  | waitAssignComplete
  | alerting
  | connect
  | active
  | completed
  | failed
deriving DecidableEq, Repr

instance : ProcedureStates CallSetupMTState where
  completed := .completed
  failed := .failed
  procState
    | .completed => .completed
    | .failed => .failed
    | _ => .inProgress

/-- A call to a mobile: the number, the transaction and the pages sent. -/
structure CallSetupMT where
  base : StateMixin CallSetupMTState := { currentState := .init }
  calledNumber : List Char
  ti : UInt8 := 0
  pageAttempt : UInt8 := 0
deriving DecidableEq, Repr

namespace CallSetupMT

def type : ProcedureType := .callSetupMT

/-- The pages that are sent before the call fails. -/
def maxPageAttempts : UInt8 := 3

/-- The messages that a call to a mobile asks for. -/
def Matches (msg : ParsedMessage) : Prop :=
  msg.Is .radioResource MTI.pagingResponse ∨ msg.Is .radioResource MTI.assignmentComplete ∨
    msg.Is .callControl MTI.callConfirmed ∨ msg.Is .callControl MTI.connectAcknowledge

instance (msg : ParsedMessage) : Decidable (Matches msg) :=
  inferInstanceAs (Decidable (_ ∨ _))

/-- Expose the dialled number, which is cut to nineteen digits. -/
def exposeNumber (own : CallSetupMT) (session : Option SessionCore) : Option SessionCore :=
  if own.calledNumber = [] then session
  else
    session.map fun s => s.expose fun r =>
      { r with ti := own.ti, calledNumber := own.calledNumber.take 19, hasCalledNumber := true }

/-- A state that waits takes the message it waits for; the others respond to any message. -/
def feed (own : CallSetupMT) (msg : ParsedMessage) (session : Option SessionCore) :
    Fed CallSetupMT :=
  let step (s : CallSetupMTState) (result : ProcedureStepResult) : Fed CallSetupMT :=
    ⟨{ own with base := own.base.transitionTo s }, session, result⟩
  match own.base.currentState with
  | .page =>
      ⟨{ own with base := (own.base.startTimer .T3109 5000).transitionTo .waitPageResponse },
        session, .respond .pagingRequestType1⟩
  | .waitPageResponse =>
      if msg.Is .radioResource MTI.pagingResponse then
        ⟨{ own with base := own.base.stopTimer.transitionTo .assignSDCCH }, session,
          .respond .immediateAssignment⟩
      else ⟨own, session, {}⟩
  | .assignSDCCH =>
      ⟨{ own with base := own.base.transitionTo .sendSetup }, own.exposeNumber session,
        .respond .setup⟩
  | .sendSetup =>
      ⟨{ own with base := (own.base.startTimer .T3101 3000).transitionTo .waitConfirmed },
        own.exposeNumber session, .respond .setup⟩
  | .waitConfirmed =>
      if msg.Is .callControl MTI.callConfirmed then
        ⟨{ own with base := own.base.stopTimer.transitionTo .assignTCH }, session, {}⟩
      else ⟨own, session, {}⟩
  | .assignTCH =>
      ⟨{ own with base := (own.base.startTimer .T3101 3000).transitionTo .waitAssignComplete },
        session, .respond .assignmentCommand⟩
  | .waitAssignComplete =>
      if msg.Is .radioResource MTI.assignmentComplete then
        ⟨{ own with base := own.base.stopTimer.transitionTo .alerting }, session,
          .respond .alerting⟩
      else ⟨own, session, {}⟩
  | .alerting => step .connect (.respond .connect)
  | .connect => step .active (.respond .connectAcknowledge)
  | .active =>
      if msg.Is .callControl MTI.connectAcknowledge then
        ⟨{ own with base := own.base.complete }, session,
          .finish .completed type .completed "call_active"⟩
      else ⟨own, session, {}⟩
  | .init | .completed | .failed => ⟨own, session, {}⟩

/-- Any external data starts the page. -/
def feedExternalTyped (own : CallSetupMT) (_ : ExternalData) (session : Option SessionCore) :
    Fed CallSetupMT :=
  if own.base.currentState = .init then
    ⟨{ own with
        base := (own.base.transitionTo .page).startTimer .T3109 5000
        pageAttempt := 1 },
      session.map fun s => s.expose fun r =>
        { r with identity := s.context.identity, hasIdentity := true },
      .respond .pagingRequestType1⟩
  else ⟨own, session, {}⟩

/-- An expired page is repeated; any other expired timer fails the setup. -/
def tick (own : CallSetupMT) (delta : Int) : CallSetupMT × ProcedureStepResult :=
  if own.base.timerRunning = false then (own, {})
  else
    let own := { own with base.timerRemaining := own.base.timerRemaining - delta }
    if own.base.timerRemaining ≤ 0 then
      let own := { own with base := own.base.stopTimer }
      if own.base.currentState = .waitPageResponse ∧ own.pageAttempt < maxPageAttempts then
        ({ own with
            pageAttempt := own.pageAttempt + 1
            base := own.base.startTimer .T3109 5000 }, {})
      else
        ({ own with base := own.base.fail }, .finish .failed type .failed "timer_expired")
    else (own, {})

end CallSetupMT

/-! ## Call release -/

/-- The states of a call release. -/
inductive CallReleaseState where
  | init
  | sendDisconnect
  | waitRelease
  | sendReleaseComplete
  | completed
  | failed
deriving DecidableEq, Repr

instance : ProcedureStates CallReleaseState where
  completed := .completed
  failed := .failed
  procState
    | .completed => .completed
    | .failed => .failed
    | _ => .inProgress

/-- A call release, with the transaction and the cause it was created with. -/
structure CallRelease where
  base : StateMixin CallReleaseState := { currentState := .init }
  ti : UInt8
  cause : CCCause
deriving DecidableEq, Repr

namespace CallRelease

def type : ProcedureType := .callRelease

/-- The messages that a call release asks for. -/
def Matches (msg : ParsedMessage) : Prop :=
  msg.Is .callControl MTI.disconnect ∨ msg.Is .callControl MTI.release

instance (msg : ParsedMessage) : Decidable (Matches msg) :=
  inferInstanceAs (Decidable (_ ∨ _))

/-- The state that sends the Disconnect. -/
def sendDisconnect (own : CallRelease) : CallRelease × ProcedureStepResult :=
  ({ own with base := (own.base.transitionTo .waitRelease).startTimer .T3101 12000 },
    .respond .disconnect)

/-- The state that sends the Release Complete. -/
def sendReleaseComplete (own : CallRelease) : CallRelease × ProcedureStepResult :=
  ({ own with base := own.base.complete },
    .respondLast .releaseComplete type .completed "release_complete_sent")

/-- The state switch of `feed`; the initial state falls through to the next. -/
def feedState (own : CallRelease) (msg : ParsedMessage) : CallRelease × ProcedureStepResult :=
  match own.base.currentState with
  | .init =>
      if messagePD msg = .callControl then
        sendDisconnect { own with base := own.base.transitionTo .sendDisconnect }
      else (own, {})
  | .sendDisconnect => own.sendDisconnect
  | .waitRelease =>
      if msg.Is .callControl MTI.release then own.sendReleaseComplete else (own, {})
  | .sendReleaseComplete => own.sendReleaseComplete
  | .completed | .failed => (own, {})

/-- The parameters of the release are exposed before its state machine takes the message. -/
def feed (own : CallRelease) (msg : ParsedMessage) (session : Option SessionCore) :
    Fed CallRelease :=
  let session := session.map fun s =>
    s.expose fun r => { r with ti := own.ti, ccCause := own.cause }
  let (own, result) := own.feedState msg
  ⟨own, session, result.reportTerminal type own.base.procState⟩

def tick (own : CallRelease) (delta : Int) : CallRelease × ProcedureStepResult :=
  let (base, result) := own.base.doTick type delta
  ({ own with base := base }, result)

end CallRelease

end Stack

end Gsml3
