import Gsml3.Stack.Message

/-!
# Procedures

The parts every protocol procedure is made of: the result of a step, the
parameters a procedure exposes on its session, and the state and timer handling
the procedures share.  Times are milliseconds; a tick may carry any amount.

Response sinks observe a step and do not take part in it; they are not
modelled.
-/

namespace Gsml3

namespace Stack

/-- The kinds of procedures. -/
inductive ProcedureType where
  | locationUpdate
  | authentication
  | cipheringMode
  | callSetupMO
  | callSetupMT
  | channelAssignment
  | handover
  | paging
  | cmServiceRequest
  | imsiDetach
  | callRelease
  | periodicLocationUpdate
  | unknown
deriving DecidableEq, Repr

/-- Lifecycle state of a procedure. -/
inductive ProcedureState where
  | initiated
  | inProgress
  | waitingExternal
  | completed
  | failed
  | timedOut
deriving DecidableEq, Repr

/-- The states a procedure is released in. -/
def ProcedureState.isTerminal : ProcedureState → Bool
  | .completed | .failed | .timedOut => true
  | .initiated | .inProgress | .waitingExternal => false

/-- The message the caller has to build. -/
inductive ResponseToken where
  | none
  | immediateAssignment
  | assignmentCommand
  | channelRelease
  | cipheringModeCommand
  | physicalInformation
  | handoverCommand
  | pagingRequestType1
  | pagingRequestType2
  | pagingRequestType3
  | cmServiceAccept
  | cmServiceReject
  | identityRequest
  | authenticationRequest
  | locationUpdatingAccept
  | locationUpdatingReject
  | tmsiReallocationCommand
  | callProceeding
  | alerting
  | connect
  | connectAcknowledge
  | disconnect
  | release
  | releaseComplete
  | setup
deriving DecidableEq, Repr

/-- What the caller of a procedure is to do next. -/
inductive StepAction where
  | continue
  | sendResponseWithToken
  | waitingExternal
  | completed
  | failed
deriving DecidableEq, Repr

/-- The terminal result of a procedure. -/
structure ProcedureResult where
  type : ProcedureType := .unknown
  state : ProcedureState := .initiated
  reason : String := ""
deriving DecidableEq, Repr

/-- Result of one step.  The terminal state is reported by `finalResult`
only. -/
structure ProcedureStepResult where
  action : StepAction := .continue
  responseToken : ResponseToken := .none
  finalResult : ProcedureResult := {}
deriving DecidableEq, Repr

/-- A step that sends a response. -/
def ProcedureStepResult.respond (token : ResponseToken) : ProcedureStepResult :=
  { action := .sendResponseWithToken, responseToken := token }

/-- A step that ends the procedure without a response. -/
def ProcedureStepResult.finish (action : StepAction) (type : ProcedureType)
    (state : ProcedureState) (reason : String) : ProcedureStepResult :=
  { action := action, finalResult := ⟨type, state, reason⟩ }

/-- A step that ends the procedure with a response. -/
def ProcedureStepResult.respondLast (token : ResponseToken) (type : ProcedureType)
    (state : ProcedureState) (reason : String) : ProcedureStepResult :=
  { action := .sendResponseWithToken, responseToken := token
    finalResult := ⟨type, state, reason⟩ }

/-- The terminal-state report some procedures append to a step: a terminal
state is reported, and becomes the action when there is no response. -/
def ProcedureStepResult.reportTerminal (result : ProcedureStepResult) (type : ProcedureType)
    (state : ProcedureState) : ProcedureStepResult :=
  let report (action : StepAction) (reason : String) : ProcedureStepResult :=
    { result with
      action := if result.responseToken = .none then action else result.action
      finalResult :=
        if result.finalResult.state = .initiated then ⟨type, state, reason⟩
        else result.finalResult }
  match state with
  | .completed => report .completed "ok"
  | .failed => report .failed "procedure_failed"
  | _ => result

/-! ## Sessions -/

/-- Parameters of the responses to build.  `calledNumber` holds the valid
digits of the source's array. -/
structure ResponseContext where
  rand : Vector UInt8 16 := .replicate 16 0
  hasRand : Bool := false
  ti : UInt8 := 0
  ccCause : CCCause := .normalCallClearing
  calledNumber : List Char := []
  hasCalledNumber : Bool := false
  mmCause : MMRejectCause := .zero
  newTmsi : Option UInt32 := none
  channel : L3ChannelDescription := {}
  hasChannel : Bool := false
  cipherAlgo : UInt8 := 0
  hasCipherAlgo : Bool := false
  requestRef : UInt8 := 0
  hasRequestRef : Bool := false
  identity : L3MobileIdentity := {}
  hasIdentity : Bool := false
  hoChannel : L3ChannelDescription := {}
  hasHoChannel : Bool := false
deriving DecidableEq, Repr

/-- Per-subscriber context. -/
structure MSContext where
  identity : L3MobileIdentity := {}
  channelType : ChannelType := .undefinedCHType
  trxNumber : UInt8 := 0
  timeslot : UInt8 := 0
  arfcn : UInt16 := 0
  ciphered : Bool := false
  lai : Option L3LocationAreaIdentity := none
deriving DecidableEq, Repr

namespace MSContext

/-- Stores the channel of a mobile. -/
def assignChannel (context : MSContext) (type : ChannelType) (trx ts : UInt8)
    (arfcn : UInt16) : MSContext :=
  { context with channelType := type, trxNumber := trx, timeslot := ts, arfcn := arfcn }

/-- Forgets the channel of a mobile. -/
def releaseChannel (context : MSContext) : MSContext :=
  { context with channelType := .undefinedCHType, trxNumber := 0, timeslot := 0, arfcn := 0 }

end MSContext

/-- The states of the radio resource machine. -/
inductive RRState where
  | idle
  | channelRequested
  | channelAssigned
  | linkEstablished
  | waitingMM
  | active
  | cipherMode
  | handover
  | channelRelease
deriving DecidableEq, Repr

/-- The states of the mobility management machine. -/
inductive MMState where
  | deregistered
  | serviceRequest
  | waitingIdentity
  | identityVerified
  | authentication
  | authenticated
  | locationUpdate
  | registered
deriving DecidableEq, Repr

/-- The states of the call control machine. -/
inductive CCState where
  | idle
  | setupReceived
  | proceeding
  | alerting
  | connect
  | active
  | disconnectReceived
  | release
deriving DecidableEq, Repr

/-- What procedures and chains read and write of a session. -/
structure SessionCore where
  context : MSContext := {}
  rrSM : RRState := .idle
  mmSM : MMState := .deregistered
  ccSM : CCState := .idle
  response : ResponseContext := {}
deriving DecidableEq, Repr

/-- Change the response parameters of a session. -/
def SessionCore.expose (session : SessionCore) (change : ResponseContext → ResponseContext) :
    SessionCore :=
  { session with response := change session.response }

/-- Outcome of feeding a procedure: the procedure, the session it was given and
the result of the step. -/
structure Fed (P : Type) where
  proc : P
  session : Option SessionCore
  result : ProcedureStepResult := {}

/-- The same outcome for a procedure that contains the one fed. -/
def Fed.map {P Q : Type} (f : P → Q) (fed : Fed P) : Fed Q :=
  ⟨f fed.proc, fed.session, fed.result⟩

/-! ## Timers -/

/-- Layer 3 timer identifiers. -/
inductive L3TimerId where
  | T3101
  | T3102
  | T3103
  | T3106
  | T3108
  | T3109
  | T3111
  | T3112
  | T3113
  | T3310
  | T3311
  | T3312
  | T3314
  | T3315
  | T3320
  | T3321
  | T3322
  | T3334
  | T3395
  | unknown
deriving DecidableEq, Repr

/-! ## State and timer handling -/

/-- The hooks a procedure class provides: its terminal states and the lifecycle
state each of its states stands for. -/
class ProcedureStates (State : Type) where
  completed : State
  failed : State
  procState : State → ProcedureState

/-- State and timer of a procedure. -/
structure StateMixin (State : Type) where
  currentState : State
  procState : ProcedureState := .initiated
  timerRemaining : Int := 0
  currentTimer : L3TimerId := .unknown
  timerRunning : Bool := false
deriving DecidableEq, Repr

namespace StateMixin

variable {State : Type}

/-- Starts the one timer of the procedure. -/
def startTimer (own : StateMixin State) (id : L3TimerId) (duration : Int) : StateMixin State :=
  { own with currentTimer := id, timerRemaining := duration, timerRunning := true }

/-- Stops the timer and forgets which it was. -/
def stopTimer (own : StateMixin State) : StateMixin State :=
  { own with timerRunning := false, currentTimer := .unknown, timerRemaining := 0 }

@[simp] theorem startTimer_currentState (own : StateMixin State) (id : L3TimerId)
    (duration : Int) : (own.startTimer id duration).currentState = own.currentState := rfl

@[simp] theorem startTimer_procState (own : StateMixin State) (id : L3TimerId)
    (duration : Int) : (own.startTimer id duration).procState = own.procState := rfl

@[simp] theorem startTimer_timerRunning (own : StateMixin State) (id : L3TimerId)
    (duration : Int) : (own.startTimer id duration).timerRunning = true := rfl

@[simp] theorem stopTimer_currentState (own : StateMixin State) :
    own.stopTimer.currentState = own.currentState := rfl

@[simp] theorem stopTimer_timerRunning (own : StateMixin State) :
    own.stopTimer.timerRunning = false := rfl

variable [ProcedureStates State]

/-- Enters a state, with the procedure state that belongs to it. -/
def transitionTo (own : StateMixin State) (s : State) : StateMixin State :=
  { own with currentState := s, procState := ProcedureStates.procState s }

/-- Enters the failed state. -/
def doFail (own : StateMixin State) : StateMixin State :=
  { own with currentState := ProcedureStates.failed, procState := .failed }

/-- Enters the completed state. -/
def doComplete (own : StateMixin State) : StateMixin State :=
  { own with currentState := ProcedureStates.completed, procState := .completed }

/-- Fails with the timer stopped. -/
def fail (own : StateMixin State) : StateMixin State :=
  own.stopTimer.doFail

/-- Completes with the timer stopped. -/
def complete (own : StateMixin State) : StateMixin State :=
  own.stopTimer.doComplete

/-- The tick most procedures share: an expired timer fails the procedure. -/
def doTick (own : StateMixin State) (type : ProcedureType) (delta : Int) :
    StateMixin State × ProcedureStepResult :=
  if own.timerRunning = false then (own, {})
  else
    let own := { own with timerRemaining := own.timerRemaining - delta }
    if own.timerRemaining ≤ 0 then
      let own := own.stopTimer.doFail
      (own, { action := .failed, finalResult := ⟨type, own.procState, "timer_expired"⟩ })
    else (own, {})

/-- A cancel fails the procedure whatever its state. -/
def doCancel (own : StateMixin State) : StateMixin State :=
  own.stopTimer.doFail

@[simp] theorem transitionTo_currentState (own : StateMixin State) (s : State) :
    (own.transitionTo s).currentState = s := rfl

@[simp] theorem transitionTo_procState (own : StateMixin State) (s : State) :
    (own.transitionTo s).procState = ProcedureStates.procState s := rfl

@[simp] theorem transitionTo_timerRunning (own : StateMixin State) (s : State) :
    (own.transitionTo s).timerRunning = own.timerRunning := rfl

@[simp] theorem fail_currentState (own : StateMixin State) :
    own.fail.currentState = ProcedureStates.failed := rfl

@[simp] theorem fail_procState (own : StateMixin State) : own.fail.procState = .failed := rfl

@[simp] theorem complete_currentState (own : StateMixin State) :
    own.complete.currentState = ProcedureStates.completed := rfl

@[simp] theorem complete_procState (own : StateMixin State) :
    own.complete.procState = .completed := rfl

end StateMixin

/-! The tick shared by the procedures, by what the timer does. -/

section Tick

variable {State : Type} [ProcedureStates State] {own : StateMixin State}

theorem doTick_stopped (stopped : own.timerRunning = false) (type : ProcedureType) (delta : Int) :
    own.doTick type delta = (own, {}) := by
  rw [StateMixin.doTick, if_pos stopped]

theorem doTick_running (running : own.timerRunning = true) (type : ProcedureType) (delta : Int) :
    ((own.doTick type delta).2.action = .failed ↔ own.timerRemaining - delta ≤ 0) ∧
      (0 < own.timerRemaining - delta →
        (own.doTick type delta).1 = { own with timerRemaining := own.timerRemaining - delta }) := by
  rw [StateMixin.doTick, if_neg (by rw [running]; nofun)]
  simp only
  split
  case isTrue expired => exact ⟨iff_of_true rfl expired, fun left => absurd left expired.not_gt⟩
  case isFalse left => exact ⟨iff_of_false nofun left, fun _ => rfl⟩

theorem doTick_expired (running : own.timerRunning = true) {type : ProcedureType} {delta : Int}
    (expired : own.timerRemaining - delta ≤ 0) :
    (own.doTick type delta).1.procState = .failed := by
  rw [StateMixin.doTick, if_neg (by rw [running]; nofun)]
  simp only [expired, ↓reduceIte]
  rfl

/-- The tick of most procedures leaves the state or fails the procedure. -/
theorem doTick_state (own : StateMixin State) (type : ProcedureType) (delta : Int) :
    (own.doTick type delta).1.currentState = own.currentState ∨
      (own.doTick type delta).1.currentState = ProcedureStates.failed := by
  rw [StateMixin.doTick]
  split
  · exact .inl rfl
  · simp only
    split
    · exact .inr rfl
    · exact .inl rfl

/-- A tick that does not fail a procedure leaves its state. -/
theorem doTick_alive {type : ProcedureType} {delta : Int}
    (alive : (own.doTick type delta).2.action ≠ .failed) :
    (own.doTick type delta).1.currentState = own.currentState := by
  rw [StateMixin.doTick] at alive ⊢
  split at alive
  case isTrue stopped => rw [if_pos stopped]
  case isFalse running =>
    rw [if_neg running]
    simp only at alive ⊢
    split at alive
    case isTrue => exact absurd rfl alive
    case isFalse left => rw [if_neg left]

end Tick

end Stack

end Gsml3
