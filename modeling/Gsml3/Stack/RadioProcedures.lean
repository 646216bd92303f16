import Gsml3.Stack.Procedure

/-!
# Radio resource procedures

Channel assignment, paging and handover.
-/

namespace Gsml3

namespace Stack

/-! ## Channel assignment -/

/-- The states of a channel assignment. -/
inductive ChannelAssignmentState where
  | init
  | allocateChannel
  | sendImmediateAssignment
  | waitSeizure
  | completed
  | failed
deriving DecidableEq, Repr

instance : ProcedureStates ChannelAssignmentState where
  completed := .completed
  failed := .failed
  procState
    | .completed => .completed
    | .failed => .failed
    | _ => .inProgress

/-- A channel assignment and the type of channel it is for. -/
structure ChannelAssignment where
  base : StateMixin ChannelAssignmentState := { currentState := .init }
  targetType : ChannelType
deriving DecidableEq, Repr

/-- Type-and-offset code of an assignment target. -/
def typeAndOffsetFor : ChannelType → UInt8
  | .tchfType | .tchhType | .sacchType => 1
  | .cbchType => 26
  | _ => 8

namespace ChannelAssignment

def type : ProcedureType := .channelAssignment

/-- The messages that a channel assignment asks for. -/
def Matches (msg : ParsedMessage) : Prop :=
  msg.Is .radioResource MTI.channelRequest ∨ msg.Is .radioResource MTI.pagingResponse

instance (msg : ParsedMessage) : Decidable (Matches msg) :=
  inferInstanceAs (Decidable (_ ∨ _))

/-- Remember the reference of a Channel Request. -/
def exposeReference (msg : ParsedMessage) (session : Option SessionCore) :
    Option SessionCore :=
  if messageMTI msg = MTI.channelRequest then
    match msg.channelRequest? with
    | some requestReference =>
        session.map fun s => s.expose fun r =>
          { r with requestRef := requestReference, hasRequestRef := true }
    | none => session
  else session

def feed (own : ChannelAssignment) (msg : ParsedMessage) (session : Option SessionCore) :
    Fed ChannelAssignment :=
  match own.base.currentState with
  | .init =>
      if messagePD msg = .radioResource ∧
          (messageMTI msg = MTI.channelRequest ∨ messageMTI msg = MTI.pagingResponse) then
        ⟨{ own with base := own.base.transitionTo .allocateChannel },
          exposeReference msg session, {}⟩
      else ⟨own, session, {}⟩
  | .allocateChannel =>
      ⟨{ own with
          base := (own.base.transitionTo .sendImmediateAssignment).startTimer .T3101 3000 },
        session.map fun s => s.expose fun r =>
          { r with
            channel :=
              { typeAndOffset := typeAndOffsetFor own.targetType, tn := 0, tsc := 1
                arfcn := 100, initialized := true }
            hasChannel := true },
        .respond .immediateAssignment⟩
  | .sendImmediateAssignment =>
      ⟨{ own with base := own.base.transitionTo .waitSeizure }, session, {}⟩
  | .waitSeizure =>
      ⟨{ own with base := own.base.complete }, session,
        .finish .completed type .completed "channel_seized"⟩
  | .completed | .failed => ⟨own, session, {}⟩

def tick (own : ChannelAssignment) (delta : Int) : ChannelAssignment × ProcedureStepResult :=
  let (base, result) := own.base.doTick type delta
  ({ own with base := base }, result)

end ChannelAssignment

/-! ## Paging -/

/-- The states of a paging. -/
inductive PagingState where
  | init
  | sendPage1
  | waitPage1
  | sendPage2
  | waitPage2
  | sendPage3
  | waitPage3
  | completed
  | failed
deriving DecidableEq, Repr

instance : ProcedureStates PagingState where
  completed := .completed
  failed := .failed
  procState
    | .completed => .completed
    | .failed => .failed
    | _ => .inProgress

/-- A paging: the identity it is for and the attempts it made. -/
structure Paging where
  base : StateMixin PagingState := { currentState := .init }
  identity : L3MobileIdentity
  pageAttempt : UInt8 := 0
deriving DecidableEq, Repr

namespace Paging

def type : ProcedureType := .paging

/-- The messages that a paging asks for. -/
def Matches (msg : ParsedMessage) : Prop :=
  msg.Is .radioResource MTI.pagingResponse

instance (msg : ParsedMessage) : Decidable (Matches msg) :=
  inferInstanceAs (Decidable (msg.Is _ _))

/-- Page once and wait for the response. -/
def page (own : Paging) (wait : PagingState) (attempt : UInt8) (token : ResponseToken)
    (session : Option SessionCore) : Fed Paging :=
  ⟨{ own with
      base := (own.base.startTimer .T3109 5000).transitionTo wait
      pageAttempt := attempt }, session, .respond token⟩

/-- Wait for the response to a page. -/
def awaitResponse (own : Paging) (msg : ParsedMessage) (session : Option SessionCore) :
    Fed Paging :=
  if msg.Is .radioResource MTI.pagingResponse then
    ⟨{ own with base := own.base.complete }, session,
      .finish .completed type .completed "page_response_received"⟩
  else ⟨own, session, {}⟩

def feed (own : Paging) (msg : ParsedMessage) (session : Option SessionCore) : Fed Paging :=
  match own.base.currentState with
  | .sendPage1 => own.page .waitPage1 1 .pagingRequestType1 session
  | .waitPage1 => own.awaitResponse msg session
  | .sendPage2 => own.page .waitPage2 2 .pagingRequestType2 session
  | .waitPage2 => own.awaitResponse msg session
  | .sendPage3 => own.page .waitPage3 3 .pagingRequestType3 session
  | .waitPage3 => own.awaitResponse msg session
  | .init | .completed | .failed => ⟨own, session, {}⟩

def feedExternalTyped (own : Paging) (data : ExternalData) (session : Option SessionCore) :
    Fed Paging :=
  match data with
  | .pagingTrigger trigger =>
      if own.base.currentState = .init then
        ⟨{ own with
            base := (own.base.transitionTo .sendPage1).startTimer .T3109 5000
            pageAttempt := 1 },
          session.map fun s => s.expose fun r =>
            { r with identity := trigger.identity, hasIdentity := true },
          .respond .pagingRequestType1⟩
      else ⟨own, session, {}⟩
  | _ => ⟨own, session, {}⟩

/-- An expired page makes the next one due; the third fails the procedure. -/
def tick (own : Paging) (delta : Int) : Paging × ProcedureStepResult :=
  if own.base.timerRunning = false then (own, {})
  else
    let own := { own with base.timerRemaining := own.base.timerRemaining - delta }
    if own.base.timerRemaining ≤ 0 then
      let own := { own with base := own.base.stopTimer }
      match own.base.currentState with
      | .waitPage1 => ({ own with base := own.base.transitionTo .sendPage2 }, {})
      | .waitPage2 => ({ own with base := own.base.transitionTo .sendPage3 }, {})
      | .waitPage3 =>
          ({ own with base := own.base.fail }, .finish .failed type .failed "no_page_response")
      | _ =>
          if own.base.procState = .failed then
            (own, .finish .failed type .failed "no_page_response")
          else (own, {})
    else (own, {})

end Paging

/-! ## Handover -/

/-- The states of a handover. -/
inductive HandoverState where
  | init
  | sendHoCmd
  | waitHoComplete
  | completed
  | failed
deriving DecidableEq, Repr

instance : ProcedureStates HandoverState where
  completed := .completed
  failed := .failed
  procState
    | .completed => .completed
    | .failed => .failed
    | _ => .inProgress

/-- A handover and the channel it goes to. -/
structure Handover where
  base : StateMixin HandoverState := { currentState := .init }
  targetChannel : L3ChannelDescription
deriving DecidableEq, Repr

namespace Handover

def type : ProcedureType := .handover

/-- The messages that a handover asks for. -/
def Matches (msg : ParsedMessage) : Prop :=
  msg.Is .radioResource MTI.handoverComplete ∨ msg.Is .radioResource MTI.handoverFailure

instance (msg : ParsedMessage) : Decidable (Matches msg) :=
  inferInstanceAs (Decidable (_ ∨ _))

/-- In `sendHoCmd` any message sends the command; complete or failure ends the procedure. -/
def feed (own : Handover) (msg : ParsedMessage) (session : Option SessionCore) :
    Fed Handover :=
  match own.base.currentState with
  | .sendHoCmd =>
      ⟨{ own with base := (own.base.startTimer .T3101 3000).transitionTo .waitHoComplete },
        session, .respond .handoverCommand⟩
  | .waitHoComplete =>
      if msg.Is .radioResource MTI.handoverComplete then
        ⟨{ own with base := own.base.complete }, session,
          .finish .completed type .completed "handover_complete"⟩
      else if msg.Is .radioResource MTI.handoverFailure then
        ⟨{ own with base := own.base.fail }, session,
          .finish .failed type .failed "handover_failed"⟩
      else ⟨own, session, {}⟩
  | .init | .completed | .failed => ⟨own, session, {}⟩

/-- The target starts the procedure from its first state only. -/
def feedExternalTyped (own : Handover) (data : ExternalData) (session : Option SessionCore) :
    Fed Handover :=
  match data with
  | .handoverTarget target =>
      if own.base.currentState = .init then
        ⟨{ own with base := (own.base.transitionTo .sendHoCmd).startTimer .T3101 3000 },
          session.map fun s => s.expose fun r =>
            { r with hoChannel := target.channel, hasHoChannel := true },
          .respond .handoverCommand⟩
      else ⟨own, session, {}⟩
  | _ => ⟨own, session, {}⟩

def tick (own : Handover) (delta : Int) : Handover × ProcedureStepResult :=
  let (base, result) := own.base.doTick type delta
  ({ own with base := base }, result)

end Handover

end Stack

end Gsml3
