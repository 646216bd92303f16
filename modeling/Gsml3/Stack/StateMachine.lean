import Gsml3.Foundation.Ladder
import Gsml3.Foundation.Machine
import Gsml3.Stack.Procedure

/-!
# Protocol state machines

The state machines of radio resources, mobility management and call control.  On a message or
the expiry of a timer each answers with an action, and moves if the action asks for it.
-/

namespace Gsml3

namespace Stack

/-- What a transition asks for. -/
inductive SMAction where
  | none
  | transition
  | sendResponse
  | reject
  | releaseChannel
  | pushSubstate
  | popSubstate
deriving DecidableEq, Repr

/-- The action of a handler and the state it leads to. -/
structure SMResult (State : Type) where
  action : SMAction := .none
  nextState : Option State := none
deriving DecidableEq, Repr

namespace SMResult

variable {State : Type}

/-- Whether the result changes the state. -/
def causesTransition (result : SMResult State) : Bool :=
  result.action = .transition ∨ result.action = .sendResponse

/-- `{SMAction::Transition, state}`. -/
def transition (state : State) : SMResult State :=
  { action := .transition, nextState := some state }

/-- `{SMAction::SendResponse, state}`. -/
def sendResponse (state : State) : SMResult State :=
  { action := .sendResponse, nextState := some state }

/-- The state of a machine that got this result. -/
def after (result : SMResult State) (state : State) : State :=
  if result.causesTransition then result.nextState.getD state else state

end SMResult

/-- A message, or the expiry of a timer. -/
inductive SMEvent where
  | message (msg : ParsedMessage)
  | timer (timerId : L3TimerId)
deriving DecidableEq, Repr

/-- The handlers of a state machine. -/
structure ProtocolStateMachine (State : Type) where
  handleMessage : State → ParsedMessage → SMResult State
  handleTimer : State → L3TimerId → SMResult State

namespace ProtocolStateMachine

variable {State : Type} (handlers : ProtocolStateMachine State)

/-- `processMessage` and `processTimer`: the new state, and the result. -/
def process (state : State) (event : SMEvent) : State × SMResult State :=
  let result :=
    match event with
    | .message msg => handlers.handleMessage state msg
    | .timer timerId => handlers.handleTimer state timerId
  (result.after state, result)

/-- The handlers as a machine over events. -/
def machine : Foundation.Machine State SMEvent where
  step state event := some (handlers.process state event).1

end ProtocolStateMachine

namespace MTI

def channelRelease : Int := 0x0d
def measurementReport : Int := 0x15
def handoverCommand : Int := 0x2b
def cmServiceAccept : Int := 0x21
def locationUpdatingRequest : Int := 0x08
def alerting : Int := 0x01
def connect : Int := 0x07

end MTI

/-! ## Radio resources -/

namespace RRStateMachine

/-- A message of another domain. -/
def handleOther (state : RRState) (pd : L3PD) (mti : Int) : SMResult RRState :=
  match state with
  | .linkEstablished => if pd = .mobilityManagement then .transition .waitingMM else {}
  | .waitingMM =>
      if pd = .mobilityManagement ∧ mti = MTI.cmServiceAccept then .transition .active
      else if pd = .mobilityManagement ∧ mti = MTI.cmServiceRequest then .sendResponse .active
      else {}
  | .active => if pd = .callControl ∧ mti = MTI.setup then .sendResponse .active else {}
  | _ => {}

/-- A message of radio resources; the guards of other domains never hold here. -/
def handleOwn (state : RRState) (pd : L3PD) (mti : Int) : SMResult RRState :=
  match state with
  | .idle => if mti = MTI.channelRequest then .sendResponse .channelRequested else {}
  | .channelAssigned => if mti = MTI.pagingResponse then .transition .waitingMM else {}
  | .linkEstablished => if pd = .mobilityManagement then .transition .waitingMM else {}
  | .waitingMM =>
      if pd = .mobilityManagement ∧ mti = MTI.cmServiceAccept then .transition .active
      else if pd = .mobilityManagement ∧ mti = MTI.cmServiceRequest then .sendResponse .active
      else {}
  | .active =>
      if mti = MTI.cipheringModeComplete then {}
      else if mti = MTI.channelRelease then .sendResponse .channelRelease
      else if mti = MTI.measurementReport then {}
      else if mti = MTI.handoverCommand then .transition .handover
      else {}
  | .cipherMode => if mti = MTI.cipheringModeComplete then .transition .active else {}
  | .channelRelease => { action := .releaseChannel }
  | .channelRequested | .handover => {}

/-- A message of another protocol is looked at too. -/
def handleMessage (state : RRState) (msg : ParsedMessage) : SMResult RRState :=
  if messagePD msg ≠ .radioResource then handleOther state (messagePD msg) (messageMTI msg)
  else handleOwn state (messagePD msg) (messageMTI msg)

/-- T3109 releases the channel of a state that waits. -/
def handleTimer (state : RRState) (timerId : L3TimerId) : SMResult RRState :=
  if timerId = .T3109 ∧ (state = .channelAssigned ∨ state = .waitingMM) then
    .transition .channelRelease
  else {}

/-- The handlers of the radio resource machine. -/
def handlers : ProtocolStateMachine RRState where
  handleMessage := handleMessage
  handleTimer := handleTimer

end RRStateMachine

/-! ## Mobility management -/

namespace MMStateMachine

/-- A message of mobility management. -/
def handleOwn (state : MMState) (mti : Int) : SMResult MMState :=
  match state with
  | .deregistered => if mti = MTI.cmServiceRequest then .sendResponse .waitingIdentity else {}
  | .serviceRequest => if mti = MTI.identityResponse then .sendResponse .identityVerified else {}
  | .waitingIdentity => if mti = MTI.identityResponse then .sendResponse .identityVerified else {}
  | .identityVerified =>
      if mti = MTI.authenticationResponse then .sendResponse .authenticated else {}
  | .authentication =>
      if mti = MTI.authenticationResponse then .sendResponse .authenticated else {}
  | .authenticated =>
      if mti = MTI.locationUpdatingRequest then .transition .locationUpdate else {}
  | .locationUpdate => if mti = MTI.cmServiceAccept then .sendResponse .registered else {}
  | .registered => {}

/-- A message of another protocol has no effect. -/
def handleMessage (state : MMState) (msg : ParsedMessage) : SMResult MMState :=
  if messagePD msg ≠ .mobilityManagement then {} else handleOwn state (messageMTI msg)

/-- A timer of the service, the identity or the authentication deregisters the subscriber. -/
def handleTimer (state : MMState) (timerId : L3TimerId) : SMResult MMState :=
  if (timerId = .T3101 ∨ timerId = .T3102) ∧
      (state = .serviceRequest ∨ state = .waitingIdentity) then
    .transition .deregistered
  else if timerId = .T3106 ∧ state = .authentication then .transition .deregistered
  else {}

/-- The handlers of the mobility management machine. -/
def handlers : ProtocolStateMachine MMState where
  handleMessage := handleMessage
  handleTimer := handleTimer

end MMStateMachine

/-! ## Call control -/

namespace CCStateMachine

/-- A message of call control. -/
def handleOwn (state : CCState) (mti : Int) : SMResult CCState :=
  match state with
  | .idle => if mti = MTI.setup then .transition .setupReceived else {}
  | .setupReceived => .sendResponse .proceeding
  | .proceeding => if mti = MTI.alerting then .sendResponse .alerting else {}
  | .alerting => if mti = MTI.connect then .sendResponse .connect else {}
  | .connect => if mti = MTI.callConfirmed then .transition .active else {}
  | .active =>
      if mti = MTI.disconnect then .sendResponse .disconnectReceived
      else if mti = MTI.connectAcknowledge then .transition .active
      else {}
  | .disconnectReceived => .sendResponse .release
  | .release => if mti = MTI.release then .sendResponse .idle else {}

/-- A message of another protocol has no effect. -/
def handleMessage (state : CCState) (msg : ParsedMessage) : SMResult CCState :=
  if messagePD msg ≠ .callControl then {} else handleOwn state (messageMTI msg)

/-- T3101 ends a call that is being set up. -/
def handleTimer (state : CCState) (timerId : L3TimerId) : SMResult CCState :=
  if timerId = .T3101 ∧ (state = .setupReceived ∨ state = .proceeding ∨ state = .alerting) then
    .transition .idle
  else {}

/-- The handlers of the call control machine. -/
def handlers : ProtocolStateMachine CCState where
  handleMessage := handleMessage
  handleTimer := handleTimer

end CCStateMachine

/-! ## What the machines need to advance -/

namespace RRStateMachine

/-- By itself the machine gets no further than a requested channel: only `setState` assigns one. -/
theorem run_idle {state : RRState} {events : List SMEvent}
    (run : handlers.machine.Run (fun _ _ _ => True) .idle events state) :
    state = .idle ∨ state = .channelRequested := by
  apply run.invariant (fun _ state => state = .idle ∨ state = .channelRequested) (.inl rfl)
  intro past source target event before stepped _
  obtain rfl := Option.some.inj stepped
  cases event with
  | message msg =>
      have moved : (handlers.process source (.message msg)).1 =
          (handleMessage source msg).after source :=
        rfl
      rw [moved, handleMessage]
      rcases before with rfl | rfl
      · split
        · exact .inl rfl
        · rw [handleOwn]
          split
          · exact .inr rfl
          · exact .inl rfl
      · split
        · exact .inr rfl
        · exact .inr rfl
  | timer timerId =>
      have unchanged : handleTimer source timerId = {} := by
        rw [handleTimer]
        rcases before with rfl | rfl
        · exact if_neg fun guard => by simpa using guard.2
        · exact if_neg fun guard => by simpa using guard.2
      have moved : (handlers.process source (.timer timerId)).1 =
          (handleTimer source timerId).after source :=
        rfl
      rw [moved, unchanged]
      exact before

end RRStateMachine

namespace ProtocolStateMachine

/-- A message of this domain and type. -/
def isMessage (pd : L3PD) (mti : Int) : SMEvent → Bool
  | .message msg => msg.Is pd mti
  | .timer _ => false

/-- A message of this domain. -/
def isOfDomain (pd : L3PD) : SMEvent → Bool
  | .message msg => messagePD msg = pd
  | .timer _ => false

theorem isMessage_own {pd : L3PD} {msg : ParsedMessage} (domain : messagePD msg = pd) (mti : Int) :
    isMessage pd mti (.message msg) = decide (messageMTI msg = mti) := by
  simp only [isMessage, ParsedMessage.Is, domain, true_and]

theorem isMessage_other {pd : L3PD} {msg : ParsedMessage} (domain : messagePD msg ≠ pd)
    (mti : Int) : isMessage pd mti (.message msg) = false :=
  decide_eq_false fun same => domain same.1

end ProtocolStateMachine

open Foundation (Ladder)
open ProtocolStateMachine

/-- On a message a ladder with falls on timers climbs or stays. -/
theorem step_message {ladder : Ladder SMEvent} {msg : ParsedMessage}
    (silent : ladder.falls (.message msg) = false) (level : Nat) :
    ladder.step level (.message msg) =
      if ladder.rungs[level]?.any (· (.message msg)) then level + 1 else level := by
  rw [Ladder.step, silent]
  split
  · rfl
  · exact if_neg fun falls => Bool.false_ne_true falls.2

namespace MMStateMachine

/-- The rungs of a registration; the timers withdraw the request of a service. -/
def ladder : Ladder SMEvent where
  rungs :=
    [isMessage .mobilityManagement MTI.cmServiceRequest,
      isMessage .mobilityManagement MTI.identityResponse,
      isMessage .mobilityManagement MTI.authenticationResponse,
      isMessage .mobilityManagement MTI.locationUpdatingRequest,
      isMessage .mobilityManagement MTI.cmServiceAccept]
  checkpoint := 2
  falls event := event = .timer .T3101 ∨ event = .timer .T3102

/-- The states that the machine reaches by itself. -/
def stateAt : Nat → MMState
  | 0 => .deregistered
  | 1 => .waitingIdentity
  | 2 => .identityVerified
  | 3 => .authenticated
  | 4 => .locationUpdate
  | _ => .registered

theorem exclusive : ladder.Exclusive := by
  intro rung listed event matched
  cases event with
  | message msg => rfl
  | timer timerId =>
      simp only [ladder, List.mem_cons, List.not_mem_nil, or_false] at listed
      rcases listed with rfl | rfl | rfl | rfl | rfl <;> cases matched

/-- The machine climbs the ladder. -/
theorem process_ladder {level : Nat} (bounded : level ≤ 5) (event : SMEvent) :
    (handlers.process (stateAt level) event).1 = stateAt (ladder.step level event) := by
  cases event with
  | timer timerId => interval_cases level <;> cases timerId <;> rfl
  | message msg =>
      rw [step_message rfl]
      change (handleMessage (stateAt level) msg).after (stateAt level) = _
      rw [handleMessage]
      by_cases domain : messagePD msg = .mobilityManagement
      · rw [if_neg (not_not.mpr domain)]
        interval_cases level <;>
          simp only [ladder, stateAt, handleOwn, List.getElem?_cons_zero, List.getElem?_cons_succ,
            List.getElem?_nil, Option.any_some, Option.any_none, isMessage_own domain,
            decide_eq_true_eq, Bool.false_eq_true, if_false] <;>
          (try split) <;> rfl
      · rw [if_pos domain]
        interval_cases level <;>
          simp only [ladder, List.getElem?_cons_zero, List.getElem?_cons_succ, List.getElem?_nil,
            Option.any_some, Option.any_none, isMessage_other domain, Bool.false_eq_true,
            if_false] <;>
          rfl

theorem run_ladder {state : MMState} {events : List SMEvent}
    (run : handlers.machine.Run (fun _ _ _ => True) .deregistered events state) :
    state = stateAt (ladder.level 0 events) := by
  apply run.invariant (fun events state => state = stateAt (ladder.level 0 events)) rfl
  intro past source target event before stepped _
  obtain rfl := Option.some.inj stepped
  rw [Ladder.level_snoc, before]
  exact process_ladder (ladder.level_le past) event

/-- In every run from the start, however messages and timers are mixed, the machine is registered
exactly if a service request and an identity response came in this order with neither T3101 nor
T3102 expiring around them, and behind them an authentication response, a location updating
request and a service acceptance in this order. -/
theorem registered_iff {state : MMState} {events : List SMEvent}
    (run : handlers.machine.Run (fun _ _ _ => True) .deregistered events state) :
    state = .registered ↔
      ∃ before window after, events = before ++ window ++ after ∧
        (∀ event ∈ window, event ≠ .timer .T3101 ∧ event ≠ .timer .T3102) ∧
        Ladder.Occurs
          [isMessage .mobilityManagement MTI.cmServiceRequest,
            isMessage .mobilityManagement MTI.identityResponse] window ∧
        Ladder.Occurs
          [isMessage .mobilityManagement MTI.authenticationResponse,
            isMessage .mobilityManagement MTI.locationUpdatingRequest,
            isMessage .mobilityManagement MTI.cmServiceAccept] after := by
  have top : state = .registered ↔ 5 ≤ ladder.level 0 events := by
    rw [run_ladder run]
    have bounded : ladder.level 0 events ≤ 5 := ladder.level_le events
    generalize ladder.level 0 events = level at bounded ⊢
    interval_cases level <;> decide
  have quiet : ∀ event : SMEvent, ladder.falls event = false ↔
      event ≠ .timer .T3101 ∧ event ≠ .timer .T3102 := by
    intro event
    rw [← not_or]
    exact decide_eq_false_iff_not
  rw [top, Ladder.le_level_iff exclusive (show 5 ≤ ladder.rungs.length from le_rfl) (by decide)]
  simp only [quiet]
  rfl

/-- The registration of a subscriber whose first request was withdrawn. -/
theorem registered_iff_retried :
    ∃ before window after,
      ([.message (.cmServiceRequest .locationUpdateRequest), .timer .T3101,
        .message (.cmServiceRequest .locationUpdateRequest),
        .message (.other .mobilityManagement MTI.identityResponse 0),
        .message (.authenticationResponse 0),
        .message (.other .mobilityManagement MTI.locationUpdatingRequest 0),
        .message (.other .mobilityManagement MTI.cmServiceAccept 0)] : List SMEvent) =
          before ++ window ++ after ∧
        Ladder.Occurs
          [isMessage .mobilityManagement MTI.cmServiceRequest,
            isMessage .mobilityManagement MTI.identityResponse] window := by
  have run : handlers.machine.Run (fun _ _ _ => True) .deregistered
      [.message (.cmServiceRequest .locationUpdateRequest), .timer .T3101,
        .message (.cmServiceRequest .locationUpdateRequest),
        .message (.other .mobilityManagement MTI.identityResponse 0),
        .message (.authenticationResponse 0),
        .message (.other .mobilityManagement MTI.locationUpdatingRequest 0),
        .message (.other .mobilityManagement MTI.cmServiceAccept 0)] .registered :=
    .next (.next (.next (.next (.next (.next (.next .origin rfl trivial) rfl trivial) rfl trivial)
      rfl trivial) rfl trivial) rfl trivial) rfl trivial
  obtain ⟨before, window, after, parts, -, requested, -⟩ := (registered_iff run).mp rfl
  exact ⟨before, window, after, parts, requested⟩

end MMStateMachine

namespace CCStateMachine

/-- The rungs of a call; its timer ends a call that is not connected. -/
def ladder : Ladder SMEvent where
  rungs :=
    [isMessage .callControl MTI.setup, isOfDomain .callControl,
      isMessage .callControl MTI.alerting, isMessage .callControl MTI.connect,
      isMessage .callControl MTI.callConfirmed]
  checkpoint := 4
  falls event := event = .timer .T3101

/-- The states of the machine on the way to its first active call. -/
def stateAt : Nat → CCState
  | 0 => .idle
  | 1 => .setupReceived
  | 2 => .proceeding
  | 3 => .alerting
  | 4 => .connect
  | _ => .active

theorem exclusive : ladder.Exclusive := by
  intro rung listed event matched
  cases event with
  | message msg => rfl
  | timer timerId =>
      simp only [ladder, List.mem_cons, List.not_mem_nil, or_false] at listed
      rcases listed with rfl | rfl | rfl | rfl | rfl <;> cases matched

/-- The machine climbs the ladder to its top. -/
theorem process_ladder {level : Nat} (bounded : level < 5) (event : SMEvent) :
    (handlers.process (stateAt level) event).1 = stateAt (ladder.step level event) := by
  cases event with
  | timer timerId => interval_cases level <;> cases timerId <;> rfl
  | message msg =>
      rw [step_message rfl]
      change (handleMessage (stateAt level) msg).after (stateAt level) = _
      rw [handleMessage]
      by_cases domain : messagePD msg = .callControl
      · rw [if_neg (not_not.mpr domain)]
        have any : isOfDomain .callControl (.message msg) = true := decide_eq_true domain
        interval_cases level <;>
          simp only [ladder, stateAt, handleOwn, List.getElem?_cons_zero, List.getElem?_cons_succ,
            Option.any_some, isMessage_own domain, any, decide_eq_true_eq, if_true] <;>
          (try split) <;> rfl
      · rw [if_pos domain]
        have none : isOfDomain .callControl (.message msg) = false := decide_eq_false domain
        interval_cases level <;>
          simp only [ladder, List.getElem?_cons_zero, List.getElem?_cons_succ, Option.any_some,
            isMessage_other domain, none, Bool.false_eq_true, if_false] <;>
          rfl

/-- The machine was active after some of the events. -/
def WasActive (events : List SMEvent) : Prop :=
  ∃ before after, events = before ++ after ∧
    handlers.machine.Run (fun _ _ _ => True) .idle before .active

/-- The ladder is at its top once the machine was active, and at its state before. -/
theorem run_ladder {state : CCState} {events : List SMEvent}
    (run : handlers.machine.Run (fun _ _ _ => True) .idle events state) :
    ladder.level 0 events = 5 ∧ WasActive events ∨
      ladder.level 0 events < 5 ∧ ¬ WasActive events ∧ state = stateAt (ladder.level 0 events) := by
  induction run with
  | origin =>
      refine .inr ⟨by decide, ?_, rfl⟩
      intro ⟨before, after, parts, active⟩
      obtain ⟨rfl, -⟩ := List.append_eq_nil_iff.mp parts.symm
      cases active.unique (.origin : handlers.machine.Run (fun _ _ _ => True) .idle [] .idle)
  | @next past source target event before stepped permitted ih =>
      obtain rfl := Option.some.inj stepped
      rw [Ladder.level_snoc]
      rcases ih with ⟨top, first, last, parts, active⟩ | ⟨below, never, at_level⟩
      · refine .inl ⟨?_, first, last ++ [event], by rw [parts, List.append_assoc], active⟩
        have stays : 5 ≤ ladder.step 5 event := Ladder.le_step (.inl (by decide))
        have bounded : ladder.step 5 event ≤ 5 := Ladder.step_le le_rfl
        rw [top]
        exact le_antisymm bounded stays
      · have climbs := process_ladder below event
        have bounded : ladder.step (ladder.level 0 past) event ≤ 5 := Ladder.step_le below.le
        rw [← at_level] at climbs
        rcases Nat.lt_or_eq_of_le bounded with still | top
        · refine .inr ⟨still, ?_, climbs⟩
          intro ⟨first, last, parts, active⟩
          rcases List.eq_nil_or_concat last with rfl | ⟨front, final, rfl⟩
          · rw [List.append_nil] at parts
            subst parts
            have same := active.unique (before.next stepped permitted)
            rw [climbs] at same
            generalize ladder.step (ladder.level 0 past) event = level at still same
            interval_cases level <;> cases same
          · rw [List.concat_eq_append, ← List.append_assoc] at parts
            obtain ⟨same, -⟩ := List.append_inj' parts rfl
            exact never ⟨first, front, same, active⟩
        · refine .inl ⟨top, past ++ [event], [], by rw [List.append_nil], ?_⟩
          rw [top] at climbs
          rw [show CCState.active = stateAt 5 from rfl, ← climbs]
          exact before.next rfl trivial

/-- In every run from the start, a call becomes active exactly if a setup, some message of call
control, an alerting and a connect came in this order with no T3101 expiring around them, and a
call confirmation came behind them. -/
theorem was_active_iff {state : CCState} {events : List SMEvent}
    (run : handlers.machine.Run (fun _ _ _ => True) .idle events state) :
    WasActive events ↔
      ∃ before window after, events = before ++ window ++ after ∧
        (∀ event ∈ window, event ≠ .timer .T3101) ∧
        Ladder.Occurs
          [isMessage .callControl MTI.setup, isOfDomain .callControl,
            isMessage .callControl MTI.alerting, isMessage .callControl MTI.connect] window ∧
        Ladder.Occurs [isMessage .callControl MTI.callConfirmed] after := by
  have top : WasActive events ↔ 5 ≤ ladder.level 0 events := by
    rcases run_ladder run with ⟨at_top, active⟩ | ⟨below, never, -⟩
    · exact iff_of_true active at_top.ge
    · exact iff_of_false never (not_le.mpr below)
  have quiet : ∀ event : SMEvent, ladder.falls event = false ↔ event ≠ .timer .T3101 :=
    fun event => decide_eq_false_iff_not
  rw [top, Ladder.le_level_iff exclusive (show 5 ≤ ladder.rungs.length from le_rfl) (by decide)]
  simp only [quiet]
  rfl

/-- A call whose confirmation comes last. -/
theorem active_iff_late_confirmation :
    ∃ before window after,
      ([.message (.setup 0), .message (.other .callControl MTI.callConfirmed 0),
        .message (.other .callControl MTI.alerting 0), .message (.other .callControl MTI.connect 0),
        .message (.other .callControl MTI.callConfirmed 0)] : List SMEvent) =
          before ++ window ++ after ∧
        Ladder.Occurs [isMessage .callControl MTI.callConfirmed] after := by
  have run : handlers.machine.Run (fun _ _ _ => True) .idle
      [.message (.setup 0), .message (.other .callControl MTI.callConfirmed 0),
        .message (.other .callControl MTI.alerting 0), .message (.other .callControl MTI.connect 0),
        .message (.other .callControl MTI.callConfirmed 0)] .active :=
    .next (.next (.next (.next (.next .origin rfl trivial) rfl trivial) rfl trivial) rfl trivial)
      rfl trivial
  have active : WasActive _ := ⟨_, [], (List.append_nil _).symm, run⟩
  obtain ⟨before, window, after, parts, -, -, confirmed⟩ := (was_active_iff run).mp active
  exact ⟨before, window, after, parts, confirmed⟩

/-- The messages of a call to the mobile station, whose confirmation comes before the alerting,
leave the machine short of an active call. -/
example :
    ([.setup 0, .other .callControl MTI.callConfirmed 0, .other .callControl MTI.alerting 0,
      .other .callControl MTI.connect 0, .other .callControl MTI.connectAcknowledge 0].foldl
        (fun state msg => (handlers.process state (.message msg)).1) .idle) = .connect :=
  rfl

end CCStateMachine

end Stack

end Gsml3
