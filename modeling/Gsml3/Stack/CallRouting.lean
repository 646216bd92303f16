import Gsml3.Stack.RunnerCalls

/-!
# Call control messages at a runner

A call control message is routed by its discriminator and type, whatever its
transaction identifier, and most states of a call setup advance on any message.
-/

namespace Gsml3

namespace Stack

namespace ProcedureRunner

variable {runner : ProcedureRunner} {msg : ParsedMessage} {i : Nat} {proc : Procedure}

/-- The active procedure a message is routed to. -/
def route (runner : ProcedureRunner) (msg : ParsedMessage) : Option (Nat × Procedure) :=
  (runner.findActive fun proc => proc.accepts msg).or (runner.findActiveSlotByPD (messagePD msg))

theorem route_some (routed : runner.route msg = some (i, proc)) :
    runner.slots[i]? = some (some proc) := by
  rcases Option.or_eq_some_iff.mp routed with found | ⟨-, found⟩
  · exact findActive_some found
  · exact findActive_some found

theorem feed_of_route (routed : runner.route msg = some (i, proc)) (session : Option SessionCore) :
    runner.feed msg session = runner.store i (proc.feed msg session) := by
  rw [feed]
  rcases Option.or_eq_some_iff.mp routed with found | ⟨missed, found⟩
  · rw [found]
  · rw [missed, found]

/-- A message that no active procedure takes changes a free slot only. -/
theorem feed_unrouted (unrouted : runner.route msg = none) (session : Option SessionCore)
    (present : runner.slots[i]? = some (some proc)) :
    (runner.feed msg session).runner.slots[i]? = some (some proc) := by
  obtain ⟨unmatched, no_default⟩ := Option.or_eq_none_iff.mp unrouted
  rw [feed, unmatched, no_default]
  simp only
  split
  case h_2 => exact present
  case h_1 proc' inserted j started inserts =>
    obtain ⟨made, -, insertion⟩ := Option.bind_eq_some_iff.mp inserts
    obtain ⟨inserted', run, pair⟩ := Option.map_eq_some_iff.mp insertion
    obtain ⟨rfl, rfl⟩ := Prod.mk.inj pair
    obtain ⟨free, rfl⟩ := insertSlot_some run
    have inside := (List.getElem?_eq_some_iff.mp free).1
    have apart : i ≠ j := by
      rintro rfl
      rw [free] at present
      cases present
    change (ProcedureRunner.store _ j _).runner.slots[i]? = _
    rw [store_runner (by rw [setSlot, List.length_set]; exact inside),
      setSlot_getElem? (by rw [setSlot, List.length_set]; exact inside), if_neg apart,
      setSlot_getElem? inside, if_neg apart, present]

/-- A setup that stays in its state is not changed at all. -/
theorem setupMO_feed_same {own : CallSetupMO} (session : Option SessionCore)
    (stays : setupNext own.base.currentState msg = own.base.currentState) :
    (own.feed msg session).proc = own := by
  rw [CallSetupMO.feed]
  cases state : own.base.currentState with
  | init =>
      rw [state, setupNext] at stays
      simp only
      split at stays
      · cases stays
      · split at stays
        · cases stays
        · rw [if_neg ‹_›, if_neg ‹_›]
  | waitSetup | waitAssignComplete | active =>
      rw [state, setupNext] at stays
      simp only
      split at stays
      · cases stays
      · rw [if_neg ‹_›]
  | serviceAccept | proceeding | assignTCH | alerting | connect =>
      rw [state, setupNext] at stays
      cases stays
  | completed | failed => rfl

theorem release_feed_same {own : CallRelease} (session : Option SessionCore)
    (stays : releaseNext own.base.currentState msg = own.base.currentState) :
    (own.feed msg session).proc = own := by
  change (own.feedState msg).1 = own
  rw [CallRelease.feedState]
  cases state : own.base.currentState with
  | init | waitRelease =>
      rw [state, releaseNext] at stays
      simp only
      split at stays
      · cases stays
      · rw [if_neg ‹_›]
  | sendDisconnect | sendReleaseComplete =>
      rw [state, releaseNext] at stays
      cases stays
  | completed | failed => rfl

/-- The message moves the call procedure to another state. -/
def Reacts (msg : ParsedMessage) : Procedure → Prop
  | .callSetupMO own => setupNext own.base.currentState msg ≠ own.base.currentState
  | .callRelease own => releaseNext own.base.currentState msg ≠ own.base.currentState
  | _ => False

/-- The transaction identifier of a call procedure. -/
def callTI : Procedure → Option UInt8
  | .callSetupMO own => some own.ti
  | .callSetupMT own => some own.ti
  | .callRelease own => some own.ti
  | _ => none

theorem settled_eq_some {next : Procedure} (kept : settled proc = some next) : proc = next := by
  rw [settled] at kept
  split at kept
  case isTrue => cases kept
  case isFalse => exact Option.some.inj kept

/-- A call procedure keeps its slot as it is, unless the message moves it. -/
theorem settled_feed_iff (created : AutoCreated proc) (call : (callTI proc).isSome)
    (live : proc.state.isTerminal = false) (session : Option SessionCore) :
    settled (proc.feed msg session).proc = some proc ↔ ¬ Reacts msg proc := by
  have kept : settled proc = some proc := by
    rw [settled, if_neg (by rw [live]; simp)]
  cases proc with
  | callSetupMO own =>
      rw [Reacts, not_not]
      constructor
      · intro same
        have unchanged : (own.feed msg session).proc = own :=
          Procedure.callSetupMO.inj (settled_eq_some same)
        rw [← setupMO_feed_state own msg session, unchanged]
      · intro stays
        change settled (.callSetupMO (own.feed msg session).proc) = _
        rw [setupMO_feed_same session stays, kept]
  | callRelease own =>
      rw [Reacts, not_not]
      constructor
      · intro same
        have unchanged : (own.feed msg session).proc = own :=
          Procedure.callRelease.inj (settled_eq_some same)
        rw [← (release_feed_state own msg session).1, unchanged]
      · intro stays
        change settled (.callRelease (own.feed msg session).proc) = _
        rw [release_feed_same session stays, kept]
  | callSetupMT => exact created.elim
  | channelAssignment | locationUpdate | imsiDetach => cases call
  | authentication | cipheringMode | handover | paging => exact created.elim

theorem Disciplined.feed_keeps_iff (disciplined : runner.Disciplined)
    (present : runner.slots[i]? = some (some proc)) (call : (callTI proc).isSome)
    (session : Option SessionCore) :
    (runner.feed msg session).runner.slots[i]? = some (some proc) ↔
      ¬ (runner.route msg = some (i, proc) ∧ Reacts msg proc) := by
  cases routed : runner.route msg with
  | none => exact iff_of_true (feed_unrouted routed session present) fun both => nomatch both.1
  | some target =>
      obtain ⟨j, other⟩ := target
      have taken := route_some routed
      have inside := (List.getElem?_eq_some_iff.mp taken).1
      rw [feed_of_route routed, store_runner inside, setSlot_getElem? inside]
      by_cases same : i = j
      · subst same
        obtain rfl := Option.some.inj (Option.some.inj (taken.symm.trans present))
        rw [if_pos rfl, Option.some_inj, settled_feed_iff (disciplined.created i other present) call
          (disciplined.live i other present)]
        simp
      · rw [if_neg same]
        exact iff_of_true present fun both => same (Prod.mk.inj (Option.some.inj both.1)).1.symm

/-! ## Transaction identifiers -/

/-- A Setup that creates a procedure hands its transaction identifier on. -/
theorem setup_exposes_ti {ti : UInt8} (unrouted : runner.route (.setup ti) = none)
    (free : none ∈ runner.slots) (s : SessionCore) :
    ∃ exposed, (runner.feed (.setup ti) (some s)).session = some exposed ∧
      exposed.response.ti = ti ∧
      (runner.feed (.setup ti) (some s)).result = .respond .callProceeding := by
  obtain ⟨unmatched, no_default⟩ := Option.or_eq_none_iff.mp unrouted
  obtain ⟨j, found⟩ : ∃ j, runner.slots.findIdx? Option.isNone = some j := by
    rw [← Option.isSome_iff_exists, List.findIdx?_isSome, List.any_eq_true]
    exact ⟨none, free, rfl⟩
  rw [feed, unmatched, no_default]
  simp only [insertSlot, found]
  exact ⟨_, rfl, rfl, rfl⟩

/-! Messages of one discriminator and type. -/

section Alike

variable {other : ParsedMessage} (pd : messagePD msg = messagePD other)
  (mti : messageMTI msg = messageMTI other)

include pd mti

theorem is_alike (d : L3PD) (t : Int) : msg.Is d t ↔ other.Is d t := by
  rw [ParsedMessage.Is, ParsedMessage.Is, pd, mti]

/-- A procedure accepts both of them or none. -/
theorem accepts_alike (proc : Procedure) : proc.accepts msg = proc.accepts other := by
  have same := is_alike pd mti
  cases proc with
  | locationUpdate => exact decide_eq_decide.mpr (by simp only [LocationUpdate.Matches, same])
  | authentication => exact decide_eq_decide.mpr (by simp only [Authentication.Matches, same])
  | cipheringMode => exact decide_eq_decide.mpr (by simp only [CipheringMode.Matches, same])
  | callSetupMO => exact decide_eq_decide.mpr (by simp only [CallSetupMO.Matches, same])
  | callSetupMT => exact decide_eq_decide.mpr (by simp only [CallSetupMT.Matches, same])
  | channelAssignment =>
      exact decide_eq_decide.mpr (by simp only [ChannelAssignment.Matches, same])
  | handover => exact decide_eq_decide.mpr (by simp only [Handover.Matches, same])
  | paging => exact decide_eq_decide.mpr (by simp only [Paging.Matches, same])
  | imsiDetach => exact decide_eq_decide.mpr (by simp only [IMSIDetach.Matches, pd])
  | callRelease => exact decide_eq_decide.mpr (by simp only [CallRelease.Matches, same])

/-- They are routed to the same procedure. -/
theorem route_alike (runner : ProcedureRunner) : runner.route msg = runner.route other := by
  have same : (fun proc : Procedure => proc.accepts msg) = fun proc => proc.accepts other :=
    funext (accepts_alike pd mti)
  rw [route, route, same, pd]

theorem setupNext_alike (state : CallSetupMOState) : setupNext state msg = setupNext state other := by
  have same := is_alike pd mti
  cases state with
  | init => exact if_congr (same _ _) rfl (if_congr (same _ _) rfl rfl)
  | waitSetup | waitAssignComplete | active => exact if_congr (same _ _) rfl rfl
  | _ => rfl

theorem releaseNext_alike (state : CallReleaseState) :
    releaseNext state msg = releaseNext state other := by
  cases state with
  | init => exact if_congr (by rw [pd]) rfl rfl
  | waitRelease => exact if_congr (is_alike pd mti _ _) rfl rfl
  | _ => rfl

/-- They move the state of a call procedure, or leave it, alike. -/
theorem reacts_alike (proc : Procedure) : Reacts msg proc ↔ Reacts other proc := by
  cases proc with
  | callSetupMO own => rw [Reacts, Reacts, setupNext_alike pd mti]
  | callRelease own => rw [Reacts, Reacts, releaseNext_alike pd mti]
  | _ => exact Iff.rfl

end Alike

/-- The response to a Setup that creates a procedure has the identifier of the Setup.  A
message leaves an active call procedure as it is, unless it is routed there and its type
moves the state of the procedure.  Messages of one discriminator and type are routed alike and
leave an active call procedure as it is alike, whatever their transaction identifiers. -/
theorem transactions_kept {events : List (Op × Reply)}
    (reached : machine.Run (fun _ _ _ => True) {} events runner) :
    (∀ (other : ProcedureRunner) (ti : UInt8) (s : SessionCore),
        other.route (.setup ti) = none → none ∈ other.slots →
        ∃ exposed, (other.feed (.setup ti) (some s)).session = some exposed ∧
          exposed.response.ti = ti ∧
          (other.feed (.setup ti) (some s)).result = .respond .callProceeding) ∧
      (∀ (msg : ParsedMessage) (session : Option SessionCore) (i : Nat) (proc : Procedure),
        runner.slots[i]? = some (some proc) → (callTI proc).isSome →
        ((runner.feed msg session).runner.slots[i]? = some (some proc) ↔
          ¬ (runner.route msg = some (i, proc) ∧ Reacts msg proc))) ∧
      ∀ msg other : ParsedMessage, messagePD msg = messagePD other →
        messageMTI msg = messageMTI other → runner.route msg = runner.route other ∧
        ∀ (session : Option SessionCore) (i : Nat) (proc : Procedure),
          runner.slots[i]? = some (some proc) → (callTI proc).isSome →
          ((runner.feed msg session).runner.slots[i]? = some (some proc) ↔
            (runner.feed other session).runner.slots[i]? = some (some proc)) := by
  have disciplined := disciplined_of_run reached
  refine ⟨fun _ _ s unrouted free => setup_exposes_ti unrouted free s,
    fun _ session _ _ present call => disciplined.feed_keeps_iff present call session,
    fun msg other pd mti => ⟨route_alike pd mti runner, fun session i proc present call => ?_⟩⟩
  rw [disciplined.feed_keeps_iff present call session,
    disciplined.feed_keeps_iff present call session, route_alike pd mti runner,
    reacts_alike pd mti proc]

/-- Three messages that leave a call setup waiting for its traffic channel. -/
private def waitingSetup : List (Op × Reply) :=
  [(.feed (.setup 3) none, { result := .respond .callProceeding, notified := [true] }),
    (.feed (.other .callControl MTI.callConfirmed 3) none,
      { result := .respond .assignmentCommand }),
    (.feed (.other .callControl MTI.callConfirmed 3) none, ({} : Reply))]

/-- The call setup of transaction 3, three seconds before its timer expires. -/
private def setupAt (state : CallSetupMOState) : Procedure :=
  .callSetupMO
    { base :=
        { currentState := state
          procState := .inProgress
          timerRemaining := 3000
          currentTimer := .T3101
          timerRunning := true }
      ti := 3 }

/-- A Call Confirmed does not concern a setup that waits for its traffic channel. -/
theorem transactions_kept_waiting :
    ∃ runner, machine.exec (fun _ _ _ => True) {} waitingSetup = some runner ∧
      (runner.feed (.other .callControl MTI.callConfirmed 5) none).runner.slots[0]? =
        some (some (setupAt .waitAssignComplete)) := by
  obtain ⟨runner, executed⟩ := Option.isSome_iff_exists.mp
    (show (machine.exec (fun _ _ _ => True) {} waitingSetup).isSome by decide)
  have waiting : ∀ runner ∈ machine.exec (fun _ _ _ => True) {} waitingSetup,
      runner.slots[0]? = some (some (setupAt .waitAssignComplete)) := by
    decide
  have present := waiting runner executed
  refine ⟨runner, executed, ?_⟩
  apply ((transactions_kept (.exec _ .origin executed)).2.1 _ none 0 _ present rfl).mpr
  rintro ⟨-, moves⟩
  exact moves (by decide)

/-- A Disconnect of transaction 3 creates a release that answers with transaction 0, and a
message of transaction 5 sends the setup of transaction 3 to its channel assignment. -/
theorem transactions_confused :
    (∀ exposed ∈ (({} : ProcedureRunner).feed (.disconnect 3 .normalCallClearing)
        (some {})).session, exposed.response.ti = 0) ∧
      ∀ runner ∈ machine.exec (fun _ _ _ => True) {} (waitingSetup.take 1),
        runner.slots[0]? = some (some (setupAt .proceeding)) ∧
        (runner.feed (.other .callControl MTI.callConfirmed 5) none).runner.slots[0]? =
          some (some (setupAt .assignTCH)) := by
  constructor
  · decide
  · decide

/-! ## Disconnect -/

/-- The states of a call setup in their order. -/
def setupStates : List CallSetupMOState :=
  [.init, .serviceAccept, .waitSetup, .proceeding, .assignTCH, .waitAssignComplete, .alerting,
    .connect, .active, .completed]

/-- The second state comes after the first one in a call setup. -/
def Later (first second : CallSetupMOState) : Prop :=
  [first, second].Sublist setupStates

instance (first second : CallSetupMOState) : Decidable (Later first second) :=
  inferInstanceAs (Decidable (List.Sublist _ _))

/-- The states after the Setup that any message ends. -/
def anyFeedStates : List CallSetupMOState :=
  [.proceeding, .assignTCH, .alerting, .connect]

/-- The responses that take a call further. -/
def setupTokens : List ResponseToken :=
  [.assignmentCommand, .alerting, .connect, .connectAcknowledge]

theorem findActive_satisfies {p : Procedure → Bool} (found : runner.findActive p = some (i, proc)) :
    p proc = true := by
  obtain ⟨⟨slot, j⟩, -, held⟩ := List.exists_of_findSome?_eq_some found
  obtain ⟨proc', filtered, pair⟩ := Option.map_eq_some_iff.mp held
  obtain ⟨-, rfl⟩ := Prod.mk.inj pair
  exact (Option.filter_eq_some_iff.mp filtered).2

/-- Only a call release accepts a Disconnect. -/
theorem accepts_disconnect (disconnect : msg.Is .callControl MTI.disconnect)
    (created : AutoCreated proc) (accepted : proc.accepts msg = true) :
    ∃ own, proc = .callRelease own := by
  obtain ⟨pd, mti⟩ := disconnect
  cases proc with
  | callRelease own => exact ⟨own, rfl⟩
  | authentication | cipheringMode | callSetupMT | handover | paging => exact created.elim
  | callSetupMO =>
      simp [Procedure.accepts, CallSetupMO.Matches, ParsedMessage.Is, pd, mti, MTI.disconnect,
        MTI.setup, MTI.connectAcknowledge] at accepted
  | channelAssignment =>
      simp [Procedure.accepts, ChannelAssignment.Matches, ParsedMessage.Is, pd] at accepted
  | locationUpdate =>
      simp [Procedure.accepts, LocationUpdate.Matches, ParsedMessage.Is, pd] at accepted
  | imsiDetach => simp [Procedure.accepts, IMSIDetach.Matches, pd] at accepted

theorem type_callSetupMO (typed : proc.type = .callSetupMO) : ∃ own, proc = .callSetupMO own := by
  cases proc with
  | callSetupMO own => exact ⟨own, rfl⟩
  | channelAssignment | locationUpdate | imsiDetach | callRelease | authentication
  | cipheringMode | callSetupMT | handover | paging => cases typed

/-- A Disconnect goes to the call release, else to the call setup. -/
theorem Disciplined.route_disconnect (disciplined : runner.Disciplined)
    (disconnect : msg.Is .callControl MTI.disconnect) (routed : runner.route msg = some (i, proc)) :
    (∃ own, proc = .callRelease own) ∨
      (∃ own, proc = .callSetupMO own) ∧
        ∀ (j : Nat) (own : CallRelease), runner.slots[j]? ≠ some (some (.callRelease own)) := by
  rcases Option.or_eq_some_iff.mp routed with found | ⟨missed, found⟩
  · exact .inl (accepts_disconnect disconnect (disciplined.created i proc (findActive_some found))
      (findActive_satisfies found))
  · right
    have typed := of_decide_eq_true (findActive_satisfies found)
    rw [disconnect.1] at typed
    refine ⟨type_callSetupMO typed, fun j own present => ?_⟩
    have refused := findActive_none missed present
    exact of_decide_eq_false refused (.inl disconnect)

theorem reportTerminal_token (result : ProcedureStepResult) (type : ProcedureType)
    (state : ProcedureState) :
    (result.reportTerminal type state).responseToken = result.responseToken := by
  cases state <;> rfl

/-- A call release never takes a call further. -/
theorem release_feed_token (own : CallRelease) (msg : ParsedMessage)
    (session : Option SessionCore) : (own.feed msg session).result.responseToken ∉ setupTokens := by
  change ((own.feedState msg).2.reportTerminal _ _).responseToken ∉ setupTokens
  rw [reportTerminal_token]
  have silent : ResponseToken.none ∉ setupTokens := by decide
  have disconnected : ResponseToken.disconnect ∉ setupTokens := by decide
  have released : ResponseToken.releaseComplete ∉ setupTokens := by decide
  rw [CallRelease.feedState]
  cases own.base.currentState with
  | init =>
      simp only
      split
      · exact disconnected
      · exact silent
  | waitRelease =>
      simp only
      split
      · exact released
      · exact silent
  | sendDisconnect => exact disconnected
  | sendReleaseComplete => exact released
  | completed | failed => exact silent

/-- The response of a call setup to a message. -/
def setupToken (state : CallSetupMOState) (msg : ParsedMessage) : ResponseToken :=
  match state with
  | .init =>
      if msg.Is .mobilityManagement MTI.cmServiceRequest then .cmServiceAccept
      else if msg.Is .callControl MTI.setup then .callProceeding
      else .none
  | .waitSetup => if msg.Is .callControl MTI.setup then .callProceeding else .none
  | .proceeding => .assignmentCommand
  | .waitAssignComplete =>
      if msg.Is .radioResource MTI.assignmentComplete then .alerting else .none
  | .alerting => .connect
  | .connect => .connectAcknowledge
  | .serviceAccept | .assignTCH | .active | .completed | .failed => .none

theorem proceed_token (own : CallSetupMO) (msg : ParsedMessage) (session : Option SessionCore) :
    (own.proceed msg session).result.responseToken = .callProceeding := by
  rw [CallSetupMO.proceed]
  split <;> rfl

theorem setupMO_feed_token (own : CallSetupMO) (msg : ParsedMessage)
    (session : Option SessionCore) :
    (own.feed msg session).result.responseToken = setupToken own.base.currentState msg := by
  rw [CallSetupMO.feed]
  cases own.base.currentState with
  | init =>
      simp only [setupToken]
      split
      · rfl
      · split
        · exact proceed_token own msg session
        · rfl
  | waitSetup =>
      simp only [setupToken]
      split
      · exact proceed_token own msg session
      · rfl
  | waitAssignComplete | active =>
      simp only [setupToken]
      split <;> rfl
  | serviceAccept | proceeding | assignTCH | alerting | connect | completed | failed => rfl

/-- A Disconnect takes a call setup further exactly in the states that any message ends. -/
theorem setupMO_disconnect_iff {own : CallSetupMO} (created : AutoCreated (.callSetupMO own))
    (disconnect : msg.Is .callControl MTI.disconnect) (session : Option SessionCore) :
    ((own.feed msg session).result.responseToken ∈ setupTokens ∨
      Later own.base.currentState (own.feed msg session).proc.base.currentState) ↔
        own.base.currentState ∈ anyFeedStates := by
  have no_assignment : ¬ msg.Is .radioResource MTI.assignmentComplete := by
    rintro ⟨pd, -⟩
    cases disconnect.1.symm.trans pd
  have no_acknowledge : ¬ msg.Is .callControl MTI.connectAcknowledge := by
    rintro ⟨-, mti⟩
    exact absurd (disconnect.2.symm.trans mti) (by decide)
  rw [setupMO_feed_state, setupMO_feed_token]
  cases state : own.base.currentState with
  | init | serviceAccept | waitSetup => exact absurd (by rw [state]; decide) created
  | waitAssignComplete =>
      rw [setupToken, setupNext, if_neg no_assignment, if_neg no_assignment]
      decide
  | active =>
      rw [setupToken, setupNext, if_neg no_acknowledge]
      decide
  | proceeding | assignTCH | alerting | connect | completed | failed =>
      rw [setupToken, setupNext]
      decide

theorem later_irrefl (state : CallSetupMOState) : ¬ Later state state := by
  cases state <;> decide

/-- A call setup that any message moves stays active. -/
theorem setupMO_feed_settled {own : CallSetupMO} (moves : own.base.currentState ∈ anyFeedStates)
    (session : Option SessionCore) :
    settled (.callSetupMO (own.feed msg session).proc) =
      some (.callSetupMO (own.feed msg session).proc) := by
  have live : (own.feed msg session).proc.base.procState.isTerminal = false := by
    rw [CallSetupMO.feed]
    cases state : own.base.currentState with
    | proceeding | assignTCH | alerting | connect => rfl
    | init | serviceAccept | waitSetup | waitAssignComplete | active | completed | failed =>
        rw [state] at moves
        exact absurd moves (by decide)
  rw [settled, if_neg]
  change ¬ (own.feed msg session).proc.base.procState.isTerminal = true
  rw [live]
  simp

/-- A Disconnect that starts a call release takes no call further. -/
theorem feed_unrouted_token (disconnect : msg.Is .callControl MTI.disconnect)
    (unrouted : runner.route msg = none) (session : Option SessionCore) :
    (runner.feed msg session).result.responseToken ∉ setupTokens := by
  obtain ⟨unmatched, no_default⟩ := Option.or_eq_none_iff.mp unrouted
  have made : autoCreateProcedure msg =
      some (ProcedureFactory.createCallRelease 0 .normalCallClearing) := by
    rw [autoCreateProcedure, disconnect.1, disconnect.2]
    rfl
  rw [feed, unmatched, no_default, made]
  simp only [Option.bind_some]
  cases runner.insertSlot (ProcedureFactory.createCallRelease 0 .normalCallClearing) with
  | none => exact (by decide : ResponseToken.none ∉ setupTokens)
  | some inserted =>
      exact release_feed_token { ti := 0, cause := .normalCallClearing } msg
        (session.map fun s => s.expose fun _ => {})

/-- The message is answered by a response that takes a call further, or it moves an active
call setup to a later state. -/
def Advances (runner : ProcedureRunner) (msg : ParsedMessage) (session : Option SessionCore) :
    Prop :=
  (runner.feed msg session).result.responseToken ∈ setupTokens ∨
    ∃ (i : Nat) (own next : CallSetupMO), runner.slots[i]? = some (some (.callSetupMO own)) ∧
      (runner.feed msg session).runner.slots[i]? = some (some (.callSetupMO next)) ∧
      Later own.base.currentState next.base.currentState

/-- A Disconnect takes a call further exactly when no call release is active to receive it and
the active call setup is in a state that any message ends. -/
theorem disconnect_advances_iff {events : List (Op × Reply)}
    (reached : machine.Run (fun _ _ _ => True) {} events runner)
    (disconnect : msg.Is .callControl MTI.disconnect) (session : Option SessionCore) :
    runner.Advances msg session ↔
      (∀ (i : Nat) (own : CallRelease), runner.slots[i]? ≠ some (some (.callRelease own))) ∧
        ∃ (i : Nat) (own : CallSetupMO), runner.slots[i]? = some (some (.callSetupMO own)) ∧
          own.base.currentState ∈ anyFeedStates := by
  have disciplined := disciplined_of_run reached
  cases routed : runner.route msg with
  | none =>
      apply iff_of_false
      · rintro (answered | ⟨i, own, next, present, kept, later⟩)
        · exact feed_unrouted_token disconnect routed session answered
        · rw [feed_unrouted routed session present, Option.some_inj, Option.some_inj] at kept
          obtain rfl := Procedure.callSetupMO.inj kept
          exact later_irrefl _ later
      · rintro ⟨-, i, own, present, -⟩
        have refused := findActive_none (Option.or_eq_none_iff.mp routed).2 present
        rw [disconnect.1] at refused
        exact of_decide_eq_false refused rfl
  | some target =>
      obtain ⟨i, proc⟩ := target
      have present := route_some routed
      have inside := (List.getElem?_eq_some_iff.mp present).1
      rw [Advances, feed_of_route routed, store_runner inside]
      rcases disciplined.route_disconnect disconnect routed with
        ⟨release, rfl⟩ | ⟨⟨own, rfl⟩, no_release⟩
      · apply iff_of_false
        · rintro (answered | ⟨j, setup, next, held, kept, later⟩)
          · exact release_feed_token release msg session answered
          · have apart : j ≠ i := by
              rintro rfl
              cases held.symm.trans present
            rw [setSlot_getElem? inside, if_neg apart, held, Option.some_inj,
              Option.some_inj] at kept
            obtain rfl := Procedure.callSetupMO.inj kept
            exact later_irrefl _ later
        · rintro ⟨none_active, -⟩
          exact none_active i release present
      · have only : ∀ (j : Nat) (other : CallSetupMO),
            runner.slots[j]? = some (some (.callSetupMO other)) → j = i ∧ other = own := by
          intro j other held
          have same := disciplined.unique j i _ _ held present rfl
          subst same
          exact ⟨rfl, Procedure.callSetupMO.inj
            (Option.some.inj (Option.some.inj (held.symm.trans present)))⟩
        have advances_iff := setupMO_disconnect_iff (disciplined.created i _ present) disconnect
          session
        constructor
        · rintro (answered | ⟨j, setup, next, held, kept, later⟩)
          · exact ⟨no_release, i, own, present, advances_iff.mp (.inl answered)⟩
          · obtain ⟨rfl, rfl⟩ := only j setup held
            rw [setSlot_getElem? inside, if_pos rfl, Option.some_inj] at kept
            obtain rfl := Procedure.callSetupMO.inj (settled_eq_some kept)
            exact ⟨no_release, j, setup, present, advances_iff.mp (.inr later)⟩
        · rintro ⟨-, j, setup, held, moves⟩
          obtain ⟨rfl, rfl⟩ := only j setup held
          apply (advances_iff.mpr moves).imp id
          intro later
          refine ⟨j, setup, _, present, ?_, later⟩
          rw [setSlot_getElem? inside, if_pos rfl]
          exact congrArg some (setupMO_feed_settled moves session)

/-- A Disconnect that finds a call set up as far as its first response takes it further. -/
theorem disconnect_advances_proceeding :
    ∃ runner, machine.exec (fun _ _ _ => True) {} (waitingSetup.take 1) = some runner ∧
      (runner.Advances (.disconnect 3 .normalCallClearing) none ↔
        (∀ (i : Nat) (own : CallRelease), runner.slots[i]? ≠ some (some (.callRelease own))) ∧
          ∃ (i : Nat) (own : CallSetupMO), runner.slots[i]? = some (some (.callSetupMO own)) ∧
            own.base.currentState ∈ anyFeedStates) := by
  obtain ⟨runner, executed⟩ := Option.isSome_iff_exists.mp
    (show (machine.exec (fun _ _ _ => True) {} (waitingSetup.take 1)).isSome by decide)
  exact ⟨runner, executed, disconnect_advances_iff (.exec _ .origin executed) ⟨rfl, rfl⟩ none⟩

/-- It is answered by an Assignment Command. -/
theorem disconnect_assigns :
    ∃ runner, machine.exec (fun _ _ _ => True) {} (waitingSetup.take 1) = some runner ∧
      (runner.feed (.disconnect 3 .normalCallClearing) none).result =
        .respond .assignmentCommand := by
  have assigns : ∀ runner ∈ machine.exec (fun _ _ _ => True) {} (waitingSetup.take 1),
      (runner.feed (.disconnect 3 .normalCallClearing) none).result =
        .respond .assignmentCommand := by
    decide
  obtain ⟨runner, executed⟩ := Option.isSome_iff_exists.mp
    (show (machine.exec (fun _ _ _ => True) {} (waitingSetup.take 1)).isSome by decide)
  exact ⟨runner, executed, assigns runner executed⟩

end ProcedureRunner

end Stack

end Gsml3
