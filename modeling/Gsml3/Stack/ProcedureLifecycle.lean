import Gsml3.Foundation.Machine
import Gsml3.Stack.ProcedureRunner

/-!
# Lifecycle of procedures

The rule callers release procedures by: a response is announced by its token, a
terminal state is reported by the step that reaches it, and a finished procedure
rests.  Every class of procedure sets its state, its timer and the result of a
step separately; each one follows the rule on all of its paths.
-/

namespace Gsml3

namespace Stack

/-- The result of a step between two lifecycle states follows the rule. -/
structure StepReports (before : ProcedureState) (result : ProcedureStepResult)
    (after : ProcedureState) : Prop where
  announced : result.action = .sendResponseWithToken ↔ result.responseToken ≠ .none
  reported : before.isTerminal = false → after.isTerminal = true →
    result.finalResult.state = after
  unreported : before.isTerminal = false → after.isTerminal = false →
    result.finalResult.state.isTerminal = false
  silent : before.isTerminal = true → result.responseToken = .none

/-- A step from one lifecycle state to another follows the rule.  `cancel` has
no result. -/
structure LifecycleStep (before : ProcedureState) (result : Option ProcedureStepResult)
    (after : ProcedureState) (timerRunning : Bool) : Prop where
  reports : ∀ step ∈ result, StepReports before step after
  settled : before.isTerminal = true → after = before
  stopped : after.isTerminal = true → timerRunning = false

/-! ## Results -/

section Results

variable {result : ProcedureStepResult}

variable {type : ProcedureType} {state : ProcedureState}

theorem reportTerminal_responseToken :
    (result.reportTerminal type state).responseToken = result.responseToken := by
  cases state <;> rfl

/-- A report becomes the action only when there is no response. -/
theorem reportTerminal_announced
    (announced : result.action = .sendResponseWithToken ↔ result.responseToken ≠ .none) :
    (result.reportTerminal type state).action = .sendResponseWithToken ↔
      (result.reportTerminal type state).responseToken ≠ .none := by
  rw [reportTerminal_responseToken]
  by_cases token : result.responseToken = .none
  · cases state <;> simp [ProcedureStepResult.reportTerminal, token, announced]
  · cases state <;> simp [ProcedureStepResult.reportTerminal, token, announced]

/-- A procedure that goes on reports nothing terminal. -/
theorem reportTerminal_going (going : state.isTerminal = false) :
    result.reportTerminal type state = result := by
  cases state with
  | completed | failed | timedOut => cases going
  | initiated | inProgress | waitingExternal => rfl

/-- The reported state is that of the procedure. -/
theorem reportTerminal_final (reported : result.finalResult.state = state) :
    (result.reportTerminal type state).finalResult.state = state := by
  cases state <;> simp [ProcedureStepResult.reportTerminal, reported]

end Results

/-! ## Steps of one class -/

namespace StateMixin

variable {State : Type} [ProcedureStates State] {own next : StateMixin State}
variable {result : ProcedureStepResult}

/-- The lifecycle state is the one the state stands for, or the initial one of a
state that is not final; a finished procedure has no timer running. -/
structure Aligned (own : StateMixin State) : Prop where
  shown : own.procState = ProcedureStates.procState own.currentState ∨
    own.procState = .initiated ∧
      (ProcedureStates.procState own.currentState).isTerminal = false
  stopped : own.procState.isTerminal = true → own.timerRunning = false

/-- A procedure is live in the states that are not final. -/
theorem Aligned.live (aligned : own.Aligned)
    (going : (ProcedureStates.procState own.currentState).isTerminal = false) :
    own.procState.isTerminal = false := by
  rcases aligned.shown with same | ⟨initial, -⟩
  · rw [same, going]
  · rw [initial]
    rfl

/-- The states of a live procedure are not final. -/
theorem Aligned.going (aligned : own.Aligned) (live : own.procState.isTerminal = false) :
    (ProcedureStates.procState own.currentState).isTerminal = false := by
  rcases aligned.shown with same | ⟨-, going⟩
  · rwa [← same]
  · exact going

/-- A procedure whose timer runs is live. -/
theorem Aligned.running (aligned : own.Aligned) (running : own.timerRunning = true) :
    own.procState.isTerminal = false := by
  by_contra final
  rw [aligned.stopped (Bool.eq_true_of_not_eq_false final)] at running
  cases running

/-- A step of a class reports as it should and leaves the class aligned. -/
structure Follows (own : StateMixin State) (result : ProcedureStepResult)
    (next : StateMixin State) : Prop where
  reports : StepReports own.procState result next.procState
  settled : own.procState.isTerminal = true → next.procState = own.procState
  aligned : next.Aligned

/-- A step that follows the rule is one of the lifecycle. -/
theorem Follows.lifecycleStep (follows : Follows own result next) :
    LifecycleStep own.procState (some result) next.procState next.timerRunning := by
  refine ⟨?_, follows.settled, follows.aligned.stopped⟩
  rintro step ⟨⟩
  exact follows.reports

/-- A step that moves nothing but the timer, and does not start it. -/
theorem Follows.rests (aligned : own.Aligned) (state : next.currentState = own.currentState)
    (procState : next.procState = own.procState)
    (timer : own.timerRunning = false → next.timerRunning = false) : Follows own {} next := by
  refine ⟨⟨by decide, fun live final => ?_, fun _ _ => rfl, fun _ => rfl⟩, fun _ => procState,
    ⟨?_, ?_⟩⟩
  · rw [procState, live] at final
    cases final
  · rw [procState, state]
    exact aligned.shown
  · rw [procState]
    exact fun final => timer (aligned.stopped final)

/-- A step without effect follows the rule. -/
theorem Follows.idle (aligned : own.Aligned) : Follows own {} own :=
  .rests aligned rfl rfl id

/-- A step to a state that is not final. -/
theorem Follows.goes (live : own.procState.isTerminal = false)
    (shown : next.procState = ProcedureStates.procState next.currentState)
    (going : (ProcedureStates.procState next.currentState).isTerminal = false)
    (announced : result.action = .sendResponseWithToken ↔ result.responseToken ≠ .none)
    (unreported : result.finalResult.state.isTerminal = false) : Follows own result next := by
  have running : next.procState.isTerminal ≠ true := by rw [shown, going]; decide
  have started : own.procState.isTerminal ≠ true := by rw [live]; decide
  exact ⟨⟨announced, fun _ final => absurd final running, fun _ _ => unreported,
      fun final => absurd final started⟩, fun final => absurd final started,
    ⟨.inl shown, fun final => absurd final running⟩⟩

/-- A step that ends the procedure and stops its timer. -/
theorem Follows.ends (live : own.procState.isTerminal = false)
    (shown : next.procState = ProcedureStates.procState next.currentState)
    (final : next.procState.isTerminal = true)
    (announced : result.action = .sendResponseWithToken ↔ result.responseToken ≠ .none)
    (reported : result.finalResult.state = next.procState)
    (stopped : next.timerRunning = false) : Follows own result next := by
  have started : own.procState.isTerminal ≠ true := by rw [live]; decide
  refine ⟨⟨announced, fun _ _ => reported, fun _ going => ?_,
      fun final => absurd final started⟩, fun final => absurd final started,
    ⟨.inl shown, fun _ => stopped⟩⟩
  rw [final] at going
  cases going

/-- A step that sends a response and goes on. -/
theorem Follows.responds {token : ResponseToken} (live : own.procState.isTerminal = false)
    (shown : next.procState = ProcedureStates.procState next.currentState)
    (going : (ProcedureStates.procState next.currentState).isTerminal = false)
    (some : token ≠ .none) : Follows own (.respond token) next :=
  .goes live shown going (iff_of_true rfl some) rfl

/-- A step that sends nothing and goes on. -/
theorem Follows.waits {action : StepAction} (live : own.procState.isTerminal = false)
    (shown : next.procState = ProcedureStates.procState next.currentState)
    (going : (ProcedureStates.procState next.currentState).isTerminal = false)
    (other : action ≠ .sendResponseWithToken) : Follows own { action := action } next :=
  .goes live shown going (iff_of_false other (not_not.mpr rfl)) rfl

/-- A step that ends the procedure without a response. -/
theorem Follows.finishes {action : StepAction} {type : ProcedureType} {state : ProcedureState}
    {reason : String} (live : own.procState.isTerminal = false)
    (shown : next.procState = ProcedureStates.procState next.currentState)
    (ended : next.procState = state) (final : state.isTerminal = true)
    (stopped : next.timerRunning = false) (other : action ≠ .sendResponseWithToken) :
    Follows own (.finish action type state reason) next :=
  .ends live shown (ended ▸ final) (iff_of_false other (not_not.mpr rfl)) ended.symm stopped

/-- A step that ends the procedure with a response. -/
theorem Follows.respondsLast {token : ResponseToken} {type : ProcedureType}
    {state : ProcedureState} {reason : String} (live : own.procState.isTerminal = false)
    (shown : next.procState = ProcedureStates.procState next.currentState)
    (ended : next.procState = state) (final : state.isTerminal = true)
    (stopped : next.timerRunning = false) (some : token ≠ .none) :
    Follows own (.respondLast token type state reason) next :=
  .ends live shown (ended ▸ final) (iff_of_true rfl some) ended.symm stopped

/-- Appending the terminal report keeps the rule. -/
theorem Follows.reportTerminal (follows : Follows own result next) (type : ProcedureType) :
    Follows own (result.reportTerminal type next.procState) next := by
  obtain ⟨⟨announced, reported, unreported, silent⟩, settled, aligned⟩ := follows
  refine ⟨⟨?_, fun live final => ?_, fun live going => ?_, fun final => ?_⟩, settled, aligned⟩
  · exact reportTerminal_announced announced
  · exact reportTerminal_final (reported live final)
  · rw [reportTerminal_going going]
    exact unreported live going
  · rw [reportTerminal_responseToken]
    exact silent final

/-- The tick most procedures share. -/
theorem Follows.doTick (aligned : own.Aligned) (type : ProcedureType) (delta : Int)
    (failed : ProcedureStates.procState (ProcedureStates.failed : State) = .failed) :
    Follows own (own.doTick type delta).2 (own.doTick type delta).1 := by
  unfold StateMixin.doTick
  split
  case isTrue => exact .idle aligned
  case isFalse running =>
    have live := aligned.running (Bool.eq_true_of_not_eq_false running)
    dsimp only
    split
    case isTrue => exact .finishes live failed.symm rfl rfl rfl (by decide)
    case isFalse => exact .rests aligned rfl rfl id

end StateMixin

open StateMixin

/-! ## Mobility management -/

namespace Authentication

theorem verify_follows {own : Authentication} (live : own.base.procState.isTerminal = false)
    (msg : ParsedMessage) : Follows own.base (own.verify msg).2 (own.verify msg).1.base := by
  unfold verify
  dsimp only
  split
  · split
    · split
      · exact .finishes live rfl rfl rfl rfl (by decide)
      · exact .finishes live rfl rfl rfl rfl (by decide)
    · exact .finishes live rfl rfl rfl rfl (by decide)
  · exact .finishes live rfl rfl rfl rfl (by decide)

theorem feed_follows {own : Authentication} (aligned : own.base.Aligned) (msg : ParsedMessage)
    (session : Option SessionCore) :
    Follows own.base (own.feed msg session).result (own.feed msg session).proc.base := by
  unfold feed
  split
  case h_1 state =>
    have live := aligned.live (by rw [state]; rfl)
    exact .responds live rfl rfl (by decide)
  case h_2 state =>
    have live := aligned.live (by rw [state]; rfl)
    split
    · exact verify_follows live msg
    · exact .idle aligned
  all_goals exact .idle aligned

theorem feedExternalTyped_follows {own : Authentication} (aligned : own.base.Aligned)
    (data : ExternalData) (session : Option SessionCore) :
    Follows own.base (own.feedExternalTyped data session).result
      (own.feedExternalTyped data session).proc.base := by
  unfold feedExternalTyped
  split
  · dsimp only
    split
    case isTrue state =>
      have live := aligned.live (by rw [state]; rfl)
      exact .responds live rfl rfl (by decide)
    case isFalse => exact .idle aligned
  · exact .idle aligned

end Authentication

namespace CipheringMode

theorem feed_follows {own : CipheringMode} (aligned : own.base.Aligned) (msg : ParsedMessage)
    (session : Option SessionCore) :
    Follows own.base (own.feed msg session).result (own.feed msg session).proc.base := by
  unfold feed
  split
  case h_1 state =>
    have live := aligned.live (by rw [state]; rfl)
    exact .responds live rfl rfl (by decide)
  case h_2 state =>
    have live := aligned.live (by rw [state]; rfl)
    split
    · exact .finishes live rfl rfl rfl rfl (by decide)
    · exact .idle aligned
  all_goals exact .idle aligned

theorem feedExternalTyped_follows {own : CipheringMode} (aligned : own.base.Aligned)
    (data : ExternalData) (session : Option SessionCore) :
    Follows own.base (own.feedExternalTyped data session).result
      (own.feedExternalTyped data session).proc.base := by
  unfold feedExternalTyped
  split
  · split
    case isTrue state =>
      have live := aligned.live (by rw [state]; rfl)
      exact .responds live rfl rfl (by decide)
    case isFalse => exact .idle aligned
  · exact .idle aligned

end CipheringMode

namespace LocationUpdate

theorem verify_follows {own : LocationUpdate} (live : own.base.procState.isTerminal = false)
    (msg : ParsedMessage) : Follows own.base (own.verify msg).2 (own.verify msg).1.base := by
  unfold verify
  dsimp only
  split
  · split
    · split
      · exact .waits live rfl rfl (by decide)
      · exact .responds live rfl rfl (by decide)
    · exact .responds live rfl rfl (by decide)
  · exact .waits live rfl rfl (by decide)

/-- Every state that is not final is left to such a state or ended. -/
theorem feedState_follows {own : LocationUpdate} (aligned : own.base.Aligned)
    (msg : ParsedMessage) (session : Option SessionCore) :
    Follows own.base (own.feedState msg session).2 (own.feedState msg session).1.base := by
  unfold feedState
  split
  case h_10 | h_11 | h_12 | h_13 => exact .idle aligned
  case h_8 state =>
    have live := aligned.live (by rw [state]; rfl)
    exact .respondsLast live rfl rfl rfl rfl (by decide)
  case h_9 state =>
    have live := aligned.live (by rw [state]; rfl)
    exact .respondsLast live rfl rfl rfl rfl (by decide)
  case h_6 state =>
    have live := aligned.live (by rw [state]; rfl)
    split
    · exact verify_follows live msg
    · exact .idle aligned
  case h_5 state =>
    have live := aligned.live (by rw [state]; rfl)
    exact .waits live rfl rfl (by decide)
  case h_7 state =>
    have live := aligned.live (by rw [state]; rfl)
    exact .waits live rfl rfl (by decide)
  case h_1 state | h_2 state | h_3 state | h_4 state =>
    have live := aligned.live (by rw [state]; rfl)
    split
    all_goals first
      | exact .idle aligned
      | exact .responds live rfl rfl (by decide)
      | exact .waits live rfl rfl (by decide)

theorem feed_follows {own : LocationUpdate} (aligned : own.base.Aligned) (msg : ParsedMessage)
    (session : Option SessionCore) :
    Follows own.base (own.feed msg session).result (own.feed msg session).proc.base :=
  (feedState_follows aligned msg session).reportTerminal type

theorem feedExternalTyped_follows {own : LocationUpdate} (aligned : own.base.Aligned)
    (data : ExternalData) (session : Option SessionCore) :
    Follows own.base (own.feedExternalTyped data session).result
      (own.feedExternalTyped data session).proc.base := by
  unfold feedExternalTyped
  split
  · dsimp only
    split
    case isTrue state =>
      have live := aligned.live (by rw [state]; rfl)
      exact .responds live rfl rfl (by decide)
    case isFalse => exact .idle aligned
  · split
    case isTrue state =>
      have live := aligned.live (by rw [state]; rfl)
      dsimp only
      split
      · exact .respondsLast live rfl rfl rfl rfl (by decide)
      · exact .respondsLast live rfl rfl rfl rfl (by decide)
    case isFalse => exact .idle aligned
  · exact .idle aligned

end LocationUpdate

namespace IMSIDetach

/-- The state machine of a detach follows the rule. -/
theorem feedState_follows {own : IMSIDetach} (aligned : own.base.Aligned)
    (msg : ParsedMessage) :
    Follows own.base (own.feedState msg).2 (own.feedState msg).1.base := by
  unfold feedState
  split
  case h_4 | h_5 => exact .idle aligned
  case h_1 state =>
    have live := aligned.live (by rw [state]; rfl)
    split
    · exact .responds live rfl rfl (by decide)
    · exact .idle aligned
  case h_2 state =>
    have live := aligned.live (by rw [state]; rfl)
    exact .responds live rfl rfl (by decide)
  case h_3 state =>
    have live := aligned.live (by rw [state]; rfl)
    split
    · exact .finishes live rfl rfl rfl rfl (by decide)
    · exact .idle aligned

theorem feed_follows {own : IMSIDetach} (aligned : own.base.Aligned) (msg : ParsedMessage)
    (session : Option SessionCore) :
    Follows own.base (own.feed msg session).result (own.feed msg session).proc.base :=
  (feedState_follows aligned msg).reportTerminal type

end IMSIDetach

/-! ## Call control -/

namespace CallSetupMO

/-- The answer to a Setup follows the rule. -/
theorem proceed_follows {own : CallSetupMO} (live : own.base.procState.isTerminal = false)
    (msg : ParsedMessage) (session : Option SessionCore) :
    Follows own.base (own.proceed msg session).result (own.proceed msg session).proc.base := by
  unfold proceed
  dsimp only
  split
  · exact .responds live rfl rfl (by decide)
  · exact .responds live rfl rfl (by decide)

theorem feed_follows {own : CallSetupMO} (aligned : own.base.Aligned) (msg : ParsedMessage)
    (session : Option SessionCore) :
    Follows own.base (own.feed msg session).result (own.feed msg session).proc.base := by
  unfold feed
  dsimp only
  split
  case h_10 | h_11 => exact .idle aligned
  case h_1 state =>
    have live := aligned.live (by rw [state]; rfl)
    split
    · exact .responds live rfl rfl (by decide)
    · split
      · exact proceed_follows live msg session
      · exact .idle aligned
  case h_3 state =>
    have live := aligned.live (by rw [state]; rfl)
    split
    · exact proceed_follows live msg session
    · exact .idle aligned
  case h_6 state =>
    have live := aligned.live (by rw [state]; rfl)
    split
    · exact .responds live rfl rfl (by decide)
    · exact .idle aligned
  case h_9 state =>
    have live := aligned.live (by rw [state]; rfl)
    split
    · exact .finishes live rfl rfl rfl rfl (by decide)
    · exact .idle aligned
  case h_2 state | h_5 state =>
    have live := aligned.live (by rw [state]; rfl)
    exact .waits live rfl rfl (by decide)
  case h_4 state | h_7 state | h_8 state =>
    have live := aligned.live (by rw [state]; rfl)
    exact .responds live rfl rfl (by decide)

end CallSetupMO

namespace CallSetupMT

theorem feed_follows {own : CallSetupMT} (aligned : own.base.Aligned) (msg : ParsedMessage)
    (session : Option SessionCore) :
    Follows own.base (own.feed msg session).result (own.feed msg session).proc.base := by
  unfold feed
  dsimp only
  split
  case h_11 | h_12 | h_13 => exact .idle aligned
  case h_2 state | h_7 state =>
    have live := aligned.live (by rw [state]; rfl)
    split
    · exact .responds live rfl rfl (by decide)
    · exact .idle aligned
  case h_5 state =>
    have live := aligned.live (by rw [state]; rfl)
    split
    · exact .waits live rfl rfl (by decide)
    · exact .idle aligned
  case h_10 state =>
    have live := aligned.live (by rw [state]; rfl)
    split
    · exact .finishes live rfl rfl rfl rfl (by decide)
    · exact .idle aligned
  case h_1 state | h_3 state | h_4 state | h_6 state | h_8 state | h_9 state =>
    have live := aligned.live (by rw [state]; rfl)
    exact .responds live rfl rfl (by decide)

theorem feedExternalTyped_follows {own : CallSetupMT} (aligned : own.base.Aligned)
    (data : ExternalData) (session : Option SessionCore) :
    Follows own.base (own.feedExternalTyped data session).result
      (own.feedExternalTyped data session).proc.base := by
  unfold feedExternalTyped
  split
  case isTrue state =>
    have live := aligned.live (by rw [state]; rfl)
    exact .responds live rfl rfl (by decide)
  case isFalse => exact .idle aligned

/-- A page is repeated in the state that waits for its response. -/
theorem tick_follows {own : CallSetupMT} (aligned : own.base.Aligned) (delta : Int) :
    Follows own.base (own.tick delta).2 (own.tick delta).1.base := by
  unfold tick
  split
  case isTrue => exact .idle aligned
  case isFalse running =>
    have live := aligned.running (Bool.eq_true_of_not_eq_false running)
    dsimp only
    split
    · split
      case isTrue => exact .rests aligned rfl rfl fun stopped => absurd stopped running
      case isFalse => exact .finishes live rfl rfl rfl rfl (by decide)
    · exact .rests aligned rfl rfl id

end CallSetupMT

namespace CallRelease

/-- The state machine of a call release follows the rule. -/
theorem feedState_follows {own : CallRelease} (aligned : own.base.Aligned)
    (msg : ParsedMessage) :
    Follows own.base (own.feedState msg).2 (own.feedState msg).1.base := by
  unfold feedState
  split
  case h_5 | h_6 => exact .idle aligned
  case h_1 state =>
    have live := aligned.live (by rw [state]; rfl)
    split
    · exact .responds live rfl rfl (by decide)
    · exact .idle aligned
  case h_2 state =>
    have live := aligned.live (by rw [state]; rfl)
    exact .responds live rfl rfl (by decide)
  case h_3 state =>
    have live := aligned.live (by rw [state]; rfl)
    split
    · exact .respondsLast live rfl rfl rfl rfl (by decide)
    · exact .idle aligned
  case h_4 state =>
    have live := aligned.live (by rw [state]; rfl)
    exact .respondsLast live rfl rfl rfl rfl (by decide)

theorem feed_follows {own : CallRelease} (aligned : own.base.Aligned) (msg : ParsedMessage)
    (session : Option SessionCore) :
    Follows own.base (own.feed msg session).result (own.feed msg session).proc.base :=
  (feedState_follows aligned msg).reportTerminal type

end CallRelease

/-! ## Radio resources -/

namespace ChannelAssignment

theorem feed_follows {own : ChannelAssignment} (aligned : own.base.Aligned)
    (msg : ParsedMessage) (session : Option SessionCore) :
    Follows own.base (own.feed msg session).result (own.feed msg session).proc.base := by
  unfold feed
  split
  case h_5 | h_6 => exact .idle aligned
  case h_1 state =>
    have live := aligned.live (by rw [state]; rfl)
    split
    · exact .waits live rfl rfl (by decide)
    · exact .idle aligned
  case h_2 state =>
    have live := aligned.live (by rw [state]; rfl)
    exact .responds live rfl rfl (by decide)
  case h_3 state =>
    have live := aligned.live (by rw [state]; rfl)
    exact .waits live rfl rfl (by decide)
  case h_4 state =>
    have live := aligned.live (by rw [state]; rfl)
    exact .finishes live rfl rfl rfl rfl (by decide)

end ChannelAssignment

namespace Paging

/-- Waiting for the paging response follows the rule. -/
theorem awaitResponse_follows {own : Paging} (aligned : own.base.Aligned)
    (live : own.base.procState.isTerminal = false) (msg : ParsedMessage)
    (session : Option SessionCore) :
    Follows own.base (own.awaitResponse msg session).result
      (own.awaitResponse msg session).proc.base := by
  unfold awaitResponse
  split
  · exact .finishes live rfl rfl rfl rfl (by decide)
  · exact .idle aligned

theorem feed_follows {own : Paging} (aligned : own.base.Aligned) (msg : ParsedMessage)
    (session : Option SessionCore) :
    Follows own.base (own.feed msg session).result (own.feed msg session).proc.base := by
  unfold feed
  split
  case h_7 | h_8 | h_9 => exact .idle aligned
  case h_1 state | h_3 state | h_5 state =>
    have live := aligned.live (by rw [state]; rfl)
    exact .responds live rfl rfl (by decide)
  case h_2 state | h_4 state | h_6 state =>
    have live := aligned.live (by rw [state]; rfl)
    exact awaitResponse_follows aligned live msg session

theorem feedExternalTyped_follows {own : Paging} (aligned : own.base.Aligned)
    (data : ExternalData) (session : Option SessionCore) :
    Follows own.base (own.feedExternalTyped data session).result
      (own.feedExternalTyped data session).proc.base := by
  unfold feedExternalTyped
  split
  · split
    case isTrue state =>
      have live := aligned.live (by rw [state]; rfl)
      exact .responds live rfl rfl (by decide)
    case isFalse => exact .idle aligned
  · exact .idle aligned

/-- A missed page makes the next one due; the last one ends the procedure. -/
theorem tick_follows {own : Paging} (aligned : own.base.Aligned) (delta : Int) :
    Follows own.base (own.tick delta).2 (own.tick delta).1.base := by
  unfold tick
  split
  case isTrue => exact .idle aligned
  case isFalse running =>
    have live := aligned.running (Bool.eq_true_of_not_eq_false running)
    dsimp only
    split
    · split
      · exact .waits live rfl rfl (by decide)
      · exact .waits live rfl rfl (by decide)
      · exact .finishes live rfl rfl rfl rfl (by decide)
      · split
        case isTrue failed =>
          change own.base.procState = .failed at failed
          rw [failed] at live
          cases live
        case isFalse => exact .rests aligned rfl rfl fun _ => rfl
    · exact .rests aligned rfl rfl id

end Paging

namespace Handover

theorem feed_follows {own : Handover} (aligned : own.base.Aligned) (msg : ParsedMessage)
    (session : Option SessionCore) :
    Follows own.base (own.feed msg session).result (own.feed msg session).proc.base := by
  unfold feed
  split
  case h_3 | h_4 | h_5 => exact .idle aligned
  case h_1 state =>
    have live := aligned.live (by rw [state]; rfl)
    exact .responds live rfl rfl (by decide)
  case h_2 state =>
    have live := aligned.live (by rw [state]; rfl)
    split
    · exact .finishes live rfl rfl rfl rfl (by decide)
    · split
      · exact .finishes live rfl rfl rfl rfl (by decide)
      · exact .idle aligned

theorem feedExternalTyped_follows {own : Handover} (aligned : own.base.Aligned)
    (data : ExternalData) (session : Option SessionCore) :
    Follows own.base (own.feedExternalTyped data session).result
      (own.feedExternalTyped data session).proc.base := by
  unfold feedExternalTyped
  split
  · split
    case isTrue state =>
      have live := aligned.live (by rw [state]; rfl)
      exact .responds live rfl rfl (by decide)
    case isFalse => exact .idle aligned
  · exact .idle aligned

end Handover

/-! ## Procedures of any class -/

namespace Procedure

/-- Cancelling a procedure of any class stops its timer and fails it. -/
def cancel : Procedure → Procedure
  | .locationUpdate own => .locationUpdate { own with base := own.base.doCancel }
  | .authentication own => .authentication { own with base := own.base.doCancel }
  | .cipheringMode own => .cipheringMode { own with base := own.base.doCancel }
  | .callSetupMO own => .callSetupMO { own with base := own.base.doCancel }
  | .callSetupMT own => .callSetupMT { own with base := own.base.doCancel }
  | .channelAssignment own => .channelAssignment { own with base := own.base.doCancel }
  | .handover own => .handover { own with base := own.base.doCancel }
  | .paging own => .paging { own with base := own.base.doCancel }
  | .imsiDetach own => .imsiDetach { own with base := own.base.doCancel }
  | .callRelease own => .callRelease { own with base := own.base.doCancel }

/-- A call on a procedure; every call brings its own session. -/
inductive Op where
  | feed (msg : ParsedMessage) (session : Option SessionCore)
  | feedExternalTyped (data : ExternalData) (session : Option SessionCore)
  | tick (delta : Int)
  | cancel

/-- The procedure after a call, and the result of the step. -/
def exec (proc : Procedure) : Op → Procedure × Option ProcedureStepResult
  | .feed msg session => ((proc.feed msg session).proc, some (proc.feed msg session).result)
  | .feedExternalTyped data session =>
      ((proc.feedExternalTyped data session).proc, some (proc.feedExternalTyped data session).result)
  | .tick delta => ((proc.tick delta).1, some (proc.tick delta).2)
  | .cancel => (proc.cancel, none)

/-- The procedure as a machine. -/
def machine : Foundation.Machine Procedure Op where
  step := fun proc op => some (proc.exec op).1

/-- The procedures the factory creates. -/
inductive Created : Procedure → Prop where
  | locationUpdate : Created ProcedureFactory.createLocationUpdate
  | authentication : Created ProcedureFactory.createAuthentication
  | cipheringMode (algo : UInt8) : Created (ProcedureFactory.createCipheringMode algo)
  | callSetupMO : Created ProcedureFactory.createCallSetupMO
  | callSetupMT (calledNumber : List Char) :
      Created (ProcedureFactory.createCallSetupMT calledNumber)
  | channelAssignment (target : ChannelType) :
      Created (ProcedureFactory.createChannelAssignment target)
  | paging (identity : L3MobileIdentity) : Created (ProcedureFactory.createPaging identity)
  | handover (target : L3ChannelDescription) : Created (ProcedureFactory.createHandover target)
  | callRelease (ti : UInt8) (cause : CCCause) :
      Created (ProcedureFactory.createCallRelease ti cause)
  | imsiDetach : Created ProcedureFactory.createIMSIDetach

/-- The state and timer part of the procedure is aligned. -/
def Aligned : Procedure → Prop
  | .locationUpdate own => own.base.Aligned
  | .authentication own => own.base.Aligned
  | .cipheringMode own => own.base.Aligned
  | .callSetupMO own => own.base.Aligned
  | .callSetupMT own => own.base.Aligned
  | .channelAssignment own => own.base.Aligned
  | .handover own => own.base.Aligned
  | .paging own => own.base.Aligned
  | .imsiDetach own => own.base.Aligned
  | .callRelease own => own.base.Aligned

/-- A procedure starts with its two states aligned. -/
theorem Created.aligned {proc : Procedure} (created : Created proc) : proc.Aligned := by
  cases created <;> exact ⟨.inr ⟨rfl, rfl⟩, nofun⟩

/-- A call keeps a procedure aligned and, unless it cancels a completed one,
follows the rule. -/
def Obeys (proc : Procedure) (op : Op) : Prop :=
  LifecycleStep proc.state (proc.exec op).2 (proc.exec op).1.state
    (proc.exec op).1.timerRunning

/-- A message obeys the rule and keeps the states aligned. -/
theorem feed_obeys {proc : Procedure} (aligned : proc.Aligned) (msg : ParsedMessage)
    (session : Option SessionCore) :
    proc.Obeys (.feed msg session) ∧ (proc.feed msg session).proc.Aligned := by
  cases proc with
  | locationUpdate own =>
      have follows := LocationUpdate.feed_follows aligned msg session
      exact ⟨follows.lifecycleStep, follows.aligned⟩
  | authentication own =>
      have follows := Authentication.feed_follows aligned msg session
      exact ⟨follows.lifecycleStep, follows.aligned⟩
  | cipheringMode own =>
      have follows := CipheringMode.feed_follows aligned msg session
      exact ⟨follows.lifecycleStep, follows.aligned⟩
  | callSetupMO own =>
      have follows := CallSetupMO.feed_follows aligned msg session
      exact ⟨follows.lifecycleStep, follows.aligned⟩
  | callSetupMT own =>
      have follows := CallSetupMT.feed_follows aligned msg session
      exact ⟨follows.lifecycleStep, follows.aligned⟩
  | channelAssignment own =>
      have follows := ChannelAssignment.feed_follows aligned msg session
      exact ⟨follows.lifecycleStep, follows.aligned⟩
  | handover own =>
      have follows := Handover.feed_follows aligned msg session
      exact ⟨follows.lifecycleStep, follows.aligned⟩
  | paging own =>
      have follows := Paging.feed_follows aligned msg session
      exact ⟨follows.lifecycleStep, follows.aligned⟩
  | imsiDetach own =>
      have follows := IMSIDetach.feed_follows aligned msg session
      exact ⟨follows.lifecycleStep, follows.aligned⟩
  | callRelease own =>
      have follows := CallRelease.feed_follows aligned msg session
      exact ⟨follows.lifecycleStep, follows.aligned⟩

/-- Data obeys the rule and keeps the states aligned. -/
theorem feedExternalTyped_obeys {proc : Procedure} (aligned : proc.Aligned)
    (data : ExternalData) (session : Option SessionCore) :
    proc.Obeys (.feedExternalTyped data session) ∧
      (proc.feedExternalTyped data session).proc.Aligned := by
  cases proc with
  | locationUpdate own =>
      have follows := LocationUpdate.feedExternalTyped_follows aligned data session
      exact ⟨follows.lifecycleStep, follows.aligned⟩
  | authentication own =>
      have follows := Authentication.feedExternalTyped_follows aligned data session
      exact ⟨follows.lifecycleStep, follows.aligned⟩
  | cipheringMode own =>
      have follows := CipheringMode.feedExternalTyped_follows aligned data session
      exact ⟨follows.lifecycleStep, follows.aligned⟩
  | callSetupMT own =>
      have follows := CallSetupMT.feedExternalTyped_follows aligned data session
      exact ⟨follows.lifecycleStep, follows.aligned⟩
  | handover own =>
      have follows := Handover.feedExternalTyped_follows aligned data session
      exact ⟨follows.lifecycleStep, follows.aligned⟩
  | paging own =>
      have follows := Paging.feedExternalTyped_follows aligned data session
      exact ⟨follows.lifecycleStep, follows.aligned⟩
  | callSetupMO own | channelAssignment own | imsiDetach own | callRelease own =>
      have follows : Follows own.base {} own.base := .idle aligned
      exact ⟨follows.lifecycleStep, follows.aligned⟩

/-- A tick obeys the rule and keeps the states aligned. -/
theorem tick_obeys {proc : Procedure} (aligned : proc.Aligned) (delta : Int) :
    proc.Obeys (.tick delta) ∧ (proc.tick delta).1.Aligned := by
  cases proc with
  | locationUpdate own | authentication own | cipheringMode own | callSetupMO own
  | channelAssignment own | handover own | imsiDetach own | callRelease own =>
      have follows (type : ProcedureType) : Follows own.base _ _ :=
        .doTick aligned type delta rfl
      exact ⟨(follows _).lifecycleStep, (follows _).aligned⟩
  | callSetupMT own =>
      have follows := CallSetupMT.tick_follows aligned delta
      exact ⟨follows.lifecycleStep, follows.aligned⟩
  | paging own =>
      have follows := Paging.tick_follows aligned delta
      exact ⟨follows.lifecycleStep, follows.aligned⟩

/-- A cancel fails the procedure with its timer stopped. -/
theorem cancel_fails (proc : Procedure) :
    proc.cancel.state = .failed ∧ proc.cancel.timerRunning = false ∧ proc.cancel.Aligned := by
  cases proc <;> exact ⟨rfl, rfl, .inl rfl, fun _ => rfl⟩

/-- No class uses the third final state. -/
theorem Aligned.not_timedOut {proc : Procedure} (aligned : proc.Aligned) :
    proc.state ≠ .timedOut := by
  have shown : ∀ {State : Type} [ProcedureStates State] {own : StateMixin State},
      own.Aligned → (∀ state : State, ProcedureStates.procState state ≠ .timedOut) →
        own.procState ≠ .timedOut := by
    intro State _ own aligned never
    rcases aligned.shown with same | ⟨initial, -⟩
    · rw [same]
      exact never _
    · rw [initial]
      decide
  cases proc <;> refine shown aligned ?_ <;> rintro ⟨⟩ <;> decide

/-- A call on a procedure follows the rule unless it cancels a completed one. -/
theorem obeys_iff {proc : Procedure} (aligned : proc.Aligned) (op : Op) :
    proc.Obeys op ↔ ¬ (op = .cancel ∧ proc.state = .completed) := by
  cases op with
  | feed msg session => exact iff_of_true (feed_obeys aligned msg session).1 nofun
  | feedExternalTyped data session =>
      exact iff_of_true (feedExternalTyped_obeys aligned data session).1 nofun
  | tick delta => exact iff_of_true (tick_obeys aligned delta).1 nofun
  | cancel =>
      obtain ⟨failed, stopped, -⟩ := cancel_fails proc
      change LifecycleStep proc.state none proc.cancel.state proc.cancel.timerRunning ↔ _
      rw [failed, stopped]
      constructor
      · rintro step ⟨-, completed⟩
        have same := step.settled (by rw [completed]; rfl)
        rw [completed] at same
        cases same
      · intro other
        refine ⟨fun _ member => absurd member (Option.not_mem_none _), fun final => ?_,
          fun _ => rfl⟩
        cases state : proc.state with
        | failed => rfl
        | completed => exact absurd ⟨rfl, state⟩ other
        | timedOut => exact absurd state aligned.not_timedOut
        | initiated | inProgress | waitingExternal =>
            rw [state] at final
            cases final

/-- Every call keeps the two states aligned. -/
theorem exec_aligned {proc : Procedure} (aligned : proc.Aligned) (op : Op) :
    (proc.exec op).1.Aligned := by
  cases op with
  | feed msg session => exact (feed_obeys aligned msg session).2
  | feedExternalTyped data session => exact (feedExternalTyped_obeys aligned data session).2
  | tick delta => exact (tick_obeys aligned delta).2
  | cancel => exact (cancel_fails proc).2.2

/-- The two states are aligned in every state of every run. -/
theorem aligned_of_run {origin proc : Procedure} (created : Created origin) {ops : List Op}
    (run : machine.Run (fun _ _ _ => True) origin ops proc) : proc.Aligned := by
  refine run.invariant (fun _ state => state.Aligned) created.aligned ?_
  rintro past source target op aligned stepped -
  obtain rfl := Option.some.inj stepped
  exact exec_aligned aligned op

/-- **Lifecycle rule.**  After any calls on a procedure of any class, the next
call follows the rule exactly when it is not the cancellation of a completed
procedure. -/
theorem lifecycle_rule_iff {origin proc : Procedure} (created : Created origin) {ops : List Op}
    (run : machine.Run (fun _ _ _ => True) origin ops proc) (op : Op) :
    proc.Obeys op ↔ ¬ (op = .cancel ∧ proc.state = .completed) :=
  obeys_iff (aligned_of_run created run) op

/-- A call release on its way: the tick of its timer follows the rule. -/
theorem lifecycle_rule_iff_release :
    ∃ proc, machine.Run (fun _ _ _ => True)
        (ProcedureFactory.createCallRelease 3 .normalCallClearing)
        [.feed (.disconnect 3 16) none] proc ∧
      proc.state = .inProgress ∧ proc.Obeys (.tick 12000) := by
  refine ⟨_, .next .origin rfl trivial, rfl, ?_⟩
  refine (lifecycle_rule_iff (.callRelease 3 .normalCallClearing)
    (.next .origin rfl trivial) (.tick 12000)).mpr ?_
  rintro ⟨⟨⟩, -⟩

/-- A completed IMSI detach is failed by `cancel`. -/
theorem cancel_fails_completed :
    ∃ proc, machine.Run (fun _ _ _ => True) ProcedureFactory.createIMSIDetach
        [.feed (.other .mobilityManagement MTI.imsiDetachIndication 0) none,
          .feed (.other .mobilityManagement MTI.identityResponse 0) none] proc ∧
      proc.state = .completed ∧ (proc.exec .cancel).1.state = .failed ∧ ¬ proc.Obeys .cancel := by
  refine ⟨_, .next (.next .origin rfl trivial) rfl trivial, rfl, rfl, ?_⟩
  intro step
  exact absurd (step.settled rfl) (by decide)

end Procedure

end Stack

end Gsml3
