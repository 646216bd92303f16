import Gsml3.Stack.ProcedureEvents
import Gsml3.Stack.ProcedureLifecycle

/-!
# Supervision of call set-up

A mobile-originated call is supervised by one timer from the acceptance of its
Setup on.  It is restarted by the assignment command and never stopped, so that
it still fails the call when the assignment has been completed in time.
-/

namespace Gsml3

namespace Stack

open Foundation

/-! ## Ticks alone -/

section Ticked

variable {State : Type}

/-- A timer is running and has time left. -/
structure StateMixin.Supervised (own : StateMixin State) : Prop where
  running : own.timerRunning = true
  left : 0 < own.timerRemaining

variable [ProcedureStates State]

theorem StateMixin.Supervised.transitionTo {own : StateMixin State} (supervised : own.Supervised)
    (state : State) : (own.transitionTo state).Supervised :=
  ⟨supervised.running, supervised.left⟩

/-- State and timer after ticks alone. -/
def StateMixin.ticked (own : StateMixin State) (type : ProcedureType) (deltas : List Int) :
    StateMixin State :=
  deltas.foldl (fun own delta => (own.doTick type delta).1) own

variable {own : StateMixin State} {type : ProcedureType}

theorem ticked_stopped (stopped : own.timerRunning = false) (deltas : List Int) :
    own.ticked type deltas = own := by
  induction deltas with
  | nil => rfl
  | cons delta deltas ih =>
      rw [StateMixin.ticked, List.foldl_cons, doTick_stopped stopped]
      exact ih

/-- Ticks fail a procedure whose timer runs exactly if some of the first of them use up the time
that is left. -/
theorem ticked_failed_iff (supervised : own.Supervised)
    (live : own.procState ≠ .failed) (deltas : List Int) :
    (own.ticked type deltas).procState = .failed ↔
      ∃ front, front <+: deltas ∧ own.timerRemaining ≤ front.sum := by
  induction deltas generalizing own with
  | nil =>
      refine iff_of_false live ?_
      rintro ⟨front, ahead, passed⟩
      obtain rfl := List.prefix_nil.mp ahead
      exact absurd passed supervised.left.not_ge
  | cons delta deltas ih =>
      have running := supervised.running
      rw [StateMixin.ticked, List.foldl_cons, ← StateMixin.ticked]
      by_cases expired : own.timerRemaining - delta ≤ 0
      · have failed : (own.doTick type delta).1 =
            { own with timerRemaining := own.timerRemaining - delta }.stopTimer.doFail := by
          rw [StateMixin.doTick, if_neg (by rw [running]; simp)]
          dsimp only
          rw [if_pos expired]
        rw [failed, ticked_stopped rfl]
        refine iff_of_true rfl ⟨[delta], List.cons_prefix_cons.mpr ⟨rfl, List.nil_prefix⟩, ?_⟩
        rw [List.sum_singleton]
        omega
      · have counted := (doTick_running running type delta).2 (not_le.mp expired)
        have rest := @ih { own with timerRemaining := own.timerRemaining - delta }
          ⟨running, not_le.mp expired⟩ live
        rw [counted, rest]
        constructor
        · rintro ⟨front, ahead, passed⟩
          refine ⟨delta :: front, List.cons_prefix_cons.mpr ⟨rfl, ahead⟩, ?_⟩
          rw [List.sum_cons]
          dsimp only at passed
          omega
        · rintro ⟨front, ahead, passed⟩
          cases front with
          | nil => exact absurd passed supervised.left.not_ge
          | cons first front =>
              obtain ⟨rfl, shorter⟩ := List.cons_prefix_cons.mp ahead
              refine ⟨front, shorter, ?_⟩
              rw [List.sum_cons] at passed
              dsimp only
              omega

end Ticked

namespace CallSetupMO

instance : EventDriven CallSetupMO where
  react own
    | .feed msg session => own.feed msg session
    | .external _ session => ⟨own, session, {}⟩
    | .tick delta => ⟨(own.tick delta).1, none, (own.tick delta).2⟩

/-- The event is the arrival of an AssignmentComplete. -/
def Completes : ProcedureEvent → Prop
  | .feed msg _ => msg.Is .radioResource MTI.assignmentComplete
  | .external _ _ | .tick _ => False

/-- An AssignmentComplete has arrived that was waited for. -/
def Accepted (past : List ProcedureEvent) : Prop :=
  History.Happened (fun before event =>
    (after ({} : CallSetupMO) before).base.currentState = .waitAssignComplete ∧
      Completes event) past

/-- The Setup has been answered. -/
def Proceeding (past : List ProcedureEvent) : Prop :=
  .callProceeding ∈ signalled ({} : CallSetupMO) past

/-- The timer fails the procedure before an assignment is completed, and not after that. -/
structure Supervises (past : List ProcedureEvent) (deltas : List Int) : Prop where
  released : Accepted past → (after ({} : CallSetupMO) past).base.procState ≠ .failed →
    (after ({} : CallSetupMO) (past ++ deltas.map .tick)).base.procState ≠ .failed
  supervised : Proceeding past → ¬ Accepted past →
    (after ({} : CallSetupMO) past).base.timerRemaining < deltas.sum →
      (after ({} : CallSetupMO) (past ++ deltas.map .tick)).base.procState = .failed

/-- The procedure follows its history. -/
structure Tracks (past : List ProcedureEvent) (own : CallSetupMO) : Prop where
  reached : after ({} : CallSetupMO) past = own
  aligned : own.base.Aligned
  history : match own.base.currentState with
    | .init | .serviceAccept | .waitSetup => ¬ Proceeding past ∧ ¬ Accepted past
    | .proceeding | .assignTCH | .waitAssignComplete => ¬ Accepted past ∧ own.base.Supervised
    | .alerting | .connect | .active => Accepted past ∧ own.base.Supervised
    | .completed => Accepted past
    | .failed => True

/-! ## Messages -/

section Messages

variable {own : CallSetupMO} {msg : ParsedMessage} {session : Option SessionCore}

/-- What a message does to state and timer, and the response it causes. -/
inductive FeedsTo (own : CallSetupMO) (msg : ParsedMessage) :
    StateMixin CallSetupMOState → ResponseToken → Prop where
  | stays (unassigned : own.base.currentState = .waitAssignComplete →
      ¬ msg.Is .radioResource MTI.assignmentComplete) : FeedsTo own msg own.base .none
  | serves (state : own.base.currentState = .init) :
      FeedsTo own msg (own.base.transitionTo .serviceAccept) .cmServiceAccept
  | waitsSetup (state : own.base.currentState = .serviceAccept) :
      FeedsTo own msg (own.base.transitionTo .waitSetup) .none
  | proceeds (state : own.base.currentState = .init ∨ own.base.currentState = .waitSetup) :
      FeedsTo own msg ((own.base.startTimer .T3101 3000).transitionTo .proceeding) .callProceeding
  | assigns (state : own.base.currentState = .proceeding) :
      FeedsTo own msg ((own.base.transitionTo .assignTCH).startTimer .T3101 3000)
        .assignmentCommand
  | waits (state : own.base.currentState = .assignTCH) :
      FeedsTo own msg (own.base.transitionTo .waitAssignComplete) .none
  | accepts (state : own.base.currentState = .waitAssignComplete)
      (assigned : msg.Is .radioResource MTI.assignmentComplete) :
      FeedsTo own msg (own.base.transitionTo .alerting) .alerting
  | connects (state : own.base.currentState = .alerting) :
      FeedsTo own msg (own.base.transitionTo .connect) .connect
  | activates (state : own.base.currentState = .connect) :
      FeedsTo own msg (own.base.transitionTo .active) .connectAcknowledge
  | completes (state : own.base.currentState = .active) :
      FeedsTo own msg own.base.complete .none

theorem proceed_to (state : own.base.currentState = .init ∨ own.base.currentState = .waitSetup)
    (msg : ParsedMessage) (session : Option SessionCore) :
    FeedsTo own msg (own.proceed msg session).proc.base
      (own.proceed msg session).result.responseToken := by
  unfold proceed
  dsimp only
  split
  · exact .proceeds state
  · exact .proceeds state

theorem feed_to (own : CallSetupMO) (msg : ParsedMessage) (session : Option SessionCore) :
    FeedsTo own msg (own.feed msg session).proc.base
      (own.feed msg session).result.responseToken := by
  have elsewhere {state : CallSetupMOState} (here : own.base.currentState = state)
      (other : state ≠ .waitAssignComplete) : FeedsTo own msg own.base .none :=
    .stays fun waits => absurd (here.symm.trans waits) other
  unfold feed
  dsimp only
  split
  case h_1 state =>
    split
    · exact .serves state
    · split
      · exact proceed_to (.inl state) msg session
      · exact elsewhere state nofun
  case h_2 state => exact .waitsSetup state
  case h_3 state =>
    split
    · exact proceed_to (.inr state) msg session
    · exact elsewhere state nofun
  case h_4 state => exact .assigns state
  case h_5 state => exact .waits state
  case h_6 state =>
    split
    case isTrue assigned => exact .accepts state assigned
    case isFalse other => exact .stays fun _ => other
  case h_7 state => exact .connects state
  case h_8 state => exact .activates state
  case h_9 state =>
    split
    · exact .completes state
    · exact elsewhere state nofun
  case h_10 state | h_11 state => exact elsewhere state nofun

end Messages

/-! ## Runs -/

section Runs

variable {own : CallSetupMO} {past : List ProcedureEvent}

theorem accepted_snoc {event : ProcedureEvent} :
    Accepted (past ++ [event]) ↔ Accepted past ∨
      (after ({} : CallSetupMO) past).base.currentState = .waitAssignComplete ∧ Completes event :=
  History.happened_snoc

theorem proceeding_snoc {event : ProcedureEvent} :
    Proceeding (past ++ [event]) ↔ Proceeding past ∨
      .callProceeding ∈ (EventDriven.react (after ({} : CallSetupMO) past) event).result.announced := by
  rw [Proceeding, signalled_snoc, List.mem_append]
  rfl

theorem announces {result : ProcedureStepResult} :
    .callProceeding ∈ result.announced ↔ result.responseToken = .callProceeding := by
  unfold ProcedureStepResult.announced
  split
  case isTrue none =>
    rw [none]
    exact iff_of_false List.not_mem_nil nofun
  case isFalse => rw [List.mem_singleton, eq_comm]

theorem Tracks.feed (tracks : Tracks past own) (msg : ParsedMessage)
    (session : Option SessionCore) :
    Tracks (past ++ [.feed msg session]) (own.feed msg session).proc := by
  have reached : after ({} : CallSetupMO) (past ++ [.feed msg session]) =
      (own.feed msg session).proc := by
    rw [after_snoc, tracks.reached]
    rfl
  refine ⟨reached, (feed_follows tracks.aligned msg session).aligned, ?_⟩
  have history := tracks.history
  have proceeds : Proceeding (past ++ [.feed msg session]) ↔
      Proceeding past ∨ (own.feed msg session).result.responseToken = .callProceeding := by
    rw [proceeding_snoc, announces, tracks.reached]
    rfl
  have accepts : Accepted (past ++ [.feed msg session]) ↔ Accepted past ∨
      own.base.currentState = .waitAssignComplete ∧
        msg.Is .radioResource MTI.assignmentComplete := by
    rw [accepted_snoc, tracks.reached]
    rfl
  rw [proceeds, accepts]
  have leads := feed_to own msg session
  generalize (own.feed msg session).proc.base = next,
    (own.feed msg session).result.responseToken = token at leads
  cases leads with
  | stays unassigned =>
      have now : ¬ (own.base.currentState = .waitAssignComplete ∧
          msg.Is .radioResource MTI.assignmentComplete) := fun assigned =>
        unassigned assigned.1 assigned.2
      rw [or_iff_left now, or_iff_left (nofun : ResponseToken.none ≠ .callProceeding)]
      exact history
  | serves state =>
      rw [state] at history ⊢
      exact ⟨not_or.mpr ⟨history.1, nofun⟩, not_or.mpr ⟨history.2, fun now => nomatch now.1⟩⟩
  | waitsSetup state =>
      rw [state] at history ⊢
      exact ⟨not_or.mpr ⟨history.1, nofun⟩, not_or.mpr ⟨history.2, fun now => nomatch now.1⟩⟩
  | proceeds state =>
      have unaccepted : ¬ Accepted past := by
        rcases state with state | state <;>
        · rw [state] at history
          exact history.2
      have elsewhere : own.base.currentState ≠ .waitAssignComplete := by
        rcases state with state | state <;>
        · rw [state]
          nofun
      exact ⟨not_or.mpr ⟨unaccepted, fun now => elsewhere now.1⟩, rfl, Int.ofNat_lt.mpr (Nat.succ_pos 2999)⟩
  | assigns state =>
      rw [state] at history ⊢
      exact ⟨not_or.mpr ⟨history.1, fun now => nomatch now.1⟩, rfl, Int.ofNat_lt.mpr (Nat.succ_pos 2999)⟩
  | waits state =>
      rw [state] at history ⊢
      exact ⟨not_or.mpr ⟨history.1, fun now => nomatch now.1⟩, history.2.transitionTo _⟩
  | accepts state assigned =>
      rw [state] at history ⊢
      exact ⟨.inr ⟨rfl, assigned⟩, history.2.transitionTo _⟩
  | connects state | activates state =>
      rw [state] at history ⊢
      exact ⟨.inl history.1, history.2.transitionTo _⟩
  | completes state =>
      rw [state] at history ⊢
      exact .inl history.1

/-- An event without a response that leaves the state. -/
theorem Tracks.quiet {event : ProcedureEvent} {next : CallSetupMO} (tracks : Tracks past own)
    (reacts : (EventDriven.react own event).proc = next)
    (silent : (EventDriven.react own event).result.responseToken = .none)
    (other : ¬ Completes event) (aligned : next.base.Aligned)
    (state : next.base.currentState = own.base.currentState)
    (supervised : own.base.Supervised → next.base.Supervised) : Tracks (past ++ [event]) next := by
  have proceeds : Proceeding (past ++ [event]) ↔ Proceeding past := by
    rw [proceeding_snoc, announces, tracks.reached, silent]
    exact or_iff_left nofun
  have accepts : Accepted (past ++ [event]) ↔ Accepted past := by
    rw [accepted_snoc]
    exact or_iff_left fun now => other now.2
  refine ⟨by rw [after_snoc, tracks.reached, reacts], aligned, ?_⟩
  have history := tracks.history
  rw [state, proceeds, accepts]
  split <;> rename_i here <;> rw [here] at history
  case h_4 | h_5 | h_6 | h_7 | h_8 | h_9 => exact ⟨history.1, supervised history.2⟩
  all_goals exact history

theorem Tracks.tick (tracks : Tracks past own) (delta : Int) :
    Tracks (past ++ [.tick delta]) (own.tick delta).1 := by
  have aligned := (StateMixin.Follows.doTick tracks.aligned type delta rfl).aligned
  by_cases running : own.base.timerRunning = true
  · by_cases expired : own.base.timerRemaining - delta ≤ 0
    · refine ⟨by rw [after_snoc, tracks.reached]; rfl, aligned, ?_⟩
      have failed : (own.tick delta).1.base.currentState = .failed := by
        change (own.base.doTick type delta).1.currentState = .failed
        rw [StateMixin.doTick, if_neg (by rw [running]; simp)]
        dsimp only
        rw [if_pos expired]
        rfl
      rw [failed]
      trivial
    · have counted := (doTick_running running type delta).2 (not_le.mp expired)
      have next : (own.tick delta).1.base =
          { own.base with timerRemaining := own.base.timerRemaining - delta } := counted
      refine tracks.quiet rfl ?_ (by rintro ⟨⟩) aligned (by rw [next]) fun _ => ?_
      · change (own.base.doTick type delta).2.responseToken = .none
        rw [StateMixin.doTick, if_neg (by rw [running]; simp)]
        dsimp only
        rw [if_neg expired]
      · rw [next]
        exact ⟨running, not_le.mp expired⟩
  · have kept := doTick_stopped (Bool.eq_false_of_not_eq_true running) type delta
    refine tracks.quiet rfl ?_ (by rintro ⟨⟩) aligned ?_ fun supervised => ?_
    · change (own.base.doTick type delta).2.responseToken = .none
      rw [kept]
    · change (own.base.doTick type delta).1.currentState = _
      rw [kept]
    · exact absurd supervised.running running

theorem tracks_after (past : List ProcedureEvent) : Tracks past (after ({} : CallSetupMO) past) := by
  refine after_invariant Tracks ?_ ?_ past
  · refine ⟨rfl, ⟨.inr ⟨rfl, rfl⟩, nofun⟩, List.not_mem_nil, ?_⟩
    rintro ⟨before, event, later, parts, -⟩
    exact absurd parts (by simp)
  · intro past event tracks
    cases event with
    | feed msg session => exact tracks.feed msg session
    | external data session => exact tracks.quiet rfl rfl nofun tracks.aligned rfl id
    | tick delta => exact tracks.tick delta

theorem Tracks.live (tracks : Tracks past own) (running : own.base.timerRunning = true) :
    own.base.procState ≠ .failed := by
  intro failed
  have going := tracks.aligned.running running
  rw [failed] at going
  cases going

/-- A timer that runs has time left. -/
theorem Tracks.supervised (tracks : Tracks past own) (accepted : Accepted past)
    (running : own.base.timerRunning = true) : own.base.Supervised := by
  have history := tracks.history
  have going := tracks.aligned.going (tracks.aligned.running running)
  split at history <;> rename_i here
  case h_7 | h_8 | h_9 => exact history.2
  case h_1 | h_2 | h_3 => exact absurd accepted history.2
  case h_4 | h_5 | h_6 => exact absurd accepted history.1
  case h_10 | h_11 =>
    rw [here] at going
    cases going

/-- Between the answer to the Setup and the completion of the assignment the timer runs. -/
theorem Tracks.proceeding (tracks : Tracks past own) (proceeding : Proceeding past)
    (unaccepted : ¬ Accepted past) : own.base.Supervised ∨ own.base.procState = .failed := by
  have history := tracks.history
  split at history <;> rename_i here
  case h_1 | h_2 | h_3 => exact absurd proceeding history.1
  case h_4 | h_5 | h_6 => exact .inl history.2
  case h_7 | h_8 | h_9 => exact absurd history.1 unaccepted
  case h_10 => exact absurd history unaccepted
  case h_11 =>
    rcases tracks.aligned.shown with shown | ⟨-, going⟩
    · rw [shown, here]
      exact .inr rfl
    · rw [here] at going
      cases going

/-! ## The timer -/

theorem after_ticks (own : CallSetupMO) (deltas : List Int) :
    (after own (deltas.map .tick)).base = own.base.ticked type deltas := by
  induction deltas generalizing own with
  | nil => rfl
  | cons delta deltas ih =>
      rw [List.map_cons, after_cons, ih]
      rfl

theorem after_past_ticks (past : List ProcedureEvent) (deltas : List Int) :
    (after ({} : CallSetupMO) (past ++ deltas.map .tick)).base =
      (after ({} : CallSetupMO) past).base.ticked type deltas := by
  rw [← after_ticks, after, List.foldl_append]
  rfl

/-- **Supervision of the assignment.**  Before the assignment is completed the timer fails the
call when it has run out.  After that it does so too: the call is released from supervision
exactly if the ticks leave some of the time that is left. -/
theorem supervises_iff (past : List ProcedureEvent) (deltas : List Int) :
    Supervises past deltas ↔
      (Accepted past → (after ({} : CallSetupMO) past).base.timerRunning = true →
        ∀ front, front <+: deltas →
          front.sum < (after ({} : CallSetupMO) past).base.timerRemaining) := by
  have tracks := tracks_after past
  have ticked := after_past_ticks past deltas
  constructor
  · intro supervises accepted running front ahead
    have live := tracks.live running
    by_contra passed
    refine supervises.released accepted live ?_
    rw [ticked]
    exact (ticked_failed_iff (tracks.supervised accepted running) live deltas).mpr
      ⟨front, ahead, not_lt.mp passed⟩
  · intro leaves
    constructor
    · intro accepted live failed
      rw [ticked] at failed
      by_cases running : (after ({} : CallSetupMO) past).base.timerRunning = true
      · obtain ⟨front, ahead, passed⟩ :=
          (ticked_failed_iff (tracks.supervised accepted running) live deltas).mp failed
        exact absurd (leaves accepted running front ahead) passed.not_gt
      · rw [ticked_stopped (Bool.eq_false_of_not_eq_true running)] at failed
        exact live failed
    · intro proceeding unaccepted passed
      rw [ticked]
      rcases tracks.proceeding proceeding unaccepted with supervised | failed
      · have live := tracks.live supervised.running
        exact (ticked_failed_iff supervised live deltas).mpr
          ⟨deltas, List.prefix_refl deltas, passed.le⟩
      · have stopped := tracks.aligned.stopped (by rw [failed]; rfl)
        rw [ticked_stopped stopped]
        exact failed

/-- A call whose assignment has been completed. -/
private def assignedCall : List ProcedureEvent :=
  [.feed (.setup 3) none, .feed (.setup 3) none, .feed (.setup 3) none,
    .feed (.other .radioResource MTI.assignmentComplete 0) none]

/-- A call fails three seconds after the assignment command although the assignment was
completed. -/
theorem assigned_call_fails :
    Accepted assignedCall ∧ (after ({} : CallSetupMO) assignedCall).base.procState = .inProgress ∧
      (after ({} : CallSetupMO) (assignedCall ++ [.tick 3000])).base.procState = .failed ∧
        ¬ Supervises assignedCall [3000] := by
  have accepted : Accepted assignedCall :=
    ⟨assignedCall.take 3, _, [], rfl, by decide, rfl, rfl⟩
  refine ⟨accepted, by decide, by decide, fun supervises => ?_⟩
  exact supervises.released accepted (by decide) (by decide)

end Runs

end CallSetupMO

/-! ## The mobile-terminated sibling -/

namespace CallSetupMT

instance : EventDriven CallSetupMT where
  react own
    | .feed msg session => own.feed msg session
    | .external data session => own.feedExternalTyped data session
    | .tick delta => ⟨(own.tick delta).1, none, (own.tick delta).2⟩

/-- The assignment of a call has been completed, and no timer is running. -/
structure Released (own : CallSetupMT) : Prop where
  state : own.base.currentState = .alerting ∨ own.base.currentState = .connect ∨
    own.base.currentState = .active ∨ own.base.currentState = .completed
  live : own.base.procState ≠ .failed
  stopped : own.base.timerRunning = false

theorem released_now {own : CallSetupMT} {msg : ParsedMessage}
    (waits : own.base.currentState = .waitAssignComplete)
    (assigned : msg.Is .radioResource MTI.assignmentComplete) (session : Option SessionCore) :
    (own.feed msg session).proc.Released := by
  unfold feed
  dsimp only
  rw [waits]
  dsimp only
  rw [if_pos assigned]
  exact ⟨.inl rfl, nofun, rfl⟩

theorem Released.react {own : CallSetupMT} (released : own.Released) (event : ProcedureEvent) :
    (EventDriven.react own event).proc.Released := by
  cases event with
  | feed msg session =>
      change (own.feed msg session).proc.Released
      unfold feed
      dsimp only
      rcases released.state with state | state | state | state
      · rw [state]
        exact ⟨.inr (.inl rfl), nofun, released.stopped⟩
      · rw [state]
        exact ⟨.inr (.inr (.inl rfl)), nofun, released.stopped⟩
      · rw [state]
        dsimp only
        split
        · exact ⟨.inr (.inr (.inr rfl)), nofun, rfl⟩
        · exact released
      · rw [state]
        exact released
  | external data session =>
      change (own.feedExternalTyped data session).proc.Released
      rw [feedExternalTyped, if_neg ?_]
      · exact released
      · rcases released.state with state | state | state | state <;> rw [state] <;> nofun
  | tick delta =>
      change (own.tick delta).1.Released
      rw [tick, if_pos released.stopped]
      exact released

/-- Once the assignment of a mobile-terminated call has been completed nothing fails it. -/
theorem Released.after {own : CallSetupMT} (released : own.Released)
    (events : List ProcedureEvent) : (after own events).Released := by
  induction events generalizing own with
  | nil => exact released
  | cons event events ih => exact ih (released.react event)

end CallSetupMT

end Stack

end Gsml3
