import Gsml3.Stack.RadioProcedures

/-!
# Timeouts of paging

A page that is due is sent when the next message is fed, and awaited for five seconds from then.
Without a response the procedure fails when the third page has been waited for; time that passes
while a page is due does not count.
-/

namespace Gsml3

namespace Stack

namespace Paging

/-- What reaches a procedure that gets no paging response. -/
inductive Event where
  | feed (msg : ParsedMessage) (session : Option SessionCore) (other : ¬ Matches msg)
  | external (data : ExternalData) (session : Option SessionCore)
  | tick (delta : Int)

namespace Event

def isFeed : Event → Bool
  | .feed .. => true
  | .external .. | .tick _ => false

def isTrigger : Event → Bool
  | .external (.pagingTrigger _) _ => true
  | .feed .. | .external .. | .tick _ => false

/-- The time that passes with an event. -/
def elapsed : Event → Int
  | .tick delta => delta
  | .feed .. | .external .. => 0

end Event

/-- The procedure after an event. -/
def step (own : Paging) : Event → Paging
  | .feed msg session _ => (own.feed msg session).proc
  | .external data session => (own.feedExternalTyped data session).proc
  | .tick delta => (own.tick delta).1

/-- The procedure after events. -/
def after (own : Paging) (events : List Event) : Paging :=
  events.foldl step own

/-! ## Waits -/

/-- The time that passes with events. -/
def elapsed (events : List Event) : Int :=
  (events.map Event.elapsed).sum

/-- The time has passed with the last event and not before. -/
def WaitedOut (left : Int) (wait : List Event) : Prop :=
  left ≤ elapsed wait ∧ ∀ front, front <+: wait → front ≠ wait → elapsed front < left

/-- Events in which `n` pages are sent by a message and waited for, one after the other. -/
def PagedOut : Nat → List Event → Prop
  | 0, _ => True
  | n + 1, events => ∃ idle fed wait rest, events = idle ++ fed :: (wait ++ rest) ∧
      (∀ event ∈ idle, event.isFeed = false) ∧ fed.isFeed = true ∧ WaitedOut 5000 wait ∧
      PagedOut n rest

/-- Events in which a page is waited for, and `n` more after it. -/
def OutAfter (left : Int) (n : Nat) (events : List Event) : Prop :=
  ∃ wait rest, events = wait ++ rest ∧ WaitedOut left wait ∧ PagedOut n rest

/-- Events of which the first ones are waited out and the others are as they should. -/
def WaitedThen (left : Int) (later : List Event → Prop) (events : List Event) : Prop :=
  ∃ wait rest, events = wait ++ rest ∧ WaitedOut left wait ∧ later rest

section Waits

variable {left : Int} {n : Nat} {event : Event} {events wait : List Event}
  {later : List Event → Prop}

/-- The time of events in sequence. -/
theorem elapsed_cons (event : Event) (events : List Event) :
    elapsed (event :: events) = event.elapsed + elapsed events := by
  rw [elapsed, List.map_cons, List.sum_cons]
  rfl

theorem not_waitedOut_nil (positive : 0 < left) : ¬ WaitedOut left [] :=
  fun waited => absurd waited.1 (Int.not_le.mpr positive)

theorem waitedOut_singleton (positive : 0 < left) (reached : left ≤ event.elapsed) :
    WaitedOut left [event] := by
  refine ⟨by rw [elapsed_cons]; exact reached.trans_eq (Int.add_zero _).symm, ?_⟩
  intro front ahead proper
  cases front with
  | nil => exact positive
  | cons first front =>
      obtain ⟨rfl, shorter⟩ := List.cons_prefix_cons.mp ahead
      exact absurd (congrArg (List.cons first) (List.prefix_nil.mp shorter)) proper

/-- A wait goes on behind an event that is too short. -/
theorem waitedOut_cons (positive : 0 < left) (short : event.elapsed < left) :
    WaitedOut left (event :: wait) ↔ WaitedOut (left - event.elapsed) wait := by
  constructor
  · intro ⟨reached, before⟩
    rw [elapsed_cons] at reached
    refine ⟨by omega, fun front ahead proper => ?_⟩
    have earlier := before (event :: front) (List.cons_prefix_cons.mpr ⟨rfl, ahead⟩)
      fun same => proper (List.cons.inj same).2
    rw [elapsed_cons] at earlier
    omega
  · intro ⟨reached, before⟩
    refine ⟨by rw [elapsed_cons]; omega, fun front ahead proper => ?_⟩
    cases front with
    | nil => exact positive
    | cons first front =>
        obtain ⟨rfl, shorter⟩ := List.cons_prefix_cons.mp ahead
        have earlier := before front shorter fun same => proper (congrArg (List.cons first) same)
        rw [elapsed_cons]
        omega

theorem not_waitedThen_nil (positive : 0 < left) : ¬ WaitedThen left later [] := by
  intro ⟨wait, rest, parts, waited, _⟩
  obtain ⟨rfl, rfl⟩ := List.append_eq_nil_iff.mp parts.symm
  exact not_waitedOut_nil positive waited

/-- The wait is over with an event that is long enough. -/
theorem waitedThen_reached (positive : 0 < left) (reached : left ≤ event.elapsed) :
    WaitedThen left later (event :: events) ↔ later events := by
  constructor
  · intro ⟨wait, rest, parts, waited, holds⟩
    cases wait with
    | nil => exact absurd waited (not_waitedOut_nil positive)
    | cons first wait =>
        obtain ⟨rfl, rfl⟩ := List.cons.inj parts
        cases wait with
        | nil => exact holds
        | cons second wait =>
            have early := waited.2 [event] (List.cons_prefix_cons.mpr ⟨rfl, List.nil_prefix⟩) nofun
            rw [elapsed_cons, elapsed, List.map_nil, List.sum_nil] at early
            omega
  · intro holds
    exact ⟨[event], events, rfl, waitedOut_singleton positive reached, holds⟩

/-- A wait goes on behind an event that is too short. -/
theorem waitedThen_short (positive : 0 < left) (short : event.elapsed < left) :
    WaitedThen left later (event :: events) ↔ WaitedThen (left - event.elapsed) later events := by
  constructor
  · intro ⟨wait, rest, parts, waited, holds⟩
    cases wait with
    | nil => exact absurd waited (not_waitedOut_nil positive)
    | cons first wait =>
        obtain ⟨rfl, rfl⟩ := List.cons.inj parts
        exact ⟨wait, rest, rfl, (waitedOut_cons positive short).mp waited, holds⟩
  · intro ⟨wait, rest, parts, waited, holds⟩
    exact ⟨event :: wait, rest, congrArg (List.cons event) parts, (waitedOut_cons positive short).mpr waited, holds⟩

theorem not_outAfter_nil (positive : 0 < left) : ¬ OutAfter left n [] :=
  not_waitedThen_nil positive

/-- The page is out with an event that is long enough. -/
theorem outAfter_reached (positive : 0 < left) (reached : left ≤ event.elapsed) :
    OutAfter left n (event :: events) ↔ PagedOut n events :=
  waitedThen_reached positive reached

/-- The page is not out behind an event that is too short. -/
theorem outAfter_short (positive : 0 < left) (short : event.elapsed < left) :
    OutAfter left n (event :: events) ↔ OutAfter (left - event.elapsed) n events :=
  waitedThen_short positive short

/-- One more page: sent by a message, then waited out. -/
theorem pagedOut_succ : PagedOut (n + 1) events ↔
    ∃ idle fed wait rest, events = idle ++ fed :: (wait ++ rest) ∧
      (∀ event ∈ idle, event.isFeed = false) ∧ fed.isFeed = true ∧ WaitedOut 5000 wait ∧
      PagedOut n rest := by
  rw [PagedOut]

theorem not_pagedOut_nil : ¬ PagedOut (n + 1) [] := by
  rw [pagedOut_succ]
  intro ⟨idle, fed, wait, rest, parts, _⟩
  cases idle <;> cases parts

/-- A message sends the page. -/
theorem pagedOut_fed (fed : event.isFeed = true) :
    PagedOut (n + 1) (event :: events) ↔ OutAfter 5000 n events := by
  rw [pagedOut_succ]
  constructor
  · intro ⟨idle, first, wait, rest, parts, quiet, _, waited, later⟩
    cases idle with
    | nil =>
        obtain ⟨rfl, rfl⟩ := List.cons.inj parts
        exact ⟨wait, rest, rfl, waited, later⟩
    | cons head idle =>
        obtain ⟨rfl, _⟩ := List.cons.inj parts
        exact absurd (fed.symm.trans (quiet event (List.mem_cons_self ..))) nofun
  · intro ⟨wait, rest, parts, waited, later⟩
    have none_before : ∀ other ∈ ([] : List Event), other.isFeed = false :=
      fun other never => absurd never List.not_mem_nil
    exact ⟨[], event, wait, rest, congrArg (List.cons event) parts, none_before, fed, waited, later⟩

/-- Other events do not send the page. -/
theorem pagedOut_idle (idle : event.isFeed = false) :
    PagedOut (n + 1) (event :: events) ↔ PagedOut (n + 1) events := by
  rw [pagedOut_succ, pagedOut_succ]
  constructor
  · intro ⟨before, first, wait, rest, parts, quiet, fed, waited, later⟩
    cases before with
    | nil =>
        obtain ⟨rfl, _⟩ := List.cons.inj parts
        exact absurd (fed.symm.trans idle) nofun
    | cons head before =>
        obtain ⟨_, rfl⟩ := List.cons.inj parts
        exact ⟨before, first, wait, rest, rfl,
          fun other member => quiet other (List.mem_cons_of_mem _ member), fed, waited, later⟩
  · intro ⟨before, first, wait, rest, parts, quiet, fed, waited, later⟩
    refine ⟨event :: before, first, wait, rest, congrArg (List.cons event) parts, ?_, fed, waited, later⟩
    intro other member
    rcases List.mem_cons.mp member with rfl | member
    · exact idle
    · exact quiet other member

end Waits

/-! ## Pages -/

/-- The procedure has failed (`0`), or this many pages are due, the first of them now. -/
inductive Due (own : Paging) : Nat → Prop where
  | failed (state : own.base.currentState = .failed) (procState : own.base.procState = .failed)
      (stopped : own.base.timerRunning = false) : Due own 0
  | page3 (state : own.base.currentState = .sendPage3)
      (procState : own.base.procState = .inProgress) : Due own 1
  | page2 (state : own.base.currentState = .sendPage2)
      (procState : own.base.procState = .inProgress) : Due own 2
  | page1 (state : own.base.currentState = .sendPage1)
      (procState : own.base.procState = .inProgress) : Due own 3

/-- A page is awaited, and this many are due after it. -/
structure Awaits (own : Paging) (left : Int) (n : Nat) : Prop where
  state : own.base.currentState = .waitPage1 ∧ n = 2 ∨
    own.base.currentState = .waitPage2 ∧ n = 1 ∨ own.base.currentState = .waitPage3 ∧ n = 0
  procState : own.base.procState = .inProgress
  running : own.base.timerRunning = true
  remaining : own.base.timerRemaining = left

section Pages

variable {own : Paging} {left : Int} {n : Nat} {event : Event}

/-- Another message than the response has no effect. -/
theorem awaitResponse_other (own : Paging) {msg : ParsedMessage} (other : ¬ Matches msg)
    (session : Option SessionCore) : (own.awaitResponse msg session).proc = own := by
  rw [awaitResponse]
  exact congrArg Fed.proc (if_neg other)

/-- Data from outside do nothing to a procedure that was triggered. -/
theorem feedExternalTyped_triggered (triggered : own.base.currentState ≠ .init)
    (data : ExternalData) (session : Option SessionCore) :
    (own.feedExternalTyped data session).proc = own := by
  cases data with
  | pagingTrigger trigger => rw [feedExternalTyped, if_neg triggered]
  | authChallenge | vlrDecision | cipheringParameters | handoverTarget => rfl

theorem Due.triggered (due : own.Due n) : own.base.currentState ≠ .init := by
  cases due with
  | failed state | page3 state | page2 state | page1 state =>
      rw [state]
      nofun

theorem Awaits.triggered (awaits : own.Awaits left n) : own.base.currentState ≠ .init := by
  rcases awaits.state with ⟨state, _⟩ | ⟨state, _⟩ | ⟨state, _⟩ <;>
  · rw [state]
    nofun

/-- A stopped timer does not count. -/
theorem tick_stopped (stopped : own.base.timerRunning = false) (delta : Int) :
    (own.tick delta).1 = own := by
  rw [tick, if_pos stopped]

/-- A running timer counts down. -/
theorem tick_running {delta : Int} (running : own.base.timerRunning = true)
    (some_left : 0 < own.base.timerRemaining - delta) :
    (own.tick delta).1 =
      { own with base.timerRemaining := own.base.timerRemaining - delta } := by
  rw [tick, if_neg (by rw [running]; nofun)]
  simp only
  rw [if_neg (Int.not_le.mpr some_left)]

/-- An expiry makes the page after an awaited one due. -/
theorem tick_expired {delta : Int} (running : own.base.timerRunning = true)
    (expired : own.base.timerRemaining - delta ≤ 0) :
    (own.tick delta).1 =
      { own with base :=
        match own.base.currentState with
        | .waitPage1 => own.base.stopTimer.transitionTo .sendPage2
        | .waitPage2 => own.base.stopTimer.transitionTo .sendPage3
        | .waitPage3 => own.base.stopTimer.fail
        | _ => own.base.stopTimer } := by
  rw [tick, if_neg (by rw [running]; nofun)]
  simp only
  rw [if_pos expired]
  obtain ⟨⟨state, procState, remaining, timer, active⟩, identity, attempt⟩ := own
  cases state with
  | waitPage1 | waitPage2 | waitPage3 => rfl
  | init | sendPage1 | sendPage2 | sendPage3 | completed | failed => cases procState <;> rfl

/-- Time does not change what is due. -/
theorem Due.tick (due : own.Due n) (delta : Int) : (own.tick delta).1.Due n := by
  cases running : own.base.timerRunning with
  | false =>
      rw [tick_stopped running]
      exact due
  | true =>
      by_cases expired : own.base.timerRemaining - delta ≤ 0
      · rw [tick_expired running expired]
        cases due with
        | failed _ _ stopped => cases running.symm.trans stopped
        | page3 state procState =>
            rw [state]
            exact .page3 state procState
        | page2 state procState =>
            rw [state]
            exact .page2 state procState
        | page1 state procState =>
            rw [state]
            exact .page1 state procState
      · rw [tick_running running (Int.not_le.mp expired)]
        cases due with
        | failed _ _ stopped => cases running.symm.trans stopped
        | page3 state procState => exact .page3 state procState
        | page2 state procState => exact .page2 state procState
        | page1 state procState => exact .page1 state procState

/-- Only a message sends a page that is due. -/
theorem Due.idle (due : own.Due (n + 1)) (idle : event.isFeed = false) :
    (own.step event).Due (n + 1) := by
  cases event with
  | feed => cases idle
  | external data session =>
      rw [step, feedExternalTyped_triggered due.triggered]
      exact due
  | tick delta => exact due.tick delta

/-- Behind the last page the procedure has failed for good. -/
theorem Due.failed_step (due : own.Due 0) (event : Event) : (own.step event).Due 0 := by
  cases event with
  | feed msg session other =>
      cases due with
      | failed state procState stopped =>
          rw [step, feed, state]
          exact .failed state procState stopped
  | external data session =>
      rw [step, feedExternalTyped_triggered due.triggered]
      exact due
  | tick delta => exact due.tick delta

/-- A message sends the page that is due. -/
theorem Due.fed (due : own.Due (n + 1)) (fed : event.isFeed = true) :
    (own.step event).Awaits 5000 n := by
  cases event with
  | feed msg session other =>
      cases due with
      | page3 state =>
          rw [step, feed, state]
          exact ⟨.inr (.inr ⟨rfl, rfl⟩), rfl, rfl, rfl⟩
      | page2 state =>
          rw [step, feed, state]
          exact ⟨.inr (.inl ⟨rfl, rfl⟩), rfl, rfl, rfl⟩
      | page1 state =>
          rw [step, feed, state]
          exact ⟨.inl ⟨rfl, rfl⟩, rfl, rfl, rfl⟩
  | external | tick => cases fed

/-- The wait for a page ends when its time has passed. -/
theorem Awaits.reached (awaits : own.Awaits left n) (positive : 0 < left)
    (reached : left ≤ event.elapsed) : (own.step event).Due n := by
  cases event with
  | feed | external => exact absurd positive (Int.not_lt.mpr reached)
  | tick delta =>
      have expired : own.base.timerRemaining - delta ≤ 0 := by
        rw [awaits.remaining]
        exact Int.sub_nonpos_of_le reached
      rw [step, tick_expired awaits.running expired]
      rcases awaits.state with ⟨state, rfl⟩ | ⟨state, rfl⟩ | ⟨state, rfl⟩
      · rw [state]
        exact .page2 rfl rfl
      · rw [state]
        exact .page3 rfl rfl
      · rw [state]
        exact .failed rfl rfl rfl

/-- A wait goes on behind an event that is too short. -/
theorem Awaits.short (awaits : own.Awaits left n) (short : event.elapsed < left) :
    (own.step event).Awaits (left - event.elapsed) n := by
  cases event with
  | feed msg session other =>
      have kept : (own.feed msg session).proc = own := by
        rcases awaits.state with ⟨state, _⟩ | ⟨state, _⟩ | ⟨state, _⟩ <;>
        · rw [feed, state]
          exact awaitResponse_other own other session
      rw [step, kept, Event.elapsed, Int.sub_zero]
      exact awaits
  | external data session =>
      rw [step, feedExternalTyped_triggered awaits.triggered, Event.elapsed, Int.sub_zero]
      exact awaits
  | tick delta =>
      have some_left : 0 < own.base.timerRemaining - delta := by
        rw [awaits.remaining]
        exact Int.sub_pos_of_lt short
      rw [step, tick_running awaits.running some_left]
      exact ⟨awaits.state, awaits.procState, awaits.running,
        congrArg (· - delta) awaits.remaining⟩

/-! ## Runs -/

theorem Due.failed_after (due : own.Due 0) (events : List Event) : (own.after events).Due 0 := by
  induction events generalizing own with
  | nil => exact due
  | cons event events ih => exact ih (due.failed_step event)

/-- The events that remain decide: the pages that are due have to be sent and waited for. -/
theorem failed_iff (events : List Event) :
    (own.Due n → ((own.after events).base.procState = .failed ↔ PagedOut n events)) ∧
      ∀ left, own.Awaits left n → 0 < left →
        ((own.after events).base.procState = .failed ↔ OutAfter left n events) := by
  induction events generalizing own n with
  | nil =>
      constructor
      · intro due
        cases due with
        | failed state procState => exact iff_of_true procState trivial
        | page3 _ procState | page2 _ procState | page1 _ procState =>
            refine iff_of_false (fun failed => ?_) not_pagedOut_nil
            cases failed.symm.trans procState
      · intro left awaits positive
        refine iff_of_false (fun failed => ?_) (not_outAfter_nil positive)
        cases failed.symm.trans awaits.procState
  | cons event events ih =>
      constructor
      · intro due
        cases n with
        | zero =>
            have last := due.failed_after (event :: events)
            cases last with
            | failed state procState => exact iff_of_true procState trivial
        | succ n =>
            cases kind : event.isFeed with
            | true =>
                rw [pagedOut_fed kind]
                exact ih.2 5000 (due.fed kind) (by decide)
            | false =>
                rw [pagedOut_idle kind]
                exact ih.1 (due.idle kind)
      · intro left awaits positive
        by_cases reached : left ≤ event.elapsed
        · rw [outAfter_reached positive reached]
          exact ih.1 (awaits.reached positive reached)
        · have short := Int.not_le.mp reached
          rw [outAfter_short positive short]
          exact ih.2 _ (awaits.short short) (Int.sub_pos_of_lt short)

end Pages

/-- The events after the first trigger. -/
def sinceTrigger (events : List Event) : List Event :=
  (events.dropWhile fun event => !event.isTrigger).tail

/-- Nothing but a trigger changes a procedure that was not triggered. -/
theorem step_init (identity : L3MobileIdentity) {event : Event} (other : event.isTrigger = false) :
    ({ identity := identity } : Paging).step event = { identity := identity } := by
  cases event with
  | feed | tick => rfl
  | external data session =>
      cases data with
      | pagingTrigger => cases other
      | authChallenge | vlrDecision | cipheringParameters | handoverTarget => rfl

/-- The trigger makes the first page due. -/
theorem step_trigger (identity : L3MobileIdentity) {event : Event}
    (trigger : event.isTrigger = true) :
    (({ identity := identity } : Paging).step event).Due 3 := by
  cases event with
  | feed | tick => cases trigger
  | external data session =>
      cases data with
      | pagingTrigger => exact .page1 rfl rfl
      | authChallenge | vlrDecision | cipheringParameters | handoverTarget => cases trigger

/-- Without a response a procedure fails exactly if, since its trigger, three pages were sent by
messages and waited for. -/
theorem failed_iff_pagedOut (identity : L3MobileIdentity) (events : List Event) :
    (({ identity := identity } : Paging).after events).base.procState = .failed ↔
      PagedOut 3 (sinceTrigger events) := by
  induction events with
  | nil => exact iff_of_false nofun not_pagedOut_nil
  | cons event events ih =>
      cases kind : event.isTrigger with
      | true =>
          have rest : sinceTrigger (event :: events) = events := by
            rw [sinceTrigger, List.dropWhile_cons_of_neg (by rw [kind]; nofun), List.tail_cons]
          rw [rest]
          exact (failed_iff events).1 (step_trigger identity kind)
      | false =>
          have rest : sinceTrigger (event :: events) = sinceTrigger events := by
            rw [sinceTrigger, List.dropWhile_cons_of_pos (by rw [kind]; rfl)]
            rfl
          rw [rest, after, List.foldl_cons, step_init identity kind]
          exact ih

/-- More than the three pages' time fails the procedure exactly if it was spent on waiting for
three pages. -/
theorem fails_in_time_iff (identity : L3MobileIdentity) (events : List Event) :
    (15000 < elapsed (sinceTrigger events) →
        (({ identity := identity } : Paging).after events).base.procState = .failed) ↔
      (15000 < elapsed (sinceTrigger events) → PagedOut 3 (sinceTrigger events)) :=
  imp_congr_right fun _ => failed_iff_pagedOut identity events

/-- Time that passes before a message sends the first page stops its timer for good. -/
theorem timer_lost :
    let events : List Event := [.external (.pagingTrigger { identity := {} }) none, .tick 16000]
    15000 < elapsed (sinceTrigger events) ∧
      (({ identity := {} } : Paging).after events).base.procState = .inProgress ∧
      (({ identity := {} } : Paging).after events).base.timerRunning = false := by
  decide

end Paging

end Stack

end Gsml3
