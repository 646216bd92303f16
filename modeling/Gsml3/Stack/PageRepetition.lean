import Gsml3.Stack.CallProcedures
import Gsml3.Stack.PagingTimeouts

/-!
# Repetition of pages

No tick signals a page.  An expired paging procedure signals the next page with
the message that is fed next, and every page has been signalled when it fails.  A
call set-up waits three times for a response to its page.
-/

namespace Gsml3

namespace Stack

namespace Paging

/-- The response an event causes. -/
def reply (own : Paging) : Event → ResponseToken
  | .feed msg session _ => (own.feed msg session).result.responseToken
  | .external data session => (own.feedExternalTyped data session).result.responseToken
  | .tick delta => (own.tick delta).2.responseToken

/-- The responses events cause, in order. -/
def replies (own : Paging) : List Event → List ResponseToken
  | [] => []
  | event :: events =>
      if own.reply event = .none then (own.step event).replies events
      else own.reply event :: (own.step event).replies events

/-- The pages that are signalled from when this many are due. -/
def pagesDue : Nat → List ResponseToken
  | 0 => []
  | 1 => [.pagingRequestType3]
  | 2 => [.pagingRequestType2, .pagingRequestType3]
  | _ => [.pagingRequestType1, .pagingRequestType2, .pagingRequestType3]

section Pages

variable {own : Paging} {left : Int} {n : Nat} {event : Event}

theorem tick_silent (own : Paging) (delta : Int) :
    (own.tick delta).2.responseToken = .none := by
  unfold tick
  split
  · rfl
  · dsimp only
    split
    · split
      · rfl
      · rfl
      · rfl
      · split <;> rfl
    · rfl

theorem external_silent (triggered : own.base.currentState ≠ .init) (data : ExternalData)
    (session : Option SessionCore) :
    (own.feedExternalTyped data session).result.responseToken = .none := by
  cases data with
  | pagingTrigger trigger => rw [feedExternalTyped, if_neg triggered]
  | authChallenge | vlrDecision | cipheringParameters | handoverTarget => rfl

theorem reply_idle (triggered : own.base.currentState ≠ .init) (idle : event.isFeed = false) :
    own.reply event = .none := by
  cases event with
  | feed => cases idle
  | external data session => exact external_silent triggered data session
  | tick delta => exact tick_silent own delta

theorem Awaits.reply (awaits : own.Awaits left n) (event : Event) : own.reply event = .none := by
  cases event with
  | feed msg session other =>
      have kept : (own.awaitResponse msg session).result = {} := by
        rw [awaitResponse]
        exact congrArg Fed.result (if_neg other)
      rw [Paging.reply, feed]
      rcases awaits.state with ⟨state, -⟩ | ⟨state, -⟩ | ⟨state, -⟩ <;>
      · rw [state]
        dsimp only
        rw [kept]
  | external data session => exact reply_idle awaits.triggered rfl
  | tick delta => exact reply_idle awaits.triggered rfl

theorem Due.failed_reply (due : own.Due 0) (event : Event) : own.reply event = .none := by
  cases event with
  | feed msg session other =>
      cases due with
      | failed state =>
          rw [reply, feed, state]
  | external data session => exact reply_idle due.triggered rfl
  | tick delta => exact reply_idle due.triggered rfl

/-- A message signals the page that is due. -/
theorem Due.reply (due : own.Due (n + 1)) (fed : event.isFeed = true) :
    own.reply event ≠ .none ∧ pagesDue (n + 1) = own.reply event :: pagesDue n := by
  cases event with
  | feed msg session other =>
      rw [Paging.reply, feed]
      cases due with
      | page3 state | page2 state | page1 state =>
          rw [state]
          exact ⟨by rintro ⟨⟩, rfl⟩
  | external | tick => cases fed

theorem replies_silent (silent : own.reply event = .none) (events : List Event) :
    own.replies (event :: events) = (own.step event).replies events := by
  rw [replies, if_pos silent]

theorem replies_signals (signals : own.reply event ≠ .none) (events : List Event) :
    own.replies (event :: events) = own.reply event :: (own.step event).replies events := by
  rw [replies, if_neg signals]

theorem Due.failed_replies (due : own.Due 0) (events : List Event) : own.replies events = [] := by
  induction events generalizing own with
  | nil => rfl
  | cons event events ih =>
      rw [replies_silent (due.failed_reply event)]
      exact ih (due.failed_step event)

/-- A procedure that has failed has signalled the pages that were due. -/
theorem failed_replies (events : List Event) (failed : (own.after events).base.procState = .failed) :
    (own.Due n → own.replies events = pagesDue n) ∧
      ∀ left, own.Awaits left n → 0 < left → own.replies events = pagesDue n := by
  induction events generalizing own n with
  | nil =>
      constructor
      · intro due
        cases due with
        | failed => rfl
        | page3 _ procState | page2 _ procState | page1 _ procState =>
            cases failed.symm.trans procState
      · intro left awaits
        cases failed.symm.trans awaits.procState
  | cons event events ih =>
      constructor
      · intro due
        cases n with
        | zero => exact due.failed_replies _
        | succ n =>
            cases kind : event.isFeed with
            | true =>
                obtain ⟨signals, first⟩ := due.reply kind
                rw [replies_signals signals, first, (ih failed).2 5000 (due.fed kind) (by decide)]
            | false =>
                rw [replies_silent (reply_idle due.triggered kind)]
                exact (ih failed).1 (due.idle kind)
      · intro left awaits positive
        rw [replies_silent (awaits.reply event)]
        by_cases reached : left ≤ event.elapsed
        · exact (ih failed).1 (awaits.reached positive reached)
        · have short := Int.not_le.mp reached
          exact (ih failed).2 _ (awaits.short short) (Int.sub_pos_of_lt short)

/-- Without a response a procedure is not triggered, has pages due or awaits a response. -/
theorem unanswered (identity : L3MobileIdentity) (events : List Event) :
    let own := ({ identity := identity } : Paging).after events
    own = { identity := identity } ∨ (∃ n, own.Due n) ∨ ∃ left n, 0 < left ∧ own.Awaits left n := by
  induction events using List.reverseRecOn with
  | nil => exact .inl rfl
  | append_singleton events event ih =>
      have last : ({ identity := identity } : Paging).after (events ++ [event]) =
          (({ identity := identity } : Paging).after events).step event := by
        rw [after, List.foldl_append]
        rfl
      dsimp only at ih ⊢
      rw [last]
      rcases ih with initial | ⟨n, due⟩ | ⟨left, n, positive, awaits⟩
      · rw [initial]
        cases kind : event.isTrigger with
        | true => exact .inr (.inl ⟨3, step_trigger identity kind⟩)
        | false => exact .inl (step_init identity kind)
      · cases n with
        | zero => exact .inr (.inl ⟨0, due.failed_step event⟩)
        | succ n =>
            cases kind : event.isFeed with
            | true => exact .inr (.inr ⟨5000, n, by decide, due.fed kind⟩)
            | false => exact .inr (.inl ⟨n + 1, due.idle kind⟩)
      · by_cases reached : left ≤ event.elapsed
        · exact .inr (.inl ⟨n, awaits.reached positive reached⟩)
        · have short := Int.not_le.mp reached
          exact .inr (.inr ⟨_, n, Int.sub_pos_of_lt short, awaits.short short⟩)

theorem replies_of_failed (identity : L3MobileIdentity) (events : List Event)
    (failed : (({ identity := identity } : Paging).after events).base.procState = .failed) :
    ({ identity := identity } : Paging).replies events = .pagingRequestType1 :: pagesDue 3 := by
  induction events with
  | nil => cases failed
  | cons event events ih =>
      cases kind : event.isTrigger with
      | true =>
          have triggered : ({ identity := identity } : Paging).reply event = .pagingRequestType1 := by
            cases event with
            | feed | tick => cases kind
            | external data session =>
                cases data with
                | pagingTrigger => rfl
                | authChallenge | vlrDecision | cipheringParameters | handoverTarget => cases kind
          rw [replies_signals (by rw [triggered]; nofun), triggered]
          exact congrArg _ ((failed_replies events failed).1 (step_trigger identity kind))
      | false =>
          have silent : ({ identity := identity } : Paging).reply event = .none := by
            cases event with
            | feed | tick => rfl
            | external data session =>
                cases data with
                | pagingTrigger => cases kind
                | authChallenge | vlrDecision | cipheringParameters | handoverTarget => rfl
          have same := step_init identity kind
          rw [replies_silent silent, same]
          apply ih
          rwa [after, List.foldl_cons, same] at failed

/-- After an expiry the next message signals the page that has become due. -/
theorem Awaits.repeats (awaits : own.Awaits left (n + 1)) (positive : 0 < left) {delta : Int}
    (expired : left ≤ delta) {idle : List Event} (quiet : ∀ event ∈ idle, event.isFeed = false)
    (fed : event.isFeed = true) :
    pagesDue (n + 1) = (((own.tick delta).1.after idle).reply event) :: pagesDue n ∧
      (((own.tick delta).1.after idle).step event).Awaits 5000 n := by
  have due : (own.tick delta).1.Due (n + 1) := 
    awaits.reached positive (show left ≤ (Event.tick delta).elapsed from expired)
  have still : ((own.tick delta).1.after idle).Due (n + 1) := by
    generalize (own.tick delta).1 = next at due
    induction idle generalizing next with
    | nil => exact due
    | cons event idle ih =>
        refine ih (fun later member => quiet later (List.mem_cons_of_mem _ member)) (next.step event) ?_
        exact due.idle (quiet event (List.mem_cons_self ..))
  exact ⟨(still.reply fed).2, still.fed fed⟩

end Pages

end Paging

/-! ## Mobile-terminated call set-up -/

namespace CallSetupMT

open Paging (Event WaitedThen)

/-- The procedure after an event. -/
def step (own : CallSetupMT) : Event → CallSetupMT
  | .feed msg session _ => (own.feed msg session).proc
  | .external data session => (own.feedExternalTyped data session).proc
  | .tick delta => (own.tick delta).1

/-- The procedure after events. -/
def afterPages (own : CallSetupMT) (events : List Event) : CallSetupMT :=
  events.foldl step own

/-- Events in which a response is waited for, and `n` times more after that. -/
def WaitsOut : Int → Nat → List Event → Prop
  | left, 0 => WaitedThen left fun _ => True
  | left, n + 1 => WaitedThen left (WaitsOut 5000 n)

/-- A response is waited for, and `n` attempts are left after this one. -/
structure Awaits (own : CallSetupMT) (left : Int) (n : Nat) : Prop where
  state : own.base.currentState = .waitPageResponse
  procState : own.base.procState = .inProgress
  running : own.base.timerRunning = true
  remaining : own.base.timerRemaining = left
  attempts : own.pageAttempt.toNat + n = 3

section Attempts

variable {own : CallSetupMT} {left : Int} {n : Nat} {event : Event} {events : List Event}

theorem tick_silent (own : CallSetupMT) (delta : Int) :
    (own.tick delta).2.responseToken = .none := by
  unfold tick
  split
  · rfl
  · dsimp only
    split
    · split <;> rfl
    · rfl

theorem Awaits.short (awaits : own.Awaits left n) (short : event.elapsed < left) :
    (own.step event).Awaits (left - event.elapsed) n := by
  cases event with
  | feed msg session other =>
      have unanswered : ¬ msg.Is .radioResource MTI.pagingResponse := other
      have kept : (own.feed msg session).proc = own := by
        unfold feed
        dsimp only
        rw [awaits.state]
        dsimp only
        rw [if_neg unanswered]
      rw [step, kept, Event.elapsed, Int.sub_zero]
      exact awaits
  | external data session =>
      have triggered : own.base.currentState ≠ .init := by
        rw [awaits.state]
        simp
      rw [step, feedExternalTyped, if_neg triggered, Event.elapsed, Int.sub_zero]
      exact awaits
  | tick delta =>
      have some_left : ¬ own.base.timerRemaining - delta ≤ 0 := by
        rw [awaits.remaining]
        exact Int.not_le.mpr (Int.sub_pos_of_lt short)
      rw [step, tick, if_neg (by rw [awaits.running]; simp)]
      dsimp only
      rw [if_neg some_left]
      exact ⟨awaits.state, awaits.procState, awaits.running, congrArg (· - delta) awaits.remaining,
        awaits.attempts⟩

/-- An expiry starts the next attempt, or fails the procedure after the last. -/
theorem Awaits.reached (awaits : own.Awaits left n) (positive : 0 < left)
    (reached : left ≤ event.elapsed) :
    (n = 0 → (own.step event).base.procState = .failed ∧
        (own.step event).base.timerRunning = false ∧
        (own.step event).base.currentState = .failed) ∧
      ∀ m, n = m + 1 → (own.step event).Awaits 5000 m := by
  cases event with
  | feed | external => exact absurd positive (Int.not_lt.mpr reached)
  | tick delta =>
      have expired : own.base.timerRemaining - delta ≤ 0 := by
        rw [awaits.remaining]
        exact Int.sub_nonpos_of_le reached
      rw [step, tick, if_neg (by rw [awaits.running]; simp)]
      dsimp only
      rw [if_pos expired]
      have attempts := awaits.attempts
      constructor
      · rintro rfl
        rw [if_neg ?_]
        · exact ⟨rfl, rfl, rfl⟩
        · rintro ⟨-, more⟩
          have bound := UInt8.lt_iff_toNat_lt.mp more
          change own.pageAttempt.toNat < 3 at bound
          omega
      · rintro m rfl
        have more : own.pageAttempt < maxPageAttempts := by
          apply UInt8.lt_iff_toNat_lt.mpr
          change own.pageAttempt.toNat < 3
          omega
        rw [if_pos ⟨awaits.state, more⟩]
        refine ⟨awaits.state, awaits.procState, rfl, rfl, ?_⟩
        change (own.pageAttempt + 1).toNat + m = 3
        have one : (1 : UInt8).toNat = 1 := rfl
        rw [UInt8.toNat_add, one]
        omega

theorem failed_step (state : own.base.currentState = .failed) (stopped : own.base.timerRunning = false)
    (event : Event) : own.step event = own := by
  cases event with
  | feed msg session other =>
      unfold step feed
      dsimp only
      rw [state]
  | external data session =>
      rw [step, feedExternalTyped, if_neg (by rw [state]; simp)]
  | tick delta => rw [step, tick, if_pos stopped]

theorem failed_after (state : own.base.currentState = .failed) (stopped : own.base.timerRunning = false)
    (events : List Event) : own.afterPages events = own := by
  induction events with
  | nil => rfl
  | cons event events ih => rwa [afterPages, List.foldl_cons, failed_step state stopped]

/-- The procedure fails exactly if all attempts are waited for. -/
theorem Awaits.failed_iff (awaits : own.Awaits left n) (positive : 0 < left) (events : List Event) :
    (own.afterPages events).base.procState = .failed ↔ WaitsOut left n events := by
  induction events generalizing own left n with
  | nil =>
      have never : ¬ WaitsOut left n [] := by
        cases n with
        | zero => exact Paging.not_waitedThen_nil positive
        | succ n => exact Paging.not_waitedThen_nil positive
      exact iff_of_false (fun failed => nomatch failed.symm.trans awaits.procState) never
  | cons event events ih =>
      by_cases reached : left ≤ event.elapsed
      · have next := awaits.reached positive reached
        cases n with
        | zero =>
            obtain ⟨failed, stopped, state⟩ := next.1 rfl
            rw [WaitsOut, Paging.waitedThen_reached positive reached, afterPages, List.foldl_cons,
              ← afterPages, failed_after state stopped]
            exact iff_of_true failed trivial
        | succ n =>
            rw [WaitsOut, Paging.waitedThen_reached positive reached]
            exact ih (next.2 n rfl) (by decide)
      · have short := Int.not_le.mp reached
        have shorter : WaitsOut left n (event :: events) ↔
            WaitsOut (left - event.elapsed) n events := by
          cases n with
          | zero => exact Paging.waitedThen_short positive short
          | succ n => exact Paging.waitedThen_short positive short
        rw [shorter]
        exact ih (awaits.short short) (Int.sub_pos_of_lt short)

theorem feed_not_page (own : CallSetupMT) (msg : ParsedMessage) (session : Option SessionCore) :
    (own.feed msg session).proc.base.currentState ≠ .page := by
  intro page
  unfold feed at page
  dsimp only at page
  split at page
  case h_2 state | h_5 state | h_7 state | h_10 state =>
    split at page
    · cases page
    · cases state.symm.trans page
  case h_11 state | h_12 state | h_13 state => cases state.symm.trans page
  all_goals cases page

/-- A tick that leaves the page to be sent changes nothing but the time. -/
theorem tick_page {delta : Int} (page : (own.tick delta).1.base.currentState = .page) :
    own.base.currentState = .page ∧ (own.tick delta).1.pageAttempt = own.pageAttempt := by
  unfold tick at page ⊢
  split at page
  case isTrue stopped => exact ⟨page, by rw [if_pos stopped]⟩
  case isFalse running =>
    rw [if_neg running]
    dsimp only at page ⊢
    split at page
    case isTrue expired =>
      rw [if_pos expired]
      split at page
      case isTrue again => exact absurd (again.1.symm.trans page) nofun
      case isFalse => cases page
    case isFalse left =>
      rw [if_neg left]
      exact ⟨page, rfl⟩

/-- Without a response a procedure that is to send its page has made one attempt. -/
theorem page_attempt (calledNumber : List Char) (events : List Event)
    (page : (({ calledNumber := calledNumber } : CallSetupMT).afterPages
      events).base.currentState = .page) :
    (({ calledNumber := calledNumber } : CallSetupMT).afterPages events).pageAttempt = 1 := by
  induction events using List.reverseRecOn with
  | nil => cases page
  | append_singleton events event ih =>
      have last : ({ calledNumber := calledNumber } : CallSetupMT).afterPages (events ++ [event]) =
          (({ calledNumber := calledNumber } : CallSetupMT).afterPages events).step event := by
        rw [afterPages, List.foldl_append]
        rfl
      rw [last] at page ⊢
      generalize ({ calledNumber := calledNumber } : CallSetupMT).afterPages events = own at ih page ⊢
      cases event with
      | feed msg session other => exact absurd page (feed_not_page own msg session)
      | external data session =>
          change (own.feedExternalTyped data session).proc.base.currentState = .page at page
          change (own.feedExternalTyped data session).proc.pageAttempt = 1
          rw [feedExternalTyped] at page ⊢
          by_cases initial : own.base.currentState = .init
          · rw [if_pos initial]
          · rw [if_neg initial] at page ⊢
            exact ih page
      | tick delta =>
          obtain ⟨before, kept⟩ := tick_page page
          exact kept.trans (ih before)

/-- A page that is sent with a message is waited for three times. -/
theorem Awaits.sent {own : CallSetupMT} (page : own.base.currentState = .page)
    (attempt : own.pageAttempt = 1) (fed : event.isFeed = true) : (own.step event).Awaits 5000 2 := by
  cases event with
  | feed msg session other =>
      unfold step feed
      dsimp only
      rw [page]
      exact ⟨rfl, rfl, rfl, rfl, by dsimp only; rw [attempt]; rfl⟩
  | external | tick => cases fed

end Attempts

end CallSetupMT

/-! ## Pages of both procedures -/

/-- How pages are repeated in a run without a response. -/
structure Repeats (identity : L3MobileIdentity) (calledNumber : List Char)
    (events : List Paging.Event) : Prop where
  paging_ticks : ∀ delta,
    ((({ identity := identity } : Paging).after events).tick delta).2.responseToken = .none
  second : ∀ delta idle event,
    (({ identity := identity } : Paging).after events).base.currentState = .waitPage1 →
      (({ identity := identity } : Paging).after events).base.timerRemaining ≤ delta →
      (∀ other ∈ idle, Paging.Event.isFeed other = false) → event.isFeed = true →
        let due := ((({ identity := identity } : Paging).after events).tick delta).1.after idle
        due.reply event = .pagingRequestType2 ∧ (due.step event).Awaits 5000 1
  third : ∀ delta idle event,
    (({ identity := identity } : Paging).after events).base.currentState = .waitPage2 →
      (({ identity := identity } : Paging).after events).base.timerRemaining ≤ delta →
      (∀ other ∈ idle, Paging.Event.isFeed other = false) → event.isFeed = true →
        let due := ((({ identity := identity } : Paging).after events).tick delta).1.after idle
        due.reply event = .pagingRequestType3 ∧ (due.step event).Awaits 5000 0
  signalled : (({ identity := identity } : Paging).after events).base.procState = .failed →
    ({ identity := identity } : Paging).replies events =
      [.pagingRequestType1, .pagingRequestType1, .pagingRequestType2, .pagingRequestType3]
  setup_ticks : ∀ delta, ((({ calledNumber := calledNumber } : CallSetupMT).afterPages
    events).tick delta).2.responseToken = .none
  setup_attempts : ∀ event later,
    (({ calledNumber := calledNumber } : CallSetupMT).afterPages events).base.currentState = .page →
      event.isFeed = true →
        ((((({ calledNumber := calledNumber } : CallSetupMT).afterPages events).step
          event).afterPages later).base.procState = .failed ↔ CallSetupMT.WaitsOut 5000 2 later)

/-- **Repetition of pages.**  Without a response no tick signals a page; an expiry of a paging
procedure makes the next message signal the next page, and all pages have been signalled when it
fails; a call set-up whose page was sent with a message fails exactly if a response was waited for
three times. -/
theorem pages_repeat (identity : L3MobileIdentity) (calledNumber : List Char)
    (events : List Paging.Event) : Repeats identity calledNumber events := by
  have awaits {state : PagingState} {n : Nat}
      (here : (({ identity := identity } : Paging).after events).base.currentState = state)
      (waiting : state = .waitPage1 ∧ n = 2 ∨ state = .waitPage2 ∧ n = 1) :
      ∃ left, 0 < left ∧ (({ identity := identity } : Paging).after events).Awaits left n := by
    have elsewhere : ¬ (({ identity := identity } : Paging).after events = { identity := identity } ∨
        ∃ n, (({ identity := identity } : Paging).after events).Due n) := by
      rintro (initial | ⟨pages, due⟩)
      · rw [initial] at here
        rcases waiting with ⟨rfl, -⟩ | ⟨rfl, -⟩ <;> cases here
      · cases due with
        | failed there | page3 there | page2 there | page1 there =>
            rw [there] at here
            rcases waiting with ⟨rfl, -⟩ | ⟨rfl, -⟩ <;> cases here
    rcases Paging.unanswered identity events with initial | due | ⟨left, pages, positive, awaits⟩
    · exact absurd (.inl initial) elsewhere
    · exact absurd (.inr due) elsewhere
    · have same : pages = n := by
        have state := awaits.state
        rw [here] at state
        rcases waiting with ⟨rfl, rfl⟩ | ⟨rfl, rfl⟩ <;>
        · rcases state with ⟨same, rfl⟩ | ⟨same, rfl⟩ | ⟨same, rfl⟩ <;> first | rfl | cases same
      exact ⟨left, positive, same ▸ awaits⟩
  refine ⟨Paging.tick_silent _, ?_, ?_, Paging.replies_of_failed identity events,
    CallSetupMT.tick_silent _, ?_⟩
  · intro delta idle event here expired quiet fed
    obtain ⟨left, positive, awaits⟩ := awaits here (.inl ⟨rfl, rfl⟩)
    rw [awaits.remaining] at expired
    obtain ⟨pages, next⟩ := awaits.repeats positive expired quiet fed
    exact ⟨(List.cons.inj pages).1.symm, next⟩
  · intro delta idle event here expired quiet fed
    obtain ⟨left, positive, awaits⟩ := awaits here (.inr ⟨rfl, rfl⟩)
    rw [awaits.remaining] at expired
    obtain ⟨pages, next⟩ := awaits.repeats positive expired quiet fed
    exact ⟨(List.cons.inj pages).1.symm, next⟩
  · intro event later page fed
    have attempt := CallSetupMT.page_attempt calledNumber events page
    exact (CallSetupMT.Awaits.sent page attempt fed).failed_iff (by decide) later

/-- An expiry before the last attempt signals nothing: neither that of a page that was sent, nor
that of the page of a call set-up, which fails with it. -/
theorem expiry_signals_nothing :
    let trigger : Paging.Event := .external (.pagingTrigger { identity := {} }) none
    let message : Paging.Event := .feed (.channelRequest 0) none (by decide)
    let paging := ({ identity := {} } : Paging).after [trigger, message]
    let setup := ({ calledNumber := [] } : CallSetupMT).afterPages [trigger]
    paging.base.currentState = .waitPage1 ∧ paging.base.timerRemaining = 5000 ∧
      (paging.tick 5000).2 = {} ∧
      setup.pageAttempt = 1 ∧ setup.base.timerRemaining = 5000 ∧
      (setup.tick 5000).2 = .finish .failed .callSetupMT .failed "timer_expired" := by
  decide

end Stack

end Gsml3
