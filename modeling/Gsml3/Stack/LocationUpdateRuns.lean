import Gsml3.Stack.ProcedureEvents
import Gsml3.Stack.ProcedureLifecycle

/-!
# Runs of location updating

A location update completes by a decision of the visitor location register that
it waited for, and when it was challenged in time only after the mobile has
answered the challenge.  A wrong answer does not end it: the reject is sent again
with the next message.
-/

namespace Gsml3

namespace Stack

open Foundation

/-- Authentication is not settled yet. -/
def LocationUpdateState.checksAuthentication : LocationUpdateState → Bool
  | .init | .identityCheck | .requestIdentity | .authCheck | .sendAuth | .waitAuth
  | .verifyAuth => true
  | .luRequest | .waitingExternal | .sendAccept | .sendReject | .completed | .failed => false

/-- Authentication is settled, and not by a reject. -/
def LocationUpdateState.passed : LocationUpdateState → Bool
  | .luRequest | .waitingExternal | .sendAccept | .completed => true
  | .init | .identityCheck | .requestIdentity | .authCheck | .sendAuth | .waitAuth | .verifyAuth
  | .sendReject | .failed => false

namespace LocationUpdate

instance : EventDriven LocationUpdate where
  react own
    | .feed msg session => own.feed msg session
    | .external data session => own.feedExternalTyped data session
    | .tick delta => ⟨(own.tick delta).1, none, (own.tick delta).2⟩

/-- The challenge an event delivers. -/
def challenge? : ProcedureEvent → Option AuthChallenge
  | .external (.authChallenge chal) _ => some chal
  | .external _ _ | .feed _ _ | .tick _ => none

/-- The event is the accepting decision of the visitor location register. -/
def IsAcceptance (event : ProcedureEvent) : Prop :=
  ∃ vlr session, event = .external (.vlrDecision vlr) session ∧ vlr.accept = true

/-- The event is the right answer to the challenge delivered last. -/
def Answers (past : List ProcedureEvent) (event : ProcedureEvent) : Prop :=
  ∃ chal session, History.latest challenge? past = some chal ∧
    event = .feed (.authenticationResponse (sresValue chal.expectedSres)) session

/-- Every challenge that was delivered before authentication was settled has been answered. -/
def Answered (past : List ProcedureEvent) : Prop :=
  ∀ before event later, past = before ++ event :: later → (challenge? event).isSome = true →
    (after ({} : LocationUpdate) before).base.currentState.checksAuthentication = true →
      ∃ middle answer rest, later = middle ++ answer :: rest ∧
        Answers (before ++ event :: middle) answer

section Steps

variable {own : LocationUpdate} {msg : ParsedMessage} {session : Option SessionCore}

/-- The states a message leads to. -/
inductive FeedsTo (own : LocationUpdate) (msg : ParsedMessage) : LocationUpdateState → Prop where
  | stays : FeedsTo own msg own.base.currentState
  | identifies (early : own.base.currentState = .init ∨ own.base.currentState = .identityCheck ∨
        own.base.currentState = .requestIdentity) {next : LocationUpdateState}
      (early_next : next = .identityCheck ∨ next = .requestIdentity ∨ next = .authCheck) :
      FeedsTo own msg next
  | challenges (state : own.base.currentState = .authCheck) (rand : own.hasRand = true) :
      FeedsTo own msg .sendAuth
  | skips (state : own.base.currentState = .authCheck) (rand : own.hasRand = false) :
      FeedsTo own msg .luRequest
  | waits (state : own.base.currentState = .sendAuth) : FeedsTo own msg .waitAuth
  | unexpected (state : own.base.currentState = .waitAuth)
      (expected : own.hasExpectedSRES = false) : FeedsTo own msg .luRequest
  | verifies (state : own.base.currentState = .waitAuth) (expected : own.hasExpectedSRES = true)
      (response : msg = .authenticationResponse (sresValue own.expectedSRES)) :
      FeedsTo own msg .luRequest
  | mismatches (state : own.base.currentState = .waitAuth) : FeedsTo own msg .sendReject
  | asks (state : own.base.currentState = .luRequest) : FeedsTo own msg .waitingExternal
  | accepts (state : own.base.currentState = .sendAccept) : FeedsTo own msg .completed
  | rejects (state : own.base.currentState = .sendReject) : FeedsTo own msg .failed

theorem authenticationResponse?_eq_some {sres : UInt32}
    (response : msg.authenticationResponse? = some sres) : msg = .authenticationResponse sres := by
  cases msg with
  | authenticationResponse received => exact congrArg _ (Option.some.inj response)
  | channelRequest | cmServiceRequest | setup | disconnect | other => cases response

/-- The state that the comparison of an answer leads to. -/
theorem verify_to (state : own.base.currentState = .waitAuth) (msg : ParsedMessage) :
    FeedsTo own msg (own.verify msg).1.base.currentState := by
  unfold verify
  dsimp only
  split
  case isTrue expected =>
    split
    case h_1 sres response =>
      split
      case isTrue same =>
        refine .verifies state expected ?_
        rw [authenticationResponse?_eq_some response, same]
        rfl
      case isFalse => exact .mismatches state
    case h_2 => exact .mismatches state
  case isFalse expected => exact .unexpected state (Bool.eq_false_of_not_eq_true expected)

/-- The state that a message leads to. -/
theorem feed_to (own : LocationUpdate) (msg : ParsedMessage) (session : Option SessionCore) :
    FeedsTo own msg (own.feed msg session).proc.base.currentState := by
  change FeedsTo own msg (own.feedState msg session).1.base.currentState
  unfold feedState
  split
  case h_1 state =>
    split
    · exact .identifies (.inl state) (.inl rfl)
    · exact .stays
  case h_2 state =>
    split
    · exact .identifies (.inr (.inl state)) (.inr (.inr rfl))
    · exact .identifies (.inr (.inl state)) (.inr (.inl rfl))
  case h_3 state =>
    split
    · exact .identifies (.inr (.inr state)) (.inr (.inr rfl))
    · exact .stays
  case h_4 state =>
    split
    case isTrue rand => exact .challenges state rand
    case isFalse rand => exact .skips state (Bool.eq_false_of_not_eq_true rand)
  case h_5 state => exact .waits state
  case h_6 state =>
    split
    · exact verify_to state msg
    · exact .stays
  case h_7 state => exact .asks state
  case h_8 state => exact .accepts state
  case h_9 state => exact .rejects state
  case h_10 | h_11 | h_12 | h_13 => exact .stays

/-- A message does not change what the procedure knows of a challenge. -/
theorem feed_keys (own : LocationUpdate) (msg : ParsedMessage) (session : Option SessionCore) :
    (own.feed msg session).proc.hasRand = own.hasRand ∧
      (own.feed msg session).proc.hasExpectedSRES = own.hasExpectedSRES ∧
        (own.feed msg session).proc.expectedSRES = own.expectedSRES := by
  have verify_keys : (own.verify msg).1.hasRand = own.hasRand ∧
      (own.verify msg).1.hasExpectedSRES = own.hasExpectedSRES ∧
        (own.verify msg).1.expectedSRES = own.expectedSRES := by
    unfold verify
    dsimp only
    split
    · split
      · split
        · exact ⟨rfl, rfl, rfl⟩
        · exact ⟨rfl, rfl, rfl⟩
      · exact ⟨rfl, rfl, rfl⟩
    · exact ⟨rfl, rfl, rfl⟩
  change (own.feedState msg session).1.hasRand = _ ∧
    (own.feedState msg session).1.hasExpectedSRES = _ ∧
      (own.feedState msg session).1.expectedSRES = _
  unfold feedState
  split
  case h_6 =>
    split
    · exact verify_keys
    · exact ⟨rfl, rfl, rfl⟩
  case h_1 | h_2 | h_3 | h_4 => split <;> exact ⟨rfl, rfl, rfl⟩
  all_goals exact ⟨rfl, rfl, rfl⟩

/-- A decision ends a procedure that waits for it and does nothing to another one. -/
theorem decision_leads (own : LocationUpdate) (vlr : VLRDecision)
    (session : Option SessionCore) :
    let next := (own.feedExternalTyped (.vlrDecision vlr) session).proc
    next.base.currentState = own.base.currentState ∨ next.base.currentState = .failed ∨
      next.base.currentState = .completed ∧ own.base.currentState = .waitingExternal ∧
        vlr.accept = true := by
  rw [feedExternalTyped]
  by_cases state : own.base.currentState = .waitingExternal
  · rw [if_pos state]
    cases accept : vlr.accept with
    | true => exact .inr (.inr ⟨rfl, state, rfl⟩)
    | false => exact .inr (.inl rfl)
  · rw [if_neg state]
    exact .inl rfl

/-- Where data from outside lead. -/
theorem external_leads (own : LocationUpdate) (data : ExternalData)
    (session : Option SessionCore) :
    let next := (own.feedExternalTyped data session).proc
    next.base.currentState = own.base.currentState ∨ next.base.currentState = .sendAuth ∨
      next.base.currentState = .failed ∨
        next.base.currentState = .completed ∧ own.base.currentState = .waitingExternal ∧
          IsAcceptance (.external data session) := by
  cases data with
  | authChallenge chal =>
      rw [feedExternalTyped]
      by_cases state : own.base.currentState = .authCheck
      · rw [if_pos state]
        exact .inr (.inl rfl)
      · rw [if_neg state]
        exact .inl rfl
  | vlrDecision vlr =>
      rcases decision_leads own vlr session with same | failed | ⟨completed, waiting, accept⟩
      · exact .inl same
      · exact .inr (.inr (.inl failed))
      · exact .inr (.inr (.inr ⟨completed, waiting, vlr, session, rfl, accept⟩))
  | pagingTrigger | cipheringParameters | handoverTarget => exact .inl rfl

/-- A decision does not touch the challenge. -/
theorem decision_keys (own : LocationUpdate) (vlr : VLRDecision) (session : Option SessionCore) :
    (own.feedExternalTyped (.vlrDecision vlr) session).proc.hasRand = own.hasRand ∧
      (own.feedExternalTyped (.vlrDecision vlr) session).proc.hasExpectedSRES =
        own.hasExpectedSRES ∧
        (own.feedExternalTyped (.vlrDecision vlr) session).proc.expectedSRES =
          own.expectedSRES := by
  rw [feedExternalTyped]
  split
  · cases vlr.accept <;> exact ⟨rfl, rfl, rfl⟩
  · exact ⟨rfl, rfl, rfl⟩

end Steps

/-! ## Answers to challenges -/

section Answers

variable {past : List ProcedureEvent} {event : ProcedureEvent}

theorem answered_snoc (answered : Answered past)
    (late : (challenge? event).isSome = true →
      (after ({} : LocationUpdate) past).base.currentState.checksAuthentication = false) :
    Answered (past ++ [event]) := by
  intro before challenge later parts delivered checks
  rcases History.snoc_eq_append_cons parts with ⟨-, rfl, rfl⟩ | ⟨front, rfl, inside⟩
  · rw [late delivered] at checks
    cases checks
  · obtain ⟨middle, answer, rest, rfl, answers⟩ := answered before challenge front inside delivered checks
    refine ⟨middle, answer, rest ++ [event], ?_, answers⟩
    rw [List.append_assoc, List.cons_append]

/-- An answer that is right now. -/
theorem answered_now (answers : Answers past event) : Answered (past ++ [event]) := by
  intro before challenge later parts delivered checks
  rcases History.snoc_eq_append_cons parts with ⟨-, rfl, rfl⟩ | ⟨front, rfl, inside⟩
  · obtain ⟨chal, session, -, rfl⟩ := answers
    cases delivered
  · refine ⟨front, event, [], rfl, ?_⟩
    rwa [← inside]

/-- Without a challenge no answer is asked for. -/
theorem answered_unchallenged (unchallenged : History.latest challenge? past = none) :
    Answered past := by
  rintro before challenge later rfl delivered -
  rw [History.latest_eq_none unchallenged
    (List.mem_append_right _ (List.mem_cons_self ..))] at delivered
  cases delivered

end Answers

/-! ## Acceptance -/

/-- What the procedure knows of the challenge delivered last. -/
def Remembers (own : LocationUpdate) : Option AuthChallenge → Prop
  | none => own.hasRand = false ∧ own.hasExpectedSRES = false
  | some chal => own.hasRand = true ∧ own.hasExpectedSRES = true ∧
      own.expectedSRES = chal.expectedSres

/-- The procedure follows its history. -/
structure Tracks (past : List ProcedureEvent) (own : LocationUpdate) : Prop where
  reached : after ({} : LocationUpdate) past = own
  aligned : own.base.Aligned
  remembers : own.Remembers (History.latest challenge? past)
  asked : own.base.currentState = .sendAuth ∨ own.base.currentState = .waitAuth →
    own.hasRand = true
  unused : own.base.currentState ≠ .verifyAuth ∧ own.base.currentState ≠ .sendAccept
  answered : own.base.currentState.passed = true → Answered past

section Acceptance

variable {own next : LocationUpdate} {past : List ProcedureEvent}

theorem Remembers.same {latest : Option AuthChallenge} (remembers : own.Remembers latest)
    (rand : next.hasRand = own.hasRand) (has : next.hasExpectedSRES = own.hasExpectedSRES)
    (sres : next.expectedSRES = own.expectedSRES) : next.Remembers latest := by
  cases latest with
  | none => exact ⟨rand.trans remembers.1, has.trans remembers.2⟩
  | some chal =>
      exact ⟨rand.trans remembers.1, has.trans remembers.2.1, sres.trans remembers.2.2⟩

/-- A procedure without a challenge was given none. -/
theorem Remembers.unchallenged {latest : Option AuthChallenge} (remembers : own.Remembers latest)
    (rand : own.hasRand = false) : latest = none := by
  cases latest with
  | none => rfl
  | some chal => cases rand.symm.trans remembers.1

/-- A procedure with a challenge holds the latest one. -/
theorem Remembers.challenged {latest : Option AuthChallenge} (remembers : own.Remembers latest)
    (rand : own.hasRand = true) : ∃ chal, latest = some chal ∧ own.hasExpectedSRES = true ∧
      own.expectedSRES = chal.expectedSres := by
  cases latest with
  | none => cases rand.symm.trans remembers.1
  | some chal => exact ⟨chal, rfl, remembers.2⟩

theorem challenge?_feed (msg : ParsedMessage) (session : Option SessionCore) :
    challenge? (.feed msg session) = none := rfl

/-- A message keeps the history tracked. -/
theorem Tracks.feed (tracks : Tracks past own) (msg : ParsedMessage)
    (session : Option SessionCore) :
    Tracks (past ++ [.feed msg session]) (own.feed msg session).proc := by
  obtain ⟨rand, has, sres⟩ := feed_keys own msg session
  have latest : History.latest challenge? (past ++ [.feed msg session]) =
      History.latest challenge? past :=
    History.latest_snoc_none (challenge?_feed msg session)
  have follows := feed_follows tracks.aligned msg session
  have kept (answered : Answered past) : Answered (past ++ [.feed msg session]) :=
    answered_snoc answered nofun
  have remembers : (own.feed msg session).proc.Remembers
      (History.latest challenge? (past ++ [.feed msg session])) := by
    rw [latest]
    exact tracks.remembers.same rand has sres
  have leads := feed_to own msg session
  generalize reached : (own.feed msg session).proc.base.currentState = state at leads
  refine ⟨?_, follows.aligned, remembers, ?_, ?_, ?_⟩
  · rw [after_snoc, tracks.reached]
    rfl
  · rw [reached, rand]
    cases leads with
    | stays => exact tracks.asked
    | challenges _ rand => exact fun _ => rand
    | waits state => exact fun _ => tracks.asked (.inl state)
    | identifies _ early =>
        rcases early with rfl | rfl | rfl <;> nofun
    | _ => nofun
  · rw [reached]
    cases leads with
    | stays => exact tracks.unused
    | identifies _ early =>
        rcases early with rfl | rfl | rfl <;> exact ⟨nofun, nofun⟩
    | _ => exact ⟨nofun, nofun⟩
  · rw [reached]
    intro passed
    cases leads with
    | stays => exact kept (tracks.answered passed)
    | identifies _ early =>
        rcases early with rfl | rfl | rfl <;> cases passed
    | skips _ rand => exact kept (answered_unchallenged (tracks.remembers.unchallenged rand))
    | unexpected state expected =>
        obtain ⟨chal, -, expects, -⟩ := tracks.remembers.challenged (tracks.asked (.inr state))
        cases expected.symm.trans expects
    | verifies state expected response =>
        obtain ⟨chal, delivered, -, expects⟩ :=
          tracks.remembers.challenged (tracks.asked (.inr state))
        apply answered_now
        exact ⟨chal, session, delivered, by rw [response, expects]⟩
    | asks state => exact kept (tracks.answered (by rw [state]; rfl))
    | accepts state => exact absurd state tracks.unused.2
    | challenges | waits | mismatches | rejects => cases passed

/-- Behind the authentication the challenge is not asked for. -/
theorem passed_settled {state : LocationUpdateState} (passed : state.passed = true) :
    state.checksAuthentication = false := by
  cases state with
  | luRequest | waitingExternal | sendAccept | completed => rfl
  | init | identityCheck | requestIdentity | authCheck | sendAuth | waitAuth | verifyAuth
  | sendReject | failed => cases passed

/-- An event that delivers no challenge and leaves the state, or ends the procedure unless it
has passed. -/
theorem Tracks.other {event : ProcedureEvent} (tracks : Tracks past own)
    (reacts : (EventDriven.react own event).proc = next) (silent : challenge? event = none)
    (aligned : next.base.Aligned) (rand : next.hasRand = own.hasRand)
    (has : next.hasExpectedSRES = own.hasExpectedSRES)
    (sres : next.expectedSRES = own.expectedSRES)
    (state : next.base.currentState = own.base.currentState ∨
      next.base.currentState = .failed ∨
        next.base.currentState = .completed ∧ own.base.currentState.passed = true) :
    Tracks (past ++ [event]) next := by
  refine ⟨?_, aligned, ?_, ?_, ?_, ?_⟩
  · rw [after_snoc, tracks.reached, reacts]
  · rw [History.latest_snoc_none silent]
    exact tracks.remembers.same rand has sres
  · rw [rand]
    rcases state with same | failed | ⟨completed, -⟩
    · rw [same]
      exact tracks.asked
    · rw [failed]
      nofun
    · rw [completed]
      nofun
  · rcases state with same | failed | ⟨completed, -⟩
    · rw [same]
      exact tracks.unused
    · rw [failed]
      exact ⟨nofun, nofun⟩
    · rw [completed]
      exact ⟨nofun, nofun⟩
  · intro passed
    have before : own.base.currentState.passed = true := by
      rcases state with same | failed | ⟨-, before⟩
      · rwa [same] at passed
      · rw [failed] at passed
        cases passed
      · exact before
    refine answered_snoc (tracks.answered before) fun delivered => ?_
    rw [silent] at delivered
    cases delivered

/-- A challenge keeps the history tracked. -/
theorem Tracks.challenge (tracks : Tracks past own) (chal : AuthChallenge)
    (session : Option SessionCore) :
    Tracks (past ++ [.external (.authChallenge chal) session])
      (own.feedExternalTyped (.authChallenge chal) session).proc := by
  have aligned := (feedExternalTyped_follows tracks.aligned (.authChallenge chal) session).aligned
  have latest : History.latest challenge? (past ++ [.external (.authChallenge chal) session]) =
      some chal := History.latest_snoc_some rfl
  have reached : after ({} : LocationUpdate) (past ++ [.external (.authChallenge chal) session]) =
      (own.feedExternalTyped (.authChallenge chal) session).proc := by
    rw [after_snoc, tracks.reached]
    rfl
  rw [feedExternalTyped] at aligned reached ⊢
  by_cases state : own.base.currentState = .authCheck
  · simp only [state, ↓reduceIte] at aligned reached ⊢
    exact ⟨reached, aligned, by rw [latest]; exact ⟨rfl, rfl, rfl⟩, fun _ => rfl, ⟨nofun, nofun⟩,
      nofun⟩
  · simp only [state, ↓reduceIte] at aligned reached ⊢
    refine ⟨reached, aligned, by rw [latest]; exact ⟨rfl, rfl, rfl⟩, fun _ => rfl, tracks.unused, ?_⟩
    intro passed
    refine answered_snoc (tracks.answered passed) fun _ => ?_
    rw [tracks.reached]
    exact passed_settled passed

/-- Data keeps the history tracked. -/
theorem Tracks.external (tracks : Tracks past own) (data : ExternalData)
    (session : Option SessionCore) :
    Tracks (past ++ [.external data session]) (own.feedExternalTyped data session).proc := by
  have aligned := (feedExternalTyped_follows tracks.aligned data session).aligned
  cases data with
  | authChallenge chal => exact tracks.challenge chal session
  | vlrDecision vlr =>
      obtain ⟨rand, has, sres⟩ := decision_keys own vlr session
      refine tracks.other rfl rfl aligned rand has sres ?_
      rcases decision_leads own vlr session with same | failed | ⟨completed, waiting, -⟩
      · exact .inl same
      · exact .inr (.inl failed)
      · exact .inr (.inr ⟨completed, by rw [waiting]; rfl⟩)
  | pagingTrigger | cipheringParameters | handoverTarget =>
      exact tracks.other rfl rfl aligned rfl rfl rfl (.inl rfl)

/-- A tick keeps the history tracked. -/
theorem Tracks.tick (tracks : Tracks past own) (delta : Int) :
    Tracks (past ++ [.tick delta]) (own.tick delta).1 := by
  refine tracks.other rfl rfl ?_ rfl rfl rfl ?_
  · exact (StateMixin.Follows.doTick tracks.aligned type delta (by decide)).aligned
  · rcases doTick_state own.base type delta with same | failed
    · exact .inl same
    · exact .inr (.inl failed)

/-- The history is tracked after any events. -/
theorem tracks_after (past : List ProcedureEvent) :
    Tracks past (after ({} : LocationUpdate) past) := by
  refine after_invariant Tracks ?_ ?_ past
  · exact ⟨rfl, ⟨.inr ⟨rfl, rfl⟩, nofun⟩, ⟨rfl, rfl⟩, nofun, ⟨nofun, nofun⟩, nofun⟩
  · intro past event tracks
    cases event with
    | feed msg session => exact tracks.feed msg session
    | external data session => exact tracks.external data session
    | tick delta => exact tracks.tick delta

/-- A procedure is completed in its completed state only. -/
theorem completed_iff (aligned : own.base.Aligned) :
    own.base.procState = .completed ↔ own.base.currentState = .completed := by
  rcases aligned.shown with shown | ⟨initiated, going⟩
  · rw [shown]
    cases own.base.currentState <;> decide
  · rw [initiated]
    refine iff_of_false nofun fun state => ?_
    rw [state] at going
    cases going

/-- The only step that completes a procedure is the decision it waits for. -/
theorem Tracks.completes {event : ProcedureEvent} (tracks : Tracks past own)
    (going : own.base.currentState ≠ .completed)
    (completes : (EventDriven.react own event).proc.base.currentState = .completed) :
    own.base.currentState = .waitingExternal ∧ IsAcceptance event := by
  cases event with
  | feed msg session =>
      have leads := feed_to own msg session
      change (own.feed msg session).proc.base.currentState = .completed at completes
      rw [completes] at leads
      generalize reached : LocationUpdateState.completed = state at leads
      cases leads with
      | stays => exact absurd reached.symm going
      | accepts state => exact absurd state tracks.unused.2
      | identifies _ early => rcases early with rfl | rfl | rfl <;> cases reached
      | _ => cases reached
  | external data session =>
      rcases external_leads own data session with same | asks | failed | ⟨-, waiting, accepts⟩
      · exact absurd (same.symm.trans completes) going
      · cases asks.symm.trans completes
      · cases failed.symm.trans completes
      · exact ⟨waiting, accepts⟩
  | tick delta =>
      rcases doTick_state own.base type delta with same | failed
      · exact absurd (same.symm.trans completes) going
      · cases failed.symm.trans completes

/-- **Acceptance.**  In every run a location update completes only by an accepting decision that
it waited for, and every challenge that was delivered while authentication was checked has been
answered rightly by then. -/
theorem completes_by_acceptance (past : List ProcedureEvent) (event : ProcedureEvent)
    (going : (after ({} : LocationUpdate) past).base.procState ≠ .completed)
    (completes : (after ({} : LocationUpdate) (past ++ [event])).base.procState = .completed) :
    (after ({} : LocationUpdate) past).base.currentState = .waitingExternal ∧
      IsAcceptance event ∧ Answered past := by
  have tracks := tracks_after past
  have next := tracks_after (past ++ [event])
  have state := (completed_iff next.aligned).mp completes
  rw [after_snoc] at state
  obtain ⟨waiting, accepts⟩ :=
    tracks.completes (mt (completed_iff tracks.aligned).mpr going) state
  exact ⟨waiting, accepts, tracks.answered (by rw [waiting]; rfl)⟩

/-- A challenged subscriber that answers rightly. -/
private def challengedRun : List ProcedureEvent :=
  let known : SessionCore := { context := { identity := .ofTMSI 7 } }
  [.feed (.cmServiceRequest .locationUpdateRequest) (some known),
    .feed (.cmServiceRequest .locationUpdateRequest) (some known),
    .external (.authChallenge ⟨.replicate 16 1, #v[1, 2, 3, 4]⟩) (some known),
    .feed (.authenticationResponse 0x01020304) (some known),
    .feed (.authenticationResponse 0x01020304) (some known),
    .feed (.cmServiceRequest .locationUpdateRequest) (some known)]

/-- The run of a challenge that is answered and accepted. -/
theorem completes_by_acceptance_challenged :
    (after ({} : LocationUpdate) challengedRun).base.currentState = .waitingExternal ∧
      IsAcceptance (.external (.vlrDecision { accept := true }) none) ∧ Answered challengedRun :=
  completes_by_acceptance challengedRun _ (by decide) (by decide)

end Acceptance

/-! ## Wrong answers -/

/-- A wrong answer is rejected once: this step sends the only reject of the run, tells the session
why, ends the procedure and nothing is sent after it. -/
structure RejectsOnce (past : List ProcedureEvent) (sres : UInt32)
    (session : Option SessionCore) : Prop where
  now : ((after ({} : LocationUpdate) past).feed (.authenticationResponse sres)
    session).result.responseToken = .locationUpdatingReject
  first : .locationUpdatingReject ∉ signalled ({} : LocationUpdate) past
  cause : ∀ told ∈ ((after ({} : LocationUpdate) past).feed (.authenticationResponse sres)
    session).session, told.response.mmCause = .macFailure
  terminal : ((after ({} : LocationUpdate) past).feed (.authenticationResponse sres)
    session).proc.base.procState.isTerminal = true
  silent : ∀ later, signalled ((after ({} : LocationUpdate) past).feed
    (.authenticationResponse sres) session).proc later = []

section Rejects

variable {own : LocationUpdate} {past : List ProcedureEvent} {sres : UInt32}
  {session : Option SessionCore}

/-- What a wrong answer leads to: a reject is sent, and is due again. -/
theorem verify_rejects {msg : ParsedMessage}
    (reached : (own.verify msg).1.base.currentState = .sendReject) :
    own.verify msg = ({ own.goto .verifyAuth with rejectCause := .macFailure }.goto .sendReject,
      .respond .locationUpdatingReject) := by
  unfold verify at reached ⊢
  dsimp only at reached ⊢
  split at reached
  case isTrue expected =>
    rw [if_pos expected]
    split at reached
    case h_1 received response =>
      split at reached
      case isTrue => cases reached
      case isFalse differs => rw [if_neg differs]
    case h_2 response => rfl
  case isFalse => cases reached

/-- A wrong answer leads to the rejection. -/
theorem verify_wrong (expected : own.hasExpectedSRES = true)
    (differs : sres ≠ sresValue own.expectedSRES) :
    (own.verify (.authenticationResponse sres)).1.base.currentState = .sendReject := by
  unfold verify
  dsimp only
  rw [if_pos (show (own.goto .verifyAuth).hasExpectedSRES = true from expected)]
  change (if sres = sresValue own.expectedSRES then _ else _ :
    LocationUpdate × ProcedureStepResult).1.base.currentState = _
  rw [if_neg differs]
  rfl

/-- While an answer is awaited other messages have no effect. -/
theorem feedState_waitAuth (waits : own.base.currentState = .waitAuth) (msg : ParsedMessage)
    (session : Option SessionCore) : own.feedState msg session =
      if msg.Is .mobilityManagement MTI.authenticationResponse then own.verify msg
      else (own, {}) := by
  unfold feedState
  rw [waits]

/-- The step that leads to the sending of a reject has sent one. -/
theorem feed_sendReject {msg : ParsedMessage} (other : own.base.currentState ≠ .sendReject)
    (reached : (own.feed msg session).proc.base.currentState = .sendReject) :
    (own.feed msg session).result.announced = [.locationUpdatingReject] := by
  have leads := feed_to own msg session
  rw [reached] at leads
  generalize due : LocationUpdateState.sendReject = state at leads
  cases leads with
  | stays => exact absurd due.symm other
  | mismatches waits =>
      have response : msg.Is .mobilityManagement MTI.authenticationResponse := by
        by_contra elsewhere
        change (own.feedState msg session).1.base.currentState = .sendReject at reached
        rw [feedState_waitAuth waits, if_neg elsewhere] at reached
        cases waits.symm.trans reached
      have verified : own.feedState msg session = own.verify msg := by
        rw [feedState_waitAuth waits, if_pos response]
      have rejected : (own.verify msg).1.base.currentState = .sendReject := by
        rw [← verified]
        exact reached
      have result : (own.feed msg session).result = .respond .locationUpdatingReject := by
        rw [feed, verified, verify_rejects rejected]
        rfl
      rw [result]
      rfl
  | identifies _ early => rcases early with rfl | rfl | rfl <;> cases due
  | _ => cases due

/-- A reject that is due again has been sent. -/
theorem sendReject_signalled (past : List ProcedureEvent)
    (due : (after ({} : LocationUpdate) past).base.currentState = .sendReject) :
    .locationUpdatingReject ∈ signalled ({} : LocationUpdate) past := by
  induction past using List.reverseRecOn with
  | nil => cases due
  | append_singleton past event ih =>
      rw [signalled_snoc, List.mem_append]
      by_cases before : (after ({} : LocationUpdate) past).base.currentState = .sendReject
      · exact .inl (ih before)
      · right
        rw [after_snoc] at due
        generalize after ({} : LocationUpdate) past = own at before due ⊢
        cases event with
        | feed msg session =>
            have sent := feed_sendReject before due
            change _ ∈ (own.feed msg session).result.announced
            rw [sent]
            exact List.mem_singleton_self _
        | external data session =>
            rcases external_leads own data session with same | asks | failed | ⟨completed, -⟩
            · exact absurd (same.symm.trans due) before
            · cases asks.symm.trans due
            · cases failed.symm.trans due
            · cases completed.symm.trans due
        | tick delta =>
            rcases doTick_state own.base type delta with same | failed
            · exact absurd (same.symm.trans due) before
            · cases failed.symm.trans due

theorem feed_announced (aligned : own.base.Aligned) {msg : ParsedMessage}
    (ends : (own.feed msg session).proc.base.procState.isTerminal = true)
    (answers : (own.feed msg session).result.responseToken ≠ .none)
    (unused : own.base.currentState ≠ .sendAccept) : own.base.currentState = .sendReject := by
  have follows := feed_follows aligned msg session
  have live : own.base.procState.isTerminal = false := by
    by_contra final
    exact answers (follows.reports.silent (Bool.eq_true_of_not_eq_false final))
  have going := aligned.going live
  have final : (ProcedureStates.procState (own.feed msg session).proc.base.currentState).isTerminal =
      true := by
    by_contra goes
    rw [follows.aligned.live (Bool.eq_false_of_not_eq_true goes)] at ends
    cases ends
  have leads := feed_to own msg session
  generalize (own.feed msg session).proc.base.currentState = state at leads final
  cases leads with
  | stays => rw [going] at final; cases final
  | accepts state => exact absurd state unused
  | rejects state => exact state
  | identifies _ early => rcases early with rfl | rfl | rfl <;> cases final
  | challenges | skips | waits | unexpected | verifies | mismatches | asks => cases final

/-- No wrong answer is rejected once and for all. -/
theorem not_rejectsOnce (past : List ProcedureEvent) (sres : UInt32)
    (session : Option SessionCore) : ¬ RejectsOnce past sres session := by
  intro once
  have tracks := tracks_after past
  have due := feed_announced tracks.aligned once.terminal (by rw [once.now]; nofun) tracks.unused.2
  exact once.first (sendReject_signalled past due)

/-- **Wrong answers.**  No answer is rejected once.  A wrong answer that is waited for makes the
procedure send a reject and go on, tells the session nothing, and the next message, whatever it
is, makes it send another reject. -/
theorem wrong_answer_rejected_again (past : List ProcedureEvent) (sres : UInt32)
    (session : Option SessionCore)
    (wrong : ∃ chal ∈ History.latest challenge? past, sres ≠ sresValue chal.expectedSres) :
    ¬ RejectsOnce past sres session ∧
      ((after ({} : LocationUpdate) past).base.currentState = .waitAuth →
        let fed := (after ({} : LocationUpdate) past).feed (.authenticationResponse sres) session
        fed.result = .respond .locationUpdatingReject ∧ fed.proc.base.procState = .inProgress ∧
          fed.session = session ∧ ∀ msg later,
            (fed.proc.feed msg later).result.responseToken = .locationUpdatingReject) := by
  refine ⟨not_rejectsOnce past sres session, fun waits => ?_⟩
  obtain ⟨chal, delivered, differs⟩ := wrong
  have tracks := tracks_after past
  obtain ⟨known, latest, expected, expects⟩ := tracks.remembers.challenged (tracks.asked (.inr waits))
  obtain rfl : known = chal := Option.some.inj (latest.symm.trans delivered)
  generalize after ({} : LocationUpdate) past = own at waits expected expects
  have rejects := verify_rejects (verify_wrong expected (by rwa [expects]))
  have fed : own.feed (.authenticationResponse sres) session =
      ⟨{ own.goto .verifyAuth with rejectCause := .macFailure }.goto .sendReject, session,
        .respond .locationUpdatingReject⟩ := by
    rw [feed, feedState_waitAuth waits, if_pos ⟨rfl, rfl⟩, rejects]
    rfl
  rw [fed]
  exact ⟨rfl, rfl, rfl, fun msg later => rfl⟩

/-- The run of a challenge that is answered wrongly. -/
theorem wrong_answer_rejected_again_challenged :
    let past := challengedRun.take 4
    ¬ RejectsOnce past 0 none ∧
      ((after ({} : LocationUpdate) past).base.currentState = .waitAuth →
        let fed := (after ({} : LocationUpdate) past).feed (.authenticationResponse 0) none
        fed.result = .respond .locationUpdatingReject ∧ fed.proc.base.procState = .inProgress ∧
          fed.session = none ∧ ∀ msg later,
            (fed.proc.feed msg later).result.responseToken = .locationUpdatingReject) :=
  wrong_answer_rejected_again (challengedRun.take 4) 0 none
    ⟨⟨.replicate 16 1, #v[1, 2, 3, 4]⟩, rfl, by decide⟩

/-- A wrong answer to a challenge is rejected with each of the next two messages. -/
theorem wrong_answer_rejected_twice :
    let past := challengedRun.take 4
    (∃ chal ∈ History.latest challenge? past, (0 : UInt32) ≠ sresValue chal.expectedSres) ∧
      (after ({} : LocationUpdate) past).base.currentState = .waitAuth ∧
        ¬ RejectsOnce past 0 (some {}) ∧
          signalled ({} : LocationUpdate) (past ++ [.feed (.authenticationResponse 0) (some {}),
            .feed (.authenticationResponse 0) (some {})]) =
              [.authenticationRequest, .locationUpdatingReject, .locationUpdatingReject] := by
  refine ⟨⟨⟨.replicate 16 1, #v[1, 2, 3, 4]⟩, rfl, by decide⟩, by decide, ?_, by decide⟩
  intro once
  exact absurd once.terminal (by decide)

end Rejects

end LocationUpdate

end Stack

end Gsml3
