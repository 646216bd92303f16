import Gsml3.Stack.LocationUpdateRuns

/-!
# Challenges and the requests that carry them

A challenge sets the expected response of a procedure and the RAND of its session at once, in any
state, but a request is signalled only in some.  So an answer is checked against the challenge
that was delivered last, and the request that the phone answers was built from the one that was
delivered last when it was signalled.  These are the same unless a challenge was delivered while
the answer was awaited.
-/

namespace Foundation.History

variable {Event Value : Type*}

theorem latest_append (value : Event → Option Value) (earlier later : List Event) :
    latest value (earlier ++ later) = (latest value later).or (latest value earlier) := by
  rw [latest, List.reverse_append, List.findSome?_append]
  rfl

end Foundation.History

namespace Gsml3

namespace Stack

open Foundation

/-! ## A procedure with its session -/

/-- What reaches a procedure of a session. -/
inductive Stimulus where
  | message (msg : ParsedMessage)
  | external (data : ExternalData)
  | tick (delta : Int)
deriving DecidableEq, Repr

def Stimulus.event (session : SessionCore) : Stimulus → ProcedureEvent
  | .message msg => .feed msg (some session)
  | .external data => .external data (some session)
  | .tick delta => .tick delta

/-- A procedure and the session it works on. -/
structure Served (P : Type) where
  proc : P
  session : SessionCore

/-- The response a step signals, and the RAND that is on the session to build it from. -/
abbrev Signal := ResponseToken × Vector UInt8 16

namespace Served

variable {P : Type} [EventDriven P]

def serve (state : Served P) (stimulus : Stimulus) : Served P × ResponseToken :=
  let fed := EventDriven.react state.proc (stimulus.event state.session)
  (⟨fed.proc, fed.session.getD state.session⟩, fed.result.responseToken)

/-- The procedure as a machine whose events are stimuli with the responses that are signalled. -/
def machine (P : Type) [EventDriven P] : Machine (Served P) (Stimulus × Signal) :=
  .ofCalls fun state stimulus =>
    let (next, token) := state.serve stimulus
    some (next, token, next.session.response.rand)

/-- The challenge an event delivers. -/
def delivered : Stimulus × Signal → Option AuthChallenge
  | (.external (.authChallenge chal), _) => some chal
  | _ => none

/-- The RAND of the authentication request an event signals. -/
def requested (event : Stimulus × Signal) : Option (Vector UInt8 16) :=
  if event.2.1 = .authenticationRequest then some event.2.2 else none

/-- The last request of a history was built from a challenge: the one that was delivered last
then. -/
def Requested (events later : List (Stimulus × Signal)) (chal : AuthChallenge) : Prop :=
  ∃ before request, events = before ++ request :: later ∧ requested request = some chal.rand ∧
    (∀ event ∈ later, requested event = none) ∧
    History.latest delivered (before ++ [request]) = some chal

/-- A procedure that waits for an answer accepts just the one that is expected for the challenge
of the last request, or for the last one that was delivered since. -/
def Binds (start : P) (waits : P → Prop) (accepts : P → ParsedMessage → Prop) : Prop :=
  ∀ session events state, (machine P).Run (fun _ _ _ => True) ⟨start, session⟩ events state →
    waits state.proc → ∃ later chal, Requested events later chal ∧
      ∀ msg, accepts state.proc msg ↔ msg = .authenticationResponse
        (sresValue ((History.latest delivered later).getD chal).expectedSres)

/-! ## What a step does to challenges -/

/-- How a class of procedures treats challenges: it remembers the last one and exposes its RAND,
and comes to the states that wait for an answer only with a request. -/
structure KeepsChallenges (P : Type) [EventDriven P] (remembers : P → Option AuthChallenge → Prop)
    (asked : P → Prop) : Prop where
  delivers : ∀ (state : Served P) chal,
    remembers (state.serve (.external (.authChallenge chal))).1.proc (some chal) ∧
      (state.serve (.external (.authChallenge chal))).1.session.response.rand = chal.rand
  keeps : ∀ (state : Served P) stimulus signal, delivered (stimulus, signal) = none →
    (∀ last, remembers state.proc last → remembers (state.serve stimulus).1.proc last) ∧
      (state.serve stimulus).1.session.response.rand = state.session.response.rand
  asks : ∀ (state : Served P) stimulus, asked (state.serve stimulus).1.proc →
    asked state.proc ∨ (state.serve stimulus).2 = .authenticationRequest
  requests : ∀ (state : Served P) stimulus, remembers state.proc none → ¬ asked state.proc →
    (state.serve stimulus).2 = .authenticationRequest →
      ∃ chal, stimulus = .external (.authChallenge chal)

/-- The procedure and its session follow the history of challenges. -/
structure Follows (remembers : P → Option AuthChallenge → Prop) (asked : P → Prop)
    (events : List (Stimulus × Signal)) (state : Served P) : Prop where
  known : remembers state.proc (History.latest delivered events)
  exposed : ∀ chal ∈ History.latest delivered events, state.session.response.rand = chal.rand
  pending : asked state.proc → ∃ later chal, Requested events later chal

section Runs

variable {remembers : P → Option AuthChallenge → Prop} {asked : P → Prop}
  {events : List (Stimulus × Signal)} {state : Served P}

theorem Requested.snoc {later : List (Stimulus × Signal)} {chal : AuthChallenge}
    {event : Stimulus × Signal} (built : Requested events later chal)
    (silent : requested event = none) : Requested (events ++ [event]) (later ++ [event]) chal := by
  obtain ⟨before, request, rfl, rand, none_later, asked⟩ := built
  refine ⟨before, request, ?_, rand, ?_, asked⟩
  · rw [List.append_assoc, List.cons_append]
  · intro other member
    rcases List.mem_append.mp member with earlier | last
    · exact none_later other earlier
    · rw [List.mem_singleton.mp last]
      exact silent

/-- The challenge that was delivered last is the one of the last request, or the last one
since. -/
theorem Requested.latest {later : List (Stimulus × Signal)} {chal : AuthChallenge}
    (built : Requested events later chal) :
    History.latest delivered events = some ((History.latest delivered later).getD chal) := by
  obtain ⟨before, request, rfl, -, -, asked⟩ := built
  have parts : before ++ request :: later = (before ++ [request]) ++ later := by
    rw [List.append_assoc]
    rfl
  rw [parts, History.latest_append, asked]
  cases History.latest delivered later with
  | none => rfl
  | some newer => rfl

theorem delivered_eq_some {stimulus : Stimulus} {signal : Signal} {chal : AuthChallenge}
    (carries : delivered (stimulus, signal) = some chal) :
    stimulus = .external (.authChallenge chal) := by
  cases stimulus with
  | message | tick => cases carries
  | external data =>
      cases data with
      | authChallenge other => rw [Option.some.inj carries]
      | vlrDecision | pagingTrigger | cipheringParameters | handoverTarget => cases carries

theorem Follows.step (keeps : KeepsChallenges P remembers asked)
    (follows : Follows remembers asked events state) (stimulus : Stimulus) {signal : Signal}
    (token : signal.1 = (state.serve stimulus).2)
    (rand : signal.2 = (state.serve stimulus).1.session.response.rand) :
    Follows remembers asked (events ++ [(stimulus, signal)]) (state.serve stimulus).1 := by
  have exposes : remembers (state.serve stimulus).1.proc
        (History.latest delivered (events ++ [(stimulus, signal)])) ∧
      ∀ chal ∈ History.latest delivered (events ++ [(stimulus, signal)]),
        (state.serve stimulus).1.session.response.rand = chal.rand := by
    cases carried : delivered (stimulus, signal) with
    | none =>
        obtain ⟨known, same⟩ := keeps.keeps state stimulus signal carried
        rw [History.latest_snoc_none carried, same]
        exact ⟨known _ follows.known, follows.exposed⟩
    | some chal =>
        obtain rfl := delivered_eq_some carried
        obtain ⟨known, exposed⟩ := keeps.delivers state chal
        rw [History.latest_snoc_some carried]
        refine ⟨known, fun other member => ?_⟩
        rw [exposed, Option.some.inj member]
  refine ⟨exposes.1, exposes.2, fun waits => ?_⟩
  by_cases request : (state.serve stimulus).2 = .authenticationRequest
  · have carries : ∃ chal, History.latest delivered (events ++ [(stimulus, signal)]) =
        some chal := by
      cases last : History.latest delivered (events ++ [(stimulus, signal)]) with
      | some chal => exact ⟨chal, rfl⟩
      | none =>
          -- The request was signalled for a challenge that this step or an earlier one got.
          have silent : delivered (stimulus, signal) = none :=
            History.latest_eq_none last (List.mem_append_right _ (List.mem_singleton.mpr rfl))
          have earlier : History.latest delivered events = none := by
            rw [← last, History.latest_snoc_none silent]
          have unasked : ¬ asked state.proc := by
            intro pending
            obtain ⟨later, chal, built⟩ := follows.pending pending
            cases earlier.symm.trans built.latest
          have known := follows.known
          rw [earlier] at known
          obtain ⟨chal, rfl⟩ := keeps.requests state stimulus known unasked request
          cases silent
    obtain ⟨chal, last⟩ := carries
    refine ⟨[], chal, events, (stimulus, signal), rfl, ?_,
      fun _ none => absurd none List.not_mem_nil, last⟩
    rw [requested, if_pos (token.trans request), rand, exposes.2 chal last]
  · obtain ⟨later, chal, built⟩ :=
      follows.pending ((keeps.asks state stimulus waits).resolve_right request)
    exact ⟨_, chal, built.snoc (if_neg fun same => request (token.symm.trans same))⟩

/-- A procedure that checks answers against the challenge it remembers binds them. -/
theorem KeepsChallenges.binds (keeps : KeepsChallenges P remembers asked) {start : P}
    (unchallenged : remembers start none) (silent : ¬ asked start) {waits : P → Prop}
    (asks : ∀ {own}, waits own → asked own) {accepts : P → ParsedMessage → Prop}
    (checks : ∀ {own chal}, waits own → remembers own (some chal) → ∀ msg,
      accepts own msg ↔ msg = .authenticationResponse (sresValue chal.expectedSres)) :
    Binds start waits accepts := by
  intro session events state run waiting
  have follows : Follows remembers asked events state := by
    apply run.invariant (fun past state => Follows remembers asked past state)
    · exact ⟨unchallenged, nofun, fun pending => absurd pending silent⟩
    · intro past source target event follows stepped _
      obtain ⟨target_eq, token, rand⟩ : (source.serve event.1).1 = target ∧
          event.2.1 = (source.serve event.1).2 ∧
            event.2.2 = (source.serve event.1).1.session.response.rand := by
        have call := Option.some.inj (Machine.ofCalls_step.mp stepped)
        have parts := Prod.mk.inj call
        exact ⟨parts.1, (congrArg Prod.fst parts.2).symm, (congrArg Prod.snd parts.2).symm⟩
      rw [← target_eq]
      exact follows.step keeps event.1 token rand
  obtain ⟨later, chal, built⟩ := follows.pending (asks waiting)
  refine ⟨later, chal, built, checks waiting ?_⟩
  rw [← built.latest]
  exact follows.known

end Runs

end Served

/-- A tick signals no response. -/
theorem doTick_responseToken {State : Type} [ProcedureStates State] (own : StateMixin State)
    (type : ProcedureType) (delta : Int) : (own.doTick type delta).2.responseToken = .none := by
  rw [StateMixin.doTick]
  split
  · rfl
  · dsimp only
    split
    · rfl
    · rfl

/-! ## Authentication -/

namespace Authentication

instance : EventDriven Authentication where
  react own
    | .feed msg session => own.feed msg session
    | .external data session => own.feedExternalTyped data session
    | .tick delta => ⟨(own.tick delta).1, none, (own.tick delta).2⟩

/-- What the procedure knows of the challenge delivered last. -/
def Remembers (own : Authentication) : Option AuthChallenge → Prop
  | none => own.hasExpectedSRES = false
  | some chal => own.hasExpectedSRES = true ∧ own.expectedSRES = chal.expectedSres

/-- A request is signalled. -/
def Asked (own : Authentication) : Prop :=
  own.base.currentState = .sendAuthReq ∨ own.base.currentState = .waitResponse

/-- The next answer is checked. -/
def Waits (own : Authentication) : Prop :=
  own.base.currentState = .waitResponse

/-- A message that completes the procedure. -/
def Accepts (own : Authentication) (msg : ParsedMessage) : Prop :=
  (own.feed msg none).proc.base.currentState = .completed

theorem Remembers.same {own next : Authentication} {last : Option AuthChallenge}
    (remembers : own.Remembers last) (has : next.hasExpectedSRES = own.hasExpectedSRES)
    (sres : next.expectedSRES = own.expectedSRES) : next.Remembers last := by
  cases last with
  | none => exact has.trans remembers
  | some chal => exact ⟨has.trans remembers.1, sres.trans remembers.2⟩

/-- The states a message leads to, and what it keeps. -/
theorem feed_to (own : Authentication) (msg : ParsedMessage) (session : Option SessionCore) :
    let fed := own.feed msg session
    fed.session = session ∧ fed.proc.hasExpectedSRES = own.hasExpectedSRES ∧
      fed.proc.expectedSRES = own.expectedSRES ∧ (fed.proc.Asked → own.Asked) ∧
        (fed.result.responseToken = .authenticationRequest → own.Asked) := by
  unfold feed
  split
  case h_1 state => exact ⟨rfl, rfl, rfl, fun _ => .inl state, fun _ => .inl state⟩
  case h_2 state =>
    split
    · unfold verify
      dsimp only
      split
      · split
        · split
          · exact ⟨rfl, rfl, rfl, fun _ => .inr state, nofun⟩
          · exact ⟨rfl, rfl, rfl, fun _ => .inr state, nofun⟩
        · exact ⟨rfl, rfl, rfl, fun _ => .inr state, nofun⟩
      · exact ⟨rfl, rfl, rfl, fun _ => .inr state, nofun⟩
    · exact ⟨rfl, rfl, rfl, id, nofun⟩
  case h_3 | h_4 | h_5 | h_6 => exact ⟨rfl, rfl, rfl, id, nofun⟩

theorem feedExternalTyped_to (own : Authentication) (data : ExternalData) (session : SessionCore)
    (other : ∀ chal, data ≠ .authChallenge chal) :
    own.feedExternalTyped data (some session) = ⟨own, some session, {}⟩ := by
  cases data with
  | authChallenge chal => exact absurd rfl (other chal)
  | vlrDecision | pagingTrigger | cipheringParameters | handoverTarget => rfl

theorem keepsChallenges : Served.KeepsChallenges Authentication Remembers Asked where
  delivers state chal := by
    change Remembers (state.proc.feedExternalTyped _ (some state.session)).proc _ ∧
      ((state.proc.feedExternalTyped _ (some state.session)).session.getD
        state.session).response.rand = _
    unfold feedExternalTyped
    dsimp only
    split
    · exact ⟨⟨rfl, rfl⟩, rfl⟩
    · exact ⟨⟨rfl, rfl⟩, rfl⟩
  keeps state stimulus signal silent := by
    cases stimulus with
    | message msg =>
        obtain ⟨session, has, sres, -⟩ := feed_to state.proc msg (some state.session)
        refine ⟨fun last remembers => remembers.same has sres, ?_⟩
        change ((state.proc.feed msg (some state.session)).session.getD _).response.rand = _
        rw [session, Option.getD_some]
    | external data =>
        have fed := feedExternalTyped_to state.proc data state.session
          (fun chal same => by subst same; cases silent)
        constructor
        · intro last remembers
          change (state.proc.feedExternalTyped data (some state.session)).proc.Remembers last
          rwa [fed]
        · change ((state.proc.feedExternalTyped data (some state.session)).session.getD
            _).response.rand = _
          rw [fed, Option.getD_some]
    | tick delta => exact ⟨fun last remembers => remembers.same rfl rfl, rfl⟩
  asks state stimulus asked := by
    cases stimulus with
    | message msg => exact .inl ((feed_to state.proc msg (some state.session)).2.2.2.1 asked)
    | external data =>
        change (state.proc.feedExternalTyped data (some state.session)).proc.Asked at asked
        change state.proc.Asked ∨
          (state.proc.feedExternalTyped data (some state.session)).result.responseToken = _
        unfold feedExternalTyped at asked ⊢
        split at asked
        case h_1 =>
          dsimp only at asked ⊢
          split at asked
          case isTrue state => exact .inr (by rw [if_pos state]; rfl)
          case isFalse => exact .inl asked
        case h_2 => exact .inl asked
    | tick delta =>
        apply Or.inl
        have stays : (state.proc.tick delta).1.Asked := asked
        rcases doTick_state state.proc.base type delta with same | failed
        · exact stays.imp same.symm.trans same.symm.trans
        · rcases stays with sends | waits
          · cases failed.symm.trans sends
          · cases failed.symm.trans waits
  requests state stimulus _ unasked request := by
    cases stimulus with
    | message msg =>
        exact absurd ((feed_to state.proc msg (some state.session)).2.2.2.2 request) unasked
    | external data =>
        by_contra other
        have fed := feedExternalTyped_to state.proc data state.session
          (fun chal same => other ⟨chal, by rw [same]⟩)
        change (state.proc.feedExternalTyped data (some state.session)).result.responseToken = _
          at request
        rw [fed] at request
        cases request
    | tick delta =>
        change (state.proc.base.doTick type delta).2.responseToken = _ at request
        rw [doTick_responseToken] at request
        cases request

theorem accepts_iff {own : Authentication} {chal : AuthChallenge} (waits : own.Waits)
    (remembers : own.Remembers (some chal)) (msg : ParsedMessage) :
    own.Accepts msg ↔ msg = .authenticationResponse (sresValue chal.expectedSres) := by
  have state : own.base.currentState = .waitResponse := waits
  unfold Accepts feed
  rw [state]
  dsimp only
  split
  case isTrue answer =>
    unfold verify
    simp only [remembers.1, ↓reduceIte]
    split
    case h_1 sres response =>
      obtain rfl := LocationUpdate.authenticationResponse?_eq_some response
      rw [ParsedMessage.authenticationResponse.injEq, remembers.2]
      split
      case isTrue same => exact iff_of_true rfl same
      case isFalse other => exact iff_of_false nofun other
    case h_2 response =>
      apply iff_of_false nofun
      rintro rfl
      cases response
  case isFalse other =>
    apply iff_of_false
    · intro completed
      cases state.symm.trans completed
    · rintro rfl
      exact other ⟨rfl, rfl⟩

end Authentication

/-! ## Location updating -/

namespace LocationUpdate

/-- A request is signalled. -/
def Asked (own : LocationUpdate) : Prop :=
  own.base.currentState = .sendAuth ∨ own.base.currentState = .waitAuth

/-- The next answer is checked. -/
def Waits (own : LocationUpdate) : Prop :=
  own.base.currentState = .waitAuth

/-- A message that ends the check with success. -/
def Accepts (own : LocationUpdate) (msg : ParsedMessage) : Prop :=
  (own.feed msg none).proc.base.currentState = .luRequest

theorem Asked.elim {own : LocationUpdate} {other : Prop}
    (sends : own.base.currentState ≠ .sendAuth) (waits : own.base.currentState ≠ .waitAuth)
    (asked : own.Asked) : other :=
  (Or.elim asked sends waits).elim

/-- A message asks for an answer only with a request, and requests one only for a challenge that
is known. -/
theorem feed_asks (own : LocationUpdate) (msg : ParsedMessage) (session : Option SessionCore) :
    let fed := own.feed msg session
    (fed.proc.Asked → own.Asked ∨ fed.result.responseToken = .authenticationRequest) ∧
      (fed.result.responseToken = .authenticationRequest → own.hasRand = true) := by
  intro fed
  have token : fed.result.responseToken = (own.feedState msg session).2.responseToken :=
    reportTerminal_responseToken
  rw [token]
  change ((own.feedState msg session).1.Asked → _) ∧ _
  unfold feedState
  split
  case h_1 =>
    split
    · exact ⟨Asked.elim nofun nofun, nofun⟩
    · exact ⟨.inl, nofun⟩
  case h_2 =>
    split
    · exact ⟨Asked.elim nofun nofun, nofun⟩
    · exact ⟨Asked.elim nofun nofun, nofun⟩
  case h_3 =>
    split
    · exact ⟨Asked.elim nofun nofun, nofun⟩
    · exact ⟨.inl, nofun⟩
  case h_4 =>
    split
    case isTrue rand => exact ⟨fun _ => .inr rfl, fun _ => rand⟩
    case isFalse => exact ⟨Asked.elim nofun nofun, nofun⟩
  case h_5 state => exact ⟨fun _ => .inl (.inl state), nofun⟩
  case h_6 state =>
    refine ⟨fun _ => .inl (.inr state), ?_⟩
    split
    · unfold verify
      dsimp only
      split
      · split
        · split
          · nofun
          · nofun
        · nofun
      · nofun
    · nofun
  case h_7 | h_8 | h_9 => exact ⟨Asked.elim nofun nofun, nofun⟩
  case h_10 | h_11 | h_12 | h_13 => exact ⟨.inl, nofun⟩

/-- What data from outside that are no challenge do. -/
theorem feedExternalTyped_to (own : LocationUpdate) (data : ExternalData) (session : SessionCore)
    (other : ∀ chal, data ≠ .authChallenge chal) :
    let fed := own.feedExternalTyped data (some session)
    (∀ last, own.Remembers last → fed.proc.Remembers last) ∧
      (fed.session.getD session).response.rand = session.response.rand ∧
        (fed.proc.Asked → own.Asked) ∧ fed.result.responseToken ≠ .authenticationRequest := by
  cases data with
  | authChallenge chal => exact absurd rfl (other chal)
  | pagingTrigger | cipheringParameters | handoverTarget => exact ⟨fun _ => id, rfl, id, nofun⟩
  | vlrDecision vlr =>
      obtain ⟨rand, has, sres⟩ := decision_keys own vlr (some session)
      refine ⟨fun last remembers => remembers.same rand has sres, ?_⟩
      unfold feedExternalTyped
      dsimp only
      split
      · split
        · exact ⟨rfl, Asked.elim nofun nofun, nofun⟩
        · exact ⟨rfl, Asked.elim nofun nofun, nofun⟩
      · exact ⟨rfl, id, nofun⟩

theorem keepsChallenges : Served.KeepsChallenges LocationUpdate Remembers Asked where
  delivers state chal := by
    change Remembers (state.proc.feedExternalTyped _ (some state.session)).proc _ ∧
      ((state.proc.feedExternalTyped _ (some state.session)).session.getD
        state.session).response.rand = _
    unfold feedExternalTyped
    dsimp only
    split
    · exact ⟨⟨rfl, rfl, rfl⟩, rfl⟩
    · exact ⟨⟨rfl, rfl, rfl⟩, rfl⟩
  keeps state stimulus signal silent := by
    cases stimulus with
    | message msg =>
        obtain ⟨rand, has, sres⟩ := feed_keys state.proc msg (some state.session)
        exact ⟨fun last remembers => remembers.same rand has sres, rfl⟩
    | external data =>
        obtain ⟨known, rand, -⟩ := feedExternalTyped_to state.proc data state.session
          (fun chal same => by subst same; cases silent)
        exact ⟨known, rand⟩
    | tick delta => exact ⟨fun last remembers => remembers.same rfl rfl rfl, rfl⟩
  asks state stimulus asked := by
    cases stimulus with
    | message msg => exact (feed_asks state.proc msg (some state.session)).1 asked
    | external data =>
        by_cases challenge : ∃ chal, data = .authChallenge chal
        · obtain ⟨chal, rfl⟩ := challenge
          change (state.proc.feedExternalTyped _ (some state.session)).proc.Asked at asked
          change state.proc.Asked ∨
            (state.proc.feedExternalTyped _ (some state.session)).result.responseToken = _
          unfold feedExternalTyped at asked ⊢
          dsimp only at asked ⊢
          split at asked
          case isTrue state => exact .inr (by rw [if_pos state]; rfl)
          case isFalse => exact .inl asked
        · obtain ⟨-, -, keeps, -⟩ := feedExternalTyped_to state.proc data state.session
            (fun chal same => challenge ⟨chal, same⟩)
          exact .inl (keeps asked)
    | tick delta =>
        apply Or.inl
        have stays : (state.proc.tick delta).1.Asked := asked
        rcases doTick_state state.proc.base type delta with same | failed
        · exact stays.imp same.symm.trans same.symm.trans
        · rcases stays with sends | waits
          · cases failed.symm.trans sends
          · cases failed.symm.trans waits
  requests state stimulus unknown _ request := by
    cases stimulus with
    | message msg =>
        have rand := (feed_asks state.proc msg (some state.session)).2 request
        cases unknown.1.symm.trans rand
    | external data =>
        by_contra other
        obtain ⟨-, -, -, silent⟩ := feedExternalTyped_to state.proc data state.session
          (fun chal same => other ⟨chal, by rw [same]⟩)
        exact silent request
    | tick delta =>
        change (state.proc.base.doTick type delta).2.responseToken = _ at request
        rw [doTick_responseToken] at request
        cases request

theorem accepts_iff {own : LocationUpdate} {chal : AuthChallenge} (waits : own.Waits)
    (remembers : own.Remembers (some chal)) (msg : ParsedMessage) :
    own.Accepts msg ↔ msg = .authenticationResponse (sresValue chal.expectedSres) := by
  have state : own.base.currentState = .waitAuth := waits
  change (own.feedState msg none).1.base.currentState = .luRequest ↔ _
  unfold feedState
  rw [state]
  dsimp only
  split
  case isTrue answer =>
    unfold verify
    simp only [goto, remembers.2.1, ↓reduceIte]
    split
    case h_1 sres response =>
      obtain rfl := authenticationResponse?_eq_some response
      rw [ParsedMessage.authenticationResponse.injEq, remembers.2.2]
      split
      case isTrue same => exact iff_of_true rfl same
      case isFalse other => exact iff_of_false nofun other
    case h_2 response =>
      apply iff_of_false nofun
      rintro rfl
      cases response
  case isFalse other =>
    apply iff_of_false
    · intro passed
      cases state.symm.trans passed
    · rintro rfl
      exact other ⟨rfl, rfl⟩

end LocationUpdate

/-- In every run of an authentication and of a location update, an answer that is awaited is
accepted just if it is the one of the challenge that the last request was built from, or of the
last challenge that was delivered since then. -/
theorem challenge_binding :
    Served.Binds ({} : Authentication) Authentication.Waits Authentication.Accepts ∧
      Served.Binds ({} : LocationUpdate) LocationUpdate.Waits LocationUpdate.Accepts := by
  constructor
  · apply Authentication.keepsChallenges.binds _ _ Or.inr Authentication.accepts_iff
    · rfl
    · exact not_or.mpr ⟨nofun, nofun⟩
  · apply LocationUpdate.keepsChallenges.binds _ _ Or.inr LocationUpdate.accepts_iff
    · exact ⟨rfl, rfl⟩
    · exact not_or.mpr ⟨nofun, nofun⟩

end Stack

end Gsml3
