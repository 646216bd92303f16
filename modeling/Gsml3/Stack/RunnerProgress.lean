import Gsml3.Stack.ProcedureLifecycle
import Gsml3.Stack.RunnerCalls

/-!
# Progress of a procedure runner by time

A procedure leaves its slot by itself only when a running timer expires.  The
classes a runner creates have their timer running in all but a few states: a
channel assignment before its first response, and a location update before it
sends a request it supervises.
-/

namespace Gsml3

namespace Stack

namespace Procedure

/-- Time left on the timer of the procedure. -/
def timerRemaining : Procedure → Int
  | .locationUpdate own => own.base.timerRemaining
  | .authentication own => own.base.timerRemaining
  | .cipheringMode own => own.base.timerRemaining
  | .callSetupMO own => own.base.timerRemaining
  | .callSetupMT own => own.base.timerRemaining
  | .channelAssignment own => own.base.timerRemaining
  | .handover own => own.base.timerRemaining
  | .paging own => own.base.timerRemaining
  | .imsiDetach own => own.base.timerRemaining
  | .callRelease own => own.base.timerRemaining

/-- The states a procedure can rest in without a timer. -/
def Unsupervised : Procedure → Prop
  | .channelAssignment own => own.base.currentState = .allocateChannel
  | .locationUpdate own =>
      own.base.currentState = .identityCheck ∨ own.base.currentState = .requestIdentity ∨
        own.base.currentState = .authCheck ∨
        own.base.currentState = .luRequest ∧ own.base.timerRunning = false
  | _ => False

end Procedure

/-! ## Timers by state -/

namespace ChannelAssignment

/-- Whether the timer runs in a state the procedure can rest in. -/
def clock : ChannelAssignmentState → Bool → Prop
  | .allocateChannel, running => running = false
  | .sendImmediateAssignment, running | .waitSeizure, running => running = true
  | .completed, _ | .failed, _ => True
  | .init, _ => False

/-- The timer is as `clock` has it for the state. -/
def Clocked (own : ChannelAssignment) : Prop :=
  clock own.base.currentState own.base.timerRunning

/-- A message keeps the timer as `clock` has it. -/
theorem Clocked.feed {own : ChannelAssignment} (clocked : own.Clocked) (msg : ParsedMessage)
    (session : Option SessionCore) : (own.feed msg session).proc.Clocked := by
  have at_ : ∀ {state}, own.base.currentState = state → clock state own.base.timerRunning := by
    rintro state rfl
    exact clocked
  unfold ChannelAssignment.feed
  split
  case h_1 state => exact (at_ state).elim
  case h_2 => rfl
  case h_3 state =>
    have timer := at_ state
    exact timer
  case h_4 => trivial
  case h_5 | h_6 => exact clocked

end ChannelAssignment

namespace LocationUpdate

/-- T3106 stays running behind a verified response, so that the request state
alone does not tell. -/
def clock : LocationUpdateState → Bool → Prop
  | .identityCheck, running | .requestIdentity, running | .authCheck, running => running = false
  | .sendAuth, running | .waitAuth, running | .sendReject, running | .waitingExternal, running =>
      running = true
  | .luRequest, _ | .completed, _ | .failed, _ => True
  | .init, _ | .verifyAuth, _ | .sendAccept, _ => False

/-- The timer is as `clock` has it for the state. -/
def Clocked (own : LocationUpdate) : Prop :=
  clock own.base.currentState own.base.timerRunning

/-- The comparison of an answer keeps the timer as `clock` has it. -/
theorem Clocked.verify {own : LocationUpdate} (running : own.base.timerRunning = true)
    (msg : ParsedMessage) : (own.verify msg).1.Clocked := by
  unfold LocationUpdate.verify
  dsimp only
  split
  · split
    · split
      · trivial
      · exact running
    · exact running
  · trivial

/-- A message keeps the timer as `clock` has it. -/
theorem Clocked.feed {own : LocationUpdate} (clocked : own.Clocked) (msg : ParsedMessage)
    (session : Option SessionCore) : (own.feed msg session).proc.Clocked := by
  have at_ : ∀ {state}, own.base.currentState = state → clock state own.base.timerRunning := by
    rintro state rfl
    exact clocked
  change (own.feedState msg session).1.Clocked
  unfold LocationUpdate.feedState
  split
  case h_1 state => exact (at_ state).elim
  case h_2 state =>
    have timer := at_ state
    split <;> exact timer
  case h_3 state =>
    split
    · have timer := at_ state
      exact timer
    · exact clocked
  case h_4 state =>
    split
    · rfl
    · trivial
  case h_5 state =>
    have timer := at_ state
    exact timer
  case h_6 state =>
    split
    · exact Clocked.verify (at_ state) msg
    · exact clocked
  case h_7 => rfl
  case h_8 | h_9 => trivial
  case h_10 | h_11 | h_12 | h_13 => exact clocked

/-- Data keeps the timer as `clock` has it. -/
theorem Clocked.feedExternalTyped {own : LocationUpdate} (clocked : own.Clocked)
    (data : ExternalData) (session : Option SessionCore) :
    (own.feedExternalTyped data session).proc.Clocked := by
  unfold LocationUpdate.feedExternalTyped
  split
  · dsimp only
    split
    · rfl
    · exact clocked
  · split
    · dsimp only
      split <;> trivial
    · exact clocked
  · exact clocked

end LocationUpdate

namespace IMSIDetach

/-- The states before the accept are left in the step that enters them. -/
def clock : IMSIDetachState → Bool → Prop
  | .waitDetachComplete, running => running = true
  | .completed, _ | .failed, _ => True
  | .init, _ | .sendCMServiceAccept, _ => False

/-- The timer is as `clock` has it for the state. -/
def Clocked (own : IMSIDetach) : Prop :=
  clock own.base.currentState own.base.timerRunning

/-- A message keeps the timer as `clock` has it. -/
theorem Clocked.feed {own : IMSIDetach} (clocked : own.Clocked) (msg : ParsedMessage)
    (session : Option SessionCore) : (own.feed msg session).proc.Clocked := by
  have at_ : ∀ {state}, own.base.currentState = state → clock state own.base.timerRunning := by
    rintro state rfl
    exact clocked
  change (own.feedState msg).1.Clocked
  unfold IMSIDetach.feedState
  split
  case h_1 state | h_2 state => exact (at_ state).elim
  case h_3 =>
    split
    · trivial
    · exact clocked
  case h_4 | h_5 => exact clocked

end IMSIDetach

namespace CallSetupMO

/-- T3101 is started with the first response to a Setup and never stopped. -/
def clock : CallSetupMOState → Bool → Prop
  | .proceeding, running | .assignTCH, running | .waitAssignComplete, running
  | .alerting, running | .connect, running | .active, running => running = true
  | .completed, _ | .failed, _ => True
  | .init, _ | .serviceAccept, _ | .waitSetup, _ => False

/-- The timer is as `clock` has it for the state. -/
def Clocked (own : CallSetupMO) : Prop :=
  clock own.base.currentState own.base.timerRunning

/-- A message keeps the timer as `clock` has it. -/
theorem Clocked.feed {own : CallSetupMO} (clocked : own.Clocked) (msg : ParsedMessage)
    (session : Option SessionCore) : (own.feed msg session).proc.Clocked := by
  have at_ : ∀ {state}, own.base.currentState = state → clock state own.base.timerRunning := by
    rintro state rfl
    exact clocked
  unfold CallSetupMO.feed
  dsimp only
  split
  case h_1 state | h_2 state | h_3 state => exact (at_ state).elim
  case h_4 => rfl
  case h_5 state | h_7 state | h_8 state =>
    have timer := at_ state
    exact timer
  case h_6 state =>
    split
    · have timer := at_ state
      exact timer
    · exact clocked
  case h_9 =>
    split
    · trivial
    · exact clocked
  case h_10 | h_11 => exact clocked

end CallSetupMO

namespace CallRelease

/-- The states before the Disconnect are left in the step that enters them. -/
def clock : CallReleaseState → Bool → Prop
  | .waitRelease, running => running = true
  | .completed, _ | .failed, _ => True
  | .init, _ | .sendDisconnect, _ | .sendReleaseComplete, _ => False

/-- The timer is as `clock` has it for the state. -/
def Clocked (own : CallRelease) : Prop :=
  clock own.base.currentState own.base.timerRunning

/-- A message keeps the timer as `clock` has it. -/
theorem Clocked.feed {own : CallRelease} (clocked : own.Clocked) (msg : ParsedMessage)
    (session : Option SessionCore) : (own.feed msg session).proc.Clocked := by
  have at_ : ∀ {state}, own.base.currentState = state → clock state own.base.timerRunning := by
    rintro state rfl
    exact clocked
  change (own.feedState msg).1.Clocked
  unfold CallRelease.feedState
  split
  case h_1 state | h_2 state | h_4 state => exact (at_ state).elim
  case h_3 =>
    split
    · trivial
    · exact clocked
  case h_5 | h_6 => exact clocked

end CallRelease

namespace ProcedureRunner

/-- A procedure of a class the runner creates, with the timer its state has. -/
def Clocked : Procedure → Prop
  | .channelAssignment own => own.Clocked
  | .locationUpdate own => own.Clocked
  | .imsiDetach own => own.Clocked
  | .callSetupMO own => own.Clocked
  | .callRelease own => own.Clocked
  | _ => False

variable {runner target : ProcedureRunner} {i : Nat} {proc : Procedure}

/-- A message keeps the timer of whichever procedure. -/
theorem Clocked.feed (clocked : Clocked proc) (msg : ParsedMessage)
    (session : Option SessionCore) : Clocked (proc.feed msg session).proc := by
  cases proc with
  | authentication | cipheringMode | callSetupMT | handover | paging => exact clocked.elim
  | channelAssignment own => exact ChannelAssignment.Clocked.feed clocked msg session
  | locationUpdate own => exact LocationUpdate.Clocked.feed clocked msg session
  | imsiDetach own => exact IMSIDetach.Clocked.feed clocked msg session
  | callSetupMO own => exact CallSetupMO.Clocked.feed clocked msg session
  | callRelease own => exact CallRelease.Clocked.feed clocked msg session

/-- Data keeps the timer of whichever procedure. -/
theorem Clocked.feedExternalTyped (clocked : Clocked proc) (data : ExternalData)
    (session : Option SessionCore) : Clocked (proc.feedExternalTyped data session).proc := by
  cases proc with
  | authentication | cipheringMode | callSetupMT | handover | paging => exact clocked.elim
  | locationUpdate own => exact LocationUpdate.Clocked.feedExternalTyped clocked data session
  | channelAssignment | imsiDetach | callSetupMO | callRelease => exact clocked

/-- What a tick does to a procedure of a class the runner creates: nothing without
a timer, an end on expiry, and less time left otherwise. -/
inductive Ticked (proc : Procedure) (delta : Int) : Procedure → Prop where
  | stopped : proc.timerRunning = false → Ticked proc delta proc
  | expired (next : Procedure) : proc.timerRunning = true → proc.timerRemaining - delta ≤ 0 →
      next.state = .failed → Ticked proc delta next
  | left (next : Procedure) : proc.timerRunning = true → 0 < proc.timerRemaining - delta →
      next.state = proc.state → next.timerRunning = true →
      next.timerRemaining = proc.timerRemaining - delta → Ticked proc delta next

/-- The tick of a class, wrapped into a procedure. -/
theorem Ticked.doTick {State : Type} [ProcedureStates State] {own : StateMixin State}
    (wrap : StateMixin State → Procedure) (type : ProcedureType) (delta : Int)
    (state : ∀ base, (wrap base).state = base.procState)
    (running : ∀ base, (wrap base).timerRunning = base.timerRunning)
    (remaining : ∀ base, (wrap base).timerRemaining = base.timerRemaining) :
    Ticked (wrap own) delta (wrap (own.doTick type delta).1) := by
  cases timer : own.timerRunning with
  | false =>
      rw [doTick_stopped timer]
      exact .stopped ((running own).trans timer)
  | true =>
      have started := (running own).trans timer
      rcases lt_or_ge 0 (own.timerRemaining - delta) with left | expired
      · rw [(doTick_running timer type delta).2 left]
        refine .left _ started ?_ ?_ ?_ ?_
        · rwa [remaining]
        · rw [state, state]
        · rw [running]
          exact timer
        · rw [remaining, remaining]
      · refine .expired _ started ?_ ?_
        · rwa [remaining]
        · rw [state, doTick_expired timer expired]

/-- A tick leaves state and timer alone or fails the procedure. -/
theorem doTick_clock {State : Type} [ProcedureStates State] {own : StateMixin State}
    (clock : State → Bool → Prop) (type : ProcedureType) (delta : Int)
    (clocked : clock own.currentState own.timerRunning)
    (failed : clock ProcedureStates.failed false) :
    clock (own.doTick type delta).1.currentState (own.doTick type delta).1.timerRunning := by
  unfold StateMixin.doTick
  split
  · exact clocked
  · dsimp only
    split
    · exact failed
    · exact clocked

/-- A tick counts the timer down, or fails the procedure. -/
theorem Clocked.tick (clocked : Clocked proc) (delta : Int) :
    Ticked proc delta (proc.tick delta).1 ∧ Clocked (proc.tick delta).1 := by
  cases proc with
  | authentication | cipheringMode | callSetupMT | handover | paging => exact clocked.elim
  | channelAssignment own =>
      exact ⟨.doTick (fun base => .channelAssignment { own with base := base }) _ delta
          (fun _ => rfl) (fun _ => rfl) fun _ => rfl,
        doTick_clock ChannelAssignment.clock _ delta clocked trivial⟩
  | locationUpdate own =>
      exact ⟨.doTick (fun base => .locationUpdate { own with base := base }) _ delta
          (fun _ => rfl) (fun _ => rfl) fun _ => rfl,
        doTick_clock LocationUpdate.clock _ delta clocked trivial⟩
  | imsiDetach own =>
      exact ⟨.doTick (fun base => .imsiDetach { own with base := base }) _ delta
          (fun _ => rfl) (fun _ => rfl) fun _ => rfl,
        doTick_clock IMSIDetach.clock _ delta clocked trivial⟩
  | callSetupMO own =>
      exact ⟨.doTick (fun base => .callSetupMO { own with base := base }) _ delta
          (fun _ => rfl) (fun _ => rfl) fun _ => rfl,
        doTick_clock CallSetupMO.clock _ delta clocked trivial⟩
  | callRelease own =>
      exact ⟨.doTick (fun base => .callRelease { own with base := base }) _ delta
          (fun _ => rfl) (fun _ => rfl) fun _ => rfl,
        doTick_clock CallRelease.clock _ delta clocked trivial⟩

/-- The procedure a message creates, by what the message is. -/
theorem autoCreate_cases {msg : ParsedMessage} (made : autoCreateProcedure msg = some proc) :
    (messagePD msg = .radioResource ∧
        (messageMTI msg = MTI.channelRequest ∨ messageMTI msg = MTI.pagingResponse) ∧
        proc = ProcedureFactory.createChannelAssignment .sdcchType) ∨
      (msg.Is .mobilityManagement MTI.cmServiceRequest ∧
        proc = ProcedureFactory.createLocationUpdate) ∨
      (msg.Is .mobilityManagement MTI.imsiDetachIndication ∧
        proc = ProcedureFactory.createIMSIDetach) ∨
      (msg.Is .callControl MTI.setup ∧ proc = ProcedureFactory.createCallSetupMO) ∨
      (msg.Is .callControl MTI.disconnect ∧
        proc = ProcedureFactory.createCallRelease 0 .normalCallClearing) := by
  unfold autoCreateProcedure at made
  cases pd : messagePD msg with
  | radioResource =>
      simp only [pd] at made
      split at made
      case isTrue mti => exact .inl ⟨rfl, mti, (Option.some.inj made).symm⟩
      case isFalse => cases made
  | mobilityManagement =>
      simp only [pd] at made
      split at made
      case isTrue request =>
        exact .inr (.inl ⟨⟨pd, request.1⟩, (Option.some.inj made).symm⟩)
      case isFalse =>
        split at made
        case isTrue mti => exact .inr (.inr (.inl ⟨⟨pd, mti⟩, (Option.some.inj made).symm⟩))
        case isFalse => cases made
  | callControl =>
      simp only [pd] at made
      split at made
      case isTrue mti =>
        exact .inr (.inr (.inr (.inl ⟨⟨pd, mti⟩, (Option.some.inj made).symm⟩)))
      case isFalse =>
        split at made
        case isTrue mti =>
          exact .inr (.inr (.inr (.inr ⟨⟨pd, mti⟩, (Option.some.inj made).symm⟩)))
        case isFalse => cases made
  | groupCallControl | broadcastCallControl | gprsMobilityManagement | sms | gprsSessionManagement
  | nonCallSS | location | packetDomainSupplementaryServices1
  | packetDomainSupplementaryServices2 | testProcedure | undefined =>
      simp only [pd] at made
      cases made

/-- The first message leaves a created procedure with its timer right. -/
theorem Clocked.created {msg : ParsedMessage} (made : autoCreateProcedure msg = some proc)
    (session : Option SessionCore) : Clocked (proc.feed msg session).proc := by
  rcases autoCreate_cases made with ⟨pd, mti, rfl⟩ | ⟨is, rfl⟩ | ⟨is, rfl⟩ | ⟨is, rfl⟩ | ⟨is, rfl⟩
  · change (ChannelAssignment.feed _ msg session).proc.Clocked
    unfold ChannelAssignment.feed
    simp only [pd, mti, and_self, ↓reduceIte]
    rfl
  · change (LocationUpdate.feedState {} msg session).1.Clocked
    unfold LocationUpdate.feedState
    simp only [is.1, true_or, ↓reduceIte]
    rfl
  · change (IMSIDetach.feedState {} msg).1.Clocked
    unfold IMSIDetach.feedState
    simp only [is.1, ↓reduceIte]
    rfl
  · change (CallSetupMO.feed _ msg session).proc.Clocked
    have other : ¬ msg.Is .mobilityManagement MTI.cmServiceRequest := by
      rintro ⟨pd, -⟩
      rw [is.1] at pd
      cases pd
    unfold CallSetupMO.feed
    simp only [other, is, ↓reduceIte]
    unfold CallSetupMO.proceed
    dsimp only
    split <;> rfl
  · change (CallRelease.feedState { ti := 0, cause := _ } msg).1.Clocked
    unfold CallRelease.feedState
    simp only [is.1, ↓reduceIte]
    rfl

/-! ## Procedures in the slots -/

/-- The property holds of the procedure in every slot. -/
def InSlots (holds : Procedure → Prop) (runner : ProcedureRunner) : Prop :=
  ∀ (i : Nat) (proc : Procedure), runner.slots[i]? = some (some proc) → holds proc

theorem InSlots.empty (holds : Procedure → Prop) : InSlots holds {} := by
  intro i proc held
  obtain ⟨inside, held⟩ := List.getElem?_eq_some_iff.mp held
  rw [List.getElem_replicate] at held
  cases held

/-- A slot gets a procedure with the property or is emptied. -/
theorem InSlots.settle {holds : Procedure → Prop} (all : InSlots holds runner)
    (inside : i < runner.slots.length) {next : Procedure} (own : holds next) :
    InSlots holds (runner.setSlot i (settled next)) := by
  intro j proc held
  rw [setSlot_getElem? inside] at held
  split at held
  case isTrue =>
    have kept := Option.some.inj held
    rw [settled] at kept
    split at kept
    · cases kept
    · obtain rfl := Option.some.inj kept
      exact own
  case isFalse => exact all j proc held

/-- A property that the first message gives a procedure and every call keeps. -/
structure Kept (holds : Procedure → Prop) : Prop where
  created : ∀ {msg : ParsedMessage} {proc : Procedure}, autoCreateProcedure msg = some proc →
    ∀ session : Option SessionCore, holds (proc.feed msg session).proc
  feed : ∀ {proc : Procedure}, holds proc → ∀ (msg : ParsedMessage) (session : Option SessionCore),
    holds (proc.feed msg session).proc
  feedExternalTyped : ∀ {proc : Procedure}, holds proc →
    ∀ (data : ExternalData) (session : Option SessionCore),
      holds (proc.feedExternalTyped data session).proc
  tick : ∀ {proc : Procedure}, holds proc → ∀ delta : Int, holds (proc.tick delta).1

namespace Kept

variable {holds : Procedure → Prop}

/-- A message keeps what holds of the procedures in the slots. -/
theorem runnerFeed (kept : Kept holds) (all : InSlots holds runner) (msg : ParsedMessage)
    (session : Option SessionCore) : InSlots holds (runner.feed msg session).runner := by
  have routed : ∀ {i : Nat} {proc : Procedure}, runner.slots[i]? = some (some proc) →
      InSlots holds (runner.store i (proc.feed msg session)).runner := by
    intro i proc present
    rw [store_runner (List.getElem?_eq_some_iff.mp present).1]
    exact all.settle (List.getElem?_eq_some_iff.mp present).1
      (kept.feed (all i proc present) msg session)
  rw [ProcedureRunner.feed]
  split
  case h_1 i proc found => exact routed (findActive_some found)
  case h_2 =>
    split
    case h_1 i proc found => exact routed (findActive_some found)
    case h_2 =>
      split
      case h_2 => exact all
      case h_1 proc inserted i started inserts =>
        obtain ⟨proc', made, insertion⟩ := Option.bind_eq_some_iff.mp inserts
        obtain ⟨inserted', run, pair⟩ := Option.map_eq_some_iff.mp insertion
        obtain ⟨rfl, rfl⟩ := Prod.mk.inj pair
        obtain ⟨free, rfl⟩ := insertSlot_some run
        have inside := (List.getElem?_eq_some_iff.mp free).1
        change InSlots holds (ProcedureRunner.store _ i _).runner
        rw [store_runner (by rw [setSlot, List.length_set]; exact inside)]
        have created := all.settle inside
          (kept.created made (session.map fun s => s.expose fun _ => {}))
        simpa only [setSlot, List.set_set] using created

/-- Data keeps what holds of the procedures in the slots. -/
theorem runnerFeedExternalTyped (kept : Kept holds) (all : InSlots holds runner)
    (type : ProcedureType) (session : Option SessionCore) (data : ExternalData) :
    InSlots holds (runner.feedExternalTyped type session data).runner := by
  rw [ProcedureRunner.feedExternalTyped]
  split
  case h_2 => exact all
  case h_1 i proc found =>
    have present := findActive_some found
    rw [store_runner (List.getElem?_eq_some_iff.mp present).1]
    exact all.settle (List.getElem?_eq_some_iff.mp present).1
      (kept.feedExternalTyped (all i proc present) data session)

/-- A tick keeps what holds of the procedures in the slots. -/
theorem runnerTickAll (kept : Kept holds) (all : InSlots holds runner) (delta : Int) :
    InSlots holds (runner.tickAll delta).1 := by
  have ticked : ∀ (slots : List Nat) (ticked : ProcedureRunner × Nat × List Bool),
      InSlots holds ticked.1 → InSlots holds (slots.foldl (tickSlot delta) ticked).1 := by
    intro slots
    induction slots with
    | nil => exact fun _ all => all
    | cons i slots ih =>
        intro ticked all
        refine ih _ ?_
        rw [tickSlot]
        dsimp only
        split
        case h_2 => exact all
        case h_1 proc present =>
          dsimp only
          rw [cleanup_setSlot (List.getElem?_eq_some_iff.mp present).1]
          exact all.settle (List.getElem?_eq_some_iff.mp present).1
            (kept.tick (all i proc present) delta)
  exact ticked _ _ all

/-- A kept property holds of every procedure in every state a runner reaches. -/
theorem inSlots_of_run (kept : Kept holds) {events : List (Op × Reply)}
    (run : machine.Run (fun _ _ _ => True) {} events runner) : InSlots holds runner := by
  refine run.invariant (fun _ state => InSlots holds state) (.empty holds) ?_
  rintro past source target ⟨op, reply⟩ all stepped -
  have call := Foundation.Machine.ofCalls_step.mp stepped
  cases op with
  | feed msg session =>
      obtain ⟨rfl, -⟩ := Prod.mk.inj (Option.some.inj call)
      exact kept.runnerFeed all msg session
  | feedExternalTyped type session data =>
      obtain ⟨rfl, -⟩ := Prod.mk.inj (Option.some.inj call)
      exact kept.runnerFeedExternalTyped all type session data
  | tickAll delta =>
      obtain ⟨rfl, -⟩ := Prod.mk.inj (Option.some.inj call)
      exact kept.runnerTickAll all delta
  | cancelAll =>
      obtain ⟨rfl, -⟩ := Prod.mk.inj (Option.some.inj call)
      exact .empty holds

end Kept

theorem clocked_kept : Kept Clocked where
  created := Clocked.created
  feed := Clocked.feed
  feedExternalTyped := Clocked.feedExternalTyped
  tick := fun clocked delta => (clocked.tick delta).2

theorem aligned_kept : Kept Procedure.Aligned where
  created := by
    intro msg proc made session
    have created : Procedure.Created proc := by
      rcases autoCreate_cases made with ⟨-, -, rfl⟩ | ⟨-, rfl⟩ | ⟨-, rfl⟩ | ⟨-, rfl⟩ | ⟨-, rfl⟩
      · exact .channelAssignment _
      · exact .locationUpdate
      · exact .imsiDetach
      · exact .callSetupMO
      · exact .callRelease _ _
    exact (Procedure.feed_obeys created.aligned msg session).2
  feed := fun aligned msg session => (Procedure.feed_obeys aligned msg session).2
  feedExternalTyped := fun aligned data session =>
    (Procedure.feedExternalTyped_obeys aligned data session).2
  tick := fun aligned delta => (Procedure.tick_obeys aligned delta).2

/-! ## Ticks -/

/-- The procedure of a slot behind a tick. -/
def tickedSlot (delta : Int) (slot : Option Procedure) : Option Procedure :=
  slot.bind fun proc => settled (proc.tick delta).1

/-- A tick of one slot changes that slot only. -/
theorem tickSlot_slots (delta : Int) (failed : Nat) (notified : List Bool) (i j : Nat) :
    (tickSlot delta (runner, failed, notified) i).1.slots[j]? =
      if j = i then runner.slots[j]?.map (tickedSlot delta) else runner.slots[j]? := by
  unfold tickSlot
  dsimp only
  split
  case h_1 proc present =>
    rw [cleanup_setSlot (List.getElem?_eq_some_iff.mp present).1,
      setSlot_getElem? (List.getElem?_eq_some_iff.mp present).1]
    split
    case isTrue same =>
      rw [same, present]
      rfl
    case isFalse => rfl
  case h_2 vacant =>
    split
    case isTrue same =>
      rw [same]
      cases slot : runner.slots[i]? with
      | none => rfl
      | some content =>
          cases content with
          | none => rfl
          | some proc => exact absurd slot (vacant proc)
    case isFalse => rfl

/-- Every slot is ticked once. -/
theorem tickAll_slots (runner : ProcedureRunner) (delta : Int) (i : Nat) :
    (runner.tickAll delta).1.slots[i]? = runner.slots[i]?.map (tickedSlot delta) := by
  have ticked : ∀ count : Nat, ((List.range count).foldl (tickSlot delta)
      (runner, 0, [])).1.slots[i]? =
      if i < count then runner.slots[i]?.map (tickedSlot delta) else runner.slots[i]? := by
    intro count
    induction count with
    | zero => rfl
    | succ count ih =>
        rw [List.range_succ, List.foldl_append, List.foldl_cons, List.foldl_nil, tickSlot_slots, ih]
        rcases Nat.lt_trichotomy i count with before | rfl | after
        · rw [if_neg before.ne, if_pos before, if_pos (by omega)]
        · rw [if_pos rfl, if_neg (Nat.lt_irrefl i), if_pos (Nat.lt_succ_self i)]
        · rw [if_neg after.ne', if_neg (by omega), if_neg (by omega)]
  rw [tickAll, ticked]
  split
  case isTrue => rfl
  case isFalse outside =>
    have none : runner.slots[i]? = none := by
      rw [List.getElem?_eq_none_iff, runner.slots_length]
      omega
    rw [none]
    rfl

/-- The runner behind a sequence of ticks. -/
def tickRun (runner : ProcedureRunner) (deltas : List Int) : ProcedureRunner :=
  deltas.foldl (fun ticked delta => (ticked.tickAll delta).1) runner

/-- Ticks change the slots one by one. -/
theorem tickRun_slots (runner : ProcedureRunner) (deltas : List Int) (i : Nat) :
    (runner.tickRun deltas).slots[i]? =
      runner.slots[i]?.map fun slot => deltas.foldl (fun slot delta => tickedSlot delta slot) slot := by
  unfold tickRun
  induction deltas generalizing runner with
  | nil => simp
  | cons delta deltas ih =>
      rw [List.foldl_cons, ih, tickAll_slots]
      cases runner.slots[i]? <;> rfl

theorem foldl_tickedSlot_none (deltas : List Int) :
    deltas.foldl (fun slot delta => tickedSlot delta slot) none = none := by
  induction deltas with
  | nil => rfl
  | cons delta deltas ih => exact ih

/-- Without a timer a procedure stays. -/
theorem foldl_tickedSlot_stopped (clocked : Clocked proc) (live : proc.state.isTerminal = false)
    (stopped : proc.timerRunning = false) (deltas : List Int) :
    deltas.foldl (fun slot delta => tickedSlot delta slot) (some proc) = some proc := by
  induction deltas with
  | nil => rfl
  | cons delta deltas ih =>
      have same : tickedSlot delta (some proc) = some proc := by
        have ticked := (clocked.tick delta).1
        change settled (proc.tick delta).1 = some proc
        generalize (proc.tick delta).1 = next at ticked
        cases ticked with
        | stopped => rw [settled, live]; rfl
        | expired next running => rw [stopped] at running; cases running
        | left next running => rw [stopped] at running; cases running
      rw [List.foldl_cons, same, ih]

/-- With a timer a procedure is gone when its time has passed, however it is cut
into ticks. -/
theorem foldl_tickedSlot_running (clocked : Clocked proc) (live : proc.state.isTerminal = false)
    (running : proc.timerRunning = true) {deltas : List Int}
    (passed : max 1 proc.timerRemaining ≤ deltas.sum) :
    deltas.foldl (fun slot delta => tickedSlot delta slot) (some proc) = none := by
  induction deltas generalizing proc with
  | nil =>
      have positive := le_trans (le_max_left 1 proc.timerRemaining) passed
      simp at positive
  | cons delta deltas ih =>
      obtain ⟨ticked, kept⟩ := clocked.tick delta
      rw [List.foldl_cons]
      change deltas.foldl _ (settled (proc.tick delta).1) = none
      generalize (proc.tick delta).1 = next at ticked kept
      cases ticked with
      | stopped stopped => rw [running] at stopped; cases stopped
      | expired next started expired failed =>
          rw [settled, failed]
          exact foldl_tickedSlot_none deltas
      | left next started left state timer remaining =>
          have going : next.state.isTerminal = false := by rw [state, live]
          rw [settled, going]
          refine ih kept going timer ?_
          rw [List.sum_cons] at passed
          rw [remaining]
          omega

/-! ## Progress -/

/-- A live procedure rests without a timer in the unsupervised states only. -/
theorem Clocked.stopped_iff (clocked : Clocked proc) (aligned : proc.Aligned)
    (live : proc.state.isTerminal = false) : proc.timerRunning = false ↔ proc.Unsupervised := by
  cases proc with
  | authentication | cipheringMode | callSetupMT | handover | paging => exact clocked.elim
  | channelAssignment own =>
      have going := aligned.going live
      change ChannelAssignment.clock _ _ at clocked
      change own.base.timerRunning = false ↔ own.base.currentState = .allocateChannel
      cases state : own.base.currentState <;> rw [state] at clocked going
      case init => exact clocked.elim
      case allocateChannel => exact iff_of_true clocked rfl
      case sendImmediateAssignment | waitSeizure =>
        exact iff_of_false (by rw [clocked]; decide) nofun
      case completed | failed => cases going
  | locationUpdate own =>
      have going := aligned.going live
      change LocationUpdate.clock _ _ at clocked
      change own.base.timerRunning = false ↔
        own.base.currentState = .identityCheck ∨ own.base.currentState = .requestIdentity ∨
          own.base.currentState = .authCheck ∨
          own.base.currentState = .luRequest ∧ own.base.timerRunning = false
      cases state : own.base.currentState <;> rw [state] at clocked going
      case init | verifyAuth | sendAccept => exact clocked.elim
      case identityCheck => exact iff_of_true clocked (.inl rfl)
      case requestIdentity => exact iff_of_true clocked (.inr (.inl rfl))
      case authCheck => exact iff_of_true clocked (.inr (.inr (.inl rfl)))
      case luRequest => simp
      case sendAuth | waitAuth | sendReject | waitingExternal =>
        exact iff_of_false (by rw [clocked]; decide) (by simp)
      case completed | failed => cases going
  | imsiDetach own =>
      have going := aligned.going live
      change IMSIDetach.clock _ _ at clocked
      change own.base.timerRunning = false ↔ False
      cases state : own.base.currentState <;> rw [state] at clocked going
      case init | sendCMServiceAccept => exact clocked.elim
      case waitDetachComplete => exact iff_of_false (by rw [clocked]; decide) id
      case completed | failed => cases going
  | callSetupMO own =>
      have going := aligned.going live
      change CallSetupMO.clock _ _ at clocked
      change own.base.timerRunning = false ↔ False
      cases state : own.base.currentState <;> rw [state] at clocked going
      case init | serviceAccept | waitSetup => exact clocked.elim
      case completed | failed => cases going
      all_goals exact iff_of_false (by rw [clocked]; decide) id
  | callRelease own =>
      have going := aligned.going live
      change CallRelease.clock _ _ at clocked
      change own.base.timerRunning = false ↔ False
      cases state : own.base.currentState <;> rw [state] at clocked going
      case init | sendDisconnect | sendReleaseComplete => exact clocked.elim
      case waitRelease => exact iff_of_false (by rw [clocked]; decide) id
      case completed | failed => cases going

/-- Enough time for every timer that runs in the slots. -/
theorem exists_time (slots : List (Option Procedure)) :
    ∃ time : Int, ∀ proc, some proc ∈ slots → max 1 proc.timerRemaining ≤ time := by
  induction slots with
  | nil => exact ⟨0, fun proc member => absurd member List.not_mem_nil⟩
  | cons slot slots ih =>
      obtain ⟨time, enough⟩ := ih
      cases slot with
      | none =>
          refine ⟨time, fun proc member => enough proc ?_⟩
          rcases List.mem_cons.mp member with absurd_ | later
          · cases absurd_
          · exact later
      | some first =>
          refine ⟨max (max 1 first.timerRemaining) time, fun proc member => ?_⟩
          rcases List.mem_cons.mp member with same | later
          · obtain rfl := Option.some.inj same
            exact le_max_left _ _
          · exact (enough proc later).trans (le_max_right _ _)

/-- Ticks of enough time empty every slot. -/
def Drains (runner : ProcedureRunner) : Prop :=
  ∃ time : Int, ∀ deltas : List Int, time ≤ deltas.sum →
    ∀ (i : Nat) (proc : Procedure), (runner.tickRun deltas).slots[i]? ≠ some (some proc)

/-- A procedure without a timer occupies its slot for ever. -/
theorem not_drains (present : runner.slots[i]? = some (some proc)) (clocked : Clocked proc)
    (live : proc.state.isTerminal = false) (stopped : proc.timerRunning = false) :
    ¬ runner.Drains := by
  rintro ⟨time, empties⟩
  refine empties [time] (by simp) i proc ?_
  rw [tickRun_slots, present, Option.map_some, foldl_tickedSlot_stopped clocked live stopped]

/-- **Progress by time.**  In every state a runner reaches, ticks alone empty its
slots exactly when no slot holds a procedure in an unsupervised state. -/
theorem drains_iff {events : List (Op × Reply)}
    (run : machine.Run (fun _ _ _ => True) {} events runner) :
    runner.Drains ↔ InSlots (fun proc => ¬ proc.Unsupervised) runner := by
  have clocked := clocked_kept.inSlots_of_run run
  have aligned := aligned_kept.inSlots_of_run run
  have live := (disciplined_of_run run).live
  constructor
  · intro drains i proc present unsupervised
    have stopped := ((clocked i proc present).stopped_iff (aligned i proc present)
      (live i proc present)).mpr unsupervised
    exact not_drains present (clocked i proc present) (live i proc present) stopped drains
  · intro supervised
    obtain ⟨time, enough⟩ := exists_time runner.slots
    refine ⟨time, fun deltas passed i proc remains => ?_⟩
    rw [tickRun_slots] at remains
    obtain ⟨slot, present, kept⟩ := Option.map_eq_some_iff.mp remains
    cases slot with
    | none =>
        rw [foldl_tickedSlot_none] at kept
        cases kept
    | some first =>
        have running : first.timerRunning = true := by
          by_contra stopped
          exact supervised i first present
            (((clocked i first present).stopped_iff (aligned i first present)
              (live i first present)).mp (Bool.eq_false_iff.mpr stopped))
        rw [foldl_tickedSlot_running (clocked i first present) (live i first present) running
          ((enough first (List.mem_of_getElem? present)).trans passed)] at kept
        cases kept

/-- A call setup behind its first response leaves its slot in time. -/
theorem drains_iff_setup :
    ∃ runner, machine.exec (fun _ _ _ => True) {}
        [(.feed (.setup 3) none, { result := .respond .callProceeding, notified := [true] })] =
          some runner ∧
      runner.activeCount = 1 ∧ runner.Drains := by
  obtain ⟨runner, executed⟩ := Option.isSome_iff_exists.mp (show (machine.exec
    (fun _ _ _ => True) {} [(.feed (.setup 3) none,
      { result := .respond .callProceeding, notified := [true] })]).isSome by decide)
  have slots : ∀ runner ∈ machine.exec (fun _ _ _ => True) {}
      [(.feed (.setup 3) none, { result := .respond .callProceeding, notified := [true] })],
      runner.activeCount = 1 ∧ runner.slots[0]? = some (some (.callSetupMO
        { base := ⟨.proceeding, .inProgress, 3000, .T3101, true⟩, ti := 3 })) ∧
      ∀ slot ∈ runner.slots.drop 1, slot = none := by
    decide
  obtain ⟨count, first, others⟩ := slots runner executed
  refine ⟨runner, executed, count, (drains_iff (.exec _ .origin executed)).mpr ?_⟩
  intro i proc held
  cases i with
  | zero =>
      rw [first] at held
      obtain rfl := Option.some.inj (Option.some.inj held)
      exact id
  | succ i =>
      have vacant := others (some proc) (List.mem_of_getElem? (i := i) (by
        rw [List.getElem?_drop, Nat.add_comm]
        exact held))
      cases vacant

/-- One Channel Request occupies a slot that no time empties. -/
theorem channelRequest_occupies :
    ∃ runner, machine.exec (fun _ _ _ => True) {}
        [(.feed (.channelRequest 7) none, { notified := [true] })] = some runner ∧
      runner.activeCount = 1 ∧ ¬ runner.Drains := by
  obtain ⟨runner, executed⟩ := Option.isSome_iff_exists.mp (show (machine.exec
    (fun _ _ _ => True) {} [(.feed (.channelRequest 7) none, { notified := [true] })]).isSome
      by decide)
  have slots : ∀ runner ∈ machine.exec (fun _ _ _ => True) {}
      [(.feed (.channelRequest 7) none, { notified := [true] })],
      runner.activeCount = 1 ∧ runner.slots[0]? = some (some (.channelAssignment
        { base := ⟨.allocateChannel, .inProgress, 0, .unknown, false⟩
          targetType := .sdcchType })) := by
    decide
  obtain ⟨count, first⟩ := slots runner executed
  exact ⟨runner, executed, count, not_drains first rfl rfl rfl⟩

end ProcedureRunner

end Stack

end Gsml3
