import Gsml3.Stack.Observers
import Gsml3.Foundation.Machine

/-!
# Calls on a procedure runner

A runner is fed messages and external data, ticked and cancelled.  It creates
procedures by itself, at most one of a type, and frees the slot of a procedure with
the call that ends it.
-/

namespace Gsml3

namespace Stack

namespace ProcedureRunner

/-! ## Runs -/

/-- A call on a runner. -/
inductive Op where
  | feed (msg : ParsedMessage) (session : Option SessionCore)
  | feedExternalTyped (type : ProcedureType) (session : Option SessionCore) (data : ExternalData)
  | tickAll (delta : Int)
  | cancelAll

/-- What a call returns and what it tells the observer. -/
structure Reply where
  result : ProcedureStepResult := {}
  session : Option SessionCore := none
  failed : Nat := 0
  notified : List Bool := []
deriving DecidableEq

def exec (runner : ProcedureRunner) : Op → Option (ProcedureRunner × Reply)
  | .feed msg session =>
      let ran := runner.feed msg session
      some (ran.runner, ⟨ran.result, ran.session, 0, ran.notified⟩)
  | .feedExternalTyped type session data =>
      let ran := runner.feedExternalTyped type session data
      some (ran.runner, ⟨ran.result, ran.session, 0, ran.notified⟩)
  | .tickAll delta =>
      let ticked := runner.tickAll delta
      some (ticked.1, { failed := ticked.2.1, notified := ticked.2.2 })
  | .cancelAll => some (runner.cancelAll.1, { notified := runner.cancelAll.2 })

/-- The runner as a machine. -/
def machine : Foundation.Machine ProcedureRunner (Op × Reply) :=
  .ofCalls exec

/-- What the observer was told in a run. -/
def notifications (events : List (Op × Reply)) : List Bool :=
  events.flatMap fun event => event.2.notified

/-! ## Slots -/

variable {runner target : ProcedureRunner} {i : Nat} {proc : Procedure}

/-- One slot changes, the others stay. -/
theorem setSlot_getElem? (inside : i < runner.slots.length) (slot : Option Procedure) (j : Nat) :
    (runner.setSlot i slot).slots[j]? = if j = i then some slot else runner.slots[j]? := by
  rw [setSlot]
  split
  case isTrue same => rw [same, List.getElem?_set_self inside]
  case isFalse apart => rw [List.getElem?_set_ne (Ne.symm apart)]

/-- A finished procedure leaves its slot. -/
def settled (proc : Procedure) : Option Procedure :=
  if proc.state.isTerminal then none else some proc

/-- A terminal procedure leaves its slot empty. -/
theorem cleanup_setSlot (inside : i < runner.slots.length) (proc : Procedure) :
    ((runner.setSlot i (some proc)).cleanupSlotIfTerminal i).1 =
      runner.setSlot i (settled proc) := by
  have present := setSlot_slots inside (some proc)
  rw [cleanupSlotIfTerminal, present]
  simp only
  rw [settled]
  split
  · simp only [setSlot, List.set_set]
  · rfl

/-- A procedure goes back to its slot, or leaves it when terminal. -/
theorem store_runner (inside : i < runner.slots.length) (fed : Fed Procedure) :
    (runner.store i fed).runner = runner.setSlot i (settled fed.proc) :=
  cleanup_setSlot inside fed.proc

/-- A missed search passed every procedure. -/
theorem findActive_none {p : Procedure → Bool} (missed : runner.findActive p = none)
    (present : runner.slots[i]? = some (some proc)) : p proc = false := by
  have member : (some proc, i) ∈ runner.slots.zipIdx := List.mem_zipIdx_iff_getElem?.mpr present
  have skipped := List.findSome?_eq_none_iff.mp missed _ member
  by_contra accepted
  rw [Bool.not_eq_false] at accepted
  rw [Option.map_eq_none_iff, Option.filter_some, if_pos accepted] at skipped
  cases skipped

/-- A procedure goes to an empty slot. -/
theorem insertSlot_some {notified : List Bool}
    (run : runner.insertSlot proc = some (target, i, notified)) :
    runner.slots[i]? = some none ∧ target = runner.setSlot i (some proc) := by
  obtain ⟨j, found, pair⟩ := Option.map_eq_some_iff.mp run
  obtain ⟨rfl, rest⟩ := Prod.mk.inj pair
  obtain ⟨rfl, -⟩ := Prod.mk.inj rest
  obtain ⟨inside, free, -⟩ := List.findIdx?_eq_some_iff_getElem.mp found
  exact ⟨List.getElem?_eq_some_iff.mpr ⟨inside, Option.isNone_iff_eq_none.mp free⟩, rfl⟩

/-! ## One call on a procedure -/

/-- A message does not change the kind of a procedure. -/
theorem type_feed (proc : Procedure) (msg : ParsedMessage) (session : Option SessionCore) :
    (proc.feed msg session).proc.type = proc.type := by
  cases proc <;> rfl

/-- Data does not change the kind of a procedure. -/
theorem type_feedExternalTyped (proc : Procedure) (data : ExternalData)
    (session : Option SessionCore) : (proc.feedExternalTyped data session).proc.type = proc.type := by
  cases proc <;> rfl

/-- Time does not change the kind of a procedure. -/
theorem type_tick (proc : Procedure) (delta : Int) : (proc.tick delta).1.type = proc.type := by
  cases proc <;> rfl

/-- The state that a message moves a mobile originated setup to. -/
def setupNext (state : CallSetupMOState) (msg : ParsedMessage) : CallSetupMOState :=
  match state with
  | .init =>
      if msg.Is .mobilityManagement MTI.cmServiceRequest then .serviceAccept
      else if msg.Is .callControl MTI.setup then .proceeding
      else .init
  | .serviceAccept => .waitSetup
  | .waitSetup => if msg.Is .callControl MTI.setup then .proceeding else .waitSetup
  | .proceeding => .assignTCH
  | .assignTCH => .waitAssignComplete
  | .waitAssignComplete =>
      if msg.Is .radioResource MTI.assignmentComplete then .alerting else .waitAssignComplete
  | .alerting => .connect
  | .connect => .active
  | .active => if msg.Is .callControl MTI.connectAcknowledge then .completed else .active
  | .completed => .completed
  | .failed => .failed

theorem proceed_state (own : CallSetupMO) (msg : ParsedMessage) (session : Option SessionCore) :
    (own.proceed msg session).proc.base.currentState = .proceeding := by
  rw [CallSetupMO.proceed]
  split <;> rfl

/-- The state of a call setup behind a message. -/
theorem setupMO_feed_state (own : CallSetupMO) (msg : ParsedMessage)
    (session : Option SessionCore) :
    (own.feed msg session).proc.base.currentState = setupNext own.base.currentState msg := by
  rw [CallSetupMO.feed]
  cases state : own.base.currentState with
  | init =>
      simp only [setupNext]
      split
      · rfl
      · split
        · exact proceed_state own msg session
        · exact state
  | waitSetup =>
      simp only [setupNext]
      split
      · exact proceed_state own msg session
      · exact state
  | waitAssignComplete =>
      simp only [setupNext]
      split
      · rfl
      · exact state
  | active =>
      simp only [setupNext]
      split
      · rfl
      · exact state
  | serviceAccept | proceeding | assignTCH | alerting | connect => rfl
  | completed | failed => exact state

/-- The state that a message moves a release to. -/
def releaseNext (state : CallReleaseState) (msg : ParsedMessage) : CallReleaseState :=
  match state with
  | .init => if messagePD msg = .callControl then .waitRelease else .init
  | .sendDisconnect => .waitRelease
  | .waitRelease => if msg.Is .callControl MTI.release then .completed else .waitRelease
  | .sendReleaseComplete => .completed
  | .completed => .completed
  | .failed => .failed

/-- The state of a call release behind a message; its transaction stays. -/
theorem release_feed_state (own : CallRelease) (msg : ParsedMessage)
    (session : Option SessionCore) :
    (own.feed msg session).proc.base.currentState = releaseNext own.base.currentState msg ∧
      (own.feed msg session).proc.ti = own.ti := by
  change (own.feedState msg).1.base.currentState = _ ∧ (own.feedState msg).1.ti = _
  rw [CallRelease.feedState]
  cases state : own.base.currentState with
  | init | waitRelease =>
      simp only [releaseNext]
      split
      · exact ⟨rfl, rfl⟩
      · exact ⟨state, rfl⟩
  | sendDisconnect | sendReleaseComplete => exact ⟨rfl, rfl⟩
  | completed | failed => exact ⟨state, rfl⟩

/-- An automatically created procedure behind its first message. -/
def AutoCreated : Procedure → Prop
  | .channelAssignment _ | .locationUpdate _ | .imsiDetach _ => True
  | .callSetupMO own => own.base.currentState ∉
      [CallSetupMOState.init, .serviceAccept, .waitSetup]
  | .callRelease own => own.ti = 0 ∧ own.base.currentState ∉
      [CallReleaseState.init, .sendDisconnect, .sendReleaseComplete]
  | _ => False

/-- The types that a runner creates. -/
def createdTypes : Finset ProcedureType :=
  {.channelAssignment, .locationUpdate, .imsiDetach, .callSetupMO, .callRelease}

/-- The kinds that messages create. -/
theorem AutoCreated.type_mem (created : AutoCreated proc) : proc.type ∈ createdTypes := by
  cases proc with
  | channelAssignment own => exact (by decide : ProcedureType.channelAssignment ∈ createdTypes)
  | locationUpdate own => exact (by decide : ProcedureType.locationUpdate ∈ createdTypes)
  | imsiDetach own => exact (by decide : ProcedureType.imsiDetach ∈ createdTypes)
  | callSetupMO own => exact (by decide : ProcedureType.callSetupMO ∈ createdTypes)
  | callRelease own => exact (by decide : ProcedureType.callRelease ∈ createdTypes)
  | authentication | cipheringMode | callSetupMT | handover | paging => exact created.elim

/-- A message keeps a procedure among those that messages create. -/
theorem AutoCreated.feed (created : AutoCreated proc) (msg : ParsedMessage)
    (session : Option SessionCore) : AutoCreated (proc.feed msg session).proc := by
  cases proc with
  | channelAssignment | locationUpdate | imsiDetach => trivial
  | authentication | cipheringMode | callSetupMT | handover | paging => exact created.elim
  | callSetupMO own =>
      change (own.feed msg session).proc.base.currentState ∉ _
      rw [AutoCreated] at created
      rw [setupMO_feed_state]
      cases state : own.base.currentState with
      | init | serviceAccept | waitSetup => exact absurd (by rw [state]; decide) created
      | waitAssignComplete | active =>
          rw [setupNext]
          split <;> decide
      | proceeding | assignTCH | alerting | connect | completed | failed =>
          rw [setupNext]
          decide
  | callRelease own =>
      obtain ⟨next, ti⟩ := release_feed_state own msg session
      change (own.feed msg session).proc.ti = 0 ∧ (own.feed msg session).proc.base.currentState ∉ _
      rw [AutoCreated] at created
      rw [next, ti]
      refine ⟨created.1, ?_⟩
      cases state : own.base.currentState with
      | init | sendDisconnect | sendReleaseComplete =>
          exact absurd (by rw [state]; decide) created.2
      | waitRelease =>
          rw [releaseNext]
          split <;> decide
      | completed | failed =>
          rw [releaseNext]
          decide

/-- Data keeps a procedure among those that messages create. -/
theorem AutoCreated.feedExternalTyped (created : AutoCreated proc) (data : ExternalData)
    (session : Option SessionCore) : AutoCreated (proc.feedExternalTyped data session).proc := by
  cases proc with
  | channelAssignment | locationUpdate | imsiDetach => trivial
  | authentication | cipheringMode | callSetupMT | handover | paging => exact created.elim
  | callSetupMO | callRelease => exact created

/-- Time keeps a procedure among those that messages create. -/
theorem AutoCreated.tick (created : AutoCreated proc) (delta : Int) :
    AutoCreated (proc.tick delta).1 := by
  cases proc with
  | channelAssignment | locationUpdate | imsiDetach => trivial
  | authentication | cipheringMode | callSetupMT | handover | paging => exact created.elim
  | callSetupMO own =>
      change (own.base.doTick CallSetupMO.type delta).1.currentState ∉ _
      rcases doTick_state own.base CallSetupMO.type delta with same | failed
      · rw [same]
        exact created
      · rw [failed]
        decide
  | callRelease own =>
      refine ⟨created.1, ?_⟩
      change (own.base.doTick CallRelease.type delta).1.currentState ∉ _
      rcases doTick_state own.base CallRelease.type delta with same | failed
      · rw [same]
        exact created.2
      · rw [failed]
        decide

/-- What a message creates, and the procedures that would have taken it. -/
theorem autoCreated_cases {msg : ParsedMessage} (made : autoCreateProcedure msg = some proc)
    (session : Option SessionCore) :
    AutoCreated (proc.feed msg session).proc ∧
      (proc.type = pdToProcedureType (messagePD msg) ∨
        ∀ other : Procedure, other.type = proc.type → other.accepts msg = true) := by
  rw [autoCreateProcedure] at made
  cases pd : messagePD msg with
  | radioResource =>
      rw [pd] at made
      simp only at made
      split at made
      case isTrue =>
        obtain rfl := Option.some.inj made
        exact ⟨trivial, .inl rfl⟩
      case isFalse => cases made
  | mobilityManagement =>
      rw [pd] at made
      simp only at made
      split at made
      case isTrue =>
        obtain rfl := Option.some.inj made
        exact ⟨trivial, .inl rfl⟩
      case isFalse =>
        split at made
        case isTrue =>
          obtain rfl := Option.some.inj made
          refine ⟨trivial, .inr fun other same => ?_⟩
          cases other with
          | imsiDetach => exact decide_eq_true pd
          | _ => cases same
        case isFalse => cases made
  | callControl =>
      rw [pd] at made
      simp only at made
      split at made
      case isTrue setup =>
        obtain rfl := Option.some.inj made
        refine ⟨?_, .inl rfl⟩
        change (CallSetupMO.feed {} msg session).proc.base.currentState ∉ _
        rw [setupMO_feed_state]
        change setupNext .init msg ∉ _
        have other_pd : ¬ msg.Is .mobilityManagement MTI.cmServiceRequest := by
          rintro ⟨other, -⟩
          rw [pd] at other
          cases other
        rw [setupNext, if_neg other_pd, if_pos ⟨pd, setup⟩]
        decide
      case isFalse =>
        split at made
        case isTrue disconnect =>
          obtain rfl := Option.some.inj made
          refine ⟨?_, .inr fun other same => ?_⟩
          · obtain ⟨next, ti⟩ := release_feed_state { ti := 0, cause := .normalCallClearing } msg
              session
            refine ⟨ti, ?_⟩
            rw [next]
            change releaseNext .init msg ∉ _
            rw [releaseNext, if_pos pd]
            decide
          · cases other with
            | callRelease => exact decide_eq_true (.inl ⟨pd, disconnect⟩)
            | _ => cases same
        case isFalse => cases made
  | groupCallControl | broadcastCallControl | gprsMobilityManagement | sms | gprsSessionManagement
  | nonCallSS | location | packetDomainSupplementaryServices1
  | packetDomainSupplementaryServices2 | testProcedure | undefined =>
      rw [pd] at made
      cases made

/-! ## Slot discipline -/

/-- No slot holds a finished procedure, no two slots hold procedures of one type, and
all procedures were created by the runner. -/
structure Disciplined (runner : ProcedureRunner) : Prop where
  live : ∀ (i : Nat) (proc : Procedure), runner.slots[i]? = some (some proc) → proc.state.isTerminal = false
  unique : ∀ (i j : Nat) (first second : Procedure), runner.slots[i]? = some (some first) →
    runner.slots[j]? = some (some second) → first.type = second.type → i = j
  created : ∀ (i : Nat) (proc : Procedure), runner.slots[i]? = some (some proc) → AutoCreated proc

theorem disciplined_empty : Disciplined {} := by
  have vacant : ∀ (i : Nat) (proc : Procedure),
      ({} : ProcedureRunner).slots[i]? ≠ some (some proc) := by
    intro i proc held
    obtain ⟨inside, held⟩ := List.getElem?_eq_some_iff.mp held
    rw [List.getElem_replicate] at held
    cases held
  exact ⟨fun i proc held => absurd held (vacant i proc),
    fun i j first second held => absurd held (vacant i first),
    fun i proc held => absurd held (vacant i proc)⟩

namespace Disciplined

/-- A slot is emptied or gets a procedure of a type that no other slot holds. -/
theorem set (disciplined : runner.Disciplined) (inside : i < runner.slots.length)
    {slot : Option Procedure}
    (own : ∀ proc : Procedure, slot = some proc → proc.state.isTerminal = false ∧ AutoCreated proc ∧
      ∀ (j : Nat) (other : Procedure), j ≠ i → runner.slots[j]? = some (some other) → other.type ≠ proc.type) :
    (runner.setSlot i slot).Disciplined := by
  have held : ∀ (j : Nat) (proc : Procedure), (runner.setSlot i slot).slots[j]? = some (some proc) →
      (j = i ∧ slot = some proc) ∨ (j ≠ i ∧ runner.slots[j]? = some (some proc)) := by
    intro j proc held
    rw [setSlot_getElem? inside] at held
    split at held
    case isTrue same => exact .inl ⟨same, Option.some.inj held⟩
    case isFalse apart => exact .inr ⟨apart, held⟩
  refine ⟨fun j proc present => ?_, fun j k first second present present' same => ?_,
    fun j proc present => ?_⟩
  · rcases held j proc present with ⟨-, new⟩ | ⟨-, old⟩
    · exact (own proc new).1
    · exact disciplined.live j proc old
  · rcases held j first present with ⟨rfl, new⟩ | ⟨apart, old⟩
    · rcases held k second present' with ⟨rfl, -⟩ | ⟨apart', old'⟩
      · rfl
      · exact absurd same.symm ((own first new).2.2 k second apart' old')
    · rcases held k second present' with ⟨rfl, new'⟩ | ⟨-, old'⟩
      · exact absurd same ((own second new').2.2 j first apart old)
      · exact disciplined.unique j k first second old old' same
  · rcases held j proc present with ⟨-, new⟩ | ⟨-, old⟩
    · exact (own proc new).2.1
    · exact disciplined.created j proc old

/-- The procedure in a slot moves on. -/
theorem settle (disciplined : runner.Disciplined)
    (present : runner.slots[i]? = some (some proc)) {next : Procedure}
    (same : next.type = proc.type) (created : AutoCreated next) :
    (runner.setSlot i (settled next)).Disciplined := by
  refine disciplined.set (List.getElem?_eq_some_iff.mp present).1 fun kept held => ?_
  rw [settled] at held
  split at held
  case isTrue => cases held
  case isFalse live =>
    obtain rfl := Option.some.inj held
    refine ⟨Bool.eq_false_iff.mpr live, created, fun j other apart held' same_type => ?_⟩
    exact apart (disciplined.unique j i other proc held' present (same_type.trans same))

/-- A message creates a procedure only if none of its type is active. -/
theorem create (disciplined : runner.Disciplined) {msg : ParsedMessage}
    (made : autoCreateProcedure msg = some proc)
    (unmatched : runner.findActive (fun proc => proc.accepts msg) = none)
    (unrouted : runner.findActiveSlotByPD (messagePD msg) = none)
    (free : runner.slots[i]? = some none) (session : Option SessionCore) :
    (runner.setSlot i (settled (proc.feed msg session).proc)).Disciplined := by
  obtain ⟨created, type⟩ := autoCreated_cases made session
  refine disciplined.set (List.getElem?_eq_some_iff.mp free).1 fun kept held => ?_
  rw [settled] at held
  split at held
  case isTrue => cases held
  case isFalse live =>
    obtain rfl := Option.some.inj held
    refine ⟨Bool.eq_false_iff.mpr live, created, fun j other apart held' same_type => ?_⟩
    rw [type_feed] at same_type
    rcases type with default | taken
    · have missed := findActive_none unrouted held'
      exact absurd (same_type.trans default) (of_decide_eq_false missed)
    · have missed := findActive_none unmatched held'
      exact absurd ((taken other same_type).symm.trans missed) nofun

/-- A message keeps the slots disciplined. -/
theorem feed (disciplined : runner.Disciplined) (msg : ParsedMessage)
    (session : Option SessionCore) : (runner.feed msg session).runner.Disciplined := by
  have routed : ∀ {i : Nat} {proc : Procedure}, runner.slots[i]? = some (some proc) →
      (runner.store i (proc.feed msg session)).runner.Disciplined := by
    intro i proc present
    rw [store_runner (List.getElem?_eq_some_iff.mp present).1]
    exact disciplined.settle present (type_feed proc msg session)
      ((disciplined.created i proc present).feed msg session)
  rw [ProcedureRunner.feed]
  split
  case h_1 i proc found => exact routed (findActive_some found)
  case h_2 unmatched =>
    split
    case h_1 i proc found => exact routed (findActive_some found)
    case h_2 unrouted =>
      split
      case h_2 => exact disciplined
      case h_1 proc inserted i started inserts =>
        obtain ⟨proc', made, insertion⟩ := Option.bind_eq_some_iff.mp inserts
        obtain ⟨inserted', run, pair⟩ := Option.map_eq_some_iff.mp insertion
        obtain ⟨rfl, rfl⟩ := Prod.mk.inj pair
        obtain ⟨free, rfl⟩ := insertSlot_some run
        have inside := (List.getElem?_eq_some_iff.mp free).1
        change (ProcedureRunner.store _ i _).runner.Disciplined
        rw [store_runner (by rw [setSlot, List.length_set]; exact inside)]
        have created := disciplined.create made unmatched unrouted free
          (session.map fun s => s.expose fun _ => {})
        simpa only [setSlot, List.set_set] using created

/-- Data keeps the slots disciplined. -/
theorem feedExternalTyped (disciplined : runner.Disciplined) (type : ProcedureType)
    (session : Option SessionCore) (data : ExternalData) :
    (runner.feedExternalTyped type session data).runner.Disciplined := by
  rw [ProcedureRunner.feedExternalTyped]
  split
  case h_2 => exact disciplined
  case h_1 i proc found =>
    have present := findActive_some found
    rw [store_runner (List.getElem?_eq_some_iff.mp present).1]
    exact disciplined.settle present (type_feedExternalTyped proc data session)
      ((disciplined.created i proc present).feedExternalTyped data session)

/-- A tick of one slot keeps the slots disciplined. -/
theorem tickSlot (disciplined : runner.Disciplined) (delta : Int) (failed : Nat)
    (notified : List Bool) (i : Nat) :
    (ProcedureRunner.tickSlot delta (runner, failed, notified) i).1.Disciplined := by
  rw [ProcedureRunner.tickSlot]
  simp only
  split
  case h_2 => exact disciplined
  case h_1 proc present =>
    simp only
    rw [cleanup_setSlot (List.getElem?_eq_some_iff.mp present).1]
    exact disciplined.settle present (type_tick proc delta)
      ((disciplined.created i proc present).tick delta)

/-- A tick keeps the slots disciplined. -/
theorem tickAll (disciplined : runner.Disciplined) (delta : Int) :
    (runner.tickAll delta).1.Disciplined := by
  have ticked : ∀ (slots : List Nat) (ticked : ProcedureRunner × Nat × List Bool),
      ticked.1.Disciplined → (slots.foldl (ProcedureRunner.tickSlot delta) ticked).1.Disciplined := by
    intro slots
    induction slots with
    | nil => exact fun _ kept => kept
    | cons i slots ih => exact fun ticked kept => ih _ (kept.tickSlot delta ticked.2.1 ticked.2.2 i)
  exact ticked _ _ disciplined

/-- A call keeps the slots in order. -/
theorem exec (disciplined : runner.Disciplined) {op : Op} {reply : Reply}
    (run : ProcedureRunner.exec runner op = some (target, reply)) : target.Disciplined := by
  cases op with
  | feed msg session =>
      obtain ⟨rfl, -⟩ := Prod.mk.inj (Option.some.inj run)
      exact disciplined.feed msg session
  | feedExternalTyped type session data =>
      obtain ⟨rfl, -⟩ := Prod.mk.inj (Option.some.inj run)
      exact disciplined.feedExternalTyped type session data
  | tickAll delta =>
      obtain ⟨rfl, -⟩ := Prod.mk.inj (Option.some.inj run)
      exact disciplined.tickAll delta
  | cancelAll =>
      obtain ⟨rfl, -⟩ := Prod.mk.inj (Option.some.inj run)
      exact disciplined_empty

/-- The types that a runner creates are fewer than its slots. -/
theorem insertSlot (disciplined : runner.Disciplined) (proc : Procedure) :
    (runner.insertSlot proc).isSome := by
  rw [ProcedureRunner.insertSlot, Option.isSome_map]
  by_contra full
  rw [Option.not_isSome_iff_eq_none, List.findIdx?_eq_none_iff] at full
  -- a procedure in each slot
  have held : ∀ i : Fin maxProcedures, ∃ proc, runner.slots[i.val]? = some (some proc) := by
    intro i
    have inside : i.val < runner.slots.length := by
      rw [runner.slots_length]
      exact i.isLt
    have busy := full _ (List.getElem_mem inside)
    rw [Option.isNone_eq_false_iff, Option.isSome_iff_exists] at busy
    obtain ⟨proc, present⟩ := busy
    exact ⟨proc, by rw [List.getElem?_eq_getElem inside, present]⟩
  choose holder present using held
  have few : (Finset.univ : Finset (Fin maxProcedures)).card ≤ createdTypes.card := by
    refine Finset.card_le_card_of_injOn (fun i => (holder i).type) (fun i _ => ?_)
      fun i _ j _ same => ?_
    · exact (disciplined.created i (holder i) (present i)).type_mem
    · exact Fin.ext (disciplined.unique i j _ _ (present i) (present j) same)
  exact absurd few (by decide)

end Disciplined

/-- A call notifies each change between none and some active procedures. -/
theorem exec_tells {op : Op} {reply : Reply} (run : exec runner op = some (target, reply)) :
    Tells runner.activeCount target.activeCount reply.notified := by
  cases op with
  | feed msg session =>
      obtain ⟨rfl, rfl⟩ := Prod.mk.inj (Option.some.inj run)
      exact runner.feed_tells msg session
  | feedExternalTyped type session data =>
      obtain ⟨rfl, rfl⟩ := Prod.mk.inj (Option.some.inj run)
      exact runner.feedExternalTyped_tells type session data
  | tickAll delta =>
      obtain ⟨rfl, rfl⟩ := Prod.mk.inj (Option.some.inj run)
      exact runner.tickAll_tells delta
  | cancelAll =>
      obtain ⟨rfl, rfl⟩ := Prod.mk.inj (Option.some.inj run)
      exact runner.cancelAll_tells

/-- The slots are disciplined in every state of every run. -/
theorem disciplined_of_run {events : List (Op × Reply)}
    (run : machine.Run (fun _ _ _ => True) {} events runner) : runner.Disciplined :=
  run.invariant (fun _ state => state.Disciplined) disciplined_empty
    (fun _ _ _ _ disciplined stepped _ =>
      disciplined.exec (Foundation.Machine.ofCalls_step.mp stepped))

/-- The notifications of a run tell whether procedures are active. -/
theorem tells_of_run {events : List (Op × Reply)}
    (run : machine.Run (fun _ _ _ => True) {} events runner) :
    Tells 0 runner.activeCount (notifications events) := by
  refine run.invariant (fun past state => Tells 0 state.activeCount (notifications past)) ?_ ?_
  · exact .silent (by decide)
  · intro past source target event tells stepped _
    rw [notifications, List.flatMap_append, List.flatMap_singleton]
    exact tells.trans (exec_tells (Foundation.Machine.ofCalls_step.mp stepped))

/-- After every call no slot holds a finished procedure, the procedures are of different
types, another one would find a slot, and the observer knows whether one is active. -/
theorem slots_disciplined {events : List (Op × Reply)}
    (run : machine.Run (fun _ _ _ => True) {} events runner) :
    (∀ (i : Nat) (proc : Procedure), runner.slots[i]? = some (some proc) →
        proc.state.isTerminal = false) ∧
      (∀ (i j : Nat) (first second : Procedure), runner.slots[i]? = some (some first) →
        runner.slots[j]? = some (some second) → first.type = second.type → i = j) ∧
      (∀ proc, (runner.insertSlot proc).isSome) ∧
      (notifications events).getLastD false = decide (0 < runner.activeCount) := by
  have disciplined := disciplined_of_run run
  exact ⟨disciplined.live, disciplined.unique, disciplined.insertSlot, tells_of_run run⟩

/-- A channel assignment and a call setup at work. -/
theorem slots_disciplined_two :
    ∃ runner, machine.exec (fun _ _ _ => True) {}
        [(.feed (.channelRequest 7) none, { notified := [true] }),
          (.feed (.setup 3) none, { result := .respond .callProceeding })] = some runner ∧
      runner.activeCount = 2 ∧
      (∀ proc, (runner.insertSlot proc).isSome) ∧
      ([true] : List Bool).getLastD false = decide (0 < runner.activeCount) := by
  obtain ⟨runner, executed⟩ := Option.isSome_iff_exists.mp (show (machine.exec
    (fun _ _ _ => True) {} [(.feed (.channelRequest 7) none, { notified := [true] }),
      (.feed (.setup 3) none, { result := .respond .callProceeding })]).isSome by decide)
  have count : ∀ runner ∈ machine.exec (fun _ _ _ => True) {}
      [(.feed (.channelRequest 7) none, { notified := [true] }),
        (.feed (.setup 3) none, { result := .respond .callProceeding })],
      runner.activeCount = 2 := by
    decide
  obtain ⟨-, -, room, tells⟩ := slots_disciplined (.exec _ .origin executed)
  exact ⟨runner, executed, count runner executed, room, tells⟩

end ProcedureRunner

end Stack

end Gsml3
