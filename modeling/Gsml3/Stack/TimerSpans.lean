import Gsml3.Stack.Observers
import Gsml3.Stack.TimerTicks

/-!
# Ticks with an output span

A tick with a span reports the expired timers of the lowest slots as far as the span goes.  The
others are started again for a millisecond, so that a later tick reports them, unless a call
stops or restarts them before.
-/

namespace Gsml3

namespace Stack

/-- A call of `start`, `stop` or `stopAll`. -/
inductive TimerAction where
  | start (id : L3TimerId) (expiry : Int)
  | stop (id : L3TimerId)
  | stopAll
deriving DecidableEq

namespace TimerAction

/-- The action is about a slot. -/
def touches (i : Nat) : TimerAction → Bool
  | .start id _ | .stop id => id.code = i
  | .stopAll => true

/-- What an action makes of a slot. -/
def on (i : Nat) (slot : TimerSlot) : TimerAction → TimerSlot
  | .start id expiry =>
      if id.code = i then ⟨(L3Timer.reconfigure id expiry).start, true⟩ else slot
  | .stop id =>
      if id.code = i ∧ slot.initialized then { slot with timer := slot.timer.stop } else slot
  | .stopAll => if slot.initialized then { slot with timer := slot.timer.stop } else slot

/-- An action on another timer leaves the slot. -/
theorem on_of_untouched {i : Nat} {action : TimerAction} (other : action.touches i = false)
    (slot : TimerSlot) : action.on i slot = slot := by
  cases action with
  | start id expiry => exact if_neg (of_decide_eq_false other)
  | stop id => exact if_neg fun both => of_decide_eq_false other both.1
  | stopAll => cases other

theorem on_initialized (i : Nat) {slot : TimerSlot} (configured : slot.initialized = true)
    (action : TimerAction) : (action.on i slot).initialized = true := by
  cases action with
  | start id expiry =>
      rw [on]
      split
      · rfl
      · exact configured
  | stop id =>
      rw [on]
      split <;> exact configured
  | stopAll =>
      rw [on]
      split <;> exact configured

end TimerAction

namespace TimerManager

/-- The timers after an action, with what the observer is told. -/
def act (timers : TimerManager) : TimerAction → TimerManager × List Bool
  | .start id expiry => ((timers.start id expiry).1, (timers.start id expiry).2.2)
  | .stop id => timers.stop id
  | .stopAll => timers.stopAll

section Actions

variable (timers : TimerManager)

theorem set_slot (slots : List TimerSlot) (i j : Nat) (new : TimerSlot) :
    (slots.set j new)[i]? = slots[i]?.map fun slot => if j = i then new else slot := by
  rw [List.getElem?_set']
  cases slots[i]? with
  | none => simp
  | some slot => by_cases same : j = i <;> simp [same]

/-- An action changes the slots one by one. -/
theorem act_slot (action : TimerAction) (i : Nat) :
    (timers.act action).1.slots[i]? = timers.slots[i]?.map (action.on i) := by
  cases action with
  | start id expiry =>
      by_cases inside : id.code < maxTimers
      · rw [act, start_slots inside, set_slot]
        rfl
      · rw [act, start_unknown inside]
        cases held : timers.slots[i]? with
        | none => rfl
        | some slot =>
            have apart : id.code ≠ i := by
              intro same
              have bound := (List.getElem?_eq_some_iff.mp held).1
              rw [timers.slots_length, ← same] at bound
              exact inside bound
            rw [Option.map_some, TimerAction.on, if_neg apart]
  | stop id =>
      rw [act, stop]
      cases held : timers.slots[id.code]? with
      | none =>
          cases other : timers.slots[i]? with
          | none => rfl
          | some slot =>
              have apart : id.code ≠ i := by
                rintro rfl
                cases held.symm.trans other
              simp only [Option.map_some, TimerAction.on, apart, false_and, if_false]
      | some stopped =>
          by_cases configured : stopped.initialized = true
          · simp only [configured, if_true]
            rw [set_slot]
            refine Option.map_congr fun slot member => ?_
            by_cases same : id.code = i
            · rw [same, Option.mem_def.mp member] at held
              obtain rfl := Option.some.inj held
              simp only [same, TimerAction.on, configured, and_self, if_true]
            · simp only [same, TimerAction.on, false_and, if_false]
          · simp only [configured, Bool.false_eq_true, if_false]
            cases other : timers.slots[i]? with
            | none => rfl
            | some slot =>
                have still : ¬ (id.code = i ∧ slot.initialized = true) := by
                  rintro ⟨rfl, initialized⟩
                  obtain rfl := Option.some.inj (held.symm.trans other)
                  exact configured initialized
                rw [Option.map_some, TimerAction.on, if_neg still]
  | stopAll =>
      rw [act, stopAll, List.getElem?_map]
      rfl

/-- Every action keeps the slots configured. -/
theorem Configured.act {timers : TimerManager} (configured : timers.Configured)
    (action : TimerAction) : (timers.act action).1.Configured := by
  cases action with
  | start id expiry => exact configured.start id expiry
  | stop id => exact configured.stop id
  | stopAll => exact configured.stopAll

/-- An action notifies each change between none and some running timers. -/
theorem act_tells (action : TimerAction) :
    Tells timers.runningCount (timers.act action).1.runningCount (timers.act action).2 := by
  cases action with
  | start id expiry => exact timers.start_tells id expiry
  | stop id => exact timers.stop_tells id
  | stopAll => exact timers.stopAll_tells

end Actions

/-! ## Spans -/

section Spans

variable {timers : TimerManager} {delta : Int}

/-- Due timers in the slots before `i`. -/
def dueBefore (delta : Int) (slots : List TimerSlot) (i : Nat) : Nat :=
  (slots.take i).countP (·.due delta)

theorem dueBefore_succ (delta : Int) (slot : TimerSlot) (slots : List TimerSlot) (i : Nat) :
    dueBefore delta (slot :: slots) (i + 1) =
      dueBefore delta slots i + if slot.due delta = true then 1 else 0 := by
  rw [dueBefore, List.take_succ_cons, List.countP_cons]
  rfl

/-- A slot after a tick, whose expiry fits the span or does not. -/
def spanned (delta : Int) (fits : Bool) (slot : TimerSlot) : TimerSlot :=
  if slot.due delta && !fits then .rearmed slot.timer.id else slot.tick delta

/-- The first slot takes its place in the span if it is due. -/
theorem tickSlots_cons (delta : Int) (room : Nat) (slot : TimerSlot) (slots : List TimerSlot) :
    tickSlots delta room (slot :: slots) =
      let rest := tickSlots delta (if slot.due delta = true then room - 1 else room) slots
      (spanned delta (decide (0 < room)) slot :: rest.1,
        if slot.due delta = true ∧ 0 < room then slot.timer.id :: rest.2 else rest.2) := by
  rw [tickSlots, spanned, TimerSlot.tick]
  by_cases active : slot.active = true
  · rw [if_pos active, if_pos active, TimerSlot.tick_timer active]
    by_cases expires : slot.timer.remaining ≤ delta
    · have due : slot.due delta = true := TimerSlot.due_iff.mpr ⟨active, expires⟩
      have configured := ((TimerSlot.active_iff slot).mp active).1
      rcases Nat.eq_zero_or_pos room with rfl | positive
      · simp [expires, due, TimerSlot.rearmed, configured]
      · simp [expires, due, positive]
    · have running : slot.due delta = false :=
        Bool.eq_false_iff.mpr fun due => expires (TimerSlot.due_iff.mp due).2
      simp [expires, running]
  · have idle : slot.due delta = false :=
      Bool.eq_false_iff.mpr fun due => active (TimerSlot.due_iff.mp due).1
    simp [active, idle]

/-- A tick decides on every slot by the due timers before it. -/
theorem tickSlots_slot (delta : Int) (room : Nat) {slots : List TimerSlot} {i : Nat}
    {slot : TimerSlot} (held : slots[i]? = some slot) :
    (tickSlots delta room slots).1[i]? =
      some (spanned delta (decide (dueBefore delta slots i < room)) slot) := by
  induction slots generalizing room i with
  | nil => cases held
  | cons first slots ih =>
      rw [tickSlots_cons]
      cases i with
      | zero =>
          obtain rfl := Option.some.inj held
          rfl
      | succ i =>
          have later := ih (if first.due delta = true then room - 1 else room) held
          rw [dueBefore_succ]
          refine later.trans (congrArg (fun fits => some (spanned delta fits slot)) ?_)
          apply decide_eq_decide.mpr
          split <;> omega

/-- A report is about a running timer. -/
theorem tickSlots_member {delta : Int} {room : Nat} {slots : List TimerSlot} {id : L3TimerId}
    (reported : id ∈ (tickSlots delta room slots).2) :
    ∃ (i : Nat) (slot : TimerSlot), slots[i]? = some slot ∧ slot.active = true ∧
      slot.timer.id = id := by
  induction slots generalizing room with
  | nil => cases reported
  | cons first slots ih =>
      rw [tickSlots_cons] at reported
      simp only at reported
      have later : ∀ {left : Nat}, id ∈ (tickSlots delta left slots).2 →
          ∃ (i : Nat) (slot : TimerSlot), (first :: slots)[i]? = some slot ∧
            slot.active = true ∧ slot.timer.id = id := by
        intro left among
        obtain ⟨i, slot, held, active, same⟩ := ih among
        exact ⟨i + 1, slot, held, active, same⟩
      split at reported
      case isTrue expired =>
        rcases List.mem_cons.mp reported with own | among
        · exact ⟨0, first, rfl, (TimerSlot.due_iff.mp expired.1).1, own.symm⟩
        · exact later among
      case isFalse => exact later reported

theorem reportsOn_own {i : Nat} {id : L3TimerId} (code : id.code = i) (reports : List L3TimerId) :
    reportsOn i (id :: reports) = reportsOn i reports + 1 :=
  List.countP_cons_of_pos (decide_eq_true code)

theorem reportsOn_other {i : Nat} {id : L3TimerId} (code : id.code ≠ i)
    (reports : List L3TimerId) : reportsOn i (id :: reports) = reportsOn i reports :=
  List.countP_cons_of_neg fun same => code (of_decide_eq_true same)

/-- The reports about a slot, in slots counted from `first`. -/
theorem tickSlots_reports {delta : Int} {room first : Nat} {slots : List TimerSlot}
    (own : ∀ (j : Nat) (slot : TimerSlot), slots[j]? = some slot → slot.active = true →
      slot.timer.id.code = first + j) {i : Nat} {slot : TimerSlot} (held : slots[i]? = some slot) :
    reportsOn (first + i) (tickSlots delta room slots).2 =
      (slot.due delta && decide (dueBefore delta slots i < room)).toNat := by
  induction slots generalizing room first i with
  | nil => cases held
  | cons head slots ih =>
      have rest : ∀ (j : Nat) (slot : TimerSlot), slots[j]? = some slot → slot.active = true →
          slot.timer.id.code = first + 1 + j := by
        intro j slot found active
        have code := own (j + 1) slot found active
        omega
      rw [tickSlots_cons]
      simp only
      cases i with
      | zero =>
          generalize (if head.due delta = true then room - 1 else room) = left
          obtain rfl := Option.some.inj held
          have others : reportsOn first (tickSlots delta left slots).2 = 0 := by
            apply List.countP_eq_zero.mpr
            intro id reported same
            obtain ⟨j, slot, found, active, rfl⟩ := tickSlots_member reported
            have code := rest j slot found active
            have here := of_decide_eq_true same
            omega
          have none_before : dueBefore delta (head :: slots) 0 = 0 := rfl
          rw [none_before, Nat.add_zero]
          by_cases expired : head.due delta = true ∧ 0 < room
          · have code : head.timer.id.code = first :=
              own 0 head rfl (TimerSlot.due_iff.mp expired.1).1
            rw [if_pos expired, reportsOn_own code, others, expired.1, decide_eq_true expired.2]
            rfl
          · have fails : (head.due delta && decide (0 < room)) = false := by
              apply Bool.eq_false_iff.mpr
              intro both
              obtain ⟨due, fits⟩ := Bool.and_eq_true_iff.mp both
              exact expired ⟨due, of_decide_eq_true fits⟩
            rw [if_neg expired, others, fails]
            rfl
      | succ i =>
          have later := @ih (if head.due delta = true then room - 1 else room) (first + 1) rest i held
          rw [Nat.add_assoc, Nat.add_comm 1 i] at later
          have same : decide (dueBefore delta slots i <
              if head.due delta = true then room - 1 else room) =
              decide (dueBefore delta (head :: slots) (i + 1) < room) := by
            apply decide_eq_decide.mpr
            rw [dueBefore_succ]
            split <;> omega
          rw [← same, ← later]
          split
          case isTrue expired =>
            have code := own 0 head rfl (TimerSlot.due_iff.mp expired.1).1
            exact reportsOn_other (by omega) _
          case isFalse => rfl

/-- The slot of an index. -/
def slot (timers : TimerManager) (i : Nat) : TimerSlot :=
  timers.slots[i]?.getD {}

theorem slot_of_held {i : Nat} {slot : TimerSlot} (held : timers.slots[i]? = some slot) :
    timers.slot i = slot := by
  rw [TimerManager.slot, held, Option.getD_some]

theorem held_of_lt (timers : TimerManager) {i : Nat} (inside : i < maxTimers) :
    timers.slots[i]? = some (timers.slot i) := by
  have bound : i < timers.slots.length := timers.slots_length.symm ▸ inside
  have held := List.getElem?_eq_getElem bound
  rw [slot_of_held held, held]

/-- A tick with a span: a due timer is reported while there is room. -/
theorem tick_slot {i : Nat} (inside : i < maxTimers) (delta : Int) (room : Nat) :
    (timers.tick delta room).1.slot i =
      spanned delta (decide (dueBefore delta timers.slots i < room)) (timers.slot i) :=
  slot_of_held (tickSlots_slot delta room (timers.held_of_lt inside))

/-- A timer is reported once, if it is due and has room. -/
theorem Configured.tick_reports (configured : timers.Configured) {i : Nat}
    (inside : i < maxTimers) (delta : Int) (room : Nat) :
    reportsOn i (timers.tick delta room).2.1 =
      ((timers.slot i).due delta && decide (dueBefore delta timers.slots i < room)).toNat := by
  have own : ∀ (j : Nat) (slot : TimerSlot), timers.slots[j]? = some slot → slot.active = true →
      slot.timer.id.code = 0 + j := by
    intro j slot held active
    rw [Nat.zero_add]
    exact configured j slot held ((TimerSlot.active_iff slot).mp active).1
  have reports := @tickSlots_reports delta room 0 timers.slots own i _ (timers.held_of_lt inside)
  rwa [Nat.zero_add] at reports

theorem spanned_id (delta : Int) (fits : Bool) {slot : TimerSlot} {i : Nat}
    (own : slot.initialized = true → slot.timer.id.code = i)
    (configured : (spanned delta fits slot).initialized = true) :
    (spanned delta fits slot).timer.id.code = i := by
  rw [spanned] at configured ⊢
  split at configured
  case isTrue deferred =>
    have due := (Bool.and_eq_true_iff.mp deferred).1
    have running := ((TimerSlot.active_iff slot).mp (TimerSlot.due_iff.mp due).1).1
    rw [if_pos deferred]
    exact own running
  case isFalse kept =>
    rw [if_neg kept, (slot.tick_id delta).1]
    rw [(slot.tick_id delta).2] at configured
    exact own configured

/-- A tick with a span keeps the slots configured. -/
theorem Configured.tick_span (configured : timers.Configured) (delta : Int) (room : Nat) :
    (timers.tick delta room).1.Configured := by
  intro i slot held initialized
  have inside : i < maxTimers :=
    (timers.tick delta room).1.slots_length ▸ (List.getElem?_eq_some_iff.mp held).1
  have now := slot_of_held held
  rw [tick_slot inside] at now
  rw [← now] at initialized ⊢
  exact spanned_id delta _ (configured i _ (timers.held_of_lt inside)) initialized

end Spans

/-! ## Accounts -/

/-- A call on the timers of a caller that takes expiries from a span. -/
inductive SpanCall where
  | action (action : TimerAction)
  | tick (delta : Int) (room : Nat)
deriving DecidableEq

/-- The timers after a call, with the expiries that it reports. -/
def spanCall (timers : TimerManager) : SpanCall → TimerManager × List L3TimerId
  | .action action => ((timers.act action).1, [])
  | .tick delta room => ((timers.tick delta room).1, (timers.tick delta room).2.1)

/-- The account of a slot: how often its timer has run out, how often that was reported, how
often it was stopped or restarted before the report, and whether a report is still owed. -/
structure Account where
  expiries : Nat := 0
  reports : Nat := 0
  cancelled : Nat := 0
  owed : Bool := false
deriving DecidableEq

/-- The account of slot `i` after a call with some reports. -/
def Account.enter (account : Account) (i : Nat) (slot : TimerSlot) (reports : List L3TimerId) :
    SpanCall → Account
  | .action action =>
      if action.touches i && account.owed then
        { account with cancelled := account.cancelled + 1, owed := false }
      else account
  | .tick delta _ =>
      { account with
        expiries := account.expiries + (slot.due delta && !account.owed).toNat
        reports := account.reports + reportsOn i reports
        owed := (slot.due delta || account.owed) && reportsOn i reports == 0 }

/-- The timers and the account of a slot after calls. -/
def tracked (i : Nat) (calls : List SpanCall) : TimerManager × Account :=
  calls.foldl (fun (timers, account) call =>
    ((timers.spanCall call).1, account.enter i (timers.slot i) (timers.spanCall call).2 call))
    ({}, {})

theorem tracked_concat (i : Nat) (calls : List SpanCall) (call : SpanCall) :
    tracked i (calls ++ [call]) =
      let (timers, account) := tracked i calls
      ((timers.spanCall call).1,
        account.enter i (timers.slot i) (timers.spanCall call).2 call) := by
  rw [tracked, List.foldl_append]
  rfl

/-- The account of a slot is in order. -/
structure InOrder (i : Nat) (calls : List SpanCall) (timers : TimerManager)
    (account : Account) : Prop where
  configured : timers.Configured
  balanced : account.expiries = account.reports + account.cancelled + account.owed.toNat
  owed : account.owed = true → (timers.slot i).active = true
  soon : account.owed = true → (∀ delta room, .tick delta room ∈ calls → 0 ≤ delta) →
    (timers.slot i).timer.remaining = 1

section Accounts

variable {i : Nat} {calls : List SpanCall} {timers : TimerManager} {account : Account}

theorem act_slot_of_lt (timers : TimerManager) (inside : i < maxTimers) (action : TimerAction) :
    (timers.act action).1.slot i = action.on i (timers.slot i) := by
  apply slot_of_held
  rw [act_slot, timers.held_of_lt inside, Option.map_some]

/-- An action keeps the account in order. -/
theorem InOrder.act (order : InOrder i calls timers account) (inside : i < maxTimers)
    (action : TimerAction) :
    InOrder i (calls ++ [.action action]) (timers.act action).1
      (account.enter i (timers.slot i) [] (.action action)) := by
  have configured := order.configured.act action
  rw [Account.enter]
  by_cases cancels : (action.touches i && account.owed) = true
  · obtain ⟨_, owed⟩ := Bool.and_eq_true_iff.mp cancels
    have balanced := order.balanced
    rw [owed] at balanced
    rw [if_pos cancels]
    exact ⟨configured, balanced, nofun, nofun⟩
  · have same : account.owed = true →
        (timers.act action).1.slot i = timers.slot i := by
      intro owed
      have untouched : action.touches i = false :=
        Bool.eq_false_iff.mpr fun touched => cancels (Bool.and_eq_true_iff.mpr ⟨touched, owed⟩)
      exact (act_slot_of_lt timers inside action).trans (TimerAction.on_of_untouched untouched _)
    rw [if_neg cancels]
    refine ⟨configured, order.balanced, ?_, ?_⟩
    · intro owed
      rw [same owed]
      exact order.owed owed
    · intro owed forward
      rw [same owed]
      exact order.soon owed fun delta room member =>
        forward delta room (List.mem_append_left _ member)

/-- A timer that runs on through a tick. -/
theorem runs_on {slot : TimerSlot} {delta : Int} (active : slot.active = true)
    (runs : slot.due delta = false) :
    slot.tick delta = { slot with timer.remaining := slot.timer.remaining - delta } := by
  have some_left : ¬ slot.timer.remaining ≤ delta := fun expires =>
    absurd ((TimerSlot.due_iff.mpr ⟨active, expires⟩).symm.trans runs) nofun
  rw [TimerSlot.tick, if_pos active, TimerSlot.tick_timer active, if_neg some_left]

/-- A tick keeps the account in order. -/
theorem InOrder.tick (order : InOrder i calls timers account) (inside : i < maxTimers)
    (delta : Int) (room : Nat) :
    InOrder i (calls ++ [.tick delta room]) (timers.tick delta room).1
      (account.enter i (timers.slot i) (timers.tick delta room).2.1 (.tick delta room)) := by
  have configured := order.configured.tick_span delta room
  have balanced := order.balanced
  have after := @tick_slot timers i inside delta room
  rw [Account.enter, order.configured.tick_reports inside]
  generalize decide (dueBefore delta timers.slots i < room) = fits at after
  cases due : (timers.slot i).due delta with
  | true =>
      -- an expiry that was owed is the same expiry
      have entered : account.expiries + (true && !account.owed).toNat =
          account.reports + account.cancelled + 1 := by
        rw [balanced]
        cases account.owed <;> rfl
      cases fits with
      | true => exact ⟨configured, entered.trans (Nat.add_right_comm ..), nofun, nofun⟩
      | false =>
          have kept : (timers.tick delta room).1.slot i = .rearmed (timers.slot i).timer.id := by
            rw [after, spanned, due]
            rfl
          refine ⟨configured, entered, ?_, ?_⟩
          · intro _
            rw [kept]
            rfl
          · intro _ _
            rw [kept]
            rfl
  | false =>
      have kept : (timers.tick delta room).1.slot i = (timers.slot i).tick delta := by
        rw [after, spanned, due]
        rfl
      refine ⟨configured, ?_, ?_, ?_⟩
      · simpa using balanced
      · intro still
        have owed : account.owed = true := by simpa using still
        have active := order.owed owed
        rw [kept, runs_on active due]
        exact active
      · intro still forward
        have owed : account.owed = true := by simpa using still
        have active := order.owed owed
        have soon := order.soon owed fun delta room member =>
          forward delta room (List.mem_append_left _ member)
        have elapsed := forward delta room (List.mem_append_right _ (List.mem_singleton_self _))
        have some_left : ¬ (timers.slot i).timer.remaining ≤ delta := fun expires =>
          absurd ((TimerSlot.due_iff.mpr ⟨active, expires⟩).symm.trans due) nofun
        rw [kept, runs_on active due]
        simp only
        omega

/-- The account is in order after any calls. -/
theorem tracked_inOrder (inside : i < maxTimers) (calls : List SpanCall) :
    InOrder i calls (tracked i calls).1 (tracked i calls).2 := by
  induction calls using List.reverseRecOn with
  | nil => exact ⟨configured_empty, rfl, nofun, nofun⟩
  | append_singleton calls call ih =>
      rw [tracked_concat]
      cases call with
      | action action => exact ih.act inside action
      | tick delta room => exact ih.tick inside delta room

/-- What a tick answers about a slot: an expiry is reported if the due timers before it leave
room, and otherwise kept for the next millisecond; other timers are advanced. -/
structure Answered (timers : TimerManager) (delta : Int) (room : Nat) (i : Nat) : Prop where
  advanced : (timers.slot i).due delta = false →
    (timers.tick delta room).1.slot i = (timers.slot i).tick delta ∧
      reportsOn i (timers.tick delta room).2.1 = 0
  reported : (timers.slot i).due delta = true → dueBefore delta timers.slots i < room →
    (timers.tick delta room).1.slot i = (timers.slot i).tick delta ∧
      reportsOn i (timers.tick delta room).2.1 = 1
  kept : (timers.slot i).due delta = true → room ≤ dueBefore delta timers.slots i →
    (timers.tick delta room).1.slot i = .rearmed (timers.slot i).timer.id ∧
      reportsOn i (timers.tick delta room).2.1 = 0

/-- Every tick is answered as the account says. -/
theorem Configured.answered (configured : timers.Configured) (inside : i < maxTimers)
    (delta : Int) (room : Nat) : Answered timers delta room i := by
  have reports := configured.tick_reports inside delta room
  have after := @tick_slot timers i inside delta room
  rw [spanned] at after
  refine ⟨?_, ?_, ?_⟩
  · intro runs
    rw [runs] at reports after
    exact ⟨after, reports⟩
  · intro due fits
    rw [due, decide_eq_true fits] at reports after
    exact ⟨after, reports⟩
  · intro due full
    rw [due, decide_eq_false (Nat.not_lt.mpr full)] at reports after
    exact ⟨after, reports⟩

/-- Every expiry is reported once, unless the timer is stopped or restarted before, and the
next tick with room reports those that are owed. -/
theorem expiries_accounted (calls : List SpanCall) (i : Fin maxTimers) :
    let timers := (tracked i calls).1
    let account := (tracked i calls).2
    account.expiries = account.reports + account.cancelled + account.owed.toNat ∧
      (account.owed = true → (timers.slot i).active = true ∧
        ((∀ delta room, .tick delta room ∈ calls → 0 ≤ delta) →
          (timers.slot i).timer.remaining = 1)) ∧
      ∀ delta room, timers.Answered delta room i := by
  have order := tracked_inOrder i.isLt calls
  refine ⟨order.balanced, ?_, fun delta room => order.configured.answered i.isLt delta room⟩
  intro owed
  exact ⟨order.owed owed, order.soon owed⟩

/-- A timer whose expiry found no room and that is stopped then is never reported. -/
theorem stopped_before_report :
    let calls : List SpanCall := [.action (.start .T3101 10), .tick 10 0, .action (.stop .T3101),
      .tick 1000 maxTimers]
    (tracked L3TimerId.T3101.code calls).2.expiries = 1 ∧
      (tracked L3TimerId.T3101.code calls).2.reports = 0 ∧
      (tracked L3TimerId.T3101.code calls).2.owed = false ∧
      (tracked L3TimerId.T3101.code calls).1.runningCount = 0 := by
  decide

end Accounts

end TimerManager

end Stack

end Gsml3
