import Gsml3.Stack.TimerSpans

/-!
# Ticks with a callback

The tick that calls back for every expiry lets the callback start and stop timers of the manager
it iterates over.  The set of running timers is taken before the first slot, so a timer that was
running and is restarted by the callback of an earlier slot is advanced in the same pass.
-/

namespace Gsml3

namespace Stack

namespace TimerSlot

/-- What actions in a row leave of a slot. -/
def leave (i : Nat) (actions : List TimerAction) (slot : TimerSlot) : TimerSlot :=
  actions.foldl (fun slot action => action.on i slot) slot

theorem leave_append (i : Nat) (first second : List TimerAction) (slot : TimerSlot) :
    slot.leave i (first ++ second) = (slot.leave i first).leave i second :=
  List.foldl_append

theorem leave_of_untouched {i : Nat} {actions : List TimerAction}
    (other : ∀ action ∈ actions, action.touches i = false) (slot : TimerSlot) :
    slot.leave i actions = slot := by
  induction actions generalizing slot with
  | nil => rfl
  | cons action actions ih =>
      have rest := ih (fun later member => other later (List.mem_cons_of_mem _ member))
      rw [leave, List.foldl_cons, TimerAction.on_of_untouched (other action (List.mem_cons_self ..))]
      exact rest slot

theorem leave_initialized (i : Nat) (actions : List TimerAction) {slot : TimerSlot}
    (configured : slot.initialized = true) : (slot.leave i actions).initialized = true := by
  induction actions generalizing slot with
  | nil => exact configured
  | cons action actions ih => exact ih (TimerAction.on_initialized i configured action)

/-- A slot is what the last start made of it. -/
theorem leave_started {id : L3TimerId} {expiry : Int} (before later : List TimerAction)
    (last : ∀ action ∈ later, action.touches id.code = false) (slot : TimerSlot) :
    slot.leave id.code (before ++ .start id expiry :: later) =
      ⟨(L3Timer.reconfigure id expiry).start, true⟩ := by
  rw [leave_append, leave, List.foldl_cons]
  refine (leave_of_untouched last _).trans ?_
  exact if_pos rfl

end TimerSlot

namespace TimerManager

/-- The calls of a callback. -/
def perform (timers : TimerManager) : List TimerAction → TimerManager × List Bool
  | [] => (timers, [])
  | action :: actions =>
      let acted := timers.act action
      let done := acted.1.perform actions
      (done.1, acted.2 ++ done.2)

/-- A tick with a callback on its way through the slots: the timers, the expiries it called back
for and what the observer was told. -/
structure Pass where
  timers : TimerManager
  reports : List L3TimerId := []
  notes : List Bool := []

/-- The timer in a slot is running. -/
def running (timers : TimerManager) (i : Nat) : Bool :=
  (timers.slots[i]?.map TimerSlot.active).getD false

/-- Replace the timer in a slot. -/
def setSlot (timers : TimerManager) (i : Nat) (slot : TimerSlot) : TimerManager :=
  ⟨timers.slots.set i slot, by rw [List.length_set, timers.slots_length]⟩

/-- One turn of the loop, for the slots that were running before it. -/
def turn (delta : Int) (callback : L3TimerId → List TimerAction) (running : Nat → Bool)
    (pass : Pass) (i : Nat) : Pass :=
  match pass.timers.slots[i]? with
  | none => pass
  | some slot =>
      if running i then
        let tid := slot.timer.id
        let ticked := pass.timers.setSlot i { slot with timer := (slot.timer.tick delta).1 }
        if (slot.timer.tick delta).2 then
          let called := ticked.perform (callback tid)
          ⟨called.1, pass.reports ++ [tid], pass.notes ++ called.2⟩
        else { pass with timers := ticked }
      else pass

/-- The tick after its first `n` slots. -/
def pass (timers : TimerManager) (delta : Int) (callback : L3TimerId → List TimerAction)
    (n : Nat) : Pass :=
  (List.range n).foldl (turn delta callback timers.running) ⟨timers, [], []⟩

/-- Advance all timers and call back for the expired ones. -/
def tickWith (timers : TimerManager) (delta : Int) (callback : L3TimerId → List TimerAction) :
    TimerManager × List L3TimerId × List Bool :=
  let passed := timers.pass delta callback maxTimers
  (passed.timers, passed.reports, passed.notes ++ notifyStopped timers passed.timers)

theorem tickWith_timers (timers : TimerManager) (delta : Int)
    (callback : L3TimerId → List TimerAction) :
    (timers.tickWith delta callback).1 = (timers.pass delta callback maxTimers).timers := by
  rw [tickWith]

theorem tickWith_reports (timers : TimerManager) (delta : Int)
    (callback : L3TimerId → List TimerAction) :
    (timers.tickWith delta callback).2.1 = (timers.pass delta callback maxTimers).reports := by
  rw [tickWith]

/-! ## Actions -/

section Actions

variable (timers : TimerManager)

theorem perform_slot (actions : List TimerAction) (i : Nat) :
    (timers.perform actions).1.slots[i]? = timers.slots[i]?.map (TimerSlot.leave i actions) := by
  induction actions generalizing timers with
  | nil => exact Option.map_id_apply.symm
  | cons action actions ih =>
      rw [perform, ih, act_slot, Option.map_map]
      rfl

theorem Configured.perform {timers : TimerManager} (configured : timers.Configured)
    (actions : List TimerAction) : (timers.perform actions).1.Configured := by
  induction actions generalizing timers with
  | nil => exact configured
  | cons action actions ih => exact ih (configured.act action)

theorem perform_tells (actions : List TimerAction) :
    Tells timers.runningCount (timers.perform actions).1.runningCount
      (timers.perform actions).2 := by
  induction actions generalizing timers with
  | nil => exact .silent Iff.rfl
  | cons action actions ih => exact (timers.act_tells action).trans (ih _)

end Actions

/-! ## Turns -/

section Turns

variable {delta : Int} {callback : L3TimerId → List TimerAction} {running : Nat → Bool}
variable {passed : Pass} {i : Nat} {slot : TimerSlot}

/-- The calls that callbacks have made on the way. -/
def Pass.actions (passed : Pass) (callback : L3TimerId → List TimerAction) : List TimerAction :=
  passed.reports.flatMap callback

theorem setSlot_self (timers : TimerManager) (held : timers.slots[i]? = some slot) :
    timers.setSlot i slot = timers := by
  obtain ⟨inside, rfl⟩ := List.getElem?_eq_some_iff.mp held
  rw [setSlot]
  congr 1
  exact List.set_getElem_self inside

/-- A slot that is not in the set taken before the loop, or not running any more, is passed
over. -/
theorem turn_idle (held : passed.timers.slots[i]? = some slot)
    (idle : running i = false ∨ slot.timer.running = false) :
    turn delta callback running passed i = passed := by
  rw [turn, held]
  simp only
  by_cases was : running i = true
  · have stopped : slot.timer.running = false := idle.resolve_left fun never =>
      absurd (was.symm.trans never) nofun
    rw [if_pos was, L3Timer.tick, if_pos stopped]
    simp only [Bool.false_eq_true, if_false]
    rw [setSlot_self passed.timers held]
  · rw [if_neg was]

/-- A running timer that does not expire. -/
theorem turn_runs (held : passed.timers.slots[i]? = some slot) (was : running i = true)
    (active : slot.active = true) (runs : ¬ slot.timer.remaining ≤ delta) :
    turn delta callback running passed i =
      { passed with timers := passed.timers.setSlot i (slot.tick delta) } := by
  rw [turn, held]
  simp only
  rw [if_pos was, TimerSlot.tick, if_pos active, TimerSlot.tick_timer active, if_neg runs]
  rfl

/-- A running timer that expires calls back. -/
theorem turn_expires (held : passed.timers.slots[i]? = some slot) (was : running i = true)
    (active : slot.active = true) (expires : slot.timer.remaining ≤ delta) :
    turn delta callback running passed i =
      ⟨((passed.timers.setSlot i (slot.tick delta)).perform (callback slot.timer.id)).1,
        passed.reports ++ [slot.timer.id],
        passed.notes ++
          ((passed.timers.setSlot i (slot.tick delta)).perform (callback slot.timer.id)).2⟩ := by
  rw [turn, held]
  simp only
  rw [if_pos was, TimerSlot.tick, if_pos active, TimerSlot.tick_timer active, if_pos expires]
  rfl

end Turns

section Passes

variable {timers : TimerManager} {delta : Int} {callback : L3TimerId → List TimerAction}

theorem pass_succ (timers : TimerManager) (delta : Int)
    (callback : L3TimerId → List TimerAction) (n : Nat) :
    timers.pass delta callback (n + 1) =
      turn delta callback timers.running (timers.pass delta callback n) n := by
  rw [pass, List.range_succ, List.foldl_append]
  rfl

/-- What one turn may do, when the slot is what the earlier callbacks left of it. -/
inductive Turned (timers : TimerManager) (delta : Int) (callback : L3TimerId → List TimerAction)
    (n : Nat) (slot : TimerSlot) (before after : Pass) : Prop where
  | idle (stopped : slot.active = false ∨
        (slot.leave n (before.actions callback)).active = false)
      (same : after = before)
  | runs (was : slot.active = true)
      (active : (slot.leave n (before.actions callback)).active = true)
      (runs : ¬ (slot.leave n (before.actions callback)).timer.remaining ≤ delta)
      (turned : after = { before with
        timers := before.timers.setSlot n ((slot.leave n (before.actions callback)).tick delta) })
  | expires (was : slot.active = true)
      (active : (slot.leave n (before.actions callback)).active = true)
      (expires : (slot.leave n (before.actions callback)).timer.remaining ≤ delta)
      (turned : after =
        let id := (slot.leave n (before.actions callback)).timer.id
        let called := (before.timers.setSlot n
          ((slot.leave n (before.actions callback)).tick delta)).perform (callback id)
        ⟨called.1, before.reports ++ [id], before.notes ++ called.2⟩)

/-- What is known on the way through the slots. -/
structure Passing (timers : TimerManager) (delta : Int)
    (callback : L3TimerId → List TimerAction) (n : Nat) (passed : Pass) : Prop where
  ahead : ∀ i, n ≤ i → passed.timers.slots[i]? =
    timers.slots[i]?.map (TimerSlot.leave i (passed.actions callback))
  behind : ∀ i slot, i < n → timers.slots[i]? = some slot → slot.active = true →
    (∀ action ∈ passed.actions callback, action.touches i = false) →
    passed.timers.slots[i]? = some (slot.tick delta)
  configured : passed.timers.Configured
  told : 0 < passed.timers.runningCount →
    passed.notes.getLastD (decide (0 < timers.runningCount)) = true

variable {n : Nat} {passed : Pass} {slot : TimerSlot}

theorem running_of_held (held : timers.slots[n]? = some slot) :
    timers.running n = slot.active := by
  rw [running, held]
  rfl

theorem Passing.turned (passing : Passing timers delta callback n passed)
    (held : timers.slots[n]? = some slot) :
    Turned timers delta callback n slot passed
      (turn delta callback timers.running passed n) := by
  have now : passed.timers.slots[n]? = some (slot.leave n (passed.actions callback)) := by
    rw [passing.ahead n le_rfl, held, Option.map_some]
  have known := running_of_held held
  by_cases was : slot.active = true
  · have configured := ((TimerSlot.active_iff slot).mp was).1
    have still := TimerSlot.leave_initialized n (passed.actions callback) configured
    by_cases active : (slot.leave n (passed.actions callback)).active = true
    · by_cases expires : (slot.leave n (passed.actions callback)).timer.remaining ≤ delta
      · exact .expires was active expires (turn_expires now (known.trans was) active expires)
      · exact .runs was active expires (turn_runs now (known.trans was) active expires)
    · have stopped : (slot.leave n (passed.actions callback)).timer.running = false := by
        refine Bool.eq_false_iff.mpr fun runs => active ?_
        exact (TimerSlot.active_iff _).mpr ⟨still, runs⟩
      exact .idle (.inr (Bool.eq_false_iff.mpr active)) (turn_idle now (.inr stopped))
  · have never := Bool.eq_false_iff.mpr was
    exact .idle (.inl never) (turn_idle now (.inl (known.trans never)))

theorem actions_snoc (reports : List L3TimerId) (id : L3TimerId) (timers : TimerManager)
    (notes : List Bool) :
    (⟨timers, reports ++ [id], notes⟩ : Pass).actions callback =
      reports.flatMap callback ++ callback id := by
  rw [Pass.actions, List.flatMap_append, List.flatMap_singleton]

/-- A timer that runs after a tick of its slot ran before it. -/
theorem running_of_ticked {left : TimerSlot} (now : timers.slots[n]? = some left)
    (some_running : 0 < (timers.setSlot n (left.tick delta)).runningCount) :
    0 < timers.runningCount := by
  obtain ⟨other, member, active⟩ := List.countP_pos_iff.mp some_running
  apply List.countP_pos_iff.mpr
  rcases List.mem_or_eq_of_mem_set member with old | rfl
  · exact ⟨other, old, active⟩
  · refine ⟨left, List.mem_of_getElem? now, ?_⟩
    by_contra idle
    rw [TimerSlot.tick, if_neg idle] at active
    exact idle active

theorem Passing.succ (passing : Passing timers delta callback n passed)
    (inside : n < maxTimers) :
    Passing timers delta callback (n + 1) (turn delta callback timers.running passed n) := by
  have bound : n < timers.slots.length := timers.slots_length.symm ▸ inside
  have held := List.getElem?_eq_getElem bound
  generalize timers.slots[n] = slot at held
  have now : passed.timers.slots[n]? = some (slot.leave n (passed.actions callback)) := by
    rw [passing.ahead n le_rfl, held, Option.map_some]
  -- what the tick of the slot alone does
  have other : ∀ (new : TimerSlot) (i : Nat), i ≠ n →
      (passed.timers.setSlot n new).slots[i]? = passed.timers.slots[i]? :=
    fun new i apart => List.getElem?_set_ne (Ne.symm apart)
  have own : ∀ new : TimerSlot, (passed.timers.setSlot n new).slots[n]? = some new :=
    fun new => List.getElem?_set_self (List.getElem?_eq_some_iff.mp now).1
  have identified : (passed.timers.setSlot n
      ((slot.leave n (passed.actions callback)).tick delta)).Configured := by
    refine passing.configured.set rfl fun configured => ?_
    rw [(TimerSlot.tick_id _ delta).1]
    rw [(TimerSlot.tick_id _ delta).2] at configured
    exact passing.configured n _ now configured
  cases passing.turned held with
  | idle stopped same =>
      rw [same]
      refine ⟨fun i later => passing.ahead i (Nat.le_of_succ_le later), ?_,
        passing.configured, passing.told⟩
      intro i other_slot earlier found active untouched
      rcases Nat.lt_succ_iff_lt_or_eq.mp earlier with before | rfl
      · exact passing.behind i other_slot before found active untouched
      · -- an untouched slot that was running still is
        obtain rfl := Option.some.inj (held.symm.trans found)
        rw [TimerSlot.leave_of_untouched untouched] at stopped
        exact absurd (active.symm.trans (stopped.elim id id)) nofun
  | runs was active runs turned =>
      rw [turned]
      refine ⟨fun i later => ?_, ?_, identified, fun positive => ?_⟩
      · exact (other _ i (Nat.ne_of_gt later)).trans (passing.ahead i (Nat.le_of_succ_le later))
      · intro i other_slot earlier found active untouched
        rcases Nat.lt_succ_iff_lt_or_eq.mp earlier with before | rfl
        · exact (other _ i (Nat.ne_of_lt before)).trans
            (passing.behind i other_slot before found active untouched)
        · obtain rfl := Option.some.inj (held.symm.trans found)
          have unmoved := TimerSlot.leave_of_untouched untouched slot
          refine (own _).trans ?_
          exact congrArg (fun left : TimerSlot => some (left.tick delta)) unmoved
      · exact passing.told (running_of_ticked now positive)
  | expires was active expires turned =>
      rw [turned]
      simp only
      refine ⟨fun i later => ?_, ?_, identified.perform _, fun positive => ?_⟩
      · rw [perform_slot, other _ i (Nat.ne_of_gt later),
          passing.ahead i (Nat.le_of_succ_le later), Option.map_map, actions_snoc]
        refine Option.map_congr fun found _ => ?_
        exact (TimerSlot.leave_append ..).symm
      · intro i other_slot earlier found active untouched
        rw [actions_snoc] at untouched
        have before : ∀ action ∈ passed.actions callback, action.touches i = false :=
          fun action member => untouched action (List.mem_append_left _ member)
        have after : ∀ action ∈ callback (slot.leave n (passed.actions callback)).timer.id,
            action.touches i = false :=
          fun action member => untouched action (List.mem_append_right _ member)
        rw [perform_slot]
        rcases Nat.lt_succ_iff_lt_or_eq.mp earlier with lower | rfl
        · rw [other _ i (Nat.ne_of_lt lower),
            passing.behind i other_slot lower found active before, Option.map_some,
            TimerSlot.leave_of_untouched after]
        · obtain rfl := Option.some.inj (held.symm.trans found)
          rw [own, Option.map_some, TimerSlot.leave_of_untouched after,
            TimerSlot.leave_of_untouched before]
      · have told := perform_tells (passed.timers.setSlot n
          ((slot.leave n (passed.actions callback)).tick delta))
          (callback (slot.leave n (passed.actions callback)).timer.id)
        rw [Tells, decide_eq_true positive] at told
        rw [List.getLastD_eq_getLast?] at told ⊢
        rw [List.getLast?_append, Option.getD_or]
        cases last : (perform _ _).2.getLast? with
        | some word => rwa [last] at told
        | none =>
            rw [last] at told
            have earlier := passing.told (running_of_ticked now (of_decide_eq_true told))
            rwa [List.getLastD_eq_getLast?] at earlier

theorem passing (configured : timers.Configured) (delta : Int)
    (callback : L3TimerId → List TimerAction) :
    ∀ n ≤ maxTimers, Passing timers delta callback n (timers.pass delta callback n) := by
  intro n
  induction n with
  | zero =>
      intro _
      refine ⟨fun i _ => Option.map_id_apply.symm, fun i _ never => absurd never (Nat.not_lt_zero i),
        configured, fun positive => decide_eq_true positive⟩
  | succ n ih =>
      intro inside
      rw [pass_succ]
      exact (ih (Nat.le_of_succ_le inside)).succ inside

/-! ## Exact ticks -/

/-- The timers in the first `n` slots that expire: they are due, and no callback for an earlier
slot has touched them. -/
def expiredBefore (timers : TimerManager) (delta : Int)
    (callback : L3TimerId → List TimerAction) : Nat → List L3TimerId
  | 0 => []
  | n + 1 =>
      let earlier := expiredBefore timers delta callback n
      match timers.slots[n]? with
      | none => earlier
      | some slot =>
          if slot.due delta = true ∧
              ∀ action ∈ earlier.flatMap callback, action.touches n = false then
            earlier ++ [slot.timer.id]
          else earlier

/-- The tick is exact: timers that no callback touches are advanced by `delta`, timers that one
has touched are not advanced, every timer that expires is reported once, and the observer's last
word is right. -/
structure Exact (timers : TimerManager) (delta : Int)
    (callback : L3TimerId → List TimerAction) : Prop where
  untouched : ∀ i slot, timers.slots[i]? = some slot → slot.active = true →
    (∀ action ∈ (timers.tickWith delta callback).2.1.flatMap callback,
      action.touches i = false) →
    (timers.tickWith delta callback).1.slots[i]? = some (slot.tick delta)
  unadvanced : ∀ i < maxTimers,
    (∃ action ∈ (timers.pass delta callback i).actions callback, action.touches i = true) →
    (timers.pass delta callback (i + 1)).timers.slots[i]? =
      (timers.pass delta callback i).timers.slots[i]?
  started : ∀ before id expiry later, id.code < maxTimers →
    (timers.tickWith delta callback).2.1.flatMap callback =
      before ++ .start id expiry :: later →
    (∀ action ∈ later, action.touches id.code = false) →
    (timers.tickWith delta callback).1.slots[id.code]? =
      some ⟨(L3Timer.reconfigure id expiry).start, true⟩
  once : (timers.tickWith delta callback).2.1 = timers.expiredBefore delta callback maxTimers
  told : Tells timers.runningCount (timers.tickWith delta callback).1.runningCount
    (timers.tickWith delta callback).2.2

/-- No timer that was running is restarted by the callback of an earlier slot, unless no time
passes and the timer is started for some. -/
def Undisturbed (timers : TimerManager) (delta : Int)
    (callback : L3TimerId → List TimerAction) (n : Nat) : Prop :=
  ∀ i < n, ∀ slot, timers.slots[i]? = some slot → slot.active = true →
    (∃ action ∈ (timers.expiredBefore delta callback i).flatMap callback,
      action.touches i = true) →
    let left := slot.leave i ((timers.expiredBefore delta callback i).flatMap callback)
    left.active = false ∨ delta = 0 ∧ 0 < left.timer.remaining

theorem untouched_or (actions : List TimerAction) (i : Nat) :
    (∀ action ∈ actions, action.touches i = false) ∨
      ∃ action ∈ actions, action.touches i = true := by
  by_cases found : ∃ action ∈ actions, action.touches i = true
  · exact .inr found
  · refine .inl fun action member => Bool.eq_false_iff.mpr fun touches => ?_
    exact found ⟨action, member, touches⟩

/-- As long as nothing is disturbed, the loop calls back for the timers that expire. -/
theorem reports_of_undisturbed (configured : timers.Configured) {n : Nat} (inside : n ≤ maxTimers)
    (calm : timers.Undisturbed delta callback n) :
    (timers.pass delta callback n).reports = timers.expiredBefore delta callback n := by
  induction n with
  | zero => rfl
  | succ n ih =>
      have earlier := ih (Nat.le_of_succ_le inside) fun i below => calm i (below.trans n.lt_succ_self)
      have passing := timers.passing configured delta callback n (Nat.le_of_succ_le inside)
      have bound : n < timers.slots.length := timers.slots_length.symm ▸ inside
      have held := List.getElem?_eq_getElem bound
      generalize timers.slots[n] = slot at held
      rw [pass_succ, expiredBefore, held]
      simp only
      have actions : (timers.pass delta callback n).actions callback =
          (timers.expiredBefore delta callback n).flatMap callback := by
        rw [Pass.actions, earlier]
      rcases untouched_or ((timers.expiredBefore delta callback n).flatMap callback) n with
        untouched | touched
      · have left := TimerSlot.leave_of_untouched untouched slot
        rw [← actions] at left
        cases passing.turned held with
        | idle stopped same =>
            rw [left, or_self] at stopped
            rw [same, earlier, if_neg]
            intro due
            exact absurd ((TimerSlot.due_iff.mp due.1).1.symm.trans stopped) nofun
        | runs was active runs turned =>
            rw [left] at runs
            rw [turned, if_neg]
            · exact earlier
            · exact fun due => runs (TimerSlot.due_iff.mp due.1).2
        | expires was active expires turned =>
            rw [left] at active expires
            rw [turned, if_pos ⟨TimerSlot.due_iff.mpr ⟨active, expires⟩, untouched⟩, earlier, left]
      · rw [if_neg]
        · cases passing.turned held with
          | idle stopped same => rw [same, earlier]
          | runs was active runs turned =>
              rw [turned]
              exact earlier
          | expires was active expires turned =>
              rcases calm n n.lt_succ_self slot held was touched with stopped | ⟨still, some_left⟩
              · rw [actions] at active
                exact absurd (active.symm.trans stopped) nofun
              · rw [actions] at expires
                exact absurd some_left (Int.not_lt.mpr (expires.trans_eq still))
        · intro due
          obtain ⟨action, member, touches⟩ := touched
          exact absurd (touches.symm.trans (due.2 action member)) nofun

/-- The turn of a slot that an earlier callback has touched leaves it alone. -/
theorem turn_of_touched (configured : timers.Configured) {n : Nat} (inside : n < maxTimers)
    (calm : timers.Undisturbed delta callback (n + 1))
    (touched : ∃ action ∈ (timers.pass delta callback n).actions callback,
      action.touches n = true) :
    (timers.pass delta callback (n + 1)).reports = (timers.pass delta callback n).reports ∧
      (timers.pass delta callback (n + 1)).timers.slots[n]? =
        (timers.pass delta callback n).timers.slots[n]? := by
  have earlier := reports_of_undisturbed configured (Nat.le_of_lt inside)
    fun i below => calm i (below.trans n.lt_succ_self)
  have passing := timers.passing configured delta callback n (Nat.le_of_lt inside)
  have bound : n < timers.slots.length := timers.slots_length.symm ▸ inside
  have held := List.getElem?_eq_getElem bound
  generalize timers.slots[n] = slot at held
  have now := passing.ahead n le_rfl
  rw [held, Option.map_some] at now
  have actions : (timers.pass delta callback n).actions callback =
      (timers.expiredBefore delta callback n).flatMap callback := by
    rw [Pass.actions, earlier]
  rw [actions] at touched
  rw [pass_succ]
  cases passing.turned held with
  | idle stopped same =>
      rw [same]
      exact ⟨rfl, rfl⟩
  | runs was active runs turned =>
      rcases calm n n.lt_succ_self slot held was touched with stopped | ⟨still, -⟩
      · rw [actions] at active
        exact absurd (active.symm.trans stopped) nofun
      · rw [turned]
        have unmoved : (slot.leave n ((timers.pass delta callback n).actions callback)).tick delta =
            slot.leave n ((timers.pass delta callback n).actions callback) := by
          rw [TimerSlot.tick, if_pos active, TimerSlot.tick_timer active, if_neg runs, still,
            Int.sub_zero]
        rw [unmoved, setSlot_self _ now]
        exact ⟨rfl, rfl⟩
  | expires was active expires turned =>
      rcases calm n n.lt_succ_self slot held was touched with stopped | ⟨still, some_left⟩
      · rw [actions] at active
        exact absurd (active.symm.trans stopped) nofun
      · rw [actions] at expires
        exact absurd some_left (Int.not_lt.mpr (expires.trans_eq still))

/-- A later turn touches other slots through its callback only. -/
theorem turn_elsewhere (configured : timers.Configured) {n i : Nat} (inside : n < maxTimers)
    (apart : i ≠ n) :
    ∃ called, (timers.pass delta callback (n + 1)).actions callback =
        (timers.pass delta callback n).actions callback ++ called ∧
      (timers.pass delta callback (n + 1)).timers.slots[i]? =
        (timers.pass delta callback n).timers.slots[i]?.map (TimerSlot.leave i called) := by
  have passing := timers.passing configured delta callback n (Nat.le_of_lt inside)
  have bound : n < timers.slots.length := timers.slots_length.symm ▸ inside
  have held := List.getElem?_eq_getElem bound
  generalize timers.slots[n] = slot at held
  rw [pass_succ]
  cases passing.turned held with
  | idle stopped same =>
      rw [same]
      exact ⟨[], (List.append_nil _).symm, Option.map_id_apply.symm⟩
  | runs was active runs turned =>
      rw [turned]
      refine ⟨[], (List.append_nil _).symm, ?_⟩
      exact (List.getElem?_set_ne (Ne.symm apart)).trans Option.map_id_apply.symm
  | expires was active expires turned =>
      rw [turned]
      refine ⟨_, actions_snoc .., ?_⟩
      rw [perform_slot]
      exact congrArg (Option.map _) (List.getElem?_set_ne (Ne.symm apart))

/-- Every slot is what the callbacks made of some slot. -/
theorem left_of_undisturbed (configured : timers.Configured) {n : Nat} (inside : n ≤ maxTimers)
    (calm : timers.Undisturbed delta callback n) {i : Nat} (known : i < maxTimers) :
    ∃ base : TimerSlot, (timers.pass delta callback n).timers.slots[i]? =
      some (base.leave i ((timers.pass delta callback n).actions callback)) := by
  have bound : i < timers.slots.length := timers.slots_length.symm ▸ known
  induction n with
  | zero => exact ⟨timers.slots[i], List.getElem?_eq_getElem bound⟩
  | succ n ih =>
      obtain ⟨base, now⟩ := ih (Nat.le_of_succ_le inside)
        fun j below => calm j (below.trans n.lt_succ_self)
      by_cases own : i = n
      · subst own
        rcases untouched_or ((timers.pass delta callback i).actions callback) i with
          untouched | touched
        · have passing := timers.passing configured delta callback i (Nat.le_of_succ_le inside)
          rw [pass_succ]
          cases passing.turned (List.getElem?_eq_getElem bound) with
          | idle stopped same =>
              rw [same]
              exact ⟨base, now⟩
          | runs was active runs turned =>
              rw [turned]
              refine ⟨TimerSlot.tick (TimerSlot.leave i
                ((timers.pass delta callback i).actions callback) timers.slots[i]) delta, ?_⟩
              refine (List.getElem?_set_self (List.getElem?_eq_some_iff.mp now).1).trans ?_
              exact congrArg some (TimerSlot.leave_of_untouched untouched _).symm
          | expires was active expires turned =>
              rw [turned]
              simp only
              rw [actions_snoc, perform_slot, setSlot,
                List.getElem?_set_self (List.getElem?_eq_some_iff.mp now).1, Option.map_some]
              refine ⟨TimerSlot.tick (TimerSlot.leave i
                ((timers.pass delta callback i).actions callback) timers.slots[i]) delta, ?_⟩
              rw [TimerSlot.leave_append]
              exact congrArg (fun left => some (TimerSlot.leave i _ left))
                (TimerSlot.leave_of_untouched untouched _).symm
        · obtain ⟨reports, same⟩ := turn_of_touched configured inside calm touched
          rw [same, Pass.actions, reports]
          exact ⟨base, now⟩
      · obtain ⟨called, actions, slot⟩ := turn_elsewhere configured inside own
        rw [slot, actions, now, Option.map_some]
        exact ⟨base, congrArg some (TimerSlot.leave_append ..).symm⟩

/-- Without running timers the loop does nothing. -/
theorem pass_of_idle (configured : timers.Configured) (none_running : timers.runningCount = 0)
    {n : Nat} (inside : n ≤ maxTimers) :
    timers.pass delta callback n = ⟨timers, [], []⟩ := by
  induction n with
  | zero => rfl
  | succ n ih =>
      have passing := timers.passing configured delta callback n (Nat.le_of_succ_le inside)
      have bound : n < timers.slots.length := timers.slots_length.symm ▸ inside
      have idle : timers.slots[n].active ≠ true :=
        List.countP_eq_zero.mp none_running _ (List.getElem_mem bound)
      rw [pass_succ]
      cases passing.turned (List.getElem?_eq_getElem bound) with
      | idle stopped same => rw [same, ih (Nat.le_of_succ_le inside)]
      | runs was => exact absurd was idle
      | expires was => exact absurd was idle

/-- The observer's last word after the loop is right. -/
theorem tickWith_tells (configured : timers.Configured) :
    Tells timers.runningCount (timers.tickWith delta callback).1.runningCount
      (timers.tickWith delta callback).2.2 := by
  have told := (timers.passing configured delta callback maxTimers le_rfl).told
  rw [tickWith, notifyStopped]
  simp only
  generalize passed : timers.pass delta callback maxTimers = last at told
  rcases Nat.eq_zero_or_pos last.timers.runningCount with none | positive
  · rcases Nat.eq_zero_or_pos timers.runningCount with idle | before
    · obtain rfl := (pass_of_idle configured idle le_rfl).symm.trans passed
      rw [idle]
      exact .silent Iff.rfl
    · rw [if_pos ⟨before, none⟩, none, Tells, List.getLastD_concat]
      rfl
  · rw [if_neg fun stopped => Nat.ne_of_gt positive stopped.2, List.append_nil, Tells,
      told positive, decide_eq_true positive]

/-- Reports go on to the end. -/
theorem reports_mono (configured : timers.Configured) {n m : Nat} (ordered : n ≤ m)
    (inside : m ≤ maxTimers) {id : L3TimerId}
    (member : id ∈ (timers.pass delta callback n).reports) :
    id ∈ (timers.pass delta callback m).reports := by
  induction m, ordered using Nat.le_induction with
  | base => exact member
  | succ m _ ih =>
      have earlier := ih (Nat.le_of_succ_le inside)
      have passing := timers.passing configured delta callback m (Nat.le_of_succ_le inside)
      have bound : m < timers.slots.length := timers.slots_length.symm ▸ inside
      rw [pass_succ]
      cases passing.turned (List.getElem?_eq_getElem bound) with
      | idle stopped same => rwa [same]
      | runs was active runs turned =>
          rw [turned]
          exact earlier
      | expires was active expires turned =>
          rw [turned]
          exact List.mem_append_left _ earlier

/-- An expiry is one of the slot of its identifier. -/
theorem untouched_of_mem_expiredBefore (configured : timers.Configured) {n : Nat}
    {id : L3TimerId} (member : id ∈ timers.expiredBefore delta callback n) :
    ∀ action ∈ (timers.expiredBefore delta callback id.code).flatMap callback,
      action.touches id.code = false := by
  induction n with
  | zero => cases member
  | succ n ih =>
      rw [expiredBefore] at member
      cases held : timers.slots[n]? with
      | none =>
          rw [held] at member
          exact ih member
      | some slot =>
          rw [held] at member
          simp only at member
          split at member
          case isTrue expired =>
            rcases List.mem_append.mp member with old | new
            · exact ih old
            · obtain rfl := List.mem_singleton.mp new
              have initialized :=
                ((TimerSlot.active_iff slot).mp (TimerSlot.due_iff.mp expired.1).1).1
              rw [configured n slot held initialized]
              exact expired.2
          case isFalse => exact ih member

/-- A tick is exact exactly if it disturbs no timer. -/
theorem exact_iff_undisturbed (configured : timers.Configured) :
    Exact timers delta callback ↔ Undisturbed timers delta callback maxTimers := by
  constructor
  · intro exactly i
    induction i using Nat.strong_induction_on with
    | _ i ih =>
        intro inside slot held was touched
        have calm : timers.Undisturbed delta callback i :=
          fun j below => ih j below (below.trans inside)
        have reports := reports_of_undisturbed configured (Nat.le_of_lt inside) calm
        have passing := timers.passing configured delta callback i (Nat.le_of_lt inside)
        have actions : (timers.pass delta callback i).actions callback =
            (timers.expiredBefore delta callback i).flatMap callback := by
          rw [Pass.actions, reports]
        have now := passing.ahead i le_rfl
        rw [held, Option.map_some] at now
        have still := exactly.unadvanced i inside (actions ▸ touched)
        simp only
        rw [← actions]
        rw [pass_succ] at still
        cases passing.turned held with
        | idle stopped same =>
            exact .inl (stopped.resolve_left fun never => absurd (was.symm.trans never) nofun)
        | runs was active runs turned =>
            -- an unchanged timer lost no time
            rw [turned, now] at still
            have same := (List.getElem?_set_self (List.getElem?_eq_some_iff.mp now).1).symm.trans still
            have remaining := congrArg (fun left : TimerSlot => left.timer.remaining)
              (Option.some.inj same)
            rw [TimerSlot.tick, if_pos active, TimerSlot.tick_timer active, if_neg runs] at remaining
            simp only at remaining
            refine .inr ⟨by omega, by omega⟩
        | expires was active expires turned =>
            -- it would be reported without having expired
            have member : (slot.leave i ((timers.pass delta callback i).actions callback)).timer.id ∈
                (timers.pass delta callback (i + 1)).reports := by
              rw [pass_succ, turned]
              exact List.mem_append_right _ (List.mem_singleton_self _)
            have reported := reports_mono configured inside le_rfl member
            have code := passing.configured i _ now ((TimerSlot.active_iff _).mp active).1
            rw [← tickWith_reports, exactly.once] at reported
            have untouched := untouched_of_mem_expiredBefore configured reported
            rw [code] at untouched
            obtain ⟨action, among, touches⟩ := touched
            exact absurd (touches.symm.trans (untouched action among)) nofun
  · intro calm
    have passing := timers.passing configured delta callback maxTimers le_rfl
    have reports := reports_of_undisturbed configured le_rfl calm
    refine ⟨?_, ?_, ?_, ?_, tickWith_tells configured⟩
    · intro i slot held active untouched
      rw [tickWith_reports] at untouched
      rw [tickWith_timers]
      have bound : i < maxTimers := timers.slots_length ▸ (List.getElem?_eq_some_iff.mp held).1
      exact passing.behind i slot bound held active untouched
    · intro i inside touched
      exact (turn_of_touched configured inside (fun j below => calm j (below.trans_le inside))
        touched).2
    · intro before id expiry later inside actions last
      obtain ⟨base, now⟩ := left_of_undisturbed configured le_rfl calm inside
      rw [tickWith_reports, ← Pass.actions] at actions
      rw [tickWith_timers, now, actions, TimerSlot.leave_started before later last base]
    · rw [tickWith_reports, reports]

end Passes

/-! ## Runs -/

/-- A call on the timers. -/
inductive TimerCall where
  | span (call : SpanCall)
  | tick (delta : Int) (callback : L3TimerId → List TimerAction)

/-- The timers after a call. -/
def call (timers : TimerManager) : TimerCall → TimerManager
  | .span call => (timers.spanCall call).1
  | .tick delta callback => (timers.tickWith delta callback).1

/-- The timers after calls. -/
def after (calls : List TimerCall) : TimerManager :=
  calls.foldl call {}

theorem Configured.call {timers : TimerManager} (configured : timers.Configured)
    (call : TimerCall) : (timers.call call).Configured := by
  cases call with
  | span call =>
      cases call with
      | action action => exact configured.act action
      | tick delta room => exact configured.tick_span delta room
  | tick delta callback =>
      rw [TimerManager.call, tickWith_timers]
      exact (timers.passing configured delta callback maxTimers le_rfl).configured

theorem after_configured (calls : List TimerCall) : (after calls).Configured := by
  induction calls using List.reverseRecOn with
  | nil => exact configured_empty
  | append_singleton calls call ih =>
      rw [after, List.foldl_append]
      exact ih.call call

/-- A tick with a callback is exact exactly if no callback restarts a timer that was running in
a later slot and leaves it running. -/
theorem callback_tick_exact_iff (calls : List TimerCall) (delta : Int)
    (callback : L3TimerId → List TimerAction) :
    Exact (after calls) delta callback ↔ Undisturbed (after calls) delta callback maxTimers :=
  exact_iff_undisturbed (after_configured calls)

/-- The callback of T3101 restarts T3102, which was running, and the tick that called back takes
its time off the new duration. -/
theorem restarted_timer_advanced :
    let calls : List TimerCall := [.span (.action (.start .T3101 10)),
      .span (.action (.start .T3102 100))]
    let callback : L3TimerId → List TimerAction := fun id =>
      if id = .T3101 then [.start .T3102 50] else []
    ((after calls).tickWith 10 callback).1.slots[L3TimerId.T3102.code]? =
        some ⟨⟨.T3102, 50, 40, true⟩, true⟩ ∧
      ¬ Exact (after calls) 10 callback := by
  intro calls callback
  have advanced : ((after calls).tickWith 10 callback).1.slots[L3TimerId.T3102.code]? =
      some ⟨⟨.T3102, 50, 40, true⟩, true⟩ := by decide
  refine ⟨advanced, fun exactly => ?_⟩
  have started := exactly.started [] .T3102 50 [] (by decide) (by decide) nofun
  exact absurd (advanced.symm.trans started) (by decide)

end TimerManager

end Stack

end Gsml3
