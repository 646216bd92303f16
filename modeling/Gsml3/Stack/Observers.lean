import Gsml3.Stack.Timers
import Gsml3.Stack.ProcedureRunner

/-!
# Observers

An observer of a subscriber's timers or procedures is told only when their number
becomes zero or positive.  `Tells` says that its last word is right, and every call
tells it so.
-/

namespace Gsml3

namespace Stack

/-- The last word to an observer, or what it knew before, says whether the count is
positive now. -/
def Tells (was now : Nat) (notified : List Bool) : Prop :=
  notified.getLastD (decide (0 < was)) = decide (0 < now)

namespace Tells

variable {was middle now : Nat} {first second notified : List Bool}

/-- Without a change nothing is notified. -/
theorem silent (same : 0 < was ↔ 0 < now) : Tells was now [] :=
  decide_eq_decide.mpr same

/-- Notifications compose. -/
theorem trans (before : Tells was middle first) (after : Tells middle now second) :
    Tells was now (first ++ second) := by
  rw [Tells, List.getLastD_eq_getLast?] at before after ⊢
  rw [List.getLast?_append, Option.getD_or, before, after]

/-- The last one that stops is notified. -/
theorem stopped (less : now ≤ was) :
    Tells was now (if 0 < was ∧ now = 0 then [false] else []) := by
  split
  case isTrue ends => exact (decide_eq_false (by omega)).symm
  case isFalse goes_on => exact silent (by omega)

/-- The first one that starts is notified. -/
theorem started (more : 0 < now) :
    Tells was now (if was = 0 ∧ 0 < now then [true] else []) := by
  split
  case isTrue => exact (decide_eq_true more).symm
  case isFalse goes_on => exact silent (by omega)

end Tells

/-! ## Timers -/

namespace TimerManager

variable (timers : TimerManager)

theorem start_tells (id : L3TimerId) (expiry : Int) :
    Tells timers.runningCount (timers.start id expiry).1.runningCount
      (timers.start id expiry).2.2 := by
  rw [start]
  split
  case isFalse => exact .silent Iff.rfl
  case isTrue inside =>
    refine .started (List.countP_pos_iff.mpr ⟨_, List.mem_set ?_ _, rfl⟩)
    rw [timers.slots_length]
    exact inside

theorem stop_tells (id : L3TimerId) :
    Tells timers.runningCount (timers.stop id).1.runningCount (timers.stop id).2 := by
  rw [stop]
  split
  case h_2 => exact .silent Iff.rfl
  case h_1 slot present =>
    split
    case isFalse => exact .silent Iff.rfl
    case isTrue =>
      refine .stopped ?_
      obtain ⟨inside, held⟩ := List.getElem?_eq_some_iff.mp present
      have idle : TimerSlot.active { slot with timer := slot.timer.stop } = false :=
        Bool.and_false _
      rw [runningCount, runningCount, List.countP_set inside, idle]
      exact Nat.sub_le ..

theorem stopAll_tells :
    Tells timers.runningCount timers.stopAll.1.runningCount timers.stopAll.2 := by
  refine .stopped ?_
  rw [runningCount, runningCount]
  refine (List.countP_map ..).trans_le (List.countP_mono_left fun slot _ active => ?_)
  rw [Function.comp_apply] at active
  split at active
  case isTrue => cases (Bool.and_false _).symm.trans active
  case isFalse => exact active

/-- A timer that runs after a tick ran before. -/
theorem tickSlots_running_le (delta : Int) (room : Nat) (slots : List TimerSlot) :
    (tickSlots delta room slots).1.countP TimerSlot.active ≤ slots.countP TimerSlot.active := by
  induction slots generalizing room with
  | nil => exact le_rfl
  | cons slot slots ih =>
      have one : ∀ other : TimerSlot, (if other.active = true then 1 else 0) ≤ 1 := by
        intro other
        split <;> omega
      rw [tickSlots]
      split
      case isTrue active =>
        have more : (slot :: slots).countP TimerSlot.active = slots.countP TimerSlot.active + 1 :=
          List.countP_cons_of_pos active
        rw [more]
        simp only
        split
        · split
          · rw [List.countP_cons]
            exact Nat.add_le_add (ih (room - 1)) (one _)
          · rw [List.countP_cons]
            exact Nat.add_le_add (ih room) (one _)
        · rw [List.countP_cons]
          exact Nat.add_le_add (ih room) (one _)
      case isFalse =>
        rw [List.countP_cons, List.countP_cons]
        exact Nat.add_le_add_right (ih room) _

theorem tick_tells (delta : Int) (room : Nat) :
    Tells timers.runningCount (timers.tick delta room).1.runningCount
      (timers.tick delta room).2.2 :=
  .stopped (tickSlots_running_le delta room timers.slots)

end TimerManager

/-! ## Procedures -/

namespace ProcedureRunner

variable {runner : ProcedureRunner} {i : Nat} {proc : Procedure}

/-- What is found stands in its slot. -/
theorem findActive_some {p : Procedure → Bool}
    (found : runner.findActive p = some (i, proc)) : runner.slots[i]? = some (some proc) := by
  obtain ⟨⟨slot, j⟩, member, held⟩ := List.exists_of_findSome?_eq_some found
  obtain ⟨proc', filtered, pair⟩ := Option.map_eq_some_iff.mp held
  obtain ⟨rfl, rfl⟩ := Prod.mk.inj pair
  obtain ⟨rfl, -⟩ := Option.filter_eq_some_iff.mp filtered
  exact List.mem_zipIdx_iff_getElem?.mp member

/-- The count follows the slot. -/
theorem activeCount_setSlot {old : Option Procedure} (present : runner.slots[i]? = some old)
    (slot : Option Procedure) :
    (runner.setSlot i slot).activeCount + old.isSome.toNat =
      runner.activeCount + slot.isSome.toNat := by
  obtain ⟨inside, held⟩ := List.getElem?_eq_some_iff.mp present
  have positive : old.isSome = true → 0 < runner.slots.countP Option.isSome := fun some =>
    List.countP_pos_iff.mpr ⟨old, held ▸ List.getElem_mem inside, some⟩
  rw [activeCount, activeCount, setSlot, List.countP_set inside, held]
  cases old with
  | none => cases slot <;> simp
  | some =>
      have positive := positive rfl
      cases slot <;> simp <;> omega

theorem setSlot_slots (present : i < runner.slots.length) (slot : Option Procedure) :
    (runner.setSlot i slot).slots[i]? = some slot :=
  List.getElem?_set_self present

/-- A cleanup notifies the end of the last procedure. -/
theorem cleanup_tells (runner : ProcedureRunner) (i : Nat) :
    Tells runner.activeCount (runner.cleanupSlotIfTerminal i).1.activeCount
      (runner.cleanupSlotIfTerminal i).2 := by
  rw [cleanupSlotIfTerminal]
  split
  case h_2 => exact .silent Iff.rfl
  case h_1 proc present =>
    split
    case isFalse => exact .silent Iff.rfl
    case isTrue =>
      have count := activeCount_setSlot present none
      simp only [Option.isSome_some, Bool.toNat_true, Option.isSome_none, Bool.toNat_false] at count
      have tells := @Tells.stopped runner.activeCount (runner.setSlot i none).activeCount
        (by omega)
      simp only [show 0 < runner.activeCount by omega, true_and] at tells
      exact tells

theorem store_tells (present : runner.slots[i]? = some (some proc)) (fed : Fed Procedure) :
    Tells runner.activeCount (runner.store i fed).runner.activeCount
      (runner.store i fed).notified := by
  have count := activeCount_setSlot present (some fed.proc)
  have tells := (runner.setSlot i (some fed.proc)).cleanup_tells i
  rwa [Nat.add_right_cancel count] at tells

theorem insertSlot_tells {inserted : ProcedureRunner} {notified : List Bool}
    (run : runner.insertSlot proc = some (inserted, i, notified)) :
    inserted.slots[i]? = some (some proc) ∧
      Tells runner.activeCount inserted.activeCount notified := by
  obtain ⟨j, found, pair⟩ := Option.map_eq_some_iff.mp run
  obtain ⟨rfl, rest⟩ := Prod.mk.inj pair
  obtain ⟨rfl, rfl⟩ := Prod.mk.inj rest
  obtain ⟨inside, free, -⟩ := List.findIdx?_eq_some_iff_getElem.mp found
  have count := activeCount_setSlot (List.getElem?_eq_getElem inside) (some proc)
  rw [Option.isNone_iff_eq_none.mp free] at count
  simp only [Option.isSome_some, Bool.toNat_true, Option.isSome_none, Bool.toNat_false] at count
  refine ⟨setSlot_slots inside _, ?_⟩
  have tells := @Tells.started runner.activeCount (runner.setSlot j (some proc)).activeCount
    (by omega)
  simp only [show 0 < (runner.setSlot j (some proc)).activeCount by omega, and_true] at tells
  exact tells

/-- A message notifies each change between none and some procedures. -/
theorem feed_tells (runner : ProcedureRunner) (msg : ParsedMessage)
    (session : Option SessionCore) :
    Tells runner.activeCount (runner.feed msg session).runner.activeCount
      (runner.feed msg session).notified := by
  rw [feed]
  split
  case h_1 i proc found => exact store_tells (findActive_some found) _
  case h_2 =>
    split
    case h_1 i proc found => exact store_tells (findActive_some found) _
    case h_2 =>
      split
      case h_2 => exact .silent Iff.rfl
      case h_1 proc inserted i started created =>
        obtain ⟨proc', -, insertion⟩ := Option.bind_eq_some_iff.mp created
        obtain ⟨inserted', run, pair⟩ := Option.map_eq_some_iff.mp insertion
        obtain ⟨rfl, rfl⟩ := Prod.mk.inj pair
        obtain ⟨present, tells⟩ := insertSlot_tells run
        exact tells.trans (store_tells present _)

/-- Data notifies each change between none and some procedures. -/
theorem feedExternalTyped_tells (runner : ProcedureRunner) (type : ProcedureType)
    (session : Option SessionCore) (data : ExternalData) :
    Tells runner.activeCount (runner.feedExternalTyped type session data).runner.activeCount
      (runner.feedExternalTyped type session data).notified := by
  rw [feedExternalTyped]
  split
  case h_1 i proc found => exact store_tells (findActive_some found) _
  case h_2 => exact .silent Iff.rfl

theorem tickSlot_tells {was failed : Nat} {notified : List Bool}
    (tells : Tells was runner.activeCount notified) (delta : Int) (i : Nat) :
    Tells was (tickSlot delta (runner, failed, notified) i).1.activeCount
      (tickSlot delta (runner, failed, notified) i).2.2 := by
  simp only [tickSlot]
  split
  case h_2 => exact tells
  case h_1 proc present =>
    have count := activeCount_setSlot present (some (proc.tick delta).1)
    have cleanup := (runner.setSlot i (some (proc.tick delta).1)).cleanup_tells i
    rw [Nat.add_right_cancel count] at cleanup
    exact tells.trans cleanup

/-- A tick notifies each change between none and some procedures. -/
theorem tickAll_tells (runner : ProcedureRunner) (delta : Int) :
    Tells runner.activeCount (runner.tickAll delta).1.activeCount
      (runner.tickAll delta).2.2 := by
  have run : ∀ (slots : List Nat) (ticked : ProcedureRunner × Nat × List Bool),
      Tells runner.activeCount ticked.1.activeCount ticked.2.2 →
      Tells runner.activeCount (slots.foldl (tickSlot delta) ticked).1.activeCount
        (slots.foldl (tickSlot delta) ticked).2.2 := by
    intro slots
    induction slots with
    | nil => exact fun _ tells => tells
    | cons i slots ih => exact fun _ tells => ih _ (tickSlot_tells tells delta i)
  rw [tickAll]
  apply run
  exact .silent Iff.rfl

/-- A cancel notifies the end of the procedures. -/
theorem cancelAll_tells (runner : ProcedureRunner) :
    Tells runner.activeCount runner.cancelAll.1.activeCount runner.cancelAll.2 := by
  rw [cancelAll]
  have none : ({} : ProcedureRunner).activeCount = 0 := by decide
  simp only [none]
  have tells := @Tells.stopped runner.activeCount 0 (Nat.zero_le _)
  split
  case isTrue idle =>
    rw [idle] at tells ⊢
    exact tells
  case isFalse busy =>
    simp only [Nat.pos_of_ne_zero busy, and_self, if_true] at tells
    exact tells

end ProcedureRunner

end Stack

end Gsml3
