import Gsml3.Stack.Timers

/-!
# Ticks of a timer manager

A tick advances every running timer by the same amount.  A timer that expires is
reported once: at the tick, or at a later one if the report had no room for it and
the timer was started again for a millisecond.
-/

namespace Gsml3

namespace Stack

/-- The identifier of a slot. -/
def L3TimerId.ofCode (code : Nat) : L3TimerId :=
  [.T3101, .T3102, .T3103, .T3106, .T3108, .T3109, .T3111, .T3112, .T3113, .T3310, .T3311, .T3312,
    .T3314, .T3315, .T3320, .T3321, .T3322, .T3334, .T3395].getD code .unknown

theorem L3TimerId.ofCode_code (id : L3TimerId) : ofCode id.code = id := by
  cases id <;> rfl

theorem L3TimerId.code_inj {first second : L3TimerId} (same : first.code = second.code) :
    first = second := by
  rw [← first.ofCode_code, same, second.ofCode_code]

/-! ## Slots -/

/-- A tick as a slot sees it: whether the report was full, and how often the slot was
reported. -/
structure SlotTick where
  delta : Int
  full : Bool
  reports : Nat

namespace TimerSlot

/-- The slot after a tick. -/
def tick (slot : TimerSlot) (delta : Int) : TimerSlot :=
  if slot.active then { slot with timer := (slot.timer.tick delta).1 } else slot

/-- The timer of the slot expires at a tick. -/
def due (delta : Int) (slot : TimerSlot) : Bool :=
  slot.active && decide (slot.timer.remaining ≤ delta)

/-- A slot whose timer was started again for a millisecond. -/
def rearmed (id : L3TimerId) : TimerSlot :=
  ⟨(L3Timer.reconfigure id 1).start, true⟩

/-- What a tick of `delta` may do to a slot, by the number of reports about it.  A
timer that expires goes unreported only if the report was full. -/
inductive Advanced (delta : Int) (full : Prop) (before : TimerSlot) : TimerSlot → Nat → Prop where
  | idle : before.active = false → Advanced delta full before before 0
  | running : before.active = true → delta < before.timer.remaining →
      Advanced delta full before
        { before with timer.remaining := before.timer.remaining - delta } 0
  | reported : before.active = true → before.timer.remaining ≤ delta →
      Advanced delta full before
        { before with timer.running := false, timer.remaining := 0 } 1
  | deferred : before.active = true → before.timer.remaining ≤ delta → full →
      Advanced delta full before (rearmed before.timer.id) 0

/-- A timer counts when it was started and runs. -/
theorem active_iff (slot : TimerSlot) :
    slot.active = true ↔ slot.initialized = true ∧ slot.timer.running = true :=
  Bool.and_eq_true_iff

/-- A timer is due when it counts and its rest is within the tick. -/
theorem due_iff {delta : Int} {slot : TimerSlot} :
    slot.due delta = true ↔ slot.active = true ∧ slot.timer.remaining ≤ delta := by
  rw [due, Bool.and_eq_true_iff, decide_eq_true_iff]

/-- What a tick makes of a timer that counts. -/
theorem tick_timer {slot : TimerSlot} (active : slot.active = true) (delta : Int) :
    slot.timer.tick delta =
      if slot.timer.remaining ≤ delta then
        ({ slot.timer with running := false, remaining := 0 }, true)
      else ({ slot.timer with remaining := slot.timer.remaining - delta }, false) := by
  have running := ((active_iff slot).mp active).2
  rw [L3Timer.tick, if_neg (by rw [running]; nofun)]

theorem tick_id (slot : TimerSlot) (delta : Int) :
    (slot.tick delta).timer.id = slot.timer.id ∧
      (slot.tick delta).initialized = slot.initialized := by
  rw [tick]
  split
  case isFalse => exact ⟨rfl, rfl⟩
  case isTrue active =>
    rw [tick_timer active]
    split <;> exact ⟨rfl, rfl⟩

/-- A timer that runs either goes on running or is reported. -/
theorem Advanced.reports {delta : Int} {full : Prop} {before after : TimerSlot} {reports : Nat}
    (advanced : before.Advanced delta full after reports) :
    reports + after.active.toNat = before.active.toNat := by
  cases advanced with
  | idle => exact Nat.zero_add _
  | running => exact Nat.zero_add _
  | reported active =>
      have stopped : TimerSlot.active { before with timer.running := false, timer.remaining := 0 } =
          false := Bool.and_false _
      rw [stopped, active]
      rfl
  | deferred active =>
      rw [active]
      rfl

/-- A span that is fuller explains no less. -/
theorem Advanced.mono {delta : Int} {full fuller : Prop} {before after : TimerSlot} {reports : Nat}
    (advanced : before.Advanced delta full after reports) (implied : full → fuller) :
    before.Advanced delta fuller after reports := by
  cases advanced with
  | idle stopped => exact .idle stopped
  | running active runs => exact .running active runs
  | reported active expires => exact .reported active expires
  | deferred active expires was_full => exact .deferred active expires (implied was_full)

/-- A slot after ticks, each of which advanced it. -/
inductive Elapsed (start : TimerSlot) : List SlotTick → TimerSlot → Prop where
  | start : Elapsed start [] start
  | tick {past : List SlotTick} {before after : TimerSlot} {tick : SlotTick} :
      Elapsed start past before →
      before.Advanced tick.delta (tick.full = true) after tick.reports →
      Elapsed start (past ++ [tick]) after

/-- Over any number of ticks a running timer is reported once, unless it still
runs. -/
theorem Elapsed.reports {start after : TimerSlot} {ticks : List SlotTick}
    (elapsed : start.Elapsed ticks after) :
    (ticks.map SlotTick.reports).sum + after.active.toNat = start.active.toNat := by
  induction elapsed with
  | start => exact Nat.zero_add _
  | tick _ advanced ih =>
      have last := advanced.reports
      rw [List.map_append, List.sum_append, List.map_singleton, List.sum_singleton]
      omega

/-- The last tick of a sequence. -/
theorem Elapsed.last {start after : TimerSlot} {past : List SlotTick} {tick : SlotTick}
    (elapsed : start.Elapsed (past ++ [tick]) after) :
    ∃ before, start.Elapsed past before ∧
      before.Advanced tick.delta (tick.full = true) after tick.reports := by
  obtain ⟨ticks, same⟩ : ∃ ticks, ticks = past ++ [tick] := ⟨_, rfl⟩
  rw [← same] at elapsed
  cases elapsed with
  | start => exact absurd same.symm (by simp)
  | tick first advanced =>
      obtain ⟨rfl, last⟩ := List.append_inj' same rfl
      obtain rfl := (List.cons.inj last).1
      exact ⟨_, first, advanced⟩

theorem Elapsed.of_nil {start after : TimerSlot} (elapsed : start.Elapsed [] after) :
    after = start := by
  obtain ⟨ticks, same⟩ : ∃ ticks : List SlotTick, ticks = [] := ⟨_, rfl⟩
  rw [← same] at elapsed
  cases elapsed with
  | start => rfl
  | tick => exact absurd same (by simp)

/-- A timer that does not expire at a tick is advanced by it. -/
theorem Advanced.remaining {delta : Int} {full : Prop} {before after : TimerSlot} {reports : Nat}
    (advanced : before.Advanced delta full after reports) (active : before.active = true)
    (runs : delta < before.timer.remaining) :
    after.timer.remaining = before.timer.remaining - delta := by
  cases advanced with
  | idle stopped => exact absurd (active.symm.trans stopped) nofun
  | running => rfl
  | reported _ expires => omega
  | deferred _ expires => omega

end TimerSlot

/-! ## Calls -/

namespace TimerManager

variable {timers : TimerManager}

/-- A configured timer is in the slot of its identifier. -/
def Configured (timers : TimerManager) : Prop :=
  ∀ (i : Nat) (slot : TimerSlot), timers.slots[i]? = some slot → slot.initialized = true →
    slot.timer.id.code = i

theorem configured_empty : ({} : TimerManager).Configured := by
  intro i slot held configured
  obtain ⟨inside, rfl⟩ := List.getElem?_eq_some_iff.mp held
  rw [List.getElem_replicate] at configured
  cases configured

/-- A slot that holds its own timer keeps the slots configured. -/
theorem Configured.set (configured : timers.Configured) {target : TimerManager} {j : Nat}
    {slot : TimerSlot} (slots : target.slots = timers.slots.set j slot)
    (own : slot.initialized = true → slot.timer.id.code = j) : target.Configured := by
  intro i other held initialized
  rw [slots, List.getElem?_set] at held
  split at held
  case isTrue same =>
    split at held
    case isTrue =>
      obtain rfl := Option.some.inj held
      rw [own initialized, same]
    case isFalse => cases held
  case isFalse => exact configured i other held initialized

/-- A start fills the slot of the timer. -/
theorem start_slots {id : L3TimerId} (inside : id.code < maxTimers) (expiry : Int) :
    (timers.start id expiry).1.slots =
      timers.slots.set id.code ⟨(L3Timer.reconfigure id expiry).start, true⟩ := by
  rw [start, if_pos inside]

/-- An identifier without a slot starts nothing. -/
theorem start_unknown {id : L3TimerId} (outside : ¬ id.code < maxTimers) (expiry : Int) :
    (timers.start id expiry).1 = timers := by
  rw [start, if_neg outside]

theorem Configured.start (configured : timers.Configured) (id : L3TimerId) (expiry : Int) :
    (timers.start id expiry).1.Configured := by
  by_cases inside : id.code < maxTimers
  · exact configured.set (start_slots inside expiry) fun _ => rfl
  · rw [start_unknown inside]
    exact configured

theorem Configured.stop (configured : timers.Configured) (id : L3TimerId) :
    (timers.stop id).1.Configured := by
  rw [TimerManager.stop]
  split
  case h_2 => exact configured
  case h_1 slot held =>
    split
    case isTrue => exact configured.set rfl (configured id.code slot held)
    case isFalse => exact configured

/-- A call that keeps the identifiers of the slots. -/
theorem Configured.map (configured : timers.Configured) {target : TimerManager}
    {change : TimerSlot → TimerSlot} (slots : target.slots = timers.slots.map change)
    (ids : ∀ slot, (change slot).timer.id = slot.timer.id ∧
      (change slot).initialized = slot.initialized) : target.Configured := by
  intro i slot held initialized
  rw [slots, List.getElem?_map] at held
  obtain ⟨old, found, rfl⟩ := Option.map_eq_some_iff.mp held
  rw [(ids old).1]
  exact configured i old found ((ids old).2 ▸ initialized)

theorem Configured.stopAll (configured : timers.Configured) : timers.stopAll.1.Configured := by
  refine configured.map rfl fun slot => ?_
  split <;> exact ⟨rfl, rfl⟩

/-- With room for all expiries every slot is ticked, and the expired timers are
reported in the order of the slots. -/
theorem tickSlots_eq (delta : Int) {room : Nat} {slots : List TimerSlot}
    (enough : slots.length ≤ room) :
    tickSlots delta room slots =
      (slots.map (·.tick delta), (slots.filter (·.due delta)).map (·.timer.id)) := by
  induction slots generalizing room with
  | nil => rfl
  | cons slot slots ih =>
      rw [List.length_cons] at enough
      rw [tickSlots, List.map_cons]
      by_cases active : slot.active = true
      · rw [if_pos active, TimerSlot.tick, if_pos active, TimerSlot.tick_timer active]
        by_cases expires : slot.timer.remaining ≤ delta
        · rw [List.filter_cons_of_pos (TimerSlot.due_iff.mpr ⟨active, expires⟩), ih (by omega)]
          simp only [if_pos expires, if_true, if_pos (show 0 < room by omega), List.map_cons]
        · rw [List.filter_cons_of_neg fun due => expires (TimerSlot.due_iff.mp due).2,
            @ih room (by omega)]
          simp only [if_neg expires, Bool.false_eq_true, if_false]
      · rw [if_neg active, TimerSlot.tick, if_neg active, ih (by omega),
          List.filter_cons_of_neg fun due => active (TimerSlot.due_iff.mp due).1]

/-- The timers that expire at a tick. -/
def expiring (timers : TimerManager) (delta : Int) : List L3TimerId :=
  (timers.slots.filter (·.due delta)).map (·.timer.id)

/-- With room for all, every slot is ticked and every due timer reported. -/
theorem tick_eq (timers : TimerManager) (delta : Int) :
    (timers.tick delta maxTimers).1.slots = timers.slots.map (·.tick delta) ∧
      (timers.tick delta maxTimers).2.1 = timers.expiring delta := by
  have slots := @tickSlots_eq delta maxTimers timers.slots timers.slots_length.le
  exact ⟨congrArg Prod.fst slots, congrArg Prod.snd slots⟩

theorem Configured.tick (configured : timers.Configured) (delta : Int) :
    (timers.tick delta maxTimers).1.Configured :=
  configured.map (timers.tick_eq delta).1 fun slot => slot.tick_id delta

/-! ## Expiries -/

/-- A slot is reported by its identifier. -/
theorem Configured.mem_expiring (configured : timers.Configured) {delta : Int} {id : L3TimerId} :
    id ∈ timers.expiring delta ↔
      ∃ slot, timers.slots[id.code]? = some slot ∧ slot.due delta = true ∧ slot.timer.id = id := by
  rw [expiring, List.mem_map]
  constructor
  · rintro ⟨slot, member, rfl⟩
    obtain ⟨member, due⟩ := List.mem_filter.mp member
    obtain ⟨i, held⟩ := List.mem_iff_getElem?.mp member
    have initialized := ((TimerSlot.active_iff slot).mp (TimerSlot.due_iff.mp due).1).1
    have code := configured i slot held initialized
    exact ⟨slot, code ▸ held, due, rfl⟩
  · rintro ⟨slot, held, due, same⟩
    exact ⟨slot, List.mem_filter.mpr ⟨List.mem_of_getElem? held, due⟩, same⟩

/-- No timer is reported twice. -/
theorem Configured.expiring_nodup (configured : timers.Configured) (delta : Int) :
    (timers.expiring delta).Nodup := by
  refine List.pairwise_map.mpr (List.pairwise_filter.mpr ?_)
  refine List.pairwise_iff_getElem.mpr fun i j inside inside' before due due' same => ?_
  have own : ∀ {k : Nat} (inside : k < timers.slots.length),
      timers.slots[k].due delta = true → timers.slots[k].timer.id.code = k := by
    intro k inside due
    have initialized := ((TimerSlot.active_iff _).mp (TimerSlot.due_iff.mp due).1).1
    exact configured k _ (List.getElem?_eq_getElem inside) initialized
  have code := own inside due
  rw [same, own inside' due'] at code
  omega

/-- Start timers again whose expiry could not be reported. -/
def rearm (timers : TimerManager) (ids : List L3TimerId) : TimerManager :=
  ids.foldl (fun timers id => (timers.start id 1).1) timers

theorem Configured.rearm (configured : timers.Configured) (ids : List L3TimerId) :
    (timers.rearm ids).Configured := by
  induction ids generalizing timers with
  | nil => exact configured
  | cons id ids ih => exact ih (configured.start id 1)

/-- A timer that is not rearmed stays as it is. -/
theorem rearm_of_not_mem {ids : List L3TimerId} {i : Nat} (absent : ∀ id ∈ ids, id.code ≠ i) :
    (timers.rearm ids).slots[i]? = timers.slots[i]? := by
  induction ids generalizing timers with
  | nil => rfl
  | cons id ids ih =>
      refine (ih fun other member => absent other (List.mem_cons_of_mem _ member)).trans ?_
      change (timers.start id 1).1.slots[i]? = _
      by_cases inside : id.code < maxTimers
      · rw [start_slots inside, List.getElem?_set_ne (absent id (List.mem_cons_self ..))]
      · rw [start_unknown inside]

/-- A timer that is rearmed starts anew. -/
theorem rearm_of_mem {ids : List L3TimerId} {id : L3TimerId} (member : id ∈ ids)
    (inside : id.code < maxTimers) :
    (timers.rearm ids).slots[id.code]? = some (.rearmed id) := by
  induction ids generalizing timers with
  | nil => cases member
  | cons first ids ih =>
      by_cases later : id ∈ ids
      · exact ih later
      · obtain rfl : id = first := (List.mem_cons.mp member).resolve_right later
        change ((timers.start id 1).1.rearm ids).slots[id.code]? = _
        refine (rearm_of_not_mem fun other member same => later ?_).trans ?_
        · rw [← L3TimerId.code_inj same]
          exact member
        · rw [start_slots inside, List.getElem?_set_self (by rw [timers.slots_length]; exact inside)]
          rfl

/-- The timers after a tick, when `room` of the expiries could be reported. -/
def ticked (timers : TimerManager) (delta : Int) (room : Nat) : TimerManager :=
  (timers.tick delta maxTimers).1.rearm ((timers.expiring delta).drop room)

/-- The reports of a tick about one slot. -/
def reportsOn (i : Nat) (reports : List L3TimerId) : Nat :=
  reports.countP fun id => id.code = i

theorem Configured.ticked (configured : timers.Configured) (delta : Int) (room : Nat) :
    (timers.ticked delta room).Configured :=
  (configured.tick delta).rearm _

/-- A tick advances every slot. -/
theorem Configured.advanced (configured : timers.Configured) {i : Nat} {slot : TimerSlot}
    (held : timers.slots[i]? = some slot) (delta : Int) (room : Nat) :
    ∃ after, (timers.ticked delta room).slots[i]? = some after ∧
      slot.Advanced delta (room < (timers.expiring delta).length) after
        (reportsOn i ((timers.expiring delta).take room)) := by
  obtain ⟨slots, -⟩ := timers.tick_eq delta
  have held_ticked : (timers.tick delta maxTimers).1.slots[i]? = some (slot.tick delta) := by
    rw [slots, List.getElem?_map, held, Option.map_some]
  have split_eq := List.take_append_drop room (timers.expiring delta)
  by_cases due : slot.due delta = true
  · obtain ⟨active, expires⟩ := TimerSlot.due_iff.mp due
    have code := configured i slot held ((TimerSlot.active_iff slot).mp active).1
    have inside : slot.timer.id.code < maxTimers := by
      rw [code, ← timers.slots_length]
      exact (List.getElem?_eq_some_iff.mp held).1
    have nodup := configured.expiring_nodup delta
    rw [← split_eq] at nodup
    obtain ⟨nodup, -, disjoint⟩ := List.nodup_append.mp nodup
    have count : ∀ reports : List L3TimerId,
        reportsOn i reports = reports.count slot.timer.id := by
      intro reports
      refine List.countP_congr fun id _ => ?_
      rw [decide_eq_true_iff, beq_iff_eq]
      exact ⟨fun same => L3TimerId.code_inj (same.trans code.symm), fun same => same ▸ code⟩
    by_cases reported : slot.timer.id ∈ (timers.expiring delta).take room
    · refine ⟨slot.tick delta, ?_, ?_⟩
      · refine (rearm_of_not_mem fun id member same => ?_).trans held_ticked
        exact disjoint _ reported _ member (L3TimerId.code_inj (code.trans same.symm))
      · rw [count, List.count_eq_one_of_mem nodup reported, TimerSlot.tick, if_pos active,
          TimerSlot.tick_timer active, if_pos expires]
        exact .reported active expires
    · have deferred : slot.timer.id ∈ (timers.expiring delta).drop room := by
        have member := configured.mem_expiring.mpr ⟨slot, code ▸ held, due, rfl⟩
        rw [← split_eq] at member
        exact (List.mem_append.mp member).resolve_left reported
      refine ⟨.rearmed slot.timer.id, ?_, ?_⟩
      · rw [← code]
        exact rearm_of_mem deferred inside
      · rw [count, List.count_eq_zero_of_not_mem reported]
        refine .deferred active expires ?_
        have some_left := List.length_pos_of_mem deferred
        rw [List.length_drop] at some_left
        omega
  · -- a slot that does not expire is not in the report
    have absent : ∀ id ∈ timers.expiring delta, id.code ≠ i := by
      rintro id member rfl
      obtain ⟨other, held', due', -⟩ := configured.mem_expiring.mp member
      obtain rfl := Option.some.inj (held.symm.trans held')
      exact due due'
    have none : reportsOn i ((timers.expiring delta).take room) = 0 :=
      List.countP_eq_zero.mpr fun id member =>
        decide_eq_true_iff.not.mpr (absent id (List.mem_of_mem_take member))
    refine ⟨slot.tick delta, (rearm_of_not_mem fun id member => absent id
      (List.mem_of_mem_drop member)).trans held_ticked, ?_⟩
    rw [none, TimerSlot.tick]
    by_cases active : slot.active = true
    · have runs := not_le.mp fun expires => due (TimerSlot.due_iff.mpr ⟨active, expires⟩)
      rw [if_pos active, TimerSlot.tick_timer active, if_neg (not_le.mpr runs)]
      exact .running active runs
    · rw [if_neg active]
      exact .idle (Bool.eq_false_iff.mpr active)

end TimerManager

end Stack

end Gsml3
