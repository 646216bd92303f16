import Gsml3.Stack.Procedure

/-!
# Timer manager

The layer-3 timers of one subscriber, one slot per timer identifier.  Every
call lists the notifications its active-change observer receives.
-/

namespace Gsml3

namespace Stack

/-- Number of timer slots. -/
def maxTimers : Nat := 32

/-- The enumerator values of `L3TimerId`, which index the slots. -/
def L3TimerId.code : L3TimerId → Nat
  | .T3101 => 0
  | .T3102 => 1
  | .T3103 => 2
  | .T3106 => 3
  | .T3108 => 4
  | .T3109 => 5
  | .T3111 => 6
  | .T3112 => 7
  | .T3113 => 8
  | .T3310 => 9
  | .T3311 => 10
  | .T3312 => 11
  | .T3314 => 12
  | .T3315 => 13
  | .T3320 => 14
  | .T3321 => 15
  | .T3322 => 16
  | .T3334 => 17
  | .T3395 => 18
  | .unknown => 0xFF

/-- Default duration in milliseconds. -/
def l3TimerDefault : L3TimerId → Int
  | .T3103 | .T3310 => 5000
  | .T3109 | .T3311 => 30000
  | _ => 3000

/-- A timer: the span it is started with and what remains of it. -/
structure L3Timer where
  id : L3TimerId := .unknown
  expiry : Int := 0
  remaining : Int := 0
  running : Bool := false
deriving DecidableEq, Repr

namespace L3Timer

/-- Runs from the full span. -/
def start (timer : L3Timer) : L3Timer :=
  { timer with running := true, remaining := timer.expiry }

/-- Stops; what remains is kept. -/
def stop (timer : L3Timer) : L3Timer :=
  { timer with running := false }

/-- Advance the timer; the flag tells whether it expired. -/
def tick (timer : L3Timer) (delta : Int) : L3Timer × Bool :=
  if timer.running = false then (timer, false)
  else if timer.remaining ≤ delta then ({ timer with running := false, remaining := 0 }, true)
  else ({ timer with remaining := timer.remaining - delta }, false)

/-- A stopped timer with a new identifier and duration. -/
def reconfigure (id : L3TimerId) (expiry : Int) : L3Timer :=
  { id := id, expiry := expiry, remaining := expiry, running := false }

end L3Timer

/-- The place of one timer, which is empty until the first start. -/
structure TimerSlot where
  timer : L3Timer := {}
  initialized : Bool := false
deriving DecidableEq, Repr

/-- The slot holds a configured timer that is running. -/
def TimerSlot.active (slot : TimerSlot) : Bool :=
  slot.initialized && slot.timer.running

theorem vacant_length : (List.replicate maxTimers ({} : TimerSlot)).length = maxTimers := rfl

/-- One slot for each timer identifier. -/
structure TimerManager where
  slots : List TimerSlot := List.replicate maxTimers {}
  slots_length : slots.length = maxTimers := by exact vacant_length
deriving DecidableEq

namespace TimerManager

/-- The number of running timers. -/
def runningCount (timers : TimerManager) : Nat :=
  timers.slots.countP TimerSlot.active

/-- What the observer is told when the number of running timers changes. -/
def notifyStopped (before after : TimerManager) : List Bool :=
  if 0 < before.runningCount ∧ after.runningCount = 0 then [false] else []

/-- Start or restart a timer; the flag tells whether it was not running. -/
def start (timers : TimerManager) (id : L3TimerId) (expiry : Int) :
    TimerManager × Bool × List Bool :=
  if id.code < maxTimers then
    let firstStart := (timers.slots[id.code]?.map fun slot => !slot.timer.running).getD true
    let started : TimerManager :=
      ⟨timers.slots.set id.code ⟨(L3Timer.reconfigure id expiry).start, true⟩,
        by rw [List.length_set, timers.slots_length]⟩
    (started, firstStart,
      if timers.runningCount = 0 ∧ 0 < started.runningCount then [true] else [])
  else (timers, false, [])

/-- Stops one timer; a timer that was never started has nothing to stop. -/
def stop (timers : TimerManager) (id : L3TimerId) : TimerManager × List Bool :=
  match timers.slots[id.code]? with
  | some slot =>
      if slot.initialized then
        let stopped : TimerManager :=
          ⟨timers.slots.set id.code { slot with timer := slot.timer.stop },
            by rw [List.length_set, timers.slots_length]⟩
        (stopped, notifyStopped timers stopped)
      else (timers, [])
  | none => (timers, [])

/-- Stops every timer that was started. -/
def stopAll (timers : TimerManager) : TimerManager × List Bool :=
  let stopped : TimerManager :=
    ⟨timers.slots.map fun slot =>
        if slot.initialized then { slot with timer := slot.timer.stop } else slot,
      by rw [List.length_map, timers.slots_length]⟩
  (stopped, notifyStopped timers stopped)

/-- The loop of `tick`; `room` is what is left of the output span.  A timer whose
expiry cannot be reported is started again with one millisecond. -/
def tickSlots (delta : Int) : Nat → List TimerSlot → List TimerSlot × List L3TimerId
  | _, [] => ([], [])
  | room, slot :: slots =>
      if slot.active then
        let (timer, expired) := slot.timer.tick delta
        if expired then
          if 0 < room then
            let (ticked, out) := tickSlots delta (room - 1) slots
            ({ slot with timer := timer } :: ticked, timer.id :: out)
          else
            let (ticked, out) := tickSlots delta room slots
            ({ slot with timer := (L3Timer.reconfigure timer.id 1).start } :: ticked, out)
        else
          let (ticked, out) := tickSlots delta room slots
          ({ slot with timer := timer } :: ticked, out)
      else
        let (ticked, out) := tickSlots delta room slots
        (slot :: ticked, out)

theorem tickSlots_length (delta : Int) (room : Nat) (slots : List TimerSlot) :
    (tickSlots delta room slots).1.length = slots.length := by
  induction slots generalizing room with
  | nil => rfl
  | cons slot slots ih =>
      rw [tickSlots]
      split
      · simp only
        split
        · split
          · exact congrArg Nat.succ (ih (room - 1))
          · exact congrArg Nat.succ (ih room)
        · exact congrArg Nat.succ (ih room)
      · exact congrArg Nat.succ (ih room)

/-- Advance all timers and report the expired ones in a span of size `room`. -/
def tick (timers : TimerManager) (delta : Int) (room : Nat) :
    TimerManager × List L3TimerId × List Bool :=
  let ticked : TimerManager :=
    ⟨(tickSlots delta room timers.slots).1, by rw [tickSlots_length, timers.slots_length]⟩
  (ticked, (tickSlots delta room timers.slots).2, notifyStopped timers ticked)

end TimerManager

end Stack

end Gsml3
