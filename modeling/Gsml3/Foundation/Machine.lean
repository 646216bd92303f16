import Mathlib

/-!
# Runs of deterministic machines

A machine steps a state on an event; a step that yields `none` is a call that
does not return.  `Run` collects the finite event sequences a machine can
execute when every transition has to satisfy a side condition, and
`Run.invariant` is the one induction every safety result over runs goes
through.
-/

namespace Foundation

/-- A deterministic machine with calls that may fail to return. -/
structure Machine (State Event : Type*) where
  step : State → Event → Option State

namespace Machine

/-- The machine of a system of calls: its events are the calls with the replies they
got. -/
def ofCalls {State Op Reply : Type*} [DecidableEq Reply]
    (exec : State → Op → Option (State × Reply)) : Machine State (Op × Reply) where
  step := fun state event =>
    (exec state event.1).bind fun result =>
      if result.2 = event.2 then some result.1 else none

theorem ofCalls_step {State Op Reply : Type*} [DecidableEq Reply]
    {exec : State → Op → Option (State × Reply)} {source target : State} {event : Op × Reply} :
    (ofCalls exec).step source event = some target ↔
      exec source event.1 = some (target, event.2) := by
  constructor
  · intro stepped
    obtain ⟨result, call, guarded⟩ := Option.bind_eq_some_iff.mp stepped
    by_cases same : result.2 = event.2
    · rw [if_pos same] at guarded
      rw [call, ← Option.some.inj guarded, ← same]
    · rw [if_neg same] at guarded
      cases guarded
  · intro call
    change (exec source event.1).bind _ = some target
    rw [call, Option.bind_some]
    exact if_pos rfl

variable {State Event : Type*}

/-- The event list `events` leads from `origin` to the indexed state through
transitions that all satisfy `allowed`. -/
inductive Run (machine : Machine State Event)
    (allowed : State → Event → State → Prop) (origin : State) :
    List Event → State → Prop where
  | origin : Run machine allowed origin [] origin
  | next {events : List Event} {source target : State} {event : Event} :
      Run machine allowed origin events source →
      machine.step source event = some target →
      allowed source event target →
      Run machine allowed origin (events ++ [event]) target

namespace Run

variable {machine : Machine State Event}
variable {allowed : State → Event → State → Prop} {origin state : State}
variable {events : List Event}

/-- A predicate on histories and states that holds at the origin and is kept by
every allowed step holds along every run. -/
theorem invariant (holds : List Event → State → Prop)
    (start : holds [] origin)
    (preserved : ∀ (past : List Event) (source target : State) (event : Event),
      holds past source → machine.step source event = some target →
      allowed source event target → holds (past ++ [event]) target)
    (run : machine.Run allowed origin events state) : holds events state := by
  induction run with
  | origin => exact start
  | next _ stepped permitted ih =>
      exact preserved _ _ _ _ ih stepped permitted

/-- Weakening the side condition keeps a run. -/
theorem mono {weaker : State → Event → State → Prop}
    (implied : ∀ source event target,
      allowed source event target → weaker source event target)
    (run : machine.Run allowed origin events state) :
    machine.Run weaker origin events state := by
  induction run with
  | origin => exact .origin
  | next _ stepped permitted ih =>
      exact .next ih stepped (implied _ _ _ permitted)

/-- The last step of a run. -/
theorem last {event : Event} (run : machine.Run allowed origin (events ++ [event]) state) :
    ∃ source, machine.Run allowed origin events source ∧
      machine.step source event = some state ∧ allowed source event state := by
  generalize whole : events ++ [event] = history at run
  cases run with
  | origin => exact absurd whole (by simp)
  | @next earlier source _ final run stepped permitted =>
      obtain ⟨rfl, same⟩ := List.append_inj' whole rfl
      obtain rfl := List.singleton_inj.mp same
      exact ⟨source, run, stepped, permitted⟩

/-- A machine is deterministic: runs through the same events lead to the same state. -/
theorem unique {weaker : State → Event → State → Prop} {other : State}
    (run : machine.Run allowed origin events state)
    (second : machine.Run weaker origin events other) : state = other := by
  induction run generalizing other with
  | origin =>
      generalize whole : [] = history at second
      cases second with
      | origin => rfl
      | next => exact absurd whole.symm (by simp)
  | next _ stepped _ ih =>
      obtain ⟨source, earlier, step, -⟩ := second.last
      obtain rfl := ih earlier
      exact Option.some.inj (stepped.symm.trans step)

/-- The events of a run lead through a state after each prefix. -/
theorem through {before after : List Event}
    (run : machine.Run allowed origin (before ++ after) state) :
    ∃ middle, machine.Run allowed origin before middle := by
  induction after using List.reverseRecOn generalizing state with
  | nil => exact ⟨state, by rwa [List.append_nil] at run⟩
  | append_singleton after event ih =>
      rw [← List.append_assoc] at run
      obtain ⟨source, earlier, -, -⟩ := run.last
      exact ih earlier

/-- A prefix of the events of a run leads through the same steps, to the only state it can
lead to. -/
theorem restrict {weaker : State → Event → State → Prop} {middle : State}
    {before after : List Event} (run : machine.Run allowed origin (before ++ after) state)
    (reached : machine.Run weaker origin before middle) :
    machine.Run allowed origin before middle := by
  obtain ⟨shorter, permitted⟩ := run.through
  rwa [reached.unique permitted]

/-- What holds in the middle of a run and is kept by the events after it holds at its end. -/
theorem stays {weaker : State → Event → State → Prop} {middle : State}
    {before after : List Event} (run : machine.Run allowed origin (before ++ after) state)
    (reached : machine.Run weaker origin before middle) (holds : State → Prop)
    (start : holds middle)
    (kept : ∀ event ∈ after, ∀ source target : State,
      holds source → machine.step source event = some target → holds target) :
    holds state := by
  induction after using List.reverseRecOn generalizing state with
  | nil =>
      rw [List.append_nil] at run
      rwa [run.unique reached]
  | append_singleton after event ih =>
      rw [← List.append_assoc] at run
      obtain ⟨source, earlier, stepped, -⟩ := run.last
      have before := ih earlier fun event member =>
        kept event (List.mem_append_left _ member)
      exact kept event (List.mem_append_right _ (List.mem_singleton_self event)) source state
        before stepped

end Run

/-- Execute a fixed event list, stopping at the first transition that is not
possible or not allowed. -/
def exec (machine : Machine State Event) (allowed : State → Event → State → Prop)
    [∀ source event target, Decidable (allowed source event target)] (state : State) :
    List Event → Option State
  | [] => some state
  | event :: events =>
      (machine.step state event).bind fun target =>
        if allowed state event target then machine.exec allowed target events else none

/-- An executed event list extends a run. -/
theorem Run.exec {machine : Machine State Event} {allowed : State → Event → State → Prop}
    [∀ source event target, Decidable (allowed source event target)]
    {origin source target : State} {past : List Event} (events : List Event)
    (run : machine.Run allowed origin past source)
    (executed : machine.exec allowed source events = some target) :
    machine.Run allowed origin (past ++ events) target := by
  induction events generalizing past source with
  | nil =>
      obtain rfl : source = target := by simpa [Machine.exec] using executed
      simpa using run
  | cons event events ih =>
      obtain ⟨middle, stepped, rest⟩ := Option.bind_eq_some_iff.mp executed
      split at rest
      case isTrue permitted =>
        have extended := ih (run.next stepped permitted) rest
        simpa using extended
      case isFalse => cases rest

end Machine

end Foundation
