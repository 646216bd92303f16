import Gsml3.Foundation.History
import Gsml3.Stack.Procedure

/-!
# Events of a procedure

What reaches a procedure over its life: messages, data from outside and passing
time, in any order.  `EventDriven` is what a class of procedures does with each
of them; the runs of a class and the responses signalled on the way are the same
for all classes.
-/

namespace Gsml3

namespace Stack

inductive ProcedureEvent where
  | feed (msg : ParsedMessage) (session : Option SessionCore)
  | external (data : ExternalData) (session : Option SessionCore)
  | tick (delta : Int)
deriving DecidableEq, Repr

/-- A class of procedures, by the outcome of each event. -/
class EventDriven (P : Type) where
  react : P → ProcedureEvent → Fed P

/-- The response a step signals, if any. -/
def ProcedureStepResult.announced (result : ProcedureStepResult) : List ResponseToken :=
  if result.responseToken = .none then [] else [result.responseToken]

section Runs

variable {P : Type} [EventDriven P] {own : P} {events : List ProcedureEvent}

/-- The procedure after events. -/
def after (own : P) (events : List ProcedureEvent) : P :=
  events.foldl (fun own event => (EventDriven.react own event).proc) own

/-- The responses signalled during events, in order. -/
def signalled (own : P) : List ProcedureEvent → List ResponseToken
  | [] => []
  | event :: events =>
      let fed := EventDriven.react own event
      fed.result.announced ++ signalled fed.proc events

theorem after_cons (own : P) (event : ProcedureEvent) (events : List ProcedureEvent) :
    after own (event :: events) = after (EventDriven.react own event).proc events := rfl

theorem after_snoc (own : P) (events : List ProcedureEvent) (event : ProcedureEvent) :
    after own (events ++ [event]) = (EventDriven.react (after own events) event).proc := by
  rw [after, List.foldl_append]
  rfl

theorem signalled_snoc (own : P) (events : List ProcedureEvent) (event : ProcedureEvent) :
    signalled own (events ++ [event]) =
      signalled own events ++ (EventDriven.react (after own events) event).result.announced := by
  induction events generalizing own with
  | nil => exact List.append_nil _
  | cons first events ih =>
      rw [List.cons_append, signalled, signalled, ih, after_cons, List.append_assoc]

/-- What holds at the start and is kept by every event holds after all events. -/
theorem after_invariant (holds : List ProcedureEvent → P → Prop) (start : holds [] own)
    (kept : ∀ past event, holds past (after own past) →
      holds (past ++ [event]) (EventDriven.react (after own past) event).proc)
    (events : List ProcedureEvent) : holds events (after own events) := by
  induction events using List.reverseRecOn with
  | nil => exact start
  | append_singleton past event ih =>
      rw [after_snoc]
      exact kept past event ih

end Runs

end Stack

end Gsml3
