import Gsml3.Foundation.Machine

/-!
# Machines with a record

A record is kept beside the state of a machine and written at every step, from what it was,
the state before, the event and the state after.  No step reads it, so a machine with a
record has the runs of the machine.
-/

namespace Foundation

namespace Machine

variable {State Event Record : Type*}

/-- The machine that keeps a record. -/
def recording (machine : Machine State Event)
    (update : Record → State → Event → State → Record) : Machine (State × Record) Event where
  step := fun source event =>
    (machine.step source.1 event).map fun target =>
      (target, update source.2 source.1 event target)

variable {machine : Machine State Event}
variable {update : Record → State → Event → State → Record}

theorem recording_step {source target : State × Record} {event : Event} :
    (machine.recording update).step source event = some target ↔
      machine.step source.1 event = some target.1 ∧
        target.2 = update source.2 source.1 event target.1 := by
  constructor
  · intro stepped
    obtain ⟨reached, step, rfl⟩ := Option.map_eq_some_iff.mp stepped
    exact ⟨step, rfl⟩
  · intro ⟨step, record⟩
    apply Option.map_eq_some_iff.mpr
    exact ⟨target.1, step, Prod.ext rfl record.symm⟩

namespace Run

variable {allowed : State → Event → State → Prop} {events : List Event}

/-- A run can be recorded. -/
theorem recorded {origin final : State} (run : machine.Run allowed origin events final)
    (record : Record) :
    ∃ written, (machine.recording update).Run
      (fun source event target => allowed source.1 event target.1)
      (origin, record) events (final, written) := by
  induction run with
  | origin => exact ⟨record, .origin⟩
  | @next _ source target event _ stepped permitted earlier =>
      obtain ⟨written, before⟩ := earlier
      refine ⟨update written source event target, ?_⟩
      apply before.next _ permitted
      exact recording_step.mpr ⟨stepped, rfl⟩

end Run

end Machine

end Foundation
