import Mathlib

/-!
# Histories of events

What happened in a history: an event together with the events before it, and the
latest event that carries a value.
-/

namespace Foundation

namespace History

variable {Event Value : Type*} {history : List Event}

/-- At some event of the history, the events before it and the event satisfy `now`. -/
def Happened (now : List Event → Event → Prop) (history : List Event) : Prop :=
  ∃ (before : List Event) (event : Event) (later : List Event),
    history = before ++ event :: later ∧ now before event

theorem Happened.snoc {now : List Event → Event → Prop} (happened : Happened now history)
    (event : Event) : Happened now (history ++ [event]) := by
  obtain ⟨before, earlier, later, rfl, holds⟩ := happened
  exact ⟨before, earlier, later ++ [event], by rw [List.append_assoc, List.cons_append], holds⟩

theorem happened_now {now : List Event → Event → Prop} {event : Event} (holds : now history event) :
    Happened now (history ++ [event]) :=
  ⟨history, event, [], rfl, holds⟩

/-- The value of the latest event that carries one. -/
def latest (value : Event → Option Value) (history : List Event) : Option Value :=
  history.reverse.findSome? value

theorem latest_snoc (value : Event → Option Value) (history : List Event) (event : Event) :
    latest value (history ++ [event]) = (value event).or (latest value history) := by
  rw [latest, List.reverse_append, List.findSome?_append, List.reverse_singleton,
    List.findSome?_singleton]
  rfl

theorem latest_snoc_none {value : Event → Option Value} {event : Event}
    (silent : value event = none) : latest value (history ++ [event]) = latest value history := by
  rw [latest_snoc, silent, Option.none_or]

theorem latest_snoc_some {value : Event → Option Value} {event : Event} {carried : Value}
    (carries : value event = some carried) :
    latest value (history ++ [event]) = some carried := by
  rw [latest_snoc, carries, Option.some_or]

/-- An event of a longer history is its last one or one of the history before. -/
theorem snoc_eq_append_cons {last event : Event} {before later : List Event}
    (parts : history ++ [last] = before ++ event :: later) :
    (later = [] ∧ before = history ∧ event = last) ∨
      ∃ front, later = front ++ [last] ∧ history = before ++ event :: front := by
  rcases List.eq_nil_or_concat later with rfl | ⟨front, final, rfl⟩
  · obtain ⟨same, single⟩ := List.append_inj' parts rfl
    exact .inl ⟨rfl, same.symm, (List.singleton_inj.mp single).symm⟩
  · rw [List.concat_eq_append, ← List.cons_append, ← List.append_assoc] at parts
    obtain ⟨same, single⟩ := List.append_inj' parts rfl
    obtain rfl := List.singleton_inj.mp single
    exact .inr ⟨front, List.concat_eq_append .., same⟩

theorem happened_snoc {now : List Event → Event → Prop} {last : Event} :
    Happened now (history ++ [last]) ↔ Happened now history ∨ now history last := by
  constructor
  · rintro ⟨before, event, later, parts, holds⟩
    rcases snoc_eq_append_cons parts with ⟨-, rfl, rfl⟩ | ⟨front, -, rfl⟩
    · exact .inr holds
    · exact .inl ⟨before, event, front, rfl, holds⟩
  · rintro (happened | holds)
    · exact happened.snoc last
    · exact happened_now holds

theorem latest_eq_none {value : Event → Option Value} (silent : latest value history = none)
    {event : Event} (member : event ∈ history) : value event = none :=
  List.findSome?_eq_none_iff.mp silent event (List.mem_reverse.mpr member)

end History

end Foundation
