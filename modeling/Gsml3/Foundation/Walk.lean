import Mathlib

/-!
# Walks without a counter

A loop that follows `next` from a start position and leaves as soon as a visit
yields a result.  The loop of the program has no counter; `walk` bounds the
number of visits, and `walk_none_of_cycle` says when the bound loses nothing: a
walk that completed a cycle without leaving never leaves.

`walk_rule` is the loop rule for such walks and `walk_isSome` the termination
rule.
-/

namespace Foundation

variable {Position Memory Result : Type*}

/-- Visit positions along `next` until a visit yields a result. -/
def walk (next : Position → Position) (visit : Memory → Position → Result ⊕ Memory) :
    Nat → Memory → Position → Option Result
  | 0, _, _ => none
  | fuel + 1, memory, position =>
      match visit memory position with
      | .inl result => some result
      | .inr memory => walk next visit fuel memory (next position)

variable {next : Position → Position} {visit : Memory → Position → Result ⊕ Memory}

/-- An assertion that holds initially and is kept by every visit that continues
describes the visit that leaves. -/
theorem walk_rule (invariant : Nat → Memory → Prop) {fuel : Nat} {memory : Memory}
    {start : Position} {result : Result}
    (initial : invariant 0 memory)
    (continues : ∀ step memory memory', invariant step memory →
      visit memory (next^[step] start) = .inr memory' → invariant (step + 1) memory')
    (walked : walk next visit fuel memory start = some result) :
    ∃ step < fuel, ∃ memory, invariant step memory ∧
      visit memory (next^[step] start) = .inl result := by
  induction fuel generalizing memory start invariant with
  | zero => cases walked
  | succ fuel ih =>
      rw [walk] at walked
      split at walked
      case h_1 found =>
        obtain rfl := Option.some.inj walked
        exact ⟨0, Nat.succ_pos fuel, memory, initial, found⟩
      case h_2 memory' seen =>
        obtain ⟨step, bound, final, holds, found⟩ :=
          ih (fun step => invariant (step + 1)) (continues 0 memory memory' initial seen)
            (fun step => continues (step + 1)) walked
        exact ⟨step + 1, Nat.succ_lt_succ bound, final, holds, found⟩

/-- A walk leaves at the latest at a position every visit of which leaves. -/
theorem walk_isSome {fuel step : Nat} {start : Position} (before : step < fuel)
    (leaves : ∀ memory, ∃ result, visit memory (next^[step] start) = .inl result)
    (memory : Memory) : (walk next visit fuel memory start).isSome := by
  induction fuel generalizing memory start step with
  | zero => exact absurd before (Nat.not_lt_zero step)
  | succ fuel ih =>
      rw [walk]
      split
      case h_1 => rfl
      case h_2 memory' seen =>
        cases step with
        | zero =>
            obtain ⟨result, found⟩ := leaves memory
            rw [Function.iterate_zero_apply, seen] at found
            cases found
        | succ step => exact ih (Nat.lt_of_succ_lt_succ before) leaves memory'

/-- A walk that has not left has only seen positions that continue, provided
the decision to leave does not depend on the memory. -/
private theorem isRight_of_walk_none
    (oblivious : ∀ memory memory' position,
      (visit memory position).isRight = (visit memory' position).isRight)
    {fuel step : Nat} {memory : Memory} {start : Position}
    (stuck : walk next visit fuel memory start = none) (before : step < fuel) :
    (visit memory (next^[step] start)).isRight = true := by
  by_contra left
  have leaves : ∀ other, ∃ result, visit other (next^[step] start) = .inl result := by
    intro other
    rw [oblivious memory other] at left
    cases found : visit other (next^[step] start) with
    | inl result => exact ⟨result, rfl⟩
    | inr memory' => rw [found] at left; exact absurd rfl left
  have some := walk_isSome before leaves memory
  rw [stuck] at some
  cases some

/-- A walk that completed a cycle without leaving never leaves. -/
theorem walk_none_of_cycle
    (oblivious : ∀ memory memory' position,
      (visit memory position).isRight = (visit memory' position).isRight)
    {period : Nat} {memory : Memory} {start : Position} (positive : 0 < period)
    (cycle : next^[period] start = start)
    (stuck : walk next visit period memory start = none) (fuel : Nat) :
    walk next visit fuel memory start = none := by
  cases walked : walk next visit fuel memory start with
  | none => rfl
  | some result =>
      obtain ⟨step, -, final, -, found⟩ :=
        walk_rule (fun _ _ => True) trivial (fun _ _ _ _ _ => trivial) walked
      have periodic : Function.IsPeriodicPt next period start := cycle
      rw [← periodic.iterate_mod_apply] at found
      have continued := isRight_of_walk_none oblivious stuck (Nat.mod_lt step positive)
      rw [oblivious memory final, found] at continued
      cases continued

end Foundation
