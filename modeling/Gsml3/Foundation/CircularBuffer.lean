import Mathlib

/-!
# Circular buffers

A buffer of fixed size used as a circle: `Holds` says that a run of values lies
in it from some position on, positions counted without end.  A run can grow at
its end while it does not fill the buffer, and shrink at its start at any time.
-/

namespace Foundation

variable {α : Type*}

/-- The values lie in the buffer from position `start` on. -/
def Holds (buf : List α) (start : Nat) (values : List α) : Prop :=
  ∀ i, i < values.length → buf[(start + i) % buf.length]? = values[i]?

namespace Holds

variable {buf values : List α} {start : Nat}

theorem nil (buf : List α) (start : Nat) : Holds buf start [] :=
  fun i inside => absurd inside (Nat.not_lt_zero i)

/-- The run without its first values. -/
theorem drop (holds : Holds buf start values) (n : Nat) :
    Holds buf (start + n) (values.drop n) := by
  intro i inside
  rw [List.length_drop] at inside
  rw [Nat.add_assoc, List.getElem?_drop]
  exact holds (n + i) (by omega)

/-- Distinct positions of a run that does not exceed the buffer are distinct
places. -/
theorem mod_ne {size i j : Nat} (start : Nat) (before : i < j) (bounded : j < size) :
    (start + i) % size ≠ (start + j) % size := by
  intro same
  have gap : (start + j - (start + i)) % size = 0 := Nat.sub_mod_eq_zero_of_mod_eq same.symm
  rw [Nat.add_sub_add_left, Nat.mod_eq_of_lt (by omega)] at gap
  omega

/-- A value stored behind the run extends it. -/
theorem set (holds : Holds buf start values) (room : values.length < buf.length) (value : α) :
    Holds (buf.set ((start + values.length) % buf.length) value) start (values ++ [value]) := by
  intro i inside
  rw [List.length_append, List.length_singleton] at inside
  rw [List.length_set]
  rcases Nat.lt_succ_iff_lt_or_eq.mp inside with earlier | rfl
  · rw [List.getElem?_set_ne (mod_ne start earlier room).symm, List.getElem?_append_left earlier]
    exact holds i earlier
  · rw [List.getElem?_set_self (Nat.mod_lt _ (by omega)), List.getElem?_append_right le_rfl,
      Nat.sub_self]
    rfl

end Holds

end Foundation
