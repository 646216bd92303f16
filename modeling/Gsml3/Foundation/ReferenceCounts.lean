import Mathlib

/-!
# Reference counts

Cells that a list of owners refers to, and counts of these references: as numbers, and in words
of 32 bits, which wrap.
-/

namespace Foundation

theorem forall₂_change {α β : Type*} {R S : α → β → Prop} {xs : List α} {ys : List β}
    (related : List.Forall₂ R xs ys)
    (each : ∀ (j : Nat) a b, xs[j]? = some a → ys[j]? = some b → R a b → S a b) :
    List.Forall₂ S xs ys := by
  induction related with
  | nil => exact .nil
  | cons head _ ih =>
      refine .cons (each 0 _ _ rfl rfl head) ?_
      apply ih
      exact fun j a b read read' => each (j + 1) a b read read'

/-- Related lists stay related when an element changes, if the others do. -/
theorem forall₂_set {α β : Type*} {R S : α → β → Prop} {xs : List α} {ys : List β}
    (related : List.Forall₂ R xs ys) {i : Nat} {x : α} {y : β} (changed : S x y)
    (others : ∀ (j : Nat) a b, j ≠ i → xs[j]? = some a → ys[j]? = some b → R a b → S a b) :
    List.Forall₂ S (xs.set i x) (ys.set i y) := by
  induction related generalizing i with
  | nil => exact .nil
  | cons head tail ih =>
      cases i with
      | zero =>
          refine .cons changed (forall₂_change tail ?_)
          exact fun j a b read read' => others (j + 1) a b (Nat.succ_ne_zero j) read read'
      | succ i =>
          refine .cons (others 0 _ _ (Nat.succ_ne_zero i).symm rfl rfl head) ?_
          apply ih
          intro j a b other read read'
          exact others (j + 1) a b (fun same => other (Nat.succ.inj same)) read read'

theorem forall₂_read {α β : Type*} {R : α → β → Prop} {xs : List α} {ys : List β}
    (related : List.Forall₂ R xs ys) (i : Nat) : Option.Rel R xs[i]? ys[i]? := by
  induction related generalizing i with
  | nil => exact .none
  | cons head _ ih =>
      cases i with
      | zero => exact .some head
      | succ i => exact ih i

/-- `counts cell` is the number of references to the cell. -/
def Counted (counts : Nat → Nat) (refs : List (Option Nat)) : Prop :=
  ∀ cell, counts cell = refs.count (some cell)

theorem counted_self (refs : List (Option Nat)) : Counted (fun cell => refs.count (some cell)) refs :=
  fun _ => rfl

namespace Counted

variable {counts counts' : Nat → Nat} {refs : List (Option Nat)} {i j cell : Nat}

theorem push (counted : Counted counts refs) {ref : Option Nat}
    (changed : ∀ cell, counts' cell = counts cell + if ref = some cell then 1 else 0) :
    Counted counts' (refs ++ [ref]) := by
  intro cell
  rw [changed, counted, List.count_append, List.count_singleton]
  simp only [beq_iff_eq]

theorem set (counted : Counted counts refs) {old new : Option Nat} (read : refs[i]? = some old)
    (changed : ∀ cell, counts' cell =
      counts cell - (if old = some cell then 1 else 0) + if new = some cell then 1 else 0) :
    Counted counts' (refs.set i new) := by
  intro cell
  obtain ⟨inside, rfl⟩ := List.getElem?_eq_some_iff.mp read
  rw [changed, counted, List.count_set inside]
  simp only [beq_iff_eq]

/-- A cell with a reference has a positive count. -/
theorem positive (counted : Counted counts refs) (read : refs[i]? = some (some cell)) :
    0 < counts cell := by
  rw [counted]
  exact List.count_pos_iff.mpr (List.mem_of_getElem? read)

/-- References that move to a new owner are still counted. -/
theorem move (counted : Counted counts refs) {ref : Option Nat} (read : refs[i]? = some ref) :
    Counted counts (refs.set i none ++ [ref]) := by
  have cleared : Counted (fun cell => counts cell - if ref = some cell then 1 else 0)
      (refs.set i none) := by
    apply counted.set read
    intro cell
    rw [if_neg (Option.some_ne_none cell).symm, Nat.add_zero]
  apply cleared.push
  intro cell
  split
  case isTrue same =>
    subst same
    exact (Nat.sub_add_cancel (counted.positive read)).symm
  case isFalse => rfl

/-- References that move to an owner without any are still counted. -/
theorem transfer (counted : Counted counts refs) {ref : Option Nat} (other : j ≠ i)
    (read : refs[i]? = some ref) (free : refs[j]? = some none) :
    Counted counts ((refs.set j ref).set i none) := by
  have taken : Counted (fun cell => counts cell + if ref = some cell then 1 else 0)
      (refs.set j ref) := by
    apply counted.set free
    intro cell
    rw [if_neg (Option.some_ne_none cell).symm, Nat.sub_zero]
  apply taken.set (show (refs.set j ref)[i]? = some ref by rwa [List.getElem?_set_ne other])
  intro cell
  rw [if_neg (Option.some_ne_none cell).symm, Nat.add_zero, Nat.add_sub_cancel]

/-- The last owner's reference may be an earlier owner's. -/
theorem settle {ref : Option Nat} (counted : Counted counts (refs ++ [ref]))
    (free : refs[i]? = some none) : Counted counts (refs.set i ref) := by
  have before : Counted (refs.count ∘ some) refs := fun _ => rfl
  apply before.set free
  intro cell
  rw [counted, List.count_append, List.count_singleton, if_neg (Option.some_ne_none cell).symm,
    Nat.sub_zero]
  simp only [beq_iff_eq, Function.comp_apply]

theorem referenced (counted : Counted counts refs) (positive : 0 < counts cell) :
    ∃ i : Nat, refs[i]? = some (some cell) := by
  rw [counted] at positive
  exact List.getElem?_of_mem (List.count_pos_iff.mp positive)

/-- A count of one is that of a single reference. -/
theorem single (counted : Counted counts refs) (one : counts cell ≤ 1)
    (first : refs[i]? = some (some cell)) (second : refs[j]? = some (some cell)) : i = j := by
  by_contra other
  have rest : Counted (fun c => counts c - if some cell = some c then 1 else 0)
      (refs.set i none) := by
    apply counted.set first
    intro c
    rw [if_neg (Option.some_ne_none c).symm, Nat.add_zero]
  have still := @positive _ _ j cell rest (by rw [List.getElem?_set_ne other]; exact second)
  rw [if_pos rfl] at still
  omega

end Counted

/-- The count of a cell in a table that has changed at a cell. -/
theorem getD_modify (table : List Nat) (f : Nat → Nat) {cell : Nat} (inside : cell < table.length)
    (other : Nat) :
    (table.modify cell f).getD other 0 =
      if cell = other then f (table.getD other 0) else table.getD other 0 := by
  rw [List.getD_eq_getElem?_getD, List.getD_eq_getElem?_getD, List.getElem?_modify]
  split
  case isTrue same =>
    obtain rfl := same
    rw [List.getElem?_eq_getElem inside]
    rfl
  case isFalse => rw [Option.map_eq_map, Option.map_id']

theorem lt_of_getD_pos {table : List Nat} {cell : Nat} (positive : 0 < table.getD cell 0) :
    cell < table.length := by
  by_contra outside
  rw [List.getD_eq_default _ _ (not_lt.mp outside)] at positive
  exact lt_irrefl 0 positive

theorem getD_push (table : List Nat) (count other : Nat) :
    (table ++ [count]).getD other 0 =
      table.getD other 0 + if table.length = other then count else 0 := by
  rcases lt_trichotomy other table.length with inside | rfl | outside
  · rw [List.getD_append _ _ _ _ inside, if_neg (Nat.ne_of_gt inside), Nat.add_zero]
  · rw [List.getD_append_right _ _ _ _ le_rfl, Nat.sub_self, if_pos rfl,
      List.getD_eq_default table _ le_rfl, Nat.zero_add]
    rfl
  · rw [List.getD_eq_default _ _ (by rw [List.length_append]; exact outside),
      List.getD_eq_default _ _ outside.le, if_neg (Nat.ne_of_lt outside)]

/-! ## Counts in words -/

/-- The word of a count, which has its lowest 32 bits; a cell without references is gone. -/
def countWord (count : Nat) : Option UInt32 :=
  if count = 0 then none else some (UInt32.ofNat count)

/-- The table has the words of the counts of all cells. -/
def CountTable (table : List (Option UInt32)) (refs : List (Option Nat)) : Prop :=
  ∀ cell, table[cell]?.join = countWord (refs.count (some cell))

namespace CountTable

variable {table : List (Option UInt32)} {refs refs' : List (Option Nat)} {cell : Nat}
  {word : UInt32}

/-- A cell is left in the table as long as there is a reference to it. -/
theorem isSome_iff (counting : CountTable table refs) (cell : Nat) :
    table[cell]?.join.isSome ↔ 0 < refs.count (some cell) := by
  rw [counting cell, countWord, Nat.pos_iff_ne_zero]
  split
  case isTrue gone => simp [gone]
  case isFalse referenced => simp [referenced]

/-- A cell that is read has a positive count, of which the word has the lowest bits. -/
theorem read (counting : CountTable table refs) (found : table[cell]?.join = some word) :
    refs.count (some cell) ≠ 0 ∧ word = UInt32.ofNat (refs.count (some cell)) := by
  rw [counting cell, countWord] at found
  split at found
  case isTrue => cases found
  case isFalse referenced => exact ⟨referenced, (Option.some.inj found).symm⟩

/-- A cell with a reference is found in the table. -/
theorem found (counting : CountTable table refs) {i : Nat} (read : refs[i]? = some (some cell)) :
    ∃ word, table[cell]?.join = some word := by
  apply Option.isSome_iff_exists.mp
  rw [counting.isSome_iff]
  exact List.count_pos_iff.mpr (List.mem_of_getElem? read)

/-- The table stays if every cell keeps its number of references. -/
theorem keep (counting : CountTable table refs)
    (counted : Counted (fun cell => refs.count (some cell)) refs') : CountTable table refs' := by
  intro cell
  rw [counting cell]
  exact congrArg countWord (counted cell)

/-- A new cell has one reference. -/
theorem push (counting : CountTable table refs)
    (counted : Counted (fun cell => refs.count (some cell) +
      if table.length = cell then 1 else 0) refs') : CountTable (table ++ [some 1]) refs' := by
  intro cell
  rw [← counted cell]
  change _ = countWord (refs.count (some cell) + if table.length = cell then 1 else 0)
  by_cases new : table.length = cell
  · subst new
    have unused := counting table.length
    rw [List.getElem?_eq_none le_rfl, countWord] at unused
    split at unused
    case isTrue none_yet =>
      rw [List.getElem?_concat_length, if_pos rfl, none_yet]
      rfl
    case isFalse => cases unused
  · rw [if_neg new, Nat.add_zero, ← counting cell]
    by_cases inside : cell < table.length
    · rw [List.getElem?_append_left inside]
    · have beyond : table.length < cell := Nat.lt_of_le_of_ne (Nat.not_lt.mp inside) new
      rw [List.getElem?_eq_none (by rw [List.length_append]; exact beyond),
        List.getElem?_eq_none beyond.le]

/-- The word of the cell whose count changes is changed, and the others stay. -/
theorem set (counting : CountTable table refs) (found : table[cell]?.join = some word)
    {changed : Option UInt32} {counts : Nat → Nat} (counted : Counted counts refs')
    (here : changed = countWord (counts cell))
    (elsewhere : ∀ other, cell ≠ other → counts other = refs.count (some other)) :
    CountTable (table.set cell changed) refs' := by
  obtain ⟨inside, -⟩ := List.getElem?_eq_some_iff.mp (Option.join_eq_some_iff.mp found)
  intro other
  rw [← counted other]
  by_cases same : cell = other
  · subst same
    rw [List.getElem?_set_self inside, here]
    rfl
  · rw [List.getElem?_set_ne same, elsewhere other same]
    exact counting other

/-- One more reference may wrap the word around. -/
theorem acquire (counting : CountTable table refs) (found : table[cell]?.join = some word)
    (counted : Counted (fun other => refs.count (some other) + if cell = other then 1 else 0)
      refs') : CountTable (table.set cell (some (word + 1))) refs' := by
  obtain ⟨-, rfl⟩ := counting.read found
  refine counting.set found counted ?_ ?_
  · rw [if_pos rfl, countWord, if_neg (Nat.succ_ne_zero _), UInt32.ofNat_add]
    rfl
  · intro other different
    rw [if_neg different, Nat.add_zero]

/-- The last reference is told from the others as long as there are not more than the word has
values. -/
theorem release (counting : CountTable table refs) (found : table[cell]?.join = some word)
    (few : refs.count (some cell) ≤ 2 ^ 32)
    (counted : Counted (fun other => refs.count (some other) - if cell = other then 1 else 0)
      refs') : CountTable (table.set cell (if word = 1 then none else some (word - 1))) refs' := by
  obtain ⟨referenced, rfl⟩ := counting.read found
  refine counting.set found counted ?_ ?_
  · rw [if_pos rfl]
    obtain ⟨fewer, count⟩ := Nat.exists_eq_succ_of_ne_zero referenced
    have word_eq : UInt32.ofNat (fewer + 1) = UInt32.ofNat fewer + 1 := UInt32.ofNat_add fewer 1
    rw [count, Nat.succ_eq_add_one, Nat.add_sub_cancel, countWord]
    by_cases last : fewer = 0
    · rw [last]
      rfl
    · have several : UInt32.ofNat (fewer + 1) ≠ 1 := by
        intro one
        have reduced := congrArg UInt32.toNat one
        rw [UInt32.toNat_ofNat'] at reduced
        change (fewer + 1) % 2 ^ 32 = 1 at reduced
        omega
      rw [if_neg several, if_neg last, word_eq, UInt32.add_sub_cancel]
  · intro other different
    rw [if_neg different, Nat.sub_zero]

end CountTable

end Foundation
