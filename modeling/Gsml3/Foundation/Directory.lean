import Mathlib

/-!
# Directories

A directory names values: a key leads to a handle and the value stored under
it.  Insertion binds a key to a handle of the caller's choice and removal names
the handle, so a directory stays usable only while no two keys share one;
`Separated` says so.
-/

namespace Foundation

/-- A partial map from keys to handles with their values. -/
def Directory (Key Value : Type*) := Key → Option (Nat × Value)

namespace Directory

variable {Key Value : Type*}

/-- The directory without keys. -/
def empty : Directory Key Value := fun _ => none

/-- Bind a key to a handle. -/
def insert [DecidableEq Key] (directory : Directory Key Value) (key : Key) (handle : Nat)
    (value : Value) : Directory Key Value :=
  fun other => if other = key then some (handle, value) else directory other

/-- Forget whatever is bound to a handle. -/
def removeAt (directory : Directory Key Value) (handle : Nat) : Directory Key Value :=
  fun key => (directory key).filter fun binding => binding.1 ≠ handle

/-- Change the value stored under a handle. -/
def modifyAt (directory : Directory Key Value) (handle : Nat) (change : Value → Value) :
    Directory Key Value :=
  fun key => (directory key).map fun binding =>
    (binding.1, if binding.1 = handle then change binding.2 else binding.2)

/-- What a key leads to, without the handle. -/
def value (directory : Directory Key Value) (key : Key) : Option Value :=
  (directory key).map Prod.snd

/-- The keys that are bound. -/
def keys (directory : Directory Key Value) : Set Key :=
  {key | directory key ≠ none}

/-- The handle is not bound to any key. -/
def Unused (directory : Directory Key Value) (handle : Nat) : Prop :=
  ∀ key value, directory key ≠ some (handle, value)

/-- No two keys share a handle. -/
def Separated (directory : Directory Key Value) : Prop :=
  ∀ key key' handle value value',
    directory key = some (handle, value) → directory key' = some (handle, value') → key = key'

theorem removeAt_eq_some {directory : Directory Key Value} {removed handle : Nat} {key : Key}
    {value : Value} :
    directory.removeAt removed key = some (handle, value) ↔
      directory key = some (handle, value) ∧ handle ≠ removed := by
  rw [removeAt, Option.filter_eq_some_iff]
  simp

theorem modifyAt_eq_some {directory : Directory Key Value} {changed handle : Nat}
    {change : Value → Value} {key : Key} {value : Value} :
    directory.modifyAt changed change key = some (handle, value) ↔
      ∃ old, directory key = some (handle, old) ∧
        value = if handle = changed then change old else old := by
  rw [modifyAt, Option.map_eq_some_iff]
  constructor
  · rintro ⟨⟨handle', old⟩, bound, pair⟩
    obtain ⟨rfl, rfl⟩ := Prod.mk.inj pair
    exact ⟨old, bound, rfl⟩
  · rintro ⟨old, bound, rfl⟩
    exact ⟨_, bound, rfl⟩

/-- A change keeps the keys. -/
theorem keys_modifyAt (directory : Directory Key Value) (handle : Nat)
    (change : Value → Value) : (directory.modifyAt handle change).keys = directory.keys := by
  ext key
  simp [keys, modifyAt]

@[simp] theorem keys_empty : (empty : Directory Key Value).keys = ∅ := by
  ext key
  simp [keys, empty]

/-- The binding of another key has another handle. -/
theorem Separated.handle_ne {directory : Directory Key Value} {key other : Key} {handle : Nat}
    {value : Value} (separated : directory.Separated)
    (bound : directory key = some (handle, value)) (apart : other ≠ key)
    {binding : Nat × Value} (other_bound : directory other = some binding) :
    binding.1 ≠ handle := by
  rintro rfl
  exact apart (separated other key _ _ _ other_bound bound)

/-- Insertion adds its key. -/
theorem keys_insert [DecidableEq Key] (directory : Directory Key Value) (key : Key)
    (handle : Nat) (value : Value) :
    (directory.insert key handle value).keys = Insert.insert key directory.keys := by
  ext other
  by_cases same : other = key
  · simp [keys, insert, same]
  · simp [keys, insert, same]

/-- Removing a handle removes the one key bound to it. -/
theorem keys_removeAt {directory : Directory Key Value} (separated : directory.Separated)
    {key : Key} {handle : Nat} {value : Value} (bound : directory key = some (handle, value)) :
    (directory.removeAt handle).keys = directory.keys \ {key} := by
  ext other
  simp only [keys, Set.mem_ofPred_eq, Set.mem_sdiff, Set.mem_singleton_iff, removeAt]
  cases found : directory other with
  | none => simp
  | some binding =>
      obtain ⟨handle', value'⟩ := binding
      by_cases same : other = key
      · subst same
        obtain ⟨rfl, rfl⟩ : handle = handle' ∧ value = value' := by
          simpa using bound.symm.trans found
        simp
      · have apart : handle' ≠ handle := by
          rintro rfl
          exact same (separated other key handle' value' value found bound)
        simp [same, apart]

/-! ## Values -/

theorem value_eq_none {directory : Directory Key Value} {key : Key} :
    directory.value key = none ↔ directory key = none :=
  Option.map_eq_none_iff

section Updates

variable [DecidableEq Key] {directory : Directory Key Value} {key : Key} {handle : Nat}

theorem value_insert (directory : Directory Key Value) (key : Key) (handle : Nat)
    (value : Value) :
    (directory.insert key handle value).value =
      Function.update directory.value key (some value) := by
  funext other
  rw [Function.update_apply, Directory.value, insert]
  split
  · rfl
  · rfl

theorem value_unbound (unbound : directory key = none) :
    Function.update directory.value key none = directory.value := by
  rw [← value_eq_none.mpr unbound, Function.update_eq_self]

variable {value : Value}

theorem value_removeAt (separated : directory.Separated)
    (bound : directory key = some (handle, value)) :
    (directory.removeAt handle).value = Function.update directory.value key none := by
  funext other
  rw [Function.update_apply, Directory.value, removeAt]
  split
  case isTrue same => simp [same, bound]
  case isFalse apart =>
    rw [Directory.value]
    cases other_bound : directory other with
    | none => rfl
    | some binding =>
        have distinct := separated.handle_ne bound apart other_bound
        rw [Option.filter_some_pos]
        exact decide_eq_true distinct

theorem value_modifyAt (separated : directory.Separated)
    (bound : directory key = some (handle, value)) (change : Value → Value) :
    (directory.modifyAt handle change).value =
      Function.update directory.value key (some (change value)) := by
  funext other
  rw [Function.update_apply, Directory.value, modifyAt]
  split
  case isTrue same => simp [same, bound]
  case isFalse apart =>
    rw [Directory.value]
    cases other_bound : directory other with
    | none => rfl
    | some binding => simp [separated.handle_ne bound apart other_bound]

end Updates

/-! ## Tables of entries -/

/-- The directory leads back to a table: it binds the keys that are entered there. -/
def Lists (directory : Directory Key Value) (entries : Nat → Option (Key × Value)) : Prop :=
  ∀ key handle value,
    directory key = some (handle, value) ↔ entries handle = some (key, value)

section Lists

variable {directory : Directory Key Value} {entries : Nat → Option (Key × Value)}
variable {key : Key} {handle : Nat}

theorem lists_empty : (empty : Directory Key Value).Lists fun _ => none := by
  intro key handle value
  exact iff_of_false (Option.some_ne_none _).symm (Option.some_ne_none _).symm

theorem Lists.separated (lists : directory.Lists entries) : directory.Separated := by
  intro first second handle value value' bound bound'
  have entered := (lists first handle value).mp bound
  have entered' := (lists second handle value').mp bound'
  exact (Prod.mk.inj (Option.some.inj (entered.symm.trans entered'))).1

theorem Lists.unused (lists : directory.Lists entries) (vacant : entries handle = none) :
    directory.Unused handle := by
  intro key value bound
  have entered := (lists key handle value).mp bound
  exact Option.some_ne_none _ (entered.symm.trans vacant)

/-- A key that is not bound is entered at a vacant handle. -/
theorem Lists.insert [DecidableEq Key] (lists : directory.Lists entries)
    (vacant : entries handle = none) (unbound : directory key = none) (value : Value) :
    (directory.insert key handle value).Lists
      (Function.update entries handle (some (key, value))) := by
  intro other place stored
  rw [Directory.insert, Function.update_apply]
  by_cases own : place = handle
  · rw [if_pos own, own]
    split
    case isTrue same => simp [same]
    case isFalse apart =>
      refine iff_of_false (lists.unused vacant other stored) fun entered => ?_
      exact apart (Prod.mk.inj (Option.some.inj entered)).1.symm
  · rw [if_neg own]
    split
    case isTrue same =>
      refine iff_of_false (fun bound => ?_) fun entered => ?_
      · exact own (Prod.mk.inj (Option.some.inj bound)).1.symm
      · rw [← lists, same, unbound] at entered
        cases entered
    case isFalse => exact lists other place stored

theorem Lists.removeAt (lists : directory.Lists entries) (handle : Nat) :
    (directory.removeAt handle).Lists (Function.update entries handle none) := by
  intro key place value
  rw [removeAt_eq_some, Function.update_apply]
  by_cases own : place = handle
  · rw [if_pos own]
    exact iff_of_false (fun bound => bound.2 own) (Option.some_ne_none _).symm
  · rw [if_neg own, lists]
    exact and_iff_left own

/-- Nothing is forgotten with a handle that is not bound. -/
theorem removeAt_unused (unused : directory.Unused handle) :
    directory.removeAt handle = directory := by
  funext key
  rw [Directory.removeAt]
  cases bound : directory key with
  | none => rfl
  | some binding =>
      apply Option.filter_some_pos
      exact decide_eq_true fun same => unused key binding.2 (by rw [← same, bound])

end Lists

end Directory

end Foundation
