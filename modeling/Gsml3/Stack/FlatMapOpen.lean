import Gsml3.Stack.FlatMapEntries
import Gsml3.Stack.FlatMapTermination

/-!
# Open tables

A probe loop for an absent key stops at an empty slot only.  So `find` misses a key, and `emplace`
inserts one, exactly in tables that are not created yet or hold an empty slot.
-/

namespace Gsml3

namespace Stack

namespace FlatMap

variable {Key Value : Type*} {hash : Key → UInt64} {map : FlatMap Key Value}

/-- The table is not created yet or holds an empty slot. -/
def Open (map : FlatMap Key Value) : Prop :=
  map.slots = [] ∨ kEmpty ∈ map.slots

instance (map : FlatMap Key Value) : Decidable (Open map) :=
  inferInstanceAs (Decidable (_ ∨ _))

theorem Open.exists_empty (room : Open map) (nonempty : map.slots ≠ []) :
    ∃ i < map.slots.length, map.slots.getD i kEmpty = kEmpty := by
  obtain ⟨i, inside, found⟩ := List.getElem_of_mem (room.resolve_left nonempty)
  exact ⟨i, inside, by rw [List.getD_eq_getElem _ _ inside, found]⟩

theorem Valid.find_isSome [DecidableEq Key] (valid : Valid hash map) (room : Open map)
    (key : Key) : (find hash map key).isSome :=
  valid.toSound.find_isSome room.exists_empty key

/-- A key that was not found was looked for in an open table. -/
theorem Valid.open_of_missed [DecidableEq Key] (valid : Valid hash map) {key : Key}
    (missed : find hash map key = some none) : Open map := by
  by_cases empty : map.slots = []
  · exact .inl empty
  · rw [find, if_neg empty] at missed
    obtain ⟨step, -, ⟨⟩, -, stop⟩ := Foundation.walk_rule (fun _ _ => True) trivial
      (fun _ _ _ _ _ => trivial) missed
    rw [valid.toSound.positions empty key] at stop
    rcases Sound.findVisit_cases stop with ⟨-, vacant⟩ | ⟨idx, value, found, -⟩
    · have inside := Nat.mod_lt (home hash key (map.slots.length - 1) + step)
        (List.length_pos_iff.mpr empty)
      rw [List.getD_eq_getElem _ _ inside] at vacant
      refine .inr ?_
      rw [← vacant]
      exact List.getElem_mem inside
    · cases found

/-! ## Growth -/

/-- Placing entries ends in a table with enough empty slots. -/
theorem rehashEntries_isSome {rest : List (Entry Key Value)} {idx k : Nat} {slots : List UInt32}
    (power : slots.length = 2 ^ k) (room : liveCount rest ≤ slots.count kEmpty) :
    (rehashEntries hash rest idx slots).isSome := by
  induction rest generalizing idx slots with
  | nil => rfl
  | cons entry rest ih =>
      rw [rehashEntries]
      rw [liveCount, List.countP_cons, ← liveCount] at room
      cases dead : entry.value with
      | none =>
          rw [if_pos Option.isNone_none, Option.isSome_map]
          exact ih power (Nat.le_of_add_right_le room)
      | some value =>
          rw [dead] at room
          have some_left : liveCount rest + 1 ≤ slots.count kEmpty := room
          obtain ⟨vacant, vacant_lt, empty⟩ := List.getElem_of_mem
            (List.count_pos_iff.mp (Nat.lt_of_lt_of_le (Nat.succ_pos _) some_left))
          have inside : home hash entry.key (slots.length - 1) < slots.length := by
            rw [power]
            exact home_lt hash entry.key k
          obtain ⟨i, i_lt, found, held, -⟩ := firstEmpty_spec power inside
            ⟨vacant, vacant_lt, by rw [List.getD_eq_getElem _ _ vacant_lt, empty]⟩
          have change := countP_set_add (· == kEmpty) slots (UInt32.ofNat idx) i_lt
          rw [held, if_pos (beq_self_eq_true kEmpty)] at change
          have left : liveCount rest ≤ (slots.set i (UInt32.ofNat idx)).count kEmpty := by
            rw [List.count]
            rw [List.count] at some_left
            omega
          rw [if_neg (by simp), found, Option.bind_some, Option.isSome_map]
          exact ih (by rw [List.length_set, power]) left

theorem rehash_isSome {newCap k : Nat} (power : newCap = 2 ^ k)
    (room : liveCount map.entries ≤ newCap) : (rehash hash map newCap).isSome := by
  rw [rehash, Option.isSome_map]
  apply rehashEntries_isSome (by rw [List.length_replicate, power])
  rwa [List.count_replicate_self]

/-- A grown table keeps the values. -/
theorem grow_values {target grown : FlatMap Key Value} (run : grow hash target = some grown)
    (idx : Nat) : grown.valueAt idx = target.valueAt idx := by
  rw [grow] at run
  split at run
  case isTrue => exact valueAt_rehash run idx
  case isFalse =>
    obtain rfl := Option.some.inj run
    rfl

/-- An absent key is inserted into an open table. -/
theorem Valid.emplace_open [DecidableEq Key] (valid : Valid hash map) (room : Open map)
    {key : Key} (absent : Absent map key) (value : Value) :
    ∃ target idx, emplace hash map key value = some (target, idx, true) ∧
      target.valueAt idx = some value := by
  obtain ⟨table, created, prepared⟩ := valid.prepare
  have empty_slot : ∃ i < table.slots.length, table.slots.getD i kEmpty = kEmpty := by
    by_cases empty : map.slots = []
    · obtain ⟨size, tomb, length⟩ := prepared.created empty
      exact prepared.valid.toSound.exists_empty (by omega)
    · rw [prepared.same empty]
      exact room.exists_empty empty
  have ends := prepared.valid.toSound.locate_isSome prepared.nonempty empty_slot key
  obtain ⟨target, idx, tombstone, insertion⟩ := valid.insertion value absent created ends
  have inserted := insertion.inserted
  have grows : (FlatMap.grow hash target).isSome := by
    rw [FlatMap.grow]
    split
    case isFalse => rfl
    case isTrue =>
      obtain ⟨k, power⟩ := prepared.valid.toSound.power prepared.nonempty
      have load := prepared.valid.load
      have positive := List.length_pos_iff.mpr prepared.nonempty
      refine rehash_isSome (by rw [inserted.length, power, pow_succ]) ?_
      rw [inserted.sound.live, inserted.size, inserted.length]
      omega
  obtain ⟨grown, grown_run⟩ := Option.isSome_iff_exists.mp grows
  refine ⟨grown, idx, ?_, ?_⟩
  · rw [insertion.call, grown_run]
    rfl
  · rw [grow_values grown_run, valueAt_setPair inserted.pairs, setValue_self]
    rfl

/-! ## Keys -/

/-- The keys of the live entries. -/
def keys (map : FlatMap Key Value) : List Key :=
  map.entries.filterMap fun entry => entry.value.map fun _ => entry.key

theorem length_keys (map : FlatMap Key Value) : map.keys.length = liveCount map.entries := by
  rw [keys, List.length_filterMap_eq_countP, liveCount]
  congr 1
  funext entry
  exact Option.isSome_map

theorem absent_of_not_mem_keys {key : Key} (unlisted : key ∉ map.keys) : Absent map key := by
  intro idx value found
  obtain ⟨slot, live⟩ := pairAt_eq_some.mp found
  apply unlisted
  exact List.mem_filterMap.mpr ⟨_, List.mem_of_getElem? live, rfl⟩

end FlatMap

end Stack

end Gsml3
