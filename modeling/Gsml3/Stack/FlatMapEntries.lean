import Gsml3.Stack.FlatMapRefinement

/-!
# Entries of a flat map

Which entry an operation changes is decided by the free list, never by the
slot table.  The facts here hold for tables of every width: an entry is
recycled only when it is dead, and an operation on one entry leaves every other
entry as it was.
-/

namespace Gsml3

namespace Stack

namespace FlatMap

variable {Key Value : Type*} {hash : Key → UInt64}

/-- Values after entry `idx` was set to `value`. -/
def setValue (values : Nat → Option Value) (idx : Nat) (value : Option Value) :
    Nat → Option Value :=
  fun j => if j = idx then value else values j

section Values

variable {values : Nat → Option Value} {idx j : Nat} {value : Option Value}

@[simp] theorem setValue_self : setValue values idx value idx = value :=
  if_pos rfl

theorem setValue_of_ne (other : j ≠ idx) : setValue values idx value j = values j :=
  if_neg other

end Values

theorem valueAt_eq (map : FlatMap Key Value) (idx : Nat) :
    map.valueAt idx = (map.pairAt idx).map Prod.snd := by
  rw [valueAt, pairAt]
  cases map.entries[idx]? with
  | none => rfl
  | some entry =>
      rw [Option.bind_some, Option.bind_some, Option.map_map]
      exact Option.map_id'.symm

theorem valueAt_setPair {map target : FlatMap Key Value} {idx : Nat}
    {pair : Option (Key × Value)}
    (pairs : ∀ j, target.pairAt j = Sound.setPair map.pairAt idx pair j) (j : Nat) :
    target.valueAt j = setValue map.valueAt idx (pair.map Prod.snd) j := by
  rw [valueAt_eq, pairs, Sound.setPair, setValue]
  split
  · rfl
  · rw [valueAt_eq]

/-- A rebuilt table keeps the entries. -/
theorem valueAt_rehash {map target : FlatMap Key Value} {newCap : Nat}
    (run : rehash hash map newCap = some target) (idx : Nat) :
    target.valueAt idx = map.valueAt idx := by
  rw [valueAt_eq, valueAt_eq, pairAt_congr (rehash_frame run).2.1]

theorem valueAt_modify (map : FlatMap Key Value) (idx : Nat)
    (change : Entry Key Value → Entry Key Value) (j : Nat) :
    ({ map with entries := map.entries.modify idx change } : FlatMap Key Value).valueAt j =
      if j = idx then map.entries[idx]?.bind fun e => (change e).value else map.valueAt j := by
  rw [valueAt, List.getElem?_modify, valueAt]
  by_cases own : j = idx
  · subst own
    cases map.entries[j]? with
    | none => simp
    | some entry => simp
  · cases map.entries[j]? with
    | none => simp [own]
    | some entry => simp [own, Ne.symm own]

/-- A change through a reference changes one value. -/
theorem valueAt_modifyAt (map : FlatMap Key Value) (idx : Nat) (change : Value → Value) (j : Nat) :
    (map.modifyAt idx change).valueAt j =
      setValue map.valueAt idx ((map.valueAt idx).map change) j := by
  rw [modifyAt, valueAt_modify, setValue]
  split
  case isTrue own =>
    rw [valueAt]
    cases map.entries[idx]? with
    | none => rfl
    | some entry => rfl
  case isFalse => rfl

/-! ## Changes through references -/

/-- A changed entry is live under the same key. -/
theorem liveAt_modifyAt {map : FlatMap Key Value} {changed idx : Nat} {change : Value → Value}
    {key : Key} {value : Value} {slot : UInt32} :
    LiveAt (map.modifyAt changed change).entries idx key value slot ↔
      ∃ old, LiveAt map.entries idx key old slot ∧
        value = if idx = changed then change old else old := by
  simp only [LiveAt, modifyAt, List.getElem?_modify]
  cases map.entries[idx]? with
  | none => simp
  | some entry =>
      obtain ⟨entry_key, entry_value, entry_slot⟩ := entry
      by_cases own : idx = changed
      · subst own
        cases entry_value with
        | none => simp
        | some held => simp [and_left_comm, and_comm, eq_comm]
      · cases entry_value with
        | none => simp [own, Ne.symm own]
        | some held => simp [own, Ne.symm own, and_left_comm, and_comm, eq_comm]

/-- A change keeps the keys. -/
theorem pairAt_modifyAt {map : FlatMap Key Value} {changed idx : Nat} {change : Value → Value}
    {key : Key} {value : Value} :
    (map.modifyAt changed change).pairAt idx = some (key, value) ↔
      ∃ old, map.pairAt idx = some (key, old) ∧
        value = if idx = changed then change old else old := by
  simp only [pairAt_eq_some, liveAt_modifyAt]
  constructor
  · rintro ⟨slot, old, live, rfl⟩
    exact ⟨old, ⟨slot, live⟩, rfl⟩
  · rintro ⟨old, ⟨slot, live⟩, rfl⟩
    exact ⟨slot, old, live, rfl⟩

theorem pairAt_modifyAt_eq_none {map : FlatMap Key Value} {changed idx : Nat}
    {change : Value → Value} (dead : map.pairAt idx = none) :
    (map.modifyAt changed change).pairAt idx = none := by
  refine Option.eq_none_iff_forall_ne_some.mpr fun pair found => ?_
  obtain ⟨old, live, -⟩ := pairAt_modifyAt.mp found
  rw [dead] at live
  cases live

theorem pairAt_modifyAt_eq (map : FlatMap Key Value) (changed idx : Nat)
    (change : Value → Value) :
    (map.modifyAt changed change).pairAt idx = (map.pairAt idx).map fun pair =>
      (pair.1, if idx = changed then change pair.2 else pair.2) := by
  cases held : map.pairAt idx with
  | none => exact pairAt_modifyAt_eq_none held
  | some pair => exact pairAt_modifyAt.mpr ⟨pair.2, held, rfl⟩

/-- A change of a value keeps the map valid. -/
theorem Valid.modifyAt {map : FlatMap Key Value} (valid : Valid hash map) (changed : Nat)
    (change : Value → Value) : Valid hash (map.modifyAt changed change) := by
  have lengths : (map.modifyAt changed change).entries.length = map.entries.length :=
    List.length_modify ..
  have live_count : liveCount (map.modifyAt changed change).entries = liveCount map.entries := by
    have same : ∀ (entries : List (Entry Key Value)) (i : Nat),
        liveCount (entries.modify i fun e => { e with value := e.value.map change }) =
          liveCount entries := by
      intro entries
      induction entries with
      | nil =>
          intro i
          rw [List.modify_nil]
      | cons entry entries ih =>
          intro i
          cases i with
          | zero => simp [liveCount, List.countP_cons]
          | succ i =>
              have tail := ih i
              simp only [liveCount] at tail
              simp [liveCount, List.countP_cons, tail]
    exact same map.entries changed
  refine ⟨⟨?_, ?_, valid.occupied, valid.tombs, live_count.trans valid.live,
    lengths.trans valid.allocated, valid.free_nodup, ?_, ?_⟩, valid.load⟩
  · intro nonempty
    have placed := valid.placed nonempty
    refine ⟨placed.power, placed.narrow, lengths.trans_le placed.indexed, ?_, ?_⟩
    · intro idx key value slot live
      obtain ⟨old, before, -⟩ := liveAt_modifyAt.mp live
      exact placed.stored idx key old slot before
    · intro i inside used
      obtain ⟨key, value, slot, live, slot_eq⟩ := placed.referred i inside used
      exact ⟨key, _, slot, liveAt_modifyAt.mpr ⟨value, live, rfl⟩, slot_eq⟩
  · intro empty
    have none := valid.untouched empty
    exact List.length_eq_zero_iff.mp (by rw [lengths, none, List.length_nil])
  · intro idx member
    obtain ⟨below, dead⟩ := valid.free_dead idx member
    exact ⟨lengths ▸ below, pairAt_modifyAt_eq_none dead⟩
  · intro i j key v w first second
    obtain ⟨v', first', -⟩ := pairAt_modifyAt.mp first
    obtain ⟨w', second', -⟩ := pairAt_modifyAt.mp second
    exact valid.distinct i j key v' w' first' second'

/-- A change through a reference changes the value bound to the entry. -/
theorem Represents.modifyAt {map : FlatMap Key Value}
    {directory : Foundation.Directory Key Value} (represents : Represents hash map directory)
    (changed : Nat) (change : Value → Value) :
    Represents hash (map.modifyAt changed change) (directory.modifyAt changed change) := by
  refine ⟨represents.valid.modifyAt changed change, fun idx key value => ?_, ?_, ?_⟩
  · rw [pairAt_modifyAt, Foundation.Directory.modifyAt_eq_some]
    simp only [represents.pairs]
  · rw [Foundation.Directory.keys_modifyAt]
    exact represents.finite
  · rw [Foundation.Directory.keys_modifyAt]
    exact represents.size

/-! ## Table sizes -/

/-- An erase leaves the slots in number. -/
theorem erase_slots [Inhabited Key] {map target : FlatMap Key Value} {idx : Nat} {flag : Bool}
    (run : erase hash map idx = some (target, flag)) :
    target.slots.length = map.slots.length := by
  rw [erase] at run
  split at run
  case h_1 =>
    obtain ⟨rfl, -⟩ := Prod.mk.inj (Option.some.inj run)
    rfl
  case h_2 entry _ =>
    have length : (map.removeEntry idx entry).slots.length = map.slots.length :=
      List.length_set ..
    split at run
    case isTrue =>
      obtain ⟨rfl, -⟩ := Prod.mk.inj (Option.some.inj run)
      rfl
    case isFalse =>
      dsimp only at run
      split at run
      case isTrue =>
        obtain ⟨rebuilt, rebuilt_run, pair⟩ := Option.map_eq_some_iff.mp run
        obtain ⟨rfl, -⟩ := Prod.mk.inj pair
        rw [(rehash_frame rebuilt_run).1, length]
      case isFalse =>
        obtain ⟨rfl, -⟩ := Prod.mk.inj (Option.some.inj run)
        exact length

/-- A table grows within the bound that its entries are within. -/
theorem grow_slots_le {map target : FlatMap Key Value} {bound : Nat}
    (start : map.slots.length ≤ bound) (entries : map.size * 20 ≤ bound * 7)
    (run : grow hash map = some target) : target.slots.length ≤ bound := by
  rw [grow] at run
  split at run
  case isTrue dense =>
    rw [(rehash_frame run).1]
    omega
  case isFalse =>
    obtain rfl := Option.some.inj run
    exact start

/-- A table grows to at most 20 / 7 slots for each entry. -/
theorem emplace_slots_le [DecidableEq Key] {map target : FlatMap Key Value} {key : Key}
    {value : Value} {reply : Nat × Bool} {bound : Nat} (start : map.slots.length ≤ bound)
    (first : 8 ≤ bound) (entries : (map.size + 1) * 20 ≤ bound * 7)
    (run : emplace hash map key value = some (target, reply)) : target.slots.length ≤ bound := by
  obtain ⟨table, prepared, rest⟩ := Option.bind_eq_some_iff.mp run
  obtain ⟨located, -, ends⟩ := Option.bind_eq_some_iff.mp rest
  have table_small : table.slots.length ≤ bound ∧ table.size = map.size := by
    rw [prepare] at prepared
    split at prepared
    case isTrue =>
      obtain ⟨length, -, -, size, -⟩ := rehash_frame prepared
      exact ⟨length ▸ first, size⟩
    case isFalse =>
      obtain rfl := Option.some.inj prepared
      exact ⟨start, rfl⟩
  obtain ⟨small, size⟩ := table_small
  cases located with
  | existing found =>
      obtain ⟨rfl, -⟩ := Prod.mk.inj (Option.some.inj ends)
      exact small
  | vacant i tombstone =>
      obtain ⟨grown, grown_run, pair⟩ := Option.map_eq_some_iff.mp ends
      obtain ⟨rfl, -⟩ := Prod.mk.inj pair
      have acquired : (table.acquireEntry key value).1.slots = table.slots ∧
          (table.acquireEntry key value).1.size = table.size := by
        rw [acquireEntry]
        split <;> exact ⟨rfl, rfl⟩
      have length : (table.insertAt key value i tombstone).1.slots.length =
          table.slots.length := by
        have stored : (table.insertAt key value i tombstone).1.slots =
            (table.acquireEntry key value).1.slots.set i
              (UInt32.ofNat (table.acquireEntry key value).2) := rfl
        rw [stored, List.length_set, acquired.1]
      have count : (table.insertAt key value i tombstone).1.size = map.size + 1 := by
        rw [← size, ← acquired.2]
        rfl
      exact grow_slots_le (length ▸ small) (count ▸ entries) grown_run

/-! ## Recycling -/

/-- The free list names dead entries, each once. -/
structure Recycled (map : FlatMap Key Value) : Prop where
  nodup : map.free.Nodup
  dead : ∀ idx ∈ map.free, idx < map.entries.length ∧ map.valueAt idx = none

theorem recycled_empty : Recycled ({} : FlatMap Key Value) where
  nodup := .nil
  dead := fun _ member => absurd member List.not_mem_nil

namespace Recycled

variable {map target : FlatMap Key Value}

/-- An operation that keeps the free list and the liveness of its entries. -/
theorem congr (recycled : Recycled map) (free : target.free = map.free)
    (length : target.entries.length = map.entries.length)
    (values : ∀ idx ∈ map.free, map.valueAt idx = none → target.valueAt idx = none) :
    Recycled target := by
  refine ⟨free ▸ recycled.nodup, fun idx member => ?_⟩
  rw [free] at member
  obtain ⟨below, dead⟩ := recycled.dead idx member
  exact ⟨length ▸ below, values idx member dead⟩

/-- A rehash keeps the free entries recycled. -/
theorem rehash (recycled : Recycled map) {newCap : Nat}
    (run : FlatMap.rehash hash map newCap = some target) : Recycled target := by
  obtain ⟨-, contents_eq, free, -, -⟩ := rehash_frame run
  refine recycled.congr free ?_ fun idx _ dead => (valueAt_rehash run idx).trans dead
  have length := congrArg List.length contents_eq
  rwa [List.length_map, List.length_map] at length

/-- A change keeps the free entries recycled. -/
theorem modifyAt (recycled : Recycled map) (idx : Nat) (change : Value → Value) :
    Recycled (map.modifyAt idx change) := by
  refine recycled.congr rfl (List.length_modify ..) fun j _ dead => ?_
  rw [valueAt_modifyAt, setValue]
  split
  case isTrue own => rw [← own, dead, Option.map_none]
  case isFalse => exact dead

/-- A cleared map has no entries. -/
theorem clear (map : FlatMap Key Value) :
    Recycled map.clear ∧ ∀ idx, map.clear.valueAt idx = none :=
  ⟨⟨.nil, fun _ member => absurd member List.not_mem_nil⟩, fun _ => rfl⟩

/-- A new key goes into a dead entry. -/
theorem acquireEntry (recycled : Recycled map) (key : Key) (value : Value) :
    Recycled (map.acquireEntry key value).1 ∧
      map.valueAt (map.acquireEntry key value).2 = none ∧
      ∀ j, (map.acquireEntry key value).1.valueAt j =
        setValue map.valueAt (map.acquireEntry key value).2 (some value) j := by
  cases freed : map.free with
  | nil =>
      have acquired : map.acquireEntry key value =
          ({ map with entries := map.entries ++ [⟨key, some value, kEmpty⟩] },
            map.entries.length) := by
        simp only [FlatMap.acquireEntry, freed]
      rw [acquired]
      refine ⟨⟨recycled.nodup, fun idx member => ?_⟩, ?_, fun j => ?_⟩
      · rw [freed] at member
        cases member
      · rw [valueAt, List.getElem?_eq_none le_rfl, Option.bind_none]
      · rw [valueAt, setValue]
        split
        case isTrue own =>
          rw [own, List.getElem?_append_right le_rfl, Nat.sub_self]
          rfl
        case isFalse other =>
          rw [valueAt]
          rcases Nat.lt_or_ge j map.entries.length with inside | beyond
          · rw [List.getElem?_append_left inside]
          · have outside : (map.entries ++ [(⟨key, some value, kEmpty⟩ :
                Entry Key Value)]).length ≤ j := by
              rw [List.length_append, List.length_singleton]
              omega
            rw [List.getElem?_eq_none outside, List.getElem?_eq_none beyond]
  | cons idx free =>
      have acquired : map.acquireEntry key value =
          ({ map with
              free := free
              entries := map.entries.modify idx fun e =>
                { e with key := key, value := some value } }, idx) := by
        simp only [FlatMap.acquireEntry, freed]
      obtain ⟨below, dead⟩ := recycled.dead idx (by simp [freed])
      have nodup := recycled.nodup
      rw [freed, List.nodup_cons] at nodup
      have values : ∀ j, (map.acquireEntry key value).1.valueAt j =
          setValue map.valueAt idx (some value) j := by
        intro j
        rw [acquired]
        refine (valueAt_modify map idx _ j).trans ?_
        rw [setValue, List.getElem?_eq_getElem below]
        rfl
      rw [acquired] at values ⊢
      refine ⟨⟨nodup.2, fun j member => ?_⟩, dead, values⟩
      obtain ⟨inside, unused⟩ := recycled.dead j (by simp [freed, member])
      refine ⟨by simpa using inside, ?_⟩
      rw [values, setValue_of_ne, unused]
      rintro rfl
      exact nodup.1 member

/-- An insertion fills a free entry and leaves the others. -/
theorem insertAt (recycled : Recycled map) (key : Key) (value : Value) (i : Nat)
    (tombstone : Bool) :
    Recycled (map.insertAt key value i tombstone).1 ∧
      map.valueAt (map.insertAt key value i tombstone).2 = none ∧
      ∀ j, (map.insertAt key value i tombstone).1.valueAt j =
        setValue map.valueAt (map.insertAt key value i tombstone).2 (some value) j := by
  obtain ⟨kept, dead, values⟩ := recycled.acquireEntry key value
  have same : ∀ j, (map.insertAt key value i tombstone).1.valueAt j =
      (map.acquireEntry key value).1.valueAt j := by
    intro j
    refine (valueAt_modify (map.acquireEntry key value).1 _ _ j).trans ?_
    by_cases own : j = (map.acquireEntry key value).2
    · rw [own]
      exact if_pos rfl
    · exact if_neg own
  refine ⟨kept.congr rfl (List.length_modify ..) fun j _ unused => (same j).trans unused, dead,
    fun j => (same j).trans (values j)⟩

/-- Growing leaves the entries where they are. -/
theorem grow (recycled : Recycled map) (run : FlatMap.grow hash map = some target) :
    Recycled target ∧ ∀ j, target.valueAt j = map.valueAt j := by
  rw [FlatMap.grow] at run
  split at run
  case isTrue => exact ⟨recycled.rehash run, valueAt_rehash run⟩
  case isFalse =>
    obtain rfl := Option.some.inj run
    exact ⟨recycled, fun _ => rfl⟩

/-- `emplace` fills a dead entry or changes no value. -/
theorem emplace [DecidableEq Key] (recycled : Recycled map) {key : Key} {value : Value}
    {idx : Nat} {inserted : Bool}
    (run : FlatMap.emplace hash map key value = some (target, idx, inserted)) :
    Recycled target ∧
      if inserted then
        map.valueAt idx = none ∧ ∀ j, target.valueAt j = setValue map.valueAt idx (some value) j
      else ∀ j, target.valueAt j = map.valueAt j := by
  obtain ⟨table, prepared, rest⟩ := Option.bind_eq_some_iff.mp run
  obtain ⟨located, -, ends⟩ := Option.bind_eq_some_iff.mp rest
  have table_kept : Recycled table ∧ ∀ j, table.valueAt j = map.valueAt j := by
    rw [prepare] at prepared
    split at prepared
    case isTrue => exact ⟨recycled.rehash prepared, valueAt_rehash prepared⟩
    case isFalse =>
      obtain rfl := Option.some.inj prepared
      exact ⟨recycled, fun _ => rfl⟩
  obtain ⟨kept, same⟩ := table_kept
  cases located with
  | existing found =>
      obtain ⟨rfl, reply⟩ := Prod.mk.inj (Option.some.inj ends)
      obtain ⟨rfl, rfl⟩ := Prod.mk.inj reply
      exact ⟨kept, same⟩
  | vacant i tombstone =>
      obtain ⟨grown, grown_run, pair⟩ := Option.map_eq_some_iff.mp ends
      obtain ⟨rfl, reply⟩ := Prod.mk.inj pair
      obtain ⟨rfl, rfl⟩ := Prod.mk.inj reply
      obtain ⟨added, dead, values⟩ := kept.insertAt key value i tombstone
      have unused := (same _).symm.trans dead
      have stored : ∀ j, (table.insertAt key value i tombstone).1.valueAt j =
          setValue map.valueAt (table.insertAt key value i tombstone).2 (some value) j := by
        intro j
        rw [values, setValue, setValue, same]
      obtain ⟨kept', same'⟩ := added.grow grown_run
      exact ⟨kept', unused, fun j => (same' j).trans (stored j)⟩

/-- `erase` empties one entry. -/
theorem erase [Inhabited Key] (recycled : Recycled map) {idx : Nat} {removed : Bool}
    (run : FlatMap.erase hash map idx = some (target, removed)) :
    Recycled target ∧ ∀ j, target.valueAt j = setValue map.valueAt idx none j := by
  have nothing : map.valueAt idx = none →
      Recycled map ∧ ∀ j, map.valueAt j = setValue map.valueAt idx none j := by
    intro dead
    refine ⟨recycled, fun j => ?_⟩
    rw [setValue]
    split
    case isTrue own => rw [own, dead]
    case isFalse => rfl
  rw [FlatMap.erase] at run
  split at run
  case h_1 absent =>
    obtain ⟨rfl, -⟩ := Prod.mk.inj (Option.some.inj run)
    exact nothing (by rw [valueAt, absent, Option.bind_none])
  case h_2 entry present =>
    split at run
    case isTrue dead =>
      obtain ⟨rfl, -⟩ := Prod.mk.inj (Option.some.inj run)
      exact nothing (by rw [valueAt, present, Option.bind_some, Option.isNone_iff_eq_none.mp dead])
    case isFalse live =>
      obtain ⟨inside, -⟩ := List.getElem?_eq_some_iff.mp present
      have values : ∀ j, (map.removeEntry idx entry).valueAt j =
          setValue map.valueAt idx none j := by
        intro j
        rw [valueAt, FlatMap.removeEntry, List.getElem?_set, setValue]
        by_cases own : j = idx
        · rw [if_pos own.symm, if_pos inside, if_pos own]
          rfl
        · rw [if_neg (Ne.symm own), if_neg own]
          rfl
      have kept : Recycled (map.removeEntry idx entry) := by
        refine ⟨List.nodup_cons.mpr ⟨fun member => ?_, recycled.nodup⟩, fun j member => ?_⟩
        · have dead := (recycled.dead idx member).2
          rw [valueAt, present, Option.bind_some] at dead
          exact live (Option.isNone_iff_eq_none.mpr dead)
        · have length : (map.removeEntry idx entry).entries.length = map.entries.length :=
            List.length_set ..
          rw [length, values]
          rcases List.mem_cons.mp member with rfl | freed
          · exact ⟨inside, setValue_self⟩
          · obtain ⟨below, dead⟩ := recycled.dead j freed
            refine ⟨below, ?_⟩
            rw [setValue, dead, ite_self]
      dsimp only at run
      split at run
      case isTrue =>
        obtain ⟨rebuilt, rebuilt_run, pair⟩ := Option.map_eq_some_iff.mp run
        obtain ⟨rfl, -⟩ := Prod.mk.inj pair
        exact ⟨kept.rehash rebuilt_run, fun j => (valueAt_rehash rebuilt_run j).trans (values j)⟩
      case isFalse =>
        obtain ⟨rfl, -⟩ := Prod.mk.inj (Option.some.inj run)
        exact ⟨kept, values⟩

/-- Reserving leaves the entries where they are. -/
theorem reserve (recycled : Recycled map) {expectedEntries : Nat}
    (run : FlatMap.reserve hash map expectedEntries = some target) :
    Recycled target ∧ ∀ j, target.valueAt j = map.valueAt j := by
  obtain ⟨cap, -, rest⟩ := Option.bind_eq_some_iff.mp run
  split at rest
  case isTrue => exact ⟨recycled.rehash rest, valueAt_rehash rest⟩
  case isFalse =>
    obtain rfl := Option.some.inj rest
    exact ⟨recycled, fun _ => rfl⟩

end Recycled

end FlatMap

end Stack

end Gsml3
