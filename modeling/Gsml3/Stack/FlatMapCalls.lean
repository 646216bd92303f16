import Gsml3.Stack.FlatMapProbing

/-!
# Calls on a valid flat map

One specification per operation: what it returns, which pair it changes and
that the map stays valid.  A call may still fail to return; the specifications
speak about calls that do, and separately say when they do.
-/

namespace Gsml3

namespace Stack

namespace FlatMap

variable {Key Value : Type*} {hash : Key → UInt64}

/-! ## Table sizes -/

private theorem nextPow2From_spec {fuel cap v result : Nat}
    (start : (∃ k < 64, cap = 2 ^ k) ∨ (cap = 0 ∧ 0 < v))
    (run : nextPow2From fuel cap v = some result) : ∃ k, result = 2 ^ k := by
  induction fuel generalizing cap with
  | zero => cases run
  | succ fuel ih =>
      rw [nextPow2From] at run
      split at run
      case isTrue below =>
        refine ih ?_ run
        rcases start with ⟨k, bound, rfl⟩ | ⟨rfl, positive⟩
        · by_cases last : k = 63
          · subst last
            exact .inr ⟨by decide, by omega⟩
          · refine .inl ⟨k + 1, by omega, ?_⟩
            rw [← pow_succ, Nat.mod_eq_of_lt]
            exact Nat.pow_lt_pow_right (by decide) (by omega)
        · exact .inr ⟨rfl, positive⟩
      case isFalse beyond =>
        obtain rfl := Option.some.inj run
        rcases start with ⟨k, -, power⟩ | ⟨rfl, positive⟩
        · exact ⟨k, power⟩
        · exact absurd positive beyond

theorem nextPow2_spec {v cap : Nat} (run : nextPow2 v = some cap) : ∃ k, cap = 2 ^ k :=
  nextPow2From_spec (.inl ⟨3, by decide, rfl⟩) run

namespace Sound

variable {map : FlatMap Key Value}

/-- A table that entries and tombstones do not fill has an empty slot. -/
theorem exists_empty (sound : Sound hash map)
    (room : map.size + map.tomb < map.slots.length) :
    ∃ i < map.slots.length, map.slots.getD i kEmpty = kEmpty :=
  FlatMap.exists_empty (by rwa [sound.occupied, sound.tombs])

end Sound

namespace Valid

variable {map : FlatMap Key Value}

/-- A rebuilt table that is at least as large keeps the map valid. -/
theorem rehash (valid : Valid hash map) {newCap k : Nat} (power : newCap = 2 ^ k)
    (narrow : newCap ≤ 2 ^ 32) (larger : map.slots.length ≤ newCap) :
    ∃ map', FlatMap.rehash hash map newCap = some map' ∧ Valid hash map' ∧
      (∀ idx, map'.pairAt idx = map.pairAt idx) ∧ map'.slots.length = newCap ∧
      map'.size = map.size ∧ map'.tomb = 0 := by
  have load := valid.load
  have positive : 0 < newCap := power ▸ Nat.two_pow_pos k
  obtain ⟨map', run, sound, pairs, length, size, tomb⟩ :=
    valid.toSound.rehash power narrow (by omega)
  exact ⟨map', run, ⟨sound, by rw [size, length]; omega⟩, pairs, length, size, tomb⟩

/-! ## Clear and reserve -/

theorem clear (valid : Valid hash map) :
    Valid hash map.clear ∧ (∀ idx, map.clear.pairAt idx = none) ∧ map.clear.size = 0 := by
  refine ⟨⟨?_, Nat.zero_le _⟩, fun _ => rfl, rfl⟩
  constructor
  case placed =>
    intro nonempty
    have some_slot : map.slots ≠ [] := by
      intro empty
      exact nonempty (by rw [FlatMap.clear, empty]; rfl)
    have placed := valid.placed some_slot
    refine ⟨by simpa [FlatMap.clear] using placed.power,
      by simpa [FlatMap.clear] using placed.narrow, Nat.zero_le _, ?_, ?_⟩
    · intro idx key value slot live
      cases live
    · intro i inside used
      simp only [FlatMap.clear, List.length_replicate] at inside used
      rw [List.getD_eq_getElem _ _ (by rwa [List.length_replicate]),
        List.getElem_replicate] at used
      cases used
  case untouched => exact fun _ => rfl
  case occupied => simp [FlatMap.clear, List.countP_replicate, occupied]
  case tombs =>
    have other : (kEmpty == kTomb) = false := by decide
    simp [FlatMap.clear, List.count_replicate, other]
  case live => rfl
  case allocated => rfl
  case free_nodup => exact .nil
  case free_dead => exact fun _ member => absurd member List.not_mem_nil
  case distinct => exact fun i _ _ _ _ found => by simp [pairAt, FlatMap.clear] at found

theorem reserve (valid : Valid hash map) {map' : FlatMap Key Value} {expectedEntries : Nat}
    (run : FlatMap.reserve hash map expectedEntries = some map')
    (narrow : map'.slots.length ≤ 2 ^ 32) :
    Valid hash map' ∧ (∀ idx, map'.pairAt idx = map.pairAt idx) ∧ map'.size = map.size ∧
      (map' = map ∨ (map'.tomb = 0 ∧ 0 < map'.slots.length)) := by
  obtain ⟨cap, power_run, rest⟩ := Option.bind_eq_some_iff.mp run
  obtain ⟨k, power⟩ := nextPow2_spec power_run
  split at rest
  case isTrue larger =>
    have length := (rehash_frame rest).1
    obtain ⟨built, built_run, built_valid, pairs, -, size, tomb⟩ :=
      valid.rehash power (length ▸ narrow) larger.le
    obtain rfl : built = map' := Option.some.inj (built_run.symm.trans rest)
    exact ⟨built_valid, pairs, size, .inr ⟨tomb, by omega⟩⟩
  case isFalse =>
    obtain rfl := Option.some.inj rest
    exact ⟨valid, fun _ => rfl, rfl, .inl rfl⟩

/-! ## Erase -/

/-- Erasing an index without a live entry changes nothing. -/
theorem erase_dead [Inhabited Key] (hash : Key → UInt64) {idx : Nat}
    (dead : map.pairAt idx = none) : FlatMap.erase hash map idx = some (map, false) := by
  rw [FlatMap.erase]
  split
  case h_1 => rfl
  case h_2 e present =>
    rw [pairAt, present, Option.bind_some] at dead
    rw [if_pos (by rw [Option.map_eq_none_iff.mp dead]; rfl)]

/-- Erasing a live entry returns and removes its pair. -/
theorem erase_live [Inhabited Key] (valid : Valid hash map) {idx : Nat} {key : Key}
    {value : Value} (found : map.pairAt idx = some (key, value)) :
    ∃ map', FlatMap.erase hash map idx = some (map', true) ∧ Valid hash map' ∧
      (∀ j, map'.pairAt j = Sound.setPair map.pairAt idx none j) ∧ map'.size + 1 = map.size ∧
      map'.slots.length = map.slots.length ∧
      (map'.tomb = map.tomb + 1 ∨ map'.tomb = 0) := by
  obtain ⟨slot, live⟩ := pairAt_eq_some.mp found
  have removed := valid.removeEntry live
  have load := valid.load
  have kept : Valid hash (map.removeEntry idx ⟨key, some value, slot⟩) :=
    ⟨removed.sound, by rw [removed.length]; have size := removed.size; omega⟩
  have call : FlatMap.erase hash map idx =
      if (map.removeEntry idx ⟨key, some value, slot⟩).slots.length <
          (map.removeEntry idx ⟨key, some value, slot⟩).tomb * 2 then
        (FlatMap.rehash hash (map.removeEntry idx ⟨key, some value, slot⟩)
          (map.removeEntry idx ⟨key, some value, slot⟩).slots.length).map
            fun map => (map, true)
      else some (map.removeEntry idx ⟨key, some value, slot⟩, true) := by
    rw [LiveAt] at live
    rw [FlatMap.erase, live]
    rfl
  rw [call]
  split
  case isTrue =>
    have nonempty : (map.removeEntry idx ⟨key, some value, slot⟩).slots ≠ [] := by
      have table := (valid.toSound.meets found).1
      simpa [FlatMap.removeEntry] using table
    obtain ⟨k, power⟩ := removed.sound.power nonempty
    obtain ⟨map', run, built, pairs, length, size, tomb⟩ :=
      kept.rehash power (removed.sound.placed nonempty).narrow le_rfl
    refine ⟨map', by rw [run]; rfl, built, fun j => ?_, ?_, ?_, .inr tomb⟩
    · rw [pairs, removed.pairs]
    · rw [size, removed.size]
    · rw [length, removed.length]
  case isFalse =>
    exact ⟨_, rfl, kept, removed.pairs, removed.size, removed.length, .inl removed.tomb⟩

/-- Erasing keeps the pairs of the other entries. -/
theorem erase_pairs [Inhabited Key] (valid : Valid hash map) {map' : FlatMap Key Value} {idx : Nat}
    {flag : Bool} (run : FlatMap.erase hash map idx = some (map', flag)) :
    Valid hash map' ∧ ∀ j pair, map'.pairAt j = some pair → map.pairAt j = some pair := by
  cases found : map.pairAt idx with
  | none =>
      rw [erase_dead hash found] at run
      obtain ⟨rfl, -⟩ := Prod.mk.inj (Option.some.inj run)
      exact ⟨valid, fun _ _ held => held⟩
  | some pair =>
      obtain ⟨erased, call, built, pairs, -⟩ := valid.erase_live found
      obtain ⟨rfl, -⟩ := Prod.mk.inj (Option.some.inj (call.symm.trans run))
      refine ⟨built, fun j pair held => ?_⟩
      rw [pairs, Sound.setPair] at held
      split at held
      · cases held
      · exact held

/-! ## Emplace -/

/-- `table` is `map` with the slot table the probe loop of `emplace` runs on. -/
structure Prepared (hash : Key → UInt64) (map table : FlatMap Key Value) : Prop where
  valid : Valid hash table
  nonempty : table.slots ≠ []
  pairs : ∀ idx, table.pairAt idx = map.pairAt idx
  size : table.size = map.size
  same : map.slots ≠ [] → table = map
  created : map.slots = [] → table.size = 0 ∧ table.tomb = 0 ∧ table.slots.length = 8

theorem prepare (valid : Valid hash map) :
    ∃ table, FlatMap.prepare hash map = some table ∧ Prepared hash map table := by
  rw [FlatMap.prepare]
  by_cases empty : map.slots = []
  · have none : map.size = 0 := by
      have load := valid.load
      rw [empty, List.length_nil] at load
      omega
    obtain ⟨table, run, built, pairs, length, size, tomb⟩ :=
      @Valid.rehash _ _ _ _ valid 8 3 rfl (by decide) (by rw [empty]; exact Nat.zero_le _)
    refine ⟨table, by rw [if_pos empty, run], built, ?_, pairs, size,
      fun nonempty => absurd empty nonempty, fun _ => ⟨by rw [size, none], tomb, length⟩⟩
    intro slots
    rw [slots, List.length_nil] at length
    cases length
  · exact ⟨map, if_neg empty, valid, empty, fun _ => rfl, rfl, fun _ => rfl,
      fun none => absurd none empty⟩

/-- The growth check keeps an insertion valid. -/
theorem grow {target : FlatMap Key Value} {idx : Nat} {key : Key} {value : Value}
    {tombstone : Bool} (valid : Valid hash map) (nonempty : map.slots ≠ [])
    (inserted : Sound.Inserted hash map target idx key value tombstone) :
    (map.slots.length * 7 < (map.size + 1) * 10 ∧ (map.slots.length * 2 ≤ 2 ^ 32 →
      ∃ map', FlatMap.grow hash target = some map' ∧ Valid hash map' ∧
        (∀ j, map'.pairAt j = target.pairAt j) ∧ map'.size = map.size + 1 ∧
        map'.slots.length = map.slots.length * 2 ∧ map'.tomb = 0)) ∨
      (¬ map.slots.length * 7 < (map.size + 1) * 10 ∧
        FlatMap.grow hash target = some target ∧ Valid hash target) := by
  have load := valid.load
  have table : target.slots ≠ [] := by
    intro empty
    have length := inserted.length
    rw [empty, List.length_nil] at length
    exact nonempty (List.length_eq_zero_iff.mp length.symm)
  obtain ⟨k, power⟩ := valid.power nonempty
  have positive : 0 < map.slots.length := List.length_pos_iff.mpr nonempty
  rw [FlatMap.grow, inserted.length, inserted.size]
  by_cases dense : map.slots.length * 7 < (map.size + 1) * 10
  · refine .inl ⟨dense, fun narrow => ?_⟩
    rw [if_pos dense]
    obtain ⟨map', run, sound, pairs, length, size, tomb⟩ :=
      @Sound.rehash _ _ _ _ inserted.sound (map.slots.length * 2) (k + 1)
        (by rw [power, pow_succ]) narrow (by rw [inserted.size]; omega)
    have count : map'.size = map.size + 1 := size.trans inserted.size
    refine ⟨map', run, ⟨sound, ?_⟩, pairs, count, length, tomb⟩
    rw [count, length]
    by_cases single : map.slots.length = 1
    · omega
    · omega
  · refine .inr ⟨dense, if_neg dense, ⟨inserted.sound, ?_⟩⟩
    rw [inserted.size, inserted.length]
    omega

variable [DecidableEq Key]

/-- Emplacing a present key changes nothing. -/
theorem emplace_present (valid : Valid hash map) {idx : Nat} {key : Key} {value : Value}
    (found : map.pairAt idx = some (key, value)) (other : Value) :
    FlatMap.emplace hash map key other = some (map, idx, false) := by
  have nonempty := (valid.toSound.meets found).1
  rw [FlatMap.emplace, FlatMap.prepare, if_neg nonempty, Option.bind_some,
    valid.toSound.locate_present found]
  rfl

/-- The probe path of an absent key ends at an empty slot and passes entries
only. -/
def EntersEmpty (hash : Key → UInt64) (map : FlatMap Key Value) (key : Key) : Prop :=
  Absent map key ∧ ∃ step < map.slots.length,
    map.slots.getD (Sound.probed hash map key step) kEmpty = kEmpty ∧
      ∀ earlier < step,
        occupied (map.slots.getD (Sound.probed hash map key earlier) kEmpty) = true

/-- An insertion at the slot the probe loop of `emplace` found. -/
theorem insert_located (valid : Valid hash map) (nonempty : map.slots ≠ []) {key : Key}
    (value : Value) (absent : Absent map key) {located : Located}
    (run : locate hash map key = some located) :
    ∃ i tombstone, located = .vacant i tombstone ∧
      Sound.Inserted hash map (map.insertAt key value i tombstone).1
        (map.insertAt key value i tombstone).2 key value tombstone ∧
      (tombstone = true → 0 < map.tomb) ∧ (tombstone = false → EntersEmpty hash map key) := by
  rcases valid.toSound.locate_cases nonempty run with
    ⟨idx, value', rfl, found⟩ | ⟨i, tombstone, rfl, -, inside, reaches, vacant, path⟩
  · exact absurd found (absent idx value')
  · refine ⟨i, tombstone, rfl,
      valid.toSound.insertAt valid.load nonempty value absent inside reaches vacant, ?_,
      fun direct => ⟨absent, path direct⟩⟩
    rintro rfl
    have held : map.slots[i] = kTomb := by
      rw [← List.getD_eq_getElem map.slots kEmpty inside]
      exact vacant
    rw [← valid.tombs, List.count_pos_iff, ← held]
    exact List.getElem_mem inside

/-- How a call of `emplace` goes for an absent key. -/
structure Insertion (hash : Key → UInt64) (map table target : FlatMap Key Value) (idx : Nat)
    (key : Key) (value : Value) (tombstone : Bool) : Prop where
  prepared : Prepared hash map table
  inserted : Sound.Inserted hash table target idx key value tombstone
  reused : tombstone = true → 0 < table.tomb
  entered : tombstone = false → EntersEmpty hash table key
  call : FlatMap.emplace hash map key value =
    (FlatMap.grow hash target).map fun grown => (grown, idx, true)

/-- A call for an absent key whose probe loop ends is an insertion. -/
theorem insertion (valid : Valid hash map) {table : FlatMap Key Value} {key : Key}
    (value : Value) (absent : Absent map key) (created : FlatMap.prepare hash map = some table)
    (ends : (locate hash table key).isSome) :
    ∃ target idx tombstone, Insertion hash map table target idx key value tombstone := by
  obtain ⟨table', created', prepared⟩ := valid.prepare
  obtain rfl : table' = table := Option.some.inj (created'.symm.trans created)
  have absent' : Absent table' key := by
    intro j value
    rw [prepared.pairs]
    exact absent j value
  obtain ⟨located, located_run⟩ := Option.isSome_iff_exists.mp ends
  obtain ⟨i, tombstone, rfl, inserted, reused, entered⟩ :=
    insert_located prepared.valid prepared.nonempty value absent' located_run
  refine ⟨_, _, tombstone, prepared, inserted, reused, entered, ?_⟩
  rw [FlatMap.emplace, created, Option.bind_some, located_run]
  rfl

/-- A call for an absent key that returns is an insertion. -/
theorem insertion_of_run (valid : Valid hash map) {key : Key} {value : Value}
    (absent : Absent map key) {result : FlatMap Key Value × Nat × Bool}
    (run : FlatMap.emplace hash map key value = some result) :
    ∃ table target idx tombstone,
      Insertion hash map table target idx key value tombstone ∧
      FlatMap.grow hash target = some result.1 ∧ result.2 = (idx, true) := by
  have unfolded := run
  rw [FlatMap.emplace] at unfolded
  obtain ⟨table, created, rest⟩ := Option.bind_eq_some_iff.mp unfolded
  obtain ⟨located, located_run, -⟩ := Option.bind_eq_some_iff.mp rest
  obtain ⟨target, idx, tombstone, insertion⟩ :=
    valid.insertion value absent created (by rw [located_run]; rfl)
  rw [insertion.call] at run
  obtain ⟨grown, grown_run, rfl⟩ := Option.map_eq_some_iff.mp run
  exact ⟨table, target, idx, tombstone, insertion, grown_run, rfl⟩

/-- `map'` is `map` after the absent key went into entry `idx`. -/
structure Emplaced (hash : Key → UInt64) (map map' : FlatMap Key Value) (idx : Nat)
    (key : Key) (value : Value) : Prop where
  valid : Valid hash map'
  pairs : ∀ j, map'.pairAt j = Sound.setPair map.pairAt idx (some (key, value)) j
  fresh : map.pairAt idx = none
  size : map'.size = map.size + 1

namespace Insertion

variable {table target : FlatMap Key Value} {idx : Nat} {key : Key} {value : Value}
  {tombstone : Bool}

/-- Growth does not change what an insertion stores. -/
theorem emplaced (insertion : Insertion hash map table target idx key value tombstone)
    {map' : FlatMap Key Value} (valid : Valid hash map')
    (pairs : ∀ j, map'.pairAt j = target.pairAt j) (size : map'.size = target.size) :
    Emplaced hash map map' idx key value := by
  have prepared := insertion.prepared
  have inserted := insertion.inserted
  refine ⟨valid, fun j => ?_, ?_, ?_⟩
  · rw [pairs, inserted.pairs, Sound.setPair, Sound.setPair, prepared.pairs]
  · rw [← prepared.pairs, inserted.fresh]
  · rw [size, inserted.size, prepared.size]

/-- The growth check leaves the key inserted. -/
theorem of_grow (insertion : Insertion hash map table target idx key value tombstone)
    {map' : FlatMap Key Value} (run : FlatMap.grow hash target = some map')
    (narrow : map'.slots.length ≤ 2 ^ 32) : Emplaced hash map map' idx key value := by
  have inserted := insertion.inserted
  rcases insertion.prepared.valid.grow insertion.prepared.nonempty inserted with
    ⟨dense, spec⟩ | ⟨-, same, valid⟩
  · have length : map'.slots.length = table.slots.length * 2 := by
      rw [FlatMap.grow, inserted.length, inserted.size, if_pos dense] at run
      exact (rehash_frame run).1
    obtain ⟨built, built_run, valid, pairs, size, -, -⟩ := spec (length ▸ narrow)
    obtain rfl : built = map' := Option.some.inj (built_run.symm.trans run)
    exact insertion.emplaced valid pairs (size.trans inserted.size.symm)
  · obtain rfl := Option.some.inj (same.symm.trans run)
    exact insertion.emplaced valid (fun _ => rfl) rfl

end Insertion

/-- Emplacing an absent key inserts it. -/
theorem emplace_absent (valid : Valid hash map) {map' : FlatMap Key Value} {idx : Nat}
    {key : Key} {value : Value} {flag : Bool} (absent : Absent map key)
    (run : FlatMap.emplace hash map key value = some (map', idx, flag))
    (narrow : map'.slots.length ≤ 2 ^ 32) :
    flag = true ∧ Emplaced hash map map' idx key value := by
  obtain ⟨table, target, idx', tombstone, insertion, grown, reply⟩ :=
    valid.insertion_of_run absent run
  obtain ⟨rfl, rfl⟩ := Prod.mk.inj reply
  exact ⟨rfl, insertion.of_grow grown narrow⟩

end Valid

end FlatMap

end Stack

end Gsml3
