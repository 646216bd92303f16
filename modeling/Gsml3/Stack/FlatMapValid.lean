import Gsml3.Stack.FlatMapTable

/-!
# Validity of the flat map

`Sound` is the invariant of the map in the middle of an insertion and `Valid`
the one between calls, which adds the load bound.  For every operation there is
one specification over `pairAt`, the key and value of an entry index: which
entries an operation changes and what it returns.
-/

namespace Gsml3

namespace Stack

namespace FlatMap

variable {Key Value : Type*} {hash : Key → UInt64}

/-! ## Live entries -/

theorem pairAt_eq_some {map : FlatMap Key Value} {idx : Nat} {key : Key} {value : Value} :
    map.pairAt idx = some (key, value) ↔ ∃ slot, LiveAt map.entries idx key value slot := by
  rw [pairAt]
  constructor
  · intro found
    obtain ⟨⟨entry_key, entry_value, slot⟩, present, pair⟩ := Option.bind_eq_some_iff.mp found
    obtain ⟨held, value_eq, pair_eq⟩ := Option.map_eq_some_iff.mp pair
    obtain ⟨rfl, rfl⟩ := Prod.mk.inj pair_eq
    obtain rfl : entry_value = some held := value_eq
    exact ⟨slot, present⟩
  · rintro ⟨slot, live⟩
    rw [LiveAt] at live
    rw [live]
    rfl

/-- The live entries are determined by the contents. -/
theorem pairAt_congr {map map' : FlatMap Key Value}
    (same : map'.entries.map contents = map.entries.map contents) (idx : Nat) :
    map'.pairAt idx = map.pairAt idx := by
  have at_idx := congrArg (fun list => list[idx]?) same
  simp only [List.getElem?_map] at at_idx
  rw [pairAt, pairAt]
  cases first : map'.entries[idx]? with
  | none =>
      rw [first, Option.map_none] at at_idx
      rw [Option.map_eq_none_iff.mp at_idx.symm]
  | some entry =>
      rw [first, Option.map_some] at at_idx
      obtain ⟨entry', second, contents_eq⟩ := Option.map_eq_some_iff.mp at_idx.symm
      obtain ⟨key_eq, value_eq⟩ := Prod.mk.inj contents_eq
      rw [second, Option.bind_some, Option.bind_some, key_eq, value_eq]

theorem liveCount_congr {entries entries' : List (Entry Key Value)}
    (same : entries'.map contents = entries.map contents) :
    liveCount entries' = liveCount entries := by
  have count : ∀ list : List (Entry Key Value),
      liveCount list = (list.map contents).countP fun pair => pair.2.isSome := by
    intro list
    rw [List.countP_map]
    rfl
  rw [count, count, same]

/-- The key has no live entry. -/
def Absent (map : FlatMap Key Value) (key : Key) : Prop :=
  ∀ idx value, map.pairAt idx ≠ some (key, value)

/-! ## The invariant -/

/-- The invariant of a map whose load is not checked yet. -/
structure Sound (hash : Key → UInt64) (map : FlatMap Key Value) : Prop where
  placed : map.slots ≠ [] → Placed hash map.entries map.slots
  untouched : map.slots = [] → map.entries = []
  occupied : map.slots.countP occupied = map.size
  tombs : map.slots.count kTomb = map.tomb
  live : liveCount map.entries = map.size
  allocated : map.entries.length = map.size + map.free.length
  free_nodup : map.free.Nodup
  free_dead : ∀ idx ∈ map.free, idx < map.entries.length ∧ map.pairAt idx = none
  distinct : ∀ i j key v w,
    map.pairAt i = some (key, v) → map.pairAt j = some (key, w) → i = j

/-- The invariant between calls. -/
structure Valid (hash : Key → UInt64) (map : FlatMap Key Value) : Prop extends
    Sound hash map where
  load : map.size * 10 ≤ map.slots.length * 7

/-- A new map is valid. -/
theorem valid_empty : Valid hash ({} : FlatMap Key Value) where
  placed := fun nonempty => absurd rfl nonempty
  untouched := fun _ => rfl
  occupied := rfl
  tombs := rfl
  live := rfl
  allocated := rfl
  free_nodup := .nil
  free_dead := fun _ member => absurd member List.not_mem_nil
  distinct := fun i _ _ _ _ found => by simp [pairAt] at found
  load := le_rfl

namespace Sound

variable {map : FlatMap Key Value}

theorem indexed (sound : Sound hash map) : map.entries.length ≤ kEmpty.toNat := by
  by_cases empty : map.slots = []
  · rw [sound.untouched empty]
    exact Nat.zero_le _
  · exact (sound.placed empty).indexed

/-- The entries and the slot table of a nonempty map. -/
theorem power (sound : Sound hash map) (nonempty : map.slots ≠ []) :
    ∃ k, map.slots.length = 2 ^ k :=
  (sound.placed nonempty).power

/-- Rebuilding the table with room for the live entries ends in a sound map
with the same entries and no tombstone. -/
theorem rehash (sound : Sound hash map) {newCap k : Nat} (power : newCap = 2 ^ k)
    (narrow : newCap ≤ 2 ^ 32) (room : map.size < newCap) :
    ∃ map', FlatMap.rehash hash map newCap = some map' ∧ Sound hash map' ∧
      (∀ idx, map'.pairAt idx = map.pairAt idx) ∧ map'.slots.length = newCap ∧
      map'.size = map.size ∧ map'.tomb = 0 := by
  have start : Placed hash ([] : List (Entry Key Value)) (List.replicate newCap kEmpty) := by
    refine ⟨⟨k, by rw [List.length_replicate, power]⟩, by rwa [List.length_replicate],
      Nat.zero_le _, ?_, ?_⟩
    · intro idx key value slot live
      cases live
    · intro i inside used
      rw [List.length_replicate] at inside
      rw [List.getD_eq_getElem _ _ (by rwa [List.length_replicate]),
        List.getElem_replicate] at used
      cases used
  obtain ⟨entries, slots, run, placed, used, clean⟩ :=
    rehashEntries_spec map.entries [] (List.replicate newCap kEmpty) start
      (by rw [List.countP_replicate]; rfl) (by rw [List.count_replicate]; rfl)
      (by rw [List.length_replicate, sound.live]; simpa [liveCount] using room)
      (by simpa using sound.indexed)
  obtain ⟨size, same⟩ := rehashEntries_frame run
  rw [List.length_replicate] at size
  have total : liveCount ([] : List (Entry Key Value)) + liveCount map.entries = map.size := by
    rw [sound.live]
    exact Nat.zero_add _
  have pairs : ∀ idx, ({ map with entries := entries, slots := slots, tomb := 0 } :
      FlatMap Key Value).pairAt idx = map.pairAt idx :=
    @pairAt_congr _ _ map _ same
  have length : entries.length = map.entries.length := by
    simpa using congrArg List.length same
  refine ⟨{ map with entries := entries, slots := slots, tomb := 0 }, ?_, ?_, pairs, size,
    rfl, rfl⟩
  · rw [FlatMap.rehash]
    exact congrArg (Option.map _) run
  · refine ⟨fun _ => placed, ?_, used.trans total, clean, ?_, ?_, sound.free_nodup, ?_, ?_⟩
    · intro empty
      have zero : slots.length = 0 := by
        change slots = [] at empty
        rw [empty, List.length_nil]
      omega
    · exact (liveCount_congr same).trans sound.live
    · exact length.trans sound.allocated
    · intro idx member
      obtain ⟨inside, dead⟩ := sound.free_dead idx member
      exact ⟨length ▸ inside, (pairs idx).trans dead⟩
    · intro i j key v w first second
      rw [pairs] at first second
      exact sound.distinct i j key v w first second

/-- The slots probed for a key, in order. -/
theorem positions (sound : Sound hash map) (nonempty : map.slots ≠ []) (key : Key)
    (step : Nat) :
    (probeNext (map.slots.length - 1))^[step] (home hash key (map.slots.length - 1)) =
      (home hash key (map.slots.length - 1) + step) % map.slots.length := by
  obtain ⟨k, power⟩ := sound.power nonempty
  rw [power]
  exact probeNext_iterate (home_lt hash key k) step

theorem home_lt_length (sound : Sound hash map) (nonempty : map.slots ≠ []) (key : Key) :
    home hash key (map.slots.length - 1) < map.slots.length := by
  obtain ⟨k, power⟩ := sound.power nonempty
  rw [power]
  exact home_lt hash key k

/-- A live entry is met on the probe path of its key, before any empty slot. -/
theorem meets (sound : Sound hash map) {idx : Nat} {key : Key} {value : Value}
    (found : map.pairAt idx = some (key, value)) :
    map.slots ≠ [] ∧ ∃ slot step, LiveAt map.entries idx key value slot ∧
      step < map.slots.length ∧ idx < kEmpty.toNat ∧
      map.slots.getD ((home hash key (map.slots.length - 1) + step) % map.slots.length)
        kEmpty = UInt32.ofNat idx ∧
      ∀ earlier < step, map.slots.getD
        ((home hash key (map.slots.length - 1) + earlier) % map.slots.length) kEmpty ≠
          kEmpty := by
  obtain ⟨slot, live⟩ := pairAt_eq_some.mp found
  have nonempty : map.slots ≠ [] := by
    intro empty
    have entries := sound.untouched empty
    have inside := live.lt_length
    rw [entries] at inside
    exact Nat.not_lt_zero idx inside
  have placed := sound.placed nonempty
  obtain ⟨-, entry, step, bound, arrives, path⟩ := placed.stored idx key value slot live
  exact ⟨nonempty, slot, step, live, bound, placed.index_lt live, arrives.symm ▸ entry, path⟩

/-- An occupied slot refers to a live entry. -/
theorem referred (sound : Sound hash map) (nonempty : map.slots ≠ []) {i : Nat}
    (inside : i < map.slots.length) (used : FlatMap.occupied (map.slots.getD i kEmpty) = true) :
    ∃ key value slot, map.entries[(map.slots.getD i kEmpty).toNat]? =
      some ⟨key, some value, slot⟩ := by
  obtain ⟨key, value, slot, live, -⟩ := (sound.placed nonempty).referred i inside used
  exact ⟨key, value, slot, live⟩

/-- The slot met after `step` probes for a key. -/
def probed (hash : Key → UInt64) (map : FlatMap Key Value) (key : Key) (step : Nat) : Nat :=
  (home hash key (map.slots.length - 1) + step) % map.slots.length

theorem probed_lt (hash : Key → UInt64) (nonempty : map.slots ≠ []) (key : Key) (step : Nat) :
    probed hash map key step < map.slots.length :=
  Nat.mod_lt _ (List.length_pos_iff.mpr nonempty)

/-! ## Insertion -/

/-- The pairs of a map after entry `idx` was set to `pair`. -/
def setPair (pairs : Nat → Option (Key × Value)) (idx : Nat) (pair : Option (Key × Value)) :
    Nat → Option (Key × Value) :=
  fun j => if j = idx then pair else pairs j

/-- Changing entry `idx` alone changes its pair alone. -/
theorem pairAt_set {map map' : FlatMap Key Value} {idx : Nat} {entry : Entry Key Value}
    {entries : List (Entry Key Value)} (stored : entries[idx]? = some entry)
    (others : ∀ j, j ≠ idx → entries[j]? = map.entries[j]?) (target : map'.entries = entries)
    (j : Nat) :
    map'.pairAt j =
      setPair map.pairAt idx (entry.value.map fun value => (entry.key, value)) j := by
  subst target
  rw [setPair]
  split
  case isTrue own => rw [own, pairAt, stored, Option.bind_some]
  case isFalse other => rw [pairAt, others j other, pairAt]

/-- A new live entry in a vacant slot its key reaches. -/
theorem of_insert (sound : Sound hash map) (nonempty : map.slots ≠ []) {key : Key}
    {value : Value} {i idx : Nat} {tombstone : Bool} {entries : List (Entry Key Value)}
    {free : List Nat} (absent : Absent map key) (inside : i < map.slots.length)
    (reaches : Reaches map.slots (home hash key (map.slots.length - 1)) i)
    (vacant : map.slots.getD i kEmpty = if tombstone then kTomb else kEmpty)
    (dead : map.pairAt idx = none)
    (stored : LiveAt entries idx key value (UInt32.ofNat i))
    (others : ∀ j, j ≠ idx → entries[j]? = map.entries[j]?)
    (bounded : entries.length ≤ kEmpty.toNat)
    (counted : liveCount entries = liveCount map.entries + 1)
    (allocated : entries.length = map.size + 1 + free.length)
    (nodup : free.Nodup) (subset : ∀ j ∈ free, j ∈ map.free ∧ j ≠ idx)
    (longer : map.entries.length ≤ entries.length) :
    Sound hash { map with
      entries := entries
      slots := map.slots.set i (UInt32.ofNat idx)
      free := free
      tomb := if tombstone then map.tomb - 1 else map.tomb
      size := map.size + 1 } := by
  have index : FlatMap.occupied (UInt32.ofNat idx) = true :=
    occupied_index (stored.lt_length.trans_le bounded)
  have unused : FlatMap.occupied (map.slots.getD i kEmpty) = false := by
    rw [vacant]
    cases tombstone <;> rfl
  have pairs : ∀ j, ({ map with
      entries := entries
      slots := map.slots.set i (UInt32.ofNat idx)
      free := free
      tomb := if tombstone then map.tomb - 1 else map.tomb
      size := map.size + 1 } : FlatMap Key Value).pairAt j =
        setPair map.pairAt idx (some (key, value)) j :=
    pairAt_set stored others rfl
  constructor
  case placed =>
    intro _
    refine (sound.placed nonempty).insert inside unused reaches ?_ stored others bounded
    intro key' value' slot live
    rw [pairAt_eq_some.mpr ⟨slot, live⟩] at dead
    cases dead
  case untouched =>
    intro empty
    exact absurd (by simpa using empty) nonempty
  case occupied =>
    have change := countP_set_add FlatMap.occupied map.slots (UInt32.ofNat idx) inside
    rw [unused, index, sound.occupied] at change
    simpa using change
  case tombs =>
    have change := countP_set_add (· == kTomb) map.slots (UInt32.ofNat idx) inside
    have total : map.slots.countP (· == kTomb) = map.tomb := sound.tombs
    rw [vacant, beq_eq_false_iff_ne.mpr (occupied_iff.mp index).2, total] at change
    cases tombstone with
    | true =>
        simp only [↓reduceIte, beq_self_eq_true, Bool.false_eq_true] at change ⊢
        rw [List.count]
        omega
    | false =>
        have other : (kEmpty == kTomb) = false := by decide
        simp only [↓reduceIte, Bool.false_eq_true, other] at change ⊢
        rw [List.count]
        omega
  case live => rw [counted, sound.live]
  case allocated => exact allocated
  case free_nodup => exact nodup
  case free_dead =>
    intro j member
    obtain ⟨old, other⟩ := subset j member
    obtain ⟨below, none⟩ := sound.free_dead j old
    refine ⟨below.trans_le longer, ?_⟩
    rw [pairs, setPair, if_neg other, none]
  case distinct =>
    intro j j' key' v w first second
    rw [pairs, setPair] at first second
    split at first
    case isTrue own =>
      obtain ⟨rfl, -⟩ : key = key' ∧ value = v := by simpa using first
      split at second
      case isTrue own' => rw [own, own']
      case isFalse => exact absurd second (absent j' w)
    case isFalse =>
      split at second
      case isTrue own' =>
        obtain ⟨rfl, -⟩ : key = key' ∧ value = w := by simpa using second
        exact absurd first (absent j v)
      case isFalse => exact sound.distinct j j' key' v w first second

/-- Setting a dead entry live adds one live entry. -/
private theorem liveCount_set_live {entries : List (Entry Key Value)} {idx : Nat}
    {dead live : Entry Key Value} (present : entries[idx]? = some dead)
    (was_dead : dead.value = none) (is_live : live.value.isSome) :
    liveCount (entries.set idx live) = liveCount entries + 1 := by
  induction entries generalizing idx with
  | nil => cases present
  | cons entry entries ih =>
      cases idx with
      | zero =>
          obtain rfl : entry = dead := by simpa using present
          simp [liveCount, was_dead, is_live]
      | succ idx =>
          have tail := ih (by simpa using present)
          rw [List.set_cons_succ]
          simp only [liveCount, List.countP_cons] at tail ⊢
          omega

/-- Setting a live entry dead removes one live entry. -/
private theorem liveCount_set_dead {entries : List (Entry Key Value)} {idx : Nat}
    (dead : Entry Key Value) {live : Entry Key Value} (present : entries[idx]? = some live)
    (was_live : live.value.isSome) (is_dead : dead.value = none) :
    liveCount (entries.set idx dead) + 1 = liveCount entries := by
  induction entries generalizing idx with
  | nil => cases present
  | cons entry entries ih =>
      cases idx with
      | zero =>
          obtain rfl : entry = live := by simpa using present
          simp [liveCount, was_live, is_dead]
      | succ idx =>
          have tail := ih (by simpa using present)
          rw [List.set_cons_succ]
          simp only [liveCount, List.countP_cons] at tail ⊢
          omega

/-- Changing the entry just appended. -/
theorem modify_last (entries : List (Entry Key Value)) (entry : Entry Key Value)
    (change : Entry Key Value → Entry Key Value) :
    (entries ++ [entry]).modify entries.length change = entries ++ [change entry] := by
  induction entries with
  | nil => rfl
  | cons head entries ih =>
      rw [List.cons_append, List.length_cons, List.modify_succ_cons, ih]
      rfl

/-- `target` is `map` after a new key went into entry `idx`. -/
structure Inserted (hash : Key → UInt64) (map target : FlatMap Key Value) (idx : Nat)
    (key : Key) (value : Value) (tombstone : Bool) : Prop where
  sound : Sound hash target
  pairs : ∀ j, target.pairAt j = setPair map.pairAt idx (some (key, value)) j
  fresh : map.pairAt idx = none
  size : target.size = map.size + 1
  length : target.slots.length = map.slots.length
  tomb : target.tomb = if tombstone then map.tomb - 1 else map.tomb

/-- Inserting an absent key at a vacant slot it reaches. -/
theorem insertAt (sound : Sound hash map) (load : map.size * 10 ≤ map.slots.length * 7)
    (nonempty : map.slots ≠ []) {key : Key} (value : Value) {i : Nat} {tombstone : Bool}
    (absent : Absent map key) (inside : i < map.slots.length)
    (reaches : Reaches map.slots (home hash key (map.slots.length - 1)) i)
    (vacant : map.slots.getD i kEmpty = if tombstone then kTomb else kEmpty) :
    Inserted hash map (map.insertAt key value i tombstone).1
      (map.insertAt key value i tombstone).2 key value tombstone := by
  cases recycled : map.free with
  | nil =>
      have inserted : map.insertAt key value i tombstone = ({ map with
          entries := map.entries ++ [⟨key, some value, UInt32.ofNat i⟩]
          slots := map.slots.set i (UInt32.ofNat map.entries.length)
          free := []
          tomb := if tombstone then map.tomb - 1 else map.tomb
          size := map.size + 1 }, map.entries.length) := by
        simp [FlatMap.insertAt, acquireEntry, recycled, modify_last]
      have count := sound.allocated
      rw [recycled, List.length_nil, Nat.add_zero] at count
      have dead : map.pairAt map.entries.length = none := by
        rw [pairAt, List.getElem?_eq_none le_rfl]
        rfl
      have stored : LiveAt (map.entries ++ [⟨key, some value, UInt32.ofNat i⟩])
          map.entries.length key value (UInt32.ofNat i) := by
        simp [LiveAt]
      have others : ∀ j, j ≠ map.entries.length →
          (map.entries ++ [(⟨key, some value, UInt32.ofNat i⟩ : Entry Key Value)])[j]? =
            map.entries[j]? := by
        intro j other
        rw [List.getElem?_append]
        split
        · rfl
        · rw [List.getElem?_eq_none (by simp; omega), List.getElem?_eq_none (by omega)]
      have narrow := (sound.placed nonempty).narrow
      have sentinel : kEmpty.toNat = 4294967294 := by decide
      have bounded : (map.entries ++ [(⟨key, some value, UInt32.ofNat i⟩ :
          Entry Key Value)]).length ≤ kEmpty.toNat := by
        rw [List.length_append, List.length_singleton, sentinel]
        omega
      rw [inserted]
      refine ⟨?_, pairAt_set stored others rfl, dead, rfl, by simp, rfl⟩
      exact sound.of_insert nonempty absent inside reaches vacant dead stored others bounded
        (by simp [liveCount]) (by simp [count]) .nil (fun _ member => by cases member)
        (by simp)
  | cons idx free =>
      obtain ⟨below, dead⟩ := sound.free_dead idx (by simp [recycled])
      obtain ⟨entry, present⟩ : ∃ entry, map.entries[idx]? = some entry :=
        ⟨_, List.getElem?_eq_getElem below⟩
      have was_dead : entry.value = none := by
        rw [pairAt, present, Option.bind_some] at dead
        exact Option.map_eq_none_iff.mp dead
      have inserted : map.insertAt key value i tombstone = ({ map with
          entries := map.entries.set idx ⟨key, some value, UInt32.ofNat i⟩
          slots := map.slots.set i (UInt32.ofNat idx)
          free := free
          tomb := if tombstone then map.tomb - 1 else map.tomb
          size := map.size + 1 }, idx) := by
        simp [FlatMap.insertAt, acquireEntry, recycled, List.modify_eq_set_getElem?, below]
      have stored : LiveAt (map.entries.set idx ⟨key, some value, UInt32.ofNat i⟩)
          idx key value (UInt32.ofNat i) := by
        simp [LiveAt, below]
      have others : ∀ j, j ≠ idx →
          (map.entries.set idx ⟨key, some value, UInt32.ofNat i⟩)[j]? = map.entries[j]? := by
        intro j other
        exact List.getElem?_set_ne (Ne.symm other)
      have nodup := recycled ▸ sound.free_nodup
      have count := sound.allocated
      rw [recycled, List.length_cons] at count
      rw [inserted]
      refine ⟨?_, pairAt_set stored others rfl, dead, rfl, by simp, rfl⟩
      exact sound.of_insert nonempty absent inside reaches vacant dead stored others
        (by rw [List.length_set]; exact sound.indexed)
        (liveCount_set_live present was_dead rfl) (by rw [List.length_set]; omega)
        (List.nodup_cons.mp nodup).2
        (fun j member => ⟨recycled ▸ List.mem_cons_of_mem idx member, fun same =>
          (List.nodup_cons.mp nodup).1 (same ▸ member)⟩)
        (by rw [List.length_set])

/-! ## Removal -/

/-- `target` is `map` after the live entry `idx` was removed. -/
structure Removed (hash : Key → UInt64) (map target : FlatMap Key Value) (idx : Nat) :
    Prop where
  sound : Sound hash target
  pairs : ∀ j, target.pairAt j = setPair map.pairAt idx none j
  size : target.size + 1 = map.size
  length : target.slots.length = map.slots.length
  tomb : target.tomb = map.tomb + 1

/-- The table after the slot of entry `idx` became a tombstone. -/
private theorem placed_remove {entries : List (Entry Key Value)} {slots : List UInt32}
    {idx : Nat} {key key' : Key} {value : Value} {slot : UInt32}
    (placed : Placed hash entries slots) (live : LiveAt entries idx key value slot) :
    Placed hash (entries.set idx ⟨key', none, slot⟩) (slots.set slot.toNat kTomb) := by
  have standing : kTomb ≠ kEmpty := by decide
  have before : ∀ {j key value slot'},
      LiveAt (entries.set idx ⟨key', none, slot⟩) j key value slot' →
        j ≠ idx ∧ LiveAt entries j key value slot' := by
    intro j key value slot' found
    rw [LiveAt, List.getElem?_set] at found
    split at found
    case isTrue own =>
      split at found
      · cases found
      · cases found
    case isFalse other => exact ⟨Ne.symm other, found⟩
  refine ⟨by simpa using placed.power, by simpa using placed.narrow,
    by simpa using placed.indexed, ?_, ?_⟩
  · intro j key value slot' found
    obtain ⟨other, old⟩ := before found
    obtain ⟨slot_lt, entry, path⟩ := placed.stored j key value slot' old
    have elsewhere : ¬ (slot.toNat = slot'.toNat ∧ slot.toNat < slots.length) :=
      fun same => other (placed.slot_injective old live same.1.symm)
    rw [List.length_set, getD_set, if_neg elsewhere]
    exact ⟨slot_lt, entry, path.set standing⟩
  · intro i inside used
    rw [List.length_set] at inside
    rw [getD_set] at used ⊢
    by_cases own : slot.toNat = i ∧ slot.toNat < slots.length
    · rw [if_pos own] at used
      cases used
    · rw [if_neg own] at used ⊢
      obtain ⟨key, value, slot', found, slot_eq⟩ := placed.referred i inside used
      have other : (slots.getD i kEmpty).toNat ≠ idx := by
        intro same
        rw [same, LiveAt, live, Option.some.injEq, Entry.mk.injEq] at found
        obtain ⟨-, -, rfl⟩ := found
        exact own ⟨slot_eq, slot_eq ▸ inside⟩
      refine ⟨key, value, slot', ?_, slot_eq⟩
      rwa [LiveAt, List.getElem?_set_ne (Ne.symm other)]

/-- Removing a live entry. -/
theorem removeEntry [Inhabited Key] (sound : Sound hash map) {idx : Nat} {key : Key}
    {value : Value} {slot : UInt32} (live : LiveAt map.entries idx key value slot) :
    Removed hash map (map.removeEntry idx ⟨key, some value, slot⟩) idx := by
  have nonempty : map.slots ≠ [] := (sound.meets (pairAt_eq_some.mpr ⟨slot, live⟩)).1
  have placed := sound.placed nonempty
  obtain ⟨slot_lt, entry, -⟩ := placed.stored idx key value slot live
  have index : FlatMap.occupied (map.slots.getD slot.toNat kEmpty) = true := by
    rw [entry]
    exact occupied_index (placed.index_lt live)
  have unused : FlatMap.occupied kTomb = false := by decide
  have below := live.lt_length
  have stored : (map.entries.set idx ⟨default, none, slot⟩)[idx]? =
      some ⟨default, none, slot⟩ := by
    simp [below]
  have others : ∀ j, j ≠ idx →
      (map.entries.set idx ⟨default, none, slot⟩)[j]? = map.entries[j]? :=
    fun j other => List.getElem?_set_ne (Ne.symm other)
  have pairs : ∀ j, (map.removeEntry idx ⟨key, some value, slot⟩).pairAt j =
      setPair map.pairAt idx none j := pairAt_set stored others rfl
  have positive : map.size - 1 + 1 = map.size := by
    have count := liveCount_set_dead ⟨default, none, slot⟩ live rfl rfl
    rw [sound.live] at count
    omega
  refine ⟨?_, pairs, positive, List.length_set, rfl⟩
  constructor
  case placed => exact fun _ => placed_remove placed live
  case untouched =>
    intro empty
    exact absurd (by simpa [FlatMap.removeEntry] using empty) nonempty
  case occupied =>
    have change := countP_set_add FlatMap.occupied map.slots kTomb slot_lt
    rw [index, unused, sound.occupied] at change
    change (map.slots.set slot.toNat kTomb).countP FlatMap.occupied = map.size - 1
    simp only [↓reduceIte, Bool.false_eq_true] at change
    omega
  case tombs =>
    have change := countP_set_add (· == kTomb) map.slots kTomb slot_lt
    have total : map.slots.countP (· == kTomb) = map.tomb := sound.tombs
    rw [beq_eq_false_iff_ne.mpr (occupied_iff.mp index).2, total] at change
    simp only [Bool.false_eq_true, ↓reduceIte, beq_self_eq_true, Nat.add_zero] at change
    exact change
  case live =>
    have count := liveCount_set_dead ⟨default, none, slot⟩ live rfl rfl
    rw [sound.live] at count
    change liveCount (map.entries.set idx ⟨default, none, slot⟩) = map.size - 1
    omega
  case allocated =>
    have count := sound.allocated
    change (map.entries.set idx ⟨default, none, slot⟩).length =
      map.size - 1 + (idx :: map.free).length
    rw [List.length_set, List.length_cons]
    omega
  case free_nodup =>
    refine List.nodup_cons.mpr ⟨fun member => ?_, sound.free_nodup⟩
    have dead := (sound.free_dead idx member).2
    rw [pairAt_eq_some.mpr ⟨slot, live⟩] at dead
    cases dead
  case free_dead =>
    intro j member
    rw [pairs, setPair]
    rcases List.mem_cons.mp member with rfl | old
    · exact ⟨by simpa [FlatMap.removeEntry] using below, if_pos rfl⟩
    · obtain ⟨inside, dead⟩ := sound.free_dead j old
      refine ⟨by simpa [FlatMap.removeEntry] using inside, ?_⟩
      split
      · rfl
      · exact dead
  case distinct =>
    intro i j key' v w first second
    rw [pairs, setPair] at first second
    split at first
    · cases first
    · split at second
      · cases second
      · exact sound.distinct i j key' v w first second

end Sound

end FlatMap

end Stack

end Gsml3
