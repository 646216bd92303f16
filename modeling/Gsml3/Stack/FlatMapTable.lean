import Gsml3.Stack.FlatMap

/-!
# The slot table of the flat map

`Placed` relates a slot table to the entries it indexes: every live entry is
stored in the slot it remembers, that slot is reached from the home slot of its
key without meeting an empty slot, and every other slot is empty or a
tombstone.  Insertion into a vacant reachable slot keeps the relation; both
`emplace` and `rehash` are insertions of this kind.
-/

namespace Gsml3

namespace Stack

namespace FlatMap

variable {Key Value : Type*}

/-! ## Positions -/

theorem and_mask (i k : Nat) : i &&& (2 ^ k - 1) = i % 2 ^ k :=
  Nat.and_two_pow_sub_one_eq_mod i k

/-- Probing walks around the table. -/
theorem probeNext_iterate {k start : Nat} (inside : start < 2 ^ k) (step : Nat) :
    (probeNext (2 ^ k - 1))^[step] start = (start + step) % 2 ^ k := by
  induction step with
  | zero => exact (Nat.mod_eq_of_lt inside).symm
  | succ step ih =>
      rw [Function.iterate_succ_apply', ih, probeNext, and_mask, Nat.mod_add_mod]
      rfl

/-- Every slot is met within one circle. -/
theorem exists_step {cap start i : Nat} (start_lt : start < cap) (i_lt : i < cap) :
    ∃ step < cap, (start + step) % cap = i := by
  by_cases ahead : start ≤ i
  · refine ⟨i - start, by omega, ?_⟩
    rw [Nat.add_sub_cancel' ahead, Nat.mod_eq_of_lt i_lt]
  · refine ⟨i + cap - start, by omega, ?_⟩
    have around : start + (i + cap - start) = i + cap := by omega
    rw [around, Nat.add_mod_right, Nat.mod_eq_of_lt i_lt]

theorem home_lt (hash : Key → UInt64) (key : Key) (k : Nat) :
    home hash key (2 ^ k - 1) < 2 ^ k := by
  rw [home, and_mask]
  exact Nat.mod_lt _ (Nat.two_pow_pos k)

/-! ## Slots and entries -/

theorem getD_set (slots : List UInt32) (i j : Nat) (s : UInt32) :
    (slots.set i s).getD j kEmpty =
      if i = j ∧ i < slots.length then s else slots.getD j kEmpty := by
  rw [List.getD_eq_getElem?_getD, List.getD_eq_getElem?_getD, List.getElem?_set]
  by_cases same : i = j
  · subst same
    by_cases inside : i < slots.length
    · simp [inside]
    · simp [inside]
  · simp [same]

/-- A slot that refers to an entry. -/
def occupied (s : UInt32) : Bool :=
  s ≠ kEmpty ∧ s ≠ kTomb

theorem occupied_iff {s : UInt32} : occupied s = true ↔ s ≠ kEmpty ∧ s ≠ kTomb := by
  simp [occupied]

/-- An entry index below the sentinels survives the cast to 32 bits. -/
theorem toNat_ofNat_index {idx : Nat} (bounded : idx < kEmpty.toNat) :
    (UInt32.ofNat idx).toNat = idx := by
  rw [UInt32.toNat_ofNat']
  exact Nat.mod_eq_of_lt (bounded.trans (by decide))

theorem occupied_index {idx : Nat} (bounded : idx < kEmpty.toNat) :
    occupied (UInt32.ofNat idx) = true := by
  have back := toNat_ofNat_index bounded
  rw [occupied_iff]
  constructor
  · intro same
    rw [same] at back
    omega
  · intro same
    rw [same] at back
    have wide : kTomb.toNat = kEmpty.toNat + 1 := by decide
    omega

/-- Entry `idx` holds `key` with `value` and remembers slot `slot`. -/
def LiveAt (entries : List (Entry Key Value)) (idx : Nat) (key : Key) (value : Value)
    (slot : UInt32) : Prop :=
  entries[idx]? = some ⟨key, some value, slot⟩

/-- Slot `i` is met from `start` before any empty slot. -/
def Reaches (slots : List UInt32) (start i : Nat) : Prop :=
  ∃ step < slots.length, (start + step) % slots.length = i ∧
    ∀ earlier < step, slots.getD ((start + earlier) % slots.length) kEmpty ≠ kEmpty

/-- Filling a slot keeps every probe path. -/
theorem Reaches.set {slots : List UInt32} {start i j : Nat} {s : UInt32}
    (reaches : Reaches slots start i) (filled : s ≠ kEmpty) :
    Reaches (slots.set j s) start i := by
  obtain ⟨step, bound, arrives, path⟩ := reaches
  refine ⟨step, ?_, ?_, ?_⟩
  · rwa [List.length_set]
  · rwa [List.length_set]
  · intro earlier before
    rw [List.length_set, getD_set]
    split
    · exact filled
    · exact path earlier before

/-- The slot table `slots` indexes the live entries among `entries`. -/
structure Placed (hash : Key → UInt64) (entries : List (Entry Key Value))
    (slots : List UInt32) : Prop where
  power : ∃ k, slots.length = 2 ^ k
  narrow : slots.length ≤ 2 ^ 32
  indexed : entries.length ≤ kEmpty.toNat
  stored : ∀ idx key value slot, LiveAt entries idx key value slot →
    slot.toNat < slots.length ∧ slots.getD slot.toNat kEmpty = UInt32.ofNat idx ∧
      Reaches slots (home hash key (slots.length - 1)) slot.toNat
  referred : ∀ i < slots.length, occupied (slots.getD i kEmpty) = true →
    ∃ key value slot, LiveAt entries (slots.getD i kEmpty).toNat key value slot ∧
      slot.toNat = i

theorem LiveAt.lt_length {entries : List (Entry Key Value)} {idx : Nat} {key : Key}
    {value : Value} {slot : UInt32} (live : LiveAt entries idx key value slot) :
    idx < entries.length :=
  (List.getElem?_eq_some_iff.mp live).1

namespace Placed

variable {hash : Key → UInt64} {entries : List (Entry Key Value)} {slots : List UInt32}

/-- The index of a live entry is below the sentinels. -/
theorem index_lt (placed : Placed hash entries slots) {idx : Nat} {key : Key} {value : Value}
    {slot : UInt32} (live : LiveAt entries idx key value slot) : idx < kEmpty.toNat :=
  live.lt_length.trans_le placed.indexed

/-- Two live entries in one slot are the same entry. -/
theorem slot_injective (placed : Placed hash entries slots) {i j : Nat} {key key' : Key}
    {value value' : Value} {slot slot' : UInt32} (live : LiveAt entries i key value slot)
    (live' : LiveAt entries j key' value' slot') (same : slot.toNat = slot'.toNat) : i = j := by
  have first := (placed.stored i key value slot live).2.1
  have second := (placed.stored j key' value' slot' live').2.1
  rw [same, second] at first
  have cast := congrArg UInt32.toNat first
  rw [toNat_ofNat_index (placed.index_lt live), toNat_ofNat_index (placed.index_lt live')] at cast
  exact cast.symm

/-- A new entry goes into a vacant slot its key reaches. -/
theorem insert {entries' : List (Entry Key Value)} {idx i : Nat} {key : Key} {value : Value}
    (placed : Placed hash entries slots)
    (inside : i < slots.length) (vacant : occupied (slots.getD i kEmpty) = false)
    (reaches : Reaches slots (home hash key (slots.length - 1)) i)
    (fresh : ∀ key value slot, ¬ LiveAt entries idx key value slot)
    (stored : LiveAt entries' idx key value (UInt32.ofNat i))
    (others : ∀ j, j ≠ idx → entries'[j]? = entries[j]?)
    (bounded : entries'.length ≤ kEmpty.toNat) :
    Placed hash entries' (slots.set i (UInt32.ofNat idx)) := by
  have index := stored.lt_length.trans_le bounded
  have filled := (occupied_iff.mp (occupied_index index)).1
  have narrow : (UInt32.ofNat i).toNat = i := by
    rw [UInt32.toNat_ofNat']
    exact Nat.mod_eq_of_lt (inside.trans_le placed.narrow)
  refine ⟨by simpa using placed.power, by simpa using placed.narrow, bounded, ?_, ?_⟩
  · intro j key' value' slot live
    rw [List.length_set, getD_set]
    by_cases own : j = idx
    · subst own
      obtain ⟨rfl, value_eq, rfl⟩ : key = key' ∧ some value = some value' ∧
          UInt32.ofNat i = slot := by
        simpa [LiveAt] using stored.symm.trans live
      rw [narrow, if_pos ⟨rfl, inside⟩]
      exact ⟨inside, rfl, reaches.set filled⟩
    · have before : LiveAt entries j key' value' slot := by
        rwa [LiveAt, ← others j own]
      obtain ⟨slot_lt, entry, path⟩ := placed.stored j key' value' slot before
      have elsewhere : ¬ (i = slot.toNat ∧ i < slots.length) := by
        rintro ⟨rfl, -⟩
        rw [entry, occupied_index (placed.index_lt before)] at vacant
        cases vacant
      rw [if_neg elsewhere]
      exact ⟨slot_lt, entry, path.set filled⟩
  · intro p p_lt used
    rw [List.length_set] at p_lt
    rw [getD_set] at used ⊢
    by_cases own : i = p
    · subst own
      rw [if_pos ⟨rfl, inside⟩, toNat_ofNat_index index]
      exact ⟨key, value, _, stored, narrow⟩
    · rw [if_neg (by simp [own])] at used ⊢
      obtain ⟨key', value', slot, live, slot_eq⟩ := placed.referred p p_lt used
      have distinct : (slots.getD p kEmpty).toNat ≠ idx := by
        intro same
        exact fresh key' value' slot (same ▸ live)
      exact ⟨key', value', slot, by rwa [LiveAt, others _ distinct], slot_eq⟩

end Placed

/-! ## Counting slots -/

/-- Changing one slot changes a count by what the slot held and holds. -/
theorem countP_set_add (p : UInt32 → Bool) (slots : List UInt32) {i : Nat} (s : UInt32)
    (inside : i < slots.length) :
    (slots.set i s).countP p + (if p (slots.getD i kEmpty) then 1 else 0) =
      slots.countP p + (if p s then 1 else 0) := by
  induction slots generalizing i with
  | nil => exact absurd inside (Nat.not_lt_zero i)
  | cons head rest ih =>
      cases i with
      | zero => simp only [List.set_cons_zero, List.countP_cons, List.getD_cons_zero]; omega
      | succ i =>
          have tail := ih (Nat.lt_of_succ_lt_succ inside)
          simp only [List.set_cons_succ, List.countP_cons, List.getD_cons_succ]
          omega

/-- Every slot is occupied, a tombstone or empty. -/
theorem count_slots (slots : List UInt32) :
    slots.countP occupied + slots.count kTomb + slots.count kEmpty = slots.length := by
  induction slots with
  | nil => rfl
  | cons s slots ih =>
      rw [List.countP_cons, List.count_cons, List.count_cons, List.length_cons]
      by_cases empty : s = kEmpty
      · subst empty
        have none : occupied kEmpty = false := by decide
        have other : (kEmpty == kTomb) = false := by decide
        simp only [none, other, Bool.false_eq_true, ↓reduceIte, beq_self_eq_true]
        omega
      · by_cases tombstone : s = kTomb
        · subst tombstone
          have none : occupied kTomb = false := by decide
          have other : (kTomb == kEmpty) = false := by decide
          simp only [none, other, Bool.false_eq_true, ↓reduceIte, beq_self_eq_true]
          omega
        · have used : occupied s = true := occupied_iff.mpr ⟨empty, tombstone⟩
          simp only [used, beq_eq_false_iff_ne.mpr empty, beq_eq_false_iff_ne.mpr tombstone,
            Bool.false_eq_true, ↓reduceIte]
          omega

/-- A table that is not full of entries and tombstones has an empty slot. -/
theorem exists_empty {slots : List UInt32}
    (room : slots.countP occupied + slots.count kTomb < slots.length) :
    ∃ i < slots.length, slots.getD i kEmpty = kEmpty := by
  have total := count_slots slots
  have positive : 0 < slots.count kEmpty := by omega
  obtain ⟨i, inside, found⟩ := List.getElem_of_mem (List.count_pos_iff.mp positive)
  exact ⟨i, inside, by rw [List.getD_eq_getElem slots kEmpty inside, found]⟩

/-! ## Rehash -/

/-- The inner loop of `rehash` ends at an empty slot it reaches. -/
theorem firstEmpty_spec {slots : List UInt32} {k start : Nat} (power : slots.length = 2 ^ k)
    (inside : start < slots.length)
    (room : ∃ i < slots.length, slots.getD i kEmpty = kEmpty) :
    ∃ i < slots.length, firstEmpty slots start = some i ∧
      slots.getD i kEmpty = kEmpty ∧ Reaches slots start i := by
  have positions : ∀ step, (probeNext (slots.length - 1))^[step] start =
      (start + step) % slots.length := by
    intro step
    rw [power] at inside ⊢
    exact probeNext_iterate inside step
  obtain ⟨vacant, vacant_lt, empty⟩ := room
  obtain ⟨limit, limit_lt, arrives⟩ := exists_step inside vacant_lt
  have ends : (firstEmpty slots start).isSome := by
    refine Foundation.walk_isSome limit_lt (fun _ => ?_) ()
    rw [positions, arrives, if_pos empty]
    exact ⟨_, rfl⟩
  obtain ⟨i, found⟩ := Option.isSome_iff_exists.mp ends
  obtain ⟨step, bound, -, path, stop⟩ := Foundation.walk_rule
    (fun step _ => ∀ earlier < step,
      slots.getD ((start + earlier) % slots.length) kEmpty ≠ kEmpty)
    (fun earlier before => absurd before (Nat.not_lt_zero earlier))
    (by
      intro step _ _ path continued earlier before
      rw [positions] at continued
      rcases Nat.lt_succ_iff_lt_or_eq.mp before with behind | rfl
      · exact path earlier behind
      · intro empty
        rw [if_pos empty] at continued
        cases continued)
    found
  rw [positions] at stop
  split at stop
  case isTrue empty =>
    obtain rfl := Sum.inl.inj stop
    exact ⟨_, Nat.mod_lt _ (by omega), found, empty, step, bound, rfl, path⟩
  case isFalse => cases stop

/-- What an entry holds, apart from the slot it remembers. -/
def contents (entry : Entry Key Value) : Key × Option Value :=
  (entry.key, entry.value)

/-- Number of live entries. -/
def liveCount (entries : List (Entry Key Value)) : Nat :=
  entries.countP fun entry => entry.value.isSome

section Rehash

variable {hash : Key → UInt64}

/-- Entries that are not live do not matter to a table. -/
theorem Placed.append_dead {entries : List (Entry Key Value)} {slots : List UInt32}
    {entry : Entry Key Value} (placed : Placed hash entries slots) (dead : entry.value = none)
    (bounded : entries.length + 1 ≤ kEmpty.toNat) : Placed hash (entries ++ [entry]) slots := by
  have same : ∀ idx key value slot, LiveAt (entries ++ [entry]) idx key value slot ↔
      LiveAt entries idx key value slot := by
    intro idx key value slot
    rw [LiveAt, LiveAt, List.getElem?_append]
    split
    · rfl
    · constructor
      · intro last
        have member := List.mem_of_getElem? last
        obtain rfl := List.mem_singleton.mp member
        cases dead
      · intro absent
        exact absurd (LiveAt.lt_length absent) (by omega)
  refine ⟨placed.power, placed.narrow, by simpa using bounded, ?_, ?_⟩
  · intro idx key value slot live
    exact placed.stored idx key value slot ((same ..).mp live)
  · intro i inside used
    obtain ⟨key, value, slot, live, slot_eq⟩ := placed.referred i inside used
    exact ⟨key, value, slot, (same ..).mpr live, slot_eq⟩

/-- A finished rehash keeps the size of the table and the contents of the
entries, whatever the table held. -/
theorem rehashEntries_frame {rest placed : List (Entry Key Value)} {idx : Nat}
    {slots slots' : List UInt32}
    (run : rehashEntries hash rest idx slots = some (placed, slots')) :
    slots'.length = slots.length ∧ placed.map contents = rest.map contents := by
  induction rest generalizing idx slots placed with
  | nil =>
      obtain ⟨rfl, rfl⟩ := Prod.mk.inj (Option.some.inj run)
      exact ⟨rfl, rfl⟩
  | cons entry rest ih =>
      rw [rehashEntries] at run
      split at run
      case isTrue =>
        obtain ⟨⟨others, table⟩, rest_run, pair⟩ := Option.map_eq_some_iff.mp run
        obtain ⟨rfl, rfl⟩ := Prod.mk.inj pair
        obtain ⟨length, same⟩ := ih rest_run
        exact ⟨length, by rw [List.map_cons, List.map_cons, same]⟩
      case isFalse =>
        obtain ⟨i, -, placed_run⟩ := Option.bind_eq_some_iff.mp run
        obtain ⟨⟨others, table⟩, rest_run, pair⟩ := Option.map_eq_some_iff.mp placed_run
        obtain ⟨rfl, rfl⟩ := Prod.mk.inj pair
        obtain ⟨length, same⟩ := ih rest_run
        refine ⟨by rw [length, List.length_set], ?_⟩
        rw [List.map_cons, List.map_cons, same]
        rfl

theorem rehash_frame {map target : FlatMap Key Value} {newCap : Nat}
    (run : rehash hash map newCap = some target) :
    target.slots.length = newCap ∧ target.entries.map contents = map.entries.map contents ∧
      target.free = map.free ∧ target.size = map.size ∧ target.tomb = 0 := by
  obtain ⟨⟨entries, slots⟩, placed, rfl⟩ := Option.map_eq_some_iff.mp run
  obtain ⟨length, same⟩ := rehashEntries_frame placed
  rw [List.length_replicate] at length
  exact ⟨length, same, rfl, rfl, rfl⟩

/-- Inserting the entries `rest` behind the placed entries `done` ends and
places them all. -/
theorem rehashEntries_spec (rest done : List (Entry Key Value)) (slots : List UInt32)
    (placed : Placed hash done slots)
    (used : slots.countP occupied = liveCount done) (clean : slots.count kTomb = 0)
    (room : liveCount done + liveCount rest < slots.length)
    (bounded : done.length + rest.length ≤ kEmpty.toNat) :
    ∃ entries slots', rehashEntries hash rest done.length slots = some (entries, slots') ∧
      Placed hash (done ++ entries) slots' ∧
      slots'.countP occupied = liveCount done + liveCount rest ∧ slots'.count kTomb = 0 := by
  induction rest generalizing done slots with
  | nil => exact ⟨[], slots, rfl, by simpa using placed, by simpa [liveCount] using used, clean⟩
  | cons entry rest ih =>
      cases dead : entry.value with
      | none =>
          have skipped : liveCount (done ++ [entry]) = liveCount done := by
            simp [liveCount, dead]
          have fewer : liveCount (entry :: rest) = liveCount rest := by
            simp [liveCount, dead]
          rw [fewer] at room ⊢
          have next := ih (done ++ [entry]) slots
            (placed.append_dead dead (by rw [List.length_cons] at bounded; omega))
            (by rw [skipped, used]) clean (by rw [skipped]; exact room)
            (by simp only [List.length_append, List.length_cons, List.length_nil] at bounded ⊢
                omega)
          obtain ⟨entries, slots', run, all, count, none_left⟩ := next
          rw [List.length_append, List.length_singleton] at run
          refine ⟨entry :: entries, slots', ?_, by simpa using all, ?_, none_left⟩
          · simp [rehashEntries, dead, run]
          · rw [count, skipped]
      | some value =>
          have more : liveCount (entry :: rest) = liveCount rest + 1 := by
            simp [liveCount, dead]
          rw [more] at room ⊢
          rw [List.length_cons] at bounded
          obtain ⟨k, power⟩ := placed.power
          have inside : home hash entry.key (slots.length - 1) < slots.length := by
            rw [power]
            exact home_lt hash entry.key k
          obtain ⟨i, i_lt, found, empty, reaches⟩ :=
            firstEmpty_spec power inside (exists_empty (by omega))
          have vacant : occupied (slots.getD i kEmpty) = false := by
            rw [empty]
            decide
          have index : occupied (UInt32.ofNat done.length) = true :=
            occupied_index (by omega)
          let entry' : Entry Key Value := { entry with slot := UInt32.ofNat i }
          have inserted : Placed hash (done ++ [entry'])
              (slots.set i (UInt32.ofNat done.length)) := by
            have last : LiveAt (done ++ [entry']) done.length entry.key value
                (UInt32.ofNat i) := by
              simp [LiveAt, entry', dead]
            refine placed.insert i_lt vacant reaches
              (fun _ _ _ live => absurd live.lt_length (lt_irrefl _)) last ?_ ?_
            · intro j other
              rw [List.getElem?_append]
              split
              · rfl
              · rw [List.getElem?_eq_none (by simp; omega), List.getElem?_eq_none (by omega)]
            · simp only [List.length_append, List.length_singleton]
              omega
          have grown : liveCount (done ++ [entry']) = liveCount done + 1 := by
            simp [liveCount, entry', dead]
          have next := ih (done ++ [entry']) (slots.set i (UInt32.ofNat done.length)) inserted
            (by
              have change := countP_set_add occupied slots (UInt32.ofNat done.length) i_lt
              rw [vacant, index] at change
              rw [grown, ← used]
              simpa using change)
            (by
              have change := countP_set_add (· == kTomb) slots (UInt32.ofNat done.length) i_lt
              have other : (kEmpty == kTomb) = false := by decide
              rw [empty, other, beq_eq_false_iff_ne.mpr (occupied_iff.mp index).2] at change
              exact change.trans clean)
            (by rw [grown, List.length_set]; omega)
            (by simp only [List.length_append, List.length_singleton]; omega)
          obtain ⟨entries, slots', run, all, count, none_left⟩ := next
          rw [List.length_append, List.length_singleton] at run
          refine ⟨entry' :: entries, slots', ?_, by simpa using all, ?_, none_left⟩
          · simp [rehashEntries, dead, found, run, entry']
          · rw [count, grown]
            omega

end Rehash

end FlatMap

end Stack

end Gsml3
