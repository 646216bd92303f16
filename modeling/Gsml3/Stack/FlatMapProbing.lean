import Gsml3.Stack.FlatMapValid

/-!
# The probe loops of the flat map

What the loops of `find` and `emplace` return on a sound map, and that they end
as soon as the table has an empty slot.  A finished loop either met the live
entry of the key or proves the key absent; the slot found for an absent key is
one the key reaches.
-/

namespace Gsml3

namespace Stack

namespace FlatMap

variable {Key Value : Type*} {hash : Key → UInt64}

namespace Sound

variable {map : FlatMap Key Value} [DecidableEq Key]

/-- `find` leaves its probe loop at the entry of a present key. -/
theorem findVisit_present (sound : Sound hash map) {idx i : Nat} {key : Key} {value : Value}
    {slot : UInt32} (live : LiveAt map.entries idx key value slot)
    (entry : map.slots.getD i kEmpty = UInt32.ofNat idx) :
    map.findVisit key () i = .inl (some idx) := by
  have bounded : idx < kEmpty.toNat := live.lt_length.trans_le sound.indexed
  obtain ⟨used, standing⟩ := occupied_iff.mp (occupied_index bounded)
  rw [findVisit, entry, if_neg used, if_neg standing, toNat_ofNat_index bounded, live]
  simp

/-- `find` leaves its probe loop at an empty slot or at an entry of the key. -/
theorem findVisit_cases {key : Key} {i : Nat} {result : Option Nat}
    (stop : map.findVisit key () i = .inl result) :
    (result = none ∧ map.slots.getD i kEmpty = kEmpty) ∨
      ∃ idx value, result = some idx ∧ map.pairAt idx = some (key, value) := by
  rw [findVisit] at stop
  split at stop
  case isTrue empty => exact .inl ⟨(Sum.inl.inj stop).symm, empty⟩
  case isFalse =>
    split at stop
    case isTrue => cases stop
    case isFalse =>
      split at stop
      case h_1 e present =>
        split at stop
        case isTrue holds =>
          obtain ⟨value, value_eq⟩ := Option.isSome_iff_exists.mp holds.1
          refine .inr ⟨_, value, (Sum.inl.inj stop).symm, ?_⟩
          rw [pairAt, present, Option.bind_some, value_eq, Option.map_some, holds.2]
        case isFalse => cases stop
      case h_2 => cases stop

/-- What a finished probe loop of `find` has seen. -/
theorem find_cases (sound : Sound hash map) {key : Key} {result : Option Nat}
    (run : find hash map key = some result) :
    (result = none ∧ Absent map key) ∨
      ∃ idx value, result = some idx ∧ map.pairAt idx = some (key, value) := by
  by_cases empty : map.slots = []
  · rw [find, if_pos empty] at run
    refine .inl ⟨(Option.some.inj run).symm, fun idx value found => ?_⟩
    exact (sound.meets found).1 empty
  · rw [find, if_neg empty] at run
    obtain ⟨last, last_lt, ⟨⟩, passed, stop⟩ := Foundation.walk_rule
      (fun step _ => ∀ earlier < step, map.findVisit key ()
        ((probeNext (map.slots.length - 1))^[earlier]
          (home hash key (map.slots.length - 1))) = .inr ())
      (fun earlier before => absurd before (Nat.not_lt_zero earlier))
      (by
        intro step _ _ passed continued earlier before
        rcases Nat.lt_succ_iff_lt_or_eq.mp before with behind | rfl
        · exact passed earlier behind
        · exact continued)
      run
    rcases findVisit_cases stop with ⟨none, vacant⟩ | present
    · refine .inl ⟨none, fun idx value found => ?_⟩
      obtain ⟨-, slot, step, live, -, -, entry, path⟩ := sound.meets found
      rw [sound.positions empty key] at vacant
      rcases Nat.lt_trichotomy last step with before | same | after
      · exact path last before vacant
      · have used := occupied_index (live.lt_length.trans_le sound.indexed)
        rw [← entry, ← same, vacant] at used
        cases used
      · have stops := sound.findVisit_present live entry
        rw [← sound.positions empty key, passed step after] at stops
        cases stops
    · exact .inr present

/-- `find` returns the entry of a present key. -/
theorem find_present (sound : Sound hash map) {idx : Nat} {key : Key} {value : Value}
    (found : map.pairAt idx = some (key, value)) : find hash map key = some (some idx) := by
  obtain ⟨nonempty, slot, step, live, bound, -, entry, -⟩ := sound.meets found
  have stops := sound.findVisit_present live entry
  rw [← sound.positions nonempty key] at stops
  have ends : (find hash map key).isSome := by
    rw [find, if_neg nonempty]
    exact Foundation.walk_isSome bound (fun _ => ⟨_, stops⟩) ()
  obtain ⟨result, run⟩ := Option.isSome_iff_exists.mp ends
  rcases sound.find_cases run with ⟨-, absent⟩ | ⟨idx', value', rfl, found'⟩
  · exact absurd found (absent idx value)
  · rw [run, sound.distinct idx' idx key value' value found' found]

/-- With an empty slot in the table the probe loop of `find` ends. -/
theorem find_isSome (sound : Sound hash map)
    (room : map.slots ≠ [] → ∃ i < map.slots.length, map.slots.getD i kEmpty = kEmpty)
    (key : Key) : (find hash map key).isSome := by
  rw [find]
  split
  case isTrue => rfl
  case isFalse nonempty =>
    obtain ⟨i, inside, empty⟩ := room nonempty
    obtain ⟨step, bound, arrives⟩ := exists_step (sound.home_lt_length nonempty key) inside
    refine Foundation.walk_isSome bound (fun _ => ⟨none, ?_⟩) ()
    rw [sound.positions nonempty, arrives, findVisit, if_pos empty]

/-! ## Locating the slot to insert at -/

/-- What one visit of the probe loop of `emplace` can do. -/
theorem emplaceVisit_cases (sound : Sound hash map) (nonempty : map.slots ≠ []) (key : Key)
    (firstTomb : Option Nat) {i : Nat} (inside : i < map.slots.length) :
    (map.slots.getD i kEmpty = kEmpty ∧ map.emplaceVisit key firstTomb i =
        .inl (match firstTomb with
          | some tombstone => .vacant tombstone true
          | none => .vacant i false)) ∨
      (map.slots.getD i kEmpty = kTomb ∧
        map.emplaceVisit key firstTomb i = .inr (some (firstTomb.getD i))) ∨
      ∃ idx key' value, FlatMap.occupied (map.slots.getD i kEmpty) = true ∧
        (map.slots.getD i kEmpty).toNat = idx ∧ map.pairAt idx = some (key', value) ∧
        map.emplaceVisit key firstTomb i =
          if key' = key then .inl (.existing idx) else .inr firstTomb := by
  by_cases empty : map.slots.getD i kEmpty = kEmpty
  · refine .inl ⟨empty, ?_⟩
    unfold emplaceVisit
    cases firstTomb with
    | none => exact if_pos empty
    | some tombstone => exact if_pos empty
  · by_cases tombstone : map.slots.getD i kEmpty = kTomb
    · refine .inr (.inl ⟨tombstone, ?_⟩)
      unfold emplaceVisit
      rw [if_neg empty, if_pos tombstone]
    · have used := occupied_iff.mpr ⟨empty, tombstone⟩
      obtain ⟨key', value, slot, present⟩ := sound.referred nonempty inside used
      refine .inr (.inr ⟨_, key', value, used, rfl, pairAt_eq_some.mpr ⟨slot, present⟩, ?_⟩)
      unfold emplaceVisit
      simp only [empty, tombstone, ↓reduceIte, present]

/-- The probe loop of `emplace` leaves at the entry of a present key. -/
theorem emplaceVisit_present (sound : Sound hash map) {idx i : Nat} {key : Key} {value : Value}
    {slot : UInt32} (live : LiveAt map.entries idx key value slot)
    (entry : map.slots.getD i kEmpty = UInt32.ofNat idx) (firstTomb : Option Nat) :
    map.emplaceVisit key firstTomb i = .inl (.existing idx) := by
  have bounded : idx < kEmpty.toNat := live.lt_length.trans_le sound.indexed
  obtain ⟨used, standing⟩ := occupied_iff.mp (occupied_index bounded)
  unfold emplaceVisit
  rw [entry, if_neg used, if_neg standing, toNat_ofNat_index bounded, live]
  exact if_pos rfl

/-- What the probe loop of `emplace` knows after `step` visits. -/
structure Passed (hash : Key → UInt64) (map : FlatMap Key Value) (key : Key) (step : Nat)
    (firstTomb : Option Nat) : Prop where
  filled : ∀ earlier < step, map.slots.getD (probed hash map key earlier) kEmpty ≠ kEmpty
  continued : ∀ earlier < step, ∃ before after,
    map.emplaceVisit key before (probed hash map key earlier) = .inr after
  tombstone : ∀ i, firstTomb = some i → ∃ earlier < step,
    probed hash map key earlier = i ∧ map.slots.getD i kEmpty = kTomb
  clean : firstTomb = none → ∀ earlier < step,
    FlatMap.occupied (map.slots.getD (probed hash map key earlier) kEmpty) = true

theorem passed_zero (key : Key) : Passed hash map key 0 none where
  filled := fun earlier before => absurd before (Nat.not_lt_zero earlier)
  continued := fun earlier before => absurd before (Nat.not_lt_zero earlier)
  tombstone := fun _ none => by cases none
  clean := fun _ earlier before => absurd before (Nat.not_lt_zero earlier)

/-- A visit that continues extends what is known. -/
theorem Passed.succ (sound : Sound hash map) (nonempty : map.slots ≠ []) {key : Key}
    {step : Nat} {firstTomb firstTomb' : Option Nat}
    (passed : Passed hash map key step firstTomb)
    (visit : map.emplaceVisit key firstTomb (probed hash map key step) = .inr firstTomb') :
    Passed hash map key (step + 1) firstTomb' := by
  have cases := sound.emplaceVisit_cases nonempty key firstTomb
    (probed_lt hash nonempty key step)
  have filled : map.slots.getD (probed hash map key step) kEmpty ≠ kEmpty := by
    intro empty
    rcases cases with ⟨-, stop⟩ | ⟨tombstone, -⟩ | ⟨-, -, -, used, -⟩
    · rw [visit] at stop
      cases stop
    · rw [empty] at tombstone
      exact absurd tombstone (by decide)
    · rw [empty] at used
      cases used
  have split : ∀ {P : Nat → Prop}, (∀ earlier < step, P earlier) → P step →
      ∀ earlier < step + 1, P earlier := by
    intro P before here earlier bound
    rcases Nat.lt_succ_iff_lt_or_eq.mp bound with behind | rfl
    · exact before earlier behind
    · exact here
  refine ⟨split passed.filled filled, split passed.continued ⟨_, _, visit⟩, ?_, ?_⟩
  · intro i first
    rcases cases with ⟨empty, -⟩ | ⟨tombstone, continues⟩ | ⟨idx, key', value, -, -, -, continues⟩
    · exact absurd empty filled
    · rw [visit, Sum.inr.injEq] at continues
      rw [continues, Option.some.injEq] at first
      cases firstTomb with
      | none =>
          rw [Option.getD_none] at first
          exact ⟨step, Nat.lt_succ_self step, first, by rw [← first, tombstone]⟩
      | some i' =>
          rw [Option.getD_some] at first
          obtain ⟨earlier, bound, here, there⟩ := passed.tombstone i' rfl
          exact ⟨earlier, Nat.lt_succ_of_lt bound, here.trans first, by rw [← first, there]⟩
    · rw [visit] at continues
      split at continues
      case isTrue => cases continues
      case isFalse =>
        rw [Sum.inr.injEq] at continues
        obtain ⟨earlier, bound, here, there⟩ := passed.tombstone i (continues ▸ first)
        exact ⟨earlier, Nat.lt_succ_of_lt bound, here, there⟩
  · intro none
    rcases cases with ⟨empty, -⟩ | ⟨-, continues⟩ | ⟨idx, key', value, used, -, -, continues⟩
    · exact absurd empty filled
    · rw [visit, none] at continues
      cases continues
    · rw [visit] at continues
      split at continues
      case isTrue => cases continues
      case isFalse =>
        rw [Sum.inr.injEq] at continues
        exact split (passed.clean (continues ▸ none)) used

/-- What a finished probe loop of `emplace` has seen: an entry of the key, or a
vacant slot the absent key reaches.  The slot is empty when no tombstone was
passed. -/
theorem locate_cases (sound : Sound hash map) (nonempty : map.slots ≠ []) {key : Key}
    {located : Located} (run : locate hash map key = some located) :
    (∃ idx value, located = .existing idx ∧ map.pairAt idx = some (key, value)) ∨
      ∃ i tombstone, located = .vacant i tombstone ∧ Absent map key ∧
        i < map.slots.length ∧ Reaches map.slots (home hash key (map.slots.length - 1)) i ∧
        map.slots.getD i kEmpty = (if tombstone then kTomb else kEmpty) ∧
        (tombstone = false → ∃ step < map.slots.length,
          map.slots.getD (probed hash map key step) kEmpty = kEmpty ∧
          ∀ earlier < step,
            FlatMap.occupied (map.slots.getD (probed hash map key earlier) kEmpty) = true) := by
  rw [locate] at run
  obtain ⟨last, last_lt, memory, passed, stop⟩ := Foundation.walk_rule
    (fun step memory => Passed hash map key step memory) (passed_zero key)
    (by
      intro step memory memory' passed continued
      rw [sound.positions nonempty] at continued
      exact passed.succ sound nonempty continued)
    run
  rw [sound.positions nonempty] at stop
  change map.emplaceVisit key memory (probed hash map key last) = .inl located at stop
  rcases sound.emplaceVisit_cases nonempty key memory
    (probed_lt hash nonempty key last) with
    ⟨empty, leaves⟩ | ⟨-, continues⟩ | ⟨idx, key', value, -, -, found, continues⟩
  · have absent : Absent map key := by
      intro idx value found
      obtain ⟨-, slot, step, live, -, -, entry, path⟩ := sound.meets found
      rcases Nat.lt_trichotomy last step with before | same | after
      · exact path last before empty
      · have used := occupied_index (live.lt_length.trans_le sound.indexed)
        rw [← entry, ← same] at used
        change FlatMap.occupied (map.slots.getD (probed hash map key last) kEmpty) = true at used
        rw [empty] at used
        cases used
      · obtain ⟨before, beyond, continued⟩ := passed.continued step after
        have stops := sound.emplaceVisit_present live entry before
        change map.emplaceVisit key before (probed hash map key step) = _ at stops
        rw [continued] at stops
        cases stops
    rw [stop, Sum.inl.injEq] at leaves
    cases memory with
    | none =>
        exact .inr ⟨_, false, leaves, absent, probed_lt hash nonempty key last,
          ⟨last, last_lt, rfl, passed.filled⟩, empty,
          fun _ => ⟨last, last_lt, empty, passed.clean rfl⟩⟩
    | some i =>
        obtain ⟨earlier, before, here, tombstone⟩ := passed.tombstone i rfl
        refine .inr ⟨i, true, leaves, absent, here ▸ probed_lt hash nonempty key earlier,
          ⟨earlier, before.trans last_lt, here, ?_⟩, tombstone, fun none => by cases none⟩
        intro first bound
        exact passed.filled first (bound.trans before)
  · rw [stop] at continues
    cases continues
  · rw [stop] at continues
    split at continues
    case isTrue same =>
      exact .inl ⟨idx, value, Sum.inl.inj continues, same ▸ found⟩
    case isFalse => cases continues

/-- A present key is located. -/
theorem locate_present (sound : Sound hash map) {idx : Nat} {key : Key} {value : Value}
    (found : map.pairAt idx = some (key, value)) :
    locate hash map key = some (.existing idx) := by
  obtain ⟨nonempty, slot, step, live, bound, -, entry, -⟩ := sound.meets found
  have ends : (locate hash map key).isSome := by
    refine Foundation.walk_isSome bound (fun memory => ?_) none
    rw [sound.positions nonempty key]
    exact ⟨_, sound.emplaceVisit_present live entry memory⟩
  obtain ⟨located, run⟩ := Option.isSome_iff_exists.mp ends
  rcases sound.locate_cases nonempty run with
    ⟨idx', value', rfl, found'⟩ | ⟨i, tombstone, -, absent, -⟩
  · rw [run, sound.distinct idx' idx key value' value found' found]
  · exact absurd found (absent idx value)

/-- With an empty slot in the table the probe loop of `emplace` ends. -/
theorem locate_isSome (sound : Sound hash map) (nonempty : map.slots ≠ [])
    (room : ∃ i < map.slots.length, map.slots.getD i kEmpty = kEmpty) (key : Key) :
    (locate hash map key).isSome := by
  obtain ⟨i, inside, empty⟩ := room
  obtain ⟨step, bound, arrives⟩ := exists_step (sound.home_lt_length nonempty key) inside
  refine Foundation.walk_isSome bound (fun memory => ?_) none
  rw [sound.positions nonempty, arrives]
  rcases sound.emplaceVisit_cases nonempty key memory inside with
    ⟨-, leaves⟩ | ⟨tombstone, -⟩ | ⟨-, -, -, used, -⟩
  · exact ⟨_, leaves⟩
  · rw [empty] at tombstone
    exact absurd tombstone (by decide)
  · rw [empty] at used
    cases used

end Sound

end FlatMap

end Stack

end Gsml3
