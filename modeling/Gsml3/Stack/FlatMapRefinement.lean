import Gsml3.Foundation.Directory
import Gsml3.Stack.FlatMapCalls

/-!
# The flat map is a finite map

The directory of a history is read off the calls and their replies alone: a
successful `emplace` binds its key to the entry index it returned, a successful
`erase` forgets that index and `clear` forgets everything.  While the slot
table has at most `2 ^ 32` slots every reply is the one that directory gives.
Beyond that width the slot an entry remembers is cut, and `wide_table_loses_key`
erases the wrong slot.
-/

namespace Gsml3

namespace Stack

namespace FlatMap

variable {Key Value : Type*} {hash : Key → UInt64}

section Histories

variable [DecidableEq Key]

/-- What an answered call does to a directory. -/
def record (directory : Foundation.Directory Key Value) :
    Op Key Value × Reply → Foundation.Directory Key Value
  | (.emplace key value, .emplaced idx true) => directory.insert key idx value
  | (.erase idx, .erased true) => directory.removeAt idx
  | (.clear, _) => .empty
  | _ => directory

/-- For every key the last `emplace` that inserted it, unless it was erased
since. -/
def bindings (events : List (Op Key Value × Reply)) : Foundation.Directory Key Value :=
  events.foldl record .empty

theorem bindings_snoc (past : List (Op Key Value × Reply)) (event : Op Key Value × Reply) :
    bindings (past ++ [event]) = record (bindings past) event := by
  rw [bindings, List.foldl_append]
  rfl

/-- The replies of a finite map that holds the bindings of `directory`; a new
key gets an unused index. -/
inductive Answers (directory : Foundation.Directory Key Value) :
    Op Key Value → Reply → Prop where
  | present {key : Key} {idx : Nat} {old : Value} (value : Value) :
      directory key = some (idx, old) → Answers directory (.emplace key value) (.emplaced idx false)
  | inserted {key : Key} {idx : Nat} (value : Value) :
      directory key = none → directory.Unused idx →
      Answers directory (.emplace key value) (.emplaced idx true)
  | erased {key : Key} {idx : Nat} {value : Value} :
      directory key = some (idx, value) → Answers directory (.erase idx) (.erased true)
  | missing {idx : Nat} : directory.Unused idx → Answers directory (.erase idx) (.erased false)
  | found (key : Key) :
      Answers directory (.find key) (.found ((directory key).map Prod.fst))
  | reserved (expectedEntries : Nat) : Answers directory (.reserve expectedEntries) .done
  | cleared : Answers directory .clear .done

end Histories

/-- The live entries of `map` are the bindings of `directory`. -/
structure Represents (hash : Key → UInt64) (map : FlatMap Key Value)
    (directory : Foundation.Directory Key Value) : Prop where
  valid : Valid hash map
  pairs : ∀ idx key value,
    map.pairAt idx = some (key, value) ↔ directory key = some (idx, value)
  finite : directory.keys.Finite
  size : map.size = directory.keys.ncard

namespace Represents

variable {map target : FlatMap Key Value} {directory : Foundation.Directory Key Value}

theorem separated (represents : Represents hash map directory) : directory.Separated := by
  intro key key' idx value value' first second
  rw [← represents.pairs] at first second
  obtain ⟨rfl, -⟩ := Prod.mk.inj (Option.some.inj (first.symm.trans second))
  rfl

theorem absent (represents : Represents hash map directory) {key : Key}
    (unbound : directory key = none) : Absent map key := by
  intro idx value found
  rw [represents.pairs, unbound] at found
  cases found

theorem unused (represents : Represents hash map directory) {idx : Nat}
    (dead : map.pairAt idx = none) : directory.Unused idx := by
  intro key value bound
  rw [← represents.pairs, dead] at bound
  cases bound

theorem present (represents : Represents hash map directory) {key : Key} {idx : Nat}
    {value : Value} (bound : directory key = some (idx, value)) :
    map.pairAt idx = some (key, value) :=
  (represents.pairs idx key value).mpr bound

/-- A map with the same live entries represents the same directory. -/
theorem of_pairs (represents : Represents hash map directory) (valid : Valid hash target)
    (pairs : ∀ idx, target.pairAt idx = map.pairAt idx) (size : target.size = map.size) :
    Represents hash target directory := by
  refine ⟨valid, fun idx key value => ?_, represents.finite, by rw [size, represents.size]⟩
  rw [pairs]
  exact represents.pairs idx key value

theorem remove (represents : Represents hash map directory) {key : Key} {value : Value}
    {idx : Nat} (bound : directory key = some (idx, value)) (valid : Valid hash target)
    (pairs : ∀ j, target.pairAt j = Sound.setPair map.pairAt idx none j)
    (size : target.size + 1 = map.size) :
    Represents hash target (directory.removeAt idx) := by
  have gone := Foundation.Directory.keys_removeAt represents.separated bound
  refine ⟨valid, ?_, ?_, ?_⟩
  · intro j key' value'
    rw [pairs, Sound.setPair, Foundation.Directory.removeAt_eq_some, ← represents.pairs]
    by_cases own : j = idx
    · simp [own]
    · simp [own]
  · rw [gone]
    exact represents.finite.sdiff
  · have member : key ∈ directory.keys := by
      intro unbound
      rw [bound] at unbound
      cases unbound
    have count := Set.ncard_sdiff_singleton_add_one member represents.finite
    rw [gone]
    have before := represents.size
    omega

theorem clear (represents : Represents hash map directory) :
    Represents hash map.clear .empty := by
  obtain ⟨valid, pairs, size⟩ := represents.valid.clear
  refine ⟨valid, fun idx key value => ?_, ?_, ?_⟩
  · rw [pairs]
    exact iff_of_false (fun found => by cases found) fun bound => by cases bound
  · rw [Foundation.Directory.keys_empty]
    exact Set.finite_empty
  · rw [Foundation.Directory.keys_empty, Set.ncard_empty, size]

section Calls

variable [DecidableEq Key]

theorem insert (represents : Represents hash map directory) {key : Key} {value : Value}
    {idx : Nat} (unbound : directory key = none)
    (emplaced : Valid.Emplaced hash map target idx key value) :
    Represents hash target (directory.insert key idx value) := by
  refine ⟨emplaced.valid, ?_, ?_, ?_⟩
  · intro j key' value'
    rw [emplaced.pairs, Sound.setPair, Foundation.Directory.insert]
    by_cases own : j = idx
    · subst own
      rw [if_pos rfl]
      split
      case isTrue same =>
        subst same
        simp
      case isFalse other =>
        have unused := represents.unused emplaced.fresh key' value'
        simp [Ne.symm other, unused]
    · rw [if_neg own, represents.pairs]
      split
      case isTrue same =>
        subst same
        rw [unbound]
        simp [Ne.symm own]
      case isFalse => rfl
  · rw [Foundation.Directory.keys_insert]
    exact represents.finite.insert key
  · have fresh : key ∉ directory.keys := fun member => member unbound
    rw [Foundation.Directory.keys_insert, Set.ncard_insert_of_notMem fresh represents.finite,
      emplaced.size, represents.size]

/-- A bound key is found with its value. -/
theorem find_bound (represents : Represents hash map directory) {key : Key} {idx : Nat}
    {value : Value} (bound : directory key = some (idx, value)) :
    find hash map key = some (some idx) ∧ map.valueAt idx = some value := by
  have found := represents.present bound
  refine ⟨represents.valid.toSound.find_present found, ?_⟩
  obtain ⟨slot, live⟩ := pairAt_eq_some.mp found
  rw [valueAt, live]
  rfl

/-- What a finished search returns. -/
theorem find_eq (represents : Represents hash map directory) {key : Key}
    {result : Option Nat} (run : find hash map key = some result) :
    result = (directory key).map Prod.fst := by
  rcases represents.valid.toSound.find_cases run with ⟨rfl, absent⟩ | ⟨idx, value, rfl, found⟩
  · cases bound : directory key with
    | none => rfl
    | some binding =>
        exact absurd (represents.present bound) (absent binding.1 binding.2)
  · rw [(represents.pairs idx key value).mp found]
    rfl

variable [Inhabited Key]

/-- One call refines one step of the finite map. -/
theorem exec (represents : Represents hash map directory) {op : Op Key Value} {reply : Reply}
    (call : FlatMap.exec hash map op = some (target, reply))
    (narrow : target.slots.length ≤ 2 ^ 32) :
    Answers directory op reply ∧ Represents hash target (record directory (op, reply)) := by
  have valid := represents.valid
  cases op with
  | emplace key value =>
      obtain ⟨⟨grown, idx, flag⟩, run, pair⟩ := Option.map_eq_some_iff.mp call
      obtain ⟨rfl, rfl⟩ := Prod.mk.inj pair
      cases bound : directory key with
      | none =>
          obtain ⟨rfl, emplaced⟩ :=
            valid.emplace_absent (represents.absent bound) run narrow
          exact ⟨.inserted value bound (represents.unused emplaced.fresh),
            represents.insert bound emplaced⟩
      | some binding =>
          rw [valid.emplace_present (represents.present bound)] at run
          obtain ⟨rfl, reply⟩ := Prod.mk.inj (Option.some.inj run)
          obtain ⟨rfl, rfl⟩ := Prod.mk.inj reply
          exact ⟨.present value bound, represents⟩
  | erase idx =>
      obtain ⟨⟨erased, flag⟩, run, pair⟩ := Option.map_eq_some_iff.mp call
      obtain ⟨rfl, rfl⟩ := Prod.mk.inj pair
      cases found : map.pairAt idx with
      | none =>
          rw [Valid.erase_dead hash found] at run
          obtain ⟨rfl, rfl⟩ := Prod.mk.inj (Option.some.inj run)
          exact ⟨.missing (represents.unused found), represents⟩
      | some held =>
          obtain ⟨target, run', kept, pairs, size, -⟩ := valid.erase_live found
          rw [run'] at run
          obtain ⟨rfl, rfl⟩ := Prod.mk.inj (Option.some.inj run)
          have bound := (represents.pairs idx held.1 held.2).mp found
          exact ⟨.erased bound, represents.remove bound kept pairs size⟩
  | find key =>
      obtain ⟨result, run, pair⟩ := Option.map_eq_some_iff.mp call
      obtain ⟨rfl, rfl⟩ := Prod.mk.inj pair
      rw [represents.find_eq run]
      exact ⟨.found key, represents⟩
  | reserve expectedEntries =>
      obtain ⟨reserved, run, pair⟩ := Option.map_eq_some_iff.mp call
      obtain ⟨rfl, rfl⟩ := Prod.mk.inj pair
      obtain ⟨kept, pairs, size, -⟩ := valid.reserve run narrow
      exact ⟨.reserved expectedEntries, represents.of_pairs kept pairs size⟩
  | clear =>
      obtain ⟨rfl, rfl⟩ := Prod.mk.inj (Option.some.inj call)
      exact ⟨.cleared, represents.clear⟩

end Calls

end Represents

theorem represents_empty : Represents hash ({} : FlatMap Key Value) .empty where
  valid := valid_empty
  pairs := fun idx key value =>
    iff_of_false (fun found => by simp [pairAt] at found) fun bound => by cases bound
  finite := by
    rw [Foundation.Directory.keys_empty]
    exact Set.finite_empty
  size := by
    rw [Foundation.Directory.keys_empty, Set.ncard_empty]

section Runs

variable [DecidableEq Key] [Inhabited Key]

/-- The table of the state after a call has at most `2 ^ 32` slots. -/
def Narrow (_ : FlatMap Key Value) (_ : Op Key Value × Reply) (target : FlatMap Key Value) :
    Prop :=
  target.slots.length ≤ 2 ^ 32

instance (source : FlatMap Key Value) (event : Op Key Value × Reply)
    (target : FlatMap Key Value) : Decidable (Narrow source event target) :=
  inferInstanceAs (Decidable (_ ≤ _))

/-- Along every run with narrow tables the map represents the directory of its
history, and every reply was the one of that directory. -/
theorem represents_of_run {events : List (Op Key Value × Reply)} {map : FlatMap Key Value}
    (run : (machine hash).Run Narrow {} events map) :
    Represents hash map (bindings events) ∧
      ∀ past event, past ++ [event] <+: events → Answers (bindings past) event.1 event.2 := by
  refine run.invariant (fun past state => Represents hash state (bindings past) ∧
    ∀ before event, before ++ [event] <+: past → Answers (bindings before) event.1 event.2)
    ⟨represents_empty, ?_⟩ ?_
  · intro past event earlier
    have length := earlier.length_le
    simp at length
  · intro past source target event ⟨represents, answered⟩ stepped narrow
    obtain ⟨answer, represents'⟩ := represents.exec (step_eq_some.mp stepped) narrow
    refine ⟨by rwa [bindings_snoc], fun before last earlier => ?_⟩
    rcases List.prefix_concat_iff.mp earlier with whole | inside
    · obtain ⟨rfl, same⟩ := List.append_inj' whole rfl
      obtain rfl := List.singleton_inj.mp same
      exact answer
    · exact answered before last inside

/-- While the slot table has at most `2 ^ 32` slots, the flat map is the finite
map of its history: every past reply and every finished search agree with it,
the size counts its keys, its keys have entries of their own, and no further
call other than the removal of a key changes the entry of that key. -/
theorem refines_finite_map {events : List (Op Key Value × Reply)} {map : FlatMap Key Value}
    (run : (machine hash).Run Narrow {} events map) :
    (∀ past event, past ++ [event] <+: events → Answers (bindings past) event.1 event.2) ∧
      (∀ key result, find hash map key = some result →
        result = (bindings events key).map Prod.fst) ∧
      (∀ key idx value, bindings events key = some (idx, value) →
        find hash map key = some (some idx) ∧ map.valueAt idx = some value) ∧
      map.size = (bindings events).keys.ncard ∧ (bindings events).Separated ∧
      ∀ op reply target, exec hash map op = some (target, reply) → target.slots.length ≤ 2 ^ 32 →
        ∀ key idx value, bindings events key = some (idx, value) → op ≠ .erase idx →
          op ≠ .clear → find hash target key = some (some idx) ∧
            target.valueAt idx = some value := by
  obtain ⟨represents, answered⟩ := represents_of_run run
  refine ⟨answered, fun key result => represents.find_eq,
    fun key idx value => represents.find_bound, represents.size, represents.separated, ?_⟩
  intro op reply target call narrow key idx value bound other kept
  obtain ⟨answer, represents'⟩ := represents.exec call narrow
  refine represents'.find_bound ?_
  cases answer with
  | present => exact bound
  | inserted _ unbound =>
      rw [record, Foundation.Directory.insert, if_neg]
      · exact bound
      · rintro rfl
        rw [unbound] at bound
        cases bound
  | erased =>
      refine Foundation.Directory.removeAt_eq_some.mpr ⟨bound, ?_⟩
      rintro rfl
      exact other rfl
  | missing => exact bound
  | found => exact bound
  | reserved => exact bound
  | cleared => exact absurd rfl kept

/-- Insertion, refusal, removal and recycling of an entry. -/
theorem refines_finite_map_recycled :
    find (fun key : UInt64 => key) (⟨[⟨4, some 7, 4⟩],
        [kEmpty, kEmpty, kEmpty, kEmpty, 0, kTomb, kEmpty, kEmpty], [], 1, 1⟩ :
          FlatMap UInt64 Nat) 4 = some (some 0) := by
  have executed : (machine fun key : UInt64 => key).exec Narrow
      ({} : FlatMap UInt64 Nat)
      [(.emplace 1 5, .emplaced 0 true), (.emplace 1 6, .emplaced 0 false),
        (.erase 0, .erased true), (.emplace 4 7, .emplaced 0 true)] =
      some ⟨[⟨4, some 7, 4⟩], [kEmpty, kEmpty, kEmpty, kEmpty, 0, kTomb, kEmpty, kEmpty],
        [], 1, 1⟩ := by
    decide
  exact ((refines_finite_map (.exec _ .origin executed)).2.2.1 4 0 7 (by decide)).1

end Runs

/-! ## Wide tables -/

section Wide

variable [DecidableEq Key]

/-- A key whose home slot is empty is inserted there. -/
private theorem locate_home {map : FlatMap Key Value} {key : Key} {i : Nat}
    (nonempty : map.slots ≠ []) (home_eq : home hash key (map.slots.length - 1) = i)
    (empty : map.slots.getD i kEmpty = kEmpty) :
    locate hash map key = some (.vacant i false) := by
  have visit : map.emplaceVisit key none i = .inl (.vacant i false) := by
    unfold emplaceVisit
    rw [if_pos empty]
  have start : ∀ fuel, 0 < fuel →
      Foundation.walk (probeNext (map.slots.length - 1)) (map.emplaceVisit key) fuel none i =
        some (.vacant i false) := by
    intro fuel positive
    cases fuel with
    | zero => exact absurd positive (Nat.lt_irrefl 0)
    | succ fuel => rw [Foundation.walk, visit]
  rw [locate, home_eq]
  exact start _ (List.length_pos_iff.mpr nonempty)

/-- Emplacing at an empty home slot without growth. -/
private theorem emplace_home {map : FlatMap Key Value} {key : Key} {i : Nat} (value : Value)
    (nonempty : map.slots ≠ []) (unused : map.free = [])
    (home_eq : home hash key (map.slots.length - 1) = i)
    (empty : map.slots.getD i kEmpty = kEmpty)
    (sparse : ¬ map.slots.length * 7 < (map.size + 1) * 10) :
    emplace hash map key value =
      some ({ map with
        entries := map.entries ++ [⟨key, some value, UInt32.ofNat i⟩]
        slots := map.slots.set i (UInt32.ofNat map.entries.length)
        size := map.size + 1 }, map.entries.length, true) := by
  have modified : (map.entries ++ [(⟨key, some value, kEmpty⟩ : Entry Key Value)]).modify
      map.entries.length (fun e => { e with slot := UInt32.ofNat i }) =
      map.entries ++ [⟨key, some value, UInt32.ofNat i⟩] :=
    Sound.modify_last _ _ _
  rw [emplace, prepare, if_neg nonempty, Option.bind_some, locate_home nonempty home_eq empty,
    Option.bind_some]
  simp only [insertAt, acquireEntry, unused, modified, Bool.false_eq_true, ↓reduceIte]
  rw [grow, if_neg (by simpa using sparse)]
  rfl

/-- A table of `2 ^ 33` slots.  The second key has home slot `2 ^ 32`, its entry
remembers slot 0, and erasing it buries the first key, whose search then meets
an empty slot. -/
theorem wide_table_loses_key :
    ∃ (events : List (Op UInt64 Unit × Reply)) (map : FlatMap UInt64 Unit),
      (machine fun key => key).Run (fun _ _ _ => True) {} events map ∧
        bindings events 0 = some (0, ()) ∧ find (fun key => key) map 0 = some none := by
  obtain ⟨n, wide⟩ : ∃ n, n = 2 ^ 33 := ⟨_, rfl⟩
  obtain ⟨slots, table⟩ : ∃ slots, slots = List.replicate n kEmpty := ⟨_, rfl⟩
  have length : slots.length = 2 ^ 33 := by rw [table, List.length_replicate, wide]
  have vacant : ∀ i, slots.getD i kEmpty = kEmpty := by
    intro i
    rw [table, List.getD_eq_getElem?_getD, List.getElem?_replicate]
    split <;> rfl
  have nonempty : ∀ {slots : List UInt32}, slots.length = 2 ^ 33 → slots ≠ [] := by
    rintro _ full rfl
    cases full
  let reserved : FlatMap UInt64 Unit := { slots := slots }
  let first : FlatMap UInt64 Unit := ⟨[⟨0, some (), 0⟩], slots.set 0 0, [], 1, 0⟩
  let second : FlatMap UInt64 Unit :=
    ⟨[⟨0, some (), 0⟩, ⟨11589508547809492868, some (), 0⟩],
      (slots.set 0 0).set (2 ^ 32) 1, [], 2, 0⟩
  let erased : FlatMap UInt64 Unit :=
    ⟨[⟨0, some (), 0⟩, ⟨0, none, 0⟩], ((slots.set 0 0).set (2 ^ 32) 1).set 0 kTomb, [1], 1, 1⟩
  have call_reserve : exec (fun key => key) {} (.reserve (2 ^ 32)) = some (reserved, .done) := by
    have power : nextPow2 ((2 ^ 32 + 2 ^ 32 / 3 + 1) % 2 ^ 64) = some n := by
      rw [wide]
      decide
    rw [exec, reserve, power, Option.bind_some, if_pos (by rw [wide]; decide), rehash, ← table]
    rfl
  have call_first : exec (fun key => key) reserved (.emplace 0 ()) =
      some (first, .emplaced 0 true) := by
    have home_eq : home (fun key : UInt64 => key) 0 (reserved.slots.length - 1) = 0 := by
      rw [length]
      decide
    rw [exec, emplace_home () (nonempty length) rfl home_eq (vacant 0)
      (by rw [length]; simp [reserved])]
    rfl
  have length_first : first.slots.length = 2 ^ 33 := by rw [List.length_set, length]
  have call_second : exec (fun key => key) first (.emplace 11589508547809492868 ()) =
      some (second, .emplaced 1 true) := by
    have home_eq : home (fun key : UInt64 => key) 11589508547809492868
        (first.slots.length - 1) = 2 ^ 32 := by
      rw [length_first]
      decide
    have empty : first.slots.getD (2 ^ 32) kEmpty = kEmpty := by
      rw [getD_set, if_neg (by simp), vacant]
    rw [exec, emplace_home () (nonempty length_first) rfl home_eq empty
      (by rw [length_first]; simp [first])]
    rfl
  have length_second : second.slots.length = 2 ^ 33 := by rw [List.length_set, length_first]
  have call_erase : exec (fun key => key) second (.erase 1) = some (erased, .erased true) := by
    have room : ¬ (second.removeEntry 1 ⟨11589508547809492868, some (), 0⟩).slots.length <
        (second.removeEntry 1 ⟨11589508547809492868, some (), 0⟩).tomb * 2 := by
      rw [removeEntry, List.length_set, length_second]
      simp [second]
    have call : erase (fun key => key) second 1 = some (erased, true) := by
      have present : second.entries[1]? =
          some ⟨11589508547809492868, some (), 0⟩ := rfl
      unfold erase
      simp only [present]
      rw [if_neg (by simp), if_neg room]
      rfl
    rw [exec, call]
    rfl
  have length_erased : erased.slots.length = 2 ^ 33 := by rw [List.length_set, length_second]
  have missed : find (fun key => key) erased 0 = some none := by
    have home_eq : home (fun key : UInt64 => key) 0 (erased.slots.length - 1) = 0 := by
      rw [length_erased]
      decide
    have tombstone : erased.slots.getD 0 kEmpty = kTomb := by
      change (second.slots.set 0 kTomb).getD 0 kEmpty = kTomb
      rw [getD_set, if_pos ⟨rfl, by rw [length_second]; decide⟩]
    have gap : erased.slots.getD 1 kEmpty = kEmpty := by
      change (((slots.set 0 0).set (2 ^ 32) 1).set 0 kTomb).getD 1 kEmpty = kEmpty
      rw [getD_set, if_neg (by simp), getD_set, if_neg (by simp), getD_set, if_neg (by simp),
        vacant]
    have buried : erased.findVisit 0 () 0 = .inr () := by
      rw [findVisit, tombstone]
      rfl
    have next : probeNext (erased.slots.length - 1) 0 = 1 := by
      rw [length_erased]
      decide
    have empty : erased.findVisit 0 () 1 = .inl none := by
      rw [findVisit, gap]
      rfl
    have visits : ∀ fuel, 2 ≤ fuel →
        Foundation.walk (probeNext (erased.slots.length - 1)) (erased.findVisit 0) fuel () 0 =
          some none := by
      intro fuel enough
      obtain ⟨more, rfl⟩ := Nat.exists_eq_add_of_le' enough
      rw [Foundation.walk, buried]
      change Foundation.walk _ _ (more + 1) () (probeNext (erased.slots.length - 1) 0) = _
      rw [next, Foundation.walk, empty]
    rw [find, if_neg (nonempty length_erased)]
    change Foundation.walk (probeNext (erased.slots.length - 1)) (erased.findVisit 0)
      erased.slots.length () (home (fun key => key) 0 (erased.slots.length - 1)) = some none
    rw [home_eq]
    exact visits _ (by rw [length_erased]; decide)
  refine ⟨[(.reserve (2 ^ 32), .done), (.emplace 0 (), .emplaced 0 true),
    (.emplace 11589508547809492868 (), .emplaced 1 true), (.erase 1, .erased true)],
    erased, ?_, by decide, missed⟩
  exact (((Foundation.Machine.Run.origin.next (step_eq_some.mpr call_reserve) trivial).next
    (step_eq_some.mpr call_first) trivial).next (step_eq_some.mpr call_second) trivial).next
    (step_eq_some.mpr call_erase) trivial

end Wide

end FlatMap

end Stack

end Gsml3
