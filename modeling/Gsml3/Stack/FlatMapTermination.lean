import Gsml3.Stack.FlatMapCalls

/-!
# Termination of the probe loops

The probe loops stop at an empty slot only.  Growth counts live entries and the
tombstone cleanup runs on `erase`, so entries and tombstones together can fill
the table; `full_table` is such a run.  `Roomy` excludes the calls that take
the last empty slot, and under it every call returns and every table keeps an
empty slot.
-/

namespace Gsml3

namespace Stack

namespace FlatMap

variable {Key Value : Type*} {hash : Key → UInt64}

/-- The insertion check makes the table grow. -/
def Grows (map : FlatMap Key Value) : Prop :=
  map.slots.length * 7 < (map.size + 1) * 10

/-- Side condition of a call on the map before it: a new key whose probe path
passes no tombstone finds a second empty slot or makes the table grow, and the
table stays within `2 ^ 32` slots. -/
def Roomy (hash : Key → UInt64) (map : FlatMap Key Value) : Op Key Value → Prop
  | .emplace key _ =>
      (Valid.EntersEmpty hash map key →
        map.size + map.tomb + 1 < map.slots.length ∨ Grows map) ∧
      (Absent map key → Grows map → map.slots.length * 2 ≤ 2 ^ 32)
  | .reserve expectedEntries => expectedEntries + expectedEntries / 3 + 1 ≤ 2 ^ 32
  | _ => True

/-- Every key is absent or has a live entry. -/
theorem absent_or_present (map : FlatMap Key Value) (key : Key) :
    Absent map key ∨ ∃ idx value, map.pairAt idx = some (key, value) := by
  by_cases present : ∃ idx value, map.pairAt idx = some (key, value)
  · exact .inr present
  · refine .inl fun idx value found => ?_
    exact present ⟨idx, value, found⟩

private theorem nextPow2From_bounded {fuel k v : Nat} (small : v ≤ 2 ^ 32) (exponent : k ≤ 32)
    (enough : 32 < fuel + k) :
    ∃ cap, nextPow2From fuel (2 ^ k) v = some cap ∧ cap ≤ 2 ^ 32 := by
  induction fuel generalizing k with
  | zero => omega
  | succ fuel ih =>
      have le : 2 ^ k ≤ 2 ^ 32 := Nat.pow_le_pow_right (by decide) exponent
      rw [nextPow2From]
      split
      case isTrue below =>
        have lt : k < 32 := (Nat.pow_lt_pow_iff_right (by decide)).mp (below.trans_le small)
        have next : 2 ^ k * 2 % 2 ^ 64 = 2 ^ (k + 1) := by
          rw [← pow_succ]
          exact Nat.mod_eq_of_lt (Nat.pow_lt_pow_right (by decide) (by omega))
        rw [next]
        exact ih lt (by omega)
      case isFalse => exact ⟨2 ^ k, rfl, le⟩

theorem nextPow2_bounded {v : Nat} (small : v ≤ 2 ^ 32) :
    ∃ cap, nextPow2 v = some cap ∧ cap ≤ 2 ^ 32 :=
  nextPow2From_bounded (k := 3) small (by decide) (by decide)

/-- A valid map whose table, once created, has an empty slot. -/
structure Spacious (hash : Key → UInt64) (map : FlatMap Key Value) : Prop extends
    Valid hash map where
  room : map.slots ≠ [] → map.size + map.tomb < map.slots.length

theorem spacious_empty : Spacious hash ({} : FlatMap Key Value) where
  toValid := valid_empty
  room := fun nonempty => absurd rfl nonempty

namespace Spacious

variable {map map' : FlatMap Key Value}

/-- A valid map without tombstones is spacious. -/
theorem of_clean (valid : Valid hash map) (clean : map.tomb = 0) : Spacious hash map := by
  refine ⟨valid, fun nonempty => ?_⟩
  have load := valid.load
  have positive := List.length_pos_iff.mpr nonempty
  omega

theorem exists_empty (spacious : Spacious hash map) (nonempty : map.slots ≠ []) :
    ∃ i < map.slots.length, map.slots.getD i kEmpty = kEmpty :=
  spacious.toSound.exists_empty (spacious.room nonempty)

/-- The table of a nonempty spacious map holds an empty slot. -/
theorem empty_mem (spacious : Spacious hash map) (nonempty : map.slots ≠ []) :
    kEmpty ∈ map.slots := by
  obtain ⟨i, inside, empty⟩ := spacious.exists_empty nonempty
  rw [List.getD_eq_getElem _ _ inside] at empty
  rw [← empty]
  exact List.getElem_mem inside

/-- The prepared table has an empty slot as well. -/
theorem prepared (spacious : Spacious hash map) {table : FlatMap Key Value}
    (prepared : Valid.Prepared hash map table) : Spacious hash table := by
  by_cases empty : map.slots = []
  · exact .of_clean prepared.valid (prepared.created empty).2.1
  · rw [prepared.same empty]
    exact spacious

section Erase

variable [Inhabited Key]

theorem erase (spacious : Spacious hash map) {idx : Nat} {flag : Bool}
    (run : FlatMap.erase hash map idx = some (map', flag)) : Spacious hash map' := by
  cases found : map.pairAt idx with
  | none =>
      rw [Valid.erase_dead hash found] at run
      obtain ⟨rfl, -⟩ := Prod.mk.inj (Option.some.inj run)
      exact spacious
  | some pair =>
      obtain ⟨target, call, valid, -, size, length, tomb⟩ := spacious.toValid.erase_live found
      rw [call] at run
      obtain ⟨rfl, -⟩ := Prod.mk.inj (Option.some.inj run)
      rcases tomb with more | clean
      · refine ⟨valid, fun nonempty => ?_⟩
        have standing : map.slots ≠ [] := (spacious.toSound.meets found).1
        have room := spacious.room standing
        omega
      · exact .of_clean valid clean

theorem erase_isSome (spacious : Spacious hash map) (idx : Nat) :
    (FlatMap.erase hash map idx).isSome := by
  cases found : map.pairAt idx with
  | none => rw [Valid.erase_dead hash found]; rfl
  | some pair =>
      obtain ⟨target, call, -⟩ := spacious.toValid.erase_live found
      rw [call]
      rfl

end Erase

theorem clear (spacious : Spacious hash map) : Spacious hash map.clear :=
  .of_clean spacious.toValid.clear.1 rfl

theorem reserve_bounded {expectedEntries : Nat}
    (small : expectedEntries + expectedEntries / 3 + 1 ≤ 2 ^ 32) :
    ∃ cap, nextPow2 ((expectedEntries + expectedEntries / 3 + 1) % 2 ^ 64) = some cap ∧
      cap ≤ 2 ^ 32 := by
  rw [Nat.mod_eq_of_lt (by omega)]
  exact nextPow2_bounded small

theorem reserve_isSome (spacious : Spacious hash map) {expectedEntries : Nat}
    (small : expectedEntries + expectedEntries / 3 + 1 ≤ 2 ^ 32) :
    ∃ target, FlatMap.reserve hash map expectedEntries = some target ∧
      (map.slots.length ≤ 2 ^ 32 → target.slots.length ≤ 2 ^ 32) := by
  obtain ⟨cap, power_run, bounded⟩ := reserve_bounded small
  obtain ⟨k, power⟩ := nextPow2_spec power_run
  rw [FlatMap.reserve, power_run, Option.bind_some]
  split
  case isTrue larger =>
    obtain ⟨target, run, -, -, length, -⟩ := spacious.toValid.rehash power bounded larger.le
    exact ⟨target, run, fun _ => length ▸ bounded⟩
  case isFalse => exact ⟨map, rfl, id⟩

theorem narrow (spacious : Spacious hash map) : map.slots.length ≤ 2 ^ 32 := by
  by_cases empty : map.slots = []
  · rw [empty]
    exact Nat.zero_le _
  · exact (spacious.placed empty).narrow

theorem reserve (spacious : Spacious hash map) {expectedEntries : Nat}
    (small : expectedEntries + expectedEntries / 3 + 1 ≤ 2 ^ 32)
    (run : FlatMap.reserve hash map expectedEntries = some map') : Spacious hash map' := by
  obtain ⟨target, run', narrow⟩ := spacious.reserve_isSome small
  obtain rfl : target = map' := Option.some.inj (run'.symm.trans run)
  obtain ⟨valid, -, -, same | ⟨clean, -⟩⟩ := spacious.toValid.reserve run (narrow spacious.narrow)
  · rw [same]
    exact spacious
  · exact .of_clean valid clean

section Probing

variable [DecidableEq Key]

theorem find_isSome (spacious : Spacious hash map) (key : Key) :
    (FlatMap.find hash map key).isSome :=
  spacious.toSound.find_isSome spacious.exists_empty key

/-- The probe loop of `emplace` ends. -/
theorem locate_isSome (spacious : Spacious hash map) :
    ∃ table, FlatMap.prepare hash map = some table ∧ Valid.Prepared hash map table ∧
      ∀ key, (locate hash table key).isSome := by
  obtain ⟨table, created, prepared⟩ := spacious.toValid.prepare
  refine ⟨table, created, prepared, fun key => ?_⟩
  exact prepared.valid.toSound.locate_isSome prepared.nonempty
    ((spacious.prepared prepared).exists_empty prepared.nonempty) key

/-- A roomy insertion returns and keeps an empty slot. -/
theorem emplace_absent (spacious : Spacious hash map) {key : Key} {value : Value}
    (roomy : Roomy hash map (.emplace key value)) (absent : Absent map key) :
    ∃ target reply, FlatMap.emplace hash map key value = some (target, reply) ∧
      Spacious hash target := by
  obtain ⟨table, created, prepared, ends⟩ := spacious.locate_isSome
  obtain ⟨target, idx, tombstone, insertion⟩ :=
    spacious.toValid.insertion value absent created (ends key)
  have inserted := insertion.inserted
  have room := (spacious.prepared prepared).room prepared.nonempty
  rw [insertion.call]
  rcases prepared.valid.grow prepared.nonempty inserted with
    ⟨dense, spec⟩ | ⟨sparse, same, valid⟩
  · have narrow : table.slots.length * 2 ≤ 2 ^ 32 := by
      by_cases empty : map.slots = []
      · rw [(prepared.created empty).2.2]
        decide
      · have same := prepared.same empty
        subst same
        exact roomy.2 absent dense
    obtain ⟨grown, run, valid, -, -, -, clean⟩ := spec narrow
    exact ⟨grown, (idx, true), by rw [run]; rfl, .of_clean valid clean⟩
  · refine ⟨target, (idx, true), by rw [same]; rfl, valid, fun _ => ?_⟩
    rw [inserted.size, inserted.tomb, inserted.length]
    cases tombstone with
    | true =>
        have reused := insertion.reused rfl
        simp only [↓reduceIte]
        omega
    | false =>
        simp only [Bool.false_eq_true, ↓reduceIte]
        by_cases empty : map.slots = []
        · obtain ⟨size, tomb, length⟩ := prepared.created empty
          omega
        · have same := prepared.same empty
          subst same
          rcases roomy.1 (insertion.entered rfl) with second | grows
          · omega
          · exact absurd grows sparse

theorem emplace (spacious : Spacious hash map) {key : Key} {value : Value}
    (roomy : Roomy hash map (.emplace key value)) :
    ∃ target reply, FlatMap.emplace hash map key value = some (target, reply) ∧
      Spacious hash target := by
  rcases absent_or_present map key with absent | ⟨idx, old, found⟩
  · exact spacious.emplace_absent roomy absent
  · exact ⟨map, (idx, false), spacious.toValid.emplace_present found value, spacious⟩

end Probing

variable [DecidableEq Key] [Inhabited Key]

/-- Roomy calls return and keep an empty slot. -/
theorem exec (spacious : Spacious hash map) {op : Op Key Value} (roomy : Roomy hash map op) :
    ∃ target reply, FlatMap.exec hash map op = some (target, reply) ∧
      Spacious hash target := by
  cases op with
  | emplace key value =>
      obtain ⟨target, reply, run, kept⟩ := spacious.emplace roomy
      exact ⟨target, .emplaced reply.1 reply.2, by rw [FlatMap.exec, run]; rfl, kept⟩
  | erase idx =>
      obtain ⟨⟨target, flag⟩, run⟩ := Option.isSome_iff_exists.mp (spacious.erase_isSome idx)
      exact ⟨target, .erased flag, by rw [FlatMap.exec, run]; rfl, spacious.erase run⟩
  | find key =>
      obtain ⟨found, run⟩ := Option.isSome_iff_exists.mp (spacious.find_isSome key)
      exact ⟨map, .found found, by rw [FlatMap.exec, run]; rfl, spacious⟩
  | reserve expectedEntries =>
      obtain ⟨target, run, -⟩ := spacious.reserve_isSome roomy
      exact ⟨target, .done, by rw [FlatMap.exec, run]; rfl, spacious.reserve roomy run⟩
  | clear => exact ⟨map.clear, .done, rfl, spacious.clear⟩

end Spacious

section Runs

variable [DecidableEq Key] [Inhabited Key]

/-- A run of roomy calls only passes through maps with an empty slot. -/
theorem spacious_of_run {events : List (Op Key Value × Reply)} {map : FlatMap Key Value}
    (run : (machine hash).Run (fun source event _ => Roomy hash source event.1) {} events map) :
    Spacious hash map := by
  refine run.invariant (fun _ state => Spacious hash state) spacious_empty ?_
  intro _ source target event spacious stepped roomy
  obtain ⟨kept, reply, call, spacious'⟩ := spacious.exec roomy
  rw [step_eq_some, call] at stepped
  obtain ⟨rfl, -⟩ := Prod.mk.inj (Option.some.inj stepped)
  exact spacious'

/-- In every state a run of roomy calls reaches, a created table has an empty
slot, the probe loops of `find` and `emplace` end for every key, and every
roomy call returns. -/
theorem probes_end {events : List (Op Key Value × Reply)} {map : FlatMap Key Value}
    (run : (machine hash).Run (fun source event _ => Roomy hash source event.1) {} events map) :
    (map.slots ≠ [] → kEmpty ∈ map.slots) ∧
      (∀ key, (find hash map key).isSome) ∧
      (∃ table, prepare hash map = some table ∧ ∀ key, (locate hash table key).isSome) ∧
      ∀ op, Roomy hash map op → (exec hash map op).isSome := by
  have spacious := spacious_of_run run
  obtain ⟨table, created, -, ends⟩ := spacious.locate_isSome
  refine ⟨spacious.empty_mem, spacious.find_isSome, ⟨table, created, ends⟩, fun op roomy => ?_⟩
  obtain ⟨target, reply, call, -⟩ := spacious.exec roomy
  rw [call]
  rfl

/-- Four keys from the first half of the table are erased and four from the
second half inserted: the table is full of tombstones and entries, and the
probe loop for a further key of the first half does not end after any number
of visits. -/
theorem full_table :
    ∃ (events : List (Op UInt64 Unit × Reply)) (map : FlatMap UInt64 Unit),
      (machine fun key => key).Run (fun _ _ _ => True) {} events map ∧
        map.slots ≠ [] ∧ kEmpty ∉ map.slots ∧
        (∀ fuel, Foundation.walk (probeNext (map.slots.length - 1)) (map.findVisit 3) fuel ()
          (home (fun key => key) 3 (map.slots.length - 1)) = none) ∧
        locate (fun key => key) map 3 = none := by
  have executed : (machine fun key : UInt64 => key).exec (fun _ _ _ => True)
      ({} : FlatMap UInt64 Unit)
      [(.emplace 0 (), .emplaced 0 true), (.emplace 10 (), .emplaced 1 true),
        (.emplace 2 (), .emplaced 2 true), (.emplace 22 (), .emplaced 3 true),
        (.erase 0, .erased true), (.erase 1, .erased true),
        (.erase 2, .erased true), (.erase 3, .erased true),
        (.emplace 4 (), .emplaced 3 true), (.emplace 1 (), .emplaced 2 true),
        (.emplace 17 (), .emplaced 1 true), (.emplace 9 (), .emplaced 0 true)] =
      some { entries := [⟨9, some (), 7⟩, ⟨17, some (), 6⟩, ⟨1, some (), 5⟩, ⟨4, some (), 4⟩]
             slots := [kTomb, kTomb, kTomb, kTomb, 3, 2, 1, 0]
             size := 4
             tomb := 4 } := by
    decide
  refine ⟨_, _, .exec _ .origin executed, by decide, by decide, fun fuel => ?_, by decide⟩
  refine @Foundation.walk_none_of_cycle _ _ _ _ _ ?_ 8 _ _ (by decide) ?_ ?_ fuel
  · intro memory memory' position
    rfl
  · decide
  · decide

/-- Erasing and inserting again in a table with room. -/
theorem probes_end_reused :
    kEmpty ∈ ([kEmpty, kEmpty, kEmpty, kEmpty, 0, kTomb, kEmpty, kEmpty] : List UInt32) ∧
      (find (fun key => key) (⟨[⟨4, some (), 4⟩],
        [kEmpty, kEmpty, kEmpty, kEmpty, 0, kTomb, kEmpty, kEmpty], [], 1, 1⟩ :
          FlatMap UInt64 Unit) 1).isSome := by
  let inserted : FlatMap UInt64 Unit := ⟨[⟨1, some (), 5⟩],
    [kEmpty, kEmpty, kEmpty, kEmpty, kEmpty, 0, kEmpty, kEmpty], [], 1, 0⟩
  let erased : FlatMap UInt64 Unit := ⟨[⟨0, none, 5⟩],
    [kEmpty, kEmpty, kEmpty, kEmpty, kEmpty, kTomb, kEmpty, kEmpty], [0], 0, 1⟩
  let reused : FlatMap UInt64 Unit := ⟨[⟨4, some (), 4⟩],
    [kEmpty, kEmpty, kEmpty, kEmpty, 0, kTomb, kEmpty, kEmpty], [], 1, 1⟩
  have first : (machine fun key : UInt64 => key).step {} (.emplace 1 (), .emplaced 0 true) =
      some inserted := by
    decide
  have second : (machine fun key : UInt64 => key).step inserted (.erase 0, .erased true) =
      some erased := by
    decide
  have third : (machine fun key : UInt64 => key).step erased
      (.emplace 4 (), .emplaced 0 true) = some reused := by
    decide
  have ends := probes_end
    (((Foundation.Machine.Run.origin.next first
      ⟨fun enters => by obtain ⟨-, step, inside, -⟩ := enters; exact absurd inside (by simp),
        fun _ _ => by decide⟩).next second trivial).next third
      ⟨fun _ => .inl (by decide), fun _ _ => by decide⟩)
  exact ⟨ends.1 (by decide), ends.2.1 1⟩

end Runs

end FlatMap

end Stack

end Gsml3
