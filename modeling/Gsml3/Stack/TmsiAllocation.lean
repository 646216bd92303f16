import Gsml3.Stack.FlatMapOpen
import Gsml3.Stack.TmsiTable

/-!
# Allocation of TMSIs

The scan for a free TMSI tries as many consecutive values as there are sessions and two more.  One
of them may be zero and each session has one, so the scan succeeds, however the counter wraps.  It
looks the values up in the TMSI table, and the lookup of a free one ends only as long as the table
is open: `scan_never_ends` is a run that fills it with tombstones.
-/

namespace Gsml3

namespace Stack

namespace SubscriberRegistry

variable {hash : UInt32 → UInt64} {reg : SubscriberRegistry}
variable {map : FlatMap UInt32 SubscriberSession}

/-- The TMSI may be assigned, and no live session uses it. -/
def Available (reg : SubscriberRegistry) (tmsi : UInt32) : Prop :=
  tmsi ≠ 0 ∧ ∀ ref session, reg.sessionAt ref = some session → session.assignedTmsi ≠ tmsi

/-- A session is created for an IMSI, with a TMSI that was available. -/
def Allocates (hash : UInt32 → UInt64) (reg : SubscriberRegistry) (imsi : Imsi) : Prop :=
  ∃ target ref session, createByIMSI hash reg imsi = some (target, some ref) ∧
    target.sessionAt ref = some session ∧ reg.Available session.assignedTmsi

/-- A key that the scan accepts. -/
def FreeKey (map : FlatMap UInt32 SubscriberSession) (tmsi : UInt32) : Prop :=
  tmsi ≠ 0 ∧ FlatMap.Absent map tmsi

theorem FreeKey.available (issued : Issued hash reg.byTMSI) {tmsi : UInt32}
    (free : FreeKey reg.byTMSI tmsi) : reg.Available tmsi := by
  refine ⟨free.1, fun ref session live used => ?_⟩
  rw [sessionAt, FlatMap.valueAt_eq] at live
  obtain ⟨⟨key, held⟩, found, rfl⟩ := Option.map_eq_some_iff.mp live
  rw [issued.own ref key held found] at used
  exact free.2 ref held (used ▸ found)

/-! ## The scan -/

/-- The values that the scan tries are different. -/
theorem candidate_inj {tmsi : UInt32} {i j : Nat} (i_lt : i < 2 ^ 32) (j_lt : j < 2 ^ 32)
    (same : tmsi + UInt32.ofNat i = tmsi + UInt32.ofNat j) : i = j := by
  have values := congrArg UInt32.toNat (add_left_cancel same)
  rwa [UInt32.toNat_ofNat_of_lt' i_lt, UInt32.toNat_ofNat_of_lt' j_lt] at values

/-- One of the values that the scan tries is free. -/
theorem exists_free (issued : Issued hash map) (narrow : map.slots.length ≤ 2 ^ 32)
    (tmsi : UInt32) : ∃ j ≤ map.size + 1, FreeKey map (tmsi + UInt32.ofNat j) := by
  have load := issued.load
  have fits : map.size + 2 ≤ 2 ^ 32 := by omega
  have tried : ((Finset.range (map.size + 2)).image fun j => tmsi + UInt32.ofNat j).card =
      map.size + 2 := by
    rw [Finset.card_image_of_injOn, Finset.card_range]
    intro i i_lt j j_lt same
    exact candidate_inj ((Finset.mem_range.mp i_lt).trans_le fits)
      ((Finset.mem_range.mp j_lt).trans_le fits) same
  have taken : (insert 0 map.keys.toFinset).card ≤ map.size + 1 := by
    refine (Finset.card_insert_le _ _).trans (Nat.succ_le_succ ?_)
    refine (List.toFinset_card_le _).trans_eq ?_
    rw [FlatMap.length_keys, issued.live]
  obtain ⟨value, among, free⟩ := Finset.exists_mem_notMem_of_card_lt_card
    (show (insert 0 map.keys.toFinset).card < _ by rw [tried]; omega)
  obtain ⟨j, j_lt, rfl⟩ := Finset.mem_image.mp among
  rw [Finset.mem_insert, not_or, List.mem_toFinset] at free
  exact ⟨j, Nat.le_of_lt_succ (Finset.mem_range.mp j_lt), free.1,
    FlatMap.absent_of_not_mem_keys free.2⟩

/-- The test of a value in an open table. -/
theorem taken_eq (issued : Issued hash map) (room : FlatMap.Open map) (tmsi : UInt32) :
    (if tmsi = 0 then some true
        else (FlatMap.find hash map tmsi).map Option.isSome) = some true ∧ ¬ FreeKey map tmsi ∨
      (if tmsi = 0 then some true
        else (FlatMap.find hash map tmsi).map Option.isSome) = some false ∧ FreeKey map tmsi := by
  by_cases zero : tmsi = 0
  · rw [if_pos zero]
    exact .inl ⟨rfl, fun free => free.1 zero⟩
  · obtain ⟨found, run⟩ := Option.isSome_iff_exists.mp (issued.toValid.find_isSome room tmsi)
    rw [if_neg zero, run, Option.map_some]
    rcases issued.toSound.find_cases run with ⟨rfl, absent⟩ | ⟨idx, session, rfl, present⟩
    · exact .inr ⟨rfl, zero, absent⟩
    · exact .inl ⟨rfl, fun free => free.2 idx session present⟩

/-- In an open table the scan ends at a free value. -/
theorem nextFreeTmsi_open (issued : Issued hash map) (room : FlatMap.Open map) {remaining : Nat}
    {tmsi : UInt32} (free : ∃ j ≤ remaining, FreeKey map (tmsi + UInt32.ofNat j)) :
    ∃ found next, nextFreeTmsi hash map remaining tmsi (tmsi + 1) = some (some found, next) ∧
      FreeKey map found := by
  induction remaining generalizing tmsi with
  | zero =>
      obtain ⟨j, j_le, free⟩ := free
      obtain rfl := Nat.le_zero.mp j_le
      rw [show UInt32.ofNat 0 = 0 from rfl, UInt32.add_zero] at free
      rcases taken_eq issued room tmsi with ⟨-, taken⟩ | ⟨test, free⟩
      · exact absurd free taken
      · rw [nextFreeTmsi, test]
        exact ⟨tmsi, tmsi + 1, rfl, free⟩
  | succ remaining ih =>
      rcases taken_eq issued room tmsi with ⟨test, taken⟩ | ⟨test, free⟩
      · obtain ⟨j, j_le, free⟩ := free
        cases j with
        | zero =>
            rw [show UInt32.ofNat 0 = 0 from rfl, UInt32.add_zero] at free
            exact absurd free taken
        | succ j =>
            rw [nextFreeTmsi, test]
            apply ih
            refine ⟨j, Nat.le_of_succ_le_succ j_le, ?_⟩
            have next : tmsi + 1 + UInt32.ofNat j = tmsi + UInt32.ofNat (j + 1) := by
              rw [UInt32.ofNat_add, UInt32.add_assoc, UInt32.add_comm 1]
              rfl
            rwa [next]
      · rw [nextFreeTmsi, test]
        exact ⟨tmsi, tmsi + 1, rfl, free⟩

theorem missed_of_test {tmsi : UInt32}
    (test : (if tmsi = 0 then some true
      else (FlatMap.find hash map tmsi).map Option.isSome) = some false) :
    FlatMap.find hash map tmsi = some none := by
  split at test
  case isTrue => cases test
  case isFalse =>
    obtain ⟨found, run, missed⟩ := Option.map_eq_some_iff.mp test
    rw [run, Option.isSome_eq_false_iff.mp missed |> Option.isNone_iff_eq_none.mp]

/-- The scan has missed the value it ends at. -/
theorem nextFreeTmsi_missed {remaining : Nat} {tmsi next found last : UInt32}
    (run : nextFreeTmsi hash map remaining tmsi next = some (some found, last)) :
    FlatMap.find hash map found = some none := by
  induction remaining generalizing tmsi next with
  | zero =>
      rw [nextFreeTmsi] at run
      obtain ⟨taken, test, rest⟩ := Option.bind_eq_some_iff.mp run
      cases taken with
      | true => cases rest
      | false =>
          obtain ⟨⟨rfl⟩, -⟩ := Prod.mk.inj (Option.some.inj rest)
          exact missed_of_test test
  | succ remaining ih =>
      rw [nextFreeTmsi] at run
      obtain ⟨taken, test, rest⟩ := Option.bind_eq_some_iff.mp run
      cases taken with
      | true => exact ih rest
      | false =>
          obtain ⟨⟨rfl⟩, -⟩ := Prod.mk.inj (Option.some.inj rest)
          exact missed_of_test test

/-! ## Allocation -/

theorem exists_available (issued : Issued hash reg.byTMSI)
    (narrow : reg.byTMSI.slots.length ≤ 2 ^ 32) : ∃ tmsi, reg.Available tmsi := by
  obtain ⟨j, -, free⟩ := exists_free issued narrow 0
  exact ⟨_, free.available issued⟩

/-- In an open table an absent IMSI gets a session. -/
theorem createByIMSI_open (issued : Issued hash reg.byTMSI)
    (narrow : reg.byTMSI.slots.length ≤ 2 ^ 32) (room : FlatMap.Open reg.byTMSI) {imsi : Imsi}
    (absent : reg.byIMSI.lookup imsi = none) : Allocates hash reg imsi := by
  obtain ⟨tmsi, next, scan, free⟩ :=
    nextFreeTmsi_open issued room (exists_free issued narrow reg.nextAutoTmsi)
  obtain ⟨byTMSI, ref, inserted, value⟩ := issued.toValid.emplace_open room free.2 {}
  let named : SubscriberSession → SubscriberSession := fun s =>
    { s with context.identity := .ofIMSI imsi, assignedTmsi := tmsi }
  refine ⟨{ reg with
    nextAutoTmsi := next
    byTMSI := byTMSI.modifyAt ref named
    byIMSI := reg.byIMSI.insert imsi tmsi
    count := reg.count + 1 }, ref, named {}, ?_, ?_, free.available issued⟩
  · rw [createByIMSI, absent, if_neg (by simp), scan, Option.bind_some]
    dsimp only
    rw [inserted]
    rfl
  · rw [sessionAt, FlatMap.valueAt_modifyAt, FlatMap.setValue_self, value]
    rfl

/-- A session is created only for a key that the table was found not to hold. -/
theorem createByIMSI_missed {target : SubscriberRegistry} {ref : SessionRef} {imsi : Imsi}
    (run : createByIMSI hash reg imsi = some (target, some ref)) :
    ∃ tmsi, FlatMap.find hash reg.byTMSI tmsi = some none := by
  rw [createByIMSI] at run
  split at run
  case isTrue => cases run
  case isFalse =>
    obtain ⟨⟨found, next⟩, scan, rest⟩ := Option.bind_eq_some_iff.mp run
    cases found with
    | none => cases rest
    | some tmsi => exact ⟨tmsi, nextFreeTmsi_missed scan⟩

/-- The call for an IMSI without a session returns, with a session if a TMSI is left, exactly when
the table is open. -/
theorem allocates_iff {events : List (Op × Reply)}
    (run : (machine hash).Run NarrowStep {} events reg) {imsi : Imsi}
    (absent : reg.byIMSI.lookup imsi = none) :
    (createByIMSI hash reg imsi).isSome ∧
        ((∃ tmsi, reg.Available tmsi) → Allocates hash reg imsi) ↔
      FlatMap.Open reg.byTMSI := by
  obtain ⟨issued, narrow⟩ := issued_of_run run
  constructor
  · rintro ⟨-, allocates⟩
    obtain ⟨target, ref, session, created, -, -⟩ := allocates (exists_available issued narrow)
    obtain ⟨tmsi, missed⟩ := createByIMSI_missed created
    exact issued.toValid.open_of_missed missed
  · intro room
    have allocated := createByIMSI_open issued narrow room absent
    obtain ⟨target, ref, session, created, -, -⟩ := id allocated
    exact ⟨Option.isSome_iff_exists.mpr ⟨_, created⟩, fun _ => allocated⟩

/-- The counter meets a TMSI that was assigned. -/
private def assigned : List (Op × Reply) :=
  [(.createByTMSI 1, .created (some (0, 1))), (.createByTMSI 3, .created (some (1, 3))),
    (.remove 1, .removed true)]

theorem allocates_iff_assigned :
    ∃ reg, (machine UInt32.toUInt64).exec NarrowStep {} assigned = some reg ∧
      Allocates UInt32.toUInt64 reg ['2'] := by
  obtain ⟨reg, executed⟩ := Option.isSome_iff_exists.mp (show
    ((machine UInt32.toUInt64).exec NarrowStep {} assigned).isSome by decide)
  have state : ∀ reg ∈ (machine UInt32.toUInt64).exec NarrowStep {} assigned,
      reg.byIMSI.lookup ['2'] = none ∧ FlatMap.Open reg.byTMSI := by
    decide
  obtain ⟨absent, room⟩ := state reg executed
  have run : (machine UInt32.toUInt64).Run NarrowStep {} assigned reg := .exec _ .origin executed
  obtain ⟨issued, narrow⟩ := issued_of_run run
  exact ⟨reg, executed,
    ((allocates_iff run absent).mpr room).2 (exists_available issued narrow)⟩

/-- Four sessions are removed, and four with other home slots created. -/
private def filled : List (Op × Reply) :=
  [(.createByTMSI 3, .created (some (0, 3))), (.createByTMSI 10, .created (some (1, 10))),
    (.createByTMSI 2, .created (some (2, 2))), (.createByTMSI 22, .created (some (3, 22))),
    (.remove 0, .removed true), (.remove 1, .removed true),
    (.remove 2, .removed true), (.remove 3, .removed true),
    (.createByTMSI 4, .created (some (3, 4))), (.createByTMSI 1, .created (some (2, 1))),
    (.createByTMSI 17, .created (some (1, 17))), (.createByTMSI 9, .created (some (0, 9)))]

/-- Tombstones and sessions fill the table, and the scan looks TMSI 2 up forever. -/
theorem scan_never_ends :
    ∃ (events : List (Op × Reply)) (reg : SubscriberRegistry),
      (machine UInt32.toUInt64).Run NarrowStep {} events reg ∧
        reg.byIMSI.lookup ['1'] = none ∧ (∃ tmsi, reg.Available tmsi) ∧
        createByIMSI UInt32.toUInt64 reg ['1'] = none ∧
        ∀ fuel, Foundation.walk (FlatMap.probeNext (reg.byTMSI.slots.length - 1))
          (reg.byTMSI.findVisit 2) fuel ()
            (FlatMap.home UInt32.toUInt64 2 (reg.byTMSI.slots.length - 1)) = none := by
  obtain ⟨reg, executed⟩ := Option.isSome_iff_exists.mp (show
    ((machine UInt32.toUInt64).exec NarrowStep {} filled).isSome by decide)
  have state : ∀ reg ∈ (machine UInt32.toUInt64).exec NarrowStep {} filled,
      reg.byIMSI.lookup ['1'] = none ∧ (createByIMSI UInt32.toUInt64 reg ['1']).isNone ∧
        reg.byTMSI.slots.length = 8 ∧ Foundation.walk (FlatMap.probeNext 7)
          (reg.byTMSI.findVisit 2) 8 () (FlatMap.home UInt32.toUInt64 2 7) = none := by
    decide +kernel
  obtain ⟨absent, stuck, length, circles⟩ := state reg executed
  have run : (machine UInt32.toUInt64).Run NarrowStep {} filled reg := .exec _ .origin executed
  obtain ⟨issued, narrow⟩ := issued_of_run run
  refine ⟨filled, reg, run, absent, exists_available issued narrow,
    Option.isNone_iff_eq_none.mp stuck, fun fuel => ?_⟩
  rw [length]
  exact @Foundation.walk_none_of_cycle _ _ _ _ _ (fun _ _ _ => rfl) 8 _ _ (by decide)
    (by decide) circles fuel

end SubscriberRegistry

end Stack

end Gsml3
