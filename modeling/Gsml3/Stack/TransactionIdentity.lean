import Gsml3.Stack.Transactions

/-!
# Identity of transactions

The identifier `create` returns names its slot, so it stands for the transaction
last created under it until that one finishes.  `owners` reads this off the
calls and their replies alone.
-/

namespace Gsml3

namespace Stack

namespace TransactionManager

/-- The pending transaction an identifier stands for. -/
abbrev Owners := UInt32 → Option Transaction

/-- What an answered call does to the owners of the identifiers. -/
def recordOwner (owners : Owners) : Op × Reply → Owners
  | (.create pd mti ti timerId, .created (some id)) =>
      Function.update owners id
        (some { requestPD := pd, requestMTI := mti, ti := ti, timerId := timerId })
  | (.finish slot _, _) =>
      fun id => (owners id).filter fun _ => id ≠ UInt32.ofNat slot + 1 ∨ maxTransactions ≤ slot
  | (.onTimerExpired timerId, _) =>
      fun id => (owners id).filter fun tx => tx.timerId ≠ timerId
  | _ => owners

/-- For every identifier the transaction last created under it, unless it
finished since. -/
def ownersOf (events : List (Op × Reply)) : Owners :=
  events.foldl recordOwner fun _ => none

theorem ownersOf_snoc (past : List (Op × Reply)) (event : Op × Reply) :
    ownersOf (past ++ [event]) = recordOwner (ownersOf past) event := by
  rw [ownersOf, List.foldl_append]
  rfl

/-- The transaction an identifier resolves to through `get`. -/
def resolve (mgr : TransactionManager) (id : UInt32) : Option Transaction :=
  (mgr.get id).bind mgr.txAt

/-- The number of occupied slots. -/
def occupied (mgr : TransactionManager) : Nat :=
  mgr.slots.countP fun slot => slot.isSome

/-- Identifiers resolve to their owners and the occupied slots are counted. -/
structure Identified (owners : Owners) (mgr : TransactionManager) : Prop where
  resolves : ∀ id, mgr.resolve id = owners id
  counted : mgr.count = mgr.occupied

section Resolve

variable {mgr : TransactionManager}

theorem resolve_eq_some {id : UInt32} {tx : Transaction} :
    mgr.resolve id = some tx ↔ mgr.txAt (id - 1).toNat = some tx ∧ tx.state = .pending := by
  rw [resolve, get]
  split
  case isTrue beyond =>
    refine iff_of_false (fun found => by cases found) fun ⟨held, _⟩ => ?_
    exact absurd (mgr.lt_of_txAt held) (Nat.not_lt.mpr beyond)
  case isFalse =>
    cases held : mgr.txAt (id - 1).toNat with
    | none => simp
    | some old =>
        by_cases pending : old.state = .pending
        · simp only [if_pos pending, Option.bind_some, held, Option.some_inj]
          exact ⟨fun same => ⟨same, same ▸ pending⟩, And.left⟩
        · simp only [if_neg pending, Option.bind_none, Option.some_inj]
          refine iff_of_false (fun found => by cases found) ?_
          rintro ⟨rfl, tx_pending⟩
          exact pending tx_pending

/-- The slot of an identifier. -/
theorem slot_eq_iff {id : UInt32} {slot : Nat} (inside : slot < maxTransactions) :
    (id - 1).toNat = slot ↔ id = UInt32.ofNat slot + 1 := by
  have small : slot < 2 ^ 32 := inside.trans (by decide)
  have cast : (UInt32.ofNat slot).toNat = slot := by
    rw [UInt32.toNat_ofNat', Nat.mod_eq_of_lt small]
  constructor
  · intro same
    have equal : id - 1 = UInt32.ofNat slot := UInt32.toNat_inj.mp (same.trans cast.symm)
    rw [← equal]
    exact (UInt32.sub_add_cancel id 1).symm
  · rintro rfl
    rw [UInt32.add_sub_cancel, cast]

/-- Two managers whose pending transactions agree resolve alike. -/
theorem resolve_eq {owners : Owners} {id : UInt32}
    (same : ∀ tx, mgr.txAt (id - 1).toNat = some tx ∧ tx.state = .pending ↔
      owners id = some tx) : mgr.resolve id = owners id := by
  refine Option.ext fun tx => ?_
  rw [resolve_eq_some]
  exact same tx

end Resolve

section Occupied

/-- Changing a transaction does not free its slot. -/
theorem countP_modify (slots : List (Option Transaction)) (slot : Nat)
    (change : Transaction → Transaction) :
    (slots.modify slot fun tx => tx.map change).countP (fun slot => slot.isSome) =
      slots.countP fun slot => slot.isSome := by
  induction slots generalizing slot with
  | nil => rw [List.modify_nil]
  | cons head slots ih =>
      cases slot with
      | zero => simp [List.countP_cons]
      | succ slot => simp [List.countP_cons, ih]

/-- An occupied slot holds a pending or a finished transaction. -/
theorem countP_pending (slots : List (Option Transaction)) :
    (slots.countP fun slot => slot.any fun tx => tx.state = .pending) +
        (slots.countP fun slot => slot.any fun tx => tx.state ≠ .pending) =
      slots.countP fun slot => slot.isSome := by
  induction slots with
  | nil => rfl
  | cons head slots ih =>
      simp only [List.countP_cons] at ih ⊢
      cases head with
      | none => simpa using ih
      | some tx =>
          by_cases pending : tx.state = .pending
          · simp [pending] at ih ⊢
            omega
          · simp [pending] at ih ⊢
            omega

end Occupied

namespace Identified

variable {owners : Owners} {mgr : TransactionManager}

theorem pending_iff (identified : Identified owners mgr) {id : UInt32} {tx : Transaction} :
    mgr.txAt (id - 1).toNat = some tx ∧ tx.state = .pending ↔ owners id = some tx := by
  rw [← identified.resolves, resolve_eq_some]

/-- Filling a slot counts it once. -/
theorem occupied_place {slot : Nat} (inside : slot < maxTransactions) (tx : Transaction) :
    (mgr.place slot tx).occupied =
      if (mgr.txAt slot).isNone then mgr.occupied + 1 else mgr.occupied := by
  have bound : slot < mgr.slots.length := mgr.slots_length ▸ inside
  have stored : mgr.txAt slot = mgr.slots[slot] := by
    rw [txAt, List.getD_eq_getElem _ _ bound]
  change (mgr.slots.set slot (some tx)).countP _ = _
  rw [List.countP_set bound, stored]
  have positive : mgr.slots[slot].isSome → 0 < mgr.occupied := by
    intro held
    exact List.countP_pos_iff.mpr ⟨_, List.getElem_mem bound, held⟩
  cases held : mgr.slots[slot] with
  | none => simp [occupied]
  | some old =>
      have count := positive (by rw [held]; rfl)
      rw [occupied] at count
      simp only [Option.isSome_some, ↓reduceIte, Option.isNone_some, Bool.false_eq_true, occupied]
      omega

theorem create (identified : Identified owners mgr) (pd : L3PD) (mti : Int) (ti : UInt8)
    (timerId : L3TimerId) :
    Identified (recordOwner owners (.create pd mti ti timerId,
      .created (mgr.create pd mti ti timerId).2)) (mgr.create pd mti ti timerId).1 := by
  rw [TransactionManager.create]
  cases found : mgr.findSlot with
  | none => exact identified
  | some slot =>
      obtain ⟨inside, vacant⟩ := mgr.findSlot_some found
      refine ⟨fun id => resolve_eq fun tx => ?_, ?_⟩
      · rw [mgr.txAt_place inside, recordOwner, Function.update_apply]
        by_cases own : id = UInt32.ofNat slot + 1
        · rw [if_pos ((slot_eq_iff inside).mpr own), if_pos own]
          refine ⟨And.left, fun same => ⟨same, ?_⟩⟩
          rw [← Option.some.inj same]
        · rw [if_neg fun same => own ((slot_eq_iff inside).mp same), if_neg own]
          exact identified.pending_iff
      · rw [occupied_place inside, ← identified.counted]
        rfl

theorem finish (identified : Identified owners mgr) (slot : Nat) (how : Finish) :
    Identified (recordOwner owners (.finish slot how, .done)) (mgr.finish slot how) := by
  have state : ∀ tx : Transaction, (how.apply tx).state ≠ .pending := by
    intro tx
    cases how <;>
      simp [Finish.apply, Transaction.complete, Transaction.expire, Transaction.cancel]
  refine ⟨fun id => resolve_eq fun tx => ?_, ?_⟩
  · rw [txAt_finish, recordOwner, Option.filter_eq_some_iff, ← identified.pending_iff]
    by_cases own : (id - 1).toNat = slot
    · subst own
      rw [if_pos rfl]
      refine iff_of_false ?_ ?_
      · rintro ⟨stored, pending⟩
        obtain ⟨old, -, rfl⟩ := Option.map_eq_some_iff.mp stored
        exact state old pending
      · rintro ⟨⟨held, -⟩, apart⟩
        have inside := mgr.lt_of_txAt held
        rcases of_decide_eq_true apart with other | beyond
        · exact other ((slot_eq_iff inside).mp rfl)
        · omega
    · rw [if_neg own]
      refine ⟨fun both => ⟨both, decide_eq_true ?_⟩, And.left⟩
      by_cases inside : slot < maxTransactions
      · exact .inl fun same => own ((slot_eq_iff inside).mpr same)
      · exact .inr (Nat.not_lt.mp inside)
  · exact identified.counted.trans (countP_modify mgr.slots slot how.apply).symm

theorem onTimerExpired (identified : Identified owners mgr) (timerId : L3TimerId) :
    Identified (recordOwner owners (.onTimerExpired timerId, .done))
      (mgr.onTimerExpired timerId) := by
  refine ⟨fun id => resolve_eq fun tx => ?_, ?_⟩
  · rw [TransactionManager.onTimerExpired, txAt_mapTransactions, recordOwner,
      Option.filter_eq_some_iff, ← identified.pending_iff, Option.map_eq_some_iff]
    constructor
    · rintro ⟨⟨old, held, rfl⟩, pending⟩
      split at pending
      case isTrue => cases pending
      case isFalse goes_on =>
        rw [if_neg goes_on]
        exact ⟨⟨held, pending⟩, decide_eq_true fun fired => goes_on ⟨pending, fired⟩⟩
    · rintro ⟨⟨held, pending⟩, other⟩
      have goes_on := of_decide_eq_true other
      exact ⟨⟨tx, held, if_neg fun both => goes_on both.2⟩, pending⟩
  · have same : (mgr.onTimerExpired timerId).occupied = mgr.occupied := by
      change (mgr.slots.map _).countP _ = mgr.slots.countP _
      rw [List.countP_map]
      congr 1
      funext slot
      simp
    exact identified.counted.trans same.symm

theorem cleanup (identified : Identified owners mgr) : Identified owners mgr.cleanup.1 := by
  refine ⟨fun id => resolve_eq fun tx => ?_, ?_⟩
  · rw [txAt_cleanup, Option.filter_eq_some_iff, ← identified.pending_iff]
    exact ⟨fun both => ⟨both.1.1, both.2⟩, fun both => ⟨⟨both.1, decide_eq_true both.2⟩, both.2⟩⟩
  · have kept : mgr.cleanup.1.occupied =
        mgr.slots.countP fun slot => slot.any fun tx => tx.state = .pending := by
      change (mgr.slots.map _).countP _ = _
      rw [List.countP_map]
      congr 1
      funext slot
      cases slot with
      | none => rfl
      | some tx => by_cases pending : tx.state = .pending <;> simp [pending]
    have parts := countP_pending mgr.slots
    have counted : mgr.count = mgr.slots.countP fun slot => slot.isSome := identified.counted
    rw [kept]
    change mgr.count - mgr.slots.countP (fun slot => slot.any fun tx => tx.state ≠ .pending) = _
    omega

/-- Every call keeps the identifiers with their owners. -/
theorem exec (identified : Identified owners mgr) (op : Op) :
    Identified (recordOwner owners (op, (mgr.exec op).2)) (mgr.exec op).1 := by
  cases op with
  | create pd mti ti timerId => exact identified.create pd mti ti timerId
  | get | matchHeader | matchMessage => exact identified
  | finish slot how => exact identified.finish slot how
  | onTimerExpired timerId => exact identified.onTimerExpired timerId
  | cleanup => exact identified.cleanup

end Identified

theorem identified_empty : Identified (fun _ => none) {} where
  resolves := by
    intro id
    refine Option.eq_none_iff_forall_ne_some.mpr fun tx found => ?_
    obtain ⟨held, -⟩ := resolve_eq_some.mp found
    have free : ∀ slot < 16, txAt {} slot = none := by decide
    rw [free _ (lt_of_txAt _ held)] at held
    cases held
  counted := rfl

/-- Along every run an identifier resolves to the transaction last created under
it, while that one is pending, and else to nothing; the count is the number of
occupied slots, and `create` fails exactly when all sixteen hold pending
transactions. -/
theorem identifiers_resolve {events : List (Op × Reply)} {mgr : TransactionManager}
    (run : machine.Run (fun _ _ _ => True) {} events mgr) :
    (∀ id, mgr.resolve id = ownersOf events id) ∧
      (mgr.totalCount = mgr.occupied ∧ mgr.totalCount ≤ maxTransactions) ∧
      ∀ pd mti ti timerId, (mgr.create pd mti ti timerId).2 = none ↔
        ∀ slot < maxTransactions, ∃ tx, mgr.txAt slot = some tx ∧ tx.state = .pending := by
  have identified : Identified (ownersOf events) mgr := by
    refine run.invariant (fun past state => Identified (ownersOf past) state) identified_empty ?_
    intro past source target event identified stepped _
    have kept := identified.exec event.1
    rw [step_eq_some.mp stepped] at kept
    rwa [ownersOf_snoc]
  refine ⟨identified.resolves, ⟨identified.counted, ?_⟩, fun pd mti ti timerId => ?_⟩
  · rw [totalCount, identified.counted, ← mgr.slots_length]
    exact List.countP_le_length
  · rw [← findSlot_none, create]
    cases mgr.findSlot with
    | none => simp
    | some slot => simp

/-- The first transaction has finished and its slot was reused: its identifier
resolves to the second. -/
theorem identifier_reused :
    ∃ (events : List (Op × Reply)) (mgr : TransactionManager) (id : UInt32) (tx : Transaction),
      machine.Run (fun _ _ _ => True) {} events mgr ∧
        events.head? = some (.create .callControl 5 1 .T3101, .created (some id)) ∧
        mgr.resolve id = some tx ∧ tx.requestPD ≠ .callControl := by
  have executed : machine.exec (fun _ _ _ => True) {}
      [(.create .callControl 5 1 .T3101, .created (some 1)), (.finish 0 .complete, .done),
        (.cleanup, .removed 1),
        (.create .mobilityManagement 8 0 .T3101, .created (some 1))] =
      some { slots := some ⟨.mobilityManagement, 8, 0, .T3101, .pending⟩ ::
              List.replicate 15 none
             count := 1 } := by
    decide
  exact ⟨_, _, 1, ⟨.mobilityManagement, 8, 0, .T3101, .pending⟩, .exec _ .origin executed, rfl,
    by decide, by decide⟩

/-- The identifier of a call that was completed. -/
theorem identifiers_resolve_completed :
    resolve { slots := some ⟨.callControl, 5, 1, .T3101, .completed⟩ :: List.replicate 15 none
              tiIndex := [none, some 0, none, none, none, none, none, none]
              count := 1 } 1 = none := by
  have executed : machine.exec (fun _ _ _ => True) {}
      [(.create .callControl 5 1 .T3101, .created (some 1)), (.finish 0 .complete, .done)] =
      some { slots := some ⟨.callControl, 5, 1, .T3101, .completed⟩ :: List.replicate 15 none
             tiIndex := [none, some 0, none, none, none, none, none, none]
             count := 1 } := by
    decide
  exact ((identifiers_resolve (.exec _ .origin executed)).1 1).trans (by decide)

end TransactionManager

end Stack

end Gsml3
