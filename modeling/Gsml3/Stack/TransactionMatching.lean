import Gsml3.Stack.Transactions

/-!
# Matching of transactions

`match` finds a pending transaction for a message exactly when there is one, as
long as the index leads to one of the pending dialogs of every discriminator
and transaction identifier.  The index has one entry for a transaction
identifier: a dialog of the other protocol hides the first, and so does a
second dialog of the same protocol once it has finished.
-/

namespace Gsml3

namespace Stack

namespace TransactionManager

/-- The transaction is pending and has the discriminator and, for a dialog, the
transaction identifier or else the message type. -/
def Awaits (tx : Transaction) (pd : L3PD) (ti : UInt8) (mti : Int) : Prop :=
  tx.state = .pending ∧ tx.requestPD = pd ∧ if pd.isDialog then tx.ti = ti else tx.requestMTI = mti

/-- The search returned a transaction that awaits the message, if there is
one. -/
def Exact (mgr : TransactionManager) (found : Option Nat) (pd : L3PD) (ti : UInt8)
    (mti : Int) : Prop :=
  (∀ slot, found = some slot → ∃ tx, mgr.txAt slot = some tx ∧ Awaits tx pd ti mti) ∧
    ((∃ slot tx, mgr.txAt slot = some tx ∧ Awaits tx pd ti mti) → found.isSome)

/-- The slot holds a pending dialog. -/
def Dialog (mgr : TransactionManager) (slot : Nat) (tx : Transaction) : Prop :=
  mgr.txAt slot = some tx ∧ tx.state = .pending ∧ tx.requestPD.isDialog

/-- The index leads to a pending dialog with the discriminator and identifier of
each pending dialog. -/
def Covered (mgr : TransactionManager) : Prop :=
  ∀ slot tx, mgr.Dialog slot tx → tx.ti < 8 ∧ ∃ cover held,
    mgr.indexed tx.ti = some cover ∧ mgr.Dialog cover held ∧ held.requestPD = tx.requestPD ∧
      held.ti = tx.ti

theorem covered_empty : Covered {} := by
  intro slot tx dialog
  have inside : slot < 16 := lt_of_txAt _ dialog.1
  have free : ∀ slot < 16, txAt {} slot = none := by decide
  rw [Dialog, free slot inside] at dialog
  cases dialog.1

/-! ## Lookup -/

section Lookup

variable {mgr : TransactionManager} {pd : L3PD} {ti : UInt8} {msg : ParsedMessage}

theorem lookup_dialog (dialog : pd.isDialog) {slot : Nat} :
    mgr.lookup pd ti msg = some slot ↔ ti < 8 ∧ mgr.indexed ti = some slot ∧
      ∃ tx, mgr.txAt slot = some tx ∧ Awaits tx pd ti (messageMTI msg) := by
  rw [lookup, if_pos dialog, Option.ite_none_right_eq_some, Option.filter_eq_some_iff]
  simp only [Awaits, if_pos dialog, Option.any_eq_true, decide_eq_true_eq]

theorem lookup_other (other : ¬ pd.isDialog) (own : pd = messagePD msg) :
    Exact mgr (mgr.lookup pd ti msg) pd ti (messageMTI msg) := by
  subst own
  rw [lookup, if_neg other]
  have awaits : ∀ tx : Transaction,
      Awaits tx (messagePD msg) ti (messageMTI msg) ↔ tx.matchesMessage msg := by
    intro tx
    rw [Awaits, if_neg other, Transaction.matchesMessage]
  constructor
  · intro slot found
    obtain ⟨inside, hit, -⟩ := List.findIdx?_eq_some_iff_getElem.mp found
    obtain ⟨tx, held, fits⟩ := (Option.any_eq_true _ _).mp hit
    refine ⟨tx, ?_, (awaits tx).mpr (of_decide_eq_true fits)⟩
    rw [txAt_eq_some, List.getElem?_eq_getElem inside, held]
  · rintro ⟨slot, tx, held, fits⟩
    rw [List.findIdx?_isSome, List.any_eq_true]
    refine ⟨some tx, List.mem_of_getElem? ((mgr.txAt_eq_some).mp held), ?_⟩
    simpa using (awaits tx).mp fits

/-- A covered manager finds a transaction exactly when one awaits the
message. -/
theorem Covered.lookup_exact (covered : mgr.Covered) (own : pd = messagePD msg) :
    Exact mgr (mgr.lookup pd ti msg) pd ti (messageMTI msg) := by
  by_cases dialog : pd.isDialog
  · constructor
    · intro slot found
      exact ((lookup_dialog dialog).mp found).2.2
    · rintro ⟨slot, tx, held, pending, rfl, same⟩
      rw [if_pos dialog] at same
      subst same
      obtain ⟨small, cover, held', indexed, dialog', pd_eq, ti_eq⟩ :=
        covered slot tx ⟨held, pending, dialog⟩
      refine Option.isSome_iff_exists.mpr ⟨cover, (lookup_dialog dialog).mpr
        ⟨small, indexed, held', dialog'.1, dialog'.2.1, pd_eq, ?_⟩⟩
      rw [if_pos dialog]
      exact ti_eq
  · exact lookup_other dialog own

end Lookup

/-! ## The condition -/

/-- Every pending transaction with the discriminator and the identifier of `held`
stops. -/
def TwinsStop (mgr : TransactionManager) (stops : Nat → Transaction → Prop)
    (held : Transaction) : Prop :=
  ∀ slot < maxTransactions, ∀ tx ∈ mgr.txAt slot, tx.state = .pending →
    tx.requestPD = held.requestPD → tx.ti = held.ti → stops slot tx

/-- The index leads to the pending dialog in the slot. -/
def Leads (mgr : TransactionManager) (cover : Nat) (held : Transaction) : Prop :=
  held.state = .pending ∧ held.requestPD.isDialog ∧ mgr.indexed held.ti = some cover

/-- The dialogs the index leads to stop only together with every other pending
dialog of the same discriminator and identifier. -/
def StopTogether (mgr : TransactionManager) (stops : Nat → Transaction → Prop) : Prop :=
  ∀ cover < maxTransactions, ∀ held ∈ mgr.txAt cover, mgr.Leads cover held →
    stops cover held → mgr.TwinsStop stops held

/-- A new dialog has an identifier below eight that no pending dialog of the
other protocol has, and a dialog the index leads to does not finish before
another one of the same discriminator and identifier. -/
def KeepsCover (mgr : TransactionManager) : Op → Prop
  | .create pd _ ti _ => pd.isDialog → mgr.findSlot ≠ none → ti < 8 ∧
      ∀ slot < maxTransactions, ∀ tx ∈ mgr.txAt slot, tx.state = .pending →
        tx.requestPD.isDialog → tx.ti = ti → tx.requestPD = pd
  | .finish finished _ => mgr.StopTogether fun slot _ => slot = finished
  | .onTimerExpired timerId => mgr.StopTogether fun _ tx => tx.timerId = timerId
  | _ => True

section Decidability

variable (mgr : TransactionManager) (stops : Nat → Transaction → Prop)
  [∀ slot tx, Decidable (stops slot tx)]

instance (held : Transaction) : Decidable (mgr.TwinsStop stops held) :=
  inferInstanceAs (Decidable (∀ slot < maxTransactions, ∀ tx ∈ mgr.txAt slot, _ → _ → _ → _))

instance (cover : Nat) (held : Transaction) : Decidable (mgr.Leads cover held) :=
  inferInstanceAs (Decidable (_ ∧ _ ∧ _))

instance : Decidable (mgr.StopTogether stops) :=
  inferInstanceAs (Decidable (∀ cover < maxTransactions, ∀ held ∈ mgr.txAt cover, _ → _ → _))

end Decidability

instance (mgr : TransactionManager) (op : Op) : Decidable (mgr.KeepsCover op) :=
  match op with
  | .create .. => inferInstanceAs (Decidable (_ → _ → _ ∧
      ∀ slot < maxTransactions, ∀ tx ∈ mgr.txAt slot, _ → _ → _ → _))
  | .finish finished _ =>
      inferInstanceAs (Decidable (mgr.StopTogether fun slot _ => slot = finished))
  | .onTimerExpired timerId =>
      inferInstanceAs (Decidable (mgr.StopTogether fun _ tx => tx.timerId = timerId))
  | .get _ | .matchHeader .. | .matchMessage _ | .cleanup => .isTrue trivial

/-! ## Steps -/

section Steps

variable {mgr target : TransactionManager}

theorem indexed_dropStale {ti : UInt8} {slot cover : Nat} (indexed : mgr.indexed ti = some cover)
    (apart : cover ≠ slot) : (mgr.dropStale slot).getD ti.toNat none = some cover := by
  rw [dropStale]
  split
  · split
    case isTrue stale =>
      obtain ⟨-, -, own⟩ := stale
      rw [List.getD_eq_getElem?_getD, List.getElem?_set_ne]
      · rw [← List.getD_eq_getElem?_getD]
        exact indexed
      · intro same
        obtain rfl := UInt8.toNat_inj.mp same
        exact apart (Option.some.inj (indexed.symm.trans own))
    case isFalse => exact indexed
  · exact indexed

theorem tiIndex_place (mgr : TransactionManager) (slot : Nat) (tx : Transaction) :
    (mgr.place slot tx).tiIndex =
      if tx.requestPD.isDialog ∧ tx.ti < 8 then (mgr.dropStale slot).set tx.ti.toNat (some slot)
      else mgr.dropStale slot := rfl

/-- A new transaction in a slot without a pending one. -/
theorem Covered.place (covered : mgr.Covered) {slot : Nat} {tx : Transaction}
    (inside : slot < maxTransactions) (pending : tx.state = .pending) (vacant : ∀ old, mgr.txAt slot = some old →
      old.state ≠ .pending)
    (keeps : tx.requestPD.isDialog → tx.ti < 8 ∧ ∀ other old, mgr.Dialog other old →
      old.ti = tx.ti → old.requestPD = tx.requestPD) : (mgr.place slot tx).Covered := by
  intro other held dialog
  have stored := dialog.1
  rw [mgr.txAt_place inside] at stored
  have fresh : ∀ {ti : UInt8}, tx.requestPD.isDialog → tx.ti < 8 → tx.ti = ti →
      (mgr.place slot tx).indexed ti = some slot := by
    rintro _ dialog small rfl
    have bound : tx.ti.toNat < (mgr.dropStale slot).length := by
      rw [dropStale_length]
      exact small
    rw [indexed, tiIndex_place, if_pos ⟨dialog, small⟩, List.getD_eq_getElem?_getD,
      List.getElem?_set_self bound]
    rfl
  have placed : (mgr.place slot tx).txAt slot = some tx := by
    rw [mgr.txAt_place inside, if_pos rfl]
  split at stored
  case isTrue own =>
    obtain rfl := Option.some.inj stored
    obtain ⟨small, -⟩ := keeps dialog.2.2
    exact ⟨small, slot, tx, fresh dialog.2.2 small rfl, ⟨placed, dialog.2⟩, rfl, rfl⟩
  case isFalse =>
    obtain ⟨small, cover, old, indexed_old, old_dialog, pd_eq, ti_eq⟩ :=
      covered other held ⟨stored, dialog.2⟩
    refine ⟨small, ?_⟩
    have apart : cover ≠ slot := by
      rintro rfl
      exact vacant old old_dialog.1 old_dialog.2.1
    by_cases taken : tx.requestPD.isDialog ∧ tx.ti < 8 ∧ tx.ti = held.ti
    · obtain ⟨tx_dialog, tx_small, same⟩ := taken
      have same_pd := (keeps tx_dialog).2 other held ⟨stored, dialog.2⟩ same.symm
      exact ⟨slot, tx, fresh tx_dialog tx_small same, ⟨placed, pending, tx_dialog⟩,
        same_pd.symm, same⟩
    · refine ⟨cover, old, ?_, ⟨?_, old_dialog.2⟩, pd_eq, ti_eq⟩
      · have kept := indexed_dropStale indexed_old apart
        rw [indexed, tiIndex_place]
        split
        case isTrue both =>
          rw [List.getD_eq_getElem?_getD, List.getElem?_set_ne]
          · rw [← List.getD_eq_getElem?_getD]
            exact kept
          · intro same
            exact taken ⟨both.1, both.2, UInt8.toNat_inj.mp same⟩
        case isFalse => exact kept
      · rw [mgr.txAt_place inside, if_neg apart]
        exact old_dialog.1

/-- Dialogs that stop, where the index is kept. -/
theorem Covered.stop (covered : mgr.Covered) {stops : Nat → Transaction → Prop}
    (together : mgr.StopTogether stops) (index : target.tiIndex = mgr.tiIndex)
    (dialogs : ∀ slot tx, target.Dialog slot tx ↔ mgr.Dialog slot tx ∧ ¬ stops slot tx) :
    target.Covered := by
  intro slot tx dialog
  obtain ⟨before, goes_on⟩ := (dialogs slot tx).mp dialog
  obtain ⟨small, cover, held, indexed, held_dialog, pd_eq, ti_eq⟩ := covered slot tx before
  refine ⟨small, cover, held, ?_, (dialogs cover held).mpr ⟨held_dialog, fun stopped => ?_⟩,
    pd_eq, ti_eq⟩
  · rw [TransactionManager.indexed, index]
    exact indexed
  · rw [← ti_eq] at indexed
    exact goes_on (together cover (lt_of_txAt _ held_dialog.1) held held_dialog.1
      ⟨held_dialog.2.1, held_dialog.2.2, indexed⟩ stopped slot (lt_of_txAt _ before.1) tx before.1
      before.2.1 pd_eq.symm ti_eq.symm)

theorem Finish.apply_state (how : Finish) (tx : Transaction) :
    (how.apply tx).state ≠ .pending := by
  cases how <;> simp [Finish.apply, Transaction.complete, Transaction.expire, Transaction.cancel]

theorem dialog_finish (slot : Nat) (how : Finish) (other : Nat) (tx : Transaction) :
    (mgr.finish slot how).Dialog other tx ↔ mgr.Dialog other tx ∧ other ≠ slot := by
  rw [Dialog, Dialog, txAt_finish]
  by_cases own : other = slot
  · rw [if_pos own]
    refine iff_of_false ?_ fun both => both.2 own
    rintro ⟨stored, pending, -⟩
    obtain ⟨old, -, rfl⟩ := Option.map_eq_some_iff.mp stored
    exact how.apply_state old pending
  · rw [if_neg own]
    exact (and_iff_left own).symm

theorem dialog_onTimerExpired (timerId : L3TimerId) (slot : Nat) (tx : Transaction) :
    (mgr.onTimerExpired timerId).Dialog slot tx ↔ mgr.Dialog slot tx ∧ tx.timerId ≠ timerId := by
  rw [Dialog, Dialog, onTimerExpired, txAt_mapTransactions, Option.map_eq_some_iff]
  constructor
  · rintro ⟨⟨old, held, rfl⟩, pending, dialog⟩
    split at pending
    case isTrue => cases pending
    case isFalse goes_on =>
      rw [if_neg goes_on] at dialog ⊢
      exact ⟨⟨held, pending, dialog⟩, fun fired => goes_on ⟨pending, fired⟩⟩
  · rintro ⟨⟨held, pending, dialog⟩, goes_on⟩
    exact ⟨⟨tx, held, if_neg fun both => goes_on both.2⟩, pending, dialog⟩

theorem dialog_cleanup (slot : Nat) (tx : Transaction) :
    mgr.cleanup.1.Dialog slot tx ↔ mgr.Dialog slot tx := by
  rw [Dialog, Dialog, txAt_cleanup, Option.filter_eq_some_iff]
  constructor
  · rintro ⟨⟨held, -⟩, rest⟩
    exact ⟨held, rest⟩
  · rintro ⟨held, pending, dialog⟩
    exact ⟨⟨held, decide_eq_true pending⟩, pending, dialog⟩

/-- Two pending dialogs with one identifier belong to one protocol. -/
theorem Covered.pd_eq (covered : mgr.Covered) {slot slot' : Nat} {tx tx' : Transaction}
    (dialog : mgr.Dialog slot tx) (dialog' : mgr.Dialog slot' tx') (same : tx.ti = tx'.ti) :
    tx.requestPD = tx'.requestPD := by
  obtain ⟨-, cover, held, indexed, held_dialog, pd_eq, -⟩ := covered slot tx dialog
  obtain ⟨-, cover', held', indexed', held_dialog', pd_eq', -⟩ := covered slot' tx' dialog'
  rw [same, indexed'] at indexed
  obtain rfl := Option.some.inj indexed
  obtain rfl := Option.some.inj (held_dialog.1.symm.trans held_dialog'.1)
  rw [← pd_eq, pd_eq']

/-- A rebuilt index covers the dialogs that are left. -/
theorem Covered.cleanup (covered : mgr.Covered) : mgr.cleanup.1.Covered := by
  intro slot tx dialog
  have before := (dialog_cleanup slot tx).mp dialog
  obtain ⟨small, -⟩ := covered slot tx before
  have index : mgr.cleanup.1.indexed tx.ti =
      rebuiltEntry mgr.cleanup.1.slots tx.ti.toNat := by
    have length : tx.ti.toNat < 8 := small
    rw [indexed]
    change ((List.range 8).map (rebuiltEntry mgr.cleanup.1.slots)).getD tx.ti.toNat none = _
    rw [List.getD_eq_getElem?_getD, List.getElem?_map, List.getElem?_range length]
    rfl
  have present : (rebuiltEntry mgr.cleanup.1.slots tx.ti.toNat).isSome := by
    rw [rebuiltEntry, List.findIdx?_isSome, List.any_eq_true]
    refine ⟨some tx, List.mem_of_getElem? ((txAt_eq_some _).mp dialog.1), ?_⟩
    simpa using dialog.2
  obtain ⟨cover, entry⟩ := Option.isSome_iff_exists.mp present
  obtain ⟨inside, hit, -⟩ := List.findIdx?_eq_some_iff_getElem.mp entry
  obtain ⟨held, stored, fits⟩ := (Option.any_eq_true _ _).mp hit
  obtain ⟨pending, held_pd, held_ti⟩ := of_decide_eq_true fits
  have held_dialog : mgr.cleanup.1.Dialog cover held :=
    ⟨by rw [txAt_eq_some, List.getElem?_eq_getElem inside, stored], pending, held_pd⟩
  have same := UInt8.toNat_inj.mp held_ti
  exact ⟨small, cover, held, index.trans entry, held_dialog,
    covered.pd_eq ((dialog_cleanup cover held).mp held_dialog) before same, same⟩

/-- Every call that meets the condition keeps the dialogs covered. -/
theorem Covered.exec (covered : mgr.Covered) {op : Op} (keeps : mgr.KeepsCover op) :
    (mgr.exec op).1.Covered := by
  cases op with
  | create pd mti ti timerId =>
      change (mgr.create pd mti ti timerId).1.Covered
      rw [create]
      cases found : mgr.findSlot with
      | none => exact covered
      | some slot =>
          obtain ⟨inside, vacant⟩ := mgr.findSlot_some found
          refine covered.place inside rfl vacant fun dialog => ?_
          obtain ⟨small, alone⟩ := keeps dialog (by rw [found]; exact Option.some_ne_none slot)
          exact ⟨small, fun other old held => alone other (lt_of_txAt _ held.1) old held.1
            held.2.1 held.2.2⟩
  | get | matchHeader | matchMessage => exact covered
  | finish slot how => exact covered.stop keeps rfl (dialog_finish slot how)
  | onTimerExpired timerId => exact covered.stop keeps rfl (dialog_onTimerExpired timerId)
  | cleanup => exact covered.cleanup

end Steps

/-! ## Runs -/

theorem covered_of_run {events : List (Op × Reply)} {mgr : TransactionManager}
    (run : machine.Run (fun source event _ => source.KeepsCover event.1) {} events mgr) :
    mgr.Covered := by
  refine run.invariant (fun _ state => state.Covered) covered_empty ?_
  intro _ source target event covered stepped keeps
  have kept := covered.exec keeps
  rwa [step_eq_some.mp stepped] at kept

/-- In every state a run reaches whose calls meet the condition, both `match`
functions return a transaction that awaits the message exactly when there is
one. -/
theorem match_exact {events : List (Op × Reply)} {mgr : TransactionManager}
    (run : machine.Run (fun source event _ => source.KeepsCover event.1) {} events mgr)
    (msg : ParsedMessage) :
    mgr.Exact (mgr.matchMessage msg) (messagePD msg) (messageTI msg) (messageMTI msg) ∧
      ∀ header : L3Header, header.pd = messagePD msg →
        mgr.Exact (mgr.matchHeader header msg) (messagePD msg) header.ti.toUInt8
          (messageMTI msg) := by
  have covered := covered_of_run run
  refine ⟨covered.lookup_exact rfl, fun header own => ?_⟩
  rw [matchHeader, own]
  exact covered.lookup_exact rfl

/-- Two calls, the first of which has finished. -/
theorem match_exact_second_call :
    (matchMessage
      { slots := some ⟨.callControl, 5, 1, .T3101, .completed⟩ ::
          some ⟨.callControl, 5, 2, .T3101, .pending⟩ :: List.replicate 14 none
        tiIndex := [none, some 0, some 1, none, none, none, none, none]
        count := 2 } (.setup 2)).isSome := by
  have executed : machine.exec (fun source event _ => source.KeepsCover event.1) {}
      [(.create .callControl 5 1 .T3101, .created (some 1)),
        (.create .callControl 5 2 .T3101, .created (some 2)), (.finish 0 .complete, .done)] =
      some { slots := some ⟨.callControl, 5, 1, .T3101, .completed⟩ ::
              some ⟨.callControl, 5, 2, .T3101, .pending⟩ :: List.replicate 14 none
             tiIndex := [none, some 0, some 1, none, none, none, none, none]
             count := 2 } := by
    decide
  exact (match_exact (.exec _ .origin executed) (.setup 2)).1.2
    ⟨1, ⟨.callControl, 5, 2, .T3101, .pending⟩, rfl, rfl, rfl, rfl⟩

/-- A call and a supplementary service with one transaction identifier: the call
is pending, and no message of its dialog finds it. -/
theorem match_misses_hidden_dialog :
    ∃ (events : List (Op × Reply)) (mgr : TransactionManager) (msg : ParsedMessage)
      (slot : Nat) (tx : Transaction),
      machine.Run (fun _ _ _ => True) {} events mgr ∧ mgr.txAt slot = some tx ∧
        Awaits tx (messagePD msg) (messageTI msg) (messageMTI msg) ∧
        mgr.matchMessage msg = none := by
  have executed : machine.exec (fun _ _ _ => True) {}
      [(.create .callControl 5 1 .T3101, .created (some 1)),
        (.create .nonCallSS 59 1 .T3101, .created (some 2))] =
      some { slots := some ⟨.callControl, 5, 1, .T3101, .pending⟩ ::
              some ⟨.nonCallSS, 59, 1, .T3101, .pending⟩ :: List.replicate 14 none
             tiIndex := [none, some 1, none, none, none, none, none, none]
             count := 2 } := by
    decide
  exact ⟨_, _, .setup 1, 0, ⟨.callControl, 5, 1, .T3101, .pending⟩, .exec _ .origin executed,
    rfl, ⟨rfl, rfl, rfl⟩, by decide⟩

end TransactionManager

end Stack

end Gsml3
