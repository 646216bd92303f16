import Gsml3.Foundation.Machine
import Gsml3.Stack.Procedure

/-!
# Transactions

The pending transactions of one subscriber: sixteen slots, the identifier of a
transaction being its slot plus one, and an index from the eight transaction
identifiers of call control and supplementary services to slots.
-/

namespace Gsml3

namespace Stack

/-- The states of a transaction. -/
inductive TransactionState where
  | pending
  | completed
  | expired
  | cancelled
deriving DecidableEq, Repr

/-- A request that waits for its response. -/
structure Transaction where
  requestPD : L3PD
  requestMTI : Int
  ti : UInt8
  timerId : L3TimerId
  state : TransactionState := .pending
deriving DecidableEq, Repr

/-- Call control and supplementary services are told apart by transaction
identifiers. -/
def L3PD.isDialog (pd : L3PD) : Prop :=
  pd = .callControl ∨ pd = .nonCallSS

instance (pd : L3PD) : Decidable pd.isDialog :=
  inferInstanceAs (Decidable (_ ∨ _))

namespace Transaction

/-- The response came. -/
def complete (tx : Transaction) : Transaction :=
  { tx with state := .completed }

/-- The timer of the transaction ran out. -/
def expire (tx : Transaction) : Transaction :=
  { tx with state := .expired }

/-- The transaction was given up. -/
def cancel (tx : Transaction) : Transaction :=
  { tx with state := .cancelled }

/-- `matches` of the source, for a message without a transaction identifier. -/
def matchesMessage (tx : Transaction) (msg : ParsedMessage) : Prop :=
  tx.state = .pending ∧ tx.requestPD = messagePD msg ∧ tx.requestMTI = messageMTI msg

instance (tx : Transaction) (msg : ParsedMessage) : Decidable (tx.matchesMessage msg) :=
  inferInstanceAs (Decidable (_ ∧ _))

end Transaction

/-- Header of a message as the parser reads it from the first two octets. -/
structure L3Header where
  pd : L3PD
  mti : Int
  ti : UInt32
  tif : Bool
deriving DecidableEq, Repr

/-- The slots of a manager. -/
def maxTransactions : Nat := 16

theorem unoccupied_length :
    (List.replicate 16 (none : Option Transaction)).length = maxTransactions := rfl

theorem unindexed_length : (List.replicate 8 (none : Option Nat)).length = 8 := rfl

/-- A slot is occupied when it holds a transaction. -/
structure TransactionManager where
  slots : List (Option Transaction) := List.replicate 16 none
  tiIndex : List (Option Nat) := List.replicate 8 none
  count : Nat := 0
  slots_length : slots.length = maxTransactions := by exact unoccupied_length
  tiIndex_length : tiIndex.length = 8 := by exact unindexed_length
deriving DecidableEq

namespace TransactionManager

/-- The transaction in a slot. -/
def txAt (mgr : TransactionManager) (slot : Nat) : Option Transaction :=
  mgr.slots.getD slot none

/-- The slot the index gives for a transaction identifier. -/
def indexed (mgr : TransactionManager) (ti : UInt8) : Option Nat :=
  mgr.tiIndex.getD ti.toNat none

/-! ## Creation -/

/-- A free slot, or else the slot of a finished transaction. -/
def findSlot (mgr : TransactionManager) : Option Nat :=
  (mgr.slots.findIdx? fun slot => slot.isNone).or
    (mgr.slots.findIdx? fun slot => slot.any fun tx => tx.state ≠ .pending)

/-- The index without the entry of the finished transaction a slot holds. -/
def dropStale (mgr : TransactionManager) (slot : Nat) : List (Option Nat) :=
  match mgr.txAt slot with
  | some old =>
      if old.requestPD.isDialog ∧ old.ti < 8 ∧ mgr.indexed old.ti = some slot then
        mgr.tiIndex.set old.ti.toNat none
      else mgr.tiIndex
  | none => mgr.tiIndex

theorem dropStale_length (mgr : TransactionManager) (slot : Nat) :
    (mgr.dropStale slot).length = 8 := by
  rw [dropStale]
  split
  · split
    · rw [List.length_set, mgr.tiIndex_length]
    · exact mgr.tiIndex_length
  · exact mgr.tiIndex_length

/-- The manager after a transaction was placed in a slot. -/
def place (mgr : TransactionManager) (slot : Nat) (tx : Transaction) : TransactionManager where
  slots := mgr.slots.set slot (some tx)
  tiIndex :=
    if tx.requestPD.isDialog ∧ tx.ti < 8 then (mgr.dropStale slot).set tx.ti.toNat (some slot)
    else mgr.dropStale slot
  count := if (mgr.txAt slot).isNone then mgr.count + 1 else mgr.count
  slots_length := by rw [List.length_set, mgr.slots_length]
  tiIndex_length := by
    split
    · rw [List.length_set, dropStale_length]
    · exact mgr.dropStale_length slot

/-- Create a pending transaction; its identifier is the slot plus one. -/
def create (mgr : TransactionManager) (pd : L3PD) (mti : Int) (ti : UInt8)
    (timerId : L3TimerId) : TransactionManager × Option UInt32 :=
  match mgr.findSlot with
  | some slot =>
      (mgr.place slot { requestPD := pd, requestMTI := mti, ti := ti, timerId := timerId },
        some (UInt32.ofNat slot + 1))
  | none => (mgr, none)

/-! ## Lookup -/

/-- The slot of the pending transaction with an identifier. -/
def get (mgr : TransactionManager) (id : UInt32) : Option Nat :=
  let idx := (id - 1).toNat
  if maxTransactions ≤ idx then none
  else
    match mgr.txAt idx with
    | some tx => if tx.state = .pending then some idx else none
    | none => none

/-- The search both `match` functions share: by the index for a dialog, and
else the first pending transaction the message matches. -/
def lookup (mgr : TransactionManager) (pd : L3PD) (ti : UInt8) (msg : ParsedMessage) :
    Option Nat :=
  if pd.isDialog then
    if ti < 8 then
      (mgr.indexed ti).filter fun slot => (mgr.txAt slot).any fun tx =>
        tx.state = .pending ∧ tx.requestPD = pd ∧ tx.ti = ti
    else none
  else mgr.slots.findIdx? fun slot => slot.any fun tx => tx.matchesMessage msg

/-- `match` with the header of the message. -/
def matchHeader (mgr : TransactionManager) (header : L3Header) (msg : ParsedMessage) :
    Option Nat :=
  mgr.lookup header.pd header.ti.toUInt8 msg

/-- `match` with the discriminator and the transaction identifier the message
carries itself. -/
def matchMessage (mgr : TransactionManager) (msg : ParsedMessage) : Option Nat :=
  mgr.lookup (messagePD msg) (messageTI msg) msg

/-! ## Expiry and cleanup -/

/-- Change every transaction. -/
def mapTransactions (mgr : TransactionManager) (change : Transaction → Transaction) :
    TransactionManager :=
  { mgr with
    slots := mgr.slots.map fun slot => slot.map change
    slots_length := by rw [List.length_map, mgr.slots_length] }

/-- Expire the pending transactions of a timer. -/
def onTimerExpired (mgr : TransactionManager) (timerId : L3TimerId) : TransactionManager :=
  mgr.mapTransactions fun tx =>
    if tx.state = .pending ∧ tx.timerId = timerId then tx.expire else tx

/-- The index entry `rebuildTiIndex` computes for a transaction identifier. -/
def rebuiltEntry (slots : List (Option Transaction)) (ti : Nat) : Option Nat :=
  slots.findIdx? fun slot => slot.any fun tx =>
    tx.state = .pending ∧ tx.requestPD.isDialog ∧ tx.ti.toNat = ti

/-- Makes the index anew from the slots. -/
def rebuildTiIndex (mgr : TransactionManager) : TransactionManager :=
  { mgr with
    tiIndex := (List.range 8).map (rebuiltEntry mgr.slots)
    tiIndex_length := by rw [List.length_map, List.length_range] }

/-- Remove the finished transactions; the count of removed ones is returned. -/
def cleanup (mgr : TransactionManager) : TransactionManager × Nat :=
  let removed := mgr.slots.countP fun slot => slot.any fun tx => tx.state ≠ .pending
  (rebuildTiIndex { mgr with
    slots := mgr.slots.map fun slot => slot.filter fun tx => tx.state = .pending
    slots_length := by rw [List.length_map, mgr.slots_length]
    count := mgr.count - removed }, removed)

/-- The number of transactions that wait for their response. -/
def pendingCount (mgr : TransactionManager) : Nat :=
  mgr.slots.countP fun slot => slot.any fun tx => tx.state = .pending

/-- The number of transactions held, whatever their state. -/
def totalCount (mgr : TransactionManager) : Nat :=
  mgr.count

/-! ## Runs -/

/-- How a transaction is finished through the pointer `get` or a match
returned. -/
inductive Finish where
  | complete
  | expire
  | cancel
deriving DecidableEq, Repr

/-- The end of a transaction that a call asks for. -/
def Finish.apply : Finish → Transaction → Transaction
  | .complete => Transaction.complete
  | .expire => Transaction.expire
  | .cancel => Transaction.cancel

/-- Finish the transaction in a slot. -/
def finish (mgr : TransactionManager) (slot : Nat) (how : Finish) : TransactionManager :=
  { mgr with
    slots := mgr.slots.modify slot fun tx => tx.map how.apply
    slots_length := by rw [List.length_modify, mgr.slots_length] }

/-- A call on the manager or on one of its transactions. -/
inductive Op where
  | create (pd : L3PD) (mti : Int) (ti : UInt8) (timerId : L3TimerId)
  | get (id : UInt32)
  | matchHeader (header : L3Header) (msg : ParsedMessage)
  | matchMessage (msg : ParsedMessage)
  | finish (slot : Nat) (how : Finish)
  | onTimerExpired (timerId : L3TimerId)
  | cleanup
deriving DecidableEq

/-- What a call returns; a transaction is named by its slot. -/
inductive Reply where
  | created (id : Option UInt32)
  | found (slot : Option Nat)
  | removed (count : Nat)
  | done
deriving DecidableEq

/-- One call of the manager and what it returns. -/
def exec (mgr : TransactionManager) : Op → TransactionManager × Reply
  | .create pd mti ti timerId =>
      let (mgr, id) := mgr.create pd mti ti timerId
      (mgr, .created id)
  | .get id => (mgr, .found (mgr.get id))
  | .matchHeader header msg => (mgr, .found (mgr.matchHeader header msg))
  | .matchMessage msg => (mgr, .found (mgr.matchMessage msg))
  | .finish slot how => (mgr.finish slot how, .done)
  | .onTimerExpired timerId => (mgr.onTimerExpired timerId, .done)
  | .cleanup =>
      let (mgr, removed) := mgr.cleanup
      (mgr, .removed removed)

/-- The manager as a machine whose events are calls with their replies. -/
def machine : Foundation.Machine TransactionManager (Op × Reply) where
  step := fun mgr event =>
    if (mgr.exec event.1).2 = event.2 then some (mgr.exec event.1).1 else none

theorem step_eq_some {mgr target : TransactionManager} {event : Op × Reply} :
    machine.step mgr event = some target ↔ mgr.exec event.1 = (target, event.2) := by
  change (if (mgr.exec event.1).2 = event.2 then some (mgr.exec event.1).1 else none) = _ ↔ _
  rw [Option.ite_none_right_eq_some, Option.some_inj, Prod.ext_iff]
  exact and_comm

/-! ## Slots -/

section Slots

variable (mgr : TransactionManager)

theorem txAt_eq_some {slot : Nat} {tx : Transaction} :
    mgr.txAt slot = some tx ↔ mgr.slots[slot]? = some (some tx) := by
  rw [txAt, List.getD_eq_getElem?_getD]
  cases mgr.slots[slot]? with
  | none => simp
  | some held => simp

theorem lt_of_txAt {slot : Nat} {tx : Transaction} (held : mgr.txAt slot = some tx) :
    slot < maxTransactions := by
  obtain ⟨inside, -⟩ := List.getElem?_eq_some_iff.mp ((mgr.txAt_eq_some).mp held)
  rwa [mgr.slots_length] at inside

theorem txAt_place {slot : Nat} (inside : slot < maxTransactions) (tx : Transaction)
    (other : Nat) :
    (mgr.place slot tx).txAt other = if other = slot then some tx else mgr.txAt other := by
  rw [txAt, place, List.getD_eq_getElem?_getD, List.getElem?_set, txAt,
    List.getD_eq_getElem?_getD, mgr.slots_length]
  by_cases own : other = slot
  · simp [own, inside]
  · simp [own, Ne.symm own]

theorem txAt_finish (slot : Nat) (how : Finish) (other : Nat) :
    (mgr.finish slot how).txAt other =
      if other = slot then (mgr.txAt slot).map how.apply else mgr.txAt other := by
  rw [txAt, finish, List.getD_eq_getElem?_getD, List.getElem?_modify, txAt, txAt,
    List.getD_eq_getElem?_getD, List.getD_eq_getElem?_getD]
  by_cases own : other = slot
  · subst own
    cases mgr.slots[other]? with
    | none => simp
    | some held => simp
  · cases mgr.slots[other]? with
    | none => simp [own]
    | some held => simp [own, Ne.symm own]

theorem txAt_mapTransactions (change : Transaction → Transaction) (slot : Nat) :
    (mgr.mapTransactions change).txAt slot = (mgr.txAt slot).map change := by
  rw [txAt, mapTransactions, List.getD_eq_getElem?_getD, List.getElem?_map, txAt,
    List.getD_eq_getElem?_getD]
  cases mgr.slots[slot]? with
  | none => rfl
  | some held => rfl

theorem txAt_cleanup (slot : Nat) :
    mgr.cleanup.1.txAt slot = (mgr.txAt slot).filter fun tx => tx.state = .pending := by
  rw [txAt, cleanup, rebuildTiIndex, List.getD_eq_getElem?_getD, List.getElem?_map, txAt,
    List.getD_eq_getElem?_getD]
  cases mgr.slots[slot]? with
  | none => rfl
  | some held => rfl

/-- A slot found for a new transaction is free or holds a finished one. -/
theorem findSlot_some {slot : Nat} (found : mgr.findSlot = some slot) :
    slot < maxTransactions ∧ ∀ tx, mgr.txAt slot = some tx → tx.state ≠ .pending := by
  rw [findSlot, Option.or_eq_some_iff] at found
  rcases found with free | ⟨-, finished⟩
  · obtain ⟨inside, free, -⟩ := List.findIdx?_eq_some_iff_getElem.mp free
    refine ⟨mgr.slots_length ▸ inside, fun tx held => ?_⟩
    rw [txAt_eq_some, List.getElem?_eq_getElem inside, Option.some_inj] at held
    rw [held] at free
    cases free
  · obtain ⟨inside, finished, -⟩ := List.findIdx?_eq_some_iff_getElem.mp finished
    refine ⟨mgr.slots_length ▸ inside, fun tx held => ?_⟩
    rw [txAt_eq_some, List.getElem?_eq_getElem inside, Option.some_inj] at held
    rw [held] at finished
    simpa using finished

/-- No slot is found exactly when every slot holds a pending transaction. -/
theorem findSlot_none :
    mgr.findSlot = none ↔
      ∀ slot < maxTransactions, ∃ tx, mgr.txAt slot = some tx ∧ tx.state = .pending := by
  rw [findSlot, Option.or_eq_none_iff, List.findIdx?_eq_none_iff, List.findIdx?_eq_none_iff]
  constructor
  · rintro ⟨occupied, pending⟩ slot inside
    rw [← mgr.slots_length] at inside
    have member := List.getElem_mem inside
    obtain ⟨tx, held⟩ : ∃ tx, mgr.slots[slot] = some tx := by
      have not_free := occupied _ member
      exact Option.ne_none_iff_exists'.mp fun free => by simp [free] at not_free
    refine ⟨tx, ?_, ?_⟩
    · rw [txAt_eq_some, List.getElem?_eq_getElem inside, held]
    · have not_finished := pending _ member
      rw [held] at not_finished
      simpa using not_finished
  · intro full
    have each : ∀ held ∈ mgr.slots, ∃ tx, held = some tx ∧ tx.state = .pending := by
      intro held member
      obtain ⟨slot, inside, rfl⟩ := List.getElem_of_mem member
      obtain ⟨tx, stored, pending⟩ := full slot (mgr.slots_length ▸ inside)
      rw [txAt_eq_some, List.getElem?_eq_getElem inside, Option.some_inj] at stored
      exact ⟨tx, stored, pending⟩
    constructor
    · intro held member
      obtain ⟨tx, rfl, -⟩ := each held member
      rfl
    · intro held member
      obtain ⟨tx, rfl, pending⟩ := each held member
      simp [pending]

end Slots

end TransactionManager

end Stack

end Gsml3
