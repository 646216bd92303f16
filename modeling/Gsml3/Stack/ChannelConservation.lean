import Gsml3.Stack.ChannelPool
import Gsml3.Foundation.Ledger
import Gsml3.Foundation.Machine

/-!
# Conservation of channels

A channel pool keeps the ledger of its channels as long as it hands out no descriptor
whose equal is allocated; then a channel is lost.
-/

namespace Gsml3

namespace Stack

namespace ChannelPool

open Foundation (Ledger)

variable {pool target : ChannelPool} {type : ChannelType} {desc : ChannelDescriptor}

/-! ## The ledger of a pool -/

def ledger (pool : ChannelPool) : Ledger ChannelDescriptor where
  free := ∑ type, (pool.freeByType type : Multiset ChannelDescriptor)
  held := ∑ type, (pool.allocatedByType type).val

/-- Descriptors are kept under their own type. -/
structure Typed (pool : ChannelPool) : Prop where
  free : ∀ (type : ChannelType) (desc : ChannelDescriptor),
    desc ∈ pool.freeByType type → desc.type = type
  allocated : ∀ (type : ChannelType) (desc : ChannelDescriptor),
    desc ∈ pool.allocatedByType type → desc.type = type

/-- The total of the pool is that of its ledger. -/
theorem totalCount_eq (pool : ChannelPool) : pool.totalCount = pool.ledger.total := by
  rw [totalCount, Ledger.total, ledger, Multiset.card_sum, Multiset.card_sum]
  rfl

/-- A channel is free in the list of its type. -/
theorem Typed.mem_free (typed : pool.Typed) :
    desc ∈ pool.ledger.free ↔ desc ∈ pool.freeByType desc.type := by
  rw [ledger, Multiset.mem_sum]
  constructor
  · rintro ⟨type, -, member⟩
    obtain rfl := typed.free type desc member
    exact member
  · intro member
    exact ⟨desc.type, Finset.mem_univ _, member⟩

/-- A channel is allocated in the set of its type. -/
theorem Typed.mem_held (typed : pool.Typed) :
    desc ∈ pool.ledger.held ↔ desc ∈ pool.allocatedByType desc.type := by
  rw [ledger, Multiset.mem_sum]
  constructor
  · rintro ⟨type, -, member⟩
    obtain rfl := typed.allocated type desc member
    exact member
  · intro member
    exact ⟨desc.type, Finset.mem_univ _, member⟩

/-- A sum after the update of one of its terms. -/
theorem sum_update_add {Index Value : Type*} [Fintype Index] [DecidableEq Index]
    [AddCommMonoid Value] (f : Index → Value) (i : Index) (value : Value) :
    ∑ j, Function.update f i value j + f i = ∑ j, f j + value := by
  have inside : ({i} : Finset Index) ⊆ Finset.univ := Finset.subset_univ _
  rw [Finset.sum_update_of_mem (Finset.mem_univ i), ← Finset.sum_sdiff inside,
    Finset.sum_singleton]
  abel

/-- The free channels of the ledger follow the list. -/
theorem free_setFree (pool : ChannelPool) (type : ChannelType) (free : List ChannelDescriptor) :
    (pool.setFree type free).ledger.free + (pool.freeByType type : Multiset ChannelDescriptor) =
      pool.ledger.free + (free : Multiset ChannelDescriptor) := by
  have updated : (pool.setFree type free).ledger.free = ∑ other, Function.update
      (fun type => (pool.freeByType type : Multiset ChannelDescriptor)) type free other := by
    change (∑ other, ((pool.setFree type free).freeByType other : Multiset ChannelDescriptor)) = _
    apply Finset.sum_congr rfl
    intro other _
    exact Function.apply_update (fun _ => Multiset.ofList) pool.freeByType type free other
  rw [updated]
  exact sum_update_add _ type _

/-- The held channels of the ledger follow the set. -/
theorem held_setAllocated (pool : ChannelPool) (type : ChannelType)
    (allocated : Finset ChannelDescriptor) :
    (pool.setAllocated type allocated).ledger.held + (pool.allocatedByType type).val =
      pool.ledger.held + allocated.val := by
  have updated : (pool.setAllocated type allocated).ledger.held = ∑ other, Function.update
      (fun type => (pool.allocatedByType type).val) type allocated.val other := by
    change (∑ other, ((pool.setAllocated type allocated).allocatedByType other).val) = _
    apply Finset.sum_congr rfl
    intro other _
    exact Function.apply_update (fun _ => Finset.val) pool.allocatedByType type allocated other
  rw [updated]
  exact sum_update_add _ type _

/-! ## Calls -/

inductive Op where
  | addChannel (desc : ChannelDescriptor)
  | removeChannel (desc : ChannelDescriptor)
  | allocate (type : ChannelType)
  | release (desc : ChannelDescriptor)
deriving DecidableEq

inductive Reply where
  | done
  | flag (value : Bool)
  | channel (found : Option ChannelDescriptor)
deriving DecidableEq

def exec (pool : ChannelPool) : Op → Option (ChannelPool × Reply)
  | .addChannel desc => some (pool.addChannel desc, .done)
  | .removeChannel desc =>
      some ((pool.removeChannel desc).1, .flag (pool.removeChannel desc).2)
  | .allocate type => some ((pool.allocate type).1, .channel (pool.allocate type).2)
  | .release desc => some ((pool.release desc).1, .flag (pool.release desc).2)

/-- The pool as a machine. -/
def machine : Foundation.Machine ChannelPool (Op × Reply) :=
  .ofCalls exec

/-- A call with its reply, as it is written into the ledger. -/
def record (ledger : Ledger ChannelDescriptor) : Op × Reply → Ledger ChannelDescriptor
  | (.addChannel desc, _) => ledger.add desc
  | (.removeChannel desc, .flag true) => ledger.remove desc
  | (.allocate _, .channel (some desc)) => ledger.handOut desc
  | (.release desc, .flag true) => ledger.giveBack desc
  | _ => ledger

/-- The ledger of a history. -/
def recorded (events : List (Op × Reply)) : Ledger ChannelDescriptor :=
  events.foldl record {}

/-- The descriptor that is handed out next has no allocated equal. -/
def SingleHandout (pool : ChannelPool) (op : Op) : Prop :=
  ∀ (type : ChannelType) (desc : ChannelDescriptor), op = .allocate type →
    (pool.freeByType type).getLast? = some desc → desc ∉ pool.allocatedByType desc.type

/-! ### Spec of each call -/

/-- A new channel is added to the ledger. -/
theorem addChannel_ledger (pool : ChannelPool) (desc : ChannelDescriptor) :
    (pool.addChannel desc).ledger = pool.ledger.add desc := by
  apply Ledger.ext
  · have changed := free_setFree pool desc.type (pool.freeByType desc.type ++ [desc])
    rw [← Multiset.coe_add, add_left_comm, add_comm] at changed
    have free := add_left_cancel changed
    rw [addChannel, free, add_comm]
    rfl
  · rfl

/-- A free channel that is removed leaves the ledger. -/
theorem removeFromFreeList_ledger (member : desc ∈ pool.freeByType desc.type) :
    (pool.setFree desc.type ((pool.freeByType desc.type).erase desc)).ledger.free =
      pool.ledger.free.erase desc := by
  have changed := free_setFree pool desc.type ((pool.freeByType desc.type).erase desc)
  have split : (pool.freeByType desc.type : Multiset ChannelDescriptor) =
      desc ::ₘ ((pool.freeByType desc.type).erase desc : Multiset ChannelDescriptor) := by
    rw [← Multiset.coe_erase, Multiset.cons_erase (Multiset.mem_coe.mpr member)]
  rw [split, ← Multiset.singleton_add, ← add_assoc] at changed
  have free := add_right_cancel changed
  rw [← free, add_comm, Multiset.singleton_add, Multiset.erase_cons_head]

/-- A held channel that is forgotten leaves the ledger. -/
theorem forget_ledger (member : desc ∈ pool.allocatedByType desc.type) :
    (pool.setAllocated desc.type ((pool.allocatedByType desc.type).erase desc)).ledger.held =
      pool.ledger.held.erase desc := by
  have changed := held_setAllocated pool desc.type ((pool.allocatedByType desc.type).erase desc)
  have split : (pool.allocatedByType desc.type).val =
      desc ::ₘ ((pool.allocatedByType desc.type).erase desc).val := by
    rw [Finset.erase_val, Multiset.cons_erase member]
  rw [split, ← Multiset.singleton_add, ← add_assoc] at changed
  have held := add_right_cancel changed
  rw [← held, add_comm, Multiset.singleton_add, Multiset.erase_cons_head]

/-- Handing out the last free descriptor of a type. -/
theorem allocate_some (last : (pool.freeByType type).getLast? = some desc) :
    pool.allocate type =
      ((pool.setFree type (pool.freeByType type).dropLast).setAllocated desc.type
        (insert desc (pool.allocatedByType desc.type)), some desc) := by
  rw [allocate, last]
  rfl

/-- Without a free channel nothing is allocated. -/
theorem allocate_none (empty : (pool.freeByType type).getLast? = none) :
    pool.allocate type = (pool, none) := by
  rw [allocate, empty]

/-- The last free channel leaves the list. -/
theorem setFree_dropLast_ledger (last : (pool.freeByType type).getLast? = some desc) :
    (pool.setFree type (pool.freeByType type).dropLast).ledger.free =
      pool.ledger.free.erase desc := by
  have changed := free_setFree pool type (pool.freeByType type).dropLast
  have split : (pool.freeByType type : Multiset ChannelDescriptor) =
      desc ::ₘ ((pool.freeByType type).dropLast : Multiset ChannelDescriptor) := by
    rw [← List.dropLast_append_getLast? desc last, ← Multiset.coe_add, add_comm,
      List.dropLast_concat]
    rfl
  rw [split, ← Multiset.singleton_add, ← add_assoc] at changed
  have free := add_right_cancel changed
  rw [← free, add_comm, Multiset.singleton_add, Multiset.erase_cons_head]

/-- An allocation hands a channel out. -/
theorem allocate_ledger (last : (pool.freeByType type).getLast? = some desc)
    (single : desc ∉ pool.allocatedByType desc.type) :
    (pool.allocate type).1.ledger = pool.ledger.handOut desc := by
  rw [allocate_some last]
  apply Ledger.ext
  · exact setFree_dropLast_ledger last
  · have changed := held_setAllocated (pool.setFree type (pool.freeByType type).dropLast) desc.type
      (insert desc (pool.allocatedByType desc.type))
    rw [Finset.insert_val_of_notMem single, ← Multiset.singleton_add, ← add_assoc] at changed
    exact (add_right_cancel changed).trans (add_comm _ _)

/-- A descriptor that is handed out although its equal is allocated is lost. -/
theorem allocate_loses (typed : pool.Typed) (last : (pool.freeByType type).getLast? = some desc)
    (double : desc ∈ pool.allocatedByType desc.type) :
    (pool.allocate type).1.totalCount + 1 = pool.totalCount := by
  have held := held_setAllocated (pool.setFree type (pool.freeByType type).dropLast) desc.type
    (insert desc (pool.allocatedByType desc.type))
  rw [Finset.insert_eq_self.mpr double] at held
  have kept := add_right_cancel held
  have member := List.mem_of_getLast? last
  have free : desc ∈ pool.ledger.free := by
    rw [typed.mem_free]
    obtain rfl := typed.free type desc member
    exact member
  rw [totalCount_eq, totalCount_eq, allocate_some last, Ledger.total, Ledger.total,
    Finset.insert_eq_self.mpr double, kept]
  change Multiset.card (pool.setFree type _).ledger.free + Multiset.card pool.ledger.held + 1 = _
  rw [setFree_dropLast_ledger last, ← Multiset.card_erase_add_one free]
  omega

/-- A release gives a channel back. -/
theorem release_ledger (member : desc ∈ pool.allocatedByType desc.type) :
    (pool.release desc).1.ledger = pool.ledger.giveBack desc ∧ (pool.release desc).2 = true := by
  have added := congrArg Ledger.free (addChannel_ledger (pool.setAllocated desc.type
    ((pool.allocatedByType desc.type).erase desc)) desc)
  rw [release, if_pos member]
  exact ⟨Ledger.ext added (forget_ledger member), rfl⟩

/-- A channel that is not allocated is not released. -/
theorem release_refused (absent : desc ∉ pool.allocatedByType desc.type) :
    pool.release desc = (pool, false) := by
  rw [release, if_neg absent]

/-- A known channel is removed. -/
theorem removeChannel_ledger (typed : pool.Typed) (known : pool.knowsChannel desc = true) :
    (pool.removeChannel desc).1.ledger = pool.ledger.remove desc ∧
      (pool.removeChannel desc).2 = true := by
  have held := of_decide_eq_true known
  rw [removeChannel, if_pos known, removeFromFreeList, Ledger.remove]
  by_cases free : desc ∈ pool.freeByType desc.type
  · rw [if_pos free, if_pos (typed.mem_free.mpr free)]
    exact ⟨Ledger.ext (removeFromFreeList_ledger free) rfl, rfl⟩
  · have allocated := held.resolve_left free
    rw [if_neg free, if_neg (mt typed.mem_free.mp free)]
    simp only [if_pos allocated]
    exact ⟨Ledger.ext rfl (forget_ledger allocated), trivial⟩

/-- An unknown channel is not removed. -/
theorem removeChannel_refused (unknown : pool.knowsChannel desc = false) :
    pool.removeChannel desc = (pool, false) := by
  rw [removeChannel, if_neg (by rw [unknown]; nofun)]

/-! ### Types -/

/-- A list of channels of its type keeps the pool typed. -/
theorem Typed.setFree (typed : pool.Typed) {free : List ChannelDescriptor}
    (own : ∀ desc ∈ free, desc.type = type) : (pool.setFree type free).Typed := by
  refine ⟨fun other desc member => ?_, typed.allocated⟩
  change desc ∈ Function.update pool.freeByType type free other at member
  by_cases same : other = type
  · subst same
    rw [Function.update_self] at member
    exact own desc member
  · rw [Function.update_of_ne same] at member
    exact typed.free other desc member

/-- A set of channels of its type keeps the pool typed. -/
theorem Typed.setAllocated (typed : pool.Typed) {allocated : Finset ChannelDescriptor}
    (own : ∀ desc ∈ allocated, desc.type = type) : (pool.setAllocated type allocated).Typed := by
  refine ⟨typed.free, fun other desc member => ?_⟩
  change desc ∈ Function.update pool.allocatedByType type allocated other at member
  by_cases same : other = type
  · subst same
    rw [Function.update_self] at member
    exact own desc member
  · rw [Function.update_of_ne same] at member
    exact typed.allocated other desc member

theorem Typed.addChannel (typed : pool.Typed) (desc : ChannelDescriptor) :
    (pool.addChannel desc).Typed := by
  apply typed.setFree
  intro other member
  rcases List.mem_append.mp member with old | new
  · exact typed.free _ other old
  · rw [List.mem_singleton.mp new]

theorem Typed.erase (typed : pool.Typed) (type : ChannelType) (desc : ChannelDescriptor) :
    (pool.setAllocated type ((pool.allocatedByType type).erase desc)).Typed :=
  typed.setAllocated fun other member => typed.allocated _ other (Finset.mem_of_mem_erase member)

/-- Every call keeps the channels under their types. -/
theorem Typed.exec (typed : pool.Typed) {op : Op} {reply : Reply}
    (call : ChannelPool.exec pool op = some (target, reply)) : target.Typed := by
  cases op with
  | addChannel desc =>
      obtain ⟨rfl, -⟩ := Prod.mk.inj (Option.some.inj call)
      exact typed.addChannel desc
  | removeChannel desc =>
      obtain ⟨rfl, -⟩ := Prod.mk.inj (Option.some.inj call)
      rw [removeChannel, removeFromFreeList]
      split
      · split
        case h_1 removed erases =>
          split at erases
          case isTrue =>
            obtain rfl := Option.some.inj erases
            exact typed.setFree fun other member => typed.free _ other (List.mem_of_mem_erase member)
          case isFalse => cases erases
        case h_2 =>
          split
          · exact typed.erase _ desc
          · exact typed
      · exact typed
  | allocate type =>
      obtain ⟨rfl, -⟩ := Prod.mk.inj (Option.some.inj call)
      cases last : (pool.freeByType type).getLast? with
      | none =>
          rw [allocate_none last]
          exact typed
      | some desc =>
          rw [allocate_some last]
          apply Typed.setAllocated
          · exact typed.setFree fun other member =>
              typed.free _ other (List.mem_of_mem_dropLast member)
          · intro other member
            rcases Finset.mem_insert.mp member with rfl | old
            · rfl
            · exact typed.allocated _ other old
  | release desc =>
      obtain ⟨rfl, -⟩ := Prod.mk.inj (Option.some.inj call)
      rw [release]
      split
      · exact (typed.erase desc.type desc).addChannel desc
      · exact typed

theorem typed_empty : ({} : ChannelPool).Typed where
  free := fun _ _ member => absurd member List.not_mem_nil
  allocated := fun _ _ member => absurd member List.not_mem_nil

/-- The channels stand under their types in every state of every run. -/
theorem typed_of_run {allowed : ChannelPool → Op × Reply → ChannelPool → Prop}
    {events : List (Op × Reply)} (run : machine.Run allowed {} events pool) : pool.Typed :=
  run.invariant (fun _ state => state.Typed) typed_empty fun _ _ _ _ typed stepped _ =>
    typed.exec (Foundation.Machine.ofCalls_step.mp stepped)

/-- A call writes itself into the ledger unless it hands out an equal of an allocated
descriptor. -/
theorem exec_ledger (typed : pool.Typed) {op : Op} {reply : Reply}
    (call : exec pool op = some (target, reply)) (single : pool.SingleHandout op) :
    target.ledger = record pool.ledger (op, reply) := by
  cases op with
  | addChannel desc =>
      obtain ⟨rfl, rfl⟩ := Prod.mk.inj (Option.some.inj call)
      exact addChannel_ledger pool desc
  | removeChannel desc =>
      obtain ⟨rfl, rfl⟩ := Prod.mk.inj (Option.some.inj call)
      cases known : pool.knowsChannel desc with
      | true =>
          obtain ⟨removed, flag⟩ := removeChannel_ledger typed known
          rw [removed, flag]
          rfl
      | false =>
          rw [removeChannel_refused known]
          rfl
  | allocate type =>
      obtain ⟨rfl, rfl⟩ := Prod.mk.inj (Option.some.inj call)
      cases last : (pool.freeByType type).getLast? with
      | none =>
          rw [allocate_none last]
          rfl
      | some desc =>
          rw [allocate_ledger last (single type desc rfl last), allocate_some last]
          rfl
  | release desc =>
      obtain ⟨rfl, rfl⟩ := Prod.mk.inj (Option.some.inj call)
      by_cases member : desc ∈ pool.allocatedByType desc.type
      · obtain ⟨released, flag⟩ := release_ledger member
        rw [released, flag]
        rfl
      · rw [release_refused member]
        rfl

/-! ## Runs -/

/-- The number of channels added in a history. -/
def adds (events : List (Op × Reply)) : Nat :=
  events.countP fun event =>
    match event.1 with
    | .addChannel _ => true
    | _ => false

/-- The number of channels removed in a history. -/
def removes (events : List (Op × Reply)) : Nat :=
  events.countP fun event =>
    match event with
    | (.removeChannel _, .flag true) => true
    | _ => false

theorem typed_held_nodup (typed : pool.Typed) : pool.ledger.held.Nodup := by
  rw [Multiset.nodup_iff_count_le_one]
  intro desc
  rw [ledger, Multiset.count_sum']
  rw [Finset.sum_eq_single desc.type]
  · exact Multiset.nodup_iff_count_le_one.mp (pool.allocatedByType desc.type).nodup desc
  · intro type _ other
    exact Multiset.count_eq_zero_of_notMem fun member =>
      other (typed.allocated type desc member).symm
  · exact fun absent => absurd (Finset.mem_univ _) absent

/-- What is promised of the channels of a pool with a history.  The descriptors held in the
ledger of the history are those that were handed out and neither released nor removed since. -/
structure Conserved (events : List (Op × Reply)) (pool : ChannelPool) : Prop where
  total : pool.totalCount + removes events = adds events
  sum : ∑ type, pool.freeCount type + ∑ type, pool.allocatedCount type = pool.totalCount
  once : (recorded events).held.Nodup
  released : ∀ desc, (pool.release desc).2 = true ↔ desc ∈ (recorded events).held

/-- The allocations of a run hand out no equal of an allocated descriptor. -/
def SingleHandouts (source : ChannelPool) (event : Op × Reply) (_ : ChannelPool) : Prop :=
  source.SingleHandout event.1

theorem recorded_snoc (events : List (Op × Reply)) (event : Op × Reply) :
    recorded (events ++ [event]) = record (recorded events) event := by
  rw [recorded, List.foldl_append]
  rfl

theorem adds_snoc (events : List (Op × Reply)) (event : Op × Reply) :
    adds (events ++ [event]) = adds events + adds [event] :=
  List.countP_append

theorem removes_snoc (events : List (Op × Reply)) (event : Op × Reply) :
    removes (events ++ [event]) = removes events + removes [event] :=
  List.countP_append

/-- The number of channels after a call that handed out no equal of an allocated descriptor. -/
theorem exec_total (typed : pool.Typed) {op : Op} {reply : Reply}
    (call : exec pool op = some (target, reply)) (single : pool.SingleHandout op) :
    target.totalCount + removes [(op, reply)] = pool.totalCount + adds [(op, reply)] := by
  rw [totalCount_eq, totalCount_eq, exec_ledger typed call single]
  cases op with
  | addChannel desc => exact Ledger.total_add _ desc
  | removeChannel desc =>
      obtain ⟨rfl, rfl⟩ := Prod.mk.inj (Option.some.inj call)
      cases known : pool.knowsChannel desc with
      | true =>
          rw [(removeChannel_ledger typed known).2]
          exact Ledger.total_remove ((of_decide_eq_true known).imp typed.mem_free.mpr
            typed.mem_held.mpr)
      | false =>
          rw [removeChannel_refused known]
          rfl
  | allocate type =>
      obtain ⟨rfl, rfl⟩ := Prod.mk.inj (Option.some.inj call)
      cases last : (pool.freeByType type).getLast? with
      | none =>
          rw [allocate_none last]
          rfl
      | some desc =>
          have member := List.mem_of_getLast? last
          obtain rfl := typed.free type desc member
          rw [allocate_some last]
          exact Ledger.total_handOut (typed.mem_free.mpr member)
  | release desc =>
      obtain ⟨rfl, rfl⟩ := Prod.mk.inj (Option.some.inj call)
      by_cases member : desc ∈ pool.allocatedByType desc.type
      · rw [(release_ledger member).2]
        exact Ledger.total_giveBack (typed.mem_held.mpr member)
      · rw [release_refused member]
        rfl

/-- The channels are conserved in every run without a double handout. -/
theorem conserved_of_run {events : List (Op × Reply)}
    (run : machine.Run SingleHandouts {} events pool) : Conserved events pool := by
  obtain ⟨typed, kept, total⟩ := run.invariant (fun past state => state.Typed ∧
    state.ledger = recorded past ∧ state.totalCount + removes past = adds past)
    ⟨typed_empty, rfl, rfl⟩ (by
      rintro past source target ⟨op, reply⟩ ⟨typed, kept, total⟩ stepped single
      have call := Foundation.Machine.ofCalls_step.mp stepped
      have added : target.totalCount + removes [(op, reply)] =
          source.totalCount + adds [(op, reply)] := exec_total typed call single
      refine ⟨typed.exec call, ?_, ?_⟩
      · rw [recorded_snoc, exec_ledger typed call single, kept]
      · rw [removes_snoc, adds_snoc]
        omega)
  refine ⟨total, rfl, ?_, fun desc => ?_⟩
  · rw [← kept]
    exact typed_held_nodup typed
  · rw [← kept, typed.mem_held]
    by_cases member : desc ∈ pool.allocatedByType desc.type
    · exact iff_of_true (release_ledger member).2 member
    · rw [release_refused member]
      exact iff_of_false nofun member

/-- The channels are conserved in every state of a run exactly when each of its allocations
finds that the descriptor it hands out has no allocated equal. -/
theorem conserved_iff {events : List (Op × Reply)}
    (run : machine.Run (fun _ _ _ => True) {} events pool) :
    (∀ (before after : List (Op × Reply)) (state : ChannelPool), events = before ++ after →
        machine.Run (fun _ _ _ => True) {} before state → Conserved before state) ↔
      machine.Run SingleHandouts {} events pool := by
  constructor
  · intro conserved
    induction run with
    | origin => exact .origin
    | @next events source target event run stepped _ ih =>
        have earlier := ih fun before after state split =>
          conserved before (after ++ [event]) state (by rw [split, List.append_assoc])
        refine earlier.next stepped ?_
        intro type desc allocates last double
        obtain ⟨op, reply⟩ := event
        obtain rfl : op = .allocate type := allocates
        have before := (conserved events [(.allocate type, reply)] source rfl run).total
        have now := (conserved _ [] target (List.append_nil _).symm (run.next stepped trivial)).total
        obtain ⟨rfl, rfl⟩ := Prod.mk.inj
          (Option.some.inj (Foundation.Machine.ofCalls_step.mp stepped))
        have lost : (source.allocate type).1.totalCount + 1 = source.totalCount :=
          allocate_loses (typed_of_run run) last double
        have kept : (source.allocate type).1.totalCount + removes events = adds events := by
          rw [removes_snoc, adds_snoc] at now
          exact now
        omega
  · intro single before after state split reached
    rw [split] at single
    exact conserved_of_run (single.restrict reached)

/-- A traffic channel. -/
private def someChannel : ChannelDescriptor :=
  { type := .tchfType, trxNumber := 1, timeslot := 2, arfcn := 100 }

/-- A channel is added and handed out. -/
private def handedOut : List (Op × Reply) :=
  [(.addChannel someChannel, .done), (.allocate .tchfType, .channel (some someChannel))]

/-- The channel is conserved while it is handed out. -/
theorem conserved_handedOut :
    ∃ pool, machine.exec (fun _ _ _ => True) {} handedOut = some pool ∧
      ((∀ (before after : List (Op × Reply)) (state : ChannelPool), handedOut = before ++ after →
          machine.Run (fun _ _ _ => True) {} before state → Conserved before state) ↔
        machine.Run SingleHandouts {} handedOut pool) := by
  obtain ⟨pool, executed⟩ := Option.isSome_iff_exists.mp
    (show (machine.exec (fun _ _ _ => True) {} handedOut).isSome by decide)
  exact ⟨pool, executed, conserved_iff (.exec _ .origin executed)⟩

/-- An equal channel is added and handed out as well. -/
private def handedOutTwice : List (Op × Reply) :=
  [(.addChannel someChannel, .done), (.addChannel someChannel, .done),
    (.allocate .tchfType, .channel (some someChannel)),
    (.allocate .tchfType, .channel (some someChannel))]

/-- Then one of the two is lost. -/
theorem duplicate_lost :
    ∃ pool, machine.exec (fun _ _ _ => True) {} handedOutTwice = some pool ∧
      pool.totalCount = 1 ∧ adds handedOutTwice = 2 ∧ removes handedOutTwice = 0 ∧
      (recorded handedOutTwice).held = {someChannel, someChannel} := by
  obtain ⟨pool, executed⟩ := Option.isSome_iff_exists.mp
    (show (machine.exec (fun _ _ _ => True) {} handedOutTwice).isSome by decide)
  have counts : ∀ pool ∈ machine.exec (fun _ _ _ => True) {} handedOutTwice,
      pool.totalCount = 1 := by
    decide
  exact ⟨pool, executed, counts pool executed, by decide, by decide, by decide⟩

end ChannelPool

end Stack

end Gsml3
