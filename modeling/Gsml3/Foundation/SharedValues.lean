import Gsml3.Foundation.Machine
import Gsml3.Foundation.ReferenceCounts

/-!
# Objects with shared values

Objects that are empty, hold a plain value or share a cell, with the calls that a program can
make on objects of a type with value semantics: construction, copies and moves, assignment,
release, destruction and use.  An implementation of such a type with pointers and counts behaves
like these values if every call does.
-/

namespace Foundation

/-- What an object holds. -/
inductive SharedValue (Plain : Type*) where
  | empty
  | plain (value : Plain)
  | shared (cell : Nat)
deriving DecidableEq, Repr

/-- A call on objects, which are numbered in the order of their construction. -/
inductive ValueCall (Plain Arg : Type*) where
  | construct
  | wrap (value : Plain)
  | share
  | copy (source : Nat)
  | move (source : Nat)
  | copyAssign (target source : Nat)
  | moveAssign (target source : Nat)
  | release (target : Nat)
  | destroy (target : Nat)
  | invoke (target : Nat) (argument : Arg)
deriving DecidableEq, Repr

/-- The objects, of which those destroyed are `none`, and the number of cells made. -/
structure ValueStore (Plain : Type*) where
  objects : List (Option (SharedValue Plain)) := []
  cells : Nat := 0
deriving DecidableEq, Repr

namespace ValueStore

variable {Plain Arg Reply : Type*}

def read (store : ValueStore Plain) (object : Nat) : Option (SharedValue Plain) :=
  store.objects[object]?.join

def add (store : ValueStore Plain) (value : SharedValue Plain) : ValueStore Plain :=
  { store with objects := store.objects ++ [some value] }

def put (store : ValueStore Plain) (object : Nat) (value : Option (SharedValue Plain)) :
    ValueStore Plain :=
  { store with objects := store.objects.set object value }

/-- A call on objects that exist, with its reply; `deliver` uses a value, if it can be used. -/
def perform (deliver : SharedValue Plain → Arg → Option Reply) (store : ValueStore Plain) :
    ValueCall Plain Arg → Option (ValueStore Plain × Option Reply)
  | .construct => some (store.add .empty, none)
  | .wrap value => some (store.add (.plain value), none)
  | .share => some ({ store.add (.shared store.cells) with cells := store.cells + 1 }, none)
  | .copy source => (store.read source).map fun value => (store.add value, none)
  | .move source =>
      (store.read source).map fun value => ((store.put source (some .empty)).add value, none)
  | .copyAssign target source =>
      (store.read target).bind fun _ =>
        (store.read source).map fun value => (store.put target (some value), none)
  | .moveAssign target source =>
      (store.read target).bind fun _ =>
        (store.read source).map fun value =>
          if target = source then (store, none)
          else ((store.put target (some value)).put source (some .empty), none)
  | .release target => (store.read target).map fun _ => (store.put target (some .empty), none)
  | .destroy target => (store.read target).map fun _ => (store.put target none, none)
  | .invoke target argument =>
      (store.read target).bind fun value =>
        (deliver value argument).map fun reply => (store, some reply)

theorem put_self {store : ValueStore Plain} {object : Nat} {value : SharedValue Plain}
    (read : store.read object = some value) : store.put object (some value) = store := by
  obtain ⟨inside, same⟩ := List.getElem?_eq_some_iff.mp (Option.join_eq_some_iff.mp read)
  rw [put, ← same, List.set_getElem_self]

/-- The machine of the calls with their replies. -/
def machine [DecidableEq Reply] (deliver : SharedValue Plain → Arg → Option Reply) :
    Machine (ValueStore Plain) (ValueCall Plain Arg × Option Reply) :=
  Machine.ofCalls (perform deliver)

/-- The cell is shared by an object. -/
def Shares (store : ValueStore Plain) (cell : Nat) : Prop :=
  ∃ object, store.read object = some (.shared cell)

/-- The number of objects that share the cell. -/
def sharers [DecidableEq Plain] (store : ValueStore Plain) (cell : Nat) : Nat :=
  store.objects.count (some (.shared cell))

end ValueStore

/-! ## Implementations -/

section Implementation

variable {State Call Reply Store : Type*} [DecidableEq Reply]

/-- Two systems of calls that accept the same calls from related states within their limits, with
the same replies, and stay related. -/
structure Implements (perform : State → Call → Option (State × Reply))
    (specified : Store → Call → Option (Store × Reply)) (related : State → Store → Prop)
    (limited : State → Prop) (bounded : Store → Prop) : Prop where
  limits : ∀ {state store}, related state store → (limited state ↔ bounded store)
  step : ∀ {state store}, related state store → limited state → ∀ call,
    Option.Rel (fun result expected => result.2 = expected.2 ∧ related result.1 expected.1)
      (perform state call) (specified store call)

variable {perform : State → Call → Option (State × Reply)}
  {specified : Store → Call → Option (Store × Reply)} {related : State → Store → Prop}
  {limited : State → Prop} {bounded : Store → Prop}
  {origin state : State} {initial store : Store} {events : List (Call × Reply)}

/-- Every run of the implementation within its limits is one of the specification. -/
theorem Implements.sound (implements : Implements perform specified related limited bounded)
    (start : related origin initial)
    (run : (Machine.ofCalls perform).Run (fun source _ _ => limited source) origin events state) :
    ∃ store, (Machine.ofCalls specified).Run (fun source _ _ => bounded source) initial events
        store ∧ related state store := by
  induction run with
  | origin => exact ⟨initial, .origin, start⟩
  | @next _ source target event _ stepped within ih =>
      obtain ⟨store, before, holds⟩ := ih
      have agree := implements.step holds within event.1
      rw [Machine.ofCalls_step.mp stepped] at agree
      cases expected : specified store event.1 with
      | none =>
          rw [expected] at agree
          cases agree
      | some result =>
          rw [expected] at agree
          cases agree with
          | some same =>
              obtain ⟨reply, after⟩ := same
              refine ⟨result.1, ?_, after⟩
              apply before.next _ ((implements.limits holds).mp within)
              apply Machine.ofCalls_step.mpr
              rw [expected]
              exact congrArg some (Prod.ext rfl reply.symm)

/-- Every run of the specification within its bounds is one of the implementation. -/
theorem Implements.complete (implements : Implements perform specified related limited bounded)
    (start : related origin initial)
    (run : (Machine.ofCalls specified).Run (fun source _ _ => bounded source) initial events
      store) :
    ∃ state, (Machine.ofCalls perform).Run (fun source _ _ => limited source) origin events
        state ∧ related state store := by
  induction run with
  | origin => exact ⟨origin, .origin, start⟩
  | @next _ source target event _ stepped within ih =>
      obtain ⟨state, before, holds⟩ := ih
      have permitted := (implements.limits holds).mpr within
      have agree := implements.step holds permitted event.1
      rw [Machine.ofCalls_step.mp stepped] at agree
      cases performed : perform state event.1 with
      | none =>
          rw [performed] at agree
          cases agree
      | some result =>
          rw [performed] at agree
          cases agree with
          | some same =>
              obtain ⟨reply, after⟩ := same
              refine ⟨result.1, ?_, after⟩
              apply before.next _ permitted
              apply Machine.ofCalls_step.mpr
              rw [performed]
              exact congrArg some (Prod.ext rfl reply)

end Implementation

end Foundation
