import Gsml3.Foundation.SharedValues

/-!
# Response sinks

A `ResponseSink` is a function and a context.  Where the function is the trampoline of shared
sinks, the context is a holder with a reference count, which all copies of the sink share.  A
holder is deleted when its count falls from one; a use of a deleted one has no result.  The count
is a machine word, so the sinks are values as long as no holder has more sharers than a word has
values.
-/

namespace Gsml3

namespace Stack

/-- A callback: the trampoline `responseSinkTrampoline` or a function of the user. -/
inductive SinkCallback where
  | responseSinkTrampoline
  | user (function : Nat)
deriving DecidableEq, Repr

/-- A sink; a null pointer is `none`. -/
structure ResponseSink where
  fn : Option SinkCallback := none
  ctx : Option Nat := none
deriving DecidableEq, Repr

namespace ResponseSink

/-- The holder of a shared sink. -/
def holder? (sink : ResponseSink) : Option Nat :=
  if sink.fn = some .responseSinkTrampoline then sink.ctx else none

end ResponseSink

/-- The holders allocated: the 32 bits of their `std::atomic<int>`, which wraps, or `none` for a
holder that was deleted. -/
abbrev SinkHolders := List (Option UInt32)

namespace SinkHolders

/-- Acquire one ownership reference on a shared sink holder. -/
def acquireResponseSink (holders : SinkHolders) (holder : Nat) : Option SinkHolders :=
  holders[holder]?.join.map fun refcount => holders.set holder (some (refcount + 1))

/-- Release one ownership reference; a holder whose count was one is deleted. -/
def releaseResponseSink (holders : SinkHolders) (holder : Nat) : Option SinkHolders :=
  holders[holder]?.join.map fun refcount =>
    holders.set holder (if refcount = 1 then none else some (refcount - 1))

end SinkHolders

/-- What a sink calls: the callable of a holder, or a function of the user with its context. -/
inductive SinkCallee where
  | callable (holder : Nat)
  | user (function : Nat) (ctx : Option Nat)
deriving DecidableEq, Repr

namespace ResponseSink

/-- Co-own the callable, if the sink shares one. -/
def acquire (sink : ResponseSink) (holders : SinkHolders) : Option SinkHolders :=
  match sink.holder? with
  | some holder => holders.acquireResponseSink holder
  | none => some holders

/-- Gives the shared callable up, if there is one. -/
def releaseShared (sink : ResponseSink) (holders : SinkHolders) : Option SinkHolders :=
  match sink.holder? with
  | some holder => holders.releaseResponseSink holder
  | none => some holders

/-- `operator()`. -/
def invoke (sink : ResponseSink) (holders : SinkHolders) : Option SinkCallee :=
  match sink.fn, sink.ctx with
  | some (.user function), ctx => some (.user function ctx)
  | some .responseSinkTrampoline, some holder =>
      holders[holder]?.join.map fun _ => .callable holder
  | _, _ => none

end ResponseSink

/-! ## Objects -/

/-- The sinks of a program, of which those destroyed are `none`. -/
structure Sinks where
  objects : List (Option ResponseSink) := []
  holders : SinkHolders := []
deriving DecidableEq, Repr

namespace Sinks

open Foundation

/-- The sink of an object that is alive. -/
def read (sinks : Sinks) (object : Nat) : Option ResponseSink :=
  sinks.objects[object]?.join

/-- The calls on sinks; a function of the user is bound to a context of its own. -/
abbrev Call := ValueCall (Nat × Option Nat) Unit

/-- One operation of a program with sinks. -/
def perform (sinks : Sinks) : Call → Option (Sinks × Option SinkCallee)
  | .construct => some ({ sinks with objects := sinks.objects ++ [some {}] }, none)
  | .wrap (function, ctx) =>
      some ({ sinks with
        objects := sinks.objects ++ [some { fn := some (.user function), ctx := ctx }] }, none)
  | .share =>
      some
        ({ objects := sinks.objects ++
            [some { fn := some .responseSinkTrampoline, ctx := some sinks.holders.length }]
           holders := sinks.holders ++ [some 1] }, none)
  | .copy source =>
      (sinks.read source).bind fun other =>
        (other.acquire sinks.holders).map fun holders =>
          ({ objects := sinks.objects ++ [some other], holders := holders }, none)
  | .move source =>
      (sinks.read source).map fun other =>
        ({ sinks with objects := sinks.objects.set source (some {}) ++ [some other] }, none)
  | .copyAssign target source =>
      (sinks.read target).bind fun own =>
        (sinks.read source).bind fun other =>
          if target = source then some (sinks, none)
          else
            (own.releaseShared sinks.holders).bind fun holders =>
              (other.acquire holders).map fun holders =>
                ({ objects := sinks.objects.set target (some other), holders := holders }, none)
  | .moveAssign target source =>
      (sinks.read target).bind fun own =>
        (sinks.read source).bind fun other =>
          if target = source then some (sinks, none)
          else
            (own.releaseShared sinks.holders).map fun holders =>
              ({ objects := (sinks.objects.set target (some other)).set source (some {})
                 holders := holders }, none)
  | .release target =>
      (sinks.read target).bind fun own =>
        (own.releaseShared sinks.holders).map fun holders =>
          ({ objects := sinks.objects.set target (some {}), holders := holders }, none)
  | .destroy target =>
      (sinks.read target).bind fun own =>
        (own.releaseShared sinks.holders).map fun holders =>
          ({ objects := sinks.objects.set target none, holders := holders }, none)
  | .invoke target _ =>
      (sinks.read target).bind fun own =>
        (own.invoke sinks.holders).map fun called => (sinks, some called)

/-- The programs with sinks as a machine. -/
def machine : Machine Sinks (Call × Option SinkCallee) :=
  .ofCalls perform

/-- What the value that a sink stands for calls. -/
def deliver : SharedValue (Nat × Option Nat) → Unit → Option SinkCallee
  | .empty, _ => none
  | .plain (function, ctx), _ => some (.user function ctx)
  | .shared cell, _ => some (.callable cell)

/-! ## Sinks are values -/

/-- The holder that an object shares. -/
def holderOf (object : Option ResponseSink) : Option Nat :=
  object.bind ResponseSink.holder?

/-- The value of a sink. -/
inductive Holds : ResponseSink → SharedValue (Nat × Option Nat) → Prop where
  | empty : Holds {} .empty
  | plain (function : Nat) (ctx : Option Nat) :
      Holds { fn := some (.user function), ctx := ctx } (.plain (function, ctx))
  | shared (holder : Nat) :
      Holds { fn := some .responseSinkTrampoline, ctx := some holder } (.shared holder)

/-- The number of sinks that share a holder. -/
def sharers (sinks : Sinks) (holder : Nat) : Nat :=
  (sinks.objects.map holderOf).count (some holder)

/-- No holder has more sharers than its count has values. -/
def Countable (sinks : Sinks) : Prop :=
  ∀ holder, sinks.sharers holder ≤ 2 ^ 32

/-- The count of a holder is the number of sinks that share it. -/
structure Represents (sinks : Sinks) (store : ValueStore (Nat × Option Nat)) : Prop where
  cells : sinks.holders.length = store.cells
  values : List.Forall₂ (Option.Rel Holds) sinks.objects store.objects
  counts : CountTable sinks.holders (sinks.objects.map holderOf)

section Calls

variable {objects : List (Option ResponseSink)} {holders holders' : SinkHolders}
  {store : ValueStore (Nat × Option Nat)} {object : Nat} {own other : ResponseSink}
  {value : SharedValue (Nat × Option Nat)} {mine : Option ResponseSink}
  {theirs : Option (SharedValue (Nat × Option Nat))}

/-- Reading an object agrees with reading its value. -/
theorem Represents.read_cases (represents : Represents ⟨objects, holders⟩ store) (object : Nat) :
    Sinks.read ⟨objects, holders⟩ object = none ∧ store.read object = none ∨
      ∃ own value, Sinks.read ⟨objects, holders⟩ object = some own ∧
        store.read object = some value ∧ objects[object]? = some (some own) ∧ Holds own value := by
  have related := forall₂_read represents.values object
  change Option.Rel _ objects[object]? _ at related
  change objects[object]?.join = none ∧ store.objects[object]?.join = none ∨
    ∃ own value, objects[object]?.join = some own ∧ store.objects[object]?.join = some value ∧ _
  generalize objects[object]? = mine, store.objects[object]? = theirs at related ⊢
  cases related with
  | none => exact .inl ⟨rfl, rfl⟩
  | some same =>
      cases same with
      | none => exact .inl ⟨rfl, rfl⟩
      | some holds => exact .inr ⟨_, _, rfl, rfl, rfl, holds⟩

theorem holderOf_read (found : objects[object]? = some (some own)) :
    (objects.map holderOf)[object]? = some own.holder? := by
  rw [List.getElem?_map, found]
  rfl

/-- A value is shared as its object is. -/
theorem shares_iff (holds : Option.Rel Holds mine theirs) (holder : Nat) :
    holderOf mine = some holder ↔ theirs = some (.shared holder) := by
  cases holds with
  | none => exact iff_of_false (by rintro ⟨⟩) (by rintro ⟨⟩)
  | some same =>
      cases same with
      | empty => exact iff_of_false (by rintro ⟨⟩) (by rintro ⟨⟩)
      | plain => exact iff_of_false (by rintro ⟨⟩) (by rintro ⟨⟩)
      | shared other =>
          change some other = some holder ↔ _
          simp only [Option.some.injEq, SharedValue.shared.injEq]

/-- Sinks have as many sharers as their values. -/
theorem Represents.sharers_eq {sinks : Sinks} (represents : Represents sinks store)
    (holder : Nat) : sinks.sharers holder = store.sharers holder := by
  have values := represents.values
  rw [Sinks.sharers, ValueStore.sharers]
  generalize sinks.objects = objects, store.objects = stored at values ⊢
  induction values with
  | nil => rfl
  | @cons mine theirs _ _ holds _ ih =>
      have same := shares_iff holds holder
      rw [List.map_cons, List.count_cons, List.count_cons, ih]
      simp only [beq_iff_eq, same]

/-- A new object that shares what another does. -/
theorem Represents.copied (represents : Represents ⟨objects, holders⟩ store)
    (found : objects[object]? = some (some other)) (holds : Holds other value) :
    ∃ holders', other.acquire holders = some holders' ∧
      Represents ⟨objects ++ [some other], holders'⟩ (store.add value) := by
  have owned := holderOf_read found
  have values : List.Forall₂ (Option.Rel Holds) (objects ++ [some other])
      (store.objects ++ [some value]) :=
    List.rel_append represents.values (.cons (.some holds) .nil)
  have counted := counted_self (objects.map holderOf)
  cases owns : other.holder? with
  | none =>
      refine ⟨holders, by rw [ResponseSink.acquire, owns], represents.cells, values, ?_⟩
      apply represents.counts.keep
      rw [List.map_append]
      apply counted.push
      intro cell
      rw [if_neg (show holderOf (some other) ≠ some cell by
        change other.holder? ≠ some cell
        rw [owns]
        exact (Option.some_ne_none cell).symm), Nat.add_zero]
  | some holder =>
      rw [owns] at owned
      obtain ⟨refcount, alive⟩ := represents.counts.found owned
      refine ⟨holders.set holder (some (refcount + 1)), ?_,
        (List.length_set ..).trans represents.cells, values, ?_⟩
      · rw [ResponseSink.acquire, owns]
        exact congrArg (Option.map _) alive
      · apply represents.counts.acquire alive
        rw [List.map_append]
        apply counted.push
        intro cell
        rw [show holderOf (some other) = some holder from owns]
        simp only [Option.some.injEq]

/-- What releases the holder of an object and leaves the object without one. -/
theorem Represents.clear (represents : Represents ⟨objects, holders⟩ store)
    (countable : Sinks.Countable ⟨objects, holders⟩)
    (found : objects[object]? = some (some own)) {new : Option ResponseSink}
    {changed : Option (SharedValue (Nat × Option Nat))} (unshared : holderOf new = none)
    (holds : Option.Rel Holds new changed) :
    ∃ holders', own.releaseShared holders = some holders' ∧
      Represents ⟨objects.set object new, holders'⟩ (store.put object changed) := by
  have owned := holderOf_read found
  have values := @forall₂_set _ _ _ _ _ _ represents.values object _ _ holds
    fun _ _ _ _ _ _ same => same
  have counted := counted_self (objects.map holderOf)
  cases owns : own.holder? with
  | none =>
      refine ⟨holders, by rw [ResponseSink.releaseShared, owns], represents.cells, values, ?_⟩
      apply represents.counts.keep
      rw [List.map_set]
      apply counted.set owned
      intro cell
      rw [owns, unshared, if_neg (Option.some_ne_none cell).symm]
      rfl
  | some holder =>
      rw [owns] at owned
      obtain ⟨refcount, alive⟩ := represents.counts.found owned
      refine ⟨holders.set holder (if refcount = 1 then none else some (refcount - 1)), ?_,
        (List.length_set ..).trans represents.cells, values, ?_⟩
      · rw [ResponseSink.releaseShared, owns]
        exact congrArg (Option.map _) alive
      · apply represents.counts.release alive (countable holder)
        rw [List.map_set]
        apply counted.set owned
        intro cell
        rw [unshared, if_neg (Option.some_ne_none cell).symm, Nat.add_zero]
        simp only [Option.some.injEq]

/-- An object without a holder that takes another value. -/
theorem Represents.assigned (represents : Represents ⟨objects.set object none, holders⟩
      (store.put object none)) (inside : object < objects.length) {source : Nat}
    (different : object ≠ source) (found : objects[source]? = some (some other))
    (holds : Holds other value) :
    ∃ holders', other.acquire holders = some holders' ∧
      Represents ⟨objects.set object (some other), holders'⟩ (store.put object (some value)) := by
  have found' : (objects.set object none)[source]? = some (some other) := by
    rwa [List.getElem?_set_ne different]
  obtain ⟨holders', acquire, copied⟩ := represents.copied found' holds
  refine ⟨holders', acquire, copied.cells, ?_, ?_⟩
  · have set := @forall₂_set _ _ _ _ _ _ represents.values object _ _ (.some holds)
      fun _ _ _ _ _ _ same => same
    rwa [ValueStore.put, List.set_set, List.set_set] at set
  · apply copied.counts.keep
    have counted := counted_self ((objects.set object none ++ [some other]).map holderOf)
    rw [List.map_append, List.map_set] at counted ⊢
    have settled := @Counted.settle _ _ object _ counted
      (List.getElem?_set_self (by rwa [List.length_map]))
    rw [List.set_set] at settled
    rw [List.map_set]
    exact settled

/-- Move construction takes the reference over. -/
theorem Represents.moved (represents : Represents ⟨objects, holders⟩ store)
    (found : objects[object]? = some (some other)) (holds : Holds other value) :
    Represents ⟨objects.set object (some {}) ++ [some other], holders⟩
      ((store.put object (some .empty)).add value) where
  cells := represents.cells
  values := by
    apply List.rel_append
    · exact forall₂_set represents.values (.some .empty) fun _ _ _ _ _ _ same => same
    · exact .cons (.some holds) .nil
  counts := by
    apply represents.counts.keep
    rw [List.map_append, List.map_set]
    exact (counted_self (objects.map holderOf)).move (holderOf_read found)

/-- Move assignment takes the reference over, and leaves the source empty. -/
theorem Represents.transferred {target source : Nat}
    (represents : Represents ⟨objects.set target none, holders⟩ (store.put target none))
    (different : target ≠ source) (found : objects[source]? = some (some other))
    (holds : Holds other value) (inside : target < objects.length) :
    Represents ⟨(objects.set target (some other)).set source (some {}), holders⟩
      ((store.put target (some value)).put source (some .empty)) where
  cells := represents.cells
  values := by
    have taken := @forall₂_set _ _ _ _ _ _ represents.values target _ _ (.some holds)
      fun _ _ _ _ _ _ kept => kept
    have emptied := @forall₂_set _ _ _ _ _ _ taken source (some {})
      (some .empty) (.some .empty) fun _ _ _ _ _ _ kept => kept
    simp only [ValueStore.put, List.set_set] at emptied ⊢
    exact emptied
  counts := by
    apply represents.counts.keep
    have counted := counted_self ((objects.set target none).map holderOf)
    rw [List.map_set] at counted ⊢
    have owned : ((objects.map holderOf).set target (holderOf none))[source]? =
        some other.holder? := by
      rw [List.getElem?_set_ne different]
      exact holderOf_read found
    have moved := counted.transfer different owned
      (List.getElem?_set_self (by rwa [List.length_map]))
    rw [List.set_set] at moved
    rw [List.map_set, List.map_set]
    exact moved

end Calls

/-- The agreement of a call on both levels. -/
abbrev Agree {Reply : Type} : Option (Sinks × Reply) →
    Option (ValueStore (Nat × Option Nat) × Reply) → Prop :=
  Option.Rel fun result expected => result.2 = expected.2 ∧ Represents result.1 expected.1

section Steps

variable {objects : List (Option ResponseSink)} {holders : SinkHolders}
  {store : ValueStore (Nat × Option Nat)}

/-- A new sink without a holder. -/
theorem Represents.added (represents : Represents ⟨objects, holders⟩ store) {sink : ResponseSink}
    {value : SharedValue (Nat × Option Nat)} (holds : Holds sink value)
    (unshared : sink.holder? = none) :
    Represents ⟨objects ++ [some sink], holders⟩ (store.add value) := by
  refine ⟨represents.cells, List.rel_append represents.values (.cons (.some holds) .nil), ?_⟩
  apply represents.counts.keep
  rw [List.map_append]
  apply (counted_self (objects.map holderOf)).push
  intro cell
  have without : holderOf (some sink) ≠ some cell := by
    change sink.holder? ≠ some cell
    rw [unshared]
    exact (Option.some_ne_none cell).symm
  rw [if_neg without, Nat.add_zero]

/-- A new sink with a holder of its own, which has one reference. -/
theorem Represents.shared (represents : Represents ⟨objects, holders⟩ store) :
    Agree (perform ⟨objects, holders⟩ .share) (store.perform deliver .share) := by
  refine .some ⟨rfl, ?_, ?_, ?_⟩
  · exact List.length_append.trans (congrArg (· + 1) represents.cells)
  · apply List.rel_append represents.values
    rw [represents.cells]
    exact .cons (.some (.shared _)) .nil
  · apply represents.counts.push
    rw [List.map_append]
    apply (counted_self (objects.map holderOf)).push
    intro cell
    change _ = _ + if some holders.length = some cell then 1 else 0
    simp only [Option.some.injEq]

/-- Copy assignment gives the target's holder up before it acquires the source's. -/
theorem Represents.copyAssigned (represents : Represents ⟨objects, holders⟩ store)
    (countable : Sinks.Countable ⟨objects, holders⟩) (target source : Nat) :
    Agree (perform ⟨objects, holders⟩ (.copyAssign target source))
      (store.perform deliver (.copyAssign target source)) := by
  rcases represents.read_cases target with ⟨none, none'⟩ | ⟨own, old, found, read, object, -⟩
  · rw [perform, ValueStore.perform, none, none']
    exact .none
  rcases represents.read_cases source with
    ⟨none, none'⟩ | ⟨other, value, found', read', object', holds⟩
  · rw [perform, ValueStore.perform, found, read, none, none']
    exact .none
  rw [perform, ValueStore.perform, found, read, found', read', Option.bind_some,
    Option.bind_some, Option.bind_some]
  by_cases same : target = source
  · rw [if_pos same]
    refine .some ⟨rfl, ?_⟩
    change Represents _ (store.put target (some value))
    rwa [same, ValueStore.put_self read']
  · rw [if_neg same]
    obtain ⟨holders', release, cleared⟩ := @Represents.clear _ _ _ target own represents
      countable object none none rfl .none
    obtain ⟨holders'', acquire, assigned⟩ := cleared.assigned
      (List.getElem?_eq_some_iff.mp object).1 same object' holds
    rw [release, Option.bind_some, acquire]
    exact .some ⟨rfl, assigned⟩

/-- Move assignment gives the target's holder up and takes the source's reference over. -/
theorem Represents.moveAssigned (represents : Represents ⟨objects, holders⟩ store)
    (countable : Sinks.Countable ⟨objects, holders⟩) (target source : Nat) :
    Agree (perform ⟨objects, holders⟩ (.moveAssign target source))
      (store.perform deliver (.moveAssign target source)) := by
  rcases represents.read_cases target with ⟨none, none'⟩ | ⟨own, old, found, read, object, -⟩
  · rw [perform, ValueStore.perform, none, none']
    exact .none
  rcases represents.read_cases source with
    ⟨none, none'⟩ | ⟨other, value, found', read', object', holds⟩
  · rw [perform, ValueStore.perform, found, read, none, none']
    exact .none
  rw [perform, ValueStore.perform, found, read, found', read', Option.bind_some,
    Option.bind_some, Option.bind_some, Option.map_some]
  by_cases same : target = source
  · rw [if_pos same, if_pos same]
    exact .some ⟨rfl, represents⟩
  · rw [if_neg same, if_neg same]
    obtain ⟨holders', release, cleared⟩ := @Represents.clear _ _ _ target own represents
      countable object none none rfl .none
    rw [release]
    exact .some ⟨rfl, cleared.transferred same object' holds
      (List.getElem?_eq_some_iff.mp object).1⟩

/-- An invocation reaches what the value calls: the holder of a sink that shares one is alive. -/
theorem Represents.invoked (represents : Represents ⟨objects, holders⟩ store) (target : Nat)
    (argument : Unit) : Agree (perform ⟨objects, holders⟩ (.invoke target argument))
      (store.perform deliver (.invoke target argument)) := by
  rcases represents.read_cases target with ⟨none, none'⟩ | ⟨own, value, found, read, object, holds⟩
  · rw [perform, ValueStore.perform, none, none']
    exact .none
  rw [perform, ValueStore.perform, found, read, Option.bind_some, Option.bind_some]
  cases holds with
  | empty => exact .none
  | plain function ctx => exact .some ⟨rfl, represents⟩
  | shared holder =>
      obtain ⟨refcount, alive⟩ := represents.counts.found (holderOf_read object)
      have called : ResponseSink.invoke
          { fn := some .responseSinkTrampoline, ctx := some holder } holders =
            some (.callable holder) := by
        rw [ResponseSink.invoke]
        exact congrArg (Option.map _) alive
      rw [called]
      exact .some ⟨rfl, represents⟩

end Steps

/-- Every call on sinks goes as the call on their values does. -/
theorem perform_implements : Implements perform (ValueStore.perform deliver) Represents Countable
    (fun store => ∀ cell, store.sharers cell ≤ 2 ^ 32) where
  limits represents := forall_congr' fun holder => by rw [represents.sharers_eq]
  step := by
    rintro ⟨objects, holders⟩ store represents countable call
    change Agree _ _
    cases call with
    | construct => exact .some ⟨rfl, represents.added .empty rfl⟩
    | wrap bound => exact .some ⟨rfl, represents.added (.plain bound.1 bound.2) rfl⟩
    | share => exact represents.shared
    | copy source =>
        rcases represents.read_cases source with
          ⟨none, none'⟩ | ⟨other, value, found, read, object, holds⟩
        · rw [perform, ValueStore.perform, none, none']
          exact .none
        · obtain ⟨holders', acquire, after⟩ := represents.copied object holds
          rw [perform, ValueStore.perform, found, read, Option.bind_some, acquire]
          exact .some ⟨rfl, after⟩
    | move source =>
        rcases represents.read_cases source with
          ⟨none, none'⟩ | ⟨other, value, found, read, object, holds⟩
        · rw [perform, ValueStore.perform, none, none']
          exact .none
        · rw [perform, ValueStore.perform, found, read]
          exact .some ⟨rfl, represents.moved object holds⟩
    | copyAssign target source => exact represents.copyAssigned countable target source
    | moveAssign target source => exact represents.moveAssigned countable target source
    | release target =>
        rcases represents.read_cases target with
          ⟨none, none'⟩ | ⟨own, value, found, read, object, -⟩
        · rw [perform, ValueStore.perform, none, none']
          exact .none
        · obtain ⟨holders', release, after⟩ := @Represents.clear _ _ _ target own represents
            countable object (some {}) (some .empty) rfl (.some .empty)
          rw [perform, ValueStore.perform, found, read, Option.bind_some, release]
          exact .some ⟨rfl, after⟩
    | destroy target =>
        rcases represents.read_cases target with
          ⟨none, none'⟩ | ⟨own, value, found, read, object, -⟩
        · rw [perform, ValueStore.perform, none, none']
          exact .none
        · obtain ⟨holders', release, after⟩ := @Represents.clear _ _ _ target own represents
            countable object none none rfl .none
          rw [perform, ValueStore.perform, found, read, Option.bind_some, release]
          exact .some ⟨rfl, after⟩
    | invoke target argument => exact represents.invoked target argument

theorem start_represents : Represents {} {} :=
  ⟨rfl, .nil, fun _ => rfl⟩

/-- A holder is alive as long as an object shares it. -/
theorem Represents.holder_alive {sinks : Sinks} {store : ValueStore (Nat × Option Nat)}
    (represents : Represents sinks store) (holder : Nat) :
    sinks.holders[holder]?.join.isSome ↔ store.Shares holder := by
  have counted := counted_self (sinks.objects.map holderOf)
  rw [represents.counts.isSome_iff]
  constructor
  · intro positive
    obtain ⟨object, owned⟩ := counted.referenced positive
    rw [List.getElem?_map] at owned
    obtain ⟨mine, found, owns⟩ := Option.map_eq_some_iff.mp owned
    obtain ⟨own, rfl, same⟩ := Option.bind_eq_some_iff.mp owns
    rcases represents.read_cases object with ⟨none, -⟩ | ⟨own', value, -, read, found', holds⟩
    · cases none.symm.trans (Option.join_eq_some_iff.mpr found)
    · obtain rfl := Option.some.inj (Option.some.inj (found'.symm.trans found))
      cases holds with
      | empty => cases same
      | plain => cases same
      | shared =>
          obtain rfl := Option.some.inj same
          exact ⟨object, read⟩
  · intro ⟨object, shared⟩
    rcases represents.read_cases object with ⟨-, none⟩ | ⟨own, value, -, read, found, holds⟩
    · cases none.symm.trans shared
    · obtain rfl := Option.some.inj (read.symm.trans shared)
      cases holds with
      | shared => exact counted.positive (holderOf_read found)

/-- Whatever a program does with its sinks, as long as it calls only objects that exist, invokes
only sinks that are not empty and never has more than `2 ^ 32` sinks share a holder when it makes
a call: no holder is used or deleted after its deletion, every invocation calls what a program on
plain values would call, and a holder is deleted exactly when no sink shares it. -/
theorem sinks_are_values (events : List (Call × Option SinkCallee)) :
    (∀ store, (ValueStore.machine deliver).Run
        (fun source _ _ => ∀ cell, source.sharers cell ≤ 2 ^ 32) {} events store →
      ∃ sinks, machine.Run (fun source _ _ => source.Countable) {} events sinks) ∧
    ∀ sinks, machine.Run (fun source _ _ => source.Countable) {} events sinks →
      ∃ store, (ValueStore.machine deliver).Run
          (fun source _ _ => ∀ cell, source.sharers cell ≤ 2 ^ 32) {} events store ∧
        ∀ holder, sinks.holders[holder]?.join.isSome ↔ store.Shares holder := by
  constructor
  · intro store run
    obtain ⟨sinks, reached, -⟩ := perform_implements.complete start_represents run
    exact ⟨sinks, reached⟩
  · intro sinks run
    obtain ⟨store, reached, represents⟩ := perform_implements.sound start_represents run
    exact ⟨store, reached, represents.holder_alive⟩

end Sinks

end Stack

end Gsml3
