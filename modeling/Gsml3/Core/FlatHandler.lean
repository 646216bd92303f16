import Gsml3.Foundation.SharedValues

/-!
# Message handlers

A `FlatHandler` is a function and a context.  Where the function is the marker of shared
handlers, the context is a holder of its own, which co-owns a callable; copies acquire a holder
and destruction releases it.  The holders and callables ever allocated keep their addresses, so
that a use of a freed one, or of no function, has no result.
-/

namespace Gsml3

/-- A callback: the marker `sharedTrampoline` or a function of the user. -/
inductive Callback where
  | sharedTrampoline
  | user (function : Nat)
deriving DecidableEq, Repr

/-- A handler; a null pointer is `none`. -/
structure FlatHandler where
  fn : Option Callback := none
  ctx : Option Nat := none
deriving DecidableEq, Repr

namespace FlatHandler

/-- The holder of a shared handler. -/
def holder? (handler : FlatHandler) : Option Nat :=
  if handler.fn = some .sharedTrampoline then handler.ctx else none

/-- Whether the handler holds a shared callable. -/
def isShared (handler : FlatHandler) : Bool :=
  handler.holder?.isSome

end FlatHandler

/-- The callable that each holder co-owns, none after its deletion, and the owners of each
callable, which is freed when it has none. -/
structure HandlerHeap where
  holders : List (Option Nat) := []
  owners : List Nat := []
deriving DecidableEq, Repr

namespace HandlerHeap

/-- The callable of a holder, if neither is freed. -/
def callable (heap : HandlerHeap) (holder : Nat) : Option Nat :=
  heap.holders[holder]?.join.filter fun callable => 0 < heap.owners.getD callable 0

/-- Copy the shared pointer into a fresh holder. -/
def acquireSharedHandler (heap : HandlerHeap) (holder : Nat) : Option (HandlerHeap × Nat) :=
  (heap.callable holder).map fun callable =>
    ({ holders := heap.holders ++ [some callable], owners := heap.owners.modify callable (· + 1) },
      heap.holders.length)

/-- Delete the holder. -/
def releaseSharedHandler (heap : HandlerHeap) (holder : Nat) : Option HandlerHeap :=
  (heap.callable holder).map fun callable =>
    { holders := heap.holders.set holder none, owners := heap.owners.modify callable (· - 1) }

/-- A handler that owns a new callable. -/
def makeSharedHandler (heap : HandlerHeap) : HandlerHeap × FlatHandler :=
  ({ holders := heap.holders ++ [some heap.owners.length], owners := heap.owners ++ [1] },
    { fn := some .sharedTrampoline, ctx := some heap.holders.length })

end HandlerHeap

/-- What a handler calls. -/
inductive Callee where
  | callable (callable : Nat)
  | user (function : Nat)
deriving DecidableEq, Repr

namespace FlatHandler

/-- The copy of a handler, as construction and assignment make it. -/
def copied (other : FlatHandler) (heap : HandlerHeap) : Option (HandlerHeap × FlatHandler) :=
  match other.holder? with
  | some holder =>
      (heap.acquireSharedHandler holder).map fun acquired =>
        (acquired.1, { other with ctx := some acquired.2 })
  | none => some (heap, other)

/-- Gives the shared callable up, if there is one. -/
def releaseShared (handler : FlatHandler) (heap : HandlerHeap) : Option HandlerHeap :=
  match handler.holder? with
  | some holder => heap.releaseSharedHandler holder
  | none => some heap

/-- `operator()`: what is called, and the context passed to it. -/
def invoke (handler : FlatHandler) (heap : HandlerHeap) (userCtx : Option Nat) :
    Option (Callee × Option Nat) :=
  match handler.holder? with
  | some holder => (heap.callable holder).map fun callable => (.callable callable, userCtx)
  | none =>
      match handler.fn with
      | some (.user function) => some (.user function, userCtx.or handler.ctx)
      | _ => none

end FlatHandler

/-! ## Objects -/

/-- The handlers of a program, of which those destroyed are `none`. -/
structure Handlers where
  objects : List (Option FlatHandler) := []
  heap : HandlerHeap := {}
deriving DecidableEq, Repr

namespace Handlers

open Foundation

/-- The handler of an object that is alive. -/
def read (handlers : Handlers) (object : Nat) : Option FlatHandler :=
  handlers.objects[object]?.join

/-- The calls on handlers; a function of the user is bound to a context of its own. -/
abbrev Call := ValueCall (Nat × Option Nat) (Option Nat)

/-- One operation of a program with handlers. -/
def perform (handlers : Handlers) : Call → Option (Handlers × Option (Callee × Option Nat))
  | .construct => some ({ handlers with objects := handlers.objects ++ [some {}] }, none)
  | .wrap (function, ctx) =>
      some ({ handlers with
        objects := handlers.objects ++ [some { fn := some (.user function), ctx := ctx }] }, none)
  | .share =>
      let (heap, handler) := handlers.heap.makeSharedHandler
      some ({ objects := handlers.objects ++ [some handler], heap := heap }, none)
  | .copy source =>
      (handlers.read source).bind fun other =>
        (other.copied handlers.heap).map fun (heap, handler) =>
          ({ objects := handlers.objects ++ [some handler], heap := heap }, none)
  | .move source =>
      (handlers.read source).map fun other =>
        ({ handlers with objects := handlers.objects.set source (some {}) ++ [some other] }, none)
  | .copyAssign target source =>
      (handlers.read target).bind fun own =>
        (handlers.read source).bind fun other =>
          if target = source then some (handlers, none)
          else
            (other.copied handlers.heap).bind fun (heap, handler) =>
              (own.releaseShared heap).map fun heap =>
                ({ objects := handlers.objects.set target (some handler), heap := heap }, none)
  | .moveAssign target source =>
      (handlers.read target).bind fun own =>
        (handlers.read source).bind fun other =>
          if target = source then some (handlers, none)
          else
            (own.releaseShared handlers.heap).map fun heap =>
              ({ objects := (handlers.objects.set target (some other)).set source (some {})
                 heap := heap }, none)
  | .release target =>
      (handlers.read target).bind fun own =>
        (own.releaseShared handlers.heap).map fun heap =>
          ({ objects := handlers.objects.set target (some {}), heap := heap }, none)
  | .destroy target =>
      (handlers.read target).bind fun own =>
        (own.releaseShared handlers.heap).map fun heap =>
          ({ objects := handlers.objects.set target none, heap := heap }, none)
  | .invoke target userCtx =>
      (handlers.read target).bind fun own =>
        (own.invoke handlers.heap userCtx).map fun called => (handlers, some called)

/-- The programs with handlers as a machine. -/
def machine : Machine Handlers (Call × Option (Callee × Option Nat)) :=
  .ofCalls perform

/-- How a value is used: a callable gets the context of the call, a function its own where the
call has none. -/
def deliver : SharedValue (Nat × Option Nat) → Option Nat → Option (Callee × Option Nat)
  | .empty, _ => none
  | .plain (function, ctx), userCtx => some (.user function, userCtx.or ctx)
  | .shared cell, userCtx => some (.callable cell, userCtx)

/-! ## Handlers are values -/

/-- The holder that an object owns. -/
def holderOf (object : Option FlatHandler) : Option Nat :=
  object.bind FlatHandler.holder?

/-- The value of a handler. -/
inductive Holds (heap : HandlerHeap) : FlatHandler → SharedValue (Nat × Option Nat) → Prop where
  | empty : Holds heap {} .empty
  | plain (function : Nat) (ctx : Option Nat) :
      Holds heap { fn := some (.user function), ctx := ctx } (.plain (function, ctx))
  | shared {holder callable : Nat} : heap.holders[holder]? = some (some callable) →
      Holds heap { fn := some .sharedTrampoline, ctx := some holder } (.shared callable)

/-- Each holder alive is owned by a single object, and each callable has as many owners as
holders. -/
structure Represents (handlers : Handlers) (store : ValueStore (Nat × Option Nat)) : Prop where
  cells : handlers.heap.owners.length = store.cells
  values : List.Forall₂ (Option.Rel (Holds handlers.heap)) handlers.objects store.objects
  owners : Counted (handlers.heap.owners.getD · 0) handlers.heap.holders
  holders : Counted (fun holder => if handlers.heap.holders[holder]?.join.isSome then 1 else 0)
    (handlers.objects.map holderOf)

section Heap

variable {heap heap' : HandlerHeap} {holder callable : Nat}

/-- A holder alive has a callable alive. -/
theorem callable_eq (owners : Counted (heap.owners.getD · 0) heap.holders)
    (alive : heap.holders[holder]? = some (some callable)) :
    heap.callable holder = some callable := by
  rw [HandlerHeap.callable, alive]
  exact Option.filter_some_pos (decide_eq_true (owners.positive alive))

theorem acquired (owners : Counted (heap.owners.getD · 0) heap.holders)
    (alive : heap.holders[holder]? = some (some callable)) :
    ∃ heap', heap.acquireSharedHandler holder = some (heap', heap.holders.length) ∧
      heap'.holders = heap.holders ++ [some callable] ∧
      heap'.owners.length = heap.owners.length ∧
      Counted (heap'.owners.getD · 0) heap'.holders := by
  refine ⟨_, by rw [HandlerHeap.acquireSharedHandler, callable_eq owners alive]; rfl, rfl,
    List.length_modify .., ?_⟩
  apply owners.push
  intro cell
  rw [getD_modify _ _ (lt_of_getD_pos (owners.positive alive))]
  simp only [Option.some.injEq]
  split <;> rfl

theorem released (owners : Counted (heap.owners.getD · 0) heap.holders)
    (alive : heap.holders[holder]? = some (some callable)) :
    ∃ heap', heap.releaseSharedHandler holder = some heap' ∧
      heap'.holders = heap.holders.set holder none ∧
      heap'.owners.length = heap.owners.length ∧
      Counted (heap'.owners.getD · 0) heap'.holders := by
  refine ⟨_, by rw [HandlerHeap.releaseSharedHandler, callable_eq owners alive]; rfl, rfl,
    List.length_modify .., ?_⟩
  apply owners.set alive
  intro cell
  rw [getD_modify _ _ (lt_of_getD_pos (owners.positive alive)),
    if_neg (Option.some_ne_none cell).symm, Nat.add_zero]
  simp only [Option.some.injEq]
  split <;> rfl

end Heap

/-! ### Values under changes of the heap -/

section Values

variable {heap heap' : HandlerHeap} {handler : FlatHandler}
  {value : SharedValue (Nat × Option Nat)}

theorem Holds.grown (holds : Holds heap handler value) {callable : Option Nat}
    (holders : heap'.holders = heap.holders ++ [callable]) : Holds heap' handler value := by
  cases holds with
  | empty => exact .empty
  | plain function ctx => exact .plain function ctx
  | shared alive =>
      apply Holds.shared
      obtain ⟨inside, -⟩ := List.getElem?_eq_some_iff.mp alive
      rw [holders, List.getElem?_append_left inside, alive]

theorem Holds.kept (holds : Holds heap handler value) {holder : Nat}
    (holders : heap'.holders = heap.holders.set holder none)
    (other : handler.holder? ≠ some holder) : Holds heap' handler value := by
  cases holds with
  | empty => exact .empty
  | plain function ctx => exact .plain function ctx
  | shared alive =>
      apply Holds.shared
      rw [holders, List.getElem?_set_ne fun same => other (congrArg some same.symm), alive]

/-- The holder of a handler is alive. -/
theorem Holds.alive (holds : Holds heap handler value) {holder : Nat}
    (owned : handler.holder? = some holder) :
    ∃ callable, heap.holders[holder]? = some (some callable) ∧ value = .shared callable := by
  cases holds with
  | empty => cases owned
  | plain function ctx => cases owned
  | shared alive =>
      obtain rfl := Option.some.inj owned
      exact ⟨_, alive, rfl⟩

theorem Holds.invoke (holds : Holds heap handler value)
    (owners : Counted (heap.owners.getD · 0) heap.holders) (userCtx : Option Nat) :
    handler.invoke heap userCtx = deliver value userCtx := by
  cases holds with
  | empty => rfl
  | plain function ctx => rfl
  | shared alive =>
      change (heap.callable _).map _ = _
      rw [callable_eq owners alive]
      rfl

end Values

/-! ### Calls -/

section Calls

variable {objects : List (Option FlatHandler)} {heap heap' : HandlerHeap}
  {store : ValueStore (Nat × Option Nat)} {object : Nat} {handler own other : FlatHandler}
  {value : SharedValue (Nat × Option Nat)}

theorem Represents.read (represents : Represents ⟨objects, heap⟩ store) (object : Nat) :
    Option.Rel (Holds heap) (Handlers.read ⟨objects, heap⟩ object) (store.read object) := by
  have related := forall₂_read represents.values object
  change Option.Rel _ objects[object]? _ at related
  change Option.Rel _ objects[object]?.join _
  rw [ValueStore.read]
  generalize objects[object]? = mine, store.objects[object]? = theirs at related ⊢
  cases related with
  | none => exact .none
  | some same => exact same

theorem read_object (found : Handlers.read ⟨objects, heap⟩ object = some handler) :
    objects[object]? = some (some handler) :=
  Option.join_eq_some_iff.mp found

theorem holderOf_read (found : objects[object]? = some (some handler)) :
    (objects.map holderOf)[object]? = some handler.holder? := by
  rw [List.getElem?_map, found]
  rfl

/-- A new object without a holder. -/
theorem Represents.add (represents : Represents ⟨objects, heap⟩ store)
    (holds : Holds heap handler value) (unshared : handler.holder? = none) :
    Represents ⟨objects ++ [some handler], heap⟩ (store.add value) where
  cells := represents.cells
  values := List.rel_append represents.values (.cons (.some holds) .nil)
  owners := represents.owners
  holders := by
    rw [List.map_append]
    apply represents.holders.push
    intro cell
    rw [if_neg (show holderOf (some handler) ≠ some cell by
      change handler.holder? ≠ some cell
      rw [unshared]
      exact (Option.some_ne_none cell).symm), Nat.add_zero]

/-- The holders alive after a new one. -/
theorem alive_grown (holders : List (Option Nat)) (callable cell : Nat) :
    (if (holders ++ [some callable])[cell]?.join.isSome then 1 else 0) =
      (if holders[cell]?.join.isSome then 1 else 0) +
        if some holders.length = some cell then 1 else 0 := by
  rcases lt_trichotomy cell holders.length with inside | rfl | outside
  · rw [List.getElem?_append_left inside,
      if_neg (fun same => absurd (Option.some.inj same) (Nat.ne_of_gt inside)), Nat.add_zero]
  · rw [List.getElem?_concat_length, List.getElem?_eq_none le_rfl, if_pos rfl]
    rfl
  · rw [List.getElem?_eq_none (by rw [List.length_append]; exact outside),
      List.getElem?_eq_none outside.le,
      if_neg (fun same => absurd (Option.some.inj same) (Nat.ne_of_lt outside)), Nat.add_zero]

/-- A new object with a new holder. -/
theorem Represents.addShared (represents : Represents ⟨objects, heap⟩ store) {callable : Nat}
    (holders : heap'.holders = heap.holders ++ [some callable])
    (owners : Counted (heap'.owners.getD · 0) heap'.holders) {cells : Nat}
    (cells_eq : heap'.owners.length = cells) :
    Represents
      ⟨objects ++ [some { fn := some .sharedTrampoline, ctx := some heap.holders.length }], heap'⟩
      { store.add (.shared callable) with cells := cells } where
  cells := cells_eq
  values := by
    apply List.rel_append
    · exact represents.values.imp fun _ _ same => by
        cases same with
        | none => exact .none
        | some holds => exact .some (holds.grown holders)
    · refine .cons (.some (.shared ?_)) .nil
      rw [holders, List.getElem?_concat_length]
  owners := owners
  holders := by
    rw [List.map_append]
    apply represents.holders.push
    intro cell
    rw [holders]
    exact alive_grown heap.holders callable cell

/-- What releases the holder of an object and leaves the object without one. -/
theorem Represents.clear (represents : Represents ⟨objects, heap⟩ store)
    (found : objects[object]? = some (some own)) {new : Option FlatHandler}
    {changed : Option (SharedValue (Nat × Option Nat))} (unshared : holderOf new = none)
    (holds : ∀ any, Option.Rel (Holds any) new changed) :
    ∃ heap', own.releaseShared heap = some heap' ∧
      Represents ⟨objects.set object new, heap'⟩ (store.put object changed) := by
  have owned := holderOf_read found
  cases owns : own.holder? with
  | none =>
      refine ⟨heap, by rw [FlatHandler.releaseShared, owns], represents.cells, ?_,
        represents.owners, ?_⟩
      · exact forall₂_set represents.values (holds heap) fun _ _ _ _ _ _ same => same
      · rw [List.map_set]
        apply represents.holders.set owned
        intro cell
        rw [owns, unshared, if_neg (Option.some_ne_none cell).symm]
        rfl
  | some holder =>
      obtain ⟨stored, related⟩ : ∃ stored, Holds heap own stored := by
        have read := represents.read object
        rw [Handlers.read, found] at read
        generalize store.read object = theirs at read
        cases read with
        | some holds => exact ⟨_, holds⟩
      obtain ⟨callable, alive, -⟩ := related.alive owns
      obtain ⟨heap', release, holders, length, owners⟩ := released represents.owners alive
      rw [owns] at owned
      -- no other object owns the holder
      have others : ∀ (j : Nat) (h : FlatHandler), j ≠ object → objects[j]? = some (some h) →
          h.holder? ≠ some holder := by
        intro j h other read same
        have shared := holderOf_read read
        rw [same] at shared
        apply other
        exact represents.holders.single (by split <;> omega) shared owned
      refine ⟨heap', by rw [FlatHandler.releaseShared, owns]; exact release,
        length.trans represents.cells, ?_, owners, ?_⟩
      · apply forall₂_set represents.values (holds heap')
        intro j h v other read _ same
        cases same with
        | none => exact .none
        | some kept => exact .some (kept.kept holders (others j _ other read))
      · rw [List.map_set]
        apply represents.holders.set owned
        intro cell
        rw [unshared, holders, if_neg (Option.some_ne_none cell).symm, Nat.add_zero]
        by_cases same : holder = cell
        · obtain rfl := same
          rw [if_pos rfl, alive, List.getElem?_set_self (List.getElem?_eq_some_iff.mp alive).1]
          rfl
        · rw [List.getElem?_set_ne same, if_neg fun equal => same (Option.some.inj equal)]
          rfl

/-- Reading an object agrees with reading its value. -/
theorem Represents.read_cases (represents : Represents ⟨objects, heap⟩ store) (object : Nat) :
    Handlers.read ⟨objects, heap⟩ object = none ∧ store.read object = none ∨
      ∃ own value, Handlers.read ⟨objects, heap⟩ object = some own ∧
        store.read object = some value ∧ objects[object]? = some (some own) ∧
        Holds heap own value := by
  have related := represents.read object
  cases found : Handlers.read ⟨objects, heap⟩ object with
  | none =>
      rw [found] at related
      generalize store.read object = theirs at related
      cases related with
      | none => exact .inl ⟨rfl, rfl⟩
  | some own =>
      rw [found] at related
      generalize store.read object = theirs at related
      cases related with
      | some holds => exact .inr ⟨own, _, rfl, rfl, read_object found, holds⟩

/-- The agreement of a call on both levels. -/
abbrev Agree {Reply : Type} : Option (Handlers × Reply) →
    Option (ValueStore (Nat × Option Nat) × Reply) → Prop :=
  Option.Rel fun result expected => result.2 = expected.2 ∧ Represents result.1 expected.1

/-- A copy is a new object with the value. -/
theorem Represents.copied (represents : Represents ⟨objects, heap⟩ store)
    (holds : Holds heap other value) :
    ∃ heap' handler, other.copied heap = some (heap', handler) ∧
      Represents ⟨objects ++ [some handler], heap'⟩ (store.add value) := by
  cases owns : other.holder? with
  | none =>
      refine ⟨heap, other, by rw [FlatHandler.copied, owns], ?_⟩
      exact represents.add holds owns
  | some holder =>
      obtain ⟨callable, alive, rfl⟩ := holds.alive owns
      obtain ⟨heap', acquire, holders, length, owners⟩ := acquired represents.owners alive
      have marker : other.fn = some .sharedTrampoline := by
        cases holds with
        | shared => rfl
      refine ⟨heap', { other with ctx := some heap.holders.length }, ?_, ?_⟩
      · rw [FlatHandler.copied, owns]
        exact congrArg (Option.map _) acquire
      · rw [marker]
        exact represents.addShared holders owners (length.trans represents.cells)

/-- Move construction takes the holder over. -/
theorem Represents.moved (represents : Represents ⟨objects, heap⟩ store)
    (found : objects[object]? = some (some other)) (holds : Holds heap other value) :
    Represents ⟨objects.set object (some {}) ++ [some other], heap⟩
      ((store.put object (some .empty)).add value) where
  cells := represents.cells
  values := by
    apply List.rel_append
    · exact forall₂_set represents.values (.some .empty) fun _ _ _ _ _ _ same => same
    · exact .cons (.some holds) .nil
  owners := represents.owners
  holders := by
    rw [List.map_append, List.map_set]
    exact represents.holders.move (holderOf_read found)

/-- The temporary at the end becomes the object. -/
theorem Represents.settled {last : FlatHandler}
    (represents : Represents ⟨objects.set object none ++ [some last], heap⟩
      ((store.put object none).add value)) (sizes : objects.length = store.objects.length)
    (inside : object < objects.length) :
    Represents ⟨objects.set object (some last), heap⟩ (store.put object (some value)) where
  cells := represents.cells
  values := by
    have values := represents.values
    have read := forall₂_read values objects.length
    rw [← List.length_set, List.getElem?_concat_length] at read
    have front : List.Forall₂ (Option.Rel (Holds heap)) (objects.set object none)
        (store.objects.set object none) := by
      have taken := List.forall₂_take objects.length values
      rwa [List.take_left' (List.length_set ..), ValueStore.add, ValueStore.put,
        List.take_left' (by rw [List.length_set, sizes])] at taken
    have last_read : (store.put object none).add value |>.objects[
        (objects.set object (none : Option FlatHandler)).length]? = some (some value) := by
      rw [List.length_set, sizes, ← @List.length_set _ store.objects object none]
      exact List.getElem?_concat_length
    rw [last_read] at read
    cases read with
    | some same =>
        have set := @forall₂_set _ _ _ _ _ _ front object _ _ same fun _ _ _ _ _ _ kept => kept
        rwa [List.set_set, List.set_set] at set
  owners := represents.owners
  holders := by
    have holders := represents.holders
    rw [List.map_append, List.map_set] at holders
    have settled := @Counted.settle _ _ object _ holders (List.getElem?_set_self (by
      rw [List.length_map]
      exact inside))
    rw [List.set_set] at settled
    rw [List.map_set]
    exact settled

/-- Move assignment takes the holder over, and leaves the source empty. -/
theorem Represents.transferred {target source : Nat} {stored : SharedValue (Nat × Option Nat)}
    (represents : Represents ⟨objects.set target none, heap⟩ (store.put target none))
    (different : target ≠ source) (found : objects[source]? = some (some other))
    (read : store.read source = some stored) (inside : target < objects.length) :
    Represents ⟨(objects.set target (some other)).set source (some {}), heap⟩
      ((store.put target (some stored)).put source (some .empty)) where
  cells := represents.cells
  values := by
    have same : Option.Rel (Holds heap) (some other) (some stored) := by
      have related := represents.read source
      rw [Handlers.read, ValueStore.read, ValueStore.put, List.getElem?_set_ne different,
        List.getElem?_set_ne different, found] at related
      rw [← read]
      exact related
    have taken := @forall₂_set _ _ _ _ _ _ represents.values target _ _ same
      fun _ _ _ _ _ _ kept => kept
    have emptied := @forall₂_set _ _ _ (Option.Rel (Holds heap)) _ _ taken source (some {})
      (some .empty) (.some .empty) fun _ _ _ _ _ _ kept => kept
    simp only [ValueStore.put, List.set_set] at emptied ⊢
    exact emptied
  owners := represents.owners
  holders := by
    have holders := represents.holders
    rw [List.map_set] at holders
    have owned : ((objects.map holderOf).set target (holderOf none))[source]? =
        some other.holder? := by
      rw [List.getElem?_set_ne different]
      exact holderOf_read found
    have free : ((objects.map holderOf).set target (holderOf none))[target]? = some none :=
      List.getElem?_set_self (by rwa [List.length_map])
    have moved := holders.transfer different owned free
    rw [List.set_set] at moved
    rw [List.map_set, List.map_set]
    exact moved

end Calls

/-- Every call on handlers goes as the call on their values does. -/
theorem perform_implements : Implements perform (ValueStore.perform deliver) Represents
    (fun _ => True) (fun _ => True) where
  limits _ := Iff.rfl
  step := by
    rintro ⟨objects, heap⟩ store represents - call
    change Agree _ _
    cases call with
    | construct => exact .some ⟨rfl, represents.add .empty rfl⟩
    | wrap bound => exact .some ⟨rfl, represents.add (.plain bound.1 bound.2) rfl⟩
    | share =>
        refine .some ⟨rfl, ?_⟩
        rw [← represents.cells]
        apply represents.addShared rfl
        · apply represents.owners.push
          intro cell
          change (heap.owners ++ [1]).getD cell 0 = _
          rw [getD_push]
          simp only [Option.some.injEq]
        · exact List.length_append
    | copy source =>
        rcases represents.read_cases source with
          ⟨none, none'⟩ | ⟨other, value, found, read, -, holds⟩
        · rw [perform, ValueStore.perform, none, none']
          exact .none
        · obtain ⟨heap', handler, copied, after⟩ := represents.copied holds
          rw [perform, ValueStore.perform, found, read, Option.bind_some, copied]
          exact .some ⟨rfl, after⟩
    | move source =>
        rcases represents.read_cases source with
          ⟨none, none'⟩ | ⟨other, value, found, read, object, holds⟩
        · rw [perform, ValueStore.perform, none, none']
          exact .none
        · rw [perform, ValueStore.perform, found, read]
          exact .some ⟨rfl, represents.moved object holds⟩
    | copyAssign target source =>
        rcases represents.read_cases target with ⟨none, none'⟩ | ⟨own, old, found, read, object, -⟩
        · rw [perform, ValueStore.perform, none, none']
          exact .none
        · rcases represents.read_cases source with
            ⟨none, none'⟩ | ⟨other, value, found', read', object', holds⟩
          · rw [perform, ValueStore.perform, found, read, none, none']
            exact .none
          · rw [perform, ValueStore.perform, found, read, found', read', Option.bind_some,
              Option.bind_some, Option.bind_some]
            by_cases same : target = source
            · rw [if_pos same]
              refine .some ⟨rfl, ?_⟩
              change Represents _ (store.put target (some value))
              rwa [same, ValueStore.put_self read']
            · rw [if_neg same]
              have inside := (List.getElem?_eq_some_iff.mp object).1
              have sizes := represents.values.length_eq
              obtain ⟨heap', handler, copied, with_copy⟩ := represents.copied holds
              obtain ⟨heap'', release, cleared⟩ := @Represents.clear _ _ _ target own with_copy
                (by rwa [List.getElem?_append_left inside]) none none rfl fun _ => .none
              rw [List.set_append_left _ _ inside, ValueStore.put, ValueStore.add,
                List.set_append_left _ _ (sizes ▸ inside)] at cleared
              rw [copied, Option.bind_some]
              change Agree ((own.releaseShared heap').map _) _
              rw [release]
              exact .some ⟨rfl, Represents.settled cleared sizes inside⟩
    | moveAssign target source =>
        rcases represents.read_cases target with ⟨none, none'⟩ | ⟨own, old, found, read, object, -⟩
        · rw [perform, ValueStore.perform, none, none']
          exact .none
        · rcases represents.read_cases source with
            ⟨none, none'⟩ | ⟨other, value, found', read', object', holds⟩
          · rw [perform, ValueStore.perform, found, read, none, none']
            exact .none
          · rw [perform, ValueStore.perform, found, read, found', read', Option.bind_some,
              Option.bind_some, Option.bind_some, Option.map_some]
            by_cases same : target = source
            · rw [if_pos same, if_pos same]
              exact .some ⟨rfl, represents⟩
            · rw [if_neg same, if_neg same]
              obtain ⟨heap', release, cleared⟩ := @Represents.clear _ _ _ target own represents
                object none none rfl fun _ => .none
              rw [release]
              exact .some ⟨rfl, cleared.transferred same object' read'
                (List.getElem?_eq_some_iff.mp object).1⟩
    | release target =>
        rcases represents.read_cases target with
          ⟨none, none'⟩ | ⟨own, value, found, read, object, -⟩
        · rw [perform, ValueStore.perform, none, none']
          exact .none
        · obtain ⟨heap', release, after⟩ := represents.clear object rfl fun _ => .some .empty
          rw [perform, ValueStore.perform, found, read, Option.bind_some, release]
          exact .some ⟨rfl, after⟩
    | destroy target =>
        rcases represents.read_cases target with
          ⟨none, none'⟩ | ⟨own, value, found, read, object, -⟩
        · rw [perform, ValueStore.perform, none, none']
          exact .none
        · obtain ⟨heap', release, after⟩ := represents.clear object rfl fun _ => .none
          rw [perform, ValueStore.perform, found, read, Option.bind_some, release]
          exact .some ⟨rfl, after⟩
    | invoke target userCtx =>
        rcases represents.read_cases target with ⟨none, none'⟩ | ⟨own, value, found, read, -, holds⟩
        · rw [perform, ValueStore.perform, none, none']
          exact .none
        · rw [perform, ValueStore.perform, found, read, Option.bind_some, Option.bind_some,
            holds.invoke represents.owners]
          cases deliver value userCtx with
          | none => exact .none
          | some called => exact .some ⟨rfl, represents⟩

theorem start_represents : Represents {} {} where
  cells := rfl
  values := .nil
  owners _ := rfl
  holders _ := rfl

section Freed

variable {handlers : Handlers} {store : ValueStore (Nat × Option Nat)}

/-- The holders alive are those of the objects. -/
theorem Represents.holder_alive (represents : Represents handlers store) (holder : Nat) :
    handlers.heap.holders[holder]?.join.isSome ↔
      ∃ object own, handlers.read object = some own ∧ own.holder? = some holder := by
  have counted := represents.holders
  constructor
  · intro alive
    obtain ⟨object, owned⟩ := @Counted.referenced _ _ holder counted (by rw [if_pos alive]; simp)
    rw [List.getElem?_map] at owned
    obtain ⟨mine, found, owns⟩ := Option.map_eq_some_iff.mp owned
    obtain ⟨own, rfl, same⟩ := Option.bind_eq_some_iff.mp owns
    exact ⟨object, own, Option.join_eq_some_iff.mpr found, same⟩
  · intro ⟨object, own, found, owns⟩
    have owned := holderOf_read (read_object found)
    rw [owns] at owned
    by_contra dead
    have positive := counted.positive owned
    rw [if_neg dead] at positive
    exact lt_irrefl 0 positive

/-- A callable is alive as long as an object shares it. -/
theorem Represents.callable_alive (represents : Represents handlers store) (callable : Nat) :
    0 < handlers.heap.owners.getD callable 0 ↔ store.Shares callable := by
  constructor
  · intro positive
    obtain ⟨holder, alive⟩ := represents.owners.referenced positive
    obtain ⟨object, own, found, owns⟩ := (represents.holder_alive holder).mp (by rw [alive]; rfl)
    rcases represents.read_cases object with ⟨none, -⟩ | ⟨own', value, found', read, -, holds⟩
    · cases none.symm.trans found
    · obtain rfl := Option.some.inj (found'.symm.trans found)
      obtain ⟨shared, alive', rfl⟩ := holds.alive owns
      rw [alive] at alive'
      obtain rfl := Option.some.inj (Option.some.inj alive')
      exact ⟨object, read⟩
  · intro ⟨object, shared⟩
    rcases represents.read_cases object with ⟨-, none⟩ | ⟨own, value, -, read, -, holds⟩
    · cases none.symm.trans shared
    · obtain rfl := Option.some.inj (read.symm.trans shared)
      cases holds with
      | shared alive => exact represents.owners.positive alive

end Freed

/-- Whatever a program does with its handlers, as long as it calls only objects that exist and
invokes only handlers that are not empty: no callable or holder is used or freed after it was
freed, every invocation calls what a program on plain values would call, a callable is freed
exactly when no handler shares it, and every holder left is that of a handler. -/
theorem handlers_are_values (events : List (Call × Option (Callee × Option Nat))) :
    (∀ store, (ValueStore.machine deliver).Run (fun _ _ _ => True) {} events store →
      ∃ handlers, machine.Run (fun _ _ _ => True) {} events handlers) ∧
    ∀ handlers, machine.Run (fun _ _ _ => True) {} events handlers →
      ∃ store, (ValueStore.machine deliver).Run (fun _ _ _ => True) {} events store ∧
        (∀ callable, 0 < handlers.heap.owners.getD callable 0 ↔ store.Shares callable) ∧
        ∀ holder, handlers.heap.holders[holder]?.join.isSome ↔
          ∃ object own, handlers.read object = some own ∧ own.holder? = some holder := by
  constructor
  · intro store run
    obtain ⟨handlers, reached, -⟩ := perform_implements.complete start_represents run
    exact ⟨handlers, reached⟩
  · intro handlers run
    obtain ⟨store, reached, represents⟩ := perform_implements.sound start_represents run
    exact ⟨store, reached, represents.callable_alive, represents.holder_alive⟩

end Handlers

end Gsml3
