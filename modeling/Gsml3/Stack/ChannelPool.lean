import Gsml3.Stack.Message

/-!
# Channel pool

The logical channels of a base station by type: a list of free descriptors, taken and
returned at its end, and the set of allocated descriptors.
-/

namespace Gsml3

namespace Stack

instance : Fintype ChannelType where
  elems :=
    {.schType, .fcchType, .bcchType, .ccchType, .rachType, .sacchType, .cbchType, .sdcchType,
      .facchType, .tchfType, .tchhType, .anyTCHType, .pdtchCS1Type, .pdtchCS2Type, .pdtchCS3Type,
      .pdtchCS4Type, .loopbackFullType, .loopbackHalfType, .anyDCCHType, .undefinedCHType}
  complete type := by cases type <;> decide

/-- The free channels of each type in order, and the allocated ones. -/
structure ChannelPool where
  freeByType : ChannelType → List ChannelDescriptor := fun _ => []
  allocatedByType : ChannelType → Finset ChannelDescriptor := fun _ => ∅

namespace ChannelPool

/-- Replace the free list of a type. -/
def setFree (pool : ChannelPool) (type : ChannelType) (free : List ChannelDescriptor) :
    ChannelPool :=
  { pool with freeByType := Function.update pool.freeByType type free }

/-- Replace the allocated set of a type. -/
def setAllocated (pool : ChannelPool) (type : ChannelType)
    (allocated : Finset ChannelDescriptor) : ChannelPool :=
  { pool with allocatedByType := Function.update pool.allocatedByType type allocated }

/-- A new channel is the last to be allocated. -/
def addChannel (pool : ChannelPool) (desc : ChannelDescriptor) : ChannelPool :=
  pool.setFree desc.type (pool.freeByType desc.type ++ [desc])

/-- The channel is free or allocated. -/
def knowsChannel (pool : ChannelPool) (desc : ChannelDescriptor) : Bool :=
  desc ∈ pool.freeByType desc.type ∨ desc ∈ pool.allocatedByType desc.type

/-- Erase the first equal descriptor from a free list. -/
def removeFromFreeList (pool : ChannelPool) (type : ChannelType) (desc : ChannelDescriptor) :
    Option ChannelPool :=
  if desc ∈ pool.freeByType type then
    some (pool.setFree type ((pool.freeByType type).erase desc))
  else none

/-- Removes a channel that the pool knows, free or allocated. -/
def removeChannel (pool : ChannelPool) (desc : ChannelDescriptor) : ChannelPool × Bool :=
  if pool.knowsChannel desc then
    match pool.removeFromFreeList desc.type desc with
    | some removed => (removed, true)
    | none =>
        if desc ∈ pool.allocatedByType desc.type then
          (pool.setAllocated desc.type ((pool.allocatedByType desc.type).erase desc), true)
        else (pool, false)
  else (pool, false)

/-- The last free descriptor of the type is handed out. -/
def allocate (pool : ChannelPool) (type : ChannelType) : ChannelPool × Option ChannelDescriptor :=
  match (pool.freeByType type).getLast? with
  | none => (pool, none)
  | some ch =>
      let pool := pool.setFree type (pool.freeByType type).dropLast
      (pool.setAllocated ch.type (insert ch (pool.allocatedByType ch.type)), some ch)

/-- An allocated channel becomes free again; another one is not taken. -/
def release (pool : ChannelPool) (desc : ChannelDescriptor) : ChannelPool × Bool :=
  if desc ∈ pool.allocatedByType desc.type then
    let pool := pool.setAllocated desc.type ((pool.allocatedByType desc.type).erase desc)
    (pool.setFree desc.type (pool.freeByType desc.type ++ [desc]), true)
  else (pool, false)

/-- Whether a channel can be allocated. -/
def isFree (pool : ChannelPool) (desc : ChannelDescriptor) : Bool :=
  desc ∈ pool.freeByType desc.type

/-- The number of free channels of a type. -/
def freeCount (pool : ChannelPool) (type : ChannelType) : Nat :=
  (pool.freeByType type).length

/-- The number of allocated channels of a type. -/
def allocatedCount (pool : ChannelPool) (type : ChannelType) : Nat :=
  (pool.allocatedByType type).card

/-- The number of channels of all types. -/
def totalCount (pool : ChannelPool) : Nat :=
  ∑ type, (pool.freeByType type).length + ∑ type, (pool.allocatedByType type).card

end ChannelPool

end Stack

end Gsml3
