import Gsml3.Stack.ChannelConservation
import Gsml3.Stack.ShardedRegistry

/-!
# Sharded channel pool

Channels in `n` pools, the shards, each under its own lock.  A channel is kept in the shard
that a hash of its descriptor selects; `allocate` locks the shards one after the other, from
a round-robin start, until one hands out a channel.  A step of the system is what one caller
does under one lock.
-/

namespace Gsml3

namespace Stack

/-- The template's assertions on its number of shards, an `int`. -/
structure ShardCount (n : Nat) : Prop where
  power : n &&& (n - 1) = 0
  least : 2 ≤ n
  range : n < 2 ^ 31

/-- Hash of the packed fields of a descriptor. -/
def hashDescriptor (d : ChannelDescriptor) : UInt32 :=
  let type := UInt32.ofNat d.type.ctorIdx &&& 0x1F
  let timeslot := d.timeslot.toUInt32 &&& 0xF
  let arfcn := d.arfcn.toUInt32 &&& 0xFFF
  let h := type ||| d.trxNumber.toUInt32 <<< 5 ||| timeslot <<< 13 ||| arfcn <<< 17
  let h := h ^^^ h >>> 16
  let h := h * 0x7feb352d
  let h := h ^^^ h >>> 15
  let h := h * 0x846ca68b
  h ^^^ h >>> 16

/-- The shard a channel is kept in. -/
def shardOf (n : Nat) [NeZero n] (desc : ChannelDescriptor) : Fin n :=
  shardIndex n (hashDescriptor desc)

/-- The place of an `allocate` call in its loop over the shards. -/
structure Probe where
  type : ChannelType
  start : UInt32
  offset : UInt32 := 0
deriving DecidableEq

/-- The shard that an `allocate` call locks next. -/
def Probe.shard (n : Nat) [NeZero n] (probe : Probe) : Fin n :=
  shardIndex n (probe.start + probe.offset)

/-- A pool for each shard, and the counter that spreads the allocations. -/
structure ShardedChannelPool (n : Nat) where
  shards : Fin n → ChannelPool := fun _ => {}
  rrCounter : UInt32 := 0

namespace ShardedChannelPool

variable {n : Nat}

/-- Replaces the pool of one shard. -/
def setShard (pool : ShardedChannelPool n) (i : Fin n) (shard : ChannelPool) :
    ShardedChannelPool n :=
  { pool with shards := Function.update pool.shards i shard }

/-- The start of `allocate` takes the first shard from the round-robin counter. -/
def beginAllocate (pool : ShardedChannelPool n) (type : ChannelType) :
    ShardedChannelPool n × Probe :=
  ({ pool with rrCounter := pool.rrCounter + 1 },
    { type, start := pool.rrCounter &&& UInt32.ofNat (n - 1) })

variable [NeZero n]

/-- Adds to the shard that the channel names. -/
def addChannel (pool : ShardedChannelPool n) (desc : ChannelDescriptor) : ShardedChannelPool n :=
  pool.setShard (shardOf n desc) ((pool.shards (shardOf n desc)).addChannel desc)

/-- Releases in the shard that the channel names. -/
def release (pool : ShardedChannelPool n) (desc : ChannelDescriptor) :
    ShardedChannelPool n × Bool :=
  let (shard, released) := (pool.shards (shardOf n desc)).release desc
  (pool.setShard (shardOf n desc) shard, released)

/-- A round of the loop of `allocate`: the next round, or what the call returns. -/
def allocateRound (pool : ShardedChannelPool n) (probe : Probe) :
    ShardedChannelPool n × (Probe ⊕ Option ChannelDescriptor) :=
  let (shard, ch) := (pool.shards (probe.shard n)).allocate probe.type
  let pool := pool.setShard (probe.shard n) shard
  if ch.isSome then (pool, .inr ch)
  else if probe.offset + 1 < UInt32.ofNat n then
    (pool, .inl { probe with offset := probe.offset + 1 })
  else (pool, .inr none)

end ShardedChannelPool

/-- A pool with the `allocate` calls that have not returned. -/
structure ChannelCallers (n : Nat) (Caller : Type) where
  pool : ShardedChannelPool n := {}
  probes : Caller → Option Probe := fun _ => none

namespace ChannelCallers

variable {n : Nat} {Caller : Type} [DecidableEq Caller]

/-- Replaces the progress of one caller. -/
def setProbe (callers : ChannelCallers n Caller) (caller : Caller) (probe : Option Probe) :
    ChannelCallers n Caller :=
  { callers with probes := Function.update callers.probes caller probe }

/-- A step of some caller. -/
inductive Op (Caller : Type) where
  | addChannel (desc : ChannelDescriptor)
  | release (desc : ChannelDescriptor)
  | allocate (caller : Caller) (type : ChannelType)
  | round (caller : Caller)
deriving DecidableEq

/-- What a step returns; `goesOn` if the call goes on. -/
inductive Reply where
  | done
  | flag (released : Bool)
  | goesOn
  | returned (ch : Option ChannelDescriptor)
deriving DecidableEq

/-- A caller goes on with its `allocate` call or leaves it. -/
def finishRound (callers : ChannelCallers n Caller) (caller : Caller) :
    ShardedChannelPool n × (Probe ⊕ Option ChannelDescriptor) → ChannelCallers n Caller × Reply
  | (pool, .inl probe) => ({ callers with pool }.setProbe caller (some probe), .goesOn)
  | (pool, .inr ch) => ({ callers with pool }.setProbe caller none, .returned ch)

variable [NeZero n]

/-- The effect of a step, `none` if the caller is not at that place. -/
def exec (callers : ChannelCallers n Caller) :
    Op Caller → Option (ChannelCallers n Caller × Reply)
  | .addChannel desc => some ({ callers with pool := callers.pool.addChannel desc }, .done)
  | .release desc =>
      let (pool, released) := callers.pool.release desc
      some ({ callers with pool }, .flag released)
  | .allocate caller type =>
      if (callers.probes caller).isNone then
        let (pool, probe) := callers.pool.beginAllocate type
        some ({ callers with pool }.setProbe caller (some probe), .goesOn)
      else none
  | .round caller =>
      (callers.probes caller).map fun probe =>
        callers.finishRound caller (callers.pool.allocateRound probe)

/-- The callers of a pool as a machine, whose runs are the interleavings of their calls. -/
def machine (n : Nat) [NeZero n] (Caller : Type) [DecidableEq Caller] :
    Foundation.Machine (ChannelCallers n Caller) (Op Caller × Reply) :=
  .ofCalls exec

end ChannelCallers

end Stack

end Gsml3
