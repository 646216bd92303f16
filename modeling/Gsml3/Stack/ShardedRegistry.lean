import Gsml3.Stack.SubscriberRegistry

/-!
# Sharded subscriber registry

Sessions in `n` registries, the shards.  Calls by TMSI go to the shard that a hash of
the TMSI selects; the others go through all shards.  `lockForTMSI` hands out a whole
shard, and every call on its registry is possible then.
-/

namespace Gsml3

namespace Stack

/-- A registry for each shard. -/
structure ShardedSubscriberRegistry (n : Nat) where
  shards : Fin n → SubscriberRegistry := fun _ => {}

/-- Pointer to a session: its shard and its entry there. -/
abbrev ShardedRef (n : Nat) := Fin n × SessionRef

/-- The 32-bit finalizer that selects a shard. -/
def hashTMSI (tmsi : UInt32) : UInt32 :=
  let h := tmsi ^^^ tmsi >>> 16
  let h := h * 0x7feb352d
  let h := h ^^^ h >>> 15
  let h := h * 0x846ca68b
  h ^^^ h >>> 16

/-- Index of the shard of a hash. -/
def shardIndex (n : Nat) [NeZero n] (hash : UInt32) : Fin n :=
  ⟨(hash &&& UInt32.ofNat (n - 1)).toNat, by
    rw [UInt32.toNat_and, UInt32.toNat_ofNat']
    have positive := NeZero.pos n
    have low := Nat.mod_le (n - 1) (2 ^ 32)
    have masked := @Nat.and_le_right hash.toNat ((n - 1) % 2 ^ 32)
    omega⟩

/-- The shard a TMSI is routed to. -/
def debugShardForTmsi (n : Nat) [NeZero n] (tmsi : UInt32) : Fin n :=
  shardIndex n (hashTMSI tmsi)

namespace ShardedSubscriberRegistry

variable {n : Nat}

/-- The session in a slot of a shard. -/
def sessionAt (reg : ShardedSubscriberRegistry n) (ref : ShardedRef n) :
    Option SubscriberSession :=
  (reg.shards ref.1).sessionAt ref.2

/-- Replaces the registry of one shard. -/
def setShard (reg : ShardedSubscriberRegistry n) (i : Fin n) (shard : SubscriberRegistry) :
    ShardedSubscriberRegistry n :=
  { reg with shards := Function.update reg.shards i shard }

/-- A call on one shard. -/
def onShard {Result : Type*} (reg : ShardedSubscriberRegistry n) (i : Fin n)
    (call : SubscriberRegistry → Option (SubscriberRegistry × Result)) :
    Option (ShardedSubscriberRegistry n × Result) :=
  (call (reg.shards i)).map fun (shard, result) => (reg.setShard i shard, result)

/-- The first shard in which a lookup finds a session. -/
def scanShards (reg : ShardedSubscriberRegistry n)
    (lookup : SubscriberRegistry → Option (Option SessionRef)) : Option (Option (ShardedRef n)) :=
  (List.finRange n).foldlM (fun found i =>
    if found.isSome then some found
    else (lookup (reg.shards i)).map fun ref => ref.map (i, ·)) none

section Hashed

variable (hash : UInt32 → UInt64)

/-- Looks through the shards, since an IMSI does not name its shard. -/
def findByIMSI (reg : ShardedSubscriberRegistry n) (imsi : Imsi) :
    Option (Option (ShardedRef n)) :=
  reg.scanShards fun shard => shard.findByIMSI hash imsi

/-- Looks through the shards, since a link does not name its shard. -/
def findByLink (reg : ShardedSubscriberRegistry n) (trx ts lapdmLink : UInt8) :
    Option (Option (ShardedRef n)) :=
  reg.scanShards fun shard => shard.findByLink hash trx ts lapdmLink

variable [NeZero n]

/-- Creates in the shard that the TMSI names. -/
def createByTMSI (reg : ShardedSubscriberRegistry n) (tmsi : UInt32) :
    Option (ShardedSubscriberRegistry n × Option (ShardedRef n)) :=
  let i := debugShardForTmsi n tmsi
  (reg.onShard i fun shard => shard.createByTMSI hash tmsi).map fun (reg, created) =>
    (reg, created.map (i, ·))

/-- Looks in the shard that the TMSI names. -/
def findByTMSI (reg : ShardedSubscriberRegistry n) (tmsi : UInt32) :
    Option (Option (ShardedRef n)) :=
  let i := debugShardForTmsi n tmsi
  ((reg.shards i).findByTMSI hash tmsi).map fun found => found.map (i, ·)

/-- A call on the registry that `lockForTMSI` hands out. -/
def locked (reg : ShardedSubscriberRegistry n) (tmsi : UInt32) (op : SubscriberRegistry.Op) :
    Option (ShardedSubscriberRegistry n × SubscriberRegistry.Reply) :=
  reg.onShard (debugShardForTmsi n tmsi) fun shard => SubscriberRegistry.exec hash shard op

/-- Remove a session from the shard of its TMSI; a session of another shard is not
found there. -/
def remove (reg : ShardedSubscriberRegistry n) (ref : ShardedRef n) :
    Option (ShardedSubscriberRegistry n × Bool) :=
  (reg.sessionAt ref).bind fun session =>
    if session.assignedTmsi = 0 then some (reg, false)
    else
      let i := debugShardForTmsi n session.assignedTmsi
      reg.onShard i fun shard =>
        if i = ref.1 then shard.remove hash ref.2
        else (shard.findByTMSI hash session.assignedTmsi).map fun _ => (shard, false)

/-- Makes room in every shard. -/
def reserve (reg : ShardedSubscriberRegistry n) (expectedSessions : Nat) :
    Option (ShardedSubscriberRegistry n) :=
  (List.finRange n).foldlM (fun reg i =>
    ((reg.shards i).reserve hash (expectedSessions / n + 1)).map (reg.setShard i)) reg

end Hashed

/-! ## Ticks -/

/-- Tick the timers of one shard, unless the output span is full. -/
def tickShard (visited : Fin n → List SessionRef) (delta : Int)
    (ticked : ShardedSubscriberRegistry n × Nat × List (ShardedRef n × L3TimerId)) (i : Fin n) :
    Option (ShardedSubscriberRegistry n × Nat × List (ShardedRef n × L3TimerId)) :=
  let (reg, room, out) := ticked
  if room = 0 then some (reg, room, out)
  else ((reg.shards i).tickAllTimers (visited i) delta room).map fun (shard, new) =>
    (reg.setShard i shard, room - new.length,
      out ++ new.map fun expiry => ((i, expiry.1), expiry.2))

/-- Tick the timers of the shards; `visited` lists the active sessions of each in
some order, and `room` is the size of the output span. -/
def tickAllTimers (reg : ShardedSubscriberRegistry n) (visited : Fin n → List SessionRef)
    (delta : Int) (room : Nat) :
    Option (ShardedSubscriberRegistry n × List (ShardedRef n × L3TimerId)) :=
  ((List.finRange n).foldlM (tickShard visited delta) (reg, room, [])).map fun (reg, _, out) =>
    (reg, out)

/-- Tick the procedures of all shards. -/
def tickAllProcedures (reg : ShardedSubscriberRegistry n) (visited : Fin n → List SessionRef)
    (delta : Int) : Option (ShardedSubscriberRegistry n × Nat) :=
  (List.finRange n).foldlM (fun (reg, total) i =>
    ((reg.shards i).tickAllProcedures (visited i) delta).map fun (shard, failed) =>
      (reg.setShard i shard, total + failed)) (reg, 0)

/-! ## Runs -/

/-- A call on the registry, or on a shard that was locked for a TMSI. -/
inductive Op (n : Nat) where
  | createByTMSI (tmsi : UInt32)
  | findByTMSI (tmsi : UInt32)
  | findByIMSI (imsi : Imsi)
  | findByLink (trx ts lapdmLink : UInt8)
  | locked (tmsi : UInt32) (op : SubscriberRegistry.Op)
  | remove (ref : ShardedRef n)
  | reserve (expectedSessions : Nat)
  | tickAllTimers (visited : Fin n → List SessionRef) (delta : Int) (room : Nat)
  | tickAllProcedures (visited : Fin n → List SessionRef) (delta : Int)

/-- What a call returns. -/
inductive Reply (n : Nat) where
  | found (ref : Option (ShardedRef n))
  | locked (reply : SubscriberRegistry.Reply)
  | removed (found : Bool)
  | expired (out : List (ShardedRef n × L3TimerId))
  | failed (count : Nat)
  | done
deriving DecidableEq

/-- One call of the registry and what it returns. -/
def exec [NeZero n] (hash : UInt32 → UInt64) (reg : ShardedSubscriberRegistry n) :
    Op n → Option (ShardedSubscriberRegistry n × Reply n)
  | .createByTMSI tmsi => (createByTMSI hash reg tmsi).map fun (reg, ref) => (reg, .found ref)
  | .findByTMSI tmsi => (findByTMSI hash reg tmsi).map fun ref => (reg, .found ref)
  | .findByIMSI imsi => (findByIMSI hash reg imsi).map fun ref => (reg, .found ref)
  | .findByLink trx ts lapdmLink =>
      (findByLink hash reg trx ts lapdmLink).map fun ref => (reg, .found ref)
  | .locked tmsi op => (locked hash reg tmsi op).map fun (reg, reply) => (reg, .locked reply)
  | .remove ref => (remove hash reg ref).map fun (reg, found) => (reg, .removed found)
  | .reserve expectedSessions => (reserve hash reg expectedSessions).map fun reg => (reg, .done)
  | .tickAllTimers visited delta room =>
      if ∀ i, SubscriberRegistry.Enumerates (visited i) (reg.shards i).activeTimerSessions then
        (reg.tickAllTimers visited delta room).map fun (reg, out) => (reg, .expired out)
      else none
  | .tickAllProcedures visited delta =>
      if ∀ i, SubscriberRegistry.Enumerates (visited i) (reg.shards i).activeProcedureSessions then
        (reg.tickAllProcedures visited delta).map fun (reg, failed) => (reg, .failed failed)
      else none

/-- The registry as a machine. -/
def machine (n : Nat) [NeZero n] (hash : UInt32 → UInt64) :
    Foundation.Machine (ShardedSubscriberRegistry n) (Op n × Reply n) :=
  .ofCalls (exec hash)

end ShardedSubscriberRegistry

end Stack

end Gsml3
