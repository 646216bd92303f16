import Gsml3.Stack.ShardedRegistry
import Gsml3.Stack.RegistryActive

/-!
# Timers of a sharded registry

A tick goes through the shards until the report is full, and the shards behind are
not ticked.  Where they have no running timer every timer is advanced by every tick,
and its expiry is reported once.
-/

namespace Gsml3

namespace Stack

namespace ShardedSubscriberRegistry

open SubscriberRegistry (Tracked Enumerates dueIn reportsOf TimerRunning)

variable {n : Nat} {hash : UInt32 → UInt64} {reg target : ShardedSubscriberRegistry n}

@[simp] theorem setShard_self (reg : ShardedSubscriberRegistry n) (i : Fin n)
    (shard : SubscriberRegistry) : (reg.setShard i shard).shards i = shard :=
  Function.update_self ..

theorem setShard_of_ne {i j : Fin n} (apart : j ≠ i) (shard : SubscriberRegistry) :
    (reg.setShard i shard).shards j = reg.shards j :=
  Function.update_of_ne apart ..

/-! ## Calls on shards -/

/-- The calls that a call on the sharded registry makes on shard `i`. -/
inductive Issues [NeZero n] : Op n → Fin n → SubscriberRegistry.Op → Prop where
  | createByTMSI (tmsi : UInt32) :
      Issues (.createByTMSI tmsi) (debugShardForTmsi n tmsi) (.createByTMSI tmsi)
  | locked (tmsi : UInt32) (op : SubscriberRegistry.Op) :
      Issues (.locked tmsi op) (debugShardForTmsi n tmsi) op
  | remove (ref : ShardedRef n) : Issues (.remove ref) ref.1 (.remove ref.2)
  | reserve (expectedSessions : Nat) (i : Fin n) :
      Issues (.reserve expectedSessions) i (.reserve (expectedSessions / n + 1))
  | tickAllTimers (visited : Fin n → List SessionRef) (delta : Int) (room left : Nat)
      (i : Fin n) :
      Issues (.tickAllTimers visited delta room) i (.tickAllTimers (visited i) delta left)
  | tickAllProcedures (visited : Fin n → List SessionRef) (delta : Int) (i : Fin n) :
      Issues (.tickAllProcedures visited delta) i (.tickAllProcedures (visited i) delta)

/-- A call that a shard answers on behalf of a call on the sharded registry. -/
def ShardStep [NeZero n] (hash : UInt32 → UInt64) (op : Op n) (i : Fin n)
    (source target : SubscriberRegistry) : Prop :=
  ∃ inner reply, Issues op i inner ∧ SubscriberRegistry.exec hash source inner =
    some (target, reply)

/-- Every shard is changed by calls on it only. -/
def ShardSteps [NeZero n] (hash : UInt32 → UInt64) (op : Op n)
    (reg target : ShardedSubscriberRegistry n) : Prop :=
  ∀ i, Relation.ReflTransGen (ShardStep hash op i) (reg.shards i) (target.shards i)

/-- Every shard is called at most once. -/
def ShardCalls [NeZero n] (hash : UInt32 → UInt64) (op : Op n)
    (reg target : ShardedSubscriberRegistry n) : Prop :=
  ∀ i, Relation.ReflGen (ShardStep hash op i) (reg.shards i) (target.shards i)

section Steps

variable [NeZero n] {op : Op n}

theorem ShardCalls.refl (reg : ShardedSubscriberRegistry n) : ShardCalls hash op reg reg :=
  fun _ => .refl

theorem ShardStep.of_exec {i : Fin n} {source target : SubscriberRegistry}
    (inner : SubscriberRegistry.Op) (reply : SubscriberRegistry.Reply) (issues : Issues op i inner)
    (run : SubscriberRegistry.exec hash source inner = some (target, reply)) :
    ShardStep hash op i source target :=
  ⟨inner, reply, issues, run⟩

/-- A shard that was not called yet is called. -/
theorem ShardCalls.set {middle : ShardedSubscriberRegistry n}
    (steps : ShardCalls hash op reg middle) {i : Fin n} {shard : SubscriberRegistry}
    (called : Relation.ReflGen (ShardStep hash op i) (reg.shards i) shard) :
    ShardCalls hash op reg (middle.setShard i shard) := by
  intro j
  by_cases same : j = i
  · subst same
    rw [setShard_self]
    exact called
  · rw [setShard_of_ne same]
    exact steps j

theorem ShardCalls.single {i : Fin n} {shard : SubscriberRegistry}
    (inner : SubscriberRegistry.Op) (reply : SubscriberRegistry.Reply) (issues : Issues op i inner)
    (run : SubscriberRegistry.exec hash (reg.shards i) inner = some (shard, reply)) :
    ShardCalls hash op reg (reg.setShard i shard) :=
  (ShardCalls.refl reg).set (.single (.of_exec inner reply issues run))

/-- A loop that calls each shard at most once. -/
theorem ShardCalls.foldlM {State : Type*} (registry : State → ShardedSubscriberRegistry n)
    {step : State → Fin n → Option State}
    (one : ∀ source i after, (registry source).shards i = reg.shards i →
      step source i = some after → ∃ shard, registry after = (registry source).setShard i shard ∧
        Relation.ReflGen (ShardStep hash op i) (reg.shards i) shard)
    {shards : List (Fin n)} {source final : State} (nodup : shards.Nodup)
    (uncalled : ∀ i ∈ shards, (registry source).shards i = reg.shards i)
    (steps : ShardCalls hash op reg (registry source))
    (run : shards.foldlM step source = some final) : ShardCalls hash op reg (registry final) := by
  induction shards generalizing source with
  | nil =>
      obtain rfl := Option.some.inj run
      exact steps
  | cons i shards ih =>
      obtain ⟨absent, nodup⟩ := List.nodup_cons.mp nodup
      obtain ⟨after, first, rest⟩ := Option.bind_eq_some_iff.mp run
      obtain ⟨shard, changed, called⟩ := one source i after (uncalled i (List.mem_cons_self ..)) first
      refine ih nodup (fun j member => ?_) (changed ▸ steps.set called) rest
      have apart : j ≠ i := fun same => absent (same ▸ member)
      rw [changed, setShard_of_ne apart]
      exact uncalled j (List.mem_cons_of_mem _ member)

theorem exec_calls {reply : Reply n} (run : exec hash reg op = some (target, reply)) :
    ShardCalls hash op reg target := by
  cases op with
  | createByTMSI tmsi =>
      obtain ⟨⟨created, ref⟩, create_run, pair⟩ := Option.map_eq_some_iff.mp run
      obtain ⟨rfl, -⟩ := Prod.mk.inj pair
      obtain ⟨⟨created', ref'⟩, on_shard, pair⟩ := Option.map_eq_some_iff.mp create_run
      obtain ⟨rfl, -⟩ := Prod.mk.inj pair
      obtain ⟨⟨shard, ref''⟩, inner, pair⟩ := Option.map_eq_some_iff.mp on_shard
      obtain ⟨rfl, -⟩ := Prod.mk.inj pair
      exact .single (.createByTMSI tmsi) (SubscriberRegistry.replyCreated (shard, ref'')).2
        (.createByTMSI tmsi) (Option.map_eq_some_iff.mpr ⟨(shard, ref''), inner, rfl⟩)
  | findByTMSI | findByIMSI | findByLink =>
      obtain ⟨ref, -, pair⟩ := Option.map_eq_some_iff.mp run
      obtain ⟨rfl, -⟩ := Prod.mk.inj pair
      exact .refl reg
  | locked tmsi op =>
      obtain ⟨⟨after, inner_reply⟩, on_shard, pair⟩ := Option.map_eq_some_iff.mp run
      obtain ⟨rfl, -⟩ := Prod.mk.inj pair
      obtain ⟨⟨shard, inner_reply'⟩, inner, pair⟩ := Option.map_eq_some_iff.mp on_shard
      obtain ⟨rfl, -⟩ := Prod.mk.inj pair
      exact .single op inner_reply' (.locked tmsi op) inner
  | remove ref =>
      obtain ⟨⟨after, removed⟩, remove_run, pair⟩ := Option.map_eq_some_iff.mp run
      obtain ⟨rfl, -⟩ := Prod.mk.inj pair
      obtain ⟨session, -, rest⟩ := Option.bind_eq_some_iff.mp remove_run
      split at rest
      case isTrue =>
        obtain ⟨rfl, -⟩ := Prod.mk.inj (Option.some.inj rest)
        exact .refl reg
      case isFalse =>
        obtain ⟨⟨shard, removed'⟩, inner, pair⟩ := Option.map_eq_some_iff.mp rest
        obtain ⟨rfl, -⟩ := Prod.mk.inj pair
        split at inner
        case isTrue same =>
          rw [same] at inner ⊢
          refine ShardCalls.single (.remove ref.2) (.removed removed') (.remove ref) ?_
          exact Option.map_eq_some_iff.mpr ⟨(shard, removed'), inner, rfl⟩
        case isFalse =>
          obtain ⟨found, -, pair⟩ := Option.map_eq_some_iff.mp inner
          obtain ⟨rfl, -⟩ := Prod.mk.inj pair
          exact (ShardCalls.refl reg).set .refl
  | reserve expectedSessions =>
      obtain ⟨after, reserve_run, pair⟩ := Option.map_eq_some_iff.mp run
      obtain ⟨rfl, -⟩ := Prod.mk.inj pair
      refine ShardCalls.foldlM id (fun source i after uncalled step => ?_)
        (List.nodup_finRange n) (fun _ _ => rfl) (ShardCalls.refl reg) reserve_run
      obtain ⟨shard, inner, rfl⟩ := Option.map_eq_some_iff.mp step
      refine ⟨shard, rfl, .single (.of_exec (.reserve (expectedSessions / n + 1)) .done
        (.reserve expectedSessions i) ?_)⟩
      rw [SubscriberRegistry.exec, ← uncalled]
      exact Option.map_eq_some_iff.mpr ⟨shard, inner, rfl⟩
  | tickAllTimers visited delta room =>
      rw [exec] at run
      split at run
      case isFalse => cases run
      case isTrue enumerates =>
        obtain ⟨⟨after, out⟩, tick_run, pair⟩ := Option.map_eq_some_iff.mp run
        obtain ⟨rfl, -⟩ := Prod.mk.inj pair
        obtain ⟨⟨after', left, out'⟩, loop, pair⟩ := Option.map_eq_some_iff.mp tick_run
        obtain ⟨rfl, -⟩ := Prod.mk.inj pair
        refine ShardCalls.foldlM Prod.fst (fun source i after uncalled step => ?_)
          (List.nodup_finRange n) (fun _ _ => rfl) (ShardCalls.refl reg) loop
        rw [tickShard] at step
        split at step
        case isTrue =>
          obtain rfl := Option.some.inj step
          refine ⟨source.1.shards i, ?_, uncalled ▸ .refl⟩
          rw [setShard, Function.update_eq_self]
        case isFalse =>
          obtain ⟨⟨shard, new⟩, inner, rfl⟩ := Option.map_eq_some_iff.mp step
          refine ⟨shard, rfl, .single (.of_exec (.tickAllTimers (visited i) delta source.2.1)
            (.expired new) (.tickAllTimers visited delta room source.2.1 i) ?_)⟩
          rw [SubscriberRegistry.exec, if_pos (enumerates i), ← uncalled, inner]
          rfl
  | tickAllProcedures visited delta =>
      rw [exec] at run
      split at run
      case isFalse => cases run
      case isTrue enumerates =>
        obtain ⟨⟨after, failed⟩, tick_run, pair⟩ := Option.map_eq_some_iff.mp run
        obtain ⟨rfl, -⟩ := Prod.mk.inj pair
        refine ShardCalls.foldlM Prod.fst (fun source i after uncalled step => ?_)
          (List.nodup_finRange n) (fun _ _ => rfl) (ShardCalls.refl reg) tick_run
        obtain ⟨⟨shard, failed'⟩, inner, rfl⟩ := Option.map_eq_some_iff.mp step
        refine ⟨shard, rfl, .single (.of_exec (.tickAllProcedures (visited i) delta)
          (.failed failed') (.tickAllProcedures visited delta i) ?_)⟩
        rw [SubscriberRegistry.exec, if_pos (enumerates i), ← uncalled, inner]
        rfl

theorem exec_steps {reply : Reply n} (run : exec hash reg op = some (target, reply)) :
    ShardSteps hash op reg target :=
  fun i => (exec_calls run i).to_reflTransGen

/-- A call keeps what holds of every shard. -/
theorem tracked_step {reply : Reply n} (tracked : ∀ i, Tracked (reg.shards i))
    (run : exec hash reg op = some (target, reply)) (i : Fin n) : Tracked (target.shards i) := by
  have steps := exec_steps run i
  generalize target.shards i = shard at steps
  induction steps with
  | refl => exact tracked i
  | tail _ called ih =>
      obtain ⟨inner, reply, -, run⟩ := called
      exact ih.exec run

theorem tracked_of_run {events : List (Op n × Reply n)}
    (run : (machine n hash).Run (fun _ _ _ => True) {} events reg) (i : Fin n) :
    Tracked (reg.shards i) :=
  run.invariant (fun _ state => ∀ i, Tracked (state.shards i))
    (fun _ => SubscriberRegistry.tracked_empty)
    (fun _ _ _ _ tracked stepped _ =>
      tracked_step tracked (Foundation.Machine.ofCalls_step.mp stepped)) i

end Steps

/-! ## Ticks -/

variable {visited : Fin n → List SessionRef} {delta : Int}

/-- The reports about one shard. -/
def shardReports (i : Fin n) (out : List (ShardedRef n × L3TimerId)) :
    List (SessionRef × L3TimerId) :=
  (out.filter fun expiry => expiry.1.1 = i).map fun expiry => (expiry.1.2, expiry.2)

theorem shardReports_append (i : Fin n) (first second : List (ShardedRef n × L3TimerId)) :
    shardReports i (first ++ second) = shardReports i first ++ shardReports i second := by
  rw [shardReports, List.filter_append, List.map_append]
  rfl

theorem shardReports_map (i j : Fin n) (new : List (SessionRef × L3TimerId)) :
    shardReports j (new.map fun expiry => ((i, expiry.1), expiry.2)) =
      if i = j then new else [] := by
  rw [shardReports, List.filter_map]
  split
  case isTrue same => simp [same, Function.comp_def]
  case isFalse apart => simp [apart, Function.comp_def]

/-- The timers that expire in some shards. -/
def dueOver (reg : ShardedSubscriberRegistry n) (visited : Fin n → List SessionRef) (delta : Int)
    (shards : List (Fin n)) : Nat :=
  (shards.map fun i => dueIn (reg.shards i) (visited i) delta).sum

/-- One shard reports what expires in it, as long as there is room. -/
theorem tickAllTimers_length {shard after : SubscriberRegistry} {visited : List SessionRef}
    {room : Nat} {new : List (SessionRef × L3TimerId)} (tracked : Tracked shard)
    (enumerates : Enumerates visited shard.activeTimerSessions)
    (run : shard.tickAllTimers visited delta room = some (after, new)) :
    Tracked after ∧ new.length = min room (dueIn shard visited delta) := by
  obtain ⟨target, new', loop, length, kept, -⟩ := tracked.tickVisited enumerates.1
    (fun ref member => by
      obtain ⟨session, live, -⟩ := (tracked.timers ref).mp ((enumerates.2 ref).mp member)
      rw [live]
      rfl) delta room []
  rw [SubscriberRegistry.tickAllTimers, loop] at run
  obtain ⟨rfl, rfl⟩ := Prod.mk.inj (Option.some.inj run)
  exact ⟨kept, length⟩

/-- What a tick with `room` left does to one shard: it is ticked unless the output span
is full. -/
def ShardTicked (shard target : SubscriberRegistry) (visited : List SessionRef) (delta : Int)
    (room : Nat) (new : List (SessionRef × L3TimerId)) : Prop :=
  if 0 < room then shard.tickAllTimers visited delta room = some (target, new)
  else target = shard ∧ new = []

theorem tickShard_ticked {i : Fin n} {room left : Nat} {out final : List (ShardedRef n × L3TimerId)}
    (tracked : Tracked (reg.shards i))
    (enumerates : Enumerates (visited i) (reg.shards i).activeTimerSessions)
    (run : tickShard visited delta (reg, room, out) i = some (target, left, final)) :
    ∃ shard new, target = reg.setShard i shard ∧
      final = out ++ new.map (fun expiry => ((i, expiry.1), expiry.2)) ∧
      left = room - new.length ∧ Tracked shard ∧
      new.length = min room (dueIn (reg.shards i) (visited i) delta) ∧
      ShardTicked (reg.shards i) shard (visited i) delta room new := by
  rw [tickShard] at run
  by_cases full : room = 0
  · simp only [if_pos full] at run
    obtain ⟨rfl, pair⟩ := Prod.mk.inj (Option.some.inj run)
    obtain ⟨rfl, rfl⟩ := Prod.mk.inj pair
    refine ⟨reg.shards i, [], ?_, (List.append_nil _).symm, rfl, tracked, ?_, ?_⟩
    · rw [setShard, Function.update_eq_self]
    · rw [full, Nat.zero_min, List.length_nil]
    · rw [ShardTicked, if_neg (by omega)]
      exact ⟨rfl, rfl⟩
  · simp only [if_neg full] at run
    obtain ⟨⟨shard, new⟩, inner, triple⟩ := Option.map_eq_some_iff.mp run
    obtain ⟨rfl, pair⟩ := Prod.mk.inj triple
    obtain ⟨rfl, rfl⟩ := Prod.mk.inj pair
    obtain ⟨kept, length⟩ := tickAllTimers_length tracked enumerates inner
    refine ⟨shard, new, rfl, rfl, rfl, kept, length, ?_⟩
    rw [ShardTicked, if_pos (by omega)]
    exact inner

/-- The loop ticks each shard with the room that the shards before it left. -/
theorem tickShards {shards : List (Fin n)} {room left : Nat}
    {out final : List (ShardedRef n × L3TimerId)} (nodup : shards.Nodup)
    (tracked : ∀ i, Tracked (reg.shards i))
    (enumerates : ∀ i ∈ shards, Enumerates (visited i) (reg.shards i).activeTimerSessions)
    (run : shards.foldlM (tickShard visited delta) (reg, room, out) = some (target, left, final)) :
    ∃ new, final = out ++ new ∧ new.length = min room (dueOver reg visited delta shards) ∧
      (∀ i ∉ shards, target.shards i = reg.shards i ∧ shardReports i new = []) ∧
      ∀ i ∈ shards, ShardTicked (reg.shards i) (target.shards i) (visited i) delta
        (room - dueOver reg visited delta (shards.takeWhile (· ≠ i))) (shardReports i new) := by
  induction shards generalizing reg room out with
  | nil =>
      obtain ⟨rfl, pair⟩ := Prod.mk.inj (Option.some.inj run)
      obtain ⟨rfl, rfl⟩ := Prod.mk.inj pair
      exact ⟨[], (List.append_nil _).symm, (Nat.min_zero _).symm, fun _ _ => ⟨rfl, rfl⟩,
        fun _ member => absurd member List.not_mem_nil⟩
  | cons first shards ih =>
      obtain ⟨absent, nodup⟩ := List.nodup_cons.mp nodup
      obtain ⟨⟨middle, room', out'⟩, head, rest⟩ := Option.bind_eq_some_iff.mp run
      obtain ⟨shard, new, rfl, rfl, rfl, kept, length, ticked⟩ := tickShard_ticked (tracked first)
        (enumerates first (List.mem_cons_self ..)) head
      have apart : ∀ i ∈ shards, i ≠ first := fun i member same => absent (same ▸ member)
      have tracked' : ∀ i, Tracked ((reg.setShard first shard).shards i) := by
        intro i
        by_cases same : i = first
        · rw [same, setShard_self]
          exact kept
        · rw [setShard_of_ne same]
          exact tracked i
      have unchanged : ∀ {list : List (Fin n)}, (∀ i ∈ list, i ∈ shards) →
          dueOver (reg.setShard first shard) visited delta list = dueOver reg visited delta list :=
        fun inside => congrArg List.sum (List.map_congr_left fun i member => by
          rw [setShard_of_ne (apart i (inside i member))])
      obtain ⟨more, rfl, more_length, others, later⟩ := ih nodup tracked' (fun i member => by
        rw [setShard_of_ne (apart i member)]
        exact enumerates i (List.mem_cons_of_mem _ member)) rest
      have due : ∀ list : List (Fin n), dueOver reg visited delta (first :: list) =
          dueIn (reg.shards first) (visited first) delta + dueOver reg visited delta list :=
        fun _ => List.sum_cons
      refine ⟨new.map (fun expiry => ((first, expiry.1), expiry.2)) ++ more,
        (List.append_assoc ..), ?_, fun i outside => ?_, fun i member => ?_⟩
      · rw [List.length_append, List.length_map, more_length, due, unchanged fun _ => id]
        omega
      · obtain ⟨same, outside⟩ := not_or.mp (mt List.mem_cons.mpr outside)
        obtain ⟨stays, none⟩ := others i outside
        rw [stays, setShard_of_ne same, shardReports_append, shardReports_map,
          if_neg (Ne.symm same), none]
        exact ⟨rfl, rfl⟩
      · by_cases same : i = first
        · subst same
          obtain ⟨stays, none⟩ := others i absent
          rw [stays, setShard_self, shardReports_append, shardReports_map, if_pos rfl, none,
            List.append_nil, List.takeWhile_cons_of_neg (by simp)]
          exact ticked
        · have ticked := later i ((List.mem_cons.mp member).resolve_left same)
          rw [setShard_of_ne same, unchanged fun j before =>
            (List.takeWhile_sublist _).subset before] at ticked
          rw [shardReports_append, shardReports_map, if_neg (Ne.symm same), List.nil_append,
            List.takeWhile_cons_of_pos (by simp [Ne.symm same]), due]
          convert ticked using 1
          omega

/-! ## Sequences of ticks -/

/-- The timers that expire in the shards before shard `i`. -/
def dueBefore (reg : ShardedSubscriberRegistry n) (visited : Fin n → List SessionRef)
    (delta : Int) (i : Fin n) : Nat :=
  dueOver reg visited delta ((List.finRange n).takeWhile (· ≠ i))

/-- A tick whose output span is not yet full at any shard with a running timer. -/
def Reaches (reg : ShardedSubscriberRegistry n) : Op n → Prop
  | .tickAllTimers visited delta room => ∀ i, (reg.shards i).activeTimerSessions ≠ ∅ →
      dueBefore reg visited delta i < room
  | _ => False

instance (reg : ShardedSubscriberRegistry n) : (op : Op n) → Decidable (Reaches reg op)
  | .tickAllTimers visited delta room =>
      inferInstanceAs (Decidable (∀ i, (reg.shards i).activeTimerSessions ≠ ∅ →
        dueBefore reg visited delta i < room))
  | .createByTMSI _ => .isFalse id
  | .findByTMSI _ => .isFalse id
  | .findByIMSI _ => .isFalse id
  | .findByLink .. => .isFalse id
  | .locked .. => .isFalse id
  | .remove _ => .isFalse id
  | .reserve _ => .isFalse id
  | .tickAllProcedures .. => .isFalse id

/-- The reports about timer `j` of a session. -/
def slotReports (ref : ShardedRef n) (j : Nat) (out : List (ShardedRef n × L3TimerId)) : Nat :=
  out.countP fun expiry => expiry.1 = ref ∧ expiry.2.code = j

theorem slotReports_eq (ref : ShardedRef n) (j : Nat) (out : List (ShardedRef n × L3TimerId)) :
    slotReports ref j out =
      TimerManager.reportsOn j (reportsOf ref.2 (shardReports ref.1 out)) := by
  rw [TimerManager.reportsOn, reportsOf, shardReports, List.filter_map, List.map_map,
    List.countP_map, List.filter_filter, List.countP_filter]
  refine List.countP_congr fun expiry _ => ?_
  simp [Prod.ext_iff, and_comm, and_assoc]

/-- A call as timer `j` of a session sees it. -/
def slotTick (ref : ShardedRef n) (j : Nat) : Op n × Reply n → SlotTick
  | (.tickAllTimers _ delta room, .expired out) =>
      ⟨delta, out.length == room, slotReports ref j out⟩
  | _ => ⟨0, false, 0⟩

/-- Every timer is advanced by every tick, and a timer that runs is reported once
unless it still runs. -/
def LosesNoTime (start : ShardedSubscriberRegistry n) (ticks : List (Op n × Reply n))
    (reg : ShardedSubscriberRegistry n) : Prop :=
  ∀ ref session j slot, start.sessionAt ref = some session →
    session.timers.slots[j]? = some slot →
    ∃ now after, reg.sessionAt ref = some now ∧ now.timers.slots[j]? = some after ∧
      slot.Elapsed (ticks.map (slotTick ref j)) after ∧
      ((ticks.map (slotTick ref j)).map SlotTick.reports).sum + after.active.toNat =
        slot.active.toNat

/-- A tick of a shard advances every timer there. -/
theorem tickAllTimers_advanced {shard after : SubscriberRegistry} {sessions : List SessionRef}
    {room : Nat} {new : List (SessionRef × L3TimerId)} (tracked : Tracked shard)
    (enumerates : Enumerates sessions shard.activeTimerSessions)
    (run : shard.tickAllTimers sessions delta room = some (after, new)) {ref : SessionRef}
    {session : SubscriberSession} {j : Nat} {slot : TimerSlot}
    (live : shard.sessionAt ref = some session) (held : session.timers.slots[j]? = some slot) :
    ∃ changed slot', after.sessionAt ref = some changed ∧ changed.timers.slots[j]? = some slot' ∧
      slot.Advanced delta (new.length = room) slot'
        (TimerManager.reportsOn j (reportsOf ref new)) := by
  obtain ⟨target, new', loop, -, -, ticked, untouched⟩ := tracked.tickVisited enumerates.1
    (fun ref member => by
      obtain ⟨session, live, -⟩ := (tracked.timers ref).mp ((enumerates.2 ref).mp member)
      rw [live]
      rfl) delta room []
  rw [SubscriberRegistry.tickAllTimers, loop] at run
  obtain ⟨rfl, rfl⟩ := Prod.mk.inj (Option.some.inj run)
  by_cases member : ref ∈ sessions
  · obtain ⟨changed, left, now, timers, reports, full⟩ := ticked ref member session live
    obtain ⟨slot', held', advanced⟩ :=
      (tracked.configured ref session live).advanced held delta left
    refine ⟨changed, slot', now, timers ▸ held', ?_⟩
    rw [List.nil_append, reports]
    exact advanced.mono full
  · obtain ⟨stays, none⟩ := untouched ref member
    refine ⟨session, slot, stays.trans live, held, ?_⟩
    have idle : slot.active = false := by
      refine Bool.eq_false_iff.mpr fun active => member ?_
      refine (enumerates.2 ref).mpr ((tracked.timers ref).mpr ⟨session, live, ?_⟩)
      exact List.countP_pos_iff.mpr ⟨slot, List.mem_of_getElem? held, active⟩
    rw [List.nil_append, none]
    exact .idle idle

theorem dueOver_takeWhile {i : Fin n} {shards : List (Fin n)} (member : i ∈ shards) :
    dueOver reg visited delta (shards.takeWhile (· ≠ i)) +
      dueIn (reg.shards i) (visited i) delta ≤ dueOver reg visited delta shards := by
  induction shards with
  | nil => cases member
  | cons first shards ih =>
      have due : ∀ list : List (Fin n), dueOver reg visited delta (first :: list) =
          dueIn (reg.shards first) (visited first) delta + dueOver reg visited delta list :=
        fun _ => List.sum_cons
      by_cases same : i = first
      · rw [same, List.takeWhile_cons_of_neg (by simp), due]
        exact (Nat.zero_add _).trans_le (Nat.le_add_right ..)
      · have before := ih ((List.mem_cons.mp member).resolve_left same)
        rw [List.takeWhile_cons_of_pos (by simp [Ne.symm same]), due, due]
        omega

/-- A tick that reaches every running timer advances every timer. -/
theorem tick_advanced [NeZero n] {room : Nat} {reply : Reply n}
    (tracked : ∀ i, Tracked (reg.shards i))
    (reaches : Reaches reg (.tickAllTimers visited delta room))
    (run : exec hash reg (.tickAllTimers visited delta room) = some (target, reply))
    {ref : ShardedRef n} {session : SubscriberSession} {j : Nat} {slot : TimerSlot}
    (live : reg.sessionAt ref = some session) (held : session.timers.slots[j]? = some slot) :
    ∃ out changed slot', reply = .expired out ∧ target.sessionAt ref = some changed ∧
      changed.timers.slots[j]? = some slot' ∧
      slot.Advanced delta (out.length = room) slot' (slotReports ref j out) := by
  rw [exec] at run
  split at run
  case isFalse => cases run
  case isTrue enumerates =>
    obtain ⟨⟨after, out⟩, tick_run, pair⟩ := Option.map_eq_some_iff.mp run
    obtain ⟨rfl, rfl⟩ := Prod.mk.inj pair
    obtain ⟨⟨after', left, out'⟩, loop, pair⟩ := Option.map_eq_some_iff.mp tick_run
    obtain ⟨rfl, rfl⟩ := Prod.mk.inj pair
    obtain ⟨new, new_eq, length, -, ticked⟩ := tickShards (List.nodup_finRange n) tracked
      (fun i _ => enumerates i) loop
    rw [List.nil_append] at new_eq
    obtain rfl := new_eq
    have own := ticked ref.1 (List.mem_finRange ref.1)
    have shard_tick : (reg.shards ref.1).tickAllTimers (visited ref.1) delta
        (room - dueBefore reg visited delta ref.1) =
          some (after'.shards ref.1, shardReports ref.1 out') := by
      rw [ShardTicked] at own
      split at own
      case isTrue => exact own
      case isFalse full =>
        -- a shard without running timers is not changed by a tick
        have none_active : (reg.shards ref.1).activeTimerSessions = ∅ := by
          by_contra some_active
          have before := reaches ref.1 some_active
          rw [dueBefore] at before
          omega
        have idle : visited ref.1 = [] := by
          refine List.eq_nil_iff_forall_not_mem.mpr fun other member => ?_
          have active := ((enumerates ref.1).2 other).mp member
          rw [none_active] at active
          exact absurd active (Finset.notMem_empty other)
        rw [idle, own.1, own.2]
        rfl
    obtain ⟨changed, slot', now, held', advanced⟩ :=
      tickAllTimers_advanced (tracked ref.1) (enumerates ref.1) shard_tick live held
    refine ⟨out', changed, slot', rfl, now, held', ?_⟩
    rw [slotReports_eq]
    refine advanced.mono fun full => ?_
    have own_length := (tickAllTimers_length (tracked ref.1) (enumerates ref.1) shard_tick).2
    have before := @dueOver_takeWhile n reg visited delta ref.1 _ (List.mem_finRange ref.1)
    rw [dueBefore] at full own_length
    omega

/-- Ticks that reach every running timer lose no time and no expiry. -/
theorem ticks_lose_no_time [NeZero n] {past ticks : List (Op n × Reply n)}
    {start : ShardedSubscriberRegistry n}
    (reached : (machine n hash).Run (fun _ _ _ => True) {} past start)
    (run : (machine n hash).Run (fun source event _ => Reaches source event.1) start ticks reg) :
    LosesNoTime start ticks reg := by
  have started : ∀ i, Tracked (start.shards i) := fun i => tracked_of_run reached i
  intro ref session j slot live held
  suffices elapsed : ∃ now after, reg.sessionAt ref = some now ∧
      now.timers.slots[j]? = some after ∧ slot.Elapsed (ticks.map (slotTick ref j)) after by
    obtain ⟨now, after, now_live, held', elapsed⟩ := elapsed
    exact ⟨now, after, now_live, held', elapsed, elapsed.reports⟩
  have kept := run.invariant (fun past state => (∀ i, Tracked (state.shards i)) ∧
    ∃ now after, state.sessionAt ref = some now ∧ now.timers.slots[j]? = some after ∧
      slot.Elapsed (past.map (slotTick ref j)) after) ⟨started, session, slot, live, held, .start⟩ ?_
  · exact kept.2
  · rintro past source target ⟨op, reply⟩ ⟨tracked, now, after, now_live, held', elapsed⟩ stepped
      reaches
    have call := Foundation.Machine.ofCalls_step.mp stepped
    cases op with
    | tickAllTimers visited delta room =>
        obtain ⟨out, changed, slot', reply_eq, changed_live, held'', advanced⟩ :=
          tick_advanced tracked reaches call now_live held'
        obtain rfl : reply = .expired out := reply_eq
        refine ⟨fun i => tracked_step tracked call i, changed, slot', changed_live, held'', ?_⟩
        rw [List.map_append, List.map_singleton]
        exact elapsed.tick (advanced.mono fun full => beq_iff_eq.mpr full)
    | createByTMSI | findByTMSI | findByIMSI | findByLink | locked | remove | reserve
    | tickAllProcedures => exact absurd reaches id

/-- A timer of three seconds that expires at the second tick. -/
theorem ticks_lose_no_time_twice :
    ∃ start reg, LosesNoTime start
      [(.tickAllTimers (fun i => if i = 0 then [0] else []) 100 1, .expired []),
        (.tickAllTimers (fun i => if i = 0 then [0] else []) 5000 1,
          .expired [((0, 0), .T3101)])] reg ∧
      (machine 4 UInt32.toUInt64).exec (fun _ _ _ => True) {}
        [(.createByTMSI 1, .found (some (0, 0))), (.locked 1 (.startTimer 0 .T3101 3000),
          .locked .done)] = some start := by
  obtain ⟨start, started⟩ := Option.isSome_iff_exists.mp (show
    ((machine 4 UInt32.toUInt64).exec (fun _ _ _ => True) {}
      [(.createByTMSI 1, .found (some (0, 0))), (.locked 1 (.startTimer 0 .T3101 3000),
        .locked .done)]).isSome by decide)
  have runs : ∀ start ∈ (machine 4 UInt32.toUInt64).exec (fun _ _ _ => True) {}
      [(.createByTMSI 1, .found (some (0, 0))), (.locked 1 (.startTimer 0 .T3101 3000),
        .locked .done)],
      ((machine 4 UInt32.toUInt64).exec (fun source event _ => Reaches source event.1) start
        [(.tickAllTimers (fun i => if i = 0 then [0] else []) 100 1, .expired []),
          (.tickAllTimers (fun i => if i = 0 then [0] else []) 5000 1,
            .expired [((0, 0), .T3101)])]).isSome := by
    decide
  obtain ⟨reg, executed⟩ := Option.isSome_iff_exists.mp (runs start started)
  exact ⟨start, reg, ticks_lose_no_time (.exec _ .origin started) (.exec _ .origin executed),
    started⟩

/-- Two sessions in different shards; their timers run for 10 and 50 ms. -/
private def twoTimers : List (Op 4 × Reply 4) :=
  [(.createByTMSI 1, .found (some (0, 0))), (.createByTMSI 2, .found (some (1, 0))),
    (.locked 1 (.startTimer 0 .T3101 10), .locked .done),
    (.locked 2 (.startTimer 0 .T3101 50), .locked .done)]

/-- A tick of 10 ms with room for one expiry. -/
private def fullTick : List (Op 4 × Reply 4) :=
  [(.tickAllTimers (fun i => if i.val < 2 then [0] else []) 10 1, .expired [((0, 0), .T3101)])]

private def fiftyLeft : TimerSlot :=
  ⟨{ id := .T3101, expiry := 50, remaining := 50, running := true }, true⟩

/-- The expiry in the first shard fills the output span, and the timer in the second
shard does not advance. -/
theorem full_span_loses_time :
    ∃ start reg, (machine 4 UInt32.toUInt64).Run (fun _ _ _ => True) {} twoTimers start ∧
      (machine 4 UInt32.toUInt64).Run (fun _ _ _ => True) start fullTick reg ∧
      ¬ LosesNoTime start fullTick reg := by
  obtain ⟨start, started⟩ := Option.isSome_iff_exists.mp (show
    ((machine 4 UInt32.toUInt64).exec (fun _ _ _ => True) {} twoTimers).isSome by decide)
  have runs : ∀ start ∈ (machine 4 UInt32.toUInt64).exec (fun _ _ _ => True) {} twoTimers,
      ((machine 4 UInt32.toUInt64).exec (fun _ _ _ => True) start fullTick).isSome := by
    decide
  obtain ⟨reg, executed⟩ := Option.isSome_iff_exists.mp (runs start started)
  have slots : ∀ start ∈ (machine 4 UInt32.toUInt64).exec (fun _ _ _ => True) {} twoTimers,
      ∀ reg ∈ (machine 4 UInt32.toUInt64).exec (fun _ _ _ => True) start fullTick,
      (∃ session ∈ start.sessionAt (1, 0), session.timers.slots[0]? = some fiftyLeft) ∧
      ∃ session ∈ reg.sessionAt (1, 0), session.timers.slots[0]? = some fiftyLeft := by
    decide
  refine ⟨start, reg, .exec _ .origin started, .exec _ .origin executed, fun none_lost => ?_⟩
  obtain ⟨⟨session, live, held⟩, session', live', held'⟩ := slots start started reg executed
  obtain ⟨now, after, now_live, after_held, elapsed, -⟩ := none_lost (1, 0) session 0 fiftyLeft
    live held
  obtain rfl := Option.some.inj (live'.symm.trans now_live)
  obtain rfl := Option.some.inj (held'.symm.trans after_held)
  obtain ⟨before, first, advanced⟩ := @TimerSlot.Elapsed.last _ _ [] _ elapsed
  obtain rfl := first.of_nil
  have advanced_by : (50 : Int) = 50 - 10 := advanced.remaining rfl (by decide)
  exact absurd advanced_by (by decide)

end ShardedSubscriberRegistry

end Stack

end Gsml3
