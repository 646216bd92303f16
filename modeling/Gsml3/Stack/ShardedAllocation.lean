import Gsml3.Stack.ShardedChannelPool

/-!
# Interleaved allocation

An `allocate` call that returns nothing has seen every shard without a free channel of its
type, each at its own instant.  A channel is with one caller at a time.
-/

namespace Gsml3

namespace Stack

namespace ChannelCallers

variable {n : Nat} [NeZero n] {Caller : Type} [DecidableEq Caller]
variable {source target state : ChannelCallers n Caller} {event : Op Caller × Reply}

/-! ## Shards -/

theorem shardIndex_val (count : ShardCount n) (hash : UInt32) :
    (shardIndex n hash).val = hash.toNat % n := by
  have positive := NeZero.pos n
  have range := count.range
  obtain ⟨k, rfl⟩ := (Nat.and_sub_one_eq_zero_iff_isPowerOfTwo positive.ne').mp count.power
  have masked : (shardIndex (2 ^ k) hash).val = hash.toNat &&& (2 ^ k - 1) % 2 ^ 32 := rfl
  rw [masked, Nat.mod_eq_of_lt (by omega), Nat.and_two_pow_sub_one_eq_mod]

/-- From any start the loop of `allocate` comes to every shard. -/
theorem exists_offset (count : ShardCount n) (start : UInt32) (i : Fin n) :
    ∃ offset : UInt32, offset < UInt32.ofNat n ∧ shardIndex n (start + offset) = i := by
  have positive := NeZero.pos n
  have range := count.range
  obtain ⟨k, power⟩ := (Nat.and_sub_one_eq_zero_iff_isPowerOfTwo positive.ne').mp count.power
  have divides : n ∣ 2 ^ 32 := by
    rw [power]
    apply pow_dvd_pow
    by_contra larger
    have grown := Nat.pow_le_pow_right (show 0 < 2 by decide) (show 31 ≤ k by omega)
    omega
  -- the distance from the first shard, going round
  obtain ⟨j, distance⟩ : ∃ j, j = (i.val + (n - start.toNat % n)) % n := ⟨_, rfl⟩
  have small : j < n := by
    rw [distance]
    exact Nat.mod_lt _ positive
  have word : (UInt32.ofNat j).toNat = j := by
    rw [UInt32.toNat_ofNat', Nat.mod_eq_of_lt (by omega)]
  refine ⟨UInt32.ofNat j, ?_, ?_⟩
  · rw [UInt32.lt_iff_toNat_lt, word, UInt32.toNat_ofNat', Nat.mod_eq_of_lt (by omega)]
    exact small
  · apply Fin.ext
    have around : start.toNat + (i.val + (n - start.toNat % n)) =
        i.val + n * (start.toNat / n + 1) := by
      have first := Nat.mod_lt start.toNat positive
      have whole := Nat.div_add_mod start.toNat n
      rw [Nat.mul_add]
      omega
    rw [shardIndex_val count, UInt32.toNat_add, Nat.mod_mod_of_dvd _ divides, word, distance,
      Nat.add_mod_mod, around, Nat.add_mul_mod_self_left, Nat.mod_eq_of_lt i.isLt]

/-! ## Steps -/

omit [NeZero n] in
theorem setShard_self (pool : ShardedChannelPool n) (i : Fin n) :
    pool.setShard i (pool.shards i) = pool := by
  rw [ShardedChannelPool.setShard, Function.update_eq_self]

/-- What a step can do. -/
inductive Step (source : ChannelCallers n Caller) :
    Op Caller × Reply → ChannelCallers n Caller → Prop
  | addChannel (desc : ChannelDescriptor) :
      Step source (.addChannel desc, .done) { source with pool := source.pool.addChannel desc }
  | release (desc : ChannelDescriptor) :
      Step source (.release desc, .flag (source.pool.release desc).2)
        { source with pool := (source.pool.release desc).1 }
  | allocate (caller : Caller) (type : ChannelType) (idle : source.probes caller = none) :
      Step source (.allocate caller type, .goesOn)
        ({ source with pool := (source.pool.beginAllocate type).1 }.setProbe caller
          (some (source.pool.beginAllocate type).2))
  | handOut (caller : Caller) (probe : Probe) (desc : ChannelDescriptor)
      (pending : source.probes caller = some probe)
      (last : ((source.pool.shards (probe.shard n)).freeByType probe.type).getLast? = some desc) :
      Step source (.round caller, .returned (some desc))
        ({ source with
            pool := source.pool.setShard (probe.shard n)
              ((source.pool.shards (probe.shard n)).allocate probe.type).1 }.setProbe caller none)
  | goOn (caller : Caller) (probe : Probe) (pending : source.probes caller = some probe)
      (empty : ((source.pool.shards (probe.shard n)).freeByType probe.type).getLast? = none)
      (more : probe.offset + 1 < UInt32.ofNat n) :
      Step source (.round caller, .goesOn)
        (source.setProbe caller (some { probe with offset := probe.offset + 1 }))
  | exhausted (caller : Caller) (probe : Probe) (pending : source.probes caller = some probe)
      (empty : ((source.pool.shards (probe.shard n)).freeByType probe.type).getLast? = none)
      (done : ¬ probe.offset + 1 < UInt32.ofNat n) :
      Step source (.round caller, .returned none) (source.setProbe caller none)

/-- What each step of the callers can do. -/
theorem step_cases (stepped : (machine n Caller).step source event = some target) :
    Step source event target := by
  obtain ⟨op, reply⟩ := event
  have call := Foundation.Machine.ofCalls_step.mp stepped
  cases op with
  | addChannel desc =>
      obtain ⟨rfl, rfl⟩ := Prod.mk.inj (Option.some.inj call)
      exact .addChannel desc
  | release desc =>
      obtain ⟨rfl, rfl⟩ := Prod.mk.inj (Option.some.inj call)
      exact .release desc
  | allocate caller type =>
      change (if (source.probes caller).isNone then _ else _) = _ at call
      split at call
      case isTrue idle =>
        obtain ⟨rfl, rfl⟩ := Prod.mk.inj (Option.some.inj call)
        exact .allocate caller type (Option.isNone_iff_eq_none.mp idle)
      case isFalse => cases call
  | round caller =>
      obtain ⟨probe, pending, finished⟩ := Option.map_eq_some_iff.mp call
      cases last : ((source.pool.shards (probe.shard n)).freeByType probe.type).getLast? with
      | some desc =>
          have round : source.pool.allocateRound probe = (source.pool.setShard (probe.shard n)
              ((source.pool.shards (probe.shard n)).allocate probe.type).1, .inr (some desc)) := by
            rw [ShardedChannelPool.allocateRound, ChannelPool.allocate_some last]
            rfl
          rw [round] at finished
          obtain ⟨rfl, rfl⟩ := Prod.mk.inj finished
          exact .handOut caller probe desc pending last
      | none =>
          have round : source.pool.allocateRound probe =
              if probe.offset + 1 < UInt32.ofNat n then
                (source.pool, .inl { probe with offset := probe.offset + 1 })
              else (source.pool, .inr none) := by
            rw [ShardedChannelPool.allocateRound, ChannelPool.allocate_none last]
            simp only [setShard_self]
            rfl
          rw [round] at finished
          split at finished
          case isTrue more =>
            obtain ⟨rfl, rfl⟩ := Prod.mk.inj finished
            exact .goOn caller probe pending last more
          case isFalse done =>
            obtain ⟨rfl, rfl⟩ := Prod.mk.inj finished
            exact .exhausted caller probe pending last done

/-! ## Calls that return nothing -/

/-- After some of the events `during` the shard has no free channel of the type. -/
def SeenEmpty (past during : List (Op Caller × Reply)) (type : ChannelType) (i : Fin n) : Prop :=
  ∃ (first rest : List (Op Caller × Reply)) (seen : ChannelCallers n Caller),
    during = first ++ rest ∧ (machine n Caller).Run (fun _ _ _ => True) {} (past ++ first) seen ∧
      (seen.pool.shards i).freeCount type = 0

variable {past during : List (Op Caller × Reply)} {caller : Caller} {type : ChannelType}
  {i : Fin n}

/-- Seen empty once is seen empty during the rest of the call. -/
theorem SeenEmpty.snoc (seen : SeenEmpty past during type i) (event : Op Caller × Reply) :
    SeenEmpty past (during ++ [event]) type i := by
  obtain ⟨first, rest, state, rfl, run, empty⟩ := seen
  exact ⟨first, rest ++ [event], state, List.append_assoc _ _ _, run, empty⟩

/-- A list that is empty now was seen empty during the call. -/
theorem seenEmpty_now (run : (machine n Caller).Run (fun _ _ _ => True) {} (past ++ during) state)
    (empty : ((state.pool.shards i).freeByType type).getLast? = none) :
    SeenEmpty past during type i := by
  refine ⟨during, [], state, (List.append_nil _).symm, run, ?_⟩
  rw [ChannelPool.freeCount, List.getLast?_eq_none_iff.mp empty]
  rfl

/-- While a call has not returned, it has seen the shards before its place empty. -/
theorem pending_of_run (count : ShardCount n)
    (run : (machine n Caller).Run (fun _ _ _ => True) {}
      (past ++ [(.allocate caller type, .goesOn)] ++ during) state)
    (unreturned : ∀ ch, (.round caller, .returned ch) ∉ during) :
    ∃ probe, state.probes caller = some probe ∧ probe.type = type ∧
      probe.offset < UInt32.ofNat n ∧ ∀ offset < probe.offset,
        SeenEmpty (past ++ [(.allocate caller type, .goesOn)]) during type
          (shardIndex n (probe.start + offset)) := by
  induction during using List.reverseRecOn generalizing state with
  | nil =>
      rw [List.append_nil] at run
      obtain ⟨source, -, stepped, -⟩ := run.last
      cases step_cases stepped with
      | allocate _ _ idle =>
          refine ⟨_, Function.update_self _ _ _, rfl, ?_, fun offset earlier => ?_⟩
          · have range := count.range
            have least := count.least
            rw [UInt32.lt_iff_toNat_lt, UInt32.toNat_ofNat', Nat.mod_eq_of_lt (by omega)]
            exact NeZero.pos n
          · exact absurd earlier (UInt32.not_lt_zero)
  | append_singleton during event ih =>
      rw [← List.append_assoc] at run
      obtain ⟨source, earlier, stepped, -⟩ := run.last
      obtain ⟨probe, pending, typed, inside, seen⟩ := ih earlier fun ch member =>
        unreturned ch (List.mem_append_left _ member)
      have apart (other : Caller) (ch : Option ChannelDescriptor)
          (returns : event = (.round other, .returned ch)) : caller ≠ other := by
        rintro rfl
        exact unreturned ch (List.mem_append_right _ (List.mem_singleton.mpr returns.symm))
      cases step_cases stepped with
      | addChannel desc => exact ⟨probe, pending, typed, inside, fun _ before => (seen _ before).snoc _⟩
      | release desc => exact ⟨probe, pending, typed, inside, fun _ before => (seen _ before).snoc _⟩
      | allocate other _ idle =>
          have different : caller ≠ other := by
            rintro rfl
            rw [idle] at pending
            cases pending
          exact ⟨probe, (Function.update_of_ne different _ _).trans pending, typed, inside,
            fun _ before => (seen _ before).snoc _⟩
      | handOut other _ desc =>
          exact ⟨probe, (Function.update_of_ne (apart other _ rfl) _ _).trans pending, typed, inside,
            fun _ before => (seen _ before).snoc _⟩
      | exhausted other =>
          exact ⟨probe, (Function.update_of_ne (apart other _ rfl) _ _).trans pending, typed, inside,
            fun _ before => (seen _ before).snoc _⟩
      | goOn other place holds empty more =>
          by_cases same : caller = other
          · subst same
            obtain rfl := Option.some.inj (pending.symm.trans holds)
            refine ⟨_, Function.update_self _ _ _, typed, more, fun offset before => ?_⟩
            by_cases now : offset = probe.offset
            · subst now
              rw [typed] at empty
              exact (seenEmpty_now earlier empty).snoc _
            · have different := mt UInt32.toNat_inj.mp now
              rw [UInt32.lt_iff_toNat_lt, UInt32.toNat_add] at before
              refine (seen offset ?_).snoc _
              rw [UInt32.lt_iff_toNat_lt]
              change _ < (_ + 1) % _ at before
              omega
          · exact ⟨probe, (Function.update_of_ne same _ _).trans pending, typed, inside,
              fun _ before => (seen _ before).snoc _⟩

/-- Before a call returns nothing, every shard was empty at some instant. -/
theorem seenEmpty_of_exhausted (count : ShardCount n)
    (run : (machine n Caller).Run (fun _ _ _ => True) {}
      (past ++ [(.allocate caller type, .goesOn)] ++ during ++ [(.round caller, .returned none)])
      state)
    (unreturned : ∀ ch, (.round caller, .returned ch) ∉ during) (i : Fin n) :
    SeenEmpty (past ++ [(.allocate caller type, .goesOn)]) during type i := by
  obtain ⟨source, earlier, stepped, -⟩ := run.last
  obtain ⟨probe, pending, typed, inside, seen⟩ := pending_of_run count earlier unreturned
  cases step_cases stepped with
  | exhausted _ place holds empty done =>
      obtain rfl := Option.some.inj (pending.symm.trans holds)
      obtain ⟨offset, within, rfl⟩ := exists_offset count probe.start i
      by_cases last : offset = probe.offset
      · subst last
        rw [typed] at empty
        exact seenEmpty_now earlier empty
      · apply seen
        have different := mt UInt32.toNat_inj.mp last
        have range := count.range
        have size : (UInt32.ofNat n).toNat = n := by
          rw [UInt32.toNat_ofNat', Nat.mod_eq_of_lt (by omega)]
        rw [UInt32.lt_iff_toNat_lt, size] at within inside done
        rw [UInt32.toNat_add] at done
        change ¬ (_ + 1) % _ < _ at done
        rw [UInt32.lt_iff_toNat_lt]
        omega

/-- The step makes a channel of the type free. -/
def Supplies (type : ChannelType) : Op Caller × Reply → Prop
  | (.addChannel desc, _) => desc.type = type
  | (.release desc, .flag true) => desc.type = type
  | _ => False

omit [NeZero n] in
/-- A shard that lost channels leaves no shard with more. -/
theorem freeCount_setShard {pool : ShardedChannelPool n} {j : Fin n} {shard : ChannelPool}
    (less : shard.freeCount type ≤ (pool.shards j).freeCount type) (i : Fin n) :
    ((pool.setShard j shard).shards i).freeCount type ≤ (pool.shards i).freeCount type := by
  change (Function.update pool.shards j shard i).freeCount type ≤ _
  by_cases same : i = j
  · subst same
    rwa [Function.update_self]
  · rw [Function.update_of_ne same]

/-- Adding a channel of another type leaves the count. -/
theorem freeCount_addChannel {pool : ChannelPool} {desc : ChannelDescriptor}
    (other : desc.type ≠ type) : (pool.addChannel desc).freeCount type = pool.freeCount type :=
  congrArg List.length (Function.update_of_ne other.symm _ _)

/-- Only the release of a channel of the type raises the count. -/
theorem freeCount_release {pool : ChannelPool} {desc : ChannelDescriptor}
    (other : (pool.release desc).2 = true → desc.type ≠ type) :
    (pool.release desc).1.freeCount type ≤ pool.freeCount type := by
  by_cases held : desc ∈ pool.allocatedByType desc.type
  · have apart := other (ChannelPool.release_ledger held).2
    rw [ChannelPool.release, if_pos held]
    exact (freeCount_addChannel apart).le
  · rw [ChannelPool.release_refused held]

/-- An allocation takes the last channel of the list. -/
theorem freeByType_allocate {pool : ChannelPool} {desc : ChannelDescriptor}
    (last : (pool.freeByType type).getLast? = some desc) : (pool.allocate type).1.freeByType =
      Function.update pool.freeByType type (pool.freeByType type).dropLast := by
  rw [ChannelPool.allocate_some last]
  rfl

/-- An allocation raises no count. -/
theorem freeCount_allocate {pool : ChannelPool} {other : ChannelType} {desc : ChannelDescriptor}
    (last : (pool.freeByType other).getLast? = some desc) :
    (pool.allocate other).1.freeCount type ≤ pool.freeCount type := by
  rw [ChannelPool.freeCount, ChannelPool.freeCount, freeByType_allocate last]
  by_cases same : type = other
  · rw [same, Function.update_self, List.length_dropLast]
    exact Nat.sub_le _ _
  · rw [Function.update_of_ne same]

/-- A step that makes no channel of the type free. -/
theorem freeCount_step (stepped : (machine n Caller).step source event = some target)
    (silent : ¬ Supplies type event) (i : Fin n) :
    (target.pool.shards i).freeCount type ≤ (source.pool.shards i).freeCount type := by
  cases step_cases stepped with
  | addChannel desc =>
      exact freeCount_setShard (freeCount_addChannel silent).le i
  | release desc =>
      refine freeCount_setShard (freeCount_release fun released same => silent ?_) i
      have flagged : (source.pool.release desc).2 = true := released
      rw [flagged]
      exact same
  | allocate caller _ idle => exact le_rfl
  | handOut caller probe desc pending last => exact freeCount_setShard (freeCount_allocate last) i
  | goOn => exact le_rfl
  | exhausted => exact le_rfl

/-- If no channel of the type became free during the call, none is left at its end. -/
theorem empty_of_exhausted (count : ShardCount n)
    (run : (machine n Caller).Run (fun _ _ _ => True) {}
      (past ++ [(.allocate caller type, .goesOn)] ++ during ++ [(.round caller, .returned none)])
      state)
    (unreturned : ∀ ch, (.round caller, .returned ch) ∉ during)
    (unsupplied : ∀ event ∈ during, ¬ Supplies type event) (i : Fin n) :
    (state.pool.shards i).freeCount type = 0 := by
  obtain ⟨first, rest, seen, rfl, reached, empty⟩ := seenEmpty_of_exhausted count run unreturned i
  rw [← List.append_assoc, List.append_assoc] at run
  refine run.stays reached (fun state => (state.pool.shards i).freeCount type = 0) empty ?_
  intro event member source target before stepped
  have silent : ¬ Supplies type event := by
    rcases List.mem_append.mp member with inner | final
    · exact unsupplied event (List.mem_append_right _ inner)
    · rw [List.mem_singleton.mp final]
      exact id
  exact Nat.le_zero.mp (before ▸ freeCount_step stepped silent i)

/-! ## Channels in the hands of callers -/

section Counts

variable (events : List (Op Caller × Reply)) (desc : ChannelDescriptor)

/-- How often an equal of the descriptor was added. -/
def adds : Nat :=
  events.count (.addChannel desc, .done)

/-- How often it was handed out. -/
def handouts : Nat :=
  events.countP fun event => event.2 = .returned (some desc)

/-- How often it was released. -/
def releases : Nat :=
  events.count (.release desc, .flag true)

end Counts

variable {events : List (Op Caller × Reply)} {desc other : ChannelDescriptor}

theorem adds_append (before after : List (Op Caller × Reply)) (desc : ChannelDescriptor) :
    adds (before ++ after) desc = adds before desc + adds after desc :=
  List.count_append

omit [DecidableEq Caller] in
theorem handouts_append (before after : List (Op Caller × Reply)) (desc : ChannelDescriptor) :
    handouts (before ++ after) desc = handouts before desc + handouts after desc :=
  List.countP_append

theorem releases_append (before after : List (Op Caller × Reply)) (desc : ChannelDescriptor) :
    releases (before ++ after) desc = releases before desc + releases after desc :=
  List.count_append

/-! ### Where free channels are -/

/-- A free channel is in the shard and in the list of its descriptor. -/
def Routed (pool : ShardedChannelPool n) : Prop :=
  ∀ (i : Fin n) (type : ChannelType) (desc : ChannelDescriptor),
    desc ∈ (pool.shards i).freeByType type → desc.type = type ∧ shardOf n desc = i

/-- A free channel was free before, or is the one added. -/
theorem mem_free_addChannel {pool : ChannelPool}
    (member : desc ∈ (pool.addChannel other).freeByType type) :
    desc ∈ pool.freeByType type ∨ desc = other ∧ other.type = type := by
  have updated : (pool.addChannel other).freeByType =
      Function.update pool.freeByType other.type (pool.freeByType other.type ++ [other]) := rfl
  rw [updated] at member
  by_cases same : type = other.type
  · rw [same, Function.update_self] at member
    rcases List.mem_append.mp member with old | new
    · left
      rwa [same]
    · exact .inr ⟨List.mem_singleton.mp new, same.symm⟩
  · rw [Function.update_of_ne same] at member
    exact .inl member

/-- A free channel was free before, or is the one released. -/
theorem mem_free_release {pool : ChannelPool}
    (member : desc ∈ (pool.release other).1.freeByType type) :
    desc ∈ pool.freeByType type ∨ desc = other ∧ other.type = type := by
  by_cases held : other ∈ pool.allocatedByType other.type
  · rw [ChannelPool.release, if_pos held] at member
    exact mem_free_addChannel member
  · rw [ChannelPool.release_refused held] at member
    exact .inl member

/-- An allocation frees nothing. -/
theorem mem_free_allocate {pool : ChannelPool} {taken : ChannelType}
    (last : (pool.freeByType taken).getLast? = some other)
    (member : desc ∈ (pool.allocate taken).1.freeByType type) : desc ∈ pool.freeByType type := by
  rw [freeByType_allocate last] at member
  by_cases same : type = taken
  · rw [same, Function.update_self] at member
    rw [same]
    exact List.mem_of_mem_dropLast member
  · rwa [Function.update_of_ne same] at member

/-- Every channel stays in the shard that its key names. -/
theorem Routed.setShard {pool : ShardedChannelPool n} {j : Fin n} {shard : ChannelPool}
    (routed : Routed pool)
    (own : ∀ type desc, desc ∈ shard.freeByType type →
      desc ∈ (pool.shards j).freeByType type ∨ desc.type = type ∧ shardOf n desc = j) :
    Routed (pool.setShard j shard) := by
  intro i type desc member
  have updated : (pool.setShard j shard).shards = Function.update pool.shards j shard := rfl
  rw [updated] at member
  by_cases same : i = j
  · subst same
    rw [Function.update_self] at member
    rcases own type desc member with old | new
    · exact routed i type desc old
    · exact new
  · rw [Function.update_of_ne same] at member
    exact routed i type desc member

/-- No step moves a channel to another shard. -/
theorem Routed.step (routed : Routed source.pool)
    (stepped : (machine n Caller).step source event = some target) : Routed target.pool := by
  cases step_cases stepped with
  | addChannel other =>
      apply Routed.setShard routed
      intro type desc member
      rcases mem_free_addChannel member with old | ⟨rfl, typed⟩
      · exact .inl old
      · exact .inr ⟨typed, rfl⟩
  | release other =>
      apply Routed.setShard routed
      intro type desc member
      rcases mem_free_release member with old | ⟨rfl, typed⟩
      · exact .inl old
      · exact .inr ⟨typed, rfl⟩
  | allocate => exact routed
  | handOut _ probe _ _ last =>
      exact Routed.setShard routed fun type desc member => .inl (mem_free_allocate last member)
  | goOn => exact routed
  | exhausted => exact routed

/-! ### Counts -/

theorem count_append_singleton (free : List ChannelDescriptor) (other desc : ChannelDescriptor) :
    (free ++ [other]).count desc = free.count desc + if other = desc then 1 else 0 := by
  rw [List.count_append, List.count_singleton]
  congr 1
  by_cases same : other = desc
  · rw [if_pos same, if_pos (beq_iff_eq.mpr same)]
  · rw [if_neg same, if_neg (mt beq_iff_eq.mp same)]

/-- The free channels of a pool equal to a descriptor. -/
def copies (pool : ChannelPool) (desc : ChannelDescriptor) : Nat :=
  (pool.freeByType desc.type).count desc

/-- Adding a channel makes one more copy of it. -/
theorem copies_addChannel (pool : ChannelPool) (other desc : ChannelDescriptor) :
    copies (pool.addChannel other) desc = copies pool desc + if other = desc then 1 else 0 := by
  have updated : (pool.addChannel other).freeByType =
      Function.update pool.freeByType other.type (pool.freeByType other.type ++ [other]) := rfl
  rw [copies, copies, updated]
  by_cases same : desc.type = other.type
  · rw [same, Function.update_self, count_append_singleton]
  · rw [Function.update_of_ne same, if_neg fun equal => same (by rw [equal]), Nat.add_zero]

/-- An allocation takes one copy away. -/
theorem copies_allocate {pool : ChannelPool} (own : other.type = type)
    (last : (pool.freeByType type).getLast? = some other) (desc : ChannelDescriptor) :
    copies (pool.allocate type).1 desc + (if other = desc then 1 else 0) = copies pool desc := by
  rw [copies, copies, freeByType_allocate last]
  by_cases same : desc.type = type
  · rw [same, Function.update_self, ← count_append_singleton,
      List.dropLast_append_getLast? other last]
  · rw [Function.update_of_ne same, if_neg fun equal => same (by rw [← own, equal]), Nat.add_zero]

/-- How the channels equal to a descriptor are counted along a run. -/
structure Tallied (events : List (Op Caller × Reply)) (state : ChannelCallers n Caller)
    (desc : ChannelDescriptor) : Prop where
  counted : copies (state.pool.shards (shardOf n desc)) desc + handouts events desc =
    releases events desc + adds events desc
  returned : releases events desc ≤ handouts events desc
  held : desc ∈ (state.pool.shards (shardOf n desc)).allocatedByType desc.type →
    releases events desc < handouts events desc

/-- The balance goes on when the event changes the copies by what it counts for. -/
theorem Tallied.extend (tallied : Tallied events source desc)
    (counted : copies (target.pool.shards (shardOf n desc)) desc + handouts [event] desc =
      copies (source.pool.shards (shardOf n desc)) desc + releases [event] desc + adds [event] desc)
    (returned : releases [event] desc = 0 ∨ releases [event] desc = 1 ∧
      desc ∈ (source.pool.shards (shardOf n desc)).allocatedByType desc.type ∧
      desc ∉ (target.pool.shards (shardOf n desc)).allocatedByType desc.type)
    (held : desc ∈ (target.pool.shards (shardOf n desc)).allocatedByType desc.type →
      desc ∈ (source.pool.shards (shardOf n desc)).allocatedByType desc.type ∨
        0 < handouts [event] desc) : Tallied (events ++ [event]) target desc := by
  have before := tallied.counted
  have less := tallied.returned
  refine ⟨?_, ?_, fun member => ?_⟩
  · rw [adds_append, handouts_append, releases_append]
    omega
  · rw [handouts_append, releases_append]
    rcases returned with none | ⟨one, was, -⟩
    · omega
    · have strict := tallied.held was
      omega
  · rw [handouts_append, releases_append]
    rcases returned with none | ⟨-, -, gone⟩
    · rcases held member with was | handed
      · have strict := tallied.held was
        omega
      · omega
    · exact absurd member gone

theorem Tallied.addChannel (tallied : Tallied events source desc) (other : ChannelDescriptor) :
    Tallied (events ++ [(.addChannel other, .done)])
      { source with pool := source.pool.addChannel other } desc := by
  have updated : (source.pool.addChannel other).shards = Function.update source.pool.shards
      (shardOf n other) ((source.pool.shards (shardOf n other)).addChannel other) := rfl
  have added : adds [((.addChannel other, .done) : Op Caller × Reply)] desc =
      if other = desc then 1 else 0 := by
    simp [adds, List.count_singleton]
  apply tallied.extend
  · change copies ((source.pool.addChannel other).shards _) desc + 0 = _ + 0 + _
    rw [added, updated, Nat.add_zero, Nat.add_zero]
    by_cases here : shardOf n desc = shardOf n other
    · rw [here, Function.update_self]
      exact copies_addChannel _ other desc
    · rw [Function.update_of_ne here, if_neg fun equal => here (by rw [equal])]
      rfl
  · exact .inl rfl
  · intro member
    left
    change desc ∈ ((source.pool.addChannel other).shards _).allocatedByType _ at member
    rw [updated] at member
    by_cases here : shardOf n desc = shardOf n other
    · rw [here, Function.update_self] at member
      rw [here]
      exact member
    · rwa [Function.update_of_ne here] at member

/-- A held channel leaves the allocated set. -/
theorem allocatedByType_release {pool : ChannelPool}
    (held : other ∈ pool.allocatedByType other.type) : (pool.release other).1.allocatedByType =
      Function.update pool.allocatedByType other.type
        ((pool.allocatedByType other.type).erase other) := by
  rw [ChannelPool.release, if_pos held]
  rfl

/-- What is still allocated was so before, and is not the channel released. -/
theorem mem_allocated_release {pool : ChannelPool} (held : other ∈ pool.allocatedByType other.type)
    (member : desc ∈ (pool.release other).1.allocatedByType desc.type) :
    desc ∈ pool.allocatedByType desc.type ∧ other ≠ desc := by
  rw [allocatedByType_release held] at member
  by_cases same : desc.type = other.type
  · rw [same, Function.update_self] at member
    obtain ⟨apart, old⟩ := Finset.mem_erase.mp member
    rw [same]
    exact ⟨old, apart.symm⟩
  · rw [Function.update_of_ne same] at member
    exact ⟨member, fun equal => same (by rw [equal])⟩

/-- A release makes one more copy. -/
theorem copies_release {pool : ChannelPool} (held : other ∈ pool.allocatedByType other.type)
    (desc : ChannelDescriptor) :
    copies (pool.release other).1 desc = copies pool desc + if other = desc then 1 else 0 := by
  rw [ChannelPool.release, if_pos held]
  exact copies_addChannel _ other desc

theorem releases_release (other desc : ChannelDescriptor) :
    releases [((.release other, .flag true) : Op Caller × Reply)] desc =
      if other = desc then 1 else 0 := by
  simp [releases, List.count_singleton]

theorem releases_refused (other desc : ChannelDescriptor) :
    releases [((.release other, .flag false) : Op Caller × Reply)] desc = 0 := by
  simp [releases]

/-- A release changes the shard of the channel only. -/
theorem shards_release (pool : ShardedChannelPool n) (other : ChannelDescriptor) :
    (pool.release other).1.shards = Function.update pool.shards (shardOf n other)
      ((pool.shards (shardOf n other)).release other).1 := rfl

/-- A release that is taken keeps the balance. -/
theorem Tallied.released (tallied : Tallied events source desc)
    (held : other ∈ (source.pool.shards (shardOf n other)).allocatedByType other.type) :
    Tallied (events ++ [(.release other, .flag true)])
      { source with pool := (source.pool.release other).1 } desc := by
  apply tallied.extend
  · change copies ((source.pool.release other).1.shards _) desc + 0 = _ + _ + 0
    rw [releases_release, shards_release, Nat.add_zero, Nat.add_zero]
    by_cases here : shardOf n desc = shardOf n other
    · rw [here, Function.update_self]
      exact copies_release held desc
    · rw [Function.update_of_ne here, if_neg fun equal => here (by rw [equal])]
      rfl
  · rw [releases_release, shards_release]
    by_cases same : other = desc
    · rw [same] at held
      refine .inr ⟨if_pos same, held, fun member => ?_⟩
      rw [same, Function.update_self] at member
      exact (mem_allocated_release held member).2 rfl
    · exact .inl (if_neg same)
  · intro member
    left
    rw [shards_release] at member
    by_cases here : shardOf n desc = shardOf n other
    · rw [here, Function.update_self] at member
      rw [here]
      exact (mem_allocated_release held member).1
    · rwa [Function.update_of_ne here] at member

/-- A release that is refused changes nothing. -/
theorem Tallied.refused (tallied : Tallied events source desc)
    (absent : other ∉ (source.pool.shards (shardOf n other)).allocatedByType other.type) :
    Tallied (events ++ [(.release other, .flag false)])
      { source with pool := (source.pool.release other).1 } desc := by
  have unchanged : (source.pool.release other).1.shards = source.pool.shards := by
    rw [shards_release, ChannelPool.release_refused absent, Function.update_eq_self]
  apply tallied.extend
  · change copies ((source.pool.release other).1.shards _) desc + 0 = _ + _ + 0
    rw [unchanged, releases_refused]
  · exact .inl (releases_refused other desc)
  · intro member
    rw [unchanged] at member
    exact .inl member

/-- What is allocated was so before, or is the channel handed out. -/
theorem mem_allocated_allocate {pool : ChannelPool}
    (last : (pool.freeByType type).getLast? = some other)
    (member : desc ∈ (pool.allocate type).1.allocatedByType desc.type) :
    desc ∈ pool.allocatedByType desc.type ∨ other = desc := by
  have updated : (pool.allocate type).1.allocatedByType = Function.update pool.allocatedByType
      other.type (insert other (pool.allocatedByType other.type)) := by
    rw [ChannelPool.allocate_some last]
    rfl
  rw [updated] at member
  by_cases same : desc.type = other.type
  · rw [same, Function.update_self] at member
    rw [same]
    exact (Finset.mem_insert.mp member).symm.imp_right Eq.symm
  · rw [Function.update_of_ne same] at member
    exact .inl member

omit [DecidableEq Caller] in
theorem handouts_handOut (caller : Caller) (other desc : ChannelDescriptor) :
    handouts [((.round caller, .returned (some other)) : Op Caller × Reply)] desc =
      if other = desc then 1 else 0 := by
  simp [handouts, List.countP_singleton]

/-- Handing a channel out keeps the balance. -/
theorem Tallied.handOut (tallied : Tallied events source desc) (routed : Routed source.pool)
    (caller : Caller) {probe : Probe}
    (last : ((source.pool.shards (probe.shard n)).freeByType probe.type).getLast? = some other) :
    Tallied (events ++ [(.round caller, .returned (some other))])
      ({ source with
          pool := source.pool.setShard (probe.shard n)
            ((source.pool.shards (probe.shard n)).allocate probe.type).1 }.setProbe caller none)
      desc := by
  obtain ⟨own, place⟩ := routed _ _ _ (List.mem_of_getLast? last)
  have updated : (source.pool.setShard (probe.shard n)
      ((source.pool.shards (probe.shard n)).allocate probe.type).1).shards =
        Function.update source.pool.shards (probe.shard n)
          ((source.pool.shards (probe.shard n)).allocate probe.type).1 := rfl
  apply tallied.extend
  · change copies ((source.pool.setShard _ _).shards _) desc + _ = _ + 0 + 0
    rw [handouts_handOut, updated, Nat.add_zero]
    by_cases here : shardOf n desc = probe.shard n
    · rw [here, Function.update_self]
      exact copies_allocate own last desc
    · rw [Function.update_of_ne here, if_neg fun equal => here (by rw [← place, equal])]
      rfl
  · exact .inl rfl
  · intro member
    change desc ∈ ((source.pool.setShard _ _).shards _).allocatedByType _ at member
    rw [updated] at member
    by_cases here : shardOf n desc = probe.shard n
    · rw [here, Function.update_self] at member
      rcases mem_allocated_allocate last member with old | same
      · left
        rwa [here]
      · right
        rw [handouts_handOut, if_pos same]
        exact Nat.one_pos
    · rw [Function.update_of_ne here] at member
      exact .inl member

/-- An event that counts for nothing and moves no channel keeps the balance. -/
theorem Tallied.unmoved (tallied : Tallied events source desc)
    (same : target.pool.shards = source.pool.shards) (handed : handouts [event] desc = 0)
    (released : releases [event] desc = 0) (added : adds [event] desc = 0) :
    Tallied (events ++ [event]) target desc := by
  apply tallied.extend
  · rw [same, handed, released, added]
  · exact .inl released
  · rw [same]
    exact .inl

/-- Every step keeps the balance. -/
theorem Tallied.step (tallied : Tallied events source desc) (routed : Routed source.pool)
    (stepped : (machine n Caller).step source event = some target) :
    Tallied (events ++ [event]) target desc := by
  cases step_cases stepped with
  | addChannel other => exact tallied.addChannel other
  | release other =>
      have replied : (source.pool.release other).2 =
          ((source.pool.shards (shardOf n other)).release other).2 := rfl
      by_cases held : other ∈ (source.pool.shards (shardOf n other)).allocatedByType other.type
      · rw [replied, (ChannelPool.release_ledger held).2]
        exact tallied.released held
      · have refused : (source.pool.release other).2 = false := by
          rw [replied, ChannelPool.release_refused held]
        rw [refused]
        exact tallied.refused held
  | allocate => exact tallied.unmoved rfl rfl rfl rfl
  | handOut caller _ _ _ last => exact tallied.handOut routed caller last
  | goOn => exact tallied.unmoved rfl rfl rfl rfl
  | exhausted => exact tallied.unmoved rfl rfl rfl rfl

omit [NeZero n] [DecidableEq Caller] in
theorem copies_empty (i : Fin n) (desc : ChannelDescriptor) :
    copies (({} : ChannelCallers n Caller).pool.shards i) desc = 0 :=
  List.count_nil

/-- The balance holds in every state of every run. -/
theorem tallied_of_run {allowed : ChannelCallers n Caller → Op Caller × Reply →
      ChannelCallers n Caller → Prop}
    (run : (machine n Caller).Run allowed {} events state) (desc : ChannelDescriptor) :
    Tallied events state desc := by
  have origin : Tallied ([] : List (Op Caller × Reply)) ({} : ChannelCallers n Caller) desc := by
    refine ⟨?_, le_rfl, fun member => absurd member (Finset.notMem_empty desc)⟩
    rw [copies_empty]
    rfl
  have kept := run.invariant (fun past state => Routed state.pool ∧ Tallied past state desc)
    ⟨fun _ _ _ member => absurd member List.not_mem_nil, origin⟩
    fun _ _ _ _ ⟨routed, tallied⟩ stepped _ =>
      ⟨routed.step stepped, tallied.step routed stepped⟩
  exact kept.2

/-- A channel that was added once was released before it is handed out again. -/
theorem released_between {first second : Caller} {before between : List (Op Caller × Reply)}
    (run : (machine n Caller).Run (fun _ _ _ => True) {}
      (before ++ [(.round first, .returned (some desc))] ++ between ++
        [(.round second, .returned (some desc))]) state)
    (single : adds (before ++ [(.round first, .returned (some desc))] ++ between) desc ≤ 1) :
    (.release desc, .flag true) ∈ between := by
  obtain ⟨later, upTo⟩ := run.through
  obtain ⟨handed, reached⟩ := upTo.through
  obtain ⟨earlier, start⟩ := reached.through
  have final := (tallied_of_run run desc).counted
  have middle := (tallied_of_run reached desc).counted
  have origin := (tallied_of_run start desc).returned
  have one (caller : Caller) :
      handouts [((.round caller, .returned (some desc)) : Op Caller × Reply)] desc = 1 := by
    rw [handouts_handOut, if_pos rfl]
  have none (caller : Caller) :
      releases [((.round caller, .returned (some desc)) : Op Caller × Reply)] desc = 0 ∧
        adds [((.round caller, .returned (some desc)) : Op Caller × Reply)] desc = 0 :=
    ⟨rfl, rfl⟩
  simp only [adds_append, handouts_append, releases_append, one, none] at final middle single
  apply List.count_pos_iff.mp
  change 0 < releases between desc
  omega

/-- What holds of the `allocate` calls in a history: a call that returned nothing found every
shard without a free channel of its type at some instant, and all of them at its end if none
became free meanwhile; a channel is with one caller at a time, equal ones counted separately. -/
structure Allocated (events : List (Op Caller × Reply)) (state : ChannelCallers n Caller) :
    Prop where
  seen : ∀ (past during : List (Op Caller × Reply)) (caller : Caller) (type : ChannelType),
    events = past ++ [(.allocate caller type, .goesOn)] ++ during ++
      [(.round caller, .returned none)] →
    (∀ ch, (.round caller, .returned ch) ∉ during) →
    ∀ i : Fin n, SeenEmpty (past ++ [(.allocate caller type, .goesOn)]) during type i
  empty : ∀ (past during : List (Op Caller × Reply)) (caller : Caller) (type : ChannelType),
    events = past ++ [(.allocate caller type, .goesOn)] ++ during ++
      [(.round caller, .returned none)] →
    (∀ ch, (.round caller, .returned ch) ∉ during) →
    (∀ event ∈ during, ¬ Supplies type event) →
    ∀ i : Fin n, (state.pool.shards i).freeCount type = 0
  counted : ∀ desc, releases events desc ≤ handouts events desc ∧
    handouts events desc ≤ releases events desc + adds events desc
  once : ∀ (before between : List (Op Caller × Reply)) (first second : Caller)
      (desc : ChannelDescriptor),
    events = before ++ [(.round first, .returned (some desc))] ++ between ++
      [(.round second, .returned (some desc))] →
    adds (before ++ [(.round first, .returned (some desc))] ++ between) desc ≤ 1 →
    (.release desc, .flag true) ∈ between

/-- Every interleaving of the calls on a sharded pool. -/
theorem allocated_of_run (count : ShardCount n)
    (run : (machine n Caller).Run (fun _ _ _ => True) {} events state) :
    Allocated events state where
  seen := by
    rintro past during caller type rfl unreturned
    exact seenEmpty_of_exhausted count run unreturned
  empty := by
    rintro past during caller type rfl unreturned unsupplied
    exact empty_of_exhausted count run unreturned unsupplied
  counted := by
    intro desc
    have tallied := tallied_of_run run desc
    have counted := tallied.counted
    exact ⟨tallied.returned, by omega⟩
  once := by
    rintro before between first second desc rfl single
    exact released_between run single

/-! ### A call that missed the free channels -/

/-- A channel of shard 0 of two. -/
private def firstShard : ChannelDescriptor :=
  { type := .tchfType, trxNumber := 1, timeslot := 0, arfcn := 100 }

/-- A channel of shard 1. -/
private def secondShard : ChannelDescriptor :=
  { type := .tchfType, trxNumber := 1, timeslot := 2, arfcn := 100 }

/-- A channel is handed out once, so that the next call starts at shard 1. -/
private def oneFree : List (Op Nat × Reply) :=
  [(.addChannel firstShard, .done), (.allocate 2 .tchfType, .goesOn),
    (.round 2, .returned (some firstShard)), (.release firstShard, .flag true),
    (.allocate 1 .tchfType, .goesOn)]

/-- Caller 1 finds shard 1 empty; before it comes to shard 0 a channel becomes free behind it
and the one before it is taken. -/
private def overtaken : List (Op Nat × Reply) :=
  [(.round 1, .goesOn), (.addChannel secondShard, .done), (.allocate 2 .tchfType, .goesOn),
    (.round 2, .returned (some firstShard)), (.round 1, .returned none)]

/-- The channels are accounted for in the run in which caller 1 is overtaken. -/
theorem allocated_overtaken :
    ∃ state : ChannelCallers 2 Nat,
      (machine 2 Nat).exec (fun _ _ _ => True) {} (oneFree ++ overtaken) = some state ∧
        Allocated (oneFree ++ overtaken) state := by
  obtain ⟨state, executed⟩ := Option.isSome_iff_exists.mp
    (show ((machine 2 Nat).exec (fun _ _ _ => True) {} (oneFree ++ overtaken)).isSome by
      decide)
  exact ⟨state, executed, allocated_of_run ⟨by decide, by decide, by decide⟩
    (.exec (oneFree ++ overtaken) .origin executed)⟩

/-- The call of caller 1 returns nothing, and some shard holds a free channel at every instant
from the call to the return. -/
theorem overtaken_returns_none :
    (.round 1, .returned none) ∈ overtaken ∧
      ∀ k ≤ overtaken.length, ∃ seen ∈ (machine 2 Nat).exec (fun _ _ _ => True) {}
        (oneFree ++ overtaken.take k), ∃ i, 0 < (seen.pool.shards i).freeCount .tchfType := by
  decide

end ChannelCallers

end Stack

end Gsml3
