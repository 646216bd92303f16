import Gsml3.Foundation.History
import Gsml3.Stack.IdentityIndex
import Gsml3.Stack.ShardedTimers

/-!
# Routing in a sharded registry

A TMSI is looked up in the shard that its hash selects.  The calls of the sharded registry create
sessions there, but the registry that `lockForTMSI` hands out allocates TMSIs on its own, and
creates sessions under any TMSI.  A session that is created so under a TMSI of another shard lives
on and is not found by its TMSI, and its removal is refused.
-/

namespace Gsml3

namespace Stack

open Foundation

/-! ## Sessions of one registry -/

namespace SubscriberRegistry

variable {hash : UInt32 → UInt64} {reg target : SubscriberRegistry} {ref : SessionRef}
  {map table : FlatMap UInt32 SubscriberSession} {tmsi : UInt32} {session : SubscriberSession}

/-- The TMSI of the session that a call creates in an entry. -/
def creation (ref : SessionRef) : Op × Reply → Option UInt32
  | (.createByTMSI _, .created (some (made, tmsi)))
  | (.createByIMSI _, .created (some (made, tmsi))) => if made = ref then some tmsi else none
  | _ => none

/-- The entries of a table were entries of an earlier one, under the same TMSIs. -/
def Kept (map table : FlatMap UInt32 SubscriberSession) : Prop :=
  ∀ ref tmsi session, table.pairAt ref = some (tmsi, session) →
    ∃ old, map.pairAt ref = some (tmsi, old)

theorem Kept.refl (map : FlatMap UInt32 SubscriberSession) : Kept map map :=
  fun _ _ session found => ⟨session, found⟩

theorem Kept.trans {last : FlatMap UInt32 SubscriberSession} (before : Kept map table)
    (after : Kept table last) : Kept map last := by
  intro ref tmsi session found
  obtain ⟨middle, held⟩ := after ref tmsi session found
  exact before ref tmsi middle held

theorem Revised.kept (revised : Revised map table) : Kept map table := by
  induction revised with
  | same => exact .refl map
  | change ref change keeps _ ih =>
      apply ih.trans
      intro other tmsi session found
      obtain ⟨old, held, -⟩ := FlatMap.pairAt_modifyAt.mp found
      exact ⟨old, held⟩

/-- No other call creates a session. -/
theorem OtherCall.kept (issued : Issued hash reg.byTMSI) (call : OtherCall hash reg target)
    (narrow : target.byTMSI.slots.length ≤ 2 ^ 32) : Kept reg.byTMSI target.byTMSI := by
  cases call with
  | revises revises => exact revises.table.kept
  | assigned ref desc lapdmLink run => exact (assignChannel_revised run).kept
  | released ref run => exact (releaseChannel_revised run).kept
  | removed ref found run =>
      obtain ⟨held, -, outcome⟩ := remove_cases run
      rcases outcome with ⟨-, -, -, rfl, -⟩ |
        ⟨released, byTMSI, flag, -, release_run, erase_run, rfl, -⟩
      · exact .refl _
      · have revised := releaseChannel_revised release_run
        have pairs := ((issued.revised revised).toValid.erase_pairs erase_run).2
        apply revised.kept.trans
        exact fun other tmsi session found => ⟨session, pairs other _ found⟩
  | cleared same =>
      subst same
      intro other tmsi session found
      cases (issued.toValid.clear.2.1 other).symm.trans found
  | reserved expectedSessions run =>
      obtain ⟨byTMSI, table_run, rest⟩ := Option.bind_eq_some_iff.mp run
      obtain ⟨byLink, -, rfl⟩ := Option.map_eq_some_iff.mp rest
      obtain ⟨-, pairs, -⟩ := issued.toValid.reserve table_run narrow
      intro other tmsi session found
      exact ⟨session, (pairs other).symm.trans found⟩

theorem nextFreeTmsi_nonzero {remaining : Nat} {tmsi next found last : UInt32}
    (run : nextFreeTmsi hash map remaining tmsi next = some (some found, last)) : found ≠ 0 := by
  have passed {tmsi : UInt32} (test : (if tmsi = 0 then some true
      else (FlatMap.find hash map tmsi).map Option.isSome) = some false) : tmsi ≠ 0 := by
    intro zero
    rw [if_pos zero] at test
    cases test
  induction remaining generalizing tmsi next with
  | zero =>
      obtain ⟨taken, test, rest⟩ := Option.bind_eq_some_iff.mp run
      cases taken with
      | true => cases rest
      | false =>
          obtain ⟨⟨rfl⟩, -⟩ := Prod.mk.inj (Option.some.inj rest)
          exact passed test
  | succ remaining ih =>
      obtain ⟨taken, test, rest⟩ := Option.bind_eq_some_iff.mp run
      cases taken with
      | true => exact ih rest
      | false =>
          obtain ⟨⟨rfl⟩, -⟩ := Prod.mk.inj (Option.some.inj rest)
          exact passed test

/-- A created session has a TMSI. -/
theorem createByTMSI_nonzero {key : UInt32}
    (run : createByTMSI hash reg key = some (target, some ref))
    (live : target.sessionAt ref = some session) : session.assignedTmsi ≠ 0 := by
  rw [createByTMSI] at run
  split at run
  case isTrue => cases run
  case isFalse nonzero =>
    obtain ⟨⟨byTMSI, idx, inserted⟩, -, result⟩ := Option.map_eq_some_iff.mp run
    cases inserted with
    | false => cases result
    | true =>
        obtain ⟨rfl, same⟩ := Prod.mk.inj result
        obtain rfl := Option.some.inj same
        rw [sessionAt, FlatMap.valueAt_modifyAt, FlatMap.setValue_self] at live
        obtain ⟨_, -, rfl⟩ := Option.map_eq_some_iff.mp live
        exact nonzero

theorem createByIMSI_nonzero {imsi : Imsi}
    (run : createByIMSI hash reg imsi = some (target, some ref))
    (live : target.sessionAt ref = some session) : session.assignedTmsi ≠ 0 := by
  rw [createByIMSI] at run
  split at run
  case isTrue => cases run
  case isFalse =>
    obtain ⟨⟨free, next⟩, scan, rest⟩ := Option.bind_eq_some_iff.mp run
    cases free with
    | none => cases rest
    | some tmsi =>
        obtain ⟨⟨byTMSI, idx, inserted⟩, -, result⟩ := Option.map_eq_some_iff.mp rest
        cases inserted with
        | false => cases result
        | true =>
            obtain ⟨rfl, same⟩ := Prod.mk.inj result
            obtain rfl := Option.some.inj same
            rw [sessionAt, FlatMap.valueAt_modifyAt, FlatMap.setValue_self] at live
            obtain ⟨_, -, rfl⟩ := Option.map_eq_some_iff.mp live
            exact nextFreeTmsi_nonzero scan

theorem Entering.live {identity : L3MobileIdentity}
    (entering : Entering hash reg target ref identity tmsi) :
    target.sessionAt ref = some (.created identity tmsi) := by
  rw [sessionAt, FlatMap.valueAt_eq, entering.pairs, FlatMap.Sound.setPair, if_pos rfl]
  rfl

/-- An entry of a new session, or one from before. -/
theorem Entering.origin {identity : L3MobileIdentity} {made : SessionRef} {key : UInt32}
    (entering : Entering hash reg target made identity key)
    (found : target.byTMSI.pairAt ref = some (tmsi, session)) :
    made = ref ∧ key = tmsi ∨
      made ≠ ref ∧ reg.byTMSI.pairAt ref = some (tmsi, session) := by
  rw [entering.pairs, FlatMap.Sound.setPair] at found
  by_cases same : ref = made
  · rw [if_pos same] at found
    exact .inl ⟨same.symm, (Prod.mk.inj (Option.some.inj found)).1⟩
  · rw [if_neg same] at found
    exact .inr ⟨Ne.symm same, found⟩

/-- A session is the one that the call created, or one from before in an entry that the call did
not create. -/
theorem exec_origin (issued : Issued hash reg.byTMSI) {op : Op} {reply : Reply}
    (run : exec hash reg op = some (target, reply))
    (narrow : target.byTMSI.slots.length ≤ 2 ^ 32)
    (found : target.byTMSI.pairAt ref = some (tmsi, session)) :
    (creation ref (op, reply) = some tmsi ∧ tmsi ≠ 0) ∨
      creation ref (op, reply) = none ∧ ∃ old, reg.byTMSI.pairAt ref = some (tmsi, old) := by
  cases op with
  | createByTMSI key =>
      obtain ⟨⟨made, created⟩, create_run, pair⟩ := Option.map_eq_some_iff.mp run
      obtain rfl : made = target := (Prod.mk.inj pair).1
      rcases createByTMSI_entering issued create_run narrow with
        ⟨rfl, byTMSI, -⟩ | ⟨place, rfl, entering, -⟩
      · obtain ⟨-, rfl⟩ := Prod.mk.inj pair
        exact .inr ⟨rfl, session, byTMSI ▸ found⟩
      · have nonzero := createByTMSI_nonzero create_run entering.live
        rw [entering.reply] at pair
        obtain ⟨-, rfl⟩ := Prod.mk.inj pair
        rcases entering.origin found with ⟨same, rfl⟩ | ⟨apart, held⟩
        · exact .inl ⟨if_pos same, nonzero⟩
        · exact .inr ⟨if_neg apart, session, held⟩
  | createByIMSI imsi =>
      obtain ⟨⟨made, created⟩, create_run, pair⟩ := Option.map_eq_some_iff.mp run
      obtain rfl : made = target := (Prod.mk.inj pair).1
      rcases createByIMSI_entering issued create_run narrow with
        ⟨rfl, byTMSI, -⟩ | ⟨place, key, rfl, entering, -, -⟩
      · obtain ⟨-, rfl⟩ := Prod.mk.inj pair
        exact .inr ⟨rfl, session, byTMSI ▸ found⟩
      · have nonzero := createByIMSI_nonzero create_run entering.live
        rw [entering.reply] at pair
        obtain ⟨-, rfl⟩ := Prod.mk.inj pair
        rcases entering.origin found with ⟨same, rfl⟩ | ⟨apart, held⟩
        · exact .inl ⟨if_pos same, nonzero⟩
        · exact .inr ⟨if_neg apart, session, held⟩
  | _ => exact .inr ⟨rfl, (exec_cases id run).kept issued narrow ref tmsi session found⟩

end SubscriberRegistry

/-! ## Sessions of the shards -/

namespace ShardedSubscriberRegistry

open SubscriberRegistry (Issued replyCreated)

variable {n : Nat} [NeZero n] {hash : UInt32 → UInt64} {reg target : ShardedSubscriberRegistry n}
  {ref : ShardedRef n} {tmsi : UInt32} {session : SubscriberSession}

/-- The TMSI of the session that a call creates in an entry of a shard. -/
def creation (ref : ShardedRef n) : Op n × Reply n → Option UInt32
  | (.createByTMSI tmsi, .found (some made)) => if made = ref then some tmsi else none
  | (.locked key op, .locked reply) =>
      if debugShardForTmsi n key = ref.1 then SubscriberRegistry.creation ref.2 (op, reply) else none
  | _ => none

/-- The last session of the entry was created under a TMSI of another shard. -/
def Strayed (events : List (Op n × Reply n)) (ref : ShardedRef n) : Prop :=
  ∃ tmsi, History.latest (creation ref) events = some tmsi ∧ debugShardForTmsi n tmsi ≠ ref.1

/-- The TMSI tables of the shards stay within the width of a slot index. -/
def NarrowStep (_ : ShardedSubscriberRegistry n) (_ : Op n × Reply n)
    (target : ShardedSubscriberRegistry n) : Prop :=
  ∀ i, (target.shards i).byTMSI.slots.length ≤ 2 ^ 32

instance (source : ShardedSubscriberRegistry n) (event : Op n × Reply n)
    (target : ShardedSubscriberRegistry n) : Decidable (NarrowStep source event target) :=
  inferInstanceAs (Decidable (∀ _, _))

/-- What a call does to one shard: a call on that shard, which creates the same sessions, or
nothing. -/
inductive OnShard (hash : UInt32 → UInt64) (reg target : ShardedSubscriberRegistry n)
    (event : Op n × Reply n) (i : Fin n) : Prop where
  | called (op : SubscriberRegistry.Op) (reply : SubscriberRegistry.Reply) :
      SubscriberRegistry.exec hash (reg.shards i) op = some (target.shards i, reply) →
      (∀ ref, creation (i, ref) event = SubscriberRegistry.creation ref (op, reply)) →
      OnShard hash reg target event i
  | left : target.shards i = reg.shards i → (∀ ref, creation (i, ref) event = none) →
      OnShard hash reg target event i

section Calls

variable {op : Op n} {reply : Reply n}

/-- A call that creates no session calls each shard at most once. -/
theorem OnShard.of_calls (run : exec hash reg op = some (target, reply))
    (silent : ∀ ref, creation ref (op, reply) = none)
    (other : ∀ i inner, Issues op i inner → ¬ SubscriberRegistry.Creates inner) (i : Fin n) :
    OnShard hash reg target (op, reply) i := by
  have called := exec_calls run i
  generalize shard_eq : target.shards i = shard at called
  cases called with
  | refl => exact .left shard_eq fun ref => silent (i, ref)
  | single step =>
      obtain ⟨inner, inner_reply, issues, inner_run⟩ := step
      subst shard_eq
      apply OnShard.called inner inner_reply inner_run
      intro ref
      rw [silent]
      cases inner with
      | createByTMSI | createByIMSI => exact absurd trivial (other i _ issues)
      | _ => rfl

theorem exec_onShard (issued : ∀ i, Issued hash (reg.shards i).byTMSI)
    (run : exec hash reg op = some (target, reply))
    (narrow : ∀ i, (target.shards i).byTMSI.slots.length ≤ 2 ^ 32) (i : Fin n) :
    OnShard hash reg target (op, reply) i := by
  cases op with
  | createByTMSI tmsi =>
      obtain ⟨⟨created, made⟩, create_run, pair⟩ := Option.map_eq_some_iff.mp run
      obtain ⟨rfl, rfl⟩ := Prod.mk.inj pair
      obtain ⟨⟨_, _⟩, on_shard, pair⟩ := Option.map_eq_some_iff.mp create_run
      obtain ⟨rfl, rfl⟩ := Prod.mk.inj pair
      obtain ⟨⟨shard, place⟩, inner, pair⟩ := Option.map_eq_some_iff.mp on_shard
      obtain ⟨rfl, rfl⟩ := Prod.mk.inj pair
      by_cases same : i = debugShardForTmsi n tmsi
      · subst same
        have small := narrow (debugShardForTmsi n tmsi)
        rw [setShard_self] at small
        apply OnShard.called (.createByTMSI tmsi) (replyCreated (shard, place)).2
        · rw [setShard_self]
          exact Option.map_eq_some_iff.mpr ⟨(shard, place), inner, rfl⟩
        · intro ref
          rcases SubscriberRegistry.createByTMSI_entering (issued _) inner small with
            ⟨rfl, -, -⟩ | ⟨entry, rfl, entering, -⟩
          · rfl
          · rw [entering.reply]
            change (if _ = _ then _ else _) = if _ = _ then _ else _
            simp only [Prod.mk.injEq, true_and]
      · apply OnShard.left (setShard_of_ne same shard)
        intro ref
        cases place with
        | none => rfl
        | some entry => exact if_neg fun whole => same (congrArg Prod.fst whole).symm
  | locked key op =>
      obtain ⟨⟨created, answer⟩, on_shard, pair⟩ := Option.map_eq_some_iff.mp run
      obtain ⟨rfl, rfl⟩ := Prod.mk.inj pair
      obtain ⟨⟨shard, answer⟩, inner, pair⟩ := Option.map_eq_some_iff.mp on_shard
      obtain ⟨rfl, rfl⟩ := Prod.mk.inj pair
      by_cases same : i = debugShardForTmsi n key
      · subst same
        apply OnShard.called op answer
        · rw [setShard_self]
          exact inner
        · exact fun ref => if_pos rfl
      · apply OnShard.left (setShard_of_ne same shard)
        exact fun ref => if_neg (Ne.symm same)
  | findByTMSI | findByIMSI | findByLink =>
      apply OnShard.of_calls run (fun ref => rfl)
      intro j inner issues
      cases issues
  | remove | reserve | tickAllTimers | tickAllProcedures =>
      apply OnShard.of_calls run (fun ref => rfl)
      intro j inner issues
      cases issues
      exact id

end Calls

/-! ## Runs -/

/-- Every session is under its TMSI, and under the TMSI that its entry was created with last. -/
structure Placed (hash : UInt32 → UInt64) (reg : ShardedSubscriberRegistry n)
    (events : List (Op n × Reply n)) : Prop where
  issued : ∀ i, Issued hash (reg.shards i).byTMSI
  created : ∀ i ref tmsi session, (reg.shards i).byTMSI.pairAt ref = some (tmsi, session) →
    tmsi ≠ 0 ∧ History.latest (creation (i, ref)) events = some tmsi

theorem placed_empty : Placed hash ({} : ShardedSubscriberRegistry n) [] where
  issued := fun _ => SubscriberRegistry.issued_empty
  created := fun _ _ _ _ found => by cases found

theorem Placed.step {past : List (Op n × Reply n)} (placed : Placed hash reg past) {op : Op n}
    {reply : Reply n} (run : exec hash reg op = some (target, reply))
    (narrow : ∀ i, (target.shards i).byTMSI.slots.length ≤ 2 ^ 32) :
    Placed hash target (past ++ [(op, reply)]) where
  issued := by
    intro i
    cases exec_onShard placed.issued run narrow i with
    | called inner _ inner_run _ =>
        exact (placed.issued i).step (SubscriberRegistry.exec_table inner_run) (narrow i)
    | left same _ => exact same ▸ placed.issued i
  created := by
    intro i ref tmsi session found
    rw [History.latest_snoc]
    cases exec_onShard placed.issued run narrow i with
    | called inner inner_reply inner_run created =>
        rw [created]
        rcases SubscriberRegistry.exec_origin (placed.issued i) inner_run (narrow i) found with
          ⟨made, nonzero⟩ | ⟨silent, old, held⟩
        · rw [made]
          exact ⟨nonzero, rfl⟩
        · rw [silent]
          exact placed.created i ref tmsi old held
    | left same silent =>
        rw [silent]
        exact placed.created i ref tmsi session (same ▸ found)

theorem placed_of_run {events : List (Op n × Reply n)}
    (run : (machine n hash).Run NarrowStep {} events reg) : Placed hash reg events := by
  apply run.invariant (fun past state => Placed hash state past) placed_empty
  intro past source target event placed stepped narrow
  exact placed.step (Machine.ofCalls_step.mp stepped) narrow

/-- A call that creates no session under a TMSI of another shard. -/
def Routes (event : Op n × Reply n) : Prop :=
  ∀ ref tmsi, creation ref event = some tmsi → debugShardForTmsi n tmsi = ref.1

/-- The session is found by its TMSI, and a removal of it is not refused. -/
structure Reached (hash : UInt32 → UInt64) (reg : ShardedSubscriberRegistry n) (ref : ShardedRef n)
    (session : SubscriberSession) : Prop where
  found : findByTMSI hash reg session.assignedTmsi = some (some ref)
  removed : ∀ target answer, remove hash reg ref = some (target, answer) → answer = true

/-- The lookup of its TMSI does not lead to the session, and a removal of it does nothing. -/
structure Lost (hash : UInt32 → UInt64) (reg : ShardedSubscriberRegistry n) (ref : ShardedRef n)
    (session : SubscriberSession) : Prop where
  missed : findByTMSI hash reg session.assignedTmsi ≠ some (some ref)
  refused : ∀ target answer, remove hash reg ref = some (target, answer) →
    answer = false ∧ target = reg

section Lookups

variable {events : List (Op n × Reply n)}

theorem Placed.entry (placed : Placed hash reg events) (live : reg.sessionAt ref = some session) :
    (reg.shards ref.1).byTMSI.pairAt ref.2 = some (session.assignedTmsi, session) ∧
      session.assignedTmsi ≠ 0 ∧
      History.latest (creation ref) events = some session.assignedTmsi := by
  rw [sessionAt, SubscriberRegistry.sessionAt, FlatMap.valueAt_eq] at live
  obtain ⟨⟨key, held⟩, found, rfl⟩ := Option.map_eq_some_iff.mp live
  obtain rfl := (placed.issued ref.1).own ref.2 key held found
  exact ⟨found, placed.created ref.1 ref.2 _ held found⟩

theorem Placed.reached (placed : Placed hash reg events) (live : reg.sessionAt ref = some session)
    (home : debugShardForTmsi n session.assignedTmsi = ref.1) : Reached hash reg ref session := by
  obtain ⟨entry, nonzero, -⟩ := placed.entry live
  have own := (placed.issued ref.1).toSound.find_present entry
  constructor
  · rw [findByTMSI, home]
    exact Option.map_eq_some_iff.mpr ⟨some ref.2, own, rfl⟩
  · intro target answer run
    rw [remove, live, Option.bind_some, if_neg nonzero, home] at run
    obtain ⟨⟨shard, removed⟩, inner, pair⟩ := Option.map_eq_some_iff.mp run
    obtain ⟨-, rfl⟩ := Prod.mk.inj pair
    dsimp only at inner
    rw [if_pos rfl] at inner
    obtain ⟨held, held_live, outcome⟩ := SubscriberRegistry.remove_cases inner
    obtain rfl : session = held := Option.some.inj (live.symm.trans held_live)
    rcases outcome with ⟨found, found_run, other, -, -⟩ | ⟨-, -, -, -, -, -, -, answered⟩
    · exact absurd (Option.some.inj (found_run.symm.trans own)) other
    · exact answered

theorem Placed.lost (placed : Placed hash reg events) (live : reg.sessionAt ref = some session)
    (away : debugShardForTmsi n session.assignedTmsi ≠ ref.1) : Lost hash reg ref session := by
  obtain ⟨-, nonzero, -⟩ := placed.entry live
  constructor
  · intro found
    obtain ⟨entry, -, whole⟩ := Option.map_eq_some_iff.mp found
    obtain ⟨place, -, pair⟩ := Option.map_eq_some_iff.mp whole
    exact away (congrArg Prod.fst pair)
  · intro target answer run
    rw [remove, live, Option.bind_some, if_neg nonzero] at run
    obtain ⟨⟨shard, removed⟩, inner, pair⟩ := Option.map_eq_some_iff.mp run
    obtain ⟨rfl, rfl⟩ := Prod.mk.inj pair
    dsimp only at inner
    rw [if_neg away] at inner
    obtain ⟨found, -, pair⟩ := Option.map_eq_some_iff.mp inner
    obtain ⟨rfl, rfl⟩ := Prod.mk.inj pair
    refine ⟨rfl, ?_⟩
    rw [setShard, Function.update_eq_self]

theorem Placed.strayed_iff (placed : Placed hash reg events)
    (live : reg.sessionAt ref = some session) :
    Strayed events ref ↔ debugShardForTmsi n session.assignedTmsi ≠ ref.1 := by
  obtain ⟨-, -, created⟩ := placed.entry live
  rw [Strayed, created]
  constructor
  · rintro ⟨tmsi, ⟨⟩, away⟩
    exact away
  · exact fun away => ⟨_, rfl, away⟩

theorem not_strayed (routes : ∀ event ∈ events, Routes event) (ref : ShardedRef n) :
    ¬ Strayed events ref := by
  rintro ⟨tmsi, made, away⟩
  obtain ⟨event, member, created⟩ := List.exists_of_findSome?_eq_some made
  exact away (routes event (List.mem_reverse.mp member) ref tmsi created)

end Lookups

/-- In every run a session is found by its TMSI, and may be removed, unless it was created under a
TMSI of another shard than the one that was locked; no two sessions that are found so share a
TMSI. -/
theorem sessions_reached {events : List (Op n × Reply n)}
    (run : (machine n hash).Run NarrowStep {} events reg) :
    (∀ ref session, reg.sessionAt ref = some session →
      (¬ Strayed events ref → Reached hash reg ref session) ∧
        (Strayed events ref → Lost hash reg ref session)) ∧
    (∀ one other first second, reg.sessionAt one = some first → reg.sessionAt other = some second →
      first.assignedTmsi = second.assignedTmsi → ¬ Strayed events one → ¬ Strayed events other →
        one = other) ∧
    ((∀ event ∈ events, Routes event) → ∀ ref, ¬ Strayed events ref) := by
  have placed := placed_of_run run
  refine ⟨fun ref session live => ⟨fun stays => ?_, fun strayed => ?_⟩, ?_, not_strayed⟩
  · apply placed.reached live
    by_contra away
    exact stays ((placed.strayed_iff live).mpr away)
  · exact placed.lost live ((placed.strayed_iff live).mp strayed)
  · intro one other first second live live' same stays stays'
    rw [placed.strayed_iff live, not_not] at stays
    rw [placed.strayed_iff live', not_not] at stays'
    have shard : one.1 = other.1 := by rw [← stays, ← stays', same]
    obtain ⟨entry, -⟩ := placed.entry live
    obtain ⟨entry', -⟩ := placed.entry live'
    rw [shard, same] at entry
    have place := (placed.issued other.1).toSound.distinct one.2 other.2 _ _ _ entry entry'
    exact Prod.ext shard place

/-- A session of the shard that TMSI 1 is routed to, created for an IMSI and so under TMSI 1, and
another one of that shard under TMSI 2. -/
private def locking : List (Op 4 × Reply 4) :=
  [(.locked 1 (.createByIMSI ['2']), .locked (.created (some (0, 1)))),
    (.locked 1 (.createByTMSI 2), .locked (.created (some (1, 2))))]

theorem sessions_reached_locking :
    ∃ reg one other, (machine 4 UInt32.toUInt64).exec NarrowStep {} locking = some reg ∧
      reg.sessionAt (debugShardForTmsi 4 1, 0) = some one ∧
      reg.sessionAt (debugShardForTmsi 4 1, 1) = some other ∧
      Reached UInt32.toUInt64 reg (debugShardForTmsi 4 1, 0) one ∧
      Lost UInt32.toUInt64 reg (debugShardForTmsi 4 1, 1) other := by
  obtain ⟨reg, executed⟩ := Option.isSome_iff_exists.mp (show
    ((machine 4 UInt32.toUInt64).exec NarrowStep {} locking).isSome by decide)
  have state : ∀ reg ∈ (machine 4 UInt32.toUInt64).exec NarrowStep {} locking,
      (reg.sessionAt (debugShardForTmsi 4 1, 0)).isSome ∧
        (reg.sessionAt (debugShardForTmsi 4 1, 1)).isSome := by
    decide
  obtain ⟨⟨one, live⟩, ⟨other, live'⟩⟩ := (state reg executed).imp
    Option.isSome_iff_exists.mp Option.isSome_iff_exists.mp
  have reached := (sessions_reached (.exec locking .origin executed)).1
  refine ⟨reg, one, other, executed, live, live', (reached _ one live).1 ?_,
    (reached _ other live').2 ⟨2, rfl, by decide⟩⟩
  rintro ⟨tmsi, made, away⟩
  obtain rfl : 1 = tmsi := Option.some.inj made
  exact away rfl

end ShardedSubscriberRegistry

end Stack

end Gsml3
