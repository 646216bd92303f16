import Gsml3.Stack.FlatMapTermination
import Gsml3.Stack.RegistryActive

/-!
# The TMSI table

Keys enter and leave the table with the creation and removal of sessions only.  Every other call
changes sessions in place, and none changes the TMSI that a session was created with, so in every
run a session is found under its own TMSI.
-/

namespace Gsml3

namespace Stack

namespace SubscriberRegistry

variable {hash : UInt32 → UInt64} {reg target : SubscriberRegistry} {ref : SessionRef}
variable {map table : FlatMap UInt32 SubscriberSession}

/-- The sessions were changed in place, and kept their TMSIs. -/
inductive Revised (map : FlatMap UInt32 SubscriberSession) :
    FlatMap UInt32 SubscriberSession → Prop where
  | same : Revised map map
  | change {table : FlatMap UInt32 SubscriberSession} (ref : SessionRef)
      (change : SubscriberSession → SubscriberSession)
      (keeps : ∀ session, (change session).assignedTmsi = session.assignedTmsi) :
      Revised map table → Revised map (table.modifyAt ref change)

/-- Revisions compose. -/
theorem Revised.trans {last : FlatMap UInt32 SubscriberSession} (before : Revised map table)
    (after : Revised table last) : Revised map last := by
  induction after with
  | same => exact before
  | change ref change keeps _ ih => exact ih.change ref change keeps

/-! ## Calls that change sessions -/

/-- The sessions were changed in place, and the link index was not. -/
structure Revises (reg target : SubscriberRegistry) : Prop where
  table : Revised reg.byTMSI target.byTMSI
  links : target.byLink = reg.byLink

theorem Revises.refl (reg : SubscriberRegistry) : Revises reg reg :=
  ⟨.same, rfl⟩

/-- Calls that revise the sessions compose. -/
theorem Revises.trans {middle : SubscriberRegistry} (before : Revises reg middle)
    (after : Revises middle target) : Revises reg target :=
  ⟨before.table.trans after.table, after.links.trans before.links⟩

/-- A change of a session that keeps its TMSI revises it. -/
theorem modifySession_revises (reg : SubscriberRegistry) (ref : SessionRef)
    {change : SubscriberSession → SubscriberSession}
    (keeps : ∀ session, (change session).assignedTmsi = session.assignedTmsi) :
    Revises reg (reg.modifySession ref change) :=
  ⟨.change ref change keeps .same, rfl⟩

/-- Storing timers revises the session. -/
theorem storeTimers_revises (reg : SubscriberRegistry) (ref : SessionRef) (timers : TimerManager)
    (notified : List Bool) : Revises reg (reg.storeTimers ref timers notified) := by
  have revises := @modifySession_revises reg ref (fun s => { s with timers := timers }) fun _ => rfl
  rw [storeTimers, foldl_handleTimerActive]
  exact ⟨revises.table, revises.links⟩

theorem storeProcedures_revises (reg : SubscriberRegistry) (ref : SessionRef)
    {change : SubscriberSession → SubscriberSession} (notified : List Bool)
    (keeps : ∀ session, (change session).assignedTmsi = session.assignedTmsi) :
    Revises reg (reg.storeProcedures ref change notified) := by
  have revises := modifySession_revises reg ref keeps
  rw [storeProcedures, foldl_handleProcedureActive]
  exact ⟨revises.table, revises.links⟩

/-- Storing procedures revises the session. -/
theorem storeRan_revises (reg : SubscriberRegistry) (ref : SessionRef) (ran : Ran) :
    Revises reg (reg.storeRan ref ran) :=
  storeProcedures_revises reg ref ran.notified fun _ => rfl

theorem cancelAll_revises (run : reg.cancelAll ref = some target) : Revises reg target := by
  obtain ⟨session, -, stored⟩ := Option.map_eq_some_iff.mp run
  generalize session.procedures.cancelAll = outcome at stored
  obtain ⟨runner, notified⟩ := outcome
  obtain rfl := stored
  exact @storeProcedures_revises reg ref (fun s => { s with procedures := runner }) notified
    fun _ => rfl

theorem startTimer_revises {id : L3TimerId} {expiry : Int}
    (run : reg.startTimer ref id expiry = some target) : Revises reg target := by
  obtain ⟨session, -, rfl⟩ := Option.map_eq_some_iff.mp run
  exact storeTimers_revises ..

/-- A loop whose turns revise the registry revises it. -/
theorem foldlM_revises {Ticked Item : Type} {turn : Ticked → Item → Option Ticked}
    (registry : Ticked → SubscriberRegistry)
    (each : ∀ ticked item after, turn ticked item = some after →
      Revises (registry ticked) (registry after)) {items : List Item}
    {ticked after : Ticked} (run : items.foldlM turn ticked = some after) :
    Revises (registry ticked) (registry after) := by
  induction items generalizing ticked with
  | nil =>
      obtain rfl := Option.some.inj run
      exact .refl _
  | cons item items ih =>
      rw [List.foldlM_cons] at run
      obtain ⟨middle, first, rest⟩ := Option.bind_eq_some_iff.mp run
      exact (each ticked item middle first).trans (ih rest)

theorem reportExpiry_revises {ticked after : SubscriberRegistry × Nat × List (SessionRef × L3TimerId)}
    {id : L3TimerId} (run : reportExpiry ref ticked id = some after) :
    Revises ticked.1 after.1 := by
  have noted := @modifySession_revises ticked.1 ref
    (fun s => { s with transactions := s.transactions.onTimerExpired id }) fun _ => rfl
  rw [reportExpiry] at run
  split at run
  case isTrue =>
    obtain rfl := Option.some.inj run
    exact noted
  case isFalse =>
    obtain ⟨started, start_run, rfl⟩ := Option.map_eq_some_iff.mp run
    exact noted.trans (startTimer_revises start_run)

theorem tickTimers_revises {delta : Int}
    {ticked after : SubscriberRegistry × Nat × List (SessionRef × L3TimerId)}
    (run : tickTimers delta ticked ref = some after) : Revises ticked.1 after.1 := by
  obtain ⟨session, -, rest⟩ := Option.bind_eq_some_iff.mp run
  have reported := foldlM_revises (fun ticked => ticked.1)
    (fun _ _ _ => reportExpiry_revises) rest
  exact (storeTimers_revises ..).trans reported

theorem tickProcedures_revises {delta : Int} {ticked after : SubscriberRegistry × Nat}
    (run : tickProcedures delta ticked ref = some after) : Revises ticked.1 after.1 := by
  obtain ⟨session, -, stored⟩ := Option.map_eq_some_iff.mp run
  generalize session.procedures.tickAll delta = outcome at stored
  obtain ⟨runner, failed, notified⟩ := outcome
  obtain rfl := stored
  exact @storeProcedures_revises ticked.1 ref (fun s => { s with procedures := runner }) notified
    fun _ => rfl

/-- An assignment revises sessions only. -/
theorem assignChannel_revised {desc : ChannelDescriptor} {lapdmLink : UInt8}
    (run : assignChannel hash reg ref desc lapdmLink = some target) :
    Revised reg.byTMSI target.byTMSI := by
  obtain ⟨session, byLink, -, -, linked⟩ := assignChannel_cases run
  obtain ⟨byLink', rfl⟩ := link_eq linked
  exact .change ref (·.occupy desc lapdmLink) (fun _ => rfl) .same

/-- A release revises sessions only. -/
theorem releaseChannel_revised (run : releaseChannel hash reg ref = some target) :
    Revised reg.byTMSI target.byTMSI := by
  obtain ⟨session, byLink, -, -, rfl⟩ := releaseChannel_cases run
  exact .change ref (·.vacate) (fun _ => rfl) .same

/-! ## Calls -/

/-- What a call does to the table. -/
inductive TableStep (hash : UInt32 → UInt64) (map : FlatMap UInt32 SubscriberSession) :
    FlatMap UInt32 SubscriberSession → Prop where
  | revised {target : FlatMap UInt32 SubscriberSession} :
      Revised map target → TableStep hash map target
  | created {table : FlatMap UInt32 SubscriberSession} {ref : SessionRef} {tmsi : UInt32}
      (identity : L3MobileIdentity)
      (run : FlatMap.emplace hash map tmsi {} = some (table, ref, true)) :
      TableStep hash map (table.modifyAt ref fun s =>
        { s with context.identity := identity, assignedTmsi := tmsi })
  | refused {table : FlatMap UInt32 SubscriberSession} {ref : SessionRef} {tmsi : UInt32}
      (run : FlatMap.emplace hash map tmsi {} = some (table, ref, false)) :
      TableStep hash map table
  | removed {middle target : FlatMap UInt32 SubscriberSession} {ref : SessionRef} {flag : Bool} :
      Revised map middle → FlatMap.erase hash middle ref = some (target, flag) →
      TableStep hash map target
  | cleared : TableStep hash map map.clear
  | reserved {target : FlatMap UInt32 SubscriberSession} {expectedSessions : Nat}
      (run : FlatMap.reserve hash map expectedSessions = some target) : TableStep hash map target

/-- A creation by TMSI inserts one entry at most. -/
theorem createByTMSI_table {tmsi : UInt32} {created : Option SessionRef}
    (run : createByTMSI hash reg tmsi = some (target, created)) :
    TableStep hash reg.byTMSI target.byTMSI := by
  rw [createByTMSI] at run
  split at run
  case isTrue =>
    obtain ⟨rfl, -⟩ := Prod.mk.inj (Option.some.inj run)
    exact .revised .same
  case isFalse =>
    obtain ⟨⟨byTMSI, idx, inserted⟩, emplace_run, result⟩ := Option.map_eq_some_iff.mp run
    cases inserted with
    | true =>
        obtain ⟨rfl, -⟩ := Prod.mk.inj result
        exact .created (.ofTMSI tmsi) emplace_run
    | false =>
        obtain ⟨rfl, -⟩ := Prod.mk.inj result
        exact .refused emplace_run

/-- A creation by IMSI inserts one entry at most. -/
theorem createByIMSI_table {imsi : Imsi} {created : Option SessionRef}
    (run : createByIMSI hash reg imsi = some (target, created)) :
    TableStep hash reg.byTMSI target.byTMSI := by
  rw [createByIMSI] at run
  split at run
  case isTrue =>
    obtain ⟨rfl, -⟩ := Prod.mk.inj (Option.some.inj run)
    exact .revised .same
  case isFalse =>
    obtain ⟨⟨free, next⟩, -, rest⟩ := Option.bind_eq_some_iff.mp run
    cases free with
    | none =>
        obtain ⟨rfl, -⟩ := Prod.mk.inj (Option.some.inj rest)
        exact .revised .same
    | some tmsi =>
        obtain ⟨⟨byTMSI, idx, inserted⟩, emplace_run, result⟩ := Option.map_eq_some_iff.mp rest
        cases inserted with
        | true =>
            obtain ⟨rfl, -⟩ := Prod.mk.inj result
            exact .created (.ofIMSI imsi) emplace_run
        | false =>
            obtain ⟨rfl, -⟩ := Prod.mk.inj result
            exact .refused emplace_run

/-- A removal erases one entry at most. -/
theorem remove_table {removed : Bool} (run : remove hash reg ref = some (target, removed)) :
    TableStep hash reg.byTMSI target.byTMSI := by
  obtain ⟨session, -, outcome⟩ := remove_cases run
  rcases outcome with ⟨-, -, -, rfl, -⟩ | ⟨released, byTMSI, flag, -, release_run, erase_run, rfl, -⟩
  · exact .revised .same
  · exact .removed (releaseChannel_revised release_run) erase_run

/-- The calls that create sessions. -/
def Creates : Op → Prop
  | .createByTMSI _ | .createByIMSI _ => True
  | _ => False

/-- What the other calls do. -/
inductive OtherCall (hash : UInt32 → UInt64) (reg target : SubscriberRegistry) : Prop where
  | revises : Revises reg target → OtherCall hash reg target
  | assigned (ref : SessionRef) (desc : ChannelDescriptor) (lapdmLink : UInt8) :
      assignChannel hash reg ref desc lapdmLink = some target → OtherCall hash reg target
  | released (ref : SessionRef) :
      releaseChannel hash reg ref = some target → OtherCall hash reg target
  | removed (ref : SessionRef) (found : Bool) :
      remove hash reg ref = some (target, found) → OtherCall hash reg target
  | cleared : target = reg.clear → OtherCall hash reg target
  | reserved (expectedSessions : Nat) :
      reserve hash reg expectedSessions = some target → OtherCall hash reg target

/-- A call that creates nothing is one of the others. -/
theorem exec_cases {op : Op} {reply : Reply} (other : ¬ Creates op)
    (run : exec hash reg op = some (target, reply)) : OtherCall hash reg target := by
  cases op with
  | createByTMSI | createByIMSI => exact absurd trivial other
  | assignChannel ref desc lapdmLink =>
      obtain ⟨assigned, assign_run, pair⟩ := Option.map_eq_some_iff.mp run
      obtain ⟨rfl, -⟩ := Prod.mk.inj pair
      exact .assigned ref desc lapdmLink assign_run
  | releaseChannel ref =>
      obtain ⟨released, release_run, pair⟩ := Option.map_eq_some_iff.mp run
      obtain ⟨rfl, -⟩ := Prod.mk.inj pair
      exact .released ref release_run
  | remove ref =>
      obtain ⟨removed, remove_run, pair⟩ := Option.map_eq_some_iff.mp run
      obtain ⟨rfl, -⟩ := Prod.mk.inj pair
      exact .removed ref _ remove_run
  | clear =>
      obtain ⟨rfl, -⟩ := Prod.mk.inj (Option.some.inj run)
      exact .cleared rfl
  | reserve expectedSessions =>
      obtain ⟨reserved, reserve_run, pair⟩ := Option.map_eq_some_iff.mp run
      obtain ⟨rfl, -⟩ := Prod.mk.inj pair
      exact .reserved expectedSessions reserve_run
  | startTimer ref id expiry =>
      obtain ⟨started, start_run, pair⟩ := Option.map_eq_some_iff.mp run
      obtain ⟨rfl, -⟩ := Prod.mk.inj pair
      exact .revises (startTimer_revises start_run)
  | stopTimer ref id =>
      obtain ⟨stopped, stop_run, pair⟩ := Option.map_eq_some_iff.mp run
      obtain ⟨rfl, -⟩ := Prod.mk.inj pair
      obtain ⟨session, -, rfl⟩ := Option.map_eq_some_iff.mp stop_run
      exact .revises (storeTimers_revises ..)
  | stopAllTimers ref =>
      obtain ⟨stopped, stop_run, pair⟩ := Option.map_eq_some_iff.mp run
      obtain ⟨rfl, -⟩ := Prod.mk.inj pair
      obtain ⟨session, -, rfl⟩ := Option.map_eq_some_iff.mp stop_run
      exact .revises (storeTimers_revises ..)
  | feed ref msg =>
      obtain ⟨fed, feed_run, pair⟩ := Option.map_eq_some_iff.mp run
      obtain ⟨rfl, -⟩ := Prod.mk.inj pair
      obtain ⟨session, -, rfl⟩ := Option.map_eq_some_iff.mp feed_run
      exact .revises (storeRan_revises ..)
  | feedExternalTyped ref type data =>
      obtain ⟨fed, feed_run, pair⟩ := Option.map_eq_some_iff.mp run
      obtain ⟨rfl, -⟩ := Prod.mk.inj pair
      obtain ⟨session, -, rfl⟩ := Option.map_eq_some_iff.mp feed_run
      exact .revises (storeRan_revises ..)
  | cancelAll ref =>
      obtain ⟨cancelled, cancel_run, pair⟩ := Option.map_eq_some_iff.mp run
      obtain ⟨rfl, -⟩ := Prod.mk.inj pair
      exact .revises (cancelAll_revises cancel_run)
  | tickAllTimers visited delta room =>
      rw [exec] at run
      split at run
      case isFalse => cases run
      case isTrue =>
        obtain ⟨⟨ticked, out⟩, tick_run, pair⟩ := Option.map_eq_some_iff.mp run
        obtain ⟨rfl, -⟩ := Prod.mk.inj pair
        obtain ⟨last, visit_run, pair⟩ := Option.map_eq_some_iff.mp tick_run
        obtain ⟨rfl, -⟩ := Prod.mk.inj pair
        exact .revises (foldlM_revises (fun ticked => ticked.1)
          (fun _ _ _ => tickTimers_revises) visit_run)
  | tickAllProcedures visited delta =>
      rw [exec] at run
      split at run
      case isFalse => cases run
      case isTrue =>
        obtain ⟨⟨ticked, failed⟩, tick_run, pair⟩ := Option.map_eq_some_iff.mp run
        obtain ⟨rfl, -⟩ := Prod.mk.inj pair
        exact .revises (foldlM_revises (fun ticked => ticked.1)
          (fun _ _ _ => tickProcedures_revises) tick_run)

theorem OtherCall.tableStep (call : OtherCall hash reg target) :
    TableStep hash reg.byTMSI target.byTMSI := by
  cases call with
  | revises revises => exact .revised revises.table
  | assigned ref desc lapdmLink run => exact .revised (assignChannel_revised run)
  | released ref run => exact .revised (releaseChannel_revised run)
  | removed ref found run => exact remove_table run
  | cleared same =>
      subst same
      exact .cleared
  | reserved expectedSessions run =>
      obtain ⟨byTMSI, table_run, rest⟩ := Option.bind_eq_some_iff.mp run
      obtain ⟨byLink, -, rfl⟩ := Option.map_eq_some_iff.mp rest
      exact .reserved table_run

/-- Every call is one step of the table. -/
theorem exec_table {op : Op} {reply : Reply} (run : exec hash reg op = some (target, reply)) :
    TableStep hash reg.byTMSI target.byTMSI := by
  cases op with
  | createByTMSI tmsi =>
      obtain ⟨created, create_run, pair⟩ := Option.map_eq_some_iff.mp run
      obtain ⟨rfl, -⟩ := Prod.mk.inj pair
      exact createByTMSI_table create_run
  | createByIMSI imsi =>
      obtain ⟨created, create_run, pair⟩ := Option.map_eq_some_iff.mp run
      obtain ⟨rfl, -⟩ := Prod.mk.inj pair
      exact createByIMSI_table create_run
  | _ => exact (exec_cases id run).tableStep

/-! ## Runs -/

/-- The table is valid and holds every session under its TMSI. -/
structure Issued (hash : UInt32 → UInt64) (map : FlatMap UInt32 SubscriberSession) : Prop extends
    FlatMap.Valid hash map where
  own : ∀ ref key session, map.pairAt ref = some (key, session) → session.assignedTmsi = key

theorem issued_empty : Issued hash {} where
  toValid := FlatMap.valid_empty
  own := fun _ _ _ found => by cases found

namespace Issued

/-- Changing a session keeps the TMSIs issued. -/
theorem modifyAt (issued : Issued hash map) (ref : SessionRef)
    {change : SubscriberSession → SubscriberSession}
    (keeps : ∀ session, (change session).assignedTmsi = session.assignedTmsi) :
    Issued hash (map.modifyAt ref change) := by
  refine ⟨issued.toValid.modifyAt ref change, fun other key session found => ?_⟩
  obtain ⟨old, held, rfl⟩ := FlatMap.pairAt_modifyAt.mp found
  have own := issued.own other key old held
  split
  · exact (keeps old).trans own
  · exact own

/-- A revision keeps the TMSIs issued. -/
theorem revised (issued : Issued hash map) (revised : Revised map table) : Issued hash table := by
  induction revised with
  | same => exact issued
  | change ref change keeps _ ih => exact ih.modifyAt ref keeps

/-- A refused key is one that the table holds. -/
theorem refused (issued : Issued hash map) {tmsi : UInt32}
    (run : FlatMap.emplace hash map tmsi {} = some (table, ref, false))
    (narrow : table.slots.length ≤ 2 ^ 32) : table = map := by
  rcases FlatMap.absent_or_present map tmsi with absent | ⟨idx, old, found⟩
  · cases (issued.toValid.emplace_absent absent run narrow).1
  · rw [issued.toValid.emplace_present found] at run
    exact (Prod.mk.inj (Option.some.inj run)).1.symm

/-- An accepted key is new. -/
theorem inserted (issued : Issued hash map) {tmsi : UInt32}
    (run : FlatMap.emplace hash map tmsi {} = some (table, ref, true))
    (narrow : table.slots.length ≤ 2 ^ 32) :
    FlatMap.Absent map tmsi ∧ FlatMap.Valid.Emplaced hash map table ref tmsi {} := by
  rcases FlatMap.absent_or_present map tmsi with absent | ⟨idx, old, found⟩
  · exact ⟨absent, (issued.toValid.emplace_absent absent run narrow).2⟩
  · rw [issued.toValid.emplace_present found] at run
    cases (Prod.mk.inj (Prod.mk.inj (Option.some.inj run)).2).2

/-- A new session is entered under its key. -/
theorem created_pairs {tmsi : UInt32}
    (emplaced : FlatMap.Valid.Emplaced hash map table ref tmsi {})
    (identity : L3MobileIdentity) (other : SessionRef) :
    (table.modifyAt ref fun s =>
        { s with context.identity := identity, assignedTmsi := tmsi }).pairAt other =
      FlatMap.Sound.setPair map.pairAt ref
        (some (tmsi, SubscriberSession.created identity tmsi)) other := by
  rw [FlatMap.pairAt_modifyAt_eq, emplaced.pairs, FlatMap.Sound.setPair, FlatMap.Sound.setPair]
  by_cases own : other = ref
  · rw [if_pos own, if_pos own, Option.map_some, if_pos own]
    rfl
  · simp only [if_neg own]
    exact Option.map_id_apply

/-- A new key is bound to the new session. -/
theorem created (issued : Issued hash map) {tmsi : UInt32} (identity : L3MobileIdentity)
    (run : FlatMap.emplace hash map tmsi {} = some (table, ref, true))
    (narrow : table.slots.length ≤ 2 ^ 32) :
    Issued hash (table.modifyAt ref fun s =>
      { s with context.identity := identity, assignedTmsi := tmsi }) := by
  obtain ⟨-, emplaced⟩ := issued.inserted run narrow
  refine ⟨emplaced.valid.modifyAt ref _, fun other key session found => ?_⟩
  rw [created_pairs emplaced, FlatMap.Sound.setPair] at found
  split at found
  case isTrue =>
    obtain ⟨rfl, rfl⟩ := Prod.mk.inj (Option.some.inj found)
    rfl
  case isFalse => exact issued.own other key session found

/-- An erased entry keeps the TMSIs issued. -/
theorem erase (issued : Issued hash map) {flag : Bool}
    (run : FlatMap.erase hash map ref = some (table, flag)) : Issued hash table := by
  obtain ⟨valid, pairs⟩ := issued.toValid.erase_pairs run
  exact ⟨valid, fun other key session held => issued.own other key session (pairs other _ held)⟩

/-- Every step of the table keeps the TMSIs issued. -/
theorem step (issued : Issued hash map) (step : TableStep hash map table)
    (narrow : table.slots.length ≤ 2 ^ 32) : Issued hash table := by
  cases step with
  | revised revised => exact issued.revised revised
  | created identity run => exact issued.created identity run narrow
  | refused run =>
      rw [issued.refused run narrow]
      exact issued
  | removed revised run => exact (issued.revised revised).erase run
  | cleared =>
      obtain ⟨valid, pairs, -⟩ := issued.toValid.clear
      exact ⟨valid, fun other _ _ found => by cases (pairs other).symm.trans found⟩
  | reserved run =>
      obtain ⟨valid, pairs, -⟩ := issued.toValid.reserve run narrow
      refine ⟨valid, fun other key session found => ?_⟩
      rw [pairs] at found
      exact issued.own other key session found

end Issued

/-- The TMSI table stays within the width of a slot index. -/
def NarrowStep (_ : SubscriberRegistry) (_ : Op × Reply) (target : SubscriberRegistry) : Prop :=
  target.byTMSI.slots.length ≤ 2 ^ 32

instance (source : SubscriberRegistry) (event : Op × Reply) (target : SubscriberRegistry) :
    Decidable (NarrowStep source event target) :=
  inferInstanceAs (Decidable (_ ≤ _))

/-- The TMSIs are those issued in every state of every narrow run. -/
theorem issued_of_run {events : List (Op × Reply)}
    (run : (machine hash).Run NarrowStep {} events reg) :
    Issued hash reg.byTMSI ∧ reg.byTMSI.slots.length ≤ 2 ^ 32 := by
  refine run.invariant (fun _ state => Issued hash state.byTMSI ∧
    state.byTMSI.slots.length ≤ 2 ^ 32) ⟨issued_empty, Nat.zero_le _⟩ ?_
  intro past source target event ⟨issued, _⟩ stepped narrow
  exact ⟨issued.step (exec_table (step_eq_some.mp stepped)) narrow, narrow⟩

end SubscriberRegistry

end Stack

end Gsml3
