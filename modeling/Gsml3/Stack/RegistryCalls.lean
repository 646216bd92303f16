import Gsml3.Stack.FlatMapEntries
import Gsml3.Stack.SubscriberRegistry

/-!
# Calls on the subscriber registry

What each call does to the sessions and to the indexes it does not own: the
invariants of the link index, of the identity indexes and of the active sets
are all derived from these cases.
-/

namespace Gsml3

namespace Stack

namespace SubscriberSession

/-- A session as its creation leaves it. -/
def created (identity : L3MobileIdentity) (tmsi : UInt32) : SubscriberSession :=
  { context := { identity := identity }, assignedTmsi := tmsi }

/-- A session that was assigned a channel. -/
def occupy (session : SubscriberSession) (desc : ChannelDescriptor) (lapdmLink : UInt8) :
    SubscriberSession :=
  { session with
    channel := some desc
    lapdmLink := lapdmLink
    context := session.context.assignChannel desc.type desc.trxNumber desc.timeslot desc.arfcn }

/-- A session whose channel was released. -/
def vacate (session : SubscriberSession) : SubscriberSession :=
  { session with channel := none, context := session.context.releaseChannel }

end SubscriberSession

namespace SubscriberRegistry

open FlatMap (setValue)

variable {hash : UInt32 → UInt64} {reg target : SubscriberRegistry} {ref : SessionRef}

theorem sessionAt_modifySession (reg : SubscriberRegistry) (ref : SessionRef)
    (change : SubscriberSession → SubscriberSession) (other : SessionRef) :
    (reg.modifySession ref change).sessionAt other =
      setValue reg.sessionAt ref ((reg.sessionAt ref).map change) other :=
  FlatMap.valueAt_modifyAt reg.byTMSI ref change other

/-- The active sets of two registries are the same. -/
structure SameActive (reg target : SubscriberRegistry) : Prop where
  timers : target.activeTimerSessions = reg.activeTimerSessions
  procedures : target.activeProcedureSessions = reg.activeProcedureSessions

/-- `target` is `reg` with entry `ref` set to `session`. -/
structure Stored (reg target : SubscriberRegistry) (ref : SessionRef)
    (session : Option SubscriberSession) : Prop where
  recycled : target.byTMSI.Recycled
  sessions : ∀ other, target.sessionAt other = setValue reg.sessionAt ref session other

namespace Stored

variable {session : Option SubscriberSession}

theorem self (stored : Stored reg target ref session) : target.sessionAt ref = session := by
  rw [stored.sessions, FlatMap.setValue_self]

theorem of_ne (stored : Stored reg target ref session) {other : SessionRef}
    (apart : other ≠ ref) : target.sessionAt other = reg.sessionAt other := by
  rw [stored.sessions, FlatMap.setValue_of_ne apart]

end Stored

theorem modifySession_stored (recycled : reg.byTMSI.Recycled) {session : SubscriberSession}
    (live : reg.sessionAt ref = some session)
    (change : SubscriberSession → SubscriberSession) :
    Stored reg (reg.modifySession ref change) ref (some (change session)) where
  recycled := recycled.modifyAt ref change
  sessions := fun other => by rw [sessionAt_modifySession, live, Option.map_some]

/-! ## The link index -/

/-- Work on the link index leaves the rest of the registry as it is. -/
theorem unlink_eq {key : UInt32} (run : unlink hash reg key = some target) :
    ∃ byLink, target = { reg with byLink := byLink } := by
  obtain ⟨found, -, rest⟩ := Option.bind_eq_some_iff.mp run
  cases found with
  | none => exact ⟨reg.byLink, (Option.some.inj rest).symm⟩
  | some idx =>
      obtain ⟨erased, -, rfl⟩ := Option.map_eq_some_iff.mp rest
      exact ⟨_, rfl⟩

theorem link_eq {key : UInt32} (run : link hash reg key ref = some target) :
    ∃ byLink, target = { reg with byLink := byLink } := by
  obtain ⟨found, -, rest⟩ := Option.bind_eq_some_iff.mp run
  cases found with
  | none =>
      obtain ⟨emplaced, -, rfl⟩ := Option.map_eq_some_iff.mp rest
      exact ⟨_, rfl⟩
  | some idx =>
      obtain rfl := Option.some.inj rest
      exact ⟨_, rfl⟩

theorem unlinkHeld_eq {session : SubscriberSession}
    (run : unlinkHeld hash reg session = some target) :
    ∃ byLink, target = { reg with byLink := byLink } := by
  rw [unlinkHeld] at run
  split at run
  case isTrue => exact unlink_eq run
  case isFalse => exact ⟨reg.byLink, (Option.some.inj run).symm⟩

/-! ## Channels -/

/-- An assignment: the link of the old channel goes, the session occupies the
new one, and its key leads to the session. -/
theorem assignChannel_cases {desc : ChannelDescriptor} {lapdmLink : UInt8}
    (run : assignChannel hash reg ref desc lapdmLink = some target) :
    ∃ session byLink, reg.sessionAt ref = some session ∧
      unlinkHeld hash reg session = some { reg with byLink := byLink } ∧
      link hash { reg.modifySession ref (·.occupy desc lapdmLink) with byLink := byLink }
        (encodeLinkKey desc.trxNumber desc.timeslot lapdmLink) ref = some target := by
  obtain ⟨session, live, rest⟩ := Option.bind_eq_some_iff.mp run
  obtain ⟨unlinked, unlink_run, link_run⟩ := Option.bind_eq_some_iff.mp rest
  obtain ⟨byLink, rfl⟩ := unlinkHeld_eq unlink_run
  exact ⟨session, byLink, live, unlink_run, link_run⟩

theorem assignChannel_stored (recycled : reg.byTMSI.Recycled) {desc : ChannelDescriptor}
    {lapdmLink : UInt8} (run : assignChannel hash reg ref desc lapdmLink = some target) :
    SameActive reg target ∧ ∃ session, reg.sessionAt ref = some session ∧
      Stored reg target ref (some (session.occupy desc lapdmLink)) := by
  obtain ⟨session, byLink, live, -, linked⟩ := assignChannel_cases run
  obtain ⟨byLink', rfl⟩ := link_eq linked
  have stored := modifySession_stored recycled live (·.occupy desc lapdmLink)
  exact ⟨⟨rfl, rfl⟩, session, live, stored.recycled, stored.sessions⟩

/-- A release: the link of the channel goes and the session vacates it. -/
theorem releaseChannel_cases (run : releaseChannel hash reg ref = some target) :
    ∃ session byLink, reg.sessionAt ref = some session ∧
      unlinkHeld hash reg session = some { reg with byLink := byLink } ∧
      target = { reg.modifySession ref (·.vacate) with byLink := byLink } := by
  obtain ⟨session, live, rest⟩ := Option.bind_eq_some_iff.mp run
  obtain ⟨unlinked, unlink_run, rfl⟩ := Option.map_eq_some_iff.mp rest
  obtain ⟨byLink, rfl⟩ := unlinkHeld_eq unlink_run
  exact ⟨session, byLink, live, unlink_run, rfl⟩

theorem releaseChannel_stored (recycled : reg.byTMSI.Recycled)
    (run : releaseChannel hash reg ref = some target) :
    SameActive reg target ∧ ∃ session, reg.sessionAt ref = some session ∧
      Stored reg target ref (some session.vacate) := by
  obtain ⟨session, byLink, live, -, rfl⟩ := releaseChannel_cases run
  have stored := modifySession_stored recycled live (·.vacate)
  exact ⟨⟨rfl, rfl⟩, session, live, stored.recycled, stored.sessions⟩

/-! ## Removal -/

/-- The registry after the removal of a session, but for its entry. -/
def detached (reg : SubscriberRegistry) (session : SubscriberSession) (ref : SessionRef) :
    SubscriberRegistry :=
  ((reg.forgetIdentity session).handleTimerActive ref false).handleProcedureActive ref false

@[simp] theorem detached_byTMSI (reg : SubscriberRegistry) (session : SubscriberSession)
    (ref : SessionRef) : (reg.detached session ref).byTMSI = reg.byTMSI := by
  rw [detached, handleProcedureActive, handleTimerActive, forgetIdentity]
  split <;> rfl

@[simp] theorem detached_byLink (reg : SubscriberRegistry) (session : SubscriberSession)
    (ref : SessionRef) : (reg.detached session ref).byLink = reg.byLink := by
  rw [detached, handleProcedureActive, handleTimerActive, forgetIdentity]
  split <;> rfl

@[simp] theorem detached_byIMSI (reg : SubscriberRegistry) (session : SubscriberSession)
    (ref : SessionRef) :
    (reg.detached session ref).byIMSI = (reg.forgetIdentity session).byIMSI := rfl

@[simp] theorem detached_activeTimerSessions (reg : SubscriberRegistry)
    (session : SubscriberSession) (ref : SessionRef) :
    (reg.detached session ref).activeTimerSessions = reg.activeTimerSessions.erase ref := by
  rw [detached, handleProcedureActive, handleTimerActive, forgetIdentity]
  split <;> rfl

@[simp] theorem detached_activeProcedureSessions (reg : SubscriberRegistry)
    (session : SubscriberSession) (ref : SessionRef) :
    (reg.detached session ref).activeProcedureSessions =
      reg.activeProcedureSessions.erase ref := by
  rw [detached, handleProcedureActive, handleTimerActive, forgetIdentity]
  split <;> rfl

/-- A removal finds another session under the key of the session and does
nothing, or it releases the channel, forgets the indexes and erases the
entry. -/
theorem remove_cases {removed : Bool} (run : remove hash reg ref = some (target, removed)) :
    ∃ session, reg.sessionAt ref = some session ∧
      ((∃ found, FlatMap.find hash reg.byTMSI session.assignedTmsi = some found ∧
          found ≠ some ref ∧ target = reg ∧ removed = false) ∨
        ∃ released byTMSI flag,
          FlatMap.find hash reg.byTMSI session.assignedTmsi = some (some ref) ∧
          releaseChannel hash reg ref = some released ∧
          FlatMap.erase hash released.byTMSI ref = some (byTMSI, flag) ∧
          target = { released.detached session ref with
            byTMSI := byTMSI
            count := (released.detached session ref).count - 1 } ∧ removed = true) := by
  obtain ⟨session, live, rest⟩ := Option.bind_eq_some_iff.mp run
  obtain ⟨found, find_run, rest⟩ := Option.bind_eq_some_iff.mp rest
  refine ⟨session, live, ?_⟩
  split at rest
  case isFalse other =>
    obtain ⟨rfl, rfl⟩ := Prod.mk.inj (Option.some.inj rest)
    exact .inl ⟨found, find_run, other, rfl, rfl⟩
  case isTrue own =>
    obtain ⟨released, release_run, rest⟩ := Option.bind_eq_some_iff.mp rest
    obtain ⟨⟨byTMSI, flag⟩, erase_run, pair⟩ := Option.map_eq_some_iff.mp rest
    obtain ⟨rfl, rfl⟩ := Prod.mk.inj pair
    have table : (released.detached session ref).byTMSI = released.byTMSI :=
      detached_byTMSI ..
    change FlatMap.erase hash (released.detached session ref).byTMSI ref = _ at erase_run
    rw [table] at erase_run
    rw [own] at find_run
    exact .inr ⟨released, byTMSI, flag, find_run, release_run, erase_run, rfl, rfl⟩

theorem remove_stored (recycled : reg.byTMSI.Recycled) {removed : Bool}
    (run : remove hash reg ref = some (target, removed)) :
    (target = reg ∧ removed = false) ∨
      (removed = true ∧ Stored reg target ref none ∧
        target.activeTimerSessions = reg.activeTimerSessions.erase ref ∧
        target.activeProcedureSessions = reg.activeProcedureSessions.erase ref) := by
  obtain ⟨session, -, cases⟩ := remove_cases run
  rcases cases with ⟨-, -, -, same, reply⟩ | ⟨released, byTMSI, flag, -, release_run, erase_run,
    rfl, reply⟩
  · exact .inl ⟨same, reply⟩
  · obtain ⟨active, session', -, stored⟩ := releaseChannel_stored recycled release_run
    obtain ⟨kept, values⟩ := stored.recycled.erase erase_run
    refine .inr ⟨reply, ⟨kept, fun other => (values other).trans ?_⟩, ?_, ?_⟩
    · rw [setValue, setValue]
      split
      · rfl
      · exact stored.of_ne ‹_›
    · rw [detached_activeTimerSessions, active.timers]
    · rw [detached_activeProcedureSessions, active.procedures]

/-! ## Creation -/

/-- The entry a creation fills, if any. -/
inductive Entered (reg target : SubscriberRegistry) (identity : L3MobileIdentity) :
    Option SessionRef → Prop where
  | refused : target.byTMSI.Recycled → (∀ other, target.sessionAt other = reg.sessionAt other) →
      Entered reg target identity none
  | created {ref : SessionRef} (tmsi : UInt32) : reg.sessionAt ref = none →
      Stored reg target ref (some (.created identity tmsi)) →
      Entered reg target identity (some ref)

/-- A new key in the TMSI table, with the session set up. -/
theorem emplace_entered (recycled : reg.byTMSI.Recycled) {tmsi : UInt32}
    {byTMSI : FlatMap UInt32 SubscriberSession} {identity : L3MobileIdentity}
    (run : FlatMap.emplace hash reg.byTMSI tmsi {} = some (byTMSI, ref, true))
    (table : target.byTMSI = byTMSI.modifyAt ref fun s =>
      { s with context.identity := identity, assignedTmsi := tmsi }) :
    Entered reg target identity (some ref) := by
  obtain ⟨kept, unused, values⟩ := recycled.emplace run
  refine .created tmsi unused ⟨by rw [table]; exact kept.modifyAt _ _, fun other => ?_⟩
  rw [sessionAt, table, FlatMap.valueAt_modifyAt, values, FlatMap.setValue_self, setValue, setValue]
  split
  · rfl
  · rw [values]
    exact FlatMap.setValue_of_ne ‹_›

/-- A refused key changes no session. -/
theorem emplace_refused (recycled : reg.byTMSI.Recycled) {tmsi : UInt32}
    {byTMSI : FlatMap UInt32 SubscriberSession} {identity : L3MobileIdentity}
    (run : FlatMap.emplace hash reg.byTMSI tmsi {} = some (byTMSI, ref, false))
    (table : target.byTMSI = byTMSI) : Entered reg target identity none := by
  obtain ⟨kept, values⟩ := recycled.emplace run
  refine .refused (table ▸ kept) fun other => ?_
  rw [sessionAt, table]
  exact values other

theorem createByTMSI_entered (recycled : reg.byTMSI.Recycled) {tmsi : UInt32}
    {created : Option SessionRef} (run : createByTMSI hash reg tmsi = some (target, created)) :
    SameActive reg target ∧ target.byLink = reg.byLink ∧ target.byIMSI = reg.byIMSI ∧
      Entered reg target (.ofTMSI tmsi) created := by
  rw [createByTMSI] at run
  split at run
  case isTrue =>
    obtain ⟨rfl, rfl⟩ := Prod.mk.inj (Option.some.inj run)
    exact ⟨⟨rfl, rfl⟩, rfl, rfl, .refused recycled fun _ => rfl⟩
  case isFalse =>
    obtain ⟨⟨byTMSI, idx, inserted⟩, emplace_run, result⟩ := Option.map_eq_some_iff.mp run
    cases inserted with
    | true =>
        obtain ⟨rfl, rfl⟩ := Prod.mk.inj result
        exact ⟨⟨rfl, rfl⟩, rfl, rfl, emplace_entered recycled emplace_run rfl⟩
    | false =>
        obtain ⟨rfl, rfl⟩ := Prod.mk.inj result
        exact ⟨⟨rfl, rfl⟩, rfl, rfl, emplace_refused recycled emplace_run rfl⟩

theorem createByIMSI_entered (recycled : reg.byTMSI.Recycled) {imsi : Imsi}
    {created : Option SessionRef} (run : createByIMSI hash reg imsi = some (target, created)) :
    SameActive reg target ∧ target.byLink = reg.byLink ∧
      Entered reg target (.ofIMSI imsi) created := by
  rw [createByIMSI] at run
  split at run
  case isTrue =>
    obtain ⟨rfl, rfl⟩ := Prod.mk.inj (Option.some.inj run)
    exact ⟨⟨rfl, rfl⟩, rfl, .refused recycled fun _ => rfl⟩
  case isFalse =>
    obtain ⟨⟨free, next⟩, -, rest⟩ := Option.bind_eq_some_iff.mp run
    cases free with
    | none =>
        obtain ⟨rfl, rfl⟩ := Prod.mk.inj (Option.some.inj rest)
        exact ⟨⟨rfl, rfl⟩, rfl, .refused recycled fun _ => rfl⟩
    | some tmsi =>
        obtain ⟨⟨byTMSI, idx, inserted⟩, emplace_run, result⟩ := Option.map_eq_some_iff.mp rest
        cases inserted with
        | true =>
            obtain ⟨rfl, rfl⟩ := Prod.mk.inj result
            exact ⟨⟨rfl, rfl⟩, rfl, emplace_entered recycled emplace_run rfl⟩
        | false =>
            obtain ⟨rfl, rfl⟩ := Prod.mk.inj result
            exact ⟨⟨rfl, rfl⟩, rfl, emplace_refused recycled emplace_run rfl⟩

end SubscriberRegistry

end Stack

end Gsml3
