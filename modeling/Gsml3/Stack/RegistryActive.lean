import Gsml3.Stack.RegistryCalls
import Gsml3.Stack.TimerTicks
import Gsml3.Stack.Observers

/-!
# The active sessions

The registry learns from observers which sessions have a running timer and which
have an active procedure, and every call keeps the two sets exact.
-/

namespace Gsml3

namespace Stack

/-! ## The active sets -/

namespace SubscriberRegistry

open FlatMap (setValue)

variable {hash : UInt32 → UInt64} {reg target : SubscriberRegistry} {ref : SessionRef}
  {session : SubscriberSession}

/-- A live session with a running timer. -/
def TimerRunning (reg : SubscriberRegistry) (ref : SessionRef) : Prop :=
  ∃ session, reg.sessionAt ref = some session ∧ 0 < session.timers.runningCount

/-- A live session with an active procedure. -/
def ProcedureActive (reg : SubscriberRegistry) (ref : SessionRef) : Prop :=
  ∃ session, reg.sessionAt ref = some session ∧ 0 < session.procedures.activeCount

/-- The active sets are exact, and every configured timer is in its slot. -/
structure Tracked (reg : SubscriberRegistry) : Prop where
  recycled : reg.byTMSI.Recycled
  configured : ∀ ref session, reg.sessionAt ref = some session → session.timers.Configured
  timers : ∀ ref, ref ∈ reg.activeTimerSessions ↔ TimerRunning reg ref
  procedures : ∀ ref, ref ∈ reg.activeProcedureSessions ↔ ProcedureActive reg ref

theorem tracked_empty : Tracked {} where
  recycled := FlatMap.recycled_empty
  configured := fun _ _ live => by cases live
  timers := fun ref => iff_of_false (Finset.notMem_empty ref) fun ⟨_, live, _⟩ => by cases live
  procedures := fun ref => iff_of_false (Finset.notMem_empty ref) fun ⟨_, live, _⟩ => by cases live

/-! A set that an observer keeps about sessions. -/

section Told

variable {before : Finset SessionRef} {other : SessionRef}

/-- The set after the observer was told about one session. -/
def tell (ref : SessionRef) (sessions : Finset SessionRef) (active : Bool) : Finset SessionRef :=
  if active then insert ref sessions else sessions.erase ref

/-- A notification moves its session in or out. -/
theorem mem_tell {active : Bool} :
    other ∈ tell ref before active ↔ if other = ref then active = true else other ∈ before := by
  cases active with
  | true =>
      rw [tell, if_pos rfl, Finset.mem_insert]
      split
      case isTrue same => exact iff_of_true (.inl same) rfl
      case isFalse apart => exact or_iff_right apart
  | false =>
      rw [tell, if_neg Bool.false_ne_true, Finset.mem_erase]
      split
      case isTrue same => exact iff_of_false (fun member => member.1 same) Bool.false_ne_true
      case isFalse apart => exact and_iff_right apart

/-- The last notification decides. -/
theorem mem_foldl_tell (notified : List Bool) :
    other ∈ notified.foldl (tell ref) before ↔
      if other = ref then notified.getLastD (decide (ref ∈ before)) = true else other ∈ before := by
  induction notified generalizing before with
  | nil =>
      rw [List.foldl_nil, List.getLastD_nil, decide_eq_true_iff]
      split
      case isTrue same => rw [same]
      case isFalse => exact Iff.rfl
  | cons active notified ih =>
      have now : decide (ref ∈ tell ref before active) = active :=
        Bool.eq_iff_iff.mpr (by rw [decide_eq_true_iff, mem_tell, if_pos rfl])
      rw [List.foldl_cons, ih, now, List.getLastD_cons, mem_tell]
      split <;> exact Iff.rfl

theorem foldl_handleTimerActive (notified : List Bool) (reg : SubscriberRegistry) :
    notified.foldl (fun reg active => reg.handleTimerActive ref active) reg =
      { reg with
        activeTimerSessions := notified.foldl (tell ref) reg.activeTimerSessions } := by
  induction notified generalizing reg with
  | nil => rfl
  | cons active notified ih => exact ih _

theorem foldl_handleProcedureActive (notified : List Bool) (reg : SubscriberRegistry) :
    notified.foldl (fun reg active => reg.handleProcedureActive ref active) reg =
      { reg with
        activeProcedureSessions := notified.foldl (tell ref) reg.activeProcedureSessions } := by
  induction notified generalizing reg with
  | nil => rfl
  | cons active notified ih => exact ih _

end Told

/-- A stored session decides whether its timers run. -/
theorem timerRunning_stored {stored_session : Option SubscriberSession}
    (stored : Stored reg target ref stored_session) (other : SessionRef) :
    TimerRunning target other ↔
      if other = ref then ∃ s ∈ stored_session, 0 < s.timers.runningCount
      else TimerRunning reg other := by
  rw [TimerRunning]
  split
  case isTrue same => rw [same, stored.self]; rfl
  case isFalse apart => rw [stored.of_ne apart]; rfl

/-- A stored session decides whether its procedures are active. -/
theorem procedureActive_stored {stored_session : Option SubscriberSession}
    (stored : Stored reg target ref stored_session) (other : SessionRef) :
    ProcedureActive target other ↔
      if other = ref then ∃ s ∈ stored_session, 0 < s.procedures.activeCount
      else ProcedureActive reg other := by
  rw [ProcedureActive]
  split
  case isTrue same => rw [same, stored.self]; rfl
  case isFalse apart => rw [stored.of_ne apart]; rfl

namespace Tracked

/-- A call that changes one session keeps the sets exact if it keeps them exact for
that session. -/
theorem stored (tracked : Tracked reg) {stored_session : Option SubscriberSession}
    (stored : Stored reg target ref stored_session)
    (configured : ∀ s ∈ stored_session, s.timers.Configured)
    (timers : ∀ other, other ∈ target.activeTimerSessions ↔
      if other = ref then ∃ s ∈ stored_session, 0 < s.timers.runningCount
      else other ∈ reg.activeTimerSessions)
    (procedures : ∀ other, other ∈ target.activeProcedureSessions ↔
      if other = ref then ∃ s ∈ stored_session, 0 < s.procedures.activeCount
      else other ∈ reg.activeProcedureSessions) : Tracked target := by
  refine ⟨stored.recycled, fun other s live => ?_, fun other => ?_, fun other => ?_⟩
  · by_cases same : other = ref
    · rw [same, stored.self] at live
      exact configured s live
    · rw [stored.of_ne same] at live
      exact tracked.configured other s live
  · rw [timers, timerRunning_stored stored, tracked.timers]
  · rw [procedures, procedureActive_stored stored, tracked.procedures]

/-- The set of timers holds the sessions with a running timer. -/
theorem mem_timers (tracked : Tracked reg) (live : reg.sessionAt ref = some session) :
    ref ∈ reg.activeTimerSessions ↔ 0 < session.timers.runningCount := by
  rw [tracked.timers, TimerRunning, live]
  simp

/-- The set of procedures holds the sessions with an active procedure. -/
theorem mem_procedures (tracked : Tracked reg) (live : reg.sessionAt ref = some session) :
    ref ∈ reg.activeProcedureSessions ↔ 0 < session.procedures.activeCount := by
  rw [tracked.procedures, ProcedureActive, live]
  simp

/-- A call on one session whose observers are told what became of it. -/
theorem told (tracked : Tracked reg) {changed : SubscriberSession}
    {timers procedures : List Bool} (live : reg.sessionAt ref = some session)
    (stored : Stored reg target ref (some changed)) (configured : changed.timers.Configured)
    (timers_told : target.activeTimerSessions = timers.foldl (tell ref) reg.activeTimerSessions)
    (procedures_told : target.activeProcedureSessions =
      procedures.foldl (tell ref) reg.activeProcedureSessions)
    (timers_tell : Tells session.timers.runningCount changed.timers.runningCount timers)
    (procedures_tell : Tells session.procedures.activeCount changed.procedures.activeCount
      procedures) : Tracked target := by
  have now : ∀ {p : SubscriberSession → Prop}, (∃ s ∈ some changed, p s) ↔ p changed := by
    simp
  rw [Tells, ← decide_eq_decide.mpr (tracked.mem_timers live)] at timers_tell
  rw [Tells, ← decide_eq_decide.mpr (tracked.mem_procedures live)] at procedures_tell
  refine tracked.stored stored (by rintro _ ⟨⟩; exact configured) (fun other => ?_)
    (fun other => ?_)
  · rw [timers_told, mem_foldl_tell, now, timers_tell, decide_eq_true_iff]
  · rw [procedures_told, mem_foldl_tell, now, procedures_tell, decide_eq_true_iff]

/-- A call that tells the observers nothing. -/
theorem untold (tracked : Tracked reg) {changed : SubscriberSession} (active : SameActive reg target)
    (live : reg.sessionAt ref = some session) (stored : Stored reg target ref (some changed))
    (timers : changed.timers = session.timers)
    (procedures : changed.procedures = session.procedures) : Tracked target :=
  @told reg target ref session tracked changed [] [] live stored
    (timers ▸ tracked.configured ref session live) active.timers active.procedures
    (.silent (by rw [timers])) (.silent (by rw [procedures]))

/-- A call that changes no session. -/
theorem congr (tracked : Tracked reg) (recycled : target.byTMSI.Recycled)
    (active : SameActive reg target)
    (sessions : ∀ other, target.sessionAt other = reg.sessionAt other) : Tracked target := by
  refine ⟨recycled, fun other s live => ?_, fun other => ?_, fun other => ?_⟩
  · exact tracked.configured other s (sessions other ▸ live)
  · rw [active.timers, tracked.timers, TimerRunning, TimerRunning, sessions]
  · rw [active.procedures, tracked.procedures, ProcedureActive, ProcedureActive, sessions]

/-- A new session is in neither set. -/
theorem entered (tracked : Tracked reg) {identity : L3MobileIdentity}
    {created : Option SessionRef} (active : SameActive reg target)
    (entered : Entered reg target identity created) : Tracked target := by
  cases entered with
  | refused recycled sessions => exact tracked.congr recycled active sessions
  | created tmsi unused stored =>
      rename_i ref
      have idle : ∀ {p : SubscriberSession → Prop} {sessions : Finset SessionRef},
          (∀ other, other ∈ sessions ↔ ∃ s, reg.sessionAt other = some s ∧ p s) →
          ¬ p (.created identity tmsi) → ∀ other, other ∈ sessions ↔
            if other = ref then ∃ s ∈ some (SubscriberSession.created identity tmsi), p s
            else other ∈ sessions := by
        intro p sessions exact_set fresh other
        split
        case isFalse => exact Iff.rfl
        case isTrue same =>
          rw [exact_set, same, unused]
          exact iff_of_false (fun ⟨s, live, _⟩ => by cases live) fun ⟨s, held, holds⟩ =>
            fresh (Option.some.inj held ▸ holds)
      refine tracked.stored stored ?_ (fun other => ?_) (fun other => ?_)
      · rintro _ ⟨⟩
        exact TimerManager.configured_empty
      · rw [active.timers]
        exact idle tracked.timers (by decide : ¬ 0 < ({} : TimerManager).runningCount) other
      · rw [active.procedures]
        exact idle tracked.procedures (by decide : ¬ 0 < ({} : ProcedureRunner).activeCount) other

/-- A removed session leaves both sets. -/
theorem removed (tracked : Tracked reg) (stored : Stored reg target ref none)
    (timers : target.activeTimerSessions = reg.activeTimerSessions.erase ref)
    (procedures : target.activeProcedureSessions = reg.activeProcedureSessions.erase ref) :
    Tracked target := by
  have gone : ∀ (sessions : Finset SessionRef) (p : SubscriberSession → Prop) other,
      other ∈ sessions.erase ref ↔
        if other = ref then ∃ s ∈ (none : Option SubscriberSession), p s
        else other ∈ sessions := by
    intro sessions p other
    rw [show sessions.erase ref = tell ref sessions false from rfl, mem_tell]
    simp
  refine tracked.stored stored (by rintro _ ⟨⟩) (fun other => ?_) (fun other => ?_)
  · rw [timers]
    exact gone ..
  · rw [procedures]
    exact gone ..

theorem clear (reg : SubscriberRegistry) : Tracked reg.clear := by
  obtain ⟨recycled, dead⟩ := FlatMap.Recycled.clear reg.byTMSI
  have empty : ∀ {p : SubscriberSession → Prop} {other : SessionRef},
      ¬ ∃ s, reg.clear.sessionAt other = some s ∧ p s := by
    rintro p other ⟨s, live, -⟩
    cases (dead other).symm.trans live
  exact ⟨recycled, fun other _ live => (by cases (dead other).symm.trans live),
    fun other => iff_of_false (Finset.notMem_empty other) empty,
    fun other => iff_of_false (Finset.notMem_empty other) empty⟩

/-- A call on the timers of a session. -/
theorem storeTimers (tracked : Tracked reg) (live : reg.sessionAt ref = some session)
    {timers : TimerManager} {notified : List Bool} (configured : timers.Configured)
    (tells : Tells session.timers.runningCount timers.runningCount notified) :
    Stored reg (reg.storeTimers ref timers notified) ref (some { session with timers := timers }) ∧
      Tracked (reg.storeTimers ref timers notified) := by
  have changed := modifySession_stored tracked.recycled live fun s => { s with timers := timers }
  rw [SubscriberRegistry.storeTimers, foldl_handleTimerActive]
  have stored : Stored reg { reg.modifySession ref fun s => { s with timers := timers } with
      activeTimerSessions := notified.foldl (tell ref) reg.activeTimerSessions } ref
      (some { session with timers := timers }) := ⟨changed.recycled, changed.sessions⟩
  exact ⟨stored, @told reg _ ref session tracked { session with timers := timers } notified []
    live stored configured rfl rfl tells (.silent Iff.rfl)⟩

/-- A call on the procedures of a session. -/
theorem storeProcedures (tracked : Tracked reg) (live : reg.sessionAt ref = some session)
    {change : SubscriberSession → SubscriberSession} {notified : List Bool}
    (timers : (change session).timers = session.timers)
    (tells : Tells session.procedures.activeCount (change session).procedures.activeCount
      notified) :
    Stored reg (reg.storeProcedures ref change notified) ref (some (change session)) ∧
      Tracked (reg.storeProcedures ref change notified) := by
  have changed := modifySession_stored tracked.recycled live change
  rw [SubscriberRegistry.storeProcedures, foldl_handleProcedureActive]
  have stored : Stored reg { reg.modifySession ref change with
      activeProcedureSessions := notified.foldl (tell ref) reg.activeProcedureSessions } ref
      (some (change session)) := ⟨changed.recycled, changed.sessions⟩
  exact ⟨stored, @told reg _ ref session tracked (change session) [] notified live stored
    (timers ▸ tracked.configured ref session live) rfl rfl (.silent (by rw [timers])) tells⟩

end Tracked

/-! ## Ticks -/

/-- Sessions stored one after the other. -/
theorem Stored.trans {middle : SubscriberRegistry} {first second : Option SubscriberSession}
    (before : Stored reg middle ref first) (after : Stored middle target ref second) :
    Stored reg target ref second where
  recycled := after.recycled
  sessions := fun other => by
    rw [after.sessions, setValue, setValue]
    split
    · rfl
    · exact before.of_ne ‹_›

/-- A session whose transactions know that a timer expired. -/
def noteExpiry (id : L3TimerId) (session : SubscriberSession) : SubscriberSession :=
  { session with transactions := session.transactions.onTimerExpired id }

/-- Noting an expiry keeps the sets. -/
theorem Tracked.noteExpiry (tracked : Tracked reg) (live : reg.sessionAt ref = some session)
    (id : L3TimerId) :
    Stored reg (reg.modifySession ref (noteExpiry id)) ref (some (noteExpiry id session)) ∧
      Tracked (reg.modifySession ref (SubscriberRegistry.noteExpiry id)) := by
  have stored := modifySession_stored tracked.recycled live (SubscriberRegistry.noteExpiry id)
  exact ⟨stored, tracked.untold ⟨rfl, rfl⟩ live stored rfl rfl⟩

/-- The expired timers are told to the transactions; those that fit into the output
span are reported, and the others are started again. -/
theorem Tracked.reportExpiry (tracked : Tracked reg) (live : reg.sessionAt ref = some session)
    (room : Nat) (out : List (SessionRef × L3TimerId)) (expired : List L3TimerId) :
    ∃ target changed, expired.foldlM (reportExpiry ref) (reg, room, out) =
        some (target, room - expired.length, out ++ (expired.take room).map (ref, ·)) ∧
      Stored reg target ref (some changed) ∧ Tracked target ∧
      changed.timers = session.timers.rearm (expired.drop room) := by
  induction expired generalizing reg session room out with
  | nil =>
      refine ⟨reg, session, ?_, ⟨tracked.recycled, fun other => ?_⟩, tracked, ?_⟩
      · rw [List.take_nil, List.map_nil, List.append_nil]
        rfl
      · rw [setValue]
        split
        case isTrue same => rw [same, live]
        case isFalse => rfl
      · rw [List.drop_nil]
        rfl
  | cons id expired ih =>
      obtain ⟨noted, noted_tracked⟩ := tracked.noteExpiry live id
      cases room with
      | succ room =>
          obtain ⟨target, changed, run, stored, kept, timers⟩ :=
            ih noted_tracked noted.self room (out ++ [(ref, id)])
          refine ⟨target, changed, ?_, noted.trans stored, kept, timers⟩
          have first : SubscriberRegistry.reportExpiry ref (reg, room + 1, out) id =
              some (reg.modifySession ref (SubscriberRegistry.noteExpiry id), room,
                out ++ [(ref, id)]) := rfl
          rw [List.foldlM_cons, first, Option.bind_eq_bind, Option.bind_some, run,
            List.length_cons, Nat.add_sub_add_right, List.take_succ_cons, List.map_cons,
            List.append_assoc]
          rfl
      | zero =>
          obtain ⟨started, started_tracked⟩ := noted_tracked.storeTimers noted.self
            ((noted_tracked.configured ref _ noted.self).start id 1)
            ((SubscriberRegistry.noteExpiry id session).timers.start_tells id 1)
          obtain ⟨target, changed, run, stored, kept, timers⟩ :=
            ih started_tracked started.self 0 out
          refine ⟨target, changed, ?_, (noted.trans started).trans stored, kept, ?_⟩
          · have first : SubscriberRegistry.reportExpiry ref (reg, 0, out) id =
                some ((reg.modifySession ref (SubscriberRegistry.noteExpiry id)).storeTimers ref
                  (session.timers.start id 1).1 (session.timers.start id 1).2.2, 0, out) := by
              have live' : (reg.modifySession ref (SubscriberRegistry.noteExpiry id)).sessionAt ref =
                  some (SubscriberRegistry.noteExpiry id session) := noted.self
              change (SubscriberRegistry.startTimer (reg.modifySession ref
                (SubscriberRegistry.noteExpiry id)) ref id 1).map _ = _
              rw [startTimer, live']
              rfl
            rw [List.foldlM_cons, first, Option.bind_eq_bind, Option.bind_some]
            refine run.trans ?_
            rw [Nat.zero_sub, Nat.zero_sub, List.take_zero, List.take_zero]
          · rw [timers, List.drop_zero, List.drop_zero]
            rfl

/-- A tick of the timers of one session keeps the sets. -/
theorem Tracked.tickTimers (tracked : Tracked reg) (live : reg.sessionAt ref = some session)
    (delta : Int) (room : Nat) (out : List (SessionRef × L3TimerId)) :
    ∃ target changed, tickTimers delta (reg, room, out) ref =
        some (target, room - (session.timers.expiring delta).length,
          out ++ ((session.timers.expiring delta).take room).map (ref, ·)) ∧
      Stored reg target ref (some changed) ∧ Tracked target ∧
      changed.timers = session.timers.ticked delta room := by
  have configured := tracked.configured ref session live
  obtain ⟨ticked, ticked_tracked⟩ := tracked.storeTimers live (configured.tick delta)
    (session.timers.tick_tells delta maxTimers)
  obtain ⟨target, changed, run, stored, kept, timers⟩ := ticked_tracked.reportExpiry ticked.self
    room out (session.timers.expiring delta)
  refine ⟨target, changed, ?_, ticked.trans stored, kept, timers⟩
  rw [SubscriberRegistry.tickTimers]
  simp only [live, Option.bind_some]
  rw [(session.timers.tick_eq delta).2]
  exact run

/-- What a report says about one session. -/
def reportsOf (ref : SessionRef) (out : List (SessionRef × L3TimerId)) : List L3TimerId :=
  (out.filter fun expiry => expiry.1 = ref).map Prod.snd

theorem reportsOf_append (ref : SessionRef) (first second : List (SessionRef × L3TimerId)) :
    reportsOf ref (first ++ second) = reportsOf ref first ++ reportsOf ref second := by
  rw [reportsOf, List.filter_append, List.map_append]
  rfl

theorem reportsOf_map (ref other : SessionRef) (ids : List L3TimerId) :
    reportsOf other (ids.map (ref, ·)) = if other = ref then ids else [] := by
  rw [reportsOf, List.filter_map]
  split
  case isTrue same => simp [same, Function.comp_def]
  case isFalse apart => simp [Ne.symm apart, Function.comp_def]

/-- The number of timers of some sessions that expire at a tick. -/
def dueIn (reg : SubscriberRegistry) (visited : List SessionRef) (delta : Int) : Nat :=
  (visited.map fun ref =>
    ((reg.sessionAt ref).map fun session => (session.timers.expiring delta).length).getD 0).sum

/-- What a tick does to one session and to the report. -/
def SessionTicked (delta : Int) (room : Nat) (reg target : SubscriberRegistry)
    (new : List (SessionRef × L3TimerId)) (ref : SessionRef) : Prop :=
  ∀ session, reg.sessionAt ref = some session → ∃ changed left,
    target.sessionAt ref = some changed ∧ changed.timers = session.timers.ticked delta left ∧
      reportsOf ref new = (session.timers.expiring delta).take left ∧
      (left < (session.timers.expiring delta).length → new.length = room)

/-- A tick of live sessions ticks each of them once and no other session. -/
theorem Tracked.tickVisited (tracked : Tracked reg) {visited : List SessionRef}
    (nodup : visited.Nodup) (live : ∀ ref ∈ visited, (reg.sessionAt ref).isSome) (delta : Int)
    (room : Nat) (out : List (SessionRef × L3TimerId)) :
    ∃ target new, visited.foldlM (SubscriberRegistry.tickTimers delta) (reg, room, out) =
        some (target, room - new.length, out ++ new) ∧
      new.length = min room (dueIn reg visited delta) ∧ Tracked target ∧
      (∀ ref ∈ visited, SessionTicked delta room reg target new ref) ∧
      ∀ ref ∉ visited, target.sessionAt ref = reg.sessionAt ref ∧ reportsOf ref new = [] := by
  induction visited generalizing reg room out with
  | nil =>
      refine ⟨reg, [], ?_, (Nat.min_zero _).symm, tracked,
        fun _ member => absurd member List.not_mem_nil, fun _ _ => ⟨rfl, rfl⟩⟩
      rw [List.append_nil]
      rfl
  | cons ref visited ih =>
      obtain ⟨unvisited, nodup⟩ := List.nodup_cons.mp nodup
      obtain ⟨session, held⟩ := Option.isSome_iff_exists.mp (live ref (List.mem_cons_self ..))
      obtain ⟨middle, changed, first, stored, middle_tracked, timers⟩ :=
        tracked.tickTimers held delta room out
      have apart : ∀ other ∈ visited, middle.sessionAt other = reg.sessionAt other :=
        fun other member => stored.of_ne fun same => unvisited (same ▸ member)
      obtain ⟨target, rest, run, fits, kept, ticked, untouched⟩ := ih middle_tracked nodup
        (fun other member => by
          rw [apart other member]
          exact live other (List.mem_cons_of_mem _ member))
        (room - (session.timers.expiring delta).length)
        (out ++ ((session.timers.expiring delta).take room).map (ref, ·))
      have count : (((session.timers.expiring delta).take room).map (ref, ·)).length =
          min room (session.timers.expiring delta).length := by
        rw [List.length_map, List.length_take]
      have due : dueIn reg (ref :: visited) delta =
          (session.timers.expiring delta).length + dueIn middle visited delta := by
        have others : dueIn middle visited delta = dueIn reg visited delta :=
          congrArg List.sum (List.map_congr_left fun other member => by rw [apart other member])
        rw [others, dueIn, List.map_cons, List.sum_cons, held]
        rfl
      refine ⟨target, ((session.timers.expiring delta).take room).map (ref, ·) ++ rest, ?_, ?_,
        kept, fun other member own found => ?_, fun other absent => ?_⟩
      · rw [List.foldlM_cons, first, Option.bind_eq_bind, Option.bind_some, run,
          List.append_assoc, List.length_append, count]
        congr 3
        omega
      · rw [List.length_append, count, due]
        omega
      · by_cases same : other = ref
        · subst same
          obtain rfl := Option.some.inj (held.symm.trans found)
          obtain ⟨stays, none⟩ := untouched other unvisited
          refine ⟨changed, room, stays.trans stored.self, timers, ?_, fun full => ?_⟩
          · rw [reportsOf_append, reportsOf_map, if_pos rfl, none, List.append_nil]
          · rw [List.length_append, count]
            omega
        · have member := (List.mem_cons.mp member).resolve_left same
          obtain ⟨changed', left, live', timers', reports, full⟩ := ticked other member own
            (by rw [apart other member, found])
          refine ⟨changed', left, live', timers', ?_, fun short => ?_⟩
          · rw [reportsOf_append, reportsOf_map, if_neg same, List.nil_append, reports]
          · have full := full short
            rw [List.length_append, count]
            omega
      · obtain ⟨same, absent⟩ := not_or.mp (mt List.mem_cons.mpr absent)
        obtain ⟨stays, none⟩ := untouched other absent
        refine ⟨by rw [stays, stored.of_ne same], ?_⟩
        rw [reportsOf_append, reportsOf_map, if_neg same, none, List.append_nil]

/-- What a tick of the procedures does to one session. -/
def ProceduresTicked (delta : Int) (reg target : SubscriberRegistry) (ref : SessionRef) : Prop :=
  ∀ session, reg.sessionAt ref = some session →
    target.sessionAt ref =
      some { session with procedures := (session.procedures.tickAll delta).1 }

/-- A tick of the procedures of live sessions ticks each of them once and no other session. -/
theorem Tracked.tickProcedures (tracked : Tracked reg) {visited : List SessionRef}
    (nodup : visited.Nodup) (live : ∀ ref ∈ visited, (reg.sessionAt ref).isSome) (delta : Int)
    (failed : Nat) :
    ∃ target failed', visited.foldlM (SubscriberRegistry.tickProcedures delta) (reg, failed) =
      some (target, failed') ∧ Tracked target ∧
        (∀ ref ∈ visited, ProceduresTicked delta reg target ref) ∧
        ∀ ref ∉ visited, target.sessionAt ref = reg.sessionAt ref := by
  induction visited generalizing reg failed with
  | nil => exact ⟨reg, failed, rfl, tracked, fun _ member => absurd member List.not_mem_nil,
      fun _ _ => rfl⟩
  | cons ref visited ih =>
      obtain ⟨unvisited, nodup⟩ := List.nodup_cons.mp nodup
      obtain ⟨session, held⟩ := Option.isSome_iff_exists.mp (live ref (List.mem_cons_self ..))
      obtain ⟨middle, middle_eq⟩ : ∃ middle, middle = reg.storeProcedures ref
          (fun s => { s with procedures := (session.procedures.tickAll delta).1 })
          (session.procedures.tickAll delta).2.2 := ⟨_, rfl⟩
      have first : SubscriberRegistry.tickProcedures delta (reg, failed) ref =
          some (middle, failed + (session.procedures.tickAll delta).2.1) := by
        rw [SubscriberRegistry.tickProcedures]
        simp only [held, Option.map_some, middle_eq]
      obtain ⟨stored, kept⟩ := @Tracked.storeProcedures reg ref session tracked held
        (fun s => { s with procedures := (session.procedures.tickAll delta).1 })
        (session.procedures.tickAll delta).2.2 rfl (session.procedures.tickAll_tells delta)
      rw [← middle_eq] at stored kept
      have apart : ∀ other ∈ visited, middle.sessionAt other = reg.sessionAt other :=
        fun other member => stored.of_ne fun same => unvisited (same ▸ member)
      obtain ⟨target, failed', run, kept', ticked, untouched⟩ := ih kept nodup
        (fun other member => by
          rw [apart other member]
          exact live other (List.mem_cons_of_mem _ member))
        (failed + (session.procedures.tickAll delta).2.1)
      refine ⟨target, failed', ?_, kept', fun other member own found => ?_, fun other absent => ?_⟩
      · rw [List.foldlM_cons, first, Option.bind_eq_bind, Option.bind_some]
        exact run
      · by_cases same : other = ref
        · subst same
          obtain rfl := Option.some.inj (held.symm.trans found)
          rw [untouched other unvisited]
          exact stored.self
        · have member := (List.mem_cons.mp member).resolve_left same
          exact ticked other member own (by rw [apart other member, found])
      · obtain ⟨same, absent⟩ := not_or.mp (mt List.mem_cons.mpr absent)
        rw [untouched other absent, stored.of_ne same]

/-- `tickAllTimers` ticks the sessions with a running timer, each once, and no other. -/
theorem Tracked.tickAllTimers (tracked : Tracked reg) {visited : List SessionRef}
    (enumerates : Enumerates visited reg.activeTimerSessions) (delta : Int) (room : Nat) :
    ∃ target out, reg.tickAllTimers visited delta room = some (target, out) ∧ Tracked target ∧
      (∀ ref ∈ visited, SessionTicked delta room reg target out ref) ∧
      ∀ ref ∉ visited, target.sessionAt ref = reg.sessionAt ref ∧ reportsOf ref out = [] := by
  obtain ⟨target, out, run, -, kept, effects⟩ := tracked.tickVisited enumerates.1
    (fun ref member => by
      obtain ⟨session, live, -⟩ := (tracked.timers ref).mp ((enumerates.2 ref).mp member)
      rw [live]
      rfl) delta room []
  refine ⟨target, out, ?_, kept, effects⟩
  rw [SubscriberRegistry.tickAllTimers, run]
  rfl

/-- `tickAllProcedures` ticks the sessions with an active procedure, each once, and no other. -/
theorem Tracked.tickAllProcedures (tracked : Tracked reg) {visited : List SessionRef}
    (enumerates : Enumerates visited reg.activeProcedureSessions) (delta : Int) :
    ∃ target failed, reg.tickAllProcedures visited delta = some (target, failed) ∧
      Tracked target ∧ (∀ ref ∈ visited, ProceduresTicked delta reg target ref) ∧
        ∀ ref ∉ visited, target.sessionAt ref = reg.sessionAt ref :=
  tracked.tickProcedures enumerates.1 (fun ref member => by
    obtain ⟨session, live, -⟩ := (tracked.procedures ref).mp ((enumerates.2 ref).mp member)
    rw [live]
    rfl) delta 0

/-! ## Runs -/

/-- Every call keeps the sets. -/
theorem Tracked.exec (tracked : Tracked reg) {op : Op} {reply : Reply}
    (run : SubscriberRegistry.exec hash reg op = some (target, reply)) : Tracked target := by
  cases op with
  | createByTMSI tmsi =>
      obtain ⟨⟨created, result⟩, create_run, pair⟩ := Option.map_eq_some_iff.mp run
      obtain ⟨rfl, -⟩ := Prod.mk.inj pair
      obtain ⟨active, -, -, entered⟩ := createByTMSI_entered tracked.recycled create_run
      exact tracked.entered active entered
  | createByIMSI imsi =>
      obtain ⟨⟨created, result⟩, create_run, pair⟩ := Option.map_eq_some_iff.mp run
      obtain ⟨rfl, -⟩ := Prod.mk.inj pair
      obtain ⟨active, -, entered⟩ := createByIMSI_entered tracked.recycled create_run
      exact tracked.entered active entered
  | assignChannel ref desc lapdmLink =>
      obtain ⟨assigned, assign_run, pair⟩ := Option.map_eq_some_iff.mp run
      obtain ⟨rfl, -⟩ := Prod.mk.inj pair
      obtain ⟨active, session, live, stored⟩ := assignChannel_stored tracked.recycled assign_run
      exact tracked.untold active live stored rfl rfl
  | releaseChannel ref =>
      obtain ⟨released, release_run, pair⟩ := Option.map_eq_some_iff.mp run
      obtain ⟨rfl, -⟩ := Prod.mk.inj pair
      obtain ⟨active, session, live, stored⟩ := releaseChannel_stored tracked.recycled release_run
      exact tracked.untold active live stored rfl rfl
  | remove ref =>
      obtain ⟨⟨removed, flag⟩, remove_run, pair⟩ := Option.map_eq_some_iff.mp run
      obtain ⟨rfl, -⟩ := Prod.mk.inj pair
      rcases remove_stored tracked.recycled remove_run with ⟨rfl, -⟩ | ⟨-, stored, timers, procedures⟩
      · exact tracked
      · exact tracked.removed stored timers procedures
  | clear =>
      obtain ⟨rfl, -⟩ := Prod.mk.inj (Option.some.inj run)
      exact .clear reg
  | reserve expectedSessions =>
      obtain ⟨reserved, reserve_run, pair⟩ := Option.map_eq_some_iff.mp run
      obtain ⟨rfl, -⟩ := Prod.mk.inj pair
      obtain ⟨byTMSI, table_run, rest⟩ := Option.bind_eq_some_iff.mp reserve_run
      obtain ⟨byLink, -, rfl⟩ := Option.map_eq_some_iff.mp rest
      obtain ⟨recycled, sessions⟩ := tracked.recycled.reserve table_run
      exact tracked.congr recycled ⟨rfl, rfl⟩ sessions
  | startTimer ref id expiry =>
      obtain ⟨started, start_run, pair⟩ := Option.map_eq_some_iff.mp run
      obtain ⟨rfl, -⟩ := Prod.mk.inj pair
      obtain ⟨session, live, rfl⟩ := Option.map_eq_some_iff.mp start_run
      exact (tracked.storeTimers live ((tracked.configured ref session live).start id expiry)
        (session.timers.start_tells id expiry)).2
  | stopTimer ref id =>
      obtain ⟨stopped, stop_run, pair⟩ := Option.map_eq_some_iff.mp run
      obtain ⟨rfl, -⟩ := Prod.mk.inj pair
      obtain ⟨session, live, rfl⟩ := Option.map_eq_some_iff.mp stop_run
      exact (tracked.storeTimers live ((tracked.configured ref session live).stop id)
        (session.timers.stop_tells id)).2
  | stopAllTimers ref =>
      obtain ⟨stopped, stop_run, pair⟩ := Option.map_eq_some_iff.mp run
      obtain ⟨rfl, -⟩ := Prod.mk.inj pair
      obtain ⟨session, live, rfl⟩ := Option.map_eq_some_iff.mp stop_run
      exact (tracked.storeTimers live (tracked.configured ref session live).stopAll
        session.timers.stopAll_tells).2
  | feed ref msg =>
      obtain ⟨fed, feed_run, pair⟩ := Option.map_eq_some_iff.mp run
      obtain ⟨rfl, -⟩ := Prod.mk.inj pair
      obtain ⟨session, live, rfl⟩ := Option.map_eq_some_iff.mp feed_run
      exact (tracked.storeProcedures live rfl
        (session.procedures.feed_tells msg session.toSessionCore)).2
  | feedExternalTyped ref type data =>
      obtain ⟨fed, feed_run, pair⟩ := Option.map_eq_some_iff.mp run
      obtain ⟨rfl, -⟩ := Prod.mk.inj pair
      obtain ⟨session, live, rfl⟩ := Option.map_eq_some_iff.mp feed_run
      exact (tracked.storeProcedures live rfl
        (session.procedures.feedExternalTyped_tells type session.toSessionCore data)).2
  | cancelAll ref =>
      obtain ⟨cancelled, cancel_run, pair⟩ := Option.map_eq_some_iff.mp run
      obtain ⟨rfl, -⟩ := Prod.mk.inj pair
      obtain ⟨session, live, rfl⟩ := Option.map_eq_some_iff.mp cancel_run
      exact (tracked.storeProcedures live rfl session.procedures.cancelAll_tells).2
  | tickAllTimers visited delta room =>
      rw [SubscriberRegistry.exec] at run
      split at run
      case isFalse => cases run
      case isTrue enumerates =>
        obtain ⟨target', out, ticked, kept, -⟩ := tracked.tickAllTimers enumerates delta room
        rw [ticked] at run
        obtain ⟨rfl, -⟩ := Prod.mk.inj (Option.some.inj run)
        exact kept
  | tickAllProcedures visited delta =>
      rw [SubscriberRegistry.exec] at run
      split at run
      case isFalse => cases run
      case isTrue enumerates =>
        obtain ⟨target', failed, ticked, kept, -⟩ := tracked.tickAllProcedures enumerates delta
        rw [ticked] at run
        obtain ⟨rfl, -⟩ := Prod.mk.inj (Option.some.inj run)
        exact kept

/-- The sets are right in every state of every run. -/
theorem tracked_of_run {events : List (Op × Reply)}
    (run : (machine hash).Run (fun _ _ _ => True) {} events reg) : Tracked reg := by
  refine run.invariant (fun _ state => Tracked state) tracked_empty ?_
  intro past source target event tracked stepped _
  exact tracked.exec (step_eq_some.mp stepped)

/-- In every reachable state `tickAllTimers` visits the live sessions with a running timer, each
once, and `tickAllProcedures` those with an active procedure.  The sessions that are visited are
ticked, and the others stay as they are. -/
theorem ticks_visit {events : List (Op × Reply)}
    (run : (machine hash).Run (fun _ _ _ => True) {} events reg) (visited : List SessionRef)
    (delta : Int) (room : Nat) :
    ((exec hash reg (.tickAllTimers visited delta room)).isSome ↔
        visited.Nodup ∧ ∀ ref, ref ∈ visited ↔
          ∃ session, reg.sessionAt ref = some session ∧ 0 < session.timers.runningCount) ∧
      ((exec hash reg (.tickAllProcedures visited delta)).isSome ↔
        visited.Nodup ∧ ∀ ref, ref ∈ visited ↔
          ∃ session, reg.sessionAt ref = some session ∧ 0 < session.procedures.activeCount) ∧
      (∀ target out, exec hash reg (.tickAllTimers visited delta room) =
          some (target, .expired out) →
        (∀ ref ∈ visited, SessionTicked delta room reg target out ref) ∧
          ∀ ref ∉ visited, target.sessionAt ref = reg.sessionAt ref ∧ reportsOf ref out = []) ∧
      ∀ target failed, exec hash reg (.tickAllProcedures visited delta) =
          some (target, .failed failed) →
        (∀ ref ∈ visited, ProceduresTicked delta reg target ref) ∧
          ∀ ref ∉ visited, target.sessionAt ref = reg.sessionAt ref := by
  have tracked := tracked_of_run run
  have timers : exec hash reg (.tickAllTimers visited delta room) =
      if Enumerates visited reg.activeTimerSessions then
        (reg.tickAllTimers visited delta room).map fun ticked => (ticked.1, .expired ticked.2)
      else none := rfl
  have procedures : exec hash reg (.tickAllProcedures visited delta) =
      if Enumerates visited reg.activeProcedureSessions then
        (reg.tickAllProcedures visited delta).map fun ticked => (ticked.1, .failed ticked.2)
      else none := rfl
  have enumerates_timers : Enumerates visited reg.activeTimerSessions ↔
      visited.Nodup ∧ ∀ ref, ref ∈ visited ↔ TimerRunning reg ref := by
    simp only [Enumerates, tracked.timers]
  have enumerates_procedures : Enumerates visited reg.activeProcedureSessions ↔
      visited.Nodup ∧ ∀ ref, ref ∈ visited ↔ ProcedureActive reg ref := by
    simp only [Enumerates, tracked.procedures]
  refine ⟨enumerates_timers.symm.trans ?_ |>.symm, enumerates_procedures.symm.trans ?_ |>.symm,
    fun target out run => ?_, fun target failed run => ?_⟩
  · rw [timers]
    split
    case isFalse idle => exact iff_of_false idle Bool.false_ne_true
    case isTrue enumerates =>
      obtain ⟨target, out, ticked, -⟩ := tracked.tickAllTimers enumerates delta room
      rw [ticked]
      exact iff_of_true enumerates rfl
  · rw [procedures]
    split
    case isFalse idle => exact iff_of_false idle Bool.false_ne_true
    case isTrue enumerates =>
      obtain ⟨target, failed, ticked, -⟩ := tracked.tickAllProcedures enumerates delta
      rw [ticked]
      exact iff_of_true enumerates rfl
  · rw [timers] at run
    split at run
    case isFalse => cases run
    case isTrue enumerates =>
      obtain ⟨target', out', ticked, -, effects⟩ := tracked.tickAllTimers enumerates delta room
      rw [ticked] at run
      cases run
      exact effects
  · rw [procedures] at run
    split at run
    case isFalse => cases run
    case isTrue enumerates =>
      obtain ⟨target', failed', ticked, -, effects⟩ := tracked.tickAllProcedures enumerates delta
      rw [ticked] at run
      cases run
      exact effects

/-- A session that has started a timer. -/
theorem ticks_visit_started :
    ∃ reg, (machine UInt32.toUInt64).exec (fun _ _ _ => True) {}
        [(.createByTMSI 1, .created (some (0, 1))), (.startTimer 0 .T3101 3000, .done)] =
          some reg ∧
      ((exec UInt32.toUInt64 reg (.tickAllTimers [0] 100 1)).isSome ↔
        [0].Nodup ∧ ∀ ref, ref ∈ [0] ↔
          ∃ session, reg.sessionAt ref = some session ∧ 0 < session.timers.runningCount) ∧
      ((exec UInt32.toUInt64 reg (.tickAllProcedures [0] 100)).isSome ↔
        [0].Nodup ∧ ∀ ref, ref ∈ [0] ↔
          ∃ session, reg.sessionAt ref = some session ∧ 0 < session.procedures.activeCount) := by
  obtain ⟨reg, executed⟩ := Option.isSome_iff_exists.mp
    (show ((machine UInt32.toUInt64).exec (fun _ _ _ => True) {}
      [(.createByTMSI 1, .created (some (0, 1))), (.startTimer 0 .T3101 3000, .done)]).isSome by
        decide)
  have visits := ticks_visit (.exec _ .origin executed) [0] 100 1
  exact ⟨reg, executed, visits.1, visits.2.1⟩

end SubscriberRegistry

end Stack

end Gsml3
