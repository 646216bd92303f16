import Gsml3.Stack.FlatMap
import Gsml3.Stack.Timers
import Gsml3.Stack.Transactions
import Gsml3.Stack.ProcedureRunner

/-!
# Subscriber registry

The sessions of a base station with their indexes: by TMSI, by IMSI and by
LAPDm link, and the sets of sessions with a running timer and with an active
procedure.  Entries of the TMSI table never move, so a session pointer is its
entry index.

`none` is a call without a result: a probe loop that does not end, or a session
pointer that does not point to a live session.
-/

namespace Gsml3

namespace Stack

/-! ## Sessions -/

/-- What the registry keeps of one subscriber. -/
structure SubscriberSession extends SessionCore where
  timers : TimerManager := {}
  transactions : TransactionManager := {}
  procedures : ProcedureRunner := {}
  channel : Option ChannelDescriptor := none
  lapdmLink : UInt8 := 0
  assignedTmsi : UInt32 := 0
deriving DecidableEq

/-- Pointer to a session: the index of its entry. -/
abbrev SessionRef := Nat

/-- The digits of an IMSI as a caller passes them. -/
abbrev Imsi := List Char

/-- The three indexes of the registry and the sets of sessions with something active. -/
structure SubscriberRegistry where
  byTMSI : FlatMap UInt32 SubscriberSession := {}
  byIMSI : AList fun _ : Imsi => UInt32 := ∅
  byLink : FlatMap UInt32 SessionRef := {}
  nextAutoTmsi : UInt32 := 1
  count : Nat := 0
  activeTimerSessions : Finset SessionRef := ∅
  activeProcedureSessions : Finset SessionRef := ∅

/-- Key of a link: transceiver, timeslot and link identifier. -/
def encodeLinkKey (trx ts lapdmLink : UInt8) : UInt32 :=
  trx.toUInt32 <<< 16 ||| ts.toUInt32 <<< 8 ||| lapdmLink.toUInt32

namespace SubscriberSession

/-- The link key of the session as the registry computes it. -/
def linkKey (session : SubscriberSession) : UInt32 :=
  encodeLinkKey session.context.trxNumber session.context.timeslot session.lapdmLink

end SubscriberSession

namespace SubscriberRegistry

/-- The session in a slot of the table by TMSI. -/
def sessionAt (reg : SubscriberRegistry) (ref : SessionRef) : Option SubscriberSession :=
  reg.byTMSI.valueAt ref

/-- Changes the session in a slot; the indexes stay. -/
def modifySession (reg : SubscriberRegistry) (ref : SessionRef)
    (change : SubscriberSession → SubscriberSession) : SubscriberRegistry :=
  { reg with byTMSI := reg.byTMSI.modifyAt ref change }

/-! ## Observers -/

/-- The callback of a timer manager whose activity changed. -/
def handleTimerActive (reg : SubscriberRegistry) (ref : SessionRef) (active : Bool) :
    SubscriberRegistry :=
  { reg with
    activeTimerSessions :=
      if active then insert ref reg.activeTimerSessions else reg.activeTimerSessions.erase ref }

/-- The callback of a procedure runner whose activity changed. -/
def handleProcedureActive (reg : SubscriberRegistry) (ref : SessionRef) (active : Bool) :
    SubscriberRegistry :=
  { reg with
    activeProcedureSessions :=
      if active then insert ref reg.activeProcedureSessions
      else reg.activeProcedureSessions.erase ref }

/-! ## Creation and lookup -/

section Hashed

/- The standard hash of 32-bit keys. -/
variable (hash : UInt32 → UInt64)

/-- TMSI 0 and a TMSI that is taken create nothing. -/
def createByTMSI (reg : SubscriberRegistry) (tmsi : UInt32) :
    Option (SubscriberRegistry × Option SessionRef) :=
  if tmsi = 0 then some (reg, none)
  else
    (FlatMap.emplace hash reg.byTMSI tmsi {}).map fun (byTMSI, idx, inserted) =>
      if inserted then
        ({ reg with
            byTMSI := byTMSI.modifyAt idx fun s =>
              { s with context.identity := .ofTMSI tmsi, assignedTmsi := tmsi }
            count := reg.count + 1 }, some idx)
      else ({ reg with byTMSI := byTMSI }, none)

/-- The scan for a free TMSI: `tmsi` is the candidate, `next` the counter, and
`remaining` bounds the attempts left. -/
def nextFreeTmsi (byTMSI : FlatMap UInt32 SubscriberSession) :
    Nat → UInt32 → UInt32 → Option (Option UInt32 × UInt32)
  | remaining, tmsi, next =>
      (if tmsi = 0 then some true
        else (FlatMap.find hash byTMSI tmsi).map Option.isSome).bind fun taken =>
        if taken then
          match remaining with
          | 0 => some (none, next + 1)
          | remaining + 1 => nextFreeTmsi byTMSI remaining next (next + 1)
        else some (some tmsi, next)

/-- A known IMSI creates nothing; a new one gets the next TMSI that is free. -/
def createByIMSI (reg : SubscriberRegistry) (imsi : Imsi) :
    Option (SubscriberRegistry × Option SessionRef) :=
  if (reg.byIMSI.lookup imsi).isSome then some (reg, none)
  else
    (nextFreeTmsi hash reg.byTMSI (reg.byTMSI.size + 1) reg.nextAutoTmsi
        (reg.nextAutoTmsi + 1)).bind fun (free, next) =>
      let reg := { reg with nextAutoTmsi := next }
      match free with
      | none => some (reg, none)
      | some tmsi =>
          (FlatMap.emplace hash reg.byTMSI tmsi {}).map fun (byTMSI, idx, inserted) =>
            if inserted then
              ({ reg with
                  byTMSI := byTMSI.modifyAt idx fun s =>
                    { s with context.identity := .ofIMSI imsi, assignedTmsi := tmsi }
                  byIMSI := reg.byIMSI.insert imsi tmsi
                  count := reg.count + 1 }, some idx)
            else ({ reg with byTMSI := byTMSI }, none)

/-- The slot of a TMSI. -/
def findByTMSI (reg : SubscriberRegistry) (tmsi : UInt32) : Option (Option SessionRef) :=
  FlatMap.find hash reg.byTMSI tmsi

/-- The slot of an IMSI, by the TMSI it was created with. -/
def findByIMSI (reg : SubscriberRegistry) (imsi : Imsi) : Option (Option SessionRef) :=
  match reg.byIMSI.lookup imsi with
  | some tmsi => findByTMSI hash reg tmsi
  | none => some none

/-- The session that holds a link. -/
def findByLink (reg : SubscriberRegistry) (trx ts lapdmLink : UInt8) :
    Option (Option SessionRef) :=
  (FlatMap.find hash reg.byLink (encodeLinkKey trx ts lapdmLink)).map fun idx =>
    idx.bind reg.byLink.valueAt

/-! ## Channels -/

/-- Erase the index entry of a link key; nothing happens when there is none. -/
def unlink (reg : SubscriberRegistry) (key : UInt32) : Option SubscriberRegistry :=
  (FlatMap.find hash reg.byLink key).bind fun
    | some idx => (FlatMap.erase hash reg.byLink idx).map fun (byLink, _) =>
        { reg with byLink := byLink }
    | none => some reg

/-- Let a link key lead to a session. -/
def link (reg : SubscriberRegistry) (key : UInt32) (ref : SessionRef) :
    Option SubscriberRegistry :=
  (FlatMap.find hash reg.byLink key).bind fun
    | none => (FlatMap.emplace hash reg.byLink key ref).map fun (byLink, _) =>
        { reg with byLink := byLink }
    | some idx => some { reg with byLink := reg.byLink.modifyAt idx fun _ => ref }

/-- Erase the link of the channel a session holds. -/
def unlinkHeld (reg : SubscriberRegistry) (session : SubscriberSession) :
    Option SubscriberRegistry :=
  if session.channel.isSome then unlink hash reg session.linkKey else some reg

/-- A session gives up the link it holds before it takes another. -/
def assignChannel (reg : SubscriberRegistry) (ref : SessionRef) (desc : ChannelDescriptor)
    (lapdmLink : UInt8) : Option SubscriberRegistry :=
  (reg.sessionAt ref).bind fun session =>
    (unlinkHeld hash reg session).bind fun reg =>
      let reg := reg.modifySession ref fun s =>
        { s with
          channel := some desc
          lapdmLink := lapdmLink
          context := s.context.assignChannel desc.type desc.trxNumber desc.timeslot desc.arfcn }
      link hash reg (encodeLinkKey desc.trxNumber desc.timeslot lapdmLink) ref

/-- A session gives up its link and its channel. -/
def releaseChannel (reg : SubscriberRegistry) (ref : SessionRef) : Option SubscriberRegistry :=
  (reg.sessionAt ref).bind fun session =>
    (unlinkHeld hash reg session).map fun reg =>
      reg.modifySession ref fun s =>
        { s with channel := none, context := s.context.releaseChannel }

/-! ## Removal -/

/-- The index entry `remove` erases for the identity of a session. -/
def forgetIdentity (reg : SubscriberRegistry) (session : SubscriberSession) :
    SubscriberRegistry :=
  if session.context.identity.type = .imsi then
    { reg with byIMSI := reg.byIMSI.erase session.context.identity.digits }
  else reg

/-- Removes a session that is still under its own TMSI, with its link and IMSI. -/
def remove (reg : SubscriberRegistry) (ref : SessionRef) : Option (SubscriberRegistry × Bool) :=
  (reg.sessionAt ref).bind fun session =>
    (FlatMap.find hash reg.byTMSI session.assignedTmsi).bind fun found =>
      if found = some ref then
        (releaseChannel hash reg ref).bind fun reg =>
          let reg := reg.forgetIdentity session
          let reg := (reg.handleTimerActive ref false).handleProcedureActive ref false
          (FlatMap.erase hash reg.byTMSI ref).map fun (byTMSI, _) =>
            ({ reg with byTMSI := byTMSI, count := reg.count - 1 }, true)
      else some (reg, false)

/-- Everything goes but the counter of TMSIs. -/
def clear (reg : SubscriberRegistry) : SubscriberRegistry :=
  { byTMSI := reg.byTMSI.clear
    byLink := reg.byLink.clear
    nextAutoTmsi := reg.nextAutoTmsi }

/-- Makes room in the two tables. -/
def reserve (reg : SubscriberRegistry) (expectedSessions : Nat) : Option SubscriberRegistry :=
  (FlatMap.reserve hash reg.byTMSI expectedSessions).bind fun byTMSI =>
    (FlatMap.reserve hash reg.byLink expectedSessions).map fun byLink =>
      { reg with byTMSI := byTMSI, byLink := byLink }

end Hashed

/-! ## Timers -/

/-- Store the timers of a session and pass on what its observer was told. -/
def storeTimers (reg : SubscriberRegistry) (ref : SessionRef) (timers : TimerManager)
    (notified : List Bool) : SubscriberRegistry :=
  notified.foldl (fun reg active => reg.handleTimerActive ref active)
    (reg.modifySession ref fun s => { s with timers := timers })

/-- Starts a timer of a session and follows the notification. -/
def startTimer (reg : SubscriberRegistry) (ref : SessionRef) (id : L3TimerId) (expiry : Int) :
    Option SubscriberRegistry :=
  (reg.sessionAt ref).map fun session =>
    let (timers, _, notified) := session.timers.start id expiry
    reg.storeTimers ref timers notified

/-- Stops a timer of a session and follows the notification. -/
def stopTimer (reg : SubscriberRegistry) (ref : SessionRef) (id : L3TimerId) :
    Option SubscriberRegistry :=
  (reg.sessionAt ref).map fun session =>
    let (timers, notified) := session.timers.stop id
    reg.storeTimers ref timers notified

/-- Stops the timers of a session and follows the notification. -/
def stopAllTimers (reg : SubscriberRegistry) (ref : SessionRef) : Option SubscriberRegistry :=
  (reg.sessionAt ref).map fun session =>
    let (timers, notified) := session.timers.stopAll
    reg.storeTimers ref timers notified

/-- One expired timer: tell the transactions, then report the expiry, or start
the timer again when the output span is full. -/
def reportExpiry (ref : SessionRef)
    (ticked : SubscriberRegistry × Nat × List (SessionRef × L3TimerId)) (id : L3TimerId) :
    Option (SubscriberRegistry × Nat × List (SessionRef × L3TimerId)) :=
  let (reg, room, out) := ticked
  let reg := reg.modifySession ref fun s =>
    { s with transactions := s.transactions.onTimerExpired id }
  if 0 < room then some (reg, room - 1, out ++ [(ref, id)])
  else (reg.startTimer ref id 1).map fun reg => (reg, room, out)

/-- Tick the timers of one session. -/
def tickTimers (delta : Int)
    (ticked : SubscriberRegistry × Nat × List (SessionRef × L3TimerId)) (ref : SessionRef) :
    Option (SubscriberRegistry × Nat × List (SessionRef × L3TimerId)) :=
  let (reg, room, out) := ticked
  (reg.sessionAt ref).bind fun session =>
    let (timers, expired, notified) := session.timers.tick delta maxTimers
    expired.foldlM (reportExpiry ref) (reg.storeTimers ref timers notified, room, out)

/-- Tick the timers of the sessions in `visited`, the snapshot of the active set
in some order; `room` is the size of the output span. -/
def tickAllTimers (reg : SubscriberRegistry) (visited : List SessionRef) (delta : Int)
    (room : Nat) : Option (SubscriberRegistry × List (SessionRef × L3TimerId)) :=
  (visited.foldlM (tickTimers delta) (reg, room, [])).map fun (reg, _, out) => (reg, out)

/-! ## Procedures -/

/-- Store the procedures of a session and pass on what its observer was
told. -/
def storeProcedures (reg : SubscriberRegistry) (ref : SessionRef)
    (change : SubscriberSession → SubscriberSession) (notified : List Bool) :
    SubscriberRegistry :=
  notified.foldl (fun reg active => reg.handleProcedureActive ref active)
    (reg.modifySession ref change)

/-- Store the outcome of a call on the procedures of a session. -/
def storeRan (reg : SubscriberRegistry) (ref : SessionRef) (ran : Ran) : SubscriberRegistry :=
  reg.storeProcedures ref
    (fun s => { s with
      toSessionCore := ran.session.getD s.toSessionCore
      procedures := ran.runner }) ran.notified

/-- Feeds a message to the procedures of a session and follows the notification. -/
def feed (reg : SubscriberRegistry) (ref : SessionRef) (msg : ParsedMessage) :
    Option SubscriberRegistry :=
  (reg.sessionAt ref).map fun session =>
    reg.storeRan ref (session.procedures.feed msg session.toSessionCore)

/-- Feeds data to a procedure of a session and follows the notification. -/
def feedExternalTyped (reg : SubscriberRegistry) (ref : SessionRef) (type : ProcedureType)
    (data : ExternalData) : Option SubscriberRegistry :=
  (reg.sessionAt ref).map fun session =>
    reg.storeRan ref (session.procedures.feedExternalTyped type session.toSessionCore data)

/-- Cancels the procedures of a session and follows the notification. -/
def cancelAll (reg : SubscriberRegistry) (ref : SessionRef) : Option SubscriberRegistry :=
  (reg.sessionAt ref).map fun session =>
    let (runner, notified) := session.procedures.cancelAll
    reg.storeProcedures ref (fun s => { s with procedures := runner }) notified

/-- Tick the procedures of one session. -/
def tickProcedures (delta : Int) (ticked : SubscriberRegistry × Nat) (ref : SessionRef) :
    Option (SubscriberRegistry × Nat) :=
  (ticked.1.sessionAt ref).map fun session =>
    let (runner, failed, notified) := session.procedures.tickAll delta
    (ticked.1.storeProcedures ref (fun s => { s with procedures := runner }) notified,
      ticked.2 + failed)

/-- Tick the procedures of the sessions in `visited`, the snapshot of the active
set in some order. -/
def tickAllProcedures (reg : SubscriberRegistry) (visited : List SessionRef) (delta : Int) :
    Option (SubscriberRegistry × Nat) :=
  visited.foldlM (tickProcedures delta) (reg, 0)

/-- `visited` lists a set in some order. -/
def Enumerates (visited : List SessionRef) (sessions : Finset SessionRef) : Prop :=
  visited.Nodup ∧ ∀ ref, ref ∈ visited ↔ ref ∈ sessions

instance (visited : List SessionRef) (sessions : Finset SessionRef) :
    Decidable (Enumerates visited sessions) :=
  decidable_of_iff (visited.Nodup ∧ visited.toFinset = sessions) <| by
    simp [Enumerates, Finset.ext_iff]

/-! ## Runs -/

/-- A call on the registry or on one of its sessions. -/
inductive Op where
  | createByTMSI (tmsi : UInt32)
  | createByIMSI (imsi : Imsi)
  | assignChannel (ref : SessionRef) (desc : ChannelDescriptor) (lapdmLink : UInt8)
  | releaseChannel (ref : SessionRef)
  | remove (ref : SessionRef)
  | clear
  | reserve (expectedSessions : Nat)
  | startTimer (ref : SessionRef) (id : L3TimerId) (expiry : Int)
  | stopTimer (ref : SessionRef) (id : L3TimerId)
  | stopAllTimers (ref : SessionRef)
  | feed (ref : SessionRef) (msg : ParsedMessage)
  | feedExternalTyped (ref : SessionRef) (type : ProcedureType) (data : ExternalData)
  | cancelAll (ref : SessionRef)
  | tickAllTimers (visited : List SessionRef) (delta : Int) (room : Nat)
  | tickAllProcedures (visited : List SessionRef) (delta : Int)
deriving DecidableEq

/-- What a call returns.  A created session comes with its `assignedTmsi`. -/
inductive Reply where
  | created (session : Option (SessionRef × UInt32))
  | removed (found : Bool)
  | expired (out : List (SessionRef × L3TimerId))
  | failed (count : Nat)
  | done
deriving DecidableEq

/-- The reply of a creation. -/
def replyCreated (created : SubscriberRegistry × Option SessionRef) :
    SubscriberRegistry × Reply :=
  (created.1, .created (created.2.bind fun ref =>
    (created.1.sessionAt ref).map fun session => (ref, session.assignedTmsi)))

/-- One call of the registry and what it returns. -/
def exec (hash : UInt32 → UInt64) (reg : SubscriberRegistry) :
    Op → Option (SubscriberRegistry × Reply)
  | .createByTMSI tmsi => (createByTMSI hash reg tmsi).map replyCreated
  | .createByIMSI imsi => (createByIMSI hash reg imsi).map replyCreated
  | .assignChannel ref desc lapdmLink =>
      (assignChannel hash reg ref desc lapdmLink).map fun reg => (reg, .done)
  | .releaseChannel ref => (releaseChannel hash reg ref).map fun reg => (reg, .done)
  | .remove ref => (remove hash reg ref).map fun (reg, found) => (reg, .removed found)
  | .clear => some (reg.clear, .done)
  | .reserve expectedSessions => (reserve hash reg expectedSessions).map fun reg => (reg, .done)
  | .startTimer ref id expiry => (reg.startTimer ref id expiry).map fun reg => (reg, .done)
  | .stopTimer ref id => (reg.stopTimer ref id).map fun reg => (reg, .done)
  | .stopAllTimers ref => (reg.stopAllTimers ref).map fun reg => (reg, .done)
  | .feed ref msg => (reg.feed ref msg).map fun reg => (reg, .done)
  | .feedExternalTyped ref type data =>
      (reg.feedExternalTyped ref type data).map fun reg => (reg, .done)
  | .cancelAll ref => (reg.cancelAll ref).map fun reg => (reg, .done)
  | .tickAllTimers visited delta room =>
      if Enumerates visited reg.activeTimerSessions then
        (reg.tickAllTimers visited delta room).map fun (reg, out) => (reg, .expired out)
      else none
  | .tickAllProcedures visited delta =>
      if Enumerates visited reg.activeProcedureSessions then
        (reg.tickAllProcedures visited delta).map fun (reg, failed) => (reg, .failed failed)
      else none

/-- The registry as a machine whose events are calls with the replies they
got. -/
def machine (hash : UInt32 → UInt64) : Foundation.Machine SubscriberRegistry (Op × Reply) where
  step := fun reg event =>
    (exec hash reg event.1).bind fun result =>
      if result.2 = event.2 then some result.1 else none

theorem step_eq_some {hash : UInt32 → UInt64} {reg target : SubscriberRegistry}
    {event : Op × Reply} :
    (machine hash).step reg event = some target ↔
      exec hash reg event.1 = some (target, event.2) := by
  constructor
  · intro stepped
    obtain ⟨result, call, guarded⟩ := Option.bind_eq_some_iff.mp stepped
    by_cases same : result.2 = event.2
    · rw [if_pos same] at guarded
      rw [call, ← Option.some.inj guarded, ← same]
    · rw [if_neg same] at guarded
      cases guarded
  · intro call
    change (exec hash reg event.1).bind _ = some target
    rw [call, Option.bind_some]
    exact if_pos rfl

end SubscriberRegistry

end Stack

end Gsml3
