import Gsml3.Stack.MobilityProcedures
import Gsml3.Stack.CallProcedures
import Gsml3.Stack.RadioProcedures

/-!
# Procedure runner

The procedures of one subscriber: routing of messages to the active procedures,
automatic creation, and release of the slots of finished procedures.  Every
call lists the notifications its active-change observer receives, in order.
-/

namespace Gsml3

namespace Stack

/-- A procedure of any class. -/
inductive Procedure where
  | locationUpdate (own : LocationUpdate)
  | authentication (own : Authentication)
  | cipheringMode (own : CipheringMode)
  | callSetupMO (own : CallSetupMO)
  | callSetupMT (own : CallSetupMT)
  | channelAssignment (own : ChannelAssignment)
  | handover (own : Handover)
  | paging (own : Paging)
  | imsiDetach (own : IMSIDetach)
  | callRelease (own : CallRelease)
deriving DecidableEq, Repr

namespace Procedure

/-- The kind of a procedure. -/
def type : Procedure → ProcedureType
  | .locationUpdate _ => LocationUpdate.type
  | .authentication _ => Authentication.type
  | .cipheringMode _ => CipheringMode.type
  | .callSetupMO _ => CallSetupMO.type
  | .callSetupMT _ => CallSetupMT.type
  | .channelAssignment _ => ChannelAssignment.type
  | .handover _ => Handover.type
  | .paging _ => Paging.type
  | .imsiDetach _ => IMSIDetach.type
  | .callRelease _ => CallRelease.type

/-- The state of a procedure. -/
def state : Procedure → ProcedureState
  | .locationUpdate own => own.base.procState
  | .authentication own => own.base.procState
  | .cipheringMode own => own.base.procState
  | .callSetupMO own => own.base.procState
  | .callSetupMT own => own.base.procState
  | .channelAssignment own => own.base.procState
  | .handover own => own.base.procState
  | .paging own => own.base.procState
  | .imsiDetach own => own.base.procState
  | .callRelease own => own.base.procState

/-- The timer of the procedure is running. -/
def timerRunning : Procedure → Bool
  | .locationUpdate own => own.base.timerRunning
  | .authentication own => own.base.timerRunning
  | .cipheringMode own => own.base.timerRunning
  | .callSetupMO own => own.base.timerRunning
  | .callSetupMT own => own.base.timerRunning
  | .channelAssignment own => own.base.timerRunning
  | .handover own => own.base.timerRunning
  | .paging own => own.base.timerRunning
  | .imsiDetach own => own.base.timerRunning
  | .callRelease own => own.base.timerRunning

/-- The procedure accepts the message. -/
def accepts (proc : Procedure) (msg : ParsedMessage) : Bool :=
  match proc with
  | .locationUpdate _ => LocationUpdate.Matches msg
  | .authentication _ => Authentication.Matches msg
  | .cipheringMode _ => CipheringMode.Matches msg
  | .callSetupMO _ => CallSetupMO.Matches msg
  | .callSetupMT _ => CallSetupMT.Matches msg
  | .channelAssignment _ => ChannelAssignment.Matches msg
  | .handover _ => Handover.Matches msg
  | .paging _ => Paging.Matches msg
  | .imsiDetach _ => IMSIDetach.Matches msg
  | .callRelease _ => CallRelease.Matches msg

/-- A message goes to the procedure of whichever kind. -/
def feed (proc : Procedure) (msg : ParsedMessage) (session : Option SessionCore) :
    Fed Procedure :=
  match proc with
  | .locationUpdate own => (own.feed msg session).map .locationUpdate
  | .authentication own => (own.feed msg session).map .authentication
  | .cipheringMode own => (own.feed msg session).map .cipheringMode
  | .callSetupMO own => (own.feed msg session).map .callSetupMO
  | .callSetupMT own => (own.feed msg session).map .callSetupMT
  | .channelAssignment own => (own.feed msg session).map .channelAssignment
  | .handover own => (own.feed msg session).map .handover
  | .paging own => (own.feed msg session).map .paging
  | .imsiDetach own => (own.feed msg session).map .imsiDetach
  | .callRelease own => (own.feed msg session).map .callRelease

/-- Procedures without a handler of their own ignore external data. -/
def feedExternalTyped (proc : Procedure) (data : ExternalData) (session : Option SessionCore) :
    Fed Procedure :=
  match proc with
  | .locationUpdate own => (own.feedExternalTyped data session).map .locationUpdate
  | .authentication own => (own.feedExternalTyped data session).map .authentication
  | .cipheringMode own => (own.feedExternalTyped data session).map .cipheringMode
  | .callSetupMT own => (own.feedExternalTyped data session).map .callSetupMT
  | .handover own => (own.feedExternalTyped data session).map .handover
  | .paging own => (own.feedExternalTyped data session).map .paging
  | .callSetupMO _ | .channelAssignment _ | .imsiDetach _ | .callRelease _ => ⟨proc, session, {}⟩

/-- Time passes for the procedure of whichever kind. -/
def tick (proc : Procedure) (delta : Int) : Procedure × ProcedureStepResult :=
  match proc with
  | .locationUpdate own => (own.tick delta).map .locationUpdate id
  | .authentication own => (own.tick delta).map .authentication id
  | .cipheringMode own => (own.tick delta).map .cipheringMode id
  | .callSetupMO own => (own.tick delta).map .callSetupMO id
  | .callSetupMT own => (own.tick delta).map .callSetupMT id
  | .channelAssignment own => (own.tick delta).map .channelAssignment id
  | .handover own => (own.tick delta).map .handover id
  | .paging own => (own.tick delta).map .paging id
  | .imsiDetach own => (own.tick delta).map .imsiDetach id
  | .callRelease own => (own.tick delta).map .callRelease id

end Procedure

/-! ## Factory -/

namespace ProcedureFactory

/-- A new location update. -/
def createLocationUpdate : Procedure := .locationUpdate {}

/-- A new authentication. -/
def createAuthentication : Procedure := .authentication {}

/-- A new ciphering mode change. -/
def createCipheringMode (algo : UInt8) : Procedure := .cipheringMode { cipherAlgo := algo }

/-- A new call from a mobile. -/
def createCallSetupMO : Procedure := .callSetupMO {}

/-- A new call to a mobile. -/
def createCallSetupMT (calledNumber : List Char) : Procedure :=
  .callSetupMT { calledNumber := calledNumber }

/-- A new channel assignment. -/
def createChannelAssignment (target : ChannelType) : Procedure :=
  .channelAssignment { targetType := target }

/-- A new paging. -/
def createPaging (identity : L3MobileIdentity) : Procedure := .paging { identity := identity }

/-- A new handover. -/
def createHandover (target : L3ChannelDescription) : Procedure :=
  .handover { targetChannel := target }

/-- A new call release. -/
def createCallRelease (ti : UInt8) (cause : CCCause) : Procedure :=
  .callRelease { ti := ti, cause := cause }

/-- A new detach. -/
def createIMSIDetach : Procedure := .imsiDetach {}

end ProcedureFactory

/-! ## Runner -/

/-- Number of procedure slots. -/
def maxProcedures : Nat := 8

theorem inactive_length :
    (List.replicate maxProcedures (none : Option Procedure)).length = maxProcedures := rfl

/-- A slot is active exactly when it holds a procedure. -/
structure ProcedureRunner where
  slots : List (Option Procedure) := List.replicate maxProcedures none
  slots_length : slots.length = maxProcedures := by exact inactive_length
deriving DecidableEq

/-- Outcome of a call on a runner. -/
structure Ran where
  runner : ProcedureRunner
  session : Option SessionCore
  result : ProcedureStepResult := {}
  notified : List Bool := []

namespace ProcedureRunner

/-- Put a procedure into a slot, or empty it. -/
def setSlot (runner : ProcedureRunner) (i : Nat) (proc : Option Procedure) : ProcedureRunner :=
  ⟨runner.slots.set i proc, by rw [List.length_set, runner.slots_length]⟩

/-- The number of slots in use. -/
def activeCount (runner : ProcedureRunner) : Nat :=
  runner.slots.countP Option.isSome

/-- First active slot whose procedure satisfies `p`. -/
def findActive (runner : ProcedureRunner) (p : Procedure → Bool) : Option (Nat × Procedure) :=
  runner.slots.zipIdx.findSome? fun (slot, i) => (slot.filter p).map fun proc => (i, proc)

/-- The kind that a protocol discriminator stands for. -/
def pdToProcedureType : L3PD → ProcedureType
  | .radioResource => .channelAssignment
  | .mobilityManagement => .locationUpdate
  | .callControl => .callSetupMO
  | _ => .unknown

/-- The slot of the procedure that a protocol discriminator stands for. -/
def findActiveSlotByPD (runner : ProcedureRunner) (pd : L3PD) : Option (Nat × Procedure) :=
  runner.findActive fun proc => proc.type = pdToProcedureType pd

/-- Put a new procedure into the first free slot; the observer learns of the
first active procedure. -/
def insertSlot (runner : ProcedureRunner) (proc : Procedure) :
    Option (ProcedureRunner × Nat × List Bool) :=
  (runner.slots.findIdx? Option.isNone).map fun i =>
    (runner.setSlot i (some proc), i, if runner.activeCount = 0 then [true] else [])

/-- Free the slot of a finished procedure; the observer learns that none is
left. -/
def cleanupSlotIfTerminal (runner : ProcedureRunner) (idx : Nat) :
    ProcedureRunner × List Bool :=
  match runner.slots[idx]? with
  | some (some proc) =>
      if proc.state.isTerminal then
        let cleaned := runner.setSlot idx none
        (cleaned, if cleaned.activeCount = 0 then [false] else [])
      else (runner, [])
  | _ => (runner, [])

/-- Store the outcome of feeding the procedure in slot `i`. -/
def store (runner : ProcedureRunner) (i : Nat) (fed : Fed Procedure) : Ran :=
  let (cleaned, notified) := (runner.setSlot i (some fed.proc)).cleanupSlotIfTerminal i
  ⟨cleaned, fed.session, fed.result, notified⟩

/-- The procedure that a message starts, if it starts one. -/
def autoCreateProcedure (msg : ParsedMessage) : Option Procedure :=
  match messagePD msg with
  | .radioResource =>
      if messageMTI msg = MTI.channelRequest ∨ messageMTI msg = MTI.pagingResponse then
        some (ProcedureFactory.createChannelAssignment .sdcchType)
      else none
  | .mobilityManagement =>
      if messageMTI msg = MTI.cmServiceRequest ∧
          msg.cmServiceRequest? = some .locationUpdateRequest then
        some ProcedureFactory.createLocationUpdate
      else if messageMTI msg = MTI.imsiDetachIndication then
        some ProcedureFactory.createIMSIDetach
      else none
  | .callControl =>
      if messageMTI msg = MTI.setup then some ProcedureFactory.createCallSetupMO
      else if messageMTI msg = MTI.disconnect then
        some (ProcedureFactory.createCallRelease 0 .normalCallClearing)
      else none
  | _ => none

/-- Feed a message: to an active procedure that accepts it, else to the active
procedure of its discriminator, else to a new procedure. -/
def feed (runner : ProcedureRunner) (msg : ParsedMessage) (session : Option SessionCore) : Ran :=
  match runner.findActive fun proc => proc.accepts msg with
  | some (i, proc) => runner.store i (proc.feed msg session)
  | none =>
      match runner.findActiveSlotByPD (messagePD msg) with
      | some (i, proc) => runner.store i (proc.feed msg session)
      | none =>
          match (autoCreateProcedure msg).bind fun proc =>
              (runner.insertSlot proc).map fun inserted => (proc, inserted) with
          | some (proc, inserted, i, started) =>
              let session := session.map fun s => s.expose fun _ => {}
              let ran := inserted.store i (proc.feed msg session)
              { ran with notified := started ++ ran.notified }
          | none => ⟨runner, session, {}, []⟩

/-- Data for a kind that has no active procedure is dropped. -/
def feedExternalTyped (runner : ProcedureRunner) (type : ProcedureType)
    (session : Option SessionCore) (data : ExternalData) : Ran :=
  match runner.findActive fun proc => proc.type = type with
  | some (i, proc) => runner.store i (proc.feedExternalTyped data session)
  | none => ⟨runner, session, {}, []⟩

/-- Tick the procedure in one slot; the count is that of failed procedures. -/
def tickSlot (delta : Int) (ticked : ProcedureRunner × Nat × List Bool) (i : Nat) :
    ProcedureRunner × Nat × List Bool :=
  let (runner, failedCount, notified) := ticked
  match runner.slots[i]? with
  | some (some proc) =>
      let (proc, result) := proc.tick delta
      let (cleaned, cleanup) := (runner.setSlot i (some proc)).cleanupSlotIfTerminal i
      (cleaned, if result.action = .failed then failedCount + 1 else failedCount,
        notified ++ cleanup)
  | _ => ticked

/-- The slots are ticked in their order. -/
def tickAll (runner : ProcedureRunner) (delta : Int) : ProcedureRunner × Nat × List Bool :=
  (List.range maxProcedures).foldl (tickSlot delta) (runner, 0, [])

/-- Cancelled procedures are destroyed with their slots. -/
def cancelAll (runner : ProcedureRunner) : ProcedureRunner × List Bool :=
  ({}, if runner.activeCount = 0 then [] else [false])

end ProcedureRunner

end Stack

end Gsml3
