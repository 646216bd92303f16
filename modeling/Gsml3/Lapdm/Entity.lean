import Gsml3.Foundation.Machine
import Gsml3.Lapdm.Frame

/-!
# LAPDm entity

The protocol state machine of one service access point: link establishment and
release, acknowledged transfer with a window of one frame modulo eight,
segmentation, reassembly and the acknowledgement timer T200.

The two callbacks of the source are recorded in order in `outputs`; everything
else a function reads or writes is a field of the record.
-/

namespace Gsml3

namespace Lapdm

/-- Protocol states of the entity. -/
inductive LAPDmState where
  | unused
  | linkReleased
  | awaitingEstablish
  | awaitingRelease
  | linkEstablished
  | contentionResolution
deriving DecidableEq, Repr

/-- Channel parameters: largest I-frame payload, retransmission budget and T200
in milliseconds. -/
structure LAPDmChannelProfile where
  n201 : Nat
  n200 : UInt32
  t200Ms : UInt32
deriving DecidableEq, Repr

namespace LAPDmChannelProfile

/-- The profile of a stand-alone control channel. -/
def SDCCH : LAPDmChannelProfile := ⟨20, 23, 900⟩
/-- The profile of a slow associated control channel. -/
def SACCH : LAPDmChannelProfile := ⟨18, 5, 3600⟩
/-- The profile of a fast associated control channel. -/
def FACCH : LAPDmChannelProfile := ⟨20, 34, 900⟩
/-- The profile of a fast associated control channel of a half rate channel. -/
def FACCH_LM : LAPDmChannelProfile := ⟨20, 29, 900⟩

end LAPDmChannelProfile

/-- The kind of frame that awaits an acknowledgement. -/
inductive PendingKind where
  | none
  | iFrame
  | sabme
  | disc
deriving DecidableEq, Repr

/-- One invocation of a callback. -/
inductive Output where
  | transmit (frameBytes : List UInt8)
  | deliver (sapi : SAPI) (prim : Primitive) (l3Data : List UInt8)
deriving DecidableEq, Repr

/-- The state of one entity. -/
structure LAPDmEntity where
  profile : LAPDmChannelProfile
  state : LAPDmState := .unused
  sapi : SAPI := .sapi0
  commandBit : Bool := true
  establishmentInProgress : Bool := false
  vs : Fin 8 := 0
  va : Fin 8 := 0
  vr : Fin 8 := 0
  pending : PendingKind := .none
  pendingNs : Fin 8 := 0
  pendingMore : Bool := false
  pendingInfo : List UInt8 := []
  rc : UInt32 := 0
  t200Active : Bool := false
  t200RemainingMs : UInt32 := 0
  reassemblyBuffer : List UInt8 := []
  txQueue : List UInt8 := []
  txMsgEnds : List Nat := []
  txMsgIdx : Nat := 0
  txQueuePos : Nat := 0
  contentionChecksum : UInt32 := 0
  framesSent : UInt32 := 0
  framesReceived : UInt32 := 0
  retransmissions : UInt32 := 0
  outputs : List Output := []
deriving DecidableEq, Repr

/-- Largest reassembled message. -/
def kMaxReassemblyBytes : Nat := 4096

namespace LAPDmEntity

/-! ## Internal helpers -/

/-- Hand an encoded frame to layer 1.  The transmit buffer of the source always
holds exactly the encoding, so the frame is encoded here. -/
def sendFrame (e : LAPDmEntity) (frame : LAPDmFrame) : LAPDmEntity :=
  { e with
    outputs := e.outputs ++ [.transmit (encodeFrame frame)]
    framesSent := e.framesSent + 1 }

/-- The callback to layer 3. -/
def deliverL3 (e : LAPDmEntity) (prim : Primitive) (data : List UInt8) : LAPDmEntity :=
  { e with outputs := e.outputs ++ [.deliver e.sapi prim data] }

/-- The state change, with no other effect. -/
def transitionTo (e : LAPDmEntity) (newState : LAPDmState) : LAPDmEntity :=
  { e with state := newState }

/-- Transmit a frame, mark it outstanding and start T200. -/
def saveForRetransmission (e : LAPDmEntity) (kind : PendingKind) (frame : LAPDmFrame) :
    LAPDmEntity :=
  let sent := { e with pending := kind, rc := 0 }.sendFrame frame
  { sent with t200Active := true, t200RemainingMs := e.profile.t200Ms }

/-- Sends the saved frame once more; a saved I frame gets the present V(R). -/
def retransmitPending (e : LAPDmEntity) : LAPDmEntity :=
  match e.pending with
  | .iFrame =>
      e.sendFrame
        (makeIFrame e.sapi e.commandBit e.vr e.pendingNs true e.pendingMore e.pendingInfo)
  | .sabme => e.sendFrame (makeSABMEFrame e.sapi e.commandBit e.pendingInfo)
  | .disc => e.sendFrame (makeDISCFrame e.sapi e.commandBit)
  | .none => e

/-- Sequence variables, timer, reassembly, queue and saved frame go back to their first values. -/
def clearCounters (e : LAPDmEntity) : LAPDmEntity :=
  { e with
    vs := 0, va := 0, vr := 0, rc := 0
    t200Active := false, t200RemainingMs := 0
    reassemblyBuffer := []
    txQueue := [], txMsgEnds := [], txQueuePos := 0, txMsgIdx := 0
    pending := .none, pendingInfo := [] }

/-- An acknowledgement without information. -/
def sendUA (e : LAPDmEntity) (pf : Bool) : LAPDmEntity :=
  e.sendFrame (makeUAFrame e.sapi pf [])

/-- An acknowledgement that echoes the information of a SABME. -/
def sendUAWithEcho (e : LAPDmEntity) (info : List UInt8) (pf : Bool) : LAPDmEntity :=
  e.sendFrame (makeUAFrame e.sapi pf info)

/-- The answer of an entity that is not connected. -/
def sendDM (e : LAPDmEntity) (pf : Bool) : LAPDmEntity :=
  e.sendFrame (makeDMFrame e.sapi pf)

/-- The supervisory frame that acknowledges up to V(R). -/
def sendRR (e : LAPDmEntity) (pf : Bool) : LAPDmEntity :=
  e.sendFrame (makeRRFrame e.sapi e.vr pf)

/-- The supervisory frame that asks for frames from V(R) on. -/
def sendREJ (e : LAPDmEntity) (pf : Bool) : LAPDmEntity :=
  e.sendFrame (makeREJFrame e.sapi e.vr pf)

/-- The release on an error, reported to layer 3; with a DM the entity becomes unused. -/
def abnormalRelease (e : LAPDmEntity) (withDM : Bool) : LAPDmEntity :=
  let alerted := if withDM then e.sendDM true else e
  let cleared := { alerted.clearCounters with establishmentInProgress := false }
  (cleared.transitionTo (if withDM then .unused else .linkReleased)).deliverL3
    .MDL_ERROR_INDICATION []

/-- The sum of the octets, which stands for the content of a SABME. -/
def computeChecksum (data : List UInt8) : UInt32 :=
  data.foldl (fun sum octet => sum + octet.toUInt32) 0

/-- Number, store and transmit one segment. -/
def buildIFrame (e : LAPDmEntity) (payload : List UInt8) (more : Bool) : LAPDmEntity :=
  let stored :=
    { e with
      vs := e.vs + 1, pendingNs := e.vs, pendingMore := more, pendingInfo := payload }
  stored.saveForRetransmission .iFrame
    (makeIFrame e.sapi e.commandBit e.vr e.vs false more payload)

/-- Advance the queue past a segment of `chunkSize` octets of a message ending
at `msgEnd`; a drained queue is emptied. -/
def advanceQueue (e : LAPDmEntity) (msgEnd chunkSize : Nat) : LAPDmEntity :=
  if msgEnd ≤ e.txQueuePos + chunkSize then
    if e.txMsgEnds.length ≤ e.txMsgIdx + 1 then
      { e with txQueue := [], txMsgEnds := [], txQueuePos := 0, txMsgIdx := 0 }
    else
      { e with txQueuePos := e.txQueuePos + chunkSize, txMsgIdx := e.txMsgIdx + 1 }
  else
    { e with txQueuePos := e.txQueuePos + chunkSize }

/-- Transmit the next queued segment when no I-frame is outstanding. -/
def trySendNextSegment (e : LAPDmEntity) : LAPDmEntity :=
  if e.vs ≠ e.va then e
  else
    match e.txMsgEnds[e.txMsgIdx]? with
    | none => e
    | some msgEnd =>
        let remaining := msgEnd - e.txQueuePos
        let chunkSize := min remaining e.profile.n201
        let moreBit := decide (e.profile.n201 < remaining)
        (e.buildIFrame ((e.txQueue.drop e.txQueuePos).take chunkSize) moreBit).advanceQueue
          msgEnd chunkSize

/-- Takes N(R) as V(A); with nothing outstanding the timer stops and the next segment goes out. -/
def processAck (e : LAPDmEntity) (nr : Fin 8) : LAPDmEntity :=
  let acked := { e with va := nr }
  if acked.va = acked.vs then
    { acked with rc := 0, t200Active := false }.trySendNextSegment
  else acked

/-! ## U-frame handlers -/

/-- A SABME without the poll bit is ignored. -/
def handleSABME (e : LAPDmEntity) (frame : LAPDmFrame) : LAPDmEntity :=
  if frame.pf = false then e
  else
    match e.state with
    | .linkReleased =>
        let accepted :=
          { e.clearCounters with establishmentInProgress := true }.deliverL3
            .L3_ESTABLISH_INDICATION frame.info
        if frame.info ≠ [] then
          let answered :=
            { accepted with contentionChecksum := computeChecksum frame.info }.sendUAWithEcho
              frame.info frame.pf
          answered.transitionTo
            (if e.sapi = .sapi0 then .contentionResolution else .linkEstablished)
        else
          (accepted.transitionTo .linkEstablished).sendUA frame.pf
    | .awaitingEstablish => e.sendUA frame.pf
    | .awaitingRelease => e.sendDM frame.pf
    | .linkEstablished =>
        if e.establishmentInProgress then
          if frame.info ≠ [] then e.sendUAWithEcho frame.info frame.pf
          else e.sendUA frame.pf
        else if frame.info ≠ [] then e.abnormalRelease true
        else (e.sendUA frame.pf).clearCounters
    | .contentionResolution =>
        if frame.info ≠ [] ∧ computeChecksum frame.info = e.contentionChecksum then
          (e.sendUAWithEcho frame.info frame.pf).transitionTo .linkEstablished
        else e
    | .unused => e

/-- A UA without the final bit is ignored. -/
def handleUA (e : LAPDmEntity) (frame : LAPDmFrame) : LAPDmEntity :=
  if frame.pf = false then e
  else
    match e.state with
    | .awaitingEstablish =>
        (e.clearCounters.transitionTo .linkEstablished).deliverL3 .L3_ESTABLISH_CONFIRM []
    | .awaitingRelease =>
        (e.clearCounters.transitionTo .linkReleased).deliverL3 .L3_RELEASE_CONFIRM []
    | _ => e

/-- A DM without the final bit is ignored. -/
def handleDM (e : LAPDmEntity) (frame : LAPDmFrame) : LAPDmEntity :=
  if frame.pf = false then e
  else
    match e.state with
    | .awaitingEstablish | .linkEstablished | .contentionResolution =>
        { e with t200Active := true, t200RemainingMs := e.profile.t200Ms }.deliverL3
          .L3_RELEASE_INDICATION []
    | .awaitingRelease =>
        (e.clearCounters.transitionTo .linkReleased).deliverL3 .L3_RELEASE_CONFIRM []
    | _ => e

/-- A DISC ends a link or its release with a UA; in the released state the answer is a DM. -/
def handleDISC (e : LAPDmEntity) (frame : LAPDmFrame) : LAPDmEntity :=
  let e := { e with establishmentInProgress := false }
  match e.state with
  | .linkReleased => e.sendDM frame.pf
  | .awaitingEstablish =>
      (e.clearCounters.transitionTo .linkReleased).deliverL3 .L3_RELEASE_INDICATION []
  | .awaitingRelease =>
      ((e.sendUA frame.pf).clearCounters.transitionTo .linkReleased).deliverL3
        .L3_RELEASE_CONFIRM []
  | .linkEstablished | .contentionResolution =>
      ((e.sendUA frame.pf).clearCounters.transitionTo .linkReleased).deliverL3
        .L3_RELEASE_INDICATION []
  | .unused => e

/-- The information of a UI frame goes to layer 3 in every state. -/
def handleUI (e : LAPDmEntity) (frame : LAPDmFrame) : LAPDmEntity :=
  e.deliverL3 .L3_UNIT_DATA frame.info

/-- The handler of each unnumbered frame. -/
def receiveUFrame (e : LAPDmEntity) (frame : LAPDmFrame) : LAPDmEntity :=
  match frame.uType with
  | .sabme => e.handleSABME frame
  | .ua => e.handleUA frame
  | .dm => e.handleDM frame
  | .disc => e.handleDISC frame
  | .ui => e.handleUI frame

/-! ## I- and S-frame handlers -/

/-- Count one received I-frame in V(R). -/
def advanceVR (e : LAPDmEntity) : LAPDmEntity :=
  { e with vr := e.vr + 1 }

/-- The part of the I-frame handler behind the sequence check: `e` already
counts the frame in V(R). -/
def acceptIFrame (e : LAPDmEntity) (frame : LAPDmFrame) : LAPDmEntity :=
  if e.profile.n201 < frame.info.length ∨
      kMaxReassemblyBytes < e.reassemblyBuffer.length + frame.info.length then
    e.abnormalRelease false
  else
    let appended := { e with reassemblyBuffer := e.reassemblyBuffer ++ frame.info }
    let handled :=
      if frame.more then appended
      else
        { appended.deliverL3 .L3_DATA appended.reassemblyBuffer with reassemblyBuffer := [] }
    handled.sendRR frame.iCtrl.pf

/-- The sequence check of the I-frame handler and what follows it. -/
def checkSequence (e : LAPDmEntity) (frame : LAPDmFrame) : LAPDmEntity :=
  if frame.iCtrl.ns ≠ e.vr then e.sendREJ frame.iCtrl.pf
  else e.advanceVR.acceptIFrame frame

/-- Contention resolution ends with the first frame of the established link. -/
def completeEstablishment (e : LAPDmEntity) : LAPDmEntity :=
  if e.state = .contentionResolution then e.transitionTo .linkEstablished else e

/-- An I frame ends contention resolution; its N(R) is taken before its N(S) is checked. -/
def receiveIFrame (e : LAPDmEntity) (frame : LAPDmFrame) : LAPDmEntity :=
  let e := { e with establishmentInProgress := false }.completeEstablishment
  if e.state ≠ .linkEstablished then e
  else (e.processAck frame.iCtrl.nr).checkSequence frame

/-- An RR or REJ ends contention resolution and is taken on a link only; an RNR releases in any
state. -/
def receiveSFrame (e : LAPDmEntity) (frame : LAPDmFrame) : LAPDmEntity :=
  let e := { e with establishmentInProgress := false }
  match frame.sType with
  | .rr =>
      let e := e.completeEstablishment
      if e.state ≠ .linkEstablished then e
      else
        let acked := e.processAck frame.nr
        if frame.pf && frame.address.command then acked.sendRR true else acked
  | .rnr => e.abnormalRelease true
  | .rej =>
      let e := e.completeEstablishment
      if e.state ≠ .linkEstablished then e
      else
        let acked := e.processAck frame.nr
        if frame.pf then
          if frame.address.command then acked.abnormalRelease true else acked.sendRR true
        else acked
  | .reserved => e

/-! ## Public interface -/

/-- `open` of the source. -/
def openEntity (e : LAPDmEntity) (sapi : SAPI) (commandBit : Bool) : LAPDmEntity :=
  { e with sapi := sapi, commandBit := commandBit }.clearCounters.transitionTo .linkReleased

/-- A frame that does not decode is dropped; one of another SAPI is counted and dropped. -/
def receiveFrame (e : LAPDmEntity) (frameBytes : List UInt8) : LAPDmEntity :=
  match LAPDmFrame.decode frameBytes with
  | .error _ => e
  | .ok frame =>
      let e := { e with framesReceived := e.framesReceived + 1 }
      if frame.address.sapi ≠ e.sapi then e
      else
        match frame.format with
        | .iFormat => e.receiveIFrame frame
        | .sFormat => e.receiveSFrame frame
        | .uFormat => e.receiveUFrame frame

/-- Unacknowledged data is sent in every state. -/
def sendUI (e : LAPDmEntity) (sapi : SAPI) (l3Data : List UInt8) :
    LAPDmEntity × Except ParseError Unit :=
  (e.sendFrame (makeUIFrame sapi e.commandBit l3Data), .ok ())

/-- Whether layer 3 may send acknowledged data. -/
def isEstablished (e : LAPDmEntity) : Bool :=
  e.state = .linkEstablished || e.state = .contentionResolution

/-- Whether a frame waits for its acknowledgement. -/
def hasOutstandingFrame (e : LAPDmEntity) : Bool :=
  e.vs ≠ e.va

/-- Append one message to the transmit queue. -/
def enqueue (e : LAPDmEntity) (l3Data : List UInt8) : LAPDmEntity :=
  { e with
    txQueue := e.txQueue ++ l3Data
    txMsgEnds := e.txMsgEnds ++ [e.txQueue.length + l3Data.length] }

/-- Acknowledged data is refused without a link, and when it is empty. -/
def sendData (e : LAPDmEntity) (l3Data : List UInt8) :
    LAPDmEntity × Except ParseError Unit :=
  if e.isEstablished = false then
    (e, .error ⟨.invalidValue, "Link not established", 0⟩)
  else if l3Data = [] then
    (e, .error ⟨.truncatedInput, "Empty data", 0⟩)
  else
    ((e.enqueue l3Data).trySendNextSegment, .ok ())

/-- Starts an establishment from the released state; an established link is only confirmed. -/
def sendSABME (e : LAPDmEntity) (info : List UInt8) :
    LAPDmEntity × Except ParseError Unit :=
  if e.isEstablished then (e.deliverL3 .L3_ESTABLISH_CONFIRM [], .ok ())
  else if e.state ≠ .linkReleased then
    (e, .error ⟨.invalidValue, "Not in LinkReleased state", 0⟩)
  else
    let stored := { e with pendingInfo := info }
    let sent :=
      stored.saveForRetransmission .sabme (makeSABMEFrame e.sapi e.commandBit info)
    (sent.transitionTo .awaitingEstablish, .ok ())

/-- Starts a release of an established link. -/
def sendDISC (e : LAPDmEntity) : LAPDmEntity × Except ParseError Unit :=
  if e.isEstablished = false then
    (e, .error ⟨.invalidValue, "Cannot DISC from current state", 0⟩)
  else
    let sent := e.saveForRetransmission .disc (makeDISCFrame e.sapi e.commandBit)
    (sent.transitionTo .awaitingRelease, .ok ())

/-- The release without a frame. -/
def hardRelease (e : LAPDmEntity) : LAPDmEntity :=
  { e.clearCounters with establishmentInProgress := false }.transitionTo .linkReleased

/-- Advance T200.  An expiry retransmits the outstanding frame while the
counter is at most N200 and releases the link otherwise. -/
def tickT200 (e : LAPDmEntity) (elapsed : Int) : LAPDmEntity × Bool :=
  if e.t200Active = false then (e, false)
  else if elapsed < e.t200RemainingMs.toNat then
    ({ e with t200RemainingMs := e.t200RemainingMs - UInt32.ofInt elapsed }, false)
  else
    let expired := { e with t200RemainingMs := 0, t200Active := false }
    if e.rc ≤ e.profile.n200 then
      let again := expired.retransmitPending
      ({ again with
          rc := again.rc + 1
          retransmissions := again.retransmissions + 1
          t200Active := true
          t200RemainingMs := e.profile.t200Ms }, true)
    else (expired.abnormalRelease false, true)

/-- The frame counters go back to 0. -/
def resetStats (e : LAPDmEntity) : LAPDmEntity :=
  { e with framesSent := 0, framesReceived := 0, retransmissions := 0 }

/-- A call of the public interface. -/
inductive Call where
  | openEntity (sapi : SAPI) (commandBit : Bool)
  | receiveFrame (frameBytes : List UInt8)
  | sendUI (sapi : SAPI) (l3Data : List UInt8)
  | sendData (l3Data : List UInt8)
  | sendSABME (info : List UInt8)
  | sendDISC
  | hardRelease
  | tickT200 (elapsed : Int)
  | resetStats
deriving DecidableEq, Repr

/-- The entity after one call. -/
def call (e : LAPDmEntity) : Call → LAPDmEntity
  | .openEntity sapi commandBit => e.openEntity sapi commandBit
  | .receiveFrame frameBytes => e.receiveFrame frameBytes
  | .sendUI sapi l3Data => (e.sendUI sapi l3Data).1
  | .sendData l3Data => (e.sendData l3Data).1
  | .sendSABME info => (e.sendSABME info).1
  | .sendDISC => e.sendDISC.1
  | .hardRelease => e.hardRelease
  | .tickT200 elapsed => (e.tickT200 elapsed).1
  | .resetStats => e.resetStats

/-- The entity as a machine; every call returns. -/
def machine : Foundation.Machine LAPDmEntity Call where
  step := fun e request => some (e.call request)

/-- The entities a program can hold: any calls on a newly constructed one. -/
def Reachable (e : LAPDmEntity) : Prop :=
  ∃ profile calls, machine.Run (fun _ _ _ => True) { profile := profile } calls e

end LAPDmEntity

end Lapdm

end Gsml3
