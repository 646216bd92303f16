import Gsml3.Lapdm.Contention
import Gsml3.Lapdm.Window

/-!
# What a call does to the data of a link

The transitions of an entity, read for the data it holds: the numbers, the outstanding frame,
the transmit queue, the reassembly buffer and the information of the establishment.  The flag,
the timer, the statistics and the callbacks are followed only as far as they tell the upper
layer something.
-/

namespace Gsml3

namespace Lapdm

namespace LAPDmEntity

/-- The upper layer is told of a release or of an error. -/
def Notifies (outputs : List Output) : Prop :=
  ∃ sapi prim l3Data, Output.deliver sapi prim l3Data ∈ outputs ∧
    (prim = .L3_RELEASE_INDICATION ∨ prim = .L3_RELEASE_CONFIRM ∨ prim = .MDL_ERROR_INDICATION)

/-- An entity without flag, timer, statistics and callbacks. -/
def bare (e : LAPDmEntity) : LAPDmEntity :=
  { e with
    establishmentInProgress := false
    rc := 0, t200Active := false, t200RemainingMs := 0
    pendingNs := 0, pendingMore := false
    framesSent := 0, framesReceived := 0, retransmissions := 0
    outputs := [] }

/-- The callbacks between two states of an entity pass up no data. -/
def Silent (e target : LAPDmEntity) : Prop :=
  ∃ new, target.outputs = e.outputs ++ new ∧ passedUp new = []

/-- The flag is not set, but may be cleared. -/
def FlagFalls (e target : LAPDmEntity) : Prop :=
  target.establishmentInProgress = true → e.establishmentInProgress = true

/-- Nothing happens to the data of the link. -/
structure Keeps (e target : LAPDmEntity) : Prop where
  bare : target.bare = e.bare
  flag : FlagFalls e target
  silent : Silent e target

/-- The link goes down, its data is gone and the upper layer is told.  Only a link that was
not established keeps the flag. -/
structure Releases (e target : LAPDmEntity) : Prop where
  down : target.state = .linkReleased ∨ target.state = .unused
  bare : target.bare = (e.clearCounters.transitionTo target.state).bare
  flag : FlagFalls e target
  kept : target.establishmentInProgress = true → e.isEstablished = false
  told : ∃ new, target.outputs = e.outputs ++ new ∧ passedUp new = [] ∧ Notifies new

/-- A SABME with information `info` establishes the link. -/
structure Accepts (e : LAPDmEntity) (info : List UInt8) (target : LAPDmEntity) : Prop where
  flag : target.establishmentInProgress = true
  state : target.state =
    if info ≠ [] ∧ e.sapi = .sapi0 then .contentionResolution else .linkEstablished
  bare : target.bare =
    ({ e.clearCounters with
        contentionChecksum := if info = [] then e.contentionChecksum else computeChecksum info
      }.transitionTo target.state).bare
  silent : Silent e target

theorem Accepts.contentionChecksum {e target : LAPDmEntity} {info : List UInt8}
    (accepts : Accepts e info target) (informative : info ≠ []) :
    target.contentionChecksum = computeChecksum info :=
  (congrArg LAPDmEntity.contentionChecksum accepts.bare :).trans (if_neg informative)

/-- What a call handed to the callbacks. -/
def news (e target : LAPDmEntity) : List Output :=
  target.outputs.drop e.outputs.length

/-- The new outputs are those behind the old ones. -/
theorem news_of_outputs {e target : LAPDmEntity} {new : List Output}
    (outputs : target.outputs = e.outputs ++ new) : news e target = new := by
  rw [news, outputs, List.drop_left]

section Frames

variable {e middle target : LAPDmEntity}

theorem Silent.refl (e : LAPDmEntity) : Silent e e :=
  ⟨[], (List.append_nil _).symm, rfl⟩

/-- Steps without a payload for layer 3 compose. -/
theorem Silent.trans (first : Silent e middle) (second : Silent middle target) :
    Silent e target := by
  obtain ⟨before, outputs, none⟩ := first
  obtain ⟨after, more, still⟩ := second
  refine ⟨before ++ after, ?_, ?_⟩
  · rw [more, outputs, List.append_assoc]
  · rw [passedUp_append, none, still, List.append_nil]

/-- Silence before a step leaves the payloads to the step. -/
theorem Silent.passed (silent : Silent e middle) {new : List Output}
    {payloads : List (List UInt8)} (outputs : target.outputs = middle.outputs ++ new)
    (passed : passedUp new = payloads) :
    ∃ all, target.outputs = e.outputs ++ all ∧ passedUp all = payloads := by
  obtain ⟨before, earlier, none⟩ := silent
  refine ⟨before ++ new, ?_, ?_⟩
  · rw [outputs, earlier, List.append_assoc]
  · rw [passedUp_append, none, List.nil_append, passed]

theorem Keeps.refl (e : LAPDmEntity) : Keeps e e :=
  ⟨rfl, id, .refl e⟩

/-- Steps that keep the data of the link compose. -/
theorem Keeps.trans (first : Keeps e middle) (second : Keeps middle target) : Keeps e target :=
  ⟨second.bare.trans first.bare, first.flag ∘ second.flag, first.silent.trans second.silent⟩

/-- What two entities agree on stays after both are changed alike. -/
theorem Keeps.bare_of (keeps : Keeps e target) (change : LAPDmEntity → LAPDmEntity)
    (reads : ∀ kept : LAPDmEntity, (change kept).bare = (change kept.bare).bare) :
    (change target).bare = (change e).bare := by
  rw [reads target, keeps.bare, ← reads e]

theorem Keeps.state (keeps : Keeps e target) : target.state = e.state :=
  (congrArg LAPDmEntity.state keeps.bare :)

theorem Keeps.isEstablished (keeps : Keeps e target) : target.isEstablished = e.isEstablished :=
  (congrArg LAPDmEntity.isEstablished keeps.bare :)

theorem Keeps.sapi (keeps : Keeps e target) : target.sapi = e.sapi :=
  (congrArg LAPDmEntity.sapi keeps.bare :)

theorem Keeps.vs (keeps : Keeps e target) : target.vs = e.vs :=
  (congrArg LAPDmEntity.vs keeps.bare :)

theorem Keeps.va (keeps : Keeps e target) : target.va = e.va :=
  (congrArg LAPDmEntity.va keeps.bare :)

theorem Keeps.vr (keeps : Keeps e target) : target.vr = e.vr :=
  (congrArg LAPDmEntity.vr keeps.bare :)

theorem Keeps.pendingInfo (keeps : Keeps e target) : target.pendingInfo = e.pendingInfo :=
  (congrArg LAPDmEntity.pendingInfo keeps.bare :)

theorem Keeps.reassemblyBuffer (keeps : Keeps e target) :
    target.reassemblyBuffer = e.reassemblyBuffer :=
  (congrArg LAPDmEntity.reassemblyBuffer keeps.bare :)

theorem Keeps.contentionChecksum (keeps : Keeps e target) :
    target.contentionChecksum = e.contentionChecksum :=
  (congrArg LAPDmEntity.contentionChecksum keeps.bare :)

/-- Frames are handed to layer 1 without a change to the link. -/
theorem keeps_sendFrame (e : LAPDmEntity) (frame : LAPDmFrame) : Keeps e (e.sendFrame frame) :=
  ⟨rfl, id, ⟨_, rfl, rfl⟩⟩

/-- Counting a frame does nothing to the data of the link. -/
theorem keeps_counted (e : LAPDmEntity) :
    Keeps e { e with framesReceived := e.framesReceived + 1 } :=
  ⟨rfl, id, .refl e⟩

/-- Clearing the flag does nothing to the data of the link. -/
theorem keeps_settled (e : LAPDmEntity) : Keeps e { e with establishmentInProgress := false } :=
  ⟨rfl, nofun, .refl e⟩

/-- An abnormal release empties the link. -/
theorem abnormalRelease_releases (e : LAPDmEntity) (withDM : Bool) :
    Releases e (e.abnormalRelease withDM) := by
  cases withDM with
  | false =>
      refine ⟨.inl rfl, rfl, nofun, nofun, ⟨_, rfl, rfl, ?_⟩⟩
      exact ⟨_, _, _, List.mem_singleton_self _, .inr (.inr rfl)⟩
  | true =>
      refine ⟨.inr rfl, rfl, nofun, nofun, ?_⟩
      refine ⟨_, List.append_assoc .., rfl, ?_⟩
      exact ⟨_, _, _, List.mem_append_right _ (List.mem_singleton_self _), .inr (.inr rfl)⟩

/-- A release behind steps that leave the peers and the receive side alone. -/
theorem Releases.after (releases : Releases middle target)
    (bare : ∀ state, (middle.clearCounters.transitionTo state).bare =
      (e.clearCounters.transitionTo state).bare)
    (flag : FlagFalls e middle)
    (idle : middle.establishmentInProgress = true → middle.isEstablished = false →
      e.isEstablished = false)
    (silent : Silent e middle) : Releases e target := by
  obtain ⟨down, cleared, falls, kept, after, more, still, told⟩ := releases
  obtain ⟨before, outputs, none⟩ := silent
  refine ⟨down, cleared.trans (bare _), flag ∘ falls, fun set => ?_, ?_⟩
  · exact idle (falls set) (kept set)
  refine ⟨before ++ after, ?_, ?_, ?_⟩
  · rw [more, outputs, List.append_assoc]
  · rw [passedUp_append, none, still, List.append_nil]
  · obtain ⟨sapi, prim, l3Data, member, kind⟩ := told
    exact ⟨sapi, prim, l3Data, List.mem_append_right _ member, kind⟩

/-- What is kept before a release does not change its outcome. -/
theorem Keeps.releases (keeps : Keeps e middle) (releases : Releases middle target) :
    Releases e target :=
  releases.after (fun state => keeps.bare_of (·.clearCounters.transitionTo state) fun _ => rfl)
    keeps.flag (fun _ idle => keeps.isEstablished.symm.trans idle) keeps.silent

end Frames

/-! ## The send side -/

/-- Segments are taken from the queue; the peers, the receive side and the acknowledged number
stay. -/
structure Sends (e target : LAPDmEntity) : Prop where
  bare : target.clearCounters.bare = e.clearCounters.bare
  flag : target.establishmentInProgress = e.establishmentInProgress
  va : target.va = e.va
  vr : target.vr = e.vr
  reassemblyBuffer : target.reassemblyBuffer = e.reassemblyBuffer
  silent : Silent e target

theorem Sends.state {e target : LAPDmEntity} (sends : Sends e target) : target.state = e.state :=
  (congrArg LAPDmEntity.state sends.bare :)

/-- Sending a segment touches the send side only. -/
theorem trySendNextSegment_sends (e : LAPDmEntity) : Sends e e.trySendNextSegment := by
  rw [trySendNextSegment]
  by_cases idle : e.vs = e.va
  · rw [if_neg (not_not.mpr idle)]
    cases e.txMsgEnds[e.txMsgIdx]? with
    | none => exact ⟨rfl, rfl, rfl, rfl, rfl, .refl e⟩
    | some msgEnd =>
        simp only
        generalize (e.txQueue.drop e.txQueuePos).take _ = payload
        generalize decide (e.profile.n201 < msgEnd - e.txQueuePos) = more
        obtain ⟨queue, ends, pos, index, advanced⟩ := advanceQueue_frame
          (e.buildIFrame payload more) msgEnd (min (msgEnd - e.txQueuePos) e.profile.n201)
        rw [advanced]
        exact ⟨rfl, rfl, rfl, rfl, rfl, ⟨_, rfl, rfl⟩⟩
  · rw [if_pos idle]
    exact ⟨rfl, rfl, rfl, rfl, rfl, .refl e⟩

/-- Behind its new V(A) an acknowledgement touches the send side only. -/
theorem processAck_sends (e : LAPDmEntity) (nr : Fin 8) :
    Sends { e with va := nr } (e.processAck nr) := by
  rw [processAck]
  by_cases caught_up : nr = e.vs
  · simp only [caught_up, if_true]
    obtain ⟨bare, flag, va, vr, buffer, silent⟩ :=
      trySendNextSegment_sends { e with va := e.vs, rc := 0, t200Active := false }
    exact ⟨bare, flag, va, vr, buffer, silent⟩
  · simp only [if_neg caught_up]
    exact ⟨rfl, rfl, rfl, rfl, rfl, .refl _⟩

/-- A numbered frame is counted and ends the establishment. -/
def opened (e : LAPDmEntity) : LAPDmEntity :=
  { e with
    framesReceived := e.framesReceived + 1
    establishmentInProgress := false }.completeEstablishment

/-- An established link after it took over the N(R) of a frame. -/
def acknowledged (e : LAPDmEntity) (nr : Fin 8) : LAPDmEntity :=
  e.opened.processAck nr

/-- On an established link contention resolution ends with the frame. -/
theorem completeEstablishment_eq {e : LAPDmEntity} (established : e.isEstablished = true) :
    e.completeEstablishment = e.transitionTo .linkEstablished := by
  rw [completeEstablishment]
  split
  · rfl
  · next apart =>
    have state : e.state = .linkEstablished := by simpa [isEstablished, apart] using established
    rw [transitionTo, ← state]

section Acknowledged

variable {e : LAPDmEntity} (established : e.isEstablished = true) (nr : Fin 8)

include established

/-- The acknowledgement of a frame touches the send side only. -/
theorem acknowledged_sends :
    Sends { e with
        framesReceived := e.framesReceived + 1
        establishmentInProgress := false
        state := .linkEstablished
        va := nr } (e.acknowledged nr) := by
  rw [acknowledged, opened, completeEstablishment_eq]
  · exact processAck_sends { e with
      framesReceived := e.framesReceived + 1
      establishmentInProgress := false
      state := .linkEstablished } nr
  · exact established

/-- Behind the acknowledgement the link is established. -/
theorem acknowledged_state : (e.acknowledged nr).state = .linkEstablished :=
  (acknowledged_sends established nr).state

/-- Behind the acknowledgement the establishment is over. -/
theorem acknowledged_flag : (e.acknowledged nr).establishmentInProgress = false :=
  (acknowledged_sends established nr).flag

theorem acknowledged_vr : (e.acknowledged nr).vr = e.vr :=
  (acknowledged_sends established nr).vr

theorem acknowledged_reassemblyBuffer :
    (e.acknowledged nr).reassemblyBuffer = e.reassemblyBuffer :=
  (acknowledged_sends established nr).reassemblyBuffer

/-- An acknowledgement passes nothing to layer 3. -/
theorem acknowledged_silent : Silent e (e.acknowledged nr) :=
  (acknowledged_sends established nr).silent

/-- A release behind an acknowledgement is a release of the entity before it. -/
theorem acknowledged_releases {target : LAPDmEntity}
    (releases : Releases (e.acknowledged nr) target) : Releases e target := by
  have cleared := (acknowledged_sends established nr).bare
  have settled := acknowledged_flag established nr
  exact releases.after (fun state => (congrArg (transitionTo · state) cleared :))
    (fun set => absurd (set.symm.trans settled) nofun)
    (fun set => absurd (set.symm.trans settled) nofun) (acknowledged_silent established nr)

end Acknowledged

/-! ## Received frames -/

/-- The I-frame in the octets, if it is the one the entity expects next. -/
def inSequence (e : LAPDmEntity) (frameBytes : List UInt8) : Option LAPDmFrame :=
  match LAPDmFrame.decode frameBytes with
  | .error _ => none
  | .ok frame =>
      if frame.address.sapi = e.sapi ∧ e.isEstablished = true ∧ frame.format = .iFormat ∧
          frame.iCtrl.ns = e.vr then some frame
      else none

/-- What a frame other than the expected I-frame does. -/
inductive Received (e : LAPDmEntity) (frameBytes : List UInt8) (target : LAPDmEntity) : Prop where
  | kept (keeps : Keeps e target)
  | accepted (info : List UInt8) (released : e.state = .linkReleased)
      (read : e.reads .sabme frameBytes = some info) (accepts : Accepts e info target)
  | echoed (info : List UInt8) (contention : e.state = .contentionResolution)
      (read : e.reads .sabme frameBytes = some info)
      (matching : info ≠ [] ∧ computeChecksum info = e.contentionChecksum)
      (keeps : Keeps (e.transitionTo .linkEstablished) target)
  | restarted (established : e.state = .linkEstablished)
      (settled : e.establishmentInProgress = false)
      (read : e.reads .sabme frameBytes = some []) (keeps : Keeps e.clearCounters target)
      (untold : ∃ new, target.outputs = e.outputs ++ new ∧ ¬ Notifies new)
  | confirmed (awaiting : e.state = .awaitingEstablish)
      (keeps : Keeps (e.clearCounters.transitionTo .linkEstablished) target)
  | released (releases : Releases e target)
  | acknowledged (nr : Fin 8) (taken : e.acceptedNr (.receiveFrame frameBytes) = some nr)
      (keeps : Keeps (e.acknowledged nr) target)

section Received

variable {e : LAPDmEntity} {frameBytes : List UInt8} {frame : LAPDmFrame}

/-- An own unnumbered frame with its final bit is one the entity reads. -/
theorem reads_of_decode {type : LAPDmUFrameType}
    (decoded : LAPDmFrame.decode frameBytes = .ok frame) (own : frame.address.sapi = e.sapi)
    (format : frame.format = .uFormat) (kind : frame.uType = type) (final : frame.pf = true) :
    e.reads type frameBytes = some frame.info := by
  rw [reads, decoded]
  exact if_pos ⟨own, format, kind, final⟩

/-- On an established link the N(R) of an own frame is the one accepted. -/
theorem acceptedNr_of_decode (decoded : LAPDmFrame.decode frameBytes = .ok frame)
    (own : frame.address.sapi = e.sapi) (established : e.isEstablished = true) :
    e.acceptedNr (.receiveFrame frameBytes) = receivedNr frame := by
  rw [acceptedNr, decoded]
  exact if_pos ⟨own, established⟩

/-- Only an established link takes an N(R). -/
theorem established_of_acceptedNr {nr : Fin 8}
    (taken : e.acceptedNr (.receiveFrame frameBytes) = some nr) : e.isEstablished = true := by
  rw [acceptedNr] at taken
  split at taken
  · cases taken
  · split at taken
    case isTrue own => exact own.2
    case isFalse => cases taken

section Unnumbered

variable {counted : LAPDmEntity} (keeps : Keeps e counted)

include keeps

/-- The outcome of a SABME. -/
theorem received_handleSABME (same : counted.establishmentInProgress = e.establishmentInProgress)
    (outputs : counted.outputs = e.outputs) (decoded : LAPDmFrame.decode frameBytes = .ok frame)
    (own : frame.address.sapi = e.sapi) (format : frame.format = .uFormat)
    (kind : frame.uType = .sabme) : Received e frameBytes (counted.handleSABME frame) := by
  have answered : ∀ reply, Keeps e (counted.sendFrame reply) := fun reply =>
    keeps.trans (keeps_sendFrame counted reply)
  rw [handleSABME]
  by_cases final : frame.pf = true
  · have read := reads_of_decode decoded own format kind final
    rw [if_neg (by rw [final]; exact Bool.true_eq_false_eq_False)]
    cases state : counted.state with
    | linkReleased =>
        apply Received.accepted frame.info (keeps.state.symm.trans state) read
        have sum := keeps.contentionChecksum
        by_cases empty : frame.info = []
        · simp only [empty, ne_eq, not_true_eq_false, if_false]
          refine ⟨rfl, rfl, ?_, keeps.silent.trans ⟨_, List.append_assoc .., rfl⟩⟩
          exact keeps.bare_of (·.clearCounters.transitionTo .linkEstablished) fun _ => rfl
        · simp only [ne_eq, empty, not_false_eq_true, if_true]
          refine ⟨rfl, ?_, ?_, keeps.silent.trans ⟨_, List.append_assoc .., rfl⟩⟩
          · simp only [ne_eq, empty, not_false_eq_true, true_and, ← keeps.sapi]
            rfl
          · simp only [empty, if_false]
            generalize (if counted.sapi = SAPI.sapi0 then LAPDmState.contentionResolution
              else LAPDmState.linkEstablished) = next
            exact keeps.bare_of (fun kept =>
              { kept.clearCounters with contentionChecksum := computeChecksum frame.info
                }.transitionTo next) fun _ => rfl
    | awaitingEstablish => exact .kept (answered _)
    | awaitingRelease => exact .kept (answered _)
    | linkEstablished =>
        have established := keeps.state.symm.trans state
        dsimp only
        by_cases flag : counted.establishmentInProgress = true
        · rw [if_pos flag]
          split
          · exact .kept (answered _)
          · exact .kept (answered _)
        · rw [if_neg flag]
          have settled := same.symm.trans (Bool.eq_false_iff.mpr flag)
          by_cases empty : frame.info = []
          · rw [if_neg (not_not.mpr empty)]
            rw [empty] at read
            apply Received.restarted established settled read
            · refine ⟨?_, keeps.flag, keeps.silent.trans ⟨_, rfl, rfl⟩⟩
              exact keeps.bare_of clearCounters fun _ => rfl
            · refine ⟨_, congrArg (· ++ _) outputs, ?_⟩
              rintro ⟨sapi, prim, l3Data, member, -⟩
              cases List.mem_singleton.mp member
          · rw [if_pos empty]
            exact .released (keeps.releases (abnormalRelease_releases _ true))
    | contentionResolution =>
        dsimp only
        split
        case isTrue matching =>
          rw [keeps.contentionChecksum] at matching
          apply Received.echoed frame.info (keeps.state.symm.trans state) read matching
          refine ⟨?_, keeps.flag, keeps.silent.trans ⟨_, rfl, rfl⟩⟩
          exact keeps.bare_of (·.transitionTo .linkEstablished) fun _ => rfl
        case isFalse => exact .kept keeps
    | unused => exact .kept keeps
  · rw [if_pos (Bool.eq_false_iff.mpr final)]
    exact .kept keeps

/-- The confirmation of a release. -/
theorem releases_confirmed
    (kept : counted.establishmentInProgress = true → counted.isEstablished = false) :
    Releases e ((counted.clearCounters.transitionTo .linkReleased).deliverL3
      .L3_RELEASE_CONFIRM []) := by
  refine keeps.releases ⟨.inl rfl, rfl, id, kept, ⟨_, rfl, rfl, ?_⟩⟩
  exact ⟨_, _, _, List.mem_singleton_self _, .inr (.inl rfl)⟩

/-- The indication of a release. -/
theorem releases_indicated
    (kept : counted.establishmentInProgress = true → counted.isEstablished = false) :
    Releases e ((counted.clearCounters.transitionTo .linkReleased).deliverL3
      .L3_RELEASE_INDICATION []) := by
  refine keeps.releases ⟨.inl rfl, rfl, id, kept, ⟨_, rfl, rfl, ?_⟩⟩
  exact ⟨_, _, _, List.mem_singleton_self _, .inl rfl⟩

/-- The outcome of a UA. -/
theorem received_handleUA : Received e frameBytes (counted.handleUA frame) := by
  rw [handleUA]
  split
  · exact .kept keeps
  · cases state : counted.state with
    | awaitingEstablish =>
        apply Received.confirmed (keeps.state.symm.trans state)
        refine ⟨?_, keeps.flag, keeps.silent.trans ⟨_, rfl, rfl⟩⟩
        exact keeps.bare_of (·.clearCounters.transitionTo .linkEstablished) fun _ => rfl
    | awaitingRelease =>
        apply Received.released
        exact releases_confirmed keeps fun _ => by rw [isEstablished, state]; rfl
    | _ => exact .kept keeps

/-- The outcome of a DM. -/
theorem received_handleDM : Received e frameBytes (counted.handleDM frame) := by
  have indicated : Keeps counted ({ counted with
      t200Active := true, t200RemainingMs := counted.profile.t200Ms }.deliverL3
        .L3_RELEASE_INDICATION []) := ⟨rfl, id, ⟨_, rfl, rfl⟩⟩
  rw [handleDM]
  split
  · exact .kept keeps
  · split
    · exact .kept (keeps.trans indicated)
    · exact .kept (keeps.trans indicated)
    · exact .kept (keeps.trans indicated)
    · next awaiting =>
      apply Received.released
      exact releases_confirmed keeps fun _ => by rw [isEstablished, awaiting]; rfl
    · exact .kept keeps

/-- The outcome of a DISC. -/
theorem received_handleDISC : Received e frameBytes (counted.handleDISC frame) := by
  have settled := keeps.trans (keeps_settled counted)
  have answered := settled.trans (keeps_sendFrame _ (makeUAFrame counted.sapi frame.pf []))
  rw [handleDISC]
  simp only
  split
  · exact .kept (settled.trans (keeps_sendFrame _ _))
  · exact .released (releases_indicated settled (by simp))
  · exact .released (releases_confirmed answered (by rintro ⟨⟩))
  · exact .released (releases_indicated answered (by rintro ⟨⟩))
  · exact .released (releases_indicated answered (by rintro ⟨⟩))
  · exact .kept settled

/-- The outcome of an unnumbered frame. -/
theorem received_receiveUFrame
    (same : counted.establishmentInProgress = e.establishmentInProgress)
    (outputs : counted.outputs = e.outputs) (decoded : LAPDmFrame.decode frameBytes = .ok frame)
    (own : frame.address.sapi = e.sapi) (format : frame.format = .uFormat) :
    Received e frameBytes (counted.receiveUFrame frame) := by
  rw [receiveUFrame]
  cases kind : frame.uType with
  | sabme => exact received_handleSABME keeps same outputs decoded own format kind
  | ua => exact received_handleUA keeps
  | dm => exact received_handleDM keeps
  | disc => exact received_handleDISC keeps
  | ui => exact .kept (keeps.trans ⟨rfl, id, ⟨_, rfl, rfl⟩⟩)

end Unnumbered

/-- Without a link a numbered frame is counted and nothing else. -/
theorem opened_of_idle (idle : e.isEstablished = false) :
    e.opened = { e with
      framesReceived := e.framesReceived + 1
      establishmentInProgress := false } := by
  have apart : e.state ≠ .linkEstablished ∧ e.state ≠ .contentionResolution := by
    simpa [isEstablished] using idle
  exact if_neg apart.2

/-- On an established link a numbered frame is taken. -/
theorem taken_of_established (established : e.isEstablished = true)
    (take : LAPDmEntity → LAPDmEntity) :
    (if e.opened.state ≠ .linkEstablished then e.opened else take e.opened) =
      take e.opened := by
  apply if_neg
  rw [opened, completeEstablishment_eq]
  · exact not_not.mpr rfl
  · exact established

/-- Without a link a numbered frame is not taken. -/
theorem taken_of_idle (idle : e.isEstablished = false) (take : LAPDmEntity → LAPDmEntity) :
    (if e.opened.state ≠ .linkEstablished then e.opened else take e.opened) =
      { e with
        framesReceived := e.framesReceived + 1
        establishmentInProgress := false } := by
  have apart : e.state ≠ .linkEstablished ∧ e.state ≠ .contentionResolution := by
    simpa [isEstablished] using idle
  rw [opened_of_idle idle]
  exact if_pos apart.1

/-- Without a link the numbered part of a frame is not taken. -/
theorem received_of_idle (idle : e.isEstablished = false) (take : LAPDmEntity → LAPDmEntity) :
    Received e frameBytes
      (if e.opened.state ≠ .linkEstablished then e.opened else take e.opened) := by
  rw [taken_of_idle idle]
  exact .kept ((keeps_counted e).trans (keeps_settled _))

/-- On an established link an I frame is acknowledged before its sequence check. -/
theorem receiveIFrame_established (established : e.isEstablished = true) :
    { e with framesReceived := e.framesReceived + 1 }.receiveIFrame frame =
      (e.acknowledged frame.iCtrl.nr).checkSequence frame :=
  taken_of_established established fun opened =>
    (opened.processAck frame.iCtrl.nr).checkSequence frame

/-- The expected I-frame is acknowledged, counted and accepted. -/
theorem receiveFrame_inSequence (next : e.inSequence frameBytes = some frame) :
    e.isEstablished = true ∧
      e.acceptedNr (.receiveFrame frameBytes) = some frame.iCtrl.nr ∧
      e.receiveFrame frameBytes =
        (e.acknowledged frame.iCtrl.nr).advanceVR.acceptIFrame frame := by
  rw [inSequence] at next
  cases decoded : LAPDmFrame.decode frameBytes with
  | error => rw [decoded] at next; cases next
  | ok read =>
      rw [decoded] at next
      simp only at next
      split at next
      case isFalse => cases next
      case isTrue expected =>
        obtain rfl := Option.some.inj next
        obtain ⟨own, established, format, number⟩ := expected
        refine ⟨established, ?_, ?_⟩
        · rw [acceptedNr_of_decode decoded own established, receivedNr, format]
        · rw [receiveFrame, decoded]
          simp only [own, ne_eq, not_true_eq_false, if_false, format]
          rw [receiveIFrame_established established, checkSequence]
          apply if_neg
          rw [acknowledged_vr established, number]
          exact not_not.mpr rfl

/-- A frame in sequence has N(S) equal to V(R). -/
theorem ns_of_inSequence (next : e.inSequence frameBytes = some frame) :
    frame.iCtrl.ns = e.vr := by
  rw [inSequence] at next
  split at next
  · cases next
  · split at next
    case isTrue expected =>
      obtain rfl := Option.some.inj next
      exact expected.2.2.2
    case isFalse => cases next

/-- The outcome of an I frame out of sequence. -/
theorem received_receiveIFrame (other : e.inSequence frameBytes = none)
    (decoded : LAPDmFrame.decode frameBytes = .ok frame)
    (own : frame.address.sapi = e.sapi) (format : frame.format = .iFormat) :
    Received e frameBytes
      ({ e with framesReceived := e.framesReceived + 1 }.receiveIFrame frame) := by
  by_cases established : e.isEstablished = true
  · have taken := acceptedNr_of_decode decoded own established
    rw [receivedNr, format] at taken
    have out : frame.iCtrl.ns ≠ (e.acknowledged frame.iCtrl.nr).vr := by
      intro expected
      rw [acknowledged_vr established] at expected
      rw [inSequence, decoded] at other
      simp [own, established, format, expected] at other
    rw [receiveIFrame_established established, checkSequence, if_pos out]
    exact .acknowledged _ taken (keeps_sendFrame _ _)
  · exact received_of_idle (Bool.eq_false_iff.mpr established)
      fun opened => (opened.processAck frame.iCtrl.nr).checkSequence frame

/-- The outcome of a supervisory frame. -/
theorem received_receiveSFrame (decoded : LAPDmFrame.decode frameBytes = .ok frame)
    (own : frame.address.sapi = e.sapi) (format : frame.format = .sFormat) :
    Received e frameBytes
      ({ e with framesReceived := e.framesReceived + 1 }.receiveSFrame frame) := by
  have settled := (keeps_counted e).trans (keeps_settled _)
  have taken := acceptedNr_of_decode (e := e) decoded own
  rw [receivedNr, format] at taken
  rw [receiveSFrame]
  cases kind : frame.sType with
  | reserved => exact .kept settled
  | rnr => exact .released (settled.releases (abnormalRelease_releases _ true))
  | rr =>
      let take : LAPDmEntity → LAPDmEntity := fun opened =>
        if frame.pf && frame.address.command then (opened.processAck frame.nr).sendRR true
        else opened.processAck frame.nr
      change Received e frameBytes
        (if e.opened.state ≠ .linkEstablished then e.opened else take e.opened)
      by_cases established : e.isEstablished = true
      · have number := taken established
        rw [kind, if_pos (.inl rfl)] at number
        rw [taken_of_established established take]
        by_cases asked : (frame.pf && frame.address.command) = true
        · rw [show take e.opened = (e.acknowledged frame.nr).sendRR true from if_pos asked]
          exact .acknowledged _ number (keeps_sendFrame _ _)
        · rw [show take e.opened = e.acknowledged frame.nr from if_neg asked]
          exact .acknowledged _ number (.refl _)
      · exact received_of_idle (Bool.eq_false_iff.mpr established) take
  | rej =>
      let take : LAPDmEntity → LAPDmEntity := fun opened =>
        if frame.pf then
          if frame.address.command then (opened.processAck frame.nr).abnormalRelease true
          else (opened.processAck frame.nr).sendRR true
        else opened.processAck frame.nr
      change Received e frameBytes
        (if e.opened.state ≠ .linkEstablished then e.opened else take e.opened)
      by_cases established : e.isEstablished = true
      · have number := taken established
        rw [kind, if_pos (.inr rfl)] at number
        rw [taken_of_established established take]
        by_cases final : frame.pf = true
        · by_cases command : frame.address.command = true
          · rw [show take e.opened = (e.acknowledged frame.nr).abnormalRelease true from
              (if_pos final).trans (if_pos command)]
            apply Received.released
            exact acknowledged_releases established _ (abnormalRelease_releases _ true)
          · rw [show take e.opened = (e.acknowledged frame.nr).sendRR true from
              (if_pos final).trans (if_neg command)]
            exact .acknowledged _ number (keeps_sendFrame _ _)
        · rw [show take e.opened = e.acknowledged frame.nr from if_neg final]
          exact .acknowledged _ number (.refl _)
      · exact received_of_idle (Bool.eq_false_iff.mpr established) take

/-- **A received frame** other than the expected I-frame has one of seven outcomes. -/
theorem received_of_other (other : e.inSequence frameBytes = none) :
    Received e frameBytes (e.receiveFrame frameBytes) := by
  rw [receiveFrame]
  cases decoded : LAPDmFrame.decode frameBytes with
  | error => exact .kept (.refl e)
  | ok frame =>
      simp only
      by_cases own : frame.address.sapi = e.sapi
      · rw [if_neg (not_not.mpr own)]
        cases format : frame.format with
        | iFormat => exact received_receiveIFrame other decoded own format
        | sFormat => exact received_receiveSFrame decoded own format
        | uFormat => exact received_receiveUFrame (keeps_counted e) rfl rfl decoded own format
      · rw [if_pos own]
        exact .kept (keeps_counted e)

/-- The expected I-frame after its N(R) was taken over and it was counted in V(R), with what
the reassembly buffer holds then. -/
def counted (e : LAPDmEntity) (nr : Fin 8) (buffer : List UInt8) : LAPDmEntity :=
  { e.acknowledged nr with vr := e.vr + 1, reassemblyBuffer := buffer }

theorem state_of_counted {target : LAPDmEntity} {nr : Fin 8} {buffer : List UInt8}
    (established : e.isEstablished = true) (bare : target.bare = (e.counted nr buffer).bare) :
    target.state = .linkEstablished :=
  (congrArg LAPDmEntity.state bare :).trans (acknowledged_state established nr)

/-- What the expected I-frame does. -/
inductive Expected (e : LAPDmEntity) (frame : LAPDmFrame) (target : LAPDmEntity) : Prop where
  | refused (long : e.profile.n201 < frame.info.length ∨
        kMaxReassemblyBytes < e.reassemblyBuffer.length + frame.info.length)
      (released : target.state = .linkReleased) (releases : Releases e target)
      (error : .deliver e.sapi .MDL_ERROR_INDICATION [] ∈ news e target)
  | appended (fits : e.reassemblyBuffer.length + frame.info.length ≤ kMaxReassemblyBytes)
      (more : frame.more = true) (flag : target.establishmentInProgress = false)
      (bare : target.bare =
        (e.counted frame.iCtrl.nr (e.reassemblyBuffer ++ frame.info)).bare)
      (silent : Silent e target)
  | completed (fits : e.reassemblyBuffer.length + frame.info.length ≤ kMaxReassemblyBytes)
      (last : frame.more = false) (flag : target.establishmentInProgress = false)
      (bare : target.bare = (e.counted frame.iCtrl.nr []).bare)
      (passed : ∃ new, target.outputs = e.outputs ++ new ∧
        passedUp new = [e.reassemblyBuffer ++ frame.info])

/-- An I-frame beyond the bounds. -/
theorem acceptIFrame_long {c : LAPDmEntity}
    (long : c.profile.n201 < frame.info.length ∨
      kMaxReassemblyBytes < c.reassemblyBuffer.length + frame.info.length) :
    c.acceptIFrame frame = c.abnormalRelease false := by
  rw [acceptIFrame, if_pos long]

/-- An I-frame within the bounds that others follow. -/
theorem acceptIFrame_more {c : LAPDmEntity}
    (fits : ¬ (c.profile.n201 < frame.info.length ∨
      kMaxReassemblyBytes < c.reassemblyBuffer.length + frame.info.length))
    (more : frame.more = true) :
    Keeps { c with reassemblyBuffer := c.reassemblyBuffer ++ frame.info }
      (c.acceptIFrame frame) := by
  rw [acceptIFrame, if_neg fits, more]
  exact keeps_sendFrame _ _

/-- An I-frame within the bounds that ends a message. -/
theorem acceptIFrame_last {c : LAPDmEntity}
    (fits : ¬ (c.profile.n201 < frame.info.length ∨
      kMaxReassemblyBytes < c.reassemblyBuffer.length + frame.info.length))
    (last : frame.more = false) :
    (c.acceptIFrame frame).bare = { c with reassemblyBuffer := [] }.bare ∧
      (c.acceptIFrame frame).establishmentInProgress = c.establishmentInProgress ∧
      ∃ new, (c.acceptIFrame frame).outputs = c.outputs ++ new ∧
        passedUp new = [c.reassemblyBuffer ++ frame.info] := by
  rw [acceptIFrame, if_neg fits, last]
  exact ⟨rfl, rfl, _, List.append_assoc .., rfl⟩

/-- A frame in sequence is counted, appended and passed up as its more bit says, unless it
overflows. -/
theorem expected_of_inSequence (next : e.inSequence frameBytes = some frame) :
    Expected e frame (e.receiveFrame frameBytes) := by
  obtain ⟨established, -, received⟩ := receiveFrame_inSequence next
  have profile : (e.counted frame.iCtrl.nr e.reassemblyBuffer).profile = e.profile :=
    (congrArg LAPDmEntity.profile (acknowledged_sends established _).bare :)
  have flag := acknowledged_flag established frame.iCtrl.nr
  have silent := acknowledged_silent established frame.iCtrl.nr
  have joined : (e.acknowledged frame.iCtrl.nr).advanceVR =
      e.counted frame.iCtrl.nr e.reassemblyBuffer := by
    rw [advanceVR, LAPDmEntity.counted, acknowledged_vr established,
      ← acknowledged_reassemblyBuffer established frame.iCtrl.nr]
  rw [received, joined]
  by_cases long : (e.counted frame.iCtrl.nr e.reassemblyBuffer).profile.n201 <
      frame.info.length ∨ kMaxReassemblyBytes < e.reassemblyBuffer.length + frame.info.length
  · rw [acceptIFrame_long long]
    rw [profile] at long
    refine .refused long rfl ?_ ?_
    · apply acknowledged_releases established frame.iCtrl.nr
      obtain ⟨down, bare, falls, kept, told⟩ :=
        abnormalRelease_releases (e.counted frame.iCtrl.nr e.reassemblyBuffer) false
      exact ⟨down, bare, falls, kept, told⟩
    · obtain ⟨new, outputs, -⟩ := silent
      have sapi : (e.counted frame.iCtrl.nr e.reassemblyBuffer).sapi = e.sapi :=
        (congrArg LAPDmEntity.sapi (acknowledged_sends established frame.iCtrl.nr).bare :)
      have appended : ((e.counted frame.iCtrl.nr e.reassemblyBuffer).abnormalRelease false).outputs =
          e.outputs ++ (new ++ [.deliver e.sapi .MDL_ERROR_INDICATION []]) := by
        rw [← List.append_assoc, ← outputs, ← sapi]
        rfl
      rw [news_of_outputs appended]
      exact List.mem_append_right _ (List.mem_singleton_self _)
  · have bound := Nat.not_lt.mp (not_or.mp long).2
    cases more : frame.more with
    | true =>
        obtain ⟨bare, falls, quiet⟩ := acceptIFrame_more long more
        refine .appended bound more ?_ bare (silent.trans quiet)
        exact Bool.eq_false_iff.mpr fun set => absurd (flag.symm.trans (falls set)) nofun
    | false =>
        obtain ⟨bare, same, new, outputs, passed⟩ := acceptIFrame_last long more
        exact .completed bound more (same.trans flag) bare (silent.passed outputs passed)

end Received

/-- The call is a SABME without information that re-establishes the link. -/
def Restarts (e : LAPDmEntity) : Call → Prop
  | .receiveFrame frameBytes =>
      e.state = .linkEstablished ∧ e.establishmentInProgress = false ∧
        e.reads .sabme frameBytes = some []
  | _ => False

instance (e : LAPDmEntity) (request : Call) : Decidable (e.Restarts request) :=
  match request with
  | .receiveFrame _ => inferInstanceAs (Decidable (_ ∧ _ ∧ _))
  | .openEntity .. | .sendUI .. | .sendData _ | .sendSABME _ | .sendDISC | .hardRelease
  | .tickT200 _ | .resetStats => .isFalse id

/-- A re-establishment answers and clears the counters. -/
theorem receiveFrame_restarts {e : LAPDmEntity} {frameBytes : List UInt8}
    (restarts : e.Restarts (.receiveFrame frameBytes)) :
    ∃ frame, LAPDmFrame.decode frameBytes = .ok frame ∧ frame.format = .uFormat ∧
      e.receiveFrame frameBytes =
        ({ e with framesReceived := e.framesReceived + 1 }.sendUA true).clearCounters := by
  obtain ⟨established, settled, read⟩ := restarts
  rw [reads] at read
  cases decoded : LAPDmFrame.decode frameBytes with
  | error => rw [decoded] at read; cases read
  | ok frame =>
      rw [decoded] at read
      simp only at read
      split at read
      case isFalse => cases read
      case isTrue asked =>
        obtain ⟨own, format, kind, final⟩ := asked
        have empty := Option.some.inj read
        refine ⟨frame, rfl, format, ?_⟩
        rw [receiveFrame, decoded]
        simp [own, format, receiveUFrame, kind, handleSABME, final, established, settled, empty]

/-! ## Local calls -/

section Local

variable (e : LAPDmEntity)

/-- Unacknowledged data leaves the data of the link as it is. -/
theorem keeps_sendUI (sapi : SAPI) (l3Data : List UInt8) : Keeps e (e.sendUI sapi l3Data).1 :=
  keeps_sendFrame e _

theorem keeps_resetStats : Keeps e e.resetStats :=
  ⟨rfl, id, .refl e⟩

/-- A DISC is refused, or starts the release of an established link. -/
theorem sendDISC_cases :
    Keeps e e.sendDISC.1 ∨
      e.isEstablished = true ∧
        Keeps ({ e with pending := .disc }.transitionTo .awaitingRelease) e.sendDISC.1 := by
  rw [sendDISC]
  by_cases idle : e.isEstablished = false
  · rw [if_pos idle]
    exact .inl (.refl e)
  · rw [if_neg idle]
    exact .inr ⟨Bool.not_eq_false _ ▸ idle, rfl, id, ⟨_, rfl, rfl⟩⟩

/-- A SABME leaves the link as it is, or starts an establishment from the released state. -/
theorem sendSABME_cases (info : List UInt8) :
    Keeps e (e.sendSABME info).1 ∨
      e.state = .linkReleased ∧
        Keeps ({ e with pending := .sabme, pendingInfo := info }.transitionTo .awaitingEstablish)
          (e.sendSABME info).1 := by
  rw [sendSABME]
  split
  · exact .inl ⟨rfl, id, ⟨_, rfl, rfl⟩⟩
  · split
    case isTrue => exact .inl (.refl e)
    case isFalse released =>
      exact .inr ⟨not_not.mp released, rfl, id, ⟨_, rfl, rfl⟩⟩

/-- Data is refused with the entity unchanged, or queued on an established link. -/
theorem sendData_cases (l3Data : List UInt8) :
    ((e.sendData l3Data).1 = e ∧ ∃ error, (e.sendData l3Data).2 = .error error) ∨
      e.isEstablished = true ∧ l3Data ≠ [] ∧ (e.sendData l3Data).2 = .ok () ∧
        (e.sendData l3Data).1 = (e.enqueue l3Data).trySendNextSegment := by
  rw [sendData]
  split
  case isTrue => exact .inl ⟨rfl, _, rfl⟩
  case isFalse established =>
    split
    case isTrue => exact .inl ⟨rfl, _, rfl⟩
    case isFalse some => exact .inr ⟨Bool.not_eq_false _ ▸ established, some, rfl, rfl⟩

/-- A retransmission leaves the data of the link as it is. -/
theorem keeps_retransmitPending : Keeps e e.retransmitPending := by
  rw [retransmitPending]
  cases e.pending with
  | none => exact .refl e
  | _ => exact keeps_sendFrame e _

/-- A tick leaves the link state as it is, or releases the link. -/
theorem tickT200_cases (elapsed : Int) :
    Keeps e (e.tickT200 elapsed).1 ∨
      (e.tickT200 elapsed).1.state = .linkReleased ∧ Releases e (e.tickT200 elapsed).1 := by
  have expired : Keeps e { e with t200RemainingMs := 0, t200Active := false } :=
    ⟨rfl, id, .refl e⟩
  rw [tickT200]
  split
  · exact .inl (.refl e)
  · split
    · exact .inl ⟨rfl, id, .refl e⟩
    · split
      · obtain ⟨bare, flag, silent⟩ := expired.trans (keeps_retransmitPending _)
        exact .inl ⟨bare, flag, silent⟩
      · exact .inr ⟨rfl, expired.releases (abnormalRelease_releases _ false)⟩

end Local

end LAPDmEntity

end Lapdm

end Gsml3
