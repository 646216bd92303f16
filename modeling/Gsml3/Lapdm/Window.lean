import Gsml3.Lapdm.EntityRuns

/-!
# Send window

An N(R) is taken over into V(A) whatever its value.  As long as the values received
are V(A) or V(S), the window holds at most the stored I-frame and T200 guards it; an
N(R) equal to V(S) restores this, and such acknowledgements always drain the queue.
-/

namespace Gsml3

namespace Lapdm

open Foundation

namespace LAPDmEntity

variable {e : LAPDmEntity}

/-- At most one I-frame is outstanding, and one is exactly when it is stored and T200
is running. -/
def Window (e : LAPDmEntity) : Prop :=
  (e.vs - e.va = 0 ∨ e.vs - e.va = 1) ∧
    (e.vs - e.va = 1 ↔ e.pending = .iFrame ∧ e.pendingNs = e.va ∧ e.t200Active = true)

instance (e : LAPDmEntity) : Decidable e.Window :=
  inferInstanceAs (Decidable (_ ∧ _))

/-- The N(R) that a frame handler takes over. -/
def receivedNr (frame : LAPDmFrame) : Option (Fin 8) :=
  match frame.format with
  | .iFormat => some frame.iCtrl.nr
  | .sFormat => if frame.sType = .rr ∨ frame.sType = .rej then some frame.nr else none
  | .uFormat => none

/-- The N(R) that a call takes over on an established link. -/
def acceptedNr (e : LAPDmEntity) : Call → Option (Fin 8)
  | .receiveFrame frameBytes =>
      match LAPDmFrame.decode frameBytes with
      | .error _ => none
      | .ok frame =>
          if frame.address.sapi = e.sapi ∧ e.isEstablished = true then receivedNr frame else none
  | _ => none

/-- A call that brings no N(R) from outside of the window. -/
def InWindow (e : LAPDmEntity) (request : Call) : Prop :=
  ∀ nr ∈ e.acceptedNr request, nr = e.va ∨ nr = e.vs

instance (e : LAPDmEntity) (request : Call) : Decidable (e.InWindow request) :=
  inferInstanceAs (Decidable (∀ nr ∈ e.acceptedNr request, nr = e.va ∨ nr = e.vs))

/-- On an established link the stored I-frame is the last one numbered, and if
`aligned` holds the window is intact. -/
structure Tracks (aligned : Prop) (e : LAPDmEntity) : Prop where
  numbered : e.isEstablished = true → e.pending = .none ∨
    (e.pending = .iFrame ∧ e.pendingNs + 1 = e.vs)
  window : aligned → e.isEstablished = true → e.Window

namespace Tracks

variable {before after : Prop} {target : LAPDmEntity}

/-- A cleared entity tracks whatever came before. -/
theorem of_cleared (vs : e.vs = 0) (va : e.va = 0) (pending : e.pending = .none)
    (stopped : e.t200Active = false) : e.Tracks after := by
  refine ⟨fun _ => .inl pending, fun _ _ => ?_⟩
  rw [Window, vs, va, pending, stopped]
  exact ⟨.inl rfl, iff_of_false (by decide) fun stored => nomatch stored.1⟩

/-- Without a link there is nothing to track. -/
theorem of_down (down : e.isEstablished = false) : e.Tracks after :=
  ⟨fun established => absurd (established.symm.trans down) nofun,
    fun _ established => absurd (established.symm.trans down) nofun⟩

/-- The window reads the numbers, the stored frame and T200.  A timer that is started
without need does no harm. -/
theorem frame (tracks : e.Tracks before) (next : e.isEstablished = true → after → before)
    (same : target.isEstablished = true → e.isEstablished = true ∧
      target.pending = e.pending ∧ target.pendingNs = e.pendingNs ∧ target.vs = e.vs ∧
      target.va = e.va ∧ (target.t200Active = true ∨ target.t200Active = e.t200Active)) :
    target.Tracks after := by
  constructor
  · intro established
    obtain ⟨was, pending, number, vs, -, -⟩ := same established
    rw [pending, number, vs]
    exact tracks.numbered was
  · intro aligned established
    obtain ⟨was, pending, number, vs, va, timer⟩ := same established
    obtain ⟨small, outstanding⟩ := tracks.window (next was aligned) was
    rw [Window, pending, number, vs, va]
    refine ⟨small, fun one => ?_, fun ⟨stored, own, _⟩ => ?_⟩
    · obtain ⟨stored, own, running⟩ := outstanding.mp one
      refine ⟨stored, own, ?_⟩
      rcases timer with started | kept
      · exact started
      · rw [kept, running]
    · -- the stored frame is the last one numbered
      rcases tracks.numbered was with none | ⟨-, last⟩
      · rw [none] at stored
        cases stored
      · rw [← last, own]
        exact add_sub_cancel_left ..

theorem same (tracks : e.Tracks before) (next : e.isEstablished = true → after → before)
    (state : target.state = e.state) (pending : target.pending = e.pending)
    (number : target.pendingNs = e.pendingNs) (vs : target.vs = e.vs) (va : target.va = e.va)
    (timer : target.t200Active = true ∨ target.t200Active = e.t200Active) :
    target.Tracks after := by
  refine tracks.frame next fun established => ⟨?_, pending, number, vs, va, timer⟩
  rwa [isEstablished, state] at established

/-- The next segment is the tracked one. -/
theorem trySendNextSegment (tracks : e.Tracks after) : e.trySendNextSegment.Tracks after := by
  rw [LAPDmEntity.trySendNextSegment]
  by_cases idle : e.vs = e.va
  · rw [if_neg (not_not.mpr idle)]
    cases e.txMsgEnds[e.txMsgIdx]? with
    | none => exact tracks
    | some msgEnd =>
        simp only
        generalize (e.txQueue.drop e.txQueuePos).take _ = payload
        generalize decide (e.profile.n201 < msgEnd - e.txQueuePos) = more
        obtain ⟨queue, ends, pos, index, advanced⟩ := advanceQueue_frame
          (e.buildIFrame payload more) msgEnd (min (msgEnd - e.txQueuePos) e.profile.n201)
        rw [advanced]
        have one : e.vs + 1 - e.va = 1 := by rw [idle]; exact add_sub_cancel_left ..
        exact ⟨fun _ => .inr ⟨rfl, rfl⟩, fun _ _ =>
          ⟨.inr one, iff_of_true one ⟨rfl, idle, rfl⟩⟩⟩
  · rw [if_pos idle]
    exact tracks

/-- An acknowledgement of the tracked frame, or of the one before. -/
theorem processAck (tracks : e.Tracks before) {nr : Fin 8}
    (next : e.isEstablished = true → after → nr = e.vs ∨ before ∧ nr = e.va) :
    (e.processAck nr).Tracks after := by
  rw [LAPDmEntity.processAck]
  by_cases caught_up : nr = e.vs
  · simp only [caught_up, if_true]
    apply trySendNextSegment
    refine ⟨tracks.numbered, fun _ _ => ⟨.inl (sub_self e.vs), ?_⟩⟩
    refine iff_of_false (fun one => ?_) fun stored => Bool.false_ne_true stored.2.2
    exact absurd ((sub_self e.vs).symm.trans one) (by decide)
  · simp only [if_neg caught_up]
    refine ⟨tracks.numbered, fun aligned established => ?_⟩
    obtain ⟨was, same⟩ := (next established aligned).resolve_left caught_up
    rw [same]
    exact tracks.window was established

/-- A release leaves nothing to track. -/
theorem abnormalRelease (e : LAPDmEntity) (withDM : Bool) :
    (e.abnormalRelease withDM).Tracks after := by
  cases withDM <;> exact .of_cleared rfl rfl rfl rfl

theorem acceptIFrame (tracks : e.Tracks after) (frame : LAPDmFrame) :
    (e.acceptIFrame frame).Tracks after := by
  rw [LAPDmEntity.acceptIFrame]
  split
  · exact abnormalRelease e false
  · cases frame.more <;> exact tracks.same (fun _ => id) rfl rfl rfl rfl rfl (.inr rfl)

theorem checkSequence (tracks : e.Tracks after) (frame : LAPDmFrame) :
    (e.checkSequence frame).Tracks after := by
  rw [LAPDmEntity.checkSequence]
  split
  · exact tracks.same (fun _ => id) rfl rfl rfl rfl rfl (.inr rfl)
  · apply acceptIFrame
    exact tracks.same (fun _ => id) rfl rfl rfl rfl rfl (.inr rfl)

theorem completeEstablishment (tracks : e.Tracks before) : e.completeEstablishment.Tracks before := by
  rw [LAPDmEntity.completeEstablishment]
  split
  case isTrue contention =>
    refine tracks.frame (fun _ => id) fun _ => ⟨?_, rfl, rfl, rfl, rfl, .inr rfl⟩
    rw [isEstablished, contention]
    rfl
  case isFalse => exact tracks

/-- An entity that is not established behind the establishment phase has no link. -/
theorem of_away (away : e.completeEstablishment.state ≠ .linkEstablished) :
    e.completeEstablishment.Tracks after := by
  apply of_down
  rw [LAPDmEntity.completeEstablishment] at away ⊢
  split at away
  case isTrue => exact absurd rfl away
  case isFalse settled =>
    rw [if_neg settled, isEstablished, decide_eq_false away, decide_eq_false settled]
    rfl

/-- A frame handler of the established link that takes over an N(R). -/
theorem acknowledge (tracks : e.Tracks before) {nr : Fin 8}
    (next : e.isEstablished = true → after → nr = e.vs ∨ before ∧ nr = e.va) :
    (({ e with establishmentInProgress := false }.completeEstablishment).processAck nr).Tracks
      after := by
  have opened : ({ e with establishmentInProgress := false }.completeEstablishment).Tracks before :=
    completeEstablishment (tracks.same (fun _ => id) rfl rfl rfl rfl rfl (.inr rfl))
  apply opened.processAck
  rw [LAPDmEntity.completeEstablishment]
  split
  case isTrue contention =>
    intro _
    apply next
    rw [isEstablished, show e.state = .contentionResolution from contention]
    rfl
  case isFalse => exact next

/-- An I frame whose N(R) is one of the two possible ones. -/
theorem receiveIFrame (tracks : e.Tracks before) {frame : LAPDmFrame}
    (next : e.isEstablished = true → after →
      frame.iCtrl.nr = e.vs ∨ before ∧ frame.iCtrl.nr = e.va) :
    (e.receiveIFrame frame).Tracks after := by
  rw [LAPDmEntity.receiveIFrame]
  split
  case isTrue away => exact of_away away
  case isFalse => exact checkSequence (tracks.acknowledge next) frame

/-- On an established link the N(R) of a call is V(S), or it is in the window of an
intact entity. -/
def Next (before after : Prop) (e : LAPDmEntity) (nr : Option (Fin 8)) : Prop :=
  e.isEstablished = true → after →
    nr = some e.vs ∨ before ∧ ∀ number ∈ nr, number = e.va ∨ number = e.vs

theorem Next.idle (next : Next before after e none) : e.isEstablished = true → after → before :=
  fun established aligned => ((next established aligned).resolve_left nofun).1

theorem Next.taken {nr : Fin 8} (next : Next before after e (some nr)) :
    e.isEstablished = true → after → nr = e.vs ∨ before ∧ nr = e.va := by
  intro established aligned
  rcases next established aligned with same | ⟨intact, window⟩
  · exact .inl (Option.some.inj same)
  · rcases window nr rfl with old | new
    · exact .inr ⟨intact, old⟩
    · exact .inl new

/-- A supervisory frame whose N(R) is one of the two possible ones. -/
theorem receiveSFrame (tracks : e.Tracks before) {frame : LAPDmFrame}
    (kind : frame.format = .sFormat) (next : Next before after e (receivedNr frame)) :
    (e.receiveSFrame frame).Tracks after := by
  rw [LAPDmEntity.receiveSFrame]
  cases sType : frame.sType with
  | rr =>
      have taken : receivedNr frame = some frame.nr := by simp only [receivedNr, kind, sType]; rfl
      have acked := tracks.acknowledge (taken ▸ next).taken
      simp only
      split
      case isTrue away => exact of_away away
      case isFalse =>
        split
        · exact acked.same (fun _ => id) rfl rfl rfl rfl rfl (.inr rfl)
        · exact acked
  | rnr => exact abnormalRelease _ true
  | rej =>
      have taken : receivedNr frame = some frame.nr := by simp only [receivedNr, kind, sType]; rfl
      have acked := tracks.acknowledge (taken ▸ next).taken
      simp only
      split
      case isTrue away => exact of_away away
      case isFalse =>
        split
        · split
          · exact abnormalRelease _ true
          · exact acked.same (fun _ => id) rfl rfl rfl rfl rfl (.inr rfl)
        · exact acked
  | reserved =>
      have none : receivedNr frame = none := by simp only [receivedNr, kind, sType]; rfl
      exact tracks.same (none ▸ next).idle rfl rfl rfl rfl rfl (.inr rfl)

/-- A SABME leaves a cleared entity, or the one before. -/
theorem handleSABME (tracks : e.Tracks after) (frame : LAPDmFrame) :
    (e.handleSABME frame).Tracks after := by
  have answered : ∀ reply, (e.sendFrame reply).Tracks after := fun reply =>
    tracks.same (fun _ => id) rfl rfl rfl rfl rfl (.inr rfl)
  rw [LAPDmEntity.handleSABME]
  split
  · exact tracks
  · cases state : e.state with
    | linkReleased =>
        simp only
        split <;> exact .of_cleared rfl rfl rfl rfl
    | awaitingEstablish | awaitingRelease => exact answered _
    | linkEstablished =>
        simp only
        split
        · split <;> exact answered _
        · split
          · exact abnormalRelease e true
          · exact .of_cleared rfl rfl rfl rfl
    | contentionResolution =>
        simp only
        split
        · refine tracks.frame (fun _ => id) fun _ => ⟨?_, rfl, rfl, rfl, rfl, .inr rfl⟩
          rw [isEstablished, state]
          rfl
        · exact tracks
    | unused => exact tracks

/-- An unnumbered frame acknowledges nothing. -/
theorem receiveUFrame (tracks : e.Tracks after) (frame : LAPDmFrame) :
    (e.receiveUFrame frame).Tracks after := by
  rw [LAPDmEntity.receiveUFrame]
  cases frame.uType with
  | sabme => exact tracks.handleSABME frame
  | ua =>
      simp only [handleUA]
      split
      · exact tracks
      · cases e.state <;> first
          | exact tracks
          | exact .of_cleared rfl rfl rfl rfl
  | dm =>
      simp only [handleDM]
      split
      · exact tracks
      · cases state : e.state <;> first
          | exact tracks
          | exact .of_cleared rfl rfl rfl rfl
          | exact tracks.same (fun _ => id) state.symm rfl rfl rfl rfl (.inl rfl)
  | disc =>
      simp only [handleDISC]
      cases state : e.state <;> first
        | exact .of_cleared rfl rfl rfl rfl
        | exact tracks.same (fun _ => id) state.symm rfl rfl rfl rfl (.inr rfl)
  | ui => exact tracks.same (fun _ => id) rfl rfl rfl rfl rfl (.inr rfl)

theorem mono (tracks : e.Tracks before) (next : e.isEstablished = true → after → before) :
    e.Tracks after :=
  ⟨tracks.numbered, fun aligned established => tracks.window (next established aligned) established⟩

/-- A frame whose N(R) is one of the two possible ones. -/
theorem receiveFrame (tracks : e.Tracks before) {frameBytes : List UInt8}
    (next : Next before after e (e.acceptedNr (.receiveFrame frameBytes))) :
    (e.receiveFrame frameBytes).Tracks after := by
  rw [acceptedNr] at next
  rw [LAPDmEntity.receiveFrame]
  cases decoded : LAPDmFrame.decode frameBytes with
  | error _ =>
      rw [decoded] at next
      exact tracks.mono next.idle
  | ok frame =>
      rw [decoded] at next
      have counted : { e with framesReceived := e.framesReceived + 1 }.Tracks before :=
        tracks.same (fun _ => id) rfl rfl rfl rfl rfl (.inr rfl)
      simp only at next ⊢
      by_cases own : frame.address.sapi = e.sapi
      · have next : Next before after e (receivedNr frame) := by
          intro established
          rw [if_pos ⟨own, established⟩] at next
          exact next established
        rw [if_neg (not_not.mpr own)]
        cases format : frame.format with
        | iFormat =>
            rw [receivedNr, format] at next
            exact counted.receiveIFrame (Next.taken next)
        | sFormat => exact counted.receiveSFrame format next
        | uFormat =>
            rw [receivedNr, format] at next
            exact receiveUFrame (counted.mono (Next.idle next)) frame
      · rw [if_neg fun both => own both.1] at next
        rw [if_pos own]
        exact counted.mono (Next.idle next)

/-- A tick acknowledges nothing. -/
theorem tickT200 (tracks : e.Tracks after) (elapsed : Int) : (e.tickT200 elapsed).1.Tracks after := by
  rw [LAPDmEntity.tickT200]
  split
  · exact tracks
  · split
    · exact tracks.same (fun _ => id) rfl rfl rfl rfl rfl (.inr rfl)
    · simp only
      split
      · simp only [retransmitPending]
        cases pending : e.pending <;>
          exact tracks.same (fun _ => id) rfl pending.symm rfl rfl rfl (.inl rfl)
      · exact abnormalRelease _ false

/-- A call keeps an intact window, unless it brings an N(R) from outside; an N(R) equal
to V(S) restores it. -/
theorem call (tracks : e.Tracks before) {request : Call}
    (next : Next before after e (e.acceptedNr request)) : (e.call request).Tracks after := by
  cases request with
  | receiveFrame frameBytes => exact tracks.receiveFrame next
  | openEntity sapi commandBit => exact .of_cleared rfl rfl rfl rfl
  | sendUI sapi l3Data => exact tracks.same next.idle rfl rfl rfl rfl rfl (.inr rfl)
  | sendData l3Data =>
      have quiet := tracks.mono next.idle
      simp only [LAPDmEntity.call, LAPDmEntity.sendData]
      split
      · exact quiet
      · split
        · exact quiet
        · exact trySendNextSegment (quiet.same (fun _ => id) rfl rfl rfl rfl rfl (.inr rfl))
  | sendSABME info =>
      simp only [LAPDmEntity.call, LAPDmEntity.sendSABME]
      split
      · exact tracks.same next.idle rfl rfl rfl rfl rfl (.inr rfl)
      · split
        · exact tracks.mono next.idle
        · exact .of_down rfl
  | sendDISC =>
      simp only [LAPDmEntity.call, LAPDmEntity.sendDISC]
      split
      · exact tracks.mono next.idle
      · exact .of_down rfl
  | hardRelease => exact .of_down rfl
  | tickT200 elapsed => exact (tracks.mono next.idle).tickT200 elapsed
  | resetStats => exact tracks.same next.idle rfl rfl rfl rfl rfl (.inr rfl)

end Tracks

/-! ## Draining the queue -/

/-- The call receives an RR frame with N(R) equal to V(S). -/
def Acknowledges (e : LAPDmEntity) (request : Call) : Prop :=
  ∃ frameBytes frame, request = .receiveFrame frameBytes ∧
    LAPDmFrame.decode frameBytes = .ok frame ∧ frame.address.sapi = e.sapi ∧
    frame.format = .sFormat ∧ frame.sType = .rr ∧ frame.nr = e.vs

/-- The transmission of a segment in an I-frame of the entity. -/
def Transmits (e : LAPDmEntity) (segment : Segment UInt8) (output : Output) : Prop :=
  ∃ nr ns, output = .transmit
    (encodeFrame (makeIFrame e.sapi e.commandBit nr ns false segment.more segment.info))

/-- `count` acknowledgements have sent as many segments of the queue, in order. -/
structure DrainedBy (e : LAPDmEntity) (count : Nat) (target : LAPDmEntity) : Prop where
  established : target.isEstablished = true
  queue : target.QueueConsistent
  profile : target.profile = e.profile
  address : target.sapi = e.sapi ∧ target.commandBit = e.commandBit
  backlog : target.backlog = e.backlog.drop count
  sent : ∃ outputs, List.Forall₂ e.Transmits (e.backlog.take count) outputs ∧
    (e.outputs ++ outputs).Sublist target.outputs

theorem DrainedBy.refl (established : e.isEstablished = true) (queue : e.QueueConsistent) :
    e.DrainedBy 0 e where
  established := established
  queue := queue
  profile := rfl
  address := ⟨rfl, rfl⟩
  backlog := rfl
  sent := ⟨[], .nil, by rw [List.append_nil]⟩

/-- An acknowledgement sends the next segment. -/
theorem drainedBy_acknowledge (positive : 0 < e.profile.n201) (established : e.isEstablished = true)
    (queue : e.QueueConsistent) {request : Call} (acknowledges : e.Acknowledges request) :
    e.DrainedBy 1 (e.call request) := by
  obtain ⟨frameBytes, frame, rfl, decoded, own, format, kind, number⟩ := acknowledges
  obtain ⟨opened, opened_eq⟩ : ∃ opened : LAPDmEntity, opened =
      { { e with framesReceived := e.framesReceived + 1, establishmentInProgress := false } with
        state := .linkEstablished, va := e.vs, rc := 0, t200Active := false } := ⟨_, rfl⟩
  have received : e.call (.receiveFrame frameBytes) =
      if frame.pf && frame.address.command then opened.trySendNextSegment.sendRR true
      else opened.trySendNextSegment := by
    have phase : e.state = .linkEstablished ∨ e.state = .contentionResolution := by
      rw [isEstablished, Bool.or_eq_true_iff, decide_eq_true_iff, decide_eq_true_iff] at established
      exact established
    rw [LAPDmEntity.call, receiveFrame, decoded, opened_eq]
    simp only [own, ne_eq, not_true_eq_false, if_false, format, receiveSFrame, kind, number]
    rcases phase with state | state
    · simp only [completeEstablishment, state, reduceCtorEq, if_false, processAck, if_true,
        not_true_eq_false]
    · simp only [completeEstablishment, state, transitionTo, if_true, processAck, not_true_eq_false,
        if_false]
  have answered : ∀ sent : LAPDmEntity, e.DrainedBy 1 sent → e.DrainedBy 1 (sent.sendRR true) := by
    intro sent drained
    refine ⟨drained.established, drained.queue.frame rfl rfl rfl rfl, drained.profile,
      drained.address, drained.backlog, ?_⟩
    obtain ⟨outputs, transmits, kept⟩ := drained.sent
    exact ⟨outputs, transmits, kept.trans (List.sublist_append_left ..)⟩
  have opened_queue : opened.QueueConsistent := by
    rw [opened_eq]
    exact queue.frame rfl rfl rfl rfl
  have opened_backlog : opened.backlog = e.backlog := by rw [opened_eq]; rfl
  have opened_fields : opened.state = .linkEstablished ∧ opened.profile = e.profile ∧
      opened.sapi = e.sapi ∧ opened.commandBit = e.commandBit ∧ opened.outputs = e.outputs ∧
      opened.vs = opened.va := by
    rw [opened_eq]
    exact ⟨rfl, rfl, rfl, rfl, rfl, rfl⟩
  obtain ⟨state, profile, sapi, commandBit, outputs, idle⟩ := opened_fields
  have drained : e.DrainedBy 1 opened.trySendNextSegment := by
    rcases trySendNextSegment_cases (profile ▸ positive) opened_queue idle with
      ⟨empty, same⟩ | ⟨segment, sent⟩
    · rw [opened_backlog] at empty
      rw [same]
      refine ⟨by rw [isEstablished, state]; rfl, opened_queue, profile, ⟨sapi, commandBit⟩, ?_,
        [], ?_, ?_⟩
      · rw [opened_backlog, empty, List.drop_nil]
      · rw [empty, List.take_nil]
        exact .nil
      · rw [outputs, List.append_nil]
    · have split := sent.backlog
      rw [opened_backlog] at split
      refine ⟨by rw [isEstablished, sent.state, state]; rfl, sent.consistent,
        sent.profile.trans profile, ⟨sent.sapi.trans sapi, sent.commandBit.trans commandBit⟩, ?_,
        [.transmit (encodeFrame (makeIFrame opened.sapi opened.commandBit opened.vr opened.vs
          false segment.more segment.info))], ?_, ?_⟩
      · rw [split]
        rfl
      · rw [split, sapi, commandBit]
        exact .cons ⟨_, _, rfl⟩ .nil
      · rw [sent.outputs, outputs]
  rw [received]
  split
  · exact answered _ drained
  · exact drained

/-- Drains compose. -/
theorem DrainedBy.trans {first second : Nat} {middle target : LAPDmEntity}
    (before : e.DrainedBy first middle) (after : middle.DrainedBy second target) :
    e.DrainedBy (first + second) target := by
  obtain ⟨outputs, transmits, kept⟩ := before.sent
  obtain ⟨outputs', transmits', kept'⟩ := after.sent
  refine ⟨after.established, after.queue, after.profile.trans before.profile,
    ⟨after.address.1.trans before.address.1, after.address.2.trans before.address.2⟩, ?_,
    outputs ++ outputs', ?_, ?_⟩
  · rw [after.backlog, before.backlog, List.drop_drop]
  · rw [List.take_add]
    rw [before.backlog] at transmits'
    refine List.rel_append transmits (transmits'.imp fun segment output => ?_)
    rw [Transmits, before.address.1, before.address.2]
    exact id
  · rw [← List.append_assoc]
    exact (kept.append_right outputs').trans kept'

/-- Each acknowledgement in the window lets one segment out. -/
theorem drainedBy_run (positive : 0 < e.profile.n201) (established : e.isEstablished = true)
    (queue : e.QueueConsistent) {acks : List Call} {target : LAPDmEntity}
    (run : machine.Run (fun source request _ => source.Acknowledges request) e acks target) :
    e.DrainedBy acks.length target := by
  refine run.invariant (fun past state => e.DrainedBy past.length state)
    (.refl established queue) ?_
  intro past source target request drained stepped acknowledges
  obtain rfl := Option.some.inj stepped
  rw [List.length_append]
  refine drained.trans (drainedBy_acknowledge ?_ drained.established drained.queue acknowledges)
  rw [drained.profile]
  exact positive

/-- An address octet that is read as the access point. -/
def addressOctet : SAPI → UInt8
  | .sapi0 => 0x01
  | .sapi3 => 0x0D
  | .undefined => 0x05

/-- The frame that acknowledges up to `nr`. -/
theorem decode_acknowledgement (sapi : SAPI) (nr : Fin 8) :
    LAPDmFrame.decode [addressOctet sapi, LAPDmSControlField.encode ⟨nr, .rr, false⟩, 0x01] =
      .ok { address := ⟨sapi, false, true⟩, format := .sFormat, nr := nr } := by
  cases sapi <;> revert nr <;> decide

/-- Every state can be acknowledged. -/
theorem exists_acknowledges (e : LAPDmEntity) : ∃ request, e.Acknowledges request :=
  ⟨_, _, _, rfl, decode_acknowledgement e.sapi e.vs, rfl, rfl, rfl, rfl⟩

/-- Any number of acknowledgements in the window can come. -/
theorem exists_acknowledged_run (e : LAPDmEntity) (count : Nat) :
    ∃ acks target, acks.length = count ∧
      machine.Run (fun source request _ => source.Acknowledges request) e acks target := by
  induction count with
  | zero => exact ⟨[], e, rfl, .origin⟩
  | succ count ih =>
      obtain ⟨acks, target, length, run⟩ := ih
      obtain ⟨request, acknowledges⟩ := target.exists_acknowledges
      exact ⟨acks ++ [request], target.call request, by rw [List.length_append, length]; rfl,
        run.next rfl acknowledges⟩

/-! ## Runs -/

/-- The entity tracks its outstanding frame in every state of every run. -/
theorem tracks_of_run {profile : LAPDmChannelProfile} {calls : List Call}
    (run : machine.Run (fun _ _ _ => True) { profile := profile } calls e) : e.Tracks False := by
  refine run.invariant (fun _ state => state.Tracks False) (.of_down rfl) ?_
  intro past source target request tracks stepped _
  obtain rfl := Option.some.inj stepped
  exact tracks.call fun _ => False.elim

theorem profile_of_run {profile : LAPDmChannelProfile} {calls : List Call}
    (run : machine.Run (fun _ _ _ => True) { profile := profile } calls e) : e.profile = profile := by
  refine run.invariant (fun _ state => state.profile = profile) rfl ?_
  intro past source target request same stepped _
  obtain rfl := Option.some.inj stepped
  exact (profile_call source request).trans same

/-- In every reachable state an N(R) equal to V(S) makes the window intact, calls that
bring no N(R) from outside keep it so, and acknowledgements drain the queue. -/
theorem window_intact {profile : LAPDmChannelProfile} {past : List Call} {start : LAPDmEntity}
    (reached : machine.Run (fun _ _ _ => True) { profile := profile } past start) :
    (∀ calls e, (start.isEstablished = true → start.Window) →
        machine.Run (fun source request _ => source.InWindow request) start calls e →
        e.isEstablished = true → e.Window) ∧
      (∀ request, start.acceptedNr request = some start.vs →
        (start.call request).isEstablished = true → (start.call request).Window) ∧
      (start.isEstablished = true → 0 < profile.n201 →
        (∀ acks target,
          machine.Run (fun source request _ => source.Acknowledges request) start acks target →
            start.DrainedBy acks.length target) ∧
        ∃ acks target, acks.length = start.backlog.length ∧ target.backlog = [] ∧
          machine.Run (fun source request _ => source.Acknowledges request) start acks target) := by
  have tracks := tracks_of_run reached
  refine ⟨fun calls e intact run established => ?_, fun request caught_up established => ?_,
    fun established positive => ?_⟩
  · have kept : e.Tracks True := by
      refine run.invariant (fun _ state => state.Tracks True)
        ⟨tracks.numbered, fun _ => intact⟩ ?_
      intro past source target request kept stepped inside
      obtain rfl := Option.some.inj stepped
      exact kept.call fun _ _ => .inr ⟨trivial, inside⟩
    exact kept.window trivial established
  · have restored : (start.call request).Tracks True := tracks.call fun _ _ => .inl caught_up
    exact restored.window trivial established
  · have same := profile_of_run reached
    have queue := (Reachable.coherent (same.symm ▸ positive) ⟨profile, past, reached⟩).queue
    have drains := fun {acks target} =>
      @drainedBy_run start (same.symm ▸ positive) established queue acks target
    refine ⟨fun acks target run => drains run, ?_⟩
    obtain ⟨acks, target, length, run⟩ := start.exists_acknowledged_run start.backlog.length
    exact ⟨acks, target, length, by rw [(drains run).backlog, length, List.drop_length], run⟩

/-- An entity that a peer has connected to. -/
private def connected : List Call :=
  [.openEntity .sapi0 true, .receiveFrame (encodeFrame (makeSABMEFrame .sapi0 true []))]

/-- The first segment of a message is outstanding. -/
theorem window_intact_sent :
    ∃ e, machine.exec (fun source request _ => source.InWindow request)
        { profile := .SDCCH } (connected ++ [.sendData [1, 2, 3]]) = some e ∧
      e.isEstablished = true ∧ e.hasOutstandingFrame = true ∧ e.Window := by
  obtain ⟨e, executed⟩ := Option.isSome_iff_exists.mp (show (machine.exec
    (fun source request _ => source.InWindow request) { profile := .SDCCH }
    (connected ++ [.sendData [1, 2, 3]])).isSome by decide)
  have outstanding : ∀ e ∈ machine.exec (fun source request _ => source.InWindow request)
      { profile := .SDCCH } (connected ++ [.sendData [1, 2, 3]]),
      e.isEstablished = true ∧ e.hasOutstandingFrame = true := by
    decide
  obtain ⟨established, waiting⟩ := outstanding e executed
  exact ⟨e, executed, established, waiting, (window_intact .origin).1 _ e (fun open_link => by
    cases open_link) (.exec _ .origin executed) established⟩

/-- An N(R) from outside of the window moves V(A) away from V(S), with nothing
outstanding. -/
theorem hostile_nr_widens_window :
    ∃ e, machine.Run (fun _ _ _ => True) { profile := .SDCCH }
        (connected ++ [.receiveFrame (encodeFrame (makeRRFrame .sapi0 5 false))]) e ∧
      e.state = .linkEstablished ∧ e.vs - e.va = 3 ∧ ¬ e.Window := by
  obtain ⟨e, executed⟩ := Option.isSome_iff_exists.mp (show (machine.exec
    (fun _ _ _ => True) { profile := .SDCCH }
    (connected ++ [.receiveFrame (encodeFrame (makeRRFrame .sapi0 5 false))])).isSome by
      decide)
  have widened : ∀ e ∈ machine.exec (fun _ _ _ => True) { profile := .SDCCH }
      (connected ++ [.receiveFrame (encodeFrame (makeRRFrame .sapi0 5 false))]),
      e.state = .linkEstablished ∧ e.vs - e.va = 3 ∧ ¬ e.Window := by
    decide
  have run := Machine.Run.exec (connected ++ [.receiveFrame (encodeFrame (makeRRFrame .sapi0 5 false))])
    .origin executed
  exact ⟨e, run, widened e executed⟩

end LAPDmEntity

end Lapdm

end Gsml3
