import Gsml3.Foundation.Recording
import Gsml3.Lapdm.FrameOutcomes

/-!
# Data that `sendData` accepted

The octets accepted and not yet acknowledged are kept on record beside the entity.  The entity
holds them in the outstanding segment and in the transmit queue, until a release drops them and
tells the upper layer, or a re-establishment drops them and does not.
-/

namespace Gsml3

namespace Lapdm

open Foundation

namespace LAPDmEntity

/-- The octets of the transmit queue that were not sent. -/
def waiting (e : LAPDmEntity) : List UInt8 :=
  e.txQueue.drop e.txQueuePos

/-- The octets the entity still has: the stored frame and the ones that wait. -/
def held (e : LAPDmEntity) : List UInt8 :=
  e.pendingInfo ++ e.waiting

/-- The octets that a call of `sendData` accepts. -/
def accepts (e : LAPDmEntity) : Call → List UInt8
  | .sendData l3Data =>
      match (e.sendData l3Data).2 with
      | .ok () => l3Data
      | .error _ => []
  | _ => []

/-- The octets accepted and not acknowledged after a call, if none are discarded.  An N(R) of
V(S) acknowledges what was sent. -/
def due (unacknowledged : List UInt8) (e : LAPDmEntity) (request : Call) : List UInt8 :=
  if e.acceptedNr request = some e.vs then e.waiting else unacknowledged ++ e.accepts request

/-- A call discards octets that are due. -/
def Discards (unacknowledged : List UInt8) (e : LAPDmEntity) (request : Call)
    (target : LAPDmEntity) : Prop :=
  ¬ due unacknowledged e request <:+ target.held

instance (unacknowledged : List UInt8) (e : LAPDmEntity) (request : Call)
    (target : LAPDmEntity) : Decidable (Discards unacknowledged e request target) :=
  inferInstanceAs (Decidable (¬ _))

/-- The record after a call: what is discarded is not due any more. -/
def stillDue (unacknowledged : List UInt8) (e : LAPDmEntity) (request : Call)
    (target : LAPDmEntity) : List UInt8 :=
  if Discards unacknowledged e request target then [] else due unacknowledged e request

/-- An entity with the octets it accepted and its peer has not acknowledged. -/
def accounting : Machine (LAPDmEntity × List UInt8) Call :=
  machine.recording stillDue

theorem accounting_step {w target : LAPDmEntity × List UInt8} {request : Call}
    (stepped : accounting.step w request = some target) :
    (w.1.call request, stillDue w.2 w.1 request (w.1.call request)) = target :=
  Option.some.inj stepped

/-! ## The transmit queue -/

section Queue

variable {e target : LAPDmEntity}

theorem QueueConsistent.pos_le (consistent : e.QueueConsistent) :
    e.txQueuePos ≤ e.txQueue.length := by
  have increasing := consistent.pending_increasing.imp fun before => le_of_lt before
  exact consistent.pending_filled ▸ increasing.rel_getLast (List.mem_cons_self ..)

theorem waiting_enqueue (consistent : e.QueueConsistent) (l3Data : List UInt8) :
    (e.enqueue l3Data).waiting = e.waiting ++ l3Data :=
  List.drop_append_of_le_length consistent.pos_le

/-- Advancing over octets of the current message drops them and no others. -/
theorem waiting_advanceQueue {msgEnd chunkSize : Nat} {ends : List Nat}
    (consistent : e.QueueConsistent) (current : e.txMsgEnds.drop e.txMsgIdx = msgEnd :: ends) :
    (e.advanceQueue msgEnd chunkSize).waiting = e.waiting.drop chunkSize := by
  rw [advanceQueue]
  by_cases done : msgEnd ≤ e.txQueuePos + chunkSize
  · by_cases last : e.txMsgEnds.length ≤ e.txMsgIdx + 1
    · rw [if_pos done, if_pos last]
      have none : ends = [] := by
        have later := congrArg List.tail current
        rw [List.tail_drop, List.drop_eq_nil_of_le last, List.tail_cons] at later
        exact later.symm
      have filled := consistent.pending_filled
      simp only [current, none, List.getLast_cons_cons, List.getLast_singleton] at filled
      rw [waiting, waiting, List.drop_drop, List.drop_nil]
      exact (List.drop_eq_nil_of_le (filled ▸ done)).symm
    · rw [if_pos done, if_neg last, waiting, waiting, List.drop_drop]
  · rw [if_neg done, waiting, waiting, List.drop_drop]

/-- Advancing over at most the rest of the current message keeps the bookkeeping. -/
theorem QueueConsistent.advanceQueue {msgEnd chunkSize : Nat} {ends : List Nat}
    (consistent : e.QueueConsistent) (current : e.txMsgEnds.drop e.txMsgIdx = msgEnd :: ends)
    (inside : chunkSize ≤ msgEnd - e.txQueuePos) :
    (e.advanceQueue msgEnd chunkSize).QueueConsistent := by
  have ahead : e.txQueuePos < msgEnd := consistent.position msgEnd (by simp [current])
  have ordered := current ▸ consistent.increasing.sublist (List.drop_sublist e.txMsgIdx _)
  have beyond := (List.pairwise_cons.mp ordered).1
  rw [LAPDmEntity.advanceQueue]
  by_cases done : msgEnd ≤ e.txQueuePos + chunkSize
  · have reached : e.txQueuePos + chunkSize = msgEnd := by omega
    by_cases last : e.txMsgEnds.length ≤ e.txMsgIdx + 1
    · rw [if_pos done, if_pos last]
      exact .of_empty rfl rfl rfl rfl
    · rw [if_pos done, if_neg last, reached]
      refine ⟨consistent.increasing, ?_, consistent.filled, fun past => absurd past last⟩
      intro stop member
      have later : e.txMsgEnds.drop (e.txMsgIdx + 1) = ends := by
        rw [← List.tail_drop, current, List.tail_cons]
      exact beyond stop (later ▸ member)
  · rw [if_neg done]
    refine ⟨consistent.increasing, ?_, consistent.filled, ?_⟩
    · intro stop member
      change stop ∈ e.txMsgEnds.drop e.txMsgIdx at member
      rw [current] at member
      rcases List.mem_cons.mp member with rfl | farther
      · exact Nat.not_le.mp done
      · exact (Nat.not_le.mp done).trans (beyond stop farther)
    · intro past
      change e.txMsgEnds.length ≤ e.txMsgIdx at past
      rw [List.drop_eq_nil_of_le past] at current
      cases current

/-- The next segment is sent from the head of the octets that wait. -/
theorem trySendNextSegment_data (consistent : e.QueueConsistent) :
    e.trySendNextSegment.QueueConsistent ∧
      (e.trySendNextSegment = e ∨
        e.trySendNextSegment.vs ≠ e.trySendNextSegment.va ∧
          e.trySendNextSegment.held = e.waiting) := by
  by_cases idle : e.vs = e.va
  · cases current : e.txMsgEnds.drop e.txMsgIdx with
    | nil =>
        have absent : e.txMsgEnds[e.txMsgIdx]? = none :=
          List.getElem?_eq_none_iff.mpr (List.drop_eq_nil_iff.mp current)
        have same : e.trySendNextSegment = e := by
          rw [trySendNextSegment, if_neg (not_not.mpr idle), absent]
        rw [same]
        exact ⟨consistent, .inl rfl⟩
    | cons msgEnd ends =>
        have present : e.txMsgEnds[e.txMsgIdx]? = some msgEnd := by
          rw [← List.head?_drop, current, List.head?_cons]
        let chunkSize := min (msgEnd - e.txQueuePos) e.profile.n201
        let built := e.buildIFrame (e.waiting.take chunkSize)
          (decide (e.profile.n201 < msgEnd - e.txQueuePos))
        have sent : e.trySendNextSegment = built.advanceQueue msgEnd chunkSize := by
          rw [trySendNextSegment, if_neg (not_not.mpr idle), present]
          rfl
        have carried : built.QueueConsistent := consistent.frame rfl rfl rfl rfl
        have rest : e.trySendNextSegment.waiting = e.waiting.drop chunkSize := by
          rw [sent]
          exact waiting_advanceQueue carried current
        obtain ⟨queue, remaining, pos, index, frame⟩ :=
          advanceQueue_frame built msgEnd chunkSize
        have stored : e.trySendNextSegment.pendingInfo = e.waiting.take chunkSize := by
          rw [sent, frame]
          rfl
        refine ⟨?_, .inr ⟨?_, ?_⟩⟩
        · rw [sent]
          exact carried.advanceQueue current (Nat.min_le_left ..)
        · rw [sent, frame]
          change e.vs + 1 ≠ e.va
          rw [idle]
          exact fun same => absurd (add_eq_left.mp same) (by decide)
        · rw [held, stored, rest, List.take_append_drop]
  · rw [trySendNextSegment, if_pos idle]
    exact ⟨consistent, .inl rfl⟩

/-- What an N(R) does to the octets of an established link. -/
structure Takes (e : LAPDmEntity) (nr : Fin 8) (target : LAPDmEntity) : Prop where
  queue : target.QueueConsistent
  taken : nr = e.vs → e.waiting <:+ target.held ∧
    (target.vs = target.va → target.waiting = e.waiting)
  other : nr ≠ e.vs → target.held = e.held ∧ target.vs ≠ target.va

theorem processAck_takes (consistent : e.QueueConsistent) (nr : Fin 8) :
    Takes e nr (e.processAck nr) := by
  rw [processAck]
  by_cases caught_up : nr = e.vs
  · simp only [caught_up, if_true]
    have carried : { e with va := e.vs, rc := 0, t200Active := false }.QueueConsistent :=
      consistent.frame rfl rfl rfl rfl
    obtain ⟨queue, same | ⟨apart, moved⟩⟩ := trySendNextSegment_data carried
    · rw [same] at queue ⊢
      exact ⟨queue, fun _ => ⟨List.suffix_append .., fun _ => rfl⟩, fun other => absurd rfl other⟩
    · refine ⟨queue, fun _ => ⟨?_, fun same => absurd same apart⟩, fun other => absurd rfl other⟩
      rw [moved]
      exact List.suffix_rfl
  · simp only [if_neg caught_up]
    refine ⟨consistent.frame rfl rfl rfl rfl, fun same => absurd same caught_up, fun _ => ?_⟩
    exact ⟨rfl, Ne.symm caught_up⟩

theorem acknowledged_takes (consistent : e.QueueConsistent)
    (established : e.isEstablished = true) (nr : Fin 8) :
    Takes e nr (e.acknowledged nr) := by
  have carried : ({ e with
      framesReceived := e.framesReceived + 1
      establishmentInProgress := false }.transitionTo .linkEstablished).QueueConsistent :=
    consistent.frame rfl rfl rfl rfl
  obtain ⟨queue, taken, other⟩ := processAck_takes carried nr
  rw [acknowledged, opened, completeEstablishment_eq (by exact established)]
  exact ⟨queue, taken, other⟩

end Queue

/-! ## The account -/

/-- What is due is held: all of it waits when no frame is outstanding, and there is none
without a link. -/
structure Accounts (e : LAPDmEntity) (unacknowledged : List UInt8) : Prop where
  queue : e.QueueConsistent
  kept : unacknowledged <:+ e.held
  idle : e.vs = e.va → unacknowledged <:+ e.waiting
  linked : e.isEstablished = false → e.state ≠ .awaitingRelease → unacknowledged = []

section Accounts

variable {e target : LAPDmEntity} {unacknowledged : List UInt8} {request : Call}

theorem Accounts.of_empty (queue : target.QueueConsistent) : Accounts target [] :=
  ⟨queue, List.nil_suffix, fun _ => List.nil_suffix, fun _ _ => rfl⟩

/-- The record of a step that discards nothing. -/
theorem Accounts.of_step (queue : target.QueueConsistent)
    (idle : due unacknowledged e request <:+ target.held → target.vs = target.va →
      due unacknowledged e request <:+ target.waiting)
    (linked : due unacknowledged e request <:+ target.held → target.isEstablished = false →
      target.state ≠ .awaitingRelease → due unacknowledged e request = []) :
    Accounts target (stillDue unacknowledged e request target) := by
  rw [stillDue]
  by_cases discards : Discards unacknowledged e request target
  · rw [if_pos discards]
    exact .of_empty queue
  · rw [if_neg discards]
    have still := not_not.mp discards
    exact ⟨queue, still, idle still, linked still⟩

/-- A step that leaves nothing to hold leaves nothing due. -/
theorem Accounts.of_cleared (queue : target.QueueConsistent) (gone : target.held = []) :
    Accounts target (stillDue unacknowledged e request target) := by
  have none : due unacknowledged e request <:+ target.held →
      due unacknowledged e request = [] := by
    intro still
    rw [gone] at still
    exact List.eq_nil_of_suffix_nil still
  refine .of_step queue (fun still _ => ?_) fun still _ _ => none still
  rw [none still]
  exact List.nil_suffix

theorem held_of_bare {other : LAPDmEntity} (bare : target.bare = other.bare) :
    target.held = other.held ∧ target.waiting = other.waiting :=
  ⟨(congrArg held bare :), (congrArg waiting bare :)⟩

theorem queue_of_bare {other : LAPDmEntity} (consistent : other.QueueConsistent)
    (bare : target.bare = other.bare) : target.QueueConsistent :=
  consistent.frame (congrArg txQueue bare :) (congrArg txMsgEnds bare :)
    (congrArg txMsgIdx bare :) (congrArg txQueuePos bare :)

theorem queue_of_clearCounters (state : LAPDmState) :
    (e.clearCounters.transitionTo state).QueueConsistent :=
  .of_empty rfl rfl rfl rfl

theorem Releases.accounts (releases : Releases e target) :
    Accounts target (stillDue unacknowledged e request target) :=
  .of_cleared (queue_of_bare (queue_of_clearCounters _) releases.bare)
    (held_of_bare releases.bare).1

theorem due_receiveFrame (unacknowledged : List UInt8) (e : LAPDmEntity)
    (frameBytes : List UInt8) :
    due unacknowledged e (.receiveFrame frameBytes) = unacknowledged ∨
      e.isEstablished = true ∧ due unacknowledged e (.receiveFrame frameBytes) = e.waiting := by
  rw [due]
  split
  case isTrue taken => exact .inr ⟨established_of_acceptedNr taken, rfl⟩
  case isFalse => exact .inl (List.append_nil _)

/-- A step that only moves between the states of a link keeps the account. -/
theorem Accounts.stays (accounts : Accounts e unacknowledged) {state : LAPDmState}
    (bare : target.bare = (e.transitionTo state).bare)
    (linked : e.isEstablished = true ∨ e.state = .awaitingRelease →
      target.isEstablished = true ∨ target.state = .awaitingRelease)
    (now : due unacknowledged e request = unacknowledged ∨
      e.isEstablished = true ∧ due unacknowledged e request = e.waiting) :
    ¬ Discards unacknowledged e request target ∧
      Accounts target (stillDue unacknowledged e request target) := by
  have held := (held_of_bare bare).1
  have waiting := (held_of_bare bare).2
  have vs : target.vs = e.vs := (congrArg LAPDmEntity.vs bare :)
  have va : target.va = e.va := (congrArg LAPDmEntity.va bare :)
  have kept : due unacknowledged e request <:+ target.held := by
    rw [held]
    rcases now with same | ⟨-, waits⟩
    · rw [same]
      exact accounts.kept
    · rw [waits]
      exact List.suffix_append _ _
  have queue : (e.transitionTo state).QueueConsistent := accounts.queue.frame rfl rfl rfl rfl
  refine ⟨not_not.mpr kept, .of_step (queue_of_bare queue bare) (fun _ level => ?_) ?_⟩
  · rw [vs, va] at level
    rw [waiting]
    rcases now with same | ⟨-, waits⟩
    · rw [same]
      exact accounts.idle level
    · rw [waits]
      exact List.suffix_rfl
  · intro _ down other
    have apart : ¬ (e.isEstablished = true ∨ e.state = .awaitingRelease) := fun link =>
      (linked link).elim (fun established => absurd (established.symm.trans down) nofun) other
    rw [not_or] at apart
    rcases now with same | ⟨established, -⟩
    · exact same.trans (accounts.linked (Bool.eq_false_iff.mpr apart.1) apart.2)
    · exact absurd established apart.1

theorem Accounts.keeps (accounts : Accounts e unacknowledged) (keeps : Keeps e target)
    (now : due unacknowledged e request = unacknowledged ∨
      e.isEstablished = true ∧ due unacknowledged e request = e.waiting) :
    ¬ Discards unacknowledged e request target ∧
      Accounts target (stillDue unacknowledged e request target) := by
  have bare : target.bare = (e.transitionTo e.state).bare := keeps.bare
  refine accounts.stays bare (fun link => ?_) now
  rwa [keeps.isEstablished, keeps.state]

/-- Without a link nothing is due, so nothing is lost with the queue. -/
theorem Accounts.unlinked (accounts : Accounts e unacknowledged)
    (down : e.isEstablished = false) (other : e.state ≠ .awaitingRelease)
    (queue : target.QueueConsistent) (gone : target.held = []) (frameBytes : List UInt8) :
    ¬ Discards unacknowledged e (.receiveFrame frameBytes) target ∧
      Accounts target (stillDue unacknowledged e (.receiveFrame frameBytes) target) := by
  refine ⟨not_not.mpr ?_, .of_cleared queue gone⟩
  rcases due_receiveFrame unacknowledged e frameBytes with same | ⟨established, -⟩
  · rw [same, accounts.linked down other]
    exact List.nil_suffix
  · exact absurd (established.symm.trans down) nofun

/-- An N(R) discards nothing that it does not acknowledge. -/
theorem Accounts.takes (accounts : Accounts e unacknowledged) {nr : Fin 8}
    {frameBytes : List UInt8} (number : e.acceptedNr (.receiveFrame frameBytes) = some nr)
    (takes : Takes e nr target) (linked : target.isEstablished = true) :
    ¬ Discards unacknowledged e (.receiveFrame frameBytes) target ∧
      Accounts target (stillDue unacknowledged e (.receiveFrame frameBytes) target) := by
  have up : ∀ now : List UInt8, target.isEstablished = false → now = [] := fun now down =>
    absurd (linked.symm.trans down) nofun
  by_cases caught_up : nr = e.vs
  · have now : due unacknowledged e (.receiveFrame frameBytes) = e.waiting :=
      if_pos (caught_up ▸ number)
    obtain ⟨kept, level⟩ := takes.taken caught_up
    refine ⟨not_not.mpr (now ▸ kept), .of_step takes.queue (fun _ same => ?_) fun _ down _ => up _ down⟩
    rw [now, level same]
  · have now : due unacknowledged e (.receiveFrame frameBytes) = unacknowledged := by
      rw [due, if_neg fun taken => caught_up (Option.some.inj (number.symm.trans taken))]
      exact List.append_nil _
    obtain ⟨held, apart⟩ := takes.other caught_up
    refine ⟨not_not.mpr ?_, .of_step takes.queue (fun _ same => absurd same apart)
      fun _ down _ => up _ down⟩
    rw [now, held]
    exact accounts.kept

theorem Takes.of_bare {middle : LAPDmEntity} {nr : Fin 8} (takes : Takes e nr middle)
    (bare : target.bare = middle.bare) : Takes e nr target := by
  obtain ⟨held, waiting⟩ := held_of_bare bare
  have vs : target.vs = middle.vs := (congrArg LAPDmEntity.vs bare :)
  have va : target.va = middle.va := (congrArg LAPDmEntity.va bare :)
  refine ⟨queue_of_bare takes.queue bare, ?_, ?_⟩
  · rw [held, waiting, vs, va]
    exact takes.taken
  · rw [held, vs, va]
    exact takes.other

end Accounts

/-! ## Frames and ticks -/

section Steps

variable {e : LAPDmEntity} {unacknowledged : List UInt8}

/-- A received frame keeps the account, and what it discards it reports, unless it re-establishes
the link. -/
theorem Accounts.receiveFrame (accounts : Accounts e unacknowledged) (frameBytes : List UInt8) :
    (Discards unacknowledged e (.receiveFrame frameBytes) (e.receiveFrame frameBytes) →
      Notifies (news e (e.receiveFrame frameBytes)) ∨ e.Restarts (.receiveFrame frameBytes)) ∧
    Accounts (e.receiveFrame frameBytes)
      (stillDue unacknowledged e (.receiveFrame frameBytes) (e.receiveFrame frameBytes)) := by
  have now := due_receiveFrame unacknowledged e frameBytes
  have released : Releases e (e.receiveFrame frameBytes) →
      Notifies (news e (e.receiveFrame frameBytes)) := by
    intro releases
    obtain ⟨new, outputs, -, told⟩ := releases.told
    rwa [news_of_outputs outputs]
  cases next : e.inSequence frameBytes with
  | some frame =>
      obtain ⟨established, number, -⟩ := receiveFrame_inSequence next
      have takes := acknowledged_takes accounts.queue established frame.iCtrl.nr
      have counted : ∀ buffer, Takes e frame.iCtrl.nr (e.counted frame.iCtrl.nr buffer) :=
        fun _ => ⟨takes.queue.frame rfl rfl rfl rfl, takes.taken, takes.other⟩
      cases expected_of_inSequence next with
      | refused _ _ releases _ => exact ⟨fun _ => .inl (released releases), releases.accounts⟩
      | appended _ _ _ bare =>
          have up : (e.receiveFrame frameBytes).isEstablished = true := by
            rw [isEstablished, state_of_counted established bare]
            rfl
          obtain ⟨none, after⟩ := accounts.takes number ((counted _).of_bare bare) up
          exact ⟨fun discards => absurd discards none, after⟩
      | completed _ _ _ bare =>
          have up : (e.receiveFrame frameBytes).isEstablished = true := by
            rw [isEstablished, state_of_counted established bare]
            rfl
          obtain ⟨none, after⟩ := accounts.takes number ((counted _).of_bare bare) up
          exact ⟨fun discards => absurd discards none, after⟩
  | none =>
      cases received_of_other next with
      | kept keeps =>
          obtain ⟨none, after⟩ := accounts.keeps keeps now
          exact ⟨fun discards => absurd discards none, after⟩
      | accepted info state read accepts =>
          have down : e.isEstablished = false := by rw [isEstablished, state]; rfl
          obtain ⟨none, after⟩ := accounts.unlinked down (by simp [state])
            (queue_of_bare (.of_empty rfl rfl rfl rfl) accepts.bare)
            (held_of_bare accepts.bare).1 frameBytes
          exact ⟨fun discards => absurd discards none, after⟩
      | echoed info state read matching keeps =>
          obtain ⟨none, after⟩ := accounts.stays keeps.bare
            (fun _ => .inl (by rw [keeps.isEstablished]; rfl)) now
          exact ⟨fun discards => absurd discards none, after⟩
      | restarted established settled read keeps untold =>
          refine ⟨fun _ => .inr ⟨established, settled, read⟩, .of_cleared ?_ ?_⟩
          · exact queue_of_bare (queue_of_clearCounters e.state) keeps.bare
          · exact (held_of_bare keeps.bare).1
      | confirmed awaiting keeps =>
          have down : e.isEstablished = false := by rw [isEstablished, awaiting]; rfl
          obtain ⟨none, after⟩ := accounts.unlinked down (by simp [awaiting])
            (queue_of_bare (queue_of_clearCounters _) keeps.bare)
            (held_of_bare keeps.bare).1 frameBytes
          exact ⟨fun discards => absurd discards none, after⟩
      | released releases => exact ⟨fun _ => .inl (released releases), releases.accounts⟩
      | acknowledged nr taken keeps =>
          have established := established_of_acceptedNr taken
          have up : (e.receiveFrame frameBytes).isEstablished = true := by
            rw [keeps.isEstablished, isEstablished, acknowledged_state established]
            rfl
          have takes := acknowledged_takes accounts.queue established nr
          obtain ⟨none, after⟩ := accounts.takes taken (takes.of_bare keeps.bare) up
          exact ⟨fun discards => absurd discards none, after⟩

/-- A local call that accepts nothing leaves what is due. -/
theorem due_of_idle {request : Call} (number : e.acceptedNr request = none)
    (nothing : e.accepts request = []) : due unacknowledged e request = unacknowledged := by
  rw [due, number, nothing, List.append_nil]
  exact if_neg nofun

theorem Accounts.sendData (accounts : Accounts e unacknowledged) (l3Data : List UInt8) :
    Accounts (e.sendData l3Data).1
      (stillDue unacknowledged e (.sendData l3Data) (e.sendData l3Data).1) := by
  rcases sendData_cases e l3Data with ⟨same, error, refused⟩ | ⟨established, some, taken, sent⟩
  · have now : due unacknowledged e (.sendData l3Data) = unacknowledged :=
      due_of_idle rfl (by rw [accepts, refused])
    rw [same]
    exact (accounts.keeps (.refl e) (.inl now)).2
  · have now : due unacknowledged e (.sendData l3Data) = unacknowledged ++ l3Data := by
      rw [due, accepts, taken]
      exact if_neg (by rintro ⟨⟩)
    obtain ⟨queue, moved⟩ := trySendNextSegment_data (accounts.queue.enqueue some)
    have sends := trySendNextSegment_sends (e.enqueue l3Data)
    rw [sent]
    refine .of_step queue (fun _ level => ?_) fun _ down _ => ?_
    · rcases moved with still | ⟨apart, -⟩
      · rw [still] at level ⊢
        rw [now, waiting_enqueue accounts.queue]
        obtain ⟨front, split⟩ := accounts.idle level
        exact ⟨front, by rw [← List.append_assoc, split]⟩
      · exact absurd level apart
    · rw [isEstablished, sends.state] at down
      exact absurd (established.symm.trans down) (by simp)

/-- Every call keeps the account. -/
theorem Accounts.call (accounts : Accounts e unacknowledged) (request : Call) :
    Accounts (e.call request) (stillDue unacknowledged e request (e.call request)) := by
  cases request with
  | openEntity sapi commandBit => exact .of_cleared (.of_empty rfl rfl rfl rfl) rfl
  | receiveFrame frameBytes => exact (accounts.receiveFrame frameBytes).2
  | sendUI sapi l3Data =>
      exact (accounts.keeps (keeps_sendUI e sapi l3Data) (.inl (due_of_idle rfl rfl))).2
  | sendData l3Data => exact accounts.sendData l3Data
  | sendSABME info =>
      have now : due unacknowledged e (.sendSABME info) = unacknowledged := due_of_idle rfl rfl
      rcases sendSABME_cases e info with keeps | ⟨released, keeps⟩
      · exact (accounts.keeps keeps (.inl now)).2
      · have none : unacknowledged = [] :=
          accounts.linked (by rw [isEstablished, released]; rfl) (released ▸ nofun)
        have queue : ({ e with pending := .sabme, pendingInfo := info }.transitionTo
            .awaitingEstablish).QueueConsistent := accounts.queue.frame rfl rfl rfl rfl
        refine .of_step (queue_of_bare queue keeps.bare) (fun _ _ => ?_) fun _ _ _ => ?_
        · rw [now, none]
          exact List.nil_suffix
        · rw [now, none]
  | sendDISC =>
      have now : due unacknowledged e .sendDISC = unacknowledged := due_of_idle rfl rfl
      rcases sendDISC_cases e with keeps | ⟨established, keeps⟩
      · exact (accounts.keeps keeps (.inl now)).2
      · have queue : ({ e with pending := .disc }.transitionTo
            .awaitingRelease).QueueConsistent := accounts.queue.frame rfl rfl rfl rfl
        refine .of_step (queue_of_bare queue keeps.bare) (fun _ level => ?_) fun _ _ other => ?_
        · have waiting : (e.call .sendDISC).waiting = e.waiting := (held_of_bare keeps.bare).2
          rw [LAPDmEntity.call, keeps.vs, keeps.va] at level
          rw [now, waiting]
          exact accounts.idle level
        · exact absurd keeps.state other
  | hardRelease => exact .of_cleared (.of_empty rfl rfl rfl rfl) rfl
  | tickT200 elapsed =>
      rcases tickT200_cases e elapsed with keeps | ⟨-, releases⟩
      · exact (accounts.keeps keeps (.inl (due_of_idle rfl rfl))).2
      · exact releases.accounts
  | resetStats =>
      exact (accounts.keeps (keeps_resetStats e) (.inl (due_of_idle rfl rfl))).2

/-- A re-establishment drops the queue and tells the upper layer nothing. -/
theorem restarted_untold {frameBytes : List UInt8}
    (restarts : e.Restarts (.receiveFrame frameBytes)) :
    (e.receiveFrame frameBytes).held = [] ∧
      due unacknowledged e (.receiveFrame frameBytes) = unacknowledged ∧
      ¬ Notifies (news e (e.receiveFrame frameBytes)) := by
  obtain ⟨frame, decoded, format, answered⟩ := receiveFrame_restarts restarts
  refine ⟨?_, ?_, ?_⟩
  · rw [answered]
    rfl
  · apply due_of_idle _ rfl
    rw [acceptedNr, decoded]
    simp only [receivedNr, format, ite_self]
  · rw [answered, news_of_outputs rfl]
    rintro ⟨sapi, prim, l3Data, member, -⟩
    cases List.mem_singleton.mp member

end Steps

/-- An entity behind its construction; nothing was accepted. -/
def fresh (profile : LAPDmChannelProfile) : LAPDmEntity × List UInt8 :=
  ({ profile := profile }, [])

theorem Accounts.of_run {profile : LAPDmChannelProfile} {calls : List Call}
    {w : LAPDmEntity × List UInt8}
    (run : accounting.Run (fun _ _ _ => True) (fresh profile) calls w) : Accounts w.1 w.2 := by
  refine run.invariant (fun _ state => Accounts state.1 state.2)
    (.of_empty (.of_empty rfl rfl rfl rfl)) ?_
  intro past source target request accounts stepped _
  rw [← accounting_step stepped]
  exact accounts.call request

/-- What the entity does by itself: it receives a frame or its timer advances. -/
def External : Call → Prop
  | .receiveFrame _ | .tickT200 _ => True
  | _ => False

/-- **Accepted data is not lost in silence**: at any point of a run, a frame or a tick of the
timer that discards octets accepted and not acknowledged tells the upper layer of a release or
an error, exactly if it is no SABME that re-establishes a link with such octets. -/
theorem discards_told_iff {profile : LAPDmChannelProfile} {calls : List Call}
    {w : LAPDmEntity × List UInt8}
    (run : accounting.Run (fun _ _ _ => True) (fresh profile) calls w) {request : Call}
    (external : External request) :
    (Discards w.2 w.1 request (w.1.call request) → Notifies (news w.1 (w.1.call request))) ↔
      ¬ (w.1.Restarts request ∧ w.2 ≠ []) := by
  have accounts := Accounts.of_run run
  cases request with
  | receiveFrame frameBytes =>
      constructor
      · intro told ⟨restarts, owed⟩
        obtain ⟨gone, now, untold⟩ := restarted_untold restarts
        apply untold
        apply told
        intro kept
        rw [LAPDmEntity.call, gone, now] at kept
        exact owed (List.eq_nil_of_suffix_nil kept)
      · intro other discards
        rcases (accounts.receiveFrame frameBytes).1 discards with told | restarts
        · exact told
        · -- nothing was due
          obtain ⟨-, now, -⟩ := restarted_untold restarts
          have none : w.2 = [] := not_not.mp fun owed => other ⟨restarts, owed⟩
          rw [Discards, now, none] at discards
          exact absurd List.nil_suffix discards
  | tickT200 elapsed =>
      refine iff_of_true (fun discards => ?_) fun both => both.1
      rcases tickT200_cases w.1 elapsed with keeps | ⟨-, releases⟩
      · exact absurd discards (accounts.keeps keeps (.inl (due_of_idle rfl rfl))).1
      · obtain ⟨new, outputs, -, told⟩ := releases.told
        rwa [LAPDmEntity.call, news_of_outputs outputs]
  | _ => exact absurd external id

/-- A mobile establishes the link and polls it, the base station sends, and the mobile
establishes the link again. -/
private def sending : List Call :=
  [.openEntity .sapi0 true, .receiveFrame (encodeFrame (makeSABMEFrame .sapi0 false [])),
    .receiveFrame (encodeFrame (makeRRFrame .sapi0 0 false)), .sendData [1, 2, 3]]

private theorem sending_run :
    ∃ w, accounting.Run (fun _ _ _ => True) (fresh .SDCCH) sending w ∧
      w.1.state = .linkEstablished ∧ w.1.sapi = .sapi0 ∧
      w.1.establishmentInProgress = false ∧ w.2 = [1, 2, 3] := by
  obtain ⟨w, executed⟩ := Option.isSome_iff_exists.mp (show (accounting.exec
    (fun _ _ _ => True) (fresh .SDCCH) sending).isSome by decide)
  have facts : ∀ w ∈ accounting.exec (fun _ _ _ => True) (fresh .SDCCH) sending,
      w.1.state = .linkEstablished ∧ w.1.sapi = .sapi0 ∧
      w.1.establishmentInProgress = false ∧ w.2 = [1, 2, 3] := by
    decide
  exact ⟨w, .exec sending .origin executed, facts w executed⟩

/-- A DISC discards the octets and the upper layer is told. -/
theorem disconnection_told :
    ∃ w, accounting.Run (fun _ _ _ => True) (fresh .SDCCH) sending w ∧
      (Discards w.2 w.1 (.receiveFrame (encodeFrame (makeDISCFrame .sapi0 false)))
          (w.1.receiveFrame (encodeFrame (makeDISCFrame .sapi0 false))) →
        Notifies (news w.1 (w.1.receiveFrame (encodeFrame (makeDISCFrame .sapi0 false))))) := by
  obtain ⟨w, run, -, -, -, -⟩ := sending_run
  have decoded : LAPDmFrame.decode (encodeFrame (makeDISCFrame .sapi0 false)) =
      .ok (makeDISCFrame .sapi0 false) := by decide
  have external : External (.receiveFrame (encodeFrame (makeDISCFrame .sapi0 false))) := trivial
  refine ⟨w, run, (discards_told_iff run external).mpr ?_⟩
  intro ⟨⟨_, _, read⟩, _⟩
  rw [reads, decoded] at read
  simp [makeDISCFrame] at read

/-- The octets are gone and the upper layer hears nothing. -/
theorem restart_discards_silently :
    ∃ (w : LAPDmEntity × List UInt8) (frameBytes : List UInt8),
      accounting.Run (fun _ _ _ => True) (fresh .SDCCH) sending w ∧ w.2 = [1, 2, 3] ∧
      Discards w.2 w.1 (.receiveFrame frameBytes) (w.1.receiveFrame frameBytes) ∧
      ¬ Notifies (news w.1 (w.1.receiveFrame frameBytes)) := by
  obtain ⟨w, run, established, sapi, settled, owed⟩ := sending_run
  have decoded : LAPDmFrame.decode (encodeFrame (makeSABMEFrame .sapi0 false [])) =
      .ok (makeSABMEFrame .sapi0 false []) := by decide
  have read : w.1.reads .sabme (encodeFrame (makeSABMEFrame .sapi0 false [])) = some [] :=
    reads_of_decode decoded sapi.symm rfl rfl rfl
  obtain ⟨gone, now, untold⟩ := restarted_untold ⟨established, settled, read⟩
  refine ⟨w, _, run, owed, fun kept => ?_, untold⟩
  rw [gone, now, owed] at kept
  cases List.eq_nil_of_suffix_nil kept

end LAPDmEntity

end Lapdm

end Gsml3
