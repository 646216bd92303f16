import Gsml3.Lapdm.EntityRuns

/-!
# Await states and the retransmission budget

A waiting entity keeps T200 running with its command stored, and every expiry
of T200 spends one retransmission of the budget until the counter is reset.
The counter is an `unsigned`; a budget of the largest such number is never
exceeded by it.
-/

namespace Gsml3

namespace Lapdm

open Foundation

namespace LAPDmEntity

/-! ## What a call changes -/

/-- The entity is not in one of the two await states. -/
def Settled (e : LAPDmEntity) : Prop :=
  e.state ≠ .awaitingEstablish ∧ e.state ≠ .awaitingRelease

/-- An await state has T200 running and its command stored. -/
structure AwaitServed (e : LAPDmEntity) : Prop where
  establish : e.state = .awaitingEstablish → e.t200Active = true ∧ e.pending = .sabme
  release : e.state = .awaitingRelease → e.t200Active = true ∧ e.pending = .disc

/-- The ways a call that retransmits nothing moves an entity. -/
inductive Moves (e target : LAPDmEntity) : Prop where
  | kept (state : target.state = e.state) (pending : target.pending = e.pending)
      (timer : e.t200Active = true → target.t200Active = true) (rc : target.rc = e.rc)
  | settled (state : target.Settled) (rc : target.rc = e.rc ∨ target.rc = 0)
  | commanded (served : target.AwaitServed) (rc : target.rc = 0)

variable {e target : LAPDmEntity}

theorem AwaitServed.of_settled (settled : e.Settled) : e.AwaitServed :=
  ⟨fun state => absurd state settled.1, fun state => absurd state settled.2⟩

/-- Await states stay served. -/
theorem Moves.awaitServed (moves : Moves e target) (served : e.AwaitServed) :
    target.AwaitServed := by
  cases moves with
  | kept state pending timer rc =>
      refine ⟨fun waiting => ?_, fun waiting => ?_⟩
      · obtain ⟨active, stored⟩ := served.establish (state ▸ waiting)
        exact ⟨timer active, pending.trans stored⟩
      · obtain ⟨active, stored⟩ := served.release (state ▸ waiting)
        exact ⟨timer active, pending.trans stored⟩
  | settled state rc => exact .of_settled state
  | commanded served rc => exact served

/-- The counter is kept or reset. -/
theorem Moves.rc (moves : Moves e target) : target.rc = e.rc ∨ target.rc = 0 := by
  cases moves with
  | kept state pending timer rc => exact .inl rc
  | settled state rc => exact rc
  | commanded served rc => exact .inr rc

theorem Moves.refl (e : LAPDmEntity) : Moves e e :=
  .kept rfl rfl id rfl

theorem Settled.of_established (established : e.state = .linkEstablished) : e.Settled := by
  unfold Settled
  rw [established]
  decide

theorem abnormalRelease_moves (e : LAPDmEntity) (withDM : Bool) :
    Moves e (e.abnormalRelease withDM) := by
  refine .settled ?_ (.inr ?_)
  · cases withDM <;> exact ⟨nofun, nofun⟩
  · cases withDM <;> rfl

/-! ## Handlers -/

theorem advanceQueue_kept (e : LAPDmEntity) (msgEnd chunkSize : Nat) :
    (e.advanceQueue msgEnd chunkSize).state = e.state ∧
      (e.advanceQueue msgEnd chunkSize).rc = e.rc := by
  unfold advanceQueue
  split
  · split <;> exact ⟨rfl, rfl⟩
  · exact ⟨rfl, rfl⟩

/-- Segments are sent in the state of the queue's owner; a sent one resets the
counter. -/
theorem trySendNextSegment_kept (e : LAPDmEntity) :
    e.trySendNextSegment.state = e.state ∧
      (e.trySendNextSegment.rc = e.rc ∨ e.trySendNextSegment.rc = 0) := by
  unfold trySendNextSegment
  split
  · exact ⟨rfl, .inl rfl⟩
  · split
    · exact ⟨rfl, .inl rfl⟩
    next msgEnd _ =>
      obtain ⟨state, rc⟩ := advanceQueue_kept
        (e.buildIFrame
          ((e.txQueue.drop e.txQueuePos).take (min (msgEnd - e.txQueuePos) e.profile.n201))
          (decide (e.profile.n201 < msgEnd - e.txQueuePos)))
        msgEnd (min (msgEnd - e.txQueuePos) e.profile.n201)
      exact ⟨state, .inr rc⟩

theorem processAck_kept (e : LAPDmEntity) (nr : Fin 8) :
    (e.processAck nr).state = e.state ∧
      ((e.processAck nr).rc = e.rc ∨ (e.processAck nr).rc = 0) := by
  unfold processAck
  dsimp only
  split
  · obtain ⟨state, rc⟩ := trySendNextSegment_kept { e with va := nr, rc := 0, t200Active := false }
    refine ⟨state, .inr ?_⟩
    cases rc with
    | inl same => exact same
    | inr zero => exact zero
  · exact ⟨rfl, .inl rfl⟩

/-- Contention resolution is no await state, and leaving it is the only effect. -/
theorem completeEstablishment_moves (e : LAPDmEntity) :
    Moves e e.completeEstablishment ∧ e.completeEstablishment.rc = e.rc := by
  unfold completeEstablishment
  split
  · exact ⟨.settled ⟨nofun, nofun⟩ (.inl rfl), rfl⟩
  · exact ⟨.refl e, rfl⟩

theorem checkSequence_moves (e : LAPDmEntity) (frame : LAPDmFrame)
    (established : e.state = .linkEstablished) :
    (e.checkSequence frame).Settled ∧
      ((e.checkSequence frame).rc = e.rc ∨ (e.checkSequence frame).rc = 0) := by
  unfold checkSequence
  split
  · exact ⟨.of_established established, .inl rfl⟩
  · unfold acceptIFrame
    split
    · exact ⟨⟨nofun, nofun⟩, .inr rfl⟩
    · cases frame.more <;> exact ⟨.of_established established, .inl rfl⟩

theorem receiveIFrame_moves (e : LAPDmEntity) (frame : LAPDmFrame) :
    Moves e (e.receiveIFrame frame) := by
  let started := { e with establishmentInProgress := false }
  obtain ⟨opened, rc⟩ := completeEstablishment_moves started
  unfold receiveIFrame
  dsimp only
  split
  case isTrue => cases opened with
    | kept state pending timer rc => exact .kept state pending timer rc
    | settled state rc => exact .settled state rc
    | commanded served rc => exact .commanded served rc
  case isFalse established =>
    obtain ⟨state, acked⟩ := processAck_kept started.completeEstablishment frame.iCtrl.nr
    obtain ⟨settled, checked⟩ := checkSequence_moves
      (started.completeEstablishment.processAck frame.iCtrl.nr) frame
      (state.trans (not_not.mp established))
    refine .settled settled ?_
    rcases checked with same | zero
    · rw [rc] at acked
      rcases acked with kept | zero
      · exact .inl (same.trans kept)
      · exact .inr (same.trans zero)
    · exact .inr zero

theorem receiveSFrame_moves (e : LAPDmEntity) (frame : LAPDmFrame) :
    Moves e (e.receiveSFrame frame) := by
  let started := { e with establishmentInProgress := false }
  obtain ⟨opened, rc⟩ := completeEstablishment_moves started
  have away : Moves e started.completeEstablishment := by
    cases opened with
    | kept state pending timer rc => exact .kept state pending timer rc
    | settled state rc => exact .settled state rc
    | commanded served rc => exact .commanded served rc
  obtain ⟨state, acked⟩ := processAck_kept started.completeEstablishment frame.nr
  rw [rc] at acked
  unfold receiveSFrame
  cases frame.sType with
  | rr =>
      dsimp only
      split
      case isTrue => exact away
      case isFalse established =>
        have settled := state.trans (not_not.mp established)
        split <;> exact .settled (.of_established settled) acked
  | rnr => exact .settled ⟨nofun, nofun⟩ (.inr rfl)
  | rej =>
      dsimp only
      split
      case isTrue => exact away
      case isFalse established =>
        have settled := state.trans (not_not.mp established)
        split
        · split
          · exact .settled ⟨nofun, nofun⟩ (.inr rfl)
          · exact .settled (.of_established settled) acked
        · exact .settled (.of_established settled) acked
  | reserved => exact .kept rfl rfl id rfl

theorem receiveUFrame_moves (e : LAPDmEntity) (frame : LAPDmFrame) :
    Moves e (e.receiveUFrame frame) := by
  unfold receiveUFrame
  cases frame.uType with
  | sabme =>
      dsimp only [handleSABME]
      split
      · exact .refl e
      · cases state : e.state with
        | linkReleased =>
            dsimp only
            split
            · refine .settled ?_ (.inr rfl)
              unfold Settled
              cases access : e.sapi <;> exact ⟨nofun, nofun⟩
            · exact .settled ⟨nofun, nofun⟩ (.inr rfl)
        | awaitingEstablish => exact .kept rfl rfl id rfl
        | awaitingRelease => exact .kept rfl rfl id rfl
        | linkEstablished =>
            dsimp only
            split
            · split <;> exact .kept rfl rfl id rfl
            · split
              · exact abnormalRelease_moves e true
              · exact .settled (.of_established state) (.inr rfl)
        | contentionResolution =>
            dsimp only
            split
            · exact .settled ⟨nofun, nofun⟩ (.inl rfl)
            · exact .refl e
        | unused => exact .refl e
  | ua =>
      dsimp only [handleUA]
      split
      · exact .refl e
      · cases e.state <;> first
          | exact .refl e
          | exact .settled ⟨nofun, nofun⟩ (.inr rfl)
  | dm =>
      dsimp only [handleDM]
      split
      · exact .refl e
      · cases state : e.state <;> first
          | exact .refl e
          | exact .settled ⟨nofun, nofun⟩ (.inr rfl)
          | exact .kept state.symm rfl (fun _ => rfl) rfl
  | disc =>
      dsimp only [handleDISC]
      cases state : e.state <;> first
        | exact .kept state.symm rfl id rfl
        | exact .settled ⟨nofun, nofun⟩ (.inr rfl)
  | ui => exact .kept rfl rfl id rfl

theorem receiveFrame_moves (e : LAPDmEntity) (frameBytes : List UInt8) :
    Moves e (e.receiveFrame frameBytes) := by
  unfold receiveFrame
  split
  · exact .refl e
  next frame _ =>
    let counted := { e with framesReceived := e.framesReceived + 1 }
    have handled : ∀ {result : LAPDmEntity}, Moves counted result → Moves e result := by
      intro result moves
      cases moves with
      | kept state pending timer rc => exact .kept state pending timer rc
      | settled state rc => exact .settled state rc
      | commanded served rc => exact .commanded served rc
    dsimp only
    split
    · exact handled (.refl counted)
    · cases frame.format with
      | iFormat => exact handled (receiveIFrame_moves counted frame)
      | sFormat => exact handled (receiveSFrame_moves counted frame)
      | uFormat => exact handled (receiveUFrame_moves counted frame)

/-! ## Expiries -/

/-- The call lets T200 expire. -/
def expires (e : LAPDmEntity) : Call → Bool
  | .tickT200 elapsed => e.t200Active && decide ((e.t200RemainingMs.toNat : Int) ≤ elapsed)
  | _ => false

/-- The call lets T200 expire with the budget not yet exceeded. -/
def retransmits (e : LAPDmEntity) (request : Call) : Bool :=
  e.expires request && decide (e.rc ≤ e.profile.n200)

/-- A call other than a retransmission serves the await states and keeps or
resets the counter. -/
theorem call_moves {request : Call} (still : e.retransmits request = false) :
    Moves e (e.call request) := by
  cases request with
  | openEntity sapi commandBit => exact .settled ⟨by rintro ⟨⟩, by rintro ⟨⟩⟩ (.inr rfl)
  | receiveFrame frameBytes => exact receiveFrame_moves e frameBytes
  | sendUI sapi l3Data => exact .kept rfl rfl id rfl
  | sendData l3Data =>
      dsimp only [call, sendData]
      split
      case isTrue => exact .refl e
      case isFalse established =>
        split
        · exact .refl e
        · obtain ⟨state, rc⟩ := trySendNextSegment_kept (e.enqueue l3Data)
          refine .settled ?_ rc
          unfold Settled
          rw [state]
          change e.state ≠ _ ∧ e.state ≠ _
          cases owner : e.state <;> simp [isEstablished, owner] at established ⊢
  | sendSABME info =>
      dsimp only [call, sendSABME]
      split
      · exact .kept rfl rfl id rfl
      · split
        · exact .refl e
        · exact .commanded ⟨fun _ => ⟨rfl, rfl⟩, by rintro ⟨⟩⟩ rfl
  | sendDISC =>
      dsimp only [call, sendDISC]
      split
      · exact .refl e
      · exact .commanded ⟨by rintro ⟨⟩, fun _ => ⟨rfl, rfl⟩⟩ rfl
  | hardRelease => exact .settled ⟨by rintro ⟨⟩, by rintro ⟨⟩⟩ (.inr rfl)
  | tickT200 elapsed =>
      dsimp only [call, tickT200]
      split
      case isTrue => exact .refl e
      case isFalse active =>
        split
        case isTrue => exact .kept rfl rfl id rfl
        case isFalse reached =>
          have expired : e.expires (.tickT200 elapsed) = true := by
            simp only [expires, Bool.and_eq_true, decide_eq_true_eq]
            exact ⟨by simpa using active, by omega⟩
          split
          case isTrue budget => simp [retransmits, expired, budget] at still
          case isFalse => exact .settled ⟨by rintro ⟨⟩, by rintro ⟨⟩⟩ (.inr rfl)
  | resetStats => exact .kept rfl rfl id rfl

/-- An expiry is a tick of at least the remaining time. -/
theorem expires_cases {request : Call} (expired : e.expires request = true) :
    ∃ elapsed, request = .tickT200 elapsed ∧ e.t200Active = true ∧
      ¬ elapsed < (e.t200RemainingMs.toNat : Int) := by
  cases request with
  | tickT200 elapsed =>
      simp only [expires, Bool.and_eq_true, decide_eq_true_eq] at expired
      exact ⟨elapsed, rfl, expired.1, by omega⟩
  | openEntity | receiveFrame | sendUI | sendData | sendSABME | sendDISC | hardRelease
  | resetStats => cases expired

/-- What a retransmission leaves behind. -/
structure Retransmitted (e target : LAPDmEntity) : Prop where
  state : target.state = e.state
  pending : target.pending = e.pending
  timer : target.t200Active = true
  rc : target.rc = e.rc + 1

theorem call_retransmits {request : Call} (again : e.retransmits request = true) :
    Retransmitted e (e.call request) := by
  simp only [retransmits, Bool.and_eq_true, decide_eq_true_eq] at again
  obtain ⟨elapsed, rfl, active, reached⟩ := expires_cases again.1
  simp only [call, tickT200, active, reached, again.2, Bool.true_eq_false, ↓reduceIte]
  unfold retransmitPending
  cases pending : e.pending <;> exact ⟨rfl, pending.symm ▸ rfl, rfl, rfl⟩

/-- The link is released with an error indication. -/
structure ReleasedWithError (e target : LAPDmEntity) : Prop where
  state : target.state = .linkReleased
  outputs : target.outputs = e.outputs ++ [.deliver e.sapi .MDL_ERROR_INDICATION []]

/-- An expiry beyond the budget releases the link. -/
theorem call_releases {request : Call} (expired : e.expires request = true)
    (spent : e.profile.n200 < e.rc) : ReleasedWithError e (e.call request) := by
  obtain ⟨elapsed, rfl, active, reached⟩ := expires_cases expired
  have beyond : ¬ e.rc ≤ e.profile.n200 := UInt32.not_le.mpr spent
  simp only [call, tickT200, active, reached, beyond, Bool.true_eq_false, ↓reduceIte]
  exact ⟨rfl, rfl⟩

/-! ## Runs -/

/-- An entity with the retransmissions sent since its counter was last reset. -/
structure Watched where
  entity : LAPDmEntity
  sinceReset : Nat := 0

/-- The count after a call: a retransmission is counted, and any other call
that leaves the counter at zero starts a new period. -/
def Watched.call (w : Watched) (request : Call) : Watched where
  entity := w.entity.call request
  sinceReset :=
    if w.entity.retransmits request then w.sinceReset + 1
    else if (w.entity.call request).rc = 0 then 0
    else w.sinceReset

/-- Entities that are watched over their runs. -/
def watching : Machine Watched Call where
  step := fun w request => some (w.call request)

/-- At most N200 + 1 retransmissions were sent since the last reset, and after
that many the next expiry releases the link. -/
structure Watched.Bounded (w : Watched) : Prop where
  budget : w.sinceReset ≤ w.entity.profile.n200.toNat + 1
  exhausted : w.sinceReset = w.entity.profile.n200.toNat + 1 →
    ∀ request, w.entity.expires request = true →
      ReleasedWithError w.entity (w.entity.call request)

/-- Await states are served in every state an entity reaches. -/
theorem Watched.awaitServed {profile : LAPDmChannelProfile} {calls : List Call} {w : Watched}
    (run : watching.Run (fun _ _ _ => True) ⟨{ profile := profile }, 0⟩ calls w) :
    w.entity.AwaitServed := by
  refine run.invariant (fun _ state => state.entity.AwaitServed) (.of_settled ⟨nofun, nofun⟩) ?_
  rintro past source target request served stepped -
  obtain rfl := Option.some.inj stepped
  change (source.entity.call request).AwaitServed
  cases again : source.entity.retransmits request with
  | true =>
      have repeated := call_retransmits again
      refine ⟨fun state => ⟨repeated.timer, ?_⟩, fun state => ⟨repeated.timer, ?_⟩⟩
      · exact repeated.pending.trans (served.establish (repeated.state ▸ state)).2
      · exact repeated.pending.trans (served.release (repeated.state ▸ state)).2
  | false => exact (call_moves again).awaitServed served

/-- The counter of the source counts the retransmissions, unless the budget is
the largest number it can hold. -/
structure Watched.Counts (w : Watched) : Prop where
  counter : w.sinceReset = w.entity.rc.toNat
  budget : w.entity.rc.toNat ≤ w.entity.profile.n200.toNat + 1

theorem Watched.Counts.call {w : Watched} (counts : w.Counts)
    (countable : w.entity.profile.n200 ≠ 4294967295) (request : Call) :
    (w.call request).Counts := by
  have profile := profile_call w.entity request
  cases again : w.entity.retransmits request with
  | true =>
      have repeated := (call_retransmits again).rc
      simp only [retransmits, Bool.and_eq_true, decide_eq_true_eq, UInt32.le_iff_toNat_le] at again
      have limit : w.entity.profile.n200.toNat + 1 < 4294967296 := by
        have bound := w.entity.profile.n200.toNat_lt
        have other : w.entity.profile.n200.toNat ≠ 4294967295 := fun same =>
          countable (UInt32.toNat_inj.mp same)
        omega
      have next : (w.entity.rc + 1).toNat = w.entity.rc.toNat + 1 := by
        rw [UInt32.toNat_add]
        change (w.entity.rc.toNat + 1) % 4294967296 = _
        omega
      have sent : (w.call request).sinceReset = w.sinceReset + 1 := by
        simp [Watched.call, retransmits, again, UInt32.le_iff_toNat_le]
      refine ⟨?_, ?_⟩
      · rw [sent, counts.counter]
        exact ((congrArg UInt32.toNat repeated).trans next).symm
      · change (w.entity.call request).rc.toNat ≤ _
        change _ ≤ (w.entity.call request).profile.n200.toNat + 1
        rw [repeated, next, profile]
        have bound := again.2
        omega
  | false =>
      have kept := (call_moves again).rc
      refine ⟨?_, ?_⟩
      · simp only [Watched.call, again, Bool.false_eq_true, ↓reduceIte]
        split
        case isTrue zero => rw [zero]; rfl
        case isFalse nonzero =>
          rcases kept with same | zero
          · rw [same, counts.counter]
          · exact absurd zero nonzero
      · change (w.entity.call request).rc.toNat ≤ (w.entity.call request).profile.n200.toNat + 1
        rw [profile]
        rcases kept with same | zero
        · rw [same]
          exact counts.budget
        · rw [zero]
          exact Nat.zero_le _

theorem Watched.Counts.bounded {w : Watched} (counts : w.Counts) : w.Bounded := by
  refine ⟨counts.counter ▸ counts.budget, fun spent request expired => ?_⟩
  refine call_releases expired ?_
  rw [UInt32.lt_iff_toNat_lt, ← counts.counter, spent]
  exact Nat.lt_succ_self _

theorem Watched.bounded {profile : LAPDmChannelProfile} (countable : profile.n200 ≠ 4294967295)
    {calls : List Call} {w : Watched}
    (run : watching.Run (fun _ _ _ => True) ⟨{ profile := profile }, 0⟩ calls w) : w.Bounded := by
  have counted : w.entity.profile = profile ∧ w.Counts := by
    refine run.invariant (fun _ state => state.entity.profile = profile ∧ state.Counts)
      ⟨rfl, rfl, Nat.zero_le _⟩ ?_
    rintro past source target request ⟨same, counts⟩ stepped -
    obtain rfl := Option.some.inj stepped
    refine ⟨(profile_call source.entity request).trans same, counts.call ?_ request⟩
    exact same.symm ▸ countable
  exact counted.2.bounded

/-- With the largest budget every expiry retransmits. -/
theorem retransmits_forever (profile : LAPDmChannelProfile) (largest : profile.n200 = 4294967295)
    (count : Nat) :
    ∃ w, watching.Run (fun _ _ _ => True) ⟨{ profile := profile }, 0⟩
        ([.openEntity .sapi0 true, .sendSABME []] ++
          List.replicate count (.tickT200 4294967296)) w ∧
      w.sinceReset = count ∧ w.entity.t200Active = true ∧ w.entity.profile = profile := by
  induction count with
  | zero =>
      refine ⟨_, .next (.next .origin rfl trivial) rfl trivial, ?_, rfl, rfl⟩
      rfl
  | succ count ih =>
      obtain ⟨w, run, counted, active, same⟩ := ih
      have expired : w.entity.expires (.tickT200 4294967296) = true := by
        have bound := w.entity.t200RemainingMs.toNat_lt
        simp only [expires, active, Bool.true_and, decide_eq_true_eq]
        omega
      have again : w.entity.retransmits (.tickT200 4294967296) = true := by
        have bound := w.entity.rc.toNat_lt
        simp only [retransmits, expired, Bool.true_and, decide_eq_true_eq, same, largest,
          UInt32.le_iff_toNat_le]
        change _ ≤ 4294967295
        omega
      refine ⟨w.call (.tickT200 4294967296), ?_, ?_, ?_, ?_⟩
      · rw [List.replicate_succ', ← List.append_assoc]
        exact run.next rfl trivial
      · simp [Watched.call, again, counted]
      · exact (call_retransmits again).timer
      · exact (profile_call w.entity _).trans same

/-- **Await states are served and retransmissions are bounded** over every run
of an entity exactly when N200 is not the largest `unsigned`. -/
theorem await_served_and_bounded_iff (profile : LAPDmChannelProfile) :
    (∀ (calls : List Call) (w : Watched),
      watching.Run (fun _ _ _ => True) ⟨{ profile := profile }, 0⟩ calls w →
        w.entity.AwaitServed ∧ w.Bounded) ↔ profile.n200 ≠ 4294967295 := by
  constructor
  · intro holds largest
    obtain ⟨w, run, counted, -, same⟩ := retransmits_forever profile largest 4294967297
    have budget := (holds _ w run).2.budget
    rw [counted, same, largest] at budget
    exact absurd budget (by decide)
  · intro countable calls w run
    exact ⟨Watched.awaitServed run, Watched.bounded countable run⟩

/-- The counter of a link with N200 = 4294967295 wraps, and more than N200 + 1
retransmissions go out. -/
theorem retransmissions_wrap :
    ∃ (profile : LAPDmChannelProfile) (calls : List Call) (w : Watched),
      watching.Run (fun _ _ _ => True) ⟨{ profile := profile }, 0⟩ calls w ∧
        profile.n200.toNat + 1 < w.sinceReset := by
  obtain ⟨w, run, counted, -⟩ :=
    retransmits_forever { n201 := 20, n200 := 4294967295, t200Ms := 900 } rfl 4294967297
  refine ⟨_, _, w, run, ?_⟩
  rw [counted]
  decide

end LAPDmEntity

end Lapdm

end Gsml3
