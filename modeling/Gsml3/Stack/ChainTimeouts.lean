import Gsml3.Stack.OrchestratorCalls

/-!
# Timeouts of a chain

Time alone ends a chain exactly when a timer is running that needs no further
retransmission.
-/

namespace Gsml3

namespace Stack

namespace ProcedureOrchestrator

variable {own : ProcedureOrchestrator} {remaining : Int}

/-- Tick the chain several times and count the failures. -/
def tickRun (own : ProcedureOrchestrator) (deltas : List Int) : ProcedureOrchestrator × Nat :=
  deltas.foldl (fun ticked delta =>
    ((ticked.1.tickAll delta).orchestrator, ticked.2 + (ticked.1.tickAll delta).failed)) (own, 0)

/-- The ticks end the chain with a failure. -/
def FailsBy (own : ProcedureOrchestrator) (deltas : List Int) : Prop :=
  (own.tickRun deltas).1.currentPhase = .none ∧ 0 < (own.tickRun deltas).2

theorem foldl_tick (own : ProcedureOrchestrator) (failed : Nat) (deltas : List Int) :
    deltas.foldl (fun ticked delta =>
        ((ticked.1.tickAll delta).orchestrator, ticked.2 + (ticked.1.tickAll delta).failed))
        (own, failed) =
      ((own.tickRun deltas).1, failed + (own.tickRun deltas).2) := by
  induction deltas generalizing own failed with
  | nil => rfl
  | cons delta deltas ih =>
      rw [tickRun, List.foldl_cons, List.foldl_cons, ih, ih]
      simp only [Nat.zero_add, Nat.add_assoc]

theorem tickRun_cons (own : ProcedureOrchestrator) (delta : Int) (deltas : List Int) :
    own.tickRun (delta :: deltas) =
      (((own.tickAll delta).orchestrator.tickRun deltas).1,
        (own.tickAll delta).failed + ((own.tickAll delta).orchestrator.tickRun deltas).2) := by
  rw [tickRun, List.foldl_cons, foldl_tick, Nat.zero_add]

theorem tickRun_idle (session : Option SessionCore) (last : ResponseToken) (deltas : List Int) :
    (idle session last).tickRun deltas = (idle session last, 0) := by
  induction deltas with
  | nil => rfl
  | cons delta deltas ih =>
      rw [tickRun_cons]
      change (((idle session last).tickRun deltas).1,
        0 + ((idle session last).tickRun deltas).2) = _
      rw [ih]
      rfl

/-! ## Running timers -/

/-- A timer is running that ends the chain when `remaining` milliseconds have passed. -/
inductive Counts : Int → ProcedureOrchestrator → Prop
  | authentication (own : Authentication) (running : own.base.timerRunning = true)
      (session : Option SessionCore) (last : ResponseToken) :
      Counts own.base.timerRemaining (working .authentication (.authentication own) session last)
  | cipheringMode (own : CipheringMode) (running : own.base.timerRunning = true)
      (session : Option SessionCore) (last : ResponseToken) :
      Counts own.base.timerRemaining (working .cipheringMode (.cipheringMode own) session last)
  | callSetupMO (own : CallSetupMO) (running : own.base.timerRunning = true)
      (session : Option SessionCore) (last : ResponseToken) :
      Counts own.base.timerRemaining (working .callSetupMO (.callSetupMO own) session last)
  | identifying {retransmissions : Nat} (spent : maxIdentityRetransmissions ≤ retransmissions)
      (session : Option SessionCore) (last queued : ResponseToken) (remaining : Int) :
      Counts remaining (identifying session last remaining retransmissions queued)
  | locating (session : Option SessionCore) (last : ResponseToken) (remaining : Int) :
      Counts remaining (locating session last remaining)

theorem tick_working {phase : ChainPhase} {proc : Procedure} {session : Option SessionCore}
    {last : ResponseToken} {delta : Int}
    (fails_iff : (proc.tick delta).2.action = .failed ↔ remaining - delta ≤ 0)
    (left : 0 < remaining - delta →
      Counts (remaining - delta) (working phase (proc.tick delta).1 session last)) :
    (remaining - delta ≤ 0 →
        ((working phase proc session last).tickAll delta).orchestrator = idle none .none ∧
          ((working phase proc session last).tickAll delta).failed = 1) ∧
      (0 < remaining - delta →
        Counts (remaining - delta) ((working phase proc session last).tickAll delta).orchestrator) := by
  rw [tickAll_working]
  by_cases expired : remaining - delta ≤ 0
  · rw [if_pos (fails_iff.mpr expired)]
    exact ⟨fun _ => ⟨rfl, rfl⟩, fun h => absurd h expired.not_gt⟩
  · rw [if_neg (mt fails_iff.mp expired)]
    exact ⟨fun h => absurd h expired, left⟩

/-- A tick counts a running timer down or ends the chain. -/
theorem Counts.tick (counts : Counts remaining own) (delta : Int) :
    (remaining - delta ≤ 0 → (own.tickAll delta).orchestrator = idle none .none ∧
        (own.tickAll delta).failed = 1) ∧
      (0 < remaining - delta →
        Counts (remaining - delta) (own.tickAll delta).orchestrator) := by
  cases counts with
  | authentication own running session last =>
      obtain ⟨fails_iff, left⟩ := doTick_running running Authentication.type delta
      refine tick_working fails_iff fun h => ?_
      have next : ((Procedure.authentication own).tick delta).1 = .authentication
          { own with base.timerRemaining := own.base.timerRemaining - delta } :=
        congrArg (fun base => Procedure.authentication { own with base := base }) (left h)
      rw [next]
      exact .authentication { own with base.timerRemaining := own.base.timerRemaining - delta } running
        session last
  | cipheringMode own running session last =>
      obtain ⟨fails_iff, left⟩ := doTick_running running CipheringMode.type delta
      refine tick_working fails_iff fun h => ?_
      have next : ((Procedure.cipheringMode own).tick delta).1 = .cipheringMode
          { own with base.timerRemaining := own.base.timerRemaining - delta } :=
        congrArg (fun base => Procedure.cipheringMode { own with base := base }) (left h)
      rw [next]
      exact .cipheringMode { own with base.timerRemaining := own.base.timerRemaining - delta } running
        session last
  | callSetupMO own running session last =>
      obtain ⟨fails_iff, left⟩ := doTick_running running CallSetupMO.type delta
      refine tick_working fails_iff fun h => ?_
      have next : ((Procedure.callSetupMO own).tick delta).1 = .callSetupMO
          { own with base.timerRemaining := own.base.timerRemaining - delta } :=
        congrArg (fun base => Procedure.callSetupMO { own with base := base }) (left h)
      rw [next]
      exact .callSetupMO { own with base.timerRemaining := own.base.timerRemaining - delta } running
        session last
  | identifying spent session last queued =>
      rw [tickAll_identifying, if_neg spent.not_gt]
      split
      case isTrue expired => exact ⟨fun _ => ⟨rfl, rfl⟩, fun left => absurd left expired.not_gt⟩
      case isFalse left =>
        exact ⟨fun expired => absurd expired left, fun _ => .identifying spent _ _ _ _⟩
  | locating session last =>
      rw [tickAll_locating]
      split
      case isTrue expired => exact ⟨fun _ => ⟨rfl, rfl⟩, fun left => absurd left expired.not_gt⟩
      case isFalse left => exact ⟨fun expired => absurd expired left, fun _ => .locating _ _ _⟩

/-- A running timer ends the chain when its time has passed. -/
theorem Counts.fails (counts : Counts remaining own) {deltas : List Int}
    (ticked : deltas ≠ []) (passed : remaining ≤ deltas.sum) : own.FailsBy deltas := by
  induction deltas generalizing own remaining with
  | nil => exact absurd rfl ticked
  | cons delta deltas ih =>
      have tick := counts.tick delta
      rw [FailsBy, tickRun_cons]
      by_cases expired : remaining - delta ≤ 0
      · obtain ⟨idled, failed⟩ := tick.1 expired
        rw [idled, failed, tickRun_idle]
        exact ⟨rfl, Nat.one_pos⟩
      · have left : 0 < remaining - delta := not_le.mp expired
        rw [List.sum_cons] at passed
        have rest : deltas ≠ [] := by
          rintro rfl
          rw [List.sum_nil] at passed
          omega
        have fails := ih (tick.2 left) rest (by omega)
        exact ⟨fails.1, Nat.lt_of_lt_of_le fails.2 (Nat.le_add_left _ _)⟩

/-! ## Phases without a timer that ends them -/

/-- The timers of the chain are such that time alone ends it. -/
def Timed (own : ProcedureOrchestrator) : Prop :=
  own.currentPhase = .locationUpdate ∨
    own.currentPhase = .identityVerification ∧
      maxIdentityRetransmissions ≤ own.phaseRetransmissions ∨
    ∃ proc, own.currentProcedure = some proc ∧ proc.timerRunning = true

theorem Timed.counts (timed : own.Timed) (resting : Resting own) :
    ∃ remaining, Counts remaining own := by
  cases resting with
  | idle session last => rcases timed with phase | ⟨phase, -⟩ | ⟨proc, held, -⟩ <;> contradiction
  | working fits session last =>
      rcases timed with phase | ⟨phase, -⟩ | ⟨proc, held, running⟩
      · cases phase
        cases fits
      · cases phase
        cases fits
      · obtain rfl := Option.some.inj held
        cases fits with
        | authentication own => exact ⟨_, .authentication own running session last⟩
        | cipheringMode own => exact ⟨_, .cipheringMode own running session last⟩
        | callSetupMO own => exact ⟨_, .callSetupMO own running session last⟩
  | identifying session last remaining retransmissions queued =>
      rcases timed with phase | ⟨-, spent⟩ | ⟨proc, held, -⟩
      · cases phase
      · exact ⟨remaining, .identifying spent session last queued remaining⟩
      · cases held
  | locating session last remaining => exact ⟨remaining, .locating session last remaining⟩

theorem tick_stopped {phase : ChainPhase} {proc : Procedure} (fits : Fits phase proc)
    (stopped : proc.timerRunning = false) (delta : Int) :
    (proc.tick delta).2.action ≠ .failed := by
  cases fits with
  | authentication own =>
      change (own.base.doTick Authentication.type delta).2.action ≠ .failed
      rw [doTick_stopped stopped]
      nofun
  | cipheringMode own =>
      change (own.base.doTick CipheringMode.type delta).2.action ≠ .failed
      rw [doTick_stopped stopped]
      nofun
  | callSetupMO own =>
      change (own.base.doTick CallSetupMO.type delta).2.action ≠ .failed
      rw [doTick_stopped stopped]
      nofun

/-- A tick of a chain without such a timer does not end it. -/
theorem tick_untimed (resting : Resting own) (active : own.currentPhase ≠ .none)
    (untimed : ¬ own.Timed) (delta : Int) :
    (own.tickAll delta).orchestrator.currentPhase ≠ .none := by
  cases resting with
  | idle session last => exact absurd rfl active
  | @working phase proc fits session last =>
      have stopped : proc.timerRunning = false := by
        by_contra running
        exact untimed (.inr (.inr ⟨_, rfl, eq_true_of_ne_false running⟩))
      rw [tickAll_working, if_neg (tick_stopped fits stopped delta)]
      exact fits.phase_ne_none
  | identifying session last remaining retransmissions queued =>
      have left : retransmissions < maxIdentityRetransmissions := by
        by_contra spent
        exact untimed (.inr (.inl ⟨rfl, not_lt.mp spent⟩))
      rw [tickAll_identifying, if_pos left]
      split
      · nofun
      · nofun
  | locating session last remaining => exact absurd (.inl rfl) untimed

/-- Time alone ends an active chain, whatever the ticks, exactly when one of its timers does
not ask for a retransmission first. -/
theorem fails_by_time_iff {events : List (Op × Reply)}
    (run : machine.Run (fun _ _ _ => True) {} events own) (active : own.currentPhase ≠ .none) :
    (∃ amount : Int, ∀ deltas : List Int, amount ≤ deltas.sum → own.FailsBy deltas) ↔
      own.Timed := by
  have resting := resting_of_run run
  constructor
  · rintro ⟨amount, fails⟩
    by_contra untimed
    have idled := (fails [max amount 0] (by simp)).1
    rw [tickRun_cons] at idled
    exact tick_untimed resting active untimed _ idled
  · intro timed
    obtain ⟨remaining, counts⟩ := timed.counts resting
    refine ⟨max remaining 1, fun deltas passed => counts.fails ?_ ((le_max_left _ _).trans passed)⟩
    rintro rfl
    have positive : (1 : Int) ≤ 0 := (le_max_right _ _).trans passed
    contradiction

/-- A location update that has sent its authentication request. -/
private def challenged : List (Op × Reply) :=
  [(.feed (.cmServiceRequest .locationUpdateRequest)
      (some { context.identity := .ofTMSI 1 }),
    { result := .respond .cmServiceAccept
      session := some { context.identity := .ofTMSI 1, mmSM := .authentication } }),
    (.feedExternalTyped (.authChallenge ⟨.replicate 16 1, .replicate 4 2⟩),
      { result := .respond .authenticationRequest
        session := some
          { context.identity := .ofTMSI 1
            mmSM := .authentication
            response.rand := .replicate 16 1
            response.hasRand := true } }),
    (.feed (.channelRequest 7) none, { result := .respond .authenticationRequest })]

/-- The response to an authentication request is not waited for forever. -/
theorem fails_by_time_challenged :
    ∃ own, machine.exec (fun _ _ _ => True) {} challenged = some own ∧
      ∃ amount : Int, ∀ deltas : List Int, amount ≤ deltas.sum → own.FailsBy deltas := by
  obtain ⟨own, executed⟩ := Option.isSome_iff_exists.mp
    (show (machine.exec (fun _ _ _ => True) {} challenged).isSome by decide)
  have phase : ∀ own ∈ machine.exec (fun _ _ _ => True) {} challenged,
      own.currentPhase = .authentication ∧
        own.currentProcedure.any (fun proc => proc.timerRunning) = true := by
    decide
  obtain ⟨authenticates, running⟩ := phase own executed
  obtain ⟨proc, held, running⟩ := (Option.any_eq_true _ _).mp running
  exact ⟨own, executed, (fails_by_time_iff (.exec _ .origin executed)
    (by rw [authenticates]; nofun)).mpr (.inr (.inr ⟨proc, held, running⟩))⟩

/-- A location update whose authentication challenge never arrives waits forever. -/
theorem unchallenged_waits :
    ∃ own, machine.exec (fun _ _ _ => True) {} (challenged.take 1) = some own ∧
      own.currentPhase ≠ .none ∧
      ∀ amount : Int, ∃ deltas : List Int, amount ≤ deltas.sum ∧ ¬ own.FailsBy deltas := by
  obtain ⟨own, executed⟩ := Option.isSome_iff_exists.mp
    (show (machine.exec (fun _ _ _ => True) {} (challenged.take 1)).isSome by decide)
  have phase : ∀ own ∈ machine.exec (fun _ _ _ => True) {} (challenged.take 1),
      own.currentPhase = .authentication ∧
        own.currentProcedure = some (.authentication {}) := by
    decide
  obtain ⟨authenticates, held⟩ := phase own executed
  have active : own.currentPhase ≠ .none := by
    rw [authenticates]
    nofun
  refine ⟨own, executed, active, fun amount => ⟨[max amount 0], by simp, fun fails => ?_⟩⟩
  have idled := fails.1
  rw [tickRun_cons] at idled
  refine tick_untimed (resting_of_run (.exec _ .origin executed)) active ?_ _ idled
  rintro (location | ⟨identity, -⟩ | ⟨proc, same, running⟩)
  · cases authenticates.symm.trans location
  · cases authenticates.symm.trans identity
  · obtain rfl := Option.some.inj (held.symm.trans same)
    cases running

end ProcedureOrchestrator

end Stack

end Gsml3
