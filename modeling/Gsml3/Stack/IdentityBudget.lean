import Gsml3.Stack.RetransmissionTokens

/-!
# The budget of identity requests

The identity request is queued when its phase starts, and due at once.  If the first call after
that is a tick, it queues the request again and counts it as a retransmission, so a caller that
drains the channel after every tick gets one request less than the budget allows.
-/

namespace Gsml3

namespace Stack

namespace ProcedureOrchestrator

/-- A tick after which the caller drains the retransmission channel. -/
def round (own : ProcedureOrchestrator) (delta : Nat) : ProcedureOrchestrator × ResponseToken :=
  (own.tickAll delta).orchestrator.takeRetransmissionToken

/-- The chain after `n` rounds, with the tokens they reported. -/
def rounds (own : ProcedureOrchestrator) (ticks : Nat → Nat) :
    Nat → ProcedureOrchestrator × List ResponseToken
  | 0 => (own, [])
  | n + 1 =>
      let (chain, reported) := own.rounds ticks n
      ((chain.round (ticks n)).1, reported ++ [(chain.round (ticks n)).2])

/-- The requests that `n` rounds report. -/
def requests (own : ProcedureOrchestrator) (ticks : Nat → Nat) (n : Nat) : Nat :=
  (own.rounds ticks n).2.count .identityRequest

/-- The request is reported at first, and then as often as it may be retransmitted. -/
def SpendsBudget (own : ProcedureOrchestrator) (ticks : Nat → Nat) : Prop :=
  ∃ n, own.requests ticks n = 1 + maxIdentityRetransmissions

/-- The chain and the number of requests reported: none before the first round, then one for
every retransmission that was counted. -/
inductive Requested : ProcedureOrchestrator → Nat → Prop where
  | queued (session : Option SessionCore) (last : ResponseToken) :
      Requested (identifying session last 0 0 .identityRequest) 0
  | counted {spent : Nat} (within : spent ≤ maxIdentityRetransmissions)
      (session : Option SessionCore) (last : ResponseToken) (remaining : Int) :
      Requested (identifying session last remaining spent .none) spent
  | ended (session : Option SessionCore) (last : ResponseToken) :
      Requested (idle session last) maxIdentityRetransmissions

variable {own : ProcedureOrchestrator} {spent : Nat}

theorem Requested.le (requested : Requested own spent) : spent ≤ maxIdentityRetransmissions := by
  cases requested with
  | queued => exact Nat.zero_le _
  | counted within => exact within
  | ended => exact le_rfl

theorem Requested.round (requested : Requested own spent) (delta : Nat) :
    Requested (own.round delta).1 (spent + [(own.round delta).2].count .identityRequest) := by
  rw [ProcedureOrchestrator.round]
  cases requested with
  | queued session last =>
      have due : (0 : Int) - delta ≤ 0 := by omega
      have within : 0 < maxIdentityRetransmissions := by decide
      rw [tickAll_identifying, if_pos due, if_pos within]
      exact .counted within session last 3000
  | counted within session last remaining =>
      rw [tickAll_identifying]
      split
      case isTrue expired =>
        split
        case isTrue left => exact .counted left session last 3000
        case isFalse exhausted =>
          obtain rfl := Nat.le_antisymm within (Nat.not_lt.mp exhausted)
          exact .ended none .none
      case isFalse => exact .counted within session last _
  | ended session last => exact .ended session last

theorem Requested.rounds (requested : Requested own 0) (ticks : Nat → Nat) (n : Nat) :
    Requested (own.rounds ticks n).1 (own.requests ticks n) := by
  induction n with
  | zero => exact requested
  | succ n ih =>
      rw [requests, ProcedureOrchestrator.rounds, List.count_append]
      exact ih.round (ticks n)

/-- The chain that a message lets ask for the identity. -/
theorem feed_identifies (resting : Resting own) {msg : ParsedMessage}
    {session : Option SessionCore} (elsewhere : own.currentPhase ≠ .identityVerification)
    (entered : (own.feed msg session).orchestrator.currentPhase = .identityVerification) :
    Requested (own.feed msg session).orchestrator 0 := by
  cases resting with
  | idle kept last =>
      change Requested ((idle session last).startChain msg).orchestrator 0
      change ((idle session last).startChain msg).orchestrator.currentPhase = _ at entered
      rcases detectChainPhase_cases msg with rfl | rfl | detach | release | other
      · rw [startChain_call] at entered
        cases entered
      · by_cases known : KnownByTMSI session
        · rw [startChain_known known] at entered
          cases entered
        · rw [startChain_unknown known]
          exact .queued _ _
      · rw [startChain, detach] at entered
        cases entered
      · rw [startChain, release] at entered
        cases entered
      · rw [startChain, other] at entered
        cases entered
  | working fits kept last =>
      have fed := fits.feed msg session
      cases fits with
      | authentication own => exact absurd entered (conclude_phase fed.1 fed.2)
      | cipheringMode own => exact absurd entered (conclude_phase fed.1 fed.2)
      | callSetupMO own => exact absurd entered (conclude_phase fed.1 fed.2)
  | identifying => exact absurd rfl elsewhere
  | locating => cases entered

/-- However the time is cut into ticks, an unanswered chain reports the request one time less
than it should before it times out. -/
theorem budget_not_spent {events : List (Op × Reply)}
    (run : machine.Run (fun _ _ _ => True) {} events own) (msg : ParsedMessage)
    (session : Option SessionCore) (elsewhere : own.currentPhase ≠ .identityVerification)
    (entered : (own.feed msg session).orchestrator.currentPhase = .identityVerification)
    (ticks : Nat → Nat) :
    let chain := (own.feed msg session).orchestrator
    ¬ chain.SpendsBudget ticks ∧
      ∀ n, (chain.rounds ticks n).1.currentPhase ≠ .identityVerification →
        chain.requests ticks n = maxIdentityRetransmissions := by
  have requested := feed_identifies (resting_of_run run) elsewhere entered
  constructor
  · intro ⟨n, spent⟩
    have within := (requested.rounds ticks n).le
    omega
  · intro n gone
    have last := requested.rounds ticks n
    revert gone last
    generalize (rounds _ ticks n).1 = chain
    generalize requests _ ticks n = spent
    intro gone last
    cases last with
    | queued | counted => exact absurd rfl gone
    | ended => rfl

/-- The location update of an unknown subscriber. -/
private def asked : ProcedureOrchestrator :=
  (({} : ProcedureOrchestrator).feed (.cmServiceRequest .locationUpdateRequest) none).orchestrator

theorem budget_not_spent_asked :
    ¬ asked.SpendsBudget (fun _ => 3000) ∧
      ∀ n, (asked.rounds (fun _ => 3000) n).1.currentPhase ≠ .identityVerification →
        asked.requests (fun _ => 3000) n = maxIdentityRetransmissions :=
  budget_not_spent .origin (.cmServiceRequest .locationUpdateRequest) none nofun rfl fun _ => 3000

/-- With ticks of three seconds the chain times out in the fourth round, after three requests. -/
theorem times_out_early :
    (asked.rounds (fun _ => 3000) 4).1.currentPhase = .none ∧
      (asked.rounds (fun _ => 3000) 4).2 =
        [.identityRequest, .identityRequest, .identityRequest, .none] := by
  decide

end ProcedureOrchestrator

end Stack

end Gsml3
