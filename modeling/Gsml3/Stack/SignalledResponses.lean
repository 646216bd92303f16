import Gsml3.Stack.ChallengeBinding
import Gsml3.Stack.ProcedureLifecycle
import Gsml3.Stack.ResponseBuilder

/-!
# Responses that procedures signal

A procedure signals a token, and the response is built from the session it left its parameters in.
Along every run from a session without parameters the two fit, with a few exceptions: a call setup
has no channel of its own, only a TMSI is paged again, and a call to no number has no Setup.
-/

namespace Gsml3

namespace Stack

open Foundation
open ResponseBuilder (Answers Provided Valid buildResponseFromToken missing answers_provided)

namespace Procedure

instance : EventDriven Procedure where
  react proc
    | .feed msg session => proc.feed msg session
    | .external data session => proc.feedExternalTyped data session
    | .tick delta => ⟨(proc.tick delta).1, none, (proc.tick delta).2⟩

/-- The responses that a procedure signals without their parameters. -/
def Lacks (proc : Procedure) (session : SessionCore) : ResponseToken → Prop
  | .assignmentCommand => True
  | .immediateAssignment => ∃ own, proc = .callSetupMT own
  | .pagingRequestType2 | .pagingRequestType3 => session.response.identity.type ≠ .tmsi
  | .setup => ∃ own, proc = .callSetupMT own ∧ own.calledNumber = []
  | _ => False

/-- The parameters that a procedure relies on in its later steps are on its session. -/
def Exposes (proc : Procedure) (session : SessionCore) : Prop :=
  match proc with
  | .locationUpdate own => own.hasRand = true → session.response.hasRand = true
  | .authentication own =>
      own.base.currentState = .sendAuthReq → session.response.hasRand = true
  | .callSetupMO _ => session.response.hasChannel = false
  | .callSetupMT own => session.response.hasChannel = false ∧
      (own.base.currentState = .page → session.response.hasIdentity = true) ∧
      (own.calledNumber = [] → session.response.hasCalledNumber = false)
  | .handover own => own.base.currentState = .sendHoCmd → session.response.hasHoChannel = true
  | .paging own => own.base.currentState ≠ .init → session.response.hasIdentity = true
  | .cipheringMode _ | .channelAssignment _ | .imsiDetach _ | .callRelease _ => True

/-- A token can be built from the session exactly if it is none of the exceptions. -/
def Fits (proc : Procedure) (session : SessionCore) (token : ResponseToken) : Prop :=
  token = .none ∨ (Provided session token ↔ ¬ proc.Lacks session token)

/-- An outcome that goes on with its session, and signals what fits. -/
def Sound (fed : Fed Procedure) : Prop :=
  ∃ session, fed.session = some session ∧ fed.proc.Exposes session ∧
    fed.proc.Fits session fed.result.responseToken

theorem Exposes.created {proc : Procedure} (created : Created proc) (session : SessionCore)
    (cleared : session.response = {}) : proc.Exposes session := by
  have channel : session.response.hasChannel = false := by rw [cleared]
  cases created with
  | locationUpdate | authentication | handover => exact nofun
  | cipheringMode | channelAssignment | imsiDetach | callRelease => exact trivial
  | callSetupMO => exact channel
  | callSetupMT => exact ⟨channel, nofun, fun _ => by rw [cleared]⟩
  | paging => exact fun other => absurd rfl other

variable {session : SessionCore}

theorem Fits.silent (proc : Procedure) : proc.Fits session .none :=
  .inl rfl

theorem Fits.always {proc : Procedure} {token : ResponseToken} (provided : Provided session token)
    (never : ¬ proc.Lacks session token) : proc.Fits session token :=
  .inr (iff_of_true provided never)

theorem Fits.never {proc : Procedure} {token : ResponseToken} (without : ¬ Provided session token)
    (lacks : proc.Lacks session token) : proc.Fits session token :=
  .inr (iff_of_false without fun never => never lacks)

/-- An outcome that signals nothing. -/
theorem Sound.silent {proc : Procedure} (exposes : proc.Exposes session) :
    Sound ⟨proc, some session, {}⟩ :=
  ⟨session, rfl, exposes, .silent proc⟩

/-! ## Messages -/

theorem sound_locationUpdate {own : LocationUpdate}
    (exposes : Exposes (.locationUpdate own) session) (msg : ParsedMessage) :
    Sound (Procedure.feed (.locationUpdate own) msg (some session)) := by
  have keys := (own.feed_keys msg (some session)).1
  refine ⟨session, rfl, fun rand => exposes (keys.symm.trans rand), ?_⟩
  have token : (own.feed msg (some session)).result.responseToken =
      (own.feedState msg (some session)).2.responseToken := reportTerminal_responseToken
  change Fits _ session (own.feed msg (some session)).result.responseToken
  rw [token, LocationUpdate.feedState]
  split
  case h_1 | h_3 => split <;> exact .silent _
  case h_2 =>
    split
    · exact .silent _
    · exact .always trivial id
  case h_4 =>
    split
    case isTrue rand => exact .always (exposes rand) id
    case isFalse => exact .silent _
  case h_5 | h_7 => exact .silent _
  case h_6 =>
    split
    case isFalse => exact .silent _
    case isTrue =>
      rw [LocationUpdate.verify]
      split
      · split
        · split
          · exact .silent _
          · exact .always trivial id
        · exact .always trivial id
      · exact .silent _
  case h_8 | h_9 => exact .always trivial id
  case h_10 | h_11 | h_12 | h_13 => exact .silent _

theorem sound_authentication {own : Authentication}
    (exposes : Exposes (.authentication own) session) (msg : ParsedMessage) :
    Sound (Procedure.feed (.authentication own) msg (some session)) := by
  change Sound ((own.feed msg (some session)).map .authentication)
  rw [Authentication.feed]
  split
  case h_1 state => exact ⟨session, rfl, nofun, .always (exposes state) id⟩
  case h_2 state =>
    split
    case isFalse => exact .silent exposes
    case isTrue =>
      rw [Authentication.verify]
      dsimp only
      split
      · split
        · split
          · exact ⟨session, rfl, nofun, .silent _⟩
          · exact ⟨session, rfl, nofun, .silent _⟩
        · exact ⟨session, rfl, nofun, .silent _⟩
      · exact ⟨session, rfl, nofun, .silent _⟩
  case h_3 | h_4 | h_5 | h_6 => exact .silent exposes

theorem sound_cipheringMode (own : CipheringMode) (msg : ParsedMessage) :
    Sound (Procedure.feed (.cipheringMode own) msg (some session)) := by
  change Sound ((own.feed msg (some session)).map .cipheringMode)
  rw [CipheringMode.feed]
  split
  case h_1 => exact ⟨session, rfl, trivial, .always trivial id⟩
  case h_2 =>
    split
    · exact ⟨session, rfl, trivial, .silent _⟩
    · exact .silent trivial
  case h_3 | h_4 | h_5 => exact .silent trivial

/-- The transaction of a Setup is taken over, and nothing else of the session changes. -/
theorem sound_proceed {own : CallSetupMO} (exposes : Exposes (.callSetupMO own) session)
    (msg : ParsedMessage) : Sound ((own.proceed msg (some session)).map .callSetupMO) := by
  rw [CallSetupMO.proceed]
  split
  · exact ⟨_, rfl, exposes, .always trivial id⟩
  · exact ⟨session, rfl, exposes, .always trivial id⟩

theorem sound_callSetupMO {own : CallSetupMO} (exposes : Exposes (.callSetupMO own) session)
    (msg : ParsedMessage) : Sound (Procedure.feed (.callSetupMO own) msg (some session)) := by
  have channel : ¬ Provided session .assignmentCommand := Bool.not_eq_true _ ▸ exposes
  change Sound ((own.feed msg (some session)).map .callSetupMO)
  rw [CallSetupMO.feed]
  split
  case h_1 =>
    split
    · exact ⟨session, rfl, exposes, .always trivial id⟩
    · split
      · exact sound_proceed exposes msg
      · exact .silent exposes
  case h_2 | h_5 => exact ⟨session, rfl, exposes, .silent _⟩
  case h_3 =>
    split
    · exact sound_proceed exposes msg
    · exact .silent exposes
  case h_4 => exact ⟨session, rfl, exposes, .never channel trivial⟩
  case h_6 =>
    split
    · exact ⟨session, rfl, exposes, .always trivial id⟩
    · exact .silent exposes
  case h_7 | h_8 => exact ⟨session, rfl, exposes, .always trivial id⟩
  case h_9 =>
    split
    · exact ⟨session, rfl, exposes, .silent _⟩
    · exact .silent exposes
  case h_10 | h_11 => exact .silent exposes

/-- A Setup has its number if there is one. -/
theorem sound_setup {own next : CallSetupMT} (exposes : Exposes (.callSetupMT own) session)
    (same : next.calledNumber = own.calledNumber) (behind : next.base.currentState ≠ .page) :
    Sound ⟨.callSetupMT next, own.exposeNumber (some session), .respond .setup⟩ := by
  obtain ⟨channel, -, number⟩ := exposes
  rw [CallSetupMT.exposeNumber]
  split
  case isTrue none =>
    refine ⟨session, rfl, ⟨channel, fun page => absurd page behind, fun _ => number none⟩, ?_⟩
    apply Fits.never
    · rintro ⟨present, -⟩
      cases (number none).symm.trans present
    · exact ⟨next, rfl, same.trans none⟩
  case isFalse dialled =>
    refine ⟨_, rfl, ⟨channel, fun page => absurd page behind,
      fun none => absurd (same.symm.trans none) dialled⟩, ?_⟩
    apply Fits.always
    · refine ⟨rfl, ?_, ?_⟩
      · intro none
        rcases List.take_eq_nil_iff.mp none with zero | empty
        · cases zero
        · exact dialled empty
      · exact (List.length_take_le ..).trans (by decide)
    · rintro ⟨other, named, none⟩
      obtain rfl := Procedure.callSetupMT.inj named
      exact dialled (same.symm.trans none)

theorem sound_callSetupMT {own : CallSetupMT} (exposes : Exposes (.callSetupMT own) session)
    (msg : ParsedMessage) : Sound (Procedure.feed (.callSetupMT own) msg (some session)) := by
  obtain ⟨channel, identity, number⟩ := exposes
  have unassigned : ¬ session.response.hasChannel = true := Bool.not_eq_true _ ▸ channel
  have behind {next : CallSetupMT} (same : next.calledNumber = own.calledNumber)
      (state : next.base.currentState ≠ .page) : Exposes (.callSetupMT next) session :=
    ⟨channel, fun page => absurd page state, fun none => number (same.symm.trans none)⟩
  have stays := @Sound.silent session (.callSetupMT own) ⟨channel, identity, number⟩
  change Sound ((own.feed msg (some session)).map .callSetupMT)
  rw [CallSetupMT.feed]
  split
  case h_1 state =>
    exact ⟨session, rfl, behind rfl nofun, .always (identity state) id⟩
  case h_2 =>
    split
    · exact ⟨session, rfl, behind rfl nofun, .never unassigned ⟨_, rfl⟩⟩
    · exact stays
  case h_3 => exact sound_setup ⟨channel, identity, number⟩ rfl nofun
  case h_4 => exact sound_setup ⟨channel, identity, number⟩ rfl nofun
  case h_5 =>
    split
    · exact ⟨session, rfl, behind rfl nofun, .silent _⟩
    · exact stays
  case h_6 => exact ⟨session, rfl, behind rfl nofun, .never unassigned trivial⟩
  case h_7 =>
    split
    · exact ⟨session, rfl, behind rfl nofun, .always trivial id⟩
    · exact stays
  case h_8 | h_9 => exact ⟨session, rfl, behind rfl nofun, .always trivial id⟩
  case h_10 =>
    split
    · exact ⟨session, rfl, behind rfl nofun, .silent _⟩
    · exact stays
  case h_11 | h_12 | h_13 => exact stays

theorem sound_channelAssignment (own : ChannelAssignment) (msg : ParsedMessage) :
    Sound (Procedure.feed (.channelAssignment own) msg (some session)) := by
  change Sound ((own.feed msg (some session)).map .channelAssignment)
  rw [ChannelAssignment.feed]
  split
  case h_1 =>
    split
    case isFalse => exact .silent trivial
    case isTrue =>
      rw [ChannelAssignment.exposeReference]
      split
      · split
        · exact ⟨_, rfl, trivial, .silent _⟩
        · exact ⟨session, rfl, trivial, .silent _⟩
      · exact ⟨session, rfl, trivial, .silent _⟩
  case h_2 =>
    refine ⟨_, rfl, trivial, .always rfl ?_⟩
    rintro ⟨other, named⟩
    cases named
  case h_3 | h_4 => exact ⟨session, rfl, trivial, .silent _⟩
  case h_5 | h_6 => exact .silent trivial

theorem sound_handover {own : Handover} (exposes : Exposes (.handover own) session)
    (msg : ParsedMessage) : Sound (Procedure.feed (.handover own) msg (some session)) := by
  change Sound ((own.feed msg (some session)).map .handover)
  rw [Handover.feed]
  split
  case h_1 state => exact ⟨session, rfl, nofun, .always (exposes state) id⟩
  case h_2 =>
    split
    · exact ⟨session, rfl, nofun, .silent _⟩
    · split
      · exact ⟨session, rfl, nofun, .silent _⟩
      · exact .silent exposes
  case h_3 | h_4 | h_5 => exact .silent exposes

/-- The first page takes any identity, the others a TMSI. -/
theorem fits_page {proc : Procedure} (present : session.response.hasIdentity = true)
    {token : ResponseToken} (again : token = .pagingRequestType2 ∨ token = .pagingRequestType3) :
    proc.Fits session token := by
  apply Or.inr
  rcases again with rfl | rfl
  · exact ⟨fun both other => other both.2, fun tmsi => ⟨present, not_not.mp tmsi⟩⟩
  · exact ⟨fun both other => other both.2, fun tmsi => ⟨present, not_not.mp tmsi⟩⟩

theorem sound_paging {own : Paging} (exposes : Exposes (.paging own) session)
    (msg : ParsedMessage) : Sound (Procedure.feed (.paging own) msg (some session)) := by
  have known {state : PagingState} (reached : own.base.currentState = state)
      (other : state ≠ .init) : session.response.hasIdentity = true :=
    exposes (reached ▸ other)
  have answered (state : PagingState) (reached : own.base.currentState = state)
      (other : state ≠ .init) :
      Sound ((own.awaitResponse msg (some session)).map .paging) := by
    rw [Paging.awaitResponse]
    split
    · exact ⟨session, rfl, fun _ => known reached other, .silent _⟩
    · exact .silent exposes
  change Sound ((own.feed msg (some session)).map .paging)
  rw [Paging.feed]
  split
  case h_1 state =>
    exact ⟨session, rfl, fun _ => known state nofun, .always (known state nofun) id⟩
  case h_3 state =>
    exact ⟨session, rfl, fun _ => known state nofun, fits_page (known state nofun) (.inl rfl)⟩
  case h_5 state =>
    exact ⟨session, rfl, fun _ => known state nofun, fits_page (known state nofun) (.inr rfl)⟩
  case h_2 state | h_4 state | h_6 state => exact answered _ state nofun
  case h_7 | h_8 | h_9 => exact .silent exposes

theorem sound_imsiDetach (own : IMSIDetach) (msg : ParsedMessage) :
    Sound (Procedure.feed (.imsiDetach own) msg (some session)) := by
  refine ⟨session, rfl, trivial, ?_⟩
  have token : (own.feed msg (some session)).result.responseToken =
      (own.feedState msg).2.responseToken := reportTerminal_responseToken
  change Fits _ session (own.feed msg (some session)).result.responseToken
  rw [token, IMSIDetach.feedState]
  split
  case h_1 =>
    split
    · exact .always trivial id
    · exact .silent _
  case h_2 => exact .always trivial id
  case h_3 => split <;> exact .silent _
  case h_4 | h_5 => exact .silent _

theorem sound_callRelease (own : CallRelease) (msg : ParsedMessage) :
    Sound (Procedure.feed (.callRelease own) msg (some session)) := by
  refine ⟨_, rfl, trivial, ?_⟩
  have token : (own.feed msg (some session)).result.responseToken =
      (own.feedState msg).2.responseToken := reportTerminal_responseToken
  change Fits _ _ (own.feed msg (some session)).result.responseToken
  rw [token, CallRelease.feedState]
  split
  case h_1 =>
    split
    · exact .always trivial id
    · exact .silent _
  case h_2 | h_4 => exact .always trivial id
  case h_3 =>
    split
    · exact .always trivial id
    · exact .silent _
  case h_5 | h_6 => exact .silent _

theorem sound_feed {proc : Procedure} (exposes : proc.Exposes session) (msg : ParsedMessage) :
    Sound (proc.feed msg (some session)) := by
  cases proc with
  | locationUpdate own => exact sound_locationUpdate exposes msg
  | authentication own => exact sound_authentication exposes msg
  | cipheringMode own => exact sound_cipheringMode own msg
  | callSetupMO own => exact sound_callSetupMO exposes msg
  | callSetupMT own => exact sound_callSetupMT exposes msg
  | channelAssignment own => exact sound_channelAssignment own msg
  | handover own => exact sound_handover exposes msg
  | paging own => exact sound_paging exposes msg
  | imsiDetach own => exact sound_imsiDetach own msg
  | callRelease own => exact sound_callRelease own msg

/-! ## Data from outside -/

/-- A procedure leaves data alone that is not for it, or not for its state. -/
theorem sound_external {proc : Procedure} (exposes : proc.Exposes session) (data : ExternalData) :
    Sound (proc.feedExternalTyped data (some session)) := by
  have stays := Sound.silent exposes
  cases proc with
  | callSetupMO | channelAssignment | imsiDetach | callRelease => exact stays
  | locationUpdate own =>
      change Sound ((own.feedExternalTyped data (some session)).map .locationUpdate)
      unfold LocationUpdate.feedExternalTyped
      split
      case h_1 =>
        dsimp only
        split
        · exact ⟨_, rfl, fun _ => rfl, .always rfl id⟩
        · exact ⟨_, rfl, fun _ => rfl, .silent _⟩
      case h_2 =>
        split
        · dsimp only
          split
          · exact ⟨_, rfl, exposes, .always trivial id⟩
          · exact ⟨_, rfl, exposes, .always trivial id⟩
        · exact stays
      case h_3 => exact stays
  | authentication own =>
      change Sound ((own.feedExternalTyped data (some session)).map .authentication)
      unfold Authentication.feedExternalTyped
      split
      case h_1 =>
        dsimp only
        split
        · exact ⟨_, rfl, fun _ => rfl, .always rfl id⟩
        · exact ⟨_, rfl, fun _ => rfl, .silent _⟩
      case h_2 => exact stays
  | cipheringMode own =>
      change Sound ((own.feedExternalTyped data (some session)).map .cipheringMode)
      unfold CipheringMode.feedExternalTyped
      split
      case h_1 =>
        split
        · exact ⟨_, rfl, trivial, .always trivial id⟩
        · exact stays
      case h_2 => exact stays
  | callSetupMT own =>
      obtain ⟨channel, -, number⟩ := exposes
      change Sound ((own.feedExternalTyped data (some session)).map .callSetupMT)
      unfold CallSetupMT.feedExternalTyped
      split
      · exact ⟨_, rfl, ⟨channel, fun _ => rfl, number⟩, .always rfl id⟩
      · exact stays
  | handover own =>
      change Sound ((own.feedExternalTyped data (some session)).map .handover)
      unfold Handover.feedExternalTyped
      split
      case h_1 =>
        split
        · exact ⟨_, rfl, fun _ => rfl, .always rfl id⟩
        · exact stays
      case h_2 => exact stays
  | paging own =>
      change Sound ((own.feedExternalTyped data (some session)).map .paging)
      unfold Paging.feedExternalTyped
      split
      case h_1 =>
        split
        · exact ⟨_, rfl, fun _ => rfl, .always rfl id⟩
        · exact stays
      case h_2 => exact stays

/-! ## Time -/

/-- A tick signals nothing, and leaves the state or comes to one that needs no more of the
session. -/
theorem tick_quiet {proc : Procedure} (exposes : proc.Exposes session) (delta : Int) :
    (proc.tick delta).1.Exposes session ∧ (proc.tick delta).2.responseToken = .none := by
  cases proc with
  | locationUpdate own => exact ⟨exposes, doTick_responseToken ..⟩
  | authentication own =>
      refine ⟨fun sends => ?_, doTick_responseToken ..⟩
      rcases doTick_state own.base Authentication.type delta with same | failed
      · exact exposes (same.symm.trans sends)
      · cases failed.symm.trans sends
  | cipheringMode | channelAssignment | imsiDetach | callRelease =>
      exact ⟨trivial, doTick_responseToken ..⟩
  | callSetupMO own => exact ⟨exposes, doTick_responseToken ..⟩
  | callSetupMT own =>
      obtain ⟨channel, identity, number⟩ := exposes
      change Exposes (.callSetupMT (own.tick delta).1) session ∧
        (own.tick delta).2.responseToken = .none
      rw [CallSetupMT.tick]
      split
      · exact ⟨⟨channel, identity, number⟩, rfl⟩
      · dsimp only
        split
        · split
          · exact ⟨⟨channel, identity, number⟩, rfl⟩
          · exact ⟨⟨channel, nofun, number⟩, rfl⟩
        · exact ⟨⟨channel, identity, number⟩, rfl⟩
  | handover own =>
      refine ⟨fun sends => ?_, doTick_responseToken ..⟩
      rcases doTick_state own.base Handover.type delta with same | failed
      · exact exposes (same.symm.trans sends)
      · cases failed.symm.trans sends
  | paging own =>
      have known {state : PagingState} (reached : own.base.currentState = state)
          (other : state ≠ .init) : session.response.hasIdentity = true :=
        exposes (reached ▸ other)
      change Exposes (.paging (own.tick delta).1) session ∧
        (own.tick delta).2.responseToken = .none
      rw [Paging.tick]
      split
      · exact ⟨exposes, rfl⟩
      · dsimp only
        split
        · split
          case h_1 state | h_2 state | h_3 state => exact ⟨fun _ => known state nofun, rfl⟩
          case h_4 => split <;> exact ⟨exposes, rfl⟩
        · exact ⟨exposes, rfl⟩

end Procedure

/-! ## Runs -/

namespace Served

variable {state : Served Procedure}

/-- A step goes on with what the procedure relies on, and signals what fits. -/
theorem serve_sound (exposes : state.proc.Exposes state.session) (stimulus : Stimulus) :
    (state.serve stimulus).1.proc.Exposes (state.serve stimulus).1.session ∧
      (state.serve stimulus).1.proc.Fits (state.serve stimulus).1.session
        (state.serve stimulus).2 := by
  have sound {fed : Fed Procedure} (sound : Procedure.Sound fed) :
      fed.proc.Exposes (fed.session.getD state.session) ∧
        fed.proc.Fits (fed.session.getD state.session) fed.result.responseToken := by
    obtain ⟨session, found, exposes, fits⟩ := sound
    rw [found]
    exact ⟨exposes, fits⟩
  cases stimulus with
  | message msg => exact sound (Procedure.sound_feed exposes msg)
  | external data => exact sound (Procedure.sound_external exposes data)
  | tick delta =>
      obtain ⟨exposes, silent⟩ := Procedure.tick_quiet exposes delta
      exact ⟨exposes, .inl silent⟩

theorem exposes_of_run {proc : Procedure} (created : Procedure.Created proc)
    {session : SessionCore} (cleared : session.response = {})
    {events : List (Stimulus × Signal)}
    (run : (machine Procedure).Run (fun _ _ _ => True) ⟨proc, session⟩ events state) :
    state.proc.Exposes state.session := by
  apply run.invariant (fun _ state => state.proc.Exposes state.session)
  · exact Procedure.Exposes.created created session cleared
  · intro past source target event exposes stepped _
    have call := Option.some.inj (Machine.ofCalls_step.mp stepped)
    have target_eq : (source.serve event.1).1 = target := (Prod.mk.inj call).1
    rw [← target_eq]
    exact (serve_sound exposes event.1).1

end Served

variable {M : Type} (rest : Gsml3.L3Header → FieldParser M)

/-- In every run of a procedure from a session without parameters, the response that a step
signals is built from the session, and the other side reads it with these parameters.  It is not
built just if it is an assignment of a call setup that needs a channel, a second or third page of
an identity that is no TMSI, or the Setup of a call to no number. -/
theorem signalled_answers {proc : Procedure} (created : Procedure.Created proc)
    {session : SessionCore} (cleared : session.response = {})
    {events : List (Stimulus × Signal)} {state : Served Procedure}
    (run : (Served.machine Procedure).Run (fun _ _ _ => True) ⟨proc, session⟩ events state)
    (stimulus : Stimulus) (signals : (state.serve stimulus).2 ≠ .none) :
    let next := (state.serve stimulus).1
    let token := (state.serve stimulus).2
    (next.proc.Lacks next.session token →
      ∀ out, buildResponseFromToken token out (some next.session) = (out, -1)) ∧
    (¬ next.proc.Lacks next.session token → Valid next.session →
      Answers rest next.session token fun out =>
        buildResponseFromToken token out (some next.session)) := by
  intro next token
  have exposes := Served.exposes_of_run created cleared run
  have fits := (Served.serve_sound exposes stimulus).2.resolve_left signals
  constructor
  · intro lacks
    exact missing fun provided => fits.mp provided lacks
  · intro has valid
    exact answers_provided rest valid signals (fits.mpr has)

/-- An authentication that is given a challenge sends its RAND. -/
theorem signalled_answers_challenge :
    let rest (_ : Gsml3.L3Header) : FieldParser Unit := pure ()
    let chal : AuthChallenge := { rand := .replicate 16 7, expectedSres := .replicate 4 1 }
    let state : Served Procedure := ⟨ProcedureFactory.createAuthentication, {}⟩
    let next := (state.serve (.external (.authChallenge chal))).1
    Answers rest next.session .authenticationRequest fun out =>
      buildResponseFromToken .authenticationRequest out (some next.session) := by
  intro rest chal state next
  have valid : Valid next.session :=
    { channel := nofun
      hoChannel := nofun
      cipherAlgo := nofun
      identity := nofun
      lai := nofun
      ti := Nat.two_pow_pos 3
      ccCause := by decide
      calledNumber := nofun }
  have signals : (state.serve (.external (.authChallenge chal))).2 ≠ .none := by decide
  exact (signalled_answers rest .authentication rfl .origin (.external (.authChallenge chal))
    signals).2 id valid

end Stack

end Gsml3
