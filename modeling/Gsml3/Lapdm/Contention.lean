import Gsml3.Lapdm.Link

/-!
# Contention for a channel

Several mobiles connect to one base station on the same channel.  What a mobile
transmits reaches the base station only, and what the base station transmits is
broadcast to all mobiles; the channel may delay, reorder and lose frames.
-/

namespace Gsml3

namespace Lapdm

open Foundation

namespace LAPDmEntity

/-- The information of an unnumbered frame with P/F set that the entity reads. -/
def reads (e : LAPDmEntity) (type : LAPDmUFrameType) (frameBytes : List UInt8) :
    Option (List UInt8) :=
  match LAPDmFrame.decode frameBytes with
  | .error _ => none
  | .ok frame =>
      if frame.address.sapi = e.sapi ∧ frame.format = .uFormat ∧ frame.uType = type ∧
          frame.pf = true then some frame.info
      else none

/-- A base station behind its first SABME answers a SABME with a UA. -/
def Answers (e : LAPDmEntity) (info : List UInt8) : Prop :=
  e.state = .linkEstablished ∨
    e.state = .contentionResolution ∧ info ≠ [] ∧ computeChecksum info = e.contentionChecksum

instance (e : LAPDmEntity) (info : List UInt8) : Decidable (e.Answers info) :=
  inferInstanceAs (Decidable (_ ∨ _))

end LAPDmEntity

/-- A base station, the mobiles and the frames in flight.  `accepted` is the
information of the SABME command that the base station accepted. -/
structure Contention (Mobile : Type) where
  bts : LAPDmEntity
  mobile : Mobile → LAPDmEntity
  uplink : List (List UInt8) := []
  downlink : Mobile → List (List UInt8) := fun _ => []
  accepted : Option (List UInt8) := none

namespace Contention

variable {Mobile : Type}

/-- All parties have opened their access point. -/
def start (sapi : SAPI) (profile : LAPDmChannelProfile)
    (profiles : Mobile → LAPDmChannelProfile) : Contention Mobile where
  bts := LAPDmEntity.openEntity { profile := profile } sapi true
  mobile := fun i => LAPDmEntity.openEntity { profile := profiles i } sapi false

/-- A call at the base station; what it transmits is broadcast. -/
def callBts (c : Contention Mobile) (request : LAPDmEntity.Call) : Contention Mobile :=
  let called := c.bts.call request
  { c with
    bts := { called with outputs := [] }
    downlink := fun i => c.downlink i ++ transmitted called.outputs }

section Actions

variable [DecidableEq Mobile]

/-- A call at a mobile. -/
def callMobile (c : Contention Mobile) (i : Mobile) (request : LAPDmEntity.Call) :
    Contention Mobile :=
  let called := (c.mobile i).call request
  { c with
    mobile := Function.update c.mobile i { called with outputs := [] }
    uplink := c.uplink ++ transmitted called.outputs }

theorem callMobile_self (c : Contention Mobile) (i : Mobile) (request : LAPDmEntity.Call) :
    (c.callMobile i request).mobile i = { (c.mobile i).call request with outputs := [] } :=
  Function.update_self ..

theorem callMobile_of_ne {c : Contention Mobile} {i j : Mobile} (apart : j ≠ i)
    (request : LAPDmEntity.Call) : (c.callMobile i request).mobile j = c.mobile j :=
  Function.update_of_ne apart ..

/-- A frame on the way to a mobile is gone. -/
def dropDownlink (c : Contention Mobile) (i : Mobile) (position : Nat) : Contention Mobile :=
  { c with downlink := Function.update c.downlink i ((c.downlink i).eraseIdx position) }

end Actions

inductive Action (Mobile : Type) where
  /-- A mobile asks for the link. -/
  | sendSABME (i : Mobile)
  /-- A frame reaches the base station. -/
  | receiveBts (position : Nat)
  /-- A frame reaches a mobile. -/
  | receiveMobile (i : Mobile) (position : Nat)
  | loseUplink (position : Nat)
  | loseDownlink (i : Mobile) (position : Nat)
  /-- Time passes for T200 of the base station. -/
  | tickBts (elapsed : Int)
  /-- Time passes for T200 of a mobile. -/
  | tickMobile (i : Mobile) (elapsed : Int)

section Steps

variable [DecidableEq Mobile]

/-- The information that the base station accepted, after it received a frame. -/
def acceptedAfter (e : LAPDmEntity) (accepted : Option (List UInt8)) (frameBytes : List UInt8) :
    Option (List UInt8) :=
  if e.state = .linkReleased then (e.reads .sabme frameBytes).or accepted else accepted

/-- One action; mobile `i` sends `infos i` in its SABME commands. -/
def step (infos : Mobile → List UInt8) (c : Contention Mobile) :
    Action Mobile → Option (Contention Mobile)
  | .sendSABME i => some (c.callMobile i (.sendSABME (infos i)))
  | .receiveBts position =>
      c.uplink[position]?.map fun frameBytes =>
        { { c with uplink := c.uplink.eraseIdx position }.callBts (.receiveFrame frameBytes) with
          accepted := acceptedAfter c.bts c.accepted frameBytes }
  | .receiveMobile i position =>
      (c.downlink i)[position]?.map fun frameBytes =>
        (c.dropDownlink i position).callMobile i (.receiveFrame frameBytes)
  | .loseUplink position =>
      if position < c.uplink.length then some { c with uplink := c.uplink.eraseIdx position }
      else none
  | .loseDownlink i position =>
      if position < (c.downlink i).length then some (c.dropDownlink i position) else none
  | .tickBts elapsed => some (c.callBts (.tickT200 elapsed))
  | .tickMobile i elapsed => some (c.callMobile i (.tickT200 elapsed))

def machine (infos : Mobile → List UInt8) : Machine (Contention Mobile) (Action Mobile) where
  step := step infos

/-- A mobile that awaits its link gets no UA but one that echoes its own information,
and the base station answers no SABME but those with the information it accepted. -/
def Echoes (infos : Mobile → List UInt8) (c : Contention Mobile) : Action Mobile → Prop
  | .receiveMobile i position =>
      ∀ frameBytes ∈ (c.downlink i)[position]?, (c.mobile i).state = .awaitingEstablish →
        ∀ info ∈ (c.mobile i).reads .ua frameBytes, info = infos i
  | .receiveBts position =>
      ∀ frameBytes ∈ c.uplink[position]?, ∀ info ∈ c.bts.reads .sabme frameBytes,
        c.bts.Answers info → ∀ first ∈ c.accepted, info = first
  | _ => True

instance (infos : Mobile → List UInt8) (c : Contention Mobile) :
    (action : Action Mobile) → Decidable (c.Echoes infos action)
  | .receiveMobile i position =>
      inferInstanceAs (Decidable (∀ frameBytes ∈ (c.downlink i)[position]?, _ →
        ∀ info ∈ (c.mobile i).reads .ua frameBytes, info = infos i))
  | .receiveBts position =>
      inferInstanceAs (Decidable (∀ frameBytes ∈ c.uplink[position]?,
        ∀ info ∈ c.bts.reads .sabme frameBytes, _ → ∀ first ∈ c.accepted, info = first))
  | .sendSABME _ => .isTrue trivial
  | .loseUplink _ => .isTrue trivial
  | .loseDownlink .. => .isTrue trivial
  | .tickBts _ => .isTrue trivial
  | .tickMobile .. => .isTrue trivial

end Steps

/-! ## Frames -/

/-- An info field that does not fit the length bits makes a frame unreadable. -/
theorem decode_long {address ctrl : UInt8} {info : List UInt8} (long : 63 < info.length)
    {frame : LAPDmFrame} : LAPDmFrame.decode (address :: ctrl ::
      (LAPDmLengthField.ofSize false info.length).encode :: info) ≠ .ok frame := by
  have header : LAPDmLengthField.decode (LAPDmLengthField.ofSize false info.length).encode =
      LAPDmLengthField.ofSize false info.length :=
    LAPDmLengthField.decode_encode false _
  have cut : (LAPDmLengthField.ofSize false info.length).length.val < info.length := by
    have bound := (LAPDmLengthField.ofSize false info.length).length.isLt
    omega
  rw [LAPDmFrame.decode]
  split
  · simp
  · split
    · simp
    · split
      · simp
      · simp only [header, if_neg (not_lt.mpr cut.le), if_pos cut]
        simp

theorem uFrameControlByte_format (type : LAPDmUFrameType) (pf : Bool) :
    uFrameControlByte type pf &&& 0x03 = 0x03 ∧
      matchUControl (uFrameControlByte type pf) = some (type, pf) := by
  cases type <;> cases pf <;> decide

/-- What a peer reads from an unnumbered frame. -/
theorem eq_of_decode_encode {sapi : SAPI} {command pf : Bool} {type : LAPDmUFrameType}
    {info : List UInt8} {frame : LAPDmFrame}
    (decoded : LAPDmFrame.decode (encodeFrame
      { address := ⟨sapi, command, true⟩, format := .uFormat, uType := type, pf := pf,
        info := info }) = .ok frame) :
    frame =
      { address := ⟨SAPI.onWire sapi, command, true⟩, format := .uFormat, uType := type, pf := pf,
        info := info } := by
  obtain ⟨control, matched⟩ := uFrameControlByte_format type pf
  simp only [encodeFrame, encodeControl, reduceCtorEq, if_false] at decoded
  by_cases short : info.length ≤ 63
  · rw [decode_header_octets short, decodeControl, if_neg (by simp [control]),
      if_neg (by simp [control]), matched] at decoded
    simp only at decoded
    split at decoded
    · cases decoded
    · exact (Except.ok.inj decoded).symm
  · exact absurd decoded (decode_long (not_le.mp short))

/-! ## Parties -/

/-- A mobile in its establishment; its link is established only with the information
that the base station accepted. -/
structure Connecting (sapi : SAPI) (info : List UInt8) (accepted : Option (List UInt8))
    (e : LAPDmEntity) : Prop where
  sapi : e.sapi = sapi
  commandBit : e.commandBit = false
  outputs : e.outputs = []
  phase : (e.state = .linkReleased ∧ e.pending = .none) ∨
    (e.state = .awaitingEstablish ∧ e.pending = .sabme ∧ e.pendingInfo = info) ∨
    (e.state = .linkEstablished ∧ e.pending = .none ∧ accepted = some info)

/-- The base station before or behind the SABME that it accepted. -/
structure Serving (sapi : SAPI) (accepted : Option (List UInt8)) (e : LAPDmEntity) : Prop where
  sapi : e.sapi = sapi
  outputs : e.outputs = []
  stopped : e.t200Active = false
  phase : (e.state = .linkReleased ∧ accepted = none) ∨
    ∃ first, accepted = some first ∧ e.establishmentInProgress = true ∧
      (e.state = .linkEstablished ∨
        e.state = .contentionResolution ∧ e.contentionChecksum = LAPDmEntity.computeChecksum first)

section Mobile

variable {sapi : SAPI} {info : List UInt8} {accepted : Option (List UInt8)} {e : LAPDmEntity}

/-- A call that leaves the mobile in its establishment and transmits only its SABME. -/
def Connects (sapi : SAPI) (info : List UInt8) (accepted : Option (List UInt8))
    (called : LAPDmEntity) : Prop :=
  Connecting sapi info accepted { called with outputs := [] } ∧
    ∀ frameBytes ∈ transmitted called.outputs,
      frameBytes = encodeFrame (makeSABMEFrame sapi false info)

/-- A call that only reports to layer 3. -/
theorem Connecting.silent (connecting : Connecting sapi info accepted e) {called : LAPDmEntity}
    (own : called.sapi = e.sapi ∧ called.commandBit = e.commandBit)
    (silent : transmitted called.outputs = [])
    (phase : (called.state = .linkReleased ∧ called.pending = .none) ∨
      (called.state = e.state ∧ called.pending = e.pending ∧ called.pendingInfo = e.pendingInfo)) :
    Connects sapi info accepted called := by
  refine ⟨⟨own.1.trans connecting.sapi, own.2.trans connecting.commandBit, rfl, ?_⟩,
    fun frameBytes member => ?_⟩
  · rcases phase with released | ⟨state, pending, pendingInfo⟩
    · exact .inl released
    · rw [state, pending, pendingInfo]
      exact connecting.phase
  · rw [silent] at member
    cases member

theorem Connecting.sendSABME (connecting : Connecting sapi info accepted e) :
    Connects sapi info accepted (e.call (.sendSABME info)) := by
  have none : transmitted e.outputs = [] := by rw [connecting.outputs, transmitted_nil]
  rw [LAPDmEntity.call, LAPDmEntity.sendSABME]
  split
  case isTrue =>
    refine connecting.silent ⟨rfl, rfl⟩ ?_ (.inr ⟨rfl, rfl, rfl⟩)
    rw [LAPDmEntity.deliverL3, transmitted_append, none, transmitted_deliver, List.append_nil]
  case isFalse =>
    split
    case isTrue => exact connecting.silent ⟨rfl, rfl⟩ none (.inr ⟨rfl, rfl, rfl⟩)
    case isFalse =>
      refine ⟨⟨connecting.sapi, connecting.commandBit, rfl, .inr (.inl ⟨rfl, rfl, rfl⟩)⟩,
        fun frameBytes member => ?_⟩
      change frameBytes ∈ transmitted (e.outputs ++
        [.transmit (encodeFrame (makeSABMEFrame e.sapi e.commandBit info))]) at member
      rw [connecting.outputs, connecting.sapi, connecting.commandBit] at member
      exact List.mem_singleton.mp member

theorem Connecting.tickT200 (connecting : Connecting sapi info accepted e) (elapsed : Int) :
    Connects sapi info accepted (e.call (.tickT200 elapsed)) := by
  have none : transmitted e.outputs = [] := by rw [connecting.outputs, transmitted_nil]
  rw [LAPDmEntity.call, LAPDmEntity.tickT200]
  split
  case isTrue => exact connecting.silent ⟨rfl, rfl⟩ none (.inr ⟨rfl, rfl, rfl⟩)
  case isFalse =>
    split
    case isTrue => exact connecting.silent ⟨rfl, rfl⟩ none (.inr ⟨rfl, rfl, rfl⟩)
    case isFalse =>
      simp only
      split
      case isTrue =>
        rcases connecting.phase with ⟨state, pending⟩ | ⟨state, pending, stored⟩ |
          ⟨state, pending, own⟩
        · simp only [LAPDmEntity.retransmitPending, pending]
          exact connecting.silent ⟨rfl, rfl⟩ none (.inl ⟨state, rfl⟩)
        · simp only [LAPDmEntity.retransmitPending, pending]
          refine ⟨⟨connecting.sapi, connecting.commandBit, rfl, .inr (.inl ⟨state, rfl, stored⟩)⟩,
            fun frameBytes member => ?_⟩
          change frameBytes ∈ transmitted (e.outputs ++
            [.transmit (encodeFrame (makeSABMEFrame e.sapi e.commandBit e.pendingInfo))]) at member
          rw [connecting.outputs, connecting.sapi, connecting.commandBit, stored] at member
          exact List.mem_singleton.mp member
        · simp only [LAPDmEntity.retransmitPending, pending]
          exact connecting.silent ⟨rfl, rfl⟩ none (.inr ⟨rfl, pending.symm, rfl⟩)
      case isFalse =>
        refine connecting.silent ⟨rfl, rfl⟩ ?_ (.inl ⟨rfl, rfl⟩)
        change transmitted (e.outputs ++ [_]) = []
        rw [transmitted_append, none, transmitted_deliver, List.append_nil]

/-- A mobile receives the UA of the base station. -/
theorem Connecting.receiveFrame (connecting : Connecting sapi info accepted e)
    {first : List UInt8} (accepts : accepted = some first)
    (echoes : e.state = .awaitingEstablish →
      ∀ echoed ∈ e.reads .ua (encodeFrame (makeUAFrame sapi true first)), echoed = info) :
    Connects sapi info accepted
      (e.call (.receiveFrame (encodeFrame (makeUAFrame sapi true first)))) := by
  have none : transmitted e.outputs = [] := by rw [connecting.outputs, transmitted_nil]
  rw [LAPDmEntity.reads] at echoes
  rw [LAPDmEntity.call, LAPDmEntity.receiveFrame]
  cases decoded : LAPDmFrame.decode (encodeFrame (makeUAFrame sapi true first)) with
  | error _ => exact connecting.silent ⟨rfl, rfl⟩ none (.inr ⟨rfl, rfl, rfl⟩)
  | ok frame =>
      obtain rfl := eq_of_decode_encode decoded
      rw [decoded] at echoes
      simp only at echoes ⊢
      split
      case isTrue => exact connecting.silent ⟨rfl, rfl⟩ none (.inr ⟨rfl, rfl, rfl⟩)
      case isFalse own =>
        rw [not_not] at own
        simp only [LAPDmEntity.receiveUFrame, LAPDmEntity.handleUA, Bool.true_eq_false, if_false]
        rcases connecting.phase with ⟨state, pending⟩ | ⟨state, pending, stored⟩ |
          ⟨state, pending, established⟩
        · simp only [state]
          exact connecting.silent ⟨rfl, rfl⟩ none (.inr ⟨state.symm, rfl, rfl⟩)
        · simp only [state]
          have echoed := echoes state first (if_pos ⟨own, trivial, trivial, trivial⟩)
          refine ⟨⟨connecting.sapi, connecting.commandBit, rfl,
            .inr (.inr ⟨rfl, rfl, accepts.trans (congrArg some echoed)⟩)⟩, fun frameBytes member => ?_⟩
          change frameBytes ∈ transmitted (e.outputs ++ [_]) at member
          rw [transmitted_append, none, transmitted_deliver] at member
          cases member
        · simp only [state]
          exact connecting.silent ⟨rfl, rfl⟩ none (.inr ⟨state.symm, rfl, rfl⟩)

end Mobile

section Station

variable {sapi : SAPI} {info : List UInt8} {accepted : Option (List UInt8)} {e : LAPDmEntity}

/-- A call at the base station after which it serves `accepted`, and which transmits
only the UA for it. -/
def Serves (sapi : SAPI) (accepted : Option (List UInt8)) (called : LAPDmEntity) : Prop :=
  Serving sapi accepted { called with outputs := [] } ∧
    ∀ frameBytes ∈ transmitted called.outputs, ∃ first, accepted = some first ∧
      frameBytes = encodeFrame (makeUAFrame sapi true first)

theorem Serving.tickT200 (serving : Serving sapi accepted e) (elapsed : Int) :
    Serves sapi accepted (e.call (.tickT200 elapsed)) := by
  have idle : (e.tickT200 elapsed).1 = e := by rw [LAPDmEntity.tickT200, if_pos serving.stopped]
  rw [LAPDmEntity.call, idle]
  refine ⟨⟨serving.sapi, rfl, serving.stopped, serving.phase⟩, fun frameBytes member => ?_⟩
  rw [serving.outputs] at member
  cases member

/-- The base station receives the SABME of a mobile. -/
theorem Serving.receiveFrame (serving : Serving sapi accepted e)
    (resolves : ∀ read ∈ e.reads .sabme (encodeFrame (makeSABMEFrame sapi false info)),
      e.Answers read → ∀ first ∈ accepted, read = first) :
    Serves sapi (acceptedAfter e accepted (encodeFrame (makeSABMEFrame sapi false info)))
      (e.call (.receiveFrame (encodeFrame (makeSABMEFrame sapi false info)))) := by
  have none : transmitted e.outputs = [] := by rw [serving.outputs, transmitted_nil]
  -- a frame that is not read changes nothing
  have unread : ∀ called : LAPDmEntity,
      e.reads .sabme (encodeFrame (makeSABMEFrame sapi false info)) = .none →
      called = { e with framesReceived := called.framesReceived } →
      Serves sapi (acceptedAfter e accepted (encodeFrame (makeSABMEFrame sapi false info)))
        called := by
    intro called missed same
    have kept : acceptedAfter e accepted (encodeFrame (makeSABMEFrame sapi false info)) =
        accepted := by
      rw [acceptedAfter, missed, Option.none_or, ite_self]
    rw [kept, same]
    refine ⟨⟨serving.sapi, rfl, serving.stopped, serving.phase⟩, fun frameBytes member => ?_⟩
    rw [none] at member
    cases member
  cases decoded : LAPDmFrame.decode (encodeFrame (makeSABMEFrame sapi false info)) with
  | error _ =>
      refine unread _ ?_ ?_
      · rw [LAPDmEntity.reads, decoded]
      · rw [LAPDmEntity.call, LAPDmEntity.receiveFrame, decoded]
  | ok frame =>
      obtain rfl := eq_of_decode_encode decoded
      by_cases own : SAPI.onWire sapi = e.sapi
      · have read : e.reads .sabme (encodeFrame (makeSABMEFrame sapi false info)) = some info := by
          rw [LAPDmEntity.reads, decoded]
          exact if_pos ⟨own, rfl, rfl, rfl⟩
        rw [read] at resolves
        have handled : e.call (.receiveFrame (encodeFrame (makeSABMEFrame sapi false info))) =
            { e with framesReceived := e.framesReceived + 1 }.handleSABME
              { address := ⟨SAPI.onWire sapi, false, true⟩, format := .uFormat, uType := .sabme,
                pf := true, info := info } := by
          rw [LAPDmEntity.call, LAPDmEntity.receiveFrame, decoded]
          exact if_neg (not_not.mpr own)
        rw [handled, acceptedAfter, read]
        have answered : ∀ called : LAPDmEntity, ∀ first, called.sapi = e.sapi →
            called.t200Active = false → called.establishmentInProgress = true →
            (called.state = .linkEstablished ∨ called.state = .contentionResolution ∧
              called.contentionChecksum = LAPDmEntity.computeChecksum first) →
            transmitted called.outputs = [encodeFrame (makeUAFrame e.sapi true first)] →
            Serves sapi (some first) called := by
          intro called first own_sapi stopped progress phase outputs
          refine ⟨⟨own_sapi.trans serving.sapi, rfl, stopped, .inr ⟨first, rfl, progress, phase⟩⟩,
            fun frameBytes member => ⟨first, rfl, ?_⟩⟩
          rw [outputs, serving.sapi] at member
          exact List.mem_singleton.mp member
        rcases serving.phase with ⟨state, fresh⟩ | ⟨first, accepts, progress, state | ⟨state, sum⟩⟩
        · rw [if_pos state]
          change Serves sapi (some info) _
          simp only [LAPDmEntity.handleSABME, state, Bool.true_eq_false, if_false]
          have announced : transmitted (e.outputs ++
              [.deliver e.sapi .L3_ESTABLISH_INDICATION info] ++
              [.transmit (encodeFrame (makeUAFrame e.sapi true info))]) =
                [encodeFrame (makeUAFrame e.sapi true info)] := by
            rw [transmitted_append, transmitted_append, none, transmitted_deliver]
            rfl
          split
          case isTrue =>
            refine answered _ info rfl rfl rfl ?_ announced
            split
            · exact .inr ⟨rfl, rfl⟩
            · exact .inl rfl
          case isFalse empty =>
            rw [not_not] at empty
            refine answered _ info rfl rfl rfl (.inl rfl) ?_
            rw [empty] at announced ⊢
            exact announced
        · rw [if_neg (by rw [state]; simp)]
          obtain rfl := resolves info rfl (.inl state) first accepts
          simp only [LAPDmEntity.handleSABME, state, Bool.true_eq_false, if_false, progress, if_true]
          have replied : transmitted (e.outputs ++
              [.transmit (encodeFrame (makeUAFrame e.sapi true info))]) =
                [encodeFrame (makeUAFrame e.sapi true info)] := by
            rw [transmitted_append, none]
            rfl
          rw [accepts]
          split
          case isTrue => exact answered _ info rfl serving.stopped rfl (.inl rfl) replied
          case isFalse empty =>
            rw [not_not] at empty
            refine answered _ info rfl serving.stopped rfl (.inl rfl) ?_
            rw [empty] at replied ⊢
            exact replied
        · rw [if_neg (by rw [state]; simp)]
          simp only [LAPDmEntity.handleSABME, state, Bool.true_eq_false, if_false]
          split
          case isTrue answers =>
            obtain rfl := resolves info rfl (.inr ⟨state, answers⟩) first accepts
            rw [accepts]
            refine answered _ info rfl serving.stopped progress (.inl rfl) ?_
            change transmitted (e.outputs ++ [.transmit (encodeFrame (makeUAFrame e.sapi true info))]) =
              [encodeFrame (makeUAFrame e.sapi true info)]
            rw [transmitted_append, none]
            rfl
          case isFalse =>
            refine ⟨⟨serving.sapi, rfl, serving.stopped, .inr ⟨first, accepts, progress,
              .inr ⟨rfl, sum⟩⟩⟩, fun frameBytes member => ?_⟩
            rw [none] at member
            cases member
      · refine unread _ ?_ ?_
        · rw [LAPDmEntity.reads, decoded]
          exact if_neg fun all => own all.1
        · rw [LAPDmEntity.call, LAPDmEntity.receiveFrame, decoded]
          simp only
          rw [if_pos own]

end Station

/-! ## Runs -/

section Runs

variable {infos : Mobile → List UInt8} {sapi : SAPI} {c : Contention Mobile}

/-- The frames in flight are the SABME commands of the mobiles and the UA for the one
that the base station accepted. -/
structure Resolved (infos : Mobile → List UInt8) (sapi : SAPI) (c : Contention Mobile) : Prop where
  serving : Serving sapi c.accepted c.bts
  connecting : ∀ i, Connecting sapi (infos i) c.accepted (c.mobile i)
  uplink : ∀ frameBytes ∈ c.uplink,
    ∃ i, frameBytes = encodeFrame (makeSABMEFrame sapi false (infos i))
  downlink : ∀ i, ∀ frameBytes ∈ c.downlink i, ∃ first, c.accepted = some first ∧
    frameBytes = encodeFrame (makeUAFrame sapi true first)

theorem resolved_start (infos : Mobile → List UInt8) (sapi : SAPI) (profile : LAPDmChannelProfile)
    (profiles : Mobile → LAPDmChannelProfile) : Resolved infos sapi (start sapi profile profiles) where
  serving := ⟨rfl, rfl, rfl, .inl ⟨rfl, rfl⟩⟩
  connecting := fun _ => ⟨rfl, rfl, rfl, .inl ⟨rfl, rfl⟩⟩
  uplink := fun _ member => absurd member List.not_mem_nil
  downlink := fun _ _ member => absurd member List.not_mem_nil

/-- Frames may get lost. -/
theorem Resolved.dropUplink (resolved : Resolved infos sapi c) (position : Nat) :
    Resolved infos sapi { c with uplink := c.uplink.eraseIdx position } :=
  ⟨resolved.serving, resolved.connecting,
    fun frameBytes member => resolved.uplink frameBytes ((List.eraseIdx_sublist ..).subset member),
    resolved.downlink⟩

theorem Resolved.callBts (resolved : Resolved infos sapi c) {request : LAPDmEntity.Call}
    {accepted : Option (List UInt8)} (serves : Serves sapi accepted (c.bts.call request))
    (kept : ∀ first, c.accepted = some first → accepted = some first) :
    Resolved infos sapi { c.callBts request with accepted := accepted } := by
  refine ⟨serves.1, fun i => ?_, resolved.uplink, fun i frameBytes member => ?_⟩
  · obtain ⟨own, command, outputs, phase⟩ := resolved.connecting i
    refine ⟨own, command, outputs, phase.imp_right (Or.imp_right fun established => ?_)⟩
    exact ⟨established.1, established.2.1, kept _ established.2.2⟩
  · rcases List.mem_append.mp member with old | new
    · obtain ⟨first, accepts, same⟩ := resolved.downlink i frameBytes old
      exact ⟨first, kept first accepts, same⟩
    · exact serves.2 frameBytes new

variable [DecidableEq Mobile]

theorem Resolved.dropDownlink (resolved : Resolved infos sapi c) (i : Mobile) (position : Nat) :
    Resolved infos sapi (c.dropDownlink i position) := by
  refine ⟨resolved.serving, resolved.connecting, resolved.uplink, fun j frameBytes member => ?_⟩
  change frameBytes ∈ Function.update c.downlink i ((c.downlink i).eraseIdx position) j at member
  by_cases same : j = i
  · subst same
    rw [Function.update_self] at member
    exact resolved.downlink j frameBytes ((List.eraseIdx_sublist ..).subset member)
  · rw [Function.update_of_ne same] at member
    exact resolved.downlink j frameBytes member

theorem Resolved.callMobile (resolved : Resolved infos sapi c) {i : Mobile}
    {request : LAPDmEntity.Call}
    (connects : Connects sapi (infos i) c.accepted ((c.mobile i).call request)) :
    Resolved infos sapi (c.callMobile i request) := by
  refine ⟨resolved.serving, fun j => ?_, fun frameBytes member => ?_, resolved.downlink⟩
  · by_cases same : j = i
    · subst same
      rw [callMobile_self]
      exact connects.1
    · rw [callMobile_of_ne same]
      exact resolved.connecting j
  · rcases List.mem_append.mp member with old | new
    · exact resolved.uplink frameBytes old
    · exact ⟨i, connects.2 frameBytes new⟩

theorem Resolved.step {target : Contention Mobile} {action : Action Mobile}
    (resolved : Resolved infos sapi c) (stepped : c.step infos action = some target)
    (echoes : c.Echoes infos action) : Resolved infos sapi target := by
  cases action with
  | sendSABME i =>
      obtain rfl := Option.some.inj stepped
      exact resolved.callMobile (resolved.connecting i).sendSABME
  | receiveBts position =>
      obtain ⟨frameBytes, present, rfl⟩ := Option.map_eq_some_iff.mp stepped
      obtain ⟨i, rfl⟩ := resolved.uplink frameBytes (List.mem_of_getElem? present)
      have serves := resolved.serving.receiveFrame (echoes _ present)
      refine (resolved.dropUplink position).callBts serves fun first accepts => ?_
      -- before it accepts a SABME the base station has accepted none
      rw [acceptedAfter]
      rcases resolved.serving.phase with ⟨-, fresh⟩ | ⟨other, -, -, phase⟩
      · exact absurd (fresh.symm.trans accepts) nofun
      · rw [if_neg]
        · exact accepts
        · rcases phase with state | ⟨state, -⟩ <;> rw [state] <;> nofun
  | receiveMobile i position =>
      obtain ⟨frameBytes, present, rfl⟩ := Option.map_eq_some_iff.mp stepped
      obtain ⟨first, accepts, rfl⟩ := resolved.downlink i frameBytes (List.mem_of_getElem? present)
      have connects := (resolved.connecting i).receiveFrame accepts (echoes _ present)
      exact (resolved.dropDownlink i position).callMobile connects
  | loseUplink position =>
      rw [Contention.step] at stepped
      split at stepped
      case isTrue =>
        obtain rfl := Option.some.inj stepped
        exact resolved.dropUplink position
      case isFalse => cases stepped
  | loseDownlink i position =>
      rw [Contention.step] at stepped
      split at stepped
      case isTrue =>
        obtain rfl := Option.some.inj stepped
        exact resolved.dropDownlink i position
      case isFalse => cases stepped
  | tickBts elapsed =>
      obtain rfl := Option.some.inj stepped
      exact resolved.callBts (resolved.serving.tickT200 elapsed) fun _ => id
  | tickMobile i elapsed =>
      obtain rfl := Option.some.inj stepped
      exact resolved.callMobile ((resolved.connecting i).tickT200 elapsed)

/-- Two mobiles are never both established, if each takes only a UA for itself and the
base station answers no second mobile. -/
theorem established_unique (distinct : Function.Injective infos) {profile : LAPDmChannelProfile}
    {profiles : Mobile → LAPDmChannelProfile} {events : List (Action Mobile)}
    (run : (machine infos).Run (fun source action _ => source.Echoes infos action)
      (start sapi profile profiles) events c) {i j : Mobile}
    (first : (c.mobile i).state = .linkEstablished)
    (second : (c.mobile j).state = .linkEstablished) : i = j := by
  have resolved : Resolved infos sapi c := run.invariant (fun _ state => Resolved infos sapi state)
    (resolved_start infos sapi profile profiles)
    (fun _ _ _ _ resolved stepped echoes => resolved.step stepped echoes)
  have accepted : ∀ i, (c.mobile i).state = .linkEstablished → c.accepted = some (infos i) := by
    intro i established
    rcases (resolved.connecting i).phase with ⟨state, -⟩ | ⟨state, -⟩ | ⟨-, -, accepts⟩
    · exact absurd (established.symm.trans state) nofun
    · exact absurd (established.symm.trans state) nofun
    · exact accepts
  exact distinct (Option.some.inj ((accepted i first).symm.trans (accepted j second)))

end Runs

/-- Two mobiles and their Paging Responses. -/
private def pagingResponses : Bool → List UInt8
  | false => [0x06, 0x27, 0x01]
  | true => [0x06, 0x27, 0x02]

/-- One mobile takes the UA for its own SABME, and the other does not connect. -/
theorem established_unique_first :
    ∃ c, (machine pagingResponses).exec (fun source action _ => source.Echoes pagingResponses action)
        (start .sapi0 .SDCCH fun _ => .SDCCH)
        [.sendSABME false, .sendSABME true, .receiveBts 0, .receiveMobile false 0] = some c ∧
      (c.mobile false).state = .linkEstablished ∧ (c.mobile true).state ≠ .linkEstablished := by
  obtain ⟨c, executed⟩ := Option.isSome_iff_exists.mp (show ((machine pagingResponses).exec
    (fun source action _ => source.Echoes pagingResponses action)
    (start .sapi0 .SDCCH fun _ => .SDCCH)
    [.sendSABME false, .sendSABME true, .receiveBts 0, .receiveMobile false 0]).isSome by
      decide)
  have established : ∀ c ∈ (machine pagingResponses).exec
      (fun source action _ => source.Echoes pagingResponses action)
      (start .sapi0 .SDCCH fun _ => .SDCCH)
      [.sendSABME false, .sendSABME true, .receiveBts 0, .receiveMobile false 0],
      (c.mobile false).state = .linkEstablished := by
    decide
  have distinct : Function.Injective pagingResponses := by decide
  refine ⟨c, executed, established c executed, fun second => Bool.false_ne_true ?_⟩
  exact established_unique distinct (.exec _ .origin executed) (established c executed) second

/-- Both mobiles ask for the link; the command of one reaches the base station, and both
receive the UA. -/
private def bothAnswered : List (Action Bool) :=
  [.sendSABME false, .sendSABME true, .receiveBts 0, .receiveMobile false 0, .receiveMobile true 0]

/-- Both mobiles take the UA for the first as theirs. -/
theorem both_established :
    pagingResponses false ≠ pagingResponses true ∧
    ∃ c, (machine pagingResponses).Run (fun _ _ _ => True)
        (start .sapi0 .SDCCH fun _ => .SDCCH) bothAnswered c ∧
      (c.mobile false).state = .linkEstablished ∧ (c.mobile true).state = .linkEstablished := by
  obtain ⟨c, executed⟩ := Option.isSome_iff_exists.mp (show ((machine pagingResponses).exec
    (fun _ _ _ => True) (start .sapi0 .SDCCH fun _ => .SDCCH) bothAnswered).isSome by
      decide)
  have states : ∀ c ∈ (machine pagingResponses).exec (fun _ _ _ => True)
      (start .sapi0 .SDCCH fun _ => .SDCCH) bothAnswered,
      (c.mobile false).state = .linkEstablished ∧ (c.mobile true).state = .linkEstablished := by
    decide
  exact ⟨by decide, c, .exec bothAnswered .origin executed, states c executed⟩

end Contention

end Lapdm

end Gsml3
