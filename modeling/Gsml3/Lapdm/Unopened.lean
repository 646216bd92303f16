import Gsml3.Lapdm.FrameOutcomes
import Gsml3.Lapdm.Payloads

/-!
# Entities without a link

Before `open` an entity answers no frame, and a supervisory frame does not close an access
point that is open.  RNR is the one frame whose handler does not look at the state.
-/

namespace Gsml3

namespace Lapdm

namespace LAPDmEntity

/-- The octets are an RNR for the access point of the entity. -/
def ReadsRNR (e : LAPDmEntity) (frameBytes : List UInt8) : Prop :=
  ∃ frame, LAPDmFrame.decode frameBytes = .ok frame ∧ frame.address.sapi = e.sapi ∧
    frame.format = .sFormat ∧ frame.sType = .rnr

/-- An unopened entity transmits nothing and stays as it is. -/
structure Unmoved (e target : LAPDmEntity) : Prop where
  silent : emitted e target = []
  unused : target.state = .unused
  vs : target.vs = e.vs
  va : target.va = e.va
  vr : target.vr = e.vr

/-- What is expected of an entity without a link that receives a frame. -/
structure Quiet (e : LAPDmEntity) (frameBytes : List UInt8) : Prop where
  unopened : e.state = .unused → Unmoved e (e.receiveFrame frameBytes)
  opened : e.state = .linkReleased →
    ∀ frame, LAPDmFrame.decode frameBytes = .ok frame → frame.format = .sFormat →
      (e.receiveFrame frameBytes).state ≠ .unused

section Silence

variable {e target : LAPDmEntity} {frameBytes : List UInt8} {frame : LAPDmFrame}

/-- The statistics and the flag do not matter. -/
theorem Unmoved.of_same (unused : e.state = .unused) (bare : target.bare = e.bare)
    (outputs : target.outputs = e.outputs) : Unmoved e target := by
  refine ⟨?_, ?_, ?_, ?_, ?_⟩
  · rw [emitted, outputs, List.drop_length, transmitted_nil]
  · exact (congrArg LAPDmEntity.state bare :).trans unused
  · exact (congrArg LAPDmEntity.vs bare :)
  · exact (congrArg LAPDmEntity.va bare :)
  · exact (congrArg LAPDmEntity.vr bare :)

/-- Without a link a supervisory frame other than RNR is counted and nothing else. -/
theorem receiveSFrame_of_idle (idle : e.isEstablished = false) (other : frame.sType ≠ .rnr) :
    { e with framesReceived := e.framesReceived + 1 }.receiveSFrame frame =
      { e with
        framesReceived := e.framesReceived + 1
        establishmentInProgress := false } := by
  rw [receiveSFrame]
  cases kind : frame.sType with
  | reserved => rfl
  | rnr => exact absurd kind other
  | rr =>
      exact taken_of_idle idle fun opened =>
        if frame.pf && frame.address.command then (opened.processAck frame.nr).sendRR true
        else opened.processAck frame.nr
  | rej =>
      exact taken_of_idle idle fun opened =>
        if frame.pf then
          if frame.address.command then (opened.processAck frame.nr).abnormalRelease true
          else (opened.processAck frame.nr).sendRR true
        else opened.processAck frame.nr

/-- Without a link an I-frame is counted and nothing else. -/
theorem receiveIFrame_of_idle (idle : e.isEstablished = false) :
    { e with framesReceived := e.framesReceived + 1 }.receiveIFrame frame =
      { e with
        framesReceived := e.framesReceived + 1
        establishmentInProgress := false } :=
  taken_of_idle idle fun opened => (opened.processAck frame.iCtrl.nr).checkSequence frame

/-- An unnumbered frame does not open an entity. -/
theorem unmoved_receiveUFrame (unused : e.state = .unused) :
    Unmoved e ({ e with framesReceived := e.framesReceived + 1 }.receiveUFrame frame) := by
  have counted : Unmoved e { e with framesReceived := e.framesReceived + 1 } :=
    .of_same unused rfl rfl
  rw [receiveUFrame]
  cases frame.uType with
  | sabme =>
      simp only [handleSABME, unused, ite_self]
      exact .of_same unused (by rw [← unused]; rfl) rfl
  | ua =>
      simp only [handleUA, unused, ite_self]
      exact .of_same unused (by rw [← unused]; rfl) rfl
  | dm =>
      simp only [handleDM, unused, ite_self]
      exact .of_same unused (by rw [← unused]; rfl) rfl
  | disc =>
      simp only [handleDISC, unused]
      exact .of_same unused (by rw [← unused]; rfl) rfl
  | ui =>
      refine ⟨?_, unused, rfl, rfl, rfl⟩
      exact (congrArg transmitted (List.drop_left ..)).trans (transmitted_deliver ..)

end Silence

/-- **Entities without a link are quiet** exactly if the frame is no RNR, whose handler releases
the link in any state. -/
theorem quiet_iff (e : LAPDmEntity) (frameBytes : List UInt8) :
    Quiet e frameBytes ↔
      ¬ (e.ReadsRNR frameBytes ∧ (e.state = .unused ∨ e.state = .linkReleased)) := by
  constructor
  · rintro quiet ⟨⟨frame, decoded, own, format, kind⟩, state⟩
    have released : e.receiveFrame frameBytes =
        { e with
          framesReceived := e.framesReceived + 1
          establishmentInProgress := false }.abnormalRelease true := by
      rw [receiveFrame, decoded]
      simp only [own, ne_eq, not_true_eq_false, if_false, format, receiveSFrame, kind]
    rcases state with unused | opened
    · -- the DM is transmitted
      have silent := (quiet.unopened unused).silent
      rw [released] at silent
      have sent : emitted e ({ e with
          framesReceived := e.framesReceived + 1
          establishmentInProgress := false }.abnormalRelease true) =
          [encodeFrame (makeDMFrame e.sapi true)] := by
        have outputs : ({ e with
            framesReceived := e.framesReceived + 1
            establishmentInProgress := false }.abnormalRelease true).outputs = e.outputs ++
            ([.transmit (encodeFrame (makeDMFrame e.sapi true))] ++
              [.deliver e.sapi .MDL_ERROR_INDICATION []]) := List.append_assoc ..
        rw [emitted, outputs, List.drop_left]
        rfl
      rw [sent] at silent
      cases silent
    · apply quiet.opened opened frame decoded format
      rw [released]
      rfl
  · intro other
    refine ⟨fun unused => ?_, fun opened frame decoded format => ?_⟩
    · rw [receiveFrame]
      cases decoded : LAPDmFrame.decode frameBytes with
      | error => exact .of_same unused rfl rfl
      | ok frame =>
          simp only
          by_cases own : frame.address.sapi = e.sapi
          · have idle : e.isEstablished = false := by rw [isEstablished, unused]; rfl
            rw [if_neg (not_not.mpr own)]
            cases format : frame.format with
            | uFormat => exact unmoved_receiveUFrame unused
            | sFormat =>
                have kind : frame.sType ≠ .rnr := fun rnr =>
                  other ⟨⟨frame, decoded, own, format, rnr⟩, .inl unused⟩
                simp only
                rw [receiveSFrame_of_idle idle kind]
                exact .of_same unused rfl rfl
            | iFormat =>
                simp only
                rw [receiveIFrame_of_idle idle]
                exact .of_same unused rfl rfl
          · rw [if_pos own]
            exact .of_same unused rfl rfl
    · rw [receiveFrame, decoded]
      simp only
      by_cases own : frame.address.sapi = e.sapi
      · have idle : e.isEstablished = false := by rw [isEstablished, opened]; rfl
        have kind : frame.sType ≠ .rnr := fun rnr =>
          other ⟨⟨frame, decoded, own, format, rnr⟩, .inr opened⟩
        rw [if_neg (not_not.mpr own), format]
        simp only
        rw [receiveSFrame_of_idle idle kind]
        simp [opened]
      · rw [if_pos own]
        simp [opened]

/-- An RNR before `open` is answered with a DM. -/
theorem unopened_answers_rnr :
    ∃ (e : LAPDmEntity) (frameBytes : List UInt8), e.Reachable ∧ e.state = .unused ∧
      emitted e (e.receiveFrame frameBytes) = [encodeFrame (makeDMFrame .sapi0 true)] ∧
      ¬ Quiet e frameBytes := by
  refine ⟨{ profile := .SDCCH }, encodeFrame (makeRNRFrame .sapi0 0 false), ?_, rfl, ?_, ?_⟩
  · exact ⟨.SDCCH, [], .origin⟩
  · decide
  · intro quiet
    apply (quiet_iff _ _).mp quiet
    refine ⟨⟨makeRNRFrame .sapi0 0 false, ?_, rfl, rfl, rfl⟩, .inl rfl⟩
    decide

end LAPDmEntity

end Lapdm

end Gsml3
