import Gsml3.Lapdm.FrameCodec
import Gsml3.Lapdm.Link

/-!
# Payloads of UI and SABME frames

`sendUI` and `sendSABME` hand the whole payload to the encoder, which cuts the
size to the six bits of the header octet.  A payload of more than 63 octets is
reported as sent, in a frame whose declared length disagrees with its size.
-/

namespace Gsml3

namespace Lapdm

/-- The octets carry the payload in a U-frame of the type to the access point. -/
def CarriesPayload (uType : LAPDmUFrameType) (sapi : SAPI) (l3Data frameBytes : List UInt8) : Prop :=
  ∃ frame, LAPDmFrame.decode frameBytes = .ok frame ∧ frame.address.sapi = sapi ∧
    frame.format = .uFormat ∧ frame.uType = uType ∧ frame.info = l3Data

/-- A frame with a longer info field than its header octet can declare is
rejected for its trailing octets. -/
theorem decode_encodeFrame_long {frame : LAPDmFrame} (format : frame.format ≠ .sFormat)
    (long : 63 < frame.info.length) :
    ∃ error, LAPDmFrame.decode (encodeFrame frame) = .error error := by
  have header : LAPDmLengthField.decode
      (LAPDmLengthField.ofSize frame.more frame.info.length).encode =
      LAPDmLengthField.ofSize frame.more frame.info.length :=
    LAPDmLengthField.decode_encode frame.more _
  have declared : ((LAPDmLengthField.ofSize frame.more frame.info.length).length : Nat) =
      frame.info.length % 64 := rfl
  have shorter : frame.info.length % 64 < frame.info.length := by omega
  unfold encodeFrame
  rw [if_neg format]
  unfold LAPDmFrame.decode
  dsimp only
  rw [header, declared, if_neg (Nat.lt_asymm shorter), if_pos shorter]
  split
  · exact ⟨_, rfl⟩
  · split
    · exact ⟨_, rfl⟩
    · split <;> exact ⟨_, rfl⟩

/-- A U-frame with an info field carries it exactly when the length fits the
header octet and the access point is a defined one. -/
theorem carriesPayload_iff {uType : LAPDmUFrameType} {sapi : SAPI} (command pf : Bool)
    {l3Data : List UInt8} (informative : uType ≠ .dm ∧ uType ≠ .disc) :
    CarriesPayload uType sapi l3Data
        (encodeFrame
          { address := ⟨sapi, command, true⟩, uType := uType, pf := pf, info := l3Data }) ↔
      l3Data.length ≤ 63 ∧ sapi ≠ .undefined := by
  rcases Nat.lt_or_ge 63 l3Data.length with long | short
  · have rejected := @decode_encodeFrame_long
      { address := ⟨sapi, command, true⟩, uType := uType, pf := pf, info := l3Data } nofun long
    constructor
    · rintro ⟨frame, accepted, -⟩
      obtain ⟨error, failed⟩ := rejected
      rw [failed] at accepted
      cases accepted
    · rintro ⟨short, -⟩
      omega
  · have read := decode_encodeFrame_uFormat sapi command pf uType short fun infoless => by
      cases infoless with
      | inl dm => exact absurd dm informative.1
      | inr disc => exact absurd disc informative.2
    constructor
    · rintro ⟨frame, accepted, access, -⟩
      rw [read] at accepted
      cases accepted
      refine ⟨short, ?_⟩
      rintro rfl
      cases access
    · rintro ⟨-, defined⟩
      refine ⟨_, read, ?_, rfl, rfl, rfl⟩
      cases sapi with
      | sapi0 => rfl
      | sapi3 => rfl
      | undefined => exact absurd rfl defined

namespace LAPDmEntity

/-- The frames a call handed to layer 1. -/
def emitted (before after : LAPDmEntity) : List (List UInt8) :=
  transmitted (after.outputs.drop before.outputs.length)

/-- A send either reports an error or puts the payload on the wire unharmed; a
payload beyond one frame is refused. -/
def DeliveredOrRefused (e : LAPDmEntity) (uType : LAPDmUFrameType) (sapi : SAPI)
    (l3Data : List UInt8) (result : LAPDmEntity × Except ParseError Unit) : Prop :=
  (result.2 = .ok () → ∀ frameBytes ∈ emitted e result.1, CarriesPayload uType sapi l3Data frameBytes) ∧
    (63 < l3Data.length → result.2 ≠ .ok ())

/-- A successful send of one U-frame delivers its payload or refuses it exactly
when the frame carries the payload. -/
theorem deliveredOrRefused_sent {e : LAPDmEntity} {uType : LAPDmUFrameType} {sapi : SAPI}
    (command pf : Bool) {l3Data : List UInt8} {after : LAPDmEntity}
    (informative : uType ≠ .dm ∧ uType ≠ .disc)
    (outputs : after.outputs = e.outputs ++
      [.transmit (encodeFrame
        { address := ⟨sapi, command, true⟩, uType := uType, pf := pf, info := l3Data })]) :
    DeliveredOrRefused e uType sapi l3Data (after, .ok ()) ↔
      l3Data.length ≤ 63 ∧ sapi ≠ .undefined := by
  have single : emitted e after = [encodeFrame
      { address := ⟨sapi, command, true⟩, uType := uType, pf := pf, info := l3Data }] := by
    rw [emitted, outputs, List.drop_left, transmitted_transmit]
  rw [← carriesPayload_iff command pf informative]
  constructor
  · rintro ⟨carried, -⟩
    exact carried rfl _ (by rw [single]; exact List.mem_singleton_self _)
  · intro carried
    refine ⟨fun _ frameBytes member => ?_, fun long => ?_⟩
    · dsimp only at member
      rw [single] at member
      rw [List.mem_singleton.mp member]
      exact carried
    · have fits := ((carriesPayload_iff command pf informative).mp carried).1
      omega

/-- `sendUI` refuses nothing. -/
theorem sendUI_deliveredOrRefused_iff (e : LAPDmEntity) (sapi : SAPI) (l3Data : List UInt8) :
    DeliveredOrRefused e .ui sapi l3Data (e.sendUI sapi l3Data) ↔
      l3Data.length ≤ 63 ∧ sapi ≠ .undefined := by
  unfold sendUI
  exact deliveredOrRefused_sent e.commandBit false (by decide) rfl

/-- The states `sendSABME` answers with success. -/
theorem sendSABME_deliveredOrRefused_iff (e : LAPDmEntity) (info : List UInt8) :
    DeliveredOrRefused e .sabme e.sapi info (e.sendSABME info) ↔
      (e.state = .linkReleased → info.length ≤ 63 ∧ e.sapi ≠ .undefined) ∧
        (e.isEstablished = true → info.length ≤ 63) := by
  unfold sendSABME
  split
  case isTrue established =>
    have state : e.state ≠ .linkReleased := by
      rintro released
      simp [isEstablished, released] at established
    have silent : emitted e (e.deliverL3 .L3_ESTABLISH_CONFIRM []) = [] := by
      rw [emitted, deliverL3, List.drop_left, transmitted_deliver]
    constructor
    · rintro ⟨-, refused⟩
      refine ⟨fun released => absurd released state, fun _ => ?_⟩
      by_contra long
      exact refused (Nat.lt_of_not_le long) rfl
    · rintro ⟨-, fits⟩
      refine ⟨fun _ frameBytes member => ?_, fun long => ?_⟩
      · dsimp only at member
        rw [silent] at member
        cases member
      · have short := fits established
        omega
  case isFalse idle =>
    split
    case isTrue state =>
      constructor
      · intro _
        exact ⟨fun released => absurd released state, fun established => absurd established idle⟩
      · intro _
        exact ⟨by simp, by simp⟩
    case isFalse released =>
      dsimp only
      rw [deliveredOrRefused_sent e.commandBit true (by decide) rfl]
      constructor
      · intro fits
        exact ⟨fun _ => fits, fun established => absurd established idle⟩
      · rintro ⟨fits, -⟩
        exact fits (not_not.mp released)

/-- **Payloads are delivered or refused** exactly as long as they fit the header
octet and the access point is one of the two defined ones. -/
theorem payloads_delivered_iff (e : LAPDmEntity) (sapi : SAPI) (l3Data : List UInt8) :
    (DeliveredOrRefused e .ui sapi l3Data (e.sendUI sapi l3Data) ↔
      l3Data.length ≤ 63 ∧ sapi ≠ .undefined) ∧
    (DeliveredOrRefused e .sabme e.sapi l3Data (e.sendSABME l3Data) ↔
      (e.state = .linkReleased → l3Data.length ≤ 63 ∧ e.sapi ≠ .undefined) ∧
        (e.isEstablished = true → l3Data.length ≤ 63)) :=
  ⟨sendUI_deliveredOrRefused_iff e sapi l3Data, sendSABME_deliveredOrRefused_iff e l3Data⟩

/-- Sixty-four octets are reported as sent in a frame that declares none. -/
theorem sendUI_sends_undecodable :
    ∃ (e : LAPDmEntity) (l3Data frameBytes : List UInt8),
      (e.sendUI .sapi0 l3Data).2 = .ok () ∧
      (e.sendUI .sapi0 l3Data).1.outputs = [.transmit frameBytes] ∧
      LAPDmFrame.decode frameBytes =
        .error ⟨.invalidValue, "LAPDm frame has trailing bytes", 0⟩ ∧
      ¬ DeliveredOrRefused e .ui .sapi0 l3Data (e.sendUI .sapi0 l3Data) := by
  refine ⟨{ profile := .SDCCH }, List.replicate 64 0, _, rfl, rfl, rfl, ?_⟩
  intro delivered
  have fits := ((sendUI_deliveredOrRefused_iff _ _ _).mp delivered).1
  simp at fits

end LAPDmEntity

end Lapdm

end Gsml3
