import Gsml3.Foundation.BitString
import Gsml3.Lapdm.Frame

/-!
# Exactness of the frame codec

The decoder accepts no spare encodings on the two defined access points: an
accepted octet string is what the encoder writes for the decoded frame.  In the
other direction every frame of the constructors decodes to itself.
-/

namespace Gsml3

namespace Lapdm

/-! ## Octets written back -/

/-- An address octet without spare bits, with the extended address bit and a
defined access point. -/
theorem LAPDmAddressField.encode_decode {octet : UInt8} (spare : octet &&& 0xE0 = 0)
    (extended : octet &&& 0x01 ≠ 0) (defined : (decode octet).sapi ≠ .undefined) :
    encode (decode octet) = octet := by
  revert octet
  apply Foundation.forall_octet
  decide

/-- The decoder clears nothing of an I-frame control octet. -/
theorem LAPDmIControlField.encode_decode {octet : UInt8}
    (format : octet &&& 0x03 = 0x00 ∨ octet &&& 0x03 = 0x02) :
    encode (decode octet) = octet := by
  revert octet
  apply Foundation.forall_octet
  decide

/-- The decoder clears nothing of an S-frame control octet, the reserved
function code included. -/
theorem LAPDmSControlField.encode_decode {octet : UInt8} (format : octet &&& 0x03 = 0x01) :
    encode (decode octet) = octet := by
  revert octet
  apply Foundation.forall_octet
  decide

theorem LAPDmLengthField.encode_decode {octet : UInt8} (fixed : octet &&& 0x01 ≠ 0) :
    encode (decode octet) = octet := by
  revert octet
  apply Foundation.forall_octet
  decide

/-- The row found in the U-frame table has the control octet. -/
theorem uFrameControlByte_of_matchUControl {ctrl : UInt8} {row : LAPDmUFrameType × Bool}
    (found : matchUControl ctrl = some row) : uFrameControlByte row.1 row.2 = ctrl := by
  have same := List.find?_some found
  exact eq_of_beq same

/-- The rows of the U-frame table are told apart by their octets. -/
theorem matchUControl_uFrameControlByte (uType : LAPDmUFrameType) (pf : Bool) :
    matchUControl (uFrameControlByte uType pf) = some (uType, pf) := by
  cases uType <;> cases pf <;> decide

/-! ## What the decoder accepts -/

/-- The header checks an accepted octet string passed, and the frame handed to
the control octet's branch. -/
structure HeaderAccepted (address ctrl header : UInt8) (info : List UInt8)
    (frame : LAPDmFrame) : Prop where
  spare : address &&& 0xE0 = 0
  extended : address &&& 0x01 ≠ 0
  fixed : header &&& 0x01 ≠ 0
  length : (LAPDmLengthField.decode header).length = info.length
  control :
    decodeControl
      { address := .decode address, more := (LAPDmLengthField.decode header).more
        info := info } ctrl header = .ok frame

theorem decode_ok_header {data : List UInt8} {frame : LAPDmFrame}
    (accepted : LAPDmFrame.decode data = .ok frame) :
    ∃ address ctrl header info, data = address :: ctrl :: header :: info ∧
      HeaderAccepted address ctrl header info frame := by
  unfold LAPDmFrame.decode at accepted
  split at accepted
  case h_2 => cases accepted
  case h_1 address ctrl header info =>
    refine ⟨address, ctrl, header, info, rfl, ?_⟩
    split at accepted
    · cases accepted
    next spare =>
      split at accepted
      · cases accepted
      next extended =>
        split at accepted
        · cases accepted
        next fixed =>
          dsimp only at accepted
          split at accepted
          · cases accepted
          next complete =>
            split at accepted
            · cases accepted
            next exact =>
              exact ⟨not_not.mp spare, extended, fixed, by omega, accepted⟩

/-- The header octet carries the size of its info field. -/
theorem HeaderAccepted.encode_ofSize {address ctrl header : UInt8} {info : List UInt8}
    {frame : LAPDmFrame} (checks : HeaderAccepted address ctrl header info frame) :
    (LAPDmLengthField.ofSize (LAPDmLengthField.decode header).more info.length).encode =
      header := by
  have size : LAPDmLengthField.ofSize (LAPDmLengthField.decode header).more info.length =
      LAPDmLengthField.decode header := by
    unfold LAPDmLengthField.ofSize
    rw [← checks.length]
    simp
  rw [size]
  exact LAPDmLengthField.encode_decode checks.fixed

/-- The frame accepted by the control branch keeps the header fields, encodes to
the control octet and is an S-frame only behind an empty header octet. -/
theorem decodeControl_ok {base frame : LAPDmFrame} {ctrl header : UInt8}
    (accepted : decodeControl base ctrl header = .ok frame) :
    frame.address = base.address ∧ frame.more = base.more ∧ frame.info = base.info ∧
      encodeControl frame = ctrl ∧ (frame.format = .sFormat → header = 0x01) := by
  unfold decodeControl at accepted
  split at accepted
  case isTrue format =>
    cases accepted
    refine ⟨rfl, rfl, rfl, ?_, nofun⟩
    exact LAPDmIControlField.encode_decode format
  case isFalse notI =>
    split at accepted
    case isTrue format =>
      split at accepted
      · cases accepted
      next empty =>
        cases accepted
        refine ⟨rfl, rfl, rfl, ?_, fun _ => not_not.mp empty⟩
        exact LAPDmSControlField.encode_decode format
    case isFalse notS =>
      split at accepted
      · cases accepted
      next uType pf row =>
        split at accepted
        · cases accepted
        · cases accepted
          refine ⟨rfl, rfl, rfl, ?_, nofun⟩
          exact uFrameControlByte_of_matchUControl row

/-- **Nothing is lost by decoding.**  On a defined access point the encoder
writes the accepted octets again. -/
theorem encodeFrame_decode {data : List UInt8} {frame : LAPDmFrame}
    (accepted : LAPDmFrame.decode data = .ok frame)
    (defined : frame.address.sapi ≠ .undefined) : encodeFrame frame = data := by
  obtain ⟨address, ctrl, header, info, rfl, checks⟩ := decode_ok_header accepted
  obtain ⟨sameAddress, sameMore, sameInfo, control, supervisory⟩ :=
    decodeControl_ok checks.control
  dsimp only at sameAddress sameMore sameInfo
  have addressOctet : frame.address.encode = address := by
    rw [sameAddress] at defined ⊢
    exact LAPDmAddressField.encode_decode checks.spare checks.extended defined
  have headerOctet := checks.encode_ofSize
  unfold encodeFrame
  split
  case isTrue format =>
    have header1 := supervisory format
    subst header1
    -- an S-frame has no info field, so nothing follows its header octet
    have noInfo : info = [] := List.eq_nil_of_length_eq_zero checks.length.symm
    rw [addressOctet, control, noInfo]
  case isFalse =>
    rw [addressOctet, control, sameMore, sameInfo, headerOctet]

/-! ## The constructors -/

/-- The frames the constructors build on one access point. -/
inductive Made (sapi : SAPI) : LAPDmFrame → Prop where
  | ui (command : Bool) (info : List UInt8) : Made sapi (makeUIFrame sapi command info)
  | sabme (command : Bool) (info : List UInt8) : Made sapi (makeSABMEFrame sapi command info)
  | ua (pf : Bool) (info : List UInt8) : Made sapi (makeUAFrame sapi pf info)
  | dm (pf : Bool) : Made sapi (makeDMFrame sapi pf)
  | disc (command : Bool) : Made sapi (makeDISCFrame sapi command)
  | i (command : Bool) (nr ns : Fin 8) (pf more : Bool) (info : List UInt8) :
      Made sapi (makeIFrame sapi command nr ns pf more info)
  | rr (nr : Fin 8) (pf : Bool) : Made sapi (makeRRFrame sapi nr pf)
  | rnr (nr : Fin 8) (pf : Bool) : Made sapi (makeRNRFrame sapi nr pf)
  | rej (nr : Fin 8) (pf : Bool) : Made sapi (makeREJFrame sapi nr pf)

/-- A U-frame reads back, up to the access point; DM and DISC carry no info. -/
theorem decode_encodeFrame_uFormat (sapi : SAPI) (command pf : Bool)
    (uType : LAPDmUFrameType) {info : List UInt8} (short : info.length ≤ 63)
    (bare : uType = .dm ∨ uType = .disc → info = []) :
    LAPDmFrame.decode
        (encodeFrame { address := ⟨sapi, command, true⟩, uType := uType, pf := pf, info := info }) =
      .ok { address := ⟨SAPI.onWire sapi, command, true⟩, uType := uType, pf := pf
            info := info } := by
  simp only [encodeFrame, encodeControl, reduceCtorEq, ↓reduceIte]
  rw [decode_header_octets short]
  have unnumbered : uFrameControlByte uType pf &&& 0x03 = 0x03 := by
    cases uType <;> cases pf <;> decide
  unfold decodeControl
  rw [if_neg (by simp [unnumbered]), if_neg (by simp [unnumbered]),
    matchUControl_uFrameControlByte]
  dsimp only
  rw [if_neg]
  rintro ⟨infoless, carried⟩
  refine carried ?_
  rw [bare infoless]
  rfl

/-- A constructed frame of at most 63 info octets reads back. -/
theorem Made.decode_encodeFrame {sapi : SAPI} {frame : LAPDmFrame} (made : Made sapi frame)
    (defined : sapi ≠ .undefined) (short : frame.info.length ≤ 63) :
    LAPDmFrame.decode (encodeFrame frame) = .ok frame := by
  have onWire : SAPI.onWire sapi = sapi := by
    cases sapi with
    | sapi0 => rfl
    | sapi3 => rfl
    | undefined => exact absurd rfl defined
  cases made with
  | ui command info =>
      have read := decode_encodeFrame_uFormat sapi command false .ui short (by simp)
      rwa [onWire] at read
  | sabme command info =>
      have read := decode_encodeFrame_uFormat sapi command true .sabme short (by simp)
      rwa [onWire] at read
  | ua pf info =>
      have read := decode_encodeFrame_uFormat sapi false pf .ua short (by simp)
      rwa [onWire] at read
  | dm pf =>
      have read := decode_encodeFrame_uFormat sapi false pf .dm short fun _ => rfl
      rwa [onWire] at read
  | disc command =>
      have read := decode_encodeFrame_uFormat sapi command true .disc short fun _ => rfl
      rwa [onWire] at read
  | i command nr ns pf more info =>
      have read := @decode_encodeFrame_makeIFrame sapi command pf more nr ns info short
      rwa [onWire] at read
  | rr nr pf =>
      have read := @decode_encodeFrame_makeSFrame sapi nr pf .rr
      rwa [onWire] at read
  | rnr nr pf =>
      have read := @decode_encodeFrame_makeSFrame sapi nr pf .rnr
      rwa [onWire] at read
  | rej nr pf =>
      have read := @decode_encodeFrame_makeSFrame sapi nr pf .rej
      rwa [onWire] at read

/-- **The codec is exact in both directions** on the two defined access points. -/
theorem codec_exact :
    (∀ (data : List UInt8) (frame : LAPDmFrame), LAPDmFrame.decode data = .ok frame →
      frame.address.sapi = .sapi0 ∨ frame.address.sapi = .sapi3 → encodeFrame frame = data) ∧
    (∀ (sapi : SAPI) (frame : LAPDmFrame), Made sapi frame → sapi = .sapi0 ∨ sapi = .sapi3 →
      frame.info.length ≤ 63 → LAPDmFrame.decode (encodeFrame frame) = .ok frame) := by
  have defined : ∀ sapi : SAPI, sapi = .sapi0 ∨ sapi = .sapi3 → sapi ≠ .undefined := by
    rintro sapi (rfl | rfl) <;> decide
  constructor
  · intro data frame accepted access
    exact encodeFrame_decode accepted (defined _ access)
  · intro sapi frame made access short
    exact made.decode_encodeFrame (defined _ access) short

/-- A REJ frame with the final bit, and a segment with the M bit on SAPI 3. -/
theorem codec_exact_frames :
    encodeFrame (makeREJFrame .sapi0 5 true) = [0x01, 0xB9, 0x01] ∧
      LAPDmFrame.decode
          (encodeFrame (makeIFrame .sapi3 true 2 7 false true [0x05, 0x18])) =
        .ok (makeIFrame .sapi3 true 2 7 false true [0x05, 0x18]) := by
  refine ⟨?_, ?_⟩
  · exact codec_exact.1 [0x01, 0xB9, 0x01] _ (by decide) (.inl rfl)
  · exact codec_exact.2 .sapi3 _ (.i true 2 7 false true [0x05, 0x18]) (.inr rfl) (by decide)

end Lapdm

end Gsml3
