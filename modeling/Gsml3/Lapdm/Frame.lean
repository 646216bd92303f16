import Gsml3.Core.Types

/-!
# LAPDm frame codec

Format-B frames of the Um interface: address octet, control octet, the header
octet carrying the length and the M bit, and the info field.  Sequence numbers
are kept in `Fin 8` because every constructor of the source masks them with
`0x07`; the info length is kept in `Fin 64` for the same reason.
-/

namespace Gsml3

namespace Lapdm

/-- Frame format selected by the low two bits of the control octet. -/
inductive LAPDmControlFormat where
  | iFormat
  | sFormat
  | uFormat
deriving DecidableEq, Repr

/-- Unnumbered frame types. -/
inductive LAPDmUFrameType where
  | ui
  | sabme
  | dm
  | disc
  | ua
deriving DecidableEq, Repr

/-- Supervisory frame types.  `reserved` is the fourth value of the two-bit
function code: the decoder casts it into the enumeration without a check. -/
inductive LAPDmSFrameType where
  | rr
  | rnr
  | rej
  | reserved
deriving DecidableEq, Repr

namespace LAPDmSFrameType

/-- The two bits of a supervisory frame. -/
def code : LAPDmSFrameType → UInt8
  | .rr => 0
  | .rnr => 1
  | .rej => 2
  | .reserved => 3

/-- The supervisory frame of two bits. -/
def ofCode (code : UInt8) : LAPDmSFrameType :=
  if code = 0 then .rr
  else if code = 1 then .rnr
  else if code = 2 then .rej
  else .reserved

end LAPDmSFrameType

/-- There are sequence numbers. -/
scoped instance sequenceNumbers_neZero : NeZero 8 := ⟨by decide⟩

/-- One bit of an octet: `mask` when the flag is set. -/
def flag (mask : UInt8) (set : Bool) : UInt8 :=
  if set then mask else 0x00

/-- Address octet: service access point, command/response bit and the extended
address bit. -/
structure LAPDmAddressField where
  sapi : SAPI := .undefined
  command : Bool := false
  ea : Bool := true
deriving DecidableEq, Repr

namespace LAPDmAddressField

/-- The octet of the address field. -/
def encode (field : LAPDmAddressField) : UInt8 :=
  ((field.sapi.code &&& 0x07) <<< 2)
    ||| flag 0x02 field.command
    ||| flag 0x01 field.ea

/-- The three SAPI bits of an address octet. -/
def rawSapi (byte : UInt8) : UInt8 :=
  (byte >>> 2) &&& 0x07

/-- The address field of an octet; a SAPI that is not 0 or 3 is undefined. -/
def decode (byte : UInt8) : LAPDmAddressField where
  sapi :=
    if rawSapi byte = 0 then .sapi0
    else if rawSapi byte = 3 then .sapi3
    else .undefined
  command := byte &&& 0x02 != 0
  ea := byte &&& 0x01 != 0

end LAPDmAddressField

/-- Control octet of an I-frame. -/
structure LAPDmIControlField where
  nr : Fin 8 := 0
  ns : Fin 8 := 0
  pf : Bool := false
deriving DecidableEq, Repr

namespace LAPDmIControlField

/-- The control octet of an I frame. -/
def encode (field : LAPDmIControlField) : UInt8 :=
  (UInt8.ofNat field.nr <<< 5)
    ||| flag 0x10 field.pf
    ||| (UInt8.ofNat field.ns <<< 1)

/-- The fields of the control octet of an I frame. -/
def decode (byte : UInt8) : LAPDmIControlField where
  nr := Fin.ofNat 8 ((byte >>> 5) &&& 0x07).toNat
  ns := Fin.ofNat 8 ((byte >>> 1) &&& 0x07).toNat
  pf := byte &&& 0x10 != 0

end LAPDmIControlField

/-- Control octet of an S-frame. -/
structure LAPDmSControlField where
  nr : Fin 8 := 0
  type : LAPDmSFrameType := .rr
  pf : Bool := false
deriving DecidableEq, Repr

namespace LAPDmSControlField

/-- The control octet of an S frame. -/
def encode (field : LAPDmSControlField) : UInt8 :=
  (UInt8.ofNat field.nr <<< 5)
    ||| flag 0x10 field.pf
    ||| (field.type.code <<< 2)
    ||| 0x01

/-- The fields of the control octet of an S frame. -/
def decode (byte : UInt8) : LAPDmSControlField where
  nr := Fin.ofNat 8 ((byte >>> 5) &&& 0x07).toNat
  type := .ofCode ((byte >>> 2) &&& 0x03)
  pf := byte &&& 0x10 != 0

end LAPDmSControlField

/-- Header octet: six length bits, the M bit and a fixed one. -/
structure LAPDmLengthField where
  more : Bool := false
  length : Fin 64 := 0
deriving DecidableEq, Repr

namespace LAPDmLengthField

/-- The header octet of an info field of `size` octets; the length is cut to
six bits. -/
def ofSize (more : Bool) (size : Nat) : LAPDmLengthField :=
  ⟨more, Fin.ofNat 64 size⟩

/-- The length octet. -/
def encode (field : LAPDmLengthField) : UInt8 :=
  (UInt8.ofNat field.length <<< 2) ||| flag 0x02 field.more ||| 0x01

/-- The fields of the length octet; the extension bit is not looked at. -/
def decode (byte : UInt8) : LAPDmLengthField where
  more := byte &&& 0x02 != 0
  length := Fin.ofNat 64 ((byte >>> 2) &&& 0x3F).toNat

end LAPDmLengthField

/-- A decoded frame.  As in the source, the fields of the formats other than
`format` keep their defaults. -/
structure LAPDmFrame where
  address : LAPDmAddressField := {}
  format : LAPDmControlFormat := .uFormat
  iCtrl : LAPDmIControlField := {}
  nr : Fin 8 := 0
  sType : LAPDmSFrameType := .rr
  uType : LAPDmUFrameType := .ui
  pf : Bool := false
  more : Bool := false
  info : List UInt8 := []
deriving DecidableEq, Repr

/-- Control octet of a U-frame: the table indexed by type and P/F bit. -/
def uFrameControlByte : LAPDmUFrameType → Bool → UInt8
  | .ui, false => 0x03
  | .ui, true => 0x13
  | .sabme, false => 0x2F
  | .sabme, true => 0x3F
  | .dm, false => 0x0F
  | .dm, true => 0x1F
  | .disc, false => 0x43
  | .disc, true => 0x53
  | .ua, false => 0x63
  | .ua, true => 0x73

/-- The rows of the U-frame table in source order. -/
def uControlRows : List (LAPDmUFrameType × Bool) :=
  [(.ui, false), (.ui, true), (.sabme, false), (.sabme, true), (.dm, false),
    (.dm, true), (.disc, false), (.disc, true), (.ua, false), (.ua, true)]

/-- Locate a control octet in the U-frame table. -/
def matchUControl (ctrl : UInt8) : Option (LAPDmUFrameType × Bool) :=
  uControlRows.find? fun row => uFrameControlByte row.1 row.2 == ctrl

/-- The part of the decoder that reads the control octet; `frame` already
carries the address, the M bit and the info field. -/
def decodeControl (frame : LAPDmFrame) (ctrl header : UInt8) :
    Except ParseError LAPDmFrame :=
  if ctrl &&& 0x03 = 0x00 ∨ ctrl &&& 0x03 = 0x02 then
    .ok { frame with format := .iFormat, iCtrl := .decode ctrl }
  else if ctrl &&& 0x03 = 0x01 then
    if header ≠ 0x01 then
      .error ⟨.invalidValue, "S-frame must have an empty header octet", 0⟩
    else
      let sCtrl := LAPDmSControlField.decode ctrl
      .ok { frame with
        format := .sFormat, nr := sCtrl.nr, sType := sCtrl.type, pf := sCtrl.pf }
  else
    match matchUControl ctrl with
    | none => .error ⟨.invalidValue, "Unknown U-frame control octet", 0⟩
    | some (uType, pf) =>
        if (uType = .dm ∨ uType = .disc) ∧
            (LAPDmLengthField.decode header).length ≠ 0 then
          .error ⟨.invalidValue, "DM/DISC frames carry no info field", 0⟩
        else
          .ok { frame with format := .uFormat, uType := uType, pf := pf }

/-- Decode a raw format-B frame. -/
def LAPDmFrame.decode (data : List UInt8) : Except ParseError LAPDmFrame :=
  match data with
  | address :: ctrl :: header :: info =>
      if address &&& 0xE0 ≠ 0 then
        .error ⟨.invalidValue, "Non-GSM service access point", 0⟩
      else if address &&& 0x01 = 0 then
        .error ⟨.invalidValue, "LAPDm EA bit not set", 0⟩
      else if header &&& 0x01 = 0 then
        .error ⟨.invalidValue, "LAPDm header octet fixed bit not set", 0⟩
      else
        let lenField := LAPDmLengthField.decode header
        if info.length < lenField.length then
          .error ⟨.truncatedInput, "LAPDm info field shorter than declared length", 0⟩
        else if lenField.length < info.length then
          .error ⟨.invalidValue, "LAPDm frame has trailing bytes", 0⟩
        else
          decodeControl
            { address := .decode address, more := lenField.more, info := info }
            ctrl header
  | _ => .error ⟨.truncatedInput, "LAPDm frame too short", 0⟩

/-! ## Frame constructors -/

/-- An unnumbered information frame. -/
def makeUIFrame (sapi : SAPI) (command : Bool) (info : List UInt8) : LAPDmFrame :=
  { address := ⟨sapi, command, true⟩, format := .uFormat, uType := .ui, info := info }

/-- The frame that asks for a link, with the poll bit. -/
def makeSABMEFrame (sapi : SAPI) (command : Bool) (info : List UInt8) : LAPDmFrame :=
  { address := ⟨sapi, command, true⟩, format := .uFormat, uType := .sabme
    pf := true, info := info }

/-- The frame that acknowledges an unnumbered one. -/
def makeUAFrame (sapi : SAPI) (pf : Bool) (info : List UInt8) : LAPDmFrame :=
  { address := ⟨sapi, false, true⟩, format := .uFormat, uType := .ua
    pf := pf, info := info }

/-- The frame of an entity that is not connected. -/
def makeDMFrame (sapi : SAPI) (pf : Bool) : LAPDmFrame :=
  { address := ⟨sapi, false, true⟩, format := .uFormat, uType := .dm, pf := pf }

/-- The frame that ends a link, with the poll bit. -/
def makeDISCFrame (sapi : SAPI) (command : Bool) : LAPDmFrame :=
  { address := ⟨sapi, command, true⟩, format := .uFormat, uType := .disc, pf := true }

/-- A numbered information frame. -/
def makeIFrame (sapi : SAPI) (command : Bool) (nr ns : Fin 8) (pf more : Bool)
    (info : List UInt8) : LAPDmFrame :=
  { address := ⟨sapi, command, true⟩, format := .iFormat, iCtrl := ⟨nr, ns, pf⟩
    more := more, info := info }

/-- The supervisory constructors differ in their function code only. -/
def makeSFrame (sapi : SAPI) (nr : Fin 8) (pf : Bool) (sType : LAPDmSFrameType) :
    LAPDmFrame :=
  { address := ⟨sapi, false, true⟩, format := .sFormat, nr := nr, pf := pf
    sType := sType }

/-- The entity is ready to receive. -/
def makeRRFrame (sapi : SAPI) (nr : Fin 8) (pf : Bool) : LAPDmFrame :=
  makeSFrame sapi nr pf .rr

/-- The entity is not ready to receive. -/
def makeRNRFrame (sapi : SAPI) (nr : Fin 8) (pf : Bool) : LAPDmFrame :=
  makeSFrame sapi nr pf .rnr

/-- The entity asks for frames again. -/
def makeREJFrame (sapi : SAPI) (nr : Fin 8) (pf : Bool) : LAPDmFrame :=
  makeSFrame sapi nr pf .rej

/-! ## Encoding -/

/-- Control octet of a frame. -/
def encodeControl (frame : LAPDmFrame) : UInt8 :=
  match frame.format with
  | .iFormat => frame.iCtrl.encode
  | .sFormat => LAPDmSControlField.encode ⟨frame.nr, frame.sType, frame.pf⟩
  | .uFormat => uFrameControlByte frame.uType frame.pf

/-- Encode a frame.  S-frames are exactly three octets long. -/
def encodeFrame (frame : LAPDmFrame) : List UInt8 :=
  if frame.format = .sFormat then
    [frame.address.encode, encodeControl frame, 0x01]
  else
    frame.address.encode :: encodeControl frame ::
      (LAPDmLengthField.ofSize frame.more frame.info.length).encode :: frame.info

/-! ## Decoding what was encoded -/

/-- The access point a peer reads from an encoded address octet: `undefined`
shares its three bits with access point 0. -/
def SAPI.onWire : SAPI → SAPI
  | .sapi0 => .sapi0
  | .sapi3 => .sapi3
  | .undefined => .sapi0

/-- An encoded address octet passes the decoder's two checks and reads back. -/
theorem LAPDmAddressField.decode_encode (sapi : SAPI) (command : Bool) :
    encode ⟨sapi, command, true⟩ &&& 0xE0 = 0 ∧
      encode ⟨sapi, command, true⟩ &&& 0x01 ≠ 0 ∧
      decode (encode ⟨sapi, command, true⟩) = ⟨SAPI.onWire sapi, command, true⟩ := by
  cases sapi <;> cases command <;> decide

theorem LAPDmIControlField.decode_encode : ∀ (nr ns : Fin 8) (pf : Bool),
    decode (encode ⟨nr, ns, pf⟩) = ⟨nr, ns, pf⟩ := by
  decide

/-- The fixed bit of an encoded I-frame control octet is clear. -/
theorem LAPDmIControlField.encode_format : ∀ (nr ns : Fin 8) (pf : Bool),
    encode ⟨nr, ns, pf⟩ &&& 0x03 = 0x00 ∨ encode ⟨nr, ns, pf⟩ &&& 0x03 = 0x02 := by
  decide

theorem LAPDmSControlField.decode_encode (nr : Fin 8) (type : LAPDmSFrameType) (pf : Bool) :
    decode (encode ⟨nr, type, pf⟩) = ⟨nr, type, pf⟩ := by
  revert nr pf
  cases type <;> decide

/-- The low two bits of an encoded S-frame control octet are `01`. -/
theorem LAPDmSControlField.encode_format (nr : Fin 8) (type : LAPDmSFrameType) (pf : Bool) :
    encode ⟨nr, type, pf⟩ &&& 0x03 = 0x01 := by
  revert nr pf
  cases type <;> decide

theorem LAPDmLengthField.decode_encode : ∀ (more : Bool) (length : Fin 64),
    decode (encode ⟨more, length⟩) = ⟨more, length⟩ := by
  decide

/-- The fixed bit of an encoded header octet is set. -/
theorem LAPDmLengthField.encode_fixed : ∀ (more : Bool) (length : Fin 64),
    encode ⟨more, length⟩ &&& 0x01 ≠ 0 := by
  decide

/-- An info field of at most 63 octets has its length in the header octet. -/
theorem LAPDmLengthField.ofSize_length (more : Bool) {size : Nat} (short : size ≤ 63) :
    ((ofSize more size).length : Nat) = size := by
  change size % 64 = size
  omega

/-- The decoder reads the header octets back and hands the control octet on,
for every frame that carries its info field and sets the extended address bit. -/
theorem decode_header_octets {sapi : SAPI} {command more : Bool} {ctrl : UInt8}
    {info : List UInt8} (short : info.length ≤ 63) :
    LAPDmFrame.decode
        (LAPDmAddressField.encode ⟨sapi, command, true⟩ :: ctrl ::
          (LAPDmLengthField.ofSize more info.length).encode :: info) =
      decodeControl
        { address := ⟨SAPI.onWire sapi, command, true⟩, more := more, info := info }
        ctrl (LAPDmLengthField.ofSize more info.length).encode := by
  obtain ⟨spare, extended, address⟩ := LAPDmAddressField.decode_encode sapi command
  have fixed : (LAPDmLengthField.ofSize more info.length).encode &&& 0x01 ≠ 0 :=
    LAPDmLengthField.encode_fixed more _
  have header : LAPDmLengthField.decode (LAPDmLengthField.ofSize more info.length).encode =
      LAPDmLengthField.ofSize more info.length :=
    LAPDmLengthField.decode_encode more _
  have size := LAPDmLengthField.ofSize_length more short
  simp only [LAPDmFrame.decode, spare, extended, address, fixed, header, size, ne_eq,
    not_true_eq_false, ↓reduceIte, lt_irrefl]
  rfl

/-- A peer reads an encoded I-frame back, up to the access point. -/
theorem decode_encodeFrame_makeIFrame {sapi : SAPI} {command pf more : Bool}
    {nr ns : Fin 8} {info : List UInt8} (short : info.length ≤ 63) :
    LAPDmFrame.decode (encodeFrame (makeIFrame sapi command nr ns pf more info)) =
      .ok (makeIFrame (SAPI.onWire sapi) command nr ns pf more info) := by
  have control := LAPDmIControlField.encode_format nr ns pf
  have sequence := LAPDmIControlField.decode_encode nr ns pf
  simp only [encodeFrame, makeIFrame, encodeControl, reduceCtorEq, ↓reduceIte]
  rw [decode_header_octets short, decodeControl, if_pos control, sequence]

/-- A peer reads an encoded S-frame back, up to the access point. -/
theorem decode_encodeFrame_makeSFrame {sapi : SAPI} {nr : Fin 8} {pf : Bool}
    {sType : LAPDmSFrameType} :
    LAPDmFrame.decode (encodeFrame (makeSFrame sapi nr pf sType)) =
      .ok (makeSFrame (SAPI.onWire sapi) nr pf sType) := by
  have control := LAPDmSControlField.encode_format nr sType pf
  have function := LAPDmSControlField.decode_encode nr sType pf
  have octets : LAPDmFrame.decode
      [LAPDmAddressField.encode ⟨sapi, false, true⟩,
        LAPDmSControlField.encode ⟨nr, sType, pf⟩, 0x01] =
      decodeControl { address := ⟨SAPI.onWire sapi, false, true⟩ }
        (LAPDmSControlField.encode ⟨nr, sType, pf⟩) 0x01 :=
    @decode_header_octets sapi false false _ [] (Nat.zero_le 63)
  simp only [encodeFrame, makeSFrame, encodeControl, ↓reduceIte]
  rw [octets, decodeControl, if_neg (by simp [control]), if_pos control]
  simp [function]

end Lapdm

end Gsml3
