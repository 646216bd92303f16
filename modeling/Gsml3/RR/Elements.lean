import Gsml3.Core.BitRoundTrip
import Gsml3.Stack.Message

/-!
# Radio resource elements

The elements of radio resource messages, with the length of their value in octets and the
calls of their `write` on the bit writer.  Some are fields of less than an octet, which
`lengthV` does not count.
-/

namespace Gsml3

open BitWriter (Op endPos)
open Stack (ChannelType MobileIDType)

/-! ## Opaque octets -/

/-- `writeOpaqueTail`: octet by octet. -/
def writeOctets (octets : List UInt8) : List Op :=
  octets.flatMap fun octet => [.writeField octet.toUInt32 8]

@[simp] theorem endPos_writeOctets (octets : List UInt8) (pos : Nat) :
    endPos pos (writeOctets octets) = pos + 8 * octets.length :=
  BitWriter.endPos_flatMap (fun _ _ => rfl) octets pos

theorem fields_writeOctets (octets : List UInt8) (pos : Nat) :
    BitWriter.fields pos (writeOctets octets) = Foundation.bitString octets := by
  induction octets generalizing pos with
  | nil => rfl
  | cons octet octets ih =>
      rw [Foundation.bitString_cons, ← ih (pos + 8), ← UInt8.toNat_toUInt32]
      rfl

/-! ## Mobile identity -/

namespace Stack.MobileIDType

/-- The code of the type on the wire. -/
def code : MobileIDType → UInt32
  | .noID => 0
  | .imsi => 1
  | .imei => 2
  | .imeisv => 3
  | .tmsi => 4

end Stack.MobileIDType

namespace Stack.L3MobileIdentity

/-- The octets of a mobile identity as its constructor counts them. -/
def lengthV (identity : L3MobileIdentity) : Nat :=
  match identity.type with
  | .tmsi => 5
  | .noID => 1
  | _ => 1 + identity.digits.length / 2

/-- The half octet of a decimal digit. -/
def writeDigit (digit : Char) : Op :=
  .writeField (UInt32.ofNat (digit.toNat - '0'.toNat)) 4

/-- The digits behind the first one, by pairs with the later digit in front. -/
def writePairs : List Char → List Op
  | [] => []
  | [digit] => [.writeField 0x0F 4, writeDigit digit]
  | digit :: next :: digits => writeDigit next :: writeDigit digit :: writePairs digits

/-- An identity by digits, which may have none. -/
def writeDigits (type : MobileIDType) : List Char → List Op
  | [] => [.writeField 0x0F 4, .writeField 0 1, .writeField type.code 3]
  | digit :: digits =>
      writeDigit digit :: .writeField (UInt32.ofNat ((digits.length + 1) % 2)) 1 ::
        .writeField type.code 3 :: writePairs digits

/-- A TMSI behind its type octet; digits with the type in the first octet. -/
def write (identity : L3MobileIdentity) : List Op :=
  match identity.type with
  | .tmsi =>
      [.writeField 0x0F 4, .writeField 0 1, .writeField MobileIDType.tmsi.code 3,
        .writeField identity.tmsi 32]
  | .noID => writeDigits .noID []
  | type => writeDigits type identity.digits

theorem endPos_writePairs (digits : List Char) (pos : Nat) :
    endPos pos (writePairs digits) = pos + 8 * ((digits.length + 1) / 2) := by
  induction digits using writePairs.induct generalizing pos with
  | case1 => rfl
  | case2 digit => simp [writePairs, writeDigit, Op.width]
  | case3 digit next digits ih =>
      rw [writePairs, BitWriter.endPos_cons, BitWriter.endPos_cons, ih, List.length_cons,
        List.length_cons]
      change pos + 4 + 4 + _ = _
      omega

theorem endPos_writeDigits (type : MobileIDType) (digits : List Char) (pos : Nat) :
    endPos pos (writeDigits type digits) = pos + 8 * (1 + digits.length / 2) := by
  cases digits with
  | nil => rfl
  | cons digit digits =>
      rw [writeDigits, BitWriter.endPos_cons, BitWriter.endPos_cons, BitWriter.endPos_cons,
        endPos_writePairs, List.length_cons]
      change pos + 4 + 1 + 3 + _ = _
      omega

@[simp] theorem endPos_write (identity : L3MobileIdentity) (pos : Nat) :
    endPos pos identity.write = pos + 8 * identity.lengthV := by
  obtain ⟨type, digits, tmsi⟩ := identity
  cases type with
  | tmsi => rfl
  | noID => rfl
  | _ => exact endPos_writeDigits _ digits pos

end Stack.L3MobileIdentity

/-! ## Classmark -/

/-- The second classmark, with the octets behind the fixed three. -/
structure L3MobileStationClassmark2 where
  revisionLevel : UInt32 := 0
  esInd : UInt32 := 0
  a5_1 : UInt32 := 0
  a5_3 : UInt32 := 0
  a5_2 : UInt32 := 0
  rfPowerCapability : UInt32 := 0
  psCapability : UInt32 := 0
  ssScreenIndicator : UInt32 := 0
  smCapability : UInt32 := 0
  vbs : UInt32 := 0
  vgcs : UInt32 := 0
  fc : UInt32 := 0
  cm3 : UInt32 := 0
  lcsvaCapability : UInt32 := 0
  ucs2 : UInt32 := 0
  soLSA : UInt32 := 0
  cmsf : UInt32 := 0
  extended : List UInt8 := []
deriving DecidableEq, Repr

namespace L3MobileStationClassmark2

/-- The three fixed octets and those behind them. -/
def lengthV (classmark : L3MobileStationClassmark2) : Nat :=
  3 + classmark.extended.length

/-- The fixed fields bit by bit, then the octets behind them. -/
def write (classmark : L3MobileStationClassmark2) : List Op :=
  [.writeField 0 1, .writeField classmark.revisionLevel 2, .writeField classmark.esInd 1,
    .writeField classmark.a5_1 1, .writeField classmark.rfPowerCapability 3, .writeField 0 1,
    .writeField classmark.psCapability 1, .writeField classmark.ssScreenIndicator 2,
    .writeField classmark.smCapability 1, .writeField classmark.vbs 1,
    .writeField classmark.vgcs 1, .writeField classmark.fc 1, .writeField classmark.cm3 1,
    .writeField 0 1, .writeField classmark.lcsvaCapability 1, .writeField classmark.ucs2 1,
    .writeField classmark.soLSA 1, .writeField classmark.cmsf 1, .writeField classmark.a5_3 1,
    .writeField classmark.a5_2 1] ++
    writeOctets classmark.extended

@[simp] theorem endPos_write (classmark : L3MobileStationClassmark2) (pos : Nat) :
    endPos pos classmark.write = pos + 8 * classmark.lengthV := by
  rw [write, BitWriter.endPos_append, endPos_writeOctets, lengthV, Nat.mul_add, ← Nat.add_assoc]
  rfl

end L3MobileStationClassmark2

/-! ## Channels -/

namespace Stack.L3ChannelDescription

/-- A channel description has three octets. -/
def lengthV : Nat := 3

/-- A hopping channel writes its offset and sequence number, another one its frequency. -/
def write (channel : L3ChannelDescription) : List Op :=
  [.writeField channel.typeAndOffset.toUInt32 5, .writeField channel.tn.toUInt32 3,
    .writeField channel.tsc.toUInt32 3, .writeField channel.hFlag 1] ++
    if channel.hFlag ≠ 0 then
      [.writeField channel.maio.toUInt32 6, .writeField channel.hsn.toUInt32 6]
    else [.writeField channel.arfcn.toUInt32 12]

@[simp] theorem endPos_write (channel : L3ChannelDescription) (pos : Nat) :
    endPos pos channel.write = pos + 8 * lengthV := by
  rw [write]
  split <;> rfl

end Stack.L3ChannelDescription

/-- It has the fields of a channel description and is written like it. -/
abbrev L3ChannelDescription2 := Stack.L3ChannelDescription

/-- A second channel description, coded as the first. -/
abbrev L3AdditionalChannelDescription := Stack.L3ChannelDescription

/-- The mode of a channel. -/
structure L3ChannelMode where
  mode : UInt8 := 0
deriving DecidableEq, Repr

namespace L3ChannelMode

/-- `SpeechV3`. -/
def isAMR (mode : L3ChannelMode) : Bool :=
  mode.mode = 3

def lengthV : Nat := 1

def write (mode : L3ChannelMode) : List Op :=
  [.writeField mode.mode.toUInt32 8]

@[simp] theorem endPos_write (mode : L3ChannelMode) (pos : Nat) :
    endPos pos mode.write = pos + 8 * lengthV :=
  rfl

end L3ChannelMode

/-- The options and codec set of adaptive multi-rate speech. -/
structure L3MultiRateConfiguration where
  options : UInt32 := 0
  amrCodecSet : UInt8 := 0x80
deriving DecidableEq, Repr

namespace L3MultiRateConfiguration

def lengthV : Nat := 2

def write (config : L3MultiRateConfiguration) : List Op :=
  [.writeField config.options 8, .writeField config.amrCodecSet.toUInt32 8]

@[simp] theorem endPos_write (config : L3MultiRateConfiguration) (pos : Nat) :
    endPos pos config.write = pos + 8 * lengthV :=
  rfl

end L3MultiRateConfiguration

/-! ## Power, timing and handover -/

/-- The power level a mobile is told to use. -/
structure L3PowerCommand where
  command : UInt8 := 0
deriving DecidableEq, Repr

namespace L3PowerCommand

def lengthV : Nat := 1

/-- Three spare bits and the level, masked to five. -/
def write (power : L3PowerCommand) : List Op :=
  [.writeField 0 3, .writeField (power.command.toUInt32 &&& 0x1F) 5]

@[simp] theorem endPos_write (power : L3PowerCommand) (pos : Nat) :
    endPos pos power.write = pos + 8 * lengthV :=
  rfl

end L3PowerCommand

/-- The power level with the access type and the two power control bits. -/
structure L3PowerCommandAndAccessType where
  command : UInt8 := 0
  aTC : Bool := false
  ePcMode : Bool := false
  fPcEp : Bool := false
deriving DecidableEq, Repr

/-- A bit. -/
def writeFlag (flag : Bool) : Op :=
  .writeField (if flag then 1 else 0) 1

namespace L3PowerCommandAndAccessType

def lengthV : Nat := 1

/-- The three flags and the level, masked to five bits. -/
def write (power : L3PowerCommandAndAccessType) : List Op :=
  [writeFlag power.aTC, writeFlag power.ePcMode, writeFlag power.fPcEp,
    .writeField (power.command.toUInt32 &&& 0x1F) 5]

@[simp] theorem endPos_write (power : L3PowerCommandAndAccessType) (pos : Nat) :
    endPos pos power.write = pos + 8 * lengthV :=
  rfl

end L3PowerCommandAndAccessType

/-- The timing advance of a mobile. -/
structure L3TimingAdvance where
  timingAdvance : UInt8 := 0
deriving DecidableEq, Repr

namespace L3TimingAdvance

def lengthV : Nat := 1

def write (timing : L3TimingAdvance) : List Op :=
  [.writeField timing.timingAdvance.toUInt32 8]

@[simp] theorem endPos_write (timing : L3TimingAdvance) (pos : Nat) :
    endPos pos timing.write = pos + 8 * lengthV :=
  rfl

end L3TimingAdvance

/-- The frequency and the colour codes of a cell. -/
structure L3CellDescription where
  arfcn : UInt16 := 0
  ncc : UInt8 := 0
  bcc : UInt8 := 0
deriving DecidableEq, Repr

namespace L3CellDescription

def lengthV : Nat := 2

/-- The two high bits of the frequency, the colour codes, and its low octet. -/
def write (cell : L3CellDescription) : List Op :=
  [.writeField (cell.arfcn.toUInt32 >>> 8) 2, .writeField cell.ncc.toUInt32 3,
    .writeField cell.bcc.toUInt32 3, .writeField (cell.arfcn.toUInt32 &&& 0xFF) 8]

@[simp] theorem endPos_write (cell : L3CellDescription) (pos : Nat) :
    endPos pos cell.write = pos + 8 * lengthV :=
  rfl

end L3CellDescription

/-- The number that a handover access is recognised by. -/
structure L3HandoverReference where
  value : UInt8 := 0
deriving DecidableEq, Repr

namespace L3HandoverReference

def lengthV : Nat := 1

def write (reference : L3HandoverReference) : List Op :=
  [.writeField reference.value.toUInt32 8]

@[simp] theorem endPos_write (reference : L3HandoverReference) (pos : Nat) :
    endPos pos reference.write = pos + 8 * lengthV :=
  rfl

end L3HandoverReference

/-- How a mobile synchronises after a handover. -/
structure L3SynchronizationIndication where
  nci : Bool := false
  rot : Bool := false
  si : UInt32 := 0
deriving DecidableEq, Repr

namespace L3SynchronizationIndication

def lengthV : Nat := 1

/-- The identifier in the high half octet, the two flags and the indication. -/
def write (sync : L3SynchronizationIndication) : List Op :=
  [.writeField 0x0D 4, writeFlag sync.nci, writeFlag sync.rot, .writeField (sync.si &&& 3) 2]

@[simp] theorem endPos_write (sync : L3SynchronizationIndication) (pos : Nat) :
    endPos pos sync.write = pos + 8 * lengthV :=
  rfl

end L3SynchronizationIndication

/-! ## Assignment -/

/-- Half an octet. -/
structure L3PageMode where
  pageMode : UInt8 := 0
deriving DecidableEq, Repr

/-- The page mode in a half octet. -/
def L3PageMode.write (mode : L3PageMode) : List Op :=
  [.writeField (mode.pageMode.toUInt32 &&& 0x0F) 4]

@[simp] theorem L3PageMode.endPos_write (mode : L3PageMode) (pos : Nat) :
    endPos pos mode.write = pos + 4 :=
  rfl

/-- Half an octet. -/
structure L3DedicatedModeOrTBF where
  downlink : UInt32 := 0
  tma : UInt32 := 0
  dmOrTBF : UInt32 := 0
deriving DecidableEq, Repr

/-- A spare bit and the three mode bits. -/
def L3DedicatedModeOrTBF.write (mode : L3DedicatedModeOrTBF) : List Op :=
  [.writeField 0 1, .writeField mode.tma 1, .writeField mode.downlink 1,
    .writeField mode.dmOrTBF 1]

@[simp] theorem L3DedicatedModeOrTBF.endPos_write (mode : L3DedicatedModeOrTBF) (pos : Nat) :
    endPos pos mode.write = pos + 4 :=
  rfl

/-- The random access octet and the frame number it was sent in. -/
structure L3RequestReference where
  ra : UInt8 := 0
  t1p : UInt8 := 0
  t2 : UInt8 := 0
  t3 : UInt8 := 0
deriving DecidableEq, Repr

namespace L3RequestReference

def lengthV : Nat := 3

/-- The access octet, then the frame number as `t1p`, `t3` and `t2`. -/
def write (reference : L3RequestReference) : List Op :=
  [.writeField reference.ra.toUInt32 8, .writeField reference.t1p.toUInt32 5,
    .writeField reference.t3.toUInt32 6, .writeField reference.t2.toUInt32 5]

@[simp] theorem endPos_write (reference : L3RequestReference) (pos : Nat) :
    endPos pos reference.write = pos + 8 * lengthV :=
  rfl

end L3RequestReference

/-! ## Measurement results -/

/-- The measurements of the serving cell and of up to six neighbours. -/
structure L3MeasurementResults where
  baUsed : Bool := false
  dtxUsed : Bool := false
  measValid : Bool := false
  rxlevFullServingCell : UInt32 := 0
  rxlevSubServingCell : UInt32 := 0
  rxqualFullServingCell : UInt32 := 0
  rxqualSubServingCell : UInt32 := 0
  noNcell : UInt32 := 0
  rxlevNcell : Vector UInt32 6 := Vector.replicate 6 0
  bcchFreqNcell : Vector UInt32 6 := Vector.replicate 6 0
  bsicNcell : Vector UInt32 6 := Vector.replicate 6 0
deriving DecidableEq, Repr

namespace L3MeasurementResults

/-- The level, frequency index and base station code of one neighbour. -/
def writeNcell (results : L3MeasurementResults) (i : Fin 6) : List Op :=
  [.writeField results.rxlevNcell[i] 6, .writeField results.bcchFreqNcell[i] 5,
    .writeField results.bsicNcell[i] 6]

/-- Up to six neighbour cells follow the serving cell. -/
def write (results : L3MeasurementResults) : List Op :=
  [writeFlag results.baUsed, writeFlag results.dtxUsed,
    .writeField results.rxlevFullServingCell 6, .writeField 0 1, writeFlag results.measValid,
    .writeField results.rxlevSubServingCell 6, .writeField 0 1,
    .writeField results.rxqualFullServingCell 3, .writeField results.rxqualSubServingCell 3,
    .writeField results.noNcell 3] ++
    ((List.finRange 6).take results.noNcell.toNat).flatMap results.writeNcell

@[simp] theorem endPos_write (results : L3MeasurementResults) (pos : Nat) :
    endPos pos results.write = pos + (26 + 17 * min results.noNcell.toNat 6) := by
  have counts : ∀ i pos, endPos pos (results.writeNcell i) = pos + 17 := fun _ _ => rfl
  rw [write, BitWriter.endPos_append, BitWriter.endPos_flatMap counts, List.length_take,
    List.length_finRange, ← Nat.add_assoc]
  rfl

end L3MeasurementResults

end Gsml3
