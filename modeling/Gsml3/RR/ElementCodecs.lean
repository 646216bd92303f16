import Gsml3.Core.ElementCodec
import Gsml3.RR.Elements

/-!
# Radio resource elements read back

The parsers of the elements that the radio resource messages share, and the values that each of
them returns.  A value outside the range of its field is not read back.
-/

namespace Gsml3

open BitWriter (Op fields endPos)
open FieldParser

/-- A mask of ones leaves what fits in it. -/
theorem masked_of_lt {value : UInt8} {mask : UInt32} {width : Nat}
    (ones : mask.toNat = 2 ^ width - 1) (small : value.toNat < 2 ^ width) :
    value.toUInt32 &&& mask = value.toUInt32 := by
  apply UInt32.toNat_inj.mp
  rw [UInt32.toNat_and, UInt8.toNat_toUInt32, ones, Nat.and_two_pow_sub_one_eq_mod,
    Nat.mod_eq_of_lt small]

theorem masked_octet_of_lt {value mask : UInt8} {width : Nat}
    (ones : mask.toNat = 2 ^ width - 1) (small : value.toNat < 2 ^ width) :
    value &&& mask = value := by
  apply UInt8.toNat_inj.mp
  rw [UInt8.toNat_and, ones, Nat.and_two_pow_sub_one_eq_mod, Nat.mod_eq_of_lt small]

/-! ## Modes -/

namespace L3PageMode

/-- A mode that is not assigned is refused. -/
def parse : FieldParser L3PageMode := do
  let value ← readNarrow 4
  if 3 < value then
    throw { code := .invalidValue, message := "unassigned page mode value" }
  else pure { pageMode := value &&& 0x0F }

theorem codec : Codec parse write fun mode => mode.pageMode ≤ 3 where
  takes := by
    intro mode assigned pos
    have small : mode.pageMode.toNat < 2 ^ 4 := lt_of_le_of_lt assigned (by decide)
    rw [write, @masked_of_lt _ _ 4 rfl small]
    refine Takes.narrow ?_ small (by simp)
    rw [if_neg (UInt8.not_lt.mpr assigned), @masked_octet_of_lt _ _ 4 rfl small]
    exact Takes.pure mode
  returns := by
    refine (ensures_readNarrow 4 (by simp)).bind fun value _ read => ?_
    split
    case isTrue => exact Ensures.throw _
    case isFalse assigned =>
      rw [@masked_octet_of_lt _ _ 4 rfl read.1]
      exact Ensures.pure (UInt8.not_lt.mp assigned)

end L3PageMode

namespace L3DedicatedModeOrTBF

/-- A spare bit and the three mode bits. -/
def parse : FieldParser L3DedicatedModeOrTBF := do
  let _ ← readField 1
  let tma ← readUnsigned 1
  let downlink ← readUnsigned 1
  let dmOrTBF ← readUnsigned 1
  pure { downlink, tma, dmOrTBF }

/-- The fields fit one bit each. -/
structure Canonical (mode : L3DedicatedModeOrTBF) : Prop where
  tma : mode.tma.toNat < 2 ^ 1
  downlink : mode.downlink.toNat < 2 ^ 1
  dmOrTBF : mode.dmOrTBF.toNat < 2 ^ 1

theorem codec : Codec parse write Canonical where
  takes := by
    intro mode canonical pos
    refine Takes.skipped ?_ (by simp)
    refine Takes.unsigned ?_ canonical.tma (by simp)
    refine Takes.unsigned ?_ canonical.downlink (by simp)
    refine Takes.unsigned ?_ canonical.dmOrTBF (by simp)
    exact Takes.pure mode
  returns := by
    refine (ensures_readField 1).bind fun _ _ _ => ?_
    refine (ensures_readUnsigned 1 (by simp)).bind fun tma _ first => ?_
    refine (ensures_readUnsigned 1 (by simp)).bind fun downlink _ second => ?_
    refine (ensures_readUnsigned 1 (by simp)).bind fun dmOrTBF _ third => ?_
    exact Ensures.pure ⟨first.1, second.1, third.1⟩

end L3DedicatedModeOrTBF

namespace L3ChannelMode

/-- The octet of the mode. -/
def parse : FieldParser L3ChannelMode := do
  let mode ← readNarrow 8
  pure { mode }

theorem codec : Codec parse write fun _ => True where
  takes mode _ _ := Takes.narrow (Takes.pure mode) mode.mode.toNat_lt (by simp)
  returns := (ensures_readNarrow 8 (by simp)).bind fun _ _ _ => Ensures.pure trivial

end L3ChannelMode

namespace L3MultiRateConfiguration

/-- The octet of the options and that of the codec set. -/
def parse : FieldParser L3MultiRateConfiguration := do
  let options ← readUnsigned 8
  let amrCodecSet ← readNarrow 8
  pure { options, amrCodecSet }

theorem codec : Codec parse write fun config => config.options.toNat < 2 ^ 8 where
  takes := by
    intro config small pos
    refine Takes.unsigned ?_ small (by simp)
    exact Takes.narrow (Takes.pure config) config.amrCodecSet.toNat_lt (by simp)
  returns := by
    refine (ensures_readUnsigned 8 (by simp)).bind fun options _ read => ?_
    exact (ensures_readNarrow 8 (by simp)).bind fun _ _ _ => Ensures.pure read.1

end L3MultiRateConfiguration

/-! ## Channels -/

namespace Stack.L3ChannelDescription

/-- The fields that the channel descriptions share. -/
def parseFields (initialized : Bool) : FieldParser L3ChannelDescription := do
  let typeAndOffset ← readNarrow 5
  let tn ← readNarrow 3
  let tsc ← readNarrow 3
  let hFlag ← readUnsigned 1
  if hFlag ≠ 0 then
    let maio ← readNarrow 6
    let hsn ← readNarrow 6
    pure { typeAndOffset, tn, tsc, hFlag, maio, hsn, initialized }
  else
    let arfcn ← readWord 12
    pure { typeAndOffset, tn, tsc, hFlag, arfcn, initialized }

/-- The description, with the fields that its hopping flag asks for. -/
def parse : FieldParser L3ChannelDescription :=
  parseFields true

/-- The fields are in range, and those of the other kind of carrier are not set. -/
structure Canonical (initialized : Bool) (channel : L3ChannelDescription) : Prop where
  typeAndOffset : channel.typeAndOffset.toNat < 2 ^ 5
  tn : channel.tn.toNat < 2 ^ 3
  tsc : channel.tsc.toNat < 2 ^ 3
  initialized : channel.initialized = initialized
  carriers : channel.hFlag = 0 ∧ channel.arfcn.toNat < 2 ^ 12 ∧ channel.maio = 0 ∧ channel.hsn = 0 ∨
    channel.hFlag = 1 ∧ channel.arfcn = 0 ∧ channel.maio.toNat < 2 ^ 6 ∧ channel.hsn.toNat < 2 ^ 6

theorem codec_parseFields (initialized : Bool) :
    Codec (parseFields initialized) write (Canonical initialized) where
  takes := by
    intro channel canonical pos
    obtain ⟨typeAndOffset, tn, tsc, hFlag, arfcn, maio, hsn, marked⟩ := channel
    obtain ⟨typeAndOffset_small, tn_small, tsc_small, rfl, carriers⟩ := canonical
    have hFlag_small : hFlag.toNat < 2 ^ 1 := by
      rcases carriers with ⟨rfl, _⟩ | ⟨rfl, _⟩
      · decide
      · decide
    refine Takes.narrow ?_ typeAndOffset_small (by simp)
    refine Takes.narrow ?_ tn_small (by simp)
    refine Takes.narrow ?_ tsc_small (by simp)
    refine Takes.unsigned ?_ hFlag_small (by simp)
    rcases carriers with ⟨rfl, arfcn_small, rfl, rfl⟩ | ⟨rfl, rfl, maio_small, hsn_small⟩
    · exact Takes.word (Takes.pure _) arfcn_small (by simp)
    · exact Takes.narrow (Takes.narrow (Takes.pure _) hsn_small (by simp)) maio_small (by simp)
  returns := by
    refine (ensures_readNarrow 5 (by simp)).bind fun typeAndOffset _ first => ?_
    refine (ensures_readNarrow 3 (by simp)).bind fun tn _ second => ?_
    refine (ensures_readNarrow 3 (by simp)).bind fun tsc _ third => ?_
    refine (ensures_readUnsigned 1 (by simp)).bind fun hFlag _ fourth => ?_
    have flag : hFlag = 0 ∨ hFlag = 1 := by
      have small : hFlag.toNat < 2 := fourth.1
      rcases Nat.lt_succ_iff_lt_or_eq.mp small with zero | one
      · exact .inl (UInt32.toNat_inj.mp (Nat.lt_one_iff.mp zero))
      · exact .inr (UInt32.toNat_inj.mp one)
    rcases flag with rfl | rfl
    · refine (ensures_readWord 12 (by simp)).bind fun arfcn _ read => Ensures.pure ?_
      exact ⟨first.1, second.1, third.1, rfl, .inl ⟨rfl, read.1, rfl, rfl⟩⟩
    · refine (ensures_readNarrow 6 (by simp)).bind fun maio _ maio_read => ?_
      refine (ensures_readNarrow 6 (by simp)).bind fun hsn _ hsn_read => Ensures.pure ?_
      exact ⟨first.1, second.1, third.1, rfl, .inr ⟨rfl, rfl, maio_read.1, hsn_read.1⟩⟩

end Stack.L3ChannelDescription

/-- The one with `initialized` follows from the fields. -/
def L3ChannelDescription2.parse : FieldParser L3ChannelDescription2 :=
  Stack.L3ChannelDescription.parseFields false

/-- The parser of the first channel description. -/
def L3AdditionalChannelDescription.parse : FieldParser L3AdditionalChannelDescription :=
  Stack.L3ChannelDescription.parseFields true

/-! ## Power, timing and handover -/

namespace L3PowerCommand

/-- Reserved bits that are set are refused. -/
def parse : FieldParser L3PowerCommand := do
  let reserved ← readField 3
  if reserved ≠ 0 then
    throw { code := .invalidValue, message := "power command reserved bits set" }
  else
    let command ← readNarrow 5
    pure { command := command &&& 0x1F }

theorem codec : Codec parse write fun power => power.command.toNat < 2 ^ 5 where
  takes := by
    intro power small pos
    rw [write, @masked_of_lt _ _ 5 rfl small]
    refine Takes.skipped ?_ (by simp)
    rw [if_neg (by decide)]
    refine Takes.narrow ?_ small (by simp)
    rw [@masked_octet_of_lt _ _ 5 rfl small]
    exact Takes.pure power
  returns := by
    refine (ensures_readField 3).bind fun reserved _ _ => ?_
    split
    case isTrue => exact Ensures.throw _
    case isFalse =>
      refine (ensures_readNarrow 5 (by simp)).bind fun command _ read => ?_
      rw [@masked_octet_of_lt _ _ 5 rfl read.1]
      exact Ensures.pure read.1

end L3PowerCommand

namespace L3PowerCommandAndAccessType

/-- The three flags and the level. -/
def parse : FieldParser L3PowerCommandAndAccessType := do
  let aTC ← readFlag
  let ePcMode ← readFlag
  let fPcEp ← readFlag
  let command ← readNarrow 5
  pure { command, aTC, ePcMode, fPcEp }

theorem codec : Codec parse write fun power => power.command.toNat < 2 ^ 5 where
  takes := by
    intro power small pos
    rw [write, @masked_of_lt _ _ 5 rfl small]
    refine Takes.flag ?_
    refine Takes.flag ?_
    refine Takes.flag ?_
    exact Takes.narrow (Takes.pure power) small (by simp)
  returns := by
    refine ensures_readFlag.bind fun aTC _ _ => ?_
    refine ensures_readFlag.bind fun ePcMode _ _ => ?_
    refine ensures_readFlag.bind fun fPcEp _ _ => ?_
    exact (ensures_readNarrow 5 (by simp)).bind fun command _ read => Ensures.pure read.1

end L3PowerCommandAndAccessType

namespace L3TimingAdvance

/-- An advance above 219 is refused. -/
def parse : FieldParser L3TimingAdvance := do
  let value ← readNarrow 8
  if 219 < value then
    throw { code := .invalidValue, message := "timing advance out of range" }
  else pure { timingAdvance := value }

theorem codec : Codec parse write fun timing => timing.timingAdvance ≤ 219 where
  takes := by
    intro timing inRange pos
    refine Takes.narrow ?_ timing.timingAdvance.toNat_lt (by simp)
    rw [if_neg (UInt8.not_lt.mpr inRange)]
    exact Takes.pure timing
  returns := by
    refine (ensures_readNarrow 8 (by simp)).bind fun value _ _ => ?_
    split
    case isTrue => exact Ensures.throw _
    case isFalse inRange => exact Ensures.pure (UInt8.not_lt.mp inRange)

end L3TimingAdvance

namespace L3RequestReference

/-- The access octet, then the frame number. -/
def parse : FieldParser L3RequestReference := do
  let ra ← readNarrow 8
  let t1p ← readNarrow 5
  let t3 ← readNarrow 6
  let t2 ← readNarrow 5
  pure { ra, t1p, t2, t3 }

/-- The parts of the frame number fit their fields. -/
structure Canonical (reference : L3RequestReference) : Prop where
  t1p : reference.t1p.toNat < 2 ^ 5
  t3 : reference.t3.toNat < 2 ^ 6
  t2 : reference.t2.toNat < 2 ^ 5

theorem codec : Codec parse write Canonical where
  takes := by
    intro reference canonical pos
    refine Takes.narrow ?_ reference.ra.toNat_lt (by simp)
    refine Takes.narrow ?_ canonical.t1p (by simp)
    refine Takes.narrow ?_ canonical.t3 (by simp)
    exact Takes.narrow (Takes.pure reference) canonical.t2 (by simp)
  returns := by
    refine (ensures_readNarrow 8 (by simp)).bind fun ra _ _ => ?_
    refine (ensures_readNarrow 5 (by simp)).bind fun t1p _ first => ?_
    refine (ensures_readNarrow 6 (by simp)).bind fun t3 _ second => ?_
    exact (ensures_readNarrow 5 (by simp)).bind fun t2 _ third =>
      Ensures.pure ⟨first.1, second.1, third.1⟩

end L3RequestReference

namespace L3CellDescription

/-- The frequency is put together from its two parts. -/
def parse : FieldParser L3CellDescription := do
  let arfcnHigh ← readWord 2
  let ncc ← readNarrow 3
  let bcc ← readNarrow 3
  let arfcnLow ← readWord 8
  pure { arfcn := arfcnHigh <<< 8 ||| arfcnLow, ncc, bcc }

/-- Frequency and colour codes fit their fields. -/
structure Canonical (cell : L3CellDescription) : Prop where
  arfcn : cell.arfcn.toNat < 2 ^ 10
  ncc : cell.ncc.toNat < 2 ^ 3
  bcc : cell.bcc.toNat < 2 ^ 3

theorem arfcn_toNat {high low : UInt16} (high_small : high.toNat < 2 ^ 2)
    (low_small : low.toNat < 2 ^ 8) :
    (high <<< 8 ||| low).toNat = high.toNat * 2 ^ 8 + low.toNat := by
  have shifted : (high <<< 8).toNat = high.toNat <<< 8 % 2 ^ 16 := UInt16.toNat_shiftLeft high 8
  rw [UInt16.toNat_or, shifted, Nat.mod_eq_of_lt (by rw [Nat.shiftLeft_eq]; omega),
    ← Nat.shiftLeft_add_eq_or_of_lt low_small, Nat.shiftLeft_eq]

theorem codec : Codec parse write Canonical where
  takes := by
    intro cell canonical pos
    have high : (cell.arfcn >>> 8).toNat = cell.arfcn.toNat / 2 ^ 8 := by
      have shifted : (cell.arfcn >>> 8).toNat = cell.arfcn.toNat >>> 8 :=
        UInt16.toNat_shiftRight cell.arfcn 8
      rw [shifted, Nat.shiftRight_eq_div_pow]
    have low : (cell.arfcn &&& 0xFF).toNat = cell.arfcn.toNat % 2 ^ 8 := by
      rw [UInt16.toNat_and]
      exact Nat.and_two_pow_sub_one_eq_mod cell.arfcn.toNat 8
    have arfcn_small := canonical.arfcn
    have high_small : (cell.arfcn >>> 8).toNat < 2 ^ 2 := by omega
    have low_small : (cell.arfcn &&& 0xFF).toNat < 2 ^ 8 := by omega
    have written : cell.write = [.writeField (cell.arfcn >>> 8).toUInt32 2,
        .writeField cell.ncc.toUInt32 3, .writeField cell.bcc.toUInt32 3,
        .writeField (cell.arfcn &&& 0xFF).toUInt32 8] := by
      rw [write, UInt16.toUInt32_and, UInt16.toUInt32_shiftRight]
      rfl
    rw [written]
    refine Takes.word ?_ high_small (by simp)
    refine Takes.narrow ?_ canonical.ncc (by simp)
    refine Takes.narrow ?_ canonical.bcc (by simp)
    refine Takes.word ?_ low_small (by simp)
    have joined : cell.arfcn >>> 8 <<< 8 ||| cell.arfcn &&& 0xFF = cell.arfcn := by
      apply UInt16.toNat_inj.mp
      rw [arfcn_toNat high_small low_small, high, low, Nat.div_add_mod']
    rw [joined]
    exact Takes.pure cell
  returns := by
    refine (ensures_readWord 2 (by simp)).bind fun arfcnHigh _ first => ?_
    refine (ensures_readNarrow 3 (by simp)).bind fun ncc _ second => ?_
    refine (ensures_readNarrow 3 (by simp)).bind fun bcc _ third => ?_
    refine (ensures_readWord 8 (by simp)).bind fun arfcnLow _ fourth => Ensures.pure ⟨?_, second.1, third.1⟩
    rw [arfcn_toNat first.1 fourth.1]
    have := first.1
    have := fourth.1
    omega

end L3CellDescription

namespace L3HandoverReference

/-- The octet of the reference. -/
def parse : FieldParser L3HandoverReference := do
  let value ← readNarrow 8
  pure { value }

theorem codec : Codec parse write fun _ => True where
  takes reference _ _ := Takes.narrow (Takes.pure reference) reference.value.toNat_lt (by simp)
  returns := (ensures_readNarrow 8 (by simp)).bind fun _ _ _ => Ensures.pure trivial

end L3HandoverReference

namespace L3SynchronizationIndication

/-- The identifier is skipped; the two flags and the indication follow. -/
def parse : FieldParser L3SynchronizationIndication := do
  let _ ← readField 4
  let nci ← readFlag
  let rot ← readFlag
  let si ← readUnsigned 2
  pure { nci, rot, si }

theorem codec : Codec parse write fun sync => sync.si.toNat < 2 ^ 2 where
  takes := by
    intro sync small pos
    have masked : sync.si &&& 3 = sync.si := by
      apply UInt32.toNat_inj.mp
      rw [UInt32.toNat_and]
      exact (Nat.and_two_pow_sub_one_eq_mod sync.si.toNat 2).trans (Nat.mod_eq_of_lt small)
    rw [write, masked]
    refine Takes.skipped ?_ (by simp)
    refine Takes.flag ?_
    refine Takes.flag ?_
    exact Takes.unsigned (Takes.pure sync) small (by simp)
  returns := by
    refine (ensures_readField 4).bind fun _ _ _ => ?_
    refine ensures_readFlag.bind fun nci _ _ => ?_
    refine ensures_readFlag.bind fun rot _ _ => ?_
    exact (ensures_readUnsigned 2 (by simp)).bind fun si _ read => Ensures.pure read.1

end L3SynchronizationIndication

/-! ## Octets behind their number -/

/-- Octets behind an octet with their number. -/
def readCounted : FieldParser (List UInt8) := do
  let count ← readNarrow 8
  readOctets count.toNat

theorem takes_writeOctets (octets : List UInt8) (pos : Nat) :
    Takes (readOctets octets.length) (fields pos (writeOctets octets)) (some octets) := by
  rw [fields_writeOctets]
  exact takes_readOctets octets

theorem takesAll_writeOctets (message : String) (tail : List UInt8) (pos : Nat) :
    TakesAll (readOpaqueTail message) (fields pos (writeOctets tail)) (some tail) := by
  rw [fields_writeOctets]
  exact takesAll_tail message tail

/-- They are behind an octet with their number modulo 256. -/
theorem codec_readCounted :
    Codec readCounted
      (fun octets => .writeField (UInt32.ofNat octets.length) 8 :: writeOctets octets)
      fun octets => octets.length < 256 where
  takes := by
    intro octets small pos
    have count : UInt32.ofNat octets.length = (UInt8.ofNat octets.length).toUInt32 := by
      apply UInt32.toNat_inj.mp
      rw [UInt8.toNat_toUInt32, UInt8.toNat_ofNat_of_lt' small,
        UInt32.toNat_ofNat_of_lt' (small.trans (by decide))]
    rw [count]
    refine Takes.narrow ?_ (UInt8.toNat_lt _) (by simp)
    rw [UInt8.toNat_ofNat_of_lt' small]
    exact takes_writeOctets octets _
  returns := by
    refine (ensures_readNarrow 8 (by simp)).bind fun count _ _ => ?_
    refine (ensures_readOctets count.toNat).mono fun octets _ read => ?_
    rw [read.1]
    exact count.toNat_lt

end Gsml3
