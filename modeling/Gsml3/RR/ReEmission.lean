import Gsml3.Common.IdentityOctets
import Gsml3.RR.BodyLengths
import Gsml3.RR.ElementCodecs

/-!
# Messages written again

What is parsed is written with its announced length, ends with the octets that were kept as they
are, and is parsed to the same message, except for an identity that loses a digit.
-/

namespace Gsml3

open BitWriter (Op fields endPos)
open FieldParser
open Foundation (bitString)
open Stack (ChannelType L3ChannelDescription L3MobileIdentity)

/-! ## Octets at the end -/

/-- A message that is written again comes back, behind the octets in front of its tail. -/
structure ReEmits {α : Type} (parser : FieldParser α) (write : List Op) (bodyLength : Nat)
    (tail : List UInt8) (msg : α) : Prop where
  roundTrips : RoundTrips parser write bodyLength msg
  tail : tail <:+ octetsOf write

/-- The octets kept are the end of the body. -/
theorem suffix_octetsOf {front : List Op} {tail : List UInt8} {bodyLength : Nat}
    (length : endPos 0 (front ++ writeOctets tail) = bodyLength * 8) :
    tail <:+ octetsOf (front ++ writeOctets tail) := by
  have whole : 8 ∣ endPos 0 (front ++ writeOctets tail) := ⟨bodyLength, by rw [length, Nat.mul_comm]⟩
  have front_whole : 8 ∣ endPos 0 front := by
    rw [BitWriter.endPos_append, endPos_writeOctets] at whole
    exact (Nat.dvd_add_left (Nat.dvd_mul_right 8 _)).mp whole
  have bits : bitString (octetsOf front ++ tail) = fields 0 (front ++ writeOctets tail) := by
    rw [Foundation.bitString_append, bitString_octetsOf front_whole, BitWriter.fields_append,
      fields_writeOctets]
  exact ⟨octetsOf front, bitString_injective (bits.trans (bitString_octetsOf whole).symm)⟩

/-- A parser that returns canonical values only, and reads these from what is written for them. -/
theorem reEmits_of_canonical {α : Type} {parser : FieldParser α} {write : α → List Op}
    (canonical : α → Prop) {front : List Op} {tail octets : List UInt8} {bodyLength : Nat} {msg : α}
    (returns : Ensures parser fun value _ => canonical value)
    (takes : ∀ value, canonical value → TakesAll parser (fields 0 (write value)) (some value))
    (length : endPos 0 (write msg) = bodyLength * 8) (ends : write msg = front ++ writeOctets tail)
    (parsed : parse parser octets = some msg) :
    ReEmits parser (write msg) bodyLength tail msg := by
  have length_iff : endPos 0 (write msg) = bodyLength * 8 ↔ True := iff_true_intro length
  refine ⟨(FieldParser.comesBack_iff returns takes length_iff).mpr
    ⟨trivial, parse_ensures returns parsed⟩, ?_⟩
  rw [ends] at length ⊢
  exact suffix_octetsOf length

/-! ## Paging requests by TMSI -/

/-- The channel type of a code of two bits. -/
def channelNeededType : Nat → ChannelType
  | 0 => .anyDCCHType
  | 1 => .sdcchType
  | 2 => .tchfType
  | 3 => .anyTCHType
  | _ => .anyDCCHType

/-- The channels needed and the page mode. -/
structure PagingHead where
  channelsNeeded : Vector ChannelType 2
  pageMode : L3PageMode

namespace PagingHead

/-- The channel of the second identity comes first. -/
def parse : FieldParser PagingHead := do
  let second ← readField 2
  let first ← readField 2
  let pageMode ← L3PageMode.parse
  pure { channelsNeeded := #v[channelNeededType first, channelNeededType second], pageMode }

/-- The two codes and the page mode. -/
def write (head : PagingHead) : List Op :=
  writePaging head.channelsNeeded head.pageMode

/-- The channels are those that have a code. -/
structure Canonical (head : PagingHead) : Prop where
  coded (i : Nat) (inside : i < 2) :
    channelNeededType (channelNeededCode head.channelsNeeded[i]).toNat = head.channelsNeeded[i]
  pageMode : head.pageMode.pageMode ≤ 3

theorem channelNeededCode_lt (type : ChannelType) : (channelNeededCode type).toNat < 2 ^ 2 := by
  cases type <;> decide

/-- The type of a code has that code. -/
theorem channelNeededType_code (code : Nat) :
    channelNeededType (channelNeededCode (channelNeededType code)).toNat = channelNeededType code := by
  match code with
  | 0 => rfl
  | 1 => rfl
  | 2 => rfl
  | 3 => rfl
  | _ + 4 => rfl

/-- Heads come back, and those that are read are canonical. -/
theorem codec : Codec parse write Canonical where
  takes := by
    intro head canonical pos
    have kept (type : ChannelType) :
        (channelNeededCode type).toNat % 2 ^ 2 = (channelNeededCode type).toNat :=
      Nat.mod_eq_of_lt (channelNeededCode_lt type)
    refine Takes.skipped ?_ (by simp)
    refine Takes.skipped ?_ (by simp)
    have takes := (L3PageMode.codec.takes _ canonical.pageMode (pos + 2 + 2)).yield
      fun pageMode => PagingHead.mk #v[head.channelsNeeded[0], head.channelsNeeded[1]] pageMode
    have same : #v[head.channelsNeeded[0], head.channelsNeeded[1]] = head.channelsNeeded := by
      apply Vector.ext
      intro i inside
      obtain rfl | rfl := Nat.le_one_iff_eq_zero_or_eq_one.mp (Nat.le_of_lt_succ inside)
      · rfl
      · rfl
    rw [same] at takes
    rw [kept, kept, canonical.coded 0 Nat.two_pos, canonical.coded 1 Nat.one_lt_two, same]
    exact takes
  returns := by
    refine (ensures_readField 2).bind fun second _ _ => ?_
    refine (ensures_readField 2).bind fun first _ _ => ?_
    refine L3PageMode.codec.returns.bind fun pageMode _ assigned => Ensures.pure ⟨?_, assigned⟩
    intro i inside
    obtain rfl | rfl := Nat.le_one_iff_eq_zero_or_eq_one.mp (Nat.le_of_lt_succ inside)
    · exact channelNeededType_code first
    · exact channelNeededType_code second

end PagingHead

/-- TMSIs in four octets each. -/
def readTMSIs : (count : Nat) → FieldParser (Vector UInt32 count)
  | 0 => pure #v[]
  | count + 1 => do
      let tmsis ← readTMSIs count
      let tmsi ← readUnsigned 32
      pure (tmsis.push tmsi)

/-- The TMSIs come back. -/
theorem takes_readTMSIs {count : Nat} (tmsis : Vector UInt32 count) (pos : Nat) :
    Takes (readTMSIs count) (fields pos (writeTMSIs tmsis.toList)) (some tmsis) := by
  induction count with
  | zero =>
      obtain rfl : tmsis = #v[] := Vector.eq_empty
      exact Takes.pure #v[]
  | succ count ih =>
      obtain ⟨front, last, rfl⟩ : ∃ front last, tmsis = Vector.push front last :=
        ⟨_, _, (Vector.push_pop_back tmsis).symm⟩
      rw [Vector.toList_push, writeTMSIs, List.flatMap_append]
      refine Takes.part (ih front) ?_
      refine Takes.unsigned ?_ last.toNat_lt (by simp)
      exact Takes.pure _

theorem ensures_readTMSIs (count : Nat) :
    Ensures (readTMSIs count) fun _ read => read.length = 32 * count := by
  induction count with
  | zero => exact Ensures.pure rfl
  | succ count ih =>
      refine ih.bind fun _ _ tmsis => ?_
      refine (ensures_readUnsigned 32 (by simp)).bind fun _ _ tmsi => Ensures.pure ?_
      rw [List.append_nil, List.length_append, tmsis, tmsi.2, Nat.mul_succ]

namespace L3PagingRequestType3

/-- The head, four TMSIs and what is left. -/
def parse : FieldParser L3PagingRequestType3 := do
  let head ← PagingHead.parse
  let tmsis ← readTMSIs 4
  let additionalIes ← readOpaqueTail "truncated rest octets"
  pure { tmsis, channelsNeeded := head.channelsNeeded, pageMode := head.pageMode, additionalIes }

/-- The head of the message. -/
def head (msg : L3PagingRequestType3) : PagingHead where
  channelsNeeded := msg.channelsNeeded
  pageMode := msg.pageMode

/-- Every page that is read is emitted again as it was read. -/
theorem reEmits {octets : List UInt8} {msg : L3PagingRequestType3}
    (parsed : FieldParser.parse parse octets = some msg) :
    ReEmits parse msg.write msg.bodyLength msg.additionalIes msg := by
  refine reEmits_of_canonical (fun msg => msg.head.Canonical) ?_ ?_ msg.endPos_write rfl parsed
  · refine PagingHead.codec.returns.bind fun head _ canonical => ?_
    refine (ensures_readTMSIs 4).bind fun tmsis _ _ => ?_
    exact (ensures_tail _).bind fun tail _ _ => Ensures.pure canonical
  · intro msg canonical
    rw [write, List.append_assoc]
    refine Takes.part_all (PagingHead.codec.takes msg.head canonical 0) ?_
    refine Takes.part_all (takes_readTMSIs msg.tmsis _) ?_
    exact (takesAll_writeOctets _ msg.additionalIes _).yield _

end L3PagingRequestType3

/-! ## Channel release -/

namespace L3ChannelRelease

/-- The marker in the high half of the octet. -/
def announced (peek : Nat) : Bool :=
  peek == 0x0C

/-- The resumption bit behind the half octet of its identifier. -/
def readGprsResumption : FieldParser Bool := do
  let _ ← readField 4
  let _ ← readField 3
  readFlag

/-- The resumption bit behind the half octet of its identifier. -/
def writeGprsResumption (bit : Bool) : List Op :=
  [.writeField 0x0C 4, .writeField 0 3, writeFlag bit]

/-- The cause, the resumption bit when announced, and what is left. -/
def parse : FieldParser L3ChannelRelease := do
  let cause ← readNarrow 8
  let gprsResumption ← readOptional 4 announced readGprsResumption
  let additionalIes ← readOpaqueTail "truncated rest octets"
  pure { cause, gprsResumptionPresent := gprsResumption.isSome,
         gprsResumptionBit := gprsResumption.getD false, additionalIes }

/-- Without a GPRS resumption octet, the tail does not start with its marker. -/
structure Canonical (msg : L3ChannelRelease) : Prop where
  bit : msg.gprsResumptionPresent = false → msg.gprsResumptionBit = false
  tail : msg.gprsResumptionPresent = false → Lacks 4 announced (bitString msg.additionalIes)

theorem takes_gprsResumption (bit : Bool) (pos : Nat) :
    Takes readGprsResumption (fields pos (writeGprsResumption bit)) (some bit) := by
  refine Takes.skipped ?_ (by simp)
  refine Takes.skipped ?_ (by simp)
  exact (takes_writeFlag bit _).single

/-- A canonical release comes back. -/
theorem takesAll_parse {msg : L3ChannelRelease} (canonical : msg.Canonical) :
    TakesAll parse (fields 0 msg.write) (some msg) := by
  obtain ⟨cause, present, bit, tail⟩ := msg
  have written : write ⟨cause, present, bit, tail⟩ = .writeField cause.toUInt32 8 ::
      (writePresent writeGprsResumption (if present then some bit else none) ++
        writeOctets tail) := by
    cases present with
    | true => rfl
    | false => rfl
  rw [written]
  refine TakesAll.narrow ?_ cause.toNat_lt (by simp)
  refine TakesAll.optional_reread (fun bit _ => takes_gprsResumption bit _)
    (fun bit _ => ⟨0x0C, _, rfl, rfl⟩) (fun absent => ?_) (fields_writeOctets tail _) ?_ (by simp)
  · cases present with
    | true => cases absent
    | false => exact canonical.tail rfl
  · have takes := takesAll_tail "truncated rest octets" tail
    cases present with
    | true => exact takes.yield _
    | false =>
        obtain rfl : bit = false := canonical.bit rfl
        exact takes.yield _

/-- Every release that is read is emitted again as it was read. -/
theorem reEmits {octets : List UInt8} {msg : L3ChannelRelease}
    (parsed : FieldParser.parse parse octets = some msg) :
    ReEmits parse msg.write msg.bodyLength msg.additionalIes msg := by
  refine reEmits_of_canonical Canonical ?_ (fun _ => takesAll_parse) msg.endPos_write rfl parsed
  refine (ensures_readNarrow 8 (by simp)).bind fun cause _ _ => ?_
  have element : Ensures readGprsResumption fun _ _ => True :=
    (ensures_readField 4).bind fun _ _ _ => (ensures_readField 3).bind fun _ _ _ =>
      ensures_readFlag.mono fun _ _ _ => trivial
  refine (leaves_readOptional element).bind fun found _ => ?_
  refine (leaves_tail _).bind fun tail _ => Leaves.pure fun rest left read => ?_
  obtain ⟨rfl, rfl⟩ := left
  cases found with
  | none =>
      have lacks := read.2
      rw [List.append_nil, List.append_nil] at lacks
      exact ⟨fun _ => rfl, fun _ => lacks⟩
  | some bit => exact ⟨nofun, nofun⟩

end L3ChannelRelease

/-! ## Assignment and handover -/

namespace L3AssignmentCommand

/-- The mode behind its identifier. -/
def readMode1 : FieldParser L3ChannelMode := do
  let _ ← readField 8
  L3ChannelMode.parse

/-- The mode behind its identifier. -/
def writeMode1 (mode : L3ChannelMode) : List Op :=
  .writeField 0x63 8 :: mode.write

/-- The length octet is not looked at. -/
def readMultiRate : FieldParser L3MultiRateConfiguration := do
  let _ ← readField 8
  let _ ← readField 8
  L3MultiRateConfiguration.parse

/-- Only an AMR mode has rates. -/
def readRates (mode1 : Option L3ChannelMode) : FieldParser (Option L3MultiRateConfiguration) :=
  if mode1.any (·.isAMR) then readOptional 8 (fun peek => peek &&& 0x7F == 0x03) readMultiRate
  else pure none

/-- The rates are read when the mode asks for them. -/
def parse : FieldParser L3AssignmentCommand := do
  let channel ← L3ChannelDescription.parse
  let powerCommand ← L3PowerCommand.parse
  let mode1 ← readOptional 8 (· == 0x63) readMode1
  let multiRate ← readRates mode1
  let additionalIes ← readOpaqueTail "truncated rest octets"
  pure { channel, powerCommand, haveMode1 := mode1.isSome, mode1 := mode1.getD {},
         multiRate := multiRate.getD {}, additionalIes }

/-- Without a channel mode, the tail does not start with its identifier; without AMR, there are
no other rates than the default ones. -/
structure Canonical (msg : L3AssignmentCommand) : Prop where
  channel : msg.channel.Canonical true
  powerCommand : msg.powerCommand.command.toNat < 2 ^ 5
  mode1 : msg.haveMode1 = false → msg.mode1 = {}
  options : msg.multiRate.options.toNat < 2 ^ 8
  multiRate : msg.isAMR = false → msg.multiRate = {}
  tail : msg.haveMode1 = false → Lacks 8 (· == 0x63) (bitString msg.additionalIes)

theorem takes_mode1 (mode : L3ChannelMode) (pos : Nat) :
    Takes readMode1 (fields pos (writeMode1 mode)) (some mode) := by
  refine Takes.skipped ?_ (by simp)
  exact L3ChannelMode.codec.takes mode trivial _

/-- The calls for the rates. -/
def writeRates (config : L3MultiRateConfiguration) : List Op :=
  [.writeField 0x03 8, .writeField (UInt32.ofNat L3MultiRateConfiguration.lengthV) 8] ++
    config.write

/-- A configuration of eight bits comes back. -/
theorem takes_multiRate {config : L3MultiRateConfiguration} (small : config.options.toNat < 2 ^ 8)
    (pos : Nat) : Takes readMultiRate (fields pos (writeRates config)) (some config) := by
  refine Takes.skipped ?_ (by simp)
  refine Takes.skipped ?_ (by simp)
  exact L3MultiRateConfiguration.codec.takes config small _

/-- The channel mode, if it is there. -/
def foundMode (msg : L3AssignmentCommand) : Option L3ChannelMode :=
  if msg.haveMode1 then some msg.mode1 else none

/-- The rates that are written. -/
def foundRates (msg : L3AssignmentCommand) : Option L3MultiRateConfiguration :=
  if msg.isAMR then some msg.multiRate else none

/-- The command as its elements, present or not. -/
theorem write_eq (msg : L3AssignmentCommand) :
    msg.write = msg.channel.write ++ (msg.powerCommand.write ++
      (writePresent writeMode1 msg.foundMode ++
        (writePresent writeRates msg.foundRates ++ writeOctets msg.additionalIes))) := by
  rw [write, foundMode, foundRates]
  simp only [List.append_assoc]
  cases msg.haveMode1 <;> cases msg.isAMR <;> rfl

/-- The mode that is there decides about the rates. -/
theorem any_foundMode (msg : L3AssignmentCommand) : msg.foundMode.any (·.isAMR) = msg.isAMR := by
  rw [foundMode, isAMR]
  cases msg.haveMode1 <;> rfl

theorem foundMode_eq_none (msg : L3AssignmentCommand) :
    msg.foundMode = none ↔ msg.haveMode1 = false := by
  rw [foundMode]
  cases msg.haveMode1 with
  | true => exact iff_of_false nofun nofun
  | false => exact iff_of_true rfl rfl

/-- The rates come back when the mode asks for them. -/
theorem takesAll_rates {α : Type} {next : Option L3MultiRateConfiguration → FieldParser α}
    {msg : L3AssignmentCommand} {pos : Nat} {ops : List Op} {result : Option α}
    (small : msg.multiRate.options.toNat < 2 ^ 8)
    (rest : TakesAll (next msg.foundRates)
      (fields (endPos pos (writePresent writeRates msg.foundRates)) ops) result) :
    TakesAll (readRates msg.foundMode >>= next)
      (fields pos (writePresent writeRates msg.foundRates ++ ops)) result := by
  rw [readRates, any_foundMode]
  rw [foundRates] at rest ⊢
  cases amr : msg.isAMR with
  | false =>
      rw [amr] at rest
      exact rest
  | true =>
      rw [amr] at rest
      have element : ∀ config ∈ some msg.multiRate,
          Takes readMultiRate (fields pos (writeRates config)) (some config) := by
        intro config same
        obtain rfl := Option.some.inj same
        exact takes_multiRate small pos
      exact TakesAll.optional_reread element (fun _ _ => ⟨0x03, _, rfl, rfl⟩) nofun rfl rest
        (by simp)

/-- A canonical command comes back. -/
theorem takesAll_parse {msg : L3AssignmentCommand} (canonical : msg.Canonical) :
    TakesAll parse (fields 0 msg.write) (some msg) := by
  rw [write_eq]
  refine Takes.part_all
    ((L3ChannelDescription.codec_parseFields true).takes _ canonical.channel 0) ?_
  refine Takes.part_all (L3PowerCommand.codec.takes _ canonical.powerCommand _) ?_
  refine TakesAll.optional_reread (fun mode _ => takes_mode1 mode _)
    (fun mode _ => ⟨0x63, _, rfl, rfl⟩) (fun absent => ?_) rfl ?_ (by simp)
  · have present := (foundMode_eq_none msg).mp absent
    have rates : msg.foundRates = none := by
      rw [foundRates, ← any_foundMode, absent]
      rfl
    rw [rates]
    change Lacks 8 _ (fields _ (writeOctets msg.additionalIes))
    rw [fields_writeOctets]
    exact canonical.tail present
  · rw [Option.map_id']
    refine takesAll_rates canonical.options ?_
    have mode : msg.foundMode.isSome = msg.haveMode1 ∧ msg.foundMode.getD {} = msg.mode1 := by
      rw [foundMode]
      cases present : msg.haveMode1 with
      | true => exact ⟨rfl, rfl⟩
      | false => exact ⟨rfl, (canonical.mode1 present).symm⟩
    have rates : msg.foundRates.getD {} = msg.multiRate := by
      rw [foundRates]
      cases amr : msg.isAMR with
      | true => rfl
      | false => exact (canonical.multiRate amr).symm
    rw [mode.1, mode.2, rates]
    exact (takesAll_writeOctets _ msg.additionalIes _).yield _

/-- Every command that is read is emitted again as it was read. -/
theorem reEmits {octets : List UInt8} {msg : L3AssignmentCommand}
    (parsed : FieldParser.parse parse octets = some msg) :
    ReEmits parse msg.write msg.bodyLength msg.additionalIes msg := by
  refine reEmits_of_canonical Canonical ?_ (fun _ => takesAll_parse) msg.endPos_write rfl parsed
  refine (L3ChannelDescription.codec_parseFields true).returns.bind fun channel _ carrier => ?_
  refine L3PowerCommand.codec.returns.bind fun power _ command => ?_
  have mode : Ensures readMode1 fun _ _ => True :=
    (ensures_readField 8).bind fun _ _ _ => L3ChannelMode.codec.returns
  have rates : Ensures readMultiRate fun config _ => config.options.toNat < 2 ^ 8 :=
    (ensures_readField 8).bind fun _ _ _ => (ensures_readField 8).bind fun _ _ _ =>
      L3MultiRateConfiguration.codec.returns
  refine (leaves_readOptional mode).bind fun mode1 _ => ?_
  have found : Ensures (readRates mode1) fun config read =>
      (config.getD {}).options.toNat < 2 ^ 8 ∧
        (mode1.any (·.isAMR) = false → config.getD {} = {} ∧ read = []) := by
    rw [readRates]
    split
    case isTrue amr =>
      intro before after config last run
      obtain ⟨read, rest, split, moved, holds⟩ :=
        leaves_readOptional rates before after config last run
      refine ⟨read, rest, split, moved, ?_, fun none => absurd (amr.symm.trans none) nofun⟩
      cases config with
      | none => exact Nat.two_pow_pos 8
      | some config => exact holds.1
    case isFalse => exact Ensures.pure ⟨Nat.two_pow_pos 8, fun _ => ⟨rfl, rfl⟩⟩
  refine found.leaves.bind fun config _ => ?_
  refine (leaves_tail _).bind fun tail _ => Leaves.pure fun rest left kept read => ?_
  obtain ⟨rfl, rfl⟩ := left
  obtain ⟨small, unset⟩ := kept
  cases mode1 with
  | none =>
      obtain ⟨none, rfl⟩ := unset rfl
      have lacks := read.2
      rw [List.nil_append, List.append_nil, List.append_nil] at lacks
      exact ⟨carrier, command, fun _ => rfl, small, fun _ => none, fun _ => lacks⟩
  | some mode => exact ⟨carrier, command, nofun, small, fun none => (unset none).1, nofun⟩

end L3AssignmentCommand

namespace L3HandoverCommand

/-- The five elements in the order of the message, and what is left. -/
def parse : FieldParser L3HandoverCommand := do
  let cellDescription ← L3CellDescription.parse
  let channelDescriptionAfter ← L3ChannelDescription2.parse
  let handoverReference ← L3HandoverReference.parse
  let powerCommandAccessType ← L3PowerCommandAndAccessType.parse
  let synchronizationIndication ← L3SynchronizationIndication.parse
  let additionalIes ← readOpaqueTail "truncated rest octets"
  pure { cellDescription, channelDescriptionAfter, handoverReference, powerCommandAccessType,
         synchronizationIndication, additionalIes }

/-- The elements fit their fields. -/
structure Canonical (msg : L3HandoverCommand) : Prop where
  cellDescription : msg.cellDescription.Canonical
  channelDescriptionAfter : msg.channelDescriptionAfter.Canonical false
  powerCommandAccessType : msg.powerCommandAccessType.command.toNat < 2 ^ 5
  synchronizationIndication : msg.synchronizationIndication.si.toNat < 2 ^ 2

/-- Every command that is read is emitted again as it was read. -/
theorem reEmits {octets : List UInt8} {msg : L3HandoverCommand}
    (parsed : FieldParser.parse parse octets = some msg) :
    ReEmits parse msg.write msg.bodyLength msg.additionalIes msg := by
  refine reEmits_of_canonical Canonical ?_ ?_ msg.endPos_write rfl parsed
  · refine L3CellDescription.codec.returns.bind fun cell _ described => ?_
    refine (L3ChannelDescription.codec_parseFields false).returns.bind fun channel _ carrier => ?_
    refine L3HandoverReference.codec.returns.bind fun reference _ _ => ?_
    refine L3PowerCommandAndAccessType.codec.returns.bind fun power _ command => ?_
    refine L3SynchronizationIndication.codec.returns.bind fun sync _ indication => ?_
    exact (ensures_tail _).bind fun tail _ _ =>
      Ensures.pure ⟨described, carrier, command, indication⟩
  · intro msg canonical
    rw [write]
    simp only [List.append_assoc]
    refine Takes.part_all (L3CellDescription.codec.takes _ canonical.cellDescription 0) ?_
    refine Takes.part_all ((L3ChannelDescription.codec_parseFields false).takes _
      canonical.channelDescriptionAfter _) ?_
    refine Takes.part_all (L3HandoverReference.codec.takes _ trivial _) ?_
    refine Takes.part_all (L3PowerCommandAndAccessType.codec.takes _
      canonical.powerCommandAccessType _) ?_
    refine Takes.part_all (L3SynchronizationIndication.codec.takes _
      canonical.synchronizationIndication _) ?_
    exact (takesAll_writeOctets _ msg.additionalIes _).yield _

end L3HandoverCommand

end Gsml3
