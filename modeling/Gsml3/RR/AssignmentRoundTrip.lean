import Gsml3.RR.BodyLengths
import Gsml3.RR.ElementCodecs
import Gsml3.Foundation.PackedFields

/-!
# Assignments read back

Immediate assignments and configuration changes are parsed from the octets written for them.
Values in the range of their fields come back; the announced length is that of the octets only
without a mobile allocation, and without a channel in a configuration change.
-/

namespace Gsml3

open BitWriter (Op fields endPos)
open FieldParser
open Foundation (bitString bitValue valueBits bitValue_valueBits valueBits_length startingTime_decoded startingTime_fits toUInt8_packed)
open Stack (L3ChannelDescription)

/-! ## Starting time -/

namespace StartTime

/-- The identifier is skipped; the frame number is put together from two octets. -/
def parse : FieldParser StartTime := do
  let _ ← readField 8
  let o0 ← readNarrow 8
  let o1 ← readNarrow 8
  pure { t1 := o0 >>> 3, t3 := (o0 &&& 0x07) <<< 3 ||| o1 >>> 5, t2 := o1 &&& 0x1F }

/-- The identifier of the element. -/
def announced (peek : Nat) : Bool :=
  peek == 0x7c

/-- The parts of the frame number fit their fields. -/
structure Canonical (time : StartTime) : Prop where
  t1 : time.t1.toNat < 2 ^ 5
  t3 : time.t3.toNat < 2 ^ 6
  t2 : time.t2.toNat < 2 ^ 5

/-- Starting times come back, and those that are read are canonical. -/
theorem codec : Codec parse write Canonical where
  takes := by
    intro time canonical pos
    have high : ((time.t1.toUInt32 <<< 3 ||| time.t3.toUInt32 >>> 3)).toUInt8 =
        time.t1 <<< 3 ||| time.t3 >>> 3 := toUInt8_packed time.t1 time.t3
    have low : ((time.t3.toUInt32 &&& 0x07) <<< 5 ||| time.t2.toUInt32).toUInt8 =
        (time.t3 &&& 0x07) <<< 5 ||| time.t2 := by
      rw [UInt32.toUInt8_or, UInt32.toUInt8_shiftLeft _ _ (by decide), UInt32.toUInt8_and,
        UInt8.toUInt8_toUInt32, UInt8.toUInt8_toUInt32]
      rfl
    obtain ⟨first, second, third⟩ :=
      startingTime_decoded canonical.t1 canonical.t3 canonical.t2 high low
    refine Takes.skipped ?_ (by simp)
    refine Takes.octetField ?_
    refine Takes.octetField ?_
    rw [first, second, third]
    exact Takes.pure time
  returns := by
    refine (ensures_readField 8).bind fun _ _ _ => ?_
    refine (ensures_readNarrow 8 (by simp)).bind fun o0 _ _ => ?_
    refine (ensures_readNarrow 8 (by simp)).bind fun o1 _ _ => Ensures.pure ?_
    obtain ⟨t1, t3, t2⟩ := startingTime_fits o0 o1
    exact ⟨t1, t3, t2⟩

theorem isSome_eq_false {found : Option StartTime} : found.isSome = false ↔ found = none := by
  rw [Option.isSome_eq_false_iff, Option.isNone_iff_eq_none]

theorem canonical_getD {found : Option StartTime} (canonical : ∀ time ∈ found, time.Canonical) :
    (found.getD {}).Canonical := by
  cases found with
  | none => exact ⟨Nat.two_pow_pos 5, Nat.two_pow_pos 6, Nat.two_pow_pos 5⟩
  | some time => exact canonical time rfl

/-- Octets announce a starting time when the first is its identifier. -/
theorem lacks_octets_iff (octets : List UInt8) :
    Lacks 8 announced (bitString octets) ↔ ∀ octet ∈ octets.head?, octet ≠ 0x7c := by
  rw [FieldParser.lacks_octets_iff]
  refine forall₂_congr fun octet _ => ?_
  rw [announced, beq_eq_false_iff_ne]
  exact not_congr (@UInt8.toNat_inj octet 0x7c)

/-- A starting time starts with its identifier. -/
theorem announced_write (time : StartTime) :
    ∃ code rest, time.write = .writeField code 8 :: rest ∧
      announced (code.toNat % 2 ^ 8) = true :=
  ⟨0x7c, _, rfl, rfl⟩

end StartTime

/-! ## Additional channel -/

namespace Stack.L3ChannelDescription

/-- The first octet on the wire. -/
def firstOctet (channel : L3ChannelDescription) : Nat :=
  channel.typeAndOffset.toNat * 2 ^ 3 + channel.tn.toNat

/-- The octet that a channel description starts with. -/
theorem peeked_write {channel : L3ChannelDescription} {initialized : Bool}
    (canonical : channel.Canonical initialized) (pos : Nat) :
    peeked 8 (fields pos channel.write) = channel.firstOctet := by
  have bits : ∃ later, fields pos channel.write =
      valueBits 5 channel.typeAndOffset.toNat ++ valueBits 3 channel.tn.toNat ++ later :=
    ⟨_, rfl⟩
  obtain ⟨later, bits⟩ := bits
  rw [bits, peeked_fields rfl, bitValue_valueBits, bitValue_valueBits,
    Nat.mod_eq_of_lt canonical.typeAndOffset, Nat.mod_eq_of_lt canonical.tn, valueBits_length,
    firstOctet]

/-- A channel description with another first octet announces no starting time. -/
theorem lacks_write {channel : L3ChannelDescription} {initialized : Bool}
    (canonical : channel.Canonical initialized) (unlike : channel.firstOctet ≠ 0x7c) (pos : Nat) :
    Lacks 8 StartTime.announced (fields pos channel.write) := by
  intro _
  rw [peeked_write canonical]
  exact beq_eq_false_iff_ne.mpr unlike

theorem ensures_firstOctet (initialized : Bool) :
    Ensures (parseFields initialized) fun channel read =>
      ∀ more, peeked 8 (read ++ more) = channel.firstOctet := by
  refine (ensures_narrowBits 5 (by simp)).bind fun typeAndOffset high first => ?_
  refine (ensures_narrowBits 3 (by simp)).bind fun tn low second => ?_
  have octet (more : List Bool) :
      peeked 8 (high ++ (low ++ more)) = typeAndOffset.toNat * 2 ^ 3 + tn.toNat := by
    have whole : high.length + low.length = 8 := by rw [first.1, second.1]
    rw [← List.append_assoc, peeked_fields whole, first.2, second.1, second.2]
  refine (ensures_readNarrow 3 (by simp)).bind fun tsc _ _ => ?_
  refine (ensures_readUnsigned 1 (by simp)).bind fun hFlag _ _ => ?_
  split
  · refine (ensures_readNarrow 6 (by simp)).bind fun maio _ _ => ?_
    refine (ensures_readNarrow 6 (by simp)).bind fun hsn _ _ => Ensures.pure fun more => ?_
    simp only [List.append_assoc]
    exact octet _
  · refine (ensures_readWord 12 (by simp)).bind fun arfcn _ _ => Ensures.pure fun more => ?_
    simp only [List.append_assoc]
    exact octet _

end Stack.L3ChannelDescription

/-! ## Immediate assignments -/

namespace ImmediateAssignmentFields

/-- The starting time, if it is there. -/
def foundStartTime (msg : ImmediateAssignmentFields) : Option StartTime :=
  if msg.startTimePresent then some msg.startTime else none

/-- The fields are in range, and a starting time that is not there is not set. -/
structure Canonical (msg : ImmediateAssignmentFields) : Prop where
  pageMode : msg.pageMode.pageMode ≤ 3
  dedicatedModeOrTBF : msg.dedicatedModeOrTBF.Canonical
  requestReference : msg.requestReference.Canonical
  channelDescription : msg.channelDescription.Canonical true
  timingAdvance : msg.timingAdvance.timingAdvance ≤ 219
  mobileAllocation : msg.mobileAllocation.length < 256
  startTime : msg.startTime.Canonical
  noStartTime : msg.startTimePresent = false → msg.startTime = {}

variable {msg : ImmediateAssignmentFields}

/-- The mobile allocation behind its length, then the starting time. -/
theorem writeRest_eq (msg : ImmediateAssignmentFields) :
    msg.writeRest =
      (.writeField (UInt32.ofNat msg.mobileAllocation.length) 8 ::
        writeOctets msg.mobileAllocation) ++ writePresent StartTime.write msg.foundStartTime := by
  rw [writeRest, foundStartTime]
  cases msg.startTimePresent with
  | true => rfl
  | false => rfl

theorem Canonical.foundStartTime (canonical : msg.Canonical) :
    msg.foundStartTime.isSome = msg.startTimePresent ∧
      msg.foundStartTime.getD {} = msg.startTime := by
  rw [ImmediateAssignmentFields.foundStartTime]
  cases present : msg.startTimePresent with
  | true => exact ⟨rfl, rfl⟩
  | false => exact ⟨rfl, (canonical.noStartTime present).symm⟩

theorem foundStartTime_eq_none (msg : ImmediateAssignmentFields) :
    msg.foundStartTime = none ↔ msg.startTimePresent = false := by
  rw [foundStartTime]
  cases msg.startTimePresent with
  | true => exact iff_of_false nofun nofun
  | false => exact iff_of_true rfl rfl

/-- The mobile allocation and the starting time are read in front of what follows them. -/
theorem Canonical.takesAll_rest {α : Type} {next : List UInt8 → Option StartTime → FieldParser α}
    (canonical : msg.Canonical) {pos : Nat} {ops : List Op} {bits : List Bool} {result : Option α}
    (following : fields (endPos pos msg.writeRest) ops = bits)
    (lacks : msg.startTimePresent = false → Lacks 8 StartTime.announced bits)
    (rest : TakesAll (next msg.mobileAllocation msg.foundStartTime) bits result) :
    TakesAll (do
      let mobileAllocation ← readCounted
      let startTime ← readOptional 8 StartTime.announced StartTime.parse
      next mobileAllocation startTime) (fields pos (msg.writeRest ++ ops)) result := by
  rw [writeRest_eq, BitWriter.endPos_append] at following
  rw [writeRest_eq, List.append_assoc]
  refine Takes.part_all (codec_readCounted.takes _ canonical.mobileAllocation pos) ?_
  refine TakesAll.optional StartTime.codec (fun time _ => time.announced_write) ?_ ?_
    following rest
  · intro time found
    rw [ImmediateAssignmentFields.foundStartTime] at found
    split at found
    · exact Option.some.inj found ▸ canonical.startTime
    · cases found
  · exact fun absent => lacks ((foundStartTime_eq_none msg).mp absent)

theorem writeRest_ne_nil (msg : ImmediateAssignmentFields) (pos : Nat) (ops : List Op) :
    fields pos (msg.writeRest ++ ops) ≠ [] :=
  List.cons_ne_nil _ _

/-- A starting time that is read is canonical, and what follows a missing one does not announce
it. -/
theorem returns_startTime {α : Type} {next : Option StartTime → FieldParser α} {post : α → Prop}
    (later : ∀ startTime, Leaves (next startTime) fun value read rest =>
      (∀ time ∈ startTime, time.Canonical) →
        (startTime = none → Lacks 8 StartTime.announced (read ++ rest)) → post value) :
    Ensures (readOptional 8 StartTime.announced StartTime.parse >>= next)
      fun value _ => post value := by
  refine (leaves_readOptional StartTime.codec.returns).bind fun startTime _ => ?_
  refine (later startTime).mono fun value more rest holds read => ?_
  cases startTime with
  | none => exact holds nofun fun _ => read.2
  | some time =>
      refine holds (fun found same => ?_) nofun
      exact Option.some.inj same ▸ read.1

end ImmediateAssignmentFields

/-! ## The immediate assignment -/

namespace L3ImmediateAssignment

/-- The mandatory elements, the mobile allocation, the starting time and what is left. -/
def parse : FieldParser L3ImmediateAssignment := do
  let dedicatedModeOrTBF ← L3DedicatedModeOrTBF.parse
  let pageMode ← L3PageMode.parse
  let channelDescription ← L3ChannelDescription.parse
  let requestReference ← L3RequestReference.parse
  let timingAdvance ← L3TimingAdvance.parse
  if ← hasMore then
    let mobileAllocation ← readCounted
    let startTime ← readOptional 8 StartTime.announced StartTime.parse
    let additionalIes ← readOpaqueTail "truncated rest octets"
    pure { pageMode, dedicatedModeOrTBF, requestReference, channelDescription, timingAdvance,
           mobileAllocation, startTimePresent := startTime.isSome,
           startTime := startTime.getD {}, additionalIes }
  else throw { code := .invalidValue, message := "missing mobile allocation" }

/-- Without a starting time, the tail does not start with its identifier. -/
structure Canonical (msg : L3ImmediateAssignment) : Prop where
  shared : msg.toImmediateAssignmentFields.Canonical
  tail : msg.startTimePresent = false → ∀ octet ∈ msg.additionalIes.head?, octet ≠ 0x7c

/-- A canonical assignment comes back. -/
theorem takesAll_parse {msg : L3ImmediateAssignment} (canonical : msg.Canonical) :
    TakesAll parse (fields 0 msg.write) (some msg) := by
  obtain ⟨shared, tail⟩ := canonical
  rw [write]
  simp only [List.append_assoc]
  refine Takes.part_all (L3DedicatedModeOrTBF.codec.takes _ shared.dedicatedModeOrTBF _) ?_
  refine Takes.part_all (L3PageMode.codec.takes _ shared.pageMode _) ?_
  refine Takes.part_all
    ((L3ChannelDescription.codec_parseFields true).takes _ shared.channelDescription _) ?_
  refine Takes.part_all (L3RequestReference.codec.takes _ shared.requestReference _) ?_
  refine Takes.part_all (L3TimingAdvance.codec.takes _ shared.timingAdvance _) ?_
  refine TakesAll.unfinished (msg.writeRest_ne_nil _ _) ?_
  refine shared.takesAll_rest (fields_writeOctets msg.additionalIes _) ?_ ?_
  · exact fun absent => (StartTime.lacks_octets_iff _).mpr (tail absent)
  · have takes := (takesAll_tail "truncated rest octets" msg.additionalIes)
    obtain ⟨present, startTime⟩ := shared.foundStartTime
    rw [present, startTime]
    exact takes.yield _

/-- An assignment that is read is canonical. -/
theorem returns_parse : Ensures parse fun msg _ => msg.Canonical := by
  refine L3DedicatedModeOrTBF.codec.returns.bind fun dedicatedModeOrTBF _ mode => ?_
  refine L3PageMode.codec.returns.bind fun pageMode _ page => ?_
  refine (L3ChannelDescription.codec_parseFields true).returns.bind fun channel _ carrier => ?_
  refine L3RequestReference.codec.returns.bind fun reference _ request => ?_
  refine L3TimingAdvance.codec.returns.bind fun timing _ advance => ?_
  refine ensures_hasMore.bind fun more _ _ => ?_
  cases more with
  | false => exact Ensures.throw _
  | true =>
      refine codec_readCounted.returns.bind fun allocation _ counted => ?_
      refine ImmediateAssignmentFields.returns_startTime fun startTime => ?_
      refine (leaves_tail _).bind fun tail _ => Leaves.pure fun rest left found lacks => ?_
      rw [List.nil_append] at left
      obtain ⟨rfl, rfl⟩ := left
      refine ⟨⟨page, mode, request, carrier, advance, counted, ?_, ?_⟩, ?_⟩
      · exact StartTime.canonical_getD found
      · intro absent
        rw [StartTime.isSome_eq_false.mp absent]
        rfl
      · intro absent
        have rest := lacks (StartTime.isSome_eq_false.mp absent)
        rw [List.append_nil, List.append_nil] at rest
        exact (StartTime.lacks_octets_iff tail).mp rest

/-- An assignment comes back exactly when it is canonical and has no mobile allocation. -/
theorem comesBack_iff (msg : L3ImmediateAssignment) :
    RoundTrips parse msg.write msg.bodyLength msg ↔
      msg.mobileAllocation = [] ∧ msg.Canonical :=
  FieldParser.comesBack_iff returns_parse (fun _ => takesAll_parse) msg.endPos_write

end L3ImmediateAssignment

/-! ## The extended immediate assignment -/

namespace L3ImmediateAssignmentExtended

/-- The mandatory elements, the second channel and what is announced behind them. -/
def parse : FieldParser L3ImmediateAssignmentExtended := do
  let dedicatedModeOrTBF ← L3DedicatedModeOrTBF.parse
  let pageMode ← L3PageMode.parse
  let requestReference ← L3RequestReference.parse
  let channelDescription ← L3ChannelDescription.parse
  let timingAdvance ← L3TimingAdvance.parse
  let mobileAllocation ← readIfMore readCounted
  let startTime ← readOptional 8 StartTime.announced StartTime.parse
  let additionalChannel ← readIfMore L3AdditionalChannelDescription.parse
  pure { pageMode, dedicatedModeOrTBF, requestReference, channelDescription, timingAdvance,
         mobileAllocation := mobileAllocation.getD [], startTimePresent := startTime.isSome,
         startTime := startTime.getD {}, haveAdditionalChannel := additionalChannel.isSome,
         additionalChannel := additionalChannel.getD {} }

/-- Without a starting time, an additional channel does not look like one. -/
structure Canonical (msg : L3ImmediateAssignmentExtended) : Prop where
  shared : msg.toImmediateAssignmentFields.Canonical
  additionalChannel : msg.haveAdditionalChannel = true → msg.additionalChannel.Canonical true
  noAdditionalChannel : msg.haveAdditionalChannel = false → msg.additionalChannel = {}
  unlike : msg.startTimePresent = false → msg.haveAdditionalChannel = true →
    msg.additionalChannel.firstOctet ≠ 0x7c

/-- A canonical assignment comes back. -/
theorem takesAll_parse {msg : L3ImmediateAssignmentExtended} (canonical : msg.Canonical) :
    TakesAll parse (fields 0 msg.write) (some msg) := by
  obtain ⟨msg, haveAdditionalChannel, additionalChannel⟩ := msg
  obtain ⟨shared, additional, noAdditional, unlike⟩ := canonical
  rw [write]
  simp only [List.append_assoc]
  refine Takes.part_all (L3DedicatedModeOrTBF.codec.takes _ shared.dedicatedModeOrTBF _) ?_
  refine Takes.part_all (L3PageMode.codec.takes _ shared.pageMode _) ?_
  refine Takes.part_all (L3RequestReference.codec.takes _ shared.requestReference _) ?_
  refine Takes.part_all
    ((L3ChannelDescription.codec_parseFields true).takes _ shared.channelDescription _) ?_
  refine Takes.part_all (L3TimingAdvance.codec.takes _ shared.timingAdvance _) ?_
  refine TakesAll.ifMore (msg.writeRest_ne_nil _ _) ?_
  obtain ⟨present, startTime⟩ := shared.foundStartTime
  cases haveAdditionalChannel with
  | true =>
      have channel := additional rfl
      refine shared.takesAll_rest rfl ?_ ?_
      · exact fun absent => L3ChannelDescription.lacks_write channel (unlike absent rfl) _
      · rw [present, startTime]
        have takes := (L3ChannelDescription.codec_parseFields true).takes _ channel
        exact (Takes.ifMore (List.cons_ne_nil _ _) (takes _)).all.yield _
  | false =>
      obtain rfl := noAdditional rfl
      refine shared.takesAll_rest rfl (fun _ left => absurd rfl left) ?_
      rw [present, startTime]
      exact TakesAll.ifMore_none (Takes.pure _).all

/-- An assignment that is read is canonical. -/
theorem returns_parse : Ensures parse fun msg _ => msg.Canonical := by
  refine L3DedicatedModeOrTBF.codec.returns.bind fun dedicatedModeOrTBF _ mode => ?_
  refine L3PageMode.codec.returns.bind fun pageMode _ page => ?_
  refine L3RequestReference.codec.returns.bind fun reference _ request => ?_
  refine (L3ChannelDescription.codec_parseFields true).returns.bind fun channel _ carrier => ?_
  refine L3TimingAdvance.codec.returns.bind fun timing _ advance => ?_
  refine (ensures_ifMore codec_readCounted.returns).bind fun allocation _ counted => ?_
  refine ImmediateAssignmentFields.returns_startTime fun startTime => ?_
  have additional := (L3ChannelDescription.codec_parseFields true).returns.and
    (L3ChannelDescription.ensures_firstOctet true)
  refine (ensures_ifMore additional).leaves.bind fun found read => ?_
  refine Leaves.pure fun rest holds times lacks => ?_
  refine ⟨⟨page, mode, request, carrier, advance, ?_, ?_, ?_⟩, ?_, ?_, ?_⟩
  · cases allocation with
    | none => exact Nat.two_pow_pos 8
    | some octets => exact counted octets rfl
  · exact StartTime.canonical_getD times
  · intro absent
    rw [StartTime.isSome_eq_false.mp absent]
    rfl
  · intro present
    obtain ⟨extra, rfl⟩ := Option.isSome_iff_exists.mp present
    exact (holds extra rfl).1
  · intro absent
    rw [Option.isSome_eq_false_iff, Option.isNone_iff_eq_none] at absent
    exact congrArg (·.getD {}) absent
  · intro absent present
    obtain ⟨extra, rfl⟩ := Option.isSome_iff_exists.mp present
    obtain ⟨_, octet⟩ := holds extra rfl
    have unannounced := lacks (StartTime.isSome_eq_false.mp absent)
    rw [List.append_assoc] at unannounced
    rintro (code : extra.firstOctet = 0x7c)
    by_cases left : read ++ ([] ++ rest) = []
    · have zero := octet ([] ++ rest)
      rw [left, code] at zero
      exact absurd zero (by decide)
    · have peek := unannounced left
      rw [octet, code] at peek
      exact absurd peek (by decide)

/-- An assignment comes back exactly when it is canonical and has no mobile allocation. -/
theorem comesBack_iff (msg : L3ImmediateAssignmentExtended) :
    RoundTrips parse msg.write msg.bodyLength msg ↔
      msg.mobileAllocation = [] ∧ msg.Canonical :=
  FieldParser.comesBack_iff returns_parse (fun _ => takesAll_parse) msg.endPos_write

end L3ImmediateAssignmentExtended

/-! ## The configuration change -/

namespace L3ConfigurationChangeCommand

/-- An element that has an identifier of the message, behind which the loop breaks. -/
def readElement (msg : L3ConfigurationChangeCommand) :
    FieldParser (Option L3ConfigurationChangeCommand) := do
  let peek ← peekField 8
  if peek = 0x64 then
    let _ ← readField 8
    let chanDesc ← L3ChannelDescription.parse
    pure (some { msg with chanDesc, haveChanDesc := true })
  else if peek = 0x65 then
    let _ ← readField 8
    let powerCmd ← L3PowerCommand.parse
    pure (some { msg with powerCmd, havePowerCmd := true })
  else pure none

/-- The elements by their identifiers, to the end of the message. -/
def parse : FieldParser L3ConfigurationChangeCommand := do
  let bits ← remainingBits
  whileSome readElement bits {}

/-- An element is canonical if it is there, and not set if it is not. -/
structure Canonical (msg : L3ConfigurationChangeCommand) : Prop where
  chanDesc : msg.haveChanDesc = true → msg.chanDesc.Canonical true
  noChanDesc : msg.haveChanDesc = false → msg.chanDesc = {}
  powerCmd : msg.havePowerCmd = true → msg.powerCmd.command.toNat < 2 ^ 5
  noPowerCmd : msg.havePowerCmd = false → msg.powerCmd = {}

/-- A channel description is taken behind its identifier. -/
theorem takes_channel (msg : L3ConfigurationChangeCommand) {channel : L3ChannelDescription}
    (canonical : channel.Canonical true) (pos : Nat) :
    Takes (readElement msg) (fields pos (.writeField 0x64 8 :: channel.write))
      (some (some { msg with chanDesc := channel, haveChanDesc := true })) := by
  refine Takes.peek (Nat.le_add_left 8 _) ?_
  refine Takes.skipped ?_ (by simp)
  exact ((L3ChannelDescription.codec_parseFields true).takes channel canonical _).yield _

/-- A power command is taken behind its identifier. -/
theorem takes_power (msg : L3ConfigurationChangeCommand) {power : L3PowerCommand}
    (small : power.command.toNat < 2 ^ 5) (pos : Nat) :
    Takes (readElement msg) (fields pos (.writeField 0x65 8 :: power.write))
      (some (some { msg with powerCmd := power, havePowerCmd := true })) := by
  refine Takes.peek (Nat.le_add_left 8 _) ?_
  refine Takes.skipped ?_ (by simp)
  exact (L3PowerCommand.codec.takes power small _).yield _

/-- A canonical command comes back. -/
theorem takesAll_parse {msg : L3ConfigurationChangeCommand} (canonical : msg.Canonical) :
    TakesAll parse (fields 0 msg.write) (some msg) := by
  obtain ⟨haveChanDesc, channel, havePowerCmd, power⟩ := msg
  obtain ⟨chanDesc, noChanDesc, powerCmd, noPowerCmd⟩ := canonical
  refine TakesAll.counted ?_
  have last (count : Nat) (msg : L3ConfigurationChangeCommand) :
      TakesAll (whileSome readElement count msg) [] (some msg) :=
    takesAll_whileSome_nil readElement count msg
  cases haveChanDesc with
  | false =>
      obtain rfl := noChanDesc rfl
      cases havePowerCmd with
      | false =>
          obtain rfl := noPowerCmd rfl
          exact last 0 {}
      | true =>
          have takes := takes_power {} (powerCmd rfl) 0
          have rounds := TakesAll.oneRound (List.cons_ne_nil _ _) takes (last 15 _)
          rw [List.append_nil] at rounds
          exact rounds
  | true =>
      have first := takes_channel {} (chanDesc rfl) 0
      have moved := BitWriter.fields_length 0 (.writeField 0x64 8 :: channel.write)
      rw [BitWriter.endPos_cons, L3ChannelDescription.endPos_write] at moved
      have long : 32 ≤ (fields 0 (write ⟨true, channel, havePowerCmd, power⟩)).length := by
        rw [write, BitWriter.fields_append, List.length_append]
        change 0 + _ = 0 + 8 + 24 at moved
        change 32 ≤ (fields 0 (.writeField 0x64 8 :: channel.write)).length + _
        omega
      obtain ⟨count, length⟩ := Nat.exists_eq_add_of_le' long
      rw [length, write, BitWriter.fields_append]
      refine TakesAll.oneRound (List.cons_ne_nil _ _) first ?_
      cases havePowerCmd with
      | false =>
          obtain rfl := noPowerCmd rfl
          exact last _ _
      | true =>
          have second := takes_power { haveChanDesc := true, chanDesc := channel } (powerCmd rfl)
          have rounds (pos : Nat) :=
            TakesAll.oneRound (List.cons_ne_nil _ _) (second pos) (last (count + 30) _)
          simp only [List.append_nil] at rounds
          exact rounds _

/-- A command that is read is canonical. -/
theorem returns_parse : Ensures parse fun msg _ => msg.Canonical := by
  refine ensures_remainingBits.bind fun bits _ _ => ?_
  refine ensures_whileSome (fun msg canonical => ?_) bits ⟨nofun, fun _ => rfl, nofun, fun _ => rfl⟩
  refine (ensures_peekField 8).bind fun peek _ _ => ?_
  split
  · refine (ensures_readField 8).bind fun _ _ _ => ?_
    refine (L3ChannelDescription.codec_parseFields true).returns.bind fun channel _ carrier => ?_
    refine Ensures.pure fun next same => ?_
    obtain rfl := Option.some.inj same
    exact ⟨fun _ => carrier, nofun, canonical.powerCmd, canonical.noPowerCmd⟩
  · split
    · refine (ensures_readField 8).bind fun _ _ _ => ?_
      refine L3PowerCommand.codec.returns.bind fun power _ small => ?_
      refine Ensures.pure fun next same => ?_
      obtain rfl := Option.some.inj same
      exact ⟨canonical.chanDesc, canonical.noChanDesc, fun _ => small, nofun⟩
    · exact Ensures.pure nofun

/-- A command comes back exactly when it is canonical and has no channel description. -/
theorem comesBack_iff (msg : L3ConfigurationChangeCommand) :
    RoundTrips parse msg.write msg.bodyLength msg ↔ msg.haveChanDesc = false ∧ msg.Canonical :=
  FieldParser.comesBack_iff returns_parse (fun _ => takesAll_parse) msg.endPos_write

end L3ConfigurationChangeCommand

/-! ## What comes back -/

/-- The round trip gives back an assignment without a mobile allocation, and a configuration change
without a channel, if the fields are in range, elements that are not there are not set, and what
follows a missing starting time does not start with its identifier. -/
theorem assignments_restored_iff (assignment : L3ImmediateAssignment)
    (extended : L3ImmediateAssignmentExtended) (change : L3ConfigurationChangeCommand) :
    (RoundTrips L3ImmediateAssignment.parse assignment.write assignment.bodyLength assignment ↔
        assignment.mobileAllocation = [] ∧ assignment.Canonical) ∧
      (RoundTrips L3ImmediateAssignmentExtended.parse extended.write extended.bodyLength extended ↔
        extended.mobileAllocation = [] ∧ extended.Canonical) ∧
      (RoundTrips L3ConfigurationChangeCommand.parse change.write change.bodyLength change ↔
        change.haveChanDesc = false ∧ change.Canonical) :=
  ⟨assignment.comesBack_iff, extended.comesBack_iff, change.comesBack_iff⟩

/-- An assignment with a mobile allocation of one octet, and a change of the channel. -/
theorem assignment_longer_than_written :
    ∃ (assignment : L3ImmediateAssignment) (change : L3ConfigurationChangeCommand),
      assignment.mobileAllocation.length ≤ 255 ∧
      endPos 0 assignment.write + 8 = assignment.bodyLength * 8 ∧
      ¬ RoundTrips L3ImmediateAssignment.parse assignment.write assignment.bodyLength
        assignment ∧
      endPos 0 change.write = change.bodyLength * 8 + 8 ∧
      ¬ RoundTrips L3ConfigurationChangeCommand.parse change.write change.bodyLength change := by
  refine ⟨{ mobileAllocation := [0x01] }, { haveChanDesc := true }, by decide, by decide, ?_,
    by decide, ?_⟩
  · exact fun trips => absurd trips.length (by decide)
  · exact fun trips => absurd trips.length (by decide)

end Gsml3
