import Gsml3.Abis.RslFrames
import Gsml3.Foundation.PackedFields
import Gsml3.RR.ElementCodecs

/-!
# RSL round trip

The parser returns what was passed to a builder, as long as a payload fits its length field,
a request reference its fields and the frame its buffer.
-/

namespace Gsml3

namespace Abis

open Foundation (Element bitString packed_toNat toNat_and_mask toNat_shiftRight valueBits)
open Foundation.OutputBuffer

/-! ## Decoded values -/

/-- The counters of the RACH load element. -/
structure RSLRachLoad where
  rachTotal : UInt16
  rachBusy : UInt16
  rachAccess : UInt16
deriving DecidableEq, Repr

namespace RSLParsedMessage

/-- A big-endian counter. -/
def counter (high low : UInt8) : UInt16 :=
  high.toUInt16 <<< 8 ||| low.toUInt16

/-- The counter that a paging load element stands for. -/
def pagingLoad (msg : RSLParsedMessage) : Option UInt16 :=
  (RSLParser.findIE msg RSL_IE.pagingLoad).bind fun ie =>
    match ie.val with
    | [high, low] => some (counter high low)
    | _ => none

/-- The counters that a RACH load element stands for. -/
def rachLoad (msg : RSLParsedMessage) : Option RSLRachLoad :=
  (RSLParser.findIE msg RSL_IE.rachLoad).bind fun ie =>
    match ie.val with
    | [totalHigh, totalLow, busyHigh, busyLow, accessHigh, accessLow] => some {
        rachTotal := counter totalHigh totalLow
        rachBusy := counter busyHigh busyLow
        rachAccess := counter accessHigh accessLow }
    | _ => none

/-- The request reference that the radio resource parser reads from its element. -/
def reqReference (msg : RSLParsedMessage) : Option L3RequestReference :=
  (RSLParser.findIE msg RSL_IE.reqReference).bind fun ie =>
    FieldParser.parse L3RequestReference.parse ie.val

end RSLParsedMessage

namespace RSLRequest

variable {request : RSLRequest} {out : List UInt8} {msg : RSLParsedMessage}

/-! ### What was passed in -/

/-- The starting time of a frame number. -/
def startingTime : RSLRequest → Option RSLFrameNumber
  | .chanActivAck _ frameNumber => some {
      t1p := UInt8.ofNat (frameNumber.toNat / 1326 % 32)
      t3 := UInt8.ofNat (frameNumber.toNat % 51)
      t2 := UInt8.ofNat (frameNumber.toNat % 26) }
  | _ => none

/-- The uplink measurements, in the widths of their fields. -/
def uplinkMeas : RSLRequest → Option RSLUplinkMeas
  | .measRes _ _ rxlevFull rxlevSub rxqFull rxqSub dtxDownlink _ _ => some {
      dtxDownlink
      rxlevFull := rxlevFull &&& 0x3F
      rxlevSub := rxlevSub &&& 0x3F
      rxqFull := rxqFull &&& 0x07
      rxqSub := rxqSub &&& 0x07 }
  | _ => none

def pagingLoad : RSLRequest → Option UInt16
  | .pchLoadInd pagingLoad => some pagingLoad
  | _ => none

def rachLoad : RSLRequest → Option RSLRachLoad
  | .rachLoadInd rachTotal rachBusy rachAccess => some { rachTotal, rachBusy, rachAccess }
  | _ => none

def reqReference : RSLRequest → Option L3RequestReference
  | .chanRqd _ reqRef _ => some reqRef
  | _ => none

/-- A parsed message has all that was passed in. -/
structure Carries (request : RSLRequest) (msg : RSLParsedMessage) : Prop where
  discriminator : msg.discriminator = request.group
  transparent : msg.transparent = request.transparent
  msgType : msg.msgType = request.msgType
  chanNr : msg.chanNr = request.chanNr
  linkId : msg.linkId = request.linkId
  elements : msg.informationElements = request.elements
  l3Payload : msg.l3Payload = request.l3Payload
  startingTime : RSLParser.getFrameNumber msg = request.startingTime
  uplinkMeas : RSLParser.getUplinkMeas msg = request.uplinkMeas
  pagingLoad : msg.pagingLoad = request.pagingLoad
  rachLoad : msg.rachLoad = request.rachLoad
  reqReference : msg.reqReference = request.reqReference

/-- The parts of a request reference are in the ranges of their fields. -/
def ReferenceFits (request : RSLRequest) : Prop :=
  ∀ reqRef ∈ request.reqReference, reqRef.Canonical

/-! ## Parsing what was built -/

theorem decode_rslFirstOctet (d : RSLDiscriminator) (transparent : Bool) :
    decodeRslFirstOctet (rslFirstOctet d transparent) = some { group := d.code, transparent } := by
  cases d <;> cases transparent <;> decide

theorem rslGroupToDiscriminator_code (d : RSLDiscriminator) :
    rslGroupToDiscriminator d.code = some d := by
  cases d <;> decide

/-- The message that is parsed from a frame. -/
def received (request : RSLRequest) : RSLParsedMessage :=
  RSLParser.extract {
    discriminator := request.group
    transparent := request.transparent
    msgType := request.msgType
    informationElements := request.written
    rawData := request.frameOctets }

theorem written_length (request : RSLRequest) : request.written.length ≤ RSLParsedMessage.MAX_IE := by
  rw [written, List.length_map]
  cases request with
  | measRes _ _ _ _ _ _ _ _ l1Info =>
      by_cases some_info : l1Info ≠ 0
      · simp [elements, further, some_info, RSLParsedMessage.MAX_IE]
      · simp [elements, further, some_info, RSLParsedMessage.MAX_IE]
  | _ => simp [elements, further, RSLParsedMessage.MAX_IE]

theorem parse_frameOctets (request : RSLRequest) :
    RSLParser.parse request.frameOctets = .ok request.received := by
  have decoded : parseIEs RSLParsedMessage.MAX_IE
      (request.written.flatMap (Element.encode rslFormat)) = request.written := by
    rw [parseIEs_eq]
    exact Element.decode_encode request.written_wellFormed request.written_length
  have octets : request.frameOctets = rslFirstOctet request.group request.transparent ::
      request.msgType :: request.written.flatMap (Element.encode rslFormat) := rfl
  rw [received, octets, RSLParser.parse]
  simp only [decode_rslFirstOctet, rslGroupToDiscriminator_code, decoded]

/-! ### Bit fields -/

/-- The third octet of the uplink measurements gives back the qualities. -/
theorem qualities_decoded (full sub : UInt8) {octet : UInt8}
    (packed : octet = (full &&& 0x07) <<< 3 ||| sub &&& 0x07) :
    octet >>> 3 &&& 0x07 = full &&& 0x07 ∧ octet &&& 0x07 = sub &&& 0x07 := by
  have full_toNat : (full &&& 0x07).toNat = full.toNat % 2 ^ 3 := toNat_and_mask full (by decide)
  have sub_toNat : (sub &&& 0x07).toNat = sub.toNat % 2 ^ 3 := toNat_and_mask sub (by decide)
  have octet_toNat : octet.toNat = (full &&& 0x07).toNat * 2 ^ 3 + (sub &&& 0x07).toNat := by
    rw [packed]
    exact packed_toNat 3 (by decide) (by omega) (by omega)
  have shifted : (octet >>> 3).toNat = octet.toNat / 2 ^ 3 := toNat_shiftRight octet (by decide)
  have masked : (octet >>> 3 &&& 0x07).toNat = (octet >>> 3).toNat % 2 ^ 3 :=
    toNat_and_mask _ (by decide)
  have low : (octet &&& 0x07).toNat = octet.toNat % 2 ^ 3 := toNat_and_mask octet (by decide)
  exact ⟨UInt8.toNat_inj.mp (by omega), UInt8.toNat_inj.mp (by omega)⟩

/-- The first octet gives back the level and the indicator above it. -/
theorem level_decoded (level : UInt8) (flag : Bool) :
    let octet := (if flag then 0x40 else 0x00) ||| level &&& 0x3F
    decide (octet &&& 0x40 ≠ 0) = flag ∧ octet &&& 0x3F = level &&& 0x3F := by
  revert level
  cases flag
  · apply Foundation.forall_octet
    decide
  · apply Foundation.forall_octet
    decide

/-! ## What is received -/

theorem received_eq (fits : request.Fits) :
    request.received = RSLParser.extract {
      discriminator := request.group
      transparent := request.transparent
      msgType := request.msgType
      informationElements := request.elements
      rawData := request.frameOctets } := by
  rw [received, request.written_eq_iff.mpr fits]

/-- The starting time fields as the writer computes them in 32 bits. -/
theorem starting_field (frameNumber : UInt32) {divisor modulus : UInt32}
    (small : modulus.toNat ≤ 2 ^ 8) (positive : 0 < modulus.toNat) :
    (frameNumber / divisor % modulus).toUInt8.toNat =
      frameNumber.toNat / divisor.toNat % modulus.toNat := by
  have less := Nat.mod_lt (frameNumber.toNat / divisor.toNat) positive
  rw [UInt32.toNat_toUInt8, UInt32.toNat_mod, UInt32.toNat_div,
    Nat.mod_eq_of_lt (less.trans_le small)]

/-- What the octets of a frame number are decoded to. -/
theorem frameNumber_decoded (frameNumber : UInt32) {first second : UInt8}
    (written : RSLBuilder.writeFrameNumberValue frameNumber = [first, second]) :
    (first >>> 3).toNat = frameNumber.toNat / 1326 % 32 ∧
      ((first &&& 0x07) <<< 3 ||| second >>> 5).toNat = frameNumber.toNat % 51 ∧
      (second &&& 0x1F).toNat = frameNumber.toNat % 26 := by
  have t1p := @starting_field frameNumber 1326 32 (by decide) (by decide)
  have t3 := @starting_field frameNumber 1 51 (by decide) (by decide)
  have t2 := @starting_field frameNumber 1 26 (by decide) (by decide)
  rw [UInt32.div_one, UInt32.toNat_one, Nat.div_one] at t3 t2
  have t1p_less : _ < 32 := t1p.trans_lt (Nat.mod_lt _ (by decide))
  have t3_less : _ < 51 := t3.trans_lt (Nat.mod_lt _ (by decide))
  have t2_less : _ < 26 := t2.trans_lt (Nat.mod_lt _ (by decide))
  obtain ⟨packed_first, packed_second⟩ := List.cons_eq_cons.mp written
  obtain ⟨high, middle, low⟩ := Foundation.startingTime_decoded t1p_less (t3_less.trans (by decide))
    (t2_less.trans (by decide)) packed_first.symm (List.head_eq_of_cons_eq packed_second).symm
  rw [high, middle, low]
  exact ⟨t1p, t3, t2⟩

theorem getFrameNumber_of_found (frameNumber : UInt32)
    (found : RSLParser.findIE msg RSL_IE.frameNumber =
      some ⟨RSL_IE.frameNumber, RSLBuilder.writeFrameNumberValue frameNumber⟩) :
    ∃ time, RSLParser.getFrameNumber msg = some time ∧
      time.t1p.toNat = frameNumber.toNat / 1326 % 32 ∧ time.t3.toNat = frameNumber.toNat % 51 ∧
      time.t2.toNat = frameNumber.toNat % 26 := by
  rw [RSLParser.getFrameNumber, found]
  exact ⟨_, rfl, frameNumber_decoded frameNumber rfl⟩

theorem getFrameNumber_eq {chanNr : UInt8} (frameNumber : UInt16)
    (found : RSLParser.findIE msg RSL_IE.frameNumber =
      some ⟨RSL_IE.frameNumber, RSLBuilder.writeFrameNumberValue frameNumber.toUInt32⟩) :
    RSLParser.getFrameNumber msg = (RSLRequest.chanActivAck chanNr frameNumber).startingTime := by
  obtain ⟨time, decoded, t1p, t3, t2⟩ := getFrameNumber_of_found frameNumber.toUInt32 found
  rw [UInt16.toNat_toUInt32] at t1p t3 t2
  rw [decoded]
  apply congrArg some
  rw [RSLFrameNumber.mk.injEq, ← t1p, ← t3, ← t2]
  exact ⟨UInt8.ofNat_toNat.symm, UInt8.ofNat_toNat.symm, UInt8.ofNat_toNat.symm⟩

theorem getUplinkMeas_eq {chanNr measNr bsPower l1Info : UInt8}
    (rxlevFull rxlevSub rxqFull rxqSub : UInt8) (dtxDownlink : Bool)
    (found : RSLParser.findIE msg RSL_IE.uplinkMeas = some ⟨RSL_IE.uplinkMeas,
      RSLBuilder.writeUplinkMeasValue rxlevFull rxlevSub rxqFull rxqSub dtxDownlink⟩) :
    RSLParser.getUplinkMeas msg = (RSLRequest.measRes chanNr measNr rxlevFull rxlevSub rxqFull
      rxqSub dtxDownlink bsPower l1Info).uplinkMeas := by
  obtain ⟨flag, level⟩ := level_decoded rxlevFull dtxDownlink
  obtain ⟨full, sub⟩ := qualities_decoded rxqFull rxqSub rfl
  have second : rxlevSub &&& 0x3F &&& 0x3F = rxlevSub &&& 0x3F := UInt8.and_assoc _ _ _
  rw [RSLParser.getUplinkMeas, found]
  apply congrArg some
  rw [RSLUplinkMeas.mk.injEq]
  exact ⟨flag, level, second, full, sub⟩

/-! ### Counters and request references -/

/-- The two octets of a counter give it back. -/
theorem counter_decoded (count : UInt16) :
    RSLParsedMessage.counter ((count >>> 8) &&& 0xFF).toUInt8 (count &&& 0xFF).toUInt8 = count := by
  have small := count.toNat_lt
  have high : ((count >>> 8) &&& 0xFF).toUInt8.toNat = count.toNat / 256 := by
    have less : count.toNat / 256 < 256 := by omega
    rw [UInt16.toNat_toUInt8, UInt16.toNat_and, UInt16.toNat_shiftRight]
    change (count.toNat >>> 8 &&& 2 ^ 8 - 1) % 2 ^ 8 = _
    rw [Nat.and_two_pow_sub_one_eq_mod, Nat.shiftRight_eq_div_pow, Nat.mod_mod,
      Nat.mod_eq_of_lt less]
  have low : (count &&& 0xFF).toUInt8.toNat = count.toNat % 256 := by
    rw [UInt16.toNat_toUInt8, UInt16.toNat_and]
    change (count.toNat &&& 2 ^ 8 - 1) % 2 ^ 8 = _
    rw [Nat.and_two_pow_sub_one_eq_mod, Nat.mod_mod]
  apply UInt16.toNat_inj.mp
  rw [RSLParsedMessage.counter, toNat_wide, high, low]
  omega

theorem pagingLoad_eq (pagingLoad : UInt16)
    (found : RSLParser.findIE msg RSL_IE.pagingLoad =
      some ⟨RSL_IE.pagingLoad, RSLBuilder.counterOctets pagingLoad⟩) :
    msg.pagingLoad = (RSLRequest.pchLoadInd pagingLoad).pagingLoad := by
  rw [RSLParsedMessage.pagingLoad, found]
  exact congrArg some (counter_decoded pagingLoad)

theorem rachLoad_eq (rachTotal rachBusy rachAccess : UInt16)
    (found : RSLParser.findIE msg RSL_IE.rachLoad =
      some ⟨RSL_IE.rachLoad, RSLBuilder.counterOctets rachTotal ++
        RSLBuilder.counterOctets rachBusy ++ RSLBuilder.counterOctets rachAccess⟩) :
    msg.rachLoad = (RSLRequest.rachLoadInd rachTotal rachBusy rachAccess).rachLoad := by
  rw [RSLParsedMessage.rachLoad, found]
  apply congrArg some
  rw [RSLRachLoad.mk.injEq]
  exact ⟨counter_decoded rachTotal, counter_decoded rachBusy, counter_decoded rachAccess⟩

/-- Two fields in an octet are its bits. -/
theorem valueBits_packed {octet : UInt8} {high low : Nat} (width rest : Nat)
    (whole : rest + width = 8)
    (packed : octet.toNat = high % 2 ^ rest * 2 ^ width + low % 2 ^ width) :
    valueBits 8 octet.toNat = valueBits rest high ++ valueBits width low := by
  have less := Nat.mod_lt low (Nat.two_pow_pos width)
  have upper : octet.toNat / 2 ^ width = high % 2 ^ rest := by
    rw [packed, Nat.mul_comm, Nat.mul_add_div (Nat.two_pow_pos width), Nat.div_eq_of_lt less,
      Nat.add_zero]
  have lower : octet.toNat % 2 ^ width = low % 2 ^ width := by
    rw [packed, Nat.mul_add_mod_self_right, Nat.mod_mod]
  rw [← whole, Foundation.valueBits_add, upper, FieldParser.valueBits_mod,
    ← FieldParser.valueBits_mod width octet.toNat, lower, FieldParser.valueBits_mod]

theorem whole_octets (reqRef : L3RequestReference) : 8 ∣ BitWriter.endPos 0 reqRef.write := by
  rw [L3RequestReference.endPos_write, Nat.zero_add]
  exact Nat.dvd_mul_right ..

/-- The builder packs a request reference as the radio resource element is written. -/
theorem requestReferenceValue_eq (reqRef : L3RequestReference) :
    RSLBuilder.requestReferenceValue reqRef = octetsOf reqRef.write := by
  obtain ⟨ra, t1p, t2, t3⟩ := reqRef
  have t1p_low : (t1p &&& 0x1F).toNat = t1p.toNat % 2 ^ 5 := toNat_and_mask t1p (by decide)
  have t2_low : (t2 &&& 0x1F).toNat = t2.toNat % 2 ^ 5 := toNat_and_mask t2 (by decide)
  have t3_low : (t3 &&& 0x07).toNat = t3.toNat % 2 ^ 3 := toNat_and_mask t3 (by decide)
  have t3_shifted : (t3 >>> 3).toNat = t3.toNat / 2 ^ 3 := toNat_shiftRight t3 (by decide)
  have t3_high : ((t3 >>> 3) &&& 0x07).toNat = (t3 >>> 3).toNat % 2 ^ 3 :=
    toNat_and_mask _ (by decide)
  -- the bits of the mask above the lowest three are shifted out of the octet
  have t3_masked : (t3 &&& 0x3F) <<< 5 = (t3 &&& 0x07) <<< 5 := by
    revert t3
    exact Foundation.forall_octet (by decide)
  have first : ((t1p &&& 0x1F) <<< 3 ||| (t3 >>> 3) &&& 0x07).toNat =
      t1p.toNat % 2 ^ 5 * 2 ^ 3 + t3.toNat / 2 ^ 3 % 2 ^ 3 := by
    rw [← t1p_low, ← t3_shifted, ← t3_high]
    exact packed_toNat 3 (by decide) (by omega) (by omega)
  have second : ((t3 &&& 0x07) <<< 5 ||| t2 &&& 0x1F).toNat =
      t3.toNat % 2 ^ 3 * 2 ^ 5 + t2.toNat % 2 ^ 5 := by
    rw [← t2_low, ← t3_low]
    exact packed_toNat 5 (by decide) (by omega) (by omega)
  apply bitString_injective
  rw [bitString_octetsOf (whole_octets _)]
  change valueBits 8 ra.toNat ++ (valueBits 8 _ ++ (valueBits 8 _ ++ [])) =
    valueBits 8 ra.toUInt32.toNat ++ (valueBits 5 t1p.toUInt32.toNat ++
      (valueBits (3 + 3) t3.toUInt32.toNat ++ (valueBits 5 t2.toUInt32.toNat ++ [])))
  rw [t3_masked, valueBits_packed 3 5 rfl first, valueBits_packed 5 3 rfl second]
  simp only [UInt8.toNat_toUInt32, Foundation.valueBits_add 3 3, List.append_assoc]

/-- A request reference comes back exactly when its parts are in range. -/
theorem reqReference_iff {chanNr accessDelay : UInt8} (reqRef : L3RequestReference)
    (found : RSLParser.findIE msg RSL_IE.reqReference =
      some ⟨RSL_IE.reqReference, RSLBuilder.requestReferenceValue reqRef⟩) :
    msg.reqReference = (RSLRequest.chanRqd chanNr reqRef accessDelay).reqReference ↔
      reqRef.Canonical := by
  rw [RSLParsedMessage.reqReference, found, requestReferenceValue_eq]
  exact FieldParser.reparses_iff L3RequestReference.codec.returns
    (fun value canonical => (L3RequestReference.codec.takes value canonical 0).all)
    (whole_octets reqRef)

/-! ### All of it -/

/-- What is received of a request that fits has all but, perhaps, a request reference. -/
theorem carries_of_fits (fits : request.Fits)
    (reference : request.received.reqReference = request.reqReference) :
    request.Carries request.received := by
  rw [received_eq fits] at reference ⊢
  cases request with
  | dataReq | dataInd | unitDataReq | unitDataInd =>
      exact ⟨rfl, rfl, rfl, rfl, rfl, rfl, ite_self _, rfl, rfl, rfl, rfl, rfl⟩
  | chanActivAck _ frameNumber =>
      exact ⟨rfl, rfl, rfl, rfl, rfl, rfl, rfl, getFrameNumber_eq frameNumber rfl, rfl, rfl, rfl,
        rfl⟩
  | measRes _ _ rxlevFull rxlevSub rxqFull rxqSub dtxDownlink _ l1Info =>
      by_cases some_info : l1Info ≠ 0
      · simp only [elements, further, if_pos some_info]
        refine ⟨rfl, rfl, rfl, rfl, rfl, ?_, rfl, rfl,
          getUplinkMeas_eq rxlevFull rxlevSub rxqFull rxqSub dtxDownlink rfl, rfl, rfl, rfl⟩
        simp only [elements, further, if_pos some_info]
        rfl
      · simp only [elements, further, if_neg some_info]
        refine ⟨rfl, rfl, rfl, rfl, rfl, ?_, rfl, rfl,
          getUplinkMeas_eq rxlevFull rxlevSub rxqFull rxqSub dtxDownlink rfl, rfl, rfl, rfl⟩
        simp only [elements, further, if_neg some_info]
        rfl
  | pchLoadInd pagingLoad =>
      exact ⟨rfl, rfl, rfl, rfl, rfl, rfl, rfl, rfl, rfl, pagingLoad_eq pagingLoad rfl, rfl, rfl⟩
  | rachLoadInd rachTotal rachBusy rachAccess =>
      exact ⟨rfl, rfl, rfl, rfl, rfl, rfl, rfl, rfl, rfl, rfl,
        rachLoad_eq rachTotal rachBusy rachAccess rfl, rfl⟩
  | chanRqd => exact ⟨rfl, rfl, rfl, rfl, rfl, rfl, rfl, rfl, rfl, rfl, rfl, reference⟩
  | _ => exact ⟨rfl, rfl, rfl, rfl, rfl, rfl, rfl, rfl, rfl, rfl, rfl, rfl⟩

theorem reference_iff (fits : request.Fits) :
    request.received.reqReference = request.reqReference ↔ request.ReferenceFits := by
  have no_reference (none_passed : request.reqReference = none) : request.ReferenceFits := by
    intro reqRef member
    rw [none_passed] at member
    cases member
  rw [received_eq fits]
  cases request with
  | chanRqd _ reqRef =>
      rw [reqReference_iff reqRef rfl]
      constructor
      · intro canonical passed member
        obtain rfl := Option.mem_some_iff.mp member
        exact canonical
      · exact fun fields => fields reqRef rfl
  | measRes _ _ _ _ _ _ _ _ l1Info =>
      refine iff_of_true ?_ (no_reference rfl)
      by_cases some_info : l1Info ≠ 0
      · simp only [elements, further, if_pos some_info]
        rfl
      · simp only [elements, further, if_neg some_info]
        rfl
  | _ => exact iff_of_true rfl (no_reference rfl)

theorem carries_iff (request : RSLRequest) :
    request.Carries request.received ↔ request.Fits ∧ request.ReferenceFits := by
  constructor
  · intro carries
    have fits := request.written_eq_iff.mp carries.elements
    exact ⟨fits, (reference_iff fits).mp carries.reqReference⟩
  · rintro ⟨fits, reference⟩
    exact carries_of_fits fits ((reference_iff fits).mpr reference)

/-! ## Overloads -/

/-- Where a message is built: in a vector, or in a span with its first contents. -/
inductive Target where
  | vector
  | span (out : List UInt8)

/-- The octets a builder returns with success; `none` if it reports a failure. -/
def returned (request : RSLRequest) : Target → Option (Option (List UInt8))
  | .vector => request.buildVec.map Except.toOption
  | .span out => (request.build out).map fun (buf, n) =>
      if n < 0 then none else some (buf.take n.toNat)

/-- The builder writes within its buffer, and what it returns with success is parsed to what was
passed in. -/
def RoundTrips (request : RSLRequest) (target : Target) : Prop :=
  ∃ returned, request.returned target = some returned ∧
    ∀ octets ∈ returned, ∃ msg, RSLParser.parse octets = .ok msg ∧ request.Carries msg

/-- The payload fits its length field, a request reference its fields, and the message its span
unless that is refused. -/
def HoldsWhen (request : RSLRequest) : Target → Prop
  | .vector => request.Fits ∧ request.ReferenceFits
  | .span out =>
      out.length < request.checked ∨
        (request.Fits ∧ request.ReferenceFits) ∧ request.sizeHint ≤ out.length

theorem returned_span (request : RSLRequest) (out : List UInt8) :
    request.returned (.span out) =
      if out.length < request.checked then some none
      else if request.countedLength ≤ out.length then some (some request.frameOctets)
      else none := by
  rw [returned, build_eq]
  split
  · rfl
  · split
    case isTrue room =>
      have positive : ¬ (request.countedLength : Int) < 0 :=
        Int.not_lt.mpr (Int.natCast_nonneg _)
      have all : request.frameOctets.length = request.countedLength := request.frame_length
      simp only [Option.map_some, if_neg positive, Int.toNat_natCast]
      rw [← all, List.take_left]
    case isFalse => rfl

theorem returned_vector (request : RSLRequest) :
    request.returned .vector = some (some request.frameOctets) := by
  have size : (List.replicate ([request.sizeHint].foldl max 64) (0 : UInt8)).length =
      max 64 request.sizeHint := List.length_replicate
  have enough : ¬ max 64 request.sizeHint < request.checked :=
    Nat.not_lt.mpr (request.checked_le.trans (Nat.le_max_right _ _))
  have room : request.countedLength ≤ max 64 request.sizeHint :=
    request.countedLength_le.trans (Nat.le_max_right _ _)
  have positive : ¬ (request.countedLength : Int) < 0 := Int.not_lt.mpr (Int.natCast_nonneg _)
  have all : request.frameOctets.length = request.countedLength := request.frame_length
  rw [returned, buildVec, buildVector, build_eq, size, if_neg enough, if_pos room]
  simp only [Option.bind_eq_bind, Option.bind_some, if_neg positive, Int.toNat_natCast, resize]
  rw [← all, List.take_left, List.length_append, Nat.sub_eq_zero_of_le (Nat.le_add_right _ _),
    List.replicate_zero, List.append_nil]
  rfl

theorem roundTrips_iff (request : RSLRequest) (target : Target) :
    request.RoundTrips target ↔ request.HoldsWhen target := by
  have parsed : (∀ octets ∈ some request.frameOctets, ∃ msg, RSLParser.parse octets = .ok msg ∧
      request.Carries msg) ↔ request.Fits ∧ request.ReferenceFits := by
    rw [← carries_iff]
    constructor
    · intro all
      obtain ⟨msg, parse, carries⟩ := all _ rfl
      rw [parse_frameOctets] at parse
      obtain rfl := Except.ok.inj parse
      exact carries
    · intro carries octets member
      obtain rfl := Option.mem_some_iff.mp member
      exact ⟨_, parse_frameOctets request, carries⟩
  cases target with
  | vector =>
      rw [RoundTrips, returned_vector, HoldsWhen, ← parsed]
      simp only [Option.some.injEq, exists_eq_left']
  | span out =>
      rw [RoundTrips, returned_span, HoldsWhen]
      by_cases small : out.length < request.checked
      · rw [if_pos small]
        exact iff_of_true ⟨none, rfl, nofun⟩ (.inl small)
      · rw [if_neg small]
        by_cases room : request.countedLength ≤ out.length
        · rw [if_pos room]
          simp only [Option.some.injEq, exists_eq_left', parsed, small, false_or]
          refine ⟨fun fits => ⟨fits, ?_⟩, And.left⟩
          rwa [← countedLength_of_fits fits.1]
        · rw [if_neg room]
          refine iff_of_false (fun ⟨_, built, _⟩ => nomatch built) ?_
          rintro (refused | ⟨⟨fits, -⟩, enough⟩)
          · exact small refused
          · exact room (countedLength_of_fits fits ▸ enough)

/-- An immediate assignment of 256 octets is reported built, and its octets are gone. -/
theorem deleteInd_loses :
    (RSLRequest.deleteInd 0x90 (List.replicate 256 0x2B)).returned .vector =
        some (some [0x0C, 0x14, 0x01, 0x90, 0x2B, 0x00]) ∧
      (RSLParser.parse [0x0C, 0x14, 0x01, 0x90, 0x2B, 0x00]).toOption.map
        (RSLParsedMessage.informationElements) =
          some [⟨RSL_IE.chanNr, [0x90]⟩, ⟨RSL_IE.fullImmAssInfo, []⟩] := by
  set_option maxRecDepth 4000 in
  with_unfolding_all decide

end RSLRequest

/-! ## Frame numbers -/

section FrameNumber

/-- The remainders by coprime moduli and the quotient modulo 32 make up one remainder. -/
theorem startingTime_eq_iff (m n : Nat) :
    (m / 1326 % 32 = n / 1326 % 32 ∧ m % 51 = n % 51 ∧ m % 26 = n % 26) ↔
      m % 42432 = n % 42432 := by
  have remainder : (m % 51 = n % 51 ∧ m % 26 = n % 26) ↔ m % 1326 = n % 1326 :=
    Nat.modEq_and_modEq_iff_modEq_mul (by decide)
  rw [remainder]
  omega

theorem writeFrameNumberValue_eq_iff (frameNumber other : UInt32) :
    RSLBuilder.writeFrameNumberValue frameNumber = RSLBuilder.writeFrameNumberValue other ↔
      frameNumber.toNat % 42432 = other.toNat % 42432 := by
  rw [← startingTime_eq_iff]
  constructor
  · intro same
    obtain ⟨t1p, t3, t2⟩ := RSLRequest.frameNumber_decoded frameNumber rfl
    obtain ⟨t1p', t3', t2'⟩ := RSLRequest.frameNumber_decoded other same.symm
    exact ⟨t1p.symm.trans t1p', t3.symm.trans t3', t2.symm.trans t2'⟩
  · rintro ⟨t1p, t3, t2⟩
    have t1p_same : (frameNumber / 1326 % 32).toUInt8 = (other / 1326 % 32).toUInt8 := by
      apply UInt8.toNat_inj.mp
      rw [RSLRequest.starting_field frameNumber (by decide) (by decide),
        RSLRequest.starting_field other (by decide) (by decide)]
      exact t1p
    have remainder_same (modulus : UInt32) (small : modulus.toNat ≤ 2 ^ 8)
        (positive : 0 < modulus.toNat)
        (same : frameNumber.toNat % modulus.toNat = other.toNat % modulus.toNat) :
        (frameNumber % modulus).toUInt8 = (other % modulus).toUInt8 := by
      apply UInt8.toNat_inj.mp
      have value := @RSLRequest.starting_field frameNumber 1 modulus small positive
      have value' := @RSLRequest.starting_field other 1 modulus small positive
      rw [UInt32.div_one, UInt32.toNat_one, Nat.div_one] at value value'
      rw [value, value', same]
    simp only [RSLBuilder.writeFrameNumberValue]
    rw [t1p_same, remainder_same 51 (by decide) (by decide) t3,
      remainder_same 26 (by decide) (by decide) t2]

/-- Two frame numbers have the same octets if and only if they are congruent modulo 42432, and
wherever the parser finds these octets, as in the acknowledgement that the builder makes, it
returns the three fields. -/
theorem frame_number_coding :
    (∀ frameNumber other : UInt32,
      RSLBuilder.writeFrameNumberValue frameNumber = RSLBuilder.writeFrameNumberValue other ↔
        frameNumber.toNat % 42432 = other.toNat % 42432) ∧
    (∀ (frameNumber : UInt32) (msg : RSLParsedMessage),
      RSLParser.findIE msg RSL_IE.frameNumber =
          some ⟨RSL_IE.frameNumber, RSLBuilder.writeFrameNumberValue frameNumber⟩ →
        ∃ time, RSLParser.getFrameNumber msg = some time ∧
          time.t1p.toNat = frameNumber.toNat / 1326 % 32 ∧
          time.t3.toNat = frameNumber.toNat % 51 ∧ time.t2.toNat = frameNumber.toNat % 26) ∧
    ∀ (chanNr : UInt8) (frameNumber : UInt16), ∃ octets msg time,
      (RSLRequest.chanActivAck chanNr frameNumber).returned .vector = some (some octets) ∧
        RSLParser.parse octets = .ok msg ∧
        RSLParser.findIE msg RSL_IE.frameNumber =
          some ⟨RSL_IE.frameNumber, RSLBuilder.writeFrameNumberValue frameNumber.toUInt32⟩ ∧
        RSLParser.getFrameNumber msg = some time ∧
        time.t1p.toNat = frameNumber.toNat / 1326 % 32 ∧
        time.t3.toNat = frameNumber.toNat % 51 ∧ time.t2.toNat = frameNumber.toNat % 26 := by
  refine ⟨writeFrameNumberValue_eq_iff, fun frameNumber msg =>
    RSLRequest.getFrameNumber_of_found frameNumber, fun chanNr frameNumber => ?_⟩
  have found : RSLParser.findIE (RSLRequest.chanActivAck chanNr frameNumber).received
      RSL_IE.frameNumber =
        some ⟨RSL_IE.frameNumber, RSLBuilder.writeFrameNumberValue frameNumber.toUInt32⟩ := rfl
  obtain ⟨time, decoded, fields⟩ :=
    RSLRequest.getFrameNumber_of_found frameNumber.toUInt32 found
  rw [UInt16.toNat_toUInt32] at fields
  exact ⟨_, _, time, RSLRequest.returned_vector _, RSLRequest.parse_frameOctets _, found, decoded,
    fields⟩

/-- The fields of the last frame number of a hyperframe are found behind its channel number. -/
theorem frame_number_coding_hyperframe :
    ∃ time, RSLParser.getFrameNumber { informationElements :=
        [⟨RSL_IE.chanNr, [0x0A]⟩,
          ⟨RSL_IE.frameNumber, RSLBuilder.writeFrameNumberValue 2715647⟩] } = some time ∧
      time.t1p.toNat = 31 ∧ time.t3.toNat = 50 ∧ time.t2.toNat = 25 :=
  frame_number_coding.2.1 2715647 _ rfl

end FrameNumber

end Abis

end Gsml3
