import Gsml3.SMS.Elements

/-!
# TPDUs written and read back

A parser returns values that agree with their own length fields, and each of these is read
back from its octets.  So a value survives the round trip if and only if it agrees with its
length fields.
-/

namespace Gsml3

open BitWriter (Op fields)
open FieldParser (Takes TakesAll Ensures readOctet readOctets remainingBits)
open Foundation (bitString)
open SMS

/-! ## Time stamp -/

namespace TPSCTimeStamp

theorem octets_length (stamp : TPSCTimeStamp) : stamp.octets.length = 7 :=
  rfl

theorem ensures_parse : Ensures parse fun _ _ => True := by
  refine FieldParser.ensures_readOctet.bind fun _ _ _ => ?_
  refine FieldParser.ensures_readOctet.bind fun _ _ _ => ?_
  refine FieldParser.ensures_readOctet.bind fun _ _ _ => ?_
  refine FieldParser.ensures_readOctet.bind fun _ _ _ => ?_
  refine FieldParser.ensures_readOctet.bind fun _ _ _ => ?_
  refine FieldParser.ensures_readOctet.bind fun _ _ _ => ?_
  exact FieldParser.ensures_readOctet.bind fun _ _ _ => Ensures.pure trivial

/-- A time stamp comes back. -/
theorem takes_octets (stamp : TPSCTimeStamp) :
    Takes parse (bitString stamp.octets) (some stamp) := by
  refine Takes.octet (Takes.octet (Takes.octet (Takes.octet (Takes.octet (Takes.octet ?_)))))
  have timezone := (FieldParser.takes_readOctet stamp.timezone.toUInt8).yield fun octet =>
    { stamp with timezone := octet.toInt8 }
  rw [Option.map_some, Int8.toInt8_toUInt8] at timezone
  exact timezone

end TPSCTimeStamp

/-! ## Address -/

namespace L3TPAddress

/-- The digits fit their nibbles and their number fits the length octet; an empty address has the
default type and plan. -/
structure Canonical (address : L3TPAddress) : Prop where
  counted : address.digits.length ≤ 255
  nibbles : ∀ digit ∈ address.digits, digit.toNat < 16
  empty : address.digits = [] → address.ton = 1 ∧ address.npi = 1

/-- Up to 255 digits are counted as they are. -/
theorem lengthV_toNat {address : L3TPAddress} (counted : address.digits.length ≤ 255) :
    address.lengthV.toNat = address.digits.length :=
  UInt8.toNat_ofNat_of_lt (Nat.lt_succ_of_le counted)

theorem lengthV_eq_zero {address : L3TPAddress} (counted : address.digits.length ≤ 255) :
    address.lengthV = 0 ↔ address.digits = [] := by
  rw [← UInt8.toNat_inj, lengthV_toNat counted]
  exact List.length_eq_zero_iff

/-- Two digits take one octet. -/
theorem digitOctets_length (digits : List UInt8) :
    (digitOctets digits).length = (digits.length + 1) / 2 := by
  induction digits using digitOctets.induct with
  | case1 => rfl
  | case2 digit => simp [digitOctets]
  | case3 digit next digits ih =>
      rw [digitOctets, List.length_cons, ih, List.length_cons, List.length_cons]
      omega

/-- An address takes the octets that are counted for it. -/
theorem octets_length {address : L3TPAddress} (counted : address.digits.length ≤ 255) :
    address.octets.length = address.totalLength := by
  unfold octets totalLength
  split
  · rfl
  · rw [List.length_cons, List.length_cons, digitOctets_length, lengthV_toNat counted]
    omega

section Nibbles

variable {high low : UInt8}

/-- Two nibbles in an octet. -/
theorem nibbles_toNat (above : high.toNat < 16) (below : low.toNat < 16) :
    (high <<< 4 ||| low).toNat = 16 * high.toNat + low.toNat := by
  rw [UInt8.toNat_or, UInt8.toNat_shiftLeft]
  change high.toNat <<< 4 % 256 ||| low.toNat = _
  rw [Nat.mod_eq_of_lt (by rw [Nat.shiftLeft_eq]; omega),
    ← Nat.shiftLeft_add_eq_or_of_lt (by omega), Nat.shiftLeft_eq, Nat.mul_comm]

theorem low_toNat (octet : UInt8) : (octet &&& 0x0F).toNat = octet.toNat % 16 := by
  rw [UInt8.toNat_and]
  exact Nat.and_two_pow_sub_one_eq_mod octet.toNat 4

theorem high_toNat (octet : UInt8) : (octet >>> 4 &&& 0x0F).toNat = octet.toNat / 16 := by
  rw [low_toNat, UInt8.toNat_shiftRight, Nat.shiftRight_eq_div_pow]
  have small := octet.toNat_lt
  change octet.toNat / 16 % 16 = _
  omega

theorem nibble_eq (small : low.toNat < 16) : low &&& 0x0F = low := by
  rw [← UInt8.toNat_inj, low_toNat, Nat.mod_eq_of_lt small]

end Nibbles

/-- Digits of four bits come back. -/
theorem takes_digits {digits : List UInt8} (nibbles : ∀ digit ∈ digits, digit.toNat < 16) :
    Takes (parseDigits digits.length) (bitString (digitOctets digits)) (some digits) := by
  induction digits using digitOctets.induct with
  | case1 => exact Takes.pure []
  | case2 digit =>
      have small := nibbles digit List.mem_cons_self
      have digitBack : ((0x0F : UInt8) <<< 4 ||| (digit &&& 0x0F)) &&& 0x0F = digit := by
        rw [nibble_eq small, ← UInt8.toNat_inj, low_toNat, nibbles_toNat (by decide) small]
        omega
      have takes := (FieldParser.takes_readOctet ((0x0F : UInt8) <<< 4 ||| (digit &&& 0x0F))).yield
        fun byte => [byte &&& 0x0F]
      rw [Option.map_some, digitBack] at takes
      exact takes
  | case3 digit next digits ih =>
      have small := nibbles digit List.mem_cons_self
      have small' := nibbles next (List.mem_cons_of_mem _ List.mem_cons_self)
      have rest := ih fun digit member =>
        nibbles digit (List.mem_cons_of_mem _ (List.mem_cons_of_mem _ member))
      have pair := nibbles_toNat small' small
      have first : (next <<< 4 ||| digit) &&& 0x0F = digit := by
        rw [← UInt8.toNat_inj, low_toNat, pair]
        omega
      have second : (next <<< 4 ||| digit) >>> 4 &&& 0x0F = next := by
        rw [← UInt8.toNat_inj, high_toNat, pair]
        omega
      rw [digitOctets, nibble_eq small, nibble_eq small']
      refine Takes.octet ?_
      rw [first, second]
      exact rest.yield fun digits => digit :: next :: digits

theorem tonNpiOctet_toNat (address : L3TPAddress) :
    address.tonNpiOctet.toNat = 128 + 16 * address.ton.toNat + address.npi.toNat := by
  have ton := address.ton.isLt
  have npi := address.npi.isLt
  have small : address.ton.toNat &&& 0x07 = address.ton.toNat := by
    rw [show 0x07 = 2 ^ 3 - 1 from rfl, Nat.and_two_pow_sub_one_eq_mod, Nat.mod_eq_of_lt ton]
  have small' : address.npi.toNat &&& 0x0F = address.npi.toNat := by
    rw [show 0x0F = 2 ^ 4 - 1 from rfl, Nat.and_two_pow_sub_one_eq_mod, Nat.mod_eq_of_lt npi]
  have spare : 0x80 ||| address.ton.toNat <<< 4 = (8 + address.ton.toNat) <<< 4 := by
    rw [show 0x80 = 1 <<< 7 from rfl, ← Nat.shiftLeft_add_eq_or_of_lt
      (by rw [Nat.shiftLeft_eq]; omega)]
    simp only [Nat.shiftLeft_eq]
    omega
  unfold tonNpiOctet
  rw [small, small', spare, ← Nat.shiftLeft_add_eq_or_of_lt (by omega), Nat.shiftLeft_eq,
    UInt8.toNat_ofNat_of_lt' (by change _ < 256; omega)]
  omega

/-- A canonical address comes back. -/
theorem takes_octets {address : L3TPAddress} (canonical : Canonical address) :
    Takes parse (bitString address.octets) (some address) := by
  have length := lengthV_toNat canonical.counted
  have zero := lengthV_eq_zero canonical.counted
  unfold octets
  refine Takes.octet ?_
  by_cases empty : address.digits = []
  · obtain ⟨ton, npi⟩ := canonical.empty empty
    rw [if_pos (zero.mpr empty), if_pos (zero.mpr empty)]
    have default : address = {} := by
      obtain ⟨ton', npi', digits⟩ := address
      simp only at empty ton npi
      rw [empty, ton, npi]
    rw [default]
    exact Takes.pure _
  · have fields := tonNpiOctet_toNat address
    have ton : BitVec.ofNat 3 (address.tonNpiOctet.toNat >>> 4 &&& 0x07) = address.ton := by
      rw [fields, Nat.shiftRight_eq_div_pow, show 0x07 = 2 ^ 3 - 1 from rfl,
        Nat.and_two_pow_sub_one_eq_mod]
      have quotient : (128 + 16 * address.ton.toNat + address.npi.toNat) / 2 ^ 4 % 2 ^ 3 =
          address.ton.toNat := by
        have small := address.ton.isLt
        have small' := address.npi.isLt
        omega
      rw [quotient, BitVec.ofNat_toNat, BitVec.setWidth_eq]
    have npi : BitVec.ofNat 4 (address.tonNpiOctet.toNat &&& 0x0F) = address.npi := by
      rw [fields, show 0x0F = 2 ^ 4 - 1 from rfl, Nat.and_two_pow_sub_one_eq_mod]
      have remainder : (128 + 16 * address.ton.toNat + address.npi.toNat) % 2 ^ 4 =
          address.npi.toNat := by
        have small' := address.npi.isLt
        omega
      rw [remainder, BitVec.ofNat_toNat, BitVec.setWidth_eq]
    rw [if_neg (mt zero.mp empty), if_neg (mt zero.mp empty), length]
    refine Takes.octet ?_
    rw [ton, npi]
    exact (takes_digits canonical.nibbles).yield (L3TPAddress.mk address.ton address.npi)

/-- The digits that are read have four bits each. -/
theorem ensures_parseDigits (count : Nat) :
    Ensures (parseDigits count) fun digits _ =>
      digits.length = count ∧ ∀ digit ∈ digits, digit.toNat < 16 := by
  have low (octet : UInt8) : (octet &&& 0x0F).toNat < 16 := by
    rw [low_toNat]
    exact Nat.mod_lt _ (by decide)
  have high (octet : UInt8) : (octet >>> 4 &&& 0x0F).toNat < 16 := by
    have small := octet.toNat_lt
    rw [high_toNat]
    omega
  induction count using parseDigits.induct with
  | case1 => exact Ensures.pure ⟨rfl, fun _ member => absurd member List.not_mem_nil⟩
  | case2 =>
      refine FieldParser.ensures_readOctet.bind fun byte _ _ => Ensures.pure ⟨rfl, ?_⟩
      intro digit member
      rw [List.mem_singleton.mp member]
      exact low byte
  | case3 count ih =>
      refine FieldParser.ensures_readOctet.bind fun byte _ _ => ?_
      refine ih.bind fun digits _ rest => Ensures.pure ⟨?_, ?_⟩
      · rw [List.length_cons, List.length_cons, rest.1]
      · intro digit member
        rcases List.mem_cons.mp member with rfl | member
        · exact low byte
        · rcases List.mem_cons.mp member with rfl | member
          · exact high byte
          · exact rest.2 digit member

/-- An address that is read is canonical. -/
theorem ensures_parse : Ensures parse fun address _ => Canonical address := by
  refine FieldParser.ensures_readOctet.bind fun length _ _ => ?_
  by_cases zero : length = 0
  · rw [if_pos zero]
    exact Ensures.pure ⟨Nat.zero_le _, fun _ member => absurd member List.not_mem_nil,
      fun _ => ⟨rfl, rfl⟩⟩
  · rw [if_neg zero]
    refine FieldParser.ensures_readOctet.bind fun tonNpi _ _ => ?_
    refine (ensures_parseDigits length.toNat).bind fun digits _ read => Ensures.pure ?_
    refine ⟨?_, read.2, fun empty => ?_⟩
    · rw [read.1]
      exact Nat.le_of_lt_succ length.toNat_lt
    · have none := read.1
      rw [show digits = [] from empty] at none
      exact absurd (UInt8.toNat_inj.mp none.symm) zero

end L3TPAddress

/-! ## User data -/

namespace SMS

/-- User data within the announced length comes back. -/
theorem takes_userData {udl dcs : UInt8} {data : List UInt8}
    (announced : data.length ≤ tpudOctets udl dcs) :
    TakesAll (readUserData udl dcs) (bitString data) (some data) := by
  intro before
  have left : (BitCursor.between before (bitString data)).bits.length -
      (BitCursor.between before (bitString data)).pos = 8 * data.length := by
    rw [BitCursor.between, List.length_append, Nat.add_sub_cancel_left,
      Foundation.bitString_length]
  change (readOctets (min (tpudOctets udl dcs)
    (((BitCursor.between before (bitString data)).bits.length -
      (BitCursor.between before (bitString data)).pos) / 8)) _).toOption = _
  rw [left, Nat.mul_div_cancel_left _ (by decide), Nat.min_eq_right announced]
  exact (FieldParser.takes_readOctets data).all before

/-- The user data that is read is within the announced length. -/
theorem ensures_readUserData (udl dcs : UInt8) :
    Ensures (readUserData udl dcs) fun data _ => data.length ≤ tpudOctets udl dcs := by
  refine FieldParser.ensures_remainingBits.bind fun bits _ _ => ?_
  refine (FieldParser.ensures_readOctets _).mono fun data _ read => ?_
  rw [read.1]
  exact Nat.min_le_left ..

/-- The fields of a first octet come back out. -/
theorem firstOctet_fields (mti : Fin 4) (bit2 sri udhi rp : Bool) (vpf : Fin 4) :
    let octet := tpduFirstOctet mti bit2.toNat vpf sri.toNat udhi.toNat rp.toNat
    tpduMti octet = mti ∧ tpduBit2 octet = bit2.toNat ∧ tpduVpf octet = vpf ∧
      tpduSri octet = sri.toNat ∧ tpduUdhi octet = udhi.toNat ∧ tpduRp octet = rp.toNat := by
  revert mti bit2 sri udhi rp vpf
  decide

end SMS

theorem flag_toNat (flag : Bool) : decide (flag.toNat ≠ 0) = flag := by
  cases flag with
  | true => rfl
  | false => rfl

/-! ## Deliver -/

namespace L3TPDeliver

/-- The time stamp is there, and the user data are not longer than announced. -/
structure Canonical (msg : L3TPDeliver) : Prop where
  address : msg.originatingAddress.Canonical
  stamped : msg.scts.isSome = true
  announced : msg.userData.length ≤ tpudOctets msg.udl msg.dcs

/-- A Deliver has the octets that are counted for it. -/
theorem octets_length {msg : L3TPDeliver}
    (counted : msg.originatingAddress.digits.length ≤ 255) :
    msg.octets.length = msg.bodyLength := by
  have address := L3TPAddress.octets_length counted
  unfold octets bodyLength
  cases stamp : msg.scts with
  | none =>
      simp only [List.length_cons, List.length_append, address, Option.elim_none,
        Option.isSome_none, Bool.false_eq_true, if_false, List.length_nil]
      omega
  | some stamp =>
      simp only [List.length_cons, List.length_append, address, Option.elim_some,
        Option.isSome_some, if_true, TPSCTimeStamp.octets_length]
      omega

/-- A Deliver that is read is canonical. -/
theorem ensures_parse : Ensures parse fun msg _ => Canonical msg := by
  refine FieldParser.ensures_readOctet.bind fun header _ _ => ?_
  by_cases mti : tpduMti header ≠ 0
  · rw [if_pos mti]
    exact Ensures.throw _
  · rw [if_neg mti]
    refine L3TPAddress.ensures_parse.bind fun address _ canonical => ?_
    refine FieldParser.ensures_readOctet.bind fun pid _ _ => ?_
    refine FieldParser.ensures_readOctet.bind fun dcs _ _ => ?_
    refine TPSCTimeStamp.ensures_parse.bind fun stamp _ _ => ?_
    refine FieldParser.ensures_readOctet.bind fun udl _ _ => ?_
    refine (ensures_readUserData udl dcs).bind fun data _ announced => Ensures.pure ?_
    exact ⟨canonical, rfl, announced⟩

/-- The fields of the first octet come back. -/
theorem header_fields (msg : L3TPDeliver) :
    tpduMti msg.header = 0 ∧ decide (tpduBit2 msg.header ≠ 0) = msg.mms ∧
      decide (tpduSri msg.header ≠ 0) = msg.sri ∧ decide (tpduUdhi msg.header ≠ 0) = msg.udhi ∧
      decide (tpduRp msg.header ≠ 0) = msg.rp := by
  obtain ⟨mti, bit2, _, sri, udhi, rp⟩ := firstOctet_fields 0 msg.mms msg.sri msg.udhi msg.rp 0
  unfold header
  refine ⟨mti, ?_, ?_, ?_, ?_⟩
  · exact (congrArg (fun field => decide (field ≠ 0)) bit2).trans (flag_toNat msg.mms)
  · exact (congrArg (fun field => decide (field ≠ 0)) sri).trans (flag_toNat msg.sri)
  · exact (congrArg (fun field => decide (field ≠ 0)) udhi).trans (flag_toNat msg.udhi)
  · exact (congrArg (fun field => decide (field ≠ 0)) rp).trans (flag_toNat msg.rp)

/-- A canonical Deliver comes back. -/
theorem takes_octets {msg : L3TPDeliver} (canonical : Canonical msg) :
    TakesAll parse (bitString msg.octets) (some msg) := by
  obtain ⟨stamp, stamped⟩ := Option.isSome_iff_exists.mp canonical.stamped
  obtain ⟨mti, mms, sri, udhi, rp⟩ := header_fields msg
  have address := L3TPAddress.takes_octets canonical.address
  have data := takes_userData canonical.announced
  unfold octets
  rw [stamped]
  refine TakesAll.octet ?_
  rw [if_neg (not_not.mpr mti), mms, sri, udhi, rp]
  refine address.octets_all (TakesAll.octet (TakesAll.octet ?_))
  refine stamp.takes_octets.octets_all (TakesAll.octet ?_)
  rw [← stamped]
  exact data.yield (L3TPDeliver.mk msg.mms msg.sri msg.udhi msg.rp msg.originatingAddress msg.pid
    msg.dcs msg.scts msg.udl)

end L3TPDeliver

/-! ## Submit -/

namespace L3TPSubmit

/-- The validity period has the octets of its format, and the user data are not longer than
announced. -/
structure Canonical (msg : L3TPSubmit) : Prop where
  address : msg.destinationAddress.Canonical
  validity : msg.validityPeriod.length = validityOctets msg.vpf.toNat
  announced : msg.userData.length ≤ tpudOctets msg.udl msg.dcs

/-- A Submit has the octets that are counted for it. -/
theorem octets_length {msg : L3TPSubmit}
    (counted : msg.destinationAddress.digits.length ≤ 255) :
    msg.octets.length = msg.bodyLength := by
  have address := L3TPAddress.octets_length counted
  unfold octets bodyLength
  simp only [List.length_cons, List.length_append, address]
  omega

/-- A Submit that is read is canonical. -/
theorem ensures_parse : Ensures parse fun msg _ => Canonical msg := by
  refine FieldParser.ensures_readOctet.bind fun header _ _ => ?_
  by_cases mti : tpduMti header ≠ 1
  · rw [if_pos mti]
    exact Ensures.throw _
  · rw [if_neg mti]
    refine FieldParser.ensures_readOctet.bind fun mr _ _ => ?_
    refine L3TPAddress.ensures_parse.bind fun address _ canonical => ?_
    refine FieldParser.ensures_readOctet.bind fun pid _ _ => ?_
    refine FieldParser.ensures_readOctet.bind fun dcs _ _ => ?_
    refine (FieldParser.ensures_readOctets _).bind fun validity _ period => ?_
    refine FieldParser.ensures_readOctet.bind fun udl _ _ => ?_
    refine (ensures_readUserData udl dcs).bind fun data _ announced => Ensures.pure ?_
    refine ⟨canonical, ?_, announced⟩
    have small : tpduVpf header < 2 ^ 2 := Nat.and_lt_two_pow _ (by decide)
    change validity.length = validityOctets (tpduVpf header % 2 ^ 2)
    rw [period.1, Nat.mod_eq_of_lt small]

/-- The fields of the first octet come back. -/
theorem header_fields (msg : L3TPSubmit) :
    tpduMti msg.header = 1 ∧ decide (tpduBit2 msg.header ≠ 0) = msg.rd ∧
      tpduVpf msg.header = msg.vpf.toNat ∧ decide (tpduSri msg.header ≠ 0) = msg.srr ∧
      decide (tpduUdhi msg.header ≠ 0) = msg.udhi ∧ decide (tpduRp msg.header ≠ 0) = msg.rp := by
  obtain ⟨mti, bit2, vpf, sri, udhi, rp⟩ :=
    firstOctet_fields 1 msg.rd msg.srr msg.udhi msg.rp ⟨msg.vpf.toNat, msg.vpf.isLt⟩
  unfold header
  refine ⟨mti, ?_, vpf, ?_, ?_, ?_⟩
  · exact (congrArg (fun field => decide (field ≠ 0)) bit2).trans (flag_toNat msg.rd)
  · exact (congrArg (fun field => decide (field ≠ 0)) sri).trans (flag_toNat msg.srr)
  · exact (congrArg (fun field => decide (field ≠ 0)) udhi).trans (flag_toNat msg.udhi)
  · exact (congrArg (fun field => decide (field ≠ 0)) rp).trans (flag_toNat msg.rp)

/-- A canonical Submit comes back. -/
theorem takes_octets {msg : L3TPSubmit} (canonical : Canonical msg) :
    TakesAll parse (bitString msg.octets) (some msg) := by
  obtain ⟨mti, rd, vpf, srr, udhi, rp⟩ := header_fields msg
  have address := L3TPAddress.takes_octets canonical.address
  have period := FieldParser.takes_readOctets msg.validityPeriod
  have data := takes_userData canonical.announced
  rw [canonical.validity] at period
  unfold octets
  refine TakesAll.octet ?_
  rw [if_neg (not_not.mpr mti), rd, vpf, srr, udhi, rp, BitVec.ofNat_toNat, BitVec.setWidth_eq]
  refine TakesAll.octet (address.octets_all (TakesAll.octet (TakesAll.octet ?_)))
  refine period.octets_all (TakesAll.octet ?_)
  exact data.yield (L3TPSubmit.mk msg.rd msg.vpf msg.srr msg.udhi msg.rp msg.mr
    msg.destinationAddress msg.pid msg.dcs msg.validityPeriod msg.udl)

end L3TPSubmit

/-! ## Status report -/

namespace L3TPStatusReport

structure Canonical (msg : L3TPStatusReport) : Prop where
  address : msg.destinationAddress.Canonical
  stamped : msg.scts.isSome = true

/-- A Status Report has the octets that are counted for it. -/
theorem octets_length {msg : L3TPStatusReport}
    (counted : msg.destinationAddress.digits.length ≤ 255) :
    msg.octets.length = msg.bodyLength := by
  have address := L3TPAddress.octets_length counted
  unfold octets bodyLength
  cases stamp : msg.scts with
  | none =>
      simp only [List.length_cons, List.length_append, address, Option.elim_none,
        Option.isSome_none, Bool.false_eq_true, if_false, List.length_nil]
      omega
  | some stamp =>
      simp only [List.length_cons, List.length_append, address, Option.elim_some,
        Option.isSome_some, if_true, TPSCTimeStamp.octets_length, List.length_nil]
      omega

/-- A Status Report that is read is canonical. -/
theorem ensures_parse : Ensures parse fun msg _ => Canonical msg := by
  refine FieldParser.ensures_readOctet.bind fun header _ _ => ?_
  by_cases mti : tpduMti header ≠ 2
  · rw [if_pos mti]
    exact Ensures.throw _
  · rw [if_neg mti]
    refine FieldParser.ensures_readOctet.bind fun mr _ _ => ?_
    refine L3TPAddress.ensures_parse.bind fun address _ canonical => ?_
    refine FieldParser.ensures_readOctet.bind fun pid _ _ => ?_
    refine FieldParser.ensures_readOctet.bind fun dcs _ _ => ?_
    refine TPSCTimeStamp.ensures_parse.bind fun stamp _ _ => ?_
    exact FieldParser.ensures_readOctet.bind fun sts _ _ => Ensures.pure ⟨canonical, rfl⟩

/-- A canonical Status Report comes back. -/
theorem takes_octets {msg : L3TPStatusReport} (canonical : Canonical msg) :
    TakesAll parse (bitString msg.octets) (some msg) := by
  obtain ⟨stamp, stamped⟩ := Option.isSome_iff_exists.mp canonical.stamped
  have address := L3TPAddress.takes_octets canonical.address
  have mti : tpduMti (tpduFirstOctet 2 0 0 0 0 0) = 2 := by decide
  unfold octets
  rw [stamped]
  refine TakesAll.octet ?_
  rw [if_neg (not_not.mpr mti)]
  refine TakesAll.octet (address.octets_all (TakesAll.octet (TakesAll.octet ?_)))
  refine stamp.takes_octets.octets_all ?_
  rw [← stamped]
  exact (FieldParser.takes_readOctet msg.sts).all.yield
    (L3TPStatusReport.mk msg.mr msg.destinationAddress msg.pid msg.dcs msg.scts)

end L3TPStatusReport

/-! ## Command -/

namespace L3TPCommand

/-- A Command has the octets that are counted for it. -/
theorem octets_length {msg : L3TPCommand}
    (counted : ∀ address ∈ msg.address, address.digits.length ≤ 255) :
    msg.octets.length = msg.bodyLength := by
  unfold octets bodyLength
  cases present : msg.address with
  | none => rfl
  | some address =>
      have address := L3TPAddress.octets_length (counted address present)
      simp only [List.length_cons, Option.elim_some, address]
      omega

/-- A Command that is read has no address. -/
theorem ensures_parse : Ensures parse fun msg _ => msg.address = none := by
  refine FieldParser.ensures_readOctet.bind fun header _ _ => ?_
  by_cases mti : tpduMti header ≠ 2
  · rw [if_pos mti]
    exact Ensures.throw _
  · rw [if_neg mti]
    refine FieldParser.ensures_readOctet.bind fun mr _ _ => ?_
    refine FieldParser.ensures_readOctet.bind fun pid _ _ => ?_
    refine FieldParser.ensures_readOctet.bind fun dcs _ _ => ?_
    exact FieldParser.ensures_readOctet.bind fun cmd _ _ => Ensures.pure rfl

/-- A Command without address comes back. -/
theorem takes_octets {msg : L3TPCommand} (canonical : msg.address = none) :
    TakesAll parse (bitString msg.octets) (some msg) := by
  obtain ⟨mr, pid, dcs, cmd, address⟩ := msg
  obtain rfl : address = none := canonical
  have mti : tpduMti (tpduFirstOctet 2 0 0 0 0 0) = 2 := by decide
  refine TakesAll.octet ?_
  rw [if_neg (not_not.mpr mti)]
  refine TakesAll.octet (TakesAll.octet (TakesAll.octet ?_))
  exact (FieldParser.takes_readOctet cmd).all.yield fun cmd => L3TPCommand.mk mr pid dcs cmd none

end L3TPCommand

/-! ## All TPDUs -/

/-- The octets that are written are as many as announced, and the value comes back from them if
and only if it agrees with its own length fields. -/
structure TpduCodec {α : Type} (parse : FieldParser α) (msg : α) (write : List Op)
    (octets : List UInt8) (bodyLength : Nat) (canonical : Prop) : Prop where
  written : ∀ pos, fields pos write = bitString octets
  length : octets.length = bodyLength
  parsed : FieldParser.parse parse octets = some msg ↔ canonical

/-- Each TPDU whose digits can be counted has its announced length, comes back when canonical, and
is canonical when read. -/
theorem tpdu_round_trips :
    (∀ msg : L3TPDeliver, msg.originatingAddress.digits.length ≤ 255 →
      TpduCodec L3TPDeliver.parse msg msg.write msg.octets msg.bodyLength msg.Canonical) ∧
    (∀ msg : L3TPSubmit, msg.destinationAddress.digits.length ≤ 255 →
      TpduCodec L3TPSubmit.parse msg msg.write msg.octets msg.bodyLength msg.Canonical) ∧
    (∀ msg : L3TPStatusReport, msg.destinationAddress.digits.length ≤ 255 →
      TpduCodec L3TPStatusReport.parse msg msg.write msg.octets msg.bodyLength msg.Canonical) ∧
    ∀ msg : L3TPCommand, (∀ address ∈ msg.address, address.digits.length ≤ 255) →
      TpduCodec L3TPCommand.parse msg msg.write msg.octets msg.bodyLength (msg.address = none) := by
  refine ⟨fun msg counted => ?_, fun msg counted => ?_, fun msg counted => ?_,
    fun msg counted => ?_⟩
  · exact ⟨fields_writeOctets msg.octets, L3TPDeliver.octets_length counted,
      FieldParser.reparse_iff L3TPDeliver.ensures_parse (fun _ => L3TPDeliver.takes_octets) msg⟩
  · exact ⟨fields_writeOctets msg.octets, L3TPSubmit.octets_length counted,
      FieldParser.reparse_iff L3TPSubmit.ensures_parse (fun _ => L3TPSubmit.takes_octets) msg⟩
  · exact ⟨fields_writeOctets msg.octets, L3TPStatusReport.octets_length counted,
      FieldParser.reparse_iff L3TPStatusReport.ensures_parse
        (fun _ => L3TPStatusReport.takes_octets) msg⟩
  · exact ⟨fields_writeOctets msg.octets, L3TPCommand.octets_length counted,
      FieldParser.reparse_iff L3TPCommand.ensures_parse (fun _ => L3TPCommand.takes_octets) msg⟩

/-- A message to a number of five digits, with a relative validity period and three octets. -/
private def submitted : L3TPSubmit where
  rd := false
  vpf := 2
  srr := true
  rp := true
  mr := 0x2A
  destinationAddress := { digits := [4, 9, 1, 7, 0] }
  pid := 0x40
  dcs := 0x04
  validityPeriod := [0x99, 0x21, 0x43, 0x65, 0x00, 0x00, 0x08]
  udl := 3
  userData := [0x47, 0x53, 0x4D]

/-- A Submit with digits, a validity period and user data comes back. -/
theorem tpdu_round_trips_submit :
    TpduCodec L3TPSubmit.parse submitted submitted.write submitted.octets submitted.bodyLength
        submitted.Canonical ∧
      FieldParser.parse L3TPSubmit.parse submitted.octets = some submitted := by
  have codec := tpdu_round_trips.2.1 submitted (by decide)
  refine ⟨codec, codec.parsed.mpr ?_⟩
  exact
    { address := { counted := by decide, nibbles := by simp [submitted], empty := nofun }
      validity := by decide
      announced := by decide }

/-- A relative validity period without its octet. -/
theorem inconsistent_submit_lost :
    ¬ FieldParser.parse L3TPSubmit.parse (L3TPSubmit.octets { vpf := 1 }) = some { vpf := 1 } := by
  intro parsed
  have canonical := (FieldParser.reparse_iff L3TPSubmit.ensures_parse
    (fun _ => L3TPSubmit.takes_octets) { vpf := 1 }).mp parsed
  exact absurd canonical.validity (by decide)

end Gsml3
