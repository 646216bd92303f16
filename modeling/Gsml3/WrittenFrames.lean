import Gsml3.Core.ElementCodec
import Gsml3.FixedFrames

/-!
# Written frames are parsed

A message behind a standard header is parsed to what its own parser makes of its body: the header
comes back with its discriminator, message type and transaction, and four octets are not taken for
a short message.
-/

namespace Gsml3

open BitWriter (fields endPos)
open FieldParser
open Foundation (bitString)

/-! ## Headers -/

/-- A header that is read back: the discriminator is in use, and the message type fits the bits it
is read from. -/
structure StandardHeader (pd mti : Nat) : Prop where
  nibble : pd < 2 ^ 4
  used : ¬(pd = 0x02 ∨ pd = 0x04 ∨ pd = 0x07)
  fits : mti < if hasNetworkIndicator pd then 2 ^ 6 else if pd = 0x09 then 2 ^ 5 else 2 ^ 8

variable {pd mti : Nat}

instance (pd mti : Nat) : Decidable (StandardHeader pd mti) :=
  decidable_of_iff (pd < 2 ^ 4 ∧ ¬(pd = 0x02 ∨ pd = 0x04 ∨ pd = 0x07) ∧
      mti < if hasNetworkIndicator pd then 2 ^ 6 else if pd = 0x09 then 2 ^ 5 else 2 ^ 8)
    ⟨fun all => ⟨all.1, all.2.1, all.2.2⟩, fun header => ⟨header.nibble, header.used, header.fits⟩⟩

theorem StandardHeader.mti_lt (standard : StandardHeader pd mti) : mti < 2 ^ 8 := by
  have small := standard.fits
  split at small
  · exact small.trans (by decide)
  · split at small
    · exact small.trans (by decide)
    · exact small

theorem StandardHeader.notShort (standard : StandardHeader pd mti) :
    isTifShort mti = false ∧ isNoHeaderShort mti = false := by
  have small := standard.mti_lt
  constructor
  · apply decide_eq_false
    rw [kRRTifShortBase]
    omega
  · apply decide_eq_false
    omega

/-- The first octet holds the transaction, a flag that is not set, and the discriminator. -/
theorem header_unpacked (pd : Nat) (pd_small : pd < 2 ^ 4) (ti : Nat) (ti_small : ti < 2 ^ 3) :
    let octet := ti <<< 5 ||| 0 ||| pd &&& 0x0F
    octet < 2 ^ 8 ∧ octet &&& 0x0F = pd ∧ octet >>> 5 &&& 0x07 = ti ∧
      octet >>> 4 &&& 0x01 = 0 := by
  revert pd ti
  decide

/-- The second octet holds the message type. -/
theorem StandardHeader.octet_mti (standard : StandardHeader pd mti) :
    (encodeL3Header pd mti ti false).2.toNat = mti := by
  have small := standard.fits
  have normal : ¬(isTifShort mti = true ∧ pd = 0x06) := by
    rw [standard.notShort.1]
    exact fun short => absurd short.1 nofun
  rw [encodeL3Header, if_neg normal]
  change (UInt8.ofNat (if hasNetworkIndicator pd then _ else _)).toNat = mti
  split
  case isTrue network =>
    rw [if_pos network] at small
    change (UInt8.ofNat (mti &&& 2 ^ 6 - 1)).toNat = mti
    rw [Nat.and_two_pow_sub_one_eq_mod, Nat.mod_eq_of_lt small,
      UInt8.toNat_ofNat_of_lt' (standard.mti_lt)]
  case isFalse =>
    change (UInt8.ofNat (mti &&& 2 ^ 8 - 1)).toNat = mti
    rw [Nat.and_two_pow_sub_one_eq_mod, Nat.mod_eq_of_lt standard.mti_lt,
      UInt8.toNat_ofNat_of_lt' (standard.mti_lt)]

theorem StandardHeader.octet_pd (standard : StandardHeader pd mti) (ti : Nat) :
    (encodeL3Header pd mti ti false).1.toNat = (ti % 2 ^ 3) <<< 5 ||| 0 ||| pd &&& 0x0F := by
  have low : ti &&& 0x07 = ti % 2 ^ 3 := Nat.and_two_pow_sub_one_eq_mod ti 3
  have small := (header_unpacked pd standard.nibble (ti % 2 ^ 3)
    (Nat.mod_lt _ (Nat.two_pow_pos 3))).1
  rw [encodeL3Header, ← low]
  exact UInt8.toNat_ofNat_of_lt' (low ▸ small)

theorem parseL3Header_encode (standard : StandardHeader pd mti) (ti : Nat) (rest : List UInt8) :
    parseL3Header ((encodeL3Header pd mti ti false).1 :: (encodeL3Header pd mti ti false).2 ::
      rest) = .ok { pd, mti, ti := ti % 2 ^ 3, tif := false } := by
  obtain ⟨-, discriminator, transaction, flag⟩ :=
    header_unpacked pd standard.nibble (ti % 2 ^ 3) (Nat.mod_lt _ (Nat.two_pow_pos 3))
  have first := standard.octet_pd ti
  have second := @StandardHeader.octet_mti pd mti ti standard
  have room := standard.fits
  have type : (if hasNetworkIndicator pd then mti &&& 0x3F
      else if pd = 0x06 ∧ (decide ((0 : Nat) ≠ 0)) = true then kRRTifShortBase ||| (mti &&& 0x1F)
      else if pd = 0x09 then mti &&& 0x1F else mti) = mti := by
    split
    case isTrue network =>
      rw [if_pos network] at room
      exact (Nat.and_two_pow_sub_one_eq_mod mti 6).trans (Nat.mod_eq_of_lt room)
    case isFalse plain =>
      rw [if_neg plain] at room
      rw [if_neg (fun short => absurd short.2 nofun)]
      split
      case isTrue sms =>
        rw [if_pos sms] at room
        exact (Nat.and_two_pow_sub_one_eq_mod mti 5).trans (Nat.mod_eq_of_lt room)
      case isFalse => rfl
  rw [parseL3Header]
  simp only [first, second, discriminator, transaction, flag]
  rw [if_neg standard.used, type]
  rfl

/-! ## Frames -/

namespace Parser

variable {M : Type} {others : L3Header → FieldParser M} {requireFullConsumption : Bool}
  {msg : L3Encoding} {parsed : ParsedMessage M}

theorem runOn_takesAll {α : Type} {parser : FieldParser α} {octets : List UInt8} {value : α}
    (takes : TakesAll parser (bitString octets) (some value)) :
    runOn parser octets = .ok (value, 0) := by
  have whole := takes []
  rw [runOn]
  cases run : parser (.between [] (bitString octets)) with
  | error error =>
      rw [run] at whole
      cases whole
  | ok read =>
      rw [run] at whole
      obtain rfl := Option.some.inj whole
      change Except.ok (value, ([] ++ bitString octets ++ []).length - _) = _
      rw [List.append_nil]
      exact congrArg (fun left => Except.ok (value, left)) (Nat.sub_self _)

/-- A message as it is written behind its header: the announced length is that of its body, and
four octets are not those of the two discriminators whose short messages come first. -/
structure WrittenStandard (msg : L3Encoding) : Prop where
  header : StandardHeader msg.pd msg.mti
  length : endPos 0 msg.fields = msg.bodyLength * 8
  notFour : msg.bodyLength = 2 → ¬(msg.pd = 0x01 ∨ msg.pd = 0x00)

/-- The header that is read back. -/
def readHeader (msg : L3Encoding) : L3Header where
  pd := msg.pd
  mti := msg.mti
  ti := msg.ti % 2 ^ 3
  tif := false

theorem WrittenStandard.octets_eq (standard : WrittenStandard msg) :
    msg.octets = (encodeL3Header msg.pd msg.mti msg.ti false).1 ::
      (encodeL3Header msg.pd msg.mti msg.ti false).2 :: msg.body := by
  obtain ⟨plain, headed⟩ := standard.header.notShort
  rw [L3Encoding.octets, L3Encoding.header, if_neg (headed ▸ Bool.false_ne_true), plain]
  rfl

theorem WrittenStandard.parseL3Header_eq (standard : WrittenStandard msg) :
    parseL3Header msg.octets = .ok (readHeader msg) := by
  rw [standard.octets_eq]
  exact parseL3Header_encode standard.header msg.ti msg.body

theorem WrittenStandard.bitString_body (standard : WrittenStandard msg) :
    bitString (msg.octets.drop 2) = fields 0 msg.fields := by
  rw [standard.octets_eq]
  change bitString msg.body = _
  apply FieldParser.bitString_octetGroups
  have count := BitWriter.fields_length 0 msg.fields
  rw [standard.length, Nat.zero_add] at count
  omega

/-- What the parser of a body makes of what is written for it is what `parseL3` returns. -/
theorem parseL3_written (standard : WrittenStandard msg)
    (takes : TakesAll (parseStandardBody others (readHeader msg)) (fields 0 msg.fields)
      (some parsed)) :
    parseL3 others requireFullConsumption msg.octets = .ok parsed := by
  have run : runOn (parseStandardBody others (readHeader msg)) (msg.octets.drop 2) =
      .ok (parsed, 0) := by
    apply runOn_takesAll
    rw [standard.bitString_body]
    exact takes
  have exactly : parseExactly others msg.octets = some parsed := by
    rw [parseExactly, standard.parseL3Header_eq]
    simp only [run]
  have whole : parseStandard others requireFullConsumption msg.octets = .ok parsed := by
    rw [parseStandard, standard.parseL3Header_eq]
    simp only [run]
    exact if_neg fun left => left.2 rfl
  have count : msg.octets.length = 2 + msg.bodyLength := by
    rw [standard.octets_eq, List.length_cons, List.length_cons, msg.body_length]
    omega
  have filled : msg.octets ≠ [] := by
    rw [standard.octets_eq]
    exact List.cons_ne_nil _ _
  rw [parseL3, if_neg filled, if_neg (by omega)]
  split
  case isFalse => exact whole
  case isTrue four =>
    have nibble : (msg.octets.getD 0 0).toNat &&& 0x0F = msg.pd := by
      rw [standard.octets_eq]
      change (encodeL3Header msg.pd msg.mti msg.ti false).1.toNat &&& 0x0F = msg.pd
      rw [standard.header.octet_pd]
      exact (header_unpacked msg.pd standard.header.nibble (msg.ti % 2 ^ 3)
        (Nat.mod_lt _ (Nat.two_pow_pos 3))).2.1
    have other := standard.notFour (by omega)
    rw [parseFourOctets]
    simp only [nibble, if_neg other, exactly, Option.some_or]

end Parser

end Gsml3
