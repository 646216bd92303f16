import Gsml3.CC.Elements
import Gsml3.Core.ElementCodec

/-!
# Party numbers read back

Digits are written two to an octet, without a leading plus sign, and read behind one for numbers of
international type.  So a number comes back with the digits it has if the plus sign and the type
agree, and there is no other plus sign; the parser takes all octets in any case.
-/

namespace Gsml3

open BitWriter (Op fields endPos)
open FieldParser

/-! ## Digits -/

/-- `TypeOfNumber::National`. -/
def TypeOfNumber.national : Nat := 2

/-- `NumberingPlan::E164`. -/
def NumberingPlan.e164 : Nat := 1

/-- The half octet of a digit; another character is coded as 0. -/
def bcdEncode (c : Char) : Nat :=
  if c = '*' then 10
  else if c = '#' then 11
  else if '0' ≤ c ∧ c ≤ '9' then c.toNat - '0'.toNat
  else 0

namespace L3BCDDigits

/-- A character that is stored. -/
def stores (c : Char) : Bool :=
  ('0' ≤ c ∧ c ≤ '9') ∨ c = '+' ∨ c = '*' ∨ c = '#'

/-- The constructor from a text. -/
def ofText (wDigits : List Char) : List Char :=
  (wDigits.filter stores).take maxDigits

/-- The digits without the plus sign in front. -/
def unsigned : List Char → List Char
  | '+' :: digits => digits
  | digits => digits

/-- The loop of `write`: the second digit of an octet goes first. -/
def writePairs : List Char → List Op
  | [] => []
  | [c] => [.writeField 0x0f 4, .writeField (UInt32.ofNat (bcdEncode c)) 4]
  | c :: d :: digits =>
      .writeField (UInt32.ofNat (bcdEncode d)) 4 :: .writeField (UInt32.ofNat (bcdEncode c)) 4 ::
        writePairs digits

/-- The digits behind the sign, in pairs. -/
def write (digits : List Char) : List Op :=
  writePairs (unsigned digits)

/-- Half as many octets as digits, rounded up. -/
def lengthV (digits : List Char) : Nat :=
  (unsigned digits).length / 2 + (unsigned digits).length % 2

/-- The digits as a text of the buffer. -/
structure Stored (digits : List Char) : Prop where
  room : digits.length ≤ maxDigits
  stored : ∀ c ∈ digits, stores c = true

/-- The digit that an encoded character is read as. -/
def redigit (c : Char) : Char :=
  bcdDecode (bcdEncode c)

/-- The digits that are read back. -/
def reread (international : Bool) (digits : List Char) : List Char :=
  ((if international then ['+'] else []) ++ (unsigned digits).map redigit).take maxDigits

/-- The plus sign is in front, for numbers of international type and for no others. -/
structure Canonical (international : Bool) (digits : List Char) : Prop where
  signed : international = true ↔ digits.head? = some '+'
  plain : '+' ∉ unsigned digits

section Digits

variable {digits : List Char}

/-- A number made of a text fits its storage. -/
theorem stored_ofText (wDigits : List Char) : Stored (ofText wDigits) where
  room := List.length_take_le ..
  stored _ member := (List.mem_filter.mp (List.mem_of_mem_take member)).2

theorem unsigned_length_le (digits : List Char) : (unsigned digits).length ≤ digits.length := by
  unfold unsigned
  split
  · exact Nat.le_succ _
  · exact le_rfl

/-- Digits without a sign are all written. -/
theorem unsigned_of_head (plain : digits.head? ≠ some '+') : unsigned digits = digits := by
  unfold unsigned
  split
  · exact absurd rfl plain
  · rfl

theorem mem_of_mem_unsigned {c : Char} (member : c ∈ unsigned digits) : c ∈ digits := by
  unfold unsigned at member
  split at member
  · exact List.mem_cons_of_mem _ member
  · exact member

theorem endPos_writePairs (digits : List Char) (pos : Nat) :
    endPos pos (writePairs digits) = pos + 8 * (digits.length / 2 + digits.length % 2) := by
  induction digits using writePairs.induct generalizing pos with
  | case1 => rfl
  | case2 c =>
      rw [List.length_singleton]
      rfl
  | case3 c d digits ih =>
      have length : (c :: d :: digits).length / 2 + (c :: d :: digits).length % 2 =
          digits.length / 2 + digits.length % 2 + 1 := by
        rw [List.length_cons, List.length_cons]
        omega
      rw [length]
      change endPos (pos + 4 + 4) (writePairs digits) = _
      rw [ih]
      omega

/-- A number takes the octets counted for it. -/
theorem endPos_write (digits : List Char) (pos : Nat) :
    endPos pos (write digits) = pos + 8 * lengthV digits :=
  endPos_writePairs (unsigned digits) pos

/-- A stored number takes ten octets at most. -/
theorem lengthV_le (stored : Stored digits) : lengthV digits ≤ 10 := by
  have room := (unsigned_length_le digits).trans stored.room
  unfold maxDigits at room
  unfold lengthV
  omega

/-- An encoded digit is no filler. -/
theorem bcdEncode_lt (c : Char) : bcdEncode c < 12 := by
  unfold bcdEncode
  split
  · decide
  · split
    · decide
    · split
      case isTrue digit =>
        have high : c.toNat ≤ '9'.toNat := digit.2
        change c.toNat ≤ 57 at high
        change c.toNat - 48 < 12
        omega
      case isFalse => decide

theorem stored_bcdEncode (c : Char) :
    (UInt32.ofNat (bcdEncode c)).toNat % 2 ^ 4 = bcdEncode c := by
  have small := bcdEncode_lt c
  rw [UInt32.toNat_ofNat_of_lt' (small.trans (by decide)),
    Nat.mod_eq_of_lt (small.trans (by decide))]

/-- No half octet stands for the sign. -/
theorem bcdDecode_ne_plus (d : Nat) : bcdDecode d ≠ '+' := by
  unfold bcdDecode
  split
  · decide
  · split
    · decide
    · split
      case isTrue small => interval_cases d <;> decide
      case isFalse => decide

/-- All characters that are stored but the plus sign come back. -/
theorem redigit_eq {c : Char} (stored : stores c = true) (digit : c ≠ '+') : redigit c = c := by
  unfold redigit bcdEncode
  split
  case isTrue star => exact star.symm
  case isFalse star =>
    split
    case isTrue hash => exact hash.symm
    case isFalse hash =>
      have range : '0' ≤ c ∧ c ≤ '9' := by
        rcases of_decide_eq_true stored with range | plus | same | same
        · exact range
        · exact absurd plus digit
        · exact absurd same star
        · exact absurd same hash
      rw [if_pos range]
      have low : 48 ≤ c.toNat := range.1
      have high : c.toNat ≤ 57 := range.2
      change bcdDecode (c.toNat - 48) = c
      unfold bcdDecode
      rw [if_neg (by omega), if_neg (by omega), if_pos (by omega)]
      change Char.ofNat (48 + (c.toNat - 48)) = c
      rw [Nat.add_sub_cancel' low, Char.ofNat_toNat]

/-- The digits of an octet are pushed behind the others, if there is room. -/
theorem push_encoded (before : List Char) (c d : Char) :
    push before (bcdEncode c) (bcdEncode d) =
      if before.length + 1 < maxDigits then before ++ [redigit c, redigit d]
      else before ++ [redigit c] := by
  have filler : bcdEncode d ≠ 0x0f := by
    have := bcdEncode_lt d
    omega
  rw [push, List.length_append, List.length_singleton]
  by_cases room : before.length + 1 < maxDigits
  · rw [if_pos ⟨filler, room⟩, if_pos room, List.append_assoc]
    rfl
  · rw [if_neg fun both => room both.2, if_neg room]
    rfl

/-- The octets of digits are all read: the buffer has room for each first digit, whether there is
a plus sign in front or not. -/
theorem takes_parseOctets {before : List Char} (held : before.length ≤ maxDigits)
    (room : before.length + digits.length ≤ maxDigits ∨
      before.length % 2 = 1 ∧ before.length + digits.length ≤ maxDigits + 1) (pos : Nat) :
    Takes (parseOctets (digits.length / 2 + digits.length % 2) before)
      (fields pos (writePairs digits)) (some ((before ++ digits.map redigit).take maxDigits)) := by
  unfold maxDigits at room held
  induction digits using writePairs.induct generalizing before pos with
  | case1 =>
      have whole : (before ++ List.map redigit []).take maxDigits = before := by
        rw [List.map_nil, List.append_nil, List.take_of_length_le]
        exact held
      rw [whole]
      exact Takes.pure before
  | case2 c =>
      rw [List.length_singleton] at room
      have inside : before.length < maxDigits := by
        unfold maxDigits
        omega
      have pushed : (before ++ List.map redigit [c]).take maxDigits =
          push before (bcdEncode c) 0x0f := by
        rw [push, if_neg fun both => both.1 rfl, List.take_of_length_le]
        · rfl
        · rw [List.length_append]
          exact inside
      rw [List.length_singleton]
      change Takes (parseOctets (0 + 1) before) _ _
      rw [parseOctets, if_pos inside, pushed]
      refine Takes.skipped (Takes.skipped ?_ (by simp)) (by simp)
      rw [stored_bcdEncode]
      exact Takes.pure _
  | case3 c d digits ih =>
      rw [List.length_cons, List.length_cons] at room
      have inside : before.length < maxDigits := by
        unfold maxDigits
        omega
      have count : (c :: d :: digits).length / 2 + (c :: d :: digits).length % 2 =
          digits.length / 2 + digits.length % 2 + 1 := by
        rw [List.length_cons, List.length_cons]
        omega
      rw [count, parseOctets, if_pos inside]
      refine Takes.skipped (Takes.skipped ?_ (by simp)) (by simp)
      rw [stored_bcdEncode, stored_bcdEncode, push_encoded]
      split
      case isTrue more =>
        have length : (before ++ [redigit c, redigit d]).length = before.length + 2 := by
          rw [List.length_append, List.length_cons, List.length_singleton]
        unfold maxDigits at more
        have rest := @ih (before ++ [redigit c, redigit d]) (by omega) (by omega) (pos + 4 + 4)
        rw [List.append_assoc] at rest
        exact rest
      case isFalse full =>
        -- The last digit has no room behind the plus sign.
        unfold maxDigits at full
        obtain rfl : digits = [] := List.length_eq_zero_iff.mp (by omega)
        have cut : (before ++ List.map redigit [c, d]).take maxDigits = before ++ [redigit c] := by
          rw [List.map_cons, ← List.singleton_append, ← List.append_assoc, List.take_left']
          rw [List.length_append, List.length_singleton]
          unfold maxDigits
          omega
        rw [cut]
        exact Takes.pure _

/-- A stored number comes back, digit by digit. -/
theorem takes_parse (international : Bool) (stored : Stored digits) (pos : Nat) :
    Takes (parse (lengthV digits) international) (fields pos (write digits))
      (some (reread international digits)) := by
  have short := (unsigned_length_le digits).trans stored.room
  apply takes_parseOctets
  · cases international with
    | false => exact Nat.zero_le _
    | true => exact Nat.le_of_ble_eq_true rfl
  · cases international with
    | false => exact .inl ((Nat.zero_add _).trans_le short)
    | true => exact .inr ⟨rfl, (Nat.add_comm _ _).trans_le (Nat.succ_le_succ short)⟩

theorem plus_not_mem_redigits (digits : List Char) : '+' ∉ digits.map redigit := by
  intro member
  obtain ⟨c, -, same⟩ := List.mem_map.mp member
  exact bcdDecode_ne_plus _ same

/-- Digits of the code come back as they are. -/
theorem map_redigit_eq (stored : ∀ c ∈ digits, stores c = true) (plain : '+' ∉ digits) :
    digits.map redigit = digits := by
  conv_rhs => rw [← List.map_id digits]
  apply List.map_congr_left
  intro c member
  exact redigit_eq (stored c member) fun plus => plain (plus ▸ member)

/-- The digits come back just if the plus sign is where the type has it. -/
theorem reread_eq_iff (international : Bool) (stored : Stored digits) :
    reread international digits = digits ↔ Canonical international digits := by
  constructor
  · intro same
    cases international with
    | false =>
        have absent : '+' ∉ digits := by
          rw [← same]
          exact fun member => plus_not_mem_redigits _ (List.mem_of_mem_take member)
        refine ⟨iff_of_false nofun fun head => absent (List.mem_of_head? head), ?_⟩
        exact fun member => absent (mem_of_mem_unsigned member)
    | true =>
        have signed : digits = '+' :: ((unsigned digits).map redigit).take 19 := same.symm
        have behind : unsigned digits = ((unsigned digits).map redigit).take 19 := by
          conv_lhs => rw [signed]
          rfl
        refine ⟨iff_of_true rfl (by rw [signed]; rfl), ?_⟩
        rw [behind]
        exact fun member => plus_not_mem_redigits _ (List.mem_of_mem_take member)
  · intro canonical
    have kept : (unsigned digits).map redigit = unsigned digits :=
      map_redigit_eq (fun c member => stored.stored c (mem_of_mem_unsigned member)) canonical.plain
    rw [reread, kept]
    have whole : (if international then ['+'] else []) ++ unsigned digits = digits := by
      cases international with
      | false => exact unsigned_of_head fun head => absurd (canonical.signed.mpr head) nofun
      | true =>
          obtain ⟨rest, rfl⟩ : ∃ rest, digits = '+' :: rest := by
            have head := canonical.signed.mp rfl
            cases digits with
            | nil => cases head
            | cons c rest => exact ⟨rest, by rw [Option.some.inj head]⟩
          rfl
    rw [whole, List.take_of_length_le stored.room]

end Digits

end L3BCDDigits

/-! ## Numbers -/

/-- The number is international as it is read. -/
def isInternational (type : Nat) : Bool :=
  type % 2 ^ 3 = TypeOfNumber.international

/-- The type and the plan behind a bit. -/
def writeType (bit : UInt32) (type plan : Nat) : List Op :=
  [.writeField bit 1, .writeField (UInt32.ofNat type) 3, .writeField (UInt32.ofNat plan) 4]

theorem stored_ofNat (value width : Nat) (narrow : width ≤ 32) :
    (UInt32.ofNat value).toNat % 2 ^ width = value % 2 ^ width := by
  change value % 2 ^ 32 % 2 ^ width = value % 2 ^ width
  exact Nat.mod_mod_of_dvd value (pow_dvd_pow 2 narrow)

/-- The type octet in front of the rest of the number. -/
theorem Takes.type {α : Type} {bit : UInt32} {type plan : Nat}
    {next : Nat → Nat → Nat → FieldParser α} {pos : Nat} {ops : List Op} {result : Option α}
    (rest : Takes (next (bit.toNat % 2 ^ 1) (type % 2 ^ 3) (plan % 2 ^ 4)) (fields (pos + 8) ops)
      result) :
    Takes (do
      let bit ← readField 1
      let type ← readField 3
      let plan ← readField 4
      next bit type plan) (fields pos (writeType bit type plan ++ ops)) result := by
  refine Takes.skipped (Takes.skipped (Takes.skipped ?_ (by simp)) (by simp)) (by simp)
  rw [stored_ofNat type 3 (by decide), stored_ofNat plan 4 (by decide)]
  exact rest

/-- A value that is written comes back changed, if at all, as `reread` says: its octets are the
announced ones, and the parser takes them all. -/
structure Rereads {α : Type} (parse : Nat → FieldParser α) (write : α → List Op)
    (lengthV : α → Nat) (reread : α → α) (value : α) : Prop where
  length : ∀ pos, endPos pos (write value) = pos + 8 * lengthV value
  takes : ∀ pos, Takes (parse (lengthV value)) (fields pos (write value)) (some (reread value))

/-- The type and the plan are in range. -/
structure InRange (type plan : Nat) : Prop where
  type : type < 2 ^ 3
  plan : plan < 2 ^ 4

namespace L3CalledPartyBCDNumber

/-- A leading `+` makes the number international. -/
def ofText : List Char → L3CalledPartyBCDNumber
  | '+' :: wDigits =>
      { type := TypeOfNumber.international
        plan := NumberingPlan.e164
        digits := L3BCDDigits.ofText wDigits }
  | wDigits =>
      { type := TypeOfNumber.national
        plan := NumberingPlan.e164
        digits := L3BCDDigits.ofText wDigits }

/-- The type octet and the digits. -/
def lengthV (number : L3CalledPartyBCDNumber) : Nat :=
  1 + L3BCDDigits.lengthV number.digits

/-- The type octet with its extension bit set, then the digits. -/
def write (number : L3CalledPartyBCDNumber) : List Op :=
  writeType 1 number.type number.plan ++ L3BCDDigits.write number.digits

/-- The number that is read back. -/
def reread (number : L3CalledPartyBCDNumber) : L3CalledPartyBCDNumber where
  type := number.type % 2 ^ 3
  plan := number.plan % 2 ^ 4
  digits := L3BCDDigits.reread (isInternational number.type) number.digits

/-- The numbers that reading leaves as they are. -/
structure Canonical (number : L3CalledPartyBCDNumber) : Prop where
  range : InRange number.type number.plan
  digits : L3BCDDigits.Canonical (isInternational number.type) number.digits

variable {number : L3CalledPartyBCDNumber}

theorem lengthV_lt (stored : L3BCDDigits.Stored number.digits) : number.lengthV < 2 ^ 8 := by
  have := L3BCDDigits.lengthV_le stored
  unfold lengthV
  omega

/-- A stored number comes back, cut to its fields. -/
theorem rereads (stored : L3BCDDigits.Stored number.digits) :
    Rereads parse write lengthV reread number where
  length pos := by
    rw [write, BitWriter.endPos_append, L3BCDDigits.endPos_write, lengthV, Nat.mul_add,
      ← Nat.add_assoc]
    rfl
  takes pos := by
    refine Takes.type ?_
    have octets : oneLess number.lengthV = L3BCDDigits.lengthV number.digits := by
      have := L3BCDDigits.lengthV_le stored
      unfold oneLess lengthV
      omega
    rw [octets]
    exact (L3BCDDigits.takes_parse _ stored _).yield _

/-- Canonical numbers come back as they are. -/
theorem reread_eq_iff (stored : L3BCDDigits.Stored number.digits) :
    number.reread = number ↔ number.Canonical := by
  have digits := L3BCDDigits.reread_eq_iff (isInternational number.type) stored
  constructor
  · intro same
    refine ⟨⟨?_, ?_⟩, digits.mp (congrArg L3CalledPartyBCDNumber.digits same)⟩
    · rw [← congrArg L3CalledPartyBCDNumber.type same]
      exact Nat.mod_lt _ (Nat.two_pow_pos 3)
    · rw [← congrArg L3CalledPartyBCDNumber.plan same]
      exact Nat.mod_lt _ (Nat.two_pow_pos 4)
  · intro canonical
    rw [reread, Nat.mod_eq_of_lt canonical.range.type, Nat.mod_eq_of_lt canonical.range.plan,
      digits.mpr canonical.digits]

end L3CalledPartyBCDNumber

namespace L3CallingPartyBCDNumber

/-- A leading `+` makes the number international. -/
def ofText (wDigits : List Char) : L3CallingPartyBCDNumber where
  type := if wDigits.head? = some '+' then TypeOfNumber.international else TypeOfNumber.national
  plan := NumberingPlan.e164
  digits := L3BCDDigits.ofText wDigits

/-- The type octet, the digits and octet 3a when there. -/
def lengthV (number : L3CallingPartyBCDNumber) : Nat :=
  1 + L3BCDDigits.lengthV number.digits + if number.haveOctet3a then 1 else 0

/-- Octet 3a. -/
def writeIndicators (number : L3CallingPartyBCDNumber) : List Op :=
  [.writeField 1 1, .writeField (UInt32.ofNat number.presentationIndicator) 2,
    .writeField 0 3, .writeField (UInt32.ofNat number.screeningIndicator) 2]

/-- The extension bit tells whether octet 3a follows. -/
def write (number : L3CallingPartyBCDNumber) : List Op :=
  writeType (if number.haveOctet3a then 0 else 1) number.type number.plan ++
    ((if number.haveOctet3a then number.writeIndicators else []) ++
      L3BCDDigits.write number.digits)

/-- The number that is read back. -/
def reread (number : L3CallingPartyBCDNumber) : L3CallingPartyBCDNumber where
  type := number.type % 2 ^ 3
  plan := number.plan % 2 ^ 4
  digits := L3BCDDigits.reread (isInternational number.type) number.digits
  haveOctet3a := number.haveOctet3a
  presentationIndicator := if number.haveOctet3a then number.presentationIndicator % 2 ^ 2 else 0
  screeningIndicator := if number.haveOctet3a then number.screeningIndicator % 2 ^ 2 else 0

/-- Indicators without an octet are not set. -/
structure Canonical (number : L3CallingPartyBCDNumber) : Prop where
  range : InRange number.type number.plan
  digits : L3BCDDigits.Canonical (isInternational number.type) number.digits
  indicators : number.presentationIndicator < 2 ^ 2 ∧ number.screeningIndicator < 2 ^ 2
  noOctet : number.haveOctet3a = false →
    number.presentationIndicator = 0 ∧ number.screeningIndicator = 0

variable {number : L3CallingPartyBCDNumber}

theorem lengthV_lt (stored : L3BCDDigits.Stored number.digits) : number.lengthV < 2 ^ 8 := by
  have := L3BCDDigits.lengthV_le stored
  unfold lengthV
  split <;> omega

/-- A stored number comes back, cut to its fields. -/
theorem rereads (stored : L3BCDDigits.Stored number.digits) :
    Rereads parse write lengthV reread number := by
  have short := L3BCDDigits.lengthV_le stored
  obtain ⟨type, plan, digits, haveOctet3a, presentation, screening⟩ := number
  cases haveOctet3a with
  | false =>
      refine ⟨fun pos => ?_, fun pos => ?_⟩
      · rw [write, BitWriter.endPos_append, BitWriter.endPos_append, L3BCDDigits.endPos_write]
        change pos + 8 + 8 * L3BCDDigits.lengthV digits =
          pos + 8 * (1 + L3BCDDigits.lengthV digits)
        omega
      · refine Takes.type ?_
        have octets : oneLess (lengthV ⟨type, plan, digits, false, presentation, screening⟩) =
            L3BCDDigits.lengthV digits := by
          change (1 + L3BCDDigits.lengthV digits + 0 + (2 ^ 64 - 1)) % 2 ^ 64 = _
          dsimp only at short
          omega
        rw [octets]
        exact (L3BCDDigits.takes_parse _ stored _).yield _
  | true =>
      refine ⟨fun pos => ?_, fun pos => ?_⟩
      · rw [write, BitWriter.endPos_append, BitWriter.endPos_append, L3BCDDigits.endPos_write]
        change pos + 8 + 8 + 8 * L3BCDDigits.lengthV digits =
          pos + 8 * (1 + L3BCDDigits.lengthV digits + 1)
        omega
      · refine Takes.type ?_
        have octets :
            oneLess (oneLess (lengthV ⟨type, plan, digits, true, presentation, screening⟩)) =
              L3BCDDigits.lengthV digits := by
          change ((1 + L3BCDDigits.lengthV digits + 1 + (2 ^ 64 - 1)) % 2 ^ 64 + (2 ^ 64 - 1)) %
            2 ^ 64 = _
          dsimp only at short
          omega
        refine Takes.skipped (Takes.skipped (Takes.skipped (Takes.skipped ?_ (by simp)) (by simp))
          (by simp)) (by simp)
        rw [octets, stored_ofNat presentation 2 (by decide), stored_ofNat screening 2 (by decide)]
        exact (L3BCDDigits.takes_parse _ stored _).yield _

/-- Canonical numbers come back as they are. -/
theorem reread_eq_iff (stored : L3BCDDigits.Stored number.digits) :
    number.reread = number ↔ number.Canonical := by
  have digits := L3BCDDigits.reread_eq_iff (isInternational number.type) stored
  obtain ⟨type, plan, text, haveOctet3a, presentation, screening⟩ := number
  dsimp only at digits
  rw [reread, L3CallingPartyBCDNumber.mk.injEq, digits]
  cases haveOctet3a with
  | false =>
      constructor
      · rintro ⟨type_eq, plan_eq, canonical, -, presentation_eq, screening_eq⟩
        obtain ⟨rfl, rfl⟩ : presentation = 0 ∧ screening = 0 :=
          ⟨presentation_eq.symm, screening_eq.symm⟩
        exact ⟨⟨type_eq ▸ Nat.mod_lt _ (Nat.two_pow_pos 3),
          plan_eq ▸ Nat.mod_lt _ (Nat.two_pow_pos 4)⟩, canonical,
          ⟨Nat.two_pow_pos 2, Nat.two_pow_pos 2⟩, fun _ => ⟨rfl, rfl⟩⟩
      · intro canonical
        exact ⟨Nat.mod_eq_of_lt canonical.range.type, Nat.mod_eq_of_lt canonical.range.plan,
          canonical.digits, rfl, (canonical.noOctet rfl).1.symm, (canonical.noOctet rfl).2.symm⟩
  | true =>
      constructor
      · rintro ⟨type_eq, plan_eq, canonical, -, presentation_eq, screening_eq⟩
        exact ⟨⟨type_eq ▸ Nat.mod_lt _ (Nat.two_pow_pos 3),
          plan_eq ▸ Nat.mod_lt _ (Nat.two_pow_pos 4)⟩, canonical,
          ⟨presentation_eq ▸ Nat.mod_lt _ (Nat.two_pow_pos 2),
            screening_eq ▸ Nat.mod_lt _ (Nat.two_pow_pos 2)⟩, nofun⟩
      · intro canonical
        exact ⟨Nat.mod_eq_of_lt canonical.range.type, Nat.mod_eq_of_lt canonical.range.plan,
          canonical.digits, rfl, Nat.mod_eq_of_lt canonical.indicators.1,
          Nat.mod_eq_of_lt canonical.indicators.2⟩

end L3CallingPartyBCDNumber

/-! ## Connected numbers -/

namespace L3ConnectedNumber

/-- The constructor of the called party number. -/
def ofText : List Char → L3ConnectedNumber :=
  L3CalledPartyBCDNumber.ofText

/-- The length of the called party number. -/
def lengthV : L3ConnectedNumber → Nat :=
  L3CalledPartyBCDNumber.lengthV

/-- The writer of the called party number. -/
def write : L3ConnectedNumber → List Op :=
  L3CalledPartyBCDNumber.write

/-- A stored number comes back, cut to its fields. -/
theorem rereads {number : L3ConnectedNumber} (stored : L3BCDDigits.Stored number.digits) :
    Rereads parse write lengthV L3CalledPartyBCDNumber.reread number :=
  L3CalledPartyBCDNumber.rereads stored

end L3ConnectedNumber

/-! ## Redirecting numbers -/

/-- The number that a call was redirected from. -/
structure L3RedirectingNumber where
  type : Nat := 0
  plan : Nat := 0
  digits : List Char := []
  haveReason : Bool := false
  reason : Nat := 0
deriving DecidableEq, Repr

namespace L3RedirectingNumber

/-- A leading `+` makes the number international. -/
def ofText : List Char → L3RedirectingNumber
  | '+' :: wDigits =>
      { type := TypeOfNumber.international
        plan := NumberingPlan.e164
        digits := L3BCDDigits.ofText wDigits }
  | wDigits => { digits := L3BCDDigits.ofText wDigits }

/-- The type octet, the digits and the reason when there. -/
def lengthV (number : L3RedirectingNumber) : Nat :=
  1 + L3BCDDigits.lengthV number.digits + if number.haveReason then 1 else 0

/-- The reason is read when it is announced and two octets remain. -/
def parse (lengthBytes : Nat) : FieldParser L3RedirectingNumber := do
  let extension ← readField 1
  let type ← readField 3
  let plan ← readField 4
  let remaining := oneLess lengthBytes
  if extension = 0 ∧ 2 ≤ remaining then
    let reason ← readField 8
    let digits ← L3BCDDigits.parse (remaining - 1) (type = TypeOfNumber.international)
    pure { type, plan, digits, haveReason := true, reason := reason &&& 0x03 }
  else
    let digits ← L3BCDDigits.parse remaining (type = TypeOfNumber.international)
    pure { type, plan, digits }

/-- The extension bit tells whether the reason follows. -/
def write (number : L3RedirectingNumber) : List Op :=
  writeType (if number.haveReason then 0 else 1) number.type number.plan ++
    ((if number.haveReason then [.writeField (UInt32.ofNat number.reason) 8] else []) ++
      L3BCDDigits.write number.digits)

/-- The digits that an octet with a reason is read as. -/
def reasonDigits (international : Bool) (reason : Nat) : List Char :=
  L3BCDDigits.push (if international then ['+'] else []) (reason % 2 ^ 4) (reason / 2 ^ 4 % 2 ^ 4)

/-- The number that is read back.  A reason without digits is read as digits. -/
def reread (number : L3RedirectingNumber) : L3RedirectingNumber :=
  let type := number.type % 2 ^ 3
  let plan := number.plan % 2 ^ 4
  let international := isInternational number.type
  let digits := L3BCDDigits.reread international number.digits
  if number.haveReason then
    if L3BCDDigits.unsigned number.digits = [] then
      { type, plan, digits := reasonDigits international number.reason }
    else { type, plan, digits, haveReason := true, reason := number.reason % 2 ^ 2 }
  else { type, plan, digits }

/-- There is a reason only in front of digits. -/
structure Canonical (number : L3RedirectingNumber) : Prop where
  range : InRange number.type number.plan
  digits : L3BCDDigits.Canonical (isInternational number.type) number.digits
  reason : number.reason < 2 ^ 2
  noReason : number.haveReason = false → number.reason = 0
  behind : number.haveReason = true → L3BCDDigits.unsigned number.digits ≠ []

variable {number : L3RedirectingNumber}

theorem masked_reason (reason : Nat) : reason % 2 ^ 8 &&& 0x03 = reason % 2 ^ 2 := by
  have mask := Nat.and_two_pow_sub_one_eq_mod (reason % 2 ^ 8) 2
  rw [Nat.mod_mod_of_dvd reason (pow_dvd_pow 2 (by decide))] at mask
  exact mask

/-- The octet with the reason as one with digits. -/
theorem takes_reason (international : Bool) (reason pos : Nat) :
    Takes (L3BCDDigits.parse 1 international)
      (fields pos [.writeField (UInt32.ofNat reason) 8])
      (some (reasonDigits international reason)) := by
  have room : (if international then ['+'] else []).length < L3BCDDigits.maxDigits := by
    cases international with
    | false => exact Nat.zero_lt_succ _
    | true => exact Nat.le_of_ble_eq_true rfl
  have bits : fields pos [.writeField (UInt32.ofNat reason) 8] =
      Foundation.valueBits 4 ((UInt32.ofNat reason).toNat / 2 ^ 4) ++
        (Foundation.valueBits 4 (UInt32.ofNat reason).toNat ++ []) := by
    rw [← List.append_assoc, ← Foundation.valueBits_add 4 4]
    rfl
  have high : (UInt32.ofNat reason).toNat / 2 ^ 4 % 2 ^ 4 = reason / 2 ^ 4 % 2 ^ 4 := by
    change reason % 2 ^ 32 / 2 ^ 4 % 2 ^ 4 = _
    omega
  rw [L3BCDDigits.parse, L3BCDDigits.parseOctets, if_pos room, bits]
  refine (takes_valueBits _ (by simp) (by simp)).bind
    ((takes_valueBits _ (by simp) (by simp)).bind ?_)
  rw [high, stored_ofNat reason 4 (by decide)]
  exact Takes.pure _

/-- A stored number comes back, cut to its fields. -/
theorem rereads (stored : L3BCDDigits.Stored number.digits) :
    Rereads parse write lengthV reread number := by
  have short := L3BCDDigits.lengthV_le stored
  obtain ⟨type, plan, digits, haveReason, reason⟩ := number
  dsimp only at short
  cases haveReason with
  | false =>
      refine ⟨fun pos => ?_, fun pos => ?_⟩
      · rw [write, BitWriter.endPos_append, BitWriter.endPos_append, L3BCDDigits.endPos_write]
        change pos + 8 + 8 * L3BCDDigits.lengthV digits =
          pos + 8 * (1 + L3BCDDigits.lengthV digits)
        omega
      · refine Takes.type ?_
        have octets : oneLess (lengthV ⟨type, plan, digits, false, reason⟩) =
            L3BCDDigits.lengthV digits := by
          change (1 + L3BCDDigits.lengthV digits + 0 + (2 ^ 64 - 1)) % 2 ^ 64 = _
          omega
        rw [octets, if_neg fun both => Nat.one_ne_zero both.1]
        exact (L3BCDDigits.takes_parse _ stored _).yield _
  | true =>
      have octets : oneLess (lengthV ⟨type, plan, digits, true, reason⟩) =
          L3BCDDigits.lengthV digits + 1 := by
        change (1 + L3BCDDigits.lengthV digits + 1 + (2 ^ 64 - 1)) % 2 ^ 64 = _
        omega
      refine ⟨fun pos => ?_, fun pos => ?_⟩
      · rw [write, BitWriter.endPos_append, BitWriter.endPos_append, L3BCDDigits.endPos_write]
        change pos + 8 + 8 + 8 * L3BCDDigits.lengthV digits =
          pos + 8 * (1 + L3BCDDigits.lengthV digits + 1)
        omega
      · refine Takes.type ?_
        rw [octets]
        by_cases empty : L3BCDDigits.unsigned digits = []
        · have none : L3BCDDigits.lengthV digits = 0 := by
            rw [L3BCDDigits.lengthV, empty]
            rfl
          have ops : L3BCDDigits.write digits = [] := by
            rw [L3BCDDigits.write, empty]
            rfl
          rw [none, if_neg fun both => absurd both.2 (by decide), ops]
          change Takes _ _ (some (reread ⟨type, plan, digits, true, reason⟩))
          have back : reread ⟨type, plan, digits, true, reason⟩ =
              ⟨type % 2 ^ 3, plan % 2 ^ 4, reasonDigits (isInternational type) reason, false,
                0⟩ := by
            rw [reread, if_pos rfl, if_pos empty]
          rw [back]
          exact (takes_reason (isInternational type) reason (pos + 8)).yield _
        · have some_octets : 1 ≤ L3BCDDigits.lengthV digits := by
            have := List.length_pos_of_ne_nil empty
            unfold L3BCDDigits.lengthV
            omega
          rw [if_pos ⟨rfl, Nat.succ_le_succ some_octets⟩]
          have back : reread ⟨type, plan, digits, true, reason⟩ =
              ⟨type % 2 ^ 3, plan % 2 ^ 4, L3BCDDigits.reread (isInternational type) digits, true,
                reason % 2 ^ 2⟩ := by
            rw [reread, if_pos rfl, if_neg empty]
          rw [back]
          refine Takes.skipped ?_ (by simp)
          rw [stored_ofNat reason 8 (by decide), masked_reason]
          exact (L3BCDDigits.takes_parse _ stored _).yield _

/-- Canonical numbers come back as they are. -/
theorem reread_eq_iff (stored : L3BCDDigits.Stored number.digits) :
    number.reread = number ↔ number.Canonical := by
  have digits := L3BCDDigits.reread_eq_iff (isInternational number.type) stored
  obtain ⟨type, plan, text, haveReason, reason⟩ := number
  dsimp only at digits
  cases haveReason with
  | false =>
      change L3RedirectingNumber.mk (type % 2 ^ 3) (plan % 2 ^ 4)
        (L3BCDDigits.reread (isInternational type) text) false 0 = _ ↔ _
      rw [L3RedirectingNumber.mk.injEq, digits]
      constructor
      · rintro ⟨type_eq, plan_eq, canonical, -, rfl⟩
        exact ⟨⟨type_eq ▸ Nat.mod_lt _ (Nat.two_pow_pos 3),
          plan_eq ▸ Nat.mod_lt _ (Nat.two_pow_pos 4)⟩, canonical, Nat.two_pow_pos 2,
          fun _ => rfl, nofun⟩
      · intro canonical
        exact ⟨Nat.mod_eq_of_lt canonical.range.type, Nat.mod_eq_of_lt canonical.range.plan,
          canonical.digits, rfl, (canonical.noReason rfl).symm⟩
  | true =>
      by_cases empty : L3BCDDigits.unsigned text = []
      · apply iff_of_false
        · rw [reread, if_pos rfl, if_pos empty]
          exact fun same => nomatch congrArg L3RedirectingNumber.haveReason same
        · exact fun canonical => canonical.behind rfl empty
      · rw [reread, if_pos rfl, if_neg empty, L3RedirectingNumber.mk.injEq, digits]
        constructor
        · rintro ⟨type_eq, plan_eq, canonical, -, reason_eq⟩
          exact ⟨⟨type_eq ▸ Nat.mod_lt _ (Nat.two_pow_pos 3),
            plan_eq ▸ Nat.mod_lt _ (Nat.two_pow_pos 4)⟩, canonical,
            reason_eq ▸ Nat.mod_lt _ (Nat.two_pow_pos 2), nofun, fun _ => empty⟩
        · intro canonical
          exact ⟨Nat.mod_eq_of_lt canonical.range.type, Nat.mod_eq_of_lt canonical.range.plan,
            canonical.digits, rfl, Nat.mod_eq_of_lt canonical.reason⟩

end L3RedirectingNumber

/-- Each party number with digits of its buffer is written in the octets it announces, which are
all read back, and to an equal number just if it is canonical. -/
theorem party_numbers_read_back :
    (∀ number : L3CalledPartyBCDNumber, L3BCDDigits.Stored number.digits →
      Rereads L3CalledPartyBCDNumber.parse L3CalledPartyBCDNumber.write
          L3CalledPartyBCDNumber.lengthV L3CalledPartyBCDNumber.reread number ∧
        (number.reread = number ↔ number.Canonical)) ∧
    (∀ number : L3CallingPartyBCDNumber, L3BCDDigits.Stored number.digits →
      Rereads L3CallingPartyBCDNumber.parse L3CallingPartyBCDNumber.write
          L3CallingPartyBCDNumber.lengthV L3CallingPartyBCDNumber.reread number ∧
        (number.reread = number ↔ number.Canonical)) ∧
    (∀ number : L3ConnectedNumber, L3BCDDigits.Stored number.digits →
      Rereads L3ConnectedNumber.parse L3ConnectedNumber.write
          L3ConnectedNumber.lengthV L3CalledPartyBCDNumber.reread number ∧
        (L3CalledPartyBCDNumber.reread number = number ↔
          L3CalledPartyBCDNumber.Canonical number)) ∧
    (∀ number : L3RedirectingNumber, L3BCDDigits.Stored number.digits →
      Rereads L3RedirectingNumber.parse L3RedirectingNumber.write
          L3RedirectingNumber.lengthV L3RedirectingNumber.reread number ∧
        (number.reread = number ↔ number.Canonical)) := by
  refine ⟨fun number stored => ⟨L3CalledPartyBCDNumber.rereads stored, ?_⟩,
    fun number stored => ⟨L3CallingPartyBCDNumber.rereads stored, ?_⟩,
    fun number stored => ⟨L3ConnectedNumber.rereads stored, ?_⟩,
    fun number stored => ⟨L3RedirectingNumber.rereads stored, ?_⟩⟩
  · exact L3CalledPartyBCDNumber.reread_eq_iff stored
  · exact L3CallingPartyBCDNumber.reread_eq_iff stored
  · exact L3CalledPartyBCDNumber.reread_eq_iff stored
  · exact L3RedirectingNumber.reread_eq_iff stored

/-- A number that is built from an international text comes back with the plus sign. -/
theorem party_numbers_read_back_signed :
    let number := L3CalledPartyBCDNumber.ofText ['+', '4', '9']
    Rereads L3CalledPartyBCDNumber.parse L3CalledPartyBCDNumber.write
        L3CalledPartyBCDNumber.lengthV L3CalledPartyBCDNumber.reread number ∧
      number.reread.digits = ['+', '4', '9'] ∧ ¬ number.Canonical := by
  intro number
  obtain ⟨rereads, canonical⟩ :=
    party_numbers_read_back.1 number (L3BCDDigits.stored_ofText ['4', '9'])
  exact ⟨rereads, rfl, fun holds => absurd (canonical.mpr holds) (by decide)⟩

end Gsml3
