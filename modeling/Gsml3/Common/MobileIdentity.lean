import Gsml3.Core.FieldCodec
import Gsml3.RR.Elements

/-!
# Mobile identity

The parser is told the length of the value, but only an identity by digits makes use of it:
a TMSI reads five octets and no identity reads one.  A caller goes on behind the octets that
were read.
-/

namespace Gsml3.Stack

open BitWriter (Op endPos fields)
open FieldParser (Takes Ensures readField readFlag rounds)
open Foundation (bitString bitValue valueBits)

namespace L3MobileIdentity

/-! ## Parser -/

def digitChar (digit : Nat) : Char :=
  Char.ofNat (digit + '0'.toNat)

/-- A pair of digits, the later one in front; the array has room for nineteen. -/
def readPair (digits : List Char) : FieldParser (List Char) := do
  let nextDigit ← readField 4
  let currentDigit ← readField 4
  pure (if digits.length + 2 < 20 then digits ++ [digitChar currentDigit, digitChar nextDigit]
    else digits)

/-- `lengthBytes - 1`, the octets behind the type octet. -/
@[irreducible] def remainingBytes (lengthBytes : Nat) : Nat :=
  (lengthBytes + (2 ^ 64 - 1)) % 2 ^ 64

def parseDigits (type : MobileIDType) (firstDigit : Nat) (oddCount : Bool) (lengthBytes : Nat) :
    FieldParser L3MobileIdentity := do
  let digits ← rounds readPair (remainingBytes lengthBytes)
    (if firstDigit < 10 then [digitChar firstDigit] else [])
  pure { type := type, digits := if oddCount then digits else digits.dropLast }

/-- What follows the identity type. -/
def parseValue (lengthBytes firstDigit : Nat) (oddCount : Bool) :
    Nat → FieldParser L3MobileIdentity
  | 1 => parseDigits .imsi firstDigit oddCount lengthBytes
  | 2 => parseDigits .imei firstDigit oddCount lengthBytes
  | 3 => parseDigits .imeisv firstDigit oddCount lengthBytes
  | 4 => do
      let tmsi ← readField 32
      pure (ofTMSI (UInt32.ofNat tmsi))
  | _ => pure {}

def parse (lengthBytes : Nat) : FieldParser L3MobileIdentity := do
  let firstDigit ← readField 4
  let oddCount ← readFlag
  let type ← readField 3
  parseValue lengthBytes firstDigit oddCount type

/-- What the constructors build. -/
def Built (identity : L3MobileIdentity) : Prop :=
  match identity.type with
  | .noID => identity.digits = [] ∧ identity.tmsi = 0
  | .tmsi => identity.digits = []
  | _ => identity.digits.length ≤ 19 ∧ (∀ digit ∈ identity.digits, isDigit digit = true) ∧
      identity.tmsi = 0

/-! ## Round trip -/

/-- A character that a nibble is kept as. -/
def Nibble (digit : Char) : Prop :=
  '0'.toNat ≤ digit.toNat ∧ digit.toNat ≤ '0'.toNat + 15

/-- A first nibble that is no decimal digit is not kept. -/
def reread : List Char → List Char
  | [] => []
  | first :: rest => if first.toNat < '0'.toNat + 10 then first :: rest else rest

section Digits

variable {digit : Char}

theorem digit_range (decimal : isDigit digit = true) :
    '0'.toNat ≤ digit.toNat ∧ digit.toNat ≤ '0'.toNat + 9 :=
  of_decide_eq_true decimal

theorem Nibble.of_digit (decimal : isDigit digit = true) : Nibble digit :=
  ⟨(digit_range decimal).1, (digit_range decimal).2.trans (by decide)⟩

theorem takes_digit (nibble : Nibble digit) (pos : Nat) :
    Takes (readField 4) ((writeDigit digit).field pos) (some (digit.toNat - '0'.toNat)) := by
  have range := nibble
  have zero : '0'.toNat = 48 := rfl
  have positive : 0 < 4 := by decide
  have takes := @FieldParser.takes_writeField (UInt32.ofNat (digit.toNat - '0'.toNat)) 4 pos
    positive (by decide)
  rw [Nibble] at range
  rw [UInt32.toNat_ofNat_of_lt' (by change _ < 4294967296; omega),
    Nat.mod_eq_of_lt (by omega)] at takes
  exact takes

theorem digitChar_digit (nibble : Nibble digit) : digitChar (digit.toNat - '0'.toNat) = digit := by
  unfold digitChar
  rw [Nat.sub_add_cancel nibble.1, Char.ofNat_toNat]

end Digits

/-- A pair of two nibbles. -/
theorem takes_pair {digits : List Char} (room : digits.length + 2 < 20) {next current : Nat}
    {front back : List Bool} (first : Takes (readField 4) front (some next))
    (second : Takes (readField 4) back (some current)) :
    Takes (readPair digits) (front ++ back)
      (some (digits ++ [digitChar current, digitChar next])) := by
  refine first.bind ?_
  simp only [if_pos room]
  exact second.yield fun current => digits ++ [digitChar current, digitChar next]

/-- The digits behind the first one, with the filler if they are odd in number. -/
theorem takes_pairs {digits rest : List Char}
    (room : digits.length + 2 * ((rest.length + 1) / 2) < 20)
    (nibbles : ∀ digit ∈ rest, Nibble digit) (pos : Nat) :
    Takes (rounds readPair ((rest.length + 1) / 2) digits) (fields pos (writePairs rest))
      (some (digits ++ rest ++ if rest.length % 2 = 1 then [digitChar 15] else [])) := by
  induction rest using writePairs.induct generalizing digits pos with
  | case1 =>
      rw [List.append_nil, List.length_nil, if_neg (by decide), List.append_nil]
      exact Takes.pure digits
  | case2 digit =>
      rw [List.length_singleton] at room
      have pair := @takes_pair digits (by omega) _ _ _ _
        (@FieldParser.takes_writeField 0x0F 4 pos (by decide) (by decide))
        (takes_digit (nibbles digit (List.mem_singleton_self _)) (pos + 4))
      rw [digitChar_digit (nibbles digit (List.mem_singleton_self _))] at pair
      have bits : fields pos (writePairs [digit]) =
          (Op.writeField 0x0F 4).field pos ++ (writeDigit digit).field (pos + 4) ++ [] :=
        (List.append_assoc ..).symm
      rw [bits, List.length_singleton, if_pos rfl, List.append_assoc digits]
      exact pair.bind (Takes.pure _)
  | case3 digit next rest ih =>
      rw [List.length_cons, List.length_cons] at room
      have first := nibbles digit List.mem_cons_self
      have second := nibbles next (List.mem_cons_of_mem _ List.mem_cons_self)
      have pair := @takes_pair digits (by omega) _ _ _ _ (takes_digit second pos)
        (takes_digit first (pos + 4))
      rw [digitChar_digit first, digitChar_digit second] at pair
      have later := @ih (digits ++ [digit, next])
        (by rw [List.length_append]; change digits.length + 2 + _ < _; omega)
        (fun digit member => nibbles digit (List.mem_cons_of_mem _ (List.mem_cons_of_mem _ member)))
        (pos + 4 + 4)
      have count : ((digit :: next :: rest).length + 1) / 2 = (rest.length + 1) / 2 + 1 := by
        rw [List.length_cons, List.length_cons]
        omega
      have parity : (digit :: next :: rest).length % 2 = rest.length % 2 := by
        rw [List.length_cons, List.length_cons]
        omega
      have bits : fields pos (writePairs (digit :: next :: rest)) =
          (writeDigit next).field pos ++ (writeDigit digit).field (pos + 4) ++
            fields (pos + 4 + 4) (writePairs rest) :=
        (List.append_assoc ..).symm
      have value : digits ++ (digit :: next :: rest) = digits ++ [digit, next] ++ rest := by
        rw [List.append_assoc]
        rfl
      rw [count, parity, bits, value]
      exact pair.bind later

theorem takes_code (type : MobileIDType) (pos : Nat) :
    Takes (readField 3) ((Op.writeField type.code 3).field pos) (some type.code.toNat) := by
  have takes := @FieldParser.takes_writeField type.code 3 pos (by decide) (by decide)
  rwa [Nat.mod_eq_of_lt (by cases type <;> decide)] at takes

theorem parseValue_code {type : MobileIDType}
    (byDigits : type = .imsi ∨ type = .imei ∨ type = .imeisv) (lengthBytes firstDigit : Nat)
    (oddCount : Bool) :
    parseValue lengthBytes firstDigit oddCount type.code.toNat =
      parseDigits type firstDigit oddCount lengthBytes := by
  rcases byDigits with rfl | rfl | rfl
  · rw [show MobileIDType.imsi.code.toNat = 1 from rfl, parseValue]
  · rw [show MobileIDType.imei.code.toNat = 2 from rfl, parseValue]
  · rw [show MobileIDType.imeisv.code.toNat = 3 from rfl, parseValue]

/-- The octet in front of the digits. -/
theorem takes_head {type : MobileIDType} {first : Nat} {odd : Bool} {front middle back : List Bool}
    {result : Option L3MobileIdentity} {lengthBytes : Nat}
    (byDigits : type = .imsi ∨ type = .imei ∨ type = .imeisv)
    (digit : Takes (readField 4) front (some first)) (parity : Takes readFlag middle (some odd))
    (pos : Nat) (rest : Takes (parseDigits type first odd lengthBytes) back result) :
    Takes (parse lengthBytes)
      (front ++ (middle ++ ((Op.writeField type.code 3).field pos ++ back))) result := by
  refine digit.bind (parity.bind ((takes_code type pos).bind ?_))
  rw [parseValue_code byDigits]
  exact rest

/-- The filler is there if and only if the flag says that the digits are even in number. -/
theorem filler_dropped (digits : List Char) {count : Nat} :
    (if decide (count % 2 = 0) = true then
        digits ++ (if count % 2 = 1 then [digitChar 15] else [])
      else (digits ++ (if count % 2 = 1 then [digitChar 15] else [])).dropLast) = digits := by
  rcases Nat.mod_two_eq_zero_or_one count with even | odd
  · rw [if_pos (decide_eq_true even), if_neg (by omega), List.append_nil]
  · rw [if_neg (by simp [odd]), if_pos odd, List.dropLast_concat]

theorem takes_writeDigits {type : MobileIDType} {digits : List Char}
    (byDigits : type = .imsi ∨ type = .imei ∨ type = .imeisv) (short : digits.length ≤ 19)
    (nibbles : ∀ digit ∈ digits, Nibble digit) (pos : Nat) :
    Takes (parse (1 + digits.length / 2)) (fields pos (writeDigits type digits))
      (some { type := type, digits := reread digits }) := by
  have announced : remainingBytes (1 + digits.length / 2) = digits.length / 2 := by
    unfold remainingBytes
    omega
  cases digits with
  | nil =>
      refine takes_head byDigits (@FieldParser.takes_writeField 0x0F 4 pos (by decide) (by decide))
        (FieldParser.takes_writeFlag false _) _ ?_
      unfold parseDigits
      rw [announced]
      exact Takes.pure _
  | cons digit digits =>
      have first := nibbles digit List.mem_cons_self
      rw [List.length_cons] at short announced
      have flag : UInt32.ofNat ((digits.length + 1) % 2) =
          if decide (digits.length % 2 = 0) then 1 else 0 := by
        rcases Nat.mod_two_eq_zero_or_one digits.length with even | odd
        · rw [even, show (digits.length + 1) % 2 = 1 by omega]
          rfl
        · rw [odd, show (digits.length + 1) % 2 = 0 by omega]
          rfl
      have parity := FieldParser.takes_writeFlag (decide (digits.length % 2 = 0)) (pos + 4)
      rw [← flag] at parity
      refine takes_head byDigits (takes_digit first pos) parity _ ?_
      have reread_eq : reread (digit :: digits) =
          (if digit.toNat - '0'.toNat < 10 then [digitChar (digit.toNat - '0'.toNat)] else []) ++
            digits := by
        have low := first.1
        rw [reread, digitChar_digit first]
        split
        · rw [if_pos (by omega)]
          rfl
        · rw [if_neg (by omega)]
          rfl
      have room : (if digit.toNat - '0'.toNat < 10 then
          [digitChar (digit.toNat - '0'.toNat)] else []).length ≤ 1 := by
        split
        · exact le_rfl
        · exact Nat.zero_le 1
      have pairs := @takes_pairs (if digit.toNat - '0'.toNat < 10 then
          [digitChar (digit.toNat - '0'.toNat)] else []) digits (by omega)
        (fun digit member => nibbles digit (List.mem_cons_of_mem _ member)) (pos + 4 + 1 + 3)
      unfold parseDigits
      rw [List.length_cons, announced]
      rw [← reread_eq] at pairs
      have takes := pairs.yield fun parsed => ({
        type := type
        digits := if decide (digits.length % 2 = 0) = true then parsed else parsed.dropLast } :
          L3MobileIdentity)
      rw [Option.map_some, filler_dropped] at takes
      exact takes

theorem reread_decimal {digits : List Char} (decimal : ∀ digit ∈ digits, isDigit digit = true) :
    reread digits = digits := by
  cases digits with
  | nil => rfl
  | cons digit digits =>
      have range := digit_range (decimal digit List.mem_cons_self)
      rw [reread, if_pos (by omega)]

/-- An identity as the parser returns it. -/
def Parsed (identity : L3MobileIdentity) : Prop :=
  match identity.type with
  | .noID => identity.digits = [] ∧ identity.tmsi = 0
  | .tmsi => identity.digits = []
  | _ => identity.digits.length ≤ 19 ∧ (∀ digit ∈ identity.digits, Nibble digit) ∧
      identity.tmsi = 0

theorem takes_parsed {identity : L3MobileIdentity} (parsed : Parsed identity) (pos : Nat) :
    Takes (parse identity.lengthV) (fields pos identity.write)
      (some { identity with digits := reread identity.digits }) := by
  obtain ⟨type, digits, tmsi⟩ := identity
  cases type with
  | tmsi =>
      obtain rfl := parsed
      have value := @FieldParser.takes_writeField tmsi 32 (pos + 4 + 1 + 3) (by decide) (by decide)
      rw [Nat.mod_eq_of_lt tmsi.toNat_lt] at value
      have takes := value.yield fun tmsi => ofTMSI (UInt32.ofNat tmsi)
      rw [Option.map_some, UInt32.ofNat_toNat, ← List.append_nil (Op.field _ _)] at takes
      exact (@FieldParser.takes_writeField 0x0F 4 pos (by decide) (by decide)).bind
        ((FieldParser.takes_writeFlag false (pos + 4)).bind
          ((takes_code .tmsi (pos + 4 + 1)).bind takes))
  | noID =>
      obtain ⟨rfl, rfl⟩ := parsed
      exact (@FieldParser.takes_writeField 0x0F 4 pos (by decide) (by decide)).bind
        ((FieldParser.takes_writeFlag false (pos + 4)).bind
          ((takes_code .noID (pos + 4 + 1)).bind (Takes.pure _)))
  | imsi =>
      obtain ⟨short, nibbles, rfl⟩ := parsed
      exact takes_writeDigits (.inl rfl) short nibbles pos
  | imei =>
      obtain ⟨short, nibbles, rfl⟩ := parsed
      exact takes_writeDigits (.inr (.inl rfl)) short nibbles pos
  | imeisv =>
      obtain ⟨short, nibbles, rfl⟩ := parsed
      exact takes_writeDigits (.inr (.inr rfl)) short nibbles pos

/-- A value of a constructor is one that the parser returns, and its digits are decimal. -/
theorem Built.parsed {identity : L3MobileIdentity} (built : Built identity) :
    Parsed identity ∧ reread identity.digits = identity.digits := by
  obtain ⟨type, digits, tmsi⟩ := identity
  have by_digits (kept : digits.length ≤ 19 ∧ (∀ digit ∈ digits, isDigit digit = true) ∧
      tmsi = 0) : (digits.length ≤ 19 ∧ (∀ digit ∈ digits, Nibble digit) ∧ tmsi = 0) ∧
        reread digits = digits :=
    ⟨⟨kept.1, fun digit member => Nibble.of_digit (kept.2.1 digit member), kept.2.2⟩,
      reread_decimal kept.2.1⟩
  cases type with
  | tmsi =>
      obtain rfl := built
      exact ⟨rfl, rfl⟩
  | noID =>
      obtain ⟨rfl, rfl⟩ := built
      exact ⟨⟨rfl, rfl⟩, rfl⟩
  | imsi => exact by_digits built
  | imei => exact by_digits built
  | imeisv => exact by_digits built

theorem takes_write {identity : L3MobileIdentity} (built : Built identity) (pos : Nat) :
    Takes (parse identity.lengthV) (fields pos identity.write) (some identity) := by
  have takes := takes_parsed built.parsed.1 pos
  rwa [built.parsed.2] at takes

/-! ## Octets consumed -/

/-- The octets read behind the first one, by the identity type. -/
def taken (type lengthBytes : Nat) : Nat :=
  if type = 4 then 4
  else if type = 1 ∨ type = 2 ∨ type = 3 then remainingBytes lengthBytes
  else 0

theorem ensures_parseDigits (type : MobileIDType) (firstDigit : Nat) (oddCount : Bool)
    (lengthBytes : Nat) :
    Ensures (parseDigits type firstDigit oddCount lengthBytes) fun _ read =>
      read.length = 8 * remainingBytes lengthBytes := by
  have pair (digits : List Char) : Ensures (readPair digits) fun _ read => read.length = 8 := by
    refine (FieldParser.ensures_readField 4).bind fun _ read first => ?_
    refine (FieldParser.ensures_readField 4).bind fun _ more second => Ensures.pure ?_
    rw [List.append_nil, List.length_append, first.1, second.1]
  refine (Ensures.rounds pair (remainingBytes lengthBytes) _).bind fun _ read consumed => Ensures.pure ?_
  rw [List.append_nil, consumed]

theorem ensures_parseValue (lengthBytes firstDigit : Nat) (oddCount : Bool) (type : Nat) :
    Ensures (parseValue lengthBytes firstDigit oddCount type) fun _ read =>
      read.length = 8 * taken type lengthBytes := by
  have digits (known : MobileIDType) := ensures_parseDigits known firstDigit oddCount lengthBytes
  have by_digits (known : type = 1 ∨ type = 2 ∨ type = 3) :
      taken type lengthBytes = remainingBytes lengthBytes := by
    rw [taken, if_neg (by omega), if_pos known]
  unfold parseValue
  split
  case h_1 =>
    rw [by_digits (.inl rfl)]
    exact digits .imsi
  case h_2 =>
    rw [by_digits (.inr (.inl rfl))]
    exact digits .imei
  case h_3 =>
    rw [by_digits (.inr (.inr rfl))]
    exact digits .imeisv
  case h_4 =>
    refine (FieldParser.ensures_readField 32).bind fun _ read value => Ensures.pure ?_
    rw [List.append_nil, value.1, taken, if_pos rfl]
  case h_5 one two three four =>
    have unknown : ¬ (type = 1 ∨ type = 2 ∨ type = 3) := by
      rintro (digits | digits | digits)
      · exact one digits
      · exact two digits
      · exact three digits
    rw [taken, if_neg four, if_neg unknown]
    exact Ensures.pure rfl

theorem ensures_parse (lengthBytes : Nat) :
    Ensures (parse lengthBytes) fun _ read =>
      ∃ head body, read = head ++ body ∧ head.length = 8 ∧
        body.length = 8 * taken (bitValue head % 8) lengthBytes := by
  unfold parse
  refine (FieldParser.ensures_readField 4).bind fun firstDigit front first => ?_
  refine FieldParser.ensures_readFlag.bind fun oddCount middle second => ?_
  refine (FieldParser.ensures_readField 3).bind fun type back third => ?_
  have length : (front ++ (middle ++ back)).length = 8 := by
    rw [List.length_append, List.length_append, first.1, second, third.1]
  have low : bitValue (front ++ (middle ++ back)) % 8 = type := by
    have small := Foundation.bitValue_lt back
    rw [third.1, ← third.2] at small
    rw [← List.append_assoc, Foundation.bitValue_append, third.1, ← third.2]
    omega
  refine (ensures_parseValue lengthBytes firstDigit oddCount type).mono fun _ body consumed =>
    ⟨front ++ (middle ++ back), body, ?_, length, ?_⟩
  · simp only [List.append_assoc]
  · rw [low, consumed]

/-- The first octet of a value, in front of what is read by its type. -/
theorem takes_first {first : UInt8} {lengthBytes : Nat} {back : List Bool}
    {result : Option L3MobileIdentity}
    (rest : Takes (parseValue lengthBytes (first.toNat / 2 ^ 4 % 2 ^ 4)
      (first.toNat / 2 ^ 3 % 2 ^ 1 != 0) (first.toNat % 8)) back result) :
    Takes (parse lengthBytes) (bitString [first] ++ back) result := by
  have digit := @FieldParser.takes_valueBits 4 (first.toNat / 2 ^ 4) (by decide) (by decide)
  have flag := (@FieldParser.takes_valueBits 1 (first.toNat / 2 ^ 3) (by decide) (by decide)).map
    (· != 0)
  have type := @FieldParser.takes_valueBits 3 first.toNat (by decide) (by decide)
  have bits : bitString [first] ++ back =
      valueBits 4 (first.toNat / 2 ^ 4) ++ (valueBits 1 (first.toNat / 2 ^ 3) ++
        (valueBits 3 first.toNat ++ back)) := by
    rw [bitString, List.flatMap_singleton, ← List.append_assoc, ← List.append_assoc,
      List.append_assoc (valueBits 4 _), ← Foundation.valueBits_add 1 3,
      ← Foundation.valueBits_add 4 4]
  rw [bits]
  exact digit.bind (flag.bind (type.bind rest))

theorem takes_tmsi {first : UInt8} {octets : List UInt8} (type : first.toNat % 8 = 4)
    (size : octets.length = 4) (lengthBytes : Nat) :
    Takes (parse lengthBytes) (bitString (first :: octets))
      (some (ofTMSI (UInt32.ofNat (bitValue (bitString octets))))) := by
  have length : (bitString octets).length = 32 := by rw [Foundation.bitString_length, size]
  have value := (FieldParser.takes_readField length (by decide) (by decide)).yield
    fun tmsi => ofTMSI (UInt32.ofNat tmsi)
  refine takes_first ?_
  rw [type]
  exact value

theorem takes_noID {first : UInt8} (unknown : first.toNat % 8 = 0 ∨ 4 < first.toNat % 8)
    (lengthBytes : Nat) : Takes (parse lengthBytes) (bitString [first]) (some {}) := by
  have back : bitString [first] = bitString [first] ++ [] := (List.append_nil _).symm
  rw [back]
  refine takes_first ?_
  generalize first.toNat % 8 = type at unknown
  unfold parseValue
  split
  case h_5 => exact Takes.pure _
  all_goals omega

/-- The announced length is the one that is read. -/
def Aligned (octets : List UInt8) (lengthBytes : Nat) : Prop :=
  match octets with
  | [] => True
  | first :: rest =>
      (first.toNat % 8 = 4 → rest.length < 4 ∨ lengthBytes = 5) ∧
        (first.toNat % 8 = 0 ∨ 4 < first.toNat % 8 → lengthBytes = 1)

/-- A run that succeeds has read whole octets, their number given by the identity type. -/
theorem consumed {before : List Bool} {octets : List UInt8} {lengthBytes : Nat}
    {identity : L3MobileIdentity} {cursor : BitCursor}
    (parsed : parse lengthBytes (.between before (bitString octets)) = .ok (identity, cursor)) :
    ∃ first rest, octets = first :: rest ∧
      taken (first.toNat % 8) lengthBytes ≤ rest.length ∧
      cursor.pos = before.length + 8 * (1 + taken (first.toNat % 8) lengthBytes) := by
  obtain ⟨read, behind, bits, rfl, head, body, rfl, eight, length⟩ :=
    ensures_parse lengthBytes _ _ _ _ parsed
  cases octets with
  | nil =>
      have total := congrArg List.length bits
      rw [List.length_append, List.length_append, eight] at total
      change 0 = _ at total
      omega
  | cons first rest =>
      rw [Foundation.bitString_cons, List.append_assoc] at bits
      obtain ⟨rfl, tail⟩ := List.append_inj bits
        ((Foundation.valueBits_length ..).trans eight.symm)
      rw [Foundation.bitValue_valueBits, Nat.mod_eq_of_lt first.toNat_lt] at length
      have total := congrArg List.length tail
      rw [Foundation.bitString_length, List.length_append, length] at total
      refine ⟨first, rest, rfl, by omega, ?_⟩
      change (before ++ (valueBits 8 first.toNat ++ body)).length = _
      rw [List.length_append, List.length_append, eight, length]
      omega

theorem aligned_of_consumes {before : List Bool} {octets : List UInt8} {lengthBytes : Nat}
    (consumes : ∀ identity cursor,
      parse lengthBytes (.between before (bitString octets)) = .ok (identity, cursor) →
        cursor.pos = before.length + 8 * lengthBytes) : Aligned octets lengthBytes := by
  have reached {front back : List UInt8} {identity : L3MobileIdentity}
      (split : octets = front ++ back)
      (takes : Takes (parse lengthBytes) (bitString front) (some identity)) :
      front.length = lengthBytes := by
    have run := takes before (bitString back)
    rw [← Foundation.bitString_append, ← split] at run
    cases parsed : parse lengthBytes (.between before (bitString octets)) with
    | error =>
        rw [parsed] at run
        cases run
    | ok read =>
        obtain ⟨value, cursor⟩ := read
        rw [parsed] at run
        injection run with run
        injection run with _ moved
        have position := consumes value cursor parsed
        rw [moved] at position
        change (before ++ bitString front).length = _ at position
        rw [List.length_append, Foundation.bitString_length] at position
        omega
  cases octets with
  | nil => exact trivial
  | cons first rest =>
      refine ⟨fun type => ?_, fun unknown => ?_⟩
      · by_cases short : rest.length < 4
        · exact .inl short
        · have size : (rest.take 4).length = 4 := by
            rw [List.length_take]
            omega
          have length := @reached (first :: rest.take 4) (rest.drop 4) _
            (by rw [List.cons_append, List.take_append_drop]) (takes_tmsi type size lengthBytes)
          rw [List.length_cons, size] at length
          exact .inr length.symm
      · exact (@reached [first] rest _ rfl (takes_noID unknown lengthBytes)).symm

theorem consumes_of_aligned {before : List Bool} {octets : List UInt8} {lengthBytes : Nat}
    (announced : lengthBytes < 2 ^ 64) (addressable : octets.length < 2 ^ 61)
    (aligned : Aligned octets lengthBytes) (identity : L3MobileIdentity) (cursor : BitCursor)
    (parsed : parse lengthBytes (.between before (bitString octets)) = .ok (identity, cursor)) :
    cursor.pos = before.length + 8 * lengthBytes := by
  obtain ⟨first, rest, rfl, room, position⟩ := consumed parsed
  rw [position]
  rw [List.length_cons] at addressable
  unfold Aligned at aligned
  have count : 1 ≤ lengthBytes → remainingBytes lengthBytes = lengthBytes - 1 := by
    unfold remainingBytes
    omega
  have wrapped : lengthBytes = 0 → remainingBytes lengthBytes = 2 ^ 64 - 1 := by
    rintro rfl
    unfold remainingBytes
    norm_num
  obtain ⟨tmsi, unknown⟩ := aligned
  unfold taken at room ⊢
  generalize first.toNat % 8 = type at tmsi unknown room ⊢
  split_ifs at room ⊢ with four digits
  · have := tmsi four
    omega
  · rcases Nat.eq_zero_or_pos lengthBytes with zero | positive
    · rw [wrapped zero] at room
      omega
    · rw [count positive]
      omega
  · have := unknown (by omega)
    omega

/-- Every identity comes back from its octets, and a value of another length than the one its
type reads leaves the caller at a wrong position. -/
theorem identity_codec_exact (identity : L3MobileIdentity) (before : List Bool)
    (octets : List UInt8) (lengthBytes : Nat) (announced : lengthBytes < 2 ^ 64)
    (addressable : octets.length < 2 ^ 61) :
    (Built identity → ∀ pos, endPos pos identity.write = pos + 8 * identity.lengthV ∧
      Takes (parse identity.lengthV) (fields pos identity.write) (some identity)) ∧
      ((∀ read cursor,
        parse lengthBytes (.between before (bitString octets)) = .ok (read, cursor) →
          cursor.pos = before.length + 8 * lengthBytes) ↔ Aligned octets lengthBytes) :=
  ⟨fun built pos => ⟨endPos_write identity pos, takes_write built pos⟩,
    aligned_of_consumes, consumes_of_aligned announced addressable⟩

theorem identity_codec_exact_imsi :
    Takes (parse 3) (fields 0 (write { type := .imsi, digits := ['2', '5', '0', '0'] }))
        (some { type := .imsi, digits := ['2', '5', '0', '0'] }) ∧
      ((∀ read cursor,
        parse 1 (.between [] (bitString [0x29])) = .ok (read, cursor) →
          cursor.pos = 0 + 8 * 1) ↔ Aligned [0x29] 1) :=
  let exact := identity_codec_exact { type := .imsi, digits := ['2', '5', '0', '0'] } [] [0x29] 1
    (by decide) (by decide)
  ⟨(exact.1 ⟨by decide, List.all_eq_true.mp rfl, rfl⟩ 0).2, exact.2⟩

/-- A TMSI announced with six octets: five are read. -/
theorem long_tmsi_misaligned :
    ¬ ∀ identity cursor,
      parse 6 (.between [] (bitString [0xF4, 0x12, 0x34, 0x56, 0x78, 0x2B])) =
          .ok (identity, cursor) → cursor.pos = 0 + 8 * 6 := by
  intro consumes
  have aligned := aligned_of_consumes consumes
  exact absurd (aligned.1 rfl) (by decide)

end L3MobileIdentity

end Gsml3.Stack
