import Gsml3.Common.MobileIdentity
import Gsml3.Core.ElementCodec

/-!
# Identities in octets

What the parser makes of the octets of an identity, and of those that are written for its result.
The digits behind the first one may be any nibbles.  A first nibble that is no decimal digit is
dropped, and with it the first digit of an identity where the octets behind it had another such
nibble in front.
-/

namespace Gsml3.Stack.L3MobileIdentity

open BitWriter (Op fields endPos)
open FieldParser
open Foundation (bitString bitValue valueBits)

/-! ## Digits of octets -/

/-- The digits of an octet, if there is room for both. -/
def pushPair (digits : List Char) (octet : UInt8) : List Char :=
  if digits.length + 2 < 20 then
    digits ++ [digitChar (octet.toNat % 16), digitChar (octet.toNat / 16)]
  else digits

/-- The digit of the first octet. -/
def firstDigits (first : UInt8) : List Char :=
  if first.toNat / 16 < 10 then [digitChar (first.toNat / 16)] else []

def valueDigits (first : UInt8) (body : List UInt8) : List Char :=
  if first.toNat / 8 % 2 = 1 then body.foldl pushPair (firstDigits first)
  else (body.foldl pushPair (firstDigits first)).dropLast

/-- One octet of digits. -/
theorem takes_pushPair (digits : List Char) (octet : UInt8) :
    Takes (readPair digits) (bitString [octet]) (some (pushPair digits octet)) := by
  have small := octet.toNat_lt
  have next := @takes_valueBits 4 (octet.toNat / 16) (by decide) (by decide)
  have current := @takes_valueBits 4 octet.toNat (by decide) (by decide)
  rw [Nat.mod_eq_of_lt (by omega)] at next
  rw [bitString_halves]
  exact next.bind (current.yield fun current =>
    if digits.length + 2 < 20 then
      digits ++ [digitChar current, digitChar (octet.toNat / 16)]
    else digits)

/-- The octets behind the first. -/
theorem takes_body (body : List UInt8) (digits : List Char) :
    Takes (rounds readPair body.length digits) (bitString body)
      (some (body.foldl pushPair digits)) := by
  induction body generalizing digits with
  | nil => exact Takes.pure digits
  | cons octet body ih => exact (takes_pushPair digits octet).octets (ih _)

/-- What is read first stays in front. -/
theorem foldl_pushPair (body : List UInt8) (digits : List Char) :
    ∃ more, body.foldl pushPair digits = digits ++ more := by
  induction body generalizing digits with
  | nil => exact ⟨[], (List.append_nil digits).symm⟩
  | cons octet body ih =>
      obtain ⟨more, later⟩ := ih (pushPair digits octet)
      rw [List.foldl_cons, later, pushPair]
      split
      · exact ⟨_, List.append_assoc ..⟩
      · exact ⟨more, rfl⟩

/-! ## The digits that are lost -/

/-- A first nibble that is dropped, in front of another one that would be. -/
def LosesDigit (first : UInt8) (body : List UInt8) : Prop :=
  10 ≤ first.toNat / 16 ∧ ∃ second ∈ body.head?, 10 ≤ second.toNat % 16

theorem digitChar_toNat {digit : Nat} (small : digit < 16) :
    (digitChar digit).toNat = digit + '0'.toNat := by
  rw [digitChar, Char.toNat_ofNat, if_pos]
  exact .inl (by change digit + 48 < 55296; omega)

theorem nibble_digitChar {digit : Nat} (small : digit < 16) : Nibble (digitChar digit) := by
  rw [Nibble, digitChar_toNat small]
  omega

/-- A first digit comes back when it is a decimal one. -/
theorem reread_cons_iff (first : Char) (rest : List Char) :
    reread (first :: rest) = first :: rest ↔ first.toNat < '0'.toNat + 10 := by
  rw [reread]
  split
  case isTrue low => exact iff_of_true rfl low
  case isFalse high => exact iff_of_false (List.cons_ne_self first rest).symm high

theorem firstDigits_length (first : UInt8) : (firstDigits first).length ≤ 1 := by
  rw [firstDigits]
  split
  · exact le_rfl
  · exact Nat.zero_le 1

/-- The first digit of a value of two octets or more. -/
theorem valueDigits_cons (first second : UInt8) (body : List UInt8) :
    ∃ rest, valueDigits first (second :: body) =
      (firstDigits first).headD (digitChar (second.toNat % 16)) :: rest := by
  have room := firstDigits_length first
  obtain ⟨more, later⟩ := foldl_pushPair body (pushPair (firstDigits first) second)
  have digits : ∃ rest, rest ≠ [] ∧ (second :: body).foldl pushPair (firstDigits first) =
      (firstDigits first).headD (digitChar (second.toNat % 16)) :: rest := by
    rw [List.foldl_cons, later, pushPair, if_pos (by omega)]
    cases firstDigits first with
    | nil => exact ⟨_, List.cons_ne_nil _ _, rfl⟩
    | cons digit digits => exact ⟨_, by simp, List.append_assoc ..⟩
  obtain ⟨rest, longer, read⟩ := digits
  rw [valueDigits, read]
  split
  · exact ⟨rest, rfl⟩
  · exact ⟨rest.dropLast, List.dropLast_cons_of_ne_nil longer⟩

/-- The digits of a value are written and read again as they are unless one is lost. -/
theorem reread_valueDigits (first : UInt8) (body : List UInt8) :
    reread (valueDigits first body) = valueDigits first body ↔ ¬ LosesDigit first body := by
  have first_small := first.toNat_lt
  cases body with
  | nil =>
      refine iff_of_true ?_ fun lost => ?_
      · rw [valueDigits, List.foldl_nil, firstDigits]
        split_ifs with odd low
        · exact (reread_cons_iff _ _).mpr (by rw [digitChar_toNat (by omega)]; omega)
        · rfl
        · rfl
        · rfl
      · obtain ⟨_, second, none, _⟩ := lost
        cases none
  | cons second body =>
      have second_small := second.toNat_lt
      obtain ⟨rest, value⟩ := valueDigits_cons first second body
      rw [value, reread_cons_iff, firstDigits]
      split
      case isTrue low =>
        rw [List.headD_cons, digitChar_toNat (by omega)]
        exact iff_of_true (by omega) fun lost => absurd lost.1 (by omega)
      case isFalse high =>
        rw [List.headD_nil, digitChar_toNat (by omega), LosesDigit]
        simp only [List.head?_cons, Option.mem_some_iff, exists_eq_left']
        omega

/-! ## What the parser returns -/

theorem pushPair_nibbles {digits : List Char} (nibbles : ∀ digit ∈ digits, Nibble digit)
    (octet : UInt8) : ∀ digit ∈ pushPair digits octet, Nibble digit := by
  have small := octet.toNat_lt
  rw [pushPair]
  split
  · intro digit member
    rw [List.mem_append, List.mem_pair] at member
    rcases member with kept | rfl | rfl
    · exact nibbles digit kept
    · exact nibble_digitChar (by omega)
    · exact nibble_digitChar (by omega)
  · exact nibbles

/-- There is room for 19 digits. -/
theorem pushPair_length {digits : List Char} (short : digits.length ≤ 19) (octet : UInt8) :
    (pushPair digits octet).length ≤ 19 := by
  rw [pushPair]
  split
  case isTrue room =>
    rw [List.length_append]
    change digits.length + 2 ≤ 19
    omega
  case isFalse => exact short

/-- The digits stay within their room and their half octets. -/
theorem foldl_kept (body : List UInt8) {digits : List Char} (short : digits.length ≤ 19)
    (nibbles : ∀ digit ∈ digits, Nibble digit) :
    (body.foldl pushPair digits).length ≤ 19 ∧
      ∀ digit ∈ body.foldl pushPair digits, Nibble digit := by
  induction body generalizing digits with
  | nil => exact ⟨short, nibbles⟩
  | cons octet body ih => exact ih (pushPair_length short octet) (pushPair_nibbles nibbles octet)

theorem valueDigits_kept (first : UInt8) (body : List UInt8) :
    (valueDigits first body).length ≤ 19 ∧ ∀ digit ∈ valueDigits first body, Nibble digit := by
  have nibbles : ∀ digit ∈ firstDigits first, Nibble digit := by
    have small := first.toNat_lt
    rw [firstDigits]
    split
    · exact List.forall_mem_singleton.mpr (nibble_digitChar (by omega))
    · exact List.forall_mem_nil _
  obtain ⟨short, kept⟩ := foldl_kept body ((firstDigits_length first).trans (by decide)) nibbles
  rw [valueDigits]
  split
  · exact ⟨short, kept⟩
  · refine ⟨?_, fun digit member => kept digit (List.mem_of_mem_dropLast member)⟩
    rw [List.length_dropLast]
    omega

/-- What a value is parsed to. -/
def decode (first : UInt8) (body : List UInt8) : L3MobileIdentity :=
  match first.toNat % 8 with
  | 1 => { type := .imsi, digits := valueDigits first body }
  | 2 => { type := .imei, digits := valueDigits first body }
  | 3 => { type := .imeisv, digits := valueDigits first body }
  | 4 => ofTMSI (UInt32.ofNat (bitValue (bitString body)))
  | _ => {}

/-- A decoded identity is one that parsing gives. -/
theorem parsed_decode (first : UInt8) (body : List UInt8) : Parsed (decode first body) := by
  obtain ⟨short, nibbles⟩ := valueDigits_kept first body
  rw [decode]
  split
  · exact ⟨short, nibbles, rfl⟩
  · exact ⟨short, nibbles, rfl⟩
  · exact ⟨short, nibbles, rfl⟩
  · exact rfl
  · exact ⟨rfl, rfl⟩

theorem takes_parseDigits (type : MobileIDType) {first : UInt8} {body : List UInt8}
    {lengthBytes : Nat} (length : body.length = remainingBytes lengthBytes) :
    Takes (parseDigits type (first.toNat / 2 ^ 4 % 2 ^ 4) (first.toNat / 2 ^ 3 % 2 ^ 1 != 0)
      lengthBytes) (bitString body) (some { type := type, digits := valueDigits first body }) := by
  have small := first.toNat_lt
  have nibble : first.toNat / 2 ^ 4 % 2 ^ 4 = first.toNat / 16 := by omega
  have takes := (takes_body body (firstDigits first)).yield fun digits => ({
    type := type
    digits := if (first.toNat / 2 ^ 3 % 2 ^ 1 != 0) then digits else digits.dropLast } :
      L3MobileIdentity)
  have flag : (first.toNat / 2 ^ 3 % 2 ^ 1 != 0) = true ↔ first.toNat / 8 % 2 = 1 := by
    rw [bne_iff_ne]
    omega
  rw [length] at takes
  rw [parseDigits, nibble, valueDigits]
  simp only [flag] at takes ⊢
  exact takes

/-- An identity is decoded from its octets. -/
theorem takes_decode {first : UInt8} {body : List UInt8} {lengthBytes : Nat}
    (length : body.length = taken (first.toNat % 8) lengthBytes) :
    Takes (parse lengthBytes) (bitString (first :: body)) (some (decode first body)) := by
  rw [taken] at length
  split_ifs at length with four digits
  · have value : decode first body = ofTMSI (UInt32.ofNat (bitValue (bitString body))) := by
      rw [decode, four]
      rfl
    rw [value]
    exact takes_tmsi four length lengthBytes
  · have bits : bitString (first :: body) = bitString [first] ++ bitString body :=
      Foundation.bitString_append [first] body
    rw [bits]
    apply takes_first
    rcases digits with one | two | three
    · rw [one, parseValue, decode, one]
      exact takes_parseDigits .imsi length
    · rw [two, parseValue, decode, two]
      exact takes_parseDigits .imei length
    · rw [three, parseValue, decode, three]
      exact takes_parseDigits .imeisv length
  · obtain rfl := List.eq_nil_of_length_eq_zero length
    have unknown : first.toNat % 8 = 0 ∨ 4 < first.toNat % 8 := by omega
    have value : decode first [] = {} := by
      rw [decode]
      split
      all_goals first | rfl | omega
    rw [value]
    exact takes_noID unknown lengthBytes

/-! ## Behind an octet with the length -/

/-- An identity behind an octet with its length. -/
def readIdentity : FieldParser L3MobileIdentity := do
  let length ← readOctet
  parse length.toNat

/-- No digit is lost of an identity in front of these octets, of which the first is its length. -/
def DigitsKept : List UInt8 → Prop
  | length :: first :: body =>
      first.toNat % 8 = 1 ∨ first.toNat % 8 = 2 ∨ first.toNat % 8 = 3 → length ≠ 1 →
        ¬ LosesDigit first body
  | _ => True

/-- The octets behind the identity. -/
def behind : List UInt8 → List UInt8
  | length :: first :: body => body.drop (taken (first.toNat % 8) length.toNat)
  | _ => []

/-- The octets are those of an identity. -/
def Framed : List UInt8 → Prop
  | length :: first :: body => body.length = taken (first.toNat % 8) length.toNat
  | _ => False

/-- What stands behind a framed identity. -/
theorem behind_append {octets : List UInt8} (framed : Framed octets) (more : List UInt8) :
    behind (octets ++ more) = more := by
  match octets, framed with
  | length :: first :: body, framed =>
      change (body ++ more).drop _ = more
      rw [← framed]
      exact List.drop_left

theorem body_eq_nil_iff {length first : UInt8} {body : List UInt8}
    (framed : Framed (length :: first :: body))
    (digits : first.toNat % 8 = 1 ∨ first.toNat % 8 = 2 ∨ first.toNat % 8 = 3) :
    body = [] ↔ length = 1 := by
  have size : body.length = remainingBytes length.toNat := by
    rw [framed, taken, if_neg (by omega), if_pos digits]
  have small := length.toNat_lt
  have one : length = 1 ↔ length.toNat = 1 := UInt8.toNat_inj.symm
  unfold remainingBytes at size
  rw [← List.length_eq_zero_iff, one, size]
  omega

/-- What follows an identity does not change whether its digits are kept. -/
theorem digitsKept_append {octets : List UInt8} (framed : Framed octets) (more : List UInt8) :
    DigitsKept (octets ++ more) ↔ DigitsKept octets := by
  match octets, framed with
  | length :: first :: body, framed =>
      refine forall₂_congr fun digits long => not_congr (and_congr_right fun _ => ?_)
      cases body with
      | nil => exact absurd ((body_eq_nil_iff framed digits).mp rfl) long
      | cons second body => exact Iff.rfl

theorem decode_digits {first : UInt8} (body : List UInt8)
    (digits : first.toNat % 8 = 1 ∨ first.toNat % 8 = 2 ∨ first.toNat % 8 = 3) :
    (decode first body).digits = valueDigits first body := by
  rw [decode]
  rcases digits with one | two | three
  · rw [one]
    rfl
  · rw [two]
    rfl
  · rw [three]
    rfl

theorem decode_no_digits {first : UInt8} (body : List UInt8)
    (none : ¬ (first.toNat % 8 = 1 ∨ first.toNat % 8 = 2 ∨ first.toNat % 8 = 3)) :
    (decode first body).digits = [] := by
  rw [decode]
  split
  all_goals first | rfl | omega

/-- The digits come back from what is written for the identity if none is lost. -/
theorem digitsKept_iff {length first : UInt8} {body : List UInt8}
    (framed : Framed (length :: first :: body)) :
    reread (decode first body).digits = (decode first body).digits ↔
      DigitsKept (length :: first :: body) := by
  by_cases digits : first.toNat % 8 = 1 ∨ first.toNat % 8 = 2 ∨ first.toNat % 8 = 3
  · rw [decode_digits body digits, reread_valueDigits]
    constructor
    · exact fun kept _ _ => kept
    · intro kept lost
      refine kept digits (fun short => ?_) lost
      obtain rfl := (body_eq_nil_iff framed digits).mpr short
      obtain ⟨_, second, none, _⟩ := lost
      cases none
  · rw [decode_no_digits body digits]
    exact iff_of_true rfl fun known => absurd known digits

/-- An identity that is read, with the octets it was read from. -/
theorem ensures_readIdentity :
    Ensures readIdentity fun identity read =>
      ∃ octets, read = bitString octets ∧ Framed octets ∧ Parsed identity ∧
        (reread identity.digits = identity.digits ↔ DigitsKept octets) := by
  refine ensures_readOctet_eq.bind fun length front announced => ?_
  obtain rfl := announced
  intro before after identity last run
  obtain ⟨read, rest, rfl, rfl, head, body, rfl, eight, size⟩ :=
    ensures_parse length.toNat before after identity last run
  obtain ⟨first, rfl⟩ := exists_octet eight
  obtain ⟨body, count, rfl⟩ := exists_octets size
  have value : bitValue (bitString [first]) = first.toNat :=
    (Foundation.bitValue_valueBits 8 _).trans (Nat.mod_eq_of_lt first.toNat_lt)
  rw [value] at count
  have takes := Steady.of_takes (takes_decode count) before rest
  have bits : bitString [first] ++ bitString body = bitString (first :: body) :=
    (Foundation.bitString_append [first] body).symm
  rw [bits] at run ⊢
  obtain ⟨rfl, -⟩ := Prod.mk.inj (Except.ok.inj (run.symm.trans takes))
  refine ⟨_, rest, rfl, rfl, length :: first :: body, ?_, count, parsed_decode first body,
    digitsKept_iff count⟩
  exact (Foundation.bitString_append [length] (first :: body)).symm

theorem lengthV_lt {identity : L3MobileIdentity} (parsed : Parsed identity) :
    identity.lengthV < 256 := by
  obtain ⟨type, digits, tmsi⟩ := identity
  have by_digits (short : digits.length ≤ 19) : 1 + digits.length / 2 < 256 := by omega
  cases type with
  | tmsi => exact (by decide : 5 < 256)
  | noID => exact (by decide : 1 < 256)
  | imsi => exact by_digits parsed.1
  | imei => exact by_digits parsed.1
  | imeisv => exact by_digits parsed.1

/-- A parsed identity comes back behind its length, cut to its digits. -/
theorem takes_writeIdentity {identity : L3MobileIdentity} (parsed : Parsed identity) (pos : Nat) :
    Takes readIdentity
      (fields pos (.writeField (UInt32.ofNat identity.lengthV) 8 :: identity.write))
      (some { identity with digits := reread identity.digits }) := by
  refine Takes.octetField ?_
  rw [toNat_lengthOctet (lengthV_lt parsed)]
  exact takes_parsed parsed _

end Gsml3.Stack.L3MobileIdentity
