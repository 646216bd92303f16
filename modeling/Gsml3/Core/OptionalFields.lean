import Gsml3.Core.FieldCodec

/-!
# Optional fields

Fields and groups behind presence bits, read as far as the input goes: a field that does not fit
into the rest is left at its default, and nothing is read for it.  Such a parser never fails.
What it reads are the bits of the value it returns, unless the input is too short for these.
-/

namespace Gsml3

open BitWriter (Op fields endPos)
open Foundation (bitString bitValue valueBits octetGroups)

namespace FieldParser

variable {α β : Type}

/-- Read a value if as many bits are left. -/
def tryValue (nbits : Nat) : FieldParser (BitVec nbits) := do
  let bits ← remainingBits
  if bits < nbits then pure 0 else readBits nbits

/-- Read a flag if a bit is left. -/
def tryFlag : FieldParser Bool := do
  let bits ← remainingBits
  if bits < 1 then pure false else readFlag

/-- A group behind its presence bit. -/
def tryOptional (group : FieldParser α) : FieldParser (Option α) := do
  let present ← tryFlag
  if present then some <$> group else pure none

def writeOptional (group : α → List Op) : Option α → List Op
  | none => [.writeField 0 1]
  | some value => .writeField 1 1 :: group value

theorem endPos_writeOptional {group : α → List Op} {width : Nat}
    (counts : ∀ value pos, endPos pos (group value) = pos + width) (value : Option α) (pos : Nat) :
    endPos pos (writeOptional group value) = pos + (1 + if value.isSome then width else 0) := by
  cases value with
  | none => rfl
  | some value =>
      rw [writeOptional, BitWriter.endPos_cons, counts]
      exact Nat.add_assoc ..

/-! ## Bits of a number and back -/

theorem valueBits_mod (width value : Nat) :
    valueBits width (value % 2 ^ width) = valueBits width value := by
  apply List.ext_getElem?
  intro i
  by_cases inside : i < width
  · rw [Foundation.valueBits_getElem? _ inside, Foundation.valueBits_getElem? _ inside,
      Nat.testBit_mod_two_pow, decide_eq_true (by omega), Bool.true_and]
  · rw [List.getElem?_eq_none, List.getElem?_eq_none]
    · rw [Foundation.valueBits_length]
      exact Nat.le_of_not_lt inside
    · rw [Foundation.valueBits_length]
      exact Nat.le_of_not_lt inside

theorem valueBits_bitValue (bits : List Bool) : valueBits bits.length (bitValue bits) = bits := by
  induction bits with
  | nil => rfl
  | cons bit bits ih =>
      have small := Foundation.bitValue_lt bits
      have low : bitValue (bit :: bits) % 2 ^ bits.length = bitValue bits := by
        rw [Foundation.bitValue_cons, Nat.mul_add_mod', Nat.mod_eq_of_lt small]
      have high : (bitValue (bit :: bits)).testBit bits.length = bit := by
        rw [Foundation.bitValue_cons, Nat.testBit_eq_decide_div_mod_eq,
          Nat.mul_comm, Nat.mul_add_div (Nat.two_pow_pos _), Nat.div_eq_of_lt small]
        cases bit with
        | true => rfl
        | false => rfl
      rw [List.length_cons, valueBits, high, ← valueBits_mod, low, ih]

/-- Whole octets of bits. -/
theorem bitString_octetGroups {count : Nat} {bits : List Bool} (whole : bits.length = 8 * count) :
    bitString (octetGroups count bits) = bits := by
  induction count generalizing bits with
  | zero => exact (List.eq_nil_of_length_eq_zero whole).symm
  | succ count ih =>
      have first : (bits.take 8).length = 8 := by
        rw [List.length_take]
        omega
      have small := Foundation.bitValue_lt (bits.take 8)
      rw [first] at small
      have rest : (bits.drop 8).length = 8 * count := by
        rw [List.length_drop]
        omega
      have front := valueBits_bitValue (bits.take 8)
      rw [first] at front
      rw [octetGroups, Foundation.bitString_cons, ih rest,
        UInt8.toNat_ofNat_of_lt' small, front, List.take_append_drop]

/-! ## Parsers that never fail -/

theorem bind_eq_ok {parser : FieldParser α} {next : α → FieldParser β} {cursor last : BitCursor}
    {result : β} : (parser >>= next) cursor = .ok (result, last) ↔
      ∃ value middle, parser cursor = .ok (value, middle) ∧
        next value middle = .ok (result, last) := by
  constructor
  · intro run
    change (parser cursor >>= fun read => next read.1 read.2) = _ at run
    cases parsed : parser cursor with
    | error =>
        rw [parsed] at run
        cases run
    | ok read =>
        rw [parsed] at run
        exact ⟨read.1, read.2, rfl, run⟩
  · rintro ⟨value, middle, parsed, run⟩
    change (parser cursor >>= fun read => next read.1 read.2) = _
    rw [parsed]
    exact run

/-- Wherever the parser stands, it reads a part of the bits in front of it, which has this
property together with the result and the rest. -/
def Finds (parser : FieldParser α) (post : α → List Bool → List Bool → Prop) : Prop :=
  ∀ after, ∃ value read rest, after = read ++ rest ∧ post value read rest ∧
    ∀ before, parser (.between before after) = .ok (value, .between (before ++ read) rest)

namespace Finds

variable {parser : FieldParser α} {next : α → FieldParser β}
  {post weaker : α → List Bool → List Bool → Prop}

theorem pure {value : α} (holds : ∀ rest, post value [] rest) : Finds (Pure.pure value) post := by
  intro after
  refine ⟨value, [], after, rfl, holds after, fun before => ?_⟩
  rw [List.append_nil]
  rfl

theorem mono (first : Finds parser post)
    (implied : ∀ value read rest, post value read rest → weaker value read rest) :
    Finds parser weaker := by
  intro after
  obtain ⟨value, read, rest, split, holds, run⟩ := first after
  exact ⟨value, read, rest, split, implied value read rest holds, run⟩

theorem bind {target : β → List Bool → List Bool → Prop} (first : Finds parser post)
    (second : ∀ value read, Finds (next value) fun result more rest =>
      post value read (more ++ rest) → target result (read ++ more) rest) :
    Finds (parser >>= next) target := by
  intro after
  obtain ⟨value, read, rest, rfl, holds, run⟩ := first after
  obtain ⟨result, more, rest, rfl, implied, goes⟩ := second value read rest
  refine ⟨result, read ++ more, rest, by rw [List.append_assoc], implied holds, fun before => ?_⟩
  change (parser (.between before (read ++ (more ++ rest))) >>= fun read => next read.1 read.2) = _
  rw [run, ← List.append_assoc]
  exact goes (before ++ read)

/-- A parser that needs as many bits runs where they are left, and else the value is returned. -/
theorem remaining {nbits : Nat} {parser : FieldParser α} {missing : α}
    (fits : ∀ front back, front.length = nbits →
      ∃ value, post value front back ∧ Takes parser front (some value))
    (short : ∀ rest, rest.length < nbits → post missing [] rest) :
    Finds (remainingBits >>= fun bits => if bits < nbits then Pure.pure missing else parser)
      post := by
  intro after
  have counted (before : List Bool) : (BitCursor.between before after).bits.length -
      (BitCursor.between before after).pos = after.length := by
    rw [BitCursor.between, List.length_append, Nat.add_sub_cancel_left]
  by_cases less : after.length < nbits
  · refine ⟨missing, [], after, rfl, short after less, fun before => ?_⟩
    change (if (BitCursor.between before after).bits.length -
      (BitCursor.between before after).pos < nbits then Pure.pure missing else parser) _ = _
    rw [counted, if_pos less, List.append_nil]
    rfl
  · have length : (after.take nbits).length = nbits := by
      rw [List.length_take]
      omega
    obtain ⟨value, holds, takes⟩ := fits _ (after.drop nbits) length
    refine ⟨value, after.take nbits, after.drop nbits, (List.take_append_drop ..).symm, holds,
      fun before => ?_⟩
    change (if (BitCursor.between before after).bits.length -
      (BitCursor.between before after).pos < nbits then Pure.pure missing else parser) _ = _
    rw [counted, if_neg less]
    have run := Steady.of_takes takes before (after.drop nbits)
    rwa [List.take_append_drop] at run

end Finds

/-! ## Bits of a value, if the input is long enough -/

/-- The bits that were read are those of these calls, or there were not so many. -/
def ReadsWritten (ops : List Op) (read rest : List Bool) : Prop :=
  ∀ pos, read = fields pos ops ∨ read.length + rest.length < (fields pos ops).length

theorem ReadsWritten.nil (rest : List Bool) : ReadsWritten [] [] rest :=
  fun _ => .inl rfl

theorem ReadsWritten.append {earlier later : List Op} {read more rest : List Bool}
    (first : ReadsWritten earlier read (more ++ rest)) (second : ReadsWritten later more rest) :
    ReadsWritten (earlier ++ later) (read ++ more) rest := by
  intro pos
  rw [BitWriter.fields_append, List.length_append, List.length_append]
  rcases first pos with whole | short
  · rcases second (endPos pos earlier) with rest | short
    · exact .inl (by rw [← whole, ← rest])
    · rw [whole]
      exact .inr (by omega)
  · rw [List.length_append] at short
    exact .inr (by omega)

theorem ReadsWritten.last {ops : List Op} {read rest : List Bool}
    (first : ReadsWritten ops read ([] ++ rest)) : ReadsWritten ops (read ++ []) rest := by
  rw [List.append_nil]
  exact first

/-- A parser for optional fields: it takes the bits of each value, and never reads anything
else. -/
structure Tolerant (parser : FieldParser α) (write : α → List Op) : Prop where
  takes : ∀ value pos, Takes parser (fields pos (write value)) (some value)
  finds : Finds parser fun value read rest => ReadsWritten (write value) read rest

theorem Takes.try {parser : FieldParser α} {bits : List Bool} {value missing : α} {nbits : Nat}
    (takes : Takes parser bits (some value)) (length : bits.length = nbits) :
    Takes (remainingBits >>= fun bits => if bits < nbits then Pure.pure missing else parser) bits
      (some value) := by
  refine Takes.remaining fun count enough => ?_
  rw [if_neg (by omega)]
  exact takes

theorem tolerant_tryValue (nbits : Nat) (width : 0 < nbits ∧ nbits ≤ 32) :
    Tolerant (tryValue nbits) fun value => [writeValue value] := by
  have written (value : BitVec nbits) (pos : Nat) :
      fields pos [writeValue value] = valueBits nbits value.toNat := by
    have small : value.toNat < 2 ^ 32 :=
      value.isLt.trans_le (Nat.pow_le_pow_right (by decide) width.2)
    rw [fields, fields, List.append_nil, writeValue, Op.field, Nat.min_eq_left width.2,
      UInt32.toNat_ofNat_of_lt' small]
  constructor
  · intro value pos
    have takes := takes_writeValue value pos width.1 width.2
    rw [fields, fields, List.append_nil]
    refine takes.try ?_
    rw [Op.field_length, writeValue, Op.width, Nat.min_eq_left width.2]
  · refine Finds.remaining (fun front back length => ?_) fun rest short pos => ?_
    · refine ⟨BitVec.ofNat nbits (bitValue front), fun pos => .inl ?_,
        (takes_readField length width.1 width.2).map (BitVec.ofNat nbits)⟩
      have bits := valueBits_bitValue front
      rw [length] at bits
      rw [written, BitVec.toNat_ofNat, valueBits_mod, bits]
    · right
      rw [written, Foundation.valueBits_length]
      exact (Nat.zero_add _).trans_lt short

theorem tolerant_tryFlag :
    Tolerant tryFlag fun flag => [.writeField (if flag then 1 else 0) 1] := by
  constructor
  · intro flag pos
    have takes := takes_writeFlag flag pos
    rw [fields, fields, List.append_nil]
    exact takes.try rfl
  · refine Finds.remaining (fun front back length => ?_) fun rest short pos => .inr ?_
    · obtain ⟨flag, rfl⟩ := List.length_eq_one_iff.mp length
      refine ⟨flag, fun pos => .inl ?_, takes_flag flag⟩
      cases flag with
      | true => rfl
      | false => rfl
    · exact (Nat.zero_add _).trans_lt short

theorem Tolerant.optional {group : FieldParser α} {write : α → List Op}
    (tolerant : Tolerant group write) : Tolerant (tryOptional group) (writeOptional write) := by
  constructor
  · intro value pos
    cases value with
    | none => exact Takes.part (tolerant_tryFlag.takes false pos) (Takes.pure none)
    | some value =>
        exact Takes.part (tolerant_tryFlag.takes true pos) ((tolerant.takes value _).map some)
  · refine tolerant_tryFlag.finds.bind fun present read => ?_
    cases present with
    | true =>
        refine tolerant.finds.bind fun value more => Finds.pure fun rest group flag => ?_
        rw [List.append_nil] at flag ⊢
        exact ReadsWritten.append flag group
    | false =>
        refine Finds.pure fun rest flag => ?_
        rw [List.append_nil]
        exact flag

/-- A field that stands only where a condition does not hold. -/
theorem Tolerant.takes_unless {parser : FieldParser α} {write : α → List Op} {value missing : α}
    {condition : Prop} [Decidable condition] (tolerant : Tolerant parser write)
    (default : condition → value = missing) (pos : Nat) :
    Takes (if condition then pure missing else parser)
      (fields pos (if condition then [] else write value)) (some value) := by
  by_cases holds : condition
  · rw [if_pos holds, if_pos holds, default holds]
    exact Takes.pure missing
  · rw [if_neg holds, if_neg holds]
    exact tolerant.takes value pos

theorem Tolerant.finds_unless {parser : FieldParser α} {write : α → List Op} {missing : α}
    (condition : Prop) [Decidable condition] (tolerant : Tolerant parser write) :
    Finds (if condition then pure missing else parser) fun value read rest =>
      (condition → value = missing) ∧
        ReadsWritten (if condition then [] else write value) read rest := by
  by_cases holds : condition
  · simp only [if_pos holds]
    exact Finds.pure fun rest => ⟨fun _ => rfl, ReadsWritten.nil rest⟩
  · simp only [if_neg holds]
    exact tolerant.finds.mono fun value read rest written => ⟨fun met => absurd met holds, written⟩

end FieldParser

end Gsml3
