import Gsml3.Core.BitRoundTrip
import Gsml3.Core.FieldParser

/-!
# Fields written and read back

A parser reads back a list of calls if it takes the bits they write.  Fields that are kept
in as many bits as they have on the wire come back unchanged.
-/

namespace Gsml3

open BitWriter (Op fields endPos)
open Foundation (bitString bitValue valueBits)

/-- Write a value in as many bits as it has. -/
def writeValue {nbits : Nat} (value : BitVec nbits) : Op :=
  .writeField (UInt32.ofNat value.toNat) nbits

namespace FieldParser

variable {α β : Type}

/-- A field that is kept in as many bits. -/
def readBits (nbits : Nat) : FieldParser (BitVec nbits) :=
  BitVec.ofNat nbits <$> readField nbits

/-- `readField(1) != 0`. -/
def readFlag : FieldParser Bool :=
  (· != 0) <$> readField 1

def alignToOctet : FieldParser Unit := fun cursor =>
  .ok ((), { cursor with pos := min ((cursor.pos + 7) / 8 * 8) cursor.bits.length })

/-- Flags, each with a read of its own. -/
def readFlags : Nat → FieldParser (List Bool)
  | 0 => pure []
  | count + 1 => do
      let flag ← readFlag
      let flags ← readFlags count
      pure (flag :: flags)

/-! ## Exact reads -/

/-- Bits are taken in one way only. -/
theorem Takes.unique {parser : FieldParser α} {bits : List Bool} {one other : Option α}
    (first : Takes parser bits one) (second : Takes parser bits other) : one = other := by
  have same := (first [] []).symm.trans (second [] [])
  cases one with
  | none =>
      cases other with
      | none => rfl
      | some => cases same
  | some =>
      cases other with
      | none => cases same
      | some =>
          injection same with same
          rw [(Prod.mk.inj same).1]

/-- Behind what the first parser takes, the second one goes on. -/
theorem Takes.run_bind {parser : FieldParser α} {bits : List Bool} {value : α}
    (first : Takes parser bits (some value)) (next : α → FieldParser β)
    (before after : List Bool) :
    ((parser >>= next) (.between before (bits ++ after))).toOption =
      (next value (.between (before ++ bits) after)).toOption := by
  rw [toOption_bind, first]
  rfl

/-- The halves of an octet. -/
theorem bitString_halves (octet : UInt8) :
    bitString [octet] = valueBits 4 (octet.toNat / 16) ++ valueBits 4 octet.toNat := by
  rw [bitString, List.flatMap_singleton]
  exact Foundation.valueBits_add 4 4 octet.toNat

section Writes

variable {next : α → FieldParser β} {result : Option β} {pos : Nat} {ops : List Op}

/-- A call is read back, and then the calls behind it. -/
theorem Takes.step {parser : FieldParser α} {op : Op} {value : α}
    (first : Takes parser (op.field pos) (some value))
    (rest : Takes (next value) (fields (pos + op.width pos) ops) result) :
    Takes (parser >>= next) (fields pos (op :: ops)) result :=
  first.bind rest

/-- Several calls are. -/
theorem Takes.part {parser : FieldParser α} {earlier : List Op} {value : α}
    (first : Takes parser (fields pos earlier) (some value))
    (rest : Takes (next value) (fields (endPos pos earlier) ops) result) :
    Takes (parser >>= next) (fields pos (earlier ++ ops)) result := by
  rw [BitWriter.fields_append]
  exact first.bind rest

end Writes

/-- A field that is written is read as its value, cut to its width. -/
theorem takes_writeField {value : UInt32} {nbits : Nat} (pos : Nat) (positive : 0 < nbits)
    (narrow : nbits ≤ 32) :
    Takes (readField nbits) ((Op.writeField value nbits).field pos)
      (some (value.toNat % 2 ^ nbits)) := by
  rw [Op.field, Nat.min_eq_left narrow]
  exact takes_valueBits value.toNat positive narrow

/-- A value of its own width comes back. -/
theorem takes_writeValue {nbits : Nat} (value : BitVec nbits) (pos : Nat) (positive : 0 < nbits)
    (narrow : nbits ≤ 32) :
    Takes (readBits nbits) ((writeValue value).field pos) (some value) := by
  have small : value.toNat < 2 ^ 32 :=
    value.isLt.trans_le (Nat.pow_le_pow_right (by decide) narrow)
  have takes := (@takes_writeField (UInt32.ofNat value.toNat) nbits pos positive narrow).map
    (BitVec.ofNat nbits)
  rw [UInt32.toNat_ofNat_of_lt' small, Nat.mod_eq_of_lt value.isLt, Option.map_some,
    BitVec.ofNat_toNat, BitVec.setWidth_eq] at takes
  exact takes

/-- A flag comes back. -/
theorem takes_writeFlag (flag : Bool) (pos : Nat) :
    Takes readFlag ((Op.writeField (if flag then 1 else 0) 1).field pos) (some flag) := by
  cases flag with
  | true => exact (takes_writeField pos Nat.one_pos (by decide)).map (· != 0)
  | false => exact (takes_writeField pos Nat.one_pos (by decide)).map (· != 0)

section Steps

variable {result : Option α} {pos : Nat} {ops : List Op}

/-- A value in front of the rest of the message. -/
theorem Takes.value {nbits : Nat} {value : BitVec nbits} {next : BitVec nbits → FieldParser α}
    (rest : Takes (next value) (fields (pos + nbits) ops) result)
    (width : 0 < nbits ∧ nbits ≤ 32) :
    Takes (readBits nbits >>= next) (fields pos (writeValue value :: ops)) result := by
  refine Takes.step (takes_writeValue value pos width.1 width.2) ?_
  rw [writeValue, Op.width, Nat.min_eq_left width.2]
  exact rest

/-- A flag in front of the rest of the message. -/
theorem Takes.flag {flag : Bool} {next : Bool → FieldParser α}
    (rest : Takes (next flag) (fields (pos + 1) ops) result) :
    Takes (readFlag >>= next) (fields pos (.writeField (if flag then 1 else 0) 1 :: ops)) result :=
  Takes.step (takes_writeFlag flag pos) rest

/-- The bits to take are left. -/
theorem Takes.remaining {bits : List Bool} {next : Nat → FieldParser α}
    (rest : ∀ count, bits.length ≤ count → Takes (next count) bits result) :
    Takes (remainingBits >>= next) bits result := by
  intro before after
  rw [toOption_bind]
  refine rest _ ?_ before after
  rw [BitCursor.between, List.length_append, List.length_append, Nat.add_sub_cancel_left]
  exact Nat.le_add_right ..

/-- Something is left. -/
theorem Takes.more {bits : List Bool} {next : Bool → FieldParser α} (left : bits ≠ [])
    (rest : Takes (next true) bits result) : Takes (hasMore >>= next) bits result := by
  intro before after
  have inside : (BitCursor.between before (bits ++ after)).pos <
      (BitCursor.between before (bits ++ after)).bits.length := by
    have := List.length_pos_of_ne_nil left
    simp only [BitCursor.between, List.length_append]
    omega
  rw [toOption_bind, hasMore, decide_eq_true inside]
  exact rest before after

end Steps

theorem takes_flag (flag : Bool) : Takes readFlag [flag] (some flag) := by
  have length : [flag].length = 1 := rfl
  have takes := (takes_readField length Nat.one_pos (by decide)).map (· != 0)
  cases flag with
  | true => exact takes
  | false => exact takes

theorem takes_readFlags (flags : List Bool) :
    Takes (readFlags flags.length) flags (some flags) := by
  induction flags with
  | nil => exact Takes.pure []
  | cons flag flags ih => exact (takes_flag flag).bind (ih.yield (flag :: ·))

/-- Written flags are the bits themselves. -/
theorem fields_flags (flags : List Bool) (pos : Nat) :
    fields pos (flags.map fun flag => .writeField (if flag then 1 else 0) 1) = flags := by
  induction flags generalizing pos with
  | nil => rfl
  | cons flag flags ih =>
      rw [List.map_cons, fields, ih]
      cases flag with
      | true => rfl
      | false => rfl

/-- Wherever the calls write, the parser reads the value back from the bits that follow. -/
def ReadsBack (parser : FieldParser α) (ops : Nat → List Op) (value : α) : Prop :=
  ∀ before after, (parser (.between before (fields before.length (ops before.length) ++ after))).toOption =
    some (value, .between (before ++ fields before.length (ops before.length)) after)

/-- What is taken at every position reads back. -/
theorem Takes.readsBack {parser : FieldParser α} {ops : List Op} {value : α}
    (takes : ∀ pos, Takes parser (fields pos ops) (some value)) :
    ReadsBack parser (fun _ => ops) value :=
  fun before after => takes before.length before after

/-! ## Octets to the end of the input -/

section Octets

variable {parser : FieldParser α} {next : α → FieldParser β} {value : α} {bits more : List Bool}
  {front back : List UInt8} {result : Option β}

/-- The parser takes these bits where the input ends with them. -/
def TakesAll (parser : FieldParser α) (bits : List Bool) (result : Option α) : Prop :=
  ∀ before, (parser (.between before bits)).toOption =
    result.map fun value => (value, .between (before ++ bits) [])

/-- What takes bits wherever they stand takes them at the end. -/
theorem Takes.all {result : Option α} (takes : Takes parser bits result) :
    TakesAll parser bits result := by
  intro before
  have whole := takes before []
  rwa [List.append_nil] at whole

/-- A first part in front of the rest of the message. -/
theorem Takes.bind_all (first : Takes parser bits (some value))
    (rest : TakesAll (next value) more result) : TakesAll (parser >>= next) (bits ++ more) result := by
  intro before
  rw [first.run_bind, rest, List.append_assoc]

/-- A result made of what was taken. -/
theorem TakesAll.yield {result : Option α} (takes : TakesAll parser bits result) (f : α → β) :
    TakesAll (parser >>= fun value => Pure.pure (f value)) bits (result.map f) := by
  intro before
  rw [toOption_bind, takes]
  cases result with
  | none => rfl
  | some => rfl

/-- Bits are left in front of a part that is not empty. -/
theorem TakesAll.unfinished {next : Bool → FieldParser β} (left : bits ≠ [])
    (rest : TakesAll (next true) bits result) : TakesAll (hasMore >>= next) bits result := by
  intro before
  have inside : (BitCursor.between before bits).pos < (BitCursor.between before bits).bits.length := by
    have := List.length_pos_of_ne_nil left
    simp only [BitCursor.between, List.length_append]
    omega
  rw [toOption_bind, hasMore, decide_eq_true inside]
  exact rest before

/-- Nothing is left. -/
theorem TakesAll.finished {next : Bool → FieldParser β} (rest : TakesAll (next false) [] result) :
    TakesAll (hasMore >>= next) [] result := by
  intro before
  have outside : ¬ (BitCursor.between before []).pos < (BitCursor.between before []).bits.length := by
    rw [BitCursor.between, List.append_nil]
    exact Nat.lt_irrefl _
  rw [toOption_bind, hasMore, decide_eq_false outside]
  exact rest before

/-- What takes all bits is the result of parsing. -/
theorem TakesAll.parse_eq {octets : List UInt8} {result : Option α}
    (takes : TakesAll parser (bitString octets) result) : parse parser octets = result := by
  have whole := takes []
  rw [parse, whole]
  cases result with
  | none => rfl
  | some => rfl

/-- Octets in front of octets. -/
theorem Takes.octets (first : Takes parser (bitString front) (some value))
    (rest : Takes (next value) (bitString back) result) :
    Takes (parser >>= next) (bitString (front ++ back)) result := by
  rw [Foundation.bitString_append]
  exact first.bind rest

/-- Octets in front of the rest of the message. -/
theorem Takes.octets_all (first : Takes parser (bitString front) (some value))
    (rest : TakesAll (next value) (bitString back) result) :
    TakesAll (parser >>= next) (bitString (front ++ back)) result := by
  rw [Foundation.bitString_append]
  exact first.bind_all rest

theorem Takes.octet {octet : UInt8} {next : UInt8 → FieldParser β}
    (rest : Takes (next octet) (bitString back) result) :
    Takes (readOctet >>= next) (bitString (octet :: back)) result :=
  (takes_readOctet octet).octets rest

theorem TakesAll.octet {octet : UInt8} {next : UInt8 → FieldParser β}
    (rest : TakesAll (next octet) (bitString back) result) :
    TakesAll (readOctet >>= next) (bitString (octet :: back)) result :=
  (takes_readOctet octet).octets_all rest

end Octets

/-! ## What a successful read consumed -/

/-- A run that succeeds has read bits in front of the rest, and both have this property together
with the result. -/
def Leaves (parser : FieldParser α) (post : α → List Bool → List Bool → Prop) : Prop :=
  ∀ before after value next, parser (.between before after) = .ok (value, next) →
    ∃ read rest, after = read ++ rest ∧ next = .between (before ++ read) rest ∧ post value read rest

namespace Leaves

variable {parser : FieldParser α} {next : α → FieldParser β}
  {post weaker : α → List Bool → List Bool → Prop}

theorem pure {value : α} (holds : ∀ rest, post value [] rest) :
    Leaves (Pure.pure value) post := by
  intro before after result next run
  obtain ⟨rfl, rfl⟩ := Prod.mk.inj (Except.ok.inj run)
  exact ⟨[], after, rfl, by rw [List.append_nil], holds after⟩

/-- A weaker condition holds too. -/
theorem mono (first : Leaves parser post)
    (implied : ∀ value read rest, post value read rest → weaker value read rest) :
    Leaves parser weaker := by
  intro before after value next run
  obtain ⟨read, rest, split, moved, holds⟩ := first before after value next run
  exact ⟨read, rest, split, moved, implied value read rest holds⟩

/-- The rest of the first parser is what the second one reads and leaves. -/
theorem bind {target : β → List Bool → List Bool → Prop} (first : Leaves parser post)
    (second : ∀ value read, Leaves (next value) fun result more rest =>
      post value read (more ++ rest) → target result (read ++ more) rest) :
    Leaves (parser >>= next) target := by
  intro before after result last run
  change (parser (.between before after) >>= fun read => next read.1 read.2) = _ at run
  cases parsed : parser (.between before after) with
  | error =>
      rw [parsed] at run
      cases run
  | ok read =>
      obtain ⟨value, middle⟩ := read
      rw [parsed] at run
      obtain ⟨read, rest, rfl, rfl, holds⟩ := first before after value middle parsed
      obtain ⟨more, rest, rfl, rfl, implied⟩ := second value read (before ++ read) rest result last run
      exact ⟨read ++ more, rest, by rw [List.append_assoc], by rw [List.append_assoc],
        implied holds⟩

end Leaves

/-- What holds of the bits read holds whatever is left. -/
theorem Ensures.leaves {parser : FieldParser α} {post : α → List Bool → Prop}
    (ensures : Ensures parser post) : Leaves parser fun value read _ => post value read :=
  ensures

/-- The count of the bits left. -/
theorem leaves_remainingBits : Leaves remainingBits fun bits read rest =>
    read = [] ∧ bits = rest.length := by
  intro before after value next run
  obtain ⟨rfl, rfl⟩ := Prod.mk.inj (Except.ok.inj run)
  refine ⟨[], after, rfl, by rw [List.append_nil], rfl, ?_⟩
  rw [BitCursor.between, List.length_append, Nat.add_sub_cancel_left]

theorem ensures_remainingBits : Ensures remainingBits fun _ read => read = [] :=
  leaves_remainingBits.mono fun _ _ _ counted => counted.1

theorem ensures_position : Ensures position fun _ read => read = [] := by
  intro before after value next run
  obtain ⟨rfl, rfl⟩ := Prod.mk.inj (Except.ok.inj run)
  exact ⟨[], after, rfl, by rw [List.append_nil], rfl⟩

theorem ensures_readBits (nbits : Nat) :
    Ensures (readBits nbits) fun _ read => read.length = nbits :=
  (ensures_readField nbits).map fun _ _ consumed => consumed.1

theorem ensures_readFlag : Ensures readFlag fun _ read => read.length = 1 :=
  (ensures_readField 1).map fun _ _ consumed => consumed.1

theorem ensures_readOctet : Ensures readOctet fun _ read => read.length = 8 :=
  (ensures_readField 8).map fun _ _ consumed => consumed.1

theorem ensures_readOctets (count : Nat) :
    Ensures (readOctets count) fun octets read =>
      octets.length = count ∧ read.length = 8 * count := by
  induction count with
  | zero => exact Ensures.pure ⟨rfl, rfl⟩
  | succ count ih =>
      refine ensures_readOctet.bind fun octet read first => ?_
      refine ih.bind fun octets more rest => Ensures.pure ⟨?_, ?_⟩
      · rw [List.length_cons, rest.1]
      · rw [List.append_nil, List.length_append, first, rest.2]
        omega

theorem ensures_readFlags (count : Nat) :
    Ensures (readFlags count) fun flags read => flags.length = count ∧ read.length = count := by
  induction count with
  | zero => exact Ensures.pure ⟨rfl, rfl⟩
  | succ count ih =>
      refine ensures_readFlag.bind fun flag read first => ?_
      refine ih.bind fun flags more rest => Ensures.pure ⟨?_, ?_⟩
      · rw [List.length_cons, rest.1]
      · rw [List.append_nil, List.length_append, first, rest.2, Nat.add_comm]

/-- Rounds of one width. -/
theorem Ensures.rounds {σ : Type} {round : σ → FieldParser σ} {width : Nat}
    (one : ∀ state, Ensures (round state) fun _ read => read.length = width) (count : Nat)
    (state : σ) :
    Ensures (rounds round count state) fun _ read => read.length = width * count := by
  induction count generalizing state with
  | zero => exact Ensures.pure rfl
  | succ count ih =>
      refine (one state).bind fun next read consumed => (ih next).mono fun _ more rest => ?_
      rw [List.length_append, consumed, rest, Nat.mul_succ, Nat.add_comm]

/-- Alignment moves over the bits that are missing to a whole octet. -/
theorem alignToOctet_eq (before after : List Bool) :
    alignToOctet (.between before after) =
      .ok ((), .between (before ++ after.take ((8 - before.length % 8) % 8))
        (after.drop ((8 - before.length % 8) % 8))) := by
  have bits : before ++ after.take ((8 - before.length % 8) % 8) ++
      after.drop ((8 - before.length % 8) % 8) = before ++ after := by
    rw [List.append_assoc, List.take_append_drop]
  have pos : (before ++ after.take ((8 - before.length % 8) % 8)).length =
      min ((before.length + 7) / 8 * 8) (before ++ after).length := by
    rw [List.length_append, List.length_append, List.length_take]
    omega
  rw [BitCursor.between, BitCursor.between, bits, pos]
  rfl

theorem ensures_alignToOctet : Ensures alignToOctet fun _ _ => True := by
  intro before after value next run
  rw [alignToOctet_eq] at run
  obtain ⟨rfl, rfl⟩ := Prod.mk.inj (Except.ok.inj run)
  exact ⟨_, _, (List.take_append_drop ..).symm, rfl, trivial⟩

/-! ## Parsers that do not look ahead -/

/-- A run that succeeds depends on what it has read only. -/
def Steady (parser : FieldParser α) : Prop :=
  ∀ before after value next, parser (.between before after) = .ok (value, next) →
    ∃ read rest, after = read ++ rest ∧
      ∀ more, parser (.between before (read ++ more)) = .ok (value, .between (before ++ read) more)

namespace Steady

variable {parser : FieldParser α} {next : α → FieldParser β}

/-- A result alone is steady. -/
theorem pure (value : α) : Steady (Pure.pure value : FieldParser α) := by
  intro before after result next run
  obtain ⟨rfl, rfl⟩ := Prod.mk.inj (Except.ok.inj run)
  refine ⟨[], after, rfl, fun more => ?_⟩
  rw [List.append_nil]
  rfl

theorem throw (error : ParseError) : Steady (MonadExcept.throw error : FieldParser α) := by
  intro before after value next run
  cases run

/-- Steady parsers compose. -/
theorem bind (first : Steady parser) (second : ∀ value, Steady (next value)) :
    Steady (parser >>= next) := by
  intro before after result last run
  change (parser (.between before after) >>= fun read => next read.1 read.2) = _ at run
  cases parsed : parser (.between before after) with
  | error =>
      rw [parsed] at run
      cases run
  | ok moved =>
      obtain ⟨value, middle⟩ := moved
      rw [parsed] at run
      obtain ⟨read, rest, rfl, early⟩ := first before after value middle parsed
      obtain rfl : middle = .between (before ++ read) rest := by
        have same := early rest
        rw [parsed] at same
        exact (Prod.mk.inj (Except.ok.inj same)).2
      obtain ⟨later, rest, rfl, late⟩ := second value (before ++ read) rest result last run
      refine ⟨read ++ later, rest, by rw [List.append_assoc], fun more => ?_⟩
      change (parser (.between before (read ++ later ++ more)) >>= fun read =>
        next read.1 read.2) = _
      rw [List.append_assoc, early, ← List.append_assoc]
      exact late more

/-- A steady parser reads the bits it takes wherever they stand. -/
theorem of_takes {bits : List Bool} {value : α} (takes : Takes parser bits (some value))
    (before more : List Bool) :
    parser (.between before (bits ++ more)) = .ok (value, .between (before ++ bits) more) := by
  have run := takes before more
  cases parsed : parser (.between before (bits ++ more)) with
  | error =>
      rw [parsed] at run
      cases run
  | ok =>
      rw [parsed] at run
      exact congrArg Except.ok (Option.some.inj run)

/-- What a parser takes in front of a string. -/
theorem same_front {one other : List Bool} {value result : α} {after rest : List Bool}
    (first : Takes parser one (some value)) (second : Takes parser other (some result))
    (same : one ++ after = other ++ rest) : value = result ∧ one = other := by
  have run := of_takes first [] after
  rw [same, of_takes second] at run
  obtain ⟨values, cursors⟩ := Prod.mk.inj (Except.ok.inj run)
  have length := congrArg BitCursor.pos cursors
  exact ⟨values.symm, (List.append_inj same length.symm).1⟩

/-- It refuses a part of what it takes. -/
theorem refuses_prefix (steady : Steady parser) {front back : List Bool} {value : α}
    (takes : Takes parser (front ++ back) (some value)) (longer : back ≠ [])
    (before : List Bool) : (parser (.between before front)).toOption = none := by
  cases run : parser (.between before front) with
  | error => rfl
  | ok moved =>
      obtain ⟨other, next⟩ := moved
      obtain ⟨read, rest, rfl, goes⟩ := steady before front other next run
      have whole := of_takes takes before []
      rw [List.append_nil, List.append_assoc read, goes] at whole
      have positions := congrArg (fun moved => BitCursor.pos moved.2) (Except.ok.inj whole)
      simp only [BitCursor.between, List.length_append] at positions
      have := List.length_pos_of_ne_nil longer
      omega

end Steady

theorem steady_readField (nbits : Nat) : Steady (readField nbits) := by
  intro before after value next run
  by_cases empty : nbits = 0
  · subst empty
    obtain ⟨rfl, rfl⟩ := Prod.mk.inj (Except.ok.inj run)
    refine ⟨[], after, rfl, fun more => ?_⟩
    rw [List.append_nil]
    rfl
  · have wide : ¬ 32 < nbits := by
      intro wide
      rw [readField, if_neg empty, if_pos wide] at run
      cases run
    obtain ⟨read, rest, rfl, _, length, rfl⟩ := ensures_readField nbits _ _ _ _ run
    exact ⟨read, rest, rfl, Steady.of_takes
      (takes_readField length (Nat.pos_of_ne_zero empty) (Nat.le_of_not_lt wide)) before⟩

theorem steady_position : Steady position := by
  intro before after value next run
  obtain ⟨rfl, rfl⟩ := Prod.mk.inj (Except.ok.inj run)
  refine ⟨[], after, rfl, fun more => ?_⟩
  rw [List.append_nil]
  rfl

theorem steady_readOctet : Steady readOctet :=
  (steady_readField 8).bind fun _ => Steady.pure _

/-! ## Exact codecs -/

/-- A result made of the parsed value. -/
theorem parse_yield (parser : FieldParser α) (f : α → β) (octets : List UInt8) :
    parse (parser >>= fun value => Pure.pure (f value)) octets = (parse parser octets).map f := by
  unfold parse
  rw [toOption_bind]
  cases parser (.between [] (bitString octets)) with
  | error => rfl
  | ok => rfl

/-- What a parser ensures holds of the parsed value. -/
theorem parse_ensures {parser : FieldParser α} {post : α → Prop} {octets : List UInt8} {value : α}
    (returns : Ensures parser fun value _ => post value)
    (parsed : parse parser octets = some value) : post value := by
  unfold parse at parsed
  cases run : parser (.between [] (bitString octets)) with
  | error =>
      rw [run] at parsed
      cases parsed
  | ok read =>
      obtain ⟨result, next⟩ := read
      rw [run] at parsed
      obtain rfl : result = value := Option.some.inj parsed
      obtain ⟨_, _, _, _, holds⟩ := returns _ _ _ _ run
      exact holds

/-- If a parser returns values with a property only and reads each of these back from its octets,
these are the values that survive the round trip. -/
theorem reparse_iff {parser : FieldParser α} {octets : α → List UInt8} {canonical : α → Prop}
    (returns : Ensures parser fun value _ => canonical value)
    (takes : ∀ value, canonical value → TakesAll parser (bitString (octets value)) (some value))
    (value : α) : parse parser (octets value) = some value ↔ canonical value := by
  constructor
  · exact parse_ensures returns
  · exact fun holds => (takes value holds).parse_eq

/-- As many bits are written as `lengthBits` says, and a value that the parser can return is the
one it returns for them. -/
structure ExactCodec (parse : FieldParser α) (writeBits : α → List Op) (lengthBits : α → Nat) :
    Prop where
  length : ∀ value pos, endPos pos (writeBits value) = pos + lengthBits value
  reads : ∀ before after value next, parse (.between before after) = .ok (value, next) →
    ∀ front, (parse (.between front (fields front.length (writeBits value)))).toOption =
      some (value, .between (front ++ fields front.length (writeBits value)) [])

/-- What reads back is read with nothing behind it. -/
theorem ReadsBack.alone {parser : FieldParser α} {ops : Nat → List Op} {value : α}
    (reads : ReadsBack parser ops value) (front : List Bool) :
    (parser (.between front (fields front.length (ops front.length)))).toOption =
      some (value, .between (front ++ fields front.length (ops front.length)) []) := by
  have reads := reads front []
  rwa [List.append_nil] at reads

end FieldParser

end Gsml3
