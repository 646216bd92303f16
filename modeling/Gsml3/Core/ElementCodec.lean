import Gsml3.Core.ElementFraming
import Gsml3.Core.FieldCodec
import Gsml3.Core.OptionalFields

/-!
# Elements of a message

An element is read back if it is canonical, and a reader returns canonical values only.  Behind
the elements that are always there, a message looks ahead for optional ones, and keeps what is
left as octets.
-/

namespace Gsml3

open BitWriter (Op fields endPos)
open Foundation (bitString bitValue valueBits octetGroups)

/-! ## Written octets -/

/-- The octets of a list of calls. -/
def octetsOf (ops : List Op) : List UInt8 :=
  octetGroups (endPos 0 ops / 8) (fields 0 ops)

/-- Operations that fill whole octets are those octets bit by bit. -/
theorem bitString_octetsOf {ops : List Op} (whole : 8 ∣ endPos 0 ops) :
    bitString (octetsOf ops) = fields 0 ops := by
  apply FieldParser.bitString_octetGroups
  rw [Nat.mul_div_cancel' whole, ← BitWriter.fields_length, Nat.zero_add]

/-- Octets are determined by their bits. -/
theorem bitString_injective {octets others : List UInt8}
    (same : bitString octets = bitString others) : octets = others := by
  have size := congrArg List.length same
  rw [Foundation.bitString_length, Foundation.bitString_length] at size
  have groups := Foundation.octetGroups_bitString octets []
  rw [same, Nat.eq_of_mul_eq_mul_left (by decide) size] at groups
  exact groups.symm.trans (Foundation.octetGroups_bitString others [])

/-- Bits in a multiple of eight are the bits of octets. -/
theorem exists_octets {count : Nat} {bits : List Bool} (whole : bits.length = 8 * count) :
    ∃ octets, octets.length = count ∧ bits = bitString octets := by
  refine ⟨octetGroups count bits, ?_, (FieldParser.bitString_octetGroups whole).symm⟩
  rw [Foundation.octetGroups_eq_map, List.length_map, List.length_range]

/-- Eight bits are an octet. -/
theorem exists_octet {bits : List Bool} (whole : bits.length = 8) :
    ∃ octet, bits = bitString [octet] := by
  obtain ⟨octets, one, rfl⟩ := @exists_octets 1 bits whole
  obtain ⟨octet, rfl⟩ := List.length_eq_one_iff.mp one
  exact ⟨octet, rfl⟩

namespace FieldParser

variable {α β : Type}

/-- A parser returns canonical values only, and reads each of them back. -/
structure Codec (parser : FieldParser α) (write : α → List Op) (canonical : α → Prop) : Prop where
  takes : ∀ value, canonical value → ∀ pos, Takes parser (fields pos (write value)) (some value)
  returns : Ensures parser fun value _ => canonical value

/-- Two properties of what was read, which is the same for both. -/
theorem Ensures.and {parser : FieldParser α} {post other : α → List Bool → Prop}
    (first : Ensures parser post) (second : Ensures parser other) :
    Ensures parser fun value read => post value read ∧ other value read := by
  intro before after value next run
  obtain ⟨read, rest, split, moved, holds⟩ := first before after value next run
  obtain ⟨read', rest', split', moved', holds'⟩ := second before after value next run
  have length : (before ++ read).length = (before ++ read').length :=
    congrArg BitCursor.pos (moved.symm.trans moved')
  rw [List.length_append, List.length_append, Nat.add_left_cancel_iff] at length
  obtain rfl := (List.append_inj (split.symm.trans split') length).1
  exact ⟨read, rest, split, moved, holds, holds'⟩

/-! ## Fields narrower than the type that keeps them -/

/-- A field that is kept in an octet. -/
def readNarrow (nbits : Nat) : FieldParser UInt8 :=
  UInt8.ofNat <$> readField nbits

/-- A field that is kept in 16 bits. -/
def readWord (nbits : Nat) : FieldParser UInt16 :=
  UInt16.ofNat <$> readField nbits

/-- A field that is kept in 32 bits. -/
def readUnsigned (nbits : Nat) : FieldParser UInt32 :=
  UInt32.ofNat <$> readField nbits

section Narrow

variable {nbits pos : Nat} {ops : List Op} {result : Option β}

/-- A field fits the type it is kept in. -/
theorem ensures_kept {keep : Nat → α} {toNat : α → Nat} {width : Nat}
    (kept : ∀ value, value < 2 ^ width → toNat (keep value) = value) (narrow : nbits ≤ width) :
    Ensures (keep <$> readField nbits) fun value read =>
      toNat value < 2 ^ nbits ∧ read.length = nbits := by
  refine (ensures_readField nbits).map fun value read consumed => ?_
  have small : value < 2 ^ nbits := by
    rw [consumed.2, ← consumed.1]
    exact Foundation.bitValue_lt read
  rw [kept value (small.trans_le (Nat.pow_le_pow_right Nat.two_pos narrow))]
  exact ⟨small, consumed.1⟩

/-- A narrow field is below the power of its width. -/
theorem ensures_readNarrow (nbits : Nat) (narrow : nbits ≤ 8) :
    Ensures (readNarrow nbits) fun value read =>
      value.toNat < 2 ^ nbits ∧ read.length = nbits :=
  ensures_kept (fun _ small => UInt8.toNat_ofNat_of_lt' small) narrow

/-- A narrow field is the number its bits stand for. -/
theorem ensures_narrowBits (nbits : Nat) (narrow : nbits ≤ 8) :
    Ensures (readNarrow nbits) fun value read =>
      read.length = nbits ∧ value.toNat = bitValue read := by
  refine (ensures_readField nbits).map fun value read consumed => ?_
  have small := Foundation.bitValue_lt read
  rw [consumed.1] at small
  rw [consumed.2]
  have fits := small.trans_le (Nat.pow_le_pow_right Nat.two_pos narrow)
  exact ⟨consumed.1, UInt8.toNat_ofNat_of_lt' fits⟩

/-- A field of a word is below the power of its width. -/
theorem ensures_readWord (nbits : Nat) (narrow : nbits ≤ 16) :
    Ensures (readWord nbits) fun value read =>
      value.toNat < 2 ^ nbits ∧ read.length = nbits :=
  ensures_kept (fun _ small => UInt16.toNat_ofNat_of_lt' small) narrow

/-- An unsigned field is below the power of its width. -/
theorem ensures_readUnsigned (nbits : Nat) (narrow : nbits ≤ 32) :
    Ensures (readUnsigned nbits) fun value read =>
      value.toNat < 2 ^ nbits ∧ read.length = nbits :=
  ensures_kept (fun _ small => UInt32.toNat_ofNat_of_lt' small) narrow

/-- A field that is kept, or skipped. -/
theorem Takes.kept {value : UInt32} {keep : Nat → α} {next : α → FieldParser β}
    (rest : Takes (next (keep (value.toNat % 2 ^ nbits))) (fields (pos + nbits) ops) result)
    (width : 0 < nbits ∧ nbits ≤ 32) :
    Takes (keep <$> readField nbits >>= next) (fields pos (.writeField value nbits :: ops))
      result := by
  refine ((takes_writeField pos width.1 width.2).map keep).step ?_
  rw [Op.width, Nat.min_eq_left width.2]
  exact rest

/-- A field that is read and not kept. -/
theorem Takes.skipped {value : UInt32} {next : Nat → FieldParser β}
    (rest : Takes (next (value.toNat % 2 ^ nbits)) (fields (pos + nbits) ops) result)
    (width : 0 < nbits ∧ nbits ≤ 32) :
    Takes (readField nbits >>= next) (fields pos (.writeField value nbits :: ops)) result := by
  refine (takes_writeField pos width.1 width.2).step ?_
  rw [Op.width, Nat.min_eq_left width.2]
  exact rest

/-- A narrow field, taken as it was written. -/
theorem Takes.narrow {value : UInt8} {next : UInt8 → FieldParser β}
    (rest : Takes (next value) (fields (pos + nbits) ops) result) (small : value.toNat < 2 ^ nbits)
    (width : 0 < nbits ∧ nbits ≤ 32) :
    Takes (readNarrow nbits >>= next) (fields pos (.writeField value.toUInt32 nbits :: ops))
      result := by
  refine Takes.kept ?_ width
  rwa [UInt8.toNat_toUInt32, Nat.mod_eq_of_lt small, UInt8.ofNat_toNat]

/-- An octet that is written from a wider value. -/
theorem Takes.octetField {value : UInt32} {next : UInt8 → FieldParser β}
    (rest : Takes (next value.toUInt8) (fields (pos + 8) ops) result) :
    Takes (readNarrow 8 >>= next) (fields pos (.writeField value 8 :: ops)) result := by
  refine Takes.kept ?_ (by simp)
  rwa [← UInt8.ofNat_mod_size, Nat.mod_mod, UInt8.ofNat_mod_size]

/-- A field of a word, taken as it was written. -/
theorem Takes.word {value : UInt16} {next : UInt16 → FieldParser β}
    (rest : Takes (next value) (fields (pos + nbits) ops) result) (small : value.toNat < 2 ^ nbits)
    (width : 0 < nbits ∧ nbits ≤ 32) :
    Takes (readWord nbits >>= next) (fields pos (.writeField value.toUInt32 nbits :: ops))
      result := by
  refine Takes.kept ?_ width
  rwa [UInt16.toNat_toUInt32, Nat.mod_eq_of_lt small, UInt16.ofNat_toNat]

/-- An unsigned field, taken as it was written. -/
theorem Takes.unsigned {value : UInt32} {next : UInt32 → FieldParser β}
    (rest : Takes (next value) (fields (pos + nbits) ops) result) (small : value.toNat < 2 ^ nbits)
    (width : 0 < nbits ∧ nbits ≤ 32) :
    Takes (readUnsigned nbits >>= next) (fields pos (.writeField value nbits :: ops)) result := by
  refine Takes.kept ?_ width
  rwa [Nat.mod_eq_of_lt small, UInt32.ofNat_toNat]

end Narrow

/-- A length in its octet. -/
theorem toNat_lengthOctet {length : Nat} (small : length < 256) :
    (UInt32.ofNat length).toUInt8.toNat = length := by
  rw [UInt32.toNat_toUInt8, UInt32.toNat_ofNat_of_lt' (small.trans (by decide)),
    Nat.mod_eq_of_lt small]

/-! ## Messages in octets -/

theorem Takes.single {parser : FieldParser α} {op : Op} {pos : Nat} {result : Option α}
    (takes : Takes parser (op.field pos) result) : Takes parser (fields pos [op]) result := by
  rwa [fields, fields, List.append_nil]

/-- A narrow field in front of the rest of the message. -/
theorem TakesAll.narrow {nbits pos : Nat} {ops : List Op} {value : UInt8}
    {next : UInt8 → FieldParser β} {result : Option β}
    (rest : TakesAll (next value) (fields (pos + nbits) ops) result) (small : value.toNat < 2 ^ nbits)
    (width : 0 < nbits ∧ nbits ≤ 32) :
    TakesAll (readNarrow nbits >>= next) (fields pos (.writeField value.toUInt32 nbits :: ops))
      result := by
  have takes := (@takes_writeField value.toUInt32 nbits pos width.1 width.2).map UInt8.ofNat
  rw [UInt8.toNat_toUInt32, Nat.mod_eq_of_lt small, Option.map_some, UInt8.ofNat_toNat] at takes
  refine takes.bind_all ?_
  rwa [Op.width, Nat.min_eq_left width.2]

/-- An element in front of the rest of the message. -/
theorem Takes.part_all {parser : FieldParser α} {next : α → FieldParser β} {result : Option β}
    {pos : Nat} {earlier ops : List Op} {value : α}
    (first : Takes parser (fields pos earlier) (some value))
    (rest : TakesAll (next value) (fields (endPos pos earlier) ops) result) :
    TakesAll (parser >>= next) (fields pos (earlier ++ ops)) result := by
  rw [BitWriter.fields_append]
  exact first.bind_all rest

/-- A message is written with its announced length and parsed to itself. -/
structure RoundTrips (parser : FieldParser α) (write : List Op) (bodyLength : Nat) (msg : α) :
    Prop where
  length : endPos 0 write = bodyLength * 8
  restored : parse parser (octetsOf write) = some msg

/-- A parser that returns canonical values only, and reads these back from their octets, restores
no others. -/
theorem reparses_iff {parser : FieldParser α} {write : α → List Op} {canonical : α → Prop}
    (returns : Ensures parser fun value _ => canonical value)
    (takes : ∀ value, canonical value → TakesAll parser (fields 0 (write value)) (some value))
    {value : α} (whole : 8 ∣ endPos 0 (write value)) :
    parse parser (octetsOf (write value)) = some value ↔ canonical value := by
  constructor
  · exact parse_ensures returns
  · intro holds
    have takes := takes value holds
    rw [← bitString_octetsOf whole] at takes
    exact takes.parse_eq

/-- The round trip succeeds if the announced length is that of the octets, which is so if they
fit, and the value is canonical. -/
theorem comesBack_iff {parser : FieldParser α} {write : α → List Op} {canonical : α → Prop}
    {fits : Prop} {bodyLength : Nat} {msg : α}
    (returns : Ensures parser fun value _ => canonical value)
    (takes : ∀ value, canonical value → TakesAll parser (fields 0 (write value)) (some value))
    (length : endPos 0 (write msg) = bodyLength * 8 ↔ fits) :
    RoundTrips parser (write msg) bodyLength msg ↔ fits ∧ canonical msg := by
  have restored (whole : endPos 0 (write msg) = bodyLength * 8) :=
    @reparses_iff α parser write canonical returns takes msg (whole ▸ Nat.dvd_mul_left ..)
  constructor
  · exact fun trips => ⟨length.mp trips.length, (restored trips.length).mp trips.restored⟩
  · rintro ⟨fit, holds⟩
    have whole := length.mpr fit
    exact ⟨whole, (restored whole).mpr holds⟩

/-! ## Looking ahead -/

/-- The next bits as a number; zeros stand for bits behind the end. -/
def peeked (nbits : Nat) (bits : List Bool) : Nat :=
  bitValue (bits.take nbits) * 2 ^ (nbits - (bits.take nbits).length)

def peekField (nbits : Nat) : FieldParser Nat := fun cursor =>
  .ok (peeked nbits (cursor.bits.drop cursor.pos), cursor)

/-- An element that is read if the next bits announce it. -/
def readOptional (nbits : Nat) (announces : Nat → Bool) (element : FieldParser α) :
    FieldParser (Option α) := do
  if ← hasMore then
    let peek ← peekField nbits
    if announces peek then some <$> element else pure none
  else pure none

/-- What follows is nothing or does not announce an element. -/
def Lacks (nbits : Nat) (announces : Nat → Bool) (bits : List Bool) : Prop :=
  bits ≠ [] → announces (peeked nbits bits) = false

/-- Eight bits ahead are the next octet. -/
theorem peeked_octet (octet : UInt8) (more : List Bool) :
    peeked 8 (bitString [octet] ++ more) = octet.toNat := by
  have length : (bitString [octet]).length = 8 := Foundation.bitString_length ..
  have front : (bitString [octet] ++ more).take 8 = bitString [octet] := List.take_left' length
  have value : bitValue (bitString [octet]) = octet.toNat :=
    (Foundation.bitValue_valueBits 8 _).trans (Nat.mod_eq_of_lt octet.toNat_lt)
  rw [peeked, front, length, Nat.sub_self, pow_zero, Nat.mul_one]
  simpa using value

theorem peeked_front (octet : UInt8) (octets : List UInt8) (more : List Bool) :
    peeked 8 (bitString (octet :: octets) ++ more) = octet.toNat := by
  rw [← List.singleton_append, Foundation.bitString_append, List.append_assoc]
  exact peeked_octet octet _

theorem peeked_cons (octet : UInt8) (octets : List UInt8) :
    peeked 8 (bitString (octet :: octets)) = octet.toNat := by
  rw [← List.append_nil (bitString (octet :: octets))]
  exact peeked_front octet octets []

/-- An octet of two fields is announced by their bits. -/
theorem peeked_fields {high low : List Bool} (whole : high.length + low.length = 8)
    (more : List Bool) :
    peeked 8 (high ++ low ++ more) = bitValue high * 2 ^ low.length + bitValue low := by
  have length : (high ++ low).length = 8 := (List.length_append ..).trans whole
  rw [peeked, List.take_left' length, length, Nat.sub_self, pow_zero, Nat.mul_one,
    Foundation.bitValue_append]

/-- Octets do not announce an element when the first of them does not. -/
theorem lacks_octets_iff {announces : Nat → Bool} (octets : List UInt8) :
    Lacks 8 announces (bitString octets) ↔
      ∀ octet ∈ octets.head?, announces octet.toNat = false := by
  cases octets with
  | nil => exact iff_of_true (fun some_bit => absurd rfl some_bit) nofun
  | cons octet octets =>
      have nonempty : bitString (octet :: octets) ≠ [] :=
        List.ne_nil_of_length_pos (by rw [Foundation.bitString_length]; exact Nat.succ_pos _)
      have peek : peeked 8 (bitString (octet :: octets)) = octet.toNat := peeked_octet octet _
      rw [Lacks, peek]
      constructor
      · intro lacks first same
        obtain rfl := Option.some.inj same
        exact lacks nonempty
      · exact fun lacks _ => lacks octet rfl

/-- Bits are left when there are bits behind the cursor. -/
theorem hasMore_between (before after : List Bool) :
    hasMore (.between before after) = .ok (decide (after ≠ []), .between before after) := by
  have inside : (BitCursor.between before after).pos <
      (BitCursor.between before after).bits.length ↔ after ≠ [] := by
    rw [BitCursor.between, List.length_append]
    exact Nat.lt_add_right_iff_pos.trans List.length_pos_iff
  rw [hasMore, decide_eq_decide.mpr inside]

/-- A look ahead does not move the cursor. -/
theorem peek_between (nbits : Nat) (before after : List Bool) :
    peekField nbits (.between before after) =
      .ok (peeked nbits after, .between before after) := by
  rw [peekField, BitCursor.between, List.drop_left]

/-- A look ahead reads nothing and sees the bits behind it. -/
theorem leaves_peekField (nbits : Nat) :
    Leaves (peekField nbits) fun value read rest => read = [] ∧ value = peeked nbits rest := by
  intro before after value last run
  rw [peek_between] at run
  obtain ⟨rfl, rfl⟩ := Prod.mk.inj (Except.ok.inj run)
  exact ⟨[], after, rfl, by rw [List.append_nil], rfl, rfl⟩

theorem ensures_peekField (nbits : Nat) : Ensures (peekField nbits) fun _ read => read = [] :=
  (leaves_peekField nbits).mono fun _ _ _ ahead => ahead.1

theorem ok_of_toOption {outcome : Except ParseError α} {value : α}
    (succeeds : outcome.toOption = some value) : outcome = .ok value := by
  cases outcome with
  | error => cases succeeds
  | ok => exact congrArg Except.ok (Option.some.inj succeeds)

theorem ensures_hasMore : Ensures hasMore fun _ read => read = [] := by
  intro before after more last run
  rw [hasMore_between] at run
  obtain ⟨rfl, rfl⟩ := Prod.mk.inj (Except.ok.inj run)
  exact ⟨[], after, rfl, by rw [List.append_nil], rfl⟩

section Optional

variable {nbits : Nat} {announces : Nat → Bool} {element : FieldParser α}
  {next : Option α → FieldParser β} {value : α} {bits more : List Bool} {result : Option β}

/-- An element that is announced is read. -/
theorem readOptional_present (before : List Bool) {after : List Bool} (left : after ≠ [])
    (announced : announces (peeked nbits after) = true) :
    (readOptional nbits announces element (.between before after)).toOption =
      ((some <$> element) (.between before after)).toOption := by
  rw [readOptional, toOption_bind, hasMore_between, decide_eq_true left]
  change ((peekField nbits >>= _) (.between before after)).toOption = _
  rw [toOption_bind, peek_between]
  change ((if announces (peeked nbits after) = true then _ else _ : FieldParser _) _).toOption = _
  rw [if_pos announced]

/-- An element that is not announced is left out. -/
theorem readOptional_absent (before : List Bool) {after : List Bool}
    (lacks : Lacks nbits announces after) :
    (readOptional nbits announces element (.between before after)).toOption =
      some (none, .between before after) := by
  rw [readOptional, toOption_bind, hasMore_between]
  by_cases left : after = []
  · rw [decide_eq_false (not_not.mpr left)]
    rfl
  · rw [decide_eq_true left]
    change ((peekField nbits >>= _) (.between before after)).toOption = _
    rw [toOption_bind, peek_between]
    change ((if announces (peeked nbits after) = true then _ else _ : FieldParser _) _).toOption = _
    rw [lacks left]
    rfl

/-- An announced element, taken by its own parser. -/
theorem Takes.present (length : bits.length = nbits) (positive : 0 < nbits)
    (announced : announces (bitValue bits) = true)
    (takes : Takes element (bits ++ more) (some value)) :
    Takes (readOptional nbits announces element) (bits ++ more) (some (some value)) := by
  intro before after
  have left : bits ++ more ++ after ≠ [] := by
    apply List.ne_nil_of_length_pos
    rw [List.length_append, List.length_append]
    omega
  have peek : peeked nbits (bits ++ more ++ after) = bitValue bits := by
    rw [peeked, List.append_assoc, List.take_left' length, length, Nat.sub_self, pow_zero,
      Nat.mul_one]
  rw [readOptional_present before left (by rwa [peek])]
  exact takes.map some before after

/-- The rest of a message whose element is not announced. -/
theorem TakesAll.absent (lacks : Lacks nbits announces bits)
    (rest : TakesAll (next none) bits result) :
    TakesAll (readOptional nbits announces element >>= next) bits result := by
  intro before
  rw [toOption_bind, readOptional_absent before lacks]
  exact rest before

/-- An element was announced, or nothing is that follows. -/
theorem leaves_readOptional {post : α → List Bool → Prop} (reads : Ensures element post) :
    Leaves (readOptional nbits announces element) fun found read rest =>
      match found with
      | none => read = [] ∧ Lacks nbits announces rest
      | some value => post value read ∧ announces (peeked nbits (read ++ rest)) = true := by
  intro before after found last run
  have run' := congrArg Except.toOption run
  by_cases announced : after ≠ [] ∧ announces (peeked nbits after) = true
  · rw [readOptional_present before announced.1 announced.2] at run'
    have present : Ensures (some <$> element) fun found read =>
        ∃ value, found = some value ∧ post value read :=
      reads.map fun value read holds => ⟨value, rfl, holds⟩
    obtain ⟨read, rest, split, moved, value, rfl, holds⟩ :=
      present before after found last (ok_of_toOption run')
    exact ⟨read, rest, split, moved, holds, split ▸ announced.2⟩
  · have lacks : Lacks nbits announces after := by
      intro left
      exact Bool.eq_false_of_not_eq_true fun found => announced ⟨left, found⟩
    rw [readOptional_absent before lacks] at run'
    obtain ⟨rfl, rfl⟩ := Prod.mk.inj (Option.some.inj run')
    exact ⟨[], after, rfl, by rw [List.append_nil], rfl, lacks⟩

/-- The calls for an element that need not be there. -/
def writePresent (write : α → List Op) (found : Option α) : List Op :=
  found.elim [] write

/-- An element with its identifier in front is read where it is written, and not where it is
not.  What is read of it may be another value. -/
theorem TakesAll.optional_reread {write : α → List Op} {reread : α → α}
    {found : Option α} {pos : Nat} {ops : List Op}
    (takes : ∀ value ∈ found, Takes element (fields pos (write value)) (some (reread value)))
    (identified : ∀ value ∈ found, ∃ code rest,
      write value = .writeField code nbits :: rest ∧ announces (code.toNat % 2 ^ nbits) = true)
    (lacks : found = none → Lacks nbits announces bits)
    (following : fields (endPos pos (writePresent write found)) ops = bits)
    (rest : TakesAll (next (found.map reread)) bits result) (width : 0 < nbits ∧ nbits ≤ 32) :
    TakesAll (readOptional nbits announces element >>= next)
      (fields pos (writePresent write found ++ ops)) result := by
  rw [BitWriter.fields_append, following]
  cases found with
  | none => exact rest.absent (lacks rfl)
  | some value =>
      obtain ⟨code, later, written, announced⟩ := identified value rfl
      have takes := takes value rfl
      have bits : ∃ behind, fields pos (write value) = valueBits nbits code.toNat ++ behind := by
        rw [written, fields, Op.field, Nat.min_eq_left width.2]
        exact ⟨_, rfl⟩
      obtain ⟨behind, bits⟩ := bits
      rw [bits] at takes
      change TakesAll _ (fields pos (write value) ++ _) _
      rw [bits]
      refine (Takes.present (Foundation.valueBits_length ..) width.1 ?_ takes).bind_all rest
      rwa [Foundation.bitValue_valueBits]

/-- An optional element of a codec in front of the rest of the message. -/
theorem TakesAll.optional {write : α → List Op} {canonical : α → Prop}
    (codec : Codec element write canonical)
    (identified : ∀ value, canonical value → ∃ code rest,
      write value = .writeField code 8 :: rest ∧ announces (code.toNat % 2 ^ 8) = true)
    {found : Option α} (holds : ∀ value ∈ found, canonical value)
    (lacks : found = none → Lacks 8 announces bits) {pos : Nat} {ops : List Op}
    (following : fields (endPos pos (writePresent write found)) ops = bits)
    (rest : TakesAll (next found) bits result) :
    TakesAll (readOptional 8 announces element >>= next)
      (fields pos (writePresent write found ++ ops)) result := by
  have same : found.map (fun value => value) = found := Option.map_id'
  rw [← same] at rest
  exact TakesAll.optional_reread (fun value member => codec.takes value (holds value member) pos)
    (fun value member => identified value (holds value member)) lacks following rest (by simp)

end Optional

/-! ## Loops that break -/

/-- `while (br.hasMore())` that ends where a round has no next state. -/
def whileSome {σ : Type} (round : σ → FieldParser (Option σ)) : Nat → σ → FieldParser σ
  | 0, state => pure state
  | rounds + 1, state => do
      if ← hasMore then
        match ← round state with
        | none => pure state
        | some state => whileSome round rounds state
      else pure state

section Loop

variable {σ : Type} {round : σ → FieldParser (Option σ)} {state following : σ} {result : Option σ}
  {bits more : List Bool} {count : Nat}

/-- The number of bits left is that of the rest. -/
theorem TakesAll.counted {next : Nat → FieldParser β} {result : Option β}
    (rest : TakesAll (next bits.length) bits result) :
    TakesAll (remainingBits >>= next) bits result := by
  intro before
  have run : remainingBits (.between before bits) = .ok (bits.length, .between before bits) := by
    rw [remainingBits, BitCursor.between, List.length_append, Nat.add_sub_cancel_left]
  rw [toOption_bind, run]
  exact rest before

/-- A look ahead inside what is taken. -/
theorem Takes.peek {nbits : Nat} {next : Nat → FieldParser β} {result : Option β}
    (enough : nbits ≤ bits.length) (rest : Takes (next (peeked nbits bits)) bits result) :
    Takes (peekField nbits >>= next) bits result := by
  intro before after
  have same : peeked nbits (bits ++ after) = peeked nbits bits := by
    rw [peeked, List.take_append_of_le_length enough, peeked]
  rw [toOption_bind, peek_between, same]
  exact rest before after

/-- A round that goes on, in front of the others. -/
theorem TakesAll.oneRound (left : bits ≠ []) (first : Takes (round state) bits (some (some following)))
    (rest : TakesAll (whileSome round count following) more result) :
    TakesAll (whileSome round (count + 1) state) (bits ++ more) result :=
  TakesAll.unfinished (List.append_ne_nil_of_left_ne_nil left more) (first.bind_all rest)

/-- At the end of the message there are no more rounds. -/
theorem takesAll_whileSome_nil (round : σ → FieldParser (Option σ)) (count : Nat) (state : σ) :
    TakesAll (whileSome round count state) [] (some state) := by
  cases count with
  | zero => exact (Takes.pure state).all
  | succ count => exact TakesAll.finished (Takes.pure state).all

/-- What every round keeps holds of the last state. -/
theorem ensures_whileSome {keeps : σ → Prop}
    (one : ∀ state, keeps state → Ensures (round state) fun next _ => ∀ state ∈ next, keeps state)
    (count : Nat) (holds : keeps state) :
    Ensures (whileSome round count state) fun state _ => keeps state := by
  induction count generalizing state with
  | zero => exact Ensures.pure holds
  | succ count ih =>
      refine ensures_hasMore.bind fun more _ _ => ?_
      cases more with
      | false => exact Ensures.pure holds
      | true =>
          refine (one state holds).bind fun next _ kept => ?_
          cases next with
          | none => exact Ensures.pure holds
          | some state => exact ih (kept state rfl)

end Loop

/-! ## What comes last -/

/-- An element that is read if anything is left. -/
def readIfMore (element : FieldParser α) : FieldParser (Option α) := do
  if ← hasMore then some <$> element else pure none

section IfMore

variable {element : FieldParser α} {next : Option α → FieldParser β} {value : α} {bits : List Bool}
  {result : Option β}

/-- An element that is there because bits are left. -/
theorem Takes.ifMore (left : bits ≠ []) (takes : Takes element bits (some value)) :
    Takes (readIfMore element) bits (some (some value)) :=
  Takes.more left (takes.map some)

/-- An element that is there because bits are left, in front of the rest. -/
theorem TakesAll.ifMore (left : bits ≠ [])
    (rest : TakesAll (element >>= fun value => next (some value)) bits result) :
    TakesAll (readIfMore element >>= next) bits result := by
  intro before
  have more : (readIfMore element (.between before bits)).toOption =
      ((some <$> element) (.between before bits)).toOption := by
    rw [readIfMore, toOption_bind, hasMore_between, decide_eq_true left]
    rfl
  rw [toOption_bind, more, ← toOption_bind, bind_map_left]
  exact rest before

/-- At the end of the message the element is not there. -/
theorem TakesAll.ifMore_none (rest : TakesAll (next none) [] result) :
    TakesAll (readIfMore element >>= next) [] result := by
  intro before
  have run : readIfMore element (.between before []) = .ok (none, .between before []) := by
    apply ok_of_toOption
    rw [readIfMore, toOption_bind, hasMore_between]
    rfl
  rw [toOption_bind, run]
  exact rest before

/-- An element was read, or nothing is left. -/
theorem leaves_ifMore {post : α → List Bool → List Bool → Prop} (reads : Leaves element post) :
    Leaves (readIfMore element) fun found read rest =>
      match found with
      | none => read = [] ∧ rest = []
      | some value => post value read rest := by
  intro before after found last run
  change (hasMore (.between before after) >>= fun more => _) = _ at run
  rw [hasMore_between] at run
  by_cases left : after = []
  · subst left
    obtain ⟨rfl, rfl⟩ := Prod.mk.inj (Except.ok.inj run)
    exact ⟨[], [], rfl, by rw [List.append_nil], rfl, rfl⟩
  · change (if decide (after ≠ []) = true then some <$> element else pure none :
      FieldParser (Option α)) (.between before after) = _ at run
    rw [if_pos (decide_eq_true left)] at run
    change (element >>= fun value => pure (some value)) _ = _ at run
    obtain ⟨value, middle, parsed, moved⟩ := bind_eq_ok.mp run
    obtain ⟨rfl, rfl⟩ := Prod.mk.inj (Except.ok.inj moved)
    exact reads before after value middle parsed

/-- What an element ensures holds of it when it is there. -/
theorem ensures_ifMore {post : α → List Bool → Prop} (reads : Ensures element post) :
    Ensures (readIfMore element) fun found read => ∀ value ∈ found, post value read := by
  refine (leaves_ifMore reads.leaves).mono fun found read rest holds => ?_
  cases found with
  | none => exact nofun
  | some value =>
      intro other same
      exact Option.some.inj same ▸ holds

end IfMore

/-! ## Octets that are left -/

/-- One more octet. -/
def readNextOctet (out : List UInt8) : FieldParser (List UInt8) := do
  let b ← readOctet
  pure (out ++ [b])

/-- What is left, as octets. -/
def readOpaqueTail (message : String) : FieldParser (List UInt8) := fun cursor =>
  match parseRounds readNextOctet [] cursor with
  | .ok read => .ok read
  | .error _ => .error { code := .truncatedInput, message }

section Tail

variable {before bits : List Bool} {out octets tail : List UInt8} {last : BitCursor} {count : Nat}

theorem ensures_readOctet_eq : Ensures readOctet fun octet read => read = bitString [octet] := by
  refine (ensures_readField 8).map fun value read consumed => ?_
  have small : bitValue read < 2 ^ 8 := consumed.1 ▸ Foundation.bitValue_lt read
  have bits := valueBits_bitValue read
  rw [consumed.1] at bits
  rw [bitString, List.flatMap_singleton, UInt8.toNat_ofNat', consumed.2, Nat.mod_eq_of_lt small,
    bits]

theorem ensures_readNextOctet (out : List UInt8) :
    Ensures (readNextOctet out) fun longer read =>
      ∃ octet, longer = out ++ [octet] ∧ read = bitString [octet] := by
  refine ensures_readOctet_eq.bind fun octet read consumed => Ensures.pure ?_
  rw [List.append_nil]
  exact ⟨octet, rfl, consumed⟩

/-- The bound on the rounds is the number of bits left. -/
theorem parseRounds_between {σ : Type} (round : σ → FieldParser σ) (state : σ)
    (before after : List Bool) :
    parseRounds round state (.between before after) =
      whileMore round after.length state (.between before after) := by
  change whileMore round ((before ++ after).length - before.length) state _ = _
  rw [List.length_append, Nat.add_sub_cancel_left]

theorem whileMore_done {σ : Type} (round : σ → FieldParser σ) (count : Nat) (state : σ)
    (before : List Bool) :
    whileMore round count state (.between before []) = .ok (state, .between before []) := by
  cases count with
  | zero => rfl
  | succ count =>
      apply ok_of_toOption
      rw [whileMore, toOption_bind, hasMore_between]
      rfl

/-- Reading octets to the end takes all of them. -/
theorem whileMore_octets (enough : (bitString octets).length ≤ count) :
    (whileMore readNextOctet count out (.between before (bitString octets))).toOption =
      some (out ++ octets, .between (before ++ bitString octets) []) := by
  induction octets generalizing out before count with
  | nil =>
      rw [show bitString [] = [] from rfl, whileMore_done, List.append_nil, List.append_nil]
      rfl
  | cons octet octets ih =>
      have positive : 0 < (bitString (octet :: octets)).length := by
        rw [Foundation.bitString_length]
        exact Nat.succ_pos _
      have split : bitString (octet :: octets) = bitString [octet] ++ bitString octets :=
        Foundation.bitString_append [octet] octets
      have length : (bitString (octet :: octets)).length = 8 + (bitString octets).length := by
        rw [split, List.length_append, Foundation.bitString_length]
        rfl
      obtain ⟨count, rfl⟩ := Nat.exists_eq_add_of_lt (positive.trans_le enough)
      have takes : Takes (readNextOctet out) (bitString [octet]) (some (out ++ [octet])) :=
        (takes_readOctet octet).yield (out ++ [·])
      rw [Nat.zero_add, whileMore_succ count out before positive, split, takes]
      change (whileMore readNextOctet count (out ++ [octet]) _).toOption = _
      rw [ih (by omega), List.append_assoc, List.append_assoc]
      rfl

/-- What was read to the end is whole octets. -/
theorem octets_of_whileMore (enough : bits.length ≤ count)
    (run : whileMore readNextOctet count out (.between before bits) = .ok (tail, last)) :
    ∃ octets, tail = out ++ octets ∧ bits = bitString octets ∧
      last = .between (before ++ bits) [] := by
  induction count generalizing out before bits with
  | zero =>
      obtain rfl := List.eq_nil_of_length_eq_zero (Nat.le_zero.mp enough)
      obtain ⟨rfl, rfl⟩ := Prod.mk.inj (Except.ok.inj run)
      exact ⟨[], (List.append_nil _).symm, rfl, by rw [List.append_nil]⟩
  | succ count ih =>
      by_cases left : bits = []
      · subst left
        rw [whileMore_done] at run
        obtain ⟨rfl, rfl⟩ := Prod.mk.inj (Except.ok.inj run)
        exact ⟨[], (List.append_nil _).symm, rfl, by rw [List.append_nil]⟩
      · have run' := congrArg Except.toOption run
        rw [whileMore_succ count out before (List.length_pos_of_ne_nil left)] at run'
        cases next : readNextOctet out (.between before bits) with
        | error =>
            rw [next] at run'
            cases run'
        | ok read =>
            obtain ⟨longer, middle⟩ := read
            rw [next] at run'
            obtain ⟨front, rest, rfl, rfl, octet, rfl, rfl⟩ :=
              ensures_readNextOctet out before bits longer middle next
            rw [List.length_append, Foundation.bitString_length] at enough
            obtain ⟨octets, rfl, rfl, rfl⟩ :=
              ih (by change 8 * 1 + _ ≤ _ at enough; omega) (ok_of_toOption run')
            refine ⟨octet :: octets, by rw [List.append_assoc]; rfl, ?_, ?_⟩
            · exact (Foundation.bitString_append [octet] octets).symm
            · rw [List.append_assoc]

/-- The octets left are kept as they are. -/
theorem takesAll_tail (message : String) (tail : List UInt8) :
    TakesAll (readOpaqueTail message) (bitString tail) (some tail) := by
  intro before
  have loop := @whileMore_octets before [] tail _ le_rfl
  rw [readOpaqueTail, parseRounds_between, ok_of_toOption loop]
  rfl

/-- Nothing is left behind, and the octets are what there was. -/
theorem leaves_tail (message : String) :
    Leaves (readOpaqueTail message) fun tail read rest => rest = [] ∧ read = bitString tail := by
  intro before after tail last run
  rw [readOpaqueTail, parseRounds_between] at run
  cases loop : whileMore readNextOctet after.length [] (.between before after) with
  | error =>
      rw [loop] at run
      cases run
  | ok read =>
      rw [loop] at run
      obtain rfl := Except.ok.inj run
      obtain ⟨octets, rfl, rfl, rfl⟩ := octets_of_whileMore le_rfl loop
      exact ⟨_, [], (List.append_nil _).symm, rfl, rfl, rfl⟩

/-- The octets kept are the ones that were read. -/
theorem ensures_tail (message : String) :
    Ensures (readOpaqueTail message) fun tail read => read = bitString tail :=
  (leaves_tail message).mono fun _ _ _ left => left.2

end Tail

end FieldParser

end Gsml3
