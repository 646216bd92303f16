import Gsml3.Core.BitReading

/-!
# Field parsers

Elements and messages are parsed field by field from a `BitReader`, up to the first error.
Along such a run a reader is its list of bits (`BitReader.runs_as_bit_list`), so the parsers
move a `BitCursor`.  A parser takes a bit string if it reads exactly these bits, whatever
stands before and after them.
-/

namespace Gsml3

open Foundation (bitValue bitString valueBits octetGroups)

/-- The position between two bit strings. -/
def BitCursor.between (before after : List Bool) : BitCursor where
  bits := before ++ after
  pos := before.length

/-- A parser moves the cursor or fails. -/
abbrev FieldParser := StateT BitCursor (Except ParseError)

namespace FieldParser

variable {α β σ : Type}

/-! ## Reads -/

/-- The error of a read beyond the end. -/
def readPastEnd (cursor : BitCursor) : ParseError where
  code := .truncatedInput
  message := "read past end"
  bitPosition := cursor.pos

/-- A field of up to 32 bits, the first bit highest. -/
def readField (nbits : Nat) : FieldParser Nat := fun cursor =>
  if nbits = 0 then .ok (0, cursor)
  else if 32 < nbits then .error { code := .invalidValue, message := "field too large" }
  else if cursor.bits.length < cursor.pos + nbits then .error (readPastEnd cursor)
  else .ok (bitValue (cursor.slice nbits), { cursor with pos := cursor.pos + nbits })

/-- Read `count` octets that start at an octet boundary. -/
def readBytes (count : Nat) : FieldParser (List UInt8) := fun cursor =>
  if count = 0 then .ok ([], cursor)
  else if cursor.bits.length < cursor.pos + 8 * count then .error (readPastEnd cursor)
  else
    .ok (octetGroups count (cursor.bits.drop cursor.pos),
      { cursor with pos := cursor.pos + 8 * count })

/-- Whether bits are left. -/
def hasMore : FieldParser Bool := fun cursor =>
  .ok (decide (cursor.pos < cursor.bits.length), cursor)

/-- The number of bits read. -/
def position : FieldParser Nat := fun cursor =>
  .ok (cursor.pos, cursor)

/-- The number of bits left. -/
def remainingBits : FieldParser Nat := fun cursor =>
  .ok (cursor.bits.length - cursor.pos, cursor)

/-- An octet. -/
def readOctet : FieldParser UInt8 :=
  UInt8.ofNat <$> readField 8

/-- The given number of octets. -/
def readOctets : Nat → FieldParser (List UInt8)
  | 0 => pure []
  | count + 1 => do
      let octet ← readOctet
      let octets ← readOctets count
      pure (octet :: octets)

/-- The reads of a `BitReader` are these reads of its list of bits. -/
theorem readField_reader {reader : BitReader} (placed : reader.Placed)
    (buffer : reader.buf ≠ none) (nbits : Nat) :
    readField nbits reader.cursor =
      (reader.readField nbits).2.map fun value => (value, (reader.readField nbits).1.cursor) := by
  have length := placed.bits_length
  have small := placed.small
  have inside := placed.inside
  rw [readField]
  split
  case isTrue empty =>
    rw [BitReader.readField, if_pos empty]
    rfl
  case isFalse positive =>
    split
    case isTrue wide =>
      rw [BitReader.readField, if_neg positive, if_neg buffer, if_pos wide]
      rfl
    case isFalse narrow =>
      split
      case isTrue beyond =>
        have past : reader.totalBits < (reader.pos + nbits) % 2 ^ 64 := by
          rw [length] at beyond
          change reader.totalBits < reader.pos + nbits at beyond
          omega
        rw [BitReader.readField, if_neg positive, if_neg buffer, if_neg narrow, if_pos past]
        rfl
      case isFalse fits =>
        rw [length] at fits
        change ¬ reader.totalBits < reader.pos + nbits at fits
        rw [placed.readField_eq (Nat.pos_of_ne_zero positive) (Nat.le_of_not_lt narrow)
          (Nat.le_of_not_lt fits)]
        rfl

/-- The outcome of a parser on a body, `none` for an error. -/
def parse (parser : FieldParser α) (octets : List UInt8) : Option α :=
  (parser (.between [] (bitString octets))).toOption.map Prod.fst

/-! ## Exact parsers -/

/-- The parser reads exactly these bits, whatever stands around them; with no result it
refuses them. -/
def Takes (parser : FieldParser α) (bits : List Bool) (result : Option α) : Prop :=
  ∀ before after, (parser (.between before (bits ++ after))).toOption =
    result.map fun value => (value, .between (before ++ bits) after)

/-- A sequence succeeds when both parts do. -/
theorem toOption_bind (parser : FieldParser α) (next : α → FieldParser β) (cursor : BitCursor) :
    ((parser >>= next) cursor).toOption =
      (parser cursor).toOption.bind fun read => (next read.1 read.2).toOption := by
  change (parser cursor >>= fun read => next read.1 read.2).toOption = _
  cases parser cursor with
  | error => rfl
  | ok => rfl

namespace Takes

variable {parser : FieldParser α} {next : α → FieldParser β} {value : α} {bits more : List Bool}
  {result : Option α} {following : Option β}

/-- A result alone takes nothing. -/
theorem pure (value : α) : Takes (pure value) [] (some value) := by
  intro before after
  rw [List.append_nil]
  rfl

theorem throw (error : ParseError) (bits : List Bool) :
    Takes (throw error : FieldParser α) bits none := by
  intro before after
  rfl

/-- What parts take, their sequence takes. -/
theorem bind (first : Takes parser bits (some value)) (second : Takes (next value) more following) :
    Takes (parser >>= next) (bits ++ more) following := by
  intro before after
  rw [toOption_bind, List.append_assoc, first, ← List.append_assoc]
  exact second (before ++ bits) after

/-- A first part that refuses refuses the sequence. -/
theorem refused (first : Takes parser bits none) (next : α → FieldParser β) (more : List Bool) :
    Takes (parser >>= next) (bits ++ more) none := by
  intro before after
  rw [toOption_bind, List.append_assoc, first]
  rfl

/-- The result goes through a function. -/
theorem yield (first : Takes parser bits result) (f : α → β) :
    Takes (parser >>= fun value => Pure.pure (f value)) bits (result.map f) := by
  intro before after
  rw [toOption_bind, first]
  cases result with
  | none => rfl
  | some => rfl

/-- A result made of what was taken. -/
theorem map (first : Takes parser bits result) (f : α → β) :
    Takes (f <$> parser) bits (result.map f) :=
  first.yield f

/-- What takes the bits of octets is the result of parsing them. -/
theorem parse_eq {octets : List UInt8} (takes : Takes parser (bitString octets) result) :
    parse parser octets = result := by
  have whole := takes [] []
  rw [List.append_nil] at whole
  rw [parse, whole]
  cases result with
  | none => rfl
  | some => rfl

/-- A parser that takes a string does not take a longer one. -/
theorem not_longer (takes : Takes parser bits (some value)) (longer : more ≠ []) :
    ¬ Takes parser (bits ++ more) result := by
  intro both
  have short := takes [] more
  have long := both [] []
  rw [List.append_nil] at long
  rw [short] at long
  cases result with
  | none => cases long
  | some =>
      injection long with same
      have positions := congrArg (fun read => read.2.pos) same
      simp only [BitCursor.between, List.nil_append, List.length_append] at positions
      have := List.length_pos_of_ne_nil longer
      omega

/-- A parser that takes a string does not take a shorter one. -/
theorem not_shorter (takes : Takes parser (bits ++ more) (some value)) (longer : more ≠ []) :
    ¬ Takes parser bits result := by
  intro both
  cases result with
  | some => exact both.not_longer longer takes
  | none =>
      have long := takes [] []
      have short := both [] more
      rw [List.append_nil, short] at long
      cases long

end Takes

/-- A field takes as many bits as it has. -/
theorem takes_readField {nbits : Nat} {bits : List Bool} (length : bits.length = nbits)
    (positive : 0 < nbits) (narrow : nbits ≤ 32) :
    Takes (readField nbits) bits (some (bitValue bits)) := by
  intro before after
  have fits : ¬ (BitCursor.between before (bits ++ after)).bits.length <
      (BitCursor.between before (bits ++ after)).pos + nbits := by
    simp only [BitCursor.between, List.length_append]
    omega
  have slice : (BitCursor.between before (bits ++ after)).slice nbits = bits := by
    rw [BitCursor.slice, BitCursor.between, List.drop_left, ← length, List.take_left]
  rw [readField, if_neg (Nat.pos_iff_ne_zero.mp positive), if_neg (Nat.not_lt.mpr narrow),
    if_neg fits, slice]
  simp only [BitCursor.between, Except.toOption, Option.map_some, List.append_assoc,
    List.length_append, length]

/-- A field of the bits of a value is the value, cut to its width. -/
theorem takes_valueBits {nbits : Nat} (value : Nat) (positive : 0 < nbits) (narrow : nbits ≤ 32) :
    Takes (readField nbits) (valueBits nbits value) (some (value % 2 ^ nbits)) := by
  rw [← Foundation.bitValue_valueBits]
  exact takes_readField (Foundation.valueBits_length nbits value) positive narrow

theorem takes_field (octet : UInt8) :
    Takes (readField 8) (bitString [octet]) (some octet.toNat) := by
  have takes := @takes_valueBits 8 octet.toNat (by decide) (by decide)
  rw [Nat.mod_eq_of_lt octet.toNat_lt] at takes
  rw [bitString, List.flatMap_singleton]
  exact takes

theorem takes_readOctet (octet : UInt8) : Takes readOctet (bitString [octet]) (some octet) := by
  have takes := (takes_field octet).map UInt8.ofNat
  rw [Option.map_some, UInt8.ofNat_toNat] at takes
  exact takes

/-- As many octets as are asked for are taken. -/
theorem takes_readOctets (octets : List UInt8) :
    Takes (readOctets octets.length) (bitString octets) (some octets) := by
  induction octets with
  | nil => exact Takes.pure []
  | cons octet octets ih =>
      rw [← List.singleton_append, Foundation.bitString_append]
      exact (takes_readOctet octet).bind (ih.yield (octet :: ·))

theorem takes_readBytes (octets : List UInt8) :
    Takes (readBytes octets.length) (bitString octets) (some octets) := by
  intro before after
  rw [readBytes]
  split
  case isTrue empty =>
    obtain rfl := List.length_eq_zero_iff.mp empty
    rw [show bitString [] = [] from rfl, List.append_nil]
    rfl
  case isFalse =>
    have length := Foundation.bitString_length octets
    have fits : ¬ (BitCursor.between before (bitString octets ++ after)).bits.length <
        (BitCursor.between before (bitString octets ++ after)).pos + 8 * octets.length := by
      simp only [BitCursor.between, List.length_append]
      omega
    rw [if_neg fits]
    simp only [BitCursor.between, List.drop_left, Foundation.octetGroups_bitString,
      Except.toOption, Option.map_some, List.append_assoc, List.length_append, length]

/-- The parser reads fewer or more bits than these. -/
def Misreads (parser : FieldParser α) (bits : List Bool) : Prop :=
  (∃ front back value, bits = front ++ back ∧ back ≠ [] ∧ Takes parser front (some value)) ∨
    ∃ more value, more ≠ [] ∧ Takes parser (bits ++ more) (some value)

namespace Misreads

variable {parser : FieldParser α} {next : α → FieldParser β} {value : α} {bits more : List Bool}

/-- Bits that are misread are not taken. -/
theorem not_takes (misreads : Misreads parser bits) (result : Option α) :
    ¬ Takes parser bits result := by
  rcases misreads with ⟨front, back, value, rfl, longer, takes⟩ | ⟨more, value, longer, takes⟩
  · exact takes.not_longer longer
  · exact takes.not_shorter longer

/-- A misreading stays one behind what was taken. -/
theorem after (first : Takes parser bits (some value)) (misreads : Misreads (next value) more) :
    Misreads (parser >>= next) (bits ++ more) := by
  rcases misreads with ⟨front, back, read, rfl, longer, takes⟩ | ⟨extra, read, longer, takes⟩
  · exact .inl ⟨bits ++ front, back, read, (List.append_assoc ..).symm, longer, first.bind takes⟩
  · refine .inr ⟨extra, read, longer, ?_⟩
    rw [List.append_assoc]
    exact first.bind takes

/-- A misreading stays one whatever is made of the result. -/
theorem yield (misreads : Misreads parser bits) (f : α → β) :
    Misreads (parser >>= fun value => pure (f value)) bits := by
  rcases misreads with ⟨front, back, read, split, longer, takes⟩ | ⟨extra, read, longer, takes⟩
  · exact .inl ⟨front, back, f read, split, longer, takes.yield f⟩
  · exact .inr ⟨extra, f read, longer, takes.yield f⟩

end Misreads

/-- A misreading needs more bits. -/
theorem Misreads.exists_more {parser : FieldParser α} (misreads : Misreads parser []) :
    ∃ more value, more ≠ [] ∧ Takes parser more (some value) := by
  rcases misreads with ⟨front, back, value, split, longer, _⟩ | more
  · exact absurd (List.append_eq_nil_iff.mp split.symm).2 longer
  · exact more

/-- The parser fails wherever it stands. -/
def Refuses (parser : FieldParser α) : Prop :=
  ∀ cursor, (parser cursor).toOption = none

theorem Refuses.throw (error : ParseError) : Refuses (throw error : FieldParser α) := by
  intro cursor
  rfl

/-- A sequence whose later part refuses refuses. -/
theorem Refuses.bind {parser : FieldParser α} {next : α → FieldParser β}
    (refuses : ∀ value, Refuses (next value)) : Refuses (parser >>= next) := by
  intro cursor
  rw [toOption_bind]
  cases (parser cursor).toOption with
  | none => rfl
  | some read => exact refuses read.1 read.2

/-- What refuses takes nothing. -/
theorem Refuses.takes {parser : FieldParser α} (refuses : Refuses parser) (bits : List Bool) :
    Takes parser bits none :=
  fun before after => refuses (.between before (bits ++ after))

/-- The parser takes these bits if they fit, and misreads them otherwise. -/
structure ReadsIf (fits : Prop) (parser : FieldParser α) (bits : List Bool) : Prop where
  takes : fits → ∃ value, Takes parser bits (some value)
  misreads : ¬ fits → Misreads parser bits

namespace ReadsIf

variable {fits : Prop} {parser : FieldParser α} {next : α → FieldParser β} {value : α}
  {bits more : List Bool}

/-- What is taken is read, if it fits. -/
theorem of_takes (takes : Takes parser bits (some value)) (fit : fits) :
    ReadsIf fits parser bits :=
  ⟨fun _ => ⟨value, takes⟩, fun misfit => absurd fit misfit⟩

/-- What does not fit is misread. -/
theorem of_misreads (misreads : Misreads parser bits) (misfit : ¬ fits) :
    ReadsIf fits parser bits :=
  ⟨fun fit => absurd fit misfit, fun _ => misreads⟩

/-- The condition of a later part is that of the sequence. -/
theorem after (first : Takes parser bits (some value)) (reads : ReadsIf fits (next value) more) :
    ReadsIf fits (parser >>= next) (bits ++ more) := by
  constructor
  case takes =>
    intro fit
    obtain ⟨read, takes⟩ := reads.takes fit
    exact ⟨read, first.bind takes⟩
  case misreads => exact fun misfit => (reads.misreads misfit).after first

/-- The condition stays whatever is made of the result. -/
theorem yield (reads : ReadsIf fits parser bits) (f : α → β) :
    ReadsIf fits (parser >>= fun value => pure (f value)) bits := by
  constructor
  case takes =>
    intro fit
    obtain ⟨read, takes⟩ := reads.takes fit
    exact ⟨f read, takes.yield f⟩
  case misreads => exact fun misfit => (reads.misreads misfit).yield f

/-- A parser that reads on where there is nothing to read. -/
theorem of_more (more : List Bool) (longer : more ≠ []) (reads : ReadsIf True parser more)
    (misfit : ¬ fits) : ReadsIf fits parser [] := by
  obtain ⟨value, takes⟩ := reads.takes trivial
  exact of_misreads (.inr ⟨more, value, longer, takes⟩) misfit

/-- A parser that reads a first part of some octets, which is all of them if they fit. -/
theorem of_front {octets front back : List UInt8} (split : octets = front ++ back)
    (takes : Takes parser (bitString front) (some value)) (whole : back = [] ↔ fits) :
    ReadsIf fits parser (bitString octets) := by
  constructor
  case takes =>
    intro fit
    rw [split, whole.mpr fit, List.append_nil]
    exact ⟨value, takes⟩
  case misreads =>
    intro misfit
    refine .inl ⟨bitString front, bitString back, value, ?_, ?_, takes⟩
    · rw [split, Foundation.bitString_append]
    · intro empty
      apply misfit
      rw [← whole]
      have length := Foundation.bitString_length back
      rw [empty] at length
      exact List.length_eq_zero_iff.mp (by simpa using length.symm)

end ReadsIf

/-! ## What a parser reads -/

/-- A run that succeeds has read bits in front of the rest, which have this property together
with the result. -/
def Ensures (parser : FieldParser α) (post : α → List Bool → Prop) : Prop :=
  ∀ before after value next, parser (.between before after) = .ok (value, next) →
    ∃ read rest, after = read ++ rest ∧ next = .between (before ++ read) rest ∧ post value read

namespace Ensures

variable {parser : FieldParser α} {next : α → FieldParser β} {post weaker : α → List Bool → Prop}

theorem pure {value : α} (holds : post value []) : Ensures (Pure.pure value) post := by
  intro before after result next run
  obtain ⟨rfl, rfl⟩ := Prod.mk.inj (Except.ok.inj run)
  exact ⟨[], after, rfl, by rw [List.append_nil], holds⟩

theorem throw (error : ParseError) : Ensures (MonadExcept.throw error : FieldParser α) post := by
  intro before after value next run
  cases run

/-- A weaker condition is ensured too. -/
theorem mono (first : Ensures parser post)
    (implied : ∀ value read, post value read → weaker value read) : Ensures parser weaker := by
  intro before after value next run
  obtain ⟨read, rest, split, moved, holds⟩ := first before after value next run
  exact ⟨read, rest, split, moved, implied value read holds⟩

/-- What the second parser reads stands behind what the first one read. -/
theorem bind {target : β → List Bool → Prop} (first : Ensures parser post)
    (second : ∀ value read, post value read →
      Ensures (next value) fun result more => target result (read ++ more)) :
    Ensures (parser >>= next) target := by
  intro before after result last run
  change (parser (.between before after) >>= fun read => next read.1 read.2) = _ at run
  cases parsed : parser (.between before after) with
  | error =>
      rw [parsed] at run
      cases run
  | ok read =>
      obtain ⟨value, middle⟩ := read
      rw [parsed] at run
      obtain ⟨read, rest, rfl, rfl, holds⟩ := first before after value middle parsed
      obtain ⟨more, rest, rfl, rfl, holds⟩ :=
        second value read holds (before ++ read) rest result last run
      exact ⟨read ++ more, rest, by rw [List.append_assoc], by rw [List.append_assoc], holds⟩

/-- What a result ensures, the result made of it ensures. -/
theorem map {f : α → β} {target : β → List Bool → Prop} (first : Ensures parser post)
    (implied : ∀ value read, post value read → target (f value) read) :
    Ensures (f <$> parser) target := by
  refine first.bind fun value read holds => Ensures.pure ?_
  rw [List.append_nil]
  exact implied value read holds

end Ensures

/-- A field is the number its bits stand for. -/
theorem ensures_readField (nbits : Nat) :
    Ensures (readField nbits) fun value read =>
      read.length = nbits ∧ value = bitValue read := by
  intro before after value next run
  rw [readField] at run
  split at run
  case isTrue empty =>
    obtain ⟨rfl, rfl⟩ := Prod.mk.inj (Except.ok.inj run)
    exact ⟨[], after, rfl, by rw [List.append_nil], empty.symm, rfl⟩
  case isFalse =>
    split at run
    case isTrue => cases run
    case isFalse =>
      split at run
      case isTrue => cases run
      case isFalse fits =>
        obtain ⟨rfl, rfl⟩ := Prod.mk.inj (Except.ok.inj run)
        simp only [BitCursor.between, List.length_append] at fits
        have length : (after.take nbits).length = nbits := by
          rw [List.length_take]
          omega
        refine ⟨after.take nbits, after.drop nbits, (List.take_append_drop ..).symm, ?_, length, ?_⟩
        · simp only [BitCursor.between, List.append_assoc, List.take_append_drop,
            List.length_append, length]
        · rw [BitCursor.slice, BitCursor.between, List.drop_left]

/-! ## Rounds -/

variable (round : σ → FieldParser σ)

/-- `while (br.hasMore())`; a round reads an octet or more, so one for each bit is enough. -/
def whileMore : Nat → σ → FieldParser σ
  | 0, state => pure state
  | rounds + 1, state => do
      if ← hasMore then
        let state ← round state
        whileMore rounds state
      else pure state

/-- Rounds to the end of the message; each reads a bit or more. -/
def parseRounds (state : σ) : FieldParser σ := do
  let bits ← remainingBits
  whileMore round bits state

/-- The given number of rounds. -/
def rounds : Nat → σ → FieldParser σ
  | 0, state => pure state
  | count + 1, state => do
      let state ← round state
      rounds count state

end FieldParser

end Gsml3
