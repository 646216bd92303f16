import Gsml3.Core.ElementCodec
import Gsml3.RR.Elements

/-!
# Parsers of whole octets

A parser that reads whole octets from an octet boundary on makes a function of the octets that are
left.  A parser that fails may have moved on before: where its failure is not the end of the
message, what follows is read from where it stopped.
-/

namespace Gsml3

open BitWriter (Op fields endPos)
open Foundation (bitString)

/-- What is made of the octets that are left, with those behind it. -/
abbrev OctetParser := StateT (List UInt8) Option

namespace OctetParser

variable {α β : Type}

def next : OctetParser UInt8
  | [] => none
  | octet :: rest => some (octet, rest)

def take (count : Nat) : OctetParser (List UInt8) := fun octets =>
  if octets.length < count then none else some (octets.take count, octets.drop count)

/-- What is left, all of it. -/
def tail : OctetParser (List UInt8) := fun octets =>
  some (octets, [])

def hasMore : OctetParser Bool := fun octets =>
  some (decide (octets ≠ []), octets)

/-- The rounds of a loop that breaks. -/
def whileSome {σ : Type} (round : σ → OctetParser (Option σ)) : Nat → σ → OctetParser σ
  | 0, state => pure state
  | rounds + 1, state => do
      if ← hasMore then
        match ← round state with
        | none => pure state
        | some state => whileSome round rounds state
      else pure state

/-- A read whose failure moves nothing. -/
def stopping (reader : OctetParser α) : OptionT (StateM (List UInt8)) α :=
  OptionT.mk fun octets =>
    match reader octets with
    | none => (none, octets)
    | some (value, rest) => (some value, rest)

section Stopping

variable {octet : UInt8} {octets : List UInt8} {count : Nat}

/-- An octet is read from octets that are there. -/
theorem next_cons (following : UInt8 → OptionT (StateM (List UInt8)) β) :
    (next.stopping >>= following).run.run (octet :: octets) = (following octet).run.run octets :=
  rfl

/-- Without octets the reading stops. -/
theorem next_nil (following : UInt8 → OptionT (StateM (List UInt8)) β) :
    (next.stopping >>= following).run.run [] = (none, []) :=
  rfl

/-- What follows a failure is not run. -/
theorem run_bind (reader : OptionT (StateM (List UInt8)) α)
    (following : α → OptionT (StateM (List UInt8)) β) :
    (reader >>= following).run.run octets =
      match reader.run.run octets with
      | (none, rest) => (none, rest)
      | (some value, rest) => (following value).run.run rest := by
  change (match (reader.run.run octets).1 with
    | some value => (following value).run
    | none => Pure.pure none) (reader.run.run octets).2 = _
  cases reader.run.run octets with
  | mk found rest => cases found <;> rfl

/-- A reader that stops keeps the octets when it fails. -/
theorem run_stopping (reader : OctetParser α) :
    reader.stopping.run.run octets =
      match reader octets with
      | none => (none, octets)
      | some (value, rest) => (some value, rest) :=
  rfl

/-- Too few octets stop the reading and stay. -/
theorem take_short (following : List UInt8 → OptionT (StateM (List UInt8)) β)
    (short : octets.length < count) :
    ((take count).stopping >>= following).run.run octets = (none, octets) := by
  rw [run_bind, run_stopping, take, if_pos short]

/-- Enough octets are taken from the front. -/
theorem take_enough (following : List UInt8 → OptionT (StateM (List UInt8)) β)
    (enough : ¬octets.length < count) :
    ((take count).stopping >>= following).run.run octets =
      (following (octets.take count)).run.run (octets.drop count) := by
  rw [run_bind, run_stopping, take, if_neg enough]

end Stopping

/-! ## Values that are read as they are written -/

/-- What is read is written with as many octets, which are read again in front of any others. -/
def Recovers (reader : OctetParser α) (write : α → List UInt8) : Prop :=
  ∀ octets value rest, reader octets = some (value, rest) →
    octets.length = (write value).length + rest.length ∧
      ∀ more, reader (write value ++ more) = some (value, more)

/-- A sequence succeeds when both parts do. -/
theorem bind_eq_some {reader : OctetParser α} {following : α → OctetParser β} {octets : List UInt8}
    {result : β × List UInt8} :
    (reader >>= following) octets = some result ↔
      ∃ value rest, reader octets = some (value, rest) ∧ following value rest = some result := by
  change (reader octets >>= fun read => following read.1 read.2) = some result ↔ _
  rw [Option.bind_eq_bind, Option.bind_eq_some_iff]
  exact Prod.exists

theorem bind_of_eq {reader : OctetParser α} {following : α → OctetParser β}
    {octets rest : List UInt8} {value : α} (read : reader octets = some (value, rest)) :
    (reader >>= following) octets = following value rest := by
  change (reader octets >>= fun read => following read.1 read.2) = _
  rw [read]
  rfl

theorem bind_of_none {reader : OctetParser α} {following : α → OctetParser β} {octets : List UInt8}
    (refused : reader octets = none) : (reader >>= following) octets = none := by
  change (reader octets >>= fun read => following read.1 read.2) = _
  rw [refused]
  rfl

theorem whileSome_nil {σ : Type} (round : σ → OctetParser (Option σ)) (count : Nat) (state : σ) :
    whileSome round count state [] = some (state, []) := by
  cases count <;> rfl

/-- A round over octets that are there. -/
theorem whileSome_cons {σ : Type} (round : σ → OctetParser (Option σ)) (count : Nat) (state : σ)
    (octet : UInt8) (octets : List UInt8) :
    whileSome round (count + 1) state (octet :: octets) =
      match round state (octet :: octets) with
      | none => none
      | some (none, rest) => some (state, rest)
      | some (some next, rest) => whileSome round count next rest := by
  have more : hasMore (octet :: octets) = some (true, octet :: octets) := rfl
  rw [whileSome, bind_of_eq more, if_pos rfl]
  cases read : round state (octet :: octets) with
  | none => exact bind_of_none read
  | some result =>
      obtain ⟨found, rest⟩ := result
      rw [bind_of_eq read]
      cases found <;> rfl

theorem recovers_next : Recovers next fun octet => [octet] := by
  intro octets value rest read
  cases octets with
  | nil => cases read
  | cons octet octets =>
      obtain ⟨rfl, rfl⟩ := Prod.mk.inj (Option.some.inj read)
      exact ⟨Nat.add_comm .., fun more => rfl⟩

theorem recovers_pure (value : α) : Recovers (pure value) fun _ => [] := by
  intro octets other rest read
  obtain ⟨rfl, rfl⟩ := Prod.mk.inj (Option.some.inj read)
  exact ⟨(Nat.zero_add _).symm, fun more => rfl⟩

theorem take_append (value more : List UInt8) :
    take value.length (value ++ more) = some (value, more) := by
  rw [take, if_neg (by simp), List.take_left, List.drop_left]

theorem take_eq_some {count : Nat} {octets value rest : List UInt8}
    (read : take count octets = some (value, rest)) :
    value.length = count ∧ octets = value ++ rest := by
  rw [take] at read
  split at read
  · cases read
  case isFalse enough =>
    obtain ⟨rfl, rfl⟩ := Prod.mk.inj (Option.some.inj read)
    exact ⟨List.length_take_of_le (Nat.le_of_not_lt enough), (List.take_append_drop ..).symm⟩

/-- All that is read is of a kind. -/
def Yields (reader : OctetParser α) (kind : α → Prop) : Prop :=
  ∀ octets value rest, reader octets = some (value, rest) → kind value

theorem yields_pure {kind : α → Prop} {value : α} (holds : kind value) :
    Yields (pure value) kind := by
  intro octets other rest read
  obtain ⟨rfl, rfl⟩ := Prod.mk.inj (Option.some.inj read)
  exact holds

/-- What the later part yields the sequence yields. -/
theorem Yields.bind {reader : OctetParser α} {following : α → OctetParser β} {kind : β → Prop}
    (later : ∀ value, Yields (following value) kind) : Yields (reader >>= following) kind := by
  intro octets result rest read
  obtain ⟨value, middle, -, two⟩ := bind_eq_some.mp read
  exact later value middle result rest two

/-- Two values, one behind the other. -/
theorem Recovers.bind {reader : OctetParser α} {following : α → OctetParser β}
    {write : α → List UInt8} {later : α → β → List UInt8} {whole : β → List UInt8} (first : Recovers reader write)
    (second : ∀ value, Recovers (following value) (later value))
    (splits : ∀ value, Yields (following value) fun result =>
      whole result = write value ++ later value result) :
    Recovers (reader >>= following) whole := by
  intro octets result rest read
  obtain ⟨value, middle, one, two⟩ := bind_eq_some.mp read
  obtain ⟨size, again⟩ := first octets value middle one
  obtain ⟨size', again'⟩ := second value middle result rest two
  rw [splits value middle result rest two]
  constructor
  · rw [size, size', List.length_append, Nat.add_assoc]
  · intro more
    rw [List.append_assoc, bind_of_eq (again _)]
    exact again' more

end OctetParser

/-! ## Octets that are written -/

namespace BitWriter

/-- The octets of a call that writes whole octets. -/
def Op.octets : Op → List UInt8
  | .writeField value _ => [value.toUInt8]
  | .writeBytes data => data
  | .alignToOctet => []

/-- A call that writes whole octets. -/
def Op.Whole : Op → Prop
  | .writeField _ nbits => nbits = 8
  | .writeBytes _ => True
  | .alignToOctet => False

def octetsWritten (ops : List Op) : List UInt8 :=
  ops.flatMap Op.octets

@[simp] theorem octetsWritten_nil : octetsWritten [] = [] :=
  rfl

@[simp] theorem octetsWritten_cons (op : Op) (ops : List Op) :
    octetsWritten (op :: ops) = op.octets ++ octetsWritten ops :=
  List.flatMap_cons

/-- Operations write one behind the other. -/
@[simp] theorem octetsWritten_append (earlier later : List Op) :
    octetsWritten (earlier ++ later) = octetsWritten earlier ++ octetsWritten later :=
  List.flatMap_append

@[simp] theorem octetsWritten_writeOctets (octets : List UInt8) :
    octetsWritten (writeOctets octets) = octets := by
  induction octets with
  | nil => rfl
  | cons octet octets ih =>
      change (octet.toUInt32).toUInt8 :: octetsWritten (writeOctets octets) = _
      rw [ih, UInt8.toUInt8_toUInt32]

/-- Octets are written as whole octets. -/
theorem whole_writeOctets (octets : List UInt8) : ∀ op ∈ writeOctets octets, op.Whole := by
  intro op member
  obtain ⟨octet, -, written⟩ := List.mem_flatMap.mp member
  obtain rfl := List.mem_singleton.mp written
  exact rfl

/-- The bits of an operation on whole octets are those of its octets. -/
theorem Op.Whole.field {op : Op} (whole : op.Whole) (pos : Nat) :
    op.field pos = bitString op.octets := by
  cases op with
  | writeField value nbits =>
      obtain rfl : nbits = 8 := whole
      change Foundation.valueBits 8 value.toNat = bitString [value.toUInt8]
      rw [bitString, List.flatMap_singleton, UInt32.toNat_toUInt8,
        ← Foundation.bitValue_valueBits]
      exact (FieldParser.valueBits_bitValue _).symm
  | writeBytes data => rfl
  | alignToOctet => cases whole

/-- The bits of operations on whole octets are those of the octets written. -/
theorem fields_whole {ops : List Op} (whole : ∀ op ∈ ops, op.Whole) (pos : Nat) :
    fields pos ops = bitString (octetsWritten ops) := by
  induction ops generalizing pos with
  | nil => rfl
  | cons op ops ih =>
      rw [fields, ih (fun op member => whole op (List.mem_cons_of_mem _ member)),
        (whole op List.mem_cons_self).field, octetsWritten_cons, Foundation.bitString_append]

/-- Operations on whole octets move by eight bits for each. -/
theorem endPos_whole {ops : List Op} (whole : ∀ op ∈ ops, op.Whole) (pos : Nat) :
    endPos pos ops = pos + 8 * (octetsWritten ops).length := by
  rw [← fields_length, fields_whole whole, Foundation.bitString_length]

end BitWriter

/-! ## What a parser makes of octets -/

/-- A parser that also tells where it stands when it fails. -/
abbrev StoppingParser := ExceptT ParseError (StateM BitCursor)

namespace StoppingParser

variable {α : Type}

/-- A read that moves nothing when it fails. -/
def read (parser : FieldParser α) : StoppingParser α :=
  ExceptT.mk fun cursor =>
    match parser cursor with
    | .ok (value, next) => (.ok value, next)
    | .error error => (.error error, cursor)

/-- An error at the position that is reached. -/
def refuse (code : ParseError.Code) (message : String) : StoppingParser α :=
  ExceptT.mk fun cursor => (.error { code, message, bitPosition := cursor.pos }, cursor)

/-- A failure ends the message. -/
def required (parser : StoppingParser α) : FieldParser α := fun cursor =>
  match parser.run cursor with
  | (.ok value, next) => .ok (value, next)
  | (.error error, _) => .error error

/-- After a failure the message goes on where the parser stopped. -/
def attempt (parser : StoppingParser α) : FieldParser (Option α) := fun cursor =>
  .ok ((parser.run cursor).1.toOption, (parser.run cursor).2)

end StoppingParser

namespace FieldParser

variable {α β : Type}

/-- An error at the position that is reached. -/
def refuse (code : ParseError.Code) (message : String) : FieldParser α := fun cursor =>
  .error { code, message, bitPosition := cursor.pos }

/-- From an octet boundary on, the parser does what the reader does with the octets left. -/
structure Octetwise (parser : FieldParser α) (reader : OctetParser α) : Prop where
  refuses : ∀ {octets}, reader octets = none → ∀ before,
    (parser (.between before (bitString octets))).toOption = none
  reads : ∀ {octets value rest}, reader octets = some (value, rest) → ∃ front,
    octets = front ++ rest ∧ ∀ before, (parser (.between before (bitString octets))).toOption =
      some (value, .between (before ++ bitString front) (bitString rest))

namespace Octetwise

variable {parser : FieldParser α} {reader : OctetParser α} {next : α → FieldParser β}
  {following : α → OctetParser β}

/-- An octetwise parser gives what its reader does. -/
theorem parse_eq (octetwise : Octetwise parser reader) (octets : List UInt8) :
    parse parser octets = (reader octets).map Prod.fst := by
  rw [parse]
  cases read : reader octets with
  | none => rw [octetwise.refuses read, Option.map_none, Option.map_none]
  | some result =>
      obtain ⟨front, -, run⟩ := octetwise.reads read
      rw [run, Option.map_some, Option.map_some]

/-- A read of a single result, whatever stands before. -/
theorem of_moves (moves : ∀ octets, ∃ value front rest, octets = front ++ rest ∧
    reader octets = some (value, rest) ∧ ∀ before,
      (parser (.between before (bitString octets))).toOption =
        some (value, .between (before ++ bitString front) (bitString rest))) :
    Octetwise parser reader where
  refuses := by
    intro octets read
    obtain ⟨_, _, _, -, some_read, -⟩ := moves octets
    rw [some_read] at read
    cases read
  reads := by
    intro octets value rest read
    obtain ⟨_, front, _, split, some_read, run⟩ := moves octets
    rw [some_read] at read
    obtain ⟨rfl, rfl⟩ := Prod.mk.inj (Option.some.inj read)
    exact ⟨front, split, run⟩

/-- Reading nothing is octetwise. -/
theorem pure (value : α) : Octetwise (Pure.pure value) (Pure.pure value) := by
  apply of_moves
  intro octets
  refine ⟨value, [], octets, rfl, rfl, fun before => ?_⟩
  rw [show bitString [] = [] from rfl, List.append_nil]
  rfl

/-- Octetwise parsers compose. -/
theorem bind (first : Octetwise parser reader)
    (second : ∀ value, Octetwise (next value) (following value)) :
    Octetwise (parser >>= next) (reader >>= following) where
  refuses := by
    intro octets read before
    rw [toOption_bind]
    cases one : reader octets with
    | none => rw [first.refuses one, Option.bind_none]
    | some result =>
        obtain ⟨front, -, run⟩ := first.reads one
        rw [OctetParser.bind_of_eq one] at read
        rw [run, Option.bind_some]
        exact (second _).refuses read _
  reads := by
    intro octets value rest read
    obtain ⟨middle, behind, one, two⟩ := OctetParser.bind_eq_some.mp read
    obtain ⟨front, rfl, run⟩ := first.reads one
    obtain ⟨later, rfl, run'⟩ := (second middle).reads two
    refine ⟨front ++ later, (List.append_assoc ..).symm, fun before => ?_⟩
    rw [toOption_bind, run, Option.bind_some, run', Foundation.bitString_append,
      List.append_assoc]

theorem map (first : Octetwise parser reader) (f : α → β) :
    Octetwise (f <$> parser) (f <$> reader) :=
  first.bind fun value => pure (f value)

theorem refuse (code : ParseError.Code) (message : String) :
    Octetwise (FieldParser.refuse code message : FieldParser α) failure where
  refuses := by
    intro octets _ before
    rfl
  reads := by
    intro octets value rest read
    cases read

/-- A choice between octetwise parsers is octetwise. -/
theorem ite {condition : Prop} [Decidable condition] {other : FieldParser α}
    {otherReader : OctetParser α} (yes : condition → Octetwise parser reader)
    (no : ¬condition → Octetwise other otherReader) :
    Octetwise (if condition then parser else other)
      (if condition then reader else otherReader) := by
  split
  case isTrue holds => exact yes holds
  case isFalse fails => exact no fails

end Octetwise

/-- Without bits no field can be read. -/
theorem readField_nil (before : List Bool) :
    (readField 8 (.between before [])).toOption = none := by
  have short : (BitCursor.between before []).bits.length <
      (BitCursor.between before []).pos + 8 := by
    rw [BitCursor.between, List.append_nil]
    exact Nat.lt_add_of_pos_right (by decide)
  rw [readField, if_neg (by decide), if_neg (by decide), if_pos short]
  rfl

theorem octetwise_readOctet : Octetwise readOctet OctetParser.next where
  refuses := by
    intro octets read before
    cases octets with
    | nil =>
        change ((UInt8.ofNat <$> readField 8) (.between before [])).toOption = none
        rw [← bind_pure_comp, toOption_bind, readField_nil]
        rfl
    | cons octet octets => cases read
  reads := by
    intro octets value rest read
    cases octets with
    | nil => cases read
    | cons octet octets =>
        obtain ⟨rfl, rfl⟩ := Prod.mk.inj (Option.some.inj read)
        refine ⟨[octet], rfl, fun before => ?_⟩
        have takes := takes_readOctet octet before (bitString octets)
        rwa [← Foundation.bitString_append] at takes

/-- Too few octets refuse the read. -/
theorem readBytes_short {count : Nat} {octets : List UInt8} (short : octets.length < count)
    (before : List Bool) :
    readBytes count (.between before (bitString octets)) =
      .error (readPastEnd (.between before (bitString octets))) := by
  have past : (BitCursor.between before (bitString octets)).bits.length <
      (BitCursor.between before (bitString octets)).pos + 8 * count := by
    rw [BitCursor.between, List.length_append, Foundation.bitString_length]
    exact Nat.add_lt_add_left (Nat.mul_lt_mul_of_pos_left short (by decide)) _
  rw [readBytes, if_neg (Nat.pos_iff_ne_zero.mp (Nat.zero_lt_of_lt short)), if_pos past]

theorem octetwise_readBytes (count : Nat) :
    Octetwise (readBytes count) (OctetParser.take count) where
  refuses := by
    intro octets read before
    rw [OctetParser.take] at read
    split at read
    case isTrue short =>
      rw [readBytes_short short]
      rfl
    case isFalse => cases read
  reads := by
    intro octets value rest read
    obtain ⟨size, rfl⟩ := OctetParser.take_eq_some read
    refine ⟨value, rfl, fun before => ?_⟩
    have takes := takes_readBytes value before (bitString rest)
    rwa [size, ← Foundation.bitString_append] at takes

/-- Octets that are read one by one. -/
theorem octetwise_readOctets (count : Nat) :
    Octetwise (readOctets count) (OctetParser.take count) where
  refuses := by
    intro octets read before
    rw [OctetParser.take] at read
    split at read
    case isFalse => cases read
    case isTrue short =>
      induction count generalizing octets before with
      | zero => cases short
      | succ count ih =>
          rw [readOctets, toOption_bind]
          cases octets with
          | nil => rw [octetwise_readOctet.refuses rfl, Option.bind_none]
          | cons octet octets =>
              obtain ⟨front, split, run⟩ := octetwise_readOctet.reads (rfl :
                OctetParser.next (octet :: octets) = some (octet, octets))
              rw [run, Option.bind_some, toOption_bind]
              dsimp only
              rw [ih _ (Nat.lt_of_succ_lt_succ short), Option.bind_none]
  reads := by
    intro octets value rest read
    obtain ⟨size, rfl⟩ := OctetParser.take_eq_some read
    refine ⟨value, rfl, fun before => ?_⟩
    have takes := takes_readOctets value before (bitString rest)
    rwa [size, ← Foundation.bitString_append] at takes

/-- The bits left are eight for each octet left. -/
theorem octetwise_remainingBits :
    Octetwise remainingBits fun octets => some (8 * octets.length, octets) := by
  apply Octetwise.of_moves
  intro octets
  refine ⟨_, [], octets, rfl, rfl, fun before => ?_⟩
  rw [remainingBits, BitCursor.between, List.length_append, Nat.add_sub_cancel_left,
    Foundation.bitString_length, show bitString [] = [] from rfl, List.append_nil]
  rfl

theorem octetwise_tail (message : String) :
    Octetwise (readOpaqueTail message) OctetParser.tail := by
  apply Octetwise.of_moves
  intro octets
  exact ⟨octets, octets, [], (List.append_nil octets).symm, rfl, takesAll_tail message octets⟩

theorem bitString_eq_nil {octets : List UInt8} : bitString octets = [] ↔ octets = [] := by
  rw [← List.length_eq_zero_iff, Foundation.bitString_length, ← List.length_eq_zero_iff]
  exact ⟨fun none => (Nat.mul_eq_zero.mp none).resolve_left (by decide), fun none => by rw [none]⟩

theorem octetwise_hasMore : Octetwise hasMore OctetParser.hasMore := by
  apply Octetwise.of_moves
  intro octets
  refine ⟨_, [], octets, rfl, rfl, fun before => ?_⟩
  rw [hasMore_between, show bitString [] = [] from rfl, List.append_nil,
    decide_eq_decide.mpr (not_congr (@bitString_eq_nil octets))]
  rfl

/-- Rounds of an octetwise parser are octetwise. -/
theorem octetwise_whileSome {σ : Type} {round : σ → FieldParser (Option σ)}
    {octetRound : σ → OctetParser (Option σ)}
    (rounds : ∀ state, Octetwise (round state) (octetRound state)) (count : Nat) (state : σ) :
    Octetwise (whileSome round count state) (OctetParser.whileSome octetRound count state) := by
  induction count generalizing state with
  | zero => exact Octetwise.pure state
  | succ count ih =>
      apply octetwise_hasMore.bind
      intro more
      cases more with
      | false => exact Octetwise.pure state
      | true =>
          apply (rounds state).bind
          intro found
          cases found with
          | none => exact Octetwise.pure state
          | some following => exact ih following

/-! ## Failures that are not the end -/

/-- Where the parser stops in the octets left, and what it returns if it does not fail. -/
def Halts (parser : StoppingParser α) (reader : OptionT (StateM (List UInt8)) α) : Prop :=
  ∀ octets, ∃ front, octets = front ++ (reader.run.run octets).2 ∧ ∀ before,
    (parser.run.run (.between before (bitString octets))).1.toOption =
        (reader.run.run octets).1 ∧
      (parser.run.run (.between before (bitString octets))).2 =
        .between (before ++ bitString front) (bitString (reader.run.run octets).2)

namespace Halts

variable {parser : StoppingParser α} {reader : OptionT (StateM (List UInt8)) α}

theorem pure (value : α) : Halts (Pure.pure value) (Pure.pure value) := by
  intro octets
  refine ⟨[], rfl, fun before => ⟨rfl, ?_⟩⟩
  rw [show bitString [] = [] from rfl, List.append_nil]
  rfl

theorem refuse (code : ParseError.Code) (message : String) :
    Halts (StoppingParser.refuse code message : StoppingParser α) failure := by
  intro octets
  refine ⟨[], rfl, fun before => ⟨rfl, ?_⟩⟩
  rw [show bitString [] = [] from rfl, List.append_nil]
  rfl

/-- Parsers that halt compose. -/
theorem bind {next : α → StoppingParser β} {following : α → OptionT (StateM (List UInt8)) β}
    (first : Halts parser reader) (second : ∀ value, Halts (next value) (following value)) :
    Halts (parser >>= next) (reader >>= following) := by
  intro octets
  obtain ⟨front, split, run⟩ := first octets
  rw [OctetParser.run_bind]
  have moves : ∀ cursor, (parser >>= next).run.run cursor =
      match parser.run.run cursor with
      | (.error error, stopped) => (.error error, stopped)
      | (.ok value, moved) => (next value).run.run moved := by
    intro cursor
    change (ExceptT.bindCont next (parser.run.run cursor).1) (parser.run.run cursor).2 = _
    cases parser.run.run cursor with
    | mk outcome moved => cases outcome <;> rfl
  cases read : reader.run.run octets with
  | mk found rest =>
      rw [read] at split run
      cases found with
      | none =>
          refine ⟨front, split, fun before => ?_⟩
          obtain ⟨failed, stopped⟩ := run before
          rw [moves]
          revert failed stopped
          cases parser.run.run (.between before (bitString octets)) with
          | mk outcome moved =>
              cases outcome with
              | error error => exact fun _ stopped => ⟨rfl, stopped⟩
              | ok value => exact fun failed => by cases failed
      | some value =>
          obtain ⟨later, split', run'⟩ := second value rest
          refine ⟨front ++ later, ?_, fun before => ?_⟩
          · rw [List.append_assoc, ← split']
            exact split
          · obtain ⟨returned, moved⟩ := run before
            rw [moves, Foundation.bitString_append, ← List.append_assoc]
            revert returned moved
            cases parser.run.run (.between before (bitString octets)) with
            | mk outcome moved =>
                cases outcome with
                | error error => exact fun returned => by cases returned
                | ok other =>
                    intro returned same
                    obtain rfl := Option.some.inj returned
                    change moved = _ at same
                    rw [same]
                    exact run' _

/-- An octetwise parser halts where its reader does. -/
theorem read {parser : FieldParser α} {reader : OctetParser α}
    (octetwise : Octetwise parser reader) :
    Halts (StoppingParser.read parser) reader.stopping := by
  intro octets
  have run (cursor : BitCursor) : (StoppingParser.read parser).run.run cursor =
      match parser cursor with
      | .ok (value, next) => (.ok value, next)
      | .error error => (.error error, cursor) := rfl
  rw [OctetParser.run_stopping]
  cases found : reader octets with
  | none =>
      refine ⟨[], rfl, fun before => ?_⟩
      have failed := octetwise.refuses found before
      rw [run, show bitString [] = [] from rfl, List.append_nil]
      revert failed
      cases parser (.between before (bitString octets)) with
      | error error => exact fun _ => ⟨rfl, rfl⟩
      | ok result => exact fun failed => by cases failed
  | some result =>
      obtain ⟨front, split, reads⟩ := octetwise.reads found
      refine ⟨front, split, fun before => ?_⟩
      rw [run, ok_of_toOption (reads before)]
      exact ⟨rfl, rfl⟩

/-- An attempt goes on from where the parser halted. -/
theorem attempt (halts : Halts parser reader) :
    Octetwise parser.attempt fun octets => some (reader.run.run octets) := by
  apply Octetwise.of_moves
  intro octets
  obtain ⟨front, split, run⟩ := halts octets
  refine ⟨_, front, _, split, rfl, fun before => ?_⟩
  rw [StoppingParser.attempt]
  change some ((parser.run.run _).1.toOption, (parser.run.run _).2) = _
  rw [(run before).1, (run before).2]
  rfl

theorem required (halts : Halts parser reader) :
    Octetwise parser.required fun octets =>
      (reader.run.run octets).1.map fun value => (value, (reader.run.run octets).2) where
  refuses := by
    intro octets read before
    obtain ⟨front, -, run⟩ := halts octets
    have failed := (run before).1
    rw [Option.map_eq_none_iff.mp read] at failed
    rw [StoppingParser.required]
    change (match parser.run.run _ with
      | (.ok value, next) => Except.ok (value, next)
      | (.error error, _) => .error error).toOption = none
    revert failed
    cases parser.run.run (.between before (bitString octets)) with
    | mk outcome next =>
        cases outcome with
        | error error => exact fun _ => rfl
        | ok value => exact fun failed => by cases failed
  reads := by
    intro octets value rest read
    obtain ⟨front, split, run⟩ := halts octets
    obtain ⟨same, found, same_pair⟩ := Option.map_eq_some_iff.mp read
    obtain ⟨rfl, rfl⟩ := Prod.mk.inj same_pair
    refine ⟨front, split, fun before => ?_⟩
    obtain ⟨returned, moved⟩ := run before
    rw [found] at returned
    rw [StoppingParser.required, ← moved]
    change (match parser.run.run _ with
      | (.ok value, next) => Except.ok (value, next)
      | (.error error, _) => .error error).toOption = some (same, (parser.run.run _).2)
    revert returned
    cases parser.run.run (.between before (bitString octets)) with
    | mk outcome next =>
        cases outcome with
        | error error => exact fun returned => by cases returned
        | ok value =>
            intro returned
            obtain rfl := Option.some.inj returned
            rfl

end Halts

end FieldParser

end Gsml3
