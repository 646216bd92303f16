import Gsml3.MM.NetworkName
import Gsml3.MM.ReEmission

/-!
# MM Information

The message that carries the short name of a network and a point in time.  It comes back from its
octets unless a part of it is lost in them.
-/

namespace Gsml3

open BitWriter (Op fields endPos)
open FieldParser
open Foundation

/-! ## Points in time -/

/-- The two kinds of time a time zone element can stand for. -/
inductive TimeType where
  | localTime
  | utcTime
deriving DecidableEq, Repr

/-- A date and time with its time zone. -/
@[ext] structure L3TimeZoneAndTime where
  year : UInt8 := 0
  month : UInt8 := 1
  day : UInt8 := 1
  hour : UInt8 := 0
  minute : UInt8 := 0
  second : UInt8 := 0
  timezone : UInt8 := 0
  type : TimeType := .utcTime
deriving DecidableEq, Repr

namespace L3TimeZoneAndTime

/-- Seven octets. -/
def lengthV : Nat := 7

/-- Two digits, the low one first. -/
def readPair : FieldParser UInt8 := do
  let lo ← readField 4
  let hi ← readField 4
  pure (UInt8.ofNat (lo + hi * 10))

/-- The two decimal digits of a value, the low one first. -/
def writePair (value : UInt8) : List Op :=
  [.writeField (value % 10).toUInt32 4, .writeField (value / 10).toUInt32 4]

/-- A timezone from its digits and its sign. -/
def signed (tzSign tz : Nat) : UInt8 :=
  UInt8.ofNat (if tzSign ≠ 0 then (tz ||| 0x80) &&& 0xFF else tz)

/-- The sign stands between the digits. -/
def readTimezone : FieldParser UInt8 := do
  let lo ← readField 4
  let tzSign ← readField 1
  let hi ← readField 3
  pure (signed tzSign (lo + hi * 10))

/-- The sign bit of a time zone. -/
def timezoneSign (timezone : UInt8) : UInt32 :=
  if 0x80 ≤ timezone then 1 else 0

/-- A time zone without its sign bit. -/
def unsigned (timezone : UInt8) : UInt8 :=
  if 0x80 ≤ timezone then timezone ^^^ 0x80 else timezone

/-- The digits of the time zone around its sign. -/
def writeTimezone (timezone : UInt8) : List Op :=
  [.writeField (unsigned timezone % 10).toUInt32 4, .writeField (timezoneSign timezone) 1,
    .writeField (unsigned timezone / 10).toUInt32 3]

/-- The type of the time is not on the wire. -/
def parse : FieldParser L3TimeZoneAndTime := do
  let year ← readPair
  let month ← readPair
  let day ← readPair
  let hour ← readPair
  let minute ← readPair
  let second ← readPair
  let timezone ← readTimezone
  pure { year, month, day, hour, minute, second, timezone }

/-- The seven values, two digits each. -/
def write (time : L3TimeZoneAndTime) : List Op :=
  writePair time.year ++ writePair time.month ++ writePair time.day ++ writePair time.hour ++
    writePair time.minute ++ writePair time.second ++ writeTimezone time.timezone

/-- A value whose high digit was cut to four bits. -/
def pairBack (value : UInt8) : UInt8 :=
  UInt8.ofNat (value.toNat % 10 + value.toNat / 10 % 2 ^ 4 * 10)

/-- A timezone whose high digit was cut to three bits. -/
def timezoneBack (timezone : UInt8) : UInt8 :=
  let tz := timezone.toNat % 2 ^ 7
  UInt8.ofNat (tz % 10 + tz / 10 % 2 ^ 3 * 10) ||| timezone &&& 0x80

/-- The time that reading gets back. -/
def comesBack (time : L3TimeZoneAndTime) : L3TimeZoneAndTime where
  year := pairBack time.year
  month := pairBack time.month
  day := pairBack time.day
  hour := pairBack time.hour
  minute := pairBack time.minute
  second := pairBack time.second
  timezone := timezoneBack time.timezone

theorem takes_pair (value : UInt8) (pos : Nat) :
    Takes readPair (fields pos (writePair value)) (some (pairBack value)) := by
  refine Takes.skipped (Takes.skipped ?_ (by decide)) (by decide)
  have digits : UInt8.ofNat ((value % 10).toUInt32.toNat % 2 ^ 4 +
      (value / 10).toUInt32.toNat % 2 ^ 4 * 10) = pairBack value := by
    revert value
    apply forall_octet
    decide +kernel
  rw [digits]
  exact Takes.pure _

theorem takes_timezone (timezone : UInt8) (pos : Nat) :
    Takes readTimezone (fields pos (writeTimezone timezone)) (some (timezoneBack timezone)) := by
  refine Takes.skipped (Takes.skipped (Takes.skipped ?_ (by decide)) (by decide)) (by decide)
  have digits : signed ((timezoneSign timezone).toNat % 2 ^ 1)
      ((unsigned timezone % 10).toUInt32.toNat % 2 ^ 4 +
        (unsigned timezone / 10).toUInt32.toNat % 2 ^ 3 * 10) = timezoneBack timezone := by
    revert timezone
    apply forall_octet
    decide +kernel
  rw [digits]
  exact Takes.pure _

theorem takes_write (time : L3TimeZoneAndTime) (pos : Nat) :
    Takes parse (fields pos time.write) (some time.comesBack) := by
  rw [write]
  simp only [List.append_assoc]
  exact (takes_pair _ _).part <| (takes_pair _ _).part <| (takes_pair _ _).part <|
    (takes_pair _ _).part <| (takes_pair _ _).part <| (takes_pair _ _).part <|
    (takes_timezone _ _).yield _

theorem pairBack_eq_iff (value : UInt8) : pairBack value = value ↔ value < 160 := by
  revert value
  apply forall_octet
  decide +kernel

theorem timezoneBack_eq_iff (timezone : UInt8) :
    timezoneBack timezone = timezone ↔ timezone &&& 0x7F < 80 := by
  revert timezone
  apply forall_octet
  decide +kernel

/-- The points in time that come back. -/
structure Canonical (time : L3TimeZoneAndTime) : Prop where
  pairs : ∀ value ∈ [time.year, time.month, time.day, time.hour, time.minute, time.second],
    value < 160
  timezone : time.timezone &&& 0x7F < 80
  type : time.type = .utcTime

theorem comesBack_eq_iff (time : L3TimeZoneAndTime) : time.comesBack = time ↔ time.Canonical := by
  rw [L3TimeZoneAndTime.ext_iff]
  simp only [comesBack, pairBack_eq_iff, timezoneBack_eq_iff]
  constructor
  · rintro ⟨year, month, day, hour, minute, second, timezone, type⟩
    refine ⟨?_, timezone, type.symm⟩
    simp only [List.forall_mem_cons]
    exact ⟨year, month, day, hour, minute, second, by simp⟩
  · intro canonical
    have pairs := canonical.pairs
    simp only [List.forall_mem_cons] at pairs
    obtain ⟨year, month, day, hour, minute, second, -⟩ := pairs
    exact ⟨year, month, day, hour, minute, second, canonical.timezone, canonical.type.symm⟩

end L3TimeZoneAndTime

/-! ## The message -/

/-- A network name behind its identifier and length. -/
def parseTLVNN : Nat → FieldParser (Option L3NetworkName) :=
  parseTLV "no TLV for NN" L3NetworkName.parse

/-- A network name behind its identifier and length. -/
def writeTLVNN (type : UInt32) (name : L3NetworkName) : List Op :=
  .writeField type 8 :: .writeField (UInt32.ofNat name.lengthV) 8 :: name.write

/-- A time zone and time behind its identifier. -/
def parseTVTZ (expectedType : Nat) : FieldParser L3TimeZoneAndTime := do
  let type ← readField 8
  if type = expectedType then L3TimeZoneAndTime.parse
  else
    let found ← position
    throw { code := .invalidIE, message := "unexpected TV type", bitPosition := found - 8 }

/-- A time zone and time behind its identifier. -/
def writeTVTZ (type : UInt32) (time : L3TimeZoneAndTime) : List Op :=
  .writeField type 8 :: time.write

/-- The name of the network and the time it has. -/
@[ext] structure L3MMInformation where
  shortName : L3NetworkName := {}
  time : L3TimeZoneAndTime := {}
deriving DecidableEq, Repr

namespace L3MMInformation

/-- The name is written if it has more than its first octet. -/
def Named (msg : L3MMInformation) : Prop :=
  1 < msg.shortName.lengthV

instance (msg : L3MMInformation) : Decidable msg.Named :=
  inferInstanceAs (Decidable (_ < _))

/-- The name when there is one, and the time. -/
def bodyLength (msg : L3MMInformation) : Nat :=
  (if msg.Named then 2 + msg.shortName.lengthV else 0) + (1 + L3TimeZoneAndTime.lengthV)

/-- The name when there is one, then the time. -/
def write (msg : L3MMInformation) : List Op :=
  (if msg.Named then writeTLVNN 0x45 msg.shortName else []) ++ writeTVTZ 0x47 msg.time

/-- There is no result where the parser of the name throws. -/
def parse : FieldParser (Option L3MMInformation) := do
  let shortName ← readOptional 8 (isTLVType 0x45) (parseTLVNN 0x45)
  if shortName = some none then pure none
  else
    let time ← parseTVTZ 0x47
    pure (some { shortName := shortName.join.getD {}, time := time })

/-- A name that is not written comes back as the default one. -/
def comesBack (msg : L3MMInformation) : L3MMInformation where
  shortName := if msg.Named then msg.shortName.comesBack else {}
  time := msg.time.comesBack

theorem takes_parseTVTZ (time : L3TimeZoneAndTime) (pos : Nat) :
    Takes (parseTVTZ 0x47) (fields pos (writeTVTZ 0x47 time)) (some time.comesBack) :=
  Takes.skipped (time.takes_write (pos + 8)) (by decide)

/-- The octet of another element is refused. -/
theorem parseTVTZ_refuses {type : Nat} (other : type % 2 ^ 8 ≠ 0x47) :
    Takes (parseTVTZ 0x47) (valueBits 8 type) none := by
  have first := @takes_valueBits 8 type (by decide) (by decide)
  rw [← List.append_nil (valueBits 8 type)]
  refine first.bind ?_
  rw [if_neg other]
  intro before after
  rfl

/-- A name in front of other bits is read as far as its parser goes. -/
theorem takes_name {name : L3NetworkName} (counted : name.Counted) :
    Takes (readOptional 8 (isTLVType 0x45) (parseTLVNN 0x45))
      (fields 0 (.writeField 0x45 8 :: .writeField (UInt32.ofNat name.lengthV) 8 :: name.reread))
      (some (some (some name.comesBack))) := by
  have small := name.lengthV_small
  have element : Takes (parseTLVNN 0x45) (fields 0 (.writeField 0x45 8 ::
      .writeField (UInt32.ofNat name.lengthV) 8 :: name.reread)) (some (some name.comesBack)) := by
    refine takes_parseTLV rfl (Takes.octetField ?_)
    rw [toNat_lengthOctet small, name.lengthV_eq_iff.mpr counted]
    exact name.takes_comesBack 16
  have announced : isTLVType 0x45 (bitValue (valueBits 8 0x45)) = true := by
    rw [bitValue_valueBits]
    rfl
  exact Takes.present (valueBits_length 8 0x45) (by decide) announced element

theorem takes_write {msg : L3MMInformation} (counted : msg.shortName.Counted)
    (kept : ¬ msg.shortName.LeavesInitials) :
    TakesAll parse (fields 0 msg.write) (some (some msg.comesBack)) := by
  rw [write, comesBack, parse]
  by_cases named : msg.Named
  · have name := takes_name counted
    rw [L3NetworkName.reread, if_neg kept] at name
    rw [if_pos named, if_pos named, BitWriter.fields_append]
    refine name.bind_all ?_
    rw [if_neg (by simp)]
    exact ((takes_parseTVTZ msg.time _).yield _).all
  · rw [if_neg named, if_neg named, List.nil_append]
    refine TakesAll.absent (fun _ => ?_) ?_
    · have tag : fields 0 (writeTVTZ 0x47 msg.time) = valueBits 8 0x47 ++ fields 8 msg.time.write :=
        rfl
      rw [tag, peeked, List.take_left' (valueBits_length 8 0x47), bitValue_valueBits,
        valueBits_length]
      rfl
    exact ((takes_parseTVTZ msg.time _).yield _).all

theorem bodyLength_iff (msg : L3MMInformation) :
    endPos 0 msg.write = msg.bodyLength * 8 ↔ msg.shortName.Counted := by
  have time (pos : Nat) : endPos pos (writeTVTZ 0x47 msg.time) = pos + 8 + 8 * 7 := rfl
  rw [write, bodyLength, BitWriter.endPos_append, time, ← L3NetworkName.lengthV_eq_iff]
  by_cases named : msg.Named
  · have name : endPos 0 (writeTLVNN 0x45 msg.shortName) = endPos 16 msg.shortName.write := rfl
    rw [if_pos named, if_pos named, name, L3NetworkName.endPos_write, L3TimeZoneAndTime.lengthV]
    omega
  · have short : msg.shortName.lengthV ≤ 1 := Nat.not_lt.mp named
    have counted := msg.shortName.lengthV_eq_iff.mpr fun octets => by
      rw [L3NetworkName.lengthV, octets] at short
      change 1 + _ + _ ≤ 1 at short
      omega
    rw [if_neg named, if_neg named]
    exact iff_of_true rfl counted

/-- The initials behind an empty text stand where the time should, and no message comes back with
them. -/
theorem not_restored {msg : L3MMInformation} (leaves : msg.shortName.LeavesInitials) :
    FieldParser.parse parse (octetsOf msg.write) ≠ some (some msg) := by
  intro restored
  have counted : msg.shortName.Counted := fun _ => by
    rw [leaves.2.1]
    decide
  have whole : 8 ∣ endPos 0 msg.write := msg.bodyLength_iff.mpr counted ▸ Nat.dvd_mul_left ..
  have initials : msg.shortName.ciLength = 2 := if_pos leaves.2.2
  have named : msg.Named := by
    rw [Named, msg.shortName.lengthV_eq_iff.mpr counted, initials]
    omega
  have name := takes_name counted
  rw [L3NetworkName.reread, if_pos leaves, L3NetworkName.comesBack, if_pos leaves] at name
  have written : msg.write = (.writeField 0x45 8 :: .writeField (UInt32.ofNat
      msg.shortName.lengthV) 8 :: msg.shortName.writeHeader 0 0) ++
        (msg.shortName.writeCI ++ writeTVTZ 0x47 msg.time) := by
    rw [write, if_pos named, writeTLVNN, L3NetworkName.write_empty leaves.1 leaves.2.1]
    simp only [List.cons_append, List.append_assoc]
  rw [FieldParser.parse, bitString_octetsOf whole, written, BitWriter.fields_append, parse,
    name.run_bind, if_neg (by simp), toOption_bind] at restored
  obtain ⟨result, ran, same⟩ := Option.map_eq_some_iff.mp restored
  obtain ⟨read, timed, later⟩ := Option.bind_eq_some_iff.mp ran
  obtain rfl := Option.some.inj later
  -- The name that was read has the flag as its initials, so that they start with a zero octet.
  have one : msg.shortName.ci = 1 := by
    rw [← Option.some.inj same]
    rfl
  rw [L3NetworkName.writeCI, if_pos leaves.2.2, one, BitWriter.fields_append] at timed
  have octets (pos : Nat) : fields pos [.writeField (UInt32.ofInt 1) 16] =
      valueBits 8 0 ++ valueBits 8 1 := rfl
  rw [octets, List.append_assoc, parseTVTZ_refuses (by decide)] at timed
  cases timed

/-- The messages that come back. -/
structure Canonical (msg : L3MMInformation) : Prop where
  shortName : msg.shortName.Canonical
  kept : ¬ msg.shortName.LeavesInitials
  absent : ¬ msg.Named → msg.shortName.alphabet = .sevenBit
  time : msg.time.Canonical

/-- A name that is not written has neither a text nor initials. -/
theorem absent_default {msg : L3MMInformation}
    (absent : ¬ msg.Named → msg.shortName.alphabet = .sevenBit) (unnamed : ¬ msg.Named) :
    msg.shortName = {} := by
  have short : msg.shortName.lengthV ≤ 1 := Nat.not_lt.mp unnamed
  rw [L3NetworkName.lengthV, absent unnamed] at short
  change 1 + msg.shortName.nameBytes + msg.shortName.ciLength ≤ 1 at short
  refine L3NetworkName.ext (absent unnamed) ?_ ?_
  · rw [L3NetworkName.nameBytes] at short
    exact List.length_eq_zero_iff.mp (by omega)
  · by_contra initials
    have two : msg.shortName.ciLength = 2 := if_pos initials
    omega

/-- What comes back of a message is the message itself. -/
theorem comesBack_eq_iff {msg : L3MMInformation} (kept : ¬ msg.shortName.LeavesInitials) :
    msg.comesBack = msg ↔ msg.Canonical := by
  rw [L3MMInformation.ext_iff, comesBack]
  change (if msg.Named then _ else _) = _ ∧ msg.time.comesBack = _ ↔ _
  rw [L3TimeZoneAndTime.comesBack_eq_iff]
  by_cases named : msg.Named
  · rw [if_pos named, L3NetworkName.comesBack_eq_iff]
    constructor
    · rintro ⟨name, time⟩
      exact ⟨name, kept, fun absent => absurd named absent, time⟩
    · intro canonical
      exact ⟨canonical.shortName, canonical.time⟩
  · rw [if_neg named]
    constructor
    · rintro ⟨name, time⟩
      have default := L3NetworkName.canonical_default
      rw [name] at default
      exact ⟨default, kept, fun _ => by rw [← name], time⟩
    · intro canonical
      exact ⟨(absent_default canonical.absent named).symm, canonical.time⟩

theorem parse_octets {msg : L3MMInformation} (counted : msg.shortName.Counted)
    (kept : ¬ msg.shortName.LeavesInitials) :
    FieldParser.parse parse (octetsOf msg.write) = some (some msg.comesBack) := by
  have whole : 8 ∣ endPos 0 msg.write := msg.bodyLength_iff.mpr counted ▸ Nat.dvd_mul_left ..
  have takes := takes_write counted kept
  rw [← bitString_octetsOf whole] at takes
  exact takes.parse_eq

/-- A canonical message is written with its announced length and comes back, and no other is. -/
theorem information_restored_iff (msg : L3MMInformation) :
    RoundTrips parse msg.write msg.bodyLength (some msg) ↔ msg.Canonical := by
  constructor
  · rintro ⟨length, restored⟩
    by_cases leaves : msg.shortName.LeavesInitials
    · exact absurd restored (not_restored leaves)
    rw [parse_octets (msg.bodyLength_iff.mp length) leaves] at restored
    exact (comesBack_eq_iff leaves).mp (Option.some.inj (Option.some.inj restored))
  · intro canonical
    have counted : msg.shortName.Counted := fun octets => absurd octets canonical.shortName.alphabet
    refine ⟨msg.bodyLength_iff.mpr counted, ?_⟩
    rw [parse_octets counted canonical.kept, (comesBack_eq_iff canonical.kept).mpr canonical]

end L3MMInformation

end Gsml3
