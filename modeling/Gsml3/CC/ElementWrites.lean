import Gsml3.CC.ElementParsing
import Gsml3.CC.Messages
import Gsml3.CC.PartyNumbers
import Gsml3.FixedMessages
import Gsml3.RR.ElementCodecs

/-!
# Call control elements read back

What is written for the elements of call control messages, and what is read of it.  Fields are cut
to their width; a bearer capability without octet 3a is read with the one of a default value; the
last item of a sub-address is read only if it has octets.
-/

namespace Gsml3

open BitWriter (Op fields endPos)
open Foundation (bitString)
open FieldParser

/-! ## Values of one octet -/

namespace L3Signal

/-- The value in one octet. -/
def write (signal : L3Signal) : List Op :=
  [.writeField (UInt32.ofNat signal.signalValue) 8]

/-- The value that reading gets back: the octet. -/
def reread (signal : L3Signal) : L3Signal where
  signalValue := signal.signalValue % 2 ^ 8

theorem rereads (signal : L3Signal) :
    Rereads (fun _ => parse) write (fun _ => 1) reread signal where
  length pos := rfl
  takes pos := by
    refine Takes.skipped ?_ (by simp)
    rw [stored_ofNat _ 8 (by decide)]
    exact Takes.pure _

/-- A value of eight bits comes back as it is. -/
theorem reread_eq_iff (signal : L3Signal) :
    signal.reread = signal ↔ signal.signalValue < 2 ^ 8 := by
  obtain ⟨value⟩ := signal
  rw [reread, L3Signal.mk.injEq, Nat.mod_eq_iff_lt (by decide)]

end L3Signal

namespace L3SupServVersionIndicator

/-- The version in one octet. -/
def write (indicator : L3SupServVersionIndicator) : List Op :=
  [.writeField (UInt32.ofNat indicator.version) 8]

/-- The version that reading gets back: the octet. -/
def reread (indicator : L3SupServVersionIndicator) : L3SupServVersionIndicator where
  version := indicator.version % 2 ^ 8

theorem rereads (indicator : L3SupServVersionIndicator) :
    Rereads (fun _ => parse) write (fun _ => 1) reread indicator where
  length pos := rfl
  takes pos := by
    refine Takes.skipped ?_ (by simp)
    rw [stored_ofNat _ 8 (by decide)]
    exact Takes.pure _

/-- A version of eight bits comes back as it is. -/
theorem reread_eq_iff (indicator : L3SupServVersionIndicator) :
    indicator.reread = indicator ↔ indicator.version < 2 ^ 8 := by
  obtain ⟨version⟩ := indicator
  rw [reread, L3SupServVersionIndicator.mk.injEq, Nat.mod_eq_iff_lt (by decide)]

/-- A version comes back, cut to its octet. -/
theorem takes_readSSVersion (indicator : L3SupServVersionIndicator) (pos : Nat) :
    Takes (readSSVersion 1) (fields pos indicator.write) (some (some indicator.reread)) := by
  rw [← List.append_nil (fields pos indicator.write)]
  refine (indicator.rereads.takes pos).bind ?_
  exact Takes.pure _

end L3SupServVersionIndicator

namespace L3Priority

/-- The octet: the request bit and the level behind it. -/
def octet (priority : L3Priority) : Nat :=
  (priority.priorityLevel &&& 0x07) <<< 3 ||| if priority.request then 0x40 else 0

/-- The flag and the level in one octet. -/
def write (priority : L3Priority) : List Op :=
  [.writeField (UInt32.ofNat priority.octet) 8]

/-- The level that reading gets back has three bits. -/
def reread (priority : L3Priority) : L3Priority where
  priorityLevel := priority.priorityLevel % 2 ^ 3
  request := priority.request

/-- The octet of a priority. -/
theorem octet_eq (priority : L3Priority) :
    priority.octet =
      (priority.priorityLevel % 2 ^ 3) <<< 3 ||| if priority.request then 0x40 else 0 := by
  rw [octet, ← Nat.and_two_pow_sub_one_eq_mod]

/-- Flag and level can be told apart in the octet. -/
theorem unpacked (level : Nat) (small : level < 2 ^ 3) (request : Bool) :
    let octet := level <<< 3 ||| if request then 0x40 else 0
    octet < 2 ^ 8 ∧ decide (octet &&& 0x40 ≠ 0) = request ∧ octet >>> 3 &&& 0x07 = level := by
  revert level request
  decide

theorem rereads (priority : L3Priority) :
    Rereads (fun _ => parse) write (fun _ => 1) reread priority where
  length pos := rfl
  takes pos := by
    obtain ⟨small, request, level⟩ := unpacked (priority.priorityLevel % 2 ^ 3)
      (Nat.mod_lt _ (Nat.two_pow_pos 3)) priority.request
    refine Takes.skipped ?_ (by simp)
    rw [stored_ofNat _ 8 (by decide), octet_eq, Nat.mod_eq_of_lt small, request, level]
    exact Takes.pure _

/-- A level of three bits comes back as it is. -/
theorem reread_eq_iff (priority : L3Priority) :
    priority.reread = priority ↔ priority.priorityLevel < 2 ^ 3 := by
  obtain ⟨level, request⟩ := priority
  rw [reread, L3Priority.mk.injEq, Nat.mod_eq_iff_lt (by decide), and_iff_left rfl]

end L3Priority

namespace L3StreamIdentifier

/-- The octet: the group call bit and the identifier. -/
def octet (identifier : L3StreamIdentifier) : Nat :=
  (if identifier.vbs then 0x10 else 0) ||| identifier.streamId &&& 0x0f

/-- The flag and the identity in one octet. -/
def write (identifier : L3StreamIdentifier) : List Op :=
  [.writeField (UInt32.ofNat identifier.octet) 8]

/-- The identity that reading gets back has four bits. -/
def reread (identifier : L3StreamIdentifier) : L3StreamIdentifier where
  streamId := identifier.streamId % 2 ^ 4
  vbs := identifier.vbs

/-- The octet of a stream identifier. -/
theorem octet_eq (identifier : L3StreamIdentifier) :
    identifier.octet = (if identifier.vbs then 0x10 else 0) ||| identifier.streamId % 2 ^ 4 := by
  rw [octet, ← Nat.and_two_pow_sub_one_eq_mod]

/-- Flag and identity can be told apart in the octet. -/
theorem unpacked (streamId : Nat) (small : streamId < 2 ^ 4) (vbs : Bool) :
    let octet := (if vbs then 0x10 else 0) ||| streamId
    octet < 2 ^ 8 ∧ decide (octet &&& 0x10 ≠ 0) = vbs ∧ octet &&& 0x0f = streamId := by
  revert streamId vbs
  decide

theorem rereads (identifier : L3StreamIdentifier) :
    Rereads readStreamIdentifier write (fun _ => 1) reread identifier where
  length pos := rfl
  takes pos := by
    obtain ⟨small, vbs, streamId⟩ := unpacked (identifier.streamId % 2 ^ 4)
      (Nat.mod_lt _ (Nat.two_pow_pos 4)) identifier.vbs
    have takes : Takes L3StreamIdentifier.parse (fields pos identifier.write)
        (some identifier.reread) := by
      refine Takes.skipped ?_ (by simp)
      rw [stored_ofNat _ 8 (by decide), octet_eq, Nat.mod_eq_of_lt small, vbs, streamId]
      exact Takes.pure _
    rw [← List.append_nil (fields pos identifier.write)]
    refine takes.bind ?_
    exact Takes.pure _

/-- An identity of four bits comes back as it is. -/
theorem reread_eq_iff (identifier : L3StreamIdentifier) :
    identifier.reread = identifier ↔ identifier.streamId < 2 ^ 4 := by
  obtain ⟨streamId, vbs⟩ := identifier
  rw [reread, L3StreamIdentifier.mk.injEq, Nat.mod_eq_iff_lt (by decide), and_iff_left rfl]

end L3StreamIdentifier

namespace L3ProgressIndicator

/-- The value in one octet. -/
def writeTV (indicator : L3ProgressIndicator) : List Op :=
  [.writeField (UInt32.ofNat indicator.location) 4,
    .writeField (UInt32.ofNat (indicator.progress &&& 0xF)) 4]

/-- Location and progress that reading gets back have four bits each. -/
def reread (indicator : L3ProgressIndicator) : L3ProgressIndicator where
  location := indicator.location % 2 ^ 4
  progress := indicator.progress % 2 ^ 4

theorem rereads (indicator : L3ProgressIndicator) :
    Rereads (fun _ => parseTV) writeTV (fun _ => 1) reread indicator where
  length pos := rfl
  takes pos := by
    have masked : (indicator.progress &&& 0xF) % 2 ^ 4 = indicator.progress % 2 ^ 4 := by
      rw [show 0xF = 2 ^ 4 - 1 from rfl, Nat.and_two_pow_sub_one_eq_mod, Nat.mod_mod]
    refine Takes.skipped (Takes.skipped ?_ (by simp)) (by simp)
    rw [stored_ofNat _ 4 (by decide), stored_ofNat _ 4 (by decide), masked]
    exact Takes.pure _

/-- Location and progress fit their half octets. -/
structure Canonical (indicator : L3ProgressIndicator) : Prop where
  location : indicator.location < 2 ^ 4
  progress : indicator.progress < 2 ^ 4

/-- Canonical indicators come back as they are. -/
theorem reread_eq_iff (indicator : L3ProgressIndicator) :
    indicator.reread = indicator ↔ indicator.Canonical := by
  obtain ⟨location, progress⟩ := indicator
  rw [reread, L3ProgressIndicator.mk.injEq, Nat.mod_eq_iff_lt (by decide),
    Nat.mod_eq_iff_lt (by decide)]
  exact ⟨fun both => ⟨both.1, both.2⟩, fun canonical => ⟨canonical.location, canonical.progress⟩⟩

end L3ProgressIndicator

/-! ## Opaque values -/

namespace OpaqueElement

/-- As many octets as are kept. -/
def lengthV (element : OpaqueElement) : Nat :=
  element.data.length

/-- The octets as they are kept. -/
def write (element : OpaqueElement) : List Op :=
  writeOctets element.data

/-- Opaque octets come back as they are. -/
theorem rereads (element : OpaqueElement) : Rereads parse write lengthV id element where
  length pos := by
    rw [write, endPos_writeOctets, lengthV, Nat.mul_comm]
  takes pos := (takes_writeOctets element.data pos).yield _

end OpaqueElement

/-! ## Bearer capability -/

namespace L3BearerCapability

/-- Octet 3, octet 3a when there, and the octets behind it. -/
def lengthV (capability : L3BearerCapability) : Nat :=
  1 + (if capability.haveOctet3a then 1 else 0) + capability.extendedOctets.length

/-- The octets behind octet 3. -/
def behind (capability : L3BearerCapability) : List UInt8 :=
  (if capability.haveOctet3a then [capability.firstOctet3a] else []) ++ capability.extendedOctets

/-- Octet 3, octet 3a when there, and the octets behind it. -/
def write (capability : L3BearerCapability) : List Op :=
  .writeField capability.octet3.toUInt32 8 ::
    ((if capability.haveOctet3a then [.writeField capability.firstOctet3a.toUInt32 8] else []) ++
      writeOctets capability.extendedOctets)

/-- The capability that is read back. -/
def reread (capability : L3BearerCapability) : L3BearerCapability :=
  match capability.behind with
  | [] => { octet3 := capability.octet3 }
  | firstOctet3a :: extendedOctets =>
      { octet3 := capability.octet3, firstOctet3a, extendedOctets }

theorem fields_write (capability : L3BearerCapability) (pos : Nat) :
    fields pos capability.write = bitString (capability.octet3 :: capability.behind) := by
  obtain ⟨octet3, haveOctet3a, firstOctet3a, extended⟩ := capability
  cases haveOctet3a with
  | false => exact fields_writeOctets (octet3 :: extended) pos
  | true => exact fields_writeOctets (octet3 :: firstOctet3a :: extended) pos

theorem lengthV_eq (capability : L3BearerCapability) :
    capability.lengthV = capability.behind.length + 1 := by
  rw [lengthV, behind, List.length_append]
  cases capability.haveOctet3a with
  | false =>
      rw [if_neg nofun, if_neg nofun, List.length_nil]
      omega
  | true =>
      rw [if_pos rfl, if_pos rfl, List.length_singleton]
      omega

/-- A bearer capability comes back, as its octets stand. -/
theorem rereads (capability : L3BearerCapability) :
    Rereads parse write lengthV reread capability where
  length pos := by
    have count := congrArg List.length (capability.fields_write pos)
    rw [Foundation.bitString_length, List.length_cons, ← lengthV_eq] at count
    rw [← count, BitWriter.fields_length]
  takes pos := by
    rw [fields_write, lengthV_eq, reread]
    cases capability.behind with
    | nil => exact (takes_readOctet _).yield _
    | cons first extended => exact Takes.octet (Takes.octet ((takes_readOctets extended).yield _))

/-- The capability that is read back has an octet 3a. -/
theorem reread_eq_iff (capability : L3BearerCapability) :
    capability.reread = capability ↔ capability.haveOctet3a = true := by
  have kept : capability.reread.haveOctet3a = true := by
    rw [reread]
    split <;> rfl
  constructor
  · intro same
    rw [← same]
    exact kept
  · intro octet3a
    have behind : capability.behind = capability.firstOctet3a :: capability.extendedOctets := by
      rw [L3BearerCapability.behind, if_pos octet3a]
      rfl
    rw [reread, behind, ← octet3a]

end L3BearerCapability

/-! ## Supported codecs -/

namespace L3SupportedCodecList

/-- An empty bitmap takes no octets, another one two more than its own. -/
def lengthV (list : L3SupportedCodecList) : Nat :=
  (if list.gsmCodecs = [] then 0 else 2 + list.gsmCodecs.length) +
    if list.umtsCodecs = [] then 0 else 2 + list.umtsCodecs.length

/-- Whether there is a bitmap for GSM. -/
def isGsmPresent (list : L3SupportedCodecList) : Bool :=
  list.gsmCodecs ≠ []

/-- Whether there is a bitmap for UMTS. -/
def isUmtsPresent (list : L3SupportedCodecList) : Bool :=
  list.umtsCodecs ≠ []

/-- A bitmap behind its system and its length. -/
def writeBitmap (sysId : UInt32) (codecs : List UInt8) : List Op :=
  if codecs = [] then []
  else .writeField sysId 8 :: .writeField (UInt32.ofNat codecs.length) 8 :: writeOctets codecs

/-- The bitmap of GSM, then that of UMTS. -/
def write (list : L3SupportedCodecList) : List Op :=
  writeBitmap 0 list.gsmCodecs ++ writeBitmap 4 list.umtsCodecs

theorem endPos_writeBitmap (sysId : UInt32) (codecs : List UInt8) (pos : Nat) :
    endPos pos (writeBitmap sysId codecs) =
      pos + 8 * if codecs = [] then 0 else 2 + codecs.length := by
  rw [writeBitmap]
  split
  · rfl
  · change endPos (pos + 8 + 8) (writeOctets codecs) = _
    rw [endPos_writeOctets]
    omega

theorem takes_parseBitmaps_done (rounds : Nat) (result : L3SupportedCodecList) :
    Takes (parseBitmaps rounds 0 result) [] (some result) := by
  cases rounds with
  | zero => exact Takes.pure result
  | succ rounds => exact Takes.pure result

/-- A bitmap that is written is read in a round of the loop. -/
theorem takes_bitmap {sysId : UInt32} {codecs : List UInt8} {rounds total left : Nat}
    {result final : L3SupportedCodecList} {ops : List Op} (filled : codecs ≠ [])
    (small : codecs.length < 256) (split : total = 2 + codecs.length + left) (pos : Nat)
    (rest : ∀ pos, Takes (parseBitmaps rounds left
        (if sysId.toNat % 2 ^ 8 = 0 then { result with gsmCodecs := result.gsmCodecs ++ codecs }
        else if sysId.toNat % 2 ^ 8 = 4 then
          { result with umtsCodecs := result.umtsCodecs ++ codecs }
        else result)) (fields pos ops) (some final)) :
    Takes (parseBitmaps (rounds + 1) total result)
      (fields pos (writeBitmap sysId codecs ++ ops)) (some final) := by
  have bound : codecs.length % 2 ^ 8 = codecs.length := Nat.mod_eq_of_lt small
  rw [parseBitmaps, if_pos (by omega), writeBitmap, if_neg filled]
  refine Takes.skipped (Takes.skipped ?_ (by simp)) (by simp)
  rw [stored_ofNat _ 8 (by decide), bound, Nat.min_eq_left (by omega)]
  refine (takes_writeOctets codecs _).part ?_
  have behind : total - 2 - codecs.length = left := by omega
  rw [behind]
  exact rest _

/-- The bitmap of UMTS comes back behind that of GSM. -/
theorem takes_umts {umts : List UInt8} (small : umts.length < 256) {rounds : Nat}
    (enough : umts.length ≤ rounds) {result : L3SupportedCodecList}
    (unread : result.umtsCodecs = []) (pos : Nat) :
    Takes (parseBitmaps rounds (if umts = [] then 0 else 2 + umts.length) result)
      (fields pos (writeBitmap 4 umts)) (some { result with umtsCodecs := umts }) := by
  by_cases empty : umts = []
  · rw [if_pos empty, writeBitmap, if_pos empty, empty, ← unread]
    exact takes_parseBitmaps_done rounds result
  · have filled := List.length_pos_of_ne_nil empty
    obtain ⟨rounds, rfl⟩ := Nat.exists_eq_add_one_of_ne_zero (filled.trans_le enough).ne'
    rw [if_neg empty, ← List.append_nil (writeBitmap 4 umts)]
    apply takes_bitmap empty small (Nat.add_zero _).symm
    intro pos
    rw [unread]
    exact takes_parseBitmaps_done rounds _

/-- Codec lists that fit a length octet come back as they are. -/
theorem rereads {list : L3SupportedCodecList} (small : list.lengthV < 256) :
    Rereads parse write lengthV id list where
  length pos := by
    rw [write, BitWriter.endPos_append, endPos_writeBitmap, endPos_writeBitmap, lengthV]
    omega
  takes pos := by
    obtain ⟨gsm, umts⟩ := list
    unfold lengthV at small
    dsimp only at small
    have short : umts.length < 256 := by
      by_cases none : umts = []
      · rw [none]
        exact Nat.zero_lt_succ _
      · rw [if_neg none] at small
        omega
    by_cases empty : gsm = []
    · subst empty
      have length : lengthV ⟨[], umts⟩ = if umts = [] then 0 else 2 + umts.length := Nat.zero_add _
      have enough : umts.length ≤ lengthV ⟨[], umts⟩ := by
        rw [length]
        split
        case isTrue none => rw [none, List.length_nil]
        case isFalse => exact Nat.le_add_left ..
      have takes := @takes_umts umts short _ enough {} rfl pos
      rw [← length] at takes
      exact takes
    · have length : lengthV ⟨gsm, umts⟩ =
          2 + gsm.length + if umts = [] then 0 else 2 + umts.length := by
        rw [lengthV, if_neg empty]
      rw [if_neg empty] at small
      have enough : umts.length ≤ 1 + gsm.length + if umts = [] then 0 else 2 + umts.length := by
        split
        case isTrue none =>
          rw [none]
          exact Nat.zero_le _
        case isFalse => omega
      have rounds : lengthV ⟨gsm, umts⟩ =
          1 + gsm.length + (if umts = [] then 0 else 2 + umts.length) + 1 := by
        rw [length]
        omega
      rw [parse]
      conv in parseBitmaps _ _ _ => arg 1; rw [rounds]
      apply takes_bitmap empty (by omega) length
      exact takes_umts short enough rfl

end L3SupportedCodecList

/-! ## Sub-addresses -/

namespace SubAddressItem

/-- The octets of an item are those it counts. -/
structure Formed (item : SubAddressItem) : Prop where
  sel : item.sel < 2 ^ 3
  len : item.len < 2 ^ 5
  data : item.data.length = item.len

/-- The selector in the upper three bits, the length in the lower five. -/
def octet (item : SubAddressItem) : Nat :=
  (item.sel &&& 0x07) <<< 5 ||| item.len &&& 0x1f

/-- The octet of the item, then its octets. -/
def write (item : SubAddressItem) : List Op :=
  .writeField (UInt32.ofNat item.octet) 8 :: writeOctets item.data

/-- Selector and length can be told apart in the octet. -/
theorem unpacked (sel : Nat) (sel_small : sel < 2 ^ 3) (len : Nat) (len_small : len < 2 ^ 5) :
    let octet := (sel &&& 0x07) <<< 5 ||| len &&& 0x1f
    octet < 2 ^ 8 ∧ octet >>> 5 &&& 0x07 = sel ∧ octet &&& 0x1f = len := by
  revert sel len
  decide

end SubAddressItem

namespace L3SubAddress

/-- The octets of items. -/
def size (items : List SubAddressItem) : Nat :=
  (items.map fun item => 1 + item.len).sum

/-- The number of items and the items. -/
def lengthV (address : L3SubAddress) : Nat :=
  1 + size address.items

/-- The number of items, then the items. -/
def write (address : L3SubAddress) : List Op :=
  .writeField (UInt32.ofNat address.items.length) 8 :: address.items.flatMap SubAddressItem.write

/-- The items are formed, and the last one has octets. -/
structure Formed (address : L3SubAddress) : Prop where
  items : ∀ item ∈ address.items, item.Formed
  last : ∀ item ∈ address.items.getLast?, 0 < item.len

theorem size_cons (item : SubAddressItem) (items : List SubAddressItem) :
    size (item :: items) = 1 + item.len + size items := by
  rw [size, List.map_cons, List.sum_cons, size]

theorem endPos_items {items : List SubAddressItem} (formed : ∀ item ∈ items, item.Formed)
    (pos : Nat) : endPos pos (items.flatMap SubAddressItem.write) = pos + 8 * size items := by
  induction items generalizing pos with
  | nil => rfl
  | cons item items ih =>
      have counted := (formed item List.mem_cons_self).data
      rw [List.flatMap_cons, BitWriter.endPos_append, size_cons,
        ih fun item member => formed item (List.mem_cons_of_mem _ member)]
      change endPos (pos + 8) (writeOctets item.data) + _ = _
      rw [endPos_writeOctets, counted]
      omega

/-- All items are read: behind each but the last one there is another. -/
theorem takes_items {items : List SubAddressItem} (formed : ∀ item ∈ items, item.Formed)
    (last : ∀ item ∈ items.getLast?, 0 < item.len) (pos : Nat) :
    Takes (parseItems items.length (size items))
      (fields pos (items.flatMap SubAddressItem.write)) (some items) := by
  induction items generalizing pos with
  | nil => exact Takes.pure []
  | cons item items ih =>
      have own := formed item List.mem_cons_self
      obtain ⟨small, sel, len⟩ := SubAddressItem.unpacked item.sel own.sel item.len own.len
      have two : 2 ≤ size (item :: items) := by
        cases items with
        | nil =>
            have := last item rfl
            rw [size_cons]
            omega
        | cons next items =>
            rw [size_cons, size_cons]
            omega
      have later : ∀ item ∈ items.getLast?, 0 < item.len := by
        intro other member
        apply last
        rw [List.getLast?_cons, Option.mem_def.mp member]
        rfl
      have rest (pos : Nat) :=
        ih (fun item member => formed item (List.mem_cons_of_mem _ member)) later pos
      have inside : min item.len (size (item :: items) - 1) = item.len := by
        rw [size_cons]
        omega
      have behind : size (item :: items) - 1 - item.len = size items := by
        rw [size_cons]
        omega
      have data (pos : Nat) :
          Takes (readOctets item.len) (fields pos (writeOctets item.data)) (some item.data) := by
        rw [← own.data]
        exact takes_writeOctets item.data pos
      rw [List.length_cons, parseItems, if_pos two, List.flatMap_cons]
      refine Takes.skipped ?_ (by simp)
      rw [stored_ofNat _ 8 (by decide), SubAddressItem.octet, Nat.mod_eq_of_lt small, sel, len,
        inside]
      dsimp only
      rw [behind]
      exact (data _).part ((rest _).yield (item :: ·))

/-- Formed subaddresses that fit a length octet come back as they are. -/
theorem rereads {address : L3SubAddress} (formed : address.Formed)
    (small : address.lengthV < 256) : Rereads parse write lengthV id address where
  length pos := by
    change endPos (pos + 8) _ = _
    rw [endPos_items formed.items, lengthV]
    omega
  takes pos := by
    have few : address.items.length ≤ size address.items := by
      rw [size, ← List.length_map fun item : SubAddressItem => 1 + item.len]
      apply List.length_le_sum_of_one_le
      intro octets member
      obtain ⟨item, -, rfl⟩ := List.mem_map.mp member
      exact Nat.le_add_right 1 _
    unfold lengthV at small
    have octets : oneLess address.lengthV = size address.items := by
      unfold oneLess lengthV
      omega
    refine Takes.skipped ?_ (by simp)
    rw [stored_ofNat _ 8 (by decide), Nat.mod_eq_of_lt (by omega), octets]
    exact (takes_items formed.items formed.last _).yield _

end L3SubAddress

/-! ## Causes -/

namespace L3CauseElement

/-- Location and cause that reading gets back, cut to their fields. -/
def reread (element : L3CauseElement) : L3CauseElement where
  location := element.location % 2 ^ 4
  cause := element.cause % 2 ^ 7

/-- Location and cause come back, cut to their fields. -/
theorem rereads (element : L3CauseElement) :
    Rereads (fun _ => parse) write (fun _ => 2) reread element where
  length pos := rfl
  takes pos := by
    refine Takes.skipped (Takes.skipped (Takes.skipped (Takes.skipped (Takes.skipped
      (Takes.skipped ?_ (by simp)) (by simp)) (by simp)) (by simp)) (by simp)) (by simp)
    rw [stored_ofNat _ 4 (by decide), stored_ofNat _ 7 (by decide), if_neg (by decide)]
    exact Takes.pure _

end L3CauseElement

end Gsml3
