import Gsml3.GMM.Messages
import Gsml3.MM.ReEmission

/-!
# GPRS mobility messages written again

A body that is accepted is written with its announced length, whatever elements it had and in
which order, and what is written is accepted as the same message, unless the identity that was
read last loses a digit.
-/

namespace Gsml3

open BitWriter (Op fields endPos)
open FieldParser
open Foundation (bitString valueBits)
open Stack (L3LocationAreaIdentity L3MobileIdentity)
open Stack.L3MobileIdentity (DigitsKept Framed Parsed behind readIdentity reread)

/-! ## Elements -/

namespace FieldParser

theorem readArray_eq {count : Nat} {octets : List UInt8} (size : octets.length = count) :
    (Vector.ofFn fun i : Fin count => octets.getD i 0).toList = octets := by
  apply List.ext_getElem
  · rw [Vector.length_toList, size]
  · intro i _ inside
    rw [Vector.getElem_toList, Vector.getElem_ofFn, List.getD_eq_getElem _ _ inside]

/-- An array of octets comes back. -/
theorem takes_readArray {count : Nat} (octets : Vector UInt8 count) :
    Takes (readArray count) (bitString octets.toList) (some octets) := by
  have takes := takes_readBytes octets.toList
  rw [Vector.length_toList] at takes
  have same : (Vector.ofFn fun i : Fin count => octets.toList.getD i 0) = octets :=
    Vector.toList_inj.mp (readArray_eq octets.length_toList)
  have read := takes.yield fun octets => Vector.ofFn fun i : Fin count => octets.getD i 0
  rwa [Option.map_some, same] at read

theorem takes_writeArray {count : Nat} (octets : Vector UInt8 count) (pos : Nat) :
    Takes (readArray count) (fields pos [.writeBytes octets.toList]) (some octets) :=
  Takes.single (takes_readArray octets)

theorem ensures_readBytes (count : Nat) :
    Ensures (readBytes count) fun octets read =>
      octets.length = count ∧ read = bitString octets := by
  intro before after octets next run
  have enough : 8 * count ≤ after.length := by
    by_contra short
    have refused : (BitCursor.between before after).bits.length <
        (BitCursor.between before after).pos + 8 * count := by
      rw [BitCursor.between, List.length_append]
      exact Nat.add_lt_add_left (Nat.lt_of_not_le short) _
    rw [readBytes, if_neg (by omega), if_pos refused] at run
    cases run
  obtain ⟨front, size, bits⟩ := exists_octets (List.length_take_of_le enough)
  have split := List.take_append_drop (8 * count) after
  have takes := Steady.of_takes (takes_readBytes front) before (after.drop (8 * count))
  rw [← bits, split, size, run] at takes
  obtain ⟨rfl, rfl⟩ := Prod.mk.inj (Except.ok.inj takes)
  exact ⟨_, _, split.symm, rfl, size, bits⟩

/-- An array that is read is its octets. -/
theorem ensures_readArray (count : Nat) :
    Ensures (readArray count) fun octets read => read = bitString octets.toList := by
  refine (ensures_readBytes count).bind fun octets read holds => Ensures.pure ?_
  rw [List.append_nil, readArray_eq holds.1]
  exact holds.2

end FieldParser

namespace L3RoutingAreaIdentification

/-- The digits of the area fit their half octets. -/
def Canonical (rai : L3RoutingAreaIdentification) : Prop :=
  rai.toL3LocationAreaIdentity.Canonical

/-- Canonical identifications come back. -/
theorem takes_write {rai : L3RoutingAreaIdentification} (canonical : rai.Canonical) (pos : Nat) :
    Takes parse (fields pos rai.write) (some rai) := by
  refine Takes.part (L3LocationAreaIdentity.codec.takes _ canonical pos) ?_
  exact Takes.narrow (Takes.pure rai) rai.rac.toNat_lt (by simp)

theorem ensures_parse :
    Ensures parse fun rai read =>
      rai.Canonical ∧ ∃ octets, octets.length = lengthV ∧ read = bitString octets := by
  refine L3LocationAreaIdentity.ensures_parse.bind fun lai read area => ?_
  refine (ensures_readNarrow 8 (by simp)).bind fun rac more code => Ensures.pure ?_
  obtain ⟨canonical, octets, size, rfl⟩ := area
  obtain ⟨octet, rfl⟩ := exists_octet code.2
  refine ⟨canonical, octets ++ [octet], ?_, ?_⟩
  · rw [List.length_append, size]
    rfl
  · rw [List.append_nil, Foundation.bitString_append]

end L3RoutingAreaIdentification

namespace GprsTimerValue

/-- The value of an octet. -/
def ofOctet (octet : UInt8) : GprsTimerValue where
  units := (octet >>> 5) &&& 0x07
  value := octet &&& 0x1F

/-- A timer holds its octet. -/
theorem octet_ofOctet : ∀ octet, (ofOctet octet).octet = octet := by
  apply Foundation.forall_octet
  decide

/-- Every timer comes back. -/
theorem takes_write (octet : UInt8) (pos : Nat) :
    Takes parse (fields pos (ofOctet octet).write) (some (ofOctet octet)) := by
  rw [write, octet_ofOctet]
  exact Takes.narrow (Takes.pure (ofOctet octet)) octet.toNat_lt (by simp)

theorem ensures_parse :
    Ensures parse fun timer read => ∃ octet, timer = ofOctet octet ∧ read = bitString [octet] := by
  refine ensures_readOctet_eq.bind fun octet read whole => Ensures.pure ?_
  rw [List.append_nil]
  exact ⟨octet, rfl, whole⟩

end GprsTimerValue

/-! ## The elements of a message -/

/-- How many octets stand behind an identifier. -/
def valueSize (iei : Nat) (octets : List UInt8) : Nat :=
  match iei with
  | 0x17 => 2
  | 0x18 => octets.length - (behind octets).length
  | 0x19 => 3
  | 0x25 => 1
  | 0x32 => 3
  | _ => 0

/-- No digit is lost of the identity that was read last. -/
def LastKept (read : List (Nat × List UInt8)) : Prop :=
  ∀ element ∈ read.find? fun element => element.1 == 0x18, DigitsKept element.2

section Identity

variable {read : List (Nat × List UInt8)} {octets : List UInt8} {iei : Nat}

/-- The last identity decides. -/
theorem lastKept_identity : LastKept ((0x18, octets) :: read) ↔ DigitsKept octets := by
  have first : ((0x18, octets) :: read).find? (fun element => element.1 == 0x18) =
      some (0x18, octets) := List.find?_cons_of_pos rfl
  rw [LastKept, first]
  simp only [Option.mem_some_iff, forall_eq']

/-- Another element does not decide. -/
theorem lastKept_other (differs : iei ≠ 0x18) :
    LastKept ((iei, octets) :: read) ↔ LastKept read := by
  rw [LastKept, List.find?_cons_of_neg (by simpa using differs)]
  rfl

/-- The identity of the elements that were read. -/
structure IdentityFound (read : List (Nat × List UInt8)) (havePTMSI : Bool)
    (ptmsi : L3MobileIdentity) : Prop where
  slot : Slot read 0x18 havePTMSI ptmsi {}
  parsed : Parsed ptmsi
  kept : rereadIdentity ptmsi = ptmsi ↔ LastKept read

namespace IdentityFound

variable {havePTMSI : Bool} {ptmsi : L3MobileIdentity}

theorem empty : IdentityFound [] false {} where
  slot := .empty
  parsed := ⟨rfl, rfl⟩
  kept := iff_of_true rfl fun _ none => by cases none

/-- Another element leaves the identity found. -/
theorem other (found : IdentityFound read havePTMSI ptmsi) (differs : iei ≠ 0x18) :
    IdentityFound ((iei, octets) :: read) havePTMSI ptmsi where
  slot := found.slot.other differs
  parsed := found.parsed
  kept := found.kept.trans (lastKept_other differs).symm

end IdentityFound

/-- An identity is found whatever was read before. -/
theorem ensures_identityFound :
    Ensures readIdentity fun ptmsi bits => ∃ octets, bits = bitString octets ∧
      ∀ read more, valueSize 0x18 (octets ++ more) = octets.length ∧
        IdentityFound ((0x18, octets ++ more) :: read) true ptmsi := by
  refine L3MobileIdentity.ensures_readIdentity.mono fun ptmsi bits holds => ?_
  obtain ⟨octets, rfl, framed, parsed, kept⟩ := holds
  refine ⟨octets, rfl, fun read more => ⟨?_, .filled, parsed, ?_⟩⟩
  · rw [valueSize, L3MobileIdentity.behind_append framed, List.length_append, Nat.add_sub_cancel]
  · rw [rereadIdentity_eq_iff, kept, lastKept_identity, L3MobileIdentity.digitsKept_append framed]

end Identity

/-- What a message is made of: its leading part, the elements behind that, and the octets that are
left. -/
theorem parse_tagged {σ β : Type} {leading : FieldParser σ} {elements : List (TaggedElement σ)}
    {withTail : σ → List UInt8 → β} {message : String} {count : Nat} {starts : σ → Prop}
    {once : Bool} {holds : σ → List (Nat × List UInt8) → σ → Prop} {octets : List UInt8} {msg : β}
    (leads : Ensures leading fun start read =>
      starts start ∧ ∃ front, front.length = count ∧ read = bitString front)
    (follows : ∀ start, Follows elements valueSize once (holds start))
    (begins : ∀ start, starts start → holds start [] start)
    (parsed : parse (do
      let start ← leading
      let state ← readTaggedElements elements start
      let tail ← readOpaqueTail message
      pure (withTail state tail)) octets = some msg) :
    ∃ start state tail, starts start ∧ msg = withTail state tail ∧
      Unannounced elements state tail ∧
      holds start (elementsRead (elements.map TaggedElement.iei) valueSize once []
        (octets.drop count)) state := by
  have leaves : Leaves (do
      let start ← leading
      let state ← readTaggedElements elements start
      let tail ← readOpaqueTail message
      pure (withTail state tail)) fun msg read rest => rest = [] ∧
        (bitString octets = read → ∃ start state tail, starts start ∧ msg = withTail state tail ∧
          Unannounced elements state tail ∧
          holds start (elementsRead (elements.map TaggedElement.iei) valueSize once []
            (octets.drop count)) state) := by
    refine leads.leaves.bind fun start _ => ?_
    refine (follows start).leaves.bind fun state body => ?_
    refine (leaves_tail message).bind fun tail more => Leaves.pure fun rest ended loop head => ?_
    obtain ⟨rfl, rfl⟩ := ended
    obtain ⟨begun, front, size, rfl⟩ := head
    refine ⟨rfl, fun bits => ?_⟩
    have whole : bitString octets = bitString front ++ (body ++ bitString tail) := by
      rw [bits, List.append_nil]
    obtain ⟨later, rfl, body_bits⟩ := exists_behind whole
    obtain ⟨left, same, stops, kept⟩ := loop later (begins start begun) (by
      rw [← body_bits, List.append_nil, List.append_nil])
    rw [List.append_nil, List.append_nil] at same
    obtain rfl := bitString_injective same
    rw [List.drop_left' size]
    exact ⟨start, state, tail, begun, rfl, stops, kept⟩
  obtain ⟨read, rest, bits, rfl, holds⟩ := parse_leaves leaves parsed
  exact holds (bits.trans (List.append_nil read))

/-! ## Attach accept -/

namespace L3AttachAccept

/-- The message of these octets and elements in front. -/
def ofOctets (first : UInt8) (raUpdateTimer : GprsTimerValue) (third : UInt8)
    (rai : L3RoutingAreaIdentification) : L3AttachAccept where
  forceToStandby := (first >>> 4) &&& 0x01 != 0
  attachResult := first &&& 0x0F
  raUpdateTimer := raUpdateTimer
  radioPrioritySms := (third >>> 4) &&& 0x0F
  radioPriorityTom8 := third &&& 0x0F
  rai := rai

/-- The message without its optional elements. -/
def leadingPart (msg : L3AttachAccept) : L3AttachAccept where
  attachResult := msg.attachResult
  forceToStandby := msg.forceToStandby
  raUpdateTimer := msg.raUpdateTimer
  radioPrioritySms := msg.radioPrioritySms
  radioPriorityTom8 := msg.radioPriorityTom8
  rai := msg.rai

theorem endPos_write (msg : L3AttachAccept) : endPos 0 msg.write = msg.bodyLength * 8 := by
  rw [write, bodyLength]
  cases msg.havePtmsiSignature <;> cases msg.haveReadyTimer <;> cases msg.havePTMSI <;>
    simp [Op.width, writeLeading, GprsTimerValue.write, L3RoutingAreaIdentification.write,
      L3RoutingAreaIdentification.lengthV, L3LocationAreaIdentity.write, writeIdentity] <;>
    omega

/-- What the first octet keeps of another one is written again. -/
theorem first_written : ∀ first : UInt8,
    ((((if (first >>> 4) &&& 0x01 != 0 then (1 : UInt32) else 0) <<< 4) |||
      ((first &&& 0x0F).toUInt32 &&& 0x0F)) = (first &&& 0x1F).toUInt32) ∧
    ((first &&& 0x1F) >>> 4) &&& (0x01 : UInt8) = (first >>> 4) &&& (0x01 : UInt8) ∧
    (first &&& 0x1F) &&& 0x0F = first &&& 0x0F := by
  apply Foundation.forall_octet
  decide

/-- The two priorities are put back into their octet. -/
theorem third_written : ∀ third : UInt8,
    ((((third >>> 4) &&& 0x0F).toUInt32 &&& 0x0F) <<< 4) |||
      ((third &&& 0x0F).toUInt32 &&& 0x0F) = third.toUInt32 := by
  apply Foundation.forall_octet
  decide

/-- A leading part that is returned. -/
def Leading (start : L3AttachAccept) : Prop :=
  ∃ first timer third rai, start = ofOctets first (.ofOctet timer) third rai ∧ rai.Canonical

/-- The mandatory part comes back. -/
theorem takes_writeLeading {start : L3AttachAccept} (leading : start.Leading) (pos : Nat) :
    Takes parseLeading (fields pos start.writeLeading) (some start) := by
  obtain ⟨first, timer, third, rai, rfl, canonical⟩ := leading
  obtain ⟨written, flag, low⟩ := first_written first
  rw [writeLeading, ofOctets, written, third_written, parseLeading]
  simp only [List.append_assoc, List.cons_append, List.nil_append]
  refine Takes.narrow ?_ (first &&& 0x1F).toNat_lt (by simp)
  refine Takes.part (GprsTimerValue.takes_write timer _) ?_
  refine Takes.narrow ?_ third.toNat_lt (by simp)
  rw [flag, low]
  exact (L3RoutingAreaIdentification.takes_write canonical _).yield _

theorem ensures_parseLeading :
    Ensures parseLeading fun start read =>
      start.Leading ∧ ∃ front, front.length = 9 ∧ read = bitString front := by
  refine ensures_readOctet_eq.bind fun first _ one => ?_
  refine GprsTimerValue.ensures_parse.bind fun timer _ two => ?_
  refine ensures_readOctet_eq.bind fun third _ three => ?_
  refine L3RoutingAreaIdentification.ensures_parse.bind fun rai _ four => Ensures.pure ?_
  obtain ⟨octet, rfl, rfl⟩ := two
  obtain ⟨canonical, area, size, rfl⟩ := four
  refine ⟨⟨first, octet, third, rai, rfl, canonical⟩, [first, octet, third] ++ area, ?_, ?_⟩
  · rw [List.length_append, size]
    rfl
  · rw [one, three, List.append_nil]
    simp only [← Foundation.bitString_append]
    rfl

/-- What the elements that were read made of a leading part. -/
structure Found (start : L3AttachAccept) (read : List (Nat × List UInt8)) (msg : L3AttachAccept) :
    Prop where
  leading : msg.leadingPart = start
  signature : Slot read 0x19 msg.havePtmsiSignature msg.ptmsiSignature (.replicate 3 0)
  readyTimer : Slot read 0x17 msg.haveReadyTimer msg.readyTimer (.replicate 2 0)
  identity : IdentityFound read msg.havePTMSI msg.ptmsi

theorem found_leading {start : L3AttachAccept} (leading : start.Leading) : Found start [] start := by
  obtain ⟨first, timer, third, rai, rfl, -⟩ := leading
  exact ⟨rfl, .empty, .empty, .empty⟩

/-- What was found keeps its form with each element that is read. -/
theorem follows (start : L3AttachAccept) : Follows elements valueSize true (Found start) where
  wanted := by
    intro read state found element member
    simp only [elements, List.mem_cons, List.not_mem_nil, or_false] at member
    rcases member with rfl | rfl | rfl
    · exact found.signature.wanted
    · exact found.readyTimer.wanted
    · exact found.identity.slot.wanted
  reads := by
    intro state element member
    simp only [elements, List.mem_cons, List.not_mem_nil, or_false] at member
    rcases member with rfl | rfl | rfl
    · refine (ensures_readArray 3).bind fun signature bits whole => Ensures.pure ?_
      refine ⟨signature.toList, by rw [List.append_nil, whole], fun read found more => ?_⟩
      refine ⟨signature.length_toList.symm, found.leading, .filled, ?_, ?_⟩
      · exact found.readyTimer.other (by decide)
      · exact found.identity.other (by decide)
    · refine (ensures_readArray 2).bind fun timer bits whole => Ensures.pure ?_
      refine ⟨timer.toList, by rw [List.append_nil, whole], fun read found more => ?_⟩
      refine ⟨timer.length_toList.symm, found.leading, ?_, .filled, ?_⟩
      · exact found.signature.other (by decide)
      · exact found.identity.other (by decide)
    · refine ensures_identityFound.bind fun ptmsi bits holds => Ensures.pure ?_
      obtain ⟨octets, rfl, reads⟩ := holds
      refine ⟨octets, List.append_nil _, fun read found more => ?_⟩
      obtain ⟨size, identity⟩ := reads read more
      refine ⟨size, found.leading, ?_, ?_, identity⟩
      · exact found.signature.other (by decide)
      · exact found.readyTimer.other (by decide)

/-- A message as far as it is read again behind each of its elements. -/
def withSignature (msg : L3AttachAccept) : L3AttachAccept :=
  { msg.leadingPart with
    havePtmsiSignature := msg.havePtmsiSignature, ptmsiSignature := msg.ptmsiSignature }

/-- The message up to its ready timer. -/
def withReadyTimer (msg : L3AttachAccept) : L3AttachAccept :=
  { msg.withSignature with haveReadyTimer := msg.haveReadyTimer, readyTimer := msg.readyTimer }

/-- The elements are written in an order of their own, and each is read again. -/
theorem takesAll_write {start msg : L3AttachAccept} {read : List (Nat × List UInt8)}
    {tail : List UInt8} (leading : start.Leading) (found : Found start read msg)
    (stops : Unannounced elements msg tail) :
    TakesAll parse (fields 0 (write { msg with additionalIes := tail }))
      (some { msg with ptmsi := rereadIdentity msg.ptmsi, additionalIes := tail }) := by
  obtain ⟨rfl, signature, readyTimer, identity⟩ := found
  have first : ∀ pos, msg.havePtmsiSignature = true →
      Takes (do
        let ptmsiSignature ← readArray 3
        pure { msg.leadingPart with havePtmsiSignature := true, ptmsiSignature })
        (fields pos [.writeBytes msg.ptmsiSignature.toList]) (some msg.withSignature) := by
    intro pos present
    rw [withSignature, present]
    exact (takes_writeArray msg.ptmsiSignature pos).yield _
  have second : ∀ pos, msg.haveReadyTimer = true →
      Takes (do
        let readyTimer ← readArray 2
        pure { msg.withSignature with haveReadyTimer := true, readyTimer })
        (fields pos [.writeBytes msg.readyTimer.toList]) (some msg.withReadyTimer) := by
    intro pos present
    rw [withReadyTimer, present]
    exact (takes_writeArray msg.readyTimer pos).yield _
  have third : ∀ pos, msg.havePTMSI = true →
      Takes (do
        let ptmsi ← readIdentity
        pure { msg.withReadyTimer with havePTMSI := true, ptmsi })
        (fields pos (writeIdentity msg.ptmsi)) (some { msg.withReadyTimer with
          havePTMSI := msg.havePTMSI, ptmsi := rereadIdentity msg.ptmsi }) := by
    intro pos present
    rw [present]
    exact (L3MobileIdentity.takes_writeIdentity identity.parsed pos).yield _
  rw [write, parse]
  simp only [List.append_assoc]
  refine Takes.part_all (takes_writeLeading leading 0) (TakesElements.start ?_)
  apply TakesElements.present (show valueBits 8 (0x19 : UInt32).toNat = bitString [0x19] from rfl)
    (fun _ => rfl) (first _)
  · intro none
    rw [withSignature, none, signature.absent none]
    rfl
  apply TakesElements.present (show valueBits 8 (0x17 : UInt32).toNat = bitString [0x17] from rfl)
    (fun _ => rfl) (second _)
  · intro none
    rw [withReadyTimer, none, readyTimer.absent none]
    rfl
  apply TakesElements.present (show valueBits 8 (0x18 : UInt32).toNat = bitString [0x18] from rfl)
    (fun _ => rfl) (third _)
  · intro none
    rw [none, identity.slot.absent none]
    rfl
  rw [fields_writeOctets]
  refine TakesElements.done stops ?_
  exact (takesAll_tail _ tail).yield _

/-- An accepted message is its leading part with the elements found behind it. -/
theorem parse_found {octets : List UInt8} {msg : L3AttachAccept}
    (parsed : FieldParser.parse parse octets = some msg) :
    ∃ start state tail, Leading start ∧ msg = { state with additionalIes := tail } ∧
      Unannounced elements state tail ∧
      Found start (elementsRead [0x19, 0x17, 0x18] valueSize true [] (octets.drop 9)) state :=
  parse_tagged ensures_parseLeading follows (fun _ => found_leading) parsed

/-- An accepted message is accepted again behind its writer exactly when its last identity is kept.
-/
theorem reEncodes_iff {octets : List UInt8} {msg : L3AttachAccept}
    (parsed : FieldParser.parse parse octets = some msg) :
    ReEncodes parse msg.write msg.bodyLength msg ↔
      LastKept (elementsRead [0x19, 0x17, 0x18] valueSize true [] (octets.drop 9)) := by
  obtain ⟨start, state, tail, leading, rfl, stops, found⟩ := parse_found parsed
  have again := takesAll_write leading found stops
  refine (reEncodes_iff_again again (endPos_write _)).trans (Iff.trans ?_ found.identity.kept)
  constructor
  · exact congrArg ptmsi
  · intro same
    rw [same]

end L3AttachAccept

/-! ## Routing area update accept -/

namespace L3RoutingAreaUpdateAccept

/-- The message of these octets and elements in front. -/
def ofOctets (first : UInt8) (raUpdateTimer : GprsTimerValue) (rai : L3RoutingAreaIdentification) :
    L3RoutingAreaUpdateAccept where
  updateResult := (first >>> 1) &&& 0x07
  forceToStandby := first &&& 0x01 != 0
  raUpdateTimer := raUpdateTimer
  rai := rai

/-- The message without its optional elements. -/
def leadingPart (msg : L3RoutingAreaUpdateAccept) : L3RoutingAreaUpdateAccept where
  forceToStandby := msg.forceToStandby
  updateResult := msg.updateResult
  raUpdateTimer := msg.raUpdateTimer
  rai := msg.rai

theorem endPos_write (msg : L3RoutingAreaUpdateAccept) :
    endPos 0 msg.write = msg.bodyLength * 8 := by
  rw [write, bodyLength]
  cases msg.havePtmsiSignature <;> cases msg.havePTMSI <;> cases msg.haveReadyTimer <;>
    cases msg.havePdpContextStatus <;>
    simp [Op.width, writeLeading, GprsTimerValue.write, L3RoutingAreaIdentification.write,
      L3RoutingAreaIdentification.lengthV, L3LocationAreaIdentity.write, writeIdentity] <;>
    omega

/-- What the first octet keeps of another one is written again. -/
theorem first_written : ∀ first : UInt8,
    ((((first >>> 1) &&& 0x07).toUInt32 &&& 0x07) <<< 1) |||
      (if first &&& 0x01 != 0 then (1 : UInt32) else 0) = (first &&& 0x0F).toUInt32 ∧
    ((first &&& 0x0F) >>> 1) &&& (0x07 : UInt8) = (first >>> 1) &&& (0x07 : UInt8) ∧
    (first &&& 0x0F) &&& 0x01 = first &&& 0x01 := by
  apply Foundation.forall_octet
  decide

/-- A leading part that is returned. -/
def Leading (start : L3RoutingAreaUpdateAccept) : Prop :=
  ∃ first timer rai, start = ofOctets first (.ofOctet timer) rai ∧ rai.Canonical

/-- The mandatory part comes back. -/
theorem takes_writeLeading {start : L3RoutingAreaUpdateAccept} (leading : start.Leading)
    (pos : Nat) : Takes parseLeading (fields pos start.writeLeading) (some start) := by
  obtain ⟨first, timer, rai, rfl, canonical⟩ := leading
  obtain ⟨written, result, flag⟩ := first_written first
  rw [writeLeading, ofOctets, written, parseLeading]
  simp only [List.cons_append, List.nil_append]
  refine Takes.narrow ?_ (first &&& 0x0F).toNat_lt (by simp)
  refine Takes.part (GprsTimerValue.takes_write timer _) ?_
  rw [result, flag]
  exact (L3RoutingAreaIdentification.takes_write canonical _).yield _

theorem ensures_parseLeading :
    Ensures parseLeading fun start read =>
      start.Leading ∧ ∃ front, front.length = 8 ∧ read = bitString front := by
  refine ensures_readOctet_eq.bind fun first _ one => ?_
  refine GprsTimerValue.ensures_parse.bind fun timer _ two => ?_
  refine L3RoutingAreaIdentification.ensures_parse.bind fun rai _ three => Ensures.pure ?_
  obtain ⟨octet, rfl, rfl⟩ := two
  obtain ⟨canonical, area, size, rfl⟩ := three
  refine ⟨⟨first, octet, rai, rfl, canonical⟩, [first, octet] ++ area, ?_, ?_⟩
  · rw [List.length_append, size]
    rfl
  · rw [one, List.append_nil]
    simp only [← Foundation.bitString_append]
    rfl

/-- A context status comes back behind its length octet. -/
theorem takes_writeStatus (status : Vector UInt8 2) (pos : Nat) :
    Takes readPdpContextStatus (fields pos
      [.writeField (UInt32.ofNat pdpContextStatusLength) 8, .writeBytes status.toList])
      (some status) := by
  refine Takes.skipped ?_ (by simp)
  have same : (UInt32.ofNat pdpContextStatusLength).toNat % 2 ^ 8 = pdpContextStatusLength := rfl
  rw [if_pos same]
  exact takes_writeArray status _

theorem ensures_readPdpContextStatus :
    Ensures readPdpContextStatus fun status read =>
      ∃ length, read = bitString (length :: status.toList) := by
  refine (ensures_readField 8).bind fun length front octet => ?_
  obtain ⟨first, rfl⟩ := exists_octet octet.1
  split
  case isTrue =>
    refine (ensures_readArray 2).mono fun status read whole => ⟨first, ?_⟩
    rw [whole, ← Foundation.bitString_append]
    rfl
  case isFalse => exact Ensures.throw _

/-- What the elements that were read made of a leading part. -/
structure Found (start : L3RoutingAreaUpdateAccept) (read : List (Nat × List UInt8))
    (msg : L3RoutingAreaUpdateAccept) : Prop where
  leading : msg.leadingPart = start
  signature : Slot read 0x19 msg.havePtmsiSignature msg.ptmsiSignature (.replicate 3 0)
  identity : IdentityFound read msg.havePTMSI msg.ptmsi
  readyTimer : Slot read 0x17 msg.haveReadyTimer msg.readyTimer (.replicate 2 0)
  status : Slot read 0x32 msg.havePdpContextStatus msg.pdpContextStatus (.replicate 2 0)

theorem found_leading {start : L3RoutingAreaUpdateAccept} (leading : start.Leading) :
    Found start [] start := by
  obtain ⟨first, timer, rai, rfl, -⟩ := leading
  exact ⟨rfl, .empty, .empty, .empty, .empty⟩

/-- What was found keeps its form with each element that is read. -/
theorem follows (start : L3RoutingAreaUpdateAccept) :
    Follows elements valueSize true (Found start) where
  wanted := by
    intro read state found element member
    simp only [elements, List.mem_cons, List.not_mem_nil, or_false] at member
    rcases member with rfl | rfl | rfl | rfl
    · exact found.signature.wanted
    · exact found.identity.slot.wanted
    · exact found.readyTimer.wanted
    · exact found.status.wanted
  reads := by
    intro state element member
    simp only [elements, List.mem_cons, List.not_mem_nil, or_false] at member
    rcases member with rfl | rfl | rfl | rfl
    · refine (ensures_readArray 3).bind fun signature bits whole => Ensures.pure ?_
      refine ⟨signature.toList, by rw [List.append_nil, whole], fun read found more => ?_⟩
      refine ⟨signature.length_toList.symm, found.leading, .filled, ?_, ?_, ?_⟩
      · exact found.identity.other (by decide)
      · exact found.readyTimer.other (by decide)
      · exact found.status.other (by decide)
    · refine ensures_identityFound.bind fun ptmsi bits holds => Ensures.pure ?_
      obtain ⟨octets, rfl, reads⟩ := holds
      refine ⟨octets, List.append_nil _, fun read found more => ?_⟩
      obtain ⟨size, identity⟩ := reads read more
      refine ⟨size, found.leading, ?_, identity, ?_, ?_⟩
      · exact found.signature.other (by decide)
      · exact found.readyTimer.other (by decide)
      · exact found.status.other (by decide)
    · refine (ensures_readArray 2).bind fun timer bits whole => Ensures.pure ?_
      refine ⟨timer.toList, by rw [List.append_nil, whole], fun read found more => ?_⟩
      refine ⟨timer.length_toList.symm, found.leading, ?_, ?_, .filled, ?_⟩
      · exact found.signature.other (by decide)
      · exact found.identity.other (by decide)
      · exact found.status.other (by decide)
    · refine ensures_readPdpContextStatus.bind fun status bits whole => Ensures.pure ?_
      obtain ⟨length, rfl⟩ := whole
      refine ⟨length :: status.toList, List.append_nil _, fun read found more => ?_⟩
      refine ⟨?_, found.leading, ?_, ?_, ?_, .filled⟩
      · exact congrArg (· + 1) status.length_toList.symm
      · exact found.signature.other (by decide)
      · exact found.identity.other (by decide)
      · exact found.readyTimer.other (by decide)

/-- A message as far as it is read again behind each of its elements. -/
def withSignature (msg : L3RoutingAreaUpdateAccept) : L3RoutingAreaUpdateAccept :=
  { msg.leadingPart with
    havePtmsiSignature := msg.havePtmsiSignature, ptmsiSignature := msg.ptmsiSignature }

/-- The message up to its identity, as reading gets it back. -/
def withIdentity (msg : L3RoutingAreaUpdateAccept) : L3RoutingAreaUpdateAccept :=
  { msg.withSignature with havePTMSI := msg.havePTMSI, ptmsi := rereadIdentity msg.ptmsi }

/-- The message up to its ready timer. -/
def withReadyTimer (msg : L3RoutingAreaUpdateAccept) : L3RoutingAreaUpdateAccept :=
  { msg.withIdentity with haveReadyTimer := msg.haveReadyTimer, readyTimer := msg.readyTimer }

/-- The elements are written in an order of their own, and each is read again. -/
theorem takesAll_write {start msg : L3RoutingAreaUpdateAccept} {read : List (Nat × List UInt8)}
    {tail : List UInt8} (leading : start.Leading) (found : Found start read msg)
    (stops : Unannounced elements msg tail) :
    TakesAll parse (fields 0 (write { msg with additionalIes := tail }))
      (some { msg with ptmsi := rereadIdentity msg.ptmsi, additionalIes := tail }) := by
  obtain ⟨rfl, signature, identity, readyTimer, status⟩ := found
  have first : ∀ pos, msg.havePtmsiSignature = true →
      Takes (do
        let ptmsiSignature ← readArray 3
        pure { msg.leadingPart with havePtmsiSignature := true, ptmsiSignature })
        (fields pos [.writeBytes msg.ptmsiSignature.toList]) (some msg.withSignature) := by
    intro pos present
    rw [withSignature, present]
    exact (takes_writeArray msg.ptmsiSignature pos).yield _
  have second : ∀ pos, msg.havePTMSI = true →
      Takes (do
        let ptmsi ← readIdentity
        pure { msg.withSignature with havePTMSI := true, ptmsi })
        (fields pos (writeIdentity msg.ptmsi)) (some msg.withIdentity) := by
    intro pos present
    rw [withIdentity, present]
    exact (L3MobileIdentity.takes_writeIdentity identity.parsed pos).yield _
  have third : ∀ pos, msg.haveReadyTimer = true →
      Takes (do
        let readyTimer ← readArray 2
        pure { msg.withIdentity with haveReadyTimer := true, readyTimer })
        (fields pos [.writeBytes msg.readyTimer.toList]) (some msg.withReadyTimer) := by
    intro pos present
    rw [withReadyTimer, present]
    exact (takes_writeArray msg.readyTimer pos).yield _
  have fourth : ∀ pos, msg.havePdpContextStatus = true →
      Takes (do
        let pdpContextStatus ← readPdpContextStatus
        pure { msg.withReadyTimer with havePdpContextStatus := true, pdpContextStatus })
        (fields pos [.writeField (UInt32.ofNat pdpContextStatusLength) 8,
          .writeBytes msg.pdpContextStatus.toList]) (some { msg.withReadyTimer with
            havePdpContextStatus := msg.havePdpContextStatus,
            pdpContextStatus := msg.pdpContextStatus }) := by
    intro pos present
    rw [present]
    exact (takes_writeStatus msg.pdpContextStatus pos).yield _
  rw [write, parse]
  simp only [List.append_assoc]
  refine Takes.part_all (takes_writeLeading leading 0) (TakesElements.start ?_)
  apply TakesElements.present (show valueBits 8 (0x19 : UInt32).toNat = bitString [0x19] from rfl)
    (fun _ => rfl) (first _)
  · intro none
    rw [withSignature, none, signature.absent none]
    rfl
  apply TakesElements.present (show valueBits 8 (0x18 : UInt32).toNat = bitString [0x18] from rfl)
    (fun _ => rfl) (second _)
  · intro none
    rw [withIdentity, none, identity.slot.absent none]
    rfl
  apply TakesElements.present (show valueBits 8 (0x17 : UInt32).toNat = bitString [0x17] from rfl)
    (fun _ => rfl) (third _)
  · intro none
    rw [withReadyTimer, none, readyTimer.absent none]
    rfl
  apply TakesElements.present (show valueBits 8 (0x32 : UInt32).toNat = bitString [0x32] from rfl)
    (fun _ => rfl) (fourth _)
  · intro none
    rw [none, status.absent none]
    rfl
  rw [fields_writeOctets]
  refine TakesElements.done stops ?_
  exact (takesAll_tail _ tail).yield _

/-- An accepted message is its leading part with the elements found behind it. -/
theorem parse_found {octets : List UInt8} {msg : L3RoutingAreaUpdateAccept}
    (parsed : FieldParser.parse parse octets = some msg) :
    ∃ start state tail, Leading start ∧ msg = { state with additionalIes := tail } ∧
      Unannounced elements state tail ∧
      Found start (elementsRead [0x19, 0x18, 0x17, 0x32] valueSize true [] (octets.drop 8)) state :=
  parse_tagged ensures_parseLeading follows (fun _ => found_leading) parsed

/-- An accepted message is accepted again behind its writer exactly when its last identity is kept.
-/
theorem reEncodes_iff {octets : List UInt8} {msg : L3RoutingAreaUpdateAccept}
    (parsed : FieldParser.parse parse octets = some msg) :
    ReEncodes parse msg.write msg.bodyLength msg ↔
      LastKept (elementsRead [0x19, 0x18, 0x17, 0x32] valueSize true [] (octets.drop 8)) := by
  obtain ⟨start, state, tail, leading, rfl, stops, found⟩ := parse_found parsed
  have again := takesAll_write leading found stops
  refine (reEncodes_iff_again again (endPos_write _)).trans (Iff.trans ?_ found.identity.kept)
  constructor
  · exact congrArg ptmsi
  · intro same
    rw [same]

end L3RoutingAreaUpdateAccept

/-! ## Detach request -/

namespace L3DetachRequest

/-- The message of this octet in front. -/
def ofOctet (octet : UInt8) : L3DetachRequest where
  detachType := octet &&& 0x07
  powerOff := (octet >>> 3) &&& 0x01 != 0
  forceToStandby := (octet >>> 4) &&& 0x01 != 0

/-- The message without its optional elements. -/
def leadingPart (msg : L3DetachRequest) : L3DetachRequest where
  detachType := msg.detachType
  powerOff := msg.powerOff
  forceToStandby := msg.forceToStandby

theorem endPos_write (msg : L3DetachRequest) : endPos 0 msg.write = msg.bodyLength * 8 := by
  rw [write, bodyLength]
  cases msg.havePTMSI <;> cases msg.haveCause <;>
    simp [Op.width, writeLeading, writeIdentity] <;> omega

/-- What the first octet keeps of another one is written again. -/
theorem first_written : ∀ octet : UInt8,
    ((octet &&& 0x07).toUInt32 &&& 0x07) |||
      (if (octet >>> 3) &&& 0x01 != 0 then (0x08 : UInt32) else 0) |||
      (if (octet >>> 4) &&& 0x01 != 0 then (0x10 : UInt32) else 0) =
        (octet &&& 0x1F).toUInt32 ∧
    (octet &&& 0x1F) &&& 0x07 = octet &&& 0x07 ∧
    ((octet &&& 0x1F) >>> 3) &&& (0x01 : UInt8) = (octet >>> 3) &&& (0x01 : UInt8) ∧
    ((octet &&& 0x1F) >>> 4) &&& (0x01 : UInt8) = (octet >>> 4) &&& (0x01 : UInt8) := by
  apply Foundation.forall_octet
  decide

/-- A leading part that is returned. -/
def Leading (start : L3DetachRequest) : Prop :=
  ∃ octet, start = ofOctet octet

/-- The first octet comes back. -/
theorem takes_writeLeading {start : L3DetachRequest} (leading : start.Leading) (pos : Nat) :
    Takes parseLeading (fields pos start.writeLeading) (some start) := by
  obtain ⟨octet, rfl⟩ := leading
  obtain ⟨written, type, powerOff, forceToStandby⟩ := first_written octet
  rw [writeLeading, ofOctet, written, parseLeading]
  refine Takes.narrow ?_ (octet &&& 0x1F).toNat_lt (by simp)
  rw [type, powerOff, forceToStandby]
  exact Takes.pure _

theorem ensures_parseLeading :
    Ensures parseLeading fun start read =>
      start.Leading ∧ ∃ front, front.length = 1 ∧ read = bitString front := by
  refine ensures_readOctet_eq.bind fun octet _ whole => Ensures.pure ?_
  refine ⟨⟨octet, rfl⟩, [octet], rfl, ?_⟩
  rw [List.append_nil, whole]

/-- What the elements that were read made of a leading part. -/
structure Found (start : L3DetachRequest) (read : List (Nat × List UInt8))
    (msg : L3DetachRequest) : Prop where
  leading : msg.leadingPart = start
  identity : IdentityFound read msg.havePTMSI msg.ptmsi
  cause : Slot read 0x25 msg.haveCause msg.cause 0

theorem found_leading {start : L3DetachRequest} (leading : start.Leading) :
    Found start [] start := by
  obtain ⟨octet, rfl⟩ := leading
  exact ⟨rfl, .empty, .empty⟩

/-- What was found keeps its form with each element that is read. -/
theorem follows (start : L3DetachRequest) :
    Follows elements valueSize false (Found start) where
  wanted := by
    intro read state _ element member
    simp only [elements, List.mem_cons, List.not_mem_nil, or_false] at member
    rcases member with rfl | rfl
    · exact iff_of_true rfl fun never => Bool.noConfusion never
    · exact iff_of_true rfl fun never => Bool.noConfusion never
  reads := by
    intro state element member
    simp only [elements, List.mem_cons, List.not_mem_nil, or_false] at member
    rcases member with rfl | rfl
    · refine ensures_identityFound.bind fun ptmsi bits holds => Ensures.pure ?_
      obtain ⟨octets, rfl, reads⟩ := holds
      refine ⟨octets, List.append_nil _, fun read found more => ?_⟩
      obtain ⟨size, identity⟩ := reads read more
      exact ⟨size, found.leading, identity, found.cause.other (by decide)⟩
    · refine ensures_readOctet_eq.bind fun cause bits whole => Ensures.pure ?_
      refine ⟨[cause], by rw [List.append_nil, whole], fun read found more => ?_⟩
      exact ⟨rfl, found.leading, found.identity.other (by decide), .filled⟩

/-- A message as far as it is read again behind its identity. -/
def withIdentity (msg : L3DetachRequest) : L3DetachRequest :=
  { msg.leadingPart with havePTMSI := msg.havePTMSI, ptmsi := rereadIdentity msg.ptmsi }

/-- The elements are written in an order of their own, and each is read again. -/
theorem takesAll_write {start msg : L3DetachRequest} {read : List (Nat × List UInt8)}
    {tail : List UInt8} (leading : start.Leading) (found : Found start read msg)
    (stops : Unannounced elements msg tail) :
    TakesAll parse (fields 0 (write { msg with additionalIes := tail }))
      (some { msg with ptmsi := rereadIdentity msg.ptmsi, additionalIes := tail }) := by
  obtain ⟨rfl, identity, cause⟩ := found
  have first : ∀ pos, msg.havePTMSI = true →
      Takes (do
        let ptmsi ← readIdentity
        pure { msg.leadingPart with havePTMSI := true, ptmsi })
        (fields pos (writeIdentity msg.ptmsi)) (some msg.withIdentity) := by
    intro pos present
    rw [withIdentity, present]
    exact (L3MobileIdentity.takes_writeIdentity identity.parsed pos).yield _
  have second : ∀ pos, msg.haveCause = true →
      Takes (do
        let cause ← readNarrow 8
        pure { msg.withIdentity with haveCause := true, cause })
        (fields pos [.writeField msg.cause.toUInt32 8])
        (some { msg.withIdentity with haveCause := msg.haveCause, cause := msg.cause }) := by
    intro pos present
    rw [present]
    exact Takes.narrow (Takes.pure _) msg.cause.toNat_lt (by simp)
  rw [write, parse]
  simp only [List.append_assoc]
  refine Takes.part_all (takes_writeLeading leading 0) (TakesElements.start ?_)
  apply TakesElements.present (show valueBits 8 (0x18 : UInt32).toNat = bitString [0x18] from rfl)
    (fun _ => rfl) (first _)
  · intro none
    rw [withIdentity, none, identity.slot.absent none]
    rfl
  apply TakesElements.present (show valueBits 8 (0x25 : UInt32).toNat = bitString [0x25] from rfl)
    (fun _ => rfl) (second _)
  · intro none
    rw [none, cause.absent none]
    rfl
  rw [fields_writeOctets]
  refine TakesElements.done stops ?_
  exact (takesAll_tail _ tail).yield _

/-- An accepted message is its first octet with the elements found behind it. -/
theorem parse_found {octets : List UInt8} {msg : L3DetachRequest}
    (parsed : FieldParser.parse parse octets = some msg) :
    ∃ start state tail, Leading start ∧ msg = { state with additionalIes := tail } ∧
      Unannounced elements state tail ∧
      Found start (elementsRead [0x18, 0x25] valueSize false [] (octets.drop 1)) state :=
  parse_tagged ensures_parseLeading follows (fun _ => found_leading) parsed

/-- An accepted message is accepted again behind its writer exactly when its last identity is kept.
-/
theorem reEncodes_iff {octets : List UInt8} {msg : L3DetachRequest}
    (parsed : FieldParser.parse parse octets = some msg) :
    ReEncodes parse msg.write msg.bodyLength msg ↔
      LastKept (elementsRead [0x18, 0x25] valueSize false [] (octets.drop 1)) := by
  obtain ⟨start, state, tail, leading, rfl, stops, found⟩ := parse_found parsed
  have again := takesAll_write leading found stops
  refine (reEncodes_iff_again again (endPos_write _)).trans (Iff.trans ?_ found.identity.kept)
  constructor
  · exact congrArg ptmsi
  · intro same
    rw [same]

end L3DetachRequest

/-! ## What is written again -/

/-- Every body that is accepted is written again with its announced length and accepted as the
same message, with its elements in the order of the writer and what was unknown behind them,
unless the first digit of the identity that was read last is no decimal one and stands behind
another such nibble. -/
theorem attached_reEncoded_iff (octets : List UInt8) :
    (∀ msg, parse L3AttachAccept.parse octets = some msg →
      (ReEncodes L3AttachAccept.parse msg.write msg.bodyLength msg ↔
        LastKept (elementsRead [0x19, 0x17, 0x18] valueSize true [] (octets.drop 9)))) ∧
    (∀ msg, parse L3RoutingAreaUpdateAccept.parse octets = some msg →
      (ReEncodes L3RoutingAreaUpdateAccept.parse msg.write msg.bodyLength msg ↔
        LastKept (elementsRead [0x19, 0x18, 0x17, 0x32] valueSize true [] (octets.drop 8)))) ∧
    (∀ msg, parse L3DetachRequest.parse octets = some msg →
      (ReEncodes L3DetachRequest.parse msg.write msg.bodyLength msg ↔
        LastKept (elementsRead [0x18, 0x25] valueSize false [] (octets.drop 1)))) :=
  ⟨fun _ => L3AttachAccept.reEncodes_iff, fun _ => L3RoutingAreaUpdateAccept.reEncodes_iff,
    fun _ => L3DetachRequest.reEncodes_iff⟩

/-- A detach request with an IMSI of the nibbles 10, 10 and 1. -/
theorem tagged_digit_lost :
    ∃ msg, parse L3DetachRequest.parse [0x01, 0x18, 0x02, 0xA9, 0x1A] = some msg ∧
      ¬ ReEncodes L3DetachRequest.parse msg.write msg.bodyLength msg := by
  have parsed : parse L3DetachRequest.parse [0x01, 0x18, 0x02, 0xA9, 0x1A] =
      some { detachType := 1, havePTMSI := true, ptmsi := { type := .imsi, digits := [':', '1'] } } := by
    with_unfolding_all decide
  refine ⟨_, parsed, fun encoded => ?_⟩
  have kept := (L3DetachRequest.reEncodes_iff parsed).mp encoded
  have found : elementsRead [0x18, 0x25] valueSize false [] [0x18, 0x02, 0xA9, 0x1A] =
      [(0x18, [0x02, 0xA9, 0x1A])] := by
    have size : valueSize ((0x18 : UInt8).toNat &&& 0x7F) [0x02, 0xA9, 0x1A] = 3 := by
      with_unfolding_all decide
    rw [elementsRead, if_pos (by decide), size, List.drop_of_length_le (by simp), elementsRead]
    rfl
  rw [List.drop_succ_cons, List.drop_zero, found] at kept
  exact lastKept_identity.mp kept (.inl rfl) (by decide) ⟨by decide, 0x1A, rfl, by decide⟩

end Gsml3
