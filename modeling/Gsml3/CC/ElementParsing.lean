import Gsml3.CC.Elements
import Gsml3.Core.FieldCodec

/-!
# What element parsers read

An element parser that gets the declared length reads just the octets the length counts, or
there is a condition on these octets: digits fill their buffer, a codec bitmap ends before the
element does, a sub-address has fewer items than octets.
-/

namespace Gsml3

open Foundation (bitString valueBits)
open FieldParser

variable {α : Type}

/-! ## Lengths -/

theorem takes_length {length : Nat} (small : length < 256) :
    Takes readLength (bitString [UInt8.ofNat length]) (some length) := by
  have takes := takes_field (UInt8.ofNat length)
  rw [UInt8.toNat_ofNat', Nat.mod_eq_of_lt small] at takes
  exact takes

theorem bitString_first (octet : UInt8) (octets : List UInt8) :
    bitString (octet :: octets) = bitString [octet] ++ bitString octets :=
  Foundation.bitString_append [octet] octets

/-- As many octets as are announced are skipped. -/
theorem takes_skipBytes (octets : List UInt8) :
    Takes (skipBytes octets.length) (bitString octets) (some ()) := by
  induction octets with
  | nil => exact Takes.pure ()
  | cons octet octets ih =>
      rw [bitString_first]
      exact (takes_field octet).bind ih

theorem takes_skipTV (octet : UInt8) : Takes skipTV (bitString [octet]) (some ()) :=
  (takes_field octet).yield fun _ => ()

/-- A value is skipped behind its length. -/
theorem takes_skipValue {val : List UInt8} (small : val.length < 256) :
    Takes skipValue (bitString (UInt8.ofNat val.length :: val)) (some ()) := by
  rw [bitString_first]
  exact (takes_length small).bind (takes_skipBytes val)

/-- One less than a length that is not 0. -/
theorem oneLess_succ {n : Nat} (small : n < 256) : oneLess (n + 1) = n := by
  rw [oneLess]
  omega

/-! ## Octets -/

theorem takes_opaque (val : List UInt8) :
    Takes (OpaqueElement.parse val.length) (bitString val) (some ⟨val⟩) :=
  (takes_readOctets val).yield _

/-- Every capability that is not empty is read. -/
theorem takes_bearerCapability {val : List UInt8} (filled : val ≠ []) :
    ∃ read, Takes (L3BearerCapability.parse val.length) (bitString val) (some read) := by
  match val with
  | [octet3] => exact ⟨_, (takes_readOctet octet3).yield _⟩
  | octet3 :: first :: extended =>
      rw [show octet3 :: first :: extended = [octet3] ++ ([first] ++ extended) from rfl,
        Foundation.bitString_append, Foundation.bitString_append]
      exact ⟨_, (takes_readOctet octet3).bind
        ((takes_readOctet first).bind ((takes_readOctets extended).yield _))⟩

/-- An empty capability is refused. -/
theorem refuses_bearerCapability (bits : List Bool) :
    Takes (L3BearerCapability.parse 0) bits none :=
  Takes.throw _ bits

/-! ## Codec bitmaps -/

/-- The bitmaps end where the element does, or would end behind it. -/
def BitmapsFit : List UInt8 → Prop
  | [] => True
  | [_] => False
  | _ :: bitmapLen :: rest => BitmapsFit (rest.drop bitmapLen.toNat)
termination_by val => val.length
decreasing_by
  simp only [List.length_cons, List.length_drop]
  omega

/-- The bitmaps are read when they end where the value does. -/
theorem readsIf_parseBitmaps {rounds : Nat} {val : List UInt8} (enough : val.length ≤ rounds)
    (result : L3SupportedCodecList) :
    ReadsIf (BitmapsFit val) (L3SupportedCodecList.parseBitmaps rounds val.length result)
      (bitString val) := by
  induction rounds generalizing val result with
  | zero =>
      obtain rfl := List.length_eq_zero_iff.mp (Nat.le_zero.mp enough)
      exact .of_takes (Takes.pure result) (by rw [BitmapsFit]; trivial)
  | succ rounds ih =>
      match val with
      | [] => exact .of_takes (Takes.pure result) (by rw [BitmapsFit]; trivial)
      | [octet] =>
          rw [L3SupportedCodecList.parseBitmaps, if_neg (by simp)]
          refine .of_front (List.nil_append [octet]).symm (Takes.pure result) ?_
          rw [BitmapsFit]
          simp
      | sysId :: bitmapLen :: rest =>
          have fixedLen : min bitmapLen.toNat ((sysId :: bitmapLen :: rest).length - 2) =
              (rest.take bitmapLen.toNat).length := by
            rw [List.length_take, List.length_cons, List.length_cons]
            omega
          have left : (sysId :: bitmapLen :: rest).length - 2 -
              (rest.take bitmapLen.toNat).length = (rest.drop bitmapLen.toNat).length := by
            rw [List.length_take, List.length_drop, List.length_cons, List.length_cons]
            omega
          have shorter : (rest.drop bitmapLen.toNat).length ≤ rounds := by
            rw [List.length_cons, List.length_cons] at enough
            rw [List.length_drop]
            omega
          have bits : bitString (sysId :: bitmapLen :: rest) =
              bitString [sysId] ++ (bitString [bitmapLen] ++
                (bitString (rest.take bitmapLen.toNat) ++
                  bitString (rest.drop bitmapLen.toNat))) := by
            rw [← Foundation.bitString_append, List.take_append_drop,
              ← Foundation.bitString_append, ← Foundation.bitString_append]
            rfl
          rw [L3SupportedCodecList.parseBitmaps, if_pos (by simp), BitmapsFit, bits]
          refine .after (takes_field sysId) (.after (takes_field bitmapLen) ?_)
          have later := ih shorter
          rw [← left] at later
          rw [fixedLen]
          exact .after (takes_readOctets _) (later _)

/-- A codec list is read when its bitmaps end where the value does. -/
theorem readsIf_supportedCodecList (val : List UInt8) :
    ReadsIf (BitmapsFit val) (L3SupportedCodecList.parse val.length) (bitString val) :=
  readsIf_parseBitmaps le_rfl {}

/-! ## Digits -/

/-- Number of digits an octet holds. -/
def digitCount (octet : UInt8) : Nat :=
  if octet.toNat / 16 = 0x0f then 1 else 2

/-- Behind `count` digits, there is room for a digit of each octet. -/
def DigitsFit : Nat → List UInt8 → Prop
  | _, [] => True
  | count, octet :: octets =>
      count < L3BCDDigits.maxDigits ∧ DigitsFit (count + digitCount octet) octets

/-- Without room no octet fits. -/
theorem digitsFit_full {count : Nat} (full : L3BCDDigits.maxDigits ≤ count)
    (octets : List UInt8) : DigitsFit count octets ↔ octets = [] := by
  cases octets with
  | nil => exact ⟨fun _ => rfl, fun _ => trivial⟩
  | cons octet octets =>
      constructor
      · intro fit
        exact absurd fit.1 (Nat.not_lt.mpr full)
      · intro empty
        cases empty

/-- The digits stored after one more octet. -/
theorem push_length {digits : List Char} (room : digits.length < L3BCDDigits.maxDigits)
    (octet : UInt8) :
    (L3BCDDigits.push digits (octet.toNat % 16) (octet.toNat / 16 % 16)).length =
      min (digits.length + digitCount octet) L3BCDDigits.maxDigits := by
  have high : octet.toNat / 16 % 16 = octet.toNat / 16 := by
    have := octet.toNat_lt
    omega
  rw [L3BCDDigits.push, digitCount, high, List.length_append, List.length_singleton]
  unfold L3BCDDigits.maxDigits at room ⊢
  by_cases filler : octet.toNat / 16 = 0x0f
  · rw [if_neg fun both => both.1 filler, if_pos filler, List.length_append,
      List.length_singleton]
    omega
  · rw [if_neg filler]
    split
    case isTrue both =>
      rw [List.length_append, List.length_append, List.length_singleton, List.length_singleton]
      omega
    case isFalse full =>
      have full : ¬ digits.length + 1 < 20 := fun more => full ⟨filler, more⟩
      rw [List.length_append, List.length_singleton]
      omega

theorem takes_octet {numOctets : Nat} {digits : List Char} {bits : List Bool} {fits : Prop}
    (octet : UInt8) (room : digits.length < L3BCDDigits.maxDigits)
    (rest : ReadsIf fits (L3BCDDigits.parseOctets numOctets
      (L3BCDDigits.push digits (octet.toNat % 16) (octet.toNat / 16 % 16))) bits) :
    ReadsIf fits (L3BCDDigits.parseOctets (numOctets + 1) digits) (bitString [octet] ++ bits) := by
  rw [L3BCDDigits.parseOctets, if_pos room, bitString_halves, List.append_assoc]
  exact .after (takes_valueBits _ (by decide) (by decide))
    (.after (takes_valueBits _ (by decide) (by decide)) rest)

/-- The digits stop at an octet when the buffer is full. -/
theorem readsIf_parseOctets {count : Nat} {digits : List Char}
    (length : digits.length = min count L3BCDDigits.maxDigits) (octets : List UInt8) :
    ReadsIf (DigitsFit count octets) (L3BCDDigits.parseOctets octets.length digits)
      (bitString octets) := by
  induction octets generalizing count digits with
  | nil => exact .of_takes (Takes.pure digits) trivial
  | cons octet octets ih =>
      by_cases room : count < L3BCDDigits.maxDigits
      · rw [Nat.min_eq_left (Nat.le_of_lt room)] at length
        have pushed := push_length (length ▸ room) octet
        rw [length] at pushed
        have rest := takes_octet octet (length ▸ room) (ih pushed)
        rw [← Foundation.bitString_append] at rest
        exact ⟨fun fit => rest.takes fit.2, fun misfit => rest.misreads fun fit => misfit ⟨room, fit⟩⟩
      · have full := Nat.le_of_not_lt room
        rw [Nat.min_eq_right full] at length
        rw [List.length_cons, L3BCDDigits.parseOctets, if_neg (by omega), digitsFit_full full]
        exact .of_front (List.nil_append _).symm (Takes.pure digits) Iff.rfl

/-- With a number of octets that exceeds the buffer, further octets are read as digits. -/
theorem misreads_parseOctets {numOctets : Nat} {digits : List Char}
    (room : digits.length < L3BCDDigits.maxDigits)
    (many : L3BCDDigits.maxDigits ≤ digits.length + numOctets) :
    Misreads (L3BCDDigits.parseOctets numOctets digits) [] := by
  suffices ∃ octets value, octets ≠ [] ∧
      Takes (L3BCDDigits.parseOctets numOctets digits) (bitString octets) (some value) by
    obtain ⟨octets, value, filled, takes⟩ := this
    refine .inr ⟨bitString octets, value, ?_, takes⟩
    intro empty
    have length := Foundation.bitString_length octets
    rw [empty] at length
    exact filled (List.length_eq_zero_iff.mp (by simpa using length.symm))
  induction numOctets generalizing digits with
  | zero => omega
  | succ numOctets ih =>
      obtain ⟨stored, stored_eq⟩ : ∃ stored, stored = L3BCDDigits.push digits
          ((0x11 : UInt8).toNat % 16) ((0x11 : UInt8).toNat / 16 % 16) := ⟨_, rfl⟩
      have pushed := push_length room 0x11
      rw [← stored_eq, show digitCount 0x11 = 2 from rfl] at pushed
      obtain ⟨more, value, takes⟩ : ∃ more value,
          Takes (L3BCDDigits.parseOctets numOctets stored) (bitString more) (some value) := by
        by_cases full : L3BCDDigits.maxDigits ≤ digits.length + 2
        · rw [Nat.min_eq_right full] at pushed
          refine ⟨[], stored, ?_⟩
          cases numOctets with
          | zero => exact Takes.pure stored
          | succ numOctets =>
              rw [L3BCDDigits.parseOctets, if_neg (Nat.not_lt.mpr (Nat.le_of_eq pushed.symm))]
              exact Takes.pure stored
        · rw [Nat.min_eq_left (Nat.le_of_not_le full)] at pushed
          obtain ⟨more, value, _, takes⟩ := @ih stored (by omega) (by omega)
          exact ⟨more, value, takes⟩
      rw [stored_eq] at takes
      obtain ⟨read, whole⟩ := (takes_octet 0x11 room (.of_takes takes trivial)).takes trivial
      rw [← Foundation.bitString_append] at whole
      exact ⟨_, read, by simp, whole⟩

/-- The plus sign counts as a digit. -/
def firstDigits (type : Nat) : Nat :=
  if type = TypeOfNumber.international then 1 else 0

theorem firstDigits_length (type : Nat) :
    (if decide (type = TypeOfNumber.international) then ['+'] else ([] : List Char)).length =
      min (firstDigits type) L3BCDDigits.maxDigits := by
  rw [firstDigits]
  by_cases same : type = TypeOfNumber.international
  · simp [same, L3BCDDigits.maxDigits]
  · simp [same]

/-- Digits are read when there is room for those of every octet. -/
theorem readsIf_digits (type : Nat) (octets : List UInt8) :
    ReadsIf (DigitsFit (firstDigits type) octets)
      (L3BCDDigits.parse octets.length (type = TypeOfNumber.international))
      (bitString octets) :=
  readsIf_parseOctets (firstDigits_length type) octets

/-- More octets than there is room for are not used up. -/
theorem misreads_digits {numOctets : Nat} (type : Nat)
    (many : L3BCDDigits.maxDigits ≤ numOctets) :
    Misreads (L3BCDDigits.parse numOctets (type = TypeOfNumber.international)) [] := by
  have length := firstDigits_length type
  have few : firstDigits type ≤ 1 := by
    rw [firstDigits]
    split
    · exact le_rfl
    · exact Nat.zero_le 1
  refine misreads_parseOctets ?_ ?_
  · rw [length]
    unfold L3BCDDigits.maxDigits
    omega
  · omega

/-! ## Party numbers -/

/-- The bit before the type, the type and the plan of a number. -/
theorem bitString_number (octet : UInt8) :
    bitString [octet] = valueBits 1 (octet.toNat / 128) ++
      (valueBits 3 (octet.toNat / 16) ++ valueBits 4 octet.toNat) := by
  have rest := Foundation.valueBits_add 3 4 octet.toNat
  rw [bitString, List.flatMap_singleton]
  exact (Foundation.valueBits_add 1 7 octet.toNat).trans (congrArg (_ ++ ·) rest)

/-- The type of number in its octet. -/
def numberType (octet : UInt8) : Nat :=
  octet.toNat / 16 % 2 ^ 3

/-- There is an octet for the type, and room for the digits. -/
def NumberFits : List UInt8 → Prop
  | [] => False
  | octet :: octets => DigitsFit (firstDigits (numberType octet)) octets

theorem length_small {octet : UInt8} {octets : List UInt8}
    (small : (octet :: octets).length < 256) : octets.length < 256 := by
  rw [List.length_cons] at small
  omega

/-- A called number is read when its digits fit. -/
theorem readsIf_calledParty {val : List UInt8} (small : val.length < 256) :
    ReadsIf (NumberFits val) (L3CalledPartyBCDNumber.parse val.length) (bitString val) := by
  cases val with
  | nil =>
      obtain ⟨more, digits, _, takes⟩ :=
        (@misreads_digits (oneLess 0) (numberType 0) (by decide)).exists_more
      refine .of_more (bitString [0] ++ more) ?_ ?_ id
      · simp [bitString, valueBits]
      · rw [bitString_number, List.append_assoc, List.append_assoc]
        exact .after (takes_valueBits _ (by decide) (by decide))
          (.after (takes_valueBits _ (by decide) (by decide))
            (.after (takes_valueBits _ (by decide) (by decide))
              ((ReadsIf.of_takes takes trivial).yield _)))
  | cons octet octets =>
      have digits := readsIf_digits (numberType octet) octets
      rw [← oneLess_succ (length_small small)] at digits
      rw [bitString_first, bitString_number,
        List.append_assoc, List.append_assoc]
      exact .after (takes_valueBits _ (by decide) (by decide))
        (.after (takes_valueBits _ (by decide) (by decide))
          (.after (takes_valueBits _ (by decide) (by decide)) (digits.yield _)))

/-- The indicators of octet 3a. -/
theorem bitString_indicators (octet : UInt8) :
    bitString [octet] = valueBits 1 (octet.toNat / 128) ++ (valueBits 2 (octet.toNat / 32) ++
      (valueBits 3 (octet.toNat / 4) ++ valueBits 2 octet.toNat)) := by
  have rest := Foundation.valueBits_add 3 2 octet.toNat
  have middle := (Foundation.valueBits_add 2 5 octet.toNat).trans (congrArg (_ ++ ·) rest)
  rw [bitString, List.flatMap_singleton]
  exact (Foundation.valueBits_add 1 7 octet.toNat).trans (congrArg (_ ++ ·) middle)

/-- There are octets for the type and, if it is announced, for the indicators, and room for the
digits. -/
def CallingNumberFits : List UInt8 → Prop
  | [] => False
  | [octet] => ¬ octet.toNat < 128
  | octet :: next :: octets =>
      if octet.toNat < 128 then DigitsFit (firstDigits (numberType octet)) octets
      else DigitsFit (firstDigits (numberType octet)) (next :: octets)

/-- Without octet 3a all octets are digits. -/
theorem callingNumberFits_plain {octet : UInt8} (plain : ¬ octet.toNat < 128)
    (octets : List UInt8) : CallingNumberFits (octet :: octets) ↔
      DigitsFit (firstDigits (numberType octet)) octets := by
  cases octets with
  | nil => exact ⟨fun _ => trivial, fun _ => plain⟩
  | cons next octets => rw [CallingNumberFits, if_neg plain]

/-- A calling number is read when its digits fit behind octet 3a. -/
theorem readsIf_callingParty {val : List UInt8} (small : val.length < 256) :
    ReadsIf (CallingNumberFits val) (L3CallingPartyBCDNumber.parse val.length)
      (bitString val) := by
  cases val with
  | nil =>
      obtain ⟨more, digits, _, takes⟩ :=
        (@misreads_digits (oneLess 0) (numberType 0x80) (by decide)).exists_more
      refine .of_more (bitString [0x80] ++ more) ?_ ?_ id
      · simp [bitString, valueBits]
      · rw [bitString_number, List.append_assoc, List.append_assoc]
        refine .after (takes_valueBits _ (by decide) (by decide))
          (.after (takes_valueBits _ (by decide) (by decide))
            (.after (takes_valueBits _ (by decide) (by decide)) ?_))
        rw [if_neg (by decide)]
        exact (ReadsIf.of_takes takes trivial).yield _
  | cons octet octets =>
      have octet_lt := octet.toNat_lt
      rw [bitString_first, bitString_number,
        List.append_assoc, List.append_assoc]
      refine .after (takes_valueBits _ (by decide) (by decide))
        (.after (takes_valueBits _ (by decide) (by decide))
          (.after (takes_valueBits _ (by decide) (by decide)) ?_))
      by_cases announced : octet.toNat < 128
      · rw [if_pos (by omega)]
        cases octets with
        | nil =>
            have many : L3BCDDigits.maxDigits ≤ oneLess (oneLess [octet].length) := by
              rw [List.length_singleton]
              decide
            obtain ⟨more, digits, _, takes⟩ :=
              (misreads_digits (numberType octet) many).exists_more
            refine .of_more (bitString [0] ++ more) ?_ ?_ (not_not_intro announced)
            · simp [bitString, valueBits]
            · rw [bitString_indicators, List.append_assoc, List.append_assoc, List.append_assoc]
              exact .after (takes_valueBits _ (by decide) (by decide))
                (.after (takes_valueBits _ (by decide) (by decide))
                  (.after (takes_valueBits _ (by decide) (by decide))
                    (.after (takes_valueBits _ (by decide) (by decide))
                      ((ReadsIf.of_takes takes trivial).yield _))))
        | cons indicators octets =>
            have digits := readsIf_digits (numberType octet) octets
            rw [← oneLess_succ (length_small (length_small small)), ← List.length_cons,
              ← oneLess_succ (length_small small)] at digits
            rw [CallingNumberFits, if_pos announced, bitString_first, bitString_indicators, List.append_assoc,
              List.append_assoc, List.append_assoc]
            exact .after (takes_valueBits _ (by decide) (by decide))
              (.after (takes_valueBits _ (by decide) (by decide))
                (.after (takes_valueBits _ (by decide) (by decide))
                  (.after (takes_valueBits _ (by decide) (by decide)) (digits.yield _))))
      · have digits := readsIf_digits (numberType octet) octets
        rw [← oneLess_succ (length_small small)] at digits
        rw [if_neg (by omega), callingNumberFits_plain announced]
        exact digits.yield _

/-! ## Sub-addresses -/

/-- The items take all octets. -/
def ItemsFit : Nat → List UInt8 → Prop
  | _, [] => True
  | 0, _ :: _ => False
  | _ + 1, [_] => False
  | numItems + 1, octet :: next :: rest =>
      ItemsFit numItems ((next :: rest).drop (octet.toNat &&& 0x1f))

/-- Items are read when they end where the value does. -/
theorem readsIf_parseItems (numItems : Nat) (octets : List UInt8) :
    ReadsIf (ItemsFit numItems octets) (L3SubAddress.parseItems numItems octets.length)
      (bitString octets) := by
  induction numItems generalizing octets with
  | zero =>
      rw [L3SubAddress.parseItems]
      refine .of_front (List.nil_append octets).symm (Takes.pure []) ?_
      cases octets with
      | nil => simp [ItemsFit]
      | cons => simp [ItemsFit]
  | succ numItems ih =>
      rw [L3SubAddress.parseItems]
      match octets with
      | [] => exact .of_takes (Takes.pure []) (by simp [ItemsFit])
      | [octet] =>
          rw [if_neg (by simp)]
          refine .of_front (List.nil_append [octet]).symm (Takes.pure []) ?_
          simp [ItemsFit]
      | octet :: next :: rest =>
          have len : min (octet.toNat &&& 0x1f) ((octet :: next :: rest).length - 1) =
              ((next :: rest).take (octet.toNat &&& 0x1f)).length := by
            rw [List.length_take, List.length_cons, Nat.add_sub_cancel]
          have left : (octet :: next :: rest).length - 1 -
              ((next :: rest).take (octet.toNat &&& 0x1f)).length =
              ((next :: rest).drop (octet.toNat &&& 0x1f)).length := by
            rw [List.length_take, List.length_drop, List.length_cons, Nat.add_sub_cancel]
            omega
          have bits : bitString (octet :: next :: rest) =
              bitString [octet] ++ (bitString ((next :: rest).take (octet.toNat &&& 0x1f)) ++
                bitString ((next :: rest).drop (octet.toNat &&& 0x1f))) := by
            rw [← Foundation.bitString_append, List.take_append_drop,
              ← Foundation.bitString_append]
            rfl
          have later := ih ((next :: rest).drop (octet.toNat &&& 0x1f))
          rw [← left] at later
          rw [if_pos (by simp), ItemsFit, bits]
          refine .after (takes_field octet) ?_
          rw [len]
          exact .after (takes_readOctets _) (later.yield _)

def SubAddressFits : List UInt8 → Prop
  | [] => False
  | numItems :: octets => ItemsFit numItems.toNat octets

/-- A subaddress is read when its items end where the value does. -/
theorem readsIf_subAddress {val : List UInt8} (small : val.length < 256) :
    ReadsIf (SubAddressFits val) (L3SubAddress.parse val.length) (bitString val) := by
  match val with
  | [] =>
      refine .of_more (bitString [0] ++ []) ?_ ?_ id
      · simp [bitString, valueBits]
      · exact .after (takes_field 0) ((ReadsIf.of_takes (Takes.pure []) trivial).yield _)
  | numItems :: octets =>
      have items := readsIf_parseItems numItems.toNat octets
      rw [← oneLess_succ (length_small small)] at items
      rw [bitString_first]
      exact .after (takes_field numItems) (items.yield _)

/-! ## Values of fixed length -/

theorem takes_signal (octet : UInt8) :
    Takes L3Signal.parse (bitString [octet]) (some ⟨octet.toNat⟩) :=
  (takes_field octet).yield _

theorem takes_priority (octet : UInt8) :
    ∃ read, Takes L3Priority.parse (bitString [octet]) (some read) :=
  ⟨_, (takes_field octet).yield _⟩

theorem takes_streamIdentifier (octet : UInt8) :
    ∃ read, Takes L3StreamIdentifier.parse (bitString [octet]) (some read) :=
  ⟨_, (takes_field octet).yield _⟩

theorem takes_ssVersion (octet : UInt8) :
    ∃ read, Takes L3SupServVersionIndicator.parse (bitString [octet]) (some read) :=
  ⟨_, (takes_field octet).yield _⟩

theorem takes_progressTV (octet : UInt8) :
    ∃ read, Takes L3ProgressIndicator.parseTV (bitString [octet]) (some read) := by
  rw [bitString_halves]
  exact ⟨_, (takes_valueBits _ (by decide) (by decide)).bind
    ((takes_valueBits _ (by decide) (by decide)).yield _)⟩

/-- The first octet of a cause has another layout. -/
def causeExtended (octet : UInt8) : Prop :=
  octet.toNat / 128 % 2 ^ 1 ≠ 0 ∨ octet.toNat / 32 % 2 ^ 2 ≠ 0x3

/-- The second octet of a cause announces another one. -/
def causeContinued (octet : UInt8) : Prop :=
  octet.toNat / 128 % 2 ^ 1 ≠ 1

/-- The parts of the first octet of a cause. -/
theorem bitString_cause (octet : UInt8) :
    bitString [octet] = valueBits 1 (octet.toNat / 128) ++ (valueBits 2 (octet.toNat / 32) ++
      (valueBits 1 (octet.toNat / 16) ++ valueBits 4 octet.toNat)) := by
  have rest := Foundation.valueBits_add 1 4 octet.toNat
  have middle := (Foundation.valueBits_add 2 5 octet.toNat).trans (congrArg (_ ++ ·) rest)
  rw [bitString, List.flatMap_singleton]
  exact (Foundation.valueBits_add 1 7 octet.toNat).trans (congrArg (_ ++ ·) middle)

/-- A cause of two plain octets is read. -/
theorem takes_cause {first second : UInt8} (plain : ¬ causeExtended first)
    (last : ¬ causeContinued second) :
    ∃ read, Takes L3CauseElement.parse (bitString [first, second]) (some read) := by
  have layout : ¬ (first.toNat / 128 % 2 ^ 1 ≠ 0 ∨ first.toNat / 32 % 2 ^ 2 ≠ 0x3 ∨
      second.toNat / 128 % 2 ^ 1 ≠ 1) := by
    rintro (extended | standard | continued)
    · exact plain (.inl extended)
    · exact plain (.inr standard)
    · exact last continued
  have second_bits : bitString [second] =
      valueBits 1 (second.toNat / 128) ++ valueBits 7 second.toNat := by
    rw [bitString, List.flatMap_singleton]
    exact Foundation.valueBits_add 1 7 second.toNat
  suffices reads : ReadsIf True L3CauseElement.parse (bitString [first, second]) from
    reads.takes trivial
  rw [show [first, second] = [first] ++ [second] from rfl, Foundation.bitString_append,
    bitString_cause, second_bits, List.append_assoc, List.append_assoc, List.append_assoc,
    ← List.append_nil (valueBits 7 second.toNat)]
  refine .after (takes_valueBits _ (by decide) (by decide))
    (.after (takes_valueBits _ (by decide) (by decide))
      (.after (takes_valueBits _ (by decide) (by decide))
        (.after (takes_valueBits _ (by decide) (by decide))
          (.after (takes_valueBits _ (by decide) (by decide))
            (.after (takes_valueBits _ (by decide) (by decide)) ?_)))))
  rw [if_neg layout]
  exact .of_takes (Takes.pure _) trivial

/-- The octets that are there have another layout than a cause. -/
def CauseRefused : List UInt8 → Prop
  | [] => False
  | [first] => causeExtended first
  | first :: second :: _ => causeExtended first ∨ causeContinued second

/-- A cause in another layout is refused. -/
theorem refuses_cause {val : List UInt8} (refused : CauseRefused val) :
    Takes L3CauseElement.parse (bitString val) none := by
  match val with
  | first :: rest =>
      rw [bitString_first, bitString_cause,
        List.append_assoc, List.append_assoc, List.append_assoc]
      refine (takes_valueBits _ (by decide) (by decide)).bind
        ((takes_valueBits _ (by decide) (by decide)).bind
          ((takes_valueBits _ (by decide) (by decide)).bind
            ((takes_valueBits _ (by decide) (by decide)).bind ?_)))
      by_cases extended : causeExtended first
      · refine (Refuses.bind fun indicator => Refuses.bind fun cause => ?_).takes _
        rw [if_pos (extended.imp_right Or.inl)]
        exact Refuses.throw _
      · match rest with
        | [] => exact absurd refused extended
        | second :: rest =>
            have continued := refused.resolve_left extended
            rw [bitString_first,
              show bitString [second] = valueBits 1 (second.toNat / 128) ++
                valueBits 7 second.toNat by
                rw [bitString, List.flatMap_singleton]
                exact Foundation.valueBits_add 1 7 second.toNat, List.append_assoc]
            refine (takes_valueBits _ (by decide) (by decide)).bind
              ((takes_valueBits _ (by decide) (by decide)).bind ?_)
            rw [if_pos (.inr (.inr continued))]
            exact Takes.throw _ _

end Gsml3
