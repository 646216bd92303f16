import Gsml3.Core.ElementFraming
import Gsml3.CC.ElementParsing
import Gsml3.CC.Messages
import Gsml3.SS.Messages

/-!
# Framing of call control and supplementary service messages

The loops over the optional elements leave the framing to the element parsers.  Most of these
read what the length of the element counts; the others frame a body only if its elements fit.
-/

namespace Gsml3

open Foundation (Element bitString forall_octet)
open FieldParser

/-! ## Contents -/

section Contents

variable {α β : Type} {fits : Prop} {val : List UInt8}

theorem content_counted (val : List UInt8) :
    content (.counted 1) val = UInt8.ofNat val.length :: val := by
  rw [content, Element.lengthField, Element.lengthField, pow_zero, Nat.div_one]
  rfl

/-- A value behind its length, read under its condition. -/
theorem readsIf_value {parse : Nat → FieldParser α} (small : val.length < 256)
    (reads : ReadsIf fits (parse val.length) (bitString val)) (f : α → β) :
    ReadsIf fits (readValue parse >>= fun p => pure (f p))
      (bitString (content (.counted 1) val)) := by
  rw [content_counted, bitString_first]
  exact (ReadsIf.after (takes_length small) reads).yield f

/-- A value behind its length, whatever it is. -/
theorem takes_value {parse : Nat → FieldParser α} (small : val.length < 256)
    (takes : ∃ read, Takes (parse val.length) (bitString val) (some read)) (f : α → β)
    (fit : fits) :
    ReadsIf fits (readValue parse >>= fun p => pure (f p))
      (bitString (content (.counted 1) val)) := by
  obtain ⟨read, takes⟩ := takes
  exact readsIf_value small (.of_takes takes fit) f

/-- A value of one octet. -/
theorem takes_octetValue {parser : FieldParser α}
    (takes : ∀ octet, ∃ read, Takes parser (bitString [octet]) (some read)) (f : α → β)
    (size : val.length = 1) (fit : fits) :
    ReadsIf fits (parser >>= fun p => pure (f p)) (bitString (content (.fixed 1) val)) := by
  obtain ⟨octet, rfl⟩ := List.length_eq_one_iff.mp size
  obtain ⟨read, takes⟩ := takes octet
  exact (ReadsIf.of_takes takes fit).yield f

/-- A value that is skipped. -/
theorem takes_skipped (sized : val.length < 256) (msg : β) :
    Takes (do skipValue; pure msg) (bitString (content (.counted 1) val)) (some msg) := by
  rw [content_counted]
  exact (takes_skipValue sized).yield fun _ => msg

theorem takes_skippedOctet (size : val.length = 1) (msg : β) :
    Takes (do skipTV; pure msg) (bitString (content (.fixed 1) val)) (some msg) := by
  obtain ⟨octet, rfl⟩ := List.length_eq_one_iff.mp size
  exact (takes_skipTV octet).yield fun _ => msg

theorem takes_ssVersionValue (val : List UInt8) :
    ∃ read, Takes (readSSVersion val.length) (bitString val) (some read) := by
  cases val with
  | nil => exact ⟨none, Takes.pure none⟩
  | cons octet octets =>
      obtain ⟨read, takes⟩ := takes_ssVersion octet
      refine ⟨some read, ?_⟩
      rw [readSSVersion, if_pos (by simp), bitString_first, List.length_cons,
        Nat.add_sub_cancel]
      exact takes.bind ((takes_skipBytes octets).yield _)

theorem readsIf_streamIdentifier (val : List UInt8) :
    ReadsIf (val ≠ []) (readStreamIdentifier val.length) (bitString val) := by
  cases val with
  | nil =>
      obtain ⟨read, takes⟩ := takes_streamIdentifier 0
      refine .of_more (bitString [0] ++ []) ?_ ?_ (not_not_intro rfl)
      · simp [bitString, Foundation.valueBits]
      · exact .after takes ((ReadsIf.of_takes (Takes.pure ()) trivial).yield _)
  | cons octet octets =>
      obtain ⟨read, takes⟩ := takes_streamIdentifier octet
      have filled : octet :: octets ≠ [] := List.cons_ne_nil octet octets
      rw [readStreamIdentifier, bitString_first, List.length_cons, Nat.add_sub_cancel]
      exact .after takes (.yield (.of_takes (takes_skipBytes octets) filled) _)

end Contents

/-- The format of the elements of a call control message. -/
def elementFormat (contentFormat : Nat → Element.Format) (iei : UInt8) : Element.Format :=
  if isHalfOctet iei then .fixed 0 else contentFormat iei.toNat

/-- The length of a value fits its format. -/
def Sized (format : Element.Format) (val : List UInt8) : Prop :=
  match format with
  | .fixed size => val.length = size
  | .counted width => val.length < 256 ^ width

/-- What a round does with the content of single elements. -/
structure ContentReading {σ : Type} (readContent : σ → Nat → FieldParser σ)
    (contentFormat : Nat → Element.Format) (fits refused : Nat → List UInt8 → Prop)
    (stored : List Nat) : Prop where
  reads : ∀ iei val, Sized (contentFormat iei) val → ¬ refused iei val → ∀ msg,
    ReadsIf (fits iei val) (readContent msg iei) (bitString (content (contentFormat iei) val))
  refuses : ∀ iei val, refused iei val → ∀ msg,
    Takes (readContent msg iei) (bitString (content (contentFormat iei) val)) none
  skips : ∀ iei val, Sized (contentFormat iei) val → fits iei val → iei ∉ stored → ∀ msg,
    Takes (readContent msg iei) (bitString (content (contentFormat iei) val)) (some msg)

section Rounds

variable {σ : Type} {readContent : σ → Nat → FieldParser σ}
  {contentFormat : Nat → Element.Format} {fits refused : Nat → List UInt8 → Prop}
  {stored : List Nat}

/-- A round reads a half octet as it is, and the content of another element. -/
theorem ContentReading.elementReading
    (reading : ContentReading readContent contentFormat fits refused stored) :
    ElementReading (readElement readContent) (elementFormat contentFormat)
      (fun element => isHalfOctet element.type ∨ fits element.type.toNat element.val)
      (fun element => ¬ isHalfOctet element.type ∧ refused element.type.toNat element.val)
      (fun iei => isHalfOctet iei ∨ iei.toNat ∉ stored) := by
  have halves : ∀ element : Element, element.WellFormed (elementFormat contentFormat) →
      isHalfOctet element.type → ∀ msg : σ,
        Takes (readElement readContent msg)
          (bitString (element.encode (elementFormat contentFormat))) (some msg) := by
    intro element formed half msg
    have shape : elementFormat contentFormat element.type = .fixed 0 := if_pos half
    rw [Element.WellFormed, shape] at formed
    rw [encode_eq, shape, List.length_eq_zero_iff.mp formed, bitString_first]
    refine (takes_readOctet element.type).bind ?_
    rw [if_pos half]
    exact Takes.pure msg
  have contents : ∀ element : Element, ¬ isHalfOctet element.type →
      elementFormat contentFormat element.type = contentFormat element.type.toNat :=
    fun _ whole => if_neg whole
  constructor
  case reads =>
    intro element formed accepted msg
    by_cases half : isHalfOctet element.type
    · exact .of_takes (halves element formed half msg) (.inl half)
    · rw [encode_eq, contents element half, bitString_first, or_iff_right half]
      rw [Element.WellFormed, contents element half] at formed
      refine .after (takes_readOctet element.type) ?_
      rw [if_neg half]
      exact reading.reads _ _ formed (fun bad => accepted ⟨half, bad⟩) msg
  case refuses =>
    rintro element - ⟨half, bad⟩ msg
    rw [encode_eq, contents element half, bitString_first]
    refine (takes_readOctet element.type).bind ?_
    rw [if_neg half]
    exact reading.refuses _ _ bad msg
  case skips =>
    intro element formed fit unknown msg
    by_cases half : isHalfOctet element.type
    · exact halves element formed half msg
    · rw [encode_eq, contents element half, bitString_first]
      rw [Element.WellFormed, contents element half] at formed
      refine (takes_readOctet element.type).bind ?_
      rw [if_neg half]
      exact reading.skips _ _ formed (fit.resolve_left half) (unknown.resolve_left half) msg

end Rounds

/-! ## Setup -/

namespace L3Setup

/-- How the elements of a Setup are framed. -/
def contentFormat (iei : Nat) : Element.Format :=
  if iei ∈ [0xa1, 0xa2, 0xa3] then .fixed 0
  else if iei ∈ [0x1e, 0x34, 0x8e, 0xc1, 0xc2] then .fixed 1
  else .counted 1

/-- The identifiers of the elements with a field in the message. -/
def stored : List Nat :=
  [0x04, 0x1c, 0x34, 0x5c, 0x5d, 0x6d, 0x5e, 0x7c, 0x7d, 0x7e, 0x7f, 0xa1, 0xa2, 0x15, 0x2d, 0x40]

/-- The values that the parser of a Setup can read. -/
def Fits (iei : Nat) (val : List UInt8) : Prop :=
  match iei with
  | 0x5c => CallingNumberFits val
  | 0x5d | 0x6d => SubAddressFits val
  | 0x5e => NumberFits val
  | 0x2d => val ≠ []
  | 0x40 => BitmapsFit val
  | _ => True

/-- A bearer capability is refused if it is empty. -/
def Refused (iei : Nat) (val : List UInt8) : Prop :=
  iei = 0x04 ∧ val = []

/-- The value of an element of a Setup, read under its condition. -/
theorem readsIf_readContent (msg : L3Setup) {iei : Nat} {val : List UInt8}
    (sized : Sized (contentFormat iei) val) (accepted : ¬ Refused iei val) :
    ReadsIf (Fits iei val) (readContent msg iei)
      (bitString (content (contentFormat iei) val)) := by
  unfold readContent
  split
  -- the cases follow the identifiers the parser names
  case h_1 =>
    have filled : val ≠ [] := fun empty => accepted ⟨rfl, empty⟩
    exact takes_value sized (takes_bearerCapability filled) _ trivial
  case h_2 | h_9 | h_10 | h_11 | h_15 => exact takes_value sized ⟨_, takes_opaque val⟩ _ trivial
  case h_3 | h_19 | h_20 | h_21 =>
    exact takes_octetValue (fun octet => ⟨_, takes_skipTV octet⟩) _ sized trivial
  case h_4 => exact takes_octetValue (fun octet => ⟨_, takes_signal octet⟩) _ sized trivial
  case h_5 => exact readsIf_value sized (readsIf_callingParty sized) _
  case h_6 | h_7 => exact readsIf_value sized (readsIf_subAddress sized) _
  case h_8 => exact readsIf_value sized (readsIf_calledParty sized) _
  case h_12 => exact takes_value sized (takes_ssVersionValue val) _ trivial
  case h_13 | h_14 | h_18 =>
    obtain rfl := List.length_eq_zero_iff.mp sized
    exact .of_takes (Takes.pure _) trivial
  case h_16 => exact readsIf_value sized (readsIf_streamIdentifier val) _
  case h_17 => exact readsIf_value sized (readsIf_supportedCodecList val) _
  case h_22 =>
    have shape : contentFormat iei = .counted 1 := by
      grind [contentFormat]
    have fit : Fits iei val := by
      unfold Fits
      split <;> trivial
    rw [shape] at sized ⊢
    exact takes_value sized ⟨_, takes_skipBytes val⟩ _ fit

/-- An element that a Setup does not know is skipped. -/
theorem skips_readContent (msg : L3Setup) {iei : Nat} {val : List UInt8}
    (sized : Sized (contentFormat iei) val) (unknown : iei ∉ stored) :
    Takes (readContent msg iei) (bitString (content (contentFormat iei) val)) (some msg) := by
  unfold readContent
  split
  case h_3 | h_19 | h_20 | h_21 => exact takes_skippedOctet sized msg
  case h_18 =>
    obtain rfl := List.length_eq_zero_iff.mp sized
    exact Takes.pure msg
  case h_22 =>
    have shape : contentFormat iei = .counted 1 := by
      grind [contentFormat]
    rw [shape] at sized ⊢
    exact takes_skipped sized msg
  all_goals exact absurd (by decide) unknown

/-- How a Setup reads the values of its elements. -/
theorem contentReading : ContentReading readContent contentFormat Fits Refused stored where
  reads := fun _ _ sized accepted msg => readsIf_readContent msg sized accepted
  refuses := by
    intro iei val ⟨bearer, empty⟩ msg
    subst bearer empty
    change Takes _ (bitString (content (.counted 1) [])) none
    rw [content_counted, bitString_first]
    exact ((takes_length (by decide)).bind (refuses_bearerCapability _)).yield _
  skips := fun _ _ sized _ unknown msg => skips_readContent msg sized unknown

end L3Setup

/-! ## Call Proceeding -/

namespace L3CallProceeding

/-- How the elements of a Call Proceeding are framed. -/
def contentFormat (iei : Nat) : Element.Format :=
  if iei ∈ [0x1e, 0x88] then .fixed 1 else .counted 1

/-- The elements that a Call Proceeding keeps. -/
def stored : List Nat :=
  [0x1e, 0x88, 0x2f]

/-- The values that the parser of a Call Proceeding can read. -/
def Fits (iei : Nat) (_ : List UInt8) : Prop :=
  iei ≠ 0x0d

/-- Half of the length octet is read. -/
theorem misreads_repeatIndicator (msg : L3CallProceeding) (val : List UInt8) :
    Misreads (readContent msg 0x0d) (bitString (content (.counted 1) val)) := by
  rw [content_counted, bitString_first, bitString_halves, List.append_assoc]
  refine .inl ⟨_, _, msg, rfl, ?_, ?_⟩
  · simp [Foundation.valueBits]
  · exact (takes_valueBits _ (by decide) (by decide)).yield fun _ => msg

/-- How a Call Proceeding reads the values of its elements. -/
theorem contentReading : ContentReading readContent contentFormat Fits (fun _ _ => False) stored where
  reads := by
    intro iei val sized _ msg
    unfold readContent
    split
    case h_1 => exact .of_misreads (misreads_repeatIndicator msg val) (not_not_intro rfl)
    case h_2 => exact takes_octetValue takes_progressTV _ sized (by unfold Fits; decide)
    case h_3 => exact takes_octetValue takes_priority _ sized (by unfold Fits; decide)
    case h_4 => exact takes_value sized ⟨_, takes_opaque val⟩ _ (by unfold Fits; decide)
    case h_5 other _ _ _ =>
      have shape : contentFormat iei = .counted 1 := by
        grind [contentFormat]
      rw [shape] at sized ⊢
      exact takes_value sized ⟨_, takes_skipBytes val⟩ _ other
  refuses := by
    intro iei val refused
    exact refused.elim
  skips := by
    intro iei val sized fit unknown msg
    unfold readContent
    split
    case h_1 => exact absurd rfl fit
    case h_5 =>
      have shape : contentFormat iei = .counted 1 := by
        grind [contentFormat]
      rw [shape] at sized ⊢
      exact takes_skipped sized msg
    all_goals exact absurd (by decide) unknown

end L3CallProceeding

/-! ## Connect -/

namespace L3Connect

/-- How the elements of a Connect are framed. -/
def contentFormat (iei : Nat) : Element.Format :=
  if iei ∈ [0x1e, 0x8e] then .fixed 1 else .counted 1

/-- The elements that a Connect keeps. -/
def stored : List Nat :=
  [0x1e, 0x9c, 0x9b, 0x7e, 0x2d]

/-- The values that the parser of a Connect can read. -/
def Fits (iei : Nat) (val : List UInt8) : Prop :=
  match iei with
  | 0x9c => NumberFits val
  | 0x9b => SubAddressFits val
  | 0x2d => val ≠ []
  | _ => True

/-- How a Connect reads the values of its elements. -/
theorem contentReading : ContentReading readContent contentFormat Fits (fun _ _ => False) stored where
  reads := by
    intro iei val sized _ msg
    unfold readContent
    split
    case h_1 => exact takes_octetValue takes_progressTV _ sized trivial
    case h_2 => exact readsIf_value sized (readsIf_calledParty sized) _
    case h_3 => exact readsIf_value sized (readsIf_subAddress sized) _
    case h_4 => exact takes_value sized ⟨_, takes_opaque val⟩ _ trivial
    case h_5 => exact readsIf_value sized (readsIf_streamIdentifier val) _
    case h_6 => exact takes_octetValue (fun octet => ⟨_, takes_skipTV octet⟩) _ sized trivial
    case h_7 =>
      have shape : contentFormat iei = .counted 1 := by
        grind [contentFormat]
      have fit : Fits iei val := by
        unfold Fits
        split <;> trivial
      rw [shape] at sized ⊢
      exact takes_value sized ⟨_, takes_skipBytes val⟩ _ fit
  refuses := by
    intro iei val refused
    exact refused.elim
  skips := by
    intro iei val sized _ unknown msg
    unfold readContent
    split
    case h_6 => exact takes_skippedOctet sized msg
    case h_7 =>
      have shape : contentFormat iei = .counted 1 := by
        grind [contentFormat]
      rw [shape] at sized ⊢
      exact takes_skipped sized msg
    all_goals exact absurd (by decide) unknown

end L3Connect

/-! ## Release Complete of supplementary services -/

namespace L3SupServReleaseCompleteMessage

/-- A half octet is read like an element with a length, and an unknown element without the
first bit in its identifier like a half octet. -/
def Fits (element : Element) : Prop :=
  if isHalfOctet element.type then False
  else if element.type &&& 0x7F = 0x08 then element.val.length = 2
  else if element.type &&& 0x7F = 0x1c then True
  else element.type &&& 0x80 ≠ 0

/-- A cause whose value is refused. -/
def Refused (element : Element) : Prop :=
  element.type &&& 0x7F = 0x08 ∧ CauseRefused element.val

/-- The tags that the message does not know. -/
def Unknown (tag : UInt8) : Prop :=
  tag &&& 0x7F ≠ 0x08 ∧ tag &&& 0x7F ≠ 0x1c

theorem readsIf_cause {val : List UInt8} (accepted : ¬ CauseRefused val) :
    ReadsIf (val.length = 2) L3CauseElement.parse (bitString val) := by
  match val with
  | [] =>
      obtain ⟨read, takes⟩ := @takes_cause 0x60 0x80
        (by unfold causeExtended; decide) (by unfold causeContinued; decide)
      exact .of_more _ (by simp [bitString, Foundation.valueBits]) (.of_takes takes trivial)
        (by decide)
  | [first] =>
      obtain ⟨read, takes⟩ := @takes_cause first 0x80 accepted
        (by unfold causeContinued; decide)
      refine .of_misreads (.inr ⟨bitString [0x80], read, ?_, takes⟩) (by simp)
      simp [bitString, Foundation.valueBits]
  | [first, second] =>
      rw [CauseRefused, not_or] at accepted
      obtain ⟨read, takes⟩ := takes_cause accepted.1 accepted.2
      exact .of_takes takes rfl
  | first :: second :: third :: rest =>
      rw [CauseRefused, not_or] at accepted
      obtain ⟨read, takes⟩ := takes_cause accepted.1 accepted.2
      refine .of_front (List.append_cons [first] second (third :: rest)) takes ?_
      simp

/-- How an element is framed by its tag. -/
def format (tag : UInt8) : Element.Format :=
  if isHalfOctet tag then .fixed 0 else .counted 1

/-- A half octet has the first bit, and no known identifier. -/
theorem half_tag {tag : UInt8} (half : isHalfOctet tag) :
    tag &&& 0x80 ≠ 0 ∧ tag &&& 0x7F ≠ 0x08 ∧ tag &&& 0x7F ≠ 0x1c := by
  revert tag
  apply forall_octet
  decide

/-- The content behind a tag that is no half octet. -/
theorem readsIf_content (msg : L3SupServReleaseCompleteMessage) {element : Element}
    (whole : ¬ isHalfOctet element.type) (small : element.val.length < 256)
    (accepted : ¬ Refused element) :
    ReadsIf (Fits element) (readElement msg)
      (bitString (element.type :: UInt8.ofNat element.val.length :: element.val)) := by
  obtain ⟨tag, val⟩ := element
  have length := takes_length small
  change ¬ isHalfOctet tag at whole
  rw [bitString_first, Fits, if_neg whole]
  refine .after (takes_readOctet tag) ?_
  dsimp only
  by_cases cause : tag &&& 0x7F = 0x08
  · have plain : ¬ CauseRefused val := fun bad => accepted ⟨cause, bad⟩
    rw [if_pos cause, if_pos cause, bitString_first]
    exact .after length ((readsIf_cause plain).yield _)
  · rw [if_neg cause, if_neg cause]
    by_cases facility : tag &&& 0x7F = 0x1c
    · rw [if_pos facility, if_pos facility, bitString_first]
      refine .after length ?_
      cases val with
      | nil => exact .of_takes (Takes.pure msg) trivial
      | cons octet octets =>
          rw [if_pos (by simp)]
          exact .of_takes (((takes_readBytes (octet :: octets)).yield _).yield _) trivial
    · rw [if_neg facility, if_neg facility]
      by_cases ext : tag &&& 0x80 = 0
      · rw [if_neg (by simpa using ext)]
        refine .of_misreads (.inl ⟨[], _, msg, rfl, ?_, Takes.pure msg⟩) (not_not_intro ext)
        exact List.cons_ne_nil _ _
      · rw [if_pos (by simpa using ext), bitString_first]
        refine .after length ?_
        cases val with
        | nil => exact .of_takes (Takes.pure msg) ext
        | cons octet octets =>
            rw [if_pos (by simp)]
            exact .of_takes ((takes_readBytes (octet :: octets)).yield _) ext

/-- How a Release Complete reads its elements. -/
theorem elementReading : ElementReading readElement format Fits Refused Unknown where
  reads := by
    intro element formed accepted msg
    by_cases half : isHalfOctet element.type
    · have shape : format element.type = .fixed 0 := if_pos half
      obtain ⟨ext, cause, facility⟩ := half_tag half
      rw [Element.WellFormed, shape] at formed
      rw [encode_eq, shape, List.length_eq_zero_iff.mp formed, Fits, if_pos half, bitString_first]
      refine .after (takes_readOctet element.type) ?_
      dsimp only
      rw [if_neg cause, if_neg facility, if_pos (by simpa using ext)]
      refine .of_more (bitString [0] ++ []) ?_ (.after (takes_field 0) ?_) id
      · simp [bitString, Foundation.valueBits]
      · exact .of_takes (Takes.pure msg) trivial
    · have shape : format element.type = .counted 1 := if_neg half
      rw [Element.WellFormed, shape] at formed
      rw [encode_eq, shape, content_counted]
      exact readsIf_content msg half formed accepted
  refuses := by
    rintro element formed ⟨cause, bad⟩ msg
    have whole : ¬ isHalfOctet element.type := fun half => (half_tag half).2.1 cause
    have shape : format element.type = .counted 1 := if_neg whole
    rw [Element.WellFormed, shape] at formed
    rw [encode_eq, shape, content_counted, bitString_first, bitString_first]
    refine (takes_readOctet element.type).bind ?_
    dsimp only
    rw [if_pos cause]
    exact (takes_length formed).bind ((refuses_cause bad).yield _)
  skips := by
    rintro element formed fit ⟨cause, facility⟩ msg
    have whole : ¬ isHalfOctet element.type := by
      intro half
      rw [Fits, if_pos half] at fit
      exact fit
    have shape : format element.type = .counted 1 := if_neg whole
    rw [Fits, if_neg whole, if_neg cause, if_neg facility] at fit
    rw [Element.WellFormed, shape] at formed
    rw [encode_eq, shape, content_counted, bitString_first, bitString_first]
    refine (takes_readOctet element.type).bind ?_
    dsimp only
    rw [if_neg cause, if_neg facility, if_pos (by simpa using fit)]
    refine (takes_length formed).bind ?_
    cases element.val with
    | nil => exact Takes.pure msg
    | cons octet octets =>
        rw [if_pos (by simp)]
        exact (takes_readBytes (octet :: octets)).yield _

end L3SupServReleaseCompleteMessage

/-! ## Bodies -/

/-- The messages whose body ends in optional elements. -/
inductive OptionalPart where
  | setup
  | callProceeding
  | connect
  | releaseComplete
deriving DecidableEq, Repr

namespace OptionalPart

/-- The message that a part belongs to. -/
def Message : OptionalPart → Type
  | .setup => L3Setup
  | .callProceeding => L3CallProceeding
  | .connect => L3Connect
  | .releaseComplete => L3SupServReleaseCompleteMessage

/-- The parser of the part. -/
def parse : (part : OptionalPart) → FieldParser part.Message
  | .setup => L3Setup.parse
  | .callProceeding => L3CallProceeding.parse
  | .connect => L3Connect.parse
  | .releaseComplete => L3SupServReleaseCompleteMessage.parse

/-- A round of the loop over the elements. -/
def round : (part : OptionalPart) → part.Message → FieldParser part.Message
  | .setup => readElement L3Setup.readContent
  | .callProceeding => readElement L3CallProceeding.readContent
  | .connect => readElement L3Connect.readContent
  | .releaseComplete => L3SupServReleaseCompleteMessage.readElement

/-- The message without any element. -/
def initial : (part : OptionalPart) → part.Message
  | .setup => ({} : L3Setup)
  | .callProceeding => ({} : L3CallProceeding)
  | .connect => ({} : L3Connect)
  | .releaseComplete => ({} : L3SupServReleaseCompleteMessage)

/-- How the elements of the part are framed. -/
def format : OptionalPart → UInt8 → Element.Format
  | .setup => elementFormat L3Setup.contentFormat
  | .callProceeding => elementFormat L3CallProceeding.contentFormat
  | .connect => elementFormat L3Connect.contentFormat
  | .releaseComplete => L3SupServReleaseCompleteMessage.format

/-- The message has no field for the element. -/
def Unknown : OptionalPart → UInt8 → Prop
  | .setup => fun iei => isHalfOctet iei ∨ iei.toNat ∉ L3Setup.stored
  | .callProceeding => fun iei => isHalfOctet iei ∨ iei.toNat ∉ L3CallProceeding.stored
  | .connect => fun iei => isHalfOctet iei ∨ iei.toNat ∉ L3Connect.stored
  | .releaseComplete => L3SupServReleaseCompleteMessage.Unknown

/-- The parser of the element reads what its length counts. -/
def Fits : OptionalPart → Element → Prop
  | .setup => fun element =>
      isHalfOctet element.type ∨ L3Setup.Fits element.type.toNat element.val
  | .callProceeding => fun element =>
      isHalfOctet element.type ∨ L3CallProceeding.Fits element.type.toNat element.val
  | .connect => fun element =>
      isHalfOctet element.type ∨ L3Connect.Fits element.type.toNat element.val
  | .releaseComplete => L3SupServReleaseCompleteMessage.Fits

/-- The message is refused for the content of the element. -/
def Refused : OptionalPart → Element → Prop
  | .setup => fun element =>
      ¬ isHalfOctet element.type ∧ L3Setup.Refused element.type.toNat element.val
  | .callProceeding => fun element => ¬ isHalfOctet element.type ∧ False
  | .connect => fun element => ¬ isHalfOctet element.type ∧ False
  | .releaseComplete => L3SupServReleaseCompleteMessage.Refused

/-- How each part reads its elements. -/
theorem elementReading (part : OptionalPart) :
    ElementReading part.round part.format part.Fits part.Refused part.Unknown := by
  cases part with
  | setup => exact L3Setup.contentReading.elementReading
  | callProceeding => exact L3CallProceeding.contentReading.elementReading
  | connect => exact L3Connect.contentReading.elementReading
  | releaseComplete => exact L3SupServReleaseCompleteMessage.elementReading

theorem not_refused (part : OptionalPart) {element : Element} (unknown : part.Unknown element.type) :
    ¬ part.Refused element := by
  cases part with
  | setup =>
      rintro ⟨whole, bearer, _⟩
      apply unknown.resolve_left whole
      rw [bearer]
      decide
  | callProceeding => exact fun refused => refused.2
  | connect => exact fun refused => refused.2
  | releaseComplete => exact fun refused => unknown.1 refused.1

/-- Each parser runs rounds over its elements. -/
theorem parse_eq_rounds (part : OptionalPart) :
    part.parse = parseRounds part.round part.initial := by
  cases part with
  | setup => rfl
  | callProceeding => rfl
  | connect => rfl
  | releaseComplete => rfl

/-- A body of optional elements is framed by its lengths if and only if its elements fit, up
to the first one that is refused. -/
theorem framed_iff (part : OptionalPart) {elements : List Element}
    (formed : ∀ element ∈ elements, element.WellFormed part.format) :
    FramedByLength part.parse part.round part.initial part.format part.Unknown elements ↔
      FitUntilRefused part.Fits part.Refused elements := by
  rw [parse_eq_rounds]
  exact part.elementReading.framedByLength_iff (fun _ => part.not_refused) formed part.initial

/-- A codec list of a single octet and two elements without a field in a Setup. -/
def shiftedSetup : List Element :=
  [⟨0x40, [0x34]⟩, ⟨0x50, [0x00]⟩, ⟨0x52, [0x00]⟩]

theorem framed_iff_shiftedSetup :
    (∀ element ∈ shiftedSetup, element.WellFormed (format .setup)) ∧
      (FramedByLength (parse .setup) (round .setup) (initial .setup) (format .setup)
          (Unknown .setup) shiftedSetup ↔
        FitUntilRefused (Fits .setup) (Refused .setup) shiftedSetup) := by
  have formed : ∀ element ∈ shiftedSetup, element.WellFormed (format .setup) := by
    intro element member
    simp only [shiftedSetup, List.mem_cons, List.not_mem_nil, or_false] at member
    rcases member with rfl | rfl | rfl
    · exact (by decide : 1 < 256 ^ 1)
    · exact (by decide : 1 < 256 ^ 1)
    · exact (by decide : 1 < 256 ^ 1)
  exact ⟨formed, framed_iff .setup formed⟩

/-- The octet of the codec list is read as the identifier of a signal, and the identifier of
the next element as its value: without this element, the signal is another one. -/
theorem unknown_element_sets_signal :
    shiftedSetup.flatMap (Element.encode (format .setup)) =
        [0x40, 0x01, 0x34, 0x50, 0x01, 0x00, 0x52, 0x01, 0x00] ∧
      (FieldParser.parse L3Setup.parse
        [0x40, 0x01, 0x34, 0x50, 0x01, 0x00, 0x52, 0x01, 0x00]).map (·.signal) =
          some (some ⟨0x50⟩) ∧
      (FieldParser.parse L3Setup.parse [0x40, 0x01, 0x34, 0x52, 0x01, 0x00]).map (·.signal) =
          some (some ⟨0x52⟩) := by
  decide

end OptionalPart

end Gsml3
