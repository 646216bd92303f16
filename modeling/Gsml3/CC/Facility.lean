import Gsml3.Core.OptionalFields
import Gsml3.RR.Elements

/-!
# Supplementary service components

The body of a component is kept as octets.  What it holds is recognised by looking for fields of
one octet behind a tag and a length of 1, in a body that the caller has put together.
-/

namespace Gsml3

open BitWriter (Op fields)
open Foundation (bitString valueBits)

/-- The components of a supplementary service operation. -/
inductive SSComponent where
  | invoke
  | returnResult
  | returnError
  | reject
deriving DecidableEq, Repr

namespace SSComponent

/-- The tag of a component. -/
def code : SSComponent → UInt8
  | .invoke => 0xA1
  | .returnResult => 0xA2
  | .returnError => 0xA3
  | .reject => 0xA4

/-- The component of a tag. -/
def ofTag (tag : UInt8) : Option SSComponent :=
  if tag = 0xA1 then some .invoke
  else if tag = 0xA2 then some .returnResult
  else if tag = 0xA3 then some .returnError
  else if tag = 0xA4 then some .reject
  else none

theorem ofTag_code (component : SSComponent) : ofTag component.code = some component := by
  cases component <;> rfl

end SSComponent

/-- `SSOpCode::RegisterSS`. -/
def SSOpCode.registerSS : UInt8 := 0x0A

/-- `SSErrorCode::UnknownSubscriber`. -/
def SSErrorCode.unknownSubscriber : UInt8 := 0x01

/-- The fields of a body. -/
structure BodyView where
  invokeId : Int8 := 0
  opCode : UInt8 := SSOpCode.registerSS
  params : List UInt8 := []
  errorCode : UInt8 := SSErrorCode.unknownSubscriber
  hasErrorCode : Bool := false
deriving DecidableEq

/-- A facility: its component and the octets of the body. -/
structure L3FacilityOpCode where
  component : SSComponent := .invoke
  body : List UInt8 := []
deriving DecidableEq, Repr

namespace L3FacilityOpCode

/-! ## Constructors -/

/-- The body of an operation that is invoked. -/
def invoke (invokeId : Int8) (op : UInt8) (params : List UInt8) : L3FacilityOpCode where
  component := .invoke
  body := [0x02, 0x01, invokeId.toUInt8, 0x02, 0x01, op, 0x30, UInt8.ofNat params.length] ++ params

/-- The body of a result. -/
def returnResult (invokeId : Int8) (result : List UInt8) : L3FacilityOpCode where
  component := .returnResult
  body := [0x02, 0x01, invokeId.toUInt8] ++ result

/-- The body of an error. -/
def returnError (invokeId : Int8) (err : UInt8) : L3FacilityOpCode where
  component := .returnError
  body := [0x02, 0x01, invokeId.toUInt8, 0x2C, 0x01, err]

/-- The body of a rejection. -/
def reject (err : UInt8) : L3FacilityOpCode where
  component := .reject
  body := [0x2C, 0x01, err]

/-! ## View -/

/-- The octet of a field with this tag and a length of 1, and what is behind it. -/
def oneOctet (tag : UInt8) : List UInt8 → Option (UInt8 × List UInt8)
  | first :: length :: value :: rest =>
      if first = tag ∧ length = 0x01 then some (value, rest) else none
  | _ => none

/-- What is behind a field that need not be there. -/
def behind (tag : UInt8) (octets : List UInt8) : List UInt8 :=
  ((oneOctet tag octets).map Prod.snd).getD octets

/-- The parameters, where a sequence is whole. -/
def sequence : List UInt8 → List UInt8
  | tag :: len :: rest =>
      if tag = 0x30 ∧ len.toNat ≤ rest.length then rest.take len.toNat else []
  | _ => []

/-- The loop over all positions. -/
def findErrorCode : List UInt8 → Option UInt8
  | [] => none
  | octet :: rest =>
      match oneOctet 0x2C (octet :: rest) with
      | some (errorCode, _) => some errorCode
      | none => findErrorCode rest

/-- What the getters find in the body. -/
def view (facility : L3FacilityOpCode) : BodyView :=
  let invokeId := oneOctet 0x02 facility.body
  let linked := behind 0x80 (behind 0x02 facility.body)
  let opCode := oneOctet 0x02 linked
  let errorCode :=
    if facility.component ≠ .invoke then findErrorCode facility.body else none
  { invokeId := (invokeId.map fun (id, _) => id.toInt8).getD 0
    opCode := (opCode.map Prod.fst).getD SSOpCode.registerSS
    params := sequence (behind 0x02 linked)
    errorCode := errorCode.getD SSErrorCode.unknownSubscriber
    hasErrorCode := errorCode.isSome }

/-! ## Octets -/

/-- The tag, the length octet and the body. -/
def lengthV (facility : L3FacilityOpCode) : Nat :=
  2 + facility.body.length

/-- The component of the tag and the body, as far as it is announced. -/
def parse : List UInt8 → Except ParseError L3FacilityOpCode
  | tag :: len :: rest =>
      match SSComponent.ofTag tag with
      | none => .error {
          code := .invalidValue
          message := "Unknown TCAP component tag in SS Facility" }
      | some component =>
          if rest.length < len.toNat then .error {
            code := .truncatedInput
            message := "SS Facility component length exceeds the data" }
          else .ok { component, body := rest.take len.toNat }
  | _ => .error {
      code := .truncatedInput
      message := "SS Facility data too short for the component header" }

/-- The tag, the length octet and the body. -/
def write (facility : L3FacilityOpCode) : List Op :=
  [.writeField facility.component.code.toUInt32 8,
    .writeField (UInt32.ofNat facility.body.length) 8] ++
    if facility.body ≠ [] then [.writeBytes facility.body] else []

/-- The octets that `write` puts. -/
def octets (facility : L3FacilityOpCode) : List UInt8 :=
  facility.component.code :: UInt8.ofNat facility.body.length :: facility.body

/-! ## Written and parsed -/

section Octets

variable {facility : L3FacilityOpCode}

theorem fields_write (facility : L3FacilityOpCode) (pos : Nat) :
    fields pos facility.write = bitString facility.octets := by
  have length : valueBits 8 (UInt32.ofNat facility.body.length).toNat =
      valueBits 8 (UInt8.ofNat facility.body.length).toNat := by
    rw [UInt32.toNat_ofNat', UInt8.toNat_ofNat', ← FieldParser.valueBits_mod,
      Nat.mod_mod_of_dvd _ (by decide)]
  have body : ∀ pos, fields pos (if facility.body ≠ [] then [.writeBytes facility.body] else []) =
      bitString facility.body := by
    intro pos
    split
    case isTrue => exact List.append_nil _
    case isFalse empty =>
      rw [not_not.mp empty]
      rfl
  rw [write, BitWriter.fields_append, body, octets, Foundation.bitString_cons,
    Foundation.bitString_cons, ← List.append_assoc, ← length, ← UInt8.toNat_toUInt32]
  rfl

/-- The length octet holds the length of the body modulo 256. -/
theorem parse_octets (facility : L3FacilityOpCode) :
    parse facility.octets =
      .ok { facility with body := facility.body.take (facility.body.length % 256) } := by
  rw [octets, parse, SSComponent.ofTag_code]
  have enough : ¬ facility.body.length < (UInt8.ofNat facility.body.length).toNat := by
    rw [UInt8.toNat_ofNat']
    exact Nat.not_lt.mpr (Nat.mod_le _ _)
  simp only [if_neg enough]
  rw [UInt8.toNat_ofNat']

theorem parse_octets_iff (facility : L3FacilityOpCode) :
    parse facility.octets = .ok facility ↔ facility.body.length < 256 := by
  obtain ⟨component, body⟩ := facility
  rw [parse_octets, Except.ok.injEq, mk.injEq, List.take_eq_self_iff]
  constructor
  · rintro ⟨-, whole⟩
    exact whole.trans_lt (Nat.mod_lt _ (by decide))
  · intro fits
    exact ⟨rfl, (Nat.mod_eq_of_lt fits).ge⟩

end Octets

/-! ## What the view finds -/

section View

variable {tag octet err : UInt8} {octets rest : List UInt8}

theorem oneOctet_eq_some_iff :
    oneOctet tag octets = some (octet, rest) ↔ octets = tag :: 0x01 :: octet :: rest := by
  constructor
  · intro found
    match octets with
    | first :: length :: value :: later =>
        rw [oneOctet] at found
        split at found
        case isTrue same =>
          obtain ⟨rfl, rfl⟩ := same
          obtain ⟨rfl, rfl⟩ := Prod.mk.inj (Option.some.inj found)
          rfl
        case isFalse => cases found
    | [] | [_] | [_, _] => cases found
  · rintro rfl
    exact if_pos ⟨rfl, rfl⟩

/-- A field with an error code, at any position. -/
def HasErrorField (octets : List UInt8) : Prop :=
  ∃ before err after, octets = before ++ 0x2C :: 0x01 :: err :: after

theorem hasErrorField_cons :
    HasErrorField (octet :: rest) ↔
      (∃ err after, octet :: rest = 0x2C :: 0x01 :: err :: after) ∨ HasErrorField rest := by
  constructor
  · rintro ⟨before, err, after, split⟩
    cases before with
    | nil => exact .inl ⟨err, after, split⟩
    | cons first before => exact .inr ⟨before, err, after, (List.cons.inj split).2⟩
  · rintro (⟨err, after, here⟩ | ⟨before, err, after, later⟩)
    · exact ⟨[], err, after, here⟩
    · exact ⟨octet :: before, err, after, congrArg (octet :: ·) later⟩

theorem findErrorCode_isSome_iff (octets : List UInt8) :
    (findErrorCode octets).isSome ↔ HasErrorField octets := by
  induction octets with
  | nil =>
      refine iff_of_false nofun ?_
      rintro ⟨before, err, after, split⟩
      exact List.append_ne_nil_of_right_ne_nil before (List.cons_ne_nil _ _) split.symm
  | cons octet rest ih =>
      rw [hasErrorField_cons, findErrorCode]
      split
      case h_1 err later found =>
        exact iff_of_true rfl (.inl ⟨err, later, oneOctet_eq_some_iff.mp found⟩)
      case h_2 missing =>
        rw [ih]
        refine ⟨.inr, ?_⟩
        rintro (⟨err, after, here⟩ | later)
        · rw [oneOctet_eq_some_iff.mpr here] at missing
          cases missing
        · exact later

end View

/-! ## Components and their views -/

/-- A call of a constructor. -/
inductive Request where
  | invoke (invokeId : Int8) (op : UInt8) (params : List UInt8)
  | returnResult (invokeId : Int8) (result : List UInt8)
  | returnError (invokeId : Int8) (err : UInt8)
  | reject (err : UInt8)
deriving DecidableEq

namespace Request

/-- The facility of a request. -/
def build : Request → L3FacilityOpCode
  | .invoke invokeId op params => L3FacilityOpCode.invoke invokeId op params
  | .returnResult invokeId result => L3FacilityOpCode.returnResult invokeId result
  | .returnError invokeId err => L3FacilityOpCode.returnError invokeId err
  | .reject err => L3FacilityOpCode.reject err

/-- A view has what was passed to the constructor. -/
def Reported (view : BodyView) : Request → Prop
  | .invoke invokeId op params =>
      view.invokeId = invokeId ∧ view.opCode = op ∧ view.params = params
  | .returnResult invokeId _ => view.invokeId = invokeId ∧ view.hasErrorCode = false
  | .returnError invokeId err =>
      view.invokeId = invokeId ∧ view.hasErrorCode = true ∧ view.errorCode = err
  | .reject err => view.hasErrorCode = true ∧ view.errorCode = err

/-- The written octets are parsed to the component, whose view reports what was passed. -/
structure Carried (request : Request) : Prop where
  parsed : parse request.build.octets = .ok request.build
  reported : request.Reported request.build.view

/-- The body fits its length octet, and the octets behind the tag and length of the invoke
identifier do not have a field with an error code in them. -/
def HoldsWhen : Request → Prop
  | .invoke _ _ params => params.length ≤ 247
  | .returnResult invokeId result =>
      result.length ≤ 252 ∧ ¬ HasErrorField (invokeId.toUInt8 :: result)
  | _ => True

theorem invoke_view (invokeId : Int8) (op : UInt8) {params : List UInt8}
    (fits : params.length < 256) :
    (L3FacilityOpCode.invoke invokeId op params).view =
      { invokeId := invokeId, opCode := op, params := params } := by
  have len : (UInt8.ofNat params.length).toNat = params.length := by
    rw [UInt8.toNat_ofNat', Nat.mod_eq_of_lt fits]
  have found : sequence (0x30 :: UInt8.ofNat params.length :: params) = params := by
    rw [sequence, if_pos ⟨rfl, len.le⟩, len, List.take_length]
  change BodyView.mk invokeId.toUInt8.toInt8 op
    (sequence (0x30 :: UInt8.ofNat params.length :: params)) _ _ = _
  rw [found, Int8.toInt8_toUInt8]
  rfl

theorem returnResult_view (invokeId : Int8) (result : List UInt8) :
    (L3FacilityOpCode.returnResult invokeId result).view.invokeId = invokeId ∧
      ((L3FacilityOpCode.returnResult invokeId result).view.hasErrorCode = true ↔
        HasErrorField (invokeId.toUInt8 :: result)) := by
  refine ⟨Int8.toInt8_toUInt8 _, ?_⟩
  change (findErrorCode (0x02 :: 0x01 :: invokeId.toUInt8 :: result)).isSome ↔ _
  rw [findErrorCode_isSome_iff, hasErrorField_cons, hasErrorField_cons]
  constructor
  · rintro (⟨_, _, first⟩ | ⟨_, _, second⟩ | later)
    · cases first
    · cases second
    · exact later
  · exact fun later => .inr (.inr later)

/-- The invoke identifier in front of the error is not taken for the tag of one. -/
theorem returnError_view (invokeId : Int8) (err : UInt8) :
    (returnError invokeId err).Reported (L3FacilityOpCode.returnError invokeId err).view := by
  have found : findErrorCode (L3FacilityOpCode.returnError invokeId err).body = some err := by
    simp [L3FacilityOpCode.returnError, findErrorCode, oneOctet]
  refine ⟨Int8.toInt8_toUInt8 _, ?_, ?_⟩
  · change (findErrorCode _).isSome = true
    rw [found]
    rfl
  · change (findErrorCode _).getD _ = err
    rw [found]
    rfl

theorem carried_iff (request : Request) : request.Carried ↔ request.HoldsWhen := by
  have both : request.Carried ↔
      request.build.body.length < 256 ∧ request.Reported request.build.view :=
    ⟨fun carried => ⟨(parse_octets_iff _).mp carried.parsed, carried.reported⟩,
      fun ⟨fits, reported⟩ => ⟨(parse_octets_iff _).mpr fits, reported⟩⟩
  rw [both]
  cases request with
  | invoke invokeId op params =>
      have length : (L3FacilityOpCode.invoke invokeId op params).body.length =
          params.length + 8 := rfl
      rw [build, length, HoldsWhen]
      constructor
      · rintro ⟨fits, -⟩
        omega
      · intro fits
        rw [invoke_view invokeId op (by omega)]
        exact ⟨by omega, rfl, rfl, rfl⟩
  | returnResult invokeId result =>
      have length : (L3FacilityOpCode.returnResult invokeId result).body.length =
          result.length + 3 := rfl
      obtain ⟨id, error⟩ := returnResult_view invokeId result
      rw [build, length, HoldsWhen, ← error, Reported, Bool.not_eq_true]
      constructor
      · rintro ⟨fits, -, none⟩
        exact ⟨by omega, none⟩
      · rintro ⟨fits, none⟩
        exact ⟨by omega, id, none⟩
  | returnError invokeId err =>
      have fits : (L3FacilityOpCode.returnError invokeId err).body.length < 256 := by
        change 6 < 256
        decide
      exact iff_of_true ⟨fits, returnError_view invokeId err⟩ trivial
  | reject err =>
      have fits : (L3FacilityOpCode.reject err).body.length < 256 := by
        change 3 < 256
        decide
      exact iff_of_true ⟨fits, rfl, rfl⟩ trivial

end Request

/-- Every component is written with its whole body.  It is parsed to itself, with a view that
reports what was passed to its constructor, if and only if the body has at most 255 octets and
a result does not have a field in it that is taken for an error. -/
theorem facility_carried_iff (request : Request) :
    (∀ pos, fields pos request.build.write = bitString request.build.octets) ∧
      (request.Carried ↔ request.HoldsWhen) :=
  ⟨fields_write request.build, request.carried_iff⟩

/-- A result with the octets of an error field in its data is reported as an error. -/
theorem result_taken_for_error :
    ¬ (Request.returnResult 5 [0x30, 0x05, 0x04, 0x03, 0x2C, 0x01, 0x22]).Carried := by
  intro carried
  have reported := carried.reported.2
  revert reported
  decide

end L3FacilityOpCode

end Gsml3
