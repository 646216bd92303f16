import Gsml3.SM.Messages

/-!
# The optional elements of session management messages

What the loop over the elements makes of the octets behind the leading part, element by element:
the octets of a refused address that were looked at are lost, and no others.  Octets that were kept
are kept again by a message that has the elements which were found.
-/

namespace Gsml3

open BitWriter (Op octetsWritten)
open FieldParser

/-! ## Addresses -/

namespace L3PDPAddress

/-- What the parser does with octets. -/
def ofOctets (lengthBytes : Nat) : OptionT (StateM (List UInt8)) L3PDPAddress := do
  if lengthBytes < 2 then failure
  else
    let firstOctet ← OctetParser.next.stopping
    if firstOctet &&& 0xF0 ≠ 0 then failure
    else
      let typeNumber ← OctetParser.next.stopping
      match PdpTypeNumber.ofCode? typeNumber with
      | none => failure
      | some typeNumber =>
          if lengthBytes = 2 then pure { typeOrg := firstOctet &&& 0x0F, typeNumber }
          else if lengthBytes = 2 + typeNumber.addressOctets then
            let octets ← (OctetParser.take typeNumber.addressOctets).stopping
            pure {
              typeOrg := firstOctet &&& 0x0F
              typeNumber
              staticAddress := true
              address := .ofFn fun i => octets.getD i 0 }
          else failure

/-- The address parser stops where the octet reader stops. -/
theorem halts_parse (lengthBytes : Nat) : Halts (parse lengthBytes) (ofOctets lengthBytes) := by
  rw [parse, ofOctets]
  split
  case isTrue => apply Halts.refuse
  case isFalse =>
    apply (Halts.read octetwise_readOctet).bind
    intro firstOctet
    split
    case isTrue => apply Halts.refuse
    case isFalse =>
      apply (Halts.read octetwise_readOctet).bind
      intro typeNumber
      cases PdpTypeNumber.ofCode? typeNumber with
      | none => apply Halts.refuse
      | some typeNumber =>
          dsimp only
          split
          case isTrue => apply Halts.pure
          case isFalse =>
            split
            case isTrue => exact (Halts.read (octetwise_readBytes _)).bind fun _ => Halts.pure _
            case isFalse => apply Halts.refuse

/-- The octets that are written. -/
def octets (addr : L3PDPAddress) : List UInt8 :=
  octetsWritten addr.write

theorem octets_eq (addr : L3PDPAddress) :
    addr.octets = (addr.typeOrg &&& 0x0F) :: addr.typeNumber.code ::
      if addr.staticAddress then addr.address.toList.take addr.addressSize else [] := by
  rw [octets, write]
  cases addr.staticAddress <;> simp [Op.octets]

theorem whole_write (addr : L3PDPAddress) : ∀ op ∈ addr.write, op.Whole := by
  intro op member
  rcases List.mem_append.mp member with front | behind
  · rcases List.mem_pair.mp front with rfl | rfl
    · exact rfl
    · exact rfl
  · split at behind
    case isTrue =>
      obtain rfl := List.mem_singleton.mp behind
      trivial
    case isFalse => cases behind

/-- An address takes the octets counted for it. -/
theorem octets_length (addr : L3PDPAddress) : addr.octets.length = addr.lengthV := by
  have fits : addr.typeNumber.addressOctets ≤ 16 := by cases addr.typeNumber <;> decide
  rw [octets_eq, lengthV, addressSize]
  split
  case isTrue =>
    rw [List.length_cons, List.length_cons, List.length_take, Vector.length_toList,
      Nat.min_eq_left fits]
    omega
  case isFalse => rfl

/-! ### What is read of octets -/

section Run

variable {lengthBytes : Nat} {firstOctet code : UInt8} {octets rest : List UInt8}
  {typeNumber : PdpTypeNumber} {addr : L3PDPAddress}

theorem run_short (short : lengthBytes < 2) :
    (ofOctets lengthBytes).run.run octets = (none, octets) := by
  rw [ofOctets, if_pos short]
  rfl

/-- Behind an organization the type decides. -/
theorem run_long (long : ¬lengthBytes < 2) :
    (ofOctets lengthBytes).run.run octets =
      match octets with
      | [] => (none, [])
      | firstOctet :: octets =>
          if firstOctet &&& 0xF0 ≠ 0 then (none, octets)
          else
            match octets with
            | [] => (none, [])
            | code :: rest =>
                match PdpTypeNumber.ofCode? code with
                | none => (none, rest)
                | some typeNumber =>
                    if lengthBytes = 2 then
                      (some { typeOrg := firstOctet &&& 0x0F, typeNumber }, rest)
                    else if lengthBytes = 2 + typeNumber.addressOctets then
                      if rest.length < typeNumber.addressOctets then (none, rest)
                      else
                        (some {
                          typeOrg := firstOctet &&& 0x0F
                          typeNumber
                          staticAddress := true
                          address := .ofFn fun i =>
                            (rest.take typeNumber.addressOctets).getD i 0 },
                          rest.drop typeNumber.addressOctets)
                    else (none, rest) := by
  rw [ofOctets, if_neg long]
  cases octets with
  | nil => rw [OctetParser.next_nil]
  | cons firstOctet octets =>
      rw [OctetParser.next_cons]
      dsimp only
      split
      case isTrue => rfl
      case isFalse =>
        cases octets with
        | nil => rw [OctetParser.next_nil]
        | cons code rest =>
            rw [OctetParser.next_cons]
            dsimp only
            cases PdpTypeNumber.ofCode? code with
            | none => rfl
            | some typeNumber =>
                dsimp only
                split
                case isTrue => rfl
                case isFalse =>
                  split
                  case isFalse => rfl
                  case isTrue =>
                    split
                    case isTrue few => rw [OctetParser.take_short _ few]
                    case isFalse enough =>
                      rw [OctetParser.take_enough _ enough]
                      rfl

/-! ### Addresses that are read again -/

/-- An organization in its half of an octet, and zeros behind the octets of the address. -/
structure Canonical (addr : L3PDPAddress) : Prop where
  typeOrg : addr.typeOrg &&& 0x0F = addr.typeOrg
  address : addr.address = .ofFn fun i => (addr.address.toList.take addr.addressSize).getD i 0

theorem masked_nibble : ∀ octet : UInt8,
    (octet &&& 0x0F) &&& 0x0F = octet &&& 0x0F ∧ (octet &&& 0x0F) &&& 0xF0 = 0 := by
  apply Foundation.forall_octet
  decide

/-- The code of a type number gives it back. -/
theorem ofCode_code (typeNumber : PdpTypeNumber) :
    PdpTypeNumber.ofCode? typeNumber.code = some typeNumber := by
  cases typeNumber <;> decide

/-- The octets of a value at the front of an array. -/
theorem take_ofFn {octets : List UInt8} (fits : octets.length ≤ 16) :
    (Vector.ofFn fun i : Fin 16 => octets.getD i 0).toList.take octets.length = octets := by
  apply List.ext_getElem
  · rw [List.length_take, Vector.length_toList, Nat.min_eq_left fits]
  · intro i _ inside
    rw [List.getElem_take, Vector.getElem_toList, Vector.getElem_ofFn,
      List.getD_eq_getElem _ _ inside]

theorem addressOctets_le (typeNumber : PdpTypeNumber) : typeNumber.addressOctets ≤ 16 := by
  cases typeNumber <;> decide

/-- A canonical address is read from its octets. -/
theorem reads_octets (canonical : addr.Canonical) (more : List UInt8) :
    (ofOctets addr.lengthV).run.run (addr.octets ++ more) = (some addr, more) := by
  have long : ¬addr.lengthV < 2 := Nat.not_lt.mpr (Nat.le_add_right 2 _)
  have organized : ¬(addr.typeOrg &&& 0x0F) &&& 0xF0 ≠ 0 :=
    not_not.mpr (masked_nibble addr.typeOrg).2
  have address := canonical.address
  rw [run_long long, octets_eq]
  dsimp only [List.cons_append]
  rw [if_neg organized, ofCode_code, (masked_nibble addr.typeOrg).1, canonical.typeOrg]
  dsimp only
  cases static : addr.staticAddress with
  | false =>
      have none : addr.addressSize = 0 := by rw [addressSize, static]; rfl
      rw [none] at address
      rw [if_pos (by rw [lengthV, none]), if_neg Bool.false_ne_true]
      have same : addr = { typeOrg := addr.typeOrg, typeNumber := addr.typeNumber } := by
        obtain ⟨org, type, found, octets⟩ := addr
        obtain rfl : found = false := static
        rw [show octets = _ from address]
        rfl
      rw [← same]
      rfl
  | true =>
      have all : addr.addressSize = addr.typeNumber.addressOctets := by
        rw [addressSize, static, if_pos rfl]
      have filled : addr.typeNumber.addressOctets ≠ 0 := by cases addr.typeNumber <;> decide
      have size : (addr.address.toList.take addr.addressSize).length =
          addr.typeNumber.addressOctets := by
        rw [all, List.length_take, Vector.length_toList, Nat.min_eq_left (addressOctets_le _)]
      rw [if_neg (by rw [lengthV, all]; omega), if_pos (by rw [lengthV, all]), if_pos rfl,
        if_neg (by rw [List.length_append, size]; omega), ← size, List.take_left, List.drop_left,
        ← address, ← static]

/-- An address that was read is canonical and took its length. -/
theorem of_read (read : (ofOctets lengthBytes).run.run octets = (some addr, rest)) :
    addr.Canonical ∧ lengthBytes = addr.lengthV ∧
      octets.length = addr.lengthV + rest.length := by
  by_cases short : lengthBytes < 2
  · rw [run_short short] at read
    cases read
  rw [run_long short] at read
  cases octets with
  | nil => cases read
  | cons firstOctet octets =>
      dsimp only at read
      split at read
      case isTrue => cases read
      case isFalse =>
        cases octets with
        | nil => cases read
        | cons code behind =>
            dsimp only at read
            cases type : PdpTypeNumber.ofCode? code with
            | none =>
                rw [type] at read
                cases read
            | some typeNumber =>
                rw [type] at read
                dsimp only at read
                have masked := (masked_nibble firstOctet).1
                split at read
                case isTrue two =>
                  obtain ⟨same, rfl⟩ := Prod.mk.inj read
                  obtain rfl := Option.some.inj same
                  refine ⟨⟨masked, rfl⟩, two, ?_⟩
                  rw [List.length_cons, List.length_cons, Nat.add_assoc, Nat.add_comm]
                  rfl
                case isFalse =>
                  split at read
                  case isFalse => cases read
                  case isTrue whole =>
                    split at read
                    case isTrue => cases read
                    case isFalse enough =>
                      obtain ⟨same, rfl⟩ := Prod.mk.inj read
                      obtain rfl := Option.some.inj same
                      have size := List.length_take_of_le (Nat.le_of_not_lt enough)
                      have fits := size.le.trans (addressOctets_le typeNumber)
                      refine ⟨⟨masked, ?_⟩, whole, ?_⟩
                      · have front := take_ofFn fits
                        rw [size] at front
                        change _ = Vector.ofFn fun i : Fin 16 => List.getD (List.take
                          typeNumber.addressOctets (Vector.toList (.ofFn fun i : Fin 16 => _))) i 0
                        rw [front]
                      · change behind.length + 1 + 1 = 2 + typeNumber.addressOctets + _
                        rw [List.length_drop]
                        omega

theorem rest_le (long : ¬lengthBytes < 2) :
    ((ofOctets lengthBytes).run.run (firstOctet :: octets)).2.length ≤ octets.length := by
  rw [run_long long]
  dsimp only
  split
  case isTrue => exact le_rfl
  case isFalse =>
    cases octets with
    | nil => exact le_rfl
    | cons code rest =>
        dsimp only
        cases PdpTypeNumber.ofCode? code with
        | none => exact Nat.le_succ _
        | some typeNumber =>
            dsimp only
            split
            case isTrue => exact Nat.le_succ _
            case isFalse =>
              split
              case isFalse => exact Nat.le_succ _
              case isTrue =>
                split
                case isTrue => exact Nat.le_succ _
                case isFalse =>
                  rw [List.length_drop]
                  exact (Nat.sub_le _ _).trans (Nat.le_succ _)

/-- A refused address of two octets or more has lost some. -/
theorem of_refused (refused : (ofOctets lengthBytes).run.run octets = (none, rest)) :
    rest.length ≤ octets.length ∧ (lengthBytes < 2 → rest = octets) ∧
      (2 ≤ lengthBytes → octets ≠ [] → rest.length < octets.length) := by
  by_cases short : lengthBytes < 2
  · rw [run_short short] at refused
    obtain ⟨-, rfl⟩ := Prod.mk.inj refused
    exact ⟨le_rfl, fun _ => rfl, fun long => absurd short (Nat.not_lt.mpr long)⟩
  · cases octets with
    | nil =>
        rw [run_long short] at refused
        obtain ⟨-, rfl⟩ := Prod.mk.inj refused
        exact ⟨le_rfl, fun less => absurd less short, fun _ some_octet => absurd rfl some_octet⟩
    | cons firstOctet octets =>
        have less := @rest_le lengthBytes firstOctet octets short
        rw [refused] at less
        have strict := Nat.lt_succ_of_le less
        exact ⟨strict.le, fun less => absurd less short, fun _ _ => strict⟩

end Run

end L3PDPAddress

/-! ## Elements -/

namespace SMOptions

/-- What an element in one octet makes of the options. -/
def single (known : KnownElements) (options : SMOptions) (raw : UInt8) : Option SMOptions :=
  if known.requestType ∧ raw &&& 0xF0 = 0xA0 then
    some (if options.requestType = none then { options with requestType := some (raw &&& 0x0F) }
      else options.keep [raw])
  else if known.tearDownIndicator ∧ raw &&& 0xF0 = 0x90 then
    some { options with tearDownIndicator := some (raw &&& 0x01 ≠ 0) }
  else none

/-- What an element behind its header makes of the options, if it is not to be kept as octets, and
the octets that are left then. -/
def typed (known : KnownElements) (options : SMOptions) (iei len : UInt8) (octets : List UInt8) :
    Option SMOptions × List UInt8 :=
  if iei = pdpAddressIEI ∧ known.pdpAddress ∧ options.pdpAddress = none then
    let stopped := (L3PDPAddress.ofOctets len.toNat).run.run octets
    (stopped.1.map fun addr => { options with pdpAddress := some addr }, stopped.2)
  else if iei = apnIEI ∧ known.apn ∧ options.apn = none then
    let stopped := (OctetParser.take len.toNat).stopping.run.run octets
    (stopped.1.map fun apn => { options with apn := some apn }, stopped.2)
  else if iei = pcoIEI ∧ options.pco = none then
    let stopped := (OctetParser.take len.toNat).stopping.run.run octets
    (stopped.1.map fun pco => { options with pco := some pco }, stopped.2)
  else (none, octets)

def typedOctets (known : KnownElements) (options : SMOptions) (iei len : UInt8) :
    OctetParser (Option SMOptions) := fun octets =>
  some (typed known options iei len octets)

def header : OctetParser (UInt8 × UInt8) := do
  let rawType ← OctetParser.next
  let len ← OctetParser.next
  pure (rawType &&& 0x7F, len)

/-- An element behind its header. -/
def tlv (known : KnownElements) (options : SMOptions) : OctetParser SMOptions := do
  let found ← header
  match ← typedOctets known options found.1 found.2 with
  | some next => pure next
  | none => do
      let value ← OctetParser.take found.2.toNat
      pure (options.keep (found.1 :: found.2 :: value))

/-- A round of the loop. -/
def element (known : KnownElements) (options : SMOptions) : OctetParser (Option SMOptions)
  | [] => some (none, [])
  | raw :: octets =>
      match single known options raw with
      | some next => some (some next, octets)
      | none =>
          if octets = [] then some (none, [raw])
          else (some <$> tlv known options) (raw :: octets)

/-- An element that its parser is tried on. -/
def Wanted (known : KnownElements) (options : SMOptions) (iei : UInt8) : Prop :=
  iei = pdpAddressIEI ∧ known.pdpAddress ∧ options.pdpAddress = none ∨
    iei = apnIEI ∧ known.apn ∧ options.apn = none ∨ iei = pcoIEI ∧ options.pco = none

section Typed

variable {known : KnownElements} {options next : SMOptions} {iei len : UInt8}
  {octets rest : List UInt8}

/-- Octets that were taken stood in front. -/
theorem run_take_some {count : Nat} {value : List UInt8}
    (read : (OctetParser.take count).stopping.run.run octets = (some value, rest)) :
    octets = value ++ rest ∧ value.length = count := by
  rw [OctetParser.run_stopping] at read
  cases found : OctetParser.take count octets with
  | none =>
      rw [found] at read
      cases read
  | some result =>
      obtain ⟨value', rest'⟩ := result
      rw [found] at read
      obtain ⟨size, split⟩ := OctetParser.take_eq_some found
      obtain ⟨same, rfl⟩ := Prod.mk.inj read
      obtain rfl := Option.some.inj same
      exact ⟨split, size⟩

/-- Octets that were not taken are all still there. -/
theorem run_take_none {count : Nat}
    (read : (OctetParser.take count).stopping.run.run octets = (none, rest)) :
    rest = octets ∧ octets.length < count := by
  rw [OctetParser.run_stopping, OctetParser.take] at read
  by_cases short : octets.length < count
  · rw [if_pos short] at read
    exact ⟨(Prod.mk.inj read).2.symm, short⟩
  · rw [if_neg short] at read
    cases read

/-- A typed element, and the value that was read for it. -/
inductive Reads (known : KnownElements) (options : SMOptions) (iei len : UInt8)
    (octets rest : List UInt8) : SMOptions → Prop where
  | pdpAddress {addr : L3PDPAddress} (type : iei = pdpAddressIEI) (knows : known.pdpAddress = true)
      (missing : options.pdpAddress = none)
      (read : (L3PDPAddress.ofOctets len.toNat).run.run octets = (some addr, rest)) :
      Reads known options iei len octets rest { options with pdpAddress := some addr }
  | apn {value : List UInt8} (type : iei = apnIEI) (knows : known.apn = true)
      (missing : options.apn = none) (read : octets = value ++ rest)
      (size : value.length = len.toNat) :
      Reads known options iei len octets rest { options with apn := some value }
  | pco {value : List UInt8} (type : iei = pcoIEI) (missing : options.pco = none)
      (read : octets = value ++ rest) (size : value.length = len.toNat) :
      Reads known options iei len octets rest { options with pco := some value }

/-- A known element that was read. -/
theorem reads_of_typed (found : typed known options iei len octets = (some next, rest)) :
    Reads known options iei len octets rest next := by
  rw [typed] at found
  split at found
  case isTrue address =>
    obtain ⟨type, known, missing⟩ := address
    cases stopped : (L3PDPAddress.ofOctets len.toNat).run.run octets with
    | mk addr left =>
        rw [stopped] at found
        obtain ⟨same, rfl⟩ := Prod.mk.inj found
        obtain ⟨addr, rfl, rfl⟩ := Option.map_eq_some_iff.mp same
        exact .pdpAddress type known missing stopped
  case isFalse =>
    split at found
    case isTrue name =>
      obtain ⟨type, known, missing⟩ := name
      cases stopped : (OctetParser.take len.toNat).stopping.run.run octets with
      | mk value left =>
          rw [stopped] at found
          obtain ⟨same, rfl⟩ := Prod.mk.inj found
          obtain ⟨value, rfl, rfl⟩ := Option.map_eq_some_iff.mp same
          obtain ⟨read, size⟩ := run_take_some stopped
          exact .apn type known missing read size
    case isFalse =>
      split at found
      case isTrue protocol =>
        obtain ⟨type, missing⟩ := protocol
        cases stopped : (OctetParser.take len.toNat).stopping.run.run octets with
        | mk value left =>
            rw [stopped] at found
            obtain ⟨same, rfl⟩ := Prod.mk.inj found
            obtain ⟨value, rfl, rfl⟩ := Option.map_eq_some_iff.mp same
            obtain ⟨read, size⟩ := run_take_some stopped
            exact .pco type missing read size
      case isFalse => cases found

/-- An element that is not wanted has moved nothing. -/
theorem typed_unwanted (unwanted : ¬Wanted known options iei) :
    typed known options iei len octets = (none, octets) := by
  rw [Wanted, not_or, not_or] at unwanted
  rw [typed, if_neg unwanted.1, if_neg unwanted.2.1, if_neg unwanted.2.2]

/-- An element that is not typed: not wanted, longer than what is left, or a refused address. -/
theorem refused_cases (refused : typed known options iei len octets = (none, rest)) :
    rest = octets ∧ (¬Wanted known options iei ∨ octets.length < len.toNat) ∨
      iei = pdpAddressIEI ∧ known.pdpAddress ∧ options.pdpAddress = none ∧
        (L3PDPAddress.ofOctets len.toNat).run.run octets = (none, rest) := by
  rw [typed] at refused
  split at refused
  case isTrue address =>
    cases stopped : (L3PDPAddress.ofOctets len.toNat).run.run octets with
    | mk addr left =>
        rw [stopped] at refused
        obtain ⟨failed, rfl⟩ := Prod.mk.inj refused
        obtain rfl := Option.map_eq_none_iff.mp failed
        exact .inr ⟨address.1, address.2.1, address.2.2, rfl⟩
  case isFalse other =>
    left
    split at refused
    case isTrue =>
      cases stopped : (OctetParser.take len.toNat).stopping.run.run octets with
      | mk value left =>
          rw [stopped] at refused
          obtain ⟨failed, rfl⟩ := Prod.mk.inj refused
          obtain rfl := Option.map_eq_none_iff.mp failed
          obtain ⟨same, short⟩ := run_take_none stopped
          exact ⟨same, .inr short⟩
    case isFalse other' =>
      split at refused
      case isTrue =>
        cases stopped : (OctetParser.take len.toNat).stopping.run.run octets with
        | mk value left =>
            rw [stopped] at refused
            obtain ⟨failed, rfl⟩ := Prod.mk.inj refused
            obtain rfl := Option.map_eq_none_iff.mp failed
            obtain ⟨same, short⟩ := run_take_none stopped
            exact ⟨same, .inr short⟩
      case isFalse other'' =>
        refine ⟨(Prod.mk.inj refused).2.symm, .inl ?_⟩
        rintro (wanted | wanted | wanted)
        · exact other wanted
        · exact other' wanted
        · exact other'' wanted

/-- A value that is read holds the octets of its element. -/
theorem Reads.length_eq (reads : Reads known options iei len octets rest next) :
    next.length + rest.length = options.length + (2 + octets.length) := by
  cases reads with
  | pdpAddress type knows missing read =>
      have size := (L3PDPAddress.of_read read).2.2
      simp only [length, missing, Option.elim_none, Option.elim_some]
      omega
  | apn type knows missing read size =>
      rw [read, List.length_append]
      simp only [length, missing, Option.elim_none, Option.elim_some]
      omega
  | pco type missing read size =>
      rw [read, List.length_append]
      simp only [length, missing, Option.elim_none, Option.elim_some]
      omega

/-- A known element only takes octets away. -/
theorem typed_length_le (found : typed known options iei len octets = (some next, rest)) :
    rest.length ≤ octets.length := by
  cases reads_of_typed found with
  | pdpAddress type knows missing read =>
      rw [(L3PDPAddress.of_read read).2.2]
      exact Nat.le_add_left _ _
  | apn type knows missing read size =>
      rw [read, List.length_append]
      exact Nat.le_add_left _ _
  | pco type missing read size =>
      rw [read, List.length_append]
      exact Nat.le_add_left _ _

/-- A refused element only takes octets away. -/
theorem refused_length_le (refused : typed known options iei len octets = (none, rest)) :
    rest.length ≤ octets.length := by
  rcases refused_cases refused with ⟨rfl, -⟩ | ⟨-, -, -, stopped⟩
  · exact le_rfl
  · exact (L3PDPAddress.of_refused stopped).1

end Typed

/-- Known elements are read octet by octet. -/
theorem octetwise_readTyped (known : KnownElements) (options : SMOptions) (iei len : UInt8) :
    Octetwise (readTyped known options iei len) (typedOctets known options iei len) := by
  have attempted {α : Type} {parser : StoppingParser α} {reader : OptionT (StateM (List UInt8)) α}
      (halts : Halts parser reader) (f : α → SMOptions) :
      Octetwise (parser.attempt >>= fun found => pure (found.map f)) fun octets =>
        some ((reader.run.run octets).1.map f, (reader.run.run octets).2) :=
    halts.attempt.bind fun found => Octetwise.pure (found.map f)
  rw [readTyped]
  unfold typedOctets typed
  split
  case isTrue => exact attempted (L3PDPAddress.halts_parse _) _
  case isFalse =>
    split
    case isTrue => exact attempted (Halts.read (octetwise_readBytes _)) _
    case isFalse =>
      split
      case isTrue => exact attempted (Halts.read (octetwise_readBytes _)) _
      case isFalse =>
        apply Octetwise.of_moves
        intro octets
        refine ⟨none, [], octets, rfl, rfl, fun before => ?_⟩
        rw [show Foundation.bitString [] = [] from rfl, List.append_nil]
        rfl

/-- Elements with a length are read octet by octet. -/
theorem octetwise_readTLV (known : KnownElements) (options : SMOptions) :
    Octetwise (readTLV known options) (tlv known options) := by
  have found : Octetwise readTLVHeader header :=
    octetwise_readOctet.bind fun _ => octetwise_readOctet.bind fun _ => Octetwise.pure _
  apply found.bind
  intro found
  apply (octetwise_readTyped known options found.1 found.2).bind
  intro next
  cases next with
  | some next => exact Octetwise.pure next
  | none => exact (octetwise_readOctets _).bind fun value => Octetwise.pure _

/-! ### The rounds -/

section Rounds

variable {known : KnownElements} {options : SMOptions} {raw : UInt8} {octets : List UInt8}

theorem high_nibble_iff (raw value : UInt8) :
    raw.toNat &&& 0xF0 = value.toNat ↔ raw &&& 0xF0 = value := by
  rw [← UInt8.toNat_inj, UInt8.toNat_and]
  rfl

/-- The parser of an element in one octet that is announced. -/
theorem readSingle_eq (known : KnownElements) (options : SMOptions) (raw : UInt8) :
    match readSingle known options raw.toNat with
    | none => single known options raw = none
    | some parser => ∃ next, single known options raw = some next ∧
        Takes parser (Foundation.bitString [raw]) (some next) := by
  have request_iff : known.requestType ∧ raw.toNat &&& 0xF0 = 0xA0 ↔
      known.requestType ∧ raw &&& 0xF0 = 0xA0 := and_congr_right' (high_nibble_iff raw 0xA0)
  have indicator_iff : known.tearDownIndicator ∧ raw.toNat &&& 0xF0 = 0x90 ↔
      known.tearDownIndicator ∧ raw &&& 0xF0 = 0x90 := and_congr_right' (high_nibble_iff raw 0x90)
  by_cases request : known.requestType ∧ raw &&& 0xF0 = 0xA0
  · rw [readSingle, if_pos (request_iff.mpr request), single, if_pos request]
    exact ⟨_, rfl, (takes_readOctet raw).yield fun octet =>
      if options.requestType = none then { options with requestType := some (octet &&& 0x0F) }
      else options.keep [octet]⟩
  by_cases indicator : known.tearDownIndicator ∧ raw &&& 0xF0 = 0x90
  · rw [readSingle, if_neg (request_iff.not.mpr request), if_pos (indicator_iff.mpr indicator),
      single, if_neg request, if_pos indicator]
    have flag : Takes parseTearDownIndicator (Foundation.bitString [raw])
        (some (decide (raw &&& 0x01 ≠ 0))) := by
      rw [← List.append_nil (Foundation.bitString [raw])]
      apply (takes_readOctet raw).bind
      rw [if_neg (not_not.mpr indicator.2)]
      exact Takes.pure _
    exact ⟨_, rfl, flag.yield fun flag => { options with tearDownIndicator := some flag }⟩
  · rw [readSingle, if_neg (request_iff.not.mpr request),
      if_neg (indicator_iff.not.mpr indicator), single, if_neg request, if_neg indicator]

/-- One round, by the octet in front. -/
theorem readElement_cons (known : KnownElements) (options : SMOptions) (raw : UInt8)
    (octets : List UInt8) (before : List Bool) :
    (readElement known options
        (.between before (Foundation.bitString (raw :: octets)))).toOption =
      ((match readSingle known options raw.toNat with
        | some parser => some <$> parser
        | none => if octets = [] then pure none else some <$> readTLV known options :
          FieldParser (Option SMOptions))
        (.between before (Foundation.bitString (raw :: octets)))).toOption := by
  have bits : remainingBits (.between before (Foundation.bitString (raw :: octets))) =
      .ok (8 * (octets.length + 1), .between before (Foundation.bitString (raw :: octets))) := by
    rw [remainingBits, BitCursor.between, List.length_append, Nat.add_sub_cancel_left,
      Foundation.bitString_length, List.length_cons]
  have lone : 8 * (octets.length + 1) < 16 ↔ octets = [] := by
    rw [← List.length_eq_zero_iff]
    omega
  rw [readElement, toOption_bind, bits]
  change ((if 8 * (octets.length + 1) < 8 then pure none else _ :
    FieldParser (Option SMOptions)) _).toOption = _
  rw [if_neg (by omega), toOption_bind, peek_between, peeked_cons]
  change ((match readSingle known options raw.toNat with
    | some parser => some <$> parser
    | none => if 8 * (octets.length + 1) < 16 then _ else _ :
      FieldParser (Option SMOptions)) _).toOption = _
  simp only [lone]

/-- One round is read octet by octet. -/
theorem octetwise_readElement (known : KnownElements) (options : SMOptions) :
    Octetwise (readElement known options) (element known options) where
  refuses := by
    intro octets read before
    cases octets with
    | nil => cases read
    | cons raw octets =>
        have announced := readSingle_eq known options raw
        rw [readElement_cons]
        rw [element] at read
        cases found : readSingle known options raw.toNat with
        | some parser =>
            rw [found] at announced
            obtain ⟨next, same, -⟩ := announced
            rw [same] at read
            cases read
        | none =>
            rw [found] at announced
            rw [announced] at read
            dsimp only at read ⊢
            split at read
            case isTrue => cases read
            case isFalse more =>
              rw [if_neg more]
              exact ((octetwise_readTLV known options).map some).refuses read before
  reads := by
    intro octets value rest read
    cases octets with
    | nil =>
        obtain ⟨rfl, rfl⟩ := Prod.mk.inj (Option.some.inj read)
        refine ⟨[], rfl, fun before => ?_⟩
        have ended : remainingBits (.between before []) = .ok (0, .between before []) := by
          rw [remainingBits, BitCursor.between, List.append_nil, Nat.sub_self]
        rw [show Foundation.bitString [] = [] from rfl, List.append_nil, readElement,
          toOption_bind, ended]
        rfl
    | cons raw octets =>
        have announced := readSingle_eq known options raw
        rw [element] at read
        cases found : readSingle known options raw.toNat with
        | some parser =>
            rw [found] at announced
            obtain ⟨next, same, takes⟩ := announced
            rw [same] at read
            obtain ⟨rfl, rfl⟩ := Prod.mk.inj (Option.some.inj read)
            refine ⟨[raw], rfl, fun before => ?_⟩
            rw [readElement_cons, found]
            have one := takes.map some before (Foundation.bitString octets)
            rwa [← Foundation.bitString_append] at one
        | none =>
            rw [found] at announced
            rw [announced] at read
            dsimp only at read
            split at read
            case isTrue none =>
              obtain ⟨rfl, rfl⟩ := Prod.mk.inj (Option.some.inj read)
              refine ⟨[], by rw [none]; rfl, fun before => ?_⟩
              rw [readElement_cons, found]
              dsimp only
              rw [if_pos none, none, show Foundation.bitString [] = [] from rfl, List.append_nil]
              rfl
            case isFalse more =>
              obtain ⟨front, split, run⟩ := ((octetwise_readTLV known options).map some).reads read
              refine ⟨front, split, fun before => ?_⟩
              rw [readElement_cons, found]
              dsimp only
              rw [if_neg more]
              exact run before

end Rounds

/-! ## Whole regions -/

/-- The options that a region of elements leaves behind.  An octet that is left alone is kept. -/
inductive Sorts (known : KnownElements) : SMOptions → List UInt8 → SMOptions → Prop where
  | done {options : SMOptions} : Sorts known options [] options
  | lone {options : SMOptions} {raw : UInt8} (other : single known options raw = none) :
      Sorts known options [raw] (options.keep [raw])
  | single {options next last : SMOptions} {raw : UInt8} {rest : List UInt8}
      (found : single known options raw = some next) (later : Sorts known next rest last) :
      Sorts known options (raw :: rest) last
  | typed {options next last : SMOptions} {raw len : UInt8} {behind rest : List UInt8}
      (other : single known options raw = none)
      (found : typed known options (raw &&& 0x7F) len behind = (some next, rest))
      (later : Sorts known next rest last) : Sorts known options (raw :: len :: behind) last
  | kept {options last : SMOptions} {raw len : UInt8} {behind value rest : List UInt8}
      (other : single known options raw = none)
      (refused : typed known options (raw &&& 0x7F) len behind = (none, value ++ rest))
      (size : value.length = len.toNat)
      (later : Sorts known (options.keep ((raw &&& 0x7F) :: len :: value)) rest last) :
      Sorts known options (raw :: len :: behind) last

theorem keep_nil (options : SMOptions) : options.keep [] = options := by
  rw [keep, List.append_nil]

/-- Octets kept one behind the other. -/
theorem keep_keep (options : SMOptions) (front behind : List UInt8) :
    (options.keep front).keep behind = options.keep (front ++ behind) := by
  rw [keep, keep, keep, List.append_assoc]

section Regions

variable {known : KnownElements} {options next last : SMOptions} {raw len : UInt8}
  {octets rest behind : List UInt8} {count : Nat}

/-- The loop, and the octets that it leaves. -/
def region (known : KnownElements) (count : Nat) (options : SMOptions) : OctetParser SMOptions := do
  let found ← OctetParser.whileSome (element known) count options
  let tail ← OctetParser.tail
  pure (found.keep tail)

theorem region_nil : region known count options [] = some (options, []) := by
  rw [region, OctetParser.bind_of_eq (OctetParser.whileSome_nil _ count options)]
  change some (options.keep [], []) = _
  rw [keep_nil]

/-- The rounds over octets that are there. -/
theorem region_cons : region known (count + 1) options (raw :: octets) =
    match element known options (raw :: octets) with
    | none => none
    | some (none, rest) => some (options.keep rest, [])
    | some (some next, rest) => region known count next rest := by
  have turn := OctetParser.whileSome_cons (element known) count options raw octets
  rw [region]
  cases read : element known options (raw :: octets) with
  | none =>
      rw [read] at turn
      exact OctetParser.bind_of_none turn
  | some result =>
      obtain ⟨found, rest⟩ := result
      rw [read] at turn
      cases found with
      | none => rw [OctetParser.bind_of_eq turn]; rfl
      | some next =>
          dsimp only at turn ⊢
          rw [region]
          change ((OctetParser.whileSome _ (count + 1) options (raw :: octets)) >>= _) = _
          rw [turn]
          rfl

/-- An element with a length, known or kept. -/
theorem tlv_cons : tlv known options (raw :: len :: behind) =
    match typed known options (raw &&& 0x7F) len behind with
    | (some next, rest) => some (next, rest)
    | (none, rest) =>
        (OctetParser.take len.toNat rest).map fun kept =>
          (options.keep ((raw &&& 0x7F) :: len :: kept.1), kept.2) := by
  have read : header (raw :: len :: behind) = some ((raw &&& 0x7F, len), behind) := rfl
  rw [tlv, OctetParser.bind_of_eq read]
  cases result : typed known options (raw &&& 0x7F) len behind with
  | mk next rest =>
      have stopped : typedOctets known options (raw &&& 0x7F) len behind = some (next, rest) :=
        congrArg some result
      rw [OctetParser.bind_of_eq stopped]
      cases next with
      | some next => rfl
      | none =>
          dsimp only
          cases value : OctetParser.take len.toNat rest with
          | none => exact OctetParser.bind_of_none value
          | some kept => exact OctetParser.bind_of_eq value

/-- An octet that is no element of its own starts one with a length. -/
theorem element_tlv (other : single known options raw = none) :
    element known options (raw :: len :: behind) =
      (tlv known options (raw :: len :: behind)).map fun read => (some read.1, read.2) := by
  rw [element, other]
  dsimp only
  rw [if_neg (List.cons_ne_nil _ _)]
  change (tlv known options (raw :: len :: behind)).bind _ = _
  cases tlv known options (raw :: len :: behind) <;> rfl

/-- By induction on the rounds left: each reads an octet at least. -/
theorem sorts_of_region (enough : octets.length ≤ count)
    (read : region known count options octets = some (last, rest)) :
    rest = [] ∧ Sorts known options octets last := by
  induction count generalizing options octets with
  | zero =>
      obtain rfl := List.eq_nil_of_length_eq_zero (Nat.le_zero.mp enough)
      rw [region_nil] at read
      obtain ⟨rfl, rfl⟩ := Prod.mk.inj (Option.some.inj read)
      exact ⟨rfl, .done⟩
  | succ count ih =>
      cases octets with
      | nil =>
          rw [region_nil] at read
          obtain ⟨rfl, rfl⟩ := Prod.mk.inj (Option.some.inj read)
          exact ⟨rfl, .done⟩
      | cons raw octets =>
          rw [region_cons] at read
          have fewer : octets.length ≤ count := Nat.le_of_succ_le_succ enough
          cases found : single known options raw with
          | some next =>
              rw [element, found] at read
              obtain ⟨none, later⟩ := ih fewer read
              exact ⟨none, .single found later⟩
          | none =>
              cases octets with
              | nil =>
                  rw [element, found] at read
                  obtain ⟨rfl, rfl⟩ := Prod.mk.inj (Option.some.inj read)
                  exact ⟨rfl, .lone found⟩
              | cons len behind =>
                  rw [element_tlv found] at read
                  have short : behind.length ≤ count := (Nat.le_succ _).trans fewer
                  cases result : typed known options (raw &&& 0x7F) len behind with
                  | mk next left =>
                      rw [tlv_cons, result] at read
                      cases next with
                      | some next =>
                          have fits := (typed_length_le result).trans short
                          obtain ⟨none, later⟩ := ih fits read
                          exact ⟨none, .typed found result later⟩
                      | none =>
                          dsimp only at read
                          cases value : OctetParser.take len.toNat left with
                          | none =>
                              rw [value] at read
                              cases read
                          | some kept =>
                              rw [value] at read
                              obtain ⟨size, rfl⟩ := OctetParser.take_eq_some value
                              have fits := (refused_length_le result).trans short
                              rw [List.length_append] at fits
                              obtain ⟨none, later⟩ := ih ((Nat.le_add_left _ _).trans fits) read
                              exact ⟨none, .kept found result size later⟩

/-- By induction on the region. -/
theorem region_of_sorts (sorts : Sorts known options octets last) (enough : octets.length ≤ count) :
    region known count options octets = some (last, []) := by
  induction sorts generalizing count with
  | done => exact region_nil
  | @lone options raw other =>
      obtain ⟨count, rfl⟩ := Nat.exists_eq_add_of_le' enough
      rw [List.length_singleton, region_cons, element, other]
      rfl
  | @single options next last raw rest found _ ih =>
      obtain ⟨count, rfl⟩ := Nat.exists_eq_add_of_le' ((Nat.le_add_left 1 _).trans enough)
      rw [region_cons, element, found]
      exact ih (Nat.le_of_succ_le_succ enough)
  | @typed options next last raw len behind rest other found _ ih =>
      obtain ⟨count, rfl⟩ := Nat.exists_eq_add_of_le' ((Nat.le_add_left 1 _).trans enough)
      rw [List.length_cons, List.length_cons] at enough
      have fits := typed_length_le found
      rw [region_cons, element_tlv other, tlv_cons, found]
      exact ih (by omega)
  | @kept options last raw len behind value rest other refused size _ ih =>
      obtain ⟨count, rfl⟩ := Nat.exists_eq_add_of_le' ((Nat.le_add_left 1 _).trans enough)
      rw [List.length_cons, List.length_cons] at enough
      have fits := refused_length_le refused
      rw [List.length_append] at fits
      rw [region_cons, element_tlv other, tlv_cons, refused]
      dsimp only
      rw [← size, OctetParser.take_append]
      exact ih (by omega)

end Regions

end SMOptions

end Gsml3
