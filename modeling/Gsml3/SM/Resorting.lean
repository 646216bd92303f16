import Gsml3.SM.Regions

/-!
# Elements that are sorted again

What the loop over the elements has made of a region is written in a fixed order, with the octets
that were kept behind it.  Sorted again it comes back as it is, unless the octets of an address were
lost: then what was kept of that element takes octets of others with it, or becomes an address.
-/

namespace Gsml3.SMOptions

open BitWriter (Op octetsWritten)
open FieldParser (writePresent)

variable {known : KnownElements} {options next last again : SMOptions} {raw iei len : UInt8}
  {octets behind rest value : List UInt8}

/-! ## Octets that are masked -/

/-- The first bit of an identifier is dropped once. -/
theorem masked_again : ∀ raw : UInt8, (raw &&& 0x7F) &&& 0x7F = raw &&& 0x7F := by
  apply Foundation.forall_octet
  decide

/-- An identifier without its first bit is no single octet element. -/
theorem masked_nibbles : ∀ raw : UInt8,
    (raw &&& 0x7F) &&& 0xF0 ≠ 0xA0 ∧ (raw &&& 0x7F) &&& 0xF0 ≠ 0x90 := by
  apply Foundation.forall_octet
  decide

theorem single_eq_none (request : raw &&& 0xF0 ≠ 0xA0) (indicator : raw &&& 0xF0 ≠ 0x90) :
    single known options raw = none := by
  rw [single, if_neg fun found => request found.2, if_neg fun found => indicator found.2]

/-- The identifier of an element that was kept announces no element in one octet. -/
theorem single_masked : single known options (raw &&& 0x7F) = none :=
  single_eq_none (masked_nibbles raw).1 (masked_nibbles raw).2

/-- Whether an octet is an element does not depend on what was found. -/
theorem single_none_again (other : single known options raw = none) :
    single known again raw = none := by
  rw [single] at other ⊢
  by_cases request : known.requestType ∧ raw &&& 0xF0 = 0xA0
  · rw [if_pos request] at other
    cases other
  rw [if_neg request] at other ⊢
  by_cases indicator : known.tearDownIndicator ∧ raw &&& 0xF0 = 0x90
  · rw [if_pos indicator] at other
    cases other
  rw [if_neg indicator]

/-! ## A region from its first element on -/

/-- An element of one octet in front of the others. -/
theorem sorts_single_iff (found : single known options raw = some next) :
    Sorts known options (raw :: rest) last ↔ Sorts known next rest last := by
  constructor
  · intro sorts
    cases sorts with
    | lone other =>
        rw [other] at found
        cases found
    | single found' later =>
        rw [found] at found'
        obtain rfl := Option.some.inj found'
        exact later
    | typed other =>
        rw [other] at found
        cases found
    | kept other =>
        rw [other] at found
        cases found
  · exact .single found

/-- A known element in front of the others. -/
theorem sorts_typed_iff (other : single known options raw = none)
    (found : typed known options (raw &&& 0x7F) len behind = (some next, rest)) :
    Sorts known options (raw :: len :: behind) last ↔ Sorts known next rest last := by
  constructor
  · intro sorts
    cases sorts with
    | single found' =>
        rw [other] at found'
        cases found'
    | typed _ found' later =>
        rw [found] at found'
        obtain ⟨same, rfl⟩ := Prod.mk.inj found'
        obtain rfl := Option.some.inj same
        exact later
    | kept _ refused =>
        rw [found] at refused
        cases refused
  · exact .typed other found

/-- An element that is kept as octets in front of the others. -/
theorem sorts_kept_iff (other : single known options raw = none)
    (refused : typed known options (raw &&& 0x7F) len behind = (none, value ++ rest))
    (size : value.length = len.toNat) :
    Sorts known options (raw :: len :: behind) last ↔
      Sorts known (options.keep ((raw &&& 0x7F) :: len :: value)) rest last := by
  constructor
  · intro sorts
    cases sorts with
    | single found =>
        rw [other] at found
        cases found
    | typed _ found =>
        rw [refused] at found
        cases found
    | kept _ refused' size' later =>
        rw [refused] at refused'
        obtain ⟨rfl, rfl⟩ := List.append_inj (Prod.mk.inj refused').2 (size.trans size'.symm)
        exact later
  · exact .kept other refused size

/-! ## What has been found -/

/-- What was found earlier is still there. -/
structure Below (earlier later : SMOptions) : Prop where
  pdpAddress : earlier.pdpAddress ≠ none → later.pdpAddress ≠ none
  apn : earlier.apn ≠ none → later.apn ≠ none
  pco : earlier.pco ≠ none → later.pco ≠ none
  requestType : earlier.requestType ≠ none → later.requestType ≠ none

namespace Below

theorem refl (options : SMOptions) : Below options options :=
  ⟨id, id, id, id⟩

/-- What has fewer elements than the middle has fewer than the last. -/
theorem trans {middle : SMOptions} (first : Below options middle) (second : Below middle last) :
    Below options last :=
  ⟨second.pdpAddress ∘ first.pdpAddress, second.apn ∘ first.apn, second.pco ∘ first.pco,
    second.requestType ∘ first.requestType⟩

theorem keep (octets : List UInt8) : Below options (options.keep octets) :=
  ⟨id, id, id, id⟩

/-- An element that is not wanted stays unwanted. -/
theorem unwanted (below : Below options last) (none : ¬Wanted known options iei) :
    ¬Wanted known last iei := by
  intro wanted
  apply none
  rcases wanted with ⟨type, knows, missing⟩ | ⟨type, knows, missing⟩ | ⟨type, missing⟩
  · exact .inl ⟨type, knows, not_not.mp fun found => below.pdpAddress found missing⟩
  · exact .inr (.inl ⟨type, knows, not_not.mp fun found => below.apn found missing⟩)
  · exact .inr (.inr ⟨type, not_not.mp fun found => below.pco found missing⟩)

end Below

/-- Reading an element only adds to what was found. -/
theorem below_of_reads (reads : Reads known options iei len octets rest next) :
    Below options next := by
  cases reads with
  | pdpAddress => exact ⟨fun _ => Option.some_ne_none _, id, id, id⟩
  | apn => exact ⟨id, fun _ => Option.some_ne_none _, id, id⟩
  | pco => exact ⟨id, id, fun _ => Option.some_ne_none _, id⟩

theorem below_of_single (found : single known options raw = some next) : Below options next := by
  rw [single] at found
  split at found
  case isTrue =>
    obtain rfl := Option.some.inj found
    split
    case isTrue => exact ⟨id, id, id, fun _ => Option.some_ne_none _⟩
    case isFalse => exact .keep [raw]
  case isFalse =>
    split at found
    case isTrue =>
      obtain rfl := Option.some.inj found
      exact ⟨id, id, id, id⟩
    case isFalse => cases found

/-- Sorting only adds to what was found. -/
theorem below_of_sorts (sorts : Sorts known options octets last) : Below options last := by
  induction sorts with
  | done => exact .refl _
  | lone => exact .keep _
  | single found _ ih => exact (below_of_single found).trans ih
  | typed _ found _ ih => exact (below_of_reads (reads_of_typed found)).trans ih
  | kept _ _ _ _ ih => exact (Below.keep _).trans ih

/-- The elements that were found are known ones, and each fits its length octet. -/
structure Found (known : KnownElements) (options : SMOptions) : Prop where
  pdpAddress : ∀ addr ∈ options.pdpAddress, known.pdpAddress = true ∧ addr.Canonical
  apn : ∀ apn ∈ options.apn, known.apn = true ∧ apn.length < 2 ^ 8
  tearDownIndicator : options.tearDownIndicator ≠ none → known.tearDownIndicator = true
  pco : ∀ pco ∈ options.pco, pco.length < 2 ^ 8
  requestType : ∀ type ∈ options.requestType, known.requestType = true ∧ type &&& 0x0F = type

namespace Found

theorem empty (known : KnownElements) : Found known {} where
  pdpAddress := nofun
  apn := nofun
  tearDownIndicator := fun found => absurd rfl found
  pco := nofun
  requestType := nofun

theorem keep (found : Found known options) (octets : List UInt8) :
    Found known (options.keep octets) :=
  ⟨found.pdpAddress, found.apn, found.tearDownIndicator, found.pco, found.requestType⟩

theorem reads (found : Found known options) (reads : Reads known options iei len octets rest next) :
    Found known next := by
  cases reads with
  | pdpAddress type knows missing read =>
      exact { found with
        pdpAddress := by
          intro addr same
          obtain rfl := Option.some.inj same
          exact ⟨knows, (L3PDPAddress.of_read read).1⟩ }
  | apn type knows missing read size =>
      exact { found with
        apn := by
          intro apn same
          obtain rfl := Option.some.inj same
          rw [size]
          exact ⟨knows, len.toNat_lt⟩ }
  | pco type missing read size =>
      exact { found with
        pco := by
          intro pco same
          obtain rfl := Option.some.inj same
          rw [size]
          exact len.toNat_lt }

theorem single (found : Found known options)
    (read : SMOptions.single known options raw = some next) : Found known next := by
  rw [SMOptions.single] at read
  split at read
  case isTrue request =>
    obtain rfl := Option.some.inj read
    split
    case isTrue =>
      exact { found with
        requestType := by
          intro type same
          obtain rfl := Option.some.inj same
          exact ⟨request.1, (L3PDPAddress.masked_nibble raw).1⟩ }
    case isFalse => exact found.keep [raw]
  case isFalse =>
    split at read
    case isTrue indicator =>
      obtain rfl := Option.some.inj read
      exact { found with tearDownIndicator := fun _ => indicator.1 }
    case isFalse => cases read

end Found

/-- What sorting finds are elements that the message knows. -/
theorem Sorts.found (sorts : Sorts known options octets last) (found : Found known options) :
    Found known last := by
  induction sorts with
  | done => exact found
  | lone => exact found.keep _
  | single read _ ih => exact ih (found.single read)
  | typed _ read _ ih => exact ih (found.reads (reads_of_typed read))
  | kept _ _ _ _ ih => exact ih (found.keep _)

/-! ## What is lost -/

theorem length_keep (options : SMOptions) (octets : List UInt8) :
    (options.keep octets).length = options.length + octets.length := by
  rw [length, length, keep, List.length_append, ← Nat.add_assoc]

/-- An octet is lost only where a tear-down indicator takes the place of another. -/
theorem single_length (found : single known options raw = some next) :
    next.length ≤ options.length + 1 ∧
      (known.tearDownIndicator = false → next.length = options.length + 1) := by
  rw [single] at found
  split at found
  case isTrue =>
    obtain rfl := Option.some.inj found
    have exact_length : (if options.requestType = none then
        { options with requestType := some (raw &&& 0x0F) } else options.keep [raw]).length =
          options.length + 1 := by
      split
      case isTrue missing =>
        simp only [length, missing, Option.elim_none, Option.elim_some]
        omega
      case isFalse => exact length_keep options [raw]
    exact ⟨exact_length.le, fun _ => exact_length⟩
  case isFalse =>
    split at found
    case isFalse => cases found
    case isTrue indicator =>
      obtain rfl := Option.some.inj found
      constructor
      · simp only [length, Option.elim_some]
        omega
      · intro unknown
        rw [unknown] at indicator
        exact absurd indicator.1 Bool.false_ne_true

/-- Sorted elements take no more octets than they had. -/
theorem Sorts.length_le (sorts : Sorts known options octets last) :
    last.length ≤ options.length + octets.length := by
  induction sorts with
  | done => exact le_rfl
  | lone => rw [length_keep]
  | single found _ ih =>
      have one := (single_length found).1
      rw [List.length_cons]
      omega
  | typed _ found _ ih =>
      have whole := (reads_of_typed found).length_eq
      rw [List.length_cons, List.length_cons]
      omega
  | kept _ refused _ _ ih =>
      have fewer := refused_length_le refused
      rw [length_keep, List.length_cons, List.length_cons] at ih
      rw [List.length_append] at fewer
      rw [List.length_cons, List.length_cons]
      omega

/-! ## What was kept -/

/-- A known address that is missing is read. -/
theorem typed_pdpAddress (knows : known.pdpAddress = true) (missing : options.pdpAddress = none) :
    typed known options pdpAddressIEI len behind =
      (((L3PDPAddress.ofOctets len.toNat).run.run behind).1.map fun addr =>
          { options with pdpAddress := some addr },
        ((L3PDPAddress.ofOctets len.toNat).run.run behind).2) :=
  if_pos ⟨rfl, knows, missing⟩

/-- An element that was kept is refused again where its octets are all there, or an address has
been found before it. -/
theorem refused_again (refused : typed known options iei len behind = (none, value ++ rest))
    (size : value.length = len.toNat) (below : Below options again)
    (settled : again.pdpAddress ≠ none ∨ known.pdpAddress = false ∨
      behind.length = value.length + rest.length) (more : List UInt8) :
    typed known again iei len (value ++ more) = (none, value ++ more) := by
  rcases refused_cases refused with ⟨same, unwanted | short⟩ | ⟨rfl, knows, missing, stopped⟩
  · exact typed_unwanted (below.unwanted unwanted)
  · rw [← same, List.length_append] at short
    omega
  · by_cases found : again.pdpAddress = none
    · have whole : behind.length = value.length + rest.length := by
        rcases settled with other | other | whole
        · exact absurd found other
        · rw [other] at knows
          cases knows
        · exact whole
      have short : len.toNat < 2 := by
        by_contra long
        have filled : behind ≠ [] := by
          rintro rfl
          rw [List.length_nil] at whole
          omega
        have fewer := (L3PDPAddress.of_refused stopped).2.2 (Nat.le_of_not_lt long) filled
        rw [List.length_append] at fewer
        omega
      rw [typed_pdpAddress knows found, L3PDPAddress.run_short short]
      rfl
    · apply typed_unwanted
      rintro (⟨-, -, none⟩ | ⟨other, -⟩ | ⟨other, -⟩)
      · exact found none
      · cases other
      · cases other

/-- An element that has lost octets becomes an address, or loses octets again. -/
theorem refused_lost (refused : typed known options iei len behind = (none, value ++ rest))
    (size : value.length = len.toNat) (lost : behind.length ≠ value.length + rest.length)
    (missing : again.pdpAddress = none) (more : List UInt8) :
    (∃ found left, typed known again iei len (value ++ more) = (some found, left) ∧
        found.pdpAddress ≠ none) ∨
      ∃ left, typed known again iei len (value ++ more) = (none, left) ∧
        left.length < (value ++ more).length := by
  rcases refused_cases refused with ⟨same, -⟩ | ⟨rfl, knows, -, stopped⟩
  · rw [← same, List.length_append] at lost
    exact absurd rfl lost
  · have long : 2 ≤ len.toNat := by
      by_contra short
      rw [← (L3PDPAddress.of_refused stopped).2.1 (Nat.lt_of_not_le short),
        List.length_append] at lost
      exact lost rfl
    rw [typed_pdpAddress knows missing]
    cases again' : (L3PDPAddress.ofOctets len.toNat).run.run (value ++ more) with
    | mk found left =>
        cases found with
        | some addr => exact .inl ⟨_, left, rfl, Option.some_ne_none _⟩
        | none =>
            have filled : value ++ more ≠ [] := by
              intro none
              have empty := congrArg List.length none
              rw [List.length_append, List.length_nil] at empty
              omega
            exact .inr ⟨left, rfl, (L3PDPAddress.of_refused again').2.2 long filled⟩

/-- How octets that were kept are sorted when the elements that were found come first; `whole` says
that none were lost. -/
structure Retold (known : KnownElements) (last : SMOptions) (tail : List UInt8) (whole : Prop) :
    Prop where
  kept : ∀ again, Below last again →
    again.pdpAddress ≠ none ∨ known.pdpAddress = false ∨ whole →
      Sorts known again tail (again.keep tail)
  lost : known.tearDownIndicator = false → ¬whole → ∀ again other, Below last again →
    again.pdpAddress = none → Sorts known again tail other →
      other.pdpAddress ≠ none ∨ other.length < again.length + tail.length

/-- The account under an equivalent condition. -/
theorem Retold.congr {tail : List UInt8} {whole other : Prop}
    (retold : Retold known last tail whole) (whole_of : other → whole)
    (of_whole : known.tearDownIndicator = false → whole → other) :
    Retold known last tail other where
  kept again below settled := retold.kept again below (settled.imp_right (Or.imp_right whole_of))
  lost unknown lost := retold.lost unknown fun holds => lost (of_whole unknown holds)

/-- An element of one octet is stored, or kept behind one that was. -/
theorem single_cases (found : single known options raw = some next) :
    next.additionalIes = options.additionalIes ∨ next = options.keep [raw] ∧
      options.requestType ≠ none ∧ ∀ again : SMOptions, again.requestType ≠ none →
        single known again raw = some (again.keep [raw]) := by
  rw [single] at found
  by_cases request : known.requestType ∧ raw &&& 0xF0 = 0xA0
  · rw [if_pos request] at found
    obtain rfl := Option.some.inj found
    by_cases missing : options.requestType = none
    · rw [if_pos missing]
      exact .inl rfl
    · rw [if_neg missing]
      refine .inr ⟨rfl, missing, fun again present => ?_⟩
      rw [single, if_pos request, if_neg present]
  · rw [if_neg request] at found
    split at found
    case isTrue =>
      obtain rfl := Option.some.inj found
      exact .inl rfl
    case isFalse => cases found

/-- An element that is read adds nothing to the octets kept. -/
theorem Reads.additionalIes (reads : Reads known options iei len octets rest next) :
    next.additionalIes = options.additionalIes := by
  cases reads <;> rfl

/-- Without octets there is nothing left to sort. -/
theorem Retold.done :
    Retold known last [] (last.length = last.length + ([] : List UInt8).length) where
  kept again _ _ := by
    rw [keep_nil]
    exact .done
  lost _ lost := absurd rfl lost

/-- A last octet that is no element is kept. -/
theorem Retold.lone (other : single known options raw = none) :
    Retold known (options.keep [raw]) [raw]
      ((options.keep [raw]).length = options.length + [raw].length) where
  kept _ _ _ := .lone (single_none_again other)
  lost _ lost := absurd (length_keep options [raw]) lost

/-- In front of what was kept stands an octet that was kept alone. -/
theorem Retold.cons {tail : List UInt8} {whole : Prop} (retold : Retold known last tail whole)
    (present : last.requestType ≠ none)
    (found : ∀ again : SMOptions, again.requestType ≠ none →
      SMOptions.single known again raw = some (again.keep [raw])) :
    Retold known last ([raw] ++ tail) whole where
  kept again below settled := by
    have later := retold.kept (again.keep [raw]) (below.trans (.keep _)) settled
    rw [keep_keep] at later
    exact .single (found again (below.requestType present)) later
  lost unknown lost again other below missing sorts := by
    have later := (sorts_single_iff (found again (below.requestType present))).mp sorts
    have outcome := retold.lost unknown lost _ other (below.trans (.keep [raw])) missing later
    rwa [length_keep, Nat.add_assoc, ← List.length_append] at outcome

/-- In front of what was kept stands an element that was kept. -/
theorem Retold.append {tail : List UInt8} {whole : Prop} (retold : Retold known last tail whole)
    (refused : typed known options (raw &&& 0x7F) len behind = (none, value ++ rest))
    (size : value.length = len.toNat) (earlier : Below options last) :
    Retold known last ((raw &&& 0x7F) :: len :: value ++ tail)
      (whole ∧ behind.length = value.length + rest.length) where
  kept again below settled := by
    have settled' := settled.imp_right (Or.imp_right And.left)
    have later := retold.kept (again.keep ((raw &&& 0x7F) :: len :: value))
      (below.trans (.keep _)) settled'
    rw [keep_keep] at later
    have refused' := refused_again refused size (earlier.trans below)
      (settled.imp_right (Or.imp_right And.right)) tail
    rw [← masked_again] at refused'
    apply Sorts.kept single_masked refused' size
    rwa [masked_again]
  lost unknown lost again other below missing sorts := by
    rw [← masked_again raw] at refused
    by_cases enough : behind.length = value.length + rest.length
    · have refused' := refused_again refused size (earlier.trans below) (.inr (.inr enough)) tail
      have later := (sorts_kept_iff single_masked refused' size).mp sorts
      have outcome := retold.lost unknown (fun holds => lost ⟨holds, enough⟩) _ other
        (below.trans (.keep _)) missing later
      rw [length_keep, Nat.add_assoc, ← List.length_append, masked_again] at outcome
      exact outcome
    · rcases refused_lost refused size enough missing tail with
        ⟨found, left, read, present⟩ | ⟨left, read, fewer⟩
      · have later := (sorts_typed_iff single_masked read).mp sorts
        exact .inl ((below_of_sorts later).pdpAddress present)
      · right
        rw [List.cons_append, List.cons_append] at sorts
        cases sorts with
        | single found =>
            rw [single_masked] at found
            cases found
        | typed _ found =>
            rw [read] at found
            cases found
        | kept _ stopped _ later =>
            rw [read] at stopped
            obtain rfl := (Prod.mk.inj stopped).2
            have left_length := later.length_le
            rw [length_keep, List.length_cons, List.length_cons] at left_length
            rw [List.cons_append, List.cons_append, List.length_cons, List.length_cons]
            rw [List.length_append] at fewer
            omega

/-- The octets that a region adds to those that were kept, and how they are sorted again. -/
theorem Sorts.retold (sorts : Sorts known options octets last) :
    ∃ tail, last.additionalIes = options.additionalIes ++ tail ∧
      Retold known last tail (last.length = options.length + octets.length) := by
  induction sorts with
  | done => exact ⟨[], (List.append_nil _).symm, .done⟩
  | @lone _ raw other => exact ⟨[raw], rfl, .lone other⟩
  | @single options next last raw rest found later ih =>
      obtain ⟨tail, same, retold⟩ := ih
      have one := single_length found
      have less := later.length_le
      have retold' : Retold known last tail (last.length = options.length + (rest.length + 1)) :=
        retold.congr (fun whole => by omega) fun unknown whole => by
          have exactly := one.2 unknown
          omega
      rcases single_cases found with unchanged | ⟨rfl, present, again⟩
      · exact ⟨tail, same.trans (congrArg (· ++ tail) unchanged), retold'⟩
      · refine ⟨[raw] ++ tail, same.trans (List.append_assoc ..), ?_⟩
        exact retold'.cons ((below_of_sorts later).requestType present) again
  | @typed options next last raw len behind rest other found later ih =>
      obtain ⟨tail, same, retold⟩ := ih
      have reads := reads_of_typed found
      have whole := reads.length_eq
      refine ⟨tail, same.trans (congrArg (· ++ tail) reads.additionalIes), ?_⟩
      apply retold.congr
      · rw [List.length_cons, List.length_cons]
        omega
      · rw [List.length_cons, List.length_cons]
        omega
  | @kept options last raw len behind value rest other refused size later ih =>
      obtain ⟨tail, same, retold⟩ := ih
      have fewer := refused_length_le refused
      have less := later.length_le
      rw [length_keep, List.length_cons, List.length_cons] at less
      rw [List.length_append] at fewer
      refine ⟨(raw &&& 0x7F) :: len :: value ++ tail, same.trans (List.append_assoc ..), ?_⟩
      have earlier := (Below.keep _).trans (below_of_sorts later)
      apply (retold.append refused size earlier).congr
      · rw [length_keep]
        simp only [List.length_cons]
        omega
      · rw [length_keep]
        simp only [List.length_cons]
        omega

/-! ## Elements that are written -/

/-- The octets in front of those that were kept. -/
def written (options : SMOptions) : List UInt8 :=
  options.pdpAddress.elim [] (fun addr =>
      pdpAddressIEI :: UInt8.ofNat addr.lengthV :: addr.octets) ++
    options.apn.elim [] (fun apn => apnIEI :: UInt8.ofNat apn.length :: apn) ++
    options.tearDownIndicator.elim [] (fun flag => [0x90 ||| if flag then 1 else 0]) ++
    options.pco.elim [] (fun pco => pcoIEI :: UInt8.ofNat pco.length :: pco) ++
    options.requestType.elim [] fun type => [0xA0 ||| (type &&& 0x0F)]

theorem octets_writeFilled (octets : List UInt8) : octetsWritten (writeFilled octets) = octets := by
  cases octets with
  | nil => rfl
  | cons octet octets => exact List.append_nil (octet :: octets)

theorem octets_writePresent {α : Type} (write : α → List Op) (value : Option α) :
    octetsWritten (writePresent write value) = value.elim [] fun value =>
      octetsWritten (write value) := by
  cases value <;> rfl

theorem octets_writeTLV (iei : UInt8) (length : Nat) (value : List Op) :
    octetsWritten (writeTLV iei length value) =
      iei :: UInt8.ofNat length :: octetsWritten value := by
  rw [writeTLV, BitWriter.octetsWritten_append, BitWriter.octetsWritten_cons,
    BitWriter.octetsWritten_cons, BitWriter.octetsWritten_nil, Op.octets, Op.octets,
    UInt8.toUInt8_toUInt32, UInt32.toUInt8_ofNat']
  rfl

/-- The elements in order, then the octets kept. -/
theorem octets_write (options : SMOptions) :
    octetsWritten options.write = options.written ++ options.additionalIes := by
  have indicator (flag : Bool) :
      (0x90 ||| if flag then 1 else 0 : UInt32).toUInt8 = 0x90 ||| if flag then 1 else 0 := by
    cases flag <;> rfl
  have request (type : UInt8) :
      (0xA0 ||| (type &&& 0x0F).toUInt32).toUInt8 = 0xA0 ||| (type &&& 0x0F) := by
    rw [UInt32.toUInt8_or, UInt8.toUInt8_toUInt32]
    rfl
  simp only [write, written, BitWriter.octetsWritten_append, octets_writePresent, octets_writeTLV,
    octets_writeFilled, BitWriter.octetsWritten_writeOctets, BitWriter.octetsWritten_cons,
    BitWriter.octetsWritten_nil, Op.octets, List.append_nil, indicator, request,
    L3PDPAddress.octets]

/-- The elements and the octets kept take the octets counted for them. -/
theorem written_length (options : SMOptions) :
    (options.written ++ options.additionalIes).length = options.length := by
  have address (addr : Option L3PDPAddress) :
      (addr.elim [] fun addr => pdpAddressIEI :: UInt8.ofNat addr.lengthV :: addr.octets).length =
        addr.elim 0 (2 + ·.lengthV) := by
    cases addr with
    | none => rfl
    | some addr =>
        change addr.octets.length + 1 + 1 = 2 + addr.lengthV
        rw [addr.octets_length]
        exact Nat.add_comm addr.lengthV 2
  have element (iei : UInt8) (value : Option (List UInt8)) :
      (value.elim [] fun value => iei :: UInt8.ofNat value.length :: value).length =
        value.elim 0 (2 + ·.length) := by
    cases value with
    | none => rfl
    | some value => exact Nat.add_comm value.length 2
  have one {α : Type} (write : α → UInt8) (value : Option α) :
      (value.elim [] fun value => [write value]).length = value.elim 0 fun _ => 1 := by
    cases value <;> rfl
  simp only [written, length, List.length_append, address, element, one]

/-- An element that is read where it is written. -/
theorem sorts_element (alone : single known options iei = none) (masked : iei &&& 0x7F = iei)
    (fits : value.length < 2 ^ 8)
    (read : ∀ len : UInt8, len.toNat = value.length →
      typed known options iei len (value ++ rest) = (some next, rest)) :
    Sorts known options (iei :: UInt8.ofNat value.length :: value ++ rest) last ↔
      Sorts known next rest last := by
  have len : (UInt8.ofNat value.length).toNat = value.length := UInt8.toNat_ofNat_of_lt' fits
  apply sorts_typed_iff alone
  rw [masked]
  exact read _ len

theorem run_take (len : Nat) (size : len = value.length) :
    (OctetParser.take len).stopping.run.run (value ++ rest) = (some value, rest) := by
  rw [OctetParser.run_stopping, size, OctetParser.take_append]

/-- Each element that was found is found again, and nothing else. -/
theorem sorts_written_iff (found : Found known options) :
    Sorts known {} (options.written ++ rest) last ↔
      Sorts known { options with additionalIes := [] } rest last := by
  obtain ⟨pdpAddress, apn, tearDownIndicator, pco, requestType, additionalIes⟩ := options
  have address (rest : List UInt8) : Sorts known {}
      (pdpAddress.elim [] (fun addr => pdpAddressIEI :: UInt8.ofNat addr.lengthV :: addr.octets) ++
        rest) last ↔ Sorts known { pdpAddress } rest last := by
    cases pdpAddress with
    | none => exact Iff.rfl
    | some addr =>
        obtain ⟨knows, canonical⟩ := found.pdpAddress addr rfl
        have small : addr.octets.length < 2 ^ 8 := by
          have fits := L3PDPAddress.addressOctets_le addr.typeNumber
          rw [addr.octets_length, L3PDPAddress.lengthV, L3PDPAddress.addressSize]
          split <;> omega
        change Sorts known {} (_ :: UInt8.ofNat addr.lengthV :: addr.octets ++ rest) last ↔ _
        rw [← addr.octets_length]
        apply sorts_element (single_eq_none (by decide) (by decide)) (by decide) small
        intro len size
        rw [typed_pdpAddress knows rfl, size, addr.octets_length,
          L3PDPAddress.reads_octets canonical]
        rfl
  have name (rest : List UInt8) : Sorts known { pdpAddress }
      (apn.elim [] (fun apn => apnIEI :: UInt8.ofNat apn.length :: apn) ++ rest) last ↔
        Sorts known { pdpAddress, apn } rest last := by
    cases apn with
    | none => exact Iff.rfl
    | some apn =>
        obtain ⟨knows, fits⟩ := found.apn apn rfl
        apply sorts_element (single_eq_none (by decide) (by decide)) (by decide) fits
        intro len size
        rw [typed, if_neg fun wanted => absurd wanted.1 (by decide), if_pos ⟨rfl, knows, rfl⟩,
          run_take _ size]
        rfl
  have indicator (rest : List UInt8) : Sorts known { pdpAddress, apn }
      (tearDownIndicator.elim [] (fun flag => [0x90 ||| if flag then 1 else 0]) ++ rest) last ↔
        Sorts known { pdpAddress, apn, tearDownIndicator } rest last := by
    cases tearDownIndicator with
    | none => exact Iff.rfl
    | some flag =>
        have knows := found.tearDownIndicator (Option.some_ne_none _)
        apply sorts_single_iff
        rw [single, if_neg (by cases flag <;> exact fun request => absurd request.2 (by decide)),
          if_pos ⟨knows, by cases flag <;> decide⟩]
        cases flag <;> rfl
  have protocol (rest : List UInt8) : Sorts known { pdpAddress, apn, tearDownIndicator }
      (pco.elim [] (fun pco => pcoIEI :: UInt8.ofNat pco.length :: pco) ++ rest) last ↔
        Sorts known { pdpAddress, apn, tearDownIndicator, pco } rest last := by
    cases pco with
    | none => exact Iff.rfl
    | some pco =>
        apply sorts_element (single_eq_none (by decide) (by decide)) (by decide) (found.pco pco rfl)
        intro len size
        rw [typed, if_neg fun wanted => absurd wanted.1 (by decide),
          if_neg fun wanted => absurd wanted.1 (by decide), if_pos ⟨rfl, rfl⟩, run_take _ size]
        rfl
  have request (rest : List UInt8) : Sorts known { pdpAddress, apn, tearDownIndicator, pco }
      (requestType.elim [] (fun type => [0xA0 ||| (type &&& 0x0F)]) ++ rest) last ↔
        Sorts known { pdpAddress, apn, tearDownIndicator, pco, requestType } rest last := by
    cases requestType with
    | none => exact Iff.rfl
    | some type =>
        obtain ⟨knows, nibble⟩ := found.requestType type rfl
        have octet : ∀ type : UInt8, (0xA0 ||| (type &&& 0x0F)) &&& 0xF0 = 0xA0 ∧
            (0xA0 ||| (type &&& 0x0F)) &&& 0x0F = type &&& 0x0F := by
          apply Foundation.forall_octet
          decide
        apply sorts_single_iff
        rw [single, if_pos ⟨knows, (octet type).1⟩, if_pos rfl, (octet type).2, nibble]
  simp only [written, List.append_assoc]
  rw [address, name, indicator, protocol, request]

/-- What a region was sorted into is written with octets that are sorted into it again, exactly
where an address was found, or could not be, or no octet was lost. -/
theorem resorted_iff (sorts : Sorts known {} octets last)
    (unknown : known.pdpAddress = true → known.tearDownIndicator = false) :
    Sorts known {} (octetsWritten last.write) last ↔
      (known.pdpAddress = true → last.pdpAddress ≠ none ∨ last.length = octets.length) := by
  obtain ⟨tail, same, retold⟩ := sorts.retold
  have none_before : (({} : SMOptions).length + octets.length) = octets.length := Nat.zero_add _
  rw [none_before] at retold
  have kept : last.additionalIes = tail := same
  have refound : Below last { last with additionalIes := [] } := ⟨id, id, id, id⟩
  have whole : ({ last with additionalIes := [] } : SMOptions).keep tail = last := by
    rw [← kept]
    rfl
  rw [octets_write, sorts_written_iff (sorts.found (.empty known)), kept]
  constructor
  · intro again knows
    by_contra lost
    obtain ⟨missing, fewer⟩ := not_or.mp lost
    have absent : last.pdpAddress = none := not_not.mp missing
    have outcome := retold.lost (unknown knows) fewer _ last refound absent again
    rcases outcome with found | less
    · exact found absent
    · rw [← length_keep, whole] at less
      exact lt_irrefl _ less
  · intro settled
    have again := retold.kept _ refound (by
      by_cases knows : known.pdpAddress = true
      · rcases settled knows with found | exactly
        · exact .inl found
        · exact .inr (.inr exactly)
      · exact .inr (.inl (Bool.eq_false_iff.mpr knows)))
    rwa [whole] at again

end Gsml3.SMOptions
