import Gsml3.Core.ElementCodec

/-!
# Elements with identifiers

Optional elements in front of octets that are kept as they are: each behind an octet with its
identifier, in any order, as long as an element of that identifier is wanted.  What is written for
the elements that were found is read again up to the same octets, and the value that counts for an
identifier is that of the last element read with it.
-/

namespace Gsml3

open BitWriter (Op fields endPos)
open Foundation (bitString valueBits)

/-- An element: its identifier, whether it is read in a state, and what stands behind the
identifier. -/
structure TaggedElement (σ : Type) where
  iei : Nat
  wanted : σ → Bool
  value : σ → FieldParser σ

namespace FieldParser

variable {σ β : Type}

/-- The first element of the identifier in an octet that is wanted; the spare bit of the octet is
not looked at. -/
def announced (elements : List (TaggedElement σ)) (state : σ) (raw : Nat) :
    Option (TaggedElement σ) :=
  elements.find? fun element => raw &&& 0x7F == element.iei && element.wanted state

/-- One turn of the loop: another octet than an announced identifier ends it. -/
def readAnnounced (elements : List (TaggedElement σ)) (state : σ) : FieldParser (Option σ) := do
  let raw ← peekField 8
  match announced elements state raw with
  | some element =>
      let _ ← readField 8
      some <$> element.value state
  | none => pure none

/-- `while (br.hasMore())` over the elements; each turn reads something. -/
def readTaggedElements (elements : List (TaggedElement σ)) (state : σ) : FieldParser σ := do
  let bits ← remainingBits
  whileSome (readAnnounced elements) bits state

/-- No element is announced by these octets. -/
def Unannounced (elements : List (TaggedElement σ)) (state : σ) (octets : List UInt8) : Prop :=
  ∀ raw ∈ octets.head?, announced elements state raw.toNat = none

/-! ## What is written -/

/-- The loop takes these bits, whatever count of turns is left that is large enough. -/
def TakesElements (elements : List (TaggedElement σ)) (next : σ → FieldParser β) (state : σ)
    (bits : List Bool) (result : Option β) : Prop :=
  ∀ count, bits.length ≤ count →
    TakesAll (whileSome (readAnnounced elements) count state >>= next) bits result

section Takes

variable {elements : List (TaggedElement σ)} {element : TaggedElement σ} {state following : σ}
  {next : σ → FieldParser β} {result : Option β} {bits : List Bool}

theorem TakesElements.start (takes : TakesElements elements next state bits result) :
    TakesAll (readTaggedElements elements state >>= next) bits result := by
  rw [readTaggedElements, bind_assoc]
  exact TakesAll.counted (takes bits.length le_rfl)

theorem takes_readAnnounced {raw : UInt8} (found : announced elements state raw.toNat = some element)
    (takes : Takes (element.value state) bits (some following)) :
    Takes (readAnnounced elements state) (bitString [raw] ++ bits) (some (some following)) := by
  have enough : 8 ≤ (bitString [raw] ++ bits).length := by
    rw [List.length_append, Foundation.bitString_length]
    exact Nat.le_add_right 8 _
  refine Takes.peek enough ?_
  rw [peeked_front raw [] bits, found]
  exact (takes_field raw).bind (takes.map some)

theorem TakesElements.turn {raw : UInt8} {more : List Bool}
    (found : announced elements state raw.toNat = some element)
    (takes : Takes (element.value state) bits (some following))
    (rest : TakesElements elements next following more result) :
    TakesElements elements next state (bitString [raw] ++ bits ++ more) result := by
  intro count enough
  rw [List.length_append, List.length_append, Foundation.bitString_length] at enough
  obtain ⟨count, rfl⟩ := Nat.exists_eq_add_of_lt (show 0 < count by
    change 8 + _ + _ ≤ count at enough
    omega)
  rw [Nat.zero_add]
  have loop := rest count (by change 8 + _ + _ ≤ _ at enough; omega)
  have left : bitString [raw] ++ bits ++ more ≠ [] := by
    intro none
    have length := congrArg List.length none
    rw [List.length_append, List.length_append, Foundation.bitString_length] at length
    change 8 + _ + _ = 0 at length
    omega
  intro before
  rw [whileSome, bind_assoc]
  refine TakesAll.unfinished left ?_ before
  rw [if_pos rfl, bind_assoc]
  exact (takes_readAnnounced found takes).bind_all loop

/-- An element that is there is written with its identifier in front. -/
theorem TakesElements.present {present : Bool} {type : UInt32} {raw : UInt8} {body ops : List Op}
    {pos : Nat} (identifier : valueBits 8 type.toNat = bitString [raw])
    (found : present = true → announced elements state raw.toNat = some element)
    (takes : present = true →
      Takes (element.value state) (fields (pos + 8) body) (some following))
    (absent : present = false → following = state)
    (rest : TakesElements elements next following
      (fields (endPos pos (if present then .writeField type 8 :: body else [])) ops) result) :
    TakesElements elements next state
      (fields pos ((if present then .writeField type 8 :: body else []) ++ ops)) result := by
  rw [BitWriter.fields_append]
  cases present with
  | false =>
      rw [absent rfl] at rest
      exact rest
  | true =>
      have bits : fields pos (.writeField type 8 :: body) =
          bitString [raw] ++ fields (pos + 8) body := by
        rw [← identifier]
        rfl
      rw [if_pos rfl] at rest ⊢
      rw [bits]
      exact TakesElements.turn (found rfl) (takes rfl) rest

/-- The octets behind the elements are left to what follows. -/
theorem TakesElements.done {octets : List UInt8} (stops : Unannounced elements state octets)
    (rest : TakesAll (next state) (bitString octets) result) :
    TakesElements elements next state (bitString octets) result := by
  intro count enough
  cases count with
  | zero => exact rest
  | succ count =>
      cases octets with
      | nil =>
          intro before
          rw [whileSome, bind_assoc]
          exact TakesAll.finished rest before
      | cons raw octets =>
          have none : announced elements state raw.toNat = none := stops raw rfl
          have left : bitString (raw :: octets) ≠ [] := by
            intro none
            have length := congrArg List.length none
            rw [Foundation.bitString_length] at length
            cases length
          intro before
          rw [whileSome, bind_assoc]
          refine TakesAll.unfinished left (fun before => ?_) before
          rw [if_pos rfl, readAnnounced, bind_assoc, bind_assoc, toOption_bind, peek_between,
            peeked_cons]
          simp only [Except.toOption, Option.bind_some, none]
          exact rest before

end Takes

/-! ## What was read -/

section Reads

variable {elements : List (TaggedElement σ)} {state : σ}

theorem leaves_hasMore : Leaves hasMore fun more read rest =>
    read = [] ∧ (more = true ↔ rest ≠ []) := by
  intro before after more last run
  rw [hasMore_between] at run
  obtain ⟨rfl, rfl⟩ := Prod.mk.inj (Except.ok.inj run)
  exact ⟨[], after, rfl, by rw [List.append_nil], rfl, decide_eq_true_iff⟩

/-- A turn reads an announced element, or nothing where none is announced. -/
theorem leaves_readAnnounced {post : TaggedElement σ → σ → List Bool → Prop}
    (reads : ∀ element ∈ elements, Ensures (element.value state) (post element)) :
    Leaves (readAnnounced elements state) fun found read rest =>
      ∀ raw octets, bitString (raw :: octets) = read ++ rest →
        match found with
        | none => read = [] ∧ announced elements state raw.toNat = none
        | some next => ∃ element bits, announced elements state raw.toNat = some element ∧
            read = bitString [raw] ++ bits ∧ post element next bits := by
  refine (leaves_peekField 8).bind fun peek front => ?_
  cases found : announced elements state peek with
  | none =>
      refine Leaves.pure fun rest peeks raw octets bits => ?_
      obtain ⟨rfl, ahead⟩ := peeks
      refine ⟨rfl, ?_⟩
      rw [List.append_nil, List.nil_append] at bits
      rw [List.nil_append, ← bits, peeked_cons] at ahead
      rw [← ahead]
      exact found
  | some element =>
      have member : element ∈ elements := List.mem_of_find?_eq_some found
      refine (ensures_readField 8).leaves.bind fun _ first => ?_
      refine ((reads element member).map fun next bits holds => ⟨next, rfl, holds⟩ :
        Ensures (some <$> element.value state) fun result bits =>
          ∃ next, result = some next ∧ post element next bits).leaves.mono fun result bits rest => ?_
      rintro ⟨next, rfl, holds⟩ ⟨eight, -⟩ ⟨rfl, ahead⟩ raw octets all
      obtain ⟨octet, rfl⟩ := exists_octet eight
      have same : octet = raw := by
        have front : bitString [octet] ++ (bits ++ rest) = bitString (raw :: octets) := by
          rw [all, List.nil_append, List.append_assoc]
        have peeked := congrArg (peeked 8) front
        rw [peeked_octet, peeked_cons] at peeked
        exact UInt8.toNat_inj.mp peeked
      refine ⟨element, bits, ?_, ?_, holds⟩
      · rw [List.append_assoc, peeked_octet, same] at ahead
        rw [← ahead]
        exact found
      · rw [same]
        rfl

/-- The elements that octets begin with, the last one first: their identifiers and the octets
behind each of these.  With `once`, a second element of an identifier is none. -/
def elementsRead (ieis : List Nat) (size : Nat → List UInt8 → Nat) (once : Bool)
    (read : List (Nat × List UInt8)) : List UInt8 → List (Nat × List UInt8)
  | [] => read
  | raw :: rest =>
      let iei := raw.toNat &&& 0x7F
      if iei ∈ ieis ∧ (once = true → ∀ earlier ∈ read, earlier.1 ≠ iei) then
        elementsRead ieis size once ((iei, rest) :: read) (rest.drop (size iei rest))
      else read
termination_by octets => octets.length
decreasing_by
  rw [List.length_drop, List.length_cons]
  omega

/-- A property of the elements that were read and of the state.  It tells which ones are wanted,
and another element that is read keeps it. -/
structure Follows (elements : List (TaggedElement σ)) (size : Nat → List UInt8 → Nat) (once : Bool)
    (holds : List (Nat × List UInt8) → σ → Prop) : Prop where
  wanted : ∀ read state, holds read state → ∀ element ∈ elements,
    (element.wanted state = true ↔ (once = true → ∀ earlier ∈ read, earlier.1 ≠ element.iei))
  reads : ∀ state, ∀ element ∈ elements,
    Ensures (element.value state) fun next bits => ∃ octets, bits = bitString octets ∧
      ∀ read, holds read state → ∀ more, size element.iei (octets ++ more) = octets.length ∧
        holds ((element.iei, octets ++ more) :: read) next

section Follows

variable {size : Nat → List UInt8 → Nat} {once : Bool} {holds : List (Nat × List UInt8) → σ → Prop}
  {read : List (Nat × List UInt8)} {element : TaggedElement σ} {raw : UInt8}

theorem announced_iei (found : announced elements state raw.toNat = some element) :
    element ∈ elements ∧ element.iei = raw.toNat &&& 0x7F ∧ element.wanted state = true := by
  have holds := List.find?_some found
  rw [Bool.and_eq_true, beq_iff_eq] at holds
  exact ⟨List.mem_of_find?_eq_some found, holds.1.symm, holds.2⟩

theorem Follows.of_announced (follows : Follows elements size once holds) (kept : holds read state)
    (found : announced elements state raw.toNat = some element) :
    raw.toNat &&& 0x7F ∈ elements.map TaggedElement.iei ∧
      (once = true → ∀ earlier ∈ read, earlier.1 ≠ raw.toNat &&& 0x7F) := by
  obtain ⟨member, same, wanted⟩ := announced_iei found
  rw [← same]
  exact ⟨List.mem_map_of_mem member, (follows.wanted read state kept element member).mp wanted⟩

theorem Follows.of_not_announced (follows : Follows elements size once holds)
    (kept : holds read state) (none : announced elements state raw.toNat = none) :
    ¬ (raw.toNat &&& 0x7F ∈ elements.map TaggedElement.iei ∧
      (once = true → ∀ earlier ∈ read, earlier.1 ≠ raw.toNat &&& 0x7F)) := by
  rintro ⟨known, unread⟩
  obtain ⟨element, member, same⟩ := List.mem_map.mp known
  rw [← same] at unread
  have wanted := (follows.wanted read state kept element member).mpr unread
  apply List.find?_eq_none.mp none element member
  rw [Bool.and_eq_true, beq_iff_eq]
  exact ⟨same.symm, wanted⟩

/-- Behind whole octets of octets, octets are left. -/
theorem exists_behind {octets front : List UInt8} {rest : List Bool}
    (bits : bitString octets = bitString front ++ rest) :
    ∃ tail, octets = front ++ tail ∧ rest = bitString tail := by
  have length := congrArg List.length bits
  rw [List.length_append, Foundation.bitString_length, Foundation.bitString_length] at length
  obtain ⟨tail, -, rfl⟩ := @exists_octets (octets.length - front.length) rest (by omega)
  rw [← Foundation.bitString_append] at bits
  exact ⟨tail, bitString_injective bits, rfl⟩

/-- By induction on the turns left; every turn keeps the property. -/
theorem Follows.leaves_loop (follows : Follows elements size once holds) (count : Nat) :
    Leaves (whileSome (readAnnounced elements) count state) fun last bits rest =>
      ∀ read octets, holds read state → bitString octets = bits ++ rest → octets.length ≤ count →
        ∃ tail, rest = bitString tail ∧ Unannounced elements last tail ∧
          holds (elementsRead (elements.map TaggedElement.iei) size once read octets) last := by
  have ended {state : σ} {read : List (Nat × List UInt8)} (kept : holds read state) :
      Unannounced elements state [] ∧
        holds (elementsRead (elements.map TaggedElement.iei) size once read []) state := by
    rw [elementsRead]
    refine ⟨fun raw none => ?_, kept⟩
    cases none
  induction count generalizing state with
  | zero =>
      refine Leaves.pure fun rest read octets kept bits short => ?_
      obtain rfl := List.eq_nil_of_length_eq_zero (Nat.le_zero.mp short)
      exact ⟨[], bits.symm, ended kept⟩
  | succ count ih =>
      refine leaves_hasMore.bind fun more front => ?_
      cases more with
      | false =>
          refine Leaves.pure fun rest halted read octets kept bits _ => ?_
          obtain ⟨rfl, left⟩ := halted
          have none : rest = [] := by
            by_contra some_bit
            cases left.mpr some_bit
          subst none
          obtain rfl : octets = [] := bitString_injective bits
          exact ⟨[], rfl, ended kept⟩
      | true =>
          refine (leaves_readAnnounced (follows.reads state)).bind fun found first => ?_
          cases found with
          | none =>
              refine Leaves.pure fun rest turn ahead read octets kept bits _ => ?_
              obtain ⟨rfl, left⟩ := ahead
              cases octets with
              | nil => exact absurd bits.symm (left.mp rfl)
              | cons raw octets =>
                  obtain ⟨rfl, none⟩ := turn raw octets (by simpa using bits)
                  refine ⟨raw :: octets, bits.symm, ?_, ?_⟩
                  · intro octet same
                    obtain rfl := Option.some.inj same
                    exact none
                  · rw [elementsRead, if_neg (follows.of_not_announced kept none)]
                    exact kept
          | some next =>
              refine ih.mono fun last more rest later turn ahead read octets kept bits short => ?_
              obtain ⟨rfl, left⟩ := ahead
              cases octets with
              | nil => exact absurd bits.symm (left.mp rfl)
              | cons raw octets =>
                  obtain ⟨element, _, found, rfl, value, rfl, keeps⟩ :=
                    turn raw octets (by simpa using bits)
                  have front : bitString (raw :: octets) =
                      bitString (raw :: value) ++ (more ++ rest) := by
                    have octet := Foundation.bitString_append [raw] value
                    rw [List.singleton_append] at octet
                    rw [bits, octet]
                    simp only [List.nil_append, List.append_assoc]
                  obtain ⟨behind, split, whole⟩ := exists_behind front
                  obtain rfl : octets = value ++ behind := List.tail_eq_of_cons_eq split
                  obtain ⟨size_eq, next_kept⟩ := keeps read kept behind
                  have fewer : behind.length ≤ count := by
                    rw [List.length_cons, List.length_append] at short
                    omega
                  obtain ⟨tail, rfl, stops, last_kept⟩ := later _ behind next_kept whole.symm fewer
                  refine ⟨tail, rfl, stops, ?_⟩
                  obtain ⟨_, same, _⟩ := announced_iei found
                  rw [elementsRead, if_pos (follows.of_announced kept found), ← same, size_eq,
                    List.drop_left]
                  exact last_kept

theorem Follows.leaves (follows : Follows elements size once holds) :
    Leaves (readTaggedElements elements state) fun last bits rest =>
      ∀ octets, holds [] state → bitString octets = bits ++ rest →
        ∃ tail, rest = bitString tail ∧ Unannounced elements last tail ∧
          holds (elementsRead (elements.map TaggedElement.iei) size once [] octets) last := by
  refine leaves_remainingBits.bind fun count front => ?_
  refine (follows.leaves_loop count).mono fun last bits rest loop counted octets kept whole => ?_
  obtain ⟨rfl, rfl⟩ := counted
  have enough : octets.length ≤ (bits ++ rest).length := by
    have length := congrArg List.length whole
    rw [Foundation.bitString_length] at length
    change _ = (bits ++ rest).length at length
    omega
  exact loop [] octets kept whole enough

end Follows

/-! ## Values that are kept for an identifier -/

/-- A value that is there once an element of the identifier was read, and else is a default. -/
structure Slot {α : Type} (read : List (Nat × List UInt8)) (iei : Nat) (found : Bool)
    (value default : α) : Prop where
  present : found = false ↔ ∀ earlier ∈ read, earlier.1 ≠ iei
  absent : found = false → value = default

namespace Slot

variable {α : Type} {read : List (Nat × List UInt8)} {iei earlier : Nat} {found : Bool}
  {value default : α} {octets : List UInt8}

theorem empty : Slot [] iei false default default where
  present := iff_of_true rfl fun _ none => absurd none List.not_mem_nil
  absent _ := rfl

theorem filled : Slot ((iei, octets) :: read) iei true value default where
  present := iff_of_false Bool.noConfusion fun unread => unread _ List.mem_cons_self rfl
  absent none := Bool.noConfusion none

theorem other (slot : Slot read iei found value default) (differs : earlier ≠ iei) :
    Slot ((earlier, octets) :: read) iei found value default where
  present := by
    rw [slot.present, List.forall_mem_cons]
    exact (and_iff_right differs).symm
  absent := slot.absent

/-- The value is wanted as long as it is not there. -/
theorem wanted (slot : Slot read iei found value default) :
    (!found) = true ↔ (true = true → ∀ earlier ∈ read, earlier.1 ≠ iei) := by
  rw [Bool.not_eq_true', slot.present, imp_iff_right rfl]

end Slot

end Reads

end FieldParser

end Gsml3
