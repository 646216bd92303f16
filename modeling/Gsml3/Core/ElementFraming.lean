import Gsml3.Core.FieldParser
import Gsml3.Foundation.Elements

/-!
# Framing of optional elements

A message body is read element by element, in rounds.  If each round reads the octets of one
element, elements do not disturb each other: one that changes nothing can be removed.
-/

namespace Gsml3

namespace FieldParser

open Foundation (Element bitString)

variable {σ : Type} (parser : FieldParser σ) (round : σ → FieldParser σ) (initial : σ)
  (format : UInt8 → Element.Format)

def elementBits (elements : List Element) : List Bool :=
  bitString (elements.flatMap (Element.encode format))

/-- A round reads these bits to their end, or refuses them, whatever stands around them. -/
def Delimited (bits : List Bool) : Prop :=
  ∀ state, ∃ result, Takes (round state) bits result

/-- A round for each of the earlier elements leads to the first of the later ones. -/
def Reached (earlier later : List Element) : Prop :=
  ∃ state, rounds round earlier.length initial
      (.between [] (elementBits format earlier ++ elementBits format later)) =
    .ok (state, .between (elementBits format earlier) (elementBits format later))

/-- A parser and the rounds of its loop frame a body by its lengths: each element is read at
its own boundary, and an element of an unknown identifier can be removed. -/
structure FramedByLength (unknown : UInt8 → Prop) (elements : List Element) : Prop where
  boundaries : ∀ earlier element later, elements = earlier ++ element :: later →
    Reached round initial format earlier (element :: later) →
      Delimited round (bitString (element.encode format))
  removable : ∀ earlier element later, elements = earlier ++ element :: later →
    unknown element.type →
      parse parser (elements.flatMap (Element.encode format)) =
        parse parser ((earlier ++ later).flatMap (Element.encode format))

/-- What the rounds do with single elements. -/
structure ElementReading (fits refused : Element → Prop) (unknown : UInt8 → Prop) : Prop where
  reads : ∀ element, element.WellFormed format → ¬ refused element →
    ∀ state, ReadsIf (fits element) (round state) (bitString (element.encode format))
  refuses : ∀ element, element.WellFormed format → refused element →
    ∀ state, Takes (round state) (bitString (element.encode format)) none
  skips : ∀ element, element.WellFormed format → fits element → unknown element.type →
    ∀ state, Takes (round state) (bitString (element.encode format)) (some state)

/-- Up to the first refused element, each one fits. -/
def FitUntilRefused (fits refused : Element → Prop) (elements : List Element) : Prop :=
  ∀ earlier element later, elements = earlier ++ element :: later →
    (∀ read ∈ earlier, ¬ refused read) → refused element ∨ fits element

variable {round initial format}

/-- The octets of an element behind its type. -/
def content (format : Element.Format) (val : List UInt8) : List UInt8 :=
  match format with
  | .fixed _ => val
  | .counted width => Element.lengthField width val.length ++ val

section Bits

theorem encode_eq (element : Element) :
    element.encode format = element.type :: content (format element.type) element.val := by
  rw [Element.encode]
  cases format element.type with
  | fixed => rfl
  | counted => rfl

theorem elementBits_cons (element : Element) (elements : List Element) :
    elementBits format (element :: elements) =
      bitString (element.encode format) ++ elementBits format elements := by
  rw [elementBits, List.flatMap_cons, Foundation.bitString_append, elementBits]

theorem encode_length_pos (element : Element) : 0 < (element.encode format).length := by
  rw [encode_eq]
  exact Nat.succ_pos _

theorem encode_bits_pos (element : Element) :
    0 < (bitString (element.encode format)).length := by
  rw [Foundation.bitString_length]
  have := @encode_length_pos format element
  omega

end Bits

/-! ## Rounds over a body -/

/-- The rounds over these elements have this result, wherever they stand. -/
def Yields (round : σ → FieldParser σ) (format : UInt8 → Element.Format) (state : σ)
    (elements : List Element) (result : Option σ) : Prop :=
  ∀ count before, (elementBits format elements).length ≤ count →
    (whileMore round count state (.between before (elementBits format elements))).toOption.map
      Prod.fst = result

theorem whileMore_succ (count : Nat) (state : σ) (before : List Bool) {bits : List Bool}
    (more : 0 < bits.length) :
    (whileMore round (count + 1) state (.between before bits)).toOption =
      (round state (.between before bits)).toOption.bind fun read =>
        (whileMore round count read.1 read.2).toOption := by
  rw [whileMore, toOption_bind]
  have inside : (BitCursor.between before bits).pos < (BitCursor.between before bits).bits.length := by
    simp only [BitCursor.between, List.length_append]
    omega
  simp only [hasMore, Except.toOption, Option.bind_some, inside, decide_true, if_true]
  exact toOption_bind _ _ _

namespace Yields

variable {state next : σ} {element : Element} {elements : List Element} {result : Option σ}

theorem nil (state : σ) : Yields round format state [] (some state) := by
  intro count before _
  cases count with
  | zero => rfl
  | succ count =>
      have ended : ¬ (BitCursor.between before (elementBits format [])).pos <
          (BitCursor.between before (elementBits format [])).bits.length := by
        simp [BitCursor.between, elementBits, bitString]
      rw [whileMore, toOption_bind]
      simp only [hasMore, Except.toOption, Option.bind_some, ended, decide_false]
      rfl

theorem cons (takes : Takes (round state) (bitString (element.encode format)) (some next))
    (yields : Yields round format next elements result) :
    Yields round format state (element :: elements) result := by
  intro count before enough
  have some_bits := @encode_bits_pos format element
  rw [elementBits_cons] at enough ⊢
  rw [List.length_append] at enough
  obtain ⟨count, rfl⟩ := Nat.exists_eq_succ_of_ne_zero (n := count) (by omega)
  rw [whileMore_succ count state before (by rw [List.length_append]; omega), takes]
  exact yields count _ (by omega)

theorem refused (takes : Takes (round state) (bitString (element.encode format)) none)
    (elements : List Element) : Yields round format state (element :: elements) none := by
  intro count before enough
  have some_bits := @encode_bits_pos format element
  rw [elementBits_cons] at enough ⊢
  rw [List.length_append] at enough
  obtain ⟨count, rfl⟩ := Nat.exists_eq_succ_of_ne_zero (n := count) (by omega)
  rw [whileMore_succ count state before (by rw [List.length_append]; omega), takes]
  rfl

theorem parse_eq (yields : Yields round format state elements result) :
    parse (parseRounds round state) (elements.flatMap (Element.encode format)) = result := by
  rw [parse, parseRounds, toOption_bind]
  exact yields _ [] (by simp [BitCursor.between, elementBits])

end Yields

section Reading

variable {fits refused : Element → Prop} {unknown : UInt8 → Prop}
  {element : Element} {earlier later elements : List Element}

theorem FitUntilRefused.tail (fit : FitUntilRefused fits refused (element :: elements))
    (accepted : ¬ refused element) : FitUntilRefused fits refused elements := by
  intro earlier next later split unrefused
  refine fit (element :: earlier) next later (congrArg (element :: ·) split) ?_
  intro read member
  rcases List.mem_cons.mp member with rfl | member
  · exact accepted
  · exact unrefused read member

theorem ElementReading.takes (reading : ElementReading round format fits refused unknown)
    (formed : element.WellFormed format) (fit : fits element) (accepted : ¬ refused element)
    (state : σ) :
    ∃ next, Takes (round state) (bitString (element.encode format)) (some next) :=
  (reading.reads element formed accepted state).takes fit

/-- Rounds over elements that fit read all of them. -/
theorem ElementReading.takes_rounds (reading : ElementReading round format fits refused unknown)
    (formed : ∀ element ∈ elements, element.WellFormed format)
    (accepted : ∀ element ∈ elements, fits element ∧ ¬ refused element) (state : σ) :
    ∃ next, Takes (FieldParser.rounds round elements.length state) (elementBits format elements)
      (some next) := by
  induction elements generalizing state with
  | nil => exact ⟨state, Takes.pure state⟩
  | cons element elements ih =>
      obtain ⟨fit, unrefused⟩ := accepted element List.mem_cons_self
      obtain ⟨middle, takes⟩ :=
        reading.takes (formed element List.mem_cons_self) fit unrefused state
      obtain ⟨next, rest⟩ := ih (fun element member => formed element (List.mem_cons_of_mem _ member))
        (fun element member => accepted element (List.mem_cons_of_mem _ member)) middle
      rw [elementBits_cons]
      exact ⟨next, takes.bind rest⟩

theorem ElementReading.reached (reading : ElementReading round format fits refused unknown)
    (formed : ∀ element ∈ earlier, element.WellFormed format)
    (accepted : ∀ element ∈ earlier, fits element ∧ ¬ refused element) (initial : σ)
    (later : List Element) : Reached round initial format earlier later := by
  obtain ⟨next, takes⟩ := reading.takes_rounds formed accepted initial
  refine ⟨next, ?_⟩
  have read := takes [] (elementBits format later)
  rw [Option.map_some, List.nil_append] at read
  revert read
  cases FieldParser.rounds round earlier.length initial _ with
  | error => exact fun read => nomatch read
  | ok => exact fun read => congrArg Except.ok (Option.some.inj read)

/-- Where the rounds get through, no element was refused. -/
theorem ElementReading.unrefused (reading : ElementReading round format fits refused unknown)
    (formed : ∀ element ∈ earlier, element.WellFormed format)
    (fit : FitUntilRefused fits refused (earlier ++ later)) {state : σ} {before after : List Bool}
    (through : (FieldParser.rounds round earlier.length state
      (.between before (elementBits format earlier ++ after))).toOption ≠ none) :
    ∀ element ∈ earlier, ¬ refused element := by
  induction earlier generalizing state before with
  | nil =>
      intro element member
      exact absurd member List.not_mem_nil
  | cons element earlier ih =>
      have well := formed element List.mem_cons_self
      rw [List.length_cons, FieldParser.rounds, toOption_bind, elementBits_cons,
        List.append_assoc] at through
      have accepted : ¬ refused element := by
        intro bad
        rw [reading.refuses element well bad state] at through
        exact through rfl
      have fitting := (fit [] element (earlier ++ later) rfl
        (fun _ member => absurd member List.not_mem_nil)).resolve_left accepted
      obtain ⟨next, takes⟩ := reading.takes well fitting accepted state
      rw [takes] at through
      have rest := ih (fun element member => formed element (List.mem_cons_of_mem _ member))
        (fit.tail accepted) through
      intro read member
      rcases List.mem_cons.mp member with rfl | member
      · exact accepted
      · exact rest read member

theorem ElementReading.yields (reading : ElementReading round format fits refused unknown)
    (formed : ∀ element ∈ elements, element.WellFormed format)
    (fit : FitUntilRefused fits refused elements) (state : σ) :
    ∃ result, Yields round format state elements result := by
  induction elements generalizing state with
  | nil => exact ⟨some state, Yields.nil state⟩
  | cons element elements ih =>
      have well := formed element List.mem_cons_self
      by_cases bad : refused element
      · exact ⟨none, Yields.refused (reading.refuses element well bad state) elements⟩
      · have fitting := (fit [] element elements rfl
          (fun _ member => absurd member List.not_mem_nil)).resolve_left bad
        obtain ⟨next, takes⟩ := reading.takes well fitting bad state
        obtain ⟨result, rest⟩ := ih
          (fun element member => formed element (List.mem_cons_of_mem _ member)) (fit.tail bad) next
        exact ⟨result, rest.cons takes⟩

/-- Without an element that changes nothing, the rounds yield the same. -/
theorem ElementReading.removed (reading : ElementReading round format fits refused unknown)
    (formed : ∀ read ∈ earlier ++ element :: later, read.WellFormed format)
    (fit : FitUntilRefused fits refused (earlier ++ element :: later))
    (ignored : unknown element.type) (accepted : ¬ refused element) (state : σ) :
    ∃ result, Yields round format state (earlier ++ element :: later) result ∧
      Yields round format state (earlier ++ later) result := by
  induction earlier generalizing state with
  | nil =>
      have well := formed element List.mem_cons_self
      have fitting := (fit [] element later rfl
        (fun _ member => absurd member List.not_mem_nil)).resolve_left accepted
      obtain ⟨result, yields⟩ := reading.yields
        (fun read member => formed read (List.mem_cons_of_mem _ member)) (fit.tail accepted) state
      exact ⟨result, yields.cons (reading.skips element well fitting ignored state), yields⟩
  | cons first earlier ih =>
      have well := formed first List.mem_cons_self
      by_cases bad : refused first
      · have refuses := reading.refuses first well bad state
        exact ⟨none, Yields.refused refuses _, Yields.refused refuses _⟩
      · have fitting := (fit [] first (earlier ++ element :: later) rfl
          (fun _ member => absurd member List.not_mem_nil)).resolve_left bad
        obtain ⟨next, takes⟩ := reading.takes well fitting bad state
        obtain ⟨result, whole, rest⟩ := ih
          (fun read member => formed read (List.mem_cons_of_mem _ member)) (fit.tail bad) next
        exact ⟨result, whole.cons takes, rest.cons takes⟩

/-- A body is framed by its lengths if and only if its elements fit, up to the first refused
one. -/
theorem ElementReading.framedByLength_iff
    (reading : ElementReading round format fits refused unknown)
    (accepted : ∀ element, unknown element.type → ¬ refused element)
    (formed : ∀ element ∈ elements, element.WellFormed format) (initial : σ) :
    FramedByLength (parseRounds round initial) round initial format unknown elements ↔
      FitUntilRefused fits refused elements := by
  constructor
  · intro framed
    have fitting : ∀ earlier later, elements = earlier ++ later →
        (∀ read ∈ earlier, ¬ refused read) → ∀ read ∈ earlier, fits read := by
      intro earlier
      induction earlier using List.reverseRecOn with
      | nil =>
          intro later _ _ read member
          exact absurd member List.not_mem_nil
      | append_singleton earlier last ih =>
          intro later split unrefused
          rw [List.append_assoc, List.singleton_append] at split
          have earlier_fits := ih (last :: later) split
            fun read member => unrefused read (List.mem_append_left _ member)
          have unrefused_last := unrefused last (List.mem_append_right _ List.mem_cons_self)
          have delimited := framed.boundaries earlier last later split
            (reading.reached
              (fun read member => formed read (split ▸ List.mem_append_left _ member))
              (fun read member => ⟨earlier_fits read member,
                unrefused read (List.mem_append_left _ member)⟩) initial (last :: later))
          have last_fits : fits last := by
            by_contra misfit
            obtain ⟨result, takes⟩ := delimited initial
            exact ((reading.reads last
              (formed last (split ▸ List.mem_append_right _ List.mem_cons_self))
              unrefused_last initial).misreads misfit).not_takes result takes
          intro read member
          rcases List.mem_append.mp member with member | member
          · exact earlier_fits read member
          · rw [List.mem_singleton.mp member]
            exact last_fits
    intro earlier element later split unrefused
    by_cases bad : refused element
    · exact .inl bad
    · refine .inr (fitting (earlier ++ [element]) later
        (by rw [split, List.append_assoc, List.singleton_append]) ?_ element
        (List.mem_append_right _ List.mem_cons_self))
      intro read member
      rcases List.mem_append.mp member with member | member
      · exact unrefused read member
      · rw [List.mem_singleton.mp member]
        exact bad
  · intro fit
    constructor
    case boundaries =>
      intro earlier element later split ⟨state, through⟩ state
      have well := formed element (split ▸ List.mem_append_right _ List.mem_cons_self)
      have unrefused := reading.unrefused
        (fun read member => formed read (split ▸ List.mem_append_left _ member))
        (split ▸ fit : FitUntilRefused fits refused (earlier ++ element :: later))
        (by rw [through]; exact Option.some_ne_none _)
      by_cases bad : refused element
      · exact ⟨none, reading.refuses element well bad state⟩
      · have fitting := (fit earlier element later split unrefused).resolve_left bad
        obtain ⟨next, takes⟩ := reading.takes well fitting bad state
        exact ⟨some next, takes⟩
    case removable =>
      intro earlier element later split ignored
      subst split
      obtain ⟨result, whole, rest⟩ :=
        reading.removed formed fit ignored (accepted element ignored) initial
      rw [whole.parse_eq, rest.parse_eq]

end Reading

end FieldParser

end Gsml3
