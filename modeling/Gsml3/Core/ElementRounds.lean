import Gsml3.Core.ElementCodec

/-!
# Rounds over written elements

A loop that reads an element in each round gets through the elements that are written one behind
the other, each of them only if it is there.  What a round does with an element is all that is
needed of it.
-/

namespace Gsml3

open BitWriter (Op fields endPos)
open Foundation (bitString)

namespace FieldParser

variable {σ α : Type} {round : σ → FieldParser σ} {state next final : σ} {pos : Nat}

/-- The rounds lead from a state over these bits to another one. -/
def Leads (round : σ → FieldParser σ) (state : σ) (bits : List Bool) (final : σ) : Prop :=
  ∀ count, bits.length ≤ count → TakesAll (whileMore round count state) bits (some final)

theorem Leads.done (same : state = final) : Leads round state [] final := by
  intro count _
  rw [same]
  cases count with
  | zero => exact (Takes.pure final).all
  | succ count => exact TakesAll.finished (Takes.pure final).all

theorem Leads.turn {bits more : List Bool} (filled : bits ≠ [])
    (takes : Takes (round state) bits (some next)) (rest : Leads round next more final) :
    Leads round state (bits ++ more) final := by
  intro count enough
  have some_bits := List.length_pos_of_ne_nil filled
  rw [List.length_append] at enough
  obtain ⟨count, rfl⟩ := Nat.exists_eq_add_one_of_ne_zero (show count ≠ 0 by omega)
  apply TakesAll.unfinished (List.append_ne_nil_of_left_ne_nil filled more)
  exact takes.bind_all (rest count (by omega))

/-- An element is merged into the state if it is there. -/
theorem Leads.optional {β : Type} {write : α → List Op} {found : Option α} {ops : List Op}
    {reread : α → β} (merge : σ → Option β → σ) (absent : merge state none = state)
    (filled : ∀ value ∈ found, fields pos (write value) ≠ [])
    (takes : ∀ value ∈ found,
      Takes (round state) (fields pos (write value)) (some (merge state (some (reread value)))))
    (rest : Leads round (merge state (found.map reread))
      (fields (endPos pos (writePresent write found)) ops) final) :
    Leads round state (fields pos (writePresent write found ++ ops)) final := by
  rw [BitWriter.fields_append]
  cases found with
  | none =>
      rw [Option.map_none, absent] at rest
      exact rest
  | some value => exact Leads.turn (filled value rfl) (takes value rfl) rest

theorem Leads.takesAll {bits : List Bool} (leads : Leads round state bits final) :
    TakesAll (parseRounds round state) bits (some final) :=
  TakesAll.counted (leads _ le_rfl)

theorem Leads.parse_eq {ops : List Op} (leads : Leads round state (fields 0 ops) final)
    (whole : 8 ∣ endPos 0 ops) : parse (parseRounds round state) (octetsOf ops) = some final := by
  apply TakesAll.parse_eq
  rw [bitString_octetsOf whole]
  exact leads.takesAll

/-! ## Loops that look ahead -/

/-- One turn of `while (br.hasMore())`: the element that the next octet announces, or the end of the
loop. -/
def readAhead (elements : Nat → Option (σ → FieldParser σ)) (state : σ) :
    FieldParser (Option σ) := do
  let peek ← peekField 8
  match elements peek with
  | some element =>
      let _ ← readField 8
      some <$> element state
  | none => pure none

def readWhile (elements : Nat → Option (σ → FieldParser σ)) (state : σ) : FieldParser σ := do
  let bits ← remainingBits
  whileSome (readAhead elements) bits state

/-- None of the elements is announced by these bits. -/
def Stops (elements : Nat → Option (σ → FieldParser σ)) (bits : List Bool) : Prop :=
  bits = [] ∨ 8 ≤ bits.length ∧ elements (peeked 8 bits) = none

/-- The loop takes these bits, whatever count of turns is left that is large enough. -/
def TakesAhead {β : Type} (elements : Nat → Option (σ → FieldParser σ)) (next : σ → FieldParser β)
    (state : σ) (bits : List Bool) (result : Option β) : Prop :=
  ∀ count, bits.length ≤ count →
    TakesAll (whileSome (readAhead elements) count state >>= next) bits result

section Ahead

variable {β : Type} {elements : Nat → Option (σ → FieldParser σ)} {element : σ → FieldParser σ}
  {after : σ → FieldParser β} {result : Option β} {ops : List Op}

theorem TakesAhead.start {bits : List Bool} (takes : TakesAhead elements after state bits result) :
    TakesAll (readWhile elements state >>= after) bits result := by
  rw [readWhile, bind_assoc]
  exact TakesAll.counted (takes bits.length le_rfl)

theorem TakesAhead.stop {bits : List Bool} (stops : Stops elements bits)
    (rest : TakesAll (after state) bits result) :
    TakesAhead elements after state bits result := by
  intro count _
  cases count with
  | zero => exact rest
  | succ count =>
      intro before
      rw [whileSome, bind_assoc]
      rcases stops with rfl | ⟨enough, silent⟩
      · exact TakesAll.finished rest before
      · have left : bits ≠ [] := List.ne_nil_of_length_pos (Nat.lt_of_lt_of_le (by simp) enough)
        refine TakesAll.unfinished left ?_ before
        intro before
        have looked : (readAhead elements state) (.between before bits) =
            .ok (none, .between before bits) := by
          change (peekField 8 (.between before bits) >>= fun read => _) = _
          rw [peek_between]
          change (match elements (peeked 8 bits) with
            | some element => _
            | none => _ : FieldParser (Option σ)) _ = _
          rw [silent]
          rfl
        rw [if_pos rfl, bind_assoc, toOption_bind, looked]
        exact rest before

theorem TakesAhead.turn {iei : UInt8} {more : List Bool}
    (found : elements iei.toNat = some element)
    (takes : Takes (element state) (fields (pos + 8) ops) (some next))
    (rest : TakesAhead elements after next more result) :
    TakesAhead elements after state
      (fields pos (.writeField iei.toUInt32 8 :: ops) ++ more) result := by
  have front : fields pos (.writeField iei.toUInt32 8 :: ops) =
      bitString [iei] ++ fields (pos + 8) ops := by
    rw [bitString, List.flatMap_singleton]
    rfl
  have wide : 8 ≤ (fields pos (.writeField iei.toUInt32 8 :: ops)).length := by
    rw [front, List.length_append]
    exact Nat.le_add_right 8 _
  intro count enough
  rw [List.length_append] at enough
  obtain ⟨count, rfl⟩ := Nat.exists_eq_add_one_of_ne_zero (show count ≠ 0 by omega)
  have loop := rest count (by omega)
  have one : Takes (readAhead elements state) (fields pos (.writeField iei.toUInt32 8 :: ops))
      (some (some next)) := by
    apply Takes.peek wide
    rw [front, peeked_octet, found]
    exact (takes_field iei).bind (takes.map some)
  intro before
  rw [whileSome, bind_assoc]
  apply TakesAll.unfinished
  · apply List.append_ne_nil_of_left_ne_nil
    exact List.ne_nil_of_length_pos (Nat.lt_of_lt_of_le (by simp) wide)
  · rw [if_pos rfl, bind_assoc]
    exact one.bind_all loop

/-- An element that the loop reads is merged into the state if it is there. -/
theorem TakesAhead.optional {γ : Type} {write : α → List Op} {found : Option α} {reread : α → γ}
    {iei : UInt8} {body : α → List Op} (merge : σ → Option γ → σ)
    (absent : merge state none = state)
    (written : ∀ value, write value = .writeField iei.toUInt32 8 :: body value)
    (announced : elements iei.toNat = some element)
    (takes : ∀ value ∈ found, Takes (element state) (fields (pos + 8) (body value))
      (some (merge state (some (reread value)))))
    (rest : TakesAhead elements after (merge state (found.map reread))
      (fields (endPos pos (writePresent write found)) ops) result) :
    TakesAhead elements after state (fields pos (writePresent write found ++ ops)) result := by
  rw [BitWriter.fields_append]
  cases found with
  | none =>
      rw [Option.map_none, absent] at rest
      exact rest
  | some value =>
      change TakesAhead _ _ _ (fields pos (write value) ++ fields (endPos pos (write value)) ops) _
      rw [written value]
      apply TakesAhead.turn announced (takes value rfl)
      rw [← written value]
      exact rest

theorem Stops.nil (elements : Nat → Option (σ → FieldParser σ)) (pos : Nat) :
    Stops elements (fields pos []) :=
  .inl rfl

/-- An element that is not announced stops the loop. -/
theorem Stops.written {iei : UInt8} {more : List Bool} (silent : elements iei.toNat = none) :
    Stops elements (fields pos (.writeField iei.toUInt32 8 :: ops) ++ more) := by
  apply Or.inr
  have front : fields pos (.writeField iei.toUInt32 8 :: ops) =
      bitString [iei] ++ fields (pos + 8) ops := by
    rw [bitString, List.flatMap_singleton]
    rfl
  rw [front, List.append_assoc, peeked_octet, List.length_append]
  exact ⟨Nat.le_add_right 8 _, silent⟩

/-- So does the end behind elements that are not there. -/
theorem Stops.optional {write : α → List Op} {found : Option α} {iei : UInt8}
    {body : α → List Op}
    (written : ∀ value, write value = .writeField iei.toUInt32 8 :: body value)
    (silent : elements iei.toNat = none)
    (rest : Stops elements (fields (endPos pos (writePresent write found)) ops)) :
    Stops elements (fields pos (writePresent write found ++ ops)) := by
  rw [BitWriter.fields_append]
  cases found with
  | none => exact rest
  | some value =>
      change Stops elements (fields pos (write value) ++ _)
      rw [written value]
      exact Stops.written silent

end Ahead

end FieldParser

end Gsml3
