import Mathlib

/-!
# Output buffers

Writes at an offset of a buffer of fixed size.  A write beyond the buffer is undefined.
-/

namespace Foundation

namespace OutputBuffer

variable {Octet : Type*}

/-- Overwrite the octets of a buffer from an offset on. -/
def write (buf : List Octet) (offset : Nat) (octets : List Octet) : Option (List Octet) :=
  if offset + octets.length ≤ buf.length then
    some (buf.take offset ++ octets ++ buf.drop (offset + octets.length))
  else none

/-- A buffer that starts with the octets written so far, with the offset behind them. -/
def filled (buf octets : List Octet) : Option (List Octet × Nat) :=
  if octets.length ≤ buf.length then some (octets ++ buf.drop octets.length, octets.length)
  else none

variable {buf octets more : List Octet}

theorem filled_of_le (room : octets.length ≤ buf.length) :
    filled buf octets = some (octets ++ buf.drop octets.length, octets.length) :=
  if_pos room

theorem filled_of_lt (short : buf.length < octets.length) : filled buf octets = none :=
  if_neg (Nat.not_le.mpr short)

theorem filled_nil (buf : List Octet) : filled buf [] = some (buf, 0) :=
  rfl

/-- Writing on from where the buffer is filled. -/
theorem filled_write (buf octets more : List Octet) :
    ((filled buf octets).bind fun (buf, offset) =>
        (write buf offset more).map fun buf => (buf, offset + more.length)) =
      filled buf (octets ++ more) := by
  by_cases room : octets.length ≤ buf.length
  · rw [filled_of_le room, Option.bind_some]
    have size : (octets ++ buf.drop octets.length).length = buf.length := by
      rw [List.length_append, List.length_drop]
      omega
    by_cases fits : (octets ++ more).length ≤ buf.length
    · rw [filled_of_le fits]
      rw [List.length_append] at fits
      simp only [write, size, if_pos fits, Option.map_some, List.take_left, List.length_append]
      rw [List.drop_length_add_append, List.drop_drop]
    · rw [filled_of_lt (Nat.not_le.mp fits)]
      rw [List.length_append] at fits
      simp only [write, size, if_neg fits, Option.map_none]
  · rw [filled_of_lt (Nat.not_le.mp room), filled_of_lt, Option.bind_none]
    rw [List.length_append]
    omega

/-- Writing from the start of the buffer on. -/
theorem filled_start (buf octets : List Octet) :
    (write buf 0 octets).map (·, octets.length) = filled buf octets := by
  have written := filled_write buf [] octets
  rw [filled_nil, Option.bind_some, List.nil_append] at written
  rw [← written]
  simp only [Nat.zero_add]

end OutputBuffer

end Foundation
