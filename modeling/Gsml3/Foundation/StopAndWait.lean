import Mathlib

/-!
# Stop-and-wait transfer over a lossy FIFO channel

Counting invariant of one direction of a window-one transfer.  The sender has
numbered `sent` items and knows that `acked` of them arrived, the receiver has
taken `received` of them.  `data` lists the numbers of the items in flight
towards the receiver and `acks` the counts in flight towards the sender, both
in channel order.  Items and counts may be lost and items may be repeated; the
channels do not reorder.

The wire carries numbers modulo `modulus` only.  `item_mod_iff` says that under
the invariant the reduced number of an item in flight decides whether it is the
expected one.
-/

namespace Foundation

/-- One direction of a stop-and-wait transfer. -/
structure StopAndWait (sent acked received : Nat) (data acks : List Nat) : Prop where
  acked_le : acked ≤ received
  received_le : received ≤ sent
  window : sent ≤ acked + 1
  data_ordered : data.Pairwise (· ≤ ·)
  data_bounded : ∀ item ∈ data, item < sent ∧ received ≤ item + 1
  acks_ordered : acks.Pairwise (· ≤ ·)
  acks_bounded : ∀ count ∈ acks, acked ≤ count ∧ count ≤ received

namespace StopAndWait

variable {sent acked received item count : Nat} {data acks : List Nat}

/-- Nothing is in flight and everything sent has been acknowledged. -/
theorem idle (sent : Nat) : StopAndWait sent sent sent [] [] where
  acked_le := le_rfl
  received_le := le_rfl
  window := Nat.le_succ sent
  data_ordered := .nil
  data_bounded := by simp
  acks_ordered := .nil
  acks_bounded := by simp

/-- The sender numbers and transmits the next item once the previous one is
acknowledged. -/
theorem send_next (transfer : StopAndWait sent acked received data acks)
    (free : acked = sent) :
    StopAndWait (sent + 1) acked received (data ++ [sent]) acks := by
  have caught_up : received = sent :=
    le_antisymm transfer.received_le (free ▸ transfer.acked_le)
  refine ⟨transfer.acked_le, by omega, by omega, ?_, ?_, transfer.acks_ordered,
    transfer.acks_bounded⟩
  · refine List.pairwise_append.mpr ⟨transfer.data_ordered, by simp, ?_⟩
    intro earlier member later last
    obtain rfl : later = sent := by simpa using last
    exact (transfer.data_bounded earlier member).1.le
  · intro entry member
    rcases List.mem_append.mp member with old | new
    · have bound := transfer.data_bounded entry old
      omega
    · obtain rfl : entry = sent := by simpa using new
      omega

/-- The sender repeats the last item it numbered. -/
theorem send_again (transfer : StopAndWait (sent + 1) acked received data acks) :
    StopAndWait (sent + 1) acked received (data ++ [sent]) acks := by
  refine { transfer with data_ordered := ?_, data_bounded := ?_ }
  · refine List.pairwise_append.mpr ⟨transfer.data_ordered, by simp, ?_⟩
    intro earlier member later last
    obtain rfl : later = sent := by simpa using last
    have bound := transfer.data_bounded earlier member
    omega
  · intro entry member
    rcases List.mem_append.mp member with old | new
    · exact transfer.data_bounded entry old
    · obtain rfl : entry = sent := by simpa using new
      exact ⟨Nat.lt_succ_self entry, transfer.received_le⟩

/-- The receiver takes the item it expects once no earlier item is in flight. -/
theorem advance (transfer : StopAndWait sent acked received data acks)
    (available : received < sent) (ahead : ∀ item ∈ data, received ≤ item) :
    StopAndWait sent acked (received + 1) data acks := by
  refine { transfer with
    acked_le := transfer.acked_le.trans (Nat.le_succ _)
    received_le := available
    data_bounded := ?_
    acks_bounded := ?_ }
  · intro item member
    exact ⟨(transfer.data_bounded item member).1, Nat.succ_le_succ (ahead item member)⟩
  · intro count member
    have bound := transfer.acks_bounded count member
    exact ⟨bound.1, bound.2.trans (Nat.le_succ _)⟩

/-- Items are lost, or taken and ignored. -/
theorem lose_data {remaining : List Nat}
    (transfer : StopAndWait sent acked received data acks)
    (sub : remaining.Sublist data) : StopAndWait sent acked received remaining acks :=
  { transfer with
    data_ordered := transfer.data_ordered.sublist sub
    data_bounded := fun entry member =>
      transfer.data_bounded entry (sub.subset member) }

/-- The receiver reports how many items it has taken. -/
theorem report (transfer : StopAndWait sent acked received data acks) :
    StopAndWait sent acked received data (acks ++ [received]) := by
  refine { transfer with acks_ordered := ?_, acks_bounded := ?_ }
  · refine List.pairwise_append.mpr ⟨transfer.acks_ordered, by simp, ?_⟩
    intro earlier member later last
    obtain rfl : later = received := by simpa using last
    exact (transfer.acks_bounded earlier member).2
  · intro entry member
    rcases List.mem_append.mp member with old | new
    · exact transfer.acks_bounded entry old
    · obtain rfl : entry = received := by simpa using new
      exact ⟨transfer.acked_le, le_rfl⟩

/-- The sender adopts the count at the head of the channel. -/
theorem adopt (transfer : StopAndWait sent acked received data (count :: acks)) :
    StopAndWait sent count received data acks := by
  have ordered := List.pairwise_cons.mp transfer.acks_ordered
  have head := transfer.acks_bounded count (by simp)
  have width := transfer.window
  refine ⟨head.2, transfer.received_le, by omega, transfer.data_ordered,
    transfer.data_bounded, ordered.2, ?_⟩
  intro entry member
  exact ⟨ordered.1 entry member, (transfer.acks_bounded entry (by simp [member])).2⟩

/-- Counts are lost. -/
theorem lose_acks {remaining : List Nat}
    (transfer : StopAndWait sent acked received data acks)
    (sub : remaining.Sublist acks) : StopAndWait sent acked received data remaining :=
  { transfer with
    acks_ordered := transfer.acks_ordered.sublist sub
    acks_bounded := fun entry member =>
      transfer.acks_bounded entry (sub.subset member) }

/-- Consecutive numbers stay distinct under a modulus of at least two. -/
private theorem mod_ne_succ_mod {modulus : Nat} (wide : 2 ≤ modulus) (number : Nat) :
    number % modulus ≠ (number + 1) % modulus := by
  intro same
  have divides : modulus ∣ number + 1 - number :=
    (Nat.modEq_iff_dvd' (Nat.le_succ number)).mp same
  rw [Nat.add_sub_cancel_left] at divides
  exact absurd (Nat.le_of_dvd one_pos divides) (by omega)

/-- Reduced numbers tell the expected item from every other one in flight. -/
theorem item_mod_iff {modulus : Nat} (wide : 2 ≤ modulus)
    (transfer : StopAndWait sent acked received data acks) (member : item ∈ data) :
    item % modulus = received % modulus ↔ item = received := by
  have bound := transfer.data_bounded item member
  have width := transfer.window
  have behind := transfer.acked_le
  refine ⟨fun same => ?_, fun same => by rw [same]⟩
  by_contra differs
  obtain rfl : received = item + 1 := by omega
  exact mod_ne_succ_mod wide item same

end StopAndWait

end Foundation
