import Mathlib

/-!
# Segmentation and reassembly

A message is cut into segments of at most `limit` octets; every segment but the
last carries a continuation mark.  A receiver appends segments to a buffer and
releases the buffer with the first unmarked one.  Feeding whole messages to a
receiver releases them with their boundaries, the first preceded by whatever
the buffer already held.
-/

namespace Foundation

/-- A piece of a message; `more` marks that further pieces follow. -/
structure Segment (α : Type*) where
  info : List α
  more : Bool
deriving DecidableEq

/-- Cut a message into segments.  A limit of zero yields one segment. -/
def segments {α : Type*} (limit : Nat) (message : List α) : List (Segment α) :=
  if 0 < limit ∧ limit < message.length then
    ⟨message.take limit, true⟩ :: segments limit (message.drop limit)
  else [⟨message, false⟩]
termination_by message.length
decreasing_by
  rw [List.length_drop]
  omega

/-- A receiver: the messages released so far and the open buffer. -/
structure Reassembly (α : Type*) where
  delivered : List (List α)
  buffer : List α

variable {α : Type*}

/-- A message within the limit is one segment. -/
theorem segments_of_short {limit : Nat} {message : List α} (short : message.length ≤ limit) :
    segments limit message = [⟨message, false⟩] := by
  rw [segments, if_neg (by omega)]

/-- A longer message starts with a full marked segment. -/
theorem segments_of_long {limit : Nat} {message : List α} (positive : 0 < limit)
    (long : limit < message.length) :
    segments limit message =
      ⟨message.take limit, true⟩ :: segments limit (message.drop limit) := by
  rw [segments, if_pos ⟨positive, long⟩]

/-- No segment exceeds a positive limit. -/
theorem length_info_le_of_mem_segments {limit : Nat} (positive : 0 < limit)
    (message : List α) :
    ∀ segment ∈ segments limit message, segment.info.length ≤ limit := by
  induction message using segments.induct limit with
  | case1 message long ih =>
      rw [segments_of_long long.1 long.2]
      intro segment member
      rcases List.mem_cons.mp member with rfl | later
      · exact List.length_take_le limit message
      · exact ih segment later
  | case2 message short =>
      rw [segments_of_short (by omega)]
      intro segment member
      obtain rfl : segment = ⟨message, false⟩ := by simpa using member
      change message.length ≤ limit
      omega

/-- The pieces are a message in segments: they join to it, none exceeds the limit, and the last
one is the one without a mark. -/
structure SegmentsOf (limit : Nat) (message : List α) (pieces : List (Segment α)) : Prop where
  joined : pieces.flatMap Segment.info = message
  bounded : ∀ piece ∈ pieces, piece.info.length ≤ limit
  marked : ∃ front last, pieces = front ++ [last] ∧ last.more = false ∧
    ∀ piece ∈ front, piece.more = true

theorem segmentsOf_segments {limit : Nat} (positive : 0 < limit) (message : List α) :
    SegmentsOf limit message (segments limit message) := by
  refine ⟨?_, length_info_le_of_mem_segments positive message, ?_⟩
  · induction message using segments.induct limit with
    | case1 message long ih =>
        rw [segments_of_long long.1 long.2, List.flatMap_cons, ih, List.take_append_drop]
    | case2 message short => rw [segments, if_neg short, List.flatMap_singleton]
  · induction message using segments.induct limit with
    | case1 message long ih =>
        obtain ⟨front, last, split, unmarked, marked⟩ := ih
        refine ⟨⟨message.take limit, true⟩ :: front, last, ?_, unmarked, ?_⟩
        · rw [segments_of_long long.1 long.2, split, List.cons_append]
        · exact List.forall_mem_cons.mpr ⟨rfl, marked⟩
    | case2 message short =>
        refine ⟨[], ⟨message, false⟩, ?_, rfl, by simp⟩
        rw [segments, if_neg short, List.nil_append]

namespace Reassembly

/-- Take one segment. -/
def accept (receiver : Reassembly α) (segment : Segment α) : Reassembly α :=
  if segment.more then
    { receiver with buffer := receiver.buffer ++ segment.info }
  else
    { delivered := receiver.delivered ++ [receiver.buffer ++ segment.info], buffer := [] }

/-- Take segments in order. -/
def acceptAll (receiver : Reassembly α) (pieces : List (Segment α)) : Reassembly α :=
  pieces.foldl accept receiver

@[simp] theorem acceptAll_nil (receiver : Reassembly α) :
    receiver.acceptAll [] = receiver := rfl

@[simp] theorem acceptAll_cons (receiver : Reassembly α) (segment : Segment α)
    (pieces : List (Segment α)) :
    receiver.acceptAll (segment :: pieces) = (receiver.accept segment).acceptAll pieces := rfl

theorem acceptAll_append (receiver : Reassembly α) (first second : List (Segment α)) :
    receiver.acceptAll (first ++ second) = (receiver.acceptAll first).acceptAll second :=
  List.foldl_append

/-- Taking segments only adds to the released messages. -/
theorem delivered_prefix_acceptAll (receiver : Reassembly α) (pieces : List (Segment α)) :
    receiver.delivered <+: (receiver.acceptAll pieces).delivered := by
  induction pieces generalizing receiver with
  | nil => exact List.prefix_refl _
  | cons segment pieces ih =>
      refine List.IsPrefix.trans ?_ (ih (receiver.accept segment))
      rw [accept]
      split
      · exact List.prefix_refl _
      · exact List.prefix_append _ _

/-- The segments of one message release exactly that message, behind the
octets already buffered. -/
theorem acceptAll_segments (receiver : Reassembly α) (limit : Nat) (message : List α) :
    receiver.acceptAll (segments limit message) =
      ⟨receiver.delivered ++ [receiver.buffer ++ message], []⟩ := by
  induction message using segments.induct limit generalizing receiver with
  | case1 message long ih =>
      rw [segments_of_long long.1 long.2, acceptAll_cons, ih]
      simp [accept]
  | case2 message short =>
      rw [segments, if_neg short]
      simp [accept]

/-- Put buffered octets in front of the first message. -/
def prepend (held : List α) : List (List α) → List (List α)
  | [] => []
  | message :: messages => (held ++ message) :: messages

@[simp] theorem prepend_nil_held (messages : List (List α)) :
    prepend [] messages = messages := by
  cases messages with
  | nil => rfl
  | cons message messages => rfl

/-- Feeding whole messages releases them in order and with their
boundaries. -/
theorem delivered_acceptAll_flatMap (receiver : Reassembly α) (limit : Nat)
    (messages : List (List α)) :
    (receiver.acceptAll (messages.flatMap (segments limit))).delivered =
      receiver.delivered ++ prepend receiver.buffer messages := by
  induction messages generalizing receiver with
  | nil => simp [prepend]
  | cons message messages ih =>
      rw [List.flatMap_cons, acceptAll_append, acceptAll_segments, ih, prepend_nil_held]
      simp [prepend]

/-- What a receiver has released after a prefix of the segments of whole
messages is a prefix of those messages. -/
theorem delivered_prefix (held : List α) {limit : Nat} {messages : List (List α)}
    {taken rest : List (Segment α)}
    (segmented : taken ++ rest = messages.flatMap (segments limit)) :
    ((⟨[], held⟩ : Reassembly α).acceptAll taken).delivered <+: prepend held messages := by
  have whole := delivered_acceptAll_flatMap ⟨[], held⟩ limit messages
  rw [← segmented, acceptAll_append] at whole
  have partially := delivered_prefix_acceptAll ((⟨[], held⟩ : Reassembly α).acceptAll taken) rest
  rw [whole] at partially
  simpa using partially

end Reassembly

end Foundation
