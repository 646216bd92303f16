import Gsml3.Bitstream.HeaderFraming

/-!
# Garbage in a live stream

In header mode the framer looks for the next header up to the greatest length of
a message.  Where there is none it keeps what it buffered and asks for more; the
cached scan position is then at the end of the range, and nothing is ever given
up again.
-/

namespace Gsml3

namespace Bitstream

namespace L3Framer

variable {framer next target : L3Framer} {maxLength : Nat}

/-! ## What a round leaves pending -/

theorem pending_length (framer : L3Framer) :
    framer.pending.length = framer.buffered + framer.source.rest.length := by
  rw [pending, List.length_append, window_length]

/-- An extraction takes what it moves over. -/
theorem Extracted.pending_length {result : Except ParseError ExtractedFrame}
    (extracted : Extracted framer next result) (placed : framer.pos ≤ framer.data.length) :
    next.pending.length + next.pos = framer.pending.length + framer.pos := by
  have inside := extracted.placed
  rw [extracted.data] at inside
  rw [L3Framer.pending_length, L3Framer.pending_length, buffered, buffered, extracted.source,
    extracted.data]
  omega

/-- A fill takes nothing away. -/
theorem Filled.pending_length {got : Bool} {chunk : List UInt8}
    (filled : Filled framer next got chunk) : next.pending.length = framer.pending.length := by
  have buffered := filled.buffered
  have rest := filled.rest_length
  rw [L3Framer.pending_length, L3Framer.pending_length]
  omega

/-- What every round keeps. -/
structure Kept (framer next : L3Framer) : Prop where
  placed : next.pos ≤ next.data.length
  config : next.config = framer.config
  live : next.source.live = framer.source.live
  bounded : next.data.length + next.source.rest.length ≤
    framer.data.length + framer.source.rest.length
  pending : next.pending.length ≤ framer.pending.length

theorem Extracted.kept {result : Except ParseError ExtractedFrame}
    (extracted : Extracted framer next result) (placed : framer.pos ≤ framer.data.length) :
    Kept framer next := by
  have pending := extracted.pending_length placed
  refine ⟨extracted.placed, extracted.config, by rw [extracted.source],
    by rw [extracted.source, extracted.data], ?_⟩
  cases result with
  | ok frame =>
      have further := extracted.frame frame rfl
      omega
  | error error =>
      by_cases resync : Resync error
      · have further := extracted.skip error rfl resync
        omega
      · have same := extracted.wait error rfl resync
        omega

theorem Filled.kept {got : Bool} {chunk : List UInt8} (filled : Filled framer next got chunk) :
    Kept framer next :=
  ⟨filled.placed, filled.config, filled.live, filled.bounded, filled.pending_length.le⟩

/-- Framers that are kept compose. -/
theorem Kept.trans (first : Kept framer next) (second : Kept next target) : Kept framer target :=
  ⟨second.placed, second.config.trans first.config, second.live.trans first.live,
    second.bounded.trans first.bounded, second.pending.trans first.pending⟩

theorem Kept.header (kept : Kept framer next) (header : 2 ≤ framer.config.minHeaderLength) :
    2 ≤ next.config.minHeaderLength := by
  rw [kept.config]
  exact header

/-- A round leaves a framer as good as before. -/
theorem Rounds.kept {result : Option (Except ParseError ExtractedFrame)}
    (placed : framer.pos ≤ framer.data.length) (header : 2 ≤ framer.config.minHeaderLength)
    (rounds : Rounds framer target result) : Kept framer target := by
  have extracts : ∀ {middle atEof result} {source : L3Framer}, source.pos ≤ source.data.length →
      2 ≤ source.config.minHeaderLength → source.tryExtract atEof = (middle, result) →
      Kept source middle := fun placed header extraction =>
    (tryExtract_extracted placed header extraction).kept placed
  cases rounds with
  | found extraction => exact extracts placed header extraction
  | skipped extraction => exact extracts placed header extraction
  | filled extraction _ filled => exact (extracts placed header extraction).trans filled.kept
  | stalled extraction _ filled => exact (extracts placed header extraction).trans filled.kept
  | tail extraction _ filled _ last =>
      have before := (extracts placed header extraction).trans filled.kept
      exact before.trans (extracts before.placed (before.header header) last)
  | ended extraction _ filled _ last =>
      have before := (extracts placed header extraction).trans filled.kept
      exact before.trans (extracts before.placed (before.header header) last)

/-- A round without a result leaves fewer rounds. -/
theorem Rounds.work (placed : framer.pos ≤ framer.data.length)
    (header : 2 ≤ framer.config.minHeaderLength) (rounds : Rounds framer target none) :
    target.work < framer.work := by
  cases rounds with
  | skipped extraction resync =>
      have extracted := tryExtract_extracted placed header extraction
      have less := extracted.work placed
      have further := extracted.skip _ rfl resync
      omega
  | filled extraction wait filled =>
      have extracted := tryExtract_extracted placed header extraction
      have same := extracted.work placed
      have stays := extracted.wait _ rfl wait
      have less := filled.work
      rename_i middle error chunk
      have some_octets : 0 < chunk.length := by
        have got := filled.got
        cases chunk with
        | nil => cases got
        | cons => exact Nat.succ_pos _
      omega

/-! ## Calls -/

/-- A call from this state returns, and then `post` holds of the framer. -/
def Returns (post : L3Framer → Except ParseError ExtractedFrame → Prop) (framer : L3Framer) :
    Prop :=
  ∃ rounds next result, framer.nextFrame rounds = some (next, result) ∧ post next result

/-- A call returns when its first round does, or the rest. -/
theorem Returns.of_round {post : L3Framer → Except ParseError ExtractedFrame → Prop}
    (ends : ∀ result, framer.round.2 = some result → post framer.round.1 result)
    (goes_on : framer.round.2 = none → framer.round.1.Returns post) : framer.Returns post := by
  cases round : framer.round with
  | mk target result =>
      rw [round] at ends goes_on
      cases result with
      | some result => exact ⟨1, target, result, by rw [nextFrame, round], ends result rfl⟩
      | none =>
          obtain ⟨rounds, next, result, returned, holds⟩ := goes_on rfl
          exact ⟨rounds + 1, next, result, by rw [nextFrame, round]; exact returned, holds⟩

/-- A property of the framer that every round without a result keeps, and from which
every result establishes `post`, carries a call. -/
theorem Returns.of_invariant (inv : L3Framer → Prop)
    {post : L3Framer → Except ParseError ExtractedFrame → Prop}
    (placed : ∀ framer, inv framer → framer.pos ≤ framer.data.length)
    (header : ∀ framer, inv framer → 2 ≤ framer.config.minHeaderLength)
    (ends : ∀ framer result, inv framer → framer.round.2 = some result →
      post framer.round.1 result)
    (goes_on : ∀ framer, inv framer → framer.round.2 = none → inv framer.round.1)
    (start : inv framer) : framer.Returns post := by
  induction amount : framer.work using Nat.strong_induction_on generalizing framer with
  | _ amount ih =>
      refine .of_round (ends framer · start) (fun none => ?_)
      have rounds := round_rounds (placed framer start) (header framer start)
      rw [none] at rounds
      exact ih _ (amount ▸ rounds.work (placed framer start) (header framer start))
        (goes_on framer start none) rfl

/-- Every call returns, and leaves no more octets pending. -/
theorem returns_pending (placed : framer.pos ≤ framer.data.length)
    (header : 2 ≤ framer.config.minHeaderLength) :
    framer.Returns fun next _ => next.pending.length ≤ framer.pending.length := by
  refine .of_invariant (Kept framer) (fun next kept => kept.placed)
    (fun next kept => kept.header header) (fun next _ kept _ => ?_) (fun next kept _ => ?_)
    ⟨placed, rfl, rfl, le_rfl, le_rfl⟩
  · exact (kept.trans ((round_rounds kept.placed (kept.header header)).kept kept.placed
      (kept.header header))).pending
  · exact kept.trans ((round_rounds kept.placed (kept.header header)).kept kept.placed
      (kept.header header))

/-! ## Extractions by headers -/

/-- A framer by headers over a live source. -/
structure Live (maxLength : Nat) (framer : L3Framer) : Prop where
  placed : framer.pos ≤ framer.data.length
  config : framer.config = { useL2Length := false, maxMessageLength := maxLength }
  live : framer.source.live = true
  bounded : framer.data.length + framer.source.rest.length < 2 ^ 64

theorem Live.header (live : Live maxLength framer) : 2 ≤ framer.config.minHeaderLength := by
  rw [live.config]

/-- What is kept stays live. -/
theorem Live.kept (live : Live maxLength framer) (kept : Kept framer next) :
    Live maxLength next :=
  ⟨kept.placed, kept.config.trans live.config, kept.live.trans live.live,
    kept.bounded.trans_lt live.bounded⟩

/-- Over a live source every read is one before the end. -/
theorem Live.not_atEof (live : Live maxLength framer) : framer.source.atEof = false := by
  rw [ByteSource.atEof, live.live]
  rfl

theorem round_of_ok {frame : ExtractedFrame}
    (extraction : framer.tryExtract false = (next, .ok frame)) :
    framer.round = (next, some (.ok frame)) := by
  rw [round, extraction]

theorem round_of_resync {error : ParseError}
    (extraction : framer.tryExtract false = (next, .error error)) (resync : Resync error) :
    framer.round = (next, none) := by
  rw [round, extraction]
  exact if_pos resync

/-- A round that waits reads more octets, or the call returns. -/
theorem Live.round_of_wait (live : Live maxLength framer) {error : ParseError}
    (extraction : framer.tryExtract false = (next, .error error)) (wait : ¬ Resync error) :
    ∃ chunk, Filled next framer.round.1 (!chunk.isEmpty) chunk ∧
      framer.round.2 = if chunk = [] then some (.error noDataYet) else none := by
  have extracted := tryExtract_extracted live.placed live.header extraction
  obtain ⟨chunk, filled⟩ := fillBuffer_filled extracted.placed
  have kept := live.kept ((extracted.kept live.placed).trans filled.kept)
  have got := filled.got
  rw [got] at filled
  refine ⟨chunk, ?_⟩
  have waits : ¬ (error.code = .invalidPD ∨ error.code = .invalidValue) := wait
  cases fill : next.fillBuffer with
  | mk target more =>
      rw [fill] at filled got kept
      simp only at filled got kept
      rw [round, extraction]
      simp only [if_neg waits, fill, got]
      cases chunk with
      | nil =>
          simp only [List.isEmpty_nil, Bool.not_true, kept.not_atEof, Bool.false_eq_true, if_false,
            if_true, and_true]
          exact filled
      | cons octet octets => exact ⟨filled, rfl⟩

/-- What a live framer extracts. -/
theorem Live.tryExtract (live : Live maxLength framer) (header : 2 ≤ framer.window.length) :
    framer.tryExtract false =
      if headerLength framer.window ≠ 0 then framer.takeFrame (headerLength framer.window)
      else
        match framer.scanBoundary with
        | none =>
            ({ framer with boundaryScanPos := min framer.data.length framer.scanLimit },
              .error
                { code := .truncatedInput, message := "variable-length frame, need more data" })
        | some frameLen =>
            if maxLength < frameLen then
              framer.skipOctet
                { code := .invalidValue, message := "frame exceeds maxMessageLength" }
            else framer.takeFrame frameLen := by
  rw [window_length] at header
  have byHeader : framer.tryExtract false = framer.extractHeader false := by
    rw [L3Framer.tryExtract, live.config, if_neg (not_lt.mpr header), if_neg Bool.false_ne_true]
  have maxLength_eq : framer.config.maxMessageLength = maxLength := by
    rw [live.config]
  obtain rfl := maxLength_eq
  rw [byHeader, ← framer.fixedLength_eq]
  exact if_neg Bool.false_ne_true

/-! ## A message of fixed length -/

/-- A message of fixed length is taken if it is complete; otherwise the framer
waits. -/
theorem Live.round_fixed (live : Live maxLength framer) (header : 2 ≤ framer.window.length)
    (fixed : headerLength framer.window ≠ 0) :
    if headerLength framer.window ≤ framer.buffered then
      (∃ frame, framer.round.2 = some (.ok frame)) ∧
        framer.round.1.pending.length < framer.pending.length
    else
      ∃ chunk, Filled framer framer.round.1 (!chunk.isEmpty) chunk ∧
        framer.round.2 = if chunk = [] then some (.error noDataYet) else none := by
  obtain ⟨two, valid⟩ := headerLength_spec fixed
  have extraction := live.tryExtract header
  rw [if_pos fixed] at extraction
  split
  case isTrue complete =>
    rw [takeFrame_eq two (by rw [window_length]; exact complete), if_pos valid] at extraction
    have less := (tryExtract_extracted live.placed live.header extraction).pending_length
      live.placed
    rw [round_of_ok extraction]
    exact ⟨⟨_, rfl⟩, by simp only at less ⊢; omega⟩
  case isFalse incomplete =>
    rw [takeFrame, if_pos (not_le.mp incomplete)] at extraction
    exact live.round_of_wait extraction (by simp [Resync])

/-- A message of fixed length is taken once the source has delivered it. -/
theorem Live.returns_fixed (live : Live maxLength framer) (header : 2 ≤ framer.window.length)
    (fixed : headerLength framer.window ≠ 0) :
    framer.Returns fun next _ => next.pending.length < framer.pending.length ↔
      headerLength framer.window ≤ framer.buffered + framer.source.ready.length := by
  obtain ⟨n, n_eq⟩ : ∃ n, n = headerLength framer.window := ⟨_, rfl⟩
  refine .of_invariant (fun next => Live maxLength next ∧ 2 ≤ next.window.length ∧
      headerLength next.window = n ∧
      next.buffered + next.source.ready.length = framer.buffered + framer.source.ready.length ∧
      next.pending.length = framer.pending.length)
    (fun next kept => kept.1.placed) (fun next kept => kept.1.header) ?_ ?_
    ⟨live, header, n_eq.symm, rfl, rfl⟩
  · rintro middle result ⟨live, header, same, ready, pending⟩ returned
    have round := live.round_fixed header (by rw [same, n_eq]; exact fixed)
    rw [same] at round
    rw [← n_eq, ← ready, ← pending]
    split at round
    case isTrue complete => exact iff_of_true round.2 (complete.trans (Nat.le_add_right ..))
    case isFalse incomplete =>
      obtain ⟨chunk, filled, ends⟩ := round
      by_cases empty : chunk = []
      · have none := filled.ready
        rw [if_pos empty] at none
        rw [filled.pending_length, none]
        exact iff_of_false (lt_irrefl _) incomplete
      · rw [if_neg empty, returned] at ends
        cases ends
  · rintro middle ⟨live, header, same, ready, pending⟩ goes_on
    have round := live.round_fixed header (by rw [same, n_eq]; exact fixed)
    have kept := (round_rounds live.placed live.header).kept live.placed live.header
    split at round
    case isTrue =>
      obtain ⟨frame, found⟩ := round.1
      cases goes_on.symm.trans found
    case isFalse incomplete =>
      obtain ⟨chunk, filled, ends⟩ := round
      have some_octets : chunk ≠ [] := by
        rintro rfl
        cases goes_on.symm.trans ends
      have delivered := filled.ready
      rw [if_neg some_octets] at delivered
      refine ⟨live.kept kept, ?_, ?_, ?_, filled.pending_length.trans pending⟩
      · rw [filled.window, List.length_append]
        omega
      · rw [filled.window, headerLength_append header, same]
      · rw [← ready, delivered, List.length_append, filled.buffered]
        omega

/-! ## A message of variable length -/

/-- More octets are buffered than a message has, and none of them starts the next
message. -/
structure Garbage (maxLength : Nat) (framer : L3Framer) : Prop where
  full : maxLength + 2 < framer.buffered
  unbounded : ∀ i, 2 ≤ i → i ≤ maxLength → plausibleHeader (framer.window.getD i 0) = false

theorem Garbage.header (garbage : Garbage maxLength framer) : 2 ≤ framer.window.length := by
  have full := garbage.full
  rw [window_length]
  omega

/-- The octet behind the greatest length of a message is still examined. -/
def LateBoundary (maxLength : Nat) (framer : L3Framer) : Prop :=
  1 ≤ maxLength ∧ framer.boundaryScanPos ≤ framer.pos + (maxLength + 1) ∧
    plausibleHeader (framer.window.getD (maxLength + 1) 0) = true

instance (maxLength : Nat) (framer : L3Framer) : Decidable (LateBoundary maxLength framer) :=
  inferInstanceAs (Decidable (_ ∧ _))

theorem Live.scanLimit (live : Live maxLength framer) (full : maxLength + 2 < framer.buffered) :
    framer.scanLimit = framer.pos + 2 + maxLength := by
  have placed := live.placed
  have bounded := live.bounded
  rw [buffered] at full
  rw [L3Framer.scanLimit, live.config]
  exact Nat.mod_eq_of_lt (by simp only; omega)

/-- In garbage a scan finds that octet or nothing. -/
theorem Live.scanBoundary (live : Live maxLength framer) (garbage : Garbage maxLength framer) :
    framer.scanBoundary = if LateBoundary maxLength framer then some (maxLength + 1) else none := by
  have full := garbage.full
  have limit := live.scanLimit full
  rw [buffered] at full
  have octet : ∀ i, framer.pos ≤ i →
      framer.octet i = framer.window.getD (i - framer.pos) 0 := by
    intro i behind
    rw [← framer.octet_eq, Nat.add_sub_cancel' behind]
  rw [L3Framer.scanBoundary, limit]
  split
  case isTrue late =>
    obtain ⟨positive, unscanned, found⟩ := late
    refine Option.map_eq_some_iff.mpr
      ⟨framer.pos + (maxLength + 1), ?_, Nat.add_sub_cancel_left ..⟩
    rw [List.find?_range'_eq_some, List.mem_range'_1]
    refine ⟨?_, by omega, fun i from_start before => ?_⟩
    · rw [framer.octet_eq, found]
    · rw [octet i (by omega), garbage.unbounded (i - framer.pos) (by omega) (by omega)]
      rfl
  case isFalse late =>
    rw [Option.map_eq_none_iff, List.find?_range'_eq_none]
    intro i low high
    by_cases last : i = framer.pos + (maxLength + 1)
    · rw [last, framer.octet_eq]
      refine Bool.not_eq_true' _ |>.mpr (Bool.eq_false_iff.mpr fun found => late ?_)
      exact ⟨by omega, by omega, found⟩
    · rw [octet i (by omega), garbage.unbounded (i - framer.pos) (by omega) (by omega)]
      rfl

/-- The octet behind the greatest length gives up the first one; otherwise the framer
waits behind it. -/
theorem Live.round_garbage (live : Live maxLength framer) (garbage : Garbage maxLength framer)
    (unfixed : headerLength framer.window = 0) :
    if LateBoundary maxLength framer then
      framer.round = ({ framer with pos := framer.pos + 1 }, none)
    else
      ∃ chunk, Filled { framer with boundaryScanPos := framer.pos + 2 + maxLength }
          framer.round.1 (!chunk.isEmpty) chunk ∧
        framer.round.2 = if chunk = [] then some (.error noDataYet) else none := by
  have extraction := live.tryExtract garbage.header
  have full := garbage.full
  rw [if_neg (not_not.mpr unfixed), live.scanBoundary garbage] at extraction
  split
  case isTrue late =>
    rw [if_pos late] at extraction
    simp only [if_pos (Nat.lt_succ_self maxLength)] at extraction
    exact round_of_resync extraction (.inr rfl)
  case isFalse late =>
    rw [if_neg late] at extraction
    rw [buffered] at full
    simp only [live.scanLimit garbage.full] at extraction
    rw [Nat.min_eq_right (by omega)] at extraction
    exact live.round_of_wait extraction (by simp [Resync])

/-- A framer that has scanned garbage to the end of its range. -/
structure Blocked (maxLength : Nat) (framer : L3Framer) : Prop where
  live : Live maxLength framer
  garbage : Garbage maxLength framer
  unfixed : headerLength framer.window = 0
  late : ¬ LateBoundary maxLength framer

theorem Blocked.filled {chunk : List UInt8} {got : Bool} (blocked : Blocked maxLength framer)
    (filled : Filled { framer with boundaryScanPos := framer.pos + 2 + maxLength }
      next got chunk) (kept : Kept framer next) :
    Blocked maxLength next := by
  have header := blocked.garbage.header
  have full := blocked.garbage.full
  have window : next.window = framer.window ++ chunk := filled.window
  have buffered : next.buffered = framer.buffered + chunk.length := filled.buffered
  have length := framer.window_length
  refine ⟨blocked.live.kept kept, ⟨by omega, fun i low high => ?_⟩, ?_, fun late => ?_⟩
  · rw [window, getD_append_left (by omega), blocked.garbage.unbounded i low high]
  · rw [window, headerLength_append header, blocked.unfixed]
  · have placed := blocked.live.placed
    have bounded := blocked.live.bounded
    rw [L3Framer.buffered] at full
    have unscanned := late.2.1
    rcases filled.rebased.cases with ⟨pos, scan⟩ | ⟨pos, scan⟩
    · rw [pos, scan] at unscanned
      simp only at unscanned
      omega
    · rw [pos, scan] at unscanned
      simp only at unscanned
      split at unscanned
      case isTrue => omega
      case isFalse => omega

/-- A round of a blocked framer buffers what is delivered, and waits for more. -/
theorem Blocked.round (blocked : Blocked maxLength framer) :
    ∃ chunk, Blocked maxLength framer.round.1 ∧
      framer.round.1.pending.length = framer.pending.length ∧
      framer.round.2 = if chunk = ([] : List UInt8) then some (.error noDataYet) else none := by
  have round := blocked.live.round_garbage blocked.garbage blocked.unfixed
  rw [if_neg blocked.late] at round
  obtain ⟨chunk, filled, ends⟩ := round
  have kept := (round_rounds blocked.live.placed blocked.live.header).kept blocked.live.placed
    blocked.live.header
  exact ⟨chunk, blocked.filled filled kept, filled.pending_length, ends⟩

/-- A blocked framer keeps every octet. -/
theorem Blocked.returns (blocked : Blocked maxLength framer) :
    framer.Returns fun next result => result = .error noDataYet ∧ Blocked maxLength next ∧
      next.pending.length = framer.pending.length := by
  refine .of_invariant (fun next => Blocked maxLength next ∧
      next.pending.length = framer.pending.length)
    (fun next kept => kept.1.live.placed) (fun next kept => kept.1.live.header) ?_ ?_
    ⟨blocked, rfl⟩
  · rintro middle result ⟨blocked, pending⟩ returned
    obtain ⟨chunk, kept, same, ends⟩ := blocked.round
    rw [returned] at ends
    refine ⟨?_, kept, same.trans pending⟩
    split at ends
    case isTrue => exact Option.some.inj ends
    case isFalse => cases ends
  · rintro middle ⟨blocked, pending⟩ goes_on
    obtain ⟨chunk, kept, same, ends⟩ := blocked.round
    exact ⟨kept, same.trans pending⟩

/-- In garbage an octet is given up for a message of fixed length that is delivered,
and otherwise for a boundary behind the greatest length. -/
def Discards (maxLength : Nat) (framer : L3Framer) : Prop :=
  if framer.fixedLength ≠ 0 then
    framer.fixedLength ≤ framer.buffered + framer.source.ready.length
  else LateBoundary maxLength framer

instance (maxLength : Nat) (framer : L3Framer) : Decidable (Discards maxLength framer) :=
  inferInstanceAs (Decidable (ite _ _ _))

/-- A weaker condition holds of what is returned. -/
theorem Returns.mono {post weaker : L3Framer → Except ParseError ExtractedFrame → Prop}
    (returns : framer.Returns post)
    (implied : ∀ next result, post next result → weaker next result) : framer.Returns weaker := by
  obtain ⟨rounds, next, result, returned, holds⟩ := returns
  exact ⟨rounds, next, result, returned, implied next result holds⟩

/-- Behind garbage a call takes octets exactly when it discards. -/
theorem Live.returns_garbage (live : Live maxLength framer)
    (garbage : Garbage maxLength framer) :
    framer.Returns fun next _ =>
      next.pending.length < framer.pending.length ↔ Discards maxLength framer := by
  rw [Discards, framer.fixedLength_eq]
  by_cases fixed : headerLength framer.window ≠ 0
  · simp only [if_pos fixed]
    exact live.returns_fixed garbage.header fixed
  · simp only [if_neg fixed]
    by_cases late : LateBoundary maxLength framer
    · have round := live.round_garbage garbage (not_not.mp fixed)
      rw [if_pos late] at round
      have full := garbage.full
      have placed := live.placed
      have shorter : ({ framer with pos := framer.pos + 1 } : L3Framer).pending.length <
          framer.pending.length := by
        rw [pending_length, pending_length, buffered, buffered]
        rw [buffered] at full
        simp only
        omega
      refine .of_round (fun result returned => ?_) (fun _ => ?_)
      · rw [round] at returned
        cases returned
      · rw [round]
        have inside : framer.pos + 1 ≤ framer.data.length := by
          rw [buffered] at full
          omega
        refine (@returns_pending { framer with pos := framer.pos + 1 } inside live.header).mono ?_
        intro next _ less
        exact iff_of_true (less.trans_lt shorter) late
    · refine (Blocked.returns ⟨live, garbage, not_not.mp fixed, late⟩).mono ?_
      rintro next _ ⟨-, -, same⟩
      exact iff_of_false same.not_lt late

end L3Framer

/-! ## Reachable states -/

namespace Reading

open L3Framer

/-- A reading of a live source in header mode. -/
def liveByHeader (maxLength : Nat) (chunks : List (List UInt8)) : Reading :=
  .start { useL2Length := false, maxMessageLength := maxLength } { chunks := chunks, live := true }

/-- The framer is live in every state of every run. -/
theorem run_live {maxLength : Nat} {chunks : List (List UInt8)}
    (bounded : chunks.flatten.length < 2 ^ 64) {events : List Unit} {reading : Reading}
    (run : machine.Run (fun _ _ _ => True) (liveByHeader maxLength chunks) events reading) :
    Live maxLength reading.framer := by
  refine run.invariant (fun _ reading => Live maxLength reading.framer) ?_ ?_
  · refine ⟨Nat.zero_le _, rfl, rfl, ?_⟩
    change 0 + chunks.flatten.length < 2 ^ 64
    omega
  · intro past source target event live stepped _
    change source.step = some target at stepped
    rw [step] at stepped
    split at stepped
    case isTrue => cases stepped
    case isFalse =>
      obtain rfl := Option.some.inj stepped
      rw [after_framer]
      exact live.kept ((round_rounds live.placed live.header).kept live.placed live.header)

/-- A blocked framer is blocked for good: it keeps every octet and finds no frame. -/
theorem blocked_of_run {maxLength : Nat} {reading later : Reading} {events : List Unit}
    (blocked : Blocked maxLength reading.framer)
    (run : machine.Run (fun _ _ _ => True) reading events later) :
    Blocked maxLength later.framer ∧
      later.framer.pending.length = reading.framer.pending.length ∧
      later.frames = reading.frames := by
  refine run.invariant (fun _ later => Blocked maxLength later.framer ∧
    later.framer.pending.length = reading.framer.pending.length ∧
    later.frames = reading.frames) ⟨blocked, rfl, rfl⟩ ?_
  rintro past source target event ⟨blocked, pending, frames⟩ stepped -
  obtain ⟨chunk, kept, same, ends⟩ := blocked.round
  change source.step = some target at stepped
  rw [step, ends] at stepped
  split at stepped
  case isTrue => cases stepped
  case isFalse =>
    obtain rfl := Option.some.inj stepped
    split
    · exact ⟨kept, same.trans pending, frames⟩
    · exact ⟨kept, same.trans pending, frames⟩

/-- With more octets buffered than a message has and no boundary among them, the next
call gives up an octet exactly where the framer `Discards`.  Where it does not, and no message of
fixed length is awaited, no later call gives up an octet or finds a frame. -/
theorem discards_iff {maxLength : Nat} {chunks : List (List UInt8)}
    (bounded : chunks.flatten.length < 2 ^ 64) {events : List Unit} {reading : Reading}
    (run : machine.Run (fun _ _ _ => True) (liveByHeader maxLength chunks) events reading)
    (full : maxLength + 2 < reading.framer.buffered)
    (unbounded : ∀ i, 2 ≤ i → i ≤ maxLength →
      plausibleHeader (reading.framer.window.getD i 0) = false) :
    (∃ rounds next result, reading.framer.nextFrame rounds = some (next, result) ∧
      (next.pending.length < reading.framer.pending.length ↔
        Discards maxLength reading.framer)) ∧
    (¬ Discards maxLength reading.framer → reading.framer.fixedLength = 0 →
      ∀ (further : List Unit) (later : Reading),
        machine.Run (fun _ _ _ => True) reading further later →
          later.framer.pending.length = reading.framer.pending.length ∧
            later.frames = reading.frames) := by
  have live := run_live bounded run
  refine ⟨live.returns_garbage ⟨full, unbounded⟩, fun keeps unfixed further later onward => ?_⟩
  have late : ¬ LateBoundary maxLength reading.framer := by
    rwa [Discards, if_neg (not_not.mpr unfixed)] at keeps
  have blocked : Blocked maxLength reading.framer :=
    ⟨live, ⟨full, unbounded⟩, reading.framer.fixedLength_eq.symm.trans unfixed, late⟩
  exact (blocked_of_run blocked onward).2

/-- Octets with a reserved discriminator, and a plausible one behind them. -/
theorem discards_iff_reserved :
    ([[0x02, 0x02, 0x02, 0x02, 0x02, 0x05, 0x02, 0x02]] : List (List UInt8)).flatten.length <
        2 ^ 64 ∧
      ∃ reading : Reading, 4 + 2 < reading.framer.buffered ∧
        (∀ i, 2 ≤ i → i ≤ 4 → plausibleHeader (reading.framer.window.getD i 0) = false) ∧
        ∃ rounds next result, reading.framer.nextFrame rounds = some (next, result) ∧
          (next.pending.length < reading.framer.pending.length ↔
            Discards 4 reading.framer) := by
  let origin := liveByHeader 4 [[0x02, 0x02, 0x02, 0x02, 0x02, 0x05, 0x02, 0x02]]
  obtain ⟨reading, executed⟩ := Option.isSome_iff_exists.mp
    (show (machine.exec (fun _ _ _ => True) origin [()]).isSome by decide)
  have reached : ∀ reading ∈ machine.exec (fun _ _ _ => True) origin [()],
      4 + 2 < reading.framer.buffered ∧
        ∀ i < 5, 2 ≤ i → plausibleHeader (reading.framer.window.getD i 0) = false := by
    decide
  have full := (reached reading executed).1
  have unbounded : ∀ i, 2 ≤ i → i ≤ 4 → plausibleHeader (reading.framer.window.getD i 0) = false :=
    fun i low high => (reached reading executed).2 i (by omega) low
  exact ⟨by decide, reading, full, unbounded,
    (discards_iff (by decide) (.exec _ .origin executed) full unbounded).1⟩

/-- Eight octets with a reserved discriminator, and messages of up to four octets: the
first call buffers them, and the next one waits for more. -/
theorem garbage_kept :
    ∃ events reading,
      machine.Run (fun _ _ _ => True)
        (liveByHeader 4 [[0x02, 0x02, 0x02, 0x02, 0x02, 0x02, 0x02, 0x02]]) events reading ∧
      4 + 2 < reading.framer.buffered ∧
      (∀ i, i < reading.framer.buffered →
        plausibleHeader (reading.framer.window.getD i 0) = false) ∧
      ∃ next, reading.framer.nextFrame 1 = some (next, .error noDataYet) ∧
        next.pending = reading.framer.pending := by
  let origin := liveByHeader 4 [[0x02, 0x02, 0x02, 0x02, 0x02, 0x02, 0x02, 0x02]]
  obtain ⟨reading, executed⟩ := Option.isSome_iff_exists.mp
    (show (machine.exec (fun _ _ _ => True) origin [(), ()]).isSome by decide)
  have reached : ∀ reading ∈ machine.exec (fun _ _ _ => True) origin [(), ()],
      4 + 2 < reading.framer.buffered ∧
        (∀ i < reading.framer.buffered, plausibleHeader (reading.framer.window.getD i 0) = false) ∧
        (reading.framer.nextFrame 1).map (fun call => (call.1.pending, call.2)) =
          some (reading.framer.pending, .error noDataYet) := by decide
  obtain ⟨full, garbage, call⟩ := reached reading executed
  obtain ⟨⟨next, result⟩, returned, same⟩ := Option.map_eq_some_iff.mp call
  obtain ⟨pending, rfl⟩ := Prod.mk.inj same
  exact ⟨_, reading, .exec _ .origin executed, full, garbage, next, returned, pending⟩

end Reading

end Bitstream

end Gsml3
