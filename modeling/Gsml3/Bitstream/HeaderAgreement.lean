import Gsml3.Bitstream.LengthFraming
import Gsml3.Bitstream.HeaderFraming

/-!
# The two framers in header mode

The framer in memory follows a grammar of its own: it takes frames that start with
a reserved discriminator, drops an incomplete message of fixed length at the end,
and stops where the next header is one octet too far away.  `Regular` says where
this makes no difference.
-/

namespace Gsml3

namespace Bitstream

/-! ## The grammar of the framer in memory -/

section Grammar

variable {maxLength n : Nat} {octets : List UInt8}

/-- A complete message of fixed length is a frame, and so are the octets up to the
next header, if it is near enough; without a next header the rest is the last
frame, if it is not too long. -/
def inlineCut (maxLength : Nat) (octets : List UInt8) : HeaderCut :=
  if octets.length < 2 then .stop
  else if headerLength octets ≠ 0 then
    if headerLength octets ≤ octets.length then .frame (headerLength octets) else .stop
  else
    match nextHeader maxLength octets with
    | none => if octets.length ≤ maxLength then .tail else .stop
    | some n => if n ≤ maxLength then .frame n else .stop

theorem inlineCut_of_header (header : 2 ≤ octets.length) :
    inlineCut maxLength octets =
      if headerLength octets ≠ 0 then
        if headerLength octets ≤ octets.length then .frame (headerLength octets) else .stop
      else
        match nextHeader maxLength octets with
        | none => if octets.length ≤ maxLength then .tail else .stop
        | some n => if n ≤ maxLength then .frame n else .stop :=
  if_neg (not_lt.mpr header)

theorem inlineCut_ne_skip (maxLength : Nat) (octets : List UInt8) :
    inlineCut maxLength octets ≠ .skip := by
  rw [inlineCut]
  split
  · nofun
  · split
    · split <;> nofun
    · split
      · split <;> nofun
      · split <;> nofun

/-- What the buffered framer makes of a frame of the framer in memory. -/
theorem inlineCut_frame (cut : inlineCut maxLength octets = .frame n) :
    2 ≤ n ∧ n ≤ octets.length ∧
      headerCut maxLength octets =
        if plausibleHeader (octets.getD 0 0) = true then .frame n else .skip := by
  rw [inlineCut] at cut
  split at cut
  case isTrue => cases cut
  case isFalse short =>
    rw [headerCut_of_header (not_lt.mp short)]
    split at cut
    case isTrue fixed =>
      obtain ⟨two, valid⟩ := headerLength_spec fixed
      rw [if_pos fixed]
      split at cut
      case isTrue complete =>
        obtain rfl := HeaderCut.frame.inj cut
        rw [if_pos complete, if_pos valid]
        exact ⟨two, complete, rfl⟩
      case isFalse => cases cut
    case isFalse unfixed =>
      rw [if_neg unfixed]
      cases boundary : nextHeader maxLength octets with
      | none =>
          rw [boundary] at cut
          simp only at cut
          split at cut <;> cases cut
      | some i =>
          rw [boundary] at cut
          simp only at cut
          split at cut
          case isTrue near =>
            obtain rfl := HeaderCut.frame.inj cut
            have inside := nextHeader_some.mp boundary
            refine ⟨inside.1, by omega, ?_⟩
            by_cases valid : plausibleHeader (octets.getD 0 0) = true
            · rw [if_pos valid]
              exact if_pos ⟨near, valid⟩
            · rw [if_neg valid]
              exact if_neg fun fits => valid fits.2
          case isFalse => cases cut

theorem inlineCut_tail (cut : inlineCut maxLength octets = .tail) :
    2 ≤ octets.length ∧
      headerCut maxLength octets =
        if plausibleHeader (octets.getD 0 0) = true then .tail else .stop := by
  rw [inlineCut] at cut
  split at cut
  case isTrue => cases cut
  case isFalse short =>
    refine ⟨not_lt.mp short, ?_⟩
    rw [headerCut_of_header (not_lt.mp short)]
    split at cut
    case isTrue => split at cut <;> cases cut
    case isFalse unfixed =>
      rw [if_neg unfixed]
      cases boundary : nextHeader maxLength octets with
      | some i =>
          rw [boundary] at cut
          simp only at cut
          split at cut <;> cases cut
      | none =>
          rw [boundary] at cut
          simp only at cut
          split at cut
          case isFalse => cases cut
          case isTrue fits => simp only [tailCut, fits, true_and]

/-- The frames the framer in memory takes. -/
def inlineFrames (maxLength : Nat) (octets : List UInt8) : List (List UInt8) :=
  match _cut : inlineCut maxLength octets with
  | .frame n => octets.take n :: inlineFrames maxLength (octets.drop n)
  | .tail => [octets]
  | .stop | .skip => []
termination_by octets.length
decreasing_by
  have bounds := inlineCut_frame ‹_›
  rw [List.length_drop]
  omega

theorem inlineFrames_stop (cut : inlineCut maxLength octets = .stop) :
    inlineFrames maxLength octets = [] := by
  rw [inlineFrames]
  split <;> simp_all

theorem inlineFrames_tail (cut : inlineCut maxLength octets = .tail) :
    inlineFrames maxLength octets = [octets] := by
  rw [inlineFrames]
  split <;> simp_all

theorem inlineFrames_frame (cut : inlineCut maxLength octets = .frame n) :
    inlineFrames maxLength octets = octets.take n :: inlineFrames maxLength (octets.drop n) := by
  rw [inlineFrames]
  split <;> simp_all

end Grammar

/-! ## Where the grammars agree -/

section Agreement

variable {maxLength n : Nat} {octets : List UInt8}

/-- No frame can be found in the octets, however many of them are given up. -/
def Barren (maxLength : Nat) (octets : List UInt8) : Prop :=
  match _cut : headerCut maxLength octets with
  | .stop => True
  | .skip => Barren maxLength (octets.drop 1)
  | .tail | .frame _ => False
termination_by octets.length
decreasing_by
  have bounds := headerCut_skip ‹_›
  rw [List.length_drop]
  omega

/-- Every frame that the framer in memory takes starts with a plausible octet, and
where it stops there is no frame. -/
def Regular (maxLength : Nat) (octets : List UInt8) : Prop :=
  match _cut : inlineCut maxLength octets with
  | .frame n => plausibleHeader (octets.getD 0 0) = true ∧ Regular maxLength (octets.drop n)
  | .tail => plausibleHeader (octets.getD 0 0) = true
  | .stop | .skip => Barren maxLength octets
termination_by octets.length
decreasing_by
  have bounds := inlineCut_frame ‹_›
  rw [List.length_drop]
  omega

theorem headerFrames_eq_nil_iff (maxLength : Nat) (octets : List UInt8) :
    headerFrames maxLength octets = [] ↔ Barren maxLength octets := by
  induction length : octets.length using Nat.strong_induction_on generalizing octets with
  | _ length ih =>
      rw [Barren]
      split
      case h_1 cut => exact iff_of_true (headerFrames_stop cut) trivial
      case h_2 cut =>
        have bounds := headerCut_skip cut
        rw [headerFrames_skip cut]
        exact ih _ (by rw [List.length_drop]; omega) _ rfl
      case h_3 cut =>
        rw [headerFrames_tail cut]
        exact iff_of_false (List.cons_ne_nil _ _) not_false
      case h_4 n cut =>
        rw [headerFrames_frame cut]
        exact iff_of_false (List.cons_ne_nil _ _) not_false

theorem getD_take {n : Nat} (positive : 0 < n) (octets : List UInt8) :
    (octets.take n).getD 0 0 = octets.getD 0 0 := by
  rw [List.getD_eq_getElem?_getD, List.getD_eq_getElem?_getD, List.getElem?_take_of_lt positive]

/-- Every frame of the buffered framer starts with a plausible octet. -/
theorem headerFrames_start (maxLength : Nat) (octets : List UInt8) :
    ∀ frame ∈ headerFrames maxLength octets, plausibleHeader (frame.getD 0 0) = true := by
  induction length : octets.length using Nat.strong_induction_on generalizing octets with
  | _ length ih =>
      intro frame member
      cases cut : headerCut maxLength octets with
      | stop =>
          rw [headerFrames_stop cut] at member
          cases member
      | tail =>
          rw [headerFrames_tail cut, List.mem_singleton] at member
          rw [member]
          exact headerCut_tail cut
      | frame n =>
          obtain ⟨two, inside, valid⟩ := headerCut_frame cut
          rw [headerFrames_frame cut, List.mem_cons] at member
          rcases member with rfl | member
          · rw [getD_take (by omega), valid]
          · exact ih _ (by rw [List.length_drop]; omega) _ rfl frame member
      | skip =>
          have bounds := headerCut_skip cut
          rw [headerFrames_skip cut] at member
          exact ih _ (by rw [List.length_drop]; omega) _ rfl frame member

/-- The grammars give the same frames exactly where the stream is regular. -/
theorem inlineFrames_eq_iff (maxLength : Nat) (octets : List UInt8) :
    inlineFrames maxLength octets = headerFrames maxLength octets ↔
      Regular maxLength octets := by
  induction length : octets.length using Nat.strong_induction_on generalizing octets with
  | _ length ih =>
      rw [Regular]
      split
      case h_1 n cut =>
        obtain ⟨two, inside, other⟩ := inlineCut_frame cut
        rw [inlineFrames_frame cut]
        by_cases valid : plausibleHeader (octets.getD 0 0) = true
        · rw [if_pos valid] at other
          rw [headerFrames_frame other, List.cons.injEq,
            ih _ (by rw [List.length_drop]; omega) _ rfl]
          exact ⟨fun same => ⟨valid, same.2⟩, fun regular => ⟨rfl, regular.2⟩⟩
        · refine iff_of_false (fun same => ?_) (fun regular => valid regular.1)
          have starts := headerFrames_start maxLength octets (octets.take n)
            (by rw [← same]; exact List.mem_cons_self ..)
          rw [getD_take (by omega)] at starts
          exact valid starts
      case h_2 cut =>
        have other := (inlineCut_tail cut).2
        rw [inlineFrames_tail cut]
        by_cases valid : plausibleHeader (octets.getD 0 0) = true
        · rw [if_pos valid] at other
          rw [headerFrames_tail other]
          exact iff_of_true rfl valid
        · rw [if_neg valid] at other
          rw [headerFrames_stop other]
          exact iff_of_false (List.cons_ne_nil _ _) valid
      case h_3 cut =>
        rw [inlineFrames_stop cut, eq_comm]
        exact headerFrames_eq_nil_iff maxLength octets
      case h_4 cut => exact absurd cut (inlineCut_ne_skip maxLength octets)

end Agreement

/-! ## The framer in memory -/

namespace InlineFramer

variable {framer : InlineFramer}

theorem fixedLength_eq (framer : InlineFramer) :
    framer.fixedLength = headerLength framer.pending := by
  have first := framer.octet_eq 0
  rw [Nat.add_zero] at first
  rw [fixedLength, headerLength, first, framer.octet_eq 1]

/-- A scan finds the next header, if it is near enough. -/
theorem scanBoundary_eq (bounded : framer.pos + 2 + framer.maxFrameLen < 2 ^ 64) :
    framer.scanBoundary =
      (nextHeader framer.maxFrameLen framer.pending).filter (· ≤ framer.maxFrameLen) := by
  have length := framer.pending_length
  have octet : ∀ i, framer.pos ≤ i →
      framer.octet i = framer.pending.getD (i - framer.pos) 0 := by
    intro i behind
    rw [← framer.octet_eq, Nat.add_sub_cancel' behind]
  have none_of : (∀ i, 2 ≤ i → i < min (framer.pending.length - 1) (1 + framer.maxFrameLen) →
      plausibleHeader (framer.pending.getD i 0) = false) → framer.scanBoundary = none := by
    intro none
    rw [scanBoundary, Nat.mod_eq_of_lt bounded, Option.map_eq_none_iff,
      List.find?_range'_eq_none]
    intro i low high
    rw [octet i (by omega), none (i - framer.pos) (by omega) (by omega)]
    rfl
  cases boundary : nextHeader framer.maxFrameLen framer.pending with
  | none =>
      have none := nextHeader_none.mp boundary
      exact none_of fun i low high => none i low (by omega)
  | some n =>
      obtain ⟨low, high, found, first⟩ := nextHeader_some.mp boundary
      by_cases near : n ≤ framer.maxFrameLen
      · rw [Option.filter_some_pos (by simpa using near)]
        rw [scanBoundary, Nat.mod_eq_of_lt bounded]
        refine Option.map_eq_some_iff.mpr ⟨framer.pos + n, ?_, Nat.add_sub_cancel_left ..⟩
        rw [List.find?_range'_eq_some, List.mem_range'_1]
        refine ⟨?_, by omega, fun i from_start before => ?_⟩
        · rw [framer.octet_eq, found]
        · rw [octet i (by omega), first (i - framer.pos) (by omega) (by omega)]
          rfl
      · rw [Option.filter_some_neg (by simpa using near)]
        exact none_of fun i low high => first i low (by omega)

theorem takeFrame_eq (framer : InlineFramer) (n : Nat) :
    framer.takeFrame n =
      ({ framer with pos := framer.pos + n }, some (framer.pending.take n)) :=
  rfl

/-- The next frame, by the grammar. -/
theorem nextFrame_header (mode : framer.useL2Length = false)
    (bounded : framer.pos + 2 + framer.maxFrameLen < 2 ^ 64) :
    framer.nextFrame =
      match inlineCut framer.maxFrameLen framer.pending with
      | .frame n => framer.takeFrame n
      | .tail => framer.takeFrame framer.pending.length
      | .stop | .skip => (framer, none) := by
  have length := framer.pending_length
  by_cases short : framer.pending.length < 2
  · have stop : inlineCut framer.maxFrameLen framer.pending = .stop := if_pos short
    rw [stop, nextFrame]
    split
    · rfl
    · rw [mode, if_neg Bool.false_ne_true, nextFrameHeader, if_pos (by omega)]
  rw [inlineCut_of_header (not_lt.mp short), nextFrame, if_neg (by omega), mode,
    if_neg Bool.false_ne_true, nextFrameHeader, if_neg (by omega), framer.fixedLength_eq,
    framer.scanBoundary_eq bounded]
  by_cases fixed : headerLength framer.pending ≠ 0
  · rw [if_pos fixed, if_pos fixed]
    by_cases complete : headerLength framer.pending ≤ framer.pending.length
    · rw [if_pos complete, if_neg (by omega)]
    · rw [if_neg complete, if_pos (by omega)]
  · rw [if_neg fixed, if_neg fixed]
    cases boundary : nextHeader framer.maxFrameLen framer.pending with
    | none =>
        simp only [Option.filter_none]
        by_cases fits : framer.pending.length ≤ framer.maxFrameLen
        · rw [if_pos fits, if_neg (by omega), ← length]
        · rw [if_neg fits, if_pos (by omega)]
    | some n =>
        have inside := nextHeader_some.mp boundary
        by_cases near : n ≤ framer.maxFrameLen
        · rw [Option.filter_some_pos (by simpa using near)]
          simp only [if_pos near, if_neg (not_lt.mpr near)]
        · rw [Option.filter_some_neg (by simpa using near)]
          simp only [if_neg near]
          rw [if_pos (by omega)]

/-- The frames are those of the grammar. -/
theorem frames_header {calls : Nat} (mode : framer.useL2Length = false)
    (inside : framer.pos ≤ framer.data.length)
    (bounded : framer.data.length + 2 + framer.maxFrameLen < 2 ^ 64)
    (enough : framer.pending.length < calls) :
    framer.frames calls = some (inlineFrames framer.maxFrameLen framer.pending) := by
  induction calls generalizing framer with
  | zero => omega
  | succ calls ih =>
      have length := framer.pending_length
      have next : ∀ n, { framer with pos := framer.pos + n }.pending = framer.pending.drop n :=
        fun n => (List.drop_drop ..).symm
      rw [frames, framer.nextFrame_header mode (by omega)]
      cases cut : inlineCut framer.maxFrameLen framer.pending with
      | stop => rw [inlineFrames_stop cut]
      | skip => exact absurd cut (inlineCut_ne_skip _ _)
      | tail =>
          have header := (inlineCut_tail cut).1
          have rest := @ih { framer with pos := framer.pos + framer.pending.length } mode
            (by simp only; omega) bounded (by rw [next, List.drop_length, List.length_nil]; omega)
          have stop : inlineCut framer.maxFrameLen [] = .stop := rfl
          rw [next, List.drop_length, inlineFrames_stop stop] at rest
          simp only [takeFrame_eq, rest, List.take_length, inlineFrames_tail cut]
          rfl
      | frame n =>
          have header := inlineCut_frame cut
          have rest := @ih { framer with pos := framer.pos + n } mode (by simp only; omega) bounded
            (by rw [next, List.length_drop]; omega)
          rw [next] at rest
          simp only [takeFrame_eq, rest, inlineFrames_frame cut]
          rfl

end InlineFramer

/-! ## Agreement -/

namespace Reading

open L3Framer

theorem inline_frames_eq {maxLength : Nat} {data : List UInt8}
    (bounded : data.length + 2 + maxLength < 2 ^ 64) :
    InlineFramer.frames (data.length + 1)
        { data := data, useL2Length := false, maxFrameLen := maxLength } =
      some (inlineFrames maxLength data) :=
  @InlineFramer.frames_header
    { data := data, useL2Length := false, maxFrameLen := maxLength } (data.length + 1) rfl
    (Nat.zero_le _) bounded (Nat.lt_succ_self _)

/-- Read to the end without a missed boundary, a buffer gives both framers the same
frames exactly where it is regular. -/
theorem framers_agree_iff {maxLength : Nat} {data : List UInt8}
    (bounded : data.length + 2 + maxLength < 2 ^ 64) {events : List Unit} {reading : Reading}
    (run : machine.Run (fun source _ _ => ¬ source.framer.MissesBoundary)
      (byHeader maxLength [data]) events reading) (finished : reading.finished = true) :
    InlineFramer.frames (data.length + 1)
        { data := data, useL2Length := false, maxFrameLen := maxLength } =
      some (reading.frames.map ExtractedFrame.data) ↔ Regular maxLength data := by
  have stream : [data].flatten = data := List.flatten_singleton ..
  have frames := (header_progress (by rw [stream]; exact bounded) run).finished finished
  rw [inline_frames_eq bounded, frames, stream, Option.some.injEq]
  exact inlineFrames_eq_iff maxLength data

/-- Two messages. -/
theorem framers_agree_iff_two_messages :
    ([0x05, 0x18, 0x05, 0x21] : List UInt8).length + 2 + 4096 < 2 ^ 64 ∧
      ∃ reading : Reading, reading.finished = true ∧
        (InlineFramer.frames 5
            { data := [0x05, 0x18, 0x05, 0x21], useL2Length := false, maxFrameLen := 4096 } =
          some (reading.frames.map ExtractedFrame.data) ↔
          Regular 4096 [0x05, 0x18, 0x05, 0x21]) := by
  let origin := byHeader 4096 [[0x05, 0x18, 0x05, 0x21]]
  let clean : Reading → Unit → Reading → Prop :=
    fun source _ _ => ¬ source.framer.MissesBoundary
  obtain ⟨reading, executed⟩ := Option.isSome_iff_exists.mp
    (show (machine.exec clean origin (List.replicate 4 ())).isSome by decide)
  have finished : ∀ reading ∈ machine.exec clean origin (List.replicate 4 ()),
      reading.finished = true := by decide
  refine ⟨by decide, reading, finished reading executed, ?_⟩
  exact @framers_agree_iff 4096 [0x05, 0x18, 0x05, 0x21] (by decide) _ reading
    (.exec _ .origin executed) (finished reading executed)

/-- A message with a reserved discriminator. -/
theorem reserved_discriminator_differs :
    ∃ events reading,
      machine.Run (fun _ _ _ => True) (byHeader 4096 [[0x02, 0x18]]) events reading ∧
      reading.finished = true ∧ reading.frames = [] ∧
      InlineFramer.frames 3
          { data := [0x02, 0x18], useL2Length := false, maxFrameLen := 4096 } =
        some [[0x02, 0x18]] := by
  let origin := byHeader 4096 [[0x02, 0x18]]
  obtain ⟨reading, executed⟩ := Option.isSome_iff_exists.mp
    (show (machine.exec (fun _ _ _ => True) origin (List.replicate 2 ())).isSome
      by decide)
  have ends : ∀ reading ∈ machine.exec (fun _ _ _ => True) origin (List.replicate 2 ()),
      reading.finished = true ∧ reading.frames = [] := by decide
  exact ⟨_, reading, .exec _ .origin executed, (ends reading executed).1,
    (ends reading executed).2, by decide⟩

/-! A buffer of up to 4096 octets is read at once, and no boundary is missed. -/

/-- A framer that has read its whole source reads on. -/
theorem rest_nil_of_rounds {framer target : L3Framer}
    {result : Option (Except ParseError ExtractedFrame)}
    (placed : framer.pos ≤ framer.data.length) (header : 2 ≤ framer.config.minHeaderLength)
    (rounds : Rounds framer target result) (read : framer.source.rest = []) :
    target.source.rest = [] := by
  have fills : ∀ {middle next error got chunk}, framer.tryExtract false = (middle, .error error) →
      Filled middle next got chunk → next.source.rest = [] ∧ next.config = framer.config := by
    intro middle next error got chunk extraction filled
    have extracted := tryExtract_extracted placed header extraction
    have rest := filled.rest
    rw [extracted.source, read] at rest
    exact ⟨(List.append_eq_nil_iff.mp rest.symm).2, filled.config.trans extracted.config⟩
  cases rounds with
  | found extraction => rw [(tryExtract_extracted placed header extraction).source, read]
  | skipped extraction => rw [(tryExtract_extracted placed header extraction).source, read]
  | filled extraction _ filled => exact (fills extraction filled).1
  | stalled extraction _ filled => exact (fills extraction filled).1
  | tail extraction _ filled _ last =>
      obtain ⟨rest, config⟩ := fills extraction filled
      rw [(tryExtract_extracted filled.placed (config ▸ header) last).source, rest]
  | ended extraction _ filled _ last =>
      obtain ⟨rest, config⟩ := fills extraction filled
      rw [(tryExtract_extracted filled.placed (config ▸ header) last).source, rest]

/-- The first fill of a framer reads up to 4096 octets. -/
theorem first_fill {maxLength : Nat} {data : List UInt8} (short : data.length ≤ 4096) :
    (byHeader maxLength [data]).framer.fillBuffer.1.source.rest = [] := by
  have read : ({ chunks := [data] } : ByteSource).read 4096 = (data, { chunks := [] }) := by
    rw [ByteSource.read]
    exact if_pos short
  change ({ chunks := [data] } : ByteSource).read 4096 |>.2.rest = []
  rw [read]
  rfl

theorem first_round {maxLength : Nat} {data : List UInt8} (short : data.length ≤ 4096) :
    (byHeader maxLength [data]).framer.round.1.source.rest = [] := by
  obtain ⟨framer, framer_eq⟩ : ∃ framer, framer = (byHeader maxLength [data]).framer := ⟨_, rfl⟩
  have waits : framer.tryExtract false =
      (framer, .error
        { code := .truncatedInput, message := "insufficient data for L3 header" }) := by
    rw [framer_eq]
    rfl
  have read : framer.fillBuffer.1.source.rest = [] := framer_eq ▸ first_fill short
  have placed : framer.pos ≤ framer.data.length := framer_eq ▸ Nat.zero_le _
  have header : 2 ≤ framer.config.minHeaderLength := framer_eq ▸ le_rfl
  obtain ⟨chunk, filled⟩ := fillBuffer_filled placed
  rw [← framer_eq, L3Framer.round, waits]
  cases fill : framer.fillBuffer with
  | mk next got =>
      rw [fill] at read filled
      simp only [reduceCtorEq, or_self, if_false, fill]
      cases got with
      | true => exact read
      | false =>
          by_cases eof : next.source.atEof = true
          · simp only [if_pos eof]
            cases extraction : next.tryExtract true with
            | mk last result =>
                have ending := tryExtract_extracted filled.placed
                  (by rw [filled.config]; exact header) extraction
                have rest : last.source.rest = [] := by rw [ending.source, read]
                cases result <;> exact rest
          · simp only [if_neg eof]
            exact read

/-- A state of a reading that has read its source, or not begun. -/
def ReadAtOnce (maxLength : Nat) (data : List UInt8) (reading : Reading) : Prop :=
  reading = byHeader maxLength [data] ∨
    reading.framer.source.rest = [] ∧ reading.framer.pos ≤ reading.framer.data.length ∧
      2 ≤ reading.framer.config.minHeaderLength ∧ reading.framer.source.live = false

theorem ReadAtOnce.not_missesBoundary {maxLength : Nat} {data : List UInt8} {reading : Reading}
    (once : ReadAtOnce maxLength data reading) : ¬ reading.framer.MissesBoundary := by
  rcases once with rfl | ⟨read, -⟩
  · exact fun missed => absurd missed.2.2.2.1 (Nat.not_lt_zero _)
  · exact fun missed => missed.2.2.1 read

theorem ReadAtOnce.step {maxLength : Nat} {data : List UInt8} (short : data.length ≤ 4096)
    {reading target : Reading} (once : ReadAtOnce maxLength data reading)
    (stepped : reading.step = some target) : ReadAtOnce maxLength data target := by
  rw [Reading.step] at stepped
  split at stepped
  case isTrue => cases stepped
  case isFalse reads =>
    obtain rfl := Option.some.inj stepped
    refine .inr ?_
    rw [after_framer]
    rcases once with rfl | ⟨read, placed, header, finite⟩
    · have rounds := @round_rounds (byHeader maxLength [data]).framer (Nat.zero_le _) le_rfl
      obtain ⟨placed, config, live, -⟩ := round_work (Nat.zero_le _) le_rfl rfl rounds
      exact ⟨first_round short, placed, by rw [config]; exact le_rfl, live⟩
    · have rounds := round_rounds placed header
      obtain ⟨inside, config, live, -⟩ := round_work placed header finite rounds
      exact ⟨rest_nil_of_rounds placed header rounds read, inside, by rw [config]; exact header,
        live⟩

/-- Every reading of up to 4096 octets misses no boundary. -/
theorem clean_of_short {maxLength : Nat} {data : List UInt8} (short : data.length ≤ 4096)
    {events : List Unit} {reading : Reading}
    (run : machine.Run (fun _ _ _ => True) (byHeader maxLength [data]) events reading) :
    ReadAtOnce maxLength data reading ∧
      machine.Run (fun source _ _ => ¬ source.framer.MissesBoundary)
        (byHeader maxLength [data]) events reading := by
  induction run with
  | origin => exact ⟨.inl rfl, .origin⟩
  | next _ stepped _ ih =>
      exact ⟨ih.1.step short stepped, .next ih.2 stepped ih.1.not_missesBoundary⟩

/-- On up to 4096 octets the framers agree exactly where the buffer is regular. -/
theorem short_framers_agree_iff {maxLength : Nat} {data : List UInt8}
    (short : data.length ≤ 4096) (bounded : data.length + 2 + maxLength < 2 ^ 64)
    {events : List Unit} {reading : Reading}
    (run : machine.Run (fun _ _ _ => True) (byHeader maxLength [data]) events reading)
    (finished : reading.finished = true) :
    InlineFramer.frames (data.length + 1)
        { data := data, useL2Length := false, maxFrameLen := maxLength } =
      some (reading.frames.map ExtractedFrame.data) ↔ Regular maxLength data := by
  obtain ⟨-, clean⟩ := clean_of_short short run
  rw [inline_frames_eq bounded, (header_progress (by simpa using bounded) clean).finished finished,
    List.flatten_singleton, Option.some.injEq]
  exact inlineFrames_eq_iff maxLength data

end Reading

end Bitstream

end Gsml3
