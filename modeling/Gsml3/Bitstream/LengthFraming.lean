import Gsml3.Bitstream.Framing

/-!
# Frames behind length octets

Both framers cut a stream by the grammar `lengthFrames`, and so agree.
-/

namespace Gsml3

namespace Bitstream

/-- The grammar of the length mode: a length octet out of range is skipped, another
one is followed by its frame, and an incomplete frame ends the stream. -/
def lengthFrames (maxLength : Nat) : List UInt8 → List (List UInt8)
  | [] => []
  | len :: rest =>
      if len.toNat = 0 ∨ maxLength < len.toNat then lengthFrames maxLength rest
      else if rest.length < len.toNat then []
      else rest.take len.toNat :: lengthFrames maxLength (rest.drop len.toNat)
termination_by octets => octets.length

section Grammar

variable {maxLength : Nat} {len : UInt8} {rest : List UInt8}

theorem lengthFrames_nil (maxLength : Nat) : lengthFrames maxLength [] = [] := by
  rw [lengthFrames]

theorem lengthFrames_corrupt (corrupt : len.toNat = 0 ∨ maxLength < len.toNat) :
    lengthFrames maxLength (len :: rest) = lengthFrames maxLength rest := by
  rw [lengthFrames, if_pos corrupt]

theorem lengthFrames_short (valid : ¬ (len.toNat = 0 ∨ maxLength < len.toNat))
    (short : rest.length < len.toNat) : lengthFrames maxLength (len :: rest) = [] := by
  rw [lengthFrames, if_neg valid, if_pos short]

theorem lengthFrames_frame (valid : ¬ (len.toNat = 0 ∨ maxLength < len.toNat))
    (complete : len.toNat ≤ rest.length) :
    lengthFrames maxLength (len :: rest) =
      rest.take len.toNat :: lengthFrames maxLength (rest.drop len.toNat) := by
  rw [lengthFrames, if_neg valid, if_neg (not_lt.mpr complete)]

end Grammar

/-! ## The buffered framer -/

namespace L3Framer

variable {framer next : L3Framer} {maxLength : Nat}

/-- A framer by length octets over a finite source. -/
structure ByLength (maxLength : Nat) (framer : L3Framer) : Prop where
  placed : framer.pos ≤ framer.data.length
  config : framer.config = { maxMessageLength := maxLength }
  finite : framer.source.live = false

/-- The ways an extraction by length octets goes, by what it finds in the window. -/
inductive LengthExtraction (maxLength : Nat) (framer : L3Framer) :
    L3Framer → Except ParseError ExtractedFrame → Prop where
  | incomplete {error : ParseError} : ¬ Resync error →
      lengthFrames maxLength framer.window = [] →
      LengthExtraction maxLength framer framer (.error error)
  | corrupt {next : L3Framer} {error : ParseError} {len : UInt8} {window : List UInt8} :
      framer.window = len :: window → len.toNat = 0 ∨ maxLength < len.toNat →
      next.window = window → Resync error → LengthExtraction maxLength framer next (.error error)
  | frame {next : L3Framer} {frame : ExtractedFrame} {len : UInt8} {window : List UInt8} :
      framer.window = len :: window → ¬ (len.toNat = 0 ∨ maxLength < len.toNat) →
      len.toNat ≤ window.length → frame.data = window.take len.toNat →
      next.window = window.drop len.toNat →
      LengthExtraction maxLength framer next (.ok frame)

theorem tryExtract_length (byLength : ByLength maxLength framer) {atEof : Bool}
    {result : Except ParseError ExtractedFrame}
    (extraction : framer.tryExtract atEof = (next, result)) :
    LengthExtraction maxLength framer next result := by
  have length := framer.window_length
  rw [tryExtract, byLength.config] at extraction
  simp only [if_true] at extraction
  cases window : framer.window with
  | nil =>
      rw [window, List.length_nil] at length
      rw [if_pos (by omega)] at extraction
      obtain ⟨rfl, rfl⟩ := Prod.mk.inj extraction
      refine .incomplete (by cases atEof <;> simp [Resync]) ?_
      rw [window, lengthFrames_nil]
  | cons len rest =>
      have octet : framer.octet framer.pos = len := by
        have head := framer.octet_eq 0
        rw [window] at head
        exact head
      rw [window, List.length_cons] at length
      split at extraction
      case isTrue short =>
        obtain rfl : rest = [] := List.eq_nil_of_length_eq_zero (by omega)
        obtain ⟨rfl, rfl⟩ := Prod.mk.inj extraction
        refine .incomplete (by cases atEof <;> simp [Resync]) ?_
        rw [window]
        by_cases corrupt : len.toNat = 0 ∨ maxLength < len.toNat
        · rw [lengthFrames_corrupt corrupt, lengthFrames_nil]
        · exact lengthFrames_short corrupt (Nat.pos_of_ne_zero (not_or.mp corrupt).1)
      case isFalse =>
        have behind : framer.data.drop (framer.pos + 1) = rest := by
          rw [← List.drop_drop, ← L3Framer.window, window]
          rfl
        simp only [extractLength, octet, byLength.config] at extraction
        rw [if_neg (by omega)] at extraction
        split at extraction
        case isTrue corrupt =>
          obtain ⟨rfl, rfl⟩ := Prod.mk.inj extraction
          exact .corrupt window corrupt behind (.inr rfl)
        case isFalse valid =>
          split at extraction
          case isTrue short =>
            obtain ⟨rfl, rfl⟩ := Prod.mk.inj extraction
            refine .incomplete (by cases atEof <;> simp [Resync]) ?_
            rw [window]
            exact lengthFrames_short valid (by omega)
          case isFalse complete =>
            obtain ⟨rfl, rfl⟩ := Prod.mk.inj extraction
            refine .frame window valid (by omega) (by rw [behind]) ?_
            change framer.data.drop (framer.pos + (len.toNat + 1)) = _
            rw [Nat.add_comm len.toNat, ← Nat.add_assoc, ← List.drop_drop, behind]

/-- The framer cuts its stream by the grammar. -/
theorem length_cuts (maxLength : Nat) :
    Cuts (lengthFrames maxLength) (fun _ => True) (ByLength maxLength) where
  placed byLength := byLength.placed
  header byLength := by
    rw [byLength.config]
  finite byLength := byLength.finite
  found byLength extraction := by
    rename_i framer next frame
    have extracted := tryExtract_extracted byLength.placed (by rw [byLength.config]) extraction
    refine ⟨⟨extracted.placed, extracted.config.trans byLength.config, by
      rw [extracted.source, byLength.finite]⟩, ?_⟩
    cases tryExtract_length byLength extraction with
    | frame window valid complete data rest =>
        rename_i len tail
        rw [pending, pending, window, List.cons_append, lengthFrames_frame valid, data, rest,
          extracted.source, List.take_append_of_le_length complete,
          List.drop_append_of_le_length complete]
        rw [List.length_append]
        omega
  skipped byLength extraction resync := by
    rename_i framer next error
    have extracted := tryExtract_extracted byLength.placed (by rw [byLength.config]) extraction
    refine ⟨⟨extracted.placed, extracted.config.trans byLength.config, by
      rw [extracted.source, byLength.finite]⟩, ?_⟩
    cases tryExtract_length byLength extraction with
    | incomplete wait => exact absurd resync wait
    | corrupt window corrupt rest =>
        rw [pending, pending, window, List.cons_append, lengthFrames_corrupt corrupt, rest,
          extracted.source]
  filled byLength _ extraction _ filled _ := by
    have extracted := tryExtract_extracted byLength.placed (by rw [byLength.config]) extraction
    refine ⟨filled.placed, ?_, ?_⟩
    · rw [filled.config, extracted.config, byLength.config]
    · rw [filled.live, extracted.source, byLength.finite]
  ended byLength extraction wait filled rest last := by
    rename_i framer middle next last' error result
    have extracted := tryExtract_extracted byLength.placed (by rw [byLength.config]) extraction
    have next_length : ByLength maxLength next :=
      ⟨filled.placed, by rw [filled.config, extracted.config, byLength.config],
        by rw [filled.live, extracted.source, byLength.finite]⟩
    have ending := tryExtract_extracted next_length.placed (by rw [next_length.config]) last
    -- the frame is still incomplete
    have empty : lengthFrames maxLength framer.pending = [] := by
      rw [pending, rest, List.append_nil]
      cases tryExtract_length byLength extraction with
      | incomplete _ empty => exact empty
      | corrupt _ _ _ resync => exact absurd resync wait
    have window : next.window = framer.window := by
      rw [filled.window, List.append_nil, L3Framer.window, L3Framer.window, extracted.data,
        extracted.wait error rfl wait]
    cases tryExtract_length next_length last with
    | incomplete => exact empty
    | corrupt => exact empty
    | frame found valid complete data =>
        rw [pending, rest, List.append_nil, ← window, found, lengthFrames_frame valid complete]
          at empty
        exact absurd empty (List.cons_ne_nil _ _)

end L3Framer

/-! ## The framer in memory -/

namespace InlineFramer

variable {framer : InlineFramer}

/-- The octets not consumed. -/
def pending (framer : InlineFramer) : List UInt8 :=
  framer.data.drop framer.pos

theorem pending_length (framer : InlineFramer) :
    framer.pending.length = framer.data.length - framer.pos :=
  List.length_drop ..

theorem octet_eq (framer : InlineFramer) (i : Nat) :
    framer.octet (framer.pos + i) = framer.pending.getD i 0 := by
  rw [octet, pending, List.getD_eq_getElem?_getD, List.getD_eq_getElem?_getD, List.getElem?_drop]

/-- Skipping stops at a length octet in range or at the end, and changes no frame. -/
theorem skipCorrupt_spec {octets : Nat} (enough : framer.pending.length ≤ octets) :
    (framer.skipCorrupt octets).data = framer.data ∧
      (framer.skipCorrupt octets).maxFrameLen = framer.maxFrameLen ∧
      (framer.skipCorrupt octets).useL2Length = framer.useL2Length ∧
      framer.pos ≤ (framer.skipCorrupt octets).pos ∧
      lengthFrames framer.maxFrameLen (framer.skipCorrupt octets).pending =
        lengthFrames framer.maxFrameLen framer.pending ∧
      ∀ len rest, (framer.skipCorrupt octets).pending = len :: rest →
        ¬ (len.toNat = 0 ∨ framer.maxFrameLen < len.toNat) := by
  induction octets generalizing framer with
  | zero =>
      have empty := List.eq_nil_of_length_eq_zero (Nat.le_zero.mp enough)
      refine ⟨rfl, rfl, rfl, le_rfl, rfl, fun len rest cons => ?_⟩
      rw [skipCorrupt, empty] at cons
      cases cons
  | succ octets ih =>
      rw [skipCorrupt]
      cases window : framer.pending with
      | nil =>
          have length := framer.pending_length
          rw [window, List.length_nil] at length
          rw [if_pos (by omega), window]
          exact ⟨rfl, rfl, rfl, le_rfl, rfl, nofun⟩
      | cons len rest =>
          have length := framer.pending_length
          have octet : framer.octet framer.pos = len := by
            have head := framer.octet_eq 0
            rw [window] at head
            exact head
          rw [window, List.length_cons] at length enough
          simp only [if_neg (show ¬ framer.data.length < framer.pos + 1 by omega), octet]
          split
          case isTrue corrupt =>
            have behind : { framer with
                pos := framer.pos + 1, resyncSkips := framer.resyncSkips + 1 }.pending = rest := by
              change framer.data.drop (framer.pos + 1) = rest
              rw [← List.drop_drop, ← pending, window]
              rfl
            obtain ⟨data, max, mode, further, frames, valid⟩ :=
              @ih { framer with
                pos := framer.pos + 1, resyncSkips := framer.resyncSkips + 1 }
                (by rw [behind]; omega)
            rw [behind] at frames
            exact ⟨data, max, mode, (Nat.le_succ _).trans further,
              frames.trans (lengthFrames_corrupt corrupt).symm, valid⟩
          case isFalse valid =>
            rw [window]
            refine ⟨rfl, rfl, rfl, le_rfl, rfl, ?_⟩
            rintro _ _ ⟨⟩
            exact valid

/-- The next frame is the first one of the grammar. -/
theorem nextFrame_length (mode : framer.useL2Length = true) :
    match framer.nextFrame with
    | (_, none) => lengthFrames framer.maxFrameLen framer.pending = []
    | (next, some frame) =>
        next.useL2Length = true ∧ next.maxFrameLen = framer.maxFrameLen ∧
          next.pending.length < framer.pending.length ∧
          lengthFrames framer.maxFrameLen framer.pending =
            frame :: lengthFrames framer.maxFrameLen next.pending := by
  have length := framer.pending_length
  by_cases ended : framer.data.length ≤ framer.pos
  · rw [nextFrame, if_pos ended]
    rw [List.eq_nil_of_length_eq_zero (show framer.pending.length = 0 by omega), lengthFrames_nil]
  · rw [nextFrame, if_neg ended, if_pos mode]
    obtain ⟨data, max, same_mode, further, frames, valid⟩ := framer.skipCorrupt_spec length.le
    simp only [nextFrameLength]
    generalize framer.skipCorrupt (framer.data.length - framer.pos) = middle at *
    have length' := middle.pending_length
    rw [← frames]
    cases window : middle.pending with
    | nil =>
        rw [window, List.length_nil] at length'
        rw [if_pos (by omega)]
        exact lengthFrames_nil _
    | cons len rest =>
        have octet : middle.octet middle.pos = len := by
          have head := middle.octet_eq 0
          rw [window] at head
          exact head
        have behind : middle.data.drop (middle.pos + 1) = rest := by
          rw [← List.drop_drop, ← pending, window]
          rfl
        rw [window, List.length_cons] at length'
        rw [if_neg (by omega), octet]
        by_cases short : rest.length < len.toNat
        · rw [if_pos (by omega)]
          exact lengthFrames_short (valid len rest window) short
        · rw [if_neg (by omega)]
          have next : { middle with pos := middle.pos + 1 + len.toNat }.pending =
              rest.drop len.toNat := by
            change middle.data.drop (middle.pos + 1 + len.toNat) = _
            rw [← List.drop_drop, behind]
          refine ⟨same_mode.trans mode, max, ?_, ?_⟩
          · change { middle with pos := middle.pos + 1 + len.toNat }.pending.length < _
            rw [next, List.length_drop]
            rw [data] at length'
            omega
          · change _ = (middle.data.drop (middle.pos + 1)).take len.toNat ::
              lengthFrames framer.maxFrameLen
                { middle with pos := middle.pos + 1 + len.toNat }.pending
            rw [next, behind, lengthFrames_frame (valid len rest window) (by omega)]

/-- The frames are those of the grammar. -/
theorem frames_length {calls : Nat} (mode : framer.useL2Length = true)
    (enough : framer.pending.length < calls) :
    framer.frames calls = some (lengthFrames framer.maxFrameLen framer.pending) := by
  induction calls generalizing framer with
  | zero => omega
  | succ calls ih =>
      have next_frame := framer.nextFrame_length mode
      rw [frames]
      cases step : framer.nextFrame with
      | mk next result =>
          rw [step] at next_frame
          cases result with
          | none =>
              simp only at next_frame ⊢
              rw [next_frame]
          | some frame =>
              obtain ⟨next_mode, max, less, frames⟩ := next_frame
              simp only
              rw [ih next_mode (by omega), frames, max]
              rfl

end InlineFramer

/-! ## Agreement -/

/-- However a source portions a stream, both framers cut it by the grammar. -/
theorem length_framing (maxLength : Nat) (chunks : List (List UInt8)) :
    (∃ events reading,
      Reading.machine.Run (fun _ _ _ => True)
        (.start { maxMessageLength := maxLength } { chunks := chunks }) events reading ∧
      reading.finished = true) ∧
    (∀ events reading,
      Reading.machine.Run (fun _ _ _ => True)
        (.start { maxMessageLength := maxLength } { chunks := chunks }) events reading →
      reading.finished = true →
      reading.frames.map ExtractedFrame.data = lengthFrames maxLength chunks.flatten) ∧
    InlineFramer.frames (chunks.flatten.length + 1)
        { data := chunks.flatten, maxFrameLen := maxLength } =
      some (lengthFrames maxLength chunks.flatten) := by
  refine ⟨?_, ?_, ?_⟩
  · obtain ⟨events, reading, executed, finished⟩ := @Reading.finishes
      (.start { maxMessageLength := maxLength } { chunks := chunks }) (Nat.zero_le _) le_rfl rfl
    exact ⟨events, reading, by simpa using Foundation.Machine.Run.exec events .origin executed,
      finished⟩
  · intro events reading run finished
    have start : Reading.Progress (lengthFrames maxLength) (L3Framer.ByLength maxLength)
        chunks.flatten (.start { maxMessageLength := maxLength } { chunks := chunks }) :=
      ⟨fun _ => ⟨⟨Nat.zero_le _, rfl, rfl⟩, rfl⟩,
        fun finished => absurd finished Bool.false_ne_true⟩
    exact (Reading.run_progress (L3Framer.length_cuts maxLength) start run).finished finished
  · exact InlineFramer.frames_length rfl (by simp [InlineFramer.pending])

end Bitstream

end Gsml3
