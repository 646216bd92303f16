import Gsml3.Bitstream.HeaderFraming

/-!
# Streams of fixed-length messages

In header mode a message whose length is in the table is taken without a look at what
follows it.  A stream of such messages is cut into exactly these, however long messages may
be and however the source portions its reads.
-/

namespace Gsml3

namespace Bitstream

/-- A frame with the length that the table has for its header. -/
structure FixedFrame (frame : List UInt8) : Prop where
  header : 2 ≤ frame.length
  length : headerLength frame = frame.length

/-! ## The grammar -/

section Grammar

variable {maxLength : Nat} {frame : List UInt8} {frames : List (List UInt8)}

theorem FixedFrame.headerLength_append (fixed : FixedFrame frame) (rest : List UInt8) :
    headerLength (frame ++ rest) = frame.length := by
  rw [Bitstream.headerLength_append fixed.header, fixed.length]

theorem FixedFrame.headerCut (fixed : FixedFrame frame) (rest : List UInt8) :
    headerCut maxLength (frame ++ rest) = .frame frame.length := by
  have header := fixed.header
  have inside : frame.length ≤ (frame ++ rest).length := by
    rw [List.length_append]
    omega
  rw [headerCut_of_header (header.trans inside), fixed.headerLength_append rest,
    if_pos (by omega), if_pos inside]

/-- Fixed-length messages are cut where they end. -/
theorem headerFrames_flatten (fixed : ∀ frame ∈ frames, FixedFrame frame) :
    headerFrames maxLength frames.flatten = frames := by
  induction frames with
  | nil => exact headerFrames_stop rfl
  | cons frame frames ih =>
      have cut := @FixedFrame.headerCut maxLength _ (fixed frame List.mem_cons_self) frames.flatten
      rw [List.flatten_cons, headerFrames_frame cut, List.take_left, List.drop_left,
        ih fun frame member => fixed frame (List.mem_cons_of_mem _ member)]

end Grammar

/-! ## The buffered framer -/

namespace L3Framer

variable {framer next : L3Framer} {maxLength : Nat}

/-- A framer by headers over a finite source, with complete fixed-length messages pending. -/
structure ByFrames (maxLength : Nat) (framer : L3Framer) : Prop where
  placed : framer.pos ≤ framer.data.length
  config : framer.config = { useL2Length := false, maxMessageLength := maxLength }
  finite : framer.source.live = false
  whole : ∃ frames : List (List UInt8),
    (∀ frame ∈ frames, FixedFrame frame) ∧ framer.pending = frames.flatten

/-- The first message pending is not buffered yet. -/
def Incomplete (framer : L3Framer) : Prop :=
  ∀ frame rest, FixedFrame frame → framer.pending = frame ++ rest →
    framer.buffered < frame.length

/-- An extraction waits for the rest of the first message, or takes it. -/
inductive FrameExtraction (framer : L3Framer) :
    L3Framer → Except ParseError ExtractedFrame → Prop where
  | wait {error : ParseError} : ¬ Resync error → framer.Incomplete →
      FrameExtraction framer framer (.error error)
  | take {frame : List UInt8} {frames : List (List UInt8)} :
      (∀ frame ∈ frames, FixedFrame frame) → FixedFrame frame →
      framer.pending = frame ++ frames.flatten → frame.length ≤ framer.window.length →
      FrameExtraction framer { framer with pos := framer.pos + frame.length, boundaryScanPos := 0 }
        (.ok { data := frame, l2Length := 0 })

/-- With a header buffered, the first message decides. -/
theorem ByFrames.tryExtract_eq (byFrames : ByFrames maxLength framer) {frame rest : List UInt8}
    (fixed : FixedFrame frame) (pending : framer.pending = frame ++ rest)
    (header : 2 ≤ framer.window.length) :
    framer.tryExtract false = framer.takeFrame frame.length := by
  have two := fixed.header
  have known : framer.fixedLength = frame.length := by
    rw [framer.fixedLength_eq, ← headerLength_append header framer.source.rest,
      ← L3Framer.pending, pending, fixed.headerLength_append rest]
  rw [window_length] at header
  rw [tryExtract, byFrames.config, if_neg (not_lt.mpr header), if_neg Bool.false_ne_true,
    extractHeader, if_neg Bool.false_ne_true, known, if_pos (by omega)]

theorem tryExtract_frame (byFrames : ByFrames maxLength framer)
    {result : Except ParseError ExtractedFrame}
    (extraction : framer.tryExtract false = (next, result)) :
    FrameExtraction framer next result := by
  have length := framer.window_length
  by_cases short : framer.buffered < 2
  · rw [tryExtract, byFrames.config, if_pos short] at extraction
    obtain ⟨rfl, rfl⟩ := Prod.mk.inj extraction
    refine .wait (by simp [Resync]) fun frame rest fixed _ => ?_
    have two := fixed.header
    omega
  · obtain ⟨frames, fixed, pending⟩ := byFrames.whole
    cases frames with
    | nil =>
        have none := congrArg List.length pending
        rw [L3Framer.pending, List.length_append, List.flatten_nil, List.length_nil] at none
        omega
    | cons frame frames =>
        have first := fixed frame List.mem_cons_self
        rw [List.flatten_cons] at pending
        rw [byFrames.tryExtract_eq first pending (by omega)] at extraction
        by_cases complete : frame.length ≤ framer.window.length
        · have taken : framer.window.take frame.length = frame := by
            have front := congrArg (List.take frame.length) pending
            rwa [L3Framer.pending, List.take_append_of_le_length complete, List.take_left] at front
          have valid : plausibleHeader (framer.window.getD 0 0) = true := by
            have known : headerLength framer.window ≠ 0 := by
              rw [← headerLength_append (by omega) framer.source.rest, ← L3Framer.pending, pending,
                first.headerLength_append]
              have two := first.header
              omega
            exact (headerLength_spec known).2
          rw [takeFrame_eq first.header complete, if_pos valid, taken] at extraction
          obtain ⟨rfl, rfl⟩ := Prod.mk.inj extraction
          exact .take (fun frame member => fixed frame (List.mem_cons_of_mem _ member)) first
            pending complete
        · rw [takeFrame, if_pos (by omega)] at extraction
          obtain ⟨rfl, rfl⟩ := Prod.mk.inj extraction
          refine .wait (by simp [Resync]) fun other rest fixed same => ?_
          have lengths : other.length = frame.length := by
            rw [← fixed.headerLength_append rest, ← same, pending, first.headerLength_append]
          omega

/-- A framer cuts fixed-length messages by the grammar, wherever it waits. -/
theorem frame_cuts (maxLength : Nat) :
    Cuts (headerFrames maxLength) (fun _ => True) (ByFrames maxLength) where
  placed byFrames := byFrames.placed
  header byFrames := by
    rw [byFrames.config]
  finite byFrames := byFrames.finite
  found byFrames extraction := by
    rename_i framer next found
    have extracted := tryExtract_extracted byFrames.placed (by rw [byFrames.config]) extraction
    cases tryExtract_frame byFrames extraction with
    | take fixed first pending complete =>
        rename_i frame frames
        obtain ⟨-, rest⟩ := @pending_drop framer
          { framer with pos := framer.pos + frame.length, boundaryScanPos := 0 } rfl rfl
          frame.length rfl (by rw [← window_length]; exact complete)
        rw [pending, List.drop_left] at rest
        refine ⟨⟨extracted.placed, byFrames.config, byFrames.finite, frames, fixed, rest⟩, ?_⟩
        rw [pending, rest, headerFrames_frame (first.headerCut _), List.take_left, List.drop_left]
  skipped byFrames extraction resync := by
    cases tryExtract_frame byFrames extraction with
    | wait wait => exact absurd resync wait
  filled byFrames _ extraction wait filled _ := by
    rename_i framer middle next error got chunk
    cases tryExtract_frame byFrames extraction with
    | wait _ _ =>
        obtain ⟨frames, fixed, pending⟩ := byFrames.whole
        refine ⟨filled.placed, filled.config.trans byFrames.config,
          filled.live.trans byFrames.finite, frames, fixed, ?_⟩
        rw [← pending, L3Framer.pending, L3Framer.pending, filled.window, filled.rest,
          List.append_assoc]
  ended byFrames extraction wait filled rest last := by
    rename_i framer middle next last' error result
    cases tryExtract_frame byFrames extraction with
    | wait _ waits =>
        obtain ⟨frames, fixed, pending⟩ := byFrames.whole
        have buffered : framer.pending.length = framer.buffered := by
          rw [L3Framer.pending, rest, List.append_nil, window_length]
        cases frames with
        | cons frame frames =>
            rw [List.flatten_cons] at pending
            have less := waits frame frames.flatten (fixed frame List.mem_cons_self) pending
            rw [pending, List.length_append] at buffered
            omega
        | nil =>
            rw [pending, List.flatten_nil, List.length_nil] at buffered
            have empty : next.buffered < 2 := by
              rw [filled.buffered, ← buffered]
              exact Nat.zero_lt_two
            rw [tryExtract, filled.config, byFrames.config, if_pos empty] at last
            obtain ⟨-, rfl⟩ := Prod.mk.inj last
            rw [pending]
            exact headerFrames_stop rfl

end L3Framer

/-! ## Reading a stream -/

namespace Reading

open L3Framer

/-- A stream of fixed-length messages is read to its end, and then the frames are the
messages. -/
theorem reads_frames (maxLength : Nat) {chunks frames : List (List UInt8)}
    (fixed : ∀ frame ∈ frames, FixedFrame frame) (stream : chunks.flatten = frames.flatten) :
    (∃ events reading,
        machine.Run (fun _ _ _ => True) (byHeader maxLength chunks) events reading ∧
          reading.finished = true) ∧
      ∀ events reading,
        machine.Run (fun _ _ _ => True) (byHeader maxLength chunks) events reading →
          reading.finished = true → reading.frames.map ExtractedFrame.data = frames := by
  constructor
  · obtain ⟨events, reading, executed, finished⟩ :=
      @finishes (byHeader maxLength chunks) (Nat.zero_le _) le_rfl rfl
    exact ⟨_, reading, .exec _ .origin executed, finished⟩
  · intro events reading run finished
    have start : Progress (headerFrames maxLength) (ByFrames maxLength) chunks.flatten
        (byHeader maxLength chunks) := by
      refine ⟨fun _ => ⟨⟨Nat.zero_le _, rfl, rfl, frames, fixed, stream⟩, rfl⟩, ?_⟩
      exact fun finished => absurd finished Bool.false_ne_true
    rw [(run_progress (frame_cuts maxLength) start run).finished finished, stream,
      headerFrames_flatten fixed]

end Reading

end Bitstream

end Gsml3
