import Gsml3.Bitstream.Framer

/-!
# Reading a source to its end

What a framer has not consumed is its window into the buffer, followed by what
the source still delivers.  `Cuts` says that a framer cuts this stream as a
function on octet strings does; its frames are then those of the function,
however the source portions its reads.
-/

namespace Gsml3

namespace Bitstream

namespace ByteSource

variable {source : ByteSource}

/-- The octets delivered before the next read without data. -/
def ready (source : ByteSource) : List UInt8 :=
  (source.chunks.takeWhile (!·.isEmpty)).flatten

/-- A read with room that delivers no octets finds none ready. -/
theorem read_ready (source : ByteSource) {maxSize : Nat} (room : 0 < maxSize) :
    source.ready =
      if (source.read maxSize).1 = [] then []
      else (source.read maxSize).1 ++ (source.read maxSize).2.ready := by
  obtain ⟨chunks, live⟩ := source
  cases chunks with
  | nil => rfl
  | cons chunk chunks =>
      cases chunk with
      | nil => rfl
      | cons octet octets =>
          simp only [read]
          split
          case isTrue => rfl
          case isFalse long =>
            obtain ⟨size, rfl⟩ := Nat.exists_eq_add_one_of_ne_zero (Nat.ne_of_gt room)
            obtain ⟨last, lasts, rest⟩ : ∃ last lasts,
                (octet :: octets).drop (size + 1) = last :: lasts := by
              refine List.exists_cons_of_ne_nil fun empty => long ?_
              exact List.drop_eq_nil_iff.mp empty
            have taken : (octet :: octets).take (size + 1) ≠ [] := List.cons_ne_nil _ _
            simp only [if_neg taken]
            rw [ready, ready, rest, List.takeWhile_cons_of_pos rfl, List.takeWhile_cons_of_pos rfl,
              List.flatten_cons, List.flatten_cons, ← rest, ← List.append_assoc,
              List.take_append_drop]

/-- A read delivers the next octets of the source; one with room that delivers
none uses up an empty portion, if the source is not empty. -/
theorem read_spec (source : ByteSource) {maxSize : Nat} (room : 0 < maxSize) :
    source.rest = (source.read maxSize).1 ++ (source.read maxSize).2.rest ∧
      (source.read maxSize).2.live = source.live ∧
      (source.read maxSize).2.chunks.length ≤ source.chunks.length ∧
      ((source.read maxSize).1 = [] → source.rest ≠ [] →
        (source.read maxSize).2.chunks.length < source.chunks.length) := by
  obtain ⟨chunks, live⟩ := source
  cases chunks with
  | nil => exact ⟨rfl, rfl, le_rfl, fun _ some_octets => absurd rfl some_octets⟩
  | cons chunk chunks =>
      simp only [read, rest, List.flatten_cons]
      split
      case isTrue => exact ⟨rfl, rfl, Nat.le_succ _, fun _ _ => Nat.lt_succ_self _⟩
      case isFalse long =>
        refine ⟨?_, rfl, le_rfl, fun empty => ?_⟩
        · rw [List.flatten_cons, ← List.append_assoc, List.take_append_drop]
        · have length := congrArg List.length empty
          rw [List.length_take, List.length_nil] at length
          omega

end ByteSource

namespace L3Framer

variable {framer next : L3Framer}

/-- The octets buffered and not consumed. -/
def window (framer : L3Framer) : List UInt8 :=
  framer.data.drop framer.pos

/-- The octets not consumed, buffered or not. -/
def pending (framer : L3Framer) : List UInt8 :=
  framer.window ++ framer.source.rest

theorem window_length (framer : L3Framer) : framer.window.length = framer.buffered :=
  List.length_drop ..

theorem octet_eq (framer : L3Framer) (i : Nat) :
    framer.octet (framer.pos + i) = framer.window.getD i 0 := by
  rw [octet, window, List.getD_eq_getElem?_getD, List.getD_eq_getElem?_getD, List.getElem?_drop]

/-- Octets consumed leave the window, and what is pending. -/
theorem pending_drop (source : next.source = framer.source) (data : next.data = framer.data)
    {n : Nat} (pos : next.pos = framer.pos + n) (inside : n ≤ framer.buffered) :
    next.window = framer.window.drop n ∧ next.pending = framer.pending.drop n := by
  have window : next.window = framer.window.drop n := by
    rw [L3Framer.window, L3Framer.window, data, pos, List.drop_drop]
  refine ⟨window, ?_⟩
  rw [pending, pending, window, source,
    List.drop_append_of_le_length (by rw [window_length]; exact inside)]

/-! ## Fills -/

/-- Position and scan position after a fill. -/
structure Rebased (framer next : L3Framer) : Prop where
  cases : next.pos = framer.pos ∧ next.boundaryScanPos = framer.boundaryScanPos ∨
    next.pos = 0 ∧
      next.boundaryScanPos =
        if 0 < framer.boundaryScanPos then
          (framer.boundaryScanPos + 2 ^ 64 - framer.pos) % 2 ^ 64
        else 0

/-- A fill that appends a portion of the source to the window. -/
structure Filled (framer next : L3Framer) (got : Bool) (chunk : List UInt8) : Prop where
  config : next.config = framer.config
  window : next.window = framer.window ++ chunk
  rest : framer.source.rest = chunk ++ next.source.rest
  ready : framer.source.ready = if chunk = [] then [] else chunk ++ next.source.ready
  got : got = !chunk.isEmpty
  live : next.source.live = framer.source.live
  placed : next.pos ≤ next.data.length
  rebased : Rebased framer next
  bounded : next.data.length + next.source.rest.length ≤
    framer.data.length + framer.source.rest.length
  fewer : next.source.chunks.length ≤ framer.source.chunks.length
  empty : chunk = [] → framer.source.rest ≠ [] →
    next.source.chunks.length < framer.source.chunks.length

/-- Moving the data to the front does not change what is left of it. -/
theorem compact_window (framer : L3Framer) : framer.compact.window = framer.window := by
  rw [compact]
  split
  case isTrue => exact List.drop_zero
  case isFalse => rfl

/-- A fill moves a chunk of the source into the buffer. -/
theorem fillBuffer_filled (placed : framer.pos ≤ framer.data.length) :
    ∃ chunk, Filled framer framer.fillBuffer.1 framer.fillBuffer.2 chunk := by
  obtain ⟨middle, middle_eq⟩ : ∃ middle, middle = framer.compact.ensureCapacity := ⟨_, rfl⟩
  have capacity : middle.pos = framer.compact.pos ∧ middle.data = framer.compact.data ∧
      middle.boundaryScanPos = framer.compact.boundaryScanPos ∧
      middle.source = framer.compact.source ∧ middle.config = framer.compact.config ∧
      middle.data.length < middle.size := by
    rw [middle_eq, ensureCapacity]
    split
    case isTrue full =>
      refine ⟨rfl, rfl, rfl, rfl, rfl, ?_⟩
      simp only
      split <;> omega
    case isFalse room => exact ⟨rfl, rfl, rfl, rfl, rfl, not_le.mp room⟩
  have compacted : framer.compact.source = framer.source ∧
      framer.compact.config = framer.config ∧
      framer.compact.pos ≤ framer.compact.data.length ∧ Rebased framer framer.compact ∧
      framer.compact.data.length ≤ framer.data.length := by
    rw [compact]
    split
    case isTrue =>
      exact ⟨rfl, rfl, Nat.zero_le _, ⟨.inr ⟨rfl, rfl⟩⟩, List.length_drop .. ▸ Nat.sub_le ..⟩
    case isFalse => exact ⟨rfl, rfl, placed, ⟨.inl ⟨rfl, rfl⟩⟩, le_rfl⟩
  obtain ⟨pos, data, scan, source, config, room⟩ := capacity
  obtain ⟨same_source, same_config, inside, rebased, shorter⟩ := compacted
  have window : middle.window = framer.window := by
    rw [L3Framer.window, pos, data]
    exact compact_window framer
  have source := source.trans same_source
  have read := @ByteSource.read_spec middle.source (middle.size - middle.data.length) (by omega)
  have fill : framer.fillBuffer =
      ({ middle with
          source := (middle.source.read (middle.size - middle.data.length)).2
          data := middle.data ++ (middle.source.read (middle.size - middle.data.length)).1 },
        !(middle.source.read (middle.size - middle.data.length)).1.isEmpty) := by
    rw [middle_eq]
    rfl
  have ready := @ByteSource.read_ready middle.source (middle.size - middle.data.length) (by omega)
  obtain ⟨rest, live, fewer, empty⟩ := read
  have inside : middle.pos ≤ middle.data.length := by
    rw [pos, data]
    exact inside
  refine ⟨(middle.source.read (middle.size - middle.data.length)).1, ?_⟩
  rw [fill]
  refine ⟨config.trans same_config, ?_, ?_, ?_, rfl, ?_, ?_, ?_, ?_, ?_, ?_⟩
  · rw [← window]
    exact List.drop_append_of_le_length inside
  · rw [← source]
    exact rest
  · rw [← source]
    exact ready
  · rw [live, source]
  · rw [List.length_append]
    exact inside.trans (Nat.le_add_right ..)
  · refine ⟨?_⟩
    simp only [pos, scan]
    exact rebased.cases
  · have octets := congrArg List.length rest
    have same := congrArg List.length data
    rw [List.length_append] at octets
    simp only [← source, List.length_append]
    omega
  · rw [← source]
    exact fewer
  · rw [← source]
    exact empty

/-! ## Extractions -/

/-- What an extraction does to the framer: it takes a frame, gives up an octet, or
leaves the position. -/
structure Extracted (framer next : L3Framer) (result : Except ParseError ExtractedFrame) :
    Prop where
  source : next.source = framer.source
  config : next.config = framer.config
  data : next.data = framer.data
  placed : next.pos ≤ next.data.length
  frame : ∀ frame, result = .ok frame → framer.pos < next.pos
  skip : ∀ error, result = .error error → error.code = .invalidPD ∨ error.code = .invalidValue →
    next.pos = framer.pos + 1
  wait : ∀ error, result = .error error →
    ¬ (error.code = .invalidPD ∨ error.code = .invalidValue) → next.pos = framer.pos

namespace Extracted

theorem ok {frame : ExtractedFrame} (inside : next.pos ≤ framer.data.length)
    (further : framer.pos < next.pos) (source : next.source = framer.source)
    (config : next.config = framer.config) (data : next.data = framer.data) :
    Extracted framer next (.ok frame) :=
  ⟨source, config, data, by rw [data]; exact inside, fun _ _ => further, nofun, nofun⟩

/-- A skipped octet is an extraction without frame. -/
theorem skipped (inside : framer.pos < framer.data.length) {error : ParseError}
    (code : error.code = .invalidPD ∨ error.code = .invalidValue) :
    Extracted framer (framer.skipOctet error).1 (framer.skipOctet error).2 := by
  refine ⟨rfl, rfl, rfl, inside, nofun, fun _ _ _ => rfl, ?_⟩
  rintro _ ⟨⟩ other
  exact absurd code other

/-- A wait is an extraction that takes nothing. -/
theorem waited (placed : framer.pos ≤ framer.data.length) {error : ParseError}
    (code : ¬ (error.code = .invalidPD ∨ error.code = .invalidValue)) (scan : Nat) :
    Extracted framer { framer with boundaryScanPos := scan } (.error error) := by
  refine ⟨rfl, rfl, rfl, placed, nofun, ?_, fun _ _ _ => rfl⟩
  rintro _ ⟨⟩ other
  exact absurd other code

end Extracted

/-- What an extraction by length does. -/
theorem extractLength_extracted (placed : framer.pos ≤ framer.data.length) (atEof : Bool) :
    Extracted framer (framer.extractLength atEof).1 (framer.extractLength atEof).2 := by
  simp only [extractLength]
  split
  case isTrue => exact .waited placed (by simp) framer.boundaryScanPos
  case isFalse some_octet =>
    simp only [buffered, not_lt] at some_octet
    split
    case isTrue => exact .skipped (by omega) (.inr rfl)
    case isFalse =>
      split
      case isTrue => exact .waited placed (by cases atEof <;> simp) framer.boundaryScanPos
      case isFalse complete =>
        simp only [buffered, not_lt] at complete
        exact .ok (by simp only; omega) (by simp only; omega) rfl rfl rfl

/-- What taking a frame does. -/
theorem takeFrame_extracted (placed : framer.pos ≤ framer.data.length) {frameLen : Nat}
    (positive : 0 < frameLen) :
    Extracted framer (framer.takeFrame frameLen).1 (framer.takeFrame frameLen).2 := by
  simp only [takeFrame]
  split
  case isTrue => exact .waited placed (by simp) framer.boundaryScanPos
  case isFalse complete =>
    simp only [buffered, not_lt] at complete
    split
    case h_1 => exact .skipped (by omega) (.inl rfl)
    case h_2 => exact .ok (by simp only; omega) (by simp only; omega) rfl rfl rfl

/-- A boundary leaves two octets in front and a header behind. -/
theorem scanBoundary_some {frameLen : Nat} (found : framer.scanBoundary = some frameLen) :
    2 ≤ frameLen ∧ framer.pos + frameLen + 1 < framer.data.length := by
  obtain ⟨i, candidate, rfl⟩ := Option.map_eq_some_iff.mp found
  have inside := List.mem_range'_1.mp (List.mem_of_find?_eq_some candidate)
  omega

/-- What an extraction by header does. -/
theorem extractHeader_extracted (placed : framer.pos ≤ framer.data.length)
    (header : 2 ≤ framer.buffered) (atEof : Bool) :
    Extracted framer (framer.extractHeader atEof).1 (framer.extractHeader atEof).2 := by
  have room : framer.pos < framer.data.length := by
    rw [buffered] at header
    omega
  rw [extractHeader]
  split
  case isTrue =>
    split
    case isTrue => exact .waited placed (by simp) framer.boundaryScanPos
    case isFalse => exact takeFrame_extracted placed (by omega)
  case isFalse =>
    split
    case isTrue fixed => exact takeFrame_extracted placed (Nat.pos_of_ne_zero fixed)
    case isFalse =>
      split
      case h_1 => exact .waited placed (by simp) _
      case h_2 frameLen found =>
        split
        case isTrue => exact .skipped room (.inr rfl)
        case isFalse => exact takeFrame_extracted placed (by have := scanBoundary_some found; omega)

/-- What an extraction does. -/
theorem tryExtract_extracted (placed : framer.pos ≤ framer.data.length)
    (header : 2 ≤ framer.config.minHeaderLength) {atEof : Bool}
    {result : Except ParseError ExtractedFrame}
    (extraction : framer.tryExtract atEof = (next, result)) : Extracted framer next result := by
  have extracted : Extracted framer (framer.tryExtract atEof).1 (framer.tryExtract atEof).2 := by
    rw [tryExtract]
    split
    case isTrue => exact .waited placed (by cases atEof <;> simp) framer.boundaryScanPos
    case isFalse enough =>
      split
      case isTrue => exact extractLength_extracted placed atEof
      case isFalse => exact extractHeader_extracted placed (by omega) atEof
  rwa [extraction] at extracted

/-! ## Rounds -/

/-- The code of an error after which `nextFrame` goes round at once. -/
def Resync (error : ParseError) : Prop :=
  error.code = .invalidPD ∨ error.code = .invalidValue

/-- The ways a round can go. -/
inductive Rounds (framer : L3Framer) :
    L3Framer → Option (Except ParseError ExtractedFrame) → Prop where
  | found {next : L3Framer} {frame : ExtractedFrame} :
      framer.tryExtract false = (next, .ok frame) → Rounds framer next (some (.ok frame))
  | skipped {next : L3Framer} {error : ParseError} :
      framer.tryExtract false = (next, .error error) → Resync error → Rounds framer next none
  | filled {middle next : L3Framer} {error : ParseError} {chunk : List UInt8} :
      framer.tryExtract false = (middle, .error error) → ¬ Resync error →
      Filled middle next true chunk → Rounds framer next none
  | stalled {middle next : L3Framer} {error : ParseError} :
      framer.tryExtract false = (middle, .error error) → ¬ Resync error →
      Filled middle next false [] → next.source.atEof = false →
      Rounds framer next (some (.error noDataYet))
  | tail {middle next last : L3Framer} {error : ParseError} {frame : ExtractedFrame} :
      framer.tryExtract false = (middle, .error error) → ¬ Resync error →
      Filled middle next false [] → next.source.atEof = true →
      next.tryExtract true = (last, .ok frame) → Rounds framer last (some (.ok frame))
  | ended {middle next last : L3Framer} {error error' : ParseError} :
      framer.tryExtract false = (middle, .error error) → ¬ Resync error →
      Filled middle next false [] → next.source.atEof = true →
      next.tryExtract true = (last, .error error') →
      Rounds framer last (some (.error sourceExhausted))

/-- What a round does. -/
theorem round_rounds (placed : framer.pos ≤ framer.data.length)
    (header : 2 ≤ framer.config.minHeaderLength) :
    Rounds framer framer.round.1 framer.round.2 := by
  rw [round]
  cases extraction : framer.tryExtract false with
  | mk middle result =>
      cases result with
      | ok frame => exact .found extraction
      | error error =>
          have extracted := tryExtract_extracted placed header extraction
          obtain ⟨chunk, filled⟩ := fillBuffer_filled extracted.placed
          simp only
          split
          case isTrue resync => exact .skipped extraction resync
          case isFalse wait =>
            have got := filled.got
            cases fill : middle.fillBuffer with
            | mk next got' =>
                rw [fill] at filled got
                simp only at filled got ⊢
                cases got' with
                | true => exact .filled extraction wait filled
                | false =>
                    obtain rfl : chunk = [] := by simpa using got.symm
                    simp only
                    split
                    case isTrue eof =>
                      cases last : next.tryExtract true with
                      | mk last result =>
                          cases result with
                          | ok tail => exact .tail extraction wait filled eof last
                          | error error' => exact .ended extraction wait filled eof last
                    case isFalse live =>
                      exact .stalled extraction wait filled (Bool.eq_false_iff.mpr live)

/-! ## Termination -/

/-- A measure of the rounds left: octets in the window count once, octets of the
source twice, and portions once. -/
def work (framer : L3Framer) : Nat :=
  framer.buffered + 2 * framer.source.rest.length + framer.source.chunks.length

theorem Filled.buffered {got : Bool} {chunk : List UInt8} (filled : Filled framer next got chunk) :
    next.buffered = framer.buffered + chunk.length := by
  rw [← window_length, ← window_length, filled.window, List.length_append]

theorem Filled.rest_length {got : Bool} {chunk : List UInt8}
    (filled : Filled framer next got chunk) :
    framer.source.rest.length = chunk.length + next.source.rest.length := by
  rw [filled.rest, List.length_append]

/-- A finite source has ended when nothing is left of it. -/
theorem atEof_iff (framer : L3Framer) (finite : framer.source.live = false) :
    framer.source.atEof = true ↔ framer.source.rest = [] := by
  rw [ByteSource.atEof, finite, Bool.not_false, Bool.true_and, List.isEmpty_iff]

/-- An extraction does as much work as it moves. -/
theorem Extracted.work {result : Except ParseError ExtractedFrame}
    (extracted : Extracted framer next result) (placed : framer.pos ≤ framer.data.length) :
    next.work + next.pos = framer.work + framer.pos := by
  have inside := extracted.placed
  rw [extracted.data] at inside
  rw [L3Framer.work, L3Framer.work, L3Framer.buffered, L3Framer.buffered, extracted.source,
    extracted.data]
  omega

/-- A fill costs the octets it moves. -/
theorem Filled.work {got : Bool} {chunk : List UInt8} (filled : Filled framer next got chunk) :
    next.work + chunk.length ≤ framer.work := by
  have buffered := filled.buffered
  have rest := filled.rest_length
  have fewer := filled.fewer
  rw [L3Framer.work, L3Framer.work]
  omega

/-- A round of a framer over a finite source leaves fewer rounds, or the source is
exhausted. -/
theorem round_work (placed : framer.pos ≤ framer.data.length)
    (header : 2 ≤ framer.config.minHeaderLength) (finite : framer.source.live = false)
    {target : L3Framer} {result : Option (Except ParseError ExtractedFrame)}
    (rounds : Rounds framer target result) :
    target.pos ≤ target.data.length ∧ target.config = framer.config ∧
      target.source.live = false ∧
      (target.work < framer.work ∨ result = some (.error sourceExhausted)) := by
  -- an extraction that waits leaves the work as it is
  have waits : ∀ {middle error}, framer.tryExtract false = (middle, .error error) →
      ¬ Resync error → Extracted framer middle (.error error) ∧ middle.work = framer.work := by
    intro middle error extraction wait
    have extracted := tryExtract_extracted placed header extraction
    have same := extracted.work placed
    rw [extracted.wait error rfl wait] at same
    exact ⟨extracted, by omega⟩
  cases rounds with
  | found extraction =>
      have extracted := tryExtract_extracted placed header extraction
      have less := extracted.work placed
      have further := extracted.frame _ rfl
      refine ⟨extracted.placed, extracted.config, ?_, .inl (by omega)⟩
      rw [extracted.source, finite]
  | skipped extraction resync =>
      have extracted := tryExtract_extracted placed header extraction
      have less := extracted.work placed
      have further := extracted.skip _ rfl resync
      refine ⟨extracted.placed, extracted.config, ?_, .inl (by omega)⟩
      rw [extracted.source, finite]
  | filled extraction wait filled =>
      obtain ⟨extracted, same⟩ := waits extraction wait
      have less := filled.work
      rename_i middle error chunk
      have some_octets : 0 < chunk.length := by
        have got := filled.got
        cases chunk with
        | nil => cases got
        | cons => exact Nat.succ_pos _
      refine ⟨filled.placed, filled.config.trans extracted.config, ?_, .inl (by omega)⟩
      rw [filled.live, extracted.source, finite]
  | stalled extraction wait filled stalled =>
      obtain ⟨extracted, same⟩ := waits extraction wait
      have live : target.source.live = false := by
        rw [filled.live, extracted.source, finite]
      have more : target.source.rest ≠ [] := fun empty => by
        rw [(atEof_iff target live).mpr empty] at stalled
        cases stalled
      have rest := filled.rest
      rw [List.nil_append] at rest
      have fewer := filled.empty rfl (by rw [rest]; exact more)
      have buffered := filled.buffered
      rw [List.length_nil, Nat.add_zero] at buffered
      refine ⟨filled.placed, filled.config.trans extracted.config, live, .inl ?_⟩
      rw [← same, work, work, rest, buffered]
      omega
  | tail extraction wait filled eof last =>
      obtain ⟨extracted, same⟩ := waits extraction wait
      have config := filled.config.trans extracted.config
      have ending := tryExtract_extracted filled.placed (by rw [config]; exact header) last
      have less := ending.work filled.placed
      have further := ending.frame _ rfl
      have before := filled.work
      refine ⟨ending.placed, ending.config.trans config, ?_, .inl (by omega)⟩
      rw [ending.source, filled.live, extracted.source, finite]
  | ended extraction wait filled eof last =>
      obtain ⟨extracted, same⟩ := waits extraction wait
      have config := filled.config.trans extracted.config
      have ending := tryExtract_extracted filled.placed (by rw [config]; exact header) last
      refine ⟨ending.placed, ending.config.trans config, ?_, .inr rfl⟩
      rw [ending.source, filled.live, extracted.source, finite]

end L3Framer

namespace Reading

open L3Framer

theorem after_framer (reading : Reading) (framer : L3Framer)
    (result : Option (Except ParseError ExtractedFrame)) :
    (reading.after framer result).framer = framer := by
  rcases result with _ | (_ | _) <;> rfl

/-- Reading a finite source comes to an end. -/
theorem finishes {reading : Reading} (placed : reading.framer.pos ≤ reading.framer.data.length)
    (header : 2 ≤ reading.framer.config.minHeaderLength)
    (finite : reading.framer.source.live = false) :
    ∃ events target, machine.exec (fun _ _ _ => True) reading events = some target ∧
      target.finished = true := by
  induction amount : reading.framer.work using Nat.strong_induction_on generalizing reading with
  | _ amount ih =>
      by_cases finished : reading.finished = true
      · exact ⟨[], reading, rfl, finished⟩
      · obtain ⟨inside, config, live, less⟩ :=
          round_work placed header finite (round_rounds placed header)
        obtain ⟨next, next_eq⟩ : ∃ next, next =
            reading.after reading.framer.round.1 reading.framer.round.2 := ⟨_, rfl⟩
        have framer : next.framer = reading.framer.round.1 := by
          rw [next_eq, after_framer]
        have ends : reading.framer.round.2 = some (.error sourceExhausted) →
            next.finished = true := by
          intro exhausted
          rw [next_eq, exhausted]
          rfl
        have stepped : reading.step = some next := by
          rw [step, if_neg finished, next_eq]
        have first : ∀ events, machine.exec (fun _ _ _ => True) reading (() :: events) =
            machine.exec (fun _ _ _ => True) next events := by
          intro events
          simp only [Foundation.Machine.exec, machine, stepped, Option.bind_some, if_true]
        rcases less with less | exhausted
        · obtain ⟨events, target, executed, finished⟩ := ih next.framer.work
            (by rw [framer, ← amount]; exact less) (by rw [framer]; exact inside)
            (by rw [framer, config]; exact header) (by rw [framer]; exact live) rfl
          exact ⟨() :: events, target, (first events).trans executed, finished⟩
        · exact ⟨[()], next, first [], ends exhausted⟩

end Reading

/-! ## Framers that cut a stream as a function does -/

namespace L3Framer

/-- Under the invariant the framer cuts what is pending as `cut` does: it takes the
next frame, gives up an octet without effect, waits for octets that come, or ends.
Waiting keeps the invariant where the framer is `tidy`. -/
structure Cuts (cut : List UInt8 → List (List UInt8)) (tidy inv : L3Framer → Prop) : Prop where
  placed : ∀ {framer}, inv framer → framer.pos ≤ framer.data.length
  header : ∀ {framer}, inv framer → 2 ≤ framer.config.minHeaderLength
  finite : ∀ {framer}, inv framer → framer.source.live = false
  found : ∀ {framer next frame}, inv framer → framer.tryExtract false = (next, .ok frame) →
    inv next ∧ cut framer.pending = frame.data :: cut next.pending
  skipped : ∀ {framer next error}, inv framer → framer.tryExtract false = (next, .error error) →
    Resync error → inv next ∧ cut framer.pending = cut next.pending
  filled : ∀ {framer middle next error got chunk}, inv framer → tidy framer →
    framer.tryExtract false = (middle, .error error) → ¬ Resync error →
    Filled middle next got chunk → framer.source.rest ≠ [] → inv next
  ended : ∀ {framer middle next last error result}, inv framer →
    framer.tryExtract false = (middle, .error error) → ¬ Resync error →
    Filled middle next false [] → framer.source.rest = [] →
    next.tryExtract true = (last, result) →
    match result with
    | .ok tail => inv last ∧ cut framer.pending = tail.data :: cut last.pending
    | .error _ => cut framer.pending = []

end L3Framer

namespace Reading

open L3Framer

variable {cut : List UInt8 → List (List UInt8)} {tidy inv : L3Framer → Prop}

/-- The frames got so far are the first ones of the stream, the others are still
pending. -/
structure Progress (cut : List UInt8 → List (List UInt8)) (inv : L3Framer → Prop)
    (stream : List UInt8) (reading : Reading) : Prop where
  unfinished : reading.finished = false →
    inv reading.framer ∧
      reading.frames.map ExtractedFrame.data ++ cut reading.framer.pending = cut stream
  finished : reading.finished = true → reading.frames.map ExtractedFrame.data = cut stream

theorem Progress.after (cuts : Cuts cut tidy inv) {stream : List UInt8} {reading : Reading}
    (reads : reading.finished = false) (holds : inv reading.framer)
    (frames : reading.frames.map ExtractedFrame.data ++ cut reading.framer.pending = cut stream)
    (clean : tidy reading.framer) {target : L3Framer}
    {result : Option (Except ParseError ExtractedFrame)}
    (rounds : Rounds reading.framer target result) :
    Progress cut inv stream (reading.after target result) := by
  have finite := cuts.finite holds
  -- what is left of the stream does not change while the framer waits
  have waits : ∀ {middle next error got chunk},
      reading.framer.tryExtract false = (middle, .error error) → ¬ Resync error →
      Filled middle next got chunk →
      next.source.live = false ∧ reading.framer.source.rest = chunk ++ next.source.rest ∧
        next.pending = reading.framer.pending := by
    intro middle next error got chunk extraction wait filled
    have extracted := tryExtract_extracted (cuts.placed holds) (cuts.header holds) extraction
    have pos := extracted.wait error rfl wait
    have window : middle.window = reading.framer.window := by
      rw [L3Framer.window, L3Framer.window, pos, extracted.data]
    have rest : reading.framer.source.rest = chunk ++ next.source.rest := by
      rw [← extracted.source]
      exact filled.rest
    refine ⟨by rw [filled.live, extracted.source, finite], rest, ?_⟩
    rw [pending, pending, filled.window, window, rest, List.append_assoc]
  cases rounds with
  | found extraction =>
      obtain ⟨kept, cut_eq⟩ := cuts.found holds extraction
      refine ⟨fun _ => ⟨kept, ?_⟩, fun finished => absurd (reads.symm.trans finished) nofun⟩
      rw [← frames, cut_eq, Reading.after, List.map_append, List.append_assoc]
      rfl
  | skipped extraction resync =>
      obtain ⟨kept, cut_eq⟩ := cuts.skipped holds extraction resync
      refine ⟨fun _ => ⟨kept, ?_⟩, fun finished => absurd (reads.symm.trans finished) nofun⟩
      rw [← frames, cut_eq]
      rfl
  | filled extraction wait filled =>
      obtain ⟨-, rest, pending⟩ := waits extraction wait filled
      have more : reading.framer.source.rest ≠ [] := by
        have got := filled.got
        rename_i middle error chunk
        cases chunk with
        | nil => cases got
        | cons =>
            rw [rest, List.cons_append]
            exact List.cons_ne_nil _ _
      refine ⟨fun _ => ⟨cuts.filled holds clean extraction wait filled more, ?_⟩,
        fun finished => absurd (reads.symm.trans finished) nofun⟩
      rw [← frames, ← pending]
      rfl
  | stalled extraction wait filled stalled =>
      obtain ⟨live, rest, pending⟩ := waits extraction wait filled
      have more : reading.framer.source.rest ≠ [] := by
        intro empty
        rw [rest, List.nil_append] at empty
        rw [(atEof_iff target live).mpr empty] at stalled
        cases stalled
      refine ⟨fun _ => ⟨cuts.filled holds clean extraction wait filled more, ?_⟩,
        fun finished => absurd finished nofun⟩
      rw [← frames, ← pending]
      rfl
  | tail extraction wait filled eof last =>
      obtain ⟨live, rest, -⟩ := waits extraction wait filled
      rw [(atEof_iff _ live).mp eof, List.nil_append] at rest
      obtain ⟨kept, cut_eq⟩ := cuts.ended holds extraction wait filled rest last
      refine ⟨fun _ => ⟨kept, ?_⟩, fun finished => absurd (reads.symm.trans finished) nofun⟩
      rw [← frames, cut_eq, Reading.after, List.map_append, List.append_assoc]
      rfl
  | ended extraction wait filled eof last =>
      obtain ⟨live, rest, -⟩ := waits extraction wait filled
      rw [(atEof_iff _ live).mp eof, List.nil_append] at rest
      have cut_eq := cuts.ended holds extraction wait filled rest last
      refine ⟨fun reads => absurd reads nofun, fun _ => ?_⟩
      rw [← frames, cut_eq, List.append_nil]
      rfl

/-- A step of a clean framer goes on in the stream. -/
theorem Progress.step (cuts : Cuts cut tidy inv) {stream : List UInt8} {reading target : Reading}
    (progress : Progress cut inv stream reading) (clean : tidy reading.framer)
    (stepped : reading.step = some target) : Progress cut inv stream target := by
  rw [Reading.step] at stepped
  split at stepped
  case isTrue => cases stepped
  case isFalse reads =>
    obtain rfl := Option.some.inj stepped
    have reads := Bool.eq_false_iff.mpr reads
    obtain ⟨holds, frames⟩ := progress.unfinished reads
    exact .after cuts reads holds frames clean
      (round_rounds (cuts.placed holds) (cuts.header holds))

/-- Along a run that is tidy wherever it waits, the frames are those of the
function. -/
theorem run_progress (cuts : Cuts cut tidy inv) {origin : Reading} {stream : List UInt8}
    (start : Progress cut inv stream origin) {events : List Unit} {reading : Reading}
    (run : machine.Run (fun source _ _ => tidy source.framer) origin events reading) :
    Progress cut inv stream reading := by
  refine run.invariant (fun _ reading => Progress cut inv stream reading) start ?_
  intro past source target event progress stepped clean
  exact progress.step cuts clean stepped

end Reading

end Bitstream

end Gsml3
