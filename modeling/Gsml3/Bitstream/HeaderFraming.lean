import Gsml3.Bitstream.Framing

/-!
# Frames found by their headers

`headerFrames` is the grammar the buffered framer follows in header mode: a
message of fixed length, or the octets up to the next plausible header.  The
framer follows it however the source portions its reads, except where a scan
stops on a plausible octet at the end of the buffer: the cached scan position
then lies behind that octet, which is never looked at again.
-/

namespace Gsml3

namespace Bitstream

/-! ## Octets -/

section Octets

/-- A plausible octet has none of the reserved discriminators. -/
theorem plausibleHeader_iff (octet : UInt8) :
    plausibleHeader octet = true ↔
      ¬ (discriminator octet = 0x02 ∨ discriminator octet = 0x04 ∨ discriminator octet = 0x07) := by
  have narrow : discriminator octet < 16 :=
    Nat.and_lt_two_pow octet.toNat (by decide : 0x0F < 2 ^ 4)
  have all : ∀ pd < 16,
      [0x00, 0x01, 0x03, 0x05, 0x06, 0x08, 0x09, 0x0a, 0x0b, 0x0c, 0x0d, 0x0e, 0x0f].contains pd =
        true ↔ ¬ (pd = 0x02 ∨ pd = 0x04 ∨ pd = 0x07) := by decide
  exact all (discriminator octet) narrow

/-- A header is accepted for its first octet. -/
theorem parseL3Header_isOk {data : List UInt8} (header : 2 ≤ data.length) :
    (parseL3Header data).isOk = plausibleHeader (data.getD 0 0) := by
  have accepts := plausibleHeader_iff (data.getD 0 0)
  rw [parseL3Header, if_neg (not_lt.mpr header)]
  by_cases reserved : plausibleHeader (data.getD 0 0) = true
  · simp only [if_neg (accepts.mp reserved), reserved]
    rfl
  · simp only [if_pos (not_not.mp (mt accepts.mpr reserved)), Bool.eq_false_iff.mpr reserved]
    rfl

/-- Messages of fixed length have two octets or more and no reserved
discriminator. -/
theorem fixedFrameLength_spec {pd mti : Nat} (fixed : fixedFrameLength pd mti ≠ 0) :
    2 ≤ fixedFrameLength pd mti ∧ ¬ (pd = 0x02 ∨ pd = 0x04 ∨ pd = 0x07) := by
  rw [fixedFrameLength] at fixed ⊢
  split at fixed
  case h_2 => exact absurd rfl fixed
  case h_1 entry found =>
    have known : ∀ entry ∈ fixedFrameEntries, entry.2.2 ≠ 0 →
        2 ≤ entry.2.2 ∧ ¬ (entry.1 = 0x02 ∨ entry.1 = 0x04 ∨ entry.1 = 0x07) := by decide
    have same := List.find?_some found
    rw [Bool.and_eq_true, beq_iff_eq, beq_iff_eq] at same
    rw [← same.1]
    exact known entry (List.mem_of_find?_eq_some found) fixed

end Octets

/-! ## The grammar -/

section Grammar

/-- The fixed length of the message the octets start with. -/
def headerLength (octets : List UInt8) : Nat :=
  fixedFrameLength (discriminator (octets.getD 0 0))
    (internalMti (octets.getD 0 0) (octets.getD 1 0))

/-- A fixed message has a plausible header of two octets. -/
theorem headerLength_spec {octets : List UInt8} (fixed : headerLength octets ≠ 0) :
    2 ≤ headerLength octets ∧ plausibleHeader (octets.getD 0 0) = true := by
  obtain ⟨two, valid⟩ := fixedFrameLength_spec fixed
  exact ⟨two, (plausibleHeader_iff _).mpr valid⟩

/-- Where the next plausible header is, with an octet behind it. -/
def nextHeader (maxLength : Nat) (octets : List UInt8) : Option Nat :=
  (List.range' 2 (min (octets.length - 1) (2 + maxLength) - 2)).find? fun i =>
    plausibleHeader (octets.getD i 0)

/-- The first plausible header behind the first two octets, within the bound. -/
theorem nextHeader_some {maxLength n : Nat} {octets : List UInt8} :
    nextHeader maxLength octets = some n ↔
      2 ≤ n ∧ n < min (octets.length - 1) (2 + maxLength) ∧
        plausibleHeader (octets.getD n 0) = true ∧
        ∀ i, 2 ≤ i → i < n → plausibleHeader (octets.getD i 0) = false := by
  rw [nextHeader, List.find?_range'_eq_some, List.mem_range'_1]
  simp only [Bool.not_eq_true']
  constructor
  · rintro ⟨found, inside, first⟩
    exact ⟨inside.1, by omega, found, first⟩
  · rintro ⟨low, high, found, first⟩
    exact ⟨found, ⟨low, by omega⟩, first⟩

/-- No plausible header within the bound. -/
theorem nextHeader_none {maxLength : Nat} {octets : List UInt8} :
    nextHeader maxLength octets = none ↔
      ∀ i, 2 ≤ i → i < min (octets.length - 1) (2 + maxLength) →
        plausibleHeader (octets.getD i 0) = false := by
  rw [nextHeader, List.find?_range'_eq_none]
  simp only [Bool.not_eq_true']
  constructor
  · exact fun none i low high => none i low (by omega)
  · exact fun none i low high => none i low (by omega)

/-- What to do with a stream: end, take all of it or a frame, or give up an octet. -/
inductive HeaderCut where
  | stop
  | tail
  | frame (n : Nat)
  | skip
deriving DecidableEq, Repr

/-- Without a boundary the rest is the last frame, if it is not too long. -/
def tailCut (maxLength : Nat) (octets : List UInt8) : HeaderCut :=
  if octets.length ≤ maxLength ∧ plausibleHeader (octets.getD 0 0) = true then .tail else .stop

/-- A complete message of fixed length is a frame, and so are the octets up to the
next header, if it is near enough and the first octet is plausible. -/
def headerCut (maxLength : Nat) (octets : List UInt8) : HeaderCut :=
  if octets.length < 2 then .stop
  else if headerLength octets ≠ 0 then
    if headerLength octets ≤ octets.length then .frame (headerLength octets)
    else tailCut maxLength octets
  else
    match nextHeader maxLength octets with
    | none => tailCut maxLength octets
    | some n =>
        if n ≤ maxLength ∧ plausibleHeader (octets.getD 0 0) = true then .frame n else .skip

variable {maxLength n : Nat} {octets : List UInt8}

theorem headerCut_of_header (header : 2 ≤ octets.length) :
    headerCut maxLength octets =
      if headerLength octets ≠ 0 then
        if headerLength octets ≤ octets.length then .frame (headerLength octets)
        else tailCut maxLength octets
      else
        match nextHeader maxLength octets with
        | none => tailCut maxLength octets
        | some n =>
            if n ≤ maxLength ∧ plausibleHeader (octets.getD 0 0) = true then .frame n else .skip :=
  if_neg (not_lt.mpr header)

theorem tailCut_cases (maxLength : Nat) (octets : List UInt8) :
    tailCut maxLength octets = .tail ∨ tailCut maxLength octets = .stop := by
  rw [tailCut]
  split
  · exact .inl rfl
  · exact .inr rfl

/-- A frame that is cut has a plausible header and is there. -/
theorem headerCut_frame (cut : headerCut maxLength octets = .frame n) :
    2 ≤ n ∧ n ≤ octets.length ∧ plausibleHeader (octets.getD 0 0) = true := by
  have not_tail : tailCut maxLength octets ≠ .frame n := by
    rcases tailCut_cases maxLength octets with tail | tail <;> rw [tail] <;> nofun
  rw [headerCut] at cut
  split at cut
  case isTrue => cases cut
  case isFalse =>
    split at cut
    case isTrue fixed =>
      split at cut
      case isTrue complete =>
        obtain rfl := HeaderCut.frame.inj cut
        obtain ⟨two, valid⟩ := headerLength_spec fixed
        exact ⟨two, complete, valid⟩
      case isFalse => exact absurd cut not_tail
    case isFalse =>
      split at cut
      case h_1 => exact absurd cut not_tail
      case h_2 i boundary =>
        split at cut
        case isTrue valid =>
          obtain rfl := HeaderCut.frame.inj cut
          have inside := nextHeader_some.mp boundary
          exact ⟨inside.1, by omega, valid.2⟩
        case isFalse => cases cut

/-- An octet is skipped only when three more follow it. -/
theorem headerCut_skip (cut : headerCut maxLength octets = .skip) :
    headerLength octets = 0 ∧ 4 ≤ octets.length := by
  have not_tail : tailCut maxLength octets ≠ .skip := by
    rcases tailCut_cases maxLength octets with tail | tail <;> rw [tail] <;> nofun
  rw [headerCut] at cut
  split at cut
  case isTrue => cases cut
  case isFalse =>
    split at cut
    case isTrue =>
      split at cut
      case isTrue => cases cut
      case isFalse => exact absurd cut not_tail
    case isFalse variable_length =>
      split at cut
      case h_1 => exact absurd cut not_tail
      case h_2 i boundary =>
        have inside := nextHeader_some.mp boundary
        exact ⟨not_not.mp variable_length, by omega⟩

/-- A tail has a plausible header. -/
theorem headerCut_tail (cut : headerCut maxLength octets = .tail) :
    plausibleHeader (octets.getD 0 0) = true := by
  have valid : tailCut maxLength octets = .tail → plausibleHeader (octets.getD 0 0) = true := by
    intro tail
    rw [tailCut] at tail
    split at tail
    case isTrue fits => exact fits.2
    case isFalse => cases tail
  rw [headerCut] at cut
  split at cut
  case isTrue => cases cut
  case isFalse =>
    split at cut
    case isTrue =>
      split at cut
      case isTrue => cases cut
      case isFalse => exact valid cut
    case isFalse =>
      split at cut
      case h_1 => exact valid cut
      case h_2 => split at cut <;> cases cut

/-- The frames of a stream in header mode. -/
def headerFrames (maxLength : Nat) (octets : List UInt8) : List (List UInt8) :=
  match _cut : headerCut maxLength octets with
  | .stop => []
  | .tail => [octets]
  | .frame n => octets.take n :: headerFrames maxLength (octets.drop n)
  | .skip => headerFrames maxLength (octets.drop 1)
termination_by octets.length
decreasing_by
  · have bounds := headerCut_frame ‹_›
    rw [List.length_drop]
    omega
  · have bounds := headerCut_skip ‹_›
    rw [List.length_drop]
    omega

theorem headerFrames_stop (cut : headerCut maxLength octets = .stop) :
    headerFrames maxLength octets = [] := by
  rw [headerFrames]
  split <;> simp_all

theorem headerFrames_tail (cut : headerCut maxLength octets = .tail) :
    headerFrames maxLength octets = [octets] := by
  rw [headerFrames]
  split <;> simp_all

/-- A frame is followed by the frames behind it. -/
theorem headerFrames_frame (cut : headerCut maxLength octets = .frame n) :
    headerFrames maxLength octets = octets.take n :: headerFrames maxLength (octets.drop n) := by
  rw [headerFrames]
  split <;> simp_all

/-- A skipped octet leaves the frames of the rest. -/
theorem headerFrames_skip (cut : headerCut maxLength octets = .skip) :
    headerFrames maxLength octets = headerFrames maxLength (octets.drop 1) := by
  rw [headerFrames]
  split <;> simp_all

/-! More octets change neither a frame nor an octet given up. -/

theorem getD_append_left {rest : List UInt8} {i : Nat} (inside : i < octets.length) :
    (octets ++ rest).getD i 0 = octets.getD i 0 := by
  rw [List.getD_eq_getElem?_getD, List.getD_eq_getElem?_getD, List.getElem?_append_left inside]

/-- The length of a fixed message does not depend on what follows. -/
theorem headerLength_append (header : 2 ≤ octets.length) (rest : List UInt8) :
    headerLength (octets ++ rest) = headerLength octets := by
  rw [headerLength, headerLength, getD_append_left (by omega), getD_append_left (by omega)]

/-- A boundary that was found stays. -/
theorem nextHeader_append (boundary : nextHeader maxLength octets = some n) (rest : List UInt8) :
    nextHeader maxLength (octets ++ rest) = some n := by
  obtain ⟨low, high, found, first⟩ := nextHeader_some.mp boundary
  rw [nextHeader_some, List.length_append]
  refine ⟨low, by omega, ?_, fun i from_two before => ?_⟩
  · rw [getD_append_left (by omega), found]
  · rw [getD_append_left (by omega), first i from_two before]

/-- A decision that was taken stays. -/
theorem headerCut_append (cut : headerCut maxLength octets = .frame n ∨
    headerCut maxLength octets = .skip) (rest : List UInt8) :
    headerCut maxLength (octets ++ rest) = headerCut maxLength octets := by
  have header : 2 ≤ octets.length := by
    rcases cut with cut | cut
    · have bounds := headerCut_frame cut
      omega
    · have bounds := headerCut_skip cut
      omega
  have not_tail : tailCut maxLength octets ≠ .frame n ∧ tailCut maxLength octets ≠ .skip := by
    rcases tailCut_cases maxLength octets with tail | tail <;> rw [tail] <;> exact ⟨nofun, nofun⟩
  rw [headerCut_of_header header] at cut ⊢
  rw [headerCut_of_header (header.trans (by rw [List.length_append]; omega)),
    headerLength_append header, getD_append_left (by omega)]
  by_cases fixed : headerLength octets ≠ 0
  · rw [if_pos fixed] at cut
    rw [if_pos fixed, if_pos fixed]
    by_cases complete : headerLength octets ≤ octets.length
    · rw [if_pos complete, if_pos (complete.trans (by rw [List.length_append]; omega))]
    · rw [if_neg complete] at cut
      exact absurd cut (not_or.mpr not_tail)
  · rw [if_neg fixed] at cut
    rw [if_neg fixed, if_neg fixed]
    cases boundary : nextHeader maxLength octets with
    | none =>
        rw [boundary] at cut
        exact absurd cut (not_or.mpr not_tail)
    | some i => rw [nextHeader_append boundary]

end Grammar

/-! ## The buffered framer -/

namespace L3Framer

variable {framer next : L3Framer} {maxLength : Nat}

theorem fixedLength_eq (framer : L3Framer) : framer.fixedLength = headerLength framer.window := by
  have first := framer.octet_eq 0
  rw [Nat.add_zero] at first
  rw [fixedLength, headerLength, first, framer.octet_eq 1]

/-- The octets of the window before the cached scan position cannot start a frame. -/
def Scanned (framer : L3Framer) : Prop :=
  ∀ i, 2 ≤ i → framer.pos + i < framer.boundaryScanPos →
    i < framer.window.length ∧ plausibleHeader (framer.window.getD i 0) = false

/-- A framer by headers over a finite source.  The cached scan position is unset or
valid, unless the window starts with a message of fixed length: then it is not
used. -/
structure ByHeader (maxLength : Nat) (framer : L3Framer) : Prop where
  placed : framer.pos ≤ framer.data.length
  config : framer.config = { useL2Length := false, maxMessageLength := maxLength }
  finite : framer.source.live = false
  bounded : framer.data.length + framer.source.rest.length + 2 + maxLength < 2 ^ 64
  scanned : framer.boundaryScanPos = 0 ∨
    2 ≤ framer.window.length ∧ (headerLength framer.window ≠ 0 ∨ framer.Scanned)

namespace ByHeader

theorem scanLimit (byHeader : ByHeader maxLength framer) :
    framer.scanLimit = framer.pos + 2 + maxLength := by
  have placed := byHeader.placed
  have bounded := byHeader.bounded
  rw [L3Framer.scanLimit, byHeader.config]
  exact Nat.mod_eq_of_lt (by simp only; omega)

/-- Before the cached position there is no boundary. -/
theorem before_scan (byHeader : ByHeader maxLength framer)
    (unfixed : headerLength framer.window = 0) : framer.Scanned := by
  rcases byHeader.scanned with unset | ⟨-, fixed | scanned⟩
  · intro i _ before
    rw [unset] at before
    omega
  · exact absurd unfixed fixed
  · exact scanned

/-- A scan finds the next header of the window. -/
theorem scanBoundary_eq (byHeader : ByHeader maxLength framer)
    (unfixed : headerLength framer.window = 0) :
    framer.scanBoundary = nextHeader maxLength framer.window := by
  have scanned := byHeader.before_scan unfixed
  have limit := byHeader.scanLimit
  have length : framer.window.length = framer.data.length - framer.pos := window_length framer
  have octet : ∀ i, framer.pos ≤ i →
      framer.octet i = framer.window.getD (i - framer.pos) 0 := by
    intro i behind
    rw [← framer.octet_eq, Nat.add_sub_cancel' behind]
  rw [scanBoundary, limit]
  cases boundary : nextHeader maxLength framer.window with
  | none =>
      have none := nextHeader_none.mp boundary
      rw [Option.map_eq_none_iff, List.find?_range'_eq_none]
      intro i low high
      rw [octet i (by omega), none (i - framer.pos) (by omega) (by omega)]
      rfl
  | some n =>
      obtain ⟨low, high, found, first⟩ := nextHeader_some.mp boundary
      have unscanned : framer.boundaryScanPos ≤ framer.pos + n := by
        by_contra before
        rw [(scanned n low (not_le.mp before)).2] at found
        cases found
      refine Option.map_eq_some_iff.mpr ⟨framer.pos + n, ?_, Nat.add_sub_cancel_left ..⟩
      rw [List.find?_range'_eq_some, List.mem_range'_1]
      refine ⟨?_, by omega, fun i from_start before => ?_⟩
      · rw [framer.octet_eq, found]
      · rw [octet i (by omega), first (i - framer.pos) (by omega) (by omega)]
        rfl

end ByHeader

/-- The ways an extraction by headers goes before the source is at its end, by what
the grammar makes of the window. -/
inductive HeaderExtraction (maxLength : Nat) (framer : L3Framer) :
    L3Framer → Except ParseError ExtractedFrame → Prop where
  | short {error : ParseError} : ¬ Resync error → framer.window.length < 2 →
      HeaderExtraction maxLength framer framer (.error error)
  | incomplete {error : ParseError} : ¬ Resync error → 2 ≤ framer.window.length →
      headerLength framer.window ≠ 0 → framer.window.length < headerLength framer.window →
      HeaderExtraction maxLength framer framer (.error error)
  | unbounded {error : ParseError} : ¬ Resync error → 2 ≤ framer.window.length →
      headerLength framer.window = 0 → nextHeader maxLength framer.window = none →
      HeaderExtraction maxLength framer
        { framer with boundaryScanPos := min framer.data.length framer.scanLimit }
        (.error error)
  | skip {error : ParseError} : Resync error → headerCut maxLength framer.window = .skip →
      HeaderExtraction maxLength framer { framer with pos := framer.pos + 1 } (.error error)
  | frame {next : L3Framer} {frame : ExtractedFrame} {n : Nat} :
      headerCut maxLength framer.window = .frame n → frame.data = framer.window.take n →
      next.pos = framer.pos + n → next.boundaryScanPos = 0 →
      HeaderExtraction maxLength framer next (.ok frame)

theorem takeFrame_eq {frameLen : Nat} (header : 2 ≤ frameLen)
    (complete : frameLen ≤ framer.window.length) :
    framer.takeFrame frameLen =
      if plausibleHeader (framer.window.getD 0 0) = true then
        ({ framer with pos := framer.pos + frameLen, boundaryScanPos := 0 },
          .ok { data := framer.window.take frameLen, l2Length := 0 })
      else framer.skipOctet { code := .invalidPD, message := "invalid L3 header in frame" } := by
  have length : 2 ≤ (framer.window.take frameLen).length := by
    rw [List.length_take]
    omega
  have accepts := parseL3Header_isOk length
  have first : (framer.window.take frameLen).getD 0 0 = framer.window.getD 0 0 := by
    rw [List.getD_eq_getElem?_getD, List.getD_eq_getElem?_getD, List.getElem?_take_of_lt (by omega)]
  rw [first] at accepts
  rw [window_length] at complete
  simp only [takeFrame, if_neg (not_lt.mpr complete)]
  rw [← window]
  cases parsed : parseL3Header (framer.window.take frameLen) with
  | error error =>
      rw [parsed] at accepts
      rw [if_neg (Bool.eq_false_iff.mp accepts.symm)]
  | ok pd =>
      rw [parsed] at accepts
      have valid : plausibleHeader (framer.window.getD 0 0) = true := accepts.symm
      rw [if_pos valid]

/-- What an extraction by header does. -/
theorem tryExtract_header (byHeader : ByHeader maxLength framer)
    {result : Except ParseError ExtractedFrame}
    (extraction : framer.tryExtract false = (next, result)) :
    HeaderExtraction maxLength framer next result := by
  have length := framer.window_length
  have fixed_eq := framer.fixedLength_eq
  rw [tryExtract, byHeader.config] at extraction
  by_cases short : framer.buffered < 2
  · rw [if_pos short] at extraction
    obtain ⟨rfl, rfl⟩ := Prod.mk.inj extraction
    exact .short (by simp [Resync]) (by omega)
  have header : 2 ≤ framer.window.length := by omega
  have cut_eq := @headerCut_of_header maxLength _ header
  rw [if_neg short, if_neg Bool.false_ne_true, extractHeader, if_neg Bool.false_ne_true,
    fixed_eq] at extraction
  by_cases fixed : headerLength framer.window ≠ 0
  · rw [if_pos fixed] at extraction cut_eq
    obtain ⟨two, valid⟩ := headerLength_spec fixed
    by_cases complete : headerLength framer.window ≤ framer.window.length
    · rw [takeFrame_eq two complete, if_pos valid] at extraction
      rw [if_pos complete] at cut_eq
      obtain ⟨rfl, rfl⟩ := Prod.mk.inj extraction
      exact .frame cut_eq rfl rfl rfl
    · rw [takeFrame, if_pos (by omega)] at extraction
      obtain ⟨rfl, rfl⟩ := Prod.mk.inj extraction
      exact .incomplete (by simp [Resync]) header fixed (not_le.mp complete)
  · rw [if_neg fixed, byHeader.scanBoundary_eq (not_not.mp fixed)] at extraction
    rw [if_neg fixed] at cut_eq
    cases boundary : nextHeader maxLength framer.window with
    | none =>
        rw [boundary] at extraction
        obtain ⟨rfl, rfl⟩ := Prod.mk.inj extraction
        exact .unbounded (by simp [Resync]) header (not_not.mp fixed) boundary
    | some n =>
        rw [boundary] at extraction cut_eq
        simp only [byHeader.config] at extraction cut_eq
        have inside := nextHeader_some.mp boundary
        by_cases far : maxLength < n
        · rw [if_pos far] at extraction
          rw [if_neg (fun near => absurd near.1 (not_le.mpr far))] at cut_eq
          obtain ⟨rfl, rfl⟩ := Prod.mk.inj extraction
          exact .skip (.inr rfl) cut_eq
        · rw [if_neg far, takeFrame_eq inside.1 (by omega)] at extraction
          by_cases valid : plausibleHeader (framer.window.getD 0 0) = true
          · rw [if_pos valid] at extraction
            rw [if_pos ⟨not_lt.mp far, valid⟩] at cut_eq
            obtain ⟨rfl, rfl⟩ := Prod.mk.inj extraction
            exact .frame cut_eq rfl rfl rfl
          · rw [if_neg valid] at extraction
            rw [if_neg (fun near => valid near.2)] at cut_eq
            obtain ⟨rfl, rfl⟩ := Prod.mk.inj extraction
            exact .skip (.inl rfl) cut_eq

/-- At the end of the source the rest of a stream without a frame is the tail. -/
theorem tryExtract_tail (placed : framer.pos ≤ framer.data.length)
    (config : framer.config = { useL2Length := false, maxMessageLength := maxLength })
    {result : Except ParseError ExtractedFrame}
    (extraction : framer.tryExtract true = (next, result)) :
    if 2 ≤ framer.window.length ∧ tailCut maxLength framer.window = .tail then
      ∃ frame, result = .ok frame ∧ frame.data = framer.window ∧
        next.pos = framer.data.length ∧ next.boundaryScanPos = 0
    else ∃ error, result = .error error := by
  have length := framer.window_length
  rw [tryExtract, config] at extraction
  by_cases short : framer.buffered < 2
  · rw [if_pos short] at extraction
    obtain ⟨rfl, rfl⟩ := Prod.mk.inj extraction
    rw [if_neg (fun tail => absurd tail.1 (by omega))]
    exact ⟨_, rfl⟩
  · rw [if_neg short, if_neg Bool.false_ne_true, extractHeader, if_pos rfl, config] at extraction
    simp only at extraction
    by_cases long : maxLength < framer.buffered
    · rw [if_pos long] at extraction
      obtain ⟨rfl, rfl⟩ := Prod.mk.inj extraction
      rw [if_neg]
      · exact ⟨_, rfl⟩
      · rw [tailCut, if_neg (fun fits => by omega)]
        simp
    · rw [if_neg long, ← length, takeFrame_eq (by omega) le_rfl] at extraction
      by_cases valid : plausibleHeader (framer.window.getD 0 0) = true
      · rw [if_pos valid] at extraction
        obtain ⟨rfl, rfl⟩ := Prod.mk.inj extraction
        rw [if_pos ⟨by omega, by rw [tailCut, if_pos ⟨by omega, valid⟩]⟩]
        refine ⟨_, rfl, List.take_length .., ?_, rfl⟩
        simp only [length, buffered]
        omega
      · rw [if_neg valid] at extraction
        obtain ⟨rfl, rfl⟩ := Prod.mk.inj extraction
        rw [if_neg]
        · exact ⟨_, rfl⟩
        · rw [tailCut, if_neg (fun fits => valid fits.2)]
          simp

/-- A scan that stops on a plausible octet at the end of the buffer, with more
octets to come: the cached scan position passes a boundary. -/
def MissesBoundary (framer : L3Framer) : Prop :=
  framer.fixedLength = 0 ∧ framer.scanBoundary = none ∧ framer.source.rest ≠ [] ∧
    framer.pos + 2 < framer.data.length ∧ framer.data.length ≤ framer.scanLimit ∧
    plausibleHeader (framer.octet (framer.data.length - 1)) = true

instance (framer : L3Framer) : Decidable framer.MissesBoundary :=
  inferInstanceAs (Decidable (_ ∧ _))

/-- After a scan without a boundary, which missed none, the octets scanned cannot
start a frame. -/
theorem Filled.scanned {got : Bool} {chunk : List UInt8} (byHeader : ByHeader maxLength framer)
    (unfixed : headerLength framer.window = 0)
    (boundary : nextHeader maxLength framer.window = none)
    (clean : ¬ framer.MissesBoundary) (more : framer.source.rest ≠ [])
    (filled : Filled { framer with
      boundaryScanPos := min framer.data.length framer.scanLimit } next got chunk) :
    next.Scanned := by
  have limit := byHeader.scanLimit
  have placed := byHeader.placed
  have bounded := byHeader.bounded
  have length : framer.window.length = framer.data.length - framer.pos := window_length framer
  have window : next.window = framer.window ++ chunk := filled.window
  intro i from_two before
  have before : framer.pos + i < min framer.data.length framer.scanLimit := by
    rcases filled.rebased.cases with ⟨pos, scan⟩ | ⟨pos, scan⟩
    · rw [pos, scan] at before
      exact before
    · rw [pos, scan] at before
      simp only at before
      split at before
      case isTrue => omega
      case isFalse => omega
  rw [window, List.length_append, getD_append_left (by omega)]
  refine ⟨by omega, ?_⟩
  by_cases last : i + 1 < framer.window.length
  · exact nextHeader_none.mp boundary i from_two (by omega)
  · by_contra set
    refine clean ⟨?_, ?_, more, by omega, by omega, ?_⟩
    · rw [framer.fixedLength_eq, unfixed]
    · rw [byHeader.scanBoundary_eq unfixed, boundary]
    · have end_octet : framer.data.length - 1 = framer.pos + i := by omega
      rw [end_octet, framer.octet_eq]
      exact Bool.eq_true_of_not_eq_false set

/-- Where the framer waits, the grammar has no boundary in the window. -/
theorem headerCut_of_wait {result : Except ParseError ExtractedFrame} {error : ParseError}
    (extraction : HeaderExtraction maxLength framer next result) (failed : result = .error error)
    (wait : ¬ Resync error) :
    headerCut maxLength framer.window =
      if 2 ≤ framer.window.length then tailCut maxLength framer.window else .stop := by
  cases extraction with
  | short _ short => rw [if_neg (not_le.mpr short), headerCut, if_pos short]
  | incomplete _ header fixed short =>
      rw [if_pos header, headerCut_of_header header, if_pos fixed, if_neg (not_le.mpr short)]
  | unbounded _ header unfixed boundary =>
      rw [if_pos header, headerCut_of_header header, if_neg (not_not.mpr unfixed), boundary]
  | skip resync =>
      obtain rfl := Except.error.inj failed
      exact absurd resync wait
  | frame => cases failed

/-- An extraction keeps the framer by header. -/
theorem Extracted.byHeader {result : Except ParseError ExtractedFrame}
    (extracted : Extracted framer next result) (byHeader : ByHeader maxLength framer)
    (scanned : next.boundaryScanPos = 0 ∨
      2 ≤ next.window.length ∧ (headerLength next.window ≠ 0 ∨ next.Scanned)) :
    ByHeader maxLength next :=
  ⟨extracted.placed, extracted.config.trans byHeader.config,
    by rw [extracted.source, byHeader.finite],
    by rw [extracted.source, extracted.data]; exact byHeader.bounded, scanned⟩

/-- Until it misses a boundary, the framer cuts its stream by the grammar. -/
theorem header_cuts (maxLength : Nat) :
    Cuts (headerFrames maxLength) (fun framer => ¬ framer.MissesBoundary)
      (ByHeader maxLength) where
  placed byHeader := byHeader.placed
  header byHeader := by
    rw [byHeader.config]
  finite byHeader := byHeader.finite
  found byHeader extraction := by
    rename_i framer next frame
    have extracted := tryExtract_extracted byHeader.placed (by rw [byHeader.config]) extraction
    cases tryExtract_header byHeader extraction with
    | frame cut data pos scan =>
        rename_i n
        have inside := headerCut_frame cut
        have rest := pending_drop extracted.source extracted.data pos
          (by rw [← window_length]; exact inside.2.1)
        have whole : headerCut maxLength framer.pending = .frame n :=
          (headerCut_append (.inl cut) _).trans cut
        refine ⟨extracted.byHeader byHeader (.inl scan), ?_⟩
        rw [rest.2, data, headerFrames_frame whole, pending,
          List.take_append_of_le_length inside.2.1]
  skipped byHeader extraction resync := by
    rename_i framer next error
    have extracted := tryExtract_extracted byHeader.placed (by rw [byHeader.config]) extraction
    cases tryExtract_header byHeader extraction with
    | short wait => exact absurd resync wait
    | incomplete wait => exact absurd resync wait
    | unbounded wait => exact absurd resync wait
    | skip _ cut =>
        obtain ⟨unfixed, long⟩ := headerCut_skip cut
        have scanned := byHeader.before_scan unfixed
        have length := framer.window_length
        obtain ⟨window, rest⟩ :=
          @pending_drop framer { framer with pos := framer.pos + 1 } rfl rfl 1 rfl (by omega)
        have whole : headerCut maxLength framer.pending = .skip :=
          (@headerCut_append maxLength 0 _ (.inr cut) _).trans cut
        refine ⟨extracted.byHeader byHeader ?_, ?_⟩
        · refine .inr ⟨by rw [window, List.length_drop]; omega, .inr fun i from_two before => ?_⟩
          have before : framer.pos + 1 + i < framer.boundaryScanPos := before
          obtain ⟨inside, reserved⟩ := scanned (i + 1) (by omega) (by omega)
          rw [window, List.length_drop]
          refine ⟨by omega, ?_⟩
          rw [List.getD_eq_getElem?_getD, List.getElem?_drop, Nat.add_comm 1,
            ← List.getD_eq_getElem?_getD, reserved]
        · rw [rest, headerFrames_skip whole]
  filled byHeader clean extraction wait filled more := by
    rename_i framer middle next error got chunk
    have extracted := tryExtract_extracted byHeader.placed (by rw [byHeader.config]) extraction
    have bounded := filled.bounded
    have room := byHeader.bounded
    refine ⟨filled.placed, by rw [filled.config, extracted.config, byHeader.config],
      by rw [filled.live, extracted.source, byHeader.finite],
      by rw [extracted.source, extracted.data] at bounded; omega, ?_⟩
    cases tryExtract_header byHeader extraction with
    | short _ short =>
        have unset : framer.boundaryScanPos = 0 :=
          byHeader.scanned.resolve_right fun cached => absurd cached.1 (not_le.mpr short)
        rcases filled.rebased.cases with ⟨-, scan⟩ | ⟨-, scan⟩
        · exact .inl (scan.trans unset)
        · rw [unset] at scan
          exact .inl scan
    | incomplete _ header fixed =>
        refine .inr ⟨?_, .inl ?_⟩
        · rw [filled.window, List.length_append]
          omega
        · rw [filled.window, headerLength_append header]
          exact fixed
    | unbounded _ header unfixed boundary =>
        refine .inr ⟨?_, .inr (filled.scanned byHeader unfixed boundary clean more)⟩
        have window : next.window = framer.window ++ chunk := filled.window
        rw [window, List.length_append]
        omega
    | skip resync => exact absurd resync wait
  ended byHeader extraction wait filled rest last := by
    rename_i framer middle next last' error result
    have extracted := tryExtract_extracted byHeader.placed (by rw [byHeader.config]) extraction
    have config : next.config = { useL2Length := false, maxMessageLength := maxLength } := by
      rw [filled.config, extracted.config, byHeader.config]
    have ending := tryExtract_extracted filled.placed (by rw [config]) last
    have window : next.window = framer.window := by
      rw [filled.window, List.append_nil, L3Framer.window, L3Framer.window, extracted.data,
        extracted.wait error rfl wait]
    have cut := headerCut_of_wait (tryExtract_header byHeader extraction) rfl wait
    have tail := tryExtract_tail filled.placed config last
    rw [window] at tail
    rw [pending, rest, List.append_nil]
    split at tail
    case isTrue whole =>
      obtain ⟨frame, rfl, data, pos, scan⟩ := tail
      rw [if_pos whole.1, whole.2] at cut
      have bounded := filled.bounded
      have room := byHeader.bounded
      rw [extracted.source, extracted.data] at bounded
      have emptied : last'.pending = [] := by
        have source : last'.source.rest = [] := by
          have same := filled.rest
          rw [extracted.source, rest, List.nil_append] at same
          rw [ending.source, ← same]
        rw [pending, source, List.append_nil, L3Framer.window, ending.data, pos, List.drop_length]
      refine ⟨⟨ending.placed, ending.config.trans config, ?_, ?_, .inl scan⟩, ?_⟩
      · rw [ending.source, filled.live, extracted.source, byHeader.finite]
      · rw [ending.source, ending.data]
        omega
      · have short : headerCut maxLength [] = .stop := rfl
        rw [headerFrames_tail cut, emptied, headerFrames_stop short, data]
    case isFalse none =>
      obtain ⟨error', rfl⟩ := tail
      simp only
      by_cases header : 2 ≤ framer.window.length
      · rw [if_pos header] at cut
        exact headerFrames_stop (cut.trans
          ((tailCut_cases _ _).resolve_left fun tail => none ⟨header, tail⟩))
      · rw [if_neg header] at cut
        exact headerFrames_stop cut

end L3Framer

/-! ## Portions do not matter -/

namespace Reading

open L3Framer

/-- A reading of a finite source in header mode. -/
def byHeader (maxLength : Nat) (chunks : List (List UInt8)) : Reading :=
  .start { useL2Length := false, maxMessageLength := maxLength } { chunks := chunks }

/-- Along a run that misses no boundary the frames are those of the grammar. -/
theorem header_progress {maxLength : Nat} {chunks : List (List UInt8)}
    (bounded : chunks.flatten.length + 2 + maxLength < 2 ^ 64) {events : List Unit}
    {reading : Reading}
    (run : machine.Run (fun source _ _ => ¬ source.framer.MissesBoundary)
      (byHeader maxLength chunks) events reading) :
    Progress (headerFrames maxLength) (ByHeader maxLength) chunks.flatten reading := by
  refine run_progress (header_cuts maxLength) ⟨fun _ => ⟨?_, rfl⟩, ?_⟩ run
  · refine ⟨Nat.zero_le _, rfl, rfl, ?_, .inl rfl⟩
    change 0 + chunks.flatten.length + 2 + maxLength < 2 ^ 64
    omega
  · exact fun finished => absurd finished Bool.false_ne_true

/-- Two readings of one stream that miss no boundary give the same frames, however
their sources portion it. -/
theorem header_frames_eq {maxLength : Nat} {chunks chunks' : List (List UInt8)}
    (same : chunks.flatten = chunks'.flatten)
    (bounded : chunks.flatten.length + 2 + maxLength < 2 ^ 64)
    {events events' : List Unit} {reading reading' : Reading}
    (run : machine.Run (fun source _ _ => ¬ source.framer.MissesBoundary)
      (byHeader maxLength chunks) events reading)
    (run' : machine.Run (fun source _ _ => ¬ source.framer.MissesBoundary)
      (byHeader maxLength chunks') events' reading')
    (finished : reading.finished = true) (finished' : reading'.finished = true) :
    reading.frames.map ExtractedFrame.data = reading'.frames.map ExtractedFrame.data := by
  have frames := (header_progress bounded run).finished finished
  have frames' := (header_progress (same ▸ bounded) run').finished finished'
  rw [frames, frames', same]

/-- Two messages, in two portions and in one. -/
theorem header_frames_eq_portions :
    [[0x05, 0x18], [0x05, 0x21]].flatten =
        ([[0x05, 0x18, 0x05, 0x21]] : List (List UInt8)).flatten ∧
      ([[0x05, 0x18], [0x05, 0x21]] : List (List UInt8)).flatten.length + 2 + 4096 < 2 ^ 64 ∧
      ∃ reading reading' : Reading, reading.finished = true ∧ reading'.finished = true ∧
        reading.frames.map ExtractedFrame.data = reading'.frames.map ExtractedFrame.data := by
  let origin := byHeader 4096 [[0x05, 0x18], [0x05, 0x21]]
  let origin' := byHeader 4096 [[0x05, 0x18, 0x05, 0x21]]
  let clean : Reading → Unit → Reading → Prop :=
    fun source _ _ => ¬ source.framer.MissesBoundary
  obtain ⟨reading, executed⟩ := Option.isSome_iff_exists.mp
    (show (machine.exec clean origin (List.replicate 5 ())).isSome by decide)
  obtain ⟨reading', executed'⟩ := Option.isSome_iff_exists.mp
    (show (machine.exec clean origin' (List.replicate 4 ())).isSome by decide)
  have finished : ∀ reading ∈ machine.exec clean origin (List.replicate 5 ()),
      reading.finished = true := by decide
  have finished' : ∀ reading ∈ machine.exec clean origin' (List.replicate 4 ()),
      reading.finished = true := by decide
  refine ⟨rfl, by decide, reading, reading', finished reading executed,
    finished' reading' executed', ?_⟩
  exact @header_frames_eq 4096 [[0x05, 0x18], [0x05, 0x21]] [[0x05, 0x18, 0x05, 0x21]] rfl
    (by decide) _ _ reading reading' (.exec _ .origin executed) (.exec _ .origin executed')
    (finished reading executed) (finished' reading' executed')

/-- The same messages, one octet at a time and at once. -/
theorem boundary_missed :
    ∃ events events' reading reading',
      machine.Run (fun _ _ _ => True) (byHeader 4096 [[0x05], [0x18], [0x05], [0x21]])
        events reading ∧
      machine.Run (fun _ _ _ => True) (byHeader 4096 [[0x05, 0x18, 0x05, 0x21]])
        events' reading' ∧
      reading.finished = true ∧ reading'.finished = true ∧
      reading.frames.map ExtractedFrame.data = [[0x05, 0x18, 0x05, 0x21]] ∧
      reading'.frames.map ExtractedFrame.data = [[0x05, 0x18], [0x05, 0x21]] := by
  let origin := byHeader 4096 [[0x05], [0x18], [0x05], [0x21]]
  let origin' := byHeader 4096 [[0x05, 0x18, 0x05, 0x21]]
  obtain ⟨reading, executed⟩ := Option.isSome_iff_exists.mp
    (show (machine.exec (fun _ _ _ => True) origin (List.replicate 6 ())).isSome
      by decide)
  obtain ⟨reading', executed'⟩ := Option.isSome_iff_exists.mp
    (show (machine.exec (fun _ _ _ => True) origin' (List.replicate 4 ())).isSome
      by decide)
  have ends : ∀ reading ∈ machine.exec (fun _ _ _ => True) origin (List.replicate 6 ()),
      reading.finished = true ∧
        reading.frames.map ExtractedFrame.data = [[0x05, 0x18, 0x05, 0x21]] := by decide
  have ends' : ∀ reading ∈ machine.exec (fun _ _ _ => True) origin' (List.replicate 4 ()),
      reading.finished = true ∧
        reading.frames.map ExtractedFrame.data = [[0x05, 0x18], [0x05, 0x21]] := by
    decide
  exact ⟨_, _, reading, reading', .exec _ .origin executed, .exec _ .origin executed',
    (ends reading executed).1, (ends' reading' executed').1, (ends reading executed).2,
    (ends' reading' executed').2⟩

end Reading

end Bitstream

end Gsml3
