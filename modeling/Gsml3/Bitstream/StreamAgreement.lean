import Gsml3.Bitstream.LengthFraming
import Gsml3.Bitstream.StreamAccounting

/-!
# The two stream processors agree

Over a finite source with length octets, a stream processor delivers and counts what the
processor of the whole buffer does, whichever of its calls a caller makes and however the
source portions its octets.
-/

namespace Gsml3

namespace Bitstream

/-! ## The framer by length octets -/

namespace L3Framer

variable {framer middle next : L3Framer} {maxLength : Nat} {outcomes : List Outcome}

theorem ByLength.header (byLength : ByLength maxLength framer) :
    2 ≤ framer.config.minHeaderLength := by
  rw [byLength.config]

theorem ByLength.kept (byLength : ByLength maxLength framer) (kept : Kept framer next) :
    ByLength maxLength next where
  placed := kept.placed
  config := kept.config.trans byLength.config
  finite := kept.live.trans byLength.finite

/-- Waiting consumes nothing. -/
theorem ByLength.waited (byLength : ByLength maxLength framer) {error : ParseError} {got : Bool}
    {chunk : List UInt8} (extraction : framer.tryExtract false = (middle, .error error))
    (wait : ¬ Resync error) (filled : Filled middle next got chunk) :
    next.pending = framer.pending ∧ framer.source.rest = chunk ++ next.source.rest := by
  have extracted := tryExtract_extracted byLength.placed byLength.header extraction
  have window : middle.window = framer.window := by
    rw [L3Framer.window, L3Framer.window, extracted.wait error rfl wait, extracted.data]
  have rest : framer.source.rest = chunk ++ next.source.rest := by
    rw [← extracted.source]
    exact filled.rest
  refine ⟨?_, rest⟩
  rw [pending, pending, filled.window, window, rest, List.append_assoc]

/-- A framer at the end of its stream has no frame left. -/
def Drained (maxLength : Nat) (framer : L3Framer) : Prop :=
  lengthFrames maxLength framer.pending = []

/-- A round takes the first frame of the grammar or none, and finds the source exhausted only
where there is none. -/
theorem ByLength.round (byLength : ByLength maxLength framer) {result : Option Outcome}
    (rounds : Rounds framer next result) :
    lengthFrames maxLength framer.pending =
        taken result.toList ++ lengthFrames maxLength next.pending ∧
      (result = some (.error sourceExhausted) → Drained maxLength next) := by
  have cuts := length_cuts maxLength
  cases rounds with
  | found extraction => exact ⟨(cuts.found byLength extraction).2, nofun⟩
  | skipped extraction resync => exact ⟨(cuts.skipped byLength extraction resync).2, nofun⟩
  | filled extraction wait filled =>
      exact ⟨by rw [(byLength.waited extraction wait filled).1]; rfl, nofun⟩
  | stalled extraction wait filled =>
      exact ⟨by rw [(byLength.waited extraction wait filled).1]; rfl, nofun⟩
  | tail extraction wait filled eof last =>
      obtain ⟨-, rest⟩ := byLength.waited extraction wait filled
      have kept := ((tryExtract_extracted byLength.placed byLength.header extraction).kept
        byLength.placed).trans filled.kept
      rw [(atEof_iff _ (byLength.kept kept).finite).mp eof, List.append_nil] at rest
      exact ⟨(cuts.ended byLength extraction wait filled rest last).2, nofun⟩
  | ended extraction wait filled eof last =>
      rename_i _ reached _ _
      obtain ⟨same, rest⟩ := byLength.waited extraction wait filled
      have kept := ((tryExtract_extracted byLength.placed byLength.header extraction).kept
        byLength.placed).trans filled.kept
      have reaches := byLength.kept kept
      rw [(atEof_iff _ reaches.finite).mp eof, List.append_nil] at rest
      have ends := cuts.ended byLength extraction wait filled rest last
      simp only at ends
      -- the last extraction may give up an octet, but no frame
      have drained : Drained maxLength next := by
        rw [← same] at ends
        cases tryExtract_length reaches last with
        | incomplete => exact ends
        | corrupt window corrupt behind _ =>
            have extracted := tryExtract_extracted reaches.placed reaches.header last
            rw [pending, window, List.cons_append, lengthFrames_corrupt corrupt] at ends
            rw [Drained, pending, behind, extracted.source]
            exact ends
      refine ⟨?_, fun _ => drained⟩
      rw [ends]
      exact drained.symm

theorem ByLength.nextFrame {rounds : Nat} {outcome : Outcome}
    (byLength : ByLength maxLength framer)
    (returned : framer.nextFrame rounds = some (next, outcome)) :
    ByLength maxLength next ∧
      lengthFrames maxLength framer.pending =
        taken [outcome] ++ lengthFrames maxLength next.pending ∧
      (outcome = .error sourceExhausted → Drained maxLength next) := by
  have kept := (nextFrame_called byLength.placed byLength.header returned).toKept
  refine ⟨byLength.kept kept, ?_⟩
  clear kept
  induction rounds generalizing framer with
  | zero => cases returned
  | succ rounds ih =>
      have goes := round_rounds byLength.placed byLength.header
      rw [L3Framer.nextFrame] at returned
      split at returned
      case h_1 target found round =>
        rw [round] at goes
        obtain ⟨rfl, rfl⟩ := Prod.mk.inj (Option.some.inj returned)
        obtain ⟨frames, ended⟩ := byLength.round goes
        exact ⟨frames, fun exhausted => ended (congrArg some exhausted)⟩
      case h_2 target round =>
        rw [round] at goes
        rw [(byLength.round goes).1]
        exact ih (byLength.kept (goes.kept byLength.placed byLength.header)) returned

/-- Calls take the first frames of the grammar; once one finds the source exhausted there are no
others. -/
theorem ByLength.reads (byLength : ByLength maxLength framer)
    (reads : Reads framer outcomes next) :
    ByLength maxLength next ∧
      lengthFrames maxLength framer.pending =
        taken outcomes ++ lengthFrames maxLength next.pending ∧
      (0 < stops .sourceExhausted outcomes → Drained maxLength next) := by
  induction reads with
  | start => exact ⟨byLength, rfl, nofun⟩
  | call earlier returned ih =>
      obtain ⟨before, frames, exhausted⟩ := ih
      obtain ⟨after, more, ends⟩ := before.nextFrame returned
      refine ⟨after, ?_, fun some_stop => ?_⟩
      · rw [frames, more, taken_append, List.append_assoc]
      · rw [stops_append] at some_stop
        rcases Nat.eq_zero_or_pos (stops .sourceExhausted _) with none | some_earlier
        · rw [none, Nat.zero_add] at some_stop
          rename_i outcome
          cases outcome with
          | ok frame => cases some_stop
          | error error =>
              rcases nextFrame_stops returned with rfl | rfl
              · exact ends rfl
              · cases some_stop
        · have drained := exhausted some_earlier
          rw [Drained, more] at drained
          exact (List.append_eq_nil_iff.mp drained).2

/-- Each call before the end leaves less work. -/
theorem ByLength.nextFrame_work {rounds : Nat} {outcome : Outcome}
    (byLength : ByLength maxLength framer)
    (returned : framer.nextFrame rounds = some (next, outcome)) :
    next.work < framer.work ∨ outcome = .error sourceExhausted := by
  induction rounds generalizing framer with
  | zero => cases returned
  | succ rounds ih =>
      have goes := round_rounds byLength.placed byLength.header
      rw [L3Framer.nextFrame] at returned
      split at returned
      case h_1 target found round =>
        rw [round] at goes
        obtain ⟨rfl, rfl⟩ := Prod.mk.inj (Option.some.inj returned)
        obtain ⟨-, -, -, less⟩ := round_work byLength.placed byLength.header byLength.finite goes
        exact less.imp_right Option.some.inj
      case h_2 target round =>
        rw [round] at goes
        have less := goes.work byLength.placed byLength.header
        have kept := goes.kept byLength.placed byLength.header
        exact (ih (byLength.kept kept) returned).imp_left (·.trans less)

/-- Enough calls find the source exhausted. -/
theorem ByLength.exhausts (byLength : ByLength maxLength framer)
    (reads : Reads framer outcomes next) (enough : framer.work < outcomes.length) :
    0 < stops .sourceExhausted outcomes := by
  have counted : next.work + outcomes.length ≤ framer.work ∨
      0 < stops .sourceExhausted outcomes := by
    clear enough
    induction reads with
    | start => exact .inl le_rfl
    | call earlier returned ih =>
        rw [stops_append, List.length_append, List.length_singleton]
        rcases ih with before | exhausted
        · rcases (byLength.reads earlier).1.nextFrame_work returned with less | rfl
          · exact .inl (by omega)
          · exact .inr (Nat.lt_add_left _ Nat.zero_lt_one)
        · exact .inr (Nat.lt_add_right _ exhausted)
  omega

end L3Framer

/-! ## The processor of the buffer -/

/-- No length octet is out of range where the limit is at least 255. -/
theorem lengthFrames_wide {maxLength : Nat} (wide : 255 ≤ maxLength) (octets : List UInt8) :
    lengthFrames maxLength octets = lengthFrames 255 octets := by
  induction octets using lengthFrames.induct 255 with
  | case1 => rw [lengthFrames_nil, lengthFrames_nil]
  | case2 len rest corrupt ih =>
      have bounded := len.toNat_lt
      have zero : len.toNat = 0 := corrupt.resolve_right (by omega)
      rw [lengthFrames_corrupt corrupt, lengthFrames_corrupt (.inl zero), ih]
  | case3 len rest valid short =>
      have in_range : ¬ (len.toNat = 0 ∨ maxLength < len.toNat) := by omega
      rw [lengthFrames_short valid short, lengthFrames_short in_range short]
  | case4 len rest valid complete ih =>
      have in_range : ¬ (len.toNat = 0 ∨ maxLength < len.toNat) := by omega
      rw [lengthFrames_frame valid (not_lt.mp complete),
        lengthFrames_frame in_range (not_lt.mp complete), ih]

section Buffer

open L3Framer (Outcome)

variable {Msg : Type} {parser : FrameParser Msg}

/-- The frames of a buffer, as a framer would return them. -/
def framesOf (frames : List (List UInt8)) : List Outcome :=
  frames.map fun data => .ok { data := data, l2Length := data.length }

theorem taken_framesOf (frames : List (List UInt8)) : taken (framesOf frames) = frames := by
  induction frames with
  | nil => rfl
  | cons data frames ih =>
      change data :: taken (framesOf frames) = _
      rw [ih]

/-- By induction on the frames: the loop delivers the messages of the frames and counts them. -/
theorem ZeroCopyStreamProcessor.forEach_frames {turns : Nat} {processor : ZeroCopyStreamProcessor}
    (mode : processor.framer.useL2Length = true)
    (enough : processor.framer.pending.length < turns) {earlier : List Outcome}
    (accounts : Accounts parser {} earlier processor.stats) :
    ∃ last,
      processor.forEach parser turns = some (last, parser.messages {}
        (lengthFrames processor.framer.maxFrameLen processor.framer.pending)) ∧
      Accounts parser {} (earlier ++ framesOf
        (lengthFrames processor.framer.maxFrameLen processor.framer.pending)) last.stats := by
  induction turns generalizing processor earlier with
  | zero => omega
  | succ turns ih =>
      have next_frame := processor.framer.nextFrame_length mode
      rw [forEach]
      cases step : processor.framer.nextFrame with
      | mk framer result =>
          rw [step] at next_frame
          cases result with
          | none =>
              simp only at next_frame ⊢
              rw [next_frame]
              exact ⟨_, rfl, by rwa [framesOf, List.map_nil, List.append_nil]⟩
          | some data =>
              obtain ⟨next_mode, max, less, frames⟩ := next_frame
              have shorter : framer.pending.length < turns := by omega
              rw [frames, ← max]
              simp only
              cases parsed : parser.parseL3 {} data with
              | error error =>
                  have counted := @Accounts.failed _ _ _ _ _ ⟨data, data.length⟩ accounts _ parsed
                  obtain ⟨last, looped, final⟩ := @ih { framer := framer, stats := _ }
                    next_mode shorter _ counted
                  refine ⟨last, ?_, ?_⟩
                  · rw [← List.singleton_append, parser.messages_append,
                      parser.messages_failed parsed]
                    exact looped
                  · rw [List.append_assoc] at final
                    exact final
              | ok msg =>
                  have counted := @Accounts.parsed _ _ _ _ _ ⟨data, data.length⟩ accounts _ parsed
                  obtain ⟨last, looped, final⟩ := @ih { framer := framer, stats := _ }
                    next_mode shorter _ counted
                  refine ⟨last, ?_, ?_⟩
                  · rw [← List.singleton_append, parser.messages_append,
                      parser.messages_parsed parsed]
                    exact congrArg (Option.map _) looped
                  · rw [List.append_assoc] at final
                    exact final

theorem stops_framesOf (code : ParseError.Code) (frames : List (List UInt8)) :
    stops code (framesOf frames) = 0 := by
  rw [stops, List.countP_eq_zero]
  intro outcome listed
  obtain ⟨data, -, rfl⟩ := List.mem_map.mp listed
  exact Bool.false_ne_true

/-- The frames determine the counters, but for the calls without a frame. -/
theorem Accounts.determined {config : ParserConfig} {outcomes : List Outcome}
    {stats other : StreamStats} (first : Accounts parser config outcomes stats)
    (second : Accounts parser config (framesOf (taken outcomes)) other) :
    { stats with idlePolls := 0, sourceExhausted := 0 } = other := by
  have same := taken_framesOf (taken outcomes)
  have domains : ∀ pd, stats.ofDomain pd = other.ofDomain pd := by
    intro pd
    rw [first.domains, second.domains, same]
  have ok : stats.parsedOk = other.parsedOk := by
    rw [first.parsedOk, second.parsedOk, same]
  have total : stats.totalFrames = other.totalFrames := by
    rw [first.totalFrames, second.totalFrames, same]
  have bytes : stats.totalBytes = other.totalBytes := by
    rw [first.totalBytes, second.totalBytes, same]
  have errors : stats.parseErrors = other.parseErrors := by
    have balanced := first.parseErrors
    have balances := second.parseErrors
    omega
  have idle : 0 = other.idlePolls := by rw [second.idlePolls, stops_framesOf]
  have exhausted : 0 = other.sourceExhausted := by rw [second.sourceExhausted, stops_framesOf]
  rw [StreamStats.mk.injEq]
  exact ⟨bytes, total, ok, errors, idle, exhausted, domains .undefined, domains .radioResource,
    domains .mobilityManagement, domains .callControl, domains .nonCallSS,
    domains .gprsMobilityManagement, domains .gprsSessionManagement, domains .sms,
    domains .broadcastCallControl, domains .groupCallControl, domains .location,
    domains .packetDomainSupplementaryServices1, domains .packetDomainSupplementaryServices2,
    domains .testProcedure⟩

end Buffer

/-! ## Agreement -/

namespace Processing

open L3Framer (Outcome)

variable {Msg : Type} {parser : FrameParser Msg} {processor : L3StreamProcessor}
  {processing : Processing Msg} {events : List (StreamCall × Nat)}

/-- Every call but one for no frame makes a call of the framer. -/
theorem run_calls (run : (machine parser).Run Counting { processor := processor } events processing)
    (useful : ∀ event ∈ events, event.1 ≠ .processN 0) :
    ∃ outcomes, events.length ≤ outcomes.length ∧
      L3StreamProcessor.Delivers parser processor processing.processor outcomes
        processing.messages := by
  induction run with
  | origin => exact ⟨[], le_rfl, .refl⟩
  | @next past source target event _ stepped counting ih =>
      obtain ⟨outcomes, enough, earlier⟩ := ih fun before passed =>
        useful before (List.mem_append_left _ passed)
      obtain ⟨more, messages, some_call, later, appended⟩ := perform_delivers counting stepped
      have called : more ≠ [] := fun none =>
        useful event (List.mem_append_right _ List.mem_cons_self) (some_call none)
      refine ⟨outcomes ++ more, ?_, appended ▸ earlier.trans later⟩
      rw [List.length_append, List.length_append]
      exact Nat.add_le_add enough (List.length_pos_iff.mpr called)

/-- Over a finite source with length octets and a maximum that no length octet exceeds, however its
octets are portioned and whichever counting calls are made: the messages delivered are the first
ones of those that the processor of the whole buffer delivers; once the source was found exhausted
they are all of them, and the counters are the same, but for the idle polls and the ends of the
source, which are not counted over a buffer; and it is found exhausted after as many calls that
process something as twice the octets and the portions. -/
theorem processors_agree (parser : FrameParser Msg) {maxLength : Nat} (wide : 255 ≤ maxLength)
    (chunks : List (List UInt8)) :
    ∃ buffer messages,
      (ZeroCopyStreamProcessor.new chunks.flatten).forEach parser (chunks.flatten.length + 1) =
        some (buffer, messages) ∧
      ∀ events processing,
        (machine parser).Run Counting
          { processor := .new { chunks := chunks } {} { maxMessageLength := maxLength } }
          events processing →
        processing.messages <+: messages ∧
        (0 < processing.processor.stats.sourceExhausted →
          processing.messages = messages ∧
          { processing.processor.stats with idlePolls := 0, sourceExhausted := 0 } =
            buffer.stats) ∧
        ((∀ event ∈ events, event.1 ≠ .processN 0) →
          2 * chunks.flatten.length + chunks.length < events.length →
          0 < processing.processor.stats.sourceExhausted) := by
  obtain ⟨buffer, looped, counted⟩ :=
    @ZeroCopyStreamProcessor.forEach_frames Msg parser (chunks.flatten.length + 1)
      (.new chunks.flatten) rfl (Nat.lt_succ_self _) [] .empty
  have frames : lengthFrames (ZeroCopyStreamProcessor.new chunks.flatten).framer.maxFrameLen
      (ZeroCopyStreamProcessor.new chunks.flatten).framer.pending =
        lengthFrames maxLength chunks.flatten := by
    rw [lengthFrames_wide wide]
    exact lengthFrames_wide (show 255 ≤ 4096 by decide) _
  rw [frames] at looped counted
  refine ⟨buffer, _, looped, ?_⟩
  intro events processing run
  have start : L3Framer.ByLength maxLength
      (L3StreamProcessor.new { chunks := chunks } {} { maxMessageLength := maxLength }).framer :=
    ⟨Nat.zero_le _, rfl, rfl⟩
  have pending : (L3StreamProcessor.new { chunks := chunks } {}
      { maxMessageLength := maxLength }).framer.pending = chunks.flatten :=
    rfl
  obtain ⟨outcomes, reads, delivered, accounts⟩ := run_accounts rfl run
  obtain ⟨-, whole, drained⟩ := start.reads reads
  rw [pending] at whole
  refine ⟨?_, ?_, ?_⟩
  · rw [delivered, whole, parser.messages_append]
    exact List.prefix_append ..
  · intro exhausted
    rw [accounts.sourceExhausted] at exhausted
    rw [drained exhausted, List.append_nil] at whole
    rw [List.nil_append, whole] at counted
    rw [delivered, whole]
    exact ⟨rfl, accounts.determined counted⟩
  · intro useful enough
    obtain ⟨calls, some_calls, delivers⟩ := run_calls run useful
    have work : (L3StreamProcessor.new { chunks := chunks } {}
        { maxMessageLength := maxLength }).framer.work =
          2 * chunks.flatten.length + chunks.length := by
      rw [L3Framer.work]
      exact congrArg (· + chunks.length) (Nat.zero_add _)
    rw [(delivers.counts [] .empty).sourceExhausted]
    rw [List.nil_append]
    exact start.exhausts delivers.reads (by omega)

theorem processors_agree_portions :
    ∃ buffer, ∃ messages : List (ParsedMessage Empty),
      (ZeroCopyStreamProcessor.new [1, 0x0A, 0, 1, 0x0B]).forEach
        (.standard (fun _ => throw Parser.trailingData) Empty.elim) 6 = some (buffer, messages) ∧
      ∀ events processing,
        (machine (.standard (fun _ => throw Parser.trailingData) Empty.elim)).Run Counting
          { processor := .new { chunks := [[1], [0x0A, 0], [], [1, 0x0B]] } } events processing →
        processing.messages <+: messages := by
  obtain ⟨buffer, messages, looped, agree⟩ :=
    processors_agree (.standard (fun _ => throw Parser.trailingData) Empty.elim)
      (show 255 ≤ 4096 by decide) [[1], [0x0A, 0], [], [1, 0x0B]]
  exact ⟨buffer, messages, looped, fun events processing run => (agree events processing run).1⟩

end Processing

end Bitstream

end Gsml3
