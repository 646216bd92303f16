import Gsml3.Bitstream.StreamProcessor

/-!
# What a stream processor counts and delivers

However a processor is called, it reads its source as a plain caller of `nextFrame` does, hands
over the messages of the frames it took, and its counters count these frames.
-/

namespace Gsml3

namespace Bitstream

open Stack (L3PD)

/-! ## Calls of the framer -/

namespace L3Framer

variable {framer middle next : L3Framer}

/-- What a call of `nextFrame` returns. -/
abbrev Outcome := Except ParseError ExtractedFrame

/-- Calls of `nextFrame`, with what they returned. -/
inductive Reads (framer : L3Framer) : List Outcome → L3Framer → Prop where
  | start : Reads framer [] framer
  | call {outcomes : List Outcome} {middle next : L3Framer} {rounds : Nat} {outcome : Outcome} :
      Reads framer outcomes middle → middle.nextFrame rounds = some (next, outcome) →
      Reads framer (outcomes ++ [outcome]) next

/-- Readings compose. -/
theorem Reads.trans {outcomes more : List Outcome} (first : Reads framer outcomes middle)
    (second : Reads middle more next) : Reads framer (outcomes ++ more) next := by
  induction second with
  | start => rwa [List.append_nil]
  | call _ returned ih =>
      rw [← List.append_assoc]
      exact ih.call returned

/-- One call of the framer is a reading. -/
theorem Reads.single {rounds : Nat} {outcome : Outcome}
    (returned : framer.nextFrame rounds = some (next, outcome)) :
    Reads framer [outcome] next :=
  Reads.start.call returned

/-- The two errors a call returns. -/
def Stops (error : ParseError) : Prop :=
  error = sourceExhausted ∨ error = noDataYet

theorem round_stops {error : ParseError} (ended : framer.round = (next, some (.error error))) :
    Stops error := by
  rw [round] at ended
  split at ended
  case h_1 => cases ended
  case h_2 =>
    split at ended
    case isTrue => cases ended
    case isFalse =>
      split at ended
      case h_1 => cases ended
      case h_2 =>
        split at ended
        case isTrue =>
          split at ended
          case h_1 => cases ended
          case h_2 =>
            cases ended
            exact .inl rfl
        case isFalse =>
          cases ended
          exact .inr rfl

/-- A call without a frame ends in one of the two known ways. -/
theorem nextFrame_stops {rounds : Nat} {error : ParseError}
    (returned : framer.nextFrame rounds = some (next, .error error)) : Stops error := by
  induction rounds generalizing framer with
  | zero => cases returned
  | succ rounds ih =>
      rw [nextFrame] at returned
      split at returned
      case h_1 target result round =>
        cases returned
        exact round_stops round
      case h_2 => exact ih returned

/-- More rounds do not change what a call returned. -/
theorem nextFrame_mono {rounds more : Nat} {result : L3Framer × Except ParseError ExtractedFrame}
    (returned : framer.nextFrame rounds = some result) (enough : rounds ≤ more) :
    framer.nextFrame more = some result := by
  induction rounds generalizing framer more with
  | zero => cases returned
  | succ rounds ih =>
      obtain ⟨more, rfl⟩ :=
        Nat.exists_eq_add_of_le' (Nat.le_trans (Nat.le_add_left 1 rounds) enough)
      rw [nextFrame] at returned ⊢
      split
      case h_1 target result round =>
        rw [round] at returned
        exact returned
      case h_2 target round =>
        rw [round] at returned
        exact ih returned (Nat.le_of_succ_le_succ enough)

/-- A round with a frame consumes octets. -/
theorem Rounds.consumed {frame : ExtractedFrame} (placed : framer.pos ≤ framer.data.length)
    (header : 2 ≤ framer.config.minHeaderLength)
    (rounds : Rounds framer next (some (.ok frame))) :
    next.pending.length < framer.pending.length := by
  cases rounds with
  | found extraction =>
      have extracted := tryExtract_extracted placed header extraction
      have same := extracted.pending_length placed
      have further := extracted.frame frame rfl
      omega
  | tail extraction _ filled _ last =>
      have before := ((tryExtract_extracted placed header extraction).kept placed).trans filled.kept
      have extracted := tryExtract_extracted before.placed (before.header header) last
      have same := extracted.pending_length before.placed
      have further := extracted.frame frame rfl
      have fewer := before.pending
      omega

/-- What a call leaves: a framer as good as before, with fewer octets behind a frame. -/
structure Called (framer next : L3Framer) (result : Except ParseError ExtractedFrame) : Prop extends
    Kept framer next where
  consumed : ∀ frame, result = .ok frame → next.pending.length < framer.pending.length

/-- A call leaves a framer as good as before, with fewer octets behind a frame. -/
theorem nextFrame_called {rounds : Nat} {result : Except ParseError ExtractedFrame}
    (placed : framer.pos ≤ framer.data.length) (header : 2 ≤ framer.config.minHeaderLength)
    (returned : framer.nextFrame rounds = some (next, result)) : Called framer next result := by
  induction rounds generalizing framer with
  | zero => cases returned
  | succ rounds ih =>
      have goes := round_rounds placed header
      rw [nextFrame] at returned
      split at returned
      case h_1 target found round =>
        rw [round] at goes
        obtain ⟨rfl, rfl⟩ := Prod.mk.inj (Option.some.inj returned)
        refine ⟨goes.kept placed header, ?_⟩
        rintro frame rfl
        exact goes.consumed placed header
      case h_2 target round =>
        rw [round] at goes
        have kept := goes.kept placed header
        have later := ih kept.placed (kept.header header) returned
        exact ⟨kept.trans later.toKept,
          fun frame found => (later.consumed frame found).trans_le kept.pending⟩

/-- Every call returns within some number of rounds. -/
theorem nextFrame_returns (placed : framer.pos ≤ framer.data.length)
    (header : 2 ≤ framer.config.minHeaderLength) :
    ∃ rounds next result, framer.nextFrame rounds = some (next, result) := by
  obtain ⟨rounds, next, result, returned, -⟩ := returns_pending placed header
  exact ⟨rounds, next, result, returned⟩

/-- A reading leaves a framer as good as before. -/
theorem Reads.kept {outcomes : List Outcome} (placed : framer.pos ≤ framer.data.length)
    (header : 2 ≤ framer.config.minHeaderLength) (reads : Reads framer outcomes next) :
    Kept framer next := by
  induction reads with
  | start => exact ⟨placed, rfl, rfl, le_rfl, le_rfl⟩
  | call _ returned ih =>
      exact ih.trans (nextFrame_called ih.placed (ih.header header) returned).toKept

/-! ### Garbage -/

/-- The machine of the calls of `nextFrame`, with the rounds that each may take. -/
def calls : Foundation.Machine L3Framer (Nat × Outcome) :=
  .ofCalls fun framer rounds => framer.nextFrame rounds

/-- Garbage is passed over, an octet a call at least, as long as the framer `Discards`. -/
theorem Live.garbage_passed {maxLength : Nat} (live : Live maxLength framer)
    {events : List (Nat × Outcome)}
    (run : calls.Run (fun source _ _ => Garbage maxLength source ∧ Discards maxLength source)
      framer events next) :
    Live maxLength next ∧ events.length + next.pending.length ≤ framer.pending.length := by
  refine run.invariant (fun past source => Live maxLength source ∧
    past.length + source.pending.length ≤ framer.pending.length) ⟨live, (Nat.zero_add _).le⟩ ?_
  rintro past source target ⟨rounds, outcome⟩ ⟨live, passed⟩ stepped ⟨garbage, discards⟩
  have returned : source.nextFrame rounds = some (target, outcome) :=
    Foundation.Machine.ofCalls_step.mp stepped
  obtain ⟨rounds', target', outcome', returned', gives⟩ := live.returns_garbage garbage
  have one := nextFrame_mono returned (Nat.le_max_left rounds rounds')
  have other := nextFrame_mono returned' (Nat.le_max_right rounds rounds')
  obtain ⟨rfl, -⟩ := Prod.mk.inj (Option.some.inj (one.symm.trans other))
  have fewer := gives.mpr discards
  refine ⟨live.kept (nextFrame_called live.placed live.header returned).toKept, ?_⟩
  rw [List.length_append, List.length_singleton]
  omega

/-- A reading with a frame leaves less to read. -/
theorem Reads.consumed {outcomes : List Outcome} (placed : framer.pos ≤ framer.data.length)
    (header : 2 ≤ framer.config.minHeaderLength) (reads : Reads framer outcomes next)
    {frame : ExtractedFrame} (taken : .ok frame ∈ outcomes) :
    next.pending.length < framer.pending.length := by
  induction reads with
  | start => cases taken
  | call earlier returned ih =>
      have kept := earlier.kept placed header
      have called := nextFrame_called kept.placed (kept.header header) returned
      rcases List.mem_append.mp taken with before | last
      · exact called.pending.trans_lt (ih before)
      · obtain rfl := List.mem_singleton.mp last
        exact (called.consumed frame rfl).trans_le kept.pending

end L3Framer

/-! ## Counters -/

namespace StreamStats

/-- The counter of a protocol domain. -/
def ofDomain (stats : StreamStats) : L3PD → Nat
  | .radioResource => stats.rrMessages
  | .mobilityManagement => stats.mmMessages
  | .callControl => stats.ccMessages
  | .nonCallSS => stats.ssMessages
  | .gprsMobilityManagement => stats.gmmMessages
  | .gprsSessionManagement => stats.smMessages
  | .sms => stats.smsMessages
  | .broadcastCallControl => stats.bccMessages
  | .groupCallControl => stats.gccMessages
  | .location => stats.lsMessages
  | .packetDomainSupplementaryServices1 => stats.pdss1Messages
  | .packetDomainSupplementaryServices2 => stats.extendedMessages
  | .testProcedure => stats.testprocMessages
  | .undefined => stats.unsupportedPD

/-- A message is counted under its own discriminator only. -/
theorem ofDomain_categorize (stats : StreamStats) (pd other : L3PD) :
    (stats.categorize pd).ofDomain other = stats.ofDomain other + if pd = other then 1 else 0 := by
  cases pd <;> cases other <;> rfl

/-- The switch touches no other counter. -/
theorem categorize_totals (stats : StreamStats) (pd : L3PD) :
    (stats.categorize pd).totalBytes = stats.totalBytes ∧
      (stats.categorize pd).totalFrames = stats.totalFrames ∧
      (stats.categorize pd).parsedOk = stats.parsedOk ∧
      (stats.categorize pd).parseErrors = stats.parseErrors ∧
      (stats.categorize pd).idlePolls = stats.idlePolls ∧
      (stats.categorize pd).sourceExhausted = stats.sourceExhausted := by
  cases pd <;> exact ⟨rfl, rfl, rfl, rfl, rfl, rfl⟩

end StreamStats

section Accounts

open L3Framer (Outcome)

variable {Msg : Type} (parser : FrameParser Msg) (config : ParserConfig)

/-- The octets of the frames that were returned. -/
def taken (outcomes : List Outcome) : List (List UInt8) :=
  outcomes.filterMap fun outcome => outcome.toOption.map ExtractedFrame.data

/-- How often an error with this code was returned. -/
def stops (code : ParseError.Code) (outcomes : List Outcome) : Nat :=
  outcomes.countP fun
    | .ok _ => false
    | .error error => error.code == code

theorem taken_append (outcomes more : List Outcome) :
    taken (outcomes ++ more) = taken outcomes ++ taken more :=
  List.filterMap_append

theorem stops_append (code : ParseError.Code) (outcomes more : List Outcome) :
    stops code (outcomes ++ more) = stops code outcomes + stops code more :=
  List.countP_append

theorem stops_frame (code : ParseError.Code) (frame : ExtractedFrame) :
    stops code [.ok frame] = 0 :=
  rfl

/-- The messages of those frames that parse. -/
def FrameParser.messages (frames : List (List UInt8)) : List Msg :=
  frames.filterMap fun data => (parser.parseL3 config data).toOption

/-- The counters count these calls of the framer, and what the parser made of the frames. -/
structure Accounts (outcomes : List Outcome) (stats : StreamStats) : Prop where
  totalBytes : stats.totalBytes = ((taken outcomes).map List.length).sum
  totalFrames : stats.totalFrames = (taken outcomes).length
  parsedOk : stats.parsedOk = (parser.messages config (taken outcomes)).length
  parseErrors : stats.parsedOk + stats.parseErrors = stats.totalFrames
  domains : ∀ pd, stats.ofDomain pd =
    ((parser.messages config (taken outcomes)).map parser.messagePD).count pd
  idlePolls : stats.idlePolls = stops .truncatedInput outcomes
  sourceExhausted : stats.sourceExhausted = stops .sourceExhausted outcomes

variable {parser config} {outcomes : List Outcome} {stats : StreamStats} {frame : ExtractedFrame}

theorem Accounts.empty : Accounts parser config [] {} where
  totalBytes := rfl
  totalFrames := rfl
  parsedOk := rfl
  parseErrors := rfl
  domains pd := by cases pd <;> rfl
  idlePolls := rfl
  sourceExhausted := rfl

/-- The messages of frames in sequence. -/
theorem FrameParser.messages_append (frames more : List (List UInt8)) :
    parser.messages config (frames ++ more) =
      parser.messages config frames ++ parser.messages config more :=
  List.filterMap_append

/-- A frame that does not parse gives no message. -/
theorem FrameParser.messages_failed {data : List UInt8} {error : ParseError}
    (failed : parser.parseL3 config data = .error error) : parser.messages config [data] = [] := by
  rw [messages, List.filterMap_cons, failed]
  rfl

/-- A frame that parses gives its message. -/
theorem FrameParser.messages_parsed {data : List UInt8} {msg : Msg}
    (parsed : parser.parseL3 config data = .ok msg) : parser.messages config [data] = [msg] := by
  rw [messages, List.filterMap_cons, parsed]
  rfl

/-- A call that found no frame counts as such, and touches no other counter. -/
theorem Accounts.countStop (accounts : Accounts parser config outcomes stats) {error : ParseError}
    (stopped : L3Framer.Stops error) :
    Accounts parser config (outcomes ++ [.error error]) (stats.countStop error.code) := by
  have same : taken (outcomes ++ [.error error]) = taken outcomes := by
    rw [taken_append]
    exact List.append_nil _
  rcases stopped with rfl | rfl
  all_goals
    constructor
    case totalBytes => exact same ▸ accounts.totalBytes
    case totalFrames => exact same ▸ accounts.totalFrames
    case parsedOk => exact same ▸ accounts.parsedOk
    case parseErrors => exact accounts.parseErrors
    case domains =>
      intro pd
      rw [same, ← accounts.domains]
      cases pd <;> rfl
    case idlePolls =>
      rw [stops_append, ← accounts.idlePolls]
      rfl
    case sourceExhausted =>
      rw [stops_append, ← accounts.sourceExhausted]
      rfl

/-- The account of one more frame that does not parse. -/
theorem Accounts.failed (accounts : Accounts parser config outcomes stats) {error : ParseError}
    (failed : parser.parseL3 config frame.data = .error error) :
    Accounts parser config (outcomes ++ [.ok frame]) (stats.countFrame frame.data).countError := by
  have frames : taken (outcomes ++ [.ok frame]) = taken outcomes ++ [frame.data] :=
    taken_append ..
  have messages : parser.messages config (taken (outcomes ++ [.ok frame])) =
      parser.messages config (taken outcomes) := by
    rw [frames, parser.messages_append, parser.messages_failed failed, List.append_nil]
  constructor
  case totalBytes =>
    rw [frames, List.map_append, List.sum_append, ← accounts.totalBytes]
    rfl
  case totalFrames =>
    rw [frames, List.length_append, ← accounts.totalFrames]
    rfl
  case parsedOk =>
    rw [messages]
    exact accounts.parsedOk
  case parseErrors =>
    have balanced := accounts.parseErrors
    change stats.parsedOk + (stats.parseErrors + 1) = stats.totalFrames + 1
    omega
  case domains =>
    intro pd
    rw [messages, ← accounts.domains]
    cases pd <;> rfl
  case idlePolls =>
    rw [stops_append, stops_frame]
    exact accounts.idlePolls
  case sourceExhausted =>
    rw [stops_append, stops_frame]
    exact accounts.sourceExhausted

/-- The account of one more frame that parses. -/
theorem Accounts.parsed (accounts : Accounts parser config outcomes stats) {msg : Msg}
    (parsed : parser.parseL3 config frame.data = .ok msg) :
    Accounts parser config (outcomes ++ [.ok frame])
      ((stats.countFrame frame.data).countMessage (parser.messagePD msg)) := by
  have frames : taken (outcomes ++ [.ok frame]) = taken outcomes ++ [frame.data] :=
    taken_append ..
  have messages : parser.messages config (taken (outcomes ++ [.ok frame])) =
      parser.messages config (taken outcomes) ++ [msg] := by
    rw [frames, parser.messages_append, parser.messages_parsed parsed]
  -- the switch runs on these counters
  obtain ⟨before, before_eq⟩ : ∃ before, before =
    { stats.countFrame frame.data with parsedOk := (stats.countFrame frame.data).parsedOk + 1 } :=
      ⟨_, rfl⟩
  obtain ⟨bytes, total, ok, errors, idle, exhausted⟩ :=
    before.categorize_totals (parser.messagePD msg)
  rw [StreamStats.countMessage, ← before_eq]
  constructor
  case totalBytes =>
    rw [bytes, frames, List.map_append, List.sum_append, ← accounts.totalBytes, before_eq]
    rfl
  case totalFrames =>
    rw [total, frames, List.length_append, ← accounts.totalFrames, before_eq]
    rfl
  case parsedOk =>
    rw [ok, messages, List.length_append, ← accounts.parsedOk, before_eq]
    rfl
  case parseErrors =>
    have balanced := accounts.parseErrors
    rw [ok, errors, total, before_eq]
    change stats.parsedOk + 1 + stats.parseErrors = stats.totalFrames + 1
    omega
  case domains =>
    intro pd
    have counted : before.ofDomain pd = stats.ofDomain pd := by
      rw [before_eq]
      cases pd <;> rfl
    rw [StreamStats.ofDomain_categorize, counted, messages, List.map_append, List.count_append,
      ← accounts.domains, List.map_singleton, List.count_singleton]
    simp only [beq_iff_eq]
  case idlePolls =>
    rw [stops_append, stops_frame, idle, before_eq]
    exact accounts.idlePolls
  case sourceExhausted =>
    rw [stops_append, stops_frame, exhausted, before_eq]
    exact accounts.sourceExhausted

end Accounts

/-! ## Turns and calls -/

namespace L3StreamProcessor

open L3Framer (Outcome)

variable {Msg : Type} {parser : FrameParser Msg} {processor middle next : L3StreamProcessor}
  {outcomes more : List Outcome} {rounds : Nat}

/-- A processor called its framer, and got this. -/
structure Took (parser : FrameParser Msg) (processor next : L3StreamProcessor)
    (outcomes : List Outcome) : Prop where
  reads : processor.framer.Reads outcomes next.framer
  config : next.config = processor.config
  counts : ∀ earlier, Accounts parser processor.config earlier processor.stats →
    Accounts parser processor.config (earlier ++ outcomes) next.stats

theorem Took.refl : Took parser processor processor [] where
  reads := .start
  config := rfl
  counts earlier accounts := by rwa [List.append_nil]

/-- Calls of a processor compose. -/
theorem Took.trans (first : Took parser processor middle outcomes)
    (second : Took parser middle next more) : Took parser processor next (outcomes ++ more) where
  reads := first.reads.trans second.reads
  config := second.config.trans first.config
  counts earlier accounts := by
    have later := second.counts (earlier ++ outcomes)
    rw [first.config] at later
    rw [← List.append_assoc]
    exact later (first.counts earlier accounts)

/-- What a turn means: no frame, a frame that does not parse, or one that does.  There is no
turn with a corrupt frame, for the framer goes on behind it. -/
inductive Turned (parser : FrameParser Msg) (processor next : L3StreamProcessor) :
    Turn Msg → Prop where
  | stopped {error : ParseError} :
      Took parser processor next [.error error] → Turned parser processor next .stopped
  | failed {error : ParseError} {frame : ExtractedFrame} :
      parser.parseL3 processor.config frame.data = .error error →
      Took parser processor next [.ok frame] →
      Turned parser processor next (.failed error frame.data)
  | handled {msg : Msg} {frame : ExtractedFrame} :
      parser.parseL3 processor.config frame.data = .ok msg →
      Took parser processor next [.ok frame] → Turned parser processor next (.handled msg frame)

/-- A call that finds no frame. -/
theorem took_stop {framer : L3Framer} {error : ParseError}
    (returned : processor.framer.nextFrame rounds = some (framer, .error error)) :
    Took parser processor
      { processor with framer := framer, stats := processor.stats.countStop error.code }
      [.error error] where
  reads := .single returned
  config := rfl
  counts _ accounts := accounts.countStop (L3Framer.nextFrame_stops returned)

/-- A call whose frame does not parse. -/
theorem took_failed {framer : L3Framer} {frame : ExtractedFrame} {error : ParseError}
    (returned : processor.framer.nextFrame rounds = some (framer, .ok frame))
    (failed : parser.parseL3 processor.config frame.data = .error error) :
    Took parser processor
      { processor with
        framer := framer, stats := (processor.stats.countFrame frame.data).countError }
      [.ok frame] where
  reads := .single returned
  config := rfl
  counts _ accounts := accounts.failed failed

/-- A call whose frame parses. -/
theorem took_parsed {framer : L3Framer} {frame : ExtractedFrame} {msg : Msg}
    (returned : processor.framer.nextFrame rounds = some (framer, .ok frame))
    (parsed : parser.parseL3 processor.config frame.data = .ok msg) :
    Took parser processor
      { processor with
        framer := framer
        stats := (processor.stats.countFrame frame.data).countMessage (parser.messagePD msg) }
      [.ok frame] where
  reads := .single returned
  config := rfl
  counts _ accounts := accounts.parsed parsed

/-- What one turn of the processor does. -/
theorem turn_turned {turn : Turn Msg}
    (turned : processor.turn parser rounds = some (next, turn)) :
    Turned parser processor next turn := by
  rw [L3StreamProcessor.turn] at turned
  split at turned
  case h_1 => cases turned
  case h_2 framer error returned =>
    have code : error.code = .truncatedInput ∨ error.code = .sourceExhausted := by
      rcases L3Framer.nextFrame_stops returned with rfl | rfl
      · exact .inr rfl
      · exact .inl rfl
    rw [if_pos code] at turned
    obtain ⟨rfl, rfl⟩ := Prod.mk.inj (Option.some.inj turned)
    exact .stopped (took_stop returned)
  case h_3 framer frame returned =>
    simp only at turned
    split at turned
    case h_1 error failed =>
      obtain ⟨rfl, rfl⟩ := Prod.mk.inj (Option.some.inj turned)
      exact .failed failed (took_failed returned failed)
    case h_2 msg parsed =>
      obtain ⟨rfl, rfl⟩ := Prod.mk.inj (Option.some.inj turned)
      exact .handled parsed (took_parsed returned parsed)

/-- A call that got this from the framer, and delivered the messages of the frames. -/
structure Delivers (parser : FrameParser Msg) (processor next : L3StreamProcessor)
    (outcomes : List Outcome) (messages : List Msg) : Prop extends
    Took parser processor next outcomes where
  messages : messages = parser.messages processor.config (taken outcomes)

theorem Delivers.refl : Delivers parser processor processor [] [] :=
  ⟨.refl, rfl⟩

/-- Deliveries compose. -/
theorem Delivers.trans {earlier later : List Msg}
    (first : Delivers parser processor middle outcomes earlier)
    (second : Delivers parser middle next more later) :
    Delivers parser processor next (outcomes ++ more) (earlier ++ later) where
  toTook := first.toTook.trans second.toTook
  messages := by
    rw [first.messages, second.messages, first.config, taken_append, parser.messages_append]

/-- Without a frame nothing is delivered. -/
theorem Delivers.stopped {error : ParseError} (took : Took parser processor next [.error error]) :
    Delivers parser processor next [.error error] [] :=
  ⟨took, rfl⟩

/-- A frame that does not parse delivers nothing. -/
theorem Delivers.failed {frame : ExtractedFrame} {error : ParseError}
    (failed : parser.parseL3 processor.config frame.data = .error error)
    (took : Took parser processor next [.ok frame]) :
    Delivers parser processor next [.ok frame] [] :=
  ⟨took, (parser.messages_failed failed).symm⟩

/-- A frame that parses delivers its message. -/
theorem Delivers.handled {frame : ExtractedFrame} {msg : Msg}
    (parsed : parser.parseL3 processor.config frame.data = .ok msg)
    (took : Took parser processor next [.ok frame]) :
    Delivers parser processor next [.ok frame] [msg] :=
  ⟨took, (parser.messages_parsed parsed).symm⟩

/-- One call delivers at most one message. -/
theorem processOne_delivers {message : Option Msg}
    (called : processor.processOne parser rounds = some (next, message)) :
    ∃ outcome, Delivers parser processor next [outcome] message.toList := by
  rw [processOne] at called
  split at called
  case h_1 => cases called
  case h_2 framer error returned =>
    obtain ⟨rfl, rfl⟩ := Prod.mk.inj (Option.some.inj called)
    exact ⟨_, .stopped (took_stop returned)⟩
  case h_3 framer frame returned =>
    simp only at called
    split at called
    case h_1 error failed =>
      obtain ⟨rfl, rfl⟩ := Prod.mk.inj (Option.some.inj called)
      exact ⟨_, .failed failed (took_failed returned failed)⟩
    case h_2 msg parsed =>
      obtain ⟨rfl, rfl⟩ := Prod.mk.inj (Option.some.inj called)
      exact ⟨_, .handled parsed (took_parsed returned parsed)⟩

/-- By induction on the turns. -/
theorem processUntilEOF_delivers {turns : Nat} {deliveries : List (Delivery Msg)}
    (called : processor.processUntilEOF parser rounds turns = some (next, deliveries)) :
    ∃ outcomes, outcomes ≠ [] ∧
      Delivers parser processor next outcomes (deliveries.filterMap Delivery.message?) := by
  induction turns generalizing processor deliveries with
  | zero => cases called
  | succ turns ih =>
      rw [processUntilEOF] at called
      split at called
      case h_1 => cases called
      case h_2 stopped turned =>
        obtain ⟨rfl, rfl⟩ := Prod.mk.inj (Option.some.inj called)
        cases turn_turned turned with
        | stopped took => exact ⟨_, List.cons_ne_nil _ _, .stopped took⟩
      case h_3 turned => cases turn_turned turned
      case h_4 after error data turned =>
        obtain ⟨⟨last, rest⟩, goes_on, same⟩ := Option.map_eq_some_iff.mp called
        obtain ⟨rfl, rfl⟩ := Prod.mk.inj same
        obtain ⟨outcomes, -, later⟩ := ih goes_on
        cases turn_turned turned with
        | failed failed took =>
            exact ⟨_, List.cons_ne_nil _ _, (Delivers.failed failed took).trans later⟩
      case h_5 after msg frame turned =>
        obtain ⟨⟨last, rest⟩, goes_on, same⟩ := Option.map_eq_some_iff.mp called
        obtain ⟨rfl, rfl⟩ := Prod.mk.inj same
        obtain ⟨outcomes, -, later⟩ := ih goes_on
        cases turn_turned turned with
        | handled parsed took =>
            exact ⟨_, List.cons_ne_nil _ _, (Delivers.handled parsed took).trans later⟩

/-- No more calls are made than frames asked for. -/
theorem processN_delivers {turns count : Nat} {deliveries : List (Delivery Msg)}
    (called : processor.processN parser rounds turns count = some (next, deliveries)) :
    ∃ outcomes, outcomes.length ≤ count ∧ (outcomes = [] → count = 0) ∧
      Delivers parser processor next outcomes (deliveries.filterMap Delivery.message?) := by
  induction turns generalizing processor count deliveries with
  | zero =>
      cases count with
      | zero =>
          obtain ⟨rfl, rfl⟩ := Prod.mk.inj (Option.some.inj called)
          exact ⟨[], le_rfl, fun _ => rfl, .refl⟩
      | succ => cases called
  | succ turns ih =>
      cases count with
      | zero =>
          obtain ⟨rfl, rfl⟩ := Prod.mk.inj (Option.some.inj called)
          exact ⟨[], le_rfl, fun _ => rfl, .refl⟩
      | succ count =>
          rw [processN] at called
          split at called
          case h_1 => cases called
          case h_2 stopped turned =>
            obtain ⟨rfl, rfl⟩ := Prod.mk.inj (Option.some.inj called)
            cases turn_turned turned with
            | stopped took => exact ⟨[_], Nat.succ_le_succ (Nat.zero_le _), nofun, .stopped took⟩
          case h_3 turned => cases turn_turned turned
          case h_4 after error data turned =>
            obtain ⟨⟨last, rest⟩, goes_on, same⟩ := Option.map_eq_some_iff.mp called
            obtain ⟨rfl, rfl⟩ := Prod.mk.inj same
            obtain ⟨outcomes, fewer, -, later⟩ := ih goes_on
            cases turn_turned turned with
            | failed failed took =>
                exact ⟨_ :: outcomes, Nat.succ_le_succ fewer, nofun,
                  (Delivers.failed failed took).trans later⟩
          case h_5 after msg frame turned =>
            obtain ⟨⟨last, rest⟩, goes_on, same⟩ := Option.map_eq_some_iff.mp called
            obtain ⟨rfl, rfl⟩ := Prod.mk.inj same
            obtain ⟨outcomes, fewer, -, later⟩ := ih goes_on
            cases turn_turned turned with
            | handled parsed took =>
                exact ⟨_ :: outcomes, Nat.succ_le_succ fewer, nofun,
                  (Delivers.handled parsed took).trans later⟩

/-! ## Every call returns -/

/-- More rounds do not change what a turn did. -/
theorem turn_mono {enough : Nat} {result : L3StreamProcessor × Turn Msg}
    (turned : processor.turn parser rounds = some result) (le : rounds ≤ enough) :
    processor.turn parser enough = some result := by
  rw [turn] at turned ⊢
  cases returned : processor.framer.nextFrame rounds with
  | none =>
      rw [returned] at turned
      cases turned
  | some found =>
      rw [returned] at turned
      rw [L3Framer.nextFrame_mono returned le]
      exact turned

/-- Every turn ends within some number of rounds. -/
theorem turn_returns (placed : processor.framer.pos ≤ processor.framer.data.length)
    (header : 2 ≤ processor.framer.config.minHeaderLength) :
    ∃ rounds next turn, processor.turn parser rounds = some (next, turn) := by
  obtain ⟨rounds, framer, result, returned⟩ := L3Framer.nextFrame_returns placed header
  refine ⟨rounds, ?_⟩
  rw [turn, returned]
  cases result with
  | error error =>
      by_cases code : error.code = .truncatedInput ∨ error.code = .sourceExhausted
      · exact ⟨_, _, if_pos code⟩
      · exact ⟨_, _, if_neg code⟩
  | ok frame =>
      cases parsed : parser.parseL3 processor.config frame.data with
      | error error => exact ⟨_, _, by simp only [parsed]; rfl⟩
      | ok msg => exact ⟨_, _, by simp only [parsed]; rfl⟩

/-- A frame taken leaves fewer octets. -/
theorem Took.consumed (placed : processor.framer.pos ≤ processor.framer.data.length)
    (header : 2 ≤ processor.framer.config.minHeaderLength) {frame : ExtractedFrame}
    (took : Took parser processor next [.ok frame]) :
    next.framer.pending.length < processor.framer.pending.length :=
  took.reads.consumed placed header List.mem_cons_self

/-- More rounds and turns do not change what the call did. -/
theorem processUntilEOF_mono {enough turns more : Nat}
    {result : L3StreamProcessor × List (Delivery Msg)}
    (called : processor.processUntilEOF parser rounds turns = some result) (le : rounds ≤ enough)
    (further : turns ≤ more) : processor.processUntilEOF parser enough more = some result := by
  induction turns generalizing processor more result with
  | zero => cases called
  | succ turns ih =>
      obtain ⟨more, rfl⟩ :=
        Nat.exists_eq_add_of_le' (Nat.le_trans (Nat.le_add_left 1 turns) further)
      have further := Nat.le_of_succ_le_succ further
      rw [processUntilEOF] at called ⊢
      cases turned : processor.turn parser rounds with
      | none =>
          rw [turned] at called
          cases called
      | some found =>
          obtain ⟨after, turn⟩ := found
          rw [turned] at called
          rw [turn_mono turned le]
          cases turn with
          | stopped => exact called
          | corrupt error =>
              obtain ⟨rest, goes_on, rfl⟩ := Option.map_eq_some_iff.mp called
              exact Option.map_eq_some_iff.mpr ⟨rest, ih goes_on further, rfl⟩
          | failed error data =>
              obtain ⟨rest, goes_on, rfl⟩ := Option.map_eq_some_iff.mp called
              exact Option.map_eq_some_iff.mpr ⟨rest, ih goes_on further, rfl⟩
          | handled msg frame =>
              obtain ⟨rest, goes_on, rfl⟩ := Option.map_eq_some_iff.mp called
              exact Option.map_eq_some_iff.mpr ⟨rest, ih goes_on further, rfl⟩

/-- More rounds and turns do not change what the call did. -/
theorem processN_mono {enough turns more count : Nat}
    {result : L3StreamProcessor × List (Delivery Msg)}
    (called : processor.processN parser rounds turns count = some result) (le : rounds ≤ enough)
    (further : turns ≤ more) : processor.processN parser enough more count = some result := by
  induction turns generalizing processor more count result with
  | zero =>
      cases count with
      | zero => cases more <;> exact called
      | succ => cases called
  | succ turns ih =>
      obtain ⟨more, rfl⟩ :=
        Nat.exists_eq_add_of_le' (Nat.le_trans (Nat.le_add_left 1 turns) further)
      have further := Nat.le_of_succ_le_succ further
      cases count with
      | zero => exact called
      | succ count =>
          rw [processN] at called ⊢
          cases turned : processor.turn parser rounds with
          | none =>
              rw [turned] at called
              cases called
          | some found =>
              obtain ⟨after, turn⟩ := found
              rw [turned] at called
              rw [turn_mono turned le]
              cases turn with
              | stopped => exact called
              | corrupt error =>
                  obtain ⟨rest, goes_on, rfl⟩ := Option.map_eq_some_iff.mp called
                  exact Option.map_eq_some_iff.mpr ⟨rest, ih goes_on further, rfl⟩
              | failed error data =>
                  obtain ⟨rest, goes_on, rfl⟩ := Option.map_eq_some_iff.mp called
                  exact Option.map_eq_some_iff.mpr ⟨rest, ih goes_on further, rfl⟩
              | handled msg frame =>
                  obtain ⟨rest, goes_on, rfl⟩ := Option.map_eq_some_iff.mp called
                  exact Option.map_eq_some_iff.mpr ⟨rest, ih goes_on further, rfl⟩

/-- The loop ends, for each turn but the last takes a frame. -/
theorem processUntilEOF_returns (placed : processor.framer.pos ≤ processor.framer.data.length)
    (header : 2 ≤ processor.framer.config.minHeaderLength) :
    ∃ bound result, processor.processUntilEOF parser bound bound = some result := by
  induction octets : processor.framer.pending.length using Nat.strong_induction_on
    generalizing processor with
  | _ octets ih =>
      obtain ⟨rounds, after, turn, turned⟩ :
          ∃ rounds after turn, processor.turn parser rounds = some (after, turn) :=
        turn_returns placed header
      -- the loop goes on behind a frame
      have goes_on : ∀ {frame : ExtractedFrame}, Took parser processor after [.ok frame] →
          ∃ bound result, rounds ≤ bound ∧
            after.processUntilEOF parser bound bound = some result := by
        intro frame took
        have kept := took.reads.kept placed header
        obtain ⟨bound, result, called⟩ := ih _ (octets ▸ took.consumed placed header) kept.placed
          (kept.header header) rfl
        exact ⟨max rounds bound, result, Nat.le_max_left .., processUntilEOF_mono called
          (Nat.le_max_right ..) (Nat.le_max_right ..)⟩
      have returns : ∀ {bound : Nat} {result : L3StreamProcessor × List (Delivery Msg)},
          rounds ≤ bound → processor.processUntilEOF parser bound (bound + 1) = some result →
          ∃ bound result, processor.processUntilEOF parser bound bound = some result := by
        intro bound result _ called
        exact ⟨bound + 1, result, processUntilEOF_mono called (Nat.le_succ _) le_rfl⟩
      have turning : ∀ bound, rounds ≤ bound → processor.turn parser bound = some (after, turn) :=
        fun _ le => turn_mono turned le
      cases turn_turned turned with
      | stopped took =>
          apply returns le_rfl
          rw [processUntilEOF, turning rounds le_rfl]
      | failed failed took =>
          obtain ⟨bound, result, le, called⟩ := goes_on took
          apply returns le
          rw [processUntilEOF, turning bound le]
          exact congrArg (Option.map _) called
      | handled parsed took =>
          obtain ⟨bound, result, le, called⟩ := goes_on took
          apply returns le
          rw [processUntilEOF, turning bound le]
          exact congrArg (Option.map _) called

/-- By induction on the frames asked for. -/
theorem processN_returns (placed : processor.framer.pos ≤ processor.framer.data.length)
    (header : 2 ≤ processor.framer.config.minHeaderLength) (count : Nat) :
    ∃ bound result, processor.processN parser bound bound count = some result := by
  induction count generalizing processor with
  | zero => exact ⟨0, _, rfl⟩
  | succ count ih =>
      obtain ⟨rounds, after, turn, turned⟩ :
          ∃ rounds after turn, processor.turn parser rounds = some (after, turn) :=
        turn_returns placed header
      have goes_on : ∀ {frame : ExtractedFrame}, Took parser processor after [.ok frame] →
          ∃ bound result, rounds ≤ bound ∧
            after.processN parser bound bound count = some result := by
        intro frame took
        have kept := took.reads.kept placed header
        obtain ⟨bound, result, called⟩ := ih kept.placed (kept.header header)
        exact ⟨max rounds bound, result, Nat.le_max_left .., processN_mono called
          (Nat.le_max_right ..) (Nat.le_max_right ..)⟩
      have returns : ∀ {bound : Nat} {result : L3StreamProcessor × List (Delivery Msg)},
          rounds ≤ bound → processor.processN parser bound (bound + 1) (count + 1) = some result →
          ∃ bound result, processor.processN parser bound bound (count + 1) = some result := by
        intro bound result _ called
        exact ⟨bound + 1, result, processN_mono called (Nat.le_succ _) le_rfl⟩
      have turning : ∀ bound, rounds ≤ bound → processor.turn parser bound = some (after, turn) :=
        fun _ le => turn_mono turned le
      cases turn_turned turned with
      | stopped took =>
          apply returns le_rfl
          rw [processN, turning rounds le_rfl]
      | failed failed took =>
          obtain ⟨bound, result, le, called⟩ := goes_on took
          apply returns le
          rw [processN, turning bound le]
          exact congrArg (Option.map _) called
      | handled parsed took =>
          obtain ⟨bound, result, le, called⟩ := goes_on took
          apply returns le
          rw [processN, turning bound le]
          exact congrArg (Option.map _) called

end L3StreamProcessor

/-! ## Processors in use -/

namespace Processing

open L3StreamProcessor
open L3Framer (Outcome)

variable {Msg : Type} {parser : FrameParser Msg} {processor : L3StreamProcessor}
  {processing target : Processing Msg}

/-- A call that keeps the counters takes frames and delivers their messages; only a call for no
frame calls the framer not at all. -/
theorem perform_delivers {call : StreamCall} {bound : Nat} (kept : call ≠ .resetStats)
    (performed : processing.perform parser call bound = some target) :
    ∃ outcomes messages, (outcomes = [] → call = .processN 0) ∧
      Delivers parser processing.processor target.processor outcomes messages ∧
      target.messages = processing.messages ++ messages := by
  cases call with
  | resetStats => exact absurd rfl kept
  | processOne =>
      obtain ⟨⟨next, message⟩, called, rfl⟩ := Option.map_eq_some_iff.mp performed
      obtain ⟨outcome, delivers⟩ := processOne_delivers called
      exact ⟨[outcome], _, nofun, delivers, rfl⟩
  | processN count =>
      obtain ⟨⟨next, deliveries⟩, called, rfl⟩ := Option.map_eq_some_iff.mp performed
      obtain ⟨outcomes, -, none, delivers⟩ := processN_delivers called
      exact ⟨outcomes, _, fun empty => congrArg StreamCall.processN (none empty), delivers, rfl⟩
  | processUntilEOF =>
      obtain ⟨⟨next, deliveries⟩, called, rfl⟩ := Option.map_eq_some_iff.mp performed
      obtain ⟨outcomes, some_call, delivers⟩ := processUntilEOF_delivers called
      exact ⟨outcomes, _, fun empty => absurd empty some_call, delivers, rfl⟩

/-- The calls since the counters were cleared. -/
def Counting (_ : Processing Msg) (event : StreamCall × Nat) (_ : Processing Msg) : Prop :=
  event.1 ≠ .resetStats

/-- A run of calls is one call that takes all the frames. -/
theorem run_delivers {events : List (StreamCall × Nat)}
    (run : (machine parser).Run Counting { processor := processor } events processing) :
    ∃ outcomes, Delivers parser processor processing.processor outcomes processing.messages := by
  refine run.invariant
    (fun _ reached => ∃ outcomes, Delivers parser processor reached.processor outcomes
      reached.messages) ⟨[], .refl⟩ ?_
  intro past source target event before stepped counting
  obtain ⟨outcomes, earlier⟩ := before
  obtain ⟨more, messages, -, later, appended⟩ := perform_delivers counting stepped
  exact ⟨outcomes ++ more, appended ▸ earlier.trans later⟩

/-- In whatever order a processor is called, it reads its source as calls of `nextFrame` do,
hands over the messages of the frames that parse in their order, once each, and its counters
are the numbers of these calls, octets, frames and messages. -/
theorem run_accounts (cleared : processor.stats = {}) {events : List (StreamCall × Nat)}
    (run : (machine parser).Run Counting { processor := processor } events processing) :
    ∃ outcomes, processor.framer.Reads outcomes processing.processor.framer ∧
      processing.messages = parser.messages processor.config (taken outcomes) ∧
      Accounts parser processor.config outcomes processing.processor.stats := by
  obtain ⟨outcomes, delivers⟩ := run_delivers run
  have counted := delivers.counts []
  rw [cleared] at counted
  exact ⟨outcomes, delivers.reads, delivers.messages, counted .empty⟩

/-- A channel request, and a length octet without its frame. -/
theorem run_accounts_span :
    ∃ (outcomes : List Outcome) (reached : Processing (ParsedMessage Empty)),
      reached.messages = [.channelRequest 0x0A] ∧
      (L3StreamProcessor.new (.span [1, 0x0A, 2])).framer.Reads outcomes
        reached.processor.framer ∧
      reached.processor.stats.totalFrames = (taken outcomes).length := by
  have run : (machine (.standard (fun _ => throw Parser.trailingData) Empty.elim)).Run Counting
      { processor := L3StreamProcessor.new (.span [1, 0x0A, 2]) } [(.processUntilEOF, 4)] _ :=
    .next .origin rfl nofun
  obtain ⟨outcomes, reads, -, accounts⟩ := run_accounts rfl run
  exact ⟨outcomes, _, by rfl, reads, accounts.totalFrames⟩

/-- Whatever was called before, and whatever the source still delivers, every call returns. -/
theorem run_returns (placed : processor.framer.pos ≤ processor.framer.data.length)
    (header : 2 ≤ processor.framer.config.minHeaderLength) {events : List (StreamCall × Nat)}
    (run : (machine parser).Run (fun _ _ _ => True) { processor := processor } events processing)
    (call : StreamCall) :
    ∃ bound target, processing.perform parser call bound = some target := by
  have kept : L3Framer.Kept processor.framer processing.processor.framer := by
    refine run.invariant
      (fun _ reached => L3Framer.Kept processor.framer reached.processor.framer)
      ⟨placed, rfl, rfl, le_rfl, le_rfl⟩ ?_
    intro past source target event before stepped _
    by_cases reset : event.1 = .resetStats
    · change source.perform parser event.1 event.2 = some target at stepped
      rw [reset] at stepped
      obtain rfl := Option.some.inj stepped
      exact before
    · obtain ⟨outcomes, messages, -, delivers, -⟩ := perform_delivers reset stepped
      exact before.trans (delivers.reads.kept before.placed (before.header header))
  cases call with
  | resetStats => exact ⟨0, _, rfl⟩
  | processOne =>
      obtain ⟨rounds, framer, result, returned⟩ :=
        L3Framer.nextFrame_returns kept.placed (kept.header header)
      refine ⟨rounds, ?_⟩
      rw [perform, processOne, returned]
      cases result with
      | error error => exact ⟨_, rfl⟩
      | ok frame =>
          cases parsed : parser.parseL3 processing.processor.config frame.data with
          | error error => exact ⟨_, by simp only [parsed]; rfl⟩
          | ok msg => exact ⟨_, by simp only [parsed]; rfl⟩
  | processN count =>
      obtain ⟨bound, result, called⟩ :
          ∃ bound result, processing.processor.processN parser bound bound count = some result :=
        processN_returns kept.placed (kept.header header) count
      exact ⟨bound, _, by rw [perform, called]; rfl⟩
  | processUntilEOF =>
      obtain ⟨bound, result, called⟩ :
          ∃ bound result, processing.processor.processUntilEOF parser bound bound = some result :=
        processUntilEOF_returns kept.placed (kept.header header)
      exact ⟨bound, _, by rw [perform, called]; rfl⟩

theorem run_returns_live :
    ∃ bound, ∃ target : Processing (ParsedMessage Empty),
      perform (.standard (fun _ => throw Parser.trailingData) Empty.elim)
        { processor := L3StreamProcessor.new { chunks := [[1, 0x0A], [], [1]], live := true } }
        .processUntilEOF bound = some target :=
  run_returns (Nat.zero_le _) le_rfl .origin .processUntilEOF

end Processing

end Bitstream

end Gsml3
