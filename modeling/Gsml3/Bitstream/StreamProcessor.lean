import Gsml3.Bitstream.HeaderProgress
import Gsml3.Parser
import Gsml3.Stack.Message

/-!
# Stream processors

`L3StreamProcessor` parses the frames that an `L3Framer` cuts from a source, and
`ZeroCopyStreamProcessor` those that an `InlineFramer` cuts from a buffer.  Both count what
they see.  The parser of a frame is a parameter.
-/

namespace Gsml3

namespace Bitstream

open Stack (L3PD)

/-! ## Statistics -/

/-- Running statistics for stream processing.  The counters are those of 64 bits as long as they
stay below `2 ^ 64`. -/
structure StreamStats where
  totalBytes : Nat := 0
  totalFrames : Nat := 0
  parsedOk : Nat := 0
  parseErrors : Nat := 0
  idlePolls : Nat := 0
  sourceExhausted : Nat := 0
  unsupportedPD : Nat := 0
  rrMessages : Nat := 0
  mmMessages : Nat := 0
  ccMessages : Nat := 0
  ssMessages : Nat := 0
  gmmMessages : Nat := 0
  smMessages : Nat := 0
  smsMessages : Nat := 0
  bccMessages : Nat := 0
  gccMessages : Nat := 0
  lsMessages : Nat := 0
  pdss1Messages : Nat := 0
  extendedMessages : Nat := 0
  testprocMessages : Nat := 0
deriving DecidableEq, Repr

namespace StreamStats

/-- The switch over the discriminator of a message. -/
def categorize (stats : StreamStats) : L3PD → StreamStats
  | .radioResource => { stats with rrMessages := stats.rrMessages + 1 }
  | .mobilityManagement => { stats with mmMessages := stats.mmMessages + 1 }
  | .callControl => { stats with ccMessages := stats.ccMessages + 1 }
  | .nonCallSS => { stats with ssMessages := stats.ssMessages + 1 }
  | .gprsMobilityManagement => { stats with gmmMessages := stats.gmmMessages + 1 }
  | .gprsSessionManagement => { stats with smMessages := stats.smMessages + 1 }
  | .sms => { stats with smsMessages := stats.smsMessages + 1 }
  | .broadcastCallControl => { stats with bccMessages := stats.bccMessages + 1 }
  | .groupCallControl => { stats with gccMessages := stats.gccMessages + 1 }
  | .location => { stats with lsMessages := stats.lsMessages + 1 }
  | .packetDomainSupplementaryServices1 => { stats with pdss1Messages := stats.pdss1Messages + 1 }
  | .packetDomainSupplementaryServices2 =>
      { stats with extendedMessages := stats.extendedMessages + 1 }
  | .testProcedure => { stats with testprocMessages := stats.testprocMessages + 1 }
  | .undefined => { stats with unsupportedPD := stats.unsupportedPD + 1 }

/-- A frame was extracted. -/
def countFrame (stats : StreamStats) (data : List UInt8) : StreamStats :=
  { stats with
    totalBytes := stats.totalBytes + data.length
    totalFrames := stats.totalFrames + 1 }

/-- One more message that could not be parsed. -/
def countError (stats : StreamStats) : StreamStats :=
  { stats with parseErrors := stats.parseErrors + 1 }

/-- One more message, counted by its discriminator too. -/
def countMessage (stats : StreamStats) (pd : L3PD) : StreamStats :=
  { stats with parsedOk := stats.parsedOk + 1 }.categorize pd

/-- A call found no frame. -/
def countStop (stats : StreamStats) (code : ParseError.Code) : StreamStats :=
  if code = .sourceExhausted then { stats with sourceExhausted := stats.sourceExhausted + 1 }
  else { stats with idlePolls := stats.idlePolls + 1 }

end StreamStats

/-! ## The parser of a frame -/

/-- Whether a message must use up its octets. -/
structure ParserConfig where
  requireFullConsumption : Bool := false
deriving DecidableEq, Repr

/-- `parseL3` and `messagePD`. -/
structure FrameParser (Msg : Type) where
  parseL3 : ParserConfig → List UInt8 → Except ParseError Msg
  messagePD : Msg → L3PD

/-- The parser of this model; `pd` are the discriminators of the messages outside the
fixed-length table. -/
def FrameParser.standard {M : Type} (others : L3Header → FieldParser M) (pd : M → L3PD) :
    FrameParser (ParsedMessage M) where
  parseL3 config := Parser.parseL3 others config.requireFullConsumption
  messagePD
    | .fixed msg =>
        match msg.pd with
        | 0x06 => .radioResource
        | 0x05 => .mobilityManagement
        | 0x03 => .callControl
        | 0x01 => .broadcastCallControl
        | _ => .groupCallControl
    | .channelRequest _ | .handoverAccess _ => .radioResource
    | .other msg => pd msg

/-! ## The stream processor -/

/-- The processor over a source. -/
structure L3StreamProcessor where
  framer : L3Framer
  config : ParserConfig := {}
  stats : StreamStats := {}
deriving DecidableEq, Repr

/-- A call of a `FrameHandler`. -/
inductive Delivery (Msg : Type) where
  | onFrame (msg : Msg) (raw : ExtractedFrame)
  | onError (error : ParseError) (data : List UInt8)
  | onStats (stats : StreamStats)
deriving DecidableEq, Repr

/-- How a turn of the loops over the frames goes. -/
inductive Turn (Msg : Type) where
  | stopped
  | corrupt (error : ParseError)
  | failed (error : ParseError) (data : List UInt8)
  | handled (msg : Msg) (frame : ExtractedFrame)
deriving DecidableEq, Repr

namespace L3StreamProcessor

variable {Msg : Type} (parser : FrameParser Msg)

/-- A new processor over a source. -/
def new (source : ByteSource) (config : ParserConfig := {}) (frames : FrameConfig := {}) :
    L3StreamProcessor where
  framer := { source := source, config := frames }
  config := config

/-- Process one frame if available, and hand its message to the handler; the call returns true
if it did.  There is no result if the framer takes more than `rounds` rounds. -/
def processOne (rounds : Nat) (processor : L3StreamProcessor) :
    Option (L3StreamProcessor × Option Msg) :=
  match processor.framer.nextFrame rounds with
  | none => none
  | some (framer, .error error) =>
      some
        ({ processor with framer := framer, stats := processor.stats.countStop error.code }, none)
  | some (framer, .ok frame) =>
      let stats := processor.stats.countFrame frame.data
      match parser.parseL3 processor.config frame.data with
      | .error _ => some ({ processor with framer := framer, stats := stats.countError }, none)
      | .ok msg =>
          let stats := stats.countMessage (parser.messagePD msg)
          some ({ processor with framer := framer, stats := stats }, some msg)

/-- A turn of the loops of `processUntilEOF` and `processN`. -/
def turn (rounds : Nat) (processor : L3StreamProcessor) :
    Option (L3StreamProcessor × Turn Msg) :=
  match processor.framer.nextFrame rounds with
  | none => none
  | some (framer, .error error) =>
      if error.code = .truncatedInput ∨ error.code = .sourceExhausted then
        some ({ processor with framer := framer, stats := processor.stats.countStop error.code },
          .stopped)
      else
        some ({ processor with framer := framer, stats := processor.stats.countError },
          .corrupt error)
  | some (framer, .ok frame) =>
      let stats := processor.stats.countFrame frame.data
      match parser.parseL3 processor.config frame.data with
      | .error error =>
          some ({ processor with framer := framer, stats := stats.countError },
            .failed error frame.data)
      | .ok msg =>
          let stats := stats.countMessage (parser.messagePD msg)
          some ({ processor with framer := framer, stats := stats }, .handled msg frame)

/-- Process all frames until there is none; `turns` bounds the turns of the loop. -/
def processUntilEOF (rounds : Nat) :
    Nat → L3StreamProcessor → Option (L3StreamProcessor × List (Delivery Msg))
  | 0, _ => none
  | turns + 1, processor =>
      match processor.turn parser rounds with
      | none => none
      | some (processor, .stopped) => some (processor, [])
      | some (processor, .corrupt error) =>
          (processUntilEOF rounds turns processor).map fun rest =>
            (rest.1, .onError error [] :: rest.2)
      | some (processor, .failed error data) =>
          (processUntilEOF rounds turns processor).map fun rest =>
            (rest.1, .onError error data :: rest.2)
      | some (processor, .handled msg frame) =>
          (processUntilEOF rounds turns processor).map fun rest =>
            (rest.1, .onFrame msg frame :: .onStats processor.stats :: rest.2)

/-- Process exactly `count` frames, or until there is none. -/
def processN (rounds : Nat) :
    Nat → Nat → L3StreamProcessor → Option (L3StreamProcessor × List (Delivery Msg))
  | _, 0, processor => some (processor, [])
  | 0, _ + 1, _ => none
  | turns + 1, count + 1, processor =>
      match processor.turn parser rounds with
      | none => none
      | some (processor, .stopped) => some (processor, [])
      | some (processor, .corrupt error) =>
          (processN rounds turns (count + 1) processor).map fun rest =>
            (rest.1, .onError error [] :: rest.2)
      | some (processor, .failed error data) =>
          (processN rounds turns count processor).map fun rest =>
            (rest.1, .onError error data :: rest.2)
      | some (processor, .handled msg frame) =>
          (processN rounds turns count processor).map fun rest =>
            (rest.1, .onFrame msg frame :: rest.2)

/-- All counters go back to 0. -/
def resetStats (processor : L3StreamProcessor) : L3StreamProcessor :=
  { processor with stats := {} }

end L3StreamProcessor

/-! ## Calls -/

/-- A call of a stream processor. -/
inductive StreamCall where
  | processOne
  | processN (count : Nat)
  | processUntilEOF
  | resetStats
deriving DecidableEq, Repr

/-- A processor in use, with the calls of the handler since it was built: the messages that
`processOne` hands over count as calls of `onFrame` without the frame. -/
structure Processing (Msg : Type) where
  processor : L3StreamProcessor
  messages : List Msg := []
deriving DecidableEq, Repr

/-- The messages among the calls of a handler. -/
def Delivery.message? {Msg : Type} : Delivery Msg → Option Msg
  | .onFrame msg _ => some msg
  | _ => none

namespace Processing

variable {Msg : Type} (parser : FrameParser Msg)

/-- Perform a call, within `bound` rounds of the framer for a frame and as many turns. -/
def perform (processing : Processing Msg) (call : StreamCall) (bound : Nat) :
    Option (Processing Msg) :=
  match call with
  | .processOne =>
      (processing.processor.processOne parser bound).map fun result =>
        { processor := result.1, messages := processing.messages ++ result.2.toList }
  | .processN count =>
      (processing.processor.processN parser bound bound count).map fun result =>
        { processor := result.1
          messages := processing.messages ++ result.2.filterMap Delivery.message? }
  | .processUntilEOF =>
      (processing.processor.processUntilEOF parser bound bound).map fun result =>
        { processor := result.1
          messages := processing.messages ++ result.2.filterMap Delivery.message? }
  | .resetStats => some { processing with processor := processing.processor.resetStats }

/-- The events are the calls, with a bound within which they return. -/
def machine : Foundation.Machine (Processing Msg) (StreamCall × Nat) where
  step processing event := processing.perform parser event.1 event.2

end Processing

/-! ## The processor of a buffer -/

/-- The processor over a buffer that is there as a whole. -/
structure ZeroCopyStreamProcessor where
  framer : InlineFramer
  stats : StreamStats := {}
deriving DecidableEq, Repr

namespace ZeroCopyStreamProcessor

variable {Msg : Type} (parser : FrameParser Msg)

/-- A processor at the start of a buffer. -/
def new (data : List UInt8) (useL2Length : Bool := true) : ZeroCopyStreamProcessor where
  framer := { data := data, useL2Length := useL2Length }

/-- Parse the next message; none if there is no more data or the frame does not parse. -/
def nextMessage (processor : ZeroCopyStreamProcessor) : ZeroCopyStreamProcessor × Option Msg :=
  match processor.framer.nextFrame with
  | (framer, none) => ({ processor with framer := framer }, none)
  | (framer, some data) =>
      let stats := processor.stats.countFrame data
      match parser.parseL3 {} data with
      | .error _ => ({ framer := framer, stats := stats.countError }, none)
      | .ok msg =>
          ({ framer := framer, stats := stats.countMessage (parser.messagePD msg) }, some msg)

/-- Call the handler for each message until there is no frame; there is no result if that takes
more than `turns` turns. -/
def forEach : Nat → ZeroCopyStreamProcessor → Option (ZeroCopyStreamProcessor × List Msg)
  | 0, _ => none
  | turns + 1, processor =>
      match processor.framer.nextFrame with
      | (framer, none) => some ({ processor with framer := framer }, [])
      | (framer, some data) =>
          let stats := processor.stats.countFrame data
          match parser.parseL3 {} data with
          | .error _ => forEach turns { framer := framer, stats := stats.countError }
          | .ok msg =>
              (forEach turns
                { framer := framer, stats := stats.countMessage (parser.messagePD msg) }).map
                  fun rest => (rest.1, msg :: rest.2)

end ZeroCopyStreamProcessor

end Bitstream

end Gsml3
