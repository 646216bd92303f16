import Gsml3.Foundation.Machine
import Gsml3.Foundation.StopAndWait
import Gsml3.Foundation.History
import Gsml3.Foundation.Segmentation
import Gsml3.Core.Types
import Gsml3.Foundation.BitString
import Gsml3.Core.BitReader
import Gsml3.Core.BitReading
import Gsml3.Core.FieldParser
import Gsml3.Core.BitWriter
import Gsml3.Core.BitRoundTrip
import Gsml3.Lapdm.Frame
import Gsml3.Lapdm.FrameCodec
import Gsml3.Lapdm.Entity
import Gsml3.Lapdm.TransmitQueue
import Gsml3.Lapdm.EntityRuns
import Gsml3.Lapdm.Retransmissions
import Gsml3.Lapdm.Window
import Gsml3.Lapdm.Link
import Gsml3.Lapdm.Payloads
import Gsml3.Lapdm.Contention
import Gsml3.Lapdm.Delivery
import Gsml3.Lapdm.ReliableLink
import Gsml3.Lapdm.FrameOutcomes
import Gsml3.Lapdm.Establishment
import Gsml3.Lapdm.Unopened
import Gsml3.Lapdm.AcceptedData
import Gsml3.Lapdm.SentSegments
import Gsml3.Lapdm.Reassembly
import Gsml3.Foundation.Walk
import Gsml3.Foundation.Directory
import Gsml3.Stack.FlatMap
import Gsml3.Stack.FlatMapTable
import Gsml3.Stack.FlatMapValid
import Gsml3.Stack.FlatMapProbing
import Gsml3.Stack.FlatMapCalls
import Gsml3.Stack.FlatMapTermination
import Gsml3.Stack.FlatMapRefinement
import Gsml3.Stack.FlatMapEntries
import Gsml3.Stack.Message
import Gsml3.Stack.Procedure
import Gsml3.Stack.MobilityProcedures
import Gsml3.Stack.CallProcedures
import Gsml3.Stack.RadioProcedures
import Gsml3.Stack.ProcedureRunner
import Gsml3.Stack.ProcedureLifecycle
import Gsml3.Stack.PagingTimeouts
import Gsml3.Stack.PageRepetition
import Gsml3.Stack.ProcedureEvents
import Gsml3.Stack.LocationUpdateRuns
import Gsml3.Stack.CallSetupTimers
import Gsml3.Stack.Timers
import Gsml3.Stack.Transactions
import Gsml3.Stack.TransactionMatching
import Gsml3.Stack.TransactionIdentity
import Gsml3.Stack.SubscriberRegistry
import Gsml3.Stack.RegistryCalls
import Gsml3.Stack.RegistryLinks
import Gsml3.Stack.Observers
import Gsml3.Stack.RunnerCalls
import Gsml3.Stack.RunnerProgress
import Gsml3.Stack.CallRouting
import Gsml3.Stack.ProcedureOrchestrator
import Gsml3.Stack.OrchestratorCalls
import Gsml3.Stack.RetransmissionTokens
import Gsml3.Stack.IdentityBudget
import Gsml3.Stack.ChainAuthorisation
import Gsml3.Stack.ChainTimeouts
import Gsml3.Stack.TimerTicks
import Gsml3.Stack.RegistryActive
import Gsml3.Stack.FlatMapOpen
import Gsml3.Stack.TmsiTable
import Gsml3.Stack.TmsiAllocation
import Gsml3.Stack.IdentityIndex
import Gsml3.Stack.ShardedRegistry
import Gsml3.Stack.ShardedTimers
import Gsml3.Stack.TimerSpans
import Gsml3.Stack.TimerCallbacks
import Gsml3.Foundation.CircularBuffer
import Gsml3.Bitstream.RingBuffer
import Gsml3.Bitstream.RingBufferQueue
import Gsml3.Bitstream.Framer
import Gsml3.Bitstream.Framing
import Gsml3.Bitstream.LengthFraming
import Gsml3.Bitstream.HeaderFraming
import Gsml3.Bitstream.HeaderProgress
import Gsml3.Bitstream.HeaderAgreement
import Gsml3.Foundation.Ledger
import Gsml3.Stack.ChannelPool
import Gsml3.Stack.ChannelConservation
import Gsml3.Stack.ShardedChannelPool
import Gsml3.Stack.ShardedAllocation
import Gsml3.Foundation.Elements
import Gsml3.Foundation.OutputBuffer
import Gsml3.Abis.RslTypes
import Gsml3.Abis.RslParser
import Gsml3.Abis.RslBuilder
import Gsml3.Abis.RslElements
import Gsml3.Abis.RslFrames
import Gsml3.Abis.RslRoundTrip
import Gsml3.Core.ElementFraming
import Gsml3.CC.Elements
import Gsml3.CC.Messages
import Gsml3.CC.ElementParsing
import Gsml3.SS.Messages
import Gsml3.OptionalElements
import Gsml3.Core.L3Header
import Gsml3.FixedMessages
import Gsml3.Parser
import Gsml3.Bitstream.FixedFraming
import Gsml3.FixedFrames
import Gsml3.RR.Elements
import Gsml3.RR.Messages
import Gsml3.RR.BodyLengths
import Gsml3.Core.OctetBits
import Gsml3.Core.FieldCodec
import Gsml3.Common.CellChannelDescription
import Gsml3.Common.MobileIdentity
import Gsml3.Common.GprsElements
import Gsml3.Common.GprsRoundTrip
import Gsml3.Common.SI13RestOctets
import Gsml3.Core.OptionalFields
import Gsml3.Common.RestOctets
import Gsml3.Common.RestOctetsRoundTrip
import Gsml3.SMS.Elements
import Gsml3.SMS.TpduRoundTrip
import Gsml3.SMS.Messages
import Gsml3.Foundation.BitAccumulator
import Gsml3.CC.UssdString
import Gsml3.CC.Facility
import Gsml3.Foundation.PackedFields
import Gsml3.Core.ElementCodec
import Gsml3.RR.ElementCodecs
import Gsml3.RR.AssignmentRoundTrip
import Gsml3.Common.IdentityOctets
import Gsml3.Common.ClassmarkCodec
import Gsml3.RR.ReEmission
import Gsml3.RR.PagingReEmission
import Gsml3.MM.Messages
import Gsml3.MM.ReEmission
import Gsml3.Foundation.Regions
import Gsml3.Core.Arena
import Gsml3.Core.TaggedElements
import Gsml3.GMM.Messages
import Gsml3.GMM.ReEmission
import Gsml3.Bitstream.StreamProcessor
import Gsml3.Bitstream.StreamAccounting
import Gsml3.Bitstream.StreamAgreement
import Gsml3.Foundation.ReferenceCounts
import Gsml3.Foundation.SharedValues
import Gsml3.Core.FlatHandler
import Gsml3.Stack.ResponseSink
import Gsml3.Stack.Dispatcher
import Gsml3.Foundation.Ladder
import Gsml3.Stack.StateMachine
import Gsml3.Stack.ShardedRouting
import Gsml3.Stack.ChallengeBinding
import Gsml3.CC.PartyNumbers
import Gsml3.CC.ElementWrites
import Gsml3.Core.ElementRounds
import Gsml3.CC.SetupRoundTrip
import Gsml3.CC.CallRoundTrips
import Gsml3.WrittenFrames
import Gsml3.Stack.ResponseMessages
import Gsml3.Stack.ResponseBuilder
import Gsml3.Stack.SignalledResponses
import Gsml3.Core.OctetParsing
import Gsml3.SM.ReEmission
import Gsml3.MM.Information
