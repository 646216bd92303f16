import Gsml3.Abis.RslTypes
import Gsml3.Foundation.OutputBuffer
import Gsml3.RR.Elements

/-!
# RSL builder

Each message is built into a span, by an overload that returns the number of octets or `-1`
with the buffer it wrote, or into a vector.  `none` is a write beyond the buffer, which the
source leaves undefined.
-/

namespace Gsml3

namespace Abis

open Foundation.OutputBuffer (write)

/-- Octets before the elements of a frame that follow the channel number. -/
def RSL_HEADER_SIZE : Nat := 4

/-- The same for RLL frames, with the link identifier. -/
def RSL_RLL_HEADER_SIZE : Nat := RSL_HEADER_SIZE + 2

/-! ## Elements -/

/-- The four octets that start a message of a channel. -/
def writeHeader (buf : List UInt8) (disc : RSLDiscriminator) (msgType chanNr : UInt8)
    (transparent : Bool) : Option (List UInt8) :=
  write buf 0 [rslFirstOctet disc transparent, msgType, RSL_IE.chanNr, chanNr]

/-- The first `len` octets of a value behind a length octet. -/
def writeLV (buf : List UInt8) (offset : Nat) (type : UInt8) (val : List UInt8) (len : UInt8) :
    Option (List UInt8 × Nat) :=
  (write buf offset (type :: len :: val.take len.toNat)).map fun buf =>
    (buf, offset + 2 + len.toNat)

/-- The same behind a length field of two octets. -/
def writeTL16V (buf : List UInt8) (offset : Nat) (type : UInt8) (val : List UInt8)
    (len : UInt16) : Option (List UInt8 × Nat) :=
  (write buf offset (type :: ((len >>> 8) &&& 0xFF).toUInt8 :: (len &&& 0xFF).toUInt8 ::
    val.take len.toNat)).map fun buf => (buf, offset + 3 + len.toNat)

/-- An element without length octet, written behind `offset`. -/
def writeTVFixed (buf : List UInt8) (offset : Nat) (type : UInt8) (val : List UInt8) :
    Option (List UInt8 × Nat) :=
  (write buf offset (type :: val)).map fun buf => (buf, offset + 1 + val.length)

/-! ## Frames -/

/-- The buffer a builder wrote, with the number of octets it returns. -/
abbrev Built := List UInt8 × Int

/-- The message of a link: header, link identifier and the payload behind a length of two octets.
-/
def buildRLLData (out : List UInt8) (msgType chanNr linkId : UInt8) (l3Payload : List UInt8) :
    Option Built :=
  let needed := RSL_RLL_HEADER_SIZE + 3 + l3Payload.length
  if out.length < needed then some (out, -1)
  else do
    let out ← write out 0 [rslFirstOctet .rll true, msgType]
    let (out, off) ← writeTVFixed out 2 RSL_IE.chanNr [chanNr]
    let (out, off) ← writeTVFixed out off RSL_IE.linkIdent [linkId]
    let (out, off) ← writeTL16V out off RSL_IE.l3Info l3Payload (UInt16.ofNat l3Payload.length)
    some (out, off)

/-- The header of a message of a dedicated channel. -/
def buildDChanMsg (out : List UInt8) (msgType chanNr : UInt8) : Option Built :=
  if out.length < RSL_HEADER_SIZE then some (out, -1)
  else (writeHeader out .dedicatedChannel msgType chanNr false).map (·, RSL_HEADER_SIZE)

/-- The header of a message of the common channels. -/
def buildCChanMsg (out : List UInt8) (msgType chanNr : UInt8) : Option Built :=
  if out.length < RSL_HEADER_SIZE then some (out, -1)
  else (writeHeader out .commonChannel msgType chanNr false).map (·, RSL_HEADER_SIZE)

/-- The elements of a message behind its header, if that was built. -/
def appendTo (header : Option Built)
    (elements : List UInt8 → Nat → Option (List UInt8 × Nat)) : Option Built := do
  let (out, n) ← header
  if n < 0 then some (out, -1)
  else
    let (out, off) ← elements out n.toNat
    some (out, off)

/-- The buffer cut or filled up to `size`. -/
def resize (buf : List UInt8) (size : Nat) : List UInt8 :=
  buf.take size ++ List.replicate (size - buf.length) 0

/-- Build into a vector of the size that is expected, or into one of twice the size. -/
def buildVector (sizeHints : List Nat) (builder : List UInt8 → Option Built) :
    Option (Except ParseError (List UInt8)) := do
  let estSize := sizeHints.foldl max 64
  let (buf, n) ← builder (List.replicate estSize 0)
  if n < 0 then
    let (buf, n) ← builder (resize buf (estSize * 2))
    if n < 0 then
      some (.error
        { code := .invalidValue, message := "RSL build failed: insufficient buffer" })
    else some (.ok (resize buf n.toNat))
  else some (.ok (resize buf n.toNat))

namespace RSLBuilder

/-! ## RLL messages -/

/-- A data request. -/
def buildDataReq (out : List UInt8) (chanNr linkId : UInt8) (l3Payload : List UInt8) :
    Option Built :=
  buildRLLData out RSLL3MessageType.dataReq chanNr linkId l3Payload

/-- A data indication. -/
def buildDataInd (out : List UInt8) (chanNr linkId : UInt8) (l3Payload : List UInt8) :
    Option Built :=
  buildRLLData out RSLL3MessageType.dataInd chanNr linkId l3Payload

/-- A unit data request. -/
def buildUnitDataReq (out : List UInt8) (chanNr linkId : UInt8) (l3Payload : List UInt8) :
    Option Built :=
  buildRLLData out RSLL3MessageType.unitDataReq chanNr linkId l3Payload

/-- A unit data indication. -/
def buildUnitDataInd (out : List UInt8) (chanNr linkId : UInt8) (l3Payload : List UInt8) :
    Option Built :=
  buildRLLData out RSLL3MessageType.unitDataInd chanNr linkId l3Payload

/-! ## DCHAN messages -/

/-- The starting time fields of a frame number. -/
def writeFrameNumberValue (frameNumber : UInt32) : List UInt8 :=
  let t1p := (frameNumber / 1326 % 32).toUInt8
  let t3 := (frameNumber % 51).toUInt8
  let t2 := (frameNumber % 26).toUInt8
  [t1p <<< 3 ||| t3 >>> 3, (t3 &&& 0x07) <<< 5 ||| t2]

/-- A channel activation is acknowledged, with the frame number. -/
def buildChanActivAck (out : List UInt8) (chanNr : UInt8) (frameNumber : UInt16) : Option Built :=
  appendTo (buildDChanMsg out RSLDChanMessageType.chanActivAck chanNr) fun out n =>
    writeTVFixed out n RSL_IE.frameNumber (writeFrameNumberValue frameNumber.toUInt32)

/-- A channel activation is refused, with a cause. -/
def buildChanActivNack (out : List UInt8) (chanNr : UInt8) (cause : RSLErrorCause) :
    Option Built :=
  appendTo (buildDChanMsg out RSLDChanMessageType.chanActivNack chanNr) fun out n =>
    writeLV out n RSL_IE.cause [cause] 1

/-- A channel release is acknowledged. -/
def buildRFChanRelAck (out : List UInt8) (chanNr : UInt8) : Option Built :=
  buildDChanMsg out RSLDChanMessageType.rfChanRelAck chanNr

/-- A connection failed, with a cause. -/
def buildConnFail (out : List UInt8) (chanNr : UInt8) (cause : RSLErrorCause) : Option Built :=
  appendTo (buildDChanMsg out RSLDChanMessageType.connFail chanNr) fun out n =>
    writeLV out n RSL_IE.cause [cause] 1

/-- Uplink measurements; the high bits that do not fit their fields are discarded. -/
def writeUplinkMeasValue (rxlevFull rxlevSub rxqFull rxqSub : UInt8) (dtxDownlink : Bool) :
    List UInt8 :=
  [(if dtxDownlink then 0x40 else 0x00) ||| rxlevFull &&& 0x3F,
    rxlevSub &&& 0x3F,
    (rxqFull &&& 0x07) <<< 3 ||| rxqSub &&& 0x07]

/-- The measurement results of a channel. -/
def buildMeasRes (out : List UInt8)
    (chanNr measNr rxlevFull rxlevSub rxqFull rxqSub : UInt8) (dtxDownlink : Bool)
    (bsPower l1Info : UInt8) : Option Built :=
  appendTo (buildDChanMsg out RSLDChanMessageType.measRes chanNr) fun out n => do
    let (out, off) ← writeTVFixed out n RSL_IE.measResNr [measNr]
    let (out, off) ← writeLV out off RSL_IE.uplinkMeas
      (writeUplinkMeasValue rxlevFull rxlevSub rxqFull rxqSub dtxDownlink) 3
    let (out, off) ← writeTVFixed out off RSL_IE.bsPower [bsPower]
    if l1Info ≠ 0 then writeTVFixed out off RSL_IE.l1Info [l1Info, 0x00] else some (out, off)

/-- A handover access was detected, with its delay. -/
def buildHandoDet (out : List UInt8) (chanNr accessDelay : UInt8) : Option Built :=
  appendTo (buildDChanMsg out RSLDChanMessageType.handoDet chanNr) fun out n =>
    writeTVFixed out n RSL_IE.accessDelay [accessDelay]

/-! ## CCHAN messages -/

/-- A big-endian counter of two octets. -/
def counterOctets (counter : UInt16) : List UInt8 :=
  [((counter >>> 8) &&& 0xFF).toUInt8, (counter &&& 0xFF).toUInt8]

/-- The load of the paging channel. -/
def buildPCHLoadInd (out : List UInt8) (pagingLoad : UInt16) : Option Built :=
  let chanNr := RSLChannelNumber.encode RSLChannelNumber.pchAgch 0
  appendTo (buildCChanMsg out RSLCChanMessageType.ccchLoadInd chanNr) fun out n =>
    writeTVFixed out n RSL_IE.pagingLoad (counterOctets pagingLoad)

/-- The load of the random access channel, as three counters. -/
def buildRACHLoadInd (out : List UInt8) (rachTotal rachBusy rachAccess : UInt16) : Option Built :=
  let chanNr := RSLChannelNumber.encode RSLChannelNumber.rach 0
  appendTo (buildCChanMsg out RSLCChanMessageType.ccchLoadInd chanNr) fun out n =>
    writeLV out n RSL_IE.rachLoad
      (counterOctets rachTotal ++ counterOctets rachBusy ++ counterOctets rachAccess) 6

/-- The request reference element: the random access octet and a starting time. -/
def requestReferenceValue (reqRef : L3RequestReference) : List UInt8 :=
  [reqRef.ra,
    (reqRef.t1p &&& 0x1F) <<< 3 ||| (reqRef.t3 >>> 3) &&& 0x07,
    (reqRef.t3 &&& 0x3F) <<< 5 ||| reqRef.t2 &&& 0x1F]

/-- A mobile asks for a channel, with the request it made and its delay. -/
def buildChanRqd (out : List UInt8) (chanNr : UInt8) (reqRef : L3RequestReference)
    (accessDelay : UInt8) : Option Built :=
  appendTo (buildCChanMsg out RSLCChanMessageType.chanRqd chanNr) fun out n => do
    let (out, off) ← writeTVFixed out n RSL_IE.reqReference (requestReferenceValue reqRef)
    writeTVFixed out off RSL_IE.accessDelay [accessDelay]

/-- An assignment was deleted before it was sent. -/
def buildDeleteInd (out : List UInt8) (chanNr : UInt8) (fullImmAssInfo : List UInt8) :
    Option Built :=
  appendTo (buildCChanMsg out RSLCChanMessageType.deleteInd chanNr) fun out n =>
    writeLV out n RSL_IE.fullImmAssInfo fullImmAssInfo (UInt8.ofNat fullImmAssInfo.length)

end RSLBuilder

/-! ## Requests -/

/-- A call of a builder with its arguments. -/
inductive RSLRequest where
  | dataReq (chanNr linkId : UInt8) (l3Payload : List UInt8)
  | dataInd (chanNr linkId : UInt8) (l3Payload : List UInt8)
  | unitDataReq (chanNr linkId : UInt8) (l3Payload : List UInt8)
  | unitDataInd (chanNr linkId : UInt8) (l3Payload : List UInt8)
  | chanActivAck (chanNr : UInt8) (frameNumber : UInt16)
  | chanActivNack (chanNr : UInt8) (cause : RSLErrorCause)
  | rfChanRelAck (chanNr : UInt8)
  | connFail (chanNr : UInt8) (cause : RSLErrorCause)
  | measRes (chanNr measNr rxlevFull rxlevSub rxqFull rxqSub : UInt8) (dtxDownlink : Bool)
      (bsPower l1Info : UInt8)
  | handoDet (chanNr accessDelay : UInt8)
  | pchLoadInd (pagingLoad : UInt16)
  | rachLoadInd (rachTotal rachBusy rachAccess : UInt16)
  | chanRqd (chanNr : UInt8) (reqRef : L3RequestReference) (accessDelay : UInt8)
  | deleteInd (chanNr : UInt8) (fullImmAssInfo : List UInt8)
deriving DecidableEq, Repr

namespace RSLRequest

/-- The overload that builds into a span. -/
def build (out : List UInt8) : RSLRequest → Option Built
  | .dataReq chanNr linkId l3 => RSLBuilder.buildDataReq out chanNr linkId l3
  | .dataInd chanNr linkId l3 => RSLBuilder.buildDataInd out chanNr linkId l3
  | .unitDataReq chanNr linkId l3 => RSLBuilder.buildUnitDataReq out chanNr linkId l3
  | .unitDataInd chanNr linkId l3 => RSLBuilder.buildUnitDataInd out chanNr linkId l3
  | .chanActivAck chanNr frameNumber => RSLBuilder.buildChanActivAck out chanNr frameNumber
  | .chanActivNack chanNr cause => RSLBuilder.buildChanActivNack out chanNr cause
  | .rfChanRelAck chanNr => RSLBuilder.buildRFChanRelAck out chanNr
  | .connFail chanNr cause => RSLBuilder.buildConnFail out chanNr cause
  | .measRes chanNr measNr rxlevFull rxlevSub rxqFull rxqSub dtxDownlink bsPower l1Info =>
      RSLBuilder.buildMeasRes out chanNr measNr rxlevFull rxlevSub rxqFull rxqSub dtxDownlink
        bsPower l1Info
  | .handoDet chanNr accessDelay => RSLBuilder.buildHandoDet out chanNr accessDelay
  | .pchLoadInd pagingLoad => RSLBuilder.buildPCHLoadInd out pagingLoad
  | .rachLoadInd rachTotal rachBusy rachAccess =>
      RSLBuilder.buildRACHLoadInd out rachTotal rachBusy rachAccess
  | .chanRqd chanNr reqRef accessDelay => RSLBuilder.buildChanRqd out chanNr reqRef accessDelay
  | .deleteInd chanNr info => RSLBuilder.buildDeleteInd out chanNr info

/-- The size hint of the overload that builds into a vector. -/
def sizeHint : RSLRequest → Nat
  | .dataReq _ _ l3 | .dataInd _ _ l3 | .unitDataReq _ _ l3 | .unitDataInd _ _ l3 =>
      RSL_RLL_HEADER_SIZE + 3 + l3.length
  | .chanActivAck .. | .chanActivNack .. | .connFail .. | .pchLoadInd .. => RSL_HEADER_SIZE + 3
  | .rfChanRelAck .. => RSL_HEADER_SIZE
  | .measRes _ _ _ _ _ _ _ _ l1Info =>
      RSL_HEADER_SIZE + 2 + 2 + 3 + 2 + if l1Info ≠ 0 then 3 else 0
  | .handoDet .. => RSL_HEADER_SIZE + 2
  | .rachLoadInd .. => RSL_HEADER_SIZE + 8
  | .chanRqd .. => RSL_HEADER_SIZE + 4 + 2
  | .deleteInd _ info => RSL_HEADER_SIZE + 2 + info.length

/-- The overload that builds into a vector. -/
def buildVec (request : RSLRequest) : Option (Except ParseError (List UInt8)) :=
  buildVector [request.sizeHint] fun out => request.build out

end RSLRequest

end Abis

end Gsml3
