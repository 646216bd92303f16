import Gsml3.Abis.RslElements

/-!
# RSL frames

The information elements of a request, and the frame its builder writes: the elements cut to
their length fields, in a buffer that was checked for less than the frame.
-/

namespace Gsml3

namespace Abis

open Foundation (Element)
open Foundation.OutputBuffer

namespace RSLRequest

/-! ## Contents of a request -/

def group : RSLRequest → RSLDiscriminator
  | .dataReq .. | .dataInd .. | .unitDataReq .. | .unitDataInd .. => .rll
  | .chanActivAck .. | .chanActivNack .. | .rfChanRelAck .. | .connFail .. | .measRes ..
  | .handoDet .. => .dedicatedChannel
  | .pchLoadInd .. | .rachLoadInd .. | .chanRqd .. | .deleteInd .. => .commonChannel

/-- RLL data frames are transparent. -/
def transparent (request : RSLRequest) : Bool :=
  request.group = .rll

def msgType : RSLRequest → UInt8
  | .dataReq .. => RSLL3MessageType.dataReq
  | .dataInd .. => RSLL3MessageType.dataInd
  | .unitDataReq .. => RSLL3MessageType.unitDataReq
  | .unitDataInd .. => RSLL3MessageType.unitDataInd
  | .chanActivAck .. => RSLDChanMessageType.chanActivAck
  | .chanActivNack .. => RSLDChanMessageType.chanActivNack
  | .rfChanRelAck .. => RSLDChanMessageType.rfChanRelAck
  | .connFail .. => RSLDChanMessageType.connFail
  | .measRes .. => RSLDChanMessageType.measRes
  | .handoDet .. => RSLDChanMessageType.handoDet
  | .pchLoadInd .. => RSLCChanMessageType.ccchLoadInd
  | .rachLoadInd .. => RSLCChanMessageType.ccchLoadInd
  | .chanRqd .. => RSLCChanMessageType.chanRqd
  | .deleteInd .. => RSLCChanMessageType.deleteInd

def chanNr : RSLRequest → UInt8
  | .dataReq chanNr _ _ | .dataInd chanNr _ _ | .unitDataReq chanNr _ _
  | .unitDataInd chanNr _ _ | .chanActivAck chanNr _ | .chanActivNack chanNr _
  | .rfChanRelAck chanNr | .connFail chanNr _ | .measRes chanNr .. | .handoDet chanNr _
  | .chanRqd chanNr _ _ | .deleteInd chanNr _ => chanNr
  | .pchLoadInd _ => RSLChannelNumber.encode RSLChannelNumber.pchAgch 0
  | .rachLoadInd .. => RSLChannelNumber.encode RSLChannelNumber.rach 0

/-- The link identifier, 0 in a message without one. -/
def linkId : RSLRequest → UInt8
  | .dataReq _ linkId _ | .dataInd _ linkId _ | .unitDataReq _ linkId _
  | .unitDataInd _ linkId _ => linkId
  | _ => 0

def l3Payload : RSLRequest → List UInt8
  | .dataReq _ _ l3 | .dataInd _ _ l3 | .unitDataReq _ _ l3 | .unitDataInd _ _ l3 => l3
  | _ => []

/-- The elements behind the channel number. -/
def further : RSLRequest → List Element
  | .dataReq _ linkId l3 | .dataInd _ linkId l3 | .unitDataReq _ linkId l3
  | .unitDataInd _ linkId l3 => [⟨RSL_IE.linkIdent, [linkId]⟩, ⟨RSL_IE.l3Info, l3⟩]
  | .chanActivAck _ frameNumber =>
      [⟨RSL_IE.frameNumber, RSLBuilder.writeFrameNumberValue frameNumber.toUInt32⟩]
  | .chanActivNack _ cause | .connFail _ cause => [⟨RSL_IE.cause, [cause]⟩]
  | .rfChanRelAck _ => []
  | .measRes _ measNr rxlevFull rxlevSub rxqFull rxqSub dtxDownlink bsPower l1Info =>
      [⟨RSL_IE.measResNr, [measNr]⟩,
        ⟨RSL_IE.uplinkMeas,
          RSLBuilder.writeUplinkMeasValue rxlevFull rxlevSub rxqFull rxqSub dtxDownlink⟩,
        ⟨RSL_IE.bsPower, [bsPower]⟩] ++
      if l1Info ≠ 0 then [⟨RSL_IE.l1Info, [l1Info, 0x00]⟩] else []
  | .handoDet _ accessDelay => [⟨RSL_IE.accessDelay, [accessDelay]⟩]
  | .pchLoadInd pagingLoad => [⟨RSL_IE.pagingLoad, RSLBuilder.counterOctets pagingLoad⟩]
  | .rachLoadInd rachTotal rachBusy rachAccess =>
      [⟨RSL_IE.rachLoad, RSLBuilder.counterOctets rachTotal ++
        RSLBuilder.counterOctets rachBusy ++ RSLBuilder.counterOctets rachAccess⟩]
  | .chanRqd _ reqRef accessDelay =>
      [⟨RSL_IE.reqReference, RSLBuilder.requestReferenceValue reqRef⟩,
        ⟨RSL_IE.accessDelay, [accessDelay]⟩]
  | .deleteInd _ info => [⟨RSL_IE.fullImmAssInfo, info⟩]

/-- The information elements passed in. -/
def elements (request : RSLRequest) : List Element :=
  ⟨RSL_IE.chanNr, [request.chanNr]⟩ :: request.further

/-- The octets of a frame with these elements, cut to their length fields. -/
def frame (request : RSLRequest) (elements : List Element) : List UInt8 :=
  rslFirstOctet request.group request.transparent :: request.msgType ::
    (elements.map (Element.cut rslFormat)).flatMap (Element.encode rslFormat)

/-- The octets a buffer has to have for a builder to write into it. -/
def checked : RSLRequest → Nat
  | .dataReq _ _ l3 | .dataInd _ _ l3 | .unitDataReq _ _ l3 | .unitDataInd _ _ l3 =>
      RSL_RLL_HEADER_SIZE + 3 + l3.length
  | _ => RSL_HEADER_SIZE

/-! ## What a builder writes -/

variable {out octets : List UInt8} {request : RSLRequest}

/-- The buffer with the number of octets as a builder returns them. -/
def built (written : List UInt8 × Nat) : Built :=
  (written.1, written.2)

theorem appendTo_filled {elements : List UInt8 → Nat → Option (List UInt8 × Nat)}
    (written : (filled out octets >>= fun (out, off) => elements out off) =
      filled out (octets ++ more)) :
    appendTo ((filled out octets).map built) elements = (filled out (octets ++ more)).map built := by
  rw [← written]
  cases filled out octets with
  | none => rfl
  | some start =>
      obtain ⟨buf, off⟩ := start
      have positive : ¬ (off : Int) < 0 := Int.not_lt.mpr (Int.natCast_nonneg off)
      simp only [appendTo, Option.map_some, built, Option.bind_eq_bind, Option.bind_some,
        if_neg positive, Int.toNat_natCast]
      cases elements buf off <;> rfl

/-- The header fills the front of the buffer. -/
theorem writeHeader_filled (out : List UInt8) (disc : RSLDiscriminator) (msgType chanNr : UInt8)
    (transparent : Bool) :
    (writeHeader out disc msgType chanNr transparent).map (·, RSL_HEADER_SIZE) =
      filled out [rslFirstOctet disc transparent, msgType, RSL_IE.chanNr, chanNr] := by
  rw [← filled_start]
  rfl

/-- The octets before the elements of a control frame that follow the channel number. -/
def header (disc : RSLDiscriminator) (msgType chanNr : UInt8) : List UInt8 :=
  [rslFirstOctet disc false, msgType, RSL_IE.chanNr, chanNr]

theorem buildDChanMsg_filled (enough : RSL_HEADER_SIZE ≤ out.length) (msgType chanNr : UInt8) :
    buildDChanMsg out msgType chanNr =
      (filled out (header .dedicatedChannel msgType chanNr)).map built := by
  rw [buildDChanMsg, if_neg (Nat.not_lt.mpr enough), header, ← writeHeader_filled, Option.map_map]
  rfl

theorem buildCChanMsg_filled (enough : RSL_HEADER_SIZE ≤ out.length) (msgType chanNr : UInt8) :
    buildCChanMsg out msgType chanNr =
      (filled out (header .commonChannel msgType chanNr)).map built := by
  rw [buildCChanMsg, if_neg (Nat.not_lt.mpr enough), header, ← writeHeader_filled, Option.map_map]
  rfl

theorem dchan_short (small : out.length < RSL_HEADER_SIZE) {msgType chanNr : UInt8}
    {elements : List UInt8 → Nat → Option (List UInt8 × Nat)} :
    appendTo (buildDChanMsg out msgType chanNr) elements = some (out, -1) := by
  rw [buildDChanMsg, if_pos small]
  rfl

theorem cchan_short (small : out.length < RSL_HEADER_SIZE) {msgType chanNr : UInt8}
    {elements : List UInt8 → Nat → Option (List UInt8 × Nat)} :
    appendTo (buildCChanMsg out msgType chanNr) elements = some (out, -1) := by
  rw [buildCChanMsg, if_pos small]
  rfl

/-- A buffer that is too short for the header is refused. -/
theorem build_short (short : out.length < request.checked) : request.build out = some (out, -1) := by
  cases request with
  | dataReq | dataInd | unitDataReq | unitDataInd => exact if_pos short
  | chanActivAck => rw [build, RSLBuilder.buildChanActivAck, dchan_short short]
  | chanActivNack => rw [build, RSLBuilder.buildChanActivNack, dchan_short short]
  | rfChanRelAck => exact if_pos short
  | connFail => rw [build, RSLBuilder.buildConnFail, dchan_short short]
  | measRes => rw [build, RSLBuilder.buildMeasRes, dchan_short short]
  | handoDet => rw [build, RSLBuilder.buildHandoDet, dchan_short short]
  | pchLoadInd => rw [build, RSLBuilder.buildPCHLoadInd, cchan_short short]
  | rachLoadInd => rw [build, RSLBuilder.buildRACHLoadInd, cchan_short short]
  | chanRqd => rw [build, RSLBuilder.buildChanRqd, cchan_short short]
  | deleteInd => rw [build, RSLBuilder.buildDeleteInd, cchan_short short]

theorem bind_built (written : Option (List UInt8 × Nat)) :
    (written >>= fun (out, off) => some (out, (off : Int))) = written.map built := by
  cases written <;> rfl

/-- An RLL frame. -/
theorem buildRLLData_filled {msgType chanNr linkId : UInt8} {l3 : List UInt8}
    (enough : RSL_RLL_HEADER_SIZE + 3 + l3.length ≤ out.length) :
    buildRLLData out msgType chanNr linkId l3 =
      (filled out (rslFirstOctet .rll true :: msgType ::
        (([⟨RSL_IE.chanNr, [chanNr]⟩, ⟨RSL_IE.linkIdent, [linkId]⟩, ⟨RSL_IE.l3Info, l3⟩] :
          List Element).map (Element.cut rslFormat)).flatMap
            (Element.encode rslFormat))).map built := by
  have inside : (UInt16.ofNat l3.length).toNat ≤ l3.length := by
    rw [UInt16.toNat_ofNat']
    exact Nat.mod_le _ _
  have chain : buildRLLData out msgType chanNr linkId l3 =
      (filled out [rslFirstOctet .rll true, msgType] >>= fun (out, off) =>
        writeTVFixed out off RSL_IE.chanNr [chanNr] >>= fun (out, off) =>
        writeTVFixed out off RSL_IE.linkIdent [linkId] >>= fun (out, off) =>
        writeTL16V out off RSL_IE.l3Info l3 (UInt16.ofNat l3.length) >>= fun (out, off) =>
        some (out, (off : Int))) := by
    rw [buildRLLData, if_neg (Nat.not_lt.mpr enough), ← filled_start]
    cases write out 0 [rslFirstOctet .rll true, msgType] <;> rfl
  rw [chain, bind_writeTVFixed, bind_writeTVFixed, bind_writeTL16V _ _ _ _ inside]
  simp (disch := decide) only [List.map_cons, List.map_nil, List.flatMap_cons, List.flatMap_nil,
    List.append_nil, encode_fixed, encode_wide]
  exact bind_built _

/-- The last element of a measurement result is left out if it is zero. -/
theorem more_l1Info (octets : List UInt8) (l1Info : UInt8) :
    (filled out octets >>= fun (out, off) =>
        if l1Info ≠ 0 then writeTVFixed out off RSL_IE.l1Info [l1Info, 0x00]
        else some (out, off)) =
      filled out (octets ++ if l1Info ≠ 0 then [RSL_IE.l1Info, l1Info, 0x00] else []) := by
  by_cases some_info : l1Info ≠ 0
  · simp only [if_pos some_info]
    exact filled_writeTVFixed out octets RSL_IE.l1Info [l1Info, 0x00]
  · simp only [if_neg some_info, List.append_nil]
    cases filled out octets <;> rfl

/-- Another buffer is filled with the frame, as far as it is written. -/
theorem build_frame (enough : request.checked ≤ out.length) :
    request.build out = (filled out (request.frame request.elements)).map built := by
  cases request with
  | dataReq | dataInd | unitDataReq | unitDataInd => exact buildRLLData_filled enough
  | chanActivAck chanNr frameNumber =>
      rw [build, RSLBuilder.buildChanActivAck, buildDChanMsg_filled enough,
        appendTo_filled (filled_writeTVFixed _ _ _ _)]
      simp (disch := decide) only [frame, elements, further, List.map_cons, List.map_nil,
        List.flatMap_cons, List.flatMap_nil, encode_fixed]
      rfl
  | chanActivNack chanNr cause =>
      rw [build, RSLBuilder.buildChanActivNack, buildDChanMsg_filled enough,
        appendTo_filled (filled_writeLV _ _ _ le_rfl)]
      simp (disch := decide) only [frame, elements, further, List.map_cons, List.map_nil,
        List.flatMap_cons, List.flatMap_nil, encode_fixed, encode_counted]
      rfl
  | rfChanRelAck chanNr =>
      rw [build, RSLBuilder.buildRFChanRelAck, buildDChanMsg_filled enough]
      simp (disch := decide) only [frame, elements, further, List.map_cons, List.map_nil,
        List.flatMap_cons, List.flatMap_nil, encode_fixed]
      rfl
  | connFail chanNr cause =>
      rw [build, RSLBuilder.buildConnFail, buildDChanMsg_filled enough,
        appendTo_filled (filled_writeLV _ _ _ le_rfl)]
      simp (disch := decide) only [frame, elements, further, List.map_cons, List.map_nil,
        List.flatMap_cons, List.flatMap_nil, encode_fixed, encode_counted]
      rfl
  | measRes chanNr measNr rxlevFull rxlevSub rxqFull rxqSub dtxDownlink bsPower l1Info =>
      rw [build, RSLBuilder.buildMeasRes, buildDChanMsg_filled enough, appendTo_filled (by
        rw [bind_writeTVFixed, bind_writeLV _ _ _ _ (le_refl 3), bind_writeTVFixed, more_l1Info,
          List.append_assoc, List.append_assoc, List.append_assoc])]
      by_cases some_info : l1Info ≠ 0
      · simp (disch := decide) only [frame, elements, further, if_pos some_info, List.map_cons,
          List.map_nil, List.map_append, List.flatMap_append, List.flatMap_cons,
          List.flatMap_nil, List.append_nil, encode_fixed, encode_counted]
        rfl
      · simp (disch := decide) only [frame, elements, further, if_neg some_info, List.map_cons,
          List.map_nil, List.flatMap_cons, List.flatMap_nil, List.append_nil, encode_fixed,
          encode_counted]
        rfl
  | handoDet chanNr accessDelay =>
      rw [build, RSLBuilder.buildHandoDet, buildDChanMsg_filled enough,
        appendTo_filled (filled_writeTVFixed _ _ _ _)]
      simp (disch := decide) only [frame, elements, further, List.map_cons, List.map_nil,
        List.flatMap_cons, List.flatMap_nil, encode_fixed]
      rfl
  | pchLoadInd pagingLoad =>
      rw [build, RSLBuilder.buildPCHLoadInd, buildCChanMsg_filled enough,
        appendTo_filled (filled_writeTVFixed _ _ _ _)]
      simp (disch := decide) only [frame, elements, further, List.map_cons, List.map_nil,
        List.flatMap_cons, List.flatMap_nil, encode_fixed]
      rfl
  | rachLoadInd rachTotal rachBusy rachAccess =>
      rw [build, RSLBuilder.buildRACHLoadInd, buildCChanMsg_filled enough,
        appendTo_filled (filled_writeLV _ _ _ le_rfl)]
      simp (disch := decide) only [frame, elements, further, List.map_cons, List.map_nil,
        List.flatMap_cons, List.flatMap_nil, encode_fixed, encode_counted]
      rfl
  | chanRqd chanNr reqRef accessDelay =>
      rw [build, RSLBuilder.buildChanRqd, buildCChanMsg_filled enough, appendTo_filled (by
        rw [bind_writeTVFixed, Option.bind_eq_bind, filled_writeTVFixed, List.append_assoc])]
      simp (disch := decide) only [frame, elements, further, List.map_cons, List.map_nil,
        List.flatMap_cons, List.flatMap_nil, List.append_nil, encode_fixed]
      rfl
  | deleteInd chanNr info =>
      have inside : (UInt8.ofNat info.length).toNat ≤ info.length := by
        rw [UInt8.toNat_ofNat']
        exact Nat.mod_le _ _
      rw [build, RSLBuilder.buildDeleteInd, buildCChanMsg_filled enough,
        appendTo_filled (filled_writeLV _ _ _ inside)]
      simp (disch := decide) only [frame, elements, further, List.map_cons, List.map_nil,
        List.flatMap_cons, List.flatMap_nil, List.append_nil, encode_fixed, encode_counted]
      rfl

/-! ## Sizes -/

/-- A payload is no longer than its length field can tell. -/
def Fits : RSLRequest → Prop
  | .dataReq _ _ l3 | .dataInd _ _ l3 | .unitDataReq _ _ l3 | .unitDataInd _ _ l3 =>
      l3.length < 2 ^ 16
  | .deleteInd _ info => info.length < 2 ^ 8
  | _ => True

/-- The element with the payload of a request. -/
def payload : RSLRequest → Option Element
  | .dataReq _ _ l3 | .dataInd _ _ l3 | .unitDataReq _ _ l3 | .unitDataInd _ _ l3 =>
      some ⟨RSL_IE.l3Info, l3⟩
  | .deleteInd _ info => some ⟨RSL_IE.fullImmAssInfo, info⟩
  | _ => none

/-- The elements other than the payload fit their formats. -/
theorem further_wellFormed (request : RSLRequest) :
    ∀ element ∈ request.further,
      request.payload = some element ∨ element.WellFormed rslFormat := by
  have link (linkId : UInt8) : (⟨RSL_IE.linkIdent, [linkId]⟩ : Element).WellFormed rslFormat :=
    wellFormed_octet linkId (by decide) (by decide)
  have cause (cause : RSLErrorCause) : (⟨RSL_IE.cause, [cause]⟩ : Element).WellFormed rslFormat :=
    wellFormed_counted (by decide) (show 1 < 2 ^ 8 by decide)
  have accessDelay (delay : UInt8) :
      (⟨RSL_IE.accessDelay, [delay]⟩ : Element).WellFormed rslFormat :=
    wellFormed_octet delay (by decide) (by decide)
  cases request with
  | dataReq _ linkId | dataInd _ linkId | unitDataReq _ linkId | unitDataInd _ linkId =>
      exact List.forall_mem_cons.mpr ⟨.inr (link linkId), List.forall_mem_singleton.mpr (.inl rfl)⟩
  | chanActivAck =>
      exact List.forall_mem_singleton.mpr (.inr (wellFormed_fixed (by decide) rfl))
  | chanActivNack _ value | connFail _ value =>
      exact List.forall_mem_singleton.mpr (.inr (cause value))
  | rfChanRelAck => nofun
  | measRes _ measNr _ _ _ _ _ bsPower l1Info =>
      intro element member
      right
      rcases List.mem_append.mp member with fixed | optional
      · rcases List.mem_cons.mp fixed with rfl | fixed
        · exact wellFormed_octet measNr (by decide) (by decide)
        · rcases List.mem_cons.mp fixed with rfl | fixed
          · exact wellFormed_counted (by decide) (show 3 < 2 ^ 8 by decide)
          · obtain rfl := List.mem_singleton.mp fixed
            exact wellFormed_octet bsPower (by decide) (by decide)
      · split at optional
        · obtain rfl := List.mem_singleton.mp optional
          exact wellFormed_fixed (by decide) rfl
        · exact absurd optional List.not_mem_nil
  | handoDet _ delay => exact List.forall_mem_singleton.mpr (.inr (accessDelay delay))
  | pchLoadInd => exact List.forall_mem_singleton.mpr (.inr (wellFormed_fixed (by decide) rfl))
  | rachLoadInd =>
      exact List.forall_mem_singleton.mpr
        (.inr (wellFormed_counted (by decide) (show 6 < 2 ^ 8 by decide)))
  | chanRqd _ _ delay =>
      exact List.forall_mem_cons.mpr ⟨.inr (wellFormed_fixed (by decide) rfl),
        List.forall_mem_singleton.mpr (.inr (accessDelay delay))⟩
  | deleteInd => exact List.forall_mem_singleton.mpr (.inl rfl)

/-- All elements but the payload are well formed. -/
theorem elements_wellFormed (request : RSLRequest) :
    ∀ element ∈ request.elements,
      request.payload = some element ∨ element.WellFormed rslFormat :=
  List.forall_mem_cons.mpr
    ⟨.inr (wellFormed_octet request.chanNr (by decide) (by decide)), request.further_wellFormed⟩

theorem format_l3Info : rslFormat RSL_IE.l3Info = .counted 2 := by decide

theorem format_fullImmAssInfo : rslFormat RSL_IE.fullImmAssInfo = .counted 1 := by decide

/-- A request fits when its payload is well formed. -/
theorem fits_iff (request : RSLRequest) :
    request.Fits ↔ ∀ element ∈ request.payload, element.WellFormed rslFormat := by
  cases request with
  | dataReq | dataInd | unitDataReq | unitDataInd =>
      simp [Fits, payload, Element.WellFormed, format_l3Info]
  | deleteInd => simp [Fits, payload, Element.WellFormed, format_fullImmAssInfo]
  | _ => exact iff_of_true trivial (by simp [payload])

/-- The element of a payload has a length field. -/
theorem payload_counted {element : Element} (payload : request.payload = some element) :
    ∃ width, rslFormat element.type = .counted width := by
  cases request with
  | dataReq | dataInd | unitDataReq | unitDataInd =>
      exact ⟨2, Option.some.inj payload ▸ format_l3Info⟩
  | deleteInd => exact ⟨1, Option.some.inj payload ▸ format_fullImmAssInfo⟩
  | _ => cases payload

theorem payload_mem {element : Element} (payload : request.payload = some element) :
    element ∈ request.elements := by
  cases request with
  | dataReq | dataInd | unitDataReq | unitDataInd | deleteInd =>
      exact Option.some.inj payload ▸ by simp [elements, further]
  | _ => cases payload

/-- The elements a builder writes. -/
def written (request : RSLRequest) : List Element :=
  request.elements.map (Element.cut rslFormat)

/-- The elements that are written are well formed. -/
theorem written_wellFormed (request : RSLRequest) :
    ∀ element ∈ request.written, element.WellFormed rslFormat := by
  intro element member
  obtain ⟨source, passed, rfl⟩ := List.mem_map.mp member
  rcases request.elements_wellFormed source passed with payload | formed
  · obtain ⟨width, counted⟩ := payload_counted payload
    apply Element.cut_wellFormed
    intro size fixed
    rw [counted] at fixed
    cases fixed
  · rwa [Element.cut_of_wellFormed formed]

/-- Nothing is cut exactly when the payload fits its length field. -/
theorem written_eq_iff (request : RSLRequest) :
    request.written = request.elements ↔ request.Fits := by
  rw [fits_iff]
  constructor
  · intro same element payload
    have kept : element.cut rslFormat = element :=
      List.map_inj_left.mp (same.trans (List.map_id _).symm) element (payload_mem payload)
    have formed := request.written_wellFormed (element.cut rslFormat)
      (List.mem_map_of_mem (payload_mem payload))
    rwa [kept] at formed
  · intro fits
    apply (List.map_congr_left ?_).trans (List.map_id _)
    intro element member
    rcases request.elements_wellFormed element member with payload | formed
    · exact Element.cut_of_wellFormed (fits element payload)
    · exact Element.cut_of_wellFormed formed

/-- The length a payload has behind its length field. -/
def countedLength : RSLRequest → Nat
  | .dataReq _ _ l3 | .dataInd _ _ l3 | .unitDataReq _ _ l3 | .unitDataInd _ _ l3 =>
      RSL_RLL_HEADER_SIZE + 3 + l3.length % 2 ^ 16
  | .deleteInd _ info => RSL_HEADER_SIZE + 2 + info.length % 2 ^ 8
  | request => request.sizeHint

/-- A frame has the length counted for it. -/
theorem frame_length (request : RSLRequest) :
    (request.frame request.elements).length = request.countedLength := by
  have wide (l3 : List UInt8) : (l3.take (UInt16.ofNat l3.length).toNat).length =
      l3.length % 2 ^ 16 := by
    rw [UInt16.toNat_ofNat', List.length_take]
    exact Nat.min_eq_left (Nat.mod_le _ _)
  have counted (info : List UInt8) : (info.take (UInt8.ofNat info.length).toNat).length =
      info.length % 2 ^ 8 := by
    rw [UInt8.toNat_ofNat', List.length_take]
    exact Nat.min_eq_left (Nat.mod_le _ _)
  cases request with
  | dataReq | dataInd | unitDataReq | unitDataInd | deleteInd =>
      simp (disch := decide) only [frame, elements, further, countedLength, List.map_cons,
        List.map_nil, List.flatMap_cons, List.flatMap_nil, List.append_nil, encode_fixed,
        encode_counted, encode_wide, List.length_cons, List.length_append, List.length_nil, wide,
        counted, RSL_RLL_HEADER_SIZE, RSL_HEADER_SIZE]
      omega
  | measRes _ _ _ _ _ _ _ _ l1Info =>
      by_cases some_info : l1Info ≠ 0
      · simp (disch := decide) only [frame, elements, further, countedLength, sizeHint,
          if_pos some_info, List.map_cons, List.map_nil, List.map_append, List.flatMap_append,
          List.flatMap_cons, List.flatMap_nil, encode_fixed, encode_counted]
        rfl
      · simp (disch := decide) only [frame, elements, further, countedLength, sizeHint,
          if_neg some_info, List.map_cons, List.map_nil, List.flatMap_cons, List.flatMap_nil,
          List.append_nil, encode_fixed, encode_counted]
        rfl
  | _ =>
      simp (disch := decide) only [frame, elements, further, countedLength, sizeHint,
        List.map_cons, List.map_nil, List.flatMap_cons, List.flatMap_nil, encode_fixed,
        encode_counted]
      rfl

/-- The counted length is within the size hint. -/
theorem countedLength_le (request : RSLRequest) : request.countedLength ≤ request.sizeHint := by
  cases request with
  | dataReq | dataInd | unitDataReq | unitDataInd | deleteInd =>
      exact Nat.add_le_add_left (Nat.mod_le _ _) _
  | _ => exact le_rfl

/-- A request that fits has the length of its size hint. -/
theorem countedLength_of_fits (fits : request.Fits) : request.countedLength = request.sizeHint := by
  cases request with
  | dataReq | dataInd | unitDataReq | unitDataInd | deleteInd =>
      exact congrArg (_ + ·) (Nat.mod_eq_of_lt fits)
  | _ => rfl

theorem checked_le (request : RSLRequest) : request.checked ≤ request.sizeHint := by
  cases request with
  | dataReq | dataInd | unitDataReq | unitDataInd => exact le_rfl
  | _ =>
      simp only [checked, sizeHint]
      omega

/-- The octets of a frame as a builder writes it. -/
def frameOctets (request : RSLRequest) : List UInt8 :=
  request.frame request.elements

/-- What a builder does with a buffer. -/
theorem build_eq (request : RSLRequest) (out : List UInt8) :
    request.build out =
      if out.length < request.checked then some (out, (-1 : Int))
      else if request.countedLength ≤ out.length then
        some (request.frameOctets ++ out.drop request.countedLength,
          (request.countedLength : Int))
      else none := by
  by_cases short : out.length < request.checked
  · rw [if_pos short, build_short short]
  · rw [if_neg short, build_frame (Nat.not_lt.mp short), ← frame_length]
    by_cases room : (request.frame request.elements).length ≤ out.length
    · rw [if_pos room, filled_of_le room]
      rfl
    · rw [if_neg room, filled_of_lt (Nat.not_le.mp room)]
      rfl

/-- A builder writes within its buffer and refuses one that is too small for the message exactly
when it checks for the message, or the buffer is too small even for what it checks for. -/
theorem respects_span_iff (request : RSLRequest) (out : List UInt8) :
    (∃ (buf : List UInt8) (n : Int), request.build out = some (buf, n) ∧
        (out.length < request.sizeHint → n = -1 ∧ buf = out)) ↔
      out.length < request.checked ∨ request.sizeHint ≤ out.length := by
  rw [build_eq]
  constructor
  · rintro ⟨buf, n, built, refused⟩
    by_contra unchecked
    obtain ⟨enough, short⟩ := not_or.mp unchecked
    obtain ⟨rfl, -⟩ := refused (Nat.not_le.mp short)
    rw [if_neg enough] at built
    split at built
    · have negative := congrArg Prod.snd (Option.some.inj built)
      have counted : (request.countedLength : Int) = -1 := negative
      omega
    · cases built
  · rintro (small | room)
    · exact ⟨out, -1, if_pos small, fun _ => ⟨rfl, rfl⟩⟩
    · have counted := request.countedLength_le
      by_cases small : out.length < request.checked
      · exact ⟨out, -1, if_pos small, fun _ => ⟨rfl, rfl⟩⟩
      · refine ⟨_, _, (if_neg small).trans (if_pos (counted.trans room)), fun short => ?_⟩
        exact absurd room (Nat.not_le.mpr short)

/-- A channel activation is refused in four octets, which hold the header only. -/
theorem chanActivNack_overruns :
    build [0, 0, 0, 0] (.chanActivNack 0x08 0x20) = none ∧
      (RSLRequest.chanActivNack 0x08 0x20).sizeHint = 7 := by
  decide

end RSLRequest

end Abis

end Gsml3
