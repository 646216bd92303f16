import Gsml3.Bitstream.FixedFraming
import Gsml3.Parser

/-!
# The table of fixed lengths

A frame that is parsed to its end has the length of the table, but for a status of a call:
its parser skips what its cause announces beyond two octets.  Written messages always have
the length of the table, so that a stream of them is framed message by message.
-/

namespace Gsml3

open Foundation (bitString bitValue)
open FieldParser

/-! ## What the parsers read -/

theorem ensures_readOctet : Ensures readOctet fun _ read => read.length = 8 :=
  (ensures_readField 8).map fun _ _ field => field.1

theorem ensures_skipBytes (len : Nat) :
    Ensures (skipBytes len) fun _ read => read.length = 8 * len := by
  induction len with
  | zero => exact .pure rfl
  | succ len ih =>
      refine (ensures_readField 8).bind fun _ octet field => ih.mono fun _ read rest => ?_
      rw [List.length_append, field.1, rest, Nat.mul_succ, Nat.add_comm]

theorem CauseMessage.ensures_parse :
    Ensures CauseMessage.parse fun _ read => read.length = 8 := by
  refine ensures_readOctet.bind fun cause read field => .pure ?_
  rw [List.append_nil, field]

theorem L3CipheringModeCommand.ensures_parse :
    Ensures L3CipheringModeCommand.parse fun _ read => read.length = 8 := by
  refine (ensures_readField 3).bind fun _ spare field₁ => ?_
  refine (ensures_readField 1).bind fun imeisv first field₂ => ?_
  refine (ensures_readField 3).bind fun identifier second field₃ => ?_
  refine (ensures_readField 1).bind fun ciphering third field₄ => .pure ?_
  simp only [List.length_append, List.length_nil, field₁.1, field₂.1, field₃.1, field₄.1]

theorem L3CauseElement.ensures_parse :
    Ensures L3CauseElement.parse fun _ read => read.length = 16 := by
  refine (ensures_readField 1).bind fun ext first field₁ => ?_
  refine (ensures_readField 2).bind fun codingStandard second field₂ => ?_
  refine (ensures_readField 1).bind fun _ third field₃ => ?_
  refine (ensures_readField 4).bind fun location fourth field₄ => ?_
  refine (ensures_readField 1).bind fun extensionIndicator fifth field₅ => ?_
  refine (ensures_readField 7).bind fun cause sixth field₆ => ?_
  split
  case isTrue => exact .throw _
  case isFalse =>
    refine .pure ?_
    simp only [List.length_append, List.length_nil, field₁.1, field₂.1, field₃.1, field₄.1,
      field₅.1, field₆.1]

theorem L3CallState.ensures_parse : Ensures L3CallState.parse fun _ read => read.length = 8 := by
  refine (ensures_readField 2).bind fun _ first field₁ => ?_
  refine (ensures_readField 6).mono fun callState second field₂ => ?_
  rw [List.length_append, field₁.1, field₂.1]

/-- The length of the cause announces where the state of the call stands. -/
theorem L3CCStatus.ensures_parse :
    Ensures L3CCStatus.parse fun _ read => read.length = 16 + 8 * bitValue (read.take 8) := by
  refine (ensures_readField 8).bind fun causeLen first field₁ => ?_
  split
  case isTrue =>
    intro before after value next run
    cases run
  case isFalse enough =>
    refine L3CauseElement.ensures_parse.bind fun cause second field₂ => ?_
    refine (ensures_skipBytes _).bind fun _ third field₃ => ?_
    refine L3CallState.ensures_parse.bind fun callState fourth field₄ => .pure ?_
    obtain ⟨length, rfl⟩ := field₁
    rw [List.take_left' length]
    simp only [List.length_append, List.length_nil, length, field₂, field₃, field₄]
    rw [L3CauseElement.lengthV] at enough ⊢
    omega

/-- The octets of the body that a message was parsed from. -/
def FixedMessage.Framed (message : FixedMessage) (read : List Bool) : Prop :=
  match message with
  | .ccStatus _ => read.length = 16 + 8 * bitValue (read.take 8)
  | _ => read.length = 8 * message.bodyLength

/-- The table has the parsers of these messages, by discriminator and message type. -/
theorem FixedMessage.ensures_parseBody {pd mti ti : Nat} {parser : FieldParser FixedMessage}
    (known : parseBody pd mti ti = some parser) :
    Ensures parser fun message read => message.pd = pd ∧ message.mti = mti ∧
      message.Framed read := by
  unfold parseBody at known
  split at known
  case h_16 => cases known
  all_goals obtain rfl := Option.some.inj known
  case h_5 => exact L3CipheringModeCommand.ensures_parse.map fun _ _ length => ⟨rfl, rfl, length⟩
  case h_11 => exact L3CCStatus.ensures_parse.map fun _ _ length => ⟨rfl, rfl, length⟩
  case h_2 | h_6 | h_8 | h_9 | h_13 | h_14 | h_15 => exact .pure ⟨rfl, rfl, rfl⟩
  all_goals exact CauseMessage.ensures_parse.map fun _ _ length => ⟨rfl, rfl, length⟩

/-- The messages of the table are those with a length in it. -/
theorem FixedMessage.parseBody_isSome_iff (pd mti ti : Nat) :
    (parseBody pd mti ti).isSome ↔ Bitstream.fixedFrameLength pd mti ≠ 0 := by
  constructor
  · intro known
    unfold parseBody at known
    split at known
    case h_16 => cases known
    all_goals decide
  · intro entry_found
    have table : ∀ entry ∈ Bitstream.fixedFrameEntries, entry.2.2 ≠ 0 →
        (parseBody entry.1 entry.2.1 ti).isSome := by
      simp [Bitstream.fixedFrameEntries, parseBody]
    rw [Bitstream.fixedFrameLength] at entry_found
    split at entry_found
    case h_1 entry found =>
      have same := List.find?_some found
      rw [Bool.and_eq_true, beq_iff_eq, beq_iff_eq] at same
      rw [← same.1, ← same.2]
      exact table entry (List.mem_of_find?_eq_some found) entry_found
    case h_2 => exact absurd rfl entry_found

/-! ## Accepted frames -/

namespace Parser

variable {M : Type} {others : L3Header → FieldParser M} {data : List UInt8}
  {message : FixedMessage}

theorem runOn_exact {α : Type} {parser : FieldParser α} {post : α → List Bool → Prop}
    {value : α} (ensures : Ensures parser post) (run : runOn parser data = .ok (value, 0)) :
    post value (bitString data) := by
  rw [runOn] at run
  cases parsed : parser (.between [] (bitString data)) with
  | error =>
      rw [parsed] at run
      cases run
  | ok read =>
      obtain ⟨result, next⟩ := read
      rw [parsed] at run
      obtain ⟨rfl, none⟩ := Prod.mk.inj (Except.ok.inj run)
      obtain ⟨read, rest, split, rfl, holds⟩ := ensures _ _ _ _ parsed
      simp only [BitCursor.between, List.length_append] at none
      obtain rfl := List.length_eq_zero_iff.mp (show rest.length = 0 by omega)
      rw [List.append_nil] at split
      rw [split]
      exact holds

theorem parseHandoverAccess_fixed :
    (parseHandoverAccess data : Except ParseError (ParsedMessage M)).toOption ≠
      some (.fixed message) := by
  rw [parseHandoverAccess]
  cases runOn L3HandoverAccess.parse data with
  | error => nofun
  | ok => nofun

theorem parseFourOctets_fixed (found : parseFourOctets others data = some (.fixed message)) :
    ∃ hdr, parseL3Header data = .ok hdr ∧
      runOn (parseStandardBody others hdr) (data.drop 2) = .ok (.fixed message, 0) := by
  rw [parseFourOctets] at found
  split at found
  case isTrue => exact absurd found parseHandoverAccess_fixed
  case isFalse =>
    rcases Option.or_eq_some_iff.mp found with exactly | ⟨-, short⟩
    · rw [parseExactly] at exactly
      split at exactly
      case h_1 => cases exactly
      case h_2 hdr header =>
        split at exactly
        case h_1 msg run =>
          obtain rfl := Option.some.inj exactly
          exact ⟨hdr, header, run⟩
        case h_2 => cases exactly
    · exact absurd short parseHandoverAccess_fixed

/-- A message of the table that is accepted to the last bit stands behind its header. -/
theorem parseL3_fixed (accepted : parseL3 others true data = .ok (.fixed message)) :
    ∃ hdr, parseL3Header data = .ok hdr ∧
      runOn (parseStandardBody others hdr) (data.drop 2) = .ok (.fixed message, 0) := by
  have standard : parseStandard others true data = .ok (.fixed message) →
      ∃ hdr, parseL3Header data = .ok hdr ∧
        runOn (parseStandardBody others hdr) (data.drop 2) = .ok (.fixed message, 0) := by
    intro accepted
    rw [parseStandard] at accepted
    split at accepted
    case h_1 => cases accepted
    case h_2 hdr header =>
      split at accepted
      case h_1 => cases accepted
      case h_2 msg remainingBits run =>
        split at accepted
        case isTrue => cases accepted
        case isFalse whole =>
          obtain rfl := Except.ok.inj accepted
          obtain rfl := not_not.mp fun left => whole ⟨rfl, left⟩
          exact ⟨hdr, header, run⟩
  rw [parseL3] at accepted
  split at accepted
  case isTrue => cases accepted
  case isFalse =>
    split at accepted
    case isTrue =>
      -- a channel request
      cases run : runOn (readField 8) data with
      | error =>
          rw [run] at accepted
          cases accepted
      | ok =>
          rw [run] at accepted
          cases Except.ok.inj accepted
    case isFalse =>
      split at accepted
      case isTrue =>
        split at accepted
        case h_1 msg found =>
          obtain rfl := Except.ok.inj accepted
          exact parseFourOctets_fixed found
        case h_2 => exact standard accepted
      case isFalse => exact standard accepted

/-- Of the messages of the table only a status of a call can be longer than its entry. -/
def CauseOfTwo (data : List UInt8) (message : FixedMessage) : Prop :=
  match message with
  | .ccStatus _ => data.getD 2 0 = 2
  | _ => True

theorem fixedFrameLength_eq (message : FixedMessage) :
    Bitstream.fixedFrameLength message.pd message.mti = 2 + message.bodyLength := by
  cases message <;> rfl

theorem parseStandardBody_framed {hdr : L3Header}
    (run : runOn (parseStandardBody others hdr) (data.drop 2) = .ok (.fixed message, 0)) :
    message.pd = hdr.pd ∧ message.mti = hdr.mti ∧ message.Framed (bitString (data.drop 2)) := by
  rw [parseStandardBody] at run
  split at run
  case h_1 parser known =>
    have ensures : Ensures (ParsedMessage.fixed (M := M) <$> parser) fun parsed read =>
        ∀ message, parsed = .fixed message →
          message.pd = hdr.pd ∧ message.mti = hdr.mti ∧ message.Framed read := by
      refine (FixedMessage.ensures_parseBody known).map fun value read holds message same => ?_
      obtain rfl := ParsedMessage.fixed.inj same
      exact holds
    exact runOn_exact ensures run message rfl
  case h_2 =>
    have other : (ParsedMessage.other <$> others hdr) (.between [] (bitString (data.drop 2))) =
        (others hdr (.between [] (bitString (data.drop 2)))).bind fun read =>
          .ok (.other read.1, read.2) := rfl
    rw [runOn, other] at run
    cases parsed : others hdr (.between [] (bitString (data.drop 2))) with
    | error =>
        rw [parsed] at run
        cases run
    | ok read =>
        rw [parsed] at run
        cases (Prod.mk.inj (Except.ok.inj run)).1

theorem parseL3Header_length {hdr : L3Header} (header : parseL3Header data = .ok hdr) :
    2 ≤ data.length := by
  rcases data with _ | ⟨byte0, _ | ⟨byte1, rest⟩⟩
  · cases header
  · cases header
  · exact Nat.le_add_left ..

theorem third_octet (body : 2 < data.length) :
    bitValue ((bitString (data.drop 2)).take 8) = (data.getD 2 0).toNat := by
  obtain ⟨byte0, byte1, byte2, rest, rfl⟩ : ∃ byte0 byte1 byte2 rest,
      data = byte0 :: byte1 :: byte2 :: rest := by
    rcases data with _ | ⟨byte0, _ | ⟨byte1, _ | ⟨byte2, rest⟩⟩⟩
    case cons.cons.cons => exact ⟨byte0, byte1, byte2, rest, rfl⟩
    all_goals simp at body
  have whole := Foundation.bitValue_valueBits 8 byte2.toNat
  rw [Nat.mod_eq_of_lt byte2.toNat_lt] at whole
  rw [List.drop_succ_cons, List.drop_succ_cons, List.drop_zero, Foundation.bitString_cons,
    List.take_left' (Foundation.valueBits_length ..), whole]
  rfl

/-- A frame of the table has the length of its entry, unless it is a status of a call that
announces a cause of other than two octets. -/
theorem length_iff (accepted : parseL3 others true data = .ok (.fixed message)) :
    data.length = Bitstream.fixedFrameLength message.pd message.mti ↔ CauseOfTwo data message := by
  obtain ⟨hdr, header, run⟩ := parseL3_fixed accepted
  have two := parseL3Header_length header
  obtain ⟨-, -, framed⟩ := parseStandardBody_framed run
  rw [fixedFrameLength_eq]
  have bits := Foundation.bitString_length (data.drop 2)
  rw [List.length_drop] at bits
  cases message with
  | ccStatus msg =>
      have framed : (bitString (data.drop 2)).length =
        16 + 8 * bitValue ((bitString (data.drop 2)).take 8) := framed
      rw [third_octet (by omega)] at framed
      rw [CauseOfTwo, ← UInt8.toNat_inj]
      change _ = 2 + 4 ↔ _ = 2
      omega
  | _ =>
      have framed : (bitString (data.drop 2)).length = _ := framed
      simp only [CauseOfTwo, iff_true]
      omega

end Parser

/-! ## Written messages -/

namespace FixedMessage

theorem encoding_exact (message : FixedMessage) : message.encoding.Exact := by
  have small : message.bodyLength ≤ 4 := by
    cases message <;> simp [bodyLength]
  refine ⟨?_, ?_⟩
  · intro _ _
    change message.bodyLength * 8 < 2 ^ 64
    omega
  · cases message <;> rfl

/-- The headers of the table are read back as they were written, for every transaction. -/
theorem header_fixedLength : ∀ entry ∈ Bitstream.fixedFrameEntries, entry.2.2 ≠ 0 → ∀ ti < 8,
    let header := encodeL3Header entry.1 entry.2.1 ti false
    Bitstream.fixedFrameLength (Bitstream.discriminator header.1)
      (Bitstream.internalMti header.1 header.2) = entry.2.2 := by
  decide

theorem encodeL3Header_ti (pd mti ti : Nat) (tif : Bool) :
    encodeL3Header pd mti ti tif = encodeL3Header pd mti (ti % 8) tif := by
  have low (n : Nat) : n &&& 0x07 = n % 8 := Nat.and_two_pow_sub_one_eq_mod n 3
  rw [encodeL3Header, encodeL3Header, low, low, Nat.mod_mod]

theorem entry_mem (message : FixedMessage) :
    (message.pd, message.mti, 2 + message.bodyLength) ∈ Bitstream.fixedFrameEntries := by
  cases message <;> simp [pd, mti, bodyLength, Bitstream.fixedFrameEntries]

/-- A written message is a frame of its length in the table. -/
theorem octets_fixed (message : FixedMessage) :
    Bitstream.FixedFrame message.encoding.octets := by
  have length := message.encoding.octets_length
  have plain : isNoHeaderShort message.mti = false ∧ isTifShort message.mti = false := by
    cases message <;> exact ⟨rfl, rfl⟩
  have wire : message.encoding.wireLength = 2 + message.bodyLength := by
    rw [L3Encoding.wireLength]
    exact if_neg (Bool.eq_false_iff.mp plain.1)
  have header : message.encoding.header =
      [(encodeL3Header message.pd message.mti message.ti false).1,
        (encodeL3Header message.pd message.mti message.ti false).2] := by
    have standard : ¬ isNoHeaderShort message.encoding.mti = true := Bool.eq_false_iff.mp plain.1
    have flag : isTifShort message.encoding.mti = false := plain.2
    rw [L3Encoding.header, if_neg standard, flag]
    rfl
  refine ⟨by omega, ?_⟩
  have known := header_fixedLength _ message.entry_mem (by simp)
    (message.ti % 8) (Nat.mod_lt _ (by decide))
  rw [← encodeL3Header_ti] at known
  rw [length, wire, L3Encoding.octets, header]
  exact known

end FixedMessage

/-- The frame is what a message was written to, in some buffer. -/
def WrittenAs (message : FixedMessage) (frame : List UInt8) : Prop :=
  ∃ out buffer n, message.encoding.writeL3Body out = .ok (buffer, n) ∧ frame = buffer.take n

/-- The table is exact for accepted frames but for the status of a call with a cause of other
than two octets, and a stream of written messages is framed message by message. -/
theorem fixedFrameTable_iff {M : Type} (others : L3Header → FieldParser M) :
    (∀ data message, Parser.parseL3 others true data = .ok (.fixed message) →
      (data.length = Bitstream.fixedFrameLength message.pd message.mti ↔
        Parser.CauseOfTwo data message)) ∧
      ∀ maxLength messages frames, List.Forall₂ WrittenAs messages frames →
        ∀ chunks : List (List UInt8), chunks.flatten = frames.flatten →
          (∃ events reading, Bitstream.Reading.machine.Run (fun _ _ _ => True)
            (Bitstream.Reading.byHeader maxLength chunks) events reading ∧
              reading.finished = true) ∧
          ∀ events reading, Bitstream.Reading.machine.Run (fun _ _ _ => True)
            (Bitstream.Reading.byHeader maxLength chunks) events reading →
              reading.finished = true →
              reading.frames.map Bitstream.ExtractedFrame.data = frames := by
  refine ⟨fun data message => Parser.length_iff, ?_⟩
  intro maxLength messages frames written chunks stream
  have fixed : ∀ frame ∈ frames, Bitstream.FixedFrame frame := by
    clear stream
    induction written with
    | nil => exact List.forall_mem_nil _
    | cons first _ ih =>
        obtain ⟨out, buffer, n, write, rfl⟩ := first
        rw [List.forall_mem_cons, (FixedMessage.encoding_exact _).written write |>.2]
        exact ⟨FixedMessage.octets_fixed _, ih⟩
  exact Bitstream.Reading.reads_frames maxLength fixed stream

/-- No parser of other messages. -/
def noOthers : L3Header → FieldParser Empty :=
  fun _ => throw { code := .invalidValue, message := "Unknown message type" }

/-- A status of a call, and a stream of it and a classmark enquiry in three portions. -/
theorem fixedFrameTable_iff_status :
    (∃ data message, Parser.parseL3 noOthers true data = .ok (.fixed message) ∧
      (data.length = Bitstream.fixedFrameLength message.pd message.mti ↔
        Parser.CauseOfTwo data message)) ∧
      ∃ events reading, Bitstream.Reading.machine.Run (fun _ _ _ => True)
        (Bitstream.Reading.byHeader 4096 [[0x03, 0x3d, 0x02], [0x61, 0x90, 0xc0, 0x06], [0x13]])
        events reading ∧
        reading.finished = true ∧
        reading.frames.map Bitstream.ExtractedFrame.data =
          [[0x03, 0x3d, 0x02, 0x61, 0x90, 0xc0], [0x06, 0x13]] := by
  have exact := fixedFrameTable_iff noOthers
  constructor
  · have accepted : Parser.parseL3 noOthers true [0x03, 0x3d, 0x02, 0x61, 0x90, 0xc0] =
        .ok (.fixed (.ccStatus { ti := 0, cause := 16, callState := 0 })) := by decide
    exact ⟨_, _, accepted, exact.1 _ _ accepted⟩
  · have written : List.Forall₂ WrittenAs
        [.ccStatus { ti := 0, cause := 16, callState := 0 }, .classmarkEnquiry]
        [[0x03, 0x3d, 0x02, 0x61, 0x90, 0xc0], [0x06, 0x13]] := by
      refine .cons ?_ (.cons ?_ .nil)
      · exact ⟨List.replicate 6 0xff, [0x03, 0x3d, 0x02, 0x61, 0x90, 0xc0], 6, by decide,
          rfl⟩
      · exact ⟨[0, 0, 0], [0x06, 0x13, 0], 2, by decide, rfl⟩
    obtain ⟨⟨events, reading, run, finished⟩, frames⟩ := exact.2 4096 _ _ written
      [[0x03, 0x3d, 0x02], [0x61, 0x90, 0xc0, 0x06], [0x13]] rfl
    exact ⟨events, reading, run, finished, frames events reading run finished⟩

/-- A status of a call that announces a cause of three octets, and an octet longer than in the
table. -/
theorem long_cause_accepted :
    ∃ data message, Parser.parseL3 noOthers true data = .ok (.fixed message) ∧
      Bitstream.fixedFrameLength message.pd message.mti ≠ 0 ∧
      data.length ≠ Bitstream.fixedFrameLength message.pd message.mti :=
  ⟨[0x03, 0x3d, 0x03, 0x61, 0x90, 0x00, 0xc0],
    .ccStatus { ti := 0, cause := 16, callState := 0 }, by decide⟩

end Gsml3
