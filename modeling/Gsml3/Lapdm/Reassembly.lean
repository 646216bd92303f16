import Gsml3.Foundation.Recording
import Gsml3.Lapdm.FrameOutcomes

/-!
# Reassembly of received messages

The I-frames received in sequence since the last delivery or reset are kept on record beside the
entity.  The reassembly buffer of an established link holds their payloads, within its bound.
-/

namespace Gsml3

namespace Lapdm

open Foundation

namespace LAPDmEntity

/-- The I-frame of a call that the entity expects next. -/
def sequenced (e : LAPDmEntity) : Call → Option LAPDmFrame
  | .receiveFrame frameBytes => e.inSequence frameBytes
  | _ => none

/-- The I-frames of the message that is being received.  A link that goes down or comes up and
one that is re-established begin anew. -/
def collected (pieces : List LAPDmFrame) (e : LAPDmEntity) (request : Call)
    (target : LAPDmEntity) : List LAPDmFrame :=
  if target.isEstablished = false ∨ e.isEstablished = false then []
  else
    match e.sequenced request with
    | some frame => if frame.more then pieces ++ [frame] else []
    | none => if e.Restarts request then [] else pieces

/-- An entity with the I-frames of the message that is being received. -/
def reassembling : Machine (LAPDmEntity × List LAPDmFrame) Call :=
  machine.recording collected

theorem reassembling_step {w target : LAPDmEntity × List LAPDmFrame} {request : Call}
    (stepped : reassembling.step w request = some target) :
    (w.1.call request, collected w.2 w.1 request (w.1.call request)) = target :=
  Option.some.inj stepped

/-- The payloads of I-frames in a row. -/
def payload (pieces : List LAPDmFrame) : List UInt8 :=
  pieces.flatMap (·.info)

/-- The frames are numbered in a row, and `next` is the number that follows. -/
def Numbered (pieces : List LAPDmFrame) (next : Fin 8) : Prop :=
  (pieces.map (·.iCtrl.ns) ++ [next]).IsChain fun number following => following = number + 1

theorem numbered_nil (next : Fin 8) : Numbered [] next :=
  List.isChain_singleton next

theorem Numbered.snoc {pieces : List LAPDmFrame} {next : Fin 8} (numbered : Numbered pieces next)
    {frame : LAPDmFrame} (number : frame.iCtrl.ns = next) :
    Numbered (pieces ++ [frame]) (next + 1) := by
  rw [Numbered, List.map_append, List.map_singleton, number]
  apply List.IsChain.append numbered (List.isChain_singleton _)
  intro last member first head
  obtain rfl := Option.some.inj head
  rw [List.getLast?_concat] at member
  rw [Option.some.inj member]

/-- The buffer of an established link holds the frames on record. -/
structure Reassembles (e : LAPDmEntity) (pieces : List LAPDmFrame) : Prop where
  bounded : e.reassemblyBuffer.length ≤ kMaxReassemblyBytes
  unfinished : ∀ piece ∈ pieces, piece.more = true
  content : e.isEstablished = true → e.reassemblyBuffer = payload pieces
  numbered : e.isEstablished = true → Numbered pieces e.vr

section Steps

variable {e target : LAPDmEntity} {pieces : List LAPDmFrame} {request : Call}

/-- A link with an empty buffer begins a message. -/
theorem Reassembles.of_empty (empty : target.reassemblyBuffer = []) : Reassembles target [] := by
  refine ⟨?_, fun _ never => absurd never List.not_mem_nil, fun _ => empty,
    fun _ => numbered_nil _⟩
  rw [empty]
  exact Nat.zero_le _

/-- Without a link the buffer is bounded, and no message is being received. -/
theorem Reassembles.of_down (bounded : target.reassemblyBuffer.length ≤ kMaxReassemblyBytes)
    (down : target.isEstablished = false) : Reassembles target [] := by
  refine ⟨bounded, fun _ never => absurd never List.not_mem_nil, fun up => ?_, fun up => ?_⟩
  · exact absurd (up.symm.trans down) nofun
  · exact absurd (up.symm.trans down) nofun

/-- A step that leaves the receive side alone keeps the record. -/
theorem Reassembles.stays (reassembles : Reassembles e pieces)
    (buffer : target.reassemblyBuffer = e.reassemblyBuffer) (vr : target.vr = e.vr)
    (other : e.sequenced request = none) (going : ¬ e.Restarts request)
    (linked : target.isEstablished = true → e.isEstablished = true) :
    Reassembles target (collected pieces e request target) := by
  have bounded : target.reassemblyBuffer.length ≤ kMaxReassemblyBytes :=
    buffer ▸ reassembles.bounded
  rw [collected]
  by_cases fresh : target.isEstablished = false ∨ e.isEstablished = false
  · rw [if_pos fresh]
    apply Reassembles.of_down bounded
    rcases fresh with down | before
    · exact down
    · exact Bool.eq_false_iff.mpr fun up => absurd ((linked up).symm.trans before) nofun
  · rw [if_neg fresh, other]
    simp only [going, if_false]
    refine ⟨bounded, reassembles.unfinished, fun up => ?_, fun up => ?_⟩
    · rw [buffer]
      exact reassembles.content (linked up)
    · rw [vr]
      exact reassembles.numbered (linked up)

theorem Reassembles.keeps (reassembles : Reassembles e pieces) (keeps : Keeps e target)
    (other : e.sequenced request = none) (going : ¬ e.Restarts request) :
    Reassembles target (collected pieces e request target) :=
  reassembles.stays keeps.reassemblyBuffer keeps.vr other going
    (keeps.isEstablished.symm.trans ·)

/-- A step that clears the buffer begins a message. -/
theorem Reassembles.of_cleared (empty : target.reassemblyBuffer = [])
    (fresh : target.isEstablished = false ∨ e.isEstablished = false) :
    Reassembles target (collected pieces e request target) := by
  rw [collected, if_pos fresh]
  exact .of_empty empty

theorem Releases.isEstablished (releases : Releases e target) : target.isEstablished = false := by
  rcases releases.down with state | state
  · rw [LAPDmEntity.isEstablished, state]
    rfl
  · rw [LAPDmEntity.isEstablished, state]
    rfl

theorem Reassembles.of_releases (releases : Releases e target) :
    Reassembles target (collected pieces e request target) :=
  .of_cleared (congrArg LAPDmEntity.reassemblyBuffer releases.bare :)
    (.inl releases.isEstablished)

theorem Reassembles.receiveFrame (reassembles : Reassembles e pieces)
    (frameBytes : List UInt8) :
    Reassembles (e.receiveFrame frameBytes)
      (collected pieces e (.receiveFrame frameBytes) (e.receiveFrame frameBytes)) := by
  by_cases restarts : e.Restarts (.receiveFrame frameBytes)
  · obtain ⟨frame, decoded, format, answered⟩ := receiveFrame_restarts restarts
    have other : e.sequenced (.receiveFrame frameBytes) = none := by
      rw [sequenced, inSequence, decoded]
      simp only [format]
      exact if_neg fun numbered => absurd numbered.2.2.1 (by simp)
    have begun : collected pieces e (.receiveFrame frameBytes) (e.receiveFrame frameBytes) =
        [] := by
      rw [collected, other]
      simp only [restarts, if_true, ite_self]
    rw [begun, answered]
    exact .of_empty rfl
  · cases next : e.inSequence frameBytes with
    | some frame =>
        obtain ⟨established, -, -⟩ := receiveFrame_inSequence next
        have vr := acknowledged_vr established frame.iCtrl.nr
        have number := ns_of_inSequence next
        cases expected_of_inSequence next with
        | refused _ _ releases _ => exact .of_releases releases
        | appended fits more _ bare =>
            have up : (e.receiveFrame frameBytes).isEstablished = true := by
              rw [isEstablished, state_of_counted established bare]
              rfl
            have buffer : (e.receiveFrame frameBytes).reassemblyBuffer =
                e.reassemblyBuffer ++ frame.info :=
              (congrArg LAPDmEntity.reassemblyBuffer bare :)
            have counted : (e.receiveFrame frameBytes).vr = e.vr + 1 :=
              (congrArg LAPDmEntity.vr bare :)
            have record : collected pieces e (.receiveFrame frameBytes)
                (e.receiveFrame frameBytes) = pieces ++ [frame] := by
              rw [collected, sequenced, next, up, established]
              simp [more]
            rw [record]
            refine ⟨?_, ?_, fun _ => ?_, fun _ => ?_⟩
            · rw [buffer, List.length_append]
              exact fits
            · intro piece member
              rcases List.mem_append.mp member with old | new
              · exact reassembles.unfinished piece old
              · rwa [List.mem_singleton.mp new]
            · rw [buffer, reassembles.content established, payload, payload,
                List.flatMap_append, List.flatMap_singleton]
            · rw [counted]
              exact (reassembles.numbered established).snoc number
        | completed fits last _ bare =>
            have empty : (e.receiveFrame frameBytes).reassemblyBuffer = [] :=
              (congrArg LAPDmEntity.reassemblyBuffer bare :)
            have record : collected pieces e (.receiveFrame frameBytes)
                (e.receiveFrame frameBytes) = [] := by
              rw [collected, sequenced, next]
              simp [last]
            rw [record]
            exact .of_empty empty
    | none =>
        have other : e.sequenced (.receiveFrame frameBytes) = none := next
        cases received_of_other next with
        | kept keeps => exact reassembles.keeps keeps other restarts
        | accepted info state read accepts =>
            have down : e.isEstablished = false := by rw [isEstablished, state]; rfl
            exact .of_cleared (congrArg LAPDmEntity.reassemblyBuffer accepts.bare :) (.inr down)
        | echoed info state read matching keeps =>
            have up : e.isEstablished = true := by rw [isEstablished, state]; rfl
            exact reassembles.stays keeps.reassemblyBuffer keeps.vr other restarts fun _ => up
        | restarted established settled read keeps untold =>
            exact absurd ⟨established, settled, read⟩ restarts
        | confirmed awaiting keeps =>
            have down : e.isEstablished = false := by rw [isEstablished, awaiting]; rfl
            exact .of_cleared keeps.reassemblyBuffer (.inr down)
        | released releases => exact .of_releases releases
        | acknowledged nr taken keeps =>
            have up := established_of_acceptedNr taken
            refine reassembles.stays ?_ ?_ other restarts fun _ => up
            · rw [keeps.reassemblyBuffer, acknowledged_reassemblyBuffer up]
            · rw [keeps.vr, acknowledged_vr up]

/-- Every call keeps what is known of the reassembly buffer. -/
theorem Reassembles.call (reassembles : Reassembles e pieces) (request : Call) :
    Reassembles (e.call request) (collected pieces e request (e.call request)) := by
  cases request with
  | openEntity sapi commandBit => exact .of_cleared rfl (.inl rfl)
  | receiveFrame frameBytes => exact reassembles.receiveFrame frameBytes
  | sendUI sapi l3Data => exact reassembles.keeps (keeps_sendUI e sapi l3Data) rfl id
  | sendData l3Data =>
      rcases sendData_cases e l3Data with ⟨same, -⟩ | ⟨established, -, -, sent⟩
      · exact reassembles.stays (by rw [LAPDmEntity.call, same])
          (by rw [LAPDmEntity.call, same]) rfl id (by rw [LAPDmEntity.call, same]; exact id)
      · have sends := trySendNextSegment_sends (e.enqueue l3Data)
        refine reassembles.stays ?_ ?_ rfl id fun _ => established
        · rw [LAPDmEntity.call, sent, sends.reassemblyBuffer]
          rfl
        · rw [LAPDmEntity.call, sent, sends.vr]
          rfl
  | sendSABME info =>
      rcases sendSABME_cases e info with keeps | ⟨released, keeps⟩
      · exact reassembles.keeps keeps rfl id
      · refine reassembles.stays keeps.reassemblyBuffer keeps.vr rfl id fun up => ?_
        rw [LAPDmEntity.call, keeps.isEstablished] at up
        cases up
  | sendDISC =>
      rcases sendDISC_cases e with keeps | ⟨established, keeps⟩
      · exact reassembles.keeps keeps rfl id
      · exact reassembles.stays keeps.reassemblyBuffer keeps.vr rfl id fun _ => established
  | hardRelease => exact .of_cleared rfl (.inl rfl)
  | tickT200 elapsed =>
      rcases tickT200_cases e elapsed with keeps | ⟨-, releases⟩
      · exact reassembles.keeps keeps rfl id
      · exact .of_releases releases
  | resetStats => exact reassembles.keeps (keeps_resetStats e) rfl id

end Steps

section Deliveries

variable {e target : LAPDmEntity} {request : Call}

theorem Silent.news (silent : Silent e target) : passedUp (news e target) = [] := by
  obtain ⟨new, outputs, none⟩ := silent
  rwa [news_of_outputs outputs]

theorem Releases.silent (releases : Releases e target) : Silent e target := by
  obtain ⟨new, outputs, none, -⟩ := releases.told
  exact ⟨new, outputs, none⟩

/-- Without the expected I-frame no data is passed up. -/
theorem silent_of_other (other : e.sequenced request = none) : Silent e (e.call request) := by
  cases request with
  | openEntity sapi commandBit => exact .refl e
  | receiveFrame frameBytes =>
      cases received_of_other other with
      | kept keeps => exact keeps.silent
      | accepted info state read accepts => exact accepts.silent
      | echoed info state read matching keeps => exact keeps.silent
      | restarted established settled read keeps untold => exact keeps.silent
      | confirmed awaiting keeps => exact keeps.silent
      | released releases => exact releases.silent
      | acknowledged nr taken keeps =>
          have established := established_of_acceptedNr taken
          exact (acknowledged_silent established nr).trans keeps.silent
  | sendUI sapi l3Data => exact (keeps_sendUI e sapi l3Data).silent
  | sendData l3Data =>
      rcases sendData_cases e l3Data with ⟨same, -⟩ | ⟨established, -, -, sent⟩
      · rw [LAPDmEntity.call, same]
        exact .refl e
      · rw [LAPDmEntity.call, sent]
        exact (trySendNextSegment_sends (e.enqueue l3Data)).silent
  | sendSABME info =>
      rcases sendSABME_cases e info with keeps | ⟨-, keeps⟩
      · exact keeps.silent
      · exact keeps.silent
  | sendDISC =>
      rcases sendDISC_cases e with keeps | ⟨-, keeps⟩
      · exact keeps.silent
      · exact keeps.silent
  | hardRelease => exact .refl e
  | tickT200 elapsed =>
      rcases tickT200_cases e elapsed with keeps | ⟨-, releases⟩
      · exact keeps.silent
      · exact releases.silent
  | resetStats => exact (keeps_resetStats e).silent

end Deliveries

/-- An entity behind its construction; no I-frame was received. -/
def silent (profile : LAPDmChannelProfile) : LAPDmEntity × List LAPDmFrame :=
  ({ profile := profile }, [])

theorem Reassembles.of_run {profile : LAPDmChannelProfile} {calls : List Call}
    {w : LAPDmEntity × List LAPDmFrame}
    (run : reassembling.Run (fun _ _ _ => True) (silent profile) calls w) :
    Reassembles w.1 w.2 := by
  refine run.invariant (fun _ state => Reassembles state.1 state.2) (.of_empty rfl) ?_
  intro past source target request reassembles stepped _
  rw [← reassembling_step stepped]
  exact reassembles.call request

/-- **Reassembly is bounded and faithful** along every run: data is passed up only with an
I-frame in sequence and without M, and it is what that frame and the ones on record carry; an
I-frame that would exceed the bound releases the link with an error and passes up nothing. -/
theorem reassembly_faithful {profile : LAPDmChannelProfile} {calls : List Call}
    {w : LAPDmEntity × List LAPDmFrame}
    (run : reassembling.Run (fun _ _ _ => True) (silent profile) calls w) :
    w.1.reassemblyBuffer.length ≤ kMaxReassemblyBytes ∧ ∀ request,
      (∀ l3Data ∈ passedUp (news w.1 (w.1.call request)),
        ∃ frame, w.1.sequenced request = some frame ∧ frame.more = false ∧
          (∀ piece ∈ w.2, piece.more = true) ∧ Numbered (w.2 ++ [frame]) (w.1.vr + 1) ∧
          l3Data = payload (w.2 ++ [frame]) ∧
          passedUp (news w.1 (w.1.call request)) = [l3Data]) ∧
      (∀ frame, w.1.sequenced request = some frame →
        kMaxReassemblyBytes < w.1.reassemblyBuffer.length + frame.info.length →
          (w.1.call request).state = .linkReleased ∧
          .deliver w.1.sapi .MDL_ERROR_INDICATION [] ∈ news w.1 (w.1.call request) ∧
          passedUp (news w.1 (w.1.call request)) = [] ∧
          (w.1.call request).reassemblyBuffer = []) := by
  have reassembles := Reassembles.of_run run
  refine ⟨reassembles.bounded, fun request => ?_⟩
  cases next : w.1.sequenced request with
  | none =>
      refine ⟨fun l3Data member => ?_, fun _ never => absurd never.symm (Option.some_ne_none _)⟩
      rw [(silent_of_other next).news] at member
      cases member
  | some frame =>
      cases request with
      | receiveFrame frameBytes =>
          obtain ⟨established, -, -⟩ := receiveFrame_inSequence next
          cases expected_of_inSequence next with
          | refused long released releases error =>
              have none := releases.silent.news
              refine ⟨fun l3Data member => ?_, fun _ _ _ => ⟨released, error, none, ?_⟩⟩
              · rw [LAPDmEntity.call, none] at member
                cases member
              · exact (congrArg LAPDmEntity.reassemblyBuffer releases.bare :)
          | appended fits more flag bare silent =>
              refine ⟨fun l3Data member => ?_, fun same expected long => ?_⟩
              · rw [LAPDmEntity.call, silent.news] at member
                cases member
              · obtain rfl := Option.some.inj expected
                exact absurd fits (Nat.not_le.mpr long)
          | completed fits last flag bare passed =>
              refine ⟨fun l3Data member => ?_, fun same expected long => ?_⟩
              · obtain ⟨new, outputs, payloads⟩ := passed
                rw [LAPDmEntity.call, news_of_outputs outputs, payloads] at member ⊢
                obtain rfl := List.mem_singleton.mp member
                have numbered := (reassembles.numbered established).snoc (ns_of_inSequence next)
                refine ⟨frame, rfl, last, reassembles.unfinished, numbered, ?_, rfl⟩
                rw [reassembles.content established, payload, payload, List.flatMap_append,
                  List.flatMap_singleton]
              · obtain rfl := Option.some.inj expected
                exact absurd fits (Nat.not_le.mpr long)
      | _ => cases next

/-- A connected peer has sent the first of two segments. -/
private def unfinished : List Call :=
  [.openEntity .sapi0 true, .receiveFrame (encodeFrame (makeSABMEFrame .sapi0 false [])),
    .receiveFrame (encodeFrame (makeIFrame .sapi0 false 0 0 false true [1, 2]))]

/-- The second segment. -/
private def lastSegment : Call :=
  .receiveFrame (encodeFrame (makeIFrame .sapi0 false 0 1 false false [3]))

/-- The two segments are passed up as one message. -/
theorem reassembly_faithful_segments :
    ∃ w, reassembling.Run (fun _ _ _ => True) (silent .SDCCH) unfinished w ∧
      ∃ frame, w.1.sequenced lastSegment = some frame ∧ payload (w.2 ++ [frame]) = [1, 2, 3] ∧
        passedUp (news w.1 (w.1.call lastSegment)) = [payload (w.2 ++ [frame])] := by
  obtain ⟨w, executed⟩ := Option.isSome_iff_exists.mp (show (reassembling.exec
    (fun _ _ _ => True) (silent .SDCCH) unfinished).isSome by decide)
  have passed : ∀ w ∈ reassembling.exec (fun _ _ _ => True) (silent .SDCCH) unfinished,
      [1, 2, 3] ∈ passedUp (news w.1 (w.1.call lastSegment)) := by
    decide
  have run : reassembling.Run (fun _ _ _ => True) (silent .SDCCH) unfinished w :=
    .exec unfinished .origin executed
  obtain ⟨frame, expected, -, -, -, whole, single⟩ :=
    ((reassembly_faithful run).2 lastSegment).1 _ (passed w executed)
  refine ⟨w, run, frame, expected, whole.symm, ?_⟩
  rw [single, whole]

end LAPDmEntity

end Lapdm

end Gsml3
