import Gsml3.Foundation.Recording
import Gsml3.Lapdm.FrameOutcomes
import Gsml3.Lapdm.Payloads

/-!
# Establishment in progress

The flag of an establishment in progress belongs to the SABME that established the link.  It is
cleared by the first numbered frame, by a received DISC and by a release, but neither by `open`
nor by a local disconnection.
-/

namespace Gsml3

namespace Lapdm

open Foundation

namespace LAPDmEntity

/-- The information of a SABME that a call brings. -/
def asked (e : LAPDmEntity) : Call → Option (List UInt8)
  | .receiveFrame frameBytes => e.reads .sabme frameBytes
  | _ => none

/-- The information of the SABME that established the link, while the link is established. -/
def establishedBy (record : Option (List UInt8)) (e : LAPDmEntity) (request : Call)
    (target : LAPDmEntity) : Option (List UInt8) :=
  if target.isEstablished = true then
    if e.state = .linkReleased then e.asked request else record
  else none

/-- An entity with the information of the SABME that established its link. -/
def establishing : Machine (LAPDmEntity × Option (List UInt8)) Call :=
  machine.recording establishedBy

theorem establishing_step {w target : LAPDmEntity × Option (List UInt8)} {request : Call}
    (stepped : establishing.step w request = some target) :
    (w.1.call request, establishedBy w.2 w.1 request (w.1.call request)) = target :=
  Option.some.inj stepped

/-- The flag is set only on a link that a SABME established. -/
def FlagSound (w : LAPDmEntity × Option (List UInt8)) : Prop :=
  w.1.establishmentInProgress = true → w.1.isEstablished = true ∧ w.2.isSome = true

/-- The calls that leave the flag behind are made while it is clear. -/
def Settles (e : LAPDmEntity) : Call → Prop
  | .openEntity _ _ | .sendDISC => e.establishmentInProgress = false
  | _ => True

instance (e : LAPDmEntity) (request : Call) : Decidable (e.Settles request) :=
  match request with
  | .openEntity .. | .sendDISC => inferInstanceAs (Decidable (_ = false))
  | .receiveFrame _ | .sendUI .. | .sendData _ | .sendSABME _ | .hardRelease | .tickT200 _
  | .resetStats => .isTrue trivial

section Steps

variable {e target : LAPDmEntity} {record : Option (List UInt8)} {request : Call}

/-- On an established link no call names a new SABME. -/
theorem establishedBy_of_established (established : e.isEstablished = true)
    (still : target.isEstablished = true) : establishedBy record e request target = record := by
  rw [establishedBy, if_pos still]
  apply if_neg
  intro released
  rw [isEstablished, released] at established
  cases established

/-- The flag of a link that stays established is still the one of its SABME. -/
theorem FlagSound.stays (sound : FlagSound (e, record)) (flag : FlagFalls e target)
    (still : target.establishmentInProgress = true → e.isEstablished = true →
      target.isEstablished = true) :
    FlagSound (target, establishedBy record e request target) := by
  intro set
  obtain ⟨established, known⟩ := sound (flag set)
  refine ⟨still set established, ?_⟩
  rw [establishedBy_of_established established (still set established)]
  exact known

theorem FlagSound.of_clear (clear : target.establishmentInProgress = false) :
    FlagSound (target, record) := by
  intro set
  rw [clear] at set
  cases set

theorem FlagSound.keeps (sound : FlagSound (e, record)) (keeps : Keeps e target) :
    FlagSound (target, establishedBy record e request target) :=
  sound.stays keeps.flag fun _ established => keeps.isEstablished.trans established

theorem FlagSound.releases (sound : FlagSound (e, record)) (releases : Releases e target) :
    FlagSound (target, establishedBy record e request target) :=
  sound.stays releases.flag fun set established =>
    absurd (established.symm.trans (releases.kept set)) nofun

theorem FlagSound.receiveFrame (sound : FlagSound (e, record)) (frameBytes : List UInt8) :
    FlagSound (e.receiveFrame frameBytes,
      establishedBy record e (.receiveFrame frameBytes) (e.receiveFrame frameBytes)) := by
  cases next : e.inSequence frameBytes with
  | some frame =>
      cases expected_of_inSequence next with
      | refused _ _ releases _ => exact sound.releases releases
      | appended _ _ flag => exact .of_clear flag
      | completed _ _ flag => exact .of_clear flag
  | none =>
      cases received_of_other next with
      | kept keeps => exact sound.keeps keeps
      | accepted info released read accepts =>
          intro _
          have established : (e.receiveFrame frameBytes).isEstablished = true := by
            rw [isEstablished, accepts.state]
            split <;> rfl
          refine ⟨established, ?_⟩
          rw [establishedBy, if_pos established, if_pos released, asked, read]
          rfl
      | echoed info contention read matching keeps =>
          refine sound.stays keeps.flag fun _ _ => ?_
          rw [keeps.isEstablished]
          rfl
      | restarted established settled read keeps untold =>
          apply FlagSound.of_clear
          refine Bool.eq_false_iff.mpr fun set => ?_
          exact absurd ((keeps.flag set).symm.trans settled) (by simp)
      | confirmed awaiting keeps =>
          refine sound.stays keeps.flag fun _ _ => ?_
          rw [keeps.isEstablished]
          rfl
      | released releases => exact sound.releases releases
      | acknowledged nr taken keeps =>
          apply FlagSound.of_clear
          refine Bool.eq_false_iff.mpr fun set => ?_
          have established := established_of_acceptedNr taken
          exact absurd ((keeps.flag set).symm.trans (acknowledged_flag established nr)) (by simp)

theorem FlagSound.call (sound : FlagSound (e, record)) (settles : e.Settles request) :
    FlagSound (e.call request, establishedBy record e request (e.call request)) := by
  cases request with
  | openEntity sapi commandBit => exact .of_clear settles
  | receiveFrame frameBytes => exact sound.receiveFrame frameBytes
  | sendUI sapi l3Data => exact sound.keeps (keeps_sendUI e sapi l3Data)
  | sendData l3Data =>
      rcases sendData_cases e l3Data with ⟨same, -⟩ | ⟨established, -, -, sent⟩
      · refine sound.stays (fun set => ?_) fun _ established => ?_
        · rwa [LAPDmEntity.call, same] at set
        · rwa [LAPDmEntity.call, same]
      · have sends := trySendNextSegment_sends (e.enqueue l3Data)
        refine sound.stays (fun set => ?_) fun _ established => ?_
        · rw [LAPDmEntity.call, sent, sends.flag] at set
          exact set
        · rw [LAPDmEntity.call, sent, isEstablished, sends.state]
          exact established
  | sendSABME info =>
      rcases sendSABME_cases e info with keeps | ⟨released, keeps⟩
      · exact sound.keeps keeps
      · refine sound.stays keeps.flag fun _ established => ?_
        rw [isEstablished, released] at established
        cases established
  | sendDISC =>
      rcases sendDISC_cases e with keeps | ⟨established, keeps⟩
      · exact sound.keeps keeps
      · apply FlagSound.of_clear
        refine Bool.eq_false_iff.mpr fun set => ?_
        exact absurd ((keeps.flag set).symm.trans settles) (by simp)
  | hardRelease => exact .of_clear rfl
  | tickT200 elapsed =>
      rcases tickT200_cases e elapsed with keeps | ⟨released, releases⟩
      · exact sound.keeps keeps
      · exact sound.releases releases
  | resetStats => exact sound.keeps (keeps_resetStats e)

/-- A call that leaves the flag behind breaks its meaning. -/
theorem Settles.of_sound (before : FlagSound (e, record))
    (after : FlagSound (e.call request, establishedBy record e request (e.call request))) :
    e.Settles request := by
  cases request with
  | openEntity sapi commandBit =>
      refine Bool.eq_false_iff.mpr fun set => ?_
      exact absurd (after set).1 (by rintro ⟨⟩)
  | sendDISC =>
      refine Bool.eq_false_iff.mpr fun set => ?_
      have established := (before set).1
      have sent : e.call .sendDISC =
          (e.saveForRetransmission .disc (makeDISCFrame e.sapi e.commandBit)).transitionTo
            .awaitingRelease := by
        rw [LAPDmEntity.call, sendDISC, if_neg (Bool.not_eq_false _ ▸ established)]
      rw [sent] at after
      exact absurd (after set).1 (by rintro ⟨⟩)
  | _ => trivial

end Steps

/-- An entity behind its construction; no SABME established a link. -/
def unopened (profile : LAPDmChannelProfile) : LAPDmEntity × Option (List UInt8) :=
  ({ profile := profile }, none)

/-- **The establishment flag** is set only on a link that a SABME established, in every state
of a run, exactly if the program opens and disconnects the entity only while the flag is
clear. -/
theorem flagSound_iff_settles (profile : LAPDmChannelProfile) (calls : List Call) :
    (∀ past w, past <+: calls →
        establishing.Run (fun _ _ _ => True) (unopened profile) past w → FlagSound w) ↔
      ∃ w, establishing.Run (fun source request _ => source.1.Settles request)
        (unopened profile) calls w := by
  constructor
  · intro sound
    induction calls using List.reverseRecOn with
    | nil => exact ⟨_, .origin⟩
    | append_singleton calls request ih =>
        obtain ⟨w, run⟩ := ih fun past w front =>
          sound past w (front.trans (List.prefix_append calls [request]))
        let target := w.1.call request
        have stepped : establishing.step w request =
            some (target, establishedBy w.2 w.1 request target) := rfl
        have reached : establishing.Run (fun _ _ _ => True) (unopened profile) calls w :=
          run.mono fun _ _ _ _ => trivial
        have before := sound calls w (List.prefix_append calls [request]) reached
        have after := sound _ _ (List.prefix_refl _) (reached.next stepped trivial)
        exact ⟨_, run.next stepped (Settles.of_sound before after)⟩
  · intro ⟨final, run⟩ past w ⟨later, whole⟩ reached
    subst whole
    refine (run.restrict reached).invariant (fun _ state => FlagSound state) (.of_clear rfl) ?_
    intro past source target request sound stepped settles
    rw [← establishing_step stepped]
    exact sound.call settles

/-- A mobile asks for the link and the program disconnects it before any numbered frame. -/
private def disconnected : List Call :=
  [.openEntity .sapi0 true, .receiveFrame (encodeFrame (makeSABMEFrame .sapi0 false [])),
    .sendDISC, .receiveFrame (encodeFrame (makeUAFrame .sapi0 true []))]

/-- The UA that confirms the disconnection leaves the flag behind. -/
theorem released_with_flag :
    ∃ w, establishing.Run (fun _ _ _ => True) (unopened .SDCCH) disconnected w ∧
      w.1.state = .linkReleased ∧ w.1.establishmentInProgress = true ∧ ¬ FlagSound w := by
  obtain ⟨w, executed⟩ := Option.isSome_iff_exists.mp (show (establishing.exec
    (fun _ _ _ => True) (unopened .SDCCH) disconnected).isSome by decide)
  have left : ∀ w ∈ establishing.exec (fun _ _ _ => True) (unopened .SDCCH) disconnected,
      w.1.state = .linkReleased ∧ w.1.establishmentInProgress = true := by
    decide
  obtain ⟨released, set⟩ := left w executed
  refine ⟨w, .exec disconnected .origin executed, released, set, fun sound => ?_⟩
  have established := (sound set).1
  rw [isEstablished, released] at established
  cases established

/-! ## Contention resolution -/

/-- The sum kept for a contention is the one of the SABME that established the link. -/
def SumKept (w : LAPDmEntity × Option (List UInt8)) : Prop :=
  w.1.state = .contentionResolution →
    ∃ first, w.2 = some first ∧ first ≠ [] ∧ computeChecksum first = w.1.contentionChecksum

section Sums

variable {e target : LAPDmEntity} {record : Option (List UInt8)} {request : Call}

theorem isEstablished_of_contention (contention : e.state = .contentionResolution) :
    e.isEstablished = true := by
  rw [isEstablished, contention]
  rfl

/-- A contention that goes on keeps its sum. -/
theorem SumKept.stays (kept : SumKept (e, record))
    (state : target.state = .contentionResolution → e.state = .contentionResolution)
    (sum : target.contentionChecksum = e.contentionChecksum) :
    SumKept (target, establishedBy record e request target) := by
  intro contention
  obtain ⟨first, known, informative, same⟩ := kept (state contention)
  refine ⟨first, ?_, informative, same.trans sum.symm⟩
  rw [establishedBy_of_established]
  · exact known
  · exact isEstablished_of_contention (state contention)
  · exact isEstablished_of_contention contention

theorem SumKept.of_other (other : target.state ≠ .contentionResolution) :
    SumKept (target, record) :=
  fun contention => absurd contention other

theorem SumKept.keeps (kept : SumKept (e, record)) (keeps : Keeps e target) :
    SumKept (target, establishedBy record e request target) :=
  kept.stays keeps.state.symm.trans keeps.contentionChecksum

theorem SumKept.of_releases (releases : Releases e target) : SumKept (target, record) := by
  apply SumKept.of_other
  rcases releases.down with released | unused
  · rw [released]; nofun
  · rw [unused]; nofun

theorem SumKept.receiveFrame (kept : SumKept (e, record)) (frameBytes : List UInt8) :
    SumKept (e.receiveFrame frameBytes,
      establishedBy record e (.receiveFrame frameBytes) (e.receiveFrame frameBytes)) := by
  cases next : e.inSequence frameBytes with
  | some frame =>
      obtain ⟨established, -, -⟩ := receiveFrame_inSequence next
      cases expected_of_inSequence next with
      | refused _ _ releases _ => exact .of_releases releases
      | appended _ _ _ bare =>
          apply SumKept.of_other
          rw [state_of_counted established bare]
          nofun
      | completed _ _ _ bare =>
          apply SumKept.of_other
          rw [state_of_counted established bare]
          nofun
  | none =>
      cases received_of_other next with
      | kept keeps => exact kept.keeps keeps
      | accepted info released read accepts =>
          intro contention
          have informative : info ≠ [] := by
            intro empty
            rw [accepts.state, if_neg (fun both => both.1 empty)] at contention
            cases contention
          refine ⟨info, ?_, informative, ?_⟩
          · rw [establishedBy, if_pos (isEstablished_of_contention contention),
              if_pos released, asked, read]
          · exact (accepts.contentionChecksum informative).symm
      | echoed info contention read matching keeps =>
          apply SumKept.of_other
          rw [keeps.state]
          nofun
      | restarted established settled read keeps untold =>
          exact kept.stays keeps.state.symm.trans keeps.contentionChecksum
      | confirmed awaiting keeps =>
          apply SumKept.of_other
          rw [keeps.state]
          nofun
      | released releases => exact .of_releases releases
      | acknowledged nr taken keeps =>
          apply SumKept.of_other
          rw [keeps.state, acknowledged_state (established_of_acceptedNr taken)]
          nofun

theorem SumKept.call (kept : SumKept (e, record)) (request : Call) :
    SumKept (e.call request, establishedBy record e request (e.call request)) := by
  cases request with
  | openEntity sapi commandBit => exact .of_other (by rintro ⟨⟩)
  | receiveFrame frameBytes => exact kept.receiveFrame frameBytes
  | sendUI sapi l3Data => exact kept.keeps (keeps_sendUI e sapi l3Data)
  | sendData l3Data =>
      rcases sendData_cases e l3Data with ⟨same, -⟩ | ⟨established, -, -, sent⟩
      · refine kept.stays (fun contention => ?_) ?_
        · rwa [LAPDmEntity.call, same] at contention
        · rw [LAPDmEntity.call, same]
      · have sends := trySendNextSegment_sends (e.enqueue l3Data)
        refine kept.stays (fun contention => ?_) ?_
        · rw [LAPDmEntity.call, sent, sends.state] at contention
          exact contention
        · rw [LAPDmEntity.call, sent]
          exact (congrArg LAPDmEntity.contentionChecksum sends.bare :)
  | sendSABME info =>
      rcases sendSABME_cases e info with keeps | ⟨released, keeps⟩
      · exact kept.keeps keeps
      · apply SumKept.of_other
        rw [LAPDmEntity.call, keeps.state]
        rintro ⟨⟩
  | sendDISC =>
      rcases sendDISC_cases e with keeps | ⟨established, keeps⟩
      · exact kept.keeps keeps
      · apply SumKept.of_other
        rw [LAPDmEntity.call, keeps.state]
        rintro ⟨⟩
  | hardRelease => exact .of_other (by rintro ⟨⟩)
  | tickT200 elapsed =>
      rcases tickT200_cases e elapsed with keeps | ⟨released, releases⟩
      · exact kept.keeps keeps
      · exact .of_releases releases
  | resetStats => exact kept.keeps (keeps_resetStats e)

end Sums

/-- What a contending entity transmits on a SABME: the UA that echoes the information, if it
has information with the sum that was kept. -/
theorem emitted_of_contention {e : LAPDmEntity} (contention : e.state = .contentionResolution)
    {frameBytes : List UInt8} {frame : LAPDmFrame}
    (decoded : LAPDmFrame.decode frameBytes = .ok frame) (format : frame.format = .uFormat)
    (kind : frame.uType = .sabme) :
    emitted e (e.receiveFrame frameBytes) =
      if frame.address.sapi = e.sapi ∧ frame.pf = true ∧ frame.info ≠ [] ∧
          computeChecksum frame.info = e.contentionChecksum then
        [encodeFrame (makeUAFrame e.sapi true frame.info)]
      else [] := by
  have silent : ∀ target : LAPDmEntity, target.outputs = e.outputs → emitted e target = [] := by
    intro target same
    rw [emitted, same, List.drop_length, transmitted_nil]
  rw [receiveFrame, decoded]
  simp only
  by_cases own : frame.address.sapi = e.sapi
  · rw [if_neg (not_not.mpr own), format]
    simp only [receiveUFrame, kind, handleSABME]
    cases final : frame.pf with
    | false =>
        rw [if_pos rfl, if_neg (fun all => Bool.false_ne_true all.2.1)]
        exact silent _ rfl
    | true =>
        simp only [Bool.true_eq_false, if_false, contention]
        by_cases matching : frame.info ≠ [] ∧ computeChecksum frame.info = e.contentionChecksum
        · rw [if_pos matching, if_pos ⟨own, trivial, matching⟩]
          exact (congrArg transmitted (List.drop_left ..)).trans (transmitted_transmit _)
        · rw [if_neg matching, if_neg (fun all => matching all.2.2)]
          exact silent _ rfl
  · rw [if_pos own, if_neg (fun all => own all.1)]
    exact silent _ rfl

/-- **In a contention** a SABME is answered with the UA that echoes it, if it carries
information with the octet sum of the SABME that established the link, and with nothing
otherwise. -/
theorem contention_answered {profile : LAPDmChannelProfile} {calls : List Call}
    {w : LAPDmEntity × Option (List UInt8)}
    (run : establishing.Run (fun _ _ _ => True) (unopened profile) calls w)
    (contention : w.1.state = .contentionResolution) {frameBytes : List UInt8}
    {frame : LAPDmFrame} (decoded : LAPDmFrame.decode frameBytes = .ok frame)
    (format : frame.format = .uFormat) (kind : frame.uType = .sabme) :
    ∃ first, w.2 = some first ∧ first ≠ [] ∧
      emitted w.1 (w.1.receiveFrame frameBytes) =
        if frame.address.sapi = w.1.sapi ∧ frame.pf = true ∧ frame.info ≠ [] ∧
            computeChecksum frame.info = computeChecksum first then
          [encodeFrame (makeUAFrame w.1.sapi true frame.info)]
        else [] := by
  have start : SumKept (unopened profile) := by
    intro contention
    cases contention
  have kept : SumKept w := by
    refine run.invariant (fun _ state => SumKept state) start ?_
    intro past source target request kept stepped _
    rw [← establishing_step stepped]
    exact kept.call request
  obtain ⟨first, known, informative, sum⟩ := kept contention
  refine ⟨first, known, informative, ?_⟩
  rw [sum]
  exact emitted_of_contention contention decoded format kind

/-- A Paging Response in the SABME of a mobile. -/
private def firstSABME : List UInt8 :=
  encodeFrame (makeSABMEFrame .sapi0 false [0x06, 0x27, 0x01])

/-- Another message with the same octet sum. -/
private def secondSABME : List UInt8 :=
  encodeFrame (makeSABMEFrame .sapi0 false [0x06, 0x26, 0x02])

/-- A base station in the contention for a channel. -/
private def contending : List Call :=
  [.openEntity .sapi0 true, .receiveFrame firstSABME]

private theorem contending_run :
    ∃ w, establishing.Run (fun _ _ _ => True) (unopened .SDCCH) contending w ∧
      w.1.state = .contentionResolution ∧ w.1.sapi = .sapi0 ∧
      w.2 = some [0x06, 0x27, 0x01] ∧
      emitted w.1 (w.1.receiveFrame secondSABME) =
        [encodeFrame (makeUAFrame .sapi0 true [0x06, 0x26, 0x02])] := by
  obtain ⟨w, executed⟩ := Option.isSome_iff_exists.mp (show (establishing.exec
    (fun _ _ _ => True) (unopened .SDCCH) contending).isSome by decide)
  have facts : ∀ w ∈ establishing.exec (fun _ _ _ => True) (unopened .SDCCH) contending,
      w.1.state = .contentionResolution ∧ w.1.sapi = .sapi0 ∧
      w.2 = some [0x06, 0x27, 0x01] ∧
      emitted w.1 (w.1.receiveFrame secondSABME) =
        [encodeFrame (makeUAFrame .sapi0 true [0x06, 0x26, 0x02])] := by
    decide
  exact ⟨w, .exec contending .origin executed, facts w executed⟩

/-- The SABME that established the link is echoed again. -/
theorem contention_answered_again :
    ∃ w, establishing.Run (fun _ _ _ => True) (unopened .SDCCH) contending w ∧
      emitted w.1 (w.1.receiveFrame firstSABME) =
        [encodeFrame (makeUAFrame .sapi0 true [0x06, 0x27, 0x01])] := by
  obtain ⟨w, run, contention, sapi, known, -⟩ := contending_run
  have decoded : LAPDmFrame.decode firstSABME =
      .ok (makeSABMEFrame .sapi0 false [0x06, 0x27, 0x01]) := by decide
  obtain ⟨first, same, -, answer⟩ := contention_answered run contention decoded rfl rfl
  obtain rfl := Option.some.inj (known.symm.trans same)
  rw [sapi] at answer
  exact ⟨w, run, answer⟩

/-- Another mobile with the same octet sum is answered as if it had established the link. -/
theorem other_information_echoed :
    ∃ (w : LAPDmEntity × Option (List UInt8)) (first second : List UInt8),
      establishing.Run (fun _ _ _ => True) (unopened .SDCCH) contending w ∧
      w.1.state = .contentionResolution ∧ w.2 = some first ∧ first ≠ second ∧
      w.1.reads .sabme (encodeFrame (makeSABMEFrame .sapi0 false second)) = some second ∧
      emitted w.1 (w.1.receiveFrame (encodeFrame (makeSABMEFrame .sapi0 false second))) =
        [encodeFrame (makeUAFrame .sapi0 true second)] := by
  obtain ⟨w, run, contention, sapi, known, answer⟩ := contending_run
  refine ⟨w, _, [0x06, 0x26, 0x02], run, contention, known, by decide, ?_, answer⟩
  have decoded : LAPDmFrame.decode secondSABME =
      .ok (makeSABMEFrame .sapi0 false [0x06, 0x26, 0x02]) := by decide
  exact reads_of_decode decoded sapi.symm rfl rfl rfl

end LAPDmEntity

end Lapdm

end Gsml3
