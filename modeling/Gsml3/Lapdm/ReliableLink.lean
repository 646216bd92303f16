import Gsml3.Lapdm.Delivery

/-!
# Delivery between two freshly joined entities

Any two reachable entities in the established state with zero sequence
variables and empty queues start synchronised, so every run delivers a prefix
of what was accepted.  Zero sequence variables do not imply an empty reassembly
buffer: eight unfinished segments wrap V(R) around.  The octets such a buffer
holds come in front of the first delivered message.
-/

namespace Gsml3

namespace Lapdm

open Foundation

namespace LAPDmEntity

/-- Run a list of calls. -/
def callAll (e : LAPDmEntity) (calls : List Call) : LAPDmEntity :=
  calls.foldl call e

/-- Calls on a constructed entity lead to a reachable one. -/
theorem reachable_callAll (profile : LAPDmChannelProfile) (calls : List Call) :
    (callAll { profile := profile } calls).Reachable := by
  have along : ∀ (e : LAPDmEntity) (past : List Call),
      machine.Run (fun _ _ _ => True) { profile := profile } past e →
      machine.Run (fun _ _ _ => True) { profile := profile } (past ++ calls)
        (e.callAll calls) := by
    induction calls with
    | nil =>
        intro e past run
        simpa [callAll] using run
    | cons request calls ih =>
        intro e past run
        have next := ih (e.call request) (past ++ [request]) (run.next rfl trivial)
        simpa [callAll] using next
  exact ⟨profile, _, along _ [] .origin⟩

/-- An empty buffer has no unsent message. -/
theorem QueueConsistent.backlog_eq_nil {e : LAPDmEntity} (consistent : e.QueueConsistent)
    (empty : e.txQueue = []) : e.backlog = [] := by
  have none : e.txMsgEnds.drop e.txMsgIdx = [] := by
    refine List.eq_nil_iff_forall_not_mem.mpr fun stop member => ?_
    have ahead := consistent.position stop member
    have bounded := consistent.end_le member
    rw [empty, List.length_nil] at bounded
    omega
  rw [backlog, unsent, none]
  rfl

/-- The history of an entity whose sequence variables are zero: eight segments,
all acknowledged, the last of them possibly still stored for
retransmission. -/
def startLedger (e : LAPDmEntity) : Ledger where
  sent := List.replicate 8
    ⟨if e.pending = .iFrame then e.pendingInfo else [], e.pendingMore⟩
  acked := 8
  received := 8
  packets := []

end LAPDmEntity

/-- A reachable established entity with zero variables and an empty queue
starts in its starting ledger. -/
theorem half_start {own peer : LAPDmEntity} (positive : 1 ≤ own.profile.n201)
    (reachable : own.Reachable) (established : own.state = .linkEstablished)
    (vs : own.vs = 0) (va : own.va = 0) (vr : own.vr = 0) (empty : own.txQueue = []) :
    Half own.profile.n201 own.reassemblyBuffer (.join own) own.startLedger
      peer.startLedger := by
  have coherent := reachable.coherent positive
  have outstanding := coherent.outstanding (by simp [LAPDmEntity.isEstablished, established])
  have wrapped : (0 : Fin 8) = seq 8 := by decide
  constructor
  case established => exact established
  case profile => rfl
  case vs => exact vs.trans wrapped
  case va => exact va.trans wrapped
  case vr => exact vr.trans wrapped
  case outstanding =>
    rcases outstanding with none | ⟨iFrame, number, -⟩
    · exact .inl none
    · refine .inr ⟨iFrame, List.replicate 7 ⟨own.pendingInfo, own.pendingMore⟩, ?_, ?_⟩
      · simp only [LAPDmEntity.startLedger, iFrame, ↓reduceIte]
        rfl
      · rw [vs] at number
        change own.pendingNs = 7
        omega
  case consistent => exact coherent.queue.frame rfl rfl rfl rfl
  case bounded =>
    intro segment member
    obtain rfl := List.eq_of_mem_replicate member
    dsimp only
    split
    case isTrue iFrame =>
      rcases outstanding with none | ⟨-, -, fits⟩
      · rw [none] at iFrame
        cases iFrame
      · exact fits
    case isFalse => exact Nat.zero_le _
  case carried => exact .nil
  case transfer => exact .idle 8
  case preloaded => exact le_rfl
  case segmented =>
    have nothing : (Station.join own).entity.backlog = [] :=
      coherent.queue.backlog_eq_nil empty
    rw [nothing]
    rfl
  case reassembled => rfl

/-- Two entities that can be joined start synchronised. -/
theorem Joinable.synchronised {left right : LAPDmEntity} (joinable : Joinable left right) :
    Synchronised left.profile.n201 left.reassemblyBuffer right.reassemblyBuffer
      (.join left right) := by
  refine ⟨left.startLedger, right.startLedger, ?_, ?_⟩
  · exact half_start joinable.positive joinable.reachable.1 joinable.established.1
      joinable.vs.1 joinable.va.1 joinable.vr.1 joinable.txQueue.1
  · rw [joinable.limit]
    exact half_start (joinable.limit ▸ joinable.positive) joinable.reachable.2
      joinable.established.2 joinable.vs.2 joinable.va.2 joinable.vr.2 joinable.txQueue.2

/-- Reliable delivery: along every run of an established link, each side has
passed up a prefix of the messages the other side accepted, in order and with
their boundaries; octets the reassembly buffer held at the start precede the
first message. -/
theorem delivered_prefix_accepted {left right : LAPDmEntity} {link : Link}
    {events : List (Side × Action)} (joinable : Joinable left right)
    (run : (Link.join left right).Run events link) :
    link.right.delivered <+:
        Reassembly.prepend right.reassemblyBuffer link.left.accepted ∧
      link.left.delivered <+:
        Reassembly.prepend left.reassemblyBuffer link.right.accepted := by
  obtain ⟨mine, theirs, joint⟩ :=
    joinable.synchronised.run joinable.positive joinable.bounded run
  exact ⟨joint.delivered_prefix, joint.symm.delivered_prefix⟩

/-- Calls that establish an entity as the answering side. -/
def answer : List LAPDmEntity.Call :=
  [.openEntity .sapi0 true, .receiveFrame (encodeFrame (makeSABMEFrame .sapi0 false []))]

/-- Calls that establish an entity as the requesting side. -/
def request : List LAPDmEntity.Call :=
  [.openEntity .sapi0 false, .sendSABME [],
    .receiveFrame (encodeFrame (makeUAFrame .sapi0 true []))]

/-- Eight unfinished segments, numbered from zero. -/
def unfinished : List LAPDmEntity.Call :=
  (List.range 8).map fun number =>
    .receiveFrame
      (encodeFrame (makeIFrame .sapi0 false 0 (seq number) false true [UInt8.ofNat number]))

/-- The entities used below: an answering one, a requesting one, and an
answering one whose V(R) has wrapped in the middle of a message. -/
def answering : LAPDmEntity := .callAll { profile := .SDCCH } answer
def requesting : LAPDmEntity := .callAll { profile := .SDCCH } request
def wrapped : LAPDmEntity := .callAll { profile := .SDCCH } (answer ++ unfinished)

theorem joinable_answering_requesting : Joinable answering requesting where
  reachable := ⟨LAPDmEntity.reachable_callAll _ _, LAPDmEntity.reachable_callAll _ _⟩
  established := by decide
  vs := by decide
  va := by decide
  vr := by decide
  txQueue := by decide
  limit := by decide
  positive := by decide
  bounded := by decide

theorem joinable_requesting_wrapped : Joinable requesting wrapped where
  reachable := ⟨LAPDmEntity.reachable_callAll _ _, LAPDmEntity.reachable_callAll _ _⟩
  established := by decide
  vs := by decide
  va := by decide
  vr := by decide
  txQueue := by decide
  limit := by decide
  positive := by decide
  bounded := by decide

/-- A message of two segments with a lost acknowledgement, repeated by T200. -/
def repeatedExchange : List (Side × Action) :=
  [(.left, .sendData (List.replicate 25 7)), (.right, .receive), (.right, .lose 0),
    (.left, .tickT200 900), (.right, .receive), (.left, .receive), (.right, .receive)]

/-- The state a joined link executes to, where the events are possible. -/
def Link.after (origin : Link) (events : List (Side × Action)) : Option Link :=
  machine.exec (fun _ _ target => target.Established) origin events

theorem delivered_prefix_accepted_repeated :
    ∃ link, (Link.join answering requesting).after repeatedExchange = some link ∧
      link.right.delivered = [List.replicate 25 7] ∧
      link.right.delivered <+:
        Reassembly.prepend requesting.reassemblyBuffer link.left.accepted := by
  let link := ((Link.join answering requesting).after repeatedExchange).get (by decide)
  have executed : (Link.join answering requesting).after repeatedExchange = some link :=
    (Option.some_get _).symm
  exact ⟨link, executed, by decide,
    (delivered_prefix_accepted joinable_answering_requesting
      (Foundation.Machine.Run.exec repeatedExchange .origin executed)).1⟩

/-- A peer whose buffer holds an unfinished message of eight segments prefixes
it to the first message it passes up. -/
theorem delivered_not_prefix_accepted :
    ¬ ∀ (left right : LAPDmEntity) (link : Link) (events : List (Side × Action)),
      Joinable left right →
      (∀ side l3Data, (side, Action.sendData l3Data) ∈ events → l3Data.length ≤ 4096) →
      (Link.join left right).Run events link →
      link.right.delivered <+: link.left.accepted ∧
        link.left.delivered <+: link.right.accepted := by
  intro always
  let events : List (Side × Action) := [(.left, .sendData [9]), (.right, .receive)]
  let link := ((Link.join requesting wrapped).after events).get (by decide)
  have executed : (Link.join requesting wrapped).after events = some link :=
    (Option.some_get _).symm
  have short : ∀ side l3Data, (side, Action.sendData l3Data) ∈ events →
      l3Data.length ≤ 4096 := by
    intro side l3Data member
    simp only [events, List.mem_cons, Prod.mk.injEq, Action.sendData.injEq, reduceCtorEq,
      and_false, List.not_mem_nil, or_false] at member
    simp [member.2]
  have delivered := (always requesting wrapped link events joinable_requesting_wrapped short
    (Foundation.Machine.Run.exec events .origin executed)).1
  exact absurd delivered (by decide)

end Lapdm

end Gsml3
