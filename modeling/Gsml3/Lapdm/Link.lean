import Gsml3.Foundation.Machine
import Gsml3.Lapdm.EntityRuns

/-!
# Two entities on lossy FIFO channels

A link joins two entities by one channel per direction.  A channel delivers
frames in order and may lose any of them.  Each station records the messages
its `sendData` accepted and the payloads it passed up with `L3_DATA`.
-/

namespace Gsml3

namespace Lapdm

/-- The frames handed to layer 1, in order. -/
def transmitted (outputs : List Output) : List (List UInt8) :=
  outputs.filterMap fun
    | .transmit frameBytes => some frameBytes
    | .deliver .. => none

/-- The payloads passed up with `L3_DATA`, in order. -/
def passedUp (outputs : List Output) : List (List UInt8) :=
  outputs.filterMap fun
    | .deliver _ .L3_DATA l3Data => some l3Data
    | _ => none

@[simp] theorem transmitted_nil : transmitted [] = [] := rfl

@[simp] theorem passedUp_nil : passedUp [] = [] := rfl

@[simp] theorem transmitted_append (first second : List Output) :
    transmitted (first ++ second) = transmitted first ++ transmitted second :=
  List.filterMap_append

@[simp] theorem passedUp_append (first second : List Output) :
    passedUp (first ++ second) = passedUp first ++ passedUp second :=
  List.filterMap_append

@[simp] theorem transmitted_transmit (frameBytes : List UInt8) :
    transmitted [.transmit frameBytes] = [frameBytes] := rfl

@[simp] theorem transmitted_deliver (sapi : SAPI) (prim : Primitive) (l3Data : List UInt8) :
    transmitted [.deliver sapi prim l3Data] = [] := rfl

@[simp] theorem passedUp_transmit (frameBytes : List UInt8) :
    passedUp [.transmit frameBytes] = [] := rfl

@[simp] theorem passedUp_deliver_data (sapi : SAPI) (l3Data : List UInt8) :
    passedUp [.deliver sapi .L3_DATA l3Data] = [l3Data] := rfl

/-- One end of a link: the entity, the frames it has in flight towards its
peer, the messages it accepted and the messages it passed up. -/
structure Station where
  entity : LAPDmEntity
  outbound : List (List UInt8) := []
  accepted : List (List UInt8) := []
  delivered : List (List UInt8) := []
deriving DecidableEq

namespace Station

/-- A station joins a link with empty channel and records. -/
def join (entity : LAPDmEntity) : Station :=
  { entity := { entity with outputs := [] } }

/-- Frames in flight, with those the entity has just handed to layer 1. -/
def wire (station : Station) : List (List UInt8) :=
  station.outbound ++ transmitted station.entity.outputs

/-- Payloads passed up, with those of the running call. -/
def released (station : Station) : List (List UInt8) :=
  station.delivered ++ passedUp station.entity.outputs

/-- Move the callbacks of the last call to the channel and the record. -/
def settle (station : Station) : Station :=
  { station with
    entity := { station.entity with outputs := [] }
    outbound := station.wire
    delivered := station.released }

end Station

/-- What can happen at one end of a link. -/
inductive Action where
  /-- The upper layer sends a message. -/
  | sendData (l3Data : List UInt8)
  /-- The head frame of the peer's channel arrives. -/
  | receive
  /-- A frame of the station's own channel is lost. -/
  | lose (position : Nat)
  /-- Time passes for T200. -/
  | tickT200 (elapsed : Int)
deriving DecidableEq

/-- One action of `own`, facing `peer`.  Receiving from an empty channel and
losing a frame that does not exist are not possible. -/
def act (own peer : Station) : Action → Option (Station × Station)
  | .sendData l3Data =>
      let (entity, result) := own.entity.sendData l3Data
      let accepted :=
        match result with
        | .ok () => own.accepted ++ [l3Data]
        | .error _ => own.accepted
      some ({ own with entity := entity, accepted := accepted }.settle, peer)
  | .receive =>
      match peer.outbound with
      | [] => none
      | frameBytes :: rest =>
          some ({ own with entity := own.entity.receiveFrame frameBytes }.settle,
            { peer with outbound := rest })
  | .lose position =>
      if position < own.outbound.length then
        some ({ own with outbound := own.outbound.eraseIdx position }, peer)
      else none
  | .tickT200 elapsed =>
      some ({ own with entity := (own.entity.tickT200 elapsed).1 }.settle, peer)

/-- The two ends of a link. -/
inductive Side where
  | left
  | right
deriving DecidableEq

/-- Two stations joined by their channels. -/
structure Link where
  left : Station
  right : Station
deriving DecidableEq

namespace Link

/-- Two entities joined by empty channels. -/
def join (left right : LAPDmEntity) : Link :=
  ⟨.join left, .join right⟩

/-- Link events: an action at one side. -/
def step (link : Link) : Side × Action → Option Link
  | (.left, action) => (act link.left link.right action).map fun pair => ⟨pair.1, pair.2⟩
  | (.right, action) => (act link.right link.left action).map fun pair => ⟨pair.2, pair.1⟩

def machine : Foundation.Machine Link (Side × Action) where
  step := step

/-- Neither side has released the link. -/
def Established (link : Link) : Prop :=
  link.left.entity.state = .linkEstablished ∧ link.right.entity.state = .linkEstablished

instance (link : Link) : Decidable link.Established :=
  inferInstanceAs (Decidable (_ ∧ _))

/-- A run in which both sides stay in the established state. -/
abbrev Run (origin : Link) (events : List (Side × Action)) (link : Link) : Prop :=
  machine.Run (fun _ _ target => target.Established) origin events link

end Link

/-- What the two entities have to satisfy when they are joined: both are
established with all sequence variables at zero, an empty transmit queue and
the same payload limit. -/
structure Joinable (left right : LAPDmEntity) : Prop where
  reachable : left.Reachable ∧ right.Reachable
  established : left.state = .linkEstablished ∧ right.state = .linkEstablished
  vs : left.vs = 0 ∧ right.vs = 0
  va : left.va = 0 ∧ right.va = 0
  vr : left.vr = 0 ∧ right.vr = 0
  txQueue : left.txQueue = [] ∧ right.txQueue = []
  limit : left.profile.n201 = right.profile.n201
  positive : 1 ≤ left.profile.n201
  bounded : left.profile.n201 ≤ 63

end Lapdm

end Gsml3
