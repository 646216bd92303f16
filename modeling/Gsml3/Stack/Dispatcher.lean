import Gsml3.Core.Types
import Gsml3.Foundation.History
import Gsml3.Foundation.Machine
import Gsml3.Stack.Message
import Gsml3.Stack.ResponseMessages

/-!
# Message dispatcher

`ProtocolDispatcher` routes a message to the handler registered for its type, its domain, its
transaction, or any message.  A call that dispatches yields the handler it invokes.
-/

namespace Gsml3

namespace Stack

/-- The number of a discriminator. -/
def L3PD.toInt : L3PD → Int
  | .groupCallControl => 0x00
  | .broadcastCallControl => 0x01
  | .callControl => 0x03
  | .mobilityManagement => 0x05
  | .radioResource => 0x06
  | .gprsMobilityManagement => 0x08
  | .sms => 0x09
  | .gprsSessionManagement => 0x0a
  | .nonCallSS => 0x0b
  | .location => 0x0c
  | .packetDomainSupplementaryServices1 => 0x0d
  | .packetDomainSupplementaryServices2 => 0x0e
  | .testProcedure => 0x0f
  | .undefined => -1

/-- The message types that have a slot of their own. -/
def kMaxMtiSlots : Nat := 136

/-- The handlers in their slots; an empty handler is `none`. -/
structure ProtocolDispatcher (Handler : Type) where
  handlers : Vector (Vector (Option Handler) kMaxMtiSlots) 16 := .replicate 16 (.replicate _ none)
  domainHandlers : Vector (Option Handler) 16 := .replicate 16 none
  fallback : Option Handler := none
  tiHandlers : Vector (Option Handler) 8 := .replicate 8 none

namespace ProtocolDispatcher

variable {Handler : Type}

/-- The slots of a discriminator. -/
def row (dispatcher : ProtocolDispatcher Handler) (pidx : Nat) :
    Vector (Option Handler) kMaxMtiSlots :=
  dispatcher.handlers[pidx]?.getD (.replicate _ none)

/-- A discriminator or type outside the table registers nothing. -/
def registerHandler (dispatcher : ProtocolDispatcher Handler) (pd : L3PD) (mti : Int)
    (handler : Option Handler) : ProtocolDispatcher Handler :=
  let pidx := pd.toInt
  if 0 ≤ pidx ∧ pidx < 16 ∧ 0 ≤ mti ∧ mti < kMaxMtiSlots then
    { dispatcher with
      handlers := dispatcher.handlers.setIfInBounds pidx.toNat
        ((dispatcher.row pidx.toNat).setIfInBounds mti.toNat
          handler) }
  else dispatcher

/-- A discriminator outside the table registers nothing. -/
def registerDomainHandler (dispatcher : ProtocolDispatcher Handler) (pd : L3PD)
    (handler : Option Handler) : ProtocolDispatcher Handler :=
  let pidx := pd.toInt
  if 0 ≤ pidx ∧ pidx < 16 then
    { dispatcher with
      domainHandlers := dispatcher.domainHandlers.setIfInBounds pidx.toNat handler }
  else dispatcher

/-- The handler of messages that no other one takes. -/
def setFallbackHandler (dispatcher : ProtocolDispatcher Handler) (handler : Option Handler) :
    ProtocolDispatcher Handler :=
  { dispatcher with fallback := handler }

/-- A transaction identifier of 8 or more registers nothing. -/
def registerTIHandler (dispatcher : ProtocolDispatcher Handler) (ti : UInt8)
    (handler : Option Handler) : ProtocolDispatcher Handler :=
  if ti < 8 then
    { dispatcher with tiHandlers := dispatcher.tiHandlers.setIfInBounds ti.toNat handler }
  else dispatcher

/-- The handler in the slot of a message type. -/
def specific (dispatcher : ProtocolDispatcher Handler) (pd : L3PD) (mti : Int) : Option Handler :=
  let pidx := pd.toInt
  if 0 ≤ pidx ∧ pidx < 16 ∧ 0 ≤ mti ∧ mti < kMaxMtiSlots then
    (dispatcher.row pidx.toNat)[mti.toNat]?.join
  else none

/-- The handler in the slot of a domain. -/
def domain (dispatcher : ProtocolDispatcher Handler) (pd : L3PD) : Option Handler :=
  let pidx := pd.toInt
  if 0 ≤ pidx ∧ pidx < 16 then dispatcher.domainHandlers[pidx.toNat]?.join else none

/-- The handler of the message type, of the discriminator, or the fallback. -/
def dispatch (dispatcher : ProtocolDispatcher Handler) (msg : ParsedMessage) : Option Handler :=
  match dispatcher.specific (messagePD msg) (messageMTI msg) with
  | some handler => some handler
  | none =>
      match dispatcher.domain (messagePD msg) with
      | some handler => some handler
      | none => dispatcher.fallback

/-- Parse and dispatch: whether the octets parsed, and the handler invoked. -/
def dispatchRaw (parseL3 : List UInt8 → Except ParseError ParsedMessage)
    (dispatcher : ProtocolDispatcher Handler) (data : List UInt8) : Bool × Option Handler :=
  match parseL3 data with
  | .error _ => (false, none)
  | .ok msg => (true, dispatcher.dispatch msg)

/-- The handler of the transaction goes before those of `dispatch`. -/
def dispatchWithTI (dispatcher : ProtocolDispatcher Handler) (msg : ParsedMessage) :
    Option Handler :=
  let pd := messagePD msg
  let ti := messageTI msg
  if (pd = .callControl ∨ pd = .nonCallSS) ∧ ti < 8 ∧
      dispatcher.tiHandlers[ti.toNat]?.join.isSome then
    dispatcher.tiHandlers[ti.toNat]?.join
  else dispatcher.dispatch msg

/-! ## Registrations -/

/-- A call that registers a handler. -/
inductive Registration (Handler : Type) where
  | registerHandler (pd : L3PD) (mti : Int) (handler : Option Handler)
  | registerDomainHandler (pd : L3PD) (handler : Option Handler)
  | setFallbackHandler (handler : Option Handler)
  | registerTIHandler (ti : UInt8) (handler : Option Handler)
deriving DecidableEq, Repr

/-- One registration. -/
def register (dispatcher : ProtocolDispatcher Handler) :
    Registration Handler → ProtocolDispatcher Handler
  | .registerHandler pd mti handler => dispatcher.registerHandler pd mti handler
  | .registerDomainHandler pd handler => dispatcher.registerDomainHandler pd handler
  | .setFallbackHandler handler => dispatcher.setFallbackHandler handler
  | .registerTIHandler ti handler => dispatcher.registerTIHandler ti handler

/-- The dispatcher as a machine over registrations. -/
def machine : Foundation.Machine (ProtocolDispatcher Handler) (Registration Handler) where
  step dispatcher registration := some (dispatcher.register registration)

namespace Registration

/-- What a registration puts into the slot of a message type. -/
def specific? (pd : L3PD) (mti : Int) : Registration Handler → Option (Option Handler)
  | .registerHandler pd' mti' handler => if pd' = pd ∧ mti' = mti then some handler else none
  | _ => none

/-- What a registration puts into the slot of a domain. -/
def domain? (pd : L3PD) : Registration Handler → Option (Option Handler)
  | .registerDomainHandler pd' handler => if pd' = pd then some handler else none
  | _ => none

/-- The fallback handler that a registration sets. -/
def fallback? : Registration Handler → Option (Option Handler)
  | .setFallbackHandler handler => some handler
  | _ => none

/-- What a registration puts into the slot of a transaction. -/
def ti? (ti : UInt8) : Registration Handler → Option (Option Handler)
  | .registerTIHandler ti' handler => if ti' = ti then some handler else none
  | _ => none

end Registration

/-! ## The latest registration -/

open Foundation (Machine)
open Foundation.History

/-- The handler registered last, as far as it is not empty. -/
def lastOf {Event : Type} (value : Event → Option (Option Handler)) (history : List Event) :
    Option Handler :=
  (latest value history).join

theorem L3PD.toInt_inj {pd other : L3PD} (same : pd.toInt = other.toInt) : pd = other := by
  cases pd <;> cases other <;> first | rfl | cases same

theorem L3PD.toInt_slot {pd : L3PD} (defined : pd ≠ .undefined) : 0 ≤ pd.toInt ∧ pd.toInt < 16 := by
  cases pd <;> first | decide | exact absurd rfl defined

/-- The message type has a slot. -/
def HasSlot (pd : L3PD) (mti : Int) : Prop :=
  pd ≠ .undefined ∧ 0 ≤ mti ∧ mti < kMaxMtiSlots

theorem hasSlot_iff {pd : L3PD} {mti : Int} :
    (0 ≤ pd.toInt ∧ pd.toInt < 16 ∧ 0 ≤ mti ∧ mti < kMaxMtiSlots) ↔ HasSlot pd mti := by
  constructor
  · intro ⟨low, _, slot⟩
    refine ⟨?_, slot⟩
    rintro rfl
    exact absurd low (by decide)
  · intro ⟨defined, slot⟩
    obtain ⟨low, high⟩ := L3PD.toInt_slot defined
    exact ⟨low, high, slot⟩

section Slots

variable {dispatcher : ProtocolDispatcher Handler}

theorem join_setIfInBounds {n : Nat} (slots : Vector (Option Handler) n) {i : Nat} (inside : i < n)
    (j : Nat) (handler : Option Handler) :
    (slots.setIfInBounds i handler)[j]?.join = if i = j then handler else slots[j]?.join := by
  rw [Vector.getElem?_setIfInBounds]
  by_cases same : i = j
  · rw [if_pos same, if_pos same, if_pos inside]
    rfl
  · rw [if_neg same, if_neg same]

theorem join_replicate (n i : Nat) :
    (Vector.replicate n (none : Option Handler))[i]?.join = none := by
  rw [Vector.getElem?_replicate]
  split <;> rfl

theorem row_setIfInBounds {i : Nat} (inside : i < 16) (j : Nat)
    (row : Vector (Option Handler) kMaxMtiSlots) :
    ProtocolDispatcher.row { dispatcher with
      handlers := dispatcher.handlers.setIfInBounds i row } j =
        if i = j then row else dispatcher.row j := by
  rw [ProtocolDispatcher.row, Vector.getElem?_setIfInBounds]
  by_cases same : i = j
  · rw [if_pos same, if_pos same, if_pos inside]
    rfl
  · rw [if_neg same, if_neg same]
    rfl

/-- A registration writes the slot of its message type, and no other. -/
theorem specific_registerHandler (pd other : L3PD) (mti mti' : Int) (handler : Option Handler)
    (slot : HasSlot other mti') :
    (dispatcher.registerHandler pd mti handler).specific other mti' =
      if pd = other ∧ mti = mti' then handler else dispatcher.specific other mti' := by
  have guard := hasSlot_iff.mpr slot
  rw [registerHandler, specific, if_pos guard, specific, if_pos guard]
  by_cases written : HasSlot pd mti
  · have bounds := hasSlot_iff.mpr written
    obtain ⟨low, high, mti_low, mti_high⟩ := bounds
    rw [if_pos ⟨low, high, mti_low, mti_high⟩, row_setIfInBounds (by omega)]
    by_cases same : pd = other
    · subst same
      rw [if_pos rfl, join_setIfInBounds _ (by omega)]
      obtain ⟨-, -, other_low, -⟩ := guard
      by_cases equal : mti = mti'
      · rw [if_pos (congrArg Int.toNat equal), if_pos ⟨rfl, equal⟩]
      · rw [if_neg (by omega), if_neg fun both => equal both.2]
    · rw [if_neg fun number => same (L3PD.toInt_inj (by obtain ⟨low', -⟩ := guard; omega)),
        if_neg fun both => same both.1]
  · rw [if_neg fun bounds => written (hasSlot_iff.mp bounds),
      if_neg (by rintro ⟨rfl, rfl⟩; exact written slot)]

theorem domain_registerDomainHandler (pd other : L3PD) (handler : Option Handler)
    (defined : other ≠ .undefined) :
    (dispatcher.registerDomainHandler pd handler).domain other =
      if pd = other then handler else dispatcher.domain other := by
  have guard := L3PD.toInt_slot defined
  rw [registerDomainHandler, domain, if_pos guard, domain, if_pos guard]
  by_cases written : 0 ≤ pd.toInt ∧ pd.toInt < 16
  · rw [if_pos written, join_setIfInBounds _ (by omega)]
    by_cases same : pd = other
    · subst same
      rw [if_pos rfl, if_pos rfl]
    · rw [if_neg fun number => same (L3PD.toInt_inj (by omega)), if_neg same]
  · rw [if_neg written, if_neg (by rintro rfl; exact written guard)]

theorem ti_registerTIHandler (ti other : UInt8) (handler : Option Handler) (slot : other < 8) :
    (dispatcher.registerTIHandler ti handler).tiHandlers[other.toNat]?.join =
      if ti = other then handler else dispatcher.tiHandlers[other.toNat]?.join := by
  rw [registerTIHandler]
  by_cases written : ti < 8
  · rw [if_pos written, join_setIfInBounds _ (UInt8.lt_iff_toNat_lt.mp written)]
    simp only [UInt8.toNat_inj]
  · rw [if_neg written, if_neg (by rintro rfl; exact written slot)]

end Slots

/-- The slots hold what was registered last. -/
structure Tracks (history : List (Registration Handler))
    (dispatcher : ProtocolDispatcher Handler) : Prop where
  specific : ∀ pd mti, HasSlot pd mti →
    dispatcher.specific pd mti = lastOf (Registration.specific? pd mti) history
  domain : ∀ pd, pd ≠ .undefined →
    dispatcher.domain pd = lastOf (Registration.domain? pd) history
  fallback : dispatcher.fallback = lastOf Registration.fallback? history
  ti : ∀ ti : UInt8, ti < 8 →
    dispatcher.tiHandlers[ti.toNat]?.join = lastOf (Registration.ti? ti) history

theorem lastOf_snoc_none {Event : Type} {value : Event → Option (Option Handler)}
    {history : List Event} {event : Event} (silent : value event = none) :
    lastOf value (history ++ [event]) = lastOf value history := by
  rw [lastOf, latest_snoc_none silent, lastOf]

theorem lastOf_snoc_some {Event : Type} {value : Event → Option (Option Handler)}
    {history : List Event} {event : Event} {handler : Option Handler}
    (carries : value event = some handler) : lastOf value (history ++ [event]) = handler := by
  rw [lastOf, latest_snoc_some carries, Option.join_some]

theorem tracks_start : Tracks [] ({} : ProtocolDispatcher Handler) where
  specific pd mti slot := by
    have empty : ({} : ProtocolDispatcher Handler).row pd.toInt.toNat = .replicate _ none := by
      rw [row, Vector.getElem?_replicate]
      split <;> rfl
    rw [ProtocolDispatcher.specific, if_pos (hasSlot_iff.mpr slot), empty, join_replicate]
    rfl
  domain pd defined := by
    rw [ProtocolDispatcher.domain, if_pos (L3PD.toInt_slot defined), join_replicate]
    rfl
  fallback := rfl
  ti ti _ := join_replicate 8 ti.toNat

/-- A registration shows in the slots it names. -/
theorem Tracks.register {history : List (Registration Handler)}
    {dispatcher : ProtocolDispatcher Handler} (tracks : Tracks history dispatcher)
    (registration : Registration Handler) :
    Tracks (history ++ [registration]) (dispatcher.register registration) := by
  cases registration with
  | registerHandler pd mti handler =>
      refine ⟨fun other mti' slot => ?_, fun other defined => ?_, ?_, fun ti inside => ?_⟩
      · rw [ProtocolDispatcher.register, specific_registerHandler _ _ _ _ _ slot]
        by_cases same : pd = other ∧ mti = mti'
        · have written : Registration.specific? other mti' (.registerHandler pd mti handler) =
              some handler :=
            if_pos same
          rw [if_pos same, lastOf_snoc_some written]
        · have silent : Registration.specific? other mti' (.registerHandler pd mti handler) =
              none :=
            if_neg same
          rw [if_neg same, lastOf_snoc_none silent, tracks.specific other mti' slot]
      · rw [lastOf_snoc_none rfl, ← tracks.domain other defined, ProtocolDispatcher.register,
          registerHandler]
        split <;> rfl
      · rw [lastOf_snoc_none rfl, ← tracks.fallback, ProtocolDispatcher.register, registerHandler]
        split <;> rfl
      · rw [lastOf_snoc_none rfl, ← tracks.ti ti inside, ProtocolDispatcher.register,
          registerHandler]
        split <;> rfl
  | registerDomainHandler pd handler =>
      refine ⟨fun other mti slot => ?_, fun other defined => ?_, ?_, fun ti inside => ?_⟩
      · rw [lastOf_snoc_none rfl, ← tracks.specific other mti slot, ProtocolDispatcher.register,
          registerDomainHandler]
        split <;> rfl
      · rw [ProtocolDispatcher.register, domain_registerDomainHandler _ _ _ defined]
        by_cases same : pd = other
        · have written : Registration.domain? other (.registerDomainHandler pd handler) =
              some handler :=
            if_pos same
          rw [if_pos same, lastOf_snoc_some written]
        · have silent : Registration.domain? other (.registerDomainHandler pd handler) = none :=
            if_neg same
          rw [if_neg same, lastOf_snoc_none silent, tracks.domain other defined]
      · rw [lastOf_snoc_none rfl, ← tracks.fallback, ProtocolDispatcher.register,
          registerDomainHandler]
        split <;> rfl
      · rw [lastOf_snoc_none rfl, ← tracks.ti ti inside, ProtocolDispatcher.register,
          registerDomainHandler]
        split <;> rfl
  | setFallbackHandler handler =>
      refine ⟨fun other mti slot => ?_, fun other defined => ?_, ?_, fun ti inside => ?_⟩
      · rw [lastOf_snoc_none rfl, ← tracks.specific other mti slot]
        rfl
      · rw [lastOf_snoc_none rfl, ← tracks.domain other defined]
        rfl
      · have written : Registration.fallback? (.setFallbackHandler handler) = some handler := rfl
        rw [lastOf_snoc_some written]
        rfl
      · rw [lastOf_snoc_none rfl, ← tracks.ti ti inside]
        rfl
  | registerTIHandler ti handler =>
      refine ⟨fun other mti slot => ?_, fun other defined => ?_, ?_, fun ti' inside => ?_⟩
      · rw [lastOf_snoc_none rfl, ← tracks.specific other mti slot, ProtocolDispatcher.register,
          registerTIHandler]
        split <;> rfl
      · rw [lastOf_snoc_none rfl, ← tracks.domain other defined, ProtocolDispatcher.register,
          registerTIHandler]
        split <;> rfl
      · rw [lastOf_snoc_none rfl, ← tracks.fallback, ProtocolDispatcher.register, registerTIHandler]
        split <;> rfl
      · rw [ProtocolDispatcher.register, ti_registerTIHandler _ _ _ inside]
        by_cases same : ti = ti'
        · have written : Registration.ti? ti' (.registerTIHandler ti handler) = some handler :=
            if_pos same
          rw [if_pos same, lastOf_snoc_some written]
        · have silent : Registration.ti? ti' (.registerTIHandler ti handler) = none :=
            if_neg same
          rw [if_neg same, lastOf_snoc_none silent, tracks.ti ti' inside]

/-! ## Resolution -/

instance (pd : L3PD) (mti : Int) : Decidable (HasSlot pd mti) :=
  inferInstanceAs (Decidable (_ ∧ _))

/-- The handler for a message after these registrations: the last one for its type, else the last
one for its domain, else the last fallback.  One registered last as empty counts as none. -/
def resolve (history : List (Registration Handler)) (msg : ParsedMessage) : Option Handler :=
  let pd := messagePD msg
  let mti := messageMTI msg
  ((if HasSlot pd mti then lastOf (Registration.specific? pd mti) history else none).or
    (if pd = .undefined then none else lastOf (Registration.domain? pd) history)).or
      (lastOf Registration.fallback? history)

/-- With the transaction, messages of calls and supplementary services go first to the handler
registered last for their transaction. -/
def resolveWithTI (history : List (Registration Handler)) (msg : ParsedMessage) :
    Option Handler :=
  (if (messagePD msg = .callControl ∨ messagePD msg = .nonCallSS) ∧ messageTI msg < 8 then
    lastOf (Registration.ti? (messageTI msg)) history else none).or (resolve history msg)

variable {history : List (Registration Handler)} {dispatcher : ProtocolDispatcher Handler}

theorem Tracks.dispatch (tracks : Tracks history dispatcher) (msg : ParsedMessage) :
    dispatcher.dispatch msg = resolve history msg := by
  have specific : dispatcher.specific (messagePD msg) (messageMTI msg) =
      if HasSlot (messagePD msg) (messageMTI msg) then
        lastOf (Registration.specific? (messagePD msg) (messageMTI msg)) history else none := by
    by_cases slot : HasSlot (messagePD msg) (messageMTI msg)
    · rw [if_pos slot, tracks.specific _ _ slot]
    · rw [if_neg slot, ProtocolDispatcher.specific,
        if_neg fun bounds => slot (hasSlot_iff.mp bounds)]
  have domain : dispatcher.domain (messagePD msg) =
      if messagePD msg = .undefined then none
      else lastOf (Registration.domain? (messagePD msg)) history := by
    by_cases undefined : messagePD msg = .undefined
    · rw [if_pos undefined, undefined]
      rfl
    · rw [if_neg undefined, tracks.domain _ undefined]
  rw [ProtocolDispatcher.dispatch, resolve, ← specific, ← domain, ← tracks.fallback]
  cases dispatcher.specific (messagePD msg) (messageMTI msg) with
  | some handler => rfl
  | none =>
      cases dispatcher.domain (messagePD msg) with
      | some handler => rfl
      | none => rfl

theorem Tracks.dispatchWithTI (tracks : Tracks history dispatcher) (msg : ParsedMessage) :
    dispatcher.dispatchWithTI msg = resolveWithTI history msg := by
  rw [ProtocolDispatcher.dispatchWithTI, resolveWithTI, ← tracks.dispatch]
  by_cases routed : (messagePD msg = .callControl ∨ messagePD msg = .nonCallSS) ∧ messageTI msg < 8
  · rw [if_pos routed, ← tracks.ti _ routed.2]
    cases dispatcher.tiHandlers[(messageTI msg).toNat]?.join with
    | some handler => exact if_pos ⟨routed.1, routed.2, rfl⟩
    | none =>
        apply if_neg
        intro ⟨_, _, some_handler⟩
        cases some_handler
  · rw [if_neg routed, Option.none_or]
    exact if_neg fun found => routed ⟨found.1, found.2.1⟩

/-- After any registrations, a dispatcher invokes the handler that they resolve to.  For raw octets
the result is true as soon as they parse, whether or not there is a handler. -/
theorem run_dispatches (parseL3 : List UInt8 → Except ParseError ParsedMessage)
    (run : machine.Run (fun _ _ _ => True) {} history dispatcher) :
    (∀ msg, dispatcher.dispatch msg = resolve history msg) ∧
    (∀ msg, dispatcher.dispatchWithTI msg = resolveWithTI history msg) ∧
    ∀ data, dispatcher.dispatchRaw parseL3 data =
      match parseL3 data with
      | .error _ => (false, none)
      | .ok msg => (true, resolve history msg) := by
  have tracks : Tracks history dispatcher := by
    apply run.invariant (fun history reached => Tracks history reached) tracks_start
    intro past source target registration before stepped _
    obtain rfl := Option.some.inj stepped
    exact before.register registration
  refine ⟨tracks.dispatch, tracks.dispatchWithTI, ?_⟩
  intro data
  rw [dispatchRaw]
  cases parseL3 data with
  | error => rfl
  | ok msg => exact congrArg (Prod.mk true) (tracks.dispatch msg)

/-- What a handler is chosen by in a call setup that was parsed. -/
private def setupSeen : Gsml3.ParsedMessage (Response ⊕ Unit) → ParsedMessage
  | .other (.inl (.setup msg)) => .setup (UInt8.ofNat msg.ti)
  | _ => .other .undefined (-1) 0

/-- A handler of a domain, replaced by an empty one, and a fallback, which is given the octets of a
Setup. -/
theorem run_dispatches_fallback :
    let parseL3 data := (Parser.parseL3 (Response.others fun _ => pure ()) false data).map setupSeen
    parseL3 [0x63, 0x05, 0x04, 0x01, 0xA0] = .ok (.setup 3) ∧
      ∃ dispatcher : ProtocolDispatcher Nat,
        dispatcher.dispatch (.setup 3) = some 2 ∧
        dispatcher.dispatchWithTI (.setup 3) = some 2 ∧
        dispatcher.dispatchRaw parseL3 [0x63, 0x05, 0x04, 0x01, 0xA0] = (true, some 2) := by
  intro parseL3
  have parsed : parseL3 [0x63, 0x05, 0x04, 0x01, 0xA0] = .ok (.setup 3) := by rfl
  have run : machine.Run (fun _ _ _ => True) ({} : ProtocolDispatcher Nat)
      [.registerDomainHandler .callControl (some 1), .setFallbackHandler (some 2),
        .registerDomainHandler .callControl none] _ :=
    .next (.next (.next .origin rfl trivial) rfl trivial) rfl trivial
  obtain ⟨dispatches, with_ti, raw⟩ := run_dispatches parseL3 run
  refine ⟨parsed, _, dispatches _, with_ti _, ?_⟩
  rw [raw, parsed]
  rfl

end ProtocolDispatcher

end Stack

end Gsml3
