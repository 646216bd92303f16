import Gsml3.Stack.RegistryCalls

/-!
# The link index

`findByLink` leads to the session that a link was assigned to last, as long as
no session gives up a channel whose link has gone to another session.
`assignChannel` moves a link without a word to its old holder, and when that
holder later releases its channel it erases the link of the new one.
-/

namespace Gsml3

namespace Stack

/-! ## Link keys -/

theorem encodeLinkKey_lt (trx ts lapdmLink : UInt8) :
    (encodeLinkKey trx ts lapdmLink).toNat < 2 ^ 24 := by
  have bounds : ∀ x : UInt8, x.toUInt32.toNat < 2 ^ 8 := fun x => x.toNat_lt
  have high : (trx.toUInt32 <<< 16).toNat < 2 ^ 24 := by
    have low := bounds trx
    rw [UInt32.toNat_shiftLeft, Nat.shiftLeft_eq]
    refine (Nat.mod_le _ _).trans_lt ?_
    change trx.toUInt32.toNat * 2 ^ 16 < 2 ^ 24
    omega
  have middle : (ts.toUInt32 <<< 8).toNat < 2 ^ 24 := by
    have low := bounds ts
    rw [UInt32.toNat_shiftLeft, Nat.shiftLeft_eq]
    refine (Nat.mod_le _ _).trans_lt ?_
    change ts.toUInt32.toNat * 2 ^ 8 < 2 ^ 24
    omega
  have low : lapdmLink.toUInt32.toNat < 2 ^ 24 := (bounds lapdmLink).trans (by decide)
  rw [encodeLinkKey, UInt32.toNat_or, UInt32.toNat_or]
  exact Nat.or_lt_two_pow (Nat.or_lt_two_pow high middle) low

namespace SubscriberRegistry

open FlatMap (setValue Represents)

variable {hash : UInt32 → UInt64}

/-! ## The index as a map -/

/-- The index leads every key to the session `owner` gives. -/
structure Leads (hash : UInt32 → UInt64) (byLink : FlatMap UInt32 SessionRef)
    (owner : UInt32 → Option SessionRef) : Prop where
  links : ∃ directory, Represents hash byLink directory ∧ directory.value = owner
  keys : ∀ key, owner key ≠ none → key.toNat < 2 ^ 24
  slots : byLink.slots.length ≤ 2 ^ 26

theorem leads_empty : Leads hash {} fun _ => none where
  links := ⟨.empty, FlatMap.represents_empty, rfl⟩
  keys := fun _ absent => absurd rfl absent
  slots := Nat.zero_le _

namespace Leads

variable {byLink : FlatMap UInt32 SessionRef} {owner : UInt32 → Option SessionRef}

/-- A search that ends meets the owner. -/
theorem find_eq (leads : Leads hash byLink owner) {key : UInt32} {result : Option Nat}
    (run : FlatMap.find hash byLink key = some result) :
    result.bind byLink.valueAt = owner key := by
  obtain ⟨directory, represents, rfl⟩ := leads.links
  rw [represents.find_eq run, Foundation.Directory.value]
  cases bound : directory key with
  | none => rfl
  | some binding => exact (represents.find_bound bound).2

theorem find_some (leads : Leads hash byLink owner) {key : UInt32} {ref : SessionRef} :
    (FlatMap.find hash byLink key).map (fun idx => idx.bind byLink.valueAt) = some (some ref) ↔
      owner key = some ref := by
  constructor
  · intro found
    obtain ⟨result, run, led⟩ := Option.map_eq_some_iff.mp found
    rw [← leads.find_eq run, led]
  · intro owned
    obtain ⟨directory, represents, rfl⟩ := leads.links
    obtain ⟨⟨idx, value⟩, bound, rfl⟩ := Option.map_eq_some_iff.mp owned
    obtain ⟨run, held⟩ := represents.find_bound bound
    rw [run, Option.map_some, Option.bind_some, held]

/-- There are at most `2 ^ 24` links. -/
theorem size_le (leads : Leads hash byLink owner) : byLink.size ≤ 2 ^ 24 := by
  obtain ⟨directory, represents, rfl⟩ := leads.links
  rw [represents.size]
  have small : UInt32.toNat '' directory.keys ⊆ (Finset.range (2 ^ 24) : Set Nat) := by
    rintro _ ⟨key, bound, rfl⟩
    rw [Finset.coe_range, Set.mem_Iio]
    exact leads.keys key fun unowned => bound (Foundation.Directory.value_eq_none.mp unowned)
  have count := Set.ncard_le_ncard small (Finset.finite_toSet _)
  rwa [Set.ncard_coe_finset, Finset.card_range,
    Set.ncard_image_of_injective _ fun _ _ => UInt32.toNat_inj.mp] at count

theorem clear (leads : Leads hash byLink owner) : Leads hash byLink.clear fun _ => none where
  links := by
    obtain ⟨directory, represents, -⟩ := leads.links
    exact ⟨.empty, represents.clear, rfl⟩
  keys := fun _ absent => absurd rfl absent
  slots := by
    rw [FlatMap.clear, List.length_replicate]
    exact leads.slots

variable {reg target : SubscriberRegistry}

/-- Erasing a link. -/
theorem unlink (leads : Leads hash reg.byLink owner) {key : UInt32}
    (run : SubscriberRegistry.unlink hash reg key = some target) :
    Leads hash target.byLink (Function.update owner key none) := by
  obtain ⟨result, find_run, rest⟩ := Option.bind_eq_some_iff.mp run
  obtain ⟨directory, represents, rfl⟩ := leads.links
  have found := represents.find_eq find_run
  have keys : ∀ other, Function.update directory.value key none other ≠ none →
      other.toNat < 2 ^ 24 := by
    intro other owned
    refine leads.keys other fun unowned => owned ?_
    rw [Function.update_apply, unowned, ite_self]
  cases result with
  | none =>
      obtain rfl := Option.some.inj rest
      have unbound := Option.map_eq_none_iff.mp found.symm
      exact ⟨⟨directory, represents, (Foundation.Directory.value_unbound unbound).symm⟩, keys,
        leads.slots⟩
  | some idx =>
      obtain ⟨⟨byLink, flag⟩, erase_run, rfl⟩ := Option.map_eq_some_iff.mp rest
      obtain ⟨⟨idx', ref⟩, bound, rfl⟩ := Option.map_eq_some_iff.mp found.symm
      obtain ⟨erased, erase_run', valid, pairs, size, -⟩ :=
        represents.valid.erase_live (represents.present bound)
      obtain ⟨rfl, -⟩ := Prod.mk.inj (Option.some.inj (erase_run'.symm.trans erase_run))
      refine ⟨⟨_, represents.remove bound valid pairs size,
        Foundation.Directory.value_removeAt represents.separated bound⟩, keys, ?_⟩
      rw [FlatMap.erase_slots erase_run]
      exact leads.slots

/-- Adding or moving a link. -/
theorem link (leads : Leads hash reg.byLink owner) {key : UInt32} {ref : SessionRef}
    (small : key.toNat < 2 ^ 24) (run : SubscriberRegistry.link hash reg key ref = some target) :
    Leads hash target.byLink (Function.update owner key (some ref)) := by
  obtain ⟨result, find_run, rest⟩ := Option.bind_eq_some_iff.mp run
  obtain ⟨directory, represents, rfl⟩ := leads.links
  have found := represents.find_eq find_run
  have keys : ∀ other, Function.update directory.value key (some ref) other ≠ none →
      other.toNat < 2 ^ 24 := by
    intro other owned
    by_cases same : other = key
    · rwa [same]
    · rw [Function.update_of_ne same] at owned
      exact leads.keys other owned
  cases result with
  | none =>
      obtain ⟨⟨byLink, idx, inserted⟩, emplace_run, rfl⟩ := Option.map_eq_some_iff.mp rest
      have count := leads.size_le
      have slots := FlatMap.emplace_slots_le leads.slots (by decide) (by omega) emplace_run
      have unbound := Option.map_eq_none_iff.mp found.symm
      obtain ⟨-, emplaced⟩ := represents.valid.emplace_absent (represents.absent unbound)
        emplace_run (slots.trans (by decide))
      exact ⟨⟨_, represents.insert unbound emplaced, Foundation.Directory.value_insert ..⟩,
        keys, slots⟩
  | some idx =>
      obtain rfl := Option.some.inj rest
      obtain ⟨⟨idx', old⟩, bound, rfl⟩ := Option.map_eq_some_iff.mp found.symm
      exact ⟨⟨_, represents.modifyAt idx' fun _ => ref,
        Foundation.Directory.value_modifyAt represents.separated bound _⟩, keys, leads.slots⟩

/-- Erasing the link of the channel a session holds. -/
theorem unlinkHeld (leads : Leads hash reg.byLink owner) {session : SubscriberSession}
    (run : SubscriberRegistry.unlinkHeld hash reg session = some target) :
    Leads hash target.byLink
      (if session.channel.isSome then Function.update owner session.linkKey none else owner) := by
  rw [SubscriberRegistry.unlinkHeld] at run
  split at run
  case isTrue held =>
    rw [if_pos held]
    exact leads.unlink run
  case isFalse idle =>
    obtain rfl := Option.some.inj run
    rw [if_neg idle]
    exact leads

end Leads

/-! ## Owners -/

/-- What an answered call does to the latest assignments. -/
def recordAssignment (latest : UInt32 → Option SessionRef) :
    Op × Reply → UInt32 → Option SessionRef
  | (.assignChannel ref desc lapdmLink, _) =>
      Function.update latest (encodeLinkKey desc.trxNumber desc.timeslot lapdmLink) (some ref)
  | _ => latest

/-- The session a link key was assigned to last. -/
def latestAssignee (events : List (Op × Reply)) : UInt32 → Option SessionRef :=
  events.foldl recordAssignment fun _ => none

theorem latestAssignee_snoc (past : List (Op × Reply)) (event : Op × Reply) :
    latestAssignee (past ++ [event]) = recordAssignment (latestAssignee past) event := by
  rw [latestAssignee, List.foldl_append]
  rfl

/-- A live session holds a channel with this key, and the key was assigned to
it last. -/
def Owns (latest : UInt32 → Option SessionRef) (reg : SubscriberRegistry) (key : UInt32)
    (ref : SessionRef) : Prop :=
  ∃ session, reg.sessionAt ref = some session ∧ session.channel.isSome ∧
    session.linkKey = key ∧ latest key = some ref

section Owners

variable {reg target : SubscriberRegistry} {ref other : SessionRef} {key : UInt32}
  {latest owner : UInt32 → Option SessionRef}

theorem owns_congr (sessions : ∀ other, target.sessionAt other = reg.sessionAt other) :
    Owns latest target key other ↔ Owns latest reg key other := by
  simp only [Owns, sessions]

/-- A session that has no channel afterwards owns nothing. -/
theorem owns_vacated {session : Option SubscriberSession}
    (stored : Stored reg target ref session) (idle : ∀ s ∈ session, s.channel = none) :
    Owns latest target key other ↔ Owns latest reg key other ∧ other ≠ ref := by
  rw [Owns, Owns]
  by_cases own : other = ref
  · subst own
    refine iff_of_false ?_ fun both => both.2 rfl
    rintro ⟨s, live, held, -⟩
    rw [stored.self] at live
    rw [idle s live] at held
    cases held
  · rw [stored.of_ne own]
    exact (and_iff_left own).symm

/-- A session that is assigned a channel owns its key. -/
theorem owns_occupied {session : SubscriberSession} {desc : ChannelDescriptor}
    {lapdmLink : UInt8} (stored : Stored reg target ref (some (session.occupy desc lapdmLink))) :
    Owns (Function.update latest (encodeLinkKey desc.trxNumber desc.timeslot lapdmLink)
        (some ref)) target key other ↔
      if key = encodeLinkKey desc.trxNumber desc.timeslot lapdmLink then other = ref
      else Owns latest reg key other ∧ other ≠ ref := by
  rw [Owns, Function.update_apply]
  split
  case isTrue same =>
    constructor
    · rintro ⟨-, -, -, -, last⟩
      exact (Option.some.inj last).symm
    · rintro rfl
      exact ⟨_, stored.self, rfl, same.symm, rfl⟩
  case isFalse apart =>
    by_cases own : other = ref
    · subst own
      refine iff_of_false ?_ fun both => both.2 rfl
      rintro ⟨s, live, -, keyed, -⟩
      rw [stored.self] at live
      obtain rfl := Option.some.inj live
      exact apart keyed.symm
    · rw [stored.of_ne own]
      exact (and_iff_left own).symm

/-- Erasing the link of a channel takes nothing from another session. -/
theorem owner_unlinkHeld {session : SubscriberSession}
    (owners : ∀ key other, owner key = some other ↔ Owns latest reg key other)
    (live : reg.sessionAt ref = some session)
    (own : session.channel.isSome → key = session.linkKey →
      ∀ holder, owner session.linkKey = some holder → holder = ref) :
    (if session.channel.isSome then Function.update owner session.linkKey none else owner) key =
        some other ↔
      owner key = some other ∧ other ≠ ref := by
  have mine : owner key = some ref → session.channel.isSome ∧ key = session.linkKey := by
    intro owned
    obtain ⟨s, live', held, keyed, -⟩ := (owners key ref).mp owned
    obtain rfl := Option.some.inj (live.symm.trans live')
    exact ⟨held, keyed.symm⟩
  split
  case isTrue held =>
    rw [Function.update_apply]
    split
    case isTrue same =>
      refine iff_of_false (fun found => by cases found) ?_
      rintro ⟨owned, apart⟩
      exact apart (own held same other (same ▸ owned))
    case isFalse apart =>
      refine ⟨fun owned => ⟨owned, ?_⟩, And.left⟩
      rintro rfl
      exact apart (mine owned).2
  case isFalse idle =>
    refine ⟨fun owned => ⟨owned, ?_⟩, And.left⟩
    rintro rfl
    exact idle (mine owned).1

end Owners

/-! ## Runs -/

/-- The calls that create sessions, move channels and remove sessions. -/
def LinkCall : Op → Prop
  | .createByTMSI _ | .createByIMSI _ | .assignChannel .. | .releaseChannel _ | .remove _
  | .clear => True
  | _ => False

instance : DecidablePred LinkCall := fun op => by
  cases op <;> first | exact .isTrue trivial | exact .isFalse id

/-- The link of the channel a session holds leads to that session or nowhere. -/
def HoldsLink (hash : UInt32 → UInt64) (reg : SubscriberRegistry) (ref : SessionRef)
    (session : SubscriberSession) : Prop :=
  ∀ found ∈ findByLink hash reg session.context.trxNumber session.context.timeslot
    session.lapdmLink, ∀ holder ∈ found, holder = ref

instance (hash : UInt32 → UInt64) (reg : SubscriberRegistry) (ref : SessionRef)
    (session : SubscriberSession) : Decidable (HoldsLink hash reg ref session) :=
  inferInstanceAs (Decidable (∀ found ∈ _, ∀ holder ∈ found, _))

/-- A session gives up its channel only while the link of the channel has not
gone to another session; assigning the same link again is not giving it up. -/
def KeepsLinks (hash : UInt32 → UInt64) (reg : SubscriberRegistry) : Op → Prop
  | .assignChannel ref desc lapdmLink => ∀ session ∈ reg.sessionAt ref,
      session.channel.isSome →
        session.linkKey ≠ encodeLinkKey desc.trxNumber desc.timeslot lapdmLink →
          HoldsLink hash reg ref session
  | .releaseChannel ref | .remove ref => ∀ session ∈ reg.sessionAt ref,
      session.channel.isSome → HoldsLink hash reg ref session
  | _ => True

instance (hash : UInt32 → UInt64) (reg : SubscriberRegistry) (op : Op) :
    Decidable (KeepsLinks hash reg op) :=
  match op with
  | .assignChannel .. => inferInstanceAs (Decidable (∀ session ∈ _, _ → _ → _))
  | .releaseChannel _ | .remove _ => inferInstanceAs (Decidable (∀ session ∈ _, _ → _))
  | .createByTMSI _ | .createByIMSI _ | .clear | .reserve _ | .startTimer .. | .stopTimer ..
  | .stopAllTimers _ | .feed .. | .feedExternalTyped .. | .cancelAll _ | .tickAllTimers ..
  | .tickAllProcedures .. => .isTrue trivial

/-- The link index leads every key to its owner. -/
structure Linked (hash : UInt32 → UInt64) (latest : UInt32 → Option SessionRef)
    (reg : SubscriberRegistry) : Prop where
  recycled : reg.byTMSI.Recycled
  leads : ∃ owner, Leads hash reg.byLink owner ∧
    ∀ key ref, owner key = some ref ↔ Owns latest reg key ref
  context : ∀ ref session, reg.sessionAt ref = some session → ∀ desc,
    session.channel = some desc → session.context.trxNumber = desc.trxNumber ∧
      session.context.timeslot = desc.timeslot

theorem linked_empty : Linked hash (fun _ => none) {} where
  recycled := FlatMap.recycled_empty
  leads := by
    refine ⟨_, leads_empty, fun key ref => iff_of_false (fun owned => by cases owned) ?_⟩
    rintro ⟨-, -, -, -, last⟩
    cases last
  context := fun ref session live => by cases live

namespace Linked

variable {latest : UInt32 → Option SessionRef} {reg target : SubscriberRegistry}
  {ref : SessionRef}

/-- What `findByLink` returns. -/
theorem findByLink_iff (linked : Linked hash latest reg) {trx ts lapdmLink : UInt8} :
    findByLink hash reg trx ts lapdmLink = some (some ref) ↔
      Owns latest reg (encodeLinkKey trx ts lapdmLink) ref := by
  obtain ⟨owner, leads, owners⟩ := linked.leads
  rw [← owners, ← leads.find_some]
  rfl

/-- The condition on a step, in terms of owners. -/
theorem holder_eq (linked : Linked hash latest reg) {owner : UInt32 → Option SessionRef}
    (owners : ∀ key ref, owner key = some ref ↔ Owns latest reg key ref)
    {session : SubscriberSession} (holds : HoldsLink hash reg ref session) {holder : SessionRef}
    (owned : owner session.linkKey = some holder) : holder = ref :=
  holds _ (linked.findByLink_iff.mpr ((owners ..).mp owned)) holder rfl

theorem context_congr (linked : Linked hash latest reg)
    (sessions : ∀ other, target.sessionAt other = reg.sessionAt other) (other : SessionRef)
    (session : SubscriberSession) (live : target.sessionAt other = some session)
    (desc : ChannelDescriptor) (held : session.channel = some desc) :
    session.context.trxNumber = desc.trxNumber ∧ session.context.timeslot = desc.timeslot :=
  linked.context other session (sessions other ▸ live) desc held

theorem context_stored (linked : Linked hash latest reg)
    {stored_session : Option SubscriberSession} (stored : Stored reg target ref stored_session)
    (own : ∀ session ∈ stored_session, ∀ desc, session.channel = some desc →
      session.context.trxNumber = desc.trxNumber ∧ session.context.timeslot = desc.timeslot)
    (other : SessionRef) (session : SubscriberSession)
    (live : target.sessionAt other = some session) (desc : ChannelDescriptor)
    (held : session.channel = some desc) :
    session.context.trxNumber = desc.trxNumber ∧ session.context.timeslot = desc.timeslot := by
  by_cases same : other = ref
  · rw [same, stored.self] at live
    exact own session live desc held
  · rw [stored.of_ne same] at live
    exact linked.context other session live desc held

/-- A creation adds a session without a channel. -/
theorem entered (linked : Linked hash latest reg) {identity : L3MobileIdentity}
    {created : Option SessionRef} (byLink : target.byLink = reg.byLink)
    (entered : Entered reg target identity created) : Linked hash latest target := by
  obtain ⟨owner, leads, owners⟩ := linked.leads
  rw [← byLink] at leads
  cases entered with
  | refused recycled sessions =>
      refine ⟨recycled, ⟨owner, leads, fun key other => ?_⟩, linked.context_congr sessions⟩
      rw [owns_congr sessions, owners]
  | @created ref tmsi unused stored =>
      have idle : ∀ s ∈ some (SubscriberSession.created identity tmsi), s.channel = none := by
        rintro _ ⟨⟩
        rfl
      refine ⟨stored.recycled, ⟨owner, leads, fun key other => ?_⟩,
        linked.context_stored stored fun s member desc held => ?_⟩
      · rw [owns_vacated stored idle, ← owners]
        refine ⟨fun owned => ⟨owned, ?_⟩, And.left⟩
        rintro rfl
        obtain ⟨s, live, -⟩ := (owners ..).mp owned
        rw [unused] at live
        cases live
      · rw [idle s member] at held
        cases held

/-- A session that gives up its channel, with its link. -/
theorem vacated (linked : Linked hash latest reg) {session : SubscriberSession}
    {stored_session : Option SubscriberSession} (live : reg.sessionAt ref = some session)
    (holds : session.channel.isSome → HoldsLink hash reg ref session)
    {byLink : FlatMap UInt32 SessionRef}
    (unlinked : unlinkHeld hash reg session = some { reg with byLink := byLink })
    (same : target.byLink = byLink) (stored : Stored reg target ref stored_session)
    (idle : ∀ s ∈ stored_session, s.channel = none) : Linked hash latest target := by
  obtain ⟨owner, leads, owners⟩ := linked.leads
  refine ⟨stored.recycled, ⟨_, same ▸ leads.unlinkHeld unlinked, fun key other => ?_⟩,
    linked.context_stored stored fun s member desc held => ?_⟩
  · rw [owner_unlinkHeld owners live fun held _ holder => linked.holder_eq owners (holds held),
      owns_vacated stored idle, owners]
  · rw [idle s member] at held
    cases held

theorem assignChannel (linked : Linked hash latest reg) {desc : ChannelDescriptor}
    {lapdmLink : UInt8} (keeps : KeepsLinks hash reg (.assignChannel ref desc lapdmLink))
    (run : SubscriberRegistry.assignChannel hash reg ref desc lapdmLink = some target) :
    Linked hash (Function.update latest
      (encodeLinkKey desc.trxNumber desc.timeslot lapdmLink) (some ref)) target := by
  obtain ⟨owner, leads, owners⟩ := linked.leads
  obtain ⟨session, byLink, live, unlinked, linked_run⟩ := assignChannel_cases run
  obtain ⟨-, session', live', stored⟩ := assignChannel_stored linked.recycled run
  obtain rfl := Option.some.inj (live.symm.trans live')
  have erased := leads.unlinkHeld unlinked
  have released : Leads hash ({ reg.modifySession ref (·.occupy desc lapdmLink) with
      byLink := byLink } : SubscriberRegistry).byLink _ := erased
  refine ⟨stored.recycled, ⟨_, released.link (encodeLinkKey_lt ..) linked_run,
    fun key other => ?_⟩, linked.context_stored stored ?_⟩
  · rw [owns_occupied stored, Function.update_apply]
    split
    case isTrue => exact ⟨fun led => (Option.some.inj led).symm, congrArg some ∘ Eq.symm⟩
    case isFalse apart =>
      rw [owner_unlinkHeld owners live, owners]
      rintro held rfl holder
      exact linked.holder_eq owners (keeps session live held apart)
  · rintro _ ⟨⟩ _ ⟨⟩
    exact ⟨rfl, rfl⟩

theorem clear (linked : Linked hash latest reg) : Linked hash latest reg.clear := by
  obtain ⟨recycled, dead⟩ := FlatMap.Recycled.clear reg.byTMSI
  obtain ⟨owner, leads, -⟩ := linked.leads
  refine ⟨recycled, ⟨_, leads.clear, fun key ref => iff_of_false (fun owned => by cases owned) ?_⟩,
    fun ref session live => ?_⟩
  · rintro ⟨session, live, -⟩
    cases (dead ref).symm.trans live
  · cases (dead ref).symm.trans live

/-- Every call that meets the condition keeps the index right. -/
theorem exec (linked : Linked hash latest reg) {op : Op} {reply : Reply} (call : LinkCall op)
    (keeps : KeepsLinks hash reg op)
    (run : SubscriberRegistry.exec hash reg op = some (target, reply)) :
    Linked hash (recordAssignment latest (op, reply)) target := by
  cases op with
  | createByTMSI tmsi =>
      obtain ⟨⟨created, result⟩, create_run, pair⟩ := Option.map_eq_some_iff.mp run
      obtain ⟨rfl, -⟩ := Prod.mk.inj pair
      obtain ⟨-, byLink, -, entered⟩ := createByTMSI_entered linked.recycled create_run
      exact linked.entered byLink entered
  | createByIMSI imsi =>
      obtain ⟨⟨created, result⟩, create_run, pair⟩ := Option.map_eq_some_iff.mp run
      obtain ⟨rfl, -⟩ := Prod.mk.inj pair
      obtain ⟨-, byLink, entered⟩ := createByIMSI_entered linked.recycled create_run
      exact linked.entered byLink entered
  | assignChannel ref desc lapdmLink =>
      obtain ⟨assigned, assign_run, pair⟩ := Option.map_eq_some_iff.mp run
      obtain ⟨rfl, -⟩ := Prod.mk.inj pair
      exact linked.assignChannel keeps assign_run
  | releaseChannel ref =>
      obtain ⟨released, release_run, pair⟩ := Option.map_eq_some_iff.mp run
      obtain ⟨rfl, -⟩ := Prod.mk.inj pair
      obtain ⟨session, byLink, live, unlinked, same⟩ := releaseChannel_cases release_run
      obtain ⟨-, session', -, stored⟩ := releaseChannel_stored linked.recycled release_run
      refine linked.vacated live (keeps session live) unlinked (by rw [same]) stored ?_
      rintro _ ⟨⟩
      rfl
  | remove ref =>
      obtain ⟨⟨removed, flag⟩, remove_run, pair⟩ := Option.map_eq_some_iff.mp run
      obtain ⟨rfl, -⟩ := Prod.mk.inj pair
      rcases remove_stored linked.recycled remove_run with ⟨rfl, -⟩ | ⟨removed, stored, -⟩
      · exact linked
      · obtain ⟨session, live, kept | ⟨released, byTMSI, _, -, release_run, -, same, -⟩⟩ :=
          remove_cases remove_run
        · obtain ⟨-, -, -, -, refused⟩ := kept
          rw [removed] at refused
          cases refused
        · obtain ⟨session', byLink, live', unlinked, rfl⟩ := releaseChannel_cases release_run
          obtain rfl := Option.some.inj (live.symm.trans live')
          refine linked.vacated live (keeps session live) unlinked ?_ stored ?_
          · rw [same]
            exact detached_byLink _ session ref
          · rintro _ ⟨⟩
  | clear =>
      obtain ⟨rfl, -⟩ := Prod.mk.inj (Option.some.inj run)
      exact linked.clear
  | reserve | startTimer | stopTimer | stopAllTimers | feed | feedExternalTyped | cancelAll
  | tickAllTimers | tickAllProcedures => exact call.elim

end Linked

/-- A step of a run that keeps the links. -/
def LinkStep (hash : UInt32 → UInt64) (source : SubscriberRegistry) (event : Op × Reply)
    (_ : SubscriberRegistry) : Prop :=
  LinkCall event.1 ∧ KeepsLinks hash source event.1

instance (source : SubscriberRegistry) (event : Op × Reply) (target : SubscriberRegistry) :
    Decidable (LinkStep hash source event target) :=
  inferInstanceAs (Decidable (_ ∧ _))

theorem linked_of_run {events : List (Op × Reply)} {reg : SubscriberRegistry}
    (run : (machine hash).Run (LinkStep hash) {} events reg) :
    Linked hash (latestAssignee events) reg := by
  refine run.invariant (fun past state => Linked hash (latestAssignee past) state)
    linked_empty ?_
  intro past source target event linked stepped ⟨call, keeps⟩
  rw [latestAssignee_snoc]
  exact linked.exec call keeps (step_eq_some.mp stepped)

/-- As long as no session gives up a channel whose link has gone to another
session, `findByLink` returns the live session whose channel has the key, when
the key was assigned to it last, and no other session. -/
theorem findByLink_owner {events : List (Op × Reply)} {reg : SubscriberRegistry}
    (run : (machine hash).Run (LinkStep hash) {} events reg) (trx ts lapdmLink : UInt8)
    (ref : SessionRef) :
    findByLink hash reg trx ts lapdmLink = some (some ref) ↔
      ∃ session desc, reg.sessionAt ref = some session ∧ session.channel = some desc ∧
        encodeLinkKey desc.trxNumber desc.timeslot session.lapdmLink =
          encodeLinkKey trx ts lapdmLink ∧
        latestAssignee events (encodeLinkKey trx ts lapdmLink) = some ref := by
  have linked := linked_of_run run
  rw [linked.findByLink_iff]
  constructor
  · rintro ⟨session, live, held, keyed, last⟩
    obtain ⟨desc, channel⟩ := Option.isSome_iff_exists.mp held
    obtain ⟨trx_eq, ts_eq⟩ := linked.context ref session live desc channel
    refine ⟨session, desc, live, channel, ?_, last⟩
    rw [← keyed, SubscriberSession.linkKey, trx_eq, ts_eq]
  · rintro ⟨session, desc, live, channel, keyed, last⟩
    obtain ⟨trx_eq, ts_eq⟩ := linked.context ref session live desc channel
    refine ⟨session, live, by rw [channel]; rfl, ?_, last⟩
    rw [SubscriberSession.linkKey, trx_eq, ts_eq, keyed]

/-- A link that one session releases before another takes it. -/
private def relinked : List (Op × Reply) :=
  [(.createByTMSI 1, .created (some (0, 1))), (.createByTMSI 2, .created (some (1, 2))),
    (.assignChannel 0 { timeslot := 1 } 2, .done), (.releaseChannel 0, .done),
    (.assignChannel 1 { timeslot := 1 } 2, .done)]

theorem findByLink_owner_relinked :
    ∃ reg, (machine UInt32.toUInt64).exec (LinkStep UInt32.toUInt64) {} relinked = some reg ∧
      findByLink UInt32.toUInt64 reg 0 1 2 = some (some 1) := by
  obtain ⟨reg, executed⟩ := Option.isSome_iff_exists.mp (show
    ((machine UInt32.toUInt64).exec (LinkStep UInt32.toUInt64) {} relinked).isSome by
      decide)
  have holder : ∀ reg ∈ (machine UInt32.toUInt64).exec (LinkStep UInt32.toUInt64) {} relinked,
      ∃ session ∈ reg.sessionAt 1,
        session.channel = some { timeslot := 1 } ∧ session.lapdmLink = 2 := by
    decide
  obtain ⟨session, live, held, link_eq⟩ := holder reg executed
  exact ⟨reg, executed, (findByLink_owner (.exec _ .origin executed) 0 1 2 1).mpr
    ⟨session, _, live, held, by rw [link_eq], by decide⟩⟩

/-- A session takes the link of another, which then releases its channel. -/
private def taken : List (Op × Reply) :=
  [(.createByTMSI 1, .created (some (0, 1))), (.createByTMSI 2, .created (some (1, 2))),
    (.assignChannel 0 { timeslot := 1 } 2, .done),
    (.assignChannel 1 { timeslot := 1 } 2, .done), (.releaseChannel 0, .done)]

/-- The old holder of a link releases its channel: the link of the new holder
is gone. -/
theorem release_erases_taken_link :
    ∃ (events : List (Op × Reply)) (reg : SubscriberRegistry) (session : SubscriberSession)
      (desc : ChannelDescriptor),
      (machine UInt32.toUInt64).Run (fun _ event _ => LinkCall event.1) {} events reg ∧
        reg.sessionAt 1 = some session ∧ session.channel = some desc ∧
        encodeLinkKey desc.trxNumber desc.timeslot session.lapdmLink = encodeLinkKey 0 1 2 ∧
        latestAssignee events (encodeLinkKey 0 1 2) = some 1 ∧
        findByLink UInt32.toUInt64 reg 0 1 2 = some none := by
  obtain ⟨reg, executed⟩ := Option.isSome_iff_exists.mp (show
    ((machine UInt32.toUInt64).exec (fun _ event _ => LinkCall event.1) {} taken).isSome by
      decide)
  have lost : ∀ reg ∈ (machine UInt32.toUInt64).exec (fun _ event _ => LinkCall event.1) {} taken,
      (∃ session ∈ reg.sessionAt 1,
        session.channel = some { timeslot := 1 } ∧ session.lapdmLink = 2) ∧
      findByLink UInt32.toUInt64 reg 0 1 2 = some none := by
    decide
  obtain ⟨⟨session, live, held, link_eq⟩, missed⟩ := lost reg executed
  exact ⟨taken, reg, session, _, .exec _ .origin executed, live, held, by rw [link_eq],
    by decide, missed⟩

end SubscriberRegistry

end Stack

end Gsml3
