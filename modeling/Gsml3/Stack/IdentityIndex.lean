import Gsml3.Foundation.Directory
import Gsml3.Stack.TmsiAllocation

/-!
# Identity indexes

The sessions are found under the TMSI and the IMSI they were created with.  The IMSI index is keyed
by the string of the caller, and `remove` takes the key from the identity of the session, which
holds the first nineteen digits of that string.  A string with anything else in it leaves its entry
behind, and the entry of another subscriber may go instead: `removal_unbinds_other`.
-/

namespace Gsml3

namespace Stack

namespace SubscriberRegistry

open Foundation (Directory)

variable {hash : UInt32 → UInt64} {reg target : SubscriberRegistry} {ref : SessionRef}

/-! ## Subscribers -/

/-- An identity stores the IMSI as it is. -/
def Plain (imsi : Imsi) : Prop :=
  (L3MobileIdentity.ofIMSI imsi).digits = imsi

instance (imsi : Imsi) : Decidable (Plain imsi) :=
  inferInstanceAs (Decidable (_ = _))

/-- The sessions under the keys they were created with. -/
structure Subscribers where
  byTMSI : Directory UInt32 Unit := .empty
  byIMSI : Directory Imsi UInt32 := .empty

/-- What an answered call does to the subscribers. -/
def Subscribers.record (known : Subscribers) : Op × Reply → Subscribers
  | (.createByTMSI tmsi, .created (some (ref, _))) =>
      { known with byTMSI := known.byTMSI.insert tmsi ref () }
  | (.createByIMSI imsi, .created (some (ref, tmsi))) =>
      { byTMSI := known.byTMSI.insert tmsi ref ()
        byIMSI := known.byIMSI.insert imsi ref tmsi }
  | (.remove ref, .removed true) =>
      { byTMSI := known.byTMSI.removeAt ref
        byIMSI := known.byIMSI.removeAt ref }
  | _ => known

/-- The subscribers of a history: a session is bound to its keys until it is removed. -/
def subscribers (events : List (Op × Reply)) : Subscribers :=
  events.foldl Subscribers.record {}

theorem subscribers_snoc (past : List (Op × Reply)) (event : Op × Reply) :
    subscribers (past ++ [event]) = (subscribers past).record event := by
  rw [subscribers, List.foldl_append]
  rfl

/-! ## Entries -/

/-- The TMSI that an entry is found under. -/
def tmsiEntry (pair : UInt32 × SubscriberSession) : Option (UInt32 × Unit) :=
  some (pair.1, ())

/-- The IMSI that the removal of an entry takes from the index. -/
def imsiEntry (pair : UInt32 × SubscriberSession) : Option (Imsi × UInt32) :=
  if pair.2.context.identity.type = .imsi then some (pair.2.context.identity.digits, pair.1)
  else none

/-- The keys of the entries of a table. -/
def entriesBy {Key Value : Type} (entry : UInt32 × SubscriberSession → Option (Key × Value))
    (map : FlatMap UInt32 SubscriberSession) (ref : SessionRef) : Option (Key × Value) :=
  (map.pairAt ref).bind entry

section Entries

variable {Key Value : Type} {entry : UInt32 × SubscriberSession → Option (Key × Value)}
variable {map table : FlatMap UInt32 SubscriberSession}

theorem entriesBy_set {pair : Option (UInt32 × SubscriberSession)}
    (pairs : ∀ j, table.pairAt j = FlatMap.Sound.setPair map.pairAt ref pair j) :
    entriesBy entry table = Function.update (entriesBy entry map) ref (pair.bind entry) := by
  funext other
  rw [entriesBy, pairs, FlatMap.Sound.setPair, Function.update_apply]
  split
  · rfl
  · rfl

theorem entriesBy_vacant (fresh : map.pairAt ref = none) : entriesBy entry map ref = none := by
  rw [entriesBy, fresh]
  rfl

theorem tmsiEntry_iff {tmsi : UInt32} :
    entriesBy tmsiEntry map ref = some (tmsi, ()) ↔
      ∃ session, map.pairAt ref = some (tmsi, session) := by
  rw [entriesBy, Option.bind_eq_some_iff]
  constructor
  · rintro ⟨⟨key, session⟩, found, ⟨⟩⟩
    exact ⟨session, found⟩
  · intro ⟨session, found⟩
    exact ⟨_, found, rfl⟩

theorem imsiEntry_iff {imsi : Imsi} {tmsi : UInt32} :
    entriesBy imsiEntry map ref = some (imsi, tmsi) ↔
      ∃ session, map.pairAt ref = some (tmsi, session) ∧
        session.context.identity.type = .imsi ∧ session.context.identity.digits = imsi := by
  rw [entriesBy, Option.bind_eq_some_iff]
  constructor
  · rintro ⟨⟨key, session⟩, found, entered⟩
    rw [imsiEntry] at entered
    split at entered
    case isTrue named =>
      obtain ⟨rfl, rfl⟩ := Prod.mk.inj (Option.some.inj entered)
      exact ⟨session, found, named, rfl⟩
    case isFalse => cases entered
  · rintro ⟨session, found, named, rfl⟩
    exact ⟨_, found, if_pos named⟩

end Entries

/-- The indexes lead to the subscribers. -/
structure Subscribed (hash : UInt32 → UInt64) (reg : SubscriberRegistry) (known : Subscribers) :
    Prop where
  issued : Issued hash reg.byTMSI
  byTMSI : known.byTMSI.Lists (entriesBy tmsiEntry reg.byTMSI)
  byIMSI : known.byIMSI.Lists (entriesBy imsiEntry reg.byTMSI)
  index : ∀ imsi, reg.byIMSI.lookup imsi = known.byIMSI.value imsi

theorem subscribed_empty : Subscribed hash {} {} where
  issued := issued_empty
  byTMSI := Directory.lists_empty
  byIMSI := Directory.lists_empty
  index := fun _ => AList.lookup_empty _

/-! ## Creation -/

/-- The entry of a new session. -/
structure Entering (hash : UInt32 → UInt64) (reg target : SubscriberRegistry) (ref : SessionRef)
    (identity : L3MobileIdentity) (tmsi : UInt32) : Prop where
  issued : Issued hash target.byTMSI
  absent : FlatMap.Absent reg.byTMSI tmsi
  fresh : reg.byTMSI.pairAt ref = none
  pairs : ∀ j, target.byTMSI.pairAt j = FlatMap.Sound.setPair reg.byTMSI.pairAt ref
    (some (tmsi, .created identity tmsi)) j

/-- A new key of the table holds the new session. -/
theorem Entering.of_emplace (issued : Issued hash reg.byTMSI) {tmsi : UInt32}
    {identity : L3MobileIdentity} {table : FlatMap UInt32 SubscriberSession}
    (run : FlatMap.emplace hash reg.byTMSI tmsi {} = some (table, ref, true))
    (made : target.byTMSI = table.modifyAt ref fun s =>
      { s with context.identity := identity, assignedTmsi := tmsi })
    (narrow : table.slots.length ≤ 2 ^ 32) : Entering hash reg target ref identity tmsi := by
  obtain ⟨absent, emplaced⟩ := issued.inserted run narrow
  refine ⟨?_, absent, emplaced.fresh, fun j => ?_⟩
  · rw [made]
    exact issued.created identity run narrow
  · rw [made]
    exact Issued.created_pairs emplaced identity j

/-- The caller gets the new session with its TMSI. -/
theorem Entering.reply {tmsi : UInt32} {identity : L3MobileIdentity}
    (entering : Entering hash reg target ref identity tmsi) :
    replyCreated (target, some ref) = (target, .created (some (ref, tmsi))) := by
  have live : target.sessionAt ref = some (.created identity tmsi) := by
    rw [sessionAt, FlatMap.valueAt_eq, entering.pairs, FlatMap.Sound.setPair, if_pos rfl]
    rfl
  rw [replyCreated, Option.bind_some, live]
  rfl

theorem createByTMSI_entering (issued : Issued hash reg.byTMSI) {tmsi : UInt32}
    {created : Option SessionRef} (run : createByTMSI hash reg tmsi = some (target, created))
    (narrow : target.byTMSI.slots.length ≤ 2 ^ 32) :
    (created = none ∧ target.byTMSI = reg.byTMSI ∧ target.byIMSI = reg.byIMSI) ∨
      ∃ ref, created = some ref ∧ Entering hash reg target ref (.ofTMSI tmsi) tmsi ∧
        target.byIMSI = reg.byIMSI := by
  rw [createByTMSI] at run
  split at run
  case isTrue =>
    obtain ⟨rfl, rfl⟩ := Prod.mk.inj (Option.some.inj run)
    exact .inl ⟨rfl, rfl, rfl⟩
  case isFalse =>
    obtain ⟨⟨byTMSI, ref, inserted⟩, emplace_run, result⟩ := Option.map_eq_some_iff.mp run
    cases inserted with
    | true =>
        obtain ⟨rfl, rfl⟩ := Prod.mk.inj result
        exact .inr ⟨ref, rfl, .of_emplace issued emplace_run rfl narrow, rfl⟩
    | false =>
        obtain ⟨rfl, rfl⟩ := Prod.mk.inj result
        exact .inl ⟨rfl, issued.refused emplace_run narrow, rfl⟩

theorem createByIMSI_entering (issued : Issued hash reg.byTMSI) {imsi : Imsi}
    {created : Option SessionRef} (run : createByIMSI hash reg imsi = some (target, created))
    (narrow : target.byTMSI.slots.length ≤ 2 ^ 32) :
    (created = none ∧ target.byTMSI = reg.byTMSI ∧ target.byIMSI = reg.byIMSI) ∨
      ∃ ref tmsi, created = some ref ∧ Entering hash reg target ref (.ofIMSI imsi) tmsi ∧
        reg.byIMSI.lookup imsi = none ∧ target.byIMSI = reg.byIMSI.insert imsi tmsi := by
  rw [createByIMSI] at run
  split at run
  case isTrue =>
    obtain ⟨rfl, rfl⟩ := Prod.mk.inj (Option.some.inj run)
    exact .inl ⟨rfl, rfl, rfl⟩
  case isFalse missing =>
    obtain ⟨⟨free, next⟩, -, rest⟩ := Option.bind_eq_some_iff.mp run
    cases free with
    | none =>
        obtain ⟨rfl, rfl⟩ := Prod.mk.inj (Option.some.inj rest)
        exact .inl ⟨rfl, rfl, rfl⟩
    | some tmsi =>
        obtain ⟨⟨byTMSI, ref, inserted⟩, emplace_run, result⟩ := Option.map_eq_some_iff.mp rest
        cases inserted with
        | true =>
            obtain ⟨rfl, rfl⟩ := Prod.mk.inj result
            exact .inr ⟨ref, tmsi, rfl, .of_emplace issued emplace_run rfl narrow,
              Option.not_isSome_iff_eq_none.mp missing, rfl⟩
        | false =>
            obtain ⟨rfl, rfl⟩ := Prod.mk.inj result
            exact .inl ⟨rfl, issued.refused emplace_run narrow, rfl⟩

/-! ## Removal -/

/-- The IMSI index after the identity of a session was forgotten. -/
theorem lookup_forgetIdentity (reg : SubscriberRegistry) (session : SubscriberSession)
    (tmsi : UInt32) (imsi : Imsi) :
    (reg.forgetIdentity session).byIMSI.lookup imsi =
      if (imsiEntry (tmsi, session)).map Prod.fst = some imsi then none
      else reg.byIMSI.lookup imsi := by
  rw [forgetIdentity, imsiEntry]
  by_cases named : session.context.identity.type = .imsi
  · rw [if_pos named, if_pos named, Option.map_some]
    by_cases same : imsi = session.context.identity.digits
    · rw [if_pos (congrArg some same.symm), same]
      exact AList.lookup_erase ..
    · rw [if_neg fun found => same (Option.some.inj found).symm]
      exact AList.lookup_erase_ne same
  · rw [if_neg named, if_neg named, Option.map_none, if_neg (Option.some_ne_none _).symm]

/-- A removal takes one entry out of the table and forgets its identity. -/
theorem remove_pairs (issued : Issued hash reg.byTMSI)
    (run : remove hash reg ref = some (target, true)) :
    ∃ tmsi session, reg.byTMSI.pairAt ref = some (tmsi, session) ∧
      (∀ j, target.byTMSI.pairAt j = FlatMap.Sound.setPair reg.byTMSI.pairAt ref none j) ∧
      target.byIMSI = (reg.forgetIdentity session).byIMSI := by
  obtain ⟨session, live, outcome⟩ := remove_cases run
  rw [sessionAt, FlatMap.valueAt_eq] at live
  obtain ⟨⟨tmsi, held⟩, found, rfl⟩ := Option.map_eq_some_iff.mp live
  rcases outcome with ⟨-, -, -, -, ⟨⟩⟩ | ⟨released, byTMSI, flag, -, release_run, erase_run, rfl, -⟩
  obtain ⟨_, byLink, -, -, rfl⟩ := releaseChannel_cases release_run
  have vacated := issued.modifyAt ref fun s : SubscriberSession => (rfl : s.vacate.assignedTmsi = _)
  have pair : (reg.byTMSI.modifyAt ref (·.vacate)).pairAt ref = some (tmsi, held.vacate) := by
    rw [FlatMap.pairAt_modifyAt_eq, found, Option.map_some, if_pos rfl]
  obtain ⟨erased, call, -, pairs, -⟩ := vacated.toValid.erase_live pair
  obtain ⟨rfl, -⟩ := Prod.mk.inj (Option.some.inj (call.symm.trans erase_run))
  refine ⟨tmsi, held, found, fun j => ?_, ?_⟩
  · change erased.pairAt j = _
    rw [pairs, FlatMap.Sound.setPair, FlatMap.Sound.setPair]
    by_cases own : j = ref
    · rw [if_pos own, if_pos own]
    · rw [if_neg own, if_neg own, FlatMap.pairAt_modifyAt_eq]
      simp only [if_neg own]
      exact Option.map_id_apply
  · rw [forgetIdentity]
    change (forgetIdentity _ held).byIMSI = _
    rw [forgetIdentity]
    split
    · rfl
    · rfl

/-! ## Steps -/

/-- Creation and removal, with IMSIs that an identity stores as they are. -/
def IdentityCall : Op → Prop
  | .createByTMSI _ => True
  | .createByIMSI imsi => Plain imsi
  | .remove _ => True
  | _ => False

instance : DecidablePred IdentityCall
  | .createByTMSI _ | .remove _ => .isTrue trivial
  | .createByIMSI imsi => inferInstanceAs (Decidable (Plain imsi))
  | .reserve _ | .assignChannel .. | .releaseChannel _ | .startTimer .. | .stopTimer ..
  | .stopAllTimers _ | .feed .. | .feedExternalTyped .. | .cancelAll _ | .tickAllTimers ..
  | .tickAllProcedures .. | .clear => .isFalse id

/-- An identity call that keeps the TMSI table within the width of a slot index. -/
def IdentityStep (source : SubscriberRegistry) (event : Op × Reply)
    (target : SubscriberRegistry) : Prop :=
  IdentityCall event.1 ∧ NarrowStep source event target

instance (source : SubscriberRegistry) (event : Op × Reply) (target : SubscriberRegistry) :
    Decidable (IdentityStep source event target) :=
  inferInstanceAs (Decidable (_ ∧ _))

namespace Subscribed

variable {known : Subscribers}

theorem unbound (subscribed : Subscribed hash reg known) {tmsi : UInt32}
    (absent : FlatMap.Absent reg.byTMSI tmsi) : known.byTMSI tmsi = none := by
  refine Option.eq_none_iff_forall_ne_some.mpr fun (ref, _) bound => ?_
  obtain ⟨session, found⟩ := tmsiEntry_iff.mp ((subscribed.byTMSI tmsi ref ()).mp bound)
  exact absent ref session found

section Creation

variable {tmsi : UInt32} {identity : L3MobileIdentity}

theorem insert_byTMSI (subscribed : Subscribed hash reg known)
    (entering : Entering hash reg target ref identity tmsi) :
    (known.byTMSI.insert tmsi ref ()).Lists (entriesBy tmsiEntry target.byTMSI) := by
  rw [entriesBy_set entering.pairs]
  exact subscribed.byTMSI.insert (entriesBy_vacant entering.fresh)
    (subscribed.unbound entering.absent) ()

/-- A session that was created under a TMSI. -/
theorem createByTMSI (subscribed : Subscribed hash reg known)
    (entering : Entering hash reg target ref (.ofTMSI tmsi) tmsi)
    (index : target.byIMSI = reg.byIMSI) :
    Subscribed hash target { known with byTMSI := known.byTMSI.insert tmsi ref () } where
  issued := entering.issued
  byTMSI := subscribed.insert_byTMSI entering
  byIMSI := by
    have vacant : entriesBy imsiEntry reg.byTMSI ref = none := entriesBy_vacant entering.fresh
    rw [entriesBy_set entering.pairs]
    change known.byIMSI.Lists (Function.update _ ref none)
    rw [← vacant, Function.update_eq_self]
    exact subscribed.byIMSI
  index := by
    rw [index]
    exact subscribed.index

/-- A session that was created under an IMSI. -/
theorem createByIMSI (subscribed : Subscribed hash reg known) {imsi : Imsi} (plain : Plain imsi)
    (entering : Entering hash reg target ref (.ofIMSI imsi) tmsi)
    (missing : reg.byIMSI.lookup imsi = none)
    (index : target.byIMSI = reg.byIMSI.insert imsi tmsi) :
    Subscribed hash target { byTMSI := known.byTMSI.insert tmsi ref (),
                             byIMSI := known.byIMSI.insert imsi ref tmsi } where
  issued := entering.issued
  byTMSI := subscribed.insert_byTMSI entering
  byIMSI := by
    have unbound : known.byIMSI imsi = none :=
      Directory.value_eq_none.mp ((subscribed.index imsi).symm.trans missing)
    have entered : imsiEntry (tmsi, .created (.ofIMSI imsi) tmsi) = some (imsi, tmsi) :=
      congrArg (fun digits => some (digits, tmsi)) plain
    rw [entriesBy_set entering.pairs, Option.bind_some, entered]
    exact subscribed.byIMSI.insert (entriesBy_vacant entering.fresh) unbound tmsi
  index := by
    intro other
    rw [index, Directory.value_insert, Function.update_apply]
    split
    case isTrue same =>
      rw [same]
      exact AList.lookup_insert _
    case isFalse apart =>
      rw [AList.lookup_insert_ne apart]
      exact subscribed.index other

end Creation

/-- The keys of a removed session are free. -/
theorem remove (subscribed : Subscribed hash reg known)
    (run : SubscriberRegistry.remove hash reg ref = some (target, true))
    (issued : Issued hash target.byTMSI) :
    Subscribed hash target { byTMSI := known.byTMSI.removeAt ref
                             byIMSI := known.byIMSI.removeAt ref } := by
  obtain ⟨tmsi, session, found, pairs, index⟩ := remove_pairs subscribed.issued run
  refine ⟨issued, ?_, ?_, fun imsi => ?_⟩
  · rw [entriesBy_set pairs]
    exact subscribed.byTMSI.removeAt ref
  · rw [entriesBy_set pairs]
    exact subscribed.byIMSI.removeAt ref
  · rw [index, lookup_forgetIdentity reg session tmsi, subscribed.index]
    have own : entriesBy imsiEntry reg.byTMSI ref = imsiEntry (tmsi, session) := by
      rw [entriesBy, found, Option.bind_some]
    cases entered : imsiEntry (tmsi, session) with
    | none =>
        rw [Directory.removeAt_unused (subscribed.byIMSI.unused (own.trans entered))]
        exact if_neg (Option.some_ne_none _).symm
    | some binding =>
        obtain ⟨key, value⟩ := binding
        have bound := (subscribed.byIMSI key ref value).mpr (own.trans entered)
        rw [Directory.value_removeAt subscribed.byIMSI.separated bound, Function.update_apply,
          Option.map_some]
        by_cases same : imsi = key
        · rw [if_pos same, if_pos (congrArg some same.symm)]
        · rw [if_neg same, if_neg fun found => same (Option.some.inj found).symm]

theorem congr (subscribed : Subscribed hash reg known) (byTMSI : target.byTMSI = reg.byTMSI)
    (byIMSI : target.byIMSI = reg.byIMSI) : Subscribed hash target known where
  issued := byTMSI ▸ subscribed.issued
  byTMSI := byTMSI ▸ subscribed.byTMSI
  byIMSI := byTMSI ▸ subscribed.byIMSI
  index := byIMSI ▸ subscribed.index

/-- A call on plain strings keeps the indexes. -/
theorem step (subscribed : Subscribed hash reg known) {event : Op × Reply}
    (stepped : (machine hash).step reg event = some target)
    (allowed : IdentityStep reg event target) : Subscribed hash target (known.record event) := by
  obtain ⟨op, reply⟩ := event
  obtain ⟨call, narrow⟩ := allowed
  have run : exec hash reg op = some (target, reply) := step_eq_some.mp stepped
  have issued := subscribed.issued.step (exec_table run) narrow
  cases op with
  | createByTMSI tmsi =>
      obtain ⟨⟨made, created⟩, create_run, pair⟩ := Option.map_eq_some_iff.mp run
      obtain rfl : made = target := (Prod.mk.inj pair).1
      rcases createByTMSI_entering subscribed.issued create_run narrow with
        ⟨rfl, byTMSI, byIMSI⟩ | ⟨ref, rfl, entering, index⟩
      · obtain ⟨-, rfl⟩ := Prod.mk.inj pair
        exact subscribed.congr byTMSI byIMSI
      · rw [entering.reply] at pair
        obtain ⟨-, rfl⟩ := Prod.mk.inj pair
        exact subscribed.createByTMSI entering index
  | createByIMSI imsi =>
      obtain ⟨⟨made, created⟩, create_run, pair⟩ := Option.map_eq_some_iff.mp run
      obtain rfl : made = target := (Prod.mk.inj pair).1
      rcases createByIMSI_entering subscribed.issued create_run narrow with
        ⟨rfl, byTMSI, byIMSI⟩ | ⟨ref, tmsi, rfl, entering, missing, index⟩
      · obtain ⟨-, rfl⟩ := Prod.mk.inj pair
        exact subscribed.congr byTMSI byIMSI
      · rw [entering.reply] at pair
        obtain ⟨-, rfl⟩ := Prod.mk.inj pair
        exact subscribed.createByIMSI call entering missing index
  | remove ref =>
      obtain ⟨⟨made, removed⟩, remove_run, pair⟩ := Option.map_eq_some_iff.mp run
      obtain ⟨rfl, rfl⟩ := Prod.mk.inj pair
      cases removed with
      | true => exact subscribed.remove remove_run issued
      | false =>
          obtain ⟨session, -, outcome⟩ := remove_cases remove_run
          rcases outcome with ⟨-, -, -, rfl, -⟩ | ⟨-, -, -, -, -, -, -, ⟨⟩⟩
          exact subscribed
  | _ => exact absurd call id

end Subscribed

/-! ## Runs -/

theorem subscribed_of_run {events : List (Op × Reply)}
    (run : (machine hash).Run IdentityStep {} events reg) :
    Subscribed hash reg (subscribers events) := by
  refine run.invariant (fun past state => Subscribed hash state (subscribers past))
    subscribed_empty ?_
  intro past source target event subscribed stepped allowed
  rw [subscribers_snoc]
  exact subscribed.step stepped allowed

/-- The lookups return the subscribers, and the other keys can be used. -/
structure LookedUp (hash : UInt32 → UInt64) (reg : SubscriberRegistry) (known : Subscribers) :
    Prop where
  tmsi : ∀ tmsi, findByTMSI hash reg tmsi = some ((known.byTMSI tmsi).map Prod.fst)
  imsi : ∀ imsi, findByIMSI hash reg imsi = some ((known.byIMSI imsi).map Prod.fst)
  tmsi_live : ∀ tmsi ref, known.byTMSI tmsi = some (ref, ()) →
    ∃ session, reg.sessionAt ref = some session ∧ session.assignedTmsi = tmsi
  imsi_live : ∀ imsi ref tmsi, known.byIMSI imsi = some (ref, tmsi) →
    ∃ session, reg.sessionAt ref = some session ∧ session.assignedTmsi = tmsi ∧
      session.context.identity.digits = imsi
  tmsi_free : ∀ tmsi ≠ 0, known.byTMSI tmsi = none →
    ∃ target ref, createByTMSI hash reg tmsi = some (target, some ref)
  imsi_free : ∀ imsi, known.byIMSI imsi = none → Allocates hash reg imsi

namespace Subscribed

variable {known : Subscribers}

theorem findByTMSI (subscribed : Subscribed hash reg known) (room : FlatMap.Open reg.byTMSI)
    (tmsi : UInt32) :
    findByTMSI hash reg tmsi = some ((known.byTMSI tmsi).map Prod.fst) := by
  have issued := subscribed.issued
  obtain ⟨found, run⟩ := Option.isSome_iff_exists.mp (issued.toValid.find_isSome room tmsi)
  refine run.trans (congrArg some ?_)
  rcases issued.toSound.find_cases run with ⟨rfl, absent⟩ | ⟨idx, session, rfl, present⟩
  · rw [subscribed.unbound absent]
    rfl
  · rw [(subscribed.byTMSI tmsi idx ()).mpr (tmsiEntry_iff.mpr ⟨session, present⟩)]
    rfl

theorem findByIMSI (subscribed : Subscribed hash reg known) (room : FlatMap.Open reg.byTMSI)
    (imsi : Imsi) :
    findByIMSI hash reg imsi = some ((known.byIMSI imsi).map Prod.fst) := by
  rw [SubscriberRegistry.findByIMSI, subscribed.index, Directory.value]
  cases bound : known.byIMSI imsi with
  | none => rfl
  | some binding =>
      obtain ⟨ref, tmsi⟩ := binding
      obtain ⟨session, found, -⟩ := imsiEntry_iff.mp ((subscribed.byIMSI imsi ref tmsi).mp bound)
      have own := (subscribed.byTMSI tmsi ref ()).mpr (tmsiEntry_iff.mpr ⟨session, found⟩)
      change SubscriberRegistry.findByTMSI hash reg tmsi = _
      rw [subscribed.findByTMSI room, own]
      rfl

end Subscribed

/-- In every run of creations and removals on plain strings, and in every open table, the lookups
return exactly the sessions that were created and not removed. -/
theorem lookups_exact {events : List (Op × Reply)}
    (run : (machine hash).Run IdentityStep {} events reg) (room : FlatMap.Open reg.byTMSI) :
    LookedUp hash reg (subscribers events) := by
  have subscribed := subscribed_of_run run
  obtain ⟨issued, narrow⟩ := issued_of_run (run.mono fun _ _ _ allowed => allowed.2)
  refine ⟨subscribed.findByTMSI room, subscribed.findByIMSI room, ?_, ?_, ?_, ?_⟩
  · intro tmsi ref bound
    obtain ⟨session, found⟩ := tmsiEntry_iff.mp ((subscribed.byTMSI tmsi ref ()).mp bound)
    refine ⟨session, ?_, issued.own ref tmsi session found⟩
    rw [sessionAt, FlatMap.valueAt_eq, found]
    rfl
  · intro imsi ref tmsi bound
    obtain ⟨session, found, -, digits⟩ :=
      imsiEntry_iff.mp ((subscribed.byIMSI imsi ref tmsi).mp bound)
    refine ⟨session, ?_, issued.own ref tmsi session found, digits⟩
    rw [sessionAt, FlatMap.valueAt_eq, found]
    rfl
  · intro tmsi nonzero unbound
    have absent : FlatMap.Absent reg.byTMSI tmsi := by
      intro ref session found
      have bound := (subscribed.byTMSI tmsi ref ()).mpr (tmsiEntry_iff.mpr ⟨session, found⟩)
      exact Option.some_ne_none _ (bound.symm.trans unbound)
    obtain ⟨byTMSI, ref, inserted, -⟩ := issued.toValid.emplace_open room absent {}
    rw [createByTMSI, if_neg nonzero, inserted]
    exact ⟨_, ref, rfl⟩
  · intro imsi unbound
    apply createByIMSI_open issued narrow room
    rw [subscribed.index]
    exact Directory.value_eq_none.mpr unbound

/-- A subscriber is removed and another stays. -/
private def subscribing : List (Op × Reply) :=
  [(.createByTMSI 7, .created (some (0, 7))), (.createByIMSI ['1', '2'], .created (some (1, 1))),
    (.remove 0, .removed true)]

theorem lookups_exact_subscribing :
    ∃ reg, (machine UInt32.toUInt64).exec IdentityStep {} subscribing = some reg ∧
      findByIMSI UInt32.toUInt64 reg ['1', '2'] = some (some 1) ∧
      findByTMSI UInt32.toUInt64 reg 7 = some none := by
  obtain ⟨reg, executed⟩ := Option.isSome_iff_exists.mp (show
    ((machine UInt32.toUInt64).exec IdentityStep {} subscribing).isSome by decide)
  have room : ∀ reg ∈ (machine UInt32.toUInt64).exec IdentityStep {} subscribing,
      FlatMap.Open reg.byTMSI := by
    decide
  have found := lookups_exact (.exec subscribing .origin executed) (room reg executed)
  exact ⟨reg, executed, found.imsi ['1', '2'], found.tmsi 7⟩

/-- Two strings with the same digits, and the removal of the first session. -/
private def confused : List (Op × Reply) :=
  [(.createByIMSI ['1', 'a'], .created (some (0, 1))), (.createByIMSI ['1'], .created (some (1, 2))),
    (.remove 0, .removed true)]

/-- The removal takes the entry of the other subscriber and leaves its own. -/
theorem removal_unbinds_other :
    ∃ (events : List (Op × Reply)) (reg : SubscriberRegistry),
      (machine UInt32.toUInt64).Run NarrowStep {} events reg ∧ FlatMap.Open reg.byTMSI ∧
        (subscribers events).byIMSI ['1'] = some (1, 2) ∧ (reg.sessionAt 1).isSome ∧
        findByIMSI UInt32.toUInt64 reg ['1'] = some none ∧
        (subscribers events).byIMSI ['1', 'a'] = none ∧
        createByIMSI UInt32.toUInt64 reg ['1', 'a'] = some (reg, none) := by
  obtain ⟨reg, executed⟩ := Option.isSome_iff_exists.mp (show
    ((machine UInt32.toUInt64).exec NarrowStep {} confused).isSome by decide)
  have state : ∀ reg ∈ (machine UInt32.toUInt64).exec NarrowStep {} confused,
      FlatMap.Open reg.byTMSI ∧ (reg.sessionAt 1).isSome ∧
        findByIMSI UInt32.toUInt64 reg ['1'] = some none ∧
        (reg.byIMSI.lookup ['1', 'a']).isSome := by
    decide
  obtain ⟨room, live, missed, stale⟩ := state reg executed
  exact ⟨confused, reg, .exec confused .origin executed, room, by decide, live, missed,
    by decide, if_pos stale⟩

end SubscriberRegistry

end Stack

end Gsml3
