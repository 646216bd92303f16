import Gsml3.Foundation.Machine
import Gsml3.Foundation.Walk

/-!
# Open-addressing flat map

The hash map behind the registry: a slot table probed linearly, whose slots
hold an entry index, a tombstone or nothing, and entries that never move.  Dead
entries are recycled through a free list.  Slot values and the slot index an
entry remembers are 32-bit, as in the source, and every index is cut to that
width where the source casts it.

Slabs are an allocation matter: entry `idx` of the source is element `idx` of
`entries`.  The probe loops of the source have no counter; here they visit at
most one full circle, and `none` means that the loop does not end.
-/

namespace Gsml3

namespace Stack

/-- Slot value of an empty slot. -/
def kEmpty : UInt32 := 0xFFFFFFFE

/-- Slot value of a tombstone. -/
def kTomb : UInt32 := 0xFFFFFFFF

/-- An entry is live exactly when it has a value. -/
structure Entry (Key Value : Type*) where
  key : Key
  value : Option Value
  slot : UInt32
deriving DecidableEq

/-- The hash map.  The head of `free` is the back of the source's vector. -/
structure FlatMap (Key Value : Type*) where
  entries : List (Entry Key Value) := []
  slots : List UInt32 := []
  free : List Nat := []
  size : Nat := 0
  tomb : Nat := 0
deriving DecidableEq

/-- Finalizer applied to the standard hash of a key. -/
def splitmix64 (h : UInt64) : UInt64 :=
  let h := (h ^^^ (h >>> 30)) * 0xbf58476d1ce4e5b9
  let h := (h ^^^ (h >>> 27)) * 0x94d049bb133111eb
  h ^^^ (h >>> 31)

namespace FlatMap

variable {Key Value : Type*}

section Hashed

/- The standard hash of the key type. -/
variable (hash : Key → UInt64)

/-- The hash of a key, mixed. -/
def hashKey (key : Key) : UInt64 :=
  splitmix64 (hash key)

/-- Slot a key is probed from first. -/
def home (key : Key) (mask : Nat) : Nat :=
  (hashKey hash key).toNat &&& mask

/-- The slot probed after slot `i`. -/
def probeNext (mask i : Nat) : Nat :=
  (i + 1) &&& mask

/-- The loop of `nextPow2`, started with capacity `cap`.  The shift is a 64-bit
one: a capacity that overflows is zero and the loop does not end. -/
def nextPow2From : Nat → Nat → Nat → Option Nat
  | 0, _, _ => none
  | fuel + 1, cap, v =>
      if cap < v then nextPow2From fuel (cap * 2 % 2 ^ 64) v else some cap

/-- The least power of two that is `v` or more, from 8 on. -/
def nextPow2 (v : Nat) : Option Nat :=
  nextPow2From 62 8 v

/-! ## Rehash -/

/-- The inner loop of `rehash`: find an empty slot from slot `i` on. -/
def firstEmpty (slots : List UInt32) (i : Nat) : Option Nat :=
  Foundation.walk (probeNext (slots.length - 1))
    (fun (_ : Unit) i => if slots.getD i kEmpty = kEmpty then .inl i else .inr ())
    slots.length () i

/-- Insert the live entries among `rest`, the first of which has index `idx`,
into a slot table. -/
def rehashEntries : List (Entry Key Value) → Nat → List UInt32 →
    Option (List (Entry Key Value) × List UInt32)
  | [], _, slots => some ([], slots)
  | entry :: rest, idx, slots =>
      if entry.value.isNone then
        (rehashEntries rest (idx + 1) slots).map fun (placed, slots) =>
          (entry :: placed, slots)
      else
        (firstEmpty slots (home hash entry.key (slots.length - 1))).bind fun i =>
          (rehashEntries rest (idx + 1) (slots.set i (UInt32.ofNat idx))).map
            fun (placed, slots) => ({ entry with slot := UInt32.ofNat i } :: placed, slots)

/-- A table of `newCap` slots with the live entries in it. -/
def rehash (map : FlatMap Key Value) (newCap : Nat) : Option (FlatMap Key Value) :=
  (rehashEntries hash map.entries 0 (List.replicate newCap kEmpty)).map
    fun (entries, slots) => { map with entries := entries, slots := slots, tomb := 0 }

/-- Grows the table for the expected entries; it never shrinks. -/
def reserve (map : FlatMap Key Value) (expectedEntries : Nat) :
    Option (FlatMap Key Value) :=
  let need := (expectedEntries + expectedEntries / 3 + 1) % 2 ^ 64
  (nextPow2 need).bind fun cap =>
    if map.slots.length < cap then rehash hash map cap else some map

/-! ## Find -/

/-- One step of the probe loop of `find`; `none` stands for `npos`. -/
def findVisit [DecidableEq Key] (map : FlatMap Key Value) (key : Key) (_ : Unit) (i : Nat) :
    Option Nat ⊕ Unit :=
  let s := map.slots.getD i kEmpty
  if s = kEmpty then .inl none
  else if s = kTomb then .inr ()
  else
    match map.entries[s.toNat]? with
    | some e => if e.value.isSome ∧ e.key = key then .inl (some s.toNat) else .inr ()
    | none => .inr ()

/-- The entry of a key; a table without slots is not probed. -/
def find [DecidableEq Key] (map : FlatMap Key Value) (key : Key) : Option (Option Nat) :=
  if map.slots = [] then some none
  else
    let mask := map.slots.length - 1
    Foundation.walk (probeNext mask) (map.findVisit key) map.slots.length ()
      (home hash key mask)

/-! ## Emplace -/

/-- Where the probe loop of `emplace` ends: at an entry that holds the key, or
with the slot to insert at, which may be a tombstone. -/
inductive Located where
  | existing (idx : Nat)
  | vacant (i : Nat) (tombstone : Bool)
deriving DecidableEq

/-- One step of the probe loop of `emplace`, remembering the first tombstone. -/
def emplaceVisit [DecidableEq Key] (map : FlatMap Key Value) (key : Key) (firstTomb : Option Nat) (i : Nat) :
    Located ⊕ Option Nat :=
  let s := map.slots.getD i kEmpty
  if s = kEmpty then
    .inl (match firstTomb with
      | some tombstone => .vacant tombstone true
      | none => .vacant i false)
  else if s = kTomb then .inr (some (firstTomb.getD i))
  else
    match map.entries[s.toNat]? with
    | some e => if e.key = key then .inl (.existing s.toNat) else .inr firstTomb
    | none => .inr firstTomb

/-- The slot where the key is, or where it can go. -/
def locate [DecidableEq Key] (map : FlatMap Key Value) (key : Key) : Option Located :=
  let mask := map.slots.length - 1
  Foundation.walk (probeNext mask) (map.emplaceVisit key) map.slots.length none
    (home hash key mask)

/-- Obtain an entry for a new key: the most recently freed one, or a fresh
one. -/
def acquireEntry (map : FlatMap Key Value) (key : Key) (value : Value) :
    FlatMap Key Value × Nat :=
  match map.free with
  | idx :: free =>
      ({ map with
          free := free
          entries := map.entries.modify idx fun e =>
            { e with key := key, value := some value } }, idx)
  | [] => ({ map with entries := map.entries ++ [⟨key, some value, kEmpty⟩] },
      map.entries.length)

/-- Insert a new key at slot `i`. -/
def insertAt (map : FlatMap Key Value) (key : Key) (value : Value) (i : Nat)
    (tombstone : Bool) : FlatMap Key Value × Nat :=
  let (acquired, idx) := map.acquireEntry key value
  ({ acquired with
      slots := acquired.slots.set i (UInt32.ofNat idx)
      entries := acquired.entries.modify idx fun e => { e with slot := UInt32.ofNat i }
      tomb := if tombstone then acquired.tomb - 1 else acquired.tomb
      size := acquired.size + 1 }, idx)

/-- The growth check after an insertion. -/
def grow (map : FlatMap Key Value) : Option (FlatMap Key Value) :=
  if map.slots.length * 7 < map.size * 10 then rehash hash map (map.slots.length * 2)
  else some map

/-- The first insertion creates the slot table. -/
def prepare (map : FlatMap Key Value) : Option (FlatMap Key Value) :=
  if map.slots = [] then rehash hash map 8 else some map

/-- Insert or locate; the flag tells whether the key was inserted. -/
def emplace [DecidableEq Key] (map : FlatMap Key Value) (key : Key) (value : Value) :
    Option (FlatMap Key Value × Nat × Bool) :=
  (prepare hash map).bind fun map =>
    (locate hash map key).bind fun
      | .existing idx => some (map, idx, false)
      | .vacant i tombstone =>
          let (inserted, idx) := map.insertAt key value i tombstone
          (grow hash inserted).map fun grown => (grown, idx, true)

/-! ## Erase, clear and access -/

/-- `erase` before the tombstone cleanup. -/
def removeEntry [Inhabited Key] (map : FlatMap Key Value) (idx : Nat)
    (e : Entry Key Value) : FlatMap Key Value :=
  { map with
    slots := map.slots.set e.slot.toNat kTomb
    tomb := map.tomb + 1
    entries := map.entries.set idx { e with key := default, value := none }
    free := idx :: map.free
    size := map.size - 1 }

/-- Erase by entry index; the flag tells whether an entry was removed. -/
def erase [Inhabited Key] (map : FlatMap Key Value) (idx : Nat) :
    Option (FlatMap Key Value × Bool) :=
  match map.entries[idx]? with
  | none => some (map, false)
  | some e =>
      if e.value.isNone then some (map, false)
      else
        let removed := map.removeEntry idx e
        if removed.slots.length < removed.tomb * 2 then
          (rehash hash removed removed.slots.length).map fun map => (map, true)
        else some (removed, true)

/-- The slots stay, all of them empty. -/
def clear (map : FlatMap Key Value) : FlatMap Key Value :=
  { slots := List.replicate map.slots.length kEmpty }

/-- Value of a live entry. -/
def valueAt (map : FlatMap Key Value) (idx : Nat) : Option Value :=
  map.entries[idx]?.bind Entry.value

/-- Change a value through the reference `at` returns. -/
def modifyAt (map : FlatMap Key Value) (idx : Nat) (change : Value → Value) :
    FlatMap Key Value :=
  { map with entries := map.entries.modify idx fun e => { e with value := e.value.map change } }

/-- Key and value of a live entry. -/
def pairAt (map : FlatMap Key Value) (idx : Nat) : Option (Key × Value) :=
  map.entries[idx]?.bind fun e => e.value.map fun value => (e.key, value)

/-! ## Runs -/

/-- A call on a map. -/
inductive Op (Key Value : Type*) where
  | emplace (key : Key) (value : Value)
  | erase (idx : Nat)
  | find (key : Key)
  | reserve (expectedEntries : Nat)
  | clear

/-- What a call returns. -/
inductive Reply where
  | emplaced (idx : Nat) (inserted : Bool)
  | erased (removed : Bool)
  | found (idx : Option Nat)
  | done
deriving DecidableEq

/-- One call; `none` when it does not return. -/
def exec [DecidableEq Key] [Inhabited Key] (map : FlatMap Key Value) : Op Key Value →
    Option (FlatMap Key Value × Reply)
  | .emplace key value =>
      (emplace hash map key value).map fun (map, idx, inserted) => (map, .emplaced idx inserted)
  | .erase idx => (erase hash map idx).map fun (map, removed) => (map, .erased removed)
  | .find key => (find hash map key).map fun found => (map, .found found)
  | .reserve expectedEntries =>
      (reserve hash map expectedEntries).map fun map => (map, .done)
  | .clear => some (map.clear, .done)

/-- The map as a machine whose events are calls with the replies they got. -/
def machine [DecidableEq Key] [Inhabited Key] :
    Foundation.Machine (FlatMap Key Value) (Op Key Value × Reply) where
  step := fun map event =>
    (exec hash map event.1).bind fun (target, reply) =>
      if reply = event.2 then some target else none

variable {hash}

theorem step_eq_some [DecidableEq Key] [Inhabited Key] {map target : FlatMap Key Value}
    {event : Op Key Value × Reply} :
    (machine hash).step map event = some target ↔
      exec hash map event.1 = some (target, event.2) := by
  constructor
  · intro stepped
    obtain ⟨⟨target', reply⟩, call, guarded⟩ := Option.bind_eq_some_iff.mp stepped
    change (if reply = event.2 then some target' else none) = some target at guarded
    by_cases same : reply = event.2
    · rw [if_pos same] at guarded
      rw [call, ← Option.some.inj guarded, ← same]
    · rw [if_neg same] at guarded
      cases guarded
  · intro call
    change (exec hash map event.1).bind _ = some target
    rw [call, Option.bind_some]
    exact if_pos rfl

end Hashed

end FlatMap

end Stack

end Gsml3
