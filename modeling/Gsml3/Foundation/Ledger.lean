import Mathlib

/-!
# Ledgers of a resource pool

The purpose of a pool of interchangeable resources: every resource is free or handed
out.  Equal resources are counted separately.
-/

namespace Foundation

/-- What is free in a pool and what is handed out. -/
@[ext] structure Ledger (Item : Type*) where
  free : Multiset Item := 0
  held : Multiset Item := 0

namespace Ledger

variable {Item : Type*} (ledger : Ledger Item) (item : Item)

/-- The number of resources of the pool. -/
def total : Nat :=
  ledger.free.card + ledger.held.card

/-- A new resource is free. -/
def add : Ledger Item :=
  { ledger with free := item ::ₘ ledger.free }

theorem total_add : (ledger.add item).total = ledger.total + 1 := by
  simp only [total, add, Multiset.card_cons]
  omega

variable [DecidableEq Item]

/-- A resource is taken out of the pool, a free one if there is one. -/
def remove : Ledger Item :=
  if item ∈ ledger.free then { ledger with free := ledger.free.erase item }
  else { ledger with held := ledger.held.erase item }

/-- A free resource is handed out. -/
def handOut : Ledger Item :=
  ⟨ledger.free.erase item, item ::ₘ ledger.held⟩

/-- A resource that was handed out comes back. -/
def giveBack : Ledger Item :=
  ⟨item ::ₘ ledger.free, ledger.held.erase item⟩

variable {ledger item}

theorem total_remove (known : item ∈ ledger.free ∨ item ∈ ledger.held) :
    (ledger.remove item).total + 1 = ledger.total := by
  by_cases free : item ∈ ledger.free
  · have card := Multiset.card_erase_add_one free
    rw [remove, if_pos free, total, total]
    simp only
    omega
  · have card := Multiset.card_erase_add_one (known.resolve_left free)
    rw [remove, if_neg free, total, total]
    simp only
    omega

theorem total_handOut (free : item ∈ ledger.free) : (ledger.handOut item).total = ledger.total := by
  have card := Multiset.card_erase_add_one free
  simp only [total, handOut, Multiset.card_cons]
  omega

theorem total_giveBack (held : item ∈ ledger.held) :
    (ledger.giveBack item).total = ledger.total := by
  have card := Multiset.card_erase_add_one held
  simp only [total, giveBack, Multiset.card_cons]
  omega

end Ledger

end Foundation
