import Mathlib

/-!
# Ladders

A ladder is climbed one rung at a time, each on an event of its own kind.  Below the checkpoint
some events throw back to the foot; other events leave the level.
-/

namespace Foundation

structure Ladder (Event : Type*) where
  rungs : List (Event → Bool)
  checkpoint : Nat
  falls : Event → Bool

namespace Ladder

variable {Event : Type*} {ladder : Ladder Event} {events : List Event} {event : Event}

def step (ladder : Ladder Event) (level : Nat) (event : Event) : Nat :=
  if ladder.rungs[level]?.any (· event) then level + 1
  else if level < ladder.checkpoint ∧ ladder.falls event then 0
  else level

/-- The level after the events. -/
def level (ladder : Ladder Event) (start : Nat) (events : List Event) : Nat :=
  events.foldl ladder.step start

/-- Events of these kinds occur in this order. -/
abbrev Occurs (kinds : List (Event → Bool)) (events : List Event) : Prop :=
  List.SublistForall₂ (fun kind event => kind event = true) kinds events

theorem Occurs.snoc_right {kinds : List (Event → Bool)} (occurs : Occurs kinds events)
    (event : Event) : Occurs kinds (events ++ [event]) := by
  obtain ⟨found, matched, inside⟩ := List.sublistForall₂_iff.mp occurs
  exact List.sublistForall₂_iff.mpr ⟨found, matched, inside.trans (List.sublist_append_left ..)⟩

theorem Occurs.snoc {kinds : List (Event → Bool)} {kind : Event → Bool}
    (occurs : Occurs kinds events) (matched : kind event = true) :
    Occurs (kinds ++ [kind]) (events ++ [event]) := by
  obtain ⟨found, all, inside⟩ := List.sublistForall₂_iff.mp occurs
  apply List.sublistForall₂_iff.mpr
  exact ⟨found ++ [event], List.rel_append all (.cons matched .nil), inside.append (.refl _)⟩

theorem Occurs.of_prefix {kinds more : List (Event → Bool)} (occurs : Occurs more events)
    (front : kinds <+: more) : Occurs kinds events := by
  obtain ⟨found, all, inside⟩ := List.sublistForall₂_iff.mp occurs
  apply List.sublistForall₂_iff.mpr
  refine ⟨found.take kinds.length, ?_, (List.take_sublist ..).trans inside⟩
  rw [List.prefix_iff_eq_take.mp front, List.length_take_of_le front.length_le]
  exact List.forall₂_take _ all

/-- No event climbs a rung and throws back. -/
def Exclusive (ladder : Ladder Event) : Prop :=
  ∀ rung ∈ ladder.rungs, ∀ event, rung event = true → ladder.falls event = false

/-- What a step does. -/
inductive Steps (ladder : Ladder Event) (level : Nat) (event : Event) : Nat → Prop where
  | climbs {rung : Event → Bool} : ladder.rungs[level]? = some rung → rung event = true →
      Steps ladder level event (level + 1)
  | falls : level < ladder.checkpoint → ladder.falls event = true → Steps ladder level event 0
  | stays : (level < ladder.checkpoint → ladder.falls event = false) →
      Steps ladder level event level

theorem step_steps (ladder : Ladder Event) (level : Nat) (event : Event) :
    Steps ladder level event (ladder.step level event) := by
  rw [step]
  split
  case isTrue climbs =>
    cases there : ladder.rungs[level]? with
    | none =>
        rw [there] at climbs
        cases climbs
    | some rung =>
        rw [there] at climbs
        exact .climbs there climbs
  case isFalse =>
    split
    case isTrue fall => exact .falls fall.1 fall.2
    case isFalse stay =>
      apply Steps.stays
      intro below
      exact Bool.eq_false_iff.mpr fun falls => stay ⟨below, falls⟩

/-- How a level was reached: the rungs below the checkpoint in a window without a fall, the
others behind it. -/
structure Reached (ladder : Ladder Event) (level : Nat) (before window after : List Event) :
    Prop where
  quiet : ∀ event ∈ window, ladder.falls event = false
  below : Occurs (ladder.rungs.take (min level ladder.checkpoint)) window
  above : Occurs ((ladder.rungs.take level).drop ladder.checkpoint) after
  provisional : level < ladder.checkpoint → after = []

theorem take_succ {level : Nat} {rung : Event → Bool} (there : ladder.rungs[level]? = some rung) :
    ladder.rungs.take (level + 1) = ladder.rungs.take level ++ [rung] := by
  rw [List.take_add_one, there]
  rfl

/-- By cases of the step: a climb below the checkpoint and a stay there prolong the window, those
above it what is behind the window, and a fall starts a new one. -/
theorem Reached.next (exclusive : ladder.Exclusive) {level next : Nat}
    {before window after : List Event} (reached : ladder.Reached level before window after)
    (steps : ladder.Steps level event next) :
    ∃ before' window' after',
      before ++ window ++ after ++ [event] = before' ++ window' ++ after' ∧
        ladder.Reached next before' window' after' := by
  have quiet : ladder.falls event = false →
      ∀ other ∈ window ++ [event], ladder.falls other = false := by
    intro silent other listed
    rcases List.mem_append.mp listed with inside | last
    · exact reached.quiet other inside
    · obtain rfl := List.mem_singleton.mp last
      exact silent
  cases steps with
  | falls below falls =>
      refine ⟨before ++ window ++ after ++ [event], [], [], by simp only [List.append_nil], ?_⟩
      refine ⟨nofun, ?_, ?_, fun _ => rfl⟩
      · rw [Nat.zero_min, List.take_zero]
        exact .nil
      · rw [List.take_zero, List.drop_nil]
        exact .nil
  | stays silent =>
      by_cases below : level < ladder.checkpoint
      · obtain rfl := reached.provisional below
        refine ⟨before, window ++ [event], [], by simp only [List.append_nil, List.append_assoc],
          quiet (silent below), reached.below.snoc_right event, reached.above, fun _ => rfl⟩
      · refine ⟨before, window, after ++ [event], by simp only [List.append_assoc], reached.quiet,
          reached.below, reached.above.snoc_right event, fun still => absurd still below⟩
  | climbs there matched =>
      rename_i rung
      have inside := (List.getElem?_eq_some_iff.mp there).1
      by_cases below : level < ladder.checkpoint
      · obtain rfl := reached.provisional below
        have silent := exclusive rung (List.mem_of_getElem? there) event matched
        refine ⟨before, window ++ [event], [], by simp only [List.append_nil, List.append_assoc],
          quiet silent, ?_, ?_, fun _ => rfl⟩
        · have earlier := reached.below
          rw [Nat.min_eq_left below.le] at earlier
          rw [Nat.min_eq_left below, take_succ there]
          exact earlier.snoc matched
        · rw [List.drop_eq_nil_of_le (by rw [List.length_take]; omega)]
          exact .nil
      · refine ⟨before, window, after ++ [event], by simp only [List.append_assoc], reached.quiet,
          ?_, ?_, fun still => absurd (Nat.lt_of_succ_lt still) below⟩
        · have earlier := reached.below
          rw [Nat.min_eq_right (not_lt.mp below)] at earlier
          rwa [Nat.min_eq_right ((not_lt.mp below).trans (Nat.le_succ _))]
        · rw [take_succ there, List.drop_append_of_le_length (by rw [List.length_take]; omega)]
          exact reached.above.snoc matched

theorem reached_level (exclusive : ladder.Exclusive) (events : List Event) :
    ∃ before window after, events = before ++ window ++ after ∧
      ladder.Reached (ladder.level 0 events) before window after := by
  induction events using List.reverseRecOn with
  | nil =>
      refine ⟨[], [], [], rfl, nofun, ?_, ?_, fun _ => rfl⟩
      · rw [level, List.foldl_nil, Nat.zero_min, List.take_zero]
        exact .nil
      · rw [level, List.foldl_nil, List.take_zero, List.drop_nil]
        exact .nil
  | append_singleton events event ih =>
      obtain ⟨before, window, after, parts, reached⟩ := ih
      obtain ⟨before', window', after', parts', next⟩ :=
        reached.next exclusive (ladder.step_steps _ event)
      refine ⟨before', window', after', by rw [parts, parts'], ?_⟩
      rw [level, List.foldl_append]
      exact next

/-- Where nothing throws back, no step descends. -/
theorem le_step {start : Nat}
    (safe : ladder.checkpoint ≤ start ∨ ladder.falls event = false) :
    start ≤ ladder.step start event := by
  have steps := ladder.step_steps start event
  generalize ladder.step start event = next at steps ⊢
  cases steps with
  | climbs => exact Nat.le_succ start
  | falls below falls =>
      rcases safe with above | silent
      · exact absurd below (not_lt.mpr above)
      · cases silent.symm.trans falls
  | stays => exact le_rfl

/-- By induction on the events: where nothing throws back, rungs whose kinds occur are climbed. -/
theorem le_level {start low high : Nat} (inside : high ≤ ladder.rungs.length)
    (safe : ladder.checkpoint ≤ start ∨ ∀ event ∈ events, ladder.falls event = false)
    (started : low ≤ start) (occurs : Occurs ((ladder.rungs.take high).drop low) events) :
    high ≤ ladder.level start events := by
  induction events generalizing start low with
  | nil =>
      obtain ⟨found, matched, sublist⟩ := List.sublistForall₂_iff.mp occurs
      obtain rfl := List.sublist_nil.mp sublist
      have none := matched.length_eq
      rw [List.length_drop, List.length_take, List.length_nil] at none
      change high ≤ start
      omega
  | cons event events ih =>
      have rises : start ≤ ladder.step start event :=
        le_step (safe.imp_right fun silent => silent event List.mem_cons_self)
      have safe : ladder.checkpoint ≤ ladder.step start event ∨
          ∀ event ∈ events, ladder.falls event = false :=
        safe.imp (·.trans rises) fun silent other listed =>
          silent other (List.mem_cons_of_mem _ listed)
      change high ≤ ladder.level (ladder.step start event) events
      generalize kinds_eq : (ladder.rungs.take high).drop low = kinds at occurs
      cases occurs with
      | nil =>
          apply ih safe (started.trans rises)
          rw [kinds_eq]
          exact .nil
      | cons_right occurs =>
          apply ih safe (started.trans rises)
          rw [kinds_eq]
          exact occurs
      | cons matched occurs =>
          rename_i rung rest
          have there : ladder.rungs[low]? = some rung := by
            have head := congrArg (fun kinds => kinds[0]?) kinds_eq
            simp only [List.getElem?_drop, Nat.add_zero, List.getElem?_cons_zero] at head
            rw [List.getElem?_take] at head
            split at head
            · exact head
            · cases head
          have climbs : low + 1 ≤ ladder.step start event := by
            rcases Nat.lt_or_eq_of_le started with below | rfl
            · exact Nat.lt_of_lt_of_le below rises
            · rw [step, there, if_pos (show (some rung).any (· event) = true from matched)]
          apply ih safe climbs
          rw [← List.drop_drop, kinds_eq]
          exact occurs

theorem step_le {start : Nat} (inside : start ≤ ladder.rungs.length) :
    ladder.step start event ≤ ladder.rungs.length := by
  have steps := ladder.step_steps start event
  generalize ladder.step start event = next at steps ⊢
  cases steps with
  | climbs there => exact (List.getElem?_eq_some_iff.mp there).1
  | falls => exact Nat.zero_le _
  | stays => exact inside

theorem level_snoc (start : Nat) (events : List Event) (event : Event) :
    ladder.level start (events ++ [event]) = ladder.step (ladder.level start events) event := by
  rw [level, List.foldl_append]
  rfl

theorem level_le (events : List Event) : ladder.level 0 events ≤ ladder.rungs.length := by
  induction events using List.reverseRecOn with
  | nil => exact Nat.zero_le _
  | append_singleton events event ih =>
      rw [level_snoc]
      exact step_le ih

/-- A level above the checkpoint is reached exactly where the kinds of the rungs below it occur in
a window without a fall, and those of the others behind the window. -/
theorem le_level_iff (exclusive : ladder.Exclusive) {high : Nat}
    (inside : high ≤ ladder.rungs.length) (above : ladder.checkpoint ≤ high) :
    high ≤ ladder.level 0 events ↔
      ∃ before window after, events = before ++ window ++ after ∧
        (∀ event ∈ window, ladder.falls event = false) ∧
        Occurs (ladder.rungs.take ladder.checkpoint) window ∧
        Occurs ((ladder.rungs.take high).drop ladder.checkpoint) after := by
  constructor
  · intro reaches
    obtain ⟨before, window, after, parts, reached⟩ := reached_level exclusive events
    refine ⟨before, window, after, parts, reached.quiet, ?_, ?_⟩
    · have below := reached.below
      rwa [Nat.min_eq_right (above.trans reaches)] at below
    · apply reached.above.of_prefix
      rw [List.drop_take, List.drop_take]
      exact List.take_prefix_take_left (Nat.sub_le_sub_right reaches _)
  · intro ⟨before, window, after, parts, silent, below, behind⟩
    have levels : ladder.level 0 events =
        ladder.level (ladder.level (ladder.level 0 before) window) after := by
      rw [parts, level, List.foldl_append, List.foldl_append]
      rfl
    rw [levels]
    have reached : ladder.checkpoint ≤ ladder.level (ladder.level 0 before) window :=
      le_level (above.trans inside) (.inr silent) (Nat.zero_le _) (by rwa [List.drop_zero])
    exact le_level inside (.inl reached) reached behind

end Ladder

end Foundation
