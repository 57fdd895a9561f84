import Mathlib.Algebra.BigOperators.Group.Finset.Basic
import Mathlib.Algebra.Order.BigOperators.Group.Finset
import Mathlib.Data.Fintype.BigOperators
import Mathlib.Data.List.Nodup

/-!
Lists linked through their items: an item is on one list at most, and is taken off the
list it is on, whichever it is. A placing says for each item which list that is.
-/

namespace Floid.Lib

open Finset (add_sum_erase mem_univ sum_congr univ)
open Function (update)

abbrev Shelves (Shelf Item : Type) := Shelf → List Item

namespace Shelves

variable {Shelf Item : Type}

def take [DecidableEq Item] (item : Item) (shelves : Shelves Shelf Item) : Shelves Shelf Item :=
  fun shelf => (shelves shelf).erase item

def putFirst [DecidableEq Shelf] (item : Item) (shelf : Shelf) (shelves : Shelves Shelf Item) : Shelves Shelf Item :=
  update shelves shelf (item :: shelves shelf)

def putLast [DecidableEq Shelf] (item : Item) (shelf : Shelf) (shelves : Shelves Shelf Item) : Shelves Shelf Item :=
  update shelves shelf (shelves shelf ++ [item])

def move [DecidableEq Shelf] [DecidableEq Item] (item : Item) (shelf : Shelf)
    (shelves : Shelves Shelf Item) : Shelves Shelf Item :=
  (shelves.take item).putFirst item shelf

def total [Fintype Shelf] (shelves : Shelves Shelf Item) : Nat :=
  ∑ shelf, (shelves shelf).length

end Shelves

structure Placed {Shelf Item : Type} (place : Item → Option Shelf) (shelves : Shelves Shelf Item) : Prop where
  mem_iff : ∀ item shelf, item ∈ shelves shelf ↔ place item = some shelf
  nodup : ∀ shelf, (shelves shelf).Nodup

namespace Placed

variable {Shelf Item : Type} {place : Item → Option Shelf} {shelves : Shelves Shelf Item}

theorem empty : Placed (fun _ : Item => (none : Option Shelf)) fun _ => [] where
  mem_iff := by simp
  nodup := by simp

variable {item : Item} {shelf : Shelf}

theorem not_mem (placed : Placed place shelves) (off : place item = none)
    (shelf : Shelf) : item ∉ shelves shelf := by
  rw [placed.mem_iff, off]
  simp

variable [DecidableEq Item]

theorem exists_unique (placed : Placed place shelves) (at_ : place item = some shelf) :
    item ∈ shelves shelf ∧ (shelves shelf).count item = 1 ∧ ∀ other, item ∈ shelves other → other = shelf := by
  have member := (placed.mem_iff item shelf).mpr at_
  refine ⟨member, List.count_eq_one_of_mem (placed.nodup shelf) member, fun other inOther => ?_⟩
  have atOther := (placed.mem_iff item other).mp inOther
  exact Option.some.inj (atOther.symm.trans at_)

theorem take (placed : Placed place shelves) (item : Item) :
    Placed (update place item none) (shelves.take item) where
  mem_iff other shelf := by
    rw [Shelves.take, (placed.nodup shelf).mem_erase_iff, placed.mem_iff]
    by_cases same : other = item
    · simp [same]
    · simp [same]
  nodup shelf := (placed.nodup shelf).erase item

variable [DecidableEq Shelf]

theorem putFirst (placed : Placed place shelves) (free : place item = none) (shelf : Shelf) :
    Placed (update place item (some shelf)) (shelves.putFirst item shelf) where
  mem_iff other shelf' := by
    rw [Shelves.putFirst]
    by_cases same : shelf' = shelf
    · subst same
      by_cases own : other = item
      · simp [own]
      · simp [own, placed.mem_iff]
    · by_cases own : other = item
      · simp [own, same, placed.mem_iff, free, Ne.symm same]
      · simp [own, same, placed.mem_iff]
  nodup shelf' := by
    rw [Shelves.putFirst]
    by_cases same : shelf' = shelf
    · subst same
      have absent : item ∉ shelves shelf' := by
        rw [placed.mem_iff, free]
        simp
      simp [absent, placed.nodup shelf']
    · simpa [same] using placed.nodup shelf'

theorem putLast (placed : Placed place shelves) (free : place item = none) (shelf : Shelf) :
    Placed (update place item (some shelf)) (shelves.putLast item shelf) := by
  have first := placed.putFirst free shelf
  have same (shelf' : Shelf) : (shelves.putLast item shelf shelf').Perm
      (shelves.putFirst item shelf shelf') := by
    rw [Shelves.putLast, Shelves.putFirst]
    by_cases own : shelf' = shelf
    · subst own
      simp
    · simp [own]
  constructor
  · intro other shelf'
    rw [(same shelf').mem_iff]
    exact first.mem_iff other shelf'
  · intro shelf'
    rw [(same shelf').nodup_iff]
    exact first.nodup shelf'

theorem move (placed : Placed place shelves) (item : Item) (shelf : Shelf) :
    Placed (update place item (some shelf)) (shelves.move item shelf) := by
  have moved := (placed.take item).putFirst (Function.update_self item none place) shelf
  rwa [Function.update_idem] at moved

variable [Fintype Shelf]

theorem total_take (placed : Placed place shelves)
    (at_ : place item = some shelf) : (shelves.take item).total + 1 = shelves.total := by
  have own := List.length_erase_of_mem ((placed.mem_iff item shelf).mpr at_)
  have positive := List.length_pos_of_mem ((placed.mem_iff item shelf).mpr at_)
  have others (shelf' : Shelf) (different : shelf' ∈ univ.erase shelf) :
      (shelves.take item shelf').length = (shelves shelf').length := by
    rw [Shelves.take, List.erase_of_not_mem]
    rw [placed.mem_iff, at_]
    intro same
    exact Finset.ne_of_mem_erase different (Option.some.inj same).symm
  rw [Shelves.total, Shelves.total, ← add_sum_erase _ _ (mem_univ shelf),
    ← add_sum_erase _ _ (mem_univ shelf), sum_congr rfl others]
  change ((shelves shelf).erase item).length + _ + 1 = _
  omega

end Placed

theorem Shelves.total_putLast {Shelf Item : Type} [DecidableEq Shelf] [Fintype Shelf] (item : Item)
    (shelf : Shelf) (shelves : Shelves Shelf Item) :
    (shelves.putLast item shelf).total = shelves.total + 1 := by
  have others (shelf' : Shelf) (different : shelf' ∈ univ.erase shelf) :
      (shelves.putLast item shelf shelf').length = (shelves shelf').length := by
    rw [Shelves.putLast, Function.update_of_ne (Finset.ne_of_mem_erase different)]
  rw [Shelves.total, Shelves.total, ← add_sum_erase _ _ (mem_univ shelf),
    ← add_sum_erase _ _ (mem_univ shelf), sum_congr rfl others]
  rw [Shelves.putLast, Function.update_self, List.length_append, List.length_singleton]
  omega

/-! One of the lists, when certain items are moved and the others stay in their order. -/

section Requeued

variable {Item : Type} {items : Set Item} {before middle after : List Item} {first second : Item}

def Requeued (items : Set Item) (before after : List Item) : Prop :=
  ∃ front kept, after = front ++ kept ∧ (∀ item ∈ front, item ∈ items) ∧ kept.Sublist before ∧
    ∀ item ∈ before, item ∉ items → item ∈ kept

namespace Requeued

theorem refl (items : Set Item) (list : List Item) : Requeued items list list :=
  ⟨[], list, rfl, by simp, .refl list, fun _ member _ => member⟩

theorem trans (earlier : Requeued items before middle) (later : Requeued items middle after) :
    Requeued items before after := by
  obtain ⟨front, kept, rfl, moved, order, stays⟩ := earlier
  obtain ⟨front', kept', rfl, moved', order', stays'⟩ := later
  obtain ⟨again, rest, rfl, inFront, inKept⟩ := List.sublist_append_iff.mp order'
  refine ⟨front' ++ again, rest, by simp, ?_, inKept.trans order, ?_⟩
  · intro item member
    rcases List.mem_append.mp member with new | old
    · exact moved' item new
    · exact moved item (inFront.subset old)
  · intro item member other
    have still := stays' item (List.mem_append_right _ (stays item member other)) other
    rcases List.mem_append.mp still with old | rest
    · exact absurd (moved item (inFront.subset old)) other
    · exact rest

theorem erase [DecidableEq Item] (list : List Item) (moves : first ∈ items) :
    Requeued items list (list.erase first) := by
  refine ⟨[], list.erase first, rfl, by simp, List.erase_sublist, ?_⟩
  intro item member other
  have different : item ≠ first := fun same => other (same ▸ moves)
  exact (List.mem_erase_of_ne different).mpr member

theorem cons (list : List Item) (moves : first ∈ items) : Requeued items list (first :: list) :=
  ⟨[first], list, rfl, by simpa using moves, .refl list, fun _ member _ => member⟩

theorem mono {more : Set Item} (requeued : Requeued items before after) (subset : items ⊆ more) :
    Requeued more before after := by
  obtain ⟨front, kept, rfl, moved, order, stays⟩ := requeued
  exact ⟨front, kept, rfl, fun item member => subset (moved item member), order,
    fun item member other => stays item member fun own => other (subset own)⟩

theorem mem_iff (requeued : Requeued items before after) (stays : first ∉ items) :
    first ∈ after ↔ first ∈ before := by
  obtain ⟨front, kept, rfl, moved, order, kept_⟩ := requeued
  constructor
  · intro member
    rcases List.mem_append.mp member with new | old
    · exact absurd (moved first new) stays
    · exact order.subset old
  · exact fun member => List.mem_append_right _ (kept_ first member stays)

theorem precedes (requeued : Requeued items before after) (stays : first ∉ items)
    (order : [first, second].Sublist after) : [first, second].Sublist before := by
  obtain ⟨front, kept, rfl, moved, sub, _⟩ := requeued
  obtain ⟨new, old, split, inFront, inKept⟩ := List.sublist_append_iff.mp order
  cases new with
  | nil =>
    rw [List.nil_append] at split
    exact (split ▸ inKept).trans sub
  | cons head tail =>
    have same : first = head := (List.cons.inj split).1
    exact absurd (moved first (inFront.subset (same ▸ List.mem_cons_self))) stays

theorem suffix {front rest : List Item} (requeued : Requeued items (front ++ first :: rest) after)
    (nodup : (front ++ first :: rest).Nodup) (stays : first ∉ items) :
    ∃ front' rest', after = front' ++ first :: rest' ∧ rest'.Sublist rest := by
  obtain ⟨new, kept, rfl, moved, order, kept_⟩ := requeued
  have member := kept_ first (by simp) stays
  obtain ⟨left, right, rfl, inFront, inRest⟩ := List.sublist_append_iff.mp order
  have apart := List.nodup_append.mp nodup
  have notLeft : first ∉ left := fun inLeft =>
    apart.2.2 first (inFront.subset inLeft) first List.mem_cons_self rfl
  have inRight := (List.mem_append.mp member).resolve_left notLeft
  have notRest := (List.nodup_cons.mp apart.2.1).1
  cases inRest with
  | cons _ skipped => exact absurd (skipped.subset inRight) notRest
  | cons_cons _ later =>
    rename_i rest'
    exact ⟨new ++ left, rest', by simp, later⟩

end Requeued

end Requeued

end Floid.Lib
