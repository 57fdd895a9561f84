import Mathlib.Algebra.BigOperators.Group.Finset.Basic
import Mathlib.Data.Fintype.Basic
import Mathlib.Data.List.Perm.Basic
import Mathlib.Logic.Function.Basic

/-!
A pool of items with a counter of those that are free: who takes an item has it until it is
given back.
-/

namespace Floid.Lib

structure Pool (Item : Type*) where
  /-- The free items, the next one first. -/
  free : List Item
  count : Int

namespace Pool

variable {Item : Type*} {pool next : Pool Item} {item : Item} {all out : List Item}

def take (pool : Pool Item) : Option Item × Pool Item :=
  match pool.free with
  | [] => (none, pool)
  | item :: free => (some item, ⟨free, pool.count - 1⟩)

def give (pool : Pool Item) (item : Item) : Pool Item := ⟨pool.free ++ [item], pool.count + 1⟩

structure Conserved (pool : Pool Item) (all out : List Item) : Prop where
  items : (pool.free ++ out).Perm all
  count : pool.count = pool.free.length

theorem Conserved.take (conserved : pool.Conserved all out)
    (taken : pool.take = (some item, next)) : next.Conserved all (item :: out) := by
  unfold Pool.take at taken
  have items := conserved.items
  have count := conserved.count
  split at taken
  · cases taken
  · rename_i free queue
    rw [queue] at items count
    cases taken
    constructor
    · exact List.perm_middle.trans items
    · rw [count, List.length_cons]
      push_cast
      omega

theorem Conserved.give (conserved : pool.Conserved all (item :: out)) : (pool.give item).Conserved all out := by
  constructor
  · rw [Pool.give, List.append_assoc]
    exact conserved.items
  · rw [Pool.give, List.length_append, List.length_singleton]
    push_cast
    rw [conserved.count]

theorem Conserved.congr {others : List Item} (conserved : pool.Conserved all out)
    (same : out.Perm others) : pool.Conserved all others :=
  ⟨(same.symm.append_left pool.free).trans conserved.items, conserved.count⟩

theorem Conserved.whole (conserved : pool.Conserved all []) : pool.free.Perm all ∧ pool.count = all.length := by
  have items := conserved.items
  rw [List.append_nil] at items
  exact ⟨items, by rw [conserved.count, items.length_eq]⟩

end Pool

/-! Sums over everything a system has of one kind, where a step changes one of them. -/

variable {Index Value Total : Type*} [Fintype Index] [DecidableEq Index] [AddCommMonoid Total]

theorem sum_update_add (measure : Value → Total) (values : Index → Value) (index : Index) (value : Value) :
    (∑ other, measure (Function.update values index value other)) + measure (values index) =
      (∑ other, measure (values other)) + measure value := by
  have rest : ∑ other ∈ Finset.univ.erase index, measure (Function.update values index value other) =
      ∑ other ∈ Finset.univ.erase index, measure (values other) := by
    refine Finset.sum_congr rfl fun other different => ?_
    rw [Function.update_of_ne (Finset.ne_of_mem_erase different)]
  rw [← Finset.add_sum_erase _ _ (Finset.mem_univ index),
    ← Finset.add_sum_erase _ (fun other => measure (values other)) (Finset.mem_univ index), rest,
    Function.update_self, add_right_comm, add_comm (measure value), add_right_comm]

end Floid.Lib
