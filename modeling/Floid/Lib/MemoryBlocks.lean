import Mathlib

/-! Blocks of memory that lie apart have room for each other. -/

namespace Floid.Lib

abbrev MemoryBlock := Nat × Nat

namespace MemoryBlock

def Apart (block other : MemoryBlock) : Prop :=
  block.1 + block.2 ≤ other.1 ∨ other.1 + other.2 ≤ block.1

def addresses : List MemoryBlock → Finset Nat
  | [] => ∅
  | block :: blocks => Finset.Ico block.1 (block.1 + block.2) ∪ addresses blocks

variable {blocks : List MemoryBlock}

theorem mem_addresses {address : Nat} : address ∈ addresses blocks ↔
      ∃ block ∈ blocks, block.1 ≤ address ∧ address < block.1 + block.2 := by
  induction blocks with
  | nil => simp [addresses]
  | cons block blocks ih => simp [addresses, ih]

theorem card_addresses (apart : blocks.Pairwise Apart) :
    (addresses blocks).card = (blocks.map Prod.snd).sum := by
  induction blocks with
  | nil => rfl
  | cons block blocks ih =>
    obtain ⟨first, rest⟩ := List.pairwise_cons.mp apart
    have disjoint : Disjoint (Finset.Ico block.1 (block.1 + block.2)) (addresses blocks) := by
      rw [Finset.disjoint_left]
      intro address inBlock inRest
      obtain ⟨other, member, inOther⟩ := mem_addresses.mp inRest
      have inside := Finset.mem_Ico.mp inBlock
      rcases first other member with before | after
      · omega
      · omega
    rw [addresses, Finset.card_union_of_disjoint disjoint, ih rest, Nat.card_Ico, List.map_cons,
      List.sum_cons, Nat.add_sub_cancel_left]

theorem sum_le (apart : blocks.Pairwise Apart) (low high : Nat)
    (inside : ∀ block ∈ blocks, low ≤ block.1 ∧ block.1 + block.2 ≤ high) :
    (blocks.map Prod.snd).sum ≤ high - low := by
  rw [← card_addresses apart, ← Nat.card_Ico low high]
  apply Finset.card_le_card
  intro address member
  obtain ⟨block, isBlock, inBlock⟩ := mem_addresses.mp member
  have bounds := inside block isBlock
  rw [Finset.mem_Ico]
  omega

end MemoryBlock

end Floid.Lib
