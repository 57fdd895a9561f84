import Floid.Buddy.Represents

namespace Floid.Buddy

open Osk Lib

structure Layout (bank : MemoryBank) : Prop where
  positive : 0 < bank.blocks
  small : bank.blocks ≤ 2 ^ 11
  maxOrder_eq : bank.maxOrder = 20 + bank.blocks.log2

variable {piece : AlignedBlock} {bank : MemoryBank}

theorem Layout.order_le (layout : Layout bank)
    (inside : ∀ unit, piece.Covers unit → unit < bank.blocks) : piece.order ≤ bank.blocks.log2 := by
  have blocks := layout.positive
  have positive := Nat.two_pow_pos piece.order
  have last := inside (piece.start + 2 ^ piece.order - 1)
    (AlignedBlock.covers_iff.mpr ⟨by omega, by omega⟩)
  exact (Nat.le_log2 (by omega)).mpr (by omega)

theorem Layout.order_small (layout : Layout bank)
    (inside : ∀ unit, piece.Covers unit → unit < bank.blocks) : piece.order ≤ 11 := by
  have small := layout.small
  have positive := layout.positive
  have bound : bank.blocks.log2 < 12 := (Nat.log2_lt (by omega)).mpr (by omega)
  have order := layout.order_le inside
  omega

structure Steady (bank : MemoryBank) (free held : Set AlignedBlock) : Prop where
  layout : Layout bank
  shown : Represents bank (binaryBlocks bank.blocks) free held ∅
  tiling : BuddyTiling (binaryBlocks bank.blocks) free held (Set.Iio bank.blocks)

structure InHand (bank : MemoryBank) (free others : Set AlignedBlock) (hand : AlignedBlock) : Prop where
  layout : Layout bank
  shown : Represents bank (binaryBlocks bank.blocks) free others {hand.start}
  tiling : BuddyTiling (binaryBlocks bank.blocks) free (insert hand others) (Set.Iio bank.blocks)
  new : hand ∉ others

namespace InHand

variable {bank : MemoryBank} {free others : Set AlignedBlock} {hand : AlignedBlock}

theorem inside (state : InHand bank free others hand) {unit : Nat} (covered : hand.Covers unit) :
    unit < bank.blocks :=
  state.tiling.tiles.inside hand (.inr (.inl rfl)) unit covered

theorem order_le (state : InHand bank free others hand) : hand.order ≤ bank.blocks.log2 :=
  state.layout.order_le fun _ covered => state.inside covered

theorem order_small (state : InHand bank free others hand) : hand.order ≤ 11 :=
  state.layout.order_small fun _ covered => state.inside covered

theorem start_small (state : InHand bank free others hand) : hand.start < 2 ^ 11 :=
  Nat.lt_of_lt_of_le (state.inside hand.covers_start) state.layout.small

variable {piece : AlignedBlock}

theorem free_apart (state : InHand bank free others hand)
    (member : piece ∈ free) : ¬ hand.Covers piece.start := by
  intro covered
  have same := state.tiling.tiles.apart hand (.inr (.inl rfl)) piece (.inl member) _ covered
    piece.covers_start
  exact state.tiling.apart piece member (.inl same.symm)

theorem other_apart (state : InHand bank free others hand)
    (member : piece ∈ others) : ¬ hand.Covers piece.start := by
  intro covered
  have same := state.tiling.tiles.apart hand (.inr (.inl rfl)) piece (.inr (.inr member)) _ covered
    piece.covers_start
  exact state.new (same ▸ member)

theorem split {child : AlignedBlock} (state : InHand bank free others child.parent)
    (lower : child.start = child.parent.start) :
    InHand ((bank.updateMisc child.buddy.start fun misc =>
        setBlockFree (setBlockOrder misc (child.order + 20)) true).listAdd
          child.buddy.start child.order)
      (insert child.buddy free) others child := by
  have buddyIn : child.parent.Covers child.buddy.start :=
    child.buddy_within_parent _ child.buddy.covers_start
  have order := state.order_small
  have buddyNotFree : child.buddy ∉ free := fun member => state.free_apart member buddyIn
  have different : child.start ≠ child.buddy.start := by
    intro same
    exact AlignedBlock.buddy_apart child.covers_start (same ▸ child.buddy.covers_start)
  have childNotOther : child ∉ others := fun member =>
    state.other_apart member (child.within_parent _ child.covers_start)
  have marked := (state.shown.settle {child.start, child.buddy.start} (by simp [lower])).updateMisc
    child.buddy.start (fun misc => setBlockFree (setBlockOrder misc (child.order + 20)) true)
    (.inr rfl)
    (fun piece member same => state.free_apart member (same ▸ buddyIn))
    (fun piece member same => state.other_apart member (same ▸ buddyIn)) (by simp)
  have listed := marked.listAdd child.buddy buddyNotFree (by simp)
    (by simp only [MemoryBank.updateMisc_same, getBlockOrder_setBlockFree]
        exact getBlockOrder_setBlockOrder _ (by simp at order; omega))
  have onlyChild : ({child.start, child.buddy.start} : Set Nat) \ {child.buddy.start} =
      {child.start} := by
    grind
  have held : insert child (insert child.parent others \ {child.parent}) = insert child others := by
    have new := state.new
    grind
  constructor
  · exact ⟨state.layout.positive, state.layout.small, state.layout.maxOrder_eq⟩
  · exact onlyChild ▸ listed
  · exact held ▸ state.tiling.split (.inl rfl)
  · exact childNotOther

end InHand

namespace Steady

variable {bank : MemoryBank} {free held : Set AlignedBlock}

variable {piece : AlignedBlock}

theorem same_of_start (state : Steady bank free held) {other : AlignedBlock}
    (member : piece ∈ free ∪ held) (otherMember : other ∈ free ∪ held)
    (same : other.start = piece.start) : other = piece :=
  state.tiling.tiles.apart other otherMember piece member _ other.covers_start
    (same ▸ piece.covers_start)

theorem take (state : Steady bank free held) (member : piece ∈ free) :
    InHand (bank.listDelinit piece.start) (free \ {piece}) held piece where
  layout := ⟨state.layout.positive, state.layout.small, state.layout.maxOrder_eq⟩
  shown := by
    have delinked := state.shown.listDelinit piece
      fun other otherFree => state.same_of_start (.inl member) (.inl otherFree)
    rwa [insert_empty_eq] at delinked
  tiling := state.tiling.take member
  new := state.tiling.apart piece member

end Steady

theorem splitBlock_inHand {requestedOrder currentOrder : Nat}
    {free others : Set AlignedBlock} {hand : AlignedBlock} (state : InHand bank free others hand)
    (order : hand.order + 20 = currentOrder) (smallest : 20 ≤ requestedOrder)
    (fits : requestedOrder ≤ currentOrder) :
    ∃ free' hand', InHand (splitBlock requestedOrder hand.start currentOrder bank) free' others
      hand' ∧ hand'.start = hand.start ∧ hand'.order + 20 = requestedOrder := by
  induction currentOrder generalizing bank free hand with
  | zero => omega
  | succ currentOrder ih =>
    simp only [splitBlock]
    split
    · rename_i larger
      obtain ⟨child, rfl, lower, childOrder⟩ :=
        AlignedBlock.exists_lower_half (show 0 < hand.order by omega)
      obtain rfl : currentOrder = child.order + 20 := by omega
      have index : child.order + 20 - bank.minOrder = child.order := by
        rw [state.shown.minOrder_eq, Nat.add_sub_cancel]
      rw [← lower, index, blockGetBuddy_start]
      exact ih (state.split lower) rfl (by omega)
    · exact ⟨free, hand, state, rfl, by omega⟩

theorem splitBlock_blocks (requestedOrder block currentOrder : Nat) (bank : MemoryBank) :
    (splitBlock requestedOrder block currentOrder bank).blocks = bank.blocks := by
  induction currentOrder generalizing bank with
  | zero => rfl
  | succ currentOrder ih =>
    simp only [splitBlock]
    split
    · exact ih _
    · rfl

theorem InHand.handOut {free others : Set AlignedBlock} {hand : AlignedBlock}
    (state : InHand bank free others hand) :
    Steady (bank.updateMisc hand.start fun misc =>
      setBlockFree (setBlockOrder misc (hand.order + 20)) false) free (insert hand others) := by
  have order := state.order_small
  have written := state.shown.updateMisc hand.start
    (fun misc => setBlockFree (setBlockOrder misc (hand.order + 20)) false) rfl
    (fun piece member same => state.free_apart member (same ▸ hand.covers_start))
    (fun piece member same => state.other_apart member (same ▸ hand.covers_start)) (by simp)
  have clear := written.settle ∅ (by simp)
  constructor
  · exact ⟨state.layout.positive, state.layout.small, state.layout.maxOrder_eq⟩
  · apply clear.hold
    simp only [MemoryBank.updateMisc_same, getBlockOrder_setBlockFree]
    exact getBlockOrder_setBlockOrder _ (by omega)
  · exact state.tiling

theorem Steady.withCount {free held : Set AlignedBlock}
    (state : Steady bank free held) (count : Nat) :
    Steady { bank with numActiveAllocations := count } free held where
  layout := ⟨state.layout.positive, state.layout.small, state.layout.maxOrder_eq⟩
  shown := { state.shown with }
  tiling := state.tiling

theorem blockGet_steady {free held : Set AlignedBlock} {minimumSize : U32}
    (state : Steady bank free held) :
    blockGet bank minimumSize = (bank, none) ∨
      ∃ bank' free' piece, blockGet bank minimumSize = (bank', some piece.start) ∧
        Steady bank' free' (insert piece held) ∧ (∀ other ∈ held, other.start ≠ piece.start) ∧
        bank'.blocks = bank.blocks := by
  simp only [blockGet]
  split
  · exact .inl rfl
  · split
    · exact .inl rfl
    · rename_i currentOrder found
      split
      · exact .inl rfl
      · rename_i block rest listed
        right
        have smallest := le_orderNeededForSize minimumSize bank.minOrder
        rw [state.shown.minOrder_eq] at listed smallest
        have first : orderNeededForSize minimumSize (some 20) ≤ currentOrder := by
          have inRange := List.mem_of_find?_eq_some found
          rw [List.mem_range'_1, state.shown.minOrder_eq] at inRange
          exact inRange.1
        have inList : block ∈ bank.freelist (currentOrder - 20) := listed ▸ List.mem_cons_self
        obtain ⟨piece, member, order, rfl⟩ := (state.shown.mem_freelist _ _).mp inList
        obtain ⟨free', hand, split, start, handOrder⟩ :=
          splitBlock_inHand (state.take member) (by omega) smallest first
        rw [state.shown.minOrder_eq]
        have out := split.handOut.withCount
          ((splitBlock (orderNeededForSize minimumSize (some 20)) piece.start currentOrder
            (bank.listDelinit piece.start)).numActiveAllocations + 1)
        rw [start, handOrder] at out
        refine ⟨_, free', hand, ?_, out, ?_, ?_⟩
        · rw [start]
          rfl
        · intro other otherHeld same
          exact split.other_apart otherHeld (same ▸ hand.covers_start)
        · exact splitBlock_blocks ..

end Floid.Buddy
