import Floid.Buddy.Conservation

namespace Floid.Buddy

open Floid.Osk Floid.Lib AlignedBlock

def splitIndices (minOrder requestedOrder block : Nat) : Nat → List Nat
  | 0 => []
  | currentOrder + 1 =>
      if requestedOrder < currentOrder + 1 then
        blockGetBuddy block (currentOrder - minOrder) :: splitIndices minOrder requestedOrder block currentOrder
      else []

/-- The block that `mali_memory_block_get` finds, and the buddies it splits off. -/
def blockGetIndices (bank : MemoryBank) (minimumSize : U32) : List Nat :=
  if minimumSize = 0 then []
  else
    let requestedOrder := orderNeededForSize minimumSize (some bank.minOrder)
    match orderToSplit bank requestedOrder with
    | none => []
    | some currentOrder =>
        match bank.freelist (currentOrder - bank.minOrder) with
        | [] => []
        | block :: _ => block :: splitIndices bank.minOrder requestedOrder block currentOrder

def mergeIndices : Nat → Nat → Nat → MemoryBank → List Nat
  | 0, _, _, _ => []
  | rounds + 1, block, currentOrder, bank =>
      let buddyBlock := blockGetBuddy block (currentOrder - bank.minOrder)
      if blockIsValidBuddy (bank.blocklist buddyBlock) currentOrder then
        let parent := blockGetParent block (currentOrder - bank.minOrder)
        let merged := mergeBuddies bank block buddyBlock parent currentOrder
        buddyBlock :: parent ::
          if getBlockToplevel (merged.blocklist parent) = currentOrder + 1 then []
          else mergeIndices rounds parent (currentOrder + 1) merged
      else [buddyBlock]

/-- The block that `block_release` is given, its buddies and its parents. -/
def blockReleaseIndices (bank : MemoryBank) (block : Nat) : List Nat :=
  let marked := bank.updateMisc block fun misc => setBlockFree misc true
  let currentOrder := getBlockOrder (marked.blocklist block)
  block :: mergeIndices (bank.maxOrder + 1 - currentOrder) block currentOrder marked

def LastTopLevel (bank : MemoryBank) (block : Nat) : Prop :=
  getBlockToplevel (bank.blocklist block) = getBlockOrder (bank.blocklist block) ∧
    block + 2 ^ (getBlockOrder (bank.blocklist block) - bank.minOrder) = bank.blocks

def KeepsLastTopLevel (state : BankState) : BankAction → Prop
  | .release block => ¬ LastTopLevel state.bank block
  | _ => True

variable {hand piece : AlignedBlock} {bank registered : MemoryBank} {free held : Set AlignedBlock}
    {state : BankState}

theorem splitIndices_covered {requestedOrder currentOrder : Nat}
    (order : hand.order + 20 = currentOrder) (smallest : 20 ≤ requestedOrder) :
    ∀ index ∈ splitIndices 20 requestedOrder hand.start currentOrder, hand.Covers index := by
  induction currentOrder generalizing hand with
  | zero => omega
  | succ currentOrder ih =>
    intro index listed
    rw [splitIndices] at listed
    split at listed
    · rename_i larger
      obtain ⟨child, rfl, lower, childOrder⟩ :=
        exists_lower_half (show 0 < hand.order by omega)
      obtain rfl : currentOrder = child.order + 20 := by omega
      rw [← lower, Nat.add_sub_cancel, blockGetBuddy_start] at listed
      cases listed with
      | head => exact child.buddy_within_parent _ child.buddy.covers_start
      | tail _ further => exact child.within_parent _ (ih rfl index further)
    · cases listed

theorem blockGetIndices_inList (state : Steady bank free held) (minimumSize : U32) :
    ∀ index ∈ blockGetIndices bank minimumSize, index < bank.blocks := by
  intro index listed
  simp only [blockGetIndices] at listed
  split at listed
  · cases listed
  · split at listed
    · cases listed
    · rename_i currentOrder found
      split at listed
      · cases listed
      · rename_i block rest onList
        have smallest := le_orderNeededForSize minimumSize bank.minOrder
        have first : orderNeededForSize minimumSize (some bank.minOrder) ≤ currentOrder := by
          have inRange := List.mem_of_find?_eq_some found
          rw [List.mem_range'_1] at inRange
          exact inRange.1
        rw [state.shown.minOrder_eq] at listed smallest first onList
        have inList : block ∈ bank.freelist (currentOrder - 20) := onList ▸ List.mem_cons_self
        obtain ⟨piece, member, order, rfl⟩ := (state.shown.mem_freelist _ _).mp inList
        apply state.tiling.tiles.inside piece (.inl member)
        cases listed with
        | head => exact piece.covers_start
        | tail _ further =>
          exact splitIndices_covered (by omega) smallest index further

theorem mergeIndices_inList {rounds : Nat} {others : Set AlignedBlock} (state : InHand bank free others hand)
    (inList : hand.buddy.start < bank.blocks) :
    ∀ index ∈ mergeIndices rounds hand.start (hand.order + 20) bank, index < bank.blocks := by
  induction rounds generalizing bank free hand with
  | zero => simp [mergeIndices]
  | succ rounds ih =>
    have small := Nat.lt_trans state.start_small (show 2 ^ 11 < 2 ^ 32 by decide)
    have order := state.order_small
    intro index listed
    simp only [mergeIndices, state.shown.minOrder_eq, Nat.add_sub_cancel, blockGetBuddy_start,
      blockGetParent_start small (show hand.order < 32 by omega)] at listed
    split at listed
    · rename_i valid
      have buddyFree : hand.buddy ∈ free := by
        apply state.buddy_free_of_valid
        · left
          rwa [state.shown.minOrder_eq, Nat.add_sub_cancel, blockGetBuddy_start]
        · rwa [state.shown.minOrder_eq, Nat.add_sub_cancel, blockGetBuddy_start]
      obtain ⟨merged, parentMarked⟩ := state.merged buddyFree
      have parentOrder : hand.order + 20 + 1 = hand.parent.order + 20 := by
        rw [parent_order]
      rw [parentOrder] at listed
      rcases List.mem_cons.mp listed with rfl | further
      · exact inList
      · rcases List.mem_cons.mp further with rfl | later
        · exact merged.inside hand.parent.covers_start
        · split at later
          · cases later
          · rename_i notTop
            exact ih merged (merged.buddy_inside_of_not_top fun isTop =>
              notTop (merged.top_iff.mpr isTop)) index later
    · rw [List.mem_singleton] at listed
      exact listed ▸ inList

theorem topLevel_buddy_start {blocks : Nat} (isTop : piece ∈ binaryBlocks blocks) :
    piece.buddy.start = piece.start + 2 ^ piece.order := by
  have even := congrArg AlignedBlock.index isTop.2
  have parity := xor_one_mod_two piece.index
  have half := xor_one_div_two piece.index
  have next : piece.index ^^^ 1 = piece.index + 1 := by
    simp only [binaryBlock] at even
    omega
  rw [start, start, buddy, next, Nat.succ_mul]

theorem buddy_inside_iff (state : Steady bank free held) (member : piece ∈ held) :
    piece.buddy.start < bank.blocks ↔ ¬ LastTopLevel bank piece.start := by
  obtain ⟨inHand, marked⟩ := state.takeBack member
  have topIff := inHand.top_iff
  simp only [MemoryBank.updateMisc_same, getBlockToplevel_setBlockFree, MemoryBank.updateMisc_blocks] at topIff
  rw [LastTopLevel, state.shown.held_order piece member, topIff, state.shown.minOrder_eq, Nat.add_sub_cancel]
  constructor
  · rintro inside ⟨isTop, last⟩
    rw [topLevel_buddy_start isTop] at inside
    omega
  · intro notLast
    by_cases isTop : piece ∈ binaryBlocks bank.blocks
    · have positive := Nat.two_pow_pos piece.order
      have bound := (binaryBlocks_topLevel bank.blocks).tiles.inside piece isTop
        (piece.start + 2 ^ piece.order - 1) (covers_iff.mpr ⟨by omega, by omega⟩)
      have different : piece.start + 2 ^ piece.order ≠ bank.blocks :=
        fun last => notLast ⟨isTop, last⟩
      rw [topLevel_buddy_start isTop]
      change _ < bank.blocks at bound
      omega
    · exact inHand.buddy_inside_of_not_top isTop

theorem blockReleaseIndices_inList_iff (state : Steady bank free held) (member : piece ∈ held) :
    (∀ index ∈ blockReleaseIndices bank piece.start, index < bank.blocks) ↔
      ¬ LastTopLevel bank piece.start := by
  obtain ⟨inHand, marked⟩ := state.takeBack member
  have order := marked.2
  rw [← buddy_inside_iff state member]
  simp only [blockReleaseIndices, order, List.forall_mem_cons]
  constructor
  · rintro ⟨-, inList⟩
    -- the first round looks at the buddy, whatever the block is
    have fits : piece.order ≤ bank.blocks.log2 := inHand.order_le
    have largest := state.layout.maxOrder_eq
    obtain ⟨rounds, more⟩ : ∃ rounds, bank.maxOrder + 1 - (piece.order + 20) = rounds + 1 :=
      ⟨bank.maxOrder - (piece.order + 20), by omega⟩
    apply inList
    rw [more]
    simp only [mergeIndices, inHand.shown.minOrder_eq, Nat.add_sub_cancel, blockGetBuddy_start]
    split
    · exact List.mem_cons_self
    · exact List.mem_cons_self
  · intro inside
    exact ⟨inHand.inside piece.covers_start, mergeIndices_inList inHand inside⟩

theorem KeepsLastTopLevel.readable {block : Nat} (accounted : Accounted registered state free held)
    (member : block ∈ state.outstanding) (keeps : ¬ LastTopLevel state.bank block) :
    BuddyReadable state.bank block (getBlockOrder (state.bank.blocklist block)) := by
  obtain ⟨piece, isHeld, rfl⟩ := (accounted.mem_outstanding block).mp member
  left
  rw [accounted.steady.shown.held_order piece isHeld, accounted.steady.shown.minOrder_eq,
    Nat.add_sub_cancel, blockGetBuddy_start]
  exact (buddy_inside_iff accounted.steady isHeld).mpr keeps

theorem accounted_of_keepsLast {resources : BankResources} {size : U32}
    (accepted : bankRegister resources size = some (.ok, some registered))
    (reached : ((bankSystem registered).restrict KeepsLastTopLevel).Reachable state) :
    ∃ free held, Accounted registered state free held :=
  accounted_of_restricted accepted KeepsLastTopLevel.readable reached

/-- In every run that keeps the last top-level block from being released whole, all
indices lie in the block list; the release of that block computes one behind it. -/
theorem blockIndices_inList {resources : BankResources} {size : U32} {registered : MemoryBank}
    {state : BankState} (accepted : bankRegister resources size = some (.ok, some registered))
    (reached : ((bankSystem registered).restrict KeepsLastTopLevel).Reachable state) :
    (∀ minimumSize, ∀ index ∈ blockGetIndices state.bank minimumSize, index < registered.blocks) ∧
      ∀ block ∈ state.outstanding,
        (∀ index ∈ blockReleaseIndices state.bank block, index < registered.blocks) ↔
          ¬ LastTopLevel state.bank block := by
  obtain ⟨free, held, accounted⟩ := accounted_of_keepsLast accepted reached
  rw [← accounted.blocks_eq]
  constructor
  · exact fun minimumSize => blockGetIndices_inList accounted.steady minimumSize
  · intro block member
    obtain ⟨piece, isHeld, rfl⟩ := (accounted.mem_outstanding block).mp member
    exact blockReleaseIndices_inList_iff accounted.steady isHeld

theorem blockIndices_inList_threeMegabytes : ∃ registered state,
      bankRegister (resourcesBefore 0#32) 0x300000#32 = some (.ok, some registered) ∧
        state = ((BankState.mk registered []).get 0x180000#32).get 0x100000#32 ∧
        (∀ index ∈ blockReleaseIndices state.bank 0, index < registered.blocks) ∧
        ¬ ∀ index ∈ blockReleaseIndices state.bank 2, index < registered.blocks := by
  refine ⟨_, _, rfl, rfl, ?_⟩
  have indices := @blockIndices_inList (resourcesBefore 0#32) 0x300000#32 _ _ rfl
    (.next (.get 0x100000#32) (.next (.get 0x180000#32) (.initial rfl) ⟨trivial, rfl⟩) ⟨trivial, rfl⟩)
  constructor
  · exact (indices.2 0 (by decide)).mpr (by unfold LastTopLevel; decide)
  · intro inList
    exact (indices.2 2 (by decide)).mp inList (by unfold LastTopLevel; decide)

/-- One megabyte, got and released: the release looks at the block behind the only one. -/
theorem blockRelease_outside : ∃ registered state,
      bankRegister (resourcesBefore 0#32) 0x100000#32 = some (.ok, some registered) ∧
        (bankSystem registered).Reachable state ∧ 0 ∈ state.outstanding ∧
        1 ∈ blockReleaseIndices state.bank 0 ∧ registered.blocks = 1 := by
  refine ⟨_, _, rfl, .next (.get 0x100000#32) (.initial rfl) rfl, ?_, ?_, ?_⟩
  · decide
  · decide
  · decide

end Floid.Buddy
