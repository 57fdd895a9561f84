import Floid.Buddy.Operations

namespace Floid.Buddy

open Floid.Osk Floid.Lib AlignedBlock MemoryBank

def MarkedFree (bank : MemoryBank) (hand : AlignedBlock) : Prop :=
  getBlockFree (bank.blocklist hand.start) ≠ 0 ∧ getBlockOrder (bank.blocklist hand.start) = hand.order + 20

def BuddyReadable (bank : MemoryBank) (block order : Nat) : Prop :=
  blockGetBuddy block (order - bank.minOrder) < bank.blocks ∨
    blockIsValidBuddy (bank.blocklist (blockGetBuddy block (order - bank.minOrder))) order = false

namespace InHand

variable {bank : MemoryBank} {free others : Set AlignedBlock} {hand : AlignedBlock}

theorem merged (state : InHand bank free others hand) (buddyFree : hand.buddy ∈ free) :
    InHand (mergeBuddies bank hand.start hand.buddy.start hand.parent.start (hand.order + 20))
        (free \ {hand.buddy}) others hand.parent ∧
      MarkedFree (mergeBuddies bank hand.start hand.buddy.start hand.parent.start
        (hand.order + 20)) hand.parent := by
  have merged := state.tiling.merge (binaryBlocks_topLevel _) (.inl rfl) buddyFree
  have small : hand.order + 20 + 1 < 32 := by
    have order := state.layout.order_small fun unit covered =>
      merged.tiles.inside hand.parent (.inr (.inl rfl)) unit covered
    rw [parent_order] at order
    omega
  have clearFlag : ∀ misc, getBlockFree (setBlockFree (setBlockOrder misc 0) false) = 0 := by
    simp
  have sameStart : ∀ other ∈ free, other.start = hand.buddy.start → other = hand.buddy :=
    fun other member same => state.tiling.tiles.apart other (.inl member) _ (.inl buddyFree) _
      other.covers_start (same ▸ hand.buddy.covers_start)
  have ownApart : ∀ piece, piece ∈ free ∨ piece ∈ others → piece.start ≠ hand.start := by
    rintro piece (member | member) same
    · exact state.free_apart member (same ▸ hand.covers_start)
    · exact state.other_apart member (same ▸ hand.covers_start)
  have buddyApart : ∀ piece, piece ∈ free \ {hand.buddy} ∨ piece ∈ others → piece.start ≠ hand.buddy.start := by
    rintro piece (member | member) same
    · exact member.2 (sameStart piece member.1 same)
    · have meets := state.tiling.tiles.apart piece (.inr (.inr member)) _ (.inl buddyFree) _
        piece.covers_start (same ▸ hand.buddy.covers_start)
      exact state.tiling.apart _ buddyFree (.inr (meets ▸ member))
  have halfApart : ∀ piece, piece ∈ free \ {hand.buddy} ∨ piece ∈ others → piece.start ≠ hand.parent.start := by
    intro piece member
    rcases hand.parent_start with lower | lower
    · rw [lower]
      exact ownApart piece (member.imp (fun inFree => inFree.1) id)
    · rw [lower]
      exact buddyApart piece member
  have parentIn : hand.parent.start ∈ ({hand.buddy.start, hand.start} : Set Nat) := by
    rcases hand.parent_start with lower | lower <;> simp [lower]
  -- the three writes, each at an offset in hand
  have delinked := state.shown.listDelinit _ sameStart
  have ownCleared := delinked.updateMisc hand.start
    (fun misc => setBlockFree (setBlockOrder misc 0) false) (.inr rfl)
    (fun piece member => ownApart piece (.inl member.1))
    (fun piece member => ownApart piece (.inr member)) (by simp)
  have buddyCleared := ownCleared.updateMisc hand.buddy.start
    (fun misc => setBlockFree (setBlockOrder misc 0) false) (.inl rfl)
    (fun piece member => buddyApart piece (.inl member))
    (fun piece member => buddyApart piece (.inr member)) (by simp)
  have parentMarked := buddyCleared.updateMisc hand.parent.start
    (fun misc => setBlockFree (setBlockOrder misc (hand.order + 20 + 1)) true) parentIn
    (fun piece member => halfApart piece (.inl member))
    (fun piece member => halfApart piece (.inr member)) (by simp)
  constructor
  · constructor
    · exact ⟨state.layout.positive, state.layout.small, state.layout.maxOrder_eq⟩
    · apply parentMarked.settle
      intro block handled notParent
      rw [updateMisc_other _ _ notParent]
      by_cases isBuddy : block = hand.buddy.start
      · rw [isBuddy, updateMisc_same, clearFlag]
      · rw [updateMisc_other _ _ isBuddy]
        rcases handled with same | rfl
        · exact absurd same isBuddy
        · rw [updateMisc_same, clearFlag]
    · have held : insert hand.parent (insert hand others \ {hand}) = insert hand.parent others := by
        grind
      exact held ▸ merged
    · exact fun member => halfApart hand.parent (.inr member) rfl
  · constructor
    · simp [mergeBuddies]
    · simp only [mergeBuddies, updateMisc_same, getBlockOrder_setBlockFree]
      rw [getBlockOrder_setBlockOrder _ small, parent_order]

theorem buddy_inside_of_not_top (state : InHand bank free others hand)
    (notTop : hand ∉ binaryBlocks bank.blocks) : hand.buddy.start < bank.blocks := by
  obtain ⟨outer, isTop, within⟩ := state.tiling.bounded hand (.inr (.inl rfl))
  have larger : hand.order < outer.order := by
    apply Nat.lt_of_le_of_ne (order_le_of_within within)
    intro same
    have equal := eq_of_covers same hand.covers_start (within _ hand.covers_start)
    exact notTop (equal ▸ isTop)
  exact (binaryBlocks_topLevel bank.blocks).tiles.inside outer isTop _
    (parent_within within larger _ (hand.buddy_within_parent _ hand.buddy.covers_start))

theorem readable_of_not_top (state : InHand bank free others hand) (notTop : hand ∉ binaryBlocks bank.blocks) :
    BuddyReadable bank hand.start (hand.order + 20) := by
  left
  rw [state.shown.minOrder_eq, Nat.add_sub_cancel, blockGetBuddy_start]
  exact state.buddy_inside_of_not_top notTop

theorem buddy_free_of_valid (state : InHand bank free others hand)
    (readable : BuddyReadable bank hand.start (hand.order + 20))
    (valid : blockIsValidBuddy (bank.blocklist (blockGetBuddy hand.start
      (hand.order + 20 - bank.minOrder))) (hand.order + 20) = true) : hand.buddy ∈ free := by
  rcases readable with inList | invalid
  · rw [state.shown.minOrder_eq, Nat.add_sub_cancel, blockGetBuddy_start] at inList valid
    apply state.shown.mem_free_of_valid inList _ valid
    intro same
    exact buddy_apart hand.covers_start (same ▸ hand.buddy.covers_start)
  · rw [invalid] at valid
    contradiction

theorem buddy_not_free_of_invalid (state : InHand bank free others hand)
    (invalid : ¬ blockIsValidBuddy (bank.blocklist (blockGetBuddy hand.start
      (hand.order + 20 - bank.minOrder))) (hand.order + 20) = true) : hand.buddy ∉ free := by
  intro buddyFree
  rw [state.shown.minOrder_eq, Nat.add_sub_cancel, blockGetBuddy_start] at invalid
  exact invalid (state.shown.valid_of_mem_free buddyFree)

theorem top_iff (state : InHand bank free others hand) :
    getBlockToplevel (bank.blocklist hand.start) = hand.order + 20 ↔ hand ∈ binaryBlocks bank.blocks := by
  constructor
  · intro field
    by_cases starts : ∃ piece ∈ binaryBlocks bank.blocks, piece.start = hand.start
    · obtain ⟨piece, isTop, same⟩ := starts
      have order := state.shown.top_level piece isTop
      rw [same, field] at order
      have equal := eq_of_covers (show piece.order = hand.order by omega)
        piece.covers_start (same ▸ hand.covers_start)
      exact equal ▸ isTop
    · have zero := state.shown.not_top_level hand.start (state.inside hand.covers_start)
        fun piece isTop same => starts ⟨piece, isTop, same⟩
      omega
  · exact state.shown.top_level hand

theorem giveBack (state : InHand bank free others hand) (marked : MarkedFree bank hand)
    (buddyInUse : hand.buddy ∉ free) :
    Steady (bank.listAdd hand.start hand.order) (insert hand free) others := by
  have notFree : hand ∉ free := fun member => state.free_apart member hand.covers_start
  have listed := state.shown.listAdd _ notFree marked.1 marked.2
  have held : insert hand others \ {hand} = others := by
    have new := state.new
    grind
  constructor
  · exact ⟨state.layout.positive, state.layout.small, state.layout.maxOrder_eq⟩
  · exact listed.settle _ (by simp)
  · exact held ▸ state.tiling.give (.inl rfl) buddyInUse

end InHand

theorem mergeBlock_inHand {rounds : Nat} {bank : MemoryBank} {free others : Set AlignedBlock}
    {hand : AlignedBlock} (state : InHand bank free others hand) (marked : MarkedFree bank hand)
    (readable : BuddyReadable bank hand.start (hand.order + 20))
    (enough : bank.blocks.log2 < hand.order + rounds) :
    ∃ bank' free' hand', mergeBlock rounds hand.start (hand.order + 20) bank =
        (bank', hand'.start, hand'.order + 20) ∧ InHand bank' free' others hand' ∧
      MarkedFree bank' hand' ∧ hand'.buddy ∉ free' ∧ bank'.blocks = bank.blocks := by
  induction rounds generalizing bank free hand with
  | zero =>
    have order := state.order_le
    omega
  | succ rounds ih =>
    simp only [mergeBlock]
    split
    · rename_i valid
      have buddyFree := state.buddy_free_of_valid readable valid
      obtain ⟨merged, parentMarked⟩ := state.merged buddyFree
      have small := Nat.lt_trans state.start_small (show 2 ^ 11 < 2 ^ 32 by decide)
      have order := state.order_small
      rw [state.shown.minOrder_eq, Nat.add_sub_cancel, blockGetBuddy_start, blockGetParent_start small (by omega)]
      have parentOrder : hand.order + 20 + 1 = hand.parent.order + 20 := by
        rw [parent_order]
      simp only [parentOrder]
      split
      · rename_i isTop
        refine ⟨_, _, hand.parent, rfl, merged, parentMarked, ?_, rfl⟩
        exact merged.tiling.buddy_not_free_of_top (binaryBlocks_topLevel _)
          (merged.top_iff.mp isTop)
      · rename_i notTop
        obtain ⟨bank', free', hand', run, final⟩ := ih merged parentMarked
          (merged.readable_of_not_top fun isTop => notTop (merged.top_iff.mpr isTop))
          (by rw [parent_order]; change bank.blocks.log2 < _; omega)
        exact ⟨bank', free', hand', run, final⟩
    · rename_i invalid
      exact ⟨bank, free, hand, rfl, state, marked, state.buddy_not_free_of_invalid invalid, rfl⟩

theorem Steady.takeBack {bank : MemoryBank} {free held : Set AlignedBlock} {piece : AlignedBlock}
    (state : Steady bank free held) (member : piece ∈ held) :
    InHand (bank.updateMisc piece.start fun misc => setBlockFree misc true) free
        (held \ {piece}) piece ∧
      MarkedFree (bank.updateMisc piece.start fun misc => setBlockFree misc true) piece := by
  have held_eq : insert piece (held \ {piece}) = held := by
    simpa using Set.insert_eq_of_mem member
  have handled := (state.shown.unhold (held \ {piece}) Set.sdiff_subset).settle {piece.start}
    (by simp)
  constructor
  · constructor
    · exact ⟨state.layout.positive, state.layout.small, state.layout.maxOrder_eq⟩
    · apply handled.updateMisc _ _ rfl
      · intro other otherFree same
        have equal := state.same_of_start (.inr member) (.inl otherFree) same
        exact state.tiling.apart other otherFree (equal ▸ member)
      · intro other otherHeld same
        exact otherHeld.2 (state.same_of_start (.inr member) (.inr otherHeld.1) same)
      · simp
    · rw [held_eq]
      exact state.tiling
    · exact fun inRest => inRest.2 rfl
  · constructor
    · simp
    · simpa using state.shown.held_order piece member

theorem blockRelease_steady {bank : MemoryBank} {free held : Set AlignedBlock}
    {piece : AlignedBlock} (state : Steady bank free held) (member : piece ∈ held)
    (readable : BuddyReadable bank piece.start (getBlockOrder (bank.blocklist piece.start))) :
    ∃ free', Steady (blockRelease bank piece.start) free' (held \ {piece}) ∧
      (blockRelease bank piece.start).blocks = bank.blocks := by
  obtain ⟨inHand, marked⟩ := state.takeBack member
  have order : getBlockOrder (bank.blocklist piece.start) = piece.order + 20 :=
    state.shown.held_order piece member
  have markedOrder : getBlockOrder ((bank.updateMisc piece.start fun misc =>
      setBlockFree misc true).blocklist piece.start) = piece.order + 20 := marked.2
  have different : piece.buddy.start ≠ piece.start := by
    intro same
    exact buddy_apart piece.covers_start (same ▸ piece.buddy.covers_start)
  have stillReadable : BuddyReadable (bank.updateMisc piece.start fun misc =>
      setBlockFree misc true) piece.start (piece.order + 20) := by
    rw [order] at readable
    simp only [BuddyReadable, updateMisc_minOrder, updateMisc_blocks,
      state.shown.minOrder_eq, Nat.add_sub_cancel, blockGetBuddy_start] at readable ⊢
    rwa [updateMisc_other _ _ different]
  have enough : bank.blocks.log2 < piece.order + (bank.maxOrder + 1 - (piece.order + 20)) := by
    have fits : piece.order ≤ bank.blocks.log2 := inHand.order_le
    have largest := state.layout.maxOrder_eq
    omega
  obtain ⟨bank', free', hand', run, merged, mergedMarked, buddyInUse, blocks⟩ :=
    mergeBlock_inHand inHand marked stillReadable enough
  have final := (merged.giveBack mergedMarked buddyInUse).withCount
    (bank'.numActiveAllocations - 1)
  have released : blockRelease bank piece.start =
      { bank'.listAdd hand'.start hand'.order with
        numActiveAllocations := bank'.numActiveAllocations - 1 } := by
    simp only [blockRelease, markedOrder, run, state.shown.minOrder_eq, Nat.add_sub_cancel]
    rfl
  rw [released]
  exact ⟨_, final, blocks⟩

end Floid.Buddy
