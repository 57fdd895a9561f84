import Floid.Buddy.Bank

namespace Floid.Buddy

open Osk Lib

structure Represents (bank : MemoryBank) (top free held : Set AlignedBlock)
    (inHand : Set Nat) : Prop where
  minOrder_eq : bank.minOrder = 20
  nodup : ∀ index, (bank.freelist index).Nodup
  mem_freelist : ∀ index block, block ∈ bank.freelist index ↔
    ∃ piece ∈ free, piece.order = index ∧ piece.start = block
  free_marked : ∀ piece ∈ free, getBlockFree (bank.blocklist piece.start) ≠ 0 ∧
    getBlockOrder (bank.blocklist piece.start) = piece.order + 20
  marked_free : ∀ block < bank.blocks, block ∉ inHand → getBlockFree (bank.blocklist block) ≠ 0 →
    ∃ piece ∈ free, piece.start = block
  held_order : ∀ piece ∈ held, getBlockOrder (bank.blocklist piece.start) = piece.order + 20
  top_level : ∀ piece ∈ top, getBlockToplevel (bank.blocklist piece.start) = piece.order + 20
  not_top_level : ∀ block < bank.blocks, (∀ piece ∈ top, piece.start ≠ block) →
    getBlockToplevel (bank.blocklist block) = 0

namespace Represents

variable {bank : MemoryBank} {top free held : Set AlignedBlock} {inHand : Set Nat}

theorem updateMisc (shown : Represents bank top free held inHand) (block : Nat)
    (change : U32 → U32) (handled : block ∈ inHand)
    (notFree : ∀ piece ∈ free, piece.start ≠ block) (notHeld : ∀ piece ∈ held, piece.start ≠ block)
    (keeps : getBlockToplevel (change (bank.blocklist block)) = getBlockToplevel (bank.blocklist block)) :
    Represents (bank.updateMisc block change) top free held inHand := by
  have other {block' : Nat} (different : block' ≠ block) :
      (bank.updateMisc block change).blocklist block' = bank.blocklist block' :=
    MemoryBank.updateMisc_other bank change different
  have toplevel (block' : Nat) : getBlockToplevel ((bank.updateMisc block change).blocklist block') =
      getBlockToplevel (bank.blocklist block') := by
    by_cases same : block' = block
    · rw [same, MemoryBank.updateMisc_same, keeps]
    · rw [other same]
  refine { shown with
    free_marked := ?_, marked_free := ?_, held_order := ?_, top_level := ?_, not_top_level := ?_ }
  · intro piece member
    rw [other (notFree piece member)]
    exact shown.free_marked piece member
  · intro block' inside notInHand marked
    have different : block' ≠ block := fun same => notInHand (same ▸ handled)
    rw [other different] at marked
    exact shown.marked_free block' inside notInHand marked
  · intro piece member
    rw [other (notHeld piece member)]
    exact shown.held_order piece member
  · intro piece member
    rw [toplevel]
    exact shown.top_level piece member
  · intro block' inside notTop
    rw [toplevel]
    exact shown.not_top_level block' inside notTop

theorem listAdd (shown : Represents bank top free held inHand) (piece : AlignedBlock)
    (notFree : piece ∉ free) (marked : getBlockFree (bank.blocklist piece.start) ≠ 0)
    (order : getBlockOrder (bank.blocklist piece.start) = piece.order + 20) :
    Represents (bank.listAdd piece.start piece.order) top (insert piece free) held
      (inHand \ {piece.start}) := by
  have samePiece {other : AlignedBlock} (sameOrder : other.order = piece.order)
      (sameStart : other.start = piece.start) : other = piece :=
    AlignedBlock.eq_of_covers sameOrder other.covers_start (sameStart ▸ piece.covers_start)
  refine { shown with nodup := ?_, mem_freelist := ?_, free_marked := ?_, marked_free := ?_ }
  · intro index
    by_cases same : index = piece.order
    · rw [same, MemoryBank.listAdd_same, List.nodup_cons, shown.mem_freelist]
      refine ⟨?_, shown.nodup _⟩
      rintro ⟨other, otherFree, sameOrder, sameStart⟩
      exact notFree (samePiece sameOrder sameStart ▸ otherFree)
    · rw [MemoryBank.listAdd_other _ _ same]
      exact shown.nodup index
  · intro index block
    by_cases same : index = piece.order
    · rw [same, MemoryBank.listAdd_same, List.mem_cons, shown.mem_freelist]
      grind
    · rw [MemoryBank.listAdd_other _ _ same, shown.mem_freelist]
      grind
  · rintro other (rfl | member)
    · exact ⟨marked, order⟩
    · exact shown.free_marked other member
  · intro block inside notInHand isMarked
    by_cases same : block = piece.start
    · exact ⟨piece, .inl rfl, same.symm⟩
    · obtain ⟨other, member, starts⟩ := shown.marked_free block inside
        (fun inIt => notInHand ⟨inIt, same⟩) isMarked
      exact ⟨other, .inr member, starts⟩

theorem listDelinit (shown : Represents bank top free held inHand) (piece : AlignedBlock)
    (starts : ∀ other ∈ free, other.start = piece.start → other = piece) :
    Represents (bank.listDelinit piece.start) top (free \ {piece}) held
      (insert piece.start inHand) := by
  refine { shown with
    nodup := fun index => (shown.nodup index).erase _
    mem_freelist := ?_, free_marked := ?_, marked_free := ?_ }
  · intro index block
    rw [MemoryBank.listDelinit, (shown.nodup index).mem_erase_iff, shown.mem_freelist]
    constructor
    · rintro ⟨different, other, member, rfl, rfl⟩
      exact ⟨other, ⟨member, fun same => different (same ▸ rfl)⟩, rfl, rfl⟩
    · rintro ⟨other, ⟨member, different⟩, rfl, rfl⟩
      exact ⟨fun same => different (starts other member same), other, member, rfl, rfl⟩
  · intro other member
    exact shown.free_marked other member.1
  · intro block inside notInHand marked
    obtain ⟨other, member, rfl⟩ := shown.marked_free block inside
      (fun inIt => notInHand (.inr inIt)) marked
    exact ⟨other, ⟨member, fun same => notInHand (.inl (same ▸ rfl))⟩, rfl⟩

theorem settle (shown : Represents bank top free held inHand) (kept : Set Nat)
    (clear : ∀ block ∈ inHand, block ∉ kept → getBlockFree (bank.blocklist block) = 0) :
    Represents bank top free held kept := by
  refine { shown with marked_free := ?_ }
  intro block inside notKept marked
  by_cases handled : block ∈ inHand
  · exact absurd (clear block handled notKept) marked
  · exact shown.marked_free block inside handled marked

variable {piece : AlignedBlock}

theorem hold (shown : Represents bank top free held inHand)
    (order : getBlockOrder (bank.blocklist piece.start) = piece.order + 20) :
    Represents bank top free (insert piece held) inHand := by
  refine { shown with held_order := ?_ }
  rintro other (rfl | member)
  · exact order
  · exact shown.held_order other member

theorem unhold (shown : Represents bank top free held inHand) (fewer : Set AlignedBlock)
    (subset : fewer ⊆ held) : Represents bank top free fewer inHand :=
  { shown with held_order := fun piece member => shown.held_order piece (subset member) }

theorem mem_free_of_valid (shown : Represents bank top free held inHand)
    (inside : piece.start < bank.blocks) (notInHand : piece.start ∉ inHand)
    (valid : blockIsValidBuddy (bank.blocklist piece.start) (piece.order + 20) = true) :
    piece ∈ free := by
  obtain ⟨marked, isOrder⟩ := blockIsValidBuddy_iff.mp valid
  obtain ⟨other, member, sameStart⟩ := shown.marked_free _ inside notInHand marked
  have order := (shown.free_marked other member).2
  rw [sameStart, isOrder] at order
  have same : other = piece :=
    AlignedBlock.eq_of_covers (by omega) other.covers_start (sameStart ▸ piece.covers_start)
  exact same ▸ member

theorem valid_of_mem_free (shown : Represents bank top free held inHand) (member : piece ∈ free) :
    blockIsValidBuddy (bank.blocklist piece.start) (piece.order + 20) = true :=
  blockIsValidBuddy_iff.mpr (shown.free_marked piece member)

end Represents

end Floid.Buddy
