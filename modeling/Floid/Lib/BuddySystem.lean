import Mathlib.Data.Nat.Bitwise
import Mathlib.Data.Set.Insert
import Mathlib.Order.Interval.Set.Defs

/-!
Buddy systems over the natural numbers. An aligned block is an interval of a power of
two units that starts at a multiple of its own length, so two of them are nested or
disjoint. A buddy system tiles a region with free and held blocks inside a fixed
tiling by top-level blocks, and never leaves a block and its buddy both free.
-/

namespace Floid.Lib

structure AlignedBlock where
  order : Nat
  index : Nat
  deriving DecidableEq, Repr

theorem xor_one_div_two (index : Nat) : (index ^^^ 1) / 2 = index / 2 := by
  rw [Nat.xor_div_two]
  simp

theorem xor_one_mod_two (index : Nat) : (index ^^^ 1) % 2 = 1 - index % 2 := by
  rw [Nat.xor_mod_two_eq]
  omega

namespace AlignedBlock

def start (block : AlignedBlock) : Nat := block.index * 2 ^ block.order

def Covers (block : AlignedBlock) (unit : Nat) : Prop := unit / 2 ^ block.order = block.index

def Within (inner outer : AlignedBlock) : Prop := ∀ unit, inner.Covers unit → outer.Covers unit

def Meets (block other : AlignedBlock) : Prop := ∃ unit, block.Covers unit ∧ other.Covers unit

def buddy (block : AlignedBlock) : AlignedBlock := ⟨block.order, block.index ^^^ 1⟩

def parent (block : AlignedBlock) : AlignedBlock := ⟨block.order + 1, block.index / 2⟩

@[simp] theorem buddy_order (block : AlignedBlock) : block.buddy.order = block.order := rfl

@[simp] theorem parent_order (block : AlignedBlock) : block.parent.order = block.order + 1 := rfl

@[simp] theorem buddy_buddy (block : AlignedBlock) : block.buddy.buddy = block := by
  simp [buddy]

variable {unit : Nat} {inner outer : AlignedBlock} {block : AlignedBlock}

theorem covers_iff :
    block.Covers unit ↔ block.start ≤ unit ∧ unit < block.start + 2 ^ block.order := by
  rw [Covers, start, Nat.div_eq_iff (Nat.two_pow_pos _)]
  have positive := Nat.two_pow_pos block.order
  omega

theorem covers_start (block : AlignedBlock) : block.Covers block.start :=
  Nat.mul_div_cancel _ (Nat.two_pow_pos _)

theorem parent_covers :
    block.parent.Covers unit ↔ block.Covers unit ∨ block.buddy.Covers unit := by
  have halves := xor_one_div_two block.index
  have parity := xor_one_mod_two block.index
  simp only [Covers, parent, buddy, Nat.pow_succ, ← Nat.div_div_eq_div_mul]
  omega

theorem buddy_apart (covered : block.Covers unit) : ¬ block.buddy.Covers unit := by
  have parity := xor_one_mod_two block.index
  simp only [Covers, buddy] at covered ⊢
  omega

theorem buddy_ne (block : AlignedBlock) : block.buddy ≠ block := by
  intro same
  apply buddy_apart block.covers_start
  rw [same]
  exact block.covers_start

theorem eq_of_covers {block other : AlignedBlock}
    (sameOrder : block.order = other.order) (covered : block.Covers unit) (otherCovered : other.Covers unit) : block = other := by
  cases block
  cases other
  simp_all [Covers]

theorem within_of_covers
    (smaller : inner.order ≤ outer.order) (covered : inner.Covers unit) (outerCovered : outer.Covers unit) : inner.Within outer := by
  intro other otherCovered
  have split (value : Nat) : value / 2 ^ outer.order =
      value / 2 ^ inner.order / 2 ^ (outer.order - inner.order) := by
    rw [Nat.div_div_eq_div_mul, ← Nat.pow_add, Nat.add_sub_cancel' smaller]
  simp only [Covers] at covered otherCovered outerCovered ⊢
  rw [split, otherCovered, ← covered, ← split, outerCovered]

theorem order_le_of_within (within : inner.Within outer) : inner.order ≤ outer.order := by
  have positive := Nat.two_pow_pos inner.order
  have first := covers_iff.mp (within inner.start inner.covers_start)
  have last := covers_iff.mp (within (inner.start + 2 ^ inner.order - 1) (covers_iff.mpr ⟨by omega, by omega⟩))
  exact (Nat.pow_le_pow_iff_right (by decide)).mp
    (show 2 ^ inner.order ≤ 2 ^ outer.order by omega)

theorem parent_within (within : block.Within outer)
    (smaller : block.order < outer.order) : block.parent.Within outer :=
  within_of_covers smaller (parent_covers.mpr (.inl block.covers_start))
    (within _ block.covers_start)

theorem within_parent (block : AlignedBlock) : block.Within block.parent :=
  fun _ covered => parent_covers.mpr (.inl covered)

theorem buddy_within_parent (block : AlignedBlock) : block.buddy.Within block.parent :=
  fun _ covered => parent_covers.mpr (.inr covered)

theorem parent_start (block : AlignedBlock) :
    block.parent.start = block.start ∨ block.parent.start = block.buddy.start := by
  have halves := xor_one_div_two block.index
  have parity := xor_one_mod_two block.index
  have doubled : block.parent.start = 2 * (block.index / 2) * 2 ^ block.order := by
    rw [start, parent, Nat.pow_succ, Nat.mul_comm (2 ^ block.order), ← Nat.mul_assoc, Nat.mul_comm 2]
  rcases Nat.mod_two_eq_zero_or_one block.index with even | odd
  · left
    rw [doubled, start, show 2 * (block.index / 2) = block.index by omega]
  · right
    rw [doubled, start, buddy, show 2 * (block.index / 2) = block.index ^^^ 1 by omega]

theorem exists_lower_half (large : 0 < block.order) :
    ∃ half : AlignedBlock, half.parent = block ∧ half.start = block.start ∧ half.order + 1 = block.order := by
  obtain ⟨order, index⟩ := block
  obtain ⟨smaller, rfl⟩ := Nat.exists_eq_add_one.mpr large
  refine ⟨⟨smaller, 2 * index⟩, ?_, ?_, rfl⟩
  · simp [parent]
  · simp only [start, Nat.pow_succ]
    rw [Nat.mul_comm 2, Nat.mul_assoc, Nat.mul_comm 2]

end AlignedBlock

structure IsTiling (pieces : Set AlignedBlock) (region : Set Nat) : Prop where
  inside : ∀ block ∈ pieces, ∀ unit, block.Covers unit → unit ∈ region
  covered : ∀ unit ∈ region, ∃ block ∈ pieces, block.Covers unit
  apart : ∀ block ∈ pieces, ∀ other ∈ pieces, ∀ unit, block.Covers unit → other.Covers unit → block = other

theorem IsTiling.replace {pieces old new result : Set AlignedBlock} {region : Set Nat}
    (tiling : IsTiling pieces region) (subset : ∀ block ∈ old, block ∈ pieces)
    (same : ∀ unit, (∃ block ∈ new, block.Covers unit) ↔ ∃ block ∈ old, block.Covers unit)
    (apart : ∀ block ∈ new, ∀ other ∈ new, ∀ unit, block.Covers unit → other.Covers unit → block = other)
    (replaced : ∀ block, block ∈ result ↔ block ∈ pieces ∧ block ∉ old ∨ block ∈ new) :
    IsTiling result region := by
  -- a kept piece and a new one cannot meet: the old piece there would be the kept one
  have keptApart : ∀ block ∈ pieces, block ∉ old → ∀ other ∈ new, ∀ unit, block.Covers unit →
      ¬ other.Covers unit := by
    intro block member kept other otherNew unit covered otherCovered
    obtain ⟨gone, goneOld, goneCovered⟩ := (same unit).mp ⟨other, otherNew, otherCovered⟩
    exact kept (tiling.apart block member gone (subset gone goneOld) unit covered goneCovered ▸ goneOld)
  constructor
  · intro block member unit covered
    rcases (replaced block).mp member with ⟨kept, _⟩ | fresh
    · exact tiling.inside block kept unit covered
    · obtain ⟨gone, goneOld, goneCovered⟩ := (same unit).mp ⟨block, fresh, covered⟩
      exact tiling.inside gone (subset gone goneOld) unit goneCovered
  · intro unit inside
    obtain ⟨block, member, covered⟩ := tiling.covered unit inside
    by_cases gone : block ∈ old
    · obtain ⟨fresh, freshNew, freshCovered⟩ := (same unit).mpr ⟨block, gone, covered⟩
      exact ⟨fresh, (replaced fresh).mpr (.inr freshNew), freshCovered⟩
    · exact ⟨block, (replaced block).mpr (.inl ⟨member, gone⟩), covered⟩
  · intro block member other otherMember unit covered otherCovered
    rcases (replaced block).mp member with ⟨kept, notOld⟩ | fresh <;>
      rcases (replaced other).mp otherMember with ⟨otherKept, otherNotOld⟩ | otherFresh
    · exact tiling.apart block kept other otherKept unit covered otherCovered
    · exact absurd otherCovered (keptApart block kept notOld other otherFresh unit covered)
    · exact absurd covered (keptApart other otherKept otherNotOld block fresh unit otherCovered)
    · exact apart block fresh other otherFresh unit covered otherCovered

structure TopLevel (top : Set AlignedBlock) (region : Set Nat) : Prop where
  tiles : IsTiling top region
  unmerged : ∀ block ∈ top, block.buddy ∉ top

structure BuddyTiling (top free held : Set AlignedBlock) (region : Set Nat) : Prop where
  tiles : IsTiling (free ∪ held) region
  apart : ∀ block ∈ free, block ∉ held
  bounded : ∀ block ∈ free ∪ held, ∃ outer ∈ top, block.Within outer
  unmerged : ∀ block ∈ free, block.buddy ∉ free

namespace BuddyTiling

variable {top free held : Set AlignedBlock} {region : Set Nat} {block : AlignedBlock}

theorem start (level : TopLevel top region) : BuddyTiling top top ∅ region where
  tiles := by simpa using level.tiles
  apart := by simp
  bounded := by
    intro block member
    exact ⟨block, by simpa using member, fun _ covered => covered⟩
  unmerged := level.unmerged

theorem take (system : BuddyTiling top free held region) (member : block ∈ free) :
    BuddyTiling top (free \ {block}) (insert block held) region := by
  have same : (free \ {block}) ∪ insert block held = free ∪ held := by grind
  constructor
  · exact same ▸ system.tiles
  · have apart := system.apart
    grind
  · exact same ▸ system.bounded
  · intro other otherFree
    have unmerged := system.unmerged other otherFree.1
    grind

theorem split (system : BuddyTiling top free held region) (member : block.parent ∈ held) :
    BuddyTiling top (insert block.buddy free) (insert block (held \ {block.parent})) region := by
  have parentNotFree : block.parent ∉ free := fun inFree => system.apart _ inFree member
  -- neither half is a piece yet, the parent covers their units
  have notPiece : ∀ half ∈ free ∪ held, half.Within block.parent → half = block.parent := by
    intro half piece within
    exact system.tiles.apart half piece _ (.inr member) half.start half.covers_start
      (within _ half.covers_start)
  have notOwn : block ∉ free ∪ held := by
    intro piece
    have orders := congrArg AlignedBlock.order (notPiece _ piece block.within_parent)
    simp at orders
  have notBuddy : block.buddy ∉ free ∪ held := by
    intro piece
    have orders := congrArg AlignedBlock.order (notPiece _ piece block.buddy_within_parent)
    simp at orders
  have different := block.buddy_ne
  constructor
  · refine @IsTiling.replace _ {block.parent} {block, block.buddy} _ _ system.tiles ?_ ?_ ?_ ?_
    · rintro _ rfl
      exact .inr member
    · intro unit
      simp [AlignedBlock.parent_covers]
    · intro one oneNew other otherNew unit covered otherCovered
      have apart : block.Covers unit → ¬ block.buddy.Covers unit := AlignedBlock.buddy_apart
      grind
    · intro piece
      grind
  · have apart := system.apart
    grind
  · intro piece pieceIn
    obtain ⟨outer, outerTop, within⟩ := system.bounded block.parent (.inr member)
    have kept := system.bounded piece
    by_cases own : piece = block
    · exact ⟨outer, outerTop, fun _ covered => within _ (block.within_parent _ (own ▸ covered))⟩
    · by_cases half : piece = block.buddy
      · exact ⟨outer, outerTop, fun _ covered => within _ (block.buddy_within_parent _ (half ▸ covered))⟩
      · exact kept (by grind)
  · intro piece pieceFree
    have unmerged := system.unmerged
    have twice := block.buddy_buddy
    have twicePiece := piece.buddy_buddy
    grind

theorem buddy_not_free_of_top (system : BuddyTiling top free held region)
    (level : TopLevel top region) (isTop : block ∈ top) : block.buddy ∉ free := by
  intro buddyFree
  obtain ⟨outer, outerTop, within⟩ := system.bounded _ (.inl buddyFree)
  rcases Nat.lt_or_eq_of_le (AlignedBlock.order_le_of_within within) with larger | sameOrder
  · have parentWithin := AlignedBlock.parent_within within larger
    have meets : outer.Covers block.start := by
      apply parentWithin
      rw [AlignedBlock.parent_covers, AlignedBlock.buddy_buddy]
      exact .inr block.covers_start
    have same := level.tiles.apart block isTop outer outerTop _ block.covers_start meets
    rw [← same] at larger
    simp at larger
  · have same := AlignedBlock.eq_of_covers sameOrder block.buddy.covers_start
      (within _ block.buddy.covers_start)
    exact level.unmerged block isTop (same ▸ outerTop)

theorem merge (system : BuddyTiling top free held region) (level : TopLevel top region)
    (member : block ∈ held) (buddyFree : block.buddy ∈ free) :
    BuddyTiling top (free \ {block.buddy}) (insert block.parent (held \ {block})) region := by
  have notTop : block ∉ top := fun isTop => system.buddy_not_free_of_top level isTop buddyFree
  have parentNotPiece : block.parent ∉ free ∪ held := by
    intro piece
    have same := system.tiles.apart _ piece block (.inr member) block.start
      (block.within_parent _ block.covers_start) block.covers_start
    have orders := congrArg AlignedBlock.order same
    simp at orders
  constructor
  · refine @IsTiling.replace _ {block, block.buddy} {block.parent} _ _ system.tiles ?_ ?_ ?_ ?_
    · rintro piece (rfl | rfl)
      · exact .inr member
      · exact .inl buddyFree
    · intro unit
      simp [AlignedBlock.parent_covers]
    · rintro _ rfl _ rfl _ _ _
      rfl
    · intro piece
      have apart := system.apart
      grind
  · have apart := system.apart
    grind
  · intro piece pieceIn
    have kept := system.bounded piece
    by_cases isParent : piece = block.parent
    · obtain ⟨outer, outerTop, within⟩ := system.bounded block (.inr member)
      refine ⟨outer, outerTop, isParent ▸ AlignedBlock.parent_within within ?_⟩
      rcases Nat.lt_or_eq_of_le (AlignedBlock.order_le_of_within within) with larger | sameOrder
      · exact larger
      · have same := AlignedBlock.eq_of_covers sameOrder block.covers_start
          (within _ block.covers_start)
        exact absurd (same ▸ outerTop) notTop
    · exact kept (by grind)
  · intro piece pieceFree
    have unmerged := system.unmerged piece pieceFree.1
    grind

theorem give (system : BuddyTiling top free held region) (member : block ∈ held) (buddyInUse : block.buddy ∉ free) :
    BuddyTiling top (insert block free) (held \ {block}) region := by
  have same : insert block free ∪ (held \ {block}) = free ∪ held := by grind
  constructor
  · exact same ▸ system.tiles
  · have apart := system.apart
    grind
  · exact same ▸ system.bounded
  · intro piece pieceFree
    have unmerged := system.unmerged piece
    have different := block.buddy_ne
    have twice := piece.buddy_buddy
    grind

/-- A block of the region that no held piece meets lies in one free piece: its free pieces
have merged. -/
theorem exists_free_within (system : BuddyTiling top free held region) (level : TopLevel top region)
    {outer : AlignedBlock} (isTop : outer ∈ top) (within : block.Within outer)
    (clear : ∀ piece ∈ held, ¬ block.Meets piece) : ∃ piece ∈ free, block.Within piece := by
  have filled (unit : Nat) (covered : block.Covers unit) : ∃ piece ∈ free, piece.Covers unit := by
    obtain ⟨piece, member, pieceCovers⟩ := system.tiles.covered unit
      (level.tiles.inside outer isTop unit (within unit covered))
    rcases member with isFree | isHeld
    · exact ⟨piece, isFree, pieceCovers⟩
    · exact absurd ⟨unit, covered, pieceCovers⟩ (clear piece isHeld)
  -- a smallest free piece inside the block would have a free buddy
  have noSmaller : ∀ order, ∀ piece ∈ free, piece.order = order → piece.Within block →
      block.order ≤ order := by
    intro order
    induction order using Nat.strong_induction_on with
    | _ order smallest =>
      rintro piece isFree rfl inside
      by_contra! smaller
      have buddyIn : block.Covers piece.buddy.start := AlignedBlock.parent_within inside smaller _
        (piece.buddy_within_parent _ piece.buddy.covers_start)
      obtain ⟨other, otherFree, otherCovers⟩ := filled _ buddyIn
      rcases Nat.lt_trichotomy other.order piece.order with below | same | above
      · have otherIn := AlignedBlock.within_of_covers (show other.order ≤ block.order by omega)
          otherCovers buddyIn
        have large := smallest other.order below other otherFree rfl otherIn
        omega
      · have isBuddy := AlignedBlock.eq_of_covers (show other.order = piece.buddy.order from same)
          otherCovers piece.buddy.covers_start
        exact system.unmerged piece isFree (isBuddy ▸ otherFree)
      · have parentIn := AlignedBlock.within_of_covers
          (show piece.parent.order ≤ other.order from above) (piece.buddy_within_parent _ piece.buddy.covers_start) otherCovers
        have same := system.tiles.apart piece (.inl isFree) other (.inl otherFree) _ piece.covers_start
          (parentIn _ (piece.within_parent _ piece.covers_start))
        rw [← same] at above
        simp at above
  obtain ⟨piece, isFree, covers⟩ := filled block.start block.covers_start
  refine ⟨piece, isFree, AlignedBlock.within_of_covers ?_ block.covers_start covers⟩
  rcases Nat.le_total block.order piece.order with large | small
  · exact large
  · exact noSmaller _ piece isFree rfl (AlignedBlock.within_of_covers small covers block.covers_start)

/-- The held pieces tell which pieces are free, however the system came to them. -/
theorem free_unique {others : Set AlignedBlock} (system : BuddyTiling top free held region)
    (other : BuddyTiling top others held region) (level : TopLevel top region) : free = others := by
  have subset {free others : Set AlignedBlock} (system : BuddyTiling top free held region)
      (other : BuddyTiling top others held region) : free ⊆ others := by
    have larger {first second : Set AlignedBlock} (one : BuddyTiling top first held region)
        (two : BuddyTiling top second held region) {block : AlignedBlock} (isFree : block ∈ first) :
        ∃ piece ∈ second, block.Within piece := by
      obtain ⟨outer, isTop, within⟩ := one.bounded block (.inl isFree)
      refine two.exists_free_within level isTop within fun piece isHeld ⟨unit, covered, pieceCovers⟩ => ?_
      have same := one.tiles.apart block (.inl isFree) piece (.inr isHeld) unit covered pieceCovers
      exact one.apart block isFree (same ▸ isHeld)
    intro block isFree
    obtain ⟨piece, pieceFree, within⟩ := larger system other isFree
    obtain ⟨back, backFree, inside⟩ := larger other system pieceFree
    have same := system.tiles.apart block (.inl isFree) back (.inl backFree) _ block.covers_start
      (inside _ (within _ block.covers_start))
    have order := Nat.le_antisymm (AlignedBlock.order_le_of_within within)
      (same ▸ AlignedBlock.order_le_of_within inside)
    exact AlignedBlock.eq_of_covers order block.covers_start (within _ block.covers_start) ▸ pieceFree
  exact Set.Subset.antisymm (subset system other) (subset other system)

end BuddyTiling

end Floid.Lib

/-! The largest-first tiling of an initial segment by aligned blocks: its binary expansion. -/

namespace Floid.Lib

def binaryBlock (length order : Nat) : AlignedBlock := ⟨order, 2 * (length / 2 ^ (order + 1))⟩

def binaryBlocks (length : Nat) : Set AlignedBlock :=
  {block | length / 2 ^ block.order % 2 = 1 ∧ block = binaryBlock length block.order}

theorem div_two_pow_succ (value order : Nat) : value / 2 ^ (order + 1) = value / 2 ^ order / 2 := by
  rw [Nat.pow_succ, Nat.div_div_eq_div_mul]

theorem binaryBlock_start (length order : Nat) :
    (binaryBlock length order).start = length / 2 ^ (order + 1) * 2 ^ (order + 1) := by
  rw [binaryBlock, AlignedBlock.start, Nat.mul_comm 2, Nat.mul_assoc, Nat.pow_succ, Nat.mul_comm 2]

variable {length : Nat}

theorem mem_binaryBlocks {order : Nat} :
    binaryBlock length order ∈ binaryBlocks length ↔ length / 2 ^ order % 2 = 1 := by
  simp [binaryBlocks, binaryBlock]

theorem exists_binaryBlock_covers (length unit : Nat) (inside : unit < length) :
    ∃ order, length / 2 ^ order % 2 = 1 ∧ (binaryBlock length order).Covers unit := by
  induction length using Nat.strong_induction_on generalizing unit with
  | _ length smaller =>
    by_cases same : unit / 2 = length / 2
    · refine ⟨0, by simp; omega, ?_⟩
      simp [binaryBlock, AlignedBlock.Covers]
      omega
    · obtain ⟨order, digit, covered⟩ := smaller (length / 2) (by omega) (unit / 2) (by omega)
      have shift (value digits : Nat) : value / 2 / 2 ^ digits = value / 2 ^ (digits + 1) := by
        rw [Nat.div_div_eq_div_mul, Nat.pow_succ, Nat.mul_comm]
      refine ⟨order + 1, by rwa [← shift], ?_⟩
      simp only [binaryBlock, AlignedBlock.Covers] at covered ⊢
      rw [← shift, covered, shift, div_two_pow_succ length (order + 1)]

theorem binaryBlock_order_le {unit order higher : Nat} (digit : length / 2 ^ higher % 2 = 1)
    (covered : (binaryBlock length order).Covers unit)
    (higherCovered : (binaryBlock length higher).Covers unit) : higher ≤ order := by
  by_contra larger
  simp only [binaryBlock, AlignedBlock.Covers] at covered higherCovered
  have sameAbove : unit / 2 ^ (order + 1) = length / 2 ^ (order + 1) := by
    rw [div_two_pow_succ unit, covered]
    omega
  have split (value : Nat) : value / 2 ^ higher = value / 2 ^ (order + 1) / 2 ^ (higher - (order + 1)) := by
    rw [Nat.div_div_eq_div_mul, ← Nat.pow_add, Nat.add_sub_cancel' (by omega)]
  rw [split unit, sameAbove, ← split] at higherCovered
  omega

theorem binaryBlocks_topLevel (length : Nat) : TopLevel (binaryBlocks length) (Set.Iio length) := by
  constructor
  · constructor
    · intro block member unit covered
      obtain ⟨digit, isBinary⟩ := member
      rw [isBinary] at covered
      simp only [binaryBlock, AlignedBlock.Covers] at covered
      rw [div_two_pow_succ] at covered
      exact Nat.lt_of_div_lt_div (show unit / 2 ^ block.order < length / 2 ^ block.order by omega)
    · intro unit inside
      obtain ⟨order, digit, covered⟩ := exists_binaryBlock_covers length unit inside
      exact ⟨_, mem_binaryBlocks.mpr digit, covered⟩
    · intro block member other otherMember unit covered otherCovered
      have below := binaryBlock_order_le otherMember.1 (member.2 ▸ covered)
        (otherMember.2 ▸ otherCovered)
      have above := binaryBlock_order_le member.1 (otherMember.2 ▸ otherCovered)
        (member.2 ▸ covered)
      exact AlignedBlock.eq_of_covers (by omega) covered otherCovered
  · intro block member buddyMember
    have parity := xor_one_mod_two block.index
    have even := congrArg AlignedBlock.index member.2
    have buddyEven := congrArg AlignedBlock.index buddyMember.2
    simp only [binaryBlock, AlignedBlock.buddy] at even buddyEven
    omega

end Floid.Lib
