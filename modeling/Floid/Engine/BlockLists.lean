import Floid.Engine.BlockAllocator

namespace Floid.Engine

open Osk Lib
open BitVec (le_def lt_def)

def BlockAllocator.Tiles (allocator : BlockAllocator) : Nat → List Piece → Nat → Prop
  | start, [], stop => start = stop
  | start, piece :: rest, stop =>
      piece.offset.toNat = start ∧
        piece.phys = allocator.getPhys piece.block + BitVec.ofNat 32 (start % 2 ^ 18) ∧
        start % 2 ^ 18 + piece.size.toNat ≤ 2 ^ 18 ∧
        allocator.Tiles (start + piece.size.toNat) rest stop

namespace BlockAllocator

variable {allocator : BlockAllocator}

theorem linkBlocks_chain (links : Nat → Option Nat) (count : Nat) :
    Chain (linkBlocks links count).1 (linkBlocks links count).2 (List.range count).reverse := by
  induction count with
  | zero => exact .nil
  | succ count ih =>
    rw [List.range_succ, List.reverse_append]
    exact ih.push (by simp)

theorem relink_spec {list : Option Nat} {blocks free : List Nat} (chain : Chain allocator.next list blocks)
    (onto : Chain allocator.next allocator.firstFree free)
    (apart : ∀ block ∈ blocks, block ∉ free) (enough : blocks.length ≤ allocator.numBlocks) :
    ∃ next firstFree, allocator.relink list = some { allocator with next, firstFree } ∧
      Chain next firstFree (blocks.reverse ++ free) ∧
      ∀ block ∉ blocks, next block = allocator.next block := by
  obtain ⟨next, firstFree, ran, linked, others⟩ := moveAll_spec chain onto apart enough
  exact ⟨next, firstFree, by rw [relink, ran]; rfl, linked, others⟩

variable {start stop : Nat} {pieces : List Piece}

theorem Tiles.append {middle : Nat} {first second : List Piece}
    (earlier : allocator.Tiles start first middle) (later : allocator.Tiles middle second stop) :
    allocator.Tiles start (first ++ second) stop := by
  induction first generalizing start with
  | nil =>
    obtain rfl : start = middle := earlier
    exact later
  | cons piece rest ih =>
    obtain ⟨offset, phys, fits, tail⟩ := earlier
    exact ⟨offset, phys, fits, ih tail⟩

theorem Tiles.le (tiles : allocator.Tiles start pieces stop) : start ≤ stop := by
  induction pieces generalizing start with
  | nil => exact Nat.le_of_eq tiles
  | cons piece rest ih => exact (Nat.le_add_right _ _).trans (ih tiles.2.2.2)

theorem Tiles.congr {other : BlockAllocator} (same : other.base = allocator.base)
    (tiles : allocator.Tiles start pieces stop) :
    other.Tiles start pieces stop := by
  induction pieces generalizing start with
  | nil => exact tiles
  | cons piece rest ih =>
    obtain ⟨offset, phys, fits, tail⟩ := tiles
    refine ⟨offset, ?_, fits, ih tail⟩
    rw [phys, getPhys, getPhys, same]

end BlockAllocator

namespace AllocationLoop

variable {mapPhysical : MapPhysical} {loop after : AllocationLoop}

theorem padding_toNat (offset : U32) : (padding offset).toNat = offset.toNat % 2 ^ 18 := by
  rw [padding, BitVec.toNat_and, show (blockSize - 1).toNat = 2 ^ 18 - 1 from rfl, Nat.and_two_pow_sub_one_eq_mod]

theorem currentMappingSize_toNat (offset left : U32) :
    (currentMappingSize offset left).toNat = min (2 ^ 18 - offset.toNat % 2 ^ 18) left.toNat := by
  have padded := padding_toNat offset
  have small : offset.toNat % 2 ^ 18 < 2 ^ 18 := Nat.mod_lt _ (by omega)
  have block : blockSize.toNat = 2 ^ 18 := rfl
  have rest : (blockSize - padding offset).toNat = 2 ^ 18 - offset.toNat % 2 ^ 18 := by
    rw [BitVec.toNat_sub_of_le (by rw [le_def, padded, block]; omega), padded, block]
  rw [currentMappingSize]
  split
  · rename_i less
    rw [lt_def, rest] at less
    omega
  · rename_i less
    rw [lt_def, rest] at less
    omega

structure Lists (loop : AllocationLoop) (taken free : List Nat) : Prop where
  onFree : Chain loop.allocator.next loop.allocator.firstFree free
  onTaken : Chain loop.allocator.next loop.lastAllocated taken
  apart : ∀ block ∈ taken, block ∉ free
  room : taken.length + free.length ≤ loop.allocator.numBlocks
  inside : loop.offset.toNat + loop.left.toNat < 2 ^ 32

variable {rest taken : List Nat}

variable {block : Nat}

theorem Lists.take (lists : loop.Lists taken (block :: rest)) :
    Chain (loop.take block).allocator.next (loop.take block).allocator.firstFree rest ∧
      Chain (loop.take block).allocator.next (some block) (block :: taken) ∧
      ∀ other ∈ block :: taken, other ∉ rest := by
  have nodup := List.nodup_cons.mp lists.onFree.nodup
  have absent : block ∉ taken := fun member => lists.apart block member List.mem_cons_self
  refine ⟨lists.onFree.tail.update nodup.1 _, lists.onTaken.push absent, fun other member => ?_⟩
  rcases List.mem_cons.mp member with rfl | earlier
  · exact nodup.1
  · exact fun inRest => lists.apart other earlier (List.mem_cons_of_mem _ inRest)

structure Filled (loop after : AllocationLoop) (taken free now rest : List Nat) (new : List Piece) : Prop where
  split : free = now ++ rest
  lists : after.Lists (now.reverse ++ taken) rest
  pieces : after.pieces = loop.pieces ++ new
  blocks : new.map Piece.block = now
  tiles : loop.allocator.Tiles loop.offset.toNat new after.offset.toNat
  total : after.offset.toNat + after.left.toNat = loop.offset.toNat + loop.left.toNat
  length : after.mappingLength = loop.mappingLength + (after.offset - loop.offset)
  exhausted : after.left = 0 ∨ rest = []

structure Restored (after : AllocationLoop) (taken free : List Nat) (restored : List Nat) : Prop where
  onFree : Chain after.allocator.next after.allocator.firstFree restored
  same : restored.Perm (taken ++ free)
  none : after.lastAllocated = none

structure SameRange (before after : BlockAllocator) : Prop where
  base : after.base = before.base
  cpuUsageAdjust : after.cpuUsageAdjust = before.cpuUsageAdjust
  numBlocks : after.numBlocks = before.numBlocks

theorem Lists.advance (lists : loop.Lists taken (block :: rest)) (more : 0 < loop.left) :
    let piece := loop.nextPiece block
    let next := (loop.take block).advance piece
    next.Lists (block :: taken) rest ∧ loop.allocator.Tiles loop.offset.toNat [piece] next.offset.toNat ∧
      next.offset.toNat + next.left.toNat = loop.offset.toNat + loop.left.toNat := by
  have inside := lists.inside
  have size := currentMappingSize_toNat loop.offset loop.left
  have small : loop.offset.toNat % 2 ^ 18 < 2 ^ 18 := Nat.mod_lt _ (by omega)
  rw [lt_def, show (0 : U32).toNat = 0 from rfl] at more
  have moved : (loop.offset + (loop.nextPiece block).size).toNat =
      loop.offset.toNat + (loop.nextPiece block).size.toNat := by
    rw [BitVec.toNat_add, nextPiece, size]
    omega
  have remaining : (loop.left - (loop.nextPiece block).size).toNat =
      loop.left.toNat - (loop.nextPiece block).size.toNat := by
    refine BitVec.toNat_sub_of_le ?_
    rw [le_def, nextPiece, size]
    omega
  have least : (loop.nextPiece block).size.toNat ≤ loop.left.toNat := by
    rw [nextPiece, size]
    omega
  obtain ⟨free, chain, apart⟩ := lists.take
  have room := lists.room
  have total : (loop.offset + (loop.nextPiece block).size).toNat +
      (loop.left - (loop.nextPiece block).size).toNat = loop.offset.toNat + loop.left.toNat := by
    rw [moved, remaining]
    omega
  refine ⟨⟨free, chain, apart, ?_, total.trans_lt inside⟩, ⟨rfl, ?_, ?_, moved.symm⟩, total⟩
  · simp only [List.length_cons] at room ⊢
    change _ ≤ loop.allocator.numBlocks
    omega
  · rw [← padding_toNat, BitVec.ofNat_toNat, BitVec.setWidth_eq]
    rfl
  · rw [nextPiece, size]
    omega

theorem Filled.cons {taken free now rest : List Nat} {block : Nat} {new : List Piece}
    (filled : ((loop.take block).advance (loop.nextPiece block)).Filled after (block :: taken) free now rest new)
    (tiles : loop.allocator.Tiles loop.offset.toNat [loop.nextPiece block]
      ((loop.take block).advance (loop.nextPiece block)).offset.toNat)
    (total : ((loop.take block).advance (loop.nextPiece block)).offset.toNat +
      ((loop.take block).advance (loop.nextPiece block)).left.toNat = loop.offset.toNat + loop.left.toNat) :
    loop.Filled after taken (block :: free) (block :: now) rest (loop.nextPiece block :: new) where
  split := by rw [filled.split, List.cons_append]
  lists := by
    rw [List.reverse_cons, List.append_assoc]
    exact filled.lists
  pieces := by
    rw [filled.pieces]
    exact List.append_assoc _ _ _
  blocks := by rw [List.map_cons, filled.blocks]; rfl
  tiles := by
    refine tiles.append (BlockAllocator.Tiles.congr ?_ filled.tiles)
    rfl
  total := filled.total.trans total
  length := by
    rw [filled.length]
    simp only [advance, take]
    grind
  exhausted := filled.exhausted

theorem run_spec {fuel : Nat} {taken free : List Nat} (lists : loop.Lists taken free) (enough : free.length ≤ fuel) :
    ∃ failed after, run mapPhysical fuel loop = some (failed, after) ∧
      SameRange loop.allocator after.allocator ∧
      (∀ block, block ∉ taken → block ∉ free → after.allocator.next block = loop.allocator.next block) ∧
      ((failed = false ∧ ∃ now rest new, loop.Filled after taken free now rest new) ∨
        (failed = true ∧ ∃ restored, after.Restored taken free restored)) := by
  induction free generalizing loop taken fuel with
  | nil =>
    have empty : loop.allocator.firstFree = none := lists.onFree.eq_nil_iff.mp rfl
    refine ⟨false, loop, ?_, ⟨rfl, rfl, rfl⟩, fun _ _ _ => rfl, .inl ⟨rfl, [], [], [], ?_⟩⟩
    · unfold run
      split
      · rw [empty]
      · rfl
    · exact ⟨rfl, lists, (List.append_nil _).symm, rfl, rfl, rfl, by simp, .inr rfl⟩
  | cons block rest ih =>
    cases fuel with
    | zero => simp at enough
    | succ fuel =>
      have head : loop.allocator.firstFree = some block := lists.onFree.head_eq
      unfold run
      by_cases more : 0 < loop.left
      · rw [if_pos more, head]
        dsimp only
        by_cases made : mapPhysical (loop.nextPiece block).offset (loop.nextPiece block).phys
            loop.allocator.cpuUsageAdjust (loop.nextPiece block).size
        · rw [if_pos made]
          obtain ⟨next, tiles, total⟩ := lists.advance more
          obtain ⟨failed, after, ran, range, others, ended⟩ :=
            ih next (Nat.le_of_succ_le_succ enough)
          refine ⟨failed, after, ran, { range with },
            fun other notTaken notFree => ?_, ?_⟩
          · rw [List.mem_cons, not_or] at notFree
            rw [others other (by simp [notFree.1, notTaken]) notFree.2]
            exact Function.update_of_ne notFree.1 _ _
          · rcases ended with ⟨rfl, now, kept, new, filled⟩ | ⟨rfl, restored, back⟩
            · exact .inl ⟨rfl, _, _, _, filled.cons tiles total⟩
            · exact .inr ⟨rfl, restored, back.onFree, back.same.trans List.perm_middle.symm, back.none⟩
        · rw [if_neg made]
          obtain ⟨onFree, onTaken, apart⟩ := lists.take
          have room := lists.room
          have fits : (block :: taken).length ≤ loop.allocator.numBlocks := by
            simp only [List.length_cons] at room ⊢
            omega
          obtain ⟨links, firstFree, returned, chain, others⟩ :=
            BlockAllocator.relink_spec onTaken onFree apart fits
          refine ⟨true, { loop.take block with
            allocator := { (loop.take block).allocator with next := links, firstFree }
            lastAllocated := none }, ?_, ⟨rfl, rfl, rfl⟩, fun other notTaken notFree => ?_,
            .inr ⟨rfl, _, chain, ?_, rfl⟩⟩
          · exact congrArg (Option.map _) returned
          · rw [List.mem_cons, not_or] at notFree
            refine (others other (by simp [notFree.1, notTaken])).trans ?_
            exact Function.update_of_ne notFree.1 _ _
          · refine ((List.reverse_perm _).append_right rest).trans ?_
            exact List.perm_middle.symm
      · have ended : loop.left = 0 := by
          rw [lt_def, show (0 : U32).toNat = 0 from rfl] at more
          exact BitVec.eq_of_toNat_eq (by rw [show (0 : U32).toNat = 0 from rfl]; omega)
        rw [if_neg more]
        refine ⟨false, loop, rfl, ⟨rfl, rfl, rfl⟩, fun _ _ _ => rfl, .inl ⟨rfl, [], block :: rest, [], ?_⟩⟩
        exact ⟨rfl, lists, (List.append_nil _).symm, rfl, rfl, rfl, by simp, .inl ended⟩

end AllocationLoop

end Floid.Engine
