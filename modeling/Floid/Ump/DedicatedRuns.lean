import Floid.Lib.Transition
import Floid.Ump.DedicatedBlocks

namespace Floid.Ump

open Floid.Osk Floid.Lib BlockAllocator
open List (flatten_cons length_append length_range length_reverse nodup_append reverse reverse_perm)

structure DedicatedPool where
  allocator : BlockAllocator
  mems : List DedicatedMem

inductive DedicatedAction where
  | allocate (request : DedicatedRequest) (sizeBytes : U32)
  | release (handle : DedicatedMem) (mutex : Bool)

inductive DedicatedStep : DedicatedPool → DedicatedAction → DedicatedPool → Prop where
  | allocated {pool request sizeBytes mem allocator}
      (ran : blockAllocatorAllocate request sizeBytes pool.allocator = some (mem, allocator)) :
      DedicatedStep pool (.allocate request sizeBytes) ⟨allocator, mem.toList ++ pool.mems⟩
  | released {pool handle mutex allocator before after} (out : pool.mems = before ++ handle :: after)
      (ran : blockAllocatorRelease mutex handle pool.allocator = some allocator) :
      DedicatedStep pool (.release handle mutex) ⟨allocator, before ++ after⟩

def dedicatedSystem (baseAddress size : U32) : TransitionSystem DedicatedPool DedicatedAction where
  initial pool := pool.mems = [] ∧
    ∃ links, BlockAllocator.create baseAddress size true links = some pool.allocator
  step := DedicatedStep

def ReleaseUninterrupted : DedicatedPool → DedicatedAction → Prop
  | _, .release _ mutex => mutex = true
  | _, .allocate _ _ => True

def RegionFits (baseAddress size : U32) : Prop :=
  size.toNat % 2 ^ 18 = 0 ∧ baseAddress.toNat + size.toNat < 2 ^ 32 + 2 ^ 18

def PhysicalBlock.Apart (first second : PhysicalBlock) : Prop :=
  first.addr.toNat + first.size.toNat ≤ second.addr.toNat ∨
    second.addr.toNat + second.size.toNat ≤ first.addr.toNat

def PhysicalBlock.Inside (baseAddress size : U32) (block : PhysicalBlock) : Prop :=
  baseAddress.toNat ≤ block.addr.toNat ∧ block.addr.toNat + block.size.toNat ≤ baseAddress.toNat + size.toNat

structure DedicatedPool.Contained (baseAddress size : U32) (pool : DedicatedPool) : Prop where
  inside : ∀ mem ∈ pool.mems, ∀ block ∈ mem.blockArray, block.Inside baseAddress size
  apart : (pool.mems.flatMap DedicatedMem.blockArray).Pairwise PhysicalBlock.Apart
  conserved : pool.allocator.numFree.toNat + (pool.mems.map fun mem => mem.blockArray.length).sum =
    pool.allocator.numBlocks.toNat
  counted : pool.allocator.freeList.length = pool.allocator.numFree.toNat
  returns : ∀ request sizeBytes, sizeBytes ≠ 0 →
    ∃ result, blockAllocatorAllocate request sizeBytes pool.allocator = some result
  refused : ∀ request sizeBytes allocator,
    blockAllocatorAllocate request sizeBytes pool.allocator = some (none, allocator) →
      allocator.freeList = pool.allocator.freeList ∧ allocator.numFree = pool.allocator.numFree

structure DedicatedPool.Books (baseAddress : U32) (pool : DedicatedPool) (free : List Nat)
    (held : List (List Nat)) : Prop where
  onFree : Chain pool.allocator.next pool.allocator.firstFree free
  mems : List.Forall₂ (fun mem blocks => Chain pool.allocator.next mem.backendInfo blocks ∧
    mem.blockArray = blocks.reverse.map pool.allocator.physicalBlock) pool.mems held
  partition : (free ++ held.flatten).Perm (List.range pool.allocator.numBlocks.toNat)
  numFree : pool.allocator.numFree = BitVec.ofNat 32 free.length
  base : pool.allocator.base = baseAddress

namespace DedicatedPool.Books

variable {baseAddress : U32} {pool : DedicatedPool} {free : List Nat} {held : List (List Nat)}
  (books : pool.Books baseAddress free held)

include books

theorem nodup : (free ++ held.flatten).Nodup := books.partition.nodup_iff.mpr List.nodup_range

theorem free_length_le : free.length ≤ pool.allocator.numBlocks.toNat := by
  have length := books.partition.length_eq
  rw [length_append, length_range] at length
  omega

theorem freeList_eq : pool.allocator.freeList = free := books.onFree.walk_eq books.free_length_le

theorem numFree_toNat : pool.allocator.numFree.toNat = free.length := by
  rw [books.numFree, BitVec.toNat_ofNat, Nat.mod_eq_of_lt (by have := books.free_length_le; omega)]

omit books in
theorem mems_kept {allocator : BlockAllocator} {mems : List DedicatedMem} {lists : List (List Nat)}
    (of : List.Forall₂ (fun mem blocks => Chain pool.allocator.next mem.backendInfo blocks ∧
      mem.blockArray = blocks.reverse.map pool.allocator.physicalBlock) mems lists)
    (base : allocator.base = pool.allocator.base)
    (same : ∀ block ∈ lists.flatten, allocator.next block = pool.allocator.next block) :
    List.Forall₂ (fun mem blocks => Chain allocator.next mem.backendInfo blocks ∧
      mem.blockArray = blocks.reverse.map allocator.physicalBlock) mems lists := by
  induction of with
  | nil => exact .nil
  | @cons mem blocks mems lists first rest ih =>
    refine .cons ⟨first.1.congr fun block member => same block ?_, ?_⟩
      (ih fun block member => same block ?_)
    · rw [flatten_cons]
      exact List.mem_append_left _ member
    · rw [first.2]
      refine List.map_congr_left fun block _ => ?_
      rw [BlockAllocator.physicalBlock, BlockAllocator.physicalBlock, BlockAllocator.getPhys,
        BlockAllocator.getPhys, base]
    · rw [flatten_cons]
      exact List.mem_append_right _ member

theorem allocate {request : DedicatedRequest} {sizeBytes : U32} {mem : Option DedicatedMem}
    {after : BlockAllocator} {now rest : List Nat}
    (allocated : Allocated request sizeBytes pool.allocator free mem after now rest) :
    DedicatedPool.Books baseAddress ⟨after, mem.toList ++ pool.mems⟩ rest
      ((mem.map fun _ => now.reverse).toList ++ held) := by
  have apart := List.disjoint_of_nodup_append books.nodup
  have numBlocks := allocated.numBlocks
  have kept := mems_kept books.mems allocated.base fun block member =>
    allocated.others block fun inFree => apart inFree member
  have numFree : after.numFree = BitVec.ofNat 32 rest.length := by
    have counted := allocated.numFree
    rw [books.numFree, allocated.split, length_append, BitVec.ofNat_add] at counted
    rw [BitVec.add_comm] at counted
    exact (BitVec.add_right_inj _).mp counted
  have base := allocated.base.trans books.base
  have partition := books.partition
  rw [allocated.split] at partition
  cases mem with
  | none =>
    obtain rfl := (allocated.refused rfl).1
    refine ⟨allocated.onFree, kept, ?_, numFree, base⟩
    dsimp only
    rw [numBlocks]
    exact partition
  | some new =>
    obtain ⟨chain, array, _⟩ := allocated.held new rfl
    refine ⟨allocated.onFree, .cons ⟨chain, ?_⟩ kept, ?_, numFree, base⟩
    · rw [array, List.reverse_reverse]
      refine List.map_congr_left fun block _ => ?_
      rw [BlockAllocator.physicalBlock, BlockAllocator.physicalBlock, BlockAllocator.getPhys,
        BlockAllocator.getPhys, allocated.base]
    · dsimp only
      rw [numBlocks]
      refine List.Perm.trans ?_ partition
      simp only [Option.map_some, Option.toList_some, List.cons_append, List.nil_append, flatten_cons]
      rw [← List.append_assoc]
      refine List.Perm.append_right _ (List.perm_append_comm.trans ?_)
      exact List.Perm.append_right _ (reverse_perm now)

theorem arrays_eq : pool.mems.flatMap DedicatedMem.blockArray =
    (held.flatMap reverse).map pool.allocator.physicalBlock := by
  have mems := books.mems
  clear books
  generalize pool.mems = mems at mems
  induction mems with
  | nil => rfl
  | cons first _ ih => rw [List.flatMap_cons, List.flatMap_cons, List.map_append, first.2, ih]

omit books in
theorem held_perm : (held.flatMap reverse).Perm held.flatten :=
  (List.Perm.flatMap_left held fun blocks _ => reverse_perm blocks).trans
    (.of_eq List.flatMap_id')

theorem release {handle : DedicatedMem} {before after : List DedicatedMem}
    {allocator : BlockAllocator} (out : pool.mems = before ++ handle :: after)
    (ran : blockAllocatorRelease true handle pool.allocator = some allocator) :
    allocator.numBlocks = pool.allocator.numBlocks ∧
      ∃ free held, DedicatedPool.Books baseAddress ⟨allocator, before ++ after⟩ free held := by
  have mems := books.mems
  rw [out] at mems
  obtain ⟨earlier, later, early, late, rfl⟩ : ∃ earlier later,
      List.Forall₂ _ before earlier ∧ List.Forall₂ _ (handle :: after) later ∧ held = earlier ++ later := by
    have early := List.forall₂_take before.length mems
    have late := List.forall₂_drop before.length mems
    rw [List.take_left] at early
    rw [List.drop_left] at late
    exact ⟨_, _, early, late, (List.take_append_drop _ _).symm⟩
  cases late with
  | @cons _ blocks _ later own late =>
    have whole := books.partition
    rw [List.flatten_append, flatten_cons] at whole
    have nodup := whole.nodup_iff.mpr List.nodup_range
    have apart : ∀ block ∈ blocks, block ∉ free := fun block member inFree =>
      List.disjoint_of_nodup_append nodup inFree (by simp [member])
    have room : blocks.length ≤ pool.allocator.numBlocks.toNat := by
      have length := whole.length_eq
      simp only [length_append, length_range] at length
      omega
    obtain ⟨next, firstFree, relinked, chain, others⟩ :=
      relink_spec own.1 books.onFree apart room
    have same : { pool.allocator with
        next
        firstFree
        numFree := pool.allocator.numFree + BitVec.ofNat 32 blocks.length } = allocator := by
      unfold blockAllocatorRelease at ran
      cases first : handle.backendInfo with
      | none => simp [first] at ran
      | some block =>
        rw [first] at relinked
        simpa [first, relinked] using ran
    subst same
    refine ⟨rfl, _, earlier ++ later, chain, List.rel_append ?_ ?_, ?_, ?_, books.base⟩
    · refine mems_kept early rfl fun block member => others block fun own => ?_
      have distinct := (nodup_append.mp nodup).2.1
      exact List.disjoint_of_nodup_append distinct member (List.mem_append_left _ own)
    · refine mems_kept late rfl fun block member => others block fun own => ?_
      have distinct := (nodup_append.mp (nodup_append.mp nodup).2.1).2.1
      exact List.disjoint_of_nodup_append distinct own member
    · rw [List.flatten_append]
      refine List.Perm.trans ?_ whole
      refine (List.Perm.append_right _ ((reverse_perm blocks).append_right free)).trans ?_
      grind
    · dsimp only
      rw [books.numFree, ← BitVec.ofNat_add, length_append, length_reverse, Nat.add_comm]

end DedicatedPool.Books

theorem newBooks (baseAddress numBlocks : U32) {lists : (Nat → Option Nat) × Option Nat}
    (chain : Chain lists.1 lists.2 (List.range numBlocks.toNat).reverse) :
    DedicatedPool.Books baseAddress ⟨⟨baseAddress, numBlocks, numBlocks, lists.1, lists.2⟩, []⟩
      (List.range numBlocks.toNat).reverse [] where
  onFree := chain
  mems := .nil
  partition := by simp
  numFree := by rw [length_reverse, length_range, BitVec.ofNat_toNat, BitVec.setWidth_eq]
  base := rfl

variable {allocator : BlockAllocator} {links : Nat → Option Nat} {size : U32} {baseAddress : U32}

theorem create_books (created : create baseAddress size true links = some allocator) :
    DedicatedPool.Books baseAddress ⟨allocator, []⟩
        (List.range allocator.numBlocks.toNat).reverse [] ∧
      allocator.numBlocks = wholeBlocks size / umpBlockSize := by
  unfold create at created
  by_cases usable : wholeBlocks size = 0
  · rw [if_pos usable] at created
    contradiction
  · rw [if_neg usable, if_pos rfl] at created
    obtain rfl := Option.some.inj created
    exact ⟨newBooks _ _ (Engine.BlockAllocator.linkBlocks_chain links _), rfl⟩

theorem create_exists (usable : wholeBlocks size ≠ 0) (baseAddress : U32) (links : Nat → Option Nat) :
    ∃ allocator, create baseAddress size true links = some allocator := by
  unfold create
  rw [if_neg usable, if_pos rfl]
  exact ⟨_, rfl⟩

theorem DedicatedPool.Books.step {before after : DedicatedPool}
    {action : DedicatedAction} {free : List Nat} {held : List (List Nat)}
    (books : before.Books baseAddress free held) (gets : ReleaseUninterrupted before action)
    (stepped : DedicatedStep before action after) :
    after.allocator.numBlocks = before.allocator.numBlocks ∧
      ∃ free held, after.Books baseAddress free held := by
  cases stepped with
  | @allocated request sizeBytes mem allocator ran =>
    have nonzero := blockAllocatorAllocate_nonzero ran
    obtain ⟨_, _, now, rest, same, allocated⟩ :=
      blockAllocatorAllocate_exists request nonzero books.onFree books.free_length_le
    rw [ran, Option.some.injEq, Prod.mk.injEq] at same
    obtain ⟨rfl, rfl⟩ := same
    exact ⟨allocated.numBlocks, _, _, books.allocate allocated⟩
  | released out ran =>
    obtain rfl := gets
    exact books.release out ran

variable {block : Nat}

theorem BlockAllocator.physicalBlock_addr (low : allocator.base.toNat + block * 2 ^ 18 < 2 ^ 32) :
    (allocator.physicalBlock block).addr.toNat = allocator.base.toNat + block * 2 ^ 18 := by
  rw [physicalBlock, getPhys, BitVec.toNat_add, BitVec.toNat_mul, BitVec.toNat_ofNat,
    show umpBlockSize.toNat = 2 ^ 18 from rfl, Nat.mod_eq_of_lt (by omega : block < 2 ^ 32),
    Nat.mod_eq_of_lt (by omega : block * 2 ^ 18 < 2 ^ 32), Nat.mod_eq_of_lt low]

theorem RegionFits.blocks {baseAddress numBlocks : U32} (fits : RegionFits baseAddress size)
    (count : numBlocks = wholeBlocks size / umpBlockSize)
    (inRegion : block < numBlocks.toNat) :
    baseAddress.toNat + block * 2 ^ 18 < 2 ^ 32 ∧ (block + 1) * 2 ^ 18 ≤ size.toNat := by
  obtain ⟨whole, inSpace⟩ := fits
  rw [count, nrBlocks_toNat] at inRegion
  omega

theorem DedicatedPool.Books.contained {pool : DedicatedPool}
    {free : List Nat} {held : List (List Nat)} (books : pool.Books baseAddress free held)
    (fits : RegionFits baseAddress size)
    (count : pool.allocator.numBlocks = wholeBlocks size / umpBlockSize) :
    pool.Contained baseAddress size := by
  have addr {block : Nat} (inRegion : block < pool.allocator.numBlocks.toNat) :
      (pool.allocator.physicalBlock block).addr.toNat = baseAddress.toNat + block * 2 ^ 18 := by
    rw [← books.base]
    refine physicalBlock_addr ?_
    rw [books.base]
    exact (fits.blocks count inRegion).1
  have bytes : umpBlockSize.toNat = 2 ^ 18 := rfl
  have below {block : Nat} (member : block ∈ held.flatMap reverse) :
      block < pool.allocator.numBlocks.toNat := by
    have inHeld := DedicatedPool.Books.held_perm.mem_iff.mp member
    exact List.mem_range.mp (books.partition.mem_iff.mp (List.mem_append_right _ inHeld))
  refine ⟨?_, ?_, ?_, ?_, ?_, ?_⟩
  · intro mem out block member
    have inArrays := List.mem_flatMap.mpr ⟨mem, out, member⟩
    rw [books.arrays_eq] at inArrays
    obtain ⟨index, inHeld, rfl⟩ := List.mem_map.mp inArrays
    have low := (fits.blocks count (below inHeld)).2
    rw [PhysicalBlock.Inside, addr (below inHeld), BlockAllocator.physicalBlock, bytes]
    omega
  · rw [books.arrays_eq, List.pairwise_map]
    have nodup := (nodup_append.mp books.nodup).2.1
    refine List.Pairwise.imp_of_mem ?_ (DedicatedPool.Books.held_perm.nodup_iff.mpr nodup)
    intro first second firstHeld secondHeld distinct
    rw [PhysicalBlock.Apart, addr (below firstHeld), addr (below secondHeld),
      BlockAllocator.physicalBlock, BlockAllocator.physicalBlock, bytes]
    omega
  · have length := books.partition.length_eq
    rw [length_append, length_range, ← DedicatedPool.Books.held_perm.length_eq] at length
    rw [← List.length_flatMap, books.arrays_eq, List.length_map, books.numFree_toNat, length]
  · rw [books.freeList_eq, books.numFree_toNat]
  · intro request sizeBytes nonzero
    obtain ⟨mem, after, _, _, ran, _⟩ :=
      blockAllocatorAllocate_exists request nonzero books.onFree books.free_length_le
    exact ⟨_, ran⟩
  · intro request sizeBytes allocator ran
    have nonzero := blockAllocatorAllocate_nonzero ran
    obtain ⟨_, _, now, rest, same, allocated⟩ :=
      blockAllocatorAllocate_exists request nonzero books.onFree books.free_length_le
    rw [ran, Option.some.injEq, Prod.mk.injEq] at same
    obtain ⟨rfl, rfl⟩ := same
    have nothing := (allocated.refused rfl).1
    have split := allocated.split
    rw [nothing, List.nil_append] at split
    have counted := allocated.numFree
    rw [nothing] at counted
    refine ⟨?_, (BitVec.add_zero _).symm.trans counted⟩
    rw [books.freeList_eq, split, freeList, allocated.numBlocks]
    refine allocated.onFree.walk_eq ?_
    rw [← split]
    exact books.free_length_le

theorem wholeRegion_allocated (usable : wholeBlocks size ≠ 0)
    (created : create baseAddress size true links = some allocator) :
    ∃ mem after, blockAllocatorAllocate ⟨true, true⟩ (wholeBlocks size) allocator = some (some mem, after) ∧
      mem.blockArray = (List.range allocator.numBlocks.toNat).reverse.map allocator.physicalBlock := by
  obtain ⟨books, count⟩ := create_books created
  have blocks := wholeBlocks_toNat size
  have number := nrBlocks_toNat (wholeBlocks size)
  have length : allocator.numBlocks.toNat * 2 ^ 18 = (wholeBlocks size).toNat := by
    rw [count, nrBlocks_toNat, blocks]
  have positive : (wholeBlocks size).toNat ≠ 0 :=
    fun zero => usable (BitVec.eq_of_toNat_eq zero)
  have some : wholeBlocks (wholeBlocks size) / umpBlockSize ≠ 0 := by
    intro zero
    rw [zero, show (0 : U32).toNat = 0 from rfl] at number
    have small := allocator.numBlocks.isLt
    omega
  obtain ⟨mem, after, now, rest, ran, allocated⟩ :=
    blockAllocatorAllocate_exists ⟨true, true⟩ usable books.onFree books.free_length_le
  have split := congrArg List.length allocated.split
  rw [length_reverse, length_range, length_append] at split
  cases mem with
  | none =>
    have short := (allocated.refused rfl).2 rfl rfl some
    rw [length_reverse, length_range, length] at short
    exact absurd short (Nat.lt_irrefl _)
  | some mem =>
    obtain ⟨_, array, enough⟩ := allocated.held mem rfl
    have none : rest = [] := List.eq_nil_of_length_eq_zero (by omega)
    have all := allocated.split
    rw [none, List.append_nil] at all
    exact ⟨mem, after, ran, by rw [array, ← all]⟩

theorem dedicated_books {pool : DedicatedPool}
    (reached : ((dedicatedSystem baseAddress size).restrict ReleaseUninterrupted).Reachable pool) :
    pool.allocator.numBlocks = wholeBlocks size / umpBlockSize ∧
      ∃ free held, pool.Books baseAddress free held := by
  induction reached with
  | @initial pool starts =>
    obtain ⟨nothing, links, created⟩ := starts
    obtain ⟨allocator, _⟩ := pool
    cases nothing
    obtain ⟨books, count⟩ := create_books created
    exact ⟨count, _, _, books⟩
  | step _ stepped ih =>
    obtain ⟨count, free, held, books⟩ := ih
    obtain ⟨same, next⟩ := books.step stepped.1 stepped.2
    exact ⟨same.trans count, next⟩

/-- While no release is interrupted, the backend keeps to its region and loses nothing
exactly when the region is whole blocks and does not go on beyond the last address. -/
theorem dedicatedBlocks_contained_iff (baseAddress size : U32) (usable : BlockAllocator.wholeBlocks size ≠ 0) :
    (∀ pool, ((dedicatedSystem baseAddress size).restrict ReleaseUninterrupted).Reachable pool →
      pool.Contained baseAddress size) ↔ RegionFits baseAddress size := by
  constructor
  · intro contained
    obtain ⟨allocator, created⟩ := create_exists usable baseAddress fun _ => none
    obtain ⟨books, count⟩ := create_books created
    obtain ⟨mem, after, ran, array⟩ := wholeRegion_allocated usable created
    have start : ((dedicatedSystem baseAddress size).restrict ReleaseUninterrupted).Reachable
        ⟨allocator, []⟩ := .initial ⟨rfl, _, created⟩
    have allocated : DedicatedStep ⟨allocator, []⟩
        (.allocate ⟨true, true⟩ (BlockAllocator.wholeBlocks size)) ⟨after, [mem]⟩ :=
      @DedicatedStep.allocated ⟨allocator, []⟩ _ _ (some mem) after ran
    have next := start.next (DedicatedAction.allocate ⟨true, true⟩ _) ⟨trivial, allocated⟩
    -- the block with the last index is the one that must not stick out
    have last := BlockAllocator.nrBlocks_toNat size
    have blocks := BlockAllocator.wholeBlocks_toNat size
    have positive : (BlockAllocator.wholeBlocks size).toNat ≠ 0 :=
      fun zero => usable (BitVec.eq_of_toNat_eq zero)
    rw [← count] at last
    have inArray : allocator.physicalBlock (allocator.numBlocks.toNat - 1) ∈ mem.blockArray := by
      rw [array]
      refine List.mem_map_of_mem (List.mem_reverse.mpr (List.mem_range.mpr ?_))
      omega
    have inside := (contained _ next).inside mem List.mem_cons_self _ inArray
    have base : allocator.base = baseAddress := books.base
    rw [PhysicalBlock.Inside, BlockAllocator.physicalBlock, BlockAllocator.getPhys, BitVec.toNat_add,
      BitVec.toNat_mul, BitVec.toNat_ofNat, base, show umpBlockSize.toNat = 2 ^ 18 from rfl] at inside
    have bound := size.isLt
    have low := baseAddress.isLt
    rw [RegionFits]
    omega
  · intro fits pool reached
    obtain ⟨count, free, held, books⟩ := dedicated_books reached
    exact books.contained fits count

def newBackend (baseAddress size : U32) (usable : BlockAllocator.wholeBlocks size ≠ 0) : DedicatedPool :=
  ⟨(BlockAllocator.create baseAddress size true fun _ => none).get
    (Option.isSome_iff_exists.mpr (create_exists usable _ _)), []⟩

theorem newBackend_initial {baseAddress size : U32} (usable : wholeBlocks size ≠ 0) :
    (dedicatedSystem baseAddress size).initial (newBackend baseAddress size usable) :=
  ⟨rfl, fun _ => none, (Option.some_get _).symm⟩

def DedicatedPool.allocate (pool : DedicatedPool) (sizeBytes : U32) : Option DedicatedPool :=
  (blockAllocatorAllocate ⟨true, true⟩ sizeBytes pool.allocator).map fun (mem, allocator) =>
    ⟨allocator, mem.toList ++ pool.mems⟩

theorem DedicatedPool.allocate_step {pool after : DedicatedPool} {sizeBytes : U32}
    (allocated : pool.allocate sizeBytes = some after) :
    DedicatedStep pool (.allocate ⟨true, true⟩ sizeBytes) after := by
  obtain ⟨result, ran, rfl⟩ := Option.map_eq_some_iff.mp allocated
  exact .allocated ran

theorem dedicatedBlocks_contained_twoBlocks :
    ∃ pool : DedicatedPool, pool.mems.length = 1 ∧ pool.allocator.freeList = [0] ∧
      pool.Contained 0x80000000#32 0x80000#32 := by
  have result : ((newBackend 0x80000000#32 0x80000#32 (by decide)).allocate 0x1000#32).map
      (fun pool => (pool.mems.length, pool.allocator.freeList)) = some (1, [0]) := by decide +kernel
  obtain ⟨pool, allocated, lists⟩ := Option.map_eq_some_iff.mp result
  obtain ⟨mems, free⟩ := Prod.mk.inj lists
  have start : ((dedicatedSystem 0x80000000#32 0x80000#32).restrict ReleaseUninterrupted).Reachable
      (newBackend 0x80000000#32 0x80000#32 (by decide)) := .initial (newBackend_initial _)
  have reached := start.next (DedicatedAction.allocate ⟨true, true⟩ _) ⟨trivial, DedicatedPool.allocate_step allocated⟩
  have fits : RegionFits 0x80000000#32 0x80000#32 := ⟨rfl, by decide⟩
  exact ⟨pool, mems, free, (dedicatedBlocks_contained_iff 0x80000000#32 0x80000#32 (by decide)).mpr fits pool reached⟩

/-- A region with one byte more than a block: the second of the blocks handed out is not
in the region. And after a release that is interrupted neither block is free, or anyone's. -/
theorem dedicatedBlocks_not_contained : ∃ taken lost, (dedicatedSystem 0 0x40001#32).Reachable taken ∧
      (∃ mem ∈ taken.mems, ∃ block ∈ mem.blockArray, ¬block.Inside 0 0x40001#32) ∧
      (dedicatedSystem 0 0x40001#32).Reachable lost ∧ lost.mems = [] ∧
        lost.allocator.numFree = 0 ∧ lost.allocator.numBlocks = 2 ∧
        ¬lost.Contained 0 0x40001#32 := by
  have result : ((newBackend 0 0x40001#32 (by decide)).allocate 0x80000#32).map (fun pool =>
      (pool.allocator.numFree, pool.allocator.numBlocks, pool.mems.map DedicatedMem.backendInfo)) =
      some (0, 2, [some 0]) := by decide +kernel
  have ends : ((newBackend 0 0x40001#32 (by decide)).allocate 0x80000#32).map (fun pool =>
      pool.mems.map fun mem => mem.blockArray.map fun block =>
        block.addr.toNat + block.size.toNat) = some [[0x80000, 0x40000]] := by decide +kernel
  obtain ⟨taken, allocated, shown⟩ := Option.map_eq_some_iff.mp result
  rw [allocated, Option.map_some, Option.some.injEq] at ends
  simp only [Prod.mk.injEq] at shown
  obtain ⟨numFree, numBlocks, shown⟩ := shown
  obtain ⟨mem, _, mems, held, others⟩ := List.map_eq_cons_iff.mp shown
  rw [List.map_eq_nil_iff] at others
  subst others
  rw [mems, List.map_singleton, List.singleton_inj] at ends
  obtain ⟨block, rest, blocks, last, _⟩ := List.map_eq_cons_iff.mp ends
  have inArray : block ∈ mem.blockArray := by simp [blocks]
  have outside : ¬block.Inside 0 0x40001#32 := by
    rw [PhysicalBlock.Inside, last]
    exact fun inside => absurd inside.2 (by decide)
  have start : (dedicatedSystem 0 0x40001#32).Reachable (newBackend 0 0x40001#32 (by decide)) :=
    .initial (newBackend_initial _)
  have reached := start.next _ (DedicatedPool.allocate_step allocated)
  have interrupted : blockAllocatorRelease false mem taken.allocator = some taken.allocator := by
    rw [blockAllocatorRelease, held]
    rfl
  have released : DedicatedStep taken (.release mem false) ⟨taken.allocator, []⟩ :=
    @DedicatedStep.released taken mem false taken.allocator [] [] mems interrupted
  have gone : (dedicatedSystem 0 0x40001#32).Reachable ⟨taken.allocator, []⟩ :=
    reached.next _ released
  refine ⟨taken, _, reached, ⟨mem, by simp [mems], block, inArray, outside⟩, gone, rfl, numFree,
    numBlocks, fun contained => ?_⟩
  have conserved := contained.conserved
  dsimp only at conserved
  rw [numFree, numBlocks] at conserved
  exact absurd conserved (by decide)

end Floid.Ump
