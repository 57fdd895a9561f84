import Floid.Engine.BlockLists
import Floid.Lib.Transition

namespace Floid.Engine

open Floid.Osk Floid.Lib AllocationLoop BlockAllocator

structure BlockPool where
  allocator : BlockAllocator
  handles : List BlockAllocation
  tables : List PageTableMemory

inductive BlockAction where
  | allocate (request : BlockRequest) (size offset : U32)
  | release (handle : BlockAllocation) (mutex : Bool)
  | allocatePageTableBlock (mutex mapped : Bool)
  | releasePageTableBlock (memory : PageTableMemory) (mutex : Bool)

inductive BlockStep : BlockPool → BlockAction → BlockPool → Prop where
  | allocated {pool request size offset outcome} (inside : offset ≤ size)
      (ran : blockAllocatorAllocate request size offset pool.allocator = some outcome) :
      BlockStep pool (.allocate request size offset)
        { pool with allocator := outcome.allocator, handles := outcome.handle.toList ++ pool.handles }
  | released {pool handle mutex allocator before after} (out : pool.handles = before ++ handle :: after)
      (ran : blockAllocatorRelease mutex handle pool.allocator = some allocator) :
      BlockStep pool (.release handle mutex) ⟨allocator, before ++ after, pool.tables⟩
  | tableAllocated {pool mutex mapped result memory allocator}
      (ran : blockAllocatorAllocatePageTableBlock mutex mapped pool.allocator = (result, memory, allocator)) :
      BlockStep pool (.allocatePageTableBlock mutex mapped)
        ⟨allocator, pool.handles, memory.toList ++ pool.tables⟩
  | tableReleased {pool memory mutex allocator before after}
      (out : pool.tables = before ++ memory :: after)
      (ran : blockAllocatorReleasePageTableBlock mutex memory pool.allocator = some allocator) :
      BlockStep pool (.releasePageTableBlock memory mutex) ⟨allocator, pool.handles, before ++ after⟩

def blockSystem : TransitionSystem BlockPool BlockAction where
  initial pool := pool.handles = [] ∧ pool.tables = [] ∧ ∃ base cpuUsageAdjust size links,
    BlockAllocator.create base cpuUsageAdjust size true links = some pool.allocator
  step := BlockStep

def GetsMutex : BlockPool → BlockAction → Prop
  | _, .release _ mutex => mutex = true
  | _, .releasePageTableBlock _ mutex => mutex = true
  | _, _ => True

structure BlockPool.Partitioned (pool : BlockPool) : Prop where
  free : Chain pool.allocator.next pool.allocator.firstFree pool.allocator.freeList
  handles : ∀ handle ∈ pool.handles, Chain pool.allocator.next handle.lastAllocated
    (pool.allocator.blocksOf handle.lastAllocated)
  tables : ∀ memory ∈ pool.tables, Chain pool.allocator.next (some memory.handle) [memory.handle]
  partition : (pool.allocator.freeList ++
      pool.handles.flatMap (fun handle => pool.allocator.blocksOf handle.lastAllocated) ++
      pool.tables.map PageTableMemory.handle).Perm (List.range pool.allocator.numBlocks)

namespace BlockAllocator

variable {allocator other : BlockAllocator} {list : Option Nat} {blocks : List Nat}

theorem blocksOf_eq (chain : Chain allocator.next list blocks)
    (enough : blocks.length ≤ allocator.numBlocks) : allocator.blocksOf list = blocks :=
  chain.walk_eq enough

theorem blocksOf_kept (chain : Chain allocator.next list (allocator.blocksOf list))
    (range : other.numBlocks = allocator.numBlocks)
    (same : ∀ block ∈ allocator.blocksOf list, other.next block = allocator.next block) :
    Chain other.next list (allocator.blocksOf list) ∧ other.blocksOf list = allocator.blocksOf list := by
  have kept := chain.congr same
  refine ⟨kept, blocksOf_eq kept ?_⟩
  rw [range]
  exact Chain.walk_length_le _ _ _

end BlockAllocator

namespace BlockPool.Partitioned

variable {pool : BlockPool} (partitioned : pool.Partitioned)

include partitioned

theorem nodup : (pool.allocator.freeList ++
      pool.handles.flatMap (fun handle => pool.allocator.blocksOf handle.lastAllocated) ++
      pool.tables.map PageTableMemory.handle).Nodup :=
  partitioned.partition.nodup_iff.mpr List.nodup_range

theorem handle_apart {handle : BlockAllocation} (out : handle ∈ pool.handles) {block : Nat}
    (member : block ∈ pool.allocator.blocksOf handle.lastAllocated) :
    block ∉ pool.allocator.freeList := by
  intro free
  have apart := List.disjoint_of_nodup_append (List.nodup_append.mp partitioned.nodup).1
  exact apart free (List.mem_flatMap.mpr ⟨handle, out, member⟩)

theorem table_apart {memory : PageTableMemory} (out : memory ∈ pool.tables) :
    memory.handle ∉ pool.allocator.freeList := by
  intro free
  exact List.disjoint_of_nodup_append partitioned.nodup (List.mem_append_left _ free)
    (List.mem_map_of_mem out)

theorem others_kept {allocator : BlockAllocator} (range : allocator.numBlocks = pool.allocator.numBlocks)
    (same : ∀ block, block ∉ pool.allocator.freeList → allocator.next block = pool.allocator.next block) :
    (∀ handle ∈ pool.handles, Chain allocator.next handle.lastAllocated
        (pool.allocator.blocksOf handle.lastAllocated) ∧
      allocator.blocksOf handle.lastAllocated = pool.allocator.blocksOf handle.lastAllocated) ∧
    ∀ memory ∈ pool.tables, Chain allocator.next (some memory.handle) [memory.handle] := by
  refine ⟨fun handle out => ?_, fun memory out => ?_⟩
  · exact BlockAllocator.blocksOf_kept (partitioned.handles handle out) range
      fun block member => same block (partitioned.handle_apart out member)
  · refine (partitioned.tables memory out).congr fun block member => same block ?_
    rw [List.mem_singleton.mp member]
    exact partitioned.table_apart out

end BlockPool.Partitioned

/-- What a call of `block_allocator_allocate` has to come to: without a handle the free
blocks are the same as before, and with one its blocks are the pieces mapped, which
begin at the offset and are as long as the handle says. -/
structure BlockOutcome.Exact (allocator : BlockAllocator) (size offset : U32)
    (outcome : BlockOutcome) : Prop where
  refused : outcome.handle = none →
    (outcome.result = .allocNone ∧ outcome.offset = offset ∨ outcome.result = .allocInternalFailure) ∧
      outcome.allocator.freeList.Perm allocator.freeList
  mapped : ∀ handle, outcome.handle = some handle →
    handle.startOffset = offset ∧
      outcome.allocator.blocksOf handle.lastAllocated = (outcome.pieces.map Piece.block).reverse ∧
      allocator.Tiles offset.toNat outcome.pieces (offset.toNat + handle.mappingLength.toNat) ∧
      outcome.offset.toNat = offset.toNat + handle.mappingLength.toNat
  finished : ∀ handle, outcome.handle = some handle →
    (outcome.result = .allocFinished ∨ outcome.result = .allocPartial) ∧
      (outcome.result = .allocFinished ↔ outcome.offset = size)

def BlockPool.SameBlocks (pool : BlockPool) (allocator : BlockAllocator) (handles : List BlockAllocation) : Prop :=
  ∀ handle ∈ handles, allocator.blocksOf handle.lastAllocated = pool.allocator.blocksOf handle.lastAllocated

namespace BlockPool.Partitioned

variable {pool : BlockPool} (partitioned : pool.Partitioned)

include partitioned

theorem handOut {allocator : BlockAllocator} {handle : Option BlockAllocation} {taken rest : List Nat}
    (range : allocator.numBlocks = pool.allocator.numBlocks)
    (same : ∀ block, block ∉ pool.allocator.freeList → allocator.next block = pool.allocator.next block)
    (free : Chain allocator.next allocator.firstFree rest)
    (held : ∀ new, handle = some new → Chain allocator.next new.lastAllocated taken)
    (unheld : handle = none → taken = [])
    (split : (rest ++ taken).Perm pool.allocator.freeList) :
    BlockPool.Partitioned ⟨allocator, handle.toList ++ pool.handles, pool.tables⟩ ∧ allocator.freeList = rest ∧
      (∀ new, handle = some new → allocator.blocksOf new.lastAllocated = taken) ∧
      pool.SameBlocks allocator pool.handles := by
  obtain ⟨handlesKept, tablesKept⟩ := partitioned.others_kept range same
  have enough : rest.length + taken.length ≤ allocator.numBlocks := by
    rw [← List.length_append, split.length_eq, range]
    exact Chain.walk_length_le _ _ _
  have freeList : allocator.freeList = rest := BlockAllocator.blocksOf_eq free (by omega)
  have new (new : BlockAllocation) (made : handle = some new) : allocator.blocksOf new.lastAllocated = taken :=
    BlockAllocator.blocksOf_eq (held new made) (by omega)
  refine ⟨⟨?_, ?_, tablesKept, ?_⟩, freeList, new, fun other out => (handlesKept other out).2⟩
  · rw [freeList]
    exact free
  · intro other out
    rcases List.mem_append.mp out with made | old
    · have made := Option.mem_toList.mp made
      rw [new other made]
      exact held other made
    · rw [(handlesKept other old).2]
      exact (handlesKept other old).1
  · have kept : pool.handles.flatMap (fun handle => allocator.blocksOf handle.lastAllocated) =
        pool.handles.flatMap (fun handle => pool.allocator.blocksOf handle.lastAllocated) :=
      List.flatMap_congr fun other out => (handlesKept other out).2
    have own : handle.toList.flatMap (fun handle => allocator.blocksOf handle.lastAllocated) = taken := by
      cases handle with
      | none => exact (unheld rfl).symm
      | some made => simp [new made rfl]
    rw [freeList, List.flatMap_append, kept, own, range, ← List.append_assoc]
    exact ((split.append_right _).append_right _).trans partitioned.partition

variable {offset size : U32}

theorem filled (inside : offset.toNat ≤ size.toNat) {after : AllocationLoop} {now rest : List Nat} {new : List Piece}
    (range : SameRange pool.allocator after.allocator)
    (same : ∀ block, block ∉ pool.allocator.freeList → after.allocator.next block = pool.allocator.next block)
    (filled : Filled ⟨pool.allocator, none, offset, size - offset, 0, []⟩ after []
      pool.allocator.freeList now rest new) :
    (after.finish offset false).Exact pool.allocator size offset ∧
      BlockPool.Partitioned ⟨(after.finish offset false).allocator,
        (after.finish offset false).handle.toList ++ pool.handles, pool.tables⟩ ∧
      pool.SameBlocks (after.finish offset false).allocator pool.handles := by
  have lists := filled.lists
  rw [List.append_nil] at lists
  have moved : after.offset.toNat + after.left.toNat = size.toNat := by
    have total := filled.total
    dsimp only at total
    rw [BitVec.toNat_sub_of_le (BitVec.le_def.mpr inside)] at total
    omega
  cases last : after.lastAllocated with
  | none =>
    have nothing : now = [] := by
      have chain := lists.onTaken
      rw [last] at chain
      exact List.reverse_eq_nil_iff.mp (chain.eq_nil_iff.mpr rfl)
    have shape : after.finish offset false = ⟨.allocNone, after.allocator, after.offset, none, []⟩ := by
      rw [finish, last]
      rfl
    have free : pool.allocator.freeList = rest := by rw [filled.split, nothing, List.nil_append]
    obtain ⟨next, freeList, _, kept⟩ := @handOut pool partitioned _ none [] rest range.numBlocks
      same lists.onFree (by simp) (fun _ => rfl) (by rw [List.append_nil, free])
    have unmoved : after.offset = offset := by
      have none := filled.blocks
      rw [nothing, List.map_eq_nil_iff] at none
      have tiles := filled.tiles
      rw [none] at tiles
      exact (BitVec.eq_of_toNat_eq tiles).symm
    rw [shape]
    refine ⟨⟨fun _ => ⟨.inl ⟨rfl, unmoved⟩, ?_⟩, by simp, by simp⟩, next, kept⟩
    rw [freeList, free]
  | some block =>
    have shape : after.finish offset false =
        ⟨if after.left = 0 then .allocFinished else .allocPartial, after.allocator, after.offset,
          some ⟨some block, offset, after.mappingLength⟩, after.pieces⟩ := by
      rw [finish, last]
    have chain := lists.onTaken
    rw [last] at chain
    obtain ⟨next, freeList, own, kept⟩ := @handOut pool partitioned _
      (some ⟨some block, offset, after.mappingLength⟩) _ _ range.numBlocks same lists.onFree
      (fun _ made => by cases made; exact chain) (by simp)
      (by rw [filled.split]
          exact List.perm_append_comm.trans ((List.reverse_perm now).append_right rest))
    have above : offset.toNat ≤ after.offset.toNat := filled.tiles.le
    have length : after.mappingLength.toNat = after.offset.toNat - offset.toNat := by
      rw [filled.length, ← BitVec.toNat_sub_of_le (BitVec.le_def.mpr above)]
      exact congrArg BitVec.toNat (BitVec.zero_add _)
    have ends : offset.toNat + after.mappingLength.toNat = after.offset.toNat := by omega
    have pieces : after.pieces = new := filled.pieces
    rw [shape]
    refine ⟨⟨by simp, ?_, ?_⟩, next, kept⟩
    · rintro _ ⟨rfl⟩
      refine ⟨rfl, ?_, ?_, ends.symm⟩
      · rw [own _ rfl, pieces, filled.blocks]
      · rw [ends, pieces]
        exact filled.tiles
    · rintro _ _
      have same : after.left = 0 ↔ after.offset = size := by
        rw [← BitVec.toNat_inj, ← BitVec.toNat_inj, show (0 : U32).toNat = 0 from rfl]
        omega
      dsimp only
      rw [← same]
      split
      · rename_i zero
        exact ⟨.inl rfl, fun _ => zero, fun _ => rfl⟩
      · rename_i nonzero
        exact ⟨.inr rfl, fun equal => by simp at equal, fun zero => absurd zero nonzero⟩

theorem allocate (request : BlockRequest) (inside : offset ≤ size) :
    ∃ outcome, blockAllocatorAllocate request size offset pool.allocator = some outcome ∧
      outcome.Exact pool.allocator size offset ∧
      BlockPool.Partitioned
        ⟨outcome.allocator, outcome.handle.toList ++ pool.handles, pool.tables⟩ ∧
      pool.SameBlocks outcome.allocator pool.handles := by
  unfold blockAllocatorAllocate
  split
  · split
    · have room : pool.allocator.freeList.length ≤ pool.allocator.numBlocks :=
        Chain.walk_length_le _ _ _
      have bounded : offset.toNat + (size - offset).toNat < 2 ^ 32 := by
        have := size.isLt
        rw [BitVec.toNat_sub_of_le inside]
        rw [BitVec.le_def] at inside
        omega
      have lists : Lists ⟨pool.allocator, none, offset, size - offset, 0, []⟩ []
          pool.allocator.freeList :=
        ⟨partitioned.free, .nil, by simp, by simpa using room, bounded⟩
      obtain ⟨failed, after, ran, range, others, ended⟩ :=
        @AllocationLoop.run_spec request.mapPhysical _ _ _ _ lists room
      rw [ran, Option.map_some]
      refine ⟨after.finish offset failed, rfl, ?_⟩
      have same := fun block => others block List.not_mem_nil
      rcases ended with ⟨rfl, now, rest, new, filled⟩ | ⟨rfl, restored, back⟩
      · exact partitioned.filled (BitVec.le_def.mp inside) range same filled
      · have shape : after.finish offset true =
            ⟨.allocInternalFailure, after.allocator, after.offset, none, []⟩ := by
          rw [finish, back.none]
          rfl
        have perm : restored.Perm pool.allocator.freeList := back.same
        obtain ⟨next, freeList, _, kept⟩ := @handOut pool partitioned _ none [] restored
          range.numBlocks same back.onFree (by simp) (fun _ => rfl) (by rwa [List.append_nil])
        rw [shape]
        exact ⟨⟨fun _ => ⟨.inr rfl, by rwa [freeList]⟩, by simp, by simp⟩, next, kept⟩
    · exact ⟨_, rfl, ⟨fun _ => ⟨.inl ⟨rfl, rfl⟩, .refl _⟩, by simp, by simp⟩, partitioned, fun _ _ => rfl⟩
  · exact ⟨_, rfl, ⟨fun _ => ⟨.inr rfl, .refl _⟩, by simp, by simp⟩, partitioned, fun _ _ => rfl⟩

theorem takeBack {list : Option Nat} {blocks : List Nat} {handles : List BlockAllocation}
    {tables : List PageTableMemory} (chain : Chain pool.allocator.next list blocks)
    (handlesOut : ∀ handle ∈ handles, handle ∈ pool.handles)
    (tablesOut : ∀ memory ∈ tables, memory ∈ pool.tables)
    (split : (pool.handles.flatMap (fun handle => pool.allocator.blocksOf handle.lastAllocated) ++
        pool.tables.map PageTableMemory.handle).Perm
      (blocks ++ (handles.flatMap (fun handle => pool.allocator.blocksOf handle.lastAllocated) ++
        tables.map PageTableMemory.handle))) :
    ∃ allocator, pool.allocator.relink list = some allocator ∧
      BlockPool.Partitioned ⟨allocator, handles, tables⟩ ∧ pool.SameBlocks allocator handles := by
  have whole : (pool.allocator.freeList ++ (blocks ++
      (handles.flatMap (fun handle => pool.allocator.blocksOf handle.lastAllocated) ++
        tables.map PageTableMemory.handle))).Perm (List.range pool.allocator.numBlocks) := by
    have partition := partitioned.partition
    rw [List.append_assoc] at partition
    exact (split.symm.append_left _).trans partition
  have nodup := whole.nodup_iff.mpr List.nodup_range
  have fromFree := List.disjoint_of_nodup_append nodup
  have fromRest := List.disjoint_of_nodup_append (List.nodup_append.mp nodup).2.1
  have room : (blocks.reverse ++ pool.allocator.freeList).length ≤ pool.allocator.numBlocks := by
    have lengths := whole.length_eq
    simp only [List.length_append, List.length_range, List.length_reverse] at lengths ⊢
    omega
  have enough : blocks.length ≤ pool.allocator.numBlocks := by
    rw [List.length_append, List.length_reverse] at room
    omega
  obtain ⟨next, firstFree, ran, linked, others⟩ := relink_spec chain
    partitioned.free (fun block member free => fromFree free (List.mem_append_left _ member)) enough
  have freeList : ({ pool.allocator with next, firstFree } : BlockAllocator).freeList =
      blocks.reverse ++ pool.allocator.freeList := BlockAllocator.blocksOf_eq linked room
  have handlesKept (handle : BlockAllocation) (out : handle ∈ handles) :=
    @BlockAllocator.blocksOf_kept pool.allocator { pool.allocator with next, firstFree } _
      (partitioned.handles handle (handlesOut handle out)) rfl fun block member =>
        others block fun inBlocks => fromRest inBlocks
          (List.mem_append_left _ (List.mem_flatMap.mpr ⟨handle, out, member⟩))
  refine ⟨_, ran, ⟨?_, fun handle out => ?_, fun memory out => ?_, ?_⟩, fun handle out => (handlesKept handle out).2⟩
  · rw [freeList]
    exact linked
  · rw [(handlesKept handle out).2]
    exact (handlesKept handle out).1
  · refine (partitioned.tables memory (tablesOut memory out)).congr fun block member => ?_
    rw [List.mem_singleton.mp member]
    exact others _ fun inBlocks => fromRest inBlocks
      (List.mem_append_right _ (List.mem_map_of_mem out))
  · have kept : handles.flatMap (fun handle =>
          ({ pool.allocator with next, firstFree } : BlockAllocator).blocksOf handle.lastAllocated) =
        handles.flatMap (fun handle => pool.allocator.blocksOf handle.lastAllocated) :=
      List.flatMap_congr fun handle out => (handlesKept handle out).2
    rw [freeList, kept, List.append_assoc]
    refine List.Perm.trans ?_ whole
    rw [← List.append_assoc pool.allocator.freeList]
    exact ((List.reverse_perm blocks).append_right _ |>.trans List.perm_append_comm).append_right _

theorem release {handle : BlockAllocation} {before after : List BlockAllocation}
    (out : pool.handles = before ++ handle :: after) :
    ∃ allocator, blockAllocatorRelease true handle pool.allocator = some allocator ∧
      BlockPool.Partitioned ⟨allocator, before ++ after, pool.tables⟩ ∧
      pool.SameBlocks allocator (before ++ after) := by
  refine partitioned.takeBack (partitioned.handles handle (by simp [out])) (fun other member => ?_)
    (fun _ member => member) ?_
  · rw [out]
    rcases List.mem_append.mp member with early | late
    · exact List.mem_append_left _ early
    · exact List.mem_append_right _ (List.mem_cons_of_mem _ late)
  · rw [out, ← List.append_assoc]
    refine List.Perm.append_right _ ?_
    rw [List.flatMap_append, List.flatMap_append, List.flatMap_cons]
    exact List.perm_append_comm_assoc _ _ _

theorem releasePageTableBlock {memory : PageTableMemory} {before after : List PageTableMemory}
    (out : pool.tables = before ++ memory :: after) :
    ∃ allocator, blockAllocatorReleasePageTableBlock true memory pool.allocator = some allocator ∧
      BlockPool.Partitioned ⟨allocator, pool.handles, before ++ after⟩ ∧
      pool.SameBlocks allocator pool.handles := by
  refine partitioned.takeBack (partitioned.tables memory (by simp [out])) (fun _ member => member)
    (fun other member => ?_) ?_
  · rw [out]
    rcases List.mem_append.mp member with early | late
    · exact List.mem_append_left _ early
    · exact List.mem_append_right _ (List.mem_cons_of_mem _ late)
  · rw [out, List.map_append, List.map_append, List.map_cons]
    refine (List.Perm.append_left _ List.perm_middle).trans ?_
    exact List.perm_middle

theorem handOutTable {block : Nat} (first : pool.allocator.firstFree = some block) :
    BlockPool.Partitioned ⟨pool.allocator.unlinkFirst block none, pool.handles,
        ⟨block, pool.allocator.getPhys block, blockSize⟩ :: pool.tables⟩ ∧
      pool.SameBlocks (pool.allocator.unlinkFirst block none) pool.handles := by
  obtain ⟨rest, free⟩ : ∃ rest, pool.allocator.freeList = block :: rest := by
    have head := partitioned.free.head_eq
    rw [first] at head
    exact List.head?_eq_some_iff.mp head.symm
  have chain := partitioned.free
  rw [free, first] at chain
  have onRest := chain.tail.update (List.nodup_cons.mp chain.nodup).1 none
  have same (other : Nat) (notFree : other ∉ pool.allocator.freeList) :
      (pool.allocator.unlinkFirst block none).next other = pool.allocator.next other := by
    rw [free, List.mem_cons, not_or] at notFree
    exact Function.update_of_ne notFree.1 _ _
  obtain ⟨handlesKept, tablesKept⟩ := @others_kept pool partitioned
    (pool.allocator.unlinkFirst block none) rfl same
  have room : rest.length ≤ pool.allocator.numBlocks := by
    have length := Chain.walk_length_le pool.allocator.next pool.allocator.numBlocks
      pool.allocator.firstFree
    change pool.allocator.freeList.length ≤ _ at length
    rw [free, List.length_cons] at length
    omega
  have freeList : (pool.allocator.unlinkFirst block none).freeList = rest :=
    BlockAllocator.blocksOf_eq onRest room
  refine ⟨⟨?_, fun handle out => ?_, fun memory out => ?_, ?_⟩, fun handle out => (handlesKept handle out).2⟩
  · rw [freeList]
    exact onRest
  · rw [(handlesKept handle out).2]
    exact (handlesKept handle out).1
  · rcases List.mem_cons.mp out with rfl | old
    · refine .cons ?_
      dsimp only [unlinkFirst]
      rw [Function.update_self]
      exact .nil
    · exact tablesKept memory old
  · have kept := List.flatMap_congr fun handle out => (handlesKept handle out).2
    have partition := partitioned.partition
    rw [free] at partition
    rw [freeList, kept, List.map_cons]
    exact List.perm_middle.trans partition

theorem allocatePageTableBlock (mutex mapped : Bool) {result : AllocationResult}
    {memory : Option PageTableMemory} {allocator : BlockAllocator}
    (ran : blockAllocatorAllocatePageTableBlock mutex mapped pool.allocator = (result, memory, allocator)) :
    BlockPool.Partitioned ⟨allocator, pool.handles, memory.toList ++ pool.tables⟩ ∧
      pool.SameBlocks allocator pool.handles := by
  unfold blockAllocatorAllocatePageTableBlock at ran
  split at ran
  · split at ran
    · rename_i block first
      split at ran
      · cases ran
        exact partitioned.handOutTable first
      · cases ran
        exact ⟨partitioned, fun _ _ => rfl⟩
    · cases ran
      exact ⟨partitioned, fun _ _ => rfl⟩
  · cases ran
    exact ⟨partitioned, fun _ _ => rfl⟩

end BlockPool.Partitioned

theorem partitioned_of_chain {allocator : BlockAllocator} {blocks : List Nat}
    (chain : Chain allocator.next allocator.firstFree blocks)
    (all : blocks.Perm (List.range allocator.numBlocks)) :
    BlockPool.Partitioned ⟨allocator, [], []⟩ := by
  have room : blocks.length ≤ allocator.numBlocks := by
    rw [all.length_eq, List.length_range]
  have freeList : allocator.freeList = blocks := BlockAllocator.blocksOf_eq chain room
  refine ⟨?_, by simp, by simp, ?_⟩
  · rw [freeList]
    exact chain
  · simpa [freeList] using all

theorem create_partitioned {base cpuUsageAdjust size : U32} {available : Bool}
    {links : Nat → Option Nat} {allocator : BlockAllocator}
    (created : create base cpuUsageAdjust size available links = some allocator) :
    BlockPool.Partitioned ⟨allocator, [], []⟩ := by
  unfold create at created
  dsimp only at created
  split at created
  · cases created
  · split at created
    · cases created
      exact partitioned_of_chain (linkBlocks_chain links _) (List.reverse_perm _)
    · cases created

theorem BlockPool.Partitioned.step {before after : BlockPool} {action : BlockAction}
    (partitioned : before.Partitioned) (gets : GetsMutex before action)
    (stepped : BlockStep before action after) : after.Partitioned := by
  cases stepped with
  | @allocated request size offset outcome inside ran =>
    obtain ⟨result, resultRan, _, next, _⟩ := partitioned.allocate request inside
    rw [ran, Option.some.injEq] at resultRan
    rwa [resultRan]
  | released out ran =>
    obtain ⟨result, resultRan, next, _⟩ := partitioned.release out
    obtain rfl := gets
    rw [ran, Option.some.injEq] at resultRan
    rwa [resultRan]
  | tableAllocated ran => exact (partitioned.allocatePageTableBlock _ _ ran).1
  | tableReleased out ran =>
    obtain ⟨result, resultRan, next, _⟩ := partitioned.releasePageTableBlock out
    obtain rfl := gets
    rw [ran, Option.some.injEq] at resultRan
    rwa [resultRan]

/-- While every release gets the mutex, no block is ever lost or handed out twice, and
every allocation comes to an end: with the free blocks it found, or with a handle whose
pieces follow each other from its offset on and which is complete exactly when no
bytes are left. -/
theorem blockAllocator_conserved {pool : BlockPool} (reached : (blockSystem.restrict GetsMutex).Reachable pool) :
    pool.Partitioned ∧ ∀ request size offset, offset ≤ size →
      ∃ outcome, blockAllocatorAllocate request size offset pool.allocator = some outcome ∧
        outcome.Exact pool.allocator size offset := by
  have partitioned : pool.Partitioned := by
    refine reached.invariant (fun pool starts => ?_) fun _ _ _ holds stepped =>
      holds.step stepped.1 stepped.2
    obtain ⟨handles, tables, base, cpuUsageAdjust, size, links, created⟩ := starts
    obtain ⟨allocator, _, _⟩ := pool
    cases handles
    cases tables
    exact create_partitioned created
  refine ⟨partitioned, fun request size offset inside => ?_⟩
  obtain ⟨outcome, ran, exact, _⟩ := partitioned.allocate request inside
  exact ⟨outcome, ran, exact⟩

def oneBlock : BlockPool :=
  ⟨(BlockAllocator.create 0x80000000#32 0 0x40000#32 true fun _ => some 7).get rfl, [], []⟩

theorem oneBlock_initial : blockSystem.initial oneBlock :=
  ⟨rfl, rfl, 0x80000000#32, 0, 0x40000#32, fun _ => some 7, rfl⟩

def undisturbed : BlockRequest := ⟨true, true, fun _ _ _ _ => true⟩

def pageOutcome : BlockOutcome :=
  (blockAllocatorAllocate undisturbed 0x1000#32 0 oneBlock.allocator).get rfl

def pageTaken : BlockPool := ⟨pageOutcome.allocator, pageOutcome.handle.toList, []⟩

theorem oneBlock_allocates : BlockStep oneBlock (.allocate undisturbed 0x1000#32 0) pageTaken :=
  .allocated (by decide) (Option.some_get _).symm

theorem blockAllocator_conserved_released :
    ∃ pool : BlockPool, pool.handles = [] ∧ pool.allocator.freeList = [0] ∧ pool.Partitioned ∧
      ∀ request size offset, offset ≤ size →
        ∃ outcome, blockAllocatorAllocate request size offset pool.allocator = some outcome ∧
          outcome.Exact pool.allocator size offset := by
  have taken : (blockSystem.restrict GetsMutex).Reachable pageTaken :=
    TransitionSystem.Reachable.next (.allocate undisturbed 0x1000#32 0) (.initial oneBlock_initial)
      ⟨trivial, oneBlock_allocates⟩
  have back : (blockAllocatorRelease true ⟨some 0, 0, 0x1000#32⟩ pageOutcome.allocator).map
      BlockAllocator.freeList = some [0] := by decide
  obtain ⟨allocator, released, free⟩ := Option.map_eq_some_iff.mp back
  have given : (blockSystem.restrict GetsMutex).Reachable ⟨allocator, [], []⟩ :=
    taken.next (.release ⟨some 0, 0, 0x1000#32⟩ true) ⟨rfl, @BlockStep.released pageTaken _ true allocator [] [] rfl released⟩
  exact ⟨⟨allocator, [], []⟩, rfl, free, blockAllocator_conserved given⟩

/-- A release whose wait for the mutex is interrupted: the block is neither free nor
anyone's. -/
theorem blockAllocator_loses_block :
    ∃ pool : BlockPool, blockSystem.Reachable pool ∧ pool.handles = [] ∧ pool.tables = [] ∧
      pool.allocator.numBlocks = 1 ∧ pool.allocator.freeList = [] ∧ ¬pool.Partitioned := by
  have taken : blockSystem.Reachable pageTaken :=
    TransitionSystem.Reachable.next (.allocate undisturbed 0x1000#32 0) (.initial oneBlock_initial)
      oneBlock_allocates
  have lost : blockSystem.Reachable ⟨pageOutcome.allocator, [], []⟩ :=
    taken.next (.release ⟨some 0, 0, 0x1000#32⟩ false) (@BlockStep.released pageTaken _ false _ [] [] rfl rfl)
  refine ⟨_, lost, rfl, rfl, rfl, rfl, fun partitioned => ?_⟩
  exact absurd partitioned.partition.length_eq (by decide)

end Floid.Engine
