import Floid.Engine.MemoryEngine

namespace Floid.Engine

open Osk Lib
open BitVec (le_def toNat_add)
open Function (update_of_ne update_self)

variable {allocator : BlockAllocator}

theorem BlockPool.Partitioned.perm {handles others : List BlockAllocation}
    {tables : List PageTableMemory} (partitioned : BlockPool.Partitioned ⟨allocator, handles, tables⟩)
    (same : handles.Perm others) : BlockPool.Partitioned ⟨allocator, others, tables⟩ where
  __ := partitioned
  handles handle out := partitioned.handles handle (same.mem_iff.mpr out)
  partition := by
    refine List.Perm.trans ?_ partitioned.partition
    exact ((same.symm.flatMap_right _).append_left _).append_right _

namespace AllocationLoop

variable {mapPhysical : MapPhysical} {fuel : Nat} {loop after : AllocationLoop} {failed : Bool}

theorem advance_total (block : Nat) (inside : loop.offset.toNat + loop.left.toNat < 2 ^ 32) :
    let next := (loop.take block).advance (loop.nextPiece block)
    next.offset.toNat + next.left.toNat = loop.offset.toNat + loop.left.toNat := by
  have size := currentMappingSize_toNat loop.offset loop.left
  have least : (currentMappingSize loop.offset loop.left).toNat ≤ loop.left.toNat := by omega
  dsimp only [advance, take, nextPiece]
  rw [BitVec.toNat_sub_of_le (le_def.mpr least), toNat_add]
  omega

theorem run_total (ran : run mapPhysical fuel loop = some (failed, after))
    (inside : loop.offset.toNat + loop.left.toNat < 2 ^ 32) :
    SameRange loop.allocator after.allocator ∧
      after.offset.toNat + after.left.toNat = loop.offset.toNat + loop.left.toNat := by
  induction fuel generalizing loop with
  | zero =>
    unfold run at ran
    split at ran
    · split at ran
      · cases ran
        exact ⟨⟨rfl, rfl, rfl⟩, rfl⟩
      · cases ran
      · rename_i zero
        cases zero
    · cases ran
      exact ⟨⟨rfl, rfl, rfl⟩, rfl⟩
  | succ fuel ih =>
    unfold run at ran
    split at ran
    · split at ran
      · cases ran
        exact ⟨⟨rfl, rfl, rfl⟩, rfl⟩
      · rename_i zero
        cases zero
      · rename_i _ block _ _ equal
        injection equal with same
        subst same
        dsimp only at ran
        split at ran
        · have moved := advance_total block inside
          obtain ⟨range, total⟩ := ih ran (moved.trans_lt inside)
          exact ⟨{ range with }, total.trans moved⟩
        · obtain ⟨allocator, relinked, same⟩ := Option.map_eq_some_iff.mp ran
          obtain ⟨links, _, rfl⟩ := Option.map_eq_some_iff.mp relinked
          cases same
          exact ⟨⟨rfl, rfl, rfl⟩, rfl⟩
    · cases ran
      exact ⟨⟨rfl, rfl, rfl⟩, rfl⟩

end AllocationLoop

theorem blockAllocatorAllocate_inside {request : BlockRequest} {size offset : U32}
    {outcome : BlockOutcome} (inside : offset ≤ size)
    (ran : blockAllocatorAllocate request size offset allocator = some outcome) :
    AllocationLoop.SameRange allocator outcome.allocator ∧ outcome.offset ≤ size := by
  unfold blockAllocatorAllocate at ran
  split at ran
  · split at ran
    · obtain ⟨⟨failed, after⟩, looped, rfl⟩ := Option.map_eq_some_iff.mp ran
      have rest : (size - offset).toNat = size.toNat - offset.toNat := BitVec.toNat_sub_of_le inside
      have below := le_def.mp inside
      have width := size.isLt
      obtain ⟨range, total⟩ := AllocationLoop.run_total looped (by dsimp only; omega)
      have ends : after.offset ≤ size := by
        rw [le_def]
        dsimp only at total
        omega
      cases last : after.lastAllocated with
      | none =>
        simp only [AllocationLoop.finish, last]
        exact ⟨range, ends⟩
      | some block =>
        simp only [AllocationLoop.finish, last]
        exact ⟨range, ends⟩
    · cases ran
      exact ⟨⟨rfl, rfl, rfl⟩, inside⟩
  · cases ran
    exact ⟨⟨rfl, rfl, rfl⟩, inside⟩

theorem blockAllocatorRelease_sameRange {mutex : Bool} {handle : BlockAllocation} {allocator after : BlockAllocator}
    (ran : blockAllocatorRelease mutex handle allocator = some after) :
    AllocationLoop.SameRange allocator after := by
  unfold blockAllocatorRelease at ran
  split at ran
  · obtain ⟨links, _, rfl⟩ := Option.map_eq_some_iff.mp ran
    exact ⟨rfl, rfl, rfl⟩
  · cases ran
    exact ⟨rfl, rfl, rfl⟩

theorem blockAllocatorAllocatePageTableBlock_sameRange {mutex mapped : Bool} {result : AllocationResult}
    {memory : Option PageTableMemory} {after : BlockAllocator}
    (ran : blockAllocatorAllocatePageTableBlock mutex mapped allocator = (result, memory, after)) :
    AllocationLoop.SameRange allocator after := by
  unfold blockAllocatorAllocatePageTableBlock at ran
  split at ran
  · split at ran
    · split at ran
      · cases ran
        exact ⟨rfl, rfl, rfl⟩
      · cases ran
        exact ⟨rfl, rfl, rfl⟩
    · cases ran
      exact ⟨rfl, rfl, rfl⟩
  · cases ran
    exact ⟨rfl, rfl, rfl⟩

namespace Tracker

def blockHandle (index : Nat) : Tracker → Option BlockAllocation
  | .block other handle => if other = index then some handle else none
  | .os _ _ => none

def osPages (index : Nat) : Tracker → Nat
  | .block _ _ => 0
  | .os other handle => if other = index then handle.numPages else 0

def pageOffsets (intoUserspace : Bool) : Tracker → List U32
  | .block _ _ => []
  | .os _ handle => handle.pageOffsets intoUserspace

def start : Tracker → Nat
  | .block _ handle => handle.startOffset.toNat
  | .os _ handle => handle.offsetStart.toNat

def length : Tracker → Nat
  | .block _ handle => handle.mappingLength.toNat
  | .os _ handle => 0x1000 * handle.numPages

end Tracker

def blockHandles (index : Nat) (held : List Tracker) : List BlockAllocation :=
  held.filterMap (Tracker.blockHandle index)

structure PhysicalMemory.Holds (memory : PhysicalMemory) (tables : Nat → List PageTableMemory)
    (tablePages : Nat → Nat) (held : List Tracker) : Prop where
  pools : ∀ index, BlockPool.Partitioned
    ⟨memory.blocks index, blockHandles index held, tables index⟩
  pages : ∀ index, (memory.os index).numPagesAllocated =
    tablePages index + (held.map (Tracker.osPages index)).sum

structure PhysicalMemory.Kept (before after : PhysicalMemory) (held : List Tracker) : Prop where
  range : ∀ index, AllocationLoop.SameRange (before.blocks index) (after.blocks index)
  blocks : ∀ index, ∀ handle ∈ blockHandles index held,
    (after.blocks index).blocksOf handle.lastAllocated = (before.blocks index).blocksOf handle.lastAllocated

namespace PhysicalMemory

variable {memory middle after : PhysicalMemory} {tables : Nat → List PageTableMemory}
  {tablePages : Nat → Nat} {held others : List Tracker}

theorem Kept.refl : memory.Kept memory held :=
  ⟨fun _ => ⟨rfl, rfl, rfl⟩, fun _ _ _ => rfl⟩

theorem Kept.trans (first : memory.Kept middle held) (second : middle.Kept after held) : memory.Kept after held where
  range index :=
    ⟨(second.range index).base.trans (first.range index).base,
      (second.range index).cpuUsageAdjust.trans (first.range index).cpuUsageAdjust,
      (second.range index).numBlocks.trans (first.range index).numBlocks⟩
  blocks index handle member :=
    (second.blocks index handle member).trans (first.blocks index handle member)

theorem Kept.fewer (kept : memory.Kept after held)
    (fewer : ∀ tracker ∈ others, tracker ∈ held) : memory.Kept after others where
  range := kept.range
  blocks index handle member := by
    obtain ⟨tracker, inOthers, is⟩ := List.mem_filterMap.mp member
    exact kept.blocks index handle (List.mem_filterMap.mpr ⟨tracker, fewer tracker inOthers, is⟩)

theorem Holds.perm (holds : memory.Holds tables tablePages held) (same : held.Perm others) :
    memory.Holds tables tablePages others where
  pools index := (holds.pools index).perm (same.filterMap _)
  pages index := (holds.pages index).trans (by rw [(same.map _).sum_nat])

@[simp] theorem setBlocks_same (index : Nat) (allocator : BlockAllocator) :
    (memory.setBlocks index allocator).blocks index = allocator :=
  update_self _ _ _

variable {index : Nat} {allocator : BlockAllocator}

variable {other : Nat}

@[simp] theorem setBlocks_other (different : other ≠ index)
    (allocator : BlockAllocator) :
    (memory.setBlocks index allocator).blocks other = memory.blocks other :=
  update_of_ne different _ _

@[simp] theorem setBlocks_os (index : Nat) (allocator : BlockAllocator) :
    (memory.setBlocks index allocator).os = memory.os := rfl

@[simp] theorem setOs_same (index : Nat) (allocator : OsAllocator) :
    (memory.setOs index allocator).os index = allocator :=
  update_self _ _ _

@[simp] theorem setOs_other (different : other ≠ index)
    (allocator : OsAllocator) : (memory.setOs index allocator).os other = memory.os other :=
  update_of_ne different _ _

theorem setBlocks_kept (range : AllocationLoop.SameRange (memory.blocks index) allocator)
    (same : ∀ handle ∈ blockHandles index held, allocator.blocksOf handle.lastAllocated =
      (memory.blocks index).blocksOf handle.lastAllocated) :
    memory.Kept (memory.setBlocks index allocator) held where
  range other := by
    by_cases this : other = index
    · subst this
      rw [setBlocks_same]
      exact range
    · rw [setBlocks_other this]
      exact ⟨rfl, rfl, rfl⟩
  blocks other handle member := by
    by_cases this : other = index
    · subst this
      rw [setBlocks_same]
      exact same handle member
    · rw [setBlocks_other this]

theorem Holds.setBlocks {blocks : List PageTableMemory} (holds : memory.Holds tables tablePages held)
    (pool : BlockPool.Partitioned ⟨allocator, blockHandles index held, blocks⟩) :
    (memory.setBlocks index allocator).Holds (Function.update tables index blocks) tablePages
      held where
  pools other := by
    by_cases same : other = index
    · subst same
      rw [setBlocks_same, update_self]
      exact pool
    · rw [setBlocks_other same, update_of_ne same]
      exact holds.pools other
  pages := holds.pages

theorem setOs_kept (index : Nat) (allocator : OsAllocator) : memory.Kept (memory.setOs index allocator) held :=
  ⟨fun _ => ⟨rfl, rfl, rfl⟩, fun _ _ _ => rfl⟩

theorem Holds.setOs {count : Nat} {allocator : OsAllocator} (holds : memory.Holds tables tablePages held)
    (counted : allocator.numPagesAllocated + tablePages index = (memory.os index).numPagesAllocated + count) :
    (memory.setOs index allocator).Holds tables (Function.update tablePages index count) held where
  pools := holds.pools
  pages other := by
    have before := holds.pages other
    by_cases same : other = index
    · subst same
      rw [setOs_same, update_self]
      omega
    · rw [setOs_other same, update_of_ne same]
      exact before

theorem Holds.returned {gone : List Tracker} (holds : memory.Holds tables tablePages (gone ++ held))
    (later : after.Holds tables tablePages held) (kept : memory.Kept after held) (index : Nat) :
    (after.blocks index).freeList.Perm ((memory.blocks index).freeList ++ (blockHandles index gone).flatMap
          fun handle => (memory.blocks index).blocksOf handle.lastAllocated) ∧
      (after.os index).numPagesAllocated + (gone.map (Tracker.osPages index)).sum =
        (memory.os index).numPagesAllocated := by
  constructor
  · have partition := (holds.pools index).partition
    have laterPartition := (later.pools index).partition
    have same : (blockHandles index held).flatMap
          (fun handle => (after.blocks index).blocksOf handle.lastAllocated) =
        (blockHandles index held).flatMap
          (fun handle => (memory.blocks index).blocksOf handle.lastAllocated) :=
      List.flatMap_congr fun handle member => kept.blocks index handle member
    rw [same, (kept.range index).numBlocks, List.append_assoc] at laterPartition
    rw [blockHandles, List.filterMap_append, List.flatMap_append, ← List.append_assoc, List.append_assoc] at partition
    exact (List.perm_append_right_iff _).mp (laterPartition.trans partition.symm)
  · rw [holds.pages, later.pages, List.map_append, List.sum_append]
    omega

end PhysicalMemory

def PhysicalMemory.Backs (memory : PhysicalMemory) : Tracker → Prop
  | .block index handle =>
      ∃ pieces, (memory.blocks index).blocksOf handle.lastAllocated = (pieces.map Piece.block).reverse ∧
        (memory.blocks index).Tiles handle.startOffset.toNat pieces
          (handle.startOffset.toNat + handle.mappingLength.toNat)
  | .os _ _ => True

theorem PhysicalMemory.Kept.backs {memory after : PhysicalMemory} {held : List Tracker}
    {tracker : Tracker} (kept : memory.Kept after held) (member : tracker ∈ held)
    (backs : memory.Backs tracker) : after.Backs tracker := by
  cases tracker with
  | os index handle => trivial
  | block index handle =>
    obtain ⟨pieces, blocks, tiles⟩ := backs
    refine ⟨pieces, ?_, tiles.congr (kept.range index).base⟩
    rw [← blocks]
    refine kept.blocks index handle (List.mem_filterMap.mpr ⟨_, member, ?_⟩)
    exact if_pos rfl

inductive Answers (size offset : U32) : AllocationResult → Option Tracker → U32 → Prop where
  | finished {tracker : Tracker} {after : U32} (starts : tracker.start = offset.toNat)
      (reaches : size.toNat ≤ offset.toNat + tracker.length)
      (within : offset.toNat + tracker.length < size.toNat + 0x1000) :
      Answers size offset .allocFinished (some tracker) after
  | continues {tracker : Tracker} {after : U32} (starts : tracker.start = offset.toNat)
      (ends : after.toNat = offset.toNat + tracker.length) (inside : after ≤ size) :
      Answers size offset .allocPartial (some tracker) after
  | nothing : Answers size offset .allocNone none offset
  | failed {after : U32} : Answers size offset .allocInternalFailure none after

structure ProviderOutcome.Given (outcome : ProviderOutcome) (memory : PhysicalMemory)
    (tables : Nat → List PageTableMemory) (tablePages : Nat → Nat) (held : List Tracker)
    (descriptor : EngineDescriptor) (offset : U32) (pages : List U32) : Prop where
  holds : outcome.memory.Holds tables tablePages (outcome.tracker.toList ++ held)
  kept : memory.Kept outcome.memory held
  answers : Answers descriptor.size offset outcome.result outcome.tracker outcome.offset
  backs : ∀ tracker ∈ outcome.tracker, outcome.memory.Backs tracker
  pages : outcome.pages.Perm
    (outcome.tracker.toList.flatMap (Tracker.pageOffsets descriptor.intoUserspace) ++ pages)

section Providers

variable {memory : PhysicalMemory} {tables : Nat → List PageTableMemory} {tablePages : Nat → Nat}
  {held : List Tracker} {descriptor : EngineDescriptor} {offset : U32}

theorem blockHandles_some (index other : Nat) (handle : Option BlockAllocation) :
    blockHandles other (handle.map (Tracker.block index)).toList =
      if other = index then handle.toList else [] := by
  cases handle with
  | none => simp [blockHandles]
  | some made =>
    by_cases same : index = other
    · simp [blockHandles, Tracker.blockHandle, same]
    · simp [blockHandles, Tracker.blockHandle, same, Ne.symm same]

theorem blockHandles_append (index : Nat) (first second : List Tracker) :
    blockHandles index (first ++ second) = blockHandles index first ++ blockHandles index second :=
  List.filterMap_append

theorem PhysicalMemory.Holds.askBlocks (holds : memory.Holds tables tablePages held) (index : Nat)
    (request : BlockRequest) (inside : offset ≤ descriptor.size) (pages : List U32) :
    ∃ outcome, blockAllocatorAllocate request descriptor.size offset (memory.blocks index) = some outcome ∧
      ProviderOutcome.Given ⟨outcome.result, memory.setBlocks index outcome.allocator,
          outcome.offset, outcome.handle.map (.block index), pages⟩
        memory tables tablePages held descriptor offset pages := by
  obtain ⟨outcome, ran, exact, next, kept⟩ := (holds.pools index).allocate request inside
  obtain ⟨range, ends⟩ := blockAllocatorAllocate_inside inside ran
  refine ⟨outcome, ran, ?_, PhysicalMemory.setBlocks_kept range kept, ?_, ?_, ?_⟩
  · refine ⟨fun other => ?_, fun other => ?_⟩
    · rw [blockHandles_append, blockHandles_some]
      by_cases same : other = index
      · subst same
        rw [PhysicalMemory.setBlocks_same, if_pos rfl]
        exact next
      · rw [PhysicalMemory.setBlocks_other same, if_neg same]
        exact holds.pools other
    · rw [List.map_append, List.sum_append, PhysicalMemory.setBlocks_os, holds.pages other]
      cases outcome.handle with
      | none => simp
      | some handle => simp [Tracker.osPages]
  · cases given : outcome.handle with
    | none =>
      obtain ⟨none | failed, _⟩ := exact.refused given
      · dsimp only
        rw [none.1, none.2]
        exact .nothing
      · dsimp only
        rw [failed]
        exact .failed
    | some handle =>
      obtain ⟨starts, _, _, moved⟩ := exact.mapped handle given
      obtain ⟨finished | continued, whole⟩ := exact.finished handle given
      · have all := whole.mp finished
        rw [finished]
        rw [all] at moved
        refine .finished (congrArg BitVec.toNat starts) (Nat.le_of_eq moved) ?_
        change offset.toNat + handle.mappingLength.toNat < _
        omega
      · dsimp only
        rw [continued]
        exact .continues (congrArg BitVec.toNat starts) moved ends
  · intro tracker member
    obtain ⟨handle, given, rfl⟩ := Option.map_eq_some_iff.mp member
    obtain ⟨starts, blocks, tiles, _⟩ := exact.mapped handle given
    refine ⟨outcome.pieces, ?_, ?_⟩
    · rw [PhysicalMemory.setBlocks_same]
      exact blocks
    · rw [PhysicalMemory.setBlocks_same, starts]
      exact tiles.congr range.base
  · cases outcome.handle with
    | none => exact .refl _
    | some handle => exact .refl _

theorem OsLoop.mapped_start (intoUserspace : Bool) (size : U32) (inside : offset ≤ size) (pages : List U32) :
    OsLoop.Mapped intoUserspace offset size pages ⟨size - offset, offset, 0, pages⟩ := by
  refine ⟨(BitVec.add_zero offset).symm, ?_, .inl ?_⟩
  · cases intoUserspace with
    | true => exact .refl _
    | false => exact .refl _
  · have below := le_def.mp inside
    dsimp only
    rw [BitVec.toNat_sub_of_le inside]
    omega

theorem OsLoop.Mapped.answers {index : Nat} {intoUserspace : Bool} {size : U32} {pages : List U32}
    {loop : OsLoop} (mapped : loop.Mapped intoUserspace offset size pages) :
    Answers size offset (if loop.left = 0 then .allocFinished else .allocPartial)
      (some (.os index ⟨offset, loop.pagesAllocated⟩)) loop.offset := by
  rcases mapped.left with exactly | ⟨ended, reaches, within⟩
  · split
    · rename_i ended
      rw [ended] at exactly
      refine .finished rfl ?_ ?_
      · exact Nat.le_of_eq exactly.symm
      · change offset.toNat + 0x1000 * loop.pagesAllocated < _
        exact exactly.trans_lt (Nat.lt_add_of_pos_right (by omega))
    · have moved : loop.offset.toNat = offset.toNat + 0x1000 * loop.pagesAllocated := by
        rw [mapped.offset, toNat_add, BitVec.toNat_ofNat]
        omega
      refine .continues rfl moved ?_
      rw [le_def]
      omega
  · rw [if_pos ended]
    exact .finished rfl reaches within

theorem PhysicalMemory.Holds.countPages (holds : memory.Holds tables tablePages held) (index : Nat)
    (allocator : OsAllocator) (handle : Option OsAllocation)
    (counted : allocator.numPagesAllocated =
      (memory.os index).numPagesAllocated + (handle.elim 0 OsAllocation.numPages)) :
    (memory.setOs index allocator).Holds tables tablePages
      ((handle.map (Tracker.os index)).toList ++ held) where
  pools other := by
    have none : blockHandles other (handle.map (Tracker.os index)).toList = [] := by
      cases handle with
      | none => rfl
      | some handle => rfl
    rw [blockHandles_append, none]
    exact holds.pools other
  pages other := by
    rw [List.map_append, List.sum_append]
    have before := holds.pages other
    by_cases same : other = index
    · subst same
      rw [PhysicalMemory.setOs_same, counted, before]
      cases handle with
      | none => simp
      | some handle =>
        simp [Tracker.osPages]
        omega
    · rw [PhysicalMemory.setOs_other same, before]
      cases handle with
      | none => simp
      | some handle => simp [Tracker.osPages, Ne.symm same]

theorem PhysicalMemory.Holds.askPages (holds : memory.Holds tables tablePages held) (index : Nat)
    (request : OsRequest) (inside : offset ≤ descriptor.size) (pages : List U32) :
    let outcome := osAllocatorAllocate request descriptor.intoUserspace descriptor.size offset
      (memory.os index) pages
    ProviderOutcome.Given ⟨outcome.result, memory.setOs index outcome.allocator,
        outcome.offset, outcome.handle.map (.os index), outcome.pages⟩
      memory tables tablePages held descriptor offset pages := by
  unfold osAllocatorAllocate
  split
  · have mapped := @OsLoop.run_mapped request descriptor.intoUserspace _ _ _
      ((memory.os index).numPagesMax - (memory.os index).numPagesAllocated) _
      (OsLoop.mapped_start descriptor.intoUserspace descriptor.size inside pages)
    generalize OsLoop.run _ _ _ _ = ended at mapped
    obtain ⟨fatal, loop⟩ := ended
    dsimp only at mapped ⊢
    cases fatal with
    | true =>
      have back : (unmapPages descriptor.intoUserspace offset loop.pagesAllocated loop.pages).Perm
          pages := @unmapPages_perm _ ⟨offset, loop.pagesAllocated⟩ _ _ mapped.pages
      exact ⟨holds.countPages index _ none rfl, PhysicalMemory.setOs_kept _ _, .failed, by simp, back⟩
    | false =>
      by_cases empty : loop.pagesAllocated = 0
      · have unmoved : loop.offset = offset := by
          rw [mapped.offset, empty]
          exact BitVec.add_zero offset
        have same : loop.pages.Perm pages := by
          have split := mapped.pages
          rw [empty] at split
          simpa [OsAllocation.pageOffsets, Floid.Engine.pageOffsets] using split
        rw [if_neg Bool.false_ne_true, if_pos empty, unmoved]
        exact ⟨holds.countPages index _ none rfl, PhysicalMemory.setOs_kept _ _, .nothing, by simp, same⟩
      · rw [if_neg Bool.false_ne_true, if_neg empty]
        refine ⟨holds.countPages index _ (some ⟨offset, loop.pagesAllocated⟩) rfl,
          PhysicalMemory.setOs_kept _ _, ?_, ?_, ?_⟩
        · exact mapped.answers
        · rintro _ ⟨⟩
          trivial
        · simpa [Tracker.pageOffsets] using mapped.pages
  · exact ⟨holds.countPages index _ none rfl, PhysicalMemory.setOs_kept _ _, .nothing, by simp, .refl _⟩

theorem PhysicalMemory.Holds.ask (holds : memory.Holds tables tablePages held) (provider : Provider)
    (request : ProviderRequest) (inside : offset ≤ descriptor.size) (pages : List U32) :
    ∃ outcome, provider.allocate request descriptor offset memory pages = some outcome ∧
      outcome.Given memory tables tablePages held descriptor offset pages := by
  cases provider with
  | block index =>
    obtain ⟨outcome, ran, given⟩ := holds.askBlocks index request.block inside pages
    exact ⟨_, congrArg (Option.map _) ran, given⟩
  | os index => exact ⟨_, rfl, holds.askPages index request.os inside pages⟩

theorem PhysicalMemory.Holds.release {tracker : Tracker} {intoUserspace : Bool} {pages rest : List U32}
    (holds : memory.Holds tables tablePages (tracker :: held))
    (split : pages.Perm (tracker.pageOffsets intoUserspace ++ rest)) :
    ∃ after left, tracker.release true intoUserspace memory pages = some (after, left) ∧
      after.Holds tables tablePages held ∧ memory.Kept after held ∧ left.Perm rest := by
  cases tracker with
  | block index handle =>
    have first : blockHandles index (.block index handle :: held) = [] ++ handle :: blockHandles index held :=
      List.filterMap_cons_some (if_pos rfl)
    obtain ⟨allocator, ran, next, kept⟩ := (holds.pools index).release first
    refine ⟨_, pages, congrArg (Option.map _) ran, ⟨fun other => ?_, fun other => ?_⟩,
      setBlocks_kept (blockAllocatorRelease_sameRange ran) kept, split⟩
    · by_cases same : other = index
      · subst same
        rw [setBlocks_same]
        exact next
      · rw [setBlocks_other same]
        have others : blockHandles other (.block index handle :: held) = blockHandles other held :=
          List.filterMap_cons_none (if_neg (Ne.symm same))
        have pool := holds.pools other
        rwa [others] at pool
    · have counted := holds.pages other
      rwa [List.map_cons, List.sum_cons, Tracker.osPages, Nat.zero_add] at counted
  | os index handle =>
    refine ⟨_, _, rfl, ⟨fun other => holds.pools other, fun other => ?_⟩,
      PhysicalMemory.setOs_kept _ _, unmapPages_perm split⟩
    have counted := holds.pages other
    rw [List.map_cons, List.sum_cons, Tracker.osPages] at counted
    by_cases same : other = index
    · subst same
      rw [if_pos rfl] at counted
      rw [setOs_same]
      dsimp only
      omega
    · rw [if_neg (Ne.symm same)] at counted
      rw [setOs_other same, counted, Nat.zero_add]

end Providers

end Floid.Engine
