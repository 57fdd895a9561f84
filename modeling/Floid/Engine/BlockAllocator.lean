import Floid.Lib.LinkedList
import Floid.Osk.Types

/-!
The block allocator hands out 256 kB blocks of one physical range. A `block_info`
has nothing but a link: free blocks, and those of an allocation, are on lists
through the same links. The blocks are named by their index in `all_blocks`.
-/

namespace Floid.Engine

open Osk Lib

inductive AllocationResult where
  | allocFinished
  | allocNone
  | allocPartial
  | allocInternalFailure
  deriving DecidableEq, Repr

def blockSize : U32 := 0x40000#32

structure BlockAllocator where
  base : U32
  cpuUsageAdjust : U32
  numBlocks : Nat
  next : Nat → Option Nat
  firstFree : Option Nat

/-- `block_allocator_allocation`. The list is released in reverse order. -/
structure BlockAllocation where
  lastAllocated : Option Nat
  startOffset : U32
  mappingLength : U32

structure Piece where
  block : Nat
  offset : U32
  phys : U32
  size : U32

/-- What `mali_allocation_engine_map_physical` answers for an offset, a physical
address, an adjustment and a size: whether the mapping could be made. -/
abbrev MapPhysical := U32 → U32 → U32 → U32 → Bool

namespace BlockAllocator

variable (allocator : BlockAllocator)

def linkBlocks (links : Nat → Option Nat) : Nat → (Nat → Option Nat) × Option Nat
  | 0 => (links, none)
  | count + 1 =>
      let (next, firstFree) := linkBlocks links count
      (Function.update next count firstFree, some count)

/-- `mali_block_allocator_create`, given that there is memory and a lock for it or not. -/
def create (base cpuUsageAdjust size : U32) (available : Bool) (links : Nat → Option Nat) : Option BlockAllocator :=
  let usableSize := size &&& ~~~(blockSize - 1)
  let numBlocks := (usableSize / blockSize).toNat
  if usableSize = 0 then none
  else if available then
    let (next, firstFree) := linkBlocks links numBlocks
    some { base, cpuUsageAdjust, numBlocks, next, firstFree }
  else none

def getPhys (block : Nat) : U32 := allocator.base + BitVec.ofNat 32 block * blockSize

def unlinkFirst (block : Nat) (link : Option Nat) : BlockAllocator :=
  { allocator with firstFree := allocator.next block, next := Function.update allocator.next block link }

def relink (blocks : Option Nat) : Option BlockAllocator :=
  (moveAll allocator.numBlocks blocks (allocator.next, allocator.firstFree)).map
    fun (next, firstFree) => { allocator with next, firstFree }

def blocksOf (list : Option Nat) : List Nat := Chain.walk allocator.next allocator.numBlocks list

def freeList : List Nat := allocator.blocksOf allocator.firstFree

end BlockAllocator

structure AllocationLoop where
  allocator : BlockAllocator
  lastAllocated : Option Nat
  offset : U32
  left : U32
  mappingLength : U32
  pieces : List Piece

namespace AllocationLoop

def padding (offset : U32) : U32 := offset &&& (blockSize - 1)

def currentMappingSize (offset left : U32) : U32 :=
  if blockSize - padding offset < left then blockSize - padding offset else left

def take (loop : AllocationLoop) (block : Nat) : AllocationLoop :=
  { loop with
    allocator := loop.allocator.unlinkFirst block loop.lastAllocated
    lastAllocated := some block }

def nextPiece (loop : AllocationLoop) (block : Nat) : Piece where
  block := block
  offset := loop.offset
  phys := loop.allocator.getPhys block + padding loop.offset
  size := currentMappingSize loop.offset loop.left

def advance (loop : AllocationLoop) (piece : Piece) : AllocationLoop :=
  { loop with
    offset := loop.offset + piece.size
    left := loop.left - piece.size
    mappingLength := loop.mappingLength + piece.size
    pieces := loop.pieces ++ [piece] }

def run (mapPhysical : MapPhysical) : Nat → AllocationLoop → Option (Bool × AllocationLoop)
  | fuel, loop =>
      if 0 < loop.left then
        match loop.allocator.firstFree, fuel with
        | none, _ => some (false, loop)
        | some _, 0 => none
        | some block, fuel + 1 =>
            let taken := loop.take block
            let piece := loop.nextPiece block
            if mapPhysical piece.offset piece.phys loop.allocator.cpuUsageAdjust piece.size then
              run mapPhysical fuel (taken.advance piece)
            else
              (taken.allocator.relink taken.lastAllocated).map fun allocator =>
                (true, { taken with allocator, lastAllocated := none })
      else some (false, loop)

end AllocationLoop

/-- What happens around a call: whether the wait for the mutex is not interrupted,
whether there is memory for a handle, and which mappings can be made. -/
structure BlockRequest where
  mutex : Bool
  memory : Bool
  mapPhysical : MapPhysical

/-- What `block_allocator_allocate` leaves behind, with the mappings it made. -/
structure BlockOutcome where
  result : AllocationResult
  allocator : BlockAllocator
  offset : U32
  handle : Option BlockAllocation
  pieces : List Piece

def AllocationLoop.finish (loop : AllocationLoop) (startOffset : U32) (failed : Bool) : BlockOutcome :=
  match loop.lastAllocated with
  | some _ =>
      { result := if loop.left = 0 then .allocFinished else .allocPartial
        allocator := loop.allocator
        offset := loop.offset
        handle := some ⟨loop.lastAllocated, startOffset, loop.mappingLength⟩
        pieces := loop.pieces }
  | none =>
      { result := if failed then .allocInternalFailure else .allocNone
        allocator := loop.allocator
        offset := loop.offset
        handle := none
        pieces := [] }

/-- `block_allocator_allocate`, for a descriptor of the given size. -/
def blockAllocatorAllocate (request : BlockRequest) (size offset : U32)
    (allocator : BlockAllocator) : Option BlockOutcome :=
  if request.mutex then
    if request.memory then
      (AllocationLoop.run request.mapPhysical allocator.numBlocks
          ⟨allocator, none, offset, size - offset, 0, []⟩).map fun (failed, loop) =>
        loop.finish offset failed
    else some ⟨.allocNone, allocator, offset, none, []⟩
  else some ⟨.allocInternalFailure, allocator, offset, none, []⟩

def blockAllocatorRelease (mutex : Bool) (handle : BlockAllocation) (allocator : BlockAllocator) :
    Option BlockAllocator :=
  if mutex then allocator.relink handle.lastAllocated else some allocator

/-- `mali_page_table_block`, for the memory of a block. -/
structure PageTableMemory where
  handle : Nat
  physBase : U32
  size : U32

/-- `block_allocator_allocate_page_table_block`, given that the mutex is got and that
the memory can be mapped for the kernel or not. -/
def blockAllocatorAllocatePageTableBlock (mutex mapped : Bool) (allocator : BlockAllocator) :
    AllocationResult × Option PageTableMemory × BlockAllocator :=
  if mutex then
    match allocator.firstFree with
    | some block =>
        if mapped then
          (.allocFinished, some ⟨block, allocator.getPhys block, blockSize⟩, allocator.unlinkFirst block none)
        else (.allocInternalFailure, none, allocator)
    | none => (.allocNone, none, allocator)
  else (.allocInternalFailure, none, allocator)

def blockAllocatorReleasePageTableBlock (mutex : Bool) (memory : PageTableMemory)
    (allocator : BlockAllocator) : Option BlockAllocator :=
  if mutex then allocator.relink (some memory.handle) else some allocator

end Floid.Engine
