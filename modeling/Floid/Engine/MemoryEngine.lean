import Floid.Engine.BlockRuns
import Floid.Engine.OsAllocator

/-!
The memory engine asks one physical allocator after the other for what is left of an
allocation, and keeps a chain of trackers of what it was given. When that does not
come to an end it gives everything back.
-/

namespace Floid.Engine

open Osk

structure PhysicalMemory where
  blocks : Nat → BlockAllocator
  os : Nat → OsAllocator

/-- An entry of the list of `mali_physical_memory_allocator`. -/
inductive Provider where
  | block (index : Nat)
  | os (index : Nat)

inductive Tracker where
  | block (index : Nat) (handle : BlockAllocation)
  | os (index : Nat) (handle : OsAllocation)

structure ProviderRequest where
  block : BlockRequest
  os : OsRequest
  tracker : Bool

/-- What the engine reads of a `mali_memory_allocation`: its size, and whether it has
`MALI_MEMORY_ALLOCATION_FLAG_MAP_INTO_USERSPACE`. -/
structure EngineDescriptor where
  size : U32
  intoUserspace : Bool

namespace PhysicalMemory

def setBlocks (memory : PhysicalMemory) (index : Nat) (allocator : BlockAllocator) : PhysicalMemory :=
  { memory with blocks := Function.update memory.blocks index allocator }

def setOs (memory : PhysicalMemory) (index : Nat) (allocator : OsAllocator) : PhysicalMemory :=
  { memory with os := Function.update memory.os index allocator }

end PhysicalMemory

structure ProviderOutcome where
  result : AllocationResult
  memory : PhysicalMemory
  offset : U32
  tracker : Option Tracker
  pages : List U32

/-- `active_allocator->allocate`. -/
def Provider.allocate (provider : Provider) (request : ProviderRequest)
    (descriptor : EngineDescriptor) (offset : U32) (memory : PhysicalMemory) (pages : List U32) :
    Option ProviderOutcome :=
  match provider with
  | .block index =>
      (blockAllocatorAllocate request.block descriptor.size offset (memory.blocks index)).map
        fun outcome =>
          { result := outcome.result
            memory := memory.setBlocks index outcome.allocator
            offset := outcome.offset
            tracker := outcome.handle.map (.block index)
            pages }
  | .os index =>
      let outcome := osAllocatorAllocate request.os descriptor.intoUserspace descriptor.size offset
        (memory.os index) pages
      some
        { result := outcome.result
          memory := memory.setOs index outcome.allocator
          offset := outcome.offset
          tracker := outcome.handle.map (.os index)
          pages := outcome.pages }

/-- `active_allocation_tracker->release`. The mutex matters to block allocators only. -/
def Tracker.release (mutex intoUserspace : Bool) (memory : PhysicalMemory) (pages : List U32) :
    Tracker → Option (PhysicalMemory × List U32)
  | .block index handle =>
      (blockAllocatorRelease mutex handle (memory.blocks index)).map fun allocator =>
        (memory.setBlocks index allocator, pages)
  | .os index handle =>
      let (allocator, rest) := osAllocatorRelease intoUserspace handle (memory.os index) pages
      some (memory.setOs index allocator, rest)

/-- The loop that asks the allocators, from a number of them on: whether it has
finished, the memory, the pages mapped, and the chain of trackers, in which a tracker
that was not filled in is `none`. -/
def commitMemory (requests : Nat → ProviderRequest) (descriptor : EngineDescriptor) :
    List Provider → Nat → List (Option Tracker) → U32 → PhysicalMemory → List U32 →
      Option (Bool × PhysicalMemory × List U32 × List (Option Tracker))
  | [], _, chain, _, memory, pages => some (false, memory, pages, chain ++ [none])
  | provider :: rest, asked, chain, offset, memory, pages =>
      match provider.allocate (requests asked) descriptor offset memory pages with
      | none => none
      | some outcome =>
          match outcome.result with
          | .allocFinished =>
              some (true, outcome.memory, outcome.pages, chain ++ [outcome.tracker])
          | .allocNone =>
              -- the tracker is used for the next allocator
              commitMemory requests descriptor rest (asked + 1) chain outcome.offset outcome.memory
                outcome.pages
          | .allocPartial =>
              if rest ≠ [] ∧ (requests asked).tracker = true then
                commitMemory requests descriptor rest (asked + 1) (chain ++ [outcome.tracker])
                  outcome.offset outcome.memory outcome.pages
              else some (false, outcome.memory, outcome.pages, chain ++ [outcome.tracker])
          | .allocInternalFailure =>
              some (false, outcome.memory, outcome.pages, chain ++ [outcome.tracker])

def cleanUp (mutexes : Nat → Bool) (intoUserspace : Bool) :
    Nat → List (Option Tracker) → PhysicalMemory → List U32 → Option (PhysicalMemory × List U32)
  | _, [], memory, pages => some (memory, pages)
  | position, none :: rest, memory, pages =>
      cleanUp mutexes intoUserspace (position + 1) rest memory pages
  | position, some tracker :: rest, memory, pages =>
      match tracker.release (mutexes position) intoUserspace memory pages with
      | some (released, left) => cleanUp mutexes intoUserspace (position + 1) rest released left
      | none => none

structure AddressSpaceCalls where
  maliAllocated : Nat
  maliReleased : Nat
  processAllocated : Nat
  processReleased : Nat

/-- What happens around a call of the engine: whether each address space can be set
up, what each allocator meets, and which releases get the mutex. -/
structure EngineRequest where
  maliAddress : Bool
  processAddress : Bool
  providers : Nat → ProviderRequest
  mutexes : Nat → Bool

/-- What `mali_allocation_engine_allocate_memory` leaves behind. -/
structure EngineOutcome where
  result : Errcode
  memory : PhysicalMemory
  pages : List U32
  chain : List (Option Tracker)
  calls : AddressSpaceCalls

/-- `mali_allocation_engine_allocate_memory`, for a descriptor that has nothing yet. -/
def engineAllocateMemory (request : EngineRequest) (descriptor : EngineDescriptor)
    (providers : List Provider) (memory : PhysicalMemory) : Option EngineOutcome :=
  let process := if descriptor.intoUserspace then 1 else 0
  if request.maliAddress then
    if descriptor.intoUserspace && !request.processAddress then
      some ⟨.fault, memory, [], [none], ⟨1, 1, 0, 0⟩⟩
    else
      match commitMemory request.providers descriptor providers 0 [] 0 memory [] with
      | none => none
      | some (true, committed, pages, chain) =>
          some ⟨.ok, committed, pages, chain, ⟨1, 0, process, 0⟩⟩
      | some (false, committed, pages, chain) =>
          (cleanUp request.mutexes descriptor.intoUserspace 0 chain committed pages).map
            fun (released, left) => ⟨.fault, released, left, [], ⟨1, 1, process, process⟩⟩
  else some ⟨.fault, memory, [], [none], ⟨0, 0, 0, 0⟩⟩

/-- The loop over the trackers of `mali_allocation_engine_release_memory`, which calls
every one: there is no result for one that was never filled in. -/
def releaseTrackers (mutexes : Nat → Bool) (intoUserspace : Bool) :
    Nat → List (Option Tracker) → PhysicalMemory → List U32 → Option (PhysicalMemory × List U32)
  | _, [], memory, pages => some (memory, pages)
  | _, none :: _, _, _ => none
  | position, some tracker :: rest, memory, pages =>
      match tracker.release (mutexes position) intoUserspace memory pages with
      | some (released, left) =>
          releaseTrackers mutexes intoUserspace (position + 1) rest released left
      | none => none

structure EngineAllocation where
  descriptor : EngineDescriptor
  chain : List (Option Tracker)
  pages : List U32
  calls : AddressSpaceCalls

def engineReleaseMemory (mutexes : Nat → Bool) (allocation : EngineAllocation)
    (memory : PhysicalMemory) : Option (PhysicalMemory × List U32 × AddressSpaceCalls) :=
  let calls := allocation.calls
  (releaseTrackers mutexes allocation.descriptor.intoUserspace 0 allocation.chain memory
      allocation.pages).map fun (released, left) =>
    (released, left,
      { calls with
        maliReleased := calls.maliReleased + 1
        processReleased := calls.processReleased +
          if allocation.descriptor.intoUserspace then 1 else 0 })

end Floid.Engine
