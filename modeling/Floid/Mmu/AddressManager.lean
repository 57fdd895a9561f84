import Floid.Mmu.PageTableCache

namespace Floid.Mmu

open Osk

def flagMapIntoUserspace : U32 := 0x1#32
def flagMapGuardPage : U32 := 0x2#32

/-- `mali_memory_allocation`: what the address manager reads of it. -/
structure MemoryAllocation where
  maliAddress : U32
  size : U32
  flags : U32
  deriving DecidableEq, Repr

/-- The page table state of a `memory_session`. -/
structure MemorySession where
  pageDirectory : U32
  pageEntriesMapped : Nat → Option U32
  pageEntriesUsageCount : Nat → Nat

structure AddressSpace where
  cache : PageTableCache
  session : MemorySession

namespace AddressSpace

/-- `_mali_osk_mem_ioread32` on the mapped page directory. -/
def directory (space : AddressSpace) (index : Nat) : U32 :=
  space.cache.memory space.session.pageDirectory index

def writeDirectory (space : AddressSpace) (index : Nat) (value : U32) : AddressSpace :=
  { space with cache := space.cache.iowrite32 space.session.pageDirectory index value }

def setMapped (space : AddressSpace) (index : Nat) (page : Option U32) : AddressSpace :=
  { space with session := { space.session with
      pageEntriesMapped := fun other =>
        if other = index then page else space.session.pageEntriesMapped other } }

def setUsageCount (space : AddressSpace) (index count : Nat) : AddressSpace :=
  { space with session := { space.session with
      pageEntriesUsageCount := fun other =>
        if other = index then count else space.session.pageEntriesUsageCount other } }

end AddressSpace

/-- The page tables of `mali_memory_core_session_begin`: a cleared directory. -/
def sessionBegin (cache : PageTableCache) (block : Option PageTableBlock) : Option AddressSpace :=
  (getTablePage cache block).map fun (pageDirectory, after) =>
    { cache := after.fillPage pageDirectory 0
      session :=
        { pageDirectory
          pageEntriesMapped := fun _ => none
          pageEntriesUsageCount := fun _ => 0 } }

/-- What the physical memory allocators answer to each request for a new block:
memory that is not in the cache already, if any. -/
structure PageTableSupply where
  answer : Nat → PageTableCache → Option PageTableBlock
  fresh : ∀ index cache block, answer index cache = some block → block.Fresh cache

def decrement (count : Nat) : Nat := if count = 0 then 2 ^ 32 - 1 else count - 1

def allocateEntry (space : AddressSpace) (index : Nat) (block : Option PageTableBlock) : Option AddressSpace :=
  if isPresent (space.directory index) then
    some (space.setUsageCount index (space.session.pageEntriesUsageCount index + 1))
  else
    (getTablePage space.cache block).map fun (ptePhys, cache) =>
      let mapped := { space with cache }.setMapped index (some ptePhys)
      let linked := mapped.writeDirectory index (ptePhys ||| flagsPresent)
      linked.setUsageCount index (space.session.pageEntriesUsageCount index + 1)

/-- The loop of `allocate`, with the index it stops at. -/
def allocateEntries (supply : PageTableSupply) : Nat → Nat → AddressSpace → Nat × AddressSpace
  | 0, index, space => (index, space)
  | remaining + 1, index, space =>
      match allocateEntry space index (supply.answer index space.cache) with
      | some next => allocateEntries supply remaining (index + 1) next
      | none => (index, space)

def unlinkEntry (space : AddressSpace) (index : Nat) : AddressSpace :=
  let released :=
    { space with cache := releaseTablePage space.cache (entryAddress (space.directory index)) }
  (released.setMapped index none).writeDirectory index 0

def dropReference (space : AddressSpace) (index : Nat) : AddressSpace :=
  let count := decrement (space.session.pageEntriesUsageCount index)
  let counted := space.setUsageCount index count
  if count = 0 then unlinkEntry counted index else counted

def rollbackEntries (first : Nat) : Nat → AddressSpace → AddressSpace
  | 0, space => space
  | remaining + 1, space => rollbackEntries first remaining (dropReference space (first + remaining))

namespace MemoryAllocation

def hasGuardPage (descriptor : MemoryAllocation) : Bool :=
  descriptor.flags &&& flagMapGuardPage ≠ 0

def firstPdeIdx (descriptor : MemoryAllocation) : Nat := pdeEntry descriptor.maliAddress

/-- The last entry as `allocate` computes it. -/
def lastPdeIdx (descriptor : MemoryAllocation) : Nat :=
  if descriptor.hasGuardPage then
    pdeEntry (descriptor.maliAddress + pageSize + descriptor.size - 1)
  else pdeEntry (descriptor.maliAddress + descriptor.size - 1)

def releaseLastPdeIdx (descriptor : MemoryAllocation) : Nat :=
  pdeEntry (descriptor.maliAddress + descriptor.size - 1)

end MemoryAllocation

def addressManagerAllocate (supply : PageTableSupply) (descriptor : MemoryAllocation)
    (space : AddressSpace) : Errcode × AddressSpace :=
  let first := descriptor.firstPdeIdx
  let last := descriptor.lastPdeIdx
  let (index, after) := allocateEntries supply (last + 1 - first) first space
  if index ≤ last then (.nomem, rollbackEntries first (index - first) after)
  else (.ok, after)

def zapEntries (page : U32) : Nat → Nat → PageTableCache → PageTableCache
  | 0, _, cache => cache
  | remaining + 1, index, cache =>
      zapEntries page remaining (index + 1) (cache.iowrite32 page index 0)

/-- The loop of `release`. There is no result when it writes through an entry of
`page_entries_mapped` that is NULL. -/
def releaseEntries : Nat → Nat → U32 → U32 → AddressSpace → Option AddressSpace
  | 0, _, _, _, space => some space
  | remaining + 1, index, maliAddress, left, space =>
      let sizeInsidePte := if left < 0x400000#32 then left else 0x400000#32
      let count := decrement (space.session.pageEntriesUsageCount index)
      let counted := space.setUsageCount index count
      if count = 0 then
        -- last reference removed, no need to zero out each PTE
        releaseEntries remaining (index + 1) maliAddress (left - sizeInsidePte)
          (unlinkEntry counted index)
      else
        let firstPteIdx := pteEntry maliAddress
        let lastPteIdx := pteEntry (maliAddress + sizeInsidePte - 1)
        match counted.session.pageEntriesMapped index with
        | some page =>
            let zapped :=
              { counted with
                cache := zapEntries page (lastPteIdx + 1 - firstPteIdx) firstPteIdx counted.cache }
            releaseEntries remaining (index + 1) (maliAddress + sizeInsidePte)
              (left - sizeInsidePte) zapped
        | none =>
            if firstPteIdx ≤ lastPteIdx then none
            else releaseEntries remaining (index + 1) (maliAddress + sizeInsidePte)
              (left - sizeInsidePte) counted

def addressManagerRelease (descriptor : MemoryAllocation) (space : AddressSpace) : Option AddressSpace :=
  let first := descriptor.firstPdeIdx
  let last := descriptor.releaseLastPdeIdx
  releaseEntries (last + 1 - first) first descriptor.maliAddress descriptor.size space

/-- The loop of `map`. It has no result when it runs through an entry without a
page table, or on past the top of the address space. -/
def mapPages (session : MemorySession) : Nat → U32 → U32 → U32 → PageTableCache → Option PageTableCache
  | 0, maliAddress, maliAddressEnd, _, cache =>
      if maliAddress < maliAddressEnd then none else some cache
  | fuel + 1, maliAddress, maliAddressEnd, currentPhysAddr, cache =>
      if maliAddress < maliAddressEnd then
        match session.pageEntriesMapped (pdeEntry maliAddress) with
        | some page =>
            let entry :=
              currentPhysAddr ||| flagsWritePermission ||| flagsReadPermission ||| flagsPresent
            mapPages session fuel (maliAddress + pageSize) maliAddressEnd
              (currentPhysAddr + pageSize) (cache.iowrite32 page (pteEntry maliAddress) entry)
        | none => none
      else some cache

/-- `mali_address_manager_map`: every address is a page further, so no range has
more pages than there are addresses in a 32-bit space. -/
def addressManagerMap (descriptor : MemoryAllocation) (offset physAddr size : U32)
    (space : AddressSpace) : Option AddressSpace :=
  let maliAddress := descriptor.maliAddress + offset
  let maliAddressEnd := descriptor.maliAddress + offset + size
  (mapPages space.session (2 ^ 20) maliAddress maliAddressEnd physAddr space.cache).map fun cache =>
    { space with cache }

end Floid.Mmu
