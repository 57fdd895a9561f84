import Floid.Engine.OsBudget

namespace Floid.Engine

open Osk
open BitVec (isLt le_def lt_def ofNat_add toNat_add toNat_ofNat)

/-- `AllocationList`. -/
structure AllocationItem where
  offset : U32
  physaddr : U32

/-- `pre_allocated_memory` with its sizes, and the pages given back to the kernel. -/
structure PageMemory where
  preAllocatedMemory : List U32
  sizeCurrent : Int
  sizeMax : Int
  toKernel : List U32

structure PageRound where
  memory : Bool
  page : Option U32
  remapped : Bool
  maliMapped : Errcode

structure PageDescriptor where
  intoUserspace : Bool
  size : U32
  mapping : U32
  vma : Bool

def kernelPageAllocate (page : Option U32) : U32 := page.getD 0

def kernelPageRelease (physicalAddress : U32) (memory : PageMemory) : PageMemory :=
  { memory with toKernel := physicalAddress :: memory.toKernel }

def allocationListItemGet (round : PageRound) (memory : PageMemory) : Option U32 × PageMemory :=
  match memory.preAllocatedMemory with
  | physaddr :: next =>
      (some physaddr,
        { memory with preAllocatedMemory := next, sizeCurrent := memory.sizeCurrent - 0x1000 })
  | [] =>
      if round.memory then
        if kernelPageAllocate round.page = 0 then (none, memory)
        else (some (kernelPageAllocate round.page), memory)
      else (none, memory)

def allocationListItemRelease (physaddr : U32) (memory : PageMemory) : PageMemory :=
  if memory.sizeCurrent < memory.sizeMax then
    { memory with
      preAllocatedMemory := physaddr :: memory.preAllocatedMemory
      sizeCurrent := memory.sizeCurrent + 0x1000 }
  else kernelPageRelease physaddr memory

/-- `_mali_osk_mem_mapregion_map` without a physical address. The item is read whether there is one
or not; `none` is the read through the null pointer. -/
def memMapregionMap (descriptor : PageDescriptor) (round : PageRound) (offset size : U32)
    (list : List AllocationItem) (memory : PageMemory) :
    Option (Errcode × List AllocationItem × PageMemory) :=
  if descriptor.mapping = 0 then some (.invalidArgs, list, memory)
  else if descriptor.size - offset < size then some (.fault, list, memory)
  else if descriptor.vma = false then some (.fault, list, memory)
  else
    match allocationListItemGet round memory with
    | (none, _) => none
    | (some physaddr, memory) =>
        if round.remapped then some (.ok, ⟨offset, physaddr⟩ :: list, memory)
        else some (.fault, list, allocationListItemRelease physaddr memory)

def memMapregionUnmapLoop : Nat → U32 → List AllocationItem → PageMemory → List AllocationItem × PageMemory
  | 0, _, list, memory => (list, memory)
  | pages + 1, offset, list, memory =>
      match list.find? fun alloc => alloc.offset = offset with
      | none => memMapregionUnmapLoop pages (offset + pageSize) list memory
      | some alloc =>
          memMapregionUnmapLoop pages (offset + pageSize)
            (list.eraseP fun alloc => alloc.offset = offset) (kernelPageRelease alloc.physaddr memory)

def memMapregionUnmap (descriptor : PageDescriptor) (offset size : U32)
    (list : List AllocationItem) (memory : PageMemory) : List AllocationItem × PageMemory :=
  if descriptor.mapping = 0 then (list, memory)
  else if descriptor.size - offset < size then (list, memory)
  else memMapregionUnmapLoop (size / pageSize).toNat offset list memory

def engineMapPhysical (descriptor : PageDescriptor) (round : PageRound) (offset : U32)
    (list : List AllocationItem) (memory : PageMemory) :
    Option (Errcode × List AllocationItem × PageMemory) :=
  if descriptor.intoUserspace then
    match memMapregionMap descriptor round offset pageSize list memory with
    | some (.ok, list, memory) =>
        if round.maliMapped = .ok then some (.ok, list, memory)
        else some (round.maliMapped, memMapregionUnmap descriptor offset pageSize list memory)
    | result => result
  else some (round.maliMapped, list, memory)

def engineUnmapPhysical (descriptor : PageDescriptor) (offset size : U32)
    (list : List AllocationItem) (memory : PageMemory) : List AllocationItem × PageMemory :=
  if descriptor.intoUserspace then memMapregionUnmap descriptor offset size list memory
  else (list, memory)

structure PageRequest where
  memory : Bool
  rounds : Nat → PageRound
  descriptor : PageDescriptor
  offset : U32

structure PageLoop where
  left : U32
  offset : U32
  pagesAllocated : Nat
  list : List AllocationItem
  memory : PageMemory

def PageLoop.run (request : PageRequest) : Nat → PageLoop → Option (Bool × PageLoop)
  | 0, loop => some (false, loop)
  | remaining + 1, loop =>
      if 0 < loop.left && memCheckAllocated then
        match engineMapPhysical request.descriptor (request.rounds loop.pagesAllocated) loop.offset
          loop.list loop.memory with
        | none => none
        | some (.ok, list, memory) =>
            run request remaining
              { left := if loop.left < pageSize then 0 else loop.left - pageSize
                offset := loop.offset + pageSize
                pagesAllocated := loop.pagesAllocated + 1
                list
                memory }
        | some (.nomem, list, memory) => some (false, { loop with list, memory })
        | some (_, list, memory) => some (true, { loop with list, memory })
      else some (false, loop)

structure PageOutcome where
  result : AllocationResult
  allocator : OsAllocator
  offset : U32
  handle : Option OsAllocation
  list : List AllocationItem
  memory : PageMemory

def pagesSize (numPages : Nat) : U32 := BitVec.ofNat 32 (0x1000 * numPages)

/-- `os_allocator_allocate` down to the pages; `none` where the null pointer is read. -/
def PageRequest.allocate (request : PageRequest) (allocator : OsAllocator)
    (list : List AllocationItem) (memory : PageMemory) : Option PageOutcome :=
  if request.memory then
    match PageLoop.run request (allocator.numPagesMax - allocator.numPagesAllocated)
      ⟨request.descriptor.size - request.offset, request.offset, 0, list, memory⟩ with
    | none => none
    | some (true, loop) =>
        let (list, memory) :=
          if 0 < loop.pagesAllocated then
            engineUnmapPhysical request.descriptor request.offset (pagesSize loop.pagesAllocated)
              loop.list loop.memory
          else (loop.list, loop.memory)
        some ⟨.allocInternalFailure, allocator, loop.offset, none, list, memory⟩
    | some (false, loop) =>
        if loop.pagesAllocated = 0 then
          some ⟨.allocNone, allocator, loop.offset, none, loop.list, loop.memory⟩
        else
          some
            { result := if loop.left = 0 then .allocFinished else .allocPartial
              allocator :=
                { allocator with numPagesAllocated := allocator.numPagesAllocated + loop.pagesAllocated }
              offset := loop.offset
              handle := some ⟨request.offset, loop.pagesAllocated⟩
              list := loop.list
              memory := loop.memory }
  else some ⟨.allocNone, allocator, request.offset, none, list, memory⟩

/-- `os_allocator_release` down to the pages. -/
def PageRequest.release (request : PageRequest) (handle : OsAllocation)
    (list : List AllocationItem) (memory : PageMemory) : List AllocationItem × PageMemory :=
  engineUnmapPhysical request.descriptor handle.offsetStart (pagesSize handle.numPages) list memory

variable {request : PageRequest} {allocator : OsAllocator} {list mapped : List AllocationItem}
  {memory : PageMemory} {loop : PageLoop}

def PageRequest.bytes (request : PageRequest) : Nat :=
  (request.descriptor.size - request.offset).toNat

/-- The request comes to ask for the page of this index: a whole page is left of the size and of the
budget, and all pages before it are mapped. -/
structure PageRequest.Asks (request : PageRequest) (allocator : OsAllocator) (index : Nat) : Prop where
  memory : request.memory = true
  intoUserspace : request.descriptor.intoUserspace = true
  mapping : request.descriptor.mapping ≠ 0
  vma : request.descriptor.vma = true
  budget : index < allocator.numPagesMax - allocator.numPagesAllocated
  whole : 0x1000 * (index + 1) ≤ request.bytes
  before : ∀ page < index, (request.rounds page).remapped = true ∧ (request.rounds page).maliMapped = .ok

def PageRequest.Gets (request : PageRequest) (memory : PageMemory) (index : Nat) : Prop :=
  index < memory.preAllocatedMemory.length ∨
    (request.rounds index).memory = true ∧ kernelPageAllocate (request.rounds index).page ≠ 0

/-- The allocation comes to its end, as a partial one or none if a page cannot be had, and what it
has mapped is what its release gives back, each page once. -/
def PageRequest.Survives (request : PageRequest) (allocator : OsAllocator)
    (list : List AllocationItem) (memory : PageMemory) : Prop :=
  ∃ outcome, request.allocate allocator list memory = some outcome ∧
    (∀ index, request.Asks allocator index → ¬request.Gets memory index →
      (outcome.result = .allocPartial ∨ outcome.result = .allocNone) ∧
        outcome.handle.elim 0 OsAllocation.numPages = index) ∧
    ∃ mapped, outcome.list = mapped ++ list ∧
      match outcome.handle with
      | none => mapped = []
      | some handle =>
          mapped.map AllocationItem.offset = (handle.pageOffsets request.descriptor.intoUserspace).reverse ∧
            request.release handle outcome.list outcome.memory =
              (list, { outcome.memory with
                toKernel := mapped.map AllocationItem.physaddr ++ outcome.memory.toKernel })

def PageRequest.status (request : PageRequest) (index : Nat) : Errcode :=
  if request.descriptor.intoUserspace then
    if request.descriptor.mapping = 0 then .invalidArgs
    else if request.descriptor.size - (request.offset + pagesSize index) < pageSize then .fault
    else if request.descriptor.vma = false then .fault
    else if (request.rounds index).remapped then (request.rounds index).maliMapped
    else .fault
  else (request.rounds index).maliMapped

theorem pageOffsets_cons (offset : U32) (count : Nat) :
    pageOffsets offset (count + 1) = offset :: pageOffsets (offset + pageSize) count := by
  rw [pageOffsets, List.range_succ_eq_map, List.map_cons, List.map_map, Nat.mul_zero, BitVec.add_zero]
  refine congrArg (List.cons offset) (List.map_congr_left fun page _ => ?_)
  rw [Function.comp_apply, Nat.mul_succ, Nat.add_comm, ofNat_add, ← BitVec.add_assoc]
  rfl

theorem pagesSize_toNat {numPages : Nat} (fits : 0x1000 * numPages < 2 ^ 32) :
    (pagesSize numPages).toNat = 0x1000 * numPages := by
  rw [pagesSize, toNat_ofNat, Nat.mod_eq_of_lt fits]

variable {offset : U32} {index remaining : Nat}

theorem not_mem_pageOffsets_next {count : Nat} (fits : 0x1000 * (count + 1) ≤ 2 ^ 32) :
    offset ∉ pageOffsets (offset + pageSize) count := by
  intro found
  obtain ⟨page, below, same⟩ := List.mem_map.mp found
  rw [List.mem_range] at below
  have moved := congrArg BitVec.toNat same
  rw [toNat_add, toNat_add, toNat_ofNat, show pageSize.toNat = 0x1000 from rfl]
    at moved
  omega

variable {pages : Nat}

theorem memMapregionUnmapLoop_mapped {start : U32}
    (offsets : mapped.map AllocationItem.offset = (pageOffsets start pages).reverse)
    (fits : 0x1000 * pages ≤ 2 ^ 32) :
    memMapregionUnmapLoop pages start (mapped ++ list) memory =
      (list, { memory with toKernel := mapped.map AllocationItem.physaddr ++ memory.toKernel }) := by
  induction pages generalizing start mapped memory with
  | zero =>
    cases List.map_eq_nil_iff.mp offsets
    rfl
  | succ pages ih =>
    rw [pageOffsets_cons, List.reverse_cons] at offsets
    obtain ⟨front, last, rfl, isFront, isLast⟩ := List.map_eq_append_iff.mp offsets
    obtain ⟨alloc, rfl, atStart⟩ := List.map_eq_singleton_iff.mp isLast
    have passes : ∀ item ∈ front, ¬(decide (item.offset = start)) = true := by
      intro item member isStart
      have here := List.mem_map_of_mem (f := AllocationItem.offset) member
      rw [isFront, of_decide_eq_true isStart, List.mem_reverse] at here
      exact not_mem_pageOffsets_next fits here
    have found : (front ++ [alloc] ++ list).find? (fun item => item.offset = start) = some alloc := by
      rw [List.append_assoc, List.find?_append, List.find?_eq_none.mpr passes]
      simp [atStart]
    have erased : (front ++ [alloc] ++ list).eraseP (fun item => item.offset = start) = front ++ list := by
      rw [List.append_assoc, List.eraseP_append_right _ passes]
      simp [atStart]
    rw [memMapregionUnmapLoop, found, erased]
    dsimp only
    rw [ih isFront (by omega), kernelPageRelease, List.map_append, List.append_assoc]
    rfl

structure PageLoop.Recorded (request : PageRequest) (list : List AllocationItem) (loop : PageLoop) : Prop where
  recorded : ∃ mapped, loop.list = mapped ++ list ∧ mapped.map AllocationItem.offset =
    (OsAllocation.pageOffsets ⟨request.offset, loop.pagesAllocated⟩ request.descriptor.intoUserspace).reverse
  whole : request.descriptor.intoUserspace = true → 0x1000 * loop.pagesAllocated ≤ request.bytes
  mapping : request.descriptor.intoUserspace = true → loop.pagesAllocated ≠ 0 → request.descriptor.mapping ≠ 0

structure PageLoop.At (request : PageRequest) (list : List AllocationItem) (memory : PageMemory)
    (loop : PageLoop) : Prop extends loop.Recorded request list where
  offset : loop.offset = request.offset + pagesSize loop.pagesAllocated
  left : loop.left.toNat = request.bytes - 0x1000 * loop.pagesAllocated
  kept : request.descriptor.intoUserspace = true →
    loop.memory.preAllocatedMemory = memory.preAllocatedMemory.drop loop.pagesAllocated
  before : request.descriptor.intoUserspace = true → ∀ page < loop.pagesAllocated,
    (request.rounds page).remapped = true ∧ (request.rounds page).maliMapped = .ok

theorem PageRequest.size_lt_iff (whole : 0x1000 * pages ≤ request.bytes) :
    request.descriptor.size - (request.offset + pagesSize pages) < pageSize ↔
      request.bytes < 0x1000 * (pages + 1) := by
  have small : request.bytes < 2 ^ 32 := isLt _
  have size := pagesSize_toNat (Nat.lt_of_le_of_lt whole small)
  rw [← BitVec.sub_sub, lt_def, BitVec.toNat_sub_of_le (by rw [le_def, size]; exact whole),
    size, show pageSize.toNat = 0x1000 from rfl]
  change request.bytes - _ < _ ↔ _
  omega

theorem allocationListItemGet_gets {kept : PageMemory}
    (same : kept.preAllocatedMemory = memory.preAllocatedMemory.drop index)
    (gets : request.Gets memory index) :
    ∃ physaddr after, allocationListItemGet (request.rounds index) kept = (some physaddr, after) ∧
      after.preAllocatedMemory = memory.preAllocatedMemory.drop (index + 1) := by
  rw [allocationListItemGet]
  cases pages : kept.preAllocatedMemory with
  | cons physaddr next =>
    refine ⟨physaddr, _, rfl, ?_⟩
    rw [← List.tail_drop, ← same, pages, List.tail_cons]
  | nil =>
    have empty := List.drop_eq_nil_iff.mp (same.symm.trans pages)
    obtain kept | ⟨memory, page⟩ := gets
    · exact absurd kept (Nat.not_lt_of_le empty)
    · dsimp only
      rw [if_pos memory, if_neg page]
      refine ⟨_, _, rfl, pages.trans (List.drop_eq_nil_of_le ?_).symm⟩
      exact Nat.le_succ_of_le empty

theorem allocationListItemGet_fails {kept : PageMemory}
    (same : kept.preAllocatedMemory = memory.preAllocatedMemory.drop index)
    (fails : ¬request.Gets memory index) :
    (allocationListItemGet (request.rounds index) kept).1 = none := by
  rw [PageRequest.Gets, not_or, not_and, not_not] at fails
  have empty := same.trans (List.drop_eq_nil_of_le (Nat.le_of_not_lt fails.1))
  rw [allocationListItemGet, empty]
  dsimp only
  split
  · rename_i memory
    rw [if_pos (fails.2 memory)]
  · rfl

theorem memMapregionUnmap_last {physaddr : U32} (mapping : request.descriptor.mapping ≠ 0)
    (whole : ¬request.descriptor.size - offset < pageSize) :
    memMapregionUnmap request.descriptor offset pageSize (⟨offset, physaddr⟩ :: list) memory =
      (list, kernelPageRelease physaddr memory) := by
  rw [memMapregionUnmap, if_neg mapping, if_neg whole]
  simp [memMapregionUnmapLoop, pageSize]

namespace PageLoop.At

variable {after : List AllocationItem} {kept : PageMemory}

theorem next (here : loop.At request list memory) (mapped : if request.descriptor.intoUserspace then
      0x1000 * (loop.pagesAllocated + 1) ≤ request.bytes ∧ request.descriptor.mapping ≠ 0 ∧
        ((request.rounds loop.pagesAllocated).remapped = true ∧
          (request.rounds loop.pagesAllocated).maliMapped = .ok) ∧
        kept.preAllocatedMemory = memory.preAllocatedMemory.drop (loop.pagesAllocated + 1) ∧
        ∃ physaddr, after = ⟨loop.offset, physaddr⟩ :: loop.list
      else after = loop.list) :
    PageLoop.At request list memory
      { left := if loop.left < pageSize then 0 else loop.left - pageSize
        offset := loop.offset + pageSize
        pagesAllocated := loop.pagesAllocated + 1
        list := after
        memory := kept } := by
  have offset : loop.offset + pageSize = request.offset + pagesSize (loop.pagesAllocated + 1) := by
    rw [here.offset, pagesSize, pagesSize, Nat.mul_succ, ofNat_add, ← BitVec.add_assoc]
    rfl
  have left : (if loop.left < pageSize then 0 else loop.left - pageSize).toNat =
      request.bytes - 0x1000 * (loop.pagesAllocated + 1) := by
    have left := here.left
    have page : pageSize.toNat = 0x1000 := rfl
    split
    · rename_i small
      rw [lt_def, page] at small
      change 0 = _
      omega
    · rename_i large
      rw [lt_def, page] at large
      rw [BitVec.toNat_sub_of_le (by rw [le_def, page]; omega), page]
      omega
  obtain ⟨before, isBefore, offsets⟩ := here.recorded
  cases user : request.descriptor.intoUserspace with
  | false =>
    rw [user, if_neg Bool.false_ne_true] at mapped
    refine ⟨⟨⟨before, mapped.trans isBefore, ?_⟩, ?_, ?_⟩, offset, left, ?_, ?_⟩
    · simpa [OsAllocation.pageOffsets, user] using offsets
    all_goals
      intro isUser
      rw [user] at isUser
      cases isUser
  | true =>
    rw [user, if_pos rfl] at mapped
    obtain ⟨whole, mapping, done, keptHere, physaddr, rfl⟩ := mapped
    refine ⟨⟨⟨⟨loop.offset, physaddr⟩ :: before, by rw [isBefore]; rfl, ?_⟩, fun _ => whole,
      fun _ _ => mapping⟩, offset, left, fun _ => keptHere, fun _ page below => ?_⟩
    · rw [OsAllocation.pageOffsets, if_pos user] at offsets
      rw [OsAllocation.pageOffsets, if_pos user, List.map_cons, offsets, here.offset,
        pageOffsets_succ, List.reverse_append]
      rfl
    · rcases Nat.lt_succ_iff_lt_or_eq.mp below with earlier | rfl
      · exact here.before user page earlier
      · exact done

theorem map_next (here : loop.At request list memory) (memoryHere : request.memory = true)
    (budget : loop.pagesAllocated < allocator.numPagesMax - allocator.numPagesAllocated)
    (gets : request.Asks allocator loop.pagesAllocated → request.Gets memory loop.pagesAllocated) :
    ∃ after kept, engineMapPhysical request.descriptor (request.rounds loop.pagesAllocated)
        loop.offset loop.list loop.memory = some (request.status loop.pagesAllocated, after, kept) ∧
      if request.status loop.pagesAllocated = .ok then
        PageLoop.At request list memory
          { left := if loop.left < pageSize then 0 else loop.left - pageSize
            offset := loop.offset + pageSize
            pagesAllocated := loop.pagesAllocated + 1
            list := after
            memory := kept }
      else after = loop.list := by
  cases user : request.descriptor.intoUserspace with
  | false =>
    refine ⟨loop.list, loop.memory, ?_, ?_⟩
    · simp [engineMapPhysical, PageRequest.status, user]
    · split
      · exact here.next (by rw [user]; rfl)
      · rfl
  | true =>
    rw [engineMapPhysical, if_pos user, memMapregionMap, PageRequest.status, if_pos user, ← here.offset]
    by_cases mapping : request.descriptor.mapping = 0
    · exact ⟨loop.list, loop.memory, by rw [if_pos mapping, if_pos mapping], by
        rw [if_pos mapping]; rfl⟩
    rw [if_neg mapping, if_neg mapping]
    by_cases size : request.descriptor.size - loop.offset < pageSize
    · exact ⟨loop.list, loop.memory, by rw [if_pos size, if_pos size], by
        rw [if_pos size]; rfl⟩
    rw [if_neg size, if_neg size]
    cases vma : request.descriptor.vma with
    | false => exact ⟨loop.list, loop.memory, rfl, rfl⟩
    | true =>
      have whole : 0x1000 * (loop.pagesAllocated + 1) ≤ request.bytes := by
        rw [here.offset, PageRequest.size_lt_iff (here.whole user)] at size
        exact Nat.le_of_not_lt size
      obtain ⟨physaddr, kept, got, keptHere⟩ := allocationListItemGet_gets (here.kept user)
        (gets ⟨memoryHere, user, mapping, vma, budget, whole, here.before user⟩)
      rw [got]
      cases remapped : (request.rounds loop.pagesAllocated).remapped with
      | false => exact ⟨loop.list, _, rfl, rfl⟩
      | true =>
        by_cases mali : (request.rounds loop.pagesAllocated).maliMapped = .ok
        · refine ⟨⟨loop.offset, physaddr⟩ :: loop.list, kept, by simp [mali], ?_⟩
          simp only [mali]
          exact here.next (by
            rw [user]
            exact ⟨whole, mapping, ⟨remapped, mali⟩, keptHere, physaddr, rfl⟩)
        · refine ⟨loop.list, kernelPageRelease physaddr kept, ?_, ?_⟩
          · simp [mali, memMapregionUnmap_last mapping size]
          · simp [mali]

theorem map_fails (here : loop.At request list memory) (asks : request.Asks allocator loop.pagesAllocated)
    (fails : ¬request.Gets memory loop.pagesAllocated) :
    engineMapPhysical request.descriptor (request.rounds loop.pagesAllocated) loop.offset loop.list
      loop.memory = none := by
  have size : ¬request.descriptor.size - loop.offset < pageSize := by
    rw [here.offset, PageRequest.size_lt_iff (here.whole asks.intoUserspace)]
    exact Nat.not_lt.mpr asks.whole
  have null := allocationListItemGet_fails (here.kept asks.intoUserspace) fails
  rw [engineMapPhysical, if_pos asks.intoUserspace, memMapregionMap, if_neg asks.mapping,
    if_neg size, asks.vma, if_neg (by decide)]
  cases got : allocationListItemGet (request.rounds loop.pagesAllocated) loop.memory with
  | mk item kept =>
    rw [got] at null
    cases null
    rfl

end PageLoop.At

def PageLoop.offsets (loop : PageLoop) : OsLoop :=
  ⟨loop.left, loop.offset, loop.pagesAllocated, loop.list.map AllocationItem.offset⟩

def PageRequest.statuses (request : PageRequest) : OsRequest :=
  ⟨request.memory, fun _ => memCheckAllocated, request.status⟩

theorem PageLoop.Recorded.list_offsets (here : loop.Recorded request list) :
    loop.list.map AllocationItem.offset = (OsAllocation.pageOffsets ⟨request.offset,
      loop.pagesAllocated⟩ request.descriptor.intoUserspace).reverse ++ list.map AllocationItem.offset := by
  obtain ⟨mapped, isList, offsets⟩ := here.recorded
  rw [isList, List.map_append, offsets]

theorem PageLoop.At.mapPage_next {after : List AllocationItem} {kept : PageMemory} {left : U32}
    (here : loop.At request list memory)
    (next : PageLoop.Recorded request list ⟨left, offset, loop.pagesAllocated + 1, after, kept⟩) :
    after.map AllocationItem.offset = mapPage request.descriptor.intoUserspace loop.offset
      (loop.list.map AllocationItem.offset) := by
  rw [next.list_offsets, here.list_offsets, mapPage]
  cases user : request.descriptor.intoUserspace with
  | false => rfl
  | true =>
    rw [OsAllocation.pageOffsets, OsAllocation.pageOffsets, if_pos rfl, if_pos rfl, if_pos rfl,
      pageOffsets_succ, List.reverse_append, here.offset]
    rfl

theorem PageLoop.run_maps (here : loop.At request list memory) (memoryHere : request.memory = true)
    (budget : loop.pagesAllocated + remaining = allocator.numPagesMax - allocator.numPagesAllocated)
    (gets : ∀ index, request.Asks allocator index → request.Gets memory index) :
    ∃ fatal after, PageLoop.run request remaining loop = some (fatal, after) ∧ after.Recorded request list ∧
      OsLoop.run request.statuses request.descriptor.intoUserspace remaining loop.offsets =
        (fatal, after.offsets) := by
  induction remaining generalizing loop with
  | zero => exact ⟨false, loop, rfl, here.toRecorded, rfl⟩
  | succ remaining ih =>
    obtain ⟨after, kept, mapped, next⟩ :=
      here.map_next memoryHere (by omega) (gets loop.pagesAllocated)
    rw [PageLoop.run, OsLoop.run]
    by_cases more : (decide (0 < loop.left) && memCheckAllocated) = true
    · have sameMore : (decide (0 < loop.offsets.left) &&
          request.statuses.checkAllocated loop.offsets.pagesAllocated) = true := more
      rw [if_pos more, if_pos sameMore, mapped]
      dsimp only [PageRequest.statuses, PageLoop.offsets]
      split at next
      · rename_i ok
        obtain ⟨fatal, ended, run, recorded, same⟩ := ih next (by dsimp only; omega)
        rw [PageLoop.offsets, here.mapPage_next next.toRecorded] at same
        rw [ok]
        exact ⟨fatal, ended, run, recorded, same⟩
      · rename_i failed
        subst next
        have recorded : PageLoop.Recorded request list { loop with memory := kept } := { here with }
        cases status : request.status loop.pagesAllocated with
        | ok => exact absurd status failed
        | nomem => exact ⟨false, { loop with memory := kept }, rfl, recorded, rfl⟩
        | _ => exact ⟨true, { loop with memory := kept }, rfl, recorded, rfl⟩
    · have sameMore : ¬(decide (0 < loop.offsets.left) &&
          request.statuses.checkAllocated loop.offsets.pagesAllocated) = true := more
      rw [if_neg more, if_neg sameMore]
      exact ⟨false, loop, rfl, here.toRecorded, rfl⟩

theorem PageLoop.run_fails (here : loop.At request list memory) (budget : loop.pagesAllocated + remaining =
      allocator.numPagesMax - allocator.numPagesAllocated)
    (asks : request.Asks allocator index) (fails : ¬request.Gets memory index)
    (after : loop.pagesAllocated ≤ index) :
    PageLoop.run request remaining loop = none := by
  induction remaining generalizing loop with
  | zero => exact absurd asks.budget (by omega)
  | succ remaining ih =>
    have whole := asks.whole
    have more : 0 < loop.left := by
      rw [lt_def, here.left]
      change 0 < _
      omega
    have asksHere : request.Asks allocator loop.pagesAllocated :=
      ⟨asks.memory, asks.intoUserspace, asks.mapping, asks.vma, by omega, by omega,
        fun page below => asks.before page (Nat.lt_of_lt_of_le below after)⟩
    rw [PageLoop.run, decide_eq_true more, Bool.true_and, memCheckAllocated, if_pos rfl]
    by_cases getsHere : request.Gets memory loop.pagesAllocated
    · rcases Nat.eq_or_lt_of_le after with same | later
      · exact absurd getsHere (same ▸ fails)
      · obtain ⟨mappedList, kept, mapped, next⟩ :=
          here.map_next asks.memory (by omega)
            fun _ : request.Asks allocator loop.pagesAllocated => getsHere
        have ok : request.status loop.pagesAllocated = .ok := by
          obtain ⟨remapped, mali⟩ := asks.before _ later
          rw [PageRequest.status, if_pos asks.intoUserspace, if_neg asks.mapping, if_neg, asks.vma,
            if_neg (by decide), if_pos remapped, mali]
          rw [PageRequest.size_lt_iff (here.whole asks.intoUserspace)]
          omega
        rw [if_pos ok] at next
        rw [mapped, ok]
        exact ih next (by dsimp only; omega) later
    · rw [here.map_fails asksHere getsHere]

theorem PageLoop.Recorded.unmap (here : loop.Recorded request list)
    (isList : loop.list = mapped ++ list) (some : loop.pagesAllocated ≠ 0) :
    engineUnmapPhysical request.descriptor request.offset (pagesSize loop.pagesAllocated) loop.list
        memory =
      (list, { memory with toKernel := mapped.map AllocationItem.physaddr ++ memory.toKernel }) := by
  obtain ⟨own, ownList, offsets⟩ := here.recorded
  cases List.append_cancel_right (isList.symm.trans ownList)
  rw [OsAllocation.pageOffsets] at offsets
  rw [engineUnmapPhysical, isList]
  cases user : request.descriptor.intoUserspace with
  | false =>
    rw [user, if_neg Bool.false_ne_true, List.reverse_nil, List.map_eq_nil_iff] at offsets
    subst offsets
    rfl
  | true =>
    rw [user, if_pos rfl] at offsets
    have whole := here.whole user
    have small : request.bytes < 2 ^ 32 := isLt _
    have size := pagesSize_toNat (Nat.lt_of_le_of_lt whole small)
    have pages : (pagesSize loop.pagesAllocated / pageSize).toNat = loop.pagesAllocated := by
      rw [BitVec.toNat_udiv, size]
      exact Nat.mul_div_cancel_left _ (by decide)
    rw [if_pos rfl, memMapregionUnmap, if_neg (here.mapping user some), if_neg, pages]
    · exact memMapregionUnmapLoop_mapped offsets (by omega)
    · rw [lt_def, size]
      exact Nat.not_lt.mpr whole

def PageRequest.start (request : PageRequest) (list : List AllocationItem) (memory : PageMemory) : PageLoop :=
  ⟨request.descriptor.size - request.offset, request.offset, 0, list, memory⟩

theorem PageRequest.start_at : (request.start list memory).At request list memory := by
  have none : OsAllocation.pageOffsets ⟨request.offset, 0⟩ request.descriptor.intoUserspace = [] := by
    rw [OsAllocation.pageOffsets]
    split <;> rfl
  refine ⟨⟨⟨[], rfl, ?_⟩, fun _ => Nat.zero_le _, fun _ some => absurd rfl some⟩,
    (BitVec.add_zero _).symm, rfl, fun _ => rfl, fun _ _ below => absurd below (Nat.not_lt_zero _)⟩
  rw [start, none]
  rfl

theorem reverse_append_diff (taken rest : List U32) : (taken.reverse ++ rest).diff taken = rest := by
  rw [(List.reverse_perm taken).symm.diff_left]
  exact append_diff _ _

theorem PageRequest.allocate_gets (gets : ∀ index, request.Asks allocator index → request.Gets memory index) :
    ∃ outcome, request.allocate allocator list memory = some outcome ∧
      osAllocatorAllocate request.statuses request.descriptor.intoUserspace request.descriptor.size
          request.offset allocator (list.map AllocationItem.offset) =
        ⟨outcome.result, outcome.allocator, outcome.offset, outcome.handle, outcome.list.map AllocationItem.offset⟩ ∧
      match outcome.handle with
      | none => outcome.list = list
      | some handle => ∃ loop : PageLoop, loop.Recorded request list ∧ loop.list = outcome.list ∧
          handle = ⟨request.offset, loop.pagesAllocated⟩ ∧ loop.pagesAllocated ≠ 0 := by
  rw [allocate, osAllocatorAllocate]
  cases memoryHere : request.memory with
  | false =>
    exact ⟨_, rfl, by rw [statuses, memoryHere]; rfl, rfl⟩
  | true =>
    obtain ⟨fatal, loop, run, here, same⟩ := PageLoop.run_maps
      (@start_at request list memory) memoryHere (Nat.zero_add _) gets
    have unmapped : unmapPages request.descriptor.intoUserspace request.offset loop.pagesAllocated
        (loop.list.map AllocationItem.offset) = list.map AllocationItem.offset := by
      rw [here.list_offsets, unmapPages, OsAllocation.pageOffsets]
      split
      · exact reverse_append_diff _ _
      · rfl
    have noPages : loop.pagesAllocated = 0 → loop.list = list := by
      intro zero
      obtain ⟨mapped, isList, offsets⟩ := here.recorded
      rw [zero, OsAllocation.pageOffsets] at offsets
      have : mapped = [] := by
        rw [← List.map_eq_nil_iff (f := AllocationItem.offset), offsets]
        split <;> rfl
      rw [isList, this, List.nil_append]
    have cleaned : (if 0 < loop.pagesAllocated then
        engineUnmapPhysical request.descriptor request.offset (pagesSize loop.pagesAllocated)
          loop.list loop.memory
        else (loop.list, loop.memory)).1 = list := by
      obtain ⟨mapped, isList, _⟩ := here.recorded
      split
      · rename_i some
        rw [here.unmap isList (Nat.pos_iff_ne_zero.mp some)]
      · rename_i none
        exact noPages (Nat.eq_zero_of_not_pos none)
    rw [start] at run
    rw [PageLoop.offsets, start] at same
    rw [if_pos rfl, run, show request.statuses.memory = true from memoryHere, if_pos rfl, same]
    cases fatal with
    | true =>
      dsimp only [PageLoop.offsets]
      generalize (if 0 < loop.pagesAllocated then _ else _) = clean at cleaned ⊢
      obtain ⟨cleanList, cleanMemory⟩ := clean
      cases cleaned
      rw [if_pos rfl, unmapped]
      exact ⟨_, rfl, rfl, rfl⟩
    | false =>
      dsimp only [PageLoop.offsets]
      rw [if_neg Bool.false_ne_true]
      by_cases zero : loop.pagesAllocated = 0
      · rw [if_pos zero, if_pos zero]
        exact ⟨_, rfl, rfl, noPages zero⟩
      · rw [if_neg zero, if_neg zero]
        exact ⟨_, rfl, rfl, loop, here, rfl, rfl, zero⟩

/-- A request survives if and only if each page that it comes to ask for can be had. -/
theorem PageRequest.survives_iff (request : PageRequest) (allocator : OsAllocator)
    (list : List AllocationItem) (memory : PageMemory) :
    request.Survives allocator list memory ↔
      ∀ index, request.Asks allocator index → request.Gets memory index := by
  constructor
  · rintro ⟨outcome, ran, _⟩ index asks
    by_contra fails
    have run : PageLoop.run request (allocator.numPagesMax - allocator.numPagesAllocated)
        (request.start list memory) = none :=
      PageLoop.run_fails request.start_at (Nat.zero_add _) asks fails (Nat.zero_le _)
    rw [start] at run
    rw [allocate, asks.memory, if_pos rfl, run] at ran
    cases ran
  · intro gets
    obtain ⟨outcome, ran, _, recorded⟩ := @allocate_gets request allocator list memory gets
    refine ⟨outcome, ran, fun index asks fails => absurd (gets index asks) fails, ?_⟩
    cases isHandle : outcome.handle with
    | none =>
      rw [isHandle] at recorded
      exact ⟨[], recorded, rfl⟩
    | some handle =>
      rw [isHandle] at recorded
      obtain ⟨loop, here, isList, rfl, some⟩ := recorded
      obtain ⟨mapped, split, offsets⟩ := here.recorded
      refine ⟨mapped, isList.symm.trans split, offsets, ?_⟩
      rw [release, ← isList]
      exact here.unmap split some

def noPageLeft : PageRequest where
  memory := true
  rounds _ := ⟨true, none, true, .ok⟩
  descriptor := ⟨true, pageSize, 0x40000000#32, true⟩
  offset := 0#32

/-- With no page left the first one is read through the null pointer. -/
theorem noPageLeft_not_survives :
    ¬noPageLeft.Survives (osAllocatorCreate 0x100000#32 0#32) [] ⟨[], 0, 0x600000, []⟩ := by
  rintro ⟨outcome, ran, _⟩
  have crashed : noPageLeft.allocate (osAllocatorCreate 0x100000#32 0#32) []
      ⟨[], 0, 0x600000, []⟩ = none := by decide +kernel
  rw [crashed] at ran
  cases ran

end Floid.Engine
