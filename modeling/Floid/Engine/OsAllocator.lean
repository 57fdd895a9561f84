import Floid.Engine.BlockAllocator

/-!
The allocator of pages from the operating system. It has no memory of its own: the
process address manager obtains a page for each offset it is asked to map without a
physical address, and gives it back when that offset is unmapped.
-/

namespace Floid.Engine

open Osk

structure OsAllocator where
  numPagesMax : Nat
  numPagesAllocated : Nat
  cpuUsageAdjust : U32

structure OsAllocation where
  offsetStart : U32
  numPages : Nat

/-- What happens around a call: memory for a handle, and for each page whether the
usage may still grow and what becomes of its mapping. The mutex is not interruptible. -/
structure OsRequest where
  memory : Bool
  checkAllocated : Nat → Bool
  mapPhysical : Nat → Errcode

def pageOffsets (offset : U32) (count : Nat) : List U32 :=
  (List.range count).map fun page => offset + BitVec.ofNat 32 (0x1000 * page)

/-- `mali_allocation_engine_map_physical` for a page of the operating system, and
`mali_allocation_engine_unmap_physical` for such pages: the offsets with a page of
theirs. Only memory that is mapped for the process has any. -/
def mapPage (intoUserspace : Bool) (offset : U32) (pages : List U32) : List U32 :=
  if intoUserspace then offset :: pages else pages

def unmapPages (intoUserspace : Bool) (offset : U32) (count : Nat) (pages : List U32) : List U32 :=
  if intoUserspace then pages.diff (pageOffsets offset count) else pages

structure OsLoop where
  left : U32
  offset : U32
  pagesAllocated : Nat
  pages : List U32

/-- The loop, for as many pages as are left below the maximum. The flag tells that a
mapping has failed for other reasons than a lack of memory. -/
def OsLoop.run (request : OsRequest) (intoUserspace : Bool) : Nat → OsLoop → Bool × OsLoop
  | 0, loop => (false, loop)
  | remaining + 1, loop =>
      if 0 < loop.left && request.checkAllocated loop.pagesAllocated then
        match request.mapPhysical loop.pagesAllocated with
        | .ok =>
            run request intoUserspace remaining
              { left := if loop.left < pageSize then 0 else loop.left - pageSize
                offset := loop.offset + pageSize
                pagesAllocated := loop.pagesAllocated + 1
                pages := mapPage intoUserspace loop.offset loop.pages }
        | .nomem => (false, loop)
        | _ => (true, loop)
      else (false, loop)

structure OsOutcome where
  result : AllocationResult
  allocator : OsAllocator
  offset : U32
  handle : Option OsAllocation
  pages : List U32

def osAllocatorAllocate (request : OsRequest) (intoUserspace : Bool) (size offset : U32)
    (allocator : OsAllocator) (pages : List U32) : OsOutcome :=
  if request.memory then
    let (fatal, loop) := OsLoop.run request intoUserspace
      (allocator.numPagesMax - allocator.numPagesAllocated) ⟨size - offset, offset, 0, pages⟩
    if fatal then
      { result := .allocInternalFailure
        allocator
        offset := loop.offset
        handle := none
        pages := unmapPages intoUserspace offset loop.pagesAllocated loop.pages }
    else if loop.pagesAllocated = 0 then ⟨.allocNone, allocator, loop.offset, none, loop.pages⟩
    else
      { result := if loop.left = 0 then .allocFinished else .allocPartial
        allocator :=
          { allocator with numPagesAllocated := allocator.numPagesAllocated + loop.pagesAllocated }
        offset := loop.offset
        handle := some ⟨offset, loop.pagesAllocated⟩
        pages := loop.pages }
  else ⟨.allocNone, allocator, offset, none, pages⟩

def osAllocatorRelease (intoUserspace : Bool) (handle : OsAllocation) (allocator : OsAllocator)
    (pages : List U32) : OsAllocator × List U32 :=
  ({ allocator with numPagesAllocated := allocator.numPagesAllocated - handle.numPages },
    unmapPages intoUserspace handle.offsetStart handle.numPages pages)

def pageTableBlockPages : Nat := 1 <<< 6

def osAllocatorAllocatePageTableBlock (checkAllocated available : Bool) (allocator : OsAllocator) :
    AllocationResult × OsAllocator :=
  if allocator.numPagesMax < allocator.numPagesAllocated + pageTableBlockPages && checkAllocated then
    (.allocNone, allocator)
  else if available then
    (.allocFinished,
      { allocator with numPagesAllocated := allocator.numPagesAllocated + pageTableBlockPages })
  else (.allocNone, allocator)

def osAllocatorPageTableBlockRelease (allocator : OsAllocator) : OsAllocator :=
  { allocator with numPagesAllocated := allocator.numPagesAllocated - pageTableBlockPages }

theorem pageOffsets_succ (offset : U32) (count : Nat) : pageOffsets offset (count + 1) =
      pageOffsets offset count ++ [offset + BitVec.ofNat 32 (0x1000 * count)] := by
  rw [pageOffsets, List.range_succ, List.map_append]
  rfl

theorem append_diff (taken rest : List U32) : (taken ++ rest).diff taken = rest := by
  induction taken with
  | nil => exact List.diff_nil _
  | cons first others ih => rw [List.cons_append, List.diff_cons, List.erase_cons_head, ih]

theorem diff_append_perm {pages taken rest : List U32} (split : pages.Perm (taken ++ rest)) :
    (pages.diff taken).Perm rest :=
  (split.diff_right taken).trans (List.Perm.of_eq (append_diff taken rest))

def OsAllocation.pageOffsets (handle : OsAllocation) (intoUserspace : Bool) : List U32 :=
  if intoUserspace then Floid.Engine.pageOffsets handle.offsetStart handle.numPages else []

theorem unmapPages_perm {intoUserspace : Bool} {handle : OsAllocation} {pages rest : List U32}
    (split : pages.Perm (handle.pageOffsets intoUserspace ++ rest)) :
    (unmapPages intoUserspace handle.offsetStart handle.numPages pages).Perm rest := by
  unfold unmapPages
  cases intoUserspace with
  | true => exact diff_append_perm split
  | false => exact split

structure OsLoop.Paged (intoUserspace : Bool) (start : U32) (before : List U32) (loop : OsLoop) : Prop where
  offset : loop.offset = start + BitVec.ofNat 32 (0x1000 * loop.pagesAllocated)
  pages : loop.pages.Perm
    (OsAllocation.pageOffsets ⟨start, loop.pagesAllocated⟩ intoUserspace ++ before)

variable {before : List U32} {intoUserspace : Bool} {loop : OsLoop}

theorem OsLoop.Paged.next {start : U32} (paged : loop.Paged intoUserspace start before) (left : U32) :
    OsLoop.Paged intoUserspace start before
      { left
        offset := loop.offset + pageSize
        pagesAllocated := loop.pagesAllocated + 1
        pages := mapPage intoUserspace loop.offset loop.pages } := by
  constructor
  · rw [paged.offset, BitVec.add_assoc, Nat.mul_succ, BitVec.ofNat_add]
    rfl
  · have pages := paged.pages
    unfold mapPage OsAllocation.pageOffsets
    unfold OsAllocation.pageOffsets at pages
    cases intoUserspace with
    | false => exact pages
    | true =>
      rw [if_pos rfl] at pages
      rw [if_pos rfl, if_pos rfl, pageOffsets_succ, paged.offset, List.append_assoc]
      exact (pages.cons _).trans List.perm_middle.symm

structure OsLoop.Mapped (intoUserspace : Bool) (start size : U32) (before : List U32) (loop : OsLoop) :
    Prop where
  offset : loop.offset = start + BitVec.ofNat 32 (0x1000 * loop.pagesAllocated)
  pages : loop.pages.Perm
    (OsAllocation.pageOffsets ⟨start, loop.pagesAllocated⟩ intoUserspace ++ before)
  left : start.toNat + 0x1000 * loop.pagesAllocated + loop.left.toNat = size.toNat ∨
    loop.left = 0 ∧ size.toNat ≤ start.toNat + 0x1000 * loop.pagesAllocated ∧
      start.toNat + 0x1000 * loop.pagesAllocated < size.toNat + 0x1000

theorem OsLoop.Mapped.next {start size : U32}
    (mapped : loop.Mapped intoUserspace start size before) (more : 0 < loop.left) :
    OsLoop.Mapped intoUserspace start size before
      { left := if loop.left < pageSize then 0 else loop.left - pageSize
        offset := loop.offset + pageSize
        pagesAllocated := loop.pagesAllocated + 1
        pages := mapPage intoUserspace loop.offset loop.pages } := by
  have page : pageSize.toNat = 0x1000 := rfl
  rw [BitVec.lt_def, show (0 : U32).toNat = 0 from rfl] at more
  have exactly : start.toNat + 0x1000 * loop.pagesAllocated + loop.left.toNat = size.toNat := by
    rcases mapped.left with same | ⟨ended, _⟩
    · exact same
    · rw [ended] at more
      simp at more
  have paged := OsLoop.Paged.next { mapped with }
    (if loop.left < pageSize then 0 else loop.left - pageSize)
  refine ⟨paged.offset, paged.pages, ?_⟩
  dsimp only
  split
  · rename_i small
    rw [BitVec.lt_def, page] at small
    exact .inr ⟨rfl, by omega, by omega⟩
  · rename_i large
    rw [BitVec.lt_def, page] at large
    refine .inl ?_
    rw [BitVec.toNat_sub_of_le (by rw [BitVec.le_def, page]; omega), page]
    omega

theorem OsLoop.run_mapped {request : OsRequest} {intoUserspace : Bool} {start size : U32}
    {before : List U32} {remaining : Nat} {loop : OsLoop}
    (mapped : loop.Mapped intoUserspace start size before) :
    (OsLoop.run request intoUserspace remaining loop).2.Mapped intoUserspace start size before := by
  induction remaining generalizing loop with
  | zero => exact mapped
  | succ remaining ih =>
    rw [OsLoop.run]
    split
    · rename_i more
      rw [Bool.and_eq_true, decide_eq_true_iff] at more
      split
      · exact ih (mapped.next more.1)
      · exact mapped
      · exact mapped
    · exact mapped

end Floid.Engine
