import Floid.Engine.OsAllocator
import Floid.Lib.Transition

namespace Floid.Engine

open Osk Lib

def memCheckAllocated : Bool := true

def osAllocatorCreate (maxAllocation cpuUsageAdjust : U32) : OsAllocator where
  numPagesMax := ((maxAllocation + pageSize - 1 &&& ~~~(pageSize - 1)) / pageSize).toNat
  numPagesAllocated := 0
  cpuUsageAdjust

structure LiveAllocation where
  descriptor : Nat
  handle : OsAllocation

/-- The allocator with what it has given out: the live allocations, the offsets of each descriptor
that have a page, and how many blocks for page tables. -/
structure OsPool where
  allocator : OsAllocator
  live : List LiveAllocation
  pages : Nat → List U32
  tableBlocks : Nat

def liveOffsets (intoUserspace : Nat → Bool) (live : List LiveAllocation) (descriptor : Nat) : List U32 :=
  ((live.filter fun allocation => allocation.descriptor == descriptor).map
    LiveAllocation.handle).flatMap fun handle => handle.pageOffsets (intoUserspace descriptor)

inductive OsAction where
  | allocate (descriptor : Nat) (request : OsRequest) (size offset : U32)
  | release (allocation : LiveAllocation)
  | allocateTableBlock (available : Bool)
  | releaseTableBlock

inductive OsStep (intoUserspace : Nat → Bool) : OsPool → OsAction → OsPool → Prop where
  | allocated {pool descriptor request size offset outcome}
      (ran : osAllocatorAllocate { request with checkAllocated := fun _ => memCheckAllocated }
        (intoUserspace descriptor) size offset pool.allocator (pool.pages descriptor) = outcome) :
      OsStep intoUserspace pool (.allocate descriptor request size offset)
        { pool with
          allocator := outcome.allocator
          live := (outcome.handle.map (⟨descriptor, ·⟩)).toList ++ pool.live
          pages := Function.update pool.pages descriptor outcome.pages }
  | released {pool allocation before after allocator pages}
      (live : pool.live = before ++ allocation :: after)
      (ran : osAllocatorRelease (intoUserspace allocation.descriptor) allocation.handle pool.allocator
        (pool.pages allocation.descriptor) = (allocator, pages)) :
      OsStep intoUserspace pool (.release allocation)
        { pool with
          allocator
          live := before ++ after
          pages := Function.update pool.pages allocation.descriptor pages }
  | tableRefused {pool available result allocator}
      (ran : osAllocatorAllocatePageTableBlock memCheckAllocated available pool.allocator =
        (result, allocator)) (refused : result ≠ .allocFinished) :
      OsStep intoUserspace pool (.allocateTableBlock available) { pool with allocator }
  | tableAllocated {pool available allocator}
      (ran : osAllocatorAllocatePageTableBlock memCheckAllocated available pool.allocator =
        (.allocFinished, allocator)) :
      OsStep intoUserspace pool (.allocateTableBlock available)
        { pool with allocator, tableBlocks := pool.tableBlocks + 1 }
  | tableReleased {pool} (some : pool.tableBlocks ≠ 0) :
      OsStep intoUserspace pool .releaseTableBlock
        { pool with
          allocator := osAllocatorPageTableBlockRelease pool.allocator
          tableBlocks := pool.tableBlocks - 1 }

def osSystem (maxAllocation cpuUsageAdjust : U32) (intoUserspace : Nat → Bool) :
    TransitionSystem OsPool OsAction where
  initial pool := pool = ⟨osAllocatorCreate maxAllocation cpuUsageAdjust, [], fun _ => [], 0⟩
  step := OsStep intoUserspace

structure OsPool.Budget (intoUserspace : Nat → Bool) (pool : OsPool) : Prop where
  counted : pool.allocator.numPagesAllocated =
    (pool.live.map fun allocation => allocation.handle.numPages).sum + pageTableBlockPages * pool.tableBlocks
  within : pool.allocator.numPagesAllocated ≤ pool.allocator.numPagesMax
  pages : ∀ descriptor, (pool.pages descriptor).Perm (liveOffsets intoUserspace pool.live descriptor)

variable {intoUserspace : Bool} {start : U32} {before : List U32} {loop : OsLoop} {request : OsRequest}

theorem OsLoop.run_paged {remaining : Nat} (paged : loop.Paged intoUserspace start before) :
    let after := (OsLoop.run request intoUserspace remaining loop).2
    after.Paged intoUserspace start before ∧ after.pagesAllocated ≤ loop.pagesAllocated + remaining := by
  induction remaining generalizing loop with
  | zero => exact ⟨paged, Nat.le_refl _⟩
  | succ remaining ih =>
    rw [OsLoop.run]
    split
    · split
      · obtain ⟨after, few⟩ := ih (paged.next _)
        exact ⟨after, by dsimp only at few ⊢; omega⟩
      · exact ⟨paged, Nat.le_add_right _ _⟩
      · exact ⟨paged, Nat.le_add_right _ _⟩
    · exact ⟨paged, Nat.le_add_right _ _⟩

theorem osAllocatorAllocate_adds (request : OsRequest) (intoUserspace : Bool) (size offset : U32)
    (allocator : OsAllocator) (pages : List U32) :
    let outcome := osAllocatorAllocate request intoUserspace size offset allocator pages
    let count := outcome.handle.elim 0 OsAllocation.numPages
    outcome.allocator = { allocator with numPagesAllocated := allocator.numPagesAllocated + count } ∧
      count ≤ allocator.numPagesMax - allocator.numPagesAllocated ∧
      outcome.pages.Perm
        ((outcome.handle.elim [] fun handle => handle.pageOffsets intoUserspace) ++ pages) := by
  have start : OsLoop.Paged intoUserspace offset pages ⟨size - offset, offset, 0, pages⟩ := by
    constructor
    · exact (BitVec.add_zero offset).symm
    · unfold OsAllocation.pageOffsets
      split <;> exact .refl _
  have ran := @OsLoop.run_paged _ _ _ _ request
    (allocator.numPagesMax - allocator.numPagesAllocated) start
  dsimp only at ran
  unfold osAllocatorAllocate
  split
  · generalize OsLoop.run _ _ _ _ = ended at ran
    obtain ⟨fatal, loop⟩ := ended
    obtain ⟨paged, few⟩ := ran
    rw [Nat.zero_add] at few
    dsimp only at paged few ⊢
    cases fatal with
    | true => exact ⟨rfl, Nat.zero_le _, @unmapPages_perm _ ⟨offset, loop.pagesAllocated⟩ _ _ paged.pages⟩
    | false =>
      by_cases empty : loop.pagesAllocated = 0
      · have same := paged.pages
        rw [empty] at same
        rw [if_neg Bool.false_ne_true, if_pos empty]
        refine ⟨rfl, Nat.zero_le _, same.trans (.of_eq ?_)⟩
        unfold OsAllocation.pageOffsets
        split <;> rfl
      · rw [if_neg Bool.false_ne_true, if_neg empty]
        exact ⟨rfl, few, paged.pages⟩
  · exact ⟨rfl, Nat.zero_le _, .refl _⟩

section Run

variable {intoUserspace : Nat → Bool} {pool after : OsPool} {action : OsAction}

theorem liveOffsets_append (first second : List LiveAllocation) (descriptor : Nat) :
    liveOffsets intoUserspace (first ++ second) descriptor =
      liveOffsets intoUserspace first descriptor ++ liveOffsets intoUserspace second descriptor := by
  simp [liveOffsets]

theorem liveOffsets_same (allocation : LiveAllocation) (rest : List LiveAllocation) :
    liveOffsets intoUserspace (allocation :: rest) allocation.descriptor =
      allocation.handle.pageOffsets (intoUserspace allocation.descriptor) ++
        liveOffsets intoUserspace rest allocation.descriptor := by
  simp [liveOffsets]

variable {descriptor : Nat}

theorem liveOffsets_other {allocation : LiveAllocation}
    (other : allocation.descriptor ≠ descriptor) (rest : List LiveAllocation) :
    liveOffsets intoUserspace (allocation :: rest) descriptor = liveOffsets intoUserspace rest descriptor := by
  simp [liveOffsets, other]

theorem OsPool.Budget.step (budget : pool.Budget intoUserspace)
    (stepped : OsStep intoUserspace pool action after) : after.Budget intoUserspace := by
  have counted := budget.counted
  have within := budget.within
  cases stepped with
  | @allocated descriptor request size offset outcome ran =>
    obtain ⟨allocator, room, pages⟩ := osAllocatorAllocate_adds
      { request with checkAllocated := fun _ => memCheckAllocated } (intoUserspace descriptor) size
      offset pool.allocator (pool.pages descriptor)
    rw [ran] at allocator room pages
    refine ⟨?_, ?_, fun other => ?_⟩
    · rw [allocator]
      dsimp only
      rw [counted, List.map_append, List.sum_append]
      cases outcome.handle with
      | none => simp
      | some handle =>
        simp
        omega
    · rw [allocator]
      dsimp only
      omega
    · have same := budget.pages other
      dsimp only
      rw [liveOffsets_append]
      by_cases isOther : other = descriptor
      · subst isOther
        rw [Function.update_self]
        refine pages.trans (.append ?_ same)
        cases outcome.handle with
        | none => exact .refl _
        | some handle => simp [liveOffsets]
      · rw [Function.update_of_ne isOther]
        cases outcome.handle with
        | none => exact same
        | some handle => simpa [liveOffsets, Ne.symm isOther] using same
  | @released allocation before behind allocator pages live ran =>
    rw [osAllocatorRelease, Prod.mk.injEq] at ran
    obtain ⟨rfl, rfl⟩ := ran
    rw [live, List.map_append, List.sum_append, List.map_cons, List.sum_cons] at counted
    refine ⟨?_, ?_, fun other => ?_⟩
    · dsimp only
      rw [List.map_append, List.sum_append]
      omega
    · dsimp only
      omega
    · have same := budget.pages other
      rw [live, liveOffsets_append] at same
      dsimp only
      rw [liveOffsets_append]
      by_cases isOther : other = allocation.descriptor
      · subst isOther
        rw [Function.update_self]
        rw [liveOffsets_same] at same
        exact unmapPages_perm (same.trans (List.perm_append_comm_assoc _ _ _))
      · rw [Function.update_of_ne isOther]
        rwa [liveOffsets_other (Ne.symm isOther)] at same
  | @tableRefused available result allocator ran refused =>
    have unchanged : allocator = pool.allocator := by
      rw [osAllocatorAllocatePageTableBlock] at ran
      split at ran
      · exact (Prod.mk.inj ran).2.symm
      · split at ran
        · exact absurd (Prod.mk.inj ran).1.symm refused
        · exact (Prod.mk.inj ran).2.symm
    rw [unchanged]
    exact budget
  | @tableAllocated available allocator ran =>
    rw [osAllocatorAllocatePageTableBlock, memCheckAllocated, Bool.and_true] at ran
    split at ran
    · cases ran
    · rename_i room
      rw [decide_eq_true_iff] at room
      split at ran
      · rw [← (Prod.mk.inj ran).2]
        refine ⟨?_, Nat.le_of_not_lt room, budget.pages⟩
        dsimp only
        rw [counted, Nat.mul_succ, Nat.add_assoc]
      · cases ran
  | tableReleased nonzero =>
    refine ⟨?_, ?_, budget.pages⟩
    · dsimp only [osAllocatorPageTableBlockRelease]
      rw [counted, Nat.mul_sub]
      have := Nat.le_mul_of_pos_right pageTableBlockPages (Nat.pos_of_ne_zero nonzero)
      omega
    · exact Nat.le_trans (Nat.sub_le _ _) within

theorem liveOffsets_length (live : List LiveAllocation) (mapped : intoUserspace descriptor = true) :
    (liveOffsets intoUserspace live descriptor).length =
      ((live.filter fun allocation => allocation.descriptor == descriptor).map
        fun allocation => allocation.handle.numPages).sum := by
  have pages (handle : OsAllocation) :
      (handle.pageOffsets (intoUserspace descriptor)).length = handle.numPages := by
    rw [OsAllocation.pageOffsets, mapped, if_pos rfl, Floid.Engine.pageOffsets, List.length_map, List.length_range]
  rw [liveOffsets, List.length_flatMap, List.map_map]
  simp only [Function.comp_def, pages]

/-- In every state that can be reached the counter has the pages of the live allocations and of the
blocks for page tables, and is within the budget; and a descriptor has as many pages as its live
allocations say. -/
theorem osBudget {maxAllocation cpuUsageAdjust : U32}
    (reached : (osSystem maxAllocation cpuUsageAdjust intoUserspace).Reachable pool) :
    pool.allocator.numPagesAllocated =
        (pool.live.map fun allocation => allocation.handle.numPages).sum +
          pageTableBlockPages * pool.tableBlocks ∧
      pool.allocator.numPagesAllocated ≤ pool.allocator.numPagesMax ∧
      ∀ descriptor, intoUserspace descriptor = true → (pool.pages descriptor).length =
        ((pool.live.filter fun allocation => allocation.descriptor == descriptor).map
          fun allocation => allocation.handle.numPages).sum := by
  have budget : pool.Budget intoUserspace := by
    refine reached.invariant ?_ fun _ _ _ budget stepped => budget.step stepped
    rintro pool rfl
    exact ⟨rfl, Nat.zero_le _, fun _ => .refl _⟩
  refine ⟨budget.counted, budget.within, fun descriptor mapped => ?_⟩
  rw [(budget.pages descriptor).length_eq, liveOffsets_length pool.live mapped]

theorem osBudget_twoPages : ∃ pool : OsPool, (osSystem 0x41000#32 0#32 fun _ => true).Reachable pool ∧
      pool.allocator.numPagesAllocated = 2 ∧ (pool.pages 0).length = 2 := by
  let start : OsPool := ⟨osAllocatorCreate 0x41000#32 0#32, [], fun _ => [], 0⟩
  let request : OsRequest := ⟨true, fun _ => true, fun _ => .ok⟩
  have reached : (osSystem 0x41000#32 0#32 fun _ => true).Reachable start := .initial rfl
  have allocated := reached.next _ (@OsStep.allocated _ start 0 request 0x2000#32 0#32 _ rfl)
  obtain ⟨counted, _, pages⟩ := osBudget allocated
  exact ⟨_, allocated, counted.trans (by decide +kernel), (pages 0 rfl).trans (by decide +kernel)⟩

end Run

end Floid.Engine
