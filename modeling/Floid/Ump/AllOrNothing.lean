import Floid.Ump.DedicatedRuns

namespace Floid.Ump

open Floid.Osk Floid.Lib BlockAllocator
open BitVec (eq_of_toNat_eq lt_def ofNat)

def dedicatedAllocate (request : DedicatedRequest) (sizeBytes : U32) (allocator : BlockAllocator)
    (tables : Nat) : Option (Option DedicatedMem × BlockAllocator × Nat) :=
  let nrBlocks := BlockAllocator.wholeBlocks sizeBytes / umpBlockSize
  if sizeBytes = 0 then none
  else if request.memory ∧ nrBlocks ≠ 0 then
    let tables := tables + 1
    if request.mutex then do
      let loop ← DedicatedLoop.run nrBlocks allocator.numBlocks.toNat
        ⟨allocator, none, sizeBytes, 0, []⟩
      if loop.left ≠ 0 then
        let restored ← loop.allocator.relink allocator.numBlocks.toNat loop.lastAllocated
        return (none, restored, tables - 1)
      else
        return (some ⟨loop.sizeBytes, nrBlocks, loop.blockArray, loop.lastAllocated⟩, loop.allocator, tables)
    else some (none, allocator, tables)
  else some (none, allocator, tables)

/-- What the kernel has given out: how many tables, and the pages, with those that are mapped for
DMA, the last one first. A page has the same address for the bus and for the CPU. -/
structure Kernel where
  tables : Nat
  pages : List U32
  mapped : List U32

/-- `os_allocator`. -/
structure OsBackend where
  numPagesMax : U32
  numPagesAllocated : U32

/-- What happens around an allocation: whether the wait for the mutex is not interrupted, whether
there is memory for the table, and what `alloc_page` returns each time. -/
structure OsRequest where
  mutex : Bool
  memory : Bool
  page : Nat → Option U32

structure OsFilling where
  left : U32
  blockArray : List PhysicalBlock
  kernel : Kernel

namespace OsFilling

def pagesAllocated (filling : OsFilling) : Nat := filling.blockArray.length

def take (isCached : Bool) (filling : OsFilling) (page : U32) : OsFilling where
  left := if filling.left < pageSize then 0 else filling.left - pageSize
  blockArray := filling.blockArray ++ [⟨page, pageSize⟩]
  kernel := { filling.kernel with
    pages := page :: filling.kernel.pages
    mapped := if isCached then filling.kernel.mapped else page :: filling.kernel.mapped }

def run (backend : OsBackend) (request : OsRequest) (isCached : Bool) (nrBlocks : Nat) :
    Nat → OsFilling → Option OsFilling
  | fuel, filling =>
      if 0 < filling.left ∧ backend.numPagesAllocated + ofNat 32 filling.pagesAllocated <
          backend.numPagesMax then
        match request.page filling.pagesAllocated, fuel with
        | none, _ => some filling
        | some _, 0 => none
        | some page, fuel + 1 =>
            if filling.pagesAllocated < nrBlocks then
              run backend request isCached nrBlocks fuel (filling.take isCached page)
            else none
      else some filling

end OsFilling

def freePage (isCached : Bool) (block : PhysicalBlock) (kernel : Kernel) : Kernel :=
  { kernel with
    pages := kernel.pages.erase block.addr
    mapped := if isCached then kernel.mapped else kernel.mapped.erase block.addr }

def osNrBlocks (sizeBytes : U32) : U32 :=
  ((sizeBytes + pageSize - 1) &&& ~~~(pageSize - 1)) >>> 12

def osAllocate (request : OsRequest) (sizeBytes : U32) (isCached : Bool) (backend : OsBackend)
    (kernel : Kernel) : Option (Option (List PhysicalBlock) × OsBackend × Kernel) :=
  if request.mutex then
    let nrBlocks := osNrBlocks sizeBytes
    if request.memory ∧ nrBlocks ≠ 0 then do
      let filling ← OsFilling.run backend request isCached nrBlocks.toNat nrBlocks.toNat
        ⟨sizeBytes, [], { kernel with tables := kernel.tables + 1 }⟩
      if filling.left ≠ 0 then
        -- the pages go back, from the last to the first
        return (none, backend, filling.blockArray.foldr (freePage isCached) filling.kernel)
      else
        return (some filling.blockArray, { backend with
          numPagesAllocated :=
            backend.numPagesAllocated + ofNat 32 filling.pagesAllocated }, filling.kernel)
    else some (none, backend, kernel)
  else some (none, backend, kernel)

def DedicatedAllOrNothing (request : DedicatedRequest) (sizeBytes : U32) (allocator : BlockAllocator)
    (tables : Nat) : Prop :=
  ∀ after left, dedicatedAllocate request sizeBytes allocator tables = some (none, after, left) →
    after.freeList = allocator.freeList ∧ after.numFree = allocator.numFree ∧ left = tables

def OsAllOrNothing (request : OsRequest) (sizeBytes : U32) (isCached : Bool) (backend : OsBackend)
    (kernel : Kernel) : Prop :=
  ∀ after left, osAllocate request sizeBytes isCached backend kernel = some (none, after, left) →
    after = backend ∧ left = kernel

def OsRequest.PageAt (request : OsRequest) (backend : OsBackend) (index : Nat) : Prop :=
  backend.numPagesAllocated + ofNat 32 index < backend.numPagesMax ∧ (request.page index).isSome

section Dedicated

variable {request : DedicatedRequest} {sizeBytes : U32} {allocator after : BlockAllocator}
  {tables left : Nat} {mem : Option DedicatedMem}

theorem dedicatedAllocate_some
    (ran : dedicatedAllocate request sizeBytes allocator tables = some (mem, after, left)) :
    blockAllocatorAllocate request sizeBytes allocator = some (mem, after) := by
  unfold dedicatedAllocate at ran
  unfold blockAllocatorAllocate
  by_cases zero : sizeBytes = 0
  · rw [if_pos zero] at ran
    cases ran
  rw [if_neg zero] at ran ⊢
  by_cases table : request.memory ∧ wholeBlocks sizeBytes / umpBlockSize ≠ 0
  · rw [if_pos table] at ran ⊢
    by_cases mutex : request.mutex = true
    · rw [if_pos mutex] at ran ⊢
      obtain ⟨loop, filled, ran⟩ := Option.bind_eq_some_iff.mp ran
      rw [filled, Option.bind_eq_bind, Option.bind_some]
      by_cases short : loop.left ≠ 0
      · rw [if_pos short] at ran ⊢
        obtain ⟨restored, relinked, ran⟩ := Option.bind_eq_some_iff.mp ran
        cases ran
        rw [relinked]
        rfl
      · rw [if_neg short] at ran ⊢
        cases ran
        rfl
    · rw [if_neg mutex] at ran ⊢
      cases ran
      rfl
  · rw [if_neg table] at ran ⊢
    cases ran
    rfl

theorem dedicatedAllocate_tables
    (ran : dedicatedAllocate request sizeBytes allocator tables = some (none, after, left)) :
    left = tables ↔ request.mutex = true ∨ request.memory = false ∨
      wholeBlocks sizeBytes / umpBlockSize = 0 := by
  unfold dedicatedAllocate at ran
  by_cases zero : sizeBytes = 0
  · rw [if_pos zero] at ran
    cases ran
  rw [if_neg zero] at ran
  by_cases table : request.memory ∧ wholeBlocks sizeBytes / umpBlockSize ≠ 0
  · rw [if_pos table] at ran
    by_cases mutex : request.mutex = true
    · rw [if_pos mutex] at ran
      obtain ⟨loop, filled, ran⟩ := Option.bind_eq_some_iff.mp ran
      by_cases short : loop.left ≠ 0
      · rw [if_pos short] at ran
        obtain ⟨restored, relinked, ran⟩ := Option.bind_eq_some_iff.mp ran
        cases ran
        exact iff_of_true (Nat.add_sub_cancel tables 1) (.inl mutex)
      · rw [if_neg short] at ran
        cases ran
    · rw [if_neg mutex] at ran
      cases ran
      refine iff_of_false (Nat.succ_ne_self tables) ?_
      rw [not_or, not_or]
      exact ⟨mutex, by rw [table.1]; exact Bool.noConfusion, table.2⟩
  · rw [if_neg table] at ran
    cases ran
    refine iff_of_true rfl (.inr ?_)
    by_cases memory : request.memory = true
    · exact .inr (by_contra fun entries => table ⟨memory, entries⟩)
    · exact .inl (eq_false_of_ne_true memory)

theorem dedicatedAllocate_interrupted (nonzero : sizeBytes ≠ 0) (memory : request.memory = true)
    (entries : wholeBlocks sizeBytes / umpBlockSize ≠ 0)
    (interrupted : request.mutex = false) :
    dedicatedAllocate request sizeBytes allocator tables = some (none, allocator, tables + 1) := by
  unfold dedicatedAllocate
  rw [if_neg nonzero, if_pos ⟨memory, entries⟩, if_neg (by rw [interrupted]; exact Bool.false_ne_true)]

end Dedicated

variable {baseAddress : U32} {pool : DedicatedPool}

variable {size : U32}

theorem dedicated_uninterrupted (reached : (dedicatedSystem baseAddress size).Reachable pool) :
    ∃ mems, pool.mems.Sublist mems ∧
      ((dedicatedSystem baseAddress size).restrict ReleaseUninterrupted).Reachable
        ⟨pool.allocator, mems⟩ := by
  induction reached with
  | @initial pool starts => exact ⟨pool.mems, List.Sublist.refl _, .initial starts⟩
  | @step pool action after _ stepped ih =>
    obtain ⟨mems, still, reached⟩ := ih
    cases stepped with
    | @allocated request sizeBytes mem allocator ran =>
      refine ⟨mem.toList ++ mems, (List.Sublist.refl _).append still, ?_⟩
      exact reached.next (.allocate request sizeBytes) ⟨trivial, .allocated ran⟩
    | @released handle mutex allocator before after out ran =>
      rw [out, List.append_sublist_iff] at still
      obtain ⟨front, back, rfl, beforeStill, still⟩ := still
      obtain ⟨middle, rest, rfl, member, afterStill⟩ := List.cons_sublist_iff.mp still
      cases mutex with
      | true =>
        obtain ⟨first, second, rfl⟩ := List.append_of_mem member
        refine ⟨front ++ first ++ (second ++ rest), ?_, ?_⟩
        · exact (beforeStill.trans (List.sublist_append_left _ _)).append
            (afterStill.trans (List.sublist_append_right _ _))
        · refine reached.next (.release handle true) ⟨rfl, ?_⟩
          exact .released (by simp) ran
      | false =>
        have same : allocator = pool.allocator := by
          rw [blockAllocatorRelease] at ran
          split at ran
          · cases ran
          · exact (Option.some.inj ran).symm
        rw [same]
        refine ⟨front ++ (middle ++ rest), ?_, reached⟩
        exact beforeStill.append (afterStill.trans (List.sublist_append_right _ _))

theorem dedicatedAllOrNothing_iff
    (reached : (dedicatedSystem baseAddress size).Reachable pool) (request : DedicatedRequest)
    (sizeBytes : U32) (tables : Nat) :
    DedicatedAllOrNothing request sizeBytes pool.allocator tables ↔
      sizeBytes = 0 ∨ request.mutex = true ∨ request.memory = false ∨
        wholeBlocks sizeBytes / umpBlockSize = 0 := by
  obtain ⟨mems, _, uninterrupted⟩ := dedicated_uninterrupted reached
  obtain ⟨_, free, held, books⟩ := dedicated_books uninterrupted
  constructor
  · intro returns
    by_contra leaks
    rw [not_or, not_or, not_or] at leaks
    obtain ⟨nonzero, interrupted, memory, entries⟩ := leaks
    have kept := (returns _ _ (dedicatedAllocate_interrupted nonzero
      (eq_true_of_ne_false memory) entries (eq_false_of_ne_true interrupted))).2.2
    omega
  · intro condition after left ran
    have allocated := dedicatedAllocate_some ran
    have nonzero := blockAllocatorAllocate_nonzero allocated
    obtain ⟨mem, same, now, rest, again, result⟩ :=
      blockAllocatorAllocate_exists request nonzero books.onFree books.free_length_le
    rw [allocated, Option.some.injEq, Prod.mk.injEq] at again
    obtain ⟨rfl, rfl⟩ := again
    obtain rfl := (result.refused rfl).1
    have split : free = rest := result.split
    have counted := result.numFree
    refine ⟨?_, ?_, (dedicatedAllocate_tables ran).mpr (condition.resolve_left nonzero)⟩
    · have onFree := result.onFree
      rw [← split] at onFree
      rw [books.freeList_eq]
      exact onFree.walk_eq (by rw [result.numBlocks]; exact books.free_length_le)
    · rw [← counted]
      exact (BitVec.add_zero _).symm

theorem osNrBlocks_toNat (sizeBytes : U32) :
    (osNrBlocks sizeBytes).toNat = (sizeBytes.toNat + (2 ^ 12 - 1)) % 2 ^ 32 / 2 ^ 12 := by
  have whole : osNrBlocks sizeBytes = (sizeBytes + pageSize - 1) >>> 12 := by
    have mask : ~~~(pageSize - 1) = BitVec.allOnes 32 <<< 12 := by decide
    rw [osNrBlocks, mask]
    ext bit
    simp only [BitVec.getElem_ushiftRight, BitVec.getLsbD_and, BitVec.getLsbD_shiftLeft, BitVec.getLsbD_allOnes]
    grind
  have sum : (sizeBytes + pageSize - 1).toNat = (sizeBytes.toNat + (2 ^ 12 - 1)) % 2 ^ 32 := by
    rw [show sizeBytes + pageSize - 1 = sizeBytes + 0xFFF#32 by rw [pageSize]; grind, BitVec.toNat_add]
    rfl
  rw [whole, BitVec.toNat_ushiftRight, sum, Nat.shiftRight_eq_div_pow]

section Os

variable {backend : OsBackend} {request : OsRequest} {isCached : Bool} {nrBlocks : Nat}
  {filling after : OsFilling}

structure OsFilling.Filled (request : OsRequest) (backend : OsBackend) (isCached : Bool)
    (filling after : OsFilling) : Prop where
  more : filling.pagesAllocated ≤ after.pagesAllocated
  left : after.left.toNat = filling.left.toNat - (after.pagesAllocated - filling.pagesAllocated) * 2 ^ 12
  tables : after.kernel.tables = filling.kernel.tables
  returns : after.blockArray.foldr (freePage isCached) after.kernel =
    filling.blockArray.foldr (freePage isCached) filling.kernel
  pages : ∀ index, filling.pagesAllocated ≤ index → index < after.pagesAllocated → request.PageAt backend index
  ends : after.left = 0 ∨ ¬request.PageAt backend after.pagesAllocated

theorem OsFilling.take_left (page : U32) :
    (filling.take isCached page).left.toNat = filling.left.toNat - 2 ^ 12 := by
  have size : pageSize.toNat = 2 ^ 12 := rfl
  rw [take]
  split
  · rename_i less
    rw [lt_def, size] at less
    rw [show (0 : U32).toNat = 0 from rfl]
    omega
  · rename_i less
    rw [lt_def, size] at less
    rw [BitVec.toNat_sub_of_le (by rw [BitVec.le_def, size]; omega), size]

theorem OsFilling.take_returns (page : U32) : (filling.take isCached page).blockArray.foldr (freePage isCached)
        (filling.take isCached page).kernel =
      filling.blockArray.foldr (freePage isCached) filling.kernel := by
  rw [take, List.foldr_append]
  congr 1
  cases isCached <;> simp [freePage]

theorem OsFilling.Filled.refl (ends : filling.left = 0 ∨ ¬request.PageAt backend filling.pagesAllocated) :
    filling.Filled request backend isCached filling where
  more := Nat.le_refl _
  left := by rw [Nat.sub_self, Nat.zero_mul, Nat.sub_zero]
  tables := rfl
  returns := rfl
  pages index from_ before := absurd before (Nat.not_lt_of_le from_)
  ends := ends

theorem OsFilling.Filled.cons {page : U32} (here : request.PageAt backend filling.pagesAllocated)
    (filled : (filling.take isCached page).Filled request backend isCached after) :
    filling.Filled request backend isCached after := by
  have next : (filling.take isCached page).pagesAllocated = filling.pagesAllocated + 1 :=
    List.length_append
  have more := filled.more
  have left := filled.left
  rw [next] at more left
  rw [take_left] at left
  refine ⟨by omega, by omega, filled.tables, filled.returns.trans (take_returns page), ?_, filled.ends⟩
  intro index from_ before
  rcases Nat.eq_or_lt_of_le from_ with rfl | later
  · exact here
  · exact filled.pages index (by omega) before

theorem OsFilling.run_exists {fuel : Nat}
    (entries : filling.left.toNat + filling.pagesAllocated * 2 ^ 12 ≤ nrBlocks * 2 ^ 12)
    (enough : nrBlocks ≤ fuel + filling.pagesAllocated) :
    ∃ after, run backend request isCached nrBlocks fuel filling = some after ∧
      filling.Filled request backend isCached after := by
  induction fuel generalizing filling with
  | zero =>
    have full : filling.left = 0 := eq_of_toNat_eq (by simp; omega)
    refine ⟨filling, ?_, .refl (.inl full)⟩
    unfold run
    rw [full, if_neg fun both => absurd both.1 (by decide)]
  | succ fuel ih =>
    unfold run
    by_cases more : 0 < filling.left ∧
        backend.numPagesAllocated + ofNat 32 filling.pagesAllocated < backend.numPagesMax
    · rw [if_pos more]
      cases got : request.page filling.pagesAllocated with
      | none =>
        refine ⟨filling, rfl, .refl (.inr fun here => ?_)⟩
        rw [OsRequest.PageAt, got] at here
        exact absurd here.2 Bool.false_ne_true
      | some page =>
        have bytes : 0 < filling.left.toNat := lt_def.mp more.1
        have room : filling.pagesAllocated < nrBlocks := by omega
        have next : (filling.take isCached page).pagesAllocated = filling.pagesAllocated + 1 :=
          List.length_append
        have left := @take_left isCached filling page
        dsimp only
        rw [if_pos room]
        obtain ⟨after, ran, filled⟩ := @ih (filling.take isCached page) (by omega) (by omega)
        exact ⟨after, ran, .cons ⟨more.2, by rw [got]; rfl⟩ filled⟩
    · rw [if_neg more]
      refine ⟨filling, rfl, .refl ?_⟩
      by_cases full : filling.left = 0
      · exact .inl full
      · refine .inr fun here => more ⟨?_, here.1⟩
        rw [lt_def]
        exact Nat.pos_of_ne_zero fun zero => full (eq_of_toNat_eq zero)

theorem osAllocate_cases (request : OsRequest) (sizeBytes : U32) (isCached : Bool)
    (backend : OsBackend) (kernel : Kernel) (mutex : request.mutex = true)
    (memory : request.memory = true) (entries : osNrBlocks sizeBytes ≠ 0) :
    (∀ index < (osNrBlocks sizeBytes).toNat, request.PageAt backend index) ∧
        (∃ table after left, osAllocate request sizeBytes isCached backend kernel = some (some table, after, left)) ∨
      ¬(∀ index < (osNrBlocks sizeBytes).toNat, request.PageAt backend index) ∧
        osAllocate request sizeBytes isCached backend kernel =
          some (none, backend, { kernel with tables := kernel.tables + 1 }) := by
  have count := osNrBlocks_toNat sizeBytes
  have nonzero : (osNrBlocks sizeBytes).toNat ≠ 0 := fun zero => entries (eq_of_toNat_eq zero)
  let start : OsFilling := ⟨sizeBytes, [], { kernel with tables := kernel.tables + 1 }⟩
  have fresh : start.pagesAllocated = 0 := rfl
  have all : start.left = sizeBytes := rfl
  obtain ⟨after, ran, filled⟩ := @OsFilling.run_exists backend request isCached
    (osNrBlocks sizeBytes).toNat start (osNrBlocks sizeBytes).toNat
    (by rw [all, fresh]; omega) (by rw [fresh]; omega)
  have left := filled.left
  rw [fresh, all, Nat.sub_zero] at left
  rw [osAllocate, if_pos mutex]
  dsimp only
  rw [if_pos ⟨memory, entries⟩, ran, Option.bind_eq_bind, Option.bind_some]
  by_cases full : after.left = 0
  · refine .inl ⟨fun index inside => filled.pages index (by omega) ?_, ?_⟩
    · rw [full, show (0 : U32).toNat = 0 from rfl] at left
      omega
    · rw [if_neg fun stillLeft => stillLeft full]
      exact ⟨_, _, _, rfl⟩
  · refine .inr ⟨fun pages => ?_, ?_⟩
    · have stuck := filled.ends.resolve_left full
      have bytes : after.left.toNat ≠ 0 := fun zero => full (eq_of_toNat_eq zero)
      exact stuck (pages _ (by omega))
    · rw [if_pos full, filled.returns]
      rfl

theorem osAllOrNothing_iff (request : OsRequest) (sizeBytes : U32) (isCached : Bool)
    (backend : OsBackend) (kernel : Kernel) :
    OsAllOrNothing request sizeBytes isCached backend kernel ↔
      request.mutex = false ∨ request.memory = false ∨ osNrBlocks sizeBytes = 0 ∨
        ∀ index < (osNrBlocks sizeBytes).toNat, request.PageAt backend index := by
  by_cases early : request.mutex = true ∧ request.memory = true ∧ osNrBlocks sizeBytes ≠ 0
  · obtain ⟨mutex, memory, entries⟩ := early
    rw [mutex, memory]
    simp only [Bool.true_eq_false, false_or, entries]
    rcases osAllocate_cases request sizeBytes isCached backend kernel mutex memory entries with
      ⟨pages, table, after, left, ran⟩ | ⟨short, ran⟩
    · refine iff_of_true (fun after left failed => ?_) pages
      rw [ran] at failed
      cases failed
    · refine iff_of_false (fun returns => ?_) short
      have kept := congrArg Kernel.tables (returns _ _ ran).2
      exact Nat.succ_ne_self _ kept
  · have unchanged : osAllocate request sizeBytes isCached backend kernel = some (none, backend, kernel) := by
      rw [osAllocate]
      dsimp only
      by_cases mutex : request.mutex = true
      · rw [if_pos mutex, if_neg fun table => early ⟨mutex, table⟩]
      · rw [if_neg mutex]
    refine iff_of_true (fun after left failed => ?_) ?_
    · rw [unchanged] at failed
      cases failed
      exact ⟨rfl, rfl⟩
    · by_contra condition
      simp only [not_or, Bool.not_eq_false] at condition
      exact early ⟨condition.1, condition.2.1, condition.2.2.1⟩

end Os

/-- When an allocation fails, everything goes back if and only if the dedicated backend is not
interrupted while it waits for its mutex with a table in hand, and the other backend has no table
in hand when a page is not to be had. -/
theorem backendAllOrNothing_iff {baseAddress size : U32} {pool : DedicatedPool}
    (reached : (dedicatedSystem baseAddress size).Reachable pool) (dedicated : DedicatedRequest)
    (tables : Nat) (request : OsRequest) (isCached : Bool) (backend : OsBackend) (kernel : Kernel)
    (sizeBytes : U32) :
    (DedicatedAllOrNothing dedicated sizeBytes pool.allocator tables ↔
      sizeBytes = 0 ∨ dedicated.mutex = true ∨ dedicated.memory = false ∨
        BlockAllocator.wholeBlocks sizeBytes / umpBlockSize = 0) ∧
    (OsAllOrNothing request sizeBytes isCached backend kernel ↔
      request.mutex = false ∨ request.memory = false ∨ osNrBlocks sizeBytes = 0 ∨
        ∀ index < (osNrBlocks sizeBytes).toNat, request.PageAt backend index) :=
  ⟨dedicatedAllOrNothing_iff reached dedicated sizeBytes tables,
    osAllOrNothing_iff request sizeBytes isCached backend kernel⟩

theorem backendAllOrNothing_iff_twoBlocks : DedicatedAllOrNothing ⟨true, true⟩ 0xC0000#32
        (newBackend 0x80000000#32 0x80000#32 (by decide)).allocator 0 ∧
      OsAllOrNothing ⟨false, true, fun _ => none⟩ 0xC0000#32 false ⟨16#32, 0#32⟩ ⟨0, [], []⟩ := by
  have usable : BlockAllocator.wholeBlocks 0x80000#32 ≠ 0 := by decide
  have both := backendAllOrNothing_iff (.initial (@newBackend_initial 0x80000000#32 _ usable))
    ⟨true, true⟩ 0 ⟨false, true, fun _ => none⟩ false ⟨16#32, 0#32⟩ ⟨0, [], []⟩ 0xC0000#32
  exact ⟨both.1.mpr (.inr (.inl rfl)), both.2.mpr (.inl rfl)⟩

/-- A wait that is interrupted costs the one backend a table, and a page that is not to be had the
other. -/
theorem not_allOrNothing : ¬DedicatedAllOrNothing ⟨true, false⟩ 0x1000#32
        (newBackend 0x80000000#32 0x80000#32 (by decide)).allocator 0 ∧
      ¬OsAllOrNothing ⟨true, true, fun _ => none⟩ 0x1000#32 false ⟨16#32, 0#32⟩ ⟨0, [], []⟩ := by
  constructor
  · intro returns
    have kept := returns _ _ (dedicatedAllocate_interrupted (by decide) rfl (by decide) rfl)
    exact absurd kept.2.2 (by decide)
  · intro returns
    have kept := returns ⟨16#32, 0#32⟩ ⟨1, [], []⟩ rfl
    exact absurd (congrArg Kernel.tables kept.2) (by decide)

end Floid.Ump
