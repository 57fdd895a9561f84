import Floid.Mmu.CacheRuns
import Floid.Mmu.LinkedSession
import Mathlib.Data.List.Pairwise

namespace Floid.Mmu

open Floid.Osk AddressSpace
open Prod (ext fst snd)

def PageTableCache.Free (cache : PageTableCache) (page : U32) : Prop :=
  ∃ alloc ∈ cache.allocations, ∃ number < alloc.numPages,
    alloc.usageMap.bit number = false ∧ page = alloc.page number

structure AddressSpace.Unchanged (before after : AddressSpace) : Prop where
  directory : ∀ index < 1024, after.directory index = before.directory index
  mapped : ∀ index < 1024, after.session.pageEntriesMapped index = before.session.pageEntriesMapped index
  counts : ∀ index < 1024,
    after.session.pageEntriesUsageCount index = before.session.pageEntriesUsageCount index
  free : ∀ page, after.cache.Free page ↔ before.cache.Free page

def failedPdeIdx (supply : PageTableSupply) (descriptor : MemoryAllocation) (space : AddressSpace) : Nat :=
  (allocateEntries supply (descriptor.lastPdeIdx + 1 - descriptor.firstPdeIdx) descriptor.firstPdeIdx space).1

namespace PageTableCache

variable {before middle after : PageTableCache}

theorem exists_usedPage (wellFormed : before.WellFormed) {alloc : PageTableAllocation}
    (member : alloc ∈ before.allocations) : ∃ page, alloc.Uses page := by
  have positive := usageCount_pos wellFormed member
  rw [(wellFormed.each alloc member).counted, Finset.card_pos] at positive
  obtain ⟨number, used⟩ := positive
  exact ⟨alloc.page number, number, used, rfl⟩

theorem extent_eq_of_page (wellFormed : middle.WellFormed) {left right : PageTableAllocation}
    (leftWellFormed : left.WellFormed) (rightWellFormed : right.WellFormed)
    (leftMember : left.extent ∈ middle.extents) (rightMember : right.extent ∈ middle.extents)
    {page : U32} (leftUses : left.Uses page) (rightUses : right.Uses page) :
    left.extent = right.extent := by
  by_contra different
  have symmetric : Std.Symm Apart := ⟨fun _ _ => Apart.symm⟩
  have apart := List.Pairwise.forall wellFormed.apart leftMember rightMember different
  have absent := apart.not_contains leftWellFormed rightWellFormed (leftUses.contains leftWellFormed)
  rw [rightUses.contains rightWellFormed] at absent
  contradiction

theorem Free.transfer (beforeWellFormed : before.WellFormed) (middleWellFormed : middle.WellFormed)
    (afterWellFormed : after.WellFormed)
    (beforeExtents : ∀ extent ∈ before.extents, extent ∈ middle.extents)
    (afterExtents : ∀ extent ∈ after.extents, extent ∈ middle.extents)
    (inUse : ∀ page, after.InUse page ↔ before.InUse page) {page : U32}
    (free : before.Free page) : after.Free page := by
  obtain ⟨alloc, member, number, inside, clear, rfl⟩ := free
  have allocWellFormed := beforeWellFormed.each alloc member
  obtain ⟨usedPage, uses⟩ := exists_usedPage beforeWellFormed member
  obtain ⟨other, otherMember, otherUses⟩ := (inUse usedPage).mpr ⟨alloc, member, uses⟩
  have otherWellFormed := afterWellFormed.each other otherMember
  have same : other.extent = alloc.extent :=
    extent_eq_of_page middleWellFormed otherWellFormed allocWellFormed
      (afterExtents _ (List.mem_map_of_mem otherMember))
      (beforeExtents _ (List.mem_map_of_mem member)) otherUses uses
  have samePages : other.numPages = alloc.numPages := congrArg snd same
  have sameBase : other.physBase = alloc.physBase := BitVec.eq_of_toNat_eq (congrArg fst same)
  have samePage : alloc.page number = other.page number := by
    rw [PageTableAllocation.page, PageTableAllocation.page, sameBase]
  refine ⟨other, otherMember, number, samePages ▸ inside, ?_, samePage⟩
  cases bit : other.usageMap.bit number with
  | false => rfl
  | true =>
    have used : after.InUse (alloc.page number) := by
      refine ⟨other, otherMember, number, ?_, samePage⟩
      exact PageTableAllocation.mem_usedPages.mpr ⟨samePages ▸ inside, bit⟩
    exact absurd rfl
      (not_free_of_inUse beforeWellFormed ((inUse _).mp used) member inside clear)

end PageTableCache

variable {space middle after : AddressSpace} {descriptor : MemoryAllocation}
  {supply : PageTableSupply}

section Extents

theorem allocateEntry_extents {index : Nat} {block : Option PageTableBlock}
    (allocated : allocateEntry space index block = some after) :
    ∀ extent ∈ space.cache.extents, extent ∈ after.cache.extents := by
  intro extent member
  rw [allocateEntry] at allocated
  split at allocated
  · cases allocated
    exact member
  · cases got : getTablePage space.cache block with
    | none => simp [got] at allocated
    | some result =>
      obtain ⟨page, cache⟩ := result
      simp only [got, Option.map_some, Option.some.injEq] at allocated
      subst allocated
      have answered : ∃ answer : BlockAnswer, answer.kept = block := by
        cases block with
        | none => exact ⟨.nothing, rfl⟩
        | some new => exact ⟨.block new, rfl⟩
      obtain ⟨answer, rfl⟩ := answered
      have grown := PageTableCache.getTablePage_extents got
      exact grown.mem_iff.mpr (List.mem_append_right _ member)

theorem allocateEntries_extents {remaining index stop : Nat}
    (ran : allocateEntries supply remaining index space = (stop, middle)) :
    ∀ extent ∈ space.cache.extents, extent ∈ middle.cache.extents := by
  induction remaining generalizing index space with
  | zero =>
    cases ran
    exact fun _ member => member
  | succ remaining ih =>
    rw [allocateEntries] at ran
    cases allocated : allocateEntry space index (supply.answer index space.cache) with
    | none =>
      simp only [allocated, Prod.mk.injEq] at ran
      obtain ⟨rfl, rfl⟩ := ran
      exact fun _ member => member
    | some next =>
      simp only [allocated] at ran
      exact fun extent member => ih ran extent (allocateEntry_extents allocated extent member)

theorem dropReference_extents (index : Nat) :
    ∀ extent ∈ (dropReference space index).cache.extents, extent ∈ space.cache.extents := by
  intro extent member
  rw [dropReference] at member
  split at member
  · have kept := PageTableCache.releaseTablePage_extents space.cache
      (entryAddress (space.directory index))
    exact kept.mem_iff.mpr (List.mem_append_right _ member)
  · exact member

theorem rollbackEntries_extents (first remaining : Nat) :
    ∀ extent ∈ (rollbackEntries first remaining space).cache.extents, extent ∈ space.cache.extents := by
  induction remaining generalizing space with
  | zero => exact fun _ member => member
  | succ remaining ih => exact fun extent member => dropReference_extents _ extent (ih extent member)

end Extents

theorem addressManagerAllocate_refused (refused : addressManagerAllocate supply descriptor space = (.nomem, after)) :
    ∃ middle, allocateEntries supply (descriptor.lastPdeIdx + 1 - descriptor.firstPdeIdx)
        descriptor.firstPdeIdx space = (failedPdeIdx supply descriptor space, middle) ∧
      failedPdeIdx supply descriptor space ≤ descriptor.lastPdeIdx ∧
      after = rollbackEntries descriptor.firstPdeIdx
        (failedPdeIdx supply descriptor space - descriptor.firstPdeIdx) middle := by
  rw [failedPdeIdx]
  rcases ran : allocateEntries supply (descriptor.lastPdeIdx + 1 - descriptor.firstPdeIdx)
    descriptor.firstPdeIdx space with ⟨stop, middle⟩
  simp only [addressManagerAllocate, ran] at refused
  split at refused
  · rename_i before
    simp only [Prod.mk.injEq, true_and] at refused
    exact ⟨middle, rfl, before, refused.symm⟩
  · simp at refused

theorem unchanged_of_counted (linked : space.Linked)
    (refused : addressManagerAllocate supply descriptor space = (.nomem, after))
    (counted : ∀ index, descriptor.firstPdeIdx ≤ index →
      index < failedPdeIdx supply descriptor space → space.CountedAt index) :
    space.Unchanged after := by
  have first := @firstPdeIdx_lt descriptor
  have last := @lastPdeIdx_lt descriptor
  obtain ⟨middle, ran, failed, rolled⟩ := addressManagerAllocate_refused refused
  generalize failedPdeIdx supply descriptor space = stop at *
  have wellFormed := linked.countsInside_wellFormed counted
  obtain ⟨lower, sameRun, counts⟩ :=
    allocateEntries_withCounts (space.countsInside descriptor.firstPdeIdx stop) ran
  have agrees : ∀ index, descriptor.firstPdeIdx ≤ index →
      index < descriptor.firstPdeIdx + (stop - descriptor.firstPdeIdx) →
      raised (space.countsInside descriptor.firstPdeIdx stop) descriptor.firstPdeIdx stop index =
        middle.session.pageEntriesUsageCount index := by
    intro index above below
    rw [counts, raised, raised, if_pos ⟨above, by omega⟩, if_pos ⟨above, by omega⟩, countsInside,
      if_pos ⟨above, by omega⟩]
  have sameRefused := refused
  rw [addressManagerAllocate, ran] at sameRefused
  have again : addressManagerAllocate supply descriptor
      (space.withCounts (space.countsInside descriptor.firstPdeIdx stop)) =
      (.nomem, after.withCounts (lowered (raised (space.countsInside descriptor.firstPdeIdx stop)
        descriptor.firstPdeIdx stop) descriptor.firstPdeIdx
        (descriptor.firstPdeIdx + (stop - descriptor.firstPdeIdx)))) := by
    simp only [addressManagerAllocate, sameRun, if_pos failed, Prod.mk.injEq, true_and]
    rw [rollbackEntries_withCounts _ agrees, rolled]
  obtain ⟨sameEntries, foreign⟩ := addressManagerAllocate_nomem wellFormed again
  have mapped (index : Nat) (inside : index < 1024) :
      after.session.pageEntriesMapped index = space.session.pageEntriesMapped index := by
    have same := mapped_of_entry (sameEntries.entries index inside)
    rwa [withCounts_mapped, withCounts_mapped] at same
  have inUse (page : U32) : after.cache.InUse page ↔ space.cache.InUse page := by
    have afterUse := inUse_iff sameEntries.wellFormed page
    have beforeUse := inUse_iff wellFormed page
    rw [withCounts_cache] at afterUse beforeUse
    rw [afterUse, beforeUse, foreign page]
    refine or_congr Iff.rfl (exists_congr fun index => and_congr_right fun inside => ?_)
    rw [withCounts_mapped, withCounts_mapped, mapped index inside]
  have middleWellFormed : middle.cache.WellFormed :=
    (allocateEntries_step wellFormed (by omega) sameRun).2.2.wellFormed.cache
  have grown := allocateEntries_extents ran
  have shrunk : ∀ extent ∈ after.cache.extents, extent ∈ middle.cache.extents := by
    rw [rolled]
    exact rollbackEntries_extents _ _
  refine ⟨fun index inside => ?_, mapped, fun index inside => ?_, fun page => ⟨?_, ?_⟩⟩
  · have afterLinked := sameEntries.wellFormed.toLinked
    rw [← withCounts_directory, linked.directory_eq afterLinked inside (mapped index inside)]
  · rw [rolled, rollbackEntries_counts, lowered, counts, raised]
    by_cases within : descriptor.firstPdeIdx ≤ index ∧ index < stop
    · rw [if_pos (by omega), if_pos within]
      rfl
    · rw [if_neg (by omega), if_neg within]
  · exact PageTableCache.Free.transfer sameEntries.wellFormed.cache middleWellFormed linked.cache
      shrunk grown fun page => (inUse page).symm
  · exact PageTableCache.Free.transfer linked.cache middleWellFormed sameEntries.wellFormed.cache
      grown shrunk inUse

theorem counted_of_unchanged (linked : space.Linked)
    (refused : addressManagerAllocate supply descriptor space = (.nomem, after))
    (unchanged : space.Unchanged after) {index : Nat} (above : descriptor.firstPdeIdx ≤ index)
    (below : index < failedPdeIdx supply descriptor space) : space.CountedAt index := by
  have last := @lastPdeIdx_lt descriptor
  obtain ⟨middle, ran, failed, rolled⟩ := addressManagerAllocate_refused refused
  generalize failedPdeIdx supply descriptor space = stop at *
  have inside : index < 1024 := by omega
  -- the loop links the same tables whatever the counts are
  have wellFormed := linked.recounted
  obtain ⟨_, sameRun, counts⟩ := allocateEntries_withCounts (space.countsInside 0 0) ran
  obtain ⟨_, _, step⟩ := allocateEntries_step wellFormed (by omega) sameRun
  have linkedNow : middle.session.pageEntriesMapped index ≠ none :=
    fun missing => (step.inside index inside above (by omega)).linked
      ((entry_table_eq_none index).mpr missing)
  have count : decrement (middle.session.pageEntriesUsageCount index) =
      space.session.pageEntriesUsageCount index := by
    rw [counts, raised, if_pos ⟨above, below⟩, decrement_of_pos (Nat.succ_pos _)]
    rfl
  have kept := unchanged.mapped index inside
  rw [rolled, rollbackEntries_mapped, count] at kept
  rw [CountedAt, ← kept]
  by_cases zero : space.session.pageEntriesUsageCount index = 0
  · rw [if_pos ⟨by omega, zero⟩]
    exact iff_of_true zero rfl
  · rw [if_neg fun both => zero both.2]
    exact iff_of_false zero linkedNow

/-- A refused allocation leaves everything as it was exactly when the usage counts of
the entries it went through say which of them have a page table. -/
theorem addressManagerAllocate_atomic_iff (linked : space.Linked)
    (refused : addressManagerAllocate supply descriptor space = (.nomem, after)) :
    space.Unchanged after ↔
      ∀ index, descriptor.firstPdeIdx ≤ index → index < failedPdeIdx supply descriptor space →
        space.CountedAt index :=
  ⟨fun unchanged _ above below => counted_of_unchanged linked refused unchanged above below,
    unchanged_of_counted linked refused⟩

def sessionOfPages (size : U32) : AddressSpace :=
  let cache : PageTableCache := ⟨[], [], fun _ _ => 0⟩
  (sessionBegin cache (some ⟨0x100000#32, size, fun _ _ => 0⟩)).getD
    ⟨cache, ⟨0, fun _ => none, fun _ => 0⟩⟩

theorem sessionOfPages_initial (size : U32) (several : 0x2000 ≤ size.toNat)
    (small : size.toNat ≤ 0x40000) : sessionSystem.initial ⟨sessionOfPages size, []⟩ := by
  refine ⟨rfl, ⟨[], [], fun _ _ => 0⟩, some ⟨0x100000#32, size, fun _ _ => 0⟩, ?_, ?_, rfl⟩
  · refine ⟨?_, ?_, ?_, ?_, ?_⟩ <;> simp [PageTableCache.allocations]
  · intro new same
    cases same
    refine ⟨show PageAligned 0x100000#32 by decide, ?_, ?_, by simp⟩
    · simp only [PageTableBlock.allocation]
      omega
    · change (0x100000#32).toNat + size.toNat ≤ 2 ^ 32
      rw [show (0x100000#32).toNat = 0x100000 from rfl]
      omega

theorem addressManagerAllocate_atomic_twoTables : (sessionOfPages 0x2000#32).Unchanged
      (addressManagerAllocate noSupply ⟨0#32, 0x800000#32, 0⟩ (sessionOfPages 0x2000#32)).2 := by
  have refused : (addressManagerAllocate noSupply ⟨0#32, 0x800000#32, 0⟩
      (sessionOfPages 0x2000#32)).1 = .nomem := by decide +kernel
  obtain ⟨_, cache, block, wellFormed, fresh, began⟩ :=
    sessionOfPages_initial 0x2000#32 (by decide) (by decide)
  have session := (sessionBegin_wellFormed wellFormed fresh began).1
  refine (addressManagerAllocate_atomic_iff session.toLinked (ext refused rfl)).mpr ?_
  intro index _ below
  have last := @lastPdeIdx_lt ⟨0#32, 0x800000#32, 0⟩
  obtain ⟨_, _, failed, _⟩ := addressManagerAllocate_refused (ext refused rfl)
  exact session.counted index (below.trans_le (failed.trans last.le))

def topPage : MemoryAllocation := ⟨0xFFC00000#32, 0x1000#32, 0⟩

def acrossBoundary : MemoryAllocation := ⟨0xFF7FF000#32, 0x2000#32, 0⟩

def guardPastTop : MemoryAllocation := ⟨0xFF800000#32, 0x800000#32, flagMapGuardPage⟩

def topTables : MemoryAllocation := ⟨0xFF000000#32, 0x1000000#32, 0⟩

def miscountedSession : Option AddressSpace :=
  let first := (addressManagerAllocate noSupply topPage (sessionOfPages 0x4000#32)).2
  let second := (addressManagerAllocate noSupply acrossBoundary first).2
  let third := (addressManagerAllocate noSupply guardPastTop second).2
  (addressManagerRelease guardPastTop third).bind (addressManagerRelease acrossBoundary)

theorem miscountedSession_reachable (ran : miscountedSession = some space) :
    sessionSystem.Reachable ⟨space, [topPage]⟩ := by
  have start := sessionOfPages_initial 0x4000#32 (by decide) (by decide)
  rw [miscountedSession, Option.bind_eq_some_iff] at ran
  obtain ⟨unguarded, released, ran⟩ := ran
  have first : (addressManagerAllocate noSupply topPage (sessionOfPages 0x4000#32)).1 = .ok := by
    decide +kernel
  have second : (addressManagerAllocate noSupply acrossBoundary
      (addressManagerAllocate noSupply topPage (sessionOfPages 0x4000#32)).2).1 = .ok := by
    decide +kernel
  have third : (addressManagerAllocate noSupply guardPastTop (addressManagerAllocate noSupply acrossBoundary
        (addressManagerAllocate noSupply topPage (sessionOfPages 0x4000#32)).2).2).1 = .ok := by
    decide +kernel
  have taken := Lib.TransitionSystem.Reachable.step (.step (.step (.initial start)
    (Step.allocated (ext first rfl))) (Step.allocated (ext second rfl)))
    (Step.allocated (ext third rfl))
  exact .step (.step taken (Step.released List.mem_cons_self released))
    (Step.released List.mem_cons_self ran)

/-- The call gets a page table for the entry whose count has run below zero, fails at a
later entry, and leaves that table linked. -/
theorem addressManagerAllocate_keeps_table : ∃ space live after, sessionSystem.Reachable ⟨space, live⟩ ∧
      addressManagerAllocate noSupply topTables space = (.nomem, after) ∧
      after.directory 1022 ≠ space.directory 1022 := by
  have kept : (miscountedSession.map fun space =>
      ((addressManagerAllocate noSupply topTables space).1, space.directory 1022,
        isPresent ((addressManagerAllocate noSupply topTables space).2.directory 1022))) =
      some (.nomem, 0#32, true) := by decide +kernel
  obtain ⟨space, ran, results⟩ := Option.map_eq_some_iff.mp kept
  simp only [Prod.mk.injEq] at results
  obtain ⟨refused, before, now⟩ := results
  refine ⟨space, [topPage], _, miscountedSession_reachable ran, ext refused rfl, ?_⟩
  intro same
  rw [same, before] at now
  simp at now

end Floid.Mmu
