import Floid.Lib.Transition
import Floid.Mmu.EntryRange

/-!
The address space of one session over time: the address manager's three calls on
it, and what the rest of the driver does to the shared page table cache meanwhile.
-/

namespace Floid.Mmu

open Floid.Osk AddressSpace PageTableCache

variable {space after : AddressSpace} {descriptor : MemoryAllocation}

theorem firstPdeIdx_lt : descriptor.firstPdeIdx < 1024 := pdeEntry_lt _

theorem lastPdeIdx_lt : descriptor.lastPdeIdx < 1024 := by
  unfold MemoryAllocation.lastPdeIdx
  split <;> exact pdeEntry_lt _

theorem releaseLastPdeIdx_lt : descriptor.releaseLastPdeIdx < 1024 := pdeEntry_lt _

structure AddressSpace.SameEntries (before after : AddressSpace) : Prop where
  wellFormed : after.WellFormed
  entries : ∀ index < 1024, after.entry index = before.entry index

variable {supply : PageTableSupply} {block : Option PageTableBlock} {page : U32}

theorem addressManagerAllocate_ok (wellFormed : space.WellFormed)
    (allocated : addressManagerAllocate supply descriptor space = (.ok, after)) :
    RangeStep space descriptor.firstPdeIdx (descriptor.lastPdeIdx + 1 - descriptor.firstPdeIdx)
      (fun _ => EntryView.Acquired) after := by
  have first := @firstPdeIdx_lt descriptor
  have last := @lastPdeIdx_lt descriptor
  rcases ran : allocateEntries supply (descriptor.lastPdeIdx + 1 - descriptor.firstPdeIdx)
    descriptor.firstPdeIdx space with ⟨stop, middle⟩
  obtain ⟨lower, upper, step⟩ := allocateEntries_step wellFormed (by omega) ran
  simp only [addressManagerAllocate, ran] at allocated
  split at allocated
  · simp at allocated
  · simp only [Prod.mk.injEq, true_and] at allocated
    subst allocated
    rwa [show stop - descriptor.firstPdeIdx = descriptor.lastPdeIdx + 1 - descriptor.firstPdeIdx by omega] at step

theorem addressManagerAllocate_nomem (wellFormed : space.WellFormed)
    (refused : addressManagerAllocate supply descriptor space = (.nomem, after)) :
    SameEntries space after ∧ ∀ page, after.Foreign page ↔ space.Foreign page := by
  have first := @firstPdeIdx_lt descriptor
  have last := @lastPdeIdx_lt descriptor
  rcases ran : allocateEntries supply (descriptor.lastPdeIdx + 1 - descriptor.firstPdeIdx)
    descriptor.firstPdeIdx space with ⟨stop, middle⟩
  obtain ⟨lower, upper, step⟩ := allocateEntries_step wellFormed (by omega) ran
  simp only [addressManagerAllocate, ran] at refused
  split at refused
  · simp only [Prod.mk.injEq, true_and] at refused
    subst refused
    have taken : ∀ index < descriptor.firstPdeIdx + (stop - descriptor.firstPdeIdx),
        descriptor.firstPdeIdx ≤ index → 0 < (middle.entry index).usageCount := by
      intro index upper lower
      have count := (step.inside index (by omega) lower upper).count
      omega
    have back := rollbackEntries_step step.wellFormed (by omega) taken
    refine ⟨⟨back.wellFormed, ?_⟩, fun page => (back.foreign page).trans (step.foreign page)⟩
    intro index below
    by_cases inside : descriptor.firstPdeIdx ≤ index ∧
        index < descriptor.firstPdeIdx + (stop - descriptor.firstPdeIdx)
    · rw [back.inside index below inside.1 inside.2]
      exact (step.inside index below inside.1 inside.2).dropped (entry_counted wellFormed below)
    · rw [back.outside index below (by omega), step.outside index below (by omega)]
  · simp at refused

theorem mapPages_kept {session : MemorySession} {fuel : Nat} {maliAddress maliAddressEnd phys : U32}
    {cache mapped : PageTableCache}
    (ran : mapPages session fuel maliAddress maliAddressEnd phys cache = some mapped) :
    mapped.partialAllocations = cache.partialAllocations ∧ mapped.full = cache.full ∧
      ∀ page, (∀ index < 1024, session.pageEntriesMapped index ≠ some page) →
        mapped.memory page = cache.memory page := by
  induction fuel generalizing maliAddress phys cache with
  | zero =>
    rw [mapPages] at ran
    split at ran
    · contradiction
    · cases ran
      exact ⟨rfl, rfl, fun _ _ => rfl⟩
  | succ fuel ih =>
    rw [mapPages] at ran
    split at ran
    · cases table : session.pageEntriesMapped (pdeEntry maliAddress) with
      | none => simp [table] at ran
      | some page =>
        simp only [table] at ran
        obtain ⟨partials, full, memory⟩ := ih ran
        refine ⟨partials, full, fun other absent => ?_⟩
        rw [memory other absent]
        refine iowrite32_other _ _ ?_
        rintro rfl
        exact absent _ (pdeEntry_lt _) table
    · cases ran
      exact ⟨rfl, rfl, fun _ _ => rfl⟩

structure AddressSpace.SameTables (before after : AddressSpace) : Prop where
  wellFormed : after.WellFormed
  mapped : ∀ index < 1024, after.session.pageEntriesMapped index = before.session.pageEntriesMapped index
  counts : ∀ index < 1024,
    after.session.pageEntriesUsageCount index = before.session.pageEntriesUsageCount index

theorem addressManagerMap_step {offset phys size : U32} (wellFormed : space.WellFormed)
    (mapped : addressManagerMap descriptor offset phys size space = some after) :
    SameTables space after := by
  rw [addressManagerMap, Option.map_eq_some_iff] at mapped
  obtain ⟨cache, ran, rfl⟩ := mapped
  obtain ⟨partials, full, memory⟩ := mapPages_kept ran
  have used (page : U32) : cache.InUse page ↔ space.cache.InUse page := by
    simp only [InUse, allocations, partials, full]
  have directoryKept : cache.memory space.session.pageDirectory =
      space.cache.memory space.session.pageDirectory := by
    refine memory _ fun index inside same => ?_
    exact (wellFormed.linked index inside _ same).2.2.1 rfl
  have cacheWellFormed : cache.WellFormed := by
    have before := wellFormed.cache
    refine ⟨?_, ?_, ?_, ?_, ?_⟩
    · simpa only [allocations, partials, full] using before.each
    · simpa only [partials] using before.partialUsed
    · simpa only [partials] using before.partialRoom
    · simpa only [full] using before.fullCount
    · simpa only [allocations, partials, full] using before.apart
  refine ⟨?_, fun _ _ => rfl, fun _ _ => rfl⟩
  refine ⟨cacheWellFormed, (used _).mpr wellFormed.directoryInUse, ?_, ?_, wellFormed.injective, wellFormed.counted⟩
  · intro index inside page linked
    obtain ⟨entry, inUse, apart, aligned⟩ := wellFormed.linked index inside page linked
    exact ⟨(congrFun directoryKept index).trans entry, (used page).mpr inUse, apart, aligned⟩
  · intro index inside unlinked
    exact (congrFun directoryKept index).trans (wellFormed.unlinked index inside unlinked)

theorem sessionBegin_wellFormed {cache : PageTableCache}
    (wellFormed : cache.WellFormed) (fresh : ∀ new, block = some new → new.Fresh cache)
    (began : sessionBegin cache block = some space) :
    space.WellFormed ∧ ∀ index, space.entry index = ⟨0, none⟩ := by
  rw [sessionBegin, Option.map_eq_some_iff] at began
  obtain ⟨⟨pageDirectory, after⟩, got, rfl⟩ := began
  have obtained := getTablePage_obtained wellFormed fresh got
  have filled : (after.fillPage pageDirectory 0).WellFormed :=
    ⟨obtained.wellFormed.each, obtained.wellFormed.partialUsed, obtained.wellFormed.partialRoom,
      obtained.wellFormed.fullCount, obtained.wellFormed.apart⟩
  refine ⟨⟨filled, (obtained.inUse _).mpr (.inl rfl), ?_, ?_, ?_, ?_⟩, fun _ => rfl⟩
  · intro index _ page linked
    simp at linked
  · intro index inside _
    simp [directory, fillPage, inside]
  · intro left _ right _ page linked
    simp at linked
  · intro index _
    simp

section Others

variable {cache : PageTableCache}

theorem AddressSpace.replaceCache (wellFormed : space.WellFormed) (cacheWellFormed : cache.WellFormed)
    (inUse : ∀ page, space.cache.InUse page → cache.InUse page ∨ space.Foreign page ∧
      page ≠ space.session.pageDirectory)
    (memory : ∀ page, space.cache.InUse page → cache.memory page = space.cache.memory page ∨
      space.Foreign page ∧ page ≠ space.session.pageDirectory) :
    SameEntries space { space with cache } := by
  have tables (index : Nat) (inside : index < 1024) (page : U32)
      (mapped : space.session.pageEntriesMapped index = some page) :
      cache.InUse page ∧ cache.memory page = space.cache.memory page := by
    have used := (wellFormed.linked index inside page mapped).2.1
    have mine : ¬space.Foreign page := fun foreign => foreign.2 index inside mapped
    exact ⟨(inUse page used).resolve_right fun other => mine other.1,
      (memory page used).resolve_right fun other => mine other.1⟩
  have directoryKept : cache.memory space.session.pageDirectory =
      space.cache.memory space.session.pageDirectory :=
    (memory _ wellFormed.directoryInUse).resolve_right fun other => other.2 rfl
  refine ⟨⟨cacheWellFormed, ?_, ?_, ?_, wellFormed.injective, wellFormed.counted⟩, ?_⟩
  · exact (inUse _ wellFormed.directoryInUse).resolve_right fun other => other.2 rfl
  · intro index inside page mapped
    obtain ⟨entry, _, apart, aligned⟩ := wellFormed.linked index inside page mapped
    exact ⟨(congrFun directoryKept index).trans entry, (tables index inside page mapped).1, apart, aligned⟩
  · intro index inside unmapped
    exact (congrFun directoryKept index).trans (wellFormed.unlinked index inside unmapped)
  · intro index inside
    simp only [AddressSpace.entry]
    congr 1
    cases mapped : space.session.pageEntriesMapped index with
    | none => rfl
    | some page => simp only [Option.map_some, (tables index inside page mapped).2]

end Others

structure SessionState where
  space : AddressSpace
  live : List MemoryAllocation

/-- The calls on one address space. Other sessions, and the driver itself, get,
write and release pages of the cache in between. -/
inductive Action where
  | allocate (descriptor : MemoryAllocation) (supply : PageTableSupply)
  | map (descriptor : MemoryAllocation) (offset phys size : U32)
  | release (descriptor : MemoryAllocation)
  | otherGet (block : Option PageTableBlock)
  | otherRelease (page : U32)
  | otherWrite (page : U32) (index : Nat) (value : U32)

inductive Step : SessionState → Action → SessionState → Prop where
  | allocated {space after live descriptor supply}
      (ran : addressManagerAllocate supply descriptor space = (.ok, after)) :
      Step ⟨space, live⟩ (.allocate descriptor supply) ⟨after, descriptor :: live⟩
  | refused {space after live descriptor supply}
      (ran : addressManagerAllocate supply descriptor space = (.nomem, after)) :
      Step ⟨space, live⟩ (.allocate descriptor supply) ⟨after, live⟩
  | mapped {space after live descriptor offset phys size} (isLive : descriptor ∈ live)
      (ran : addressManagerMap descriptor offset phys size space = some after) :
      Step ⟨space, live⟩ (.map descriptor offset phys size) ⟨after, live⟩
  | released {space after live descriptor} (isLive : descriptor ∈ live)
      (ran : addressManagerRelease descriptor space = some after) :
      Step ⟨space, live⟩ (.release descriptor) ⟨after, live.erase descriptor⟩
  | otherGot {space live block page cache}
      (fresh : ∀ new, block = some new → new.Fresh space.cache)
      (ran : getTablePage space.cache block = some (page, cache)) :
      Step ⟨space, live⟩ (.otherGet block) ⟨{ space with cache }, live⟩
  | otherReleased {space live page} (foreign : space.Foreign page)
      (notDirectory : page ≠ space.session.pageDirectory) :
      Step ⟨space, live⟩ (.otherRelease page)
        ⟨{ space with cache := releaseTablePage space.cache page }, live⟩
  | otherWrote {space live page index value} (foreign : space.Foreign page)
      (notDirectory : page ≠ space.session.pageDirectory) :
      Step ⟨space, live⟩ (.otherWrite page index value)
        ⟨{ space with cache := space.cache.iowrite32 page index value }, live⟩

def sessionSystem : Lib.TransitionSystem SessionState Action where
  initial state := state.live = [] ∧ ∃ cache block, cache.WellFormed ∧
    (∀ new, block = some new → PageTableBlock.Fresh new cache) ∧
    sessionBegin cache block = some state.space
  step := Step

theorem otherGot_step {cache : PageTableCache}
    (wellFormed : space.WellFormed) (fresh : ∀ new, block = some new → new.Fresh space.cache)
    (ran : getTablePage space.cache block = some (page, cache)) :
    SameEntries space { space with cache } := by
  have obtained := getTablePage_obtained wellFormed.cache fresh ran
  refine space.replaceCache wellFormed obtained.wellFormed ?_ ?_
  · exact fun other used => .inl ((obtained.inUse other).mpr (.inr used))
  · exact fun other used => .inl (obtained.kept other used)

theorem otherReleased_step (wellFormed : space.WellFormed)
    (foreign : space.Foreign page) (notDirectory : page ≠ space.session.pageDirectory) :
    SameEntries space { space with cache := releaseTablePage space.cache page } := by
  have released := releaseTablePage_released wellFormed.cache foreign.1
  refine space.replaceCache wellFormed released.wellFormed ?_ ?_
  · intro other used
    by_cases same : other = page
    · exact .inr ⟨same ▸ foreign, same ▸ notDirectory⟩
    · exact .inl ((released.inUse other).mpr ⟨same, used⟩)
  · intro other _
    by_cases same : other = page
    · exact .inr ⟨same ▸ foreign, same ▸ notDirectory⟩
    · exact .inl (released.kept other same)

theorem otherWrote_step (wellFormed : space.WellFormed) (foreign : space.Foreign page)
    (notDirectory : page ≠ space.session.pageDirectory) (index : Nat) (value : U32) :
    SameEntries space { space with cache := space.cache.iowrite32 page index value } := by
  refine space.replaceCache wellFormed
    (iowrite32_wellFormed wellFormed.cache page index value) ?_ ?_
  · exact fun other used => .inl used
  · intro other _
    by_cases same : other = page
    · exact .inr ⟨same ▸ foreign, same ▸ notDirectory⟩
    · exact .inl (iowrite32_other index value same)

end Floid.Mmu
