import Mathlib
import Floid.Mmu.ReleaseExact
import Floid.Mmu.SessionPages

namespace Floid.Mmu

open Floid.Osk AddressSpace PageTableAllocation
open List (mem_append mem_cons perm_middle)

def ClearPage (words : Words) : Prop := ∀ index < 1024, words index = 0

def PageTableBlock.Clear (block : PageTableBlock) : Prop :=
  ∀ number < block.allocation.numPages, 0 < number → ClearPage (block.contents (block.allocation.page number))

def PageTableCache.Clear (cache : PageTableCache) : Prop :=
  ∀ alloc ∈ cache.allocations, ∀ number < alloc.numPages,
    alloc.usageMap.bit number = false → ClearPage (cache.memory (alloc.page number))

namespace PageTableCache

variable {cache after : PageTableCache} {page : U32}

variable {alloc : PageTableAllocation} {number : Nat} {block : Option PageTableBlock}
    {full : List PageTableAllocation} {memory : PageMemory}

theorem not_free_of_inUse (wellFormed : cache.WellFormed) (used : cache.InUse page)
    (member : alloc ∈ cache.allocations)
    (inside : number < alloc.numPages) (clear : alloc.usageMap.bit number = false) :
    alloc.page number ≠ page := by
  obtain ⟨before, rest, split⟩ := List.append_of_mem member
  have perm : cache.allocations.Perm (alloc :: (before ++ rest)) := by
    rw [split]
    exact perm_middle
  rintro rfl
  exact not_inUse_of_clear wellFormed perm inside clear used

theorem Clear.iowrite32 (isClear : cache.Clear) (wellFormed : cache.WellFormed)
    (used : cache.InUse page) (index : Nat) (value : U32) :
    (cache.iowrite32 page index value).Clear := by
  intro alloc member number inside clear
  rw [iowrite32_other index value (not_free_of_inUse wellFormed used member inside clear)]
  exact isClear alloc member number inside clear

theorem fillPage_clear (cache : PageTableCache) (page : U32) :
    ClearPage ((cache.fillPage page 0).memory page) := by
  intro index inside
  simp [fillPage, inside]

theorem getTablePage_cons_clear {rest : List PageTableAllocation} (isClear : Clear ⟨alloc :: rest, full, memory⟩)
    (wellFormed : WellFormed ⟨alloc :: rest, full, memory⟩)
    (got : getTablePage ⟨alloc :: rest, full, memory⟩ block = some (page, after)) :
    after.Clear ∧ ClearPage (after.memory page) := by
  obtain ⟨free, inside, unset, rfl, kept, afterPerm, _⟩ := getTablePage_front wellFormed got
  refine ⟨fun other member number below clear => ?_, ?_⟩
  · rw [kept]
    rcases mem_cons.mp (afterPerm.mem_iff.mp member) with rfl | old
    · rw [take, bit_setNonatomicBit, Bool.or_eq_false_iff] at clear
      exact isClear alloc (by simp [allocations]) number below clear.1
    · exact isClear other (by simpa [allocations] using .inr (mem_append.mp old)) number below clear
  · rw [kept]
    exact isClear alloc (by simp [allocations]) free inside unset

theorem getTablePage_nil_clear {block : PageTableBlock} (isClear : Clear ⟨[], full, memory⟩)
    (wellFormed : WellFormed ⟨[], full, memory⟩) (fresh : block.Fresh ⟨[], full, memory⟩)
    (blockClear : block.Clear)
    (got : getTablePage ⟨[], full, memory⟩ (some block) = some (page, after)) :
    after.Clear ∧ ClearPage (after.memory page) := by
  have blockWellFormed := PageTableBlock.allocation_wellFormed fresh
  have several := fresh.several
  obtain ⟨rfl, rfl⟩ := got
  refine ⟨fun alloc member number inside clear => ?_, fillPage_clear _ _⟩
  rcases mem_cons.mp member with rfl | old
  · have later : 0 < number := by
      refine Nat.pos_of_ne_zero ?_
      rintro rfl
      simp [PageTableBlock.allocation, bit_setNonatomicBit] at clear
    have different : block.allocation.page number ≠ block.physBase := by
      rw [← PageTableBlock.page_zero]
      intro same
      have := page_injective blockWellFormed inside (by omega) same
      omega
    rw [fillPage_other _ _ _ different]
    simp only [contains_page blockWellFormed inside, if_true]
    exact blockClear number inside later
  · have allocWellFormed := wellFormed.each alloc old
    have apart := fresh.apart alloc old
    have outside := apart.symm.not_contains allocWellFormed blockWellFormed
      (contains_page allocWellFormed inside)
    have different : alloc.page number ≠ block.physBase := by
      intro same
      rw [same, ← PageTableBlock.page_zero, contains_page blockWellFormed (by omega)] at outside
      contradiction
    rw [fillPage_other _ _ _ different]
    simp only [outside, Bool.false_eq_true, if_false]
    exact isClear alloc old number inside clear

theorem getTablePage_clear (isClear : cache.Clear) (wellFormed : cache.WellFormed)
    (fresh : ∀ new, block = some new → new.Fresh cache ∧ new.Clear)
    (got : getTablePage cache block = some (page, after)) :
    after.Clear ∧ ClearPage (after.memory page) := by
  obtain ⟨partialAllocations, full, memory⟩ := cache
  cases partialAllocations with
  | cons alloc rest => exact getTablePage_cons_clear isClear wellFormed got
  | nil =>
    cases block with
    | none => simp [getTablePage] at got
    | some block =>
      obtain ⟨blockFresh, blockClear⟩ := fresh block rfl
      exact getTablePage_nil_clear isClear wellFormed blockFresh blockClear got

theorem releaseTablePage_free (wellFormed : cache.WellFormed) (used : cache.InUse page)
    (member : alloc ∈ (releaseTablePage cache page).allocations)
    (inside : number < alloc.numPages)
    (clear : alloc.usageMap.bit number = false) :
    alloc.page number = page ∨ ∃ old ∈ cache.allocations, number < old.numPages ∧
      old.usageMap.bit number = false ∧ old.page number = alloc.page number := by
  obtain ⟨old, rest, kept, perm, contained, _, afterPerm, keptIs, _⟩ :=
    releaseTablePage_front wellFormed used
  rcases mem_append.mp (afterPerm.mem_iff.mp member) with isKept | other
  · obtain rfl | ⟨rfl, -⟩ := keptIs
    · obtain rfl := List.mem_singleton.mp isKept
      obtain ⟨_, isPage⟩ := uses_of_contains wellFormed perm used contained
      rw [drop, bit_clearNonatomicBit, Bool.and_eq_false_iff] at clear
      rcases clear with unset | isNumber
      · exact .inr ⟨old, perm.mem_iff.mpr List.mem_cons_self, inside, unset, rfl⟩
      · simp only [Bool.not_eq_false', decide_eq_true_eq] at isNumber
        exact .inl (isNumber ▸ isPage.symm)
    · cases isKept
  · exact .inr ⟨alloc, perm.mem_iff.mpr (List.mem_cons_of_mem _ other), inside, clear, rfl⟩

theorem releaseTablePage_same_page (wellFormed : cache.WellFormed) (used : cache.InUse page) :
    (releaseTablePage cache page).memory page = (cache.fillPage page 0).memory page := by
  obtain ⟨_, _, _, _, _, memory, _⟩ := releaseTablePage_front wellFormed used
  rw [memory]

theorem Clear.releaseTablePage (isClear : cache.Clear) (wellFormed : cache.WellFormed)
    (used : cache.InUse page) : (releaseTablePage cache page).Clear := by
  intro alloc member number inside clear
  by_cases same : alloc.page number = page
  · rw [same, releaseTablePage_same_page wellFormed used]
    exact fillPage_clear cache page
  · rcases releaseTablePage_free wellFormed used member inside clear with
      is | ⟨old, isOld, oldInside, oldClear, samePage⟩
    · exact absurd is same
    · rw [releaseTablePage_other same, ← samePage]
      exact isClear old isOld number oldInside oldClear

end PageTableCache

theorem PageSteps.clear {own ownAfter : Set U32} {cache after : PageTableCache}
    (steps : PageSteps PageTableBlock.Clear own cache ownAfter after) (isClear : cache.Clear)
    (wellFormed : cache.WellFormed) (owned : ∀ page ∈ own, cache.InUse page) : after.Clear := by
  induction steps with
  | nil => exact isClear
  | get fresh got _ ih =>
    have obtained := PageTableCache.getTablePage_obtained wellFormed
      (fun new is => (fresh new is).1) got
    exact ih (PageTableCache.getTablePage_clear isClear wellFormed fresh got).1 obtained.wellFormed
      fun other member => (obtained.inUse other).mpr (member.imp_right (owned other))
  | write index value mine _ ih =>
    exact ih (isClear.iowrite32 wellFormed (owned _ mine) index value)
      (PageTableCache.iowrite32_wellFormed wellFormed _ index value) owned
  | release mine _ ih =>
    have released := PageTableCache.releaseTablePage_released wellFormed (owned _ mine)
    exact ih (isClear.releaseTablePage wellFormed (owned _ mine)) released.wellFormed
      fun other member => (released.inUse other).mpr ⟨member.2, owned other member.1⟩

section Allocate

variable {space after : AddressSpace}

def FreshlyLinked (old new : EntryView) : Prop :=
  old.table = none → ∀ page words, new.table = some (page, words) → ClearPage words

theorem allocateEntry_clear (wellFormed : space.WellFormed) (isClear : space.cache.Clear)
    {index : Nat} (inside : index < 1024) {block : Option PageTableBlock}
    (fresh : ∀ new, block = some new → new.Fresh space.cache ∧ new.Clear)
    (allocated : allocateEntry space index block = some after) :
    ∃ view, EntryStep space index view after ∧ FreshlyLinked (space.entry index) view := by
  cases mapped : space.session.pageEntriesMapped index with
  | some page =>
    obtain ⟨view, step, _⟩ := allocateEntry_step wellFormed inside
      (fun new is => (fresh new is).1) allocated
    refine ⟨view, step, fun unlinked => ?_⟩
    rw [entry_table_eq_none, mapped] at unlinked
    contradiction
  | none =>
    rw [allocateEntry, isPresent_directory wellFormed inside, mapped, Option.isSome_none,
      if_neg Bool.false_ne_true, Option.map_eq_some_iff] at allocated
    obtain ⟨⟨page, cache⟩, got, rfl⟩ := allocated
    have unused := (wellFormed.counted index inside).mpr mapped
    have obtained := PageTableCache.getTablePage_obtained wellFormed.cache
      (fun new is => (fresh new is).1) got
    have pageClear :=
      (PageTableCache.getTablePage_clear isClear wellFormed.cache fresh got).2
    simp only [unused, Nat.zero_add]
    refine ⟨_, link_step wellFormed inside mapped obtained, fun _ other words linked => ?_⟩
    simp only [Option.some.injEq, Prod.mk.injEq] at linked
    exact linked.2 ▸ pageClear

theorem allocateEntries_clear {supply : PageTableSupply}
    (allowed : supply.AllAllowed PageTableBlock.Clear) {remaining index stop : Nat}
    (wellFormed : space.WellFormed) (isClear : space.cache.Clear)
    (inside : index + remaining ≤ 1024)
    (ran : allocateEntries supply remaining index space = (stop, after)) :
    RangeStep space index remaining (fun _ => FreshlyLinked) after := by
  induction remaining generalizing index space with
  | zero =>
    cases ran
    exact .nil wellFormed
  | succ remaining ih =>
    rw [allocateEntries] at ran
    have fresh (new : PageTableBlock) (is : supply.answer index space.cache = some new) :=
      And.intro (supply.fresh index space.cache new is) (allowed index space.cache new is)
    cases allocated : allocateEntry space index (supply.answer index space.cache) with
    | none =>
      simp only [allocated, Prod.mk.injEq] at ran
      obtain ⟨_, rfl⟩ := ran
      refine ⟨wellFormed, fun _ _ _ _ unlinked page words linked => ?_, fun _ _ _ => rfl, fun _ => Iff.rfl⟩
      rw [unlinked] at linked
      contradiction
    | some next =>
      simp only [allocated] at ran
      obtain ⟨view, step, effect⟩ :=
        allocateEntry_clear wellFormed isClear (by omega) fresh allocated
      have steps := allocateEntry_pages wellFormed (by omega) fresh allocated
      have nextClear := steps.clear isClear wellFormed.cache wellFormed.owned
      exact .cons step effect (ih step.wellFormed nextClear (by omega) ran)

end Allocate

structure TableDriver where
  cache : PageTableCache
  sessions : Nat → Option MemorySession
  own : List U32

inductive TableAction where
  | sessionBegin (session : Nat) (block : Option PageTableBlock)
  | allocate (session : Nat) (descriptor : MemoryAllocation) (supply : PageTableSupply)
  | map (session : Nat) (descriptor : MemoryAllocation) (offset phys size : U32)
  | release (session : Nat) (descriptor : MemoryAllocation)
  | sessionEnd (session : Nat)
  | getPage (block : Option PageTableBlock)
  | writePage (page : U32) (index : Nat) (value : U32)
  | releasePage (page : U32)

def TableDriver.put (driver : TableDriver) (session : Nat) (space : AddressSpace) : TableDriver :=
  { driver with
    cache := space.cache
    sessions := Function.update driver.sessions session (some space.session) }

inductive TableStep (driver : TableDriver) : TableAction → TableDriver → Prop where
  | began {session block space} (unused : driver.sessions session = none)
      (fresh : ∀ new, block = some new → new.Fresh driver.cache)
      (ran : sessionBegin driver.cache block = some space) :
      TableStep driver (.sessionBegin session block) (driver.put session space)
  | allocated {session memory descriptor supply result after}
      (is : driver.sessions session = some memory)
      (ran : addressManagerAllocate supply descriptor ⟨driver.cache, memory⟩ = (result, after)) :
      TableStep driver (.allocate session descriptor supply) (driver.put session after)
  | mapped {session memory descriptor offset phys size after}
      (is : driver.sessions session = some memory)
      (ran : addressManagerMap descriptor offset phys size ⟨driver.cache, memory⟩ = some after) :
      TableStep driver (.map session descriptor offset phys size) (driver.put session after)
  | released {session memory descriptor after} (is : driver.sessions session = some memory)
      (ran : addressManagerRelease descriptor ⟨driver.cache, memory⟩ = some after) :
      TableStep driver (.release session descriptor) (driver.put session after)
  | ended {session memory} (is : driver.sessions session = some memory) :
      TableStep driver (.sessionEnd session)
        { driver with
          cache := sessionEnd ⟨driver.cache, memory⟩
          sessions := Function.update driver.sessions session none }
  | gotPage {block page cache} (fresh : ∀ new, block = some new → new.Fresh driver.cache)
      (ran : getTablePage driver.cache block = some (page, cache)) :
      TableStep driver (.getPage block) { driver with cache, own := page :: driver.own }
  | wrotePage {page index value} (mine : page ∈ driver.own) :
      TableStep driver (.writePage page index value)
        { driver with cache := driver.cache.iowrite32 page index value }
  | releasedPage {page} (mine : page ∈ driver.own) :
      TableStep driver (.releasePage page)
        { driver with cache := releaseTablePage driver.cache page, own := driver.own.filter (· ≠ page) }

def tableSystem : Lib.TransitionSystem TableDriver TableAction where
  initial driver := driver.cache.partialAllocations = [] ∧ driver.cache.full = [] ∧
    driver.sessions = (fun _ => none) ∧ driver.own = []
  step := TableStep

def ClearBlocks (driver : TableDriver) : TableAction → Prop
  | .sessionBegin _ block | .getPage block => ∀ new, block = some new → new.Clear
  | .allocate _ _ supply => supply.AllAllowed PageTableBlock.Clear
  | .release session descriptor => ∀ memory, driver.sessions session = some memory →
      AddressSpace.Referenced ⟨driver.cache, memory⟩ descriptor
  | .map .. | .sessionEnd _ | .writePage .. | .releasePage _ => True

namespace TableDriver

variable {driver after : TableDriver}

def pagesOf (driver : TableDriver) : Option Nat → Set U32
  | none => {page | page ∈ driver.own}
  | some session => ((driver.sessions session).map MemorySession.pages).getD ∅

structure Sound (driver : TableDriver) : Prop where
  wellFormed : driver.cache.WellFormed
  clear : driver.cache.Clear
  owned : ∀ owner, ∀ page ∈ driver.pagesOf owner, driver.cache.InUse page
  apart : ∀ left right, left ≠ right → Disjoint (driver.pagesOf left) (driver.pagesOf right)
  sessions : ∀ session memory, driver.sessions session = some memory →
    AddressSpace.WellFormed ⟨driver.cache, memory⟩

theorem sound_initial (starts : tableSystem.initial driver) : driver.Sound := by
  obtain ⟨noPartial, noFull, noSessions, noOwn⟩ := starts
  have nothing : driver.cache.allocations = [] := by
    rw [PageTableCache.allocations, noPartial, noFull, List.append_nil]
  have noPages (owner : Option Nat) : driver.pagesOf owner = ∅ := by
    cases owner with
    | none => simp [pagesOf, noOwn]
    | some session => simp [pagesOf, noSessions]
  refine ⟨⟨?_, ?_, ?_, ?_, ?_⟩, ?_, ?_, ?_, ?_⟩
  · simp [nothing]
  · simp [noPartial]
  · simp [noPartial]
  · simp [noFull]
  · simp [nothing]
  · simp [PageTableCache.Clear, nothing]
  · simp [noPages]
  · simp [noPages]
  · simp [noSessions]

variable {memory : MemorySession} {own ownAfter : Set U32} {session : Nat}

theorem wellFormed_of_othersKept {cache next : PageTableCache} (wellFormed : AddressSpace.WellFormed ⟨cache, memory⟩)
    (apart : Disjoint memory.pages own) (kept : OthersKept own cache ownAfter next) :
    AddressSpace.WellFormed ⟨next, memory⟩ := by
  have mine (page : U32) (member : page ∈ memory.pages) := kept.kept page
    (wellFormed.owned page member) fun other => Set.disjoint_left.mp apart member other
  have foreign (page : U32) (used : cache.InUse page) (notMine : page ∉ memory.pages) :
      AddressSpace.Foreign ⟨cache, memory⟩ page ∧ page ≠ memory.pageDirectory :=
    ⟨⟨used, fun index inside mapped => notMine (.inr ⟨index, inside, mapped⟩)⟩, fun same => notMine (.inl same)⟩
  refine (AddressSpace.replaceCache wellFormed kept.wellFormed ?_ ?_).wellFormed
  · intro page used
    by_cases member : page ∈ memory.pages
    · exact .inl (mine page member).1
    · exact .inr (foreign page used member)
  · intro page used
    by_cases member : page ∈ memory.pages
    · exact .inl (mine page member).2.2
    · exact .inr (foreign page used member)

theorem Sound.owner (sound : driver.Sound) (owner : Option Nat)
    (steps : PageSteps PageTableBlock.Clear (driver.pagesOf owner) driver.cache ownAfter after.cache)
    (changed : after.pagesOf owner = ownAfter)
    (others : ∀ other, other ≠ owner → after.pagesOf other = driver.pagesOf other)
    (sessions : ∀ session memory, after.sessions session = some memory →
      some session = owner ∧ AddressSpace.WellFormed ⟨after.cache, memory⟩ ∨
        some session ≠ owner ∧ driver.sessions session = some memory) : after.Sound := by
  have kept := steps.othersKept sound.wellFormed (sound.owned owner)
  have stillApart (other : Option Nat) (different : other ≠ owner) :
      Disjoint (driver.pagesOf other) (after.pagesOf owner) := by
    rw [changed, Set.disjoint_left]
    intro page member
    have notOwner := Set.disjoint_left.mp (sound.apart other owner different) member
    exact (kept.kept page (sound.owned other page member) notOwner).2.1
  refine ⟨kept.wellFormed, steps.clear sound.clear sound.wellFormed (sound.owned owner), ?_, ?_, ?_⟩
  · intro other page member
    by_cases same : other = owner
    · exact kept.owned page (changed ▸ same ▸ member)
    · rw [others other same] at member
      have notOwner := Set.disjoint_left.mp (sound.apart other owner same) member
      exact (kept.kept page (sound.owned other page member) notOwner).1
  · intro left right different
    by_cases leftSame : left = owner <;> by_cases rightSame : right = owner
    · exact absurd (leftSame.trans rightSame.symm) different
    · rw [leftSame, others right rightSame]
      exact (stillApart right rightSame).symm
    · rw [rightSame, others left leftSame]
      exact stillApart left leftSame
    · rw [others left leftSame, others right rightSame]
      exact sound.apart left right different
  · intro session memory is
    rcases sessions session memory is with ⟨_, wellFormed⟩ | ⟨different, before⟩
    · exact wellFormed
    · refine wellFormed_of_othersKept (sound.sessions session memory before) ?_ kept
      have apart := sound.apart (some session) owner different
      rwa [show driver.pagesOf (some session) = memory.pages by simp [pagesOf, before]] at apart

theorem pagesOf_session (is : driver.sessions session = some memory) :
    driver.pagesOf (some session) = memory.pages := by
  simp [pagesOf, is]

theorem Sound.put (sound : driver.Sound) {space : AddressSpace}
    (owns : driver.pagesOf (some session) = own) (wellFormed : space.WellFormed)
    (steps : PageSteps PageTableBlock.Clear own driver.cache space.session.pages space.cache) :
    (driver.put session space).Sound := by
  refine sound.owner (some session) (owns ▸ steps) ?_ ?_ ?_
  · simp [pagesOf, TableDriver.put]
  · intro other different
    cases other with
    | none => rfl
    | some number =>
      have apart : number ≠ session := fun same => different (congrArg some same)
      simp [pagesOf, TableDriver.put, Function.update_of_ne apart]
  · intro number memory is
    simp only [TableDriver.put] at is
    by_cases same : number = session
    · rw [same, Function.update_self, Option.some.injEq] at is
      exact .inl ⟨congrArg some same, is ▸ wellFormed⟩
    · rw [Function.update_of_ne same] at is
      exact .inr ⟨fun equal => same (Option.some.inj equal), is⟩

theorem Sound.ownPages (sound : driver.Sound) {cache : PageTableCache} {own : List U32}
    (steps : PageSteps PageTableBlock.Clear {page | page ∈ driver.own} driver.cache
      {page | page ∈ own} cache) : { driver with cache, own : TableDriver }.Sound := by
  refine sound.owner none steps rfl ?_ ?_
  · intro other different
    cases other with
    | none => exact absurd rfl different
    | some number => rfl
  · exact fun session memory is => .inr ⟨by simp, is⟩

theorem Sound.step (sound : driver.Sound) {action : TableAction}
    (clears : ClearBlocks driver action) (stepped : TableStep driver action after) : after.Sound := by
  cases stepped with
  | @began session block space unused fresh ran =>
    have wellFormed := (sessionBegin_wellFormed sound.wellFormed fresh ran).1
    have nothing : driver.pagesOf (some session) = ∅ := by simp [pagesOf, unused]
    refine sound.put nothing wellFormed ?_
    exact sessionBegin_pages (fun new is => ⟨fresh new is, clears new is⟩) ran
  | allocated is ran =>
    obtain ⟨wellFormed, steps⟩ :=
      addressManagerAllocate_pages clears (sound.sessions _ _ is) ran
    exact sound.put (pagesOf_session is) wellFormed steps
  | mapped is ran =>
    obtain ⟨same, steps⟩ := addressManagerMap_pages ran
    have wellFormed := (addressManagerMap_step (sound.sessions _ _ is) ran).wellFormed
    exact sound.put (pagesOf_session is) wellFormed (same ▸ steps)
  | released is ran =>
    obtain ⟨wellFormed, steps⟩ :=
      addressManagerRelease_pages (sound.sessions _ _ is) (clears _ is) ran
    exact sound.put (pagesOf_session is) wellFormed steps
  | @ended session memory is =>
    have steps : PageSteps PageTableBlock.Clear _ _ ∅ _ :=
      sessionEnd_pages (sound.sessions session memory is)
    refine sound.owner (some session) (pagesOf_session is ▸ steps) (by simp [pagesOf]) ?_ ?_
    · intro other different
      cases other with
      | none => rfl
      | some number =>
        have apart : number ≠ session := fun same => different (congrArg some same)
        simp [pagesOf, Function.update_of_ne apart]
    · intro number other found
      by_cases same : number = session
      · simp [same] at found
      · simp only [Function.update_of_ne same] at found
        exact .inr ⟨fun equal => same (Option.some.inj equal), found⟩
  | @gotPage block page cache fresh ran =>
    refine sound.ownPages (.get (fun new is => ⟨fresh new is, clears new is⟩) ran ?_)
    have inserted : {other | other ∈ page :: driver.own} = insert page {other | other ∈ driver.own} := by
      ext other
      simp
    exact inserted ▸ .nil
  | wrotePage mine => exact sound.ownPages (.write _ _ mine .nil)
  | @releasedPage page mine =>
    refine sound.ownPages (.release mine ?_)
    have removed : {other | other ∈ driver.own.filter (· ≠ page)} =
        {other | other ∈ driver.own} \ {page} := by
      ext other
      simp
    exact removed ▸ .nil

end TableDriver

/-- As long as every new block is clear after its first page and no release drops a
reference that is not there, a page table is clear when the loop of `allocate` links
it, no address below it is translated then, and a new page directory is clear. -/
theorem freshTables_clear {driver : TableDriver} (reached : (tableSystem.restrict ClearBlocks).Reachable driver) :
    (∀ session memory descriptor supply, driver.sessions session = some memory →
      ClearBlocks driver (.allocate session descriptor supply) →
      ∀ rounds ≤ descriptor.lastPdeIdx + 1 - descriptor.firstPdeIdx, ∀ stop after,
        allocateEntries supply rounds descriptor.firstPdeIdx ⟨driver.cache, memory⟩ = (stop, after) →
        (∀ index < 1024, ∀ page, memory.pageEntriesMapped index = none →
          after.session.pageEntriesMapped index = some page →
          ClearPage (after.cache.memory page)) ∧
        ∀ address, memory.pageEntriesMapped (pdeEntry address) = none → ¬after.Present address) ∧
      ∀ session block space, ClearBlocks driver (.sessionBegin session block) →
        sessionBegin driver.cache block = some space →
        ClearPage (space.cache.memory space.session.pageDirectory) := by
  have sound : driver.Sound :=
    reached.invariant (fun _ starts => TableDriver.sound_initial starts)
      fun _ _ _ sound stepped => sound.step stepped.1 stepped.2
  refine ⟨?_, ?_⟩
  · intro session memory descriptor supply is clears rounds bounded stop after ran
    have wellFormed := sound.sessions session memory is
    have first := @firstPdeIdx_lt descriptor
    have last := @lastPdeIdx_lt descriptor
    have step := allocateEntries_clear clears wellFormed sound.clear (by omega) ran
    have linked (index : Nat) (inside : index < 1024)
        (unlinked : memory.pageEntriesMapped index = none) (page : U32)
        (mapped : after.session.pageEntriesMapped index = some page) :
        ClearPage (after.cache.memory page) := by
      have before : (AddressSpace.entry ⟨driver.cache, memory⟩ index).table = none :=
        (entry_table_eq_none index).mpr unlinked
      have now : (after.entry index).table = some (page, after.cache.memory page) := by
        simp [AddressSpace.entry, mapped]
      by_cases within : descriptor.firstPdeIdx ≤ index ∧ index < descriptor.firstPdeIdx + rounds
      · exact step.inside index inside within.1 within.2 before page _ now
      · rw [step.outside index inside (by omega), before] at now
        contradiction
    refine ⟨fun index inside page unlinked mapped => linked index inside unlinked page mapped, ?_⟩
    rintro address unlinked ⟨entry, walked, present⟩
    rw [walk_eq step.wellFormed, Option.map_eq_some_iff] at walked
    obtain ⟨⟨page, words⟩, table, rfl⟩ := walked
    obtain ⟨table', mapped, same⟩ := Option.map_eq_some_iff.mp table
    simp only [Prod.mk.injEq] at same
    obtain ⟨rfl, rfl⟩ := same
    have zero := linked _ (pdeEntry_lt address) unlinked table' mapped (pteEntry address)
      (by rw [pteEntry_eq]; omega)
    simp [zero] at present
  · intro session block space _ ran
    rw [sessionBegin, Option.map_eq_some_iff] at ran
    obtain ⟨⟨pageDirectory, after⟩, _, rfl⟩ := ran
    exact PageTableCache.fillPage_clear after pageDirectory

def filledBlock (word : U32) : PageTableBlock where
  physBase := 0x40000000#32
  size := 0x2000#32
  contents _ _ := word

theorem filledBlock_fresh (word : U32) : (filledBlock word).Fresh ⟨[], [], fun _ _ => 0⟩ where
  aligned := show PageAligned 0x40000000#32 by decide
  several := show 2 ≤ (0x2000#32).toNat / 0x1000 by decide
  bounded := show (0x40000000#32).toNat + (0x2000#32).toNat ≤ 2 ^ 32 by decide
  apart := by simp

def firstSession (word : U32) : AddressSpace :=
  (sessionBegin ⟨[], [], fun _ _ => 0⟩ (some (filledBlock word))).get rfl

def firstDriver (word : U32) : TableDriver where
  cache := (firstSession word).cache
  sessions := Function.update (fun _ => none) 0 (some (firstSession word).session)
  own := []

theorem firstDriver_reachable (word : U32) {condition : TableDriver → TableAction → Prop}
    (allowed : condition ⟨⟨[], [], fun _ _ => 0⟩, fun _ => none, []⟩ (.sessionBegin 0 (some (filledBlock word)))) :
    (tableSystem.restrict condition).Reachable (firstDriver word) := by
  have begun : TableStep ⟨⟨[], [], fun _ _ => 0⟩, fun _ => none, []⟩
      (.sessionBegin 0 (some (filledBlock word))) (firstDriver word) :=
    .began rfl (by rintro _ ⟨⟩; exact filledBlock_fresh word) (Option.some_get _).symm
  exact .step (.initial ⟨rfl, rfl, rfl, rfl⟩) ⟨allowed, begun⟩

theorem freshTables_clear_first :
    ∃ after, addressManagerAllocate noSupply ⟨0, 0x1000#32, 0⟩ (firstSession 0) = (.ok, after) ∧
      ∀ page, after.session.pageEntriesMapped 0 = some page → ClearPage (after.cache.memory page) := by
  have reached : (tableSystem.restrict ClearBlocks).Reachable (firstDriver 0) :=
    firstDriver_reachable 0 (by rintro _ ⟨⟩ _ _ _ _ _; rfl)
  have ended : (allocateEntries noSupply 1 0 (firstSession 0)).1 = 1 := by decide +kernel
  have allocated : addressManagerAllocate noSupply ⟨0, 0x1000#32, 0⟩ (firstSession 0) =
      (.ok, (allocateEntries noSupply 1 0 (firstSession 0)).2) := by
    rw [addressManagerAllocate]
    change (if (allocateEntries noSupply 1 0 (firstSession 0)).1 ≤ 0 then _ else _) = _
    rw [ended]
    rfl
  refine ⟨_, allocated, fun page mapped => ?_⟩
  have clear := (freshTables_clear reached).1 0 (firstSession 0).session ⟨0, 0x1000#32, 0⟩ noSupply
    rfl (by rintro _ _ _ ⟨⟩) 1 (by decide) 1 _ (Prod.ext ended rfl)
  exact clear.1 0 (by omega) page rfl mapped

/-- The second page of a block is handed out with what the memory held before: a page
table that translates every address below its entry. -/
theorem freshTables_dirty : ∃ driver memory after page, tableSystem.Reachable driver ∧
      driver.sessions 0 = some memory ∧
      addressManagerAllocate noSupply ⟨0, 0x1000#32, 0⟩ ⟨driver.cache, memory⟩ = (.ok, after) ∧
      memory.pageEntriesMapped 0 = none ∧ after.session.pageEntriesMapped 0 = some page ∧
      isPresent (after.cache.memory page 5) = true := by
  have reached : tableSystem.Reachable (firstDriver 1) :=
    (@firstDriver_reachable 1 (fun _ _ => True) trivial).of_restrict
  have allocated : (addressManagerAllocate noSupply ⟨0, 0x1000#32, 0⟩ (firstSession 1)).1 = .ok := by
    decide +kernel
  have dirty : ((addressManagerAllocate noSupply ⟨0, 0x1000#32, 0⟩
      (firstSession 1)).2.session.pageEntriesMapped 0).map
      ((addressManagerAllocate noSupply ⟨0, 0x1000#32, 0⟩
        (firstSession 1)).2.cache.memory · 5) = some 1 := by decide +kernel
  obtain ⟨after, ran⟩ : ∃ after, addressManagerAllocate noSupply ⟨0, 0x1000#32, 0⟩
      (firstSession 1) = (.ok, after) := ⟨_, Prod.ext allocated rfl⟩
  rw [ran] at dirty
  obtain ⟨page, mapped, word⟩ := Option.map_eq_some_iff.mp dirty
  refine ⟨_, (firstSession 1).session, after, page, reached, rfl, ran, rfl, mapped, ?_⟩
  rw [word]
  decide

end Floid.Mmu
