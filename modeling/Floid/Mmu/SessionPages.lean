import Floid.Mmu.Session

namespace Floid.Mmu

open Osk

inductive PageSteps (Allowed : PageTableBlock → Prop) :
    Set U32 → PageTableCache → Set U32 → PageTableCache → Prop where
  | nil {own : Set U32} {cache : PageTableCache} : PageSteps Allowed own cache own cache
  | get {own ownAfter : Set U32} {cache next after : PageTableCache}
      {block : Option PageTableBlock} {page : U32}
      (fresh : ∀ new, block = some new → new.Fresh cache ∧ Allowed new)
      (got : getTablePage cache block = some (page, next))
      (rest : PageSteps Allowed (insert page own) next ownAfter after) :
      PageSteps Allowed own cache ownAfter after
  | write {own ownAfter : Set U32} {cache after : PageTableCache} {page : U32} (index : Nat)
      (value : U32) (mine : page ∈ own)
      (rest : PageSteps Allowed own (cache.iowrite32 page index value) ownAfter after) :
      PageSteps Allowed own cache ownAfter after
  | release {own ownAfter : Set U32} {cache after : PageTableCache} {page : U32}
      (mine : page ∈ own)
      (rest : PageSteps Allowed (own \ {page}) (releaseTablePage cache page) ownAfter after) :
      PageSteps Allowed own cache ownAfter after

structure OthersKept (own : Set U32) (cache : PageTableCache) (ownAfter : Set U32)
    (after : PageTableCache) : Prop where
  wellFormed : after.WellFormed
  owned : ∀ page ∈ ownAfter, after.InUse page
  kept : ∀ page, cache.InUse page → page ∉ own →
    after.InUse page ∧ page ∉ ownAfter ∧ after.memory page = cache.memory page
  origin : ∀ page, after.InUse page → page ∈ ownAfter ∨ cache.InUse page ∧ page ∉ own

namespace PageSteps

variable {Allowed : PageTableBlock → Prop} {own ownMiddle ownAfter : Set U32}
  {cache middle after : PageTableCache}

theorem append (first : PageSteps Allowed own cache ownMiddle middle)
    (second : PageSteps Allowed ownMiddle middle ownAfter after) :
    PageSteps Allowed own cache ownAfter after := by
  induction first with
  | nil => exact second
  | get fresh got _ ih => exact .get fresh got (ih second)
  | write index value mine _ ih => exact .write index value mine (ih second)
  | release mine _ ih => exact .release mine (ih second)

theorem othersKept (steps : PageSteps Allowed own cache ownAfter after)
    (wellFormed : cache.WellFormed) (owned : ∀ page ∈ own, cache.InUse page) :
    OthersKept own cache ownAfter after := by
  induction steps with
  | nil =>
    refine ⟨wellFormed, owned, fun page used other => ⟨used, other, rfl⟩, fun page used => ?_⟩
    exact or_iff_not_imp_left.mpr fun other => ⟨used, other⟩
  | @get own _ cache next _ block page fresh got _ ih =>
    have obtained := PageTableCache.getTablePage_obtained wellFormed
      (fun new is => (fresh new is).1) got
    have rest := ih obtained.wellFormed fun other member =>
      (obtained.inUse other).mpr (member.imp_right (owned other))
    refine ⟨rest.wellFormed, rest.owned, fun other used notMine => ?_, fun other used => ?_⟩
    · have different : other ≠ page := fun same => obtained.fresh (same ▸ used)
      obtain ⟨stillUsed, stillOther, memory⟩ := rest.kept other
        ((obtained.inUse other).mpr (.inr used)) fun member => member.elim different notMine
      exact ⟨stillUsed, stillOther, memory.trans (obtained.kept other used)⟩
    · rcases rest.origin other used with mine | ⟨usedBefore, other'⟩
      · exact .inl mine
      · rcases (obtained.inUse other).mp usedBefore with same | before
        · exact absurd (.inl same) other'
        · exact .inr ⟨before, fun member => other' (.inr member)⟩
  | @write own _ cache _ page index value mine _ ih =>
    have rest := ih (PageTableCache.iowrite32_wellFormed wellFormed page index value) owned
    refine { rest with kept := fun other used notMine => ?_ }
    have different : other ≠ page := fun same => notMine (same ▸ mine)
    obtain ⟨stillUsed, stillOther, memory⟩ := rest.kept other used notMine
    exact ⟨stillUsed, stillOther, memory.trans (PageTableCache.iowrite32_other index value different)⟩
  | @release own _ cache _ page mine _ ih =>
    have released := PageTableCache.releaseTablePage_released wellFormed (owned page mine)
    have rest := ih released.wellFormed fun other member =>
      (released.inUse other).mpr ⟨member.2, owned other member.1⟩
    refine ⟨rest.wellFormed, rest.owned, fun other used notMine => ?_, fun other used => ?_⟩
    · have different : other ≠ page := fun same => notMine (same ▸ mine)
      obtain ⟨stillUsed, stillOther, memory⟩ := rest.kept other
        ((released.inUse other).mpr ⟨different, used⟩) fun member => notMine member.1
      exact ⟨stillUsed, stillOther, memory.trans (released.kept other different)⟩
    · rcases rest.origin other used with isOwn | ⟨usedBefore, other'⟩
      · exact .inl isOwn
      · obtain ⟨different, before⟩ := (released.inUse other).mp usedBefore
        exact .inr ⟨before, fun member => other' ⟨member, different⟩⟩

end PageSteps

def MemorySession.pages (session : MemorySession) : Set U32 :=
  {page | page = session.pageDirectory ∨ ∃ index < 1024, session.pageEntriesMapped index = some page}

def PageTableSupply.AllAllowed (supply : PageTableSupply) (Allowed : PageTableBlock → Prop) : Prop :=
  ∀ index cache block, supply.answer index cache = some block → Allowed block

open AddressSpace

variable {space after : AddressSpace} {Allowed : PageTableBlock → Prop} {own : Set U32}
  {cache : PageTableCache} {page : U32}

theorem AddressSpace.WellFormed.owned (wellFormed : space.WellFormed) :
    ∀ page ∈ space.session.pages, space.cache.InUse page := by
  rintro page (rfl | ⟨index, inside, mapped⟩)
  · exact wellFormed.directoryInUse
  · exact (wellFormed.linked index inside page mapped).2.1

theorem zapEntries_pages (mine : page ∈ own) (remaining index : Nat) :
    PageSteps Allowed own cache own (zapEntries page remaining index cache) := by
  induction remaining generalizing index cache with
  | zero => exact .nil
  | succ remaining ih => exact .write index 0 mine (ih (index + 1))

theorem fillPage_zero (cache : PageTableCache) (page : U32) :
    cache.fillPage page 0 = zapEntries page 1024 0 cache := by
  have lists (remaining index : Nat) (cache : PageTableCache) :
      (zapEntries page remaining index cache).partialAllocations = cache.partialAllocations ∧
        (zapEntries page remaining index cache).full = cache.full := by
    induction remaining generalizing index cache with
    | zero => exact ⟨rfl, rfl⟩
    | succ remaining ih => exact ih (index + 1) _
  have memory : (cache.fillPage page 0).memory = (zapEntries page 1024 0 cache).memory := by
    funext other
    by_cases same : other = page
    · subst same
      funext index
      simp [PageTableCache.fillPage, zapEntries_same]
    · rw [zapEntries_other same, PageTableCache.fillPage_other _ _ _ same]
  obtain ⟨partials, full⟩ := lists 1024 0 cache
  rcases filled : cache.fillPage page 0 with ⟨left, right, contents⟩
  rcases zapped : zapEntries page 1024 0 cache with ⟨left', right', contents'⟩
  rw [filled, zapped] at memory
  rw [zapped] at partials full
  cases filled
  simp_all

variable {maliAddress : U32} {index remaining : Nat} {block : Option PageTableBlock}
    {supply : PageTableSupply} {descriptor : MemoryAllocation}

theorem mapPages_pages {session : MemorySession} {fuel : Nat} {maliAddressEnd phys : U32}
    {mapped : PageTableCache} (ran : mapPages session fuel maliAddress maliAddressEnd phys cache =
      some mapped) : PageSteps Allowed session.pages cache session.pages mapped := by
  induction fuel generalizing maliAddress phys cache with
  | zero =>
    rw [mapPages] at ran
    split at ran
    · contradiction
    · cases ran
      exact .nil
  | succ fuel ih =>
    rw [mapPages] at ran
    split at ran
    · cases table : session.pageEntriesMapped (pdeEntry maliAddress) with
      | none => simp [table] at ran
      | some page =>
        simp only [table] at ran
        exact .write _ _ (.inr ⟨_, pdeEntry_lt _, table⟩) (ih ran)
    · cases ran
      exact .nil

theorem pages_setMapped_some {session : MemorySession} {index : Nat} (inside : index < 1024)
    (unmapped : session.pageEntriesMapped index = none) :
    MemorySession.pages { session with
      pageEntriesMapped := fun other =>
        if other = index then some page else session.pageEntriesMapped other } =
      insert page session.pages := by
  ext other
  simp only [MemorySession.pages, Set.mem_ofPred_eq, Set.mem_insert_iff]
  constructor
  · rintro (same | ⟨position, below, mapped⟩)
    · exact .inr (.inl same)
    · split at mapped
      · exact .inl (Option.some.inj mapped).symm
      · exact .inr (.inr ⟨position, below, mapped⟩)
  · rintro (rfl | same | ⟨position, below, mapped⟩)
    · exact .inr ⟨index, inside, by simp⟩
    · exact .inl same
    · refine .inr ⟨position, below, ?_⟩
      rw [if_neg]
      · exact mapped
      · rintro rfl
        rw [unmapped] at mapped
        contradiction

theorem pages_setMapped_none (wellFormed : space.WellFormed) (inside : index < 1024)
    (mapped : space.session.pageEntriesMapped index = some page) :
    MemorySession.pages { space.session with
      pageEntriesMapped := fun other =>
        if other = index then none else space.session.pageEntriesMapped other } =
      space.session.pages \ {page} := by
  have notDirectory := (wellFormed.linked index inside page mapped).2.2.1
  ext other
  simp only [MemorySession.pages, Set.mem_ofPred_eq, Set.mem_sdiff, Set.mem_singleton_iff]
  constructor
  · rintro (same | ⟨position, below, found⟩)
    · exact ⟨.inl same, fun is => notDirectory (is.symm.trans same)⟩
    · split at found
      · contradiction
      · rename_i different
        refine ⟨.inr ⟨position, below, found⟩, ?_⟩
        rintro rfl
        exact different (wellFormed.injective position below index inside other found mapped)
  · rintro ⟨same | ⟨position, below, found⟩, different⟩
    · exact .inl same
    · refine .inr ⟨position, below, ?_⟩
      rw [if_neg]
      · exact found
      · rintro rfl
        rw [mapped] at found
        exact different (Option.some.inj found).symm

theorem allocateEntry_pages (wellFormed : space.WellFormed) (inside : index < 1024)
    (fresh : ∀ new, block = some new → new.Fresh space.cache ∧ Allowed new)
    (allocated : allocateEntry space index block = some after) :
    PageSteps Allowed space.session.pages space.cache after.session.pages after.cache := by
  rw [allocateEntry, isPresent_directory wellFormed inside] at allocated
  cases mapped : space.session.pageEntriesMapped index with
  | some page =>
    rw [mapped, Option.isSome_some, if_pos rfl] at allocated
    cases allocated
    exact .nil
  | none =>
    rw [mapped, Option.isSome_none, if_neg Bool.false_ne_true] at allocated
    cases got : getTablePage space.cache block with
    | none => simp [got] at allocated
    | some result =>
      obtain ⟨page, cache⟩ := result
      simp only [got, Option.map_some, Option.some.injEq] at allocated
      subst allocated
      have mine : space.session.pageDirectory ∈ insert page space.session.pages :=
        .inr (.inl rfl)
      refine .get fresh got (.write index (page ||| flagsPresent) mine ?_)
      have pages := @pages_setMapped_some page space.session index inside mapped
      exact pages ▸ .nil

theorem allocateEntries_pages (allowed : supply.AllAllowed Allowed)
    {stop : Nat} (wellFormed : space.WellFormed) (inside : index + remaining ≤ 1024)
    (ran : allocateEntries supply remaining index space = (stop, after)) :
    PageSteps Allowed space.session.pages space.cache after.session.pages after.cache := by
  induction remaining generalizing index space with
  | zero =>
    cases ran
    exact .nil
  | succ remaining ih =>
    rw [allocateEntries] at ran
    cases allocated : allocateEntry space index (supply.answer index space.cache) with
    | none =>
      simp only [allocated, Prod.mk.injEq] at ran
      obtain ⟨_, rfl⟩ := ran
      exact .nil
    | some next =>
      simp only [allocated] at ran
      obtain ⟨view, step, _⟩ := allocateEntry_step wellFormed (by omega)
        (supply.fresh index space.cache) allocated
      have first := allocateEntry_pages wellFormed (show index < 1024 by omega)
        (fun new is => ⟨supply.fresh index _ new is, allowed index _ new is⟩) allocated
      exact first.append (ih step.wellFormed (by omega) ran)

theorem unlinkEntry_pages (wellFormed : space.WellFormed) (inside : index < 1024)
    (mapped : space.session.pageEntriesMapped index = some page) (count : Nat) :
    PageSteps Allowed space.session.pages space.cache
      (unlinkEntry (space.setUsageCount index count) index).session.pages
      (unlinkEntry (space.setUsageCount index count) index).cache := by
  obtain ⟨entry, _, notDirectory, aligned⟩ := wellFormed.linked index inside page mapped
  have address : entryAddress ((space.setUsageCount index count).directory index) = page := by
    rw [show (space.setUsageCount index count).directory index = space.directory index from rfl,
      entry, entryAddress_present aligned]
  have mine : page ∈ space.session.pages := .inr ⟨index, inside, mapped⟩
  have directory : space.session.pageDirectory ∈ space.session.pages \ {page} :=
    ⟨.inl rfl, Ne.symm notDirectory⟩
  rw [unlinkEntry, address]
  refine .release mine (.write index 0 directory ?_)
  have pages := pages_setMapped_none wellFormed inside mapped
  exact pages ▸ .nil

theorem linked_of_used (wellFormed : space.WellFormed) (inside : index < 1024)
    (positive : 0 < (space.entry index).usageCount) :
    ∃ page, space.session.pageEntriesMapped index = some page := by
  have counted : (space.entry index).usageCount = space.session.pageEntriesUsageCount index := rfl
  refine Option.ne_none_iff_exists'.mp ?_
  rw [ne_eq, ← wellFormed.counted index inside]
  omega

theorem dropReference_pages (wellFormed : space.WellFormed) (inside : index < 1024)
    (positive : 0 < (space.entry index).usageCount) :
    PageSteps Allowed space.session.pages space.cache (dropReference space index).session.pages
      (dropReference space index).cache := by
  obtain ⟨page, mapped⟩ := linked_of_used wellFormed inside positive
  simp only [dropReference]
  split
  · exact unlinkEntry_pages wellFormed inside mapped _
  · exact .nil

theorem rollbackEntries_pages {first : Nat} (wellFormed : space.WellFormed) (inside : first + remaining ≤ 1024)
    (positive : ∀ index < first + remaining, first ≤ index → 0 < (space.entry index).usageCount) :
    PageSteps Allowed space.session.pages space.cache
      (rollbackEntries first remaining space).session.pages
      (rollbackEntries first remaining space).cache := by
  induction remaining generalizing space with
  | zero => exact .nil
  | succ remaining ih =>
    have used := positive (first + remaining) (by omega) (by omega)
    have step := dropReference_step wellFormed (show first + remaining < 1024 by omega) used
    have dropped : PageSteps Allowed _ _ _ _ :=
      dropReference_pages wellFormed (show first + remaining < 1024 by omega) used
    refine dropped.append (ih step.wellFormed (by omega) ?_)
    intro index below lower
    rw [step.others index (by omega) (by omega)]
    exact positive index (by omega) lower

theorem releaseEntries_pages {left : U32} (wellFormed : space.WellFormed) (inside : index + remaining ≤ 1024)
    (positive : ∀ position < index + remaining, index ≤ position → 0 < (space.entry position).usageCount)
    (ran : releaseEntries remaining index maliAddress left space = some after) :
    after.WellFormed ∧ PageSteps Allowed space.session.pages space.cache after.session.pages after.cache := by
  induction remaining generalizing index maliAddress left space with
  | zero =>
    cases ran
    exact ⟨wellFormed, .nil⟩
  | succ remaining ih =>
    have used := positive index (by omega) (Nat.le_refl _)
    have counted : (space.entry index).usageCount = space.session.pageEntriesUsageCount index := rfl
    obtain ⟨page, mapped⟩ := linked_of_used wellFormed (show index < 1024 by omega) used
    have others {view : EntryView} {next : AddressSpace} (step : EntryStep space index view next)
        (position : Nat) (below : position < index + 1 + remaining) (later : index + 1 ≤ position) :
        0 < (next.entry position).usageCount := by
      rw [step.others position (by omega) (by omega)]
      exact positive position (by omega) (by omega)
    rw [releaseEntries, ← sizeInsidePte, ← counted, decrement_of_pos used] at ran
    by_cases lastReference : (space.entry index).usageCount = 1
    · simp only [lastReference, Nat.sub_self, if_true] at ran
      have step := unlink_step wellFormed (show index < 1024 by omega) mapped
      have unlinked : PageSteps Allowed _ _ _ _ :=
        unlinkEntry_pages wellFormed (show index < 1024 by omega) mapped 0
      obtain ⟨afterWellFormed, rest⟩ := ih step.wellFormed (by omega) (others step) ran
      exact ⟨afterWellFormed, unlinked.append rest⟩
    · have remainingCount : (space.entry index).usageCount - 1 ≠ 0 := by omega
      have stillMapped : (space.setUsageCount index
          ((space.entry index).usageCount - 1)).session.pageEntriesMapped index = some page := mapped
      simp only [remainingCount, if_false, stillMapped] at ran
      have step := zap_step wellFormed (show index < 1024 by omega) mapped remainingCount
        (pteEntry maliAddress) (pteEntry (maliAddress + sizeInsidePte left - 1))
      have mine : page ∈ space.session.pages := .inr ⟨index, by omega, mapped⟩
      obtain ⟨afterWellFormed, rest⟩ := ih step.wellFormed (by omega) (others step) ran
      exact ⟨afterWellFormed, (zapEntries_pages mine _ _).append rest⟩

theorem addressManagerAllocate_pages (allowed : supply.AllAllowed Allowed) {result : Errcode}
    (wellFormed : space.WellFormed)
    (ran : addressManagerAllocate supply descriptor space = (result, after)) :
    after.WellFormed ∧ PageSteps Allowed space.session.pages space.cache after.session.pages after.cache := by
  have first := @firstPdeIdx_lt descriptor
  have last := @lastPdeIdx_lt descriptor
  rcases walked : allocateEntries supply (descriptor.lastPdeIdx + 1 - descriptor.firstPdeIdx)
    descriptor.firstPdeIdx space with ⟨stop, middle⟩
  obtain ⟨lower, upper, step⟩ := allocateEntries_step wellFormed (by omega) walked
  have acquired := allocateEntries_pages allowed wellFormed (by omega) walked
  simp only [addressManagerAllocate, walked] at ran
  split at ran
  · simp only [Prod.mk.injEq] at ran
    obtain ⟨_, rfl⟩ := ran
    have taken : ∀ index < descriptor.firstPdeIdx + (stop - descriptor.firstPdeIdx),
        descriptor.firstPdeIdx ≤ index → 0 < (middle.entry index).usageCount := by
      intro index upper lower
      have count := (step.inside index (by omega) lower upper).count
      omega
    exact ⟨(rollbackEntries_step step.wellFormed (by omega) taken).wellFormed,
      acquired.append (rollbackEntries_pages step.wellFormed (by omega) taken)⟩
  · simp only [Prod.mk.injEq] at ran
    obtain ⟨_, rfl⟩ := ran
    exact ⟨step.wellFormed, acquired⟩

def AddressSpace.Referenced (space : AddressSpace) (descriptor : MemoryAllocation) : Prop :=
  ∀ index, descriptor.firstPdeIdx ≤ index → index ≤ descriptor.releaseLastPdeIdx →
    0 < space.session.pageEntriesUsageCount index

theorem addressManagerRelease_pages {descriptor : MemoryAllocation} (wellFormed : space.WellFormed)
    (referenced : space.Referenced descriptor)
    (ran : addressManagerRelease descriptor space = some after) :
    after.WellFormed ∧ PageSteps Allowed space.session.pages space.cache after.session.pages after.cache := by
  have first := @firstPdeIdx_lt descriptor
  have last := @releaseLastPdeIdx_lt descriptor
  refine releaseEntries_pages wellFormed (by omega) ?_ ran
  exact fun position below lower => referenced position lower (by omega)

theorem addressManagerMap_pages {offset phys size : U32}
    (ran : addressManagerMap descriptor offset phys size space = some after) :
    after.session = space.session ∧
      PageSteps Allowed space.session.pages space.cache space.session.pages after.cache := by
  rw [addressManagerMap, Option.map_eq_some_iff] at ran
  obtain ⟨cache, mapped, rfl⟩ := ran
  exact ⟨rfl, mapPages_pages mapped⟩

theorem sessionBegin_pages (fresh : ∀ new, block = some new → new.Fresh cache ∧ Allowed new)
    (ran : sessionBegin cache block = some space) :
    PageSteps Allowed ∅ cache space.session.pages space.cache := by
  rw [sessionBegin, Option.map_eq_some_iff] at ran
  obtain ⟨⟨pageDirectory, after⟩, got, rfl⟩ := ran
  have pages : MemorySession.pages
      { pageDirectory, pageEntriesMapped := fun _ => none, pageEntriesUsageCount := fun _ => 0 } =
      insert pageDirectory ∅ := by
    ext other
    simp [MemorySession.pages]
  refine .get fresh got ?_
  rw [pages]
  have cleared : PageSteps Allowed (insert pageDirectory ∅) after (insert pageDirectory ∅)
      (zapEntries pageDirectory 1024 0 after) := zapEntries_pages (.inl rfl) 1024 0
  rwa [← fillPage_zero] at cleared

def withoutFlags (value : U32) : U32 := value &&& ~~~0x07#32

theorem withoutFlags_present (aligned : PageAligned page) : withoutFlags (page ||| flagsPresent) = page :=
  aligned.masked_present (by decide) (by decide)

def endEntries : Nat → Nat → AddressSpace → AddressSpace
  | 0, _, space => space
  | remaining + 1, index, space =>
      if isPresent (space.directory index) then
        let released :=
          { space with cache := releaseTablePage space.cache (withoutFlags (space.directory index)) }
        endEntries remaining (index + 1) (released.writeDirectory index 0)
      else endEntries remaining (index + 1) space

def invalidPage : U32 := 0xFFFFFFFF#32

def sessionEnd (space : AddressSpace) : PageTableCache :=
  let ended := endEntries 1024 0 space
  if ended.session.pageDirectory = invalidPage then ended.cache
  else releaseTablePage ended.cache ended.session.pageDirectory

theorem releaseTablePage_other {other : U32} (different : other ≠ page) :
    (releaseTablePage cache page).memory other = cache.memory other := by
  have filled : (cache.fillPage page 0).memory other = cache.memory other :=
    PageTableCache.fillPage_other page other 0 different
  rw [releaseTablePage]
  split
  · simp only
    split <;> exact filled
  · split
    · exact filled
    · rfl

def MemorySession.pagesFrom (session : MemorySession) (first : Nat) : Set U32 :=
  {page | page = session.pageDirectory ∨
    ∃ index < 1024, first ≤ index ∧ session.pageEntriesMapped index = some page}

theorem pagesFrom_next (wellFormed : space.WellFormed) (inside : index < 1024)
    (mapped : space.session.pageEntriesMapped index = some page) :
    space.session.pagesFrom index \ {page} = space.session.pagesFrom (index + 1) := by
  have notDirectory := (wellFormed.linked index inside page mapped).2.2.1
  ext other
  constructor
  · rintro ⟨same | ⟨position, below, later, found⟩, different⟩
    · exact .inl same
    · refine .inr ⟨position, below, Nat.lt_of_le_of_ne later ?_, found⟩
      rintro rfl
      exact different (Option.some.inj (found.symm.trans mapped))
  · rintro (same | ⟨position, below, later, found⟩)
    · exact ⟨.inl same, fun is => notDirectory (is.symm.trans same)⟩
    · refine ⟨.inr ⟨position, below, by omega, found⟩, ?_⟩
      rintro rfl
      have := wellFormed.injective position below index inside other found mapped
      omega

theorem endEntries_pages (wellFormed : space.WellFormed) {remaining index : Nat} (inside : index + remaining = 1024)
    (same : ∀ position < 1024, index ≤ position →
      cache.memory space.session.pageDirectory position = space.directory position) :
    (endEntries remaining index { space with cache }).session = space.session ∧
      PageSteps Allowed (space.session.pagesFrom index) cache {space.session.pageDirectory}
        (endEntries remaining index { space with cache }).cache := by
  induction remaining generalizing index cache with
  | zero =>
    have last : space.session.pagesFrom index = {space.session.pageDirectory} := by
      ext other
      constructor
      · rintro (same | ⟨position, below, later, _⟩)
        · exact same
        · omega
      · exact .inl
    rw [last]
    exact ⟨rfl, .nil⟩
  | succ remaining ih =>
    have entry : ({ space with cache } : AddressSpace).directory index = space.directory index :=
      same index (by omega) (Nat.le_refl _)
    rw [endEntries, entry, isPresent_directory wellFormed (by omega)]
    cases mapped : space.session.pageEntriesMapped index with
    | none =>
      have nothing : space.session.pagesFrom index = space.session.pagesFrom (index + 1) := by
        ext other
        refine or_congr_right ⟨?_, ?_⟩
        · rintro ⟨position, below, later, found⟩
          refine ⟨position, below, Nat.lt_of_le_of_ne later ?_, found⟩
          rintro rfl
          rw [mapped] at found
          contradiction
        · rintro ⟨position, below, later, found⟩
          exact ⟨position, below, by omega, found⟩
      rw [Option.isSome_none, if_neg Bool.false_ne_true, nothing]
      exact ih (by omega) fun position below later => same position below (by omega)
    | some page =>
      obtain ⟨directoryEntry, _, notDirectory, aligned⟩ :=
        wellFormed.linked index (by omega) page mapped
      rw [Option.isSome_some, if_pos rfl, directoryEntry, withoutFlags_present aligned]
      have still (position : Nat) (below : position < 1024) (later : index + 1 ≤ position) :
          ((releaseTablePage cache page).iowrite32 space.session.pageDirectory index 0).memory
            space.session.pageDirectory position = space.directory position := by
        rw [PageTableCache.iowrite32_same, Words.write_other _ _ (by omega),
          releaseTablePage_other (Ne.symm notDirectory)]
        exact same position below (by omega)
      obtain ⟨session, rest⟩ := ih (by omega) still
      refine ⟨session, .release (.inr ⟨index, by omega, Nat.le_refl _, mapped⟩) ?_⟩
      rw [pagesFrom_next wellFormed (by omega) mapped]
      exact .write index 0 (.inl rfl) rest

theorem sessionEnd_pages (wellFormed : space.WellFormed) :
    PageSteps Allowed space.session.pages space.cache ∅ (sessionEnd space) := by
  have all : space.session.pages = space.session.pagesFrom 0 := by
    ext other
    simp [MemorySession.pages, MemorySession.pagesFrom]
  obtain ⟨session, steps⟩ := @endEntries_pages space Allowed space.cache wellFormed 1024 0 rfl
    fun _ _ _ => rfl
  have aligned : PageAligned space.session.pageDirectory := by
    obtain ⟨alloc, member, number, used, same⟩ := wellFormed.directoryInUse
    rw [same]
    exact alloc.page_aligned (wellFormed.cache.each alloc member)
      (PageTableAllocation.mem_usedPages.mp used).1
  have valid : space.session.pageDirectory ≠ invalidPage := by
    intro invalid
    rw [invalid] at aligned
    exact absurd aligned (by decide)
  rw [all, sessionEnd, session, if_neg valid]
  refine steps.append (.release rfl ?_)
  rw [Set.sdiff_self]
  exact .nil

end Floid.Mmu
