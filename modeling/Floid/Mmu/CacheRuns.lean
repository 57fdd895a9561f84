import Floid.Lib.Transition
import Floid.Mmu.TablePages

namespace Floid.Mmu

open Osk
open List (append_assoc cons_append map_append map_cons nil_append perm_middle)

inductive BlockAnswer where
  | nothing
  | noUsageMap (block : PageTableBlock)
  | block (block : PageTableBlock)

def BlockAnswer.kept : BlockAnswer → Option PageTableBlock
  | .block new => some new
  | .nothing | .noUsageMap _ => none

/-- The blocks `mali_mmu_get_table_page` asks the allocators for: none while a page
is free. -/
def obtainedBlocks (cache : PageTableCache) (answer : BlockAnswer) : List (Nat × Nat) :=
  match cache.partialAllocations, answer with
  | [], .noUsageMap block | [], .block block => [block.allocation.extent]
  | _, _ => []

def refusedBlocks (cache : PageTableCache) (answer : BlockAnswer) : List (Nat × Nat) :=
  match cache.partialAllocations, answer with
  | [], .noUsageMap block => [block.allocation.extent]
  | _, _ => []

def returnedBlocks (cache : PageTableCache) (pa : U32) : List (Nat × Nat) :=
  match splitContaining pa cache.partialAllocations with
  | some (_, alloc, _) => if (alloc.drop (alloc.number pa)).usageCount = 0 then [alloc.extent] else []
  | none => []

structure CacheLedger where
  cache : PageTableCache
  live : List U32
  obtained : List (Nat × Nat)
  returned : List (Nat × Nat)

inductive CacheAction where
  | get (answer : BlockAnswer)
  | release (page : U32)
  | write (page : U32) (index : Nat) (value : U32)

inductive CacheStep (ledger : CacheLedger) : CacheAction → CacheLedger → Prop where
  | got {answer page after} (fresh : ∀ block, answer.kept = some block → block.Fresh ledger.cache)
      (ran : getTablePage ledger.cache answer.kept = some (page, after)) :
      CacheStep ledger (.get answer)
        { cache := after
          live := page :: ledger.live
          obtained := obtainedBlocks ledger.cache answer ++ ledger.obtained
          returned := ledger.returned }
  | refused {answer} (ran : getTablePage ledger.cache answer.kept = none) :
      CacheStep ledger (.get answer)
        { ledger with
          obtained := obtainedBlocks ledger.cache answer ++ ledger.obtained
          returned := refusedBlocks ledger.cache answer ++ ledger.returned }
  | released {page} (isLive : page ∈ ledger.live) :
      CacheStep ledger (.release page)
        { ledger with
          cache := releaseTablePage ledger.cache page
          live := ledger.live.erase page
          returned := returnedBlocks ledger.cache page ++ ledger.returned }
  | missed {page} (outside : ∀ alloc ∈ ledger.cache.allocations, alloc.contains page = false) :
      CacheStep ledger (.release page)
        { ledger with
          cache := releaseTablePage ledger.cache page
          returned := returnedBlocks ledger.cache page ++ ledger.returned }
  | wrote {page index value} (isLive : page ∈ ledger.live) :
      CacheStep ledger (.write page index value)
        { ledger with cache := ledger.cache.iowrite32 page index value }

/-- The cache from `mali_mmu_page_table_cache_create` on. -/
def cacheSystem : Lib.TransitionSystem CacheLedger CacheAction where
  initial ledger := ledger.cache.partialAllocations = [] ∧ ledger.cache.full = [] ∧
    ledger.live = [] ∧ ledger.obtained = [] ∧ ledger.returned = []
  step := CacheStep

namespace PageTableCache

variable {cache after : PageTableCache}

def extents (cache : PageTableCache) : List (Nat × Nat) :=
  cache.allocations.map PageTableAllocation.extent

variable {answer : BlockAnswer}

variable {page : U32}

theorem getTablePage_extents (got : getTablePage cache answer.kept = some (page, after)) :
    after.extents.Perm (obtainedBlocks cache answer ++ cache.extents) := by
  obtain ⟨partialAllocations, full, memory⟩ := cache
  cases partialAllocations with
  | cons alloc rest =>
    have nothing : obtainedBlocks ⟨alloc :: rest, full, memory⟩ answer = [] := by
      cases answer <;> rfl
    simp only [getTablePage] at got
    rw [nothing]
    split at got
    · cases got
      simp only [extents, allocations, map_append, map_cons, nil_append, cons_append]
      exact perm_middle
    · cases got
      exact .refl _
  | nil =>
    cases answer with
    | block block =>
      simp only [getTablePage, BlockAnswer.kept, Option.map_some, Option.some.injEq, Prod.mk.injEq] at got
      obtain ⟨_, rfl⟩ := got
      exact .refl _
    | nothing => simp [getTablePage, BlockAnswer.kept] at got
    | noUsageMap block => simp [getTablePage, BlockAnswer.kept] at got

theorem refusedBlocks_eq (refused : getTablePage cache answer.kept = none) :
    obtainedBlocks cache answer = refusedBlocks cache answer := by
  obtain ⟨partialAllocations, full, memory⟩ := cache
  cases partialAllocations with
  | cons alloc rest => cases answer <;> rfl
  | nil =>
    cases answer with
    | block block => simp [getTablePage, BlockAnswer.kept] at refused
    | nothing | noUsageMap block => rfl

theorem releaseTablePage_extents (cache : PageTableCache) (page : U32) : cache.extents.Perm
      (returnedBlocks cache page ++ (releaseTablePage cache page).extents) := by
  rw [releaseTablePage, returnedBlocks]
  cases first : splitContaining page cache.partialAllocations with
  | some split =>
    obtain ⟨before, alloc, after⟩ := split
    have same := (splitContaining_some first).1
    simp only
    split
    · simp only [extents, allocations, same, map_append, map_cons, append_assoc, cons_append, nil_append]
      exact perm_middle
    · simp only [extents, allocations, same, map_append, map_cons, nil_append]
      exact .refl _
  | none =>
    cases second : splitContaining page cache.full with
    | some split =>
      obtain ⟨before, alloc, after⟩ := split
      have same := (splitContaining_some second).1
      simp only [extents, allocations, same, map_append, map_cons, nil_append, cons_append]
      rw [← append_assoc, ← append_assoc]
      exact perm_middle
    | none => exact .refl _

theorem releaseTablePage_outside (outside : ∀ alloc ∈ cache.allocations, alloc.contains page = false) :
    releaseTablePage cache page = cache ∧ returnedBlocks cache page = [] := by
  have missed (allocations : List PageTableAllocation)
      (within : ∀ alloc ∈ allocations, alloc ∈ cache.allocations) :
      splitContaining page allocations = none := by
    cases found : splitContaining page allocations with
    | none => rfl
    | some split =>
      obtain ⟨same, contained⟩ := splitContaining_some found
      rw [outside split.2.1 (within _ (by simp [same]))] at contained
      contradiction
  have inPartial := missed cache.partialAllocations fun _ member => List.mem_append_left _ member
  have inFull := missed cache.full fun _ member => List.mem_append_right _ member
  simp only [releaseTablePage, returnedBlocks, inPartial, inFull, and_self]

theorem usageCount_pos (wellFormed : cache.WellFormed) {alloc : PageTableAllocation}
    (member : alloc ∈ cache.allocations) : 0 < alloc.usageCount := by
  rcases List.mem_append.mp member with inPartial | inFull
  · exact wellFormed.partialUsed alloc inPartial
  · have several := (wellFormed.each alloc member).several
    have full := wellFormed.fullCount alloc inFull
    omega

theorem allocations_eq_nil (wellFormed : cache.WellFormed) (unused : ∀ page, ¬cache.InUse page) :
    cache.allocations = [] := by
  refine List.eq_nil_iff_forall_not_mem.mpr fun alloc member => ?_
  have positive := usageCount_pos wellFormed member
  rw [(wellFormed.each alloc member).counted, Finset.card_pos] at positive
  obtain ⟨number, used⟩ := positive
  exact unused (alloc.page number) ⟨alloc, member, number, used, rfl⟩

end PageTableCache

namespace CacheLedger

variable {ledger : CacheLedger}

/-- The cache is in order, its pages in use are those its users have, and every block
is in the cache or back with its allocator. -/
structure Sound (ledger : CacheLedger) : Prop where
  wellFormed : ledger.cache.WellFormed
  distinct : ledger.live.Nodup
  live_iff : ∀ page, page ∈ ledger.live ↔ ledger.cache.InUse page
  blocks : ledger.obtained.Perm (ledger.cache.extents ++ ledger.returned)

theorem sound_initial (starts : cacheSystem.initial ledger) : ledger.Sound := by
  obtain ⟨noPartial, noFull, live, obtained, returned⟩ := starts
  have none_ : ledger.cache.allocations = [] := by
    rw [PageTableCache.allocations, noPartial, noFull, List.append_nil]
  refine ⟨⟨?_, ?_, ?_, ?_, ?_⟩, ?_, ?_, ?_⟩
  · simp [none_]
  · simp [noPartial]
  · simp [noPartial]
  · simp [noFull]
  · simp [none_]
  · simp [live]
  · simp [live, PageTableCache.InUse, none_]
  · simp [obtained, returned, PageTableCache.extents, none_]

theorem Sound.get (sound : ledger.Sound) {answer : BlockAnswer} {page : U32}
    {after : PageTableCache} (fresh : ∀ block, answer.kept = some block → block.Fresh ledger.cache)
    (ran : getTablePage ledger.cache answer.kept = some (page, after)) :
    CacheLedger.Sound
      { cache := after
        live := page :: ledger.live
        obtained := obtainedBlocks ledger.cache answer ++ ledger.obtained
        returned := ledger.returned } := by
  have obtained := PageTableCache.getTablePage_obtained sound.wellFormed fresh ran
  refine ⟨obtained.wellFormed, ?_, ?_, ?_⟩
  · refine List.nodup_cons.mpr ⟨fun member => obtained.fresh ?_, sound.distinct⟩
    exact (sound.live_iff page).mp member
  · intro other
    rw [List.mem_cons, sound.live_iff, obtained.inUse]
  · have moved := PageTableCache.getTablePage_extents ran
    refine (sound.blocks.append_left _).trans ?_
    rw [← append_assoc]
    exact moved.symm.append_right _

theorem Sound.refuse (sound : ledger.Sound) {answer : BlockAnswer}
    (ran : getTablePage ledger.cache answer.kept = none) :
    CacheLedger.Sound
      { ledger with
        obtained := obtainedBlocks ledger.cache answer ++ ledger.obtained
        returned := refusedBlocks ledger.cache answer ++ ledger.returned } := by
  refine { sound with blocks := ?_ }
  rw [PageTableCache.refusedBlocks_eq ran]
  refine (sound.blocks.append_left _).trans ?_
  rw [← append_assoc, ← append_assoc]
  exact List.perm_append_comm.append_right _

theorem Sound.release (sound : ledger.Sound) {page : U32} (isLive : page ∈ ledger.live) : CacheLedger.Sound
      { ledger with
        cache := releaseTablePage ledger.cache page
        live := ledger.live.erase page
        returned := returnedBlocks ledger.cache page ++ ledger.returned } := by
  have released := PageTableCache.releaseTablePage_released sound.wellFormed
    ((sound.live_iff page).mp isLive)
  refine ⟨released.wellFormed, sound.distinct.erase page, ?_, ?_⟩
  · intro other
    rw [sound.distinct.mem_erase_iff, sound.live_iff, released.inUse]
  · have moved := ledger.cache.releaseTablePage_extents page
    refine sound.blocks.trans ((moved.append_right _).trans ?_)
    rw [← append_assoc]
    exact List.perm_append_comm.append_right _

theorem Sound.step (sound : ledger.Sound) {action : CacheAction} {after : CacheLedger}
    (stepped : CacheStep ledger action after) : after.Sound := by
  cases stepped with
  | got fresh ran => exact sound.get fresh ran
  | refused ran => exact sound.refuse ran
  | released isLive => exact sound.release isLive
  | missed outside =>
    obtain ⟨same, nothing⟩ := PageTableCache.releaseTablePage_outside outside
    rw [same, nothing]
    exact sound
  | wrote isLive =>
    exact { sound with wellFormed := PageTableCache.iowrite32_wellFormed sound.wellFormed _ _ _ }

theorem Sound.releaseAll (sound : ledger.Sound) (pages : List U32) (all : pages.Perm ledger.live) :
    (pages.foldl releaseTablePage ledger.cache).allocations = [] := by
  induction pages generalizing ledger with
  | nil =>
    have nobody : ledger.live = [] := all.nil_eq.symm
    refine PageTableCache.allocations_eq_nil sound.wellFormed fun page used => ?_
    have member := (sound.live_iff page).mpr used
    simp [nobody] at member
  | cons page rest ih =>
    have isLive : page ∈ ledger.live := all.mem_iff.mp List.mem_cons_self
    have remaining : rest.Perm (ledger.live.erase page) := by
      simpa using all.erase page
    exact ih (sound.release isLive) remaining

end CacheLedger

/-- In every run the pages handed out are distinct pages of their blocks. The counter,
the bitmap and the list of a block agree, and a block without a page in use is not in
the cache any more: every block is in it once or was given back. Once all pages are
released, in any order, both lists are empty. -/
theorem pageTableCache_runs {ledger : CacheLedger} (reached : cacheSystem.Reachable ledger) : ledger.live.Nodup ∧
      (∀ page ∈ ledger.live, ∃ alloc ∈ ledger.cache.allocations, ∃ number < alloc.numPages,
        alloc.usageMap.bit number = true ∧ page.toNat = alloc.physBase.toNat + 4096 * number) ∧
      (∀ alloc ∈ ledger.cache.allocations, alloc.usageCount = alloc.usedPages.card ∧ 0 < alloc.usageCount ∧
        (alloc ∈ ledger.cache.full ↔ alloc.usageCount = alloc.numPages) ∧
        (alloc ∈ ledger.cache.partialAllocations ↔ 0 < alloc.usageCount ∧ alloc.usageCount < alloc.numPages)) ∧
      ledger.obtained.Perm (ledger.cache.extents ++ ledger.returned) ∧
      ∀ pages : List U32, pages.Perm ledger.live →
        (pages.foldl releaseTablePage ledger.cache).allocations = [] := by
  have sound : ledger.Sound :=
    reached.invariant (fun _ starts => CacheLedger.sound_initial starts)
      fun _ _ _ sound stepped => sound.step stepped
  have wellFormed := sound.wellFormed
  refine ⟨sound.distinct, ?_, ?_, sound.blocks, sound.releaseAll⟩
  · intro page isLive
    obtain ⟨alloc, member, number, used, rfl⟩ := (sound.live_iff page).mp isLive
    obtain ⟨inside, set⟩ := PageTableAllocation.mem_usedPages.mp used
    exact ⟨alloc, member, number, inside, set, alloc.page_toNat (wellFormed.each alloc member) inside⟩
  · intro alloc member
    have placed := List.mem_append.mp member
    have full := wellFormed.fullCount alloc
    have used := wellFormed.partialUsed alloc
    have room := wellFormed.partialRoom alloc
    refine ⟨(wellFormed.each alloc member).counted, PageTableCache.usageCount_pos wellFormed member,
      ⟨full, fun count => ?_⟩, ⟨fun inPartial => ⟨used inPartial, room inPartial⟩, fun between => ?_⟩⟩
    · refine placed.resolve_left fun inPartial => ?_
      have := room inPartial
      omega
    · refine placed.resolve_right fun inFull => ?_
      have := full inFull
      omega

def twoPageBlock : PageTableBlock where
  physBase := 0x40000000#32
  size := 0x2000#32
  contents _ _ := 0

def emptyCache : PageTableCache := ⟨[], [], fun _ _ => 0⟩

theorem twoPageBlock_fresh : twoPageBlock.Fresh emptyCache where
  aligned := by decide
  several := by decide
  bounded := by decide
  apart := by simp [emptyCache]

theorem pageTableCache_runs_first : ∃ ledger, cacheSystem.Reachable ledger ∧ ledger.live = [0x40000000#32] ∧
      ledger.obtained.Perm (ledger.cache.extents ++ ledger.returned) := by
  obtain ⟨after, got⟩ : ∃ after, getTablePage emptyCache (some twoPageBlock) =
      some (0x40000000#32, after) := ⟨_, rfl⟩
  have begun : cacheSystem.Reachable ⟨emptyCache, [], [], []⟩ :=
    .initial ⟨rfl, rfl, rfl, rfl, rfl⟩
  have reached : cacheSystem.Reachable ⟨after, [0x40000000#32], [(0x40000000, 2)], []⟩ :=
    begun.next (.get (.block twoPageBlock))
      (.got (by rintro _ ⟨⟩; exact twoPageBlock_fresh) got)
  exact ⟨_, reached, rfl, (pageTableCache_runs reached).2.2.2.1⟩

end Floid.Mmu
