import Floid.Mmu.LinkedSession

namespace Floid.Mmu

open Floid.Osk AddressSpace
open BitVec (lt_def ofNat toNat_add)

def mapsTo (phys : U32) (page : Nat) : U32 :=
  (phys + ofNat 32 (4096 * page)) ||| flagsWritePermission ||| flagsReadPermission |||
    flagsPresent

def chunkPage (start : U32) (page : Nat) : U32 := start + ofNat 32 (4096 * page)

structure AddressSpace.MapsChunk (before after : AddressSpace) (start phys : U32) (pages : Nat) : Prop where
  entries : ∀ page < pages, after.walk (chunkPage start page) = some (mapsTo phys page)
  others : ∀ address : U32, (∀ page < pages, address.toNat / 4096 ≠ (chunkPage start page).toNat / 4096) →
    after.walk address = before.walk address

def MemorySession.entryAt (session : MemorySession) (cache : PageTableCache) (address : U32) : Option U32 :=
  (session.pageEntriesMapped (pdeEntry address)).map fun page =>
    cache.memory page (pteEntry address)

variable {space after : AddressSpace} {session : MemorySession} {cache mapped : PageTableCache}

theorem AddressSpace.Linked.walk_eq (linked : space.Linked) (address : U32) :
    space.walk address = space.session.entryAt space.cache address := by
  have inside := pdeEntry_lt address
  rw [AddressSpace.walk, MemorySession.entryAt]
  cases mapped : space.session.pageEntriesMapped (pdeEntry address) with
  | none => simp [linked.unlinked _ inside mapped]
  | some page =>
    obtain ⟨entry, _, _, aligned⟩ := linked.linked _ inside page mapped
    simp [entry, entryAddress_present aligned]

theorem chunkPage_zero (start : U32) : chunkPage start 0 = start := by
  simp [chunkPage]

theorem chunkPage_succ (start : U32) (page : Nat) :
    chunkPage start (page + 1) = chunkPage (start + pageSize) page := by
  have next : ofNat 32 (4096 * (page + 1)) = pageSize + ofNat 32 (4096 * page) := by
    rw [show pageSize = ofNat 32 4096 from rfl, ← BitVec.ofNat_add]
    congr 1
    omega
  rw [chunkPage, chunkPage, next, BitVec.add_assoc]

theorem mapsTo_zero (phys : U32) : mapsTo phys 0 =
    phys ||| flagsWritePermission ||| flagsReadPermission ||| flagsPresent := by
  simp [mapsTo]

theorem mapsTo_succ (phys : U32) (page : Nat) : mapsTo phys (page + 1) = mapsTo (phys + pageSize) page := by
  have next := chunkPage_succ phys page
  rw [chunkPage, chunkPage] at next
  rw [mapsTo, mapsTo, next]

variable {start chunkEnd : U32} {fuel : Nat}

theorem chunkPage_toNat {page : Nat} (straight : start.toNat + 4096 * page < 2 ^ 32) :
    (chunkPage start page).toNat = start.toNat + 4096 * page := by
  rw [chunkPage, toNat_add, BitVec.toNat_ofNat]
  omega

theorem page_eq_of_entries {left right : U32} (pde : pdeEntry left = pdeEntry right)
    (pte : pteEntry left = pteEntry right) : left.toNat / 4096 = right.toNat / 4096 := by
  rw [pdeEntry_eq, pdeEntry_eq] at pde
  rw [pteEntry_eq, pteEntry_eq] at pte
  omega

section Write

variable {address : U32} {page : U32} (value : U32)

theorem entryAt_iowrite32_same (table : session.pageEntriesMapped (pdeEntry address) = some page) :
    session.entryAt (cache.iowrite32 page (pteEntry address) value) address = some value := by
  simp [MemorySession.entryAt, table, PageTableCache.iowrite32, Words.write]

theorem entryAt_iowrite32_other (injective : ∀ left < 1024, ∀ right < 1024, ∀ page,
      session.pageEntriesMapped left = some page → session.pageEntriesMapped right = some page →
      left = right)
    (table : session.pageEntriesMapped (pdeEntry address) = some page) {other : U32}
    (different : other.toNat / 4096 ≠ address.toNat / 4096) :
    session.entryAt (cache.iowrite32 page (pteEntry address) value) other = session.entryAt cache other := by
  rw [MemorySession.entryAt, MemorySession.entryAt]
  cases otherTable : session.pageEntriesMapped (pdeEntry other) with
  | none => rfl
  | some otherPage =>
    rw [Option.map_some, Option.map_some]
    by_cases samePage : otherPage = page
    · subst samePage
      have samePde := injective _ (pdeEntry_lt other) _ (pdeEntry_lt address) _ otherTable table
      have otherPte : pteEntry other ≠ pteEntry address :=
        fun samePte => different (page_eq_of_entries samePde samePte)
      rw [PageTableCache.iowrite32_same, Words.write_other _ _ otherPte]
    · rw [PageTableCache.iowrite32_other _ _ samePage]

end Write

theorem mapPages_ended {phys : U32} (ended : ¬start < chunkEnd) :
    mapPages session fuel start chunkEnd phys cache = some cache := by
  cases fuel with
  | zero => rw [mapPages, if_neg ended]
  | succ fuel => rw [mapPages, if_neg ended]

theorem mapPages_chunk (injective : ∀ left < 1024, ∀ right < 1024, ∀ page,
      session.pageEntriesMapped left = some page → session.pageEntriesMapped right = some page →
      left = right)
    {pages : Nat} {phys : U32}
    (ran : mapPages session fuel start chunkEnd phys cache = some mapped)
    (covered : chunkEnd.toNat ≤ start.toNat + 4096 * pages)
    (tight : start.toNat + 4096 * pages < chunkEnd.toNat + 4096)
    (straight : start.toNat + 4096 * pages < 2 ^ 32) :
    (∀ page < pages, session.entryAt mapped (chunkPage start page) = some (mapsTo phys page)) ∧
      ∀ address : U32, (∀ page < pages, address.toNat / 4096 ≠ start.toNat / 4096 + page) →
        session.entryAt mapped address = session.entryAt cache address := by
  induction pages generalizing fuel start phys cache with
  | zero =>
    have ended : ¬start < chunkEnd := by
      rw [lt_def]
      omega
    rw [mapPages_ended ended] at ran
    cases ran
    exact ⟨fun _ none => absurd none (Nat.not_lt_zero _), fun _ _ => rfl⟩
  | succ pages ih =>
    have more : start < chunkEnd := by
      rw [lt_def]
      omega
    cases fuel with
    | zero => simp [mapPages, more] at ran
    | succ fuel =>
      rw [mapPages, if_pos more] at ran
      cases table : session.pageEntriesMapped (pdeEntry start) with
      | none => simp [table] at ran
      | some page =>
        simp only [table] at ran
        have nextValue : (start + pageSize).toNat = start.toNat + 4096 := by
          rw [toNat_add, show pageSize.toNat = 4096 from rfl]
          omega
        obtain ⟨inside, outside⟩ := ih ran (by omega) (by omega) (by omega)
        refine ⟨fun number below => ?_, fun address absent => ?_⟩
        · cases number with
          | zero =>
            rw [chunkPage_zero, mapsTo_zero, outside _ fun _ _ => by omega]
            exact entryAt_iowrite32_same _ table
          | succ number =>
            rw [chunkPage_succ, mapsTo_succ]
            exact inside number (by omega)
        · rw [outside address ?_]
          · refine entryAt_iowrite32_other _ injective table ?_
            exact absent 0 (Nat.succ_pos _)
          · intro number below
            have apart := absent (number + 1) (by omega)
            omega

theorem mapPages_withCounts (counts : Nat → Nat) {phys : U32} :
    mapPages (space.withCounts counts).session fuel start chunkEnd phys cache =
      mapPages space.session fuel start chunkEnd phys cache := by
  induction fuel generalizing start phys cache with
  | zero => rfl
  | succ fuel ih => simp only [mapPages, withCounts_mapped, ih]

section Map

variable {descriptor : MemoryAllocation} {offset phys size : U32}

theorem addressManagerMap_linked (linked : space.Linked)
    (mapped : addressManagerMap descriptor offset phys size space = some after) :
    after.Linked ∧ after.session = space.session := by
  have wellFormed := linked.recounted
  rw [addressManagerMap, Option.map_eq_some_iff] at mapped
  obtain ⟨cache, ran, rfl⟩ := mapped
  have again : addressManagerMap descriptor offset phys size
      (space.withCounts (space.countsInside 0 0)) =
      some ({ space with cache }.withCounts (space.countsInside 0 0)) := by
    rw [addressManagerMap, mapPages_withCounts, withCounts_cache, ran]
    rfl
  have kept := (addressManagerMap_step wellFormed again).wellFormed
  refine ⟨?_, rfl⟩
  exact { kept with }

theorem addressManagerMap_skipped (wraps : 2 ^ 32 ≤ (descriptor.maliAddress + offset).toNat + size.toNat) :
    addressManagerMap descriptor offset phys size space = some space := by
  have ended : ¬descriptor.maliAddress + offset < descriptor.maliAddress + offset + size := by
    rw [lt_def, toNat_add _ size]
    omega
  rw [addressManagerMap, mapPages_ended ended]
  rfl

/-- `map` of whole pages is complete exactly when the chunk is empty or ends below the
top of the address space, or all its entries were there before. -/
theorem addressManagerMap_complete_iff (linked : space.Linked) (whole : size.toNat % 4096 = 0)
    (mapped : addressManagerMap descriptor offset phys size space = some after) :
    space.MapsChunk after (descriptor.maliAddress + offset) phys (size.toNat / 4096) ↔
      size = 0 ∨ (descriptor.maliAddress + offset).toNat + size.toNat < 2 ^ 32 ∨
        ∀ page < size.toNat / 4096,
          space.walk (chunkPage (descriptor.maliAddress + offset) page) = some (mapsTo phys page) := by
  by_cases straight : (descriptor.maliAddress + offset).toNat + size.toNat < 2 ^ 32
  · refine iff_of_true ?_ (.inr (.inl straight))
    obtain ⟨afterLinked, sameSession⟩ := addressManagerMap_linked linked mapped
    rw [addressManagerMap, Option.map_eq_some_iff] at mapped
    obtain ⟨cache, ran, rfl⟩ := mapped
    have chunkEnd : (descriptor.maliAddress + offset + size).toNat =
        (descriptor.maliAddress + offset).toNat + 4096 * (size.toNat / 4096) := by
      rw [toNat_add _ size]
      omega
    obtain ⟨inside, outside⟩ := mapPages_chunk linked.injective ran chunkEnd.le
      (by omega) (by omega)
    refine ⟨fun page below => ?_, fun address absent => ?_⟩
    · rw [afterLinked.walk_eq]
      exact inside page below
    · rw [afterLinked.walk_eq, linked.walk_eq]
      refine outside address fun page below => ?_
      have apart := absent page below
      rw [chunkPage_toNat (by omega)] at apart
      omega
  · rw [addressManagerMap_skipped (by omega)] at mapped
    cases mapped
    constructor
    · exact fun maps => .inr (.inr maps.entries)
    · rintro (rfl | below | entries)
      · exact ⟨fun _ none => absurd none (Nat.not_lt_zero _), fun _ _ => rfl⟩
      · exact absurd below straight
      · exact ⟨entries, fun _ _ => rfl⟩

end Map

def lastPage : MemoryAllocation := ⟨0xFFFFF000#32, 0x1000#32, 0⟩

/-- A page of the session at Mali address `0x3FF000`, mapped by the second of two chunks. -/
def twoPages : MemoryAllocation := ⟨0x3FE000#32, 0x2000#32, 0⟩

theorem addressManagerMap_complete_secondPage :
    ∃ space after, addressManagerMap twoPages 0x1000#32 0x800000#32 0x1000#32 space = some after ∧
      space.MapsChunk after 0x3FF000#32 0x800000#32 1 := by
  have allocated : (addressManagerAllocate noSupply twoPages startedSession).1 = .ok := by
    decide +kernel
  obtain ⟨_, cache, block, wellFormed, fresh, began⟩ := startedSession_initial
  have session := (sessionBegin_wellFormed wellFormed fresh began).1
  have linked := (addressManagerAllocate_ok session (Prod.ext allocated rfl)).wellFormed.toLinked
  have ran : (addressManagerMap twoPages 0x1000#32 0x800000#32 0x1000#32
      (addressManagerAllocate noSupply twoPages startedSession).2).isSome = true := by decide +kernel
  obtain ⟨after, mapped⟩ := Option.isSome_iff_exists.mp ran
  refine ⟨_, after, mapped, ?_⟩
  exact (addressManagerMap_complete_iff linked (by decide) mapped).mpr (.inr (.inl (by decide)))

/-- The last page is allocated, `map` succeeds, and the page is not mapped. -/
theorem addressManagerMap_skips_lastPage : ∃ space after, sessionSystem.Reachable ⟨space, [lastPage]⟩ ∧
      addressManagerMap lastPage 0 0x800000#32 lastPage.size space = some after ∧
      after.walk lastPage.maliAddress ≠ some (mapsTo 0x800000#32 0) := by
  have allocated : (addressManagerAllocate noSupply lastPage startedSession).1 = .ok := by
    decide +kernel
  have entry : (addressManagerAllocate noSupply lastPage startedSession).2.walk
      lastPage.maliAddress = some 0#32 := by decide +kernel
  refine ⟨(addressManagerAllocate noSupply lastPage startedSession).2, _,
    .step (.initial startedSession_initial) (.allocated (Prod.ext allocated rfl)),
    addressManagerMap_skipped (by decide), ?_⟩
  rw [entry]
  decide

end Floid.Mmu
