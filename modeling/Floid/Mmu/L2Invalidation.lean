import Floid.Mmu.MapComplete

namespace Floid.Mmu

open Floid.Osk AddressSpace
open Option (map_eq_some_iff map_map map_some)

def mapPagesTo (session : MemorySession) : Nat → U32 → U32 → U32 → PageTableCache → Option (U32 × PageTableCache)
  | 0, maliAddress, maliAddressEnd, _, cache =>
      if maliAddress < maliAddressEnd then none else some (maliAddress, cache)
  | fuel + 1, maliAddress, maliAddressEnd, currentPhysAddr, cache =>
      if maliAddress < maliAddressEnd then
        match session.pageEntriesMapped (pdeEntry maliAddress) with
        | some page =>
            let entry :=
              currentPhysAddr ||| flagsWritePermission ||| flagsReadPermission ||| flagsPresent
            mapPagesTo session fuel (maliAddress + pageSize) maliAddressEnd
              (currentPhysAddr + pageSize) (cache.iowrite32 page (pteEntry maliAddress) entry)
        | none => none
      else some (maliAddress, cache)

def invalidatedTables (space : AddressSpace) (firstPdeIdx lastPdeIdx : Nat) : List U32 :=
  (List.range' firstPdeIdx (lastPdeIdx + 1 - firstPdeIdx)).map fun index =>
    withoutFlags (space.directory index)

/-- `mali_address_manager_map`, with the pages invalidated. The address that picks the
first directory entry is the one the loop has advanced. -/
def addressManagerMapL2 (hasActiveMmus : Bool) (descriptor : MemoryAllocation)
    (offset physAddr size : U32) (space : AddressSpace) : Option (AddressSpace × List U32) :=
  let maliAddressEnd := descriptor.maliAddress + offset + size
  (mapPagesTo space.session (2 ^ 20) (descriptor.maliAddress + offset) maliAddressEnd physAddr
    space.cache).map fun (maliAddress, cache) =>
      let mapped := { space with cache }
      (mapped, if hasActiveMmus then
          invalidatedTables mapped (pdeEntry maliAddress) (pdeEntry (maliAddressEnd - 1))
        else [])

def releaseEntriesL2 (hasActiveMmus : Bool) : Nat → Nat → U32 → U32 → AddressSpace →
    Option (AddressSpace × Bool × List U32)
  | 0, _, _, _, space => some (space, false, [])
  | remaining + 1, index, maliAddress, left, space =>
      let sizeInsidePte := if left < 0x400000#32 then left else 0x400000#32
      let count := decrement (space.session.pageEntriesUsageCount index)
      let counted := space.setUsageCount index count
      if count = 0 then
        (releaseEntriesL2 hasActiveMmus remaining (index + 1) maliAddress (left - sizeInsidePte)
          (unlinkEntry counted index)).map fun (after, _, pages) => (after, true, pages)
      else
        let firstPteIdx := pteEntry maliAddress
        let lastPteIdx := pteEntry (maliAddress + sizeInsidePte - 1)
        let invalidated := if hasActiveMmus then [withoutFlags (counted.directory index)] else []
        match counted.session.pageEntriesMapped index with
        | some page =>
            let zapped :=
              { counted with
                cache := zapEntries page (lastPteIdx + 1 - firstPteIdx) firstPteIdx counted.cache }
            (releaseEntriesL2 hasActiveMmus remaining (index + 1) (maliAddress + sizeInsidePte)
              (left - sizeInsidePte) zapped).map
                fun (after, updated, pages) => (after, updated, invalidated ++ pages)
        | none =>
            if firstPteIdx ≤ lastPteIdx then none
            else
              (releaseEntriesL2 hasActiveMmus remaining (index + 1) (maliAddress + sizeInsidePte)
                (left - sizeInsidePte) counted).map
                  fun (after, updated, pages) => (after, updated, invalidated ++ pages)

/-- `mali_address_manager_release`, with the pages invalidated. -/
def addressManagerReleaseL2 (hasActiveMmus : Bool) (descriptor : MemoryAllocation)
    (space : AddressSpace) : Option (AddressSpace × List U32) :=
  let first := descriptor.firstPdeIdx
  let last := descriptor.releaseLastPdeIdx
  (releaseEntriesL2 hasActiveMmus (last + 1 - first) first descriptor.maliAddress descriptor.size
    space).map fun (after, updated, pages) =>
      (after, if updated && hasActiveMmus then pages ++ [after.session.pageDirectory] else pages)

structure AddressSpace.Invalidates (before after : AddressSpace) (pages : List U32) : Prop where
  tables : ∀ index < 1024, ∀ page, after.session.pageEntriesMapped index = some page →
    (∃ pte < 1024, after.cache.memory page pte ≠ before.cache.memory page pte) → page ∈ pages
  directory : (∃ index < 1024, after.directory index ≠ before.directory index) →
    after.session.pageDirectory ∈ pages

variable {space after : AddressSpace} {session : MemorySession} {cache mapped : PageTableCache}

section SameResult

theorem mapPagesTo_cache (fuel : Nat) (start chunkEnd phys : U32) :
    (mapPagesTo session fuel start chunkEnd phys cache).map Prod.snd =
      mapPages session fuel start chunkEnd phys cache := by
  induction fuel generalizing start phys cache with
  | zero =>
    rw [mapPagesTo, mapPages]
    split <;> rfl
  | succ fuel ih =>
    rw [mapPagesTo, mapPages]
    split
    · cases session.pageEntriesMapped (pdeEntry start) with
      | none => rfl
      | some page => exact ih _ _
    · rfl

variable (hasActiveMmus : Bool)

theorem addressManagerMapL2_space (descriptor : MemoryAllocation) (offset phys size : U32) :
    (addressManagerMapL2 hasActiveMmus descriptor offset phys size space).map Prod.fst =
      addressManagerMap descriptor offset phys size space := by
  rw [addressManagerMapL2, addressManagerMap, ← mapPagesTo_cache, map_map, map_map]
  rfl

theorem releaseEntriesL2_space (remaining index : Nat) (maliAddress left : U32) :
    (releaseEntriesL2 hasActiveMmus remaining index maliAddress left space).map Prod.fst =
      releaseEntries remaining index maliAddress left space := by
  induction remaining generalizing index maliAddress left space with
  | zero => rfl
  | succ remaining ih =>
    rw [releaseEntriesL2, releaseEntries, ← sizeInsidePte]
    by_cases last : decrement (space.session.pageEntriesUsageCount index) = 0
    · rw [if_pos last, if_pos last, ← ih, map_map]
      rfl
    · rw [if_neg last, if_neg last]
      cases (space.setUsageCount index _).session.pageEntriesMapped index with
      | some page =>
        simp only
        rw [← ih, map_map]
        rfl
      | none =>
        by_cases span : pteEntry maliAddress ≤ pteEntry (maliAddress + sizeInsidePte left - 1)
        · simp only [if_pos span, Option.map_none]
        · simp only [if_neg span]
          rw [← ih, map_map]
          rfl

theorem addressManagerReleaseL2_space (descriptor : MemoryAllocation) :
    (addressManagerReleaseL2 hasActiveMmus descriptor space).map Prod.fst =
      addressManagerRelease descriptor space := by
  rw [addressManagerReleaseL2, addressManagerRelease, ← releaseEntriesL2_space hasActiveMmus, map_map]
  rfl

end SameResult

section Map

def chunkPages (start size : U32) : Nat :=
  if start.toNat + size.toNat < 2 ^ 32 then (size.toNat + 4095) / 4096 else 0

def AddressSpace.tableOf (space : AddressSpace) (address : U32) : U32 :=
  withoutFlags (space.directory (pdeEntry address))

/-- Every page whose entry changes is in the table of the chunk's last byte, and the
address behind the pages is still in the directory entry of that table. -/
def AddressSpace.LastTableOnly (space : AddressSpace) (start size phys : U32) : Prop :=
  ∀ page < chunkPages start size,
    (pdeEntry (chunkPage start (chunkPages start size)) = pdeEntry (start + size - 1) ∧
      space.tableOf (chunkPage start page) = space.tableOf (start + size - 1)) ∨
    space.walk (chunkPage start page) = some (mapsTo phys page)

variable {page : U32} {fuel : Nat}

theorem mem_invalidatedTables {first last : Nat} : page ∈ invalidatedTables space first last ↔
      ∃ index, first ≤ index ∧ index ≤ last ∧ page = withoutFlags (space.directory index) := by
  simp only [invalidatedTables, List.mem_map, List.mem_range'_1]
  constructor
  · rintro ⟨index, bounds, rfl⟩
    exact ⟨index, by omega, by omega, rfl⟩
  · rintro ⟨index, lower, upper, rfl⟩
    exact ⟨index, by omega, rfl⟩

variable {chunkEnd : U32}

theorem mapPages_endless {start phys : U32}
    (endless : ∀ address : U32, address.toNat % 4096 = start.toNat % 4096 → address < chunkEnd) :
    mapPages session fuel start chunkEnd phys cache = none := by
  induction fuel generalizing start phys cache with
  | zero => rw [mapPages, if_pos (endless start rfl)]
  | succ fuel ih =>
    rw [mapPages, if_pos (endless start rfl)]
    cases session.pageEntriesMapped (pdeEntry start) with
    | none => rfl
    | some page =>
      refine ih fun address same => endless address (same.trans ?_)
      rw [BitVec.toNat_add, show pageSize.toNat = 4096 from rfl]
      omega

theorem mapPagesTo_end {pages : Nat} {start phys final : U32}
    (ran : mapPagesTo session fuel start chunkEnd phys cache = some (final, mapped))
    (covered : chunkEnd.toNat ≤ start.toNat + 4096 * pages)
    (tight : start.toNat + 4096 * pages < chunkEnd.toNat + 4096)
    (straight : start.toNat + 4096 * pages < 2 ^ 32) : final = chunkPage start pages := by
  induction pages generalizing fuel start phys cache with
  | zero =>
    have ended : ¬start < chunkEnd := by
      rw [BitVec.lt_def]
      omega
    rw [chunkPage_zero]
    cases fuel with
    | zero =>
      rw [mapPagesTo, if_neg ended] at ran
      cases ran
      rfl
    | succ fuel =>
      rw [mapPagesTo, if_neg ended] at ran
      cases ran
      rfl
  | succ pages ih =>
    have more : start < chunkEnd := by
      rw [BitVec.lt_def]
      omega
    cases fuel with
    | zero => simp [mapPagesTo, more] at ran
    | succ fuel =>
      rw [mapPagesTo, if_pos more] at ran
      cases table : session.pageEntriesMapped (pdeEntry start) with
      | none => simp [table] at ran
      | some page =>
        simp only [table] at ran
        have nextValue : (start + pageSize).toNat = start.toNat + 4096 := by
          rw [BitVec.toNat_add, show pageSize.toNat = 4096 from rfl]
          omega
        rw [chunkPage_succ]
        exact ih ran (by omega) (by omega) (by omega)

theorem AddressSpace.Linked.withoutFlags_directory (linked : space.Linked) {index : Nat} (inside : index < 1024)
    (table : space.session.pageEntriesMapped index = some page) :
    withoutFlags (space.directory index) = page := by
  obtain ⟨entry, _, _, aligned⟩ := linked.linked index inside page table
  rw [entry, withoutFlags_present aligned]

def entryAddressOf (pde pte : Nat) : U32 := BitVec.ofNat 32 (4096 * (1024 * pde + pte))

theorem entryAddressOf_entries {pde pte : Nat} (pdeInside : pde < 1024) (pteInside : pte < 1024) :
    (entryAddressOf pde pte).toNat / 4096 = 1024 * pde + pte ∧
      pdeEntry (entryAddressOf pde pte) = pde ∧ pteEntry (entryAddressOf pde pte) = pte := by
  have value : (entryAddressOf pde pte).toNat = 4096 * (1024 * pde + pte) := by
    rw [entryAddressOf, BitVec.toNat_ofNat]
    omega
  rw [pdeEntry_eq, pteEntry_eq, value]
  omega

variable {descriptor : MemoryAllocation} {offset phys size : U32} {pages : List U32}

structure AddressSpace.MapsPages (before after : AddressSpace) (start phys : U32) (count : Nat) : Prop where
  linked : before.Linked
  afterLinked : after.Linked
  session : after.session = before.session
  inside : ∀ page < count, after.session.entryAt after.cache (chunkPage start page) = some (mapsTo phys page)
  outside : ∀ address : U32, (∀ page < count, address.toNat / 4096 ≠ start.toNat / 4096 + page) →
    after.session.entryAt after.cache address = before.session.entryAt before.cache address

theorem chunkPages_bounds {start : U32} (straight : start.toNat + size.toNat < 2 ^ 32) :
    (start + size).toNat ≤ start.toNat + 4096 * chunkPages start size ∧
      start.toNat + 4096 * chunkPages start size < (start + size).toNat + 4096 := by
  rw [chunkPages, if_pos straight, BitVec.toNat_add]
  omega

theorem addressManagerMapL2_maps {start : U32} (linked : space.Linked)
    (ran : addressManagerMapL2 true descriptor offset phys size space = some (after, pages))
    (starts : descriptor.maliAddress + offset = start)
    (straight : start.toNat + size.toNat < 2 ^ 32) :
    start.toNat + 4096 * chunkPages start size < 2 ^ 32 ∧
      space.MapsPages after start phys (chunkPages start size) ∧
      pages = invalidatedTables after (pdeEntry (chunkPage start (chunkPages start size)))
        (pdeEntry (start + size - 1)) := by
  have ranMap : addressManagerMap descriptor offset phys size space = some after := by
    rw [← addressManagerMapL2_space true, ran]
    rfl
  obtain ⟨afterLinked, sameSession⟩ := addressManagerMap_linked linked ranMap
  obtain ⟨covered, tight⟩ := chunkPages_bounds straight
  rw [addressManagerMapL2, starts, map_eq_some_iff] at ran
  obtain ⟨⟨final, cache⟩, ranTo, result⟩ := ran
  simp only [if_true, Prod.mk.injEq] at result
  obtain ⟨rfl, rfl⟩ := result
  have ranPages : mapPages space.session (2 ^ 20) start (start + size) phys space.cache = some cache := by
    rw [← mapPagesTo_cache, ranTo]
    rfl
  have below : start.toNat + 4096 * chunkPages start size < 2 ^ 32 := by
    by_contra beyond
    rw [mapPages_endless] at ranPages
    · contradiction
    · intro address same
      rw [BitVec.lt_def]
      omega
  obtain ⟨inside, outside⟩ := mapPages_chunk linked.injective ranPages covered tight below
  refine ⟨below, ⟨linked, afterLinked, rfl, inside, outside⟩, ?_⟩
  rw [mapPagesTo_end ranTo covered tight below]

namespace AddressSpace.MapsPages

variable {start : U32} {count : Nat}

theorem directory_eq (maps : space.MapsPages after start phys count) {index : Nat}
    (inside : index < 1024) : after.directory index = space.directory index :=
  maps.linked.directory_eq maps.afterLinked inside (by rw [maps.session])

theorem table (maps : space.MapsPages after start phys count) {page : Nat} (below : page < count) :
    ∃ tablePage, after.session.pageEntriesMapped (pdeEntry (chunkPage start page)) = some tablePage ∧
      space.tableOf (chunkPage start page) = tablePage ∧
      after.cache.memory tablePage (pteEntry (chunkPage start page)) = mapsTo phys page ∧
      space.walk (chunkPage start page) =
        some (space.cache.memory tablePage (pteEntry (chunkPage start page))) := by
  have written := maps.inside page below
  rw [MemorySession.entryAt, map_eq_some_iff] at written
  obtain ⟨tablePage, table, word⟩ := written
  have before := table
  rw [maps.session] at before
  refine ⟨tablePage, table, ?_, word, ?_⟩
  · exact maps.linked.withoutFlags_directory (pdeEntry_lt _) before
  · rw [maps.linked.walk_eq, MemorySession.entryAt, before, map_some]

theorem exists_page (maps : space.MapsPages after start phys count)
    (straight : start.toNat + 4096 * count < 2 ^ 32) {index : Nat} (inside : index < 1024)
    {tablePage : U32} (table : after.session.pageEntriesMapped index = some tablePage) {pte : Nat}
    (pteInside : pte < 1024)
    (changed : after.cache.memory tablePage pte ≠ space.cache.memory tablePage pte) :
    ∃ page < count, space.tableOf (chunkPage start page) = tablePage ∧
      space.walk (chunkPage start page) ≠ some (mapsTo phys page) := by
  obtain ⟨number, pde, pteValue⟩ := entryAddressOf_entries inside pteInside
  have differs : after.session.entryAt after.cache (entryAddressOf index pte) ≠
      space.session.entryAt space.cache (entryAddressOf index pte) := by
    rw [← maps.session, MemorySession.entryAt, MemorySession.entryAt, pde, pteValue, table]
    simpa using changed
  have notOutside : ¬∀ page < count, (entryAddressOf index pte).toNat / 4096 ≠ start.toNat / 4096 + page :=
    fun absent => differs (maps.outside _ absent)
  push Not at notOutside
  obtain ⟨page, below, same⟩ := notOutside
  have pageNumber : (chunkPage start page).toNat / 4096 = 1024 * index + pte := by
    rw [chunkPage_toNat (by omega)]
    omega
  have samePde : pdeEntry (chunkPage start page) = index := by
    rw [pdeEntry_eq]
    omega
  have samePte : pteEntry (chunkPage start page) = pte := by
    rw [pteEntry_eq]
    omega
  obtain ⟨written, writtenTable, tableOf, word, walk⟩ := maps.table below
  rw [samePde, table] at writtenTable
  cases writtenTable
  rw [samePte] at word walk
  refine ⟨page, below, tableOf, ?_⟩
  rw [walk, ← word]
  exact fun equal => changed (Option.some.inj equal).symm

end AddressSpace.MapsPages

theorem pdeEntry_mono {left right : U32} (below : left.toNat ≤ right.toNat) :
    pdeEntry left ≤ pdeEntry right := by
  rw [pdeEntry_eq, pdeEntry_eq]
  exact Nat.div_le_div_right below

theorem addressManagerMapL2_invalidates_iff (linked : space.Linked)
    (ran : addressManagerMapL2 true descriptor offset phys size space = some (after, pages)) :
    space.Invalidates after pages ↔ space.LastTableOnly (descriptor.maliAddress + offset) size phys := by
  by_cases straight : (descriptor.maliAddress + offset).toNat + size.toNat < 2 ^ 32
  · generalize starts : descriptor.maliAddress + offset = start at *
    obtain ⟨below, maps, rfl⟩ := addressManagerMapL2_maps linked ran starts straight
    obtain ⟨covered, tight⟩ := chunkPages_bounds straight
    constructor
    · intro invalidates page inside
      by_cases already : space.walk (chunkPage start page) = some (mapsTo phys page)
      · exact .inr already
      · left
        obtain ⟨tablePage, table, tableOf, word, walk⟩ := maps.table inside
        have changed : after.cache.memory tablePage (pteEntry (chunkPage start page)) ≠
            space.cache.memory tablePage (pteEntry (chunkPage start page)) := by
          rw [word]
          rintro same
          exact already (by rw [walk, same])
        have pteInside : pteEntry (chunkPage start page) < 1024 := by
          rw [pteEntry_eq]
          exact Nat.mod_lt _ (by omega)
        have listed := invalidates.tables _ (pdeEntry_lt _) tablePage table
          ⟨_, pteInside, changed⟩
        obtain ⟨index, lower, upper, same⟩ := mem_invalidatedTables.mp listed
        have lastByte : (start + size - 1).toNat ≤ (chunkPage start (chunkPages start size)).toNat := by
          have one : (1 : U32).toNat = 1 := rfl
          have positive : (1 : U32).toNat ≤ (start + size).toNat := by omega
          rw [chunkPage_toNat below, BitVec.toNat_sub_of_le positive]
          omega
        have order := pdeEntry_mono lastByte
        have single : index = pdeEntry (start + size - 1) := by omega
        refine ⟨by omega, ?_⟩
        rw [tableOf, AddressSpace.tableOf, same, single, maps.directory_eq (pdeEntry_lt _)]
    · intro lastTable
      refine ⟨?_, ?_⟩
      · rintro index inside tablePage table ⟨pte, pteInside, changed⟩
        obtain ⟨page, within, tableOf, notThere⟩ :=
          maps.exists_page below inside table pteInside changed
        obtain ⟨sameEntry, sameTable⟩ := (lastTable page within).resolve_right notThere
        refine mem_invalidatedTables.mpr ⟨pdeEntry (start + size - 1), sameEntry.le, Nat.le_refl _, ?_⟩
        rw [← tableOf, sameTable, AddressSpace.tableOf, maps.directory_eq (pdeEntry_lt _)]
      · rintro ⟨index, inside, changed⟩
        exact absurd (maps.directory_eq inside) changed
  · have ranMap : addressManagerMap descriptor offset phys size space = some after := by
      rw [← addressManagerMapL2_space true, ran]
      rfl
    rw [addressManagerMap_skipped (Nat.le_of_not_lt straight)] at ranMap
    cases ranMap
    refine iff_of_true ⟨?_, ?_⟩ ?_
    · rintro index _ page _ ⟨pte, _, changed⟩
      exact absurd rfl changed
    · rintro ⟨index, _, changed⟩
      exact absurd rfl changed
    · intro page below
      rw [chunkPages, if_neg straight] at below
      exact absurd below (Nat.not_lt_zero _)

end Map

section Release

structure AddressSpace.ReleaseInvalidates (before after : AddressSpace) (first count : Nat)
    (updated : Bool) (pages : List U32) : Prop where
  linked : after.Linked
  inside : ∀ index < 1024, first ≤ index → index < first + count → ∀ page,
    after.session.pageEntriesMapped index = some page →
      before.session.pageEntriesMapped index = some page ∧ page ∈ pages
  outside : ∀ index < 1024, index < first ∨ first + count ≤ index →
    (after.entry index).table = (before.entry index).table
  gone : ∀ index < 1024,
    after.session.pageEntriesMapped index ≠ before.session.pageEntriesMapped index → updated = true
  pageDirectory : after.session.pageDirectory = before.session.pageDirectory

structure AddressSpace.RoundKeeps (before middle : AddressSpace) (index : Nat) : Prop where
  linked : middle.Linked
  others : ∀ other < 1024, other ≠ index → (middle.entry other).table = (before.entry other).table
  counts : ∀ other, other ≠ index →
    middle.session.pageEntriesUsageCount other = before.session.pageEntriesUsageCount other
  pageDirectory : middle.session.pageDirectory = before.session.pageDirectory

variable {index : Nat}

theorem mapped_of_table {left right : AddressSpace} (same : (left.entry index).table = (right.entry index).table) :
    left.session.pageEntriesMapped index = right.session.pageEntriesMapped index := by
  simp only [AddressSpace.entry] at same
  cases leftMapped : left.session.pageEntriesMapped index <;>
    cases rightMapped : right.session.pageEntriesMapped index <;>
    simp_all

variable {page : U32}

theorem AddressSpace.Linked.unlinkEntry (linked : space.Linked) (inside : index < 1024)
    (table : space.session.pageEntriesMapped index = some page) (count : Nat) :
    space.RoundKeeps (unlinkEntry (space.setUsageCount index count) index) index := by
  have step := unlink_step linked.recounted inside table
  have kept := step.wellFormed
  refine ⟨?_, fun other otherInside different => ?_, fun other different => ?_, rfl⟩
  · exact { kept with }
  · have same := congrArg EntryView.table (step.others other otherInside different)
    exact same
  · exact if_neg different

theorem AddressSpace.Linked.zapEntries (linked : space.Linked) (inside : index < 1024)
    (table : space.session.pageEntriesMapped index = some page) (count first last : Nat) :
    space.RoundKeeps
      { space.setUsageCount index count with
        cache := zapEntries page (last + 1 - first) first space.cache } index := by
  have step := zap_step linked.recounted inside table Nat.one_ne_zero first last
  have kept := step.wellFormed
  refine ⟨?_, fun other otherInside different => ?_, fun other different => ?_, rfl⟩
  · exact { kept with }
  · have same := congrArg EntryView.table (step.others other otherInside different)
    exact same
  · exact if_neg different

theorem AddressSpace.ReleaseInvalidates.cons {middle : AddressSpace} {first count : Nat}
    {updated rest : Bool} {own pages : List U32} (inside : first < 1024)
    (round : space.RoundKeeps middle first)
    (own_mem : ∀ page, middle.session.pageEntriesMapped first = some page →
      space.session.pageEntriesMapped first = some page ∧ page ∈ own)
    (raises : (rest = true → updated = true) ∧
      (middle.session.pageEntriesMapped first ≠ space.session.pageEntriesMapped first → updated = true))
    (later : middle.ReleaseInvalidates after (first + 1) count rest pages) :
    space.ReleaseInvalidates after first (count + 1) updated (own ++ pages) where
  linked := later.linked
  inside := by
    intro index below lower upper page table
    rcases Nat.eq_or_lt_of_le lower with same | above
    · subst same
      have kept := mapped_of_table (later.outside first inside (.inl (Nat.lt_succ_self _)))
      obtain ⟨before, listed⟩ := own_mem page (kept ▸ table)
      exact ⟨before, List.mem_append_left _ listed⟩
    · obtain ⟨before, listed⟩ := later.inside index below above (by omega) page table
      have kept := mapped_of_table (round.others index below (by omega))
      exact ⟨kept ▸ before, List.mem_append_right _ listed⟩
  outside := by
    intro index below position
    rw [later.outside index below (by omega), round.others index below (by omega)]
  gone := by
    intro index below changed
    by_cases same : after.session.pageEntriesMapped index = middle.session.pageEntriesMapped index
    · by_cases own : index = first
      · subst own
        exact raises.2 (same ▸ changed)
      · exact absurd (same.trans (mapped_of_table (round.others index below own))) changed
    · exact raises.1 (later.gone index below same)
  pageDirectory := later.pageDirectory.trans round.pageDirectory

theorem releaseEntriesL2_invalidates {remaining : Nat} {maliAddress left : U32}
    {updated : Bool} {pages : List U32} (linked : space.Linked) (bounded : index + remaining ≤ 1024)
    (lastReferences : ∀ position, index ≤ position → position < index + remaining →
      space.session.pageEntriesUsageCount position = 1 →
      space.session.pageEntriesMapped position ≠ none)
    (ran : releaseEntriesL2 true remaining index maliAddress left space = some (after, updated, pages)) :
    space.ReleaseInvalidates after index remaining updated pages := by
  induction remaining generalizing index maliAddress left space updated pages with
  | zero =>
    cases ran
    exact ⟨linked, fun _ _ _ none => by omega, fun _ _ _ => rfl, fun _ _ moved => absurd rfl moved, rfl⟩
  | succ remaining ih =>
    have inside : index < 1024 := by omega
    have continues {middle : AddressSpace} {maliAddress left : U32} {rest : Bool}
        {later : List U32} (round : space.RoundKeeps middle index)
        (ranRest : releaseEntriesL2 true remaining (index + 1) maliAddress left middle = some (after, rest, later)) :
        middle.ReleaseInvalidates after (index + 1) remaining rest later := by
      refine ih round.linked (by omega) (fun position above below single => ?_) ranRest
      rw [round.counts position (by omega)] at single
      rw [mapped_of_table (round.others position (by omega) (by omega))]
      exact lastReferences position (by omega) (by omega) single
    rw [releaseEntriesL2, ← sizeInsidePte] at ran
    dsimp only at ran
    by_cases last : decrement (space.session.pageEntriesUsageCount index) = 0
    · rw [if_pos last, map_eq_some_iff] at ran
      obtain ⟨⟨final, rest, later⟩, ranRest, same⟩ := ran
      cases same
      have single : space.session.pageEntriesUsageCount index = 1 := by
        unfold decrement at last
        split at last <;> omega
      obtain ⟨page, table⟩ := Option.ne_none_iff_exists'.mp
        (lastReferences index (Nat.le_refl _) (by omega) single)
      have round := linked.unlinkEntry inside table
        (decrement (space.session.pageEntriesUsageCount index))
      have gone : (unlinkEntry (space.setUsageCount index
          (decrement (space.session.pageEntriesUsageCount index))) index).session.pageEntriesMapped
            index = none := by
        simp [unlinkEntry, setMapped, writeDirectory]
      rw [← List.nil_append later]
      refine .cons inside round (fun page mapped => ?_) ⟨fun _ => rfl, fun _ => rfl⟩
        (continues round ranRest)
      rw [gone] at mapped
      contradiction
    · rw [if_neg last] at ran
      have sameTable : (space.setUsageCount index (decrement
          (space.session.pageEntriesUsageCount index))).session.pageEntriesMapped index =
            space.session.pageEntriesMapped index := rfl
      rw [sameTable] at ran
      cases table : space.session.pageEntriesMapped index with
      | some page =>
        simp only [table, map_eq_some_iff] at ran
        obtain ⟨⟨final, rest, later⟩, ranRest, same⟩ := ran
        cases same
        have round := linked.zapEntries inside table
          (decrement (space.session.pageEntriesUsageCount index)) (pteEntry maliAddress)
          (pteEntry (maliAddress + sizeInsidePte left - 1))
        refine .cons inside round (fun other mapped => ⟨mapped, ?_⟩)
          ⟨id, fun moved => absurd rfl moved⟩ (continues round ranRest)
        have sameDirectory : (space.setUsageCount index (decrement
            (space.session.pageEntriesUsageCount index))).directory index = space.directory index := rfl
        rw [sameDirectory, linked.withoutFlags_directory inside mapped]
        exact List.mem_singleton_self _
      | none =>
        simp only [table] at ran
        split at ran
        · contradiction
        · rw [map_eq_some_iff] at ran
          obtain ⟨⟨final, rest, later⟩, ranRest, same⟩ := ran
          cases same
          have round : space.RoundKeeps (space.setUsageCount index
              (decrement (space.session.pageEntriesUsageCount index))) index :=
            ⟨{ linked with }, fun _ _ _ => rfl, fun _ different => if_neg different, rfl⟩
          refine .cons inside round (fun other mapped => ?_)
            ⟨id, fun moved => absurd rfl moved⟩ (continues round ranRest)
          exact absurd (table.symm.trans mapped) (by simp)

variable {descriptor : MemoryAllocation} {pages : List U32}

theorem addressManagerReleaseL2_invalidates (linked : space.Linked)
    (lastReferences : ∀ index, descriptor.Holds index → space.session.pageEntriesUsageCount index = 1 →
      space.session.pageEntriesMapped index ≠ none)
    (ran : addressManagerReleaseL2 true descriptor space = some (after, pages)) :
    space.Invalidates after pages := by
  have first := @firstPdeIdx_lt descriptor
  have last := @releaseLastPdeIdx_lt descriptor
  rw [addressManagerReleaseL2, map_eq_some_iff] at ran
  obtain ⟨⟨final, updated, zapped⟩, ranLoop, same⟩ := ran
  simp only [Prod.mk.injEq, Bool.and_true] at same
  obtain ⟨rfl, rfl⟩ := same
  have loop := releaseEntriesL2_invalidates linked (by omega)
    (fun index above below single => lastReferences index ⟨above, by omega⟩ single) ranLoop
  refine ⟨?_, ?_⟩
  · rintro index inside page table ⟨pte, _, changed⟩
    by_cases position : descriptor.firstPdeIdx ≤ index ∧ index <
        descriptor.firstPdeIdx + (descriptor.releaseLastPdeIdx + 1 - descriptor.firstPdeIdx)
    · have listed := (loop.inside index inside position.1 position.2 page table).2
      split
      · exact List.mem_append_left _ listed
      · exact listed
    · have kept := loop.outside index inside (by omega)
      have before := mapped_of_table kept
      simp only [AddressSpace.entry, ← before, table, map_some, Option.some.injEq, Prod.mk.injEq, true_and] at kept
      exact absurd (congrFun kept pte) changed
  · rintro ⟨index, inside, changed⟩
    have moved : updated = true := by
      refine loop.gone index inside fun same => changed ?_
      exact linked.directory_eq loop.linked inside same
    rw [if_pos moved]
    exact List.mem_append_right _ (List.mem_singleton_self _)

end Release

/-- With an MMU active, `map` invalidates what it changes exactly when all of that is in
the table the chunk's last byte and the address behind its pages have in common, and
`release` always does. -/
theorem l2Invalidation_iff (linked : space.Linked) : (∀ descriptor offset phys size after pages,
      addressManagerMapL2 true descriptor offset phys size space = some (after, pages) →
      (space.Invalidates after pages ↔ space.LastTableOnly (descriptor.maliAddress + offset) size phys)) ∧
    ∀ descriptor after pages,
      (∀ index, descriptor.Holds index → space.session.pageEntriesUsageCount index = 1 →
        space.session.pageEntriesMapped index ≠ none) →
      addressManagerReleaseL2 true descriptor space = some (after, pages) →
      space.Invalidates after pages :=
  ⟨fun _ _ _ _ _ _ ran => addressManagerMapL2_invalidates_iff linked ran,
    fun _ _ _ lastReferences ran => addressManagerReleaseL2_invalidates linked lastReferences ran⟩

def middlePage : MemoryAllocation := ⟨0x1000#32, 0x1000#32, 0⟩

def boundaryPage : MemoryAllocation := ⟨0x3FF000#32, 0x1000#32, 0⟩

def startedWith (descriptor : MemoryAllocation) : AddressSpace :=
  (addressManagerAllocate noSupply descriptor startedSession).2

theorem startedWith_linked {descriptor : MemoryAllocation}
    (allocated : (addressManagerAllocate noSupply descriptor startedSession).1 = .ok) :
    (startedWith descriptor).Linked := by
  obtain ⟨_, cache, block, wellFormed, fresh, began⟩ := startedSession_initial
  have session := (sessionBegin_wellFormed wellFormed fresh began).1
  exact (addressManagerAllocate_ok session (Prod.ext allocated rfl)).wellFormed.toLinked

theorem l2Invalidation_middlePage : ∃ after pages, addressManagerMapL2 true middlePage 0 0x800000#32 0x1000#32
        (startedWith middlePage) = some (after, pages) ∧
      (startedWith middlePage).Invalidates after pages := by
  have allocated : (addressManagerAllocate noSupply middlePage startedSession).1 = .ok := by
    decide +kernel
  have ran : (addressManagerMapL2 true middlePage 0 0x800000#32 0x1000#32
      (startedWith middlePage)).isSome = true := by decide +kernel
  obtain ⟨⟨after, pages⟩, mapped⟩ := Option.isSome_iff_exists.mp ran
  refine ⟨after, pages, mapped, ?_⟩
  refine ((l2Invalidation_iff (startedWith_linked allocated)).1 _ _ _ _ _ _ mapped).mpr ?_
  intro page below
  have single : chunkPages (middlePage.maliAddress + 0) 0x1000#32 = 1 := by decide
  rw [single] at below
  obtain rfl : page = 0 := by omega
  exact .inl ⟨by decide, rfl⟩

/-- The last page of a table is mapped: the address behind it is in the next directory
entry, and no page is invalidated. -/
theorem addressManagerMapL2_misses_table :
    ∃ after pages, sessionSystem.Reachable ⟨startedWith boundaryPage, [boundaryPage]⟩ ∧
      addressManagerMapL2 true boundaryPage 0 0x800000#32 0x1000#32
        (startedWith boundaryPage) = some (after, pages) ∧
      ¬(startedWith boundaryPage).Invalidates after pages := by
  have allocated : (addressManagerAllocate noSupply boundaryPage startedSession).1 = .ok := by
    decide +kernel
  have ran : (addressManagerMapL2 true boundaryPage 0 0x800000#32 0x1000#32
      (startedWith boundaryPage)).isSome = true := by decide +kernel
  have entry : (startedWith boundaryPage).walk (chunkPage (boundaryPage.maliAddress + 0) 0) =
      some 0#32 := by decide +kernel
  obtain ⟨⟨after, pages⟩, mapped⟩ := Option.isSome_iff_exists.mp ran
  refine ⟨after, pages, .step (.initial startedSession_initial)
    (.allocated (Prod.ext allocated rfl)), mapped, fun invalidates => ?_⟩
  have condition := (addressManagerMapL2_invalidates_iff (startedWith_linked allocated) mapped).mp
    invalidates
  rcases condition 0 (by decide) with ⟨sameEntry, _⟩ | already
  · exact absurd sameEntry (by decide)
  · rw [entry] at already
    exact absurd already (by decide)

end Floid.Mmu
