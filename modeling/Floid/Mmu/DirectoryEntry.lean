import Floid.Mmu.AddressManager
import Floid.Mmu.TablePages

namespace Floid.Mmu

open Floid.Osk PageTableCache

structure EntryView where
  usageCount : Nat
  table : Option (U32 × Words)

namespace AddressSpace

variable {space : AddressSpace}

def entry (space : AddressSpace) (index : Nat) : EntryView where
  usageCount := space.session.pageEntriesUsageCount index
  table := (space.session.pageEntriesMapped index).map fun page => (page, space.cache.memory page)

/-- The directory points to the page tables the session has mapped, each its own
page, and an entry has a page table exactly while it is in use. -/
structure WellFormed (space : AddressSpace) : Prop where
  cache : space.cache.WellFormed
  directoryInUse : space.cache.InUse space.session.pageDirectory
  linked : ∀ index < 1024, ∀ page, space.session.pageEntriesMapped index = some page →
    space.directory index = page ||| flagsPresent ∧ space.cache.InUse page ∧
      page ≠ space.session.pageDirectory ∧ PageAligned page
  unlinked : ∀ index < 1024, space.session.pageEntriesMapped index = none → space.directory index = 0
  injective : ∀ left < 1024, ∀ right < 1024, ∀ page, space.session.pageEntriesMapped left = some page →
    space.session.pageEntriesMapped right = some page → left = right
  counted : ∀ index < 1024, space.session.pageEntriesUsageCount index = 0 ↔
    space.session.pageEntriesMapped index = none

def Foreign (space : AddressSpace) (page : U32) : Prop :=
  space.cache.InUse page ∧ ∀ index < 1024, space.session.pageEntriesMapped index ≠ some page

theorem inUse_iff (wellFormed : space.WellFormed) (page : U32) : space.cache.InUse page ↔
      space.Foreign page ∨ ∃ index < 1024, space.session.pageEntriesMapped index = some page := by
  constructor
  · intro used
    by_cases mine : ∃ index < 1024, space.session.pageEntriesMapped index = some page
    · exact .inr mine
    · exact .inl ⟨used, fun index inside same => mine ⟨index, inside, same⟩⟩
  · rintro (foreign | ⟨index, inside, mapped⟩)
    · exact foreign.1
    · exact (wellFormed.linked index inside page mapped).2.1

variable {index : Nat}

theorem isPresent_directory (wellFormed : space.WellFormed) (inside : index < 1024) :
    isPresent (space.directory index) = (space.session.pageEntriesMapped index).isSome := by
  cases mapped : space.session.pageEntriesMapped index with
  | none => simp [wellFormed.unlinked index inside mapped]
  | some page => simp [(wellFormed.linked index inside page mapped).1]

structure EntryStep (before : AddressSpace) (index : Nat) (view : EntryView)
    (after : AddressSpace) : Prop where
  wellFormed : after.WellFormed
  changed : after.entry index = view
  others : ∀ other < 1024, other ≠ index → after.entry other = before.entry other
  foreign : ∀ page, after.Foreign page ↔ before.Foreign page

theorem mapped_of_entry {left right : AddressSpace} (same : left.entry index = right.entry index) :
    left.session.pageEntriesMapped index = right.session.pageEntriesMapped index := by
  have tables := congrArg EntryView.table same
  simp only [entry] at tables
  cases leftMapped : left.session.pageEntriesMapped index <;>
    cases rightMapped : right.session.pageEntriesMapped index <;>
    simp_all

theorem setUsageCount_step (wellFormed : space.WellFormed) {count : Nat}
    (inside : index < 1024) (linked : space.session.pageEntriesMapped index ≠ none)
    (nonzero : count ≠ 0) :
    EntryStep space index { space.entry index with usageCount := count }
      (space.setUsageCount index count) where
  wellFormed :=
    { wellFormed with
      counted := by
        intro other otherInside
        by_cases same : other = index
        · subst same
          simp [setUsageCount, nonzero, linked]
        · simpa [setUsageCount, same] using wellFormed.counted other otherInside }
  changed := by simp [entry, setUsageCount]
  others := by
    intro other _ different
    simp [entry, setUsageCount, different]
  foreign := fun _ => Iff.rfl

variable {page : U32}

theorem link_step (wellFormed : space.WellFormed) (inside : index < 1024)
    (unmapped : space.session.pageEntriesMapped index = none) {cache : PageTableCache}
    (obtained : Obtained space.cache page cache) :
    EntryStep space index ⟨1, some (page, cache.memory page)⟩
      (((({ space with cache } : AddressSpace).setMapped index (some page)).writeDirectory index
        (page ||| flagsPresent)).setUsageCount index 1) := by
  have notDirectory : page ≠ space.session.pageDirectory := by
    rintro rfl
    exact obtained.fresh wellFormed.directoryInUse
  have directoryKept := obtained.kept _ wellFormed.directoryInUse
  have tablesKept (other) (otherInside : other < 1024) (table : U32)
      (mapped : space.session.pageEntriesMapped other = some table) :
      cache.memory table = space.cache.memory table ∧ table ≠ space.session.pageDirectory ∧ table ≠ page := by
    obtain ⟨_, used, different, _⟩ := wellFormed.linked other otherInside table mapped
    refine ⟨obtained.kept table used, different, ?_⟩
    rintro rfl
    exact obtained.fresh used
  refine ⟨?_, ?_, ?_, ?_⟩
  · refine ⟨iowrite32_wellFormed obtained.wellFormed _ _ _, ?_, ?_, ?_, ?_, ?_⟩
    · exact (obtained.inUse _).mpr (.inr wellFormed.directoryInUse)
    · intro other otherInside table mapped
      simp only [setUsageCount, writeDirectory, setMapped] at mapped
      simp only [directory, setUsageCount, writeDirectory, setMapped, iowrite32_same, iowrite32_inUse]
      split at mapped
      · rename_i same
        cases mapped
        rw [same, Words.write_same]
        exact ⟨rfl, (obtained.inUse _).mpr (.inl rfl), notDirectory, obtained.aligned⟩
      · rename_i different
        obtain ⟨entry, used, apart, aligned⟩ := wellFormed.linked other otherInside table mapped
        rw [Words.write_other _ _ different, directoryKept]
        exact ⟨entry, (obtained.inUse _).mpr (.inr used), apart, aligned⟩
    · intro other otherInside mapped
      simp only [setUsageCount, writeDirectory, setMapped] at mapped
      split at mapped
      · contradiction
      · rename_i different
        simp only [directory, setUsageCount, writeDirectory, setMapped, iowrite32_same]
        rw [Words.write_other _ _ different, directoryKept]
        exact wellFormed.unlinked other otherInside mapped
    · intro left leftInside right rightInside table leftMapped rightMapped
      simp only [setUsageCount, writeDirectory, setMapped] at leftMapped rightMapped
      split at leftMapped <;> split at rightMapped
      · omega
      · cases leftMapped
        exact absurd rfl (tablesKept right rightInside _ rightMapped).2.2
      · cases rightMapped
        exact absurd rfl (tablesKept left leftInside _ leftMapped).2.2
      · exact wellFormed.injective left leftInside right rightInside table leftMapped rightMapped
    · intro other otherInside
      by_cases same : other = index
      · simp [setUsageCount, writeDirectory, setMapped, same]
      · simpa [setUsageCount, writeDirectory, setMapped, same] using
          wellFormed.counted other otherInside
  · simp [entry, setUsageCount, writeDirectory, setMapped, iowrite32_other _ _ notDirectory]
  · intro other otherInside different
    simp only [entry, setUsageCount, writeDirectory, setMapped, different, if_false]
    congr 1
    cases mapped : space.session.pageEntriesMapped other with
    | none => rfl
    | some table =>
      obtain ⟨kept, apart, _⟩ := tablesKept other otherInside table mapped
      simp [iowrite32_other _ _ apart, kept]
  · intro other
    simp only [Foreign, setUsageCount, writeDirectory, setMapped, iowrite32_inUse, obtained.inUse]
    constructor
    · rintro ⟨same | used, absent⟩
      · exact absurd (by simp [same]) (absent index inside)
      · refine ⟨used, fun position below => ?_⟩
        have missing := absent position below
        by_cases same : position = index
        · simp [same, unmapped]
        · simpa [same] using missing
    · rintro ⟨used, absent⟩
      refine ⟨.inr used, fun position below => ?_⟩
      by_cases same : position = index
      · simp only [same, if_true, ne_eq, Option.some.injEq]
        rintro rfl
        exact obtained.fresh used
      · simpa [same] using absent position below

theorem unlink_step (wellFormed : space.WellFormed) (inside : index < 1024)
    (mapped : space.session.pageEntriesMapped index = some page) :
    EntryStep space index ⟨0, none⟩ (unlinkEntry (space.setUsageCount index 0) index) := by
  obtain ⟨directoryEntry, used, notDirectory, aligned⟩ := wellFormed.linked index inside page mapped
  have address : entryAddress (space.directory index) = page := by
    rw [directoryEntry, entryAddress_present aligned]
  have released := releaseTablePage_released wellFormed.cache used
  have shape : unlinkEntry (space.setUsageCount index 0) index =
      ((({ space with cache := releaseTablePage space.cache page } : AddressSpace).setMapped index
        none).writeDirectory index 0).setUsageCount index 0 := by
    unfold unlinkEntry
    rw [show (space.setUsageCount index 0).directory index = space.directory index from rfl, address]
    rfl
  have directoryKept := released.kept _ (Ne.symm notDirectory)
  have tablesKept (other) (otherInside : other < 1024) (different : other ≠ index) (table : U32)
      (tableMapped : space.session.pageEntriesMapped other = some table) :
      table ≠ page ∧ (releaseTablePage space.cache page).memory table = space.cache.memory table := by
    have apart : table ≠ page := by
      rintro rfl
      exact different (wellFormed.injective other otherInside index inside table tableMapped mapped)
    exact ⟨apart, released.kept table apart⟩
  rw [shape]
  refine ⟨?_, ?_, ?_, ?_⟩
  · refine ⟨iowrite32_wellFormed released.wellFormed _ _ _, ?_, ?_, ?_, ?_, ?_⟩
    · exact (released.inUse _).mpr ⟨Ne.symm notDirectory, wellFormed.directoryInUse⟩
    · intro other otherInside table tableMapped
      simp only [setUsageCount, writeDirectory, setMapped] at tableMapped
      split at tableMapped
      · contradiction
      · rename_i different
        obtain ⟨entry, tableUsed, apart, tableAligned⟩ :=
          wellFormed.linked other otherInside table tableMapped
        simp only [directory, setUsageCount, writeDirectory, setMapped, iowrite32_same, iowrite32_inUse]
        rw [Words.write_other _ _ different, directoryKept]
        exact ⟨entry, (released.inUse _).mpr
          ⟨(tablesKept other otherInside different table tableMapped).1, tableUsed⟩,
          apart, tableAligned⟩
    · intro other otherInside tableMapped
      simp only [directory, setUsageCount, writeDirectory, setMapped, iowrite32_same]
      by_cases same : other = index
      · rw [same, Words.write_same]
      · rw [Words.write_other _ _ same, directoryKept]
        refine wellFormed.unlinked other otherInside ?_
        simpa [setUsageCount, writeDirectory, setMapped, same] using tableMapped
    · intro left leftInside right rightInside table leftMapped rightMapped
      simp only [setUsageCount, writeDirectory, setMapped] at leftMapped rightMapped
      split at leftMapped
      · contradiction
      · split at rightMapped
        · contradiction
        · exact wellFormed.injective left leftInside right rightInside table leftMapped rightMapped
    · intro other otherInside
      by_cases same : other = index
      · simp [setUsageCount, writeDirectory, setMapped, same]
      · simpa [setUsageCount, writeDirectory, setMapped, same] using
          wellFormed.counted other otherInside
  · simp [entry, setUsageCount, writeDirectory, setMapped]
  · intro other otherInside different
    simp only [entry, setUsageCount, writeDirectory, setMapped, different, if_false]
    congr 1
    cases tableMapped : space.session.pageEntriesMapped other with
    | none => rfl
    | some table =>
      have apart := (wellFormed.linked other otherInside table tableMapped).2.2.1
      obtain ⟨_, kept⟩ := tablesKept other otherInside different table tableMapped
      simp [iowrite32_other _ _ apart, kept]
  · intro other
    simp only [Foreign, setUsageCount, writeDirectory, setMapped, iowrite32_inUse, released.inUse]
    constructor
    · rintro ⟨⟨apart, otherUsed⟩, absent⟩
      refine ⟨otherUsed, fun position below => ?_⟩
      by_cases same : position = index
      · rw [same, mapped]
        simpa using Ne.symm apart
      · simpa [same] using absent position below
    · rintro ⟨otherUsed, absent⟩
      refine ⟨⟨?_, otherUsed⟩, fun position below => ?_⟩
      · rintro rfl
        exact absent index inside mapped
      · by_cases same : position = index
        · simp [same]
        · simpa [same] using absent position below

end AddressSpace

end Floid.Mmu
