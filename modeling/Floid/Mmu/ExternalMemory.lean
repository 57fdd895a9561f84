import Floid.Core.PhysRange
import Floid.Descriptors.Model
import Floid.Mmu.AddressManager

namespace Floid.Mmu

open Osk Core Descriptors

/-- The parts of a `memory_session` that mapping external memory uses. -/
structure ExternalSession where
  space : AddressSpace
  descriptors : DescriptorMapping

/-- `_mali_uk_map_external_mem_s`. -/
structure MapExternalArgs where
  physAddr : U32
  size : U32
  maliAddress : U32
  flags : U32

structure ExternalResources where
  /-- The new `mali_memory_allocation`, NULL when there is none. -/
  descriptor : U32
  table : Option Words
  pageTables : PageTableSupply
  /-- There is room for an `external_mem_allocation`. -/
  allocation : Bool

def mapExternalMapGuardPage : U32 := 1#32

def mappedPages : Nat → U32 → U32 → U32 → List U32
  | 0, _, _, _ => []
  | fuel + 1, maliAddress, maliAddressEnd, currentPhysAddr =>
      if maliAddress < maliAddressEnd then
        currentPhysAddr :: mappedPages fuel (maliAddress + pageSize) maliAddressEnd (currentPhysAddr + pageSize)
      else []

def mapPhysical (descriptor : MemoryAllocation) (offset phys size : U32) (space : AddressSpace) :
    Option (AddressSpace × List U32) :=
  let maliAddress := descriptor.maliAddress + offset
  (addressManagerMap descriptor offset phys size space).map fun mapped =>
    (mapped, mappedPages (2 ^ 20) maliAddress (maliAddress + size) phys)

/-- `external_memory_commit`. The flag tells `MALI_MEM_ALLOC_FINISHED` from an
internal failure; neither mapping can fail, as the address manager's never does. -/
def externalMemoryCommit (descriptor : MemoryAllocation) (allocation : Bool) (phys size : U32)
    (space : AddressSpace) : Option (Bool × AddressSpace × List U32) :=
  if allocation then
    match mapPhysical descriptor 0 phys size space with
    | some (mapped, pages) =>
        if descriptor.hasGuardPage then
          -- the guard page shows the first physical page once more
          (mapPhysical descriptor size phys pageSize mapped).map fun (guarded, guardPages) =>
            (true, guarded, pages ++ guardPages)
        else some (true, mapped, pages)
    | none => none
  else some (false, space, [])

/-- `mali_allocation_engine_allocate_memory` with the external memory allocator
alone, for memory not mapped into user space. -/
def allocateExternal (resources : ExternalResources) (descriptor : MemoryAllocation)
    (phys size : U32) (space : AddressSpace) : Option (Errcode × AddressSpace × List U32) :=
  match addressManagerAllocate resources.pageTables descriptor space with
  | (.ok, allocated) =>
      match externalMemoryCommit descriptor resources.allocation phys size allocated with
      | some (true, committed, pages) => some (.ok, committed, pages)
      | some (false, failed, pages) =>
          (addressManagerRelease descriptor failed).map fun released => (.fault, released, pages)
      | none => none
  | (_, refused) => some (.fault, refused, [])

/-- `_mali_ukk_map_external_mem`: the error code, the cookie of a new mapping, the
session, and the physical pages mapped. -/
def ukkMapExternalMem (validator : MemValidation) (args : MapExternalArgs)
    (resources : ExternalResources) (session : ExternalSession) :
    Option (Errcode × Option Int × ExternalSession × List U32) :=
  if args.size = 0 then some (.invalidArgs, none, session, [])
  else if args.size % pageSize ≠ 0 then some (.invalidArgs, none, session, [])
  else
    match validateMaliPhysRange validator args.physAddr args.size with
    | .ok =>
        if resources.descriptor = 0 then some (.nomem, none, session, [])
        else
          let descriptor : MemoryAllocation :=
            { maliAddress := args.maliAddress
              size := args.size
              flags := if args.flags &&& mapExternalMapGuardPage ≠ 0 then flagMapGuardPage else 0 }
          match allocateMapping session.descriptors resources.descriptor resources.table with
          | (some md, descriptors) =>
              match allocateExternal resources descriptor args.physAddr args.size session.space with
              | some (.ok, space, pages) => some (.ok, some md, ⟨space, descriptors⟩, pages)
              | some (_, space, pages) =>
                  some (.nomem, none, ⟨space, free descriptors md⟩, pages)
              | none => none
          | (none, descriptors) => some (.fault, none, { session with descriptors }, [])
    | error => some (error, none, session, [])

variable {maliAddress phys page size : U32} {validator : MemValidation}
    {descriptor : MemoryAllocation} {pages : List U32} {space : AddressSpace}
    {resources : ExternalResources} {result : Errcode}

variable {fuel : Nat}

theorem mapPages_eq_mappedPages {session : MemorySession} {maliAddressEnd : U32} {cache mapped : PageTableCache}
    (ran : mapPages session fuel maliAddress maliAddressEnd phys cache = some mapped)
    (page : U32) (index : Nat) :
    mapped.memory page index = cache.memory page index ∨
      ∃ physPage ∈ mappedPages fuel maliAddress maliAddressEnd phys,
        mapped.memory page index =
          physPage ||| flagsWritePermission ||| flagsReadPermission ||| flagsPresent := by
  induction fuel generalizing maliAddress phys cache with
  | zero =>
    rw [mapPages] at ran
    split at ran
    · contradiction
    · cases ran
      exact .inl rfl
  | succ fuel ih =>
    rw [mapPages] at ran
    rw [mappedPages]
    split at ran
    · rename_i more
      rw [if_pos more]
      cases table : session.pageEntriesMapped (pdeEntry maliAddress) with
      | none => simp [table] at ran
      | some tablePage =>
        simp only [table] at ran
        rcases ih ran with kept | ⟨physPage, member, written⟩
        · rw [kept]
          simp only [PageTableCache.iowrite32]
          by_cases samePage : page = tablePage
          · by_cases sameIndex : index = pteEntry maliAddress
            · exact .inr ⟨phys, List.mem_cons_self, by simp [samePage, sameIndex, Words.write]⟩
            · exact .inl (by simp [samePage, Words.write_other _ _ sameIndex])
          · exact .inl (by simp [samePage])
        · exact .inr ⟨physPage, List.mem_cons_of_mem _ member, written⟩
    · cases ran
      exact .inl rfl

theorem mem_mappedPages (whole : size.toNat % 4096 = 0) (bounded : phys.toNat + size.toNat ≤ 2 ^ 32)
    (member : page ∈ mappedPages fuel maliAddress (maliAddress + size) phys) :
    phys.toNat ≤ page.toNat ∧ page.toNat + 4096 ≤ phys.toNat + size.toNat := by
  induction fuel generalizing maliAddress phys size with
  | zero => simp [mappedPages] at member
  | succ fuel ih =>
    rw [mappedPages] at member
    split at member
    · rename_i more
      rw [BitVec.lt_def, BitVec.toNat_add] at more
      have address := maliAddress.isLt
      have positive : 4096 ≤ size.toNat := by omega
      have pageBytes : pageSize.toNat = 4096 := rfl
      have rest : (size - pageSize).toNat = size.toNat - 4096 := by
        rw [BitVec.toNat_sub_of_le (by rw [BitVec.le_def, pageBytes]; exact positive), pageBytes]
      rcases List.mem_cons.mp member with rfl | later
      · omega
      · by_cases last : size.toNat = 4096
        · have ended : maliAddress + size = maliAddress + pageSize := by
            rw [show size = pageSize from BitVec.eq_of_toNat_eq last]
          rw [ended] at later
          cases fuel with
          | zero => simp [mappedPages] at later
          | succ fuel => simp [mappedPages] at later
        · have next : (phys + pageSize).toNat = phys.toNat + 4096 := by
            rw [BitVec.toNat_add, pageBytes]
            omega
          have same : maliAddress + size = maliAddress + pageSize + (size - pageSize) := by
            rw [BitVec.add_assoc, BitVec.add_comm pageSize, BitVec.sub_add_cancel]
          rw [same] at later
          have inside := ih (by omega) (by omega) later
          omega
    · simp at member

def InWindow (validator : MemValidation) (page : U32) : Prop :=
  validator.Admits page.toNat 4096

theorem inWindow_of_admits {phys size : Nat} (admitted : validator.Admits phys size) (above : phys ≤ page.toNat)
    (below : page.toNat + 4096 ≤ phys + size) : InWindow validator page := by
  intro offset inside
  have := admitted (page.toNat + offset - phys) (by omega)
  omega

theorem mapPhysical_pages {offset : U32} {mapped : AddressSpace}
    (ran : mapPhysical descriptor offset phys size space = some (mapped, pages)) :
    pages = mappedPages (2 ^ 20) (descriptor.maliAddress + offset)
      (descriptor.maliAddress + offset + size) phys := by
  simp only [mapPhysical, Option.map_eq_some_iff, Prod.mk.injEq] at ran
  obtain ⟨_, _, _, rfl⟩ := ran
  rfl

theorem mem_externalMemoryCommit {allocation done : Bool} {committed : AddressSpace}
    (positive : size ≠ 0) (whole : size.toNat % 4096 = 0)
    (bounded : phys.toNat + size.toNat ≤ 2 ^ 32)
    (ran : externalMemoryCommit descriptor allocation phys size space =
      some (done, committed, pages)) (member : page ∈ pages) :
    phys.toNat ≤ page.toNat ∧ page.toNat + 4096 ≤ phys.toNat + size.toNat := by
  have nonzero : size.toNat ≠ 0 := fun zero => positive (BitVec.eq_of_toNat_eq zero)
  have pageBytes : pageSize.toNat = 4096 := rfl
  rw [externalMemoryCommit] at ran
  split at ran
  · split at ran
    · rename_i mapped own mappedRun
      have ownPages := mapPhysical_pages mappedRun
      subst ownPages
      split at ran
      · cases guard : mapPhysical descriptor size phys pageSize mapped with
        | none => simp [guard] at ran
        | some result =>
          obtain ⟨guarded, guardPages⟩ := result
          have shown := mapPhysical_pages guard
          simp only [guard, Option.map_some, Option.some.injEq, Prod.mk.injEq] at ran
          obtain ⟨_, _, rfl⟩ := ran
          rcases List.mem_append.mp member with inOwn | inGuard
          · exact mem_mappedPages whole bounded inOwn
          · rw [shown] at inGuard
            have first := mem_mappedPages (by rw [pageBytes]) (by rw [pageBytes]; omega) inGuard
            omega
      · cases ran
        exact mem_mappedPages whole bounded member
    · cases ran
  · cases ran
    simp at member

theorem mem_allocateExternal {space' : AddressSpace} (positive : size ≠ 0) (whole : size.toNat % 4096 = 0)
    (bounded : phys.toNat + size.toNat ≤ 2 ^ 32)
    (ran : allocateExternal resources descriptor phys size space = some (result, space', pages))
    (member : page ∈ pages) :
    phys.toNat ≤ page.toNat ∧ page.toNat + 4096 ≤ phys.toNat + size.toNat := by
  rw [allocateExternal] at ran
  split at ran
  · split at ran
    · rename_i committedRun
      cases ran
      exact mem_externalMemoryCommit positive whole bounded committedRun member
    · rename_i failedRun
      obtain ⟨_, _, same⟩ := Option.map_eq_some_iff.mp ran
      cases same
      exact mem_externalMemoryCommit positive whole bounded failedRun member
    · cases ran
  · cases ran
    simp at member

theorem mem_ukkMapExternalMem {args : MapExternalArgs} {session session' : ExternalSession} {cookie : Option Int}
    (ran : ukkMapExternalMem validator args resources session =
      some (result, cookie, session', pages)) (member : page ∈ pages) :
    validateMaliPhysRange validator args.physAddr args.size = .ok ∧
      (args.physAddr.toNat + args.size.toNat ≤ 2 ^ 32 → args.physAddr.toNat ≤ page.toNat ∧
          page.toNat + 4096 ≤ args.physAddr.toNat + args.size.toNat) := by
  rw [ukkMapExternalMem] at ran
  split at ran
  · cases ran
    simp at member
  · rename_i positive
    split at ran
    · cases ran
      simp at member
    · split at ran
      · rename_i validated
        refine ⟨validated, fun bounded => ?_⟩
        have whole := (validateMaliPhysRange_ok.mp validated).2.1
        split at ran
        · cases ran
          simp at member
        · dsimp only at ran
          split at ran
          · split at ran
            · rename_i allocated
              cases ran
              exact mem_allocateExternal positive whole bounded allocated member
            · rename_i refused
              cases ran
              exact mem_allocateExternal positive whole bounded refused member
            · cases ran
          · cases ran
            simp at member
      · cases ran
        simp at member

/-- Validation keeps every byte it accepts, and so every page mapped for user space,
in the window, for exactly the ranges whose end does not wrap around into it. -/
theorem physRange_validation_sound_iff (validator : MemValidation) (physAddr size : U32) :
    ((validateMaliPhysRange validator physAddr size = .ok → validator.Admits physAddr.toNat size.toNat) ∧
      ∀ args resources session result cookie session' pages, args.physAddr = physAddr → args.size = size →
        ukkMapExternalMem validator args resources session = some (result, cookie, session', pages) →
        ∀ page ∈ pages, InWindow validator page) ↔
      ¬ validator.WrapsInto physAddr.toNat size.toNat := by
  constructor
  · rintro ⟨sound, _⟩ wraps
    obtain ⟨validated, wrapped⟩ := wrapsInto_iff.mp wraps
    have straight := (validated_admits_iff validated).mp (sound validated)
    omega
  · intro straight
    refine ⟨fun validated => validated_admits_of_not_wrapsInto validated straight, ?_⟩
    rintro args resources session result cookie session' pages rfl rfl ran page member
    obtain ⟨validated, inside⟩ := mem_ukkMapExternalMem ran member
    have admitted := validated_admits_of_not_wrapsInto validated straight
    have bounded := (validated_admits_iff validated).mp admitted
    obtain ⟨above, below⟩ := inside (by omega)
    exact inWindow_of_admits admitted above below

/-- Four gigabytes less a page, starting one page into a window of one gigabyte. -/
theorem physRange_wrapping_accepted :
    validateMaliPhysRange ⟨0#32, 0x40000000#32, 0#32⟩ 0x1000#32 0xFFFFF000#32 = .ok ∧
      ¬ MemValidation.Admits ⟨0#32, 0x40000000#32, 0#32⟩ 0x1000 0xFFFFF000 := by
  refine ⟨by decide, fun admitted => ?_⟩
  have outside := admitted 0x40000000 (by decide)
  exact absurd outside.2 (by decide)

end Floid.Mmu
