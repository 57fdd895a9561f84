import Floid.Mmu.ExternalMemory
import Floid.Mmu.ReleaseExact
import Floid.Mmu.SessionPages

namespace Floid.Mmu

open Floid.Osk Floid.Descriptors AddressSpace
open BitVec (lt_def ofNat toNat_add toNat_ofNat)
open Option (map_eq_some_iff)

/-- `ump_dd_physical_block`. UMP hands out whole pages only. -/
structure UmpBlock where
  addr : U32
  size : U32
  whole : size.toNat % 4096 = 0

/-- `_mali_uk_attach_ump_mem_s`, without the secure id. -/
structure AttachUmpArgs where
  maliAddress : U32
  size : U32
  flags : U32

structure UmpResources where
  /-- The new `mali_memory_allocation`, NULL when there is none. -/
  descriptor : U32
  table : Option Words
  pageTables : PageTableSupply
  /-- There is room for a `ump_mem_allocation`. -/
  allocation : Bool
  blockList : Bool

def writtenAddresses : Nat → U32 → U32 → List U32
  | 0, _, _ => []
  | fuel + 1, maliAddress, maliAddressEnd =>
      if maliAddress < maliAddressEnd then
        maliAddress :: writtenAddresses fuel (maliAddress + pageSize) maliAddressEnd
      else []

/-- `mali_allocation_engine_map_physical` for memory not mapped into user space, with
the addresses it writes entries for. -/
def mapListed (descriptor : MemoryAllocation) (offset phys size : U32) (space : AddressSpace) :
    Option (AddressSpace × List U32) :=
  (addressManagerMap descriptor offset phys size space).map fun mapped =>
    (mapped, writtenAddresses (2 ^ 20) (descriptor.maliAddress + offset) (descriptor.maliAddress + offset + size))

def mapBlocks (descriptor : MemoryAllocation) :
    List UmpBlock → U32 → AddressSpace → Option (U32 × AddressSpace × List U32)
  | [], offset, space => some (offset, space, [])
  | block :: rest, offset, space =>
      match mapListed descriptor offset block.addr block.size space with
      | some (mapped, written) =>
          (mapBlocks descriptor rest (offset + block.size) mapped).map
            fun (final, after, others) => (final, after, written ++ others)
      | none => none

/-- `ump_memory_commit`. The flag tells `MALI_MEM_ALLOC_FINISHED` from an internal
failure; no mapping can fail, as the address manager's never does. -/
def umpMemoryCommit (resources : UmpResources) (descriptor : MemoryAllocation)
    (blocks : List UmpBlock) (space : AddressSpace) : Option (Bool × AddressSpace × List U32) :=
  if resources.allocation then
    match blocks with
    | [] => some (false, space, [])
    | first :: _ =>
        if resources.blockList then
          match mapBlocks descriptor blocks 0 space with
          | some (offset, mapped, written) =>
              if descriptor.hasGuardPage then
                (mapListed descriptor offset first.addr pageSize mapped).map
                  fun (guarded, others) => (true, guarded, written ++ others)
              else some (true, mapped, written)
          | none => none
        else some (false, space, [])
  else some (false, space, [])

def allocateUmp (resources : UmpResources) (descriptor : MemoryAllocation)
    (blocks : List UmpBlock) (space : AddressSpace) :
    Option (Errcode × AddressSpace × List U32) :=
  match addressManagerAllocate resources.pageTables descriptor space with
  | (.ok, allocated) =>
      match umpMemoryCommit resources descriptor blocks allocated with
      | some (true, committed, written) => some (.ok, committed, written)
      | some (false, failed, written) =>
          (addressManagerRelease descriptor failed).map fun released => (.fault, released, written)
      | none => none
  | (_, refused) => some (.fault, refused, [])

def AttachUmpArgs.descriptor (args : AttachUmpArgs) : MemoryAllocation where
  maliAddress := args.maliAddress
  size := args.size
  flags := if args.flags &&& mapExternalMapGuardPage ≠ 0 then flagMapGuardPage else 0

/-- `_mali_ukk_attach_ump_mem`, given the blocks of the UMP object if the secure id
leads to one: the error code, the cookie, the session, and the addresses written for. -/
def ukkAttachUmpMem (args : AttachUmpArgs) (ump : Option (List UmpBlock))
    (resources : UmpResources) (session : ExternalSession) :
    Option (Errcode × Option Int × ExternalSession × List U32) :=
  if args.size = 0 then some (.invalidArgs, none, session, [])
  else if args.size % pageSize ≠ 0 then some (.invalidArgs, none, session, [])
  else
    match ump with
    | none => some (.fault, none, session, [])
    | some blocks =>
        if resources.descriptor = 0 then some (.nomem, none, session, [])
        else
          match allocateMapping session.descriptors resources.descriptor resources.table with
          | (some md, descriptors) =>
              match allocateUmp resources args.descriptor blocks session.space with
              | some (.ok, space, written) => some (.ok, some md, ⟨space, descriptors⟩, written)
              | some (_, space, written) =>
                  some (.nomem, none, ⟨space, free descriptors md⟩, written)
              | none => none
          | (none, descriptors) => some (.fault, none, { session with descriptors }, [])

def MemoryAllocation.Reserves (descriptor : MemoryAllocation) (address : Nat) : Prop :=
  descriptor.maliAddress.toNat ≤ address ∧ address < descriptor.maliAddress.toNat + descriptor.reserved

def laidOut : U32 → List UmpBlock → List (U32 × U32)
  | _, [] => []
  | maliAddress, block :: rest => (maliAddress, block.size) :: laidOut (maliAddress + block.size) rest

def laidOutEnd : U32 → List UmpBlock → U32
  | maliAddress, [] => maliAddress
  | maliAddress, block :: rest => laidOutEnd (maliAddress + block.size) rest

def AttachUmpArgs.ranges (args : AttachUmpArgs) (blocks : List UmpBlock) : List (U32 × U32) :=
  laidOut args.maliAddress blocks ++
    if args.descriptor.hasGuardPage then [(laidOutEnd args.maliAddress blocks, pageSize)] else []

def pageBase (start : U32) : Nat := start.toNat / 4096 * 4096

structure RangeFits (descriptor : MemoryAllocation) (live : List MemoryAllocation)
    (start size : U32) : Prop where
  lower : descriptor.maliAddress.toNat ≤ pageBase start
  upper : pageBase start + size.toNat ≤ descriptor.maliAddress.toNat + descriptor.reserved
  first : descriptor.firstPdeIdx ≤ pageBase start / 2 ^ 22
  last : (pageBase start + size.toNat - 1) / 2 ^ 22 ≤ descriptor.lastPdeIdx
  apart : ∀ other ∈ live, ∀ address < 2 ^ 32, other.Reserves address →
    address < pageBase start ∨ pageBase start + size.toNat ≤ address

/-- Every range that `map` does not skip for running past the top of the address space fits. -/
def AttachUmpArgs.Fits (args : AttachUmpArgs) (blocks : List UmpBlock) (live : List MemoryAllocation) : Prop :=
  ∀ range ∈ args.ranges blocks, 0 < range.2.toNat → range.1.toNat + range.2.toNat < 2 ^ 32 →
    RangeFits args.descriptor live range.1 range.2

/-- The attachment wrote for pages of its reservation only, through page tables it
has referred to, and for no page of another allocation, whose entries are as before. -/
structure StaysInside (descriptor : MemoryAllocation) (live : List MemoryAllocation)
    (before after : AddressSpace) (written : List U32) : Prop where
  inside : ∀ address ∈ written, descriptor.maliAddress.toNat ≤ pageBase address ∧
    pageBase address + 4096 ≤ descriptor.maliAddress.toNat + descriptor.reserved
  tables : ∀ address ∈ written,
    descriptor.firstPdeIdx ≤ pdeEntry address ∧ pdeEntry address ≤ descriptor.lastPdeIdx
  others : ∀ other ∈ live, ∀ address : U32, other.Reserves address.toNat →
    (∀ page ∈ written, pageBase page ≠ pageBase address) ∧
      ∀ entry, before.walk address = some entry → after.walk address = some entry

section Written

variable {start size address : U32} {fuel : Nat}

theorem writtenAddresses_skipped (wraps : 2 ^ 32 ≤ start.toNat + size.toNat) :
    writtenAddresses fuel start (start + size) = [] := by
  cases fuel with
  | zero => rfl
  | succ fuel =>
    have ended : ¬start < start + size := by
      have := size.isLt
      have := start.isLt
      rw [lt_def, toNat_add]
      omega
    rw [writtenAddresses, if_neg ended]

theorem mem_writtenAddresses (whole : size.toNat % 4096 = 0) (enough : size.toNat ≤ 4096 * fuel)
    (straight : start.toNat + size.toNat < 2 ^ 32) :
    address ∈ writtenAddresses fuel start (start + size) ↔
      start.toNat ≤ address.toNat ∧ address.toNat < start.toNat + size.toNat ∧
        address.toNat % 4096 = start.toNat % 4096 := by
  induction fuel generalizing start size with
  | zero =>
    simp only [writtenAddresses, List.not_mem_nil, false_iff]
    omega
  | succ fuel ih =>
    have pageBytes : pageSize.toNat = 4096 := rfl
    have sum : (start + size).toNat = start.toNat + size.toNat := by
      rw [toNat_add]
      omega
    rw [writtenAddresses]
    split
    · rename_i more
      rw [lt_def, sum] at more
      have next : (start + pageSize).toNat = start.toNat + 4096 := by
        rw [toNat_add, pageBytes]
        omega
      have rest : (size - pageSize).toNat = size.toNat - 4096 := by
        rw [BitVec.toNat_sub_of_le (by rw [BitVec.le_def, pageBytes]; omega), pageBytes]
      have same : start + size = start + pageSize + (size - pageSize) := by
        rw [BitVec.add_assoc, BitVec.add_comm pageSize, BitVec.sub_add_cancel]
      have later := @ih (start + pageSize) (size - pageSize) (by omega) (by omega) (by omega)
      rw [List.mem_cons, same, later, ← BitVec.toNat_inj]
      omega
    · rename_i ended
      rw [lt_def, sum] at ended
      simp only [List.not_mem_nil, false_iff]
      omega

def WroteOnly (session : MemorySession) (before after : PageTableCache) (written : List U32) : Prop :=
  ∀ page index, (∀ address ∈ written,
      session.pageEntriesMapped (pdeEntry address) = some page → pteEntry address ≠ index) →
    after.memory page index = before.memory page index

variable {session : MemorySession}

theorem WroteOnly.append {before middle after : PageTableCache}
    {first second : List U32} (earlier : WroteOnly session before middle first)
    (later : WroteOnly session middle after second) :
    WroteOnly session before after (first ++ second) := by
  intro page index absent
  rw [later page index fun address member => absent address (List.mem_append_right _ member),
    earlier page index fun address member => absent address (List.mem_append_left _ member)]

theorem mapPages_wroteOnly {maliAddress maliAddressEnd phys : U32} {cache mapped : PageTableCache}
    (ran : mapPages session fuel maliAddress maliAddressEnd phys cache = some mapped) :
    WroteOnly session cache mapped (writtenAddresses fuel maliAddress maliAddressEnd) := by
  induction fuel generalizing maliAddress phys cache with
  | zero =>
    rw [mapPages] at ran
    split at ran
    · contradiction
    · cases ran
      exact fun _ _ _ => rfl
  | succ fuel ih =>
    rw [mapPages] at ran
    rw [writtenAddresses]
    split at ran
    · rename_i more
      rw [if_pos more]
      cases table : session.pageEntriesMapped (pdeEntry maliAddress) with
      | none => simp [table] at ran
      | some tablePage =>
        simp only [table] at ran
        intro page index absent
        rw [ih ran page index fun address member =>
          absent address (List.mem_cons_of_mem _ member)]
        by_cases samePage : page = tablePage
        · have other := absent maliAddress List.mem_cons_self (samePage ▸ table)
          simp [PageTableCache.iowrite32, samePage, Words.write_other _ _ (Ne.symm other)]
        · simp [PageTableCache.iowrite32, samePage]
    · cases ran
      exact fun _ _ _ => rfl

end Written

def rangeAddresses (range : U32 × U32) : List U32 :=
  writtenAddresses (2 ^ 20) range.1 (range.1 + range.2)

variable {range : U32 × U32}

theorem mem_rangeAddresses {address : U32} (whole : range.2.toNat % 4096 = 0) : address ∈ rangeAddresses range ↔
      range.1.toNat + range.2.toNat < 2 ^ 32 ∧ range.1.toNat ≤ address.toNat ∧
        address.toNat < range.1.toNat + range.2.toNat ∧
        address.toNat % 4096 = range.1.toNat % 4096 := by
  rw [rangeAddresses]
  rcases Nat.lt_or_ge (range.1.toNat + range.2.toNat) (2 ^ 32) with straight | wraps
  · rw [mem_writtenAddresses whole (by omega) straight]
    exact (and_iff_right straight).symm
  · rw [writtenAddresses_skipped wraps]
    simp only [List.not_mem_nil, false_iff]
    omega

structure MapsRanges (before after : AddressSpace) (written : List U32)
    (ranges : List (U32 × U32)) : Prop where
  wellFormed : after.WellFormed
  session : after.session = before.session
  wroteOnly : WroteOnly before.session before.cache after.cache written
  written : written = ranges.flatMap rangeAddresses

variable {blocks : List UmpBlock}

section Ranges

variable {descriptor : MemoryAllocation} {space middle after : AddressSpace}
  {written others : List U32} {ranges rest : List (U32 × U32)}

theorem MapsRanges.nil (wellFormed : space.WellFormed) : MapsRanges space space [] [] :=
  ⟨wellFormed, rfl, fun _ _ _ => rfl, rfl⟩

theorem MapsRanges.append (first : MapsRanges space middle written ranges)
    (later : MapsRanges middle after others rest) :
    MapsRanges space after (written ++ others) (ranges ++ rest) where
  wellFormed := later.wellFormed
  session := later.session.trans first.session
  wroteOnly := by
    have wrote := later.wroteOnly
    rw [first.session] at wrote
    exact first.wroteOnly.append wrote
  written := by rw [List.flatMap_append, first.written, later.written]

variable {offset : U32}

theorem mapListed_mapsRanges {phys size : U32} (wellFormed : space.WellFormed)
    (ran : mapListed descriptor offset phys size space = some (after, written)) :
    MapsRanges space after written [(descriptor.maliAddress + offset, size)] := by
  rw [mapListed, map_eq_some_iff] at ran
  obtain ⟨mapped, mappedRun, same⟩ := ran
  cases same
  have step := addressManagerMap_step wellFormed mappedRun
  rw [addressManagerMap, map_eq_some_iff] at mappedRun
  obtain ⟨cache, pagesRun, rfl⟩ := mappedRun
  exact ⟨step.wellFormed, rfl, mapPages_wroteOnly pagesRun, (List.flatMap_singleton _ _).symm⟩

theorem mapBlocks_mapsRanges {final : U32} (wellFormed : space.WellFormed)
    (ran : mapBlocks descriptor blocks offset space = some (final, after, written)) :
    descriptor.maliAddress + final = laidOutEnd (descriptor.maliAddress + offset) blocks ∧
      MapsRanges space after written (laidOut (descriptor.maliAddress + offset) blocks) := by
  induction blocks generalizing offset space written with
  | nil =>
    cases ran
    exact ⟨rfl, .nil wellFormed⟩
  | cons block rest ih =>
    rw [mapBlocks] at ran
    cases first : mapListed descriptor offset block.addr block.size space with
    | none => simp [first] at ran
    | some result =>
      obtain ⟨mapped, own⟩ := result
      simp only [first, map_eq_some_iff] at ran
      obtain ⟨⟨_, _, others⟩, later, same⟩ := ran
      cases same
      have step := mapListed_mapsRanges wellFormed first
      obtain ⟨ended, steps⟩ := ih step.wellFormed later
      rw [laidOutEnd, laidOut, BitVec.add_assoc]
      exact ⟨ended, step.append steps⟩

theorem umpMemoryCommit_mapsRanges {args : AttachUmpArgs} {resources : UmpResources} (wellFormed : space.WellFormed)
    (ran : umpMemoryCommit resources args.descriptor blocks space = some (true, after, written)) :
    MapsRanges space after written (args.ranges blocks) := by
  unfold umpMemoryCommit at ran
  split at ran
  · split at ran
    · simp at ran
    · rename_i first rest
      split at ran
      · split at ran
        · rename_i offset mapped own mappedRun
          obtain ⟨ended, steps⟩ := mapBlocks_mapsRanges wellFormed mappedRun
          rw [show args.descriptor.maliAddress + 0 = args.maliAddress from
            BitVec.add_zero args.maliAddress] at ended steps
          rw [AttachUmpArgs.ranges, ← ended]
          split at ran
          · rename_i guard
            rw [if_pos guard]
            obtain ⟨⟨guarded, others⟩, guardRun, same⟩ := map_eq_some_iff.mp ran
            cases same
            exact steps.append (mapListed_mapsRanges steps.wellFormed guardRun)
          · rename_i unguarded
            rw [if_neg unguarded, List.append_nil]
            cases ran
            exact steps
        · cases ran
      · simp at ran
  · simp at ran

end Ranges

def ReferencedReleases : SessionState → Action → Prop
  | state, .release descriptor => state.space.Referenced descriptor
  | _, _ => True

theorem sessionSystem_wellFormed {state : SessionState}
    (reached : (sessionSystem.restrict ReferencedReleases).Reachable state) :
    state.space.WellFormed := by
  refine @Lib.TransitionSystem.Reachable.invariant _ _ _
    (fun state : SessionState => state.space.WellFormed) _ reached ?_ ?_
  · rintro state ⟨_, cache, block, cacheWellFormed, fresh, began⟩
    exact (sessionBegin_wellFormed cacheWellFormed fresh began).1
  · rintro before action after wellFormed ⟨referenced, stepped⟩
    have any (supply : PageTableSupply) : supply.AllAllowed fun _ => True :=
      fun _ _ _ _ => trivial
    cases stepped with
    | allocated ran => exact (addressManagerAllocate_pages (any _) wellFormed ran).1
    | refused ran => exact (addressManagerAllocate_pages (any _) wellFormed ran).1
    | mapped _ ran => exact (addressManagerMap_step wellFormed ran).wellFormed
    | released _ ran =>
      exact (@addressManagerRelease_pages _ _ (fun _ => True) _ wellFormed referenced ran).1
    | otherGot fresh ran => exact (otherGot_step wellFormed fresh ran).wellFormed
    | otherReleased foreign notDirectory =>
      exact (otherReleased_step wellFormed foreign notDirectory).wellFormed
    | otherWrote foreign notDirectory =>
      exact (otherWrote_step wellFormed foreign notDirectory _ _).wellFormed

theorem ukkAttachUmpMem_accepted {args : AttachUmpArgs}
    {resources : UmpResources} {session session' : ExternalSession} {cookie : Option Int}
    {written : List U32} (wellFormed : session.space.WellFormed)
    (ran : ukkAttachUmpMem args (some blocks) resources session = some (.ok, cookie, session', written)) :
    ∃ allocated,
      addressManagerAllocate resources.pageTables args.descriptor session.space = (.ok, allocated) ∧
      MapsRanges allocated session'.space written (args.ranges blocks) := by
  unfold ukkAttachUmpMem at ran
  split at ran
  · cases ran
  · split at ran
    · cases ran
    · dsimp only at ran
      split at ran
      · cases ran
      · split at ran
        · split at ran
          · rename_i space own allocatedRun
            cases ran
            unfold allocateUmp at allocatedRun
            split at allocatedRun
            · rename_i allocated took
              have step := addressManagerAllocate_ok wellFormed took
              split at allocatedRun
              · rename_i committedRun
                cases allocatedRun
                exact ⟨allocated, took, umpMemoryCommit_mapsRanges step.wellFormed committedRun⟩
              · obtain ⟨_, _, same⟩ := map_eq_some_iff.mp allocatedRun
                cases same
              · cases allocatedRun
            · cases allocatedRun
          · rename_i failed _ _
            cases ran
          · cases ran
        · cases ran

theorem laidOut_whole {maliAddress : U32}
    (member : range ∈ laidOut maliAddress blocks) : range.2.toNat % 4096 = 0 := by
  induction blocks generalizing maliAddress with
  | nil => simp [laidOut] at member
  | cons block rest ih =>
    rw [laidOut] at member
    rcases List.mem_cons.mp member with rfl | later
    · exact block.whole
    · exact ih later

theorem AttachUmpArgs.ranges_whole {args : AttachUmpArgs}
    (member : range ∈ args.ranges blocks) : range.2.toNat % 4096 = 0 := by
  rcases List.mem_append.mp member with own | guard
  · exact laidOut_whole own
  · split at guard
    · rw [List.mem_singleton.mp guard]
      exact (by decide : pageSize.toNat % 4096 = 0)
    · simp at guard

section Contained

variable {args : AttachUmpArgs} {blocks : List UmpBlock} {live : List MemoryAllocation}
  {space allocated after : AddressSpace} {written : List U32}

theorem MapsRanges.mem_written (maps : MapsRanges allocated after written (args.ranges blocks)) {address : U32} :
    address ∈ written ↔ ∃ range ∈ args.ranges blocks,
      range.1.toNat + range.2.toNat < 2 ^ 32 ∧ range.1.toNat ≤ address.toNat ∧
        address.toNat < range.1.toNat + range.2.toNat ∧
        address.toNat % 4096 = range.1.toNat % 4096 := by
  rw [maps.written, List.mem_flatMap]
  refine exists_congr fun range => and_congr_right fun member => ?_
  exact mem_rangeAddresses (args.ranges_whole member)

variable {supply : PageTableSupply}

theorem MapsRanges.walk_kept (wellFormed : space.WellFormed)
    (took : addressManagerAllocate supply args.descriptor space = (.ok, allocated))
    (maps : MapsRanges allocated after written (args.ranges blocks)) {address entry : U32}
    (unwritten : ∀ page ∈ written, pageBase page ≠ pageBase address)
    (found : space.walk address = some entry) : after.walk address = some entry := by
  have inside := pdeEntry_lt address
  have step := addressManagerAllocate_ok wellFormed took
  have tables : (allocated.entry (pdeEntry address)).table = (space.entry (pdeEntry address)).table := by
    by_cases held : args.descriptor.firstPdeIdx ≤ pdeEntry address ∧
        pdeEntry address < args.descriptor.firstPdeIdx +
          (args.descriptor.lastPdeIdx + 1 - args.descriptor.firstPdeIdx)
    · refine (step.inside _ inside held.1 held.2).kept fun missing => ?_
      rw [walk_eq wellFormed, missing] at found
      cases found
    · rw [step.outside _ inside (by omega)]
  have kept : allocated.walk address = some entry := by
    rw [walk_eq step.wellFormed, tables, ← walk_eq wellFormed, found]
  rw [walk_eq step.wellFormed, AddressSpace.entry] at kept
  rw [walk_eq maps.wellFormed, AddressSpace.entry, maps.session]
  cases mapped : allocated.session.pageEntriesMapped (pdeEntry address) with
  | none => simp [mapped] at kept
  | some table =>
    have same := maps.wroteOnly table (pteEntry address) fun page member shown equal => by
      have entries := step.wellFormed.injective _ (pdeEntry_lt page) _ inside table shown mapped
      refine unwritten page member ?_
      rw [pdeEntry_eq, pdeEntry_eq] at entries
      rw [pteEntry_eq, pteEntry_eq] at equal
      unfold pageBase
      omega
    simpa only [mapped, Option.map_some, same] using kept

theorem staysInside_of_fits (wellFormed : space.WellFormed)
    (took : addressManagerAllocate supply args.descriptor space = (.ok, allocated))
    (maps : MapsRanges allocated after written (args.ranges blocks))
    (fits : args.Fits blocks live) : StaysInside args.descriptor live space after written := by
  have located (address : U32) (member : address ∈ written) : ∃ start size : U32,
      RangeFits args.descriptor live start size ∧ pageBase start ≤ pageBase address ∧
        pageBase address + 4096 ≤ pageBase start + size.toNat := by
    obtain ⟨range, inRanges, straight, lower, upper, phase⟩ := maps.mem_written.mp member
    have whole := args.ranges_whole inRanges
    refine ⟨range.1, range.2, fits range inRanges (by omega) straight, ?_⟩
    unfold pageBase
    omega
  refine ⟨fun address member => ?_, fun address member => ?_, fun other isLive address held => ?_⟩
  · obtain ⟨start, size, fitting, lower, upper⟩ := located address member
    have := fitting.lower
    have := fitting.upper
    omega
  · obtain ⟨start, size, fitting, lower, upper⟩ := located address member
    have first := fitting.first
    have last := fitting.last
    rw [pdeEntry_eq]
    unfold pageBase at lower upper first last
    omega
  · have unwritten (page : U32) (member : page ∈ written) : pageBase page ≠ pageBase address := by
      obtain ⟨start, size, fitting, lower, upper⟩ := located page member
      have apart := fitting.apart other isLive address.toNat address.isLt held
      unfold pageBase at lower upper apart ⊢
      omega
    exact ⟨unwritten, fun entry found => maps.walk_kept wellFormed took unwritten found⟩

theorem fits_of_staysInside (maps : MapsRanges allocated after written (args.ranges blocks))
    (stays : StaysInside args.descriptor live space after written) : args.Fits blocks live := by
  intro range member positive straight
  have whole := args.ranges_whole member
  have writes (offset : Nat) (within : offset < range.2.toNat) (page : offset % 4096 = 0) :
      ∃ address ∈ written, address.toNat = range.1.toNat + offset := by
    have value : (ofNat 32 (range.1.toNat + offset)).toNat = range.1.toNat + offset := by
      rw [toNat_ofNat]
      omega
    refine ⟨_, maps.mem_written.mpr ⟨range, member, straight, ?_⟩, value⟩
    omega
  obtain ⟨first, firstWritten, firstValue⟩ := writes 0 positive rfl
  obtain ⟨last, lastWritten, lastValue⟩ := writes (range.2.toNat - 4096) (by omega) (by omega)
  refine ⟨?_, ?_, ?_, ?_, ?_⟩
  · have lower := (stays.inside first firstWritten).1
    rwa [pageBase, firstValue] at lower
  · have ends : pageBase range.1 + range.2.toNat = pageBase last + 4096 := by
      unfold pageBase
      omega
    exact Nat.le_trans (Nat.le_of_eq ends) (stays.inside last lastWritten).2
  · have lower := (stays.tables first firstWritten).1
    rw [pdeEntry_eq] at lower
    unfold pageBase
    omega
  · have upper := (stays.tables last lastWritten).2
    rw [pdeEntry_eq] at upper
    unfold pageBase
    omega
  · intro other isLive address below held
    by_contra inside
    rw [not_or, Nat.not_lt, Nat.not_le] at inside
    unfold pageBase at inside
    obtain ⟨page, pageWritten, value⟩ :=
      writes (address / 4096 * 4096 - range.1.toNat / 4096 * 4096) (by omega) (by omega)
    have ofAddress : (ofNat 32 address).toNat = address := by
      rw [toNat_ofNat]
      omega
    refine (stays.others other isLive (ofNat 32 address) (by rwa [ofAddress])).1
      page pageWritten ?_
    unfold pageBase
    omega

/-- An accepted attachment stays inside its reservation exactly when the blocks of the
UMP object, laid out from its Mali address on, do. -/
theorem attachUmpMem_contained_iff {resources : UmpResources} {descriptors : DescriptorMapping}
    {session' : ExternalSession} {cookie : Option Int}
    (reached : (sessionSystem.restrict ReferencedReleases).Reachable ⟨space, live⟩)
    (accepted : ukkAttachUmpMem args (some blocks) resources ⟨space, descriptors⟩ =
      some (.ok, cookie, session', written)) :
    StaysInside args.descriptor live space session'.space written ↔ args.Fits blocks live := by
  have wellFormed : space.WellFormed := sessionSystem_wellFormed reached
  obtain ⟨allocated, took, maps⟩ := ukkAttachUmpMem_accepted wellFormed accepted
  exact ⟨fits_of_staysInside maps, staysInside_of_fits wellFormed took maps⟩

end Contained

def plentyOfMemory : UmpResources := ⟨7#32, none, noSupply, true, true⟩

theorem create_isSome : (create 64 65536 true (some fun _ => 0) true).isSome := rfl

def firstDescriptors : DescriptorMapping := (create 64 65536 true (some fun _ => 0) true).get create_isSome

def attachOnePage : AttachUmpArgs := ⟨0#32, 0x1000#32, 0#32⟩

def umpObject (size : U32) (whole : size.toNat % 4096 = 0) : UmpBlock := ⟨0x900000#32, size, whole⟩

theorem attachUmpMem_contained_onePage : ∃ (session' : ExternalSession) (written : List U32), written = [0#32] ∧
      StaysInside attachOnePage.descriptor [] startedSession session'.space written := by
  have ran : (ukkAttachUmpMem attachOnePage (some [umpObject 0x1000#32 (by decide)]) plentyOfMemory
      ⟨startedSession, firstDescriptors⟩).map (fun result => (result.1, result.2.2.2)) =
      some (.ok, [0#32]) := by decide +kernel
  obtain ⟨⟨_, cookie, session', written⟩, accepted, same⟩ := map_eq_some_iff.mp ran
  cases same
  refine ⟨session', _, rfl, (attachUmpMem_contained_iff (.initial startedSession_initial)
    accepted).mpr fun range member _ _ => ?_⟩
  obtain rfl : range = (0#32, 0x1000#32) := List.mem_singleton.mp member
  exact ⟨by decide, by decide, by decide, by decide, by simp⟩

def pageBehind : MemoryAllocation := ⟨0x1000#32, 0x1000#32, 0⟩

def pageBehindSpace : Option AddressSpace :=
  addressManagerMap pageBehind 0 0x800000#32 0x1000#32
    (addressManagerAllocate noSupply pageBehind startedSession).2

theorem pageBehindSpace_reachable {space : AddressSpace} (ran : pageBehindSpace = some space) :
    (sessionSystem.restrict ReferencedReleases).Reachable ⟨space, [pageBehind]⟩ := by
  have allocated : (addressManagerAllocate noSupply pageBehind startedSession).1 = .ok := by
    decide +kernel
  have first : (sessionSystem.restrict ReferencedReleases).Reachable
      ⟨(addressManagerAllocate noSupply pageBehind startedSession).2, [pageBehind]⟩ :=
    Lib.TransitionSystem.Reachable.next (.allocate pageBehind noSupply)
      (.initial startedSession_initial) ⟨trivial, .allocated (Prod.ext allocated rfl)⟩
  exact first.next (.map pageBehind 0 0x800000#32 0x1000#32)
    ⟨trivial, .mapped List.mem_cons_self ran⟩

/-- An object of two pages attached with the size of one is accepted, and its second
page takes the place of the other allocation's. -/
theorem attachUmpMem_overruns : ∃ space session' cookie written,
      (sessionSystem.restrict ReferencedReleases).Reachable ⟨space, [pageBehind]⟩ ∧
      ukkAttachUmpMem attachOnePage (some [umpObject 0x2000#32 (by decide)]) plentyOfMemory
        ⟨space, firstDescriptors⟩ = some (.ok, cookie, session', written) ∧
      0x1000#32 ∈ written ∧ space.walk 0x1000#32 = some 0x800007#32 ∧
      session'.space.walk 0x1000#32 = some 0x901007#32 ∧
      ¬StaysInside attachOnePage.descriptor [pageBehind] space session'.space written := by
  have ran : (pageBehindSpace.bind fun space =>
      (ukkAttachUmpMem attachOnePage (some [umpObject 0x2000#32 (by decide)]) plentyOfMemory
        ⟨space, firstDescriptors⟩).map fun (result, _, session', written) =>
          (result, written, space.walk 0x1000#32, session'.space.walk 0x1000#32)) =
      some (.ok, [0#32, 0x1000#32], some 0x800007#32, some 0x901007#32) := by decide +kernel
  obtain ⟨space, spaceRan, rest⟩ := Option.bind_eq_some_iff.mp ran
  obtain ⟨⟨_, cookie, session', written⟩, accepted, same⟩ := map_eq_some_iff.mp rest
  simp only [Prod.mk.injEq] at same
  obtain ⟨rfl, rfl, before, after⟩ := same
  refine ⟨space, session', cookie, _, pageBehindSpace_reachable spaceRan, accepted, by simp, before,
    after, fun stays => ?_⟩
  exact absurd (stays.inside 0x1000#32 (by simp)).2 (by decide)

end Floid.Mmu
