import Floid.Ump.References

/-!
The references a session has, and what its calls do to them. Every mapping of a session
can be found by its cookie, so that it can be unmapped again.
-/

namespace Floid.Ump

open Floid.Osk MemoryAllocation
open Function (update update_of_ne update_self)

def Session.mapped (session : Session) : List Nat :=
  session.mappingsList.filterMap fun mapping =>
    (session.allocations mapping).map MemoryAllocation.handle

def Session.refs (session : Session) : List Nat := session.memoryList ++ session.mapped

structure Session.Booked (session : Session) : Prop where
  cookies : session.cookiesMap.WellFormed
  nodup : session.mappingsList.Nodup
  listed : ∀ mapping ∈ session.mappingsList, ∃ descriptor,
    session.allocations mapping = some descriptor ∧ descriptor.cookie ≠ 0 ∧
      session.cookiesMap.live descriptor.cookie.toNat = some mapping
  known : ∀ cookie mapping, session.cookiesMap.live cookie = some mapping →
    mapping ∈ session.mappingsList ∧ ∃ descriptor,
      session.allocations mapping = some descriptor ∧ descriptor.cookie.toNat = cookie
  fresh : ∀ mapping ∈ session.mappingsList, mapping < session.nextAllocation

structure Kept (session : Session) (device : Device) (rest : List Nat) : Prop where
  booked : session.Booked
  counted : device.Counted (session.refs ++ rest)

theorem ukkOpen_booked : ukkOpen.Booked where
  cookies := DescriptorMapping.create_wellFormed (by omega) (by omega) (by omega)
  nodup := List.nodup_nil
  listed := by simp [ukkOpen]
  known cookie mapping live := by
    rw [ukkOpen, DescriptorMapping.create_live] at live
    cases live
  fresh := by simp [ukkOpen]

namespace Kept

variable {session : Session} {device : Device} {rest : List Nat}

theorem elements (booked : session.Booked) (memoryList : List Nat) : ({ session with memoryList } : Session).Booked :=
  { booked with }

theorem recookie (booked : session.Booked) {cookiesMap : DescriptorMapping Nat}
    (wellFormed : cookiesMap.WellFormed) (same : cookiesMap.live = session.cookiesMap.live) :
    ({ session with cookiesMap } : Session).Booked where
  __ := booked
  cookies := wellFormed
  listed mapping member := by
    dsimp only
    rw [same]
    exact booked.listed mapping member
  known cookie mapping live := by
    dsimp only at live
    rw [same] at live
    exact booked.known cookie mapping live

theorem allocate (kept : Kept session device rest) (request : AllocateRequest) :
    ∃ result after changed, ukkAllocate request session device = (result, after, changed) ∧
      Kept after changed rest := by
  unfold ukkAllocate
  split
  · rcases kept.counted.table.allocated device.nextMem request.tableAllocated with
      full | ⟨mapId, map, ran, new⟩
    · rw [full]
      exact ⟨_, _, _, rfl, kept.booked, kept.counted⟩
    · rw [ran]
      dsimp only
      split
      · obtain ⟨wellFormed, live⟩ := new.free
        exact ⟨_, _, _, rfl, kept.booked, kept.counted.remap wellFormed live⟩
      · exact ⟨_, _, _, rfl, elements kept.booked _, kept.counted.addMem new rfl⟩
  · exact ⟨_, _, _, rfl, kept⟩

theorem findElement_spec {refs : List Nat} (counted : device.Counted refs) (secureId : U32)
    {list : List Nat} (inside : ∀ mem ∈ list, mem ∈ refs) :
    ∃ found, findElement device secureId list = some found ∧ ∀ mem, found = some mem → mem ∈ list := by
  induction list with
  | nil => exact ⟨none, rfl, nofun⟩
  | cons mem others ih =>
    obtain ⟨object, alive⟩ :=
      Option.ne_none_iff_exists'.mp (counted.alive mem (inside mem List.mem_cons_self))
    rw [findElement, alive]
    dsimp only
    split
    · refine ⟨some mem, rfl, ?_⟩
      rintro _ ⟨rfl⟩
      exact List.mem_cons_self
    · obtain ⟨found, ran, member⟩ := ih fun other inOthers =>
        inside other (List.mem_cons_of_mem _ inOthers)
      exact ⟨found, ran, fun other is => List.mem_cons_of_mem _ (member other is)⟩

theorem release (kept : Kept session device rest) (secureId : U32) :
    ∃ result after changed, ukkRelease secureId session device = some (result, after, changed) ∧
      Kept after changed rest := by
  obtain ⟨found, ran, member⟩ := @findElement_spec device _ kept.counted secureId
    session.memoryList fun mem inside => List.mem_append_left _ (List.mem_append_left _ inside)
  unfold ukkRelease
  rw [ran]
  cases found with
  | none => exact ⟨_, _, _, rfl, kept⟩
  | some mem =>
    have first : (session.refs ++ rest).Perm
        (mem :: (({ session with memoryList := session.memoryList.erase mem } : Session).refs ++ rest)) := by
      have split := List.perm_cons_erase (member mem rfl)
      exact (split.append_right session.mapped).append_right rest
    obtain ⟨released, gone, counted⟩ := (kept.counted.perm first).release
    exact ⟨_, _, released, congrArg (Option.map _) gone, elements kept.booked _, counted⟩

theorem addMapping (booked : session.Booked) {cookiesMap : DescriptorMapping Nat} {descriptor : MemoryAllocation}
    (new : NewDescriptor session.cookiesMap cookiesMap descriptor.cookie session.nextAllocation) :
    let after : Session :=
      { session with
        mappingsList := session.nextAllocation :: session.mappingsList
        cookiesMap
        allocations := update session.allocations session.nextAllocation (some descriptor)
        nextAllocation := session.nextAllocation + 1 }
    after.Booked ∧ after.refs.Perm (descriptor.handle :: session.refs) := by
  have absent : session.nextAllocation ∉ session.mappingsList := fun member =>
    Nat.lt_irrefl _ (booked.fresh _ member)
  have old {mapping : Nat} (member : mapping ∈ session.mappingsList) :
      update session.allocations session.nextAllocation (some descriptor) mapping =
        session.allocations mapping := by
    refine update_of_ne ?_ _ _
    rintro rfl
    exact absent member
  refine ⟨⟨new.wellFormed, List.nodup_cons.mpr ⟨absent, booked.nodup⟩, ?_, ?_, ?_⟩, ?_⟩
  · intro mapping member
    dsimp only
    rw [new.live]
    rcases List.mem_cons.mp member with rfl | earlier
    · exact ⟨descriptor, update_self _ _ _, new.unreserved, update_self _ _ _⟩
    · obtain ⟨other, found, unreserved, live⟩ := booked.listed mapping earlier
      refine ⟨other, (old earlier).trans found, unreserved, ?_⟩
      refine (update_of_ne ?_ _ _).trans live
      intro same
      rw [same, new.dead] at live
      cases live
  · intro cookie mapping live
    dsimp only at live ⊢
    rw [new.live] at live
    by_cases same : cookie = descriptor.cookie.toNat
    · subst same
      rw [update_self, Option.some.injEq] at live
      subst live
      exact ⟨List.mem_cons_self, descriptor, update_self _ _ _, rfl⟩
    · rw [update_of_ne same] at live
      obtain ⟨member, other, found, cookieIs⟩ := booked.known cookie mapping live
      exact ⟨List.mem_cons_of_mem _ member, other, (old member).trans found, cookieIs⟩
  · intro mapping member
    dsimp only
    rcases List.mem_cons.mp member with rfl | earlier
    · exact Nat.lt_succ_self _
    · exact Nat.lt_succ_of_lt (booked.fresh mapping earlier)
  · have mapped : session.mappingsList.filterMap (fun mapping =>
          (update session.allocations session.nextAllocation (some descriptor)
            mapping).map handle) = session.mapped :=
      List.filterMap_congr fun mapping member => by rw [old member]
    have first : (update session.allocations session.nextAllocation (some descriptor)
        session.nextAllocation).map handle = some descriptor.handle := by
      rw [update_self]
      rfl
    unfold Session.refs
    dsimp only [Session.mapped]
    rw [List.filterMap_cons, first]
    dsimp only
    rw [mapped]
    exact List.perm_middle

theorem mapMem (kept : Kept session device rest) (request : MapRequest) (unreserved : request.secureId ≠ 0) :
    ∃ result after changed, ukkMapMem request session device = some (result, after, changed) ∧
      Kept after changed rest := by
  unfold ukkMapMem
  split
  · rcases kept.counted.create unreserved with unknown | ⟨mem, referenced, ran, counted⟩
    · rw [unknown]
      exact ⟨_, _, _, rfl, kept⟩
    · rw [ran]
      obtain ⟨object, found⟩ := Option.ne_none_iff_exists'.mp (counted.alive mem List.mem_cons_self)
      obtain ⟨released, gone, countedBefore⟩ := counted.release
      dsimp only
      rw [found]
      dsimp only
      rw [gone]
      split
      · exact ⟨_, _, _, rfl, kept.booked, countedBefore⟩
      · rcases kept.booked.cookies.allocated session.nextAllocation request.tableAllocated with
          full | ⟨mapId, cookies, allocated, new⟩
        · rw [full]
          exact ⟨_, _, _, rfl, kept.booked, countedBefore⟩
        · rw [allocated]
          dsimp only
          obtain ⟨wellFormed, live⟩ := new.free
          split
          · exact ⟨_, _, _, rfl, recookie kept.booked wellFormed live, countedBefore⟩
          · split
            · obtain ⟨booked, refs⟩ := @addMapping session kept.booked _
                ⟨request.size, mem, BitVec.ofNat 32 mapId, object.isCached⟩ new
              exact ⟨_, _, _, rfl, booked, counted.perm (refs.append_right rest).symm⟩
            · exact ⟨_, _, _, rfl, recookie kept.booked wellFormed live, countedBefore⟩
  · exact ⟨_, _, _, rfl, kept⟩

variable {descriptor : MemoryAllocation} {mapping : Nat} {list : List Nat}

theorem removeMapping (booked : session.Booked) (member : mapping ∈ session.mappingsList)
    (found : session.allocations mapping = some descriptor) :
    let after : Session :=
      { session with
        mappingsList := session.mappingsList.erase mapping
        cookiesMap := session.cookiesMap.free descriptor.cookie
        allocations := update session.allocations mapping none }
    after.Booked ∧ session.refs.Perm (descriptor.handle :: after.refs) := by
  obtain ⟨own, foundOwn, unreserved, live⟩ := booked.listed mapping member
  rw [found, Option.some.injEq] at foundOwn
  subst foundOwn
  obtain ⟨wellFormed, freed⟩ := booked.cookies.free unreserved
  have kept {other : Nat} (inside : other ∈ session.mappingsList.erase mapping) :
      other ∈ session.mappingsList ∧
        update session.allocations mapping none other = session.allocations other := by
    obtain ⟨different, before⟩ := booked.nodup.mem_erase_iff.mp inside
    exact ⟨before, update_of_ne different _ _⟩
  refine ⟨⟨wellFormed, booked.nodup.erase mapping, ?_, ?_, ?_⟩, ?_⟩
  · intro other inside
    obtain ⟨different, _⟩ := booked.nodup.mem_erase_iff.mp inside
    obtain ⟨before, same⟩ := kept inside
    obtain ⟨otherDescriptor, foundOther, otherUnreserved, otherLive⟩ := booked.listed other before
    refine ⟨otherDescriptor, same.trans foundOther, otherUnreserved, ?_⟩
    dsimp only
    rw [freed, update_of_ne]
    · exact otherLive
    · intro sameCookie
      rw [sameCookie, live, Option.some.injEq] at otherLive
      exact different otherLive.symm
  · intro cookie other otherLive
    dsimp only at otherLive ⊢
    rw [freed] at otherLive
    have differentCookie : cookie ≠ descriptor.cookie.toNat := by
      rintro rfl
      rw [update_self] at otherLive
      cases otherLive
    rw [update_of_ne differentCookie] at otherLive
    obtain ⟨before, otherDescriptor, foundOther, cookieIs⟩ := booked.known cookie other otherLive
    have different : other ≠ mapping := by
      rintro rfl
      rw [found, Option.some.injEq] at foundOther
      exact differentCookie (by rw [← cookieIs, foundOther])
    exact ⟨booked.nodup.mem_erase_iff.mpr ⟨different, before⟩, otherDescriptor,
      (update_of_ne different _ _).trans foundOther, cookieIs⟩
  · intro other inside
    exact booked.fresh other (kept inside).1
  · have others : (session.mappingsList.erase mapping).filterMap (fun other =>
          (update session.allocations mapping none other).map handle) =
        (session.mappingsList.erase mapping).filterMap fun other =>
          (session.allocations other).map handle :=
      List.filterMap_congr fun other inside => by rw [(kept inside).2]
    have own : (session.allocations mapping).map handle = some descriptor.handle := by
      rw [found]
      rfl
    have split : session.mapped.Perm (descriptor.handle :: (session.mappingsList.erase mapping).filterMap fun other =>
          (session.allocations other).map handle) := by
      refine ((List.perm_cons_erase member).filterMap _).trans ?_
      rw [List.filterMap_cons, own]
    unfold Session.refs
    dsimp only [Session.mapped]
    rw [others]
    exact (split.append_left session.memoryList).trans List.perm_middle

theorem unmapListed (kept : Kept session device rest) (member : mapping ∈ session.mappingsList)
    (found : session.allocations mapping = some descriptor) :
    ∃ after changed, ukkUnmapMem descriptor.cookie session device = some (after, changed) ∧
      Kept after changed rest ∧ after.memoryList = session.memoryList ∧
      after.mappingsList = session.mappingsList.erase mapping := by
  obtain ⟨own, foundOwn, unreserved, live⟩ := kept.booked.listed mapping member
  rw [found, Option.some.injEq] at foundOwn
  subst foundOwn
  obtain ⟨booked, refs⟩ := removeMapping kept.booked member found
  obtain ⟨released, gone, counted⟩ := (kept.counted.perm (refs.append_right rest)).release
  refine ⟨_, released, ?_, ⟨booked, counted⟩, rfl, rfl⟩
  unfold ukkUnmapMem
  rw [kept.booked.cookies.get_eq unreserved, live]
  dsimp only [Option.map_some]
  rw [found]
  dsimp only
  rw [gone]
  rfl

theorem unmapMem (kept : Kept session device rest) {cookie : U32} (unreserved : cookie ≠ 0) :
    ∃ after changed, ukkUnmapMem cookie session device = some (after, changed) ∧ Kept after changed rest := by
  cases live : session.cookiesMap.live cookie.toNat with
  | none =>
    refine ⟨session, device, ?_, kept⟩
    unfold ukkUnmapMem
    rw [kept.booked.cookies.get_eq unreserved, live]
    rfl
  | some mapping =>
    obtain ⟨member, descriptor, found, same⟩ := kept.booked.known _ mapping live
    obtain ⟨after, changed, ran, next, _⟩ := kept.unmapListed member found
    rw [BitVec.eq_of_toNat_eq same] at ran
    exact ⟨after, changed, ran, next⟩

theorem closeMappings_spec (kept : Kept session device rest) (all : session.mappingsList = list) :
    ∃ after changed, closeMappings list session device = some (after, changed) ∧
      Kept after changed rest ∧ after.memoryList = session.memoryList ∧ after.mappingsList = [] := by
  induction list generalizing session device with
  | nil => exact ⟨session, device, rfl, kept, rfl, all⟩
  | cons mapping others ih =>
    have member : mapping ∈ session.mappingsList := by simp [all]
    obtain ⟨descriptor, found, _⟩ := kept.booked.listed mapping member
    obtain ⟨after, changed, ran, next, memory, mappings⟩ := kept.unmapListed member found
    rw [all, List.erase_cons_head] at mappings
    obtain ⟨ended, last, closed, keptLast, memoryLast, none⟩ := ih next mappings
    refine ⟨ended, last, ?_, keptLast, memoryLast.trans memory, none⟩
    rw [closeMappings, found]
    dsimp only
    rw [ran]
    exact closed

theorem closeMemory_spec (counted : device.Counted (list ++ rest)) :
    ∃ changed, closeMemory list device = some changed ∧ changed.Counted rest := by
  induction list generalizing device with
  | nil => exact ⟨device, rfl, counted⟩
  | cons mem others ih =>
    obtain ⟨released, gone, next⟩ := counted.release
    obtain ⟨changed, closed, last⟩ := ih next
    refine ⟨changed, ?_, last⟩
    rw [closeMemory, gone]
    exact closed

theorem close (kept : Kept session device rest) :
    ∃ changed, ukkClose session device = some changed ∧ changed.Counted rest := by
  obtain ⟨after, released, unmapped, next, _, mappings⟩ := kept.closeMappings_spec rfl
  have refs : after.refs = after.memoryList := by
    rw [Session.refs, Session.mapped, mappings]
    exact List.append_nil _
  have counted := next.counted
  rw [refs] at counted
  obtain ⟨changed, closed, last⟩ := closeMemory_spec counted
  refine ⟨changed, ?_, last⟩
  unfold ukkClose
  rw [unmapped]
  exact closed

end Kept

end Floid.Ump
