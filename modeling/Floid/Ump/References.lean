import Floid.Ump.Memory

/-!
The books of UMP: which references there are to each object. A call that takes or drops
one changes the count by one, whoever has the others.
-/

namespace Floid.Ump

open Osk
open Function (update_of_ne update_self)
open Option (some.injEq)

structure Device.Counted (device : Device) (refs : List Nat) : Prop where
  table : device.secureIdMap.WellFormed
  counted : ∀ mem object, device.mems mem = some object → object.refCount = refs.count mem ∧ mem ∈ refs
  alive : ∀ mem ∈ refs, device.mems mem ≠ none
  named : ∀ mem object, device.mems mem = some object →
    object.secureId ≠ 0 ∧ device.secureIdMap.live object.secureId.toNat = some mem
  known : ∀ secureId mem, device.secureIdMap.live secureId = some mem →
    ∃ object, device.mems mem = some object ∧ object.secureId.toNat = secureId
  fresh : ∀ mem, device.nextMem ≤ mem → device.mems mem = none
  released : ∀ mem, device.released.count mem =
    if mem < device.nextMem ∧ device.mems mem = none then 1 else 0

@[simp] theorem Device.setMem_same (device : Device) (mem : Nat) (object : Option DdMem) :
    (device.setMem mem object).mems mem = object :=
  update_self _ _ _

@[simp] theorem Device.setMem_other (device : Device) {mem other : Nat} (different : other ≠ mem)
    (object : Option DdMem) : (device.setMem mem object).mems other = device.mems other :=
  update_of_ne different _ _

namespace Device.Counted

variable {device : Device} {refs others : List Nat} {mem : Nat} {object : DdMem}

theorem perm (counted : device.Counted refs) (same : refs.Perm others) : device.Counted others where
  __ := counted
  counted mem object found := by
    rw [← same.count_eq, ← same.mem_iff]
    exact counted.counted mem object found
  alive mem member := counted.alive mem (same.mem_iff.mpr member)

theorem remap (counted : device.Counted refs) {map : DescriptorMapping Nat}
    (wellFormed : map.WellFormed) (same : map.live = device.secureIdMap.live) :
    Device.Counted { device with secureIdMap := map } refs where
  __ := counted
  table := wellFormed
  named mem object found := by
    dsimp only
    rw [same]
    exact counted.named mem object found
  known secureId mem found := by
    dsimp only at found
    rw [same] at found
    exact counted.known secureId mem found

theorem recount (counted : device.Counted refs) (found : device.mems mem = some object)
    {refCount : Int} (count : refCount = others.count mem) (member : mem ∈ others)
    (rest : ∀ other, other ≠ mem → others.count other = refs.count other) :
    (device.setMem mem (some { object with refCount })).Counted others where
  table := counted.table
  counted other new foundOther := by
    by_cases same : other = mem
    · subst same
      rw [setMem_same, some.injEq] at foundOther
      rw [← foundOther]
      exact ⟨count, member⟩
    · rw [setMem_other _ same] at foundOther
      obtain ⟨before, inRefs⟩ := counted.counted other new foundOther
      rw [rest other same, ← List.count_pos_iff, rest other same, List.count_pos_iff]
      exact ⟨before, inRefs⟩
  alive other inOthers := by
    by_cases same : other = mem
    · subst same
      rw [setMem_same]
      exact Option.some_ne_none _
    · rw [setMem_other _ same]
      rw [← List.count_pos_iff, rest other same, List.count_pos_iff] at inOthers
      exact counted.alive other inOthers
  named other new foundOther := by
    by_cases same : other = mem
    · subst same
      rw [setMem_same, some.injEq] at foundOther
      rw [← foundOther]
      exact counted.named other object found
    · rw [setMem_other _ same] at foundOther
      exact counted.named other new foundOther
  known secureId other named := by
    obtain ⟨new, foundOther, id⟩ := counted.known secureId other named
    by_cases same : other = mem
    · subst same
      rw [found, some.injEq] at foundOther
      subst foundOther
      exact ⟨_, update_self _ _ _, id⟩
    · exact ⟨new, (update_of_ne same _ _).trans foundOther, id⟩
  fresh other later := by
    have absent := counted.fresh other later
    have different : other ≠ mem := by
      rintro rfl
      rw [found] at absent
      cases absent
    exact (update_of_ne different _ _).trans absent
  released other := by
    by_cases same : other = mem
    · subst same
      have before := counted.released other
      simp only [found, reduceCtorEq, and_false, if_false] at before
      simpa [setMem] using before
    · have before := counted.released other
      simpa [setMem, update_of_ne same] using before

theorem add (counted : device.Counted refs) (alive : device.mems mem ≠ none) :
    ∃ after, device.referenceAdd mem = some after ∧ after.Counted (mem :: refs) := by
  obtain ⟨object, found⟩ := Option.ne_none_iff_exists'.mp alive
  obtain ⟨count, _⟩ := counted.counted mem object found
  refine ⟨_, congrArg (Option.map _) found, counted.recount found ?_ List.mem_cons_self ?_⟩
  · rw [count, List.count_cons_self]
    exact (Nat.cast_succ _).symm
  · intro other different
    exact List.count_cons_of_ne (Ne.symm different)

theorem release (counted : device.Counted (mem :: refs)) :
    ∃ after, device.referenceRelease mem = some after ∧ after.Counted refs := by
  obtain ⟨object, found⟩ := Option.ne_none_iff_exists'.mp (counted.alive mem List.mem_cons_self)
  obtain ⟨count, _⟩ := counted.counted mem object found
  obtain ⟨unreserved, named⟩ := counted.named mem object found
  have less : object.refCount - 1 = refs.count mem := by
    rw [count, List.count_cons_self, Nat.cast_succ]
    omega
  have rest (other : Nat) (different : other ≠ mem) : refs.count other = (mem :: refs).count other :=
    (List.count_cons_of_ne (Ne.symm different)).symm
  refine ⟨_, congrArg (Option.map _) found, ?_⟩
  dsimp only
  by_cases last : object.refCount - 1 = 0
  · rw [if_pos last]
    have gone : refs.count mem = 0 := by omega
    obtain ⟨table, live⟩ := counted.table.free unreserved
    have others {other : Nat} {new : DdMem}
        (foundOther : Function.update device.mems mem none other = some new) :
        other ≠ mem ∧ device.mems other = some new := by
      by_cases same : other = mem
      · subst same
        rw [update_self] at foundOther
        cases foundOther
      · exact ⟨same, (update_of_ne same _ _).symm.trans foundOther⟩
    refine ⟨table, ?_, ?_, ?_, ?_, ?_, ?_⟩
    · intro other new foundOther
      obtain ⟨different, before⟩ := others foundOther
      obtain ⟨countOther, member⟩ := counted.counted other new before
      refine ⟨by rw [countOther, rest other different], ?_⟩
      exact (List.mem_cons.mp member).resolve_left different
    · intro other member
      have different : other ≠ mem := by
        rintro rfl
        exact absurd (List.count_pos_iff.mpr member) (by omega)
      dsimp only
      rw [update_of_ne different]
      exact counted.alive other (List.mem_cons_of_mem _ member)
    · intro other new foundOther
      obtain ⟨different, before⟩ := others foundOther
      obtain ⟨otherUnreserved, namedOther⟩ := counted.named other new before
      refine ⟨otherUnreserved, ?_⟩
      dsimp only
      rw [live, update_of_ne]
      · exact namedOther
      · intro sameId
        rw [sameId, named, some.injEq] at namedOther
        exact different namedOther.symm
    · intro secureId other foundId
      dsimp only at foundId
      rw [live] at foundId
      have differentId : secureId ≠ object.secureId.toNat := by
        rintro rfl
        rw [update_self] at foundId
        cases foundId
      rw [update_of_ne differentId] at foundId
      obtain ⟨new, foundOther, id⟩ := counted.known secureId other foundId
      refine ⟨new, (update_of_ne ?_ _ _).trans foundOther, id⟩
      rintro rfl
      rw [found, some.injEq] at foundOther
      exact differentId (by rw [← id, foundOther])
    · intro other later
      by_cases same : other = mem
      · rw [same]
        exact update_self _ _ _
      · exact (update_of_ne same _ _).trans (counted.fresh other later)
    · intro other
      have before := counted.released other
      by_cases same : other = mem
      · subst same
        have below : other < device.nextMem := by
          by_contra notBelow
          rw [counted.fresh other (Nat.le_of_not_lt notBelow)] at found
          cases found
        simp only [found, reduceCtorEq, and_false, if_false] at before
        simp [below, before]
      · rw [List.count_cons_of_ne (Ne.symm same), before]
        simp only [update_of_ne same]
  · rw [if_neg last]
    refine counted.recount found less ?_ rest
    refine List.count_pos_iff.mp ?_
    omega

theorem create (counted : device.Counted refs) {secureId : U32} (unreserved : secureId ≠ 0) :
    device.handleCreateFromSecureId secureId = some (none, device) ∨
      ∃ mem after, device.handleCreateFromSecureId secureId = some (some mem, after) ∧
        after.Counted (mem :: refs) := by
  unfold handleCreateFromSecureId
  rw [counted.table.get_eq unreserved]
  cases found : device.secureIdMap.live secureId.toNat with
  | none => exact .inl rfl
  | some mem =>
    obtain ⟨object, alive, _⟩ := counted.known _ mem found
    obtain ⟨after, added, next⟩ := counted.add (Option.ne_none_iff_exists'.mpr ⟨object, alive⟩)
    exact .inr ⟨mem, after, congrArg (Option.map _) added, next⟩

end Device.Counted

structure NewDescriptor {Target : Type*} (before after : DescriptorMapping Target) (descriptor : U32)
    (target : Target) : Prop where
  unreserved : descriptor ≠ 0
  dead : before.live descriptor.toNat = none
  wellFormed : after.WellFormed
  live : after.live = Function.update before.live descriptor.toNat (some target)

theorem NewDescriptor.free {Target : Type*} {before after : DescriptorMapping Target}
    {descriptor : U32} {target : Target} (new : NewDescriptor before after descriptor target) :
    (after.free descriptor).WellFormed ∧ (after.free descriptor).live = before.live := by
  obtain ⟨wellFormed, live⟩ := new.wellFormed.free new.unreserved
  refine ⟨wellFormed, ?_⟩
  rw [live, new.live, Function.update_idem, ← new.dead, Function.update_eq_self]

theorem DescriptorMapping.WellFormed.allocated {Target : Type*} {map : DescriptorMapping Target}
    (wellFormed : map.WellFormed) (target : Target) (tableAllocated : Bool) :
    map.allocateMapping target tableAllocated = (none, map) ∨
      ∃ mapId after, map.allocateMapping target tableAllocated = (some mapId, after) ∧
        NewDescriptor map after (BitVec.ofNat 32 mapId) target := by
  refine (wellFormed.allocateMapping target tableAllocated).imp id ?_
  rintro ⟨mapId, after, ran, notZero, small, dead, next, live⟩
  have same : (BitVec.ofNat 32 mapId).toNat = mapId := by
    rw [BitVec.toNat_ofNat]
    omega
  refine ⟨mapId, after, ran, fun zero => ?_, ?_, next, ?_⟩
  · rw [zero] at same
    exact notZero same.symm
  · rw [same]
    exact dead
  · rw [same]
    exact live

namespace Device.Counted

variable {device : Device} {refs : List Nat} {map : DescriptorMapping Nat} {object : DdMem}

theorem addMem (counted : device.Counted refs)
    (new : NewDescriptor device.secureIdMap map object.secureId device.nextMem)
    (once : object.refCount = 1) : (device.addMem map object).Counted (device.nextMem :: refs) := by
  have absent : device.nextMem ∉ refs := fun member =>
    counted.alive _ member (counted.fresh _ (Nat.le_refl _))
  have newMem : (device.addMem map object).mems device.nextMem = some object :=
    update_self _ _ _
  have oldMem {mem : Nat} (different : mem ≠ device.nextMem) :
      (device.addMem map object).mems mem = device.mems mem :=
    update_of_ne different _ _
  have aliveIsOld {mem : Nat} {old : DdMem} (found : device.mems mem = some old) : mem ≠ device.nextMem := by
    rintro rfl
    rw [counted.fresh _ (Nat.le_refl _)] at found
    cases found
  refine ⟨new.wellFormed, ?_, ?_, ?_, ?_, ?_, ?_⟩
  · intro mem old found
    by_cases same : mem = device.nextMem
    · subst same
      rw [newMem, some.injEq] at found
      subst found
      refine ⟨?_, List.mem_cons_self⟩
      rw [once, List.count_cons_self, List.count_eq_zero.mpr absent]
      rfl
    · rw [oldMem same] at found
      obtain ⟨count, member⟩ := counted.counted mem old found
      rw [List.count_cons_of_ne (Ne.symm same)]
      exact ⟨count, List.mem_cons_of_mem _ member⟩
  · intro mem member
    rcases List.mem_cons.mp member with rfl | old
    · rw [newMem]
      exact Option.some_ne_none _
    · rw [oldMem (fun same => absent (same ▸ old))]
      exact counted.alive mem old
  · intro mem old found
    change old.secureId ≠ 0 ∧ map.live old.secureId.toNat = some mem
    rw [new.live]
    by_cases same : mem = device.nextMem
    · subst same
      rw [newMem, some.injEq] at found
      subst found
      exact ⟨new.unreserved, update_self _ _ _⟩
    · rw [oldMem same] at found
      obtain ⟨unreserved, named⟩ := counted.named mem old found
      refine ⟨unreserved, (update_of_ne ?_ _ _).trans named⟩
      intro sameId
      rw [sameId, new.dead] at named
      cases named
  · intro secureId mem named
    change map.live secureId = some mem at named
    rw [new.live] at named
    by_cases same : secureId = object.secureId.toNat
    · subst same
      rw [update_self, some.injEq] at named
      subst named
      exact ⟨object, newMem, rfl⟩
    · rw [update_of_ne same] at named
      obtain ⟨old, found, id⟩ := counted.known secureId mem named
      exact ⟨old, (oldMem (aliveIsOld found)).trans found, id⟩
  · intro mem later
    change device.nextMem + 1 ≤ mem at later
    rw [oldMem (by omega)]
    exact counted.fresh mem (by omega)
  · intro mem
    change device.released.count mem =
      if mem < device.nextMem + 1 ∧ (device.addMem map object).mems mem = none then 1 else 0
    rw [counted.released mem]
    by_cases same : mem = device.nextMem
    · subst same
      simp [newMem]
    · have order : mem < device.nextMem ↔ mem < device.nextMem + 1 := by omega
      simp only [oldMem same, order]

end Device.Counted

end Floid.Ump
