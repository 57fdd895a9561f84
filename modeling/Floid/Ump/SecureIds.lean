import Floid.Descriptors.Run
import Mathlib.Algebra.Order.Ring.Int
import Mathlib.Data.Int.Interval
import Mathlib.Data.Set.Card

namespace Floid.Ump

open Floid.Osk Floid.Descriptors PartialMap

def umpDescriptorMappingCreate (initEntries maxEntries : Int) (mapAllocated : Bool)
    (heap : Option Words) (lockAllocated : Bool) : Option Descriptors.DescriptorMapping :=
  create initEntries maxEntries mapAllocated heap lockAllocated

def umpDescriptorMappingAllocateMapping (map : Descriptors.DescriptorMapping) (target : Target)
    (heap : Option Words) : Option Int × Descriptors.DescriptorMapping :=
  let descriptor := map.firstFree
  if descriptor = map.currentNrMappings then
    let nrMappingsNew := map.currentNrMappings * 2
    if map.maxNrMappingsAllowed ≤ map.currentNrMappings then (none, map)
    else
      match descriptorTableAlloc nrMappingsNew heap with
      | none => (none, map)
      | some newTable =>
          -- the copies are sized by the old count, which is raised after them
          let copied := copyTable newTable map.table map.currentNrMappings
          (some descriptor,
            { map with currentNrMappings := nrMappingsNew, table := copied.occupy descriptor target })
  else (some descriptor, { map with table := map.table.occupy descriptor target })

def umpDescriptorMappingGet (map : Descriptors.DescriptorMapping) (descriptor : Int) : Errcode × Target :=
  Descriptors.get map descriptor

def umpDescriptorMappingSet (map : Descriptors.DescriptorMapping) (descriptor : Int) (target : Target) :
    Errcode × Descriptors.DescriptorMapping :=
  Descriptors.set map descriptor target

def umpDescriptorMappingFree (map : Descriptors.DescriptorMapping) (descriptor : Int) :
    Descriptors.DescriptorMapping :=
  Descriptors.free map descriptor

def umpPerform (map : Descriptors.DescriptorMapping) : Call → Result × Descriptors.DescriptorMapping
  | .allocateMapping target heap =>
      let (descriptor, after) := umpDescriptorMappingAllocateMapping map target heap
      (.allocated descriptor, after)
  | .get descriptor =>
      let (error, target) := umpDescriptorMappingGet map descriptor
      (.got error target, map)
  | .set descriptor target =>
      let (error, after) := umpDescriptorMappingSet map descriptor target
      (.stored error, after)
  | .free descriptor => (.freed, umpDescriptorMappingFree map descriptor)

def liveAfter (live : PartialMap) : Call → Result → PartialMap
  | .allocateMapping target _, .allocated (some descriptor) => live.update descriptor (some target)
  | .set descriptor target, .stored .ok => live.update descriptor (some target)
  | .free descriptor, .freed => live.update descriptor none
  | _, _ => live

def liveIds (live : PartialMap) : Set Int := fun descriptor => live descriptor ≠ none

/-- What a call promises: the result a partial map allows, no change by a failed
allocation or through an id that is not live, and at most `maxEntries` ids live. -/
structure CallSound (maxEntries : Int) (map : Descriptors.DescriptorMapping) (live : PartialMap)
    (call : Call) : Prop where
  refines : PartialMap.Step live call (umpPerform map call).1
    (liveAfter live call (umpPerform map call).1)
  unchanged : (umpPerform map call).1 = .allocated none → (umpPerform map call).2 = map
  refused : ∀ descriptor, live descriptor = none →
    (call = .free descriptor ∨ ∃ target, call = .set descriptor target) → (umpPerform map call).2 = map
  bounded : ((liveIds (liveAfter live call (umpPerform map call).1)).ncard : Int) ≤ maxEntries

def CallsSound (maxEntries : Int) (map : Descriptors.DescriptorMapping) (live : PartialMap) : List Call → Prop
  | [] => True
  | call :: rest =>
      CallSound maxEntries map live call ∧
        CallsSound maxEntries (umpPerform map call).2 (liveAfter live call (umpPerform map call).1)
          rest

/-- The call does not name the reserved id, and an allocation made when `maxEntries` ids
are live finds the table full, with no larger one allowed or no memory for it. -/
def CallMeets (maxEntries : Int) (map : Descriptors.DescriptorMapping) (live : PartialMap) : Call → Prop
  | .allocateMapping _ heap =>
      maxEntries ≤ (liveIds live).ncard →
        map.firstFree = map.currentNrMappings ∧ (map.maxNrMappingsAllowed ≤ map.currentNrMappings ∨ heap = none)
  | .get descriptor => descriptor ≠ 0
  | .set descriptor _ => descriptor ≠ 0
  | .free descriptor => descriptor ≠ 0

def CallsMeet (maxEntries : Int) (map : Descriptors.DescriptorMapping) (live : PartialMap) : List Call → Prop
  | [] => True
  | call :: rest =>
      CallMeets maxEntries map live call ∧
        CallsMeet maxEntries (umpPerform map call).2 (liveAfter live call (umpPerform map call).1)
          rest

structure Stands (maxEntries : Int) (map : Descriptors.DescriptorMapping) (live : PartialMap) : Prop where
  represents : Represents map live
  doubled : TableFits (2 * map.maxNrMappingsAllowed)
  bounded : ((liveIds live).ncard : Int) ≤ maxEntries

theorem liveIds_insert (live : PartialMap) (descriptor : Int) (target : Target) :
    liveIds (live.update descriptor (some target)) = insert descriptor (liveIds live) := by
  ext other
  by_cases same : other = descriptor
  · subst same
    refine iff_of_true ?_ (Set.mem_insert _ _)
    change live.update other (some target) other ≠ none
    simp
  · change live.update descriptor (some target) other ≠ none ↔ _
    rw [update_other _ _ same, Set.mem_insert_iff]
    exact ⟨.inr, fun member => member.resolve_left same⟩

theorem liveIds_erase_subset (live : PartialMap) (descriptor : Int) :
    liveIds (live.update descriptor none) ⊆ liveIds live := by
  intro other present
  by_cases same : other = descriptor
  · subst same
    exact absurd (update_same _ _ _) present
  · change live.update descriptor none other ≠ none at present
    rwa [update_other _ _ same] at present

section Represents

variable {map : Descriptors.DescriptorMapping} {live : PartialMap} (represents : Represents map live)
include represents

theorem liveIds_finite : (liveIds live).Finite := by
  apply (Set.finite_Ioo (0 : Int) (32 * map.table.mappings : Nat)).subset
  intro descriptor present
  obtain ⟨number, rfl, positive, inside⟩ := represents.inside descriptor present
  exact ⟨by omega, by omega⟩

theorem zero_absent : live 0 = none := by
  by_contra present
  obtain ⟨number, zero, positive, _⟩ := represents.inside 0 present
  omega

theorem double {newTable : DescriptorTable} {before : Words} (fits : TableFits (map.currentNrMappings * 2))
    (allocated : descriptorTableAlloc (map.currentNrMappings * 2) (some before) = some newTable) :
    Represents
      { map with
        currentNrMappings := map.currentNrMappings * 2
        table := copyTable newTable map.table map.currentNrMappings } live ∧
      (copyTable newTable map.table map.currentNrMappings).mappings = 2 * map.table.mappings := by
  have nonempty := represents.nonempty
  have oldFits := represents.fits
  have current := represents.capacity
  have capacity : map.currentNrMappings * 2 = (32 * (2 * map.table.mappings) : Nat) := by omega
  rw [capacity] at fits allocated
  obtain ⟨table, alloc, mappings, zero⟩ := descriptorTableAlloc_some fits before
  obtain rfl : table = newTable := Option.some.inj (alloc.symm.trans allocated)
  rw [capacity]
  rw [current] at oldFits ⊢
  generalize copiedIs : copyTable table map.table (32 * map.table.mappings : Nat) = copied
  have mappingsIs : copied.mappings = 2 * map.table.mappings := by rw [← copiedIs]; exact mappings
  have memoryIs (index : Nat) : copied.memory index =
      if 2 * map.table.mappings ≤ index ∧ index < 34 * map.table.mappings then
        map.table.memory (map.table.mappings + (index - 2 * map.table.mappings))
      else if index < map.table.mappings then map.table.memory index
      else table.memory index := by
    rw [← copiedIs]
    simp only [copyTable, usageBytes_eq oldFits, mappingsBytes_eq oldFits, mappings]
    rw [Nat.mul_div_cancel_left _ (by decide), Nat.mul_div_cancel_left _ (by decide),
      show 2 * map.table.mappings + 32 * map.table.mappings = 34 * map.table.mappings by omega]
  have oldBit (nr : Nat) (below : nr < 32 * map.table.mappings) :
      copied.memory.bit nr = map.table.memory.bit nr := by
    rw [Words.bit, memoryIs, if_neg (by omega), if_pos (by omega)]
    rfl
  have oldMapping (offset : Nat) (below : offset < 32 * map.table.mappings) :
      copied.memory (copied.mappings + offset) = map.table.memory (map.table.mappings + offset) := by
    rw [memoryIs, mappingsIs, if_pos (by omega)]
    congr 1
    omega
  refine ⟨?_, mappingsIs⟩
  rw [← mappingsIs] at fits ⊢
  refine represents.retable (by omega) fits oldBit ?_ oldMapping
  intro nr below new
  rw [Words.bit, memoryIs, if_neg (by omega), if_neg (by omega), zero _ (by omega)]
  simp

end Represents

variable {map : Descriptors.DescriptorMapping}

theorem umpAllocate_cases {live : PartialMap}
    (represents : Represents map live) (doubled : TableFits (2 * map.maxNrMappingsAllowed))
    (target : Target) (heap : Option Words) :
    ((map.firstFree = map.currentNrMappings ∧ (map.maxNrMappingsAllowed ≤ map.currentNrMappings ∨ heap = none)) ∧
      umpDescriptorMappingAllocateMapping map target heap = (none, map)) ∨
    (¬(map.firstFree = map.currentNrMappings ∧ (map.maxNrMappingsAllowed ≤ map.currentNrMappings ∨ heap = none)) ∧
      ∃ (number : Nat) (after : Descriptors.DescriptorMapping),
        umpDescriptorMappingAllocateMapping map target heap = (some (number : Int), after) ∧
          0 < number ∧ live number = none ∧
          after.maxNrMappingsAllowed = map.maxNrMappingsAllowed ∧
          Represents after (live.update number (some target))) := by
  have capacity := represents.capacity
  obtain ⟨number, found, fresh, positive, inside⟩ := represents.firstFree_eq
  unfold umpDescriptorMappingAllocateMapping
  simp only [found]
  by_cases full : (number : Int) = map.currentNrMappings
  · rw [if_pos full]
    by_cases exhausted : map.maxNrMappingsAllowed ≤ map.currentNrMappings
    · rw [if_pos exhausted]
      exact .inl ⟨⟨full, .inl exhausted⟩, rfl⟩
    · rw [if_neg exhausted]
      cases heap with
      | none => exact .inl ⟨⟨full, .inr rfl⟩, rfl⟩
      | some before =>
        right
        refine ⟨by simp [exhausted], ?_⟩
        have fits : TableFits (map.currentNrMappings * 2) := by
          unfold TableFits at doubled ⊢
          omega
        cases alloc : descriptorTableAlloc (map.currentNrMappings * 2) (some before) with
        | none => simp [descriptorTableAlloc] at alloc
        | some newTable =>
          obtain ⟨grown, mappings⟩ := double represents fits alloc
          exact ⟨number, _, rfl, positive, fresh, rfl, grown.occupy positive (by simp only [mappings]; omega) target⟩
  · rw [if_neg full]
    right
    exact ⟨fun refused => full refused.1, number, _, rfl, positive, fresh, rfl,
      represents.occupy positive (by omega) target⟩

section Calls

variable {maxEntries : Int} {map : Descriptors.DescriptorMapping} {live : PartialMap}
  (stands : Stands maxEntries map live)
include stands

theorem allocate_sound_iff (target : Target) (heap : Option Words) :
    CallSound maxEntries map live (.allocateMapping target heap) ↔
      CallMeets maxEntries map live (.allocateMapping target heap) := by
  rcases umpAllocate_cases stands.represents stands.doubled target heap with
    ⟨refused, answer⟩ | ⟨accepted, number, after, answer, positive, fresh, _, _⟩
  · have performed : umpPerform map (.allocateMapping target heap) = (.allocated none, map) := by
      simp only [umpPerform, answer]
    refine iff_of_true ?_ fun _ => refused
    exact
      { refines := by rw [performed]; exact .full
        unchanged := fun _ => by rw [performed]
        refused := fun _ _ _ => by rw [performed]
        bounded := by rw [performed]; exact stands.bounded }
  · have performed : umpPerform map (.allocateMapping target heap) =
        (.allocated (some (number : Int)), after) := by
      simp only [umpPerform, answer]
    have counted : (liveIds (live.update number (some target))).ncard = (liveIds live).ncard + 1 := by
      have absent : (number : Int) ∉ liveIds live := fun present => present fresh
      rw [liveIds_insert, Set.ncard_insert_of_notMem absent (liveIds_finite stands.represents)]
    constructor
    · intro sound many
      have bounded := sound.bounded
      rw [performed] at bounded
      simp only [liveAfter, counted] at bounded
      omega
    · intro meets
      have room : ((liveIds live).ncard : Int) < maxEntries :=
        Int.not_le.mp fun many => accepted (meets many)
      exact
        { refines := by rw [performed]; exact .allocated fresh (by omega)
          unchanged := fun none_ => by rw [performed] at none_; cases none_
          refused := fun _ _ named => by rcases named with named | ⟨_, named⟩ <;> cases named
          bounded := by
            rw [performed]
            simp only [liveAfter, counted]
            omega }

theorem get_sound_iff (descriptor : Int) :
    CallSound maxEntries map live (.get descriptor) ↔ descriptor ≠ 0 := by
  constructor
  · rintro sound rfl
    have refines := sound.refines
    simp only [umpPerform, umpDescriptorMappingGet, Descriptors.get] at refines
    rw [if_pos stands.represents.accepts_zero] at refines
    cases refines with
    | got stored => simp [zero_absent stands.represents] at stored
  · intro unreserved
    have answer := stands.represents.get_eq unreserved
    exact
      { refines := by
          simp only [umpPerform, umpDescriptorMappingGet, answer]
          cases found : live descriptor with
          | none => exact .missed found
          | some target => exact .got found
        unchanged := fun _ => rfl
        refused := fun _ _ named => by rcases named with named | ⟨_, named⟩ <;> cases named
        bounded := stands.bounded }

variable {descriptor : Int}

theorem set_cases (unreserved : descriptor ≠ 0) (target : Target) :
    (live descriptor = none ∧ umpDescriptorMappingSet map descriptor target = (.fault, map)) ∨
      ∃ old after, live descriptor = some old ∧ umpDescriptorMappingSet map descriptor target = (.ok, after) ∧
        after.maxNrMappingsAllowed = map.maxNrMappingsAllowed ∧
        Represents after (live.update descriptor (some target)) := by
  unfold umpDescriptorMappingSet Descriptors.set
  cases found : live descriptor with
  | none =>
    rw [if_neg (by rw [stands.represents.accepts_iff unreserved]; simp [found])]
    exact .inl ⟨rfl, rfl⟩
  | some old =>
    have present : live descriptor ≠ none := by simp [found]
    rw [if_pos ((stands.represents.accepts_iff unreserved).mpr present)]
    obtain ⟨number, rfl, positive, inside⟩ := stands.represents.inside descriptor present
    exact .inr ⟨old, _, rfl, rfl, rfl, stands.represents.store positive inside present target⟩

theorem set_sound_iff (descriptor : Int) (target : Target) :
    CallSound maxEntries map live (.set descriptor target) ↔ descriptor ≠ 0 := by
  constructor
  · rintro sound rfl
    have refines := sound.refines
    simp only [umpPerform, umpDescriptorMappingSet, Descriptors.set] at refines
    rw [if_pos stands.represents.accepts_zero] at refines
    cases refines with
    | stored present => simp [zero_absent stands.represents] at present
  · intro unreserved
    rcases set_cases stands unreserved target with ⟨absent, answer⟩ | ⟨old, after, present, answer, _, _⟩
    · have performed : umpPerform map (.set descriptor target) = (.stored .fault, map) := by
        simp only [umpPerform, answer]
      exact
        { refines := by rw [performed]; exact .refused absent
          unchanged := fun _ => by rw [performed]
          refused := fun _ _ _ => by rw [performed]
          bounded := by rw [performed]; exact stands.bounded }
    · have performed : umpPerform map (.set descriptor target) = (.stored .ok, after) := by
        simp only [umpPerform, answer]
      have same : liveIds (live.update descriptor (some target)) = liveIds live := by
        rw [liveIds_insert, Set.insert_eq_of_mem]
        change live descriptor ≠ none
        simp [present]
      exact
        { refines := by rw [performed]; exact .stored present
          unchanged := fun none_ => by rw [performed] at none_; cases none_
          refused := fun other absent named => by
            rcases named with named | ⟨_, named⟩ <;> cases named
            rw [present] at absent
            cases absent
          bounded := by
            rw [performed]
            simp only [liveAfter, same]
            exact stands.bounded }

theorem free_absent (unreserved : descriptor ≠ 0) (absent : live descriptor = none) :
    umpDescriptorMappingFree map descriptor = map := by
  unfold umpDescriptorMappingFree Descriptors.free
  rw [if_neg (by rw [stands.represents.accepts_iff unreserved]; simp [absent])]

theorem free_represents (unreserved : descriptor ≠ 0) :
    Represents (umpDescriptorMappingFree map descriptor) (live.update descriptor none) := by
  cases found : live descriptor with
  | none =>
    rw [free_absent stands unreserved found]
    have unchanged : live.update descriptor none = live := by
      funext other
      by_cases same : other = descriptor
      · rw [same, update_same, found]
      · exact update_other _ _ same
    rw [unchanged]
    exact stands.represents
  | some old =>
    have present : live descriptor ≠ none := by simp [found]
    unfold umpDescriptorMappingFree Descriptors.free
    rw [if_pos ((stands.represents.accepts_iff unreserved).mpr present)]
    obtain ⟨number, rfl, positive, inside⟩ := stands.represents.inside descriptor present
    exact stands.represents.clear positive inside

theorem erase_bounded (descriptor : Int) :
    ((liveIds (live.update descriptor none)).ncard : Int) ≤ maxEntries := by
  have fewer := Set.ncard_le_ncard (liveIds_erase_subset live descriptor)
    (liveIds_finite stands.represents)
  have bounded := stands.bounded
  omega

theorem free_sound_iff (descriptor : Int) :
    CallSound maxEntries map live (.free descriptor) ↔ descriptor ≠ 0 := by
  constructor
  · rintro sound rfl
    -- the reserved bit is cleared, which is a change
    have unchanged := sound.refused 0 (zero_absent stands.represents) (.inl rfl)
    have cleared : (umpDescriptorMappingFree map 0).table.memory.bit 0 = false := by
      unfold umpDescriptorMappingFree Descriptors.free
      rw [if_pos stands.represents.accepts_zero]
      change (clearNonatomicBit 0 _).bit 0 = false
      rw [bit_clearNonatomicBit]
      simp
    rw [show umpDescriptorMappingFree map 0 = map from unchanged, stands.represents.reserved] at cleared
    cases cleared
  · intro unreserved
    exact
      { refines := .freed
        unchanged := fun none_ => by cases none_
        refused := fun other absent named => by
          rcases named with named | ⟨_, named⟩ <;> cases named
          exact free_absent stands unreserved absent
        bounded := erase_bounded stands descriptor }

theorem callSound_iff (call : Call) :
    CallSound maxEntries map live call ↔ CallMeets maxEntries map live call := by
  cases call with
  | allocateMapping target heap => exact allocate_sound_iff stands target heap
  | get descriptor => exact get_sound_iff stands descriptor
  | set descriptor target => exact set_sound_iff stands descriptor target
  | free descriptor => exact free_sound_iff stands descriptor

theorem stands_next {call : Call} (meets : CallMeets maxEntries map live call) :
    Stands maxEntries (umpPerform map call).2 (liveAfter live call (umpPerform map call).1) := by
  have bounded := ((callSound_iff stands call).mpr meets).bounded
  cases call with
  | allocateMapping target heap =>
    rcases umpAllocate_cases stands.represents stands.doubled target heap with
      ⟨_, answer⟩ | ⟨_, number, after, answer, _, _, limit, represents⟩
    · simp only [umpPerform, answer]
      exact stands
    · simp only [umpPerform, answer, liveAfter] at bounded ⊢
      exact ⟨represents, limit ▸ stands.doubled, bounded⟩
  | get descriptor => exact stands
  | set descriptor target =>
    rcases set_cases stands meets target with ⟨_, answer⟩ | ⟨old, after, _, answer, limit, represents⟩
    · simp only [umpPerform, answer]
      exact stands
    · simp only [umpPerform, answer, liveAfter] at bounded ⊢
      exact ⟨represents, limit ▸ stands.doubled, bounded⟩
  | free descriptor =>
    have limit : (umpDescriptorMappingFree map descriptor).maxNrMappingsAllowed = map.maxNrMappingsAllowed := by
      unfold umpDescriptorMappingFree Descriptors.free
      split <;> rfl
    exact ⟨free_represents stands meets, limit ▸ stands.doubled, bounded⟩

end Calls

theorem callsSound_iff {maxEntries : Int} {live : PartialMap}
    (stands : Stands maxEntries map live) (calls : List Call) :
    CallsSound maxEntries map live calls ↔ CallsMeet maxEntries map live calls := by
  induction calls generalizing map live with
  | nil => exact Iff.rfl
  | cons call rest ih =>
    constructor
    · rintro ⟨sound, continued⟩
      have meets := (callSound_iff stands call).mp sound
      exact ⟨meets, (ih (stands_next stands meets)).mp continued⟩
    · rintro ⟨meets, continued⟩
      exact ⟨(callSound_iff stands call).mpr meets, (ih (stands_next stands meets)).mpr continued⟩

theorem create_stands {initEntries maxEntries : Int} {mapAllocated lockAllocated : Bool}
    {heap : Option Words}
    (created : umpDescriptorMappingCreate initEntries maxEntries mapAllocated heap lockAllocated = some map)
    (positive : 0 < padInt initEntries) (initFits : TableFits (padInt initEntries))
    (doubled : TableFits (2 * padInt maxEntries)) (some_ : 0 ≤ maxEntries) :
    Stands maxEntries map empty := by
  have maxFits : TableFits (padInt maxEntries) := by
    unfold TableFits at doubled ⊢
    omega
  have limit : map.maxNrMappingsAllowed = padInt maxEntries := by
    unfold umpDescriptorMappingCreate create at created
    split at created
    · split at created
      · split at created
        · rw [← Option.some.inj created]
        · cases created
      · cases created
    · cases created
  exact
    { represents := create_represents created positive initFits maxFits
      doubled := limit ▸ doubled
      bounded := by
        rw [show liveIds empty = ∅ from Set.eq_empty_of_forall_notMem fun _ present => present rfl, Set.ncard_empty]
        exact some_ }

/-- The secure IDs behave as a partial map with at most `maxEntries` ids exactly in the
runs that never name the reserved id 0 and in which no allocation finds `maxEntries` ids
live and yet a free descriptor or room to double. -/
theorem secureIds_refine_iff {initEntries maxEntries : Int} {mapAllocated lockAllocated : Bool}
    {heap : Option Words} {map : Descriptors.DescriptorMapping}
    (created : umpDescriptorMappingCreate initEntries maxEntries mapAllocated heap lockAllocated = some map)
    (positive : 0 < padInt initEntries) (initFits : TableFits (padInt initEntries))
    (doubled : TableFits (2 * padInt maxEntries)) (some_ : 0 ≤ maxEntries) (calls : List Call) :
    CallsSound maxEntries map PartialMap.empty calls ↔ CallsMeet maxEntries map PartialMap.empty calls :=
  callsSound_iff (create_stands created positive initFits doubled some_) calls

theorem secureIds_refine_iff_driver :
    ∃ map, umpDescriptorMappingCreate 128 4096 true (some fun _ => 0) true = some map ∧
      (CallsSound 4096 map PartialMap.empty [.allocateMapping 7 none, .get 1, .free 1, .get 1] ↔
        CallsMeet 4096 map PartialMap.empty [.allocateMapping 7 none, .get 1, .free 1, .get 1]) := by
  have created : umpDescriptorMappingCreate 128 4096 true (some fun _ => 0) true = some _ := rfl
  exact ⟨_, created, secureIds_refine_iff created (by decide) (by decide) (by decide) (by decide) _⟩

/-- Descriptor 0 is found right after creation, although nobody allocated it. -/
theorem reservedId_found : ∃ map, umpDescriptorMappingCreate 128 4096 true (some fun _ => 0) true = some map ∧
      ¬CallsSound 4096 map PartialMap.empty [.get 0] := by
  have created : umpDescriptorMappingCreate 128 4096 true (some fun _ => 0) true = some _ := rfl
  refine ⟨_, created, fun sound => ?_⟩
  have stands := create_stands created (by decide) (by decide) (by decide) (by decide)
  exact (get_sound_iff stands 0).mp sound.1 rfl

end Floid.Ump
