import Floid.Osk.Types
import Mathlib.Logic.Function.Basic
import Mathlib.Data.List.Basic

namespace Floid.Ump

open Osk
open Function (update update_of_ne update_self)

/-- `ump_descriptor_mapping`, with the usage bits and the pointers of its table. NULL is
`none`. -/
structure DescriptorMapping (Target : Type*) where
  maxNrMappingsAllowed : Nat
  currentNrMappings : Nat
  usage : Nat → Bool
  mappings : Nat → Option Target

namespace DescriptorMapping

variable {Target : Type*}

def padInt (count : Nat) : Nat := (count + 31) / 32 * 32

/-- `ump_descriptor_mapping_create`, when there is memory for all of it. Bit 0 is
reserved. -/
def create (initEntries maxEntries : Nat) : DescriptorMapping Target where
  maxNrMappingsAllowed := padInt maxEntries
  currentNrMappings := padInt initEntries
  usage descriptor := descriptor == 0
  mappings _ := none

variable (map : DescriptorMapping Target)

def firstZero : Nat :=
  ((List.range map.currentNrMappings).find? fun descriptor => !map.usage descriptor).getD
    map.currentNrMappings

def occupy (descriptor : Nat) (target : Target) : DescriptorMapping Target :=
  { map with
    usage := update map.usage descriptor true
    mappings := update map.mappings descriptor (some target) }

def grow : DescriptorMapping Target :=
  { map with
    currentNrMappings := map.currentNrMappings * 2
    usage := fun descriptor => decide (descriptor < map.currentNrMappings) && map.usage descriptor
    mappings := fun descriptor =>
      if descriptor < map.currentNrMappings then map.mappings descriptor else none }

/-- `ump_descriptor_mapping_allocate_mapping`, given that there is memory for another
table or not. A negative descriptor is `none`. -/
def allocateMapping (target : Target) (tableAllocated : Bool) : Option Nat × DescriptorMapping Target :=
  let descriptor := map.firstZero
  if descriptor = map.currentNrMappings then
    if map.maxNrMappingsAllowed ≤ map.currentNrMappings then (none, map)
    else if tableAllocated then (some descriptor, map.grow.occupy descriptor target)
    else (none, map)
  else (some descriptor, map.occupy descriptor target)

def Accepts (descriptor : U32) : Prop :=
  0 ≤ descriptor.toInt ∧ descriptor.toInt < map.currentNrMappings ∧ map.usage descriptor.toNat = true

instance (descriptor : U32) : Decidable (map.Accepts descriptor) :=
  inferInstanceAs (Decidable (_ ∧ _ ∧ _))

/-- `ump_descriptor_mapping_get`: the target when the result is 0. -/
def get (descriptor : U32) : Option (Option Target) :=
  if map.Accepts descriptor then some (map.mappings descriptor.toNat) else none

/-- `ump_descriptor_mapping_free`. -/
def free (descriptor : U32) : DescriptorMapping Target :=
  if map.Accepts descriptor then
    { map with
      usage := update map.usage descriptor.toNat false
      mappings := update map.mappings descriptor.toNat none }
  else map

def live (descriptor : Nat) : Option Target :=
  if descriptor ≠ 0 ∧ map.usage descriptor = true then map.mappings descriptor else none

structure WellFormed (map : DescriptorMapping Target) : Prop where
  reserved : map.usage 0 = true
  reservedNull : map.mappings 0 = none
  inside : ∀ descriptor, map.usage descriptor = true → descriptor < map.currentNrMappings
  filled : ∀ descriptor, descriptor ≠ 0 → map.usage descriptor = true → map.mappings descriptor ≠ none
  maximum : map.maxNrMappingsAllowed ≤ 2 ^ 29
  current : map.currentNrMappings ≤ 2 ^ 30

variable {map}

theorem create_wellFormed {initEntries maxEntries : Nat} (some : 0 < initEntries)
    (initially : initEntries ≤ 2 ^ 29) (finally_ : maxEntries ≤ 2 ^ 29) :
    (create initEntries maxEntries : DescriptorMapping Target).WellFormed where
  reserved := rfl
  reservedNull := rfl
  inside descriptor used := by
    have zero : descriptor = 0 := beq_iff_eq.mp used
    change descriptor < padInt initEntries
    unfold padInt
    omega
  filled descriptor unreserved used := absurd (beq_iff_eq.mp used) unreserved
  maximum := by
    change padInt maxEntries ≤ _
    unfold padInt
    omega
  current := by
    change padInt initEntries ≤ _
    unfold padInt
    omega

theorem create_live (initEntries maxEntries descriptor : Nat) :
    (create initEntries maxEntries : DescriptorMapping Target).live descriptor = none := by
  unfold live create
  split <;> rfl

theorem firstZero_free (notFull : map.firstZero ≠ map.currentNrMappings) :
    map.firstZero < map.currentNrMappings ∧ map.usage map.firstZero = false := by
  unfold firstZero at notFull ⊢
  cases found : (List.range map.currentNrMappings).find? fun descriptor => !map.usage descriptor with
  | none =>
    rw [found] at notFull
    exact absurd rfl notFull
  | some descriptor =>
    have unused := List.find?_some found
    have member := List.mem_of_find?_eq_some found
    exact ⟨List.mem_range.mp member, by simpa using unused⟩

variable {descriptor : Nat}

theorem occupy_live (unreserved : descriptor ≠ 0) (target : Target) :
    (map.occupy descriptor target).live = update map.live descriptor (some target) := by
  funext other
  by_cases same : other = descriptor
  · subst same
    simp [live, occupy, unreserved]
  · simp [live, occupy, same]

theorem WellFormed.occupy (wellFormed : map.WellFormed)
    (unreserved : descriptor ≠ 0) (within : descriptor < map.currentNrMappings) (target : Target) :
    (map.occupy descriptor target).WellFormed where
  __ := wellFormed
  reserved := (update_of_ne (Ne.symm unreserved) _ _).trans wellFormed.reserved
  reservedNull := (update_of_ne (Ne.symm unreserved) _ _).trans wellFormed.reservedNull
  inside other used := by
    by_cases same : other = descriptor
    · rw [same]
      exact within
    · exact wellFormed.inside other ((update_of_ne same _ _).symm.trans used)
  filled other notZero used := by
    by_cases same : other = descriptor
    · dsimp only [DescriptorMapping.occupy]
      rw [same, update_self]
      exact Option.some_ne_none target
    · have before := wellFormed.filled other notZero ((update_of_ne same _ _).symm.trans used)
      dsimp only [DescriptorMapping.occupy]
      rwa [update_of_ne same]

theorem WellFormed.grow_live (wellFormed : map.WellFormed) : map.grow.live = map.live := by
  funext descriptor
  by_cases used : map.usage descriptor = true
  · have within := wellFormed.inside descriptor used
    simp [live, grow, used, within]
  · simp [live, grow, used]

theorem WellFormed.grow (wellFormed : map.WellFormed)
    (room : map.currentNrMappings < map.maxNrMappingsAllowed) : map.grow.WellFormed where
  reserved := by
    have within := wellFormed.inside 0 wellFormed.reserved
    simp [DescriptorMapping.grow, within, wellFormed.reserved]
  reservedNull := by
    have within := wellFormed.inside 0 wellFormed.reserved
    simp [DescriptorMapping.grow, within, wellFormed.reservedNull]
  inside descriptor used := by
    rw [DescriptorMapping.grow, Bool.and_eq_true, decide_eq_true_iff] at used
    have below := used.1
    change descriptor < map.currentNrMappings * 2
    omega
  filled descriptor notZero used := by
    rw [DescriptorMapping.grow, Bool.and_eq_true, decide_eq_true_iff] at used
    have before := wellFormed.filled descriptor notZero used.2
    dsimp only [DescriptorMapping.grow]
    rwa [if_pos used.1]
  maximum := wellFormed.maximum
  current := by
    have maximum := wellFormed.maximum
    change map.currentNrMappings * 2 ≤ _
    omega

theorem WellFormed.allocateMapping (wellFormed : map.WellFormed) (target : Target) (tableAllocated : Bool) :
    (map.allocateMapping target tableAllocated = (none, map)) ∨
      ∃ descriptor after, map.allocateMapping target tableAllocated = (some descriptor, after) ∧
        descriptor ≠ 0 ∧ descriptor < 2 ^ 30 ∧ map.live descriptor = none ∧ after.WellFormed ∧
        after.live = update map.live descriptor (some target) := by
  have unused {descriptor : Nat} (free : map.usage descriptor = false) :
      descriptor ≠ 0 ∧ map.live descriptor = none := by
    refine ⟨?_, by simp [live, free]⟩
    rintro rfl
    rw [wellFormed.reserved] at free
    cases free
  unfold DescriptorMapping.allocateMapping
  dsimp only
  split
  · rename_i full
    split
    · exact .inl rfl
    · rename_i room
      split
      · refine .inr ⟨_, _, rfl, ?_⟩
        have outside : map.usage map.firstZero = false := by
          by_contra used
          have within := wellFormed.inside _ (Bool.not_eq_false _ ▸ used)
          omega
        obtain ⟨notZero, dead⟩ := unused outside
        have maximum := wellFormed.maximum
        have within : map.firstZero < map.grow.currentNrMappings := by
          change _ < map.currentNrMappings * 2
          omega
        refine ⟨notZero, by omega, dead, (wellFormed.grow (by omega)).occupy notZero within target, ?_⟩
        rw [occupy_live notZero, wellFormed.grow_live]
      · exact .inl rfl
  · rename_i notFull
    obtain ⟨within, free⟩ := firstZero_free notFull
    obtain ⟨notZero, dead⟩ := unused free
    have current := wellFormed.current
    exact .inr ⟨_, _, rfl, notZero, by omega, dead, wellFormed.occupy notZero within target,
      occupy_live notZero target⟩

theorem WellFormed.accepts_iff (wellFormed : map.WellFormed) (descriptor : U32) :
    map.Accepts descriptor ↔ map.usage descriptor.toNat = true := by
  refine ⟨fun accepts => accepts.2.2, fun used => ?_⟩
  have within := wellFormed.inside _ used
  have current := wellFormed.current
  have same : descriptor.toInt = descriptor.toNat := by
    rw [BitVec.toInt_eq_toNat_cond, if_pos (by omega)]
  exact ⟨by omega, by omega, used⟩

theorem WellFormed.get_zero (wellFormed : map.WellFormed) : map.get 0 = some none := by
  rw [get, if_pos ((wellFormed.accepts_iff 0).mpr wellFormed.reserved)]
  exact congrArg some wellFormed.reservedNull

theorem WellFormed.get_eq (wellFormed : map.WellFormed) {descriptor : U32}
    (unreserved : descriptor ≠ 0) : map.get descriptor = (map.live descriptor.toNat).map some := by
  have notZero : descriptor.toNat ≠ 0 := fun zero => unreserved (BitVec.eq_of_toNat_eq zero)
  unfold get live
  by_cases used : map.usage descriptor.toNat = true
  · rw [if_pos ((wellFormed.accepts_iff _).mpr used), if_pos ⟨notZero, used⟩]
    obtain ⟨target, stored⟩ := Option.ne_none_iff_exists'.mp (wellFormed.filled _ notZero used)
    rw [stored]
    rfl
  · rw [if_neg (fun accepts => used ((wellFormed.accepts_iff _).mp accepts)), if_neg (fun both => used both.2)]
    rfl

theorem WellFormed.free (wellFormed : map.WellFormed) {descriptor : U32} (unreserved : descriptor ≠ 0) :
    (map.free descriptor).WellFormed ∧
      (map.free descriptor).live = update map.live descriptor.toNat none := by
  have notZero : descriptor.toNat ≠ 0 := fun zero => unreserved (BitVec.eq_of_toNat_eq zero)
  unfold DescriptorMapping.free
  split
  · refine ⟨⟨?_, ?_, fun other used => ?_, fun other otherNotZero used => ?_, wellFormed.maximum,
      wellFormed.current⟩, ?_⟩
    · exact (update_of_ne (Ne.symm notZero) _ _).trans wellFormed.reserved
    · exact (update_of_ne (Ne.symm notZero) _ _).trans wellFormed.reservedNull
    · dsimp only at used
      by_cases same : other = descriptor.toNat
      · rw [same, update_self] at used
        cases used
      · rw [update_of_ne same] at used
        exact wellFormed.inside other used
    · dsimp only at used ⊢
      by_cases same : other = descriptor.toNat
      · rw [same, update_self] at used
        cases used
      · rw [update_of_ne same] at used ⊢
        exact wellFormed.filled other otherNotZero used
    · funext other
      by_cases same : other = descriptor.toNat
      · subst same
        simp [live]
      · simp [live, same]
  · rename_i refused
    have unused : map.usage descriptor.toNat = false :=
      Bool.eq_false_iff.mpr fun used => refused ((wellFormed.accepts_iff descriptor).mpr used)
    refine ⟨wellFormed, ?_⟩
    funext other
    by_cases same : other = descriptor.toNat
    · subst same
      simp [live, unused]
    · simp [same]

end DescriptorMapping

end Floid.Ump
