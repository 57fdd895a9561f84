import Floid.Descriptors.Run

namespace Floid.Descriptors

open Osk

def Supplied (map : DescriptorMapping) : Call → Prop
  | .allocateMapping _ heap =>
      map.firstFree = map.currentNrMappings → map.currentNrMappings < map.maxNrMappingsAllowed → heap ≠ none
  | .get _ | .set _ _ | .free _ => True

def SuppliedAll (map : DescriptorMapping) : List Call → Prop
  | [] => True
  | call :: rest => Supplied map call ∧ SuppliedAll (perform map call).2 rest

structure Sized (map : DescriptorMapping) : Prop where
  nonempty : 0 < map.table.mappings
  capacity : map.currentNrMappings = (32 * map.table.mappings : Nat)
  fits : TableFits map.currentNrMappings
  limitPadded : map.maxNrMappingsAllowed % 32 = 0
  limitFits : TableFits map.maxNrMappingsAllowed

def Growable (map : DescriptorMapping) : Prop :=
  (∀ nr < 32 * map.table.mappings, map.table.memory.bit nr = true) →
    ((32 * map.table.mappings : Nat) : Int) < map.maxNrMappingsAllowed →
    ∀ target before, ∃ after,
      allocateMapping map target (some before) = (some ((32 * map.table.mappings : Nat) : Int), after) ∧
      after.table.mappings = map.table.mappings + 1 ∧
      after.currentNrMappings = (32 * (map.table.mappings + 1) : Nat) ∧
      after.maxNrMappingsAllowed = map.maxNrMappingsAllowed

structure FailureHarmless (map after : DescriptorMapping) : Prop where
  capacity : after.currentNrMappings = map.currentNrMappings
  usage : ∀ nr, after.table.memory.bit nr = map.table.memory.bit nr
  mappings : ∀ offset, after.table.memory (after.table.mappings + offset) =
    map.table.memory (map.table.mappings + offset)
  gets : ∀ descriptor, get after descriptor = get map descriptor
  growable : ∀ calls, SuppliedAll after calls → Growable (performAll after calls).2

namespace Sized

variable {map : DescriptorMapping}

variable {table : DescriptorTable}

theorem withTable (sized : Sized map)
    (same : table.mappings = map.table.mappings) : Sized { map with table := table } where
  __ := sized
  nonempty := same ▸ sized.nonempty
  capacity := same ▸ sized.capacity

theorem current_lt (sized : Sized map) : 32 * map.table.mappings < 2 ^ 30 := by
  have fits := sized.fits
  rw [sized.capacity, TableFits] at fits
  omega

theorem grown_words (sized : Sized map) (below : map.currentNrMappings < map.maxNrMappingsAllowed) :
    map.currentNrMappings + bitsPerLong = (32 * (map.table.mappings + 1) : Nat) ∧
      TableFits (32 * (map.table.mappings + 1) : Nat) := by
  have capacity := sized.capacity
  have padded := sized.limitPadded
  have limitFits := sized.limitFits
  unfold TableFits at limitFits ⊢
  unfold bitsPerLong
  omega

theorem grow (sized : Sized map) (below : map.currentNrMappings < map.maxNrMappingsAllowed)
    {before : Words} {newTable : DescriptorTable}
    (allocated : descriptorTableAlloc (map.currentNrMappings + bitsPerLong) (some before) = some newTable)
    (same : table.mappings = newTable.mappings) :
    newTable.mappings = map.table.mappings + 1 ∧
      Sized { map with
        currentNrMappings := map.currentNrMappings + bitsPerLong
        table } := by
  obtain ⟨capacity, fits⟩ := sized.grown_words below
  rw [capacity] at allocated ⊢
  obtain ⟨table_, alloc, mappings, -⟩ := descriptorTableAlloc_some fits before
  obtain rfl : table_ = newTable := Option.some.inj (alloc.symm.trans allocated)
  refine ⟨mappings, ?_⟩
  constructor
  · rw [same, mappings]
    omega
  · rw [same, mappings]
  · exact fits
  · exact sized.limitPadded
  · exact sized.limitFits

theorem perform (sized : Sized map) {call : Call} (supplied : Supplied map call) :
    Sized (perform map call).2 := by
  cases call with
  | allocateMapping target heap =>
    simp only [Descriptors.perform, allocateMapping]
    split
    · rename_i full
      split
      · exact sized
      · rename_i room
        have below : map.currentNrMappings < map.maxNrMappingsAllowed := by omega
        cases heap with
        | none => exact absurd rfl (supplied full below)
        | some before =>
          cases allocated : descriptorTableAlloc (map.currentNrMappings + bitsPerLong)
              (some before) with
          | none => simp [descriptorTableAlloc] at allocated
          | some newTable =>
            dsimp only
            refine (sized.grow below allocated ?_).2
            rfl
    · exact sized.withTable rfl
  | get descriptor => exact sized
  | set descriptor target =>
    simp only [Descriptors.perform, set]
    split
    · exact sized.withTable rfl
    · exact sized
  | free descriptor =>
    simp only [Descriptors.perform, free]
    split
    · exact sized.withTable rfl
    · exact sized

theorem performAll (sized : Sized map) {calls : List Call} (supplied : SuppliedAll map calls) :
    Sized (performAll map calls).2 := by
  induction calls generalizing map with
  | nil => exact sized
  | cons call rest ih => exact ih (sized.perform supplied.1) supplied.2

theorem firstFree_full (sized : Sized map) (used : ∀ nr < 32 * map.table.mappings, map.table.memory.bit nr = true) :
    map.firstFree = map.currentNrMappings := by
  have small := sized.current_lt
  obtain ⟨bounded, _, clear⟩ := findFirstZeroBit_spec map.table.memory (32 * map.table.mappings)
  have full : findFirstZeroBit map.table.memory (32 * map.table.mappings) = 32 * map.table.mappings := by
    by_contra different
    have inside : findFirstZeroBit map.table.memory (32 * map.table.mappings) <
        32 * map.table.mappings := by omega
    have bit := clear inside
    rw [used _ inside] at bit
    cases bit
  rw [DescriptorMapping.firstFree, sized.capacity, toU32_natCast (by omega), full, toInt_natCast (by omega)]

theorem growable (sized : Sized map) : Growable map := by
  intro used room target before
  have full := sized.firstFree_full used
  have capacity := sized.capacity
  have below : map.currentNrMappings < map.maxNrMappingsAllowed := by omega
  cases allocated : descriptorTableAlloc (map.currentNrMappings + bitsPerLong) (some before) with
  | none => simp [descriptorTableAlloc] at allocated
  | some newTable =>
    obtain ⟨mappings, -⟩ := sized.grow below allocated rfl
    have notFull : ¬map.maxNrMappingsAllowed ≤ map.currentNrMappings := by omega
    have result : allocateMapping map target (some before) = (some map.currentNrMappings,
        { map with
          currentNrMappings := map.currentNrMappings + bitsPerLong
          table := (copyTable newTable map.table (map.currentNrMappings + bitsPerLong)).occupy
            map.currentNrMappings target }) := by
      unfold allocateMapping
      simp only [full, if_true, if_neg notFull, allocated]
    have first : (some map.currentNrMappings : Option Int) =
        some ((32 * map.table.mappings : Nat) : Int) := congrArg some capacity
    exact ⟨_, result.trans (Prod.ext first rfl), mappings, (sized.grown_words below).1, rfl⟩

end Sized

variable {heap : Option Words}

theorem create_sized {initEntries maxEntries : Int} {mapAllocated lockAllocated : Bool} {map : DescriptorMapping}
    (created : create initEntries maxEntries mapAllocated heap lockAllocated = some map)
    (positive : 0 < padInt initEntries) (initFits : TableFits (padInt initEntries))
    (maxFits : TableFits (padInt maxEntries)) : Sized map := by
  have represents := create_represents created positive initFits maxFits
  exact { represents with }

theorem allocateMapping_failed {map : DescriptorMapping} {target : Target}
    (failed : (allocateMapping map target heap).1 = none) :
    if map.maxNrMappingsAllowed ≤ map.currentNrMappings then
      (allocateMapping map target heap).2 = map
    else
      (allocateMapping map target heap).2.currentNrMappings = map.currentNrMappings + bitsPerLong := by
  unfold allocateMapping at failed ⊢
  by_cases full : map.firstFree = map.currentNrMappings
  · by_cases exhausted : map.maxNrMappingsAllowed ≤ map.currentNrMappings
    · simp only [if_pos full, if_pos exhausted]
    · simp only [if_pos full, if_neg exhausted] at failed ⊢
      cases heap with
      | none => rfl
      | some before => simp [descriptorTableAlloc] at failed
  · simp only [if_neg full] at failed
    cases failed

/-- After any calls that had the memory they needed, an allocation that fails is harmless
exactly if the table was at its maximum, and so not if it failed for lack of memory. -/
theorem allocateMapping_failure_iff {initEntries maxEntries : Int}
    {mapAllocated lockAllocated : Bool} {heap : Option Words} {map : DescriptorMapping}
    (created : create initEntries maxEntries mapAllocated heap lockAllocated = some map)
    (positive : 0 < padInt initEntries) (initFits : TableFits (padInt initEntries))
    (maxFits : TableFits (padInt maxEntries))
    (calls : List Call) (supplied : SuppliedAll map calls) (target : Target)
    (memory : Option Words)
    (failed : (allocateMapping (performAll map calls).2 target memory).1 = none) :
    FailureHarmless (performAll map calls).2
        (allocateMapping (performAll map calls).2 target memory).2 ↔
      (performAll map calls).2.maxNrMappingsAllowed ≤ (performAll map calls).2.currentNrMappings := by
  have sized := (create_sized created positive initFits maxFits).performAll supplied
  generalize (performAll map calls).2 = map at sized failed
  have outcome := allocateMapping_failed failed
  by_cases exhausted : map.maxNrMappingsAllowed ≤ map.currentNrMappings
  · rw [if_pos exhausted] at outcome
    rw [outcome]
    refine iff_of_true ⟨rfl, fun _ => rfl, fun _ => rfl, fun _ => rfl, ?_⟩ exhausted
    intro later supplied
    exact (sized.performAll supplied).growable
  · rw [if_neg exhausted] at outcome
    refine iff_of_false ?_ exhausted
    intro harmless
    have capacity := outcome.symm.trans harmless.capacity
    unfold bitsPerLong at capacity
    omega

def oneTable : List Call := List.replicate 31 (.allocateMapping 7 (some fun _ => 0))

theorem suppliedAll_replicate (map : DescriptorMapping) (count : Nat) (target : Target) (before : Words) :
    SuppliedAll map (List.replicate count (.allocateMapping target (some before))) := by
  induction count generalizing map with
  | zero => trivial
  | succ count ih => exact ⟨fun _ _ => nofun, ih _⟩

theorem allocateMapping_failure_full : ∃ map, create 32 32 true (some fun _ => 0) true = some map ∧
      FailureHarmless (performAll map oneTable).2
        (allocateMapping (performAll map oneTable).2 7
          none).2 := by
  have created : create 32 32 true (some fun _ => 0) true = some _ := rfl
  refine ⟨_, created, ?_⟩
  exact (allocateMapping_failure_iff created (by decide) (by decide) (by decide) oneTable
    (suppliedAll_replicate _ _ _ _) 7 none (by decide +kernel)).mpr (by decide +kernel)

/-- With 32 descriptors in use and no memory for more, the capacity is 64 afterwards. -/
theorem allocateMapping_failure_grows : ∃ map, create 32 64 true (some fun _ => 0) true = some map ∧
      (allocateMapping (performAll map oneTable).2 7 none).1 = none ∧
      ¬FailureHarmless (performAll map oneTable).2
        (allocateMapping (performAll map oneTable).2 7
          none).2 := by
  have created : create 32 64 true (some fun _ => 0) true = some _ := rfl
  refine ⟨_, created, by decide +kernel, ?_⟩
  intro harmless
  exact absurd harmless.capacity (by decide +kernel)

end Floid.Descriptors
