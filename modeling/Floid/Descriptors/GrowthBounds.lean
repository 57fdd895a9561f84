import Floid.Descriptors.FailedGrowth
import Floid.Lib.Transition

namespace Floid.Descriptors

open Osk Lib

/-- `mali_descriptor_mapping` and `ump_descriptor_mapping`. -/
inductive Version where
  | mali
  | ump
  deriving DecidableEq

def Version.grown : Version → Int → Int
  | .mali, current => current + bitsPerLong
  | .ump, current => current * 2

def Version.copied : Version → Int → Int
  | .mali, current => current + bitsPerLong
  | .ump, current => current

def umpAllocateMapping (map : DescriptorMapping) (target : Target) (heap : Option Words) :
    Option Int × DescriptorMapping :=
  let descriptor := map.firstFree
  if descriptor = map.currentNrMappings then
    let nrMappingsNew := map.currentNrMappings * 2
    if map.maxNrMappingsAllowed ≤ map.currentNrMappings then (none, map)
    else
      match descriptorTableAlloc nrMappingsNew heap with
      | none => (none, map)
      | some newTable =>
          let copied := copyTable newTable map.table map.currentNrMappings
          (some descriptor,
            { map with currentNrMappings := nrMappingsNew, table := copied.occupy descriptor target })
  else (some descriptor, { map with table := map.table.occupy descriptor target })

def Version.allocateMapping : Version → DescriptorMapping → Target → Option Words → Option Int × DescriptorMapping
  | .mali => Descriptors.allocateMapping
  | .ump => umpAllocateMapping

/-- A call that may change a mapping. UMP has no `set`. -/
inductive Change where
  | allocateMapping (target : Target) (heap : Option Words)
  | set (descriptor : Int) (target : Target)
  | free (descriptor : Int)

def Version.system (version : Version) (initEntries maxEntries : Int) :
    TransitionSystem DescriptorMapping Change where
  initial map := ∃ mapAllocated heap lockAllocated,
    create initEntries maxEntries mapAllocated heap lockAllocated = some map
  step before change after :=
    match change with
    | .allocateMapping target heap => after = (version.allocateMapping before target heap).2
    | .set descriptor target => version = .mali ∧ after = (Descriptors.set before descriptor target).2
    | .free descriptor => after = Descriptors.free before descriptor

/-- The copies read only words of the old table, which has `n` bits in its usage words and `n`
pointers, and write only words of the new one; they keep the bits and the pointers of the old
table, and what is added is not in use. -/
structure GrowsInBounds (version : Version) (map : DescriptorMapping) (newTable : DescriptorTable) : Prop where
  usageRead : ∀ word < usageBytes (version.copied map.currentNrMappings) / 4,
    (word : Int) < map.currentNrMappings / bitsPerLong
  mappingsRead : ∀ word < mappingsBytes (version.copied map.currentNrMappings) / 4,
    (word : Int) < map.currentNrMappings
  usageWritten : ∀ word < usageBytes (version.copied map.currentNrMappings) / 4,
    (word : Int) < version.grown map.currentNrMappings / bitsPerLong
  mappingsWritten : ∀ word < mappingsBytes (version.copied map.currentNrMappings) / 4,
    (word : Int) < version.grown map.currentNrMappings
  bitsKept : ∀ nr : Nat, (nr : Int) < map.currentNrMappings →
    (copyTable newTable map.table (version.copied map.currentNrMappings)).memory.bit nr =
      map.table.memory.bit nr
  mappingsKept : ∀ place : Nat, (place : Int) < map.currentNrMappings →
    (copyTable newTable map.table (version.copied map.currentNrMappings)).memory
      (newTable.mappings + place) = map.table.memory (map.table.mappings + place)
  addedUnused : ∀ nr : Nat, map.currentNrMappings ≤ nr →
    (nr : Int) < version.grown map.currentNrMappings →
      (copyTable newTable map.table (version.copied map.currentNrMappings)).memory.bit nr = false

structure WholeWords (version : Version) (maxEntries : Int) (map : DescriptorMapping) : Prop where
  words : ∃ words : Nat, 0 < words ∧ map.currentNrMappings = (32 * words : Nat) ∧
    (version = .ump → map.table.mappings = words)
  limit : map.maxNrMappingsAllowed = padInt maxEntries

section

variable {version : Version} {initEntries maxEntries : Int} {map : DescriptorMapping}

theorem WholeWords.withTable (whole : WholeWords version maxEntries map) {table : DescriptorTable}
    (same : table.mappings = map.table.mappings) :
    WholeWords version maxEntries { map with table := table } := by
  obtain ⟨⟨words, positive, capacity, layout⟩, limit⟩ := whole
  exact ⟨⟨words, positive, capacity, fun ump => same.trans (layout ump)⟩, limit⟩

variable {words : Nat} {newTable : DescriptorTable}

theorem grown_fits (version : Version) (capacity : map.currentNrMappings = (32 * words : Nat))
    (below : map.currentNrMappings < padInt maxEntries)
    (fits : TableFits (version.grown (padInt maxEntries))) :
    TableFits (version.grown map.currentNrMappings) := by
  unfold TableFits at fits ⊢
  cases version with
  | mali =>
    simp only [Version.grown, bitsPerLong] at fits ⊢
    omega
  | ump =>
    simp only [Version.grown] at fits ⊢
    omega

theorem alloc_mappings (fits : TableFits (32 * words : Nat)) {before : Option Words}
    (allocated : descriptorTableAlloc (32 * words : Nat) before = some newTable) :
    newTable.mappings = words := by
  cases before with
  | none => simp [descriptorTableAlloc] at allocated
  | some before =>
    obtain ⟨table, alloc, mappings, -⟩ := descriptorTableAlloc_some fits before
    obtain rfl : table = newTable := Option.some.inj (alloc.symm.trans allocated)
    exact mappings

theorem WholeWords.allocate (whole : WholeWords version maxEntries map)
    (fits : TableFits (version.grown (padInt maxEntries))) (target : Target)
    (heap : Option Words) :
    WholeWords version maxEntries (version.allocateMapping map target heap).2 := by
  obtain ⟨words, positive, capacity, layout⟩ := whole.words
  cases version with
  | mali =>
    have grown (table : DescriptorTable) : WholeWords .mali maxEntries
        { map with currentNrMappings := map.currentNrMappings + bitsPerLong, table } := by
      refine ⟨⟨words + 1, by omega, ?_, nofun⟩, whole.limit⟩
      change map.currentNrMappings + bitsPerLong = _
      rw [capacity, bitsPerLong]
      omega
    simp only [Version.allocateMapping, allocateMapping]
    split
    · split
      · exact whole
      · split
        · exact grown _
        · exact grown _
    · exact whole.withTable rfl
  | ump =>
    simp only [Version.allocateMapping, umpAllocateMapping]
    split
    · split
      · exact whole
      · rename_i room
        split
        · exact whole
        · rename_i newTable allocated
          have below : map.currentNrMappings < padInt maxEntries := by
            have limit := whole.limit
            omega
          have doubled : map.currentNrMappings * 2 = (32 * (words * 2) : Nat) := by omega
          have newFits := grown_fits .ump capacity below fits
          simp only [Version.grown, doubled] at newFits allocated ⊢
          refine ⟨⟨words * 2, by omega, rfl, fun _ => ?_⟩, whole.limit⟩
          change newTable.mappings = words * 2
          exact alloc_mappings newFits allocated
    · exact whole.withTable rfl

theorem create_wholeWords {mapAllocated lockAllocated : Bool} {heap : Option Words}
    (created : create initEntries maxEntries mapAllocated heap lockAllocated = some map)
    (positive : 0 < padInt initEntries) (fits : TableFits (padInt initEntries)) :
    WholeWords version maxEntries map := by
  obtain ⟨words, padded⟩ := padInt_eq initEntries
  obtain ⟨number, rfl⟩ := Int.eq_ofNat_of_zero_le (show 0 ≤ words by omega)
  have capacity : padInt initEntries = (32 * number : Nat) := by omega
  rw [capacity] at fits
  unfold create at created
  rw [capacity] at created
  cases mapAllocated with
  | false => simp at created
  | true =>
    cases allocated : descriptorTableAlloc (32 * number : Nat) heap with
    | none =>
      simp only [if_true, allocated] at created
      cases created
    | some table =>
      simp only [if_true, allocated] at created
      cases lockAllocated with
      | false => cases created
      | true =>
        cases created
        refine ⟨⟨number, by omega, rfl, fun _ => ?_⟩, rfl⟩
        change table.mappings = number
        exact alloc_mappings fits allocated

theorem reachable_wholeWords (positive : 0 < padInt initEntries) (initFits : TableFits (padInt initEntries))
    (fits : TableFits (version.grown (padInt maxEntries)))
    (reached : (version.system initEntries maxEntries).Reachable map) :
    WholeWords version maxEntries map := by
  refine reached.invariant ?_ ?_
  · intro map ⟨mapAllocated, heap, lockAllocated, created⟩
    exact create_wholeWords created positive initFits
  · intro before change after whole stepped
    cases change with
    | allocateMapping target heap =>
      cases stepped
      exact whole.allocate fits target heap
    | set descriptor target =>
      obtain ⟨-, rfl⟩ := stepped
      unfold Descriptors.set
      split
      · exact whole.withTable rfl
      · exact whole
    | free descriptor =>
      cases stepped
      unfold Descriptors.free
      split
      · exact whole.withTable rfl
      · exact whole

theorem ump_growsInBounds {before : Words}
    (capacity : map.currentNrMappings = (32 * words : Nat)) (layout : map.table.mappings = words)
    (fits : TableFits (32 * (words * 2) : Nat))
    (allocated : descriptorTableAlloc (32 * (words * 2) : Nat) (some before) = some newTable) :
    GrowsInBounds .ump map newTable := by
  obtain ⟨table, alloc, mappings, zero⟩ := descriptorTableAlloc_some fits before
  obtain rfl : table = newTable := Option.some.inj (alloc.symm.trans allocated)
  have oldFits : TableFits (32 * words : Nat) := by
    unfold TableFits at fits ⊢
    omega
  have usage : usageBytes (Version.ump.copied map.currentNrMappings) / 4 = words := by
    simp only [Version.copied, capacity]
    rw [usageBytes_eq oldFits]
    omega
  have pointers : mappingsBytes (Version.ump.copied map.currentNrMappings) / 4 = 32 * words := by
    simp only [Version.copied, capacity]
    rw [mappingsBytes_eq oldFits]
    omega
  have grown : Version.ump.grown map.currentNrMappings = (32 * (words * 2) : Nat) := by
    simp only [Version.grown, capacity]
    omega
  have words_eq (word : Nat) (inside : word < words) :
      (copyTable table map.table (Version.ump.copied map.currentNrMappings)).memory word =
        map.table.memory word := by
    simp only [copyTable, usage, pointers, mappings]
    rw [if_neg (by omega), if_pos inside]
  constructor
  · intro word inside
    rw [usage] at inside
    rw [capacity, bitsPerLong]
    omega
  · intro word inside
    rw [pointers] at inside
    rw [capacity]
    omega
  · intro word inside
    rw [usage] at inside
    rw [grown, bitsPerLong]
    omega
  · intro word inside
    rw [pointers] at inside
    rw [grown]
    omega
  · intro nr old
    rw [Words.bit, words_eq _ (by omega)]
    rfl
  · intro place old
    simp only [copyTable, usage, pointers, mappings, layout]
    rw [if_pos (by omega)]
    congr 1
    omega
  · intro nr added inside
    rw [grown] at inside
    rw [capacity] at added
    have word : (copyTable table map.table (Version.ump.copied map.currentNrMappings)).memory
        (nr / 32) = 0 := by
      simp only [copyTable, usage, pointers, mappings]
      rw [if_neg (by omega), if_neg (by omega), zero _ (by omega)]
    rw [Words.bit, word]
    simp

theorem mali_reads_outside {words : Nat} {newTable : DescriptorTable}
    (capacity : map.currentNrMappings = (32 * words : Nat))
    (fits : TableFits (Version.mali.grown map.currentNrMappings)) :
    ¬GrowsInBounds .mali map newTable := by
  intro inBounds
  have grown : Version.mali.grown map.currentNrMappings = (32 * (words + 1) : Nat) := by
    simp only [Version.grown, capacity, bitsPerLong]
    omega
  rw [grown] at fits
  have usage : usageBytes (Version.mali.copied map.currentNrMappings) / 4 = words + 1 := by
    rw [show Version.mali.copied map.currentNrMappings = (32 * (words + 1) : Nat) from grown, usageBytes_eq fits]
    omega
  have read := inBounds.usageRead words (by rw [usage]; omega)
  rw [capacity, bitsPerLong] at read
  omega

/-- Every growth of UMP is in bounds, and no growth of Mali is. -/
theorem growth_inBounds_iff (version : Version) (initEntries maxEntries : Int)
    (positive : 0 < padInt initEntries) (initFits : TableFits (padInt initEntries))
    (fits : TableFits (version.grown (padInt maxEntries))) (map : DescriptorMapping)
    (reached : (version.system initEntries maxEntries).Reachable map)
    (below : map.currentNrMappings < map.maxNrMappingsAllowed) (before : Words)
    (newTable : DescriptorTable)
    (allocated : descriptorTableAlloc (version.grown map.currentNrMappings) (some before) = some newTable) :
    GrowsInBounds version map newTable ↔ version = .ump := by
  have whole := reachable_wholeWords positive initFits fits reached
  obtain ⟨words, _, capacity, layout⟩ := whole.words
  have newFits := grown_fits version capacity (whole.limit ▸ below) fits
  cases version with
  | mali => exact iff_of_false (mali_reads_outside capacity newFits) nofun
  | ump =>
    refine iff_of_true ?_ rfl
    have doubled : Version.ump.grown map.currentNrMappings = (32 * (words * 2) : Nat) := by
      simp only [Version.grown, capacity]
      omega
    rw [doubled] at newFits allocated
    exact ump_growsInBounds capacity (layout rfl) newFits allocated

end

theorem growth_inBounds_ump : ∃ map newTable, create 32 64 true (some fun _ => 0) true = some map ∧
      descriptorTableAlloc 64 (some fun _ => 0) = some newTable ∧
      GrowsInBounds .ump map newTable := by
  have created : create 32 64 true (some fun _ => 0) true = some _ := rfl
  have allocated : descriptorTableAlloc (Version.ump.grown 32) (some fun _ => 0) = some _ := rfl
  refine ⟨_, _, created, allocated, ?_⟩
  exact (growth_inBounds_iff .ump 32 64 (by decide) (by decide) (by decide) _
    (.initial ⟨true, some fun _ => 0, true, created⟩) (by decide) (fun _ => 0) _ allocated).mpr rfl

theorem mali_reachable_replicate {initEntries maxEntries : Int} {map : DescriptorMapping}
    (reached : (Version.mali.system initEntries maxEntries).Reachable map) (count : Nat)
    (target : Target) (heap : Option Words) :
    (Version.mali.system initEntries maxEntries).Reachable
      (performAll map (List.replicate count (.allocateMapping target heap))).2 := by
  induction count generalizing map with
  | zero => exact reached
  | succ count ih => exact ih (reached.next (.allocateMapping target heap) rfl)

/-- A full table of 32 descriptors that may grow to 64 is read behind its end. -/
theorem growth_outside : ∃ map, (Version.mali.system 32 64).Reachable map ∧ map.firstFree = map.currentNrMappings ∧
      map.currentNrMappings < map.maxNrMappingsAllowed ∧
      ∀ newTable, ¬GrowsInBounds .mali map newTable := by
  have created : create 32 64 true (some fun _ => 0) true = some _ := rfl
  have reached := mali_reachable_replicate (.initial ⟨true, some fun _ => 0, true, created⟩) 31 7
    (some fun _ => 0)
  refine ⟨_, reached, by decide +kernel, by decide +kernel, fun newTable => ?_⟩
  exact @mali_reads_outside _ 1 newTable (by decide +kernel) (by decide +kernel)

end Floid.Descriptors
