import Floid.Osk.Bitops

/-!
The descriptor mapping: a table of pointers indexed by small integers, with one
usage bit for each index. The usage words and the pointers share one heap object,
the words first, so the table is kept here as the words it is made of.
-/

namespace Floid.Descriptors

open Osk

/-- What a descriptor maps to, a `void *`. NULL is zero. -/
abbrev Target := U32

def bitsPerLong : Nat := 32

def toU32 (value : Int) : Nat := (value % 2 ^ 32).toNat

def toInt (value : Nat) : Int := if value < 2 ^ 31 then value else value - 2 ^ 32

/-- `MALI_PAD_INT`: clearing the low five bits rounds down to a multiple of 32. -/
def padInt (value : Int) : Int := (value + (bitsPerLong - 1)) / bitsPerLong * bitsPerLong

structure DescriptorTable where
  /-- The words from `usage` on. What follows the object belongs to others. -/
  memory : Words
  /-- The distance from `usage` to `mappings`, in words. -/
  mappings : Nat

structure DescriptorMapping where
  maxNrMappingsAllowed : Int
  currentNrMappings : Int
  table : DescriptorTable

def usageBytes (count : Int) : Nat := toU32 (4 * count) / bitsPerLong

def mappingsBytes (count : Int) : Nat := toU32 (4 * count)

def tableBytes (count : Int) : Nat := (8 + usageBytes count + mappingsBytes count) % 2 ^ 32

/-- `heap` is what the memory held before, `none` when the allocation fails. -/
def descriptorTableAlloc (count : Int) (heap : Option Words) : Option DescriptorTable :=
  heap.map fun before =>
    { memory := fun index => if index < (tableBytes count - 8) / 4 then 0 else before index
      mappings := usageBytes count / 4 }

def create (initEntries maxEntries : Int) (mapAllocated : Bool) (heap : Option Words)
    (lockAllocated : Bool) : Option DescriptorMapping :=
  if mapAllocated then
    match descriptorTableAlloc (padInt initEntries) heap with
    | some table =>
        if lockAllocated then
          -- bit 0 is reserved to prevent NULL/zero logic to kick in
          some
            { maxNrMappingsAllowed := padInt maxEntries
              currentNrMappings := padInt initEntries
              table := { table with memory := setNonatomicBit 0 table.memory } }
        else none
    | none => none
  else none

def copyTable (new old : DescriptorTable) (count : Int) : DescriptorTable :=
  { new with
    memory := fun index =>
      if new.mappings ≤ index ∧ index < new.mappings + mappingsBytes count / 4 then
        old.memory (old.mappings + (index - new.mappings))
      else if index < usageBytes count / 4 then old.memory index
      else new.memory index }

def DescriptorTable.occupy (table : DescriptorTable) (descriptor : Int) (target : Target) : DescriptorTable :=
  { table with
    memory := (setNonatomicBit (toU32 descriptor) table.memory).write
      (table.mappings + descriptor.toNat) target }

def DescriptorMapping.firstFree (map : DescriptorMapping) : Int :=
  toInt (findFirstZeroBit map.table.memory (toU32 map.currentNrMappings))

/-- The new descriptor, `none` for `_MALI_OSK_ERR_FAULT`. -/
def allocateMapping (map : DescriptorMapping) (target : Target) (heap : Option Words) :
    Option Int × DescriptorMapping :=
  let newDescriptor := map.firstFree
  if newDescriptor = map.currentNrMappings then
    if map.maxNrMappingsAllowed ≤ map.currentNrMappings then (none, map)
    else
      -- the count grows before the table does, and stays when the table cannot
      let grown := { map with currentNrMappings := map.currentNrMappings + bitsPerLong }
      match descriptorTableAlloc grown.currentNrMappings heap with
      | none => (none, grown)
      | some newTable =>
          let copied := copyTable newTable map.table grown.currentNrMappings
          (some newDescriptor, { grown with table := copied.occupy newDescriptor target })
  else (some newDescriptor, { map with table := map.table.occupy newDescriptor target })

def DescriptorMapping.accepts (map : DescriptorMapping) (descriptor : Int) : Prop :=
  0 ≤ descriptor ∧ descriptor < map.currentNrMappings ∧ testBit (toU32 descriptor) map.table.memory ≠ 0

instance (map : DescriptorMapping) (descriptor : Int) : Decidable (map.accepts descriptor) :=
  inferInstanceAs (Decidable (_ ∧ _ ∧ _))

def get (map : DescriptorMapping) (descriptor : Int) : Errcode × Target :=
  if map.accepts descriptor then
    (.ok, map.table.memory (map.table.mappings + descriptor.toNat))
  else (.fault, 0)

def set (map : DescriptorMapping) (descriptor : Int) (target : Target) : Errcode × DescriptorMapping :=
  if map.accepts descriptor then
    (.ok, { map with table := { map.table with
      memory := map.table.memory.write (map.table.mappings + descriptor.toNat) target } })
  else (.fault, map)

def free (map : DescriptorMapping) (descriptor : Int) : DescriptorMapping :=
  if map.accepts descriptor then
    let cleared := map.table.memory.write (map.table.mappings + descriptor.toNat) 0
    { map with table := { map.table with memory := clearNonatomicBit (toU32 descriptor) cleared } }
  else map

/-- The pointers that `mali_descriptor_mapping_call_for_each` calls its callback with, in order. -/
def callForEach (map : DescriptorMapping) : List Target :=
  (List.range' 1 (map.currentNrMappings.toNat - 1)).filterMap fun i =>
    if testBit i map.table.memory ≠ 0 then some (map.table.memory (map.table.mappings + i)) else none

inductive Call where
  | allocateMapping (target : Target) (heap : Option Words)
  | get (descriptor : Int)
  | set (descriptor : Int) (target : Target)
  | free (descriptor : Int)

inductive Result where
  | allocated (descriptor : Option Int)
  | got (error : Errcode) (target : Target)
  | stored (error : Errcode)
  | freed
  deriving DecidableEq

def perform (map : DescriptorMapping) : Call → Result × DescriptorMapping
  | .allocateMapping target heap =>
      let (descriptor, after) := allocateMapping map target heap
      (.allocated descriptor, after)
  | .get descriptor =>
      let (error, target) := get map descriptor
      (.got error target, map)
  | .set descriptor target =>
      let (error, after) := set map descriptor target
      (.stored error, after)
  | .free descriptor => (.freed, free map descriptor)

def performAll (map : DescriptorMapping) : List Call → List (Call × Result) × DescriptorMapping
  | [] => ([], map)
  | call :: rest =>
      let (result, next) := perform map call
      let (trace, after) := performAll next rest
      ((call, result) :: trace, after)

end Floid.Descriptors
