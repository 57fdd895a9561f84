import Floid.Descriptors.Model

namespace Floid.Descriptors

abbrev PartialMap := Int → Option Target

namespace PartialMap

def empty : PartialMap := fun _ => none

def update (live : PartialMap) (descriptor : Int) (value : Option Target) : PartialMap :=
  fun other => if other = descriptor then value else live other

@[simp] theorem update_same (live : PartialMap) (descriptor : Int) (value : Option Target) :
    live.update descriptor value descriptor = value := by
  simp [update]

theorem update_other (live : PartialMap) {descriptor other : Int} (value : Option Target)
    (different : other ≠ descriptor) : live.update descriptor value other = live other := by
  simp [update, different]

inductive Step (live : PartialMap) : Call → Result → PartialMap → Prop where
  | allocated {target heap descriptor} (fresh : live descriptor = none)
      (unreserved : descriptor ≠ 0) :
      Step live (.allocateMapping target heap) (.allocated (some descriptor))
        (live.update descriptor (some target))
  | full {target heap} : Step live (.allocateMapping target heap) (.allocated none) live
  | got {descriptor target} (stored : live descriptor = some target) :
      Step live (.get descriptor) (.got .ok target) live
  | missed {descriptor} (absent : live descriptor = none) : Step live (.get descriptor) (.got .fault 0) live
  | stored {descriptor old target} (present : live descriptor = some old) :
      Step live (.set descriptor target) (.stored .ok) (live.update descriptor (some target))
  | refused {descriptor target} (absent : live descriptor = none) :
      Step live (.set descriptor target) (.stored .fault) live
  | freed {descriptor} : Step live (.free descriptor) .freed (live.update descriptor none)

inductive Run : PartialMap → List (Call × Result) → PartialMap → Prop where
  | nil {live : PartialMap} : Run live [] live
  | cons {live next after : PartialMap} {call : Call} {result : Result}
      {rest : List (Call × Result)} (stepped : Step live call result next)
      (continued : Run next rest after) : Run live ((call, result) :: rest) after

theorem Step.zero_absent {live next : PartialMap} {call : Call} {result : Result}
    (stepped : Step live call result next) (absent : live 0 = none) : next 0 = none := by
  cases stepped with
  | allocated _ unreserved => rwa [update_other _ _ (Ne.symm unreserved)]
  | @stored descriptor old target present =>
    have different : (0 : Int) ≠ descriptor := by
      rintro rfl
      simp [absent] at present
    rwa [update_other _ _ different]
  | @freed descriptor =>
    by_cases same : (0 : Int) = descriptor
    · subst same
      exact update_same _ _ _
    · rwa [update_other _ _ same]
  | full | got | missed | refused => exact absent

theorem Run.zero_absent {live after : PartialMap} {trace : List (Call × Result)}
    (ran : Run live trace after) (absent : live 0 = none) : after 0 = none := by
  induction ran with
  | nil => exact absent
  | cons stepped _ ih => exact ih (stepped.zero_absent absent)

end PartialMap

end Floid.Descriptors

namespace Floid.Descriptors

open Floid.Osk

/-- The size of a table with this many mappings fits in a `size_t`. -/
def TableFits (count : Int) : Prop := 8 + count / 8 + 4 * count < 2 ^ 32

instance (count : Int) : Decidable (TableFits count) :=
  inferInstanceAs (Decidable (_ < _))

variable {value : Nat}

theorem toU32_natCast (small : value < 2 ^ 32) : toU32 value = value := by
  unfold toU32
  omega

theorem toInt_natCast (small : value < 2 ^ 31) : toInt value = value := by
  rw [toInt, if_pos small]

section Sizes

variable {words : Nat} (fits : TableFits (32 * words : Nat))
include fits

theorem usageBytes_eq : usageBytes (32 * words : Nat) = 4 * words := by
  unfold TableFits at fits
  unfold usageBytes toU32 bitsPerLong
  omega

theorem mappingsBytes_eq : mappingsBytes (32 * words : Nat) = 4 * (32 * words) := by
  unfold TableFits at fits
  unfold mappingsBytes toU32
  omega

theorem tableBytes_eq : tableBytes (32 * words : Nat) = 8 + 4 * (33 * words) := by
  unfold tableBytes
  rw [usageBytes_eq fits, mappingsBytes_eq fits]
  unfold TableFits at fits
  omega

theorem descriptorTableAlloc_some (before : Words) :
    ∃ table, descriptorTableAlloc (32 * words : Nat) (some before) = some table ∧
      table.mappings = words ∧ ∀ index < 33 * words, table.memory index = 0 := by
  refine ⟨_, rfl, ?_, ?_⟩
  · simp only [usageBytes_eq fits]
    omega
  · intro index inside
    simp only [tableBytes_eq fits]
    rw [if_pos (by omega)]

end Sizes

structure Represents (map : DescriptorMapping) (live : PartialMap) : Prop where
  nonempty : 0 < map.table.mappings
  capacity : map.currentNrMappings = (32 * map.table.mappings : Nat)
  fits : TableFits map.currentNrMappings
  limitPadded : map.maxNrMappingsAllowed % 32 = 0
  limitFits : TableFits map.maxNrMappingsAllowed
  reserved : map.table.memory.bit 0 = true
  reservedNull : map.table.memory map.table.mappings = 0
  used : ∀ descriptor : Nat, 0 < descriptor → descriptor < 32 * map.table.mappings →
    map.table.memory.bit descriptor = (live descriptor).isSome
  stored : ∀ (descriptor : Nat) target, live descriptor = some target →
    map.table.memory (map.table.mappings + descriptor) = target
  inside : ∀ descriptor, live descriptor ≠ none →
    ∃ number : Nat, descriptor = number ∧ 0 < number ∧ number < 32 * map.table.mappings

theorem bit_write_mapping (memory : Words) {mappings nr offset : Nat} (value : U32) (inside : nr < 32 * mappings) :
    (memory.write (mappings + offset) value).bit nr = memory.bit nr := by
  rw [Words.bit, Words.write_other _ _ (by omega)]
  rfl

namespace Represents

variable {map : DescriptorMapping} {live : PartialMap}

theorem current_lt (represents : Represents map live) : 32 * map.table.mappings < 2 ^ 30 := by
  have fits := represents.fits
  rw [represents.capacity, TableFits] at fits
  omega

theorem toU32_current (represents : Represents map live) :
    toU32 map.currentNrMappings = 32 * map.table.mappings := by
  rw [represents.capacity]
  exact toU32_natCast (by have := represents.current_lt; omega)

variable {descriptor : Int} {number : Nat}

theorem accepts_iff (represents : Represents map live)
    (unreserved : descriptor ≠ 0) : map.accepts descriptor ↔ live descriptor ≠ none := by
  have small := represents.current_lt
  have capacity := represents.capacity
  constructor
  · rintro ⟨nonnegative, below, set⟩
    obtain ⟨number, rfl⟩ := Int.eq_ofNat_of_zero_le nonnegative
    rw [toU32_natCast (by omega), ne_eq, testBit_eq_zero_iff, Bool.not_eq_false] at set
    rw [represents.used number (by omega) (by omega)] at set
    exact Option.isSome_iff_ne_none.mp set
  · intro present
    obtain ⟨number, rfl, positive, inside⟩ := represents.inside descriptor present
    refine ⟨by omega, by omega, ?_⟩
    rw [toU32_natCast (by omega), ne_eq, testBit_eq_zero_iff, Bool.not_eq_false,
      represents.used number positive inside]
    exact Option.isSome_iff_ne_none.mpr present

theorem accepts_zero (represents : Represents map live) : map.accepts 0 := by
  have nonempty := represents.nonempty
  have capacity := represents.capacity
  refine ⟨Int.le_refl 0, by omega, ?_⟩
  rw [ne_eq, testBit_eq_zero_iff, Bool.not_eq_false]
  exact represents.reserved

theorem get_eq (represents : Represents map live) (unreserved : descriptor ≠ 0) : get map descriptor =
      match live descriptor with
      | some target => (.ok, target)
      | none => (.fault, 0) := by
  unfold get
  cases found : live descriptor with
  | none =>
    rw [if_neg]
    rw [represents.accepts_iff unreserved]
    simp [found]
  | some target =>
    have present : live descriptor ≠ none := by simp [found]
    rw [if_pos ((represents.accepts_iff unreserved).mpr present)]
    obtain ⟨number, rfl, _, _⟩ := represents.inside descriptor present
    simp only [Int.toNat_natCast, represents.stored number target found]

theorem change (represents : Represents map live) (positive : 0 < number)
    (inside : number < 32 * map.table.mappings) (value : Option Target) (memory : Words)
    (newBit : memory.bit number = value.isSome)
    (otherBit : ∀ nr < 32 * map.table.mappings, nr ≠ number → memory.bit nr = map.table.memory.bit nr)
    (newMapping : ∀ target, value = some target → memory (map.table.mappings + number) = target)
    (otherMapping : ∀ offset ≠ number,
      memory (map.table.mappings + offset) = map.table.memory (map.table.mappings + offset)) :
    Represents { map with table := { map.table with memory := memory } }
      (live.update number value) where
  __ := represents
  reserved := by
    exact (otherBit 0 (by omega) (by omega)).trans represents.reserved
  reservedNull := (otherMapping 0 (by omega)).trans represents.reservedNull
  used := by
    intro nr above below
    by_cases same : nr = number
    · subst same
      rw [PartialMap.update_same]
      exact newBit
    · rw [PartialMap.update_other _ _ (by omega), ← represents.used nr above below]
      exact otherBit nr below same
  stored := by
    intro nr target found
    by_cases same : nr = number
    · subst same
      rw [PartialMap.update_same] at found
      exact newMapping target found
    · rw [PartialMap.update_other _ _ (by omega)] at found
      exact (otherMapping nr same).trans (represents.stored nr target found)
  inside := by
    intro nr present
    by_cases same : nr = number
    · exact ⟨number, same, positive, inside⟩
    · rw [PartialMap.update_other _ _ same] at present
      exact represents.inside nr present

theorem occupy (represents : Represents map live) (positive : 0 < number)
    (inside : number < 32 * map.table.mappings) (target : Target) :
    Represents { map with table := map.table.occupy number target }
      (live.update number (some target)) := by
  have small := represents.current_lt
  have bits (nr : Nat) (below : nr < 32 * map.table.mappings) :
      (map.table.occupy number target).memory.bit nr = (map.table.memory.bit nr || decide (nr = number)) := by
    rw [DescriptorTable.occupy, toU32_natCast (by omega), bit_write_mapping _ _ below, bit_setNonatomicBit]
  refine represents.change positive inside (some target)
    (map.table.occupy number target).memory ?_ ?_ ?_ ?_
  · simp [bits number inside]
  · intro nr below different
    simp [bits nr below, different]
  · intro new same
    simp only [DescriptorTable.occupy, Int.toNat_natCast, Words.write_same]
    exact Option.some.inj same
  · intro offset different
    simp only [DescriptorTable.occupy, Int.toNat_natCast]
    rw [Words.write_other _ _ (by omega), toU32_natCast (by omega), setNonatomicBit_other _ _ _ (by omega)]

theorem store (represents : Represents map live) (positive : 0 < number)
    (inside : number < 32 * map.table.mappings) (present : live number ≠ none) (target : Target) :
    Represents { map with table := { map.table with
        memory := map.table.memory.write (map.table.mappings + number) target } }
      (live.update number (some target)) := by
  refine represents.change positive inside (some target) _ ?_ ?_ ?_ ?_
  · rw [bit_write_mapping _ _ inside, represents.used number positive inside]
    exact Option.isSome_iff_ne_none.mpr present
  · intro nr below _
    exact bit_write_mapping _ _ below
  · intro new same
    rw [Words.write_same]
    exact Option.some.inj same
  · intro offset different
    exact Words.write_other _ _ (by omega)

theorem clear (represents : Represents map live) (positive : 0 < number) (inside : number < 32 * map.table.mappings) :
    Represents { map with table := { map.table with
        memory := clearNonatomicBit (toU32 number)
          (map.table.memory.write (map.table.mappings + number) 0) } }
      (live.update number none) := by
  have small := represents.current_lt
  rw [toU32_natCast (by omega)]
  refine represents.change positive inside none _ ?_ ?_ (by simp) ?_
  · simp [bit_clearNonatomicBit]
  · intro nr below different
    rw [bit_clearNonatomicBit, bit_write_mapping _ _ below]
    simp [different]
  · intro offset different
    rw [clearNonatomicBit_other _ _ _ (by omega), Words.write_other _ _ (by omega)]

/-- A larger table, with the old bits and pointers and no more descriptors in use. -/
theorem retable (represents : Represents map live) {table : DescriptorTable}
    (larger : map.table.mappings ≤ table.mappings) (fits : TableFits (32 * table.mappings : Nat))
    (oldBit : ∀ nr < 32 * map.table.mappings, table.memory.bit nr = map.table.memory.bit nr)
    (newBit : ∀ nr < 32 * table.mappings, 32 * map.table.mappings ≤ nr → table.memory.bit nr = false)
    (oldMapping : ∀ offset < 32 * map.table.mappings,
      table.memory (table.mappings + offset) = map.table.memory (map.table.mappings + offset)) :
    Represents { map with currentNrMappings := (32 * table.mappings : Nat), table } live := by
  have nonempty := represents.nonempty
  refine
    { represents with
      nonempty := by dsimp only; omega
      capacity := rfl
      fits := fits
      reserved := (oldBit 0 (by omega)).trans represents.reserved
      reservedNull := (oldMapping 0 (by omega)).trans represents.reservedNull
      used := ?_
      stored := ?_
      inside := ?_ }
  · intro nr above below
    rcases Nat.lt_or_ge nr (32 * map.table.mappings) with old | new
    · exact (oldBit nr old).trans (represents.used nr above old)
    · have absent : live nr = none := by
        by_contra present
        obtain ⟨number, same, _, inside⟩ := represents.inside nr present
        omega
      rw [newBit nr below new, absent]
      rfl
  · intro nr target found
    obtain ⟨number, same, _, inside⟩ := represents.inside nr (by simp [found])
    exact (oldMapping nr (by omega)).trans (represents.stored nr target found)
  · intro nr present
    obtain ⟨number, same, positive, inside⟩ := represents.inside nr present
    exact ⟨number, same, positive, by dsimp only; omega⟩

theorem grow (represents : Represents map live) {count : Int} {newTable : DescriptorTable}
    {before : Words} (counted : count = map.currentNrMappings + bitsPerLong)
    (room : map.currentNrMappings < map.maxNrMappingsAllowed)
    (allocated : descriptorTableAlloc count (some before) = some newTable) :
    Represents
      { map with currentNrMappings := count, table := copyTable newTable map.table count } live ∧
      (copyTable newTable map.table count).mappings = map.table.mappings + 1 := by
  have limit := represents.limitPadded
  have limitFits := represents.limitFits
  have small := represents.current_lt
  have capacity : count = (32 * (map.table.mappings + 1) : Nat) := by
    rw [counted, represents.capacity, bitsPerLong]
    omega
  have current := represents.capacity
  have fits : TableFits (32 * (map.table.mappings + 1) : Nat) := by
    unfold TableFits at limitFits ⊢
    omega
  subst capacity
  obtain ⟨table, alloc, mappings, zero⟩ := descriptorTableAlloc_some fits before
  obtain rfl : table = newTable := Option.some.inj (alloc.symm.trans allocated)
  have usage_word (index : Nat) (inside : index < map.table.mappings + 1) :
      (copyTable table map.table (32 * (map.table.mappings + 1) : Nat)).memory index =
        map.table.memory index := by
    simp only [copyTable, usageBytes_eq fits, mappingsBytes_eq fits, mappings]
    rw [if_neg (by omega), if_pos (by omega)]
  have mapping_word (offset : Nat) (inside : offset < 32 * (map.table.mappings + 1)) :
      (copyTable table map.table (32 * (map.table.mappings + 1) : Nat)).memory
        (map.table.mappings + 1 + offset) = map.table.memory (map.table.mappings + offset) := by
    simp only [copyTable, usageBytes_eq fits, mappingsBytes_eq fits, mappings]
    rw [if_pos (by omega)]
    congr 1
    omega
  have bit_eq (nr : Nat) (below : nr < 32 * (map.table.mappings + 1)) :
      (copyTable table map.table (32 * (map.table.mappings + 1) : Nat)).memory.bit nr =
        map.table.memory.bit nr := by
    rw [Words.bit, usage_word _ (by omega)]
    rfl
  have mappings_eq :
      (copyTable table map.table (32 * (map.table.mappings + 1) : Nat)).mappings =
        map.table.mappings + 1 := mappings
  refine ⟨?_, mappings_eq⟩
  generalize copyTable table map.table (32 * (map.table.mappings + 1) : Nat) = copied at *
  rw [← mappings_eq] at fits mapping_word bit_eq ⊢
  refine represents.retable (by omega) fits (fun nr old => bit_eq nr (by omega)) ?_
    fun offset old => mapping_word offset (by omega)
  intro nr below new
  rw [bit_eq nr below, Words.bit, show nr / 32 = map.table.mappings by omega, represents.reservedNull]
  simp

theorem callForEach_eq (represents : Represents map live) : callForEach map =
    (List.range' 1 (map.currentNrMappings.toNat - 1)).filterMap fun i : Nat => live i := by
  have capacity := represents.capacity
  refine List.filterMap_congr fun i inside => ?_
  rw [List.mem_range'_1] at inside
  have used := represents.used i (by omega) (by omega)
  simp only [ne_eq, testBit_eq_zero_iff, used]
  cases present : live i with
  | none => rfl
  | some target => exact congrArg some (represents.stored i target present)

theorem mem_callForEach (represents : Represents map live) {target : Target} :
    target ∈ callForEach map ↔ ∃ descriptor, live descriptor = some target := by
  have capacity := represents.capacity
  rw [represents.callForEach_eq, List.mem_filterMap]
  constructor
  · rintro ⟨i, -, present⟩
    exact ⟨i, present⟩
  · rintro ⟨descriptor, present⟩
    obtain ⟨i, rfl, positive, inside⟩ := represents.inside descriptor (by simp [present])
    exact ⟨i, List.mem_range'_1.mpr (by omega), present⟩

end Represents

end Floid.Descriptors
