import Floid.Descriptors.Refinement

/-! Whole runs of a descriptor mapping, from its creation on. -/

namespace Floid.Descriptors

open Floid.Osk PartialMap

def Admissible (map : DescriptorMapping) : Call → Prop
  | .allocateMapping _ heap =>
      map.firstFree = map.currentNrMappings → map.currentNrMappings < map.maxNrMappingsAllowed → heap ≠ none
  | .get descriptor => descriptor ≠ 0
  | .set descriptor _ => descriptor ≠ 0
  | .free descriptor => descriptor ≠ 0

def AdmissibleAll (map : DescriptorMapping) : List Call → Prop
  | [] => True
  | call :: rest => Admissible map call ∧ AdmissibleAll (perform map call).2 rest

theorem padInt_eq (value : Int) : ∃ words, padInt value = 32 * words :=
  ⟨(value + 31) / 32, by unfold padInt bitsPerLong; omega⟩

variable {heap : Option Words} {map : DescriptorMapping} {live : PartialMap}

theorem create_represents {initEntries maxEntries : Int} {mapAllocated lockAllocated : Bool}
    (created : create initEntries maxEntries mapAllocated heap lockAllocated = some map)
    (positive : 0 < padInt initEntries) (initFits : TableFits (padInt initEntries))
    (maxFits : TableFits (padInt maxEntries)) : Represents map empty := by
  obtain ⟨words, padded⟩ := padInt_eq initEntries
  obtain ⟨limit, limitPadded⟩ := padInt_eq maxEntries
  obtain ⟨number, rfl⟩ := Int.eq_ofNat_of_zero_le (show 0 ≤ words by omega)
  have capacity : padInt initEntries = (32 * number : Nat) := by omega
  rw [capacity] at initFits
  unfold create at created
  rw [capacity] at created
  cases mapAllocated with
  | false => simp at created
  | true =>
    cases heap with
    | none => simp [descriptorTableAlloc] at created
    | some before =>
      obtain ⟨table, alloc, mappings, zero⟩ := descriptorTableAlloc_some initFits before
      cases lockAllocated with
      | false =>
        rw [alloc] at created
        simp at created
      | true =>
        simp only [alloc, if_true, Option.some.injEq] at created
        subst created
        have word_zero (index : Nat) (outside : index ≠ 0) (inside : index < 33 * number) :
            setNonatomicBit 0 table.memory index = 0 := by
          rw [setNonatomicBit_other _ _ _ (by omega), zero index inside]
        refine
          { nonempty := by simp only [mappings]; omega
            capacity := by simp only [mappings]
            fits := initFits
            limitPadded := by simp only; omega
            limitFits := maxFits
            reserved := by simp [bit_setNonatomicBit]
            reservedNull := ?_
            used := ?_
            stored := by simp [empty]
            inside := by simp [empty] }
        · simp only [mappings]
          exact word_zero number (by omega) (by omega)
        · intro nr above below
          simp only [mappings] at below
          simp only [bit_setNonatomicBit, empty, Option.isSome_none]
          rw [Words.bit, zero (nr / 32) (by omega)]
          simp [show nr ≠ 0 by omega]

theorem Represents.firstFree_eq (represents : Represents map live) :
    ∃ number : Nat, map.firstFree = number ∧ live number = none ∧ 0 < number ∧
      (number < 32 * map.table.mappings ∨ (number : Int) = map.currentNrMappings) := by
  have small := represents.current_lt
  have capacity := represents.capacity
  have nonempty := represents.nonempty
  obtain ⟨bounded, _, clear⟩ :=
    findFirstZeroBit_spec map.table.memory (32 * map.table.mappings)
  refine ⟨findFirstZeroBit map.table.memory (32 * map.table.mappings), ?_, ?_, ?_, by omega⟩
  · rw [DescriptorMapping.firstFree, represents.toU32_current, toInt_natCast (by omega)]
  · by_contra present
    obtain ⟨number, same, positive, inside⟩ := represents.inside _ present
    have found : findFirstZeroBit map.table.memory (32 * map.table.mappings) = number := by omega
    have bit := represents.used number positive inside
    rw [← found, clear (by omega)] at bit
    exact present (by simpa using bit.symm)
  · by_contra zero
    have found : findFirstZeroBit map.table.memory (32 * map.table.mappings) = 0 := by omega
    have reserved := clear (by omega)
    rw [found, represents.reserved] at reserved
    contradiction

theorem allocateMapping_step (represents : Represents map live) {target : Target}
    (admissible : Admissible map (.allocateMapping target heap)) :
    ∃ next, Step live (.allocateMapping target heap)
        (.allocated (allocateMapping map target heap).1) next ∧
      Represents (allocateMapping map target heap).2 next := by
  have capacity := represents.capacity
  obtain ⟨number, found, fresh, positive, inside⟩ := represents.firstFree_eq
  unfold allocateMapping
  simp only [found]
  by_cases full : (number : Int) = map.currentNrMappings
  · rw [if_pos full]
    by_cases exhausted : map.maxNrMappingsAllowed ≤ map.currentNrMappings
    · rw [if_pos exhausted]
      exact ⟨live, .full, represents⟩
    · rw [if_neg exhausted]
      cases heap with
      | none => exact absurd rfl (admissible (found.trans full) (by omega))
      | some before =>
        cases alloc : descriptorTableAlloc (map.currentNrMappings + bitsPerLong) (some before) with
        | none => simp [descriptorTableAlloc] at alloc
        | some newTable =>
          obtain ⟨grown, mappings⟩ := represents.grow rfl (by omega) alloc
          refine ⟨live.update number (some target), .allocated fresh (by omega), ?_⟩
          exact grown.occupy positive (by simp only [mappings]; omega) target
  · rw [if_neg full]
    refine ⟨live.update number (some target), .allocated fresh (by omega), ?_⟩
    exact represents.occupy positive (by omega) target

theorem perform_step (represents : Represents map live) {call : Call} (admissible : Admissible map call) :
    ∃ next, Step live call (perform map call).1 next ∧ Represents (perform map call).2 next := by
  cases call with
  | allocateMapping target heap => exact allocateMapping_step represents admissible
  | get descriptor =>
    refine ⟨live, ?_, represents⟩
    simp only [perform, represents.get_eq admissible]
    cases found : live descriptor with
    | none => exact .missed found
    | some target => exact .got found
  | set descriptor target =>
    simp only [perform, set]
    cases found : live descriptor with
    | none =>
      rw [if_neg (by rw [represents.accepts_iff admissible]; simp [found])]
      exact ⟨live, .refused found, represents⟩
    | some old =>
      have present : live descriptor ≠ none := by simp [found]
      rw [if_pos ((represents.accepts_iff admissible).mpr present)]
      obtain ⟨number, rfl, positive, inside⟩ := represents.inside descriptor present
      exact ⟨_, .stored found, represents.store positive inside present target⟩
  | free descriptor =>
    refine ⟨live.update descriptor none, .freed, ?_⟩
    simp only [perform, free]
    cases found : live descriptor with
    | none =>
      rw [if_neg (by rw [represents.accepts_iff admissible]; simp [found])]
      have unchanged : live.update descriptor none = live := by
        funext other
        by_cases same : other = descriptor
        · rw [same, update_same, found]
        · exact update_other _ _ same
      rwa [unchanged]
    | some old =>
      have present : live descriptor ≠ none := by simp [found]
      rw [if_pos ((represents.accepts_iff admissible).mpr present)]
      obtain ⟨number, rfl, positive, inside⟩ := represents.inside descriptor present
      exact represents.clear positive inside

theorem performAll_run (represents : Represents map live) {calls : List Call} (admissible : AdmissibleAll map calls) :
    ∃ after, Run live (performAll map calls).1 after ∧ Represents (performAll map calls).2 after := by
  induction calls generalizing map live with
  | nil => exact ⟨live, .nil, represents⟩
  | cons call rest ih =>
    obtain ⟨next, stepped, nextRepresents⟩ := perform_step represents admissible.1
    obtain ⟨after, ran, afterRepresents⟩ := ih nextRepresents admissible.2
    exact ⟨after, .cons stepped ran, afterRepresents⟩

/-- A mapping refines a partial map over every sequence of admissible calls: each
call has the result the partial map gives it, so `allocate_mapping` returns a
nonzero descriptor that is not live, and afterwards `get` succeeds exactly on the
live descriptors, with the target last stored. -/
theorem descriptorMapping_refines_partialMap {initEntries maxEntries : Int}
    {mapAllocated lockAllocated : Bool} {heap : Option Words} {map : DescriptorMapping}
    (created : create initEntries maxEntries mapAllocated heap lockAllocated = some map)
    (positive : 0 < padInt initEntries) (initFits : TableFits (padInt initEntries))
    (maxFits : TableFits (padInt maxEntries))
    (calls : List Call) (admissible : AdmissibleAll map calls) :
    ∃ live, PartialMap.Run PartialMap.empty (performAll map calls).1 live ∧ live 0 = none ∧
      ∀ descriptor, descriptor ≠ 0 → get (performAll map calls).2 descriptor =
        match live descriptor with
        | some target => (.ok, target)
        | none => (.fault, 0) := by
  obtain ⟨live, ran, represents⟩ :=
    performAll_run (create_represents created positive initFits maxFits) admissible
  exact ⟨live, ran, ran.zero_absent rfl, fun _ unreserved => represents.get_eq unreserved⟩

theorem descriptorMapping_refines_partialMap_session : ∃ map, create 64 65536 true (some fun _ => 0) true = some map ∧
      ∃ live, PartialMap.Run PartialMap.empty
          (performAll map [.allocateMapping 7 none, .get 1, .free 1, .get 1]).1 live ∧
        live 0 = none ∧ ∀ descriptor, descriptor ≠ 0 →
          get (performAll map [.allocateMapping 7 none, .get 1, .free 1, .get 1]).2 descriptor =
            match live descriptor with
            | some target => (.ok, target)
            | none => (.fault, 0) := by
  have created : create 64 65536 true (some fun _ => 0) true = some _ := rfl
  refine ⟨_, created, descriptorMapping_refines_partialMap created (by decide) (by decide) (by decide) _ ?_⟩
  have named : (1 : Int) ≠ 0 := by decide
  refine ⟨?_, named, named, named, trivial⟩
  intro full
  exact absurd full (by decide)

/-- Descriptor 0 is accepted right after creation, which no partial map allows. -/
theorem get_reserved_accepted : ∃ map, create 64 65536 true (some fun _ => 0) true = some map ∧
      ¬∃ live, PartialMap.Run PartialMap.empty (performAll map [.get 0]).1 live := by
  have created : create 64 65536 true (some fun _ => 0) true = some _ := rfl
  refine ⟨_, created, ?_⟩
  rintro ⟨live, ran⟩
  have represents := create_represents created (by decide) (by decide) (by decide)
  have accepted := represents.accepts_zero
  simp only [performAll, perform, get] at ran
  rw [if_pos accepted] at ran
  cases ran with
  | cons stepped _ =>
    cases stepped with
    | got stored => simp [PartialMap.empty] at stored

end Floid.Descriptors
