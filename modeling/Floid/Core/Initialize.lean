import Floid.Core.SystemInfo

/-!
Loading the driver. `initialize_subsystems` starts the subsystems, completes their load
and builds the system info, and a failure on the way shuts down what has been started.
The result of a failed `build_system_info` never reaches the variable that is returned.
-/

namespace Floid.Core

open Osk

/-- `mali_kernel_subsystem`, as far as loading goes: what its functions return, if it has them. -/
structure Subsystem where
  startup : Option Errcode
  shutdown : Bool
  loadComplete : Option Errcode
  systemInfoFill : Option (SystemInfo → Errcode × SystemInfo)

def resourceTypeCount : Nat := 12

def resourceTypePmu : Nat := 11

/-- The handlers that the subsystems have registered. A call is told how many there were
before it. Builds with power management have a handler for the `PMU` type. -/
structure ResourceHandlers where
  pmu : Option (Nat → Errcode)
  other : Nat → Option (Nat → Errcode)

def ResourceHandlers.handler (handlers : ResourceHandlers) (type : Nat) : Option (Nat → Errcode) :=
  if type = resourceTypePmu then handlers.pmu else handlers.other type

def registerResourcesFrom (handlers : ResourceHandlers) : List Nat → Bool → Nat → Errcode
  | [], _, _ => .ok
  | type :: types, isPmuFirstResource, calls =>
      if type < resourceTypeCount then
        match handlers.handler type with
        | some handle =>
            match handlers.pmu with
            | some handlePmu =>
                if type ≠ resourceTypePmu ∧ isPmuFirstResource then
                  if handlePmu calls ≠ .ok then handlePmu calls
                  else if handle (calls + 1) ≠ .ok then handle (calls + 1)
                  else registerResourcesFrom handlers types false (calls + 2)
                else if handle calls ≠ .ok then handle calls
                else registerResourcesFrom handlers types false (calls + 1)
            | none =>
                if handle calls ≠ .ok then handle calls
                else registerResourcesFrom handlers types isPmuFirstResource (calls + 1)
        | none => .invalidArgs
      else .invalidArgs

def registerResources (handlers : ResourceHandlers) (types : List Nat) : Errcode :=
  registerResourcesFrom handlers types true 0

/-- What `mali_kernel_subsystem_core_setup` meets. -/
structure CoreSetup where
  registerHandler : Errcode
  resourcesInit : Errcode
  handlers : ResourceHandlers
  archConfiguration : List Nat

def coreSetup (setup : CoreSetup) : Errcode :=
  if setup.registerHandler ≠ .ok then setup.registerHandler
  else if setup.resourcesInit ≠ .ok then setup.resourcesInit
  else registerResources setup.handlers setup.archConfiguration

/-- `mali_subsystem_core`, the last entry of the subsystem array. -/
def coreSubsystem (setup : CoreSetup) : Subsystem where
  startup := some (coreSetup setup)
  shutdown := true
  loadComplete := none
  systemInfoFill := some fun info => (.ok, { info with drivermode := driverModeNormal })

def startSubsystems : List Subsystem → Nat → Errcode → Errcode × Nat × Bool
  | [], i, err => (err, i, true)
  | subsystem :: subsystems, i, err =>
      match subsystem.startup with
      | none => startSubsystems subsystems (i + 1) err
      | some result =>
          if result ≠ .ok then (result, i, false) else startSubsystems subsystems (i + 1) result

def completeSubsystems : List Subsystem → Errcode → Errcode × Bool
  | [], err => (err, true)
  | subsystem :: subsystems, err =>
      match subsystem.loadComplete with
      | none => completeSubsystems subsystems err
      | some result =>
          if result ≠ .ok then (result, false) else completeSubsystems subsystems result

/-- The loop of `build_system_info`. -/
def fillSystemInfo : List Subsystem → SystemInfo → Errcode × SystemInfo
  | [], info => (.ok, info)
  | subsystem :: subsystems, info =>
      match subsystem.systemInfoFill with
      | none => fillSystemInfo subsystems info
      | some fill =>
          if (fill info).1 ≠ .ok then fill info else fillSystemInfo subsystems (fill info).2

def buildSystemInfo (malloc : Bool) (subsystems : List Subsystem) : Errcode × Option (SystemInfo × U32) :=
  if ¬ malloc then (.nomem, none)
  else
    match fillSystemInfo subsystems .blank with
    | (.ok, newInfo) => (.ok, some (newInfo, newInfo.newSize))
    | (err, _) => (err, none)

def cleanupSubsystems (subsystems : List Subsystem) : Nat → List Nat
  | 0 => []
  | i + 1 =>
      match subsystems[i]? with
      | some subsystem =>
          if subsystem.shutdown then i :: cleanupSubsystems subsystems i
          else cleanupSubsystems subsystems i
      | none => cleanupSubsystems subsystems i

/-- What `initialize_subsystems` leaves: the subsystems below `started` have been started. -/
structure Loaded where
  err : Errcode
  started : Nat
  shutDown : List Nat
  systemInfo : Option (SystemInfo × U32)

def initializeSubsystems (lock malloc : Bool) (subsystems : List Subsystem) : Loaded :=
  if ¬ lock then ⟨.fault, 0, [], none⟩
  else
    match startSubsystems subsystems 0 .fault with
    | (err, i, false) => ⟨err, i, cleanupSubsystems subsystems i, none⟩
    | (err, i, true) =>
        match completeSubsystems subsystems err with
        | (err, false) => ⟨err, i, cleanupSubsystems subsystems i, none⟩
        | (err, true) =>
            match buildSystemInfo malloc subsystems with
            | (.ok, systemInfo) => ⟨.ok, i, [], systemInfo⟩
            -- the variable still has the result of the last function called
            | (_, _) => ⟨err, i, cleanupSubsystems subsystems i, none⟩

def Loaded.Up (loaded : Loaded) (i : Nat) : Prop := i < loaded.started ∧ i ∉ loaded.shutDown

structure Truthful (subsystems : List Subsystem) (loaded : Loaded) : Prop where
  success : loaded.err = .ok ↔ (∀ i < subsystems.length, loaded.Up i) ∧ loaded.systemInfo.isSome
  failure : loaded.err ≠ .ok → ∀ i subsystem, subsystems[i]? = some subsystem →
    loaded.shutDown.count i = if i < loaded.started ∧ subsystem.shutdown then 1 else 0

def Subsystem.Starts (subsystem : Subsystem) : Prop :=
  ∀ result, subsystem.startup = some result → result = .ok

def Subsystem.Loads (subsystem : Subsystem) : Prop :=
  ∀ result, subsystem.loadComplete = some result → result = .ok

structure BuildFailsLast (lock malloc : Bool) (subsystems : List Subsystem) : Prop where
  lock : lock = true
  starts : ∀ subsystem ∈ subsystems, subsystem.Starts
  loads : ∀ subsystem ∈ subsystems, subsystem.Loads
  called : ∃ subsystem ∈ subsystems, subsystem.startup.isSome ∨ subsystem.loadComplete.isSome
  fails : malloc = false ∨ (fillSystemInfo subsystems .blank).1 ≠ .ok

variable {subsystems : List Subsystem}

theorem startSubsystems_through (i : Nat) (err : Errcode) (starts : ∀ subsystem ∈ subsystems, subsystem.Starts) :
    startSubsystems subsystems i err =
      (if ∃ subsystem ∈ subsystems, subsystem.startup.isSome then .ok else err,
        i + subsystems.length, true) := by
  induction subsystems generalizing i err with
  | nil => simp [startSubsystems]
  | cons subsystem subsystems ih =>
    have own := starts subsystem List.mem_cons_self
    have rest := ih (i + 1)
    cases found : subsystem.startup with
    | none =>
      simp only [startSubsystems, found]
      rw [rest err fun other member => starts other (List.mem_cons_of_mem _ member)]
      simp [found, Nat.add_assoc, Nat.add_comm 1]
    | some result =>
      obtain rfl := own result found
      simp only [startSubsystems, found]
      rw [if_neg (by simp), rest .ok fun other member => starts other (List.mem_cons_of_mem _ member)]
      simp [found, Nat.add_assoc, Nat.add_comm 1]

theorem startSubsystems_fails (i : Nat) (err : Errcode) (fails : ¬ ∀ subsystem ∈ subsystems, subsystem.Starts) :
    ∃ err' j, startSubsystems subsystems i err = (err', j, false) ∧ err' ≠ .ok ∧ j < i + subsystems.length := by
  induction subsystems generalizing i err with
  | nil => simp at fails
  | cons subsystem subsystems ih =>
    have later (own : subsystem.Starts) : ¬ ∀ other ∈ subsystems, other.Starts :=
      fun rest => fails (List.forall_mem_cons.mpr ⟨own, rest⟩)
    have length : (subsystem :: subsystems).length = subsystems.length + 1 := rfl
    cases found : subsystem.startup with
    | none =>
      have own : subsystem.Starts := by simp [Subsystem.Starts, found]
      obtain ⟨err', j, run, notOk, before⟩ := ih (i + 1) err (later own)
      exact ⟨err', j, by simpa only [startSubsystems, found] using run, notOk, by omega⟩
    | some result =>
      by_cases ok : result = .ok
      · have own : subsystem.Starts := by simp [Subsystem.Starts, found, ok]
        obtain ⟨err', j, run, notOk, before⟩ := ih (i + 1) result (later own)
        refine ⟨err', j, ?_, notOk, by omega⟩
        simp only [startSubsystems, found]
        rw [if_neg (by simp [ok]), run]
      · refine ⟨result, i, ?_, ok, by omega⟩
        simp only [startSubsystems, found]
        rw [if_pos ok]

theorem completeSubsystems_through (err : Errcode) (loads : ∀ subsystem ∈ subsystems, subsystem.Loads) :
    completeSubsystems subsystems err =
      (if ∃ subsystem ∈ subsystems, subsystem.loadComplete.isSome then .ok else err, true) := by
  induction subsystems generalizing err with
  | nil => simp [completeSubsystems]
  | cons subsystem subsystems ih =>
    have own := loads subsystem List.mem_cons_self
    have rest (err : Errcode) :=
      ih err fun other member => loads other (List.mem_cons_of_mem _ member)
    cases found : subsystem.loadComplete with
    | none => simp [completeSubsystems, found, rest err]
    | some result =>
      obtain rfl := own result found
      simp [completeSubsystems, found, rest .ok]

theorem completeSubsystems_fails (err : Errcode) (fails : ¬ ∀ subsystem ∈ subsystems, subsystem.Loads) :
    ∃ err', completeSubsystems subsystems err = (err', false) ∧ err' ≠ .ok := by
  induction subsystems generalizing err with
  | nil => simp at fails
  | cons subsystem subsystems ih =>
    have later (own : subsystem.Loads) : ¬ ∀ other ∈ subsystems, other.Loads :=
      fun rest => fails (List.forall_mem_cons.mpr ⟨own, rest⟩)
    cases found : subsystem.loadComplete with
    | none =>
      have own : subsystem.Loads := by simp [Subsystem.Loads, found]
      simpa only [completeSubsystems, found] using ih err (later own)
    | some result =>
      by_cases ok : result = .ok
      · have own : subsystem.Loads := by simp [Subsystem.Loads, found, ok]
        simpa [completeSubsystems, found, ok] using ih .ok (later own)
      · exact ⟨result, by simp [completeSubsystems, found, ok], ok⟩

theorem buildSystemInfo_cases (malloc : Bool) (subsystems : List Subsystem) :
    (malloc = true ∧ ∃ info, fillSystemInfo subsystems .blank = (.ok, info) ∧
        buildSystemInfo malloc subsystems = (.ok, some (info, info.newSize))) ∨
      ((malloc = false ∨ (fillSystemInfo subsystems .blank).1 ≠ .ok) ∧
        ∃ err, err ≠ .ok ∧ buildSystemInfo malloc subsystems = (err, none)) := by
  cases malloc with
  | false => exact .inr ⟨.inl rfl, .nomem, by decide, rfl⟩
  | true =>
    cases filled : fillSystemInfo subsystems .blank with
    | mk err info =>
      by_cases ok : err = .ok
      · subst ok
        left
        exact ⟨rfl, info, rfl, by simp [buildSystemInfo, filled]⟩
      · right
        refine ⟨.inr ok, err, ok, ?_⟩
        cases err <;> first | contradiction | simp [buildSystemInfo, filled]

theorem cleanupSubsystems_count {subsystem : Subsystem} {i : Nat}
    (found : subsystems[i]? = some subsystem) (started : Nat) :
    (cleanupSubsystems subsystems started).count i =
      if i < started ∧ subsystem.shutdown then 1 else 0 := by
  induction started with
  | zero => simp [cleanupSubsystems]
  | succ started ih =>
    have step : (cleanupSubsystems subsystems (started + 1)).count i =
        (if started = i ∧ subsystem.shutdown then 1 else 0) +
          (cleanupSubsystems subsystems started).count i := by
      by_cases own : started = i
      · subst own
        simp only [cleanupSubsystems, found]
        cases subsystem.shutdown <;> simp [Nat.add_comm]
      · simp only [cleanupSubsystems]
        cases subsystems[started]? with
        | none => simp [own]
        | some other => cases shutdown : other.shutdown <;> simp [shutdown, own]
    rw [step, ih]
    by_cases own : started = i
    · simp [own]
    · have same : i < started + 1 ↔ i < started := by omega
      simp [own, same]

theorem Truthful.of_failure {started : Nat} {err : Errcode} (notOk : err ≠ .ok) :
    Truthful subsystems ⟨err, started, cleanupSubsystems subsystems started, none⟩ where
  success := by simp [notOk]
  failure _ _ _ found := cleanupSubsystems_count found started

theorem truthful_iff (lock malloc : Bool) (subsystems : List Subsystem) :
    Truthful subsystems (initializeSubsystems lock malloc subsystems) ↔
      ¬ BuildFailsLast lock malloc subsystems := by
  cases lock with
  | false =>
    have truthful := @Truthful.of_failure subsystems 0 .fault (by decide)
    exact iff_of_true truthful fun hides => Bool.noConfusion hides.lock
  | true =>
    by_cases starts : ∀ subsystem ∈ subsystems, subsystem.Starts
    · have through := startSubsystems_through 0 .fault starts
      by_cases loads : ∀ subsystem ∈ subsystems, subsystem.Loads
      · have completed := @completeSubsystems_through subsystems
          (if ∃ subsystem ∈ subsystems, subsystem.startup.isSome then .ok else .fault) loads
        rcases buildSystemInfo_cases malloc subsystems with
          ⟨rfl, info, filled, built⟩ | ⟨fails, err, notOk, built⟩
        · have run : initializeSubsystems true true subsystems =
              ⟨.ok, 0 + subsystems.length, [], some (info, info.newSize)⟩ := by
            simp only [initializeSubsystems, through, completed, built]
            rfl
          rw [run]
          refine iff_of_true ⟨?_, ?_⟩ ?_
          · simp [Loaded.Up]
          · exact fun failed => absurd rfl failed
          · rintro ⟨-, -, -, -, noMemory | noFill⟩
            · exact Bool.noConfusion noMemory
            · exact noFill (by rw [filled])
        · -- both loops went through, so the variable has their last result
          have run : initializeSubsystems true malloc subsystems =
              ⟨if ∃ subsystem ∈ subsystems,
                  subsystem.startup.isSome ∨ subsystem.loadComplete.isSome then .ok else .fault,
                subsystems.length, cleanupSubsystems subsystems subsystems.length, none⟩ := by
            simp only [initializeSubsystems, through, completed, built]
            rw [Nat.zero_add]
            cases err <;> first | contradiction | skip
            all_goals
              simp only [not_true, if_false, Loaded.mk.injEq, and_true]
              simp only [and_or_left, exists_or]
              split <;> split <;> simp_all
          rw [run]
          by_cases called : ∃ subsystem ∈ subsystems, subsystem.startup.isSome ∨ subsystem.loadComplete.isSome
          · rw [if_pos called]
            refine iff_of_false ?_ fun hides => hides ⟨rfl, starts, loads, called, fails⟩
            intro truthful
            exact absurd (truthful.success.mp rfl).2 (by simp)
          · rw [if_neg called]
            exact iff_of_true (.of_failure (by decide)) fun hides => called hides.called
      · obtain ⟨err, completed, notOk⟩ := @completeSubsystems_fails subsystems
          (if ∃ subsystem ∈ subsystems, subsystem.startup.isSome then .ok else .fault) loads
        have run : initializeSubsystems true malloc subsystems =
            ⟨err, subsystems.length, cleanupSubsystems subsystems subsystems.length, none⟩ := by
          simp only [initializeSubsystems, through, completed]
          rw [Nat.zero_add]
          rfl
        rw [run]
        exact iff_of_true (.of_failure notOk) fun hides => loads hides.loads
    · obtain ⟨err, started, run, notOk, -⟩ := startSubsystems_fails 0 .fault starts
      have failed : initializeSubsystems true malloc subsystems =
          ⟨err, started, cleanupSubsystems subsystems started, none⟩ := by
        simp only [initializeSubsystems, run]
        rfl
      rw [failed]
      exact iff_of_true (.of_failure notOk) fun hides => starts hides.starts

/-- In the driver, whose array ends with the core subsystem, a failure to build the
system info is the one that is reported as success. -/
theorem initializeSubsystems_truthful_iff (lock malloc : Bool) (others : List Subsystem) (setup : CoreSetup) :
    Truthful (others ++ [coreSubsystem setup])
        (initializeSubsystems lock malloc (others ++ [coreSubsystem setup])) ↔
      ¬ (lock = true ∧ (∀ subsystem ∈ others, subsystem.Starts ∧ subsystem.Loads) ∧
        coreSetup setup = .ok ∧ (malloc = false ∨ (fillSystemInfo others .blank).1 ≠ .ok)) := by
  rw [truthful_iff, not_iff_not]
  have fillLast (others : List Subsystem) (info : SystemInfo) :
      (fillSystemInfo (others ++ [coreSubsystem setup]) info).1 = (fillSystemInfo others info).1 := by
    induction others generalizing info with
    | nil => rfl
    | cons subsystem others ih =>
      simp only [List.cons_append, fillSystemInfo]
      cases subsystem.systemInfoFill with
      | none => exact ih info
      | some fill =>
        by_cases ok : (fill info).1 = .ok
        · simp [ok, ih]
        · simp [ok]
  have coreStarts : (coreSubsystem setup).Starts ↔ coreSetup setup = .ok := by
    simp [Subsystem.Starts, coreSubsystem]
  constructor
  · rintro ⟨locked, starts, loads, -, fails⟩
    refine ⟨locked, fun subsystem member => ⟨?_, ?_⟩, ?_, ?_⟩
    · exact starts subsystem (List.mem_append_left _ member)
    · exact loads subsystem (List.mem_append_left _ member)
    · exact coreStarts.mp (starts _ (List.mem_append_right _ List.mem_cons_self))
    · rwa [fillLast] at fails
  · rintro ⟨locked, both, core, fails⟩
    refine ⟨locked, ?_, ?_, ?_, by rwa [fillLast]⟩
    · intro subsystem member
      rcases List.mem_append.mp member with other | last
      · exact (both subsystem other).1
      · exact List.mem_singleton.mp last ▸ coreStarts.mpr core
    · intro subsystem member
      rcases List.mem_append.mp member with other | last
      · exact (both subsystem other).2
      · rw [List.mem_singleton.mp last]
        simp [Subsystem.Loads, coreSubsystem]
    · exact ⟨coreSubsystem setup, List.mem_append_right _ List.mem_cons_self, .inl rfl⟩

/-- The driver loads without resources, and has no memory for the system info. -/
theorem initializeSubsystems_hides_nomem :
    let subsystems := [coreSubsystem ⟨.ok, .ok, ⟨none, fun _ => none⟩, []⟩]
    let loaded := initializeSubsystems true false subsystems
    loaded.err = .ok ∧ loaded.shutDown = [0] ∧ loaded.systemInfo = none ∧ ¬ Truthful subsystems loaded := by
  refine ⟨rfl, rfl, rfl, fun truthful => ?_⟩
  exact absurd (truthful.success.mp rfl).2 (by decide)

end Floid.Core
