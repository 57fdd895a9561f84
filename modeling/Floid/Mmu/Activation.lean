import Floid.Lib.Transition
import Floid.Mmu.AddressManager
import Mathlib.Data.List.Sort

/-!
Activating page tables on the MMUs. An MMU has one active session, which any number
of activations may share, and those who find it busy leave a callback. When the last
activation is released the callbacks are called, after the lock has been given up.
-/

namespace Floid.Mmu

open Osk
open Function (update)

/-- `mali_kernel_memory_mmu_idle_callback`: a function and the argument to call it with. -/
structure IdleCallback where
  callback : U32
  argument : U32
  deriving DecidableEq, Repr

structure MmuUnit where
  usageCount : Nat
  activeSession : Option U32
  inPageFaultHandler : Bool
  /-- `MALI_MMU_DISALLOW_PARALLELL_WORK_OF_MALI_CORES` is set in the flags. -/
  disallowParallelWork : Bool
  callbacks : List IdleCallback
  /-- The session whose page directory the unit uses, `none` for the empty directory. -/
  dteAddr : Option U32

structure MmuUnits where
  unit : Nat → MmuUnit
  activeMmus : U32 → List Nat

namespace MmuUnits

def setUnit (units : MmuUnits) (id : Nat) (unit : MmuUnit) : MmuUnits :=
  { units with unit := update units.unit id unit }

def insertById (id : Nat) (list : List Nat) : List Nat := list.orderedInsert (· < ·) id

def registerCallback (units : MmuUnits) (id : Nat) (new : IdleCallback) (memory : Bool) : Errcode × MmuUnits :=
  let unit := units.unit id
  if unit.callbacks.any fun old => old.callback = new.callback then (.busy, units)
  else if memory then
    (.busy, units.setUnit id { unit with callbacks := unit.callbacks ++ [new] })
  else (.fault, units)

/-- `mali_memory_core_mmu_activate_page_table`. A NULL callback is `none`; `memory`
tells whether there is room for a callback object. -/
def activatePageTable (units : MmuUnits) (id : Nat) (session : U32) (callback : Option IdleCallback)
    (memory : Bool) : Errcode × MmuUnits :=
  let unit := units.unit id
  if unit.usageCount = 0 then
    let active := units.setUnit id
      { unit with activeSession := some session, usageCount := 1, dteAddr := some session }
    (.ok, { active with
      activeMmus := update units.activeMmus session
        (insertById id (units.activeMmus session)) })
  else if !unit.inPageFaultHandler && unit.activeSession = some session &&
      !unit.disallowParallelWork then
    -- two cores may run in parallel if they come from the same session
    (.ok, units.setUnit id { unit with usageCount := unit.usageCount + 1 })
  else
    match callback with
    | some new => units.registerCallback id new memory
    | none => (.fault, units)

/-- `mali_memory_core_mmu_release_address_space_reference` up to the point where the
lock is given up, with the callbacks to call if the unit is idle now. -/
def releaseAddressSpaceReference (units : MmuUnits) (id : Nat) : MmuUnits × Option (List IdleCallback) :=
  let unit := units.unit id
  let usageCount := decrement unit.usageCount
  if usageCount = 0 then
    let idle := units.setUnit id
      { unit with usageCount := 0, activeSession := none, callbacks := [], dteAddr := none }
    -- the unit goes off the list it is on
    ({ idle with activeMmus := fun session => (units.activeMmus session).erase id }, some unit.callbacks)
  else (units.setUnit id { unit with usageCount }, none)

end MmuUnits

/-- The callbacks of one time an MMU became idle: what had been answered BUSY until
then, those called already, and those still to be called. -/
structure IdleRound where
  waiting : List IdleCallback
  called : List IdleCallback
  left : List IdleCallback

/-- The MMUs, and for each of them the sessions of the activations not yet released
and the callbacks answered BUSY since it last became idle. -/
structure ActivationState where
  units : MmuUnits
  granted : Nat → List U32
  waiting : Nat → List IdleCallback
  rounds : List IdleRound

inductive ActivationAction where
  | activate (id : Nat) (session : U32) (callback : Option IdleCallback) (memory : Bool)
  | release (id : Nat)
  | call (next : IdleCallback)
  | pageFaultHandler (id : Nat) (inside : Bool)

namespace ActivationState

def answer (state : ActivationState) (id : Nat) (session : U32) (callback : Option IdleCallback)
    (memory : Bool) : ActivationState :=
  let (result, units) := state.units.activatePageTable id session callback memory
  { state with
    units
    granted :=
      if result = .ok then update state.granted id (session :: state.granted id)
      else state.granted
    waiting :=
      if result = .busy then
        update state.waiting id (state.waiting id ++ callback.toList)
      else state.waiting }

def giveBack (state : ActivationState) (id : Nat) (rest : List U32) : ActivationState :=
  let (units, idle) := state.units.releaseAddressSpaceReference id
  let granted := update state.granted id rest
  match idle with
  | some callbacks =>
      { units
        granted
        waiting := update state.waiting id []
        rounds := ⟨state.waiting id, [], callbacks⟩ :: state.rounds }
  | none => { state with units, granted }

end ActivationState

inductive ActivationStep : ActivationState → ActivationAction → ActivationState → Prop where
  | activated {state id session callback memory} :
      ActivationStep state (.activate id session callback memory)
        (state.answer id session callback memory)
  | released {state id before session after}
      (held : state.granted id = before ++ session :: after) :
      ActivationStep state (.release id) (state.giveBack id (before ++ after))
  | called {state before after waiting called next left}
      (pending : state.rounds = before ++ ⟨waiting, called, next :: left⟩ :: after) :
      ActivationStep state (.call next)
        { state with rounds := before ++ ⟨waiting, called ++ [next], left⟩ :: after }
  | pageFaultHandler {state id inside} :
      ActivationStep state (.pageFaultHandler id inside)
        { state with
          units := state.units.setUnit id
            { state.units.unit id with inPageFaultHandler := inside } }

def activationSystem : Lib.TransitionSystem ActivationState ActivationAction where
  initial state := state.rounds = [] ∧ (∀ session, state.units.activeMmus session = []) ∧
    ∀ id, state.granted id = [] ∧ state.waiting id = [] ∧
      (state.units.unit id).usageCount = 0 ∧ (state.units.unit id).activeSession = none ∧
      (state.units.unit id).callbacks = [] ∧ (state.units.unit id).dteAddr = none
  step := ActivationStep

structure Answered (waiting registered : List IdleCallback) : Prop where
  once : (registered.map IdleCallback.callback).Nodup
  first : ∀ new, new ∈ registered ↔ waiting.find? (fun other => other.callback = new.callback) = some new

structure ActivationState.Sound (state : ActivationState) : Prop where
  usageCount : ∀ id, (state.units.unit id).usageCount = (state.granted id).length
  activeSession : ∀ id, (state.units.unit id).activeSession = (state.granted id).head?
  shared : ∀ id, ∀ session ∈ state.granted id, (state.units.unit id).activeSession = some session
  directory : ∀ id, (state.units.unit id).dteAddr = (state.units.unit id).activeSession
  linked : ∀ id session, id ∈ state.units.activeMmus session ↔
    (state.units.unit id).activeSession = some session
  sorted : ∀ session, (state.units.activeMmus session).Pairwise (· < ·)
  answered : ∀ id, Answered (state.waiting id) (state.units.unit id).callbacks
  rounds : ∀ round ∈ state.rounds, Answered round.waiting (round.called ++ round.left)

variable {list : List Nat}

theorem insertById_sorted {id : Nat} (sorted : list.Pairwise (· < ·))
    (absent : id ∉ list) : (MmuUnits.insertById id list).Pairwise (· < ·) := by
  induction list with
  | nil => simp [MmuUnits.insertById]
  | cons first rest ih =>
    obtain ⟨above, restSorted⟩ := List.pairwise_cons.mp sorted
    rw [List.mem_cons, not_or] at absent
    rw [MmuUnits.insertById, List.orderedInsert_cons]
    split
    · rename_i less
      refine List.pairwise_cons.mpr ⟨fun other member => ?_, sorted⟩
      rcases List.mem_cons.mp member with rfl | later
      · exact less
      · exact less.trans (above other later)
    · rename_i notLess
      refine List.pairwise_cons.mpr ⟨fun other member => ?_, ih restSorted absent.2⟩
      rcases (List.mem_orderedInsert _).mp member with rfl | later
      · omega
      · exact above other later

theorem mem_insertById {id other : Nat} : other ∈ MmuUnits.insertById id list ↔ other = id ∨ other ∈ list :=
  List.mem_orderedInsert _

namespace Answered

variable {waiting registered : List IdleCallback} (answered : Answered waiting registered)

theorem nil : Answered [] [] := ⟨.nil, by simp⟩

include answered

variable {new : IdleCallback}

theorem append_known (known : registered.any (fun old => old.callback = new.callback) = true) :
    Answered (waiting ++ [new]) registered := by
  obtain ⟨old, member, same⟩ := List.any_eq_true.mp known
  rw [decide_eq_true_iff] at same
  refine ⟨answered.once, fun other => ?_⟩
  rw [answered.first, List.find?_append]
  cases found : waiting.find? (fun entry => entry.callback = other.callback) with
  | some entry => simp
  | none =>
    have different : new.callback ≠ other.callback := by
      intro equal
      have earlier := (answered.first old).mp member
      rw [same, equal, found] at earlier
      cases earlier
    simp [different]

theorem append_new (unknown : ¬registered.any (fun old => old.callback = new.callback) = true) :
    Answered (waiting ++ [new]) (registered ++ [new]) := by
  have fresh : ∀ old ∈ registered, old.callback ≠ new.callback := by
    intro old member same
    exact unknown (List.any_eq_true.mpr ⟨old, member, by simpa using same⟩)
  have missing : waiting.find? (fun entry => entry.callback = new.callback) = none := by
    cases found : waiting.find? (fun entry => entry.callback = new.callback) with
    | none => rfl
    | some entry =>
      have same := List.find?_some found
      rw [decide_eq_true_iff] at same
      rw [← same] at found
      exact absurd same (fresh entry ((answered.first entry).mpr found))
  refine ⟨?_, fun other => ?_⟩
  · rw [List.map_append, List.nodup_append]
    refine ⟨answered.once, by simp, fun callback member other inNew => ?_⟩
    obtain ⟨old, inOld, rfl⟩ := List.mem_map.mp member
    obtain rfl := List.mem_singleton.mp inNew
    exact fresh old inOld
  · rw [List.mem_append, List.mem_singleton, answered.first, List.find?_append]
    by_cases same : new.callback = other.callback
    · rw [← same, missing]
      simp [eq_comm]
    · have different : other ≠ new := fun equal => same (by rw [equal])
      cases waiting.find? (fun entry => entry.callback = other.callback) <;> simp [same, different]

end Answered

namespace ActivationState

variable {state : ActivationState} {id : Nat} {session : U32}

@[simp] theorem setUnit_same (units : MmuUnits) (id : Nat) (unit : MmuUnit) :
    (units.setUnit id unit).unit id = unit :=
  Function.update_self _ _ _

@[simp] theorem setUnit_other (units : MmuUnits) {other : Nat} (different : other ≠ id)
    (unit : MmuUnit) : (units.setUnit id unit).unit other = units.unit other :=
  Function.update_of_ne different _ _

@[simp] theorem setUnit_activeMmus (units : MmuUnits) (id : Nat) (unit : MmuUnit) :
    (units.setUnit id unit).activeMmus = units.activeMmus := rfl

theorem Sound.granted_nil (sound : state.Sound) :
    (state.units.unit id).usageCount = 0 ↔ state.granted id = [] := by
  rw [sound.usageCount]
  exact List.length_eq_zero_iff

theorem Sound.setUnit (sound : state.Sound) {unit : MmuUnit} {waiting : List IdleCallback}
    (usageCount : unit.usageCount = (state.units.unit id).usageCount)
    (activeSession : unit.activeSession = (state.units.unit id).activeSession)
    (directory : unit.dteAddr = (state.units.unit id).dteAddr)
    (answered : Answered waiting unit.callbacks) :
    Sound { state with
      units := state.units.setUnit id unit
      waiting := update state.waiting id waiting } := by
  have same (other : Nat) : ((state.units.setUnit id unit).unit other).usageCount =
        (state.units.unit other).usageCount ∧
      ((state.units.setUnit id unit).unit other).activeSession = (state.units.unit other).activeSession ∧
      ((state.units.setUnit id unit).unit other).dteAddr = (state.units.unit other).dteAddr := by
    by_cases equal : other = id
    · rw [equal, setUnit_same]
      exact ⟨usageCount, activeSession, directory⟩
    · rw [setUnit_other _ equal]
      exact ⟨rfl, rfl, rfl⟩
  refine ⟨fun other => ?_, fun other => ?_, fun other session member => ?_, fun other => ?_,
    fun other session => ?_, sound.sorted, fun other => ?_, sound.rounds⟩
  · exact (same other).1.trans (sound.usageCount other)
  · exact (same other).2.1.trans (sound.activeSession other)
  · exact (same other).2.1.trans (sound.shared other session member)
  · exact (same other).2.2.trans ((sound.directory other).trans (same other).2.1.symm)
  · exact (sound.linked other session).trans (by rw [(same other).2.1])
  · by_cases equal : other = id
    · rw [equal]
      simpa using answered
    · simpa [equal] using sound.answered other

theorem Sound.activateIdle (sound : state.Sound) (idle : (state.units.unit id).usageCount = 0)
    (callback : Option IdleCallback) (memory : Bool) :
    (state.answer id session callback memory).Sound := by
  have nothing := sound.granted_nil.mp idle
  have inactive : (state.units.unit id).activeSession = none := by
    rw [sound.activeSession, nothing]
    rfl
  have unlisted (other : U32) : id ∉ state.units.activeMmus other := by
    rw [sound.linked, inactive]
    simp
  simp only [answer, MmuUnits.activatePageTable, idle, if_true]
  refine ⟨fun other => ?_, fun other => ?_, fun other => ?_, fun other => ?_,
    fun other owner => ?_, fun owner => ?_, fun other => ?_, sound.rounds⟩
  · by_cases equal : other = id
    · subst equal
      simp [nothing]
    · simpa [equal] using sound.usageCount other
  · by_cases equal : other = id
    · subst equal
      simp
    · simpa [equal] using sound.activeSession other
  · by_cases equal : other = id
    · subst equal
      simp [nothing]
    · simpa [equal] using sound.shared other
  · by_cases equal : other = id
    · subst equal
      simp
    · simpa [equal] using sound.directory other
  · by_cases equal : other = id
    · subst equal
      by_cases owned : owner = session
      · simp [owned, mem_insertById]
      · simp [owned, unlisted owner, Ne.symm owned]
    · by_cases owned : owner = session
      · subst owned
        simpa [equal, mem_insertById] using sound.linked other owner
      · simpa [equal, owned] using sound.linked other owner
  · by_cases owned : owner = session
    · subst owned
      simpa using insertById_sorted (sound.sorted owner) (unlisted owner)
    · simpa [owned] using sound.sorted owner
  · by_cases equal : other = id
    · subst equal
      simpa using sound.answered other
    · simpa [equal] using sound.answered other

theorem Sound.activateShared (sound : state.Sound) (active : (state.units.unit id).activeSession = some session) :
    Sound { state with
      units := state.units.setUnit id
        { state.units.unit id with usageCount := (state.units.unit id).usageCount + 1 }
      granted := update state.granted id (session :: state.granted id) } := by
  refine ⟨fun other => ?_, fun other => ?_, fun other => ?_, fun other => ?_,
    fun other owner => ?_, sound.sorted, fun other => ?_, sound.rounds⟩
  · by_cases equal : other = id
    · subst equal
      simp [sound.usageCount]
    · simpa [equal] using sound.usageCount other
  · by_cases equal : other = id
    · subst equal
      simpa using active
    · simpa [equal] using sound.activeSession other
  · by_cases equal : other = id
    · subst equal
      simpa [active] using sound.shared other
    · simpa [equal] using sound.shared other
  · by_cases equal : other = id
    · subst equal
      simpa using sound.directory other
    · simpa [equal] using sound.directory other
  · by_cases equal : other = id
    · subst equal
      simpa using sound.linked other owner
    · simpa [equal] using sound.linked other owner
  · by_cases equal : other = id
    · subst equal
      simpa using sound.answered other
    · simpa [equal] using sound.answered other

theorem Sound.registerCallback (sound : state.Sound) (new : IdleCallback) (memory : Bool) :
    let answer := state.units.registerCallback id new memory
    Sound { state with
      units := answer.2
      waiting :=
        if answer.1 = .busy then update state.waiting id (state.waiting id ++ [new])
        else state.waiting } := by
  have answered := sound.answered id
  unfold MmuUnits.registerCallback
  dsimp only
  split
  · rename_i known
    have next := @Sound.setUnit _ id sound (state.units.unit id) _ rfl rfl rfl
      (answered.append_known known)
    rw [if_pos rfl]
    rwa [show state.units.setUnit id (state.units.unit id) = state.units by
      simp [MmuUnits.setUnit]] at next
  · rename_i unknown
    split
    · exact sound.setUnit rfl rfl rfl (answered.append_new unknown)
    · simpa using sound

theorem Sound.answer (sound : state.Sound) (callback : Option IdleCallback) (memory : Bool) :
    (state.answer id session callback memory).Sound := by
  by_cases idle : (state.units.unit id).usageCount = 0
  · exact sound.activateIdle idle callback memory
  · by_cases joins : (!(state.units.unit id).inPageFaultHandler &&
        (state.units.unit id).activeSession = some session &&
        !(state.units.unit id).disallowParallelWork) = true
    · have active : (state.units.unit id).activeSession = some session := by
        simp only [Bool.and_eq_true, decide_eq_true_eq] at joins
        exact joins.1.2
      simpa [ActivationState.answer, MmuUnits.activatePageTable, idle, joins] using
        sound.activateShared active
    · cases callback with
      | none => simpa [ActivationState.answer, MmuUnits.activatePageTable, idle, joins] using sound
      | some new =>
        have next := @Sound.registerCallback _ id sound new memory
        have notOk : (state.units.registerCallback id new memory).1 ≠ .ok := by
          unfold MmuUnits.registerCallback
          dsimp only
          split
          · simp
          · split <;> simp
        simpa [ActivationState.answer, MmuUnits.activatePageTable, idle, joins, notOk] using next

theorem Sound.giveBackLast (sound : state.Sound) (held : state.granted id = [session]) :
    (state.giveBack id []).Sound := by
  have active : (state.units.unit id).activeSession = some session := by
    rw [sound.activeSession, held]
    rfl
  have last : decrement (state.units.unit id).usageCount = 0 := by
    rw [sound.usageCount, held]
    rfl
  simp only [giveBack, MmuUnits.releaseAddressSpaceReference, last, if_true]
  refine ⟨fun other => ?_, fun other => ?_, fun other => ?_, fun other => ?_,
    fun other owner => ?_, fun owner => (sound.sorted owner).sublist List.erase_sublist,
    fun other => ?_, fun round member => ?_⟩
  · by_cases equal : other = id
    · subst equal
      simp
    · simpa [equal] using sound.usageCount other
  · by_cases equal : other = id
    · subst equal
      simp
    · simpa [equal] using sound.activeSession other
  · by_cases equal : other = id
    · subst equal
      simp
    · simpa [equal] using sound.shared other
  · by_cases equal : other = id
    · subst equal
      simp
    · simpa [equal] using sound.directory other
  · have nodup : (state.units.activeMmus owner).Nodup :=
      (sound.sorted owner).imp fun less => Nat.ne_of_lt less
    have linked := sound.linked other owner
    by_cases equal : other = id
    · subst equal
      simpa using fun member => (nodup.mem_erase_iff.mp member).1 rfl
    · simpa [equal, nodup.mem_erase_iff] using linked
  · by_cases equal : other = id
    · subst equal
      simpa using Answered.nil
    · simpa [equal] using sound.answered other
  · rcases List.mem_cons.mp member with rfl | old
    · exact sound.answered id
    · exact sound.rounds round old

theorem Sound.giveBackShared (sound : state.Sound) {before after : List U32}
    (held : state.granted id = before ++ session :: after) (more : before ++ after ≠ []) :
    (state.giveBack id (before ++ after)).Sound := by
  have count : decrement (state.units.unit id).usageCount = (before ++ after).length := by
    rw [sound.usageCount, held, decrement]
    simp
  have positive : decrement (state.units.unit id).usageCount ≠ 0 := by
    rw [count]
    exact fun zero => more (List.length_eq_zero_iff.mp zero)
  have kept (other : U32) (member : other ∈ before ++ after) :
      (state.units.unit id).activeSession = some other := by
    refine sound.shared id other ?_
    rw [held]
    rcases List.mem_append.mp member with early | late
    · exact List.mem_append_left _ early
    · exact List.mem_append_right _ (List.mem_cons_of_mem _ late)
  simp only [giveBack, MmuUnits.releaseAddressSpaceReference, positive, if_false]
  refine ⟨fun other => ?_, fun other => ?_, fun other => ?_, fun other => ?_,
    fun other owner => ?_, sound.sorted, fun other => ?_, sound.rounds⟩
  · by_cases equal : other = id
    · subst equal
      simpa using count
    · simpa [equal] using sound.usageCount other
  · by_cases equal : other = id
    · subst equal
      obtain ⟨first, rest, split⟩ := List.exists_cons_of_ne_nil more
      simpa [split] using kept first (by simp [split])
    · simpa [equal] using sound.activeSession other
  · by_cases equal : other = id
    · subst equal
      simpa using fun owner member => kept owner (List.mem_append.mpr member)
    · simpa [equal] using sound.shared other
  · by_cases equal : other = id
    · subst equal
      simpa using sound.directory other
    · simpa [equal] using sound.directory other
  · by_cases equal : other = id
    · subst equal
      simpa using sound.linked other owner
    · simpa [equal] using sound.linked other owner
  · by_cases equal : other = id
    · subst equal
      simpa using sound.answered other
    · simpa [equal] using sound.answered other

theorem Sound.initial (starts : activationSystem.initial state) : state.Sound := by
  obtain ⟨noRounds, unlisted, idle⟩ := starts
  refine ⟨fun id => ?_, fun id => ?_, fun id => ?_, fun id => ?_, fun id owner => ?_,
    fun owner => ?_, fun id => ?_, ?_⟩
  · rw [(idle id).2.2.1, (idle id).1]
    rfl
  · rw [(idle id).2.2.2.1, (idle id).1]
    rfl
  · simp [(idle id).1]
  · rw [(idle id).2.2.2.1, (idle id).2.2.2.2.2]
  · simp [unlisted owner, (idle id).2.2.2.1]
  · simp [unlisted owner]
  · rw [(idle id).2.1, (idle id).2.2.2.2.1]
    exact .nil
  · simp [noRounds]

theorem Sound.step {after : ActivationState} {action : ActivationAction} (sound : state.Sound)
    (stepped : ActivationStep state action after) : after.Sound := by
  cases stepped with
  | activated => exact sound.answer _ _
  | @released id before session rest held =>
    by_cases last : before ++ rest = []
    · obtain ⟨rfl, rfl⟩ := List.append_eq_nil_iff.mp last
      exact sound.giveBackLast held
    · exact sound.giveBackShared held last
  | @called before rest waiting called next left pending =>
    refine { sound with rounds := fun round member => ?_ }
    have due := sound.rounds ⟨waiting, called, next :: left⟩ (by simp [pending])
    rcases List.mem_append.mp member with early | late
    · exact sound.rounds round (by simp [pending, early])
    · rcases List.mem_cons.mp late with rfl | later
      · simpa using due
      · exact sound.rounds round (by simp [pending, later])
  | @pageFaultHandler id inside =>
    have next := @Sound.setUnit state id sound
      { state.units.unit id with inPageFaultHandler := inside } (state.waiting id) rfl rfl rfl
      (sound.answered id)
    rwa [Function.update_eq_self] at next

end ActivationState

/-- In every run the usage counts, the active sessions and the lists of active MMUs are
right, and every function answered BUSY is called exactly once for each time the MMU
becomes idle, with the argument it was first registered with. -/
theorem activation_keepsWaiters {state : ActivationState}
    (reached : activationSystem.Reachable state) : state.Sound :=
  reached.invariant (fun _ starts => .initial starts) fun _ _ _ sound stepped => sound.step stepped

def idleMmus : ActivationState where
  units := ⟨fun _ => ⟨0, none, false, false, [], none⟩, fun _ => []⟩
  granted _ := []
  waiting _ := []
  rounds := []

theorem idleMmus_initial : activationSystem.initial idleMmus :=
  ⟨rfl, fun _ => rfl, fun _ => ⟨rfl, rfl, rfl, rfl, rfl, rfl⟩⟩

def scheduleFirst : IdleCallback := ⟨1#32, 10#32⟩

def scheduleSecond : IdleCallback := ⟨1#32, 20#32⟩

def busyMmu : ActivationState :=
  ((idleMmus.answer 0 1#32 none true).answer 0 2#32 (some scheduleFirst) true).answer 0 2#32
    (some scheduleSecond) true

theorem busyMmu_reachable : activationSystem.Reachable busyMmu := by
  have active : activationSystem.Reachable (idleMmus.answer 0 1#32 none true) :=
    Lib.TransitionSystem.Reachable.next (.activate 0 1#32 none true) (.initial idleMmus_initial)
      .activated
  have first : activationSystem.Reachable
      ((idleMmus.answer 0 1#32 none true).answer 0 2#32 (some scheduleFirst) true) :=
    active.next (.activate 0 2#32 (some scheduleFirst) true) .activated
  exact first.next (.activate 0 2#32 (some scheduleSecond) true) .activated

theorem activation_keepsWaiters_released : ∃ state : ActivationState, state.granted 0 = [] ∧
      state.rounds = [⟨[scheduleFirst, scheduleSecond], [], [scheduleFirst]⟩] ∧ state.Sound :=
  ⟨busyMmu.giveBack 0 [], rfl, rfl, activation_keepsWaiters
    (busyMmu_reachable.next (.release 0) (@ActivationStep.released busyMmu 0 [] 1#32 [] rfl))⟩

/-- The second subsystem was answered BUSY too, and is not called when the MMU becomes
idle: its function is the one of the first, and only the argument is another. -/
theorem activation_drops_waiter : ∃ state, activationSystem.Reachable state ∧ ∃ round ∈ state.rounds,
      round.left = [] ∧ scheduleSecond ∈ round.waiting ∧ round.called.count scheduleSecond = 0 := by
  have idle : activationSystem.Reachable (busyMmu.giveBack 0 []) :=
    busyMmu_reachable.next (.release 0) (@ActivationStep.released busyMmu 0 [] 1#32 [] rfl)
  have called : ActivationStep (busyMmu.giveBack 0 []) (.call scheduleFirst)
      { busyMmu.giveBack 0 [] with rounds := [⟨[scheduleFirst, scheduleSecond], [scheduleFirst], []⟩] } :=
    @ActivationStep.called (busyMmu.giveBack 0 []) [] [] [scheduleFirst, scheduleSecond] []
      scheduleFirst [] rfl
  exact ⟨_, idle.next _ called, _, List.mem_singleton.mpr rfl, rfl, by decide, by decide⟩

end Floid.Mmu
