import Floid.Lib.Transition
import Floid.Ump.Sessions

namespace Floid.Ump

open Osk Lib
open Option (ne_none_iff_exists' some.injEq)

structure UmpState where
  device : Device
  sessions : List Session
  kernelRefs : List Nat

inductive UmpAction where
  | open
  | allocate (request : AllocateRequest)
  | sizeGet (secureId : U32)
  | msync (secureId : U32)
  | mapMem (request : MapRequest)
  | unmapMem (cookie : U32)
  | release (secureId : U32)
  | close
  | handleCreate (secureId : U32)
  | handleCreatePhys (request : PhysBlocksRequest) (blocks : List PhysicalBlock)
  | referenceAdd (mem : Nat)
  | referenceRelease (mem : Nat)

inductive UmpStep : UmpState → UmpAction → UmpState → Prop where
  | opened {state} : UmpStep state .open { state with sessions := ukkOpen :: state.sessions }
  | allocated {state request early session late result after changed}
      (here : state.sessions = early ++ session :: late)
      (ran : ukkAllocate request session state.device = (result, after, changed)) :
      UmpStep state (.allocate request)
        { state with device := changed, sessions := early ++ after :: late }
  | sizeAnswered {state secureId answer} (ran : ukkSizeGet secureId state.device = some answer) :
      UmpStep state (.sizeGet secureId) state
  | synced {state secureId changed} (ran : ukkMsync secureId state.device = some changed) :
      UmpStep state (.msync secureId) { state with device := changed }
  | mapped {state request early session late result after changed}
      (here : state.sessions = early ++ session :: late)
      (ran : ukkMapMem request session state.device = some (result, after, changed)) :
      UmpStep state (.mapMem request)
        { state with device := changed, sessions := early ++ after :: late }
  | unmapped {state cookie early session late after changed}
      (here : state.sessions = early ++ session :: late)
      (ran : ukkUnmapMem cookie session state.device = some (after, changed)) :
      UmpStep state (.unmapMem cookie)
        { state with device := changed, sessions := early ++ after :: late }
  | released {state secureId early session late result after changed}
      (here : state.sessions = early ++ session :: late)
      (ran : ukkRelease secureId session state.device = some (result, after, changed)) :
      UmpStep state (.release secureId)
        { state with device := changed, sessions := early ++ after :: late }
  | closed {state early session late changed} (here : state.sessions = early ++ session :: late)
      (ran : ukkClose session state.device = some changed) :
      UmpStep state .close { state with device := changed, sessions := early ++ late }
  | handleCreated {state secureId handle changed}
      (ran : state.device.handleCreateFromSecureId secureId = some (handle, changed)) :
      UmpStep state (.handleCreate secureId)
        { state with device := changed, kernelRefs := handle.toList ++ state.kernelRefs }
  | physCreated {state request blocks handle changed}
      (ran : handleCreateFromPhysBlocks request blocks state.device = (handle, changed)) :
      UmpStep state (.handleCreatePhys request blocks)
        { state with device := changed, kernelRefs := handle.toList ++ state.kernelRefs }
  | referenceAdded {state mem changed} (held : mem ∈ state.kernelRefs)
      (ran : state.device.referenceAdd mem = some changed) :
      UmpStep state (.referenceAdd mem)
        { state with device := changed, kernelRefs := mem :: state.kernelRefs }
  | referenceReleased {state mem changed} (held : mem ∈ state.kernelRefs)
      (ran : state.device.referenceRelease mem = some changed) :
      UmpStep state (.referenceRelease mem)
        { state with device := changed, kernelRefs := state.kernelRefs.erase mem }

def umpSystem : TransitionSystem UmpState UmpAction where
  initial state := state = ⟨⟨.create 128 4096, fun _ => none, 0, []⟩, [], []⟩
  step := UmpStep

namespace UmpState

def references (state : UmpState) (mem : Nat) : Nat :=
  (state.sessions.flatMap Session.memoryList).count mem +
    (state.sessions.flatMap Session.mapped).count mem + state.kernelRefs.count mem

structure Sound (state : UmpState) : Prop where
  booked : ∀ session ∈ state.sessions, session.Booked
  counted : state.device.Counted (state.sessions.flatMap Session.refs ++ state.kernelRefs)

variable {state : UmpState}

theorem references_eq (state : UmpState) (mem : Nat) : state.references mem =
      (state.sessions.flatMap Session.refs ++ state.kernelRefs).count mem := by
  rw [references, List.count_append]
  refine congrArg (· + _) ?_
  induction state.sessions with
  | nil => rfl
  | cons session rest ih =>
    simp only [List.flatMap_cons, List.count_append, Session.refs] at ih ⊢
    omega

namespace Sound

variable {early late : List Session} {session after : Session} {changed : Device}

theorem kept (sound : state.Sound) (here : state.sessions = early ++ session :: late) :
    Kept session state.device ((early ++ late).flatMap Session.refs ++ state.kernelRefs) where
  booked := sound.booked session (by simp [here])
  counted := by
    refine sound.counted.perm ?_
    rw [here, ← List.append_assoc, List.flatMap_append, List.flatMap_cons, List.flatMap_append]
    exact (List.perm_append_comm_assoc _ _ _).append_right _

theorem replace (sound : state.Sound) (here : state.sessions = early ++ session :: late)
    (next : Kept after changed ((early ++ late).flatMap Session.refs ++ state.kernelRefs)) :
    ({ state with device := changed, sessions := early ++ after :: late } : UmpState).Sound where
  booked other member := by
    have inOld : other ∈ early ∨ other ∈ late → other ∈ state.sessions := by
      rw [here]
      rintro (inEarly | inLate)
      · exact List.mem_append_left _ inEarly
      · exact List.mem_append_right _ (List.mem_cons_of_mem _ inLate)
    rcases List.mem_append.mp member with inEarly | inRest
    · exact sound.booked other (inOld (.inl inEarly))
    · rcases List.mem_cons.mp inRest with rfl | inLate
      · exact next.booked
      · exact sound.booked other (inOld (.inr inLate))
  counted := by
    refine next.counted.perm ?_
    rw [← List.append_assoc, List.flatMap_append, List.flatMap_append, List.flatMap_cons]
    exact (List.perm_append_comm_assoc _ _ _).append_right _

theorem remove (sound : state.Sound) (here : state.sessions = early ++ session :: late)
    (next : changed.Counted ((early ++ late).flatMap Session.refs ++ state.kernelRefs)) :
    ({ state with device := changed, sessions := early ++ late } : UmpState).Sound where
  booked other member := by
    refine sound.booked other ?_
    rw [here]
    rcases List.mem_append.mp member with inEarly | inLate
    · exact List.mem_append_left _ inEarly
    · exact List.mem_append_right _ (List.mem_cons_of_mem _ inLate)
  counted := next

theorem handles (sound : state.Sound) {kernelRefs : List Nat}
    (next : changed.Counted (kernelRefs ++ state.sessions.flatMap Session.refs)) :
    ({ state with device := changed, kernelRefs } : UmpState).Sound where
  booked := sound.booked
  counted := next.perm List.perm_append_comm

theorem driversFirst (sound : state.Sound) :
    state.device.Counted (state.kernelRefs ++ state.sessions.flatMap Session.refs) :=
  sound.counted.perm List.perm_append_comm

end Sound

end UmpState

variable {refs : List Nat}

theorem Device.Counted.create_zero {device : Device}
    (counted : device.Counted refs) : device.handleCreateFromSecureId 0 = none := by
  unfold Device.handleCreateFromSecureId
  rw [counted.table.get_zero]

theorem Device.Counted.msync {device : Device} (counted : device.Counted refs) (secureId : U32) :
    ∃ changed, ukkMsync secureId device = some changed ∧ changed.Counted refs := by
  unfold ukkMsync
  cases found : (device.secureIdMap.get secureId).join with
  | none => exact ⟨device, rfl, counted⟩
  | some mem =>
    have alive : device.mems mem ≠ none := by
      by_cases reserved : secureId = 0
      · rw [reserved, counted.table.get_zero] at found
        cases found
      · rw [counted.table.get_eq reserved] at found
        cases live : device.secureIdMap.live secureId.toNat with
        | none =>
          rw [live] at found
          cases found
        | some other =>
          rw [live] at found
          obtain ⟨object, there, _⟩ := counted.known _ other live
          obtain rfl : other = mem := Option.some.inj found
          exact ne_none_iff_exists'.mpr ⟨object, there⟩
    obtain ⟨referenced, added, more⟩ := counted.add alive
    obtain ⟨released, gone, same⟩ := more.release
    refine ⟨released, ?_, same⟩
    dsimp only
    rw [added]
    exact gone

theorem Device.Counted.createPhys {device : Device}
    (counted : device.Counted refs) (request : PhysBlocksRequest) (blocks : List PhysicalBlock) :
    ∃ handle changed, handleCreateFromPhysBlocks request blocks device = (handle, changed) ∧
      changed.Counted (handle.toList ++ refs) := by
  unfold handleCreateFromPhysBlocks
  split
  · split
    · rcases counted.table.allocated device.nextMem request.tableAllocated with
        full | ⟨mapId, map, ran, new⟩
      · rw [full]
        exact ⟨_, _, rfl, counted⟩
      · rw [ran]
        dsimp only
        split
        · exact ⟨_, _, rfl, counted.addMem new rfl⟩
        · obtain ⟨wellFormed, live⟩ := new.free
          exact ⟨_, _, rfl, counted.remap wellFormed live⟩
    · exact ⟨_, _, rfl, counted⟩
  · exact ⟨_, _, rfl, counted⟩

namespace Kept

variable {session after : Session} {device changed : Device} {rest : List Nat} {result : Int}

theorem mapMem_any (kept : Kept session device rest) {request : MapRequest}
    (ran : ukkMapMem request session device = some (result, after, changed)) :
    Kept after changed rest := by
  by_cases reserved : request.secureId = 0
  · unfold ukkMapMem at ran
    rw [reserved, kept.counted.create_zero] at ran
    split at ran
    · cases ran
    · cases ran
      exact kept
  · obtain ⟨_, _, _, did, next⟩ := kept.mapMem request reserved
    rw [ran, some.injEq, Prod.mk.injEq, Prod.mk.injEq] at did
    obtain ⟨_, rfl, rfl⟩ := did
    exact next

theorem unmapMem_any (kept : Kept session device rest) {cookie : U32}
    (ran : ukkUnmapMem cookie session device = some (after, changed)) :
    Kept after changed rest := by
  by_cases reserved : cookie = 0
  · unfold ukkUnmapMem at ran
    rw [reserved, kept.booked.cookies.get_zero] at ran
    cases ran
  · obtain ⟨_, _, did, next⟩ := kept.unmapMem reserved
    rw [ran, some.injEq, Prod.mk.injEq] at did
    obtain ⟨rfl, rfl⟩ := did
    exact next

end Kept

namespace UmpState.Sound

variable {before after : UmpState} {action : UmpAction}

theorem step (sound : before.Sound) (stepped : UmpStep before action after) : after.Sound := by
  cases stepped with
  | opened =>
    refine ⟨fun session member => ?_, sound.counted⟩
    rcases List.mem_cons.mp member with rfl | old
    · exact ukkOpen_booked
    · exact sound.booked session old
  | @allocated request early session late result next changed here ran =>
    obtain ⟨_, _, _, did, kept⟩ := (sound.kept here).allocate request
    rw [ran, Prod.mk.injEq, Prod.mk.injEq] at did
    obtain ⟨_, rfl, rfl⟩ := did
    exact sound.replace here kept
  | sizeAnswered => exact sound
  | @synced secureId changed ran =>
    obtain ⟨_, did, counted⟩ := sound.counted.msync secureId
    rw [ran, some.injEq] at did
    subst did
    exact ⟨sound.booked, counted⟩
  | mapped here ran => exact sound.replace here ((sound.kept here).mapMem_any ran)
  | unmapped here ran => exact sound.replace here ((sound.kept here).unmapMem_any ran)
  | @released secureId early session late result next changed here ran =>
    obtain ⟨_, _, _, did, kept⟩ := (sound.kept here).release secureId
    rw [ran, some.injEq, Prod.mk.injEq, Prod.mk.injEq] at did
    obtain ⟨_, rfl, rfl⟩ := did
    exact sound.replace here kept
  | closed here ran =>
    obtain ⟨_, did, counted⟩ := (sound.kept here).close
    rw [ran, some.injEq] at did
    subst did
    exact sound.remove here counted
  | @handleCreated secureId handle changed ran =>
    by_cases reserved : secureId = 0
    · rw [reserved, sound.counted.create_zero] at ran
      cases ran
    · rcases sound.driversFirst.create reserved with unknown | ⟨mem, _, did, counted⟩
      · rw [unknown, some.injEq, Prod.mk.injEq] at ran
        obtain ⟨rfl, rfl⟩ := ran
        exact sound
      · rw [did, some.injEq, Prod.mk.injEq] at ran
        obtain ⟨rfl, rfl⟩ := ran
        exact sound.handles counted
  | @physCreated request blocks handle changed ran =>
    obtain ⟨_, _, did, counted⟩ := sound.driversFirst.createPhys request blocks
    rw [ran, Prod.mk.injEq] at did
    obtain ⟨rfl, rfl⟩ := did
    refine sound.handles ?_
    rw [List.append_assoc]
    exact counted
  | @referenceAdded mem changed held ran =>
    obtain ⟨_, did, counted⟩ :=
      sound.driversFirst.add (sound.driversFirst.alive mem (List.mem_append_left _ held))
    rw [ran, some.injEq] at did
    subst did
    exact sound.handles counted
  | @referenceReleased mem changed held ran =>
    have first := (List.perm_cons_erase held).append_right (before.sessions.flatMap Session.refs)
    obtain ⟨_, did, counted⟩ := (sound.driversFirst.perm first).release
    rw [ran, some.injEq] at did
    subst did
    exact sound.handles counted

theorem of_reachable {state : UmpState} (reached : umpSystem.Reachable state) : state.Sound := by
  refine reached.invariant (fun _ starts => ?_) fun _ _ _ sound stepped => sound.step stepped
  obtain rfl := starts
  refine ⟨nofun, DescriptorMapping.create_wellFormed (by omega) (by omega) (by omega), nofun, nofun,
    nofun, fun secureId mem live => ?_, fun _ _ => rfl, fun mem => ?_⟩
  · rw [DescriptorMapping.create_live] at live
    cases live
  · simp

end UmpState.Sound

def onePage : AllocateRequest :=
  ⟨0x1000#32, false, true, true, true, fun _ => some [⟨0x80000000#32, 0x1000#32⟩]⟩

def emptyDevice : Device := ⟨.create 128 4096, fun _ => none, 0, []⟩

def allocatedPage : Int × Session × Device := ukkAllocate onePage ukkOpen emptyDevice

def sharedPage : Option Nat × Device :=
  (allocatedPage.2.2.handleCreateFromSecureId 1#32).get rfl

def releasedPage : Int × Session × Device :=
  (ukkRelease 1#32 allocatedPage.2.1 sharedPage.2).get rfl

end Floid.Ump
