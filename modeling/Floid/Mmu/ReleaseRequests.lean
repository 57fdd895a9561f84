import Floid.Descriptors.Run
import Floid.Lib.Transition

namespace Floid.Mmu

open Osk Descriptors Lib
open Function (update update_of_ne update_self)

/-- `_mali_ukk_unmap_external_mem` and `_mali_ukk_release_ump_mem`. Both take the
same steps in the same order. -/
inductive ReleaseCall where
  | unmapExternalMem
  | releaseUmpMem

inductive Request where
  | idle
  | lookedUp (cookie : Int) (descriptor : Target) (serial : Option Nat)
  | freed (descriptor : Target) (serial : Option Nat)

structure MappingSession where
  descriptorMapping : DescriptorMapping
  requests : Nat → Request
  live : PartialMap
  inMemory : Target → Option Nat
  registrations : Nat
  /-- What `mali_allocation_engine_release_memory` was called with, latest first. -/
  released : List (Option Nat)

namespace MappingSession

def lookUp (session : MappingSession) (request : Nat) (cookie : Int) : Errcode × MappingSession :=
  match get session.descriptorMapping cookie with
  | (.ok, descriptor) =>
      (.ok, { session with
        requests := update session.requests request
          (.lookedUp cookie descriptor (session.inMemory descriptor)) })
  | _ => (.fault, session)

def giveUp (session : MappingSession) (request : Nat) (cookie : Int) (descriptor : Target)
    (serial : Option Nat) : MappingSession :=
  { session with
    descriptorMapping := free session.descriptorMapping cookie
    live := session.live.update cookie none
    requests := update session.requests request (.freed descriptor serial) }

def release (session : MappingSession) (request : Nat) (descriptor : Target) (serial : Option Nat) : MappingSession :=
  { session with
    released := serial :: session.released
    inMemory := update session.inMemory descriptor none
    requests := update session.requests request .idle }

def register (session : MappingSession) (cookie : Int) (descriptor : Target)
    (descriptorMapping : DescriptorMapping) : MappingSession :=
  { session with
    descriptorMapping
    live := session.live.update cookie (some descriptor)
    inMemory := update session.inMemory descriptor (some session.registrations)
    registrations := session.registrations + 1 }

end MappingSession

inductive MappingAction where
  | register (descriptor : Target) (heap : Option Words)
  | lookUp (request : Nat) (call : ReleaseCall) (cookie : Int)
  | giveUp (request : Nat)
  | release (request : Nat)

inductive MappingStep (session : MappingSession) : MappingAction → MappingSession → Prop where
  | registered {descriptor heap cookie after} (unused : session.inMemory descriptor = none)
      (ran : allocateMapping session.descriptorMapping descriptor heap = (some cookie, after)) :
      MappingStep session (.register descriptor heap) (session.register cookie descriptor after)
  | unmapped {descriptor heap cookie after}
      (ran : allocateMapping session.descriptorMapping descriptor heap = (some cookie, after)) :
      MappingStep session (.register descriptor heap)
        { session with descriptorMapping := free after cookie }
  | full {descriptor heap after}
      (ran : allocateMapping session.descriptorMapping descriptor heap = (none, after)) :
      MappingStep session (.register descriptor heap) { session with descriptorMapping := after }
  | lookedUp {request call cookie} (idle : session.requests request = .idle) :
      MappingStep session (.lookUp request call cookie) (session.lookUp request cookie).2
  | gaveUp {request cookie descriptor serial}
      (found : session.requests request = .lookedUp cookie descriptor serial) :
      MappingStep session (.giveUp request) (session.giveUp request cookie descriptor serial)
  | released {request descriptor serial}
      (found : session.requests request = .freed descriptor serial) :
      MappingStep session (.release request) (session.release request descriptor serial)

def mappingSystem : Lib.TransitionSystem MappingSession MappingAction where
  initial session := session.requests = (fun _ => .idle) ∧ session.live = PartialMap.empty ∧
    session.inMemory = (fun _ => none) ∧ session.registrations = 0 ∧ session.released = [] ∧
    ∃ heap, create 64 65536 true (some heap) true = some session.descriptorMapping
  step := MappingStep

def MappingSession.Alone (session : MappingSession) (cookie : Int) : Prop :=
  ∀ request descriptor serial, session.requests request ≠ .lookedUp cookie descriptor serial

/-- No request names the reserved cookie or one that another request is about to give
up, and a descriptor table that has to grow can be allocated. -/
def Undisturbed (session : MappingSession) : MappingAction → Prop
  | .register descriptor heap =>
      Admissible session.descriptorMapping (.allocateMapping descriptor heap)
  | .lookUp _ _ cookie => cookie ≠ 0 ∧ session.Alone cookie
  | .giveUp _ | .release _ => True

theorem request_before {requests : Nat → Request} {request other : Nat} {given state : Request}
    (now : update requests request given other = state) (different : state ≠ given) :
    other ≠ request ∧ requests other = state := by
  by_cases same : other = request
  · exact absurd (by simpa [same] using now.symm) different
  · exact ⟨same, by simpa [same] using now⟩

namespace MappingSession

variable {session : MappingSession}

structure Sound (session : MappingSession) : Prop where
  represents : Represents session.descriptorMapping session.live
  owned : ∀ cookie descriptor, session.live cookie = some descriptor →
    ∃ serial, session.inMemory descriptor = some serial
  distinct : ∀ left right descriptor, session.live left = some descriptor →
    session.live right = some descriptor → left = right
  lookedUp : ∀ request cookie descriptor serial,
    session.requests request = .lookedUp cookie descriptor serial →
      session.live cookie = some descriptor ∧ serial = session.inMemory descriptor
  alone : ∀ left right cookie descriptor other serial number,
    session.requests left = .lookedUp cookie descriptor serial →
    session.requests right = .lookedUp cookie other number → left = right
  freed : ∀ request descriptor serial, session.requests request = .freed descriptor serial →
    serial = session.inMemory descriptor ∧ serial ≠ none ∧ ∀ cookie, session.live cookie ≠ some descriptor
  freedOnce : ∀ left right descriptor serial number, session.requests left = .freed descriptor serial →
    session.requests right = .freed descriptor number → left = right
  inMemory : ∀ descriptor serial, session.inMemory descriptor = some serial →
    serial < session.registrations ∧ some serial ∉ session.released
  serials : ∀ left right serial, session.inMemory left = some serial →
    session.inMemory right = some serial → left = right
  released : ∀ serial, some serial ∈ session.released → serial < session.registrations
  genuine : none ∉ session.released
  once : session.released.Nodup

theorem sound_initial (starts : mappingSystem.initial session) : session.Sound := by
  obtain ⟨requests, live, inMemory, registrations, released, heap, created⟩ := starts
  have represents := create_represents created (by decide) (by decide) (by decide)
  constructor <;> simp_all [PartialMap.empty]

theorem live_zero (sound : session.Sound) : session.live 0 = none := by
  by_contra present
  obtain ⟨number, same, positive, _⟩ := sound.represents.inside 0 present
  omega

variable {cookie : Int} {descriptor : Target} {request : Nat}

theorem lookUp_absent (sound : session.Sound) (unreserved : cookie ≠ 0)
    (absent : session.live cookie = none) (request : Nat) :
    session.lookUp request cookie = (.fault, session) := by
  simp only [lookUp, sound.represents.get_eq unreserved, absent]

theorem lookUp_live (sound : session.Sound) (unreserved : cookie ≠ 0)
    (live : session.live cookie = some descriptor) (request : Nat) :
    session.lookUp request cookie =
      (.ok, { session with
        requests := update session.requests request
          (.lookedUp cookie descriptor (session.inMemory descriptor)) }) := by
  simp only [lookUp, sound.represents.get_eq unreserved, live]

theorem Sound.lookUp (sound : session.Sound) (unreserved : cookie ≠ 0) (alone : session.Alone cookie) :
    (session.lookUp request cookie).2.Sound := by
  cases live : session.live cookie with
  | none =>
    rw [lookUp_absent sound unreserved live]
    exact sound
  | some descriptor =>
    rw [lookUp_live sound unreserved live]
    refine { sound with lookedUp := ?_, alone := ?_, freed := ?_, freedOnce := ?_ }
    · intro other found target serial looked
      by_cases same : other = request
      · simp only [same, update_self, Request.lookedUp.injEq] at looked
        obtain ⟨rfl, rfl, rfl⟩ := looked
        exact ⟨live, rfl⟩
      · simp only [update_of_ne same] at looked
        exact sound.lookedUp other found target serial looked
    · intro left right found target other serial number leftLooked rightLooked
      by_cases leftSame : left = request <;> by_cases rightSame : right = request
      · exact leftSame.trans rightSame.symm
      · simp only [leftSame, update_self, Request.lookedUp.injEq] at leftLooked
        simp only [update_of_ne rightSame] at rightLooked
        exact absurd rightLooked (leftLooked.1 ▸ alone right other number)
      · simp only [rightSame, update_self, Request.lookedUp.injEq] at rightLooked
        simp only [update_of_ne leftSame] at leftLooked
        exact absurd leftLooked (rightLooked.1 ▸ alone left target serial)
      · simp only [update_of_ne leftSame] at leftLooked
        simp only [update_of_ne rightSame] at rightLooked
        exact sound.alone left right found target other serial number leftLooked rightLooked
    · intro other target serial found
      exact sound.freed other target serial (request_before found (by simp)).2
    · intro left right target serial number leftFreed rightFreed
      exact sound.freedOnce left right target serial number
        (request_before leftFreed (by simp)).2 (request_before rightFreed (by simp)).2

theorem Sound.giveUp (sound : session.Sound)
    {serial : Option Nat} (found : session.requests request = .lookedUp cookie descriptor serial) :
    (session.giveUp request cookie descriptor serial).Sound := by
  obtain ⟨live, current⟩ := sound.lookedUp request cookie descriptor serial found
  have unreserved : cookie ≠ 0 := by
    rintro rfl
    rw [live_zero sound] at live
    contradiction
  have gone (other : Int) (target : Target) :
      session.live.update cookie none other = some target ↔
        other ≠ cookie ∧ session.live other = some target := by
    by_cases same : other = cookie
    · simp [same]
    · simp [PartialMap.update_other _ _ same, same]
  refine { sound with represents := ?_, owned := ?_, distinct := ?_, lookedUp := ?_, alone := ?_,
                      freed := ?_, freedOnce := ?_ }
  · have admissible : Admissible session.descriptorMapping (.free cookie) := unreserved
    obtain ⟨next, stepped, represents⟩ := perform_step sound.represents admissible
    cases stepped
    exact represents
  · intro other target isLive
    exact sound.owned other target ((gone other target).mp isLive).2
  · intro left right target leftLive rightLive
    exact sound.distinct left right target ((gone left target).mp leftLive).2
      ((gone right target).mp rightLive).2
  · intro other key target number looked
    obtain ⟨different, before⟩ := request_before looked (by simp)
    obtain ⟨isLive, stored⟩ := sound.lookedUp other key target number before
    refine ⟨(gone key target).mpr ⟨?_, isLive⟩, stored⟩
    rintro rfl
    exact different (sound.alone other request key target descriptor number serial before found)
  · intro left right key target other number size leftLooked rightLooked
    exact sound.alone left right key target other number size
      (request_before leftLooked (by simp)).2 (request_before rightLooked (by simp)).2
  · intro other target number isFreed
    by_cases same : other = request
    · simp only [MappingSession.giveUp, same, update_self, Request.freed.injEq] at isFreed
      obtain ⟨rfl, rfl⟩ := isFreed
      obtain ⟨registered, stored⟩ := sound.owned cookie descriptor live
      refine ⟨current, by simp [current, stored], fun key isLive => ?_⟩
      obtain ⟨different, before⟩ := (gone key descriptor).mp isLive
      exact different (sound.distinct key cookie descriptor before live)
    · simp only [MappingSession.giveUp, update_of_ne same] at isFreed
      obtain ⟨stored, isSome, absent⟩ := sound.freed other target number isFreed
      exact ⟨stored, isSome, fun key isLive => absent key ((gone key target).mp isLive).2⟩
  · intro left right target number size leftFreed rightFreed
    have fresh (other : Nat) (value : Option Nat) :
        session.requests other ≠ .freed descriptor value := fun isFreed =>
      (sound.freed other descriptor value isFreed).2.2 cookie live
    by_cases leftSame : left = request <;> by_cases rightSame : right = request
    · exact leftSame.trans rightSame.symm
    · simp only [MappingSession.giveUp, leftSame, update_self, Request.freed.injEq] at leftFreed
      simp only [MappingSession.giveUp, update_of_ne rightSame] at rightFreed
      exact absurd (leftFreed.1 ▸ rightFreed) (fresh right size)
    · simp only [MappingSession.giveUp, rightSame, update_self, Request.freed.injEq] at rightFreed
      simp only [MappingSession.giveUp, update_of_ne leftSame] at leftFreed
      exact absurd (rightFreed.1 ▸ leftFreed) (fresh left number)
    · simp only [MappingSession.giveUp, update_of_ne leftSame] at leftFreed
      simp only [MappingSession.giveUp, update_of_ne rightSame] at rightFreed
      exact sound.freedOnce left right target number size leftFreed rightFreed

theorem Sound.release (sound : session.Sound) {request : Nat} {descriptor : Target}
    {serial : Option Nat} (found : session.requests request = .freed descriptor serial) :
    (session.release request descriptor serial).Sound := by
  obtain ⟨current, isSome, absent⟩ := sound.freed request descriptor serial found
  obtain ⟨number, rfl⟩ := Option.ne_none_iff_exists'.mp isSome
  obtain ⟨bounded, unreleased⟩ := sound.inMemory descriptor number current.symm
  have kept (target : Target) (value : Nat) :
      update session.inMemory descriptor none target = some value ↔
        target ≠ descriptor ∧ session.inMemory target = some value := by
    by_cases same : target = descriptor
    · simp [same]
    · simp [same]
  have others (target : Target) (different : target ≠ descriptor) :
      update session.inMemory descriptor none target = session.inMemory target :=
    update_of_ne different _ _
  refine { represents := sound.represents, owned := ?_, distinct := sound.distinct, lookedUp := ?_,
           alone := ?_, freed := ?_, freedOnce := ?_, inMemory := ?_, serials := ?_,
           released := ?_, genuine := ?_, once := ?_ }
  · intro cookie target isLive
    obtain ⟨value, stored⟩ := sound.owned cookie target isLive
    exact ⟨value, (kept target value).mpr ⟨fun same => absent cookie (same ▸ isLive), stored⟩⟩
  · intro other cookie target value looked
    obtain ⟨isLive, stored⟩ :=
      sound.lookedUp other cookie target value (request_before looked (by simp)).2
    refine ⟨isLive, stored.trans (others target ?_).symm⟩
    rintro rfl
    exact absent cookie isLive
  · intro left right cookie target other value size leftLooked rightLooked
    exact sound.alone left right cookie target other value size
      (request_before leftLooked (by simp)).2 (request_before rightLooked (by simp)).2
  · intro other target value isFreed
    obtain ⟨different, before⟩ := request_before isFreed (by simp)
    obtain ⟨stored, present, gone⟩ := sound.freed other target value before
    refine ⟨stored.trans (others target ?_).symm, present, gone⟩
    rintro rfl
    exact different (sound.freedOnce other request target value (some number) before found)
  · intro left right target value size leftFreed rightFreed
    exact sound.freedOnce left right target value size
      (request_before leftFreed (by simp)).2 (request_before rightFreed (by simp)).2
  · intro target value stored
    obtain ⟨different, before⟩ := (kept target value).mp stored
    obtain ⟨below, fresh⟩ := sound.inMemory target value before
    refine ⟨below, fun member => ?_⟩
    rcases List.mem_cons.mp member with same | old
    · rw [Option.some.inj same] at before
      exact different (sound.serials target descriptor number before current.symm)
    · exact fresh old
  · intro left right value leftStored rightStored
    exact sound.serials left right value ((kept left value).mp leftStored).2
      ((kept right value).mp rightStored).2
  · intro value member
    rcases List.mem_cons.mp member with same | old
    · exact Option.some.inj same ▸ bounded
    · exact sound.released value old
  · intro member
    rcases List.mem_cons.mp member with impossible | old
    · contradiction
    · exact sound.genuine old
  · exact List.nodup_cons.mpr ⟨unreleased, sound.once⟩

theorem allocated_represents (sound : session.Sound) {heap : Option Words} {after : DescriptorMapping}
    (admissible : Admissible session.descriptorMapping (.allocateMapping descriptor heap))
    (ran : allocateMapping session.descriptorMapping descriptor heap = (some cookie, after)) :
    Represents after (session.live.update cookie (some descriptor)) ∧
      session.live cookie = none ∧ cookie ≠ 0 := by
  obtain ⟨next, stepped, represents⟩ := allocateMapping_step sound.represents admissible
  rw [ran] at stepped represents
  cases stepped with
  | allocated fresh unreserved => exact ⟨represents, fresh, unreserved⟩

theorem Sound.register (sound : session.Sound) {descriptor : Target} {heap : Option Words}
    {cookie : Int} {after : DescriptorMapping}
    (admissible : Admissible session.descriptorMapping (.allocateMapping descriptor heap))
    (unused : session.inMemory descriptor = none)
    (ran : allocateMapping session.descriptorMapping descriptor heap = (some cookie, after)) :
    (session.register cookie descriptor after).Sound := by
  obtain ⟨represents, fresh, _⟩ := allocated_represents sound admissible ran
  have liveIff (other : Int) (target : Target) :
      session.live.update cookie (some descriptor) other = some target ↔
        other = cookie ∧ target = descriptor ∨ session.live other = some target := by
    by_cases same : other = cookie
    · simp [same, fresh, eq_comm]
    · simp [PartialMap.update_other _ _ same, same]
  have notLive (other : Int) : session.live other ≠ some descriptor := fun isLive => by
    obtain ⟨serial, stored⟩ := sound.owned other descriptor isLive
    rw [unused] at stored
    contradiction
  have storedIff (target : Target) (serial : Nat) :
      update session.inMemory descriptor (some session.registrations) target = some serial ↔
        target = descriptor ∧ serial = session.registrations ∨ session.inMemory target = some serial := by
    by_cases same : target = descriptor
    · simp [same, unused, eq_comm]
    · simp [same]
  have kept (target : Target) (different : target ≠ descriptor) :
      update session.inMemory descriptor (some session.registrations) target =
        session.inMemory target := update_of_ne different _ _
  refine { represents, owned := ?_, distinct := ?_, lookedUp := ?_, alone := sound.alone,
           freed := ?_, freedOnce := sound.freedOnce, inMemory := ?_, serials := ?_,
           released := ?_, genuine := sound.genuine, once := sound.once }
  · intro other target isLive
    rcases (liveIff other target).mp isLive with ⟨_, rfl⟩ | before
    · exact ⟨_, (storedIff _ _).mpr (.inl ⟨rfl, rfl⟩)⟩
    · obtain ⟨serial, stored⟩ := sound.owned other target before
      exact ⟨serial, (storedIff _ _).mpr (.inr stored)⟩
  · intro left right target leftLive rightLive
    rcases (liveIff left target).mp leftLive with ⟨rfl, rfl⟩ | leftBefore <;>
      rcases (liveIff right target).mp rightLive with ⟨rfl, same⟩ | rightBefore
    · rfl
    · exact absurd rightBefore (notLive right)
    · exact absurd (same ▸ leftBefore) (notLive left)
    · exact sound.distinct left right target leftBefore rightBefore
  · intro request key target serial looked
    obtain ⟨isLive, stored⟩ := sound.lookedUp request key target serial looked
    refine ⟨(liveIff key target).mpr (.inr isLive), stored.trans (kept target ?_).symm⟩
    rintro rfl
    exact notLive key isLive
  · intro request target serial isFreed
    obtain ⟨stored, present, absent⟩ := sound.freed request target serial isFreed
    have different : target ≠ descriptor := by
      rintro rfl
      exact present (stored.trans unused)
    refine ⟨stored.trans (kept target different).symm, present, fun key isLive => ?_⟩
    rcases (liveIff key target).mp isLive with ⟨_, same⟩ | before
    · exact different same
    · exact absent key before
  · intro target serial stored
    rcases (storedIff target serial).mp stored with ⟨_, rfl⟩ | before
    · exact ⟨Nat.lt_succ_self _, fun member => Nat.lt_irrefl _ (sound.released _ member)⟩
    · obtain ⟨below, unreleased⟩ := sound.inMemory target serial before
      exact ⟨Nat.lt_succ_of_lt below, unreleased⟩
  · intro left right serial leftStored rightStored
    rcases (storedIff left serial).mp leftStored with ⟨leftIs, leftNew⟩ | leftBefore <;>
      rcases (storedIff right serial).mp rightStored with ⟨rightIs, rightNew⟩ | rightBefore
    · exact leftIs.trans rightIs.symm
    · rw [leftNew] at rightBefore
      exact absurd (sound.inMemory right _ rightBefore).1 (Nat.lt_irrefl _)
    · rw [rightNew] at leftBefore
      exact absurd (sound.inMemory left _ leftBefore).1 (Nat.lt_irrefl _)
    · exact sound.serials left right serial leftBefore rightBefore
  · intro serial member
    exact Nat.lt_succ_of_lt (sound.released serial member)

theorem Sound.replace (sound : session.Sound) {after : DescriptorMapping}
    (represents : Represents after session.live) :
    { session with descriptorMapping := after : MappingSession }.Sound :=
  { sound with represents }

theorem Sound.step (sound : session.Sound) {action : MappingAction} {after : MappingSession}
    (undisturbed : Undisturbed session action) (stepped : MappingStep session action after) :
    after.Sound := by
  cases stepped with
  | registered unused ran => exact sound.register undisturbed unused ran
  | @unmapped descriptor heap cookie table ran =>
    obtain ⟨represents, fresh, unreserved⟩ := allocated_represents sound undisturbed ran
    have admissible : Admissible table (.free cookie) := unreserved
    obtain ⟨next, freed, freeRepresents⟩ := perform_step represents admissible
    cases freed
    refine sound.replace ?_
    have undone : (session.live.update cookie (some descriptor)).update cookie none = session.live := by
      funext other
      by_cases same : other = cookie
      · rw [same, PartialMap.update_same, fresh]
      · rw [PartialMap.update_other _ _ same, PartialMap.update_other _ _ same]
    rwa [undone] at freeRepresents
  | full ran =>
    obtain ⟨next, allocated, represents⟩ := allocateMapping_step sound.represents undisturbed
    rw [ran] at allocated represents
    cases allocated
    exact sound.replace represents
  | lookedUp idle => exact sound.lookUp undisturbed.1 undisturbed.2
  | gaveUp found => exact sound.giveUp found
  | released found => exact sound.release found

end MappingSession

/-- While no two requests are on the same cookie at a time and none names the
reserved one, every memory descriptor is released at most once, and a request for a
cookie that is not live fails at its lookup, where it ends. -/
theorem releaseRequests_atMostOnce {session : MappingSession}
    (reached : (mappingSystem.restrict Undisturbed).Reachable session) :
    (∀ serial, session.released.count (some serial) ≤ 1) ∧ none ∉ session.released ∧
      ∀ request call cookie, Undisturbed session (.lookUp request call cookie) →
        session.live cookie = none → session.lookUp request cookie = (.fault, session) := by
  have sound : session.Sound :=
    reached.invariant (fun _ starts => MappingSession.sound_initial starts)
      fun _ _ _ sound stepped => sound.step stepped.1 stepped.2
  refine ⟨fun serial => ?_, sound.genuine, fun request _ cookie undisturbed absent => ?_⟩
  · exact List.nodup_iff_count_le_one.mp sound.once (some serial)
  · exact MappingSession.lookUp_absent sound undisturbed.1 absent request

def MappingSession.begun : MappingSession where
  descriptorMapping := (create 64 65536 true (some fun _ => 0) true).get rfl
  requests _ := .idle
  live := .empty
  inMemory _ := none
  registrations := 0
  released := []

theorem MappingSession.begun_allocates : allocateMapping MappingSession.begun.descriptorMapping 7 none =
      (some 1, (allocateMapping MappingSession.begun.descriptorMapping 7 none).2) := rfl

theorem MappingSession.begun_admissible : Undisturbed MappingSession.begun (.register 7 none) := by
  intro full
  exact absurd full (by decide)

def MappingSession.mapped : MappingSession :=
  MappingSession.begun.register 1 7
    (allocateMapping MappingSession.begun.descriptorMapping 7 none).2

theorem releaseRequests_atMostOnce_single :
    let session := (((MappingSession.mapped.lookUp 0 1).2).giveUp 0 1 7 (some 0)).release 0 7 (some 0)
    session.released = [some 0] ∧
      (∀ serial, session.released.count (some serial) ≤ 1) ∧ none ∉ session.released ∧
      ∀ request call cookie, Undisturbed session (.lookUp request call cookie) →
        session.live cookie = none → session.lookUp request cookie = (.fault, session) := by
  have reached : (mappingSystem.restrict Undisturbed).Reachable .begun :=
    .initial ⟨rfl, rfl, rfl, rfl, rfl, _, rfl⟩
  have mapped : (mappingSystem.restrict Undisturbed).Reachable .mapped :=
    reached.next (.register 7 none)
      ⟨MappingSession.begun_admissible, .registered rfl MappingSession.begun_allocates⟩
  have looked : (mappingSystem.restrict Undisturbed).Reachable (MappingSession.mapped.lookUp 0 1).2 :=
    mapped.next (.lookUp 0 .unmapExternalMem 1)
      ⟨⟨by decide, fun _ _ _ => by simp [MappingSession.mapped, MappingSession.register,
        MappingSession.begun]⟩, .lookedUp rfl⟩
  have gaveUp : (mappingSystem.restrict Undisturbed).Reachable
      ((MappingSession.mapped.lookUp 0 1).2.giveUp 0 1 7 (some 0)) :=
    looked.next (.giveUp 0) ⟨trivial, .gaveUp rfl⟩
  exact ⟨rfl, releaseRequests_atMostOnce (gaveUp.next (.release 0) ⟨trivial, .released rfl⟩)⟩

/-- Two requests that look the same cookie up before either gives it up release one
memory descriptor twice. -/
theorem releaseRequests_twice :
    ∃ session, mappingSystem.Reachable session ∧ session.released.count (some 0) = 2 := by
  have begun : mappingSystem.Reachable .begun := .initial ⟨rfl, rfl, rfl, rfl, rfl, _, rfl⟩
  have mapped : mappingSystem.Reachable .mapped :=
    begun.next (.register 7 none) (.registered rfl MappingSession.begun_allocates)
  have first : mappingSystem.Reachable (MappingSession.mapped.lookUp 0 1).2 :=
    mapped.next (.lookUp 0 .unmapExternalMem 1) (.lookedUp rfl)
  let both := ((MappingSession.mapped.lookUp 0 1).2.lookUp 1 1).2
  have second : mappingSystem.Reachable both :=
    first.next (.lookUp 1 .unmapExternalMem 1) (.lookedUp rfl)
  have gone : mappingSystem.Reachable (both.giveUp 0 1 7 (some 0)) :=
    second.next (.giveUp 0) (.gaveUp rfl)
  let late := (both.giveUp 0 1 7 (some 0)).giveUp 1 1 7 (some 0)
  have goneTwice : mappingSystem.Reachable late := gone.next (.giveUp 1) (.gaveUp rfl)
  have released : mappingSystem.Reachable (late.release 0 7 (some 0)) :=
    goneTwice.next (.release 0) (.released rfl)
  have again : mappingSystem.Reachable ((late.release 0 7 (some 0)).release 1 7 (some 0)) :=
    released.next (.release 1) (.released rfl)
  exact ⟨_, again, rfl⟩

end Floid.Mmu
