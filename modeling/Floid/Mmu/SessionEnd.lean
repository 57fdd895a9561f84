import Floid.Mmu.ReleaseRequests

namespace Floid.Mmu

open Osk Descriptors Lib
open Function (update update_of_ne update_self)

namespace MappingSession

variable {session : MappingSession}

structure Traced (session : MappingSession) : Prop extends session.Sound where
  traced : ∀ serial < session.registrations, some serial ∈ session.released ∨
    ∃ descriptor, session.inMemory descriptor = some serial ∧
      ((∃ cookie, session.live cookie = some descriptor) ∨
        ∃ request number, session.requests request = .freed descriptor number)

theorem Traced.step (held : session.Traced) {action : MappingAction} {after : MappingSession}
    (undisturbed : Undisturbed session action) (stepped : MappingStep session action after) :
    after.Traced := by
  obtain ⟨sound, traced⟩ := held
  refine ⟨sound.step undisturbed stepped, fun serial below => ?_⟩
  cases stepped with
  | @registered descriptor heap cookie table unused ran =>
    obtain ⟨-, fresh, -⟩ := allocated_represents sound undisturbed ran
    rcases Nat.lt_succ_iff_lt_or_eq.mp below with old | rfl
    · refine (traced serial old).imp_right fun ⟨target, stored, state⟩ => ⟨target, ?_, ?_⟩
      · exact (update_of_ne (fun same => by simp [same, unused] at stored) _ _).trans stored
      · exact state.imp_left fun ⟨key, live⟩ => ⟨key, (PartialMap.update_other _ _
          fun same => by simp [same, fresh] at live).trans live⟩
    · exact .inr ⟨descriptor, update_self .., .inl ⟨cookie, PartialMap.update_same ..⟩⟩
  | unmapped | full => exact traced serial below
  | @lookedUp request call cookie idle =>
    revert below
    unfold lookUp
    split
    · intro below
      exact (traced serial below).imp_right fun ⟨target, stored, state⟩ => ⟨target, stored,
        state.imp_right fun ⟨other, number, freed⟩ => ⟨other, number, (update_of_ne
          (fun same => by simp [same, idle] at freed) _ _).trans freed⟩⟩
    · exact traced serial
  | @gaveUp request cookie descriptor number found =>
    refine (traced serial below).imp_right fun ⟨target, stored, state⟩ => ⟨target, stored, ?_⟩
    rcases state with ⟨key, live⟩ | ⟨other, entry, freed⟩
    · by_cases same : key = cookie
      · have current := (sound.lookedUp _ _ _ _ found).1
        rw [same, current] at live
        exact .inr ⟨request, number, (update_self ..).trans (by rw [Option.some.inj live])⟩
      · exact .inl ⟨key, (PartialMap.update_other _ _ same).trans live⟩
    · exact .inr ⟨other, entry, (update_of_ne
        (fun same => by simp [same, found] at freed) _ _).trans freed⟩
  | @released request descriptor number found =>
    obtain ⟨current, -, absent⟩ := sound.freed request descriptor number found
    refine (traced serial below).elim (fun old => .inl (.tail _ old)) fun ⟨target, stored, state⟩ => ?_
    by_cases same : target = descriptor
    · exact .inl (by simp [release, current, ← same, stored])
    · exact .inr ⟨target, (update_of_ne same _ _).trans stored, state.imp_right
        fun ⟨other, entry, freed⟩ => ⟨other, entry, (update_of_ne
          (fun own => same (by simp_all)) _ _).trans freed⟩⟩

/-- `descriptor_table_cleanup_callback`. -/
def cleanup (session : MappingSession) (descriptor : Target) : MappingSession :=
  { session with
    released := session.inMemory descriptor :: session.released
    inMemory := update session.inMemory descriptor none }

/-- What `mali_memory_core_session_end` does with the descriptor map. -/
def sessionEnd (session : MappingSession) : MappingSession :=
  (callForEach session.descriptorMapping).foldl cleanup session

theorem foldl_cleanup_released {descriptors : List Target} (distinct : descriptors.Nodup) :
    (descriptors.foldl cleanup session).released =
      (descriptors.map session.inMemory).reverse ++ session.released := by
  induction descriptors generalizing session with
  | nil => rfl
  | cons descriptor rest induction =>
    obtain ⟨absent, distinct⟩ := List.nodup_cons.mp distinct
    have kept : rest.map (session.cleanup descriptor).inMemory = rest.map session.inMemory :=
      List.map_congr_left fun other member =>
        update_of_ne (fun same : other = descriptor => absent (same ▸ member)) _ _
    rw [List.foldl_cons, induction distinct, kept]
    simp [cleanup]

end MappingSession

/-- Once a session with no request under way has ended, every registration has been released
exactly once. -/
theorem sessionEnd_releases {session : MappingSession}
    (reached : (mappingSystem.restrict Undisturbed).Reachable session)
    (idle : ∀ request, session.requests request = .idle) :
    session.sessionEnd.released.Perm ((List.range session.registrations).map some) := by
  have held : session.Traced :=
    reached.invariant (fun _ starts => ⟨MappingSession.sound_initial starts, fun _ below => by
      simp [starts.2.2.2.1] at below⟩) fun _ _ _ held stepped => held.step stepped.1 stepped.2
  obtain ⟨sound, traced⟩ := held
  have distinct : (callForEach session.descriptorMapping).Nodup := by
    rw [sound.represents.callForEach_eq]
    exact (List.nodup_range' 1).filterMap fun left right descriptor leftLive rightLive =>
      Int.ofNat_inj.mp (sound.distinct left right descriptor leftLive rightLive)
  have member {descriptor : Target} := @Represents.mem_callForEach _ _ sound.represents descriptor
  rw [MappingSession.sessionEnd, MappingSession.foldl_cleanup_released distinct]
  generalize callForEach session.descriptorMapping = descriptors at distinct member
  have owned {descriptor : Target} (listed : descriptor ∈ descriptors) :
      ∃ serial, session.inMemory descriptor = some serial :=
    (member.mp listed).elim fun cookie live => sound.owned cookie descriptor live
  refine (List.perm_ext_iff_of_nodup (List.nodup_append.mpr
    ⟨List.nodup_reverse.mpr (distinct.map_on ?_), sound.once, ?_⟩)
    (List.nodup_range.map (Option.some_injective _))).mpr fun entry => ?_
  · intro left listed right _ same
    obtain ⟨serial, stored⟩ := owned listed
    exact sound.serials left right serial stored (same.symm.trans stored)
  · rintro _ new _ old rfl
    obtain ⟨descriptor, listed, rfl⟩ := List.mem_map.mp (List.mem_reverse.mp new)
    obtain ⟨serial, stored⟩ := owned listed
    exact (sound.inMemory descriptor serial stored).2 (stored ▸ old)
  · simp only [List.mem_append, List.mem_reverse, List.mem_map, List.mem_range]
    constructor
    · rintro (⟨descriptor, listed, rfl⟩ | old)
      · obtain ⟨serial, stored⟩ := owned listed
        exact ⟨serial, (sound.inMemory descriptor serial stored).1, stored.symm⟩
      · obtain ⟨serial, rfl⟩ := Option.ne_none_iff_exists'.mp fun same => sound.genuine (same ▸ old)
        exact ⟨serial, sound.released serial old, rfl⟩
    · rintro ⟨serial, below, rfl⟩
      refine (traced serial below).elim .inr fun ⟨descriptor, stored, state⟩ => .inl ⟨descriptor, ?_, stored⟩
      exact member.mpr (state.resolve_right fun ⟨request, number, freed⟩ => by simp [idle] at freed)

theorem sessionEnd_releases_mapped :
    MappingSession.mapped.sessionEnd.released.Perm ((List.range 1).map some) :=
  sessionEnd_releases (.next (.register 7 none) (.initial ⟨rfl, rfl, rfl, rfl, rfl, _, rfl⟩)
    ⟨MappingSession.begun_admissible, .registered rfl MappingSession.begun_allocates⟩) fun _ => rfl

end Floid.Mmu
