import Floid.Pmm.BottomHalf

namespace Floid.Pmm

open Osk Lib

/-- `_mali_osk_notification_queue_dequeue`; `none` is `_MALI_OSK_ERR_ITEM_NOT_FOUND`. -/
def notificationQueueDequeue : List Message → Option (Message × List Message)
  | [] => none
  | msg :: rest => some (msg, rest)

structure Purging where
  queue : List Message
  freed : List Message

def purgeLoop : Nat → Purging → Option Purging
  | 0, _ => none
  | rounds + 1, purging =>
      match notificationQueueDequeue purging.queue with
      | some (msg, rest) => some ⟨rest, purging.freed ++ [msg]⟩
      | none => purgeLoop rounds purging

def purge (rounds : Nat) (pmm : PmmState) : Option (PmmState × List Message) := do
  let internal ← purgeLoop rounds ⟨pmm.iqueue, []⟩
  let events ← purgeLoop rounds ⟨pmm.queue, internal.freed⟩
  return ({ pmm with iqueue := internal.queue, queue := events.queue, status := .idle }, events.freed)

def PurgesAll (pmm : PmmState) : Prop :=
  ∃ rounds after freed, purge rounds pmm = some (after, freed) ∧
    after.iqueue = [] ∧ after.queue = [] ∧ freed.Perm (pmm.iqueue ++ pmm.queue)

variable {pmm after : PmmState} {freed : List Message}

variable {rounds : Nat}

theorem purgeLoop_eq_some_iff {purging left : Purging} : purgeLoop rounds purging = some left ↔ 0 < rounds ∧
      ∃ msg, purging.queue = msg :: left.queue ∧ left.freed = purging.freed ++ [msg] := by
  obtain ⟨queue, freed⟩ := purging
  obtain ⟨leftQueue, leftFreed⟩ := left
  induction rounds with
  | zero => simp [purgeLoop]
  | succ rounds ih =>
    cases queue with
    | nil => simp_all [purgeLoop, notificationQueueDequeue]
    | cons msg rest =>
      simp only [purgeLoop, notificationQueueDequeue, Option.some.injEq, Purging.mk.injEq,
        List.cons.injEq, Nat.zero_lt_succ, true_and]
      constructor
      · rintro ⟨rfl, rfl⟩
        exact ⟨msg, ⟨rfl, rfl⟩, rfl⟩
      · rintro ⟨_, ⟨rfl, rfl⟩, rfl⟩
        exact ⟨rfl, rfl⟩

theorem purge_eq_some_iff : purge rounds pmm = some (after, freed) ↔ 0 < rounds ∧
      ∃ internal event, pmm.iqueue = internal :: after.iqueue ∧ pmm.queue = event :: after.queue ∧
        freed = [internal, event] ∧
        after = { pmm with iqueue := after.iqueue, queue := after.queue, status := .idle } := by
  simp only [purge, Option.bind_eq_bind, Option.bind_eq_some_iff, purgeLoop_eq_some_iff,
    Option.pure_def, Option.some.injEq, Prod.mk.injEq]
  constructor
  · rintro ⟨first, ⟨started, internal, isInternal, firstFreed⟩, second, ⟨_, event, isEvent, allFreed⟩, rfl, rfl⟩
    exact ⟨started, internal, event, isInternal, isEvent, by rw [allFreed, firstFreed]; rfl, rfl⟩
  · rintro ⟨started, internal, event, isInternal, isEvent, rfl, isAfter⟩
    exact ⟨⟨after.iqueue, [internal]⟩, ⟨started, internal, isInternal, rfl⟩,
      ⟨after.queue, [internal, event]⟩, ⟨started, event, isEvent, rfl⟩, isAfter.symm, rfl⟩

/-- The purge throws all messages away if and only if there is exactly one in each queue. -/
theorem purgesAll_iff (pmm : PmmState) : PurgesAll pmm ↔ pmm.iqueue.length = 1 ∧ pmm.queue.length = 1 := by
  constructor
  · rintro ⟨rounds, after, freed, purged, noInternal, noEvents, _⟩
    obtain ⟨_, internal, event, isInternal, isEvent, _⟩ := purge_eq_some_iff.mp purged
    rw [isInternal, isEvent, noInternal, noEvents]
    exact ⟨rfl, rfl⟩
  · rintro ⟨oneInternal, oneEvent⟩
    obtain ⟨internal, isInternal⟩ := List.length_eq_one_iff.mp oneInternal
    obtain ⟨event, isEvent⟩ := List.length_eq_one_iff.mp oneEvent
    refine ⟨1, { pmm with iqueue := [], queue := [], status := .idle }, [internal, event], ?_, rfl, rfl, ?_⟩
    · exact purge_eq_some_iff.mpr ⟨Nat.one_pos, internal, event, isInternal, isEvent, rfl, rfl⟩
    · rw [isInternal, isEvent]
      exact List.Perm.refl _

/-- With empty queues the purge does not end, and of two messages it leaves one. -/
theorem not_purgesAll : ¬PurgesAll (loadComplete coreGP 0#32) ∧
    ¬PurgesAll { loadComplete coreGP 0#32 with
      iqueue := [⟨.internalPowerUpAck, 0#32, 0#32⟩]
      queue := [⟨.jobQueued, 0#32, 0#32⟩, ⟨.jobQueued, 1#32, 0#32⟩] } := by
  constructor
  · rintro ⟨rounds, after, freed, purged, _⟩
    obtain ⟨_, internal, event, isInternal, _⟩ := purge_eq_some_iff.mp purged
    have empty : (loadComplete coreGP 0#32).iqueue = [] := by decide
    rw [empty] at isInternal
    cases isInternal
  · rintro ⟨rounds, after, freed, purged, _, noEvents, _⟩
    obtain ⟨_, internal, event, _, isEvent, _⟩ := purge_eq_some_iff.mp purged
    rw [noEvents] at isEvent
    cases isEvent

end Floid.Pmm
