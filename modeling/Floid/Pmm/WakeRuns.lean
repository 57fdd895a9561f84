import Floid.Pmm.WakeUp

namespace Floid.Pmm

open Osk Lib

variable {platform : Platform} {pmm : PmmState} {event : Message} {bound : Nat}

def Awake (pmm : PmmState) : Prop :=
  pmm.status.acceptsEvents = true → pmm.unread = 0 ∨ pmm.irqPending = true

def WakePoint (control : Control) (pmm : PmmState) : Prop :=
  match control with
  | .waiting => Counted pmm ∧ Awake pmm
  | .processing processMessages => Covered processMessages pmm
  | .checking | .purgingInternal _ | .purgingEvents _ => Counted pmm

variable {control : Control} {processMessages : Nat} {after before : PmmState}

theorem WakePoint.counted (point : WakePoint control pmm) : Counted pmm := by
  cases control with
  | waiting => exact point.1
  | checking => exact point
  | processing _ => exact Covered.counted point
  | purgingInternal _ => exact point
  | purgingEvents _ => exact point

theorem Counted.covered (counted : Counted pmm) : Covered pmm.messagesQueued pmm :=
  ⟨counted, .inl counted⟩

theorem fatalReset_keepsCovered (counted : Counted pmm) :
    KeepsCovered (fatalReset pmm) fun _ after => Counted after := by
  have reset : Covered pmm.messagesQueued (resetFields pmm) :=
    { counted.covered with }
  rw [fatalReset]
  apply (signalRegistered_keepsCovered reset).bind
  intro _ after covered
  split
  · exact covered.counted
  · exact covered.counted
  · exact covered.counted

theorem leaveProcess_keepsCovered (counted : Counted pmm) (awake : Awake pmm) :
    KeepsCovered (leaveProcess pmm) WakePoint := by
  rw [leaveProcess]
  split
  · apply (fatalReset_keepsCovered counted).bind
    exact fun _ after counted => counted
  · exact ⟨counted, awake⟩

theorem processMessage_keepsCovered (counted : pmm.unread < pmm.messagesQueued)
    (bounded : pmm.unread ≤ processMessages ∨ pmm.irqPending = true) :
    KeepsCovered (processMessage platform processMessages event pmm) WakePoint := by
  have covered : Covered processMessages
      (recordEvent event { pmm with messagesQueued := pmm.messagesQueued - 1 }) := by
    refine ⟨?_, bounded⟩
    have taken : pmm.unread ≤ pmm.messagesQueued - 1 := Nat.le_sub_one_of_lt counted
    exact taken
  rw [processMessage]
  apply (processJobControl_keepsCovered covered).bind
  intro _ after covered
  split
  · rename_i failed
    rw [leaveProcess, if_pos failed]
    apply (fatalReset_keepsCovered covered.counted).bind
    exact fun _ after counted => counted
  · exact covered

theorem eventProcess_keepsCovered (covered : Covered processMessages pmm) :
    KeepsCovered (eventProcess platform processMessages pmm) WakePoint := by
  have counted := covered.counted
  have bounded := covered.bounded
  rw [Counted, PmmState.unread] at counted
  rw [PmmState.unread] at bounded
  cases processMessages with
  | zero =>
    have awake : pmm.unread = 0 ∨ pmm.irqPending = true :=
      covered.bounded.imp Nat.le_zero.mp id
    rw [eventProcess]
    split
    · exact leaveProcess_keepsCovered counted fun _ => .inr rfl
    · exact leaveProcess_keepsCovered counted fun _ => awake
  | succ processMessages =>
    rw [eventProcess]
    split
    · rename_i event rest queued
      rw [queued, List.length_cons] at counted bounded
      apply processMessage_keepsCovered
      · change pmm.queue.length + rest.length < pmm.messagesQueued
        omega
      · change pmm.queue.length + rest.length ≤ processMessages ∨ _
        exact bounded.imp (fun within => by omega) id
    · rename_i noInternal
      rw [noInternal] at counted bounded
      split
      · dsimp only
        split
        · rename_i event rest queued
          rw [queued, List.length_cons] at counted bounded
          apply processMessage_keepsCovered
          · change rest.length + pmm.iqueue.length < pmm.messagesQueued
            rw [noInternal]
            omega
          · change rest.length + pmm.iqueue.length ≤ processMessages ∨ _
            rw [noInternal]
            exact bounded.imp (fun within => by omega) id
        · rename_i noEvents
          have none : pmm.unread = 0 := by
            rw [PmmState.unread, noEvents, noInternal]
            rfl
          exact leaveProcess_keepsCovered covered.counted fun _ => .inl none
      · rename_i refuses
        exact leaveProcess_keepsCovered covered.counted fun accepts => absurd accepts refuses

theorem bottomHalf_keepsCovered {segment : Run Control}
    (point : WakePoint control pmm) (unstopped : unstoppedTimer.step control platform pmm)
    (taken : bottomHalf platform control pmm = some segment) : KeepsCovered segment WakePoint := by
  have counted := point.counted
  cases control with
  | waiting =>
    simp only [bottomHalf] at taken
    split at taken
    · split at taken
      · rename_i off
        cases taken
        refine ⟨counted, fun accepts => ?_⟩
        change pmm.status.acceptsEvents = true at accepts
        rw [off] at accepts
        contradiction
      · split at taken
        · cases taken
          apply (@fatalReset_keepsCovered { pmm with irqPending := false } counted).bind
          exact fun _ after counted => counted
        · cases taken
          exact counted
    · contradiction
  | checking =>
    simp only [bottomHalf] at taken
    split at taken
    · rename_i check
      cases taken
      rw [policyTimerRaiseEvent]
      split
      · exact ⟨@Counted.sent { pmm with
          checkPolicy := false
          latency := { pmm.latency with expired := false, set := false } } _ _ _ counted,
          fun _ => .inr (eventMessage_pending _ _ _ _)⟩
      · rename_i stopped
        refine ⟨counted, fun accepts => ?_⟩
        change pmm.status.acceptsEvents = true at accepts
        rcases unstopped check with expired | pending | refuses | empty
        · exact absurd expired stopped
        · exact .inr pending
        · rw [accepts] at refuses
          contradiction
        · exact .inl empty
    · cases taken
      exact Counted.covered counted
  | processing processMessages =>
    cases taken
    exact eventProcess_keepsCovered point
  | purgingInternal next =>
    simp only [bottomHalf] at taken
    split at taken
    · rename_i event rest queued
      cases taken
      rw [Counted, PmmState.unread, queued, List.length_cons] at counted
      change pmm.queue.length + rest.length ≤ pmm.messagesQueued
      omega
    · contradiction
  | purgingEvents next =>
    simp only [bottomHalf] at taken
    split at taken
    · rename_i event rest queued
      rw [Counted, PmmState.unread, queued, List.length_cons] at counted
      have purged : Counted { pmm with queue := rest, status := .idle } := by
        change rest.length + pmm.iqueue.length ≤ pmm.messagesQueued
        omega
      cases next with
      | checkPolicy =>
        cases taken
        exact purged
      | leave =>
        cases taken
        refine ⟨purged, fun _ => ?_⟩
        rcases unstopped with pending | ⟨one, none⟩
        · exact .inr pending
        · left
          change rest.length + pmm.iqueue.length = 0
          rw [queued, List.length_cons] at one
          rw [none, List.length_nil]
          omega
    · contradiction

theorem wake_event {event : Event} {lockFree : Bool}
    (counted : Counted before) (happens : event.Happens lockFree before after) :
    WakeRely before after ∧ after.status = before.status := by
  cases event with
  | notify kind data created =>
    rw [show after = _ from happens]
    have pending := eventMessage_pending kind data created before
    refine ⟨⟨counted.sent, fun _ => pending, .inr pending⟩, ?_⟩
    obtain ⟨_, _, _, _, sent⟩ := eventMessage_frame kind data created before
    rw [sent]
  | timerExpires =>
    rw [happens.2]
    exact ⟨⟨counted, fun _ => rfl, .inl (Nat.le_refl _)⟩, rfl⟩
  | register core powerOk =>
    rw [happens.2, coreRegister]
    split
    · exact ⟨⟨counted, id, .inl (Nat.le_refl _)⟩, rfl⟩
    · exact ⟨⟨counted, id, .inl (Nat.le_refl _)⟩, rfl⟩
  | unregister core =>
    rw [happens.2]
    exact ⟨⟨counted, id, .inl (Nat.le_refl _)⟩, rfl⟩
  | tick =>
    rw [show after = _ from happens]
    exact ⟨⟨counted, id, .inl (Nat.le_refl _)⟩, rfl⟩

theorem Awake.relied (awake : Awake before)
    (rely : WakeRely before after) (status : after.status = before.status) : Awake after := by
  intro accepts
  rw [status] at accepts
  rcases rely.unread with fewer | due
  · rcases awake accepts with none | pending
    · exact .inl (Nat.le_zero.mp (none ▸ fewer))
    · exact .inr (rely.pending pending)
  · exact .inr due

def wakeProof : pmmWorker.Proof unstoppedTimer where
  invariant := Counted
  point := WakePoint
  rely := WakeRely
  starts := by
    rintro _ _ ⟨rfl, cores, clock, rfl⟩
    rw [loadComplete]
    obtain ⟨latency, setup⟩ := jobControlTimeoutSetup_frame _
    rw [setup]
    exact ⟨Nat.le_refl 0, fun _ => .inl rfl⟩
  kept := by
    intro control event before after point _ happens
    obtain ⟨rely, status⟩ := wake_event point.counted happens
    cases control with
    | waiting => exact ⟨rely.counted, point.2.relied rely status⟩
    | checking => exact rely.counted
    | processing _ => exact Covered.relied point rely
    | purgingInternal _ => exact rely.counted
    | purgingEvents _ => exact rely.counted
  rely_refl _ counted := ⟨counted, id, .inl (Nat.le_refl _)⟩
  rely_trans := by
    intro first second third before after
    refine ⟨after.counted, after.pending ∘ before.pending, ?_⟩
    rcases after.unread with fewer | due
    · rcases before.unread with less | due
      · exact .inl (Nat.le_trans fewer less)
      · exact .inr (after.pending due)
    · exact .inr due
  rely_event _ _ _ counted _ happens := (wake_event counted happens).1
  rely_invariant _ _ rely := rely.counted
  stepped _ _ _ _ point unstopped taken := bottomHalf_keepsCovered point unstopped taken

end Floid.Pmm
