import Floid.Pmm.MaskOrder

namespace Floid.Pmm

open Osk Lib

variable {platform : Platform} {pmm : PmmState}

def MaskPoint (control : Control) (pmm : PmmState) : Prop :=
  match control with
  | .waiting | .checking | .processing _ => Masks pmm ∧ Settled pmm
  | .purgingInternal _ | .purgingEvents _ => Masks pmm ∧ Quiet pmm

theorem leaveProcess_keeps (order : InOrder pmm) : KeepsMasks (leaveProcess pmm) MaskPoint := by
  rw [leaveProcess]
  split
  · apply fatalReset_keeps.bind
    exact fun _ after reset => reset
  · rename_i fine
    exact ⟨order.1, order.2 (by simpa using fine)⟩

variable {processMessages : Nat} {after before : PmmState} {event : Event} {lockFree : Bool}

theorem processMessage_keeps {event : Message} (masks : Masks pmm)
    (settled : Settled pmm) (named : WellNamed event pmm) :
    KeepsMasks (processMessage platform processMessages event pmm) MaskPoint := by
  rw [processMessage]
  have recorded : Masks (recordEvent event { pmm with messagesQueued := pmm.messagesQueued - 1 }) :=
    { masks with }
  apply (processJobControl_keeps recorded settled named).bind
  intro _ after order
  split
  · exact leaveProcess_keeps order
  · rename_i fine
    exact ⟨order.1, order.2 (by simpa using fine)⟩

theorem eventProcess_keeps (masks : Masks pmm) (settled : Settled pmm)
    (named : ∀ event, nextMessage pmm = some event → 0 < processMessages → WellNamed event pmm) :
    KeepsMasks (eventProcess platform processMessages pmm) MaskPoint := by
  have same {after : PmmState} (order : Masks after) (still : Settled after) : InOrder after :=
    ⟨order, fun _ => still⟩
  cases processMessages with
  | zero =>
    rw [eventProcess]
    split
    · exact leaveProcess_keeps (same { masks with } settled)
    · exact leaveProcess_keeps (same masks settled)
  | succ processMessages =>
    rw [eventProcess]
    split
    · rename_i event rest internal
      have wellNamed := named event (by rw [nextMessage, internal]) (Nat.succ_pos _)
      exact processMessage_keeps { masks with } settled wellNamed
    · rename_i noInternal
      split
      · rename_i accepts
        dsimp only
        split
        · rename_i event rest queued
          have wellNamed := named event
            (by simp only [nextMessage, noInternal, accepts, queued]; rfl) (Nat.succ_pos _)
          exact processMessage_keeps { masks with } settled wellNamed
        · exact leaveProcess_keeps (same { masks with } settled)
      · exact leaveProcess_keeps (same { masks with } settled)

theorem bottomHalf_keeps {control : Control} {segment : Run Control} (point : MaskPoint control pmm)
    (named : namedCores.step control platform pmm)
    (taken : bottomHalf platform control pmm = some segment) : KeepsMasks segment MaskPoint := by
  cases control with
  | waiting =>
    simp only [bottomHalf] at taken
    split at taken
    · split at taken
      · cases taken
        exact ⟨{ point.1 with }, point.2⟩
      · split at taken
        · cases taken
          apply fatalReset_keeps.bind
          exact fun _ after reset => reset
        · cases taken
          exact ⟨{ point.1 with }, point.2⟩
    · contradiction
  | checking =>
    simp only [bottomHalf] at taken
    split at taken
    · cases taken
      obtain ⟨_, _, _, _, _, _, raised⟩ := policyTimerRaiseEvent_frame platform.created
        { pmm with checkPolicy := false }
      rw [raised]
      exact ⟨{ point.1 with }, point.2⟩
    · cases taken
      exact point
  | processing processMessages =>
    cases taken
    apply eventProcess_keeps point.1 point.2
    intro event next positive
    cases processMessages with
    | zero => exact absurd positive (Nat.lt_irrefl 0)
    | succ _ => exact named event next
  | purgingInternal next =>
    simp only [bottomHalf] at taken
    split at taken
    · cases taken
      exact ⟨{ point.1 with }, point.2⟩
    · contradiction
  | purgingEvents next =>
    simp only [bottomHalf] at taken
    split at taken
    · split at taken <;> cases taken <;>
        exact ⟨{ point.1 with }, point.2⟩
    · contradiction

theorem Event.masks_cases (happens : event.Happens lockFree before after) :
    (∃ core powerOk, event = .register core powerOk ∧ lockFree = true ∧ after = coreRegister core powerOk before) ∨
      (∃ core, event = .unregister core ∧ lockFree = true ∧ after = coreUnregister core before) ∨
      ∃ latency queue iqueue messagesQueued missed checkPolicy irqPending clock, after =
        { before with latency, queue, iqueue, messagesQueued, missed, checkPolicy, irqPending, clock } := by
  cases event with
  | notify id data created =>
    obtain ⟨_, _, _, _, sent⟩ := eventMessage_frame id data created before
    rw [Event.Happens, sent] at happens
    exact .inr (.inr ⟨_, _, _, _, _, _, _, _, happens⟩)
  | timerExpires =>
    rw [Event.Happens] at happens
    exact .inr (.inr ⟨_, _, _, _, _, _, _, _, happens.2⟩)
  | register core powerOk => exact .inl ⟨core, powerOk, rfl, happens⟩
  | unregister core => exact .inr (.inl ⟨core, rfl, happens⟩)
  | tick => exact .inr (.inr ⟨_, _, _, _, _, _, _, _, happens⟩)

theorem Settled.unregister {core : CoreMask} (settled : Settled pmm) : Settled (coreUnregister core pmm) := by
  rw [Settled] at settled ⊢
  rw [show (coreUnregister core pmm).status = pmm.status from rfl]
  cases status : pmm.status <;> simp_all [coreUnregister, Quiet]

theorem mask_event (masks : Masks before) (once : namedCores.event event before)
    (happens : event.Happens lockFree before after) :
    MaskRely before after ∧ (Settled before → Settled after) := by
  rcases Event.masks_cases happens with ⟨core, powerOk, rfl, _, rfl⟩ | ⟨core, rfl, _, rfl⟩ |
    ⟨_, _, _, _, _, _, _, _, rfl⟩
  · have registered := @Masks.register before core powerOk masks once
    refine ⟨⟨registered, ?_, ?_⟩, ?_⟩ <;> rw [coreRegister] <;> split <;>
      first | exact Subset.refl _ | exact id
  · exact ⟨⟨masks.unregister core, Subset.and_left _ _, Subset.and_left _ _⟩, Settled.unregister⟩
  · exact ⟨⟨{ masks with }, Subset.refl _, Subset.refl _⟩, id⟩

theorem loadComplete_masks (cores : CoreMask) (clock : U32) :
    Masks (loadComplete cores clock) ∧ Settled (loadComplete cores clock) := by
  rw [loadComplete]
  obtain ⟨latency, setup⟩ := jobControlTimeoutSetup_frame _
  rw [setup]
  refine ⟨⟨⟨?_, ?_, ?_, ?_, ?_, ?_, ?_⟩, ?_⟩, rfl, rfl⟩
  · exact Subset.refl _
  · exact Subset.refl _
  · exact Subset.zero _
  · exact Subset.zero _
  · exact Subset.zero _
  · exact BitVec.zero_and
  · exact .inl rfl
  · exact Subset.zero _

def maskProof : pmmWorker.Proof namedCores where
  invariant := Masks
  point := MaskPoint
  rely := MaskRely
  starts := by
    rintro _ _ ⟨rfl, cores, clock, rfl⟩
    exact loadComplete_masks cores clock
  kept := by
    intro control event before after point once happens
    cases control with
    | waiting =>
      obtain ⟨rely, settled⟩ := mask_event point.1 once happens
      exact ⟨rely.masks, settled point.2⟩
    | checking =>
      obtain ⟨rely, settled⟩ := mask_event point.1 once happens
      exact ⟨rely.masks, settled point.2⟩
    | processing _ =>
      obtain ⟨rely, settled⟩ := mask_event point.1 once happens
      exact ⟨rely.masks, settled point.2⟩
    | purgingInternal _ =>
      obtain ⟨rely, _⟩ := mask_event point.1 once happens
      exact ⟨rely.masks, rely.quiet point.2⟩
    | purgingEvents _ =>
      obtain ⟨rely, _⟩ := mask_event point.1 once happens
      exact ⟨rely.masks, rely.quiet point.2⟩
  rely_refl _ masks := ⟨masks, Subset.refl _, Subset.refl _⟩
  rely_trans _ _ _ first second :=
    ⟨second.masks, second.pendUp.trans first.pendUp, second.pendDown.trans first.pendDown⟩
  rely_event _ _ _ masks once happens := (mask_event masks once happens).1
  rely_invariant _ _ rely := rely.masks
  stepped _ _ _ _ point named taken := bottomHalf_keeps point named taken

/-- In every run in which cores are registered once, events name only cores they can be
about and no core is registered anew while it is told to power down, the masks are
ordered in every state in which the lock is free. -/
theorem masks_ordered {configuration : Worker.Configuration PmmState Signal Errcode Control}
    (reached : (pmmWorker.system.restrict namedCores.Holds).Reachable configuration) :
    MasksOrdered configuration.state := by
  have maintained := maskProof.maintained reached
  obtain ⟨pmm, place⟩ := configuration
  cases place with
  | between control =>
    cases control with
    | waiting => exact maintained.1.toMasksOrdered
    | checking => exact maintained.1.toMasksOrdered
    | processing _ => exact maintained.1.toMasksOrdered
    | purgingInternal _ => exact maintained.1.toMasksOrdered
    | purgingEvents _ => exact maintained.1.toMasksOrdered
  | inside call resume => exact maintained.1.toMasksOrdered

theorem masks_ordered_osPowerDown :
    ∃ configuration, (pmmWorker.system.restrict namedCores.Holds).Reachable configuration ∧
      configuration.state.status = .osWaiting ∧ configuration.state.coresPowered = 0 ∧
      MasksOrdered configuration.state := by
  have notified := Worker.reach_event (reach_loaded namedCores.Holds)
    (.notify .osPowerDown 1#32 true) trivial rfl
  have entered := Worker.reach_step notified workingPlatform trivial rfl
  have checked := Worker.reach_step entered workingPlatform trivial rfl
  have signalled := Worker.reach_step checked workingPlatform
    (by rintro event next
        cases next
        trivial) rfl
  have off := Worker.reach_resume signalled .ok rfl
  exact ⟨_, off, rfl, rfl, masks_ordered off⟩

/-- A core that reports a finished job and is unregistered before the report is looked at
becomes idle without being powered. -/
theorem unregistered_core_idle : ∃ configuration, pmmWorker.system.Reachable configuration ∧
      configuration.place = .between .waiting ∧ ¬ MasksOrdered configuration.state := by
  have notified := Worker.reach_event (reach_loaded fun _ _ => True)
    (.notify .jobFinished coreGP true) trivial rfl
  have gone := Worker.reach_event notified (.unregister coreGP) trivial ⟨rfl, rfl⟩
  have entered := Worker.reach_step gone workingPlatform trivial rfl
  have checked := Worker.reach_step entered workingPlatform trivial rfl
  have taken := Worker.reach_step checked workingPlatform trivial rfl
  have left := Worker.reach_step taken workingPlatform trivial rfl
  refine ⟨_, left.of_restrict, rfl, fun ordered => ?_⟩
  exact absurd ordered.idle_powered (by decide)

end Floid.Pmm
