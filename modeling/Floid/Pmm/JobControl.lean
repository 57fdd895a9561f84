import Floid.Pmm.Cores

namespace Floid.Pmm

open Osk Lib

def inactivityTimeout : U32 := 50#32

def jobControlTimeoutSetup (pmm : PmmState) : PmmState :=
  if 0 < pmm.latency.timeout ∧ pmm.coresPowered ≠ 0 then
    if pmm.status = .idle ∧ pmm.coresIdle = pmm.coresPowered then policyTimerStart pmm
    else policyTimerStop pmm
  else pmm

theorem jobControlTimeoutSetup_frame (pmm : PmmState) :
    ∃ latency, jobControlTimeoutSetup pmm = { pmm with latency } := by
  rw [jobControlTimeoutSetup]
  split
  · split
    · exact policyTimerStart_frame pmm
    · exact policyTimerStop_frame pmm
  · exact ⟨pmm.latency, rfl⟩

def jobControlTimeoutValid (timerStart : U32) (pmm : PmmState) : Bool :=
  pmm.latency.timeout ≠ 0 && pmm.coresPowered ≠ 0 && pmm.coresIdle = pmm.coresPowered &&
    policyTimerValid timerStart pmm.coreActiveStart

def jobControlJobQueued (platform : Platform) (pmm : PmmState) : Run Unit :=
  let (coresSubset, pmm) := coresToPowerUp pmm.coresRegistered pmm
  if coresSubset ≠ 0 then
    (invokePowerUp platform pmm).bind fun finished pmm =>
      if finished then .done () pmm else .done () { pmm with status := .policyPowerUp }
  else .done () pmm

def processed (pmm : PmmState) : Run Errcode := .done .ok (jobControlTimeoutSetup pmm)

def idleDvfsPause (event : Message) (cores : CoreMask) (pmm : PmmState) : Run Errcode :=
  (coresToPowerDown cores false pmm).bind fun coresSubset pmm =>
    if coresSubset ≠ 0 ∧ ¬ powerDownOkay pmm then
      processed (saveOsEventData event.data
        { pmm with isDvfsActive := true, status := .osPowerDown })
    else processed (replyWith (.dvfsOperationDone 0#32) { pmm with status := .dvfsPause })

def idleOsPowerDown (platform : Platform) (event : Message) (cores : CoreMask) (pmm : PmmState) : Run Errcode :=
  let down (pmm : PmmState) : Run Errcode :=
    processed (replyWith (.powerDownDone event.data) { pmm with status := .osWaiting })
  (coresToPowerDown cores false pmm).bind fun coresSubset pmm =>
    if coresSubset ≠ 0 then
      match invokePowerDown platform pmm with
      | (true, pmm) => down pmm
      | (false, pmm) =>
          processed (saveOsEventData event.data { pmm with status := .osPowerDown })
    else down pmm

def idleTimeout (platform : Platform) (event : Message) (cores : CoreMask) (pmm : PmmState) : Run Errcode :=
  if jobControlTimeoutValid event.data pmm then
    (coresToPowerDown cores true pmm).bind fun coresSubset pmm =>
      if coresSubset ≠ 0 then
        match invokePowerDown platform pmm with
        | (true, pmm) => processed pmm
        | (false, pmm) => (powerDownCancel pmm).bind fun _ pmm => processed pmm
      else processed pmm
  else processed pmm

def processIdle (platform : Platform) (event : Message) (cores : CoreMask) (pmm : PmmState) : Run Errcode :=
  match event.id with
  | .osPowerUp => processed pmm
  | .jobScheduled =>
      (jobControlJobQueued platform
        { coresSetActive cores pmm with coreActiveStart := event.ts }).bind fun _ pmm =>
          processed pmm
  | .jobQueued => (jobControlJobQueued platform pmm).bind fun _ pmm => processed pmm
  | .dvfsPause => idleDvfsPause event cores pmm
  | .osPowerDown => idleOsPowerDown platform event cores pmm
  | .jobFinished =>
      let pmm := coresSetIdle cores pmm
      -- with a timeout the cores stay on until it fires
      if 0 < inactivityTimeout then processed pmm
      else idleTimeout platform event pmm.coresPowered pmm
  | .timeout => idleTimeout platform event cores pmm
  | _ => .done .itemNotFound pmm

def processDvfsPause (platform : Platform) (event : Message) (pmm : PmmState) : Run Errcode :=
  match event.id with
  | .dvfsResume =>
      let resumed (pmm : PmmState) : Run Errcode :=
        processed (replyWith (.dvfsOperationDone 0#32) pmm)
      if pmm.coresPowered ≠ 0 then
        (powerDownCancel { pmm with coresAckDown := 0#32 }).bind fun _ pmm =>
          resumed { pmm with status := .idle }
      else (jobControlJobQueued platform pmm).bind fun _ pmm => resumed pmm
  | .osPowerDown =>
      let waiting := { pmm with status := .osWaiting }
      let pmm := if waiting.coresPowered ≠ 0 then (invokePowerDown platform waiting).2 else waiting
      processed (replyWith (.powerDownDone 0#32) pmm)
  | _ => processed pmm

def processPowerUp (platform : Platform) (event : Message) (cores : CoreMask) (pmm : PmmState) : Run Errcode :=
  match event.id with
  | .internalPowerUpAck =>
      (invokePowerUp platform (coresSetUpAck cores pmm)).bind fun finished pmm =>
        if finished then
          let pmm :=
            if pmm.status = .osPowerUp then replyRetrieved .powerUpDone pmm else pmm
          processed { pmm with status := .idle }
        else processed pmm
  | _ => .done .itemNotFound pmm

def processPowerDown (platform : Platform) (event : Message) (cores : CoreMask) (pmm : PmmState) : Run Errcode :=
  match event.id with
  | .internalPowerDownAck =>
      let pmm := coresSetDownAck cores pmm
      if pmm.isDvfsActive then
        if powerDownOkay pmm then
          processed (replyRetrieved .dvfsOperationDone
            { pmm with isDvfsActive := false, status := .dvfsPause })
        else processed pmm
      else
        match invokePowerDown platform pmm with
        | (true, pmm) =>
            let pmm :=
              if pmm.status = .osPowerDown then replyRetrieved .powerDownDone pmm else pmm
            processed { pmm with status := .osWaiting }
        | (false, pmm) => processed pmm
  | _ => .done .itemNotFound pmm

def processOsWaiting (platform : Platform) (event : Message) (cores : CoreMask) (pmm : PmmState) : Run Errcode :=
  match event.id with
  | .osPowerUp =>
      let up (pmm : PmmState) : Run Errcode :=
        processed (replyWith (.powerUpDone event.data) { pmm with status := .idle })
      let (coresSubset, pmm) := coresToPowerUp cores pmm
      if coresSubset ≠ 0 then
        (invokePowerUp platform pmm).bind fun finished pmm =>
          if finished then up pmm
          else processed (saveOsEventData event.data { pmm with status := .osPowerUp })
      else up pmm
  | _ => processed pmm

def processJobControl (platform : Platform) (event : Message) (pmm : PmmState) : Run Errcode :=
  let cores := coresFromEventData pmm event
  match pmm.status with
  | .idle => processIdle platform event cores pmm
  | .dvfsPause => processDvfsPause platform event pmm
  | .osPowerUp | .policyPowerUp => processPowerUp platform event cores pmm
  | .osPowerDown | .policyPowerDown => processPowerDown platform event cores pmm
  | .osWaiting => processOsWaiting platform event cores pmm
  | .off => .done .fault pmm

/-- What the decisions of the policy leave alone. They change which cores are going up or
down, the status, the replies and the timer. -/
def PmmState.work (pmm : PmmState) :=
  ((pmm.coresRegistered, pmm.coresPowered, pmm.coresIdle, pmm.coresAckUp),
    (pmm.queue, pmm.iqueue, pmm.messagesQueued, pmm.irqPending), pmm.fatalPowerErr, pmm.history)

section Along

variable {platform : Platform} {invariant : PmmState → Prop}
  {rely : Signal → Errcode → PmmState → PmmState → Prop} {property : PmmState → Prop}

structure Signalled (invariant : PmmState → Prop)
    (rely : Signal → Errcode → PmmState → PmmState → Prop) (property : PmmState → Prop) : Prop where
  holds : ∀ pmm, property pmm → invariant pmm
  relied : ∀ call answer before after, property before → rely call answer before after → property after

variable {pmm : PmmState} {list : List CoreMask}

theorem Signalled.cancelled {pd : CoreMask} (signalled : Signalled invariant rely property)
    (held : property pmm) : (signalCancelled list pd pmm).Ensures invariant rely fun _ => property := by
  induction list generalizing pmm pd with
  | nil => exact held
  | cons core rest ih =>
    rw [signalCancelled]
    split
    · exact ⟨signalled.holds _ held, fun _ _ rely => ih (signalled.relied _ _ _ _ held rely)⟩
    · exact ih held

theorem Signalled.pendingUp (signalled : Signalled invariant rely property)
    (held : property pmm) : (signalPendingUp list pmm).Ensures invariant rely fun _ => property := by
  induction list generalizing pmm with
  | nil => exact held
  | cons core rest ih =>
    rw [signalPendingUp]
    split
    · exact ⟨signalled.holds _ held, fun _ _ rely => ih (signalled.relied _ _ _ _ held rely)⟩
    · exact ih held

theorem Signalled.registered (signalled : Signalled invariant rely property)
    (held : property pmm) : (signalRegistered list pmm).Ensures invariant rely fun _ => property := by
  induction list generalizing pmm with
  | nil => exact held
  | cons core rest ih =>
    rw [signalRegistered]
    split
    · exact ⟨signalled.holds _ held, fun _ _ rely => ih (signalled.relied _ _ _ _ held rely)⟩
    · exact ih held

/-- A property of the work that the policy carries through each of its decisions, once the
power goes off and comes on with it. -/
structure Carried (platform : Platform) (invariant : PmmState → Prop)
    (rely : Signal → Errcode → PmmState → PmmState → Prop) (property : PmmState → Prop) : Prop
    extends Signalled invariant rely property where
  same : ∀ before after, property before → after.work = before.work → property after
  down : ∀ pmm, property pmm → property (invokePowerDown platform pmm).2
  up : ∀ cores pmm, property pmm → (coresToPowerUp cores pmm).1 ≠ 0 →
    (invokePowerUp platform (coresToPowerUp cores pmm).2).Ensures invariant rely fun _ => property

namespace Carried

variable {cores : CoreMask} {immediateOnly : Bool} {event : Message}

theorem processed (carried : Carried platform invariant rely property) (held : property pmm) :
    (processed pmm).Ensures invariant rely fun _ => property := by
  obtain ⟨latency, setup⟩ := jobControlTimeoutSetup_frame pmm
  rw [Pmm.processed, setup]
  exact carried.same _ _ held rfl

theorem processedAs (carried : Carried platform invariant rely property) {after : PmmState}
    (held : property pmm) (same : after.work = pmm.work) :
    (Pmm.processed after).Ensures invariant rely fun _ => property :=
  carried.processed (carried.same _ _ held same)

theorem powerDown {coresSubset : CoreMask} (carried : Carried platform invariant rely property)
    (held : property pmm) : (signalPowerDown cores immediateOnly list coresSubset pmm).Ensures
      invariant rely fun _ => property := by
  induction list generalizing pmm coresSubset with
  | nil => exact held
  | cons core rest ih =>
    rw [signalPowerDown]
    split
    · have marked : property { pmm with coresPendDown := pmm.coresPendDown ||| core } :=
        carried.same _ _ held rfl
      refine ⟨carried.holds _ marked, fun answer after rely => ?_⟩
      have relied := carried.relied _ _ _ _ marked rely
      dsimp only
      split
      · exact ih (carried.same _ _ relied rfl)
      · exact ih relied
    · exact ih held

theorem powerDownCancel (carried : Carried platform invariant rely property) (held : property pmm) :
    (powerDownCancel pmm).Ensures invariant rely fun _ => property :=
  carried.cancelled (carried.same _ _ held rfl)

theorem jobQueued (carried : Carried platform invariant rely property) (held : property pmm) :
    (jobControlJobQueued platform pmm).Ensures invariant rely fun _ => property := by
  have up := carried.up pmm.coresRegistered pmm held
  rw [jobControlJobQueued]
  dsimp only
  split
  · rename_i some
    apply (up some).bind
    intro finished after held
    split
    · exact held
    · exact carried.same _ _ held rfl
  · rename_i none
    rw [coresToPowerUp] at none ⊢
    dsimp only at none ⊢
    rw [if_neg none]
    exact held

theorem dvfsPause (carried : Carried platform invariant rely property) (held : property pmm) :
    (idleDvfsPause event cores pmm).Ensures invariant rely fun _ => property := by
  rw [idleDvfsPause]
  apply (carried.powerDown held).bind
  intro left after held
  split
  · exact carried.processedAs held rfl
  · exact carried.processedAs held rfl

theorem osPowerDown (carried : Carried platform invariant rely property) (held : property pmm) :
    (idleOsPowerDown platform event cores pmm).Ensures invariant rely fun _ => property := by
  rw [idleOsPowerDown]
  apply (carried.powerDown held).bind
  intro left after held
  split
  · have off := carried.down after held
    generalize invokePowerDown platform after = invoked at *
    obtain ⟨_ | _, down⟩ := invoked
    · exact carried.processedAs off rfl
    · exact carried.processedAs off rfl
  · exact carried.processedAs held rfl

theorem timeout (carried : Carried platform invariant rely property) (held : property pmm) :
    (idleTimeout platform event cores pmm).Ensures invariant rely fun _ => property := by
  rw [idleTimeout]
  split
  · apply (carried.powerDown held).bind
    intro left after held
    split
    · have off := carried.down after held
      generalize invokePowerDown platform after = invoked at *
      obtain ⟨_ | _, down⟩ := invoked
      · exact (carried.powerDownCancel off).bind fun _ _ held => carried.processed held
      · exact carried.processed off
    · exact carried.processed held
  · exact carried.processed held

/-- A job that starts or ends changes the work: its cores are set active or idle first. -/
theorem idle (carried : Carried platform invariant rely property)
    (scheduled : event.id = .jobScheduled → property (coresSetActive cores pmm))
    (finished : event.id = .jobFinished → property (coresSetIdle cores pmm))
    (other : event.id ≠ .jobScheduled → event.id ≠ .jobFinished → property pmm) :
    (processIdle platform event cores pmm).Ensures invariant rely fun _ => property := by
  rw [processIdle]
  split
  · rename_i kind
    exact carried.processed (other (by simp [kind]) (by simp [kind]))
  · rename_i kind
    have active : property { coresSetActive cores pmm with coreActiveStart := event.ts } :=
      carried.same _ _ (scheduled kind) rfl
    apply (carried.jobQueued active).bind
    exact fun _ _ held => carried.processed held
  · rename_i kind
    apply (carried.jobQueued (other (by simp [kind]) (by simp [kind]))).bind
    exact fun _ _ held => carried.processed held
  · rename_i kind
    exact carried.dvfsPause (other (by simp [kind]) (by simp [kind]))
  · rename_i kind
    exact carried.osPowerDown (other (by simp [kind]) (by simp [kind]))
  · rename_i kind
    dsimp only
    split
    · exact carried.processed (finished kind)
    · exact carried.timeout (finished kind)
  · rename_i kind
    exact carried.timeout (other (by simp [kind]) (by simp [kind]))
  · rename_i notScheduled _ _ _ notFinished _
    exact other notScheduled notFinished

theorem paused (carried : Carried platform invariant rely property) (held : property pmm) :
    (processDvfsPause platform event pmm).Ensures invariant rely fun _ => property := by
  rw [processDvfsPause]
  split
  · dsimp only
    split
    · apply (carried.powerDownCancel (carried.same _ _ held rfl)).bind
      exact fun _ _ held => carried.processedAs held rfl
    · apply (carried.jobQueued held).bind
      exact fun _ _ held => carried.processedAs held rfl
  · have waiting : property { pmm with status := .osWaiting } := carried.same _ _ held rfl
    dsimp only
    split
    · exact carried.processedAs (carried.down _ waiting) rfl
    · exact carried.processedAs waiting rfl
  · exact carried.processed held

theorem goingDown (carried : Carried platform invariant rely property) (held : property pmm) :
    (processPowerDown platform event cores pmm).Ensures invariant rely fun _ => property := by
  rw [processPowerDown]
  split
  · have acked : property (coresSetDownAck cores pmm) := carried.same _ _ held rfl
    dsimp only
    split
    · split
      · exact carried.processedAs acked rfl
      · exact carried.processed acked
    · have off := carried.down _ acked
      generalize invokePowerDown platform (coresSetDownAck cores pmm) = invoked at *
      obtain ⟨_ | _, down⟩ := invoked
      · exact carried.processed off
      · dsimp only
        split
        · exact carried.processedAs off rfl
        · exact carried.processedAs off rfl
  · exact held

theorem osWaiting (carried : Carried platform invariant rely property) (held : property pmm) :
    (processOsWaiting platform event cores pmm).Ensures invariant rely fun _ => property := by
  have up := carried.up cores pmm held
  rw [processOsWaiting]
  split
  · dsimp only
    split
    · rename_i some
      apply (up some).bind
      intro finished after held
      split
      · exact carried.processedAs held rfl
      · exact carried.processedAs held rfl
    · rename_i none
      rw [coresToPowerUp] at none ⊢
      dsimp only at none ⊢
      rw [if_neg none]
      exact carried.processedAs held rfl
  · exact carried.processed held

end Carried

end Along

end Floid.Pmm
