import Floid.Wifi.P2pReceiveContained

/-!
What the firmware is told of power saving: of the leisure power save of a station, and of the
schedule that a P2P group owner announces in its beacons.
-/

namespace Floid.Wifi

open Osk Lib

def psModeActive : U32 := 0
def pmCardDisable : U32 := 10

def psStateS2 : U8 := 0x02
def psStateS4 : U8 := 0x0c

/-- What the functions read and others change. -/
structure LpsLink where
  fwLinked : Bool
  underSurvey : Bool
  apState : Bool
  adhocMasterState : Bool
  adhocState : Bool
  dot11Auth8021X : Bool
  binstallGrpkey : Bool
  bDriverStopped : Bool
  bSurpriseRemoved : Bool
  rfOff : Bool
  currentTime : U32
  lpsDelayTime : U32

structure PwrctrlPriv where
  link : LpsLink
  rpwm : U8
  tog : U8
  pwrMode : U32
  bLeisurePs : Bool
  lpsIdleCount : U8
  powerMgnt : U8
  bFwCurrentInPSMode : Bool
  delayLPSLastTimeStamp : U32
  /-- What `HW_VAR_H2C_FW_PWRMODE` was set to last, and what `set_rpwm` was called with last. -/
  fwPwrmode : Option U32
  requested : Option U8
  hrpwm : Option U8

inductive LpsCtrl where
  | scan
  | joinbss
  | connect
  | disconnect
  | specialPacket

namespace PwrctrlPriv

variable (pwrpriv : PwrctrlPriv)

def setRpwm (val8 : U8) : PwrctrlPriv :=
  let pwrpriv := { pwrpriv with requested := some val8 }
  if pwrpriv.rpwm = val8 ∨ pwrpriv.link.bDriverStopped ∨ pwrpriv.link.bSurpriseRemoved then pwrpriv
  else { pwrpriv with rpwm := val8, hrpwm := some (val8 ||| pwrpriv.tog), tog := pwrpriv.tog + 0x80 }

def psRdyCheck : Bool :=
  let link := pwrpriv.link
  if link.currentTime - pwrpriv.delayLPSLastTimeStamp < link.lpsDelayTime then false
  else if !link.fwLinked || link.apState || link.adhocMasterState || link.adhocState then false
  else !(link.dot11Auth8021X && !link.binstallGrpkey)

def setPsMode (psMode : U32) : PwrctrlPriv :=
  if pmCardDisable < psMode then pwrpriv
  else if pwrpriv.pwrMode = psMode then pwrpriv
  else if psMode = psModeActive then
    { { pwrpriv with pwrMode := psMode }.setRpwm psStateS4 with
      fwPwrmode := some psMode
      bFwCurrentInPSMode := false }
  else if pwrpriv.psRdyCheck then
    { pwrpriv with
      pwrMode := psMode
      bFwCurrentInPSMode := true
      fwPwrmode := some psMode }.setRpwm psStateS2
  else { pwrpriv with pwrMode := psModeActive }

def lpsEnter : PwrctrlPriv :=
  let link := pwrpriv.link
  if !link.fwLinked || link.underSurvey || link.apState || link.adhocMasterState || link.adhocState then
    pwrpriv
  else if pwrpriv.bLeisurePs then
    if 2 ≤ pwrpriv.lpsIdleCount then
      if pwrpriv.pwrMode = psModeActive then pwrpriv.setPsMode (pwrpriv.powerMgnt.setWidth 32) else pwrpriv
    else { pwrpriv with lpsIdleCount := pwrpriv.lpsIdleCount + 1 }
  else pwrpriv

def lpsLeave : PwrctrlPriv :=
  if pwrpriv.bLeisurePs ∧ pwrpriv.pwrMode ≠ psModeActive then pwrpriv.setPsMode psModeActive else pwrpriv

/-- Where the radio is off, `ips_leave` loads the firmware again. -/
def leaveAllPowerSaveMode : PwrctrlPriv :=
  if pwrpriv.link.fwLinked then pwrpriv.lpsLeave
  else if pwrpriv.link.rfOff then { pwrpriv with bFwCurrentInPSMode := false }
  else pwrpriv

/-- `lps_ctrl_wk_hdl`, less the `HW_VAR_H2C_FW_JOINBSSRPT` that it sets. -/
def lpsCtrlWkHdl (lpsCtrlType : LpsCtrl) : PwrctrlPriv :=
  if pwrpriv.link.adhocMasterState || pwrpriv.link.adhocState then pwrpriv
  else
    match lpsCtrlType with
    | .scan => pwrpriv.leaveAllPowerSaveMode
    | .joinbss | .disconnect => pwrpriv.lpsLeave
    | .connect => { pwrpriv with lpsIdleCount := 0 }
    | .specialPacket => { pwrpriv with delayLPSLastTimeStamp := pwrpriv.link.currentTime }.lpsLeave

/-- `init_pwrctrl_priv`. -/
structure Starts : Prop where
  pwrMode : pwrpriv.pwrMode = psModeActive
  bFwCurrentInPSMode : pwrpriv.bFwCurrentInPSMode = false
  fwPwrmode : pwrpriv.fwPwrmode = none
  requested : pwrpriv.requested = none

structure LpsAgrees : Prop where
  firmware : pwrpriv.pwrMode = psModeActive ↔ pwrpriv.fwPwrmode = none ∨ pwrpriv.fwPwrmode = some psModeActive
  flags : pwrpriv.pwrMode = psModeActive ↔
    pwrpriv.bFwCurrentInPSMode = false ∧ pwrpriv.requested ≠ some psStateS2

end PwrctrlPriv

inductive LpsAction where
  | setPsMode (psMode : U32)
  | lpsEnter
  | lpsLeave
  | lpsCtrlWkHdl (lpsCtrlType : LpsCtrl)
  | changes (link : LpsLink)

def LpsAction.run (pwrpriv : PwrctrlPriv) : LpsAction → PwrctrlPriv
  | .setPsMode psMode => pwrpriv.setPsMode psMode
  | .lpsEnter => pwrpriv.lpsEnter
  | .lpsLeave => pwrpriv.lpsLeave
  | .lpsCtrlWkHdl lpsCtrlType => pwrpriv.lpsCtrlWkHdl lpsCtrlType
  | .changes link => { pwrpriv with link }

def lpsSystem : TransitionSystem PwrctrlPriv LpsAction where
  initial := PwrctrlPriv.Starts
  step before action after := after = action.run before

/-- From one power-save mode it goes to another only when the check for that passes. -/
def LpsMeets (pwrpriv : PwrctrlPriv) : LpsAction → Prop
  | .setPsMode psMode => psMode = psModeActive ∨ psMode = pwrpriv.pwrMode ∨ pmCardDisable < psMode ∨
      pwrpriv.pwrMode = psModeActive ∨ pwrpriv.psRdyCheck
  | _ => True

namespace PwrctrlPriv

variable {pwrpriv : PwrctrlPriv}

structure Follows (pwrpriv : PwrctrlPriv) : Prop where
  firmware : pwrpriv.pwrMode = psModeActive ↔ pwrpriv.fwPwrmode = none ∨ pwrpriv.fwPwrmode = some psModeActive
  active : pwrpriv.pwrMode = psModeActive →
    pwrpriv.bFwCurrentInPSMode = false ∧ pwrpriv.requested ≠ some psStateS2
  saving : pwrpriv.pwrMode ≠ psModeActive → pwrpriv.requested = some psStateS2

theorem Follows.agrees (follows : pwrpriv.Follows) : pwrpriv.LpsAgrees where
  firmware := follows.firmware
  flags := ⟨follows.active, fun ⟨_, other⟩ => by
    by_contra saving
    exact other (follows.saving saving)⟩

theorem setRpwm_spec (pwrpriv : PwrctrlPriv) (val8 : U8) :
    (pwrpriv.setRpwm val8).requested = some val8 ∧ (pwrpriv.setRpwm val8).pwrMode = pwrpriv.pwrMode ∧
      (pwrpriv.setRpwm val8).fwPwrmode = pwrpriv.fwPwrmode ∧
      (pwrpriv.setRpwm val8).bFwCurrentInPSMode = pwrpriv.bFwCurrentInPSMode := by
  unfold setRpwm
  dsimp only
  split <;> exact ⟨rfl, rfl, rfl, rfl⟩

theorem Follows.setPsMode {psMode : U32} (follows : pwrpriv.Follows)
    (meets : LpsMeets pwrpriv (.setPsMode psMode)) : (pwrpriv.setPsMode psMode).Follows := by
  rw [PwrctrlPriv.setPsMode]
  split
  · exact follows
  · rename_i known
    split
    · exact follows
    · rename_i other
      split
      · rename_i active
        obtain ⟨requested, mode, -, -⟩ := setRpwm_spec { pwrpriv with pwrMode := psMode } psStateS4
        have now := mode.trans active
        refine ⟨iff_of_true now (.inr (congrArg some active)), fun _ => ⟨rfl, ?_⟩, fun saving => absurd now saving⟩
        exact fun same => absurd (requested.symm.trans same) (by decide)
      · rename_i saving
        split
        · obtain ⟨requested, mode, firmware, -⟩ := setRpwm_spec { pwrpriv with
            pwrMode := psMode
            bFwCurrentInPSMode := true
            fwPwrmode := some psMode } psStateS2
          refine ⟨iff_of_false (mode ▸ saving) ?_, fun active => absurd (mode.symm.trans active) saving, fun _ => requested⟩
          rw [firmware]
          simpa using saving
        · rename_i early
          have before : pwrpriv.pwrMode = psModeActive := by
            rcases meets with active | same | large | before | ready
            · exact absurd active saving
            · exact absurd same.symm other
            · exact absurd large known
            · exact before
            · exact absurd ready early
          exact ⟨iff_of_true rfl (follows.firmware.mp before), fun _ => follows.active before,
            fun saving => absurd rfl saving⟩

theorem Follows.lpsLeave (follows : pwrpriv.Follows) : pwrpriv.lpsLeave.Follows := by
  rw [PwrctrlPriv.lpsLeave]
  split
  · exact follows.setPsMode (.inl rfl)
  · exact follows

theorem Follows.lpsEnter (follows : pwrpriv.Follows) : pwrpriv.lpsEnter.Follows := by
  unfold PwrctrlPriv.lpsEnter
  dsimp only
  split_ifs with _ _ _ active
  · exact follows
  · exact follows.setPsMode (.inr (.inr (.inr (.inl active))))
  · exact follows
  · exact { follows with }
  · exact follows

theorem Follows.lpsCtrlWkHdl (follows : pwrpriv.Follows) (lpsCtrlType : LpsCtrl) :
    (pwrpriv.lpsCtrlWkHdl lpsCtrlType).Follows := by
  unfold PwrctrlPriv.lpsCtrlWkHdl
  split
  · exact follows
  · cases lpsCtrlType with
    | scan =>
      dsimp only [leaveAllPowerSaveMode]
      split_ifs
      · exact follows.lpsLeave
      · exact ⟨follows.firmware, fun active => ⟨rfl, (follows.active active).2⟩, follows.saving⟩
      · exact follows
    | joinbss => exact follows.lpsLeave
    | connect => exact { follows with }
    | disconnect => exact follows.lpsLeave
    | specialPacket =>
      exact Follows.lpsLeave { follows with }

theorem Follows.run {action : LpsAction} (follows : pwrpriv.Follows) (meets : LpsMeets pwrpriv action) :
    (action.run pwrpriv).Follows := by
  cases action with
  | setPsMode psMode => exact follows.setPsMode meets
  | lpsEnter => exact follows.lpsEnter
  | lpsLeave => exact follows.lpsLeave
  | lpsCtrlWkHdl lpsCtrlType => exact follows.lpsCtrlWkHdl lpsCtrlType
  | changes link => exact { follows with }

theorem Starts.follows (starts : pwrpriv.Starts) : pwrpriv.Follows where
  firmware := iff_of_true starts.pwrMode (.inl starts.fwPwrmode)
  active _ := ⟨starts.bFwCurrentInPSMode, by simp [starts.requested]⟩
  saving saving := absurd starts.pwrMode saving

theorem lps_agrees (reached : (lpsSystem.restrict LpsMeets).Reachable pwrpriv) : pwrpriv.LpsAgrees := by
  have follows : pwrpriv.Follows := by
    refine reached.invariant (fun _ starts => starts.follows) ?_
    intro before action _ follows ⟨meets, stepped⟩
    rw [stepped]
    exact follows.run meets
  exact follows.agrees

def linkedUp : LpsLink where
  fwLinked := true
  underSurvey := false
  apState := false
  adhocMasterState := false
  adhocState := false
  dot11Auth8021X := false
  binstallGrpkey := false
  bDriverStopped := false
  bSurpriseRemoved := false
  rfOff := false
  currentTime := 1000
  lpsDelayTime := 100

def awake : PwrctrlPriv := ⟨linkedUp, 0, 0x80, 0, true, 0, 1, false, 0, none, none, none⟩

theorem awake_starts : awake.Starts := ⟨rfl, rfl, rfl, rfl⟩

theorem lps_agrees_saving : (awake.setPsMode 1).LpsAgrees ∧ (awake.setPsMode 1).pwrMode = 1 :=
  ⟨lps_agrees (.next (.setPsMode 1) (.initial awake_starts) ⟨.inr (.inr (.inr (.inl rfl))), rfl⟩), by decide⟩

/-- The link goes while the firmware saves power, and another mode is asked for. -/
theorem lps_disagrees : ∃ pwrpriv, lpsSystem.Reachable pwrpriv ∧ ¬pwrpriv.LpsAgrees := by
  have saving : lpsSystem.Reachable (awake.setPsMode 1) := .next (.setPsMode 1) (.initial awake_starts) rfl
  have left := saving.next (.changes { linkedUp with fwLinked := false }) rfl
  refine ⟨_, left.next (.setPsMode 2) rfl, fun agrees => ?_⟩
  exact absurd (agrees.firmware.mp (by decide)) (by decide)

end PwrctrlPriv

/-- `enum P2P_PS`. -/
inductive P2pPsState where
  | disable
  | enable
  | scan
  | scanDone
  | allstasleep
  deriving DecidableEq

structure PsDriver where
  p2pState : P2pState
  /-- Here `enabled` says whether the last beacon has a schedule. -/
  pwdinfo : P2pPs
  p2pPs : P2pPsState
  p2pPsEnable : Bool
  cmdQueue : List P2pPsState
  /-- What `HW_VAR_H2C_FW_P2P_PS_OFFLOAD` was set to last, and whether the schedule has changed since. -/
  offload : Option P2pPsState
  stale : Prop

def P2pPs.active (pwdinfo : P2pPs) : Prop := pwdinfo.oppPs = 1 ∨ 0 < pwdinfo.noaNum

instance (pwdinfo : P2pPs) : Decidable pwdinfo.active := inferInstanceAs (Decidable (_ ∨ _))

/-- The fields of the schedule are the same. -/
def P2pPs.Same (before after : P2pPs) : Prop := after = { before with enabled := after.enabled }

namespace PsDriver

variable (driver : PsDriver)

def p2pPsWkHdl (p2pPsState : P2pPsState) : PsDriver :=
  let driver := { driver with offload := some p2pPsState, stale := False }
  if p2pPsState = .disable then
    let pwdinfo := { driver.pwdinfo with noaIndex := 0, ctwindow := 0, oppPs := 0, noaNum := 0 }
    { driver with pwdinfo, p2pPsEnable := false, stale := ¬driver.pwdinfo.Same pwdinfo }
  else driver

def p2pPsWkCmd (p2pPsState : P2pPsState) (enqueue : Bool) : PsDriver :=
  if driver.p2pState = .none ∨ driver.p2pPs = p2pPsState then driver
  else if driver.pwdinfo.active then
    let driver := { driver with p2pPs := p2pPsState }
    if enqueue then { driver with cmdQueue := driver.cmdQueue ++ [p2pPsState] }
    else driver.p2pPsWkHdl p2pPsState
  else driver

/-- `process_p2p_ps_ie`. It is `none` where the arrays have no entry left. -/
def beacon (ies : List U8) : Option PsDriver :=
  (processP2pPsIe { driver.pwdinfo with enabled := false } ies).map fun pwdinfo =>
    let driver := { driver with pwdinfo, stale := driver.stale ∨ ¬driver.pwdinfo.Same pwdinfo }
    if pwdinfo.enabled then driver.p2pPsWkCmd .enable true else driver

end PsDriver

inductive PsAction where
  | beacon (ies : List U8)
  | p2pPsWkCmd (p2pPsState : P2pPsState) (enqueue : Bool)
  | runCmd

inductive PsStep : PsDriver → PsAction → PsDriver → Prop where
  | beacon {driver after : PsDriver} {ies : List U8} (ran : driver.beacon ies = some after) :
      PsStep driver (.beacon ies) after
  | p2pPsWkCmd (driver : PsDriver) (p2pPsState : P2pPsState) (enqueue : Bool) :
      PsStep driver (.p2pPsWkCmd p2pPsState enqueue) (driver.p2pPsWkCmd p2pPsState enqueue)
  | runCmd {driver : PsDriver} {p2pPsState : P2pPsState} {rest : List P2pPsState}
      (queued : driver.cmdQueue = p2pPsState :: rest) :
      PsStep driver .runCmd ({ driver with cmdQueue := rest }.p2pPsWkHdl p2pPsState)

namespace PsDriver

structure Starts (driver : PsDriver) : Prop where
  p2pState : driver.p2pState ≠ .none
  pwdinfo : driver.pwdinfo = noPs
  p2pPs : driver.p2pPs = .disable
  cmdQueue : driver.cmdQueue = []
  offload : driver.offload = none
  stale : ¬driver.stale

def system : TransitionSystem PsDriver PsAction := ⟨Starts, PsStep⟩

/-- With no command pending, the firmware has been told since the schedule last changed, and it has
one if and only if the last beacon does. -/
structure PsFollowed (driver : PsDriver) : Prop where
  fresh : driver.cmdQueue = [] → driver.offload.isSome → ¬driver.stale
  scheduled : driver.cmdQueue = [] → driver.pwdinfo.enabled = true →
    ∃ p2pPsState, driver.offload = some p2pPsState ∧ p2pPsState ≠ .disable
  unscheduled : driver.cmdQueue = [] → driver.pwdinfo.enabled = false →
    driver.offload = none ∨ driver.offload = some .disable

/-- A beacon keeps a schedule there is, and one that changes it comes while a command is pending or the
state that was asked for last is another than `P2P_PS_ENABLE`; and nobody asks for
`P2P_PS_DISABLE` while there is a schedule. -/
def PsMeets (driver : PsDriver) : PsAction → Prop
  | .beacon ies => ∃ pwdinfo, processP2pPsIe { driver.pwdinfo with enabled := false } ies = some pwdinfo ∧
      (pwdinfo.enabled = true ↔ pwdinfo.active) ∧ (driver.pwdinfo.active → pwdinfo.active) ∧
      (pwdinfo.active → driver.pwdinfo.Same pwdinfo ∨ driver.p2pPs ≠ .enable ∨ driver.cmdQueue ≠ [])
  | .p2pPsWkCmd p2pPsState _ => p2pPsState = .disable → ¬driver.pwdinfo.active
  | .runCmd => True

structure Told (driver : PsDriver) : Prop where
  p2pState : driver.p2pState ≠ .none
  enabled : driver.pwdinfo.enabled = true ↔ driver.pwdinfo.active
  kept : driver.pwdinfo.active → driver.cmdQueue ≠ [] ∨ driver.offload.isSome ∧ ¬driver.stale
  idle : ¬driver.pwdinfo.active → driver.cmdQueue = [] ∧ driver.offload = none ∧ driver.p2pPs = .disable
  queue : ∀ p2pPsState ∈ driver.cmdQueue, p2pPsState ≠ .disable
  offload : driver.offload ≠ some .disable

variable {driver : PsDriver}

theorem Told.followed (told : driver.Told) : driver.PsFollowed where
  fresh empty some_ := by
    by_cases active : driver.pwdinfo.active
    · exact ((told.kept active).resolve_left (absurd empty)).2
    · rw [(told.idle active).2.1] at some_
      cases some_
  scheduled empty enabled := by
    have sent := ((told.kept (told.enabled.mp enabled)).resolve_left (absurd empty)).1
    obtain ⟨p2pPsState, same⟩ := Option.isSome_iff_exists.mp sent
    exact ⟨p2pPsState, same, fun disable => told.offload (disable ▸ same)⟩
  unscheduled _ enabled := by
    refine .inl (told.idle fun active => ?_).2.1
    rw [told.enabled.mpr active] at enabled
    cases enabled

/-- A command that is run, with the schedule active. -/
theorem Told.p2pPsWkHdl {p2pPsState : P2pPsState} (p2pState : driver.p2pState ≠ .none)
    (enabled : driver.pwdinfo.enabled = true ↔ driver.pwdinfo.active) (active : driver.pwdinfo.active)
    (queue : ∀ p2pPsState ∈ driver.cmdQueue, p2pPsState ≠ .disable) (other : p2pPsState ≠ .disable) :
    (driver.p2pPsWkHdl p2pPsState).Told := by
  rw [PsDriver.p2pPsWkHdl, if_neg other]
  exact ⟨p2pState, enabled, fun _ => .inr ⟨rfl, not_false⟩, fun idle => absurd active idle, queue,
    by simpa using other⟩

theorem Told.p2pPsWkCmd (told : driver.Told) (p2pPsState : P2pPsState) (enqueue : Bool)
    (meets : PsMeets driver (.p2pPsWkCmd p2pPsState enqueue)) :
    (driver.p2pPsWkCmd p2pPsState enqueue).Told := by
  rw [PsDriver.p2pPsWkCmd]
  split_ifs with _ active _
  · exact told
  · have other : p2pPsState ≠ .disable := fun disable => meets disable active
    refine ⟨told.p2pState, told.enabled, fun _ => .inl (by simp), fun idle => absurd active idle, ?_, told.offload⟩
    intro queued member
    rcases List.mem_append.mp member with old | new
    · exact told.queue queued old
    · exact (List.mem_singleton.mp new) ▸ other
  · have other : p2pPsState ≠ .disable := fun disable => meets disable active
    exact .p2pPsWkHdl told.p2pState told.enabled active told.queue other
  · exact told

theorem Told.beacon {ies : List U8} {after : PsDriver} (told : driver.Told)
    (meets : PsMeets driver (.beacon ies)) (ran : driver.beacon ies = some after) : after.Told := by
  obtain ⟨pwdinfo, read, enabled, keeps, changed⟩ := meets
  rw [PsDriver.beacon, read, Option.map_some, Option.some.injEq] at ran
  subst ran
  dsimp only
  by_cases active : pwdinfo.active
  · rw [if_pos (enabled.mpr active)]
    rw [PsDriver.p2pPsWkCmd]
    dsimp only
    by_cases already : driver.p2pPs = .enable
    · rw [if_pos (.inr already)]
      refine ⟨told.p2pState, enabled, fun _ => ?_, fun idle => absurd active idle, told.queue, told.offload⟩
      have before : driver.pwdinfo.active := by
        by_contra idle
        have state := (told.idle idle).2.2
        rw [already] at state
        cases state
      rcases changed active with same | other | pending
      · exact (told.kept before).imp_right fun ⟨sent, fresh⟩ => ⟨sent, not_or.mpr ⟨fresh, not_not_intro same⟩⟩
      · exact absurd already other
      · exact .inl pending
    · rw [if_neg (not_or.mpr ⟨told.p2pState, already⟩), if_pos active]
      refine ⟨told.p2pState, enabled, fun _ => .inl (by simp), fun idle => absurd active idle, ?_, told.offload⟩
      intro queued member
      rcases List.mem_append.mp member with old | new
      · exact told.queue queued old
      · rw [List.mem_singleton.mp new]
        decide
  · rw [if_neg fun on => active (enabled.mp on)]
    exact ⟨told.p2pState, enabled, fun now => absurd now active, fun _ => told.idle fun before => active (keeps before),
      told.queue, told.offload⟩

theorem Told.step {action : PsAction} {after : PsDriver} (told : driver.Told)
    (meets : PsMeets driver action) (stepped : PsStep driver action after) : after.Told := by
  cases stepped with
  | beacon ran => exact told.beacon meets ran
  | p2pPsWkCmd p2pPsState enqueue => exact told.p2pPsWkCmd p2pPsState enqueue meets
  | runCmd queued =>
    rename_i rest
    have active : driver.pwdinfo.active := by
      by_contra idle
      rw [(told.idle idle).1] at queued
      cases queued
    have queue := told.queue
    rw [queued] at queue
    exact .p2pPsWkHdl told.p2pState told.enabled active
      (fun queued member => queue queued (List.mem_cons_of_mem _ member)) (queue _ List.mem_cons_self)

def listening : PsDriver := ⟨.idle, noPs, .disable, false, [], none, False⟩

theorem listening_starts : listening.Starts := ⟨by decide, rfl, rfl, rfl, rfl, not_false⟩

theorem processP2pPsIe_enabled {ies : List U8} {after : P2pPs} (read : processP2pPsIe noPs ies = some after)
    (some_ : 0 < after.noaNum) : after.enabled = true := by
  unfold processP2pPsIe at read
  simp only [Option.bind_eq_bind, Option.bind_eq_some_iff] at read
  obtain ⟨copied, -, read⟩ := read
  split at read
  · cases read
    cases some_
  · obtain ⟨⟨found, noaAttr, attrContentlen⟩, -, read⟩ := Option.bind_eq_some_iff.mp read
    dsimp only at read
    split at read
    · obtain ⟨⟨pwdinfo, noaNum⟩, -, read⟩ := Option.bind_eq_some_iff.mp read
      cases read
      simp only [Bool.or_eq_true, decide_eq_true_eq]
      exact .inr some_
    · cases read
      cases some_

theorem processP2pPsIe_nil (pwdinfo : P2pPs) : processP2pPsIe pwdinfo [] = some pwdinfo := by
  have absent : getVendorIe WifidirectInfo.p2poui [] 0 = some none := by
    unfold getVendorIe
    exact if_neg (Nat.lt_irrefl 0)
  rw [processP2pPsIe, List.length_nil, getP2pIeInto, absent]
  rfl

end PsDriver

end Floid.Wifi
