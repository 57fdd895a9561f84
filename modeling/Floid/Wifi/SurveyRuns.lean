import Floid.Wifi.Survey

namespace Floid.Wifi

open Osk Lib
open List (foldl_cons mem_append mem_singleton not_mem_nil take_length)

structure Operating where
  curChannel : U8
  curChOffset : U8
  curBwmode : U16
  dmFlag : U8
  deriving DecidableEq, Repr

structure ScanEnd where
  saved : Operating
  reports : Nat
  state : ScanState
  txpause : U8
  tuning : Tuning
  dmFlag : U8
  deriving DecidableEq, Repr

structure SurveyHistory where
  /-- The indexes that `channel_set` has been used with. -/
  indexes : List Int
  pass : List U8
  passes : List (List U8)
  scanning : Bool
  saved : Operating
  reports : Nat
  ended : List ScanEnd
  deriving DecidableEq, Repr

structure SurveyRun where
  adapter : SurveyAdapter
  history : SurveyHistory

inductive SurveyAction where
  /-- `sitesurvey_cmd`. -/
  | submit (parm : SitesurveyParm)
  | execute (antDiv doneAllocated : Bool)
  | expiry (allocated : Bool)
  | receive (frame : SurveyFrame) (beacon allocated : Bool)
  | link (state : U32)
  | operate (operating : Operating)

def SurveyAdapter.channels (adapter : SurveyAdapter) : List U8 :=
  (adapter.channelSet.toList.map ChannelInfo.channelNum).takeWhile (· ≠ 0)

def SurveyAdapter.operating (adapter : SurveyAdapter) : Operating :=
  ⟨adapter.curChannel, adapter.curChOffset, adapter.curBwmode, adapter.dmFlag⟩

namespace SurveyHistory

def effect (saved : Operating) (history : SurveyHistory) : SurveyEffect → SurveyHistory
  | .started => { history with pass := [], scanning := true, saved, reports := 0 }
  | .indexed index => { history with indexes := history.indexes ++ [index] }
  | .surveyed channel => { history with pass := history.pass ++ [channel] }
  | .rescanned => { history with passes := history.passes ++ [history.pass], pass := [] }
  | .surveydone _ => { history with reports := history.reports + 1 }
  | .probereq | .probereqP2p | .nulldata _ | .survey _ | .bssCoexistPacket => history

def close (history : SurveyHistory) (after : SurveyAdapter) : SurveyHistory :=
  if history.scanning ∧ (after.res.state = .disable ∨ history.reports ≠ 0) then
    { history with
      passes := history.passes ++ [history.pass]
      scanning := false
      ended := history.ended ++
        [⟨history.saved, history.reports, after.res.state, after.txpause, after.tuning, after.dmFlag⟩] }
  else history

def record (history : SurveyHistory) (before after : SurveyAdapter) (effects : List SurveyEffect) : SurveyHistory :=
  (effects.foldl (effect before.operating) history).close after

end SurveyHistory

namespace SurveyRun

def handle (run : SurveyRun) (result : SurveyAdapter × List SurveyEffect) : SurveyRun where
  adapter := result.1
  history := run.history.record run.adapter result.1 result.2

def step (run : SurveyRun) : SurveyAction → SurveyRun
  | .submit parm =>
      { run with adapter := { run.adapter with commands := run.adapter.commands ++ [parm] } }
  | .execute antDiv doneAllocated =>
      match run.adapter.commands with
      | [] => run
      | parm :: commands =>
          let adapter := { run.adapter with commands }
          run.handle (adapter.sitesurveyCmdHdl parm antDiv doneAllocated)
  | .expiry allocated =>
      if run.adapter.surveyTimer then
        let adapter := { run.adapter with surveyTimer := false }
        run.handle (adapter.surveyTimerHdl allocated, [])
      else run
  | .receive frame beacon allocated => run.handle (run.adapter.onSurveyFrame frame beacon allocated)
  | .link state => { run with adapter := { run.adapter with state } }
  | .operate operating =>
      if run.adapter.res.state = .disable then
        { run with
          adapter :=
            { run.adapter with
              curChannel := operating.curChannel
              curChOffset := operating.curChOffset
              curBwmode := operating.curBwmode
              dmFlag := operating.dmFlag } }
      else run

structure Surveys (run : SurveyRun) : Prop where
  indexes : ∀ index ∈ run.history.indexes, 0 ≤ index ∧ index ≤ run.adapter.channels.length
  pass : run.history.pass <+: run.adapter.channels
  passes : ∀ pass ∈ run.history.passes, pass = run.adapter.channels
  ended : ∀ scan ∈ run.history.ended,
    scan.reports = 1 ∧ scan.state = .disable ∧ scan.txpause = 0 ∧
      scan.tuning = SurveyAdapter.tune scan.saved.curChannel scan.saved.curChOffset
        scan.saved.curBwmode ∧
      scan.dmFlag = scan.saved.dmFlag

end SurveyRun

def surveySystem : TransitionSystem SurveyRun SurveyAction where
  initial run :=
    run.adapter.res.state = .disable ∧ run.adapter.channels.length < numChannels ∧
      run.adapter.p2p.p2pState.searching = false ∧
      run.history = ⟨[], [], [], false, run.adapter.operating, 0, []⟩
  step run action after := after = run.step action

/-- The command is not one for a channel that has been visited already, the event at the end
finds memory, and no frame needs the place of the survey while there is none. -/
def SurveyExpected (run : SurveyRun) : SurveyAction → Prop
  | .execute _ doneAllocated =>
      doneAllocated = true ∧ run.adapter.p2p.p2pState ≠ .gonegoOk ∧
        (run.adapter.res.state = .process → run.adapter.surveyTimer = false)
  | .receive frame _ allocated =>
      run.adapter.res.state = .process → run.adapter.res.channelIdx = -1 → allocated = true →
        ∀ bss, frame.collectHead run.adapter.antenna = some bss → (frame.channelElement bss).isSome = true
  | .submit _ | .expiry _ | .link _ | .operate _ => True

namespace SurveyAdapter

variable {adapter : SurveyAdapter} {place : Nat}

def numbers (adapter : SurveyAdapter) : List U8 :=
  adapter.channelSet.toList.map ChannelInfo.channelNum

theorem length_numbers : adapter.numbers.length = numChannels := by
  simp [numbers]

theorem channels_start_numbers : adapter.channels <+: adapter.numbers :=
  List.takeWhile_prefix _

theorem channelAt_numbers (inside : place < adapter.numbers.length) :
    (adapter.channelAt place).channelNum = adapter.numbers[place] := by
  have within : place < numChannels := length_numbers ▸ inside
  rw [channelAt, dif_pos (by omega)]
  simp [numbers, Vector.get]

theorem channelAt_channels (inside : place < adapter.channels.length) :
    (adapter.channelAt place).channelNum = adapter.channels[place] ∧ adapter.channels[place] ≠ 0 := by
  constructor
  · rw [channelAt_numbers (Nat.lt_of_lt_of_le inside channels_start_numbers.length_le)]
    exact (channels_start_numbers.getElem inside).symm
  · have all := List.all_eq_true.mp (List.all_takeWhile (p := fun channel : U8 => channel ≠ 0)
      (l := adapter.numbers)) _ (List.getElem_mem inside)
    simpa using all

theorem channelAt_end (bounded : adapter.channels.length < numChannels) :
    (adapter.channelAt adapter.channels.length).channelNum = 0 := by
  have inside : adapter.channels.length < adapter.numbers.length := length_numbers ▸ bounded
  rw [channelAt_numbers inside]
  have shape : adapter.channels =
      adapter.numbers.take (adapter.numbers.findIdx fun channel => !decide (channel ≠ 0)) :=
    List.takeWhile_eq_take_findIdx_not
  have length := congrArg List.length shape
  rw [List.length_take] at length
  have found : adapter.channels.length = adapter.numbers.findIdx fun channel => !decide (channel ≠ 0) := by
    omega
  have zero := List.findIdx_getElem (w := found ▸ inside)
  simp only [← found] at zero
  simpa using zero

theorem nextChannel_indexed (notOk : adapter.p2p.p2pState ≠ .gonegoOk) (found : adapter.res.channelIdx = place) :
    adapter.nextChannel = (adapter, adapter.channelAt place, [.indexed place]) := by
  simp [nextChannel, notOk, found]

variable {doneAllocated : Bool}

theorem siteSurvey_channel {antDiv : Bool}
    (notOk : adapter.p2p.p2pState ≠ .gonegoOk) (found : adapter.res.channelIdx = place)
    (inside : place < adapter.channels.length) :
    adapter.siteSurvey antDiv doneAllocated =
      ((adapter.surveyChannel (adapter.channelAt place)).1,
        .indexed place :: (adapter.surveyChannel (adapter.channelAt place)).2) := by
  have nonzero : (adapter.channelAt place).channelNum ≠ 0 := by
    rw [(channelAt_channels inside).1]
    exact (channelAt_channels inside).2
  simp only [siteSurvey, nextChannel_indexed notOk found, if_pos nonzero, List.singleton_append]

theorem siteSurvey_rescan (notOk : adapter.p2p.p2pState ≠ .gonegoOk) (idle : adapter.p2p.p2pState.searching = false)
    (found : adapter.res.channelIdx = adapter.channels.length)
    (bounded : adapter.channels.length < numChannels) :
    adapter.siteSurvey true doneAllocated =
      ({ adapter with
          res := { adapter.res with bssCnt := 0, channelIdx := -1 }
          chanScanTime := surveyTo / 2
          surveyTimer := true },
        [.indexed adapter.channels.length, .rescanned]) := by
  simp [siteSurvey, nextChannel_indexed notOk found, idle, channelAt_end bounded]

theorem siteSurvey_done (notOk : adapter.p2p.p2pState ≠ .gonegoOk) (idle : adapter.p2p.p2pState.searching = false)
    (found : adapter.res.channelIdx = adapter.channels.length)
    (bounded : adapter.channels.length < numChannels) :
    adapter.siteSurvey false doneAllocated =
      ((adapter.surveyDone doneAllocated).1,
        .indexed adapter.channels.length :: (adapter.surveyDone doneAllocated).2) := by
  simp [siteSurvey, nextChannel_indexed notOk found, idle, channelAt_end bounded]

theorem surveyChannel_fields (info : ChannelInfo) : ∃ tuning, (adapter.surveyChannel info).1 =
      { adapter with tuning, txpause := adapter.txpause ||| 0x0f, surveyTimer := true } := by
  simp only [surveyChannel]
  split
  · exact ⟨_, rfl⟩
  · exact ⟨_, rfl⟩

theorem surveyDone_fields (notOk : adapter.p2p.p2pState ≠ .gonegoOk) (idle : adapter.p2p.p2pState.searching = false) :
    (adapter.surveyDone true).1 =
      { adapter with
        tuning := tune adapter.curChannel adapter.curChOffset adapter.curBwmode
        txpause := 0
        underSurvey := false
        msr := (adapter.state &&& 0x3).setWidth 8
        dmFlag := adapter.dmFlagTmp
        gain := if adapter.dmFlagTmp &&& dynamicFuncDig ≠ 0 then adapter.curIgValue else adapter.gain
        chanScanTime := surveyTo
        res := { adapter.res with state := .disable } } := by
  simp [surveyDone, notOk, idle, setChannelBwmode, restoreDmFuncFlag]

end SurveyAdapter

namespace SurveyHistory

variable {adapter : SurveyAdapter} {history : SurveyHistory} {saved : Operating}

theorem foldl_surveyChannel (info : ChannelInfo) : (adapter.surveyChannel info).2.foldl (effect saved) history =
      { history with pass := history.pass ++ [info.channelNum] } := by
  simp only [SurveyAdapter.surveyChannel, foldl_cons]
  -- the two ways to tune, and the kinds of probe requests
  split
  · split
    · split <;> rfl
    · rfl
  · split
    · split <;> rfl
    · rfl

theorem foldl_surveyDone : (adapter.surveyDone true).2.foldl (effect saved) history =
      { history with reports := history.reports + 1 } := by
  unfold SurveyAdapter.surveyDone
  dsimp only
  generalize SurveyAdapter.isClientAssociatedToAp _ = associated
  cases associated <;> rfl

end SurveyHistory

namespace SurveyRun

structure Kept (adapter : SurveyAdapter) (history : SurveyHistory) : Prop where
  bounded : adapter.channels.length < numChannels
  idle : adapter.p2p.p2pState.searching = false
  indexes : ∀ index ∈ history.indexes, 0 ≤ index ∧ index ≤ adapter.channels.length
  passes : ∀ pass ∈ history.passes, pass = adapter.channels
  ended : ∀ scan ∈ history.ended,
    scan.reports = 1 ∧ scan.state = .disable ∧ scan.txpause = 0 ∧
      scan.tuning = SurveyAdapter.tune scan.saved.curChannel scan.saved.curChOffset
        scan.saved.curBwmode ∧
      scan.dmFlag = scan.saved.dmFlag

structure Underway (adapter : SurveyAdapter) (history : SurveyHistory) (dmFlag : U8) : Prop
    extends Kept adapter history where
  scanning : history.scanning = true
  reports : history.reports = 0
  saved : history.saved = ⟨adapter.curChannel, adapter.curChOffset, adapter.curBwmode, dmFlag⟩

structure Ready (adapter : SurveyAdapter) (history : SurveyHistory) (place : Nat) : Prop
    extends Underway adapter history adapter.dmFlagTmp where
  state : adapter.res.state = .process
  found : adapter.res.channelIdx = place
  inside : place ≤ adapter.channels.length
  pass : history.pass = adapter.channels.take place

structure Dwelling (adapter : SurveyAdapter) (history : SurveyHistory) (place : Nat) : Prop
    extends Underway adapter history adapter.dmFlagTmp where
  state : adapter.res.state = .process
  timer : adapter.surveyTimer = true
  found : adapter.res.channelIdx = place - 1
  inside : place ≤ adapter.channels.length
  pass : history.pass = adapter.channels.take place

inductive Good (adapter : SurveyAdapter) (history : SurveyHistory) : Prop where
  | idle (kept : Kept adapter history) (state : adapter.res.state = .disable)
      (scanning : history.scanning = false) (pass : history.pass <+: adapter.channels)
  | txnull (underway : Underway adapter history adapter.dmFlag) (state : adapter.res.state = .txnull)
      (found : adapter.res.channelIdx = 0) (pass : history.pass = [])
  | ready (place : Nat) (ready : Ready adapter history place) (timer : adapter.surveyTimer = false)
  | dwelling (place : Nat) (dwelling : Dwelling adapter history place)

section Steps

variable {adapter : SurveyAdapter} {history : SurveyHistory} {place : Nat} {saved : Operating}

theorem close_open {after : SurveyAdapter} (state : after.res.state ≠ .disable)
    (reports : history.reports = 0) : history.close after = history := by
  rw [SurveyHistory.close, if_neg]
  rintro ⟨-, ended | reported⟩
  · exact state ended
  · exact reported reports

theorem close_end {after : SurveyAdapter} (scanning : history.scanning = true) (ended : after.res.state = .disable) :
    history.close after =
      { history with
        passes := history.passes ++ [history.pass]
        scanning := false
        ended := history.ended ++
          [⟨history.saved, history.reports, after.res.state, after.txpause, after.tuning, after.dmFlag⟩] } := by
  rw [SurveyHistory.close, if_pos ⟨scanning, .inl ended⟩]

theorem mem_indexes (kept : Kept adapter history) (inside : place ≤ adapter.channels.length) :
    ∀ index ∈ history.indexes ++ [(place : Int)], 0 ≤ index ∧ index ≤ adapter.channels.length := by
  intro index member
  rcases mem_append.mp member with earlier | now
  · exact kept.indexes index earlier
  · cases mem_singleton.mp now
    omega

theorem Ready.surveyed (ready : Ready adapter history place) (notOk : adapter.p2p.p2pState ≠ .gonegoOk)
    (inside : place < adapter.channels.length) (antDiv doneAllocated : Bool) :
    let result := adapter.siteSurvey antDiv doneAllocated
    Dwelling result.1 ((result.2.foldl (SurveyHistory.effect saved) history).close result.1)
      (place + 1) := by
  rw [SurveyAdapter.siteSurvey_channel notOk ready.found inside]
  dsimp only
  obtain ⟨tuning, fields⟩ := adapter.surveyChannel_fields (adapter.channelAt place)
  rw [foldl_cons, SurveyHistory.foldl_surveyChannel, fields]
  have bounded := ready.bounded
  have indexes := mem_indexes ready.toKept ready.inside
  rw [close_open (by exact fun ended => absurd (ready.state.symm.trans ended) (by simp)) (by exact ready.reports)]
  exact
    { bounded
      idle := ready.idle
      indexes
      passes := ready.passes
      ended := ready.ended
      scanning := ready.scanning
      reports := ready.reports
      saved := ready.saved
      state := ready.state
      timer := rfl
      found := by simp [ready.found]
      inside
      pass := by
        change history.pass ++ _ = _
        rw [ready.pass, (SurveyAdapter.channelAt_channels inside).1]
        exact List.take_concat_get' _ _ inside }

theorem Ready.rescanned (ready : Ready adapter history adapter.channels.length)
    (notOk : adapter.p2p.p2pState ≠ .gonegoOk) (doneAllocated : Bool) :
    let result := adapter.siteSurvey true doneAllocated
    Dwelling result.1 ((result.2.foldl (SurveyHistory.effect saved) history).close result.1) 0 := by
  rw [SurveyAdapter.siteSurvey_rescan notOk ready.idle ready.found ready.bounded]
  dsimp only [foldl_cons, List.foldl_nil, SurveyHistory.effect]
  have bounded := ready.bounded
  have indexes := mem_indexes ready.toKept ready.inside
  rw [close_open (by exact fun ended => absurd (ready.state.symm.trans ended) (by simp)) (by exact ready.reports)]
  exact
    { bounded
      idle := ready.idle
      indexes
      passes := by
        intro pass member
        rcases mem_append.mp member with earlier | now
        · exact ready.passes pass earlier
        · rw [mem_singleton.mp now, ready.pass, take_length]
          rfl
      ended := ready.ended
      scanning := ready.scanning
      reports := ready.reports
      saved := ready.saved
      state := ready.state
      timer := rfl
      found := rfl
      inside := Nat.zero_le _
      pass := rfl }

theorem Ready.done (ready : Ready adapter history adapter.channels.length)
    (notOk : adapter.p2p.p2pState ≠ .gonegoOk) :
    let result := adapter.siteSurvey false true
    Good result.1 ((result.2.foldl (SurveyHistory.effect saved) history).close result.1) := by
  rw [SurveyAdapter.siteSurvey_done notOk ready.idle ready.found ready.bounded]
  dsimp only
  rw [foldl_cons, SurveyHistory.foldl_surveyDone, SurveyAdapter.surveyDone_fields notOk ready.idle]
  rw [close_end (by exact ready.scanning) rfl]
  have bounded := ready.bounded
  have indexes := mem_indexes ready.toKept ready.inside
  refine .idle ?_ rfl rfl ?_
  · exact
      { bounded
        idle := ready.idle
        indexes
        passes := by
          intro pass member
          rcases mem_append.mp member with earlier | now
          · exact ready.passes pass earlier
          · rw [mem_singleton.mp now]
            change history.pass = _
            rw [ready.pass, take_length]
            rfl
        ended := by
          intro scan member
          rcases mem_append.mp member with earlier | now
          · exact ready.ended scan earlier
          · rw [mem_singleton.mp now]
            dsimp only [SurveyHistory.effect]
            rw [ready.reports, ready.saved]
            exact ⟨rfl, rfl, rfl, rfl, rfl⟩ }
  · change history.pass <+: _
    rw [ready.pass, take_length]
    exact List.prefix_refl _

theorem Ready.siteSurvey (ready : Ready adapter history place)
    (notOk : adapter.p2p.p2pState ≠ .gonegoOk) (antDiv : Bool) :
    let result := adapter.siteSurvey antDiv true
    Good result.1 ((result.2.foldl (SurveyHistory.effect saved) history).close result.1) := by
  rcases Nat.lt_or_eq_of_le ready.inside with inside | rfl
  · exact .dwelling _ (ready.surveyed notOk inside antDiv true)
  · cases antDiv with
    | true => exact .dwelling _ (ready.rescanned notOk true)
    | false => exact ready.done notOk

theorem Underway.ready (underway : Underway adapter history adapter.dmFlag)
    (found : adapter.res.channelIdx = 0) (pass : history.pass = []) :
    Ready adapter.prepareScan history 0 where
  __ := underway
  state := rfl
  found
  inside := Nat.zero_le _
  pass

theorem Kept.started (kept : Kept adapter history) (parm : SitesurveyParm) :
    Underway (adapter.startScan parm) (history.effect adapter.operating .started)
      adapter.dmFlag where
  __ := kept
  scanning := rfl
  reports := rfl
  saved := rfl

theorem Good.sitesurveyCmdHdl (good : Good adapter history) (notOk : adapter.p2p.p2pState ≠ .gonegoOk)
    (due : adapter.res.state = .process → adapter.surveyTimer = false) (parm : SitesurveyParm)
    (antDiv : Bool) :
    let result := adapter.sitesurveyCmdHdl parm antDiv true
    Good result.1 (history.record adapter result.1 result.2) := by
  cases good with
  | idle kept state scanning pass =>
    have started := kept.started parm
    simp only [SurveyAdapter.sitesurveyCmdHdl, if_pos state]
    by_cases associated : (adapter.startScan parm).isClientAssociatedToAp
    · simp only [if_pos associated]
      rw [SurveyHistory.record, close_open (by simp) (by exact started.reports)]
      exact .txnull ⟨{ started with }, started.scanning, started.reports, started.saved⟩ rfl rfl rfl
    · simp only [if_neg associated]
      rw [SurveyHistory.record, foldl_cons]
      exact (Underway.ready started rfl rfl).siteSurvey notOk antDiv
  | txnull underway state found pass =>
    simp only [SurveyAdapter.sitesurveyCmdHdl, SurveyAdapter.continueScan, state, or_true, if_true]
    exact (Underway.ready underway found pass).siteSurvey notOk antDiv
  | ready place ready timer =>
    have running : adapter.res.state ≠ .disable := by simp [ready.state]
    have begun : ¬(adapter.res.state = .start ∨ adapter.res.state = .txnull) := by
      simp [ready.state]
    simp only [SurveyAdapter.sitesurveyCmdHdl, if_neg running, SurveyAdapter.continueScan, if_neg begun]
    exact ready.siteSurvey notOk antDiv
  | dwelling place dwelling =>
    exact absurd (due dwelling.state) (by simp [dwelling.timer])

structure SameSurvey (before after : SurveyAdapter) : Prop where
  channelSet : after.channelSet = before.channelSet
  p2p : after.p2p = before.p2p
  state : after.res.state = before.res.state
  channelIdx : after.res.channelIdx = before.res.channelIdx
  surveyTimer : after.surveyTimer = before.surveyTimer
  operating : after.operating = before.operating
  dmFlagTmp : after.dmFlagTmp = before.dmFlagTmp

namespace SameSurvey

variable {after : SurveyAdapter} (same : SameSurvey adapter after)

include same

theorem channels : after.channels = adapter.channels := by
  rw [SurveyAdapter.channels, same.channelSet, SurveyAdapter.channels]

theorem kept (kept : Kept adapter history) : Kept after history where
  bounded := same.channels ▸ kept.bounded
  idle := same.p2p ▸ kept.idle
  indexes := same.channels ▸ kept.indexes
  passes := same.channels ▸ kept.passes
  ended := kept.ended

theorem underway {dmFlag : U8} (underway : Underway adapter history dmFlag) : Underway after history dmFlag where
  __ := underway
  toKept := same.kept underway.toKept
  saved := by
    have channel : after.curChannel = adapter.curChannel := congrArg Operating.curChannel same.operating
    have offset : after.curChOffset = adapter.curChOffset :=
      congrArg Operating.curChOffset same.operating
    have bwmode : after.curBwmode = adapter.curBwmode := congrArg Operating.curBwmode same.operating
    rw [underway.saved, channel, offset, bwmode]

theorem good (good : Good adapter history) : Good after history := by
  cases good with
  | idle kept state scanning pass =>
    exact .idle (same.kept kept) (same.state.trans state) scanning (same.channels ▸ pass)
  | txnull underway state found pass =>
    have dmFlag : after.dmFlag = adapter.dmFlag := congrArg Operating.dmFlag same.operating
    exact .txnull (dmFlag ▸ same.underway underway) (same.state.trans state)
      (same.channelIdx.trans found) pass
  | ready place ready timer =>
    exact .ready place
      { toUnderway := same.dmFlagTmp ▸ same.underway ready.toUnderway
        state := same.state.trans ready.state
        found := same.channelIdx.trans ready.found
        inside := same.channels ▸ ready.inside
        pass := same.channels ▸ ready.pass }
      (same.surveyTimer.trans timer)
  | dwelling place dwelling =>
    exact .dwelling place
      { toUnderway := same.dmFlagTmp ▸ same.underway dwelling.toUnderway
        state := same.state.trans dwelling.state
        timer := same.surveyTimer.trans dwelling.timer
        found := same.channelIdx.trans dwelling.found
        inside := same.channels ▸ dwelling.inside
        pass := same.channels ▸ dwelling.pass }

end SameSurvey

theorem Good.close (good : Good adapter history) : history.close adapter = history := by
  cases good with
  | idle kept state scanning pass =>
    rw [SurveyHistory.close, if_neg]
    simp [scanning]
  | txnull underway state found pass => exact close_open (by simp [state]) underway.reports
  | ready place ready timer => exact close_open (by simp [ready.state]) ready.reports
  | dwelling place dwelling => exact close_open (by simp [dwelling.state]) dwelling.reports

theorem Good.indexed (good : Good adapter history) (saved : Operating) (state : adapter.res.state = .process)
    (there : adapter.res.channelIdx ≠ -1) :
    Good adapter (history.effect saved (.indexed adapter.res.channelIdx)) := by
  cases good with
  | idle kept disabled scanning pass => simp [state] at disabled
  | txnull underway null found pass => simp [state] at null
  | ready place ready timer =>
    have indexes := mem_indexes ready.toKept ready.inside
    rw [← ready.found] at indexes
    exact .ready place { ready with indexes } timer
  | dwelling place dwelling =>
    have found := dwelling.found
    obtain ⟨before, rfl⟩ : ∃ before, place = before + 1 := ⟨place - 1, by omega⟩
    have indexes := mem_indexes dwelling.toKept (Nat.le_of_succ_le dwelling.inside)
    have channel : (before : Int) = adapter.res.channelIdx := by omega
    rw [channel] at indexes
    exact .dwelling _ { dwelling with indexes }

theorem sameSurvey_commands (adapter : SurveyAdapter) (commands : List SitesurveyParm) :
    SameSurvey adapter { adapter with commands } :=
  ⟨rfl, rfl, rfl, rfl, rfl, rfl, rfl⟩

theorem Good.expired (good : Good adapter history) (timer : adapter.surveyTimer = true) (allocated : Bool) :
    Good ({ adapter with surveyTimer := false }.surveyTimerHdl allocated) history := by
  -- the command of the timer changes nothing yet
  suffices advanced : ∀ after, Good after history →
      Good (if allocated then { after with commands := after.commands ++ [⟨0, []⟩] } else after)
        history by
    cases good with
    | idle kept state scanning pass =>
      simp only [SurveyAdapter.surveyTimerHdl, state, ScanState.toNat, Nat.zero_le, if_true]
      exact .idle { kept with } state scanning
        pass
    | txnull underway state found pass =>
      simp only [SurveyAdapter.surveyTimerHdl, state, ScanState.toNat, reduceCtorEq, if_false]
      exact advanced _ (.txnull ⟨{ underway with }, underway.scanning, underway.reports, underway.saved⟩
        state found pass)
    | ready place ready still => simp [still] at timer
    | dwelling place dwelling =>
      simp only [SurveyAdapter.surveyTimerHdl, dwelling.state, ScanState.toNat, if_true]
      refine advanced _ (.ready place ?_ rfl)
      have bounded := dwelling.bounded
      exact
        { bounded
          idle := dwelling.idle
          indexes := dwelling.indexes
          passes := dwelling.passes
          ended := dwelling.ended
          scanning := dwelling.scanning
          reports := dwelling.reports
          saved := dwelling.saved
          state := rfl
          found := by simp [dwelling.found]
          inside := dwelling.inside
          pass := dwelling.pass }
  intro after reached
  split
  · exact (sameSurvey_commands after _).good reached
  · exact reached

theorem SameSurvey.refl (adapter : SurveyAdapter) : SameSurvey adapter adapter :=
  ⟨rfl, rfl, rfl, rfl, rfl, rfl, rfl⟩

theorem sameSurvey_collectBssInfo (adapter : SurveyAdapter) (frame : SurveyFrame) :
    SameSurvey adapter (adapter.collectBssInfo frame).1 := by
  unfold SurveyAdapter.collectBssInfo
  split
  · exact .refl adapter
  · dsimp only
    split
    · split <;> exact ⟨rfl, rfl, rfl, rfl, rfl, rfl, rfl⟩
    · exact .refl adapter

theorem collectBssInfo_used (adapter : SurveyAdapter) (frame : SurveyFrame) :
    (adapter.collectBssInfo frame).2.2 = [] ∨
      (adapter.collectBssInfo frame).2.2 = [.indexed adapter.res.channelIdx] ∧ adapter.res.state = .process ∧
        ∃ bss, frame.collectHead adapter.antenna = some bss ∧ frame.channelElement bss = none := by
  unfold SurveyAdapter.collectBssInfo
  split
  · exact .inl rfl
  · next bss head =>
      cases element : frame.channelElement bss with
      | some channel => exact .inl rfl
      | none =>
        dsimp only
        split
        · next process => exact .inr ⟨rfl, process, bss, head, element⟩
        · exact .inl rfl

theorem Good.received (good : Good adapter history) (frame : SurveyFrame) (beacon allocated : Bool)
    (expected : adapter.res.state = .process → adapter.res.channelIdx = -1 → allocated = true →
      ∀ bss, frame.collectHead adapter.antenna = some bss → (frame.channelElement bss).isSome = true) :
    let result := adapter.onSurveyFrame frame beacon allocated
    Good result.1 (history.record adapter result.1 result.2) := by
  unfold SurveyAdapter.onSurveyFrame
  split
  · simpa [SurveyHistory.record, good.close] using good
  · cases allocated with
    | false => simpa [SurveyAdapter.reportSurveyEvent, SurveyHistory.record, good.close] using good
    | true =>
      have same := sameSurvey_collectBssInfo adapter frame
      have used : Good adapter ((adapter.collectBssInfo frame).2.2.foldl
          (SurveyHistory.effect adapter.operating) history) := by
        rcases collectBssInfo_used adapter frame with nothing | ⟨used, process, bss, head, element⟩
        · rw [nothing]
          exact good
        · rw [used]
          refine good.indexed adapter.operating process fun before => ?_
          have named := expected process before rfl bss head
          simp [element] at named
      simp only [SurveyAdapter.reportSurveyEvent, if_true]
      generalize adapter.collectBssInfo frame = result at same used ⊢
      obtain ⟨after, bss, effects⟩ := result
      have reached := same.good used
      cases bss with
      | none =>
        rw [SurveyHistory.record]
        exact reached.close.symm ▸ reached
      | some bss =>
        rw [SurveyHistory.record, List.foldl_append]
        have counted : SameSurvey after
            { after with res := { after.res with bssCnt := after.res.bssCnt + 1 } } :=
          ⟨rfl, rfl, rfl, rfl, rfl, rfl, rfl⟩
        have reached := counted.good reached
        exact reached.close.symm ▸ reached

end Steps

theorem Good.surveys {run : SurveyRun} (good : Good run.adapter run.history) : run.Surveys := by
  cases good with
  | idle kept state scanning pass => exact { kept with pass }
  | txnull underway state found pass =>
    exact { underway with pass := pass ▸ List.nil_prefix }
  | ready place ready timer =>
    exact { ready with pass := ready.pass ▸ List.take_prefix .. }
  | dwelling place dwelling =>
    exact { dwelling with pass := dwelling.pass ▸ List.take_prefix .. }

theorem Good.step {run : SurveyRun} (good : Good run.adapter run.history) {action : SurveyAction}
    (expected : SurveyExpected run action) :
    Good (run.step action).adapter (run.step action).history := by
  cases action with
  | submit parm => exact (sameSurvey_commands run.adapter _).good good
  | execute antDiv doneAllocated =>
    obtain ⟨rfl, notOk, due⟩ := expected
    cases queued : run.adapter.commands with
    | nil => simpa only [SurveyRun.step, queued] using good
    | cons parm commands =>
      simp only [SurveyRun.step, queued]
      exact ((sameSurvey_commands run.adapter commands).good good).sitesurveyCmdHdl notOk due
        parm antDiv
  | expiry allocated =>
    by_cases timer : run.adapter.surveyTimer = true
    · simp only [SurveyRun.step, if_pos timer]
      have expired := good.expired timer allocated
      change Good _ (run.history.close _)
      rw [expired.close]
      exact expired
    · simpa only [SurveyRun.step, if_neg timer] using good
  | receive frame beacon allocated => exact good.received frame beacon allocated expected
  | link state =>
    have same : SameSurvey run.adapter { run.adapter with state } :=
      ⟨rfl, rfl, rfl, rfl, rfl, rfl, rfl⟩
    exact same.good good
  | operate operating =>
    by_cases disabled : run.adapter.res.state = .disable
    · simp only [SurveyRun.step, if_pos disabled]
      cases good with
      | idle kept state scanning pass =>
        exact .idle { kept with } state
          scanning pass
      | txnull underway state found pass => simp [disabled] at state
      | ready place ready timer => exact absurd ready.state (by simp [disabled])
      | dwelling place dwelling => exact absurd dwelling.state (by simp [disabled])
    · simpa only [SurveyRun.step, if_neg disabled] using good

end SurveyRun

def unlinkedAdapter : SurveyAdapter where
  channelSet := Vector.ofFn fun place => if place.val = 0 then ⟨1, .active⟩ else ⟨0, .passive⟩
  around _ := ⟨0, .passive⟩
  res := ⟨.disable, 0, 0, 0, []⟩
  chanScanTime := surveyTo
  surveyTimer := false
  curChannel := 6
  curChOffset := 0
  curBwmode := 0
  state := 0
  p2p := ⟨.none, 0, 0, 0, false, 0, 0⟩
  tuning := ⟨6, 0, 0⟩
  txpause := 0
  dmFlag := 7
  dmFlagTmp := 0
  curIgValue := 0x20
  gain := 0x20
  msr := 0
  underSurvey := false
  antenna := 0
  wifiSpec := false
  bwmodeUpdated := false
  numFortyMhzIntolerant := 0
  numStaNoHt := 0
  commands := []

def unlinkedRun : SurveyRun := ⟨unlinkedAdapter, ⟨[], [], [], false, unlinkedAdapter.operating, 0, []⟩⟩

theorem unlinkedRun_initial : surveySystem.initial unlinkedRun :=
  ⟨rfl, by decide +kernel, rfl, rfl⟩

def surveyedRun : SurveyRun :=
  ((unlinkedRun.step (.submit ⟨1, []⟩)).step (.execute false true)).step (.expiry true)

def plainBeacon : SurveyFrame where
  memory place := if place = 0 then 0x80 else if place = 37 then 1 else if place = 38 then 0x61 else 0
  len := 39
  recvSignalPower := 0
  signalQual := 0
  signalStrength := 0
  behind _ := 0

def rewoundRun : SurveyRun :=
  (surveyedRun.step (.execute true true)).step (.receive plainBeacon true true)

end Floid.Wifi
