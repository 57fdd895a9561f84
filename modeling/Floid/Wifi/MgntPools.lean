import Floid.Lib.Pool
import Floid.Wifi.MgntProper

namespace Floid.Wifi

open Osk Lib

/-- What `xmit_priv` has for management frames. -/
structure MgntPools (Frame Buf : Type) where
  freeXmitQueue : Pool Frame
  freeXmitExtbufQueue : Pool Buf
  /-- The frames that `dump_mgntframe` has got and that are not completed. -/
  handed : List (Frame × Buf × MgntBuild)
  otherFrames : List Frame
  otherBufs : List Buf

namespace MgntPools

variable {Frame Buf : Type}

section

variable (self : MgntPools Frame Buf)

def allocMgtxmitframe : Option (Frame × Buf) × MgntPools Frame Buf :=
  match self.freeXmitQueue.take with
  | (none, _) => (none, self)
  | (some pmgntframe, freeXmitQueue) =>
      match self.freeXmitExtbufQueue.take with
      | (none, _) => (none, { self with freeXmitQueue := freeXmitQueue.give pmgntframe })
      | (some pxmitbuf, freeXmitExtbufQueue) =>
          (some (pmgntframe, pxmitbuf), { self with freeXmitQueue, freeXmitExtbufQueue })

/-- A call of one of the functions. It is `none` where that writes behind a buffer of its own. -/
def issue (call : MgntCall) : Option (MgntPools Frame Buf) :=
  match self.allocMgtxmitframe with
  | (none, self) => some self
  | (some (pmgntframe, pxmitbuf), self) =>
      call.run.map fun
        | .left => self
        | .dumped build => { self with handed := (pmgntframe, pxmitbuf, build) :: self.handed }

end

inductive PoolAction (Frame Buf : Type) where
  | issue (call : MgntCall)
  | complete (pmgntframe : Frame) (pxmitbuf : Buf) (build : MgntBuild)
  | otherTakesFrame
  | otherTakesBuf
  | otherFreesFrame (pxmitframe : Frame)
  | otherFreesBuf (pxmitbuf : Buf)

/-- The pools, from when all these frames and buffers are free. Where a function writes behind a
buffer, any state can follow. -/
def system (frames : List Frame) (bufs : List Buf) :
    TransitionSystem (MgntPools Frame Buf) (PoolAction Frame Buf) where
  initial self := self = ⟨⟨frames, frames.length⟩, ⟨bufs, bufs.length⟩, [], [], []⟩
  step before action after :=
    match action with
    | .issue call => ∀ next, before.issue call = some next → after = next
    | .complete pmgntframe pxmitbuf build => ∃ others,
        before.handed.Perm ((pmgntframe, pxmitbuf, build) :: others) ∧
          after = { before with
            handed := others
            freeXmitQueue := before.freeXmitQueue.give pmgntframe
            freeXmitExtbufQueue := before.freeXmitExtbufQueue.give pxmitbuf }
    | .otherTakesFrame => ∃ pxmitframe freeXmitQueue,
        before.freeXmitQueue.take = (some pxmitframe, freeXmitQueue) ∧
          after = { before with freeXmitQueue, otherFrames := pxmitframe :: before.otherFrames }
    | .otherTakesBuf => ∃ pxmitbuf freeXmitExtbufQueue,
        before.freeXmitExtbufQueue.take = (some pxmitbuf, freeXmitExtbufQueue) ∧
          after = { before with freeXmitExtbufQueue, otherBufs := pxmitbuf :: before.otherBufs }
    | .otherFreesFrame pxmitframe => ∃ others,
        before.otherFrames.Perm (pxmitframe :: others) ∧
          after = { before with
            otherFrames := others
            freeXmitQueue := before.freeXmitQueue.give pxmitframe }
    | .otherFreesBuf pxmitbuf => ∃ others,
        before.otherBufs.Perm (pxmitbuf :: others) ∧
          after = { before with
            otherBufs := others
            freeXmitExtbufQueue := before.freeXmitExtbufQueue.give pxmitbuf }

/-- Each frame and each buffer is free, handed over or with the rest of the driver, once, and the
frames that are handed over are proper. -/
structure Conserved (frames : List Frame) (bufs : List Buf) (pools : MgntPools Frame Buf) : Prop where
  frames : pools.freeXmitQueue.Conserved frames
    (pools.handed.map (fun entry => entry.1) ++ pools.otherFrames)
  bufs : pools.freeXmitExtbufQueue.Conserved bufs
    (pools.handed.map (fun entry => entry.2.1) ++ pools.otherBufs)
  proper : ∀ entry ∈ pools.handed, entry.2.2.Proper

end MgntPools

def MgntCall.info : MgntCall → MgntInfo
  | beacon info | probersp info .. | authSta info .. | authClient info .. | asocrsp info ..
  | deauth info .. | actionBA info .. => info

def MgntCall.Meets : MgntCall → Prop
  | beacon info => info.ieLength.toNat ≤ maxIeSz ∧ info.beaconLen + 32 ≤ 512
  | probersp info _ isValidP2pProbereq wpsProbeRespIe =>
      ProberspMeets info isValidP2pProbereq wpsProbeRespIe
  | authClient info security client _ =>
      client.authSeq = 3 → info.fwAuthState = true → client.shared = true →
        security.dot11DefKeylen security.dot11PrivacyKeyIndex ≤ 13
  | asocrsp info options pstat _ pktType => AsocrspMeets info options pstat pktType
  | authSta .. | deauth .. | actionBA .. => True

theorem MgntCall.dumps {call : MgntCall} (meets : call.Meets) :
    ∃ build, call.run = some (.dumped build) ∧ build.Proper := by
  cases call with
  | beacon info =>
    obtain ⟨build, dumped, proper⟩ := issueBeacon_proper meets.1 meets.2
    exact ⟨build, congrArg some dumped, proper⟩
  | probersp info da isValidP2pProbereq wpsProbeRespIe => exact issueProbersp_proper da meets
  | authSta info psta status =>
    exact ⟨issueAuthSta info psta status, rfl, issueAuthSta_proper info psta status⟩
  | authClient info security client status =>
    obtain ⟨build, built, proper⟩ := issueAuthClient_proper info status meets
    refine ⟨build, ?_, proper⟩
    rw [MgntCall.run, built, Option.map_some]
  | asocrsp info options pstat status pktType => exact issueAsocrsp_proper status meets
  | deauth info da reason =>
    exact ⟨issueDeauthFrame info da reason, rfl, issueDeauthFrame_proper info da reason⟩
  | actionBA info ba raddr action status =>
    exact ⟨issueActionBA info ba raddr action status, rfl, issueActionBA_proper info ba raddr action status⟩

namespace MgntPools

variable {Frame Buf : Type} {frames : List Frame} {bufs : List Buf}
variable {self after : MgntPools Frame Buf} {call : MgntCall}

variable {next : MgntPools Frame Buf} {pmgntframe : Frame} {pxmitbuf : Buf}

theorem Conserved.nothing (conserved : self.Conserved frames bufs)
    (tried : self.allocMgtxmitframe = (none, next)) : next.Conserved frames bufs := by
  unfold allocMgtxmitframe at tried
  rcases taken : self.freeXmitQueue.take with ⟨_ | pmgntframe, freeXmitQueue⟩
  · rw [taken] at tried
    cases tried
    exact conserved
  · rcases buffer : self.freeXmitExtbufQueue.take with ⟨_ | pxmitbuf, freeXmitExtbufQueue⟩
    · rw [taken, buffer] at tried
      cases tried
      exact ⟨(conserved.frames.take taken).give, conserved.bufs, conserved.proper⟩
    · rw [taken, buffer] at tried
      cases tried

theorem allocMgtxmitframe_some (got : self.allocMgtxmitframe = (some (pmgntframe, pxmitbuf), next)) :
    ∃ freeXmitQueue freeXmitExtbufQueue, self.freeXmitQueue.take = (some pmgntframe, freeXmitQueue) ∧
      self.freeXmitExtbufQueue.take = (some pxmitbuf, freeXmitExtbufQueue) ∧
      next = { self with freeXmitQueue, freeXmitExtbufQueue } := by
  unfold allocMgtxmitframe at got
  rcases taken : self.freeXmitQueue.take with ⟨_ | frame, freeXmitQueue⟩
  · rw [taken] at got
    cases got
  · rcases buffer : self.freeXmitExtbufQueue.take with ⟨_ | buf, freeXmitExtbufQueue⟩
    · rw [taken, buffer] at got
      cases got
    · rw [taken, buffer] at got
      cases got
      exact ⟨freeXmitQueue, freeXmitExtbufQueue, rfl, rfl, rfl⟩

theorem Conserved.issue (conserved : self.Conserved frames bufs)
    (meets : self.allocMgtxmitframe.1.isSome → call.Meets) :
    ∃ next, self.issue call = some next ∧ next.Conserved frames bufs := by
  unfold MgntPools.issue
  rcases tried : self.allocMgtxmitframe with ⟨_ | ⟨pmgntframe, pxmitbuf⟩, next⟩
  · exact ⟨next, rfl, conserved.nothing tried⟩
  · obtain ⟨freeXmitQueue, freeXmitExtbufQueue, frame, buf, rfl⟩ := allocMgtxmitframe_some tried
    rw [tried] at meets
    obtain ⟨build, dumped, proper⟩ := call.dumps (meets rfl)
    dsimp only
    rw [dumped]
    refine ⟨_, rfl, conserved.frames.take frame, conserved.bufs.take buf, ?_⟩
    intro entry known
    rcases List.mem_cons.mp known with rfl | earlier
    · exact proper
    · exact conserved.proper entry earlier

theorem Conserved.complete {build : MgntBuild}
    {others : List (Frame × Buf × MgntBuild)} (conserved : self.Conserved frames bufs)
    (one : self.handed.Perm ((pmgntframe, pxmitbuf, build) :: others)) :
    Conserved frames bufs { self with
      handed := others
      freeXmitQueue := self.freeXmitQueue.give pmgntframe
      freeXmitExtbufQueue := self.freeXmitExtbufQueue.give pxmitbuf } := by
  constructor
  · exact (conserved.frames.congr ((one.map _).append_right _)).give
  · exact (conserved.bufs.congr ((one.map _).append_right _)).give
  · intro entry known
    exact conserved.proper entry (one.mem_iff.mpr (List.mem_cons_of_mem _ known))

theorem Conserved.step {action : PoolAction Frame Buf} (conserved : self.Conserved frames bufs)
    (meets : ∀ call, action = .issue call → self.allocMgtxmitframe.1.isSome → call.Meets)
    (stepped : (system frames bufs).step self action after) : after.Conserved frames bufs := by
  cases action with
  | issue call =>
    obtain ⟨next, issued, kept⟩ := conserved.issue (meets call rfl)
    have result : after = next := stepped next issued
    rw [result]
    exact kept
  | complete pmgntframe pxmitbuf build =>
    obtain ⟨others, one, rfl⟩ := stepped
    exact conserved.complete one
  | otherTakesFrame =>
    obtain ⟨pxmitframe, freeXmitQueue, taken, rfl⟩ := stepped
    exact ⟨(conserved.frames.take taken).congr List.perm_middle.symm, conserved.bufs, conserved.proper⟩
  | otherTakesBuf =>
    obtain ⟨pxmitbuf, freeXmitExtbufQueue, taken, rfl⟩ := stepped
    exact ⟨conserved.frames, (conserved.bufs.take taken).congr List.perm_middle.symm, conserved.proper⟩
  | otherFreesFrame pxmitframe =>
    obtain ⟨others, one, rfl⟩ := stepped
    have first := (one.append_left (self.handed.map fun entry => entry.1)).trans
      List.perm_middle
    exact ⟨(conserved.frames.congr first).give, conserved.bufs, conserved.proper⟩
  | otherFreesBuf pxmitbuf =>
    obtain ⟨others, one, rfl⟩ := stepped
    have first := (one.append_left (self.handed.map fun entry => entry.2.1)).trans
      List.perm_middle
    exact ⟨conserved.frames, (conserved.bufs.congr first).give, conserved.proper⟩

end MgntPools

def apNetwork (ieLength : U32) : MgntInfo where
  myid := Vector.replicate 6 0
  hwState := 3
  fwAuthState := false
  macAddress := Vector.replicate 6 0
  ieLength
  ies _ := 0
  ssidLength := 0
  ssid _ := 0
  supportedRates _ := 0
  dsConfig := 1
  mgntSeq := 0
  pwdinfo := ⟨.disable, .none, Vector.replicate 6 0, fun _ => 0, 0, []⟩

end Floid.Wifi
