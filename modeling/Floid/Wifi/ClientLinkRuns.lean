import Floid.Wifi.ClientLink

namespace Floid.Wifi

open Osk

variable {Station : Type*} [DecidableEq Station]

def Brought (bssid : Station) (history : List (LinkEvent Station)) (expected : List (Nat × Nat)) : Prop :=
  ∃ frames : List (LinkFrame Station),
    List.Forall₂ (fun frame number => frame.sa = bssid ∧ frame.authStatus = 0 ∧
      (frame.authAlgthm, frame.authSeqNum) = number) frames expected ∧
    List.Sublist (frames.map LinkEvent.auth) history

def authResponses (algo : AuthAlgrthm) : List (Nat × Nat) :=
  if algo = .shared then [(1, 2), (1, 4)] else [(0, 2)]

def Associated (bssid : Station) (history : List (LinkEvent Station)) (algo : AuthAlgrthm) : Prop :=
  ∃ before frame after, history = before ++ .assocRsp frame :: after ∧ frame.sa = bssid ∧
    frame.assocStatus = 0 ∧ Brought bssid before (authResponses algo)

structure LinkProper (link : ClientLink Station) (history : List (LinkEvent Station)) : Prop where
  once : (link.joinResults.filter (0 < ·)).length ≤ 1
  sound : ∀ res ∈ link.joinResults, 0 < res → Associated link.bssid history link.authAlgo
  final : ∀ res ∈ link.joinResults.dropLast, 0 ≤ res
  timed : link.joinResults = [] → link.linkTimer = true

namespace ClientLink

variable (link : ClientLink Station)

def PassesAuth (frame : LinkFrame Station) : Prop :=
  link.dispatched frame ∧ frame.da = link.myid ∧ link.has wifiFwAuthState ∧ frame.authStatus = 0 ∧
    (frame.authSeqNum = 2 ∧ link.authAlgo ≠ .shared ∨ frame.authSeqNum = 4 ∧ link.authAlgo = .shared)

def AnswersAssoc (frame : LinkFrame Station) : Prop :=
  link.dispatched frame ∧ frame.da = link.myid ∧ link.has (wifiFwAuthSuccess ||| wifiFwAssocState) ∧
    link.has wifiFwAssocSuccess = false

def Disconnects (frame : LinkFrame Station) : Prop :=
  link.dispatched frame ∧ frame.addr3 = link.bssid ∧ link.isStation ∧
    link.has wifiFwAssocSuccess = false ∧ link.has wifiFwLinkingState

def TimesOut : Prop :=
  link.linkTimer ∧
    (link.has wifiFwAuthNull ∨
      link.has wifiFwAuthNull = false ∧ link.has wifiFwAuthState ∧ reauthLimit ≤ link.reauthCount ∧
        link.authAlgo ≠ .auto ∨
      link.has wifiFwAuthNull = false ∧ link.has wifiFwAuthState = false ∧ link.has wifiFwAssocState ∧
        reassocLimit ≤ link.reassocCount)

def Reports (event : LinkEvent Station) : Prop :=
  match event with
  | .assocRsp frame => link.AnswersAssoc frame
  | .deauth frame | .disassoc frame => link.Disconnects frame
  | .expiry => link.TimesOut
  | _ => False

def Fails (input : LinkInput Station) : Prop :=
  input.cmdAllocated = true ∧
    match input.event with
    | .assocRsp frame => link.AnswersAssoc frame ∧ 0 < frame.assocStatus
    | .deauth frame | .disassoc frame => link.Disconnects frame
    | _ => False

end ClientLink

structure LinkMeets (link : ClientLink Station) (history : List (LinkEvent Station)) (failed : Prop)
    (input : LinkInput Station) : Prop where
  /-- A response that begins the association is one of the network, of the algorithm asked
  for, and behind the responses that go before it. -/
  authentic : ∀ frame, input.event = .auth frame → link.PassesAuth frame →
    frame.sa = link.bssid ∧ frame.authAlgthm = link.requestAlgorithm ∧
      (frame.authSeqNum = 4 → Brought link.bssid history [(1, 2)])
  associate : ∀ frame, input.event = .assocRsp frame → link.AnswersAssoc frame →
    frame.assocStatus = 0 → 0 < frame.assocAid → frame.sa = link.bssid
  quiet : failed → ¬link.Reports input.event
  memory : (∃ frame, input.event = .assocRsp frame) ∨ input.event = .expiry →
    link.Reports input.event → input.cmdAllocated = true

def LinkRunMeets (link : ClientLink Station) (history : List (LinkEvent Station)) (failed : Prop) :
    List (LinkInput Station) → Prop
  | [] => True
  | input :: rest =>
      LinkMeets link history failed input ∧
        LinkRunMeets (link.step input) (history ++ [input.event]) (failed ∨ link.Fails input) rest

section

variable {bssid : Station} {history : List (LinkEvent Station)}

variable {expected : List (Nat × Nat)}

section

omit [DecidableEq Station]

theorem Brought.append (brought : Brought bssid history expected)
    (later : List (LinkEvent Station)) : Brought bssid (history ++ later) expected := by
  obtain ⟨frames, numbered, part⟩ := brought
  exact ⟨frames, numbered, part.trans (List.sublist_append_left ..)⟩

theorem Brought.snoc {frame : LinkFrame Station}
    (brought : Brought bssid history expected) (sender : frame.sa = bssid) (status : frame.authStatus = 0) :
    Brought bssid (history ++ [.auth frame]) (expected ++ [(frame.authAlgthm, frame.authSeqNum)]) := by
  obtain ⟨frames, numbered, part⟩ := brought
  refine ⟨frames ++ [frame], List.rel_append numbered (.cons ⟨sender, status, rfl⟩ .nil), ?_⟩
  rw [List.map_append]
  exact part.append (List.Sublist.refl _)

theorem Brought.nil : Brought bssid history [] := ⟨[], .nil, List.nil_sublist _⟩

theorem Associated.append {algo : AuthAlgrthm} (associated : Associated bssid history algo)
    (later : List (LinkEvent Station)) : Associated bssid (history ++ later) algo := by
  obtain ⟨before, frame, after, rfl, sender, status, brought⟩ := associated
  exact ⟨before, frame, after ++ later, by simp, sender, status, brought⟩

end

end

inductive LinkPhase where
  | waiting
  | authenticating
  | associating
  | associated
  | abandoned
  deriving DecidableEq

def LinkPhase.state : LinkPhase → U32
  | .waiting => wifiFwAuthNull ||| wifiFwStationState
  | .authenticating => wifiFwAuthState ||| wifiFwStationState
  | .associating => wifiFwAuthSuccess ||| wifiFwAssocState ||| wifiFwStationState
  | .associated => wifiFwAuthSuccess ||| wifiFwAssocSuccess ||| wifiFwStationState
  | .abandoned => wifiFwNullState

def LinkPhase.has (phase : LinkPhase) (bits : U32) : Bool := phase.state &&& bits ≠ 0

namespace ClientLink

variable {link : ClientLink Station}

omit [DecidableEq Station] in
theorem has_of_phase {phase : LinkPhase} (state : link.state = phase.state) (bits : U32) :
    link.has bits = phase.has bits := by
  unfold has LinkPhase.has
  rw [state]

def resultsWith (link : ClientLink Station) (res : Int) (cmdAllocated : Bool) : List Int :=
  if cmdAllocated then link.joinResults ++ [res] else link.joinResults

section

variable (res : Int) (allocated : Bool)

section

omit [DecidableEq Station]

@[simp] theorem reportJoinRes_joinResults :
    (link.reportJoinRes res allocated).joinResults = link.resultsWith res allocated := by
  unfold reportJoinRes resultsWith
  split <;> rfl

@[simp] theorem reportJoinRes_state : (link.reportJoinRes res allocated).state = link.state := by
  unfold reportJoinRes
  split <;> rfl

@[simp] theorem reportJoinRes_authAlgo : (link.reportJoinRes res allocated).authAlgo = link.authAlgo := by
  unfold reportJoinRes
  split <;> rfl

@[simp] theorem reportJoinRes_linkTimer : (link.reportJoinRes res allocated).linkTimer = link.linkTimer := by
  unfold reportJoinRes
  split <;> rfl

@[simp] theorem reportJoinRes_bssid : (link.reportJoinRes res allocated).bssid = link.bssid := by
  unfold reportJoinRes
  split <;> rfl

theorem issueAuthRequest_eq (link : ClientLink Station) :
    ∃ sent, link.issueAuthRequest allocated = { link with sent } := by
  unfold issueAuthRequest
  split
  · exact ⟨_, rfl⟩
  · exact ⟨link.sent, rfl⟩

theorem issueAssocreq_eq (link : ClientLink Station) :
    ∃ sent, link.issueAssocreq allocated = { link with sent } := by
  unfold issueAssocreq
  split
  · exact ⟨_, rfl⟩
  · exact ⟨link.sent, rfl⟩

end

end

end ClientLink

inductive LinkChange (link : ClientLink Station) (input : LinkInput Station) : ClientLink Station → Prop where
  | same {after : ClientLink Station} (state : after.state = link.state)
      (algo : after.authAlgo = link.authAlgo) (results : after.joinResults = link.joinResults)
      (timer : (link.linkTimer = true → after.linkTimer = true) ∨
        link.has wifiFwAuthNull = false ∧ link.has wifiFwAuthState = false ∧
          link.has wifiFwAssocState = false) : LinkChange link input after
  | begun {after : ClientLink Station} (waiting : link.has wifiFwAuthNull = true)
      (state : after.state = (link.state &&& ~~~wifiFwAuthNull) ||| wifiFwAuthState)
      (algo : after.authAlgo = link.authAlgo) (results : after.joinResults = link.joinResults)
      (timer : after.linkTimer = true) : LinkChange link input after
  | retried {after : ClientLink Station} (authenticating : link.has wifiFwAuthState = true)
      (state : after.state = link.state) (results : after.joinResults = link.joinResults)
      (timer : after.linkTimer = true) : LinkChange link input after
  | authenticated {after : ClientLink Station} (frame : LinkFrame Station) (event : input.event = .auth frame)
      (passes : link.PassesAuth frame)
      (state : after.state = (link.state &&& ~~~(wifiFwAuthNull ||| wifiFwAuthState)) |||
        (wifiFwAuthSuccess ||| wifiFwAssocState))
      (algo : after.authAlgo = link.authAlgo) (results : after.joinResults = link.joinResults)
      (timer : after.linkTimer = true) : LinkChange link input after
  | failed {after : ClientLink Station} (res : Int) (negative : res < 0)
      (reports : link.Reports input.event) (fails : input.cmdAllocated = true → link.Fails input)
      (state : after.state = link.state) (algo : after.authAlgo = link.authAlgo)
      (results : after.joinResults = link.resultsWith res input.cmdAllocated)
      (timer : (∃ frame, input.event = .assocRsp frame) ∨ (link.linkTimer = true → after.linkTimer = true)) :
      LinkChange link input after
  | associated {after : ClientLink Station} (frame : LinkFrame Station)
      (event : input.event = .assocRsp frame) (answers : link.AnswersAssoc frame)
      (status : frame.assocStatus = 0)
      (state : after.state = (link.state &&& ~~~wifiFwAssocState) ||| wifiFwAssocSuccess)
      (algo : after.authAlgo = link.authAlgo)
      (results : after.joinResults = link.resultsWith frame.assocAid input.cmdAllocated) :
      LinkChange link input after
  | abandoned {after : ClientLink Station} (res : Int) (negative : res < 0)
      (event : input.event = .expiry) (timesOut : link.TimesOut) (state : after.state = wifiFwNullState)
      (results : after.joinResults = link.resultsWith res input.cmdAllocated) : LinkChange link input after

namespace ClientLink

variable {link : ClientLink Station} {input : LinkInput Station}

theorem unchanged : LinkChange link input link := .same rfl rfl rfl (.inl id)

theorem onBeacon_change (frame : LinkFrame Station) (surveying : Bool) :
    LinkChange link input (link.onBeacon frame surveying input.xmitAllocated) := by
  unfold onBeacon
  split
  · exact unchanged
  · split
    · rename_i begins
      obtain ⟨sent, issued⟩ := issueAuthRequest_eq input.xmitAllocated { link with
        state := (link.state &&& ~~~wifiFwAuthNull) ||| wifiFwAuthState
        authSeq := 1
        reauthCount := 0
        reassocCount := 0
        linkCount := 0 }
      unfold startClntAuth
      rw [issued]
      exact .begun begins.2 rfl rfl rfl rfl
    · exact unchanged

variable {frame : LinkFrame Station}

theorem startClntAssoc_change (event : input.event = .auth frame)
    (passes : link.PassesAuth frame) : LinkChange link input (link.startClntAssoc input.xmitAllocated) := by
  obtain ⟨sent, issued⟩ := issueAssocreq_eq input.xmitAllocated { link with
    state := (link.state &&& ~~~(wifiFwAuthNull ||| wifiFwAuthState)) |||
      (wifiFwAuthSuccess ||| wifiFwAssocState) }
  unfold startClntAssoc
  rw [issued]
  exact .authenticated frame event passes rfl rfl rfl rfl

theorem onAuthClient_change (event : input.event = .auth frame) (dispatched : link.dispatched frame = true) :
    LinkChange link input (link.onAuthClient frame input.xmitAllocated) := by
  unfold onAuthClient
  split
  · exact unchanged
  rename_i mine
  split
  · exact unchanged
  rename_i authenticating
  split
  · exact unchanged
  rename_i status
  have heard : frame.da = link.myid ∧ link.has wifiFwAuthState = true ∧ frame.authStatus = 0 :=
    ⟨not_not.mp mine, Bool.not_eq_false _ ▸ authenticating, not_not.mp status⟩
  split
  · rename_i second
    split
    · cases frame.challengeElement with
      | none => exact unchanged
      | some p =>
        dsimp only
        unfold copyChallenge
        generalize challenge : (Vector.ofFn _ : ChallengeText) = chgTxt
        obtain ⟨sent, issued⟩ :=
          issueAuthRequest_eq input.xmitAllocated { link with chgTxt, authSeq := 3 }
        rw [issued]
        exact .same rfl rfl rfl (.inl id)
    · rename_i notShared
      exact startClntAssoc_change event
        ⟨dispatched, heard.1, heard.2.1, heard.2.2, .inl ⟨second, notShared⟩⟩
  · split
    · rename_i fourth
      split
      · rename_i shared
        exact startClntAssoc_change event
          ⟨dispatched, heard.1, heard.2.1, heard.2.2, .inr ⟨fourth, shared⟩⟩
      · exact unchanged
    · exact unchanged

theorem onAssocRsp_change (event : input.event = .assocRsp frame) (dispatched : link.dispatched frame = true) :
    LinkChange link input (link.onAssocRsp frame input.cmdAllocated) := by
  unfold onAssocRsp
  split
  · exact unchanged
  rename_i mine
  split
  · exact unchanged
  rename_i linking
  split
  · exact unchanged
  rename_i notDone
  have answers : link.AnswersAssoc frame :=
    ⟨dispatched, not_not.mp mine, Bool.not_eq_false _ ▸ linking, Bool.not_eq_true _ ▸ notDone⟩
  have reports : link.Reports input.event := by
    rw [event]
    exact answers
  split
  · rename_i rejected
    refine .failed (-4) (by decide) reports (fun allocated => ⟨allocated, ?_⟩) ?_ ?_ ?_ (.inl ⟨frame, event⟩)
    · rw [event]
      exact ⟨answers, rejected⟩
    · rw [reportJoinRes_state]
    · rw [reportJoinRes_authAlgo]
    · rw [reportJoinRes_joinResults]
      rfl
  · rename_i accepted
    refine .associated frame event answers (Nat.eq_zero_of_not_pos accepted) ?_ ?_ ?_
    · rw [reportJoinRes_state]
    · rw [reportJoinRes_authAlgo]
    · rw [reportJoinRes_joinResults]
      rfl

theorem receiveDisconnect_change (event : input.event = .deauth frame ∨ input.event = .disassoc frame)
    (dispatched : link.dispatched frame = true) :
    LinkChange link input (link.receiveDisconnect frame input.cmdAllocated) := by
  unfold receiveDisconnect
  split
  · exact unchanged
  rename_i ours
  split
  · rename_i station
    split
    · exact unchanged
    rename_i notDone
    split
    · rename_i linking
      have disconnects : link.Disconnects frame :=
        ⟨dispatched, not_not.mp ours, station, Bool.not_eq_true _ ▸ notDone, linking⟩
      refine .failed (-2) (by decide) ?_ (fun allocated => ⟨allocated, ?_⟩) ?_ ?_ ?_ (.inr ?_)
      · rcases event with event | event <;> rw [event] <;> exact disconnects
      · rcases event with event | event <;> rw [event] <;> exact disconnects
      · rw [reportJoinRes_state]
      · rw [reportJoinRes_authAlgo]
      · rw [reportJoinRes_joinResults]
      · rw [reportJoinRes_linkTimer]
        exact id
    · exact unchanged
  · exact unchanged

theorem linkTimerHdl_change (event : input.event = .expiry) (timer : link.linkTimer = true) : LinkChange link input
      (({ link with linkTimer := false } : ClientLink Station).linkTimerHdl input.cmdAllocated
        input.xmitAllocated) := by
  unfold linkTimerHdl
  split
  · rename_i waiting
    have waiting : link.has wifiFwAuthNull = true := waiting
    refine .abandoned (-3) (by decide) event ⟨timer, .inl waiting⟩ ?_ ?_
    · rw [reportJoinRes_state]
    · rw [reportJoinRes_joinResults]
      rfl
  rename_i notWaiting
  have notWaiting : link.has wifiFwAuthNull = false := Bool.not_eq_true _ ▸ notWaiting
  split
  · rename_i authenticating
    have authenticating : link.has wifiFwAuthState = true := authenticating
    dsimp only
    split
    · rename_i limit
      refine .abandoned (-1) (by decide) event
        ⟨timer, .inr (.inl ⟨notWaiting, authenticating, Nat.le_of_lt_succ limit.1, limit.2⟩)⟩ ?_ ?_
      · rw [reportJoinRes_state]
      · rw [reportJoinRes_joinResults]
        rfl
    · split
      · obtain ⟨sent, issued⟩ := issueAuthRequest_eq input.xmitAllocated { link with
          linkTimer := false
          reauthCount := 0
          authAlgo := .shared
          authSeq := 1 }
        rw [issued]
        exact .retried authenticating rfl rfl rfl
      · obtain ⟨sent, issued⟩ := issueAuthRequest_eq input.xmitAllocated { link with
          linkTimer := false
          reauthCount := link.reauthCount + 1
          authSeq := 1 }
        rw [issued]
        exact .retried authenticating rfl rfl rfl
  rename_i notAuthenticating
  have notAuthenticating : link.has wifiFwAuthState = false := Bool.not_eq_true _ ▸ notAuthenticating
  split
  · rename_i associating
    have associating : link.has wifiFwAssocState = true := associating
    dsimp only
    split
    · rename_i limit
      refine .abandoned (-2) (by decide) event
        ⟨timer, .inr (.inr ⟨notWaiting, notAuthenticating, associating, Nat.le_of_lt_succ limit⟩)⟩ ?_ ?_
      · rw [reportJoinRes_state]
      · rw [reportJoinRes_joinResults]
        rfl
    · obtain ⟨sent, issued⟩ := issueAssocreq_eq input.xmitAllocated { link with
        linkTimer := false
        reassocCount := link.reassocCount + 1 }
      rw [issued]
      exact .same rfl rfl rfl (.inl fun _ => rfl)
  · rename_i notAssociating
    have notAssociating : link.has wifiFwAssocState = false := Bool.not_eq_true _ ▸ notAssociating
    exact .same rfl rfl rfl (.inr ⟨notWaiting, notAuthenticating, notAssociating⟩)

theorem step_change (link : ClientLink Station) (input : LinkInput Station) :
    LinkChange link input (link.step input) := by
  unfold step
  split
  · split
    · exact onBeacon_change _ _
    · exact unchanged
  · rename_i event
    split
    · rename_i dispatched
      exact onAuthClient_change event dispatched
    · exact unchanged
  · rename_i event
    split
    · rename_i dispatched
      exact onAssocRsp_change event dispatched
    · exact unchanged
  · rename_i event
    split
    · rename_i dispatched
      exact receiveDisconnect_change (.inl event) dispatched
    · exact unchanged
  · rename_i event
    split
    · rename_i dispatched
      exact receiveDisconnect_change (.inr event) dispatched
    · exact unchanged
  · rename_i event
    split
    · rename_i timer
      exact linkTimerHdl_change event timer
    · exact unchanged

omit [DecidableEq Station] in
@[simp] theorem issueAuthRequest_bssid (link : ClientLink Station) (allocated : Bool) :
    (link.issueAuthRequest allocated).bssid = link.bssid := by
  obtain ⟨sent, issued⟩ := issueAuthRequest_eq allocated link
  rw [issued]

omit [DecidableEq Station] in
@[simp] theorem issueAssocreq_bssid (link : ClientLink Station) (allocated : Bool) :
    (link.issueAssocreq allocated).bssid = link.bssid := by
  obtain ⟨sent, issued⟩ := issueAssocreq_eq allocated link
  rw [issued]

theorem onAuthClient_bssid (frame : LinkFrame Station) (allocated : Bool) :
    (link.onAuthClient frame allocated).bssid = link.bssid := by
  unfold onAuthClient
  repeat' split
  all_goals simp [startClntAssoc, copyChallenge]

omit [DecidableEq Station] in
theorem linkTimerHdl_bssid (cmdAllocated xmitAllocated : Bool) :
    (link.linkTimerHdl cmdAllocated xmitAllocated).bssid = link.bssid := by
  unfold linkTimerHdl
  dsimp only
  repeat' split
  all_goals simp

theorem step_bssid (link : ClientLink Station) (input : LinkInput Station) :
    (link.step input).bssid = link.bssid := by
  unfold step
  split
  · unfold onBeacon
    repeat' split
    all_goals simp [startClntAuth]
  · split
    · exact onAuthClient_bssid _ _
    · rfl
  · unfold onAssocRsp
    repeat' split
    all_goals simp
  · unfold receiveDisconnect
    repeat' split
    all_goals simp
  · unfold receiveDisconnect
    repeat' split
    all_goals simp
  · split
    · exact linkTimerHdl_bssid _ _
    · rfl

end ClientLink

def LinkPhase.Linking (phase : LinkPhase) : Prop := phase ≠ .associated ∧ phase ≠ .abandoned

structure LinkInv (link : ClientLink Station) (history : List (LinkEvent Station)) (failed : Prop)
    (phase : LinkPhase) : Prop where
  state : link.state = phase.state
  decided : ¬phase.Linking → link.joinResults ≠ []
  negative : ∀ res ∈ link.joinResults, res < 0 → failed ∨ phase = .abandoned
  settled : ∀ res ∈ link.joinResults, 0 ≤ res → phase = .associated
  authenticated : phase = .associating → Brought link.bssid history (authResponses link.authAlgo)
  proper : LinkProper link history

namespace LinkPhase

variable {phase : LinkPhase}

theorem waiting_of_has (has : phase.has wifiFwAuthNull = true) : phase = .waiting := by
  cases phase with
  | waiting => rfl
  | authenticating | associating | associated | abandoned => exact absurd has (by decide)

theorem authenticating_of_has (has : phase.has wifiFwAuthState = true) : phase = .authenticating := by
  cases phase with
  | authenticating => rfl
  | waiting | associating | associated | abandoned => exact absurd has (by decide)

theorem associating_of_has (has : phase.has wifiFwAssocState = true) : phase = .associating := by
  cases phase with
  | associating => rfl
  | waiting | authenticating | associated | abandoned => exact absurd has (by decide)

theorem associating_of_answers (linking : phase.has (wifiFwAuthSuccess ||| wifiFwAssocState) = true)
    (notDone : phase.has wifiFwAssocSuccess = false) : phase = .associating := by
  cases phase with
  | associating => rfl
  | associated => exact absurd notDone (by decide)
  | waiting | authenticating | abandoned => exact absurd linking (by decide)

theorem linking_of_has (linking : phase.has wifiFwLinkingState = true)
    (notDone : phase.has wifiFwAssocSuccess = false) : phase.Linking := by
  refine ⟨fun associated => ?_, fun abandoned => ?_⟩
  · subst associated
    exact absurd notDone (by decide)
  · subst abandoned
    exact absurd linking (by decide)

theorem not_linking (null : phase.has wifiFwAuthNull = false) (auth : phase.has wifiFwAuthState = false)
    (assoc : phase.has wifiFwAssocState = false) : ¬phase.Linking := by
  intro linking
  cases phase with
  | waiting => exact absurd null (by decide)
  | authenticating => exact absurd auth (by decide)
  | associating => exact absurd assoc (by decide)
  | associated => exact linking.1 rfl
  | abandoned => exact linking.2 rfl

end LinkPhase

namespace LinkInv

variable {link : ClientLink Station} {history : List (LinkEvent Station)} {failed : Prop}
  {phase : LinkPhase}

theorem linking_of_reports (inv : LinkInv link history failed phase) {event : LinkEvent Station}
    (reports : link.Reports event) : phase.Linking := by
  have has := ClientLink.has_of_phase inv.state
  have disconnected {frame : LinkFrame Station} (disconnects : link.Disconnects frame) : phase.Linking :=
    LinkPhase.linking_of_has (has _ ▸ disconnects.2.2.2.2) (has _ ▸ disconnects.2.2.2.1)
  cases event with
  | beacon | auth => exact reports.elim
  | deauth frame => exact disconnected reports
  | disassoc frame => exact disconnected reports
  | assocRsp frame =>
    obtain ⟨_, _, linking, notDone⟩ := reports
    obtain rfl : phase = .associating :=
      LinkPhase.associating_of_answers (has _ ▸ linking) (has _ ▸ notDone)
    exact ⟨by decide, by decide⟩
  | expiry =>
    obtain ⟨_, waiting | ⟨_, authenticating, _⟩ | ⟨_, _, associating, _⟩⟩ := reports
    · obtain rfl : phase = .waiting := LinkPhase.waiting_of_has (has _ ▸ waiting)
      exact ⟨by decide, by decide⟩
    · obtain rfl : phase = .authenticating := LinkPhase.authenticating_of_has (has _ ▸ authenticating)
      exact ⟨by decide, by decide⟩
    · obtain rfl : phase = .associating := LinkPhase.associating_of_has (has _ ▸ associating)
      exact ⟨by decide, by decide⟩

omit [DecidableEq Station] in
theorem negative_of_linking (inv : LinkInv link history failed phase) (linking : phase.Linking) {res : Int}
    (reported : res ∈ link.joinResults) : res < 0 := by
  by_contra nonnegative
  exact linking.1 (inv.settled res reported (not_lt.mp nonnegative))

theorem undecided (inv : LinkInv link history failed phase) {input : LinkInput Station}
    (meets : LinkMeets link history failed input) (reports : link.Reports input.event) :
    link.joinResults = [] := by
  have linking := inv.linking_of_reports reports
  rw [List.eq_nil_iff_forall_not_mem]
  intro res reported
  rcases inv.negative res reported (inv.negative_of_linking linking reported) with failure | abandoned
  · exact meets.quiet failure reports
  · exact linking.2 abandoned

variable {after : ClientLink Station}

omit [DecidableEq Station] in
theorem proper_of_results (inv : LinkInv link history failed phase) (linking : phase.Linking)
    (results : after.joinResults = link.joinResults)
    (timer : after.linkTimer = true) (event : LinkEvent Station) :
    LinkProper after (history ++ [event]) where
  once := by
    rw [results]
    exact inv.proper.once
  sound res reported positive := by
    rw [results] at reported
    have negative := inv.negative_of_linking linking reported
    omega
  final := by
    rw [results]
    exact inv.proper.final
  timed _ := timer

omit [DecidableEq Station] in
theorem proper_of_failure {res : Int} (negative : res < 0)
    (results : after.joinResults = [res] ∨ after.joinResults = [] ∧ after.linkTimer = true)
    (events : List (LinkEvent Station)) : LinkProper after events := by
  rcases results with one | ⟨none_, timer⟩
  · refine ⟨?_, fun other reported positive => ?_, ?_, fun empty => ?_⟩
    · rw [one]
      exact (List.length_filter_le ..).trans (by simp)
    · rw [one, List.mem_singleton] at reported
      omega
    · rw [one]
      simp
    · rw [one] at empty
      cases empty
  · refine ⟨?_, fun other reported => ?_, ?_, fun _ => timer⟩
    · rw [none_]
      simp
    · rw [none_] at reported
      cases reported
    · rw [none_]
      simp

theorem step (inv : LinkInv link history failed phase) {input : LinkInput Station}
    (meets : LinkMeets link history failed input) :
    ∃ next, LinkInv (link.step input) (history ++ [input.event]) (failed ∨ link.Fails input) next := by
  have has := ClientLink.has_of_phase inv.state
  have bssid := link.step_bssid input
  have change := link.step_change input
  generalize link.step input = after at bssid change ⊢
  cases change with
  | same state algo results timer =>
    refine ⟨phase, state.trans inv.state, ?_, ?_, ?_, ?_, ?_⟩
    · rw [results]
      exact inv.decided
    · rw [results]
      exact fun res reported negative => (inv.negative res reported negative).imp .inl id
    · rw [results]
      exact inv.settled
    · rw [bssid, algo]
      exact fun associating => (inv.authenticated associating).append _
    · refine ⟨?_, ?_, ?_, ?_⟩
      · rw [results]
        exact inv.proper.once
      · rw [results, bssid, algo]
        exact fun res reported positive => (inv.proper.sound res reported positive).append _
      · rw [results]
        exact inv.proper.final
      · rw [results]
        intro empty
        rcases timer with kept | ⟨null, auth, assoc⟩
        · exact kept (inv.proper.timed empty)
        · exact absurd empty (inv.decided (LinkPhase.not_linking (has _ ▸ null) (has _ ▸ auth) (has _ ▸ assoc)))
  | begun waiting state algo results timer =>
    obtain rfl : phase = .waiting := LinkPhase.waiting_of_has (has _ ▸ waiting)
    have linking : LinkPhase.waiting.Linking := ⟨by decide, by decide⟩
    refine ⟨.authenticating, ?_, fun settled => absurd ⟨by decide, by decide⟩ settled, ?_, ?_,
      fun associating => (by cases associating), inv.proper_of_results linking results timer _⟩
    · rw [state, inv.state]
      decide
    · rw [results]
      intro res reported negative
      rcases inv.negative res reported negative with failure | abandoned
      · exact .inl (.inl failure)
      · cases abandoned
    · rw [results]
      intro res reported nonnegative
      cases inv.settled res reported nonnegative
  | retried authenticating state results timer =>
    obtain rfl : phase = .authenticating := LinkPhase.authenticating_of_has (has _ ▸ authenticating)
    have linking : LinkPhase.authenticating.Linking := ⟨by decide, by decide⟩
    refine ⟨.authenticating, state.trans inv.state, fun settled => absurd linking settled, ?_, ?_,
      fun associating => (by cases associating), inv.proper_of_results linking results timer _⟩
    · rw [results]
      exact fun res reported negative => (inv.negative res reported negative).imp .inl id
    · rw [results]
      exact inv.settled
  | authenticated frame event passes state algo results timer =>
    obtain rfl : phase = .authenticating := LinkPhase.authenticating_of_has (has _ ▸ passes.2.2.1)
    have linking : LinkPhase.authenticating.Linking := ⟨by decide, by decide⟩
    refine ⟨.associating, ?_, fun settled => absurd ⟨by decide, by decide⟩ settled, ?_, ?_, fun _ => ?_,
      inv.proper_of_results linking results timer _⟩
    · rw [state, inv.state]
      decide
    · rw [results]
      intro res reported negative
      rcases inv.negative res reported negative with failure | abandoned
      · exact .inl (.inl failure)
      · cases abandoned
    · rw [results]
      intro res reported nonnegative
      cases inv.settled res reported nonnegative
    · obtain ⟨sender, algorithm, before⟩ := meets.authentic frame event passes
      obtain ⟨_, _, _, status, second | fourth⟩ := passes
      · have nothing : Brought link.bssid history [] := .nil
        have response := nothing.snoc sender status
        rw [bssid, algo, event, authResponses, if_neg second.2]
        rw [algorithm, second.1, ClientLink.requestAlgorithm, if_neg second.2] at response
        exact response
      · have response := Brought.snoc (before fourth.1) sender status
        rw [bssid, algo, event, authResponses, if_pos fourth.2]
        rw [algorithm, fourth.1, ClientLink.requestAlgorithm, if_pos fourth.2] at response
        exact response
  | failed res negative reports fails state algo results timer =>
    have linking := inv.linking_of_reports reports
    have undecided := inv.undecided meets reports
    unfold ClientLink.resultsWith at results
    rw [undecided] at results
    refine ⟨phase, state.trans inv.state, fun settled => absurd linking settled, ?_, ?_, ?_,
      proper_of_failure negative ?_ _⟩
    · intro other reported _
      cases allocated : input.cmdAllocated with
      | true => exact .inl (.inr (fails allocated))
      | false =>
        rw [results, allocated] at reported
        cases reported
    · intro other reported nonnegative
      cases allocated : input.cmdAllocated with
      | true =>
        rw [results, allocated, if_pos rfl, List.nil_append, List.mem_singleton] at reported
        omega
      | false =>
        rw [results, allocated] at reported
        cases reported
    · rw [bssid, algo]
      exact fun associating => (inv.authenticated associating).append _
    · cases allocated : input.cmdAllocated with
      | true =>
        rw [allocated] at results
        exact .inl results
      | false =>
        rw [allocated] at results
        refine .inr ⟨results, ?_⟩
        rcases timer with response | kept
        · rw [meets.memory (.inl response) reports] at allocated
          cases allocated
        · exact kept (inv.proper.timed undecided)
  | associated frame event answers status state algo results =>
    have reports : link.Reports input.event := by
      rw [event]
      exact answers
    obtain rfl : phase = .associating :=
      LinkPhase.associating_of_answers (has _ ▸ answers.2.2.1) (has _ ▸ answers.2.2.2)
    have one : after.joinResults = [(frame.assocAid : Int)] := by
      rw [results, ClientLink.resultsWith, if_pos (meets.memory (.inl ⟨frame, event⟩) reports),
        inv.undecided meets reports, List.nil_append]
    refine ⟨.associated, ?_, fun _ empty => ?_, ?_, fun _ _ _ => rfl,
      fun associating => (by cases associating), ?_, ?_, ?_, ?_⟩
    · rw [state, inv.state]
      decide
    · rw [one] at empty
      cases empty
    · intro res reported negative
      rw [one, List.mem_singleton] at reported
      omega
    · rw [one]
      exact (List.length_filter_le ..).trans (by simp)
    · intro res reported positive
      rw [one, List.mem_singleton] at reported
      have aid : 0 < frame.assocAid := by omega
      rw [bssid, algo, event]
      exact ⟨history, frame, [], rfl, meets.associate frame event answers status aid, status, inv.authenticated rfl⟩
    · rw [one]
      simp
    · intro empty
      rw [one] at empty
      cases empty
  | abandoned res negative event timesOut state results =>
    have reports : link.Reports input.event := by
      rw [event]
      exact timesOut
    have one : after.joinResults = [res] := by
      rw [results, ClientLink.resultsWith, if_pos (meets.memory (.inr event) reports),
        inv.undecided meets reports, List.nil_append]
    refine ⟨.abandoned, state, fun _ empty => ?_, fun _ _ _ => .inr rfl, ?_,
      fun associating => (by cases associating), proper_of_failure negative (.inl one) _⟩
    · rw [one] at empty
      cases empty
    · intro other reported nonnegative
      rw [one, List.mem_singleton] at reported
      omega

omit [DecidableEq Station] in
theorem start (link : ClientLink Station) : LinkInv link.startClntJoin [] False .waiting where
  state := rfl
  decided settled := absurd ⟨by decide, by decide⟩ settled
  negative _ reported := nomatch reported
  settled _ reported := nomatch reported
  authenticated associating := by cases associating
  proper :=
    { once := Nat.zero_le 1
      sound := fun _ reported => nomatch reported
      final := fun _ reported => nomatch reported
      timed := fun _ => rfl }

theorem run (inv : LinkInv link history failed phase) {inputs : List (LinkInput Station)}
    (meets : LinkRunMeets link history failed inputs) :
    ∃ failed next, LinkInv (link.run inputs) (history ++ inputs.map LinkInput.event) failed next := by
  induction inputs generalizing link history failed phase with
  | nil =>
    refine ⟨failed, phase, ?_⟩
    rw [List.map_nil, List.append_nil]
    exact inv
  | cons input rest ih =>
    obtain ⟨next, stepped⟩ := inv.step meets.1
    obtain ⟨failed, last, ran⟩ := ih stepped meets.2
    refine ⟨failed, last, ?_⟩
    rw [List.append_assoc] at ran
    exact ran

end LinkInv

def openLink : ClientLink Nat where
  myid := 1
  bcAddr := 0
  bssid := 2
  state := wifiFwNullState
  authAlgo := .open
  authSeq := 0
  reauthCount := 0
  reassocCount := 0
  linkCount := 0
  chgTxt := Vector.replicate 128 0
  capability := 0
  slotTime := 20
  aid := 0
  linkTimer := false
  joinResults := []
  sent := []

def networkFrame (second third : U8) : LinkFrame Nat where
  sa := 2
  memory offset := if offset = 26 then second else if offset = 28 then third else 0
  len := 30
  addr1 := 1
  addr3 := 2

def withMemory (event : LinkEvent Nat) : LinkInput Nat := ⟨event, true, true⟩

def joinEvents : List (LinkInput Nat) :=
  [withMemory (.beacon (networkFrame 0 0) false), withMemory (.auth (networkFrame 2 0)),
    withMemory (.assocRsp (networkFrame 0 1))]

end Floid.Wifi
