import Floid.Wifi.GoNegotiationFrames

namespace Floid.Wifi

open Osk Lib
open Option (bind_eq_bind bind_some mem_toList)

structure GoNegotiation where
  initiator : NegoInfo
  responder : NegoInfo
  requests : List GoFrame
  responses : List GoFrame
  confirms : List (Nat × GoFrame)
  answered : Option Nat
  confirmed : Option Nat

inductive GoAction where
  | request
  | getRequest (frame : GoFrame) (allocated : Bool)
  | getResponse (place : Nat) (allocated : Bool)
  | getConfirm (place : Nat) (frame : GoFrame) (allocated : Bool)
  | initiatorListens
  | responderListens

def goNegotiationSystem (others : NegoInfo → List U8 → Option NegoInfo) (a b : NegoInfo) :
    TransitionSystem GoNegotiation GoAction where
  initial self := self = ⟨a, b, [], [], [], none, none⟩
  step before action after :=
    match action with
    | .request => ∀ info frame,
        before.initiator.issueP2pGoRequest before.responder.myid = some (info, frame) →
          after = { before with initiator := info, requests := frame :: before.requests }
    | .getRequest frame allocated => frame ∈ before.requests ∧ ∀ info sent,
        before.responder.onActionPublic others frame.bytes allocated = some (info, sent) →
          after = { before with responder := info, responses := before.responses ++ sent.toList }
    | .getResponse place allocated => ∃ frame, before.responses[place]? = some frame ∧
        ∀ info sent,
          before.initiator.onActionPublic others frame.bytes allocated = some (info, sent) →
            after = { before with
              initiator := info
              confirms := sent.toList.map (fun confirm => (place, confirm)) ++ before.confirms
              answered := some place }
    | .getConfirm place frame allocated => (place, frame) ∈ before.confirms ∧ ∀ info sent,
        before.responder.onActionPublic others frame.bytes allocated = some (info, sent) →
          after = { before with responder := info, confirmed := some place }
    | .initiatorListens => after = { before with initiator := before.initiator.enterListenState }
    | .responderListens => after = { before with responder := before.responder.enterListenState }

/-- When the responder has come to `P2P_STATE_GONEGO_OK` by a confirmation of its latest response,
one device is the owner of the group and the other a client. And no device comes there by a
response with a failure. -/
structure GoNegotiation.Agreed (negotiation : GoNegotiation) : Prop where
  roles : ∀ place, negotiation.confirmed = some place → place + 1 = negotiation.responses.length →
    negotiation.responder.p2pState = .gonegoOk →
      negotiation.initiator.role = .go ∧ negotiation.responder.role = .client ∨
        negotiation.initiator.role = .client ∧ negotiation.responder.role = .go
  failures : ∀ place response, negotiation.responses[place]? = some response → response.result ≠ 0 →
    (negotiation.confirmed = some place → negotiation.responder.p2pState ≠ .gonegoOk) ∧
      (negotiation.answered = some place → negotiation.initiator.p2pState ≠ .gonegoOk)

structure NegoInfo.SameDevice (info device : NegoInfo) : Prop where
  myid : info.myid = device.myid
  intent : info.intent = device.intent

theorem NegoInfo.SameDevice.sentIntent {info device : NegoInfo} (same : info.SameDevice device) :
    info.sentIntent = device.sentIntent := by
  rw [NegoInfo.sentIntent, same.intent]
  rfl

def IsRequest (a b : NegoInfo) (frame : GoFrame) : Prop :=
  ∃ (info : NegoInfo) (dialogToken : U8) (devicePwid : U16)
    (wpsShort : (negoWpsIe devicePwid).length ≤ 255) (short : info.requestP2pIe.length ≤ 255),
    info.SameDevice a ∧
      GoFrameLayout b.myid a.myid 0 dialogToken
        ((sectionElement (negoWpsIe devicePwid) wpsShort).bytes ++
          (sectionElement info.requestP2pIe short).bytes) frame.bytes

def IsResponse (b a : NegoInfo) (frame : GoFrame) : Prop :=
  ∃ (info : NegoInfo) (dialogToken : U8) (devicePwid : U16)
    (wpsShort : (negoWpsIe devicePwid).length ≤ 255)
    (short : (info.responseP2pIe frame.result).length ≤ 255), info.SameDevice b ∧
      GoFrameLayout a.myid b.myid 1 dialogToken
        ((sectionElement (negoWpsIe devicePwid) wpsShort).bytes ++
          (sectionElement (info.responseP2pIe frame.result) short).bytes) frame.bytes

def IsConfirm (a b : NegoInfo) (frame : GoFrame) : Prop :=
  ∃ (info : NegoInfo) (dialogToken : U8) (short : (info.confirmP2pIe frame.result).length ≤ 255),
    info.SameDevice a ∧
      GoFrameLayout b.myid a.myid 2 dialogToken
        (sectionElement (info.confirmP2pIe frame.result) short).bytes frame.bytes

namespace NegoInfo

variable {info a b : NegoInfo} {frame : GoFrame}

theorem issueRequest_sent (b : NegoInfo) (same : info.SameDevice a) :
    ∃ next frame, info.issueP2pGoRequest b.myid = some (next, frame) ∧ IsRequest a b frame ∧
      next.SameDevice a ∧ next.role = info.role ∧ next.p2pState = info.p2pState := by
  have wpsShort : (negoWpsIe info.devicePasswordIdForNego).length ≤ 255 := by
    rw [negoWpsIe_length]
    decide
  have short : info.requestP2pIe.length ≤ 255 := info.requestP2pIe_length.trans (by decide)
  obtain ⟨build, after, wps, p2p, layout⟩ := info.sections_layout b.myid 0 1 wpsShort short
  rw [same.myid] at layout
  have sent : info.issueP2pGoRequest b.myid =
      some ({ info with mgntSeq := info.mgntSeq + 1, negotiationDialogToken := 1 }, ⟨0, after.frame⟩) := by
    simp only [issueP2pGoRequest, wps, p2p, bind_eq_bind, bind_some]
    rfl
  exact ⟨_, _, sent, ⟨info, 1, _, wpsShort, short, same, layout⟩, ⟨same.myid, same.intent⟩, rfl, rfl⟩

variable {result : U8}

theorem issueResponse_sent {dialogToken : U8} {frameBody : List U8}
    (same : info.SameDevice b) (token : frameBody[7]? = some dialogToken) :
    ∃ next frame, info.issueP2pGoResponse a.myid frameBody result = some (next, frame) ∧
      IsResponse b a frame ∧ frame.result = result ∧ next.SameDevice b ∧ next.role = info.role ∧
      next.p2pState = info.p2pState ∧ next.peerIntent = info.peerIntent := by
  have wpsShort : (negoWpsIe 0).length ≤ 255 := by decide
  have short : (info.responseP2pIe result).length ≤ 255 :=
    (info.responseP2pIe_length result).trans (by decide)
  obtain ⟨build, after, wps, p2p, layout⟩ :=
    info.sections_layout a.myid 1 dialogToken wpsShort short
  rw [same.myid] at layout
  have sent : info.issueP2pGoResponse a.myid frameBody result =
      some ({ info with mgntSeq := info.mgntSeq + 1, negotiationDialogToken := dialogToken },
        ⟨result, after.frame⟩) := by
    simp only [issueP2pGoResponse, token, wps, p2p, bind_eq_bind, bind_some]
    rfl
  exact ⟨_, _, sent, ⟨info, _, _, wpsShort, short, same, layout⟩, rfl, ⟨same.myid, same.intent⟩, rfl, rfl, rfl⟩

theorem issueConfirm_sent (same : info.SameDevice a) :
    ∃ next frame, info.issueP2pGoConfirm b.myid result = some (next, frame) ∧
      IsConfirm a b frame ∧ frame.result = result ∧ next.SameDevice a ∧ next.role = info.role ∧
      next.p2pState = info.p2pState := by
  have short : (info.confirmP2pIe result).length ≤ 255 :=
    (info.confirmP2pIe_length result).trans (by decide)
  obtain ⟨build, p2p, layout⟩ :=
    info.section_layout b.myid 2 info.negotiationDialogToken short
  rw [same.myid] at layout
  have sent : info.issueP2pGoConfirm b.myid result =
      some ({ info with mgntSeq := info.mgntSeq + 1 }, ⟨result, build.frame⟩) := by
    simp only [issueP2pGoConfirm, p2p, bind_eq_bind, bind_some]
    rfl
  exact ⟨_, _, sent, ⟨info, _, short, same, layout⟩, rfl, ⟨same.myid, same.intent⟩, rfl, rfl⟩

theorem intentStatus_congr {own peer : NegoInfo} (same : info.SameDevice own)
    (samePeer : a.SameDevice peer) : info.intentStatus a = own.intentStatus peer := by
  rw [intentStatus, samePeer.sentIntent, same.intent]
  rfl

theorem onActionPublic_request (same : info.SameDevice b) (request : IsRequest a b frame)
    (others : NegoInfo → List U8 → Option NegoInfo) (allocated : Bool) :
    ∃ next sent, info.onActionPublic others frame.bytes allocated = some (next, sent) ∧
      next.SameDevice b ∧ next.p2pState = .gonegoIng ∧ next.peerIntent = a.sentIntent ∧
      sent.isSome = allocated ∧
      ∀ response ∈ sent, IsResponse b a response ∧ response.result = b.intentStatus a := by
  obtain ⟨peer, dialogToken, devicePwid, wpsShort, short, samePeer, layout⟩ := request
  have token : (frame.bytes.drop 24)[7]? = some dialogToken := by
    rw [List.getElem?_drop, layout.behind 7]
    rfl
  have after : (info.requested peer).SameDevice b := ⟨same.myid, same.intent⟩
  have status := intentStatus_congr same samePeer
  rw [layout.onActionPublic info others allocated same.myid.symm]
  change ∃ next sent, ((info.processP2pGroupNegotationReq (frame.bytes.drop 24)
    (BitVec.ofNat 32 frame.bytes.length)).bind _) = some (next, sent) ∧ _
  rw [processReq_request layout, bind_some, status]
  cases allocated with
  | false => exact ⟨_, none, rfl, after, rfl, samePeer.sentIntent, rfl, nofun⟩
  | true =>
    obtain ⟨next, response, built, isResponse, carried, device, -, state, peerIntent⟩ :=
      issueResponse_sent after token
    refine ⟨next, some response, ?_, device, state, ?_, rfl, ?_⟩
    · exact congrArg (Option.map fun issued => (issued.1, some issued.2)) built
    · rw [peerIntent]
      exact samePeer.sentIntent
    · rintro _ ⟨rfl⟩
      exact ⟨isResponse, carried⟩

theorem onActionPublic_response (same : info.SameDevice a) (response : IsResponse b a frame)
    (others : NegoInfo → List U8 → Option NegoInfo) (allocated : Bool) :
    ∃ next sent, info.onActionPublic others frame.bytes allocated = some (next, sent) ∧ next.SameDevice a ∧
      next.role = (if frame.result = 0 then negotiatedRole a.intent b.sentIntent else .device) ∧
      sent.isSome = allocated ∧
      ∀ confirm ∈ sent, IsConfirm a b confirm ∧
        confirm.result = if frame.result = 0 then a.intentStatus b else 0 := by
  obtain ⟨peer, dialogToken, devicePwid, wpsShort, short, samePeer, layout⟩ := response
  have status := intentStatus_congr same samePeer
  have handled : ∃ after, info.processP2pGroupNegotationResp (frame.bytes.drop 24)
      (BitVec.ofNat 32 frame.bytes.length) =
        some (if frame.result = 0 then a.intentStatus b else 0, after) ∧ after.SameDevice a ∧
      after.role = if frame.result = 0 then negotiatedRole a.intent b.sentIntent else .device := by
    rw [processResp_response layout, status]
    by_cases success : frame.result = 0
    · rw [if_pos success, if_pos success, if_pos success]
      refine ⟨_, rfl, ⟨same.myid, same.intent⟩, ?_⟩
      rw [← same.intent, ← samePeer.sentIntent]
      rfl
    · rw [if_neg success, if_neg success, if_neg success]
      exact ⟨_, rfl, ⟨same.myid, same.intent⟩, rfl⟩
  obtain ⟨after, processed, device, role⟩ := handled
  rw [layout.onActionPublic info others allocated same.myid.symm]
  change ∃ next sent, ((info.processP2pGroupNegotationResp (frame.bytes.drop 24)
    (BitVec.ofNat 32 frame.bytes.length)).bind _) = some (next, sent) ∧ _
  rw [processed, bind_some]
  cases allocated with
  | false => exact ⟨_, none, rfl, { device with }, role, rfl, nofun⟩
  | true =>
    obtain ⟨next, confirm, built, isConfirm, carried, sameNext, sameRole, -⟩ :=
      issueConfirm_sent device
    refine ⟨{ next with negotiationDialogToken := 1 }, some confirm, ?_,
      { sameNext with }, sameRole.trans role, rfl, ?_⟩
    · dsimp only
      rw [NegoInfo.issued, if_pos rfl, built]
      rfl
    · rintro _ ⟨rfl⟩
      exact ⟨isConfirm, carried⟩

theorem onActionPublic_confirm (same : info.SameDevice b) (confirm : IsConfirm a b frame)
    (others : NegoInfo → List U8 → Option NegoInfo) (allocated : Bool) :
    ∃ next, info.onActionPublic others frame.bytes allocated = some (next, none) ∧
      next.SameDevice b ∧ next.peerIntent = info.peerIntent ∧
      (frame.result = 0 → next.p2pState = .gonegoOk ∧ next.role = confirmedRole b.intent info.peerIntent) ∧
      (frame.result ≠ 0 → next.p2pState = .gonegoFail) := by
  obtain ⟨peer, dialogToken, short, samePeer, layout⟩ := confirm
  obtain ⟨channel, processed⟩ := processConfirm_confirm info layout
  rw [layout.onActionPublic info others allocated same.myid.symm]
  change ∃ next, ((info.processP2pGroupNegotationConfirm (frame.bytes.drop 24)
    (BitVec.ofNat 32 frame.bytes.length)).bind _) = some (next, none) ∧ _
  rw [processed]
  by_cases success : frame.result = 0
  · rw [if_pos success, bind_some]
    refine ⟨_, rfl, ⟨same.myid, same.intent⟩, rfl, ?_, fun failure => absurd success failure⟩
    intro _
    rw [← same.intent]
    exact ⟨rfl, rfl⟩
  · rw [if_neg success, bind_some]
    exact ⟨_, rfl, ⟨same.myid, same.intent⟩, rfl, fun accepted => absurd accepted success, fun _ => rfl⟩

end NegoInfo

namespace GoNegotiation

variable {others : NegoInfo → List U8 → Option NegoInfo} {a b : NegoInfo}
variable {self after : GoNegotiation}

def initiatorRole (a b : NegoInfo) : P2pRole :=
  if b.intentStatus a = 0 then negotiatedRole a.intent b.sentIntent else .device

structure Negotiated (a b : NegoInfo) (negotiation : GoNegotiation) : Prop where
  initiator : negotiation.initiator.SameDevice a
  responder : negotiation.responder.SameDevice b
  requests : ∀ frame ∈ negotiation.requests, IsRequest a b frame
  responses : ∀ frame ∈ negotiation.responses, IsResponse b a frame ∧ frame.result = b.intentStatus a
  asked : negotiation.responses ≠ [] → negotiation.responder.peerIntent = a.sentIntent
  confirms : ∀ entry ∈ negotiation.confirms,
    IsConfirm a b entry.2 ∧ negotiation.responses ≠ [] ∧ negotiation.initiator.role = initiatorRole a b
  confirmed : negotiation.confirmed ≠ none → negotiation.responder.p2pState = .gonegoOk →
    negotiation.responder.role = confirmedRole b.intent a.sentIntent ∧
      negotiation.initiator.role = initiatorRole a b

theorem Negotiated.request (kept : self.Negotiated a b)
    (stepped : (goNegotiationSystem others a b).step self .request after) :
    after.Negotiated a b := by
  obtain ⟨next, frame, sent, isRequest, device, role, -⟩ :=
    NegoInfo.issueRequest_sent b kept.initiator
  rw [← kept.responder.myid] at sent
  have result := stepped next frame sent
  rw [result]
  exact
    { kept with
      initiator := device
      requests := List.forall_mem_cons.mpr ⟨isRequest, kept.requests⟩
      confirms := by
        intro entry known
        obtain ⟨isConfirm, some, decided⟩ := kept.confirms entry known
        exact ⟨isConfirm, some, role.trans decided⟩
      confirmed := by
        intro some state
        obtain ⟨own, peer⟩ := kept.confirmed some state
        exact ⟨own, role.trans peer⟩ }

variable {allocated : Bool}

theorem Negotiated.getRequest {frame : GoFrame} (kept : self.Negotiated a b)
    (stepped : (goNegotiationSystem others a b).step self (.getRequest frame allocated) after) :
    after.Negotiated a b := by
  obtain ⟨next, sent, handled, device, state, peerIntent, -, responses⟩ :=
    NegoInfo.onActionPublic_request kept.responder (kept.requests frame stepped.1) others allocated
  have result := stepped.2 next sent handled
  rw [result]
  exact
    { kept with
      responder := device
      responses := by
        intro response known
        rcases List.mem_append.mp known with earlier | now
        · exact kept.responses response earlier
        · exact responses response (mem_toList.mp now)
      asked := fun _ => peerIntent
      confirms := by
        intro entry known
        obtain ⟨isConfirm, some, decided⟩ := kept.confirms entry known
        exact ⟨isConfirm, List.append_ne_nil_of_left_ne_nil some _, decided⟩
      confirmed := by
        intro _ accepted
        rw [state] at accepted
        cases accepted }

variable {place : Nat}

theorem Negotiated.getResponse (kept : self.Negotiated a b)
    (stepped : (goNegotiationSystem others a b).step self (.getResponse place allocated) after) :
    after.Negotiated a b := by
  obtain ⟨frame, found, all⟩ := stepped
  have known := List.mem_of_getElem? found
  obtain ⟨isResponse, status⟩ := kept.responses frame known
  obtain ⟨next, sent, handled, device, role, -, confirms⟩ :=
    NegoInfo.onActionPublic_response kept.initiator isResponse others allocated
  rw [status] at role
  have result := all next sent handled
  rw [result]
  exact
    { kept with
      initiator := device
      confirms := by
        intro entry known_
        rcases List.mem_append.mp known_ with now | earlier
        · obtain ⟨confirm, new, rfl⟩ := List.mem_map.mp now
          exact ⟨(confirms confirm (mem_toList.mp new)).1, List.ne_nil_of_mem known, role⟩
        · obtain ⟨isConfirm, some, -⟩ := kept.confirms entry earlier
          exact ⟨isConfirm, some, role⟩
      confirmed := by
        intro some state
        exact ⟨(kept.confirmed some state).1, role⟩ }

theorem Negotiated.getConfirm {frame : GoFrame} (kept : self.Negotiated a b)
    (stepped : (goNegotiationSystem others a b).step self (.getConfirm place frame allocated) after) :
    after.Negotiated a b := by
  obtain ⟨isConfirm, some, decided⟩ := kept.confirms (place, frame) stepped.1
  obtain ⟨next, handled, device, peerIntent, success, failure⟩ :=
    NegoInfo.onActionPublic_confirm kept.responder isConfirm others allocated
  have peer := kept.asked some
  have result := stepped.2 next none handled
  rw [result]
  exact
    { kept with
      responder := device
      asked := fun _ => peerIntent.trans peer
      confirmed := by
        intro _ state
        by_cases accepted : frame.result = 0
        · rw [(success accepted).2, peer]
          exact ⟨rfl, decided⟩
        · rw [failure accepted] at state
          cases state }

theorem Negotiated.step {action : GoAction} (kept : self.Negotiated a b)
    (stepped : (goNegotiationSystem others a b).step self action after) :
    after.Negotiated a b := by
  cases action with
  | request => exact kept.request stepped
  | getRequest frame allocated => exact kept.getRequest stepped
  | getResponse place allocated => exact kept.getResponse stepped
  | getConfirm place frame allocated => exact kept.getConfirm stepped
  | initiatorListens =>
    rw [show after = _ from stepped]
    exact { kept with initiator := { kept.initiator with } }
  | responderListens =>
    rw [show after = _ from stepped]
    exact { kept with
      responder := { kept.responder with }
      confirmed := fun _ state => nomatch state }

theorem negotiated (reached : (goNegotiationSystem others a b).Reachable self) : self.Negotiated a b := by
  refine reached.invariant ?_ fun before action after kept stepped => kept.step stepped
  rintro _ rfl
  exact ⟨⟨rfl, rfl⟩, ⟨rfl, rfl⟩, by simp, by simp, fun some => absurd rfl some, by simp, fun some => absurd rfl some⟩

theorem exchange (others : NegoInfo → List U8 → Option NegoInfo) (a b : NegoInfo)
    (success : (if b.intentStatus a = 0 then a.intentStatus b else 0) = 0) :
    ∃ self, (goNegotiationSystem others a b).Reachable self ∧ self.confirmed = some 0 ∧
      self.responses.length = 1 ∧ self.responder.p2pState = .gonegoOk := by
  obtain ⟨asking, request, issued, isRequest, device, -, -⟩ :=
    NegoInfo.issueRequest_sent b (⟨rfl, rfl⟩ : a.SameDevice a)
  have asked : (goNegotiationSystem others a b).Reachable
      ⟨asking, b, [request], [], [], none, none⟩ := by
    refine .next .request (.initial rfl) ?_
    intro info frame sent
    cases issued.symm.trans sent
    rfl
  obtain ⟨responding, sent, handled, peer, -, -, some, responses⟩ :=
    NegoInfo.onActionPublic_request (⟨rfl, rfl⟩ : b.SameDevice b) isRequest others true
  obtain ⟨response, rfl⟩ := Option.isSome_iff_exists.mp some
  obtain ⟨isResponse, status⟩ := responses response rfl
  have answered : (goNegotiationSystem others a b).Reachable
      ⟨asking, responding, [request], [response], [], none, none⟩ := by
    refine .next (.getRequest request true) asked ⟨List.mem_singleton_self _, ?_⟩
    intro info sent got
    cases handled.symm.trans got
    rfl
  obtain ⟨deciding, sent, decided, -, -, some, confirms⟩ :=
    NegoInfo.onActionPublic_response device isResponse others true
  obtain ⟨confirm, rfl⟩ := Option.isSome_iff_exists.mp some
  obtain ⟨isConfirm, carried⟩ := confirms confirm rfl
  have confirmed : (goNegotiationSystem others a b).Reachable
      ⟨deciding, responding, [request], [response], [(0, confirm)], Option.some 0, none⟩ := by
    refine .next (.getResponse 0 true) answered ⟨response, rfl, ?_⟩
    intro info sent got
    cases decided.symm.trans got
    rfl
  obtain ⟨done, last, -, -, accepted, -⟩ :=
    NegoInfo.onActionPublic_confirm peer isConfirm others true
  rw [status, success] at carried
  refine ⟨⟨deciding, done, [request], [response], [(0, confirm)], Option.some 0, Option.some 0⟩,
    .next (.getConfirm 0 confirm true) confirmed ⟨List.mem_singleton_self _, ?_⟩, rfl, rfl,
    (accepted carried).1⟩
  intro info sent got
  cases last.symm.trans got
  rfl

end GoNegotiation

namespace NegoInfo

theorem intentBits : ∀ intent : U8, intent ≤ 15 →
    (intent <<< 1 ||| 1) >>> 1 = intent ∧ (intent <<< 1 ||| 1) &&& 1 ≠ 0 := by
  decide +kernel

variable {a b : NegoInfo}

theorem sentIntent_bits (small : a.intent ≤ 15) : a.sentIntent >>> 1 = a.intent ∧ a.sentIntent &&& 1 ≠ 0 :=
  intentBits a.intent small

theorem intentStatus_of_ne (small : a.intent ≤ 15) (differ : a.intent ≠ b.intent) : b.intentStatus a = 0 := by
  refine if_neg ?_
  rintro ⟨same, -⟩
  rw [(sentIntent_bits small).1] at same
  exact differ same.symm

end NegoInfo

theorem roles_differ {a b : NegoInfo} (aSmall : a.intent ≤ 15) (bSmall : b.intent ≤ 15)
    (differ : a.intent ≠ b.intent) :
    GoNegotiation.initiatorRole a b = .go ∧ confirmedRole b.intent a.sentIntent = .client ∨
      GoNegotiation.initiatorRole a b = .client ∧ confirmedRole b.intent a.sentIntent = .go := by
  obtain ⟨aShift, -⟩ := NegoInfo.sentIntent_bits aSmall
  obtain ⟨bShift, -⟩ := NegoInfo.sentIntent_bits bSmall
  rw [GoNegotiation.initiatorRole, if_pos (NegoInfo.intentStatus_of_ne aSmall differ),
    negotiatedRole, confirmedRole, aShift, bShift, if_neg differ]
  by_cases more : b.intent < a.intent
  · left
    rw [if_pos more, if_neg (by bv_omega), if_pos more]
    exact ⟨rfl, rfl⟩
  · right
    rw [if_neg more, if_pos (by bv_omega)]
    exact ⟨rfl, rfl⟩

theorem roles_same {a b : NegoInfo} (aSmall : a.intent ≤ 15) (bSmall : b.intent ≤ 15) (same : a.intent = b.intent) :
    GoNegotiation.initiatorRole a b ≠ .go ∧ confirmedRole b.intent a.sentIntent = .client ∧
      (if b.intentStatus a = 0 then a.intentStatus b else 0) = 0 := by
  obtain ⟨aShift, aTie⟩ := NegoInfo.sentIntent_bits aSmall
  obtain ⟨bShift, bTie⟩ := NegoInfo.sentIntent_bits bSmall
  refine ⟨?_, ?_, ?_⟩
  · rw [GoNegotiation.initiatorRole, negotiatedRole, bShift, if_pos same, if_pos bTie]
    split
    · split
      · exact nofun
      · exact nofun
    · exact nofun
  · rw [confirmedRole, aShift, if_neg (by bv_omega), if_neg (by bv_omega), if_pos aTie]
  · rw [NegoInfo.intentStatus, NegoInfo.intentStatus, aShift, bShift, same]
    by_cases most : b.intent = b.intent ∧ b.intent = 15
    · rw [if_pos most]
      rfl
    · rw [if_neg most]
      rfl

theorem exchange_disagrees (others : NegoInfo → List U8 → Option NegoInfo) {a b : NegoInfo}
    (aSmall : a.intent ≤ 15) (bSmall : b.intent ≤ 15) (same : a.intent = b.intent) :
    ∃ self, (goNegotiationSystem others a b).Reachable self ∧ ¬self.Agreed := by
  obtain ⟨notGo, client, success⟩ := roles_same aSmall bSmall same
  obtain ⟨self, reached, confirmed, one, state⟩ := GoNegotiation.exchange others a b success
  have kept := (GoNegotiation.negotiated reached).confirmed (by simp [confirmed]) state
  refine ⟨self, reached, ?_⟩
  intro agreed
  rcases agreed.roles 0 confirmed one.symm state with roles | roles
  · exact notGo (kept.2.symm.trans roles.1)
  · have both := roles.2.symm.trans (kept.1.trans client)
    cases both

/-- A device with an intent, as `init_wifidirect_info` leaves it for a listening device. -/
def negoDevice (card intent : U8) : NegoInfo where
  myid := .replicate 6 card
  mgntSeq := 0
  deviceAddr := .replicate 6 card
  listenChannel := 11
  role := .device
  p2pState := .listen
  intent
  peerIntent := 0
  p2pPeerInterfaceAddr := .replicate 6 0
  peerOperatingCh := 0
  deviceName := []
  nameFits := by decide
  negoSsid := []
  ssidFits := by decide
  devicePasswordIdForNego := 4
  negotiationDialogToken := 1

end Floid.Wifi
