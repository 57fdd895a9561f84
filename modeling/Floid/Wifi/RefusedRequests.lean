import Floid.Wifi.ApProtection
import Floid.Wifi.AssocTableRuns

/-!
An associated station that is authenticated or asks for an association again, and is refused.
-/

namespace Floid.Wifi

open Osk
open Function (update)

/-- `bssrateset` has `bssratelen` entries. -/
structure StaSecurity where
  bssrateset : List U8
  dot8021xalg : Bool
  wpaPsk : U32
  wpaGroupCipher : U32
  wpa2GroupCipher : U32
  wpaPairwiseCipher : U32
  wpa2PairwiseCipher : U32

/-- What `OnAssocReq` writes of these, up to the place where the request is refused. -/
def StaSecurity.request {Station : Type*} (security : StaSecurity) (settings : AssocSettings)
    (frame : MgntFrame Station) : StaSecurity :=
  let start := frame.ieStart
  match frame.parseElems start (frame.len - start), frame.getIe start supportedratesIe with
  | some elems, some _ =>
      let cleared : StaSecurity := ⟨frame.supportRates, false, 0, 0, 0, 0, 0⟩
      if elems.ssid = none ∨ frame.ssidMatches start settings.ssid = false then security
      else
        match settings.wpaPsk.getLsbD 1, elems.rsnIe, settings.wpaPsk.getLsbD 0, elems.wpaIe with
        | true, some (pos, len), _, _ =>
            match frame.parseWpa2Ie (pos - 2) (len + 2) with
            | some (group, pairwise) =>
                { cleared with
                  dot8021xalg := true
                  wpaPsk := 2
                  wpa2GroupCipher := group &&& settings.wpa2GroupCipher
                  wpa2PairwiseCipher := pairwise &&& settings.wpa2PairwiseCipher }
            | none => cleared
        | _, _, true, some (pos, len) =>
            match frame.parseWpaIe (pos - 2) (len + 2) with
            | some (group, pairwise) =>
                { cleared with
                  dot8021xalg := true
                  wpaPsk := 1
                  wpaGroupCipher := group &&& settings.wpaGroupCipher
                  wpaPairwiseCipher := pairwise &&& settings.wpaPairwiseCipher }
            | none => cleared
        | _, _, _, _ => cleared
  | _, _ => security

structure SecuredAp (Sta Xmit Recv : Type) where
  driver : ProtectedAp Sta Xmit Recv
  security : Sta → StaSecurity

inductive StaRequest where
  | auth (frame : MgntFrame MacAddr)
  | assocReq (frame : MgntFrame MacAddr)

def StaRequest.frame : StaRequest → MgntFrame MacAddr
  | .auth frame | .assocReq frame => frame

def AuthAnswer.status {Station : Type*} : AuthAnswer Station → Nat
  | .toStation _ _ _ status _ | .asClient status => status

def AssocReply.status : AssocReply → Option Nat
  | .asocrsp _ _ status _ => some status
  | .deauth .. => none

namespace SecuredAp

variable {Sta Xmit Recv : Type} [DecidableEq Sta]

/-- `OnAuth` or `OnAssocReq`, with the status that is answered. -/
def handle (self : SecuredAp Sta Xmit Recv) (xmitAllocated eventAllocated : Bool) :
    StaRequest → Option (Option Nat × SecuredAp Sta Xmit Recv)
  | .auth frame =>
      let stapriv := self.driver.ap.stapriv
      some ((self.driver.ap.onAuth frame xmitAllocated).1.map AuthAnswer.status,
        { driver := self.driver.onAuth frame xmitAllocated
          security :=
            match self.driver.authTaken frame, stapriv.getStainfo frame.sa, (stapriv.allocStainfo frame.sa).1 with
            | true, none, some psta => update self.security psta ⟨[], false, 0, 0, 0, 0, 0⟩
            | _, _, _ => self.security })
  | .assocReq frame =>
      (self.driver.ap.onAssocReq frame xmitAllocated).bind fun (reply, _) =>
        (self.driver.onAssocReq frame xmitAllocated eventAllocated).map fun driver =>
          (reply.bind AssocReply.status,
            { driver
              security :=
                match self.driver.requester frame with
                | none => self.security
                | some pstat =>
                    update self.security pstat ((self.security pstat).request self.driver.ap.settings frame) })

structure Associated (before : SecuredAp Sta Xmit Recv) (psta : Sta) : Prop where
  associated : (before.driver.ap.auth psta).associated = true
  aid : before.driver.ap.aid psta ≠ 0
  slot : before.driver.ap.stapriv.staAid ((before.driver.ap.aid psta).toNat - 1) = some psta
  listed : psta ∈ before.driver.ap.stapriv.asocList

structure Unharmed (psta : Sta) (before after : SecuredAp Sta Xmit Recv) : Prop where
  aid : after.driver.ap.aid psta = before.driver.ap.aid psta
  slot : after.driver.ap.stapriv.staAid ((before.driver.ap.aid psta).toNat - 1) = some psta
  listed : psta ∈ after.driver.ap.stapriv.asocList
  security : after.security psta = before.security psta
  qosOption : (after.driver.ap.stapriv.stainfo psta).qosOption = (before.driver.ap.stapriv.stainfo psta).qosOption
  qosInfo : (after.driver.ap.stapriv.stainfo psta).qosInfo = (before.driver.ap.stapriv.stainfo psta).qosInfo
  uapsd : (after.driver.ap.stapriv.stainfo psta).uapsd = (before.driver.ap.stapriv.stainfo psta).uapsd
  ht : (after.driver.caps psta).ht = (before.driver.caps psta).ht
  htCapInfo : (after.driver.caps psta).htCapInfo = (before.driver.caps psta).htCapInfo

variable {before after : SecuredAp Sta Xmit Recv} {ap next : AssocAp Sta Xmit Recv} {psta : Sta}
  {frame : MgntFrame MacAddr} {xmitAllocated eventAllocated : Bool} {status : Nat}

omit [DecidableEq Sta] in
theorem authTaken_iff : before.driver.authTaken frame = true ↔ before.driver.ap.apState = true ∧
    ¬(0 < frame.le16 wlanHdrA3Len ∧ before.driver.ap.authMode = 0 ∨
      frame.le16 wlanHdrA3Len = 0 ∧ before.driver.ap.authMode = 1) := by
  simp [ProtectedAp.authTaken, Nat.pos_iff_ne_zero]
  tauto

theorem onAuth_refused (refused : before.driver.authTaken frame = false) :
    (before.driver.ap.onAuth frame xmitAllocated).2 = before.driver.ap := by
  rw [AssocAp.onAuth]
  split
  · rfl
  · rename_i on
    by_contra other
    rw [← Bool.not_eq_true, authTaken_iff] at refused
    refine refused ⟨by simpa using on, fun unused => other ?_⟩
    dsimp only
    rw [if_pos unused]

theorem onAuth_asocList (taken : before.driver.authTaken frame = true)
    (found : before.driver.ap.stapriv.getStainfo frame.sa = some psta) :
    (before.driver.ap.onAuth frame xmitAllocated).2.stapriv.asocList =
      unlink psta before.driver.ap.stapriv.asocList := by
  obtain ⟨on, used⟩ := authTaken_iff.mp taken
  rw [AssocAp.onAuth, if_neg (by simp [on])]
  dsimp only
  rw [if_neg used, AssocAp.takeRecord, found]
  dsimp only
  rw [AssocAp.enlist]
  split <;> split <;> rfl

theorem onAssocReq_refused {reply : AssocReply} (found : ap.stapriv.getStainfo frame.sa = some psta)
    (answered : ap.onAssocReq frame xmitAllocated = some (some reply, next))
    (isStatus : reply.status = some status) (failure : status ≠ statsSuccessful) : next.aid psta = 0 := by
  have failed {status : Nat} {ap : AssocAp Sta Xmit Recv} {reply : Option AssocReply}
      (same : ap.onAssocReqFail frame.reassoc status psta xmitAllocated = (reply, next)) : next.aid psta = 0 := by
    rw [← (Prod.mk.inj same).2]
    exact congrArg StaRecord.aid (@Adapter.modify_self _ _ _ _ ap.stapriv psta fun record => { record with aid := 0 })
  have deauth : ¬issueDeauth frame.sa rsonCls2 xmitAllocated = some reply := by
    rw [issueDeauth]
    split
    · rintro ⟨rfl⟩
      cases isStatus
    · nofun
  rw [AssocAp.onAssocReq, found] at answered
  dsimp only at answered
  split at answered
  · cases answered
  · split at answered
    · cases answered
    · split at answered
      · exact absurd (Prod.mk.inj (Option.some.inj answered)).1 deauth
      · rw [AssocAp.checkRequest] at answered
        dsimp only at answered
        split at answered
        · cases answered
        · split at answered
          · exact failed (Option.some.inj answered)
          · split at answered
            · cases answered
            · exact failed (Option.some.inj answered)
            · split at answered
              · exact failed (Option.some.inj answered)
              · rw [AssocAp.issueAsocrsp] at answered
                split at answered
                · cases answered
                  cases isStatus
                  exact absurd rfl failure
                · cases answered

/-- A refused request leaves the association unharmed if and only if it is an authentication with an
algorithm that the access point does not use: any other is taken off `asoc_list`, and a refusal
of `OnAssocReq` takes the association id away. -/
theorem refusal_unharmed_iff {request : StaRequest} (associated : before.Associated psta)
    (own : before.driver.ap.stapriv.getStainfo request.frame.sa = some psta)
    (answered : before.handle xmitAllocated eventAllocated request = some (some status, after))
    (failure : status ≠ statsSuccessful) :
    Unharmed psta before after ↔ ∃ frame, request = .auth frame ∧ before.driver.authTaken frame = false := by
  cases request with
  | auth frame =>
    rw [handle, Option.some.injEq, Prod.mk.injEq] at answered
    obtain ⟨-, rfl⟩ := answered
    cases taken : before.driver.authTaken frame with
    | false =>
      refine iff_of_true ?_ ⟨frame, rfl, taken⟩
      have same : before.driver.onAuth frame xmitAllocated = before.driver := by
        rw [ProtectedAp.onAuth, taken, onAuth_refused taken]
      rw [same]
      exact ⟨rfl, associated.slot, associated.listed, rfl, rfl, rfl, rfl, rfl, rfl⟩
    | true =>
      refine iff_of_false (fun unharmed => ?_) ?_
      · have listed := unharmed.listed
        have ap : (before.driver.onAuth frame xmitAllocated).ap = (before.driver.ap.onAuth frame xmitAllocated).2 := by
          rw [ProtectedAp.onAuth]
          split <;> rfl
        dsimp only at listed
        rw [ap, onAuth_asocList taken own, unlink] at listed
        simp at listed
      · rintro ⟨other, same, refused⟩
        cases same
        rw [taken] at refused
        cases refused
  | assocReq frame =>
    refine iff_of_false (fun unharmed => ?_) (by rintro ⟨other, same, _⟩; cases same)
    rw [handle] at answered
    obtain ⟨⟨reply, ap⟩, replied, answered⟩ := Option.bind_eq_some_iff.mp answered
    obtain ⟨driver, drove, same⟩ := Option.map_eq_some_iff.mp answered
    rw [Prod.mk.injEq] at same
    obtain ⟨answer, rfl⟩ := same
    obtain ⟨reply, rfl, isStatus⟩ := Option.bind_eq_some_iff.mp answer
    have gone := onAssocReq_refused own replied isStatus failure
    rw [ProtectedAp.onAssocReq, replied, Option.map_some, Option.some.injEq] at drove
    have ap : driver.ap = ap := by
      rw [← drove]
      dsimp only
      split <;> rfl
    have aid := unharmed.aid
    dsimp only at aid
    rw [ap, gone] at aid
    exact associated.aid aid.symm

def associatedAp : SecuredAp Bool Unit Unit where
  driver :=
    { ap := AssocAp.associated
      caps := fun _ => .initial
      bss := ⟨fun _ => 0, false, 0, true, 1, false, false, []⟩
      events := [] }
  security _ := ⟨[0x82], false, 0, 0, 0, 0, 0⟩

theorem associatedAp_associated : associatedAp.Associated false := ⟨by decide, by decide, by decide, by decide⟩

/-- Shared key authentication, where the access point is open. -/
def sharedAuth : MgntFrame MacAddr := AssocAp.stationFrame 0xb0 [1, 0, 1, 0, 0, 0]

theorem refusal_unharmed_iff_sharedAuth : Unharmed false associatedAp associatedAp :=
  (@refusal_unharmed_iff _ _ _ _ _ _ _ true true statsNoSuppAlg (.auth sharedAuth) associatedAp_associated (by decide)
    rfl (by decide)).mpr ⟨sharedAuth, rfl, by decide⟩

/-- A request with the name of another network. -/
theorem refusal_harms : ∃ after, associatedAp.handle true true (.assocReq (AssocAp.requestFrame 0x62 [])) =
    some (some statsFailure, after) ∧ associatedAp.Associated false ∧ ¬Unharmed false associatedAp after := by
  refine ⟨_, rfl, associatedAp_associated, fun unharmed => ?_⟩
  exact absurd unharmed.aid (by decide)

end SecuredAp

end Floid.Wifi
