import Floid.Wifi.AssocTableRuns
import Floid.Wifi.JoinResult
import Mathlib.Data.List.Find

namespace Floid.Wifi

open Osk
open Function (update update_of_ne update_self)

section

variable {Sta : Type} [DecidableEq Sta] {psta : Sta} {list : List Sta}

theorem unlink_absent (absent : psta ∉ list) : unlink psta list = list := by
  rw [unlink, List.filter_eq_self]
  intro other inside
  exact decide_eq_true fun same : other = psta => absent (same ▸ inside)

theorem countP_unlink (has : Sta → Bool) (nodup : list.Nodup) (absent : psta ∉ list → has psta = false) :
    ((unlink psta list).countP has : Int) = list.countP has - (has psta).toNat := by
  induction list with
  | nil => simp [unlink, absent]
  | cons first rest ih =>
    obtain ⟨single, nodup⟩ := List.nodup_cons.mp nodup
    by_cases same : first = psta
    · have gone : unlink psta (first :: rest) = rest := by
        rw [unlink, List.filter_cons_of_neg (by simpa using same)]
        exact unlink_absent (same ▸ single)
      rw [gone, List.countP_cons, same]
      cases has psta <;> simp
    · have stays : unlink psta (first :: rest) = first :: unlink psta rest :=
        List.filter_cons_of_pos (by simpa using same)
      have rest := ih nodup fun outside => absent fun inside =>
        (List.mem_cons.mp inside).elim (fun own => same own.symm) outside
      rw [stays, List.countP_cons, List.countP_cons]
      push_cast
      omega

theorem countP_update (has : Sta → Bool) (value : Bool) (nodup : list.Nodup) (inside : psta ∈ list) :
    (list.countP (update has psta value) : Int) =
      list.countP has + ((value.toNat : Int) - (has psta).toNat) := by
  have others : (unlink psta list).countP (update has psta value) = (unlink psta list).countP has := by
    apply List.countP_congr
    intro other listed
    rw [update_of_ne (mem_unlink.mp listed).2]
  have earlier := countP_unlink has nodup (fun outside => absurd inside outside)
  have later := countP_unlink (update has psta value) nodup
    (fun outside => absurd inside outside)
  rw [update_self, others] at later
  omega

end

namespace Adapter

variable {Sta Xmit Recv : Type} [DecidableEq Sta] {adapter before after : Adapter Sta Xmit Recv}
  {psta : Sta}

structure Listed (adapter : Adapter Sta Xmit Recv) : Prop where
  freeNodup : adapter.freeStaQueue.Nodup
  unhashed : ∀ psta ∈ adapter.freeStaQueue, ¬ adapter.Hashed psta
  authNodup : adapter.authList.Nodup
  asocNodup : adapter.asocList.Nodup
  authHashed : ∀ psta ∈ adapter.authList, adapter.Hashed psta
  asocHashed : ∀ psta ∈ adapter.asocList, adapter.Hashed psta
  apart : ∀ psta ∈ adapter.authList, psta ∉ adapter.asocList
  found : ∀ psta ∈ adapter.asocList, adapter.getStainfo (adapter.stainfo psta).hwaddr = some psta

structure SameLists (before after : Adapter Sta Xmit Recv) : Prop where
  freeStaQueue : after.freeStaQueue = before.freeStaQueue
  staHash : after.staHash = before.staHash
  hwaddr : ∀ psta, (after.stainfo psta).hwaddr = (before.stainfo psta).hwaddr

section

omit [DecidableEq Sta]

theorem SameLists.hashed (same : SameLists before after) (psta : Sta) :
    after.Hashed psta ↔ before.Hashed psta := by
  rw [Hashed, Hashed, same.staHash]

theorem SameLists.getStainfo (same : SameLists before after) (mac : MacAddr) :
    after.getStainfo mac = before.getStainfo mac := by
  simp only [Adapter.getStainfo, same.staHash, same.hwaddr]

theorem Listed.relist (listed : before.Listed) (same : SameLists before after)
    (authNodup : after.authList.Nodup) (asocNodup : after.asocList.Nodup)
    (authHashed : ∀ psta ∈ after.authList, before.Hashed psta)
    (apart : ∀ psta ∈ after.authList, psta ∉ after.asocList)
    (found : ∀ psta ∈ after.asocList,
      before.getStainfo (before.stainfo psta).hwaddr = some psta) : after.Listed := by
  constructor
  case freeNodup =>
    rw [same.freeStaQueue]
    exact listed.freeNodup
  case unhashed =>
    intro psta inside
    rw [same.freeStaQueue] at inside
    rw [same.hashed]
    exact listed.unhashed psta inside
  case authNodup => exact authNodup
  case asocNodup => exact asocNodup
  case authHashed =>
    intro psta inside
    rw [same.hashed]
    exact authHashed psta inside
  case asocHashed =>
    intro psta inside
    rw [same.hashed]
    exact AssocAp.getStainfo_hashed (found psta inside)
  case apart => exact apart
  case found =>
    intro psta inside
    rw [same.hwaddr, same.getStainfo]
    exact found psta inside

theorem Listed.same (listed : before.Listed) (same : SameLists before after)
    (authList : after.authList = before.authList) (asocList : after.asocList = before.asocList) :
    after.Listed := by
  refine listed.relist same (authList ▸ listed.authNodup) (asocList ▸ listed.asocNodup)
    (authList ▸ listed.authHashed) ?_ (asocList ▸ listed.found)
  rw [authList, asocList]
  exact listed.apart

end

theorem Listed.leaveAuth (listed : adapter.Listed) (psta : Sta) :
    ({ adapter with authList := unlink psta adapter.authList } : Adapter Sta Xmit Recv).Listed :=
  listed.relist ⟨rfl, rfl, fun _ => rfl⟩ (listed.authNodup.filter _) listed.asocNodup
    (fun other inside => listed.authHashed other (mem_unlink.mp inside).1)
    (fun other inside => listed.apart other (mem_unlink.mp inside).1) listed.found

theorem Listed.leaveAsoc (listed : adapter.Listed) (psta : Sta) :
    ({ adapter with asocList := unlink psta adapter.asocList } : Adapter Sta Xmit Recv).Listed :=
  listed.relist ⟨rfl, rfl, fun _ => rfl⟩ listed.authNodup (listed.asocNodup.filter _)
    listed.authHashed
    (fun other inside both => listed.apart other inside (mem_unlink.mp both).1)
    (fun other inside => listed.found other (mem_unlink.mp inside).1)

omit [DecidableEq Sta] in
theorem Listed.enlist (listed : adapter.Listed) (hashed : adapter.Hashed psta)
    (loose : psta ∉ adapter.asocList) (waits : psta ∉ adapter.authList) :
    ({ adapter with authList := adapter.authList ++ [psta] } : Adapter Sta Xmit Recv).Listed := by
  refine listed.relist ⟨rfl, rfl, fun _ => rfl⟩ (AssocAp.nodup_append_single listed.authNodup waits)
    listed.asocNodup ?_ ?_ listed.found
  · intro other inside
    obtain earlier | last := List.mem_append.mp inside
    · exact listed.authHashed other earlier
    · exact List.mem_singleton.mp last ▸ hashed
  · intro other inside
    obtain earlier | last := List.mem_append.mp inside
    · exact listed.apart other earlier
    · exact List.mem_singleton.mp last ▸ loose

theorem Listed.join (listed : adapter.Listed) (found : adapter.getStainfo (adapter.stainfo psta).hwaddr = some psta) :
    ({ adapter with
      authList := unlink psta adapter.authList
      asocList := if decide (psta ∈ adapter.asocList) then adapter.asocList
        else adapter.asocList ++ [psta] } : Adapter Sta Xmit Recv).Listed := by
  refine listed.relist ⟨rfl, rfl, fun _ => rfl⟩ (listed.authNodup.filter _) ?_
    (fun other inside => listed.authHashed other (mem_unlink.mp inside).1) ?_ ?_
  · by_cases inside : psta ∈ adapter.asocList
    · simp only [decide_eq_true inside, if_true]
      exact listed.asocNodup
    · simp only [decide_eq_false inside, Bool.false_eq_true, if_false]
      exact AssocAp.nodup_append_single listed.asocNodup inside
  · intro other inside both
    obtain ⟨waiting, apart⟩ := mem_unlink.mp inside
    obtain earlier | same := AssocAp.mem_enlisted.mp both
    · exact listed.apart other waiting earlier
    · exact apart same
  · intro other inside
    obtain earlier | rfl := AssocAp.mem_enlisted.mp inside
    · exact listed.found other earlier
    · exact found

variable {mac sa : MacAddr}

variable {other : Sta}

theorem getStainfo_freeStainfo (found : adapter.getStainfo mac = some other)
    (apart : other ≠ psta) : (adapter.freeStainfo psta).getStainfo mac = some other := by
  have freed := freeStainfo_freed adapter psta
  have address : ∀ third, ((adapter.freeStainfo psta).stainfo third).hwaddr =
      (adapter.stainfo third).hwaddr := by
    intro third
    by_cases own : third = psta
    · rw [own, freed.hwaddr]
    · rw [freed.others third own]
  unfold getStainfo at found ⊢
  simp only [freed.staHash, address]
  generalize adapter.staHash (wifiMacHash (lookupAddr mac)) = bucket at found ⊢
  induction bucket with
  | nil => cases found
  | cons first rest ih =>
    by_cases own : first = psta
    · have gone : unlink psta (first :: rest) = unlink psta rest := by
        rw [unlink, List.filter_cons_of_neg (by simpa using own)]
        rfl
      rw [gone]
      refine ih ?_
      rw [List.find?_cons] at found
      split at found
      · exact absurd ((Option.some.inj found).symm.trans own) apart
      · exact found
    · have stays : unlink psta (first :: rest) = first :: unlink psta rest :=
        List.filter_cons_of_pos (by simpa using own)
      rw [stays, List.find?_cons]
      rw [List.find?_cons] at found
      split at found
      · exact found
      · exact ih found

theorem Listed.freeStainfo (listed : adapter.Listed) (used : adapter.Hashed psta) :
    (adapter.freeStainfo psta).Listed := by
  have freed := freeStainfo_freed adapter psta
  have queued := AssocAp.Queued.freeStainfo { listed with } used
  refine { queued with found := fun other inside => ?_ }
  rw [freed.asocList] at inside
  obtain ⟨earlier, apart⟩ := mem_unlink.mp inside
  rw [freed.others other apart]
  exact getStainfo_freeStainfo (listed.found other earlier) apart

theorem getStainfo_allocStainfo_earlier
    (allocated : before.allocStainfo sa = (some psta, after)) (unused : ¬ before.Hashed psta)
    (found : before.getStainfo mac = some other) : after.getStainfo mac = some other := by
  have stainfo := (allocStainfo_some allocated).2.2.2.2.2
  unfold Adapter.allocStainfo at allocated
  cases pool : before.freeStaQueue with
  | nil =>
    rw [pool] at allocated
    cases allocated
  | cons first rest =>
    rw [pool] at allocated
    unfold getStainfo at found ⊢
    have bucket : (before.staHash (wifiMacHash (lookupAddr mac))).find?
        (fun third => (after.stainfo third).hwaddr = lookupAddr mac) = some other := by
      rw [← found]
      refine List.find?_congr fun third inside => ?_
      have apart : third ≠ psta := fun same => unused ⟨_, same ▸ inside⟩
      rw [stainfo, update_of_ne apart]
    have table : after.staHash = update before.staHash (wifiMacHash sa)
        (before.staHash (wifiMacHash sa) ++ [psta]) := by
      cases allocated
      rfl
    rw [table]
    by_cases here : wifiMacHash (lookupAddr mac) = wifiMacHash sa
    · rw [here, update_self, List.find?_append, ← here, bucket]
      rfl
    · rw [update_of_ne here]
      exact bucket

theorem Listed.allocStainfo (listed : before.Listed) (allocated : before.allocStainfo sa = (some psta, after)) :
    after.Listed ∧ after.Hashed psta ∧ psta ∉ before.asocList ∧
      after.asocList = before.asocList ∧ ∀ other, other ≠ psta → after.stainfo other = before.stainfo other := by
  obtain ⟨-, hashed, -, asocList, -, stainfo⟩ := allocStainfo_some allocated
  obtain ⟨queued, unhashed⟩ := AssocAp.Queued.allocStainfo { listed with } allocated
  have record : ∀ other, other ≠ psta → after.stainfo other = before.stainfo other := by
    intro other apart
    rw [stainfo, update_of_ne apart]
  refine ⟨{ queued with found := fun other inside => ?_ }, (hashed psta).mpr (.inr rfl),
    fun inside => unhashed (listed.asocHashed psta inside), asocList, record⟩
  have earlier : other ∈ before.asocList := asocList ▸ inside
  rw [record other fun same => unhashed (same ▸ listed.asocHashed other earlier)]
  exact getStainfo_allocStainfo_earlier allocated unhashed (listed.found other earlier)

end Adapter

namespace AssocAp

variable {Sta Xmit Recv : Type} [DecidableEq Sta] {ap after : AssocAp Sta Xmit Recv} {psta : Sta}

theorem setAid_lists (ap : AssocAp Sta Xmit Recv) (psta : Sta) (aid : U32) :
    Adapter.SameLists ap.stapriv (ap.setAid psta aid).stapriv := by
  refine ⟨rfl, rfl, fun other => ?_⟩
  unfold setAid
  by_cases own : other = psta
  · rw [own, Adapter.modify_self]
  · rw [Adapter.modify_other _ own]

theorem giveAid_lists (given : ap.giveAid psta = some after) :
    Adapter.SameLists ap.stapriv after.stapriv ∧ after.settings = ap.settings ∧
      after.stapriv.authList = ap.stapriv.authList ∧
      after.stapriv.asocList = ap.stapriv.asocList := by
  unfold giveAid at given
  split at given
  · cases given
    exact ⟨⟨rfl, rfl, fun _ => rfl⟩, rfl, rfl, rfl⟩
  · split at given
    · cases given
    · cases given
      have same := setAid_lists { ap with
        stapriv := { ap.stapriv with
          staAid := update ap.stapriv.staAid (ap.freeAid - 1) (some psta) } } psta
        (BitVec.ofNat 32 ap.freeAid)
      exact ⟨{ same with }, rfl, rfl, rfl⟩

theorem giveAid_isSome (ap : AssocAp Sta Xmit Recv) (psta : Sta) : (ap.giveAid psta).isSome =
      (decide (0 < (ap.stapriv.stainfo psta).aid) || decide (ap.freeAid ≤ ap.maxNumSta)) := by
  unfold giveAid
  by_cases has : 0 < (ap.stapriv.stainfo psta).aid
  · rw [if_pos has, decide_eq_true has]
    rfl
  · rw [if_neg has, decide_eq_false has, Bool.false_or]
    by_cases full : ap.maxNumSta < ap.freeAid
    · rw [if_pos full, decide_eq_false (Nat.not_le_of_lt full)]
      rfl
    · rw [if_neg full, decide_eq_true (Nat.le_of_not_lt full)]
      rfl

theorem giveAid_withQos (ap : AssocAp Sta Xmit Recv) (psta : Sta) (qosInfo : Option U8) :
    (({ ap with stapriv := ap.stapriv.modify psta (.withQos qosInfo) } :
      AssocAp Sta Xmit Recv).giveAid psta).isSome = (ap.giveAid psta).isSome := by
  have same : ((ap.stapriv.modify psta (.withQos qosInfo)).stainfo psta).aid =
      (ap.stapriv.stainfo psta).aid := by
    rw [Adapter.modify_self]
    rfl
  rw [giveAid_isSome, giveAid_isSome]
  rw [same]
  rfl

structure RequestLists (joins : Bool) (psta : Sta) (before after : AssocAp Sta Xmit Recv) : Prop where
  same : Adapter.SameLists before.stapriv after.stapriv
  settings : after.settings = before.settings
  authList : after.stapriv.authList =
    if joins then unlink psta before.stapriv.authList else before.stapriv.authList
  asocList : after.stapriv.asocList =
    if joins then
      if decide (psta ∈ before.stapriv.asocList) then before.stapriv.asocList
      else before.stapriv.asocList ++ [psta]
    else before.stapriv.asocList

theorem RequestLists.refl (ap : AssocAp Sta Xmit Recv) (psta : Sta) : RequestLists false psta ap ap :=
  ⟨⟨rfl, rfl, fun _ => rfl⟩, rfl, rfl, rfl⟩

theorem RequestLists.failed (kept : RequestLists false psta ap after) :
    RequestLists false psta ap (after.setAid psta 0) := by
  have last := setAid_lists after psta 0
  exact { kept with
    same := ⟨last.freeStaQueue.trans kept.same.freeStaQueue, last.staHash.trans kept.same.staHash,
      fun other => (last.hwaddr other).trans (kept.same.hwaddr other)⟩ }

theorem checkRequest_lists {frame : MgntFrame MacAddr} {xmitAllocated : Bool} {reply : Option AssocReply}
    (done : ap.checkRequest frame psta xmitAllocated = some (reply, after)) :
    RequestLists ((ap.settings.refusal frame == some none) && (ap.giveAid psta).isSome)
      psta ap after := by
  unfold AssocSettings.refusal
  unfold checkRequest at done
  dsimp only at done
  cases first : ap.settings.elementStatus frame frame.ieStart with
  | none =>
    rw [first] at done
    cases done
  | some status =>
    rw [first] at done
    dsimp only at done ⊢
    by_cases early : status ≠ statsSuccessful
    · rw [if_pos early] at done ⊢
      cases done
      exact (RequestLists.refl ap psta).failed
    · rw [if_neg early] at done ⊢
      generalize (if ap.settings.qosOption then frame.qosInfo frame.ieStart else none) = qosInfo
        at done
      have gives := giveAid_withQos ap psta qosInfo
      have kept : RequestLists false psta ap { ap with
          stapriv := ap.stapriv.modify psta (.withQos qosInfo) } := by
        refine ⟨⟨rfl, rfl, fun other => ?_⟩, rfl, rfl, rfl⟩
        by_cases own : other = psta
        · rw [own, Adapter.modify_self]
          rfl
        · rw [Adapter.modify_other _ own]
      generalize ({ ap with
        stapriv := ap.stapriv.modify psta (.withQos qosInfo) } : AssocAp Sta Xmit Recv) = middle
          at done kept gives
      have unchanged : middle.stapriv.authList = ap.stapriv.authList ∧
          middle.stapriv.asocList = ap.stapriv.asocList := ⟨kept.authList, kept.asocList⟩
      cases later : ap.settings.laterRefusal frame frame.ieStart with
      | none =>
        rw [later] at done
        cases done
      | some refusal =>
        rw [later] at done
        cases refusal with
        | some status =>
          cases done
          exact kept.failed
        | none =>
          rw [← gives]
          cases given : middle.giveAid psta with
          | none =>
            rw [given] at done
            cases done
            exact kept.failed
          | some next =>
            rw [given] at done
            cases done
            obtain ⟨same, settings, authList, asocList⟩ := giveAid_lists given
            refine ⟨⟨?_, ?_, fun other => ?_⟩, settings.trans kept.settings, ?_, ?_⟩
            · exact same.freeStaQueue.trans kept.same.freeStaQueue
            · exact same.staHash.trans kept.same.staHash
            · exact (same.hwaddr other).trans (kept.same.hwaddr other)
            · simp only [join, store, authList, unchanged.1]
              rfl
            · simp only [join, store, asocList, unchanged.2]
              rfl

theorem enlist_table (ap : AssocAp Sta Xmit Recv) (psta : Sta) : (ap.enlist psta).settings = ap.settings ∧
      (ap.enlist psta).stapriv.asocList = ap.stapriv.asocList ∧
      (ap.enlist psta).stapriv.stainfo = ap.stapriv.stainfo := by
  unfold enlist
  split <;> exact ⟨rfl, rfl, rfl⟩

theorem Listed.enlisted (listed : ap.stapriv.Listed) (hashed : ap.stapriv.Hashed psta)
    (loose : psta ∉ ap.stapriv.asocList) : (ap.enlist psta).stapriv.Listed := by
  unfold enlist
  split
  · exact listed
  · rename_i waits
    exact listed.enlist hashed loose waits

theorem takeRecord_settings (ap : AssocAp Sta Xmit Recv) (sa : MacAddr) :
    (ap.takeRecord sa).2.settings = ap.settings := by
  unfold takeRecord
  split
  · rfl
  · split <;> rfl

def Authenticates (ap : AssocAp Sta Xmit Recv) (frame : MgntFrame MacAddr) : Prop :=
  ap.apState = true ∧ ¬ ((0 < frame.le16 wlanHdrA3Len ∧ ap.authMode = 0) ∨
    (frame.le16 wlanHdrA3Len = 0 ∧ ap.authMode = 1))

def authTable : Option Sta × AssocAp Sta Xmit Recv → Adapter Sta Xmit Recv
  | (none, next) => next.stapriv
  | (some psta, next) => (next.enlist psta).stapriv

theorem onAuth_table (ap : AssocAp Sta Xmit Recv) (frame : MgntFrame MacAddr) (xmitAllocated : Bool) :
    (ap.onAuth frame xmitAllocated).2.settings = ap.settings ∧
      (ap.Authenticates frame → (ap.onAuth frame xmitAllocated).2.stapriv = authTable (ap.takeRecord frame.sa)) ∧
      (¬ ap.Authenticates frame → (ap.onAuth frame xmitAllocated).2.stapriv = ap.stapriv) := by
  unfold onAuth
  by_cases off : ap.apState = false
  · rw [if_pos off]
    exact ⟨rfl, fun on => absurd (off.symm.trans on.1) Bool.false_ne_true, fun _ => rfl⟩
  · rw [if_neg off]
    dsimp only
    by_cases refused : (0 < frame.le16 wlanHdrA3Len ∧ ap.authMode = 0) ∨
        (frame.le16 wlanHdrA3Len = 0 ∧ ap.authMode = 1)
    · rw [if_pos refused]
      exact ⟨rfl, fun taken => absurd refused taken.2, fun _ => rfl⟩
    · rw [if_neg refused]
      have settings := ap.takeRecord_settings frame.sa
      have gets : ap.Authenticates frame := ⟨by simpa using off, refused⟩
      generalize ap.takeRecord frame.sa = taken at settings
      obtain ⟨_ | psta, next⟩ := taken
      · exact ⟨settings, fun _ => rfl, fun fails => absurd gets fails⟩
      · have enlisted := (next.enlist_table psta).1
        dsimp only at settings ⊢
        split <;> exact ⟨enlisted.trans settings, fun _ => rfl, fun fails => absurd gets fails⟩

inductive AuthTable (ap : AssocAp Sta Xmit Recv) (sa : MacAddr) (stapriv : Adapter Sta Xmit Recv) : Prop
  | full (found : ap.stapriv.getStainfo sa = none) (none_ : (ap.stapriv.allocStainfo sa).1 = none)
      (same : stapriv = ap.stapriv)
  | found (psta : Sta) (found : ap.stapriv.getStainfo sa = some psta)
      (asocList : stapriv.asocList = unlink psta ap.stapriv.asocList)
      (stainfo : stapriv.stainfo = ap.stapriv.stainfo)
  | fresh (psta : Sta) (found : ap.stapriv.getStainfo sa = none)
      (given : (ap.stapriv.allocStainfo sa).1 = some psta)
      (asocList : stapriv.asocList = ap.stapriv.asocList) (loose : psta ∉ ap.stapriv.asocList)
      (stainfo : ∀ other, other ≠ psta → stapriv.stainfo other = ap.stapriv.stainfo other)

theorem authTable_takeRecord (sa : MacAddr) (listed : ap.stapriv.Listed) :
    (authTable (ap.takeRecord sa)).Listed ∧ AuthTable ap sa (authTable (ap.takeRecord sa)) := by
  unfold takeRecord
  cases found : ap.stapriv.getStainfo sa with
  | some psta =>
    dsimp only [authTable]
    have same := enlist_table { ap with
      stapriv := { ap.stapriv with asocList := unlink psta ap.stapriv.asocList } } psta
    refine ⟨Listed.enlisted (listed.leaveAsoc psta) (getStainfo_hashed found)
      (fun inside => (mem_unlink.mp inside).2 rfl), .found psta found same.2.1 same.2.2⟩
  | none =>
    cases allocated : ap.stapriv.allocStainfo sa with
    | mk given stapriv =>
      cases given with
      | none =>
        have same : stapriv = ap.stapriv := by
          unfold Adapter.allocStainfo at allocated
          split at allocated <;> cases allocated
          rfl
        subst same
        exact ⟨listed, .full found (by rw [allocated]) rfl⟩
      | some psta =>
        obtain ⟨next, hashed, loose, asocList, stainfo⟩ :=
          listed.allocStainfo allocated
        dsimp only [authTable]
        have same := enlist_table ({ ap with
          stapriv
          rxPkts := update ap.rxPkts psta 0
          lastRxPkts := update ap.lastRxPkts psta 0 }.store psta .fresh) psta
        refine ⟨Listed.enlisted next hashed (fun inside => loose (asocList ▸ inside)),
          .fresh psta found (by rw [allocated]) (same.2.1.trans asocList) loose
            fun other apart => ?_⟩
        rw [same.2.2]
        exact stainfo other apart

end AssocAp

end Floid.Wifi
