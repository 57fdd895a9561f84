import Floid.Wifi.ApAuthRuns
import Floid.Wifi.AssocTable
import Floid.Wifi.StaTableRuns

namespace Floid.Wifi

open Osk Lib
open Function (update update_of_ne update_self)
open Option (some.inj some_ne_none)

theorem AuthRecord.associated_eq (record : AuthRecord) : record.associated = record.state.getLsbD 0 := by
  rw [← decide_and_twoPow record.state (by decide), associated,
    show wifiAsocState = BitVec.twoPow 32 0 by decide]

theorem AuthRecord.advance_associated {Station : Type*} {record next : AuthRecord}
    {frame : MgntFrame Station} {authMode algorithm seq assocTo : Nat}
    (advanced : record.advance frame authMode algorithm seq assocTo = .ok next) :
    next.associated = record.associated := by
  have kept : ∀ clear add : U32, clear.getLsbD 0 = false → add.getLsbD 0 = false →
      (record.state &&& ~~~clear ||| add).getLsbD 0 = record.state.getLsbD 0 := by
    intro clear add cleared added
    rw [BitVec.getLsbD_or, BitVec.getLsbD_and, BitVec.getLsbD_not, cleared, added]
    simp
  rw [associated_eq, associated_eq]
  unfold advance at advanced
  split at advanced
  · cases advanced
  · split at advanced
    · split at advanced
      · cases advanced
        exact kept _ _ (by decide) (by decide)
      · cases advanced
    · split at advanced
      · cases advanced
        exact kept _ _ (by decide) (by decide)
      · split at advanced
        · split at advanced
          · cases advanced
          · split at advanced
            · cases advanced
            · split at advanced
              · cases advanced
                exact kept _ _ (by decide) (by decide)
              · cases advanced
        · cases advanced

def AssocSettings.refusal {Station : Type*} (settings : AssocSettings)
    (frame : MgntFrame Station) : Option (Option Nat) :=
  match settings.elementStatus frame frame.ieStart with
  | none => none
  | some status =>
      if status ≠ statsSuccessful then some (some status)
      else settings.laterRefusal frame frame.ieStart

namespace Adapter

variable {Sta Xmit Recv : Type} [DecidableEq Sta]

theorem freeStainfo_staAid (adapter : Adapter Sta Xmit Recv) (psta : Sta) : (adapter.freeStainfo psta).staAid =
      if adapter.staAid (adapter.aidIndex psta) = some psta then
        update adapter.staAid (adapter.aidIndex psta) none
      else adapter.staAid := by
  simp only [freeStainfo, freeXmitframeQueue_eq, List.foldl_cons, List.foldl_nil, freeServq_eq,
    disassociate, modify, update_self, Function.update_idem, aidIndex]
  by_cases own : adapter.staAid ((adapter.stainfo psta).aid - 1).toNat = some psta
  · simp only [own, if_true]
  · simp only [own, if_false]

omit [DecidableEq Sta] in
theorem exists_mem_linked {lists : Fin numSta → List Sta} {place : Fin numSta} {psta other : Sta} :
    (∃ index, other ∈ update lists place (lists place ++ [psta]) index) ↔
      (∃ index, other ∈ lists index) ∨ other = psta := by
  constructor
  · rintro ⟨index, inside⟩
    obtain earlier | ⟨same, -⟩ := mem_linked inside
    · exact .inl ⟨index, earlier⟩
    · exact .inr same
  · rintro (⟨index, inside⟩ | rfl)
    · refine ⟨index, ?_⟩
      by_cases same : index = place
      · subst same
        rw [update_self]
        exact List.mem_append_left _ inside
      · rw [update_of_ne same]
        exact inside
    · refine ⟨place, ?_⟩
      rw [update_self]
      exact List.mem_append_right _ (List.mem_singleton_self _)

theorem allocStainfo_some {adapter next : Adapter Sta Xmit Recv} {sa : MacAddr} {psta : Sta}
    (allocated : adapter.allocStainfo sa = (some psta, next)) :
    adapter.freeStaQueue = psta :: next.freeStaQueue ∧
      (∀ other, next.Hashed other ↔ adapter.Hashed other ∨ other = psta) ∧
      next.authList = adapter.authList ∧ next.asocList = adapter.asocList ∧
      next.staAid = adapter.staAid ∧
      next.stainfo = update adapter.stainfo psta (.initial sa) := by
  unfold allocStainfo at allocated
  cases queued : adapter.freeStaQueue with
  | nil =>
    rw [queued] at allocated
    cases allocated
  | cons first rest =>
    rw [queued] at allocated
    cases allocated
    exact ⟨rfl, fun other => exists_mem_linked, rfl, rfl, rfl, rfl⟩

end Adapter

namespace AssocAp

variable {Sta Xmit Recv : Type} [DecidableEq Sta]

def aid (ap : AssocAp Sta Xmit Recv) (psta : Sta) : U32 := (ap.stapriv.stainfo psta).aid

structure AssocSound (ap : AssocAp Sta Xmit Recv) : Prop where
  slots : ∀ i < numSta, ∀ psta, ap.stapriv.staAid i = some psta →
    ap.stapriv.Hashed psta ∧ (ap.aid psta).toNat = i + 1
  range : ∀ psta, ap.stapriv.Hashed psta → (ap.auth psta).associated →
    1 ≤ (ap.aid psta).toNat ∧ (ap.aid psta).toNat ≤ ap.maxNumSta
  distinct : ∀ one two, ap.stapriv.Hashed one → ap.stapriv.Hashed two →
    (ap.auth one).associated → (ap.auth two).associated → ap.aid one = ap.aid two → one = two
  apart : ∀ psta, ¬ (psta ∈ ap.stapriv.authList ∧ psta ∈ ap.stapriv.asocList)
  joined : ∀ psta ∈ ap.stapriv.asocList, (ap.auth psta).associated ∧ ap.aid psta ≠ 0

structure Joined (ap : AssocAp Sta Xmit Recv) (psta : Sta) : Prop where
  hashed : ap.stapriv.Hashed psta
  listed : psta ∈ ap.stapriv.asocList
  associated : (ap.auth psta).associated
  range : 1 ≤ (ap.aid psta).toNat ∧ (ap.aid psta).toNat ≤ ap.maxNumSta
  slot : ap.stapriv.staAid ((ap.aid psta).toNat - 1) = some psta

def ReplyProper (ap : AssocAp Sta Xmit Recv) (reply : Option AssocReply) : Prop :=
  ∀ reassoc hwaddr aid, reply = some (.asocrsp reassoc hwaddr statsSuccessful aid) →
    ∃ psta, ap.Joined psta ∧ (ap.stapriv.stainfo psta).hwaddr = hwaddr ∧ ap.aid psta = aid

inductive AssocAction where
  | auth (frame : MgntFrame MacAddr) (xmitAllocated : Bool)
  | assocReq (frame : MgntFrame MacAddr) (xmitAllocated : Bool)
  | deAuth (sa bssid : MacAddr)
  | disassoc (sa bssid : MacAddr)
  | expireTimeout
  | staFlush
  | other

structure OtherCode (before after : AssocAp Sta Xmit Recv) : Prop where
  freeStaQueue : after.stapriv.freeStaQueue = before.stapriv.freeStaQueue
  staHash : after.stapriv.staHash = before.stapriv.staHash
  authList : after.stapriv.authList = before.stapriv.authList
  asocList : after.stapriv.asocList = before.stapriv.asocList
  staAid : ∀ i < numSta, after.stapriv.staAid i = before.stapriv.staAid i
  aid : ∀ psta, after.aid psta = before.aid psta
  associated : ∀ psta, (after.auth psta).associated = (before.auth psta).associated
  maxNumSta : after.maxNumSta = before.maxNumSta

structure Starts (ap : AssocAp Sta Xmit Recv) : Prop where
  freeNodup : ap.stapriv.freeStaQueue.Nodup
  unhashed : ∀ psta ∈ ap.stapriv.freeStaQueue, ¬ ap.stapriv.Hashed psta
  authList : ap.stapriv.authList = []
  asocList : ap.stapriv.asocList = []
  staAid : ∀ i < numSta, ap.stapriv.staAid i = none
  records : ∀ psta, ap.stapriv.Hashed psta → ap.aid psta = 0 ∧ (ap.auth psta).associated = false
  maxNumSta : ap.maxNumSta ≤ numSta

def assocSystem (Sta Xmit Recv : Type) [DecidableEq Sta] : TransitionSystem (AssocAp Sta Xmit Recv) AssocAction where
  initial := Starts
  step before action after :=
    match action with
    | .auth frame xmitAllocated => after = (before.onAuth frame xmitAllocated).2
    | .assocReq frame xmitAllocated => ∀ reply next,
        before.onAssocReq frame xmitAllocated = some (reply, next) → after = next
    | .deAuth sa bssid => after = before.onDeAuth sa bssid
    | .disassoc sa bssid => after = before.onDisassoc sa bssid
    | .expireTimeout => after = before.expireTimeoutChk
    | .staFlush => after = before.rtwStaFlush
    | .other => OtherCode before after

structure RequestMeets (ap : AssocAp Sta Xmit Recv) (frame : MgntFrame MacAddr) (pstat : Sta)
    (xmitAllocated : Bool) : Prop where
  fits : ap.settings.refusal frame ≠ none
  unheld : ∀ status, ap.settings.refusal frame = some (some status) → ap.aid pstat = 0
  unsent : ap.settings.refusal frame = some (some statsSuccessful) → xmitAllocated = false

def AssocMeets (ap : AssocAp Sta Xmit Recv) : AssocAction → Prop
  | .assocReq frame xmitAllocated => ∀ pstat, ap.apState = true → frame.ieStart ≤ frame.len →
      ap.stapriv.getStainfo frame.sa = some pstat → (ap.auth pstat).success = true →
      ap.RequestMeets frame pstat xmitAllocated
  | _ => True

structure Seated (ap : AssocAp Sta Xmit Recv) : Prop where
  freeNodup : ap.stapriv.freeStaQueue.Nodup
  unhashed : ∀ psta ∈ ap.stapriv.freeStaQueue, ¬ ap.stapriv.Hashed psta
  authNodup : ap.stapriv.authList.Nodup
  asocNodup : ap.stapriv.asocList.Nodup
  authHashed : ∀ psta ∈ ap.stapriv.authList, ap.stapriv.Hashed psta
  asocHashed : ∀ psta ∈ ap.stapriv.asocList, ap.stapriv.Hashed psta
  apart : ∀ psta ∈ ap.stapriv.authList, psta ∉ ap.stapriv.asocList
  joined : ∀ psta ∈ ap.stapriv.asocList, (ap.auth psta).associated = true
  given : ∀ psta, ap.stapriv.Hashed psta → (ap.auth psta).associated = true → ap.aid psta ≠ 0
  holds : ∀ psta, ap.stapriv.Hashed psta → ap.aid psta ≠ 0 →
    (ap.aid psta).toNat ≤ ap.maxNumSta ∧ ap.stapriv.staAid ((ap.aid psta).toNat - 1) = some psta
  slots : ∀ i < numSta, ∀ psta, ap.stapriv.staAid i = some psta →
    ap.stapriv.Hashed psta ∧ (ap.aid psta).toNat = i + 1
  maxNumSta : ap.maxNumSta ≤ numSta

variable {ap before after : AssocAp Sta Xmit Recv} {psta : Sta}

section

omit [DecidableEq Sta]

theorem toNat_aid (some_ : ap.aid psta ≠ 0) :
    1 ≤ (ap.aid psta).toNat ∧ (ap.aid psta - 1).toNat = (ap.aid psta).toNat - 1 := by
  generalize ap.aid psta = aid at some_
  constructor <;> bv_omega

theorem aidIndex_of {i : Nat} (place : (ap.aid psta).toNat = i + 1) : ap.stapriv.aidIndex psta = i := by
  have some_ : ap.aid psta ≠ 0 := by
    intro zero
    rw [zero] at place
    cases place
  have index : ap.stapriv.aidIndex psta = (ap.aid psta).toNat - 1 := (toNat_aid some_).2
  omega

theorem Seated.index (seated : ap.Seated) (hashed : ap.stapriv.Hashed psta)
    (some_ : ap.aid psta ≠ 0) : (ap.aid psta).toNat - 1 < numSta := by
  have range := (seated.holds psta hashed some_).1
  have positive := (toNat_aid some_).1
  have room := seated.maxNumSta
  omega

theorem Seated.other (seated : before.Seated) (same : OtherCode before after) : after.Seated := by
  have hashed : ∀ psta, after.stapriv.Hashed psta ↔ before.stapriv.Hashed psta := by
    intro psta
    rw [Adapter.Hashed, Adapter.Hashed, same.staHash]
  constructor
  case freeNodup =>
    rw [same.freeStaQueue]
    exact seated.freeNodup
  case unhashed =>
    intro psta inside
    rw [same.freeStaQueue] at inside
    rw [hashed]
    exact seated.unhashed psta inside
  case authNodup =>
    rw [same.authList]
    exact seated.authNodup
  case asocNodup =>
    rw [same.asocList]
    exact seated.asocNodup
  case authHashed =>
    intro psta inside
    rw [same.authList] at inside
    exact (hashed psta).mpr (seated.authHashed psta inside)
  case asocHashed =>
    intro psta inside
    rw [same.asocList] at inside
    exact (hashed psta).mpr (seated.asocHashed psta inside)
  case apart =>
    intro psta inside
    rw [same.authList] at inside
    rw [same.asocList]
    exact seated.apart psta inside
  case joined =>
    intro psta inside
    rw [same.asocList] at inside
    rw [same.associated]
    exact seated.joined psta inside
  case given =>
    intro psta inside associated
    rw [same.associated] at associated
    rw [same.aid]
    exact seated.given psta ((hashed psta).mp inside) associated
  case holds =>
    intro psta inside some_
    rw [same.aid] at some_ ⊢
    rw [same.maxNumSta, same.staAid _ (seated.index ((hashed psta).mp inside) some_)]
    exact seated.holds psta ((hashed psta).mp inside) some_
  case slots =>
    intro i low psta taken
    rw [same.staAid i low] at taken
    rw [hashed, same.aid]
    exact seated.slots i low psta taken
  case maxNumSta =>
    rw [same.maxNumSta]
    exact seated.maxNumSta

theorem Seated.sound (seated : ap.Seated) : ap.AssocSound := by
  constructor
  case slots => exact seated.slots
  case range =>
    intro psta hashed associated
    have some_ := seated.given psta hashed associated
    exact ⟨(toNat_aid some_).1, (seated.holds psta hashed some_).1⟩
  case distinct =>
    intro one two first second associated _ same
    have some_ := seated.given one first associated
    have own := (seated.holds one first some_).2
    have its := (seated.holds two second (same ▸ some_)).2
    rw [← same, own] at its
    exact some.inj its
  case apart => exact fun psta both => seated.apart psta both.1 both.2
  case joined =>
    intro psta inside
    have associated := seated.joined psta inside
    exact ⟨associated, seated.given psta (seated.asocHashed psta inside) associated⟩

theorem Seated.start (starts : ap.Starts) : ap.Seated := by
  constructor
  case freeNodup => exact starts.freeNodup
  case unhashed => exact starts.unhashed
  case authNodup => exact starts.authList ▸ List.nodup_nil
  case asocNodup => exact starts.asocList ▸ List.nodup_nil
  case authHashed => simp [starts.authList]
  case asocHashed => simp [starts.asocList]
  case apart => simp [starts.authList]
  case joined => simp [starts.asocList]
  case given =>
    intro psta hashed associated
    rw [(starts.records psta hashed).2] at associated
    cases associated
  case holds =>
    intro psta hashed some_
    exact absurd (starts.records psta hashed).1 some_
  case slots =>
    intro i low psta taken
    rw [starts.staAid i low] at taken
    cases taken
  case maxNumSta => exact starts.maxNumSta

end

theorem Seated.leaveAsoc (seated : ap.Seated) (psta : Sta) :
    ({ ap with
      stapriv := { ap.stapriv with
        asocList := unlink psta ap.stapriv.asocList } } : AssocAp Sta Xmit Recv).Seated :=
  { seated with
    asocNodup := seated.asocNodup.filter _
    asocHashed := fun other inside => seated.asocHashed other (mem_unlink.mp inside).1
    apart := fun other inside both => seated.apart other inside (mem_unlink.mp both).1
    joined := fun other inside => seated.joined other (mem_unlink.mp inside).1 }

theorem Seated.leaveAuth (seated : ap.Seated) (psta : Sta) :
    ({ ap with
      stapriv := { ap.stapriv with
        authList := unlink psta ap.stapriv.authList } } : AssocAp Sta Xmit Recv).Seated :=
  { seated with
    authNodup := seated.authNodup.filter _
    authHashed := fun other inside => seated.authHashed other (mem_unlink.mp inside).1
    apart := fun other inside => seated.apart other (mem_unlink.mp inside).1 }

variable {list : List Sta} {sa : MacAddr} {next : AssocAp Sta Xmit Recv}
    {reassoc xmitAllocated : Bool} {status : Nat} {reply : Option AssocReply}
    {frame : MgntFrame MacAddr}

omit [DecidableEq Sta] in
theorem nodup_append_single (nodup : list.Nodup) (absent : psta ∉ list) : (list ++ [psta]).Nodup := by
  rw [List.nodup_append]
  refine ⟨nodup, List.nodup_singleton psta, ?_⟩
  intro one inside two last same
  rw [List.mem_singleton.mp last] at same
  exact absent (same ▸ inside)

theorem Seated.enlist (seated : ap.Seated) (hashed : ap.stapriv.Hashed psta)
    (loose : psta ∉ ap.stapriv.asocList) : (ap.enlist psta).Seated := by
  unfold AssocAp.enlist
  by_cases listed : psta ∈ ap.stapriv.authList
  · rw [if_pos listed]
    exact seated
  · rw [if_neg listed]
    refine { seated with
      authNodup := nodup_append_single seated.authNodup listed
      authHashed := fun other inside => ?_
      apart := fun other inside => ?_ }
    · obtain earlier | last := List.mem_append.mp inside
      · exact seated.authHashed other earlier
      · exact List.mem_singleton.mp last ▸ hashed
    · obtain earlier | last := List.mem_append.mp inside
      · exact seated.apart other earlier
      · exact List.mem_singleton.mp last ▸ loose

theorem Seated.store {record : AuthRecord} (seated : ap.Seated)
    (same : record.associated = (ap.auth psta).associated) : (ap.store psta record).Seated := by
  refine seated.other ⟨rfl, rfl, rfl, rfl, fun _ _ => rfl, fun _ => rfl, fun other => ?_, rfl⟩
  by_cases own : other = psta
  · subst own
    exact (congrArg AuthRecord.associated (update_self ..)).trans same
  · exact congrArg AuthRecord.associated (update_of_ne own ..)

/-- What holds of the station lists wherever the records themselves are in order. -/
structure Queued (adapter : Adapter Sta Xmit Recv) : Prop where
  freeNodup : adapter.freeStaQueue.Nodup
  unhashed : ∀ psta ∈ adapter.freeStaQueue, ¬ adapter.Hashed psta
  authNodup : adapter.authList.Nodup
  asocNodup : adapter.asocList.Nodup
  authHashed : ∀ psta ∈ adapter.authList, adapter.Hashed psta
  asocHashed : ∀ psta ∈ adapter.asocList, adapter.Hashed psta
  apart : ∀ psta ∈ adapter.authList, psta ∉ adapter.asocList

theorem Queued.allocStainfo {adapter next : Adapter Sta Xmit Recv} (queued : Queued adapter)
    (allocated : adapter.allocStainfo sa = (some psta, next)) : Queued next ∧ ¬ adapter.Hashed psta := by
  obtain ⟨queue, hashed, authList, asocList, -, -⟩ := Adapter.allocStainfo_some allocated
  obtain ⟨absent, nodup⟩ := List.nodup_cons.mp (queue ▸ queued.freeNodup)
  refine ⟨?_, queued.unhashed psta (queue ▸ List.mem_cons_self)⟩
  constructor
  case freeNodup => exact nodup
  case unhashed =>
    intro other inside used
    obtain earlier | rfl := (hashed other).mp used
    · exact queued.unhashed other (queue ▸ List.mem_cons_of_mem _ inside) earlier
    · exact absent inside
  case authNodup => exact authList ▸ queued.authNodup
  case asocNodup => exact asocList ▸ queued.asocNodup
  case authHashed =>
    intro other inside
    exact (hashed other).mpr (.inl (queued.authHashed other (authList ▸ inside)))
  case asocHashed =>
    intro other inside
    exact (hashed other).mpr (.inl (queued.asocHashed other (asocList ▸ inside)))
  case apart =>
    intro other inside both
    exact queued.apart other (authList ▸ inside) (asocList ▸ both)

theorem Queued.freeStainfo {adapter : Adapter Sta Xmit Recv} (queued : Queued adapter)
    (used : adapter.Hashed psta) : Queued (adapter.freeStainfo psta) := by
  have freed := Adapter.freeStainfo_freed adapter psta
  have hashed := Adapter.hashed_freeStainfo adapter psta
  constructor
  case freeNodup =>
    rw [freed.freeStaQueue]
    exact nodup_append_single queued.freeNodup fun inside => queued.unhashed psta inside used
  case unhashed =>
    intro other inside hashed_
    obtain ⟨earlier, apart⟩ := (hashed other).mp hashed_
    rw [freed.freeStaQueue] at inside
    obtain before | last := List.mem_append.mp inside
    · exact queued.unhashed other before earlier
    · exact apart (List.mem_singleton.mp last)
  case authNodup =>
    rw [freed.authList]
    exact queued.authNodup.filter _
  case asocNodup =>
    rw [freed.asocList]
    exact queued.asocNodup.filter _
  case authHashed =>
    intro other inside
    rw [freed.authList] at inside
    obtain ⟨earlier, apart⟩ := mem_unlink.mp inside
    exact (hashed other).mpr ⟨queued.authHashed other earlier, apart⟩
  case asocHashed =>
    intro other inside
    rw [freed.asocList] at inside
    obtain ⟨earlier, apart⟩ := mem_unlink.mp inside
    exact (hashed other).mpr ⟨queued.asocHashed other earlier, apart⟩
  case apart =>
    intro other inside both
    rw [freed.authList] at inside
    rw [freed.asocList] at both
    exact queued.apart other (mem_unlink.mp inside).1 (mem_unlink.mp both).1

theorem Seated.allocStainfo {stapriv : Adapter Sta Xmit Recv}
    {rxPkts lastRxPkts : Sta → BitVec 64} (seated : ap.Seated)
    (allocated : ap.stapriv.allocStainfo sa = (some psta, stapriv)) :
    (({ ap with stapriv, rxPkts, lastRxPkts } : AssocAp Sta Xmit Recv).store psta .fresh).Seated ∧
      stapriv.Hashed psta ∧ psta ∉ stapriv.asocList := by
  obtain ⟨-, hashed, -, asocList, staAid, stainfo⟩ :=
    Adapter.allocStainfo_some allocated
  obtain ⟨queued, unhashed⟩ := Queued.allocStainfo { seated with } allocated
  have different : ∀ other, ap.stapriv.Hashed other → other ≠ psta :=
    fun other used same => unhashed (same ▸ used)
  have own : stapriv.Hashed psta := (hashed psta).mpr (.inr rfl)
  have loose : psta ∉ stapriv.asocList := by
    rw [asocList]
    exact fun inside => unhashed (seated.asocHashed psta inside)
  have record : ∀ other, other ≠ psta → stapriv.stainfo other = ap.stapriv.stainfo other := by
    intro other apart
    rw [stainfo, update_of_ne apart]
  have bits : ∀ other, other ≠ psta → update ap.auth psta AuthRecord.fresh other = ap.auth other :=
    fun other apart => update_of_ne apart ..
  refine ⟨{ queued with joined := ?joined, given := ?given, holds := ?holds, slots := ?slots,
                        maxNumSta := seated.maxNumSta }, own, loose⟩
  case joined =>
    intro other inside
    have earlier : other ∈ ap.stapriv.asocList := asocList ▸ inside
    have apart := different other (seated.asocHashed other earlier)
    exact (congrArg AuthRecord.associated (bits other apart)).trans (seated.joined other earlier)
  case given =>
    intro other used associated
    obtain earlier | rfl := (hashed other).mp used
    · have apart := different other earlier
      have known := (congrArg AuthRecord.associated (bits other apart)).symm.trans associated
      have same : (stapriv.stainfo other).aid = (ap.stapriv.stainfo other).aid :=
        congrArg StaRecord.aid (record other apart)
      exact fun zero => seated.given other earlier known (same.symm.trans zero)
    · exact absurd ((congrArg AuthRecord.associated (update_self ..)).symm.trans associated) (by decide)
  case holds =>
    intro other used some_
    obtain earlier | rfl := (hashed other).mp used
    · have same : (stapriv.stainfo other).aid = (ap.stapriv.stainfo other).aid :=
        congrArg StaRecord.aid (record other (different other earlier))
      have known := seated.holds other earlier (fun zero => some_ (same.trans zero))
      change (stapriv.stainfo other).aid.toNat ≤ ap.maxNumSta ∧
        stapriv.staAid ((stapriv.stainfo other).aid.toNat - 1) = some other
      rw [same, staAid]
      exact known
    · refine absurd ?_ some_
      change (stapriv.stainfo other).aid = 0
      rw [stainfo, update_self]
      rfl
  case slots =>
    intro i low other taken
    have known := seated.slots i low other ((congrFun staAid i).symm.trans taken)
    refine ⟨(hashed other).mpr (.inl known.1), ?_⟩
    change (stapriv.stainfo other).aid.toNat = i + 1
    rw [record other (different other known.1)]
    exact known.2

theorem Seated.freeStainfo (seated : ap.Seated) (used : ap.stapriv.Hashed psta) :
    (ap.freeStainfo psta).Seated := by
  suffices table : ({ ap with stapriv := ap.stapriv.freeStainfo psta } : AssocAp Sta Xmit Recv).Seated from
    table.store rfl
  have freed := Adapter.freeStainfo_freed ap.stapriv psta
  have hashed := Adapter.hashed_freeStainfo ap.stapriv psta
  have staAid := Adapter.freeStainfo_staAid ap.stapriv psta
  have record : ∀ other, other ≠ psta →
      (({ ap with stapriv := ap.stapriv.freeStainfo psta } : AssocAp Sta Xmit Recv).aid other) = ap.aid other :=
    fun other apart => congrArg StaRecord.aid (freed.others other apart)
  have slot : ∀ i < numSta, ∀ other, (ap.stapriv.freeStainfo psta).staAid i = some other ↔
      ap.stapriv.staAid i = some other ∧ other ≠ psta := by
    intro i low other
    have own (taken : ap.stapriv.staAid i = some psta) : ap.stapriv.aidIndex psta = i :=
      aidIndex_of (seated.slots i low psta taken).2
    rw [staAid]
    by_cases held : ap.stapriv.staAid (ap.stapriv.aidIndex psta) = some psta
    · rw [if_pos held]
      by_cases here : i = ap.stapriv.aidIndex psta
      · rw [here, update_self, held]
        exact iff_of_false (some_ne_none other).symm fun both => both.2 (some.inj both.1).symm
      · rw [update_of_ne here]
        exact ⟨fun taken => ⟨taken, fun same => here (own (same ▸ taken)).symm⟩, And.left⟩
    · rw [if_neg held]
      exact ⟨fun taken => ⟨taken, fun same => held ((own (same ▸ taken)).symm ▸ same ▸ taken)⟩, And.left⟩
  have queued := Queued.freeStainfo { seated with } used
  refine { queued with joined := ?joined, given := ?given, holds := ?holds, slots := ?slots,
                       maxNumSta := seated.maxNumSta }
  case joined =>
    intro other inside
    rw [freed.asocList] at inside
    exact seated.joined other (mem_unlink.mp inside).1
  case given =>
    intro other inside associated
    obtain ⟨earlier, apart⟩ := (hashed other).mp inside
    rw [record other apart]
    exact seated.given other earlier associated
  case holds =>
    intro other inside some_
    obtain ⟨earlier, apart⟩ := (hashed other).mp inside
    rw [record other apart] at some_ ⊢
    have known := seated.holds other earlier some_
    exact ⟨known.1, (slot _ (seated.index earlier some_) other).mpr ⟨known.2, apart⟩⟩
  case slots =>
    intro i low other taken
    obtain ⟨earlier, apart⟩ := (slot i low other).mp taken
    have known := seated.slots i low other earlier
    rw [record other apart]
    exact ⟨(hashed other).mpr ⟨known.1, apart⟩, known.2⟩

theorem hashed_freeStainfo (ap : AssocAp Sta Xmit Recv) (psta other : Sta) :
    (ap.freeStainfo psta).stapriv.Hashed other ↔ ap.stapriv.Hashed other ∧ other ≠ psta :=
  Adapter.hashed_freeStainfo ap.stapriv psta other

omit [DecidableEq Sta] in
theorem getStainfo_hashed {adapter : Adapter Sta Xmit Recv} {mac : MacAddr}
    (found : adapter.getStainfo mac = some psta) : adapter.Hashed psta :=
  ⟨_, List.mem_of_find?_eq_some found⟩

theorem Seated.takeRecord (seated : ap.Seated) (taken : ap.takeRecord sa = (some psta, next)) :
    next.Seated ∧ next.stapriv.Hashed psta ∧ psta ∉ next.stapriv.asocList := by
  unfold AssocAp.takeRecord at taken
  cases found : ap.stapriv.getStainfo sa with
  | some pstat =>
    rw [found] at taken
    cases taken
    exact ⟨seated.leaveAsoc psta, getStainfo_hashed found, fun inside => (mem_unlink.mp inside).2 rfl⟩
  | none =>
    rw [found] at taken
    cases allocated : ap.stapriv.allocStainfo sa with
    | mk pstat stapriv =>
      rw [allocated] at taken
      cases pstat with
      | none => cases taken
      | some pstat =>
        cases taken
        exact seated.allocStainfo allocated

theorem takeRecord_none (taken : ap.takeRecord sa = (none, next)) : next = ap := by
  unfold AssocAp.takeRecord at taken
  cases found : ap.stapriv.getStainfo sa with
  | some pstat =>
    rw [found] at taken
    cases taken
  | none =>
    rw [found] at taken
    cases allocated : ap.stapriv.allocStainfo sa with
    | mk pstat stapriv =>
      rw [allocated] at taken
      cases pstat with
      | some pstat => cases taken
      | none =>
        cases taken
        unfold Adapter.allocStainfo at allocated
        split at allocated
        · cases allocated
          rfl
        · cases allocated

theorem Seated.onAuth (seated : ap.Seated) (frame : MgntFrame MacAddr) (xmitAllocated : Bool) :
    (ap.onAuth frame xmitAllocated).2.Seated := by
  unfold AssocAp.onAuth
  split
  · exact seated
  · dsimp only
    split
    · exact seated
    · cases taken : ap.takeRecord frame.sa with
      | mk pstat next =>
        cases pstat with
        | none =>
          rw [takeRecord_none taken]
          exact seated
        | some pstat =>
          obtain ⟨kept, hashed, loose⟩ := seated.takeRecord taken
          have listed := kept.enlist hashed loose
          dsimp only
          generalize enlisted : next.enlist pstat = ap at listed
          generalize timed : (if (ap.auth pstat).authSeq = 0 then
            { ap.auth pstat with expireTo := ap.authTo } else ap.auth pstat) = record
          have bit : record.associated = (ap.auth pstat).associated := by
            rw [← timed]
            split <;> rfl
          split
          · exact listed.store bit
          · rename_i advanced
            have kept := AuthRecord.advance_associated advanced
            refine listed.store ?_
            split
            · exact kept.trans bit
            · exact kept.trans bit

theorem aid_setAid (ap : AssocAp Sta Xmit Recv) (psta other : Sta) (aid : U32) :
    (ap.setAid psta aid).aid other = if other = psta then aid else ap.aid other := by
  unfold AssocAp.aid setAid
  by_cases own : other = psta
  · subst own
    rw [if_pos rfl, Adapter.modify_self]
  · rw [if_neg own, Adapter.modify_other _ own]

theorem Seated.onAssocReqFail (seated : ap.Seated)
    (none_ : ap.aid psta = 0) : (ap.onAssocReqFail reassoc status psta xmitAllocated).2.Seated := by
  refine seated.other ⟨rfl, rfl, rfl, rfl, fun _ _ => rfl, fun other => ?_, fun _ => rfl, rfl⟩
  have written := aid_setAid ap psta other 0
  by_cases own : other = psta
  · rw [if_pos own] at written
    rw [own] at written ⊢
    exact written.trans none_.symm
  · rw [if_neg own] at written
    exact written

omit [DecidableEq Sta] in
theorem freeAid_free (room : ap.freeAid ≤ ap.maxNumSta) (small : ap.maxNumSta ≤ numSta) :
    ap.freeAid - 1 < numSta ∧ ap.stapriv.staAid (ap.freeAid - 1) = none := by
  unfold freeAid at room ⊢
  cases found : (List.range numSta).find? fun i => (ap.stapriv.staAid i).isNone with
  | none =>
    rw [found, Option.getD_none] at room
    omega
  | some i =>
    rw [Option.getD_some, Nat.add_sub_cancel]
    refine ⟨List.mem_range.mp (List.mem_of_find?_eq_some found), ?_⟩
    simpa using List.find?_some found

structure Given (psta : Sta) (before after : AssocAp Sta Xmit Recv) : Prop where
  seated : after.Seated
  aid : after.aid psta ≠ 0
  staHash : after.stapriv.staHash = before.stapriv.staHash

theorem Seated.giveAid (seated : ap.Seated) (hashed : ap.stapriv.Hashed psta) (given : ap.giveAid psta = some next) :
    Given psta ap next := by
  unfold AssocAp.giveAid at given
  by_cases has : 0 < (ap.stapriv.stainfo psta).aid
  · rw [if_pos has] at given
    cases given
    refine ⟨seated, ?_, rfl⟩
    unfold AssocAp.aid
    bv_omega
  · rw [if_neg has] at given
    by_cases full : ap.maxNumSta < ap.freeAid
    · rw [if_pos full] at given
      cases given
    · rw [if_neg full] at given
      have none_ : ap.aid psta = 0 := by
        unfold AssocAp.aid
        bv_omega
      obtain ⟨low, free⟩ := freeAid_free (Nat.le_of_not_lt full) seated.maxNumSta
      have positive : 1 ≤ ap.freeAid := Nat.le_add_left 1 _
      have width : (BitVec.ofNat 32 ap.freeAid).toNat = ap.freeAid := by
        rw [BitVec.toNat_ofNat, Nat.mod_eq_of_lt]
        unfold numSta at low
        omega
      have different : ∀ i other, ap.stapriv.staAid i = some other → i ≠ ap.freeAid - 1 := by
        intro i other taken same
        rw [same, free] at taken
        cases taken
      have aids := aid_setAid { ap with
        stapriv := { ap.stapriv with
          staAid := update ap.stapriv.staAid (ap.freeAid - 1) (some psta) } } psta
      have own := aids psta (BitVec.ofNat 32 ap.freeAid)
      have its : ∀ other, other ≠ psta → _ := fun other apart =>
        (aids other (BitVec.ofNat 32 ap.freeAid)).trans (if_neg apart)
      rw [if_pos rfl] at own
      cases given
      refine ⟨?_, ?_, rfl⟩
      · refine { seated with
          given := fun other used associated => ?_
          holds := fun other used some_ => ?_
          slots := fun i inside other taken => ?_ }
        · by_cases same : other = psta
          · subst same
            rw [own]
            bv_omega
          · rw [its other same]
            exact seated.given other used associated
        · by_cases same : other = psta
          · subst same
            rw [own, width]
            exact ⟨Nat.le_of_not_lt full, update_self ..⟩
          · rw [its other same] at some_ ⊢
            have known := seated.holds other used some_
            refine ⟨known.1, (update_of_ne (different _ other known.2) ..).trans known.2⟩
        · replace taken : update ap.stapriv.staAid (ap.freeAid - 1) (some psta) i = some other := taken
          by_cases here : i = ap.freeAid - 1
          · rw [here, update_self] at taken
            rw [← some.inj taken, own, width]
            exact ⟨hashed, by omega⟩
          · rw [update_of_ne here] at taken
            have known := seated.slots i inside other taken
            have apart : other ≠ psta := by
              intro same
              have zero := known.2
              rw [same, none_] at zero
              cases zero
            rw [its other apart]
            exact known
      · rw [own]
        bv_omega

theorem mem_enlisted {other : Sta} : (other ∈ if decide (psta ∈ list) then list else list ++ [psta]) ↔
      other ∈ list ∨ other = psta := by
  by_cases listed : psta ∈ list
  · rw [decide_eq_true listed, if_pos rfl]
    exact ⟨.inl, fun either => either.elim id (· ▸ listed)⟩
  · rw [decide_eq_false listed, if_neg Bool.false_ne_true, List.mem_append, List.mem_singleton]

theorem Seated.join (seated : ap.Seated) (hashed : ap.stapriv.Hashed psta)
    (some_ : ap.aid psta ≠ 0) : (ap.join psta).Seated ∧ (ap.join psta).Joined psta := by
  have associated : ((ap.join psta).auth psta).associated = true := by
    have written : ((ap.join psta).auth psta).state = (ap.auth psta).state ||| wifiAsocState := by
      simp only [AssocAp.join, AssocAp.store, update_self]
    rw [AuthRecord.associated_eq, written, BitVec.getLsbD_or,
      show wifiAsocState.getLsbD 0 = true by decide, Bool.or_true]
  have bits : ∀ other, other ≠ psta → (ap.join psta).auth other = ap.auth other :=
    fun other apart => update_of_ne apart ..
  have members : ∀ other, other ∈ (ap.join psta).stapriv.asocList ↔
      other ∈ ap.stapriv.asocList ∨ other = psta := fun other => mem_enlisted
  have joined : (ap.join psta).Seated := by
    refine { seated with
      authNodup := seated.authNodup.filter _
      authHashed := fun other inside => seated.authHashed other (mem_unlink.mp inside).1
      asocNodup := ?_
      asocHashed := fun other inside => ?_
      apart := fun other inside both => ?_
      joined := fun other inside => ?_
      given := fun other used bit => ?_ }
    · change (if decide (psta ∈ ap.stapriv.asocList) then ap.stapriv.asocList
        else ap.stapriv.asocList ++ [psta]).Nodup
      by_cases listed : psta ∈ ap.stapriv.asocList
      · rw [decide_eq_true listed, if_pos rfl]
        exact seated.asocNodup
      · rw [decide_eq_false listed, if_neg Bool.false_ne_true]
        exact nodup_append_single seated.asocNodup listed
    · obtain earlier | rfl := (members other).mp inside
      · exact seated.asocHashed other earlier
      · exact hashed
    · obtain ⟨waiting, apart⟩ := mem_unlink.mp inside
      obtain earlier | same := (members other).mp both
      · exact seated.apart other waiting earlier
      · exact apart same
    · by_cases same : other = psta
      · exact same ▸ associated
      · obtain earlier | own := (members other).mp inside
        · rw [bits other same]
          exact seated.joined other earlier
        · exact absurd own same
    · by_cases same : other = psta
      · exact same ▸ some_
      · rw [bits other same] at bit
        exact seated.given other used bit
  have known := seated.holds psta hashed some_
  exact ⟨joined, hashed, (members psta).mpr (.inr rfl), associated, ⟨(toNat_aid some_).1, known.1⟩, known.2⟩

section

omit [DecidableEq Sta]

theorem replyProper_none (ap : AssocAp Sta Xmit Recv) : ap.ReplyProper none := by
  intro reassoc hwaddr aid sent
  cases sent

theorem replyProper_deauth (ap : AssocAp Sta Xmit Recv) (da : MacAddr) (reason : Nat)
    (allocated : Bool) : ap.ReplyProper (issueDeauth da reason allocated) := by
  intro reassoc hwaddr aid sent
  unfold issueDeauth at sent
  split at sent <;> cases sent

theorem replyProper_asocrsp {allocated : Bool}
    (success : allocated = true → status = statsSuccessful → ap.Joined psta) :
    ap.ReplyProper (ap.issueAsocrsp reassoc status psta allocated) := by
  intro again hwaddr aid sent
  unfold issueAsocrsp at sent
  cases allocated with
  | false => cases sent
  | true =>
    rw [if_pos rfl] at sent
    cases sent
    exact ⟨psta, success rfl rfl, rfl, rfl⟩

end

theorem Seated.refused (seated : ap.Seated) (none_ : ap.aid psta = 0)
    (unsent : status = statsSuccessful → xmitAllocated = false)
    (done : ap.onAssocReqFail reassoc status psta xmitAllocated = (reply, after)) :
    after.Seated ∧ after.ReplyProper reply := by
  have kept : (ap.onAssocReqFail reassoc status psta xmitAllocated).2.Seated :=
    seated.onAssocReqFail none_
  rw [done] at kept
  refine ⟨kept, ?_⟩
  cases done
  refine replyProper_asocrsp fun allocated success => ?_
  rw [unsent success] at allocated
  cases allocated

theorem Seated.checkRequest (seated : ap.Seated) (hashed : ap.stapriv.Hashed psta)
    (meets : ap.RequestMeets frame psta xmitAllocated)
    (done : ap.checkRequest frame psta xmitAllocated = some (reply, after)) :
    after.Seated ∧ after.ReplyProper reply := by
  obtain ⟨-, unheld, unsent⟩ := meets
  unfold AssocSettings.refusal at unheld unsent
  unfold AssocAp.checkRequest at done
  dsimp only at done
  cases first : ap.settings.elementStatus frame frame.ieStart with
  | none =>
    rw [first] at done
    cases done
  | some status =>
    rw [first] at done unheld unsent
    dsimp only at done unheld unsent
    by_cases early : status ≠ statsSuccessful
    · rw [if_pos early] at done unheld
      exact seated.refused (unheld status rfl) (fun success => absurd success early)
        (some.inj done)
    · rw [if_neg early] at done unheld unsent
      generalize (if ap.settings.qosOption then frame.qosInfo frame.ieStart else none) = qosInfo at done
      have kept : ({ ap with
          stapriv := ap.stapriv.modify psta (.withQos qosInfo) } : AssocAp Sta Xmit Recv).Seated ∧
          ∀ other, ({ ap with
            stapriv := ap.stapriv.modify psta (.withQos qosInfo) } : AssocAp Sta Xmit Recv).aid
              other = ap.aid other := by
        have aids : ∀ other, ({ ap with
            stapriv := ap.stapriv.modify psta (.withQos qosInfo) } : AssocAp Sta Xmit Recv).aid
              other = ap.aid other := by
          intro other
          unfold AssocAp.aid
          by_cases own : other = psta
          · subst own
            rw [Adapter.modify_self]
            rfl
          · rw [Adapter.modify_other _ own]
        exact ⟨seated.other ⟨rfl, rfl, rfl, rfl, fun _ _ => rfl, aids, fun _ => rfl, rfl⟩, aids⟩
      have used : (ap.stapriv.modify psta (.withQos qosInfo)).Hashed psta := hashed
      generalize written : ({ ap with
        stapriv := ap.stapriv.modify psta (.withQos qosInfo) } : AssocAp Sta Xmit Recv) = middle
          at done kept
      have inUse : middle.stapriv.Hashed psta := written ▸ used
      cases later : ap.settings.laterRefusal frame frame.ieStart with
      | none =>
        rw [later] at done
        cases done
      | some refusal =>
        rw [later] at done unheld unsent
        cases refusal with
        | some status =>
          refine kept.1.refused ((kept.2 psta).trans (unheld status rfl)) ?_
            (some.inj done)
          intro success
          rw [success] at unsent
          exact unsent rfl
        | none =>
          dsimp only at done
          cases given : middle.giveAid psta with
          | none =>
            rw [given] at done
            refine kept.1.refused ?_ (fun success => absurd success (by decide))
              (some.inj done)
            unfold AssocAp.giveAid at given
            split at given
            · cases given
            · unfold AssocAp.aid
              bv_omega
          | some next =>
            rw [given] at done
            cases done
            have gives := kept.1.giveAid inUse given
            obtain ⟨index, place⟩ := inUse
            have inUse : next.stapriv.Hashed psta := ⟨index, gives.staHash ▸ place⟩
            obtain ⟨joins, own⟩ := gives.seated.join inUse gives.aid
            exact ⟨joins, replyProper_asocrsp fun _ _ => own⟩

theorem Seated.onAssocReq (seated : ap.Seated) (meets : ap.AssocMeets (.assocReq frame xmitAllocated))
    (done : ap.onAssocReq frame xmitAllocated = some (reply, after)) :
    after.Seated ∧ after.ReplyProper reply := by
  unfold AssocAp.onAssocReq at done
  by_cases off : ap.apState = false
  · rw [if_pos off] at done
    cases done
    exact ⟨seated, replyProper_none ap⟩
  · rw [if_neg off] at done
    by_cases short : frame.len < frame.ieStart
    · rw [if_pos short] at done
      cases done
      exact ⟨seated, replyProper_none ap⟩
    · rw [if_neg short] at done
      cases found : ap.stapriv.getStainfo frame.sa with
      | none =>
        rw [found] at done
        cases done
        exact ⟨seated, replyProper_deauth ap _ _ _⟩
      | some pstat =>
        rw [found] at done
        dsimp only at done
        by_cases fails : (ap.auth pstat).success = false
        · rw [if_pos fails] at done
          cases done
          exact ⟨seated, replyProper_deauth ap _ _ _⟩
        · rw [if_neg fails] at done
          exact seated.checkRequest (getStainfo_hashed found)
            (meets pstat (by simpa using off) (Nat.le_of_not_lt short) found (by simpa using fails)) done

omit [DecidableEq Sta] in
theorem Seated.walk {step : AssocAp Sta Xmit Recv → Sta → AssocAp Sta Xmit Recv}
    (keeps : ∀ (ap : AssocAp Sta Xmit Recv) (psta : Sta), ap.Seated → ap.stapriv.Hashed psta → (step ap psta).Seated ∧
        ∀ other, other ≠ psta → ap.stapriv.Hashed other → (step ap psta).stapriv.Hashed other)
    (seated : ap.Seated) {todo : List Sta} (nodup : todo.Nodup)
    (used : ∀ psta ∈ todo, ap.stapriv.Hashed psta) : (todo.foldl step ap).Seated := by
  induction todo generalizing ap with
  | nil => exact seated
  | cons first rest ih =>
    obtain ⟨absent, nodup⟩ := List.nodup_cons.mp nodup
    have stepped := keeps ap first seated (used first List.mem_cons_self)
    rw [List.foldl_cons]
    refine ih stepped.1 nodup fun psta inside => ?_
    exact stepped.2 psta (fun same => absent (same ▸ inside))
      (used psta (List.mem_cons_of_mem _ inside))

theorem Seated.freed (seated : ap.Seated) (used : ap.stapriv.Hashed psta) : (ap.freeStainfo psta).Seated ∧
      ∀ other, other ≠ psta → ap.stapriv.Hashed other → (ap.freeStainfo psta).stapriv.Hashed other :=
  ⟨seated.freeStainfo used, fun other apart inside =>
    (hashed_freeStainfo ap psta other).mpr ⟨inside, apart⟩⟩

theorem Seated.expireAuth (seated : ap.Seated) (used : ap.stapriv.Hashed psta) : (ap.expireAuth psta).Seated ∧
      ∀ other, other ≠ psta → ap.stapriv.Hashed other → (ap.expireAuth psta).stapriv.Hashed other := by
  unfold AssocAp.expireAuth
  dsimp only
  split
  · exact ⟨seated, fun _ _ => id⟩
  · have counted : (ap.store psta { ap.auth psta with
        expireTo := (ap.auth psta).expireTo - 1 }).Seated := seated.store rfl
    split
    · exact (counted.leaveAuth psta).freed used
    · exact ⟨counted, fun _ _ => id⟩

theorem Seated.renewAsoc (seated : ap.Seated) (psta : Sta) :
    (ap.renewAsoc psta).Seated ∧ (ap.renewAsoc psta).stapriv = ap.stapriv := by
  unfold AssocAp.renewAsoc AssocAp.chkStaIsAlive
  by_cases quiet : ap.rxPkts psta = ap.lastRxPkts psta
  · rw [if_pos quiet]
    cases (ap.stapriv.stainfo psta).asleep with
    | false => exact ⟨seated, rfl⟩
    | true => exact ⟨seated.store rfl, rfl⟩
  · rw [if_neg quiet]
    have counted : ({ ap with lastRxPkts := update ap.lastRxPkts psta (ap.rxPkts psta) } :
          AssocAp Sta Xmit Recv).Seated := { seated with }
    exact ⟨counted.store rfl, rfl⟩

theorem Seated.expireAsoc (seated : ap.Seated) (used : ap.stapriv.Hashed psta) : (ap.expireAsoc psta).Seated ∧
      ∀ other, other ≠ psta → ap.stapriv.Hashed other → (ap.expireAsoc psta).stapriv.Hashed other := by
  obtain ⟨kept, table⟩ := seated.renewAsoc psta
  unfold AssocAp.expireAsoc
  generalize ap.renewAsoc psta = next at kept table
  rw [← table] at used ⊢
  dsimp only
  split
  · exact ⟨kept, fun _ _ => id⟩
  · have counted : (next.store psta { next.auth psta with
        expireTo := (next.auth psta).expireTo - 1 }).Seated := kept.store rfl
    split
    · exact (counted.leaveAsoc psta).freed used
    · exact ⟨counted, fun _ _ => id⟩

theorem Seated.expireTimeoutChk (seated : ap.Seated) : ap.expireTimeoutChk.Seated := by
  have first := seated.walk (fun ap psta seated used => seated.expireAuth used) seated.authNodup
    seated.authHashed
  exact first.walk (fun ap psta seated used => seated.expireAsoc used) first.asocNodup
    first.asocHashed

theorem Seated.rtwStaFlush (seated : ap.Seated) : ap.rtwStaFlush.Seated :=
  seated.walk (fun _ psta seated used => (seated.leaveAsoc psta).freed used) seated.asocNodup
    seated.asocHashed

theorem Seated.receiveLeave (seated : ap.Seated) (sa bssid : MacAddr) : (ap.receiveLeave sa bssid).Seated := by
  unfold AssocAp.receiveLeave
  split
  · exact seated
  · split
    · exact seated
    · cases found : ap.stapriv.getStainfo sa with
      | none => exact seated
      | some psta => exact seated.freeStainfo (getStainfo_hashed found)

theorem checkRequest_isSome (fits : ap.settings.refusal frame ≠ none) :
    ap.checkRequest frame psta xmitAllocated ≠ none := by
  unfold AssocSettings.refusal at fits
  unfold AssocAp.checkRequest
  dsimp only
  cases first : ap.settings.elementStatus frame frame.ieStart with
  | none =>
    rw [first] at fits
    exact absurd rfl fits
  | some status =>
    rw [first] at fits
    dsimp only at fits ⊢
    by_cases early : status ≠ statsSuccessful
    · rw [if_pos early]
      exact some_ne_none _
    · rw [if_neg early] at fits ⊢
      cases later : ap.settings.laterRefusal frame frame.ieStart with
      | none => exact absurd later fits
      | some refusal =>
        cases refusal with
        | some status => exact some_ne_none _
        | none =>
          dsimp only
          split <;> exact some_ne_none _

theorem onAssocReq_isSome (meets : ap.AssocMeets (.assocReq frame xmitAllocated)) :
    ap.onAssocReq frame xmitAllocated ≠ none := by
  unfold AssocAp.onAssocReq
  by_cases off : ap.apState = false
  · rw [if_pos off]
    exact some_ne_none _
  · rw [if_neg off]
    by_cases short : frame.len < frame.ieStart
    · rw [if_pos short]
      exact some_ne_none _
    · rw [if_neg short]
      cases found : ap.stapriv.getStainfo frame.sa with
      | none => exact some_ne_none _
      | some pstat =>
        dsimp only
        by_cases fails : (ap.auth pstat).success = false
        · rw [if_pos fails]
          exact some_ne_none _
        · rw [if_neg fails]
          exact checkRequest_isSome (meets pstat (by simpa using off)
            (Nat.le_of_not_lt short) found (by simpa using fails)).fits

theorem Seated.step {action : AssocAction} (seated : before.Seated) (meets : before.AssocMeets action)
    (stepped : (assocSystem Sta Xmit Recv).step before action after) : after.Seated := by
  cases action with
  | auth frame xmitAllocated =>
    subst stepped
    exact seated.onAuth frame xmitAllocated
  | assocReq frame xmitAllocated =>
    obtain ⟨⟨reply, next⟩, done⟩ := Option.ne_none_iff_exists'.mp (onAssocReq_isSome meets)
    rw [stepped reply next done]
    exact (seated.onAssocReq meets done).1
  | deAuth sa bssid =>
    subst stepped
    exact seated.receiveLeave sa bssid
  | disassoc sa bssid =>
    subst stepped
    exact seated.receiveLeave sa bssid
  | expireTimeout =>
    subst stepped
    exact seated.expireTimeoutChk
  | staFlush =>
    subst stepped
    exact seated.rtwStaFlush
  | other => exact seated.other stepped

def unassociated : AssocAp Bool Unit Unit where
  stapriv := Adapter.start [false, true]
  auth := fun _ => ⟨0, 0, 0, Vector.replicate 128 0, 0⟩
  rxPkts := fun _ => 0
  lastRxPkts := fun _ => 0
  apState := true
  fwApState := true
  myBssid := Adapter.accessPoint
  dot11AuthAlgrthm := .open
  dot11PrivacyAlgrthm := 0
  authTo := 3
  assocTo := 3
  expireTo := 900
  maxNumSta := 32
  settings := ⟨[0x61], 0, 0, 0, 0, 0, false, false, false⟩

def stationFrame (subType : U8) (body : List U8) : MgntFrame MacAddr where
  sa := #v[0, 0x0c, 0x43, 0x28, 0x60, 0x02]
  memory i := if i = 0 then subType else if i < wlanHdrA3Len then 0 else body.getD (i - wlanHdrA3Len) 0
  len := wlanHdrA3Len + body.length

def authFrame : MgntFrame MacAddr := stationFrame 0xb0 [0, 0, 1, 0, 0, 0]

def requestFrame (name : U8) (rest : List U8) : MgntFrame MacAddr :=
  stationFrame 0 ([1, 0, 10, 0, 0, 1, name, 1, 1, 0x82] ++ rest)

def p2pElement : List U8 := [221, 4, 0x50, 0x6f, 0x9a, 0x09]

def authenticated : AssocAp Bool Unit Unit := (unassociated.onAuth authFrame true).2

theorem unassociated_starts : unassociated.Starts where
  freeNodup := by decide
  unhashed := by
    rintro psta - ⟨index, inside⟩
    cases inside
  authList := rfl
  asocList := rfl
  staAid := fun _ _ => rfl
  records := by
    rintro psta ⟨index, inside⟩
    cases inside
  maxNumSta := by decide

def requested (ap : AssocAp Bool Unit Unit) (frame : MgntFrame MacAddr) : AssocAp Bool Unit Unit :=
  ((ap.onAssocReq frame true).map Prod.snd).getD ap

def associated : AssocAp Bool Unit Unit := authenticated.requested (requestFrame 0x61 [])

theorem requested_step (ap : AssocAp Bool Unit Unit) (frame : MgntFrame MacAddr) :
    (assocSystem Bool Unit Unit).step ap (.assocReq frame true) (ap.requested frame) := by
  intro reply next done
  rw [requested, done]
  rfl

end AssocAp

end Floid.Wifi
