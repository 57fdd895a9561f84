import Mathlib.Data.Fintype.Basic
import Mathlib.Logic.Function.Basic
import Floid.Wifi.Michael

/-!
The station records and the queues they are linked into: the table that finds a record by
its address, the service queues of the access categories, and the queues for sleeping
stations. A list of records or frames is a queue of the driver, from its head on.
-/

namespace Floid.Wifi

open Osk
open Function (update)

def numSta : Nat := 32

inductive AccessCategory where
  | vo
  | vi
  | be
  | bk
  deriving DecidableEq, Repr

instance : Fintype AccessCategory where
  elems := {.vo, .vi, .be, .bk}
  complete ac := by cases ac <;> decide

def accessCategory (up : U8) : AccessCategory :=
  if up = 1 ∨ up = 2 then .bk
  else if up = 4 ∨ up = 5 then .vi
  else if up = 6 ∨ up = 7 then .vo
  else .be

structure TxServq (Xmit : Type) where
  staPending : List Xmit
  qcnt : Int

structure StaRecord (Xmit Recv : Type) where
  hwaddr : MacAddr
  aid : U32
  /-- `WIFI_SLEEP_STATE`. -/
  asleep : Bool
  qosOption : Bool
  qosInfo : U8
  hasLegacyAc : Bool
  /-- `uapsd_vo` and the others. Bit 0: delivery enabled, bit 1: trigger enabled. -/
  uapsd : AccessCategory → U8
  sleepQ : List Xmit
  sleepqLen : U32
  sleepqAcLen : U32
  servq : AccessCategory → TxServq Xmit
  defragQ : List Recv
  pendingRecvframeQueue : Fin 16 → List Recv

def StaRecord.queued {Xmit Recv : Type} (record : StaRecord Xmit Recv) : List Xmit :=
  record.sleepQ ++ (record.servq .vo).staPending ++ (record.servq .vi).staPending ++
    (record.servq .bk).staPending ++ (record.servq .be).staPending

structure PktAttrib (Sta : Type) where
  psta : Option Sta
  ra : MacAddr
  priority : U8
  triggered : Bool

/-- What `sta_priv` and `xmit_priv` have. -/
structure Adapter (Sta Xmit Recv : Type) where
  stainfo : Sta → StaRecord Xmit Recv
  attrib : Xmit → PktAttrib Sta
  freeStaQueue : List Sta
  staHash : Fin numSta → List Sta
  asocStaCount : Int
  asocList : List Sta
  authList : List Sta
  /-- `sta_aid`, which has `numSta` entries, and what memory has after it. -/
  staAid : Nat → Option Sta
  staDzBitmap : U16
  timBitmap : U16
  /-- `vo_pending` and the others, the `sta_queue` of each of `hwxmits`. -/
  staQueue : AccessCategory → List Sta
  accnt : AccessCategory → Int
  freeXmitQueue : List Xmit
  freeXmitframeCnt : Int
  held : List Xmit
  stray : List (Sta × Recv)
  /-- The entries of `sta_aid` that `free_stainfo` has looked at. -/
  touched : List Nat

def wifiMacHash (mac : MacAddr) : Fin numSta :=
  let x : U32 := mac.toList.foldl (fun x byte => x <<< 2 ^^^ byte.setWidth 32) 0
  let x := x ^^^ x >>> 8
  ⟨(x &&& 31).toNat, Nat.lt_of_le_of_lt (Nat.and_le_right) (by decide)⟩

def bcAddr : MacAddr := Vector.replicate 6 0xff

def unlink {Sta : Type} [DecidableEq Sta] (psta : Sta) (list : List Sta) : List Sta :=
  list.filter (· ≠ psta)

section

variable {Sta : Type} [DecidableEq Sta]

theorem mem_unlink {psta other : Sta} {list : List Sta} :
    other ∈ unlink psta list ↔ other ∈ list ∧ other ≠ psta := by
  rw [unlink, List.mem_filter, decide_eq_true_iff]

theorem count_unlink (psta other : Sta) (list : List Sta) :
    (unlink psta list).count other = if other = psta then 0 else list.count other := by
  by_cases same : other = psta
  · rw [if_pos same, List.count_eq_zero, mem_unlink]
    exact fun inside => inside.2 same
  · rw [if_neg same, unlink, List.count_filter (by simpa using same)]

theorem length_unlink (psta : Sta) (list : List Sta) :
    (unlink psta list).length + list.count psta = list.length := by
  induction list with
  | nil => rfl
  | cons first rest ih =>
    rw [unlink] at ih ⊢
    by_cases same : first = psta
    · rw [List.filter_cons_of_neg (by simpa using same), same, List.count_cons_self, List.length_cons]
      omega
    · rw [List.filter_cons_of_pos (by simpa using same), List.count_cons_of_ne same,
        List.length_cons, List.length_cons]
      omega

end

/-- `BIT`, in a bitmap of 16 bits. -/
def bit (aid : U32) : U16 := 1 <<< aid.toNat

def StaRecord.initial {Xmit Recv : Type} (hwaddr : MacAddr) : StaRecord Xmit Recv where
  hwaddr
  aid := 0
  asleep := false
  qosOption := false
  qosInfo := 0
  hasLegacyAc := false
  uapsd := fun _ => 0
  sleepQ := []
  sleepqLen := 0
  sleepqAcLen := 0
  servq := fun _ => ⟨[], 0⟩
  defragQ := []
  pendingRecvframeQueue := fun _ => []

namespace Adapter

variable {Sta Xmit Recv : Type} [DecidableEq Sta]

def lookupAddr (hwaddr : MacAddr) : MacAddr := if isMcast hwaddr then bcAddr else hwaddr

def getStainfo (adapter : Adapter Sta Xmit Recv) (hwaddr : MacAddr) : Option Sta :=
  (adapter.staHash (wifiMacHash (lookupAddr hwaddr))).find?
    fun psta => (adapter.stainfo psta).hwaddr = lookupAddr hwaddr

def modify (adapter : Adapter Sta Xmit Recv) (psta : Sta)
    (change : StaRecord Xmit Recv → StaRecord Xmit Recv) : Adapter Sta Xmit Recv :=
  { adapter with stainfo := update adapter.stainfo psta (change (adapter.stainfo psta)) }

def allocStainfo (adapter : Adapter Sta Xmit Recv) (hwaddr : MacAddr) : Option Sta × Adapter Sta Xmit Recv :=
  match adapter.freeStaQueue with
  | [] => (none, adapter)
  | psta :: rest =>
      let index := wifiMacHash hwaddr
      let record := adapter.stainfo psta
      let lost := record.defragQ ++ (List.finRange 16).flatMap record.pendingRecvframeQueue
      (some psta,
        { adapter with
          freeStaQueue := rest
          stainfo := update adapter.stainfo psta (.initial hwaddr)
          stray := adapter.stray ++ lost.map (psta, ·)
          staHash := update adapter.staHash index (adapter.staHash index ++ [psta])
          asocStaCount := adapter.asocStaCount + 1 })

def freeXmitframe (adapter : Adapter Sta Xmit Recv) (pxmitframe : Xmit) : Adapter Sta Xmit Recv :=
  { adapter with
    freeXmitQueue := adapter.freeXmitQueue ++ [pxmitframe]
    freeXmitframeCnt := adapter.freeXmitframeCnt + 1 }

def freeXmitframeQueue (adapter : Adapter Sta Xmit Recv) : List Xmit → Adapter Sta Xmit Recv
  | [] => adapter
  | pxmitframe :: rest => freeXmitframeQueue (adapter.freeXmitframe pxmitframe) rest

def freeServq (psta : Sta) (adapter : Adapter Sta Xmit Recv) (ac : AccessCategory) : Adapter Sta Xmit Recv :=
  let servq := (adapter.stainfo psta).servq
  let adapter := adapter.freeXmitframeQueue (servq ac).staPending
  let adapter := adapter.modify psta fun record =>
    { record with servq := update servq ac { servq ac with staPending := [] } }
  { adapter with staQueue := update adapter.staQueue ac (unlink psta (adapter.staQueue ac)) }

def aidIndex (adapter : Adapter Sta Xmit Recv) (psta : Sta) : Nat :=
  ((adapter.stainfo psta).aid - 1).toNat

def disassociate (adapter : Adapter Sta Xmit Recv) (psta : Sta) : Adapter Sta Xmit Recv :=
  let aid := (adapter.stainfo psta).aid
  let adapter :=
    { adapter with
      asocList := unlink psta adapter.asocList
      authList := unlink psta adapter.authList
      staDzBitmap := adapter.staDzBitmap &&& ~~~bit aid
      timBitmap := adapter.timBitmap &&& ~~~bit aid
      touched := adapter.touched ++ [adapter.aidIndex psta] }
  let adapter := adapter.modify psta fun record =>
    { record with sleepqAcLen := 0, qosInfo := 0, uapsd := fun _ => 0, hasLegacyAc := false }
  if adapter.staAid (adapter.aidIndex psta) = some psta then
    { adapter with staAid := update adapter.staAid (adapter.aidIndex psta) none }.modify
      psta fun record => { record with aid := 0 }
  else adapter

def freeStainfo (adapter : Adapter Sta Xmit Recv) (psta : Sta) : Adapter Sta Xmit Recv :=
  let adapter := adapter.freeXmitframeQueue (adapter.stainfo psta).sleepQ
  let adapter := adapter.modify psta fun record => { record with sleepQ := [], sleepqLen := 0 }
  let adapter := [.vo, .vi, .bk, .be].foldl (freeServq psta) adapter
  let adapter :=
    { adapter with
      staHash := fun index => unlink psta (adapter.staHash index)
      asocStaCount := adapter.asocStaCount - 1
      stray := adapter.stray ++ (adapter.stainfo psta).defragQ.map (psta, ·) }
  -- `_init_sta_xmit_priv` and `_init_sta_recv_priv`
  let adapter := adapter.modify psta fun record =>
    { record with servq := fun _ => ⟨[], 0⟩, defragQ := [] }
  let adapter := adapter.disassociate psta
  { adapter with freeStaQueue := adapter.freeStaQueue ++ [psta] }

def freeUnlessBcmc (pbcmcStainfo : Option Sta) (adapter : Adapter Sta Xmit Recv) (psta : Sta) :
    Adapter Sta Xmit Recv :=
  if pbcmcStainfo = some psta then adapter else adapter.freeStainfo psta

def freeAllStainfo (adapter : Adapter Sta Xmit Recv) : Adapter Sta Xmit Recv :=
  if adapter.asocStaCount = 1 then adapter
  else
    let pbcmcStainfo := adapter.getStainfo bcAddr
    (List.finRange numSta).foldl (fun adapter index =>
      (adapter.staHash index).foldl (freeUnlessBcmc pbcmcStainfo) adapter) adapter

variable {adapter : Adapter Sta Xmit Recv} {psta : Sta}

omit [DecidableEq Sta] in
theorem freeXmitframeQueue_eq (frames : List Xmit) : adapter.freeXmitframeQueue frames =
      { adapter with
        freeXmitQueue := adapter.freeXmitQueue ++ frames
        freeXmitframeCnt := adapter.freeXmitframeCnt + frames.length } := by
  induction frames generalizing adapter with
  | nil => simp [freeXmitframeQueue]
  | cons pxmitframe rest ih =>
    rw [freeXmitframeQueue, ih]
    simp [freeXmitframe, add_comm, add_left_comm]

@[simp]
theorem modify_self (change : StaRecord Xmit Recv → StaRecord Xmit Recv) :
    (adapter.modify psta change).stainfo psta = change (adapter.stainfo psta) :=
  Function.update_self ..

theorem modify_other (change : StaRecord Xmit Recv → StaRecord Xmit Recv) {other : Sta}
    (different : other ≠ psta) : (adapter.modify psta change).stainfo other = adapter.stainfo other :=
  Function.update_of_ne different ..

structure Freed (psta : Sta) (before after : Adapter Sta Xmit Recv) : Prop where
  others : ∀ other, other ≠ psta → after.stainfo other = before.stainfo other
  hwaddr : (after.stainfo psta).hwaddr = (before.stainfo psta).hwaddr
  sleepQ : (after.stainfo psta).sleepQ = []
  sleepqLen : (after.stainfo psta).sleepqLen = 0
  sleepqAcLen : (after.stainfo psta).sleepqAcLen = 0
  servq : (after.stainfo psta).servq = fun _ => ⟨[], 0⟩
  defragQ : (after.stainfo psta).defragQ = []
  pendingRecvframeQueue :
    (after.stainfo psta).pendingRecvframeQueue = (before.stainfo psta).pendingRecvframeQueue
  freeStaQueue : after.freeStaQueue = before.freeStaQueue ++ [psta]
  staHash : after.staHash = fun index => unlink psta (before.staHash index)
  asocStaCount : after.asocStaCount = before.asocStaCount - 1
  asocList : after.asocList = unlink psta before.asocList
  authList : after.authList = unlink psta before.authList
  staQueue : after.staQueue = fun ac => unlink psta (before.staQueue ac)
  accnt : after.accnt = before.accnt
  freeXmitQueue : after.freeXmitQueue = before.freeXmitQueue ++ (before.stainfo psta).queued
  freeXmitframeCnt : after.freeXmitframeCnt = before.freeXmitframeCnt + (before.stainfo psta).queued.length
  held : after.held = before.held
  attrib : after.attrib = before.attrib
  staDzBitmap : after.staDzBitmap = before.staDzBitmap &&& ~~~bit (before.stainfo psta).aid
  timBitmap : after.timBitmap = before.timBitmap &&& ~~~bit (before.stainfo psta).aid
  touched : after.touched = before.touched ++ [before.aidIndex psta]
  stray : after.stray = before.stray ++ (before.stainfo psta).defragQ.map (psta, ·)

theorem freeServq_eq (ac : AccessCategory) : freeServq psta adapter ac =
      { adapter with
        stainfo := update adapter.stainfo psta
          { adapter.stainfo psta with
            servq := update (adapter.stainfo psta).servq ac
              { (adapter.stainfo psta).servq ac with staPending := [] } }
        staQueue := update adapter.staQueue ac (unlink psta (adapter.staQueue ac))
        freeXmitQueue := adapter.freeXmitQueue ++ ((adapter.stainfo psta).servq ac).staPending
        freeXmitframeCnt :=
          adapter.freeXmitframeCnt + ((adapter.stainfo psta).servq ac).staPending.length } := by
  simp [freeServq, freeXmitframeQueue_eq, modify]

theorem freeStainfo_freed (adapter : Adapter Sta Xmit Recv) (psta : Sta) :
    Freed psta adapter (adapter.freeStainfo psta) := by
  simp only [freeStainfo, freeXmitframeQueue_eq, List.foldl_cons, List.foldl_nil, freeServq_eq,
    disassociate, modify, Function.update_self, Function.update_idem]
  constructor
  case others =>
    intro other different
    split <;> simp [Function.update_of_ne different]
  case staQueue =>
    funext ac
    split <;> cases ac <;> simp
  case freeXmitQueue => split <;> simp [StaRecord.queued]
  case freeXmitframeCnt => split <;> simp [StaRecord.queued, add_assoc]
  case touched => split <;> simp [aidIndex]
  all_goals split <;> simp

end Adapter

end Floid.Wifi
