import Mathlib.Algebra.BigOperators.Ring.Finset
import Mathlib.Algebra.Order.BigOperators.Group.Finset
import Floid.Lib.Transition
import Floid.Lib.Pool
import Floid.Wifi.StaTable

namespace Floid.Wifi.Adapter

open Osk Lib
open Function (update update_of_ne update_self)

variable {Sta Xmit Recv : Type} [DecidableEq Sta]

def Hashed (adapter : Adapter Sta Xmit Recv) (psta : Sta) : Prop :=
  ∃ index, psta ∈ adapter.staHash index

structure Unreferenced (adapter : Adapter Sta Xmit Recv) (psta : Sta) : Prop where
  staQueue : ∀ ac, psta ∉ adapter.staQueue ac
  asocList : psta ∉ adapter.asocList
  authList : psta ∉ adapter.authList
  sleepQ : (adapter.stainfo psta).sleepQ = []
  staPending : ∀ ac, ((adapter.stainfo psta).servq ac).staPending = []
  defragQ : (adapter.stainfo psta).defragQ = []
  pendingRecvframeQueue : ∀ tid, (adapter.stainfo psta).pendingRecvframeQueue tid = []
  stray : ∀ recv, (psta, recv) ∉ adapter.stray

structure OtherCode (before after : Adapter Sta Xmit Recv) : Prop where
  freeStaQueue : after.freeStaQueue = before.freeStaQueue
  staHash : after.staHash = before.staHash
  asocStaCount : after.asocStaCount = before.asocStaCount
  hwaddr : ∀ psta, (after.stainfo psta).hwaddr = (before.stainfo psta).hwaddr
  stray : ∀ link ∈ after.stray, link ∈ before.stray
  touched : after.touched = before.touched
  free : ∀ psta ∈ before.freeStaQueue, before.Unreferenced psta → after.Unreferenced psta

inductive TableAction (Sta : Type) where
  | allocStainfo (hwaddr : MacAddr)
  | freeStainfo (psta : Sta)
  | freeAllStainfo
  | other

def tableSystem (Sta Xmit Recv : Type) [DecidableEq Sta] :
    TransitionSystem (Adapter Sta Xmit Recv) (TableAction Sta) where
  initial adapter :=
    (∀ psta, adapter.freeStaQueue.count psta = 1 ∧ adapter.Unreferenced psta) ∧
      (∀ index, adapter.staHash index = []) ∧ adapter.asocStaCount = 0 ∧ adapter.stray = [] ∧
      adapter.touched = []
  step before action after :=
    match action with
    | .allocStainfo hwaddr => after = (before.allocStainfo hwaddr).2
    | .freeStainfo psta => before.Hashed psta ∧ after = before.freeStainfo psta
    | .freeAllStainfo => after = before.freeAllStainfo
    | .other => OtherCode before after

structure TableSound (adapter : Adapter Sta Xmit Recv) : Prop where
  once : ∀ psta, adapter.freeStaQueue.count psta + ∑ index, (adapter.staHash index).count psta = 1
  placed : ∀ index, ∀ psta ∈ adapter.staHash index, wifiMacHash (adapter.stainfo psta).hwaddr = index
  counted : adapter.asocStaCount = ∑ index, ((adapter.staHash index).length : Int)
  lookup : ∀ mac, (∃ psta, adapter.getStainfo mac = some psta ∧ adapter.Hashed psta ∧
    (adapter.stainfo psta).hwaddr = mac) ↔ ∃ psta, adapter.Hashed psta ∧ (adapter.stainfo psta).hwaddr = mac
  inRange : ∀ index ∈ adapter.touched, index < numSta
  unreferenced : ∀ psta ∈ adapter.freeStaQueue, adapter.Unreferenced psta

/-- `free_stainfo` works for the record: it has an association, and no received frames. -/
structure CanFree (adapter : Adapter Sta Xmit Recv) (psta : Sta) : Prop where
  associated : 1 ≤ (adapter.stainfo psta).aid.toNat ∧ (adapter.stainfo psta).aid.toNat ≤ numSta
  defragQ : (adapter.stainfo psta).defragQ = []
  pendingRecvframeQueue : ∀ tid, (adapter.stainfo psta).pendingRecvframeQueue tid = []

/-- Records are for stations or for broadcasts, and `free_stainfo` works for what is freed. -/
def TableCondition (adapter : Adapter Sta Xmit Recv) : TableAction Sta → Prop
  | .allocStainfo hwaddr => lookupAddr hwaddr = hwaddr
  | .freeStainfo psta => adapter.CanFree psta
  | .freeAllStainfo => adapter.asocStaCount = 1 ∨ ∀ psta, adapter.Hashed psta →
      adapter.getStainfo bcAddr ≠ some psta → adapter.CanFree psta
  | .other => True

structure TableInvariant (adapter : Adapter Sta Xmit Recv) : Prop where
  once : ∀ psta, adapter.freeStaQueue.count psta + ∑ index, (adapter.staHash index).count psta = 1
  placed : ∀ index, ∀ psta ∈ adapter.staHash index, wifiMacHash (adapter.stainfo psta).hwaddr = index
  found : ∀ index, ∀ psta ∈ adapter.staHash index,
    lookupAddr (adapter.stainfo psta).hwaddr = (adapter.stainfo psta).hwaddr
  counted : adapter.asocStaCount = ∑ index, ((adapter.staHash index).length : Int)
  inRange : ∀ index ∈ adapter.touched, index < numSta
  stray : adapter.stray = []
  unreferenced : ∀ psta ∈ adapter.freeStaQueue, adapter.Unreferenced psta

variable {psta : Sta} {adapter : Adapter Sta Xmit Recv}

section

omit [DecidableEq Sta]

theorem aidIndex_inRange : adapter.aidIndex psta < numSta ↔
      1 ≤ (adapter.stainfo psta).aid.toNat ∧ (adapter.stainfo psta).aid.toNat ≤ numSta := by
  rw [aidIndex, numSta]
  generalize (adapter.stainfo psta).aid = aid
  constructor
  · intro inside
    bv_omega
  · rintro ⟨positive, small⟩
    bv_omega

theorem Unreferenced.keep {before after : Adapter Sta Xmit Recv}
    (loose : before.Unreferenced psta) (record : after.stainfo psta = before.stainfo psta)
    (staQueue : ∀ ac, psta ∈ after.staQueue ac → psta ∈ before.staQueue ac)
    (asocList : psta ∈ after.asocList → psta ∈ before.asocList)
    (authList : psta ∈ after.authList → psta ∈ before.authList)
    (stray : ∀ recv, (psta, recv) ∈ after.stray → (psta, recv) ∈ before.stray) :
    after.Unreferenced psta where
  staQueue ac inside := loose.staQueue ac (staQueue ac inside)
  asocList inside := loose.asocList (asocList inside)
  authList inside := loose.authList (authList inside)
  sleepQ := record ▸ loose.sleepQ
  staPending := record ▸ loose.staPending
  defragQ := record ▸ loose.defragQ
  pendingRecvframeQueue := record ▸ loose.pendingRecvframeQueue
  stray recv inside := loose.stray recv (stray recv inside)

theorem mem_linked {lists : Fin numSta → List Sta} {place index : Fin numSta} {other : Sta}
    (inside : other ∈ update lists place (lists place ++ [psta]) index) :
    other ∈ lists index ∨ other = psta ∧ index = place := by
  by_cases same : index = place
  · subst same
    rw [update_self] at inside
    rcases List.mem_append.mp inside with earlier | last
    · exact Or.inl earlier
    · exact Or.inr ⟨List.mem_singleton.mp last, rfl⟩
  · rw [update_of_ne same] at inside
    exact Or.inl inside

end

namespace TableInvariant

variable {adapter : Adapter Sta Xmit Recv}

theorem lookup (sound : TableInvariant adapter) (mac : MacAddr) :
    (∃ psta, adapter.getStainfo mac = some psta ∧ adapter.Hashed psta ∧ (adapter.stainfo psta).hwaddr = mac) ↔
        ∃ psta, adapter.Hashed psta ∧ (adapter.stainfo psta).hwaddr = mac := by
  constructor
  · rintro ⟨psta, -, hashed, addr⟩
    exact ⟨psta, hashed, addr⟩
  · rintro ⟨psta, ⟨index, inside⟩, rfl⟩
    have own := sound.found index psta inside
    have place := sound.placed index psta inside
    rw [getStainfo, own, place]
    cases first : (adapter.staHash index).find?
        fun other => (adapter.stainfo other).hwaddr = (adapter.stainfo psta).hwaddr with
    | none =>
      have missed := List.find?_eq_none.mp first psta inside
      simp at missed
    | some other =>
      exact ⟨other, rfl, ⟨index, List.mem_of_find?_eq_some first⟩, by simpa using List.find?_some first⟩

theorem nodup_staHash (sound : TableInvariant adapter) (index : Fin numSta) :
    (adapter.staHash index).Nodup := by
  refine List.nodup_iff_count_le_one.mpr fun psta => ?_
  have part := Finset.single_le_sum (f := fun index => (adapter.staHash index).count psta)
    (fun _ _ => Nat.zero_le _) (Finset.mem_univ index)
  have := sound.once psta
  omega

theorem not_free (sound : TableInvariant adapter) (hashed : adapter.Hashed psta) :
    adapter.freeStaQueue.count psta = 0 ∧ ∑ index, (adapter.staHash index).count psta = 1 := by
  obtain ⟨index, inside⟩ := hashed
  have part := Finset.single_le_sum (f := fun index => (adapter.staHash index).count psta)
    (fun _ _ => Nat.zero_le _) (Finset.mem_univ index)
  have := List.count_pos_iff.mpr inside
  have := sound.once psta
  omega

theorem allocStainfo (sound : TableInvariant adapter) {hwaddr : MacAddr}
    (own : lookupAddr hwaddr = hwaddr) : TableInvariant (adapter.allocStainfo hwaddr).2 := by
  cases queued : adapter.freeStaQueue with
  | nil =>
    have same : (adapter.allocStainfo hwaddr).2 = adapter := by
      simp only [Adapter.allocStainfo, queued]
    rwa [same]
  | cons psta rest =>
    have loose := sound.unreferenced psta (queued ▸ List.mem_cons_self)
    have lost : (adapter.stainfo psta).defragQ ++
        (List.finRange 16).flatMap (adapter.stainfo psta).pendingRecvframeQueue = [] := by
      simp [loose.defragQ, loose.pendingRecvframeQueue]
    have unused := sound.once psta
    rw [queued, List.count_cons_self] at unused
    have fresh : psta ∉ rest := List.count_eq_zero.mp (by omega)
    have unhashed : ∀ index, psta ∉ adapter.staHash index := by
      intro index inside
      have := (sound.not_free ⟨index, inside⟩).2
      omega
    have after : (adapter.allocStainfo hwaddr).2 = { adapter with
        freeStaQueue := rest
        stainfo := update adapter.stainfo psta (.initial hwaddr)
        staHash := update adapter.staHash (wifiMacHash hwaddr)
          (adapter.staHash (wifiMacHash hwaddr) ++ [psta])
        asocStaCount := adapter.asocStaCount + 1 } := by
      simp only [Adapter.allocStainfo, queued, lost, List.map_nil, List.append_nil]
    rw [after]
    constructor
    case once =>
      intro other
      have moved := sum_update_add (List.count other) adapter.staHash (wifiMacHash hwaddr)
        (adapter.staHash (wifiMacHash hwaddr) ++ [psta])
      have known := sound.once other
      rw [queued, List.count_cons] at known
      rw [List.count_append, List.count_singleton] at moved
      dsimp only
      omega
    case placed =>
      intro index other inside
      rcases mem_linked inside with earlier | ⟨same, place⟩
      · have different : other ≠ psta := fun same => unhashed index (same ▸ earlier)
        simpa only [update_of_ne different] using sound.placed index other earlier
      · dsimp only
        rw [same, place, update_self]
        rfl
    case found =>
      intro index other inside
      rcases mem_linked inside with earlier | ⟨same, place⟩
      · have different : other ≠ psta := fun same => unhashed index (same ▸ earlier)
        simpa only [update_of_ne different] using sound.found index other earlier
      · dsimp only
        rw [same, update_self]
        exact own
    case counted =>
      have moved := sum_update_add (fun list : List Sta => (list.length : Int)) adapter.staHash
        (wifiMacHash hwaddr) (adapter.staHash (wifiMacHash hwaddr) ++ [psta])
      have known := sound.counted
      rw [List.length_append, List.length_singleton, Nat.cast_add] at moved
      dsimp only
      omega
    case inRange => exact sound.inRange
    case stray => exact sound.stray
    case unreferenced =>
      intro other inside
      have different : other ≠ psta := fun same => fresh (same ▸ inside)
      have known := sound.unreferenced other (queued ▸ List.mem_cons_of_mem _ inside)
      exact known.keep (update_of_ne different ..) (fun _ => id) id id fun _ => id

theorem freeStainfo (sound : TableInvariant adapter) (hashed : adapter.Hashed psta)
    (can : adapter.CanFree psta) : TableInvariant (adapter.freeStainfo psta) := by
  have freed := freeStainfo_freed adapter psta
  obtain ⟨unused, used⟩ := sound.not_free hashed
  have record : ∀ {other}, other ≠ psta →
      (adapter.freeStainfo psta).stainfo other = adapter.stainfo other := freed.others _
  constructor
  case once =>
    intro other
    have known := sound.once other
    rw [freed.freeStaQueue, freed.staHash, List.count_append]
    by_cases same : other = psta
    · subst same
      simp only [count_unlink, if_true, Finset.sum_const_zero]
      rw [unused, List.count_singleton_self]
      rfl
    · have last : [psta].count other = 0 := List.count_eq_zero.mpr (by simpa using same)
      simp only [count_unlink, if_neg same]
      omega
  case placed =>
    intro index other inside
    rw [freed.staHash] at inside
    obtain ⟨earlier, different⟩ := mem_unlink.mp inside
    rw [record different]
    exact sound.placed index other earlier
  case found =>
    intro index other inside
    rw [freed.staHash] at inside
    obtain ⟨earlier, different⟩ := mem_unlink.mp inside
    rw [record different]
    exact sound.found index other earlier
  case counted =>
    have lengths : ∑ index, (((adapter.freeStainfo psta).staHash index).length : Int) +
        ∑ index, ((adapter.staHash index).count psta : Int) =
          ∑ index, ((adapter.staHash index).length : Int) := by
      rw [freed.staHash, ← Finset.sum_add_distrib]
      refine Finset.sum_congr rfl fun index _ => ?_
      rw [← Nat.cast_add, length_unlink]
    have one : ∑ index, ((adapter.staHash index).count psta : Int) = 1 := by exact_mod_cast used
    rw [freed.asocStaCount, sound.counted]
    omega
  case inRange =>
    intro index inside
    rw [freed.touched] at inside
    rcases List.mem_append.mp inside with earlier | last
    · exact sound.inRange index earlier
    · rw [List.mem_singleton.mp last]
      exact aidIndex_inRange.mpr can.associated
  case stray => rw [freed.stray, sound.stray, can.defragQ, List.map_nil, List.append_nil]
  case unreferenced =>
    intro other inside
    rw [freed.freeStaQueue] at inside
    have noStray : (adapter.freeStainfo psta).stray = [] := by
      rw [freed.stray, sound.stray, can.defragQ, List.map_nil, List.append_nil]
    by_cases same : other = psta
    · subst same
      exact
        { freed with
          staQueue := fun ac inside => (mem_unlink.mp (freed.staQueue ▸ inside)).2 rfl
          asocList := fun inside => (mem_unlink.mp (freed.asocList ▸ inside)).2 rfl
          authList := fun inside => (mem_unlink.mp (freed.authList ▸ inside)).2 rfl
          staPending := by simp [freed.servq]
          pendingRecvframeQueue := fun tid => by
            rw [freed.pendingRecvframeQueue]
            exact can.pendingRecvframeQueue tid
          stray := by simp [noStray] }
    · have earlier : other ∈ adapter.freeStaQueue := by simpa [same] using inside
      refine (sound.unreferenced other earlier).keep (record same) ?_ ?_ ?_ (by simp [noStray])
      · intro ac inside
        rw [freed.staQueue] at inside
        exact (mem_unlink.mp inside).1
      · intro inside
        exact (mem_unlink.mp (freed.asocList ▸ inside)).1
      · intro inside
        exact (mem_unlink.mp (freed.authList ▸ inside)).1

end TableInvariant

theorem hashed_freeStainfo (adapter : Adapter Sta Xmit Recv) (psta other : Sta) :
    (adapter.freeStainfo psta).Hashed other ↔ adapter.Hashed other ∧ other ≠ psta := by
  rw [Hashed, (freeStainfo_freed adapter psta).staHash]
  constructor
  · rintro ⟨index, inside⟩
    exact ⟨⟨index, (mem_unlink.mp inside).1⟩, (mem_unlink.mp inside).2⟩
  · rintro ⟨⟨index, inside⟩, different⟩
    exact ⟨index, mem_unlink.mpr ⟨inside, different⟩⟩

structure FreeingAll (pbcmcStainfo : Option Sta) (adapter : Adapter Sta Xmit Recv) : Prop where
  sound : TableInvariant adapter
  can : ∀ psta, adapter.Hashed psta → pbcmcStainfo ≠ some psta → adapter.CanFree psta

namespace FreeingAll

variable {pbcmcStainfo : Option Sta} {adapter : Adapter Sta Xmit Recv}

theorem freeUnlessBcmc (freeing : FreeingAll pbcmcStainfo adapter) (hashed : adapter.Hashed psta) :
    FreeingAll pbcmcStainfo (adapter.freeUnlessBcmc pbcmcStainfo psta) := by
  rw [Adapter.freeUnlessBcmc]
  split
  · exact freeing
  next other =>
    refine ⟨freeing.sound.freeStainfo hashed (freeing.can psta hashed other), ?_⟩
    intro left stays notBcmc
    obtain ⟨earlier, different⟩ := (hashed_freeStainfo adapter psta left).mp stays
    have can := freeing.can left earlier notBcmc
    have record := (freeStainfo_freed adapter psta).others left different
    exact
      { associated := record ▸ can.associated
        defragQ := record ▸ can.defragQ
        pendingRecvframeQueue := record ▸ can.pendingRecvframeQueue }

theorem foldl_freeUnlessBcmc {records : List Sta} (freeing : FreeingAll pbcmcStainfo adapter)
    (hashed : ∀ psta ∈ records, adapter.Hashed psta) (once : records.Nodup) :
    FreeingAll pbcmcStainfo (records.foldl (Adapter.freeUnlessBcmc pbcmcStainfo) adapter) := by
  induction records generalizing adapter with
  | nil => exact freeing
  | cons psta rest ih =>
    rw [List.nodup_cons] at once
    refine ih (freeing.freeUnlessBcmc (hashed psta List.mem_cons_self)) ?_ once.2
    intro later inside
    have stays := hashed later (List.mem_cons_of_mem _ inside)
    rw [Adapter.freeUnlessBcmc]
    split
    · exact stays
    · exact (hashed_freeStainfo adapter psta later).mpr
        ⟨stays, fun same => once.1 (same ▸ inside)⟩

theorem foldl_staHash (indices : List (Fin numSta)) (freeing : FreeingAll pbcmcStainfo adapter) :
    FreeingAll pbcmcStainfo (indices.foldl (fun adapter index =>
      (adapter.staHash index).foldl (Adapter.freeUnlessBcmc pbcmcStainfo) adapter) adapter) := by
  induction indices generalizing adapter with
  | nil => exact freeing
  | cons index rest ih =>
    exact ih (freeing.foldl_freeUnlessBcmc (fun psta inside => ⟨index, inside⟩) (freeing.sound.nodup_staHash index))

end FreeingAll

theorem TableInvariant.step {before after : Adapter Sta Xmit Recv} {action : TableAction Sta}
    (sound : TableInvariant before) (condition : before.TableCondition action)
    (stepped : (tableSystem Sta Xmit Recv).step before action after) : TableInvariant after := by
  cases action with
  | allocStainfo hwaddr =>
    rw [show after = _ from stepped]
    exact sound.allocStainfo condition
  | freeStainfo psta =>
    obtain ⟨hashed, rfl⟩ := stepped
    exact sound.freeStainfo hashed condition
  | freeAllStainfo =>
    rw [show after = _ from stepped, freeAllStainfo]
    split
    · exact sound
    next several =>
      exact (FreeingAll.foldl_staHash _ ⟨sound, condition.resolve_left several⟩).sound
  | other =>
    have other : OtherCode before after := stepped
    exact
      { once := by rw [other.freeStaQueue, other.staHash]; exact sound.once
        placed := by
          intro index psta inside
          rw [other.hwaddr]
          exact sound.placed index psta (other.staHash ▸ inside)
        found := by
          intro index psta inside
          rw [other.hwaddr]
          exact sound.found index psta (other.staHash ▸ inside)
        counted := by rw [other.asocStaCount, other.staHash]; exact sound.counted
        inRange := by rw [other.touched]; exact sound.inRange
        stray := List.eq_nil_iff_forall_not_mem.mpr fun link inside => by
          simpa [sound.stray] using other.stray link inside
        unreferenced := by
          intro psta inside
          rw [other.freeStaQueue] at inside
          exact other.free psta inside (sound.unreferenced psta inside) }

theorem TableInvariant.start
    (starts : (tableSystem Sta Xmit Recv).initial adapter) : TableInvariant adapter := by
  obtain ⟨free, empty, count, stray, touched⟩ := starts
  exact
    { once := by simp [free, empty]
      placed := by simp [empty]
      found := by simp [empty]
      counted := by simp [empty, count]
      inRange := by simp [touched]
      stray
      unreferenced := fun psta _ => (free psta).2 }

theorem TableInvariant.tableSound
    (sound : TableInvariant adapter) : TableSound adapter where
  __ := sound
  lookup := sound.lookup

theorem canFree_of_tableSound
    (after : TableSound (adapter.freeStainfo psta)) : adapter.CanFree psta := by
  have freed := freeStainfo_freed adapter psta
  have loose := after.unreferenced psta (by simp [freed.freeStaQueue])
  refine ⟨aidIndex_inRange.mp (after.inRange _ (by simp [freed.touched])), ?_, ?_⟩
  · refine List.eq_nil_iff_forall_not_mem.mpr fun recv inside => loose.stray recv ?_
    rw [freed.stray]
    exact List.mem_append_right _ (List.mem_map_of_mem inside)
  · intro tid
    rw [← freed.pendingRecvframeQueue]
    exact loose.pendingRecvframeQueue tid

/-- The table is sound in every state of every run in which the records are for stations or
for broadcasts, and those that are freed have an association and no received frames. In each
of these states `free_stainfo` needs that for a table that is sound afterwards. -/
theorem staTable_sound (Sta Xmit Recv : Type) [DecidableEq Sta] (adapter : Adapter Sta Xmit Recv)
    (reached : ((tableSystem Sta Xmit Recv).restrict TableCondition).Reachable adapter) :
    TableSound adapter ∧ ∀ psta, adapter.Hashed psta →
      (TableSound (adapter.freeStainfo psta) ↔ adapter.CanFree psta) := by
  have sound : TableInvariant adapter := by
    refine reached.invariant (fun _ starts => .start starts) ?_
    intro before action after sound stepped
    exact sound.step stepped.1 stepped.2
  refine ⟨sound.tableSound, fun psta hashed => ⟨canFree_of_tableSound, fun can => ?_⟩⟩
  exact (sound.freeStainfo hashed can).tableSound

/-- `_init_sta_priv`, for so many records. -/
def start {Sta Xmit Recv : Type} (records : List Sta) : Adapter Sta Xmit Recv where
  stainfo := fun _ => .initial (Vector.replicate 6 0)
  attrib := fun _ => ⟨none, Vector.replicate 6 0, 0, false⟩
  freeStaQueue := records
  staHash := fun _ => []
  asocStaCount := 0
  asocList := []
  authList := []
  staAid := fun _ => none
  staDzBitmap := 0
  timBitmap := 0
  staQueue := fun _ => []
  accnt := fun _ => 0
  freeXmitQueue := []
  freeXmitframeCnt := 0
  held := []
  stray := []
  touched := []

theorem start_initial : (tableSystem Bool Unit Unit).initial (start [false, true]) := by
  refine ⟨fun psta => ⟨by cases psta <;> decide, ?_⟩, fun _ => rfl, rfl, rfl, rfl⟩
  constructor <;> simp [start, StaRecord.initial]

def accessPoint : MacAddr := #v[0, 0x0c, 0x43, 0x28, 0x60, 0x01]

theorem staTable_sound_association :
    ∃ adapter : Adapter Bool Unit Unit, adapter.touched = [0] ∧ TableSound adapter := by
  let allocated := ((start [false, true] : Adapter Bool Unit Unit).allocStainfo accessPoint).2
  let associated := allocated.modify false fun record => { record with aid := 1 }
  refine ⟨associated.freeStainfo false, by decide, ?_⟩
  have reached : ((tableSystem Bool Unit Unit).restrict TableCondition).Reachable associated := by
    refine .next .other (.next (.allocStainfo accessPoint) (.initial start_initial)
      ⟨show lookupAddr accessPoint = accessPoint by decide, rfl⟩) ⟨trivial, ?_⟩
    refine ⟨rfl, rfl, rfl, fun psta => by cases psta <;> rfl, fun _ => id, rfl, ?_⟩
    intro psta inside loose
    refine loose.keep ?_ (fun _ => id) id id fun _ => id
    cases List.mem_singleton.mp inside
    rfl
  refine ((staTable_sound Bool Unit Unit associated reached).2 false ?_).mpr ?_
  · exact ⟨wifiMacHash accessPoint, by decide⟩
  · exact ⟨by decide, rfl, fun _ => rfl⟩

/-- A station whose record is freed before it has an association id: `sta_aid` is read at the
index 0xffffffff. -/
theorem staTable_sound_fails : ∃ adapter : Adapter Bool Unit Unit,
      (tableSystem Bool Unit Unit).Reachable adapter ∧ ¬ TableSound adapter := by
  let allocated := ((start [false, true] : Adapter Bool Unit Unit).allocStainfo accessPoint).2
  refine ⟨allocated.freeStainfo false, ?_, fun sound => ?_⟩
  · refine .next (.freeStainfo false) (.next (.allocStainfo accessPoint) (.initial start_initial)
      rfl) ⟨⟨wifiMacHash accessPoint, ?_⟩, rfl⟩
    decide
  · have inside := sound.inRange 0xffffffff (by decide)
    revert inside
    decide

end Floid.Wifi.Adapter
