import Mathlib
import Floid.Wifi.JoinEvent

namespace Floid.Wifi

open Osk
open Function (update_of_ne update_self)

namespace Adapter

variable {Sta Xmit Recv : Type} [DecidableEq Sta] {adapter : Adapter Sta Xmit Recv}
  {psta other : Sta} {mac : MacAddr}

omit [DecidableEq Sta] in
theorem getStainfo_eq_some (found : adapter.getStainfo mac = some psta) :
    psta ∈ adapter.staHash (wifiMacHash (lookupAddr mac)) ∧ (adapter.stainfo psta).hwaddr = lookupAddr mac :=
  ⟨List.mem_of_find?_eq_some found, by simpa using List.find?_some found⟩

omit [DecidableEq Sta] in
theorem getStainfo_eq_none (absent : adapter.getStainfo mac = none)
    (hashed : psta ∈ adapter.staHash (wifiMacHash (lookupAddr mac))) :
    (adapter.stainfo psta).hwaddr ≠ lookupAddr mac := by
  simpa using List.find?_eq_none.mp absent psta hashed

theorem getStainfo_modify {change : StaRecord Xmit Recv → StaRecord Xmit Recv}
    (keeps : ∀ record, (change record).hwaddr = record.hwaddr) :
    (adapter.modify psta change).getStainfo mac = adapter.getStainfo mac := by
  have same : ∀ other, ((adapter.modify psta change).stainfo other).hwaddr =
      (adapter.stainfo other).hwaddr := by
    intro other
    by_cases own : other = psta
    · rw [own, modify_self, keeps]
    · rw [modify_other change own]
  simp only [getStainfo, same]
  rfl

theorem getStainfo_freeStainfo_ne : (adapter.freeStainfo psta).getStainfo mac ≠ some psta := by
  intro found
  have hashed := (getStainfo_eq_some found).1
  rw [(freeStainfo_freed adapter psta).staHash] at hashed
  simp [unlink] at hashed

variable {rest : List Sta}

theorem getStainfo_allocStainfo_some {hwaddr : MacAddr} (pool : adapter.freeStaQueue = psta :: rest)
    (found : (adapter.allocStainfo hwaddr).2.getStainfo mac = some other) :
    other = psta ∧ hwaddr = lookupAddr mac ∨
      other ≠ psta ∧ other ∈ adapter.staHash (wifiMacHash (lookupAddr mac)) ∧
        (adapter.stainfo other).hwaddr = lookupAddr mac := by
  obtain ⟨hashed, address⟩ := getStainfo_eq_some found
  simp only [allocStainfo, pool] at hashed address
  by_cases own : other = psta
  · rw [own, update_self] at address
    exact .inl ⟨own, address⟩
  · rw [update_of_ne own] at address
    refine .inr ⟨own, ?_, address⟩
    by_cases bucket : wifiMacHash (lookupAddr mac) = wifiMacHash hwaddr
    · rw [bucket, update_self] at hashed
      rw [bucket]
      simpa [own] using hashed
    · rwa [update_of_ne bucket] at hashed

theorem getStainfo_allocStainfo_self
    (pool : adapter.freeStaQueue = psta :: rest) (absent : adapter.getStainfo mac = none)
    (address : lookupAddr mac = mac) :
    (adapter.allocStainfo mac).2.getStainfo mac = some psta := by
  cases found : (adapter.allocStainfo mac).2.getStainfo mac with
  | some other =>
    obtain ⟨own, -⟩ | ⟨-, hashed, same⟩ := getStainfo_allocStainfo_some pool found
    · rw [own]
    · exact absurd same (getStainfo_eq_none absent hashed)
  | none =>
    have own : ((adapter.allocStainfo mac).2.stainfo psta).hwaddr ≠ lookupAddr mac :=
      getStainfo_eq_none found (by simp [allocStainfo, pool, address])
    simp [allocStainfo, pool, StaRecord.initial, address] at own

omit [DecidableEq Sta] in
theorem lookupAddr_lookupAddr (mac : MacAddr) : lookupAddr (lookupAddr mac) = lookupAddr mac := by
  by_cases multicast : isMcast mac
  · have address : lookupAddr mac = bcAddr := if_pos multicast
    rw [address]
    rfl
  · have address : lookupAddr mac = mac := if_neg multicast
    rw [address, address]

end Adapter

namespace ScanTable

variable {table : ScanTable} {fixed : Bool} {found : Option NetworkRef} {pwlan : NetworkRef}

@[simp]
theorem setFixed_scannedQueue : (table.setFixed fixed found).scannedQueue = table.scannedQueue := by
  cases found <;> rfl

@[simp]
theorem setFixed_freeBssPool : (table.setFixed fixed found).freeBssPool = table.freeBssPool := by
  cases found <;> rfl

@[simp]
theorem setFixed_numOfScanned : (table.setFixed fixed found).numOfScanned = table.numOfScanned := by
  cases found <;> rfl

theorem setFixed_fixed : ((table.setFixed fixed found).networks pwlan).fixed =
    if found = some pwlan then fixed else (table.networks pwlan).fixed := by
  cases found with
  | none => rfl
  | some other =>
    by_cases own : other = pwlan
    · simp [setFixed, modify, own]
    · simp [setFixed, modify, own, update_of_ne (Ne.symm own)]

@[simp]
theorem setFixed_network :
    ((table.setFixed fixed found).networks pwlan).network = (table.networks pwlan).network := by
  cases found with
  | none => rfl
  | some other =>
    by_cases own : pwlan = other
    · simp [setFixed, modify, own]
    · simp [setFixed, modify, update_of_ne own]

@[simp]
theorem findNetwork_setFixed (addr : MacAddr) :
    (table.setFixed fixed found).findNetwork addr = table.findNetwork addr := by
  simp [findNetwork]

theorem findNetwork_eq_some {addr : MacAddr} (lookup : table.findNetwork addr = some pwlan) :
    pwlan ∈ table.scannedQueue ∧ (table.networks pwlan).network.macAddress = addr := by
  unfold findNetwork at lookup
  split at lookup
  · cases lookup
  · exact ⟨List.mem_of_find?_eq_some lookup, by simpa using List.find?_some lookup⟩

end ScanTable

namespace Mlme

variable {Sta Xmit Recv : Type} [DecidableEq Sta]

structure KeysReset (security : JoinSecurity) (keys : StaKeys) : Prop where
  binstallGrpkey : security.binstallGrpkey = false
  busetkipkey : security.busetkipkey = false
  bgrpkeyHandshake : security.bgrpkeyHandshake = false
  blocked : keys.ieee8021xBlocked = true
  privacy : keys.dot118021XPrivacy = security.dot11PrivacyAlgrthm
  uncstKey : keys.dot118021xUncstKey = 0
  rxmickey : keys.dot11tkiprxmickey = 0
  txmickey : keys.dot11tkiptxmickey = 0
  txpn : keys.dot11txpn = 0
  rxpn : keys.dot11rxpn = 0

def HasStation (mlme : Mlme Sta Xmit Recv) (stapriv : Adapter Sta Xmit Recv) (pnetwork : WlanNetwork) : Prop :=
  ∃ psta, stapriv.getStainfo pnetwork.network.macAddress = some psta ∧
    (stapriv.stainfo psta).aid = pnetwork.joinRes ∧
    (mlme.security.dot11AuthAlgrthm = .ieee8021X → KeysReset mlme.security (mlme.staKeys psta))

structure Completed (pnetwork : WlanNetwork) (after : Mlme Sta Xmit Recv) : Prop where
  curNetwork : ∀ offset < pnetwork.network.sz.toNat,
    after.curNetwork.network.byte offset = pnetwork.network.byte offset
  aid : after.curNetwork.aid = pnetwork.joinRes
  mode : pnetwork.network.infrastructureMode = ndisIbss ∧ after.checkFwstate adhocState ∨
    pnetwork.network.infrastructureMode = ndisInfrastructure ∧
      after.checkFwstate stationState ∧ after.checkFwstate fwLinked ∧
      after.HasStation after.stapriv pnetwork
  underLinking : after.checkFwstate fwUnderLinking = false
  assocTimer : after.assocTimer = none

structure LeftAlone (before after : Mlme Sta Xmit Recv) : Prop where
  curNetwork : after.curNetwork = before.curNetwork
  linked : after.checkFwstate fwLinked = before.checkFwstate fwLinked
  station : before.checkFwstate fwLinked → ∀ psta,
    before.stapriv.getStainfo before.curAddr = some psta → after.stapriv.getStainfo before.curAddr = some psta ∧
      after.stapriv.stainfo psta = before.stapriv.stainfo psta ∧
      after.staKeys psta = before.staKeys psta
  marked : before.checkFwstate fwLinked → ∀ pwlan,
    before.table.findNetwork before.curAddr = some pwlan → pwlan ∈ after.table.scannedQueue ∧
      (after.table.networks pwlan).fixed = (before.table.networks pwlan).fixed

def AllOrNothing (before : Mlme Sta Xmit Recv) (pnetwork : WlanNetwork) (after : Mlme Sta Xmit Recv) : Prop :=
  after.released + before.taken = after.taken + before.released ∧
    (Completed pnetwork after ∨ LeftAlone before after)

def NothingHeld (mlme : Mlme Sta Xmit Recv) : Prop :=
  mlme.stapriv.getStainfo mlme.curAddr = none ∧
    ∀ pwlan, mlme.table.findNetwork mlme.curAddr = some pwlan → (mlme.table.networks pwlan).fixed = false

def MovesLink (mlme : Mlme Sta Xmit Recv) (pnetwork : WlanNetwork) : Prop :=
  mlme.checkFwstate fwLinked ∧ mlme.theSameMacaddr pnetwork = false

instance (mlme : Mlme Sta Xmit Recv) (pnetwork : WlanNetwork) : Decidable (mlme.MovesLink pnetwork) :=
  inferInstanceAs (Decidable (_ ∧ _))

def NothingLost (mlme : Mlme Sta Xmit Recv) (pnetwork : WlanNetwork) : Prop :=
  mlme.MovesLink pnetwork → mlme.NothingHeld

def CannotJoin (mlme : Mlme Sta Xmit Recv) (pnetwork : WlanNetwork) : Prop :=
  mlme.table.findNetwork pnetwork.network.macAddress = none ∨
    mlme.checkFwstate stationState ∧ mlme.stapriv.getStainfo pnetwork.network.macAddress = none ∧
      mlme.stapriv.freeStaQueue = [] ∧
      (mlme.MovesLink pnetwork → mlme.stapriv.getStainfo mlme.curAddr = none)

def staprivFreed (mlme : Mlme Sta Xmit Recv) (pnetwork : WlanNetwork) : Adapter Sta Xmit Recv :=
  if mlme.MovesLink pnetwork then
    match mlme.stapriv.getStainfo mlme.curAddr with
    | none => mlme.stapriv
    | some psta => mlme.stapriv.freeStainfo psta
  else mlme.stapriv

def CanComplete (mlme : Mlme Sta Xmit Recv) (pnetwork : WlanNetwork) : Prop :=
  pnetwork.network.infrastructureMode = ndisIbss ∨
    pnetwork.network.infrastructureMode = ndisInfrastructure ∧
      if mlme.checkFwstate stationState then
        Adapter.lookupAddr pnetwork.network.macAddress = pnetwork.network.macAddress ∨
          (mlme.staprivFreed pnetwork).getStainfo pnetwork.network.macAddress ≠ none
      else mlme.HasStation (mlme.staprivFreed pnetwork) pnetwork

def AlreadySo (mlme : Mlme Sta Xmit Recv) (pnetwork : WlanNetwork) : Prop :=
  mlme.curNetwork.network.memcpy pnetwork.network pnetwork.network.sz.toNat = mlme.curNetwork.network ∧
    mlme.curNetwork.aid = pnetwork.joinRes ∧
    (mlme.checkFwstate fwLinked ↔ pnetwork.network.infrastructureMode = ndisInfrastructure) ∧
    mlme.NothingLost pnetwork

structure JoinMeets (hasWpsIe : WlanBssidEx → Bool) (mlme : Mlme Sta Xmit Recv)
    (pnetwork : WlanNetwork) : Prop where
  fits : pnetwork.network.sz.toNat ≤ bssidExSz
  cannot : 0 < pnetwork.joinRes.toInt → mlme.checkFwstate fwUnderLinking →
    mlme.CannotJoin pnetwork → mlme.NothingLost pnetwork
  completes : 0 < pnetwork.joinRes.toInt → mlme.checkFwstate fwUnderLinking →
    ¬ mlme.CannotJoin pnetwork → mlme.CanComplete pnetwork ∨ mlme.AlreadySo pnetwork
  retries : ¬ 0 < pnetwork.joinRes.toInt → pnetwork.joinRes ≠ -4 →
    match mlme.select hasWpsIe with
    | .leave _ => False
    | .rejoin _ => LeftAlone mlme mlme.freeAssocResources
    | _ => True

variable {mlme : Mlme Sta Xmit Recv} {pnetwork : WlanNetwork}

theorem freeCurrent_eq (mlme : Mlme Sta Xmit Recv) : mlme.freeCurrent =
      { mlme with
        table := mlme.table.setFixed false (mlme.table.findNetwork mlme.curAddr)
        stapriv :=
          match mlme.stapriv.getStainfo mlme.curAddr with
          | none => mlme.stapriv
          | some psta => mlme.stapriv.freeStainfo psta } := by
  unfold freeCurrent
  cases mlme.stapriv.getStainfo mlme.curAddr <;> rfl

def MarksTarget (mlme : Mlme Sta Xmit Recv) (pnetwork : WlanNetwork) : Prop :=
  mlme.checkFwstate stationState ∧ ¬ (mlme.checkFwstate fwLinked ∧ mlme.theSameMacaddr pnetwork)

instance (mlme : Mlme Sta Xmit Recv) (pnetwork : WlanNetwork) : Decidable (mlme.MarksTarget pnetwork) :=
  inferInstanceAs (Decidable (_ ∧ _))

def joinTable (mlme : Mlme Sta Xmit Recv) (pnetwork : WlanNetwork) : ScanTable :=
  let table :=
    if mlme.MovesLink pnetwork then
      mlme.table.setFixed false (mlme.table.findNetwork mlme.curAddr)
    else mlme.table
  if mlme.MarksTarget pnetwork then
    table.setFixed true (mlme.table.findNetwork pnetwork.network.macAddress)
  else table

theorem findTargetWlan_eq (mlme : Mlme Sta Xmit Recv) (pnetwork : WlanNetwork) : mlme.findTargetWlan pnetwork =
      (mlme.table.findNetwork pnetwork.network.macAddress,
        { mlme with table := mlme.joinTable pnetwork, stapriv := mlme.staprivFreed pnetwork }) := by
  by_cases moves : mlme.MovesLink pnetwork
  · have other : ¬ (mlme.checkFwstate fwLinked = true ∧ mlme.theSameMacaddr pnetwork = true) := by
      simp [moves.2]
    rw [findTargetWlan, if_neg other, if_pos moves.1, staprivFreed, if_pos moves, freeCurrent_eq]
    simp only [joinTable, MarksTarget, moves, if_true, other, not_false_iff, and_true, ScanTable.findNetwork_setFixed]
    by_cases station : mlme.checkFwstate stationState
    · rw [if_pos station]
      exact congrArg _ (if_pos station)
    · rw [if_neg station]
      exact congrArg _ (if_neg station)
  · by_cases linked : mlme.checkFwstate fwLinked
    · have same : mlme.theSameMacaddr pnetwork = true := by
        cases same : mlme.theSameMacaddr pnetwork with
        | true => rfl
        | false => exact absurd ⟨linked, same⟩ moves
      have address : pnetwork.network.macAddress = mlme.curAddr := by
        simpa [theSameMacaddr] using same
      rw [findTargetWlan, if_pos ⟨linked, same⟩, staprivFreed, if_neg moves, address, joinTable,
        if_neg moves, if_neg fun both => both.2 ⟨linked, same⟩]
    · rw [findTargetWlan, if_neg (fun both => linked both.1), if_neg linked, staprivFreed, if_neg moves]
      simp only [joinTable, MarksTarget, moves, if_false, linked, Bool.false_eq_true, false_and, not_false_iff,
        and_true]
      by_cases station : mlme.checkFwstate stationState
      · simp only [station, if_true]
      · simp only [station, Bool.false_eq_true, if_false]

omit [DecidableEq Sta] in
theorem joinTable_fixed (mlme : Mlme Sta Xmit Recv) (pnetwork : WlanNetwork) (pwlan : NetworkRef) :
    ((mlme.joinTable pnetwork).networks pwlan).fixed =
      if mlme.MarksTarget pnetwork ∧ mlme.table.findNetwork pnetwork.network.macAddress = some pwlan then true
      else if mlme.MovesLink pnetwork ∧ mlme.table.findNetwork mlme.curAddr = some pwlan then false
      else (mlme.table.networks pwlan).fixed := by
  have first : ((if mlme.MovesLink pnetwork then
      mlme.table.setFixed false (mlme.table.findNetwork mlme.curAddr)
    else mlme.table).networks pwlan).fixed =
      if mlme.MovesLink pnetwork ∧ mlme.table.findNetwork mlme.curAddr = some pwlan then false
      else (mlme.table.networks pwlan).fixed := by
    by_cases moves : mlme.MovesLink pnetwork
    · rw [if_pos moves, ScanTable.setFixed_fixed]
      simp [moves]
    · simp [moves]
  unfold joinTable
  by_cases marks : mlme.MarksTarget pnetwork
  · rw [if_pos marks, ScanTable.setFixed_fixed, first]
    simp only [marks, true_and]
  · rw [if_neg marks, first]
    simp only [marks, false_and, if_false]

omit [DecidableEq Sta] in
theorem joinTable_frame (mlme : Mlme Sta Xmit Recv) (pnetwork : WlanNetwork) :
    (mlme.joinTable pnetwork).freeBssPool = mlme.table.freeBssPool ∧
      (mlme.joinTable pnetwork).scannedQueue = mlme.table.scannedQueue ∧
      (mlme.joinTable pnetwork).numOfScanned = mlme.table.numOfScanned ∧
      ∀ pwlan, ((mlme.joinTable pnetwork).networks pwlan).network = (mlme.table.networks pwlan).network := by
  unfold joinTable
  by_cases moves : mlme.MovesLink pnetwork <;>
    by_cases marks : mlme.MarksTarget pnetwork <;> simp [moves, marks]

structure Remarked (mlme : Mlme Sta Xmit Recv) (pnetwork : WlanNetwork) (table : ScanTable) : Prop where
  scannedQueue : table.scannedQueue = mlme.table.scannedQueue
  stays : mlme.checkFwstate fwLinked → ¬ mlme.MovesLink pnetwork → table = mlme.table
  fixed : ∀ pwlan, (mlme.table.networks pwlan).network.macAddress ≠ pnetwork.network.macAddress →
    (table.networks pwlan).fixed =
      if mlme.MovesLink pnetwork ∧ mlme.table.findNetwork mlme.curAddr = some pwlan then false
      else (mlme.table.networks pwlan).fixed

omit [DecidableEq Sta] in
theorem joinTable_remarked (mlme : Mlme Sta Xmit Recv) (pnetwork : WlanNetwork) :
    mlme.Remarked pnetwork (mlme.joinTable pnetwork) := by
  refine ⟨(joinTable_frame mlme pnetwork).2.1, fun linked stays => ?_, fun pwlan other => ?_⟩
  · have same : mlme.theSameMacaddr pnetwork = true := by
      cases same : mlme.theSameMacaddr pnetwork with
      | true => rfl
      | false => exact absurd ⟨linked, same⟩ stays
    rw [joinTable, if_neg stays, if_neg fun both => both.2 ⟨linked, same⟩]
  · rw [joinTable_fixed, if_neg]
    exact fun target => other (ScanTable.findNetwork_eq_some target.2).2

inductive TargetSta (stapriv : Adapter Sta Xmit Recv) (staKeys : Sta → StaKeys) (mac : MacAddr) :
    Sta → Adapter Sta Xmit Recv → (Sta → StaKeys) → Prop where
  | found {psta : Sta} (lookup : stapriv.getStainfo mac = some psta) :
      TargetSta stapriv staKeys mac psta stapriv staKeys
  | made {psta : Sta} {rest : List Sta} (absent : stapriv.getStainfo mac = none)
      (pool : stapriv.freeStaQueue = psta :: rest) :
      TargetSta stapriv staKeys mac psta (stapriv.allocStainfo mac).2
        (Function.update staKeys psta .initial)

theorem findTargetSta_eq (mlme : Mlme Sta Xmit Recv) (pnetwork : WlanNetwork) :
    mlme.checkFwstate stationState = false ∧ mlme.findTargetSta pnetwork = (true, mlme) ∨
      mlme.checkFwstate stationState = true ∧
        (mlme.stapriv.getStainfo pnetwork.network.macAddress = none ∧
            mlme.stapriv.freeStaQueue = [] ∧ mlme.findTargetSta pnetwork = (false, mlme) ∨
          ∃ psta stapriv staKeys,
            TargetSta mlme.stapriv mlme.staKeys pnetwork.network.macAddress psta stapriv staKeys ∧
            mlme.findTargetSta pnetwork =
              (true, { mlme with stapriv, staKeys }.updateTargetSta pnetwork.joinRes psta)) := by
  cases station : mlme.checkFwstate stationState with
  | false => exact .inl ⟨rfl, by simp [findTargetSta, station]⟩
  | true =>
    refine .inr ⟨rfl, ?_⟩
    cases lookup : mlme.stapriv.getStainfo pnetwork.network.macAddress with
    | some psta =>
      exact .inr ⟨psta, _, _, .found lookup, by simp [findTargetSta, station, lookup]⟩
    | none =>
      cases pool : mlme.stapriv.freeStaQueue with
      | nil =>
        refine .inl ⟨rfl, rfl, ?_⟩
        simp [findTargetSta, station, lookup, allocStainfo, Adapter.allocStainfo, pool]
      | cons psta rest =>
        refine .inr ⟨psta, _, _, .made lookup pool, ?_⟩
        simp [findTargetSta, station, lookup, allocStainfo, Adapter.allocStainfo, pool]

theorem staprivFreed_stays (stays : ¬ mlme.MovesLink pnetwork) :
    mlme.staprivFreed pnetwork = mlme.stapriv := if_neg stays

theorem cannotJoin_iff : mlme.CannotJoin pnetwork ↔ mlme.table.findNetwork pnetwork.network.macAddress = none ∨
      mlme.checkFwstate stationState ∧
        (mlme.staprivFreed pnetwork).getStainfo pnetwork.network.macAddress = none ∧
        (mlme.staprivFreed pnetwork).freeStaQueue = [] := by
  unfold CannotJoin staprivFreed
  by_cases moves : mlme.MovesLink pnetwork
  · cases held : mlme.stapriv.getStainfo mlme.curAddr with
    | none => simp [moves]
    | some psta => simp [moves, (Adapter.freeStainfo_freed mlme.stapriv psta).freeStaQueue]
  · simp [moves]

theorem joined_cannot (under : mlme.checkFwstate fwUnderLinking) (cannot : mlme.CannotJoin pnetwork) :
    mlme.joined pnetwork =
      { mlme with
        retry := 0
        table := mlme.joinTable pnetwork
        stapriv := mlme.staprivFreed pnetwork } := by
  have wlan := findTargetWlan_eq { mlme with retry := 0 } pnetwork
  have linking : { mlme with retry := 0 }.checkFwstate fwUnderLinking = true := under
  simp only [joined, linking, if_true, wlan]
  obtain absent | ⟨station, none, pool⟩ := cannotJoin_iff.mp cannot
  · simp only [absent]
    rfl
  · cases target : mlme.table.findNetwork pnetwork.network.macAddress with
    | none => rfl
    | some ptargetWlan =>
      obtain ⟨other, -⟩ | ⟨-, ⟨-, -, failed⟩ | ⟨psta, _, _, sta, -⟩⟩ := findTargetSta_eq
          { mlme with
            retry := 0
            table := mlme.joinTable pnetwork
            stapriv := mlme.staprivFreed pnetwork } pnetwork
      · exact absurd (other.symm.trans station) (by decide)
      · dsimp only
        generalize asked : findTargetSta (_ : Mlme Sta Xmit Recv) pnetwork = answer
        cases asked.symm.trans failed
        rfl
      · cases sta with
        | found lookup => cases none.symm.trans lookup
        | made _ some => cases pool.symm.trans some

inductive Seated (mlme : Mlme Sta Xmit Recv) (pnetwork : WlanNetwork) :
    Adapter Sta Xmit Recv → (Sta → StaKeys) → JoinSecurity → Prop where
  | unneeded (other : mlme.checkFwstate stationState = false) :
      Seated mlme pnetwork (mlme.staprivFreed pnetwork) mlme.staKeys mlme.security
  | station {psta : Sta} {stapriv : Adapter Sta Xmit Recv} {staKeys : Sta → StaKeys}
      (state : mlme.checkFwstate stationState = true)
      (sta : TargetSta (mlme.staprivFreed pnetwork) mlme.staKeys pnetwork.network.macAddress psta stapriv staKeys) :
      Seated mlme pnetwork
        (stapriv.modify psta fun record => { record with aid := pnetwork.joinRes, qosOption := true })
        (Function.update staKeys psta ((staKeys psta).joined mlme.security)) mlme.security.joined

theorem joined_can (under : mlme.checkFwstate fwUnderLinking) (can : ¬ mlme.CannotJoin pnetwork) :
    ∃ stapriv staKeys security, mlme.joined pnetwork =
        { mlme with
          retry := 0
          table := mlme.joinTable pnetwork
          stapriv, staKeys, security }.updateCurNetwork pnetwork ∧
      mlme.Seated pnetwork stapriv staKeys security := by
  have wlan := findTargetWlan_eq { mlme with retry := 0 } pnetwork
  have linking : { mlme with retry := 0 }.checkFwstate fwUnderLinking = true := under
  rw [cannotJoin_iff, not_or, not_and] at can
  obtain ⟨ptargetWlan, target⟩ := Option.ne_none_iff_exists'.mp can.1
  have same : ({ mlme with retry := 0 } : Mlme Sta Xmit Recv).staprivFreed pnetwork =
      mlme.staprivFreed pnetwork := rfl
  have marks : ({ mlme with retry := 0 } : Mlme Sta Xmit Recv).joinTable pnetwork =
      mlme.joinTable pnetwork := rfl
  simp only [joined, linking, if_true, wlan, target, same, marks]
  obtain ⟨other, passed⟩ | ⟨station, ⟨absent, pool, -⟩ | ⟨psta, stapriv, staKeys, sta, passed⟩⟩ :=
      findTargetSta_eq
        { mlme with
          retry := 0
          table := mlme.joinTable pnetwork
          stapriv := mlme.staprivFreed pnetwork } pnetwork
  · exact ⟨_, _, _, by rw [passed], .unneeded other⟩
  · exact absurd ⟨absent, pool⟩ (can.2 station)
  · exact ⟨_, _, _, by rw [passed]; rfl, .station station sta⟩

omit [DecidableEq Sta] in
theorem updateCurNetwork_eq (mlme : Mlme Sta Xmit Recv) (pnetwork : WlanNetwork) : mlme.updateCurNetwork pnetwork =
      { mlme with
        curNetwork :=
          { mlme.curNetwork with
            network := mlme.curNetwork.network.memcpy pnetwork.network pnetwork.network.sz.toNat
            aid := pnetwork.joinRes }
        fwState :=
          if pnetwork.network.infrastructureMode = ndisInfrastructure then
            stationState ||| fwLinked
          else if pnetwork.network.infrastructureMode = ndisIbss then adhocState
          else 0
        toJoin :=
          if pnetwork.network.infrastructureMode = ndisInfrastructure then false else mlme.toJoin
        assocTimer := none } := by
  by_cases infrastructure : pnetwork.network.infrastructureMode = ndisInfrastructure
  · simp [updateCurNetwork, infrastructure, checkFwstate, stationState, indicateConnect, setFwstate]
  · by_cases ibss : pnetwork.network.infrastructureMode = ndisIbss
    · simp [updateCurNetwork, ibss, checkFwstate, stationState, adhocState, ndisInfrastructure, ndisIbss]
    · simp [updateCurNetwork, infrastructure, ibss, checkFwstate]

omit [DecidableEq Sta] in
theorem MovesLink.address (moves : mlme.MovesLink pnetwork) : mlme.curAddr ≠ pnetwork.network.macAddress := by
  have other := moves.2
  simp only [theSameMacaddr, decide_eq_false_iff_not] at other
  exact fun same => other same.symm

theorem staprivFreed_moves {psta : Sta} (moves : mlme.MovesLink pnetwork)
    (held : mlme.stapriv.getStainfo mlme.curAddr = some psta) :
    mlme.staprivFreed pnetwork = mlme.stapriv.freeStainfo psta := by
  rw [staprivFreed, if_pos moves, held]

omit [DecidableEq Sta] in
theorem Remarked.marked_iff {table : ScanTable} (remarked : mlme.Remarked pnetwork table) :
    (mlme.checkFwstate fwLinked → ∀ pwlan, mlme.table.findNetwork mlme.curAddr = some pwlan →
      pwlan ∈ table.scannedQueue ∧ (table.networks pwlan).fixed = (mlme.table.networks pwlan).fixed) ↔
    (mlme.MovesLink pnetwork → ∀ pwlan, mlme.table.findNetwork mlme.curAddr = some pwlan →
      (mlme.table.networks pwlan).fixed = false) := by
  constructor
  · intro kept moves pwlan lookup
    have other : (mlme.table.networks pwlan).network.macAddress ≠ pnetwork.network.macAddress := by
      rw [(ScanTable.findNetwork_eq_some lookup).2]
      exact moves.address
    rw [← (kept moves.1 pwlan lookup).2, remarked.fixed pwlan other, if_pos ⟨moves, lookup⟩]
  · intro unmarked linked pwlan lookup
    rw [remarked.scannedQueue]
    refine ⟨(ScanTable.findNetwork_eq_some lookup).1, ?_⟩
    by_cases moves : mlme.MovesLink pnetwork
    · have other : (mlme.table.networks pwlan).network.macAddress ≠ pnetwork.network.macAddress := by
        rw [(ScanTable.findNetwork_eq_some lookup).2]
        exact moves.address
      rw [remarked.fixed pwlan other, if_pos ⟨moves, lookup⟩, unmarked moves pwlan lookup]
    · rw [remarked.stays linked moves]

theorem leftAlone_cannot : LeftAlone mlme { mlme with
      retry := 0
      table := mlme.joinTable pnetwork
      stapriv := mlme.staprivFreed pnetwork } ↔ mlme.NothingLost pnetwork := by
  have remarked := joinTable_remarked mlme pnetwork
  constructor
  · intro left moves
    refine ⟨?_, remarked.marked_iff.mp left.marked moves⟩
    cases held : mlme.stapriv.getStainfo mlme.curAddr with
    | none => rfl
    | some psta =>
      have kept := (left.station moves.1 psta held).1
      simp only [staprivFreed_moves moves held] at kept
      exact absurd kept Adapter.getStainfo_freeStainfo_ne
  · intro lost
    refine ⟨rfl, rfl, fun linked psta held => ?_, remarked.marked_iff.mpr fun moves => (lost moves).2⟩
    by_cases moves : mlme.MovesLink pnetwork
    · cases held.symm.trans (lost moves).1
    · simp only [staprivFreed_stays moves, held, and_self]

variable {security : JoinSecurity} {base stapriv : Adapter Sta Xmit Recv}
    {keys staKeys : Sta → StaKeys} {after : Mlme Sta Xmit Recv}

theorem keysReset_joined {keys : StaKeys} (ieee8021X : security.dot11AuthAlgrthm = .ieee8021X) :
    KeysReset security.joined (keys.joined security) := by
  constructor <;> simp [StaKeys.joined, JoinSecurity.joined, ieee8021X]

theorem JoinSecurity_joined_auth (security : JoinSecurity) :
    security.joined.dot11AuthAlgrthm = security.dot11AuthAlgrthm := by
  unfold JoinSecurity.joined
  split <;> rfl

theorem TargetSta.lookup {mac : MacAddr} {psta : Sta} (sta : TargetSta stapriv staKeys mac psta base keys) :
    (Adapter.lookupAddr mac = mac ∨ stapriv.getStainfo mac ≠ none) ↔ base.getStainfo mac = some psta := by
  cases sta with
  | found lookup => simp [lookup]
  | made absent pool =>
    simp only [absent, ne_eq, not_true, or_false]
    constructor
    · exact Adapter.getStainfo_allocStainfo_self pool absent
    · intro lookup
      obtain ⟨-, address⟩ | ⟨other, -⟩ := Adapter.getStainfo_allocStainfo_some pool lookup
      · exact address.symm
      · exact absurd rfl other

theorem TargetSta.only {mac : MacAddr} {psta other : Sta} (sta : TargetSta stapriv staKeys mac psta base keys)
    (found : base.getStainfo mac = some other) : other = psta := by
  cases sta with
  | found lookup => exact Option.some.inj (found.symm.trans lookup)
  | made absent pool =>
    obtain ⟨own, -⟩ | ⟨-, hashed, same⟩ := Adapter.getStainfo_allocStainfo_some pool found
    · exact own
    · exact absurd same (Adapter.getStainfo_eq_none absent hashed)

theorem getStainfo_seat (stapriv : Adapter Sta Xmit Recv) (psta : Sta) (joinRes : U32) (mac : MacAddr) :
    (stapriv.modify psta fun record =>
      { record with aid := joinRes, qosOption := true }).getStainfo mac =
      stapriv.getStainfo mac :=
  Adapter.getStainfo_modify fun _ => rfl

theorem Seated.hasStation (seated : mlme.Seated pnetwork stapriv staKeys security) (keys : after.staKeys = staKeys)
    (flags : after.security = security) :
    after.HasStation stapriv pnetwork ↔
      if mlme.checkFwstate stationState then
        Adapter.lookupAddr pnetwork.network.macAddress = pnetwork.network.macAddress ∨
          (mlme.staprivFreed pnetwork).getStainfo pnetwork.network.macAddress ≠ none
      else mlme.HasStation (mlme.staprivFreed pnetwork) pnetwork := by
  cases seated with
  | unneeded other =>
    simp only [other, Bool.false_eq_true, if_false]
    rw [HasStation, HasStation, flags, keys]
  | @station psta stapriv staKeys state sta =>
    rw [if_pos state, sta.lookup]
    constructor
    · rintro ⟨other, found, -⟩
      rw [getStainfo_seat] at found
      rw [found, sta.only found]
    · intro found
      refine ⟨psta, ?_, by simp, fun ieee8021X => ?_⟩
      · rwa [getStainfo_seat]
      · rw [flags, JoinSecurity_joined_auth] at ieee8021X
        rw [flags, keys, update_self]
        exact keysReset_joined ieee8021X

theorem completed_iff {table : ScanTable} (seated : mlme.Seated pnetwork stapriv staKeys security) :
    Completed pnetwork ({ mlme with
      retry := 0, table, stapriv, staKeys, security }.updateCurNetwork pnetwork) ↔
      mlme.CanComplete pnetwork := by
  rw [updateCurNetwork_eq]
  constructor
  · intro completed
    obtain ⟨ibss, -⟩ | ⟨infrastructure, -, -, station⟩ := completed.mode
    · exact .inl ibss
    · exact .inr ⟨infrastructure, (seated.hasStation rfl rfl).mp station⟩
  · intro can
    refine ⟨fun offset inside => (WlanBssidEx.byte_memcpy ..).trans (if_pos inside), rfl, ?_, ?_, rfl⟩
    · obtain ibss | ⟨infrastructure, station⟩ := can
      · refine .inl ⟨ibss, ?_⟩
        simp [checkFwstate, ibss, ndisIbss, ndisInfrastructure, adhocState]
      · refine .inr ⟨infrastructure, ?_, ?_, (seated.hasStation rfl rfl).mpr station⟩
        · simp [checkFwstate, infrastructure, stationState, fwLinked]
        · simp [checkFwstate, infrastructure, stationState, fwLinked]
    · obtain ibss | ⟨infrastructure, -⟩ := can
      · simp [checkFwstate, ibss, ndisIbss, ndisInfrastructure, adhocState, fwUnderLinking]
      · simp [checkFwstate, infrastructure, stationState, fwLinked, fwUnderLinking]

theorem Seated.lost {psta : Sta}
    (seated : mlme.Seated pnetwork stapriv staKeys security) (moves : mlme.MovesLink pnetwork)
    (infrastructure : pnetwork.network.infrastructureMode = ndisInfrastructure)
    (incomplete : ¬ mlme.CanComplete pnetwork)
    (held : mlme.stapriv.getStainfo mlme.curAddr = some psta) :
    stapriv.getStainfo mlme.curAddr ≠ some psta := by
  have freed := staprivFreed_moves moves held
  cases seated with
  | unneeded other =>
    rw [freed]
    exact Adapter.getStainfo_freeStainfo_ne
  | @station target base keys state sta =>
    rw [getStainfo_seat]
    cases sta with
    | found lookup =>
      rw [freed]
      exact Adapter.getStainfo_freeStainfo_ne
    | made absent pool =>
      intro found
      obtain ⟨-, address⟩ | ⟨-, hashed, -⟩ := Adapter.getStainfo_allocStainfo_some pool found
      · refine incomplete (.inr ⟨infrastructure, ?_⟩)
        rw [if_pos state, address]
        exact .inl (Adapter.lookupAddr_lookupAddr _)
      · rw [freed, (Adapter.freeStainfo_freed _ _).staHash] at hashed
        simp [unlink] at hashed

theorem left_iff {table : ScanTable} (remarked : mlme.Remarked pnetwork table)
    (seated : mlme.Seated pnetwork stapriv staKeys security)
    (incomplete : ¬ mlme.CanComplete pnetwork) :
    LeftAlone mlme ({ mlme with retry := 0, table, stapriv, staKeys, security }.updateCurNetwork pnetwork) ↔
      mlme.AlreadySo pnetwork := by
  rw [updateCurNetwork_eq]
  have linked : ∀ state : Mlme Sta Xmit Recv, state.fwState =
      (if pnetwork.network.infrastructureMode = ndisInfrastructure then stationState ||| fwLinked
        else if pnetwork.network.infrastructureMode = ndisIbss then adhocState else 0) →
      (state.checkFwstate fwLinked = mlme.checkFwstate fwLinked ↔ (mlme.checkFwstate fwLinked ↔
          pnetwork.network.infrastructureMode = ndisInfrastructure)) := by
    intro state mode
    have answer : state.checkFwstate fwLinked =
        decide (pnetwork.network.infrastructureMode = ndisInfrastructure) := by
      rw [checkFwstate, mode]
      by_cases infrastructure : pnetwork.network.infrastructureMode = ndisInfrastructure
      · simp [infrastructure, stationState, fwLinked]
      · by_cases ibss : pnetwork.network.infrastructureMode = ndisIbss
        · simp [ibss, adhocState, fwLinked, ndisIbss, ndisInfrastructure]
        · simp [infrastructure, ibss, fwLinked]
    rw [answer]
    cases mlme.checkFwstate fwLinked <;> simp
  constructor
  · intro left
    have network := congrArg WlanNetwork.network left.curNetwork
    have aid := congrArg WlanNetwork.aid left.curNetwork
    have state := (linked _ rfl).mp left.linked
    refine ⟨network, aid.symm, state, fun moves => ?_⟩
    refine ⟨?_, remarked.marked_iff.mp left.marked moves⟩
    cases held : mlme.stapriv.getStainfo mlme.curAddr with
    | none => rfl
    | some psta =>
      exact absurd (left.station moves.1 psta held).1
        (seated.lost moves (state.mp moves.1) incomplete held)
  · rintro ⟨network, aid, state, lost⟩
    refine ⟨?_, (linked _ rfl).mpr state, fun holds psta held => ?_,
      remarked.marked_iff.mpr fun moves => (lost moves).2⟩
    · simp only [network, ← aid]
    · by_cases moves : mlme.MovesLink pnetwork
      · cases held.symm.trans (lost moves).1
      · cases seated with
        | unneeded other =>
          simp only [staprivFreed_stays moves, held, and_self]
        | station station sta =>
          have same : pnetwork.network.macAddress = mlme.curAddr := by
            simpa [MovesLink, holds, theSameMacaddr] using moves
          refine absurd (.inr ⟨state.mp holds, ?_⟩) incomplete
          rw [if_pos station, staprivFreed_stays moves, same, held]
          exact .inr (Option.some_ne_none psta)

omit [DecidableEq Sta] in
theorem LeftAlone.refl (mlme : Mlme Sta Xmit Recv) : LeftAlone mlme mlme where
  curNetwork := rfl
  linked := rfl
  station _ _ found := ⟨found, rfl, rfl⟩
  marked _ _ found := ⟨(ScanTable.findNetwork_eq_some found).1, rfl⟩

def Settled (before : Mlme Sta Xmit Recv) (pnetwork : WlanNetwork) (after : Mlme Sta Xmit Recv) : Prop :=
  Completed pnetwork after ∨ LeftAlone before after

theorem joined_settled_iff : mlme.Settled pnetwork (mlme.joined pnetwork) ↔
    (mlme.checkFwstate fwUnderLinking → mlme.CannotJoin pnetwork → mlme.NothingLost pnetwork) ∧
      (mlme.checkFwstate fwUnderLinking → ¬ mlme.CannotJoin pnetwork →
        mlme.CanComplete pnetwork ∨ mlme.AlreadySo pnetwork) := by
  by_cases under : mlme.checkFwstate fwUnderLinking
  · by_cases cannot : mlme.CannotJoin pnetwork
    · rw [Settled, joined_cannot under cannot, leftAlone_cannot]
      simp only [under, cannot, forall_const, not_true, IsEmpty.forall_iff, and_true]
      refine or_iff_right fun completed => ?_
      exact absurd (under.symm.trans completed.underLinking) (by decide)
    · obtain ⟨stapriv, staKeys, security, ended, seated⟩ := joined_can under cannot
      rw [Settled, ended, completed_iff seated]
      simp only [under, cannot, forall_const, not_false_iff, IsEmpty.forall_iff, true_and]
      by_cases complete : mlme.CanComplete pnetwork
      · simp [complete]
      · rw [left_iff (joinTable_remarked mlme pnetwork) seated complete]
  · have ignored : mlme.joined pnetwork = { mlme with retry := 0 } := if_neg under
    rw [Settled, ignored]
    simp only [under, Bool.false_eq_true, IsEmpty.forall_iff, and_self, iff_true]
    have same := LeftAlone.refl mlme
    exact .inr ⟨rfl, rfl, same.station, same.marked⟩

theorem joined_lock : (mlme.joined pnetwork).taken = mlme.taken ∧
    (mlme.joined pnetwork).released = mlme.released := by
  by_cases under : mlme.checkFwstate fwUnderLinking
  · by_cases cannot : mlme.CannotJoin pnetwork
    · rw [joined_cannot under cannot]
      exact ⟨rfl, rfl⟩
    · obtain ⟨stapriv, staKeys, security, ended, -⟩ := joined_can under cannot
      rw [ended, updateCurNetwork_eq]
      exact ⟨rfl, rfl⟩
  · have ignored : mlme.joined pnetwork = { mlme with retry := 0 } := if_neg under
    rw [ignored]
    exact ⟨rfl, rfl⟩

theorem freeStainfo_eq (mlme : Mlme Sta Xmit Recv) (psta : Option Sta) :
    ∃ stapriv, mlme.freeStainfo psta = { mlme with stapriv } := by
  cases psta with
  | none => exact ⟨_, rfl⟩
  | some psta => exact ⟨_, rfl⟩

theorem initBcmcStainfo_eq (mlme : Mlme Sta Xmit Recv) :
    ∃ stapriv staKeys, mlme.initBcmcStainfo = { mlme with stapriv, staKeys } := by
  unfold initBcmcStainfo allocStainfo
  rcases mlme.stapriv.allocStainfo bcAddr with ⟨_ | psta, stapriv⟩
  · exact ⟨_, _, rfl⟩
  · exact ⟨_, _, rfl⟩

theorem freeAssocStations_eq (mlme : Mlme Sta Xmit Recv) :
    ∃ stapriv staKeys, mlme.freeAssocStations = { mlme with stapriv, staKeys } := by
  have first : ∃ stapriv, (if mlme.checkFwstate (stationState ||| apState) then
      mlme.freeStainfo (mlme.stapriv.getStainfo mlme.curAddr) else mlme) =
        { mlme with stapriv } := by
    split
    · exact freeStainfo_eq mlme _
    · exact ⟨_, rfl⟩
  obtain ⟨stapriv, first⟩ := first
  unfold freeAssocStations
  simp only [first]
  split
  · obtain ⟨freed, second⟩ := freeStainfo_eq
        { mlme with stapriv := stapriv.freeAllStainfo } (stapriv.freeAllStainfo.getStainfo bcAddr)
    obtain ⟨made, staKeys, third⟩ := initBcmcStainfo_eq { mlme with stapriv := freed }
    exact ⟨made, staKeys, by rw [second, third]⟩
  · exact ⟨_, _, rfl⟩

theorem freeAssocResources_eq (mlme : Mlme Sta Xmit Recv) : ∃ table stapriv staKeys, mlme.freeAssocResources =
      { mlme with table, stapriv, staKeys, keyMask := 0 } := by
  obtain ⟨stapriv, staKeys, stations⟩ := freeAssocStations_eq mlme
  unfold freeAssocResources
  rw [stations]
  exact ⟨_, _, _, rfl⟩

section

omit [DecidableEq Sta]

theorem joinbssCmd_eq (memory : Bool) (mlme : Mlme Sta Xmit Recv) (pnetwork : NetworkRef) :
    ∃ fwState assocBssid, (joinbssCmd memory mlme pnetwork).2 =
        { mlme with fwState, assocBssid } ∧
      fwState &&& fwLinked = mlme.fwState &&& fwLinked := by
  have mode : ∀ state : U32, state &&& fwLinked = 0 →
      (mlme.fwState ||| state) &&& fwLinked = mlme.fwState &&& fwLinked := by
    intro state other
    rw [BitVec.and_comm, BitVec.and_or_distrib_left, BitVec.and_comm _ state, other, BitVec.and_comm]
    exact BitVec.or_zero
  unfold joinbssCmd
  cases memory with
  | false => exact ⟨_, _, rfl, rfl⟩
  | true =>
    simp only [if_true]
    split
    · exact ⟨_, _, rfl, rfl⟩
    · split
      · exact ⟨_, _, rfl, mode _ (by decide)⟩
      · split
        · exact ⟨_, _, rfl, mode _ (by decide)⟩
        · exact ⟨_, _, rfl, rfl⟩

theorem leftAlone_congr (before after other : Mlme Sta Xmit Recv)
    (curNetwork : other.curNetwork = after.curNetwork) (table : other.table = after.table)
    (stapriv : other.stapriv = after.stapriv) (staKeys : other.staKeys = after.staKeys)
    (fwState : other.fwState &&& fwLinked = after.fwState &&& fwLinked) :
    LeftAlone before other ↔ LeftAlone before after := by
  have linked : other.checkFwstate fwLinked = after.checkFwstate fwLinked := by
    rw [checkFwstate, fwState, checkFwstate]
  constructor
  · intro left
    refine ⟨curNetwork ▸ left.curNetwork, linked ▸ left.linked, ?_, ?_⟩
    · rw [← stapriv, ← staKeys]
      exact left.station
    · rw [← table]
      exact left.marked
  · intro left
    refine ⟨curNetwork ▸ left.curNetwork, linked ▸ left.linked, ?_, ?_⟩
    · rw [stapriv, staKeys]
      exact left.station
    · rw [table]
      exact left.marked

theorem clearFwstate_eq (mlme : Mlme Sta Xmit Recv) (state : U32) :
    ∃ fwState, mlme.clearFwstate state = { mlme with fwState } ∧
      ∀ other, state &&& other = 0#32 → fwState &&& other = mlme.fwState &&& other := by
  unfold clearFwstate
  split
  · refine ⟨_, rfl, fun other apart => ?_⟩
    ext i inside
    have bit : (state[i] && other[i]) = false := by
      have both := congrArg (fun word : U32 => word[i]) apart
      simpa only [BitVec.getElem_and, BitVec.getElem_zero] using both
    simp only [BitVec.getElem_and, BitVec.getElem_xor, Bool.and_xor_distrib_right, bit, Bool.xor_false]
  · exact ⟨_, rfl, fun _ _ => rfl⟩

end

def Selection.ofLink : Selection → Bool
  | .again | .leave _ | .rejoin _ => true
  | .fail | .join _ => false

section

omit [DecidableEq Sta]

theorem selectFrom_ofLink {hasWpsIe : WlanBssidEx → Bool} {records : List NetworkRef}
    {best : Option NetworkRef} (torn : (mlme.selectFrom hasWpsIe records best).ofLink = true) :
    mlme.checkFwstate fwLinked := by
  induction records generalizing best with
  | nil =>
    cases best with
    | none => cases torn
    | some best =>
      simp only [selectFrom] at torn
      split at torn <;> cases torn
  | cons first rest ih =>
    simp only [selectFrom] at torn
    split at torn
    · split at torn
      · assumption
      · cases torn
    · split at torn
      · cases torn
      · split at torn
        · split at torn
          · exact ih torn
          · split at torn
            · split at torn
              · assumption
              · cases torn
            · exact ih torn
        · exact ih torn

theorem checkFwstate_linked (mlme : Mlme Sta Xmit Recv) :
    mlme.checkFwstate fwLinked = mlme.fwState.getLsbD 0 := by
  have bit : mlme.fwState &&& fwLinked = (BitVec.ofBool (mlme.fwState.getLsbD 0)).setWidth 32 :=
    BitVec.and_one_eq_setWidth_ofBool_getLsbD
  rw [checkFwstate, bit]
  cases mlme.fwState.getLsbD 0 <;> rfl

theorem clearFwstate_unlinked (mlme : Mlme Sta Xmit Recv) :
    (mlme.clearFwstate fwLinked).checkFwstate fwLinked = false := by
  unfold clearFwstate
  cases linked : mlme.checkFwstate fwLinked with
  | false => simpa using linked
  | true =>
    rw [checkFwstate_linked] at linked ⊢
    simp [linked, fwLinked]

theorem indicateDisconnect_unlinked (mlme : Mlme Sta Xmit Recv) :
    mlme.indicateDisconnect.checkFwstate fwLinked = false :=
  clearFwstate_unlinked mlme

end

theorem selectAndJoin_left_iff (hasWpsIe : WlanBssidEx → Bool) (memory : Bool) (mlme : Mlme Sta Xmit Recv) :
    LeftAlone mlme (mlme.selectAndJoin hasWpsIe memory).2 ↔
      match mlme.select hasWpsIe with
      | .leave _ => False
      | .rejoin _ => LeftAlone mlme mlme.freeAssocResources
      | _ => True := by
  have unchanged := LeftAlone.refl mlme
  have torn : (mlme.select hasWpsIe).ofLink = true → mlme.checkFwstate fwLinked = true :=
    selectFrom_ofLink
  unfold selectAndJoin
  cases choice : mlme.select hasWpsIe with
  | fail => simpa using unchanged
  | again =>
    have linked : mlme.checkFwstate fwLinked = true := torn (by rw [choice]; rfl)
    have still : mlme.indicateConnect.checkFwstate fwLinked = mlme.checkFwstate fwLinked := by
      rw [linked, checkFwstate_linked]
      simp [indicateConnect, setFwstate, fwLinked]
    simp only [iff_true]
    exact ⟨rfl, still, unchanged.station, unchanged.marked⟩
  | leave pnetwork =>
    have linked : mlme.checkFwstate fwLinked = true := torn (by rw [choice]; rfl)
    obtain ⟨fwState, assocBssid, command, same⟩ :=
      joinbssCmd_eq memory mlme.indicateDisconnect.freeAssocResources pnetwork
    obtain ⟨table, stapriv, staKeys, freed⟩ := freeAssocResources_eq mlme.indicateDisconnect
    simp only [iff_false]
    intro left
    have state := left.linked
    rw [command, linked, checkFwstate, same, freed] at state
    exact absurd (state.symm.trans (indicateDisconnect_unlinked mlme)) (by decide)
  | rejoin pnetwork =>
    obtain ⟨fwState, assocBssid, command, linked⟩ :=
      joinbssCmd_eq memory mlme.freeAssocResources pnetwork
    simp only [command]
    exact leftAlone_congr _ _ _ rfl rfl rfl rfl linked
  | join pnetwork =>
    obtain ⟨fwState, assocBssid, command, linked⟩ := joinbssCmd_eq memory mlme pnetwork
    simp only [command, iff_true]
    exact (leftAlone_congr mlme mlme { mlme with fwState, assocBssid } rfl rfl rfl rfl linked).mpr
      unchanged

theorem selectAndJoin_lock (hasWpsIe : WlanBssidEx → Bool) (memory : Bool) (mlme : Mlme Sta Xmit Recv) :
    (mlme.selectAndJoin hasWpsIe memory).2.taken = mlme.taken ∧
      (mlme.selectAndJoin hasWpsIe memory).2.released = mlme.released := by
  have command : ∀ (state : Mlme Sta Xmit Recv) pnetwork,
      state.taken = mlme.taken ∧ state.released = mlme.released →
      (joinbssCmd memory state pnetwork).2.taken = mlme.taken ∧
        (joinbssCmd memory state pnetwork).2.released = mlme.released := by
    intro state pnetwork lock
    obtain ⟨fwState, assocBssid, command, -⟩ := joinbssCmd_eq memory state pnetwork
    rwa [command]
  have resources : ∀ state : Mlme Sta Xmit Recv,
      state.freeAssocResources.taken = state.taken ∧ state.freeAssocResources.released = state.released := by
    intro state
    obtain ⟨table, stapriv, staKeys, freed⟩ := freeAssocResources_eq state
    rw [freed]
    exact ⟨rfl, rfl⟩
  have disconnect : mlme.indicateDisconnect.taken = mlme.taken ∧
      mlme.indicateDisconnect.released = mlme.released := by
    unfold indicateDisconnect clearFwstate
    split <;> exact ⟨rfl, rfl⟩
  unfold selectAndJoin
  cases mlme.select hasWpsIe with
  | fail => exact ⟨rfl, rfl⟩
  | again => exact ⟨rfl, rfl⟩
  | leave pnetwork =>
    have freed := resources mlme.indicateDisconnect
    exact command _ _ ⟨freed.1.trans disconnect.1, freed.2.trans disconnect.2⟩
  | rejoin pnetwork => exact command _ _ (resources mlme)
  | join pnetwork => exact command _ _ ⟨rfl, rfl⟩

theorem notJoined_eq (hasWpsIe : WlanBssidEx → Bool) (memory : Bool) (mlme : Mlme Sta Xmit Recv) :
    ∃ fwState delay retry, mlme.notJoined hasWpsIe memory =
        { (mlme.selectAndJoin hasWpsIe memory).2 with
          fwState, assocTimer := some delay, retry } ∧
      ∀ other, fwUnderLinking &&& other = 0#32 →
        fwState &&& other = (mlme.selectAndJoin hasWpsIe memory).2.fwState &&& other := by
  unfold notJoined
  generalize mlme.selectAndJoin hasWpsIe memory = answer
  obtain ⟨res, after⟩ := answer
  dsimp only
  split
  · obtain ⟨fwState, cleared, others⟩ := clearFwstate_eq (after.setTimer 1) fwUnderLinking
    exact ⟨fwState, 1, 0, by rw [cleared]; rfl, others⟩
  · exact ⟨_, _, _, rfl, fun _ _ => rfl⟩

theorem notJoined_settled_iff (hasWpsIe : WlanBssidEx → Bool) (memory : Bool)
    (mlme : Mlme Sta Xmit Recv) (pnetwork : WlanNetwork) :
    mlme.Settled pnetwork (mlme.notJoined hasWpsIe memory) ↔
      match mlme.select hasWpsIe with
      | .leave _ => False
      | .rejoin _ => LeftAlone mlme mlme.freeAssocResources
      | _ => True := by
  obtain ⟨fwState, delay, retry, ended, others⟩ := notJoined_eq hasWpsIe memory mlme
  rw [Settled, ended, ← selectAndJoin_left_iff hasWpsIe memory, or_iff_right]
  · exact leftAlone_congr _ _ _ rfl rfl rfl rfl (others fwLinked (by decide))
  · intro completed
    cases completed.assocTimer

section

omit [DecidableEq Sta]

theorem resetJoin_settled (mlme : Mlme Sta Xmit Recv) (pnetwork : WlanNetwork) :
    mlme.Settled pnetwork ((mlme.resetSecuritypriv.setTimer 1).clearFwstate fwUnderLinking) ∧
      ((mlme.resetSecuritypriv.setTimer 1).clearFwstate fwUnderLinking).taken = mlme.taken ∧
      ((mlme.resetSecuritypriv.setTimer 1).clearFwstate fwUnderLinking).released = mlme.released := by
  obtain ⟨fwState, cleared, others⟩ :=
    clearFwstate_eq (mlme.resetSecuritypriv.setTimer 1) fwUnderLinking
  rw [cleared]
  have same := LeftAlone.refl mlme
  refine ⟨.inr ⟨rfl, ?_, same.station, same.marked⟩, rfl, rfl⟩
  exact congrArg (fun state : U32 => decide (state ≠ 0)) (others fwLinked (by decide))

theorem settled_lock (before after : Mlme Sta Xmit Recv) (pnetwork : WlanNetwork) :
    before.Settled pnetwork after.exitCritical ↔ before.enterCritical.Settled pnetwork after := by
  constructor
  · rintro (completed | left)
    · exact .inl { completed with }
    · exact .inr { left with }
  · rintro (completed | left)
    · exact .inl { completed with }
    · exact .inr { left with }

theorem allOrNothing_iff {before : Mlme Sta Xmit Recv}
    (lock : after.taken = before.enterCritical.taken ∧ after.released = before.released) :
    AllOrNothing before pnetwork after.exitCritical ↔ before.enterCritical.Settled pnetwork after := by
  rw [AllOrNothing, ← settled_lock]
  refine and_iff_right ?_
  change after.released + 1 + before.taken = after.taken + before.released
  rw [lock.1, lock.2]
  change _ = before.taken + 1 + _
  omega

theorem select_enterCritical (hasWpsIe : WlanBssidEx → Bool) (mlme : Mlme Sta Xmit Recv) :
    mlme.enterCritical.select hasWpsIe = mlme.select hasWpsIe := by
  have loop : ∀ (records : List NetworkRef) (best : Option NetworkRef),
      mlme.enterCritical.selectFrom hasWpsIe records best = mlme.selectFrom hasWpsIe records best := by
    intro records
    induction records with
    | nil => intro best; rfl
    | cons first rest ih =>
      intro best
      simp only [selectFrom, ih]
      rfl
  exact loop mlme.table.scannedQueue none

end

theorem freeStainfo_enterCritical (mlme : Mlme Sta Xmit Recv) (psta : Option Sta) :
    mlme.enterCritical.freeStainfo psta = (mlme.freeStainfo psta).enterCritical := by
  cases psta <;> rfl

theorem initBcmcStainfo_enterCritical (mlme : Mlme Sta Xmit Recv) :
    mlme.enterCritical.initBcmcStainfo = mlme.initBcmcStainfo.enterCritical := by
  unfold initBcmcStainfo allocStainfo
  have same : mlme.enterCritical.stapriv = mlme.stapriv := rfl
  rw [same]
  rcases mlme.stapriv.allocStainfo bcAddr with ⟨_ | psta, stapriv⟩
  · rfl
  · rfl

theorem freeAssocResources_enterCritical (mlme : Mlme Sta Xmit Recv) :
    mlme.enterCritical.freeAssocResources = mlme.freeAssocResources.enterCritical := by
  have first : (if mlme.enterCritical.checkFwstate (stationState ||| apState) then
        mlme.enterCritical.freeStainfo
          (mlme.enterCritical.stapriv.getStainfo mlme.enterCritical.curAddr)
      else mlme.enterCritical) =
      (if mlme.checkFwstate (stationState ||| apState) then
        mlme.freeStainfo (mlme.stapriv.getStainfo mlme.curAddr)
      else mlme).enterCritical := by
    by_cases state : mlme.checkFwstate (stationState ||| apState)
    · rw [if_pos state]
      exact (if_pos state).trans (freeStainfo_enterCritical mlme _)
    · rw [if_neg state]
      exact if_neg state
  have stations : mlme.enterCritical.freeAssocStations = mlme.freeAssocStations.enterCritical := by
    unfold freeAssocStations
    simp only [first]
    generalize (if mlme.checkFwstate (stationState ||| apState) then
        mlme.freeStainfo (mlme.stapriv.getStainfo mlme.curAddr) else mlme) = mlme
    by_cases state : mlme.checkFwstate (adhocState ||| adhocMasterState ||| apState)
    · rw [if_pos state]
      refine (if_pos state).trans ?_
      rw [← initBcmcStainfo_enterCritical, ← freeStainfo_enterCritical]
      rfl
    · rw [if_neg state]
      exact if_neg state
  unfold freeAssocResources
  rw [stations]
  rfl

section Selection

variable (hasWpsIe : WlanBssidEx → Bool) (mlme : Mlme Sta Xmit Recv)

def found (pnetwork : NetworkRef) : WlanBssidEx := (mlme.table.networks pnetwork).network

/-- A network that may be joined: with `assoc_by_bssid` the one of `assoc_bssid`, otherwise one that
has the SSID, if there is one to have, and that `is_desired_network` takes. -/
def Eligible (network : WlanBssidEx) : Prop :=
  if mlme.assocByBssid then network.macAddress = mlme.assocBssid
  else (mlme.assocSsid.length = 0 ∨ network.ssid = mlme.assocSsid) ∧
    mlme.isDesiredNetwork hasWpsIe network = true

def rssiOf (pnetwork : NetworkRef) : Int := (mlme.found pnetwork).rssi.toInt

def Strongest (pnetwork : NetworkRef) : Prop :=
  mlme.assocByBssid = false → mlme.assocByRssi = true →
    ∀ other ∈ mlme.table.scannedQueue, mlme.Eligible hasWpsIe (mlme.found other) →
      mlme.rssiOf other ≤ mlme.rssiOf pnetwork

def issued : Selection → Option (NetworkRef × Mlme Sta Xmit Recv)
  | .fail | .again => none
  | .leave pnetwork => some (pnetwork, mlme.indicateDisconnect.freeAssocResources)
  | .rejoin pnetwork => some (pnetwork, mlme.freeAssocResources)
  | .join pnetwork => some (pnetwork, mlme)

def SelectionHonoured : Prop :=
  (∀ pnetwork state, mlme.issued (mlme.select hasWpsIe) = some (pnetwork, state) →
    pnetwork ∈ state.table.scannedQueue ∧ mlme.Eligible hasWpsIe (mlme.found pnetwork) ∧
      mlme.Strongest hasWpsIe pnetwork) ∧
  ((∀ pnetwork ∈ mlme.table.scannedQueue, ¬mlme.Eligible hasWpsIe (mlme.found pnetwork)) →
    ∀ memory, mlme.selectAndJoin hasWpsIe memory = (false, mlme))

def stopsAt (pnetwork : NetworkRef) : Bool :=
  let network := mlme.found pnetwork
  (mlme.assocByBssid && network.macAddress = mlme.assocBssid) ||
    (!mlme.assocByBssid && mlme.assocSsid.length = 0) ||
    (network.ssid = mlme.assocSsid && !mlme.assocByRssi && mlme.isDesiredNetwork hasWpsIe network)

def hasSsid (pnetwork : NetworkRef) : Bool := (mlme.found pnetwork).ssid = mlme.assocSsid

def stopped (pnetwork : NetworkRef) : Selection :=
  let network := mlme.found pnetwork
  if mlme.assocByBssid ∧ network.macAddress = mlme.assocBssid then
    if mlme.checkFwstate fwLinked then
      if mlme.curNetwork.network.isSameNetwork network then .again else .leave pnetwork
    else .join pnetwork
  else if !mlme.assocByBssid ∧ mlme.assocSsid.length = 0 then .join pnetwork
  else if mlme.checkFwstate fwLinked then .rejoin pnetwork else .join pnetwork

def keepsBest (best : Option NetworkRef) (pnetwork : NetworkRef) : Option NetworkRef :=
  List.argAux (fun pnetwork best => mlme.rssiOf best < mlme.rssiOf pnetwork) best pnetwork

section

omit [DecidableEq Sta]

theorem stronger_eq (best : Option NetworkRef) (pnetwork : NetworkRef) :
    some (stronger mlme.table best pnetwork) = mlme.keepsBest best pnetwork := by
  cases best with
  | none => rfl
  | some best =>
    rw [stronger, keepsBest, List.argAux]
    exact apply_ite some _ _ _

theorem selectFrom_cons (pnetwork : NetworkRef) (rest : List NetworkRef) (best : Option NetworkRef) :
    mlme.selectFrom hasWpsIe (pnetwork :: rest) best =
      if mlme.stopsAt hasWpsIe pnetwork then mlme.stopped pnetwork
      else mlme.selectFrom hasWpsIe rest
        (if mlme.hasSsid pnetwork ∧ mlme.assocByRssi then mlme.keepsBest best pnetwork else best) := by
  rw [selectFrom, stopsAt, stopped, hasSsid, ← stronger_eq]
  have network : (mlme.table.networks pnetwork).network = mlme.found pnetwork := rfl
  simp only [network]
  by_cases same : mlme.assocByBssid ∧ (mlme.found pnetwork).macAddress = mlme.assocBssid
  · simp [same]
  · by_cases any : !mlme.assocByBssid ∧ mlme.assocSsid.length = 0
    · simp_all
    · rw [if_neg same, if_neg any, if_neg same, if_neg any]
      by_cases ssid : (mlme.found pnetwork).ssid = mlme.assocSsid
      · cases mlme.assocByRssi <;> cases mlme.isDesiredNetwork hasWpsIe (mlme.found pnetwork) <;> simp_all
      · simp_all

theorem selectFrom_eq (records : List NetworkRef) (best : Option NetworkRef) : mlme.selectFrom hasWpsIe records best =
      match records.find? (mlme.stopsAt hasWpsIe) with
      | some pnetwork => mlme.stopped pnetwork
      | none =>
          if mlme.assocByRssi then
            ((records.filter mlme.hasSsid).foldl mlme.keepsBest best).elim .fail .join
          else .fail := by
  induction records generalizing best with
  | nil => cases best <;> rw [selectFrom] <;> first | rfl | exact (ite_self _).symm
  | cons pnetwork rest ih =>
    rw [selectFrom_cons, List.find?_cons, List.filter_cons]
    cases mlme.stopsAt hasWpsIe pnetwork with
    | true => rfl
    | false =>
      rw [ih]
      cases rest.find? (mlme.stopsAt hasWpsIe) with
      | some stop => rfl
      | none => cases mlme.hasSsid pnetwork <;> cases mlme.assocByRssi <;> rfl

end

/-- When the selection honours its criterion: the fields are about the three modes, and about a
record that is left in the queue when the link is torn down. -/
structure SelectionFits : Prop where
  bssidFirst : mlme.assocByBssid = true → ∀ pnetwork,
    mlme.table.scannedQueue.find? (mlme.stopsAt hasWpsIe) = some pnetwork →
      (mlme.found pnetwork).macAddress = mlme.assocBssid
  bssidOnly : mlme.assocByBssid = true → mlme.assocByRssi = true →
    (∀ pnetwork ∈ mlme.table.scannedQueue, (mlme.found pnetwork).macAddress ≠ mlme.assocBssid) →
      ∀ pnetwork ∈ mlme.table.scannedQueue, mlme.hasSsid pnetwork = false
  anySsid : mlme.assocByBssid = false → mlme.assocSsid.length = 0 → ∀ pnetwork,
    mlme.table.scannedQueue.head? = some pnetwork →
      mlme.isDesiredNetwork hasWpsIe (mlme.found pnetwork) = true ∧ mlme.Strongest hasWpsIe pnetwork
  strongest : mlme.assocByBssid = false → mlme.assocSsid.length ≠ 0 → mlme.assocByRssi = true →
    ∀ pnetwork ∈ (mlme.table.scannedQueue.filter mlme.hasSsid).argmax mlme.rssiOf,
      mlme.isDesiredNetwork hasWpsIe (mlme.found pnetwork) = true
  left : mlme.checkFwstate fwLinked = true → ∀ pnetwork,
    mlme.table.scannedQueue.find? (mlme.stopsAt hasWpsIe) = some pnetwork →
      if mlme.assocByBssid then
        mlme.curNetwork.network.isSameNetwork (mlme.found pnetwork) = false →
          pnetwork ∈ mlme.indicateDisconnect.freeAssocResources.table.scannedQueue
      else mlme.assocSsid.length ≠ 0 → pnetwork ∈ mlme.freeAssocResources.table.scannedQueue

variable {hasWpsIe mlme}

section

omit [DecidableEq Sta]

theorem select_stopped {pnetwork : NetworkRef}
    (stop : mlme.table.scannedQueue.find? (mlme.stopsAt hasWpsIe) = some pnetwork) :
    mlme.select hasWpsIe = mlme.stopped pnetwork := by
  rw [select, selectFrom_eq, stop]

theorem select_passed (pass : mlme.table.scannedQueue.find? (mlme.stopsAt hasWpsIe) = none) : mlme.select hasWpsIe =
      if mlme.assocByRssi then
        ((mlme.table.scannedQueue.filter mlme.hasSsid).argmax mlme.rssiOf).elim .fail .join
      else .fail := by
  rw [select, selectFrom_eq, pass]
  rfl

theorem stopsAt_bssid (byBssid : mlme.assocByBssid = true) (byRssi : mlme.assocByRssi = true)
    (pnetwork : NetworkRef) : mlme.stopsAt hasWpsIe pnetwork =
      decide ((mlme.found pnetwork).macAddress = mlme.assocBssid) := by
  simp [stopsAt, byBssid, byRssi]

theorem stopsAt_ssid (byBssid : mlme.assocByBssid = false) (long : mlme.assocSsid.length ≠ 0)
    (pnetwork : NetworkRef) : mlme.stopsAt hasWpsIe pnetwork = (mlme.hasSsid pnetwork &&
      !mlme.assocByRssi && mlme.isDesiredNetwork hasWpsIe (mlme.found pnetwork)) := by
  simp only [stopsAt, byBssid, long, hasSsid]
  rfl

theorem eligible_ssid (byBssid : mlme.assocByBssid = false) (network : WlanBssidEx) :
    mlme.Eligible hasWpsIe network ↔ (mlme.assocSsid.length = 0 ∨ network.ssid = mlme.assocSsid) ∧
      mlme.isDesiredNetwork hasWpsIe network = true := by
  rw [Eligible, byBssid]
  rfl

theorem eligible_bssid (byBssid : mlme.assocByBssid = true) (network : WlanBssidEx) :
    mlme.Eligible hasWpsIe network ↔ network.macAddress = mlme.assocBssid := by
  rw [Eligible, if_pos byBssid]

end

theorem SelectionHonoured.fits (honoured : mlme.SelectionHonoured hasWpsIe) : mlme.SelectionFits hasWpsIe := by
  have meets (pnetwork : NetworkRef) (state : Mlme Sta Xmit Recv)
      (issue : mlme.issued (mlme.select hasWpsIe) = some (pnetwork, state)) := honoured.1 pnetwork state issue
  have bssidFirst (byBssid : mlme.assocByBssid = true) (pnetwork : NetworkRef)
      (stop : mlme.table.scannedQueue.find? (mlme.stopsAt hasWpsIe) = some pnetwork) :
      (mlme.found pnetwork).macAddress = mlme.assocBssid := by
    by_contra other
    have choice := select_stopped stop
    rw [stopped, if_neg (fun both => other both.2), if_neg (by simp [byBssid])] at choice
    rw [choice] at meets
    have eligible : mlme.Eligible hasWpsIe (mlme.found pnetwork) := by
      split at meets
      · exact (meets pnetwork _ rfl).2.1
      · exact (meets pnetwork _ rfl).2.1
    exact other ((eligible_bssid byBssid _).mp eligible)
  refine ⟨bssidFirst, ?_, ?_, ?_, ?_⟩
  · intro byBssid byRssi others pnetwork member
    by_contra ssid
    have pass : mlme.table.scannedQueue.find? (mlme.stopsAt hasWpsIe) = none := by
      rw [List.find?_eq_none]
      intro other member
      rw [stopsAt_bssid byBssid byRssi]
      simpa using others other member
    have some : pnetwork ∈ mlme.table.scannedQueue.filter mlme.hasSsid :=
      List.mem_filter.mpr ⟨member, by simpa using ssid⟩
    rw [select_passed pass, if_pos byRssi] at meets
    cases best : (mlme.table.scannedQueue.filter mlme.hasSsid).argmax mlme.rssiOf with
    | none =>
      rw [List.argmax_eq_none.mp best] at some
      cases some
    | some strongest =>
      rw [best] at meets
      have inside := (List.mem_filter.mp (List.argmax_mem best)).1
      exact others strongest inside ((eligible_bssid byBssid _).mp (meets strongest _ rfl).2.1)
  · intro byBssid any pnetwork head
    obtain ⟨rest, queue⟩ := List.head?_eq_some_iff.mp head
    have stop : mlme.table.scannedQueue.find? (mlme.stopsAt hasWpsIe) = some pnetwork := by
      rw [queue, List.find?_cons_of_pos]
      simp [stopsAt, byBssid, any]
    rw [select_stopped stop, stopped, if_neg (by simp [byBssid]), if_pos (by simp [byBssid, any])] at meets
    obtain ⟨_, eligible, strongest⟩ := meets pnetwork _ rfl
    exact ⟨((eligible_ssid byBssid _).mp eligible).2, strongest⟩
  · intro byBssid long byRssi pnetwork best
    have pass : mlme.table.scannedQueue.find? (mlme.stopsAt hasWpsIe) = none := by
      rw [List.find?_eq_none]
      intro other _
      simp [stopsAt_ssid byBssid long, byRssi]
    rw [select_passed pass, if_pos byRssi, Option.mem_def.mp best] at meets
    exact ((eligible_ssid byBssid _).mp (meets pnetwork _ rfl).2.1).2
  · intro linked pnetwork stop
    rw [select_stopped stop, stopped, linked] at meets
    split
    · next byBssid =>
        intro apart
        rw [if_pos ⟨byBssid, bssidFirst byBssid pnetwork stop⟩, apart] at meets
        exact (meets pnetwork _ rfl).1
    · next byBssid =>
        intro long
        rw [if_neg (fun both => byBssid both.1), if_neg (fun both => long both.2)] at meets
        exact (meets pnetwork _ rfl).1

theorem SelectionFits.issued_meets (fits : mlme.SelectionFits hasWpsIe) {pnetwork : NetworkRef}
    {state : Mlme Sta Xmit Recv} (issue : mlme.issued (mlme.select hasWpsIe) = some (pnetwork, state)) :
    pnetwork ∈ mlme.table.scannedQueue ∧ pnetwork ∈ state.table.scannedQueue ∧
      mlme.Eligible hasWpsIe (mlme.found pnetwork) ∧ mlme.Strongest hasWpsIe pnetwork := by
  cases stop : mlme.table.scannedQueue.find? (mlme.stopsAt hasWpsIe) with
  | none =>
    have passes := List.find?_eq_none.mp stop
    rw [select_passed stop] at issue
    split at issue
    · next byRssi =>
        cases best : (mlme.table.scannedQueue.filter mlme.hasSsid).argmax mlme.rssiOf with
        | none =>
          rw [best] at issue
          cases issue
        | some strongest =>
          rw [best] at issue
          cases issue
          obtain ⟨member, ssid⟩ := List.mem_filter.mp (List.argmax_mem best)
          cases byBssid : mlme.assocByBssid with
          | true =>
            have other := fits.bssidOnly byBssid byRssi (fun other member => by
              simpa [stopsAt_bssid byBssid byRssi] using passes other member) pnetwork member
            rw [other] at ssid
            cases ssid
          | false =>
            have long : mlme.assocSsid.length ≠ 0 := fun any =>
              passes pnetwork member (by simp [stopsAt, byBssid, any])
            refine ⟨member, member, (eligible_ssid byBssid _).mpr ⟨.inr (by simpa [hasSsid] using ssid),
              fits.strongest byBssid long byRssi pnetwork best⟩, fun _ _ other inside eligible => ?_⟩
            have same := ((eligible_ssid byBssid _).mp eligible).1.resolve_left long
            exact List.le_of_mem_argmax (List.mem_filter.mpr ⟨inside, decide_eq_true same⟩) best
    · cases issue
  | some found =>
    have member := List.mem_of_find?_eq_some stop
    have stops := List.find?_some stop
    have left (linked : mlme.checkFwstate fwLinked = true) := fits.left linked found stop
    rw [select_stopped stop, stopped] at issue
    cases byBssid : mlme.assocByBssid with
    | true =>
      have same := fits.bssidFirst byBssid found stop
      have eligible : mlme.Eligible hasWpsIe (mlme.found found) := (eligible_bssid byBssid _).mpr same
      rw [if_pos ⟨byBssid, same⟩] at issue
      simp only [byBssid, if_true] at left
      split at issue
      · next linked =>
          split at issue
          · cases issue
          · next apart =>
              cases issue
              exact ⟨member, left linked (by simpa using apart), eligible, fun other => by simp [byBssid] at other⟩
      · cases issue
        exact ⟨member, member, eligible, fun other => by simp [byBssid] at other⟩
    | false =>
      rw [if_neg (by simp [byBssid])] at issue
      simp only [byBssid, Bool.false_eq_true, if_false] at left
      by_cases any : mlme.assocSsid.length = 0
      · rw [if_pos ⟨by simp [byBssid], any⟩] at issue
        cases issue
        have head : mlme.table.scannedQueue.head? = some pnetwork := by
          cases queue : mlme.table.scannedQueue with
          | nil =>
            rw [queue] at member
            cases member
          | cons first rest =>
            rwa [queue, List.find?_cons_of_pos (by simp [stopsAt, byBssid, any])] at stop
        obtain ⟨desired, strongest⟩ := fits.anySsid byBssid any pnetwork head
        exact ⟨member, member, (eligible_ssid byBssid _).mpr ⟨.inl any, desired⟩, strongest⟩
      · rw [stopsAt_ssid byBssid any, Bool.and_eq_true, Bool.and_eq_true] at stops
        obtain ⟨⟨ssid, byRssi⟩, desired⟩ := stops
        have eligible : mlme.Eligible hasWpsIe (mlme.found found) :=
          (eligible_ssid byBssid _).mpr ⟨.inr (by simpa [hasSsid] using ssid), desired⟩
        have strongest : mlme.Strongest hasWpsIe found := fun _ other => by simp [other] at byRssi
        rw [if_neg (fun both => any both.2)] at issue
        split at issue
        · next linked =>
            cases issue
            exact ⟨member, left linked any, eligible, strongest⟩
        · cases issue
          exact ⟨member, member, eligible, strongest⟩


end Selection

end Mlme

def sampleBss (last mode : U8) : WlanBssidEx where
  bytes i := if i.val = 9 then last else if i.val = 92 then mode else 0

def linkedElsewhere : Mlme Unit Empty Empty where
  table := ⟨fun _ => ⟨0, false, 0, 0, 0, sampleBss 0 0⟩, List.finRange maxBssCnt, [], 0⟩
  fwState := 0x89
  curNetwork := ⟨0, false, 0, 1, 1, sampleBss 1 1⟩
  stapriv :=
    { stainfo := fun _ => .initial (sampleBss 1 1).macAddress
      attrib := nofun
      freeStaQueue := []
      staHash := fun index =>
        if index = wifiMacHash (sampleBss 1 1).macAddress then [()] else []
      asocStaCount := 1
      asocList := []
      authList := []
      staAid := fun _ => none
      staDzBitmap := 0
      timBitmap := 0
      staQueue := fun _ => []
      accnt := fun _ => 0
      freeXmitQueue := []
      freeXmitframeCnt := 0
      held := []
      stray := []
      touched := [] }
  staKeys := fun _ => .initial
  security := ⟨.open, .noPrivacy, false, false, false, false, false⟩
  keyMask := 0
  toJoin := false
  assocSsid := []
  assocBssid := Vector.replicate 6 0
  assocByBssid := false
  assocByRssi := false
  assocTimer := some maxJoinTimeout
  retry := 0
  wifiSpec := false
  taken := 0
  released := 0

def joinedUnknown : WlanNetwork := ⟨0, false, 0, 0, 1, sampleBss 2 1⟩

def onlyRecord : NetworkRef := ⟨0, by decide⟩

def encryptedLink : Mlme Unit Empty Empty :=
  { linkedElsewhere with
    table := { linkedElsewhere.table with scannedQueue := [onlyRecord] }
    security := { linkedElsewhere.security with encrypts := true } }

def linkedByBssid : Mlme Unit Empty Empty :=
  { linkedElsewhere with
    table := { linkedElsewhere.table with scannedQueue := [onlyRecord] }
    assocByBssid := true
    assocBssid := Vector.replicate 6 7 }

end Floid.Wifi
