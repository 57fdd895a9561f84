import Floid.Wifi.JoinResult

namespace Floid.Wifi

open Osk Lib
open BitVec (and_twoPow extractLsb' getLsbD_eq_getElem or_zero twoPow)
open Function (update_of_ne update_self)
open List (finRange foldl_cons mem_filter)

namespace WlanBssidEx

variable {a b c : WlanBssidEx}

def Compared (bss : WlanBssidEx) (offset : Nat) : Prop :=
  4 ≤ offset ∧ offset < 10 ∨ 12 ≤ offset ∧ offset < 16 ∨ 72 ≤ offset ∧ offset < 76 ∨
    16 ≤ offset ∧ offset < 16 + (bss.ulong 12).toNat

structure SameNetwork (a b : WlanBssidEx) : Prop where
  bytes : ∀ offset, a.Compared offset → a.byte offset = b.byte offset
  capability : ∀ bit < 2, (a.byte 130).getLsbD bit = (b.byte 130).getLsbD bit

theorem append_eq_append_iff {v w : Nat} {high high' : BitVec v} {low low' : BitVec w} :
    high ++ low = high' ++ low' ↔ high = high' ∧ low = low' := by
  constructor
  · intro same
    have left := congrArg (extractLsb' w v) same
    have right := congrArg (extractLsb' 0 w) same
    simp only [BitVec.extractLsb'_append_eq_left] at left
    simp only [BitVec.extractLsb'_append_eq_right] at right
    exact ⟨left, right⟩
  · rintro ⟨rfl, rfl⟩
    rfl

theorem ulong_eq_iff (offset : Nat) : a.ulong offset = b.ulong offset ↔
    ∀ i < 4, a.byte (offset + i) = b.byte (offset + i) := by
  change ((a.byte (offset + 3) ++ a.byte (offset + 2) ++ a.byte (offset + 1)) ++ a.byte offset :
      BitVec (8 + 8 + 8 + 8)) =
    (b.byte (offset + 3) ++ b.byte (offset + 2) ++ b.byte (offset + 1)) ++ b.byte offset ↔ _
  rw [append_eq_append_iff, append_eq_append_iff, append_eq_append_iff]
  constructor
  · rintro ⟨⟨⟨three, two⟩, one⟩, zero⟩ i inside
    obtain rfl | rfl | rfl | rfl : i = 0 ∨ i = 1 ∨ i = 2 ∨ i = 3 := by omega
    · exact zero
    · exact one
    · exact two
    · exact three
  · intro same
    exact ⟨⟨⟨same 3 (by omega), same 2 (by omega)⟩, same 1 (by omega)⟩, same 0 (by omega)⟩

theorem macAddress_eq_iff : a.macAddress = b.macAddress ↔ ∀ i < 6, a.byte (4 + i) = b.byte (4 + i) := by
  constructor
  · intro same i inside
    simpa [macAddress] using congrArg (fun mac : MacAddr => mac[i]) same
  · intro same
    exact Vector.ext fun i inside => by simpa [macAddress] using same i inside

theorem ssid_eq_iff (lengths : a.ulong 12 = b.ulong 12) : a.ssid = b.ssid ↔
    ∀ i < (a.ulong 12).toNat, a.byte (16 + i) = b.byte (16 + i) := by
  simp only [ssid, ← lengths, List.map_inj_left, List.mem_range]

theorem capability_eq_iff (bit : Nat) (low : bit < 8) :
    a.capability &&& twoPow 16 bit = b.capability &&& twoPow 16 bit ↔
      (a.byte 130).getLsbD bit = (b.byte 130).getLsbD bit := by
  have own : ∀ bss : WlanBssidEx, bss.capability.getLsbD bit = (bss.byte 130).getLsbD bit := by
    intro bss
    rw [capability, BitVec.getLsbD_append, if_pos low]
  have one : twoPow 16 bit ≠ 0#16 := by
    intro zero
    have set := congrArg (fun word => BitVec.getLsbD word bit) zero
    simp [show bit < 16 by omega] at set
  rw [and_twoPow, and_twoPow, own, own]
  cases (a.byte 130).getLsbD bit <;> cases (b.byte 130).getLsbD bit <;> simp [one, one.symm]

theorem isSameNetwork_iff : a.isSameNetwork b ↔ SameNetwork a b := by
  have bss : capabilityBss = twoPow 16 0 := by decide
  have ibss : capabilityIbss = twoPow 16 1 := by decide
  unfold isSameNetwork
  simp only [Bool.and_eq_true, decide_eq_true_eq, bss, ibss, capability_eq_iff 0 (by omega),
    capability_eq_iff 1 (by omega)]
  constructor
  · rintro ⟨⟨⟨⟨⟨length, channel⟩, address⟩, name⟩, one⟩, zero⟩
    refine ⟨fun offset compared => ?_, fun bit low => ?_⟩
    · obtain inside | inside | inside | inside := compared
      · have same := macAddress_eq_iff.mp address (offset - 4) (by omega)
        rwa [show 4 + (offset - 4) = offset by omega] at same
      · have same := (ulong_eq_iff 12).mp length (offset - 12) (by omega)
        rwa [show 12 + (offset - 12) = offset by omega] at same
      · have same := (ulong_eq_iff 72).mp channel (offset - 72) (by omega)
        rwa [show 72 + (offset - 72) = offset by omega] at same
      · have same := (ssid_eq_iff length).mp name (offset - 16) (by omega)
        rwa [show 16 + (offset - 16) = offset by omega] at same
    · obtain rfl | rfl : bit = 0 ∨ bit = 1 := by omega
      · exact zero
      · exact one
  · rintro ⟨bytes, capability⟩
    have length : a.ulong 12 = b.ulong 12 :=
      (ulong_eq_iff 12).mpr fun i inside => bytes _ (.inr (.inl (by omega)))
    refine ⟨⟨⟨⟨⟨length, ?_⟩, ?_⟩, ?_⟩, capability 1 (by omega)⟩, capability 0 (by omega)⟩
    · exact (ulong_eq_iff 72).mpr fun i inside => bytes _ (.inr (.inr (.inl (by omega))))
    · exact macAddress_eq_iff.mpr fun i inside => bytes _ (.inl (by omega))
    · exact (ssid_eq_iff length).mpr fun i inside => bytes _ (.inr (.inr (.inr (by omega))))

theorem SameNetwork.length (same : SameNetwork a b) : a.ulong 12 = b.ulong 12 :=
  (ulong_eq_iff 12).mpr fun i inside => same.bytes _ (.inr (.inl (by omega)))

theorem SameNetwork.refl (a : WlanBssidEx) : SameNetwork a a := ⟨fun _ _ => rfl, fun _ _ => rfl⟩

theorem SameNetwork.compared (same : SameNetwork a b) {offset : Nat} (own : b.Compared offset) :
    a.Compared offset := by
  rw [Compared, same.length]
  exact own

theorem SameNetwork.symm (same : SameNetwork a b) : SameNetwork b a :=
  ⟨fun offset own => (same.bytes offset (same.compared own)).symm, fun bit low => (same.capability bit low).symm⟩

theorem SameNetwork.trans (first : SameNetwork a b) (second : SameNetwork b c) : SameNetwork a c := by
  refine ⟨fun offset own => ?_, fun bit low => ?_⟩
  · exact (first.bytes offset own).trans (second.bytes offset (first.symm.compared own))
  · exact (first.capability bit low).trans (second.capability bit low)

theorem SameNetwork.macAddress (same : SameNetwork a b) : a.macAddress = b.macAddress :=
  macAddress_eq_iff.mpr fun i inside => same.bytes _ (.inl (by omega))

theorem SameNetwork.mix (same : SameNetwork a b)
    (mixed : ∀ offset, c.byte offset = a.byte offset ∨ c.byte offset = b.byte offset) :
    SameNetwork c a := by
  refine SameNetwork.symm ⟨fun offset own => ?_, fun bit low => ?_⟩
  · obtain first | second := mixed offset
    · exact first.symm
    · exact (same.bytes offset own).trans second.symm
  · obtain first | second := mixed 130
    · rw [first]
    · rw [second, same.capability bit low]

theorem byte_setByte (bss : WlanBssidEx) (offset place : Nat) (value : U8) :
    (bss.setByte offset value).byte place = bss.byte place ∨
      place = offset ∧ (bss.setByte offset value).byte place = value := by
  unfold byte
  by_cases inside : place < bssidExSz
  · simp only [dif_pos inside, setByte]
    by_cases own : place = offset
    · exact .inr ⟨own, if_pos own⟩
    · exact .inl (if_neg own)
  · exact .inl (by simp only [dif_neg inside])

theorem ulong_byte (bss : WlanBssidEx) (offset : Nat) {i : Nat} (inside : i < 4) :
    (bss.ulong offset >>> (8 * i)).setWidth 8 = bss.byte (offset + i) := by
  ext bit low
  simp only [ulong, BitVec.getElem_setWidth, BitVec.getLsbD_ushiftRight, BitVec.getLsbD_append]
  obtain rfl | rfl | rfl | rfl : i = 0 ∨ i = 1 ∨ i = 2 ∨ i = 3 := by omega
  · rw [if_pos (by omega), show 8 * 0 + bit = bit by omega]
    exact getLsbD_eq_getElem low
  · rw [if_neg (by omega), if_pos (by omega), show 8 * 1 + bit - 8 = bit by omega]
    exact getLsbD_eq_getElem low
  · rw [if_neg (by omega), if_neg (by omega), if_pos (by omega), show 8 * 2 + bit - 8 - 8 = bit by omega]
    exact getLsbD_eq_getElem low
  · rw [if_neg (by omega), if_neg (by omega), if_neg (by omega), show 8 * 3 + bit - 8 - 8 - 8 = bit by omega]
    exact getLsbD_eq_getElem low

theorem sz_setUlong_zero (bss : WlanBssidEx) (value : U32) : (bss.setUlong 0 value).sz = bss.sz := by
  have same : (bss.setUlong 0 value).ulong 116 = bss.ulong 116 := by
    refine (ulong_eq_iff 116).mpr fun i inside => ?_
    unfold byte
    rw [dif_pos (by unfold bssidExSz; omega), dif_pos (by unfold bssidExSz; omega)]
    exact if_neg (show ¬ (0 ≤ 116 + i ∧ 116 + i < 0 + 4) by omega)
  rw [sz, ieLength, same]
  rfl

theorem swAntDivCompare_byte (antenna : AntennaDiversity) (dst src : WlanBssidEx) (place : Nat) :
    (antenna.swAntDivCompare dst src).byte place = src.byte place ∨
      (antenna.swAntDivCompare dst src).byte place = dst.byte place := by
  unfold AntennaDiversity.swAntDivCompare
  split
  · obtain kept | ⟨own, written⟩ :=
        byte_setByte (src.setUlong 52 dst.rssi) 114 place dst.optimumAntenna
    · rw [kept]
      by_cases inside : place < bssidExSz
      · by_cases within : 52 ≤ place ∧ place < 52 + 4
        · right
          have value := ulong_byte dst 52 (i := place - 52) (by omega)
          rw [show 52 + (place - 52) = place by omega] at value
          rw [← value, byte, dif_pos inside]
          exact if_pos within
        · left
          simp only [byte, dif_pos inside, setUlong, if_neg within]
      · left
        simp only [byte, dif_neg inside]
    · rw [written, own]
      exact .inr rfl
  · exact .inl rfl

theorem SameNetwork.updated (antenna : AntennaDiversity) (same : SameNetwork a b) (length : Nat) :
    SameNetwork (a.memcpy (antenna.swAntDivCompare a b) length) a := by
  refine same.mix fun offset => ?_
  rw [byte_memcpy]
  split
  · exact (swAntDivCompare_byte antenna a b offset).symm
  · exact .inl rfl

end WlanBssidEx

open WlanBssidEx

namespace ScanTable

variable {table after : ScanTable} {pnetwork : NetworkRef} {rest : List NetworkRef}

structure Sound (table : ScanTable) : Prop where
  once : ∀ pnetwork, table.freeBssPool.count pnetwork + table.scannedQueue.count pnetwork = 1
  counted : table.numOfScanned = table.scannedQueue.length
  distinct : ∀ one ∈ table.scannedQueue, ∀ two ∈ table.scannedQueue,
    (table.networks one).network.isSameNetwork (table.networks two).network → one = two

theorem Sound.unlisted (sound : table.Sound) (pool : table.freeBssPool = pnetwork :: rest) :
    pnetwork ∉ table.scannedQueue := by
  intro member
  have once := sound.once pnetwork
  have listed := List.count_pos_iff.mpr member
  rw [pool, List.count_cons_self] at once
  omega

theorem Sound.renamed (sound : table.Sound) (pool : after.freeBssPool = table.freeBssPool)
    (queue : after.scannedQueue = table.scannedQueue)
    (count : after.numOfScanned = table.numOfScanned)
    (names : ∀ pnetwork ∈ table.scannedQueue,
      SameNetwork (after.networks pnetwork).network (table.networks pnetwork).network) :
    after.Sound := by
  refine ⟨?_, ?_, ?_⟩
  · rw [pool, queue]
    exact sound.once
  · rw [count, queue]
    exact sound.counted
  · rw [queue]
    intro one first two second same
    refine sound.distinct one first two second (isSameNetwork_iff.mpr ?_)
    exact ((names one first).symm.trans (isSameNetwork_iff.mp same)).trans (names two second)

theorem Sound.recycled (sound : table.Sound) (pool : after.freeBssPool = table.freeBssPool)
    (queue : after.scannedQueue = table.scannedQueue)
    (count : after.numOfScanned = table.numOfScanned)
    (others : ∀ other, other ≠ pnetwork → (after.networks other).network = (table.networks other).network)
    (fresh : ∀ other ∈ table.scannedQueue, other ≠ pnetwork →
      ¬ SameNetwork (after.networks pnetwork).network (table.networks other).network) :
    after.Sound := by
  refine ⟨?_, ?_, ?_⟩
  · rw [pool, queue]
    exact sound.once
  · rw [count, queue]
    exact sound.counted
  · rw [queue]
    intro one first two second same
    have denoted := isSameNetwork_iff.mp same
    by_cases own : one = pnetwork <;> by_cases its : two = pnetwork
    · rw [own, its]
    · rw [own, others two its] at denoted
      exact absurd denoted (fresh two second its)
    · rw [its, others one own] at denoted
      exact absurd denoted.symm (fresh one first own)
    · rw [others one own, others two its] at denoted
      exact sound.distinct one first two second (isSameNetwork_iff.mpr denoted)

theorem Sound.inserted (sound : table.Sound) (pool : table.freeBssPool = pnetwork :: rest)
    (left : after.freeBssPool = rest)
    (queue : after.scannedQueue = table.scannedQueue ++ [pnetwork])
    (count : after.numOfScanned = table.numOfScanned + 1)
    (others : ∀ other, other ≠ pnetwork → (after.networks other).network = (table.networks other).network)
    (fresh : ∀ other ∈ table.scannedQueue,
      ¬ SameNetwork (after.networks pnetwork).network (table.networks other).network) :
    after.Sound := by
  have absent := sound.unlisted pool
  refine ⟨fun other => ?_, ?_, ?_⟩
  · have once := sound.once other
    rw [pool, List.count_cons] at once
    rw [left, queue, List.count_append, List.count_singleton]
    omega
  · rw [count, queue, List.length_append, sound.counted]
    simp
  · rw [queue]
    intro one first two second same
    have denoted := isSameNetwork_iff.mp same
    simp only [List.mem_append, List.mem_singleton] at first second
    obtain first | rfl := first <;> obtain second | rfl := second
    · rw [others one (fun own => absent (own ▸ first)), others two (fun own => absent (own ▸ second))] at denoted
      exact sound.distinct one first two second (isSameNetwork_iff.mpr denoted)
    · rw [others one (fun own => absent (own ▸ first))] at denoted
      exact absurd denoted.symm (fresh one first)
    · rw [others two (fun own => absent (own ▸ second))] at denoted
      exact absurd denoted (fresh two second)
    · rfl

theorem Sound.release (sound : table.Sound) (listed : pnetwork ∈ table.scannedQueue) :
    (table.release pnetwork).Sound := by
  have own := sound.once pnetwork
  have present := List.count_pos_iff.mpr listed
  refine ⟨fun other => ?_, ?_, ?_⟩
  · have once := sound.once other
    simp only [ScanTable.release, List.count_append, count_unlink, List.count_singleton]
    by_cases same : other = pnetwork
    · simp [same]
    · simpa [same, Ne.symm same] using once
  · have one : table.scannedQueue.count pnetwork = 1 := by omega
    have length := length_unlink pnetwork table.scannedQueue
    simp only [ScanTable.release, sound.counted]
    omega
  · intro one first two second same
    simp only [ScanTable.release, unlink, mem_filter] at first second
    exact sound.distinct one first.1 two second.1 same

theorem Sound.walk {step : ScanTable → NetworkRef → ScanTable}
    (one : ∀ table pnetwork, step table pnetwork = table ∨ step table pnetwork = table.release pnetwork)
    {todo : List NetworkRef} (sound : table.Sound) (nodup : todo.Nodup)
    (listed : ∀ pnetwork ∈ todo, pnetwork ∈ table.scannedQueue) :
    (todo.foldl step table).Sound := by
  induction todo generalizing table with
  | nil => exact sound
  | cons first rest ih =>
    obtain ⟨absent, nodup⟩ := List.nodup_cons.mp nodup
    rw [foldl_cons]
    have here := listed first List.mem_cons_self
    obtain stays | leaves := one table first
    · rw [stays]
      exact ih sound nodup fun pnetwork member => listed pnetwork (List.mem_cons_of_mem _ member)
    · rw [leaves]
      refine ih (sound.release here) nodup fun pnetwork member => ?_
      have other : pnetwork ≠ first := fun same => absent (same ▸ member)
      simpa [ScanTable.release, unlink, other] using
        listed pnetwork (List.mem_cons_of_mem _ member)

theorem Sound.nodup (sound : table.Sound) : table.scannedQueue.Nodup :=
  List.nodup_iff_count_le_one.mpr fun pnetwork => by
    have once := sound.once pnetwork
    omega

theorem freeNetwork_cases (hz now : U32) (adhoc isfreeall : Bool) (table : ScanTable) (pnetwork : NetworkRef) :
    table.freeNetwork hz now adhoc isfreeall pnetwork = table ∨
      (table.networks pnetwork).fixed = false ∧
        table.freeNetwork hz now adhoc isfreeall pnetwork = table.release pnetwork := by
  by_cases fixed : (table.networks pnetwork).fixed = true
  · exact .inl (if_pos fixed)
  · unfold freeNetwork
    dsimp only
    rw [if_neg fixed]
    generalize (if adhoc = true then 1 else scanqueueLifetime) = lifetime
    split
    · exact .inl rfl
    · exact .inr ⟨by simpa using fixed, rfl⟩

theorem Sound.freeNetworkQueue (hz now : U32) (adhoc isfreeall : Bool) (sound : table.Sound) :
    (table.freeNetworkQueue hz now adhoc isfreeall).Sound := by
  refine sound.walk (fun table pnetwork => ?_) sound.nodup fun _ listed => listed
  obtain stays | ⟨-, leaves⟩ := freeNetwork_cases hz now adhoc isfreeall table pnetwork
  · exact .inl stays
  · exact .inr leaves

theorem Sound.freeScanqueue (sound : table.Sound) : table.freeScanqueue.Sound :=
  sound.walk (fun _ _ => .inr rfl) sound.nodup fun _ listed => listed

theorem freeNetworkQueue_fixed (hz now : U32) (adhoc isfreeall : Bool) (table : ScanTable) :
    (table.freeNetworkQueue hz now adhoc isfreeall).networks = table.networks ∧
      ∀ pnetwork ∈ table.scannedQueue, (table.networks pnetwork).fixed = true →
        pnetwork ∈ (table.freeNetworkQueue hz now adhoc isfreeall).scannedQueue := by
  have walk : ∀ (todo : List NetworkRef) (table : ScanTable),
      (todo.foldl (freeNetwork hz now adhoc isfreeall) table).networks = table.networks ∧
        ∀ pnetwork ∈ table.scannedQueue, (table.networks pnetwork).fixed = true →
          pnetwork ∈ (todo.foldl (freeNetwork hz now adhoc isfreeall) table).scannedQueue := by
    intro todo
    induction todo with
    | nil => exact fun table => ⟨rfl, fun _ listed _ => listed⟩
    | cons first rest ih =>
      intro table
      rw [foldl_cons]
      obtain stays | ⟨unmarked, leaves⟩ := freeNetwork_cases hz now adhoc isfreeall table first
      · rw [stays]
        exact ih table
      · rw [leaves]
        obtain ⟨networks, kept⟩ := ih (table.release first)
        refine ⟨networks, fun pnetwork listed marked => kept pnetwork ?_ marked⟩
        have other : pnetwork ≠ first := by
          rintro rfl
          rw [unmarked] at marked
          cases marked
        simpa [ScanTable.release, unlink, other] using listed
  exact walk table.scannedQueue table

theorem freeNetworkQueue_listed (hz now : U32) (adhoc isfreeall : Bool) (table : ScanTable) :
    ∀ pnetwork ∈ (table.freeNetworkQueue hz now adhoc isfreeall).scannedQueue,
      pnetwork ∈ table.scannedQueue := by
  have walk : ∀ (todo : List NetworkRef) (table : ScanTable),
      ∀ pnetwork ∈ (todo.foldl (freeNetwork hz now adhoc isfreeall) table).scannedQueue,
        pnetwork ∈ table.scannedQueue := by
    intro todo
    induction todo with
    | nil => exact fun table pnetwork listed => listed
    | cons first rest ih =>
      intro table pnetwork listed
      rw [foldl_cons] at listed
      have earlier := ih _ pnetwork listed
      obtain stays | ⟨-, leaves⟩ := freeNetwork_cases hz now adhoc isfreeall table first
      · rwa [stays] at earlier
      · rw [leaves] at earlier
        simp only [ScanTable.release, unlink, mem_filter] at earlier
        exact earlier.1
  exact walk table.scannedQueue table

theorem oldestOf_mem {records : List NetworkRef} (oldest : table.oldestOf records = some pnetwork) :
    pnetwork ∈ records := by
  have walk : ∀ (todo : List NetworkRef) (found : Option NetworkRef),
      (∀ one, found = some one → one ∈ records) → (∀ one ∈ todo, one ∈ records) →
      ∀ one, todo.foldl (fun oldest pwlan => oldest.elim (some pwlan) fun found =>
        if timeAfter (table.networks found).lastScanned (table.networks pwlan).lastScanned then some pwlan
        else some found) found = some one → one ∈ records := by
    intro todo
    induction todo with
    | nil => exact fun found known _ => known
    | cons first rest ih =>
      intro found known listed
      rw [foldl_cons]
      have here := listed first List.mem_cons_self
      refine ih _ ?_ fun one member => listed one (List.mem_cons_of_mem _ member)
      intro one chosen
      cases found with
      | none => rwa [← Option.some.inj chosen]
      | some found =>
        dsimp only [Option.elim] at chosen
        split at chosen
        · rwa [← Option.some.inj chosen]
        · exact known one chosen
  exact walk records none (fun _ absurdity => by cases absurdity) (fun _ listed => listed) pnetwork
    (oldestOf_eq _ _ ▸ oldest)

def slot (table : ScanTable) : Option NetworkRef :=
  match table.freeBssPool with
  | [] => table.oldestOf table.scannedQueue
  | pnetwork :: _ => some pnetwork

def written (antenna : AntennaDiversity) (table : ScanTable) (target : WlanBssidEx)
    (pnetwork : NetworkRef) : WlanBssidEx :=
  let heard := target.setByte 114 antenna.curAntenna
  (table.networks pnetwork).network.memcpy
    (if table.freeBssPool = [] then heard else heard.setUlong 0 target.sz) target.sz.toNat

/-- What `update_scanned_network` does to the table. -/
inductive Updated (antenna : AntennaDiversity) (table : ScanTable) (target : WlanBssidEx) :
    ScanTable → Prop where
  | same : Updated antenna table target table
  | again {pnetwork : NetworkRef} {after : ScanTable}
      (listed : pnetwork ∈ table.scannedQueue)
      (denotes : SameNetwork (table.networks pnetwork).network target)
      (pool : after.freeBssPool = table.freeBssPool)
      (queue : after.scannedQueue = table.scannedQueue)
      (count : after.numOfScanned = table.numOfScanned)
      (others : ∀ other, other ≠ pnetwork → after.networks other = table.networks other)
      (marked : (after.networks pnetwork).fixed = (table.networks pnetwork).fixed)
      (network : SameNetwork (after.networks pnetwork).network
        (table.networks pnetwork).network) : Updated antenna table target after
  | recycled {pnetwork : NetworkRef} {after : ScanTable}
      (absent : ∀ other ∈ table.scannedQueue, ¬ SameNetwork (table.networks other).network target)
      (taken : table.slot = some pnetwork) (empty : table.freeBssPool = [])
      (listed : pnetwork ∈ table.scannedQueue)
      (pool : after.freeBssPool = table.freeBssPool)
      (queue : after.scannedQueue = table.scannedQueue)
      (count : after.numOfScanned = table.numOfScanned)
      (others : ∀ other, other ≠ pnetwork → after.networks other = table.networks other)
      (network : (after.networks pnetwork).network = table.written antenna target pnetwork) :
      Updated antenna table target after
  | inserted {pnetwork : NetworkRef} {rest : List NetworkRef} {after : ScanTable}
      (absent : ∀ other ∈ table.scannedQueue, ¬ SameNetwork (table.networks other).network target)
      (taken : table.slot = some pnetwork) (first : table.freeBssPool = pnetwork :: rest)
      (pool : after.freeBssPool = rest)
      (queue : after.scannedQueue = table.scannedQueue ++ [pnetwork])
      (count : after.numOfScanned = table.numOfScanned + 1)
      (others : ∀ other, other ≠ pnetwork → after.networks other = table.networks other)
      (network : (after.networks pnetwork).network = table.written antenna target pnetwork) :
      Updated antenna table target after

theorem updateScannedNetwork_updated (antenna : AntennaDiversity) (now : U32) (table : ScanTable)
    (target : WlanBssidEx) :
    Updated antenna table target (table.updateScannedNetwork antenna now target) := by
  unfold updateScannedNetwork
  cases found : table.matching target with
  | some pnetwork =>
    have listed := List.mem_of_find?_eq_some found
    have denotes := isSameNetwork_iff.mp (List.find?_some
      (p := fun pnetwork => (table.networks pnetwork).network.isSameNetwork target) found)
    dsimp only
    split
    · exact .same
    · refine .again listed denotes rfl rfl rfl (fun other different => ?_) ?_ ?_
      · simp only [updateNetwork, modify, update_of_ne different]
      · simp only [updateNetwork, modify, update_self]
      · simp only [updateNetwork, modify, update_self]
        exact denotes.updated antenna _
  | none =>
    have absent : ∀ other ∈ table.scannedQueue, ¬ SameNetwork (table.networks other).network target := by
      intro other listed same
      exact List.find?_eq_none.mp found other listed (isSameNetwork_iff.mpr same)
    dsimp only
    cases pool : table.freeBssPool with
    | nil =>
      rw [if_pos rfl]
      cases oldest : table.oldestOf table.scannedQueue with
      | none => exact .same
      | some pnetwork =>
        refine .recycled absent (by rw [slot, pool, oldest]) pool (oldestOf_mem oldest) rfl rfl
          rfl (fun other different => ?_) ?_
        · simp only [modify, update_of_ne different]
        · simp only [modify, update_self, written, pool, if_true]
    | cons pnetwork rest =>
      rw [if_neg (by simp)]
      simp only [allocNetwork, pool]
      refine .inserted absent (by rw [slot, pool]) pool rfl rfl rfl
        (fun other different => ?_) ?_
      · simp only [insertTail, modify, update_of_ne different]
      · simp [insertTail, modify, written, pool]

variable {found : Option NetworkRef}

theorem Sound.setFixed {fixed : Bool} (sound : table.Sound) : (table.setFixed fixed found).Sound := by
  refine sound.renamed (by simp) (by simp) (by simp) fun pnetwork _ => ?_
  rw [setFixed_network]
  exact .refl _

structure Dropped (found : Option NetworkRef) (table after : ScanTable) : Prop where
  sound : table.Sound → after.Sound
  listed : ∀ pnetwork ∈ after.scannedQueue, pnetwork ∈ table.scannedQueue
  kept : ∀ pnetwork ∈ table.scannedQueue, found ≠ some pnetwork → pnetwork ∈ after.scannedQueue
  fixed : ∀ pnetwork, found ≠ some pnetwork → (after.networks pnetwork).fixed = (table.networks pnetwork).fixed
  network : ∀ pnetwork, (after.networks pnetwork).network = (table.networks pnetwork).network

theorem setFixed_dropped (table : ScanTable) (found : Option NetworkRef) :
    Dropped found table (table.setFixed false found) where
  sound := Sound.setFixed
  listed pnetwork member := by simpa using member
  kept pnetwork member _ := by simpa using member
  fixed pnetwork other := by rw [setFixed_fixed, if_neg other]
  network pnetwork := setFixed_network

theorem freeNetworkNolock_dropped (listed : ∀ pnetwork, found = some pnetwork → pnetwork ∈ table.scannedQueue) :
    Dropped found table ((table.setFixed false found).freeNetworkNolock found) := by
  cases found with
  | none => exact setFixed_dropped table none
  | some pnetwork =>
    have unmarked : ((table.setFixed false (some pnetwork)).networks pnetwork).fixed = false := by
      rw [setFixed_fixed, if_pos rfl]
    have freed : (table.setFixed false (some pnetwork)).freeNetworkNolock (some pnetwork) =
        (table.setFixed false (some pnetwork)).release pnetwork := by
      rw [freeNetworkNolock, if_neg (by rw [unmarked]; decide)]
    have marks := setFixed_dropped table (some pnetwork)
    rw [freed]
    refine ⟨fun sound => ?_, fun other member => ?_, fun other member different => ?_, marks.fixed, marks.network⟩
    · refine (marks.sound sound).release ?_
      rw [setFixed_scannedQueue]
      exact listed pnetwork rfl
    · simp only [ScanTable.release, unlink, mem_filter] at member
      exact marks.listed other member.1
    · simp only [ScanTable.release, unlink, mem_filter]
      refine ⟨marks.kept other member different, ?_⟩
      simpa using fun same : other = pnetwork => different (by rw [same])

end ScanTable

namespace Mlme

variable {Sta Xmit Recv : Type} [DecidableEq Sta]

def StationLinked (mlme : Mlme Sta Xmit Recv) : Prop :=
  mlme.checkFwstate fwLinked ∧ mlme.checkFwstate stationState

def LinkRecord (mlme : Mlme Sta Xmit Recv) (pnetwork : NetworkRef) : Prop :=
  pnetwork ∈ mlme.table.scannedQueue ∧
    (mlme.table.networks pnetwork).network.isSameNetwork mlme.curNetwork.network

structure ScanSound (mlme : Mlme Sta Xmit Recv) : Prop where
  table : mlme.table.Sound
  marked : mlme.StationLinked → ∀ pnetwork, mlme.LinkRecord pnetwork →
    (mlme.table.networks pnetwork).fixed = true

def LinkLasts (before after : Mlme Sta Xmit Recv) : Prop :=
  before.StationLinked ∧ after.StationLinked ∧ after.curNetwork.network.isSameNetwork before.curNetwork.network

def LinkKept (before after : Mlme Sta Xmit Recv) : Prop :=
  LinkLasts before after → ∀ pnetwork, before.LinkRecord pnetwork → after.LinkRecord pnetwork

inductive ScanAction (Sta : Type) where
  | survey (antenna : AntennaDiversity) (now : U32) (pnetwork : WlanBssidEx)
  | freeNetworkQueue (hz now : U32) (isfreeall : Bool)
  | createbss (now : U32) (pnetwork : WlanBssidEx)
  | joinbss (hasWpsIe : WlanBssidEx → Bool) (memory : Bool) (pnetwork : WlanNetwork)
  | stadel (macaddr : MacAddr)
  | disassociate
  | joinTimeout (stopped : Bool)
  | other

structure OtherCode (before after : Mlme Sta Xmit Recv) : Prop where
  table : after.table = before.table
  link : after.StationLinked → before.StationLinked ∧ after.curNetwork = before.curNetwork

/-- The scan table, from `init_mlme_priv` on. -/
def scanSystem (Sta Xmit Recv : Type) [DecidableEq Sta] : TransitionSystem (Mlme Sta Xmit Recv) (ScanAction Sta) where
  initial mlme :=
    mlme.table.freeBssPool = finRange maxBssCnt ∧ mlme.table.scannedQueue = [] ∧
      mlme.table.numOfScanned = 0 ∧ mlme.fwState = 0
  step before action after :=
    match action with
    | .survey antenna now pnetwork => after = before.surveyEventCallback antenna now pnetwork
    | .freeNetworkQueue hz now isfreeall => after = before.freeNetworkQueue hz now isfreeall
    | .createbss now pnetwork => after = before.createbssCmdCallback now pnetwork
    | .joinbss hasWpsIe memory pnetwork =>
        after = before.joinbssEventPrehandle hasWpsIe memory pnetwork
    | .stadel macaddr => after = before.stadelEventCallback macaddr
    | .disassociate => after = before.set80211Disassociate
    | .joinTimeout stopped => after = before.joinTimeoutHandler stopped
    | .other => OtherCode before after

def stamped (mlme : Mlme Sta Xmit Recv) (pnetwork : WlanBssidEx) : Mlme Sta Xmit Recv :=
  if mlme.ownBeacon pnetwork then
    { mlme with
      curNetwork := { mlme.curNetwork with network := mlme.curNetwork.network.stamp pnetwork } }
  else mlme

def heard (antenna : AntennaDiversity) (mlme : Mlme Sta Xmit Recv) (pnetwork : WlanBssidEx) : WlanBssidEx :=
  ((mlme.stamped pnetwork).updateCurrentNetwork antenna (hideSsid pnetwork)).1

structure AddMeets (antenna : AntennaDiversity) (mlme : Mlme Sta Xmit Recv)
    (target : WlanBssidEx) : Prop where
  denotes : ∀ pwlan, mlme.table.slot = some pwlan →
    (mlme.table.written antenna target pwlan).isSameNetwork target
  spares : mlme.table.freeBssPool = [] → mlme.StationLinked → ∀ pwlan,
    mlme.table.slot = some pwlan → ¬ mlme.LinkRecord pwlan
  known : mlme.StationLinked → target.isSameNetwork mlme.curNetwork.network = false

structure SurveyMeets (antenna : AntennaDiversity) (mlme : Mlme Sta Xmit Recv)
    (pnetwork : WlanBssidEx) : Prop where
  current : mlme.ownBeacon pnetwork →
    (mlme.curNetwork.network.stamp pnetwork).isSameNetwork mlme.curNetwork.network
  own : mlme.ownBeacon pnetwork → ∀ ibssWlan,
    mlme.table.findNetwork pnetwork.macAddress = some ibssWlan →
      ((mlme.table.networks ibssWlan).network.stamp pnetwork).isSameNetwork
        (mlme.table.networks ibssWlan).network
  added : mlme.checkFwstate fwUnderLinking = false →
    (mlme.ownBeacon pnetwork → mlme.table.findNetwork pnetwork.macAddress = none) →
    mlme.table.matching (mlme.heard antenna pnetwork) = none →
      mlme.AddMeets antenna (mlme.heard antenna pnetwork)

def created (table : ScanTable) (pnetwork : WlanBssidEx) (pwlan : NetworkRef) : WlanBssidEx :=
  (table.networks pwlan).network.memcpy (pnetwork.setUlong 0 pnetwork.sz) pnetwork.sz.toNat

structure CreateMeets (mlme : Mlme Sta Xmit Recv) (now : U32) (pnetwork : WlanBssidEx) : Prop where
  accessPoint : mlme.checkFwstate apState → mlme.checkFwstate stationState → mlme.checkFwstate fwLinked
  fits : mlme.checkFwstate apState = false → (takeNetwork now mlme.table).1 ≠ none →
    pnetwork.sz.toNat ≤ bssidExSz
  unlinked : mlme.checkFwstate apState = false → (takeNetwork now mlme.table).1 ≠ none → ¬ mlme.StationLinked
  fresh : mlme.checkFwstate apState = false → ∀ pwlan,
    (takeNetwork now mlme.table).1 = some pwlan → ∀ other ∈ mlme.table.scannedQueue, other ≠ pwlan →
      (created mlme.table pnetwork pwlan).isSameNetwork
        (mlme.table.networks other).network = false

def SparesLink (mlme : Mlme Sta Xmit Recv) : Prop :=
  mlme.StationLinked → ∀ pwlan, mlme.table.findNetwork mlme.curAddr = some pwlan → ¬ mlme.LinkRecord pwlan

def Keeps (mlme : Mlme Sta Xmit Recv) (pnetwork : WlanNetwork) (pwlan : NetworkRef) : Prop :=
  mlme.MarksTarget pnetwork ∧ mlme.table.findNetwork pnetwork.network.macAddress = some pwlan ∨
    (mlme.table.networks pwlan).fixed = true ∧
      ¬ (mlme.MovesLink pnetwork ∧ mlme.table.findNetwork mlme.curAddr = some pwlan)

variable {pwlan : NetworkRef} {target : WlanBssidEx} {now : U32}

omit [DecidableEq Sta] in
theorem Keeps.fixed {mlme : Mlme Sta Xmit Recv} {pnetwork : WlanNetwork} (keeps : mlme.Keeps pnetwork pwlan) :
    ((mlme.joinTable pnetwork).networks pwlan).fixed = true := by
  rw [joinTable_fixed]
  obtain marks | ⟨fixed, stays⟩ := keeps
  · rw [if_pos marks]
  · rw [if_neg stays, fixed, ite_self]

structure JoinScanMeets (hasWpsIe : WlanBssidEx → Bool) (mlme : Mlme Sta Xmit Recv)
    (pnetwork : WlanNetwork) : Prop where
  cannot : 0 < pnetwork.joinRes.toInt → mlme.checkFwstate fwUnderLinking →
    mlme.CannotJoin pnetwork → mlme.MovesLink pnetwork → mlme.SparesLink
  /-- The record of the network that was joined is the one found for its address, or has the
  mark, and is not found for the address of the network that is left. -/
  joined : 0 < pnetwork.joinRes.toInt → mlme.checkFwstate fwUnderLinking → ¬ mlme.CannotJoin pnetwork →
    pnetwork.network.infrastructureMode = ndisInfrastructure →
      ∀ pwlan ∈ mlme.table.scannedQueue,
        (mlme.table.networks pwlan).network.isSameNetwork
          (mlme.curNetwork.network.memcpy pnetwork.network pnetwork.network.sz.toNat) →
        mlme.Keeps pnetwork pwlan
  retries : ¬ 0 < pnetwork.joinRes.toInt → pnetwork.joinRes ≠ -4 →
    match mlme.select hasWpsIe with
    | .rejoin _ => mlme.SparesLink ∧ mlme.checkFwstate (stationState ||| adhocState)
    | .join _ => mlme.checkFwstate fwLinked → mlme.checkFwstate (stationState ||| adhocState)
    | _ => True

def ScanMeets (mlme : Mlme Sta Xmit Recv) : ScanAction Sta → Prop
  | .survey antenna _ pnetwork =>
      pnetwork.sz.toNat ≤ bssidExSz → mlme.SurveyMeets antenna pnetwork
  | .createbss now pnetwork => mlme.CreateMeets now pnetwork
  | .joinbss hasWpsIe _ pnetwork =>
      pnetwork.network.sz.toNat ≤ bssidExSz → mlme.JoinScanMeets hasWpsIe (withLength pnetwork)
  | _ => True

structure Preserves (before after : Mlme Sta Xmit Recv) : Prop where
  sound : after.ScanSound
  kept : LinkKept before after

variable {before after : Mlme Sta Xmit Recv}

section

omit [DecidableEq Sta]

theorem Preserves.locked (inside : Mlme Sta Xmit Recv) (preserves : Preserves inside after)
    (table : inside.table = before.table) (state : inside.fwState = before.fwState)
    (current : inside.curNetwork = before.curNetwork) :
    Preserves before after.exitCritical := by
  refine ⟨⟨preserves.sound.table, preserves.sound.marked⟩, ?_⟩
  rintro ⟨linked, lasts⟩ pwlan record
  refine preserves.kept ⟨?_, ?_⟩ pwlan ?_
  · simpa only [StationLinked, checkFwstate, state] using linked
  · rw [current]
    exact lasts
  · unfold LinkRecord
    rw [table, current]
    exact record

theorem Preserves.congr {other : Mlme Sta Xmit Recv} (preserves : Preserves before after)
    (table : other.table = after.table) (current : other.curNetwork = after.curNetwork)
    (linked : other.StationLinked ↔ after.StationLinked) : Preserves before other := by
  have record : ∀ pwlan, other.LinkRecord pwlan ↔ after.LinkRecord pwlan := by
    intro pwlan
    rw [LinkRecord, table, current, LinkRecord]
  refine ⟨⟨table ▸ preserves.sound.table, fun holds pwlan own => ?_⟩, ?_⟩
  · rw [table]
    exact preserves.sound.marked (linked.mp holds) pwlan ((record pwlan).mp own)
  · rintro ⟨holds, still, lasts⟩ pwlan own
    rw [current] at lasts
    exact (record pwlan).mpr (preserves.kept ⟨holds, linked.mp still, lasts⟩ pwlan own)

theorem ScanSound.locked {inside : Mlme Sta Xmit Recv} (sound : before.ScanSound)
    (table : inside.table = before.table) (state : inside.fwState = before.fwState)
    (current : inside.curNetwork = before.curNetwork) : inside.ScanSound := by
  refine ⟨table ▸ sound.table, ?_⟩
  intro linked pwlan record
  rw [table]
  refine sound.marked ?_ pwlan ?_
  · simpa only [StationLinked, checkFwstate, state] using linked
  · rw [LinkRecord, table, current] at record
    exact record

theorem Preserves.unlinked (table : after.table.Sound) (unlinked : ¬ after.StationLinked) : Preserves before after :=
  ⟨⟨table, fun linked => absurd linked unlinked⟩, fun lasts => absurd lasts.2.1 unlinked⟩

theorem Preserves.sameLink (sound : before.ScanSound) (table : after.table.Sound)
    (linked : after.StationLinked → before.StationLinked)
    (current : after.StationLinked → SameNetwork after.curNetwork.network before.curNetwork.network)
    (forward : after.StationLinked → ∀ pwlan, before.LinkRecord pwlan → pwlan ∈ after.table.scannedQueue ∧
        SameNetwork (after.table.networks pwlan).network (before.table.networks pwlan).network)
    (backward : after.StationLinked → ∀ pwlan ∈ after.table.scannedQueue,
      SameNetwork (after.table.networks pwlan).network before.curNetwork.network →
        before.LinkRecord pwlan ∧ (after.table.networks pwlan).fixed = (before.table.networks pwlan).fixed) :
    Preserves before after := by
  refine ⟨⟨table, fun holds pwlan record => ?_⟩, fun lasts pwlan record => ?_⟩
  · have same := (isSameNetwork_iff.mp record.2).trans (current holds)
    obtain ⟨known, mark⟩ := backward holds pwlan record.1 same
    rw [mark]
    exact sound.marked (linked holds) pwlan known
  · obtain ⟨listed, same⟩ := forward lasts.2.1 pwlan record
    refine ⟨listed, isSameNetwork_iff.mpr ?_⟩
    exact (same.trans (isSameNetwork_iff.mp record.2)).trans (current lasts.2.1).symm

theorem Preserves.sameTable (sound : before.ScanSound) (table : after.table = before.table)
    (linked : after.StationLinked → before.StationLinked)
    (current : after.StationLinked → SameNetwork after.curNetwork.network before.curNetwork.network) :
    Preserves before after := by
  refine .sameLink sound (table ▸ sound.table) linked current
    (fun _ pwlan record => ?_) (fun _ pwlan listed same => ?_)
  · rw [table]
    exact ⟨record.1, .refl _⟩
  · rw [table] at listed same ⊢
    exact ⟨⟨listed, isSameNetwork_iff.mpr same⟩, rfl⟩

theorem freeNetworkQueue_preserves (sound : before.ScanSound) (hz now : U32) (isfreeall : Bool) :
    Preserves before (before.freeNetworkQueue hz now isfreeall) := by
  obtain ⟨networks, kept⟩ := ScanTable.freeNetworkQueue_fixed hz now
    (before.checkFwstate adhocMasterState || before.checkFwstate adhocState) isfreeall before.table
  have listed := ScanTable.freeNetworkQueue_listed hz now
    (before.checkFwstate adhocMasterState || before.checkFwstate adhocState) isfreeall before.table
  refine .sameLink sound (sound.table.freeNetworkQueue hz now _ isfreeall) id (fun _ => .refl _)
    (fun holds pwlan record => ?_) (fun holds pwlan member same => ?_)
  · refine ⟨kept pwlan record.1 (sound.marked holds pwlan record), ?_⟩
    simp only [Mlme.freeNetworkQueue, networks]
    exact .refl _
  · simp only [Mlme.freeNetworkQueue, networks] at same ⊢
    exact ⟨⟨listed pwlan member, isSameNetwork_iff.mpr same⟩, trivial⟩

end

theorem matching_eq_none {table : ScanTable}
    (absent : ∀ other ∈ table.scannedQueue, ¬ SameNetwork (table.networks other).network target) :
    table.matching target = none :=
  List.find?_eq_none.mpr fun other listed same => absent other listed (isSameNetwork_iff.mp same)

omit [DecidableEq Sta] in
theorem Preserves.updated {antenna : AntennaDiversity}
    (sound : before.ScanSound) (state : after.fwState = before.fwState)
    (current : SameNetwork after.curNetwork.network before.curNetwork.network)
    (meets : before.table.matching target = none → before.AddMeets antenna target)
    (table : ScanTable.Updated antenna before.table target after.table) :
    Preserves before after := by
  have linked : after.StationLinked → before.StationLinked := by
    intro holds
    simpa only [StationLinked, checkFwstate, state] using holds
  generalize next : after.table = result at table
  cases table with
  | same => exact .sameTable sound next linked fun _ => current
  | @again target _ listed denotes pool queue count others marked network =>
    have names : ∀ pwlan, SameNetwork (result.networks pwlan).network
        (before.table.networks pwlan).network := by
      intro pwlan
      by_cases own : pwlan = target
      · rw [own]
        exact network
      · rw [others pwlan own]
        exact .refl _
    have marks : ∀ pwlan, (result.networks pwlan).fixed = (before.table.networks pwlan).fixed := by
      intro pwlan
      by_cases own : pwlan = target
      · rw [own, marked]
      · rw [others pwlan own]
    refine .sameLink sound ?_ linked (fun _ => current) (fun _ pwlan record => ?_)
      (fun _ pwlan listed same => ?_)
    · rw [next]
      exact sound.table.renamed pool queue count fun pwlan _ => names pwlan
    · rw [next, queue]
      exact ⟨record.1, names pwlan⟩
    · rw [next] at listed same ⊢
      rw [queue] at listed
      exact ⟨⟨listed, isSameNetwork_iff.mpr ((names pwlan).symm.trans same)⟩, marks pwlan⟩
  | @recycled oldest _ absent taken empty listed pool queue count others network =>
    have adds := meets (matching_eq_none absent)
    have denotes : SameNetwork (result.networks oldest).network target := by
      rw [network]
      exact isSameNetwork_iff.mp (adds.denotes oldest taken)
    refine .sameLink sound ?_ linked (fun _ => current) (fun holds pwlan record => ?_)
      (fun holds pwlan listed same => ?_)
    · have fresh : ∀ other ∈ before.table.scannedQueue, other ≠ oldest →
          ¬ SameNetwork (result.networks oldest).network (before.table.networks other).network :=
        fun other member _ same => absent other member (same.symm.trans denotes)
      rw [next]
      exact sound.table.recycled pool queue count
        (fun other different => by rw [others other different]) fresh
    · have other : pwlan ≠ oldest := by
        rintro rfl
        exact adds.spares empty (linked holds) pwlan taken record
      rw [next, queue, others pwlan other]
      exact ⟨record.1, .refl _⟩
    · rw [next] at listed same ⊢
      rw [queue] at listed
      by_cases own : pwlan = oldest
      · rw [own] at same
        have known := isSameNetwork_iff.mpr (denotes.symm.trans same)
        exact absurd (known.symm.trans (adds.known (linked holds))) (by decide)
      · rw [others pwlan own] at same ⊢
        exact ⟨⟨listed, isSameNetwork_iff.mpr same⟩, rfl⟩
  | @inserted first rest _ absent taken head pool queue count others network =>
    have adds := meets (matching_eq_none absent)
    have denotes : SameNetwork (result.networks first).network target := by
      rw [network]
      exact isSameNetwork_iff.mp (adds.denotes first taken)
    have unlisted := sound.table.unlisted head
    refine .sameLink sound ?_ linked (fun _ => current) (fun holds pwlan record => ?_)
      (fun holds pwlan listed same => ?_)
    · rw [next]
      refine sound.table.inserted head pool queue count (fun other different => ?_)
        fun other member same => ?_
      · rw [others other different]
      · exact absent other member (same.symm.trans denotes)
    · have other : pwlan ≠ first := by
        rintro rfl
        exact unlisted record.1
      rw [next, queue, others pwlan other]
      exact ⟨List.mem_append_left _ record.1, .refl _⟩
    · rw [next] at listed same ⊢
      rw [queue] at listed
      by_cases own : pwlan = first
      · rw [own] at same
        have known := isSameNetwork_iff.mpr (denotes.symm.trans same)
        exact absurd (known.symm.trans (adds.known (linked holds))) (by decide)
      · rw [others pwlan own] at same ⊢
        refine ⟨⟨?_, isSameNetwork_iff.mpr same⟩, rfl⟩
        simpa [own] using listed

variable (antenna : AntennaDiversity)

omit [DecidableEq Sta] in
theorem updateCurrentNetwork_eq (mlme : Mlme Sta Xmit Recv) (pnetwork : WlanBssidEx) :
    ∃ curNetwork, (mlme.updateCurrentNetwork antenna pnetwork).2 = { mlme with curNetwork } ∧
      SameNetwork curNetwork.network mlme.curNetwork.network := by
  unfold updateCurrentNetwork
  dsimp only
  split
  · rename_i same
    exact ⟨_, rfl, (isSameNetwork_iff.mp same.2).updated antenna _⟩
  · exact ⟨_, rfl, .refl _⟩

omit [DecidableEq Sta] in
theorem survey_preserves (now : U32) (pnetwork : WlanBssidEx)
    (sound : before.ScanSound) (meets : before.SurveyMeets antenna pnetwork) :
    Preserves before
      (match before.ownBeacon pnetwork, before.table.findNetwork pnetwork.macAddress with
        | true, some ibssWlan =>
            { before.stamped pnetwork with
              table := (before.stamped pnetwork).table.modify ibssWlan fun record =>
                { record with network := record.network.stamp pnetwork } }
        | _, _ =>
            if (before.stamped pnetwork).checkFwstate fwUnderLinking then before.stamped pnetwork
            else (before.stamped pnetwork).rtwAddNetwork antenna now (hideSsid pnetwork)) := by
  have frame : (before.stamped pnetwork).table = before.table ∧
      (before.stamped pnetwork).fwState = before.fwState ∧
      SameNetwork (before.stamped pnetwork).curNetwork.network before.curNetwork.network := by
    unfold stamped
    split
    · rename_i own
      exact ⟨rfl, rfl, isSameNetwork_iff.mp (meets.current own)⟩
    · exact ⟨rfl, rfl, .refl _⟩
  obtain ⟨table, state, current⟩ := frame
  have rest : (before.ownBeacon pnetwork → before.table.findNetwork pnetwork.macAddress = none) →
      Preserves before
        (if (before.stamped pnetwork).checkFwstate fwUnderLinking then before.stamped pnetwork
        else (before.stamped pnetwork).rtwAddNetwork antenna now (hideSsid pnetwork)) := by
    intro other
    cases under : (before.stamped pnetwork).checkFwstate fwUnderLinking with
    | true =>
      rw [if_pos rfl]
      refine .sameTable sound table (fun holds => ?_) fun _ => current
      simpa only [StationLinked, checkFwstate, state] using holds
    | false =>
      rw [if_neg (by decide)]
      obtain ⟨curNetwork, updated, same⟩ :=
        updateCurrentNetwork_eq antenna (before.stamped pnetwork) (hideSsid pnetwork)
      have free : before.checkFwstate fwUnderLinking = false := by
        rwa [checkFwstate, state] at under
      have added : (before.stamped pnetwork).rtwAddNetwork antenna now (hideSsid pnetwork) =
          { before.stamped pnetwork with
            curNetwork
            table := before.table.updateScannedNetwork antenna now
              (before.heard antenna pnetwork) } := by
        rw [← table]
        exact congrArg (fun state : Mlme Sta Xmit Recv =>
          { state with
            table := state.table.updateScannedNetwork antenna now
              (before.heard antenna pnetwork) }) updated
      rw [added]
      exact .updated sound state (same.trans current) (meets.added free other)
        (ScanTable.updateScannedNetwork_updated antenna now before.table _)
  cases own : before.ownBeacon pnetwork with
  | false => exact rest fun holds => absurd (own.symm.trans holds) (by decide)
  | true =>
    cases found : before.table.findNetwork pnetwork.macAddress with
    | none => exact rest fun _ => found
    | some ibssWlan =>
      have names : ∀ pwlan, SameNetwork
          ((before.table.modify ibssWlan fun record =>
            { record with network := record.network.stamp pnetwork }).networks pwlan).network
          (before.table.networks pwlan).network := by
        intro pwlan
        by_cases its : pwlan = ibssWlan
        · rw [its]
          simp only [ScanTable.modify, update_self]
          exact isSameNetwork_iff.mp (meets.own own ibssWlan found)
        · simp only [ScanTable.modify, update_of_ne its]
          exact .refl _
      have marks : ∀ pwlan, ((before.table.modify ibssWlan fun record =>
          { record with network := record.network.stamp pnetwork }).networks pwlan).fixed =
          (before.table.networks pwlan).fixed := by
        intro pwlan
        by_cases its : pwlan = ibssWlan
        · simp only [its, ScanTable.modify, update_self]
        · simp only [ScanTable.modify, update_of_ne its]
      rw [table]
      refine .sameLink sound (sound.table.renamed rfl rfl rfl fun pwlan _ => names pwlan)
        (fun holds => ?_) (fun _ => current) (fun _ pwlan record => ⟨record.1, names pwlan⟩)
        fun _ pwlan listed same => ⟨⟨listed, isSameNetwork_iff.mpr ?_⟩, marks pwlan⟩
      · simpa only [StationLinked, checkFwstate, state] using holds
      · exact (names pwlan).symm.trans same

theorem takeNetwork_none {table after : ScanTable}
    (taken : takeNetwork now table = (none, after)) : after = table := by
  cases pool : table.freeBssPool with
  | cons first rest => simp [takeNetwork, ScanTable.allocNetwork, pool] at taken
  | nil =>
    cases oldest : table.getOldestWlanNetwork with
    | none =>
      simp only [takeNetwork, ScanTable.allocNetwork, pool, oldest, Prod.mk.injEq, true_and] at taken
      exact taken.symm
    | some found => simp [takeNetwork, ScanTable.allocNetwork, pool, oldest] at taken

omit [DecidableEq Sta] in
theorem heard_enterCritical (mlme : Mlme Sta Xmit Recv) (pnetwork : WlanBssidEx) :
    mlme.enterCritical.heard antenna pnetwork = mlme.heard antenna pnetwork := by
  have own : mlme.enterCritical.ownBeacon pnetwork = mlme.ownBeacon pnetwork := rfl
  unfold heard stamped
  rw [own]
  have answer : ∀ state : Mlme Sta Xmit Recv,
      (state.enterCritical.updateCurrentNetwork antenna (hideSsid pnetwork)).1 =
        (state.updateCurrentNetwork antenna (hideSsid pnetwork)).1 := by
    intro state
    unfold updateCurrentNetwork
    dsimp only
    have linked : state.enterCritical.checkFwstate fwLinked = state.checkFwstate fwLinked := rfl
    have current : state.enterCritical.curNetwork = state.curNetwork := rfl
    rw [linked, current]
    split <;> rfl
  split
  · exact answer { mlme with
      curNetwork := { mlme.curNetwork with network := mlme.curNetwork.network.stamp pnetwork } }
  · exact answer mlme

omit [DecidableEq Sta] in
theorem surveyEvent_preserves (now : U32) (pnetwork : WlanBssidEx) (sound : before.ScanSound)
    (meets : pnetwork.sz.toNat ≤ bssidExSz → before.SurveyMeets antenna pnetwork) :
    Preserves before (before.surveyEventCallback antenna now pnetwork) := by
  unfold surveyEventCallback
  split
  · exact .sameTable sound rfl id fun _ => .refl _
  · rename_i fits
    have meets := meets (Nat.le_of_not_lt fits)
    have added := meets.added
    rw [← heard_enterCritical] at added
    refine .locked before.enterCritical ?_ rfl rfl rfl
    exact survey_preserves antenna now pnetwork (sound.locked rfl rfl rfl)
      ⟨meets.current, meets.own, fun free other absent =>
        ⟨(added free other absent).denotes, (added free other absent).spares, (added free other absent).known⟩⟩

theorem takeNetwork_cases {table after : ScanTable} (taken : takeNetwork now table = (some pwlan, after)) :
    (∀ other, (after.networks other).network = (table.networks other).network) ∧
      ((∃ rest, table.freeBssPool = pwlan :: rest ∧ after.freeBssPool = rest ∧
          after.scannedQueue = table.scannedQueue ++ [pwlan] ∧
          after.numOfScanned = table.numOfScanned + 1) ∨
        pwlan ∈ table.scannedQueue ∧ after.freeBssPool = table.freeBssPool ∧
          after.scannedQueue = table.scannedQueue ∧
          after.numOfScanned = table.numOfScanned) := by
  have names : ∀ (state : ScanTable) (change : WlanNetwork → WlanNetwork),
      (∀ record, (change record).network = record.network) → ∀ other,
      ((state.modify pwlan change).networks other).network = (state.networks other).network := by
    intro state change keeps other
    by_cases own : other = pwlan
    · simp only [own, ScanTable.modify, update_self, keeps]
    · simp only [ScanTable.modify, update_of_ne own]
  cases pool : table.freeBssPool with
  | cons first rest =>
    simp only [takeNetwork, ScanTable.allocNetwork, pool, Prod.mk.injEq, Option.some.injEq] at taken
    obtain ⟨rfl, rfl⟩ := taken
    refine ⟨?_, .inl ⟨rest, rfl, rfl, rfl, rfl⟩⟩
    exact names { table with freeBssPool := rest, numOfScanned := table.numOfScanned + 1 }
      (fun record =>
        { record with networkType := 0, fixed := false, lastScanned := now, aid := 0, joinRes := 0 })
      fun _ => rfl
  | nil =>
    cases oldest : table.getOldestWlanNetwork with
    | none => simp [takeNetwork, ScanTable.allocNetwork, pool, oldest] at taken
    | some found =>
      simp only [takeNetwork, ScanTable.allocNetwork, pool, oldest, Prod.mk.injEq, Option.some.injEq] at taken
      obtain ⟨rfl, rfl⟩ := taken
      have listed := (mem_filter.mp (ScanTable.oldestOf_mem oldest)).1
      exact ⟨names table (fun record => { record with lastScanned := now }) fun _ => rfl,
        .inr ⟨listed, pool, rfl, rfl⟩⟩

theorem takeNetwork_sound {table after : ScanTable}
    (sound : table.Sound) (taken : takeNetwork now table = (some pwlan, after))
    (network : WlanBssidEx)
    (fresh : ∀ other ∈ table.scannedQueue, other ≠ pwlan → ¬ SameNetwork network (table.networks other).network) :
    (after.modify pwlan fun record => { record with network }).Sound := by
  obtain ⟨names, ⟨rest, pool, left, queue, count⟩ | ⟨listed, pool, queue, count⟩⟩ :=
    takeNetwork_cases taken
  · have unlisted := sound.unlisted pool
    refine sound.inserted pool left queue count (fun other different => ?_)
      fun other member same => ?_
    · simp only [ScanTable.modify, update_of_ne different, names]
    · simp only [ScanTable.modify, update_self] at same
      exact fresh other member (fun own => unlisted (own ▸ member)) same
  · have others : ∀ other, other ≠ pwlan →
        ((after.modify pwlan fun record => { record with network }).networks other).network =
          (table.networks other).network := by
      intro other different
      simp only [ScanTable.modify, update_of_ne different, names]
    refine sound.recycled pool queue count others fun other member different same => ?_
    simp only [ScanTable.modify, update_self] at same
    exact fresh other member different same

variable (mlme : Mlme Sta Xmit Recv)

omit [DecidableEq Sta] in
theorem indicateConnect_linked (holds : mlme.indicateConnect.StationLinked) : mlme.checkFwstate stationState := by
  have mode : (mlme.fwState ||| fwLinked) &&& stationState = mlme.fwState &&& stationState := by
    rw [BitVec.and_comm, BitVec.and_or_distrib_left, BitVec.and_comm]
    exact or_zero
  have state := holds.2
  rw [checkFwstate] at state ⊢
  rwa [← mode]

theorem createbss_locked (now : U32) (pnetwork : WlanBssidEx) (sound : before.ScanSound)
    (meets : before.CreateMeets now pnetwork) :
    Preserves before
      (if before.checkFwstate apState then
        match before.stapriv.getStainfo pnetwork.macAddress with
        | some _ => before.indicateConnect
        | none =>
            match before.allocStainfo pnetwork.macAddress with
            | (some _, mlme) => mlme.indicateConnect
            | (none, mlme) => mlme
      else
        match takeNetwork now before.table with
        | (none, table) => { before with table }
        | (some pwlan, table) =>
            { before with
              table := table.modify pwlan fun record =>
                { record with
                  network := record.network.memcpy (pnetwork.setUlong 0 pnetwork.sz)
                    (pnetwork.setUlong 0 pnetwork.sz).sz.toNat }
              curNetwork :=
                { before.curNetwork with
                  network := before.curNetwork.network.memcpy (pnetwork.setUlong 0 pnetwork.sz)
                    (pnetwork.setUlong 0 pnetwork.sz).sz.toNat } }.clearFwstate
              fwUnderLinking) := by
  cases accessPoint : before.checkFwstate apState with
  | true =>
    rw [if_pos rfl]
    have connected : ∀ state : Mlme Sta Xmit Recv, state.table = before.table →
        state.fwState = before.fwState → state.curNetwork = before.curNetwork →
        Preserves before state.indicateConnect := by
      intro state table mode current
      refine .sameTable sound table (fun holds => ?_) fun _ => ?_
      · have station := indicateConnect_linked state holds
        rw [checkFwstate, mode] at station
        exact ⟨meets.accessPoint accessPoint station, station⟩
      · rw [← current]
        exact .refl _
    cases before.stapriv.getStainfo pnetwork.macAddress with
    | some psta => exact connected before rfl rfl rfl
    | none =>
      unfold allocStainfo
      rcases before.stapriv.allocStainfo pnetwork.macAddress with ⟨_ | psta, stapriv⟩
      · exact .sameTable sound rfl id fun _ => .refl _
      · exact connected _ rfl rfl rfl
  | false =>
    rw [if_neg (by decide)]
    rcases taken : takeNetwork now before.table with ⟨_ | pwlan, table⟩
    · have kept : table = before.table := takeNetwork_none taken
      exact .sameTable sound kept id fun _ => .refl _
    · have some : (takeNetwork now before.table).1 = some pwlan := by rw [taken]
      have unlinked := meets.unlinked accessPoint (by rw [some]; exact Option.some_ne_none pwlan)
      have named : created before.table pnetwork pwlan =
          (table.networks pwlan).network.memcpy (pnetwork.setUlong 0 pnetwork.sz)
            (pnetwork.setUlong 0 pnetwork.sz).sz.toNat := by
        rw [(takeNetwork_cases taken).1 pwlan, created, sz_setUlong_zero]
      dsimp only
      generalize next : ({ before with
        table := table.modify pwlan fun record =>
          { record with
            network := record.network.memcpy (pnetwork.setUlong 0 pnetwork.sz)
              (pnetwork.setUlong 0 pnetwork.sz).sz.toNat }
        curNetwork :=
          { before.curNetwork with
            network := before.curNetwork.network.memcpy (pnetwork.setUlong 0 pnetwork.sz)
              (pnetwork.setUlong 0 pnetwork.sz).sz.toNat } } : Mlme Sta Xmit Recv) = state
      obtain ⟨fwState, cleared, others⟩ := clearFwstate_eq state fwUnderLinking
      rw [cleared]
      refine .unlinked ?_ fun holds => unlinked ?_
      · have sound := takeNetwork_sound sound.table taken (created before.table pnetwork pwlan)
          fun other member different same => by
            have fresh := meets.fresh accessPoint pwlan some other member different
            exact absurd (fresh.symm.trans (isSameNetwork_iff.mpr same)) (by decide)
        rw [named] at sound
        rw [← next]
        exact sound
      · have mode : state.fwState = before.fwState := by rw [← next]
        have linked := others fwLinked (by decide)
        have station := others stationState (by decide)
        simpa only [StationLinked, checkFwstate, linked, station, mode] using holds

theorem createbss_preserves (now : U32) (pnetwork : WlanBssidEx) (sound : before.ScanSound)
    (meets : before.CreateMeets now pnetwork) :
    Preserves before (before.createbssCmdCallback now pnetwork) :=
  .locked { before with assocTimer := none }.enterCritical
    (@createbss_locked Sta Xmit Recv _ { before with assocTimer := none }.enterCritical now
      pnetwork (sound.locked rfl rfl rfl) { meets with }) rfl rfl rfl

theorem freeAssocResources_dropped : ScanTable.Dropped (mlme.table.findNetwork mlme.curAddr) mlme.table
        mlme.freeAssocResources.table ∧
      mlme.freeAssocResources.fwState = mlme.fwState ∧
      mlme.freeAssocResources.curNetwork = mlme.curNetwork := by
  obtain ⟨stapriv, staKeys, stations⟩ := freeAssocStations_eq mlme
  unfold freeAssocResources
  rw [stations]
  refine ⟨?_, rfl, rfl⟩
  dsimp only
  split
  · exact ScanTable.freeNetworkNolock_dropped fun pwlan found =>
      (ScanTable.findNetwork_eq_some found).1
  · exact ScanTable.setFixed_dropped mlme.table _

omit [DecidableEq Sta] in
theorem removeCurrent_sound (sound : mlme.table.Sound) : mlme.removeCurrent.table.Sound :=
  (ScanTable.freeNetworkNolock_dropped fun _ found =>
    (ScanTable.findNetwork_eq_some found).1).sound sound

omit [DecidableEq Sta] in
theorem clearFwstate_frame (state : U32) : (mlme.clearFwstate state).table = mlme.table ∧
      (mlme.clearFwstate state).curNetwork = mlme.curNetwork := by
  unfold clearFwstate
  split <;> exact ⟨rfl, rfl⟩

theorem disconnected (sound : mlme.table.Sound) : mlme.indicateDisconnect.freeAssocResources.table.Sound ∧
      mlme.indicateDisconnect.freeAssocResources.checkFwstate fwLinked = false := by
  obtain ⟨dropped, mode, -⟩ := freeAssocResources_dropped mlme.indicateDisconnect
  refine ⟨dropped.sound ?_, ?_⟩
  · rw [indicateDisconnect]
    exact (clearFwstate_frame mlme fwLinked).1 ▸ sound
  · rw [checkFwstate, mode]
    exact indicateDisconnect_unlinked mlme

theorem disassociate_preserves (sound : before.ScanSound) : Preserves before before.set80211Disassociate := by
  refine .locked before.enterCritical ?_ rfl rfl rfl
  have sound : before.enterCritical.ScanSound := sound.locked rfl rfl rfl
  generalize before.enterCritical = before at sound
  cases linked : before.checkFwstate fwLinked with
  | false => exact .sameTable sound rfl id fun _ => .refl _
  | true =>
    obtain ⟨table, off⟩ := disconnected before sound.table
    rw [if_pos rfl]
    exact .unlinked table fun holds => absurd (holds.1.symm.trans off) (by decide)

omit [DecidableEq Sta] in
theorem joinTimeout_preserves (stopped : Bool) (sound : before.ScanSound) :
    Preserves before (before.joinTimeoutHandler stopped) := by
  cases stopped with
  | true => exact .sameTable sound rfl id fun _ => .refl _
  | false =>
    refine .locked before.enterCritical ?_ rfl rfl rfl
    have entered : before.enterCritical.ScanSound := sound.locked rfl rfl rfl
    have table := (clearFwstate_frame before.enterCritical fwUnderLinking).1
    generalize before.enterCritical = inside at entered table
    generalize inside.clearFwstate fwUnderLinking = cleared at table
    have off : (if cleared.checkFwstate fwLinked then
          cleared.resetSecuritypriv.clearFwstate fwLinked else cleared).checkFwstate fwLinked =
        false ∧
        (if cleared.checkFwstate fwLinked then
          cleared.resetSecuritypriv.clearFwstate fwLinked else cleared).table =
        cleared.table := by
      cases linked : cleared.checkFwstate fwLinked with
      | false => exact ⟨linked, rfl⟩
      | true =>
        exact ⟨clearFwstate_unlinked cleared.resetSecuritypriv,
          (clearFwstate_frame cleared.resetSecuritypriv fwLinked).1⟩
    refine .unlinked ?_ fun holds => absurd (holds.1.symm.trans off.1) (by decide)
    rw [off.2, table]
    exact entered.table.freeScanqueue

theorem stadelAdhoc_table (macaddr : MacAddr) (sound : mlme.table.Sound) (unlinked : ¬ mlme.StationLinked) :
    (if mlme.checkFwstate (adhocMasterState ||| adhocState) then
        let mlme := mlme.freeStainfo (mlme.stapriv.getStainfo macaddr)
        if mlme.stapriv.asocStaCount = 1 then
          let mlme := mlme.removeCurrent
          if mlme.checkFwstate adhocState then
            (mlme.setFwstate adhocMasterState).clearFwstate adhocState
          else mlme
        else mlme
      else mlme).table.Sound ∧
    ¬ (if mlme.checkFwstate (adhocMasterState ||| adhocState) then
        let mlme := mlme.freeStainfo (mlme.stapriv.getStainfo macaddr)
        if mlme.stapriv.asocStaCount = 1 then
          let mlme := mlme.removeCurrent
          if mlme.checkFwstate adhocState then
            (mlme.setFwstate adhocMasterState).clearFwstate adhocState
          else mlme
        else mlme
      else mlme).StationLinked := by
  obtain ⟨stapriv, freed⟩ := freeStainfo_eq mlme (mlme.stapriv.getStainfo macaddr)
  dsimp only
  rw [freed]
  split
  · split
    · have removed := removeCurrent_sound { mlme with stapriv } sound
      have frame : ({ mlme with stapriv } : Mlme Sta Xmit Recv).removeCurrent.fwState = mlme.fwState := rfl
      generalize ({ mlme with stapriv } : Mlme Sta Xmit Recv).removeCurrent = after at removed frame
      split
      · obtain ⟨fwState, cleared, others⟩ :=
          clearFwstate_eq (after.setFwstate adhocMasterState) adhocState
        have bits : ∀ other, adhocState &&& other = 0#32 → adhocMasterState &&& other = 0#32 →
            fwState &&& other = mlme.fwState &&& other := by
          intro other one two
          rw [others other one]
          change (after.fwState ||| adhocMasterState) &&& other = _
          rw [BitVec.and_comm, BitVec.and_or_distrib_left, BitVec.and_comm _ adhocMasterState, two,
            or_zero, BitVec.and_comm, frame]
        have linked := bits fwLinked (by decide) (by decide)
        have station := bits stationState (by decide) (by decide)
        rw [cleared]
        refine ⟨removed, fun holds => unlinked ?_⟩
        simpa only [StationLinked, checkFwstate, linked, station] using holds
      · refine ⟨removed, fun holds => unlinked ?_⟩
        simpa only [StationLinked, checkFwstate, frame] using holds
    · exact ⟨sound, unlinked⟩
  · exact ⟨sound, unlinked⟩

theorem stadel_preserves (macaddr : MacAddr) (sound : before.ScanSound) :
    Preserves before (before.stadelEventCallback macaddr) := by
  unfold stadelEventCallback
  split
  · exact .sameTable sound rfl id fun _ => .refl _
  · refine .locked before.enterCritical ?_ rfl rfl rfl
    have entered : before.enterCritical.ScanSound := sound.locked rfl rfl rfl
    generalize before.enterCritical = inside at entered
    have first : (if inside.checkFwstate stationState then
          inside.freeAssocResources.indicateDisconnect.removeCurrent else inside).table.Sound ∧
        ¬ (if inside.checkFwstate stationState then
          inside.freeAssocResources.indicateDisconnect.removeCurrent else
            inside).StationLinked := by
      cases station : inside.checkFwstate stationState with
      | false =>
        exact ⟨entered.table, fun holds => absurd (holds.2.symm.trans station) (by decide)⟩
      | true =>
        have off := indicateDisconnect_unlinked inside.freeAssocResources
        refine ⟨removeCurrent_sound _ ?_, fun holds =>
          absurd (holds.1.symm.trans off) (by decide)⟩
        rw [indicateDisconnect]
        exact (clearFwstate_frame inside.freeAssocResources fwLinked).1 ▸
          (freeAssocResources_dropped inside).1.sound entered.table
    obtain ⟨table, unlinked⟩ := stadelAdhoc_table _ macaddr first.1 first.2
    exact .unlinked table unlinked

omit [DecidableEq Sta] in
theorem joinTable_sound (pnetwork : WlanNetwork) (sound : before.table.Sound) :
    (before.joinTable pnetwork).Sound := by
  obtain ⟨pool, queue, count, names⟩ := joinTable_frame before pnetwork
  refine sound.renamed pool queue count fun pwlan _ => ?_
  rw [names]
  exact .refl _

theorem cannotJoin_preserves {pnetwork : WlanNetwork} (sound : before.ScanSound)
    (spares : before.MovesLink pnetwork → before.SparesLink) :
    Preserves before
      { before with
        retry := 0
        table := before.joinTable pnetwork
        stapriv := before.staprivFreed pnetwork } := by
  obtain ⟨-, queue, -, names⟩ := joinTable_frame before pnetwork
  refine .sameLink sound (joinTable_sound pnetwork sound.table) id (fun _ => .refl _)
    (fun _ pwlan record => ?_) (fun holds pwlan listed same => ?_)
  · dsimp only
    rw [queue, names]
    exact ⟨record.1, .refl _⟩
  · dsimp only at listed same ⊢
    rw [queue] at listed
    rw [names] at same
    have record : before.LinkRecord pwlan := ⟨listed, isSameNetwork_iff.mpr same⟩
    have linked : before.checkFwstate fwLinked = true := holds.1
    refine ⟨record, ?_⟩
    rw [joinTable_fixed]
    by_cases moves : before.MovesLink pnetwork
    · rw [if_neg, if_neg]
      · exact fun found => spares moves holds pwlan found.2 record
      · intro found
        exact moves.address (same.macAddress.symm.trans (ScanTable.findNetwork_eq_some found.2).2)
    · have unmarked : ¬ before.MarksTarget pnetwork := by
        intro marks
        cases address : before.theSameMacaddr pnetwork with
        | true => exact marks.2 ⟨linked, address⟩
        | false => exact moves ⟨linked, address⟩
      rw [if_neg fun found => unmarked found.1, if_neg fun found => moves found.1]

omit [DecidableEq Sta] in
theorem completedJoin_preserves {pnetwork : WlanNetwork} {stapriv : Adapter Sta Xmit Recv}
    {staKeys : Sta → StaKeys} {security : JoinSecurity} (sound : before.ScanSound)
    (marked : pnetwork.network.infrastructureMode = ndisInfrastructure → ∀ pwlan ∈ before.table.scannedQueue,
        (before.table.networks pwlan).network.isSameNetwork
          (before.curNetwork.network.memcpy pnetwork.network pnetwork.network.sz.toNat) →
        ((before.joinTable pnetwork).networks pwlan).fixed = true) :
    Preserves before
      ({ before with
        retry := 0
        table := before.joinTable pnetwork
        stapriv, staKeys, security }.updateCurNetwork pnetwork) := by
  obtain ⟨-, queue, -, names⟩ := joinTable_frame before pnetwork
  have table := joinTable_sound pnetwork sound.table
  rw [updateCurNetwork_eq]
  by_cases infrastructure : pnetwork.network.infrastructureMode = ndisInfrastructure
  · refine ⟨⟨table, fun _ pwlan record => ?_⟩, fun lasts pwlan record => ?_⟩
    · obtain ⟨listed, same⟩ := record
      rw [queue] at listed
      rw [names] at same
      exact marked infrastructure pwlan listed same
    · obtain ⟨listed, same⟩ := record
      refine ⟨?_, isSameNetwork_iff.mpr ?_⟩
      · dsimp only
        rwa [queue]
      · dsimp only
        rw [names]
        exact (isSameNetwork_iff.mp same).trans (isSameNetwork_iff.mp lasts.2.2).symm
  · refine .unlinked table fun holds => ?_
    have off := holds.1
    simp only [checkFwstate, if_neg infrastructure] at off
    split at off
    · exact absurd off (by decide)
    · exact absurd off (by decide)

omit [DecidableEq Sta] in
theorem joinbssCmd_mode (memory : Bool) (mlme : Mlme Sta Xmit Recv) (pnetwork : NetworkRef)
    (mode : mlme.checkFwstate (stationState ||| adhocState)) :
    (joinbssCmd memory mlme pnetwork).2.fwState = mlme.fwState := by
  cases memory with
  | false => rfl
  | true => simp only [joinbssCmd, if_true, mode]

theorem selectAndJoin_preserves (hasWpsIe : WlanBssidEx → Bool) (memory : Bool) (sound : before.ScanSound)
    (meets : match before.select hasWpsIe with
      | .rejoin _ => before.SparesLink ∧ before.checkFwstate (stationState ||| adhocState)
      | .join _ =>
          before.checkFwstate fwLinked → before.checkFwstate (stationState ||| adhocState)
      | _ => True) :
    Preserves before (before.selectAndJoin hasWpsIe memory).2 := by
  have torn : (before.select hasWpsIe).ofLink = true → before.checkFwstate fwLinked = true :=
    selectFrom_ofLink
  have commanded : ∀ (state : Mlme Sta Xmit Recv) pnetwork,
      (joinbssCmd memory state pnetwork).2.table = state.table ∧
        (joinbssCmd memory state pnetwork).2.curNetwork = state.curNetwork ∧
        (joinbssCmd memory state pnetwork).2.checkFwstate fwLinked = state.checkFwstate fwLinked := by
    intro state pnetwork
    obtain ⟨fwState, assocBssid, command, linked⟩ := joinbssCmd_eq memory state pnetwork
    rw [command]
    exact ⟨rfl, rfl, by rw [checkFwstate, linked, checkFwstate]⟩
  unfold selectAndJoin
  cases choice : before.select hasWpsIe with
  | fail => exact .sameTable sound rfl id fun _ => .refl _
  | again =>
    have linked := torn (by rw [choice]; rfl)
    exact .sameTable sound rfl (fun holds => ⟨linked, indicateConnect_linked before holds⟩)
      fun _ => .refl _
  | leave pnetwork =>
    obtain ⟨table, off⟩ := disconnected before sound.table
    obtain ⟨kept, -, linked⟩ := commanded before.indicateDisconnect.freeAssocResources pnetwork
    refine .unlinked ?_ fun holds => ?_
    · rw [kept]
      exact table
    · exact absurd (holds.1.symm.trans (linked.trans off)) (by decide)
  | rejoin pnetwork =>
    rw [choice] at meets
    obtain ⟨dropped, mode, current⟩ := freeAssocResources_dropped before
    obtain ⟨table, network, -⟩ := commanded before.freeAssocResources pnetwork
    have set : before.freeAssocResources.checkFwstate (stationState ||| adhocState) := by
      rw [checkFwstate, mode]
      exact meets.2
    have state := joinbssCmd_mode memory before.freeAssocResources pnetwork set
    have linked : (joinbssCmd memory before.freeAssocResources pnetwork).2.StationLinked →
        before.StationLinked := by
      intro holds
      simpa only [StationLinked, checkFwstate, state, mode] using holds
    have spared : before.StationLinked → ∀ pwlan, before.LinkRecord pwlan →
        before.table.findNetwork before.curAddr ≠ some pwlan :=
      fun holds pwlan record found => meets.1 holds pwlan found record
    refine .sameLink sound (table ▸ dropped.sound sound.table) linked (fun _ => ?_)
      (fun holds pwlan record => ?_) (fun holds pwlan listed same => ?_)
    · rw [network, current]
      exact .refl _
    · rw [table, dropped.network]
      exact ⟨dropped.kept pwlan record.1 (spared (linked holds) pwlan record), .refl _⟩
    · rw [table] at listed same ⊢
      rw [dropped.network] at same
      have record : before.LinkRecord pwlan :=
        ⟨dropped.listed pwlan listed, isSameNetwork_iff.mpr same⟩
      exact ⟨record, dropped.fixed pwlan (spared (linked holds) pwlan record)⟩
  | join pnetwork =>
    rw [choice] at meets
    obtain ⟨table, network, still⟩ := commanded before pnetwork
    refine .sameTable sound table (fun holds => ?_) fun _ => by rw [network]; exact .refl _
    have linked : before.checkFwstate fwLinked = true := still ▸ holds.1
    have state := joinbssCmd_mode memory before pnetwork (meets linked)
    simpa only [StationLinked, checkFwstate, state] using holds

theorem joinbss_preserves (hasWpsIe : WlanBssidEx → Bool) (memory : Bool)
    (pnetwork : WlanNetwork) (sound : before.ScanSound)
    (meets : pnetwork.network.sz.toNat ≤ bssidExSz → before.JoinScanMeets hasWpsIe (withLength pnetwork)) :
    Preserves before (before.joinbssEventPrehandle hasWpsIe memory pnetwork) := by
  have length : (withLength pnetwork).network.sz = pnetwork.network.sz := sz_setUlong_zero _ _
  unfold joinbssEventPrehandle
  dsimp only
  rw [length]
  split
  · exact .sameTable sound rfl id fun _ => .refl _
  · rename_i fits
    have meets := meets (Nat.le_of_not_lt fits)
    generalize withLength pnetwork = pnetwork at meets
    have retries := meets.retries
    rw [← select_enterCritical] at retries
    refine .locked before.enterCritical ?_ rfl rfl rfl
    have entered : before.enterCritical.ScanSound := sound.locked rfl rfl rfl
    have meets : before.enterCritical.JoinScanMeets hasWpsIe pnetwork :=
      ⟨meets.cannot, meets.joined, retries⟩
    generalize before.enterCritical = inside at entered meets
    split
    · rename_i positive
      by_cases under : inside.checkFwstate fwUnderLinking
      · by_cases cannot : inside.CannotJoin pnetwork
        · rw [joined_cannot under cannot]
          exact cannotJoin_preserves entered (meets.cannot positive under cannot)
        · obtain ⟨stapriv, staKeys, security, ended, -⟩ := joined_can under cannot
          rw [ended]
          exact completedJoin_preserves entered fun mode pwlan listed denoted =>
            (meets.joined positive under cannot mode pwlan listed denoted).fixed
      · have ignored : inside.joined pnetwork = { inside with retry := 0 } := if_neg under
        rw [ignored]
        exact .sameTable entered rfl id fun _ => .refl _
    · rename_i failed
      split
      · obtain ⟨fwState, cleared, others⟩ :=
          clearFwstate_eq (inside.resetSecuritypriv.setTimer 1) fwUnderLinking
        have linked : fwState &&& fwLinked = inside.fwState &&& fwLinked :=
          others fwLinked (by decide)
        have station : fwState &&& stationState = inside.fwState &&& stationState :=
          others stationState (by decide)
        rw [cleared]
        refine .sameTable entered rfl (fun holds => ?_) fun _ => .refl _
        simpa only [StationLinked, checkFwstate, linked, station] using holds
      · rename_i other
        obtain ⟨fwState, delay, retry, ended, others⟩ := notJoined_eq hasWpsIe memory inside
        have preserves := selectAndJoin_preserves hasWpsIe memory entered
          (meets.retries failed other)
        rw [ended]
        refine preserves.congr rfl rfl ?_
        simp only [StationLinked, checkFwstate, others fwLinked (by decide), others stationState (by decide)]

theorem ScanSound.step {action : ScanAction Sta} (sound : before.ScanSound)
    (meets : before.ScanMeets action) (stepped : (scanSystem Sta Xmit Recv).step before action after) :
    Preserves before after := by
  cases action with
  | survey antenna now pnetwork =>
    subst stepped
    exact surveyEvent_preserves antenna now pnetwork sound meets
  | freeNetworkQueue hz now isfreeall =>
    subst stepped
    exact freeNetworkQueue_preserves sound hz now isfreeall
  | createbss now pnetwork =>
    subst stepped
    exact createbss_preserves now pnetwork sound meets
  | joinbss hasWpsIe memory pnetwork =>
    subst stepped
    exact joinbss_preserves hasWpsIe memory pnetwork sound meets
  | stadel macaddr =>
    subst stepped
    exact stadel_preserves macaddr sound
  | disassociate =>
    subst stepped
    exact disassociate_preserves sound
  | joinTimeout stopped =>
    subst stepped
    exact joinTimeout_preserves stopped sound
  | other =>
    refine .sameTable sound stepped.table (fun holds => (stepped.link holds).1) fun holds => ?_
    rw [(stepped.link holds).2]
    exact .refl _

/-- In a run whose steps all meet the condition, the scan table is what it is to be, and no
step takes the record of the link from it. -/
theorem scanTable_proper (reached : ((scanSystem Sta Xmit Recv).restrict ScanMeets).Reachable before) :
    before.ScanSound ∧ ∀ action after,
      ((scanSystem Sta Xmit Recv).restrict ScanMeets).step before action after → LinkKept before after := by
  have sound : before.ScanSound := by
    refine reached.invariant ?_ fun before action after sound stepped =>
      (sound.step stepped.1 stepped.2).sound
    rintro mlme ⟨pool, queue, count, state⟩
    refine ⟨⟨fun pnetwork => ?_, ?_, ?_⟩, fun linked => ?_⟩
    · rw [pool, queue, List.count_nil, Nat.add_zero]
      exact List.count_eq_one_of_mem (List.nodup_finRange _) (List.mem_finRange _)
    · rw [count, queue]
      rfl
    · rw [queue]
      intro one first
      cases first
    · have off := linked.1
      rw [checkFwstate, state] at off
      exact absurd off (by decide)
  exact ⟨sound, fun action after stepped => (sound.step stepped.1 stepped.2).kept⟩

end Mlme

def onChannel (channel : U8) : WlanBssidEx where
  bytes i :=
    if i.val = 9 then 1
    else if i.val = 72 then channel
    else if i.val = 92 then 1
    else if i.val = 116 then 12
    else 0

/-- The driver after `init_mlme_priv`. -/
def unscanned : Mlme Unit Empty Empty where
  table := ⟨fun _ => ⟨0, false, 0, 0, 0, sampleBss 0 0⟩, finRange maxBssCnt, [], 0⟩
  fwState := 0
  curNetwork := ⟨0, false, 0, 0, 0, sampleBss 0 2⟩
  stapriv :=
    { stainfo := fun _ => .initial (Vector.replicate 6 0)
      attrib := nofun
      freeStaQueue := [()]
      staHash := fun _ => []
      asocStaCount := 0
      asocList := []
      authList := []
      staAid := fun _ => none
      staDzBitmap := 0
      timBitmap := 0
      staQueue := fun _ => []
      accnt := fun _ => 0
      freeXmitQueue := []
      freeXmitframeCnt := 0
      held := []
      stray := []
      touched := [] }
  staKeys := fun _ => .initial
  security := ⟨.open, .noPrivacy, false, false, false, false, false⟩
  keyMask := 0
  toJoin := false
  assocSsid := []
  assocBssid := Vector.replicate 6 0
  assocByBssid := false
  assocByRssi := false
  assocTimer := none
  retry := 0
  wifiSpec := false
  taken := 0
  released := 0

def oneAntenna : AntennaDiversity := ⟨false, 0⟩

def heardTwice : Mlme Unit Empty Empty :=
  (unscanned.surveyEventCallback oneAntenna 0 (onChannel 1)).surveyEventCallback oneAntenna 0
    (onChannel 6)

def joinedSecond : Mlme Unit Empty Empty :=
  { heardTwice with fwState := stationState ||| fwUnderLinking }.joinbssEventPrehandle
    (fun _ => false) true ⟨0, false, 0, 0, 1, onChannel 6⟩

def secondRecord : NetworkRef := ⟨1, by decide⟩

theorem unscanned_initial : (Mlme.scanSystem Unit Empty Empty).initial unscanned := by
  refine ⟨rfl, rfl, rfl, rfl⟩

theorem scanTable_heard : (unscanned.surveyEventCallback oneAntenna 0 (onChannel 1)).ScanSound ∧
      ∀ action after,
        ((Mlme.scanSystem Unit Empty Empty).restrict Mlme.ScanMeets).step
          (unscanned.surveyEventCallback oneAntenna 0 (onChannel 1)) action after →
        Mlme.LinkKept (unscanned.surveyEventCallback oneAntenna 0 (onChannel 1)) after := by
  refine Mlme.scanTable_proper (.next (.survey oneAntenna 0 (onChannel 1))
    (.initial unscanned_initial) ⟨fun _ => ?_, rfl⟩)
  refine ⟨fun own => absurd own (by decide), fun own => absurd own (by decide), fun _ _ _ => ?_⟩
  refine ⟨fun pwlan taken => ?_, fun empty => absurd empty (by decide), fun linked => ?_⟩
  · have first : (⟨0, by decide⟩ : NetworkRef) = pwlan := Option.some.inj taken
    subst first
    decide
  · exact absurd linked.1 (by decide)

theorem joinedSecond_reachable : (Mlme.scanSystem Unit Empty Empty).Reachable joinedSecond := by
  have first : (Mlme.scanSystem Unit Empty Empty).Reachable
      (unscanned.surveyEventCallback oneAntenna 0 (onChannel 1)) :=
    .next (.survey oneAntenna 0 (onChannel 1)) (.initial unscanned_initial) rfl
  have second : (Mlme.scanSystem Unit Empty Empty).Reachable heardTwice :=
    first.next (.survey oneAntenna 0 (onChannel 6)) rfl
  have linking : (Mlme.scanSystem Unit Empty Empty).Reachable
      { heardTwice with fwState := stationState ||| fwUnderLinking } := by
    refine second.next .other ⟨rfl, fun linked => ?_⟩
    exact absurd linked.1 (by decide)
  exact linking.next (.joinbss (fun _ => false) true ⟨0, false, 0, 0, 1, onChannel 6⟩) rfl

/-- `find_network` goes by the address alone, so the other record of the access point is
marked, and that of the link is freed when it is old. -/
theorem linkRecord_freed : ∃ before action after, (Mlme.scanSystem Unit Empty Empty).Reachable before ∧
      (Mlme.scanSystem Unit Empty Empty).step before action after ∧ ¬ Mlme.LinkKept before after := by
  refine ⟨joinedSecond, .freeNetworkQueue 100 2000 false, _, joinedSecond_reachable, rfl, ?_⟩
  intro kept
  have lasts : Mlme.LinkLasts joinedSecond (joinedSecond.freeNetworkQueue 100 2000 false) :=
    ⟨⟨by decide, by decide⟩, ⟨by decide, by decide⟩, by decide⟩
  have record : joinedSecond.LinkRecord secondRecord := ⟨by decide, by decide⟩
  exact absurd (kept lasts secondRecord record).1 (by decide)

end Floid.Wifi
