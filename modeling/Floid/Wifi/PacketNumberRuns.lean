import Floid.Wifi.PacketNumbers
import Floid.Wifi.TkipRoundTrip

namespace Floid.Wifi

open Osk Lib
open List (mem_filter mem_map mem_range)

variable {security : XmitSecurity} {Sta : Type} [DecidableEq Sta] {stations : Sta → XmitSta}
  {mode : XmitMode Sta}

variable {txpn : BitVec 64} {mpdu : SentMpdu Sta}

theorem wepNumber_eq (keyidx : Fin 4) (small : txpn.toNat < 2 ^ 24) (key : List U8) :
    (KeyMaterial.wep key).packetNumber (wepIv (txpn.setWidth 48) keyidx) = txpn.toNat := by
  have number : txpn = (txpn.setWidth 24).setWidth 64 := by
    refine BitVec.eq_of_toNat_eq ?_
    rw [BitVec.toNat_setWidth, BitVec.toNat_setWidth, Nat.mod_eq_of_lt (by omega), Nat.mod_eq_of_lt small]
  rw [number]
  generalize txpn.setWidth 24 = low
  have same : (((low.setWidth 64).setWidth 48 >>> 16).setWidth 8 : U8) ++
      (((low.setWidth 64).setWidth 48 >>> 8).setWidth 8 : U8) ++
        (((low.setWidth 64).setWidth 48).setWidth 8 : U8) = low := by
    refine BitVec.eq_of_getLsbD_eq fun place inside => ?_
    simp only [BitVec.getLsbD_append, BitVec.getLsbD_setWidth, BitVec.getLsbD_ushiftRight]
    grind
  rw [KeyMaterial.packetNumber, wepIv]
  simp only [List.getD_cons_succ, List.getD_cons_zero]
  rw [same, BitVec.toNat_setWidth, Nat.mod_eq_of_lt (by omega)]

theorem setWidth_toNat (small : txpn.toNat < 2 ^ 48) : (txpn.setWidth 48).toNat = txpn.toNat := by
  rw [BitVec.toNat_setWidth, Nat.mod_eq_of_lt small]

theorem tkipNumber_eq (keyidx : U8) (small : txpn.toNat < 2 ^ 48) (key : Vector U8 16) :
    (KeyMaterial.tkip key).packetNumber (tkipIv (txpn.setWidth 48) keyidx) = txpn.toNat := by
  rw [KeyMaterial.packetNumber, getTkipPn_tkipIv]
  have low : ((0 : U16) ++ txpn.setWidth 48).setWidth 48 = txpn.setWidth 48 := by
    refine BitVec.eq_of_getLsbD_eq fun place inside => ?_
    grind
  rw [low, setWidth_toNat small]

theorem ccmpNumber_eq (keyidx : U8) (small : txpn.toNat < 2 ^ 48) (key : Vector U8 16) :
    (KeyMaterial.ccmp key).packetNumber (aesIv (txpn.setWidth 48) keyidx) = txpn.toNat := by
  rw [KeyMaterial.packetNumber, aesIv, ← setWidth_toNat small]
  generalize txpn.setWidth 48 = counter
  congr 1
  simp only [List.getD_cons_succ, List.getD_cons_zero]
  refine BitVec.eq_of_getLsbD_eq fun place inside => ?_
  grind

theorem counter_next {last : BitVec 64} {space : Nat} (small : txpn.toNat < space) (final : last.toNat + 1 = space) :
    (if txpn = last then 0 else txpn + 1 : BitVec 64).toNat = (txpn.toNat + 1) % space := by
  by_cases same : txpn = last
  · rw [if_pos same, same, final, Nat.mod_self]
    rfl
  · have different : txpn.toNat ≠ last.toNat := fun same' => same (BitVec.eq_of_toNat_eq same')
    have inside : last.toNat < 2 ^ 64 := last.isLt
    rw [if_neg same, BitVec.toNat_add, Nat.mod_eq_of_lt (a := txpn.toNat + 1) (by omega)]
    exact Nat.mod_eq_of_lt (by change txpn.toNat + 1 < _; omega)

theorem drawIv_number {psta : XmitSta} {encrypt : Privacy} {key : KeyMaterial}
    (bmcst : Bool) (keyIdx : U8) (encrypted : keyMaterial security psta encrypt = some key)
    (small : txpn.toNat < key.space) :
    key.packetNumber (drawIv encrypt bmcst keyIdx txpn).1 = txpn.toNat ∧
      (drawIv encrypt bmcst keyIdx txpn).2.toNat = (txpn.toNat + 1) % key.space := by
  cases encrypt <;> cases encrypted
  case wep40 => exact ⟨wepNumber_eq _ small _, counter_next small rfl⟩
  case wep104 => exact ⟨wepNumber_eq _ small _, counter_next small rfl⟩
  case tkip => exact ⟨tkipNumber_eq _ small _, counter_next small rfl⟩
  case aes => exact ⟨ccmpNumber_eq _ small _, counter_next small rfl⟩

section Records

variable (security stations mode)

def recordKey (psta : Sta) : Option KeyMaterial :=
  keyMaterial security (stations psta) (getEncryAlgo security (stations psta) (mode.isMcast psta))

def OwnKey (state : CounterState Sta) (packet : Transmission Sta) : Prop :=
  ∀ mpdu ∈ state.sent, recordKey security stations mode packet.psta = some mpdu.key → mpdu.psta = packet.psta

end Records

def SentMpdu.packetNumber (mpdu : SentMpdu Sta) : Nat := mpdu.key.packetNumber mpdu.iv

namespace CounterState

def sentBy (state : CounterState Sta) (psta : Sta) : List (SentMpdu Sta) :=
  state.sent.filter (·.psta = psta)

def sentWith (state : CounterState Sta) (key : KeyMaterial) : List (SentMpdu Sta) :=
  state.sent.filter (·.key = key)

def FreshNumbers (state : CounterState Sta) (key : KeyMaterial) : Prop :=
  (state.sentWith key).length ≤ key.space → ((state.sentWith key).map SentMpdu.packetNumber).Nodup

def OneRecord (state : CounterState Sta) (key : KeyMaterial) : Prop :=
  ∀ mpdu ∈ state.sentWith key, ∀ other ∈ state.sentWith key, mpdu.psta = other.psta

end CounterState

structure Counted (security : XmitSecurity) (stations : Sta → XmitSta) (mode : XmitMode Sta)
    (state : CounterState Sta) : Prop where
  keyed : ∀ mpdu ∈ state.sent, recordKey security stations mode mpdu.psta = some mpdu.key
  numbers : ∀ psta key, recordKey security stations mode psta = some key →
    (state.sentBy psta).map SentMpdu.packetNumber = (List.range (state.sentBy psta).length).map (· % key.space)
  next : ∀ psta key, recordKey security stations mode psta = some key →
    (state.txpn psta).toNat = (state.sentBy psta).length % key.space

theorem KeyMaterial.space_pos (key : KeyMaterial) : 0 < key.space := by
  cases key <;> exact Nat.two_pow_pos _

theorem Counted.start : Counted security stations mode ⟨fun _ => 0, []⟩ where
  keyed := by simp
  numbers := by simp [CounterState.sentBy]
  next := by simp [CounterState.sentBy]

theorem sentBy_append_self (state : CounterState Sta) (counters : Sta → BitVec 64) (psta : Sta)
    (key : KeyMaterial) (iv : List U8) :
    CounterState.sentBy ⟨counters, state.sent ++ [⟨psta, key, iv⟩]⟩ psta =
      state.sentBy psta ++ [⟨psta, key, iv⟩] := by
  simp [CounterState.sentBy]

theorem sentBy_append_other (state : CounterState Sta) (counters : Sta → BitVec 64)
    {psta other : Sta} (key : KeyMaterial) (iv : List U8) (different : psta ≠ other) :
    CounterState.sentBy ⟨counters, state.sent ++ [⟨psta, key, iv⟩]⟩ other = state.sentBy other := by
  simp [CounterState.sentBy, different]

variable {state : CounterState Sta}

theorem Counted.sendFragment (counted : Counted security stations mode state)
    (psta : Sta) :
    Counted security stations mode (sendFragment security stations mode psta state) := by
  cases encrypted : recordKey security stations mode psta with
  | none =>
    have clear : Wifi.sendFragment security stations mode psta state = state := by
      simp only [Wifi.sendFragment]
      rw [← recordKey, encrypted]
    rwa [clear]
  | some key =>
    have small : (state.txpn psta).toNat < key.space := by
      rw [counted.next psta key encrypted]
      exact Nat.mod_lt _ key.space_pos
    obtain ⟨number, next⟩ := drawIv_number (mode.isMcast psta)
      (xmitKeyIdx security (mode.isMcast psta)) encrypted small
    generalize drawn : drawIv (getEncryAlgo security (stations psta) (mode.isMcast psta))
      (mode.isMcast psta) (xmitKeyIdx security (mode.isMcast psta)) (state.txpn psta) = draw
      at number next
    have sent : Wifi.sendFragment security stations mode psta state =
        ⟨Function.update state.txpn psta draw.2, state.sent ++ [⟨psta, key, draw.1⟩]⟩ := by
      simp only [Wifi.sendFragment, drawn]
      rw [← recordKey, encrypted]
    rw [sent]
    refine ⟨?_, ?_, ?_⟩
    · intro mpdu known
      rcases List.mem_append.mp known with earlier | last
      · exact counted.keyed mpdu earlier
      · rw [List.mem_singleton.mp last, encrypted]
    · intro other otherKey ofOther
      by_cases same : psta = other
      · subst same
        cases encrypted.symm.trans ofOther
        rw [sentBy_append_self, List.map_append, counted.numbers psta key encrypted,
          List.length_append, List.length_singleton, List.range_succ, List.map_append]
        congr 1
        simp only [List.map_cons, List.map_nil, SentMpdu.packetNumber]
        rw [number, counted.next psta key encrypted]
      · rw [sentBy_append_other _ _ _ _ same]
        exact counted.numbers other otherKey ofOther
    · intro other otherKey ofOther
      by_cases same : psta = other
      · subst same
        cases encrypted.symm.trans ofOther
        dsimp only
        rw [sentBy_append_self, Function.update_self, next, counted.next psta key encrypted,
          Nat.mod_add_mod, List.length_append, List.length_singleton]
      · dsimp only
        rw [sentBy_append_other _ _ _ _ same, Function.update_of_ne (Ne.symm same)]
        exact counted.next other otherKey ofOther

theorem Counted.transmit (counted : Counted security stations mode state)
    (packet : Transmission Sta) :
    Counted security stations mode (transmit security stations mode packet state) := by
  rw [Wifi.transmit]
  split
  · exact counted
  · induction packet.nrFrags with
    | zero => exact counted
    | succ nrFrags counted => exact counted.sendFragment packet.psta

theorem counted_of_reachable
    (reached : (counterSystem security stations mode).Reachable state) :
    Counted security stations mode state := by
  refine reached.invariant ?_ ?_
  · intro state starts
    rw [starts]
    exact Counted.start
  · intro before packet after counted stepped
    rw [stepped.2]
    exact counted.transmit packet

namespace Counted

variable {state : CounterState Sta} {key : KeyMaterial}

variable {mpdu : SentMpdu Sta}

theorem first_sent (counted : Counted security stations mode state) (sent : mpdu ∈ state.sentWith key) :
    ∃ first ∈ state.sentWith key, first.psta = mpdu.psta ∧ first.packetNumber = 0 := by
  obtain ⟨inside, ofKey⟩ := mem_filter.mp sent
  have encrypted : recordKey security stations mode mpdu.psta = some key := by
    rw [counted.keyed mpdu inside, of_decide_eq_true ofKey]
  have nonempty : 0 < (state.sentBy mpdu.psta).length :=
    List.length_pos_of_mem (mem_filter.mpr ⟨inside, decide_eq_true rfl⟩)
  have zero : 0 ∈ (state.sentBy mpdu.psta).map SentMpdu.packetNumber := by
    rw [counted.numbers _ _ encrypted]
    exact mem_map.mpr ⟨0, mem_range.mpr nonempty, Nat.zero_mod _⟩
  obtain ⟨first, firstSent, number⟩ := mem_map.mp zero
  obtain ⟨firstInside, sameRecord⟩ := mem_filter.mp firstSent
  have sameKey : first.key = key := by
    have known := counted.keyed first firstInside
    rw [of_decide_eq_true sameRecord, encrypted] at known
    exact (Option.some.inj known).symm
  exact ⟨first, mem_filter.mpr ⟨firstInside, decide_eq_true sameKey⟩, of_decide_eq_true sameRecord, number⟩

theorem sentWith_eq (counted : Counted security stations mode state)
    (single : state.OneRecord key) (sent : mpdu ∈ state.sentWith key) :
    state.sentWith key = state.sentBy mpdu.psta := by
  obtain ⟨inside, ofKey⟩ := mem_filter.mp sent
  refine List.filter_congr fun other otherInside => ?_
  rw [decide_eq_decide]
  constructor
  · intro same
    exact single other (mem_filter.mpr ⟨otherInside, decide_eq_true same⟩) mpdu sent
  · intro same
    have known := counted.keyed other otherInside
    rw [same, counted.keyed mpdu inside, of_decide_eq_true ofKey] at known
    exact (Option.some.inj known).symm

theorem fresh_of_oneRecord (counted : Counted security stations mode state)
    (single : state.OneRecord key) : state.FreshNumbers key := by
  intro left
  cases sent : state.sentWith key with
  | nil => exact List.nodup_nil
  | cons mpdu rest =>
    have known : mpdu ∈ state.sentWith key := sent ▸ List.mem_cons_self
    obtain ⟨inside, ofKey⟩ := mem_filter.mp known
    have encrypted : recordKey security stations mode mpdu.psta = some key := by
      rw [counted.keyed mpdu inside, of_decide_eq_true ofKey]
    rw [← sent, counted.sentWith_eq single known, counted.numbers _ _ encrypted]
    rw [counted.sentWith_eq single known] at left
    refine List.Nodup.map_on ?_ List.nodup_range
    intro number small other otherSmall same
    have := mem_range.mp small
    have := mem_range.mp otherSmall
    rwa [Nat.mod_eq_of_lt (by omega), Nat.mod_eq_of_lt (by omega)] at same

theorem oneRecord_of_nodup (counted : Counted security stations mode state)
    (fresh : ((state.sentWith key).map SentMpdu.packetNumber).Nodup) : state.OneRecord key := by
  intro mpdu sent other otherSent
  obtain ⟨first, firstSent, record, number⟩ := counted.first_sent sent
  obtain ⟨second, secondSent, otherRecord, otherNumber⟩ := counted.first_sent otherSent
  have same := List.inj_on_of_nodup_map fresh firstSent secondSent (number.trans otherNumber.symm)
  rw [← record, ← otherRecord, same]

end Counted

theorem mem_sendFragment {psta : Sta}
    (sent : mpdu ∈ (sendFragment security stations mode psta state).sent) :
    mpdu ∈ state.sent ∨ mpdu.psta = psta ∧ recordKey security stations mode psta = some mpdu.key := by
  simp only [sendFragment] at sent
  rw [← recordKey] at sent
  cases encrypted : recordKey security stations mode psta with
  | none =>
    rw [encrypted] at sent
    exact Or.inl sent
  | some key =>
    rw [encrypted] at sent
    rcases List.mem_append.mp sent with earlier | last
    · exact Or.inl earlier
    · exact Or.inr (List.mem_singleton.mp last ▸ ⟨rfl, rfl⟩)

theorem mem_transmit {packet : Transmission Sta}
    (sent : mpdu ∈ (transmit security stations mode packet state).sent) :
    mpdu ∈ state.sent ∨ mpdu.psta = packet.psta ∧
      recordKey security stations mode packet.psta = some mpdu.key := by
  rw [transmit] at sent
  split at sent
  · exact Or.inl sent
  · generalize packet.nrFrags = nrFrags at sent
    induction nrFrags with
    | zero => exact Or.inl sent
    | succ nrFrags earlier =>
      rcases mem_sendFragment sent with known | added
      · exact earlier known
      · exact Or.inr added

def CounterState.KeysApart (state : CounterState Sta) : Prop :=
  ∀ mpdu ∈ state.sent, ∀ other ∈ state.sent, mpdu.key = other.key → mpdu.psta = other.psta

theorem keysApart_of_own (reached : ((counterSystem security stations mode).restrict
      (OwnKey security stations mode)).Reachable state) : state.KeysApart := by
  refine reached.invariant ?_ ?_
  · intro state starts
    rw [starts]
    simp [CounterState.KeysApart]
  · intro before packet after apart stepped mpdu sent other otherSent sameKey
    obtain ⟨own, -, transmitted⟩ := stepped
    subst transmitted
    rcases mem_transmit sent with known | ⟨record, encrypted⟩ <;>
      rcases mem_transmit otherSent with otherKnown | ⟨otherRecord, otherEncrypted⟩
    · exact apart mpdu known other otherKnown sameKey
    · rw [otherRecord]
      exact own mpdu known (sameKey ▸ otherEncrypted)
    · rw [record]
      exact (own other otherKnown (sameKey ▸ encrypted)).symm
    · rw [record, otherRecord]

def tkipSecurity : XmitSecurity :=
  ⟨.ieee8021X, .noPrivacy, .tkip, 0, fun _ => [], 1⟩

def tkipStations (psta : Bool) : XmitSta :=
  ⟨.tkip, if psta then Vector.replicate 16 1 else Vector.replicate 16 2⟩

def wepSecurity : XmitSecurity :=
  ⟨.open, .wep40, .noPrivacy, 0, fun _ => [1, 2, 3, 4, 5], 0⟩

end Floid.Wifi
