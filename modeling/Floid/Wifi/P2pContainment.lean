import Floid.Wifi.P2pReceive

namespace Floid.Wifi

open Osk Lib
open List (drop_zero length_cons length_take)
open Option (bind_eq_bind bind_some isSome_iff_exists isSome_of_eq_some map_some)

/-- The walk over a list of elements, of which `inLen` bytes are taken for elements: it passes
elements whose type and length are in the list, up to one that begins with the right bytes. -/
inductive VendorWalk (oui : List U8) : List U8 → Nat → Option (U8 × List U8) → Prop
  | ended (list : List U8) : VendorWalk oui list 0 none
  | found {length : U8} {data : List U8} {inLen : Nat} (inside : 0 < inLen)
      (first : data.take 4 = oui) :
      VendorWalk oui (vendorSpecificIe :: length :: data) inLen (some (length, data))
  | next {eid length : U8} {data : List U8} {inLen : Nat} {outcome : Option (U8 × List U8)}
      (inside : 0 < inLen)
      (other : eid = vendorSpecificIe → 4 ≤ data.length ∧ data.take 4 ≠ oui)
      (walk : VendorWalk oui (data.drop length.toNat) (inLen - (length.toNat + 2)) outcome) :
      VendorWalk oui (eid :: length :: data) inLen outcome

inductive AttrWalk (target : U8) : List U8 → Option (Nat × List U8) → Prop
  | ended : AttrWalk target [] none
  | found {low high : U8} {data : List U8} :
      AttrWalk target (target :: low :: high :: data) (some (low.toNat + 256 * high.toNat, data))
  | next {id low high : U8} {data : List U8} {outcome : Option (Nat × List U8)}
      (other : id ≠ target) (walk : AttrWalk target (data.drop (low.toNat + 256 * high.toNat)) outcome) :
      AttrWalk target (id :: low :: high :: data) outcome

/-- The element that `get_p2p_ie` copies, when all of it is there and has room. -/
inductive P2pIeCopied (room : Nat) (list : List U8) (inLen : Nat) : Option (List U8) → Prop
  | missing (walk : VendorWalk WifidirectInfo.p2poui list inLen none) : P2pIeCopied room list inLen none
  | copied {length : U8} {data : List U8}
      (walk : VendorWalk WifidirectInfo.p2poui list inLen (some (length, data)))
      (whole : length.toNat ≤ data.length) (fits : length.toNat + 2 ≤ room) :
      P2pIeCopied room list inLen
        (some (vendorSpecificIe :: length :: data.take length.toNat))

def P2pAttr (p2pIe : List U8) (target : U8) (outcome : Option (Nat × List U8)) : Prop :=
  6 ≤ p2pIe.length ∧
    if p2pIe.getD 0 0 = vendorSpecificIe ∧ (p2pIe.drop 2).take 4 = WifidirectInfo.p2poui then
      AttrWalk target (p2pIe.drop 6) outcome
    else outcome = none

def AttrFits (n : Nat) (p2pIe : List U8) (target : U8) : Prop :=
  ∃ outcome, P2pAttr p2pIe target outcome ∧
    ∀ attrlen data, outcome = some (attrlen, data) → attrlen ≤ data.length ∧ attrlen ≤ n

section

variable {oui list : List U8} {inLen : Nat} {target : U8}

def fromHead (found : U8 × List U8) : List U8 := vendorSpecificIe :: found.1 :: found.2

theorem getVendorIe_eq_some_iff (four : oui.length = 4) {outcome : Option (List U8)} :
    getVendorIe oui list inLen = some outcome ↔
      ∃ found, VendorWalk oui list inLen found ∧ outcome = found.map fromHead := by
  constructor
  · intro walked
    fun_induction getVendorIe oui list inLen with
    | case1 inLen inside length data read =>
      cases walked
      obtain ⟨-, first⟩ := segment_some read
      exact ⟨some (length, data), .found inside first.symm, rfl⟩
    | case2 inLen inside length data first read other ih =>
      obtain ⟨found, walk, same⟩ := ih walked
      obtain ⟨long, rfl⟩ := segment_some read
      exact ⟨found, .next inside (fun _ => ⟨by omega, other⟩) walk, same⟩
    | case3 => cases walked
    | case4 inLen inside eid length data other ih =>
      obtain ⟨found, walk, same⟩ := ih walked
      exact ⟨found, .next inside (fun vendor => absurd vendor other) walk, same⟩
    | case5 => cases walked
    | case6 list inLen outside =>
      cases walked
      obtain rfl : inLen = 0 := by omega
      exact ⟨none, .ended list, rfl⟩
  · rintro ⟨found, walk, rfl⟩
    induction walk with
    | ended list =>
      rw [getVendorIe.eq_def, if_neg (lt_irrefl 0)]
      rfl
    | found inside first =>
      rename_i data _
      have long : 4 ≤ data.length := by
        rw [← first, length_take] at four
        omega
      rw [getVendorIe, if_pos inside]
      simp only [if_true, segment_of_le (show 0 + 4 ≤ data.length by omega), drop_zero, first, map_some, fromHead]
    | next inside other walk ih =>
      rename_i eid length data _ _
      rw [getVendorIe, if_pos inside]
      by_cases vendor : eid = vendorSpecificIe
      · obtain ⟨long, differ⟩ := other vendor
        simp only [if_pos vendor, segment_of_le (show 0 + 4 ≤ data.length by omega), drop_zero, if_neg differ, ih]
      · simp only [if_neg vendor, ih]

theorem getP2pIeInto_eq_some_iff {room : Nat} {copied : Option (List U8)} :
    getP2pIeInto room list inLen = some copied ↔ P2pIeCopied room list inLen copied := by
  have four : WifidirectInfo.p2poui.length = 4 := rfl
  constructor
  · intro got
    unfold getP2pIeInto at got
    split at got
    · cases got
    · rename_i walked
      cases got
      obtain ⟨found, walk, same⟩ := (getVendorIe_eq_some_iff four).mp walked
      cases found with
      | none => exact .missing walk
      | some found => cases same
    · rename_i element walked
      obtain ⟨found, walk, same⟩ := (getVendorIe_eq_some_iff four).mp walked
      cases found with
      | none => cases same
      | some found =>
        obtain ⟨length, data⟩ := found
        cases same
        split at got
        · cases got
        · rename_i p2pIe read
          obtain ⟨whole, rfl⟩ := segment_some read
          split at got
          · cases got
          · rename_i fits
            cases got
            have size := segment_length read
            simp only [fromHead, List.getD_cons_succ, List.getD_cons_zero, length_cons]
              at whole fits size ⊢
            exact .copied walk (by omega) (by omega)
  · intro copied_
    cases copied_ with
    | missing walk =>
      have walked := (getVendorIe_eq_some_iff four).mpr ⟨none, walk, rfl⟩
      unfold getP2pIeInto
      rw [walked]
      rfl
    | copied walk whole fits =>
      rename_i length data
      have walked := (getVendorIe_eq_some_iff four).mpr ⟨some (length, data), walk, rfl⟩
      have read : segment (fromHead (length, data)) 0 (length.toNat + 2) =
          some (vendorSpecificIe :: length :: data.take length.toNat) := by
        rw [segment_of_le (by simp only [fromHead, length_cons]; omega)]
        rfl
      unfold getP2pIeInto
      rw [walked]
      simp only [map_some]
      rw [show ((fromHead (length, data)).getD 1 0) = length from rfl, read]
      exact if_neg (by
        simp only [length_cons, length_take]
        omega)

theorem p2pAttrOf_eq_some_iff {outcome : Option (Nat × List U8)} :
    p2pAttrOf target list = some outcome ↔ AttrWalk target list outcome := by
  constructor
  · intro walked
    fun_induction p2pAttrOf target list with
    | case1 =>
      cases walked
      exact .ended
    | case2 low high data =>
      cases walked
      exact .found
    | case3 id low high data attrlen other ih => exact .next other (ih walked)
    | case4 => cases walked
  · intro walk
    induction walk with
    | ended => rw [p2pAttrOf]
    | found => simp only [p2pAttrOf, if_true]
    | next other walk ih => simp only [p2pAttrOf, if_neg other, ih]

theorem findP2pAttr_eq_some_iff {p2pIe : List U8} {outcome : Option (Nat × List U8)} :
    findP2pAttr p2pIe target = some outcome ↔ P2pAttr p2pIe target outcome := by
  unfold findP2pAttr P2pAttr
  by_cases long : 6 ≤ p2pIe.length
  · rw [segment_of_le (by omega), drop_zero]
    have head : (p2pIe.take 6).getD 0 0 = p2pIe.getD 0 0 := by
      rw [List.getD_eq_getElem?_getD, List.getElem?_take_of_lt (by decide), ← List.getD_eq_getElem?_getD]
    have oui : (p2pIe.take 6).drop 2 = (p2pIe.drop 2).take 4 := by rw [List.drop_take]
    dsimp only
    rw [head, oui]
    by_cases p2p : p2pIe.getD 0 0 = vendorSpecificIe ∧ (p2pIe.drop 2).take 4 = WifidirectInfo.p2poui
    · have same : ¬(p2pIe.getD 0 0 ≠ vendorSpecificIe ∨ (p2pIe.drop 2).take 4 ≠ WifidirectInfo.p2poui) := by
        rw [not_or, not_not, not_not]
        exact p2p
      rw [if_neg same, if_pos p2p, p2pAttrOf_eq_some_iff, and_iff_right long]
    · have other : p2pIe.getD 0 0 ≠ vendorSpecificIe ∨ (p2pIe.drop 2).take 4 ≠ WifidirectInfo.p2poui := by
        rwa [not_and_or] at p2p
      rw [if_pos other, if_neg p2p, and_iff_right long, Option.some.injEq, eq_comm]
  · have short : segment p2pIe 0 6 = none := if_neg (by omega)
    rw [short]
    exact iff_of_false nofun fun both => long both.1

variable {n : Nat} {p2pIe : List U8}

theorem P2pAttr.unique {outcome other : Option (Nat × List U8)}
    (first : P2pAttr p2pIe target outcome) (second : P2pAttr p2pIe target other) :
    outcome = other := by
  rw [← findP2pAttr_eq_some_iff] at first second
  exact Option.some.inj (first.symm.trans second)

theorem getP2pAttrInto_none {attrContent : Vector U8 n} {attrContentlen : Nat} (missing : P2pAttr p2pIe target none) :
    getP2pAttrInto p2pIe target attrContent attrContentlen = some (false, attrContent, attrContentlen) := by
  unfold getP2pAttrInto
  rw [findP2pAttr_eq_some_iff.mpr missing]

theorem getP2pAttrInto_some (attrContent : Vector U8 n) (attrContentlen : Nat) {attrlen : Nat}
    {data : List U8} (found : P2pAttr p2pIe target (some (attrlen, data)))
    (whole : attrlen ≤ data.length) (room : attrlen ≤ n) :
    ∃ filled, getP2pAttrInto p2pIe target attrContent attrContentlen = some (true, filled, attrlen) ∧
      filled.toList = data.take attrlen ++ attrContent.toList.drop attrlen := by
  have length : (data.take attrlen).length = attrlen := by
    rw [length_take]
    omega
  have content : segment data 0 attrlen = some (data.take attrlen) := segment_of_le (by omega)
  obtain ⟨filled, copied⟩ : ∃ filled, fillField attrContent 0 (data.take attrlen) = some filled :=
    ⟨_, if_pos (by omega)⟩
  refine ⟨filled, ?_, ?_⟩
  · unfold getP2pAttrInto
    rw [findP2pAttr_eq_some_iff.mpr found]
    simp only [content, copied, bind_some, map_some]
  · unfold fillField at copied
    rw [if_pos (by omega)] at copied
    cases copied
    apply List.ext_getElem
    · simp
      omega
    · intro i within inside
      have small : i < n := by simpa using within
      rw [Vector.getElem_toList, Vector.getElem_ofFn]
      dsimp only
      by_cases early : i < attrlen
      · rw [if_pos ⟨Nat.zero_le _, by omega⟩, List.getElem_append_left (by omega), Nat.sub_zero,
          List.getD_eq_getElem?_getD, List.getElem?_eq_getElem (by omega), Option.getD_some]
      · rw [if_neg (by omega), List.getElem_append_right (by omega), List.getElem_drop]
        have place : attrlen + (i - (data.take attrlen).length) = i := by omega
        simp only [place]
        rfl

theorem getP2pAttrInto_isSome_iff {attrContent : Vector U8 n} {attrContentlen : Nat} :
    (getP2pAttrInto p2pIe target attrContent attrContentlen).isSome ↔ AttrFits n p2pIe target := by
  constructor
  · intro read
    unfold getP2pAttrInto at read
    split at read
    · cases read
    · rename_i missing
      exact ⟨none, findP2pAttr_eq_some_iff.mp missing, nofun⟩
    · rename_i attrlen data found
      refine ⟨some (attrlen, data), findP2pAttr_eq_some_iff.mp found, ?_⟩
      rintro _ _ ⟨rfl⟩
      unfold Lib.segment fillField at read
      split at read
      · rename_i whole
        rw [bind_some] at read
        split at read
        · rename_i room
          rw [drop_zero, length_take] at room
          omega
        · cases read
      · cases read
  · rintro ⟨outcome, found, fits⟩
    cases outcome with
    | none =>
      rw [getP2pAttrInto_none found]
      rfl
    | some attr =>
      obtain ⟨attrlen, data⟩ := attr
      obtain ⟨whole, room⟩ := fits attrlen data rfl
      obtain ⟨filled, read, -⟩ :=
        getP2pAttrInto_some attrContent attrContentlen found whole room
      rw [read]
      rfl

def WithP2pIe (room : Nat) (list : List U8) (inLen : Nat) (condition : List U8 → Prop) : Prop :=
  ∃ copied, P2pIeCopied room list inLen copied ∧ ∀ p2pIe, copied = some p2pIe → condition p2pIe

theorem withP2pIe_isSome_iff {β : Type} {room : Nat} {rest : Option (List U8) → Option β}
    (missing : (rest none).isSome) :
    ((getP2pIeInto room list inLen).bind rest).isSome ↔
      WithP2pIe room list inLen fun p2pIe => (rest (some p2pIe)).isSome := by
  rw [bind_isSome_iff]
  constructor
  · rintro ⟨copied, got, well⟩
    refine ⟨copied, getP2pIeInto_eq_some_iff.mp got, ?_⟩
    rintro p2pIe rfl
    exact well
  · rintro ⟨copied, got, well⟩
    refine ⟨copied, getP2pIeInto_eq_some_iff.mpr got, ?_⟩
    cases copied with
    | none => exact missing
    | some p2pIe => exact well p2pIe rfl

theorem WithP2pIe.congr {room : Nat} {first second : List U8 → Prop} (same : ∀ p2pIe, first p2pIe ↔ second p2pIe) :
    WithP2pIe room list inLen first ↔ WithP2pIe room list inLen second := by
  simp only [WithP2pIe, same]

theorem attr_isSome_iff {β : Type} {attrContent : Vector U8 n} {attrContentlen : Nat}
    {rest : Bool × Vector U8 n × Nat → Option β} {condition : Prop}
    (well : ∀ read, (rest read).isSome ↔ condition) :
    ((getP2pAttrInto p2pIe target attrContent attrContentlen).bind rest).isSome ↔
      AttrFits n p2pIe target ∧ condition := by
  have fits : (getP2pAttrInto p2pIe target attrContent attrContentlen).isSome ↔
      AttrFits n p2pIe target := getP2pAttrInto_isSome_iff
  rw [bind_isSome_iff, ← fits, isSome_iff_exists]
  simp only [well, exists_and_right]

end

/-- When `process_p2p_group_negotation_req` is contained. -/
structure ReqContained (pframe : List U8) (len : U32) : Prop where
  wps : ∃ found, VendorWalk wpsOui (pframe.drop 8) (len - 8).toNat found
  p2p : WithP2pIe 255 (pframe.drop 8) (len - 8).toNat fun p2pIe =>
    AttrFits 1 p2pIe 0x04 ∧ AttrFits 6 p2pIe 0x09

theorem getWpsIeP2p_isSome_iff {list : List U8} {inLen : Nat} :
    (∃ answer, getWpsIeP2p list inLen = some answer) ↔ ∃ found, VendorWalk wpsOui list inLen found := by
  unfold getWpsIeP2p
  simp only [Option.map_eq_some_iff, getVendorIe_eq_some_iff (show wpsOui.length = 4 from rfl)]
  constructor
  · rintro ⟨_, _, ⟨found, walk, -⟩, -⟩
    exact ⟨found, walk⟩
  · rintro ⟨found, walk⟩
    exact ⟨_, _, ⟨found, walk, rfl⟩, rfl⟩

theorem wps_isSome_iff {β : Type} {list : List U8} {inLen : Nat} {rest : Bool → Option β}
    {condition : Prop} (well : ∀ answer, (rest answer).isSome ↔ condition) :
    ((getWpsIeP2p list inLen).bind rest).isSome ↔
      (∃ found, VendorWalk wpsOui list inLen found) ∧ condition := by
  rw [bind_isSome_iff, ← getWpsIeP2p_isSome_iff]
  simp only [well, exists_and_right]

variable (pwdinfo : NegoInfo)

theorem processReq_isSome_iff (pframe : List U8) (len : U32) :
    (pwdinfo.processP2pGroupNegotationReq pframe len).isSome ↔ ReqContained pframe len := by
  have walked : (pwdinfo.processP2pGroupNegotationReq pframe len).isSome ↔
      (∃ found, VendorWalk wpsOui (pframe.drop 8) (len - 8).toNat found) ∧
        WithP2pIe 255 (pframe.drop 8) (len - 8).toNat fun p2pIe =>
          AttrFits 1 p2pIe 0x04 ∧ AttrFits 6 p2pIe 0x09 := by
    refine wps_isSome_iff fun answer => ?_
    refine (withP2pIe_isSome_iff rfl).trans (WithP2pIe.congr fun p2pIe => ?_)
    refine attr_isSome_iff fun intent => ?_
    refine (attr_isSome_iff fun addr => ?_).trans (iff_of_eq (and_true _))
    exact iff_of_true rfl trivial
  exact walked.trans ⟨fun ⟨wps, p2p⟩ => ⟨wps, p2p⟩, fun ⟨wps, p2p⟩ => ⟨wps, p2p⟩⟩

def AttrByte (p2pIe : List U8) (target value : U8) : Prop :=
  ∃ outcome, P2pAttr p2pIe target outcome ∧
    match outcome with
    | some (1, byte :: _) => value = byte
    | _ => value = 0

section

variable {p2pIe : List U8} {target value : U8} {read : Bool × Vector U8 1 × Nat}

theorem attrByte_read (got : getP2pAttrInto p2pIe target #v[(0 : U8)] 0 = some read) :
    (AttrByte p2pIe target value ↔ value = getElem read.2.1 0 Nat.one_pos) ∧
      (read.2.2 = 1 ∧ getElem read.2.1 0 Nat.one_pos = value ↔ ∃ data, P2pAttr p2pIe target (some (1, value :: data))) := by
  have fits := getP2pAttrInto_isSome_iff.mp (isSome_of_eq_some got)
  obtain ⟨outcome, found, room⟩ := fits
  cases outcome with
  | none =>
    cases (getP2pAttrInto_none found).symm.trans got
    constructor
    · constructor
      · rintro ⟨other, again, same⟩
        cases found.unique again
        exact same
      · intro same
        exact ⟨none, found, same⟩
    · constructor
      · rintro ⟨no, -⟩
        cases no
      · rintro ⟨data, again⟩
        cases found.unique again
  | some attr =>
    obtain ⟨attrlen, data⟩ := attr
    obtain ⟨whole, one⟩ := room attrlen data rfl
    obtain ⟨filled, copied, bytes⟩ := getP2pAttrInto_some #v[(0 : U8)] 0 found whole one
    cases copied.symm.trans got
    have first : filled[0] = filled.toList.getD 0 0 := by simp
    rw [first, bytes]
    cases attrlen with
    | zero =>
      constructor
      · constructor
        · rintro ⟨other, again, same⟩
          cases found.unique again
          exact same
        · intro same
          exact ⟨some (0, data), found, same⟩
      · constructor
        · rintro ⟨no, -⟩
          cases no
        · rintro ⟨data, again⟩
          cases found.unique again
    | succ attrlen =>
      obtain rfl : attrlen = 0 := by omega
      cases data with
      | nil => simp at whole
      | cons byte rest =>
        constructor
        · constructor
          · rintro ⟨other, again, same⟩
            cases found.unique again
            exact same
          · intro same
            exact ⟨some (1, byte :: rest), found, same⟩
        · constructor
          · rintro ⟨-, same⟩
            cases same
            exact ⟨rest, found⟩
          · rintro ⟨data, again⟩
            cases found.unique again
            exact ⟨rfl, rfl⟩

end

structure GoResponseContained (intent : U8) (p2pIe : List U8) : Prop where
  peerIntent : AttrFits 1 p2pIe 0x04
  channel : ∀ value, AttrByte p2pIe 0x04 value → negotiatedRole intent value = .client → AttrFits 5 p2pIe 0x11

/-- When `process_p2p_group_negotation_resp` is contained. -/
structure RespContained (intent : U8) (pframe : List U8) (len : U32) : Prop where
  wps : ∃ found, VendorWalk wpsOui (pframe.drop 8) (len - 8).toNat found
  p2p : WithP2pIe 255 (pframe.drop 8) (len - 8).toNat fun p2pIe =>
    AttrFits 1 p2pIe 0x00 ∧
      ((∃ data, P2pAttr p2pIe 0x00 (some (1, 0 :: data))) → GoResponseContained intent p2pIe)

theorem acceptGoResponse_isSome_iff (p2pIe : List U8) (result : U8) :
    (pwdinfo.acceptGoResponse p2pIe result).isSome ↔ GoResponseContained pwdinfo.intent p2pIe := by
  unfold NegoInfo.acceptGoResponse
  simp only [bind_eq_bind]
  rw [bind_isSome_iff]
  constructor
  · rintro ⟨⟨found, content, attrlen⟩, got, well⟩
    refine ⟨getP2pAttrInto_isSome_iff.mp (isSome_of_eq_some got), ?_⟩
    intro value byte client
    cases (attrByte_read got).1.mp byte
    dsimp only at well
    rw [if_pos client] at well
    exact ((attr_isSome_iff fun channel => iff_of_true rfl trivial).mp well).1
  · rintro ⟨intent, channel⟩
    obtain ⟨⟨found, content, attrlen⟩, got⟩ := isSome_iff_exists.mp (getP2pAttrInto_isSome_iff.mpr intent)
    refine ⟨(found, content, attrlen), got, ?_⟩
    by_cases client : negotiatedRole pwdinfo.intent content[0] = .client
    · dsimp only
      rw [if_pos client]
      have fits := channel _ ((attrByte_read got).1.mpr rfl) client
      exact (attr_isSome_iff fun channel => iff_of_true rfl trivial).mpr ⟨fits, trivial⟩
    · dsimp only
      rw [if_neg client]
      rfl

theorem processResp_isSome_iff (pframe : List U8) (len : U32) :
    (pwdinfo.processP2pGroupNegotationResp pframe len).isSome ↔ RespContained pwdinfo.intent pframe len := by
  have walked : (pwdinfo.processP2pGroupNegotationResp pframe len).isSome ↔
      (∃ found, VendorWalk wpsOui (pframe.drop 8) (len - 8).toNat found) ∧
        WithP2pIe 255 (pframe.drop 8) (len - 8).toNat fun p2pIe =>
          AttrFits 1 p2pIe 0x00 ∧ ((∃ data, P2pAttr p2pIe 0x00 (some (1, 0 :: data))) →
            GoResponseContained pwdinfo.intent p2pIe) := by
    refine wps_isSome_iff fun answer => ?_
    refine (withP2pIe_isSome_iff rfl).trans (WithP2pIe.congr fun p2pIe => ?_)
    refine bind_isSome_iff.trans ?_
    constructor
    · rintro ⟨⟨found, content, attrlen⟩, got, well⟩
      refine ⟨getP2pAttrInto_isSome_iff.mp (isSome_of_eq_some got), ?_⟩
      intro success
      dsimp only at well
      rw [if_pos ((attrByte_read got).2.mpr success)] at well
      exact (acceptGoResponse_isSome_iff ..).mp well
    · rintro ⟨status, rest⟩
      obtain ⟨⟨found, content, attrlen⟩, got⟩ := isSome_iff_exists.mp (getP2pAttrInto_isSome_iff.mpr status)
      refine ⟨(found, content, attrlen), got, ?_⟩
      by_cases success : attrlen = 1 ∧ content[0] = 0
      · dsimp only
        rw [if_pos success]
        exact (acceptGoResponse_isSome_iff ..).mpr (rest ((attrByte_read got).2.mp success))
      · dsimp only
        rw [if_neg success]
        rfl
  exact walked.trans ⟨fun both => ⟨both.1, both.2⟩, fun contained => ⟨contained.1, contained.2⟩⟩

structure GoConfirmContained (p2pIe : List U8) : Prop where
  groupid : AttrFits 38 p2pIe 0x0f
  ends : ∀ data, P2pAttr p2pIe 0x0f (some (38, data)) → 0 ∈ (data.take 38).drop 6
  channel : AttrFits 5 p2pIe 0x11

/-- When `process_p2p_group_negotation_confirm` is contained. -/
def ConfirmContained (pframe : List U8) (len : U32) : Prop :=
  WithP2pIe 255 (pframe.drop 8) (len - 8).toNat fun p2pIe =>
    AttrFits 1 p2pIe 0x00 ∧ ((∃ data, P2pAttr p2pIe 0x00 (some (1, 0 :: data))) → GoConfirmContained p2pIe)

theorem groupid_ends {p2pIe : List U8} {attrContentlen : Nat} {read : Bool × Vector U8 38 × Nat}
    (got : getP2pAttrInto p2pIe 0x0f (Vector.replicate 38 (0 : U8)) attrContentlen = some read) :
    (read.2.1.toList.drop 6).contains 0 ↔
      ∀ data, P2pAttr p2pIe 0x0f (some (38, data)) → 0 ∈ (data.take 38).drop 6 := by
  rw [List.contains_iff_mem]
  obtain ⟨outcome, found, room⟩ := getP2pAttrInto_isSome_iff.mp (isSome_of_eq_some got)
  cases outcome with
  | none =>
    cases (getP2pAttrInto_none found).symm.trans got
    have zeros : (0 : U8) ∈ (Vector.replicate 38 (0 : U8)).toList.drop 6 := by decide
    refine iff_of_true zeros ?_
    intro data again
    cases found.unique again
  | some attr =>
    obtain ⟨attrlen, data⟩ := attr
    obtain ⟨whole, fits⟩ := room attrlen data rfl
    obtain ⟨filled, copied, bytes⟩ := getP2pAttrInto_some (Vector.replicate 38 (0 : U8))
      attrContentlen found whole fits
    cases copied.symm.trans got
    rw [bytes]
    by_cases all : attrlen = 38
    · subst all
      have none : (Vector.replicate 38 (0 : U8)).toList.drop 38 = [] := by decide
      rw [none, List.append_nil]
      constructor
      · intro ends other again
        cases found.unique again
        exact ends
      · intro ends
        exact ends data found
    · have last : (data.take attrlen ++ (Vector.replicate 38 (0 : U8)).toList.drop attrlen)[37]? = some 0 := by
        rw [List.getElem?_append_right (by rw [length_take]; omega), List.getElem?_drop,
          length_take, Vector.toList_replicate, List.getElem?_replicate, if_pos (by omega)]
      refine iff_of_true ?_ ?_
      · exact List.mem_of_getElem? ((List.getElem?_drop (i := 6) (j := 31)).trans last)
      · intro other again
        cases found.unique again
        exact absurd rfl all

theorem acceptGoConfirm_isSome_iff (p2pIe : List U8) :
    (pwdinfo.acceptGoConfirm p2pIe).isSome ↔ GoConfirmContained p2pIe := by
  unfold NegoInfo.acceptGoConfirm
  simp only [bind_eq_bind]
  rw [bind_isSome_iff]
  constructor
  · rintro ⟨⟨found, groupid, attrlen⟩, got, well⟩
    by_cases ends : (groupid.toList.drop 6).contains 0
    · rw [if_pos ends] at well
      exact ⟨getP2pAttrInto_isSome_iff.mp (isSome_of_eq_some got), (groupid_ends got).mp ends,
        ((attr_isSome_iff fun channel => iff_of_true rfl trivial).mp well).1⟩
    · rw [if_neg ends] at well
      cases well
  · rintro ⟨fits, ends, channel⟩
    obtain ⟨⟨found, groupid, attrlen⟩, got⟩ :=
      isSome_iff_exists.mp (getP2pAttrInto_isSome_iff.mpr fits)
    refine ⟨(found, groupid, attrlen), got, ?_⟩
    dsimp only
    rw [if_pos ((groupid_ends got).mpr ends)]
    exact (attr_isSome_iff fun channel => iff_of_true rfl trivial).mpr ⟨channel, trivial⟩

theorem processConfirm_isSome_iff (pframe : List U8) (len : U32) :
    (pwdinfo.processP2pGroupNegotationConfirm pframe len).isSome ↔ ConfirmContained pframe len := by
  refine (withP2pIe_isSome_iff rfl).trans (WithP2pIe.congr fun p2pIe => ?_)
  refine bind_isSome_iff.trans ?_
  constructor
  · rintro ⟨⟨found, content, attrlen⟩, got, well⟩
    refine ⟨getP2pAttrInto_isSome_iff.mp (isSome_of_eq_some got), ?_⟩
    intro success
    obtain ⟨one, zero⟩ := (attrByte_read got).2.mpr success
    dsimp only at well one zero
    rw [if_pos one, if_pos zero] at well
    obtain ⟨after, accepted, -⟩ := bind_isSome_iff.mp well
    exact (acceptGoConfirm_isSome_iff ..).mp (isSome_of_eq_some accepted)
  · rintro ⟨status, rest⟩
    obtain ⟨⟨found, content, attrlen⟩, got⟩ :=
      isSome_iff_exists.mp (getP2pAttrInto_isSome_iff.mpr status)
    refine ⟨(found, content, attrlen), got, ?_⟩
    dsimp only
    by_cases one : attrlen = 1
    · rw [if_pos one]
      by_cases zero : content[0] = 0
      · rw [if_pos zero]
        have fits := rest ((attrByte_read got).2.mp ⟨one, zero⟩)
        obtain ⟨after, accepted⟩ := isSome_iff_exists.mp
          ((acceptGoConfirm_isSome_iff { pwdinfo with negotiationDialogToken := 1 } p2pIe).mpr fits)
        exact bind_isSome_iff.mpr ⟨after, accepted, rfl⟩
      · rw [if_neg zero]
        rfl
    · rw [if_neg one]
      rfl

end Floid.Wifi
