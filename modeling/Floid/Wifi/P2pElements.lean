import Floid.Lib.Elements
import Floid.Wifi.InfoElements
import Floid.Wifi.MgntBuild

namespace Floid.Wifi

open Osk Lib
open List (cons_append cons_ne_nil drop_left drop_zero length_cons length_drop nil_append)
open BitVec (ofNat)

def wpsOui : List U8 := [0x00, 0x50, 0xf2, 0x04]

theorem vendorIe_shorter (inLen : Nat) (length : U8) (inside : 0 < inLen) :
    inLen - (length.toNat + 2) < inLen := by omega

/-- The walk of `get_p2p_ie` and of `get_wps_ie_p2p`: the list from the element on that begins
with these bytes. Of the list, `inLen` bytes are taken for elements. -/
def getVendorIe (oui : List U8) (inIe : List U8) (inLen : Nat) : Option (Option (List U8)) :=
  if 0 < inLen then
    match inIe with
    | eid :: length :: data =>
        if eid = vendorSpecificIe then
          match segment data 0 4 with
          | some first =>
              if first = oui then some (some inIe)
              else getVendorIe oui (data.drop length.toNat) (inLen - (length.toNat + 2))
          | none => none
        else getVendorIe oui (data.drop length.toNat) (inLen - (length.toNat + 2))
    | _ => none
  else some none
termination_by inLen
decreasing_by all_goals exact vendorIe_shorter _ _ ‹_›

def getWpsIeP2p (inIe : List U8) (inLen : Nat) : Option Bool :=
  (getVendorIe wpsOui inIe inLen).map Option.isSome

def getP2pIeInto (room : Nat) (inIe : List U8) (inLen : Nat) : Option (Option (List U8)) :=
  match getVendorIe WifidirectInfo.p2poui inIe inLen with
  | none => none
  | some none => some none
  | some (some found) =>
      match segment found 0 ((found.getD 1 0).toNat + 2) with
      | none => none
      | some p2pIe => if room < p2pIe.length then none else some (some p2pIe)

/-- The loop of `get_p2p_attr_content`: the length of the attribute, and what is behind its
head. -/
def p2pAttrOf (targetAttrId : U8) (attrs : List U8) : Option (Option (Nat × List U8)) :=
  match attrs with
  | [] => some none
  | attrId :: low :: high :: data =>
      let attrlen := low.toNat + 256 * high.toNat
      if attrId = targetAttrId then some (some (attrlen, data))
      else p2pAttrOf targetAttrId (data.drop attrlen)
  | _ => none
termination_by attrs.length
decreasing_by
  rw [length_drop, length_cons, length_cons, length_cons]
  omega

def findP2pAttr (p2pIe : List U8) (targetAttrId : U8) : Option (Option (Nat × List U8)) :=
  match segment p2pIe 0 6 with
  | none => none
  | some first =>
      if first.getD 0 0 ≠ vendorSpecificIe ∨ first.drop 2 ≠ WifidirectInfo.p2poui then some none
      else p2pAttrOf targetAttrId (p2pIe.drop 6)

/-- `get_p2p_attr_content`: whether the attribute is there, `attr_content` and
`attr_contentlen`. -/
def getP2pAttrInto {n : Nat} (p2pIe : List U8) (targetAttrId : U8) (attrContent : Vector U8 n)
    (attrContentlen : Nat) : Option (Bool × Vector U8 n × Nat) :=
  match findP2pAttr p2pIe targetAttrId with
  | none => none
  | some none => some (false, attrContent, attrContentlen)
  | some (some (attrlen, data)) =>
      (segment data 0 attrlen).bind fun content =>
        (fillField attrContent 0 content).map fun attrContent => (true, attrContent, attrlen)

variable {oui rest data : List U8} {inLen : Nat} {attrId targetAttrId : U8} {attrLen : U16}

variable {element : Element}

theorem getVendorIe_skip (other : element.data.take 4 ≠ oui) (long : 4 ≤ element.data.length) (inside : 0 < inLen) :
    getVendorIe oui (element.bytes ++ rest) inLen = getVendorIe oui rest (inLen - element.bytes.length) := by
  have length := element.length_toNat
  have first : segment (element.data ++ rest) 0 4 = some (element.data.take 4) := by
    rw [segment_front rest (by omega), segment_of_le (by omega), drop_zero]
  simp only [Element.bytes, cons_append, length_cons]
  rw [getVendorIe, if_pos inside]
  simp only [first, if_neg other, length, drop_left, Nat.add_assoc, ite_self]

theorem getVendorIe_found (vendor : element.id = vendorSpecificIe)
    (same : element.data.take 4 = oui) (long : 4 ≤ element.data.length) (inside : 0 < inLen) :
    getVendorIe oui (element.bytes ++ rest) inLen = some (some (element.bytes ++ rest)) := by
  have first : segment (element.data ++ rest) 0 4 = some (element.data.take 4) := by
    rw [segment_front rest (by omega), segment_of_le (by omega), drop_zero]
  simp only [Element.bytes, cons_append]
  rw [getVendorIe, if_pos inside]
  simp only [first, if_pos same, if_pos vendor]

theorem getP2pIeInto_found {room : Nat} {inIe : List U8}
    (found : getVendorIe WifidirectInfo.p2poui inIe inLen = some (some (element.bytes ++ rest)))
    (fits : element.bytes.length ≤ room) :
    getP2pIeInto room inIe inLen = some (some element.bytes) := by
  have length : ((element.bytes ++ rest).getD 1 0).toNat + 2 = element.bytes.length := by
    have data := element.length_toNat
    simp only [Element.bytes, cons_append, List.getD_cons_succ, List.getD_cons_zero, length_cons]
    omega
  unfold getP2pIeInto
  rw [found]
  dsimp only
  rw [length, segment_front rest (by omega), segment_all]
  exact if_neg (Nat.not_lt.mpr fits)

theorem shortBytes_toNat (value : U16) :
    (value.setWidth 8 : U8).toNat + 256 * ((value >>> 8).setWidth 8 : U8).toNat = value.toNat := by
  bv_omega

theorem p2pAttrOf_skip (other : attrId ≠ targetAttrId) (length : data.length = attrLen.toNat) :
    p2pAttrOf targetAttrId (setP2pAttrContent attrId attrLen data ++ rest) = p2pAttrOf targetAttrId rest := by
  rw [setP2pAttrContent, shortBytes]
  simp only [cons_append, nil_append]
  rw [p2pAttrOf]
  simp only [if_neg other, shortBytes_toNat, ← length, drop_left]

theorem p2pAttrOf_found : p2pAttrOf attrId (setP2pAttrContent attrId attrLen data ++ rest) =
      some (some (attrLen.toNat, data ++ rest)) := by
  rw [setP2pAttrContent, shortBytes]
  simp only [cons_append, nil_append]
  rw [p2pAttrOf]
  simp only [if_true, shortBytes_toNat]

/-- How attributes begin: the head for an id and a length, and the test that reads it. -/
structure AttrFormat (Id : Type) where
  head : Id → Nat → List U8
  parse : List U8 → Option (Id × Nat × List U8)
  parse_iff : ∀ attrs id len data,
    parse attrs = some (id, len, data) ↔ len < 65536 ∧ attrs = head id len ++ data
  nonempty : ∀ id len, head id len ≠ []

theorem shortBytes_ofNat (low high : U8) :
    shortBytes (ofNat 16 (low.toNat + 256 * high.toNat)) = [low, high] := by
  rw [shortBytes, List.cons.injEq, List.cons.injEq]
  exact ⟨by bv_omega, by bv_omega, rfl⟩

def p2pFormat : AttrFormat U8 where
  head id len := id :: shortBytes (ofNat 16 len)
  parse
    | id :: low :: high :: data => some (id, low.toNat + 256 * high.toNat, data)
    | _ => none
  parse_iff attrs id len data := by
    constructor
    · intro parsed
      split at parsed <;> cases parsed
      exact ⟨by omega, by rw [shortBytes_ofNat]; rfl⟩
    · rintro ⟨short, rfl⟩
      simp only [shortBytes, cons_append, nil_append, shortBytes_toNat, BitVec.toNat_ofNat]
      rw [Nat.mod_eq_of_lt short]
  nonempty _ _ := cons_ne_nil _ _

/-- Attributes of WPS: the id and the length are big-endian numbers. -/
def wpsFormat : AttrFormat U16 where
  head id len := shortBytesBe id ++ shortBytesBe (ofNat 16 len)
  parse
    | type1 :: type0 :: high :: low :: data =>
        some (ofNat 16 (type0.toNat + 256 * type1.toNat), low.toNat + 256 * high.toNat, data)
    | _ => none
  parse_iff attrs id len data := by
    have swapped (low high : U8) :
        shortBytesBe (ofNat 16 (low.toNat + 256 * high.toNat)) = [high, low] :=
      congrArg List.reverse (shortBytes_ofNat low high)
    constructor
    · intro parsed
      split at parsed
      · cases parsed
        exact ⟨by omega, by rw [swapped, swapped]; rfl⟩
      · cases parsed
    · rintro ⟨short, rfl⟩
      simp only [shortBytesBe, cons_append, nil_append, shortBytes_toNat, BitVec.toNat_ofNat]
      rw [Nat.mod_eq_of_lt short, BitVec.ofNat_toNat, BitVec.setWidth_eq]
  nonempty _ _ := cons_ne_nil _ _

namespace AttrFormat

variable {Id : Type} (format : AttrFormat Id)

/-- The walk over the attributes, up to one with the id: its length, and what is behind its head. -/
def find [DecidableEq Id] (target : Id) (attrs : List U8) : Option (Option (Nat × List U8)) :=
  if attrs = [] then some none
  else
    match _parsed : format.parse attrs with
    | none => none
    | some (id, len, data) => if id = target then some (some (len, data)) else find target (data.drop len)
termination_by attrs.length
decreasing_by
  obtain ⟨_, rfl⟩ := (format.parse_iff _ _ _ _).mp _parsed
  have := List.length_pos_of_ne_nil (format.nonempty id len)
  rw [List.length_append, length_drop]
  omega

/-- The copy of the attribute that has been found. -/
def copied : Option (Nat × List U8) → Option (Option (List U8))
  | none => some none
  | some (len, data) => (segment data 0 len).map some

def content [DecidableEq Id] (target : Id) (attrs : List U8) : Option (Option (List U8)) :=
  (format.find target attrs).bind copied

def bytes (id : Id) (data : List U8) : List U8 := format.head id data.length ++ data

/-- The data of the first attribute with an id that is complete, in a list of complete ones. -/
inductive First (target : Id) : List U8 → List U8 → Prop
  | here {data : List U8} (rest : List U8) (short : data.length < 65536) :
      First target (format.bytes target data ++ rest) data
  | next {id : Id} {data rest found : List U8} (other : id ≠ target) (short : data.length < 65536)
      (first : First target rest found) : First target (format.bytes id data ++ rest) found

/-- The walk meets whole heads only, and if it comes to the id, a complete attribute. -/
inductive Fits (target : Id) : List U8 → Prop
  | ended : Fits target []
  | found {attrs data : List U8} {len : Nat} (parsed : format.parse attrs = some (target, len, data))
      (complete : len ≤ data.length) : Fits target attrs
  | next {attrs data : List U8} {id : Id} {len : Nat} (parsed : format.parse attrs = some (id, len, data))
      (other : id ≠ target) (fits : Fits target (data.drop len)) : Fits target attrs

/-- A lookup has found what is the first complete attribute of the list, if there is one. -/
def Exact (target : Id) (attrs : List U8) (result : Option (Option (List U8))) : Prop :=
  ∃ answer, result = some answer ∧ ∀ found, answer = some found ↔ format.First target attrs found

variable {format} {target : Id} {attrs found : List U8}

variable {id : Id}

theorem parse_bytes (short : data.length < 65536) (rest : List U8) :
    format.parse (format.bytes id data ++ rest) = some (id, data.length, data ++ rest) :=
  (format.parse_iff _ _ _ _).mpr ⟨short, List.append_assoc _ _ _⟩

theorem first_ne_nil (first : format.First target attrs found) : attrs ≠ [] := by
  cases first <;> simp [bytes, format.nonempty]

variable [DecidableEq Id]

variable {len : Nat}

theorem first_iff (parsed : format.parse attrs = some (id, len, data)) :
    format.First target attrs found ↔ len ≤ data.length ∧
      if id = target then found = data.take len else format.First target (data.drop len) found := by
  constructor
  · intro first
    cases first with
    | here rest short =>
      rw [parse_bytes short] at parsed
      cases parsed
      exact ⟨by simp, by simp⟩
    | next other short first =>
      rw [parse_bytes short] at parsed
      cases parsed
      rw [if_neg other, drop_left]
      exact ⟨by simp, first⟩
  · rintro ⟨complete, answer⟩
    obtain ⟨short, rfl⟩ := (format.parse_iff _ _ _ _).mp parsed
    have taken : (data.take len).length = len := List.length_take_of_le complete
    have whole : format.head id len ++ data = format.bytes id (data.take len) ++ data.drop len := by
      rw [bytes, taken, List.append_assoc, List.take_append_drop]
    rw [whole]
    split at answer
    · subst_vars
      exact .here _ (by omega)
    · exact .next ‹_› (by omega) answer

theorem fits_iff (parsed : format.parse attrs = some (id, len, data)) : format.Fits target attrs ↔
      if id = target then len ≤ data.length else format.Fits target (data.drop len) := by
  constructor
  · intro fits
    cases fits with
    | ended =>
      obtain ⟨_, empty⟩ := (format.parse_iff _ _ _ _).mp parsed
      exact absurd (List.append_eq_nil_iff.mp empty.symm).1 (format.nonempty id len)
    | found again complete =>
      cases parsed.symm.trans again
      rwa [if_pos rfl]
    | next again other fits =>
      cases parsed.symm.trans again
      rwa [if_neg other]
  · intro fits
    split at fits
    · subst_vars
      exact .found parsed fits
    · exact .next parsed ‹_› fits

theorem content_isSome_iff : (format.content target attrs).isSome ↔ format.Fits target attrs := by
  rw [content]
  fun_induction find format target attrs with
  | case1 => exact ⟨fun _ => .ended, fun _ => rfl⟩
  | case2 attrs more stops =>
    refine ⟨nofun, fun fits => ?_⟩
    cases fits with
    | ended => exact absurd rfl more
    | found parsed _ => cases stops.symm.trans parsed
    | next parsed _ _ => cases stops.symm.trans parsed
  | case3 attrs _ len data parsed =>
    rw [fits_iff parsed, if_pos rfl]
    simp [copied, Lib.segment]
  | case4 attrs _ id len data parsed other ih => rw [fits_iff parsed, if_neg other, ih]

theorem content_found {answer : Option (List U8)} (read : format.content target attrs = some answer) :
    answer = some found ↔ format.First target attrs found := by
  rw [content] at read
  fun_induction find format target attrs with
  | case1 =>
    cases read
    exact ⟨nofun, fun first => absurd rfl (first_ne_nil first)⟩
  | case2 => cases read
  | case3 attrs _ len data parsed =>
    rw [first_iff parsed, if_pos rfl]
    have ⟨copy, copies, taken⟩ := Option.map_eq_some_iff.mp read
    have inside : len ≤ data.length := by grind [Lib.segment]
    rw [segment_of_le (by omega), drop_zero] at copies
    cases copies
    rw [← taken, Option.some.injEq, and_iff_right inside, eq_comm]
  | case4 attrs _ id len data parsed other ih =>
    rw [first_iff parsed, if_neg other, ih read]
    refine ⟨fun first => ⟨?_, first⟩, And.right⟩
    have := List.length_pos_of_ne_nil (first_ne_nil first)
    rw [length_drop] at this
    omega

theorem content_exact_iff :
    format.Exact target attrs (format.content target attrs) ↔ format.Fits target attrs := by
  rw [← content_isSome_iff, Option.isSome_iff_exists]
  exact ⟨fun ⟨answer, read, _⟩ => ⟨answer, read⟩, fun ⟨answer, read⟩ => ⟨answer, read, fun _ => content_found read⟩⟩

end AttrFormat

theorem p2pAttrOf_eq (attrs : List U8) : p2pAttrOf targetAttrId attrs = p2pFormat.find targetAttrId attrs := by
  fun_induction p2pAttrOf targetAttrId attrs with
  | case1 => rw [AttrFormat.find, if_pos rfl]
  | case2 =>
    rw [AttrFormat.find, if_neg (cons_ne_nil _ _)]
    exact (if_pos rfl).symm
  | case3 _ _ _ _ _ other ih =>
    rw [AttrFormat.find, if_neg (cons_ne_nil _ _)]
    exact ih.trans (if_neg other).symm
  | case4 attrs more short =>
    rw [AttrFormat.find, if_neg more]
    match attrs, short with
    | [_], _ | [_, _], _ => rfl
    | _ :: _ :: _ :: _, short => exact absurd rfl (short _ _ _ _)

/-- `get_p2p_attr_content` into a buffer with room for every attribute. -/
def p2pAttrContent (p2pIe : List U8) (targetAttrId : U8) : Option (Option (List U8)) :=
  (findP2pAttr p2pIe targetAttrId).bind AttrFormat.copied

/-- `get_wps_attr_content`. -/
def wpsAttrContent (wpsIe : List U8) (targetAttrId : U16) : Option (Option (List U8)) :=
  match segment wpsIe 0 6 with
  | none => none
  | some first =>
      if first.getD 0 0 ≠ vendorSpecificIe ∨ first.drop 2 ≠ wpsOui then some none
      else wpsFormat.content targetAttrId (wpsIe.drop 6)

def vendorElement (length : U8) (oui attrs : List U8) : List U8 :=
  vendorSpecificIe :: length :: (oui ++ attrs)

theorem p2pAttrContent_eq (length : U8) (attrs : List U8) :
    p2pAttrContent (vendorElement length WifidirectInfo.p2poui attrs) targetAttrId =
      p2pFormat.content targetAttrId attrs := by
  simp [p2pAttrContent, findP2pAttr, vendorElement, Lib.segment, WifidirectInfo.p2poui, p2pAttrOf_eq, AttrFormat.content]

theorem wpsAttrContent_eq (length : U8) (attrs : List U8) (targetAttrId : U16) :
    wpsAttrContent (vendorElement length wpsOui attrs) targetAttrId = wpsFormat.content targetAttrId attrs := by
  simp [wpsAttrContent, vendorElement, Lib.segment, wpsOui]

/-- Successive `set_p2p_attr_content` calls. -/
def setP2pAttrs (items : List (U8 × { data : List U8 // data.length < 65536 })) : List U8 :=
  items.flatMap fun item => setP2pAttrContent item.1 (ofNat 16 item.2.1.length) item.2.1

theorem content_setP2pAttrs (items : List (U8 × { data : List U8 // data.length < 65536 })) :
    p2pFormat.content targetAttrId (setP2pAttrs items) =
      some ((items.find? fun item => item.1 = targetAttrId).map fun item => item.2.1) := by
  induction items with
  | nil => simp [setP2pAttrs, AttrFormat.content, AttrFormat.find, AttrFormat.copied]
  | cons item items ih =>
    obtain ⟨id, data, short⟩ := item
    have same : (ofNat 16 data.length).toNat = data.length := Nat.mod_eq_of_lt short
    simp only [setP2pAttrs, List.flatMap_cons, AttrFormat.content, ← p2pAttrOf_eq] at ih ⊢
    by_cases here : id = targetAttrId
    · subst here
      rw [p2pAttrOf_found, same]
      simp [AttrFormat.copied, Lib.segment]
    · rw [p2pAttrOf_skip here same.symm, ih, List.find?_cons_of_neg (by simpa using here)]

theorem attrContent_exact_iff (length : U8) (attrs : List U8) (targetAttrId : U8) (targetWpsId : U16)
    (items : List (U8 × { data : List U8 // data.length < 65536 })) :
    (p2pFormat.Exact targetAttrId attrs
        (p2pAttrContent (vendorElement length WifidirectInfo.p2poui attrs) targetAttrId) ↔
      p2pFormat.Fits targetAttrId attrs) ∧
    (wpsFormat.Exact targetWpsId attrs (wpsAttrContent (vendorElement length wpsOui attrs) targetWpsId) ↔
      wpsFormat.Fits targetWpsId attrs) ∧
    p2pAttrContent (vendorElement length WifidirectInfo.p2poui (setP2pAttrs items)) targetAttrId =
      some ((items.find? fun item => item.1 = targetAttrId).map fun item => item.2.1) := by
  rw [p2pAttrContent_eq, wpsAttrContent_eq, p2pAttrContent_eq]
  exact ⟨AttrFormat.content_exact_iff, AttrFormat.content_exact_iff, content_setP2pAttrs items⟩

/-- An attribute of nine bytes of which there is one. -/
theorem attrContent_not_exact : ¬ ∀ (length : U8) (attrs : List U8) (targetAttrId : U8),
    p2pFormat.Exact targetAttrId attrs
      (p2pAttrContent (vendorElement length WifidirectInfo.p2poui attrs) targetAttrId) := by
  intro all
  have fits := all 8 [5, 9, 0, 1] 5
  rw [p2pAttrContent_eq, AttrFormat.content_exact_iff,
    AttrFormat.fits_iff (show p2pFormat.parse [5, 9, 0, 1] = some (5, 9, [1]) from rfl)] at fits
  exact absurd fits (by simp)

end Floid.Wifi
