import Floid.Wifi.InfoElementBounds
import Floid.Wifi.ApAuth

/-!
The search for an element by its type: `get_ie`, which looks at one element after the other, and
`get_wpa_ie`, which uses it to look at one vendor element after the other.
-/

namespace Floid.Wifi

open Osk Lib
open List (append_assoc append_nil cons_append length_append length_cons nil_append singleton_append)
open Option (some.inj some.injEq)

variable {index : U8} {list : List U8}

def FirstElement (index : U8) (list : List U8) (element : Element) (rest : List U8) : Prop :=
  element.id = index ∧ Element.WalkedTo (fun other => other.id ≠ index) list (element.bytes ++ rest)

/-- `get_ie` reads nothing behind the list; what it finds is the first element of the type, with
its length. -/
def GetIeExact (index : U8) (list : List U8) : Prop :=
  ∃ result, getIe list index list.length = some result ∧
    ∀ found, result = some found ↔ ∃ element rest, FirstElement index list element rest ∧
      found = (element.bytes ++ rest, element.data.length)

def FirstIsWhole (index : U8) (list : List U8) : Prop :=
  ∀ length data, FirstOf index list length data → length.toNat ≤ data.length

theorem FirstElement.firstOf {element : Element} {rest : List U8} (first : FirstElement index list element rest) :
    FirstOf index list (BitVec.ofNat 8 element.data.length) (element.data ++ rest) := by
  obtain ⟨rfl, walked⟩ := first
  exact walked

theorem FirstOf.exists_element {length : U8} {data : List U8} (first : FirstOf index list length data)
    (whole : length.toNat ≤ data.length) :
    ∃ element rest, FirstElement index list element rest ∧
      element.bytes ++ rest = index :: length :: data ∧ element.data.length = length.toNat := by
  obtain ⟨element, isIndex, isData, same⟩ := Element.exists_bytes index length data whole
  refine ⟨element, data.drop length.toNat, ⟨isIndex, same ▸ first⟩, same.symm, ?_⟩
  rw [isData, List.length_take, Nat.min_eq_left whole]

/-- `get_ie` is exact if and only if the walk does not come to a single byte at the end of the
list, and the first bytes that look like an element of the type have all its data. -/
theorem getIe_exact_iff (index : U8) (list : List U8) :
    GetIeExact index list ↔ WalkFits index list ∧ FirstIsWhole index list := by
  have finds := getIe_finds index list
  unfold GetIeExact
  cases searched : getIe list index list.length with
  | none =>
    rw [searched] at finds
    refine iff_of_false ?_ fun both => finds both.1
    rintro ⟨result, absent, _⟩
    cases absent
  | some result =>
    rw [searched] at finds
    simp only [some.injEq, exists_eq_left']
    cases result with
    | none =>
      obtain ⟨fits, absent⟩ := finds
      refine iff_of_true (fun found => ⟨nofun, ?_⟩)
        ⟨fits, fun length data first => absurd first (absent length data)⟩
      rintro ⟨element, rest, first, _⟩
      exact absurd first.firstOf (absent _ _)
    | some found =>
      obtain ⟨pIE, ieLen⟩ := found
      obtain ⟨fits, length, data, rfl, rfl, unique⟩ := finds
      rw [and_iff_right fits]
      constructor
      · intro isExact otherLength otherData first
        obtain ⟨element, rest, isFirst, same⟩ := (isExact _).mp rfl
        obtain ⟨rfl, rfl⟩ := (unique _ _).mp first
        rw [Prod.mk.injEq, Element.bytes] at same
        simp only [cons_append, List.cons.injEq] at same
        obtain ⟨⟨_, _, rfl⟩, isLength⟩ := same
        rw [isLength, length_append]
        omega
      · intro whole other
        have isFirst := (unique length data).mpr ⟨rfl, rfl⟩
        obtain ⟨element, rest, first, bytes, size⟩ := isFirst.exists_element (whole _ _ isFirst)
        constructor
        · intro same
          refine ⟨element, rest, first, ?_⟩
          rw [← some.inj same, bytes, size]
        · rintro ⟨another, behind, isFirst, rfl⟩
          obtain ⟨isLength, isData⟩ := (unique _ _).mp isFirst.firstOf
          rw [Element.bytes, isFirst.1, cons_append, cons_append, isLength, isData, ← isLength, another.length_toNat]

/-- An element of the type that is cut off is found with its length, and of a single byte at the
end the length is read behind the list. -/
theorem getIe_not_exact : ¬GetIeExact 48 [48, 20, 1, 0] ∧ ¬GetIeExact 48 [7] := by
  constructor
  · rintro ⟨result, searched, same⟩
    have found : getIe [48, 20, 1, 0] 48 ([48, 20, 1, 0] : List U8).length =
        some (some ([48, 20, 1, 0], 20)) := by
      rw [getIe, if_neg (by decide), getIeFrom]
      rfl
    rw [found] at searched
    obtain ⟨element, rest, _, bytes⟩ := (same _).mp (some.inj searched).symm
    rw [Prod.mk.injEq] at bytes
    have size := congrArg List.length bytes.1
    rw [Element.bytes, cons_append, cons_append] at size
    simp only [length_cons, length_append, List.length_nil] at size
    omega
  · rintro ⟨result, searched, _⟩
    have outside : getIe [7] 48 ([7] : List U8).length = none := by
      rw [getIe, if_neg (by decide), getIeFrom]
      rfl
    rw [outside] at searched
    cases searched

def wpaIeId : U8 := 0xdd

def wpaOuiType : List U8 := [0x00, 0x50, 0xf2, 0x01]

def wpaAt (memory : Nat → U8) (pbuf : Nat) : Bool :=
  (List.range 4).map (fun i => memory (pbuf + 2 + i)) == wpaOuiType &&
    memory (pbuf + 7) ++ memory (pbuf + 6) == (0x0001 : U16)

def getWpaIeWalk (memory : Nat → U8) (pie pbuf limit : Nat) : Option (Nat × Nat) :=
  (getIeAt memory pbuf wpaIeId limit).bind fun pbuf =>
    let len := (memory (pbuf + 1)).toNat
    if wpaAt memory pbuf then some (pbuf, len)
    else if limit ≤ pbuf - pie + 2 + len then none
    else getWpaIeWalk memory pie (pbuf + (2 + len)) (limit - (pbuf - pie) - 2 - len)
termination_by limit

def getWpaIe (memory : Nat → U8) (limit : Nat) : Option (Nat × Nat) :=
  getWpaIeWalk memory 0 0 limit

def memoryFrom (list : List U8) (behind : Nat → U8) (place : Nat) : U8 :=
  (list[place]?).getD (behind place)

def listBytes (elements : List Element) : List U8 := elements.flatMap Element.bytes

def IsWpa (element : Element) : Prop :=
  element.id = wpaIeId ∧ ∃ rest, element.data = wpaOuiType ++ (0x01 :: 0x00 :: rest)

def FirstSplit {Item : Type*} (kind : List Item → Item → Prop) (before : List Item) (item : Item) : Prop :=
  kind before item ∧ ∀ front other back, before = front ++ other :: back → ¬kind front other

/-- `get_wpa_ie` finds the first WPA element of version 1 of a list, if there is one. -/
def GetWpaIeExact (elements : List Element) (behind : Nat → U8) : Prop :=
  ∀ found, getWpaIe (memoryFrom (listBytes elements) behind) (listBytes elements).length = some found ↔
    ∃ before element after, elements = before ++ element :: after ∧ FirstSplit (fun _ => IsWpa) before element ∧
      found = ((listBytes before).length, element.data.length)

def vendorEnds : Nat → List Element → List Nat
  | _, [] => []
  | place, element :: rest =>
      let next := place + element.bytes.length
      if element.id = wpaIeId then next :: vendorEnds next rest else vendorEnds next rest

/-- What `get_wpa_ie` takes off its limit too often, when it has come past some elements: each
vendor element that it has refused is taken off again, with all that is before it, for the next
one that it refuses. -/
def takenTwice (before : List Element) : Nat := (vendorEnds 0 before).dropLast.sum

def Lookalike (memory : Nat → U8) (before : List Element) (element : Element) : Prop :=
  element.id = wpaIeId ∧ wpaAt memory (listBytes before).length = true

instance (memory : Nat → U8) (before : List Element) (element : Element) :
    Decidable (Lookalike memory before element) := inferInstanceAs (Decidable (_ ∧ _))

def wpaSearch (memory : Nat → U8) (limit : Nat) : List Element → List Element → Option (Nat × Nat)
  | _, [] => none
  | passed, element :: rest =>
      let place := (listBytes passed).length
      if limit ≤ place + takenTwice passed then none
      else if Lookalike memory passed element then some (place, element.data.length)
      else wpaSearch memory limit (passed ++ [element]) rest

variable {memory behind : Nat → U8} {limit place : Nat} {passed before rest after elements : List Element}
  {element : Element}

theorem listBytes_append (before after : List Element) :
    listBytes (before ++ after) = listBytes before ++ listBytes after := List.flatMap_append

theorem listBytes_cons (element : Element) (rest : List Element) :
    listBytes (element :: rest) = element.bytes ++ listBytes rest := List.flatMap_cons

theorem bytes_length (element : Element) : element.bytes.length = element.data.length + 2 := rfl

theorem listBytes_snoc_length (passed : List Element) (element : Element) :
    (listBytes (passed ++ [element])).length = (listBytes passed).length + element.bytes.length := by
  rw [listBytes_append, listBytes_cons, length_append, length_append]
  rfl

theorem vendorEnds_append (before after : List Element) (place : Nat) : vendorEnds place (before ++ after) =
      vendorEnds place before ++ vendorEnds (place + (listBytes before).length) after := by
  induction before generalizing place with
  | nil => rfl
  | cons element rest ih =>
    rw [cons_append, vendorEnds, vendorEnds, listBytes_cons, length_append, ← Nat.add_assoc, ih]
    split <;> rfl

def lastEnd (before : List Element) : Nat := (vendorEnds 0 before).getLast?.getD 0

theorem vendorEnds_le (before : List Element) (place : Nat) :
    ∀ next ∈ vendorEnds place before, next ≤ place + (listBytes before).length := by
  induction before generalizing place with
  | nil => simp [vendorEnds]
  | cons element rest ih =>
    intro next member
    rw [listBytes_cons, length_append]
    rw [vendorEnds] at member
    split at member
    · rcases List.mem_cons.mp member with rfl | member
      · omega
      · have := ih _ next member
        omega
    · have := ih _ next member
      omega

theorem lastEnd_le (before : List Element) : lastEnd before ≤ (listBytes before).length := by
  unfold lastEnd
  cases last : (vendorEnds 0 before).getLast? with
  | none => exact Nat.zero_le _
  | some next =>
    have inside := vendorEnds_le before 0 next (List.mem_of_getLast? last)
    rwa [Nat.zero_add] at inside

theorem vendorEnds_snoc (passed : List Element) (element : Element) :
    vendorEnds 0 (passed ++ [element]) = vendorEnds 0 passed ++
      if element.id = wpaIeId then [(listBytes passed).length + element.bytes.length] else [] := by
  rw [vendorEnds_append, Nat.zero_add, vendorEnds]
  rfl

theorem takenTwice_vendor (vendor : element.id = wpaIeId) :
    takenTwice (passed ++ [element]) = takenTwice passed + lastEnd passed := by
  rw [takenTwice, takenTwice, lastEnd, vendorEnds_snoc, if_pos vendor, List.dropLast_concat]
  cases ends : (vendorEnds 0 passed).getLast? with
  | none => rw [List.getLast?_eq_none_iff.mp ends]; rfl
  | some last =>
    obtain ⟨front, same⟩ := List.getLast?_eq_some_iff.mp ends
    rw [same, List.dropLast_concat, List.sum_append, List.sum_singleton]
    rfl

theorem lastEnd_vendor (vendor : element.id = wpaIeId) :
    lastEnd (passed ++ [element]) = (listBytes (passed ++ [element])).length := by
  rw [lastEnd, vendorEnds_snoc, if_pos vendor, List.getLast?_concat, listBytes_snoc_length]
  rfl

theorem vendorEnds_other (other : element.id ≠ wpaIeId) :
    vendorEnds 0 (passed ++ [element]) = vendorEnds 0 passed := by
  rw [vendorEnds_snoc, if_neg other, append_nil]

theorem takenTwice_le_snoc (passed : List Element) (element : Element) :
    takenTwice passed ≤ takenTwice (passed ++ [element]) := by
  by_cases vendor : element.id = wpaIeId
  · rw [takenTwice_vendor vendor]
    exact Nat.le_add_right _ _
  · rw [takenTwice, takenTwice, vendorEnds_other vendor]

theorem wpaSearch_none (far : limit ≤ (listBytes passed).length + takenTwice passed) :
    wpaSearch memory limit passed rest = none := by
  cases rest with
  | nil => rfl
  | cons element rest => rw [wpaSearch, if_pos far]

theorem memoryFrom_eq {front middle back : List U8} {index : Nat} (inside : index < middle.length) :
    memoryFrom (front ++ (middle ++ back)) behind (front.length + index) = middle[index] := by
  rw [memoryFrom, List.getElem?_append_right (Nat.le_add_right _ _), Nat.add_sub_cancel_left,
    List.getElem?_append_left inside, List.getElem?_eq_getElem inside]
  rfl

def wpaTurn (memory : Nat → U8) (limit pbuf : Nat) : Option (Nat × Nat) :=
  let len := (memory (pbuf + 1)).toNat
  if wpaAt memory pbuf then some (pbuf, len)
  else if limit ≤ pbuf - 0 + 2 + len then none
  else getWpaIeWalk memory 0 (pbuf + (2 + len)) (limit - (pbuf - 0) - 2 - len)

theorem getWpaIeWalk_eq (memory : Nat → U8) (pbuf limit : Nat) : getWpaIeWalk memory 0 pbuf limit =
      (getIeAt memory pbuf wpaIeId limit).bind (wpaTurn memory limit) := by
  rw [getWpaIeWalk]
  rfl

theorem getIeWalk_bind_eq (behind : Nat → U8) (rest passed : List Element) (rounds left : Nat)
    (isLeft : left = limit - ((listBytes passed).length + takenTwice passed)) (nonzero : 0 < left)
    (enough : left ≤ rounds) (within : limit ≤ (listBytes (passed ++ rest)).length) :
    let memory := memoryFrom (listBytes (passed ++ rest)) behind
    let i := (listBytes passed).length - lastEnd passed
    (getIeWalk memory wpaIeId rounds (listBytes passed).length i (i + left)).bind
      (wpaTurn memory (i + left)) = wpaSearch memory limit passed rest := by
  induction rest generalizing passed rounds left with
  | nil =>
    rw [append_nil] at within
    omega
  | cons element rest ih =>
    intro memory i
    have ended := lastEnd_le passed
    have snoc := listBytes_snoc_length passed element
    have size := bytes_length element
    have whole : passed ++ element :: rest = passed ++ [element] ++ rest := by simp
    have lies (index : Nat) (inside : index < element.bytes.length) :
        memory ((listBytes passed).length + index) = element.bytes[index] := by
      have same := @memoryFrom_eq behind (listBytes passed) element.bytes (listBytes rest) index inside
      rw [← listBytes_cons, ← listBytes_append] at same
      exact same
    have id : memory (listBytes passed).length = element.id := lies 0 (by omega)
    have length : (memory ((listBytes passed).length + 1)).toNat = element.data.length := by
      rw [lies 1 (by omega)]
      exact element.length_toNat
    obtain ⟨rounds, rfl⟩ : ∃ less, rounds = less + 1 := ⟨rounds - 1, by omega⟩
    have near : ¬limit ≤ (listBytes passed).length + takenTwice passed := by omega
    rw [getIeWalk, wpaSearch, if_neg near, id]
    by_cases vendor : element.id = wpaIeId
    · have taken := @takenTwice_vendor passed _ vendor
      rw [if_pos vendor, Option.bind_some, wpaTurn, length]
      by_cases looks : wpaAt memory (listBytes passed).length = true
      · have found : Lookalike memory passed element := ⟨vendor, looks⟩
        rw [if_pos looks, if_pos found]
      · have refused : ¬Lookalike memory passed element := fun both => looks both.2
        rw [if_neg looks, if_neg refused]
        by_cases beyond : i + left ≤ (listBytes passed).length - 0 + 2 + element.data.length
        · rw [if_pos beyond, wpaSearch_none (by omega)]
        · rw [if_neg beyond, getWpaIeWalk_eq, getIeAt, if_neg (by omega)]
          have next := ih (passed ++ [element])
            (i + left - ((listBytes passed).length - 0) - 2 - element.data.length)
            (i + left - ((listBytes passed).length - 0) - 2 - element.data.length)
            (by omega) (by omega) (Nat.le_refl _) (by rwa [← whole])
          rw [lastEnd_vendor vendor, Nat.sub_self, ← whole] at next
          dsimp only at next
          rw [Nat.zero_add, snoc, size] at next
          rw [← next, Nat.add_comm 2]
    · have same := @vendorEnds_other passed _ vendor
      have taken : takenTwice (passed ++ [element]) = takenTwice passed := by
        rw [takenTwice, takenTwice, same]
      have last : lastEnd (passed ++ [element]) = lastEnd passed := by rw [lastEnd, lastEnd, same]
      have refused : ¬Lookalike memory passed element := fun both => vendor both.1
      rw [if_neg vendor, if_neg refused, length]
      dsimp only
      by_cases beyond : i + left ≤ i + (element.data.length + 2)
      · rw [if_pos beyond, wpaSearch_none (by omega)]
        rfl
      · rw [if_neg beyond]
        have next := ih (passed ++ [element]) rounds (left - (element.data.length + 2))
          (by omega) (by omega) (by omega) (by rwa [← whole])
        rw [last, snoc, size, ← whole] at next
        dsimp only at next
        have place : (listBytes passed).length + (element.data.length + 2) - lastEnd passed =
            i + (element.data.length + 2) := by omega
        have total : i + (element.data.length + 2) + (left - (element.data.length + 2)) = i + left := by omega
        rw [place, total] at next
        exact next

theorem exists_firstSplit {Item : Type*} {kind : List Item → Item → Prop} {list before after : List Item}
    {item : Item} (split : list = before ++ item :: after) (isKind : kind before item) :
    ∃ before item after, list = before ++ item :: after ∧ FirstSplit kind before item := by
  induction long : before.length using Nat.strongRecOn generalizing before item after with
  | _ n ih =>
    subst long
    by_cases earlier : ∃ front other back, before = front ++ other :: back ∧ kind front other
    · obtain ⟨front, other, back, rfl, otherKind⟩ := earlier
      rw [append_assoc, cons_append] at split
      exact ih front.length (by simp) split otherKind rfl
    · refine ⟨before, item, after, split, isKind, fun front other back same otherKind => ?_⟩
      exact earlier ⟨front, other, back, same, otherKind⟩

theorem firstSplit_unique {Item : Type*} {kind : List Item → Item → Prop}
    {before after others behind : List Item} {item other : Item}
    (whole : before ++ item :: after = others ++ other :: behind)
    (first : FirstSplit kind before item) (second : FirstSplit kind others other) :
    before = others ∧ item = other := by
  rcases List.append_eq_append_iff.mp whole with ⟨more, rfl, same⟩ | ⟨more, rfl, same⟩
  · cases more with
    | nil =>
      rw [nil_append, List.cons.injEq] at same
      exact ⟨(append_nil _).symm, same.1⟩
    | cons next more =>
      rw [cons_append, List.cons.injEq] at same
      exact absurd first.1 (second.2 before item more (by rw [same.1]))
  · cases more with
    | nil =>
      rw [nil_append, List.cons.injEq] at same
      exact ⟨append_nil _, same.1.symm⟩
    | cons next more =>
      rw [cons_append, List.cons.injEq] at same
      exact absurd second.1 (first.2 others other more (by rw [same.1]))

theorem takenTwice_le_append (passed more : List Element) :
    takenTwice passed ≤ takenTwice (passed ++ more) := by
  induction more generalizing passed with
  | nil => rw [append_nil]
  | cons element rest ih =>
    have next := ih (passed ++ [element])
    rw [append_assoc, singleton_append] at next
    exact Nat.le_trans (takenTwice_le_snoc passed element) next

theorem wpaSearch_eq_some_iff {found : Nat × Nat}
    (absent : ∀ front other back, passed = front ++ other :: back → ¬Lookalike memory front other) :
    wpaSearch memory limit passed rest = some found ↔
      ∃ more element after, rest = more ++ element :: after ∧
        FirstSplit (Lookalike memory) (passed ++ more) element ∧
        (listBytes (passed ++ more)).length + takenTwice (passed ++ more) < limit ∧
        found = ((listBytes (passed ++ more)).length, element.data.length) := by
  induction rest generalizing passed with
  | nil => simp [wpaSearch]
  | cons element rest ih =>
    rw [wpaSearch]
    by_cases far : limit ≤ (listBytes passed).length + takenTwice passed
    · rw [if_pos far]
      refine iff_of_false nofun ?_
      rintro ⟨more, _, _, _, _, near, _⟩
      have taken := takenTwice_le_append passed more
      rw [listBytes_append, length_append] at near
      omega
    · rw [if_neg far]
      by_cases looks : Lookalike memory passed element
      · rw [if_pos looks, some.injEq]
        constructor
        · rintro rfl
          refine ⟨[], element, rest, rfl, ?_⟩
          rw [append_nil]
          exact ⟨⟨looks, absent⟩, Nat.lt_of_not_le far, rfl⟩
        · rintro ⟨more, other, after, split, first, _, rfl⟩
          cases more with
          | nil =>
            rw [nil_append, List.cons.injEq] at split
            rw [append_nil, split.1]
          | cons next more =>
            rw [cons_append, List.cons.injEq] at split
            exact absurd looks (first.2 passed element more (by rw [split.1]))
      · have refused : ∀ front other back, passed ++ [element] = front ++ other :: back →
            ¬Lookalike memory front other := by
          intro front other back whole
          rcases List.eq_nil_or_concat back with rfl | ⟨back, last, rfl⟩
          · obtain ⟨rfl, same⟩ := List.append_inj' whole rfl
            rw [List.cons.injEq] at same
            rwa [← same.1]
          · rw [List.concat_eq_append, ← cons_append, ← append_assoc] at whole
            exact absent front other back (List.append_inj' whole rfl).1
        rw [if_neg looks, ih refused]
        constructor
        · rintro ⟨more, other, after, rfl, first, near, rfl⟩
          refine ⟨element :: more, other, after, rfl, ?_⟩
          rw [append_assoc, singleton_append] at first near
          rw [append_assoc, singleton_append]
          exact ⟨first, near, rfl⟩
        · rintro ⟨more, other, after, split, first, near, rfl⟩
          cases more with
          | nil =>
            rw [nil_append, List.cons.injEq] at split
            rw [append_nil, ← split.1] at first
            exact absurd first.1 looks
          | cons next more =>
            rw [cons_append, List.cons.injEq] at split
            obtain ⟨rfl, rfl⟩ := split
            refine ⟨more, other, after, rfl, ?_⟩
            rw [append_assoc, singleton_append]
            exact ⟨first, near, rfl⟩

theorem getWpaIe_eq (elements : List Element) (behind : Nat → U8) :
    getWpaIe (memoryFrom (listBytes elements) behind) (listBytes elements).length =
      wpaSearch (memoryFrom (listBytes elements) behind) (listBytes elements).length [] elements := by
  rw [getWpaIe, getWpaIeWalk_eq, getIeAt]
  by_cases empty : (listBytes elements).length < 1
  · rw [if_pos empty, wpaSearch_none (by omega)]
    rfl
  · rw [if_neg empty]
    have search := @getIeWalk_bind_eq (listBytes elements).length behind elements []
      (listBytes elements).length (listBytes elements).length rfl (by omega) (Nat.le_refl _)
      (Nat.le_refl _)
    have start : (listBytes []).length - lastEnd [] = 0 := rfl
    dsimp only at search
    rw [start, Nat.zero_add] at search
    exact search

theorem IsWpa.lookalike (isWpa : IsWpa element) (before after : List Element) (behind : Nat → U8) :
    Lookalike (memoryFrom (listBytes (before ++ element :: after)) behind) before element := by
  obtain ⟨vendor, rest, data⟩ := isWpa
  have lies (index : Nat) (inside : index < element.bytes.length) :
      some (memoryFrom (listBytes (before ++ element :: after)) behind
        ((listBytes before).length + index)) = element.bytes[index]? := by
    rw [listBytes_append, listBytes_cons, memoryFrom_eq inside, List.getElem?_eq_getElem inside]
  have long : 8 ≤ element.bytes.length := by
    rw [bytes_length, data]
    simp [wpaOuiType]
  have oui0 := lies 2 (by omega)
  have oui1 := lies 3 (by omega)
  have oui2 := lies 4 (by omega)
  have type := lies 5 (by omega)
  have low := lies 6 (by omega)
  have high := lies 7 (by omega)
  rw [Element.bytes, data] at oui0 oui1 oui2 type low high
  refine ⟨vendor, ?_⟩
  rw [wpaAt, some.inj low, some.inj high]
  simp [List.range_succ, Nat.add_assoc, some.inj oui0, some.inj oui1,
    some.inj oui2, some.inj type, wpaOuiType]

theorem element_eq_of_place {others back : List Element} {other : Element}
    (whole : before ++ element :: after = others ++ other :: back)
    (same : (listBytes before).length = (listBytes others).length) : element = other := by
  rcases List.append_eq_append_iff.mp whole with ⟨more, rfl, split⟩ | ⟨more, rfl, split⟩
  · cases more with
    | nil =>
      rw [nil_append, List.cons.injEq] at split
      exact split.1
    | cons next more =>
      rw [listBytes_append, listBytes_cons, length_append, length_append, bytes_length] at same
      omega
  · cases more with
    | nil =>
      rw [nil_append, List.cons.injEq] at split
      exact split.1.symm
    | cons next more =>
      rw [listBytes_append, listBytes_cons, length_append, length_append, bytes_length] at same
      omega

theorem IsWpa.firstSplit (isWpa : IsWpa element)
    (first : FirstSplit (Lookalike (memoryFrom (listBytes (before ++ element :: after)) behind)) before
      element) : FirstSplit (fun _ => IsWpa) before element := by
  refine ⟨isWpa, ?_⟩
  rintro front other back rfl otherWpa
  have looks := otherWpa.lookalike front (back ++ element :: after) behind
  rw [← cons_append, ← append_assoc] at looks
  exact first.2 front other back rfl looks

/-- The search is exact if and only if the first element that looks like a WPA element, if there
is one, is one and is not beyond the limit, or is beyond it in a list without a WPA element. -/
theorem getWpaIe_exact_iff (elements : List Element) (behind : Nat → U8) : GetWpaIeExact elements behind ↔
      ∀ before element after, elements = before ++ element :: after →
        FirstSplit (Lookalike (memoryFrom (listBytes elements) behind)) before element →
        IsWpa element ∧ (listBytes before).length + takenTwice before < (listBytes elements).length ∨
          (∀ other ∈ elements, ¬IsWpa other) ∧
            (listBytes elements).length ≤ (listBytes before).length + takenTwice before := by
  unfold GetWpaIeExact
  rw [getWpaIe_eq]
  have start : ∀ front other back, [] = front ++ other :: back →
      ¬Lookalike (memoryFrom (listBytes elements) behind) front other := by
    intro front other back empty
    simp at empty
  simp only [wpaSearch_eq_some_iff start, nil_append]
  constructor
  · rintro finds before element after rfl first
    by_cases near : (listBytes before).length + takenTwice before <
        (listBytes (before ++ element :: after)).length
    · obtain ⟨others, other, back, split, isFirst, same⟩ :=
        (finds _).mp ⟨before, element, after, rfl, first, near, rfl⟩
      have isOther := element_eq_of_place split (Prod.mk.inj same).1
      exact .inl ⟨isOther ▸ isFirst.1, near⟩
    · refine .inr ⟨fun other member isWpa => near ?_, Nat.le_of_not_lt near⟩
      obtain ⟨front, back, split⟩ := List.append_of_mem member
      obtain ⟨front, other, back, split, isFirst⟩ :=
        @exists_firstSplit _ (fun _ => IsWpa) _ _ _ _ split isWpa
      obtain ⟨others, another, rest, whole, isLookalike, reached, _⟩ :=
        (finds _).mpr ⟨front, other, back, split, isFirst, rfl⟩
      obtain ⟨rfl, _⟩ := firstSplit_unique whole first isLookalike
      exact reached
  · intro condition found
    constructor
    · rintro ⟨before, element, after, rfl, first, near, rfl⟩
      rcases condition before element after rfl first with ⟨isWpa, _⟩ | ⟨_, far⟩
      · exact ⟨before, element, after, rfl, isWpa.firstSplit first, rfl⟩
      · exact absurd near (Nat.not_lt_of_le far)
    · rintro ⟨before, element, after, split, first, rfl⟩
      have looks := first.1.lookalike before after behind
      rw [← split] at looks
      obtain ⟨others, other, back, whole, isLookalike⟩ := exists_firstSplit split looks
      rcases condition others other back whole isLookalike with ⟨isWpa, near⟩ | ⟨absent, _⟩
      · have isFirst := isWpa.firstSplit (whole ▸ isLookalike)
        obtain ⟨rfl, rfl⟩ := firstSplit_unique (split.symm.trans whole) first isFirst
        exact ⟨before, element, after, split, isLookalike, near, rfl⟩
      · exact absurd first.1 (absent element (split ▸ List.mem_append_right _ List.mem_cons_self))

def wmmElement : Element := ⟨wpaIeId, [0x00, 0x50, 0xf2, 0x02, 0x01, 0x00, 0x00, 0x00], by decide⟩

def wpaElement : Element := ⟨wpaIeId, [0x00, 0x50, 0xf2, 0x01, 0x01, 0x00], by decide⟩

/-- Behind two other vendor elements a WPA element is not found. -/
theorem getWpaIe_not_exact : ¬GetWpaIeExact [wmmElement, wmmElement, wpaElement] fun _ => 0 := by
  intro finds
  have searched : getWpaIe (memoryFrom (listBytes [wmmElement, wmmElement, wpaElement]) fun _ => 0)
      (listBytes [wmmElement, wmmElement, wpaElement]).length = none := by
    rw [getWpaIe_eq]
    decide
  have isWpa : IsWpa wpaElement := ⟨rfl, [], rfl⟩
  obtain ⟨before, element, after, whole, first⟩ :=
    @exists_firstSplit _ (fun _ => IsWpa) _ [wmmElement, wmmElement] [] _ rfl isWpa
  have found := (finds _).mpr ⟨before, element, after, whole, first, rfl⟩
  rw [searched] at found
  cases found

def wmmOuiType : List U8 := [0x00, 0x50, 0xf2, 0x02]

def comparesTo : List U8 → List U8 → Option Bool
  | [], _ => some true
  | _ :: _, [] => none
  | byte :: bytes, other :: others => if other = byte then comparesTo bytes others else some false

def looksWmm (id : U8) (data : List U8) : Option Bool :=
  if id = wpaIeId then comparesTo wmmOuiType data else some false

def restructWmmWalk (list : List U8) : Option (Option (List U8)) :=
  match list with
  | [] => some none
  | id :: length :: data =>
      (looksWmm id data).bind fun isWmm =>
        if isWmm then (segment (id :: length :: data) 0 9).map some
        else restructWmmWalk (data.drop length.toNat)
  | _ => none
termination_by list.length
decreasing_by
  rw [List.length_drop, length_cons, length_cons]
  omega

def restructWmmIe (inIe outIe : List U8) (initialOutLen : Nat) : Option (Nat × List U8) :=
  if inIe.length ≤ 12 then some (0, outIe)
  else (restructWmmWalk (inIe.drop 12)).bind fun found =>
    match found with
    | none => some (initialOutLen, outIe)
    | some bytes =>
        (overwrite outIe initialOutLen (((bytes.set 1 7).set 6 0).set 8 0)).map
          fun outIe => (initialOutLen + 9, outIe)

def IsWmm (element : Element) : Prop :=
  element.id = wpaIeId ∧ ∃ rest, element.data = wmmOuiType ++ rest

/-- `restruct_wmm_ie` reads the list only, and appends a WMM information element, whose version is
that of the access point, if the list has a WMM element. -/
def WmmAppended (fixed : Vector U8 12) (elements : List Element) (outIe : List U8) (initialOutLen : Nat) : Prop :=
  ∃ length after, restructWmmIe (fixed.toList ++ listBytes elements) outIe initialOutLen =
      some (length, after) ∧
    after.take initialOutLen = outIe.take initialOutLen ∧
    ((∀ element ∈ elements, ¬IsWmm element) → length = initialOutLen) ∧
    ((∃ element ∈ elements, IsWmm element) → length = initialOutLen + 9 ∧
      ∃ version, segment after initialOutLen 9 = some (wpaIeId :: 7 :: (wmmOuiType ++ [0, version, 0])))

def wmmSearch : List Element → Option (Option Nat)
  | [] => some none
  | element :: rest =>
      let data := element.data ++ listBytes rest
      (looksWmm element.id data).bind fun isWmm => if isWmm then some (some data.length) else wmmSearch rest

variable {bytes data more outIe : List U8} {left initialOutLen : Nat}

theorem comparesTo_true (same : comparesTo bytes data = some true) : ∃ rest, data = bytes ++ rest := by
  induction bytes generalizing data with
  | nil => exact ⟨data, rfl⟩
  | cons byte bytes ih =>
    cases data with
    | nil => cases same
    | cons other others =>
      rw [comparesTo] at same
      split at same
      · next isSame =>
          obtain ⟨rest, rfl⟩ := ih same
          exact ⟨rest, by rw [isSame, cons_append]⟩
      · cases same

theorem comparesTo_append (bytes rest : List U8) : comparesTo bytes (bytes ++ rest) = some true := by
  induction bytes with
  | nil => rfl
  | cons byte bytes ih => rw [cons_append, comparesTo, if_pos rfl, ih]

theorem IsWmm.looks (isWmm : IsWmm element) : looksWmm element.id (element.data ++ more) = some true := by
  obtain ⟨vendor, rest, data⟩ := isWmm
  rw [looksWmm, if_pos vendor, data, append_assoc, comparesTo_append]

/-- The first element that looks like a WMM element, if there is one, has seven bytes of the list
behind its head, and there is a WMM element. All vendor elements before it are told apart from one
inside the list. -/
def WmmFits (elements : List Element) : Prop :=
  ∃ found, wmmSearch elements = some found ∧
    ∀ left, found = some left → 7 ≤ left ∧ ∃ element ∈ elements, IsWmm element

theorem restructWmmWalk_cons : restructWmmWalk (listBytes (element :: rest)) =
    (looksWmm element.id (element.data ++ listBytes rest)).bind fun isWmm =>
      if isWmm then (segment (element.bytes ++ listBytes rest) 0 9).map some
      else restructWmmWalk (listBytes rest) := by
  rw [listBytes_cons, Element.bytes, cons_append, cons_append, restructWmmWalk]
  simp only [element.length_toNat, List.drop_left]

theorem segment_wmm (length : U8) (looks : looksWmm element.id data = some true) :
    (data.length < 7 → segment (element.id :: length :: data) 0 9 = none) ∧
      (7 ≤ data.length → ∃ subtype version info, segment (element.id :: length :: data) 0 9 =
          some (wpaIeId :: length :: (wmmOuiType ++ [subtype, version, info]))) := by
  rw [looksWmm] at looks
  split at looks
  · next vendor =>
      obtain ⟨behind, rfl⟩ := comparesTo_true looks
      rw [vendor, Lib.segment]
      constructor
      · intro few
        exact if_neg (by simp only [length_cons]; omega)
      · intro enough
        rw [length_append, wmmOuiType] at enough
        match behind with
        | subtype :: version :: info :: _ => exact ⟨subtype, version, info, if_pos (by simp [wmmOuiType])⟩
        | [] | [_] | [_, _] => simp at enough
  · cases looks

theorem restructWmmWalk_spec (elements : List Element) : match wmmSearch elements with
    | none => restructWmmWalk (listBytes elements) = none
    | some none =>
        restructWmmWalk (listBytes elements) = some none ∧ ∀ element ∈ elements, ¬IsWmm element
    | some (some left) =>
        (left < 7 → restructWmmWalk (listBytes elements) = none) ∧
          (7 ≤ left → ∃ length subtype version info, restructWmmWalk (listBytes elements) =
            some (some (wpaIeId :: length :: (wmmOuiType ++ [subtype, version, info])))) := by
  induction elements with
  | nil => exact ⟨by rw [listBytes, List.flatMap_nil, restructWmmWalk], nofun⟩
  | cons element rest ih =>
    rw [restructWmmWalk_cons, wmmSearch]
    cases looks : looksWmm element.id (element.data ++ listBytes rest) with
    | none => rfl
    | some isWmm =>
      cases isWmm with
      | true =>
        obtain ⟨few, enough⟩ := segment_wmm (BitVec.ofNat 8 element.data.length) looks
        simp only [Option.bind_some, if_true, Element.bytes, cons_append]
        refine ⟨fun short => by rw [few short]; rfl, fun long => ?_⟩
        obtain ⟨subtype, version, info, read⟩ := enough long
        exact ⟨_, subtype, version, info, by rw [read]; rfl⟩
      | false =>
        have other : ¬IsWmm element := fun isWmm => by
          rw [isWmm.looks] at looks
          cases looks
        cases searched : wmmSearch rest with
        | none => rwa [searched] at ih
        | some found =>
          rw [searched] at ih
          cases found with
          | none => exact ⟨ih.1, List.forall_mem_cons.mpr ⟨other, ih.2⟩⟩
          | some left => exact ih

/-- Where there is room for the element, `restruct_wmm_ie` appends it correctly if and only if the
list has an element or nothing is there to append to, no vendor element is compared behind the
list, and what first looks like a WMM element has nine bytes of the list and does not do so in vain. -/
theorem restructWmmIe_appends_iff (fixed : Vector U8 12) (elements : List Element)
    (room : initialOutLen + 9 ≤ outIe.length) :
    WmmAppended fixed elements outIe initialOutLen ↔
      (elements = [] → initialOutLen = 0) ∧ WmmFits elements := by
  have list : (fixed.toList ++ listBytes elements).drop 12 = listBytes elements :=
    List.drop_left' fixed.length_toList
  have spec := restructWmmWalk_spec elements
  cases elements with
  | nil =>
    have ran : restructWmmIe (fixed.toList ++ listBytes []) outIe initialOutLen = some (0, outIe) := by
      rw [restructWmmIe, if_pos (by simp [listBytes])]
    constructor
    · rintro ⟨length, after, same, _, absent, _⟩
      rw [ran, some.injEq, Prod.mk.injEq] at same
      exact ⟨fun _ => (same.1.trans (absent nofun)).symm, none, rfl, nofun⟩
    · intro ⟨zero, _⟩
      exact ⟨0, outIe, ran, rfl, fun _ => (zero rfl).symm, nofun⟩
  | cons element rest =>
    have ran : restructWmmIe (fixed.toList ++ listBytes (element :: rest)) outIe initialOutLen =
        (restructWmmWalk (listBytes (element :: rest))).bind fun found =>
          match found with
          | none => some (initialOutLen, outIe)
          | some bytes => (overwrite outIe initialOutLen (((bytes.set 1 7).set 6 0).set 8 0)).map
              fun outIe => (initialOutLen + 9, outIe) := by
      rw [restructWmmIe, if_neg, list]
      rw [length_append, listBytes_cons, length_append, bytes_length, fixed.length_toList]
      omega
    rw [WmmAppended, ran, WmmFits, and_iff_right nofun]
    cases searched : wmmSearch (element :: rest) with
    | none =>
      rw [searched] at spec
      rw [spec]
      exact iff_of_false nofun nofun
    | some found =>
      rw [searched] at spec
      simp only [some.injEq, exists_eq_left']
      cases found with
      | none =>
        rw [spec.1]
        refine iff_of_true ⟨initialOutLen, outIe, rfl, rfl, fun _ => rfl, ?_⟩ nofun
        exact fun ⟨other, member, isWmm⟩ => absurd isWmm (spec.2 other member)
      | some left =>
        by_cases long : 7 ≤ left
        · obtain ⟨length, subtype, version, info, walked⟩ := spec.2 long
          obtain ⟨after, wrote⟩ := @overwrite_exists _ outIe
            (wpaIeId :: 7 :: (wmmOuiType ++ [0, version, 0])) initialOutLen room
          have result : ((restructWmmWalk (listBytes (element :: rest))).bind fun found =>
              match found with
              | none => some (initialOutLen, outIe)
              | some bytes => (overwrite outIe initialOutLen (((bytes.set 1 7).set 6 0).set 8 0)).map
                  fun outIe => (initialOutLen + 9, outIe)) = some (initialOutLen + 9, after) := by
            rw [walked]
            exact congrArg (Option.map _) wrote
          have front : after.take initialOutLen = outIe.take initialOutLen := by
            rw [(overwrite_some wrote).2, append_assoc, List.take_left' (by rw [List.length_take]; omega)]
          rw [result]
          constructor
          · rintro ⟨_, _, same, _, absent, _⟩ other isLeft
            obtain rfl := some.inj isLeft
            refine ⟨long, ?_⟩
            by_contra without
            have unchanged := absent fun other member isWmm => without ⟨other, member, isWmm⟩
            rw [some.injEq, Prod.mk.injEq] at same
            omega
          · intro fits
            refine ⟨_, after, rfl, front, fun absent => ?_, fun _ => ⟨rfl, version, ?_⟩⟩
            · obtain ⟨_, other, member, isWmm⟩ := fits left rfl
              exact absurd isWmm (absent other member)
            · exact segment_overwrite_same wrote
        · rw [spec.1 (by omega)]
          exact iff_of_false nofun fun fits => long (fits left rfl).1

theorem restructWmmIe_appends_iff_short : WmmAppended (Vector.replicate 12 0) [wmmElement] (List.replicate 50 0) 20 ↔
      ([wmmElement] = [] → 20 = 0) ∧ WmmFits [wmmElement] :=
  restructWmmIe_appends_iff _ _ (by decide)

/-- Nothing is appended to a list without elements, and the length of what was there is lost; a
WMM element that is cut short at the end of the list is copied with what lies behind it. -/
theorem restructWmmIe_not_appends : ¬WmmAppended (Vector.replicate 12 0) [] (List.replicate 50 0) 20 ∧
      ¬WmmAppended (Vector.replicate 12 0) [⟨wpaIeId, wmmOuiType, by decide⟩] (List.replicate 50 0) 20 := by
  constructor
  · rintro ⟨length, after, ran, _, absent, _⟩
    have none : restructWmmIe ((Vector.replicate 12 0).toList ++ listBytes []) (List.replicate 50 0) 20 =
        some (0, List.replicate 50 0) := rfl
    rw [none, absent nofun] at ran
    cases ran
  · rintro ⟨length, after, ran, _⟩
    have walked := restructWmmWalk_spec [⟨wpaIeId, wmmOuiType, by decide⟩]
    rw [restructWmmIe, if_neg (by decide), List.drop_left' Vector.length_toList, walked.1 (by decide)] at ran
    cases ran

end Floid.Wifi
