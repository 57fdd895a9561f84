import Floid.Lib.Buffer

/-!
Lists of elements that each begin with a type and a length. A list is walked from one element
to the next until it ends, or until an element is cut off.
-/

namespace Floid.Lib

structure Element where
  id : BitVec 8
  data : List (BitVec 8)
  short : data.length < 256

namespace Element

def bytes (element : Element) : List (BitVec 8) :=
  element.id :: BitVec.ofNat 8 element.data.length :: element.data

variable {element other : Element} {list rest suffix : List (BitVec 8)} {passes : Element → Prop}

theorem length_toNat (element : Element) :
    (BitVec.ofNat 8 element.data.length).toNat = element.data.length := by
  rw [BitVec.toNat_ofNat, Nat.mod_eq_of_lt element.short]

theorem bytes_append_inj (same : element.bytes ++ list = other.bytes ++ rest) :
    element = other ∧ list = rest := by
  obtain ⟨id, data, short⟩ := element
  obtain ⟨otherId, otherData, otherShort⟩ := other
  rw [bytes, bytes] at same
  simp only [List.cons_append, List.cons.injEq] at same
  obtain ⟨rfl, lengths, tails⟩ := same
  have lengthsNat := congrArg BitVec.toNat lengths
  rw [BitVec.toNat_ofNat, BitVec.toNat_ofNat, Nat.mod_eq_of_lt short, Nat.mod_eq_of_lt otherShort] at lengthsNat
  obtain ⟨rfl, rfl⟩ := List.append_inj tails lengthsNat
  exact ⟨rfl, rfl⟩

def CutOff (list : List (BitVec 8)) : Prop :=
  ∀ (element : Element) (rest : List (BitVec 8)), list ≠ element.bytes ++ rest

theorem cutOff_nil : CutOff [] := fun element rest same => by cases same

theorem cutOff_singleton (id : BitVec 8) : CutOff [id] := fun element rest same => by cases same

theorem cutOff_cons (id length : BitVec 8) (data : List (BitVec 8))
    (few : data.length < length.toNat) : CutOff (id :: length :: data) := by
  intro element rest same
  rw [bytes] at same
  simp only [List.cons_append, List.cons.injEq] at same
  obtain ⟨_, rfl, rfl⟩ := same
  rw [length_toNat, List.length_append] at few
  omega

theorem exists_bytes (id length : BitVec 8) (data : List (BitVec 8)) (enough : length.toNat ≤ data.length) :
    ∃ element : Element, element.id = id ∧ element.data = data.take length.toNat ∧
      id :: length :: data = element.bytes ++ data.drop length.toNat := by
  have taken : (data.take length.toNat).length = length.toNat := by
    rw [List.length_take, Nat.min_eq_left enough]
  refine ⟨⟨id, data.take length.toNat, by rw [taken]; exact length.isLt⟩, rfl, rfl, ?_⟩
  rw [bytes]
  dsimp only
  rw [taken, BitVec.ofNat_toNat, BitVec.setWidth_eq, List.cons_append, List.cons_append, List.take_append_drop]

inductive WalkedTo (passes : Element → Prop) : List (BitVec 8) → List (BitVec 8) → Prop
  | here (list : List (BitVec 8)) : WalkedTo passes list list
  | next {element : Element} {rest suffix : List (BitVec 8)} (pass : passes element)
      (walked : WalkedTo passes rest suffix) : WalkedTo passes (element.bytes ++ rest) suffix

theorem walkedTo_bytes_iff : WalkedTo passes (element.bytes ++ rest) suffix ↔
    suffix = element.bytes ++ rest ∨ passes element ∧ WalkedTo passes rest suffix := by
  constructor
  · intro walked
    generalize whole : element.bytes ++ rest = list at walked
    cases walked with
    | here => exact .inl rfl
    | next pass walked =>
      obtain ⟨rfl, rfl⟩ := bytes_append_inj whole
      exact .inr ⟨pass, walked⟩
  · rintro (rfl | ⟨pass, walked⟩)
    · exact .here _
    · exact .next pass walked

theorem walkedTo_cutOff_iff (cut : CutOff list) : WalkedTo passes list suffix ↔ suffix = list := by
  constructor
  · intro walked
    cases walked with
    | here => rfl
    | next pass walked => exact absurd rfl (cut _ _)
  · rintro rfl
    exact .here _

/-- A loop that handles one element after the other. Each of them is as long as it says, and of
the last there may be less. -/
def IsLoop {State : Type*} (handle : State → List (BitVec 8) → Option State)
    (loop : State → List (BitVec 8) → Nat → Option State) : Prop :=
  ∀ state list left, loop state list left =
    if left = 0 then some state
    else (handle state list).bind fun state => list[1]?.bind fun length =>
      loop state (list.drop (length.toNat + 2)) (left - (length.toNat + 2))

/-- A loop stays in the list exactly if every element that is reached fits, where whether it
does is the same for all states that the loop can be in. -/
theorem IsLoop.isSome_iff {State : Type*} {handle : State → List (BitVec 8) → Option State}
    {loop : State → List (BitVec 8) → Nat → Option State} (isLoop : IsLoop handle loop)
    {Keeps : State → Prop} {Fits : List (BitVec 8) → Prop}
    (fits : ∀ state id length data, Keeps state →
      ((handle state (id :: length :: data)).isSome ↔ Fits (id :: length :: data)))
    (kept : ∀ state list after, Keeps state → handle state list = some after → Keeps after)
    {state : State} (keeps : Keeps state) :
    (loop state list list.length).isSome ↔
      ∀ reached, WalkedTo (fun _ => True) list reached → reached ≠ [] → 2 ≤ reached.length ∧ Fits reached := by
  induction long : list.length using Nat.strongRecOn generalizing list state with
  | _ n ih =>
    subst long
    match list with
    | [] =>
        rw [isLoop, if_pos List.length_nil]
        simp [walkedTo_cutOff_iff cutOff_nil]
    | [id] =>
        rw [isLoop, if_neg (by simp), bind_isSome_iff]
        simp only [walkedTo_cutOff_iff (cutOff_singleton id), forall_eq]
        constructor
        · intro ⟨_, _, second⟩
          simp at second
        · intro enough
          have two := (enough (by simp)).1
          simp at two
    | id :: length :: data =>
        have two : 2 ≤ (id :: length :: data).length := by simp
        rw [isLoop, if_neg (by simp), bind_isSome_iff, List.getElem?_cons_succ, List.getElem?_cons_zero]
        simp only [Option.bind_some, List.drop_succ_cons]
        by_cases whole : length.toNat ≤ data.length
        · obtain ⟨element, _, _, same⟩ := exists_bytes id length data whole
          have rest : (id :: length :: data).length - (length.toNat + 2) = (data.drop length.toNat).length := by
            simp only [List.length_cons, List.length_drop]
            omega
          have shorter : (data.drop length.toNat).length < (id :: length :: data).length := by
            simp only [List.length_cons, List.length_drop]
            omega
          simp only [rest]
          rw [same]
          simp only [walkedTo_bytes_iff, true_and]
          rw [← same]
          constructor
          · intro ⟨after, now, later⟩ reached walked nonempty
            rcases walked with rfl | walked
            · exact ⟨two, (fits state id length data keeps).mp (Option.isSome_of_eq_some now)⟩
            · exact (ih _ shorter (kept state _ after keeps now) rfl).mp later reached walked nonempty
          · intro enough
            obtain ⟨after, now⟩ := Option.isSome_iff_exists.mp
              ((fits state id length data keeps).mpr (enough _ (.inl rfl) (by simp)).2)
            refine ⟨after, now, (ih _ shorter (kept state _ after keeps now) rfl).mpr ?_⟩
            exact fun reached walked => enough reached (.inr walked)
        · have done : (id :: length :: data).length - (length.toNat + 2) = 0 := by
            simp only [List.length_cons]
            omega
          rw [done]
          simp only [walkedTo_cutOff_iff (cutOff_cons id length data (by omega)), forall_eq]
          rw [← fits state id length data keeps]
          constructor
          · intro ⟨after, now, _⟩ _
            exact ⟨two, Option.isSome_of_eq_some now⟩
          · intro enough
            obtain ⟨after, now⟩ := Option.isSome_iff_exists.mp (enough (by simp)).2
            refine ⟨after, now, ?_⟩
            rw [isLoop, if_pos rfl]
            rfl

end Element

end Floid.Lib
