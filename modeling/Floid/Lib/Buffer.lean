import Mathlib.Data.List.Basic

/-!
Buffers of a fixed size. A segment can be read or written only if all of it lies in the
buffer, and what is read after writing depends on nothing but where the two lie.
-/

namespace Floid.Lib

open List (drop_left length_append length_take)

variable {α : Type*}

def segment (buffer : List α) (start count : Nat) : Option (List α) :=
  if start + count ≤ buffer.length then some ((buffer.drop start).take count) else none

def overwrite (buffer : List α) (start : Nat) (items : List α) : Option (List α) :=
  if start + items.length ≤ buffer.length then
    some (buffer.take start ++ items ++ buffer.drop (start + items.length))
  else none

variable {buffer after items : List α} {start count place : Nat}

theorem bind_isSome_iff {β γ : Type*} {first : Option β} {second : β → Option γ} :
    (first.bind second).isSome ↔ ∃ value, first = some value ∧ (second value).isSome := by
  cases first with
  | none => simp
  | some value => simp

theorem bind_total_isSome_iff {β γ : Type*} {first : Option β} {second : β → Option γ}
    (total : ∀ value, (second value).isSome) : (first.bind second).isSome ↔ first.isSome := by
  cases first with
  | none => simp
  | some value => simp [total value]

theorem segment_of_le (inside : start + count ≤ buffer.length) :
    segment buffer start count = some ((buffer.drop start).take count) := if_pos inside

theorem segment_some (read : segment buffer start count = some items) :
    start + count ≤ buffer.length ∧ items = (buffer.drop start).take count := by
  unfold segment at read
  split at read
  · cases read
    exact ⟨‹_›, rfl⟩
  · cases read

theorem segment_all (buffer : List α) : segment buffer 0 buffer.length = some buffer := by
  rw [segment_of_le (by omega), List.drop_zero, List.take_length]

theorem segment_length (read : segment buffer start count = some items) : items.length = count := by
  obtain ⟨inside, rfl⟩ := segment_some read
  rw [length_take, List.length_drop]
  omega

theorem segment_eq_some_iff : segment buffer start count = some items ↔
    start + count ≤ buffer.length ∧ items.length = count ∧
      ∀ index < count, items[index]? = buffer[start + index]? := by
  constructor
  · intro read
    have length := segment_length read
    obtain ⟨inside, rfl⟩ := segment_some read
    refine ⟨inside, length, fun index small => ?_⟩
    rw [List.getElem?_take_of_lt small, List.getElem?_drop]
  · rintro ⟨inside, length, same⟩
    rw [segment_of_le inside, Option.some.injEq]
    refine List.ext_getElem? fun index => ?_
    by_cases small : index < count
    · rw [List.getElem?_take_of_lt small, List.getElem?_drop, same index small]
    · rw [List.getElem?_eq_none (by simp; omega), List.getElem?_eq_none (by omega)]

variable {part : Nat} {second : List α}

theorem segment_take (read : segment buffer start count = some items)
    (fewer : part ≤ count) : segment buffer start part = some (items.take part) := by
  obtain ⟨inside, rfl⟩ := segment_some read
  rw [segment_of_le (by omega), List.take_take, Nat.min_eq_left fewer]

theorem segment_drop (read : segment buffer start count = some items) (fewer : part ≤ count) :
    segment buffer (start + part) (count - part) = some (items.drop part) := by
  obtain ⟨inside, rfl⟩ := segment_some read
  rw [segment_of_le (by omega), List.drop_take, List.drop_drop]

theorem overwrite_exists (inside : start + items.length ≤ buffer.length) :
    ∃ after, overwrite buffer start items = some after := ⟨_, if_pos inside⟩

theorem overwrite_some (wrote : overwrite buffer start items = some after) : start + items.length ≤ buffer.length ∧
      after = buffer.take start ++ items ++ buffer.drop (start + items.length) := by
  unfold overwrite at wrote
  split at wrote
  · cases wrote
    exact ⟨‹_›, rfl⟩
  · cases wrote

theorem overwrite_length (wrote : overwrite buffer start items = some after) :
    after.length = buffer.length := by
  obtain ⟨inside, rfl⟩ := overwrite_some wrote
  simp only [length_append, length_take, List.length_drop]
  omega

theorem getElem?_overwrite (wrote : overwrite buffer start items = some after) (index : Nat) :
    after[index]? = if start ≤ index ∧ index < start + items.length then items[index - start]?
      else buffer[index]? := by
  obtain ⟨inside, rfl⟩ := overwrite_some wrote
  have front : (buffer.take start).length = start := by
    rw [length_take]
    omega
  split
  · rename_i within
    rw [List.getElem?_append_left (by rw [length_append, front]; omega), List.getElem?_append_right (by omega), front]
  · rename_i outside
    by_cases before : index < start
    · rw [List.getElem?_append_left (by rw [length_append, front]; omega),
        List.getElem?_append_left (by omega), List.getElem?_take_of_lt before]
    · rw [List.getElem?_append_right (by rw [length_append, front]; omega), List.getElem?_drop, length_append, front]
      congr 1
      omega

theorem segment_overwrite_same (wrote : overwrite buffer start items = some after) :
    segment after start items.length = some items := by
  refine segment_eq_some_iff.mpr ⟨?_, rfl, fun index small => ?_⟩
  · rw [overwrite_length wrote]
    exact (overwrite_some wrote).1
  · rw [getElem?_overwrite wrote, if_pos (by omega), Nat.add_sub_cancel_left]

theorem overwrite_append {next more : List α} (front : overwrite buffer start items = some next)
    (back : overwrite next (start + items.length) more = some after) :
    overwrite buffer start (items ++ more) = some after := by
  have inside := (overwrite_some back).1
  rw [overwrite_length front] at inside
  obtain ⟨both, wrote⟩ := @overwrite_exists α buffer (items ++ more) start
    (by rw [length_append]; omega)
  rw [wrote, Option.some.injEq]
  refine List.ext_getElem? fun index => ?_
  rw [getElem?_overwrite wrote, getElem?_overwrite back, getElem?_overwrite front, length_append]
  by_cases first : start ≤ index ∧ index < start + items.length
  · rw [if_pos (by omega), if_neg (by omega), if_pos first, List.getElem?_append_left (by omega)]
  · by_cases second : start + items.length ≤ index ∧ index < start + items.length + more.length
    · rw [if_pos (by omega), if_pos second, List.getElem?_append_right (by omega), Nat.sub_sub]
    · rw [if_neg (by omega), if_neg second, if_neg first]

theorem overwrite_all (same : items.length = buffer.length) : overwrite buffer 0 items = some items := by
  rw [overwrite, if_pos (by omega), List.take_zero, Nat.zero_add, List.drop_of_length_le (by omega),
    List.nil_append, List.append_nil]

theorem segment_congr (length : after.length = buffer.length)
    (same : ∀ index, start ≤ index → index < start + count → after[index]? = buffer[index]?) :
    segment after start count = segment buffer start count := by
  unfold segment
  rw [length]
  split
  · refine congrArg some (List.ext_getElem? fun index => ?_)
    by_cases small : index < count
    · rw [List.getElem?_take_of_lt small, List.getElem?_take_of_lt small, List.getElem?_drop,
        List.getElem?_drop, same _ (by omega) (by omega)]
    · rw [List.getElem?_eq_none (by simp; omega), List.getElem?_eq_none (by simp; omega)]
  · rfl

theorem segment_overwrite_apart (wrote : overwrite buffer start items = some after)
    (apart : place + count ≤ start ∨ start + items.length ≤ place) :
    segment after place count = segment buffer place count :=
  segment_congr (overwrite_length wrote) fun index first last => by
    rw [getElem?_overwrite wrote, if_neg (by omega)]

theorem segment_append {more : Nat} {first : List α} (front : segment buffer start count = some first)
    (back : segment buffer (start + count) more = some second) :
    segment buffer start (count + more) = some (first ++ second) := by
  have length := segment_length front
  obtain ⟨_, size, same⟩ := segment_eq_some_iff.mp back
  obtain ⟨_, _, before⟩ := segment_eq_some_iff.mp front
  refine segment_eq_some_iff.mpr ⟨by omega, by rw [length_append]; omega, fun index small => ?_⟩
  by_cases early : index < count
  · rw [List.getElem?_append_left (by omega), before index early]
  · rw [List.getElem?_append_right (by omega), length, same (index - count) (by omega)]
    congr 1
    omega

theorem segment_split {first : List α} (read : segment buffer start count = some (first ++ second)) :
    segment buffer start first.length = some first ∧
      segment buffer (start + first.length) second.length = some second := by
  have length := segment_length read
  rw [length_append] at length
  have front := segment_take read (by omega : first.length ≤ count)
  have back := segment_drop read (by omega : first.length ≤ count)
  rw [List.take_left] at front
  rw [drop_left, show count - first.length = second.length by omega] at back
  exact ⟨front, back⟩

theorem segment_middle (front middle back : List α) :
    segment (front ++ middle ++ back) front.length middle.length = some middle := by
  rw [segment_of_le (by simp), List.append_assoc, drop_left, List.take_left]

theorem overwrite_middle (front : List α) {middle items : List α} (back : List α)
    (same : items.length = middle.length) :
    overwrite (front ++ middle ++ back) front.length items = some (front ++ items ++ back) := by
  rw [overwrite, if_pos (by simp; omega), List.append_assoc front middle back, List.take_left,
    ← List.drop_drop, drop_left, same, drop_left]

theorem segment_front {front : List α} (back : List α) (inside : start + count ≤ front.length) :
    segment (front ++ back) start count = segment front start count := by
  rw [segment_of_le inside, segment_of_le (by simp; omega),
    List.drop_append_of_le_length (by omega), List.take_append_of_le_length (by simp; omega)]

def SameOutside (first last : Nat) (buffer after : List α) : Prop :=
  after.length = buffer.length ∧ ∀ index, index < first ∨ last ≤ index → after[index]? = buffer[index]?

section SameOutside

variable {first last first_ last_ : Nat} {next : List α}

theorem SameOutside.refl (first last : Nat) (buffer : List α) : SameOutside first last buffer buffer :=
  ⟨rfl, fun _ _ => rfl⟩

theorem SameOutside.trans (earlier : SameOutside first last buffer next)
    (later : SameOutside first last next after) : SameOutside first last buffer after :=
  ⟨later.1.trans earlier.1, fun index outside => (later.2 index outside).trans (earlier.2 index outside)⟩

theorem SameOutside.mono (same : SameOutside first last buffer after) (front : first_ ≤ first)
    (back : last ≤ last_) : SameOutside first_ last_ buffer after :=
  ⟨same.1, fun index outside => same.2 index (by omega)⟩

theorem overwrite_sameOutside (wrote : overwrite buffer start items = some after) (front : first ≤ start)
    (back : start + items.length ≤ last) : SameOutside first last buffer after :=
  ⟨overwrite_length wrote, fun index outside => by rw [getElem?_overwrite wrote, if_neg (by omega)]⟩

end SameOutside

end Floid.Lib
