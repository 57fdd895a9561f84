import Mathlib.Data.List.Basic
import Mathlib.Logic.Function.Basic

/-!
Singly linked lists that share one set of nodes. A list is a head, the links are
kept in the nodes, and an operation on one list has to leave the links of the
others alone.
-/

namespace Floid.Lib

variable {Node : Type*}

inductive Chain (next : Node → Option Node) : Option Node → List Node → Prop where
  | nil : Chain next none []
  | cons {node : Node} {rest : List Node} (tail : Chain next (next node) rest) :
      Chain next (some node) (node :: rest)

namespace Chain

variable {next next' : Node → Option Node} {head : Option Node} {node : Node} {nodes : List Node}

theorem unique {others : List Node} (chain : Chain next head nodes)
    (other : Chain next head others) : nodes = others := by
  induction chain generalizing others with
  | nil => cases other; rfl
  | cons _ ih =>
    cases other with
    | cons rest => rw [ih rest]

theorem head_eq (chain : Chain next head nodes) : head = nodes.head? := by
  cases chain <;> rfl

theorem tail {rest : List Node} (chain : Chain next head (node :: rest)) : Chain next (next node) rest := by
  cases chain with
  | cons tail => exact tail

theorem eq_nil_iff (chain : Chain next head nodes) : nodes = [] ↔ head = none := by
  cases chain <;> simp

theorem suffix (chain : Chain next head nodes) (member : node ∈ nodes) :
    ∃ before rest, nodes = before ++ node :: rest ∧ Chain next (some node) (node :: rest) := by
  induction chain with
  | nil => cases member
  | @cons first rest tail ih =>
    rcases List.mem_cons.mp member with rfl | later
    · exact ⟨[], rest, rfl, .cons tail⟩
    · obtain ⟨before, after, same, chained⟩ := ih later
      exact ⟨first :: before, after, by rw [same]; rfl, chained⟩

theorem nodup (chain : Chain next head nodes) : nodes.Nodup := by
  induction chain with
  | nil => exact .nil
  | @cons first rest tail ih =>
    refine List.nodup_cons.mpr ⟨fun member => ?_, ih⟩
    obtain ⟨before, after, same, chained⟩ := tail.suffix member
    have lengths := congrArg List.length ((cons tail).unique chained)
    rw [same] at lengths
    simp only [List.length_cons, List.length_append] at lengths
    omega

theorem congr (chain : Chain next head nodes) (same : ∀ node ∈ nodes, next' node = next node) :
    Chain next' head nodes := by
  induction chain with
  | nil => exact .nil
  | @cons first rest _ ih =>
    refine .cons ?_
    rw [same first List.mem_cons_self]
    exact ih fun node member => same node (List.mem_cons_of_mem _ member)

def walk (next : Node → Option Node) : Nat → Option Node → List Node
  | 0, _ => []
  | _, none => []
  | fuel + 1, some node => node :: walk next fuel (next node)

theorem walk_eq {fuel : Nat} (chain : Chain next head nodes) (enough : nodes.length ≤ fuel) :
    walk next fuel head = nodes := by
  induction chain generalizing fuel with
  | nil => cases fuel <;> rfl
  | cons _ ih =>
    cases fuel with
    | zero => simp at enough
    | succ fuel => rw [walk, ih (Nat.le_of_succ_le_succ enough)]

theorem walk_length_le (next : Node → Option Node) (fuel : Nat) (head : Option Node) :
    (walk next fuel head).length ≤ fuel := by
  induction fuel generalizing head with
  | zero => exact Nat.le_refl _
  | succ fuel ih =>
    cases head with
    | none => exact Nat.zero_le _
    | some node => exact Nat.succ_le_succ (ih _)

variable [DecidableEq Node]

theorem update (chain : Chain next head nodes) (absent : node ∉ nodes) (link : Option Node) :
    Chain (Function.update next node link) head nodes := by
  refine chain.congr fun other member => Function.update_of_ne ?_ _ _
  rintro rfl
  exact absent member

theorem push (chain : Chain next head nodes) (absent : node ∉ nodes) :
    Chain (Function.update next node head) (some node) (node :: nodes) := by
  refine .cons ?_
  rw [Function.update_self]
  exact chain.update absent head

end Chain

section Move

variable [DecidableEq Node]

/-- Take the nodes off one list and put each in front of another, as long as the
fuel lasts: the links, and the head of the list they are on now. -/
def moveAll : Nat → Option Node → (Node → Option Node) × Option Node → Option ((Node → Option Node) × Option Node)
  | _, none, lists => some lists
  | 0, some _, _ => none
  | fuel + 1, some node, (next, target) =>
      moveAll fuel (next node) (Function.update next node target, some node)

theorem moveAll_spec {fuel : Nat} {next : Node → Option Node} {source target : Option Node}
    {moved kept : List Node} (chain : Chain next source moved) (onto : Chain next target kept)
    (apart : ∀ node ∈ moved, node ∉ kept) (enough : moved.length ≤ fuel) :
    ∃ next' head, moveAll fuel source (next, target) = some (next', head) ∧
      Chain next' head (moved.reverse ++ kept) ∧ ∀ node ∉ moved, next' node = next node := by
  induction moved generalizing fuel next source target kept with
  | nil =>
    cases chain
    exact ⟨next, target, by rw [moveAll], onto, fun _ _ => rfl⟩
  | cons first rest ih =>
    cases chain with
    | cons tail =>
      cases fuel with
      | zero => simp at enough
      | succ fuel =>
        have fresh := (List.nodup_cons.mp (Chain.cons tail).nodup).1
        have outside := apart first List.mem_cons_self
        obtain ⟨next', head, ran, linked, others⟩ :=
          ih (tail.update fresh target) (onto.push outside)
            (fun node member => by
              rw [List.mem_cons]
              rintro (rfl | inKept)
              · exact fresh member
              · exact apart node (List.mem_cons_of_mem _ member) inKept)
            (Nat.le_of_succ_le_succ enough)
        refine ⟨next', head, ran, ?_, fun node absent => ?_⟩
        · rw [List.reverse_cons, List.append_assoc]
          exact linked
        · rw [List.mem_cons, not_or] at absent
          rw [others node absent.2, Function.update_of_ne absent.1]

end Move

end Floid.Lib
