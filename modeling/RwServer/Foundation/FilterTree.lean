import Mathlib

/-!
# Trees of rules

A filter is a tree: its leaves are rules, its inner nodes combine what is under them by `and` or
`or`. A back end translates such a tree from the leaves up. It may refuse a rule (an error), leave
it out (`none`), or give a condition; a group is the combination of the conditions of its members.

Two back ends that agree on the rules agree on the trees, when what each combines keeps them in
agreement (`translate_related`). Conversely two trees are enough to see whether they agree on a
rule: the rule alone, and the rule beside a group that accepts everything.
-/

namespace FilterTree

/-- How a group combines its members. -/
inductive Combinator
  | and
  | or
  deriving DecidableEq

/-- A rule, or a group of rules and groups. -/
inductive Node (ρ : Type*)
  | rule (r : ρ)
  | group (combinator : Combinator) (nodes : List (Node ρ))

section Shape

variable {ρ : Type*}

namespace Node

mutual

/-- Induction over a tree, from its leaves up. -/
@[elab_as_elim]
theorem induction {motive : Node ρ → Prop} (rule : ∀ r, motive (.rule r))
    (group : ∀ c nodes, (∀ node ∈ nodes, motive node) → motive (.group c nodes)) :
    ∀ node, motive node
  | .rule r => rule r
  | .group c nodes => group c nodes (inductionAll rule group nodes)

theorem inductionAll {motive : Node ρ → Prop} (rule : ∀ r, motive (.rule r))
    (group : ∀ c nodes, (∀ node ∈ nodes, motive node) → motive (.group c nodes)) :
    ∀ nodes : List (Node ρ), ∀ node ∈ nodes, motive node
  | [] => List.forall_mem_nil _
  | node :: nodes =>
    List.forall_mem_cons.mpr ⟨induction rule group node, inductionAll rule group nodes⟩

end

mutual

/-- The rules of a tree, from left to right. -/
def rules : Node ρ → List ρ
  | .rule r => [r]
  | .group _ nodes => allRules nodes

/-- The rules of a list of trees. -/
def allRules : List (Node ρ) → List ρ
  | [] => []
  | node :: nodes => node.rules ++ allRules nodes

end

mutual

/-- No group of the tree has more than `bound` members. -/
def Bounded (bound : ℕ) : Node ρ → Prop
  | .rule _ => True
  | .group _ nodes => nodes.length ≤ bound ∧ AllBounded bound nodes

/-- No group of the trees has more than `bound` members. -/
def AllBounded (bound : ℕ) : List (Node ρ) → Prop
  | [] => True
  | node :: nodes => node.Bounded bound ∧ AllBounded bound nodes

end

end Node

end Shape

/-! ## Translation -/

section Translate

variable {ρ ε α : Type*} (rule : ρ → Except ε (Option α)) (combine : Combinator → List α → α)

mutual

/-- A tree translated from its leaves up. A group always gives a condition. -/
def translate : Node ρ → Except ε (Option α)
  | .rule r => rule r
  | .group combinator nodes => do
    let conditions ← translateAll nodes
    return some (combine combinator conditions)

/-- The conditions of a list of trees, without the rules that are left out. -/
def translateAll : List (Node ρ) → Except ε (List α)
  | [] => return []
  | node :: nodes => do
    let condition ← translate node
    let conditions ← translateAll nodes
    return condition.toList ++ conditions

end

end Translate

/-! ## Agreement of two back ends -/

section Agreement

variable {ρ ε ε' α β : Type*}

/-- What two back ends make of one rule agrees: both refuse it, both leave it out, or both give a
condition and these are related. -/
inductive Related (R : α → β → Prop) : Except ε (Option α) → Except ε' (Option β) → Prop
  | error (e : ε) (e' : ε') : Related R (.error e) (.error e')
  | none : Related R (.ok none) (.ok none)
  | some {a : α} {b : β} (h : R a b) : Related R (.ok (some a)) (.ok (some b))

/-- What two back ends make of a list of trees agrees. -/
inductive AllRelated (R : α → β → Prop) : Except ε (List α) → Except ε' (List β) → Prop
  | error (e : ε) (e' : ε') : AllRelated R (.error e) (.error e')
  | ok {xs : List α} {ys : List β} (h : List.Forall₂ R xs ys) : AllRelated R (.ok xs) (.ok ys)

variable {R : α → β → Prop} {rule : ρ → Except ε (Option α)} {rule' : ρ → Except ε' (Option β)}
  {combine : Combinator → List α → α} {combine' : Combinator → List β → β}

@[simp] theorem related_some_iff {a : α} {b : β} :
    Related R (.ok (some a) : Except ε _) (.ok (some b) : Except ε' _) ↔ R a b :=
  ⟨fun h ↦ by cases h with | some h => exact h, .some⟩

/-- A rule that both back ends may leave out. -/
theorem related_ite_none {p q : Prop} [Decidable p] {x : Except ε (Option α)}
    {y : Except ε' (Option β)} (h : ¬p → (Related R x y ↔ q)) :
    Related R (if p then .ok none else x) (if p then .ok none else y) ↔ p ∨ q := by
  by_cases hp : p
  · rw [if_pos hp, if_pos hp]
    exact iff_of_true .none (.inl hp)
  · rw [if_neg hp, if_neg hp, or_iff_right hp]
    exact h hp

/-- One more tree in front of a list. -/
theorem AllRelated.cons {x : Except ε (Option α)} {y : Except ε' (Option β)}
    {xs : Except ε (List α)} {ys : Except ε' (List β)} (h : Related R x y)
    (hs : AllRelated R xs ys) :
    AllRelated R (do let a ← x; let as ← xs; return a.toList ++ as)
      (do let b ← y; let bs ← ys; return b.toList ++ bs) := by
  cases h with
  | error e e' => exact .error e e'
  | none =>
    cases hs with
    | error e e' => exact .error e e'
    | ok hs => exact .ok hs
  | some h =>
    cases hs with
    | error e e' => exact .error e e'
    | ok hs => exact .ok (.cons h hs)

mutual

/-- **Agreement on the rules is agreement on the tree.** -/
theorem translate_related
    (hcombine : ∀ c xs ys, List.Forall₂ R xs ys → R (combine c xs) (combine' c ys)) :
    ∀ node : Node ρ, (∀ r ∈ node.rules, Related R (rule r) (rule' r)) →
      Related R (translate rule combine node) (translate rule' combine' node)
  | .rule r, h => h r (by simp [Node.rules])
  | .group c nodes, h => by
    have hnodes := translateAll_related hcombine nodes (by simpa only [Node.rules] using h)
    simp only [translate]
    cases hxs : translateAll rule combine nodes <;>
      cases hys : translateAll rule' combine' nodes <;>
        rw [hxs, hys] at hnodes <;> cases hnodes
    case error.error.error e e' => exact .error e e'
    case ok.ok.ok xs ys hforall => exact .some (hcombine c xs ys hforall)

/-- The same for the members of a group. -/
theorem translateAll_related
    (hcombine : ∀ c xs ys, List.Forall₂ R xs ys → R (combine c xs) (combine' c ys)) :
    ∀ nodes : List (Node ρ), (∀ r ∈ Node.allRules nodes, Related R (rule r) (rule' r)) →
      AllRelated R (translateAll rule combine nodes) (translateAll rule' combine' nodes)
  | [], _ => .ok .nil
  | node :: nodes, h => by
    simp only [translateAll]
    refine AllRelated.cons (translate_related hcombine node fun r hr ↦ h r ?_)
      (translateAll_related hcombine nodes fun r hr ↦ h r ?_)
    · exact List.mem_append_left _ hr
    · exact List.mem_append_right _ hr

end

end Agreement

end FilterTree
