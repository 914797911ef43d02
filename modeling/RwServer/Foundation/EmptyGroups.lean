import Mathlib
import RwServer.Foundation.FilterTree

/-!
# Rules that are left out, and groups that are left empty

A rule may be incomplete, and is then left out when a tree is evaluated; a group without a condition
accepts everything. Taking the incomplete rules out of a tree, and then the groups that have nothing
left (`Node.prune`), only ever makes it accept less (`value_prune_le`): in a conjunction an empty
group is neutral, in a disjunction it decides. So it makes a difference exactly where the tree
hinges on an alternative of which nothing is left (`opened_iff`), and the shape of a tree excludes
this exactly when no disjunction has such an alternative beside one that is left
(`not_opened_of_guarded`, `exists_opened`).

A tree is evaluated with the truth of its rules in place of the rules: `none` is a rule left out.
-/

namespace FilterTree

variable {ρ σ τ : Type*}

namespace Node

mutual

/-- The tree with other rules. -/
def map (f : ρ → σ) : Node ρ → Node σ
  | .rule r => .rule (f r)
  | .group c nodes => .group c (mapAll f nodes)

def mapAll (f : ρ → σ) : List (Node ρ) → List (Node σ)
  | [] => []
  | node :: nodes => node.map f :: mapAll f nodes

end

theorem mapAll_eq_map (f : ρ → σ) (nodes : List (Node ρ)) :
    mapAll f nodes = nodes.map (map f) := by
  induction nodes with
  | nil => rfl
  | cons node nodes ih => rw [mapAll, ih, List.map_cons]

theorem map_group (f : ρ → σ) (c : Combinator) (nodes : List (Node ρ)) :
    (Node.group c nodes).map f = .group c (nodes.map (map f)) := by
  rw [map, mapAll_eq_map]

theorem map_map (f : ρ → σ) (g : σ → τ) (node : Node ρ) :
    (node.map f).map g = node.map (g ∘ f) := by
  induction node using induction with
  | rule r => rfl
  | group c nodes ih =>
    rw [map_group, map_group, map_group, List.map_map]
    exact congrArg _ (List.map_congr_left ih)

theorem map_id (node : Node ρ) : node.map id = node := by
  induction node using induction with
  | rule r => rfl
  | group c nodes ih => rw [map_group, List.map_congr_left ih, List.map_id']

/-! ## Pruning -/

section Prune

variable (left : ρ → Bool)

mutual

/-- Nothing is left of the tree without the rules that are left out. -/
def isEmptied : Node ρ → Bool
  | .rule r => left r
  | .group _ nodes => allEmptied nodes

def allEmptied : List (Node ρ) → Bool
  | [] => true
  | node :: nodes => node.isEmptied && allEmptied nodes

end

/-- A group of which nothing is left. -/
def isEmptiedGroup : Node ρ → Bool
  | .rule _ => false
  | .group _ nodes => allEmptied left nodes

mutual

/-- The tree without the rules that are left out, and without the groups that this empties. -/
def prune : Node ρ → Node ρ
  | .rule r => .rule r
  | .group c nodes => .group c (pruneAll nodes)

def pruneAll : List (Node ρ) → List (Node ρ)
  | [] => []
  | node :: nodes =>
    if node.isEmptied left then pruneAll nodes else node.prune :: pruneAll nodes

end

mutual

/-- Where a group of alternatives has one of which something is left, it has no emptied group. -/
def Guarded : Node ρ → Prop
  | .rule _ => True
  | .group c nodes => (c = .or → allEmptied left nodes = false →
      ∀ node ∈ nodes, node.isEmptiedGroup left = false) ∧ AllGuarded nodes

def AllGuarded : List (Node ρ) → Prop
  | [] => True
  | node :: nodes => node.Guarded ∧ AllGuarded nodes

end

variable {left}

theorem allEmptied_eq_true_iff {nodes : List (Node ρ)} :
    allEmptied left nodes = true ↔ ∀ node ∈ nodes, node.isEmptied left = true := by
  induction nodes with
  | nil => simp [allEmptied]
  | cons node nodes ih => rw [allEmptied, Bool.and_eq_true, ih, List.forall_mem_cons]

theorem allEmptied_eq_false_iff {nodes : List (Node ρ)} :
    allEmptied left nodes = false ↔ ∃ node ∈ nodes, node.isEmptied left = false := by
  rw [← Bool.not_eq_true, allEmptied_eq_true_iff]
  simp

theorem allGuarded_iff {nodes : List (Node ρ)} :
    AllGuarded left nodes ↔ ∀ node ∈ nodes, node.Guarded left := by
  induction nodes with
  | nil => simp [AllGuarded]
  | cons node nodes ih => rw [AllGuarded, ih, List.forall_mem_cons]

theorem mem_pruneAll {nodes : List (Node ρ)} {pruned : Node ρ} :
    pruned ∈ pruneAll left nodes ↔
      ∃ node ∈ nodes, node.isEmptied left = false ∧ node.prune left = pruned := by
  induction nodes with
  | nil => simp [pruneAll]
  | cons node nodes ih =>
    rw [pruneAll, List.exists_mem_cons_iff]
    split
    · next hemptied => simp [ih, hemptied]
    · next hleft => simp [ih, hleft, eq_comm (a := pruned)]

theorem mem_allRules {nodes : List (Node ρ)} {r : ρ} :
    r ∈ allRules nodes ↔ ∃ node ∈ nodes, r ∈ node.rules := by
  induction nodes with
  | nil => simp [allRules]
  | cons node nodes ih => rw [allRules, List.mem_append, ih, List.exists_mem_cons_iff]

/-- Pruning brings in no rule. -/
theorem rules_prune_subset (node : Node ρ) : (node.prune left).rules ⊆ node.rules := by
  induction node using induction with
  | rule r => exact List.Subset.refl _
  | group c nodes ih =>
    intro r hr
    rw [prune, rules, mem_allRules] at hr
    obtain ⟨pruned, hpruned, hr⟩ := hr
    obtain ⟨node, hnode, -, rfl⟩ := mem_pruneAll.mp hpruned
    exact mem_allRules.mpr ⟨node, hnode, ih node hnode hr⟩

end Prune

section Map

variable (left : σ → Bool) (f : ρ → σ)

theorem exists_of_mem_rules_map {node : Node ρ} {r : σ} (h : r ∈ (node.map f).rules) :
    ∃ r', f r' = r := by
  induction node using induction with
  | rule r' => exact ⟨r', (List.mem_singleton.mp h).symm⟩
  | group c nodes ih =>
    rw [map_group, rules, mem_allRules] at h
    obtain ⟨mapped, hmapped, hr⟩ := h
    obtain ⟨node, hnode, rfl⟩ := List.mem_map.mp hmapped
    exact ih node hnode hr

theorem isEmptied_map (node : Node ρ) :
    (node.map f).isEmptied left = node.isEmptied (left ∘ f) := by
  induction node using induction with
  | rule r => rfl
  | group c nodes ih =>
    rw [map_group, isEmptied, isEmptied, Bool.eq_iff_iff, allEmptied_eq_true_iff,
      allEmptied_eq_true_iff, List.forall_mem_map]
    exact forall₂_congr fun node hnode ↦ by rw [ih node hnode]

theorem allEmptied_mapAll (nodes : List (Node ρ)) :
    allEmptied left (mapAll f nodes) = allEmptied (left ∘ f) nodes :=
  isEmptied_map left f (.group .and nodes)

theorem isEmptiedGroup_map (node : Node ρ) :
    (node.map f).isEmptiedGroup left = node.isEmptiedGroup (left ∘ f) := by
  cases node with
  | rule r => rfl
  | group c nodes => exact allEmptied_mapAll left f nodes

theorem pruneAll_mapAll {nodes : List (Node ρ)}
    (h : ∀ node ∈ nodes, (node.map f).prune left = (node.prune (left ∘ f)).map f) :
    pruneAll left (mapAll f nodes) = mapAll f (pruneAll (left ∘ f) nodes) := by
  induction nodes with
  | nil => rfl
  | cons node nodes ih =>
    obtain ⟨hnode, hnodes⟩ := List.forall_mem_cons.mp h
    rw [mapAll, pruneAll, pruneAll, isEmptied_map, ih hnodes, hnode]
    split
    · rfl
    · rfl

theorem prune_map (node : Node ρ) :
    (node.map f).prune left = (node.prune (left ∘ f)).map f := by
  induction node using induction with
  | rule r => rfl
  | group c nodes ih => rw [map, prune, prune, map, pruneAll_mapAll left f ih]

theorem guarded_map (node : Node ρ) : (node.map f).Guarded left ↔ node.Guarded (left ∘ f) := by
  induction node using induction with
  | rule r => exact Iff.rfl
  | group c nodes ih =>
    rw [map, Guarded, Guarded, allEmptied_mapAll, allGuarded_iff, allGuarded_iff, mapAll_eq_map,
      List.forall_mem_map, List.forall_mem_map]
    simp only [isEmptiedGroup_map]
    exact and_congr_right fun _ ↦ forall₂_congr ih

end Map

/-! ## Evaluation -/

/-- The value of a group. A group without a condition accepts everything. -/
def join : Combinator → List Bool → Bool
  | _, [] => true
  | .and, values => values.all id
  | .or, values => values.any id

mutual

/-- The value of a tree. There is none for a rule that is left out. -/
def value : Node (Option Bool) → Option Bool
  | .rule b => b
  | .group c nodes => some (join c (values nodes))

def values : List (Node (Option Bool)) → List Bool
  | [] => []
  | node :: nodes => node.value.toList ++ values nodes

end

theorem mem_values {nodes : List (Node (Option Bool))} {b : Bool} :
    b ∈ values nodes ↔ ∃ node ∈ nodes, node.value = some b := by
  induction nodes with
  | nil => simp [values]
  | cons node nodes ih =>
    rw [values, List.mem_append, ih, Option.mem_toList, List.exists_mem_cons_iff]

theorem values_eq_nil_iff {nodes : List (Node (Option Bool))} :
    values nodes = [] ↔ ∀ node ∈ nodes, node.value = none := by
  induction nodes with
  | nil => simp [values]
  | cons node nodes ih =>
    rw [values, List.append_eq_nil_iff, ih, List.forall_mem_cons, Option.toList_eq_nil_iff]

/-- In a conjunction whatever has no value is neutral. -/
theorem value_and_eq_true_iff {nodes : List (Node (Option Bool))} :
    (Node.group .and nodes).value = some true ↔ ∀ node ∈ nodes, node.value ≠ some false := by
  have hjoin (bs : List Bool) : join .and bs = true ↔ false ∉ bs := by
    cases bs <;> simp [join]
  rw [value, Option.some_inj, hjoin, mem_values]
  simp

/-- In a disjunction it is neutral too, but a disjunction without a value accepts everything. -/
theorem value_or_eq_true_iff {nodes : List (Node (Option Bool))} :
    (Node.group .or nodes).value = some true ↔
      (∀ node ∈ nodes, node.value = none) ∨ ∃ node ∈ nodes, node.value = some true := by
  have hjoin (bs : List Bool) : join .or bs = true ↔ bs = [] ∨ true ∈ bs := by
    cases bs <;> simp [join]
  rw [value, Option.some_inj, hjoin, values_eq_nil_iff, mem_values]

theorem value_group_eq_false_iff {c : Combinator} {nodes : List (Node (Option Bool))} :
    (Node.group c nodes).value = some false ↔ (Node.group c nodes).value ≠ some true := by
  simp [value]

end Node

/-! ## Pruning a tree under evaluation -/

namespace Node

theorem eq_true_of_ne {x : Option Bool} (hnone : x ≠ none) (hfalse : x ≠ some false) :
    x = some true := by
  revert x
  decide

theorem eq_false_of_ne {x : Option Bool} (hnone : x ≠ none) (htrue : x ≠ some true) :
    x = some false := by
  revert x
  decide

/-- A group fails only by a member that fails. -/
theorem value_group_of_forall {c : Combinator} {nodes : List (Node (Option Bool))}
    (h : ∀ node ∈ nodes, node.value ≠ some false) : (Node.group c nodes).value = some true := by
  cases c with
  | and => exact value_and_eq_true_iff.mpr h
  | or =>
    refine value_or_eq_true_iff.mpr (or_iff_not_imp_left.mpr fun hnone ↦ ?_)
    push Not at hnone
    obtain ⟨node, hnode, hvalue⟩ := hnone
    exact ⟨node, hnode, eq_true_of_ne hvalue (h node hnode)⟩

/-- A tree of which nothing is left accepts everything, if it has a value at all. -/
theorem value_ne_false_of_isEmptied {node : Node (Option Bool)}
    (h : node.isEmptied Option.isNone = true) : node.value ≠ some false := by
  induction node using induction with
  | rule b =>
    rw [isEmptied, Option.isNone_iff_eq_none] at h
    simp [value, h]
  | group c nodes ih =>
    have htrue : (Node.group c nodes).value = some true := value_group_of_forall fun node hnode ↦
      ih node hnode (allEmptied_eq_true_iff.mp h node hnode)
    rw [htrue]
    decide

/-- A tree of which something is left has a value. -/
theorem value_ne_none {node : Node (Option Bool)} (h : node.isEmptied Option.isNone = false) :
    node.value ≠ none := by
  cases node with
  | rule b => exact Option.isNone_eq_false_iff.mp h |> Option.ne_none_iff_isSome.mpr
  | group c nodes => simp [value]

theorem isEmptied_prune {node : Node ρ} {left : ρ → Bool} (h : node.isEmptied left = false) :
    (node.prune left).isEmptied left = false := by
  induction node using induction with
  | rule r => exact h
  | group c nodes ih =>
    obtain ⟨node, hnode, hleft⟩ := allEmptied_eq_false_iff.mp h
    exact allEmptied_eq_false_iff.mpr
      ⟨node.prune left, mem_pruneAll.mpr ⟨node, hnode, hleft, rfl⟩, ih node hnode hleft⟩

/-- What a pruned group is made of. -/
theorem forall_mem_pruneAll {left : ρ → Bool} {nodes : List (Node ρ)} {p : Node ρ → Prop} :
    (∀ pruned ∈ pruneAll left nodes, p pruned) ↔
      ∀ node ∈ nodes, node.isEmptied left = false → p (node.prune left) := by
  constructor
  · exact fun h node hnode hleft ↦ h _ (mem_pruneAll.mpr ⟨node, hnode, hleft, rfl⟩)
  · intro h pruned hpruned
    obtain ⟨node, hnode, hleft, rfl⟩ := mem_pruneAll.mp hpruned
    exact h node hnode hleft

/-- The conjunction holds once pruned when everything left in it does. -/
theorem value_prune_and {nodes : List (Node (Option Bool))} :
    ((Node.group .and nodes).prune Option.isNone).value = some true ↔
      ∀ node ∈ nodes, node.isEmptied Option.isNone = false →
        (node.prune Option.isNone).value ≠ some false := by
  rw [prune, value_and_eq_true_iff, forall_mem_pruneAll]

/-- It fails when something left in it does. -/
theorem value_prune_and_eq_false {nodes : List (Node (Option Bool))}
    (h : ((Node.group .and nodes).prune Option.isNone).value = some false) :
    ∃ node ∈ nodes, node.isEmptied Option.isNone = false ∧
      (node.prune Option.isNone).value = some false := by
  by_contra hnot
  push Not at hnot
  rw [value_prune_and.mpr hnot] at h
  cases h

/-- The disjunction fails once pruned when everything left in it does. -/
theorem value_prune_or {nodes : List (Node (Option Bool))}
    (h : (Node.group .or nodes).isEmptied Option.isNone = false) :
    ((Node.group .or nodes).prune Option.isNone).value = some false ↔
      ∀ node ∈ nodes, node.isEmptied Option.isNone = false →
        (node.prune Option.isNone).value = some false := by
  have hvalue {node : Node (Option Bool)} (hleft : node.isEmptied Option.isNone = false) :
      (node.prune Option.isNone).value ≠ none := value_ne_none (isEmptied_prune hleft)
  rw [prune, value_group_eq_false_iff, Ne, value_or_eq_true_iff, not_or, not_exists]
  constructor
  · rintro ⟨-, hfalse⟩ node hnode hleft
    have hne := not_and.mp (hfalse _) (mem_pruneAll.mpr ⟨node, hnode, hleft, rfl⟩)
    exact eq_false_of_ne (hvalue hleft) hne
  · intro hfalse
    obtain ⟨node, hnode, hleft⟩ := allEmptied_eq_false_iff.mp h
    refine ⟨fun hnone ↦ hvalue hleft (forall_mem_pruneAll.mp hnone node hnode hleft), ?_⟩
    rintro pruned ⟨hpruned, htrue⟩
    obtain ⟨node, hnode, hleft, rfl⟩ := mem_pruneAll.mp hpruned
    rw [hfalse node hnode hleft] at htrue
    cases htrue

/-- **A pruned tree accepts less.** -/
theorem value_prune_le {node : Node (Option Bool)} (h : node.isEmptied Option.isNone = false)
    (hpruned : (node.prune Option.isNone).value = some true) : node.value = some true := by
  induction node using induction with
  | rule b => exact hpruned
  | group c nodes ih =>
    cases c with
    | and =>
      rw [value_prune_and] at hpruned
      rw [value_and_eq_true_iff]
      intro node hnode
      cases hleft : node.isEmptied Option.isNone with
      | true => exact value_ne_false_of_isEmptied hleft
      | false =>
        have htrue : (node.prune Option.isNone).value = some true :=
          eq_true_of_ne (value_ne_none (isEmptied_prune hleft)) (hpruned node hnode hleft)
        rw [ih node hnode hleft htrue]
        decide
    | or =>
      -- The pruned disjunction is not empty, so one of its members holds.
      obtain ⟨node, hnode, hleft, htrue⟩ : ∃ node ∈ nodes,
          node.isEmptied Option.isNone = false ∧ (node.prune Option.isNone).value ≠ some false := by
        by_contra hnot
        push Not at hnot
        rw [(value_prune_or h).mpr hnot] at hpruned
        cases hpruned
      refine value_or_eq_true_iff.mpr (.inr ⟨node, hnode, ih node hnode hleft ?_⟩)
      exact eq_true_of_ne (value_ne_none (isEmptied_prune hleft)) htrue

/-! ## Trees that hinge on an emptied alternative -/

/-- The tree holds only because of an alternative of which nothing is left: nothing else holds in
the disjunctions above it, and nothing fails in the conjunctions. -/
inductive Opened : Node (Option Bool) → Prop
  | here {nodes : List (Node (Option Bool))} {node : Node (Option Bool)} (hnode : node ∈ nodes)
      (hemptied : node.isEmptiedGroup Option.isNone = true)
      (hleft : allEmptied Option.isNone nodes = false)
      (hothers : ∀ node ∈ nodes, node.isEmptied Option.isNone = false →
        (node.prune Option.isNone).value = some false) :
      Opened (.group .or nodes)
  | or {nodes : List (Node (Option Bool))} {node : Node (Option Bool)} (hnode : node ∈ nodes)
      (hopened : node.Opened)
      (hothers : ∀ node ∈ nodes, node.isEmptied Option.isNone = false →
        (node.prune Option.isNone).value = some false) :
      Opened (.group .or nodes)
  | and {nodes : List (Node (Option Bool))} {node : Node (Option Bool)} (hnode : node ∈ nodes)
      (hopened : node.Opened) (hothers : ∀ node ∈ nodes, node.value ≠ some false) :
      Opened (.group .and nodes)

theorem Opened.isEmptied_eq_false {node : Node (Option Bool)} (h : node.Opened) :
    node.isEmptied Option.isNone = false := by
  induction h with
  | here _ _ hleft _ => exact hleft
  | or hnode _ _ ih => exact allEmptied_eq_false_iff.mpr ⟨_, hnode, ih⟩
  | and hnode _ _ ih => exact allEmptied_eq_false_iff.mpr ⟨_, hnode, ih⟩

theorem isEmptied_of_isEmptiedGroup {node : Node ρ} {left : ρ → Bool}
    (h : node.isEmptiedGroup left = true) : node.isEmptied left = true := by
  cases node with
  | rule r => cases h
  | group c nodes => exact h

/-- A group of which nothing is left accepts everything. -/
theorem value_of_isEmptiedGroup {node : Node (Option Bool)}
    (h : node.isEmptiedGroup Option.isNone = true) : node.value = some true := by
  have hne := value_ne_false_of_isEmptied (isEmptied_of_isEmptiedGroup h)
  cases node with
  | rule b => cases h
  | group c nodes => exact eq_true_of_ne (by simp [value]) hne

/-- A tree that hinges on an emptied alternative holds, and no longer does once pruned. -/
theorem Opened.value {node : Node (Option Bool)} (hopened : node.Opened) :
    node.value = some true ∧ (node.prune Option.isNone).value = some false := by
  induction hopened with
  | here hnode hemptied hleft hothers =>
    exact ⟨value_or_eq_true_iff.mpr (.inr ⟨_, hnode, value_of_isEmptiedGroup hemptied⟩),
      (value_prune_or hleft).mpr hothers⟩
  | or hnode hopened hothers ih =>
    have hleft := (Opened.or hnode hopened hothers).isEmptied_eq_false
    exact ⟨value_or_eq_true_iff.mpr (.inr ⟨_, hnode, ih.1⟩), (value_prune_or hleft).mpr hothers⟩
  | and hnode hopened hothers ih =>
    refine ⟨value_and_eq_true_iff.mpr hothers, value_group_eq_false_iff.mpr fun htrue ↦ ?_⟩
    exact value_prune_and.mp htrue _ hnode hopened.isEmptied_eq_false ih.2

/-- Nothing else makes a tree hold that no longer does once pruned. -/
theorem opened_of_value {node : Node (Option Bool)} (h : node.isEmptied Option.isNone = false)
    (hvalue : node.value = some true) (hpruned : (node.prune Option.isNone).value = some false) :
    node.Opened := by
  induction node using induction with
  | rule b =>
    rw [prune, hvalue] at hpruned
    cases hpruned
  | group c nodes ih =>
    cases c with
    | and =>
      have hothers := value_and_eq_true_iff.mp hvalue
      obtain ⟨node, hnode, hleft, hfalse⟩ := value_prune_and_eq_false hpruned
      have htrue := eq_true_of_ne (value_ne_none hleft) (hothers node hnode)
      exact .and hnode (ih node hnode hleft htrue hfalse) hothers
    | or =>
      have hothers := (value_prune_or h).mp hpruned
      obtain hnone | ⟨node, hnode, htrue⟩ := value_or_eq_true_iff.mp hvalue
      · obtain ⟨node, hnode, hleft⟩ := allEmptied_eq_false_iff.mp h
        exact absurd (hnone node hnode) (value_ne_none hleft)
      · cases hleft : node.isEmptied Option.isNone with
        | false => exact .or hnode (ih node hnode hleft htrue (hothers node hnode hleft)) hothers
        | true =>
          refine .here hnode ?_ h hothers
          cases node with
          | rule b =>
            rw [value] at htrue
            rw [htrue] at hleft
            cases hleft
          | group c nodes => exact hleft

/-- **A tree accepts what it no longer accepts once pruned exactly when it hinges on an emptied
alternative.** -/
theorem opened_iff {node : Node (Option Bool)} (h : node.isEmptied Option.isNone = false) :
    node.Opened ↔ node.value = some true ∧ (node.prune Option.isNone).value = some false :=
  ⟨Opened.value, fun hvalues ↦ opened_of_value h hvalues.1 hvalues.2⟩

/-- Pruning makes no difference to a tree that does not hinge on an emptied alternative. -/
theorem value_prune_eq_iff {node : Node (Option Bool)} (h : node.isEmptied Option.isNone = false) :
    (node.prune Option.isNone).value = node.value ↔ ¬node.Opened := by
  rw [opened_iff h]
  have hvalue := value_ne_none h
  have hpruned := value_ne_none (isEmptied_prune h)
  have hle := value_prune_le h
  revert hvalue hpruned hle
  generalize node.value = x
  generalize (node.prune Option.isNone).value = y
  revert x y
  decide

/-- The same for a group, also where nothing is left of it: then it accepts everything anyway. -/
theorem value_prune_group_eq_iff (c : Combinator) (nodes : List (Node (Option Bool))) :
    ((Node.group c nodes).prune Option.isNone).value = (Node.group c nodes).value ↔
      ¬(Node.group c nodes).Opened := by
  cases h : (Node.group c nodes).isEmptied Option.isNone with
  | false => exact value_prune_eq_iff h
  | true =>
    have hnone : pruneAll Option.isNone nodes = [] := by
      refine List.eq_nil_iff_forall_not_mem.mpr fun pruned hpruned ↦ ?_
      obtain ⟨node, hnode, hleft, -⟩ := mem_pruneAll.mp hpruned
      rw [allEmptied_eq_true_iff.mp h node hnode] at hleft
      cases hleft
    have htrue : (Node.group c nodes).value = some true := value_of_isEmptiedGroup h
    refine iff_of_true ?_ fun hopened ↦ ?_
    · rw [htrue, prune, hnone]
      cases c <;> rfl
    · rw [hopened.isEmptied_eq_false] at h
      cases h

/-! ## Shapes -/

/-- A guarded tree hinges on no emptied alternative. -/
theorem not_opened_of_guarded {node : Node (Option Bool)} (h : node.Guarded Option.isNone) :
    ¬node.Opened := by
  intro hopened
  induction hopened with
  | here hnode hemptied hleft hothers =>
    have hnot := h.1 rfl hleft _ hnode
    rw [hemptied] at hnot
    cases hnot
  | or hnode hopened hothers ih => exact ih (allGuarded_iff.mp h.2 _ hnode)
  | and hnode hopened hothers ih => exact ih (allGuarded_iff.mp h.2 _ hnode)

section Fill

variable (left : ρ → Bool)

/-- Every rule that is not left out has this truth. -/
def fillRule (b : Bool) (r : ρ) : Option Bool := if left r then none else some b

def fill (b : Bool) (node : Node ρ) : Node (Option Bool) := node.map (fillRule left b)

variable {left}

theorem isNone_fillRule (b : Bool) : Option.isNone ∘ fillRule left b = left := by
  funext r
  cases h : left r <;> simp [fillRule, h]

theorem map_isNone_fill (b : Bool) (node : Node ρ) :
    (node.fill left b).map Option.isNone = node.map left := by
  rw [fill, map_map, isNone_fillRule]

theorem isEmptied_fill (b : Bool) (node : Node ρ) :
    (node.fill left b).isEmptied Option.isNone = node.isEmptied left := by
  rw [fill, isEmptied_map, isNone_fillRule]

/-- A tree whose rules all hold does not fail. -/
theorem value_fill_true (node : Node ρ) : (node.fill left true).value ≠ some false := by
  induction node using induction with
  | rule r =>
    rw [fill, map, value, fillRule]
    split
    · decide
    · decide
  | group c nodes ih =>
    have htrue : ((Node.group c nodes).fill left true).value = some true := by
      rw [fill, map_group]
      exact value_group_of_forall (List.forall_mem_map.mpr ih)
    rw [htrue]
    decide

/-- A tree whose rules all fail does, once pruned. -/
theorem value_prune_fill_false {node : Node ρ} (h : node.isEmptied left = false) :
    ((node.fill left false).prune Option.isNone).value = some false := by
  induction node using induction with
  | rule r =>
    have hleft : left r = false := h
    rw [fill, map, prune, value, fillRule, hleft]
    rfl
  | group c nodes ih =>
    have hmembers : ∀ node ∈ nodes.map (fill left false), node.isEmptied Option.isNone = false →
        (node.prune Option.isNone).value = some false := by
      refine List.forall_mem_map.mpr fun node hnode hleft ↦ ih node hnode ?_
      rwa [isEmptied_fill] at hleft
    obtain ⟨node, hnode, hleft⟩ := allEmptied_eq_false_iff.mp h
    have hfilled := List.mem_map_of_mem (f := fill left false) hnode
    replace hleft : (node.fill left false).isEmptied Option.isNone = false :=
      (isEmptied_fill false node).trans hleft
    rw [fill, map_group]
    cases c with
    | and =>
      refine value_group_eq_false_iff.mpr fun htrue ↦ ?_
      exact value_prune_and.mp htrue _ hfilled hleft (hmembers _ hfilled hleft)
    | or =>
      exact (value_prune_or (allEmptied_eq_false_iff.mpr ⟨_, hfilled, hleft⟩)).mpr hmembers

/-- A disjunction with an emptied alternative, when everything else in it fails. -/
theorem opened_fill {nodes : List (Node ρ)} {node : Node ρ} (hnode : node ∈ nodes)
    (hemptied : node.isEmptiedGroup left = true) (hleft : allEmptied left nodes = false) :
    ((Node.group .or nodes).fill left false).Opened := by
  rw [fill, map_group]
  refine .here (List.mem_map_of_mem hnode) ?_ ?_ ?_
  · rw [isEmptiedGroup_map, isNone_fillRule]
    exact hemptied
  · obtain ⟨node, hnode, hleft⟩ := allEmptied_eq_false_iff.mp hleft
    exact allEmptied_eq_false_iff.mpr
      ⟨_, List.mem_map_of_mem hnode, (isEmptied_fill false node).trans hleft⟩
  · exact List.forall_mem_map.mpr fun node _ hleft ↦
      value_prune_fill_false ((isEmptied_fill false node).symm.trans hleft)

/-- A group around a tree that hinges on an emptied alternative, when the other members fail in a
disjunction and hold in a conjunction. -/
theorem exists_opened_group {before after : List (Node ρ)} {node : Node ρ}
    {filled : Node (Option Bool)} (c : Combinator)
    (hshape : filled.map Option.isNone = node.map left) (hopened : filled.Opened) :
    ∃ filled : Node (Option Bool), filled.map Option.isNone =
      (Node.group c (before ++ node :: after)).map left ∧ filled.Opened := by
  have hfill (b : Bool) : (Node.group c
      (before.map (fill left b) ++ filled :: after.map (fill left b))).map Option.isNone =
        (Node.group c (before ++ node :: after)).map left := by
    rw [map_group, map_group, List.map_append, List.map_append, List.map_cons, List.map_cons,
      List.map_map, List.map_map, hshape]
    simp only [Function.comp_def, map_isNone_fill]
  have hmem (b : Bool) :
      filled ∈ before.map (fill left b) ++ filled :: after.map (fill left b) :=
    List.mem_append_right _ List.mem_cons_self
  cases c with
  | and =>
    refine ⟨_, hfill true, .and (hmem true) hopened ?_⟩
    rw [List.forall_mem_append, List.forall_mem_cons, List.forall_mem_map, List.forall_mem_map]
    refine ⟨fun node _ ↦ value_fill_true node, ?_, fun node _ ↦ value_fill_true node⟩
    rw [hopened.value.1]
    decide
  | or =>
    have hothers (node : Node ρ) (h : (node.fill left false).isEmptied Option.isNone = false) :
        ((node.fill left false).prune Option.isNone).value = some false :=
      value_prune_fill_false ((isEmptied_fill false node).symm.trans h)
    refine ⟨_, hfill false, .or (hmem false) hopened ?_⟩
    rw [List.forall_mem_append, List.forall_mem_cons, List.forall_mem_map, List.forall_mem_map]
    exact ⟨fun node _ ↦ hothers node, fun _ ↦ hopened.value.2, fun node _ ↦ hothers node⟩

/-- **Every shape that is not guarded can be filled in so that it hinges on an emptied
alternative.** -/
theorem exists_opened {node : Node ρ} (h : ¬node.Guarded left) :
    ∃ filled : Node (Option Bool), filled.map Option.isNone = node.map left ∧ filled.Opened := by
  induction node using induction with
  | rule r => exact absurd trivial h
  | group c nodes ih =>
    by_cases hnodes : AllGuarded left nodes
    · -- the emptied alternative is in this very disjunction
      obtain ⟨rfl, hleft, node, hnode, hemptied⟩ : c = .or ∧ allEmptied left nodes = false ∧
          ∃ node ∈ nodes, node.isEmptiedGroup left = true := by
        by_contra hnot
        refine h ⟨fun hc hleft node hnode ↦ ?_, hnodes⟩
        exact Bool.eq_false_iff.mpr fun hemptied ↦ hnot ⟨hc, hleft, node, hnode, hemptied⟩
      exact ⟨_, map_isNone_fill false _, opened_fill hnode hemptied hleft⟩
    · -- it is further down
      obtain ⟨node, hnode, hguarded⟩ : ∃ node ∈ nodes, ¬node.Guarded left := by
        rw [allGuarded_iff] at hnodes
        push Not at hnodes
        exact hnodes
      obtain ⟨filled, hshape, hopened⟩ := ih node hnode hguarded
      obtain ⟨before, after, rfl⟩ := List.append_of_mem hnode
      exact exists_opened_group c hshape hopened

end Fill

end Node

/-! ## Translated trees -/

section Translated

variable {ε α : Type*} {rule : ρ → Except ε (Option α)} {combine : Combinator → List α → α}

theorem translate_group (c : Combinator) (nodes : List (Node ρ)) :
    translate rule combine (.group c nodes) =
      (translateAll rule combine nodes).map fun conditions ↦ some (combine c conditions) := by
  rw [translate]
  cases translateAll rule combine nodes <;> rfl

theorem translateAll_cons_ok_iff {node : Node ρ} {nodes : List (Node ρ)} {conditions : List α} :
    translateAll rule combine (node :: nodes) = .ok conditions ↔
      ∃ condition rest, translate rule combine node = .ok condition ∧
        translateAll rule combine nodes = .ok rest ∧ condition.toList ++ rest = conditions := by
  rw [translateAll]
  cases translate rule combine node with
  | error e => simp [bind, Except.bind]
  | ok condition =>
    cases translateAll rule combine nodes with
    | error e => simp [bind, Except.bind]
    | ok rest => simp [bind, Except.bind, pure, Except.pure]

theorem translate_group_ok_iff {c : Combinator} {nodes : List (Node ρ)} {condition : Option α} :
    translate rule combine (.group c nodes) = .ok condition ↔
      ∃ conditions, translateAll rule combine nodes = .ok conditions ∧
        some (combine c conditions) = condition := by
  rw [translate_group]
  cases translateAll rule combine nodes <;> simp [Except.map]

/-- A back end translates a tree when it translates all its rules. -/
theorem exists_translate_iff (node : Node ρ) :
    (∃ condition, translate rule combine node = .ok condition) ↔
      ∀ r ∈ node.rules, ∃ condition, rule r = .ok condition := by
  induction node using Node.induction with
  | rule r => simp [translate, Node.rules]
  | group c nodes ih =>
    have hnodes : (∃ conditions, translateAll rule combine nodes = .ok conditions) ↔
        ∀ r ∈ Node.allRules nodes, ∃ condition, rule r = .ok condition := by
      induction nodes with
      | nil => simp [translateAll, Node.allRules, pure, Except.pure]
      | cons node nodes ihnodes =>
        obtain ⟨hnode, hnodes⟩ := List.forall_mem_cons.mp ih
        rw [Node.allRules, List.forall_mem_append, ← hnode, ← ihnodes hnodes]
        simp only [translateAll_cons_ok_iff]
        constructor
        · rintro ⟨_, condition, rest, hcondition, hrest, -⟩
          exact ⟨⟨condition, hcondition⟩, ⟨rest, hrest⟩⟩
        · rintro ⟨⟨condition, hcondition⟩, ⟨rest, hrest⟩⟩
          exact ⟨_, condition, rest, hcondition, hrest, rfl⟩
    rw [Node.rules, ← hnodes]
    simp only [translate_group_ok_iff]
    constructor
    · rintro ⟨_, conditions, hconditions, -⟩
      exact ⟨conditions, hconditions⟩
    · rintro ⟨conditions, hconditions⟩
      exact ⟨_, conditions, hconditions, rfl⟩

/-- The condition made of a tree holds where the tree does, with the truth of its rules. -/
theorem value_of_translate {holds : α → Bool} {truth : ρ → Option Bool}
    (hcombine : ∀ c conditions, holds (combine c conditions) = Node.join c (conditions.map holds))
    {node : Node ρ} (htruth : ∀ r ∈ node.rules, ∀ condition, rule r = .ok condition →
      truth r = condition.map holds)
    {condition : Option α} (h : translate rule combine node = .ok condition) :
    (node.map truth).value = condition.map holds := by
  induction node using Node.induction generalizing condition with
  | rule r => exact htruth r List.mem_cons_self condition h
  | group c nodes ih =>
    obtain ⟨conditions, hconditions, rfl⟩ := translate_group_ok_iff.mp h
    clear h
    have hvalues : Node.values (Node.mapAll truth nodes) = conditions.map holds := by
      induction nodes generalizing conditions with
      | nil =>
        cases hconditions
        rfl
      | cons node nodes ihnodes =>
        obtain ⟨condition, rest, hcondition, hrest, rfl⟩ := translateAll_cons_ok_iff.mp hconditions
        obtain ⟨hnode, hnodes⟩ := List.forall_mem_cons.mp ih
        rw [Node.rules, Node.allRules, List.forall_mem_append] at htruth
        rw [Node.mapAll, Node.values, hnode htruth.1 hcondition, ihnodes hnodes htruth.2 rest hrest,
          List.map_append]
        cases condition <;> rfl
    rw [Node.map, Node.value, hvalues, ← hcombine]
    rfl

/-- A property a group has when its members do, a tree has when its rules do. -/
theorem forall_of_translate {good : α → Prop}
    (hcombine : ∀ c conditions, good (combine c conditions) ↔
      ∀ condition ∈ conditions, good condition)
    {node : Node ρ} {condition : Option α} (h : translate rule combine node = .ok condition) :
    (∀ a ∈ condition, good a) ↔ ∀ r ∈ node.rules, ∀ a, rule r = .ok (some a) → good a := by
  induction node using Node.induction generalizing condition with
  | rule r =>
    rw [translate] at h
    simp [Node.rules, h]
  | group c nodes ih =>
    obtain ⟨conditions, hconditions, rfl⟩ := translate_group_ok_iff.mp h
    clear h
    have hgroup : (∀ a ∈ some (combine c conditions), good a) ↔ good (combine c conditions) :=
      ⟨fun h ↦ h _ rfl, fun h a ha ↦ Option.some.inj ha ▸ h⟩
    rw [hgroup, hcombine, Node.rules]
    clear hgroup
    induction nodes generalizing conditions with
    | nil =>
      cases hconditions
      simp [Node.allRules]
    | cons node nodes ihnodes =>
      obtain ⟨condition, rest, hcondition, hrest, rfl⟩ := translateAll_cons_ok_iff.mp hconditions
      obtain ⟨hnode, hnodes⟩ := List.forall_mem_cons.mp ih
      rw [Node.allRules, List.forall_mem_append, List.forall_mem_append, ← hnode hcondition]
      refine and_congr ?_ (ihnodes hnodes rest hrest)
      simp only [Option.mem_toList, Option.mem_def]

end Translated

end FilterTree
