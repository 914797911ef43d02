import Mathlib
import RwServer.Foundation.EmptyGroups
import RwServer.Reports.FilterAgreement

/-!
# Incomplete rules and the row predicate

A client sends the filter as it stands in its editor, unfinished rules included. `toRowFilter` skips
these where they stand, but a group that has nothing else becomes a predicate that accepts every
row. Between the alternatives of an `or` such a group widens the filter: `A or (unfinished)` accepts
every row, while `A`, which is all that has been filled in, does not.

Whether a filter is affected on a row is a matter of the tree with the truth of its rules in their
place (`QueryFilter.truths`), and whether filters of a shape can be is a matter of the shape.
-/

namespace RwServer

namespace QueryFilters

open FilterTree

/-- The rule is left out, as the code checks it. -/
def QueryRule.isLeftOut (rule : QueryRule) : Bool :=
  match rule.operator with
  | .null => false
  | .notNull => false
  | .isIn => rule.value.isIncomplete || (toArray rule.value).isEmpty
  | .notIn => rule.value.isIncomplete || (toArray rule.value).isEmpty
  | _ => rule.value.isIncomplete

theorem QueryRule.isLeftOut_eq_true_iff {rule : QueryRule} :
    rule.isLeftOut = true ↔ rule.LeftOut := by
  unfold isLeftOut LeftOut
  cases rule.operator <;> simp [List.isEmpty_iff]

namespace QueryFilter

/-- The filter as one tree. -/
def tree (query : QueryFilter) : Node QueryRule := .group query.combinator query.rules

/-- The filter without its incomplete rules, and without the groups that have no other. -/
def prune (query : QueryFilter) : QueryFilter :=
  ⟨query.combinator, Node.pruneAll QueryRule.isLeftOut query.rules⟩

/-- The filters have the same groups, and the same places for complete and for incomplete rules. -/
def SameShape (query query' : QueryFilter) : Prop :=
  query.tree.map QueryRule.isLeftOut = query'.tree.map QueryRule.isLeftOut

/-- No `or` of the filter has a group of incomplete rules alone beside something complete. -/
def Guarded (query : QueryFilter) : Prop := query.tree.Guarded QueryRule.isLeftOut

theorem tree_prune (query : QueryFilter) :
    query.prune.tree = query.tree.prune QueryRule.isLeftOut := rfl

theorem SameShape.guarded_iff {query query' : QueryFilter} (h : query.SameShape query') :
    query.Guarded ↔ query'.Guarded := by
  have hshape (query : QueryFilter) :
      (query.tree.map QueryRule.isLeftOut).Guarded id ↔ query.Guarded := Node.guarded_map _ _ _
  rw [← hshape, h, hshape]

end QueryFilter

/-! ## The tree under a row -/

section Truth

variable (E : Environment) (allowlist : FieldAllowlist) (row : Row)

/-- What a rule says of the row: nothing when it is left out. -/
def QueryRule.truth (rule : QueryRule) : Option Bool :=
  if rule.isLeftOut then none
  else match ruleToRowPredicate E allowlist rule with
  | .ok (some accepts) => some (accepts row)
  | _ => some false

/-- The filter with what its rules say of the row. -/
def QueryFilter.truths (query : QueryFilter) : Node (Option Bool) :=
  query.tree.map (QueryRule.truth E allowlist row)

theorem QueryRule.isNone_truth :
    Option.isNone ∘ QueryRule.truth E allowlist row = QueryRule.isLeftOut := by
  funext rule
  rw [Function.comp_apply, QueryRule.truth]
  split
  · next hout => exact hout.symm
  · next hnot =>
    rw [Bool.not_eq_true] at hnot
    rw [hnot]
    split
    · rfl
    · rfl

theorem QueryFilter.guarded_truths (query : QueryFilter) :
    (query.truths E allowlist row).Guarded Option.isNone ↔ query.Guarded := by
  rw [truths, Node.guarded_map, QueryRule.isNone_truth]
  rfl

variable {E allowlist}

/-- The rules skipped are the incomplete ones. -/
theorem ruleToRowPredicate_eq_none_iff {rule : QueryRule} {predicate : Option (Row → Bool)}
    (h : ruleToRowPredicate E allowlist rule = .ok predicate) :
    predicate = none ↔ rule.isLeftOut = true := by
  unfold ruleToRowPredicate at h
  unfold QueryRule.isLeftOut
  cases hfield : readField allowlist rule.field with
  | none =>
    rw [hfield] at h
    cases h
  | some allowed =>
    cases hgetter : makeGetter allowed.column with
    | error e =>
      simp only [hfield, hgetter, bind, Except.bind] at h
      cases h
    | ok getValue =>
      simp only [hfield, hgetter, bind, Except.bind, pure, Except.pure, List.length_map] at h
      cases hoperator : rule.operator with
      | null | notNull =>
        rw [hoperator] at h
        cases h
        simp
      | compare c | contains | beginsWith =>
        rw [hoperator] at h
        dsimp only at h ⊢
        split at h <;> cases h <;> simp_all
      | isIn | notIn =>
        rw [hoperator] at h
        dsimp only at h ⊢
        split at h
        · cases h
          simp_all
        · split at h <;> cases h <;> simp_all
      | between | notBetween =>
        rw [hoperator] at h
        dsimp only at h ⊢
        split at h
        · cases h
          simp_all
        · cases hpair : toBetweenPair rule.value with
          | error e =>
            rw [hpair] at h
            cases h
          | ok pair =>
            rw [hpair] at h
            cases h
            simp_all

theorem QueryRule.truth_eq {rule : QueryRule} {predicate : Option (Row → Bool)}
    (h : ruleToRowPredicate E allowlist rule = .ok predicate) :
    rule.truth E allowlist row = predicate.map fun accepts ↦ accepts row := by
  have hnone := ruleToRowPredicate_eq_none_iff h
  rw [QueryRule.truth, h]
  cases predicate with
  | none => rw [if_pos (hnone.mp rfl), Option.map_none]
  | some accepts =>
    have hkept : ¬rule.isLeftOut = true := by simp [← hnone]
    rw [if_neg hkept, Option.map_some]

theorem combineFilters_eq_join (c : Combinator) (predicates : List (Row → Bool)) :
    combineFilters c predicates row = Node.join c (predicates.map fun accepts ↦ accepts row) := by
  cases predicates with
  | nil => cases c <;> rfl
  | cons accepts predicates =>
    cases c with
    | and => simp [combineFilters, Node.join, List.all_map]
    | or => simp [combineFilters, Node.join, List.any_map]

theorem toRowFilter_eq_ok_iff {query : QueryFilter} {accepts : Row → Bool} :
    toRowFilter E allowlist query = .ok accepts ↔
      translate (ruleToRowPredicate E allowlist) combineFilters query.tree =
        .ok (some accepts) := by
  rw [QueryFilter.tree, translate_group_ok_iff, toRowFilter]
  cases translateAll (ruleToRowPredicate E allowlist) combineFilters query.rules with
  | error e => simp [bind, Except.bind]
  | ok predicates => simp [bind, Except.bind, pure, Except.pure]

/-- The predicate accepts a row when the tree holds under it. -/
theorem value_truths {query : QueryFilter} {accepts : Row → Bool}
    (h : toRowFilter E allowlist query = .ok accepts) :
    (query.truths E allowlist row).value = some (accepts row) :=
  value_of_translate (combineFilters_eq_join row)
    (fun _ _ _ hrule ↦ QueryRule.truth_eq row hrule) (toRowFilter_eq_ok_iff.mp h)

/-- A filter is translated when its rules are. -/
theorem exists_toRowFilter_iff {query : QueryFilter} :
    (∃ accepts, toRowFilter E allowlist query = .ok accepts) ↔
      ∀ rule ∈ query.tree.rules, ∃ predicate,
        ruleToRowPredicate E allowlist rule = .ok predicate := by
  rw [← @exists_translate_iff _ _ _ (ruleToRowPredicate E allowlist) combineFilters]
  simp only [toRowFilter_eq_ok_iff]
  constructor
  · rintro ⟨accepts, haccepts⟩
    exact ⟨some accepts, haccepts⟩
  · rintro ⟨condition, hcondition⟩
    obtain ⟨predicates, -, rfl⟩ := translate_group_ok_iff.mp hcondition
    exact ⟨_, hcondition⟩

/-- The tree of the filter without its incomplete rules. -/
theorem truths_prune (query : QueryFilter) :
    query.prune.truths E allowlist row = (query.truths E allowlist row).prune Option.isNone := by
  rw [QueryFilter.truths, QueryFilter.tree_prune, QueryFilter.truths, Node.prune_map,
    QueryRule.isNone_truth]

/-- **What the incomplete rules change on a row.** Without them the filter is translated still, and
it accepts the row alike unless the tree hinges on a group of incomplete rules. -/
theorem toRowFilter_prune {query : QueryFilter} {accepts : Row → Bool}
    (h : toRowFilter E allowlist query = .ok accepts) :
    ∃ accepts', toRowFilter E allowlist query.prune = .ok accepts' ∧
      ∀ row, accepts' row = accepts row ↔ ¬(query.truths E allowlist row).Opened := by
  have hrules := exists_toRowFilter_iff.mp ⟨accepts, h⟩
  obtain ⟨accepts', haccepts'⟩ := (@exists_toRowFilter_iff _ _ query.prune).mpr fun rule hrule ↦
    hrules rule (Node.rules_prune_subset query.tree hrule)
  refine ⟨accepts', haccepts', fun row ↦ ?_⟩
  have hvalue := value_truths row h
  have hpruned := value_truths row haccepts'
  rw [truths_prune] at hpruned
  rw [← Option.some_inj, ← hvalue, ← hpruned]
  exact Node.value_prune_group_eq_iff _ _

end Truth

/-! ## Filters of a shape -/

/-- The incomplete rules change nothing: without them, and without the groups that have no other
rule, the predicate accepts the same rows. -/
def QueryFilter.IncompleteNeutral (query : QueryFilter) : Prop :=
  ∀ (E : Environment) (allowlist : FieldAllowlist) (accepts : Row → Bool),
    toRowFilter E allowlist query = .ok accepts → ∃ accepts',
      toRowFilter E allowlist query.prune = .ok accepts' ∧ ∀ row, accepts' row = accepts row

theorem QueryFilter.Guarded.incompleteNeutral {query : QueryFilter} (h : query.Guarded) :
    query.IncompleteNeutral := by
  intro E allowlist accepts haccepts
  obtain ⟨accepts', haccepts', hrow⟩ := toRowFilter_prune haccepts
  refine ⟨accepts', haccepts', fun row ↦ (hrow row).mpr ?_⟩
  exact Node.not_opened_of_guarded ((query.guarded_truths E allowlist row).mpr h)

/-- A rule that says this of the empty row. -/
def ruleSaying : Option Bool → QueryRule
  | none => ⟨"startTime", .compare .eq, .string ""⟩
  | some true => ⟨"startTime", .null, .null⟩
  | some false => ⟨"startTime", .notNull, .null⟩

theorem isLeftOut_ruleSaying (b : Option Bool) : (ruleSaying b).isLeftOut = b.isNone := by
  revert b
  decide

theorem ruleToRowPredicate_ruleSaying (b : Option Bool) : ∃ predicate,
    ruleToRowPredicate isoEnvironment startTimeAllowlist (ruleSaying b) = .ok predicate ∧
      predicate.map (fun accepts ↦ accepts []) = b := by
  cases b with
  | none => exact ⟨none, rfl, rfl⟩
  | some b =>
    cases b with
    | true => exact ⟨_, rfl, rfl⟩
    | false => exact ⟨_, rfl, rfl⟩

/-- Any tree of truths is that of a filter on the empty row. -/
theorem exists_query (c : Combinator) (nodes : List (Node (Option Bool))) :
    ∃ query : QueryFilter, query.tree = (Node.group c nodes).map ruleSaying ∧
      query.truths isoEnvironment startTimeAllowlist [] = .group c nodes ∧
      ∃ accepts, toRowFilter isoEnvironment startTimeAllowlist query = .ok accepts := by
  refine ⟨⟨c, Node.mapAll ruleSaying nodes⟩, rfl, ?_, exists_toRowFilter_iff.mpr ?_⟩
  · have hsaying : QueryRule.truth isoEnvironment startTimeAllowlist [] ∘ ruleSaying = id := by
      funext b
      obtain ⟨predicate, hpredicate, hb⟩ := ruleToRowPredicate_ruleSaying b
      exact (QueryRule.truth_eq [] hpredicate).trans hb
    exact (Node.map_map _ _ (.group c nodes)).trans (hsaying ▸ Node.map_id _)
  · intro rule hrule
    obtain ⟨b, rfl⟩ := @Node.exists_of_mem_rules_map _ _ ruleSaying (.group c nodes) rule hrule
    obtain ⟨predicate, hpredicate, -⟩ := ruleToRowPredicate_ruleSaying b
    exact ⟨predicate, hpredicate⟩

/-- A shape that is not guarded has a filter whose incomplete rules matter. -/
theorem exists_not_incompleteNeutral {query : QueryFilter} (h : ¬query.Guarded) :
    ∃ query' : QueryFilter, query'.SameShape query ∧ ¬query'.IncompleteNeutral := by
  obtain ⟨filled, hshape, hopened⟩ := Node.exists_opened h
  cases filled with
  | rule b => cases hshape
  | group c nodes =>
    obtain ⟨query', htree, htruths, accepts, haccepts⟩ := exists_query c nodes
    refine ⟨query', ?_, fun hneutral ↦ ?_⟩
    · rw [QueryFilter.SameShape, htree, Node.map_map, ← hshape]
      exact congrArg (fun f ↦ Node.map f _) (funext isLeftOut_ruleSaying)
    · obtain ⟨accepts', haccepts', hrow⟩ := hneutral _ _ accepts haccepts
      obtain ⟨accepts'', haccepts'', hiff⟩ := toRowFilter_prune haccepts
      obtain rfl := Except.ok.inj (haccepts'.symm.trans haccepts'')
      exact (hiff []).mp (hrow []) (htruths ▸ hopened)

/-- **The incomplete rules of a filter.** Without them the filter accepts a row alike exactly when it
does not hinge on a group of incomplete rules there; and they change nothing in the filters of a
shape exactly when no `or` of it has such a group beside something complete. -/
theorem toRowFilter_prune_iff (query : QueryFilter) :
    (∀ (E : Environment) (allowlist : FieldAllowlist) (accepts : Row → Bool),
      toRowFilter E allowlist query = .ok accepts → ∃ accepts',
        toRowFilter E allowlist query.prune = .ok accepts' ∧
          ∀ row, accepts' row = accepts row ↔ ¬(query.truths E allowlist row).Opened) ∧
    ((∀ query' : QueryFilter, query'.SameShape query → query'.IncompleteNeutral) ↔
      query.Guarded) := by
  refine ⟨fun E allowlist accepts h ↦ toRowFilter_prune h, ?_, ?_⟩
  · intro hneutral
    by_contra hguarded
    obtain ⟨query', hshape, hnot⟩ := exists_not_incompleteNeutral hguarded
    exact hnot (hneutral query' hshape)
  · intro hguarded query' hshape
    exact (hshape.guarded_iff.mpr hguarded).incompleteNeutral

/-! ### An alternative under construction -/

/-- `startTime is not null or (startTime = …)`, with the second alternative still to be filled in. -/
def startedOrUnfinished : QueryFilter :=
  ⟨.or, [.rule ⟨"startTime", .notNull, .null⟩,
    .group .and [.rule ⟨"startTime", .compare .eq, .string ""⟩]]⟩

/-- A downtime without a start passes the filter; it does not without the unfinished rule. -/
theorem not_incompleteNeutral :
    ¬ ∀ query : QueryFilter, query.Accepted → query.IncompleteNeutral := by
  intro h
  have haccepted : startedOrUnfinished.Accepted := by
    refine ⟨by simp [startedOrUnfinished, Node.Bounded, Node.AllBounded], fun rule hrule ↦ ?_⟩
    simp only [startedOrUnfinished, Node.allRules, Node.rules, List.append_nil, List.cons_append,
      List.nil_append, List.mem_cons, List.not_mem_nil, or_false] at hrule
    obtain rfl | rfl := hrule
    · exact ⟨by decide, trivial⟩
    · exact ⟨by decide, trivial⟩
  obtain ⟨accepts', haccepts', hrow⟩ :=
    h startedOrUnfinished haccepted isoEnvironment startTimeAllowlist _ rfl
  obtain rfl := Except.ok.inj haccepts'
  have hsides : false = true := hrow []
  exact Bool.false_ne_true hsides

end QueryFilters

end RwServer
