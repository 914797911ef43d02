import Mathlib
import RwServer.Reports.CycleFilters
import RwServer.Reports.IncompleteRules

/-!
# The cycle log's filter and the `where` clause

`buildCycleFilterSql` agrees with `toPrismaWhere` on a filter and a row when the clause is built and
the log shows the row exactly when the row satisfies the clause. It does not always: the clause
leaves an incomplete rule out, where the condition compares with the empty text; it splits a text at
its commas, where the condition of a list is false and that of a range true; and the database may
read another value in a text than the language does.

`RuleCondition` is what a rule has to meet on its own. A rule that is left out has its place in the
condition all the same, where it is true; so beside one every other rule has to be true too. This is
exactly what the filters made of some rules need (`cycleFilters_agree_iff`).
-/

namespace RwServer

namespace QueryFilters

open FilterTree JsNumber

/-! ## Outcomes -/

section Outcomes

variable (E : SqlEnvironment) (row : CycleRow)

/-- What an expression says of a row; nothing where the database refuses it. -/
def SqlExpression.outcome (expression : SqlExpression) : Option Bool :=
  if expression.accepted E row then some (expression.holds E row) else none

/-- What a clause says of a row; nothing where Prisma refuses it. -/
def PrismaWhere.outcome (condition : PrismaWhere) : Option Bool :=
  if condition.acceptedInLog E row then some (condition.holdsInLog E row) else none

/-- The filters agree: there is a clause, and the log shows the row when the row satisfies it. -/
def CycleFiltersAgree (query : QueryFilter) : Prop :=
  ∃ condition, toPrismaWhere E.toEnvironment cycleAllowlist query = .ok condition ∧
    cycleSearchAccepts E row (some query) =
      (condition.acceptedInLog E row && condition.holdsInLog E row)

/-- A rule and its clause say the same. A rule that is left out has to be true. -/
def RuleMatches (rule : QueryRule) : Prop :=
  match ruleToPrisma E.toEnvironment cycleAllowlist rule with
  | .error _ => False
  | .ok none => (termToSql E.toEnvironment rule).outcome E row = some true
  | .ok (some condition) =>
    (termToSql E.toEnvironment rule).outcome E row = condition.outcome E row

variable {E row}

theorem SqlExpression.outcome_literal (b : Bool) : (literal b).outcome E row = some b := by
  cases b <;> rfl

/-- A comparison with null is as good as false. -/
theorem SqlExpression.outcome_term (field : CycleField) (test : SqlTest) :
    (term (.column field) test).outcome E row =
      (test.onCell E field.columnType (row.cell field)).map (· == some true) := by
  rw [outcome, accepted, holds, truth, SqlOperand.test]
  cases test.onCell E field.columnType (row.cell field) <;> rfl

theorem PrismaWhere.outcome_column (field : CycleField) (condition : Condition) :
    (nestWhere ⟨[], field.name⟩ condition).outcome E row =
      condition.onCell E field.columnType (row.cell field) := by
  have hcolumn : condition.onColumn E row field.name =
      condition.onCell E field.columnType (row.cell field) := by
    rw [Condition.onColumn, CycleField.ofName_name]
    rfl
  show (column field.name condition).outcome E row = _
  rw [outcome, acceptedInLog, holdsInLog, hcolumn]
  obtain _ | _ | _ := condition.onCell E field.columnType (row.cell field) <;> rfl

theorem PrismaWhere.outcome_all (low high : PrismaWhere) :
    (all [low, high]).outcome E row = do
      let low ← low.outcome E row
      let high ← high.outcome E row
      return low && high := by
  simp only [outcome, acceptedInLog, allAcceptedInLog, holdsInLog, allHoldInLog, Bool.and_true]
  cases low.acceptedInLog E row <;> cases high.acceptedInLog E row <;> rfl

theorem PrismaWhere.outcome_any (low high : PrismaWhere) :
    (any [low, high]).outcome E row = do
      let low ← low.outcome E row
      let high ← high.outcome E row
      return low || high := by
  simp only [outcome, acceptedInLog, allAcceptedInLog, holdsInLog, anyHoldsInLog, Bool.and_true,
    Bool.or_false]
  cases low.acceptedInLog E row <;> cases high.acceptedInLog E row <;> rfl

end Outcomes

/-! ## Groups -/

section Groups

variable {E : SqlEnvironment} {row : CycleRow}

theorem sqlAnd_eq_true_iff {truths : List (Option Bool)} :
    sqlAnd truths = some true ↔ ∀ truth ∈ truths, truth = some true := by
  unfold sqlAnd
  split_ifs with hfalse hnone
  · exact iff_of_false (by simp) fun h ↦ nomatch h _ hfalse
  · exact iff_of_false (by simp) fun h ↦ nomatch h _ hnone
  · refine iff_of_true rfl fun truth htruth ↦ ?_
    obtain _ | _ | _ := truth
    exacts [absurd htruth hnone, absurd htruth hfalse, rfl]

theorem sqlOr_eq_true_iff {truths : List (Option Bool)} :
    sqlOr truths = some true ↔ ∃ truth ∈ truths, truth = some true := by
  unfold sqlOr
  split_ifs with htrue hnone
  · simpa using htrue
  · simpa using htrue
  · simpa using htrue

theorem truths_eq_map (parts : List SqlExpression) :
    SqlExpression.truths E row parts = parts.map (SqlExpression.truth E row) := by
  induction parts with
  | nil => rfl
  | cons part parts ih => rw [SqlExpression.truths, ih, List.map_cons]

theorem allAccepted_iff {parts : List SqlExpression} :
    SqlExpression.allAccepted E row parts = true ↔
      ∀ part ∈ parts, part.accepted E row = true := by
  induction parts with
  | nil => simp [SqlExpression.allAccepted]
  | cons part parts ih =>
    rw [SqlExpression.allAccepted, Bool.and_eq_true, ih, List.forall_mem_cons]

/-- The database takes a group when it takes its parts. -/
theorem accepted_joinSql (c : Combinator) (parts : List SqlExpression) :
    (joinSql c parts).accepted E row = true ↔ ∀ part ∈ parts, part.accepted E row = true := by
  cases parts with
  | nil => simp [joinSql, SqlExpression.accepted]
  | cons part parts => exact allAccepted_iff

/-- A group keeps the rows its parts keep: what is not true is not kept, whether false or not. -/
theorem holds_joinSql (c : Combinator) (parts : List SqlExpression) :
    (joinSql c parts).holds E row = Node.join c (parts.map (SqlExpression.holds E row)) := by
  cases parts with
  | nil => cases c <;> rfl
  | cons part parts =>
    cases c with
    | and =>
      show (sqlAnd (SqlExpression.truths E row (part :: parts)) == some true) = _
      rw [truths_eq_map, Bool.eq_iff_iff, beq_iff_eq, sqlAnd_eq_true_iff]
      simp [Node.join, SqlExpression.holds]
    | or =>
      show (sqlOr (SqlExpression.truths E row (part :: parts)) == some true) = _
      rw [truths_eq_map, Bool.eq_iff_iff, beq_iff_eq, sqlOr_eq_true_iff]
      simp [Node.join, SqlExpression.holds, eq_comm (a := some true)]

/-- The expression of a tree is its translation from the leaves up. -/
theorem translate_walkQueryToSql (E : Environment) (node : Node QueryRule) :
    translate (fun rule ↦ (.ok (some (termToSql E rule)) : Except Empty _)) joinSql node =
      .ok (some (walkQueryToSql E node)) := by
  induction node using Node.induction with
  | rule rule => rfl
  | group c nodes ih =>
    have hnodes : translateAll (fun rule ↦ (.ok (some (termToSql E rule)) : Except Empty _)) joinSql
        nodes = .ok (walkAllToSql E nodes) := by
      induction nodes with
      | nil => rfl
      | cons node nodes ihnodes =>
        obtain ⟨hnode, hnodes⟩ := List.forall_mem_cons.mp ih
        exact translateAll_cons_ok_iff.mpr ⟨_, _, hnode, ihnodes hnodes, rfl⟩
    exact translate_group_ok_iff.mpr ⟨_, hnodes, rfl⟩

theorem allAcceptedInLog_iff {conditions : List PrismaWhere} :
    PrismaWhere.allAcceptedInLog E row conditions = true ↔
      ∀ condition ∈ conditions, condition.acceptedInLog E row = true := by
  induction conditions with
  | nil => simp [PrismaWhere.allAcceptedInLog]
  | cons condition conditions ih =>
    rw [PrismaWhere.allAcceptedInLog, Bool.and_eq_true, ih, List.forall_mem_cons]

theorem allHoldInLog_eq_all (conditions : List PrismaWhere) :
    PrismaWhere.allHoldInLog E row conditions =
      conditions.all (PrismaWhere.holdsInLog E row) := by
  induction conditions with
  | nil => rfl
  | cons condition conditions ih => rw [PrismaWhere.allHoldInLog, ih, List.all_cons]

theorem anyHoldsInLog_eq_any (conditions : List PrismaWhere) :
    PrismaWhere.anyHoldsInLog E row conditions =
      conditions.any (PrismaWhere.holdsInLog E row) := by
  induction conditions with
  | nil => rfl
  | cons condition conditions ih => rw [PrismaWhere.anyHoldsInLog, ih, List.any_cons]

theorem acceptedInLog_combineWhere (c : Combinator) (conditions : List PrismaWhere) :
    (combineWhere c conditions).acceptedInLog E row = true ↔
      ∀ condition ∈ conditions, condition.acceptedInLog E row = true := by
  obtain _ | ⟨condition, _ | ⟨condition', conditions⟩⟩ := conditions
  · simp [combineWhere, PrismaWhere.acceptedInLog]
  · simp [combineWhere]
  · cases c <;> exact allAcceptedInLog_iff

theorem holdsInLog_combineWhere (c : Combinator) (conditions : List PrismaWhere) :
    (combineWhere c conditions).holdsInLog E row =
      Node.join c (conditions.map (PrismaWhere.holdsInLog E row)) := by
  obtain _ | ⟨condition, _ | ⟨condition', conditions⟩⟩ := conditions
  · cases c <;> rfl
  · cases c <;> simp [combineWhere, Node.join]
  · cases c with
    | and =>
      show PrismaWhere.allHoldInLog E row _ = _
      rw [allHoldInLog_eq_all]
      simp [Node.join]
    | or =>
      show PrismaWhere.anyHoldsInLog E row _ = _
      rw [anyHoldsInLog_eq_any]
      simp [Node.join]

end Groups

/-! ## What a rule has to meet -/

/-- Two readings of a rule say the same of a column: both are refused, or the test comes out the
same on the value that is there. -/
def AlikeOn {α β : Type} (cell : Option α) (test : α → β → Bool) : Option β → Option β → Prop
  | none, none => True
  | some b, some b' => ∀ x ∈ cell, test x b = test x b'
  | _, _ => False

section Conditions

variable (E : SqlEnvironment) (field : CycleField) (row : CycleRow)

namespace ColumnType

/-- The value of a column the clause makes of a rule's value. -/
def coerced (type : ColumnType) (w : QueryFilters.Value) : Option type.Value :=
  (coerce E.toEnvironment w (some type.fieldType)).inColumn type

/-- The same, for a comparison. -/
def ordered (type : ColumnType) (c : Comparison) (w : QueryFilters.Value) : Option type.Value :=
  (coerce E.toEnvironment w (some type.fieldType)).inOrder type c

/-- A range the database reads in two parameters. -/
def readRange (type : ColumnType) (low high : Scalar) : Option (type.Value × type.Value) := do
  let low ← type.read E (low.parameter E)
  let high ← type.read E (high.parameter E)
  return (low, high)

/-- The range the clause makes of two values. Prisma has none of statuses. -/
def orderedRange (type : ColumnType) (low high : QueryFilters.Value) :
    Option (type.Value × type.Value) := do
  let low ← type.ordered E .ge low
  let high ← type.ordered E .le high
  return (low, high)

end ColumnType

/-- What a complete rule says of the row with its value read as the clause reads it; nothing where
that is refused. -/
def QueryRule.verdict (rule : QueryRule) : Option Bool :=
  let type := field.columnType
  let cell := row.cell field
  match rule.operator with
  | .null => some cell.isNone
  | .notNull => some cell.isSome
  | .compare c => (type.ordered E c rule.value).map fun y ↦
      cell.any fun x ↦ c.test (type.compare E x y)
  | .contains => (likeCell E type cell
      ("%" ++ rule.value.toText E.toEnvironment ++ "%")).map (· == some true)
  | .beginsWith => (likeCell E type cell
      (rule.value.toText E.toEnvironment ++ "%")).map (· == some true)
  | .isIn => ((toArray rule.value).mapM (type.coerced E)).map fun ys ↦
      cell.any fun x ↦ type.among E x ys
  | .notIn => ((toArray rule.value).mapM (type.coerced E)).map fun ys ↦
      cell.any fun x ↦ !type.among E x ys
  | .between =>
    match toBetweenPair rule.value with
    | .ok (low, high) => (type.orderedRange E low high).map fun range ↦
        cell.any fun x ↦ type.within E x range
    | .error _ => none
  | .notBetween =>
    match toBetweenPair rule.value with
    | .ok (low, high) => (type.orderedRange E low high).map fun range ↦
        cell.any fun x ↦ !type.within E x range
    | .error _ => none

/-- **What a rule has to meet** on its own. The condition of a list is constant but for an array,
that of a range but for an array of two. A rule that is left out is compared nevertheless. -/
def CycleRuleCondition (rule : QueryRule) : Prop :=
  let type := field.columnType
  let cell := row.cell field
  match rule.operator with
  | .null => True
  | .notNull => True
  | .compare c =>
    if rule.isLeftOut then ∃ s ∈ rule.value.parameter E, ∃ y ∈ type.read E s, ∃ x ∈ cell,
      c.test (type.compare E x y) = true
    else AlikeOn cell (fun x y ↦ c.test (type.compare E x y))
      ((rule.value.parameter E).bind (type.read E)) (type.ordered E c rule.value)
  | .contains => rule.isLeftOut = true →
      likeCell E type cell ("%" ++ rule.value.toText E.toEnvironment ++ "%") = some (some true)
  | .beginsWith => rule.isLeftOut = true →
      likeCell E type cell (rule.value.toText E.toEnvironment ++ "%") = some (some true)
  | .isIn => rule.isLeftOut = false ∧
    match rule.value with
    | .array elements => AlikeOn cell (type.among E)
        (elements.mapM fun v ↦ type.read E (v.parameter E))
        (elements.mapM fun v ↦ type.coerced E v.toValue)
    | _ => rule.verdict E field row = some false
  | .notIn => rule.isLeftOut = true ∨
    match rule.value with
    | .array elements => AlikeOn cell (type.among E)
        (elements.mapM fun v ↦ type.read E (v.parameter E))
        (elements.mapM fun v ↦ type.coerced E v.toValue)
    | _ => rule.verdict E field row = some true
  | _ => rule.isLeftOut = true ∨
    match rule.value with
    | .array [low, high] => AlikeOn cell (type.within E) (type.readRange E low high)
        (type.orderedRange E low.toValue high.toValue)
    | _ => rule.verdict E field row = some true

end Conditions

/-! ## One rule -/

section OneRule

variable {E : SqlEnvironment} {field : CycleField} {row : CycleRow} {rule : QueryRule}

theorem kept_map {α : Type} (cell : Option α) (test : α → Bool) :
    (cell.map test == some true) = cell.any test := by
  cases cell with
  | none => rfl
  | some x => cases h : test x <;> simp [h]

theorem map_any_eq_iff {α β : Type} {cell : Option α} {test : α → β → Bool} {r r' : Option β} :
    ((r.map fun b ↦ cell.any fun x ↦ test x b) = r'.map fun b ↦ cell.any fun x ↦ test x b) ↔
      AlikeOn cell test r r' := by
  cases r with
  | none => cases r' <;> simp [AlikeOn]
  | some b =>
    cases r' with
    | none => simp [AlikeOn]
    | some b' => cases cell <;> simp [AlikeOn]

/-- To be alike is the same for a test and for its negation. -/
theorem map_any_not_eq_iff {α β : Type} {cell : Option α} {test : α → β → Bool}
    {r r' : Option β} :
    ((r.map fun b ↦ cell.any fun x ↦ !test x b) = r'.map fun b ↦ cell.any fun x ↦ !test x b) ↔
      AlikeOn cell test r r' := by
  refine (@map_any_eq_iff α β cell (fun x b ↦ !test x b) r r').trans ?_
  cases r <;> cases r' <;> simp [AlikeOn]

/-- Two conditions on one column are a condition on the pair of what they compare it with. -/
theorem bind_map_any {α β : Type} {cell : Option α} {test test' : α → β → Bool}
    (join : Bool → Bool → Bool) (hjoin : join false false = false) (low high : Option β) :
    (do
      let a ← low.map fun y ↦ cell.any fun x ↦ test x y
      let b ← high.map fun y ↦ cell.any fun x ↦ test' x y
      return join a b) =
    (do
      let low ← low
      let high ← high
      return (low, high) : Option (β × β)).map fun range ↦
        cell.any fun x ↦ join (test x range.1) (test' x range.2) := by
  cases low with
  | none => rfl
  | some y =>
    cases high with
    | none => rfl
    | some z =>
      cases cell with
      | none => exact congrArg some hjoin
      | some x => rfl

theorem inOrder_lt {type : ColumnType} (operand : Operand) :
    operand.inOrder type .lt = operand.inOrder type .ge := by simp [Operand.inOrder]

theorem inOrder_gt {type : ColumnType} (operand : Operand) :
    operand.inOrder type .gt = operand.inOrder type .le := by simp [Operand.inOrder]

/-- Below or above a range is outside it. -/
theorem isLT_or_isGT (o o' : Ordering) : (o.isLT || o'.isGT) = !(o.isGE && o'.isLE) := by
  cases o <;> cases o' <;> rfl

theorem readField_cycle (hfield : CycleField.ofName rule.field = some field) :
    readField cycleAllowlist rule.field =
      some ⟨some ⟨[], field.name⟩, some field.columnType.fieldType⟩ := by
  rw [readField, cycleAllowlist, hfield]
  rfl

theorem cycleFieldToSql_cycle (hfield : CycleField.ofName rule.field = some field) :
    cycleFieldToSql rule.field = some (.column field) := by
  rw [cycleFieldToSql, hfield]

/-- The clause of a rule that is left out is none. -/
theorem ruleToPrisma_of_leftOut (hfield : CycleField.ofName rule.field = some field)
    (hout : rule.isLeftOut = true) :
    ruleToPrisma E.toEnvironment cycleAllowlist rule = .ok none := by
  unfold ruleToPrisma
  unfold QueryRule.isLeftOut at hout
  rw [readField_cycle hfield]
  cases hoperator : rule.operator with
  | null | notNull => simp [hoperator] at hout
  | compare c | contains | beginsWith | between | notBetween =>
    rw [hoperator] at hout
    dsimp only at hout ⊢
    rw [if_pos hout]
  | isIn | notIn =>
    rw [hoperator] at hout
    dsimp only at hout ⊢
    split_ifs with hincomplete hempty
    · rfl
    · rfl
    · simp_all

/-- The clause of a complete rule says what the rule does. Only a range has none: that of a value
which is not two. -/
theorem ruleToPrisma_of_complete (row : CycleRow)
    (hfield : CycleField.ofName rule.field = some field)
    (hcomplete : rule.isLeftOut = false) :
    (∃ condition, ruleToPrisma E.toEnvironment cycleAllowlist rule = .ok (some condition) ∧
      condition.outcome E row = rule.verdict E field row) ∨
    (∃ e, ruleToPrisma E.toEnvironment cycleAllowlist rule = .error e ∧
      toBetweenPair rule.value = .error e) ∧
      (rule.operator = .between ∨ rule.operator = .notBetween) := by
  unfold ruleToPrisma QueryRule.verdict
  unfold QueryRule.isLeftOut at hcomplete
  rw [readField_cycle hfield]
  cases hoperator : rule.operator with
  | null | notNull => exact .inl ⟨_, rfl, PrismaWhere.outcome_column field _⟩
  | compare c | contains | beginsWith =>
    rw [hoperator] at hcomplete
    dsimp only at hcomplete ⊢
    rw [if_neg (by simp [hcomplete])]
    exact .inl ⟨_, rfl, PrismaWhere.outcome_column field _⟩
  | isIn | notIn =>
    rw [hoperator, Bool.or_eq_false_iff] at hcomplete
    obtain ⟨hcomplete, hnonempty⟩ := hcomplete
    dsimp only
    rw [if_neg (by simp [hcomplete]), if_neg (by simpa using hnonempty)]
    refine .inl ⟨_, rfl, (PrismaWhere.outcome_column field _).trans ?_⟩
    rw [Condition.onCell, List.mapM_map]
    rfl
  | between =>
    rw [hoperator] at hcomplete
    dsimp only at hcomplete ⊢
    rw [if_neg (by simp [hcomplete])]
    cases hpair : toBetweenPair rule.value with
    | error e => exact .inr ⟨⟨e, rfl, rfl⟩, .inl rfl⟩
    | ok pair =>
      obtain ⟨low, high⟩ := pair
      refine .inl ⟨_, rfl, (PrismaWhere.outcome_all _ _).trans ?_⟩
      simp only [PrismaWhere.outcome_column]
      exact bind_map_any and rfl _ _
  | notBetween =>
    rw [hoperator] at hcomplete
    dsimp only at hcomplete ⊢
    rw [if_neg (by simp [hcomplete])]
    cases hpair : toBetweenPair rule.value with
    | error e => exact .inr ⟨⟨e, rfl, rfl⟩, .inr rfl⟩
    | ok pair =>
      obtain ⟨low, high⟩ := pair
      refine .inl ⟨_, rfl, (PrismaWhere.outcome_any _ _).trans ?_⟩
      simp only [PrismaWhere.outcome_column]
      refine (bind_map_any or rfl _ _).trans ?_
      simp only [Comparison.test, isLT_or_isGT, inOrder_lt, inOrder_gt]
      rfl

/-- A rule that is left out has to be true, a complete one to say what its clause does. -/
theorem ruleMatches_of_leftOut (hfield : CycleField.ofName rule.field = some field)
    (hout : rule.isLeftOut = true) :
    RuleMatches E row rule ↔ (termToSql E.toEnvironment rule).outcome E row = some true := by
  rw [RuleMatches, ruleToPrisma_of_leftOut hfield hout]

theorem ruleMatches_of_complete (hfield : CycleField.ofName rule.field = some field)
    (hcomplete : rule.isLeftOut = false) :
    RuleMatches E row rule ↔
      (termToSql E.toEnvironment rule).outcome E row = rule.verdict E field row := by
  obtain ⟨condition, hclause, hverdict⟩ | ⟨⟨e, hclause, hpair⟩, hoperator⟩ :=
    ruleToPrisma_of_complete (E := E) row hfield hcomplete
  · rw [RuleMatches, hclause, ← hverdict]
  · -- a value that is not two is in the condition as true
    have htrue : (termToSql E.toEnvironment rule).outcome E row = some true := by
      rw [termToSql, cycleFieldToSql_cycle hfield]
      obtain hoperator | hoperator := hoperator <;> rw [hoperator] <;> dsimp only <;> split
      · next hvalue => exact nomatch hvalue ▸ hpair
      · exact SqlExpression.outcome_literal true
      · next hvalue => exact nomatch hvalue ▸ hpair
      · exact SqlExpression.outcome_literal true
    have hverdict : rule.verdict E field row = none := by
      obtain hoperator | hoperator := hoperator <;>
        rw [QueryRule.verdict, hoperator, hpair]
    rw [RuleMatches, hclause, htrue, hverdict]
    simp

/-- What the condition says of a comparison. -/
theorem outcome_compare (hfield : CycleField.ofName rule.field = some field) {c : Comparison}
    (hoperator : rule.operator = .compare c) :
    (termToSql E.toEnvironment rule).outcome E row =
      match rule.value.parameter E with
      | none => some false
      | some s => (field.columnType.read E s).map fun y ↦
          (row.cell field).any fun x ↦ c.test (field.columnType.compare E x y) := by
  rw [termToSql, cycleFieldToSql_cycle hfield, hoperator]
  dsimp only
  rw [SqlExpression.outcome_term, SqlTest.onCell]
  cases rule.value.parameter E with
  | none => rfl
  | some s =>
    dsimp only
    rw [Option.map_map]
    exact congrArg (Option.map · _) (funext fun y ↦ kept_map _ _)

/-- A complete rule has a value to send. -/
theorem exists_parameter {w : Value} (h : w.isIncomplete = false) :
    ∃ s, w.parameter E = some s := by
  cases w <;> first | exact ⟨_, rfl⟩ | exact nomatch h

/-- What the condition says of a text. -/
theorem outcome_ilike (pattern : String) :
    (SqlExpression.term (.column field) (.ilike pattern)).outcome E row =
      (likeCell E field.columnType (row.cell field) pattern).map (· == some true) :=
  SqlExpression.outcome_term field _

theorem onCell_between {type : ColumnType} {cell : Option type.Value} (low high : Scalar) :
    (SqlTest.between low high).onCell E type cell =
      (type.readRange E low high).map fun range ↦ cell.map fun x ↦ type.within E x range := by
  rw [SqlTest.onCell, ColumnType.readRange]
  cases type.read E (low.parameter E) <;> cases type.read E (high.parameter E) <;> rfl

theorem onCell_notBetween {type : ColumnType} {cell : Option type.Value} (low high : Scalar) :
    (SqlTest.notBetween low high).onCell E type cell =
      (type.readRange E low high).map fun range ↦ cell.map fun x ↦ !type.within E x range := by
  rw [SqlTest.onCell, ColumnType.readRange]
  cases type.read E (low.parameter E) <;> cases type.read E (high.parameter E) <;> rfl

theorem toBetweenPair_two (low high : Scalar) :
    toBetweenPair (.array [low, high]) = .ok (low.toValue, high.toValue) := rfl

/-- A text matches or not, left out or not. -/
theorem ruleMatches_ilike_iff (hfield : CycleField.ofName rule.field = some field)
    {pattern : String}
    (hsql : termToSql E.toEnvironment rule = .term (.column field) (.ilike pattern))
    (hverdict : rule.verdict E field row =
      (likeCell E field.columnType (row.cell field) pattern).map (· == some true)) :
    RuleMatches E row rule ↔ (rule.isLeftOut = true →
      likeCell E field.columnType (row.cell field) pattern = some (some true)) := by
  cases hleft : rule.isLeftOut with
  | true =>
    rw [ruleMatches_of_leftOut hfield hleft, hsql, outcome_ilike]
    simp
  | false =>
    rw [ruleMatches_of_complete hfield hleft, hsql, outcome_ilike, hverdict]
    simp

/-- A term that is false whatever the row. -/
theorem ruleMatches_false_iff (hfield : CycleField.ofName rule.field = some field)
    (hsql : termToSql E.toEnvironment rule = .literal false) :
    RuleMatches E row rule ↔ rule.isLeftOut = false ∧ rule.verdict E field row = some false := by
  cases hleft : rule.isLeftOut with
  | true => simp [ruleMatches_of_leftOut hfield hleft, hsql, SqlExpression.outcome_literal]
  | false =>
    simp [ruleMatches_of_complete hfield hleft, hsql, SqlExpression.outcome_literal, eq_comm]

/-- A term that is true whatever the row. -/
theorem ruleMatches_true_iff (hfield : CycleField.ofName rule.field = some field)
    (hsql : termToSql E.toEnvironment rule = .literal true) :
    RuleMatches E row rule ↔ rule.isLeftOut = true ∨ rule.verdict E field row = some true := by
  cases hleft : rule.isLeftOut with
  | true => simp [ruleMatches_of_leftOut hfield hleft, hsql, SqlExpression.outcome_literal]
  | false =>
    simp [ruleMatches_of_complete hfield hleft, hsql, SqlExpression.outcome_literal, eq_comm]

theorem termToSql_isIn {name : String} {value : Value}
    (hfield : CycleField.ofName name = some field) (h : ∀ v vs, value ≠ .array (v :: vs)) :
    termToSql E.toEnvironment ⟨name, .isIn, value⟩ = .literal false := by
  simp only [termToSql, cycleFieldToSql, hfield]

theorem termToSql_notIn {name : String} {value : Value}
    (hfield : CycleField.ofName name = some field) (h : ∀ v vs, value ≠ .array (v :: vs)) :
    termToSql E.toEnvironment ⟨name, .notIn, value⟩ = .literal true := by
  simp only [termToSql, cycleFieldToSql, hfield]

theorem termToSql_between {name : String} {value : Value}
    (hfield : CycleField.ofName name = some field) (h : ∀ low high, value ≠ .array [low, high]) :
    termToSql E.toEnvironment ⟨name, .between, value⟩ = .literal true := by
  simp only [termToSql, cycleFieldToSql, hfield]

theorem termToSql_notBetween {name : String} {value : Value}
    (hfield : CycleField.ofName name = some field) (h : ∀ low high, value ≠ .array [low, high]) :
    termToSql E.toEnvironment ⟨name, .notBetween, value⟩ = .literal true := by
  simp only [termToSql, cycleFieldToSql, hfield]

/-- **A rule matches its clause exactly when it meets its condition.** -/
theorem ruleMatches_iff (hfield : CycleField.ofName rule.field = some field) :
    RuleMatches E row rule ↔ CycleRuleCondition E field row rule := by
  unfold CycleRuleCondition
  cases hoperator : rule.operator with
  | null | notNull =>
    have hcomplete : rule.isLeftOut = false := by rw [QueryRule.isLeftOut, hoperator]
    rw [ruleMatches_of_complete hfield hcomplete, termToSql, cycleFieldToSql_cycle hfield,
      QueryRule.verdict, hoperator]
    dsimp only
    rw [SqlExpression.outcome_term, SqlTest.onCell]
    cases row.cell field <;> simp
  | compare c =>
    have hout : rule.isLeftOut = rule.value.isIncomplete := by rw [QueryRule.isLeftOut, hoperator]
    dsimp only
    split_ifs with hleft
    · rw [ruleMatches_of_leftOut hfield hleft, outcome_compare hfield hoperator]
      cases rule.value.parameter E with
      | none => simp
      | some s => simp [Option.any_eq_true]
    · rw [Bool.not_eq_true] at hleft
      obtain ⟨s, hs⟩ := exists_parameter (E := E) (hout.symm.trans hleft)
      rw [ruleMatches_of_complete hfield hleft, outcome_compare hfield hoperator,
        QueryRule.verdict, hoperator, hs]
      exact map_any_eq_iff
  | contains =>
    refine ruleMatches_ilike_iff hfield ?_ ?_
    · rw [termToSql, cycleFieldToSql_cycle hfield, hoperator]
    · rw [QueryRule.verdict, hoperator]
  | beginsWith =>
    refine ruleMatches_ilike_iff hfield ?_ ?_
    · rw [termToSql, cycleFieldToSql_cycle hfield, hoperator]
    · rw [QueryRule.verdict, hoperator]
  | isIn =>
    obtain ⟨name, operator, value⟩ := rule
    obtain rfl : operator = .isIn := hoperator
    dsimp only
    cases value with
    | array elements =>
      cases elements with
      | nil =>
        rw [ruleMatches_false_iff hfield (termToSql_isIn hfield (by simp))]
        simp [QueryRule.isLeftOut, toArray, Value.isIncomplete, Value.isNullish]
      | cons v vs =>
        rw [ruleMatches_of_complete hfield rfl, termToSql, cycleFieldToSql_cycle hfield]
        simp only [SqlExpression.outcome_term, SqlTest.onCell, QueryRule.verdict, Option.map_map,
          Function.comp_def, kept_map, toArray, List.mapM_map]
        rw [map_any_eq_iff]
        simp [QueryRule.isLeftOut, toArray, Value.isIncomplete, Value.isNullish]
    | _ => exact ruleMatches_false_iff hfield (termToSql_isIn hfield (by simp))
  | notIn =>
    obtain ⟨name, operator, value⟩ := rule
    obtain rfl : operator = .notIn := hoperator
    dsimp only
    cases value with
    | array elements =>
      cases elements with
      | nil =>
        rw [ruleMatches_true_iff hfield (termToSql_notIn hfield (by simp))]
        simp [QueryRule.isLeftOut, toArray, Value.isIncomplete, Value.isNullish]
      | cons v vs =>
        rw [ruleMatches_of_complete hfield rfl, termToSql, cycleFieldToSql_cycle hfield]
        simp only [SqlExpression.outcome_term, SqlTest.onCell, QueryRule.verdict, Option.map_map,
          Function.comp_def, kept_map, toArray, List.mapM_map]
        rw [map_any_not_eq_iff]
        simp [QueryRule.isLeftOut, toArray, Value.isIncomplete, Value.isNullish]
    | _ => exact ruleMatches_true_iff hfield (termToSql_notIn hfield (by simp))
  | between =>
    obtain ⟨name, operator, value⟩ := rule
    obtain rfl : operator = .between := hoperator
    dsimp only
    cases value with
    | array elements =>
      obtain _ | ⟨low, _ | ⟨high, _ | ⟨v, vs⟩⟩⟩ := elements
      · exact ruleMatches_true_iff hfield (termToSql_between hfield (by simp))
      · exact ruleMatches_true_iff hfield (termToSql_between hfield (by simp))
      · rw [ruleMatches_of_complete hfield rfl, termToSql, cycleFieldToSql_cycle hfield]
        simp only [SqlExpression.outcome_term, onCell_between, QueryRule.verdict, Option.map_map,
          Function.comp_def, kept_map, toBetweenPair_two]
        rw [map_any_eq_iff]
        simp [QueryRule.isLeftOut, Value.isIncomplete, Value.isNullish]
      · exact ruleMatches_true_iff hfield (termToSql_between hfield (by simp))
    | _ => exact ruleMatches_true_iff hfield (termToSql_between hfield (by simp))
  | notBetween =>
    obtain ⟨name, operator, value⟩ := rule
    obtain rfl : operator = .notBetween := hoperator
    dsimp only
    cases value with
    | array elements =>
      obtain _ | ⟨low, _ | ⟨high, _ | ⟨v, vs⟩⟩⟩ := elements
      · exact ruleMatches_true_iff hfield (termToSql_notBetween hfield (by simp))
      · exact ruleMatches_true_iff hfield (termToSql_notBetween hfield (by simp))
      · rw [ruleMatches_of_complete hfield rfl, termToSql, cycleFieldToSql_cycle hfield]
        simp only [SqlExpression.outcome_term, onCell_notBetween, QueryRule.verdict, Option.map_map,
          Function.comp_def, kept_map, toBetweenPair_two]
        rw [map_any_not_eq_iff]
        simp [QueryRule.isLeftOut, Value.isIncomplete, Value.isNullish]
      · exact ruleMatches_true_iff hfield (termToSql_notBetween hfield (by simp))
    | _ => exact ruleMatches_true_iff hfield (termToSql_notBetween hfield (by simp))

end OneRule

/-! ## Filters -/

section Filters

variable {E : SqlEnvironment} {row : CycleRow}

theorem toPrismaWhere_eq_ok_iff {E : Environment} {allowlist : FieldAllowlist} {query : QueryFilter}
    {condition : PrismaWhere} :
    toPrismaWhere E allowlist query = .ok condition ↔
      translate (ruleToPrisma E allowlist) combineWhere query.tree = .ok (some condition) := by
  rw [QueryFilter.tree, translate_group_ok_iff, toPrismaWhere]
  cases translateAll (ruleToPrisma E allowlist) combineWhere query.rules with
  | error e => simp [bind, Except.bind]
  | ok conditions => simp [bind, Except.bind, pure, Except.pure]

theorem SqlExpression.outcome_eq_some_iff {expression : SqlExpression} {b : Bool} :
    expression.outcome E row = some b ↔
      expression.accepted E row = true ∧ expression.holds E row = b := by
  rw [outcome]
  split_ifs with haccepted <;> simp [haccepted]

theorem PrismaWhere.outcome_eq_some_iff {condition : PrismaWhere} {b : Bool} :
    condition.outcome E row = some b ↔
      condition.acceptedInLog E row = true ∧ condition.holdsInLog E row = b := by
  rw [outcome]
  split_ifs with haccepted <;> simp [haccepted]

/-- The database takes a filter when it takes the terms of its rules. -/
theorem accepted_walkQueryToSql (node : Node QueryRule) :
    (walkQueryToSql E.toEnvironment node).accepted E row = true ↔
      ∀ rule ∈ node.rules, (termToSql E.toEnvironment rule).accepted E row = true := by
  let good (part : SqlExpression) : Prop := part.accepted E row = true
  have hcombine : ∀ c parts, good (joinSql c parts) ↔ ∀ part ∈ parts, good part :=
    accepted_joinSql
  have hwalk := forall_of_translate hcombine (translate_walkQueryToSql E.toEnvironment node)
  simpa [good] using hwalk

/-- Prisma takes a clause when it takes the clauses of the rules. -/
theorem acceptedInLog_of_translate {node : Node QueryRule} {condition : PrismaWhere}
    (h : translate (ruleToPrisma E.toEnvironment cycleAllowlist) combineWhere node =
      .ok (some condition)) :
    condition.acceptedInLog E row = true ↔ ∀ rule ∈ node.rules, ∀ a,
      ruleToPrisma E.toEnvironment cycleAllowlist rule = .ok (some a) →
        a.acceptedInLog E row = true := by
  let good (condition : PrismaWhere) : Prop := condition.acceptedInLog E row = true
  have hcombine : ∀ c conditions, good (combineWhere c conditions) ↔
      ∀ condition ∈ conditions, good condition := acceptedInLog_combineWhere
  have hclause := forall_of_translate hcombine h
  simpa [good] using hclause

section Matching

variable {rule : QueryRule} {field : CycleField}

/-- A rule that matches is taken on both sides or on neither. -/
theorem RuleMatches.accepted_iff (h : RuleMatches E row rule) :
    (termToSql E.toEnvironment rule).accepted E row = true ↔ ∀ a,
      ruleToPrisma E.toEnvironment cycleAllowlist rule = .ok (some a) →
        a.acceptedInLog E row = true := by
  rw [RuleMatches] at h
  cases hclause : ruleToPrisma E.toEnvironment cycleAllowlist rule with
  | error e => simp [hclause] at h
  | ok condition =>
    rw [hclause] at h
    cases condition with
    | none => exact iff_of_true (SqlExpression.outcome_eq_some_iff.mp h).1 fun a ha ↦ nomatch ha
    | some condition =>
      have hsome := congrArg Option.isSome h
      simp only [SqlExpression.outcome, PrismaWhere.outcome] at hsome
      split_ifs at hsome <;> simp_all

/-- A rule that matches holds on both sides or on neither, once taken. -/
theorem RuleMatches.holds_eq (h : RuleMatches E row rule)
    (haccepted : (termToSql E.toEnvironment rule).accepted E row = true)
    {condition : Option PrismaWhere}
    (hclause : ruleToPrisma E.toEnvironment cycleAllowlist rule = .ok condition) :
    (termToSql E.toEnvironment rule).holds E row =
      (condition.map (PrismaWhere.holdsInLog E row)).getD true := by
  rw [RuleMatches, hclause] at h
  cases condition with
  | none => exact (SqlExpression.outcome_eq_some_iff.mp h).2
  | some condition =>
    rw [SqlExpression.outcome_eq_some_iff.mpr ⟨haccepted, rfl⟩] at h
    exact (PrismaWhere.outcome_eq_some_iff.mp (Eq.symm h)).2.symm

end Matching

/-- The truth of the terms carries over to the condition. -/
theorem value_holds (row : CycleRow) (node : Node QueryRule) (truth : QueryRule → Option Bool)
    (htruth : ∀ rule ∈ node.rules,
      truth rule = some ((termToSql E.toEnvironment rule).holds E row)) :
    (node.map truth).value = some ((walkQueryToSql E.toEnvironment node).holds E row) := by
  refine value_of_translate holds_joinSql (fun rule hrule condition hcondition ↦ ?_)
    (translate_walkQueryToSql E.toEnvironment node)
  obtain rfl := Except.ok.inj hcondition
  exact htruth rule hrule

/-- The truth of the rules carries over to the clause. -/
theorem value_holdsInLog (row : CycleRow) {node : Node QueryRule} {condition : PrismaWhere}
    (h : translate (ruleToPrisma E.toEnvironment cycleAllowlist) combineWhere node =
      .ok (some condition)) (truth : QueryRule → Option Bool)
    (htruth : ∀ rule ∈ node.rules, ∀ condition,
      ruleToPrisma E.toEnvironment cycleAllowlist rule = .ok condition →
        truth rule = condition.map (PrismaWhere.holdsInLog E row)) :
    (node.map truth).value = some (condition.holdsInLog E row) :=
  value_of_translate holdsInLog_combineWhere htruth h

/-- A condition of true terms is true. -/
theorem holds_of_terms {node : Node QueryRule}
    (h : ∀ rule ∈ node.rules, (termToSql E.toEnvironment rule).holds E row = true) :
    (walkQueryToSql E.toEnvironment node).holds E row = true := by
  have hvalue := value_holds (E := E) row node (Node.fillRule (fun _ ↦ false) true)
    fun rule hrule ↦ by rw [h rule hrule]; rfl
  have hfill : (node.map (Node.fillRule (fun _ ↦ false) true)).value ≠ some false :=
    Node.value_fill_true node
  rw [hvalue] at hfill
  simpa using hfill

/-- The rule has no clause. -/
def QueryRule.clauseless (E : Environment) (rule : QueryRule) : Bool :=
  match ruleToPrisma E cycleAllowlist rule with
  | .ok (some _) => false
  | _ => true

/-- A clause of true clauses is true. -/
theorem holdsInLog_of_clauses {node : Node QueryRule} {condition : PrismaWhere}
    (hclause : translate (ruleToPrisma E.toEnvironment cycleAllowlist) combineWhere node =
      .ok (some condition))
    (h : ∀ rule ∈ node.rules, ∀ a,
      ruleToPrisma E.toEnvironment cycleAllowlist rule = .ok (some a) →
        a.holdsInLog E row = true) :
    condition.holdsInLog E row = true := by
  have hvalue := value_holdsInLog row hclause
    (Node.fillRule (QueryRule.clauseless E.toEnvironment) true) fun rule hrule condition hrule' ↦ by
      rw [Node.fillRule, QueryRule.clauseless, hrule']
      cases condition with
      | none => rfl
      | some a => simp [h rule hrule a hrule']
  have hfill : (node.map (Node.fillRule (QueryRule.clauseless E.toEnvironment) true)).value ≠
      some false := Node.value_fill_true node
  rw [hvalue] at hfill
  simpa using hfill

/-- **Agreement on the rules is agreement on the filter**, when a rule is left out beside true ones
alone: it takes part in the condition as true, and in the clause not at all. -/
theorem cycleFiltersAgree_of_rules {query : QueryFilter}
    (hmatch : ∀ rule ∈ query.tree.rules, RuleMatches E row rule)
    (hbeside : ∀ left ∈ query.tree.rules,
      ruleToPrisma E.toEnvironment cycleAllowlist left = .ok none →
        ∀ rule ∈ query.tree.rules, (termToSql E.toEnvironment rule).accepted E row = true →
          (termToSql E.toEnvironment rule).holds E row = true) :
    CycleFiltersAgree E row query := by
  obtain ⟨condition, h⟩ : ∃ condition, translate (ruleToPrisma E.toEnvironment cycleAllowlist)
      combineWhere query.tree = .ok condition := by
    refine (exists_translate_iff _).mpr fun rule hrule ↦ ?_
    have hrule := hmatch rule hrule
    rw [RuleMatches] at hrule
    cases hclause : ruleToPrisma E.toEnvironment cycleAllowlist rule with
    | error e => simp [hclause] at hrule
    | ok condition => exact ⟨condition, rfl⟩
  obtain ⟨conditions, -, rfl⟩ := translate_group_ok_iff.mp h
  refine ⟨_, toPrismaWhere_eq_ok_iff.mpr h, ?_⟩
  have haccepted : (walkQueryToSql E.toEnvironment query.tree).accepted E row =
      (combineWhere query.combinator conditions).acceptedInLog E row := by
    rw [Bool.eq_iff_iff, accepted_walkQueryToSql, acceptedInLog_of_translate h]
    exact forall₂_congr fun rule hrule ↦ (hmatch rule hrule).accepted_iff
  show ((walkQueryToSql E.toEnvironment query.tree).accepted E row &&
    (walkQueryToSql E.toEnvironment query.tree).holds E row) = _
  rw [haccepted]
  cases haccepts : (combineWhere query.combinator conditions).acceptedInLog E row with
  | false => rfl
  | true =>
    have hterms := accepted_walkQueryToSql _ |>.mp (haccepted.trans haccepts)
    have hclauses (rule) (hrule : rule ∈ query.tree.rules) (condition)
        (hclause : ruleToPrisma E.toEnvironment cycleAllowlist rule = .ok condition) :=
      (hmatch rule hrule).holds_eq (hterms rule hrule) hclause
    rw [Bool.true_and, Bool.true_and]
    by_cases hout : ∃ left ∈ query.tree.rules,
        ruleToPrisma E.toEnvironment cycleAllowlist left = .ok none
    · -- beside a rule that is left out everything is true
      obtain ⟨left, hleft, hnone⟩ := hout
      have htrue (rule) (hrule : rule ∈ query.tree.rules) :=
        hbeside left hleft hnone rule hrule (hterms rule hrule)
      rw [holds_of_terms htrue, holdsInLog_of_clauses h fun rule hrule a ha ↦ ?_]
      exact (hclauses rule hrule _ ha).symm.trans (htrue rule hrule)
    · -- without one the clause has a condition for every rule
      have hvalue := value_holds (E := E) row query.tree _ fun _ _ ↦ rfl
      rw [value_holdsInLog row h _ fun rule hrule condition hclause ↦ ?_] at hvalue
      · exact (Option.some.inj hvalue).symm
      · cases condition with
        | none => exact absurd ⟨rule, hrule, hclause⟩ hout
        | some condition =>
          rw [hclauses rule hrule _ hclause]
          rfl

/-! ### The filters that tell rules apart -/

/-- One rule or the other. -/
def orBeside (rule rule' : QueryRule) : QueryFilter := ⟨.or, [.rule rule, .rule rule']⟩

theorem accepted_orBeside {rule rule' : QueryRule} (h : rule.Accepted) (h' : rule'.Accepted) :
    (orBeside rule rule').Accepted := by
  simp [orBeside, QueryFilter.Accepted, Node.Bounded, Node.AllBounded, Node.allRules, Node.rules,
    h, h']

theorem cycleSearchAccepts_group (c : Combinator) (nodes : List (Node QueryRule)) :
    cycleSearchAccepts E row (some ⟨c, nodes⟩) = true ↔
      (∀ part ∈ walkAllToSql E.toEnvironment nodes, part.accepted E row = true) ∧
        Node.join c ((walkAllToSql E.toEnvironment nodes).map (SqlExpression.holds E row)) =
          true := by
  rw [← holds_joinSql, ← accepted_joinSql, ← Bool.and_eq_true]
  rfl

section Apart

variable {rule : QueryRule} {clause : Option PrismaWhere}

theorem cycleSearchAccepts_alone : cycleSearchAccepts E row (some (alone rule)) =
    ((termToSql E.toEnvironment rule).accepted E row &&
      (termToSql E.toEnvironment rule).holds E row) := by
  rw [Bool.eq_iff_iff, alone, cycleSearchAccepts_group]
  simp [walkAllToSql, walkQueryToSql, Node.join]

/-- Beside anything a rule has to be taken, and no more. -/
theorem cycleSearchAccepts_orAnything : cycleSearchAccepts E row (some (orAnything rule)) =
    (termToSql E.toEnvironment rule).accepted E row := by
  rw [Bool.eq_iff_iff, orAnything, cycleSearchAccepts_group]
  simp [walkAllToSql, walkQueryToSql, joinSql, Node.join, SqlExpression.accepted,
    SqlExpression.holds, SqlExpression.truth]

/-- A true term makes any other beside it true, once taken. -/
theorem cycleSearchAccepts_orBeside {left : QueryRule}
    (h : (termToSql E.toEnvironment left).outcome E row = some true) :
    cycleSearchAccepts E row (some (orBeside left rule)) =
      (termToSql E.toEnvironment rule).accepted E row := by
  obtain ⟨haccepted, htrue⟩ := SqlExpression.outcome_eq_some_iff.mp h
  rw [Bool.eq_iff_iff, orBeside, cycleSearchAccepts_group]
  simp [walkAllToSql, walkQueryToSql, Node.join, haccepted, htrue]

theorem toPrismaWhere_alone {c : PrismaWhere}
    (h : toPrismaWhere E.toEnvironment cycleAllowlist (alone rule) = .ok c) :
    ∃ clause, ruleToPrisma E.toEnvironment cycleAllowlist rule = .ok clause ∧
      c = clause.getD .empty := by
  rw [toPrismaWhere_eq_ok_iff] at h
  obtain ⟨conditions, hconditions, hc⟩ := translate_group_ok_iff.mp h
  obtain ⟨clause, rest, hclause, hrest, rfl⟩ := translateAll_cons_ok_iff.mp hconditions
  obtain rfl := Except.ok.inj hrest
  refine ⟨clause, hclause, ?_⟩
  obtain rfl := Option.some.inj hc
  cases clause <;> rfl

theorem toPrismaWhere_orAnything {c condition : PrismaWhere}
    (h : toPrismaWhere E.toEnvironment cycleAllowlist (orAnything rule) = .ok c)
    (hclause : ruleToPrisma E.toEnvironment cycleAllowlist rule = .ok (some condition)) :
    c = .any [condition, .empty] := by
  simpa [toPrismaWhere, orAnything, translateAll, FilterTree.translate, hclause, bind, Except.bind,
    pure, Except.pure, combineWhere, eq_comm] using h

theorem toPrismaWhere_orBeside {left : QueryRule} {c condition : PrismaWhere}
    (h : toPrismaWhere E.toEnvironment cycleAllowlist (orBeside left rule) = .ok c)
    (hleft : ruleToPrisma E.toEnvironment cycleAllowlist left = .ok none)
    (hclause : ruleToPrisma E.toEnvironment cycleAllowlist rule = .ok (some condition)) :
    c = condition := by
  simpa [toPrismaWhere, orBeside, translateAll, FilterTree.translate, hleft, hclause, bind,
    Except.bind, pure, Except.pure, combineWhere, eq_comm] using h

/-- A filter of one rule, and one of the rule or anything, tell whether it matches. -/
theorem ruleMatches_of_cycleFilters (halone : CycleFiltersAgree E row (alone rule))
    (hor : CycleFiltersAgree E row (orAnything rule)) : RuleMatches E row rule := by
  obtain ⟨c, hc, halone⟩ := halone
  obtain ⟨c', hc', hor⟩ := hor
  obtain ⟨clause, hclause, rfl⟩ := toPrismaWhere_alone hc
  rw [cycleSearchAccepts_alone] at halone
  rw [cycleSearchAccepts_orAnything] at hor
  rw [RuleMatches, hclause]
  cases clause with
  | none => exact SqlExpression.outcome_eq_some_iff.mpr (Bool.and_eq_true_iff.mp halone)
  | some condition =>
    obtain rfl := toPrismaWhere_orAnything hc' hclause
    -- beside anything the two are taken together, so alone they say the same
    have htaken : (termToSql E.toEnvironment rule).accepted E row =
        condition.acceptedInLog E row := by
      simpa [PrismaWhere.acceptedInLog, PrismaWhere.allAcceptedInLog, PrismaWhere.holdsInLog,
        PrismaWhere.anyHoldsInLog] using hor
    show SqlExpression.outcome E row _ = condition.outcome E row
    rw [SqlExpression.outcome, PrismaWhere.outcome, htaken]
    rw [Option.getD_some, htaken] at halone
    cases haccepted : condition.acceptedInLog E row with
    | false => rfl
    | true => simpa [haccepted] using halone

/-- One rule or another, of which the first is left out, tells whether the second holds. -/
theorem verdict_ne_of_cycleFilters {left : QueryRule} {field : CycleField}
    (hfield : CycleField.ofName rule.field = some field) (hcomplete : rule.isLeftOut = false)
    (hleft : ruleToPrisma E.toEnvironment cycleAllowlist left = .ok none)
    (hmatch : RuleMatches E row left) (hrule : RuleMatches E row rule)
    (hbeside : CycleFiltersAgree E row (orBeside left rule)) :
    rule.verdict E field row ≠ some false := by
  intro hfalse
  rw [RuleMatches, hleft] at hmatch
  obtain ⟨condition, hclause, hverdict⟩ | ⟨⟨e, hclause, -⟩, -⟩ :=
    ruleToPrisma_of_complete (E := E) row hfield hcomplete
  · obtain ⟨c, hc, hbeside⟩ := hbeside
    obtain rfl := toPrismaWhere_orBeside hc hleft hclause
    rw [RuleMatches, hclause] at hrule
    obtain ⟨haccepted, hholds⟩ := PrismaWhere.outcome_eq_some_iff.mp (hverdict.trans hfalse)
    have hterm := (SqlExpression.outcome_eq_some_iff.mp
      (Eq.trans hrule (hverdict.trans hfalse))).1
    rw [cycleSearchAccepts_orBeside hmatch, hterm, haccepted, hholds] at hbeside
    exact nomatch hbeside
  · rw [RuleMatches, hclause] at hrule
    exact hrule

end Apart

/-- A rule without a clause is one that is left out. -/
theorem isLeftOut_of_clauseless {rule : QueryRule} {field : CycleField}
    (hfield : CycleField.ofName rule.field = some field)
    (h : ruleToPrisma E.toEnvironment cycleAllowlist rule = .ok none) : rule.isLeftOut = true := by
  by_contra hcomplete
  rw [Bool.not_eq_true] at hcomplete
  -- whether there is a clause does not depend on the row
  let row : CycleRow := ⟨"", none, .good, none, none, none, 0, none⟩
  obtain ⟨condition, hclause, -⟩ | ⟨⟨e, hclause, -⟩, -⟩ :=
    ruleToPrisma_of_complete (E := E) row hfield hcomplete
  · exact nomatch h.symm.trans hclause
  · exact nomatch h.symm.trans hclause

/-- A rule that matches is true in the condition when nothing says that it is false. -/
theorem RuleMatches.holds_of_verdict {rule : QueryRule} {field : CycleField}
    (hfield : CycleField.ofName rule.field = some field) (h : RuleMatches E row rule)
    (hverdict : rule.isLeftOut = false → rule.verdict E field row ≠ some false)
    (haccepted : (termToSql E.toEnvironment rule).accepted E row = true) :
    (termToSql E.toEnvironment rule).holds E row = true := by
  cases hleft : rule.isLeftOut with
  | true =>
    exact (SqlExpression.outcome_eq_some_iff.mp ((ruleMatches_of_leftOut hfield hleft).mp h)).2
  | false =>
    have houtcome := (ruleMatches_of_complete hfield hleft).mp h
    rw [SqlExpression.outcome_eq_some_iff.mpr ⟨haccepted, rfl⟩] at houtcome
    cases hholds : (termToSql E.toEnvironment rule).holds E row with
    | true => rfl
    | false => exact absurd (hholds ▸ houtcome.symm) (hverdict hleft)

end Filters

/-- **The filters made of some rules on the log's fields.** The log's filter agrees with the clause
on every filter the schema accepts whose rules are among these, exactly when each of these rules
meets its condition on the row, and beside one that is left out no other says that the row is none.
-/
theorem cycleFilters_agree_iff (E : SqlEnvironment) (row : CycleRow) (rules : Set QueryRule) :
    (∀ query : QueryFilter, query.Accepted →
      (∀ rule ∈ Node.allRules query.rules,
        rule ∈ rules ∧ ∃ field, CycleField.ofName rule.field = some field) →
      CycleFiltersAgree E row query) ↔
    ∀ rule ∈ rules, rule.Accepted → ∀ field, CycleField.ofName rule.field = some field →
      CycleRuleCondition E field row rule ∧
        (rule.isLeftOut = true → ∀ other ∈ rules, other.Accepted → ∀ field',
          CycleField.ofName other.field = some field' → other.isLeftOut = false →
            other.verdict E field' row ≠ some false) := by
  constructor
  · intro hagree
    have hmatch (rule) (hrule : rule ∈ rules) (haccepted : rule.Accepted) (field)
        (hfield : CycleField.ofName rule.field = some field) : RuleMatches E row rule := by
      refine ruleMatches_of_cycleFilters (hagree _ (accepted_alone haccepted) ?_)
        (hagree _ (accepted_orAnything haccepted) ?_)
      · simpa [alone, Node.allRules, Node.rules] using ⟨hrule, field, hfield⟩
      · simpa [orAnything, Node.allRules, Node.rules] using ⟨hrule, field, hfield⟩
    intro rule hrule haccepted field hfield
    have hrule' := hmatch rule hrule haccepted field hfield
    refine ⟨(ruleMatches_iff hfield).mp hrule', ?_⟩
    intro hleft other hother haccepted' field' hfield' hcomplete
    refine verdict_ne_of_cycleFilters hfield' hcomplete (ruleToPrisma_of_leftOut hfield hleft)
      hrule' (hmatch other hother haccepted' field' hfield')
      (hagree _ (accepted_orBeside haccepted haccepted') ?_)
    simpa [orBeside, Node.allRules, Node.rules] using
      ⟨⟨hrule, field, hfield⟩, hother, field', hfield'⟩
  · intro hcondition query haccepted hrules
    have hmatch (rule) (hrule : rule ∈ query.tree.rules) : RuleMatches E row rule := by
      obtain ⟨hmem, field, hfield⟩ := hrules rule hrule
      exact (ruleMatches_iff hfield).mpr
        (hcondition rule hmem (haccepted.2 rule hrule) field hfield).1
    refine cycleFiltersAgree_of_rules hmatch fun left hleft hnone rule hrule ↦ ?_
    obtain ⟨hmem, field, hfield⟩ := hrules left hleft
    obtain ⟨hmem', field', hfield'⟩ := hrules rule hrule
    exact (hmatch rule hrule).holds_of_verdict hfield' <|
      (hcondition left hmem (haccepted.2 left hleft) field hfield).2
        (isLeftOut_of_clauseless hfield hnone) rule hmem'
        (haccepted.2 rule hrule) field' hfield'

/-! ### A rule on the job without a value -/

/-- What is read of the empty text and of a label. -/
def plainEnvironment : SqlEnvironment where
  toEnvironment := isoEnvironment
  arrayLiteral _ := "\x7b\x7d"
  readFloat _ := none
  readInstant _ := none
  ilike s pattern := s == pattern
  inheritedTerm _ _ := none

/-- A cycle of the job `Bracket`. -/
def bracketCycle : CycleRow where
  stationName := "Press 1"
  jobName := some "Bracket"
  cycleStatus := .good
  standardCycle := none
  shiftName := none
  businessDate := none
  startTime := 0
  endTime := none

/-- `jobName = ` as the editor sends it before a value is entered. -/
def unfinishedJob : QueryRule := ⟨"jobName", .compare .eq, .string ""⟩

/-- The clause leaves the unfinished rule out; the log looks for cycles of a job without a name. -/
theorem not_cycleFilters_agree : ¬ ∀ (E : SqlEnvironment) (row : CycleRow) (query : QueryFilter),
    query.Accepted → (∀ rule ∈ Node.allRules query.rules,
      ∃ field, CycleField.ofName rule.field = some field) → CycleFiltersAgree E row query := by
  intro h
  have haccepted : unfinishedJob.Accepted := ⟨by decide, trivial⟩
  have hfield : CycleField.ofName unfinishedJob.field = some .jobName := by decide
  obtain ⟨clause, hclause, hsides⟩ := h plainEnvironment bracketCycle (alone unfinishedJob)
    (accepted_alone haccepted) (by simpa [alone, Node.allRules, Node.rules] using ⟨_, hfield⟩)
  obtain ⟨condition, hcondition, rfl⟩ := toPrismaWhere_alone hclause
  obtain rfl := Except.ok.inj ((ruleToPrisma_of_leftOut hfield rfl).symm.trans hcondition)
  -- what the log shows, and what the clause asks for
  have hfalse : false = true := hsides
  exact Bool.false_ne_true hfalse

end QueryFilters

end RwServer
