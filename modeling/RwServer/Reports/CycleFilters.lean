import Mathlib
import RwServer.Reports.QueryFilters

/-!
# The filter of the cycle log

The cycle log is one SQL query, so it has a back end of its own: `buildCycleFilterSql` turns the
tree of rules into a condition on the columns of the query. The values of the rules are parameters
of the query, and it is the database that reads them, each as a value of the column it is compared
with.

The last two sections say what such a condition accepts, in the three-valued logic of SQL, and what
a `where` clause over the same columns accepts.
-/

namespace RwServer

namespace QueryFilters

open FilterTree JsNumber

/-! ## The columns of the log -/

inductive CycleStatus
  | discard
  | bad
  | good
  deriving DecidableEq

namespace CycleStatus

def label : CycleStatus → String
  | discard => "DISCARD"
  | bad => "BAD"
  | good => "GOOD"

/-- The labels of the type, in the database's order of them. -/
def all : List CycleStatus := [discard, bad, good]

/-- The status of a label. -/
def ofLabel (s : String) : Option CycleStatus := all.find? fun status ↦ status.label == s

end CycleStatus

inductive ColumnType
  | text
  | status
  | number
  | instant
  deriving DecidableEq

/-- The values of a column, null apart. A number may be `NaN`, which stands above all others. -/
def ColumnType.Value : ColumnType → Type
  | text => String
  | status => CycleStatus
  | number => WithTop JsNumber
  | instant => JsNumber

/-- The type an endpoint's list would give a column. -/
def ColumnType.fieldType : ColumnType → FieldType
  | text => .string
  | status => .string
  | number => .number
  | instant => .datetime

/-- The keys of `CYCLE_FIELD_TO_SQL`. Each stands for the column of its name. -/
inductive CycleField
  | stationName
  | jobName
  | cycleStatus
  | standardCycle
  | shiftName
  | businessDate
  | startTime
  | endTime
  deriving DecidableEq

namespace CycleField

def name : CycleField → String
  | stationName => "stationName"
  | jobName => "jobName"
  | cycleStatus => "cycleStatus"
  | standardCycle => "standardCycle"
  | shiftName => "shiftName"
  | businessDate => "businessDate"
  | startTime => "startTime"
  | endTime => "endTime"

def all : List CycleField :=
  [stationName, jobName, cycleStatus, standardCycle, shiftName, businessDate, startTime, endTime]

def ofName (s : String) : Option CycleField := all.find? fun field ↦ field.name == s

/-- The type of the column in the query. -/
def columnType : CycleField → ColumnType
  | stationName => .text
  | jobName => .text
  | cycleStatus => .status
  | standardCycle => .number
  | shiftName => .text
  | businessDate => .text
  | startTime => .instant
  | endTime => .instant

theorem ofName_name (field : CycleField) : ofName field.name = some field := by
  cases field <;> decide

end CycleField

/-- A row of the query: what its filter can refer to. -/
structure CycleRow where
  stationName : String
  jobName : Option String
  cycleStatus : CycleStatus
  standardCycle : Option ℚ
  shiftName : Option String
  businessDate : Option String
  startTime : ℤ
  endTime : Option ℤ

/-- The value in a column. -/
def CycleRow.cell (row : CycleRow) : (field : CycleField) → Option field.columnType.Value
  | .stationName => some row.stationName
  | .jobName => row.jobName
  | .cycleStatus => some row.cycleStatus
  | .standardCycle => row.standardCycle.map fun x ↦ (finite x : WithTop JsNumber)
  | .shiftName => row.shiftName
  | .businessDate => row.businessDate
  | .startTime => some (finite row.startTime)
  | .endTime => row.endTime.map fun t : ℤ ↦ finite t

/-- The same columns, as a list of an endpoint. -/
def cycleAllowlist : FieldAllowlist := fun field ↦
  (CycleField.ofName field).map fun cycleField ↦
    ⟨⟨[], cycleField.name⟩, cycleField.columnType.fieldType⟩

/-! ## The condition in SQL -/

/-- What stands before the operator: a column of the log, or an inherited property of
`CYCLE_FIELD_TO_SQL`, which is no SQL and becomes a parameter. -/
inductive SqlOperand
  | column (field : CycleField)
  | inherited (name : String)

/-- What a term asks of its operand. The values are parameters. -/
inductive SqlTest
  | compare (c : Comparison) (value : Value)
  | ilike (pattern : String)
  | isIn (values : List Scalar)
  | notIn (values : List Scalar)
  | between (low high : Scalar)
  | notBetween (low high : Scalar)
  | isNull
  | isNotNull

inductive SqlExpression
  | literal (b : Bool)
  | term (operand : SqlOperand) (test : SqlTest)
  | group (combinator : Combinator) (parts : List SqlExpression)

/-- `CYCLE_FIELD_TO_SQL[field]`. -/
def cycleFieldToSql (field : String) : Option SqlOperand :=
  match CycleField.ofName field with
  | some cycleField => some (.column cycleField)
  | none => if field ∈ objectPrototypeNames then some (.inherited field) else none

section Build

variable (E : Environment)

def termToSql (rule : QueryRule) : SqlExpression :=
  match cycleFieldToSql rule.field with
  | none => .literal true
  | some col =>
    match rule.operator with
    | .compare c => .term col (.compare c rule.value)
    | .contains => .term col (.ilike ("%" ++ rule.value.toText E ++ "%"))
    | .beginsWith => .term col (.ilike (rule.value.toText E ++ "%"))
    | .isIn =>
      match rule.value with
      | .array (v :: vs) => .term col (.isIn (v :: vs))
      | _ => .literal false
    | .notIn =>
      match rule.value with
      | .array (v :: vs) => .term col (.notIn (v :: vs))
      | _ => .literal true
    | .between =>
      match rule.value with
      | .array [low, high] => .term col (.between low high)
      | _ => .literal true
    | .notBetween =>
      match rule.value with
      | .array [low, high] => .term col (.notBetween low high)
      | _ => .literal true
    | .null => .term col .isNull
    | .notNull => .term col .isNotNull

/-- The expression of a group. No part has an empty text, so none is filtered out. -/
def joinSql (combinator : Combinator) (parts : List SqlExpression) : SqlExpression :=
  match parts with
  | [] => .literal true
  | parts => .group combinator parts

mutual

def walkQueryToSql : Node QueryRule → SqlExpression
  | .rule rule => termToSql E rule
  | .group combinator rules => joinSql combinator (walkAllToSql rules)

/-- `node.rules.map(walkQueryToSql)`. -/
def walkAllToSql : List (Node QueryRule) → List SqlExpression
  | [] => []
  | node :: nodes => walkQueryToSql node :: walkAllToSql nodes

end

/-- The condition beside `WHERE TRUE`; there is none without a query. -/
def buildCycleFilterSql (query : Option QueryFilter) : Option SqlExpression :=
  query.map fun query ↦ walkQueryToSql E (.group query.combinator query.rules)

end Build

/-! ## What the condition accepts -/

/-- What the driver and the database bring: the text of an array that is a parameter, the texts the
database reads as numbers and as instants, and what matches a pattern. -/
structure SqlEnvironment extends Environment where
  /-- The text the driver sends for an array. -/
  arrayLiteral : List Scalar → String
  /-- The text read as a `float8`. -/
  readFloat : String → Option (WithTop JsNumber)
  /-- The text read as a `timestamptz`, in milliseconds. -/
  readInstant : String → Option JsNumber
  /-- `s ILIKE pattern`. -/
  ilike : String → String → Bool
  /-- What a term makes of an inherited property in a column's place. -/
  inheritedTerm : String → SqlTest → Option (Option Bool)

/-- SQL's conjunction: what is neither true nor false is `none`. -/
def sqlAnd (truths : List (Option Bool)) : Option Bool :=
  if some false ∈ truths then some false else if none ∈ truths then none else some true

/-- SQL's disjunction. -/
def sqlOr (truths : List (Option Bool)) : Option Bool :=
  if some true ∈ truths then some true else if none ∈ truths then none else some false

section Meaning

variable (E : SqlEnvironment)

namespace ColumnType

/-- The database's order of the values of a column. -/
def compare : (type : ColumnType) → type.Value → type.Value → Ordering
  | text => compareText E.toEnvironment
  | status => fun a b : CycleStatus ↦ cmp (CycleStatus.all.idxOf a) (CycleStatus.all.idxOf b)
  | number => fun a b : WithTop JsNumber ↦ cmp a b
  | instant => fun a b : JsNumber ↦ cmp a b

/-- The value is among these. -/
def among (type : ColumnType) (x : type.Value) (ys : List type.Value) : Bool :=
  ys.any fun y ↦ type.compare E x y == .eq

/-- The value is in the range, ends included. -/
def within (type : ColumnType) (x : type.Value) (range : type.Value × type.Value) : Bool :=
  (type.compare E x range.1).isGE && (type.compare E x range.2).isLE

/-- The value the database reads in a text. It refuses a text that is none of the column's. -/
def read : (type : ColumnType) → String → Option type.Value
  | text => some
  | status => CycleStatus.ofLabel
  | number => E.readFloat
  | instant => E.readInstant

end ColumnType

/-- The text of a parameter. -/
def Scalar.parameter : Scalar → String
  | .string s => s
  | .number x => E.stringOfNumber (finite x)

/-- The text of a parameter; null has none. -/
def Value.parameter : Value → Option String
  | .undefined => none
  | .null => none
  | .array elements => some (E.arrayLiteral elements)
  | value => some (value.toText E.toEnvironment)

/-- `cell ILIKE pattern`. Only texts have the operator. -/
def likeCell : (type : ColumnType) → Option type.Value → String → Option (Option Bool)
  | .text, cell, pattern => some (cell.map fun s ↦ E.ilike s pattern)
  | _, _, _ => none

/-- What a test says of a column with this value. There is nothing where the database refuses the
query; what is compared with null is neither true nor false. -/
def SqlTest.onCell (type : ColumnType) (cell : Option type.Value) : SqlTest → Option (Option Bool)
  | compare c value =>
    match value.parameter E with
    | none => some none
    | some s => (type.read E s).map fun y ↦ cell.map fun x ↦ c.test (type.compare E x y)
  | ilike pattern => likeCell E type cell pattern
  | isIn values => (values.mapM fun v ↦ type.read E (v.parameter E)).map fun ys ↦
      cell.map fun x ↦ type.among E x ys
  | notIn values => (values.mapM fun v ↦ type.read E (v.parameter E)).map fun ys ↦
      cell.map fun x ↦ !type.among E x ys
  | between low high => do
    let low ← type.read E (low.parameter E)
    let high ← type.read E (high.parameter E)
    return cell.map fun x ↦ type.within E x (low, high)
  | notBetween low high => do
    let low ← type.read E (low.parameter E)
    let high ← type.read E (high.parameter E)
    return cell.map fun x ↦ !type.within E x (low, high)
  | isNull => some (some cell.isNone)
  | isNotNull => some (some cell.isSome)

/-- What a term says of a row. -/
def SqlOperand.test (row : CycleRow) (test : SqlTest) : SqlOperand → Option (Option Bool)
  | column field => test.onCell E field.columnType (row.cell field)
  | inherited name => E.inheritedTerm name test

namespace SqlExpression

mutual

/-- The database takes the expression: every parameter is read, every operator exists. -/
def accepted (row : CycleRow) : SqlExpression → Bool
  | literal _ => true
  | term operand test => (operand.test E row test).isSome
  | group _ parts => allAccepted row parts

def allAccepted (row : CycleRow) : List SqlExpression → Bool
  | [] => true
  | part :: parts => part.accepted row && allAccepted row parts

end

mutual

/-- The truth of an expression the database takes. -/
def truth (row : CycleRow) : SqlExpression → Option Bool
  | literal b => some b
  | term operand test => (operand.test E row test).getD none
  | group combinator parts =>
    match combinator with
    | .and => sqlAnd (truths row parts)
    | .or => sqlOr (truths row parts)

def truths (row : CycleRow) : List SqlExpression → List (Option Bool)
  | [] => []
  | part :: parts => part.truth row :: truths row parts

end

/-- A row is kept where the condition is true. -/
def holds (row : CycleRow) (expression : SqlExpression) : Bool :=
  expression.truth E row == some true

end SqlExpression

/-- The log shows the row. Beside `WHERE TRUE` a missing condition keeps every row. -/
def cycleSearchAccepts (row : CycleRow) (query : Option QueryFilter) : Bool :=
  (buildCycleFilterSql E.toEnvironment query).all fun condition ↦
    condition.accepted E row && condition.holds E row

/-! ## What the clause accepts -/

/-- The value of an operand in a column of the type, when Prisma takes it. -/
def Operand.inColumn : (type : ColumnType) → Operand → Option type.Value
  | .text, .text s => some s
  | .status, .text s => CycleStatus.ofLabel s
  | .number, .number (some x) => if x.isFinite then some (x : WithTop JsNumber) else none
  | .instant, .date (some t) => some (finite t)
  | _, _ => none

/-- The value of an operand in a column Prisma compares so. It has no order on a status. -/
def Operand.inOrder (type : ColumnType) (c : Comparison) (operand : Operand) : Option type.Value :=
  if type ≠ .status ∨ c = .eq ∨ c = .ne then operand.inColumn type else none

/-- What a condition says of a column with this value; nothing where Prisma refuses it. -/
def Condition.onCell (type : ColumnType) (cell : Option type.Value) : Condition → Option Bool
  | isNull => some cell.isNone
  | isNotNull => some cell.isSome
  | compare c operand => (operand.inOrder type c).map fun y ↦
      cell.any fun x ↦ c.test (type.compare E x y)
  | contains s => (likeCell E type cell ("%" ++ s ++ "%")).map (· == some true)
  | startsWith s => (likeCell E type cell (s ++ "%")).map (· == some true)
  | isIn operands => (operands.mapM (Operand.inColumn type)).map fun ys ↦
      cell.any fun x ↦ type.among E x ys
  | notIn operands => (operands.mapM (Operand.inColumn type)).map fun ys ↦
      cell.any fun x ↦ !type.among E x ys

/-- What a condition says of a column of the row. The log has no other columns. -/
def Condition.onColumn (row : CycleRow) (name : String) (condition : Condition) : Option Bool := do
  let field ← CycleField.ofName name
  condition.onCell E field.columnType (row.cell field)

namespace PrismaWhere

mutual

/-- Prisma takes the clause for the columns of the log. -/
def acceptedInLog (row : CycleRow) : PrismaWhere → Bool
  | .empty => true
  | .column name condition => (condition.onColumn E row name).isSome
  | .relation _ _ => false
  | .all conditions => allAcceptedInLog row conditions
  | .any conditions => allAcceptedInLog row conditions

def allAcceptedInLog (row : CycleRow) : List PrismaWhere → Bool
  | [] => true
  | condition :: conditions => condition.acceptedInLog row && allAcceptedInLog row conditions

end

mutual

/-- The row satisfies a clause Prisma takes. -/
def holdsInLog (row : CycleRow) : PrismaWhere → Bool
  | .empty => true
  | .column name condition => condition.onColumn E row name == some true
  | .relation _ _ => false
  | .all conditions => allHoldInLog row conditions
  | .any conditions => anyHoldsInLog row conditions

def allHoldInLog (row : CycleRow) : List PrismaWhere → Bool
  | [] => true
  | condition :: conditions => condition.holdsInLog row && allHoldInLog row conditions

def anyHoldsInLog (row : CycleRow) : List PrismaWhere → Bool
  | [] => false
  | condition :: conditions => condition.holdsInLog row || anyHoldsInLog row conditions

end

end PrismaWhere

end Meaning

end QueryFilters

end RwServer
