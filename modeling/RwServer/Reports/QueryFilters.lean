import Mathlib
import RwServer.Foundation.FilterTree
import RwServer.Foundation.JsValue

/-!
# Query filters and their two back ends

A client sends a filter as a tree of rules; an endpoint allows the fields its own list names. The
filter is then translated either to a `where` clause of Prisma (`toPrismaWhere`) or, where the rows
are computed in the application, to a predicate on rows (`toRowFilter`).

The last section says what a `where` clause means: which clauses Prisma accepts for columns of given
types, and which rows satisfy one. It is the yardstick the predicate is held against.
-/

namespace RwServer

namespace QueryFilters

open FilterTree JsText JsNumber

/-! ## Values -/

/-- An element of an array in a rule. -/
inductive Scalar
  | string (s : String)
  | number (x : ℚ)
  deriving DecidableEq

/-- A value in a rule or in a row. A date is its instant, in milliseconds. -/
inductive Value
  | undefined
  | null
  | boolean (b : Bool)
  | number (x : ℚ)
  | string (s : String)
  | date (instant : ℤ)
  | array (elements : List Scalar)
  | object (fields : List (String × Value))

/-- What the language and the database bring: conversions, case folding, and the database's order of
texts. -/
structure Environment extends Conversions where
  /-- `s.toLowerCase()`; the database folds case the same way. -/
  toLowerCase : String → String
  /-- `new Date(s).getTime()`; there is none for an invalid date. -/
  parseDate : String → Option ℤ
  /-- `String(date)`. -/
  stringOfDate : ℤ → String
  /-- The database puts one text before another. -/
  textBefore : String → String → Bool

def Scalar.toValue : Scalar → Value
  | .string s => .string s
  | .number x => .number x

/-- A rational as a number of the language. -/
def finite (x : ℚ) : JsNumber := ((x : WithTop ℚ) : JsNumber)

namespace Value

/-- `value == null`. -/
def isNullish : Value → Bool
  | undefined => true
  | null => true
  | _ => false

/-- A value that leaves its rule incomplete. -/
def isIncomplete : Value → Bool
  | string s => s == ""
  | value => value.isNullish

/-- `value[name]` of an object. Nothing else a row holds has columns. -/
def property (value : Value) (name : String) : Value :=
  match value with
  | object fields => (fields.lookup name).getD undefined
  | _ => undefined

variable (E : Environment)

/-- `String(value)`. -/
def toText : Value → String
  | undefined => "undefined"
  | null => "null"
  | boolean b => if b then "true" else "false"
  | number x => E.stringOfNumber (finite x)
  | string s => s
  | date instant => E.stringOfDate instant
  | array elements => ",".intercalate <| elements.map fun
    | .string s => s
    | .number x => E.stringOfNumber (finite x)
  | object _ => "[object Object]"

/-- `toNumber(value)`: a number itself, the instant of a date, else `Number(value)`. -/
def toNumber : Value → Option JsNumber
  | undefined => none
  | null => some (finite 0)
  | boolean b => some (finite (if b then 1 else 0))
  | number x => some (finite x)
  | date instant => some (finite instant)
  | value => E.numberOfString (value.toText E)

end Value

/-! ## Filters -/

/-- The operators that compare the column with one value. -/
inductive Comparison
  | eq
  | ne
  | gt
  | lt
  | ge
  | le
  deriving DecidableEq

/-- The comparison holds when the column stands so to the value. -/
def Comparison.test : Comparison → Ordering → Bool
  | eq => Ordering.isEq
  | ne => Ordering.isNe
  | gt => Ordering.isGT
  | lt => Ordering.isLT
  | ge => Ordering.isGE
  | le => Ordering.isLE

/-- The comparison of a difference with zero. `NaN` is unlike zero and in no order with it. -/
def Comparison.testDifference (c : Comparison) : Option Ordering → Bool
  | some sign => c.test sign
  | none => c == ne

inductive Operator
  | compare (c : Comparison)
  | contains
  | beginsWith
  | isIn
  | notIn
  | between
  | notBetween
  | null
  | notNull
  deriving DecidableEq

structure QueryRule where
  field : String
  operator : Operator
  value : Value

/-- `queryRuleSchema` accepts the rule. -/
def QueryRule.Accepted (rule : QueryRule) : Prop :=
  rule.field ≠ "" ∧
    match rule.value with
    | .string _ | .number _ | .boolean _ | .null | .array _ => True
    | _ => False

structure QueryFilter where
  combinator : Combinator
  rules : List (Node QueryRule)

/-- `queryFilterSchema` accepts the filter: at most twenty rules a group. -/
def QueryFilter.Accepted (query : QueryFilter) : Prop :=
  (Node.group query.combinator query.rules).Bounded 20 ∧
    ∀ rule ∈ Node.allRules query.rules, rule.Accepted

inductive FieldType
  | string
  | number
  | boolean
  | uuid
  | datetime
  deriving DecidableEq

/-- A column path, split at its dots: `station.name` is the column `name` behind the relation
`station`. -/
structure ColumnPath where
  relations : List String
  name : String
  deriving DecidableEq

def ColumnPath.parts (column : ColumnPath) : List String := column.relations ++ [column.name]

structure AllowedField where
  column : ColumnPath
  type : FieldType
  deriving DecidableEq

/-- The entries an endpoint's list has of its own. -/
abbrev FieldAllowlist := String → Option AllowedField

/-- What `allowlist[field]` has to say of a column and a type. -/
structure ReadField where
  column : Option ColumnPath
  type : Option FieldType

/-- The properties every object inherits. -/
def objectPrototypeNames : List String :=
  ["constructor", "__defineGetter__", "__defineSetter__", "hasOwnProperty", "__lookupGetter__",
    "__lookupSetter__", "isPrototypeOf", "propertyIsEnumerable", "toString", "valueOf",
    "__proto__", "toLocaleString"]

/-- `allowlist[field]`. A list without the field still has what it inherits, and that has neither a
column nor a type. -/
def readField (allowlist : FieldAllowlist) (field : String) : Option ReadField :=
  match allowlist field with
  | some allowed => some ⟨some allowed.column, some allowed.type⟩
  | none => if field ∈ objectPrototypeNames then some ⟨none, none⟩ else none

inductive FilterError
  | badRequest (message : String)
  | typeError
  deriving DecidableEq

def notQueryable (field : String) : FilterError :=
  .badRequest ("Field \"" ++ field ++ "\" is not queryable")

/-- The values of a list operator: an array, the non-empty parts of a text, or the value alone. -/
def toArray : Value → List Value
  | .array elements => elements.map Scalar.toValue
  | .string s => (((s.splitOn ",").map trim).filter (· ≠ "")).map .string
  | value => [value]

/-- The two ends of a range. -/
def toBetweenPair (value : Value) : Except FilterError (Value × Value) := do
  let arr ← match value with
    | .array elements => .ok (elements.map Scalar.toValue)
    | .string s => .ok ((s.splitOn ",").map fun part ↦ .string (trim part))
    | _ => .error (.badRequest "between/notBetween requires two values")
  match arr with
  | [low, high] => .ok (low, high)
  | _ => .error (.badRequest "between/notBetween requires exactly two values")

/-! ## The `where` clause -/

/-- A value in a `where` clause. A number may be `NaN`, a date invalid: these are `none`. -/
inductive Operand
  | number (x : Option JsNumber)
  | boolean (b : Bool)
  | date (instant : Option ℤ)
  | text (s : String)
  deriving DecidableEq

/-- What a `where` clause asks of a column. `compare` is the value itself, or it under `not`, `gt`,
`lt`, `gte` or `lte`; `contains` and `startsWith` are in mode `insensitive`. -/
inductive Condition
  | isNull
  | isNotNull
  | compare (c : Comparison) (operand : Operand)
  | contains (s : String)
  | startsWith (s : String)
  | isIn (operands : List Operand)
  | notIn (operands : List Operand)

inductive PrismaWhere
  | empty
  | column (name : String) (condition : Condition)
  | relation (name : String) (condition : PrismaWhere)
  | all (conditions : List PrismaWhere)
  | any (conditions : List PrismaWhere)

section Prisma

variable (E : Environment)

def coerce (value : Value) : Option FieldType → Operand
  | some .number => .number (value.toNumber E)
  | some .boolean => .boolean <| match value with
    | .boolean b => b
    | .string s => s == "true" || s == "1"
    | _ => false
  | some .datetime => .date (E.parseDate (value.toText E))
  | _ => .text (value.toText E)

/-- The condition, nested under the relations of the path. -/
def nestWhere (column : ColumnPath) (condition : Condition) : PrismaWhere :=
  column.relations.foldr .relation (.column column.name condition)

/-- `buildNestedWhere`. Without a column there is nothing to split. -/
def buildNestedWhere (column : Option ColumnPath) (condition : Condition) :
    Except FilterError PrismaWhere :=
  match column with
  | some column => .ok (nestWhere column condition)
  | none => .error .typeError

def ruleToPrisma (allowlist : FieldAllowlist) (rule : QueryRule) :
    Except FilterError (Option PrismaWhere) :=
  match readField allowlist rule.field with
  | none => .error (notQueryable rule.field)
  | some allowed =>
    match rule.operator with
    | .null => return some (← buildNestedWhere allowed.column .isNull)
    | .notNull => return some (← buildNestedWhere allowed.column .isNotNull)
    | operator =>
      if rule.value.isIncomplete then .ok none
      else match operator with
      | .compare c => return some (← buildNestedWhere allowed.column
          (.compare c (coerce E rule.value allowed.type)))
      | .contains => return some (← buildNestedWhere allowed.column
          (.contains (rule.value.toText E)))
      | .beginsWith => return some (← buildNestedWhere allowed.column
          (.startsWith (rule.value.toText E)))
      | .isIn =>
        let arr := toArray rule.value
        if arr.length = 0 then .ok none
        else return some (← buildNestedWhere allowed.column
          (.isIn (arr.map fun v ↦ coerce E v allowed.type)))
      | .notIn =>
        let arr := toArray rule.value
        if arr.length = 0 then .ok none
        else return some (← buildNestedWhere allowed.column
          (.notIn (arr.map fun v ↦ coerce E v allowed.type)))
      | .between => do
        let (low, high) ← toBetweenPair rule.value
        return some (.all [
          ← buildNestedWhere allowed.column (.compare .ge (coerce E low allowed.type)),
          ← buildNestedWhere allowed.column (.compare .le (coerce E high allowed.type))])
      | .notBetween => do
        let (low, high) ← toBetweenPair rule.value
        return some (.any [
          ← buildNestedWhere allowed.column (.compare .lt (coerce E low allowed.type)),
          ← buildNestedWhere allowed.column (.compare .gt (coerce E high allowed.type))])
      | _ => .ok none

/-- The clause of a group: its only condition where it has one, and no restriction where it has
none. -/
def combineWhere : Combinator → List PrismaWhere → PrismaWhere
  | _, [] => .empty
  | _, [condition] => condition
  | .and, conditions => .all conditions
  | .or, conditions => .any conditions

def toPrismaWhere (allowlist : FieldAllowlist) (query : QueryFilter) :
    Except FilterError PrismaWhere := do
  let conditions ← translateAll (ruleToPrisma E allowlist) combineWhere query.rules
  return combineWhere query.combinator conditions

end Prisma

/-! ## The row predicate -/

abbrev Row := List (String × Value)

/-- The value behind a path. -/
def walk : List String → Value → Value
  | [], value => value
  | part :: parts, value => walk parts (value.property part)

def getValue (column : ColumnPath) (row : Row) : Value := walk column.parts (.object row)

/-- `makeGetter`. -/
def makeGetter (column : Option ColumnPath) : Except FilterError (Row → Value) :=
  match column with
  | some column => .ok (getValue column)
  | none => .error .typeError

/-- What a list operator compares. -/
inductive Normal
  | number (x : Option JsNumber)
  | text (s : String)
  deriving DecidableEq

section Rows

variable (E : Environment)

def normalizeForCompare (v : Value) : Option FieldType → Normal
  | some .number => .number (v.toNumber E)
  | some .datetime => .number <| match v with
    | .date instant => some (finite instant)
    | v => (E.parseDate (v.toText E)).map fun instant : ℤ ↦ finite instant
  | _ => .text (E.toLowerCase (v.toText E))

/-- `v === true || v === "true"`. -/
def isTrue : Value → Bool
  | .boolean b => b
  | .string s => s == "true"
  | _ => false

/-- The sign of `coerceCompare`; there is none when it is `NaN`. -/
def coerceCompare (rowValue ruleValue : Value) : Option FieldType → Option Ordering
  | some .number => differenceSign (rowValue.toNumber E) (ruleValue.toNumber E)
  | some .datetime => differenceSign (rowValue.toNumber E) (ruleValue.toNumber E)
  | some .boolean => some (cmp (isTrue rowValue) (isTrue ruleValue))
  | _ => some (compareUnits (E.toLowerCase (rowValue.toText E))
      (E.toLowerCase (ruleValue.toText E)))

/-- `(row) => { const v = getValue(row); return v != null && test(v) }`. -/
def whenPresent (getValue : Row → Value) (test : Value → Bool) (row : Row) : Bool :=
  !(getValue row).isNullish && test (getValue row)

def ruleToRowPredicate (allowlist : FieldAllowlist) (rule : QueryRule) :
    Except FilterError (Option (Row → Bool)) :=
  match readField allowlist rule.field with
  | none => .error (notQueryable rule.field)
  | some allowed => do
    let getValue ← makeGetter allowed.column
    match rule.operator with
    | .null => return some fun row ↦ (getValue row).isNullish
    | .notNull => return some fun row ↦ !(getValue row).isNullish
    | operator =>
      if rule.value.isIncomplete then return none
      else match operator with
      | .compare c => return some <| whenPresent getValue fun v ↦
          c.testDifference (coerceCompare E v rule.value allowed.type)
      | .contains => return some <| whenPresent getValue fun v ↦
          JsText.includes (E.toLowerCase (v.toText E)) (E.toLowerCase (rule.value.toText E))
      | .beginsWith => return some <| whenPresent getValue fun v ↦
          JsText.startsWith (E.toLowerCase (v.toText E)) (E.toLowerCase (rule.value.toText E))
      | .isIn =>
        let arr := (toArray rule.value).map fun v ↦ normalizeForCompare E v allowed.type
        if arr.length = 0 then return none
        else return some <| whenPresent getValue fun v ↦
          decide (normalizeForCompare E v allowed.type ∈ arr)
      | .notIn =>
        let arr := (toArray rule.value).map fun v ↦ normalizeForCompare E v allowed.type
        if arr.length = 0 then return none
        else return some <| whenPresent getValue fun v ↦
          !decide (normalizeForCompare E v allowed.type ∈ arr)
      | .between => do
        let (low, high) ← toBetweenPair rule.value
        return some <| whenPresent getValue fun v ↦
          Comparison.ge.testDifference (coerceCompare E v low allowed.type) &&
            Comparison.le.testDifference (coerceCompare E v high allowed.type)
      | .notBetween => do
        let (low, high) ← toBetweenPair rule.value
        return some <| whenPresent getValue fun v ↦
          Comparison.lt.testDifference (coerceCompare E v low allowed.type) ||
            Comparison.gt.testDifference (coerceCompare E v high allowed.type)
      | _ => return none

/-- The predicate of a group. -/
def combineFilters : Combinator → List (Row → Bool) → Row → Bool
  | _, [] => fun _ ↦ true
  | .and, predicates => fun row ↦ predicates.all fun accepts ↦ accepts row
  | .or, predicates => fun row ↦ predicates.any fun accepts ↦ accepts row

def toRowFilter (allowlist : FieldAllowlist) (query : QueryFilter) :
    Except FilterError (Row → Bool) := do
  let predicates ← translateAll (ruleToRowPredicate E allowlist) combineFilters query.rules
  return combineFilters query.combinator predicates

end Rows

/-! ## What a `where` clause means -/

namespace Operand

/-- Prisma accepts the value for a column of the type. Texts and ids are texts; a number that is not
finite and an invalid date are refused. -/
def accepted : Operand → FieldType → Bool
  | number (some x), .number => x.isFinite
  | boolean _, .boolean => true
  | date (some _), .datetime => true
  | text _, .string => true
  | text _, .uuid => true
  | _, _ => false

end Operand

section Meaning

variable (E : Environment)

/-- The database's comparison of two texts. It is case-sensitive. -/
def compareText (s t : String) : Ordering :=
  if s = t then .eq else if E.textBefore s t then .lt else .gt

/-- How a value in a column stands to a value of the clause. -/
def databaseCompare : Value → Operand → Option Ordering
  | .number x, .number (some y) => some (cmp (finite x) y)
  | .boolean a, .boolean b => some (cmp a b)
  | .date s, .date (some t) => some (cmp s t)
  | .string s, .text t => some (compareText E s t)
  | _, _ => none

namespace Condition

/-- Prisma accepts the condition for a column of the type. A boolean column is compared by equality
alone, and only a text is searched. -/
def accepted (type : FieldType) : Condition → Bool
  | isNull => true
  | isNotNull => true
  | compare c operand =>
    (type != .boolean || c == .eq || c == .ne) && operand.accepted type
  | contains _ => type == .string || type == .uuid
  | startsWith _ => type == .string || type == .uuid
  | isIn operands => type != .boolean && operands.all fun operand ↦ operand.accepted type
  | notIn operands => type != .boolean && operands.all fun operand ↦ operand.accepted type

/-- A column with this value satisfies the condition. No comparison with a null column holds. -/
def holds (v : Value) : Condition → Bool
  | isNull => v.isNullish
  | isNotNull => !v.isNullish
  | compare c operand => !v.isNullish && (databaseCompare E v operand).any c.test
  | contains s => !v.isNullish && includes (E.toLowerCase (v.toText E)) (E.toLowerCase s)
  | startsWith s =>
    !v.isNullish && JsText.startsWith (E.toLowerCase (v.toText E)) (E.toLowerCase s)
  | isIn operands =>
    !v.isNullish && operands.any fun operand ↦ databaseCompare E v operand == some .eq
  | notIn operands =>
    !v.isNullish && !operands.any fun operand ↦ databaseCompare E v operand == some .eq

end Condition

namespace PrismaWhere

mutual

/-- Prisma accepts the clause for a table whose columns have these types. -/
def accepted : PrismaWhere → (List String → FieldType) → Bool
  | .empty, _ => true
  | .column name condition, types => condition.accepted (types [name])
  | .relation name condition, types => condition.accepted fun path ↦ types (name :: path)
  | .all conditions, types => allAccepted conditions types
  | .any conditions, types => allAccepted conditions types

def allAccepted : List PrismaWhere → (List String → FieldType) → Bool
  | [], _ => true
  | condition :: conditions, types =>
    condition.accepted types && allAccepted conditions types

end

mutual

/-- A row satisfies the clause. A condition behind a relation asks for the related row. -/
def holds : PrismaWhere → Value → Bool
  | .empty, _ => true
  | .column name condition, row => condition.holds E (row.property name)
  | .relation name condition, row =>
    match row.property name with
    | .object fields => condition.holds (.object fields)
    | _ => false
  | .all conditions, row => allHold conditions row
  | .any conditions, row => anyHolds conditions row

def allHold : List PrismaWhere → Value → Bool
  | [], _ => true
  | condition :: conditions, row => condition.holds row && allHold conditions row

def anyHolds : List PrismaWhere → Value → Bool
  | [], _ => false
  | condition :: conditions, row => condition.holds row || anyHolds conditions row

end

end PrismaWhere

end Meaning

end QueryFilters

end RwServer
