import Mathlib
import RwServer.Database.Tables
import RwServer.Foundation.NumericSuffix

/-!
# The next order number

`getNextOrderNumber` reads all orders of a site, takes the prefix of the newest live one whose number
ends in digits, and counts on from the largest suffix that has this prefix, deleted orders included.
The number that it yields parses back into that prefix and that count (`parseOrderNumber_format`), so
no order can have it (`getNextOrderNumber_free`).

Suffixes are natural numbers here, which is what `parseInt` yields of digits below `2 ^ 53`.
-/

namespace RwServer

open NumericSuffix
open scoped List

/-! ## Order numbers -/

/-- What `getNextOrderNumber` reads of an order. -/
structure NumberedOrder where
  siteId : Uuid
  orderNumber : String
  createdAt : Time
  deletedAt : Option Time
deriving DecidableEq, Repr

/-- What `.` does not match in a regular expression. -/
def isLineTerminator (c : Char) : Bool := [10, 13, 0x2028, 0x2029].contains c.toNat

structure ParsedOrderNumber where
  orderPrefix : String
  number : ℕ
  width : ℕ
deriving DecidableEq, Repr

/-- `parseOrderNumber`, by `/^(.*?)(\d+)$/`. -/
def parseOrderNumber (orderNumber : String) : Option ParsedOrderNumber :=
  (lazySplit Char.isDigit (fun c ↦ !isLineTerminator c) orderNumber.toList).map fun found ↦
    ⟨String.ofList found.1, Nat.ofDigitChars 10 found.2 0, found.2.length⟩

def defaultOrderPrefix : String := "SO-"

def defaultOrderWidth : ℕ := 3

/-! ## The next one -/

/-- `maxNum` and `width`. -/
structure LargestSuffix where
  maxNum : ℕ
  width : ℕ
deriving DecidableEq, Repr

/-- The prefix of the first live order that has one. -/
def currentPrefix (orders : List NumberedOrder) : String :=
  (orders.findSome? fun o ↦ if o.deletedAt.isSome then none
    else (parseOrderNumber o.orderNumber).map ParsedOrderNumber.orderPrefix).getD defaultOrderPrefix

/-- One round of the loop over all orders, deleted ones included. -/
def scanSuffix (orderPrefix : String) (largest : LargestSuffix) (o : NumberedOrder) :
    LargestSuffix :=
  match parseOrderNumber o.orderNumber with
  | none => largest
  | some parsed =>
    if parsed.orderPrefix = orderPrefix ∧ largest.maxNum < parsed.number
      then ⟨parsed.number, parsed.width⟩ else largest

def largestSuffix (orders : List NumberedOrder) : LargestSuffix :=
  orders.foldl (scanSuffix (currentPrefix orders)) ⟨0, defaultOrderWidth⟩

/-- The prefix and the number, padded with zeros. -/
def formatOrderNumber (orderPrefix : String) (number width : ℕ) : String :=
  orderPrefix ++ String.ofList ((toString number).toList.leftpad width '0')

/-- `getNextOrderNumber`, of the orders that `findMany` yields. -/
def getNextOrderNumber (orders : List NumberedOrder) : String :=
  formatOrderNumber (currentPrefix orders) ((largestSuffix orders).maxNum + 1)
    (largestSuffix orders).width

/-- `findMany`: the orders of a site, by `createdAt desc`; of equal ones in any order. -/
structure NewestFirst (rows : List NumberedOrder) (siteId : Uuid) (orders : List NumberedOrder) :
    Prop where
  perm : orders ~ rows.filter fun o ↦ o.siteId == siteId
  sorted : orders.Pairwise fun a b ↦ b.createdAt ≤ a.createdAt

/-! ## Parsing -/

variable {orderPrefix : String} {orders rows : List NumberedOrder} {siteId : Uuid}
  {parsed : ParsedOrderNumber}

/-- A prefix that parsing yields. -/
def IsOrderPrefix (orderPrefix : String) : Prop :=
  (∀ c ∈ orderPrefix.toList, isLineTerminator c = false) ∧
    ¬EndsIn Char.isDigit orderPrefix.toList

theorem isOrderPrefix_of_parse {orderNumber : String}
    (h : parseOrderNumber orderNumber = some parsed) : IsOrderPrefix parsed.orderPrefix := by
  obtain ⟨⟨pre, suf⟩, hsplit, rfl⟩ := Option.map_eq_some_iff.mp h
  obtain ⟨-, -, hpre, -, hend⟩ := lazySplit_eq_some_iff.mp hsplit
  refine ⟨fun c hc ↦ ?_, ?_⟩
  · rw [String.toList_ofList] at hc
    exact (Bool.not_eq_true' _).mp (hpre c hc)
  · rwa [String.toList_ofList]

theorem isOrderPrefix_default : IsOrderPrefix defaultOrderPrefix := by
  have hlist : defaultOrderPrefix.toList = ['S', 'O'] ++ ['-'] := rfl
  rw [IsOrderPrefix, hlist, endsIn_append_singleton_iff]
  exact ⟨by simp [isLineTerminator], Bool.false_ne_true⟩

/-- **The number parses back**: into the prefix and the count, whatever the width. -/
theorem parseOrderNumber_format (h : IsOrderPrefix orderPrefix) (number width : ℕ) :
    ∃ parsed, parseOrderNumber (formatOrderNumber orderPrefix number width) = some parsed ∧
      parsed.orderPrefix = orderPrefix ∧ parsed.number = number := by
  have hpre : ∀ c ∈ orderPrefix.toList, (!isLineTerminator c) = true := fun c hc ↦ by
    rw [h.1 c hc]
    rfl
  have hlist : (formatOrderNumber orderPrefix number width).toList
      = orderPrefix.toList ++ padded width number := by
    rw [formatOrderNumber, String.toList_append, String.toList_ofList,
      Nat.toString_eq_ofList_toDigits, String.toList_ofList]
    rfl
  refine ⟨⟨orderPrefix, number, (padded width number).length⟩, ?_, rfl, rfl⟩
  rw [parseOrderNumber, hlist, lazySplit_append_padded hpre h.2, Option.map_some,
    ofDigitChars_padded, String.ofList_toList]

/-- A number without line breaks parses if it ends in a digit. -/
theorem exists_parse_iff {orderNumber : String}
    (h : ∀ c ∈ orderNumber.toList, isLineTerminator c = false) :
    (∃ parsed, parseOrderNumber orderNumber = some parsed) ↔
      EndsIn Char.isDigit orderNumber.toList := by
  have hq : ∀ c ∈ orderNumber.toList, (!isLineTerminator c) = true := fun c hc ↦ by
    rw [h c hc]
    rfl
  rw [← exists_lazySplit_iff hq, ← Option.isSome_iff_exists, ← Option.isSome_iff_exists,
    parseOrderNumber, Option.isSome_map]

/-! ## The prefix -/

/-- A live order of the site whose number ends in digits. -/
structure NumberedOrder.Counts (siteId : Uuid) (o : NumberedOrder) : Prop where
  site : o.siteId = siteId
  live : o.deletedAt = none
  endsInDigit : EndsIn Char.isDigit o.orderNumber.toList

theorem NewestFirst.mem_iff (h : NewestFirst rows siteId orders) {o : NumberedOrder} :
    o ∈ orders ↔ o ∈ rows ∧ o.siteId = siteId := by
  rw [h.perm.mem_iff, List.mem_filter, beq_iff_eq]

/-- The prefix is that of the newest order that counts. -/
theorem currentPrefix_spec (h : NewestFirst rows siteId orders)
    (hbreaks : ∀ o ∈ rows, o.siteId = siteId →
      ∀ c ∈ o.orderNumber.toList, isLineTerminator c = false) :
    (∃ o ∈ rows, o.Counts siteId ∧ (∀ o' ∈ rows, o'.Counts siteId → o'.createdAt ≤ o.createdAt) ∧
        ∃ parsed ∈ parseOrderNumber o.orderNumber, parsed.orderPrefix = currentPrefix orders) ∨
      (∀ o ∈ rows, ¬o.Counts siteId) ∧ currentPrefix orders = defaultOrderPrefix := by
  -- an order that counts is not passed over
  have hfound : ∀ o ∈ rows, o.Counts siteId → (if o.deletedAt.isSome then none
      else (parseOrderNumber o.orderNumber).map ParsedOrderNumber.orderPrefix) ≠ none := by
    intro o ho hcounts hnone
    obtain ⟨parsed, hparsed⟩ := (exists_parse_iff (hbreaks o ho hcounts.site)).mpr
      hcounts.endsInDigit
    rw [hcounts.live, hparsed] at hnone
    cases hnone
  rw [currentPrefix]
  cases hfirst : orders.findSome? fun o ↦ if o.deletedAt.isSome then none
    else (parseOrderNumber o.orderNumber).map ParsedOrderNumber.orderPrefix with
  | none =>
    refine .inr ⟨fun o ho hcounts ↦ hfound o ho hcounts ?_, rfl⟩
    exact List.findSome?_eq_none_iff.mp hfirst o (h.mem_iff.mpr ⟨ho, hcounts.site⟩)
  | some orderPrefix =>
    obtain ⟨newer, o, older, rfl, ho, hnewer⟩ := List.findSome?_eq_some_iff.mp hfirst
    obtain ⟨hmem, hsite⟩ := h.mem_iff.mp (List.mem_append_right newer List.mem_cons_self)
    have hlive : o.deletedAt = none := by
      cases hdeleted : o.deletedAt with
      | none => rfl
      | some deletedAt =>
        rw [hdeleted] at ho
        cases ho
    rw [hlive] at ho
    obtain ⟨parsed, hparsed, rfl⟩ := Option.map_eq_some_iff.mp ho
    have hdigit := (exists_parse_iff (hbreaks o hmem hsite)).mp ⟨parsed, hparsed⟩
    refine .inl ⟨o, hmem, ⟨hsite, hlive, hdigit⟩, fun o' ho' hcounts ↦ ?_, parsed, hparsed, rfl⟩
    have hsorted := List.pairwise_append.mp h.sorted
    rcases List.mem_append.mp (h.mem_iff.mpr ⟨ho', hcounts.site⟩) with hin | hin
    · exact absurd (hnewer o' hin) (hfound o' ho' hcounts)
    · rcases List.mem_cons.mp hin with rfl | hin
      · exact le_rfl
      · exact (List.pairwise_cons.mp hsorted.2.1).1 o' hin

theorem isOrderPrefix_current (orders : List NumberedOrder) :
    IsOrderPrefix (currentPrefix orders) := by
  rw [currentPrefix]
  cases hfirst : orders.findSome? fun o ↦ if o.deletedAt.isSome then none
    else (parseOrderNumber o.orderNumber).map ParsedOrderNumber.orderPrefix with
  | none => exact isOrderPrefix_default
  | some orderPrefix =>
    obtain ⟨o, -, ho⟩ := List.exists_of_findSome?_eq_some hfirst
    split at ho
    · cases ho
    · obtain ⟨parsed, hparsed, rfl⟩ := Option.map_eq_some_iff.mp ho
      exact isOrderPrefix_of_parse hparsed

/-! ## The count -/

/-- One round keeps what has been counted, and counts the order. -/
theorem le_scanSuffix (orderPrefix : String) (largest : LargestSuffix) (o : NumberedOrder) :
    largest.maxNum ≤ (scanSuffix orderPrefix largest o).maxNum ∧
      ∀ parsed ∈ parseOrderNumber o.orderNumber, parsed.orderPrefix = orderPrefix →
        parsed.number ≤ (scanSuffix orderPrefix largest o).maxNum := by
  rw [scanSuffix]
  cases hparsed : parseOrderNumber o.orderNumber with
  | none => exact ⟨le_rfl, fun _ h ↦ by cases h⟩
  | some parsed =>
    dsimp only
    split
    · rename_i hlarger
      refine ⟨hlarger.2.le, fun parsed' h _ ↦ ?_⟩
      cases h
      exact le_rfl
    · rename_i hnot
      refine ⟨le_rfl, fun parsed' h hstem ↦ ?_⟩
      cases h
      exact not_lt.mp fun hlt ↦ hnot ⟨hstem, hlt⟩

theorem le_foldl_scanSuffix (orderPrefix : String) (orders : List NumberedOrder) :
    ∀ largest : LargestSuffix,
      largest.maxNum ≤ (orders.foldl (scanSuffix orderPrefix) largest).maxNum ∧
      ∀ o ∈ orders, ∀ parsed ∈ parseOrderNumber o.orderNumber, parsed.orderPrefix = orderPrefix →
        parsed.number ≤ (orders.foldl (scanSuffix orderPrefix) largest).maxNum := by
  induction orders with
  | nil => exact fun _ ↦ ⟨le_rfl, fun _ h ↦ absurd h List.not_mem_nil⟩
  | cons o orders ih =>
    intro largest
    obtain ⟨hkeeps, hcounts⟩ := le_scanSuffix orderPrefix largest o
    obtain ⟨hrest, hall⟩ := ih (scanSuffix orderPrefix largest o)
    rw [List.foldl_cons]
    refine ⟨hkeeps.trans hrest, fun o' ho' parsed hparsed hstem ↦ ?_⟩
    rcases List.mem_cons.mp ho' with rfl | ho'
    · exact (hcounts parsed hparsed hstem).trans hrest
    · exact hall o' ho' parsed hparsed hstem

/-- **The next number is free.** No order of the site has it, live or deleted; its prefix is that of
the newest live order that ends in digits, or the default one where no live order does; and it is
larger than all numbers with this prefix. -/
theorem getNextOrderNumber_free (h : NewestFirst rows siteId orders)
    (hbreaks : ∀ o ∈ rows, o.siteId = siteId →
      ∀ c ∈ o.orderNumber.toList, isLineTerminator c = false) :
    ∃ next, parseOrderNumber (getNextOrderNumber orders) = some next ∧
      (∀ o ∈ rows, o.siteId = siteId → o.orderNumber ≠ getNextOrderNumber orders) ∧
      ((∃ o ∈ rows, o.Counts siteId ∧
          (∀ o' ∈ rows, o'.Counts siteId → o'.createdAt ≤ o.createdAt) ∧
          ∃ parsed ∈ parseOrderNumber o.orderNumber, parsed.orderPrefix = next.orderPrefix) ∨
        (∀ o ∈ rows, ¬o.Counts siteId) ∧ next.orderPrefix = defaultOrderPrefix) ∧
      ∀ o ∈ rows, o.siteId = siteId → ∀ parsed ∈ parseOrderNumber o.orderNumber,
        parsed.orderPrefix = next.orderPrefix → parsed.number < next.number := by
  obtain ⟨next, hnext, hstem, hnumber⟩ := parseOrderNumber_format (isOrderPrefix_current orders)
    ((largestSuffix orders).maxNum + 1) (largestSuffix orders).width
  have hlarger : ∀ o ∈ rows, o.siteId = siteId → ∀ parsed ∈ parseOrderNumber o.orderNumber,
      parsed.orderPrefix = next.orderPrefix → parsed.number < next.number := by
    intro o ho hsite parsed hparsed hsame
    rw [hnumber]
    exact Nat.lt_succ_of_le ((le_foldl_scanSuffix (currentPrefix orders) orders _).2 o
      (h.mem_iff.mpr ⟨ho, hsite⟩) parsed hparsed (hsame.trans hstem))
  refine ⟨next, hnext, fun o ho hsite heq ↦ ?_, ?_, hlarger⟩
  · -- an order with the number would have counted
    have hparsed : parseOrderNumber o.orderNumber = some next := heq ▸ hnext
    exact absurd (hlarger o ho hsite next hparsed rfl) (lt_irrefl _)
  · rw [hstem]
    exact currentPrefix_spec h hbreaks

/-- A live order, a younger one that has been deleted, and one without a number. -/
def threeOrderNumbers : List NumberedOrder :=
  [⟨1, "Rework", 30, none⟩, ⟨1, "SO-010", 20, some 25⟩, ⟨1, "SO-009", 10, none⟩]

theorem getNextOrderNumber_free_threeOrderNumbers : ∃ next,
    parseOrderNumber (getNextOrderNumber threeOrderNumbers) = some next ∧
      ∀ o ∈ threeOrderNumbers, o.siteId = 1 →
        o.orderNumber ≠ getNextOrderNumber threeOrderNumbers := by
  have hall : threeOrderNumbers.filter (fun o ↦ o.siteId == 1) = threeOrderNumbers := rfl
  have hnewest : NewestFirst threeOrderNumbers 1 threeOrderNumbers :=
    ⟨hall.symm ▸ .refl _, by decide⟩
  obtain ⟨next, hnext, hfree, -⟩ := getNextOrderNumber_free hnewest
    (by simp [threeOrderNumbers, isLineTerminator])
  exact ⟨next, hnext, hfree⟩

end RwServer
