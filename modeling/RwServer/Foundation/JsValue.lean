import Mathlib

/-!
# JavaScript values

The values a program written in JavaScript gets from parsed JSON, with the conversions its operators
rest on. A number is an extended rational: a parsed text may be infinite (`1e999`), and `NaN`, which
no JSON text is, only arises as the result of a conversion, where it is `none`. An object or array
is known by its reference alone: strict equality compares references.

How texts and numbers are converted into each other is the language's business and is not needed to
be known in detail: a `Conversions` says what `Number` gives on a string and `String` on a number or
an object, and what follows holds for all of them.

Texts are ordered by their UTF-16 code units, so not by their characters; that a text is known by
its units (`units_injective`) is what makes `<` and `>` decide equality.
-/

/-- A number other than `NaN`: a rational, or one of the two infinities. -/
abbrev JsNumber := WithBot (WithTop ℚ)

/-- A value: what parsed JSON holds, and `undefined` for a property that is not there. -/
inductive JsValue
  | undefined
  | null
  | boolean (b : Bool)
  | number (x : JsNumber)
  | string (s : String)
  | object (reference : ℕ)
  deriving DecidableEq

/-- The conversions between texts and the other values. -/
structure Conversions where
  /-- `Number(s)`; `none` is `NaN`. -/
  numberOfString : String → Option JsNumber
  /-- `String(x)` of a number. -/
  stringOfNumber : JsNumber → String
  /-- `String(o)` of an object. -/
  stringOfObject : ℕ → String

namespace JsValue

variable (conv : Conversions)

/-- `String(value)`. -/
def toText : JsValue → String
  | undefined => "undefined"
  | null => "null"
  | boolean true => "true"
  | boolean false => "false"
  | number x => conv.stringOfNumber x
  | string s => s
  | object reference => conv.stringOfObject reference

/-- `Number(value)`; `none` is `NaN`. -/
def toNumber? : JsValue → Option JsNumber
  | undefined => none
  | null => some (((0 : ℚ) : WithTop ℚ) : WithBot (WithTop ℚ))
  | boolean true => some (((1 : ℚ) : WithTop ℚ) : WithBot (WithTop ℚ))
  | boolean false => some (((0 : ℚ) : WithTop ℚ) : WithBot (WithTop ℚ))
  | number x => some x
  | string s => conv.numberOfString s
  | object reference => conv.numberOfString (conv.stringOfObject reference)

/-- `value ?? other`: another value where there is none. -/
def orElse (value other : JsValue) : JsValue :=
  match value with
  | undefined => other
  | null => other
  | value => value

end JsValue

/-! ## Numbers -/

namespace JsNumber

/-- `Number.isFinite(x)`. -/
def isFinite : JsNumber → Bool
  | some (some _) => true
  | _ => false

/-- The sign of `a - b`. There is none when a side is `NaN`, and none for an infinity less itself,
which is `NaN`. -/
def differenceSign (a b : Option JsNumber) : Option Ordering :=
  match a, b with
  | some a, some b => if a = b then if isFinite a then some .eq else none else some (cmp a b)
  | _, _ => none

/-- A finite number less any other has the sign of their order. -/
theorem differenceSign_coe (q : ℚ) (b : JsNumber) :
    differenceSign (some ((q : WithTop ℚ) : JsNumber)) (some b) =
      some (cmp ((q : WithTop ℚ) : JsNumber) b) := by
  simp only [differenceSign]
  split_ifs with h hfinite
  · rw [(cmp_eq_eq_iff _ _).mpr h]
  · exact absurd rfl hfinite
  · rfl

end JsNumber

/-! ## Texts -/


namespace JsText

/-- The characters `trim` removes: white space and line ends. -/
def isWhitespace (c : Char) : Bool :=
  c.toNat ∈ [0x09, 0x0A, 0x0B, 0x0C, 0x0D, 0x20, 0xA0, 0x1680, 0x2028, 0x2029, 0x202F, 0x205F,
    0x3000, 0xFEFF] || (0x2000 ≤ c.toNat && c.toNat ≤ 0x200A)

/-- `s.trim()`. -/
def trim (s : String) : String :=
  .ofList (((s.toList.dropWhile isWhitespace).reverse.dropWhile isWhitespace).reverse)

/-- `s.includes(t)`. -/
def includes (s t : String) : Bool := decide (t.toList <:+: s.toList)

/-- `s.startsWith(t)`. -/
def startsWith (s t : String) : Bool := decide (t.toList <+: s.toList)

/-- The UTF-16 code units of a character: itself, or a surrogate pair. -/
def unitsOfChar (c : Char) : List ℕ :=
  if c.toNat < 0x10000 then [c.toNat]
  else [0xD800 + (c.toNat - 0x10000) / 0x400, 0xDC00 + (c.toNat - 0x10000) % 0x400]

/-- The UTF-16 code units of a text. -/
def units (s : String) : List ℕ := s.toList.flatMap unitsOfChar

/-- `a < b ? -1 : a > b ? 1 : 0` on texts, which are compared unit by unit. -/
def compareUnits (a b : String) : Ordering :=
  if units a < units b then .lt else if units b < units a then .gt else .eq

/-- A character is no surrogate. -/
theorem toNat_not_surrogate (c : Char) :
    c.toNat < 0xD800 ∨ 0xDFFF < c.toNat ∧ c.toNat < 0x110000 := c.valid

theorem unitsOfChar_ne_nil (c : Char) : unitsOfChar c ≠ [] := by
  unfold unitsOfChar
  split <;> simp

/-- What is read off the front of a text is its first character. -/
theorem unitsOfChar_append_inj {c d : Char} {xs ys : List ℕ}
    (h : unitsOfChar c ++ xs = unitsOfChar d ++ ys) : c = d ∧ xs = ys := by
  have hc := toNat_not_surrogate c
  have hd := toNat_not_surrogate d
  have hcd : c.toNat = d.toNat ∧ xs = ys := by
    unfold unitsOfChar at h
    split at h <;> split at h <;>
      simp only [List.cons_append, List.nil_append, List.cons.injEq] at h
    case isTrue.isTrue => exact h
    case isTrue.isFalse => omega
    case isFalse.isTrue => omega
    case isFalse.isFalse => exact ⟨by omega, h.2.2⟩
  exact ⟨Char.toNat_inj.mp hcd.1, hcd.2⟩

/-- A text is known by its code units. -/
theorem units_injective : Function.Injective units := by
  intro a b h
  suffices key : ∀ xs ys : List Char, xs.flatMap unitsOfChar = ys.flatMap unitsOfChar → xs = ys from
    String.toList_inj.mp (key _ _ h)
  intro xs
  induction xs with
  | nil =>
    intro ys hys
    cases ys with
    | nil => rfl
    | cons d ys => exact absurd hys (by simp [unitsOfChar_ne_nil])
  | cons c xs ih =>
    intro ys hys
    cases ys with
    | nil => exact absurd hys (by simp [unitsOfChar_ne_nil])
    | cons d ys =>
      obtain ⟨rfl, hrest⟩ := unitsOfChar_append_inj hys
      rw [ih ys hrest]

/-- Texts compare as equal only when they are. -/
@[simp] theorem compareUnits_eq_iff {a b : String} : compareUnits a b = .eq ↔ a = b := by
  refine ⟨fun h ↦ ?_, fun h ↦ by simp [compareUnits, h]⟩
  unfold compareUnits at h
  split at h
  · exact nomatch h
  · split at h
    · exact nomatch h
    · exact units_injective (le_antisymm (not_lt.mp ‹_›) (not_lt.mp ‹_›))

end JsText
