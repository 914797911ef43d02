import Mathlib.Data.List.Basic
import RwServer.Foundation.Calls

/-!
# Programs that remember

A lookup that is expensive keeps its results in caches: it first asks a cache for the value under a
key, and after a miss it computes the value and stores it. A `Memo` is such a program, with nothing
left of it but what it asks the caches and what it stores. It may ask several caches, and store
under several keys.

What a cache may hold is given by a relation, `right k v`: the value `v` is right for the key `k`.
`Ensures right p post` is the weakest precondition, for caches that hold only right values: whatever
hits and misses come, `p` stores only right values, and ends with a result that meets `post`. A
cache may forget at any time (`Caches`); so nothing depends on what it still holds.

Where the keys of a cache are texts, they are joined from parts that do not have the separator in
them, and different parts give different keys (`joinKey_inj`).

`result_of_run` is the rule: programs that run on shared caches, in any interleaving, end with the
results that they have with empty ones.
-/

namespace Transition

/-- A program with the keys `κ`, the values `V k` under a key `k`, and a result in `α`. -/
inductive Memo (κ : Type*) (V : κ → Type*) (α : Type*)
  | done (a : α)
  | get (k : κ) (next : Option (V k) → Memo κ V α)
  | set (k : κ) (v : V k) (next : Memo κ V α)

namespace Memo

variable {κ : Type*} {V : κ → Type*} {α β : Type*}

/-- One program after the other. -/
def bind : Memo κ V α → (α → Memo κ V β) → Memo κ V β
  | .done a, f => f a
  | .get k next, f => .get k fun v => (next v).bind f
  | .set k v next, f => .set k v (next.bind f)

def map (f : α → β) (p : Memo κ V α) : Memo κ V β := p.bind fun a ↦ .done (f a)

/-- The result of a program that has ended. -/
def result? : Memo κ V α → Option α
  | .done a => some a
  | .get _ _ => none
  | .set _ _ _ => none

/-- The value under a key, computed by `p` after a miss. -/
def cached (k : κ) (p : Memo κ V (V k)) : Memo κ V (V k) :=
  .get k fun
    | some v => .done v
    | none => p.bind fun v => .set k v (.done v)

/-- The value under a key, computed by `p` after a miss, where `p` may fail; a failure is not
stored. -/
def cachedSome (k : κ) (p : Memo κ V (Option (V k))) : Memo κ V (Option (V k)) :=
  .get k fun
    | some v => .done (some v)
    | none => p.bind fun
      | some v => .set k v (.done (some v))
      | none => .done none

/-- On caches that hold only right values, `p` stores only right ones and its result meets
`post`. -/
def Ensures (right : ∀ k, V k → Prop) : Memo κ V α → (α → Prop) → Prop
  | .done a, post => post a
  | .get k next, post =>
    Ensures right (next none) post ∧ ∀ v, right k v → Ensures right (next (some v)) post
  | .set k v next, post => right k v ∧ Ensures right next post

theorem eq_done_of_result? {p : Memo κ V α} {a : α} (h : p.result? = some a) : p = .done a := by
  cases p with
  | done b => exact congrArg Memo.done (Option.some_inj.mp h)
  | get k next => cases h
  | set k v next => cases h

variable {right : ∀ k, V k → Prop}

theorem Ensures.mono {p : Memo κ V α} {post post' : α → Prop} (h : p.Ensures right post)
    (himp : ∀ a, post a → post' a) : p.Ensures right post' := by
  induction p with
  | done a => exact himp a h
  | get k next ih => exact ⟨ih none h.1, fun v hv ↦ ih (some v) (h.2 v hv)⟩
  | set k v next ih => exact ⟨h.1, ih h.2⟩

theorem Ensures.bind {p : Memo κ V α} {f : α → Memo κ V β} {post : α → Prop} {post' : β → Prop}
    (h : p.Ensures right post) (hf : ∀ a, post a → (f a).Ensures right post') :
    (p.bind f).Ensures right post' := by
  induction p with
  | done a => exact hf a h
  | get k next ih => exact ⟨ih none h.1, fun v hv ↦ ih (some v) (h.2 v hv)⟩
  | set k v next ih => exact ⟨h.1, ih h.2⟩

theorem Ensures.map {p : Memo κ V α} {f : α → β} {post : β → Prop}
    (h : p.Ensures right fun a ↦ post (f a)) : (p.map f).Ensures right post := h.bind fun _ ha ↦ ha

/-- **Remembering changes nothing**: what a program computes right is right from the cache. -/
theorem Ensures.cached {k : κ} {p : Memo κ V (V k)} (h : p.Ensures right (right k)) :
    (p.cached k).Ensures right (right k) :=
  ⟨h.bind fun _ hv ↦ ⟨hv, hv⟩, fun _ hv ↦ hv⟩

theorem Ensures.cachedSome {k : κ} {p : Memo κ V (Option (V k))} {result : Option (V k)}
    (hright : ∀ v, right k v ↔ result = some v) (h : p.Ensures right (· = result)) :
    (p.cachedSome k).Ensures right (· = result) := by
  refine ⟨h.bind fun r hr ↦ ?_, fun v hv ↦ ((hright v).mp hv).symm⟩
  cases r with
  | none => exact hr
  | some v => exact ⟨(hright v).mpr hr.symm, hr⟩

end Memo

/-! ## Caches -/

/-- Caches with the state `σ`. With `ε` come the things from outside that a cache depends on, such
as the time. A cache returns only what it holds, and holds only what has been stored. -/
structure Caches (κ : Type*) (V : κ → Type*) (σ ε : Type*) where
  get : ε → (k : κ) → σ → Option (V k) × σ
  set : ε → (k : κ) → V k → σ → σ
  /-- The cache holds a value under a key. -/
  Holds : σ → (k : κ) → V k → Prop
  holds_of_get : ∀ {x k s v}, (get x k s).1 = some v → Holds s k v
  holds_of_holds_get : ∀ {x k s k' v}, Holds (get x k s).2 k' v → Holds s k' v
  holds_of_holds_set : ∀ {x k v s k' v'}, Holds (set x k v s) k' v' →
    Holds s k' v' ∨ (⟨k', v'⟩ : Sigma V) = ⟨k, v⟩

namespace Caches

variable {κ : Type*} {V : κ → Type*} {σ ε α ι : Type*} (C : Caches κ V σ ε)

/-- The next access of a program to the caches. -/
def statement (_ : ι) (x : ε) (s : σ) : Memo κ V α → Option (σ × Memo κ V α)
  | .done _ => none
  | .get k next => some ((C.get x k s).2, next (C.get x k s).1)
  | .set k v next => some (C.set x k v s, next)

/-- The caches hold only right values. -/
def Correct (right : ∀ k, V k → Prop) (s : σ) : Prop := ∀ k v, C.Holds s k v → right k v

variable {C} {right : ∀ k, V k → Prop}

/-- **One access** keeps the caches right, and the promise of its program. -/
theorem correct_of_statement {i : ι} {x : ε} {s s' : σ} {p p' : Memo κ V α} {post : α → Prop}
    (hs : C.Correct right s) (hp : p.Ensures right post) (h : C.statement i x s p = some (s', p')) :
    C.Correct right s' ∧ p'.Ensures right post := by
  cases p with
  | done a => cases h
  | get k next =>
    cases h
    refine ⟨fun k' v hv ↦ hs k' v (C.holds_of_holds_get hv), ?_⟩
    cases hget : (C.get x k s).1 with
    | none => exact hp.1
    | some v => exact hp.2 v (hs k v (C.holds_of_get hget))
  | set k v next =>
    cases h
    refine ⟨fun k' v' hv ↦ ?_, hp.2⟩
    rcases C.holds_of_holds_set hv with hold | heq
    · exact hs k' v' hold
    · cases heq
      exact hp.1

/-- **The rule.** In every interleaving of programs on shared caches, the caches stay right, and a
program that has ended has the result it is to have. -/
theorem result_of_run [DecidableEq ι] {ok : Calls ι σ (Memo κ V α) → ι × ε → Prop} {s₀ : σ}
    {programs : ι → Memo κ V α} {post : ι → α → Prop} {steps : List (ι × ε)}
    {s : Calls ι σ (Memo κ V α)} (hs : C.Correct right s₀)
    (hprograms : ∀ i, (programs i).Ensures right (post i))
    (hrun : Run (Calls.step C.statement) ok ⟨s₀, programs⟩ steps s) :
    C.Correct right s.store ∧ ∀ i a, s.phase i = .done a → post i a := by
  have hrule := @Calls.invariant ι ε σ (Memo κ V α) _ C.statement ok (C.Correct right)
    (fun i _ p ↦ p.Ensures right (post i)) ⟨s₀, programs⟩ s steps hs hprograms
  obtain ⟨hstore, hphase⟩ := hrule (fun s i x s' p' _ hI hA hstatement ↦ by
    have hkeeps := correct_of_statement hI hA hstatement
    exact ⟨hkeeps.1, hkeeps.2, fun j _ hj ↦ hj⟩) hrun
  refine ⟨hstore, fun i a hi ↦ ?_⟩
  have hpost := hphase i
  rw [hi] at hpost
  exact hpost

/-- A program that is left to run comes to its end. -/
theorem exists_run_done [DecidableEq ι] (C : Caches κ V σ ε) (i : ι) (x : ε)
    (s : Calls ι σ (Memo κ V α)) : ∃ steps s' a,
      Run (Calls.step C.statement) (fun _ _ ↦ True) s steps s' ∧ s'.phase i = .done a := by
  -- by induction on what is left of the program
  generalize hp : s.phase i = p
  induction p generalizing s with
  | done a => exact ⟨[], s, a, .nil, hp⟩
  | get k next ih =>
    obtain ⟨s₁, hstep, hs₁⟩ : ∃ s₁, Calls.step C.statement (i, x) s = some s₁ ∧
        s₁.phase i = next (C.get x k s.store).1 :=
      ⟨_, Calls.step_eq_some_iff.mpr ⟨_, _, by rw [hp]; rfl, rfl⟩, Function.update_self ..⟩
    obtain ⟨steps, s', a, hrun, ha⟩ := ih _ s₁ hs₁
    exact ⟨(i, x) :: steps, s', a, (Run.snoc .nil trivial hstep).trans hrun, ha⟩
  | set k v next ih =>
    obtain ⟨s₁, hstep, hs₁⟩ : ∃ s₁, Calls.step C.statement (i, x) s = some s₁ ∧
        s₁.phase i = next :=
      ⟨_, Calls.step_eq_some_iff.mpr ⟨_, _, by rw [hp]; rfl, rfl⟩, Function.update_self ..⟩
    obtain ⟨steps, s', a, hrun, ha⟩ := ih s₁ hs₁
    exact ⟨(i, x) :: steps, s', a, (Run.snoc .nil trivial hstep).trans hrun, ha⟩

end Caches

/-! ## Keys that are texts -/

/-- The text of a key, with a separator between its parts. -/
def joinKey (separator : Char) (parts : List String) : String :=
  String.ofList ([separator].intercalate (parts.map String.toList))

theorem joinKey_inj {separator : Char} {parts parts' : List String}
    (hparts : ∀ text ∈ parts, separator ∉ text.toList)
    (hparts' : ∀ text ∈ parts', separator ∉ text.toList) (hne : parts ≠ []) (hne' : parts' ≠ [])
    (h : joinKey separator parts = joinKey separator parts') : parts = parts' := by
  have hsplit : ∀ {l : List String}, (∀ text ∈ l, separator ∉ text.toList) → l ≠ [] →
      ([separator].intercalate (l.map String.toList)).splitOn separator = l.map String.toList :=
    fun {l} hl hne ↦ List.splitOn_intercalate separator (fun chars hchars ↦ by
      obtain ⟨text, htext, rfl⟩ := List.mem_map.mp hchars
      exact hl text htext) fun hnil ↦ hne (List.map_eq_nil_iff.mp hnil)
  have hchars := congrArg (fun text ↦ (String.toList text).splitOn separator) h
  simp only [joinKey, String.toList_ofList] at hchars
  rw [hsplit hparts hne, hsplit hparts' hne'] at hchars
  exact List.map_injective_iff.mpr (fun _ _ heq ↦ String.toList_inj.mp heq) hchars

end Transition
