import Mathlib.Data.List.Basic

/-!
# A queue with a waiting reader

An unbounded queue between a writer that never waits and one reader that does. A value that is
pushed while the reader waits is handed to it, and the reader picks it up when it comes to run
again; other values are kept. Either way the values leave the queue in the order in which they came
(`contents_push`, `contents_take`).
-/

/-- A queue; nothing is in it while its reader waits. -/
structure AsyncQueue (α : Type*) where
  items : List α
  /-- The value that the reader has been handed, and not yet picked up. -/
  handed : Option α
  waiting : Bool
  idle : waiting = true → handed = none ∧ items = []

namespace AsyncQueue

variable {α : Type*}

def empty : AsyncQueue α := ⟨[], none, false, fun h ↦ absurd h Bool.false_ne_true⟩

/-- What is still to be read, in order. -/
def contents (q : AsyncQueue α) : List α := q.handed.toList ++ q.items

def push (q : AsyncQueue α) (a : α) : AsyncQueue α :=
  if q.waiting then ⟨[], some a, false, fun h ↦ absurd h Bool.false_ne_true⟩
  else ⟨q.items ++ [a], q.handed, false, fun h ↦ absurd h Bool.false_ne_true⟩

@[simp] theorem contents_push (q : AsyncQueue α) (a : α) :
    (q.push a).contents = q.contents ++ [a] := by
  rw [push]
  split
  · rename_i hwaiting
    obtain ⟨hhanded, hitems⟩ := q.idle hwaiting
    rw [contents, contents, hhanded, hitems]
    rfl
  · exact (List.append_assoc _ _ _).symm

/-- The next step of the reader: it gets a value, or begins to wait; a reader that waits does
nothing. -/
def take (q : AsyncQueue α) : Option (Option α × AsyncQueue α) :=
  if q.waiting then none
  else match q.handed, q.items with
    | some a, items => some (some a, ⟨items, none, false, fun h ↦ absurd h Bool.false_ne_true⟩)
    | none, a :: items => some (some a, ⟨items, none, false, fun h ↦ absurd h Bool.false_ne_true⟩)
    | none, [] => some (none, ⟨[], none, true, fun _ ↦ ⟨rfl, rfl⟩⟩)

/-- The reader gets what came first. -/
theorem contents_take {q q' : AsyncQueue α} {got : Option α} (h : q.take = some (got, q')) :
    q.contents = got.toList ++ q'.contents := by
  rw [take] at h
  split at h
  · cases h
  rw [contents]
  split at h
  · rename_i a hhanded
    cases h
    rw [hhanded]
    rfl
  · rename_i hhanded hitems
    cases h
    rw [hhanded, hitems]
    rfl
  · rename_i hhanded hitems
    cases h
    rw [hhanded, hitems]
    rfl

/-- A reader for which there is something does not wait. -/
theorem exists_take {q : AsyncQueue α} (h : q.contents ≠ []) : ∃ taken, q.take = some taken := by
  rw [take]
  split
  · rename_i hwaiting
    obtain ⟨hhanded, hitems⟩ := q.idle hwaiting
    exact absurd (by rw [contents, hhanded, hitems]; rfl) h
  · split
    all_goals exact ⟨_, rfl⟩

end AsyncQueue
