import Mathlib.Logic.Function.Basic
import Mathlib.Order.Basic

/-!
# Queues of delayed jobs

A queue holds at most one job under an id. A job waits for its time, is taken by a worker from then
on, and is gone once the worker is through with it, or stays with what has become of it. Adding a
job under an id that exists is ignored, and so is removing a job that a worker has taken.

Every operation sets the queue under one id only, and the lemmas below say to what. The rule for
jobs is `All`: what holds of every job is kept by `remove` and `finish` without any proof, and by
the others when it holds of the one job they put in.
-/

/-- A job: what it carries, the time it waits for, and whether a worker has taken it. -/
structure DelayedJob (τ δ : Type*) where
  data : δ
  due : τ
  active : Bool
deriving DecidableEq

/-- At most one job under every id. -/
structure DelayQueue (κ τ δ : Type*) where
  find : κ → Option (DelayedJob τ δ)

namespace DelayQueue

variable {κ τ δ : Type*} [DecidableEq κ]

/-- A queue without jobs. -/
def empty : DelayQueue κ τ δ := ⟨fun _ ↦ none⟩

/-- The queue with another content under one id. -/
def set (q : DelayQueue κ τ δ) (id : κ) (job : Option (DelayedJob τ δ)) : DelayQueue κ τ δ :=
  ⟨Function.update q.find id job⟩

/-- Add a job; ignored where the id exists, whatever the job there is doing. -/
def add (q : DelayQueue κ τ δ) (id : κ) (data : δ) (due : τ) : DelayQueue κ τ δ :=
  match q.find id with
  | some _ => q
  | none => q.set id (some ⟨data, due, false⟩)

/-- Remove a job; no effect on one that a worker has taken. -/
def remove (q : DelayQueue κ τ δ) (id : κ) : DelayQueue κ τ δ :=
  match q.find id with
  | some job => if job.active then q else q.set id none
  | none => q

/-- A worker takes a job whose time has come. -/
def fire [LE τ] [DecidableLE τ] (q : DelayQueue κ τ δ) (id : κ) (now : τ) :
    Option (DelayQueue κ τ δ) :=
  match q.find id with
  | some job =>
    if job.active = false ∧ job.due ≤ now then some (q.set id (some { job with active := true }))
    else none
  | none => none

/-- The worker is through with a job, which is removed. -/
def finish (q : DelayQueue κ τ δ) (id : κ) : Option (DelayQueue κ τ δ) :=
  match q.find id with
  | some job => if job.active then some (q.set id none) else none
  | none => none

/-- The worker is through with a job, which stays, with other data. -/
def keep (q : DelayQueue κ τ δ) (id : κ) (data : δ) : Option (DelayQueue κ τ δ) :=
  match q.find id with
  | some job =>
    if job.active then some (q.set id (some { job with data, active := false })) else none
  | none => none

variable {q q' : DelayQueue κ τ δ} {id id' : κ}

@[simp] theorem find_set_self (job : Option (DelayedJob τ δ)) : (q.set id job).find id = job :=
  Function.update_self _ _ _

theorem find_set_of_ne (h : id' ≠ id) (job : Option (DelayedJob τ δ)) :
    (q.set id job).find id' = q.find id' :=
  Function.update_of_ne h _ _

/-! ## What the operations do -/

theorem find_add (data : δ) (due : τ) :
    (q.add id data due).find id = some ((q.find id).getD ⟨data, due, false⟩) := by
  rw [add]
  cases h : q.find id with
  | none => exact find_set_self _
  | some job => exact h

theorem find_add_of_none (h : q.find id = none) (data : δ) (due : τ) :
    (q.add id data due).find id = some ⟨data, due, false⟩ := by
  rw [find_add, h, Option.getD_none]

theorem add_of_some {job : DelayedJob τ δ} (h : q.find id = some job) (data : δ) (due : τ) :
    q.add id data due = q := by
  rw [add, h]

theorem remove_of_active {job : DelayedJob τ δ} (h : q.find id = some job)
    (hactive : job.active = true) : q.remove id = q := by
  rw [remove, h]
  exact if_pos hactive

theorem fire_cases [LE τ] [DecidableLE τ] {now : τ} (h : q.fire id now = some q') :
    ∃ job, q.find id = some job ∧ job.active = false ∧ job.due ≤ now ∧
      q' = q.set id (some { job with active := true }) := by
  rw [fire] at h
  cases hfind : q.find id with
  | none =>
    rw [hfind] at h
    cases h
  | some job =>
    rw [hfind] at h
    dsimp only at h
    split at h
    · rename_i hdue
      cases h
      exact ⟨job, rfl, hdue.1, hdue.2, rfl⟩
    · cases h

theorem finish_cases (h : q.finish id = some q') :
    ∃ job, q.find id = some job ∧ job.active = true ∧ q' = q.set id none := by
  rw [finish] at h
  cases hfind : q.find id with
  | none =>
    rw [hfind] at h
    cases h
  | some job =>
    rw [hfind] at h
    dsimp only at h
    split at h
    · rename_i hactive
      cases h
      exact ⟨job, rfl, hactive, rfl⟩
    · cases h

theorem keep_cases {data : δ} (h : q.keep id data = some q') :
    ∃ job, q.find id = some job ∧ job.active = true ∧
      q' = q.set id (some { job with data, active := false }) := by
  rw [keep] at h
  cases hfind : q.find id with
  | none =>
    rw [hfind] at h
    cases h
  | some job =>
    rw [hfind] at h
    dsimp only at h
    split at h
    · rename_i hactive
      cases h
      exact ⟨job, rfl, hactive, rfl⟩
    · cases h

/-! ## What holds of all jobs -/

/-- `P` holds of the jobs of the queue. -/
def All (q : DelayQueue κ τ δ) (P : κ → DelayedJob τ δ → Prop) : Prop :=
  ∀ id job, q.find id = some job → P id job

variable {P P' : κ → DelayedJob τ δ → Prop}

omit [DecidableEq κ] in
theorem All.mono (h : q.All P) (hP : ∀ id job, P id job → P' id job) : q.All P' :=
  fun id job hfind ↦ hP id job (h id job hfind)

omit [DecidableEq κ] in
theorem all_empty : (empty : DelayQueue κ τ δ).All P :=
  fun _ _ h ↦ absurd h (Option.some_ne_none _).symm

theorem All.set (h : q.All P) {job : Option (DelayedJob τ δ)} (hjob : ∀ j ∈ job, P id j) :
    (q.set id job).All P := by
  intro id' j hfind
  by_cases hid : id' = id
  · rw [hid, find_set_self] at hfind
    exact hid ▸ hjob j hfind
  · rw [find_set_of_ne hid] at hfind
    exact h id' j hfind

theorem All.add (h : q.All P) {data : δ} {due : τ} (hjob : P id ⟨data, due, false⟩) :
    (q.add id data due).All P := by
  cases hfind : q.find id with
  | some job => rwa [add_of_some hfind]
  | none =>
    rw [DelayQueue.add, hfind]
    refine h.set fun j hj ↦ ?_
    cases hj
    exact hjob

theorem All.remove (h : q.All P) : (q.remove id).All P := by
  rw [DelayQueue.remove]
  cases q.find id with
  | none => exact h
  | some job =>
    dsimp only
    split
    · exact h
    · exact h.set fun _ hj ↦ absurd hj (by simp)

theorem All.fire [LE τ] [DecidableLE τ] {now : τ} (h : q.All P)
    (hjob : ∀ job, P id job → job.due ≤ now → P id { job with active := true })
    (hfire : q.fire id now = some q') : q'.All P := by
  obtain ⟨job, hfind, -, hdue, rfl⟩ := fire_cases hfire
  refine h.set fun j hj ↦ ?_
  cases hj
  exact hjob job (h id job hfind) hdue

theorem All.finish (h : q.All P) (hfinish : q.finish id = some q') : q'.All P := by
  obtain ⟨job, -, -, rfl⟩ := finish_cases hfinish
  exact h.set fun _ hj ↦ absurd hj (by simp)

end DelayQueue
