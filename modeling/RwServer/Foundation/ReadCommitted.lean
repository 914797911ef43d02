import Mathlib.Data.Fintype.Defs
import Mathlib.Data.List.Basic
import Mathlib.Logic.Function.Basic
import RwServer.Foundation.Run

/-!
# Transactions at READ COMMITTED

A transaction is a `Program`: it runs statements one after the other, takes an advisory lock, and
commits or rolls back. Every statement reads the committed state of the moment together with the
transaction's own writes, and its writes stay invisible to the others until the commit. A statement
whose writes conflict with uncommitted writes of another transaction waits for that one to end, and
a lock waits for its holder; a transaction may be aborted at any time.

`Program.alone` is what a program does when nothing else runs. Two rules reduce a system of
concurrent sessions to it, and a third one keeps the sessions concurrent:

- `LockOutline.sound`: where all sessions write under one lock, each commit has the effect of the
  part of its program from the lock on, run alone on the committed state.
- `committed_of_unoverlapped`: where no session commits after another one has committed since its
  first step, each commit has the effect of the whole program run alone.
- `RowOutline.sound`: what a session knows about the rows it has written stays true until it
  commits, since writes that conflict with its own wait.
-/

namespace ReadCommitted

open Transition

/-- What a database with states `σ` does with a write. -/
structure Store (σ ω : Type*) where
  /-- Carry out a write; `none` when a constraint forbids it. -/
  write : σ → ω → Option σ
  /-- Two writes that two open transactions cannot both hold. -/
  conflict : ω → ω → Bool

variable {σ ω β α ι : Type*}

/-- Carry out several writes, one after the other. -/
def Store.writeAll (S : Store σ ω) (s : σ) (ws : List ω) : Option σ := ws.foldlM S.write s

@[simp] theorem Store.writeAll_nil (S : Store σ ω) (s : σ) : S.writeAll s [] = some s := rfl

theorem Store.writeAll_cons (S : Store σ ω) (s : σ) (w : ω) (ws : List ω) :
    S.writeAll s (w :: ws) = (S.write s w).bind fun s' ↦ S.writeAll s' ws := rfl

theorem Store.writeAll_append (S : Store σ ω) (s : σ) (ws ws' : List ω) :
    S.writeAll s (ws ++ ws') = (S.writeAll s ws).bind fun s' ↦ S.writeAll s' ws' := by
  rw [writeAll, List.foldlM_append]
  rfl

/-- Writes to one component of the state. -/
theorem Store.writeAll_map {S : Store σ ω} {τ ρ : Type*} (get : σ → τ) (set : σ → τ → σ)
    {put : τ → ρ → Option τ} {w : ρ → ω} (hw : ∀ s r, S.write s (w r) = (put (get s) r).map (set s))
    (hget : ∀ s t, get (set s t) = t) (hset : ∀ s t t', set (set s t) t' = set s t')
    (hself : ∀ s, set s (get s) = s) (s : σ) (rs : List ρ) :
    S.writeAll s (rs.map w) = (rs.foldlM put (get s)).map (set s) := by
  induction rs generalizing s with
  | nil => exact congrArg some (hself s).symm
  | cons r rs ih =>
    rw [List.map_cons, writeAll_cons, hw, List.foldlM_cons]
    cases hput : put (get s) r with
    | none => rfl
    | some t =>
      rw [Option.map_some, Option.bind_some, ih, hget]
      exact congrArg (fun f ↦ Option.map f _) (funext fun t' ↦ hset s t t')

/-- The rest of a transaction. A statement computes its writes from what it reads, and the rest
depends on what it read; a lock carries a label that says what the transaction knows by then. -/
inductive Program (σ ω β α : Type*)
  | commit (result : α)
  | rollback
  | lock (label : β) (next : Program σ ω β α)
  | run (writes : σ → List ω) (next : σ → Program σ ω β α)

/-- The program run without interference: the state it commits and its result, or `none` when it
rolls back. -/
def Program.alone (S : Store σ ω) : Program σ ω β α → σ → Option (σ × α)
  | .commit result, s => some (s, result)
  | .rollback, _ => none
  | .lock _ next, s => next.alone S s
  | .run writes next, s => (S.writeAll s (writes s)).bind fun s' ↦ (next s).alone S s'

/-- A statement that only reads. -/
def Program.read {γ : Type*} (f : σ → γ) (next : γ → Program σ ω β α) : Program σ ω β α :=
  .run (fun _ ↦ []) fun s ↦ next (f s)

/-- A statement whose result is not used. -/
def Program.exec (writes : σ → List ω) (next : Program σ ω β α) : Program σ ω β α :=
  .run writes fun _ ↦ next

@[simp] theorem Program.alone_lock (S : Store σ ω) (label : β) (next : Program σ ω β α) (s : σ) :
    (Program.lock label next).alone S s = next.alone S s := rfl

@[simp] theorem Program.alone_read {γ : Type*} (S : Store σ ω) (f : σ → γ)
    (next : γ → Program σ ω β α) (s : σ) :
    (Program.read f next).alone S s = (next (f s)).alone S s := rfl

theorem Program.alone_exec (S : Store σ ω) (writes : σ → List ω) (next : Program σ ω β α)
    (s : σ) : (Program.exec writes next).alone S s
      = (S.writeAll s (writes s)).bind fun s' ↦ next.alone S s' := rfl

/-- The program with another result. -/
def Program.map {γ : Type*} (f : α → γ) : Program σ ω β α → Program σ ω β γ
  | .commit result => .commit (f result)
  | .rollback => .rollback
  | .lock label next => .lock label (next.map f)
  | .run writes next => .run writes fun s ↦ (next s).map f

theorem Program.alone_map {γ : Type*} (S : Store σ ω) (f : α → γ) (p : Program σ ω β α) (s : σ) :
    (p.map f).alone S s = (p.alone S s).map fun r ↦ (r.1, f r.2) := by
  induction p generalizing s with
  | commit result => rfl
  | rollback => rfl
  | lock label next ih => exact ih s
  | run writes next ih =>
    rw [map, alone, alone, Option.map_bind]
    exact Option.bind_congr fun s' _ ↦ ih s s'

/-- Where the program run alone commits, the state it commits meets `Q`. -/
def Program.Ensures (S : Store σ ω) (Q : σ → Prop) (p : Program σ ω β α) (s : σ) : Prop :=
  ∀ s' result, p.alone S s = some (s', result) → Q s'

namespace Program

variable {S : Store σ ω} {Q : σ → Prop} {s : σ}

theorem ensures_commit {result : α} (h : Q s) :
    (commit result : Program σ ω β α).Ensures S Q s := by
  intro s' result' heq
  cases heq
  exact h

theorem ensures_read {γ : Type*} {f : σ → γ} {next : γ → Program σ ω β α}
    (h : (next (f s)).Ensures S Q s) : (Program.read f next).Ensures S Q s := h

theorem ensures_exec {writes : σ → List ω} {next : Program σ ω β α}
    (h : ∀ s₁, S.writeAll s (writes s) = some s₁ → next.Ensures S Q s₁) :
    (exec writes next).Ensures S Q s := by
  intro s' result halone
  rw [alone_exec] at halone
  obtain ⟨s₁, hwrite, halone⟩ := Option.bind_eq_some_iff.mp halone
  exact h s₁ hwrite s' result halone

end Program

/-! ## Sessions -/

inductive Phase
  | active
  | committed
  | aborted
deriving DecidableEq, Repr

/-- A session that executes one transaction. -/
structure Session (σ ω β α : Type*) where
  program : Program σ ω β α
  /-- Its writes so far, not yet visible to the others. -/
  writes : List ω
  /-- The number of commits there had been when it took its first step. -/
  began : Option ℕ
  phase : Phase

/-- A session before its first step. -/
def Session.start (p : Program σ ω β α) : Session σ ω β α := ⟨p, [], none, .active⟩

/-- The sessions `ι` on one database, with one advisory lock. -/
structure System (σ ω β α ι : Type*) where
  committed : σ
  sessions : ι → Session σ ω β α
  holder : Option ι
  /-- The sessions that committed, in this order, each with the `began` it had. -/
  history : List (ι × ℕ)

/-- All sessions before their first step. -/
def System.start (s : σ) (programs : ι → Program σ ω β α) : System σ ω β α ι :=
  ⟨s, fun i ↦ .start (programs i), none, []⟩

/-- What can happen: a session takes its next step, or is aborted. -/
inductive Move (ι : Type*)
  | run (i : ι)
  | abort (i : ι)
deriving DecidableEq, Repr

variable [DecidableEq ι]

namespace System

variable (y : System σ ω β α ι) (i : ι)

/-- What a statement of session `i` reads. -/
def view (S : Store σ ω) : Option σ := S.writeAll y.committed (y.sessions i).writes

/-- Some other open transaction holds a write that conflicts with one of `ws`. -/
def Blocked (S : Store σ ω) (ws : List ω) : Prop :=
  ∃ j, j ≠ i ∧ (y.sessions j).phase = .active ∧
    ∃ w ∈ ws, ∃ w' ∈ (y.sessions j).writes, S.conflict w w' = true

instance [Fintype ι] (S : Store σ ω) (ws : List ω) : Decidable (y.Blocked i S ws) :=
  Fintype.decidableExistsFintype

/-- The `began` of session `i` once it takes a step. -/
def begunAt : ℕ := (y.sessions i).began.getD y.history.length

/-- Session `i` goes on with `program`, having written `ws` more. -/
def proceed (program : Program σ ω β α) (ws : List ω) : System σ ω β α ι :=
  { y with
    sessions := Function.update y.sessions i
      ⟨program, (y.sessions i).writes ++ ws, some (y.begunAt i), .active⟩ }

/-- Session `i` ends; its lock is free again. -/
def finish (phase : Phase) : System σ ω β α ι :=
  { y with
    sessions := Function.update y.sessions i { y.sessions i with phase }
    holder := if y.holder = some i then none else y.holder }

/-- Session `i` commits, and `s` is the committed state from now on. -/
def commit (s : σ) : System σ ω β α ι :=
  { y.finish i .committed with committed := s, history := y.history ++ [(i, y.begunAt i)] }

/-- The next step of session `i`, which is active; `none` while it waits. -/
def runProgram [Fintype ι] (S : Store σ ω) : Program σ ω β α → Option (System σ ω β α ι)
  -- what was committed meanwhile may have made a constraint forbid the writes
  | .commit _ => some (((y.view i S).map (y.commit i)).getD (y.finish i .aborted))
  | .rollback => some (y.finish i .aborted)
  | .lock _ next =>
    if y.holder = none ∨ y.holder = some i then
      some { y.proceed i next [] with holder := some i }
    else none
  | .run writes next =>
    match y.view i S with
    | none => some (y.finish i .aborted)
    | some v =>
      -- a conflicting write of an open transaction is waited for, a forbidden one is an error
      if y.Blocked i S (writes v) then none
      else if (S.writeAll v (writes v)).isSome then some (y.proceed i (next v) (writes v))
      else some (y.finish i .aborted)

end System

/-- One move of the system. -/
def step [Fintype ι] (S : Store σ ω) : Move ι → System σ ω β α ι → Option (System σ ω β α ι)
  | .run i, y =>
    if (y.sessions i).phase = .active then y.runProgram i S (y.sessions i).program else none
  | .abort i, y => if (y.sessions i).phase = .active then some (y.finish i .aborted) else none

/-! ## What a move does -/

namespace System

variable {y : System σ ω β α ι} {i j : ι}

@[simp] theorem proceed_committed (p : Program σ ω β α) (ws : List ω) :
    (y.proceed i p ws).committed = y.committed := rfl

@[simp] theorem proceed_history (p : Program σ ω β α) (ws : List ω) :
    (y.proceed i p ws).history = y.history := rfl

@[simp] theorem proceed_sessions_self (p : Program σ ω β α) (ws : List ω) :
    (y.proceed i p ws).sessions i
      = ⟨p, (y.sessions i).writes ++ ws, some (y.begunAt i), .active⟩ :=
  Function.update_self _ _ _

theorem proceed_sessions_of_ne (h : j ≠ i) (p : Program σ ω β α) (ws : List ω) :
    (y.proceed i p ws).sessions j = y.sessions j :=
  Function.update_of_ne h _ _

@[simp] theorem finish_sessions_self (phase : Phase) :
    (y.finish i phase).sessions i = { y.sessions i with phase } :=
  Function.update_self _ _ _

theorem finish_sessions_of_ne (h : j ≠ i) (phase : Phase) :
    (y.finish i phase).sessions j = y.sessions j :=
  Function.update_of_ne h _ _

theorem finish_holder_eq_some {phase : Phase} :
    (y.finish i phase).holder = some j ↔ y.holder = some j ∧ j ≠ i := by
  rw [finish]
  dsimp only
  split
  · rename_i h
    rw [h, Option.some_inj]
    exact ⟨fun hn ↦ absurd hn (by simp), fun ⟨hij, hne⟩ ↦ absurd hij.symm hne⟩
  · rename_i h
    exact ⟨fun hj ↦ ⟨hj, fun hji ↦ h (hji ▸ hj)⟩, And.left⟩

@[simp] theorem commit_committed (s : σ) : (y.commit i s).committed = s := rfl

@[simp] theorem commit_holder (s : σ) :
    (y.commit i s).holder = (y.finish i .committed).holder := rfl

@[simp] theorem commit_sessions (s : σ) :
    (y.commit i s).sessions = (y.finish i .committed).sessions := rfl

@[simp] theorem commit_history (s : σ) :
    (y.commit i s).history = y.history ++ [(i, y.begunAt i)] := rfl

end System

/-- The session a move is about. -/
def Move.session : Move ι → ι
  | .run i => i
  | .abort i => i

/-- The four things a move can do. -/
inductive Stepped (S : Store σ ω) (y : System σ ω β α ι) : Move ι → System σ ω β α ι → Prop
  | commit {i : ι} {result : α} {s : σ} : (y.sessions i).program = .commit result →
      y.view i S = some s → Stepped S y (.run i) (y.commit i s)
  | abort {m : Move ι} : Stepped S y m (y.finish m.session .aborted)
  | lock {i : ι} {label : β} {next : Program σ ω β α} :
      (y.sessions i).program = .lock label next → y.holder = none ∨ y.holder = some i →
      Stepped S y (.run i) { y.proceed i next [] with holder := some i }
  | run {i : ι} {writes : σ → List ω} {next : σ → Program σ ω β α} {s s' : σ} :
      (y.sessions i).program = .run writes next → y.view i S = some s →
      ¬y.Blocked i S (writes s) → S.writeAll s (writes s) = some s' →
      Stepped S y (.run i) (y.proceed i (next s) (writes s))

theorem step_cases [Fintype ι] {S : Store σ ω} {m : Move ι} {y y' : System σ ω β α ι}
    (h : step S m y = some y') :
    (y.sessions m.session).phase = .active ∧ Stepped S y m y' := by
  cases m with
  | abort i =>
    rw [step] at h
    split at h
    · rename_i hactive
      cases h
      exact ⟨hactive, .abort⟩
    · cases h
  | run i =>
    rw [step] at h
    split at h
    · rename_i hactive
      refine ⟨hactive, ?_⟩
      cases hprog : (y.sessions i).program with
      | commit result =>
        rw [hprog, System.runProgram] at h
        cases hview : y.view i S with
        | none =>
          rw [hview] at h
          cases h
          exact .abort
        | some s =>
          rw [hview] at h
          cases h
          exact .commit hprog hview
      | rollback =>
        rw [hprog, System.runProgram] at h
        cases h
        exact .abort
      | lock label next =>
        rw [hprog, System.runProgram] at h
        split at h
        · rename_i hfree
          cases h
          exact .lock hprog hfree
        · cases h
      | run writes next =>
        rw [hprog, System.runProgram] at h
        cases hview : y.view i S with
        | none =>
          rw [hview] at h
          cases h
          exact .abort
        | some s =>
          rw [hview] at h
          dsimp only at h
          split at h
          · cases h
          · rename_i hfree
            split at h
            · rename_i hwrite
              obtain ⟨s', hs'⟩ := Option.isSome_iff_exists.mp hwrite
              cases h
              exact .run hprog hview hfree hs'
            · cases h
              exact .abort
    · cases h

/-- A statement extends the view of its own session by its writes. -/
theorem view_proceed {S : Store σ ω} {y : System σ ω β α ι} {i : ι} {s s' : σ} {ws : List ω}
    (p : Program σ ω β α) (hview : y.view i S = some s) (hwrite : S.writeAll s ws = some s') :
    (y.proceed i p ws).view i S = some s' := by
  rw [System.view, System.proceed_committed, System.proceed_sessions_self, Store.writeAll_append,
    ← System.view, hview]
  exact hwrite

/-! ## Sessions that write under the lock -/

/-- A lock is taken only where its label allows it. -/
def LockWhen (guard : β → σ → Prop) (y : System σ ω β α ι) : Move ι → Prop
  | .run i =>
    match (y.sessions i).program with
    | .lock label _ => guard label y.committed
    | _ => True
  | .abort _ => True

instance (guard : β → σ → Prop) [∀ l s, Decidable (guard l s)] (y : System σ ω β α ι)
    (m : Move ι) : Decidable (LockWhen guard y m) := by
  cases m with
  | run i =>
    rw [LockWhen]
    split <;> infer_instance
  | abort i => exact inferInstanceAs (Decidable True)

/-- What sessions may assume that write nothing before they hold the lock. `Inv` is about the
committed state, `Ready` about a session outside the lock: its first step so far, the rest of its
program, and the committed state, which other sessions change. -/
structure LockOutline (S : Store σ ω) (guard : β → σ → Prop) (ι : Type*) (α : Type*) where
  Inv : List (ι × ℕ) → σ → Prop
  Ready : ι → Option ℕ → Program σ ω β α → List (ι × ℕ) → σ → Prop
  ready_run : ∀ {i b writes next h s}, Inv h s → Ready i b (.run writes next) h s →
    writes s = [] ∧ Ready i (some (b.getD h.length)) (next s) h s
  ready_lock : ∀ {i b label next h s}, Ready i b (.lock label next) h s →
    Ready i (some (b.getD h.length)) (.lock label next) h s
  /-- A session that commits without the lock. -/
  leave : ∀ {i b result h s}, Inv h s → Ready i b (.commit result) h s →
    Inv (h ++ [(i, b.getD h.length)]) s ∧
      ∀ j b' p, j ≠ i → Ready j b' p h s → Ready j b' p (h ++ [(i, b.getD h.length)]) s
  /-- A session that took the lock: the rest of its program, run alone. -/
  locked : ∀ {i n label next h s s' result}, Inv h s → Ready i (some n) (.lock label next) h s →
    guard label s → next.alone S s = some (s', result) →
    Inv (h ++ [(i, n)]) s' ∧
      ∀ j b' p, j ≠ i → Ready j b' p h s → Ready j b' p (h ++ [(i, n)]) s'

namespace LockOutline

variable {S : Store σ ω} {guard : β → σ → Prop}

/-- The state of a system that follows the outline. The holder of the lock is on its way to the
result that the rest of its program has from the committed state. -/
private structure Holds (O : LockOutline S guard ι α) (y : System σ ω β α ι) : Prop where
  inv : O.Inv y.history y.committed
  holder_active : ∀ i, y.holder = some i → (y.sessions i).phase = .active
  outside : ∀ i, (y.sessions i).phase = .active → y.holder ≠ some i →
    (y.sessions i).writes = [] ∧
      O.Ready i (y.sessions i).began (y.sessions i).program y.history y.committed
  inside : ∀ i, y.holder = some i → ∃ n label next s, (y.sessions i).began = some n ∧
    O.Ready i (some n) (.lock label next) y.history y.committed ∧ guard label y.committed ∧
    y.view i S = some s ∧ (y.sessions i).program.alone S s = next.alone S y.committed

variable {O : LockOutline S guard ι α} {y : System σ ω β α ι} {i : ι}

omit [DecidableEq ι] in
/-- A session outside the lock reads the committed state. -/
private theorem Holds.view_outside (h : O.Holds y) (hactive : (y.sessions i).phase = .active)
    (hout : y.holder ≠ some i) : y.view i S = some y.committed := by
  rw [System.view, (h.outside i hactive hout).1, Store.writeAll_nil]

/-- An abort changes nothing for the others. -/
private theorem Holds.abort (h : O.Holds y) : O.Holds (y.finish i .aborted) where
  inv := h.inv
  holder_active j hj := by
    rw [System.finish_holder_eq_some] at hj
    rw [System.finish_sessions_of_ne hj.2]
    exact h.holder_active j hj.1
  outside j hactive hout := by
    rw [Ne, System.finish_holder_eq_some] at hout
    by_cases hj : j = i
    · rw [hj, System.finish_sessions_self] at hactive
      exact absurd hactive (by simp)
    · rw [System.finish_sessions_of_ne hj] at hactive ⊢
      exact h.outside j hactive fun hh ↦ hout ⟨hh, hj⟩
  inside j hj := by
    rw [System.finish_holder_eq_some] at hj
    obtain ⟨n, label, next, v, hbegan, hr, hg, hview, halone⟩ := h.inside j hj.1
    have hsame := System.finish_sessions_of_ne (y := y) hj.2 .aborted
    exact ⟨n, label, next, v, hsame ▸ hbegan, hr, hg, by rwa [System.view, hsame], hsame ▸ halone⟩

/-- A commit, once it is known what it does to the committed state and to the others outside. -/
private theorem Holds.commit (h : O.Holds y) {s : σ}
    (hinv : O.Inv (y.history ++ [(i, y.begunAt i)]) s)
    (hready : ∀ j b p, j ≠ i → O.Ready j b p y.history y.committed →
      O.Ready j b p (y.history ++ [(i, y.begunAt i)]) s)
    (hsame : ∀ j, j ≠ i → y.holder = some j → s = y.committed) : O.Holds (y.commit i s) where
  inv := hinv
  holder_active j hj := by
    rw [System.commit_holder, System.finish_holder_eq_some] at hj
    rw [System.commit_sessions, System.finish_sessions_of_ne hj.2]
    exact h.holder_active j hj.1
  outside j hactive hout := by
    rw [System.commit_holder, Ne, System.finish_holder_eq_some] at hout
    rw [System.commit_sessions] at hactive ⊢
    by_cases hj : j = i
    · rw [hj, System.finish_sessions_self] at hactive
      exact absurd hactive (by simp)
    · rw [System.finish_sessions_of_ne hj] at hactive ⊢
      obtain ⟨hw, hr⟩ := h.outside j hactive fun hh ↦ hout ⟨hh, hj⟩
      exact ⟨hw, hready j _ _ hj hr⟩
  inside j hj := by
    rw [System.commit_holder, System.finish_holder_eq_some] at hj
    have heq := hsame j hj.2 hj.1
    obtain ⟨n, label, next, v, hbegan, hr, hg, hview, halone⟩ := h.inside j hj.1
    refine ⟨n, label, next, v, ?_, hready j _ _ hj.2 hr, ?_, ?_, ?_⟩
    · rw [System.commit_sessions, System.finish_sessions_of_ne hj.2, hbegan]
    · exact heq ▸ hg
    · rw [System.view, System.commit_sessions, System.finish_sessions_of_ne hj.2]
      exact heq ▸ hview
    · rw [System.commit_sessions, System.finish_sessions_of_ne hj.2, halone]
      exact congrArg _ heq.symm

/-- A step that stays inside the transaction; the lock is where it was, or comes to session `i`. -/
private theorem Holds.proceed (h : O.Holds y) {p : Program σ ω β α} {ws : List ω}
    {holder : Option ι} (hholder : ∀ j, j ≠ i → (holder = some j ↔ y.holder = some j))
    (hout : holder ≠ some i → (y.sessions i).writes ++ ws = [] ∧
      O.Ready i (some (y.begunAt i)) p y.history y.committed)
    (hin : holder = some i → ∃ label next s,
      O.Ready i (some (y.begunAt i)) (.lock label next) y.history y.committed ∧
      guard label y.committed ∧ (y.proceed i p ws).view i S = some s ∧
      p.alone S s = next.alone S y.committed) :
    O.Holds { y.proceed i p ws with holder } where
  inv := h.inv
  holder_active j hj := by
    by_cases hji : j = i
    · rw [hji]
      exact congrArg Session.phase (System.proceed_sessions_self p ws)
    · exact (congrArg Session.phase (System.proceed_sessions_of_ne hji p ws)).trans
        (h.holder_active j ((hholder j hji).mp hj))
  outside j hactive hj := by
    by_cases hji : j = i
    · subst hji
      have hself := System.proceed_sessions_self (y := y) (i := j) p ws
      exact ⟨by rw [hself]; exact (hout hj).1, by rw [hself]; exact (hout hj).2⟩
    · have hsame := System.proceed_sessions_of_ne (y := y) hji p ws
      dsimp only at hactive ⊢
      rw [hsame] at hactive ⊢
      exact h.outside j hactive fun hh ↦ hj ((hholder j hji).mpr hh)
  inside j hj := by
    by_cases hji : j = i
    · subst hji
      have hself := System.proceed_sessions_self (y := y) (i := j) p ws
      obtain ⟨label, next, s, hr, hg, hview, halone⟩ := hin hj
      exact ⟨_, label, next, s, by rw [hself], hr, hg, hview, by rw [hself]; exact halone⟩
    · have hsame := System.proceed_sessions_of_ne (y := y) hji p ws
      obtain ⟨n, label, next, v, hbegan, hr, hg, hview, halone⟩ :=
        h.inside j ((hholder j hji).mp hj)
      refine ⟨n, label, next, v, ?_, hr, hg, ?_, ?_⟩
      · rw [hsame, hbegan]
      · rw [System.view, hsame]
        exact hview
      · rw [hsame, halone]
        rfl

private theorem Holds.step [Fintype ι] (h : O.Holds y) {m : Move ι} {y' : System σ ω β α ι}
    (hok : LockWhen guard y m) (hstep : step S m y = some y') : O.Holds y' := by
  obtain ⟨hactive, hstepped⟩ := step_cases hstep
  cases hstepped with
  | abort => exact h.abort
  | @commit i result s hprog hview =>
    rw [Move.session] at hactive
    by_cases hhold : y.holder = some i
    · -- the holder commits what the rest of its program does alone
      obtain ⟨n, label, next, v, hbegan, hr, hg, hv, halone⟩ := h.inside i hhold
      have hn : y.begunAt i = n := by rw [System.begunAt, hbegan, Option.getD_some]
      rw [hview, Option.some_inj] at hv
      rw [hprog, Program.alone, ← hv] at halone
      obtain ⟨hinv, hready⟩ := O.locked h.inv hr hg halone.symm
      exact h.commit (hn ▸ hinv) (hn ▸ hready) fun j hj hjh ↦
        absurd (Option.some_inj.mp (hhold.symm.trans hjh)).symm hj
    · -- a session without the lock has written nothing
      have hs : s = y.committed :=
        (Option.some_inj.mp (hview.symm.trans (h.view_outside hactive hhold)))
      obtain ⟨-, hr⟩ := h.outside i hactive hhold
      rw [hprog] at hr
      obtain ⟨hinv, hready⟩ := O.leave h.inv hr
      rw [hs]
      exact h.commit hinv hready fun _ _ _ ↦ rfl
  | @lock i label next hprog hfree =>
    rw [Move.session] at hactive
    refine h.proceed (fun j hj ↦ ?_) (fun hne ↦ absurd rfl hne) fun _ ↦ ?_
    · rw [Option.some_inj]
      refine ⟨fun hij ↦ absurd hij.symm hj, fun hjh ↦ ?_⟩
      rcases hfree with hnone | hself
      · exact absurd (hnone.symm.trans hjh) (by simp)
      · exact Option.some_inj.mp (hself.symm.trans hjh)
    · have hview : ∀ {s}, y.view i S = some s → (y.proceed i next []).view i S = some s :=
        fun hs ↦ view_proceed next hs (S.writeAll_nil _)
      by_cases hhold : y.holder = some i
      · obtain ⟨n, label', next', v, hbegan, hr, hg, hv, halone⟩ := h.inside i hhold
        have hn : y.begunAt i = n := by rw [System.begunAt, hbegan, Option.getD_some]
        rw [hprog, Program.alone] at halone
        exact ⟨label', next', v, hn ▸ hr, hg, hview hv, halone⟩
      · obtain ⟨-, hr⟩ := h.outside i hactive hhold
        rw [hprog] at hr
        rw [LockWhen, hprog] at hok
        exact ⟨label, next, y.committed, O.ready_lock hr, hok,
          hview (h.view_outside hactive hhold), rfl⟩
  | @run i writes next s s' hprog hview hfree hwrite =>
    rw [Move.session] at hactive
    refine h.proceed (fun _ _ ↦ Iff.rfl) (fun hhold ↦ ?_) fun hhold ↦ ?_
    · obtain ⟨hw, hr⟩ := h.outside i hactive hhold
      have hs : s = y.committed :=
        Option.some_inj.mp (hview.symm.trans (h.view_outside hactive hhold))
      rw [hprog] at hr
      obtain ⟨hnil, hnext⟩ := O.ready_run h.inv hr
      rw [hs, hw, hnil]
      exact ⟨rfl, hnext⟩
    · obtain ⟨n, label, next', v, hbegan, hr, hg, hv, halone⟩ := h.inside i hhold
      have hn : y.begunAt i = n := by rw [System.begunAt, hbegan, Option.getD_some]
      rw [hview, Option.some_inj] at hv
      rw [hprog, Program.alone, ← hv, hwrite] at halone
      exact ⟨label, next', s', hn ▸ hr, hg, view_proceed _ hview hwrite, halone⟩

/-- **The rule of the lock.** In every run from a state that meets the outline, the committed state
meets its invariant, provided that each lock is taken where its label allows it. -/
theorem sound [Fintype ι] (O : LockOutline S guard ι α) {s : σ}
    {programs : ι → Program σ ω β α} {ms : List (Move ι)} (hinv : O.Inv [] s)
    (hready : ∀ i, O.Ready i none (programs i) [] s)
    (hrun : Run (step S) (LockWhen guard) (.start s programs) ms y) :
    O.Inv y.history y.committed := by
  have h₀ : O.Holds (.start s programs) := by
    refine ⟨hinv, fun i hi ↦ absurd hi (by simp [System.start]), fun i _ _ ↦ ⟨rfl, hready i⟩,
      fun i hi ↦ absurd hi (by simp [System.start])⟩
  exact (hrun.invariant h₀ fun _ _ _ h hok hs ↦ h.step hok hs).inv

end LockOutline

/-! ## Sessions that no commit overlaps -/

/-- A session commits only if no other one has committed since its first step. -/
def Unoverlapped (y : System σ ω β α ι) : Move ι → Prop
  | .run i =>
    match (y.sessions i).program with
    | .commit _ => y.begunAt i = y.history.length
    | _ => True
  | .abort _ => True

instance (y : System σ ω β α ι) (m : Move ι) : Decidable (Unoverlapped y m) := by
  cases m with
  | run i =>
    rw [Unoverlapped]
    split <;> infer_instance
  | abort i => exact inferInstanceAs (Decidable True)

/-- While nothing has been committed since the first step of a session, the session is on its way
to the result that its program has alone. -/
private structure OnItsWay (S : Store σ ω) (programs : ι → Program σ ω β α)
    (y : System σ ω β α ι) (i : ι) : Prop where
  fresh : (y.sessions i).began = none →
    (y.sessions i).program = programs i ∧ (y.sessions i).writes = []
  le : ∀ n ∈ (y.sessions i).began, n ≤ y.history.length
  current : y.begunAt i = y.history.length → ∃ v, y.view i S = some v ∧
    (y.sessions i).program.alone S v = (programs i).alone S y.committed

/-- Every open session is on its way, and the committed state is as it should be. -/
private def AllOnTheirWay (S : Store σ ω) (programs : ι → Program σ ω β α) (inv : σ → Prop)
    (y : System σ ω β α ι) : Prop :=
  inv y.committed ∧ ∀ i, (y.sessions i).phase = .active → OnItsWay S programs y i

section

variable {S : Store σ ω} {programs : ι → Program σ ω β α} {y : System σ ω β α ι} {i j : ι}

/-- A step inside a transaction, which leaves the result of the rest as it is. -/
private theorem OnItsWay.proceed (h : OnItsWay S programs y i) {p : Program σ ω β α}
    {ws : List ω} (halone : ∀ v, y.view i S = some v →
      ∃ v', S.writeAll v ws = some v' ∧ p.alone S v' = (y.sessions i).program.alone S v) :
    OnItsWay S programs (y.proceed i p ws) i where
  fresh hnone := by
    rw [System.proceed_sessions_self] at hnone
    exact absurd hnone (by simp)
  le n hn := by
    rw [System.proceed_sessions_self, Option.mem_some_iff] at hn
    rw [System.proceed_history, ← hn, System.begunAt]
    cases hbegan : (y.sessions i).began with
    | none => exact le_rfl
    | some m => exact h.le m hbegan
  current hcur := by
    rw [System.begunAt, System.proceed_sessions_self, Option.getD_some,
      System.proceed_history] at hcur
    obtain ⟨v, hv, hres⟩ := h.current hcur
    obtain ⟨v', hwrite, hnext⟩ := halone v hv
    refine ⟨v', view_proceed p hv hwrite, ?_⟩
    rw [System.proceed_sessions_self, System.proceed_committed, hnext, hres]

omit [DecidableEq ι] in
/-- Another session that goes on or is aborted. -/
private theorem OnItsWay.of_same (h : OnItsWay S programs y j) {y' : System σ ω β α ι}
    (hcom : y'.committed = y.committed) (hhist : y'.history = y.history)
    (hses : y'.sessions j = y.sessions j) : OnItsWay S programs y' j where
  fresh := by
    rw [hses]
    exact h.fresh
  le := by
    rw [hses, hhist]
    exact h.le
  current := by
    rw [System.begunAt, System.view, hses, hhist, hcom]
    exact h.current

/-- Another session that commits: whoever has begun is overlapped by that, and whoever has not
starts from what was committed. -/
private theorem OnItsWay.commit (h : OnItsWay S programs y j) (hne : j ≠ i) (s : σ) :
    OnItsWay S programs (y.commit i s) j := by
  have hses : (y.commit i s).sessions j = y.sessions j :=
    System.finish_sessions_of_ne hne .committed
  refine ⟨?_, ?_, ?_⟩
  · rw [hses]
    exact h.fresh
  · intro n hn
    rw [hses] at hn
    rw [System.commit_history, List.length_append, List.length_singleton]
    exact (h.le n hn).trans (Nat.le_succ _)
  · intro hcur
    rw [System.begunAt, hses, System.commit_history, List.length_append,
      List.length_singleton] at hcur
    cases hbegan : (y.sessions j).began with
    | some n =>
      rw [hbegan, Option.getD_some] at hcur
      exact absurd (h.le n hbegan) (by omega)
    | none =>
      obtain ⟨hprog, hw⟩ := h.fresh hbegan
      refine ⟨s, ?_, ?_⟩
      · rw [System.view, hses, hw, Store.writeAll_nil, System.commit_committed]
      · rw [hses, hprog, System.commit_committed]

/-- **The rule of first committers.** In every run in which no session commits after another one
has committed since its first step, an invariant that every program keeps when run alone holds of
the committed state. -/
theorem committed_of_unoverlapped [Fintype ι] (inv : σ → Prop) {s : σ} {ms : List (Move ι)}
    (hinv : inv s)
    (hkeep : ∀ i s s' r, inv s → (programs i).alone S s = some (s', r) → inv s')
    (hrun : Run (step S) Unoverlapped (.start s programs) ms y) : inv y.committed := by
  have h : AllOnTheirWay S programs inv y := by
    refine hrun.invariant ?_ ?_
    · exact ⟨hinv, fun i _ ↦ ⟨fun _ ↦ ⟨rfl, rfl⟩, fun n hn ↦ absurd hn (by simp [System.start,
        Session.start]), fun _ ↦ ⟨s, rfl, rfl⟩⟩⟩
    · rintro y m y' ⟨hcom, hway⟩ hok hstep
      obtain ⟨hactive, hstepped⟩ := step_cases hstep
      cases hstepped with
      | abort =>
        refine ⟨hcom, fun j hj ↦ ?_⟩
        have hne : j ≠ m.session := fun hjm ↦ by
          rw [hjm, System.finish_sessions_self] at hj
          exact absurd hj (by simp)
        rw [System.finish_sessions_of_ne hne] at hj
        exact (hway j hj).of_same rfl rfl (System.finish_sessions_of_ne hne _)
      | @commit i result s hprog hview =>
        rw [Unoverlapped, hprog] at hok
        obtain ⟨v, hv, halone⟩ := (hway i hactive).current hok
        rw [hview, Option.some_inj] at hv
        rw [hprog, Program.alone, ← hv] at halone
        refine ⟨hkeep i _ _ _ hcom halone.symm, fun j hj ↦ ?_⟩
        have hne : j ≠ i := fun hji ↦ by
          rw [hji, System.commit_sessions, System.finish_sessions_self] at hj
          exact absurd hj (by simp)
        rw [System.commit_sessions, System.finish_sessions_of_ne hne] at hj
        exact (hway j hj).commit hne s
      | @lock i label next hprog hfree =>
        refine ⟨hcom, fun j hj ↦ ?_⟩
        by_cases hji : j = i
        · subst hji
          refine OnItsWay.of_same (y := y.proceed j next []) ?_ rfl rfl rfl
          refine (hway j hactive).proceed fun v _ ↦ ⟨v, rfl, ?_⟩
          rw [hprog, Program.alone]
        · have hsame := System.proceed_sessions_of_ne (y := y) hji next []
          dsimp only at hj
          rw [hsame] at hj
          exact (hway j hj).of_same rfl rfl hsame
      | @run i writes next s s' hprog hview hfree hwrite =>
        refine ⟨hcom, fun j hj ↦ ?_⟩
        by_cases hji : j = i
        · subst hji
          refine (hway j hactive).proceed fun v hv ↦ ⟨s', ?_, ?_⟩
          · rw [← Option.some_inj.mp (hview.symm.trans hv), hwrite]
          · rw [hprog, Program.alone, ← Option.some_inj.mp (hview.symm.trans hv), hwrite]
            rfl
        · have hsame := System.proceed_sessions_of_ne (y := y) hji (next s) (writes s)
          rw [hsame] at hj
          exact (hway j hj).of_same rfl rfl hsame
  exact h.1

end

/-! ## Sessions that wait for each other's rows -/

/-- The results of the sessions that have committed. -/
def System.results (y : System σ ω β α ι) (i : ι) : Option α :=
  match (y.sessions i).phase, (y.sessions i).program with
  | .committed, .commit result => some result
  | _, _ => none

/-- A statement runs only where what it reads allows its writes. -/
def RunWhen (S : Store σ ω) (cond : σ → List ω → Prop) (y : System σ ω β α ι) : Move ι → Prop
  | .run i =>
    match (y.sessions i).program with
    | .run writes _ => ∀ v ∈ y.view i S, cond v (writes v)
    | _ => True
  | .abort _ => True

instance decidableRunWhen (S : Store σ ω) (cond : σ → List ω → Prop)
    [∀ s ws, Decidable (cond s ws)] (y : System σ ω β α ι) (m : Move ι) :
    Decidable (RunWhen S cond y m) := by
  cases m with
  | run i =>
    rw [RunWhen]
    split <;> infer_instance
  | abort i => exact inferInstanceAs (Decidable True)

/-- What sessions may assume that wait for each other's rows. `Inv` is about the committed state and
the results so far, `Local` about an open session: its writes, the rest of its program, and the
committed state, in which others change only what does not conflict with its writes. -/
structure RowOutline (S : Store σ ω) (cond : σ → List ω → Prop) (β ι α : Type*)
    [DecidableEq ι] where
  Inv : (ι → Option α) → σ → Prop
  Local : ι → List ω → Program σ ω β α → σ → Prop
  run : ∀ {i ws writes next results s v v'}, Inv results s → Local i ws (.run writes next) s →
    S.writeAll s ws = some v → cond v (writes v) → S.writeAll v (writes v) = some v' →
    Local i (ws ++ writes v) (next v) s
  lock : ∀ {i ws label next s}, Local i ws (.lock label next) s → Local i ws next s
  commit : ∀ {i ws result results s v}, Inv results s → results i = none →
    Local i ws (.commit result) s → S.writeAll s ws = some v →
    Inv (Function.update results i (some result)) v
  frame : ∀ {i j ws ws' result p results s v}, i ≠ j → Inv results s →
    Local i ws (.commit result) s → Local j ws' p s → S.writeAll s ws = some v →
    (∀ w ∈ ws, ∀ w' ∈ ws', S.conflict w w' = false) → Local j ws' p v

namespace RowOutline

variable {S : Store σ ω} {cond : σ → List ω → Prop}

/-- The state of a system that follows the outline. -/
structure Holds (O : RowOutline S cond β ι α) (y : System σ ω β α ι) : Prop where
  inv : O.Inv y.results y.committed
  on : ∀ i, (y.sessions i).phase = .active →
    O.Local i (y.sessions i).writes (y.sessions i).program y.committed
  apart : ∀ i j, i ≠ j → (y.sessions i).phase = .active → (y.sessions j).phase = .active →
    ∀ w ∈ (y.sessions i).writes, ∀ w' ∈ (y.sessions j).writes, S.conflict w w' = false

variable {O : RowOutline S cond β ι α} {y : System σ ω β α ι} {i : ι}

omit [DecidableEq ι] in
theorem results_of_active (h : (y.sessions i).phase = .active) : y.results i = none := by
  rw [System.results, h]

private theorem results_proceed (hactive : (y.sessions i).phase = .active)
    (p : Program σ ω β α) (ws : List ω) (holder : Option ι) :
    System.results { y.proceed i p ws with holder } = y.results := by
  funext j
  by_cases hj : j = i
  · subst hj
    rw [results_of_active hactive]
    exact results_of_active (congrArg Session.phase (System.proceed_sessions_self p ws))
  · rw [System.results, System.results]
    dsimp only
    rw [System.proceed_sessions_of_ne hj]

private theorem results_abort (hactive : (y.sessions i).phase = .active) :
    (y.finish i .aborted).results = y.results := by
  funext j
  by_cases hj : j = i
  · subst hj
    rw [results_of_active hactive, System.results, System.finish_sessions_self]
  · rw [System.results, System.results, System.finish_sessions_of_ne hj]

private theorem results_commit {result : α} (hprog : (y.sessions i).program = .commit result)
    (s : σ) : (y.commit i s).results = Function.update y.results i (some result) := by
  funext j
  by_cases hj : j = i
  · subst hj
    rw [Function.update_self, System.results, System.commit_sessions, System.finish_sessions_self]
    dsimp only
    rw [hprog]
  · rw [Function.update_of_ne hj, System.results, System.results, System.commit_sessions,
      System.finish_sessions_of_ne hj]

/-- A session that is not the one that ends is as it was. -/
private theorem Holds.ne_of_active {phase : Phase} (hphase : phase ≠ .active) {j : ι}
    (hj : ((y.finish i phase).sessions j).phase = .active) : j ≠ i := fun hji ↦ by
  rw [hji, System.finish_sessions_self] at hj
  exact hphase hj

private theorem Holds.abort (h : O.Holds y) (hactive : (y.sessions i).phase = .active) :
    O.Holds (y.finish i .aborted) where
  inv := by
    rw [results_abort hactive]
    exact h.inv
  on j hj := by
    have hne := Holds.ne_of_active (by simp) hj
    rw [System.finish_sessions_of_ne hne] at hj ⊢
    exact h.on j hj
  apart j k hjk hj hk := by
    have hjne := Holds.ne_of_active (by simp) hj
    have hkne := Holds.ne_of_active (by simp) hk
    rw [System.finish_sessions_of_ne hjne] at hj ⊢
    rw [System.finish_sessions_of_ne hkne] at hk ⊢
    exact h.apart j k hjk hj hk

private theorem Holds.commit (h : O.Holds y) (hactive : (y.sessions i).phase = .active)
    {result : α} {s : σ} (hprog : (y.sessions i).program = .commit result)
    (hview : y.view i S = some s) : O.Holds (y.commit i s) where
  inv := by
    rw [results_commit hprog]
    exact O.commit h.inv (results_of_active hactive) (hprog ▸ h.on i hactive) hview
  on j hj := by
    rw [System.commit_sessions] at hj ⊢
    have hne := Holds.ne_of_active (by simp) hj
    rw [System.finish_sessions_of_ne hne] at hj ⊢
    exact O.frame hne.symm h.inv (hprog ▸ h.on i hactive) (h.on j hj) hview
      (h.apart i j hne.symm hactive hj)
  apart j k hjk hj hk := by
    rw [System.commit_sessions] at hj hk ⊢
    have hjne := Holds.ne_of_active (by simp) hj
    have hkne := Holds.ne_of_active (by simp) hk
    rw [System.finish_sessions_of_ne hjne] at hj ⊢
    rw [System.finish_sessions_of_ne hkne] at hk ⊢
    exact h.apart j k hjk hj hk

/-- A step inside a transaction, whose writes conflict with none of another open transaction. -/
private theorem Holds.proceed (hsymm : ∀ w w', S.conflict w w' = S.conflict w' w)
    (h : O.Holds y) (hactive : (y.sessions i).phase = .active) {p : Program σ ω β α} {ws : List ω}
    {holder : Option ι} (hfree : ¬y.Blocked i S ws)
    (hlocal : O.Local i ((y.sessions i).writes ++ ws) p y.committed) :
    O.Holds { y.proceed i p ws with holder } where
  inv := by
    rw [results_proceed hactive]
    exact h.inv
  on j hj := by
    by_cases hji : j = i
    · subst hji
      have hself := System.proceed_sessions_self (y := y) (i := j) p ws
      dsimp only
      rw [hself]
      exact hlocal
    · have hsame := System.proceed_sessions_of_ne (y := y) hji p ws
      dsimp only at hj ⊢
      rw [hsame] at hj ⊢
      exact h.on j hj
  apart j k hjk hj hk := by
    have hnew : ∀ k, k ≠ i → (y.sessions k).phase = .active → ∀ w ∈ ws,
        ∀ w' ∈ (y.sessions k).writes, S.conflict w w' = false := fun k hki hk w hw w' hw' ↦ by
      rw [← Bool.not_eq_true]
      exact fun hconflict ↦ hfree ⟨k, hki, hk, w, hw, w', hw', hconflict⟩
    have hself := System.proceed_sessions_self (y := y) (i := i) p ws
    dsimp only at hj hk ⊢
    by_cases hji : j = i
    · subst hji
      have hsame := System.proceed_sessions_of_ne (y := y) hjk.symm p ws
      rw [hsame] at hk ⊢
      rw [hself]
      intro w hw w' hw'
      rcases List.mem_append.mp hw with hw | hw
      · exact h.apart j k hjk hactive hk w hw w' hw'
      · exact hnew k hjk.symm hk w hw w' hw'
    · have hsame := System.proceed_sessions_of_ne (y := y) hji p ws
      rw [hsame] at hj ⊢
      by_cases hki : k = i
      · subst hki
        rw [hself]
        intro w hw w' hw'
        rcases List.mem_append.mp hw' with hw' | hw'
        · exact h.apart j k hjk hj hactive w hw w' hw'
        · rw [hsymm]
          exact hnew j hjk hj w' hw' w hw
      · have hsame' := System.proceed_sessions_of_ne (y := y) hki p ws
        rw [hsame'] at hk ⊢
        exact h.apart j k hjk hj hk

theorem Holds.step [Fintype ι] (hsymm : ∀ w w', S.conflict w w' = S.conflict w' w)
    (h : O.Holds y) {m : Move ι} {y' : System σ ω β α ι} (hok : RunWhen S cond y m)
    (hstep : step S m y = some y') : O.Holds y' := by
  obtain ⟨hactive, hstepped⟩ := step_cases hstep
  cases hstepped with
  | abort => exact h.abort hactive
  | commit hprog hview => exact h.commit hactive hprog hview
  | @lock i label next hprog hfree =>
    refine h.proceed hsymm hactive ?_ ?_
    · rintro ⟨_, _, _, w, hw, -⟩
      exact absurd hw List.not_mem_nil
    · rw [List.append_nil]
      exact O.lock (hprog ▸ h.on i hactive)
  | @run i writes next s s' hprog hview hfree hwrite =>
    rw [RunWhen, hprog] at hok
    exact h.proceed hsymm hactive hfree
      (O.run h.inv (hprog ▸ h.on i hactive) hview (hok s hview) hwrite)

theorem Holds.start (O : RowOutline S cond β ι α) {s : σ} {programs : ι → Program σ ω β α}
    (hinv : O.Inv (fun _ ↦ none) s) (hlocal : ∀ i, O.Local i [] (programs i) s) :
    O.Holds (.start s programs) where
  inv := hinv
  on i _ := hlocal i
  apart _ _ _ _ _ _ hw := absurd hw List.not_mem_nil

/-- **The rule of row locks.** In every run whose statements are allowed, the committed state meets
the invariant. -/
theorem sound [Fintype ι] (O : RowOutline S cond β ι α)
    (hsymm : ∀ w w', S.conflict w w' = S.conflict w' w) {s : σ} {programs : ι → Program σ ω β α}
    {ms : List (Move ι)} (hinv : O.Inv (fun _ ↦ none) s)
    (hlocal : ∀ i, O.Local i [] (programs i) s)
    (hrun : Run (ReadCommitted.step S) (RunWhen S cond) (.start s programs) ms y) : O.Holds y :=
  hrun.invariant (Holds.start O hinv hlocal) fun _ _ _ h hok hs ↦ h.step hsymm hok hs

/-- What every commit keeps of the committed state is kept by every run. -/
theorem Holds.keeps [Fintype ι] (hsymm : ∀ w w', S.conflict w w' = S.conflict w' w)
    (R : σ → σ → Prop) (hrefl : ∀ s, R s s) (htrans : ∀ {s s' s''}, R s s' → R s' s'' → R s s'')
    (hcommit : ∀ {i ws result results s v}, O.Inv results s → O.Local i ws (.commit result) s →
      S.writeAll s ws = some v → R s v)
    (h : O.Holds y) {ms : List (Move ι)} {y' : System σ ω β α ι}
    (hrun : Run (ReadCommitted.step S) (RunWhen S cond) y ms y') : R y.committed y'.committed := by
  have hboth : O.Holds y' ∧ R y.committed y'.committed := by
    induction hrun with
    | nil => exact ⟨h, hrefl _⟩
    | snoc _ hok hs ih =>
      obtain ⟨hz, hkept⟩ := ih
      refine ⟨hz.step hsymm hok hs, htrans hkept ?_⟩
      obtain ⟨hactive, hstepped⟩ := step_cases hs
      cases hstepped with
      | abort => exact hrefl _
      | @commit i result s hprog hview => exact hcommit hz.inv (hprog ▸ hz.on i hactive) hview
      | lock => exact hrefl _
      | run => exact hrefl _
  exact hboth.2

end RowOutline

end ReadCommitted
