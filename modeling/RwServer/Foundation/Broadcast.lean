import Mathlib.Data.List.Perm.Basic
import Mathlib.Logic.Function.Basic
import RwServer.Foundation.Run

/-!
# Messages over a broker

Processes send messages to a broker, which passes each one on to all that receive. A connection
keeps the order: what a process has sent waits in its outbox until the broker takes it, and what the
broker has passed on waits in the inbox of each receiver until that one handles it. A connection may
lose the message at its front, on the way to the broker or from it.

The broker passes the messages on in one order, its `log`, and this is the order for everybody
(`Sound`): what a receiver handles it handles in the order of the log, and the part of the log that
comes from one process is in the order in which this process has sent it. Where the connection of a
process has not failed, nothing else is missing (`outbox_of_run`, `inbox_of_run`). So two receivers
whose connections have held differ only in how far they have come (`handled_prefix`).
-/

namespace Transition

open scoped List

/-- Runs of one system that another one follows, step by step or standing still. -/
theorem Run.project {σ α σ' α' : Type*} {step : α → σ → Option σ} {ok : σ → α → Prop}
    {s₀ s : σ} {as : List α} (f : σ → σ') (step' : α' → σ' → Option σ') (ok' : σ' → α' → Prop)
    (hstep : ∀ s a s', ok s a → step a s = some s' →
      f s' = f s ∨ ∃ b, ok' (f s) b ∧ step' b (f s) = some (f s'))
    (h : Run step ok s₀ as s) : ∃ bs, Run step' ok' (f s₀) bs (f s) := by
  induction h with
  | nil => exact ⟨[], .nil⟩
  | snoc _ hok hs ih =>
    obtain ⟨bs, hrun⟩ := ih
    rcases hstep _ _ _ hok hs with heq | ⟨b, hok', hs'⟩
    · exact ⟨bs, heq ▸ hrun⟩
    · exact ⟨_, hrun.snoc hok' hs'⟩

structure Broadcast (ι μ : Type*) where
  /-- What a process has sent. -/
  sent : ι → List μ
  /-- What it has sent and the broker has not taken. -/
  outbox : ι → List μ
  /-- What the broker has passed on, with the senders. -/
  log : List (ι × μ)
  /-- What has been passed on to a process that has not handled it. -/
  inbox : ι → List μ
  handled : ι → List μ

namespace Broadcast

variable {ι μ : Type*} [DecidableEq ι]

/-- Nothing has been sent. -/
def start : Broadcast ι μ := ⟨fun _ ↦ [], fun _ ↦ [], [], fun _ ↦ [], fun _ ↦ []⟩

inductive Move (ι μ : Type*)
  | send (i : ι) (m : μ)
  /-- The broker takes a message. -/
  | pass (i : ι)
  /-- A message is lost on the way to the broker. -/
  | lose (i : ι)
  | handle (i : ι)
  /-- A message is lost on the way from the broker. -/
  | drop (i : ι)

variable (n : Broadcast ι μ) (i : ι)

def send (m : μ) : Broadcast ι μ :=
  { n with
    sent := Function.update n.sent i (n.sent i ++ [m])
    outbox := Function.update n.outbox i (n.outbox i ++ [m]) }

/-- The broker takes `m` from the front of an outbox that goes on with `rest`. -/
def pass (receives : ι → Bool) (m : μ) (rest : List μ) : Broadcast ι μ :=
  { n with
    outbox := Function.update n.outbox i rest
    log := n.log ++ [(i, m)]
    inbox := fun j ↦ if receives j then n.inbox j ++ [m] else n.inbox j }

def lose (rest : List μ) : Broadcast ι μ :=
  { n with outbox := Function.update n.outbox i rest }

def handle (m : μ) (rest : List μ) : Broadcast ι μ :=
  { n with
    inbox := Function.update n.inbox i rest
    handled := Function.update n.handled i (n.handled i ++ [m]) }

def drop (rest : List μ) : Broadcast ι μ :=
  { n with inbox := Function.update n.inbox i rest }

def step (receives : ι → Bool) : Move ι μ → Broadcast ι μ → Option (Broadcast ι μ)
  | .send i m, n => some (n.send i m)
  | .pass i, n =>
    match n.outbox i with
    | [] => none
    | m :: rest => some (n.pass i receives m rest)
  | .lose i, n =>
    match n.outbox i with
    | [] => none
    | _ :: rest => some (n.lose i rest)
  | .handle i, n =>
    match n.inbox i with
    | [] => none
    | m :: rest => some (n.handle i m rest)
  | .drop i, n =>
    match n.inbox i with
    | [] => none
    | _ :: rest => some (n.drop i rest)

/-- What the log has of a process. -/
def passed : List μ := (n.log.filter fun entry ↦ decide (entry.1 = i)).map Prod.snd

/-- The order of the log is the order for everybody. -/
structure Sound (receives : ι → Bool) (n : Broadcast ι μ) : Prop where
  receiver : ∀ i, receives i = true → n.handled i ++ n.inbox i <+ n.log.map Prod.snd
  other : ∀ i, receives i = false → n.handled i = [] ∧ n.inbox i = []
  sender : ∀ i, n.passed i ++ n.outbox i <+ n.sent i

variable {receives : ι → Bool} {n : Broadcast ι μ} {i : ι}

theorem passed_pass {m : μ} {rest : List μ} (j : ι) :
    (n.pass i receives m rest).passed j = n.passed j ++ if i = j then [m] else [] := by
  rw [passed, pass]
  dsimp only
  rw [List.filter_append, List.map_append, passed]
  refine congrArg _ ?_
  by_cases h : i = j <;> simp [h]

/-- A message goes in at the end of a connection. -/
theorem sublist_concat {done waiting whole : List μ} (h : done ++ waiting <+ whole) (m : μ) :
    done ++ (waiting ++ [m]) <+ whole ++ [m] := by
  rw [← List.append_assoc]
  exact h.append (List.Sublist.refl _)

/-- A message is lost at the front of a connection. -/
theorem sublist_tail {done rest whole : List μ} {m : μ} (h : done ++ m :: rest <+ whole) :
    done ++ rest <+ whole :=
  ((List.Sublist.refl done).append (List.sublist_cons_self m rest)).trans h

theorem sound_start : (start : Broadcast ι μ).Sound receives :=
  ⟨fun _ _ ↦ List.Sublist.refl _, fun _ _ ↦ ⟨rfl, rfl⟩, fun _ ↦ List.Sublist.refl _⟩

theorem Sound.send (h : n.Sound receives) (m : μ) : (n.send i m).Sound receives where
  receiver := h.receiver
  other := h.other
  sender j := by
    change n.passed j ++ Function.update n.outbox i _ j <+ Function.update n.sent i _ j
    by_cases hj : j = i
    · subst hj
      rw [Function.update_self, Function.update_self]
      exact sublist_concat (h.sender j) m
    · rw [Function.update_of_ne hj, Function.update_of_ne hj]
      exact h.sender j

theorem Sound.pass (h : n.Sound receives) {m : μ} {rest : List μ}
    (hfront : n.outbox i = m :: rest) :
    (n.pass i receives m rest).Sound receives where
  receiver j hj := by
    change n.handled j ++ (if receives j then n.inbox j ++ [m] else n.inbox j)
      <+ (n.log ++ [(i, m)]).map Prod.snd
    rw [if_pos hj, List.map_append]
    exact sublist_concat (h.receiver j hj) m
  other j hj := by
    change n.handled j = [] ∧ (if receives j then n.inbox j ++ [m] else n.inbox j) = []
    rw [if_neg (by rw [hj]; exact Bool.false_ne_true)]
    exact h.other j hj
  sender j := by
    rw [passed_pass]
    change _ ++ Function.update n.outbox i rest j <+ n.sent j
    by_cases hj : i = j
    · subst hj
      rw [if_pos rfl, Function.update_self, List.append_assoc, List.singleton_append, ← hfront]
      exact h.sender i
    · rw [if_neg hj, List.append_nil, Function.update_of_ne (Ne.symm hj)]
      exact h.sender j

theorem Sound.lose (h : n.Sound receives) {m : μ} {rest : List μ}
    (hfront : n.outbox i = m :: rest) :
    (n.lose i rest).Sound receives where
  receiver := h.receiver
  other := h.other
  sender j := by
    change n.passed j ++ Function.update n.outbox i rest j <+ n.sent j
    by_cases hj : j = i
    · subst hj
      rw [Function.update_self]
      exact sublist_tail (hfront ▸ h.sender j)
    · rw [Function.update_of_ne hj]
      exact h.sender j

theorem Sound.handle (h : n.Sound receives) {m : μ} {rest : List μ}
    (hfront : n.inbox i = m :: rest) :
    (n.handle i m rest).Sound receives where
  receiver j hj := by
    change Function.update n.handled i _ j ++ Function.update n.inbox i rest j <+ n.log.map Prod.snd
    by_cases hji : j = i
    · subst hji
      rw [Function.update_self, Function.update_self, List.append_assoc, List.singleton_append,
        ← hfront]
      exact h.receiver j hj
    · rw [Function.update_of_ne hji, Function.update_of_ne hji]
      exact h.receiver j hj
  other j hj := by
    change Function.update n.handled i _ j = [] ∧ Function.update n.inbox i rest j = []
    by_cases hji : j = i
    · subst hji
      rw [(h.other j hj).2] at hfront
      cases hfront
    · rw [Function.update_of_ne hji, Function.update_of_ne hji]
      exact h.other j hj
  sender := h.sender

theorem Sound.drop (h : n.Sound receives) {m : μ} {rest : List μ}
    (hfront : n.inbox i = m :: rest) :
    (n.drop i rest).Sound receives where
  receiver j hj := by
    change n.handled j ++ Function.update n.inbox i rest j <+ n.log.map Prod.snd
    by_cases hji : j = i
    · subst hji
      rw [Function.update_self]
      exact sublist_tail (hfront ▸ h.receiver j hj)
    · rw [Function.update_of_ne hji]
      exact h.receiver j hj
  other j hj := by
    change n.handled j = [] ∧ Function.update n.inbox i rest j = []
    by_cases hji : j = i
    · subst hji
      rw [(h.other j hj).2] at hfront
      cases hfront
    · rw [Function.update_of_ne hji]
      exact h.other j hj
  sender := h.sender

/-- What a move does, by cases. -/
theorem step_cases {a : Move ι μ} {n' : Broadcast ι μ} (h : step receives a n = some n') :
    (∃ i m, a = .send i m ∧ n' = n.send i m) ∨
    (∃ i m rest, a = .pass i ∧ n.outbox i = m :: rest ∧ n' = n.pass i receives m rest) ∨
    (∃ i m rest, a = .lose i ∧ n.outbox i = m :: rest ∧ n' = n.lose i rest) ∨
    (∃ i m rest, a = .handle i ∧ n.inbox i = m :: rest ∧ n' = n.handle i m rest) ∨
    ∃ i m rest, a = .drop i ∧ n.inbox i = m :: rest ∧ n' = n.drop i rest := by
  cases a with
  | send i m =>
    cases h
    exact .inl ⟨i, m, rfl, rfl⟩
  | pass i =>
    rw [step] at h
    split at h
    · cases h
    · rename_i m rest hfront
      cases h
      exact .inr (.inl ⟨i, m, rest, rfl, hfront, rfl⟩)
  | lose i =>
    rw [step] at h
    split at h
    · cases h
    · rename_i m rest hfront
      cases h
      exact .inr (.inr (.inl ⟨i, m, rest, rfl, hfront, rfl⟩))
  | handle i =>
    rw [step] at h
    split at h
    · cases h
    · rename_i m rest hfront
      cases h
      exact .inr (.inr (.inr (.inl ⟨i, m, rest, rfl, hfront, rfl⟩)))
  | drop i =>
    rw [step] at h
    split at h
    · cases h
    · rename_i m rest hfront
      cases h
      exact .inr (.inr (.inr (.inr ⟨i, m, rest, rfl, hfront, rfl⟩)))

/-- **One order for everybody**, in every run. -/
theorem sound_of_run {ok : Broadcast ι μ → Move ι μ → Prop} {ms : List (Move ι μ)}
    (hrun : Run (step receives) ok start ms n) : n.Sound receives := by
  refine hrun.invariant sound_start fun s a s' hs _ hstep ↦ ?_
  obtain ⟨i, m, -, rfl⟩ | ⟨i, m, rest, -, hfront, rfl⟩ | ⟨i, m, rest, -, hfront, rfl⟩ |
    ⟨i, m, rest, -, hfront, rfl⟩ | ⟨i, m, rest, -, hfront, rfl⟩ := step_cases hstep
  · exact hs.send m
  · exact hs.pass hfront
  · exact hs.lose hfront
  · exact hs.handle hfront
  · exact hs.drop hfront

/-- Where the connection of `i` to the broker holds, nothing of what it sends is missing. -/
theorem outbox_of_run {ms : List (Move ι μ)}
    (hrun : Run (step receives) (fun _ a ↦ a ≠ .lose i) start ms n) :
    n.passed i ++ n.outbox i = n.sent i := by
  have hrule := @Run.invariant (Broadcast ι μ) (Move ι μ) (step receives) (fun _ a ↦ a ≠ .lose i)
    start n ms (fun n ↦ n.passed i ++ n.outbox i = n.sent i) rfl
  refine hrule (fun s a s' hs hok hstep ↦ ?_) hrun
  obtain ⟨j, m, -, rfl⟩ | ⟨j, m, rest, -, hfront, rfl⟩ | ⟨j, m, rest, ha, -, rfl⟩ |
    ⟨j, m, rest, -, -, rfl⟩ | ⟨j, m, rest, -, -, rfl⟩ := step_cases hstep
  · change s.passed i ++ Function.update s.outbox j _ i = Function.update s.sent j _ i
    by_cases hj : i = j
    · subst hj
      rw [Function.update_self, Function.update_self, ← List.append_assoc, hs]
    · rw [Function.update_of_ne hj, Function.update_of_ne hj, hs]
  · rw [passed_pass]
    change _ ++ Function.update s.outbox j rest i = s.sent i
    by_cases hj : j = i
    · subst hj
      rw [if_pos rfl, Function.update_self, List.append_assoc, List.singleton_append, ← hfront, hs]
    · rw [if_neg hj, List.append_nil, Function.update_of_ne (Ne.symm hj), hs]
  · have hj : i ≠ j := fun hj ↦ hok (hj ▸ ha)
    change s.passed i ++ Function.update s.outbox j rest i = s.sent i
    rw [Function.update_of_ne hj, hs]
  · exact hs
  · exact hs

/-- Where the connection of `i` from the broker holds, nothing of the log is missing. -/
theorem inbox_of_run (hi : receives i = true) {ms : List (Move ι μ)}
    (hrun : Run (step receives) (fun _ a ↦ a ≠ .drop i) start ms n) :
    n.handled i ++ n.inbox i = n.log.map Prod.snd := by
  have hrule := @Run.invariant (Broadcast ι μ) (Move ι μ) (step receives) (fun _ a ↦ a ≠ .drop i)
    start n ms (fun n ↦ n.handled i ++ n.inbox i = n.log.map Prod.snd) rfl
  refine hrule (fun s a s' hs hok hstep ↦ ?_) hrun
  obtain ⟨j, m, -, rfl⟩ | ⟨j, m, rest, -, -, rfl⟩ | ⟨j, m, rest, -, -, rfl⟩ |
    ⟨j, m, rest, -, hfront, rfl⟩ | ⟨j, m, rest, ha, -, rfl⟩ := step_cases hstep
  · exact hs
  · change s.handled i ++ (if receives i then s.inbox i ++ [m] else s.inbox i)
      = (s.log ++ [(j, m)]).map Prod.snd
    rw [if_pos hi, ← List.append_assoc, hs, List.map_append]
    rfl
  · exact hs
  · change Function.update s.handled j _ i ++ Function.update s.inbox j rest i = s.log.map Prod.snd
    by_cases hj : i = j
    · subst hj
      rw [Function.update_self, Function.update_self, List.append_assoc, List.singleton_append,
        ← hfront, hs]
    · rw [Function.update_of_ne hj, Function.update_of_ne hj, hs]
  · have hj : i ≠ j := fun hj ↦ hok (hj ▸ ha)
    change s.handled i ++ Function.update s.inbox j rest i = s.log.map Prod.snd
    rw [Function.update_of_ne hj, hs]

omit [DecidableEq ι] in
/-- **Two receivers agree** on what comes when: one of them may only be further. -/
theorem handled_prefix {i j : ι} (hi : n.handled i ++ n.inbox i = n.log.map Prod.snd)
    (hj : n.handled j ++ n.inbox j = n.log.map Prod.snd) :
    n.handled i <+: n.handled j ∨ n.handled j <+: n.handled i :=
  List.prefix_or_prefix_of_prefix ⟨n.inbox i, hi⟩ ⟨n.inbox j, hj⟩

end Broadcast

end Transition
