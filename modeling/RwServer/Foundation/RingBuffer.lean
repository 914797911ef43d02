import Mathlib

/-!
# Ring buffers

A queue of bounded length in an array: the elements are in consecutive slots from `head` on, and
after the last slot of the array comes the first. What the slots hold from `head` on is `toList`;
`push` puts a value at its end and `shift` takes its first one away, so that the ring is the list
(`toList_push`, `toList_shift`), whatever operations it has gone through (`answers_eq`).

That the slots of the queue are filled is part of the structure, so that `shift` always has a value
to give while the queue is not empty.
-/

/-- A queue in an array of `capacity` slots. -/
structure RingBuffer (α : Type*) (capacity : ℕ) where
  buffer : Fin capacity → Option α
  head : ℕ
  length : ℕ
  capacity_pos : 0 < capacity
  length_le : length ≤ capacity
  /-- The slots of the queue hold values. -/
  filled : ∀ i < length, (buffer ⟨(head + i) % capacity, Nat.mod_lt _ capacity_pos⟩).isSome = true

namespace RingBuffer

variable {α : Type*} {capacity : ℕ}

/-- The `i`-th slot from the head on. -/
def slot (r : RingBuffer α capacity) (i : ℕ) : Fin capacity :=
  ⟨(r.head + i) % capacity, Nat.mod_lt _ r.capacity_pos⟩

/-- What the slots of the queue hold, in order. -/
def toList (r : RingBuffer α capacity) : List α :=
  (List.range r.length).filterMap fun i ↦ r.buffer (r.slot i)

/-! ## The operations -/

/-- An empty queue. -/
def new (capacity : ℕ) (h : 0 < capacity) : RingBuffer α capacity where
  buffer _ := none
  head := 0
  length := 0
  capacity_pos := h
  length_le := Nat.zero_le _
  filled _ hi := absurd hi (Nat.not_lt_zero _)

def size (r : RingBuffer α capacity) : ℕ := r.length

def isFull (r : RingBuffer α capacity) : Bool := decide (capacity ≤ r.length)

/-- Different positions of the queue are in different slots. -/
theorem slot_injOn {r : RingBuffer α capacity} {i j : ℕ} (hi : i < capacity) (hj : j < capacity)
    (h : r.slot i = r.slot j) : i = j := by
  have hmod : r.head + i ≡ r.head + j [MOD capacity] := Fin.val_eq_of_eq h
  exact (Nat.ModEq.add_left_cancel' _ hmod).eq_of_lt_of_lt hi hj

/-- One slot after the head, the positions are one less. -/
theorem slot_succ (r : RingBuffer α capacity) (i : ℕ) :
    (⟨((r.head + 1) % capacity + i) % capacity, Nat.mod_lt _ r.capacity_pos⟩ : Fin capacity) =
      r.slot (i + 1) := by
  refine Fin.ext ?_
  change ((r.head + 1) % capacity + i) % capacity = (r.head + (i + 1)) % capacity
  rw [Nat.mod_add_mod, add_assoc, add_comm 1 i]

/-- Put a value after the last one. A full queue takes none. -/
def push (r : RingBuffer α capacity) (value : α) : Bool × RingBuffer α capacity :=
  if h : r.length < capacity then
    (true, { r with
      buffer := Function.update r.buffer (r.slot r.length) (some value)
      length := r.length + 1
      length_le := h
      filled := fun i hi ↦ by
        change (Function.update r.buffer (r.slot r.length) (some value) (r.slot i)).isSome = true
        rcases Nat.lt_succ_iff_lt_or_eq.mp hi with hlt | rfl
        · have hne : r.slot i ≠ r.slot r.length := fun hslot ↦
            hlt.ne (slot_injOn (hlt.trans h) h hslot)
          rw [Function.update_of_ne hne]
          exact r.filled i hlt
        · rw [Function.update_self]
          rfl })
  else (false, r)

/-- Take the first value away. -/
def shift (r : RingBuffer α capacity) : Option α × RingBuffer α capacity :=
  if h : r.length = 0 then (none, r)
  else
    (r.buffer (r.slot 0), { r with
      buffer := Function.update r.buffer (r.slot 0) none
      head := (r.head + 1) % capacity
      length := r.length - 1
      length_le := (Nat.sub_le _ _).trans r.length_le
      filled := fun i hi ↦ by
        have hlt : i + 1 < r.length := Nat.add_lt_of_lt_sub hi
        have hne : r.slot (i + 1) ≠ r.slot 0 := fun heq ↦
          Nat.succ_ne_zero i (slot_injOn (hlt.trans_le r.length_le) r.capacity_pos heq)
        rw [slot_succ, Function.update_of_ne hne]
        exact r.filled (i + 1) hlt })

/-! ## The ring is a list -/

@[simp] theorem toList_new (h : 0 < capacity) :
    (new capacity h : RingBuffer α capacity).toList = [] :=
  rfl

@[simp] theorem length_toList (r : RingBuffer α capacity) : r.toList.length = r.length := by
  have hall : ∀ n ≤ r.length,
      ((List.range n).filterMap fun i ↦ r.buffer (r.slot i)).length = n := by
    intro n
    induction n with
    | zero => exact fun _ ↦ rfl
    | succ n ih =>
      intro hn
      obtain ⟨value, hvalue⟩ := Option.isSome_iff_exists.mp (r.filled n hn)
      have hslot : r.buffer (r.slot n) = some value := hvalue
      rw [List.range_succ, List.filterMap_append, List.length_append, ih (Nat.le_of_succ_le hn)]
      simp [hslot]
  exact hall r.length le_rfl

theorem isFull_iff (r : RingBuffer α capacity) : r.isFull = true ↔ r.toList.length = capacity := by
  rw [isFull, decide_eq_true_iff, length_toList]
  exact ⟨r.length_le.antisymm, fun h ↦ h.ge⟩

/-- **A queue that is not full takes a value at its end.** -/
theorem toList_push {r : RingBuffer α capacity} (h : r.isFull = false) (value : α) :
    (r.push value).1 = true ∧ (r.push value).2.toList = r.toList ++ [value] := by
  have hlt : r.length < capacity := by simpa [isFull] using h
  rw [push, dif_pos hlt]
  refine ⟨rfl, ?_⟩
  change (List.range (r.length + 1)).filterMap
    (fun i ↦ Function.update r.buffer (r.slot r.length) (some value) (r.slot i)) = _
  rw [List.range_succ, List.filterMap_append]
  congr 1
  · refine List.filterMap_congr fun i hi ↦ ?_
    have hi := List.mem_range.mp hi
    rw [Function.update_of_ne fun hslot ↦ hi.ne (slot_injOn (hi.trans hlt) hlt hslot)]
  · simp

/-- A full queue takes none. -/
theorem push_of_isFull {r : RingBuffer α capacity} (h : r.isFull = true) (value : α) :
    r.push value = (false, r) := by
  rw [push, dif_neg]
  simpa [isFull] using h

/-- **What is taken is the first value.** -/
theorem toList_shift (r : RingBuffer α capacity) :
    r.shift.1 = r.toList.head? ∧ r.shift.2.toList = r.toList.tail := by
  rw [shift]
  split
  · rename_i hzero
    have hnil : r.toList = [] := List.length_eq_zero_iff.mp ((length_toList r).trans hzero)
    exact ⟨by rw [hnil]; rfl, by rw [hnil]; rfl⟩
  · rename_i hne
    obtain ⟨n, hn⟩ := Nat.exists_eq_succ_of_ne_zero hne
    obtain ⟨value, hvalue⟩ := Option.isSome_iff_exists.mp (r.filled 0 (Nat.pos_of_ne_zero hne))
    have hslot : r.buffer (r.slot 0) = some value := hvalue
    have hcons : r.toList
        = value :: (List.range n).filterMap fun i ↦ r.buffer (r.slot (i + 1)) := by
      rw [toList, hn, List.range_succ_eq_map, List.filterMap_cons, hslot, List.filterMap_map]
      rfl
    refine ⟨by rw [hcons, hslot]; rfl, ?_⟩
    rw [hcons, List.tail_cons]
    change (List.range (r.length - 1)).filterMap (fun i ↦ Function.update r.buffer (r.slot 0) none
      ⟨((r.head + 1) % capacity + i) % capacity, Nat.mod_lt _ r.capacity_pos⟩) = _
    rw [hn, Nat.succ_sub_one]
    refine List.filterMap_congr fun i hi ↦ ?_
    have hi := List.mem_range.mp hi
    have hlt : i + 1 < capacity := (Nat.succ_lt_succ hi).trans_le (hn ▸ r.length_le)
    rw [slot_succ, Function.update_of_ne fun heq ↦
      Nat.succ_ne_zero i (slot_injOn hlt r.capacity_pos heq)]

/-! ## Sequences of operations -/

/-- A call of one of the operations. -/
inductive Op (α : Type*)
  | push (value : α)
  | shift
  | size

/-- What an operation answers. -/
inductive Answer (α : Type*)
  | pushed (taken : Bool)
  | shifted (value : Option α)
  | sized (n : ℕ)

/-- An operation on the ring. -/
def apply (r : RingBuffer α capacity) : Op α → Answer α × RingBuffer α capacity
  | .push value => (.pushed (r.push value).1, (r.push value).2)
  | .shift => (.shifted r.shift.1, r.shift.2)
  | .size => (.sized r.size, r)

/-- The same operation on a list that holds no more than `capacity` values. -/
def applyList (capacity : ℕ) (l : List α) : Op α → Answer α × List α
  | .push value => if l.length < capacity then (.pushed true, l ++ [value]) else (.pushed false, l)
  | .shift => (.shifted l.head?, l.tail)
  | .size => (.sized l.length, l)

/-- The answers to a sequence of operations. -/
def answers (r : RingBuffer α capacity) : List (Op α) → List (Answer α)
  | [] => []
  | op :: ops => (r.apply op).1 :: (r.apply op).2.answers ops

/-- The answers of a list. -/
def answersList (capacity : ℕ) (l : List α) : List (Op α) → List (Answer α)
  | [] => []
  | op :: ops => (applyList capacity l op).1 :: answersList capacity (applyList capacity l op).2 ops

/-- One operation on the ring is the operation on its list. -/
theorem apply_eq (r : RingBuffer α capacity) (op : Op α) :
    (r.apply op).1 = (applyList capacity r.toList op).1 ∧
      (r.apply op).2.toList = (applyList capacity r.toList op).2 := by
  cases op with
  | push value =>
    rw [apply, applyList]
    by_cases hlt : r.length < capacity
    · obtain ⟨htaken, hlist⟩ := toList_push (r := r) (by simpa [isFull] using hlt) value
      rw [if_pos ((length_toList r).trans_lt hlt), htaken]
      exact ⟨rfl, hlist⟩
    · rw [if_neg fun h ↦ hlt ((length_toList r).symm.trans_lt h),
        push_of_isFull (by simpa [isFull] using hlt)]
      exact ⟨rfl, rfl⟩
  | shift =>
    obtain ⟨hvalue, hlist⟩ := toList_shift r
    exact ⟨congrArg Answer.shifted hvalue, hlist⟩
  | size => exact ⟨congrArg Answer.sized (length_toList r).symm, rfl⟩

/-- **The ring answers as the list does**, whatever operations are made. -/
theorem answers_eq (r : RingBuffer α capacity) (ops : List (Op α)) :
    r.answers ops = answersList capacity r.toList ops := by
  induction ops generalizing r with
  | nil => rfl
  | cons op ops ih =>
    obtain ⟨hanswer, hlist⟩ := apply_eq r op
    rw [answers, answersList, hanswer, ih, hlist]

end RingBuffer
