import Mathlib
import RwServer.Foundation.Run
import RwServer.Processor.AnyTrigger

/-!
# Hydrations beside the stream

A hydration looks which of the tags it needs have no snapshot, and asks for these batch by batch.
Between a request and its response the stream goes on: readings of the same tags may come in and
be written. The response is written all the same; whether a tag is still missing is not looked at
again. `StreamValuesKept` says that the cache has, of every tag, the value of the latest reading of
the stream; `stream_values_kept` says under which condition on the responses it stays so.

A hydration that nothing comes between is the loop of the sequential processor
(`hydrateBatches_run`).
-/

namespace RwServer

open Transition

/-- A hydration that waits for the response to a batch, and the batches after that. -/
structure HydrationCall where
  batch : List String
  rest : List (List String)
deriving DecidableEq, Repr

/-- The call that asks for these batches; none is left where there are none. -/
def HydrationCall.ofBatches : List (List String) → Option HydrationCall
  | [] => none
  | batch :: rest => some ⟨batch, rest⟩

/-- The cache, the hydrations that wait for a response, and the value of the latest reading of a
tag that the stream has brought. -/
structure HydrationState (ι : Type*) where
  cache : TagSnapshotCache
  calls : ι → Option HydrationCall
  latest : String → Option JsValue

inductive HydrationStep (ι : Type*)
  /-- The preprocessor writes a reading. -/
  | reading (reading : PointReading) (nowIso : String)
  /-- A hydration begins: for an event with attached snapshots, or without any to prewarm. -/
  | hydrate (i : ι) (attached : OrderedMap String TagValueSnapshot) (requiredTagKeys : List String)
  /-- The response to a batch arrives. -/
  | response (i : ι) (snapshots : List (String × ProcessorTagSnapshot)) (nowIso : String)
  /-- A request fails or times out. -/
  | failed (i : ι)

section

variable {ι : Type*} [DecidableEq ι]

/-- The keys that have a snapshot neither attached nor in the cache. -/
def missingTagKeys (attached : OrderedMap String TagValueSnapshot) (cache : TagSnapshotCache)
    (requiredTagKeys : List String) : List String :=
  requiredTagKeys.filter fun key ↦
    (attached.get? key).isNone && (cache.getSnapshot key).isNone

def hydrationStep (config : StationEventsProcessorConfig) :
    HydrationStep ι → HydrationState ι → Option (HydrationState ι)
  | .reading reading nowIso, s =>
    some { s with
      cache := s.cache.upsertPointReading nowIso reading
      latest := Function.update s.latest reading.pointId (some reading.value) }
  | .hydrate i attached requiredTagKeys, s =>
    match s.calls i with
    | some _ => none
    | none =>
      let missing := missingTagKeys attached s.cache (addKeys [] requiredTagKeys)
      some { s with
        calls := Function.update s.calls i
          (HydrationCall.ofBatches (missing.toChunks config.tagFetchBatchSize)) }
  | .response i snapshots nowIso, s =>
    match s.calls i with
    | none => none
    | some call =>
      some { s with
        cache := s.cache.setResponse nowIso snapshots
        calls := Function.update s.calls i (HydrationCall.ofBatches call.rest) }
  | .failed i, s =>
    match s.calls i with
    | none => none
    | some _ => some { s with calls := Function.update s.calls i none }

/-- No reading has come, and no hydration has begun. -/
def hydrationStart (maxEntries : ℕ) : HydrationState ι where
  cache := .new maxEntries
  calls _ := none
  latest _ := none

/-! ## The value of the stream -/

/-- The cache has, of every tag that the stream has brought, the value of its latest reading, or
nothing where the tag has been trimmed. -/
def StreamValuesKept (cache : TagSnapshotCache) (latest : String → Option JsValue) : Prop :=
  ∀ key value snapshot, latest key = some value → cache.getSnapshot key = some snapshot →
    snapshot.value = value

/-- What a response says of a tag that the stream has brought is the value of its latest reading. -/
def ResponseCurrent (latest : String → Option JsValue)
    (snapshots : List (String × ProcessorTagSnapshot)) : Prop :=
  ∀ entry ∈ snapshots, (latest entry.1).all (fun value ↦ decide (entry.2.value = value)) = true

instance instDecidableResponseCurrent (latest : String → Option JsValue)
    (snapshots : List (String × ProcessorTagSnapshot)) :
    Decidable (ResponseCurrent latest snapshots) :=
  inferInstanceAs (Decidable (∀ entry ∈ snapshots,
    (latest entry.1).all (fun value ↦ decide (entry.2.value = value)) = true))

/-- The condition on a step: a response is current in that sense. -/
def HydrationStep.Current (s : HydrationState ι) : HydrationStep ι → Prop
  | .response _ snapshots _ => ResponseCurrent s.latest snapshots
  | _ => True

instance instDecidableCurrent (s : HydrationState ι) (step : HydrationStep ι) :
    Decidable (step.Current s) :=
  match step with
  | .reading _ _ => isTrue trivial
  | .hydrate _ _ _ => isTrue trivial
  | .response _ snapshots _ => inferInstanceAs (Decidable (ResponseCurrent s.latest snapshots))
  | .failed _ => isTrue trivial

/-- **What one write may say.** It keeps the values of the stream iff the stream agrees with it. -/
theorem streamValuesKept_setSnapshot_iff {nowIso : String} {input : SnapshotInput}
    {cache : TagSnapshotCache} {latest : String → Option JsValue}
    (h : StreamValuesKept cache latest) :
    StreamValuesKept (cache.setSnapshot nowIso input) latest ↔
      ∀ value, latest input.key = some value → input.value = value := by
  constructor
  · intro hkept value hlatest
    exact hkept _ _ _ hlatest (cache.getSnapshot_setSnapshot_self nowIso input)
  · intro hinput key value snapshot hlatest hget
    rcases TagSnapshotCache.value_of_setSnapshot hget with ⟨rfl, hvalue⟩ | ⟨-, hbefore⟩
    · rw [hvalue]
      exact hinput value hlatest
    · exact h key value snapshot hlatest hbefore

/-- A reading becomes the value of its tag, in the cache and in the stream. -/
theorem streamValuesKept_reading {nowIso : String} {reading : PointReading}
    {cache : TagSnapshotCache} {latest : String → Option JsValue}
    (h : StreamValuesKept cache latest) :
    StreamValuesKept (cache.upsertPointReading nowIso reading)
      (Function.update latest reading.pointId (some reading.value)) := by
  intro key value snapshot hlatest hget
  rcases TagSnapshotCache.value_of_setSnapshot hget with ⟨rfl, hvalue⟩ | ⟨hne, hbefore⟩
  · have hself : some reading.value = some value :=
      (Function.update_self reading.pointId (some reading.value) latest).symm.trans hlatest
    rw [hvalue]
    exact Option.some.inj hself
  · have hkey : key ≠ reading.pointId := hne
    rw [Function.update_of_ne hkey] at hlatest
    exact h key value snapshot hlatest hbefore

theorem streamValuesKept_setResponse {nowIso : String} {latest : String → Option JsValue}
    {snapshots : List (String × ProcessorTagSnapshot)} {cache : TagSnapshotCache}
    (h : StreamValuesKept cache latest) (hcurrent : ResponseCurrent latest snapshots) :
    StreamValuesKept (cache.setResponse nowIso snapshots) latest := by
  rw [TagSnapshotCache.setResponse]
  induction snapshots generalizing cache with
  | nil => exact h
  | cons entry rest ih =>
    rw [List.foldl_cons]
    refine ih ((streamValuesKept_setSnapshot_iff h).mpr fun value hvalue ↦ ?_)
      fun e he ↦ hcurrent e (List.mem_cons_of_mem _ he)
    have hall := hcurrent entry List.mem_cons_self
    have hlatest : latest entry.1 = some value := hvalue
    rw [hlatest, Option.all_some, decide_eq_true_eq] at hall
    exact hall

/-- **A streamed value stays.** In every interleaving of readings and hydrations in which a response
says, of each tag that the stream has brought by then, the value of its latest reading, the cache
never has another value of such a tag than its latest reading. -/
theorem stream_values_kept (config : StationEventsProcessorConfig) (maxEntries : ℕ)
    {steps : List (HydrationStep ι)} {s : HydrationState ι}
    (hrun : Run (hydrationStep config) (fun s step ↦ step.Current s)
      (hydrationStart maxEntries) steps s) : StreamValuesKept s.cache s.latest := by
  induction hrun with
  | nil =>
    intro key value snapshot hlatest
    cases hlatest
  | snoc _ hok hstep ih =>
    rename_i s step s' _
    cases step with
    | reading reading nowIso =>
      cases hstep
      exact streamValuesKept_reading ih
    | hydrate i attached requiredTagKeys =>
      simp only [hydrationStep] at hstep
      split at hstep
      · cases hstep
      · cases hstep
        exact ih
    | response i snapshots nowIso =>
      simp only [hydrationStep] at hstep
      split at hstep
      · cases hstep
      · cases hstep
        exact streamValuesKept_setResponse ih hok
    | failed i =>
      simp only [hydrationStep] at hstep
      split at hstep
      · cases hstep
      · cases hstep
        exact ih

/-- Two tags are asked for, one of them is read before the response comes, and the response has
only the other one. -/
theorem stream_values_kept_two : ∃ s : HydrationState Unit,
    (s.cache.getSnapshot "pressure").map TagValueSnapshot.value = some (tagNumber 5) ∧
      (s.cache.getSnapshot "temperature").map TagValueSnapshot.value = some (tagNumber 3) ∧
      StreamValuesKept s.cache s.latest := by
  have hrun : (execute (hydrationStep batchesOfTwo) (fun s step ↦ step.Current s)
      [.hydrate () .empty ["pressure", "temperature"],
        .reading ⟨"pressure", none, tagNumber 5, .undefined, none, none, none⟩ "now",
        .response () [("temperature", ⟨"temperature", tagNumber 3, .null, none, none, none, none⟩)]
          "now"]
      (hydrationStart 50 : HydrationState Unit)).any (fun s ↦
        decide ((s.cache.getSnapshot "pressure").map TagValueSnapshot.value = some (tagNumber 5) ∧
          (s.cache.getSnapshot "temperature").map TagValueSnapshot.value
            = some (tagNumber 3))) = true := by
    decide +kernel
  obtain ⟨s, hs, hvalues⟩ := (Option.any_eq_true _ _).mp hrun
  have hvalues' := of_decide_eq_true hvalues
  exact ⟨s, hvalues'.1, hvalues'.2, stream_values_kept batchesOfTwo 50 (run_of_execute hs)⟩

/-- **A response overwrites a reading.** The pressure is asked for, then its reading 5 comes, then
the response with the older 3, and the cache has 3. -/
theorem not_stream_values_kept : ¬ ∀ s : HydrationState Unit,
    Run (hydrationStep batchesOfTwo) (fun _ _ ↦ True) (hydrationStart 50)
      [.hydrate () .empty ["pressure"],
        .reading ⟨"pressure", none, tagNumber 5, .undefined, none, none, none⟩ "now",
        .response () [("pressure", ⟨"pressure", tagNumber 3, .null, none, none, none, none⟩)]
          "now"] s →
    StreamValuesKept s.cache s.latest := by
  intro hall
  have hrun : (execute (hydrationStep batchesOfTwo) (fun _ _ ↦ True)
      [.hydrate () .empty ["pressure"],
        .reading ⟨"pressure", none, tagNumber 5, .undefined, none, none, none⟩ "now",
        .response () [("pressure", ⟨"pressure", tagNumber 3, .null, none, none, none, none⟩)]
          "now"] (hydrationStart 50 : HydrationState Unit)).any (fun s ↦
        decide (s.latest "pressure" = some (tagNumber 5) ∧
          (s.cache.getSnapshot "pressure").any fun snapshot ↦
            decide (snapshot.value ≠ tagNumber 5))) = true := by
    decide +kernel
  obtain ⟨s, hs, hvalues⟩ := (Option.any_eq_true _ _).mp hrun
  obtain ⟨hlatest, hcached⟩ := of_decide_eq_true hvalues
  obtain ⟨snapshot, hsnapshot, hne⟩ := (Option.any_eq_true _ _).mp hcached
  exact of_decide_eq_true hne (hall s (run_of_execute hs) _ _ _ hlatest hsnapshot)

/-! ## A hydration that nothing comes between -/

/-- **The sequential loop is a run.** A hydration whose requests are all answered, with nothing
coming between, leaves the cache as the loop of the processor does. -/
theorem hydrateBatches_run (config : StationEventsProcessorConfig) (answers : ServiceAnswers)
    (i : ι) (batches : List (List String)) {s : HydrationState ι}
    (hcall : s.calls i = HydrationCall.ofBatches batches)
    (hanswers : (hydrateBatches answers batches s.cache).2 = true) :
    ∃ (steps : List (HydrationStep ι)) (s' : HydrationState ι),
      Run (hydrationStep config) (fun _ _ ↦ True) s steps s' ∧ s'.calls i = none ∧
        s'.cache = (hydrateBatches answers batches s.cache).1 ∧ s'.latest = s.latest := by
  induction batches generalizing s with
  | nil => exact ⟨[], s, .nil, hcall, rfl, rfl⟩
  | cons batch rest ih =>
    rw [hydrateBatches] at hanswers ⊢
    cases hresponse : answers.getTagSnapshotsForProcessor batch with
    | none => simp [hresponse] at hanswers
    | some snapshots =>
      simp only [hresponse] at hanswers ⊢
      have hstep : hydrationStep config (.response i snapshots answers.nowIso) s
          = some { s with
              cache := s.cache.setResponse answers.nowIso snapshots
              calls := Function.update s.calls i (HydrationCall.ofBatches rest) } := by
        simp [hydrationStep, hcall, HydrationCall.ofBatches]
      obtain ⟨steps, s', hrun, hdone, hcache, hlatest⟩ := ih
        (s := { s with
          cache := s.cache.setResponse answers.nowIso snapshots
          calls := Function.update s.calls i (HydrationCall.ofBatches rest) })
        (Function.update_self ..) hanswers
      exact ⟨_, s', (Run.snoc .nil trivial hstep).trans hrun, hdone, hcache, hlatest⟩

end

end RwServer
