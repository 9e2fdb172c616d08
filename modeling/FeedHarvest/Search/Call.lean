import FeedHarvest.Pipeline.Basic
import FeedHarvest.Record.Document
import FeedHarvest.Search.Error

/-!
# Calls to the search engine

What is asked of an engine, and what an engine is: whatever answers calls. An engine may answer a
call in any way that depends on the calls before it, so an engine is a function of them, and nothing
here assumes that it keeps what it is given.

Calls are made in order until one fails: the run of a list of calls has made a first part of it, and
all of it exactly when no call failed. Calls may also be open side by side; then a run tells the
order in which they were made from the order in which they were answered.
-/

namespace FeedHarvest.Search

inductive Call where
  | deleteIndex (index : String)
  | deletePipeline (id : String)
  | putPipeline (id : String) (pipeline : Pipeline)
  | createIndex (index : String)
  /-- Stores documents through a pipeline. -/
  | bulkIndex (index pipeline : String) (documents : List Document)
  /-- Deletes the documents whose field is before a time. -/
  | deleteOlderThan (index field : String) (cutoff : Time.Instant)
  | refreshIndex (index : String)
  deriving DecidableEq

/-- The kind of error that a call fails with. -/
def Call.errorKind : Call → ErrorKind
  | .deleteIndex _ => .indexDeletion
  | .deletePipeline _ | .putPipeline .. => .pipeline
  | .createIndex _ => .indexCreation
  | .bulkIndex .. => .bulkIndexing
  | .deleteOlderThan .. => .pruning
  | .refreshIndex _ => .refresh

/-- An answer: an error, or how many documents the call deleted by query. -/
abbrev Answer := Except Error Nat

/-- An engine answers a call in the light of the calls before it, which stand in order. -/
abbrev Engine := List Call → Call → Answer

/-- The error of an answer, if it is one. -/
def Answer.error? : Answer → Option Error
  | .ok _ => none
  | .error e => some e

/-- What came of making calls. -/
structure Run where
  /-- The calls made, in order. -/
  made : List Call
  /-- The calls answered, in the order of the answers; if one failed it is the last. -/
  answered : List Call
  failure : Option Error

/-- One run after another. The second is told what the first had answered, and is not begun if the
first failed. -/
def Run.andThen (first : Run) (next : List Call → Run) : Run :=
  match first.failure with
  | some _ => first
  | none =>
    let second := next first.answered
    ⟨first.made ++ second.made, first.answered ++ second.answered, second.failure⟩

theorem Run.andThen_of_failure {first : Run} {e : Error} (h : first.failure = some e)
    (next : List Call → Run) : first.andThen next = first := by
  rw [andThen, h]

theorem Run.andThen_of_no_failure {first : Run} (h : first.failure = none)
    (next : List Call → Run) :
    first.andThen next = ⟨first.made ++ (next first.answered).made,
      first.answered ++ (next first.answered).answered, (next first.answered).failure⟩ := by
  rw [andThen, h]

theorem Run.failure_andThen_eq_none_iff {first : Run} {next : List Call → Run} :
    (first.andThen next).failure = none ↔
      first.failure = none ∧ (next first.answered).failure = none := by
  cases h : first.failure with
  | some e => simp [andThen_of_failure h, h]
  | none => simp [andThen_of_no_failure h]

namespace Engine

/-- Makes calls in order until one fails, each after the answer to the one before. -/
def run (engine : Engine) (past : List Call) : List Call → Run
  | [] => ⟨[], [], none⟩
  | c :: cs =>
    match engine past c with
    | .error e => ⟨[c], [c], some e⟩
    | .ok _ =>
      let rest := run engine (past ++ [c]) cs
      ⟨c :: rest.made, c :: rest.answered, rest.failure⟩

/-- Whether none of the calls fails when they are made in order. -/
def Takes (engine : Engine) (past calls : List Call) : Prop :=
  ∀ made c, made ++ [c] <+: calls → ∃ n, engine (past ++ made) c = .ok n

variable {engine : Engine} {past : List Call} {c : Call}

@[simp] theorem run_nil : engine.run past [] = ⟨[], [], none⟩ := rfl

theorem run_cons_of_ok {n : Nat} (h : engine past c = .ok n) (cs : List Call) :
    engine.run past (c :: cs)
      = ⟨c :: (engine.run (past ++ [c]) cs).made, c :: (engine.run (past ++ [c]) cs).answered,
        (engine.run (past ++ [c]) cs).failure⟩ := by
  rw [run, h]

theorem run_cons_of_error {e : Error} (h : engine past c = .error e) (cs : List Call) :
    engine.run past (c :: cs) = ⟨[c], [c], some e⟩ := by
  rw [run, h]

theorem made_run_prefix (engine : Engine) (past calls : List Call) :
    (engine.run past calls).made <+: calls := by
  induction calls generalizing past with
  | nil => exact List.prefix_rfl
  | cons c cs ih =>
    cases h : engine past c with
    | error e =>
      rw [run_cons_of_error h]
      exact ⟨cs, rfl⟩
    | ok n =>
      rw [run_cons_of_ok h]
      exact (List.prefix_cons_inj c).2 (ih _)

theorem made_run_of_failure_eq_none {calls : List Call}
    (h : (engine.run past calls).failure = none) : (engine.run past calls).made = calls := by
  induction calls generalizing past with
  | nil => rfl
  | cons c cs ih =>
    cases hc : engine past c with
    | error e => simp [run_cons_of_error hc] at h
    | ok n =>
      rw [run_cons_of_ok hc] at h ⊢
      rw [ih h]

theorem answered_run (engine : Engine) (past calls : List Call) :
    (engine.run past calls).answered = (engine.run past calls).made := by
  induction calls generalizing past with
  | nil => rfl
  | cons c cs ih =>
    cases h : engine past c with
    | error e => rw [run_cons_of_error h]
    | ok n => rw [run_cons_of_ok h, ih]

theorem answered_run_of_failure_eq_none {calls : List Call}
    (h : (engine.run past calls).failure = none) : (engine.run past calls).answered = calls := by
  rw [answered_run, made_run_of_failure_eq_none h]

theorem run_append (engine : Engine) (past first second : List Call) :
    engine.run past (first ++ second)
      = (engine.run past first).andThen fun answered ↦ engine.run (past ++ answered) second := by
  induction first generalizing past with
  | nil => simp only [List.nil_append, run_nil, Run.andThen, List.append_nil]
  | cons c cs ih =>
    rw [List.cons_append]
    cases h : engine past c with
    | error e =>
      rw [run_cons_of_error h, run_cons_of_error h, Run.andThen_of_failure rfl]
    | ok n =>
      rw [run_cons_of_ok h, run_cons_of_ok h, ih]
      cases hf : (engine.run (past ++ [c]) cs).failure with
      | some e => simp only [Run.andThen, hf]
      | none => simp only [Run.andThen, hf, List.append_assoc, List.cons_append, List.nil_append]

theorem takes_nil (engine : Engine) (past : List Call) : engine.Takes past [] := by
  intro made c h
  exact absurd h (by simp)

theorem takes_cons_iff {cs : List Call} :
    engine.Takes past (c :: cs) ↔ (∃ n, engine past c = .ok n) ∧ engine.Takes (past ++ [c]) cs := by
  constructor
  · intro h
    refine ⟨by simpa using h [] c ⟨cs, rfl⟩, fun made d hd ↦ ?_⟩
    have hd' : (c :: made) ++ [d] <+: c :: cs := (List.prefix_cons_inj c).2 hd
    simpa using h (c :: made) d hd'
  · rintro ⟨hc, hcs⟩ made d hd
    cases made with
    | nil =>
      obtain ⟨rfl, -⟩ := List.cons_prefix_cons.1 hd
      simpa using hc
    | cons m made =>
      obtain ⟨rfl, hd'⟩ := List.cons_prefix_cons.1 hd
      simpa using hcs made d hd'

theorem failure_run_eq_none_iff {calls : List Call} :
    (engine.run past calls).failure = none ↔ engine.Takes past calls := by
  induction calls generalizing past with
  | nil => exact iff_of_true rfl (takes_nil engine past)
  | cons c cs ih =>
    cases h : engine past c with
    | error e => simp [run_cons_of_error h, takes_cons_iff, h]
    | ok n => simp [run_cons_of_ok h, takes_cons_iff, h, ih]

/-- The last call of a run that fails is the first call that fails. -/
theorem exists_of_failure_run_eq_some {calls : List Call} {e : Error}
    (h : (engine.run past calls).failure = some e) :
    ∃ made c, (engine.run past calls).made = made ++ [c] ∧ engine.Takes past made ∧
      engine (past ++ made) c = .error e := by
  induction calls generalizing past with
  | nil => cases h
  | cons c cs ih =>
    cases hc : engine past c with
    | error e' =>
      rw [run_cons_of_error hc] at h ⊢
      cases h
      exact ⟨[], c, rfl, takes_nil engine past, by simpa using hc⟩
    | ok n =>
      rw [run_cons_of_ok hc] at h ⊢
      obtain ⟨made, d, hmade, htakes, hd⟩ := ih h
      refine ⟨c :: made, d, by rw [hmade]; rfl, takes_cons_iff.2 ⟨⟨n, hc⟩, htakes⟩, ?_⟩
      simpa using hd

theorem run_of_first_failure {made : List Call} {e : Error} (hmade : engine.Takes past made)
    (hc : engine (past ++ made) c = .error e) (rest : List Call) :
    engine.run past (made ++ c :: rest) = ⟨made ++ [c], made ++ [c], some e⟩ := by
  have hf := failure_run_eq_none_iff.2 hmade
  rw [run_append, Run.andThen_of_no_failure hf, made_run_of_failure_eq_none hf,
    answered_run_of_failure_eq_none hf, run_cons_of_error hc]

/-- None of the calls that a run has made failed exactly when the run did not. -/
theorem takes_made_run_iff {calls : List Call} :
    engine.Takes past (engine.run past calls).made ↔ engine.Takes past calls := by
  cases hf : (engine.run past calls).failure with
  | none => rw [made_run_of_failure_eq_none hf]
  | some e =>
    have hcalls : ¬ engine.Takes past calls := fun h ↦ by
      rw [failure_run_eq_none_iff.2 h] at hf
      cases hf
    obtain ⟨made, c, hmade, -, hc⟩ := exists_of_failure_run_eq_some hf
    refine iff_of_false (fun h ↦ ?_) hcalls
    obtain ⟨n, hn⟩ := h made c (hmade ▸ List.prefix_rfl)
    rw [hc] at hn
    cases hn

end Engine

end FeedHarvest.Search
