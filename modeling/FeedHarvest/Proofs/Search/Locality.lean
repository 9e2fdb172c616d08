import FeedHarvest.Search.Call

/-!
# What an answer may depend on

A call names an index, a pipeline, or both. An engine is *local* if its answer to a call depends on
no earlier calls but those that name the same index or the same pipeline. Calls made for others are
then as good as not made, and a run over them is the run without them.
-/

namespace FeedHarvest.Search

namespace Call

/-- The index that a call names, if it names one. -/
def index? : Call → Option String
  | .deleteIndex i | .createIndex i | .bulkIndex i _ _ | .deleteOlderThan i _ _
  | .refreshIndex i => some i
  | .deletePipeline _ | .putPipeline _ _ => none

/-- The pipeline that a call names, if it names one. -/
def pipelineId? : Call → Option String
  | .deletePipeline id | .putPipeline id _ | .bulkIndex _ id _ => some id
  | .deleteIndex _ | .createIndex _ | .deleteOlderThan _ _ _ | .refreshIndex _ => none

/-- Whether two calls name one index or one pipeline. -/
def Meets (c d : Call) : Prop :=
  (∃ i, c.index? = some i ∧ d.index? = some i) ∨
    ∃ id, c.pipelineId? = some id ∧ d.pipelineId? = some id

instance (c d : Call) : Decidable (c.Meets d) :=
  decidable_of_iff ((c.index?.any fun i ↦ d.index? == some i) = true ∨
    (c.pipelineId?.any fun id ↦ d.pipelineId? == some id) = true) (by
      simp only [Option.any_eq_true, beq_iff_eq, Meets])

/-- Whether a call names nothing but an index and a pipeline. -/
def NamesOnly (index id : String) (c : Call) : Prop :=
  (∀ i, c.index? = some i → i = index) ∧ ∀ p, c.pipelineId? = some p → p = id

theorem NamesOnly.not_meets {index index' id id' : String} {c d : Call} (hc : c.NamesOnly index id)
    (hd : d.NamesOnly index' id') (hindex : index ≠ index') (hid : id ≠ id') : ¬ c.Meets d := by
  rintro (⟨i, hci, hdi⟩ | ⟨p, hcp, hdp⟩)
  · exact hindex ((hc.1 i hci).symm.trans (hd.1 i hdi))
  · exact hid ((hc.2 p hcp).symm.trans (hd.2 p hdp))

end Call

theorem Run.forall_mem_answered_andThen {P : Call → Prop} {first : Run} {next : List Call → Run}
    (hfirst : ∀ c ∈ first.answered, P c) (hnext : ∀ past, ∀ c ∈ (next past).answered, P c) :
    ∀ c ∈ (first.andThen next).answered, P c := by
  cases hf : first.failure with
  | some e =>
    rw [andThen_of_failure hf]
    exact hfirst
  | none =>
    rw [andThen_of_no_failure hf]
    intro c hc
    rcases List.mem_append.1 hc with hc | hc
    · exact hfirst c hc
    · exact hnext _ c hc

namespace Engine

/-- Whether answers depend on no earlier calls but those that name the same. -/
def IsLocal (engine : Engine) : Prop :=
  ∀ past past' c, (past.filter fun d ↦ c.Meets d) = past'.filter (fun d ↦ c.Meets d) →
    engine past c = engine past' c

variable {engine : Engine} {others past calls : List Call} {c : Call}

theorem run_congr {engine' : Engine} {past' : List Call}
    (h : ∀ made c, engine' (past' ++ made) c = engine (past ++ made) c) (calls : List Call) :
    engine'.run past' calls = engine.run past calls := by
  induction calls generalizing past past' with
  | nil => rfl
  | cons c cs ih =>
    have hc := h [] c
    rw [List.append_nil, List.append_nil] at hc
    rw [run, run, hc, ih fun made d ↦ ?_]
    rw [List.append_assoc, List.append_assoc]
    exact h ([c] ++ made) d

/-- Calls that name something else make no difference to an answer. -/
theorem IsLocal.answer_append (h : engine.IsLocal) (hothers : ∀ d ∈ others, ¬ c.Meets d) :
    engine (others ++ past) c = engine past c := by
  refine h _ _ c ?_
  rw [List.filter_append, List.filter_eq_nil_iff.2 fun d hd ↦ by simpa using hothers d hd,
    List.nil_append]

/-- Nor do they make a difference to a run. -/
theorem IsLocal.run_append (h : engine.IsLocal) (past : List Call)
    (hothers : ∀ c ∈ calls, ∀ d ∈ others, ¬ c.Meets d) :
    engine.run (others ++ past) calls = engine.run past calls := by
  induction calls generalizing past with
  | nil => rfl
  | cons c cs ih =>
    rw [run, run, h.answer_append (hothers c List.mem_cons_self), List.append_assoc,
      ih _ fun d hd ↦ hothers d (List.mem_cons_of_mem c hd)]

end Engine

end FeedHarvest.Search
