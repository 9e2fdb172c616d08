import FeedHarvest.Proofs.Ingest.ChangeDetection
import FeedHarvest.Proofs.Search.Locality

/-!
# Visits among visits to others

All calls of a rebuild name the index and the pipeline of its source, and a visit fetches from
nowhere but the address of its source. So if an engine is local, a visit does not notice what was
asked of it for sources of other names; and if the feed at an address does not depend on what was
fetched elsewhere, it does not notice fetching for sources of other addresses.
-/

namespace FeedHarvest.Ingest

/-! ## The calls of a plan -/

namespace Plan

variable {p : Plan} {limits : LoadLimits} {schedule : Schedule} {engine : Search.Engine}
variable {others past : List Search.Call} {c : Search.Call}

theorem namesOnly_store (p : Plan) (batch : List Document) :
    (p.store batch).NamesOnly p.index p.pipelineId := by
  refine ⟨?_, ?_⟩
  · rintro _ ⟨⟩
    rfl
  · rintro _ ⟨⟩
    rfl

theorem namesOnly_of_mem_opening (h : c ∈ p.opening) : c.NamesOnly p.index p.pipelineId := by
  simp only [opening, List.mem_cons, List.not_mem_nil, or_false] at h
  rcases h with rfl | rfl | rfl | rfl <;> simp [Search.Call.NamesOnly, Search.Call.index?,
    Search.Call.pipelineId?]

theorem namesOnly_of_mem_closing (h : c ∈ p.closing) : c.NamesOnly p.index p.pipelineId := by
  simp only [closing, List.mem_append, Option.mem_toList, Option.map_eq_some_iff,
    List.mem_singleton] at h
  rcases h with ⟨t, -, rfl⟩ | rfl <;> simp [Search.Call.NamesOnly, Search.Call.index?,
    Search.Call.pipelineId?]

theorem namesOnly_of_mem_answered_run (h : c ∈ (p.run limits schedule engine past).answered) :
    c.NamesOnly p.index p.pipelineId := by
  refine Search.Run.forall_mem_answered_andThen ?_ (fun opened ↦ ?_) c h
  · intro c hc
    rw [Search.Engine.answered_run] at hc
    exact namesOnly_of_mem_opening ((Search.Engine.made_run_prefix _ _ _).subset hc)
  · refine Search.Run.forall_mem_answered_andThen ?_ (fun loaded ↦ ?_)
    · intro c hc
      obtain ⟨a, -, rfl⟩ := List.mem_map.1 hc
      exact p.namesOnly_store a.1.1
    · intro c hc
      rw [Search.Engine.answered_run] at hc
      exact namesOnly_of_mem_closing ((Search.Engine.made_run_prefix _ _ _).subset hc)

/-- A local engine runs a plan as if nothing had been asked of it for others. -/
theorem run_append (p : Plan) (limits : LoadLimits) (schedule : Schedule)
    (past : List Search.Call) (hlocal : engine.IsLocal)
    (hothers : ∀ c : Search.Call, c.NamesOnly p.index p.pipelineId → ∀ d ∈ others, ¬ c.Meets d) :
    p.run limits schedule engine (others ++ past) = p.run limits schedule engine past := by
  have hload : ∀ past, p.load limits schedule engine (others ++ past)
      = p.load limits schedule engine past := by
    intro past
    have hanswer : p.answer engine (others ++ past) = p.answer engine past := by
      funext l call
      rw [answer, answer, List.append_assoc]
      exact hlocal.answer_append (hothers _ (p.namesOnly_store call.1))
    rw [load, load, hanswer]
  have hopening := hlocal.run_append past
    fun c hc ↦ hothers c (p.namesOnly_of_mem_opening hc)
  have hclosing := fun past ↦ hlocal.run_append past
    fun c hc ↦ hothers c (p.namesOnly_of_mem_closing hc)
  simp only [run, List.append_assoc, hopening, hload, hclosing]

end Plan

/-! ## Visits -/

variable {config : Config} {world world' : World} {source : DataSource} {prunes : Bool}

theorem names_of_plan {runAt : Time.Instant} {p : Plan}
    (h : plan config source prunes runAt = .ok p) :
    p.index = config.naming.indexName source.api source.version ∧
      p.pipelineId = config.naming.pipelineId source.api source.version := by
  obtain ⟨d, pipeline, records, -, -, -, rfl⟩ := exists_of_plan_eq_ok h
  exact ⟨rfl, rfl⟩

/-- Whether two worlds are the same to the plans of a source. -/
def RunsAlike (config : Config) (source : DataSource) (world world' : World) : Prop :=
  ∀ p : Plan, p.index = config.naming.indexName source.api source.version →
    p.pipelineId = config.naming.pipelineId source.api source.version →
    p.run config.limits world'.schedule world'.engine world'.past
      = p.run config.limits world.schedule world.engine world.past

/-- A rebuild knows its world by the time and by what comes of its plan. -/
theorem rebuild_congr (htime : world'.runAt = world.runAt)
    (hrun : RunsAlike config source world world') :
    rebuild config world' prunes source = rebuild config world prunes source := by
  rcases Bool.eq_false_or_eq_true source.consolidated with hs | hs
  · rw [rebuild, rebuild, if_pos hs, if_pos hs]
  · cases hplan : plan config source prunes world.runAt with
    | error e =>
      rw [rebuild_of_plan_error hs hplan, rebuild_of_plan_error hs (htime ▸ hplan)]
    | ok p =>
      obtain ⟨hindex, hid⟩ := names_of_plan hplan
      rw [rebuild_of_plan hs hplan rfl, rebuild_of_plan hs (htime ▸ hplan) (hrun p hindex hid)]

/-- So does a visit, and by the feed at the address of its source. -/
theorem freshen_congr (hfetchedAt : world'.fetchedAt = world.fetchedAt)
    (hrunAt : world'.runAt = world.runAt)
    (hfetch : world'.fetch source.url = world.fetch source.url)
    (hrun : RunsAlike config source world world') :
    freshen config world' source = freshen config world source := by
  have hrebuild : ∀ text, rebuild config world' true (receive source text world.fetchedAt)
      = rebuild config world true (receive source text world.fetchedAt) := by
    intro text
    -- what is received has the names of the source
    refine rebuild_congr hrunAt fun p hindex hid ↦ hrun p ?_ ?_
    · rw [hindex, sameRegistration_receive source text world.fetchedAt]
    · rw [hid, sameRegistration_receive source text world.fetchedAt]
  simp only [freshen, hfetch, hfetchedAt, hrebuild]

theorem namesOnly_of_mem_rebuild {c : Search.Call}
    (h : c ∈ (rebuild config world prunes source).answered) :
    c.NamesOnly (config.naming.indexName source.api source.version)
      (config.naming.pipelineId source.api source.version) := by
  rcases Bool.eq_false_or_eq_true source.consolidated with hs | hs
  · rw [rebuild, if_pos hs] at h
    cases h
  · cases hplan : plan config source prunes world.runAt with
    | error e =>
      rw [rebuild_of_plan_error hs hplan] at h
      cases h
    | ok p =>
      rw [rebuild_of_plan hs hplan rfl] at h
      obtain ⟨hindex, hid⟩ := names_of_plan hplan
      rw [← hindex, ← hid]
      exact Plan.namesOnly_of_mem_answered_run h

/-- If calls are answered promptly, a visit has made no call that was not answered. -/
theorem answered_freshen_of_prompt (hprompt : world.schedule = .prompt) :
    (freshen config world source).answered = (freshen config world source).calls := by
  have hrebuild : ∀ source : DataSource, (rebuild config world true source).answered
      = (rebuild config world true source).calls := by
    intro source
    rcases Bool.eq_false_or_eq_true source.consolidated with hs | hs
    · rw [rebuild, if_pos hs]
    · cases hplan : plan config source true world.runAt with
      | error e => rw [rebuild_of_plan_error hs hplan]
      | ok p =>
        rw [rebuild_of_plan hs hplan (Plan.run_eq_run_calls (.inr hprompt))]
        exact Search.Engine.answered_run _ _ _
  rw [freshen]
  split
  · rfl
  · split
    · rfl
    · split
      · rfl
      · exact hrebuild _

/-- What a visit asks for, and where it fetches from, is named after its source. -/
structure Visit.NamedAfter (config : Config) (source : DataSource) (v : Visit) : Prop where
  namesOnly : ∀ c ∈ v.answered,
    c.NamesOnly (config.naming.indexName source.api source.version)
      (config.naming.pipelineId source.api source.version)
  fetched_eq : ∀ address ∈ v.fetched, address = source.url

theorem namedAfter_freshen (config : Config) (world : World) (source : DataSource) :
    (freshen config world source).NamedAfter config source := by
  rcases Bool.eq_false_or_eq_true source.consolidated with hs | hs
  · rw [freshen, if_pos hs]
    exact ⟨by simp, by simp⟩
  · cases hfetch : world.fetch source.url with
    | error e =>
      rw [freshen_of_fetch_error hs hfetch]
      exact ⟨by simp, by simp⟩
    | ok text =>
      rcases freshen_of_text config hs hfetch with ⟨-, -, hv⟩ | ⟨-, hv⟩
      · rw [hv]
        exact ⟨by simp, by simp⟩
      · rw [hv]
        refine ⟨fun c hc ↦ ?_, by simp⟩
        have hnames := namesOnly_of_mem_rebuild hc
        rwa [sameRegistration_receive source text world.fetchedAt] at hnames

end FeedHarvest.Ingest
