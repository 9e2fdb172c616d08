import FeedHarvest.Proofs.Ingest.Rebuild
import FeedHarvest.Proofs.Search.Store

/-!
# What a successful rebuild leaves in the index

A rebuild that succeeds has had all its calls answered: the opening ones in order, then the batches
in some order, then the closing ones in order. Over a store this comes to an index that shows the
documents of the feed, whatever the store held before. The opening calls leave an empty index, and
pruning finds nothing, since every document carries the time of the run.

With one call open at a time the batches are answered in the order of the feed. With more the order
is up to the engine, and then it is enough that no identity occurs in two batches.
-/

namespace FeedHarvest.Ingest

namespace Plan

variable {p : Plan} {limits : LoadLimits} {schedule : Schedule} {engine : Search.Engine}
  {past : List Search.Call}

/-! ## The calls answered -/

private theorem store_injective (p : Plan) : Function.Injective p.store := by
  intro b c h
  rw [store, store, Search.Call.bulkIndex.injEq] at h
  exact h.2.2

theorem exists_order_of_load (h : (p.load limits schedule engine past).failure = none) :
    ∃ order : List (List Document), order.Perm (limits.batches p.documents) ∧
      (limits.inForce.openCalls = 1 → order = limits.batches p.documents) ∧
      (p.load limits schedule engine past).answered = order.map p.store := by
  refine ⟨_, (limits.endsIn_run schedule (p.answer engine past) p.documents).perm_batches h,
    fun hk ↦ ?_, by rw [load, runOf, List.map_map]; rfl⟩
  have hanswered : (p.load limits schedule engine past).answered
      = (limits.batches p.documents).map p.store := by
    rw [load_eq_run (.inl hk)] at h ⊢
    exact Search.Engine.answered_run_of_failure_eq_none h
  refine List.map_injective_iff.2 p.store_injective ?_
  rw [← hanswered, load, runOf, List.map_map]
  rfl

theorem exists_order_of_run (h : (p.run limits schedule engine past).failure = none) :
    ∃ order : List (List Document), order.Perm (limits.batches p.documents) ∧
      (limits.inForce.openCalls = 1 → order = limits.batches p.documents) ∧
      (p.run limits schedule engine past).answered
        = p.opening ++ order.map p.store ++ p.closing := by
  rw [run, Search.Run.failure_andThen_eq_none_iff, Search.Run.failure_andThen_eq_none_iff] at h
  obtain ⟨hopening, hload, hclosing⟩ := h
  have hopened := Search.Engine.answered_run_of_failure_eq_none hopening
  rw [hopened] at hload hclosing
  obtain ⟨order, hperm, hone, hloaded⟩ := exists_order_of_load hload
  rw [hloaded] at hclosing
  have hclosed := Search.Engine.answered_run_of_failure_eq_none hclosing
  refine ⟨order, hperm, hone, ?_⟩
  rw [run, Search.Run.andThen_of_no_failure hopening, hopened,
    Search.Run.andThen_of_no_failure hload]
  simp only [hloaded, hclosed]
  rw [List.append_assoc]

/-! ## Over a store -/

variable {runAt : Time.Instant} {order : List (List Document)}

/-- What the calls of a plan leave in a store when all of them are answered: the pipeline, and an
index to which the documents were given one after the other. -/
theorem afterAll_answered (p : Plan) (store : Search.Store)
    (hstamped : ∀ d ∈ order.flatten, d.body.get? stampField = some (.string runAt.stamp))
    (hpruned : p.prunedBefore = none ∨ p.prunedBefore = some runAt) :
    (store.afterAll (p.opening ++ order.map p.store ++ p.closing)).pipelines p.pipelineId
        = some p.pipeline ∧
      (store.afterAll (p.opening ++ order.map p.store ++ p.closing)).indices p.index
        = some (order.flatten.foldl Search.upsert []) := by
  have hopened : (store.afterAll p.opening).pipelines p.pipelineId = some p.pipeline ∧
      (store.afterAll p.opening).indices p.index = some [] := by
    simp [opening, Search.Store.after]
  obtain ⟨hindex, hpipelines⟩ :=
    Search.Store.afterAll_bulkIndex p.pipelineId order hopened.2
  have hcontents : ∀ d ∈ order.flatten.foldl Search.upsert [],
      d.body.get? stampField = some (.string runAt.stamp) := fun d hd ↦
    hstamped d (((Search.shows_foldl_upsert order.flatten).mem_iff d).1 hd).mem
  -- no closing call speaks of pipelines
  have hclosed : ∀ s : Search.Store, (s.afterAll p.closing).pipelines = s.pipelines := by
    intro s
    rcases hpruned with h | h <;> rw [closing, h] <;> rfl
  rw [Search.Store.afterAll_append, Search.Store.afterAll_append]
  refine ⟨?_, ?_⟩
  · rw [hclosed, ← hopened.1]
    exact congrFun hpipelines p.pipelineId
  · rw [closing]
    rcases hpruned with h | h
    · rw [h]
      exact hindex
    · rw [h]
      exact Search.Store.after_deleteOlderThan hindex hcontents

/-- A store refuses nothing of a plan: the index is removed before it is made. -/
theorem failure_run_of_store (p : Plan) (store : Search.Store)
    {fault : List Search.Call → Search.Call → Option Search.Error}
    (hfault : ∀ past c, fault past c = none) :
    (p.run limits schedule (store.engine fault) past).failure = none := by
  have hengine : ∀ past c, store.engine fault past c = (store.afterAll past).answer c := by
    intro past c
    rw [Search.Store.engine, hfault]
  rw [run, Search.Run.failure_andThen_eq_none_iff, Search.Run.failure_andThen_eq_none_iff]
  refine ⟨?_, ?_, ?_⟩
  · rw [Search.Engine.failure_run_eq_none_iff]
    simp [opening, Search.Engine.takes_cons_iff, Search.Engine.takes_nil, hengine,
      Search.Store.answer, Search.Store.afterAll_append, Search.Store.after]
  · refine Load.failure_run_of_forall_ok (fun l call ↦ ⟨0, ?_⟩) rfl _
    rw [answer, hengine]
    rfl
  · rw [Search.Engine.failure_run_eq_none_iff, closing]
    cases p.prunedBefore <;>
      simp [Search.Engine.takes_cons_iff, Search.Engine.takes_nil, hengine, Search.Store.answer]

end Plan

/-! ## What a successful rebuild leaves -/

/-- The world with a store in the place of its engine, before any call. -/
def World.over (world : World) (store : Search.Store)
    (fault : List Search.Call → Search.Call → Option Search.Error) : World :=
  { world with engine := store.engine fault, past := [] }

/-- Over a store that does not fail, a rebuild that can be planned succeeds. -/
theorem result_rebuild_of_plan {config : Config} {world : World} {prunes : Bool}
    {source : DataSource} {p : Plan} (hs : source.consolidated = false)
    (hplan : plan config source prunes world.runAt = .ok p) (store : Search.Store)
    {fault : List Search.Call → Search.Call → Option Search.Error}
    (hfault : ∀ past c, fault past c = none) :
    (rebuild config (world.over store fault) prunes source).result
      = .ok (.reingested p.documents.length) := by
  have hplan' : plan config source prunes (world.over store fault).runAt = .ok p := hplan
  have hfailure : (p.run config.limits (world.over store fault).schedule
      (world.over store fault).engine (world.over store fault).past).failure = none :=
    p.failure_run_of_store store hfault
  rw [rebuild_of_plan hs hplan' rfl]
  simp only [hfailure]

theorem get?_stamp_of_mem_documents {d : Dictionary} {records : List Record}
    {runAt : Time.Instant} {x : Document} (h : x ∈ d.documents records runAt) :
    x.body.get? stampField = some (.string runAt.stamp) := by
  obtain ⟨r, -, rfl⟩ := List.mem_map.1 h
  exact Json.Members.get?_insert_self _ _ _

theorem exists_plan_of_rebuild {config : Config} {world : World} {prunes : Bool}
    {source : DataSource} {n : Nat} (hs : source.consolidated = false)
    (h : (rebuild config world prunes source).result = .ok (.reingested n)) :
    ∃ p run, plan config source prunes world.runAt = .ok p ∧
      p.run config.limits world.schedule world.engine world.past = run ∧ run.failure = none ∧
      n = p.documents.length ∧ (rebuild config world prunes source).answered = run.answered := by
  cases hplan : plan config source prunes world.runAt with
  | error e =>
    rw [rebuild_of_plan_error hs hplan] at h
    cases h
  | ok p =>
    rw [rebuild_of_plan hs hplan rfl] at h ⊢
    refine ⟨p, _, rfl, rfl, ?_⟩
    cases hf : (p.run config.limits world.schedule world.engine world.past).failure with
    | some e => simp [hf] at h
    | none => exact ⟨rfl, by simpa [hf] using h.symm, rfl⟩

/-- After a rebuild over a store that succeeds, the pipeline is the compiled dictionary, and the
index holds of each identity among the documents of the feed the last and nothing else. -/
theorem rebuild_shows_feed (store : Search.Store)
    (fault : List Search.Call → Search.Call → Option Search.Error) (config : Config)
    (world : World) (prunes : Bool) (source : DataSource) (n : Nat)
    (hs : source.consolidated = false)
    (hok : (rebuild config (world.over store fault) prunes source).result
      = .ok (.reingested n)) :
    let id := config.naming.pipelineId source.api source.version
    let v := rebuild config (world.over store fault) prunes source
    let after := store.afterAll v.answered
    ∃ d pipeline records contents,
      Dictionary.parse source.dictionary = .ok d ∧ d.compile id = .ok pipeline ∧
      Feed.records source.data.toList = .ok records ∧ n = records.length ∧
      after.pipelines id = some pipeline ∧
      after.indices (config.naming.indexName source.api source.version) = some contents ∧
      (config.limits.inForce.openCalls = 1 ∨
          Search.Apart (config.limits.batches (d.documents records world.runAt)) →
        Search.Shows contents (d.documents records world.runAt)) ∧
      ∃ order : List (List Document),
        order.Perm (config.limits.batches (d.documents records world.runAt)) ∧
          Search.Shows contents order.flatten := by
  intro id v after
  obtain ⟨p, run, hplan, rfl, hfailure, rfl, hanswered⟩ := exists_plan_of_rebuild hs hok
  obtain ⟨order, hperm, hone, hcalls⟩ := Plan.exists_order_of_run hfailure
  obtain ⟨d, pipeline, records, hd, hp, hr, rfl⟩ := exists_of_plan_eq_ok hplan
  -- the engine and the past of a world do not enter its plans
  let p := Plan.ofRecords config source prunes world.runAt d pipeline records
  have hcalls' : v.answered = p.opening ++ order.map p.store ++ p.closing :=
    hanswered.trans hcalls
  have hperm' : order.Perm (config.limits.batches (d.documents records world.runAt)) := hperm
  have hone' : config.limits.inForce.openCalls = 1 →
      order = config.limits.batches (d.documents records world.runAt) := hone
  have hflat : (config.limits.batches (d.documents records world.runAt)).flatten
      = d.documents records world.runAt := flatten_chunks _ _
  have hstamped : ∀ x ∈ order.flatten,
      x.body.get? stampField = some (.string world.runAt.stamp) := by
    intro x hx
    rw [hperm'.flatten.mem_iff, hflat] at hx
    exact get?_stamp_of_mem_documents hx
  have hpruned : p.prunedBefore = none ∨ p.prunedBefore = some world.runAt := by
    cases prunes with
    | true => exact .inr rfl
    | false => exact .inl rfl
  have hleft := p.afterAll_answered store hstamped hpruned
  rw [← hcalls'] at hleft
  have hshows := Search.shows_foldl_upsert order.flatten
  refine ⟨d, pipeline, records, _, hd, hp, hr, List.length_map _, hleft.1, hleft.2, ?_,
    order, hperm', hshows⟩
  rintro (hk | hapart)
  · rwa [hone' hk, hflat] at hshows ⊢
  · rw [← hflat]
    exact hshows.of_perm hperm' hapart

/-- What was left in the index is gone, and both records are there. -/
theorem rebuild_shows_feed_over_leftovers :
    let store : Search.Store := ⟨fun _ ↦ none, fun _ ↦ some [⟨"left", .object []⟩]⟩
    let source : DataSource := { DataSource.register "works" 1 "" "" with data := "id\n1\n2\n" }
    let config : Config := ⟨⟨"test", "feeds"⟩, { batchSize := 1 }⟩
    let world : World :=
      { fetch := fun _ ↦ .ok "", engine := fun _ _ ↦ .ok 0, fetchedAt := ⟨0, 0⟩, runAt := ⟨0, 0⟩ }
    (rebuild config (world.over store fun _ _ ↦ none) true source).result
        = .ok (.reingested 2) ∧
      ∃ contents, (store.afterAll
          (rebuild config (world.over store fun _ _ ↦ none) true source).answered).indices
            (config.naming.indexName source.api source.version) = some contents ∧
        Search.Shows contents (({} : Dictionary).documents
          [[("id", .string "1")], [("id", .string "2")]] world.runAt) := by
  intro store source config world
  obtain ⟨hd, pipeline, hp⟩ := exists_pipeline_of_nil (config.naming.pipelineId "works" 1)
  have hplan : plan config source true world.runAt = .ok _ := plan_of_ok hd hp records_two_lines
  have hok : (rebuild config (world.over store fun _ _ ↦ none) true source).result
      = .ok (.reingested 2) := result_rebuild_of_plan rfl hplan store fun _ _ ↦ rfl
  obtain ⟨d, _, records, contents, hd', _, hr, _, _, hcontents, hshows, _⟩ :=
    rebuild_shows_feed store _ config world true source 2 rfl hok
  obtain rfl : {} = d := Except.ok.inj (hd.symm.trans hd')
  obtain rfl : _ = records := Except.ok.inj (records_two_lines.symm.trans hr)
  exact ⟨hok, contents, hcontents, hshows (.inl rfl)⟩

end FeedHarvest.Ingest
