import FeedHarvest.Proofs.Ingest.Rebuild
import FeedHarvest.Proofs.Search.Client
import FeedHarvest.Proofs.Search.Request

/-!
# Rebuilds over a network

With one call open at a time a rebuild is a run of calls, and over a network each of its calls is
one request: the only call that could send nothing is one that stores no documents, and no batch is
empty. So where a rebuild stops is decided by the responses alone. Its source is fresh exactly when
every response was trusted, and after the first that was not nothing more is sent.
-/

namespace FeedHarvest.Ingest

variable {config : Config} {source : DataSource} {prunes : Bool}
  {client : Search.Client} {network : Http.Network} {before : List Http.Request}

/-! ## The requests of a plan -/

/-- The requests for the calls of a plan, in their order. -/
def Plan.requests (p : Plan) (client : Search.Client) (limits : LoadLimits) : List Http.Request :=
  let index := "/" ++ String.ofList (Search.pathPart p.index)
  let pipeline := "/_ingest/pipeline/" ++ String.ofList (Search.pathPart p.pipelineId)
  [client.ask "DELETE" index "", client.ask "DELETE" pipeline "",
    client.ask "PUT" pipeline p.pipeline.toJson.compact,
    client.ask "PUT" index (Search.indexSettings client.replicas).compact] ++
  (limits.batches p.documents).map (fun batch ↦ client.ask "POST"
    (index ++ "/_bulk?pipeline=" ++ String.ofList (Search.queryValue p.pipelineId))
    (Search.bulkBody batch)) ++
  ((p.prunedBefore.map fun cutoff ↦ client.ask "POST"
      (index ++ "/_delete_by_query?conflicts=proceed")
      (Search.olderThan stampField cutoff).compact).toList ++
    [client.ask "POST" (index ++ "/_refresh") ""])

theorem Plan.map_request?_calls (p : Plan) (client : Search.Client) (limits : LoadLimits)
    (hindex : ∃ c ∈ p.index.toList, c ≠ '.') (hid : ∃ c ∈ p.pipelineId.toList, c ≠ '.') :
    (p.calls limits).map client.request? = (p.requests client limits).map some := by
  rw [calls, requests, List.map_append, List.map_append, List.map_append, List.map_append]
  refine congrArg₂ _ (congrArg₂ _ ?opening ?batches) ?closing
  case opening =>
    simp only [opening, List.map_cons, List.map_nil, client.request?_deleteIndex hindex,
      client.request?_deletePipeline hid, client.request?_putPipeline hid,
      client.request?_createIndex hindex]
  case batches =>
    rw [List.map_map, List.map_map]
    refine List.map_congr_left fun batch hbatch ↦ ?_
    have hne : batch ≠ [] := List.ne_nil_of_length_pos (length_of_mem_chunks hbatch).1
    exact client.request?_bulkIndex hindex p.pipelineId hne
  case closing =>
    rw [closing, List.map_append, List.map_append, List.map_singleton,
      client.request?_refreshIndex hindex]
    cases p.prunedBefore with
    | none => rfl
    | some cutoff =>
      rw [Option.map_some, Option.toList_some, List.map_singleton,
        client.request?_deleteOlderThan hindex]
      rfl

private theorem filterMap_request?_of_prefix {calls planned : List Search.Call}
    {requests : List Http.Request} (h : planned.map client.request? = requests.map some)
    (hcalls : calls <+: planned) :
    calls.filterMap client.request? = requests.take calls.length := by
  have hfirst : calls.map client.request? = (requests.take calls.length).map some := by
    rw [List.map_take, ← h, ← List.map_take, ← List.prefix_iff_eq_take.1 hcalls]
  have hsome := congrArg (List.filterMap id) hfirst
  rwa [List.filterMap_map, List.filterMap_map, Function.id_comp, Function.id_comp,
    List.filterMap_some] at hsome

/-- A rebuild over a network goes by the responses to the requests of its plan. -/
theorem responses_of_plan {p : Plan} (world : World)
    (hengine : world.engine = client.engine network before)
    (hs : source.consolidated = false) (hk : config.limits.inForce.openCalls = 1)
    (h : plan config source prunes world.runAt = .ok p) :
    let planned := p.calls config.limits
    let requests := p.requests client config.limits
    let sent := before ++ world.past.filterMap client.request?
    let v := rebuild config world prunes source
    planned.map client.request? = requests.map some ∧ v.calls <+: planned ∧
      v.calls.filterMap client.request? = requests.take v.calls.length ∧
      (v.source.ingestState = .fresh ↔ client.Trusts network sent v.calls) ∧
      (v.source.ingestState = .dirty ↔ ¬ client.Trusts network sent v.calls) ∧
      (client.Trusts network sent planned →
        v.calls = planned ∧ v.result = .ok (.reingested p.documents.length)) ∧
      ∀ made c rest, planned = made ++ c :: rest → client.Trusts network sent made →
        (∀ r, client.response? network sent made c = some r → ¬ c.Trusts r) →
        v.calls = made ++ [c] ∧ ∃ e, v.result = .error (.engine e) ∧
          c.Faults (client.response? network sent made c) e := by
  intro planned requests sent v
  obtain ⟨d, pipeline, records, -, -, -, hp⟩ := exists_of_plan_eq_ok h
  have hrequests : planned.map client.request? = requests.map some := by
    refine p.map_request?_calls client config.limits ⟨'-', ?_, by decide⟩ ⟨':', ?_, by decide⟩
    · rw [hp]
      exact Naming.hyphen_mem_indexName _ _ _
    · rw [hp]
      exact Naming.colon_mem_pipelineId _ _ _
  have hsends : ∀ c ∈ planned, (client.request? c).isSome := fun c hc ↦ by
    have hmem := List.mem_map_of_mem (f := client.request?) hc
    rw [hrequests] at hmem
    obtain ⟨r, -, hr⟩ := List.mem_map.1 hmem
    rw [← hr, Option.isSome_some]
  have htakes : ∀ calls, calls <+: planned →
      (world.engine.Takes world.past calls ↔ client.Trusts network sent calls) := by
    intro calls hcalls
    rw [hengine]
    exact Search.takes_engine_iff fun c hc ↦ hsends c (hcalls.mem hc)
  -- the run has made all calls or ends with one that failed, and only then is one not trusted
  obtain ⟨run, hrun⟩ : ∃ run, world.engine.run world.past planned = run := ⟨_, rfl⟩
  have hv : v = _ := rebuild_of_plan hs h ((Plan.run_eq_run_calls (.inl hk)).trans hrun)
  have hmade : run.made <+: planned := hrun ▸ Search.Engine.made_run_prefix _ _ _
  have hfailure : run.failure = none ↔ client.Trusts network sent run.made := by
    rw [← htakes _ hmade, ← hrun, Search.Engine.failure_run_eq_none_iff,
      Search.Engine.takes_made_run_iff]
  rw [hv]
  refine ⟨hrequests, hmade, filterMap_request?_of_prefix hrequests hmade, ?_, ?_, fun htrusts ↦ ?_,
    fun made c rest hplanned hbefore hc ↦ ?_⟩
  · rw [← hfailure]
    cases run.failure <;> simp
  · rw [← hfailure]
    cases run.failure <;> simp
  · have hnone := Search.Engine.failure_run_eq_none_iff.2 ((htakes _ List.prefix_rfl).2 htrusts)
    have hall := Search.Engine.made_run_of_failure_eq_none hnone
    rw [hrun] at hnone hall
    exact ⟨hall, by rw [hnone]⟩
  · -- up to here all went well, so the run reaches the call and stops there
    have hfirst := (htakes made ⟨_, hplanned.symm⟩).2 hbefore
    have hanswer : world.engine (world.past ++ made) c
        = c.answer (client.response? network sent made c) := by
      rw [hengine]
      exact Search.engine_of_isSome_request? (hsends c (by simp [hplanned])) made
    obtain ⟨e, he⟩ := Search.exists_answer_eq_error hc
    have hstop := Search.Engine.run_of_first_failure hfirst (hanswer.trans he) rest
    rw [← hplanned, hrun] at hstop
    rw [hstop]
    exact ⟨rfl, e, rfl, Search.faults_of_answer he⟩

/-- **A rebuild over a network trusts the responses that it should.** Its requests are sent in order
up to the first without a response that is trusted, and then its error says what was wrong; the
source is fresh if there was none, and dirty otherwise. The requests name the index and the pipeline
of the source so that the server reads them. For a source that holds no data of its own no rebuild
is begun, and nothing is sent. -/
theorem rebuild_trusts_responses (config : Config) (world : World) (client : Search.Client)
    (network : Http.Network) (before : List Http.Request) (prunes : Bool) (source : DataSource)
    {d : Dictionary} {pipeline : Pipeline} {records : List Record}
    (hengine : world.engine = client.engine network before)
    (hk : config.limits.inForce.openCalls = 1)
    (hd : Dictionary.parse source.dictionary = .ok d)
    (hp : d.compile (config.naming.pipelineId source.api source.version) = .ok pipeline)
    (hr : Feed.records source.data.toList = .ok records) :
    let index := config.naming.indexName source.api source.version
    let id := config.naming.pipelineId source.api source.version
    let batches := config.limits.batches (d.documents records world.runAt)
    let planned : List Search.Call :=
      [.deleteIndex index, .deletePipeline id, .putPipeline id pipeline, .createIndex index] ++
        batches.map (.bulkIndex index id) ++
        ((if prunes then [.deleteOlderThan index stampField world.runAt] else []) ++
          [.refreshIndex index])
    let indexPart := String.ofList (Search.pathPart index)
    let idPart := String.ofList (Search.pathPart id)
    let idValue := String.ofList (Search.queryValue id)
    let ask (method path body : String) : Http.Request :=
      ⟨client.server.site, method, client.server.path ++ path, body⟩
    let requests : List Http.Request :=
      [ask "DELETE" ("/" ++ indexPart) "", ask "DELETE" ("/_ingest/pipeline/" ++ idPart) "",
        ask "PUT" ("/_ingest/pipeline/" ++ idPart) pipeline.toJson.compact,
        ask "PUT" ("/" ++ indexPart) (Search.indexSettings client.replicas).compact] ++
      batches.map (fun batch ↦
        ask "POST" ("/" ++ indexPart ++ "/_bulk?pipeline=" ++ idValue) (Search.bulkBody batch)) ++
      ((if prunes then [ask "POST" ("/" ++ indexPart ++ "/_delete_by_query?conflicts=proceed")
          (Search.olderThan stampField world.runAt).compact] else []) ++
        [ask "POST" ("/" ++ indexPart ++ "/_refresh") ""])
    let sent := before ++ world.past.filterMap client.request?
    let v := rebuild config world prunes source
    (source.consolidated = true → v = { source, result := .ok .skipped }) ∧
    (source.consolidated = false →
      (Http.PathSays indexPart index ∧ Http.PathSays idPart id ∧ Http.QuerySays idValue id) ∧
      planned.map client.request? = requests.map some ∧ v.calls <+: planned ∧
      v.calls.filterMap client.request? = requests.take v.calls.length ∧
      (v.source.ingestState = .fresh ↔ client.Trusts network sent v.calls) ∧
      (v.source.ingestState = .dirty ↔ ¬ client.Trusts network sent v.calls) ∧
      (client.Trusts network sent planned →
        v.calls = planned ∧ v.result = .ok (.reingested records.length)) ∧
      ∀ made c rest, planned = made ++ c :: rest → client.Trusts network sent made →
        (∀ r, client.response? network sent made c = some r → ¬ c.Trusts r) →
        v.calls = made ++ [c] ∧ ∃ e, v.result = .error (.engine e) ∧
          c.Faults (client.response? network sent made c) e) := by
  intro index id batches planned indexPart idPart idValue ask requests sent v
  refine ⟨fun hs ↦ if_pos hs, fun hs ↦ ⟨⟨Search.pathSays_pathPart index,
    Search.pathSays_pathPart id, Search.querySays_queryValue id⟩, ?_⟩⟩
  have hplan : plan config source prunes world.runAt = .ok _ := plan_of_ok hd hp hr
  have hlength : (d.documents records world.runAt).length = records.length := List.length_map _
  have hresponses := responses_of_plan world hengine hs hk hplan
  rw [Plan.ofRecords] at hresponses
  rw [hlength] at hresponses
  cases prunes with
  | true => exact hresponses
  | false => exact hresponses

/-- There is nothing to delete, and the response to the first of two batches speaks of errors. -/
theorem rebuild_trusts_responses_of_refused :
    let source : DataSource := { DataSource.register "works" 1 "" "" with data := "id\n1\n2\n" }
    let config : Config := ⟨⟨"test", "feeds"⟩, { batchSize := 1 }⟩
    let report : Json := .object [("errors", .bool true), ("items", .array [
      .object [("index", .object [("_id", .string "a"), ("error", .null)])],
      .object [("index", .object [("_id", .string "b"),
        ("error", .object [("reason", .string "full")])])],
      .object [("index", .object [("error", .string "full")])]])]
    let network := Http.scripted [some ⟨404, none, none⟩, some ⟨404, none, none⟩,
      some ⟨200, none, none⟩, some ⟨200, none, none⟩,
      some ⟨200, some (Text.Utf8.encode report.compact), none⟩]
    let client : Search.Client := ⟨⟨⟨"http", "localhost", some 9200⟩, "", "/"⟩, 1⟩
    let world : World :=
      { fetch := fun _ ↦ .ok "", engine := client.engine network []
        fetchedAt := ⟨0, 0⟩, runAt := ⟨0, 0⟩ }
    ((rebuild config world true source).calls.filterMap client.request?).map Http.Request.method
        = ["DELETE", "DELETE", "PUT", "PUT", "POST"] ∧
      (rebuild config world true source).source.ingestState = .dirty ∧
      ∃ e, (rebuild config world true source).result = .error (.engine e) ∧
        e.kind = .bulkIndexing ∧
        e.message = "Bulk index error: 2 item(s) failed: b: full; ?: unknown reason" := by
  intro source config report network client world
  obtain ⟨hd, pipeline, hp⟩ := exists_pipeline_of_nil (config.naming.pipelineId "works" 1)
  obtain ⟨-, hresponses⟩ := rebuild_trusts_responses config world client network [] true source
    rfl rfl hd hp records_two_lines
  obtain ⟨-, -, -, hsent, -, hdirty, -, hfirst⟩ := hresponses rfl
  have hreport : ∀ status,
      Search.jsonOf? ⟨status, some (Text.Utf8.encode report.compact), none⟩ = some report :=
    Search.jsonOf?_written (by simp [report, Json.IsPlain, Json.ArePlain, Json.MembersPlain])
      (by decide)
  let index := config.naming.indexName source.api source.version
  let id := config.naming.pipelineId source.api source.version
  let made : List Search.Call :=
    [.deleteIndex index, .deletePipeline id, .putPipeline id pipeline, .createIndex index]
  have hmade : client.Trusts network [] made := by
    refine Search.trusts_concat_iff.2 ⟨Search.trusts_concat_iff.2 ⟨Search.trusts_concat_iff.2
      ⟨Search.trusts_concat_iff.2 ⟨Search.trusts_nil _ _ _, ?_⟩, ?_⟩, ?_⟩, ?_⟩
    · exact ⟨_, rfl, .inr ⟨rfl, .inl ⟨_, rfl⟩⟩, by rintro _ _ _ ⟨⟩, by rintro _ _ _ ⟨⟩⟩
    · exact ⟨_, rfl, .inr ⟨rfl, .inr ⟨_, rfl⟩⟩, by rintro _ _ _ ⟨⟩, by rintro _ _ _ ⟨⟩⟩
    · exact ⟨_, rfl, .inl (by simp [Http.Response.Succeeds]), by rintro _ _ _ ⟨⟩,
        by rintro _ _ _ ⟨⟩⟩
    · exact ⟨_, rfl, .inl (by simp [Http.Response.Succeeds]), by rintro _ _ _ ⟨⟩,
        by rintro _ _ _ ⟨⟩⟩
  obtain ⟨a, b, hab⟩ : ∃ a b, ({} : Dictionary).documents
      [[("id", .string "1")], [("id", .string "2")]] world.runAt = [a, b] := ⟨_, _, rfl⟩
  have hbatches : config.limits.batches [a, b] = [[a], [b]] := by
    simp [config, LoadLimits.batches, LoadLimits.inForce, chunks]
  let store : Search.Call := .bulkIndex index id [a]
  let response : Http.Response := ⟨200, some (Text.Utf8.encode report.compact), none⟩
  have hresponse : client.response? network [] made store = some response := rfl
  have hrefused : ¬ store.Trusts response := fun htrusts ↦ by
    obtain ⟨v, hv, herrors⟩ := htrusts.stored _ _ _ rfl
    cases (hreport 200).symm.trans hv
    exact herrors rfl
  rw [hab, hbatches] at hfirst hsent
  obtain ⟨hcalls, e, hresult, hfaults⟩ := hfirst made store _ rfl hmade fun r hr htrusts ↦ by
    cases hresponse.symm.trans hr
    exact hrefused htrusts
  refine ⟨?_, hdirty.2 ?_, e, hresult, ?_, ?_⟩
  · rw [hsent, hcalls]
    rfl
  · rw [hcalls]
    intro htrusts
    obtain ⟨-, r, hr, hr'⟩ := Search.trusts_concat_iff.1 htrusts
    cases hresponse.symm.trans hr
    exact hrefused hr'
  · obtain ⟨label, hown⟩ := hfaults.exists_failsAs fun r hr _ ↦ by
      cases hresponse.symm.trans hr
      rw [hreport]
      rintro ⟨⟩
    exact hown.unique.1
  · rw [hfaults.message_of_refused _ _ _ rfl _ hresponse ⟨by decide, by decide⟩ _ (hreport 200) rfl]
    decide

end FeedHarvest.Ingest
