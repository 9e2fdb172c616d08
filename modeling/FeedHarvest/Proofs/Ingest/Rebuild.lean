import FeedHarvest.Ingest.Visit
import FeedHarvest.Proofs.Ingest.Schedule
import FeedHarvest.Proofs.Record.Document

/-!
# The calls of a rebuild

A rebuild that may have one call open makes its calls in one order whatever the schedule, and so
does any rebuild whose calls are answered promptly: a batch waits for the answer to the one before,
so that loading is a run of calls like any other, and the three parts of the plan are one run. What
is known of runs then says where a rebuild stops and with what error.
-/

namespace FeedHarvest.Ingest

/-! ## One call at a time -/

namespace Load

variable {schedule : Schedule} {answer : Load → BulkCall → Search.Answer} {bound : Nat} {l : Load}

theorem next?_of_not_opened (hbound : 0 < bound) {b : List Document} {bs : List (List Document)}
    (hw : l.waiting = b :: bs) (ho : l.opened = []) (hf : l.failure = none) :
    l.next? bound schedule answer = some { l with
      waiting := bs
      opened := [(b, l.started.length)]
      started := l.started ++ [b]
      peak := max l.peak 1 } := by
  have hfinish : ∀ place, l.finish? place (answer l) = none := fun place ↦ by simp [finish?, ho]
  have hplace : ((schedule.place? l).bind fun place ↦ l.finish? place (answer l)) = none := by
    cases schedule.place? l with
    | none => rfl
    | some place => exact hfinish place
  rw [next?, hplace, Option.none_or, start?_eq_some_iff.2 ⟨b, bs, hw, by simpa [ho], hf, rfl⟩, ho]
  rfl

/-- The one open call is answered before anything is started, because there is no room for another
or because the schedule has it so. -/
theorem next?_of_opened (hserial : bound = 1 ∨ schedule = .prompt) {call : BulkCall}
    (ho : l.opened = [call]) :
    l.next? bound schedule answer = some { l with
      opened := []
      answered := l.answered ++ [(call, answer l call)] } := by
  have hzero : l.finish? 0 (answer l) = some { l with
      opened := []
      answered := l.answered ++ [(call, answer l call)] } := by simp [finish?, ho]
  rcases hserial with rfl | rfl
  · have hstart : l.start? 1 = none := by
      rw [start?]
      split <;> simp [ho]
    rw [next?, hstart, Option.none_or, hzero]
    cases schedule.place? l with
    | none => rfl
    | some place =>
      cases place with
      | zero => rw [Option.bind_some, hzero, Option.some_or]
      | succ place => simp [finish?, ho]
  · rw [next?, show Schedule.prompt.place? l = some 0 from rfl, Option.bind_some, hzero,
      Option.some_or]

end Load

namespace Plan

variable {p : Plan} {engine : Search.Engine} {past : List Search.Call} {schedule : Schedule}

/-- With one call open at a time, what is left of a load is a run of calls. The induction is on the
batches that wait; each takes a start and an answer. -/
theorem runOf_run_of_serial {bound : Nat} (hbound : 0 < bound)
    (hserial : bound = 1 ∨ schedule = .prompt) {l : Load} (ho : l.opened = [])
    (hf : l.failure = none) {fuel : Nat} (hfuel : 2 * l.waiting.length ≤ fuel) :
    p.runOf (l.run bound schedule (p.answer engine past) fuel)
      = (p.runOf l).andThen fun answered ↦
          engine.run (past ++ answered) (l.waiting.map p.store) := by
  rw [Search.Run.andThen_of_no_failure hf]
  generalize hw : l.waiting = batches at hfuel ⊢
  induction batches generalizing l fuel with
  | nil =>
    have hend : (l.result? []).isSome :=
      Load.isSome_result?_iff.2 (.inr (Load.todo_eq_zero_iff.2 ⟨hw, ho⟩))
    rw [Load.run_of_isSome_result? hend]
    simp [runOf, hf]
  | cons b bs ih =>
    obtain ⟨fuel, rfl⟩ : ∃ n, fuel = n + 2 :=
      ⟨fuel - 2, by rw [List.length_cons] at hfuel; omega⟩
    -- the load after the start of the batch, and after its answer
    let call : BulkCall := (b, l.started.length)
    let opened : Load := { l with
      waiting := bs, opened := [call], started := l.started ++ [b], peak := max l.peak 1 }
    let l' : Load := { opened with
      opened := [], answered := l.answered ++ [(call, p.answer engine past opened call)] }
    have hrun : l.run bound schedule (p.answer engine past) (fuel + 2)
        = l'.run bound schedule (p.answer engine past) fuel :=
      (Load.run_succ_of_next? hf (Load.next?_of_not_opened hbound hw ho hf) _).trans
        (Load.run_succ_of_next? (l := opened) hf (Load.next?_of_opened hserial rfl) _)
    have hfailure : l'.failure
        = Search.Answer.error? (engine (past ++ (p.runOf l).answered) (p.store b)) := by
      rw [Load.failure_of_answered (l := l) rfl, hf, Option.none_or]
      rfl
    rw [hrun, List.map_cons]
    cases hanswer : engine (past ++ (p.runOf l).answered) (p.store b) with
    | error e =>
      rw [hanswer] at hfailure
      have hend : (l'.result? []).isSome := by
        rw [Load.result?_of_failure hfailure]
        rfl
      rw [Load.run_of_isSome_result? hend, Search.Engine.run_cons_of_error hanswer]
      simp [runOf, hfailure, Search.Answer.error?, l', opened, call]
    | ok n =>
      rw [hanswer] at hfailure
      have hanswered : (p.runOf l').answered = (p.runOf l).answered ++ [p.store b] := by
        simp [runOf, l', call]
      rw [ih (l := l') rfl hfailure rfl (by rw [List.length_cons] at hfuel; omega), hanswered,
        Search.Engine.run_cons_of_ok hanswer]
      simp [runOf, l', opened, List.append_assoc]

theorem load_eq_run {limits : LoadLimits}
    (hserial : limits.inForce.openCalls = 1 ∨ schedule = .prompt) :
    p.load limits schedule engine past
      = engine.run past ((limits.batches p.documents).map p.store) := by
  rw [load, LoadLimits.run]
  refine (runOf_run_of_serial limits.openCalls_pos hserial (l := .ofBatches _) rfl rfl
    (Nat.le_refl _)).trans ?_
  rw [Search.Run.andThen_of_no_failure rfl]
  simp only [runOf, Load.ofBatches, List.map_nil, List.nil_append, List.append_nil]
  rfl

/-- With one call open at a time, a plan is a list of calls. -/
theorem run_eq_run_calls {limits : LoadLimits}
    (hserial : limits.inForce.openCalls = 1 ∨ schedule = .prompt) :
    p.run limits schedule engine past = engine.run past (p.calls limits) := by
  rw [run, calls, List.append_assoc, Search.Engine.run_append]
  refine congrArg (Search.Run.andThen _) (funext fun opened ↦ ?_)
  rw [load_eq_run hserial, Search.Engine.run_append]

end Plan

/-! ## What comes before the calls -/

section Planning

variable {config : Config} {source : DataSource} {prunes : Bool} {runAt : Time.Instant}
  {d : Dictionary} {pipeline : Pipeline}

theorem plan_of_parse_error {e : Dictionary.Error}
    (hd : Dictionary.parse source.dictionary = .error e) :
    plan config source prunes runAt = .error (.dictionary e) := by
  rw [plan, hd]
  rfl

theorem plan_of_compile_error {e : Dictionary.Error}
    (hd : Dictionary.parse source.dictionary = .ok d)
    (hp : d.compile (config.naming.pipelineId source.api source.version) = .error e) :
    plan config source prunes runAt = .error (.dictionary e) := by
  simp only [plan, hd, Except.mapError, bind, Except.bind, hp]

theorem plan_of_flaw {flaw : Feed.Flaw} (hd : Dictionary.parse source.dictionary = .ok d)
    (hp : d.compile (config.naming.pipelineId source.api source.version) = .ok pipeline)
    (hr : Feed.records source.data.toList = .error flaw) :
    plan config source prunes runAt = .error (.feed flaw) := by
  simp only [plan, hd, Except.mapError, bind, Except.bind, hp, hr]

theorem plan_of_ok {records : List Record} (hd : Dictionary.parse source.dictionary = .ok d)
    (hp : d.compile (config.naming.pipelineId source.api source.version) = .ok pipeline)
    (hr : Feed.records source.data.toList = .ok records) :
    plan config source prunes runAt
      = .ok (.ofRecords config source prunes runAt d pipeline records) := by
  simp only [plan, hd, Except.mapError, bind, Except.bind, hp, hr, pure, Except.pure]

theorem exists_of_plan_eq_ok {p : Plan} (h : plan config source prunes runAt = .ok p) :
    ∃ d pipeline records, Dictionary.parse source.dictionary = .ok d ∧
      d.compile (config.naming.pipelineId source.api source.version) = .ok pipeline ∧
      Feed.records source.data.toList = .ok records ∧
      p = .ofRecords config source prunes runAt d pipeline records := by
  cases hd : Dictionary.parse source.dictionary with
  | error e => rw [plan_of_parse_error hd] at h; cases h
  | ok d =>
    cases hp : d.compile (config.naming.pipelineId source.api source.version) with
    | error e => rw [plan_of_compile_error hd hp] at h; cases h
    | ok pipeline =>
      cases hr : Feed.records source.data.toList with
      | error flaw => rw [plan_of_flaw hd hp hr] at h; cases h
      | ok records =>
        rw [plan_of_ok hd hp hr] at h
        exact ⟨d, pipeline, records, rfl, hp, rfl, (Except.ok.inj h).symm⟩

/-- A plan has the documents of its records, and warns of those that lack unique fields. -/
theorem exists_records_of_plan {p : Plan} (h : plan config source prunes runAt = .ok p) :
    ∃ d records, Dictionary.parse source.dictionary = .ok d ∧
      Feed.records source.data.toList = .ok records ∧ p.documents = d.documents records runAt ∧
      (p.warning.isSome = true ↔ ∃ r ∈ records, r.cleaned.Incomplete d.uniqueFields) ∧
      ∀ w, p.warning = some w →
        w.records = (records.countP fun r ↦ r.cleaned.Incomplete d.uniqueFields) ∧
        w.fields.Pairwise (· < ·) ∧
        ∀ name, name ∈ w.fields ↔ name ∈ d.uniqueFields ∧
          ∃ r ∈ records, r.cleaned.get? name = none ∨ r.cleaned.get? name = some .null := by
  obtain ⟨d, pipeline, records, hd, -, hr, rfl⟩ := exists_of_plan_eq_ok h
  exact ⟨d, records, hd, hr, rfl, Dictionary.isSome_identityWarning?_iff,
    fun w hw ↦ Dictionary.eq_of_identityWarning?_eq_some hw⟩

variable {world : World}

/-- Planning looks at what a rebuild does not touch. -/
theorem plan_begun (state : IngestState) :
    plan config { source with ingestState := state } prunes runAt
      = plan config source prunes runAt := rfl

theorem rebuild_of_plan_error {e : IngestError} (hs : source.consolidated = false)
    (h : plan config source prunes world.runAt = .error e) :
    rebuild config world prunes source = {
      source := { source with ingestState := .dirty }, result := .error e
      begun := some { source with ingestState := .rebuilding } } := by
  rw [rebuild, if_neg (by rw [hs]; exact Bool.false_ne_true)]
  simp only [plan_begun, h]

theorem rebuild_of_plan {p : Plan} (hs : source.consolidated = false)
    (h : plan config source prunes world.runAt = .ok p) {run : Search.Run}
    (hrun : p.run config.limits world.schedule world.engine world.past = run) :
    rebuild config world prunes source = {
      source :=
        { source with ingestState := if run.failure.isSome then .dirty else .fresh }
      result := match run.failure with
        | some e => .error (.engine e)
        | none => .ok (.reingested p.documents.length)
      begun := some { source with ingestState := .rebuilding }
      calls := run.made, answered := run.answered } := by
  rw [rebuild, if_neg (by rw [hs]; exact Bool.false_ne_true)]
  simp only [plan_begun, h, hrun]
  cases run.failure with
  | some e => rfl
  | none => rfl

theorem records_two_lines :
    Feed.records "id\n1\n2\n".toList
      = .ok [[("id", .string "1")], [("id", .string "2")]] := by cbv

/-- The dictionary that says nothing is a dictionary, and its pipeline changes nothing. -/
theorem exists_pipeline_of_nil (id : String) :
    Dictionary.parse "" = .ok {} ∧ ∃ pipeline, ({} : Dictionary).compile id = .ok pipeline :=
  ⟨rfl, _, rfl⟩

/-! ## The order of the calls -/

/-- A rebuild with one call open at a time stops at the first call of its plan that fails. -/
theorem fail_stop_of_plan (world : World) {p : Plan} (hs : source.consolidated = false)
    (hk : config.limits.inForce.openCalls = 1)
    (h : plan config source prunes world.runAt = .ok p) :
    let v := rebuild config world prunes source
    let planned := p.calls config.limits
    v.calls <+: planned ∧
      (∀ o, v.result = .ok o ↔ o = .reingested p.documents.length ∧ v.calls = planned ∧
        world.engine.Takes world.past planned) ∧
      ∀ error, v.result = .error error → ∃ made c e, v.calls = made ++ [c] ∧
        world.engine.Takes world.past made ∧
        world.engine (world.past ++ made) c = .error e ∧ error = .engine e := by
  intro v planned
  have hv : v = _ := rebuild_of_plan hs h (Plan.run_eq_run_calls (.inl hk))
  have hmade := Search.Engine.made_run_prefix world.engine world.past planned
  rw [hv]
  refine ⟨hmade, ?_⟩
  cases hf : (world.engine.run world.past planned).failure with
  | none =>
    have hmade := Search.Engine.made_run_of_failure_eq_none hf
    have htakes := Search.Engine.failure_run_eq_none_iff.1 hf
    refine ⟨fun o ↦ ?_, fun error he ↦ ?_⟩
    · simp [planned, hmade, htakes, eq_comm]
    · cases he
  | some e =>
    have htakes : ¬ world.engine.Takes world.past planned := fun htakes ↦ by
      rw [Search.Engine.failure_run_eq_none_iff.2 htakes] at hf
      cases hf
    obtain ⟨made, c, hmade, hbefore, hc⟩ := Search.Engine.exists_of_failure_run_eq_some hf
    refine ⟨fun o ↦ ?_, fun error he ↦ ⟨made, c, e, hmade, hbefore, hc, ?_⟩⟩
    · simp [planned, htakes]
    · cases he
      rfl

end Planning

/-- A rebuild with one call open at a time makes no call before everything that can fail without
the engine is done, then its calls in one order, and stops at the first that fails. -/
theorem calls_rebuild (config : Config) (world : World) (prunes : Bool) (source : DataSource)
    (hs : source.consolidated = false) (hk : config.limits.inForce.openCalls = 1) :
    let index := config.naming.indexName source.api source.version
    let id := config.naming.pipelineId source.api source.version
    let v := rebuild config world prunes source
    (∀ e, Dictionary.parse source.dictionary = .error e →
      v.calls = [] ∧ v.result = .error (.dictionary e)) ∧
    ∀ d, Dictionary.parse source.dictionary = .ok d →
      (∀ e, d.compile id = .error e → v.calls = [] ∧ v.result = .error (.dictionary e)) ∧
      ∀ pipeline, d.compile id = .ok pipeline →
        (∀ flaw, Feed.records source.data.toList = .error flaw →
          v.calls = [] ∧ v.result = .error (.feed flaw)) ∧
        ∀ records, Feed.records source.data.toList = .ok records →
          let batches := config.limits.batches (d.documents records world.runAt)
          let planned : List Search.Call :=
            [.deleteIndex index, .deletePipeline id, .putPipeline id pipeline, .createIndex index] ++
              batches.map (.bulkIndex index id) ++
              ((if prunes then [.deleteOlderThan index stampField world.runAt] else []) ++
                [.refreshIndex index])
          v.calls <+: planned ∧
          (∀ o, v.result = .ok o ↔ o = .reingested records.length ∧ v.calls = planned ∧
            world.engine.Takes world.past planned) ∧
          ∀ error, v.result = .error error → ∃ made c e, v.calls = made ++ [c] ∧
            world.engine.Takes world.past made ∧
            world.engine (world.past ++ made) c = .error e ∧ error = .engine e := by
  intro index id v
  refine ⟨fun e hd ↦ ?_, fun d hd ↦ ⟨fun e hp ↦ ?_, fun pipeline hp ↦ ⟨fun flaw hr ↦ ?_,
    fun records hr ↦ ?_⟩⟩⟩
  · have hv : v = _ := rebuild_of_plan_error hs (plan_of_parse_error hd)
    rw [hv]
    exact ⟨rfl, rfl⟩
  · have hv : v = _ := rebuild_of_plan_error hs (plan_of_compile_error hd hp)
    rw [hv]
    exact ⟨rfl, rfl⟩
  · have hv : v = _ := rebuild_of_plan_error hs (plan_of_flaw hd hp hr)
    rw [hv]
    exact ⟨rfl, rfl⟩
  · intro batches planned
    have hplan : plan config source prunes world.runAt = .ok _ := plan_of_ok hd hp hr
    have hstop := fail_stop_of_plan world hs hk hplan
    have hlength : (d.documents records world.runAt).length = records.length := List.length_map _
    rw [Plan.ofRecords, hlength] at hstop
    cases prunes with
    | true => exact hstop
    | false => exact hstop

theorem calls_rebuild_of_refused :
    let source : DataSource := { DataSource.register "works" 1 "" "" with data := "id\n1\n2\n" }
    let config : Config := ⟨⟨"test", "feeds"⟩, { batchSize := 1 }⟩
    let error : Search.Error := ⟨.connection, .unspoken⟩
    let world : World :=
      { fetch := fun _ ↦ .ok "", engine := fun _ _ ↦ .error error
        fetchedAt := ⟨0, 0⟩, runAt := ⟨0, 0⟩ }
    (rebuild config world true source).calls
        = [.deleteIndex (config.naming.indexName source.api source.version)] ∧
      (rebuild config world true source).result = .error (.engine error) := by
  intro source config error world
  have hrefused : ∀ past c, world.engine past c = .error error := fun _ _ ↦ rfl
  obtain ⟨hd, pipeline, hp⟩ := exists_pipeline_of_nil (config.naming.pipelineId "works" 1)
  obtain ⟨-, hplanned⟩ := calls_rebuild config world true source rfl rfl
  obtain ⟨⟨rest, hrest⟩, hok, herror⟩ := ((hplanned _ hd).2 pipeline hp).2 _ records_two_lines
  rcases hresult : (rebuild config world true source).result with e | o
  · obtain ⟨made, c, e', hcalls, htakes, hc, rfl⟩ := herror e hresult
    rw [hrefused, Except.error.injEq] at hc
    rcases made with - | ⟨first, made⟩
    · rw [hcalls] at hrest ⊢
      have hfirst : c = .deleteIndex _ := (List.cons.inj hrest).1
      exact ⟨congrArg List.singleton hfirst, by rw [hc]⟩
    · obtain ⟨n, hn⟩ := htakes [] first ⟨made, rfl⟩
      simp [hrefused] at hn
  · obtain ⟨-, -, htakes⟩ := (hok o).1 hresult
    obtain ⟨n, hn⟩ := htakes [] _ ⟨_, rfl⟩
    simp [hrefused] at hn

end FeedHarvest.Ingest
