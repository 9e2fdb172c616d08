import FeedHarvest.Proofs.Ingest.ChangeDetection
import FeedHarvest.Proofs.Json.Members
import FeedHarvest.Proofs.Search.Locality

/-!
# Visits at other times

Clocks are read twice in a visit, and a rebuild writes what it read into its calls: each document
carries the time as its stamp, and the time is the bound of the query that prunes. If neither the
answers to calls nor their order depend on these readings, a visit at another time goes the same
way. The reason is that setting all readings to another time turns each step of the one visit into
the same step of the other.
-/

namespace FeedHarvest

/-! ## Setting the time -/

/-- The document with another time as its stamp. -/
def Document.retimed (t : Time.Instant) (d : Document) : Document :=
  match d.body with
  | .object ms => { d with body := .object (Json.Members.insert ms stampField (.string t.stamp)) }
  | _ => d

private theorem Dictionary.map_retimed_documents (d : Dictionary) (rs : List Record)
    (t t' : Time.Instant) :
    (d.documents rs t).map (Document.retimed t') = d.documents rs t' := by
  rw [documents, documents, List.map_map]
  refine List.map_congr_left fun r _ ↦ ?_
  simp only [Function.comp_apply, Record.document, Document.retimed, Record.stamped,
    Json.Members.insert_insert]

namespace Search

/-- The call with another time wherever it tells one. -/
def Call.retimed (t : Time.Instant) : Call → Call
  | .bulkIndex i id ds => .bulkIndex i id (ds.map (Document.retimed t))
  | .deleteOlderThan i f _ => .deleteOlderThan i f t
  | c => c

/-- The time is no name. -/
theorem Call.meets_retimed (t : Time.Instant) (c d : Call) :
    (c.retimed t).Meets (d.retimed t) ↔ c.Meets d := by
  have hindex : ∀ c : Call, (c.retimed t).index? = c.index? := by
    intro c
    cases c <;> rfl
  have hid : ∀ c : Call, (c.retimed t).pipelineId? = c.pipelineId? := by
    intro c
    cases c <;> rfl
  simp only [Meets, hindex, hid]

/-- A run with something else in the place of each call. -/
def Run.map (f : Call → Call) (r : Run) : Run := ⟨r.made.map f, r.answered.map f, r.failure⟩

theorem Run.map_andThen {f : Call → Call} {first : Run} {next next' : List Call → Run}
    (h : ∀ past, next' (past.map f) = (next past).map f) :
    (first.map f).andThen next' = (first.andThen next).map f := by
  cases hf : first.failure with
  | some e =>
    rw [andThen_of_failure hf, andThen_of_failure (show (first.map f).failure = _ from hf)]
  | none =>
    rw [andThen_of_no_failure hf, andThen_of_no_failure (show (first.map f).failure = _ from hf)]
    simp only [map, h, List.map_append]

/-- Whether answers do not depend on the times that calls tell. -/
def Engine.IsTimeless (engine : Engine) : Prop :=
  ∀ t past c, engine (past.map (Call.retimed t)) (c.retimed t) = engine past c

theorem Engine.IsTimeless.run_map {engine : Engine} (h : engine.IsTimeless) (t : Time.Instant)
    (past calls : List Call) :
    engine.run (past.map (Call.retimed t)) (calls.map (Call.retimed t))
      = (engine.run past calls).map (Call.retimed t) := by
  induction calls generalizing past with
  | nil => rfl
  | cons c cs ih =>
    rw [List.map_cons]
    cases hc : engine past c with
    | error e =>
      rw [run_cons_of_error hc, run_cons_of_error ((h t past c).trans hc)]
      rfl
    | ok n =>
      have hrest := ih (past ++ [c])
      rw [List.map_append, List.map_singleton] at hrest
      rw [run_cons_of_ok hc, run_cons_of_ok ((h t past c).trans hc), hrest]
      rfl

end Search

/-! ## Sources at different times -/

namespace DataSource

/-- Whether two instants that a source may carry are equal, or were read each from its own clock. -/
def SameInstant (t t' : Time.Instant) (a a' : Option Time.Instant) : Prop :=
  a' = a ∨ a = some t ∧ a' = some t'

/-- Whether two sources are the same, readings of their clocks aside. -/
def SameButClock (t t' : Time.Instant) (s s' : DataSource) : Prop :=
  s' = { s with dataChangedAt := s'.dataChangedAt, dataImportedAt := s'.dataImportedAt } ∧
    SameInstant t t' s.dataChangedAt s'.dataChangedAt ∧
    SameInstant t t' s.dataImportedAt s'.dataImportedAt

variable {t t' : Time.Instant} {s s' : DataSource}

theorem SameButClock.refl (t t' : Time.Instant) (s : DataSource) : s.SameButClock t t' s :=
  ⟨rfl, .inl rfl, .inl rfl⟩

theorem SameButClock.withState (h : s.SameButClock t t' s') (state : IngestState) :
    SameButClock t t' { s with ingestState := state } { s' with ingestState := state } := by
  refine ⟨?_, h.2⟩
  rw [h.1]

end DataSource

namespace Ingest

/-! ## Loads -/

private theorem chunks_map {α β : Type} (f : α → β) (size : Nat) (as : List α) :
    chunks size (as.map f) = (chunks size as).map (List.map f) := by
  induction as using chunks.induct size with
  | case1 => rw [List.map_nil, chunks, chunks, List.map_nil]
  | case2 a as ih =>
    rw [List.map_cons, chunks, chunks, List.map_cons, ← ih, ← List.map_cons, List.map_take,
      List.map_drop]

namespace Load

/-- A load of other documents in the place of those that it loads. -/
def map (f : Document → Document) (l : Load) : Load where
  waiting := l.waiting.map (List.map f)
  opened := l.opened.map (Prod.map (List.map f) id)
  started := l.started.map (List.map f)
  answered := l.answered.map (Prod.map (Prod.map (List.map f) id) id)
  peak := l.peak

variable {f : Document → Document} {bound : Nat} {schedule : Schedule} {l : Load}
variable {answer answer' : Load → BulkCall → Search.Answer}

theorem failure_map (f : Document → Document) (l : Load) : (l.map f).failure = l.failure := by
  rw [failure, failure, map, List.findSome?_map]
  rfl

private theorem start?_map (f : Document → Document) (bound : Nat) (l : Load) :
    (l.map f).start? bound = (l.start? bound).map (map f) := by
  have hopened : (l.map f).opened.length = l.opened.length := List.length_map _
  have hstarted : (l.map f).started.length = l.started.length := List.length_map _
  have hwaiting : (l.map f).waiting = l.waiting.map (List.map f) := rfl
  rw [start?, start?, hwaiting, hopened, hstarted, failure_map]
  cases l.waiting with
  | nil => rfl
  | cons b bs =>
    simp only [List.map_cons]
    split
    · simp [map]
    · rfl

private theorem finish?_map (place : Nat) {answer answer' : BulkCall → Search.Answer}
    (h : ∀ call, answer' (Prod.map (List.map f) id call) = answer call) :
    (l.map f).finish? place answer' = (l.finish? place answer).map (map f) := by
  have hopened : (l.map f).opened[place]? = l.opened[place]?.map (Prod.map (List.map f) id) :=
    List.getElem?_map
  rw [finish?, finish?, hopened, Option.map_map, Option.map_map]
  refine congrArg (Option.map · _) (funext fun call ↦ ?_)
  simp [map, h, List.eraseIdx_map]

/-- If neither the schedule nor the answers tell the documents apart, neither does the load. -/
theorem run_map (hplace : ∀ l : Load, schedule.place? (l.map f) = schedule.place? l)
    (hanswer : ∀ (l : Load) (call : BulkCall),
      answer' (l.map f) (Prod.map (List.map f) id call) = answer l call) (fuel : Nat) (l : Load) :
    (l.map f).run bound schedule answer' fuel = (l.run bound schedule answer fuel).map f := by
  induction fuel generalizing l with
  | zero => rfl
  | succ fuel ih =>
    have hfinish := fun place ↦ finish?_map (l := l) place (hanswer l)
    have hnext : (l.map f).next? bound schedule answer'
        = (l.next? bound schedule answer).map (map f) := by
      rw [next?, next?, hplace, start?_map, hfinish, Option.map_or, Option.map_or]
      cases schedule.place? l with
      | none => rfl
      | some place => rw [Option.bind_some, Option.bind_some, hfinish]
    rw [run, run, failure_map, hnext]
    split
    · rfl
    · cases l.next? bound schedule answer with
      | none => rfl
      | some l' => exact ih l'

end Load

/-- Whether the order of answers does not depend on the times that documents tell. -/
def Schedule.IsTimeless (schedule : Schedule) : Prop :=
  ∀ t l, schedule.place? (l.map (Document.retimed t)) = schedule.place? l

/-! ## Plans -/

namespace Plan

def retimed (t : Time.Instant) (p : Plan) : Plan :=
  { p with
    documents := p.documents.map (Document.retimed t)
    prunedBefore := p.prunedBefore.map fun _ ↦ t }

private theorem closing_retimed (t : Time.Instant) (p : Plan) :
    (p.retimed t).closing = p.closing.map (Search.Call.retimed t) := by
  rw [closing, closing, retimed]
  cases p.prunedBefore with
  | none => rfl
  | some cutoff => rfl

variable {limits : LoadLimits} {schedule : Schedule} {engine : Search.Engine}

private theorem load_retimed (hengine : engine.IsTimeless) (hschedule : schedule.IsTimeless)
    (t : Time.Instant) (p : Plan) (past : List Search.Call) :
    (p.retimed t).load limits schedule engine (past.map (Search.Call.retimed t))
      = (p.load limits schedule engine past).map (Search.Call.retimed t) := by
  let f := Document.retimed t
  have hrunOf : ∀ l : Load,
      (p.retimed t).runOf (l.map f) = (p.runOf l).map (Search.Call.retimed t) := by
    intro l
    rw [runOf, runOf, Search.Run.map, Load.failure_map, List.map_map, List.map_map, Load.map,
      List.map_map, List.map_map]
    rfl
  have hanswer : ∀ (l : Load) (call : BulkCall),
      (p.retimed t).answer engine (past.map (Search.Call.retimed t)) (l.map f)
          (Prod.map (List.map f) id call)
        = p.answer engine past l call := by
    intro l call
    have hanswered : ((p.retimed t).runOf (l.map f)).answered
        = (p.runOf l).answered.map (Search.Call.retimed t) :=
      congrArg Search.Run.answered (hrunOf l)
    rw [answer, answer, hanswered, ← List.map_append]
    exact hengine t _ (p.store call.1)
  have hbatches : limits.batches (p.retimed t).documents
      = (limits.batches p.documents).map (List.map f) := chunks_map f _ _
  rw [load, load, LoadLimits.run, LoadLimits.run, hbatches, List.length_map, ← hrunOf]
  exact congrArg _ (Load.run_map (hschedule t) hanswer _ (Load.ofBatches _))

theorem run_retimed (p : Plan) (limits : LoadLimits) (hengine : engine.IsTimeless)
    (hschedule : schedule.IsTimeless) (t : Time.Instant) (past : List Search.Call) :
    (p.retimed t).run limits schedule engine (past.map (Search.Call.retimed t))
      = (p.run limits schedule engine past).map (Search.Call.retimed t) := by
  have hopening : engine.run (past.map (Search.Call.retimed t)) (p.retimed t).opening
      = (engine.run past p.opening).map (Search.Call.retimed t) := hengine.run_map t past p.opening
  rw [run, run, hopening]
  refine Search.Run.map_andThen fun opened ↦ ?_
  rw [← List.map_append, load_retimed hengine hschedule]
  refine Search.Run.map_andThen fun loaded ↦ ?_
  rw [← List.map_append, closing_retimed, hengine.run_map]

end Plan

variable {config : Config} {world : World} {source source' : DataSource} {prunes : Bool}

private theorem plan_retimed (config : Config) (source : DataSource) (prunes : Bool)
    (t t' : Time.Instant) :
    plan config source prunes t' = (plan config source prunes t).map (Plan.retimed t') := by
  have hplan : ∀ d pipeline records,
      Plan.ofRecords config source prunes t' d pipeline records
        = (Plan.ofRecords config source prunes t d pipeline records).retimed t' := by
    intro d pipeline records
    rw [Plan.retimed, Plan.ofRecords, Plan.ofRecords, Dictionary.map_retimed_documents]
    cases prunes <;> rfl
  cases hd : Dictionary.parse source.dictionary with
  | error e =>
    rw [plan_of_parse_error hd, plan_of_parse_error hd]
    rfl
  | ok d =>
    cases hp : d.compile (config.naming.pipelineId source.api source.version) with
    | error e =>
      rw [plan_of_compile_error hd hp, plan_of_compile_error hd hp]
      rfl
    | ok pipeline =>
      cases hr : Feed.records source.data.toList with
      | error flaw =>
        rw [plan_of_flaw hd hp hr, plan_of_flaw hd hp hr]
        rfl
      | ok records =>
        rw [plan_of_ok hd hp hr, plan_of_ok hd hp hr, hplan]
        rfl

/-! ## Visits -/

private theorem sameButClock_receive (source : DataSource) (text : String) (t t' : Time.Instant) :
    (receive source text t).SameButClock t t' (receive source text t') := by
  by_cases h : source.messageDigest = some (Digest.ofText text)
  · rw [receive_of_known h, receive_of_known h]
    exact ⟨rfl, .inl rfl, .inr ⟨rfl, rfl⟩⟩
  · rw [receive_of_new h, receive_of_new h]
    exact ⟨rfl, .inr ⟨rfl, rfl⟩, .inr ⟨rfl, rfl⟩⟩

def World.retimed (w : World) (fetchedAt runAt : Time.Instant) : World :=
  { w with fetchedAt, runAt }

/-- A rebuild at another time goes the same way, and leaves sources the same that were. -/
theorem rebuild_retimed (hengine : world.engine.IsTimeless) (hschedule : world.schedule.IsTimeless)
    (hpast : world.past = []) (fetchedAt runAt : Time.Instant) {t t' : Time.Instant}
    (h : source.SameButClock t t' source') :
    (rebuild config (world.retimed fetchedAt runAt) prunes source').result
        = (rebuild config world prunes source).result ∧
      (rebuild config world prunes source).source.SameButClock t t'
        (rebuild config (world.retimed fetchedAt runAt) prunes source').source := by
  have hplan' : plan config source' prunes runAt
      = (plan config source prunes world.runAt).map (Plan.retimed runAt) := by
    rw [h.1]
    exact plan_retimed config source prunes world.runAt runAt
  have hs' : source'.consolidated = source.consolidated := by rw [h.1]
  rcases Bool.eq_false_or_eq_true source.consolidated with hs | hs
  · rw [rebuild, rebuild, if_pos hs, if_pos (hs'.trans hs)]
    exact ⟨rfl, h⟩
  · cases hplan : plan config source prunes world.runAt with
    | error e =>
      have hplanned : plan config source' prunes (world.retimed fetchedAt runAt).runAt
          = .error e := hplan'.trans (by rw [hplan]; rfl)
      rw [rebuild_of_plan_error hs hplan, rebuild_of_plan_error (hs'.trans hs) hplanned]
      exact ⟨rfl, h.withState _⟩
    | ok p =>
      have hplanned : plan config source' prunes (world.retimed fetchedAt runAt).runAt
          = .ok (p.retimed runAt) := hplan'.trans (by rw [hplan]; rfl)
      have hrun : (p.retimed runAt).run config.limits (world.retimed fetchedAt runAt).schedule
          (world.retimed fetchedAt runAt).engine (world.retimed fetchedAt runAt).past
          = (p.run config.limits world.schedule world.engine world.past).map
            (Search.Call.retimed runAt) := by
        have hrun := p.run_retimed config.limits hengine hschedule runAt world.past
        rw [hpast, List.map_nil] at hrun
        rwa [hpast, World.retimed, hpast]
      have hlength : (p.retimed runAt).documents.length = p.documents.length :=
        List.length_map _
      rw [rebuild_of_plan hs hplan rfl, rebuild_of_plan (hs'.trans hs) hplanned hrun, hlength]
      exact ⟨rfl, h.withState _⟩

/-- So does a visit, and what it leaves of the source is the same but for what the clock said. -/
theorem freshen_retimed (config : Config) (world : World) (source : DataSource)
    (hengine : world.engine.IsTimeless) (hschedule : world.schedule.IsTimeless)
    (hpast : world.past = []) (fetchedAt runAt : Time.Instant) :
    (freshen config (world.retimed fetchedAt runAt) source).result
        = (freshen config world source).result ∧
      (freshen config world source).source.SameButClock world.fetchedAt fetchedAt
        (freshen config (world.retimed fetchedAt runAt) source).source := by
  rcases Bool.eq_false_or_eq_true source.consolidated with hs | hs
  · rw [freshen, freshen, if_pos hs, if_pos hs]
    exact ⟨rfl, .refl _ _ source⟩
  · have hfetch' : ∀ answer, world.fetch source.url = answer →
        (world.retimed fetchedAt runAt).fetch source.url = answer := fun _ h ↦ h
    cases hfetch : world.fetch source.url with
    | error e =>
      rw [freshen_of_fetch_error hs hfetch, freshen_of_fetch_error hs (hfetch' _ hfetch)]
      exact ⟨rfl, .refl _ _ source⟩
    | ok text =>
      by_cases hnew : isKnown source text = false ∨ source.ingestState = .dirty
      · have hvisit : freshen config (world.retimed fetchedAt runAt) source =
            { rebuild config (world.retimed fetchedAt runAt) true
                (receive source text fetchedAt) with fetched := [source.url] } :=
          freshen_of_receive hs (hfetch' _ hfetch) hnew
        rw [freshen_of_receive hs hfetch hnew, hvisit]
        exact rebuild_retimed hengine hschedule hpast fetchedAt runAt
          (sameButClock_receive source text world.fetchedAt fetchedAt)
      · obtain ⟨hknown, hstate⟩ := not_or.1 hnew
        rw [Bool.not_eq_false] at hknown
        rw [freshen_of_isKnown hs hfetch hknown hstate,
          freshen_of_isKnown hs (hfetch' _ hfetch) hknown hstate]
        exact ⟨rfl, rfl, .inl rfl, .inr ⟨rfl, rfl⟩⟩

end Ingest

end FeedHarvest
