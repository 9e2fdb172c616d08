import FeedHarvest.Proofs.Ingest.Rebuild
import Mathlib.Logic.Relation

/-!
# Where a source stands between visits

Visits of all kinds follow each other, dictionaries are edited in between, and any visit may fail at
any point. What the source says of itself has to remain true: it is fresh exactly when the latest
rebuild that was begun succeeded, and then nothing has touched the index or the data since.

A visit does one of two things. Either no rebuild is begun, and then no call is made and neither the
state nor the data changes; or one is, and then the state it leaves is the state its result calls
for. What calls do to the index is not known, least of all when they fail, so a visit that made a
call may leave anything behind.
-/

namespace FeedHarvest.Ingest

/-! ## What a visit can do -/

variable {config : Config} {world : World} {source : DataSource}

/-- A visit that began no rebuild has made no call and kept state and data. -/
structure Visit.Idle (source : DataSource) (v : Visit) : Prop where
  begun_eq : v.begun = none
  calls_eq : v.calls = []
  state_eq : v.source.ingestState = source.ingestState
  data_eq : v.source.data = source.data

/-- A rebuild that was begun left its data, and the state that its result calls for. -/
structure Visit.Attempts (v : Visit) (begun : DataSource) : Prop where
  begun_eq : v.begun = some begun
  data_eq : v.source.data = begun.data
  state_of_result : (v.source.ingestState = .fresh ∧ ∃ o, v.result = .ok o) ∨
    (v.source.ingestState = .dirty ∧ ∃ e, v.result = .error e)

theorem Visit.Attempts.fresh_iff {v : Visit} {begun : DataSource} (h : v.Attempts begun) :
    v.source.ingestState = .fresh ↔ ∃ o, v.result = .ok o := by
  rcases h.state_of_result with ⟨hstate, hresult⟩ | ⟨hstate, e, hresult⟩
  · exact iff_of_true hstate hresult
  · refine iff_of_false (by rw [hstate]; exact IngestState.noConfusion) ?_
    rintro ⟨o, ho⟩
    rw [hresult] at ho
    cases ho

theorem consolidated_rebuild (config : Config) (world : World) (prunes : Bool)
    (source : DataSource) :
    (rebuild config world prunes source).source.consolidated = source.consolidated := by
  cases hs : source.consolidated with
  | true => rw [rebuild, if_pos hs, hs]
  | false =>
    cases hplan : plan config source prunes world.runAt with
    | error e => rw [rebuild_of_plan_error hs hplan, hs]
    | ok p => rw [rebuild_of_plan hs hplan rfl, hs]

theorem attempts_rebuild (config : Config) (world : World) (prunes : Bool)
    (hs : source.consolidated = false) :
    (rebuild config world prunes source).Attempts
      { source with ingestState := .rebuilding } := by
  cases hplan : plan config source prunes world.runAt with
  | error e =>
    rw [rebuild_of_plan_error hs hplan]
    exact ⟨rfl, rfl, .inr ⟨rfl, e, rfl⟩⟩
  | ok p =>
    rw [rebuild_of_plan hs hplan rfl]
    refine ⟨rfl, rfl, ?_⟩
    cases (p.run config.limits world.schedule world.engine world.past).failure with
    | some e => exact .inr ⟨rfl, _, rfl⟩
    | none => exact .inl ⟨rfl, _, rfl⟩

theorem consolidated_receive (source : DataSource) (text : String) (at_ : Time.Instant) :
    (receive source text at_).consolidated = source.consolidated := by
  rw [receive]
  split <;> rfl

theorem freshen_of_fetch_error {e : FetchError} (hs : source.consolidated = false)
    (h : world.fetch source.url = .error e) :
    freshen config world source
      = { source, result := .error (.fetch e), fetched := [source.url] } := by
  simp only [freshen, hs, h, Bool.false_eq_true, if_false]

theorem freshen_of_isKnown {text : String} (hs : source.consolidated = false)
    (h : world.fetch source.url = .ok text) (hknown : isKnown source text = true)
    (hstate : source.ingestState ≠ .dirty) :
    freshen config world source = {
      source := { source with dataImportedAt := some world.fetchedAt }
      result := .ok .unchanged, fetched := [source.url] } := by
  simp only [freshen, hs, h, hknown, Bool.true_and, bne_iff_ne, ne_eq, hstate, not_false_eq_true,
    Bool.false_eq_true, if_false, if_true]

theorem freshen_of_receive {text : String} (hs : source.consolidated = false)
    (h : world.fetch source.url = .ok text)
    (hnew : isKnown source text = false ∨ source.ingestState = .dirty) :
    freshen config world source
      = { rebuild config world true (receive source text world.fetchedAt) with
          fetched := [source.url] } := by
  have hrebuilt : (isKnown source text && source.ingestState != .dirty) = false := by
    rcases hnew with hnew | hnew <;> simp [hnew]
  simp only [freshen, hs, h, hrebuilt, Bool.false_eq_true, if_false]

theorem idle_or_attempts_freshen (config : Config) (world : World)
    (hs : source.consolidated = false) :
    (freshen config world source).source.consolidated = false ∧
      ((freshen config world source).Idle source ∨
        ∃ begun, (freshen config world source).Attempts begun) := by
  cases hfetch : world.fetch source.url with
  | error e =>
    rw [freshen_of_fetch_error hs hfetch]
    exact ⟨hs, .inl ⟨rfl, rfl, rfl, rfl⟩⟩
  | ok text =>
    by_cases hnew : isKnown source text = false ∨ source.ingestState = .dirty
    · rw [freshen_of_receive hs hfetch hnew]
      have hreceived := (consolidated_receive source text world.fetchedAt).trans hs
      have hattempts := attempts_rebuild config world true hreceived
      exact ⟨(consolidated_rebuild _ _ _ _).trans hreceived,
        .inr ⟨_, hattempts.begun_eq, hattempts.data_eq, hattempts.state_of_result⟩⟩
    · obtain ⟨hknown, hstate⟩ := not_or.1 hnew
      rw [freshen_of_isKnown hs hfetch (Bool.not_eq_false _ ▸ hknown) hstate]
      exact ⟨hs, .inl ⟨rfl, rfl, rfl, rfl⟩⟩

/-- What any visit can do to a source with data of its own. -/
theorem idle_or_attempts_visit (config : Config) (world : World) (errand : Errand)
    (hs : source.consolidated = false) :
    (visit config world errand source).source.consolidated = false ∧
      ((visit config world errand source).Idle source ∨
        ∃ begun, (visit config world errand source).Attempts begun) := by
  cases errand with
  | freshen => exact idle_or_attempts_freshen config world hs
  | ingest => exact ⟨(consolidated_rebuild _ _ _ _).trans hs, .inr ⟨_, attempts_rebuild _ _ _ hs⟩⟩
  | ingestAndPrune =>
    exact ⟨(consolidated_rebuild _ _ _ _).trans hs, .inr ⟨_, attempts_rebuild _ _ _ hs⟩⟩

/-! ## Runs of visits -/

/-- A rebuild that was begun, and what came of it. -/
structure Attempt (Kept : Type) where
  /-- The source as it was rebuilt. -/
  begun : DataSource
  result : Except IngestError Outcome
  /-- What the engine kept of the source afterwards. -/
  left : Kept

/-- A source, what the engine keeps of it, and the latest rebuild. -/
structure Standing (Kept : Type) where
  source : DataSource
  kept : Kept
  latest : Option (Attempt Kept) := none

namespace Standing

variable {Kept : Type}

/-- What a visit may make of a standing. Its calls may leave anything with the engine. -/
def afterVisit (s : Standing Kept) (v : Visit) (kept : Kept) : Standing Kept where
  source := v.source
  kept := kept
  latest := (v.begun.map fun begun ↦ ⟨begun, v.result, kept⟩).or s.latest

/-- What may happen next: a visit, or another dictionary. -/
inductive Step : Standing Kept → Standing Kept → Prop where
  | visit (s : Standing Kept) (config : Config) (world : World) (errand : Errand) (kept : Kept)
      (hkept : (Ingest.visit config world errand s.source).calls = [] → kept = s.kept) :
      Step s (s.afterVisit (Ingest.visit config world errand s.source) kept)
  | edit (s : Standing Kept) (dictionary : String) :
      Step s { s with source := { s.source with dictionary } }

/-- What a source says of itself is true. -/
structure Inv (s : Standing Kept) : Prop where
  consolidated_eq : s.source.consolidated = false
  /-- No rebuild is under way. -/
  fresh_or_dirty : s.source.ingestState = .fresh ∨ s.source.ingestState = .dirty
  /-- A source is fresh unless its latest rebuild failed. -/
  fresh_iff : s.source.ingestState = .fresh ↔ ∀ a ∈ s.latest, ∃ o, a.result = .ok o
  /-- Since the latest rebuild the data has not changed and no call was made. -/
  since_latest : ∀ a ∈ s.latest, s.source.data = a.begun.data ∧ s.kept = a.left

private theorem inv_register (api : String) (version : Nat) (url dictionary : String)
    (kept : Kept) :
    Inv { source := .register api version url dictionary, kept } where
  consolidated_eq := rfl
  fresh_or_dirty := .inl rfl
  fresh_iff := iff_of_true rfl fun _ ha ↦ nomatch ha
  since_latest := fun _ ha ↦ nomatch ha

private theorem inv_of_idle {s : Standing Kept} {v : Visit} (hs : s.Inv) (hv : v.Idle s.source)
    (hc : v.source.consolidated = false) : (s.afterVisit v s.kept).Inv := by
  have hlatest : (s.afterVisit v s.kept).latest = s.latest := by
    rw [afterVisit, hv.begun_eq]
    rfl
  refine ⟨hc, ?_, ?_, ?_⟩
  · rw [afterVisit, hv.state_eq]
    exact hs.fresh_or_dirty
  · rw [hlatest, afterVisit, hv.state_eq]
    exact hs.fresh_iff
  · rw [hlatest, afterVisit, hv.data_eq]
    exact hs.since_latest

private theorem inv_of_attempts {s : Standing Kept} {v : Visit} {begun : DataSource}
    (hv : v.Attempts begun) (hc : v.source.consolidated = false) (kept : Kept) :
    (s.afterVisit v kept).Inv := by
  have hlatest : (s.afterVisit v kept).latest = some ⟨begun, v.result, kept⟩ := by
    rw [afterVisit, hv.begun_eq]
    rfl
  refine ⟨hc, hv.state_of_result.imp And.left And.left, ?_, ?_⟩
  · rw [hlatest]
    simp only [Option.mem_def, Option.some.injEq, forall_eq']
    exact hv.fresh_iff
  · rw [hlatest]
    rintro _ ⟨⟩
    exact ⟨hv.data_eq, rfl⟩

theorem inv_of_step {s s' : Standing Kept} (hs : s.Inv) (h : Step s s') : s'.Inv := by
  cases h with
  | visit config world errand kept hkept =>
    obtain ⟨hc, hidle | ⟨begun, hattempts⟩⟩ :=
      idle_or_attempts_visit config world errand hs.consolidated_eq
    · -- without a call the engine keeps what it kept
      rw [hkept hidle.calls_eq]
      exact inv_of_idle hs hidle hc
    · exact inv_of_attempts hattempts hc kept
  | edit dictionary =>
    exact ⟨hs.consolidated_eq, hs.fresh_or_dirty, hs.fresh_iff, hs.since_latest⟩

private theorem inv_of_steps {s s' : Standing Kept} (hs : s.Inv)
    (h : Relation.ReflTransGen Step s s') : s'.Inv := by
  induction h with
  | refl => exact hs
  | tail _ hstep ih => exact inv_of_step ih hstep

end Standing

/-- Over all runs of visits and edits from the registration of a source, whatever is fetched and
whichever calls fail: the source is fresh or dirty; it is fresh exactly when the latest rebuild
succeeded, and then the data is what that rebuild loaded and the engine keeps what it left; and
while it is dirty, the next feed that is fetched is rebuilt from, be it known or new. -/
theorem failed_rebuild_is_retried {Kept : Type} (api : String) (version : Nat)
    (url dictionary : String) (kept : Kept) (s : Standing Kept)
    (h : Relation.ReflTransGen Standing.Step
      { source := .register api version url dictionary, kept } s) :
    (s.source.ingestState = .fresh ∨ s.source.ingestState = .dirty) ∧
    (∀ a, s.latest = some a →
      (s.source.ingestState = .fresh ↔ ∃ o, a.result = .ok o) ∧
      (s.source.ingestState = .fresh → s.source.data = a.begun.data ∧ s.kept = a.left)) ∧
    (s.source.ingestState = .dirty → ∀ (config : Config) (world : World),
      let v := visit config world .freshen s.source
      (∀ text, world.fetch s.source.url = .ok text →
        v.begun = some { receive s.source text world.fetchedAt with ingestState := .rebuilding }) ∧
      ∀ e, world.fetch s.source.url = .error e →
        v.result = .error (.fetch e) ∧ v.source.ingestState = .dirty ∧ v.calls = []) := by
  have hs := Standing.inv_of_steps (Standing.inv_register api version url dictionary kept) h
  refine ⟨hs.fresh_or_dirty, fun a ha ↦ ⟨?_, fun _ ↦ hs.since_latest a ha⟩,
    fun hdirty config world ↦ ⟨fun text hfetch ↦ ?_, fun e hfetch ↦ ?_⟩⟩
  · rw [hs.fresh_iff, ha]
    simp only [Option.mem_def, Option.some.injEq, forall_eq']
  · have hreceived :=
      (consolidated_receive s.source text world.fetchedAt).trans hs.consolidated_eq
    rw [visit, freshen_of_receive hs.consolidated_eq hfetch (.inr hdirty)]
    exact (attempts_rebuild config world true hreceived).begun_eq
  · rw [visit, freshen_of_fetch_error hs.consolidated_eq hfetch]
    exact ⟨rfl, hdirty, rfl⟩

/-- The feed whose rebuild failed is known by then, and is rebuilt from all the same. -/
theorem failed_rebuild_is_retried_for_known_feed :
    let text := "id\n1\n2\n"
    let config : Config := ⟨⟨"test", "feeds"⟩, {}⟩
    let world : World :=
      { fetch := fun _ ↦ .ok text, engine := fun _ _ ↦ .error ⟨.connection, .unspoken⟩
        fetchedAt := ⟨0, 0⟩, runAt := ⟨0, 0⟩ }
    let registered : Standing Unit := { source := .register "works" 1 "" "", kept := () }
    let s := registered.afterVisit (visit config world .freshen registered.source) ()
    s.source.ingestState = .dirty ∧ isKnown s.source text = true ∧
      (visit config world .freshen s.source).begun.isSome = true := by
  intro text config world registered s
  let received : DataSource := { registered.source with
    dataImportedAt := some world.fetchedAt, ingestState := .dirty, data := text
    messageDigest := some (Digest.ofText text), dataChangedAt := some world.fetchedAt }
  obtain ⟨hd, pipeline, hp⟩ := exists_pipeline_of_nil (config.naming.pipelineId "works" 1)
  have hplan : plan config received true world.runAt = .ok _ := plan_of_ok hd hp records_two_lines
  have hfetch : world.fetch registered.source.url = .ok text := rfl
  have hvisit : visit config world .freshen registered.source = _ :=
    freshen_of_receive rfl hfetch (.inl rfl)
  have hleft : s.source = { received with ingestState := .dirty } :=
    (congrArg Visit.source hvisit).trans (congrArg Visit.source (rebuild_of_plan rfl hplan rfl))
  have hdirty : s.source.ingestState = .dirty := by rw [hleft]
  have hstep : Standing.Step registered s :=
    .visit registered config world .freshen () fun _ ↦ rfl
  obtain ⟨-, -, hretried⟩ := failed_rebuild_is_retried _ _ _ _ () s (.single hstep)
  obtain ⟨hbegun, -⟩ := hretried hdirty config world
  refine ⟨hdirty, ?_, ?_⟩
  · rw [hleft]
    exact beq_self_eq_true (some (Digest.ofText text))
  · rw [hbegun text rfl, Option.isSome_some]

end FeedHarvest.Ingest
