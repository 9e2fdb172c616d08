import FeedHarvest.Proofs.Ingest.ChangeDetection

/-!
# Rebuilds that were cut off

A rebuild that is cut off between two calls leaves its source rebuilding, in memory or where it was
saved. No visit asks for that state: a source that is not dirty is only compared with its feed. So a
source found rebuilding is treated as if it were fresh. If the feed is new, the index is rebuilt and
the interruption is made up for; if the feed is known, the visit succeeds and leaves the source
rebuilding, and the index as it was when the rebuild was cut off.

That is the one way in which a visit can succeed and not leave the source fresh.
-/

namespace FeedHarvest.Ingest

variable {config : Config} {world : World} {source : DataSource}

/-- Whether a visit fetches a feed that the source is known to have. -/
def FindsKnown (world : World) (source : DataSource) : Prop :=
  ∃ text, world.fetch source.url = .ok text ∧ source.messageDigest = some (Digest.ofText text)

/-- A known feed is left alone also when the last rebuild was cut off. -/
theorem freshen_of_findsKnown (config : Config) (hs : source.consolidated = false)
    (hstate : source.ingestState = .rebuilding) (hknown : FindsKnown world source) :
    freshen config world source = {
      source := { source with dataImportedAt := some world.fetchedAt }
      result := .ok .unchanged, fetched := [source.url], calls := [] } := by
  obtain ⟨text, hfetch, hdigest⟩ := hknown
  refine freshen_of_isKnown hs hfetch (isKnown_iff.2 hdigest) ?_
  rw [hstate]
  exact IngestState.noConfusion

/-- A rebuild that was begun is no visit without news. -/
theorem result_rebuild_ne_unchanged (config : Config) (world : World) (prunes : Bool)
    (source : DataSource) : (rebuild config world prunes source).result ≠ .ok .unchanged := by
  rcases Bool.eq_false_or_eq_true source.consolidated with hs | hs
  · rw [rebuild, if_pos hs]
    rintro ⟨⟩
  · cases hplan : plan config source prunes world.runAt with
    | error e =>
      rw [rebuild_of_plan_error hs hplan]
      rintro ⟨⟩
    | ok p =>
      rw [rebuild_of_plan hs hplan rfl]
      cases (p.run config.limits world.schedule world.engine world.past).failure with
      | none => rintro ⟨⟩
      | some e => rintro ⟨⟩

/-- A visit that rebuilds begins with what it received. -/
theorem rebuilds_of_receive (config : Config) {text : String} (hs : source.consolidated = false)
    (h : world.fetch source.url = .ok text)
    (hnew : isKnown source text = false ∨ source.ingestState = .dirty) :
    (freshen config world source).result
        = (rebuild config world true (receive source text world.fetchedAt)).result ∧
      (freshen config world source).begun
        = some { receive source text world.fetchedAt with ingestState := .rebuilding } := by
  rw [freshen_of_receive hs h hnew]
  exact ⟨rfl, (attempts_rebuild config world true
    ((consolidated_receive source text world.fetchedAt).trans hs)).begun_eq⟩

/-- **Success leaves a source fresh, with one exception.** Whatever state a source is found in,
whatever is fetched and whatever the engine answers: a visit that freshened it leaves it fresh, and
says that there was no news only if it was fresh before. The exception is a source found rebuilding
whose feed is known. There the visit succeeds with no news and no call, and moves nothing but the
time of import, so the source is still rebuilding afterwards. -/
theorem freshen_leaves_fresh_unless_cut_off (config : Config) (world : World)
    (source : DataSource) (hs : source.consolidated = false) :
    let v := freshen config world source
    (¬(source.ingestState = .rebuilding ∧ FindsKnown world source) → ∀ o, v.result = .ok o →
      v.source.ingestState = .fresh ∧ (o = .unchanged → source.ingestState = .fresh)) ∧
    (source.ingestState = .rebuilding → FindsKnown world source →
      v = {
        source := { source with dataImportedAt := some world.fetchedAt }
        result := .ok .unchanged, fetched := [source.url], calls := [] }) := by
  refine ⟨fun hexception o ho ↦ ?_, freshen_of_findsKnown config hs⟩
  cases hfetch : world.fetch source.url with
  | error e =>
    rw [freshen_of_fetch_error hs hfetch] at ho
    cases ho
  | ok text =>
    rcases freshen_of_text config hs hfetch with ⟨hdigest, hclean, hv⟩ | ⟨-, hv⟩
    · -- the feed is known and the source not dirty, so outside the exception it is fresh
      have hfresh : source.ingestState = .fresh := by
        cases hstate : source.ingestState with
        | fresh => rfl
        | dirty => exact absurd hstate hclean
        | rebuilding => exact absurd ⟨hstate, text, hfetch, hdigest⟩ hexception
      rw [hv]
      exact ⟨hfresh, fun _ ↦ hfresh⟩
    · rw [hv] at ho ⊢
      have hreceived := (consolidated_receive source text world.fetchedAt).trans hs
      refine ⟨((attempts_rebuild config world true hreceived).fresh_iff).2 ⟨o, ho⟩, ?_⟩
      rintro rfl
      exact absurd ho (result_rebuild_ne_unchanged config world true _)

/-- A source found rebuilding is freshened from a new feed, and left alone with a known one. -/
theorem freshen_leaves_fresh_unless_cut_off_of_rebuilding :
    let text := "id\n1\n2\n"
    let source : DataSource :=
      { DataSource.register "works" 1 "" "" with ingestState := .rebuilding }
    let known : DataSource := { source with messageDigest := some (Digest.ofText text) }
    let config : Config := ⟨⟨"test", "feeds"⟩, {}⟩
    let world : World :=
      { fetch := fun _ ↦ .ok text, engine := fun _ _ ↦ .ok 0, fetchedAt := ⟨0, 0⟩, runAt := ⟨0, 0⟩ }
    let world := world.over ⟨fun _ ↦ none, fun _ ↦ none⟩ fun _ _ ↦ none
    (freshen config world source).result = .ok (.reingested 2) ∧
      (freshen config world source).source.ingestState = .fresh ∧
      (freshen config world known).result = .ok .unchanged ∧
      (freshen config world known).source.ingestState = .rebuilding := by
  intro text source known config world₀ world
  obtain ⟨hd, pipeline, hp⟩ := exists_pipeline_of_nil (config.naming.pipelineId "works" 1)
  let received : DataSource := { source with
    data := text, messageDigest := some (Digest.ofText text)
    dataChangedAt := some world.fetchedAt, dataImportedAt := some world.fetchedAt
    ingestState := .dirty }
  obtain ⟨p, hplan, hlength⟩ : ∃ p, plan config received true world₀.runAt = .ok p ∧
      p.documents.length = 2 := ⟨_, plan_of_ok hd hp records_two_lines, rfl⟩
  have hreceived : receive source text world.fetchedAt = received :=
    receive_of_new (by rintro ⟨⟩) _
  have hrebuilt : (rebuild config world true received).result
      = .ok (.reingested p.documents.length) := result_rebuild_of_plan rfl hplan _ fun _ _ ↦ rfl
  have hresult : (freshen config world source).result = .ok (.reingested 2) := by
    rw [(rebuilds_of_receive config rfl rfl (.inl rfl)).1, hreceived, hrebuilt, hlength]
  have hnew : ¬(source.ingestState = .rebuilding ∧ FindsKnown world source) := by
    rintro ⟨-, _, -, ⟨⟩⟩
  have hfresh :=
    ((freshen_leaves_fresh_unless_cut_off config world source rfl).1 hnew _ hresult).1
  have hkept :=
    (freshen_leaves_fresh_unless_cut_off config world known rfl).2 rfl ⟨text, rfl, rfl⟩
  exact ⟨hresult, hfresh, congrArg Visit.result hkept,
    congrArg (fun v ↦ v.source.ingestState) hkept⟩

/-- The rebuild of a first visit is cut off after it was begun, which leaves the source rebuilding.
The next visit fetches the same feed and succeeds, but the source is not fresh. -/
theorem known_feed_leaves_rebuilding :
    let text := "id\n1\n2\n"
    let config : Config := ⟨⟨"test", "feeds"⟩, {}⟩
    let world : World :=
      { fetch := fun _ ↦ .ok text, engine := fun _ _ ↦ .ok 0, fetchedAt := ⟨0, 0⟩, runAt := ⟨0, 0⟩ }
    ∃ source, (freshen config world (.register "works" 1 "" "")).begun = some source ∧
      source.consolidated = false ∧
      (freshen config world source).result = .ok .unchanged ∧
      (freshen config world source).source.ingestState = .rebuilding := by
  intro text config world
  let begun : DataSource := { receive (.register "works" 1 "" "") text world.fetchedAt with
    ingestState := .rebuilding }
  have hbegun : (freshen config world (.register "works" 1 "" "")).begun = some begun :=
    (rebuilds_of_receive config rfl rfl (.inl rfl)).2
  have hagain : freshen config world begun = _ :=
    freshen_of_findsKnown config rfl rfl ⟨text, rfl, messageDigest_receive _ text _⟩
  exact ⟨begun, hbegun, rfl, congrArg Visit.result hagain,
    congrArg (fun v ↦ v.source.ingestState) hagain⟩

end FeedHarvest.Ingest
