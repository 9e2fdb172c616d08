import FeedHarvest.Proofs.Ingest.Reindexing
import FeedHarvest.Proofs.Ingest.Standing

/-!
# Detecting changes

A feed is compared with the stored one by digest alone, so the digest that a source carries has to
be that of its data at all times: if one were replaced without the other, a feed that was never
indexed would count as known from then on. That is an invariant of every visit, `DigestsData`. What
a visit leaves of the rest of the source is its registration, `SameRegistration`.

Both follow from what a visit can do to a source: a text may be received, and a rebuild moves
nothing but the state.
-/

namespace FeedHarvest

namespace DataSource

/-- Whether nothing was changed but the feed and what is known about it. -/
def SameRegistration (s s' : DataSource) : Prop :=
  s' = { s with
    data := s'.data, messageDigest := s'.messageDigest, dataChangedAt := s'.dataChangedAt
    dataImportedAt := s'.dataImportedAt, ingestState := s'.ingestState }

/-- Whether the digest of a source, if it has one, is that of its data. -/
def DigestsData (s : DataSource) : Prop := ∀ d ∈ s.messageDigest, d = Digest.ofText s.data

private theorem SameRegistration.url_eq {s s' : DataSource} (h : s.SameRegistration s') :
    s'.url = s.url := by
  rw [SameRegistration] at h
  rw [h]

theorem SameRegistration.trans {s s' s'' : DataSource} (h : s.SameRegistration s')
    (h' : s'.SameRegistration s'') : s.SameRegistration s'' := by
  rw [SameRegistration] at h h' ⊢
  rw [h', h]

end DataSource

namespace Ingest

variable {config : Config} {world : World} {source : DataSource} {text : String}

/-! ## Received texts -/

theorem isKnown_iff :
    isKnown source text = true ↔ source.messageDigest = some (Digest.ofText text) :=
  beq_iff_eq

theorem receive_of_known (h : source.messageDigest = some (Digest.ofText text))
    (at_ : Time.Instant) :
    receive source text at_
      = { source with dataImportedAt := some at_, ingestState := .dirty } :=
  if_pos (isKnown_iff.2 h)

theorem receive_of_new (h : source.messageDigest ≠ some (Digest.ofText text))
    (at_ : Time.Instant) :
    receive source text at_ = { source with
      data := text, messageDigest := some (Digest.ofText text), dataChangedAt := some at_
      dataImportedAt := some at_, ingestState := .dirty } :=
  if_neg (mt isKnown_iff.1 h)

theorem messageDigest_receive (source : DataSource) (text : String) (at_ : Time.Instant) :
    (receive source text at_).messageDigest = some (Digest.ofText text) := by
  by_cases h : source.messageDigest = some (Digest.ofText text)
  · rw [receive_of_known h, h]
  · rw [receive_of_new h]

theorem sameRegistration_receive (source : DataSource) (text : String) (at_ : Time.Instant) :
    source.SameRegistration (receive source text at_) := by
  by_cases h : source.messageDigest = some (Digest.ofText text)
  · rw [receive_of_known h]
    rfl
  · rw [receive_of_new h]
    rfl

/-- If the stored digest was true, the data has the digest of the text that was received. -/
theorem digest_data_receive (h : source.DigestsData) (text : String) (at_ : Time.Instant) :
    Digest.ofText (receive source text at_).data = Digest.ofText text := by
  by_cases hknown : source.messageDigest = some (Digest.ofText text)
  · rw [receive_of_known hknown]
    exact (h _ hknown).symm
  · rw [receive_of_new hknown]

private theorem digestsData_receive (h : source.DigestsData) (text : String) (at_ : Time.Instant) :
    (receive source text at_).DigestsData := by
  intro d hd
  rw [digest_data_receive h]
  rw [messageDigest_receive] at hd
  exact (Option.some.inj hd).symm

/-! ## Visits -/

theorem visit_of_consolidated (config : Config) (world : World) (errand : Errand)
    (hs : source.consolidated = true) :
    visit config world errand source = { source, result := .ok .skipped } := by
  cases errand <;> simp only [visit, freshen, rebuild, hs, if_true]

theorem source_rebuild (config : Config) (world : World) (prunes : Bool) (source : DataSource) :
    (rebuild config world prunes source).source = { source with
      ingestState := (rebuild config world prunes source).source.ingestState } := by
  rcases Bool.eq_false_or_eq_true source.consolidated with hs | hs
  · rw [rebuild, if_pos hs]
  · cases hplan : plan config source prunes world.runAt with
    | error e => rw [rebuild_of_plan_error hs hplan]
    | ok p => rw [rebuild_of_plan hs hplan rfl]

theorem state_rebuild (prunes : Bool) (hs : source.consolidated = false) :
    (rebuild config world prunes source).source.ingestState
      = if (rebuild config world prunes source).result.isOk then .fresh else .dirty := by
  rcases (attempts_rebuild config world prunes hs).state_of_result with ⟨h, o, hr⟩ | ⟨h, e, hr⟩
  · rw [h, hr]
    rfl
  · rw [h, hr]
    rfl

/-- A text that is fetched is known, and then nothing more happens to a source that is not dirty; or
it is received and rebuilt from. -/
theorem freshen_of_text (config : Config) (hs : source.consolidated = false)
    (hfetch : world.fetch source.url = .ok text) :
    (source.messageDigest = some (Digest.ofText text) ∧ source.ingestState ≠ .dirty ∧
      freshen config world source = {
        source := { source with dataImportedAt := some world.fetchedAt }
        result := .ok .unchanged, fetched := [source.url] }) ∨
    (¬(source.messageDigest = some (Digest.ofText text) ∧ source.ingestState ≠ .dirty) ∧
      freshen config world source
        = { rebuild config world true (receive source text world.fetchedAt) with
            fetched := [source.url] }) := by
  by_cases h : source.messageDigest = some (Digest.ofText text) ∧ source.ingestState ≠ .dirty
  · exact .inl ⟨h.1, h.2, freshen_of_isKnown hs hfetch (isKnown_iff.2 h.1) h.2⟩
  · refine .inr ⟨h, freshen_of_receive hs hfetch ?_⟩
    by_cases hknown : source.messageDigest = some (Digest.ofText text)
    · exact .inr (not_not.1 fun hstate ↦ h ⟨hknown, hstate⟩)
    · exact .inl (Bool.eq_false_iff.2 (mt isKnown_iff.1 hknown))

/-- What survives the moving of the import time, the receiving of a text and the moving of the state
survives a visit. -/
theorem visit_induction {P : DataSource → Prop} (config : Config) (world : World) (errand : Errand)
    (h : P source)
    (himported : P { source with dataImportedAt := some world.fetchedAt })
    (hreceive : ∀ text, P (receive source text world.fetchedAt))
    (hstate : ∀ s state, P s → P { s with ingestState := state }) :
    P (visit config world errand source).source := by
  have hrebuild : ∀ prunes s, P s → P (rebuild config world prunes s).source := fun prunes s hs ↦ by
    rw [source_rebuild]
    exact hstate s _ hs
  rcases Bool.eq_false_or_eq_true source.consolidated with hs | hs
  · rw [visit_of_consolidated config world errand hs]
    exact h
  · cases errand with
    | ingest => exact hrebuild false source h
    | ingestAndPrune => exact hrebuild true source h
    | freshen =>
      rw [visit]
      cases hfetch : world.fetch source.url with
      | error e =>
        rw [freshen_of_fetch_error hs hfetch]
        exact h
      | ok text =>
        rcases freshen_of_text config hs hfetch with ⟨-, -, hv⟩ | ⟨-, hv⟩
        · rw [hv]
          exact himported
        · rw [hv]
          exact hrebuild true _ (hreceive text)

theorem sameRegistration_visit (config : Config) (world : World) (errand : Errand)
    (source : DataSource) : source.SameRegistration (visit config world errand source).source := by
  refine visit_induction config world errand rfl rfl
    (fun text ↦ sameRegistration_receive source text world.fetchedAt) fun s state hs ↦ ?_
  exact hs.trans rfl

private theorem digestsData_visit (config : Config) (world : World) (errand : Errand)
    (h : source.DigestsData) : (visit config world errand source).source.DigestsData :=
  visit_induction config world errand h h
    (fun text ↦ digestsData_receive h text world.fetchedAt) fun _ _ hs ↦ hs

/-- After a visit that freshened a source, the same feed is known and its index shows it. -/
theorem known_of_freshen {o : Outcome} (hs : source.consolidated = false)
    (hstate : source.ingestState ≠ .rebuilding)
    (hfetch : world.fetch source.url = .ok text)
    (ho : (freshen config world source).result = .ok o) :
    (freshen config world source).source.messageDigest = some (Digest.ofText text) ∧
      (freshen config world source).source.ingestState = .fresh := by
  rcases freshen_of_text config hs hfetch with ⟨hknown, hdirty, hv⟩ | ⟨-, hv⟩
  · rw [hv]
    refine ⟨hknown, ?_⟩
    cases h : source.ingestState with
    | fresh => rfl
    | dirty => exact absurd h hdirty
    | rebuilding => exact absurd h hstate
  · rw [hv] at ho ⊢
    have hreceived := (consolidated_receive source text world.fetchedAt).trans hs
    refine ⟨?_, ((attempts_rebuild config world true hreceived).fresh_iff).2 ⟨o, ho⟩⟩
    rw [source_rebuild]
    exact messageDigest_receive source text world.fetchedAt

/-- A feed that is freshened is compared with the stored one by digest, whatever is fetched and
whatever the engine answers. Nothing comes of a feed that cannot be had; a known feed is noted as
such and, unless the source is dirty, left at that; any other is received, so that data, digest and
time of change are replaced together or not at all, and then rebuilt from. What was registered is
kept by every visit, and so is the truth of the digest. So the same feed once more is no news. -/
theorem freshen_detects_change (config : Config) (world : World) (source : DataSource) :
    (source.consolidated = false →
      source.ingestState = .fresh ∨ source.ingestState = .dirty →
      let v := freshen config world source
      (∀ e, world.fetch source.url = .error e →
        v = { source, result := .error (.fetch e), fetched := [source.url], calls := [] }) ∧
      ∀ text, world.fetch source.url = .ok text →
        let digest := Digest.ofText text
        (source.messageDigest = some digest ∧ source.ingestState = .fresh →
          v = {
            source := { source with dataImportedAt := some world.fetchedAt }
            result := .ok .unchanged, fetched := [source.url], calls := [] }) ∧
        (¬(source.messageDigest = some digest ∧ source.ingestState = .fresh) →
          ∃ received : DataSource,
            v.result = (rebuild config world true received).result ∧
            v.calls = (rebuild config world true received).calls ∧
            v.begun = some { received with ingestState := .rebuilding } ∧
            v.source = { received with
              ingestState := if v.result.isOk then .fresh else .dirty } ∧
            (source.messageDigest = some digest → received = { source with
              dataImportedAt := some world.fetchedAt, ingestState := .dirty }) ∧
            (source.messageDigest ≠ some digest → received = { source with
              data := text, messageDigest := some digest, dataChangedAt := some world.fetchedAt
              dataImportedAt := some world.fetchedAt, ingestState := .dirty }) ∧
            (source.DigestsData → Digest.ofText received.data = digest)) ∧
        ∀ o, v.result = .ok o → ∀ (config' : Config) (world' : World),
          world'.fetch v.source.url = .ok text →
          freshen config' world' v.source = {
            source := { v.source with dataImportedAt := some world'.fetchedAt }
            result := .ok .unchanged, fetched := [source.url], calls := [] }) ∧
    ∀ errand, source.SameRegistration (visit config world errand source).source ∧
      (source.DigestsData → (visit config world errand source).source.DigestsData) ∧
      (source.consolidated = true →
        visit config world errand source = { source, result := .ok .skipped, calls := [] }) := by
  refine ⟨fun hs hstate ↦ ⟨fun e hfetch ↦ freshen_of_fetch_error hs hfetch, ?_⟩, fun errand ↦
    ⟨sameRegistration_visit config world errand source,
      digestsData_visit config world errand, visit_of_consolidated config world errand⟩⟩
  intro text hfetch digest
  have hfresh_iff : source.ingestState = .fresh ↔ source.ingestState ≠ .dirty := by
    rcases hstate with h | h <;> simp [h]
  rw [hfresh_iff]
  refine ⟨fun ⟨hknown, hfresh⟩ ↦ freshen_of_isKnown hs hfetch (isKnown_iff.2 hknown) hfresh,
    fun hnew ↦ ?_, fun o ho config' world' hagain ↦ ?_⟩
  · rcases freshen_of_text config hs hfetch with ⟨hknown, hfresh, -⟩ | ⟨-, hv⟩
    · exact absurd ⟨hknown, hfresh⟩ hnew
    · rw [hv]
      have hreceived := (consolidated_receive source text world.fetchedAt).trans hs
      refine ⟨_, rfl, rfl, (attempts_rebuild config world true hreceived).begun_eq, ?_,
        fun h ↦ receive_of_known h _, fun h ↦ receive_of_new h _,
        fun h ↦ digest_data_receive h text world.fetchedAt⟩
      rw [source_rebuild, state_rebuild true hreceived]
  · have hkept := sameRegistration_visit config world .freshen source
    have hs' : (freshen config world source).source.consolidated = false :=
      (congrArg DataSource.consolidated hkept).trans hs
    have hurl : (freshen config world source).source.url = source.url := hkept.url_eq
    have hrebuilding : source.ingestState ≠ .rebuilding := by
      rcases hstate with h | h <;> rw [h] <;> exact IngestState.noConfusion
    obtain ⟨hknown, hfresh⟩ := known_of_freshen hs hrebuilding hfetch ho
    have hleft : (freshen config world source).source.ingestState ≠ .dirty := by
      rw [hfresh]
      exact IngestState.noConfusion
    rw [← hurl]
    exact freshen_of_isKnown hs' hagain (isKnown_iff.2 hknown) hleft

/-- A source is dirty though its feed is known; one visit rebuilds from it, and for the next it is
no news. -/
theorem freshen_detects_change_of_dirty :
    let text := "id\n1\n2\n"
    let source : DataSource := { DataSource.register "works" 1 "" "" with
      data := text, messageDigest := some (Digest.ofText text), ingestState := .dirty }
    let config : Config := ⟨⟨"test", "feeds"⟩, {}⟩
    let world : World :=
      { fetch := fun _ ↦ .ok text, engine := fun _ _ ↦ .ok 0, fetchedAt := ⟨0, 0⟩, runAt := ⟨0, 0⟩ }
    let world := world.over ⟨fun _ ↦ none, fun _ ↦ none⟩ fun _ _ ↦ none
    (freshen config world source).result = .ok (.reingested 2) ∧
      (freshen config world (freshen config world source).source).result = .ok .unchanged ∧
      (freshen config world (freshen config world source).source).calls = [] := by
  intro text source config world₀ world
  obtain ⟨hdetects, -⟩ := freshen_detects_change config world source
  obtain ⟨-, hfetched⟩ := hdetects rfl (.inr rfl)
  obtain ⟨-, hnew, hagain⟩ := hfetched text rfl
  obtain ⟨received, hv, -, -, -, hknown, -⟩ := hnew fun h ↦ IngestState.noConfusion h.2
  obtain rfl := hknown rfl
  obtain ⟨hd, pipeline, hp⟩ := exists_pipeline_of_nil (config.naming.pipelineId "works" 1)
  let received : DataSource := { source with
    dataImportedAt := some world.fetchedAt, ingestState := .dirty }
  have hplan : plan config received true world₀.runAt = .ok _ := plan_of_ok hd hp records_two_lines
  have hresult : (freshen config world source).result = .ok (.reingested 2) :=
    hv.trans (result_rebuild_of_plan rfl hplan _ fun _ _ ↦ rfl)
  have hsecond := hagain _ hresult config world rfl
  exact ⟨hresult, congrArg Visit.result hsecond, congrArg Visit.calls hsecond⟩

end Ingest

end FeedHarvest
