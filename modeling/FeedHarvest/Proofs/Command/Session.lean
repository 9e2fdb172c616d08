import FeedHarvest.Command.Session
import FeedHarvest.Proofs.DataSource.Saved
import FeedHarvest.Proofs.Files
import FeedHarvest.Proofs.Ingest.ChangeDetection

/-!
# Visits to files

Visiting a source that is kept in a file is visiting it in memory: after any number of visits of any
kind, whatever they met outside and however they ended, the file holds the source that the same
visits would have left in memory. What each visit meets may depend on all visits before it, and the
two runs meet the same because they have the same past.

The invariant of the run is that the file holds the source of the run in memory, and can be written
to. That the source can be saved needs no mention: a source that a file holds was loaded.
-/

namespace FeedHarvest.Session

open Ingest (Config Errand Visit World)

variable {config : Config} {files files' : Files} {path text : String} {source : DataSource}

/-! ## Sources in files -/

theorem readSource_eq_ok_iff : readSource files path = .ok source ↔
    ∃ text, files.text? path = some text ∧ DataSource.load? text = some source := by
  rw [readSource]
  cases files.text? path with
  | none => exact iff_of_false nofun (by rintro ⟨_, ⟨⟩, _⟩)
  | some text =>
    dsimp only
    cases hload : DataSource.load? text with
    | none => simp [hload]
    | some s => simp [hload]

private theorem readSource_of_unreadable (h : files.text? path = none) :
    readSource files path = .error .file := by
  rw [readSource, h]

private theorem readSource_of_unparsable (h : files.text? path = some text)
    (hload : DataSource.load? text = none) : readSource files path = .error .format := by
  rw [readSource, h]
  dsimp only
  rw [hload]

private theorem storable_of_readSource (h : readSource files path = .ok source) :
    source.Storable := by
  obtain ⟨text, -, hload⟩ := readSource_eq_ok_iff.1 h
  exact DataSource.storable_of_load? hload

theorem readSource_of_lookup {parts : List String} (hs : source.Storable)
    (hparts : files.resolve? path = some parts)
    (h : files.entries.lookup parts = some (.file (Text.Utf8.encode source.save))) :
    readSource files path = .ok source := by
  refine readSource_eq_ok_iff.2 ⟨source.save, ?_, DataSource.load?_save hs⟩
  rw [Files.text?, Files.bytes?, hparts, Option.bind_eq_bind, Option.bind_some, h]
  exact Text.Utf8.decode?_encode source.save

theorem readSource_of_write? (hs : source.Storable)
    (h : files.write? path source.save = some files') : readSource files' path = .ok source :=
  readSource_eq_ok_iff.2 ⟨source.save, Files.text?_of_write? h, DataSource.load?_save hs⟩

/-- A visit keeps the version, and its instants are old ones or the time of its fetch. -/
theorem storable_visit {world : World} (config : Config) (errand : Errand)
    (hs : source.Storable) (hclock : world.fetchedAt.isValid = true) :
    (Ingest.visit config world errand source).source.Storable := by
  have hnow : ∀ t ∈ some world.fetchedAt, t.isValid = true := by
    rintro t ⟨⟩
    exact hclock
  refine Ingest.visit_induction config world errand hs ?_ ?_ ?_
  · exact ⟨hs.version_le, hs.isValid_dataChangedAt, hnow⟩
  · intro text
    rw [Ingest.receive]
    split
    · exact ⟨hs.version_le, hs.isValid_dataChangedAt, hnow⟩
    · exact ⟨hs.version_le, hnow, hnow⟩
  · intro s state hs
    exact ⟨hs.version_le, hs.isValid_dataChangedAt, hs.isValid_dataImportedAt⟩

/-! ## One visit -/

/-- Whether a visit to a file shows what a visit in memory did: the file holds what that left
behind, and the answer is the same, an error being one of ingestion. -/
structure FileVisit.Shows (f : FileVisit) (path : String) (v : Visit) : Prop where
  readSource_eq : readSource f.files path = .ok v.source
  result_eq : f.result = v.result.mapError .ingest
  visit_eq : f.visit = some v

theorem visitFile_of_error {e : CommandError} (h : readSource files path = .error e)
    (world : DataSource → World) (errand : Errand) :
    visitFile config world errand files path = { files, result := .error e } := by
  rw [visitFile, h]

theorem visitFile_shows {world : DataSource → World} (config : Config) (errand : Errand)
    (hread : readSource files path = .ok source)
    (hwrites : ∀ text, ∃ written, files.write? path text = some written)
    (hclock : (world source).fetchedAt.isValid = true) :
    (visitFile config world errand files path).Shows path
        (Ingest.visit config (world source) errand source) ∧
      ∀ text, ∃ written,
        (visitFile config world errand files path).files.write? path text = some written := by
  have hs := storable_visit config errand (storable_of_readSource hread) hclock
  obtain ⟨written, hwritten⟩ :=
    hwrites (Ingest.visit config (world source) errand source).source.save
  have hvisit : visitFile config world errand files path =
      { files := written
        result := (Ingest.visit config (world source) errand source).result.mapError .ingest
        visit := some (Ingest.visit config (world source) errand source) } := by
    rw [visitFile, hread]
    dsimp only
    rw [writeSource, hwritten]
  rw [hvisit]
  exact ⟨⟨readSource_of_write? hs hwritten, rfl, rfl⟩, Files.exists_write?_of_write? hwritten⟩

theorem dirty_of_failed {world : World} {errand : Errand} {e : IngestError}
    (hbegun : (Ingest.visit config world errand source).begun ≠ none)
    (hresult : (Ingest.visit config world errand source).result = .error e) :
    (Ingest.visit config world errand source).source.ingestState = .dirty := by
  rcases Bool.eq_false_or_eq_true source.consolidated with hs | hs
  · rw [Ingest.visit_of_consolidated config world errand hs] at hbegun
    exact absurd rfl hbegun
  · rcases (Ingest.idle_or_attempts_visit config world errand hs).2 with hidle | ⟨begun, h⟩
    · exact absurd hidle.begun_eq hbegun
    · rcases h.state_of_result with ⟨-, o, ho⟩ | ⟨hstate, -⟩
      · rw [hresult] at ho
        cases ho
      · exact hstate

/-! ## Runs of visits -/

/-- What visits meet outside, in the light of the visits before. -/
abbrev Surroundings := List Visit → Errand → DataSource → World

/-- Visits made one after the other to a source in memory. -/
def visitsInMemory (config : Config) (around : Surroundings) :
    List Visit → DataSource → List Errand → List Visit
  | _, _, [] => []
  | past, source, errand :: errands =>
    let v := Ingest.visit config (around past errand source) errand source
    v :: visitsInMemory config around (past ++ [v]) v.source errands

/-- Visits made one after the other to the source in a file. -/
def visitsToFile (config : Config) (around : Surroundings) (path : String) :
    List Visit → Files → List Errand → List FileVisit
  | _, _, [] => []
  | past, files, errand :: errands =>
    let f := visitFile config (around past errand) errand files path
    f :: visitsToFile config around path (past ++ f.visit.toList) f.files errands

variable {around : Surroundings}

/-- The two runs side by side, from any past that they share. -/
theorem forall₂_shows (hclock : ∀ past errand s, (around past errand s).fetchedAt.isValid = true)
    (errands : List Errand) (past : List Visit) (hread : readSource files path = .ok source)
    (hwrites : ∀ text, ∃ written, files.write? path text = some written) :
    List.Forall₂ (fun f v ↦ f.Shows path v ∧ (v.begun ≠ none → ∀ e, v.result = .error e →
        ∃ saved, readSource f.files path = .ok saved ∧ saved.ingestState = .dirty))
      (visitsToFile config around path past files errands)
      (visitsInMemory config around past source errands) := by
  induction errands generalizing past files source with
  | nil => exact .nil
  | cons errand errands ih =>
    obtain ⟨hshows, hagain⟩ :=
      visitFile_shows config errand hread hwrites (hclock past errand source)
    rw [visitsToFile, visitsInMemory]
    -- the rest of the run begins with the same past, the same source and a file to write to
    refine .cons ⟨hshows, fun hbegun e he ↦ ?_⟩ ?_
    · exact ⟨_, hshows.readSource_eq, dirty_of_failed hbegun he⟩
    · rw [hshows.visit_eq, Option.toList_some]
      exact ih _ hshows.readSource_eq hagain

theorem visitsToFile_of_error {e : CommandError} (h : readSource files path = .error e)
    (errands : List Errand) (past : List Visit) :
    visitsToFile config around path past files errands =
      errands.map fun _ ↦ { files, result := .error e } := by
  induction errands generalizing past with
  | nil => rfl
  | cons errand errands ih =>
    rw [visitsToFile, visitFile_of_error h, List.map_cons]
    exact congrArg _ (ih _)

/-- **Files follow memory.** When a file holds a source and can be written to, then after each visit
of a run it holds the source that the same run leaves in memory, and the answers are the same; a
rebuild that failed is found dirty. When the file cannot be read, or holds no source, each visit
fails with that, nothing outside is asked, and the file is left as it was. -/
theorem visits_to_file_follow_memory (config : Config) (around : Surroundings) (files : Files)
    (path : String) (errands : List Errand) :
    (∀ source, readSource files path = .ok source →
      (∀ text, ∃ written, files.write? path text = some written) →
      (∀ past errand s, (around past errand s).fetchedAt.isValid = true) →
      List.Forall₂ (fun f v ↦ f.Shows path v ∧ (v.begun ≠ none → ∀ e, v.result = .error e →
          ∃ saved, readSource f.files path = .ok saved ∧ saved.ingestState = .dirty))
        (visitsToFile config around path [] files errands)
        (visitsInMemory config around [] source errands)) ∧
    (files.text? path = none →
      visitsToFile config around path [] files errands =
        errands.map fun _ ↦ { files, result := .error .file, visit := none }) ∧
    (∀ text, files.text? path = some text → DataSource.load? text = none →
      visitsToFile config around path [] files errands =
        errands.map fun _ ↦ { files, result := .error .format, visit := none }) := by
  refine ⟨fun source hread hwrites hclock ↦ ?_, fun h ↦ ?_, fun text h hload ↦ ?_⟩
  · exact forall₂_shows hclock errands [] hread hwrites
  · exact visitsToFile_of_error (readSource_of_unreadable h) errands []
  · exact visitsToFile_of_error (readSource_of_unparsable h hload) errands []

/-- A source whose engine refuses every call is freshened and then ingested; and so are a file that
is missing and one that is empty. -/
theorem visits_to_file_follow_memory_of_refused :
    let config : Config := { naming := ⟨"test", "feeds"⟩ }
    let around : Surroundings := fun _ _ _ ↦
      { fetch := fun _ ↦ .ok "id\n1\n", engine := fun _ _ ↦ .error ⟨.connection, .unspoken⟩
        fetchedAt := ⟨0, 0⟩, runAt := ⟨0, 0⟩ }
    let source : DataSource := .register "jobs" 1 "jobs.csv" "unique_fields: [id]\n"
    ∃ held empty : Files, readSource held "jobs.json" = .ok source ∧
      List.Forall₂ (fun f v ↦ f.Shows "jobs.json" v ∧ (v.begun ≠ none → ∀ e, v.result = .error e →
          ∃ saved, readSource f.files "jobs.json" = .ok saved ∧ saved.ingestState = .dirty))
        (visitsToFile config around "jobs.json" [] held [.freshen, .ingest])
        (visitsInMemory config around [] source [.freshen, .ingest]) ∧
      visitsToFile config around "jobs.json" [] ⟨[], []⟩ [.freshen, .ingest] =
        [⟨⟨[], []⟩, .error .file, none⟩, ⟨⟨[], []⟩, .error .file, none⟩] ∧
      visitsToFile config around "jobs.json" [] empty [.freshen, .ingest] =
        [⟨empty, .error .format, none⟩, ⟨empty, .error .format, none⟩] := by
  intro config around source
  have hpath : ∀ text, ∃ written, Files.write? ⟨[], []⟩ "jobs.json" text = some written :=
    fun text ↦ ⟨_, Files.write?_eq_some_iff.2
      ⟨["jobs.json"], by decide +kernel, by decide, by decide, rfl⟩⟩
  have hstorable : source.Storable := ⟨by decide, nofun, nofun⟩
  have hmissing : Files.text? ⟨[], []⟩ "jobs.json" = none := by decide +kernel
  have hload : DataSource.load? "" = none := by
    rw [DataSource.load?, Json.Source.parse?, String.toList_empty, Json.tokens?]
    rfl
  obtain ⟨held, hheld⟩ := hpath source.save
  obtain ⟨empty, hempty⟩ := hpath ""
  have hread := readSource_of_write? hstorable hheld
  refine ⟨held, empty, hread, ?_, ?_, ?_⟩
  · exact (visits_to_file_follow_memory config around held "jobs.json" [.freshen, .ingest]).1 source
      hread (Files.exists_write?_of_write? hheld) fun _ _ _ ↦ by decide
  · exact (visits_to_file_follow_memory config around ⟨[], []⟩ "jobs.json"
      [.freshen, .ingest]).2.1 hmissing
  · exact (visits_to_file_follow_memory config around empty "jobs.json"
      [.freshen, .ingest]).2.2 "" (Files.text?_of_write? hempty) hload

end FeedHarvest.Session
