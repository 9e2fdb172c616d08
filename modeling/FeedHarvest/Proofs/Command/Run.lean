import FeedHarvest.Command.Run
import FeedHarvest.Proofs.Command.Session

/-!
# Sources freshened one after the other

A run visits the files it was given in their order, each once and whatever came of those before. It
is told by the list of its visits: the files after the visits so far, and what they have asked for,
are what the next visit meets. A visit writes over its own file only, so what other files hold, and
where paths lead, is seen as before.
-/

namespace FeedHarvest.Session

open Ingest (Config Errand Visit World)

variable {config : Config} {files files' : Files} {path other : String} {source : DataSource}

/-! ## One file -/

theorem seenAlike_visitFile (config : Config) (world : DataSource → World) (errand : Errand)
    (h : files.Apart path other) :
    files.SeenAlike other (visitFile config world errand files path).files := by
  cases hread : readSource files path with
  | error e =>
    rw [visitFile_of_error hread]
    exact .refl other files
  | ok source =>
    obtain ⟨text, htext, -⟩ := readSource_eq_ok_iff.1 hread
    rw [visitFile, hread]
    dsimp only
    rw [writeSource]
    let text' := (Ingest.visit config (world source) errand source).source.save
    cases hwrite : files.write? path text' with
    | none => exact .refl other files
    | some written => exact Files.seenAlike_of_write? h htext hwrite

theorem visit_visitFile {world : DataSource → World} {errand : Errand}
    (hread : readSource files path = .ok source) :
    (visitFile config world errand files path).visit
      = some (Ingest.visit config (world source) errand source) := by
  rw [visitFile, hread]
  dsimp only
  split <;> rfl

theorem exists_readSource_of_visit {world : DataSource → World} {errand : Errand} {v : Visit}
    (h : v ∈ (visitFile config world errand files path).visit) :
    ∃ s, readSource files path = .ok s ∧ v = Ingest.visit config (world s) errand s := by
  cases hread : readSource files path with
  | error e =>
    rw [visitFile_of_error hread] at h
    cases h
  | ok s =>
    rw [visit_visitFile hread] at h
    exact ⟨s, rfl, (Option.some.inj h).symm⟩

theorem result_visitFile {world : DataSource → World} {errand : Errand}
    (hread : readSource files path = .ok source)
    (hwrites : ∀ text, ∃ written, files.write? path text = some written) :
    (visitFile config world errand files path).result
      = (Ingest.visit config (world source) errand source).result.mapError .ingest := by
  obtain ⟨written, hw⟩ := hwrites (Ingest.visit config (world source) errand source).source.save
  simp only [visitFile, hread, writeSource, hw]

/-- A visit to a file knows its world by the visit to the source. -/
theorem visitFile_eq_of_visit_eq {world world' : DataSource → World} {errand : Errand}
    (hvisit : ∀ s, readSource files path = .ok s →
      Ingest.visit config (world' s) errand s = Ingest.visit config (world s) errand s) :
    visitFile config world' errand files path = visitFile config world errand files path := by
  rw [visitFile, visitFile]
  cases hread : readSource files path with
  | error e => rfl
  | ok source => simp only [hvisit source hread]

/-- A feed that cannot be fetched is what comes of a visit, and nothing else is asked for. -/
theorem visitFile_of_fetch_error {world : DataSource → World} {e : FetchError}
    (hread : readSource files path = .ok source) (hs : source.consolidated = false)
    (hwrites : ∀ text, ∃ written, files.write? path text = some written)
    (hfetch : (world source).fetch source.url = .error e) :
    (visitFile config world .freshen files path).result = .error (.ingest (.fetch e)) ∧
      (visitFile config world .freshen files path).visit
        = some { source, result := .error (.fetch e), fetched := [source.url] } := by
  have hvisit : Ingest.visit config (world source) .freshen source
      = { source, result := .error (.fetch e), fetched := [source.url] } :=
    Ingest.freshen_of_fetch_error hs hfetch
  rw [result_visitFile hread hwrites, visit_visitFile hread, hvisit]
  exact ⟨rfl, rfl⟩

theorem readSource_of_seenAlike (h : files.SeenAlike path files') :
    readSource files' path = readSource files path := by
  rw [readSource, readSource, h.text?_eq]

theorem visitFile_congr {world world' : DataSource → World} {errand : Errand}
    (h : files.SeenAlike path files')
    (hvisit : ∀ s, readSource files path = .ok s →
      Ingest.visit config (world' s) errand s = Ingest.visit config (world s) errand s) :
    let f := visitFile config world errand files path
    let f' := visitFile config world' errand files' path
    f'.result = f.result ∧ f'.visit = f.visit ∧ f'.files.text? path = f.files.text? path := by
  have hread := readSource_of_seenAlike h
  intro f f'
  cases hsource : readSource files path with
  | error e =>
    have hf : f = _ := visitFile_of_error hsource world errand
    have hf' : f' = _ := visitFile_of_error (hread.trans hsource) world' errand
    rw [hf, hf']
    exact ⟨rfl, rfl, h.text?_eq⟩
  | ok source =>
    let text := (Ingest.visit config (world source) errand source).source.save
    have hwrite := h.isSome_write?_eq text text
    simp only [f, f', visitFile, hread.trans hsource, hsource, hvisit source hsource, writeSource]
    cases hw : files.write? path text with
    | none =>
      rw [hw, Option.isSome_none, Option.isSome_eq_false_iff, Option.isNone_iff_eq_none] at hwrite
      rw [hwrite]
      exact ⟨rfl, rfl, h.text?_eq⟩
    | some written =>
      rw [hw, Option.isSome_some, Option.isSome_iff_exists] at hwrite
      obtain ⟨written', hw'⟩ := hwrite
      rw [hw']
      exact ⟨rfl, rfl, (Files.text?_of_write? hw').trans (Files.text?_of_write? hw).symm⟩

/-! ## Visits to files, one after the other -/

def filesAfter (files : Files) (visits : List FileVisit) : Files :=
  visits.foldl (fun _ f ↦ f.files) files

/-- Freshens the sources in files one after the other. What a visit meets outside may depend on all
visits before it. -/
def freshenFiles (config : Config) (world : List FileVisit → DataSource → World) :
    List FileVisit → Files → List String → List FileVisit
  | _, _, [] => []
  | past, files, path :: paths =>
    let f := visitFile config (world past) .freshen files path
    f :: freshenFiles config world (past ++ [f]) f.files paths

section Turns

variable {world : List FileVisit → DataSource → World}

/-- Every path is visited, in its turn and on the files that the visits before have left. -/
theorem getElem?_freshenFiles (config : Config) (world : List FileVisit → DataSource → World)
    (past : List FileVisit) (files : Files) (paths : List String) (i : Nat) :
    let visits := freshenFiles config world past files paths
    visits[i]? = paths[i]?.map fun path ↦
      visitFile config (world (past ++ visits.take i)) .freshen
        (filesAfter files (visits.take i)) path := by
  induction paths generalizing past files i with
  | nil => rfl
  | cons path paths ih =>
    cases i with
    | zero => simp [freshenFiles, filesAfter]
    | succ i => simp [freshenFiles, filesAfter, ih]

theorem freshenFiles_concat (config : Config) (world : List FileVisit → DataSource → World)
    (past : List FileVisit) (files : Files) (paths : List String) (path : String) :
    let visits := freshenFiles config world past files paths
    freshenFiles config world past files (paths ++ [path])
      = visits ++ [visitFile config (world (past ++ visits)) .freshen
          (filesAfter files visits) path] := by
  induction paths generalizing past files with
  | nil => simp [freshenFiles, filesAfter]
  | cons first paths ih => simp [freshenFiles, filesAfter, ih]

/-- Whether visits are one to each path in its turn: on the files that the visits before it have
left, in the light of these visits, and whatever came of them. -/
def InTurn (config : Config) (world : List FileVisit → DataSource → World) (files : Files)
    (paths : List String) (visits : List FileVisit) : Prop :=
  ∀ i : Nat, visits[i]? = paths[i]?.map fun path ↦
    visitFile config (world (visits.take i)) .freshen (filesAfter files (visits.take i)) path

theorem inTurn_freshenFiles (config : Config) (world : List FileVisit → DataSource → World)
    (files : Files) (paths : List String) :
    InTurn config world files paths (freshenFiles config world [] files paths) := by
  intro i
  have hi := getElem?_freshenFiles config world [] files paths i
  dsimp only at hi
  rwa [List.nil_append] at hi

/-- Visits to other files are not seen from a path. -/
theorem seenAlike_filesAfter {paths : List String} (h : ∀ path ∈ paths, files.Apart path other)
    (past : List FileVisit) :
    files.SeenAlike other
      (filesAfter files (freshenFiles config world past files paths)) := by
  induction paths generalizing past files with
  | nil => exact .refl other files
  | cons path paths ih =>
    have hfirst := seenAlike_visitFile config (world past) .freshen (h path List.mem_cons_self)
    refine hfirst.trans (ih (fun p hp ↦ ?_) _)
    -- paths lead where they led before the first visit
    rw [Files.Apart, hfirst.resolve?_eq]
    exact h p (List.mem_cons_of_mem _ hp)

end Turns

/-! ## Sessions -/

def after (s : Session) (visits : List FileVisit) : Session :=
  visits.foldl (fun s f ↦ { (match f.visit with
    | none => s
    | some v => s.afterVisit v) with files := f.files }) s

/-- What a visit in a session meets outside after other visits. -/
def around (s : Session) (clock : Nat → Moment) (past : List FileVisit) : DataSource → World :=
  (s.after past).world (clock past.length) .freshen

theorem after_append (s : Session) (past : List FileVisit) (f : FileVisit) :
    s.after (past ++ [f]) = { (match f.visit with
      | none => s.after past
      | some v => (s.after past).afterVisit v) with files := f.files } := by
  rw [after, List.foldl_append]
  rfl

/-- Visits change nothing in a session but its files and its requests. -/
theorem same_after (s : Session) (visits : List FileVisit) :
    (s.after visits).settings = s.settings ∧ (s.after visits).client = s.client ∧
      (s.after visits).network = s.network := by
  induction visits using List.reverseRecOn with
  | nil => exact ⟨rfl, rfl, rfl⟩
  | append_singleton visits f ih =>
    rw [after_append]
    cases f.visit with
    | none => exact ih
    | some v => exact ih

theorem freshenAll_after (s : Session) (clock : Nat → Moment) (past : List FileVisit)
    (paths : List String) :
    let visits := freshenFiles s.settings.ingest (s.around clock) past (s.after past).files paths
    freshenAll clock past.length paths (s.after past)
      = (s.after (past ++ visits), visits.map FileVisit.result) := by
  induction paths generalizing past with
  | nil =>
    intro visits
    rw [freshenAll, show visits = [] from rfl, List.append_nil, List.map_nil]
  | cons path paths ih =>
    intro visits
    let f := visitFile s.settings.ingest (s.around clock past) .freshen (s.after past).files path
    have hvisit : (s.after past).visit (clock past.length) .freshen path
        = (s.after (past ++ [f]), f.result) := by
      rw [visit, (s.same_after past).1, after_append]
      rfl
    have hfiles : (s.after (past ++ [f])).files = f.files := by
      rw [after_append]
    have hrest := ih (past ++ [f])
    dsimp only at hrest
    rw [hfiles, List.length_append, List.length_singleton, List.append_assoc] at hrest
    rw [freshenAll, hvisit]
    dsimp only
    rw [hrest]
    rfl

theorem files_after (s : Session) (visits : List FileVisit) :
    (s.after visits).files = filesAfter s.files visits := by
  induction visits using List.reverseRecOn with
  | nil => rfl
  | append_singleton visits f ih => rw [after_append, filesAfter, List.foldl_append]; rfl

theorem begin?_eq_ok {settings : Settings} {network : Http.Network} {s : Session}
    (h : begin? settings network files = .ok s) :
    s.settings = settings ∧ s.files = files ∧ s.network = network := by
  rw [begin?] at h
  cases hclient : Search.Client.connect settings.engineAddress settings.replicas with
  | error e => rw [hclient] at h; cases h
  | ok client =>
    rw [hclient] at h
    cases hhealth : Search.healthOf (network [] client.healthRequest) with
    | error e => simp [Except.mapError, bind, Except.bind, hhealth] at h
    | ok healthy =>
      cases healthy with
      | false => simp [Except.mapError, bind, Except.bind, hhealth, throw, throwThe,
          MonadExceptOf.throw] at h
      | true =>
        simp [Except.mapError, bind, Except.bind, hhealth, pure, Except.pure] at h
        subst h
        exact ⟨rfl, rfl, rfl⟩

/-! ## Runs of the program -/

section Runs

variable {lookup : Settings.Lookup} {network : Http.Network} {settings : Settings}

private theorem freshenError?_eq_none_iff {results : List (Except CommandError Ingest.Outcome)} :
    Command.freshenError? results = none ↔ ∀ r ∈ results, ∃ o, r = .ok o := by
  have hresult : ∀ r : Except CommandError Ingest.Outcome,
      ¬ r.toOption.isNone = true ↔ ∃ o, r = .ok o := by
    intro r
    cases r with
    | error e => simp [Except.toOption]
    | ok o => simp [Except.toOption]
  rw [Command.freshenError?]
  split
  · next h =>
    rw [List.countP_eq_zero] at h
    exact iff_of_true rfl fun r hr ↦ (hresult r).1 (h r hr)
  · next h =>
    rw [List.countP_eq_zero] at h
    exact iff_of_false nofun fun hall ↦ h fun r hr ↦ (hresult r).2 (hall r hr)

theorem run_freshen_of_settings_error (network : Http.Network) (clock : Nat → Moment)
    (paths : List String) {e : CountError}
    (h : Settings.ofLookup (EnvFile.inFolder files lookup) = .error e) :
    Command.run lookup files network clock (.freshen paths) = { code := 1, files } := by
  rw [Command.run, Command.inSession, h]

theorem run_freshen_of_begin_error (clock : Nat → Moment) (paths : List String) {e : CommandError}
    (hsettings : Settings.ofLookup (EnvFile.inFolder files lookup) = .ok settings)
    (h : begin? settings network files = .error e) :
    Command.run lookup files network clock (.freshen paths)
      = { code := 1, files, requests := requestsToBegin settings } := by
  rw [Command.run, Command.inSession, hsettings]
  dsimp only
  rw [h]

/-- In a session, a run visits each file in its turn, and fails exactly if one of the visits did. -/
theorem run_freshen_of_begin (clock : Nat → Moment) (paths : List String) {s : Session}
    (hsettings : Settings.ofLookup (EnvFile.inFolder files lookup) = .ok settings)
    (h : begin? settings network files = .ok s) :
    let visits := freshenFiles settings.ingest (s.around clock) [] files paths
    let finished := Command.run lookup files network clock (.freshen paths)
    finished.files = filesAfter files visits ∧
      (finished.code = 0 ∧ (∀ f ∈ visits, ∃ o, f.result = .ok o) ∨
        finished.code = 1 ∧ ∃ f ∈ visits, ∃ e, f.result = .error e) := by
  intro visits finished
  obtain ⟨hs, hfiles, -⟩ := begin?_eq_ok h
  have hall := freshenAll_after s clock [] paths
  dsimp only at hall
  rw [after, List.foldl_nil, hs, hfiles, List.length_nil, List.nil_append] at hall
  have hfinished : finished = {
      code := if (Command.freshenError? (visits.map FileVisit.result)).isNone then 0 else 1
      files := (s.after visits).files, requests := (s.after visits).requests } := by
    simp only [finished, Command.run, Command.inSession, hsettings, h, hall, visits]
  have hresults : Command.freshenError? (visits.map FileVisit.result) = none ↔
      ∀ f ∈ visits, ∃ o, f.result = .ok o := by
    rw [freshenError?_eq_none_iff, List.forall_mem_map]
  rw [hfinished]
  refine ⟨(files_after s visits).trans (by rw [hfiles]), ?_⟩
  by_cases hok : ∀ f ∈ visits, ∃ o, f.result = .ok o
  · exact .inl ⟨by rw [hresults.2 hok]; rfl, hok⟩
  · refine .inr ⟨?_, ?_⟩
    · have hsome := mt hresults.1 hok
      rw [← Option.isNone_iff_eq_none] at hsome
      exact if_neg hsome
    · simp only [not_forall] at hok
      obtain ⟨f, hf, hne⟩ := hok
      refine ⟨f, hf, ?_⟩
      cases hresult : f.result with
      | error e => exact ⟨e, rfl⟩
      | ok o => exact absurd ⟨o, hresult⟩ hne

end Runs

end FeedHarvest.Session
