import FeedHarvest.Proofs.Command.Run
import FeedHarvest.Proofs.Ingest.Locality
import FeedHarvest.Proofs.Ingest.Timing
import FeedHarvest.Proofs.Names
import FeedHarvest.Proofs.Search.Client

/-!
# Sources freshened together

Sources in several files are freshened one after the other, by one engine and from one network, and
each may come to any end. None of them notices the others, as long as what is met outside is
*local*: an answer depends on nothing before but what was asked of the same address, index or
pipeline. The reason is that a visit names nothing but what is its source's own, and writes to
nothing but its own file.

Two things are shared all the same. Sources may share the address of their feed, and a feed that
changes by being fetched shows which of them came first. And a run fails before it gets to any
source if it is not set up well or the search engine is not well.
-/

namespace FeedHarvest.Session

open Ingest (Config Visit World)

variable {config : Config} {files files' : Files} {path other : String}

/-- What visits to several files meet outside. -/
structure Outside where
  /-- The feed at an address, in the light of the addresses fetched from before. -/
  fetch : List String → String → Except FetchError String
  engine : Search.Engine
  schedule : Ingest.Schedule := .prompt

namespace Outside

/-- What a visit meets after others. -/
def world (o : Outside) (moment : Moment) (past : List FileVisit) (_source : DataSource) :
    World where
  fetch := o.fetch (past.flatMap fun f ↦ f.visit.toList.flatMap Visit.fetched)
  engine := o.engine
  schedule := o.schedule
  past := past.flatMap fun f ↦ f.visit.toList.flatMap Visit.answered
  fetchedAt := moment.1
  runAt := moment.2

/-- What visits one after the other meet, with a clock that is read anew for each. -/
def around (o : Outside) (clock : Nat → Moment) (past : List FileVisit) : DataSource → World :=
  o.world (clock past.length) past

/-- The visit to a file that is freshened alone. -/
def alone (o : Outside) (config : Config) (files : Files) (moment : Moment) (path : String) :
    FileVisit :=
  visitFile config (o.world moment []) .freshen files path

/-- Whether answers depend on nothing before but what was asked of the same address, index or
pipeline. -/
structure IsLocal (o : Outside) : Prop where
  fetch_eq : ∀ past past' address,
    past.filter (· = address) = past'.filter (· = address) →
      o.fetch past address = o.fetch past' address
  engine : o.engine.IsLocal

/-- Whether the feed at an address is the same however often it was fetched. -/
def IsSteadyAt (o : Outside) (address : String) : Prop :=
  ∀ past, o.fetch past address = o.fetch [] address

/-- Whether two sources have different indices and pipelines, and do not share an address whose feed
changes by being fetched. -/
structure Unrelated (o : Outside) (config : Config) (s s' : DataSource) : Prop where
  index_ne : config.naming.indexName s.api s.version ≠ config.naming.indexName s'.api s'.version
  pipelineId_ne :
    config.naming.pipelineId s.api s.version ≠ config.naming.pipelineId s'.api s'.version
  isSteadyAt : s.url = s'.url → o.IsSteadyAt s'.url

/-- Whether two paths lead to different files, with unrelated sources if both hold one. -/
def Apart (o : Outside) (config : Config) (files : Files) (path other : String) : Prop :=
  files.Apart path other ∧ ∀ s s', readSource files path = .ok s →
    readSource files other = .ok s' → o.Unrelated config s s'

private theorem Apart.of_seenAlike {o : Outside} (h : o.Apart config files path other)
    (hpath : files.SeenAlike path files') (hother : files.SeenAlike other files') :
    o.Apart config files' path other := by
  rw [Apart, Files.Apart, hpath.resolve?_eq, readSource_of_seenAlike hpath,
    readSource_of_seenAlike hother]
  exact h

variable {o : Outside} {s : DataSource} {moment : Moment} {past : List FileVisit} {f : FileVisit}

/-- Whether a visit to a file was none to a source, or was one to a source unrelated to another. -/
def Spares (o : Outside) (config : Config) (s : DataSource) (f : FileVisit) : Prop :=
  ∀ v ∈ f.visit, ∃ s', v.NamedAfter config s' ∧ o.Unrelated config s' s

/-- After visits that spared a source, a visit to it is the one that it is alone. -/
theorem freshen_of_spared (hlocal : o.IsLocal) (hpast : ∀ f ∈ past, o.Spares config s f) :
    Ingest.freshen config (o.world moment past s) s
      = Ingest.freshen config (o.world moment [] s) s := by
  have hfetched : ∀ address ∈ past.flatMap fun f ↦ f.visit.toList.flatMap Visit.fetched,
      address = s.url → o.IsSteadyAt s.url := by
    intro address haddress hurl
    simp only [List.mem_flatMap, Option.mem_toList] at haddress
    obtain ⟨f, hf, v, hv, haddress⟩ := haddress
    obtain ⟨s', hnamed, hunrelated⟩ := hpast f hf v hv
    exact hunrelated.isSteadyAt ((hnamed.fetched_eq address haddress).symm.trans hurl)
  have hanswered : ∀ d ∈ past.flatMap fun f ↦ f.visit.toList.flatMap Visit.answered,
      ∀ c : Search.Call, c.NamesOnly (config.naming.indexName s.api s.version)
        (config.naming.pipelineId s.api s.version) → ¬ c.Meets d := by
    intro d hd c hc
    simp only [List.mem_flatMap, Option.mem_toList] at hd
    obtain ⟨f, hf, v, hv, hd⟩ := hd
    obtain ⟨s', hnamed, hunrelated⟩ := hpast f hf v hv
    exact hc.not_meets (hnamed.namesOnly d hd) hunrelated.index_ne.symm
      hunrelated.pipelineId_ne.symm
  refine Ingest.freshen_congr rfl rfl ?_ fun p hindex hid ↦ ?_
  · by_cases hshared : s.url ∈ past.flatMap fun f ↦ f.visit.toList.flatMap Visit.fetched
    · exact hfetched _ hshared rfl _
    · -- nothing was fetched from this address before
      refine hlocal.fetch_eq _ _ _ ?_
      rw [List.filter_eq_nil_iff.2]
      · rfl
      · intro address haddress
        rw [decide_eq_true_eq]
        rintro rfl
        exact hshared haddress
  · have hrun := p.run_append config.limits o.schedule [] hlocal.engine fun c hc d hd ↦
      hanswered d hd c (by rwa [hindex, hid] at hc)
    rwa [List.append_nil] at hrun

theorem spares_visitFile {w : DataSource → World} (hapart : o.Apart config files path other)
    (hsource : readSource files other = .ok s) :
    o.Spares config s (visitFile config w .freshen files path) := by
  intro v hv
  obtain ⟨s', hs', rfl⟩ := exists_readSource_of_visit hv
  exact ⟨s', Ingest.namedAfter_freshen config (w s') s', hapart.2 s' s hs' hsource⟩

/-- Files that are apart are freshened one after the other as each is alone: this holds of the files
still to come as long as they are seen as they were, and the visits so far have spared their
sources. -/
theorem exists_visit_eq_alone_of_spared (hlocal : o.IsLocal) (clock : Nat → Moment) {paths : List String}
    (hapart : paths.Pairwise (o.Apart config files)) {past : List FileVisit}
    (hseen : ∀ path ∈ paths, files.SeenAlike path files')
    (hspared : ∀ path ∈ paths, ∀ s, readSource files path = .ok s →
      ∀ f ∈ past, o.Spares config s f) {i : Nat} (hpath : paths[i]? = some path) :
    let visits := freshenFiles config (o.around clock) past files' paths
    let a := o.alone config files (clock (past.length + i)) path
    ∃ f, visits[i]? = some f ∧ f.result = a.result ∧ f.visit = a.visit ∧
      (filesAfter files' visits).text? path = a.files.text? path := by
  induction paths generalizing past files' i with
  | nil => cases hpath
  | cons first paths ih =>
    obtain ⟨hfirst, hrest⟩ := List.pairwise_cons.1 hapart
    have hseenFirst := hseen first List.mem_cons_self
    let f := visitFile config (o.around clock past) .freshen files' first
    have hf : f.result = (o.alone config files (clock past.length) first).result ∧
        f.visit = (o.alone config files (clock past.length) first).visit ∧
        f.files.text? first = (o.alone config files (clock past.length) first).files.text? first :=
      visitFile_congr hseenFirst fun s hs ↦
        freshen_of_spared hlocal (hspared first List.mem_cons_self s hs)
    have hapartNow : ∀ path ∈ paths, o.Apart config files' first path := fun path hp ↦
      (hfirst path hp).of_seenAlike hseenFirst (hseen path (List.mem_cons_of_mem _ hp))
    have hseenNext : ∀ path ∈ paths, files'.SeenAlike path f.files := fun path hp ↦
      seenAlike_visitFile config _ .freshen (hapartNow path hp).1
    cases i with
    | zero =>
      obtain rfl : first = path := Option.some.inj hpath
      refine ⟨f, rfl, hf.1, hf.2.1, ?_⟩
      -- the visits after this one write elsewhere
      have hlater : ∀ path ∈ paths, f.files.Apart path first := fun path hp ↦ by
        rw [Files.Apart, (hseenNext path hp).resolve?_eq]
        exact (hapartNow path hp).1.symm
      exact (seenAlike_filesAfter hlater _).text?_eq.trans hf.2.2
    | succ i =>
      have hspare : ∀ path ∈ paths, ∀ s, readSource files path = .ok s →
          ∀ g ∈ past ++ [f], o.Spares config s g := by
        intro path hp s hs g hg
        rcases List.mem_append.1 hg with hg | hg
        · exact hspared path (List.mem_cons_of_mem _ hp) s hs g hg
        · rw [List.mem_singleton.1 hg]
          refine spares_visitFile (hapartNow path hp) ?_
          rwa [readSource_of_seenAlike (hseen path (List.mem_cons_of_mem _ hp))]
      have hnext := ih hrest
        (fun path hp ↦ (hseen path (List.mem_cons_of_mem _ hp)).trans (hseenNext path hp)) hspare
        hpath
      rwa [List.length_append, List.length_singleton, Nat.add_assoc, Nat.add_comm 1 i] at hnext

theorem exists_visit_eq_alone (hlocal : o.IsLocal) (clock : Nat → Moment) {paths : List String}
    (hapart : paths.Pairwise (o.Apart config files)) {i : Nat} (hpath : paths[i]? = some path) :
    let visits := freshenFiles config (o.around clock) [] files paths
    let a := o.alone config files (clock i) path
    ∃ f, visits[i]? = some f ∧ f.result = a.result ∧ f.visit = a.visit ∧
      (filesAfter files visits).text? path = a.files.text? path := by
  have hvisit := exists_visit_eq_alone_of_spared hlocal clock hapart
    (fun path _ ↦ .refl path files) (fun _ _ _ _ f hf ↦ absurd hf List.not_mem_nil) hpath
  rwa [List.length_nil, Nat.zero_add] at hvisit

/-! ## Other moments -/

/-- Whether two visits have left the same in a file, readings of their clocks aside. -/
def SavedAlike (t t' : Time.Instant) (text text' : Option String) : Prop :=
  text' = text ∨ ∃ s s' : DataSource, text = some s.save ∧ text' = some s'.save ∧
    s.SameButClock t t' s'

/-- If answers do not depend on the time, neither does what comes of a visit. -/
theorem alone_retimed (hengine : o.engine.IsTimeless) (hschedule : o.schedule.IsTimeless)
    (config : Config) (files : Files) (path : String) (moment moment' : Moment) :
    let a := o.alone config files moment path
    let a' := o.alone config files moment' path
    a'.result = a.result ∧
      SavedAlike moment.1 moment'.1 (a.files.text? path) (a'.files.text? path) := by
  intro a a'
  cases hread : readSource files path with
  | error e =>
    have ha : a = _ := visitFile_of_error hread _ _
    have ha' : a' = _ := visitFile_of_error hread _ _
    rw [ha, ha']
    exact ⟨rfl, .inl rfl⟩
  | ok s =>
    let v := Ingest.freshen config (o.world moment [] s) s
    let v' := Ingest.freshen config (o.world moment' [] s) s
    obtain ⟨hresult, hsource⟩ :
        v'.result = v.result ∧ v.source.SameButClock moment.1 moment'.1 v'.source :=
      Ingest.freshen_retimed config (o.world moment [] s) s hengine hschedule rfl moment'.1
        moment'.2
    have hwrite := (Files.SeenAlike.refl path files).isSome_write?_eq v.source.save v'.source.save
    simp only [a, a', alone, visitFile, hread, Ingest.visit, writeSource]
    cases hw : files.write? path v.source.save with
    | none =>
      rw [hw, Option.isSome_none, Option.isSome_eq_false_iff, Option.isNone_iff_eq_none] at hwrite
      rw [hwrite]
      exact ⟨rfl, .inl rfl⟩
    | some written =>
      rw [hw, Option.isSome_some, Option.isSome_iff_exists] at hwrite
      obtain ⟨written', hw'⟩ := hwrite
      rw [hw']
      refine ⟨congrArg (Except.mapError CommandError.ingest) hresult,
        .inr ⟨v.source, v'.source, ?_, ?_, hsource⟩⟩
      · exact Files.text?_of_write? hw
      · exact Files.text?_of_write? hw'

end Outside

/-! ## Sources that are freshened together -/

/-- A source whose feed cannot be fetched again, after it was fetched for another source. -/
theorem exists_second_of_fetch_error (config : Config) (outside : Outside) (moment : Moment)
    {s s' : DataSource} {e e' : FetchError} (hread : readSource files path = .ok s)
    (hs : s.consolidated = false)
    (hwrites : ∀ text, ∃ written, files.write? path text = some written)
    (hread' : readSource files other = .ok s') (hs' : s'.consolidated = false)
    (hwrites' : ∀ text, ∃ written, files.write? other text = some written)
    (hapart : files.Apart path other) (hfetch : outside.fetch [] s.url = .error e)
    (hfetch' : outside.fetch [s.url] s'.url = .error e') :
    ∃ f, (freshenFiles config (outside.around fun _ ↦ moment) [] files [path, other])[1]? = some f ∧
      f.result = .error (.ingest (.fetch e')) := by
  let around := outside.around fun _ ↦ moment
  let first := visitFile config (around []) .freshen files path
  have hfirst : first.visit = some _ := (visitFile_of_fetch_error hread hs hwrites hfetch).2
  have hseen : files.SeenAlike other first.files := seenAlike_visitFile config _ .freshen hapart
  have hagain : ∀ text, ∃ written, first.files.write? other text = some written := by
    intro text
    rw [← Option.isSome_iff_exists, hseen.isSome_write?_eq text text, Option.isSome_iff_exists]
    exact hwrites' text
  have hgone : (around [first] s').fetch s'.url = .error e' := by
    show outside.fetch ([first].flatMap fun f ↦ f.visit.toList.flatMap Visit.fetched) _ = _
    rwa [List.flatMap_singleton, hfirst]
  have hread'' : readSource first.files other = .ok s' :=
    (readSource_of_seenAlike hseen).trans hread'
  exact ⟨_, rfl, (visitFile_of_fetch_error hread'' hs' hagain hgone).1⟩

theorem exists_standard_settings (h : EnvFile.text? files = none) :
    ∃ settings, Settings.ofLookup (EnvFile.inFolder files fun _ ↦ none) = .ok settings ∧
      settings.engineAddress = "http://localhost:9200" ∧ settings.replicas = 1 := by
  rw [EnvFile.inFolder, h]
  exact ⟨_, rfl, rfl, rfl⟩

theorem connect_standard : Search.Client.connect "http://localhost:9200" 1
    = .ok ⟨⟨⟨"http", "localhost", some 9200⟩, "", "/"⟩, 1⟩ := by
  have haddress : Http.Address.parse? "http://localhost:9200"
      = some ⟨⟨"http", "localhost", some 9200⟩, "", "/"⟩ := by decide +kernel
  rw [Search.Client.connect, haddress]

def wellReport : Http.Response :=
  ⟨200, some (Text.Utf8.encode (Json.object [("status", .string "green")]).compact), none⟩

private theorem healthOf_wellReport : Search.healthOf (some wellReport) = .ok true := by
  have hplain : (Json.object [("status", .string "green")]).IsPlain := by
    simp [Json.IsPlain, Json.MembersPlain]
  rw [Search.healthOf, wellReport, Search.jsonOf?_written hplain (by decide)]
  rfl

theorem exists_begin_standard (network : Http.Network) (hfile : EnvFile.text? files = none)
    (hnetwork : ∀ r, network [] r = some wellReport) :
    ∃ settings s, Settings.ofLookup (EnvFile.inFolder files fun _ ↦ none) = .ok settings ∧
      begin? settings network files = .ok s ∧
      s.client.server.site = ⟨"http", "localhost", some 9200⟩ := by
  obtain ⟨settings, hsettings, haddress, hreplicas⟩ := exists_standard_settings hfile
  let client : Search.Client := ⟨⟨⟨"http", "localhost", some 9200⟩, "", "/"⟩, 1⟩
  have hbegin : begin? settings network files
      = .ok { settings, client, network, files, requests := [client.healthRequest] } := by
    rw [begin?, haddress, hreplicas, connect_standard]
    simp only [Except.mapError, bind, Except.bind, hnetwork, healthOf_wellReport]
    rfl
  exact ⟨settings, _, hsettings, hbegin, rfl⟩

/-- **Sources are freshened independently.** A run that gets to its sources freshens each in its
turn, whatever came of those before, and fails exactly if one of the visits did; a run that does not
get to them fails, visits none and leaves the files. If what is met outside is local and the files
are apart, then each visit is the one that its file gets when it is freshened alone with the same
readings of the clock, and leaves the same in it; and if nothing outside depends on the time, then
at any other moment what comes of the visit is the same, and so is what is left in the file, the
readings aside. -/
theorem sources_are_freshened_independently (lookup : Settings.Lookup) (network : Http.Network)
    (config : Config) (outside : Outside) (clock : Nat → Moment) (files : Files)
    (paths : List String) :
    (let finished := Command.run lookup files network clock (.freshen paths)
     (∀ e, Settings.ofLookup (EnvFile.inFolder files lookup) = .error e →
        finished = { code := 1, files }) ∧
      ∀ settings, Settings.ofLookup (EnvFile.inFolder files lookup) = .ok settings →
        (∀ e, begin? settings network files = .error e →
          finished = { code := 1, files, requests := requestsToBegin settings }) ∧
        ∀ s, begin? settings network files = .ok s →
          let visits := freshenFiles settings.ingest (s.around clock) [] files paths
          InTurn settings.ingest (s.around clock) files paths visits ∧
            finished.files = filesAfter files visits ∧
            (finished.code = 0 ∧ (∀ f ∈ visits, ∃ o, f.result = .ok o) ∨
              finished.code = 1 ∧ ∃ f ∈ visits, ∃ e, f.result = .error e)) ∧
    (outside.IsLocal → paths.Pairwise (outside.Apart config files) →
      let visits := freshenFiles config (outside.around clock) [] files paths
      InTurn config (outside.around clock) files paths visits ∧
        ∀ (i : Nat) path, paths[i]? = some path → ∃ f, visits[i]? = some f ∧
          (let a := outside.alone config files (clock i) path
           f.result = a.result ∧ f.visit = a.visit ∧
              (filesAfter files visits).text? path = a.files.text? path) ∧
          (outside.engine.IsTimeless → outside.schedule.IsTimeless → ∀ moment,
            let a := outside.alone config files moment path
            f.result = a.result ∧ Outside.SavedAlike moment.1 (clock i).1 (a.files.text? path)
              ((filesAfter files visits).text? path))) := by
  refine ⟨?_, fun hlocal hapart ↦ ⟨inTurn_freshenFiles _ _ _ _, fun i path hpath ↦ ?_⟩⟩
  · intro finished
    refine ⟨fun e h ↦ run_freshen_of_settings_error network clock paths h, fun settings hsettings ↦
      ⟨fun e h ↦ run_freshen_of_begin_error clock paths hsettings h, fun s h ↦ ?_⟩⟩
    exact ⟨inTurn_freshenFiles _ _ _ _, run_freshen_of_begin clock paths hsettings h⟩
  · obtain ⟨f, hf, hresult, hvisit, htext⟩ :=
      Outside.exists_visit_eq_alone hlocal clock hapart hpath
    refine ⟨f, hf, ⟨hresult, hvisit, htext⟩, fun hengine hschedule moment ↦ ?_⟩
    obtain ⟨hresult', htext'⟩ :=
      Outside.alone_retimed hengine hschedule config files path moment (clock i)
    refine ⟨hresult.trans hresult', ?_⟩
    rw [htext]
    exact htext'

/-- Feeds are refused when they are asked for again, and the engine refuses what names something
that was named before. A run with a server that is well visits both files; and what comes of the
second visit is what comes of it alone at another moment. -/
theorem sources_are_freshened_independently_of_refused :
    let jobs : DataSource := .register "jobs" 1 "jobs.csv" "unique_fields: [id]\n"
    let works : DataSource := .register "works" 1 "works.csv" ""
    let files : Files := { entries := [(["jobs.json"], .file (Text.Utf8.encode jobs.save)),
      (["works.json"], .file (Text.Utf8.encode works.save))] }
    let paths := ["jobs.json", "works.json"]
    let report : Json := .object [("status", .string "green")]
    let network : Http.Network := fun _ _ ↦ some ⟨200, some (Text.Utf8.encode report.compact), none⟩
    let lookup : Settings.Lookup := fun _ ↦ none
    let outside : Outside := {
      fetch := fun past address ↦
        if (past.filter (· = address)).isEmpty then .ok "id\n1\n" else .error .unspoken
      engine := fun past c ↦
        if (past.filter fun d ↦ c.Meets d).isEmpty then .ok 0
        else .error ⟨.connection, .unspoken⟩ }
    let config : Config := ⟨⟨"test", "feeds"⟩, {}⟩
    let clock : Nat → Moment := fun n ↦ (⟨n, 0⟩, ⟨n + 1, 0⟩)
    (∃ s settings, Settings.ofLookup (EnvFile.inFolder files lookup) = .ok settings ∧
      begin? settings network files = .ok s ∧
      InTurn settings.ingest (s.around clock) files paths
        (freshenFiles settings.ingest (s.around clock) [] files paths)) ∧
    outside.IsLocal ∧ paths.Pairwise (outside.Apart config files) ∧
      outside.engine.IsTimeless ∧ outside.schedule.IsTimeless ∧
      ∃ f, (freshenFiles config (outside.around clock) [] files paths)[1]? = some f ∧
        f.result = (outside.alone config files (⟨0, 0⟩, ⟨0, 0⟩) "works.json").result := by
  intro jobs works files paths report network lookup outside config clock
  obtain ⟨hrun, htogether⟩ := sources_are_freshened_independently lookup network config outside
    clock files paths
  have hlocal : outside.IsLocal := by
    refine ⟨fun past past' address h ↦ ?_, fun past past' c h ↦ ?_⟩
    · simp only [outside, h]
    · simp only [outside, h]
  have hengine : outside.engine.IsTimeless := by
    intro t past c
    simp only [outside, List.filter_map, List.isEmpty_map, Function.comp_def,
      Search.Call.meets_retimed]
  have hschedule : outside.schedule.IsTimeless := fun _ _ ↦ rfl
  have hjobs : readSource files "jobs.json" = .ok jobs :=
    readSource_of_lookup (DataSource.storable_register (by decide))
      (show _ = some ["jobs.json"] by decide +kernel) rfl
  have hworks : readSource files "works.json" = .ok works :=
    readSource_of_lookup (DataSource.storable_register (by decide))
      (show _ = some ["works.json"] by decide +kernel) rfl
  have hapart : paths.Pairwise (outside.Apart config files) := by
    refine List.pairwise_pair.2 ⟨Files.apart_of_resolve?_ne (by decide +kernel),
      fun s s' hs hs' ↦ ?_⟩
    cases hjobs.symm.trans hs
    cases hworks.symm.trans hs'
    refine ⟨?_, by decide +kernel, fun h ↦ absurd h (by decide +kernel)⟩
    exact Naming.indexName_ne (by decide +kernel) (by decide +kernel) (by decide +kernel)
  have hfile : EnvFile.text? files = none := by decide +kernel
  obtain ⟨settings, s, hsettings, hs, -⟩ := exists_begin_standard network hfile fun _ ↦ rfl
  refine ⟨⟨s, settings, hsettings, hs, ?_⟩, hlocal, hapart, hengine, hschedule, ?_⟩
  · exact ((hrun.2 settings hsettings).2 s hs).1
  · obtain ⟨f, hf, -, hmoment⟩ := (htogether hlocal hapart).2 1 "works.json" rfl
    exact ⟨f, hf, (hmoment hengine hschedule _).1⟩

/-- A run fails without a search engine although its one source would be freshened. Of two sources
that share a feed which is gone when it is fetched again, the second is freshened otherwise than
alone, at the same moment and with all that is met outside local. -/
theorem sources_share_the_engine_and_their_feeds :
    (let all : DataSource := { DataSource.register "all" 1 "" "" with consolidated := true }
     let files : Files := { entries := [(["all.json"], .file (Text.Utf8.encode all.save))] }
     (∀ config world, (visitFile config world .freshen files "all.json").result = .ok .skipped) ∧
      ∀ clock,
        (Command.run (fun _ ↦ none) files Http.silence clock (.freshen ["all.json"])).code = 1) ∧
    (let jobs : DataSource := .register "jobs" 1 "feed.csv" ""
     let works : DataSource := .register "works" 1 "feed.csv" ""
     let files : Files := { entries := [(["jobs.json"], .file (Text.Utf8.encode jobs.save)),
      (["works.json"], .file (Text.Utf8.encode works.save))] }
     let outside : Outside := {
      fetch := fun past address ↦
        if (past.filter (· = address)).isEmpty then .error (.status address 503)
        else .error (.status address 410)
      engine := fun _ _ ↦ .ok 0 }
     let config : Config := ⟨⟨"test", "feeds"⟩, {}⟩
     let moment : Moment := (⟨0, 0⟩, ⟨0, 0⟩)
     readSource files "jobs.json" = .ok jobs ∧ readSource files "works.json" = .ok works ∧
      files.Apart "jobs.json" "works.json" ∧
      config.naming.indexName jobs.api jobs.version
        ≠ config.naming.indexName works.api works.version ∧
      config.naming.pipelineId jobs.api jobs.version
        ≠ config.naming.pipelineId works.api works.version ∧
      outside.IsLocal ∧
      ∃ f, (freshenFiles config (outside.around fun _ ↦ moment) [] files
          ["jobs.json", "works.json"])[1]? = some f ∧
        f.result ≠ (outside.alone config files moment "works.json").result) := by
  refine ⟨?_, ?_⟩
  · intro all files
    have hall : readSource files "all.json" = .ok all :=
      readSource_of_lookup ⟨by decide, by rintro _ ⟨⟩, by rintro _ ⟨⟩⟩
        (show _ = some ["all.json"] by decide +kernel) rfl
    refine ⟨fun config world ↦ ?_, fun clock ↦ ?_⟩
    · have hwrites : ∀ text, ∃ written, files.write? "all.json" text = some written :=
        Files.exists_write?_of_resolve? (show _ = some ["all.json"] by decide +kernel)
          (by decide +kernel) (by decide +kernel)
      have hvisit := Ingest.visit_of_consolidated config (world all) .freshen
        (show all.consolidated = true from rfl)
      rw [result_visitFile hall hwrites, hvisit]
      rfl
    · have hfile : EnvFile.text? files = none := by decide +kernel
      obtain ⟨settings, hsettings, haddress, hreplicas⟩ := exists_standard_settings hfile
      have hbegin : begin? settings Http.silence files
          = .error (.engine ⟨.connection, .unspoken⟩) := by
        rw [begin?, haddress, hreplicas, connect_standard]
        rfl
      rw [run_freshen_of_begin_error clock ["all.json"] hsettings hbegin]
  · intro jobs works files outside config moment
    have hjobs : readSource files "jobs.json" = .ok jobs :=
      readSource_of_lookup (DataSource.storable_register (by decide))
        (show _ = some ["jobs.json"] by decide +kernel) rfl
    have hworks : readSource files "works.json" = .ok works :=
      readSource_of_lookup (DataSource.storable_register (by decide))
        (show _ = some ["works.json"] by decide +kernel) rfl
    have hwritesJobs : ∀ text, ∃ written, files.write? "jobs.json" text = some written :=
      Files.exists_write?_of_resolve? (show _ = some ["jobs.json"] by decide +kernel)
        (by decide +kernel) (by decide +kernel)
    have hwritesWorks : ∀ text, ∃ written, files.write? "works.json" text = some written :=
      Files.exists_write?_of_resolve? (show _ = some ["works.json"] by decide +kernel)
        (by decide +kernel) (by decide +kernel)
    have hapart : files.Apart "jobs.json" "works.json" :=
      Files.apart_of_resolve?_ne (by decide +kernel)
    have hlocal : outside.IsLocal := by
      refine ⟨fun past past' address h ↦ ?_, fun _ _ _ _ ↦ rfl⟩
      simp only [outside, h]
    have hfresh : outside.fetch [] "feed.csv" = .error (.status "feed.csv" 503) := rfl
    have hgone : outside.fetch ["feed.csv"] "feed.csv" = .error (.status "feed.csv" 410) := rfl
    obtain ⟨f, hf, hresult⟩ := exists_second_of_fetch_error config outside moment hjobs rfl
      hwritesJobs hworks rfl hwritesWorks hapart hfresh hgone
    refine ⟨hjobs, hworks, hapart, ?_, by decide +kernel, hlocal, f, hf, ?_⟩
    · exact Naming.indexName_ne (by decide +kernel) (by decide +kernel) (by decide +kernel)
    · have halone : (outside.alone config files moment "works.json").result
          = .error (.ingest (.fetch (.status "feed.csv" 503))) :=
        (visitFile_of_fetch_error hworks rfl hwritesWorks hfresh).1
      rw [hresult, halone]
      simp

end FeedHarvest.Session
