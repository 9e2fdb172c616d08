import FeedHarvest.Proofs.Command.Independence
import FeedHarvest.Proofs.Ingest.Fetch

/-!
# Sessions over a network

A session asks one network for feeds and for answers to its calls, so every request stands in the
history of all that come after it. If servers know of their own requests only, the history falls
into two parts: to the server of the engine it is the requests of calls, and to all others it is
those of fetching. So the feeds and the engine may be looked at as if each had a network of its own,
and what is known of an outside that is local holds of a run of the program.
-/

namespace FeedHarvest.Session

open Ingest (Config SameBut SparesSite Visit)

variable {config : Config} {s : Session} {clock : Nat → Moment} {past : List FileVisit}
  {f : FileVisit} {paths : List String}

/-- What a session meets, if its feeds and its engine do not know of each other. -/
def outside (s : Session) : Outside where
  fetch past address :=
    Ingest.fetch s.files s.network (past.foldl (Ingest.requestsAfter s.network) s.requests) address
  engine := s.client.engine s.network s.requests

/-! ## Histories -/

/-- The addresses that visits have fetched from. -/
private def fetched (past : List FileVisit) : List String :=
  past.flatMap fun f ↦ f.visit.toList.flatMap Visit.fetched

/-- The calls of visits that were answered. -/
private def answered (past : List FileVisit) : List Search.Call :=
  past.flatMap fun f ↦ f.visit.toList.flatMap Visit.answered

/-- Whether the history after visits is, to the server of the engine, that of their calls, and to
all others that of fetching their feeds. -/
private structure Parts (s : Session) (past : List FileVisit) : Prop where
  engine : (s.after past).requests.filter (·.site = s.client.server.site)
    = (s.requests ++ (answered past).filterMap s.client.request?).filter
        (·.site = s.client.server.site)
  feeds : SameBut s.client.server.site (s.after past).requests
    ((fetched past).foldl (Ingest.requestsAfter s.network) s.requests)

theorem site_of_request? {client : Search.Client} {c : Search.Call} {r : Http.Request}
    (h : client.request? c = some r) : r.site = client.server.site := by
  cases c with
  | bulkIndex index id documents =>
    rw [Search.Client.request?] at h
    split at h <;> cases h
    rfl
  | _ => cases h; rfl

private theorem filter_site_eq_nil {requests : List Http.Request} {site : Http.Site}
    (h : ∀ r ∈ requests, r.site ≠ site) : requests.filter (·.site = site) = [] :=
  List.filter_eq_nil_iff.2 fun r hr ↦ by simpa using h r hr

private theorem parts_concat (hnetwork : s.network.IsLocal) (h : s.Parts past)
    (hcalls : ∀ v ∈ f.visit, v.answered = v.calls)
    (hspares : ∀ v ∈ f.visit, ∀ address ∈ v.fetched,
      SparesSite s.network s.client.server.site address) : s.Parts (past ++ [f]) := by
  obtain ⟨-, hclient, hnet⟩ := s.same_after past
  cases hv : f.visit with
  | none =>
    have hanswered : answered (past ++ [f]) = answered past := by simp [answered, hv]
    have hfetched : fetched (past ++ [f]) = fetched past := by simp [fetched, hv]
    refine ⟨?_, ?_⟩
    · rw [hanswered, after_append, hv]
      exact h.engine
    · rw [hfetched, after_append, hv]
      exact h.feeds
  | some v =>
    have hanswered : answered (past ++ [f]) = answered past ++ v.calls := by
      simp [answered, hv, hcalls v hv]
    have hfetched : fetched (past ++ [f]) = fetched past ++ v.fetched := by simp [fetched, hv]
    obtain ⟨asked, hasked, hasked', hsite⟩ :=
      Ingest.exists_foldl_requestsAfter hnetwork h.feeds (hspares v hv)
    have hrequests : (s.after (past ++ [f])).requests
        = (s.after past).requests ++ asked ++ v.calls.filterMap s.client.request? := by
      rw [after_append, hv, ← hasked, ← hnet, ← hclient]
      rfl
    have hown : ∀ r ∈ v.calls.filterMap s.client.request?, r.site = s.client.server.site := by
      intro r hr
      obtain ⟨c, -, hc⟩ := List.mem_filterMap.1 hr
      exact site_of_request? hc
    refine ⟨?_, fun other hother ↦ ?_⟩
    · rw [hrequests, hanswered, List.filterMap_append, ← List.append_assoc, List.filter_append,
        List.filter_append, h.engine, filter_site_eq_nil hsite, List.append_nil,
        ← List.filter_append]
    · have hnone := filter_site_eq_nil fun r hr ↦ (hown r hr).trans_ne hother.symm
      rw [hrequests, hfetched, List.foldl_append, hasked', List.filter_append, hnone,
        List.append_nil]
      exact h.feeds.append_right asked other hother

/-! ## Visits -/

/-- Whether a feed has nothing to do with the server of the engine, nor with files that are
visited. -/
structure FeedIsElsewhere (s : Session) (paths : List String) (address : String) : Prop where
  sparesSite : SparesSite s.network s.client.server.site address
  apart : ∀ path ∈ paths, ∀ feed ∈ Ingest.filePath? address, s.files.Apart path feed

theorem FeedIsElsewhere.of_subset {paths' : List String} {address : String}
    (h : s.FeedIsElsewhere paths address) (hsub : paths' ⊆ paths) :
    s.FeedIsElsewhere paths' address :=
  ⟨h.sparesSite, fun path hpath ↦ h.apart path (hsub hpath)⟩

private theorem freshen_around (hnetwork : s.network.IsLocal) (h : s.Parts past)
    {source : DataSource} (hspares : SparesSite s.network s.client.server.site source.url)
    (hfeed : ∀ feed ∈ Ingest.filePath? source.url,
      (s.after past).files.text? feed = s.files.text? feed) :
    Ingest.freshen config (s.around clock past source) source
      = Ingest.freshen config (s.outside.around clock past source) source := by
  obtain ⟨-, hclient, hnet⟩ := s.same_after past
  refine Ingest.freshen_congr rfl rfl ?fetch fun p _ _ ↦ ?runs
  case fetch =>
    show Ingest.fetch (s.after past).files (s.after past).network _ _ = _
    rw [hnet]
    exact Ingest.fetch_congr hnetwork h.feeds.symm hfeed hspares
  case runs =>
    obtain ⟨asked, hasked, hsite⟩ := hspares (s.after past).requests
    show p.run config.limits .prompt ((s.after past).client.engine (s.after past).network
        (Ingest.requestsAfter (s.after past).network (s.after past).requests source.url)) []
      = p.run config.limits .prompt (s.client.engine s.network s.requests) (answered past)
    rw [Ingest.Plan.run_eq_run_calls (.inr rfl), Ingest.Plan.run_eq_run_calls (.inr rfl), hclient,
      hnet, hasked]
    refine Search.Engine.run_congr (fun made c ↦ ?_) _
    rw [List.nil_append, Search.Client.engine, Search.Client.engine]
    cases hr : s.client.request? c with
    | none => rfl
    | some r =>
      -- the requests for the feed are not to the server of the engine
      refine congrArg c.answer (hnetwork _ _ r ?_)
      rw [site_of_request? hr, List.filter_append, List.filter_append, filter_site_eq_nil hsite,
        List.append_nil, h.engine, List.filterMap_append, ← List.append_assoc,
        ← List.filter_append]

/-- Files that are apart, with feeds that are elsewhere, are visited as if the feeds and the engine
did not know of each other. The induction is on the list of files from its end, since what the last
visit meets is the history of all the others. -/
private theorem parts_freshenFiles (hnetwork : s.network.IsLocal) (clock : Nat → Moment)
    (hapart : paths.Pairwise s.files.Apart)
    (hfeeds : ∀ path ∈ paths, ∀ source, readSource s.files path = .ok source →
      s.FeedIsElsewhere paths source.url) :
    let visits := freshenFiles config (s.outside.around clock) [] s.files paths
    freshenFiles config (s.around clock) [] s.files paths = visits ∧ s.Parts visits := by
  induction paths using List.reverseRecOn with
  | nil => exact ⟨rfl, ⟨by simp [after, answered, freshenFiles], fun _ _ ↦ rfl⟩⟩
  | append_singleton paths path ih =>
    obtain ⟨hpaths, -, hpath⟩ := List.pairwise_append.1 hapart
    have hbefore : paths ⊆ paths ++ [path] := List.subset_append_left _ _
    obtain ⟨hvisits, hparts⟩ := ih hpaths fun p hp source hsource ↦
      (hfeeds p (hbefore hp) source hsource).of_subset hbefore
    let visits := freshenFiles config (s.outside.around clock) [] s.files paths
    have hlast : path ∈ paths ++ [path] := List.mem_append_right _ List.mem_cons_self
    have hseen : s.files.SeenAlike path (filesAfter s.files visits) :=
      seenAlike_filesAfter (fun p hp ↦ hpath p hp path List.mem_cons_self) []
    have hsource : ∀ source, readSource (filesAfter s.files visits) path = .ok source →
        s.FeedIsElsewhere (paths ++ [path]) source.url := fun source h ↦
      hfeeds path hlast source ((readSource_of_seenAlike hseen).symm.trans h)
    have hvisit : visitFile config (s.around clock visits) .freshen (filesAfter s.files visits) path
        = visitFile config (s.outside.around clock visits) .freshen
          (filesAfter s.files visits) path := by
      refine visitFile_eq_of_visit_eq fun source h ↦ freshen_around hnetwork hparts
        (hsource source h).sparesSite fun feed hfeed ↦ ?_
      rw [files_after]
      exact (seenAlike_filesAfter (fun p hp ↦
        (hsource source h).apart p (hbefore hp) feed hfeed) []).text?_eq
    dsimp only
    rw [freshenFiles_concat, freshenFiles_concat, hvisits, List.nil_append, hvisit]
    refine ⟨rfl, parts_concat hnetwork hparts (fun v hv ↦ ?_) fun v hv address haddress ↦ ?_⟩
    · obtain ⟨source, -, rfl⟩ := exists_readSource_of_visit hv
      exact Ingest.answered_freshen_of_prompt rfl
    · obtain ⟨source, hread, rfl⟩ := exists_readSource_of_visit hv
      rw [(Ingest.namedAfter_freshen config _ source).fetched_eq address haddress]
      exact (hsource source hread).sparesSite

/-- A file that is freshened alone meets the same. -/
private theorem freshenFiles_singleton (hnetwork : s.network.IsLocal) (clock : Nat → Moment)
    {path : String} (hfeed : ∀ source, readSource s.files path = .ok source →
      s.FeedIsElsewhere [path] source.url) :
    freshenFiles config (s.around clock) [] s.files [path]
      = [s.outside.alone config s.files (clock 0) path] := by
  refine (parts_freshenFiles hnetwork clock (List.pairwise_singleton _ _) ?_).1
  rwa [List.forall_mem_singleton]

/-- If requests are always answered alike, all that a session meets is local. -/
theorem isLocal_outside_of_steady (h : ∀ past r, s.network past r = s.network [] r) :
    s.network.IsLocal ∧ s.outside.IsLocal := by
  refine ⟨fun past past' r _ ↦ (h past r).trans (h past' r).symm,
    fun _ _ address _ ↦ Ingest.fetch_eq_of_steady h _ _ address, fun past past' c _ ↦ ?_⟩
  show s.client.engine s.network s.requests past c = s.client.engine s.network s.requests past' c
  rw [Search.Client.engine, Search.Client.engine]
  cases s.client.request? c with
  | none => rfl
  | some r => simp only [h (s.requests ++ _)]

/-! ## Runs of the program -/

theorem code_freshen_eq_zero_iff {lookup : Settings.Lookup} {files : Files}
    {network : Http.Network} {settings : Settings} (clock : Nat → Moment) (paths : List String)
    (hsettings : Settings.ofLookup (EnvFile.inFolder files lookup) = .ok settings)
    (h : begin? settings network files = .ok s) :
    (Command.run lookup files network clock (.freshen paths)).code = 0 ↔
      ∀ f ∈ freshenFiles settings.ingest (s.around clock) [] files paths,
        ∃ o, f.result = .ok o := by
  obtain ⟨-, ⟨hcode, hall⟩ | ⟨hcode, f, hf, e, he⟩⟩ := run_freshen_of_begin clock paths hsettings h
  · exact iff_of_true hcode hall
  · refine iff_of_false (by rw [hcode]; exact Nat.one_ne_zero) fun hall ↦ ?_
    obtain ⟨o, ho⟩ := hall f hf
    cases he.symm.trans ho

/-- **A run freshens each source as a run for it alone does.** Servers know of their own requests
only, what is met outside is local, and the files are apart, with feeds that are elsewhere. Then a
run succeeds exactly if for each of its files the run for this file alone does, begun at the moment
at which it is the file's turn, and what it leaves in the file is what that run leaves there. -/
theorem run_freshen_eq_alone (lookup : Settings.Lookup) (files : Files) (network : Http.Network)
    (clock : Nat → Moment) (paths : List String) {settings : Settings}
    (hsettings : Settings.ofLookup (EnvFile.inFolder files lookup) = .ok settings)
    (h : begin? settings network files = .ok s) (hnetwork : network.IsLocal)
    (hlocal : s.outside.IsLocal) (hapart : paths.Pairwise (s.outside.Apart settings.ingest files))
    (hfeeds : ∀ path ∈ paths, ∀ source, readSource files path = .ok source →
      s.FeedIsElsewhere paths source.url) :
    let together := Command.run lookup files network clock (.freshen paths)
    let alone (i : Nat) (path : String) :=
      Command.run lookup files network (fun _ ↦ clock i) (.freshen [path])
    (together.code = 0 ↔ ∀ i path, paths[i]? = some path → (alone i path).code = 0) ∧
      ∀ i path, paths[i]? = some path →
        together.files.text? path = (alone i path).files.text? path := by
  intro together alone
  obtain ⟨-, rfl, rfl⟩ := begin?_eq_ok h
  let visits := freshenFiles settings.ingest (s.outside.around clock) [] s.files paths
  have htogether : freshenFiles settings.ingest (s.around clock) [] s.files paths = visits :=
    (parts_freshenFiles hnetwork clock (hapart.imp And.left) hfeeds).1
  have halone : ∀ i path, paths[i]? = some path →
      freshenFiles settings.ingest (s.around fun _ ↦ clock i) [] s.files [path]
        = [s.outside.alone settings.ingest s.files (clock i) path] := fun i path hi ↦ by
    have hpath := List.mem_of_getElem? hi
    exact freshenFiles_singleton hnetwork _ fun source hsource ↦
      (hfeeds path hpath source hsource).of_subset (by simpa using hpath)
  have hvisit := fun i path (hi : paths[i]? = some path) ↦
    Outside.exists_visit_eq_alone hlocal clock hapart hi
  have hcode : ∀ i path, paths[i]? = some path → ((alone i path).code = 0 ↔
      ∃ o, (s.outside.alone settings.ingest s.files (clock i) path).result = .ok o) := by
    intro i path hi
    rw [code_freshen_eq_zero_iff _ _ hsettings h, halone i path hi, List.forall_mem_singleton]
  refine ⟨?_, fun i path hi ↦ ?_⟩
  · rw [code_freshen_eq_zero_iff clock paths hsettings h, htogether]
    constructor
    · intro hall i path hi
      obtain ⟨f, hf, hresult, -⟩ := hvisit i path hi
      rw [hcode i path hi, ← hresult]
      exact hall f (List.mem_of_getElem? hf)
    · intro hall f hf
      obtain ⟨i, hi⟩ := List.mem_iff_getElem?.1 hf
      obtain ⟨path, hpath, -⟩ := Option.map_eq_some_iff.1
        ((getElem?_freshenFiles settings.ingest _ [] s.files paths i).symm.trans hi)
      obtain ⟨f', hf', hresult, -⟩ := hvisit i path hpath
      obtain rfl : f' = f := Option.some.inj (hf'.symm.trans hi)
      rw [hresult, ← hcode i path hpath]
      exact hall i path hpath
  · obtain ⟨f, -, -, -, htext⟩ := hvisit i path hi
    rw [(run_freshen_of_begin clock paths hsettings h).1, htogether, htext,
      (run_freshen_of_begin _ [path] hsettings h).1, halone i path hi]
    rfl

/-- One feed lies on a server of its own and the other in a file that is not there. Every server
answers everything with the same report. -/
theorem run_freshen_eq_alone_of_wellReport :
    let jobs : DataSource := .register "jobs" 1 "http://feeds/jobs.json" ""
    let works : DataSource := .register "works" 1 "works.csv" ""
    let files : Files := { entries := [(["jobs.json"], .file (Text.Utf8.encode jobs.save)),
      (["works.json"], .file (Text.Utf8.encode works.save))] }
    let lookup : Settings.Lookup := fun _ ↦ none
    let network : Http.Network := fun _ _ ↦ some wellReport
    let clock : Nat → Moment := fun n ↦ (⟨n, 0⟩, ⟨n + 1, 0⟩)
    (Command.run lookup files network clock (.freshen ["jobs.json", "works.json"])).files.text?
        "works.json"
      = (Command.run lookup files network (fun _ ↦ clock 1) (.freshen ["works.json"])).files.text?
        "works.json" := by
  intro jobs works files lookup network clock
  have hjobs : readSource files "jobs.json" = .ok jobs :=
    readSource_of_lookup (DataSource.storable_register (by decide))
      (show _ = some ["jobs.json"] by decide +kernel) rfl
  have hworks : readSource files "works.json" = .ok works :=
    readSource_of_lookup (DataSource.storable_register (by decide))
      (show _ = some ["works.json"] by decide +kernel) rfl
  have hfile : EnvFile.text? files = none := by decide +kernel
  obtain ⟨settings, s, hsettings, hs, hsite⟩ := exists_begin_standard network hfile fun _ ↦ rfl
  obtain ⟨-, hfiles, hnetwork⟩ := begin?_eq_ok hs
  have hlocal := isLocal_outside_of_steady (s := s) fun past r ↦ by rw [hnetwork]
  rw [hnetwork] at hlocal
  refine (run_freshen_eq_alone lookup files network clock _ hsettings hs hlocal.1 hlocal.2 ?_ ?_).2
    1 "works.json" rfl
  · refine List.pairwise_pair.2 ⟨Files.apart_of_resolve?_ne (by decide +kernel),
      fun s s' hs hs' ↦ ?_⟩
    cases hjobs.symm.trans hs
    cases hworks.symm.trans hs'
    refine ⟨?_, fun h ↦ ?_, fun h ↦ absurd h (by decide +kernel)⟩
    · exact Naming.indexName_ne (by decide +kernel) (by decide +kernel) (by decide +kernel)
    · exact absurd (Naming.pipelineId_inj.1 h).1 (by decide +kernel)
  · rw [List.forall_mem_cons, List.forall_mem_singleton]
    refine ⟨fun source hsource ↦ ?_, fun source hsource ↦ ?_⟩
    · cases hjobs.symm.trans hsource
      have hpath : Ingest.filePath? jobs.url = none := by decide +kernel
      have hrequest : Ingest.webRequest? jobs.url
          = some ⟨⟨"http", "feeds", none⟩, "GET", "/jobs.json", ""⟩ := by decide +kernel
      refine ⟨fun past ↦ ⟨[_], by rw [hnetwork, Ingest.requestsAfter, hpath, hrequest]; rfl, ?_⟩,
        fun _ _ feed hfeed ↦ ?_⟩
      · rw [List.forall_mem_singleton, hsite]
        decide
      · rw [hpath] at hfeed
        cases hfeed
    · cases hworks.symm.trans hsource
      have hpath : Ingest.filePath? works.url = some "works.csv" := by decide +kernel
      refine ⟨fun past ↦ ⟨[], by rw [Ingest.requestsAfter, hpath, List.append_nil], by simp⟩,
        fun path hp feed hfeed ↦ Files.apart_of_resolve?_ne ?_⟩
      rw [hpath] at hfeed
      cases hfeed
      rw [hfiles]
      revert path
      decide +kernel

end FeedHarvest.Session
