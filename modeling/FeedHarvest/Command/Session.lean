import FeedHarvest.Command.Error
import FeedHarvest.DataSource.Saved
import FeedHarvest.Ingest.Fetch
import FeedHarvest.Ingest.Visit
import FeedHarvest.Search.Client

/-!
# Sessions

A session works on data sources that are kept in files, with a search engine that has said that it
is well. A visit reads the source, does its work, and writes the source back whatever came of the
work: a source that is left dirty must be found dirty by the next session. A file that holds no
source is left alone, and nobody is asked anything.
-/

namespace FeedHarvest

/-- What a session works with. -/
structure Session where
  settings : Settings
  client : Search.Client
  network : Http.Network
  files : Files
  /-- The requests made so far, in order. -/
  requests : List Http.Request := []

/-- Two readings of the clock: one after a feed is fetched, one for the run. -/
abbrev Moment := Time.Instant × Time.Instant

namespace Session

/-- Begins a session if the search engine is well. -/
def begin? (settings : Settings) (network : Http.Network) (files : Files) :
    Except CommandError Session := do
  let client ← (Search.Client.connect settings.engineAddress settings.replicas).mapError .engine
  let healthy ← (Search.healthOf (network [] client.healthRequest)).mapError .engine
  if healthy then return { settings, client, network, files, requests := [client.healthRequest] }
  else throw .unhealthy

/-- The requests that beginning a session makes. -/
def requestsToBegin (settings : Settings) : List Http.Request :=
  match Search.Client.connect settings.engineAddress settings.replicas with
  | .ok client => [client.healthRequest]
  | .error _ => []

def readSource (files : Files) (path : String) : Except CommandError DataSource :=
  match files.text? path with
  | none => .error .file
  | some text =>
    match DataSource.load? text with
    | some s => .ok s
    | none => .error .format

def writeSource (files : Files) (path : String) (source : DataSource) : Except CommandError Files :=
  match files.write? path source.save with
  | some fs => .ok fs
  | none => .error .file

/-- What a visit to the source in a file leaves behind. -/
structure FileVisit where
  files : Files
  result : Except CommandError Ingest.Outcome
  /-- The visit, if the file held a source. -/
  visit : Option Ingest.Visit := none

/-- Visits the source in a file, with what its visit meets outside, and writes it back. -/
def visitFile (config : Ingest.Config) (world : DataSource → Ingest.World)
    (errand : Ingest.Errand) (files : Files) (path : String) : FileVisit :=
  match readSource files path with
  | .error e => { files, result := .error e }
  | .ok source =>
    let v := Ingest.visit config (world source) errand source
    match writeSource files path v.source with
    | .error e => { files, result := .error e, visit := some v }
    | .ok files => { files, result := v.result.mapError .ingest, visit := some v }

/-- What a visit in this session meets outside. -/
def world (s : Session) (moment : Moment) (errand : Ingest.Errand) (source : DataSource) :
    Ingest.World :=
  let before := match errand with
    | .freshen => Ingest.requestsAfter s.network s.requests source.url
    | _ => s.requests
  { fetch := Ingest.fetch s.files s.network s.requests
    engine := s.client.engine s.network before
    fetchedAt := moment.1, runAt := moment.2 }

/-- The session after a visit has made its requests. -/
def afterVisit (s : Session) (v : Ingest.Visit) : Session :=
  { s with
    requests := v.fetched.foldl (Ingest.requestsAfter s.network) s.requests ++
      v.calls.filterMap s.client.request? }

/-- Visits the source in a file and writes it back. -/
def visit (s : Session) (moment : Moment) (errand : Ingest.Errand) (path : String) :
    Session × Except CommandError Ingest.Outcome :=
  let f := visitFile s.settings.ingest (s.world moment errand) errand s.files path
  let after := match f.visit with
    | none => s
    | some v => s.afterVisit v
  ({ after with files := f.files }, f.result)

/-- Reads the source in a file and writes it back as it is. -/
def resave (s : Session) (path : String) : Session × Except CommandError Unit :=
  match readSource s.files path with
  | .error e => (s, .error e)
  | .ok source =>
    match writeSource s.files path source with
    | .error e => (s, .error e)
    | .ok files => ({ s with files }, .ok ())

/-- Freshens the sources in files, one after the other whatever comes of each. The clock is read
anew for each of them. -/
def freshenAll (clock : Nat → Moment) :
    Nat → List String → Session → Session × List (Except CommandError Ingest.Outcome)
  | _, [], s => (s, [])
  | n, path :: paths, s =>
    let (s, result) := s.visit (clock n) .freshen path
    let (s, results) := freshenAll clock (n + 1) paths s
    (s, result :: results)

end Session

end FeedHarvest
