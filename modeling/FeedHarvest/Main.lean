import FeedHarvest.Command.Run
import FeedHarvest.Http.Wire
import Std.Async.DNS
import Std.Async.TCP
import Std.Time

/-!
# The program

What a run does follows from its arguments, its environment, the files, the clock and the answers of
the network. This module only fetches these and carries out what the run decides.

A run cannot go on without the answer to a request, but it says which requests it made. So it is
started with no answers, and again with one more answer as long as it makes a request that has none;
each request is sent once, and the last run has had them all. The files are written when it is over.
-/

namespace FeedHarvest.Program

open Std.Async

/-! ## Files and environment -/

/-- The tree with a file that is read from disk, if there is one. -/
def readInto (files : Files) (path : String) : IO Files := do
  match ← (IO.FS.readBinFile path).toBaseIO with
  | .ok bytes => return files.withEntry path (.file bytes.toList)
  | .error _ => return files

/-- The files that a command may read: its own, those of the environment, and the feeds on disk. -/
def readFiles (command : Command) : IO Files := do
  let here := (List.splitOn '/' (← IO.currentDir).toString.toList).map String.ofList
  let start : Files := { entries := [], here := here.filter (!·.isEmpty) }
  let files ← (EnvFile.paths start.here ++ command.paths).foldlM readInto start
  let feeds := command.paths.filterMap fun path ↦
    (Session.readSource files path).toOption.bind fun s ↦ Ingest.filePath? s.url
  feeds.foldlM readInto files

/-- The words of a text that could be names of variables. -/
def namesIn (text : String) : List String :=
  let isPart (c : Char) : Bool := c.isAlphanum || c == '_'
  (List.splitOn ' ' (text.toList.map fun c ↦ if isPart c then c else ' ')).map String.ofList

/-- The variables that settings or their file may refer to. -/
def readEnvironment (files : Files) : IO Settings.Lookup := do
  let names := Settings.variableNames ++ namesIn ((EnvFile.text? files).getD "")
  let values ← names.filterMapM fun name ↦ do return (← IO.getEnv name).map (name, ·)
  return fun name ↦ values.lookup name

/-- Writes the files of some paths that have become others, and says whether that went well. -/
def writeFiles (before after : Files) (paths : List String) : IO Bool := do
  let changed : List String := paths.filter fun path ↦ before.bytes? path != after.bytes? path
  let results ← changed.mapM fun (path : String) ↦
    (IO.FS.writeBinFile path ⟨((after.bytes? path).getD []).toArray⟩).toBaseIO
  return results.all fun r ↦ r.toOption.isSome

/-! ## Network and clock -/

/-- The bytes that a server sends before it closes the connection. -/
partial def receive (socket : TCP.Socket.Client) (received : ByteArray) : IO ByteArray := do
  match ← (socket.recv? 65536).block with
  | some bytes => receive socket (received ++ bytes)
  | none => return received

/-- Sends a request and reads the response. Sites that ask for encryption are not reached. -/
def send (request : Http.Request) : IO Http.Response := do
  let site := request.site
  if site.scheme != "http" then throw (IO.userError "the site asks for encryption")
  let host := String.ofList (site.host.toList.filter fun c ↦ c != '[' && c != ']')
  let some address := (← (DNS.getAddrInfo host (toString site.portInForce)).block)[0]?
    | throw (IO.userError "the site has no address")
  let port := site.portInForce.toUInt16
  let socket ← TCP.Socket.Client.mk
  (socket.connect (match address with
    | .v4 a => .v4 ⟨a, port⟩
    | .v6 a => .v6 ⟨a, port⟩)).block
  (socket.send ⟨request.wire.toArray⟩).block
  match Http.Response.ofWire? (← receive socket .empty).toList with
  | some response => return response
  | none => throw (IO.userError "the answer is no response")

/-- The network that gives some answers in order, and then none. -/
def replay (answers : List (Option Http.Response)) : Http.Network := fun past _ ↦
  (answers[past.length]?).join

/-- Runs with the answers so far until no request lacks one. -/
partial def settle (run : Http.Network → Finished) (answers : List (Option Http.Response)) :
    IO Finished := do
  let done := run (replay answers)
  match done.requests[answers.length]? with
  | none => return done
  | some request =>
    let answer ← (send request).toBaseIO
    settle run (answers ++ [answer.toOption])

def now : IO Time.Instant := do
  let nanos := (← Std.Time.Timestamp.now).toNanosecondsSinceUnixEpoch.val
  return ⟨nanos / 1000000000, (nanos % 1000000000).toNat⟩

def perform (args : List String) : IO UInt32 := do
  match Command.parse args with
  | .error .help => return 0
  | .error .misuse => return 2
  | .ok command =>
    let files ← readFiles command
    let lookup ← readEnvironment files
    let time ← now
    let done ← settle (fun network ↦ command.run lookup files network fun _ ↦ (time, time)) []
    let isWritten ← writeFiles files done.files command.paths
    IO.print done.output
    return if isWritten then UInt32.ofNat done.code else 1

end FeedHarvest.Program

def main (args : List String) : IO UInt32 := FeedHarvest.Program.perform args
