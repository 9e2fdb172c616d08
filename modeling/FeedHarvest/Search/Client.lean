import FeedHarvest.Http.Address
import FeedHarvest.Http.Exchange
import FeedHarvest.Json.Reader
import FeedHarvest.Search.Call
import FeedHarvest.Search.Index

/-!
# The search engine over a network

A call is one request to the server, and its answer is read off the response. So the client is two
functions: what a call sends, and what a response to it means. Storing no documents sends nothing.

A response is acceptable if its status means success; what is deleted may also be missing already.
The answer to stored documents must say that there were no errors, and the answer to a query how
much it deleted, so these must be JSON.
-/

namespace FeedHarvest.Search

/-! ## Requests -/

/-- A text with all bytes percent-encoded but those of letters, digits and the given marks. -/
def percentEncodeBut (marks : List Char) (s : String) : List Char :=
  (Text.Utf8.encode s).flatMap fun b ↦
    let c := Char.ofNat b.toNat
    if b < 0x80 && (c.isAlphanum || marks.contains c) then [c] else Http.percentByte b

def pathPart (s : String) : List Char := percentEncodeBut ['_', '-', '.', ',', '*'] s

/-- A text as a value in a query, where a space is a plus sign. -/
def queryValue (s : String) : List Char :=
  s.toList.flatMap fun c ↦
    if c == ' ' then ['+'] else percentEncodeBut ['_', '-', '.', '*'] c.toString

/-- The path of parts below the server's own path. -/
def pathOf (server : Http.Address) (parts : List (List Char)) : String :=
  server.path ++ String.ofList ((Http.withoutPoints parts).flatMap ('/' :: ·))

/-- A document as two lines: where it goes, and what it holds. -/
def documentLines (d : Document) : List String :=
  [(Json.object [("index", .object [("_id", .string d.id)])]).compact, d.body.compact]

/-- The lines of documents, each with its end. -/
def bulkBody (ds : List Document) : String :=
  String.join ((ds.flatMap documentLines).map (· ++ "\n"))

/-- What a client knows: its server, and how many copies of an index are kept. -/
structure Client where
  server : Http.Address
  replicas : Nat := 1

namespace Client

def connect (address : String) (replicas : Nat) : Except Error Client :=
  match Http.Address.parse? address with
  | some server => .ok ⟨server, replicas⟩
  | none => .error ⟨.connection, .unspoken⟩

/-- A request to the server, for the path of parts. -/
def request (client : Client) (method : String) (parts : List (List Char))
    (query : String := "") (body : String := "") : Http.Request :=
  ⟨client.server.site, method, pathOf client.server parts ++ query, body⟩

def pipelinePath (id : String) : List (List Char) :=
  ["_ingest".toList, "pipeline".toList, pathPart id]

/-- The request that a call sends, if it sends any. -/
def request? (client : Client) : Call → Option Http.Request
  | .deleteIndex i => some (client.request "DELETE" [pathPart i])
  | .deletePipeline id => some (client.request "DELETE" (pipelinePath id))
  | .putPipeline id p => some (client.request "PUT" (pipelinePath id) "" p.toJson.compact)
  | .createIndex i =>
    some (client.request "PUT" [pathPart i] "" (indexSettings client.replicas).compact)
  | .bulkIndex i p ds =>
    if ds.isEmpty then none
    else some (client.request "POST" [pathPart i, "_bulk".toList]
      ("?pipeline=" ++ String.ofList (queryValue p)) (bulkBody ds))
  | .deleteOlderThan i f cutoff =>
    some (client.request "POST" [pathPart i, "_delete_by_query".toList]
      "?conflicts=proceed" (olderThan f cutoff).compact)
  | .refreshIndex i => some (client.request "POST" [pathPart i, "_refresh".toList])

/-- The request that asks how the server is. -/
def healthRequest (client : Client) : Http.Request :=
  client.request "GET" ["_cluster".toList, "health".toList]

end Client

/-! ## Responses -/

def jsonOf? (r : Http.Response) : Option Json := do
  Json.parse? (← Text.Utf8.decode? (← r.body)).toList

/-- Whether a call may find nothing to do. -/
def Call.mayMiss : Call → Bool
  | .deleteIndex _ | .deletePipeline _ => true
  | _ => false

/-- Whether a response's status is acceptable. -/
def Call.accepts (c : Call) (status : Nat) : Bool :=
  Http.isSuccess status || (c.mayMiss && status == 404)

/-- A document's refusal in an item of a response. -/
def refusalOf? (item : Json) : Option Refusal :=
  let action := (item.get? "index").getD .null
  match (action.get? "error").getD .null with
  | .null => none
  | e => some ⟨((action.get? "_id").bind Json.asString?).getD "?",
      ((e.get? "reason").bind Json.asString?).getD "unknown reason"⟩

/-- The refusals in a response that speaks of errors. -/
def refusals? (v : Json) : Option (List Refusal) :=
  if (v.get? "errors").bind Json.asBool? == some true then
    some ((((v.get? "items").bind Json.asArray?).getD []).filterMap refusalOf?)
  else none

def Call.readBody (c : Call) (r : Http.Response) : Answer :=
  match c with
  | .bulkIndex .. =>
    match jsonOf? r with
    | none => .error ⟨.answer, .unspoken⟩
    | some v =>
      match refusals? v with
      | some rs => .error ⟨.bulkIndexing, .refused rs⟩
      | none => .ok 0
  | .deleteOlderThan .. =>
    match jsonOf? r with
    | none => .error ⟨.answer, .unspoken⟩
    | some v => .ok (((v.get? "deleted").bind Json.asNat?).getD 0)
  | _ => .ok 0

def Call.answer (c : Call) : Option Http.Response → Answer
  | none => .error ⟨c.errorKind, .unspoken⟩
  | some r =>
    if c.accepts r.status then c.readBody r
    else .error ⟨c.errorKind, .status r.status (r.text?.getD "")⟩

/-- What a response about the server's health means. -/
def healthOf : Option Http.Response → Except Error Bool
  | none => .error ⟨.connection, .unspoken⟩
  | some r =>
    if !Http.isSuccess r.status then .ok false
    else match jsonOf? r with
      | none => .error ⟨.answer, .unspoken⟩
      | some v =>
        let status := ((v.get? "status").bind Json.asString?).getD ""
        .ok (status == "green" || status == "yellow")

/-! ## The engine behind a network -/

/-- The engine that a client reaches; `before` are the requests made before its first call. -/
def Client.engine (client : Client) (network : Http.Network) (before : List Http.Request) :
    Engine :=
  fun past c ↦
    match client.request? c with
    | none => .ok 0
    | some r => c.answer (network (before ++ past.filterMap client.request?) r)

end FeedHarvest.Search
