import FeedHarvest.Files
import FeedHarvest.Http.Exchange
import FeedHarvest.Ingest.Error

/-!
# Fetching

A feed lies on a web server or in a file. Addresses of the web begin with their scheme in small
letters; everything else is a path, with or without the scheme of files. A server may refer to
another place a few times.
-/

namespace FeedHarvest.Ingest

/-- The path of a file that an address names, if it is not one of the web. -/
def filePath? (address : String) : Option String :=
  if address.startsWith "http://" || address.startsWith "https://" then none
  else if address.startsWith "file://" then some (address.drop 7).toString
  else some address

/-- The request for an address of the web. -/
def webRequest? (address : String) : Option Http.Request :=
  (Http.Address.parse? address).map fun a ↦ ⟨a.site, "GET", a.target, ""⟩

/-- The request for what a reference means beside a request: a whole address, one without a scheme,
a path, or a path from the same folder. -/
def referredBy (request : Http.Request) (reference : String) : Http.Request :=
  let whole :=
    if reference.startsWith "//" then request.site.scheme ++ ":" ++ reference else reference
  match Http.Address.parse? whole with
  | some a => ⟨a.site, "GET", a.target, ""⟩
  | none =>
    let path := request.target.toList.takeWhile (· != '?')
    let folder := (path.reverse.dropWhile (· != '/')).reverse
    let path := if reference.startsWith "/" then reference.toList else folder ++ reference.toList
    ⟨request.site, "GET", Http.targetOf path, ""⟩

/-- The request for what a response to a request refers to. -/
def referred? (request : Http.Request) (r : Http.Response) : Option Http.Request :=
  if [301, 302, 303, 307, 308].contains r.status then r.location.map (referredBy request) else none

/-- Asks for a page, and follows up to `n` references. The answer comes with the requests made. -/
def askWeb (network : Http.Network) : Nat → List Http.Request → Http.Request →
    Option Http.Response × List Http.Request
  | 0, past, _ => (none, past)
  | n + 1, past, request =>
    match network past request with
    | none => (none, past ++ [request])
    | some r =>
      match referred? request r with
      | some next => askWeb network n (past ++ [request]) next
      | none => (some r, past ++ [request])

/-- How many requests are made for a page at most. -/
def maxRequests : Nat := 11

/-- The requests made so far when an address has been fetched from, given those before. -/
def requestsAfter (network : Http.Network) (past : List Http.Request) (address : String) :
    List Http.Request :=
  match filePath? address, webRequest? address with
  | none, some r => (askWeb network maxRequests past r).2
  | _, _ => past

def fetch (files : Files) (network : Http.Network) (past : List Http.Request) (address : String) :
    Except FetchError String :=
  match filePath? address with
  | some path =>
    match files.text? path with
    | some text => .ok text
    | none => .error (.file path)
  | none =>
    match webRequest? address with
    | none => .error .unspoken
    | some request =>
      match (askWeb network maxRequests past request).1 with
      | none => .error .unspoken
      | some r =>
        if !Http.isSuccess r.status then .error (.status address r.status)
        else match r.text? with
          | some text => .ok text
          | none => .error .unspoken

end FeedHarvest.Ingest
