import FeedHarvest.Http.Exchange
import FeedHarvest.Text.Blank

/-!
# Requests and responses on the wire

A request is a few lines and its body. It asks for the older version of the protocol, in which a
server closes the connection behind its response and sends the body in one piece: so a response is
everything that arrives. Headers are lines too, and a header that gives the length of the body shows
whether the body broke off.
-/

namespace FeedHarvest.Http

open FeedHarvest.Text

/-- The port of a site, which its scheme implies when it is not given. -/
def Site.portInForce (s : Site) : Nat := s.port.getD (if s.scheme == "https" then 443 else 80)

def Site.authority (s : Site) : String :=
  s.host ++ match s.port with
    | some p => ":" ++ toString p
    | none => ""

def Request.wire (r : Request) : List UInt8 :=
  let body := Utf8.encode r.body
  let bodyLines :=
    if body.isEmpty then []
    else ["Content-Type: application/json", "Content-Length: " ++ toString body.length]
  let lines :=
    [r.method ++ " " ++ r.target ++ " HTTP/1.0", "Host: " ++ r.site.authority] ++ bodyLines
  Utf8.encode (String.join ((lines ++ [""]).map (· ++ "\r\n"))) ++ body

namespace Response

/-- The bytes before an empty line, and those behind it. -/
def splitHead : List UInt8 → Option (List UInt8 × List UInt8)
  | 0x0D :: 0x0A :: 0x0D :: 0x0A :: body => some ([], body)
  | b :: bs => (splitHead bs).map fun (head, body) ↦ (b :: head, body)
  | [] => none

/-- The name of a header in small letters, and what it says. -/
def header? (line : List Char) : Option (String × String) :=
  match line.dropWhile (· != ':') with
  | _ :: value =>
    some (String.ofList ((line.takeWhile (· != ':')).map Char.toLower),
      String.ofList (Text.trim value))
  | [] => none

/-- The status in the first line of a response. -/
def status? (line : List Char) : Option Nat :=
  match line.splitOn ' ' with
  | _ :: code :: _ => natOfDecimal? code
  | _ => none

/-- The bytes of a body up to its length, unless it breaks off before. -/
def bodyOf (length : Option Nat) (bytes : List UInt8) : Option (List UInt8) :=
  match length with
  | none => some bytes
  | some n => if n ≤ bytes.length then some (bytes.take n) else none

def ofWire? (bytes : List UInt8) : Option Response := do
  let (head, body) ← splitHead bytes
  let lines := ((head.map fun b ↦ Char.ofNat b.toNat).filter (· != '\r')).splitOn '\n'
  let headers := (lines.drop 1).filterMap header?
  let length := (headers.lookup "content-length").bind fun n ↦ natOfDecimal? n.toList
  return { status := ← status? (lines.headD []), body := bodyOf length body
           location := headers.lookup "location" }

end Response

end FeedHarvest.Http
