import FeedHarvest.Http.Address
import FeedHarvest.Http.Status

/-!
# Requests and responses

A network is whatever answers requests, each in the light of those before it; a request may also
have no answer.
-/

namespace FeedHarvest.Http

structure Request where
  site : Site
  method : String
  /-- The path, and what is asked of it. -/
  target : String
  body : String := ""
  deriving DecidableEq, Repr

structure Response where
  status : Nat
  /-- The bytes of the body, unless it breaks off. -/
  body : Option (List UInt8)
  /-- Where the answer is to be found instead. -/
  location : Option String := none
  deriving DecidableEq, Repr

/-- The response's text; bytes that are no text are replaced, and a byte-order mark is left out. -/
def Response.text? (r : Response) : Option String :=
  r.body.map fun
    | 0xEF :: 0xBB :: 0xBF :: bytes => Text.Utf8.decode bytes
    | bytes => Text.Utf8.decode bytes

/-- A network answers a request in the light of the requests before it, which stand in order. -/
abbrev Network := List Request → Request → Option Response

def silence : Network := fun _ _ ↦ none

/-- The network that answers requests in order from a list; a missing response is none at all, and
behind the list's end everything is found and empty. -/
def scripted (responses : List (Option Response)) : Network := fun past _ ↦
  (responses[past.length]?).getD (some ⟨200, some [0x7B, 0x7D], none⟩)

end FeedHarvest.Http
