import FeedHarvest.Record.Basic
import FeedHarvest.Text.Blank
import FeedHarvest.Xml.Event

/-!
# XML feeds

Every child of the document's root is a record. Its attributes are fields, and so are its children,
each with the text found anywhere inside it. A field that occurs again becomes an array of all its
values, an attribute of that name first.

Records are read off the events by depth: a record is open from depth two on, a field from depth
three on. Text elsewhere is ignored, as are the attributes of all other elements, even malformed
ones.
-/

namespace FeedHarvest.Feed.Markup

/-- What can be wrong with an XML feed. -/
inductive Flaw where
  /-- The text or one of its references is malformed. -/
  | malformed
  /-- The attributes of a record are malformed. -/
  | attributes
  /-- The text ends inside an element. -/
  | unclosed
  deriving DecidableEq, Repr

/-- What has been read: the finished records, the latest first, and what is still open. -/
structure Reading where
  records : List Record := []
  record : Option Record := none
  field : Option (String × List Char) := none
  depth : Nat := 0

/-- The fields that attributes make, by local name; the last of one name counts. -/
def attributeFields (cs : List Char) : Except Flaw Record :=
  match Xml.attributes? cs with
  | some as =>
    .ok (Json.Members.ofList (as.map fun (k, v) ↦
      (String.ofList (Xml.localName k), .string (String.ofList v))))
  | none => .error .attributes

/-- A chunk of text put behind a field's text, with a space between them. -/
def addText (value chunk : List Char) : List Char :=
  if chunk.isEmpty then value
  else if value.isEmpty then chunk
  else value ++ ' ' :: chunk

def addField (r : Record) (key : String) (value : String) : Record :=
  r.insert key (match r.get? key with
    | some (.array vs) => .array (vs ++ [.string value])
    | some v => .array [v, .string value]
    | none => .string value)

/-- The local name of an element. -/
def nameOf (name : List Char) : String := String.ofList (Xml.localName name)

namespace Reading

def start (r : Reading) (name attributes : List Char) : Except Flaw Reading :=
  let r := { r with depth := r.depth + 1 }
  match r.depth with
  | 2 => do return { r with record := some (← attributeFields attributes) }
  | 3 => .ok { r with field := some (nameOf name, []) }
  | _ => .ok r

def empty (r : Reading) (name attributes : List Char) : Except Flaw Reading :=
  match r.depth + 1 with
  | 2 => do return { r with records := (← attributeFields attributes) :: r.records }
  | 3 => .ok { r with record := r.record.map (addField · (nameOf name) "") }
  | _ => .ok r

/-- A chunk of text. -/
def addChunk (r : Reading) (chunk : List Char) : Reading :=
  { r with field := r.field.map fun (key, value) ↦ (key, addText value chunk) }

def finish (r : Reading) : Reading :=
  let outer := { r with depth := r.depth - 1 }
  match r.depth with
  | 3 =>
    let add (record : Record) : Record := match r.field with
      | some (key, value) => addField record key (String.ofList value)
      | none => record
    { outer with record := r.record.map add, field := none }
  | 2 => { outer with records := r.record.toList ++ r.records, record := none }
  | _ => outer

/-- What an event does. References count only inside a field. -/
def step (r : Reading) : Xml.Event → Except Flaw Reading
  | .start name attributes => r.start name attributes
  | .empty name attributes => r.empty name attributes
  | .text raw =>
    if r.field.isNone then .ok r
    else match Xml.unescape? raw with
      | some text => .ok (r.addChunk text)
      | none => .error .malformed
  | .literal text => .ok (r.addChunk (Text.trim text))
  | .finish => .ok r.finish
  | .other => .ok r
  | .fault => .error .malformed

end Reading

/-- The records that a sequence of events makes. -/
def recordsOf (es : List Xml.Event) : Except Flaw (List Record) := do
  let r ← es.foldlM Reading.step {}
  if r.depth = 0 then .ok r.records.reverse else .error .unclosed

def records (cs : List Char) : Except Flaw (List Record) := recordsOf (Xml.events cs)

end FeedHarvest.Feed.Markup
