import FeedHarvest.Text.Utf8

/-!
# Files

A tree of folders and files, and the folder in which one is. A path names an entry by the parts
between its slashes: empty parts and single points mean nothing, two points lead out of a folder,
and a path that begins with a slash begins at the tree's root. Nothing lies inside a file.
-/

namespace FeedHarvest

/-- What a path may lead to. -/
inductive Entry where
  | file (bytes : List UInt8)
  | folder
  deriving DecidableEq, Repr

/-- Entries by the parts of their paths from the root; folders on the way to an entry need no entry.
-/
structure Files where
  entries : List (List String × Entry)
  /-- The folder in which one is. -/
  here : List String := []
  deriving DecidableEq, Repr

namespace Files

def isFolder (fs : Files) (parts : List String) : Bool :=
  parts.isPrefixOf fs.here || fs.entries.any fun (p, e) ↦
    (p == parts && e == .folder) || (parts.isPrefixOf p && p != parts)

def further (parts : List String) (part : String) : List String :=
  if part == "" || part == "." then parts
  else if part == ".." then parts.dropLast
  else parts ++ [part]

/-- One part further from a folder. -/
def enter? (fs : Files) (parts : List String) (part : String) : Option (List String) :=
  if fs.isFolder parts then some (further parts part) else none

/-- Where a path begins, and its parts. -/
def walk (fs : Files) (path : String) : List String × List String :=
  (if path.startsWith "/" then [] else fs.here, (path.toList.splitOn '/').map String.ofList)

/-- Where a path leads, be there an entry or not. -/
def resolve? (fs : Files) (path : String) : Option (List String) :=
  if path.isEmpty || path.toList.contains '\x00' then none
  else
    let (start, parts) := fs.walk path
    parts.foldlM fs.enter? start

def bytes? (fs : Files) (path : String) : Option (List UInt8) := do
  match fs.entries.lookup (← fs.resolve? path) with
  | some (.file bytes) => some bytes
  | _ => none

/-- The text of a file, if it is text. -/
def text? (fs : Files) (path : String) : Option String := (fs.bytes? path).bind Text.Utf8.decode?

def put (parts : List String) (e : Entry) : List (List String × Entry) → List (List String × Entry)
  | [] => [(parts, e)]
  | (p, d) :: rest => if p = parts then (p, e) :: rest else (p, d) :: put parts e rest

/-- The tree with a text written to a file, if the path can lead to one. -/
def write? (fs : Files) (path text : String) : Option Files := do
  let parts ← fs.resolve? path
  if fs.isFolder parts || !fs.isFolder parts.dropLast then none
  else some { fs with entries := put parts (.file (Text.Utf8.encode text)) fs.entries }

/-- The tree with an entry where a path leads, and with the folders on the way. -/
def withEntry (fs : Files) (path : String) (e : Entry) : Files :=
  let (start, parts) := fs.walk path
  let folders := (List.range parts.length).map fun n ↦ (parts.take n).foldl further start
  let entries := folders.foldl (fun es f ↦ put f .folder es) fs.entries
  { fs with entries := put (parts.foldl further start) e entries }

end Files

end FeedHarvest
