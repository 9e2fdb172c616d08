import FeedHarvest.Json.Token

/-!
# JSON text as a tree of what was written

A `Source` is a JSON text after parsing and before interpretation: numbers are still digits, strings
still hold their escapes, and a repeated member name is still there twice. The grammar is all that
is checked. Readers of a fixed record shape need this layer, since they must notice a repeated name
and must not care what stands under a name that they do not know.

Parsing runs a stack machine over the tokens: a frame for each container that is still open, and
what may come next. It is structural in the token list, and the effect of a value's tokens is one
push.
-/

namespace FeedHarvest.Json

/-- A JSON text as written. -/
inductive Source where
  | null
  | bool (value : Bool)
  | number (text : NumberText)
  | string (parts : List StringPart)
  | array (items : List Source)
  | object (members : List (List StringPart × Source))
deriving Repr, Inhabited

namespace Source

/-- A container that is still open, with what it holds so far, the last first. -/
inductive Frame where
  | array (items : List Source)
  /-- An object whose last name still lacks its value. -/
  | member (members : List (List StringPart × Source)) (name : List StringPart)

/-- What may come next. -/
inductive Expect where
  /-- A value. -/
  | value
  /-- A value or the end of the array, right after its start. -/
  | valueOrClose
  /-- A member name of the object with these members. -/
  | name (members : List (List StringPart × Source))
  /-- The same, or the end of the object, right after its start. -/
  | nameOrClose
  /-- The colon after this name. -/
  | colon (members : List (List StringPart × Source)) (name : List StringPart)
  /-- A comma or the end of the array with these items. -/
  | itemEnd (items : List Source)
  /-- A comma or the end of the object with these members. -/
  | memberEnd (members : List (List StringPart × Source))
  /-- Nothing: this value is the whole text. -/
  | nothing (result : Source)

/-- The open containers, innermost first, and what may come next. -/
structure State where
  /-- The containers around the one being read. -/
  stack : List Frame
  /-- What may come next. -/
  expect : Expect

/-- A finished value goes into the innermost open container. -/
def push (v : Source) : List Frame → State
  | [] => ⟨[], .nothing v⟩
  | .array items :: stack => ⟨stack, .itemEnd (v :: items)⟩
  | .member ms name :: stack => ⟨stack, .memberEnd ((name, v) :: ms)⟩

/-- The start of a value, with the containers around it. -/
def begin? (stack : List Frame) : Token → Option State
  | .null => some (push .null stack)
  | .bool b => some (push (.bool b) stack)
  | .number n => some (push (.number n) stack)
  | .string s => some (push (.string s) stack)
  | .openArray => some ⟨stack, .valueOrClose⟩
  | .openObject => some ⟨stack, .nameOrClose⟩
  | _ => none

/-- One token. -/
def step? (s : State) (t : Token) : Option State :=
  match s.expect, t with
  | .value, t => begin? s.stack t
  | .valueOrClose, .closeArray => some (push (.array []) s.stack)
  | .valueOrClose, t => begin? (.array [] :: s.stack) t
  | .name ms, .string name => some ⟨s.stack, .colon ms name⟩
  | .nameOrClose, .string name => some ⟨s.stack, .colon [] name⟩
  | .nameOrClose, .closeObject => some (push (.object []) s.stack)
  | .colon ms name, .colon => some ⟨.member ms name :: s.stack, .value⟩
  | .itemEnd items, .comma => some ⟨.array items :: s.stack, .value⟩
  | .itemEnd items, .closeArray => some (push (.array items.reverse) s.stack)
  | .memberEnd ms, .comma => some ⟨s.stack, .name ms⟩
  | .memberEnd ms, .closeObject => some (push (.object ms.reverse) s.stack)
  | _, _ => none

def run? (s : State) : List Token → Option State
  | [] => some s
  | t :: ts => (step? s t).bind (run? · ts)

/-- The tree of a text that is one JSON value. -/
def parse? (text : List Char) : Option Source := do
  let ts ← tokens? text
  match ← run? ⟨[], .value⟩ ts with
  | ⟨[], .nothing v⟩ => some v
  | _ => none

end Source

end FeedHarvest.Json
