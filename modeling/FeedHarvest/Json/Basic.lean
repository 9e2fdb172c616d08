import FeedHarvest.Number.Binary64

/-!
# JSON values

A value of the data format. Numbers come in two kinds that never compare equal, as in the text: an
integer that fits 64 bits, signed or not, and a binary floating-point number. An object is a list of
members in document order, no two of one name, which is what reading gives and `Members.insert`
keeps: a repeated name replaces the value at the first place.
-/

namespace FeedHarvest

inductive Json.Number where
  /-- An integer from `-2^63` to `2^64 - 1`. -/
  | int (value : Int)
  /-- Any other number. -/
  | float (value : Number.Binary64)
deriving DecidableEq, Repr, Inhabited

inductive Json where
  | null
  | bool (value : Bool)
  | number (value : Json.Number)
  | string (value : String)
  | array (items : List Json)
  | object (members : List (String × Json))
deriving Repr, Inhabited

namespace Json

def ofNat (n : Nat) : Json := .number (.int n)

/-! ## Deciding equality -/

mutual

/-- Equality of values is decided along their structure. -/
def decEq : (a b : Json) → Decidable (a = b)
  | .null, .null => isTrue rfl
  | .bool a, .bool b => if h : a = b then isTrue (h ▸ rfl) else isFalse (by simp [h])
  | .number a, .number b => if h : a = b then isTrue (h ▸ rfl) else isFalse (by simp [h])
  | .string a, .string b => if h : a = b then isTrue (h ▸ rfl) else isFalse (by simp [h])
  | .array a, .array b =>
    match decEqItems a b with
    | isTrue h => isTrue (h ▸ rfl)
    | isFalse h => isFalse (by simp [h])
  | .object a, .object b =>
    match decEqMembers a b with
    | isTrue h => isTrue (h ▸ rfl)
    | isFalse h => isFalse (by simp [h])
  | .null, .bool _ | .null, .number _ | .null, .string _ | .null, .array _ | .null, .object _
  | .bool _, .null | .bool _, .number _ | .bool _, .string _ | .bool _, .array _
  | .bool _, .object _
  | .number _, .null | .number _, .bool _ | .number _, .string _ | .number _, .array _
  | .number _, .object _
  | .string _, .null | .string _, .bool _ | .string _, .number _ | .string _, .array _
  | .string _, .object _
  | .array _, .null | .array _, .bool _ | .array _, .number _ | .array _, .string _
  | .array _, .object _
  | .object _, .null | .object _, .bool _ | .object _, .number _ | .object _, .string _
  | .object _, .array _ => isFalse nofun

def decEqItems : (a b : List Json) → Decidable (a = b)
  | [], [] => isTrue rfl
  | [], _ :: _ | _ :: _, [] => isFalse nofun
  | x :: xs, y :: ys =>
    match decEq x y, decEqItems xs ys with
    | isTrue h, isTrue hs => isTrue (h ▸ hs ▸ rfl)
    | isFalse h, _ => isFalse (by simp [h])
    | _, isFalse hs => isFalse (by simp [hs])

def decEqMembers : (a b : List (String × Json)) → Decidable (a = b)
  | [], [] => isTrue rfl
  | [], _ :: _ | _ :: _, [] => isFalse nofun
  | (k, x) :: xs, (l, y) :: ys =>
    if hk : k = l then
      match decEq x y, decEqMembers xs ys with
      | isTrue h, isTrue hs => isTrue (hk ▸ h ▸ hs ▸ rfl)
      | isFalse h, _ => isFalse (by simp [h])
      | _, isFalse hs => isFalse (by simp [hs])
    else isFalse (by simp [hk])

end

instance : DecidableEq Json := decEq

/-! ## Members -/

/-- The members of an object, in document order. -/
abbrev Members := List (String × Json)

namespace Members

/-- The value of the first member of that name. -/
def get? (ms : Members) (key : String) : Option Json := ms.lookup key

def keys (ms : Members) : List String := ms.map Prod.fst

/-- Sets a member: in place if the name is present, else at the end. -/
def insert (ms : Members) (key : String) (value : Json) : Members :=
  match ms with
  | [] => [(key, value)]
  | (k, v) :: rest => if k = key then (k, value) :: rest else (k, v) :: insert rest key value

/-- Members in order, a later value of a name replacing the earlier one at its place. -/
def ofList (ms : List (String × Json)) : Members :=
  ms.foldl (fun acc (k, v) ↦ insert acc k v) []

@[simp] theorem keys_nil : keys [] = [] := rfl

@[simp] theorem keys_cons (k : String) (v : Json) (ms : Members) :
    keys ((k, v) :: ms) = k :: keys ms := rfl

/-- Setting a member keeps the names and their order; a new name comes last. -/
theorem keys_insert (ms : Members) (key : String) (value : Json) :
    keys (insert ms key value) = if key ∈ keys ms then keys ms else keys ms ++ [key] := by
  induction ms with
  | nil => simp [insert]
  | cons m rest ih =>
    obtain ⟨k, v⟩ := m
    by_cases h : k = key
    · simp [insert, h]
    · have h' : key ≠ k := fun e ↦ h e.symm
      by_cases hm : key ∈ keys rest <;> simp [insert, h, h', ih, hm]

theorem get?_insert_self (ms : Members) (key : String) (value : Json) :
    get? (insert ms key value) key = some value := by
  induction ms with
  | nil => simp [insert, get?]
  | cons m rest ih =>
    obtain ⟨k, v⟩ := m
    by_cases h : k = key
    · simp [insert, h, get?]
    · have h' : key ≠ k := fun e ↦ h e.symm
      rw [insert, if_neg h]
      simpa [get?, List.lookup_cons, beq_false_of_ne h'] using ih

theorem get?_insert_of_ne (ms : Members) {key other : String} (value : Json) (h : other ≠ key) :
    get? (insert ms key value) other = get? ms other := by
  induction ms with
  | nil => simp [insert, get?, List.lookup_cons, beq_false_of_ne h]
  | cons m rest ih =>
    obtain ⟨k, v⟩ := m
    by_cases hk : k = key
    · subst hk
      simp [insert, get?, List.lookup_cons, beq_false_of_ne h]
    · rw [insert, if_neg hk]
      simp only [get?, List.lookup_cons] at ih ⊢
      rw [ih]

end Members

/-! ## Views -/

/-- The members of an object, the empty list for any other value. -/
def members : Json → Members
  | .object ms => ms
  | _ => []

/-- The member of that name, if the value is an object that has it. -/
def get? (v : Json) (key : String) : Option Json := v.members.get? key

def asString? : Json → Option String
  | .string s => some s
  | _ => none

def asBool? : Json → Option Bool
  | .bool b => some b
  | _ => none

def asNat? : Json → Option Nat
  | .number (.int n) => if 0 ≤ n then some n.toNat else none
  | _ => none

def asArray? : Json → Option (List Json)
  | .array items => some items
  | _ => none

def isObject : Json → Bool
  | .object _ => true
  | _ => false

end Json

end FeedHarvest
