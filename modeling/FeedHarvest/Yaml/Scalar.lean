import FeedHarvest.Text.Digits
import FeedHarvest.Yaml.Basic

/-!
# Types of scalars

A scalar without quotes has the type that its text looks like, and is a string only if it looks like
nothing else. Digits after a leading zero are a string, and so is a number too large for floating
point; an integer that needs more than 64 bits and at most 128 is refused. A standard tag asks for a
type and refuses other text; any other tag of the standard's namespace makes a string.
-/

namespace FeedHarvest.Yaml

/-- The words for nothing. -/
def isNullWord (s : String) : Bool := ["null", "Null", "NULL", "~"].contains s

def boolOfWord? (s : String) : Option Bool :=
  if ["true", "True", "TRUE"].contains s then some true
  else if ["false", "False", "FALSE"].contains s then some false
  else none

/-- Digits of a base up to sixteen, at least one. -/
def natOfBase? (base : Nat) (cs : List Char) : Option Nat :=
  if !cs.isEmpty && cs.all (fun c ↦ (Text.digitValue? c).any (· < base)) then
    some (Text.ofDigits base 0 cs)
  else none

/-- Whether the text is digits after a leading zero, with or without a sign. -/
def isPaddedNumber (cs : List Char) : Bool :=
  let digits := match cs with
    | '-' :: r | '+' :: r => r
    | _ => cs
  match digits with
  | '0' :: d :: r => (d :: r).all Text.isDigit
  | _ => false

/-- A number after its sign: hexadecimal, octal, binary or decimal. -/
def natOfText? : List Char → Option Nat
  | '0' :: 'x' :: r => natOfBase? 16 r
  | '0' :: 'o' :: r => natOfBase? 8 r
  | '0' :: 'b' :: r => natOfBase? 2 r
  | cs => natOfBase? 10 cs

/-- The integer that a text denotes, of any size. -/
def intOfText? (cs : List Char) : Option Int :=
  if isPaddedNumber cs then none
  else
    match cs with
    | '-' :: r => (natOfText? r).map fun n ↦ -(n : Int)
    | '+' :: r => (natOfText? r).map Int.ofNat
    | _ => (natOfText? cs).map Int.ofNat

def fits64 (n : Int) : Bool := -(Nat.pow 2 63) ≤ n && n < Nat.pow 2 64

def fits128 (n : Int) : Bool := -(Nat.pow 2 127) ≤ n && n < Nat.pow 2 128

/-- A decimal with an optional point and exponent, after its sign. -/
def decimalOfText? (negative : Bool) (cs : List Char) : Option Number.Binary64 := do
  let (whole, cs) := cs.span Text.isDigit
  let (fraction, cs) := match cs with
    | '.' :: r => r.span Text.isDigit
    | _ => ([], cs)
  if whole.isEmpty && fraction.isEmpty then none
  let exponent : Int ← match cs with
    | [] => some 0
    | e :: r =>
      if e != 'e' && e != 'E' then none
      else
        match r with
        | '-' :: ds => (Text.natOfDecimal? ds).map fun n ↦ -(n : Int)
        | '+' :: ds => (Text.natOfDecimal? ds).map Int.ofNat
        | ds => (Text.natOfDecimal? ds).map Int.ofNat
  Number.Binary64.ofDecimal? negative (Text.ofDigits 10 0 (whole ++ fraction))
    (exponent - fraction.length)

/-- The floating-point number that a text denotes. -/
def floatOfText? (s : String) : Option Yaml.Number :=
  let unsigned := match s.toList with
    | '+' :: r => r
    | cs => cs
  if [".inf", ".Inf", ".INF"].contains (String.ofList unsigned) then some (.infinity false)
  else if ["-.inf", "-.Inf", "-.INF"].contains s then some (.infinity true)
  else if [".nan", ".NaN", ".NAN"].contains s then some .nan
  else
    match s.toList with
    | '-' :: r => (decimalOfText? true r).map .float
    | '+' :: r => (decimalOfText? false r).map .float
    | cs => (decimalOfText? false cs).map .float

/-- A scalar that is typed by what it looks like. -/
def untagged? (s : String) : Option Yaml :=
  if s.isEmpty || isNullWord s then some .null
  else
    match boolOfWord? s with
    | some b => some (.bool b)
    | none =>
      let other := if isPaddedNumber s.toList then none else floatOfText? s
      match intOfText? s.toList with
      | some n =>
        if fits64 n then some (.number (.int n))
        else if fits128 n then none
        else some (other.elim (.string s) .number)
      | none => some (other.elim (.string s) .number)

/-- The standard's name for a tag. -/
def standardTag (name : String) : String := "tag:yaml.org,2002:" ++ name

/-- A scalar whose tag is the standard's. -/
def ofStandardTag? (tag s : String) : Option Yaml :=
  if tag == standardTag "bool" then (boolOfWord? s).map .bool
  else if tag == standardTag "int" then do
    let n ← intOfText? s.toList
    if fits64 n then some (.number (.int n)) else none
  else if tag == standardTag "float" then (floatOfText? s).map .number
  else if tag == standardTag "null" then (if isNullWord s then some .null else none)
  else some (.string s)

end FeedHarvest.Yaml
