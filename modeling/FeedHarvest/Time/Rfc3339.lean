import FeedHarvest.Text.Blank
import FeedHarvest.Text.Digits
import FeedHarvest.Time.Instant

/-!
# RFC 3339

Instants are written as date, `T`, time and offset, always in UTC. A year outside 0 to 9999 has a
sign and at least four digits. The fraction has a fixed width, or the least of 0, 3, 6 and 9 digits
that loses nothing.

Reading is wider than writing: a space or a small `t` may separate date and time, parts may have
blanks before them, numbers may lack leading zeros, a year may have a sign, and the offset may be a
`z`, the word `UTC`, or hours and minutes, the colon between them optional. Digits past the ninth of
a fraction are dropped.
-/

namespace FeedHarvest.Time

/-- The digits of the fraction. -/
inductive FractionWidth where
  /-- Exactly three, the rest cut off. -/
  | millis
  /-- The least of 0, 3, 6 and 9 that loses nothing. -/
  | least

/-- A year in at least four digits, with a sign when it has more or is negative. -/
def yearText (year : Int) : List Char :=
  if year < 0 then '-' :: Text.padded 4 year.natAbs
  else if 9999 < year then '+' :: Text.padded 4 year.natAbs
  else Text.padded 4 year.natAbs

def FractionWidth.text (nanos : Nat) : FractionWidth → List Char
  | .millis => '.' :: Text.padded 3 (nanos / 1000000)
  | .least =>
    if nanos = 0 then []
    else if nanos % 1000000 = 0 then '.' :: Text.padded 3 (nanos / 1000000)
    else if nanos % 1000 = 0 then '.' :: Text.padded 6 (nanos / 1000)
    else '.' :: Text.padded 9 nanos

namespace Instant

/-- Date, `T` and time. -/
def clockText (width : FractionWidth) (t : Instant) : List Char :=
  let d := t.date
  yearText d.year ++ '-' :: Text.padded 2 d.month ++ '-' :: Text.padded 2 d.day ++
    'T' :: Text.padded 2 (t.secondOfDay / 3600) ++
    ':' :: Text.padded 2 (t.secondOfDay / 60 % 60) ++
    ':' :: Text.padded 2 t.clockSecond ++ width.text t.fraction

/-- The instant with milliseconds, the offset written `Z`. -/
def stamp (t : Instant) : String := String.ofList (t.clockText .millis ++ ['Z'])

/-- The instant without loss, the offset written `Z`. -/
def text (t : Instant) : String := String.ofList (t.clockText .least ++ ['Z'])

/-- The instant without loss, the offset written in digits. -/
def offsetText (t : Instant) : String :=
  String.ofList (t.clockText .least ++ ['+', '0', '0', ':', '0', '0'])

end Instant

/-! ## Reading -/

/-- A number of at most `width` digits. -/
def readNumber (width : Nat) (cs : List Char) : Option (Nat × List Char) := do
  let n ← Text.natOfDecimal? ((cs.take width).takeWhile Text.isDigit)
  return (n, cs.drop ((cs.take width).takeWhile Text.isDigit).length)

/-- A number of one or two digits after blanks, if it is in range. -/
def readPart (least greatest : Nat) (cs : List Char) : Option (Nat × List Char) := do
  let (n, rest) ← readNumber 2 (Text.trimStart cs)
  if least ≤ n ∧ n ≤ greatest then some (n, rest) else none

/-- A year: a sign and any number of digits, or no sign and at most four. -/
def readYear (cs : List Char) : Option (Int × List Char) :=
  match Text.trimStart cs with
  | '-' :: r => (readNumber r.length r).map fun (n, rest) ↦ (-(n : Int), rest)
  | '+' :: r => (readNumber r.length r).map fun (n, rest) ↦ ((n : Int), rest)
  | r => (readNumber 4 r).map fun (n, rest) ↦ ((n : Int), rest)

/-- A mark after blanks. -/
def readMark (mark : Char) (cs : List Char) : Option (List Char) :=
  match Text.trimStart cs with
  | c :: rest => if c == mark then some rest else none
  | [] => none

def readDate (cs : List Char) : Option (Date × List Char) := do
  let (year, cs) ← readYear cs
  let (month, cs) ← readPart 1 12 (← readMark '-' cs)
  let (day, cs) ← readPart 1 31 (← readMark '-' cs)
  let date : Date := ⟨year, month, day⟩
  if date.isValid then some (date, cs) else none

/-- A fraction in nanoseconds, when there is a point. -/
def readFraction : List Char → Option (Nat × List Char)
  | '.' :: cs => do
    let (n, rest) ← readNumber 9 cs
    return (n * Nat.pow 10 (9 - (cs.length - rest.length)), rest.dropWhile Text.isDigit)
  | cs => some (0, cs)

/-- A time: the second of the day and the nanoseconds, for second 60 those of second 59 and a
billion more. -/
def readTime (cs : List Char) : Option (Nat × Nat × List Char) := do
  let (hour, cs) ← readPart 0 23 cs
  let (minute, cs) ← readPart 0 59 (← readMark ':' cs)
  let (second, cs) ← readPart 0 60 (← readMark ':' cs)
  let (nanos, cs) ← readFraction cs
  if second = 60 then
    return (hour * 3600 + minute * 60 + 59, nanos + nanosPerSecond, cs)
  else
    return (hour * 3600 + minute * 60 + second, nanos, cs)

/-- Hours and minutes of an offset, in seconds; colons and blanks may stand between them. -/
def readOffsetDigits : List Char → Option (Int × List Char)
  | h₁ :: h₂ :: cs => do
    let hours ← Text.natOfDecimal? [h₁, h₂]
    match cs.dropWhile (fun c ↦ c == ':' || Text.isBlank c) with
    | m₁ :: m₂ :: rest =>
      let minutes ← Text.natOfDecimal? [m₁, m₂]
      if minutes ≤ 59 then some (hours * 3600 + minutes * 60, rest) else none
    | _ => none
  | _ => none

/-- An offset in seconds; a minus sign may be the hyphen or U+2212. -/
def readOffset (cs : List Char) : Option (Int × List Char) :=
  match cs with
  | 'Z' :: rest | 'z' :: rest => some (0, rest)
  | '+' :: rest => readOffsetDigits rest
  | '-' :: rest | '−' :: rest => (readOffsetDigits rest).map fun (n, rest) ↦ (-n, rest)
  | u :: t :: c :: rest =>
    if u.toUpper == 'U' && t.toUpper == 'T' && c.toUpper == 'C' then some (0, rest) else none
  | _ => none

def readSeparator : List Char → Option (List Char)
  | 'T' :: rest | 't' :: rest | ' ' :: rest => some rest
  | _ => none

def Instant.parse? (s : String) : Option Instant := do
  let (date, cs) ← readDate s.toList
  let (second, nanos, cs) ← readTime (← readSeparator cs)
  let (offset, rest) ← readOffset (Text.trimStart cs)
  if !(Text.trimStart rest).isEmpty || 86400 ≤ offset.natAbs then none
  else
    let t : Instant := ⟨date.toDays * 86400 + second - offset, nanos⟩
    if t.date.isValid then some t else none

end FeedHarvest.Time
