import FeedHarvest.Text.Digits
import FeedHarvest.Text.Utf8

/-!
# Addresses

An address names a scheme, and for the schemes of the web a host: a name, four numbers, or eight
groups in brackets. Reading is lenient where browsers are: blanks at the ends are dropped, slashes
before the host may be missing or too many, and backslashes count as slashes. What no reader accepts
is an address without a scheme, without a host where one is needed, with a character in the host
that separates parts of an address, or with a port that is no port.
-/

namespace FeedHarvest.Http

open FeedHarvest.Text

/-- A server: how it is spoken to, and where it is. -/
structure Site where
  scheme : String
  host : String
  port : Option Nat := none
  deriving DecidableEq, Repr

/-- An address, as far as requests need it. -/
structure Address where
  site : Site
  /-- The path without its last slash. -/
  path : String
  /-- The path as it is asked for, with the query. -/
  target : String
  deriving DecidableEq, Repr

/-! ## Hosts -/

/-- A number of a host made of numbers: in base sixteen behind `0x`, in base eight behind a zero. -/
def hostNumber? : List Char → Option Nat
  | [] => none
  | '0' :: 'x' :: ds | '0' :: 'X' :: ds => if ds.isEmpty then some 0 else natOfHex? ds
  | '0' :: d :: ds =>
    if (d :: ds).all fun c ↦ '0' ≤ c && c ≤ '7' then some (ofDigits 8 0 (d :: ds)) else none
  | ds => natOfDecimal? ds

/-- Whether numbers make a host: one byte each, and the last fills what is left of four. -/
def areHost (ns : List Nat) : Bool :=
  match ns.reverse with
  | [] => false
  | last :: firsts =>
    ns.length ≤ 4 && firsts.all (· ≤ 255) && last < Nat.pow 256 (5 - ns.length)

/-- The parts of a host between its points, without an empty last one. -/
def hostParts (host : List Char) : List (List Char) :=
  let parts := host.splitOn '.'
  if 1 < parts.length && parts.getLast? == some [] then parts.dropLast else parts

/-- Whether a host is meant to be made of numbers: its last part is one. -/
def endsInNumber (host : List Char) : Bool :=
  match (hostParts host).getLast? with
  | some part => (!part.isEmpty && part.all isDigit) || (hostNumber? part).isSome
  | none => false

/-- Whether the host is made of numbers in range. -/
def isNumbersHost (host : List Char) : Bool :=
  match (hostParts host).mapM hostNumber? with
  | some ns => areHost ns
  | none => false

/-- The groups that a part of a bracketed host stands for; four numbers with points make two groups
and may only come last. -/
def groups? (part : List Char) : Option Nat :=
  let pieces := part.splitOn ':'
  let size (last : Bool) (p : List Char) : Option Nat :=
    if 0 < p.length && p.length ≤ 4 && p.all isHexDigit then some 1
    else
      let ns := p.splitOn '.'
      let isByte (n : List Char) : Bool :=
        (natOfDecimal? n).any (· ≤ 255) && (n.length == 1 || n.head? != some '0')
      if last && ns.length == 4 && ns.all isByte then some 2 else none
  if part.isEmpty then some 0
  else do
    let firsts ← pieces.dropLast.mapM (size false)
    let last ← size true (pieces.getLast?.getD [])
    return firsts.foldl (· + ·) last

/-- A text cut at the first pair of colons. -/
def splitAtGap : List Char → Option (List Char × List Char)
  | ':' :: ':' :: cs => some ([], cs)
  | c :: cs => (splitAtGap cs).map fun (a, b) ↦ (c :: a, b)
  | [] => none

/-- Whether a text in brackets is a host: eight groups, or fewer with a gap. -/
def isGroupsHost (inside : List Char) : Bool :=
  match splitAtGap inside with
  | none => groups? inside == some 8
  | some (a, b) =>
    match groups? a, groups? b with
    | some m, some n => m + n ≤ 7 && !(a.contains '.')
    | _, _ => false

/-- The characters that no host has, as they separate parts of an address. -/
def isHostMark (c : Char) : Bool :=
  "\x00\t\n\r #/:<>?@[\\]^|".toList.contains c

/-- The bytes of a text in which a percent sign and two digits stand for a byte. -/
def percentDecode : List UInt8 → List UInt8
  | 0x25 :: a :: b :: bs =>
    match natOfHex? [Char.ofNat a.toNat, Char.ofNat b.toNat] with
    | some n => UInt8.ofNat n :: percentDecode bs
    | none => 0x25 :: percentDecode (a :: b :: bs)
  | b :: bs => b :: percentDecode bs
  | [] => []
termination_by bs => bs.length

/-- The host of a web address in the form used for requests. -/
def webHost? (cs : List Char) : Option (List Char) :=
  let host := (Utf8.decode (percentDecode (Utf8.encode (String.ofList cs)))).toList.map Char.toLower
  let isBad (c : Char) : Bool := isHostMark c || c.toNat < 0x20 || c == '%' || c == '\x7f'
  if host.isEmpty || host.any isBad then none
  else if endsInNumber host && !isNumbersHost host then none
  else some host

/-! ## Addresses -/

/-- The text without control characters and blanks at its ends, and without line breaks and tabs
anywhere. -/
def tidy (cs : List Char) : List Char :=
  let isEnd (c : Char) : Bool := c.toNat ≤ 0x20
  let inner := ((cs.dropWhile isEnd).reverse.dropWhile isEnd).reverse
  inner.filter fun c ↦ c != '\t' && c != '\n' && c != '\r'

/-- The scheme in lower case, and the text after its colon. -/
def scheme? (cs : List Char) : Option (String × List Char) :=
  let name := cs.takeWhile (· != ':')
  match name, cs.dropWhile (· != ':') with
  | c :: r, _ :: rest =>
    if c.isAlpha && r.all (fun d ↦ d.isAlphanum || d == '+' || d == '-' || d == '.') then
      some (String.ofList (name.map Char.toLower), rest)
    else none
  | _, _ => none

/-- A port: nothing, or a number of 16 bits. -/
def port? (cs : List Char) : Option (Option Nat) :=
  if cs.isEmpty then some none
  else (natOfDecimal? cs).bind fun n ↦ if n < 65536 then some (some n) else none

/-- The host and the port of an address, after the name of a user. `host?` reads hosts that are not
in brackets. -/
def hostAndPort? (host? : List Char → Option (List Char)) (cs : List Char) :
    Option (List Char × Option Nat) :=
  let cs := (cs.reverse.takeWhile (· != '@')).reverse
  match cs with
  | '[' :: r =>
    match r.dropWhile (· != ']') with
    | ']' :: ':' :: port => do
      let inside := r.takeWhile (· != ']')
      if isGroupsHost inside then return ('[' :: inside ++ [']'], ← port? port)
      none
    | [']'] =>
      if isGroupsHost (r.takeWhile (· != ']')) then some (cs, none) else none
    | _ => none
  | _ => do
    let host ← host? (cs.takeWhile (· != ':'))
    return (host, ← port? ((cs.dropWhile (· != ':')).drop 1))

/-- The path of an address without what follows it and without its last slash. -/
def pathOf (cs : List Char) : String :=
  let path := cs.takeWhile fun c ↦ c != '?' && c != '#'
  String.ofList (path.reverse.dropWhile (· == '/')).reverse

def percentByte (b : UInt8) : List Char := '%' :: (hexByte b).map Char.toUpper

/-- A text with the bytes percent-encoded that an address cannot hold or that are among the marks.
-/
def percentEncode (marks : List Char) (cs : List Char) : List Char :=
  (Utf8.encode (String.ofList cs)).flatMap fun b ↦
    let c := Char.ofNat b.toNat
    if b ≤ 0x20 || 0x7F ≤ b || marks.contains c then percentByte b else [c]

/-- The parts of a path without those that are only points: two of them also take the part before.
-/
def withoutPoints (parts : List (List Char)) : List (List Char) :=
  (parts.foldl
    (fun kept part ↦
      if part == ['.'] then kept else if part == ['.', '.'] then kept.drop 1 else part :: kept)
    []).reverse

/-- The path and the query of an address, ready to be asked for. -/
def targetOf (cs : List Char) : String :=
  let cs := cs.takeWhile (· != '#')
  let path := cs.takeWhile (· != '?')
  let query := cs.dropWhile (· != '?')
  let parts := withoutPoints ((path.splitOn '/').drop 1)
  let path := if parts.isEmpty then ['/'] else parts.flatMap ('/' :: ·)
  String.ofList (percentEncode "\"<>\x60\x7b\x7d".toList path ++
    percentEncode "\"<>\x27".toList query)

/-- The schemes of the web, which need a host. -/
def webSchemes : List String := ["http", "https", "ws", "wss", "ftp"]

def Address.parse? (s : String) : Option Address := do
  let (scheme, rest) ← scheme? (tidy s.toList)
  if webSchemes.contains scheme then
    let rest := rest.dropWhile fun c ↦ c == '/' || c == '\\'
    let inAuthority (c : Char) : Bool := !("/\\?#".toList.contains c)
    let (host, port) ← hostAndPort? webHost? (rest.takeWhile inAuthority)
    let rest := rest.dropWhile inAuthority
    return ⟨⟨scheme, String.ofList host, port⟩, pathOf rest, targetOf rest⟩
  else
    match rest with
    | '/' :: '/' :: rest =>
      let inAuthority (c : Char) : Bool := !("/?#".toList.contains c)
      let authority := rest.takeWhile inAuthority
      let rest := rest.dropWhile inAuthority
      if authority.isEmpty then return ⟨⟨scheme, "", none⟩, pathOf rest, targetOf rest⟩
      let plain? (h : List Char) : Option (List Char) :=
        if h.isEmpty || h.any isHostMark then none else some h
      let (host, port) ← hostAndPort? plain? authority
      return ⟨⟨scheme, String.ofList host, port⟩, pathOf rest, targetOf rest⟩
    | _ => return ⟨⟨scheme, "", none⟩, pathOf rest, targetOf rest⟩

end FeedHarvest.Http
