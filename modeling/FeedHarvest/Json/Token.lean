import FeedHarvest.Text.Digits

/-!
# Tokens of JSON text

The lexical grammar: punctuation, the three words, numbers and strings, with blanks (space, tab,
line feed, carriage return) between them. A token keeps what was written; what a number or a string
with `\u` escapes *means* is decided later, because a value that nobody asks for needs no meaning.
-/

namespace FeedHarvest.Json

/-- A number as written. -/
structure NumberText where
  /-- Whether a minus sign stands in front. -/
  negative : Bool
  /-- The digits before the point. -/
  whole : List Char
  /-- The digits after the point, when there is one. -/
  fraction : Option (List Char)
  /-- Whether the exponent is negative, and its digits, when there is one. -/
  exponent : Option (Bool × List Char)
deriving DecidableEq, Repr

/-- One part of a string as written. -/
inductive StringPart where
  /-- A character, raw or by one of the two-character escapes. -/
  | char (c : Char)
  /-- A UTF-16 code unit written with four hexadecimal digits. -/
  | unit (code : Nat)
deriving DecidableEq, Repr

inductive Token where
  | openArray
  | closeArray
  | openObject
  | closeObject
  | comma
  | colon
  | null
  | bool (value : Bool)
  | number (text : NumberText)
  | string (parts : List StringPart)
deriving DecidableEq, Repr

/-- The characters that may stand between tokens. -/
def isSpace (c : Char) : Bool := c == ' ' || c == '\t' || c == '\n' || c == '\r'

/-! ## Strings -/

/-- The character that a two-character escape stands for. -/
def simpleEscape? : Char → Option Char
  | '"' => some '"'
  | '\\' => some '\\'
  | '/' => some '/'
  | 'b' => some '\x08'
  | 'f' => some '\x0c'
  | 'n' => some '\n'
  | 'r' => some '\r'
  | 't' => some '\t'
  | _ => none

/-- The rest of a string after its opening quote, up to and without the closing one. Control
characters must be escaped. -/
def lexString : List Char → Option (List StringPart × List Char)
  | '"' :: rest => some ([], rest)
  | '\\' :: 'u' :: a :: b :: c :: d :: rest => do
    let code ← Text.natOfHex? [a, b, c, d]
    let (parts, rest) ← lexString rest
    return (.unit code :: parts, rest)
  | '\\' :: e :: rest => do
    let ch ← simpleEscape? e
    let (parts, rest) ← lexString rest
    return (.char ch :: parts, rest)
  | c :: rest =>
    if c.toNat < 0x20 || c == '\\' then none
    else do
      let (parts, rest) ← lexString rest
      return (.char c :: parts, rest)
  | [] => none

theorem length_lexString_lt {cs : List Char} {parts : List StringPart} {rest : List Char}
    (h : lexString cs = some (parts, rest)) : rest.length < cs.length := by
  fun_induction lexString cs generalizing parts rest with
  | case1 => simp at h; simp [h]
  | case2 a b c d r ih =>
    simp only [bind, Option.bind_eq_some_iff, pure, Option.some.injEq, Prod.mk.injEq,
      Prod.exists] at h
    obtain ⟨_, _, p, q, hq, _, rfl⟩ := h
    have := ih hq
    simp; omega
  | case3 e r _ ih =>
    simp only [bind, Option.bind_eq_some_iff, pure, Option.some.injEq, Prod.mk.injEq,
      Prod.exists] at h
    obtain ⟨_, _, p, q, hq, _, rfl⟩ := h
    have := ih hq
    simp; omega
  | case4 => simp at h
  | case5 c r _ _ _ _ ih =>
    simp only [bind, Option.bind_eq_some_iff, pure, Option.some.injEq, Prod.mk.injEq,
      Prod.exists] at h
    obtain ⟨p, q, hq, _, rfl⟩ := h
    have := ih hq
    simp; omega
  | case6 => simp at h

/-! ## Numbers -/

/-- A run of digits and what follows it. -/
def digitRun (cs : List Char) : List Char × List Char :=
  (cs.takeWhile Text.isDigit, cs.dropWhile Text.isDigit)

/-- The part of a number after the point, if a point follows: at least one digit. -/
def lexFraction : List Char → Option (Option (List Char) × List Char)
  | '.' :: cs =>
    let (ds, rest) := digitRun cs
    if ds.isEmpty then none else some (some ds, rest)
  | cs => some (none, cs)

/-- Whether a minus sign comes first, and the text after it. -/
def lexMinus : List Char → Bool × List Char
  | '-' :: cs => (true, cs)
  | cs => (false, cs)

/-- Whether a minus sign comes first, and the text after the sign, which may be a plus. -/
def lexSign : List Char → Bool × List Char
  | '+' :: cs => (false, cs)
  | cs => lexMinus cs

/-- The exponent of a number, if one follows: a sign or none, and at least one digit. -/
def lexExponent : List Char → Option (Option (Bool × List Char) × List Char)
  | c :: cs =>
    if c == 'e' || c == 'E' then
      let (ds, rest) := digitRun (lexSign cs).2
      if ds.isEmpty then none else some (some ((lexSign cs).1, ds), rest)
    else some (none, c :: cs)
  | [] => some (none, [])

/-- The digits before the point: a zero alone, or digits that do not start with zero. -/
def lexWhole : List Char → Option (List Char × List Char)
  | '0' :: cs => some (['0'], cs)
  | cs =>
    let (ds, rest) := digitRun cs
    if ds.isEmpty then none else some (ds, rest)

def lexNumber (cs : List Char) : Option (NumberText × List Char) := do
  let (whole, cs₁) ← lexWhole (lexMinus cs).2
  let (fraction, cs₂) ← lexFraction cs₁
  let (exponent, rest) ← lexExponent cs₂
  return (⟨(lexMinus cs).1, whole, fraction, exponent⟩, rest)

theorem length_digitRun_le (cs : List Char) : (digitRun cs).2.length ≤ cs.length :=
  (List.dropWhile_suffix _).length_le

theorem length_lexFraction_le {cs rest : List Char} {f : Option (List Char)}
    (h : lexFraction cs = some (f, rest)) : rest.length ≤ cs.length := by
  unfold lexFraction at h
  split at h
  · rename_i r
    have := length_digitRun_le r
    simp only at h
    split at h
    · simp at h
    · simp only [Option.some.injEq, Prod.mk.injEq] at h
      rw [← h.2]; simp; omega
  · simp only [Option.some.injEq, Prod.mk.injEq] at h
    simp [h.2]

theorem length_lexMinus_le (cs : List Char) : (lexMinus cs).2.length ≤ cs.length := by
  unfold lexMinus; split <;> simp

theorem length_lexSign_le (cs : List Char) : (lexSign cs).2.length ≤ cs.length := by
  unfold lexSign
  split
  · simp
  · exact length_lexMinus_le _

theorem length_lexExponent_le {cs rest : List Char} {e : Option (Bool × List Char)}
    (h : lexExponent cs = some (e, rest)) : rest.length ≤ cs.length := by
  unfold lexExponent at h
  split at h
  · rename_i c r
    split at h
    · simp only at h
      split at h
      · simp at h
      · simp only [Option.some.injEq, Prod.mk.injEq] at h
        have h₁ := length_digitRun_le (lexSign r).2
        have h₂ := length_lexSign_le r
        rw [← h.2, List.length_cons]
        omega
    · simp only [Option.some.injEq, Prod.mk.injEq] at h
      simp [← h.2]
  · simp only [Option.some.injEq, Prod.mk.injEq] at h
    simp [← h.2]

theorem length_lexWhole_lt {cs rest ds : List Char} (h : lexWhole cs = some (ds, rest)) :
    rest.length < cs.length := by
  unfold lexWhole at h
  split at h
  · simp only [Option.some.injEq, Prod.mk.injEq] at h
    simp [h.2]
  · simp only at h
    split at h
    · simp at h
    · rename_i hne
      simp only [Option.some.injEq, Prod.mk.injEq, digitRun] at h hne
      have e := congrArg List.length
        (List.takeWhile_append_dropWhile (p := Text.isDigit) (l := cs))
      rw [List.length_append] at e
      rw [← h.2]
      cases hd : cs.takeWhile Text.isDigit with
      | nil => simp [hd] at hne
      | cons a as => simp [hd] at e; omega

theorem length_lexNumber_lt {cs rest : List Char} {n : NumberText}
    (h : lexNumber cs = some (n, rest)) : rest.length < cs.length := by
  simp only [lexNumber, bind, Option.bind_eq_some_iff, pure, Option.some.injEq, Prod.mk.injEq,
    Prod.exists] at h
  obtain ⟨w, r₁, h₁, f, r₂, h₂, e, r₃, h₃, _, rfl⟩ := h
  have := length_lexWhole_lt h₁
  have := length_lexFraction_le h₂
  have := length_lexExponent_le h₃
  have := length_lexMinus_le cs
  omega

/-! ## Token lists -/

/-- The punctuation mark that a character is. -/
def punctuation? : Char → Option Token
  | '[' => some .openArray
  | ']' => some .closeArray
  | '{' => some .openObject
  | '}' => some .closeObject
  | ',' => some .comma
  | ':' => some .colon
  | _ => none

/-- The tokens of a text, or `none` when some character starts no token. -/
def tokens? : List Char → Option (List Token)
  | [] => some []
  | 'n' :: 'u' :: 'l' :: 'l' :: rest => (tokens? rest).map (.null :: ·)
  | 't' :: 'r' :: 'u' :: 'e' :: rest => (tokens? rest).map (.bool true :: ·)
  | 'f' :: 'a' :: 'l' :: 's' :: 'e' :: rest => (tokens? rest).map (.bool false :: ·)
  | c :: rest =>
    if isSpace c then tokens? rest
    else
      match punctuation? c with
      | some t => (tokens? rest).map (t :: ·)
      | none =>
        if c == '"' then
          match h : lexString rest with
          | some (parts, rest') =>
            have := length_lexString_lt h
            (tokens? rest').map (.string parts :: ·)
          | none => none
        else
          match h : lexNumber (c :: rest) with
          | some (n, rest') =>
            have := length_lexNumber_lt h
            (tokens? rest').map (.number n :: ·)
          | none => none
termination_by cs => cs.length
decreasing_by all_goals simp_all <;> omega

end FeedHarvest.Json
