import FeedHarvest.Pipeline.Step
import Mathlib.Data.List.TakeWhile

/-!
# Names inside scripts

A field's name is any text, and a script holds it as quoted literals. The engine reads a script from
its beginning: code goes on up to a quote, and a literal up to a quote that no backslash takes. What
has to be shown is that a name can neither end its literal early nor keep it open, so that the code
around the names is the same for every name.

Only the two characters that mean something inside a literal are written otherwise, so writing goes
by characters, and so does reading back.
-/

namespace FeedHarvest.Pipeline.Step

/-! ## Reading a script -/

/-- The text of a literal whose opening quote has been read, and the script behind its closing
quote. A backslash stands only before a backslash or a quote. -/
def literal? : List Char → Option (List Char × List Char)
  | [] => none
  | '\'' :: cs => some ([], cs)
  | '\\' :: '\\' :: cs => (literal? cs).map fun (text, rest) ↦ ('\\' :: text, rest)
  | '\\' :: '\'' :: cs => (literal? cs).map fun (text, rest) ↦ ('\'' :: text, rest)
  | '\\' :: _ => none
  | c :: cs => (literal? cs).map fun (text, rest) ↦ (c :: text, rest)

private theorem length_of_literal? {cs text rest : List Char}
    (h : literal? cs = some (text, rest)) :
    rest.length < cs.length := by
  fun_induction literal? cs generalizing text with
  | case1 | case5 => cases h
  | case2 cs =>
    cases h
    exact Nat.lt_succ_self _
  | case3 cs ih | case4 cs ih =>
    obtain ⟨⟨text', rest'⟩, hcs, hrest⟩ := Option.map_eq_some_iff.1 h
    cases hrest
    exact (ih hcs).trans (Nat.lt_add_of_pos_right Nat.two_pos)
  | case6 c cs _ _ _ _ ih =>
    obtain ⟨⟨text', rest'⟩, hcs, hrest⟩ := Option.map_eq_some_iff.1 h
    cases hrest
    exact (ih hcs).trans (Nat.lt_succ_self _)

/-- A part of a script. -/
inductive Piece where
  | code (text : List Char)
  | literal (text : List Char)
  deriving DecidableEq

/-- The parts of a script, literals with their texts unescaped. A script that ends inside a literal
has none. -/
def pieces? (cs : List Char) : Option (List Piece) :=
  let code := cs.takeWhile (· != '\'')
  match _hquote : cs.dropWhile (· != '\'') with
  | [] => some [.code code]
  | _ :: inside =>
    match _hliteral : literal? inside with
    | none => none
    | some (text, rest) => (pieces? rest).map fun ps ↦ .code code :: .literal text :: ps
termination_by cs.length
decreasing_by
  have hinside := (List.dropWhile_suffix (· != '\'') (l := cs)).length_le
  rw [_hquote, List.length_cons] at hinside
  exact (length_of_literal? _hliteral).trans hinside

section Pieces

variable {code inside text rest : List Char} {ps : List Piece}

theorem ne_quote_of_mem (h : '\'' ∉ code) : ∀ c ∈ code, (c != '\'') = true := fun c hc ↦ by
  rw [bne_iff_ne]
  rintro rfl
  exact h hc

private theorem pieces?_of_not_mem (h : '\'' ∉ code) : pieces? code = some [.code code] := by
  have hcode := List.takeWhile_eq_self_iff.2 (ne_quote_of_mem h)
  have hnil := List.dropWhile_eq_nil_iff.2 (ne_quote_of_mem h)
  rw [pieces?, hcode]
  split
  · rfl
  · next heq =>
    rw [hnil] at heq
    cases heq

theorem pieces?_append (h : '\'' ∉ code) (hinside : literal? inside = some (text, rest))
    (hrest : pieces? rest = some ps) :
    pieces? (code ++ '\'' :: inside) = some (.code code :: .literal text :: ps) := by
  have hcode : (code ++ '\'' :: inside).takeWhile (· != '\'') = code := by
    rw [List.takeWhile_append_of_pos (ne_quote_of_mem h)]
    simp
  have hquote : (code ++ '\'' :: inside).dropWhile (· != '\'') = '\'' :: inside := by
    rw [List.dropWhile_append_of_pos (ne_quote_of_mem h)]
    simp
  rw [pieces?, hcode]
  split
  · next heq =>
    rw [hquote] at heq
    cases heq
  · next heq =>
    rw [hquote] at heq
    cases heq
    split
    · next hnone =>
      rw [hinside] at hnone
      cases hnone
    · next hsome =>
      rw [hinside] at hsome
      cases hsome
      rw [hrest, Option.map_some]

end Pieces

/-! ## Writing a name -/

/-- A text with a character replaced wherever it stands. -/
def replaced (c : Char) (new cs : List Char) : List Char :=
  cs.flatMap fun d ↦ if d = c then new else [d]

/-- What stands between the quotes of a name: backslashes are doubled, and then every quote gets a
backslash. The other way round the backslashes of the quotes would be doubled too. -/
def nameText (field : String) : List Char :=
  replaced '\'' ['\\', '\''] (replaced '\\' ['\\', '\\'] field.toList)

private theorem scriptEscape_eq (c : Char) :
    scriptEscape c = replaced '\'' ['\\', '\''] (replaced '\\' ['\\', '\\'] [c]) := by
  by_cases hslash : c = '\\'
  · subst hslash
    rfl
  · by_cases hquote : c = '\''
    · subst hquote
      rfl
    · simp [scriptEscape, replaced, hslash, hquote]

theorem flatMap_scriptEscape (field : String) :
    field.toList.flatMap scriptEscape = nameText field := by
  rw [nameText, replaced, replaced, List.flatMap_assoc]
  refine congrArg (field.toList.flatMap ·) (funext fun c ↦ ?_)
  rw [scriptEscape_eq, replaced, replaced, List.flatMap_singleton]

/-- A character of a name is read back as itself, and the literal goes on behind it. -/
theorem literal?_scriptEscape (c : Char) (cs : List Char) :
    literal? (scriptEscape c ++ cs)
      = (literal? cs).map fun (text, rest) ↦ (c :: text, rest) := by
  by_cases hslash : c = '\\'
  · subst hslash
    rfl
  · by_cases hquote : c = '\''
    · subst hquote
      rfl
    · have hescape : scriptEscape c = [c] := by simp [scriptEscape, hslash, hquote]
      rw [hescape, List.singleton_append, literal?]
      · exact hquote
      · intro _ heq
        exact absurd heq hslash
      · intro _ heq
        exact absurd heq hslash
      · exact hslash

theorem literal?_nameText (field : String) (rest : List Char) :
    literal? (nameText field ++ '\'' :: rest) = some (field.toList, rest) := by
  rw [← flatMap_scriptEscape]
  generalize field.toList = cs
  induction cs with
  | nil => rfl
  | cons c cs ih =>
    rw [List.flatMap_cons, List.append_assoc, literal?_scriptEscape, ih]
    rfl

/-! ## Whole scripts -/

private theorem toList_scriptLiteral (field : String) :
    (scriptLiteral field).toList = '\'' :: (nameText field ++ ['\'']) := by
  simp [scriptLiteral, flatMap_scriptEscape]

/-- The code before, between and after the three places of a field's name. -/
def scriptCode : List (List Char) := scriptParts.map String.toList

/-- The code has no literals, comments or backslashes of its own. -/
theorem not_mem_scriptCode :
    ∀ p ∈ scriptCode, ∀ c ∈ ['\'', '"', '\\', '/'], c ∉ p := by
  simp [scriptCode, scriptParts]

theorem toList_coalesceScript {p₀ p₁ p₂ p₃ : List Char} (hcode : scriptCode = [p₀, p₁, p₂, p₃])
    (field : String) :
    (coalesceScript field).toList =
      p₀ ++ '\'' :: (nameText field ++ '\'' :: (p₁ ++ '\'' :: (nameText field ++ '\'' ::
        (p₂ ++ '\'' :: (nameText field ++ '\'' :: p₃))))) := by
  rw [coalesceScript, String.toList_intercalate, ← scriptCode, hcode, toList_scriptLiteral]
  simp [List.intercalate]

/-- A script is that of one name only, which its first literal holds. -/
theorem coalesceScript_injective : Function.Injective coalesceScript := by
  obtain ⟨p₀, p₁, p₂, p₃, hcode⟩ : ∃ p₀ p₁ p₂ p₃, scriptCode = [p₀, p₁, p₂, p₃] :=
    ⟨_, _, _, _, rfl⟩
  intro f g h
  have hscript := congrArg String.toList h
  rw [toList_coalesceScript hcode, toList_coalesceScript hcode] at hscript
  have hliteral := congrArg literal? (List.cons.inj (List.append_cancel_left hscript)).2
  rw [literal?_nameText, literal?_nameText, Option.some.injEq, Prod.mk.injEq] at hliteral
  exact String.toList_inj.1 hliteral.1

/-- **No name breaks out of its script.** The code of a script is the same for all fields and has
no quotes, backslashes or comments. Between its four parts the name stands three times, each time
between quotes; the literal that begins at the first of them ends at the second, whatever comes
after it, and holds the name. So the script is read as its code with three times the name. -/
theorem coalesceScript_quotes_names :
    ∃ p₀ p₁ p₂ p₃ : List Char,
      (∀ p ∈ [p₀, p₁, p₂, p₃], ∀ c ∈ ['\'', '"', '\\', '/'], c ∉ p) ∧
      ∀ field : String,
        (coalesceScript field).toList =
          p₀ ++ '\'' :: (nameText field ++ '\'' :: (p₁ ++ '\'' :: (nameText field ++ '\'' ::
            (p₂ ++ '\'' :: (nameText field ++ '\'' :: p₃))))) ∧
        (∀ rest, literal? (nameText field ++ '\'' :: rest) = some (field.toList, rest)) ∧
        pieces? (coalesceScript field).toList =
          some [.code p₀, .literal field.toList, .code p₁, .literal field.toList, .code p₂,
            .literal field.toList, .code p₃] := by
  obtain ⟨p₀, p₁, p₂, p₃, hcode⟩ : ∃ p₀ p₁ p₂ p₃, scriptCode = [p₀, p₁, p₂, p₃] :=
    ⟨_, _, _, _, rfl⟩
  have hbare := not_mem_scriptCode
  rw [hcode] at hbare
  refine ⟨p₀, p₁, p₂, p₃, hbare, fun field ↦ ?_⟩
  have hquote : ∀ p ∈ [p₀, p₁, p₂, p₃], '\'' ∉ p := fun p hp ↦ hbare p hp _ List.mem_cons_self
  have hscript := toList_coalesceScript hcode field
  have hliteral := literal?_nameText field
  refine ⟨hscript, hliteral, ?_⟩
  rw [hscript]
  have hlast := pieces?_of_not_mem (hquote p₃ (by simp))
  have hthird := pieces?_append (hquote p₂ (by simp)) (hliteral p₃) hlast
  have hsecond := pieces?_append (hquote p₁ (by simp)) (hliteral _) hthird
  exact pieces?_append (hquote p₀ (by simp)) (hliteral _) hsecond

end FeedHarvest.Pipeline.Step
