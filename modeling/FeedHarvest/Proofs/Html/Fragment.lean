import FeedHarvest.Html.Fragment
import FeedHarvest.Proofs.Xml.Event

/-!
# Fragments without elements

A text in which no tag begins leaves the tree builder with its root alone, and the root with the
characters read so far. So the builder's state is a list of characters, and reading appends to it:
one character for each *spelling* of one, be it the character itself or a reference to it.

Lexer and tree builder never see a carriage return. Replacing the line breaks commutes with writing
references, since no reference has a line break inside.
-/

namespace FeedHarvest.Html

/-! ## Line breaks -/

theorem mem_lineFeeds {c : Char} {cs : List Char} (h : c ∈ lineFeeds cs) : c ∈ cs ∨ c = '\n' := by
  fun_induction lineFeeds cs with
  | case1 cs ih | case2 cs _ ih =>
    rcases List.mem_cons.1 h with rfl | h
    · exact .inr rfl
    · exact (ih h).imp_left fun hc ↦ by simp [hc]
  | case3 d cs _ _ ih =>
    rcases List.mem_cons.1 h with rfl | h
    · exact .inl List.mem_cons_self
    · exact (ih h).imp_left (List.mem_cons_of_mem d)
  | case4 => exact .inl h

theorem lineFeeds_cons_of_ne {c : Char} (h : c ≠ '\r') (cs : List Char) :
    lineFeeds (c :: cs) = c :: lineFeeds cs := by
  rw [lineFeeds]
  · rintro _ rfl
    exact absurd rfl h
  · exact h

private theorem lineFeeds_append {piece : List Char} (h : '\r' ∉ piece) (rest : List Char) :
    lineFeeds (piece ++ rest) = piece ++ lineFeeds rest := by
  induction piece with
  | nil => rfl
  | cons c piece ih =>
    rw [List.mem_cons, not_or] at h
    rw [List.cons_append, lineFeeds_cons_of_ne (Ne.symm h.1), ih h.2, List.cons_append]

theorem withoutMark_of_head? {cs : List Char} (h : cs.head? ≠ some '\uFEFF') :
    withoutMark cs = cs := by
  rw [withoutMark]
  rintro rest rfl
  exact h rfl

/-! ## Spellings -/

/-- Whether a piece of markup is read as one character, whatever comes after it. -/
def Spells (piece : List Char) (c : Char) : Prop :=
  ∃ d ds, piece = d :: ds ∧ ∀ rest, lex .markup false d (ds ++ rest) = ⟨[.text c], .markup, rest⟩

theorem spells_self {c : Char} (hbracket : c ≠ '<') (hampersand : c ≠ '&') (hnull : c ≠ '\x00') :
    Spells [c] c := by
  refine ⟨c, [], rfl, fun rest ↦ ?_⟩
  rw [lex, List.nil_append, beq_false_of_ne hbracket, beq_false_of_ne hampersand, characterToken,
    beq_false_of_ne hnull]
  rfl

theorem spells_escape {c : Char} (hnull : c ≠ '\x00') : Spells (Xml.escape c) c := by
  by_cases hampersand : c = '&'
  · subst hampersand
    exact ⟨'&', ['a', 'm', 'p', ';'], rfl, fun rest ↦ rfl⟩
  by_cases hopening : c = '<'
  · subst hopening
    exact ⟨'&', ['l', 't', ';'], rfl, fun rest ↦ rfl⟩
  by_cases hclosing : c = '>'
  · subst hclosing
    exact ⟨'&', ['g', 't', ';'], rfl, fun rest ↦ rfl⟩
  · rw [Xml.escape, if_neg hampersand, if_neg hopening, if_neg hclosing]
    exact spells_self hopening hampersand hnull

/-! ## Builders that have met only text -/

theorem Tree.collect_of_contents {t : Tree} {id : Nat} {cs : List Char}
    (h : (t.get id).contents = cs.map .char) (fuel : Nat) (acc : List Char) :
    t.collect (fuel + 1) id acc = cs.reverse ++ acc := by
  rw [Tree.collect, h, List.foldl_map]
  exact List.foldl_flip_cons_eq_append'

namespace Builder

/-- The builder that has met only text, its latest character first. -/
def ofText (text : List Char) : Builder := { tree := ⟨#[{ contents := text.map .char }]⟩ }

private theorem take_text (text : List Char) (c : Char) :
    (ofText text).take (.text c) = ofText (c :: text) := rfl

private theorem text_finish_ofText (text : List Char) :
    (ofText text).finish.tree.text = text.reverse :=
  (Tree.collect_of_contents (t := (ofText text).finish.tree) rfl 0 []).trans (List.append_nil _)

/-- Spellings are read one after the other: each puts its character behind the text. -/
theorem read_flatMap {spell : Char → List Char} {cs : List Char} (h : ∀ c ∈ cs, Spells (spell c) c)
    (before : List Char) {fuel : Nat} (hfuel : (cs.flatMap spell).length ≤ fuel) :
    read fuel (ofText before) (cs.flatMap spell) = ofText (cs.reverse ++ before) := by
  induction cs generalizing before fuel with
  | nil => cases fuel <;> rfl
  | cons c cs ih =>
    obtain ⟨d, ds, hpiece, hlex⟩ := h c List.mem_cons_self
    rw [List.flatMap_cons, hpiece, List.cons_append] at hfuel ⊢
    rw [List.length_cons, List.length_append] at hfuel
    obtain ⟨fuel, rfl⟩ : ∃ n, fuel = n + 1 := ⟨fuel - 1, by omega⟩
    have hread : lex (ofText before).content ((ofText before).current.space != .html) d
        (ds ++ cs.flatMap spell) = ⟨[.text c], .markup, cs.flatMap spell⟩ := hlex _
    rw [read, hread]
    have hrest : read fuel (ofText (c :: before)) (cs.flatMap spell)
        = ofText (cs.reverse ++ c :: before) :=
      ih (fun e he ↦ h e (List.mem_cons_of_mem c he)) (c :: before) (by omega)
    rw [List.reverse_cons, List.append_assoc, List.singleton_append, ← hrest, ← take_text]
    rfl

end Builder

/-- **A text of spellings is read as the characters spelled.** -/
theorem fragmentText_of_spelled (spell : Char → List Char) {cs text : List Char}
    (htext : lineFeeds (withoutMark text) = cs.flatMap spell) (h : ∀ c ∈ cs, Spells (spell c) c) :
    fragmentText text = cs := by
  have hread := Builder.read_flatMap h [] (Nat.le_refl _)
  have hempty : ({} : Builder) = Builder.ofText [] := rfl
  rw [fragmentText]
  simp only [htext]
  rw [hempty, hread, Builder.text_finish_ofText, List.append_nil, List.reverse_reverse]

theorem fragmentText_of_plain {cs : List Char} (hmark : cs.head? ≠ some '\uFEFF')
    (h : ∀ c ∈ cs, c ≠ '<' ∧ c ≠ '&' ∧ c ≠ '\x00') : fragmentText cs = lineFeeds cs := by
  refine fragmentText_of_spelled (fun c ↦ [c]) ?_ fun c hc ↦ ?_
  · rw [withoutMark_of_head? hmark, List.flatMap_singleton']
  · rcases mem_lineFeeds hc with hc | rfl
    · exact spells_self (h c hc).1 (h c hc).2.1 (h c hc).2.2
    · exact spells_self (by decide) (by decide) (by decide)

/-! ## Escaped texts -/

theorem escaped_cons (c : Char) (cs : List Char) :
    Xml.escaped (c :: cs) = Xml.escape c ++ Xml.escaped cs := List.flatMap_cons

theorem head?_escaped {c : Char} (hc : c ≠ '&') {cs : List Char} (h : cs.head? ≠ some c) :
    (Xml.escaped cs).head? ≠ some c := by
  cases cs with
  | nil => exact h
  | cons d cs =>
    rw [escaped_cons]
    rcases Xml.escape_eq_or d with ⟨heq, -⟩ | ⟨name, heq, -⟩
    · rw [heq]
      exact h
    · rw [heq]
      intro hhead
      exact hc (Option.some.inj hhead).symm

private theorem return_not_mem_escape {c : Char} (h : c ≠ '\r') : '\r' ∉ Xml.escape c := by
  rw [Xml.escape]
  split
  · decide
  · split
    · decide
    · split
      · decide
      · rw [List.mem_singleton]
        exact Ne.symm h

private theorem lineFeeds_escaped (cs : List Char) :
    lineFeeds (Xml.escaped cs) = Xml.escaped (lineFeeds cs) := by
  fun_induction lineFeeds cs with
  | case1 cs ih =>
    have hbreak : Xml.escaped ('\r' :: '\n' :: cs) = '\r' :: '\n' :: Xml.escaped cs := rfl
    rw [hbreak, lineFeeds, ih]
    rfl
  | case2 cs hcs ih =>
    have hreturn : Xml.escaped ('\r' :: cs) = '\r' :: Xml.escaped cs := rfl
    have hhead : (Xml.escaped cs).head? ≠ some '\n' := by
      refine head?_escaped (by decide) fun hhead ↦ ?_
      obtain ⟨rest, rfl⟩ := List.head?_eq_some_iff.1 hhead
      exact hcs rest rfl
    rw [hreturn, lineFeeds, ih]
    · rfl
    · intro rest heq
      rw [heq] at hhead
      exact hhead rfl
  | case3 c cs _ hreturn ih =>
    rw [escaped_cons, lineFeeds_append (return_not_mem_escape hreturn), ih, escaped_cons]
  | case4 => rfl

/-- Text with references for what markup uses is read as that text, its line breaks replaced. -/
theorem fragmentText_escaped {cs : List Char} (hmark : cs.head? ≠ some '\uFEFF')
    (hnull : '\x00' ∉ cs) : fragmentText (Xml.escaped cs) = lineFeeds cs := by
  refine fragmentText_of_spelled Xml.escape ?_ fun c hc ↦ spells_escape ?_
  · rw [withoutMark_of_head? (head?_escaped (by decide) hmark), lineFeeds_escaped, Xml.escaped]
  · rintro rfl
    rcases mem_lineFeeds hc with hc | hc
    · exact hnull hc
    · exact absurd hc (by decide)

end FeedHarvest.Html
