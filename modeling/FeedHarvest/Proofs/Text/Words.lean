import FeedHarvest.Text.Blank
import Mathlib.Data.List.Basic
import Mathlib.Data.List.TakeWhile

/-!
# Words, and text that is squished

A blank between two texts keeps their words apart, whichever blank it is: that one equation is all
that is needed of words. From it, joining words with single spaces and looking for words again are
inverse to each other, so squishing keeps the words; and as the characters of words are those that
are not blank, it keeps these too.

What squishing brings about is said without words: every blank is a space, and stands alone between
two characters that are not blank. That is a normal form, since such texts are those that squishing
leaves as they are.
-/

namespace FeedHarvest.Text

/-! ## Words -/

section Words

variable {b : Char} {cs w : List Char} {ws : List (List Char)}

private theorem takeWhile_append_blank (hb : isBlank b = true) (cs rest : List Char) :
    (cs ++ b :: rest).takeWhile (!isBlank ·) = cs.takeWhile (!isBlank ·) := by
  induction cs with
  | nil => simp [hb]
  | cons c cs ih =>
    rw [List.cons_append, List.takeWhile_cons, List.takeWhile_cons, ih]

private theorem dropWhile_append_blank (hb : isBlank b = true) (cs rest : List Char) :
    (cs ++ b :: rest).dropWhile (!isBlank ·) = cs.dropWhile (!isBlank ·) ++ b :: rest := by
  induction cs with
  | nil => simp [hb]
  | cons c cs ih =>
    rw [List.cons_append, List.dropWhile_cons, List.dropWhile_cons, ih]
    split <;> rfl

theorem words_append_blank (hb : isBlank b = true) (cs rest : List Char) :
    words (cs ++ b :: rest) = words cs ++ words rest := by
  fun_induction words cs with
  | case1 => rw [List.nil_append, List.nil_append, words_cons_of_isBlank hb]
  | case2 c cs hc ih => rw [List.cons_append, words_cons_of_isBlank hc, ih]
  | case3 c cs hc ih =>
    rw [List.cons_append, words_cons_of_not_isBlank (Bool.eq_false_iff.2 hc),
      takeWhile_append_blank hb, dropWhile_append_blank hb, ih, List.cons_append]

/-- A word is not empty and has no blank in it. -/
def IsWord (w : List Char) : Prop := w ≠ [] ∧ ∀ c ∈ w, isBlank c = false

theorem isWord_of_mem_words (h : w ∈ words cs) : IsWord w := by
  fun_induction words cs with
  | case1 => exact absurd h List.not_mem_nil
  | case2 c cs hc ih => exact ih h
  | case3 c cs hc ih =>
    rcases List.mem_cons.1 h with rfl | h
    · refine ⟨List.cons_ne_nil _ _, List.forall_mem_cons.2 ⟨Bool.eq_false_iff.2 hc, ?_⟩⟩
      intro d hd
      simpa using List.mem_takeWhile_imp hd
    · exact ih h

theorem words_of_isWord (h : IsWord w) : words w = [w] := by
  obtain ⟨hne, hw⟩ := h
  obtain ⟨c, cs, rfl⟩ := List.exists_cons_of_ne_nil hne
  obtain ⟨hc, hcs⟩ := List.forall_mem_cons.1 hw
  have hall : ∀ d ∈ cs, (!isBlank d) = true := fun d hd ↦ by rw [hcs d hd]; rfl
  rw [words_cons_of_not_isBlank hc, List.takeWhile_eq_self_iff.2 hall,
    List.dropWhile_eq_nil_iff.2 hall, words_nil]

theorem flatten_words (cs : List Char) : (words cs).flatten = cs.filter (!isBlank ·) := by
  fun_induction words cs with
  | case1 => rfl
  | case2 c cs hc ih => rw [ih, List.filter_cons_of_neg (by simp [hc])]
  | case3 c cs hc ih =>
    have hcut : cs.filter (!isBlank ·)
        = cs.takeWhile (!isBlank ·) ++ (cs.dropWhile (!isBlank ·)).filter (!isBlank ·) := by
      have hfirst : (cs.takeWhile (!isBlank ·)).filter (!isBlank ·) = cs.takeWhile (!isBlank ·) :=
        List.filter_eq_self.2 fun c hd ↦ List.mem_takeWhile_imp (p := (!isBlank ·)) hd
      rw [← hfirst, ← List.filter_append, List.takeWhile_append_dropWhile]
    rw [List.flatten_cons, ih, List.filter_cons_of_pos (by simp [hc]), List.cons_append, hcut]

theorem words_intercalate (h : ∀ w ∈ ws, IsWord w) : words ([' '].intercalate ws) = ws := by
  induction ws with
  | nil => exact words_nil
  | cons w ws ih =>
    obtain ⟨hw, hws⟩ := List.forall_mem_cons.1 h
    cases ws with
    | nil => rw [List.intercalate_singleton, words_of_isWord hw]
    | cons v vs =>
      rw [List.intercalate_cons_cons, List.append_assoc, List.singleton_append,
        words_append_blank (by decide), words_of_isWord hw, ih hws, List.singleton_append]

theorem words_squish (cs : List Char) : words (squish cs) = words cs :=
  words_intercalate fun _ hw ↦ isWord_of_mem_words hw

theorem filter_squish (cs : List Char) :
    (squish cs).filter (!isBlank ·) = cs.filter (!isBlank ·) := by
  rw [← flatten_words, words_squish, flatten_words]

end Words

/-! ## Squished texts -/

/-- Texts in which every blank is a space and stands alone between two characters that are not
blank; neither end is blank. -/
structure IsSquished (cs : List Char) : Prop where
  starts : ∀ c ∈ cs.head?, isBlank c = false
  ends : ∀ c ∈ cs.getLast?, isBlank c = false
  between : ∀ before b after, cs = before ++ b :: after → isBlank b = true →
    b = ' ' ∧ (∃ c ∈ before.getLast?, isBlank c = false) ∧ ∃ c ∈ after.head?, isBlank c = false

namespace IsSquished

variable {cs w rest : List Char}

/-- A blank at an end would have nothing on one of its sides. -/
theorem of_between (h : ∀ before b after, cs = before ++ b :: after → isBlank b = true →
    b = ' ' ∧ (∃ c ∈ before.getLast?, isBlank c = false) ∧ ∃ c ∈ after.head?, isBlank c = false) :
    IsSquished cs where
  starts c hc := by
    obtain ⟨after, rfl⟩ := List.head?_eq_some_iff.1 hc
    refine Bool.eq_false_iff.2 fun hblank ↦ ?_
    obtain ⟨-, ⟨d, hd, -⟩, -⟩ := h [] c after rfl hblank
    cases hd
  ends c hc := by
    obtain ⟨before, rfl⟩ := List.getLast?_eq_some_iff.1 hc
    refine Bool.eq_false_iff.2 fun hblank ↦ ?_
    obtain ⟨-, -, d, hd, -⟩ := h before c [] rfl hblank
    cases hd
  between := h

theorem of_forall (h : ∀ c ∈ cs, isBlank c = false) : IsSquished cs :=
  of_between fun before b after heq hb ↦ by
    rw [h b (heq ▸ List.mem_append_right before List.mem_cons_self)] at hb
    cases hb

/-- A word in front of a squished text, with a space after it. -/
theorem word_append (hw : IsWord w) (h : IsSquished rest) (hne : rest ≠ []) :
    IsSquished (w ++ ' ' :: rest) := by
  have hlast : ∃ c ∈ w.getLast?, isBlank c = false :=
    ⟨w.getLast hw.1, List.getLast?_eq_some_getLast hw.1, hw.2 _ (List.getLast_mem hw.1)⟩
  have hfirst : ∃ c ∈ rest.head?, isBlank c = false :=
    ⟨rest.head hne, List.head?_eq_some_head hne, h.starts _ (List.head?_eq_some_head hne)⟩
  refine of_between fun before b after heq hb ↦ ?_
  -- the blank is in the word, after it, or in the rest
  rcases List.append_eq_append_iff.1 heq with ⟨as, rfl, has⟩ | ⟨bs, rfl, hbs⟩
  · rcases List.cons_eq_append_iff.1 has with ⟨rfl, has⟩ | ⟨as, rfl, rfl⟩
    · cases has
      rw [List.append_nil]
      exact ⟨rfl, hlast, hfirst⟩
    · obtain ⟨hspace, ⟨c, hc, hcblank⟩, hafter⟩ := h.between as b after rfl hb
      refine ⟨hspace, ⟨c, ?_, hcblank⟩, hafter⟩
      exact List.mem_getLast?_append_of_mem_getLast? (List.mem_getLast?_cons hc)
  · rcases List.cons_eq_append_iff.1 hbs with ⟨rfl, hbs⟩ | ⟨bs, rfl, -⟩
    · cases hbs
      rw [List.append_nil] at hlast
      exact ⟨rfl, hlast, hfirst⟩
    · rw [hw.2 b (List.mem_append_right before List.mem_cons_self)] at hb
      cases hb

/-- What stands after a blank of a squished text is squished. -/
theorem of_append {b : Char} (h : IsSquished (w ++ b :: rest)) (hb : isBlank b = true) :
    IsSquished rest := by
  refine of_between fun before d after heq hd ↦ ?_
  obtain ⟨hspace, ⟨c, hc, hcblank⟩, hafter⟩ :=
    h.between (w ++ b :: before) d after (by rw [heq]; simp) hd
  refine ⟨hspace, ⟨c, ?_, hcblank⟩, hafter⟩
  rw [List.getLast?_append_cons] at hc
  -- the blank itself cannot be what stands before the next one
  cases before with
  | nil =>
    rw [List.getLast?_singleton] at hc
    cases hc
    rw [hb] at hcblank
    cases hcblank
  | cons x xs => rwa [List.getLast?_cons_cons] at hc

/-- A squished text has no blank, or is a word, a space and a squished text again. -/
theorem cut (h : IsSquished cs) : (∀ c ∈ cs, isBlank c = false) ∨
    ∃ w rest, cs = w ++ ' ' :: rest ∧ IsWord w ∧ rest ≠ [] ∧ IsSquished rest := by
  have hfirst : ∀ c ∈ cs.takeWhile (!isBlank ·), isBlank c = false := fun c hc ↦ by
    simpa using List.mem_takeWhile_imp hc
  have hcut : cs.takeWhile (!isBlank ·) ++ cs.dropWhile (!isBlank ·) = cs :=
    List.takeWhile_append_dropWhile
  generalize cs.takeWhile (!isBlank ·) = w at hfirst hcut
  have hhead := List.head?_dropWhile_not (!isBlank ·) cs
  cases hrest : cs.dropWhile (!isBlank ·) with
  | nil =>
    rw [hrest, List.append_nil] at hcut
    exact .inl (hcut ▸ hfirst)
  | cons b rest =>
    rw [hrest] at hcut hhead
    subst hcut
    have hb : isBlank b = true := by simpa using hhead
    obtain ⟨rfl, ⟨c, hc, -⟩, d, hd, -⟩ := h.between w b rest rfl hb
    refine .inr ⟨w, rest, rfl, ⟨?_, hfirst⟩, ?_, h.of_append hb⟩
    · exact List.ne_nil_of_mem (List.mem_of_mem_getLast? hc)
    · exact List.ne_nil_of_mem (List.mem_of_mem_head? hd)

end IsSquished

private theorem isSquished_intercalate {ws : List (List Char)} (h : ∀ w ∈ ws, IsWord w) :
    IsSquished ([' '].intercalate ws) := by
  induction ws with
  | nil => exact .of_forall fun c hc ↦ absurd hc List.not_mem_nil
  | cons w ws ih =>
    obtain ⟨hw, hws⟩ := List.forall_mem_cons.1 h
    cases ws with
    | nil =>
      rw [List.intercalate_singleton]
      exact .of_forall hw.2
    | cons v vs =>
      rw [List.intercalate_cons_cons, List.append_assoc, List.singleton_append]
      refine .word_append hw (ih hws) fun hnil ↦ ?_
      -- joined words that come to nothing would have no words
      have hwords := words_intercalate hws
      rw [hnil, words_nil] at hwords
      cases hwords

/-- Squishing brings about its normal form. -/
theorem isSquished_squish (cs : List Char) : IsSquished (squish cs) :=
  isSquished_intercalate fun _ hw ↦ isWord_of_mem_words hw

private theorem squish_of_forall {cs : List Char} (h : ∀ c ∈ cs, isBlank c = false) :
    squish cs = cs := by
  by_cases hne : cs = []
  · rw [hne, squish, words_nil, List.intercalate_nil]
  · rw [squish, words_of_isWord ⟨hne, h⟩, List.intercalate_singleton]

private theorem squish_word_append {w rest : List Char} (hw : IsWord w) (hrest : squish rest ≠ []) :
    squish (w ++ ' ' :: rest) = w ++ ' ' :: squish rest := by
  rw [squish, words_append_blank (by decide), words_of_isWord hw, List.singleton_append]
  rw [squish] at hrest ⊢
  cases hwords : words rest with
  | nil => exact absurd (hwords ▸ List.intercalate_nil) hrest
  | cons v vs => rw [List.intercalate_cons_cons, List.append_assoc, List.singleton_append]

private theorem squish_of_isSquished {cs : List Char} (h : IsSquished cs) : squish cs = cs := by
  -- on the length, as what follows the first space is squished again
  induction hn : cs.length using Nat.strong_induction_on generalizing cs with
  | _ n ih =>
    rcases h.cut with hall | ⟨w, rest, rfl, hw, hne, hrest⟩
    · exact squish_of_forall hall
    · have hlength : rest.length < n := by
        rw [← hn, List.length_append, List.length_cons]
        omega
      have hsquish : squish rest = rest := ih _ hlength hrest rfl
      rw [squish_word_append hw (by rwa [hsquish]), hsquish]

theorem squish_eq_self_iff {cs : List Char} : squish cs = cs ↔ IsSquished cs :=
  ⟨fun h ↦ h ▸ isSquished_squish cs, squish_of_isSquished⟩

end FeedHarvest.Text
