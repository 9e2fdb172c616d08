import FeedHarvest.Proofs.Html.Fragment
import FeedHarvest.Record.Cleaning

/-!
# Cleaning text that holds no markup

Cleaning reads a text as markup only when it may hold some. That this is a shortcut and no second
rule has two halves: text without markup comes out of the reading as it went in but for its line
breaks, and squishing does not see how lines are broken. The same holds of text whose markup has
been escaped, which the shortcut does not take.
-/

namespace FeedHarvest

/-! ## Line breaks and words -/

namespace Text

open Html

private theorem takeWhile_lineFeeds (cs : List Char) :
    (lineFeeds cs).takeWhile (!isBlank ·) = cs.takeWhile (!isBlank ·) := by
  fun_induction lineFeeds cs with
  | case1 | case2 => rfl
  | case3 c cs _ _ ih => rw [List.takeWhile_cons, List.takeWhile_cons, ih]
  | case4 => rfl

private theorem dropWhile_lineFeeds (cs : List Char) :
    (lineFeeds cs).dropWhile (!isBlank ·) = lineFeeds (cs.dropWhile (!isBlank ·)) := by
  fun_induction lineFeeds cs with
  | case1 cs => rfl
  | case2 cs hcs =>
    have hreturn : ('\r' :: cs).dropWhile (!isBlank ·) = '\r' :: cs := rfl
    rw [hreturn, lineFeeds]
    · rfl
    · exact hcs
  | case3 c cs _ hreturn ih =>
    by_cases hblank : isBlank c = true
    · rw [List.dropWhile_cons_of_neg (by simp [hblank]),
        List.dropWhile_cons_of_neg (by simp [hblank]), lineFeeds_cons_of_ne hreturn]
    · rw [List.dropWhile_cons_of_pos (by simp [hblank]),
        List.dropWhile_cons_of_pos (by simp [hblank]), ih]
  | case4 => rfl

/-- A line break in front of a text is a blank, however it is written. -/
theorem words_lineFeeds_cons {c : Char} (h : isBlank c = true) (cs : List Char) :
    words (lineFeeds (c :: cs)) = words (lineFeeds cs) := by
  by_cases hreturn : c = '\r'
  · subst hreturn
    rw [lineFeeds.eq_def]
    split
    · next rest heq =>
      cases heq
      rw [lineFeeds_cons_of_ne (by decide)]
    · next rest _ heq =>
      cases heq
      exact words_cons_of_isBlank (by decide)
    · next hnot heq =>
      cases heq
      exact absurd rfl hnot
    · next heq => cases heq
  · rw [lineFeeds_cons_of_ne hreturn, words_cons_of_isBlank h]

private theorem words_lineFeeds (cs : List Char) : words (lineFeeds cs) = words cs := by
  fun_induction words cs with
  | case1 => exact words_nil
  | case2 c cs hblank ih => rw [words_lineFeeds_cons hblank, ih]
  | case3 c cs hblank ih =>
    have hnot : isBlank c = false := Bool.eq_false_iff.2 hblank
    have hreturn : c ≠ '\r' := by
      rintro rfl
      exact hblank rfl
    rw [lineFeeds_cons_of_ne hreturn, words_cons_of_not_isBlank hnot, takeWhile_lineFeeds,
      dropWhile_lineFeeds, ih]

/-- Squishing does not see how lines are broken. -/
theorem squish_lineFeeds (cs : List Char) : squish (lineFeeds cs) = squish cs := by
  rw [squish, words_lineFeeds, squish]

end Text

/-! ## The two ways of cleaning -/

section Cleaning

variable {s : String}

theorem isPlainText_iff {cs : List Char} :
    isPlainText cs = true ↔ ∀ c ∈ cs, c ≠ '<' ∧ c ≠ '&' := by
  simp [isPlainText]

/-- An escaped text that needs no reading as markup had nothing to escape. -/
theorem escaped_of_isPlainText {cs : List Char} (h : isPlainText (Xml.escaped cs) = true) :
    Xml.escaped cs = cs := by
  induction cs with
  | nil => rfl
  | cons c cs ih =>
    rw [Html.escaped_cons] at h ⊢
    have hplain := isPlainText_iff.1 h
    rcases Xml.escape_eq_or c with ⟨heq, -⟩ | ⟨name, heq, -⟩
    · rw [heq, List.singleton_append, ih]
      exact isPlainText_iff.2 fun d hd ↦ hplain d (List.mem_append_right _ hd)
    · have hmem : '&' ∈ Xml.escape c ++ Xml.escaped cs := by simp [heq]
      exact absurd rfl (hplain '&' hmem).2

/-- **Escaped text survives cleaning.** A text whose markup has been written as references is
cleaned to that very text, squished: what reads as a tag, a comment or a reference in it stays, and
no reference is read twice. -/
theorem cleaned_escaped (hmark : s.toList.head? ≠ some '\uFEFF') (hnull : '\x00' ∉ s.toList) :
    cleaned (String.ofList (Xml.escaped s.toList)) = String.ofList (Text.squish s.toList) := by
  rw [cleaned, String.toList_ofList, cleanText]
  split
  · next hplain => rw [escaped_of_isPlainText hplain]
  · rw [Html.fragmentText_escaped hmark hnull, Text.squish_lineFeeds]

/-- A text that already reads as a reference, a tag, and the beginning of a comment. -/
theorem cleaned_escaped_of_reference :
    let s := "&lt;b&gt;\r\n <i> <!-- R&D"
    (s.toList.head? ≠ some '\uFEFF' ∧ '\x00' ∉ s.toList) ∧
      cleaned "&amp;lt;b&amp;gt;\r\n &lt;i&gt; &lt;!-- R&amp;D" = "&lt;b&gt; <i> <!-- R&D" := by
  intro s
  have hmark : s.toList.head? ≠ some '\uFEFF' := by decide
  have hnull : '\x00' ∉ s.toList := by decide
  have hescaped : String.ofList (Xml.escaped s.toList)
      = "&amp;lt;b&amp;gt;\r\n &lt;i&gt; &lt;!-- R&amp;D" := by decide
  have hsquished : Text.squish s.toList = "&lt;b&gt; <i> <!-- R&D".toList := by decide +kernel
  refine ⟨⟨hmark, hnull⟩, ?_⟩
  rw [← hescaped, cleaned_escaped hmark hnull, hsquished, String.ofList_toList]

/-- **The shortcut agrees with reading markup.** A text without markup is cleaned by squishing
alone, and squishing what it says as a fragment of markup gives the same. -/
theorem cleaned_of_plain (hmark : s.toList.head? ≠ some '\uFEFF')
    (h : ∀ c ∈ s.toList, c ≠ '<' ∧ c ≠ '&' ∧ c ≠ '\x00') :
    cleaned s = String.ofList (Text.squish s.toList) ∧
      Text.squish (Html.fragmentText s.toList) = Text.squish s.toList := by
  have hplain : isPlainText s.toList = true :=
    isPlainText_iff.2 fun c hc ↦ ⟨(h c hc).1, (h c hc).2.1⟩
  refine ⟨?_, ?_⟩
  · rw [cleaned, cleanText, if_pos hplain]
  · rw [Html.fragmentText_of_plain hmark h, Text.squish_lineFeeds]

/-- A lone closing bracket, a broken line, a control character and a blank beyond ASCII. -/
theorem cleaned_of_plain_of_bracket :
    let s := "a >\r\n\u3000b\x01;"
    (s.toList.head? ≠ some '\uFEFF' ∧ ∀ c ∈ s.toList, c ≠ '<' ∧ c ≠ '&' ∧ c ≠ '\x00') ∧
      cleaned s = "a > b\x01;" ∧
      Text.squish (Html.fragmentText s.toList) = "a > b\x01;".toList := by
  intro s
  have hmark : s.toList.head? ≠ some '\uFEFF' := by decide
  have hplain : ∀ c ∈ s.toList, c ≠ '<' ∧ c ≠ '&' ∧ c ≠ '\x00' := by simp [s]
  have hsquished : Text.squish s.toList = "a > b\x01;".toList := by decide +kernel
  obtain ⟨hcleaned, hread⟩ := cleaned_of_plain hmark hplain
  refine ⟨⟨hmark, hplain⟩, ?_, ?_⟩
  · rw [hcleaned, hsquished, String.ofList_toList]
  · rw [hread, hsquished]

end Cleaning

end FeedHarvest
