import FeedHarvest.Feed.Basic

/-!
# How a feed is recognised

What stands at the beginning of a feed decides its format before anything else of it is looked at:
an XML declaration, or a bracket behind any blanks. Only a feed that begins with neither is asked
whether it holds a tab.
-/

namespace FeedHarvest.Feed

variable {marks ws rest : List Char} {c : Char}

theorem body_cons_of_ne (hc : c ≠ '\uFEFF') (rest : List Char) : body (c :: rest) = c :: rest := by
  rw [body, List.dropWhile_cons, beq_false_of_ne hc, if_neg Bool.false_ne_true]

private theorem body_marks_append (hmarks : ∀ c ∈ marks, c = '\uFEFF') (rest : List Char) :
    body (marks ++ rest) = body rest := by
  rw [body, List.dropWhile_append_of_pos fun c hc ↦ beq_iff_eq.2 (hmarks c hc), body]

theorem records_of_declaration (rest : List Char) :
    records ("<?xml".toList ++ rest)
      = (Markup.records ("<?xml".toList ++ rest)).mapError .xml := by
  have hbody : body ("<?xml".toList ++ rest) = "<?xml".toList ++ rest :=
    body_cons_of_ne (by decide) _
  have hformat : format ("<?xml".toList ++ rest) = .xml := by
    rw [format, hbody, if_pos]
    exact List.isPrefixOf_iff_prefix.2 (List.prefix_append _ _)
  rw [records, hformat, hbody]

theorem records_of_bracket (hmarks : ∀ c ∈ marks, c = '\uFEFF')
    (hws : ∀ c ∈ ws, Text.isBlank c = true) (hc : c = '\x7b' ∨ c = '[') (rest : List Char) :
    records (marks ++ (ws ++ c :: rest)) = match Json.parse? (ws ++ c :: rest) with
      | some v => (Rows.recordsOf v).mapError .scalar
      | none => .error .json := by
  -- neither a mark nor a declaration begins like the text, which begins with a blank or a bracket
  obtain ⟨d, cs, hcs, hd⟩ : ∃ d cs, ws ++ c :: rest = d :: cs ∧
      (Text.isBlank d = true ∨ d = '\x7b' ∨ d = '[') := by
    cases ws with
    | nil => exact ⟨c, rest, rfl, .inr hc⟩
    | cons w ws => exact ⟨w, ws ++ c :: rest, rfl, .inl (hws w List.mem_cons_self)⟩
  have hbody : body (marks ++ (ws ++ c :: rest)) = ws ++ c :: rest := by
    rw [body_marks_append hmarks, hcs]
    refine body_cons_of_ne ?_ cs
    rintro rfl
    exact absurd hd (by decide)
  have hxml : "<?xml".toList.isPrefixOf (ws ++ c :: rest) = false := by
    have hne : '<' ≠ d := by
      rintro rfl
      exact absurd hd (by decide)
    rw [hcs]
    simp [List.isPrefixOf, hne]
  have htrim : Text.trimStart (ws ++ c :: rest) = c :: rest := by
    have hblank : Text.isBlank c = false := by rcases hc with rfl | rfl <;> decide
    rw [Text.trimStart, List.dropWhile_append_of_pos hws, List.dropWhile_cons, hblank,
      if_neg Bool.false_ne_true]
  have hformat : format (marks ++ (ws ++ c :: rest)) = .json := by
    rw [format, hbody, hxml, if_neg Bool.false_ne_true, htrim, if_pos]
    rcases hc with rfl | rfl <;> rfl
  cases hv : Json.parse? (ws ++ c :: rest) with
  | none => simp only [records, hformat, hbody, hv]
  | some v => simp only [records, hformat, hbody, hv]

/-- A feed that begins with a quote is tabular, with tabs if it holds any. -/
theorem records_of_quote (rest : List Char) :
    records ('"' :: rest)
      = .ok (Delimited.records (if '\t' ∈ rest then '\t' else ',') ('"' :: rest)) := by
  have hbody : body ('"' :: rest) = '"' :: rest := body_cons_of_ne (by decide) rest
  have hformat : format ('"' :: rest) = if '\t' ∈ rest then .tsv else .csv := by
    rw [format, hbody]
    simp [Text.trimStart, Text.isBlank]
  rw [records, hformat, hbody]
  by_cases htab : '\t' ∈ rest
  · rw [if_pos htab, if_pos htab]
  · rw [if_neg htab, if_neg htab]

end FeedHarvest.Feed
