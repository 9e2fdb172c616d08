import FeedHarvest.Proofs.Feed.Format
import FeedHarvest.Proofs.Json.Value

/-!
# The rows of written JSON

A JSON text is recognised by its first bracket and read back as the value it was written from, in
either layout. So what a JSON feed yields can be said of values: the objects of an array, in their
order, or an object itself. The array is the feed, or the first member of it that holds an object.
-/

namespace FeedHarvest.Feed.Rows

open Json (IsPlain nesting maxDepth)

/-- Whether a value is an array with an object in it. -/
def HoldsRows (v : Json) : Prop := ∃ vs, v = .array vs ∧ ∃ x ∈ vs, x.isObject = true

section Values

variable {v : Json} {vs : List Json} {ms : List (String × Json)}

theorem map_objects (vs : List Json) : (objects vs).map Json.object = vs.filter Json.isObject := by
  rw [objects, List.map_filterMap, ← List.filterMap_eq_filter]
  refine congrArg (List.filterMap · vs) (funext fun v ↦ ?_)
  cases v <;> rfl

private theorem rowsOf?_of_exists (h : ∃ x ∈ vs, x.isObject = true) :
    rowsOf? (.array vs) = some vs := by
  rw [rowsOf?, if_pos (List.any_eq_true.2 h)]

theorem rowsOf?_eq_none (h : ¬ HoldsRows v) : rowsOf? v = none := by
  cases v with
  | array vs =>
    rw [rowsOf?, if_neg]
    exact fun hany ↦ h ⟨vs, rfl, List.any_eq_true.1 hany⟩
  | _ => rfl

private theorem recordsOf_of_first {before after : List (String × Json)} {name : String}
    (hbefore : ∀ m ∈ before, ¬ HoldsRows m.2) (hvs : ∃ x ∈ vs, x.isObject = true) :
    recordsOf (.object (before ++ (name, .array vs) :: after)) = .ok (objects vs) := by
  -- the members before hold no rows, so the search goes on to this one and no further
  have hnone : (before.findSome? fun m ↦ rowsOf? m.2) = none :=
    List.findSome?_eq_none_iff.2 fun m hm ↦ rowsOf?_eq_none (hbefore m hm)
  rw [recordsOf, List.findSome?_append, hnone, Option.none_or, List.findSome?_cons]
  dsimp only
  rw [rowsOf?_of_exists hvs]

private theorem recordsOf_of_none (h : ∀ m ∈ ms, ¬ HoldsRows m.2) :
    recordsOf (.object ms) = .ok [ms] := by
  have hnone : (ms.findSome? fun m ↦ rowsOf? m.2) = none :=
    List.findSome?_eq_none_iff.2 fun m hm ↦ rowsOf?_eq_none (h m hm)
  rw [recordsOf, hnone]

end Values

theorem exists_written_eq_cons {v : Json} {text : String}
    (hv : (∃ vs, v = .array vs) ∨ ∃ ms, v = .object ms)
    (htext : text = v.compact ∨ text = v.pretty) :
    ∃ c rest, text.toList = c :: rest ∧ (c = '\x7b' ∨ c = '[') := by
  have hcompact : ∃ c rest, v.compactText = c :: rest ∧ (c = '\x7b' ∨ c = '[') := by
    rcases hv with ⟨vs, rfl⟩ | ⟨ms, rfl⟩
    · exact ⟨'[', _, by rw [Json.compactText]; rfl, .inr rfl⟩
    · exact ⟨'\x7b', _, by rw [Json.compactText]; rfl, .inl rfl⟩
  have hpretty : ∃ c rest, v.prettyText 0 = c :: rest ∧ (c = '\x7b' ∨ c = '[') := by
    rcases hv with ⟨vs, rfl⟩ | ⟨ms, rfl⟩
    · cases vs with
      | nil => exact ⟨'[', _, by rw [Json.prettyText], .inr rfl⟩
      | cons v vs => exact ⟨'[', _, by rw [Json.prettyText]; rfl; rintro ⟨⟩, .inr rfl⟩
    · cases ms with
      | nil => exact ⟨'\x7b', _, by rw [Json.prettyText], .inl rfl⟩
      | cons m ms => exact ⟨'\x7b', _, by rw [Json.prettyText]; rfl; rintro ⟨⟩, .inl rfl⟩
  rcases htext with rfl | rfl
  · rwa [Json.compact, String.toList_ofList]
  · rwa [Json.pretty, String.toList_ofList]

private theorem isBlank_of_isSpace {c : Char} (h : Json.isSpace c = true) :
    Text.isBlank c = true := by
  simp only [Json.isSpace, Bool.or_eq_true, beq_iff_eq] at h
  rcases h with ((rfl | rfl) | rfl) | rfl <;> decide

theorem records_of_written {v : Json} {marks ws : List Char} {text : String} (h : IsPlain v)
    (hn : nesting v ≤ maxDepth) (hv : (∃ vs, v = .array vs) ∨ ∃ ms, v = .object ms)
    (hmarks : ∀ c ∈ marks, c = '\uFEFF') (hws : ∀ c ∈ ws, Json.isSpace c = true)
    (htext : text = v.compact ∨ text = v.pretty) :
    Feed.records (marks ++ (ws ++ text.toList)) = (recordsOf v).mapError .scalar := by
  have hparse := Json.parse?_written h hn hws htext
  obtain ⟨c, rest, hcons, hc⟩ := exists_written_eq_cons hv htext
  rw [hcons] at hparse ⊢
  rw [records_of_bracket hmarks (fun c hc ↦ isBlank_of_isSpace (hws c hc)) hc, hparse]

/-- A written value is read back as its rows, with any byte-order marks and then any blanks before
it, whichever way it is laid out. -/
theorem records_written {v : Json} {marks ws : List Char} {text : String} (h : IsPlain v)
    (hn : nesting v ≤ maxDepth) (hmarks : ∀ c ∈ marks, c = '\uFEFF')
    (hws : ∀ c ∈ ws, Json.isSpace c = true) (htext : text = v.compact ∨ text = v.pretty) :
    let feed := marks ++ (ws ++ text.toList)
    (∀ vs, v = .array vs →
      ∃ records, Feed.records feed = .ok records ∧
        records.map Json.object = vs.filter Json.isObject) ∧
    ∀ ms, v = .object ms →
      (∀ before name vs after, ms = before ++ (name, .array vs) :: after →
        (∀ m ∈ before, ¬ HoldsRows m.2) → HoldsRows (.array vs) →
        ∃ records, Feed.records feed = .ok records ∧
          records.map Json.object = vs.filter Json.isObject) ∧
      ((∀ m ∈ ms, ¬ HoldsRows m.2) → Feed.records feed = .ok [ms]) := by
  intro feed
  have hread := fun hv ↦ records_of_written h hn hv hmarks hws htext
  refine ⟨?_, ?_⟩
  · rintro vs rfl
    exact ⟨objects vs, hread (.inl ⟨vs, rfl⟩), map_objects vs⟩
  · rintro ms rfl
    have hms := hread (.inr ⟨ms, rfl⟩)
    refine ⟨?_, fun hnone ↦ ?_⟩
    · rintro before name vs after rfl hbefore ⟨_, heq, hrows⟩
      cases heq
      refine ⟨objects vs, hms.trans ?_, map_objects vs⟩
      rw [recordsOf_of_first hbefore hrows]
      rfl
    · refine hms.trans ?_
      rw [recordsOf_of_none hnone]
      rfl

theorem records_written_of_second_array :
    let rows : List Json := [.object [("b", .null), ("a", .string "\t,")], .null, .object []]
    let v : Json := .object [("n", .number (.int (-1))), ("tags", .array [.string "x"]),
      ("rows", .array rows), ("more", .array [.object []])]
    (IsPlain v ∧ nesting v ≤ maxDepth) ∧
      ∃ records,
        Feed.records (['\uFEFF', '\uFEFF'] ++ ([' ', '\n'] ++ v.pretty.toList)) = .ok records ∧
        records.map Json.object = rows.filter Json.isObject := by
  intro rows v
  have hplain : IsPlain v := by
    simp [v, rows, IsPlain, Json.ArePlain, Json.MembersPlain]
  have hnesting : nesting v ≤ maxDepth := by
    simp [v, rows, nesting, Json.itemsNesting, Json.membersNesting, maxDepth]
  have htags : ¬ HoldsRows (.array [.string "x"]) := by
    rintro ⟨_, ⟨⟩, x, hx, hobject⟩
    rw [List.mem_singleton.1 hx] at hobject
    cases hobject
  have hn : ¬ HoldsRows (.number (.int (-1))) := nofun
  refine ⟨⟨hplain, hnesting⟩, ?_⟩
  have hread := @records_written v ['\uFEFF', '\uFEFF'] [' ', '\n'] _ hplain hnesting (by simp)
    (by simp [Json.isSpace]) (.inr rfl)
  exact (hread.2 _ rfl).1 [("n", .number (.int (-1))), ("tags", .array [.string "x"])] "rows" rows _
    rfl (by simpa using ⟨hn, htags⟩) ⟨rows, rfl, _, List.mem_cons_self, rfl⟩

end FeedHarvest.Feed.Rows
