import FeedHarvest.Pipeline.Basic
import FeedHarvest.Proofs.Json.Inline
import FeedHarvest.Proofs.Json.Value

/-!
# The lines of a listing

The listing of a pipeline is for people, who count its lines, so the line of a step has to be where
its number says. It is, since a descriptor stands on one line whatever texts are in the step: the
description may have lines of its own, and every line after them is a step's. A line ends at a
newline and nowhere else. No control character is in a descriptor as it is, but the separators
beyond ASCII are, as in every JSON text.

A line can be read again as well. The number ends at its point however wide it is, and what follows
is the descriptor, if the constants in it are plain and it is not nested too deeply for reading.
-/

namespace FeedHarvest.Pipeline

open Json (IsInline)

/-! ## Lines -/

/-- A line of a listing: a number in three columns or more, a point, and a text. -/
def numbered (n : Nat) (text : List Char) : List Char :=
  List.leftpad 3 ' ' (Nat.toDigits 10 n) ++ '.' :: ' ' :: text

/-- The lines of the steps, numbered from one. -/
def stepLines (p : Pipeline) : List (List Char) :=
  p.steps.mapIdx fun i s ↦ numbered (i + 1) s.toJson.compact.toList

private theorem toList_line (n : Nat) (s : Step) :
    (line n s).toList = numbered n s.toJson.compact.toList := by
  simp [line, numbered, lineNumber, List.leftpad, Text.decimal]

private theorem map_toList_lines (n : Nat) (ss : List Step) :
    (lines n ss).map String.toList
      = ss.mapIdx fun i s ↦ numbered (n + i) s.toJson.compact.toList := by
  induction ss generalizing n with
  | nil => rfl
  | cons s ss ih =>
    rw [lines, List.map_cons, ih, toList_line, List.mapIdx_cons]
    simp only [Nat.add_zero, Nat.add_assoc, Nat.add_comm 1]

private theorem intercalate_cons_eq_append_flatMap (c : Char) (part : List Char)
    (parts : List (List Char)) :
    [c].intercalate (part :: parts) = part ++ parts.flatMap (c :: ·) := by
  induction parts generalizing part with
  | nil => rw [List.intercalate_singleton, List.flatMap_nil, List.append_nil]
  | cons q qs ih =>
    rw [List.intercalate_cons_cons, ih, List.flatMap_cons, List.append_assoc,
      List.singleton_append, List.cons_append]

theorem toList_listing (p : Pipeline) :
    p.listing.toList = p.description.toList ++ p.stepLines.flatMap ('\n' :: ·) := by
  have hlines : (lines 1 p.steps).map String.toList = p.stepLines := by
    rw [map_toList_lines, stepLines]
    simp only [Nat.add_comm 1]
  rw [listing, String.toList_intercalate, List.map_cons, hlines]
  exact intercalate_cons_eq_append_flatMap '\n' _ _

private theorem splitOn_append_flatMap {lines : List (List Char)} (cs : List Char)
    (h : ∀ l ∈ lines, '\n' ∉ l) :
    List.splitOn '\n' (cs ++ lines.flatMap ('\n' :: ·)) = List.splitOn '\n' cs ++ lines := by
  induction lines generalizing cs with
  | nil => rw [List.flatMap_nil, List.append_nil, List.append_nil]
  | cons l ls ih =>
    obtain ⟨hl, hls⟩ := List.forall_mem_cons.1 h
    rw [List.flatMap_cons, List.cons_append, List.splitOn_append_cons_self, ih l hls,
      List.splitOn_eq_singleton hl, List.singleton_append]

private theorem isInline_numbered (n : Nat) {text : List Char} (h : IsInline text) :
    IsInline (numbered n text) := by
  have hspaces : IsInline (List.replicate (3 - (Nat.toDigits 10 n).length) ' ') := by
    intro c hc
    rw [(List.mem_replicate.1 hc).2]
    decide
  exact Json.isInline_append (Json.isInline_append hspaces (Json.isInline_decimal n))
    (Json.isInline_cons (by decide) (Json.isInline_cons (by decide) h))

theorem isInline_of_mem_stepLines {p : Pipeline} {l : List Char} (h : l ∈ p.stepLines) :
    IsInline l := by
  obtain ⟨i, hi, rfl⟩ := List.mem_mapIdx.1 h
  exact isInline_numbered _ (Json.isInline_compact _)

/-! ## Reading a line -/

/-- The number of a line and the value after it. -/
def readLine? (l : List Char) : Option (Nat × Json) :=
  let numberAndText := l.dropWhile (· == ' ')
  match numberAndText.dropWhile Char.isDigit with
  | '.' :: ' ' :: text => do
    let n ← Text.natOfDecimal? (numberAndText.takeWhile Char.isDigit)
    let v ← Json.parse? text
    return (n, v)
  | _ => none

private theorem dropWhile_leftpad (width n : Nat) (rest : List Char) :
    (List.leftpad width ' ' (Nat.toDigits 10 n) ++ rest).dropWhile (· == ' ')
      = Text.decimal n ++ rest := by
  obtain ⟨d, ds, hds⟩ := List.exists_cons_of_ne_nil (Text.decimal_ne_nil n)
  have hd : Text.isDigit d = true := Text.isDigit_of_mem_decimal (hds ▸ List.mem_cons_self)
  have hspace : (d == ' ') = false := beq_false_of_ne fun h ↦ by
    rw [h] at hd
    exact absurd hd (by decide)
  rw [List.leftpad, List.append_assoc, List.dropWhile_append_of_pos, ← Text.decimal, hds,
    List.cons_append, List.dropWhile_cons_of_neg (by simp [hspace])]
  intro c hc
  rw [(List.mem_replicate.1 hc).2]
  rfl

theorem readLine?_numbered (n : Nat) (text : List Char) :
    readLine? (numbered n text) = (Json.parse? text).map (n, ·) := by
  have hdigits : ∀ c ∈ Text.decimal n, c.isDigit = true := fun c hc ↦ by
    rw [← Text.isDigit_eq]
    exact Text.isDigit_of_mem_decimal hc
  have hdrop : (Text.decimal n ++ '.' :: ' ' :: text).dropWhile Char.isDigit
      = '.' :: ' ' :: text := by
    rw [List.dropWhile_append_of_pos hdigits]
    rfl
  have htake : (Text.decimal n ++ '.' :: ' ' :: text).takeWhile Char.isDigit
      = Text.decimal n := by
    rw [List.takeWhile_append_of_pos hdigits, List.takeWhile_cons_of_neg (by decide),
      List.append_nil]
  have hnumber : Text.natOfDecimal? (Text.decimal n) = some n :=
    Text.natOfDecimal?_eq_some_iff_ofDigitChars.2
      ⟨Text.decimal_ne_nil n, hdigits, Nat.ofDigitChars_toDigits (by omega) (by omega)⟩
  rw [readLine?, numbered, dropWhile_leftpad, hdrop, htake, hnumber,
    Option.map_eq_bind]
  rfl

/-! ## Plain descriptors -/

private theorem arePlain_map_string (ss : List String) : Json.ArePlain (ss.map .string) := by
  induction ss with
  | nil => simp [Json.ArePlain]
  | cons s ss ih => simp [Json.ArePlain, Json.IsPlain, ih]

/-- The constant of a step is the only part of its descriptor that may not be plain. -/
theorem isPlain_toJson (s : Step) (h : ∀ f v, s.innermost = .setConstant f v → v.IsPlain) :
    s.toJson.IsPlain := by
  induction s with
  | setConstant f v =>
    have hv : v.IsPlain := h f v rfl
    simp [Step.toJson, Json.IsPlain, Json.MembersPlain, hv]
  | foreach f s ih =>
    have hs : s.toJson.IsPlain := ih h
    simp [Step.toJson, Json.IsPlain, Json.MembersPlain, hs]
  | reformatDate f t formats i =>
    simp [Step.toJson, Json.IsPlain, Json.MembersPlain, arePlain_map_string]
  | _ => simp [Step.toJson, Json.IsPlain, Json.MembersPlain]

/-- **A listing has one line for each step.** After the lines of the description there are as many
as there are steps; the line of a step has its number in three columns or more, a point, and the
descriptor without blanks, and no control character, so no newline that would make it two lines,
whatever is in the step. If the step's constant is plain and its descriptor is not nested too deeply
for reading, the line is read as the number and the descriptor. -/
theorem listing_has_a_line_for_each_step (p : Pipeline) :
    ∃ lines : List (List Char),
      p.listing.toList = p.description.toList ++ lines.flatMap ('\n' :: ·) ∧
      List.splitOn '\n' p.listing.toList = List.splitOn '\n' p.description.toList ++ lines ∧
      lines.length = p.steps.length ∧ (∀ l ∈ lines, ∀ c ∈ l, 0x20 ≤ c.toNat) ∧
      ∀ i s, p.steps[i]? = some s → ∃ l, lines[i]? = some l ∧
        l = List.leftpad 3 ' ' (Nat.toDigits 10 (i + 1)) ++ '.' :: ' ' :: s.toJson.compact.toList ∧
        ((∀ f v, s.innermost = .setConstant f v → v.IsPlain) →
          s.toJson.nesting ≤ Json.maxDepth → readLine? l = some (i + 1, s.toJson)) := by
  have hbreaks : ∀ l ∈ p.stepLines, '\n' ∉ l := fun l hl ↦
    Json.newline_not_mem_of_isInline (isInline_of_mem_stepLines hl)
  refine ⟨p.stepLines, toList_listing p, ?_, ?_, fun l hl ↦ isInline_of_mem_stepLines hl,
    fun i s hs ↦ ?_⟩
  · rw [toList_listing, splitOn_append_flatMap _ hbreaks]
  · rw [stepLines, List.length_mapIdx]
  · refine ⟨numbered (i + 1) s.toJson.compact.toList, ?_, ?_, fun hplain hnesting ↦ ?_⟩
    · rw [stepLines, List.getElem?_mapIdx, hs, Option.map_some]
    · rw [numbered]
    · rw [readLine?_numbered, Json.parse?_compact (isPlain_toJson s hplain) hnesting,
        Option.map_some]

/-- The last line of a thousand, for a step whose texts have newlines in them. -/
theorem listing_has_a_line_for_each_step_of_thousand :
    let constant := Json.object [("k\n", .array [.number (.int (-5)), .null])]
    let s : Step := .foreach "a\nb" (.setConstant elementField constant)
    let p : Pipeline := ⟨"two\nlines", List.replicate 1000 s⟩
    (∀ f v, s.innermost = .setConstant f v → v.IsPlain) ∧ s.toJson.nesting ≤ Json.maxDepth ∧
      ∃ l, (List.splitOn '\n' p.listing.toList)[1001]? = some l ∧
        readLine? l = some (1000, s.toJson) := by
  intro constant s p
  have hplain : ∀ f v, s.innermost = .setConstant f v → v.IsPlain := by
    rintro f v ⟨⟩
    simp [constant, Json.IsPlain, Json.MembersPlain, Json.ArePlain]
  have hnesting : s.toJson.nesting ≤ Json.maxDepth := by
    simp [s, constant, Step.toJson, Json.nesting, Json.membersNesting, Json.itemsNesting,
      Json.maxDepth]
  obtain ⟨lines, -, hsplit, -, -, hlines⟩ := listing_has_a_line_for_each_step p
  have hs : p.steps[999]? = some s := by
    rw [List.getElem?_replicate, if_pos (by decide)]
  obtain ⟨l, hl, -, hread⟩ := hlines 999 s hs
  have hdescription : List.splitOn '\n' p.description.toList
      = ["two".toList, "lines".toList] := by decide
  refine ⟨hplain, hnesting, l, ?_, hread hplain hnesting⟩
  rw [hsplit, hdescription]
  exact hl

end FeedHarvest.Pipeline
