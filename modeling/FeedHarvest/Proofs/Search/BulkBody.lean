import FeedHarvest.Proofs.Json.Inline
import FeedHarvest.Proofs.Json.Value
import FeedHarvest.Search.Client

/-!
# Documents framed by lines

Documents are sent as lines, two for each: where it goes, and what it holds. A line ends at the
first newline, so the frame holds only if no text that stands in a line can bring one in. None can,
as each is a value written without blanks. So the lines are found again for every list of documents;
and if the bodies are read as they were written, so are the documents.
-/

namespace FeedHarvest

/-! ## Lines -/

namespace Text

/-- The lines of a text in which every line has its end. -/
def lines? (text : List Char) : Option (List (List Char)) :=
  let parts := text.splitOn '\n'
  if parts.getLast? = some [] then some parts.dropLast else none

private theorem splitOn_flatMap_append {parts : List (List Char)} (h : ∀ p ∈ parts, '\n' ∉ p) :
    List.splitOn '\n' (parts.flatMap (· ++ ['\n'])) = parts ++ [[]] := by
  induction parts with
  | nil => rfl
  | cons p ps ih =>
    obtain ⟨hp, hps⟩ := List.forall_mem_cons.1 h
    rw [List.flatMap_cons, List.append_assoc, List.singleton_append,
      List.splitOn_append_cons_self_of_not_mem hp, ih hps, List.cons_append]

theorem lines?_flatMap {parts : List (List Char)} (h : ∀ p ∈ parts, '\n' ∉ p) :
    lines? (parts.flatMap (· ++ ['\n'])) = some parts := by
  simp [lines?, splitOn_flatMap_append h]

end Text

/-! ## Documents -/

namespace Search

/-- What tells where a document goes. -/
def actionOf (id : String) : Json := .object [("index", .object [("_id", .string id)])]

/-- The document of two lines: one that tells its identity and nothing else, and one that is its
body. -/
def documentOf? (action body : List Char) : Option Document :=
  match Json.parse? action with
  | some (.object [("index", .object [("_id", .string id)])]) =>
    (Json.parse? body).map fun v ↦ ⟨id, v⟩
  | _ => none

/-- The documents of lines, two for each. -/
def documentsOf? : List (List Char) → Option (List Document)
  | [] => some []
  | [_] => none
  | action :: body :: rest => do
    let d ← documentOf? action body
    let ds ← documentsOf? rest
    return d :: ds

private theorem documentOf?_written {d : Document} (hplain : d.body.IsPlain)
    (hnesting : d.body.nesting ≤ Json.maxDepth) :
    documentOf? (actionOf d.id).compact.toList d.body.compact.toList = some d := by
  have haction : Json.parse? (actionOf d.id).compact.toList = some (actionOf d.id) :=
    Json.parse?_compact (by simp [actionOf, Json.IsPlain, Json.MembersPlain])
      (by simp [actionOf, Json.nesting, Json.membersNesting, Json.maxDepth])
  rw [documentOf?, haction, actionOf, Json.parse?_compact hplain hnesting]
  rfl

/-- The lines of documents, without their ends. -/
def bulkLines (ds : List Document) : List (List Char) :=
  ds.flatMap fun d ↦ (documentLines d).map String.toList

private theorem length_bulkLines (ds : List Document) : (bulkLines ds).length = 2 * ds.length := by
  induction ds with
  | nil => rfl
  | cons d ds ih =>
    rw [bulkLines, List.flatMap_cons, List.length_append, ← bulkLines, ih, List.length_cons,
      documentLines]
    simp only [List.map_cons, List.map_nil, List.length_cons, List.length_nil]
    omega

private theorem documentsOf?_bulkLines {ds : List Document}
    (h : ∀ d ∈ ds, d.body.IsPlain ∧ d.body.nesting ≤ Json.maxDepth) :
    documentsOf? (bulkLines ds) = some ds := by
  induction ds with
  | nil => rfl
  | cons d ds ih =>
    obtain ⟨hplain, hnesting⟩ := h d List.mem_cons_self
    have hlines : bulkLines (d :: ds)
        = (actionOf d.id).compact.toList :: d.body.compact.toList :: bulkLines ds := rfl
    rw [hlines, documentsOf?, documentOf?_written hplain hnesting,
      ih fun e he ↦ h e (List.mem_cons_of_mem d he)]
    rfl

theorem bulkBody_toList (ds : List Document) :
    (bulkBody ds).toList = (bulkLines ds).flatMap (· ++ ['\n']) := by
  simp [bulkBody, bulkLines, String.toList_join, List.flatMap_map, List.map_flatMap,
    List.flatMap_assoc]

/-- **Documents are framed by lines.** Whatever the documents are, the text that stores them has two
lines for each, and no line has a newline in it, so the lines are found again. If the bodies are
plain and not nested too deeply for reading, the lines read in pairs are the documents in order. -/
theorem bulkBody_frames_documents (ds : List Document) :
    ∃ lines, Text.lines? (bulkBody ds).toList = some lines ∧ lines.length = 2 * ds.length ∧
      (∀ line ∈ lines, '\n' ∉ line) ∧ (bulkBody ds).toList = lines.flatMap (· ++ ['\n']) ∧
      ((∀ d ∈ ds, d.body.IsPlain ∧ d.body.nesting ≤ Json.maxDepth) →
        documentsOf? lines = some ds) := by
  have hinline : ∀ line ∈ bulkLines ds, '\n' ∉ line := by
    intro line hline
    obtain ⟨d, -, hd⟩ := List.mem_flatMap.1 hline
    simp only [documentLines, List.map_cons, List.map_nil, List.mem_cons, List.not_mem_nil,
      or_false] at hd
    rcases hd with hd | hd
    · rw [hd]
      exact Json.newline_not_mem_compact _
    · rw [hd]
      exact Json.newline_not_mem_compact _
  refine ⟨bulkLines ds, ?_, ?_, hinline, bulkBody_toList ds, fun hplain ↦ ?_⟩
  · rw [bulkBody_toList, Text.lines?_flatMap hinline]
  · exact length_bulkLines ds
  · exact documentsOf?_bulkLines hplain

/-- Newlines and quotes in an identity, in a name and in a string do not break the frame. -/
theorem bulkBody_frames_documents_of_newlines :
    let ds : List Document := [⟨"a\n\"b", .object [("c\n", .string "\\n\"\r\n")]⟩,
      ⟨"", .array [.number (.int (-5)), .string "\n", .null]⟩]
    ∃ lines, Text.lines? (bulkBody ds).toList = some lines ∧ lines.length = 4 ∧
      documentsOf? lines = some ds := by
  intro ds
  have hplain : ∀ d ∈ ds, d.body.IsPlain ∧ d.body.nesting ≤ Json.maxDepth := by
    simp [ds, Json.IsPlain, Json.ArePlain, Json.MembersPlain, Json.nesting, Json.itemsNesting,
      Json.membersNesting, Json.maxDepth]
  obtain ⟨lines, hlines, hlength, -, -, hread⟩ := bulkBody_frames_documents ds
  exact ⟨lines, hlines, hlength, hread hplain⟩

end Search

end FeedHarvest
