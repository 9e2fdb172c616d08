import FeedHarvest.Proofs.Feed.Format
import FeedHarvest.Proofs.Json.Members
import Mathlib.Data.List.Forall2

/-!
# Feeds of quoted cells

A delimited feed whose cells all stand in quotes is read as it was written, whatever the cells hold:
no delimiter, line break or mark of another format counts inside quotes, and the first character of
the feed is a quote.

Reading is a machine over characters, so the statement about a cell is about a cell in front of any
rest: reading it from before a cell is reading the rest from behind a closing quote, with the cell
read. What a row makes of the names in the first line is said by `IsRecordOf`, which speaks of
columns only.
-/

namespace FeedHarvest.Feed.Delimited

/-! ## What is written -/

/-- A character inside quotes: a quote is written twice. -/
def inQuotes (c : Char) : List Char := if c = '"' then ['"', '"'] else [c]

def quotedCell (cell : List Char) : List Char := '"' :: cell.flatMap inQuotes ++ ['"']

/-- Quoted cells with the delimiter between them. -/
def quotedCells (delimiter : Char) (row : List (List Char)) : List Char :=
  [delimiter].intercalate (row.map quotedCell)

/-- A feed of quoted cells, each row on a line. -/
def quotedText (delimiter : Char) (lines : List (List (List Char))) : List Char :=
  lines.flatMap fun row ↦ quotedCells delimiter row ++ ['\n']

/-- What a record has to be, so that it is the record of a row below the given headers. Only columns
that both lines have count, and of these only the ones with a name. -/
structure IsRecordOf (headers row : List (List Char)) (r : Record) : Prop where
  /-- The names of the columns, each at its first place. -/
  keys_eq : r.keys = ((((headers.take row.length).map Text.trim).filter (· ≠ [])).map
    String.ofList).eraseDups
  /-- The cell of a column whose name no later column has. -/
  get?_eq : ∀ ⦃i header cell⦄, headers[i]? = some header → row[i]? = some cell →
    Text.trim header ≠ [] →
    (∀ j later, i < j → j < row.length → headers[j]? = some later →
      Text.trim later ≠ Text.trim header) →
    r.get? (String.ofList (Text.trim header)) = some (.string (String.ofList cell))

/-! ## Reading the rows -/

section Rows

variable {delimiter : Char} {place : Place} {cells : List (List Char)}

private theorem scan_inQuotes (hquote : delimiter ≠ '"') (c : Char) (cell rest : List Char) :
    scan delimiter .quoted cell cells (inQuotes c ++ rest)
      = scan delimiter .quoted (c :: cell) cells rest := by
  by_cases hc : c = '"'
  · subst hc
    have hne : ('"' == delimiter) = false := beq_false_of_ne hquote.symm
    have hbreak : isBreak '"' = false := by decide
    rw [inQuotes, if_pos rfl, List.cons_append, scan, if_pos (beq_self_eq_true _),
      List.cons_append, scan, hne, hbreak]
    · rfl
    · exact nofun
  · rw [inQuotes, if_neg hc, List.cons_append, List.nil_append, scan, beq_false_of_ne hc,
      if_neg Bool.false_ne_true]

private theorem scan_flatMap_inQuotes (hquote : delimiter ≠ '"') (text cell rest : List Char) :
    scan delimiter .quoted cell cells (text.flatMap inQuotes ++ rest)
      = scan delimiter .quoted (text.reverse ++ cell) cells rest := by
  induction text generalizing cell with
  | nil => rfl
  | cons c text ih =>
    rw [List.flatMap_cons, List.append_assoc, scan_inQuotes hquote, ih, List.reverse_cons,
      List.append_assoc, List.singleton_append]

theorem scan_quotedCell (hquote : delimiter ≠ '"') (hplace : place = .outside ∨ place = .before)
    (cell rest : List Char) :
    scan delimiter place [] cells (quotedCell cell ++ rest)
      = scan delimiter .closed cell.reverse cells rest := by
  have hopen : scan delimiter place [] cells ('"' :: (cell.flatMap inQuotes ++ '"' :: rest))
      = scan delimiter .quoted [] cells (cell.flatMap inQuotes ++ '"' :: rest) := by
    have hne : ('"' == delimiter) = false := beq_false_of_ne hquote.symm
    have hbreak : isBreak '"' = false := by decide
    -- a quote opens a cell at the start of a line and behind a delimiter alike
    rcases hplace with rfl | rfl
    all_goals
      rw [scan, hne, hbreak]
      · rfl
      · exact nofun
  rw [quotedCell, List.cons_append, List.cons_append, List.append_assoc, List.singleton_append,
    hopen, scan_flatMap_inQuotes hquote, scan, if_pos (beq_self_eq_true _), List.append_nil]

theorem scan_quotedCells (hquote : delimiter ≠ '"') (hbreak : delimiter ≠ '\n')
    (hplace : place = .outside ∨ place = .before) {row : List (List Char)} (hrow : row ≠ [])
    (rest : List Char) :
    scan delimiter place [] cells (quotedCells delimiter row ++ '\n' :: rest)
      = (cells.reverse ++ row) :: rows delimiter rest := by
  induction row generalizing place cells with
  | nil => exact absurd rfl hrow
  | cons cell row ih =>
    -- the last cell is closed by the line break, and every other by a delimiter
    cases row with
    | nil =>
      have hne : ('\n' == delimiter) = false := beq_false_of_ne hbreak.symm
      rw [quotedCells, List.map_singleton, List.intercalate_singleton,
        scan_quotedCell hquote hplace, scan, hne, if_neg Bool.false_ne_true,
        if_pos (show isBreak '\n' = true by decide), if_neg nofun, List.reverse_reverse,
        List.reverse_cons, rows]
      exact nofun
    | cons next row =>
      rw [quotedCells, List.map_cons, List.map_cons, List.intercalate_cons_cons, List.append_assoc,
        List.append_assoc, scan_quotedCell hquote hplace, List.singleton_append, scan,
        if_pos (beq_self_eq_true _), List.reverse_reverse, ← List.map_cons, ← quotedCells,
        ih (.inr rfl) (List.cons_ne_nil next row), List.reverse_cons, List.append_assoc,
        List.singleton_append]
      exact nofun

theorem rows_quotedText (hquote : delimiter ≠ '"') (hbreak : delimiter ≠ '\n')
    {lines : List (List (List Char))} (hlines : ∀ row ∈ lines, row ≠ []) :
    rows delimiter (quotedText delimiter lines) = lines := by
  induction lines with
  | nil => rfl
  | cons row lines ih =>
    have hrow := hlines row List.mem_cons_self
    rw [quotedText, List.flatMap_cons, ← quotedText, List.append_assoc, List.singleton_append, rows,
      scan_quotedCells hquote hbreak (.inl rfl) hrow, List.reverse_nil, List.nil_append,
      ih fun r hr ↦ hlines r (List.mem_cons_of_mem row hr)]

end Rows

/-! ## Which format it is -/

section Format

variable {delimiter c : Char}

private theorem mem_flatMap_inQuotes {cell : List Char} : c ∈ cell.flatMap inQuotes ↔ c ∈ cell := by
  have hone : ∀ d, c ∈ inQuotes d ↔ c = d := fun d ↦ by
    by_cases hd : d = '"' <;> simp [inQuotes, hd]
  simp [List.mem_flatMap, hone]

theorem mem_quotedCell (hquote : c ≠ '"') {cell : List Char} : c ∈ quotedCell cell ↔ c ∈ cell := by
  rw [quotedCell, List.mem_append, List.mem_cons, List.mem_singleton, mem_flatMap_inQuotes]
  simp only [hquote, false_or, or_false]

private theorem mem_quotedCells (hquote : c ≠ '"') {row : List (List Char)} :
    c ∈ quotedCells delimiter row ↔ (c = delimiter ∧ 2 ≤ row.length) ∨ ∃ cell ∈ row, c ∈ cell := by
  induction row with
  | nil => simp [quotedCells]
  | cons cell row ih =>
    cases row with
    | nil => simp [quotedCells, mem_quotedCell hquote]
    | cons next row =>
      rw [quotedCells, List.map_cons, List.map_cons, List.intercalate_cons_cons, List.mem_append,
        List.mem_append, List.mem_singleton, ← List.map_cons, ← quotedCells, ih,
        mem_quotedCell hquote]
      simp only [List.mem_cons, or_and_right, exists_or, exists_eq_left, List.length_cons,
        Nat.le_add_left, and_true]
      tauto

/-- A feed holds what its cells hold, and a delimiter once a line has two cells. -/
theorem mem_quotedText (hquote : c ≠ '"') (hbreak : c ≠ '\n') {lines : List (List (List Char))} :
    c ∈ quotedText delimiter lines ↔
      ∃ row ∈ lines, (c = delimiter ∧ 2 ≤ row.length) ∨ ∃ cell ∈ row, c ∈ cell := by
  simp only [quotedText, List.mem_flatMap, List.mem_append, List.mem_singleton, hbreak, or_false,
    mem_quotedCells hquote]

private theorem exists_quotedText_eq_cons {headers : List (List Char)} (hheaders : headers ≠ [])
    (delimiter : Char) (rows : List (List (List Char))) :
    ∃ rest, quotedText delimiter (headers :: rows) = '"' :: rest := by
  obtain ⟨cell, row, rfl⟩ := List.exists_cons_of_ne_nil hheaders
  cases row with
  | nil => exact ⟨_, rfl⟩
  | cons next row => exact ⟨_, rfl⟩

end Format

/-! ## The records -/

section Records

variable {headers row : List (List Char)}

private theorem map_fst_zip_eq_take {α β : Type} (xs : List α) (ys : List β) :
    (xs.zip ys).map Prod.fst = xs.take ys.length := by
  induction xs generalizing ys with
  | nil => simp
  | cons x xs ih =>
    cases ys with
    | nil => rfl
    | cons y ys => rw [List.zip_cons_cons, List.map_cons, ih, List.length_cons, List.take_succ_cons]

def fields (columns : List (List Char × List Char)) : Json.Members :=
  (columns.filter fun (name, _) ↦ !name.isEmpty).map fun (name, cell) ↦
    (String.ofList name, .string (String.ofList cell))

theorem keys_fields (columns : List (List Char × List Char)) :
    (fields columns).keys = ((columns.map Prod.fst).filter (· ≠ [])).map String.ofList := by
  have hnamed : (fun column : List Char × List Char ↦ !column.1.isEmpty)
      = (fun name ↦ decide (name ≠ [])) ∘ Prod.fst := by
    funext ⟨name, cell⟩
    cases name <;> rfl
  rw [fields, Json.Members.keys, List.map_map, List.filter_map, List.map_map]
  exact congrArg (fun named ↦ (columns.filter named).map (String.ofList ∘ Prod.fst)) hnamed

private theorem isRecordOf_record (headers row : List (List Char)) :
    IsRecordOf headers row (record (headers.map Text.trim) row) := by
  set columns := (headers.map Text.trim).zip row with hcolumns
  have hrecord : record (headers.map Text.trim) row = Json.Members.ofList (fields columns) := rfl
  rw [hrecord]
  refine ⟨?_, fun i header cell hheader hcell hname hlast ↦ ?_⟩
  · rw [Json.Members.keys_ofList, keys_fields, hcolumns, map_fst_zip_eq_take, List.map_take]
  · have hcolumn : columns[i]? = some (Text.trim header, cell) := by
      rw [hcolumns, List.getElem?_zip_eq_some, List.getElem?_map, hheader]
      exact ⟨rfl, hcell⟩
    -- the column is the last of its name, so what is set by those behind it is something else
    have hsplit : columns = columns.take i ++ (Text.trim header, cell) :: columns.drop (i + 1) := by
      obtain ⟨hi, hget⟩ := List.getElem?_eq_some_iff.1 hcolumn
      rw [← hget, List.getElem_cons_drop, List.take_append_drop]
    have hafter : String.ofList (Text.trim header) ∉ (fields (columns.drop (i + 1))).keys := by
      rw [keys_fields]
      intro hmem
      obtain ⟨name, hname', heq⟩ := List.mem_map.1 hmem
      obtain ⟨column, hcolumn', rfl⟩ := List.mem_map.1 (List.mem_filter.1 hname').1
      obtain ⟨n, hn⟩ := List.mem_iff_getElem?.1 hcolumn'
      rw [List.getElem?_drop, hcolumns, List.getElem?_zip_eq_some, List.getElem?_map,
        Option.map_eq_some_iff] at hn
      obtain ⟨⟨later, hlater, htrim⟩, hcell'⟩ := hn
      obtain ⟨hlength, -⟩ := List.getElem?_eq_some_iff.1 hcell'
      exact hlast _ later (by omega) hlength hlater (htrim.trans (String.ofList_injective heq))
    rw [hsplit, fields, List.filter_append, List.filter_cons, if_pos (by simpa using hname),
      List.map_append, List.map_cons]
    exact Json.Members.get?_ofList_append _ _ hafter

private theorem isBlankRow_eq_false_iff :
    isBlankRow row = false ↔ ∃ cell ∈ row, Text.trim cell ≠ [] := by
  simp [isBlankRow]

end Records

/-- A feed of quoted cells has a record for every row with a cell that is not blank. A feed of tabs
needs a line with two cells, for else there is no tab to tell it by; a feed of commas must not hold
any. -/
theorem records_quotedText {delimiter : Char} {headers : List (List Char)}
    {rows : List (List (List Char))} (hheaders : headers ≠ []) (hrows : ∀ row ∈ rows, row ≠ [])
    (hdelimiter : (delimiter = ',' ∧ ∀ line ∈ headers :: rows, ∀ cell ∈ line, '\t' ∉ cell) ∨
      (delimiter = '\t' ∧ ∃ line ∈ headers :: rows, 2 ≤ line.length)) :
    ∃ records, Feed.records (quotedText delimiter (headers :: rows)) = .ok records ∧
      List.Forall₂ (IsRecordOf headers) (rows.filter fun row ↦ ∃ cell ∈ row, Text.trim cell ≠ [])
        records := by
  have hlines : ∀ row ∈ headers :: rows, row ≠ [] := List.forall_mem_cons.2 ⟨hheaders, hrows⟩
  -- tabs tell the delimiter: a feed of commas has none, and a feed of tabs has one between cells
  have htab : '\t' ∈ quotedText delimiter (headers :: rows) ↔ delimiter = '\t' := by
    rw [mem_quotedText (by decide) (by decide)]
    rcases hdelimiter with ⟨rfl, hcells⟩ | ⟨rfl, line, hline, hlength⟩
    · refine iff_of_false ?_ (by decide)
      rintro ⟨line, hline, ⟨h, -⟩ | ⟨cell, hcell, hmem⟩⟩
      · exact absurd h (by decide)
      · exact hcells line hline cell hcell hmem
    · exact iff_of_true ⟨line, hline, .inl ⟨rfl, hlength⟩⟩ rfl
  have hquote : delimiter ≠ '"' := by rcases hdelimiter with ⟨rfl, -⟩ | ⟨rfl, -⟩ <;> decide
  have hbreak : delimiter ≠ '\n' := by rcases hdelimiter with ⟨rfl, -⟩ | ⟨rfl, -⟩ <;> decide
  obtain ⟨rest, htext⟩ := exists_quotedText_eq_cons hheaders delimiter rows
  have hchosen : (if '\t' ∈ rest then '\t' else ',') = delimiter := by
    rw [htext, List.mem_cons, or_iff_right (by decide)] at htab
    rcases hdelimiter with ⟨rfl, -⟩ | ⟨rfl, -⟩
    · rw [if_neg (mt htab.1 (by decide))]
    · rw [if_pos (htab.2 rfl)]
  have hkept : (rows.filter fun row ↦ !isBlankRow row)
      = rows.filter fun row ↦ ∃ cell ∈ row, Text.trim cell ≠ [] :=
    List.filter_congr fun row _ ↦ by
      rw [Bool.eq_iff_iff, Bool.not_eq_true', isBlankRow_eq_false_iff, decide_eq_true_iff]
  have hread : Feed.records (quotedText delimiter (headers :: rows))
      = .ok ((rows.filter fun row ↦ ∃ cell ∈ row, Text.trim cell ≠ []).map
        (record (headers.map Text.trim))) := by
    rw [htext, records_of_quote, hchosen, ← htext, records, rows_quotedText hquote hbreak hlines]
    dsimp only
    rw [hkept]
  refine ⟨_, hread, ?_⟩
  exact List.forall₂_map_right_iff.2 (List.forall₂_same.2 fun row _ ↦ isRecordOf_record headers row)

theorem records_quotedText_of_ragged :
    let headers := [" id ".toList, "\x7ba\t".toList, "id".toList, []]
    let short := ["1".toList]
    let long := ["2".toList, "x,\"\n".toList, " 3 ".toList, "y".toList, "z".toList]
    let rows := [short, [" ".toList, []], long]
    ∃ records, Feed.records (quotedText '\t' (headers :: rows)) = .ok records ∧
      List.Forall₂ (IsRecordOf headers) [short, long] records := by
  intro headers short long rows
  have hrows : ∀ row ∈ rows, row ≠ [] := by decide
  exact records_quotedText (by decide) hrows (.inr ⟨rfl, headers, List.mem_cons_self, by decide⟩)

end FeedHarvest.Feed.Delimited
