import FeedHarvest.Proofs.Feed.Format
import FeedHarvest.Proofs.Json.Members
import FeedHarvest.Proofs.Xml.Event

/-!
# Feeds of written elements

Records whose values are strings, or several strings, are read back from an element for each record
with an element for each string in it. Reading takes a text from one state to another, so a field
is what adds a string to the open record, a row is what adds a record to those read, and both can
be said of any state they are met in: `Leads` joins what is read of a text with what it does.
-/

namespace FeedHarvest.Feed.Markup

/-! ## What is written -/

/-- The strings of a value: itself, or those of an array. -/
def stringsOf : Json → List String
  | .string s => [s]
  | .array vs => vs.filterMap Json.asString?
  | _ => []

/-- A field: an element for each of its strings. -/
def fieldText (short : Bool) (field : String × Json) : List Char :=
  (stringsOf field.2).flatMap fun s ↦
    Xml.element short field.1.toList (Xml.escaped s.toList)

/-- A record: an element with its fields. -/
def rowText (short : Bool) (row : List Char) (r : Record) : List Char :=
  Xml.element short row (r.flatMap (fieldText short))

/-- A feed: the declaration, and an element with the records. -/
def markupText (short : Bool) (root row : List Char) (rs : List Record) : List Char :=
  Xml.declaration ++ Xml.element short root (rs.flatMap (rowText short row))

/-- Whether a string can stand in an element as it is: without blanks at its ends, which are not
part of a text, and without carriage returns. -/
def IsContent (s : String) : Prop :=
  '\r' ∉ s.toList ∧ (∀ c ∈ s.toList.head?, c ∉ [' ', '\t', '\n']) ∧
    ∀ c ∈ s.toList.getLast?, c ∉ [' ', '\t', '\n']

/-- Whether a value is one string, or an array of two or more. -/
def IsFieldValue (v : Json) : Prop :=
  (∃ s, v = .string s ∧ IsContent s) ∨
    ∃ ss : List String, v = .array (ss.map .string) ∧ 2 ≤ ss.length ∧ ∀ s ∈ ss, IsContent s

/-- Whether a record can be written as elements of its fields. -/
structure IsFlat (r : Record) : Prop where
  nodup_keys : r.keys.Nodup
  isName : ∀ field ∈ r, Xml.isName field.1.toList = true ∧ ':' ∉ field.1.toList
  isFieldValue : ∀ field ∈ r, IsFieldValue field.2

/-! ## What a text does -/

/-- Whether a text takes a reading from one state to another. -/
def Leads (cs : List Char) (r r' : Reading) : Prop :=
  ∃ es, Xml.Reads cs es ∧ es.foldlM Reading.step r = .ok r'

section Leading

variable {cs ds : List Char} {r r' r'' : Reading}

theorem foldlM_step_cons {e : Xml.Event} (he : r.step e = .ok r') (es : List Xml.Event) :
    (e :: es).foldlM Reading.step r = es.foldlM Reading.step r' := by
  rw [List.foldlM_cons, he]
  rfl

theorem foldlM_step_append {es fs : List Xml.Event} (hes : es.foldlM Reading.step r = .ok r') :
    (es ++ fs).foldlM Reading.step r = fs.foldlM Reading.step r' := by
  rw [List.foldlM_append, hes]
  rfl

theorem Leads.append (hcs : Leads cs r r') (hds : Leads ds r' r'') : Leads (cs ++ ds) r r'' := by
  obtain ⟨es, hes, hr⟩ := hcs
  obtain ⟨fs, hfs, hr'⟩ := hds
  exact ⟨es ++ fs, hes.append hfs, (foldlM_step_append hr).trans hr'⟩

theorem Leads.eq_of_nil (h : Leads [] r r') : r = r' := by
  obtain ⟨es, hes, hr⟩ := h
  rw [hes.eq_nil] at hr
  exact Except.ok.inj hr

theorem leads_flatMap {α β : Type} {text : α → List Char} (state : β → Reading)
    (next : β → α → β) {xs : List α}
    (h : ∀ x ∈ xs, ∀ b, Leads (text x) (state b) (state (next b x))) (b : β) :
    Leads (xs.flatMap text) (state b) (state (xs.foldl next b)) := by
  induction xs generalizing b with
  | nil => exact ⟨[], Xml.reads_nil, rfl⟩
  | cons x xs ih =>
    rw [List.flatMap_cons, List.foldl_cons]
    exact (h x List.mem_cons_self b).append
      (ih (fun y hy ↦ h y (List.mem_cons_of_mem x hy)) (next b x))

theorem leads_tagged {name : List Char} {r₁ r₂ : Reading} (hname : Xml.isName name = true)
    (hstart : r.step (.start name []) = .ok r₁) (hcs : Leads cs r₁ r₂)
    (hfinish : r₂.step .finish = .ok r') : Leads (Xml.tagged name cs) r r' := by
  obtain ⟨es, hes, hr⟩ := hcs
  refine ⟨_, hes.tagged hname, ?_⟩
  rw [foldlM_step_cons hstart, foldlM_step_append hr, foldlM_step_cons hfinish]
  rfl

theorem leads_emptyTag {name : List Char} (hname : Xml.isName name = true)
    (hstep : r.step (.empty name []) = .ok r') : Leads (Xml.emptyTag name) r r' :=
  ⟨_, Xml.reads_emptyTag hname, foldlM_step_cons hstep []⟩

theorem leads_element {short : Bool} {name : List Char}
    (hshort : cs = [] → Leads (Xml.emptyTag name) r r')
    (htagged : Leads (Xml.tagged name cs) r r') : Leads (Xml.element short name cs) r r' := by
  rw [Xml.element]
  split
  · next h =>
    rw [Bool.and_eq_true, List.isEmpty_iff] at h
    exact hshort h.2
  · exact htagged

theorem records_of_leads {rs : List Record} (h : Leads cs {} { records := rs.reverse }) :
    records cs = .ok rs := by
  obtain ⟨es, hes, hr⟩ := h
  rw [records, hes.events_eq, recordsOf, hr]
  simp [bind, Except.bind]

end Leading

/-! ## Fields -/

/-- The state between the elements of the root. -/
def betweenRows (rs : List Record) : Reading := { records := rs, depth := 1 }

/-- The state between the elements of a record. -/
def betweenFields (rs : List Record) (r : Record) : Reading :=
  { records := rs, record := some r, depth := 2 }

/-- The state inside a field, with its text so far. -/
def insideField (rs : List Record) (r : Record) (name : String) (value : List Char) : Reading :=
  { records := rs, record := some r, field := some (name, value), depth := 3 }

section Fields

variable {short : Bool} {name : String} {s : String} {v : Json} {r : Record}

theorem nameOf_eq (h : ':' ∉ name.toList) : nameOf name.toList = name := by
  rw [nameOf, Xml.localName, if_neg (by simpa using h), String.ofList_toList]

private theorem isTrimmed_of_isContent (h : IsContent s) : Xml.IsTrimmed s.toList := by
  obtain ⟨hreturn, hhead, hlast⟩ := h
  have hspace : ∀ c ∈ s.toList, c ∉ [' ', '\t', '\n'] → Xml.isSpace c = false := by
    intro c hc hnot
    have hne : c ≠ '\r' := fun heq ↦ hreturn (heq ▸ hc)
    simp only [List.mem_cons, List.not_mem_nil, or_false, not_or] at hnot
    simp [Xml.isSpace, hne, hnot]
  exact ⟨fun c hc ↦ hspace c (List.mem_of_head? hc) (hhead c hc),
    fun c hc ↦ hspace c (List.mem_of_getLast? hc) (hlast c hc)⟩

private theorem step_start_field (hlocal : ':' ∉ name.toList) (rs : List Record) (r : Record) :
    (betweenFields rs r).step (.start name.toList []) = .ok (insideField rs r name []) := by
  have hstep : (betweenFields rs r).step (.start name.toList [])
      = .ok (insideField rs r (nameOf name.toList) []) := rfl
  rw [hstep, nameOf_eq hlocal]

private theorem step_empty_field (hlocal : ':' ∉ name.toList) (rs : List Record) (r : Record) :
    (betweenFields rs r).step (.empty name.toList [])
      = .ok (betweenFields rs (addField r name "")) := by
  have hstep : (betweenFields rs r).step (.empty name.toList [])
      = .ok (betweenFields rs (addField r (nameOf name.toList) "")) := rfl
  rw [hstep, nameOf_eq hlocal]

private theorem step_text_field (hs : s.toList ≠ []) (rs : List Record) (r : Record)
    (name : String) :
    (insideField rs r name []).step (.text (Xml.escaped s.toList))
      = .ok (insideField rs r name s.toList) := by
  simp [Reading.step, insideField, Xml.unescape?_escaped, Reading.addChunk, addText, hs]

theorem step_finish_field (rs : List Record) (r : Record) (name : String) (value : List Char) :
    (insideField rs r name value).step .finish
      = .ok (betweenFields rs (addField r name (String.ofList value))) := rfl

theorem leads_string (hname : Xml.isName name.toList = true) (hlocal : ':' ∉ name.toList)
    (hs : IsContent s) (rs : List Record) (r : Record) :
    Leads (Xml.element short name.toList (Xml.escaped s.toList)) (betweenFields rs r)
      (betweenFields rs (addField r name s)) := by
  have hstart := step_start_field hlocal rs r
  -- between two tags an empty string is no event at all, and any other is one
  by_cases hempty : s.toList = []
  · obtain rfl : s = "" := String.toList_eq_nil_iff.1 hempty
    exact leads_element (fun _ ↦ leads_emptyTag hname (step_empty_field hlocal rs r))
      (leads_tagged hname hstart ⟨[], Xml.reads_nil, rfl⟩ (step_finish_field rs r name []))
  · have hne : Xml.escaped s.toList ≠ [] := mt Xml.escaped_eq_nil_iff.1 hempty
    refine leads_element (fun h ↦ absurd h hne) ⟨_, Xml.reads_tagged_text hname
      (isTrimmed_of_isContent hs).escaped hne (Xml.not_mem_escaped _), ?_⟩
    rw [foldlM_step_cons hstart, foldlM_step_cons (step_text_field hempty rs r name),
      foldlM_step_cons (step_finish_field rs r name _), String.ofList_toList]
    rfl

private theorem isContent_of_mem_stringsOf (hv : IsFieldValue v) (hs : s ∈ stringsOf v) :
    IsContent s := by
  rcases hv with ⟨t, rfl, ht⟩ | ⟨ss, rfl, -, hss⟩
  · rw [stringsOf, List.mem_singleton] at hs
    rwa [hs]
  · rw [stringsOf, List.filterMap_map] at hs
    exact hss s (by simpa [Json.asString?, Function.comp_def] using hs)

theorem addField_of_not_mem (h : name ∉ r.keys) (s : String) :
    addField r name s = r ++ [(name, .string s)] := by
  rw [addField, Json.Members.get?_of_not_mem h, Json.Members.insert_of_not_mem h]

private theorem addField_concat_string (h : name ∉ r.keys) (s t : String) :
    addField (r ++ [(name, .string s)]) name t = r ++ [(name, .array [.string s, .string t])] := by
  rw [addField, Json.Members.get?_concat h, Json.Members.insert_concat h]

private theorem foldl_addField_array (h : name ∉ r.keys) (vs : List Json) (ss : List String) :
    ss.foldl (addField · name) (r ++ [(name, .array vs)])
      = r ++ [(name, .array (vs ++ ss.map .string))] := by
  induction ss generalizing vs with
  | nil => rw [List.foldl_nil, List.map_nil, List.append_nil]
  | cons s ss ih =>
    rw [List.foldl_cons, addField, Json.Members.get?_concat h, Json.Members.insert_concat h, ih,
      List.append_assoc, List.map_cons, List.singleton_append]

/-- The strings of a value make it, when they are added to a record without that field. -/
theorem foldl_addField (h : name ∉ r.keys) (hv : IsFieldValue v) :
    (stringsOf v).foldl (addField · name) r = r ++ [(name, v)] := by
  rcases hv with ⟨s, rfl, -⟩ | ⟨ss, rfl, hlength, -⟩
  · rw [stringsOf, List.foldl_cons, List.foldl_nil, addField_of_not_mem h]
  · -- the first string is a value, the second makes it an array, and the others are put behind
    obtain ⟨s, t, ss, rfl⟩ : ∃ s t rest, ss = s :: t :: rest := by
      match ss, hlength with
      | s :: t :: rest, _ => exact ⟨s, t, rest, rfl⟩
    have hstrings : stringsOf (.array ((s :: t :: ss).map .string)) = s :: t :: ss := by
      simp [stringsOf, List.filterMap_map, Json.asString?, Function.comp_def]
    rw [hstrings, List.foldl_cons, List.foldl_cons, addField_of_not_mem h,
      addField_concat_string h, foldl_addField_array h]
    rfl

theorem leads_fieldText (short : Bool) {field : String × Json}
    (hname : Xml.isName field.1.toList = true) (hlocal : ':' ∉ field.1.toList)
    (hv : IsFieldValue field.2) (rs : List Record) (r : Record) :
    Leads (fieldText short field) (betweenFields rs r)
      (betweenFields rs ((stringsOf field.2).foldl (addField · field.1) r)) :=
  leads_flatMap (betweenFields rs) (addField · field.1)
    (fun _ hs b ↦ leads_string hname hlocal (isContent_of_mem_stringsOf hv hs) rs b) r

/-- The strings of all fields make the record, when they are added to an empty one. -/
theorem foldl_fields (hv : ∀ field ∈ r, IsFieldValue field.2) (before : Record)
    (hkeys : (Json.Members.keys (before ++ r)).Nodup) :
    r.foldl (fun b field ↦ (stringsOf field.2).foldl (addField · field.1) b) before
      = before ++ r := by
  induction r generalizing before with
  | nil => rw [List.foldl_nil, List.append_nil]
  | cons field r ih =>
    obtain ⟨name, v⟩ := field
    have hnew : name ∉ before.keys := fun hmem ↦ by
      rw [Json.Members.keys, List.map_append, List.map_cons, List.nodup_append] at hkeys
      exact hkeys.2.2 name hmem name List.mem_cons_self rfl
    rw [List.foldl_cons, foldl_addField hnew (hv _ List.mem_cons_self), ih, List.append_assoc,
      List.singleton_append]
    · exact fun field hfield ↦ hv field (List.mem_cons_of_mem _ hfield)
    · rwa [List.append_assoc, List.singleton_append]

end Fields

/-! ## Records -/

section Rows

variable (short : Bool) {root row : List Char} {r : Record}

theorem leads_rowText (hrow : Xml.isName row = true) (h : IsFlat r) (rs : List Record) :
    Leads (rowText short row r) (betweenRows rs) (betweenRows (r :: rs)) := by
  have hfields : Leads (r.flatMap (fieldText short)) (betweenFields rs [])
      (betweenFields rs r) := by
    have hleads := leads_flatMap (betweenFields rs)
      (fun b field ↦ (stringsOf field.2).foldl (addField · field.1) b)
      (fun field hfield b ↦ leads_fieldText short (h.isName field hfield).1
        (h.isName field hfield).2 (h.isFieldValue field hfield) rs b) []
    rwa [foldl_fields h.isFieldValue [] h.nodup_keys] at hleads
  -- a single tag does what two tags do, for nothing between them leads from a state to itself
  refine leads_element (fun hnil ↦ leads_emptyTag hrow ?_) (leads_tagged hrow rfl hfields rfl)
  rw [hnil] at hfields
  cases hfields.eq_of_nil
  rfl

theorem leads_root (hroot : Xml.isName root = true) (hrow : Xml.isName row = true)
    {rs : List Record} (hrs : ∀ r ∈ rs, IsFlat r) :
    Leads (Xml.element short root (rs.flatMap (rowText short row))) {}
      { records := rs.reverse } := by
  have hrows : Leads (rs.flatMap (rowText short row)) (betweenRows [])
      (betweenRows rs.reverse) := by
    have hleads := leads_flatMap betweenRows (fun b r ↦ r :: b)
      (fun r hr b ↦ leads_rowText short hrow (hrs r hr) b) []
    rwa [List.foldl_flip_cons_eq_append', List.append_nil] at hleads
  refine leads_element (fun hnil ↦ leads_emptyTag hroot ?_) (leads_tagged hroot rfl hrows rfl)
  rw [hnil] at hrows
  have hnone : rs.reverse = [] := congrArg Reading.records hrows.eq_of_nil.symm
  rw [hnone]
  rfl

end Rows

/-- Flat records are read back from their elements, whatever the root and the records are called,
and whether or not elements without content are single tags. -/
theorem records_markupText {root row : List Char} (hroot : Xml.isName root = true)
    (hrow : Xml.isName row = true) {rs : List Record} (hrs : ∀ r ∈ rs, IsFlat r) (short : Bool) :
    Feed.records (markupText short root row rs) = .ok rs := by
  have hdeclaration : Leads Xml.declaration {} {} := ⟨_, Xml.reads_declaration, rfl⟩
  have hread := records_of_leads (hdeclaration.append (leads_root short hroot hrow hrs))
  have hbegins : markupText short root row rs = "<?xml".toList ++ (" version=\"1.0\"?>".toList ++
    Xml.element short root (rs.flatMap (rowText short row))) := rfl
  rw [hbegins, records_of_declaration, ← hbegins, markupText, hread]
  rfl

theorem records_markupText_of_empty_parts :
    let rs : List Record :=
      [[("title", .string "<a> & b"), ("tag", .array [.string "x\ty", .string ""])], []]
    (∀ r ∈ rs, IsFlat r) ∧
      Feed.records (markupText true "rows".toList "x:row".toList rs) = .ok rs := by
  intro rs
  have htitle : IsFieldValue (.string "<a> & b") := .inl ⟨_, rfl, by simp [IsContent]⟩
  have htag : IsFieldValue (.array [.string "x\ty", .string ""]) :=
    .inr ⟨["x\ty", ""], rfl, by decide, by simp [IsContent]⟩
  have hrs : ∀ r ∈ rs, IsFlat r := by
    refine List.forall_mem_cons.2 ⟨⟨by decide, by decide, ?_⟩,
      List.forall_mem_singleton.2 ⟨by decide, nofun, nofun⟩⟩
    exact List.forall_mem_cons.2 ⟨htitle, List.forall_mem_singleton.2 htag⟩
  exact ⟨hrs, records_markupText (by decide) (by decide) hrs true⟩

end FeedHarvest.Feed.Markup
