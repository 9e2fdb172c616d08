import FeedHarvest.Proofs.Feed.Markup
import FeedHarvest.Proofs.Xml.Tree

/-!
# Records of trees

The reader of an XML feed sees tags one after the other and keeps a depth, an open record and an
open field. What it finds can be said of the elements as a tree, without any of these: the children
of the top elements are the records, their children the fields, and a field's text is all the text
inside it. Here the two are proved equal, for trees of any depth and width.

What a tree does depends on where it stands. Inside a field it adds its chunks to the text; in a
record it adds a field; in a top element it adds a record. In each place it leads from a state of
that place to another one, so trees that follow one another lead from state to state, which is
`foldlM_eventsOf`, and the element around them needs nothing but its own two tags.

That a record is open from depth two on, and a field from depth three on, holds of all events that
are read, nested well or not.
-/

namespace FeedHarvest.Feed.Markup

open Xml (Event Node eventsOf openAfter?)

/-! ## Records as trees have them -/

mutual

/-- The chunks of text in a tree, in document order. -/
def chunksOf : Node → List (List Char)
  | .element _ _ children => chunksIn children
  | .text raw => [(Xml.unescape? raw).getD []]
  | .literal cs => [Text.trim cs]
  | .empty .. | .other => []

/-- The chunks of text in trees. -/
def chunksIn : List Node → List (List Char)
  | [] => []
  | n :: ns => chunksOf n ++ chunksIn ns

end

/-- Chunks joined by single spaces, without the empty ones. -/
def joined (chunks : List (List Char)) : List Char :=
  [' '].intercalate (chunks.filter (!·.isEmpty))

/-- The field that a child of a record is: its local name and all text inside it. -/
def fieldOf? : Node → Option (String × String)
  | .element name _ children => some (nameOf name, String.ofList (joined (chunksIn children)))
  | .empty name _ => some (nameOf name, "")
  | .text _ | .literal _ | .other => none

/-- Attributes by local name. -/
def attributePairs (cs : List Char) : List (String × String) :=
  ((Xml.attributes? cs).getD []).map fun (key, value) ↦ (nameOf key, String.ofList value)

/-- All strings under a name: that of the last such attribute, then those of the fields. -/
def stringsUnder (attributes fields : List (String × String)) (name : String) : List String :=
  (attributes.reverse.lookup name).toList ++ (fields.filter (·.1 == name)).map Prod.snd

/-- A single string as it is, several as an array. -/
def valueOf : List String → Json
  | [s] => .string s
  | ss => .array (ss.map .string)

/-- The record with these attributes and fields: every name at the place where it first occurs. -/
def recordWith (attributes fields : List (String × String)) : Record :=
  ((attributes ++ fields).map Prod.fst).eraseDups.map fun name ↦
    (name, valueOf (stringsUnder attributes fields name))

/-- The record that a child of a top element is. -/
def recordOf? : Node → Option Record
  | .element _ attributes children =>
    some (recordWith (attributePairs attributes) (children.filterMap fieldOf?))
  | .empty _ attributes => some (recordWith (attributePairs attributes) [])
  | .text _ | .literal _ | .other => none

/-- The records in a top element: its children, in document order. -/
def recordsInside : Node → List Record
  | .element _ _ children => children.filterMap recordOf?
  | .empty .. | .text _ | .literal _ | .other => []

/-! ## Trees one after the other -/

def AllReadable (es : List Event) : Prop := ∀ e ∈ es, e.isReadable = true

section Trees

variable {ns : List Node}

theorem AllReadable.of_mem (h : AllReadable (eventsOf ns)) {n : Node} (hn : n ∈ ns) :
    AllReadable n.events := fun e he ↦ h e (Xml.mem_eventsOf.2 ⟨n, hn, he⟩)

theorem AllReadable.tail {n : Node} (h : AllReadable (eventsOf (n :: ns))) :
    AllReadable (eventsOf ns) := fun e he ↦ h e (List.mem_append_right _ he)

theorem AllReadable.children {name attributes : List Char}
    (h : AllReadable (Node.element name attributes ns).events) : AllReadable (eventsOf ns) := by
  intro e he
  exact h e (by simp [Node.events, he])

theorem foldl_elim {α β γ : Type} (f : α → Option β) (g : γ → β → γ) (as : List α) (c : γ) :
    as.foldl (fun c a ↦ (f a).elim c (g c)) c = (as.filterMap f).foldl g c := by
  rw [List.foldl_filterMap]
  congr 1
  funext c a
  cases f a <;> rfl

theorem foldlM_eventsOf {β : Type} (state : β → Reading) (next : β → Node → β)
    (h : ∀ n ∈ ns, ∀ b, n.events.foldlM Reading.step (state b) = .ok (state (next b n))) (b : β) :
    (eventsOf ns).foldlM Reading.step (state b) = .ok (state (ns.foldl next b)) := by
  induction ns generalizing b with
  | nil => rfl
  | cons n ns ih =>
    rw [eventsOf, foldlM_step_append (h n List.mem_cons_self b), List.foldl_cons]
    exact ih (fun m hm ↦ h m (List.mem_cons_of_mem n hm)) (next b n)

/-- An element does what its tags do around its children. -/
theorem foldlM_element {name attributes : List Char} {r r₁ r₂ r' : Reading}
    (hstart : r.step (.start name attributes) = .ok r₁)
    (hchildren : (eventsOf ns).foldlM Reading.step r₁ = .ok r₂)
    (hfinish : r₂.step .finish = .ok r') :
    (Node.element name attributes ns).events.foldlM Reading.step r = .ok r' := by
  rw [Node.events, foldlM_step_cons hstart, foldlM_step_append hchildren, foldlM_step_cons hfinish]
  rfl

end Trees

/-! ## Text inside a field -/

/-- Of a chunk and the next one a single chunk can be made. -/
theorem joined_addText (value chunk : List Char) (chunks : List (List Char)) :
    joined (addText value chunk :: chunks) = joined (value :: chunk :: chunks) := by
  cases value with
  | nil => cases chunk <;> simp [joined, addText]
  | cons v value =>
    cases chunk with
    | nil => simp [joined, addText]
    | cons c chunk => cases h : chunks.filter (!·.isEmpty) <;> simp [joined, addText, h]

private theorem joined_nil_cons (chunks : List (List Char)) :
    joined ([] :: chunks) = joined chunks := rfl

private theorem foldl_addText (value : List Char) (chunks : List (List Char)) :
    chunks.foldl addText value = joined (value :: chunks) := by
  induction chunks generalizing value with
  | nil => cases value <;> simp [joined]
  | cons chunk chunks ih => rw [List.foldl_cons, ih, joined_addText]

/-- The state inside the elements of a field. -/
def insideElements (rs : List Record) (r : Record) (name : String) (d : Nat) (value : List Char) :
    Reading :=
  { insideField rs r name value with depth := d + 3 }

section Fields

variable (rs : List Record) (r : Record) (name : String)

mutual

theorem foldlM_events_field (d : Nat) (value : List Char) :
    ∀ n : Node, AllReadable n.events →
      n.events.foldlM Reading.step (insideElements rs r name d value)
        = .ok (insideElements rs r name d ((chunksOf n).foldl addText value))
  | .element _ _ children, h =>
    foldlM_element rfl (foldlM_eventsOf_field (d + 1) value children h.children) rfl
  | .text raw, h => by
    obtain ⟨text, htext⟩ := Option.isSome_iff_exists.1 (h _ List.mem_cons_self)
    simp [Node.events, chunksOf, Reading.step, insideElements, insideField, Reading.addChunk, htext]
  | .empty _ _, _ | .literal _, _ | .other, _ => rfl

theorem foldlM_eventsOf_field (d : Nat) (value : List Char) :
    ∀ ns : List Node, AllReadable (eventsOf ns) →
      (eventsOf ns).foldlM Reading.step (insideElements rs r name d value)
        = .ok (insideElements rs r name d ((chunksIn ns).foldl addText value))
  | [], _ => rfl
  | n :: ns, h => by
    rw [eventsOf, foldlM_step_append (foldlM_events_field d value n (h.of_mem List.mem_cons_self)),
      chunksIn, List.foldl_append]
    exact foldlM_eventsOf_field d _ ns h.tail

end

theorem foldlM_events_record (n : Node) (h : AllReadable n.events) :
    n.events.foldlM Reading.step (betweenFields rs r)
      = .ok (betweenFields rs ((fieldOf? n).elim r fun field ↦ addField r field.1 field.2)) := by
  cases n with
  | element name attributes children =>
    have hchildren := foldlM_eventsOf_field rs r (nameOf name) 0 [] children h.children
    rw [foldl_addText, joined_nil_cons] at hchildren
    exact foldlM_element rfl hchildren rfl
  | empty name attributes | text raw | literal cs | other => rfl

theorem foldlM_eventsOf_record {ns : List Node} (h : AllReadable (eventsOf ns)) :
    (eventsOf ns).foldlM Reading.step (betweenFields rs r)
      = .ok (betweenFields rs
          ((ns.filterMap fieldOf?).foldl (fun r field ↦ addField r field.1 field.2) r)) := by
  rw [foldlM_eventsOf (betweenFields rs) _ (fun n hn r ↦ foldlM_events_record rs r n (h.of_mem hn)),
    foldl_elim fieldOf? fun r field ↦ addField r field.1 field.2]

end Fields

/-! ## Fields of a record -/

section Values

variable (attributes fields : List (String × String)) (name : String)

private theorem not_mem_names_iff {pairs : List (String × String)} :
    name ∉ pairs.map Prod.fst ↔ ∀ pair ∈ pairs, pair.1 ≠ name := by
  simp only [List.mem_map, not_exists, not_and, ne_eq]

theorem stringsUnder_eq_nil_iff :
    stringsUnder attributes fields name = [] ↔ name ∉ (attributes ++ fields).map Prod.fst := by
  have hattributes : (attributes.reverse.lookup name).toList = [] ↔
      ∀ pair ∈ attributes, pair.1 ≠ name := by
    simp only [Option.toList_eq_nil_iff, List.lookup_eq_none_iff, List.mem_reverse, bne_iff_ne,
      ne_comm]
  have hfields : (fields.filter (·.1 == name)).map Prod.snd = [] ↔
      ∀ pair ∈ fields, pair.1 ≠ name := by
    simp only [List.map_eq_nil_iff, List.filter_eq_nil_iff, beq_iff_eq, ne_eq]
  rw [stringsUnder, List.append_eq_nil_iff, hattributes, hfields, not_mem_names_iff,
    List.forall_mem_append]

/-- A field comes last of the strings under its name. -/
theorem stringsUnder_concat (s other : String) :
    stringsUnder attributes (fields ++ [(name, s)]) other =
      if other = name then stringsUnder attributes fields name ++ [s]
      else stringsUnder attributes fields other := by
  by_cases h : other = name
  · simp [stringsUnder, h]
  · simp [stringsUnder, h, Ne.symm h]

/-- An attribute takes the place of those before it under its name. -/
theorem stringsUnder_concat_nil (s other : String) :
    stringsUnder (attributes ++ [(name, s)]) [] other =
      if other = name then [s] else stringsUnder attributes [] other := by
  by_cases h : other = name
  · simp [stringsUnder, h]
  · simp [stringsUnder, List.lookup_cons, beq_false_of_ne h, h]

private theorem get?_recordWith :
    (recordWith attributes fields).get? name =
      if stringsUnder attributes fields name = [] then none
      else some (valueOf (stringsUnder attributes fields name)) := by
  by_cases h : name ∈ (attributes ++ fields).map Prod.fst
  · rw [if_neg (mt (stringsUnder_eq_nil_iff _ _ _).1 (not_not.2 h))]
    exact Json.Members.get?_map (List.mem_eraseDups.2 h) _
  · rw [if_pos ((stringsUnder_eq_nil_iff _ _ _).2 h)]
    refine Json.Members.get?_of_not_mem ?_
    simpa [recordWith, Json.Members.keys, Function.comp_def] using h

private theorem addField_of_get? {r : Record} {ss : List String}
    (h : r.get? name = if ss = [] then none else some (valueOf ss)) (s : String) :
    addField r name s = r.insert name (valueOf (ss ++ [s])) := by
  rw [addField, h]
  cases ss with
  | nil => simp [valueOf]
  | cons first ss => cases ss <;> simp [valueOf]

theorem addField_recordWith (s : String) :
    addField (recordWith attributes fields) name s
      = recordWith attributes (fields ++ [(name, s)]) := by
  have hnames : (attributes ++ (fields ++ [(name, s)])).map Prod.fst
      = (attributes ++ fields).map Prod.fst ++ [name] := by
    rw [← List.append_assoc]
    exact List.map_append
  rw [addField_of_get? name (get?_recordWith attributes fields name), recordWith,
    Json.Members.insert_map_eraseDups, recordWith, hnames]
  refine List.map_congr_left fun other _ ↦ ?_
  rw [stringsUnder_concat, apply_ite valueOf]

private theorem foldl_addField_recordWith (more : List (String × String)) :
    more.foldl (fun r field ↦ addField r field.1 field.2) (recordWith attributes fields)
      = recordWith attributes (fields ++ more) := by
  induction more generalizing fields with
  | nil => rw [List.foldl_nil, List.append_nil]
  | cons field more ih =>
    rw [List.foldl_cons, addField_recordWith, ih, List.append_assoc, List.singleton_append]

private theorem ofList_attributes :
    Json.Members.ofList (attributes.map fun (key, value) ↦ (key, .string value))
      = recordWith attributes [] := by
  induction attributes using List.reverseRecOn with
  | nil => rfl
  | append_singleton attributes pair ih =>
    obtain ⟨key, value⟩ := pair
    rw [List.map_append, List.map_singleton, Json.Members.ofList_concat, ih, recordWith,
      Json.Members.insert_map_eraseDups, recordWith, List.append_nil, List.append_nil,
      List.map_append, List.map_singleton]
    refine List.map_congr_left fun other _ ↦ ?_
    rw [stringsUnder_concat_nil, apply_ite valueOf]
    rfl

end Values

theorem attributeFields_of_isSome {cs : List Char} (h : (Xml.attributes? cs).isSome = true) :
    attributeFields cs = .ok (recordWith (attributePairs cs) []) := by
  obtain ⟨pairs, hpairs⟩ := Option.isSome_iff_exists.1 h
  rw [attributeFields, hpairs, attributePairs, hpairs, ← ofList_attributes, Option.getD_some,
    List.map_map]
  rfl

/-! ## Records of the top elements -/

section Rows

variable {ns : List Node}

theorem foldlM_events_root (rs : List Record) (n : Node) (h : AllReadable n.events) :
    n.events.foldlM Reading.step (betweenRows rs)
      = .ok (betweenRows ((recordOf? n).elim rs (· :: rs))) := by
  cases n with
  | element name attributes children =>
    have hattributes := attributeFields_of_isSome (h _ List.mem_cons_self)
    have hstart : (betweenRows rs).step (.start name attributes)
        = .ok (betweenFields rs (recordWith (attributePairs attributes) [])) := by
      simp [Reading.step, Reading.start, betweenRows, hattributes]
      rfl
    have hchildren :=
      foldlM_eventsOf_record rs (recordWith (attributePairs attributes) []) h.children
    rw [foldl_addField_recordWith, List.nil_append] at hchildren
    exact foldlM_element hstart hchildren rfl
  | empty name attributes =>
    have hattributes := attributeFields_of_isSome (h _ List.mem_cons_self)
    simp [Reading.step, Reading.empty, betweenRows, hattributes, Node.events]
    rfl
  | text raw | literal cs | other => rfl

private theorem foldlM_eventsOf_root (rs : List Record) (h : AllReadable (eventsOf ns)) :
    (eventsOf ns).foldlM Reading.step (betweenRows rs)
      = .ok (betweenRows ((ns.filterMap recordOf?).reverse ++ rs)) := by
  rw [foldlM_eventsOf betweenRows _ (fun n hn rs ↦ foldlM_events_root rs n (h.of_mem hn)),
    foldl_elim recordOf? fun rs r ↦ r :: rs, List.foldl_flip_cons_eq_append']

theorem foldlM_events_top (rs : List Record) (n : Node) (h : AllReadable n.events) :
    n.events.foldlM Reading.step { records := rs }
      = .ok { records := (recordsInside n).reverse ++ rs } := by
  cases n with
  | element name attributes children =>
    exact foldlM_element rfl (foldlM_eventsOf_root rs h.children) rfl
  | empty name attributes | text raw | literal cs | other => rfl

private theorem foldlM_eventsOf_top (rs : List Record) (h : AllReadable (eventsOf ns)) :
    (eventsOf ns).foldlM Reading.step { records := rs }
      = .ok { records := (ns.flatMap recordsInside).reverse ++ rs } := by
  induction ns generalizing rs with
  | nil => rfl
  | cons n ns ih =>
    rw [eventsOf, foldlM_step_append (foldlM_events_top rs n (h.of_mem List.mem_cons_self)),
      ih _ h.tail, List.flatMap_cons, List.reverse_append, List.append_assoc]

end Rows

/-! ## What is open at a depth -/

/-- Whether a record is open from depth two on, and a field from depth three on. -/
structure FollowsDepth (r : Reading) : Prop where
  record : r.record.isSome = true ↔ 2 ≤ r.depth
  field : r.field.isSome = true ↔ 3 ≤ r.depth

section Depth

variable {r r' : Reading} {e : Event} {es : List Event} {name attributes : List Char}

theorem followsDepth_initial : FollowsDepth {} := ⟨by decide, by decide⟩

theorem exists_of_bind_attributeFields {f : Record → Reading}
    (h : (do return f (← attributeFields attributes)) = Except.ok r) : ∃ fields, f fields = r := by
  cases hfields : attributeFields attributes with
  | error flaw =>
    rw [hfields] at h
    cases h
  | ok fields =>
    rw [hfields] at h
    exact ⟨fields, Except.ok.inj h⟩

theorem FollowsDepth.start (h : FollowsDepth r) (hr : r.start name attributes = .ok r') :
    FollowsDepth r' ∧ r'.depth = r.depth + 1 := by
  obtain ⟨records, record, field, depth⟩ := r
  obtain ⟨hrecord, hfield⟩ := h
  match depth with
  | 1 =>
    obtain ⟨fields, rfl⟩ := exists_of_bind_attributeFields hr
    exact ⟨⟨by simp, by simpa using hfield⟩, rfl⟩
  | 2 =>
    cases hr
    exact ⟨⟨by simpa using hrecord, by simp⟩, rfl⟩
  | 0 | d + 3 =>
    cases hr
    exact ⟨⟨by simpa using hrecord, by simpa using hfield⟩, rfl⟩

theorem FollowsDepth.empty (h : FollowsDepth r) (hr : r.empty name attributes = .ok r') :
    FollowsDepth r' ∧ r'.depth = r.depth := by
  obtain ⟨records, record, field, depth⟩ := r
  obtain ⟨hrecord, hfield⟩ := h
  match depth with
  | 1 =>
    obtain ⟨fields, rfl⟩ := exists_of_bind_attributeFields hr
    exact ⟨⟨hrecord, hfield⟩, rfl⟩
  | 2 =>
    cases hr
    exact ⟨⟨by simpa using hrecord, hfield⟩, rfl⟩
  | 0 | d + 3 =>
    cases hr
    exact ⟨⟨hrecord, hfield⟩, rfl⟩

theorem FollowsDepth.addChunk (h : FollowsDepth r) (chunk : List Char) :
    FollowsDepth (r.addChunk chunk) :=
  ⟨h.record, by simpa [Reading.addChunk] using h.field⟩

theorem FollowsDepth.finish (h : FollowsDepth r) : FollowsDepth r.finish := by
  obtain ⟨records, record, field, depth⟩ := r
  obtain ⟨hrecord, hfield⟩ := h
  match depth with
  | 2 => exact ⟨by simp [Reading.finish], by simpa [Reading.finish] using hfield⟩
  | 3 => exact ⟨by simpa [Reading.finish] using hrecord, by simp [Reading.finish]⟩
  | 0 | 1 | d + 4 =>
    exact ⟨by simpa [Reading.finish] using hrecord, by simpa [Reading.finish] using hfield⟩

private theorem depth_finish (r : Reading) : r.finish.depth = r.depth - 1 := by
  rw [Reading.finish]
  split <;> rfl

/-- An event that is read keeps to the depth, and the depth counts the elements that are open. -/
theorem FollowsDepth.step (h : FollowsDepth r) (hr : r.step e = .ok r') :
    FollowsDepth r' ∧ ∀ d, Event.openAfter? r.depth e = some d → r'.depth = d := by
  cases e with
  | start name attributes =>
    obtain ⟨hr', hdepth⟩ := h.start hr
    exact ⟨hr', fun d hd ↦ hdepth.trans (Option.some.inj hd)⟩
  | empty name attributes =>
    obtain ⟨hr', hdepth⟩ := h.empty hr
    exact ⟨hr', fun d hd ↦ hdepth.trans (Option.some.inj hd)⟩
  | text raw =>
    -- outside of a field a text does nothing, inside it adds a chunk
    rw [Reading.step] at hr
    split at hr
    · cases hr
      exact ⟨h, fun d hd ↦ Option.some.inj hd⟩
    · split at hr
      · cases hr
        exact ⟨h.addChunk _, fun d hd ↦ Option.some.inj hd⟩
      · cases hr
  | literal cs =>
    cases hr
    exact ⟨h.addChunk _, fun d hd ↦ Option.some.inj hd⟩
  | finish =>
    cases hr
    refine ⟨h.finish, fun d hd ↦ ?_⟩
    rw [depth_finish]
    obtain ⟨records, record, field, depth⟩ := r
    cases depth with
    | zero => cases hd
    | succ depth => exact Option.some.inj hd
  | other =>
    cases hr
    exact ⟨h, fun d hd ↦ Option.some.inj hd⟩
  | fault => cases hr

theorem FollowsDepth.foldlM (h : FollowsDepth r) (hr : es.foldlM Reading.step r = .ok r') :
    FollowsDepth r' ∧ ∀ d, openAfter? r.depth es = some d → r'.depth = d := by
  induction es generalizing r with
  | nil =>
    cases hr
    exact ⟨h, fun d hd ↦ Option.some.inj hd⟩
  | cons e es ih =>
    cases hstep : r.step e with
    | error flaw =>
      rw [List.foldlM_cons, hstep] at hr
      cases hr
    | ok r₁ =>
      rw [foldlM_step_cons hstep] at hr
      obtain ⟨h₁, hdepth⟩ := h.step hstep
      obtain ⟨h', hopen⟩ := ih h₁ hr
      refine ⟨h', fun d hd ↦ ?_⟩
      obtain ⟨d₁, he, hes⟩ :
          ∃ d₁, Event.openAfter? r.depth e = some d₁ ∧ openAfter? d₁ es = some d :=
        Option.bind_eq_some_iff.1 hd
      rw [← hdepth d₁ he] at hes
      exact hopen d hes

private theorem exists_step_of_isReadable (he : e.isReadable = true) (r : Reading) :
    ∃ r', r.step e = .ok r' := by
  cases e with
  | start name attributes =>
    simp only [Reading.step, Reading.start, attributeFields_of_isSome he]
    split <;> exact ⟨_, rfl⟩
  | empty name attributes =>
    simp only [Reading.step, Reading.empty, attributeFields_of_isSome he]
    split <;> exact ⟨_, rfl⟩
  | text raw =>
    obtain ⟨text, htext⟩ := Option.isSome_iff_exists.1 he
    rw [Reading.step, htext]
    split <;> exact ⟨_, rfl⟩
  | literal cs | finish | other => exact ⟨_, rfl⟩
  | fault => cases he

theorem exists_foldlM_of_allReadable (hes : AllReadable es) (r : Reading) :
    ∃ r', es.foldlM Reading.step r = .ok r' := by
  induction es generalizing r with
  | nil => exact ⟨r, rfl⟩
  | cons e es ih =>
    obtain ⟨r₁, hr₁⟩ := exists_step_of_isReadable (hes e List.mem_cons_self) r
    rw [foldlM_step_cons hr₁]
    exact ih (fun e he ↦ hes e (List.mem_cons_of_mem _ he)) r₁

/-- An element that is still open at the end makes the feed no feed. -/
theorem recordsOf_of_open {d : Nat} (hopen : openAfter? 0 es = some (d + 1)) :
    ∃ flaw, recordsOf es = .error flaw ∧ (AllReadable es → flaw = .unclosed) := by
  cases hr : es.foldlM Reading.step {} with
  | error flaw =>
    refine ⟨flaw, by rw [recordsOf, hr]; rfl, fun hes ↦ ?_⟩
    obtain ⟨r, hok⟩ := exists_foldlM_of_allReadable hes {}
    rw [hr] at hok
    cases hok
  | ok r =>
    have hdepth : r.depth = d + 1 := (followsDepth_initial.foldlM hr).2 (d + 1) hopen
    refine ⟨.unclosed, ?_, fun _ ↦ rfl⟩
    rw [recordsOf, hr]
    exact if_neg (hdepth ▸ Nat.succ_ne_zero d)

end Depth

/-! ## The reader and the trees -/

/-- **The reader of events finds the records of the trees.** Events in which every end tag has its
start tag are the events of trees. If they are readable, the records are the elements inside the top
elements, each with its attributes and with the text of the elements inside it. As events are read,
a record is open from depth two on and a field from depth three on, where the depth is the number
of elements that are open. If one is open at the end, there are no records. -/
theorem recordsOf_follows_trees :
    (∀ es, openAfter? 0 es = some 0 ↔ ∃ ns, eventsOf ns = es) ∧
    (∀ ns, AllReadable (eventsOf ns) →
      recordsOf (eventsOf ns) = .ok (ns.flatMap recordsInside)) ∧
    (∀ es, (AllReadable es → ∃ r, es.foldlM Reading.step {} = .ok r) ∧
      ∀ r, es.foldlM Reading.step {} = .ok r →
        FollowsDepth r ∧ ∀ d, openAfter? 0 es = some d → r.depth = d) ∧
    ∀ es d, openAfter? 0 es = some (d + 1) →
      ∃ flaw, recordsOf es = .error flaw ∧ (AllReadable es → flaw = .unclosed) := by
  refine ⟨fun es ↦ Xml.openAfter?_eq_some_zero_iff, fun ns hns ↦ ?_, fun es ↦ ⟨?_, fun r hr ↦ ?_⟩,
    fun es d ↦ recordsOf_of_open⟩
  · have htop := foldlM_eventsOf_top [] hns
    rw [List.append_nil] at htop
    rw [recordsOf, htop]
    exact congrArg Except.ok (List.reverse_reverse _)
  · exact fun hes ↦ exists_foldlM_of_allReadable hes {}
  · exact followsDepth_initial.foldlM hr

theorem recordsOf_follows_trees_of_mixed_content :
    let row : List Node :=
      [.element "x:tag".toList []
        [.text "a &amp; b".toList, .element ['b'] [] [.literal " c ".toList], .empty ['i'] []],
      .empty "tag".toList [], .text ['-'], .element "id".toList [] [.text ['3']]]
    let ns : List Node := [.other, .element "rows".toList []
      [.element "row".toList " x:id=\"1\" id=\"2\"".toList row, .empty "row".toList []]]
    AllReadable (eventsOf ns) ∧
      recordsOf (eventsOf ns) = .ok [[("id", .array [.string "2", .string "3"]),
        ("tag", .array [.string "a & b c", .string ""])], []] ∧
      recordsOf (eventsOf ns).dropLast = .error .unclosed := by
  intro row ns
  have hreadable : ∀ e ∈ eventsOf ns, e.isReadable = true := by decide
  obtain ⟨-, hrecords, -, hopen⟩ := recordsOf_follows_trees
  refine ⟨hreadable, (hrecords ns hreadable).trans rfl, ?_⟩
  -- the last event closes the root
  obtain ⟨flaw, hflaw, hunclosed⟩ := hopen (eventsOf ns).dropLast 0 (by decide)
  rw [hflaw, hunclosed fun e he ↦ hreadable e (List.dropLast_subset _ he)]

/-- A section loses the blanks at its ends, as if it were a text. -/
theorem recordsOf_of_padded_section :
    let ns : List Node := [.element "rows".toList [] [.element "row".toList []
      [.element ['a'] [] [.literal "  pad  ".toList]]]]
    AllReadable (eventsOf ns) ∧ recordsOf (eventsOf ns) = .ok [[("a", .string "pad")]] ∧
      recordsOf (eventsOf ns) ≠ .ok [[("a", .string "  pad  ")]] := by
  intro ns
  have hreadable : ∀ e ∈ eventsOf ns, e.isReadable = true := by decide
  have hrecords : recordsOf (eventsOf ns) = .ok [[("a", .string "pad")]] := rfl
  refine ⟨hreadable, hrecords, ?_⟩
  rw [hrecords]
  decide

end FeedHarvest.Feed.Markup
