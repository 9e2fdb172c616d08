import FeedHarvest.Json.Source
import FeedHarvest.Proofs.Json.Token

/-!
# Reading what was written

A value written in either layout is read back as the tree of what was written. Reading is a stack
machine, so the statement about a value is not about a whole text but about a value in front of any
rest, with any containers open: reading on after the value is reading the rest after one push.
-/

namespace FeedHarvest.Json

/-! ## What is written -/

mutual

/-- The tree of a written value. Floating-point numbers are left out: nothing is said of them. -/
def sourceOf : Json → Source
  | .null => .null
  | .bool b => .bool b
  | .number (.int n) => .number (intSource n)
  | .number (.float _) => .null
  | .string s => .string (partsOf s)
  | .array items => .array (sourcesOf items)
  | .object ms => .object (memberSourcesOf ms)

def sourcesOf : List Json → List Source
  | [] => []
  | v :: vs => sourceOf v :: sourcesOf vs

/-- The names and trees of written members. -/
def memberSourcesOf : List (String × Json) → List (List StringPart × Source)
  | [] => []
  | (k, v) :: ms => (partsOf k, sourceOf v) :: memberSourcesOf ms

end

mutual

/-- Whether no number of a value is floating point. -/
def IsIntegral : Json → Prop
  | .number (.float _) => False
  | .null | .bool _ | .number (.int _) | .string _ => True
  | .array items => AreIntegral items
  | .object ms => MembersIntegral ms

/-- Whether no number of the items is floating point. -/
def AreIntegral : List Json → Prop
  | [] => True
  | v :: vs => IsIntegral v ∧ AreIntegral vs

/-- Whether no number of the members is floating point. -/
def MembersIntegral : List (String × Json) → Prop
  | [] => True
  | (_, v) :: ms => IsIntegral v ∧ MembersIntegral ms

end

theorem membersIntegral_iff {ms : List (String × Json)} :
    MembersIntegral ms ↔ ∀ m ∈ ms, IsIntegral m.2 := by
  induction ms with
  | nil => simp [MembersIntegral]
  | cons m ms ih => rw [MembersIntegral, List.forall_mem_cons, ih]

theorem memberSourcesOf_eq_map (ms : List (String × Json)) :
    memberSourcesOf ms = ms.map fun (k, v) ↦ (partsOf k, sourceOf v) := by
  induction ms with
  | nil => rw [memberSourcesOf, List.map_nil]
  | cons m ms ih => rw [memberSourcesOf, ih, List.map_cons]

theorem sourcesOf_cons (v : Json) (vs : List Json) (sources : List Source) :
    (sourcesOf (v :: vs)).reverse ++ sources
      = (sourcesOf vs).reverse ++ sourceOf v :: sources := by
  rw [sourcesOf, List.reverse_cons, List.append_assoc, List.singleton_append]

theorem memberSourcesOf_cons (k : String) (v : Json) (ms : List (String × Json))
    (sources : List (List StringPart × Source)) :
    (memberSourcesOf ((k, v) :: ms)).reverse ++ sources
      = (memberSourcesOf ms).reverse ++ (partsOf k, sourceOf v) :: sources := by
  rw [memberSourcesOf, List.reverse_cons, List.append_assoc, List.singleton_append]

/-! ## Reading on -/

section Reading

open Source

/-- Reading a text on from a state. -/
def resume (s : State) (cs : List Char) : Option State := (tokens? cs).bind (run? s)

variable {s : State} {stack : List Frame} {cs ds ws rest : List Char} {v : Json}

theorem resume_of_tokens {t : Token} {s' : State}
    (hcs : tokens? cs = (tokens? rest).map (t :: ·)) (hs : step? s t = some s') :
    resume s cs = resume s' rest := by
  rw [resume, resume, hcs]
  cases tokens? rest with
  | none => rfl
  | some ts => rw [Option.map_some, Option.bind_some, run?, hs, Option.bind_some, Option.bind_some]

theorem resume_spaces (hws : ∀ c ∈ ws, isSpace c = true) (rest : List Char) :
    resume s (ws ++ rest) = resume s rest := by
  rw [resume, tokens?_spaces hws, resume]

theorem resume_punctuation {c : Char} {t : Token} {s' : State} (hc : punctuation? c = some t)
    (hs : step? s t = some s') : resume s (c :: rest) = resume s' rest :=
  resume_of_tokens (tokens?_punctuation hc) hs

/-- Whether a value may come next, in the innermost of the containers. The end of the array is left
out: it may come where a first item may, and nowhere else. -/
def BeginsValue (s : State) (stack : List Frame) : Prop :=
  ∀ t, t ≠ .closeArray → step? s t = begin? stack t

theorem beginsValue_value (stack : List Frame) : BeginsValue ⟨stack, .value⟩ stack := fun _ _ ↦ rfl

private theorem beginsValue_valueOrClose (stack : List Frame) :
    BeginsValue ⟨stack, .valueOrClose⟩ (.array [] :: stack) := by
  intro t ht
  cases t with
  | closeArray => exact absurd rfl ht
  | _ => rfl

/-- Whether a member name may come next in an object with these members. -/
def BeginsName (s : State) (stack : List Frame) (members : List (List StringPart × Source)) :
    Prop :=
  ∀ name, step? s (.string name) = some ⟨stack, .colon members name⟩

/-- Whether a text leads from one state to another, whatever comes after it that is no more of a
number. -/
def Leads (s : State) (cs : List Char) (s' : State) : Prop :=
  ∀ ⦃rest⦄, EndsNumber rest → resume s (cs ++ rest) = resume s' rest

/-- Whether a text is read as a value, wherever a value may come. -/
def Reads (v : Json) (cs : List Char) : Prop :=
  ∀ ⦃s stack⦄, BeginsValue s stack → Leads s cs (push (sourceOf v) stack)

/-- Whether a text is read as items, wherever an item may come. -/
def ReadsItems (vs : List Json) (cs : List Char) : Prop :=
  ∀ ⦃s stack items⦄, BeginsValue s (.array items :: stack) →
    Leads s cs ⟨stack, .itemEnd ((sourcesOf vs).reverse ++ items)⟩

/-- Whether a text is read as members, wherever a member may come. -/
def ReadsMembers (ms : List (String × Json)) (cs : List Char) : Prop :=
  ∀ ⦃s stack members⦄, BeginsName s stack members →
    Leads s cs ⟨stack, .memberEnd ((memberSourcesOf ms).reverse ++ members)⟩

theorem Leads.of_spaces {s' : State} (h : Leads s cs s') (hws : ∀ c ∈ ws, isSpace c = true) :
    Leads s (ws ++ cs) s' := by
  intro rest hrest
  rw [List.append_assoc, resume_spaces hws]
  exact h hrest

theorem endsNumber_cons {c : Char} (hc : Text.isDigit c = false ∧ c ≠ '.' ∧ c ≠ 'e' ∧ c ≠ 'E')
    (rest : List Char) : EndsNumber (c :: rest) := by
  rintro d ⟨⟩
  exact hc

theorem endsNumber_spaces_append (hws : ∀ c ∈ ws, isSpace c = true) (hrest : EndsNumber rest) :
    EndsNumber (ws ++ rest) := by
  cases ws with
  | nil => exact hrest
  | cons c ws =>
    have hc := hws c List.mem_cons_self
    refine endsNumber_cons ⟨?_, ?_, ?_, ?_⟩ _
    · simp only [isSpace, Bool.or_eq_true, beq_iff_eq] at hc
      rcases hc with ((rfl | rfl) | rfl) | rfl <;> decide
    all_goals
      rintro rfl
      exact absurd hc (by decide)

/-! ### Values of no parts -/

theorem reads_of_token {t : Token}
    (hcs : ∀ rest, EndsNumber rest → tokens? (cs ++ rest) = (tokens? rest).map (t :: ·))
    (ht : ∀ stack, begin? stack t = some (push (sourceOf v) stack)) : Reads v cs := by
  intro s stack hs rest hrest
  have hclose : t ≠ .closeArray := by
    rintro rfl
    cases ht []
  exact resume_of_tokens (hcs rest hrest) ((hs t hclose).trans (ht stack))

theorem reads_null : Reads .null ['n', 'u', 'l', 'l'] := by
  refine reads_of_token (t := .null) (fun rest _ ↦ ?_) fun _ ↦ rfl
  simp only [List.cons_append, List.nil_append, tokens?]

theorem reads_true : Reads (.bool true) ['t', 'r', 'u', 'e'] := by
  refine reads_of_token (t := .bool true) (fun rest _ ↦ ?_) fun _ ↦ rfl
  simp only [List.cons_append, List.nil_append, tokens?]

theorem reads_false : Reads (.bool false) ['f', 'a', 'l', 's', 'e'] := by
  refine reads_of_token (t := .bool false) (fun rest _ ↦ ?_) fun _ ↦ rfl
  simp only [List.cons_append, List.nil_append, tokens?]

theorem reads_int (n : Int) : Reads (.number (.int n)) (intText n) :=
  reads_of_token (fun _ hrest ↦ tokens?_intText n hrest) fun _ ↦ by rw [sourceOf]; rfl

theorem reads_string (s : String) : Reads (.string s) (quoted s) :=
  reads_of_token (fun rest _ ↦ tokens?_quoted s rest) fun _ ↦ by rw [sourceOf]; rfl

/-! ### Containers -/

theorem Reads.of_blank (h : Reads v cs) : Reads v (' ' :: cs) := by
  have hblank : ∀ c ∈ [' '], isSpace c = true := fun c hc ↦ by
    rw [List.mem_singleton.1 hc]
    rfl
  exact fun s stack hs ↦ (h hs).of_spaces hblank

theorem readsItems_singleton (h : Reads v cs) : ReadsItems [v] cs := by
  intro s stack items hs rest hrest
  rw [h hs hrest, sourcesOf_cons]
  rfl

theorem readsItems_cons {vs : List Json} (hv : Reads v cs) (hvs : ReadsItems vs ds) :
    ReadsItems (v :: vs) (cs ++ ',' :: ds) := by
  intro s stack items hs rest hrest
  rw [List.append_assoc, List.cons_append, hv hs (endsNumber_cons (by decide) _), push,
    resume_punctuation (c := ',') rfl rfl, hvs (beginsValue_value _) hrest, sourcesOf_cons]

theorem reads_array_nil : Reads (.array []) ['[', ']'] := by
  intro s stack hs rest _
  have hopen : step? s .openArray = some ⟨stack, .valueOrClose⟩ := hs _ (by decide)
  rw [List.cons_append, resume_punctuation (c := '[') rfl hopen, List.cons_append,
    resume_punctuation (c := ']') rfl rfl, sourceOf]
  rfl

theorem reads_array {vs : List Json} (h : ReadsItems vs cs) (hws : ∀ c ∈ ws, isSpace c = true) :
    Reads (.array vs) ('[' :: cs ++ ws ++ [']']) := by
  intro s stack hs rest _
  have hopen : step? s .openArray = some ⟨stack, .valueOrClose⟩ := hs _ (by decide)
  have hend : EndsNumber (ws ++ (']' :: rest)) :=
    endsNumber_spaces_append hws (endsNumber_cons (by decide) rest)
  rw [List.append_assoc, List.append_assoc, List.cons_append,
    resume_punctuation (c := '[') rfl hopen, List.cons_append, List.nil_append,
    h (beginsValue_valueOrClose stack) hend, resume_spaces hws,
    resume_punctuation (c := ']') rfl rfl, sourceOf, List.append_nil, List.reverse_reverse]

theorem readsMembers_singleton (k : String) (h : Reads v cs) :
    ReadsMembers [(k, v)] (quoted k ++ ':' :: cs) := by
  intro s stack members hs rest hrest
  rw [List.append_assoc, resume_of_tokens (tokens?_quoted k _) (hs _), List.cons_append,
    resume_punctuation (c := ':') rfl rfl, h (beginsValue_value _) hrest, memberSourcesOf_cons]
  rfl

theorem readsMembers_cons {ms : List (String × Json)} (k : String) (hv : Reads v cs)
    (hms : ReadsMembers ms ds) :
    ReadsMembers ((k, v) :: ms) (quoted k ++ ':' :: (cs ++ ',' :: ds)) := by
  intro s stack members hs rest hrest
  rw [List.append_assoc, resume_of_tokens (tokens?_quoted k _) (hs _), List.cons_append,
    resume_punctuation (c := ':') rfl rfl, List.append_assoc, List.cons_append,
    hv (beginsValue_value _) (endsNumber_cons (by decide) _), push,
    resume_punctuation (c := ',') rfl rfl, hms (fun _ ↦ rfl) hrest, memberSourcesOf_cons]

theorem reads_object_nil : Reads (.object []) ['\x7b', '\x7d'] := by
  intro s stack hs rest _
  have hopen : step? s .openObject = some ⟨stack, .nameOrClose⟩ := hs _ (by decide)
  rw [List.cons_append, resume_punctuation (c := '\x7b') rfl hopen, List.cons_append,
    resume_punctuation (c := '\x7d') rfl rfl, sourceOf]
  rfl

theorem reads_object {ms : List (String × Json)} (h : ReadsMembers ms cs)
    (hws : ∀ c ∈ ws, isSpace c = true) :
    Reads (.object ms) ('\x7b' :: cs ++ ws ++ ['\x7d']) := by
  intro s stack hs rest _
  have hopen : step? s .openObject = some ⟨stack, .nameOrClose⟩ := hs _ (by decide)
  have hend : EndsNumber (ws ++ ('\x7d' :: rest)) :=
    endsNumber_spaces_append hws (endsNumber_cons (by decide) rest)
  rw [List.append_assoc, List.append_assoc, List.cons_append,
    resume_punctuation (c := '\x7b') rfl hopen, List.cons_append, List.nil_append,
    h (fun _ ↦ rfl) hend, resume_spaces hws,
    resume_punctuation (c := '\x7d') rfl rfl, sourceOf, List.append_nil, List.reverse_reverse]

end Reading

/-! ## Indented lines -/

theorem isSpace_of_mem_newline {depth : Nat} {c : Char} (h : c ∈ newline depth) :
    isSpace c = true := by
  rcases List.mem_cons.1 h with rfl | h
  · decide
  · rw [(List.mem_replicate.1 h).2]
    decide

-- values, items and members contain each other, so the three statements are proved together; the
-- empty lists have no text of their own, and nothing is said of them
mutual

theorem reads_prettyText (depth : Nat) : ∀ v, IsIntegral v → Reads v (prettyText depth v)
  | .null, _ => by rw [prettyText]; exact reads_null
  | .bool true, _ => by rw [prettyText]; exact reads_true
  | .bool false, _ => by rw [prettyText]; exact reads_false
  | .number (.int n), _ => by rw [prettyText]; exact reads_int n
  | .number (.float _), h => by rw [IsIntegral] at h; exact h.elim
  | .string s, _ => by rw [prettyText]; exact reads_string s
  | .array [], _ => by rw [prettyText]; exact reads_array_nil
  | .array (v :: vs), h => by
    rw [IsIntegral] at h
    rw [prettyText]
    · exact reads_array (readsItems_prettyItems (depth + 1) (v :: vs) h (List.cons_ne_nil v vs))
        fun _ hc ↦ isSpace_of_mem_newline hc
    · exact List.cons_ne_nil v vs
  | .object [], _ => by rw [prettyText]; exact reads_object_nil
  | .object (m :: ms), h => by
    rw [IsIntegral] at h
    rw [prettyText]
    · exact reads_object
        (readsMembers_prettyMembers (depth + 1) (m :: ms) h (List.cons_ne_nil m ms))
        fun _ hc ↦ isSpace_of_mem_newline hc
    · exact List.cons_ne_nil m ms

theorem readsItems_prettyItems (depth : Nat) :
    ∀ vs, AreIntegral vs → vs ≠ [] → ReadsItems vs (prettyItems depth vs)
  | [], _, hne => absurd rfl hne
  | [v], h, _ => by
    rw [AreIntegral] at h
    rw [prettyItems]
    exact fun _ _ _ hs ↦ (readsItems_singleton (reads_prettyText depth v h.1) hs).of_spaces
      fun _ hc ↦ isSpace_of_mem_newline hc
  | v :: w :: vs, h, _ => by
    rw [AreIntegral] at h
    rw [prettyItems]
    · have hvs : ReadsItems (w :: vs) (prettyItems depth (w :: vs)) :=
        readsItems_prettyItems depth (w :: vs) h.2 (List.cons_ne_nil w vs)
      rw [List.append_assoc]
      exact fun _ _ _ hs ↦ (readsItems_cons (reads_prettyText depth v h.1) hvs hs).of_spaces
        fun _ hc ↦ isSpace_of_mem_newline hc
    · exact List.cons_ne_nil w vs

theorem readsMembers_prettyMembers (depth : Nat) :
    ∀ ms, MembersIntegral ms → ms ≠ [] → ReadsMembers ms (prettyMembers depth ms)
  | [], _, hne => absurd rfl hne
  | [(k, v)], h, _ => by
    rw [MembersIntegral] at h
    rw [prettyMembers, List.append_assoc]
    have hv := (reads_prettyText depth v h.1).of_blank
    exact fun _ _ _ hs ↦ (readsMembers_singleton k hv hs).of_spaces
      fun _ hc ↦ isSpace_of_mem_newline hc
  | (k, v) :: m :: ms, h, _ => by
    rw [MembersIntegral] at h
    have hv := (reads_prettyText depth v h.1).of_blank
    have hms : ReadsMembers (m :: ms) (prettyMembers depth (m :: ms)) :=
      readsMembers_prettyMembers depth (m :: ms) h.2 (List.cons_ne_nil m ms)
    rw [prettyMembers, List.append_assoc]
    · exact fun _ _ _ hs ↦ (readsMembers_cons k hv hms hs).of_spaces
        fun _ hc ↦ isSpace_of_mem_newline hc
    · exact List.cons_ne_nil m ms

end

/-! ## Without blanks -/

mutual

theorem reads_compactText : ∀ v, IsIntegral v → Reads v (compactText v)
  | .null, _ => by rw [compactText]; exact reads_null
  | .bool true, _ => by rw [compactText]; exact reads_true
  | .bool false, _ => by rw [compactText]; exact reads_false
  | .number (.int n), _ => by rw [compactText]; exact reads_int n
  | .number (.float _), h => by rw [IsIntegral] at h; exact h.elim
  | .string s, _ => by rw [compactText]; exact reads_string s
  | .array [], _ => by rw [compactText, compactItems]; exact reads_array_nil
  | .array (v :: vs), h => by
    rw [IsIntegral] at h
    have hvs := readsItems_compactItems (v :: vs) h (List.cons_ne_nil v vs)
    have hread : Reads _ ('[' :: compactItems (v :: vs) ++ [] ++ [']']) := reads_array hvs nofun
    rwa [List.append_nil, ← compactText] at hread
  | .object [], _ => by rw [compactText, compactMembers]; exact reads_object_nil
  | .object (m :: ms), h => by
    rw [IsIntegral] at h
    have hms := readsMembers_compactMembers (m :: ms) h (List.cons_ne_nil m ms)
    have hread : Reads _ ('\x7b' :: compactMembers (m :: ms) ++ [] ++ ['\x7d']) :=
      reads_object hms nofun
    rwa [List.append_nil, ← compactText] at hread

theorem readsItems_compactItems :
    ∀ vs, AreIntegral vs → vs ≠ [] → ReadsItems vs (compactItems vs)
  | [], _, hne => absurd rfl hne
  | [v], h, _ => by
    rw [AreIntegral] at h
    rw [compactItems]
    exact readsItems_singleton (reads_compactText v h.1)
  | v :: w :: vs, h, _ => by
    rw [AreIntegral] at h
    rw [compactItems]
    · exact readsItems_cons (reads_compactText v h.1)
        (readsItems_compactItems (w :: vs) h.2 (List.cons_ne_nil w vs))
    · exact List.cons_ne_nil w vs

theorem readsMembers_compactMembers :
    ∀ ms, MembersIntegral ms → ms ≠ [] → ReadsMembers ms (compactMembers ms)
  | [], _, hne => absurd rfl hne
  | [(k, v)], h, _ => by
    rw [MembersIntegral] at h
    rw [compactMembers]
    exact readsMembers_singleton k (reads_compactText v h.1)
  | (k, v) :: m :: ms, h, _ => by
    rw [MembersIntegral] at h
    rw [compactMembers]
    · exact readsMembers_cons k (reads_compactText v h.1)
        (readsMembers_compactMembers (m :: ms) h.2 (List.cons_ne_nil m ms))
    · exact List.cons_ne_nil m ms

end

/-! ## Whole texts -/

theorem parse?_of_reads {v : Json} {cs : List Char} (h : Reads v cs) :
    Source.parse? cs = some (sourceOf v) := by
  -- nothing is left to be read when no container is open around the value
  have hread := h (beginsValue_value []) (show EndsNumber [] from nofun)
  rw [List.append_nil, Source.push, resume, resume] at hread
  obtain ⟨ts, hts, hrun⟩ : ∃ ts, tokens? cs = some ts ∧
      Source.run? ⟨[], .value⟩ ts = some ⟨[], .nothing (sourceOf v)⟩ := by
    rw [← Option.bind_eq_some_iff, hread, tokens?]
    rfl
  rw [Source.parse?, hts]
  simp only [bind, Option.bind_some, hrun]

/-- What is written on indented lines is read back as it was written. -/
theorem parse?_prettyText {v : Json} (h : IsIntegral v) :
    Source.parse? (prettyText 0 v) = some (sourceOf v) := parse?_of_reads (reads_prettyText 0 v h)

end FeedHarvest.Json
