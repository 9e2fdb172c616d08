import FeedHarvest.Proofs.Dictionary.Directive
import FeedHarvest.Proofs.Yaml.Reader

/-!
# The grammar of dictionaries

Which trees are dictionaries, what a dictionary that is read holds, and what is wrong with a tree
that is none. All three are said by which entries a mapping has: its keys differ, so where an entry
stands plays no part, and neither does an entry of another name. The order of the root's entries is
the one order that is kept, as that of the fields.

A field is checked for one thing after the other, and `checks` is the list of them. What each check
asks for is the form of a field; what it answers otherwise is the refusal.
-/

namespace FeedHarvest.Dictionary

open Yaml (IsText KeysDiffer Convertible)

/-! ## Options by their names -/

section Options

variable {es : List (Yaml × Yaml)} {name : String} {v : Yaml}

theorem mem_of_option?_eq_some (h : option? es name = some v) : (.string name, v) ∈ es := by
  obtain ⟨⟨k, w⟩, hfind, rfl⟩ := Option.map_eq_some_iff.1 h
  have hmem : (k, w) ∈ es := List.mem_of_find?_eq_some hfind
  have hkey := List.find?_some hfind
  cases k with
  | string s => rwa [eq_of_beq hkey] at hmem
  | null | bool b | number n | sequence items | mapping entries | tagged tag v => cases hkey

theorem option?_eq_none_iff : option? es name = none ↔ ∀ v, (.string name, v) ∉ es := by
  constructor
  · intro h v hmem
    have hfind := List.find?_eq_none.1 (Option.map_eq_none_iff.1 h) _ hmem
    exact hfind (beq_self_eq_true name)
  · intro h
    cases hv : option? es name with
    | none => rfl
    | some v => exact absurd (mem_of_option?_eq_some hv) (h v)

/-- As keys differ, it does not matter which entry of a name comes first. -/
theorem option?_eq_some_iff (h : KeysDiffer es) :
    option? es name = some v ↔ (.string name, v) ∈ es := by
  refine ⟨mem_of_option?_eq_some, fun hmem ↦ ?_⟩
  cases hw : option? es name with
  | none => exact absurd hmem (option?_eq_none_iff.1 hw v)
  | some w => rw [h.eq_of_mem (mem_of_option?_eq_some hw) hmem]

end Options

/-! ## Checks of a field -/

def IsTextOrNull (v : Yaml) : Prop := v = .null ∨ v.IsText

def IsBoolOrNull (v : Yaml) : Prop := v = .null ∨ ∃ b, v = .bool b

/-- The value that says whether a field holds a collection: that of `array`, or that of `is_array`
where there is no `array`, not even a null. -/
inductive IsArrayValue (es : List (Yaml × Yaml)) (v : Yaml) : Prop
  | array (h : (.string "array", v) ∈ es)
  | isArray (hnot : ∀ w, (.string "array", w) ∉ es) (h : (.string "is_array", v) ∈ es)

/-- The text of a field's nested path: the first of both names that has more than a null. -/
inductive IsPathText (es : List (Yaml × Yaml)) (s : String) : Prop
  | searchPath (h : (.string "search_path", .string s) ∈ es)
  | nestedPath (hnull : ∀ v, (.string "search_path", v) ∈ es → v = .null)
    (h : (.string "nested_path", .string s) ∈ es)

/-- Null, or of a kind and good. -/
def NullOr {ι : Type} (kind : ι → Yaml) (good : ι → Prop) (v : Yaml) : Prop :=
  v = .null ∨ ∃ i, v = kind i ∧ good i

/-- The error of a tree that is neither null nor of a kind and good: `other` if it is of another
kind. -/
def NullOrRefused {ι : Type} (kind : ι → Yaml) (other : Error) (bad : ι → Error → Prop) (v : Yaml)
    (e : Error) : Prop :=
  v ≠ .null ∧ (∀ i, v ≠ kind i) ∧ e = other ∨ ∃ i, v = kind i ∧ bad i e

/-- Transformations: null or a list of directives. -/
def TransformationsForm : Yaml → Prop := NullOr .sequence (∀ x ∈ ·, Directive.Form x)

def TransformationsRefused (field : String) : Yaml → Error → Prop :=
  NullOrRefused .sequence (.incomplete (.transformationsNotList field))
    (FirstFailure Directive.Form Directive.Refused)

/-- What is checked of a field. -/
inductive Check where
  | array
  | text (name : String)
  | path
  | constant
  | transformations

def checks : List Check :=
  [.array, .text "search_path", .text "nested_path", .path, .constant, .transformations,
    .text "source", .text "copy_from"]

/-- What a check asks of the mapping of a field. -/
def Check.Passes (es : List (Yaml × Yaml)) : Check → Prop
  | .array => ∀ v, IsArrayValue es v → IsBoolOrNull v
  | .text name => ∀ v, (.string name, v) ∈ es → IsTextOrNull v
  | .path => ∀ s, IsPathText es s → ∃ p, NestedPath.parse s = .ok p
  | .constant => ∀ v, (.string "constant", v) ∈ es → v.Convertible
  | .transformations => ∀ v, (.string "transformations", v) ∈ es → TransformationsForm v

/-- What a check answers if it does not get what it asks. -/
def Check.Refused (field : String) (es : List (Yaml × Yaml)) : Check → Error → Prop
  | .array, e => ∃ v, IsArrayValue es v ∧ ¬ IsBoolOrNull v ∧ e = .incomplete (.arrayNotBool field)
  | .text name, e =>
    ∃ v, (.string name, v) ∈ es ∧ ¬ IsTextOrNull v ∧ e = .incomplete (.optionNotText field name)
  | .path, e =>
    ∃ s, IsPathText es s ∧ (¬ ∃ p, NestedPath.parse s = .ok p) ∧ e = .incomplete (.nestedPath s)
  | .constant, e => ∃ v, (.string "constant", v) ∈ es ∧ NoJson v e
  | .transformations, e =>
    ∃ v, (.string "transformations", v) ∈ es ∧ TransformationsRefused field v e

theorem inOrder_nullOr {ι α : Type} {kind : ι → Yaml} {good : ι → Prop} {other : Error}
    {bad : ι → Error → Prop} {v : Yaml} {x : Except Error α} (hinj : Function.Injective kind)
    (hkind : ∀ i, kind i ≠ .null) (hnull : v = .null → ∃ a, x = .ok a)
    (hgood : ∀ i, v = kind i → InOrder good bad [i] x)
    (hother : v ≠ .null → (∀ i, v ≠ kind i) → x = .error other) :
    InOrder (NullOr kind good) (NullOrRefused kind other bad) [v] x := by
  by_cases hv : v = .null
  · obtain ⟨a, rfl⟩ := hnull hv
    cases hv
    refine inOrder_ok (.inl rfl) ?_
    rintro e (⟨h, -⟩ | ⟨i, h, -⟩)
    · exact h rfl
    · exact hkind i h.symm
  · by_cases hi : ∃ i, v = kind i
    · obtain ⟨i, rfl⟩ := hi
      refine (hgood i rfl).single ⟨?_, fun h ↦ .inr ⟨i, rfl, h⟩⟩ fun e ↦
        ⟨?_, fun h ↦ .inr ⟨i, rfl, h⟩⟩
      · rintro (h | ⟨j, hj, h⟩)
        · exact absurd h hv
        · exact hinj hj ▸ h
      · rintro (⟨-, h, -⟩ | ⟨j, hj, h⟩)
        · exact absurd rfl (h i)
        · exact hinj hj ▸ h
    · have hall : ∀ i, v ≠ kind i := not_exists.1 hi
      rw [hother hv hall]
      refine inOrder_error ?_ fun e ↦ ⟨?_, fun he ↦ .inl ⟨hv, hall, he⟩⟩
      · rintro (h | ⟨i, h, -⟩)
        · exact hv h
        · exact hall i h
      · rintro (⟨-, -, h⟩ | ⟨i, h, -⟩)
        · exact h
        · exact absurd h (hall i)

theorem sequence_injective : Function.Injective Yaml.sequence := fun _ _ ↦ Yaml.sequence.inj

theorem mapping_injective : Function.Injective Yaml.mapping := fun _ _ ↦ Yaml.mapping.inj

section Checks

variable {es : List (Yaml × Yaml)} {field : String}

theorem inOrder_textOption (h : KeysDiffer es) (name : String) :
    InOrder (Check.Passes es) (Check.Refused field es) [.text name]
      (textOption es field name) := by
  refine inOrder_of_option (fun v ↦ option?_eq_some_iff h) (fun hnone ↦ ?_) (fun v hv ↦ ?_)
    Iff.rfl fun e ↦ Iff.rfl
  · rw [textOption, hnone]
    exact ⟨none, rfl⟩
  · rw [textOption, hv]
    cases v with
    | null => exact inOrder_ok (.inl rfl) fun e hrefused ↦ hrefused.1 (.inl rfl)
    | string s => exact inOrder_ok (.inr ⟨s, rfl⟩) fun e hrefused ↦ hrefused.1 (.inr ⟨s, rfl⟩)
    | bool b | number n | sequence items | mapping entries | tagged tag v =>
      exact inOrder_error (by simp [IsTextOrNull, IsText])
        fun e ↦ and_iff_right (by simp [IsTextOrNull, IsText])

theorem arrayValue_eq_some_iff (h : KeysDiffer es) {v : Yaml} :
    (option? es "array").or (option? es "is_array") = some v ↔ IsArrayValue es v := by
  rw [Option.or_eq_some_iff, option?_eq_some_iff h, option?_eq_some_iff h, option?_eq_none_iff]
  constructor
  · rintro (harray | ⟨hnot, hisArray⟩)
    · exact .array harray
    · exact .isArray hnot hisArray
  · rintro (harray | ⟨hnot, hisArray⟩)
    · exact .inl harray
    · exact .inr ⟨hnot, hisArray⟩

private theorem inOrder_arrayOption (h : KeysDiffer es) :
    InOrder (Check.Passes es) (Check.Refused field es) [.array] (arrayOption es field) := by
  refine inOrder_of_option (fun v ↦ arrayValue_eq_some_iff h) (fun hnone ↦ ?_) (fun v hv ↦ ?_)
    Iff.rfl fun e ↦ Iff.rfl
  · rw [arrayOption, hnone]
    exact ⟨false, rfl⟩
  · rw [arrayOption, hv]
    cases v with
    | null => exact inOrder_ok (.inl rfl) fun e hrefused ↦ hrefused.1 (.inl rfl)
    | bool b => exact inOrder_ok (.inr ⟨b, rfl⟩) fun e hrefused ↦ hrefused.1 (.inr ⟨b, rfl⟩)
    | string s | number n | sequence items | mapping entries | tagged tag v =>
      exact inOrder_error (by simp [IsBoolOrNull]) fun e ↦ and_iff_right (by simp [IsBoolOrNull])

/-- What is read as a text, and that nothing is read where there is only null. -/
theorem textOption_eq_ok {name : String} {o : Option String} (h : KeysDiffer es)
    (ho : textOption es field name = .ok o) :
    (∀ s, o = some s ↔ (.string name, .string s) ∈ es) ∧
      (o = none → ∀ v, (.string name, v) ∈ es → v = .null) := by
  simp only [← option?_eq_some_iff h]
  rw [textOption] at ho
  cases hv : option? es name with
  | none =>
    rw [hv] at ho
    cases ho
    simp
  | some v =>
    rw [hv] at ho
    cases v with
    | null =>
      cases ho
      simp
    | string s =>
      cases ho
      simp
    | bool b | number n | sequence items | mapping entries | tagged tag v => cases ho

theorem or_eq_some_iff_isPathText {first second : Option String} (h : KeysDiffer es)
    (hfirst : textOption es field "search_path" = .ok first)
    (hsecond : textOption es field "nested_path" = .ok second) {s : String} :
    first.or second = some s ↔ IsPathText es s := by
  obtain ⟨hsearch, hnull⟩ := textOption_eq_ok h hfirst
  obtain ⟨hnested, -⟩ := textOption_eq_ok h hsecond
  rw [Option.or_eq_some_iff, hsearch, hnested]
  constructor
  · rintro (hs | ⟨hnone, hs⟩)
    · exact .searchPath hs
    · exact .nestedPath (hnull hnone) hs
  · rintro (hs | ⟨hall, hs⟩)
    · exact .inl hs
    · refine .inr ⟨Option.eq_none_iff_forall_ne_some.2 fun t ht ↦ ?_, hs⟩
      cases hall _ ((hsearch t).1 ht)

theorem inOrder_nestedPathParse (s : String) :
    InOrder (fun s ↦ ∃ p, NestedPath.parse s = .ok p)
      (fun s e ↦ (¬ ∃ p, NestedPath.parse s = .ok p) ∧ e = .incomplete (.nestedPath s)) [s]
      (NestedPath.parse s) := by
  cases hs : NestedPath.parse s with
  | ok p => exact inOrder_ok ⟨p, hs⟩ fun e hrefused ↦ hrefused.1 ⟨p, hs⟩
  | error e =>
    have hnot : ¬ ∃ p, NestedPath.parse s = .ok p := by
      rintro ⟨p, hp⟩
      cases hs.symm.trans hp
    have he : e = .incomplete (.nestedPath s) := by
      rw [NestedPath.parse] at hs
      split at hs
      · split at hs
        · exact (Except.error.inj hs).symm
        · cases hs
      · exact (Except.error.inj hs).symm
    cases he
    exact inOrder_error hnot fun e ↦ and_iff_right hnot

private theorem inOrder_pathOption (h : KeysDiffer es) :
    InOrder (Check.Passes es) (Check.Refused field es)
      [.text "search_path", .text "nested_path", .path] (pathOption es field) := by
  rw [pathOption]
  refine (inOrder_textOption h "search_path").bind fun first hfirst ↦
    (inOrder_textOption h "nested_path").bind fun second hsecond ↦ ?_
  refine inOrder_of_option (fun s ↦ or_eq_some_iff_isPathText h hfirst hsecond) (fun hnone ↦ ?_)
    (fun s hs ↦ ?_) Iff.rfl fun e ↦ Iff.rfl
  · rw [hnone]
    exact ⟨none, rfl⟩
  · rw [hs]
    exact (inOrder_nestedPathParse s).bind_pure

private theorem inOrder_constantOption (h : KeysDiffer es) :
    InOrder (Check.Passes es) (Check.Refused field es) [.constant] (constantOption es) := by
  refine inOrder_of_option (fun v ↦ option?_eq_some_iff h) (fun hnone ↦ ?_) (fun v hv ↦ ?_)
    Iff.rfl fun e ↦ Iff.rfl
  · rw [constantOption, hnone]
    exact ⟨none, rfl⟩
  · rw [constantOption, hv]
    cases v with
    | null =>
      refine inOrder_ok .null ?_
      rintro e ⟨h⟩
      cases h
    | bool b | string s | number n | sequence items | mapping entries | tagged tag v =>
      exact (inOrder_jsonOf _).bind_pure

private theorem inOrder_transformationsOption (h : KeysDiffer es)
    (huntagged : ∀ e ∈ es, e.2.Untagged) :
    InOrder (Check.Passes es) (Check.Refused field es) [.transformations]
      (transformationsOption es field) := by
  refine inOrder_of_option (fun v ↦ option?_eq_some_iff h) (fun hnone ↦ ?_) (fun v hv ↦ ?_)
    Iff.rfl fun e ↦ Iff.rfl
  · rw [transformationsOption, hnone]
    exact ⟨[], rfl⟩
  · rw [transformationsOption, hv]
    have hv' : v.Untagged := huntagged _ (mem_of_option?_eq_some hv)
    refine inOrder_nullOr sequence_injective (by rintro items ⟨⟩) ?_ ?_ fun hnull hlist ↦ ?_
    · rintro rfl
      exact ⟨[], rfl⟩
    · rintro items rfl
      have hitems := Yaml.untagged_sequence_iff.1 hv'
      exact (inOrder_mapM fun x hx ↦ Directive.inOrder_ofYaml (hitems x hx)).whole Iff.rfl
        fun e ↦ Iff.rfl
    · cases v with
      | null => exact absurd rfl hnull
      | sequence items => exact absurd rfl (hlist items)
      | bool b | string s | number n | mapping entries | tagged tag v => rfl

end Checks

/-! ## Fields -/

namespace FieldSpec

/-- A field: null, or a mapping that passes all checks. -/
def Form : Yaml → Prop := NullOr .mapping fun es ↦ ∀ c ∈ checks, c.Passes es

/-- The error of a field, that of the first check that it does not pass. -/
def Refused (field : String) : Yaml → Error → Prop :=
  NullOrRefused .mapping (.incomplete (.fieldNotMap field)) fun es ↦
    FirstFailure (Check.Passes es) (Check.Refused field es) checks

theorem inOrder_ofYaml {v : Yaml} (field : String) (hu : v.Untagged) (hd : v.Distinct) :
    InOrder Form (Refused field) [v] (ofYaml field v) := by
  refine inOrder_nullOr mapping_injective (by rintro es ⟨⟩) ?_ ?_ fun hnull hmapping ↦ ?_
  · rintro rfl
    exact ⟨{}, rfl⟩
  · rintro es rfl
    obtain ⟨-, hvalues⟩ := Yaml.untagged_mapping_iff.1 hu
    obtain ⟨hdiffer, -, -⟩ := Yaml.distinct_mapping_iff.1 hd
    -- the checks of each part follow those of the part before
    exact ((inOrder_arrayOption hdiffer).bind fun _ _ ↦
      (inOrder_pathOption hdiffer).bind fun _ _ ↦
        (inOrder_constantOption hdiffer).bind fun _ _ ↦
          (inOrder_transformationsOption hdiffer hvalues).bind fun _ _ ↦
            (inOrder_textOption hdiffer "source").bind fun _ _ ↦
              (inOrder_textOption hdiffer "copy_from").bind_pure).whole Iff.rfl fun e ↦ Iff.rfl
  · cases v with
    | null => exact absurd rfl hnull
    | mapping es => exact absurd rfl (hmapping es)
    | bool b | number n | string s | sequence items | tagged tag v => rfl

-- the order of the checks decides, not that of the entries
example :
    ofYaml "price"
        (.mapping [(.string "source", .bool true), (.string "array", .string "yes")])
      = .error (.incomplete (.arrayNotBool "price")) := rfl

end FieldSpec

/-! ## Unique fields -/

namespace UniqueFields

/-- Unique fields: null or a list of texts. -/
def Form : Yaml → Prop := NullOr .sequence (∀ x ∈ ·, IsText x)

def Refused : Yaml → Error → Prop :=
  NullOrRefused .sequence (.incomplete .uniqueFieldsNotList)
    (FirstFailure IsText fun x e ↦ ¬ x.IsText ∧ e = .incomplete .uniqueFieldNotText)

private theorem inOrder_uniqueFieldsOf {v : Yaml} (h : v.Untagged) :
    InOrder Form Refused [v] (uniqueFieldsOf v) := by
  refine inOrder_nullOr sequence_injective (by rintro items ⟨⟩) ?_ ?_ fun hnull hlist ↦ ?_
  · rintro rfl
    exact ⟨[], rfl⟩
  · rintro items rfl
    have hitems := Yaml.untagged_sequence_iff.1 h
    refine (inOrder_mapM fun x hx ↦ ?_).whole Iff.rfl fun e ↦ Iff.rfl
    rcases (hitems x hx).isText_or with ⟨s, rfl⟩ | ⟨hx, hnone⟩
    · exact inOrder_ok ⟨s, rfl⟩ fun e hrefused ↦ hrefused.1 ⟨s, rfl⟩
    · rw [hnone]
      exact inOrder_error hx fun e ↦ and_iff_right hx
  · cases v with
    | null => exact absurd rfl hnull
    | sequence items => exact absurd rfl (hlist items)
    | bool b | number n | string s | mapping es | tagged tag v => rfl

end UniqueFields

/-! ## The root -/

/-- An entry of the root: the unique fields, or a field, under a text. -/
inductive EntryForm : Yaml × Yaml → Prop
  | uniqueFields {v : Yaml} (h : UniqueFields.Form v) : EntryForm (.string uniqueFieldsKey, v)
  | field {name : String} {v : Yaml} (hname : name ≠ uniqueFieldsKey) (h : FieldSpec.Form v) :
    EntryForm (.string name, v)

inductive EntryRefused : Yaml × Yaml → Error → Prop
  | name {k v : Yaml} (h : ¬ k.IsText) : EntryRefused (k, v) (.incomplete .fieldNameNotText)
  | uniqueFields {v : Yaml} {e : Error} (h : UniqueFields.Refused v e) :
    EntryRefused (.string uniqueFieldsKey, v) e
  | field {name : String} {v : Yaml} {e : Error} (hname : name ≠ uniqueFieldsKey)
    (h : FieldSpec.Refused name v e) : EntryRefused (.string name, v) e

private theorem entryForm_uniqueFields_iff {v : Yaml} :
    EntryForm (.string uniqueFieldsKey, v) ↔ UniqueFields.Form v := by
  constructor
  · rintro (h | ⟨hname, -⟩)
    · exact h
    · exact absurd rfl hname
  · exact .uniqueFields

private theorem entryRefused_uniqueFields_iff {v : Yaml} {e : Error} :
    EntryRefused (.string uniqueFieldsKey, v) e ↔ UniqueFields.Refused v e := by
  constructor
  · rintro (hname | h | ⟨hname, -⟩)
    · exact absurd ⟨_, rfl⟩ hname
    · exact h
    · exact absurd rfl hname
  · exact .uniqueFields

private theorem entryForm_field_iff {name : String} {v : Yaml} (hname : name ≠ uniqueFieldsKey) :
    EntryForm (.string name, v) ↔ FieldSpec.Form v := by
  constructor
  · rintro (_ | ⟨-, h⟩)
    · exact absurd rfl hname
    · exact h
  · exact .field hname

private theorem entryRefused_field_iff {name : String} {v : Yaml} {e : Error}
    (hname : name ≠ uniqueFieldsKey) :
    EntryRefused (.string name, v) e ↔ FieldSpec.Refused name v e := by
  constructor
  · rintro (htext | _ | ⟨-, h⟩)
    · exact absurd ⟨_, rfl⟩ htext
    · exact absurd rfl hname
    · exact h
  · exact .field hname

private theorem inOrder_ofEntries {entries : List (Yaml × Yaml)}
    (hkeys : ∀ e ∈ entries, e.1.Untagged)
    (hvalues : ∀ e ∈ entries, e.2.Untagged) (hdistinct : ∀ e ∈ entries, e.2.Distinct)
    (d : Dictionary) : InOrder EntryForm EntryRefused entries (ofEntries d entries) := by
  induction entries generalizing d with
  | nil => exact inOrder_nil
  | cons e es ih =>
    obtain ⟨k, v⟩ := e
    have hes (d : Dictionary) : InOrder EntryForm EntryRefused es (ofEntries d es) :=
      ih (fun e he ↦ hkeys e (.tail _ he)) (fun e he ↦ hvalues e (.tail _ he))
        (fun e he ↦ hdistinct e (.tail _ he)) d
    have hv : v.Untagged := hvalues _ List.mem_cons_self
    rcases (hkeys _ List.mem_cons_self).isText_or with ⟨name, hname⟩ | ⟨hk, hnone⟩
    · cases hname
      rw [ofEntries, Yaml.text?]
      dsimp only
      split
      · next heq =>
        cases eq_of_beq heq
        exact ((UniqueFields.inOrder_uniqueFieldsOf hv).single entryForm_uniqueFields_iff
          fun e ↦ entryRefused_uniqueFields_iff).bind fun _ _ ↦ hes _
      · next heq =>
        have hname : name ≠ uniqueFieldsKey := fun h ↦ heq (beq_iff_eq.2 h)
        exact ((FieldSpec.inOrder_ofYaml name hv (hdistinct _ List.mem_cons_self)).single
          (entryForm_field_iff hname) fun e ↦ entryRefused_field_iff hname).bind fun _ _ ↦ hes _
    · rw [ofEntries, hnone]
      refine inOrder_error ?_ fun e ↦ ⟨?_, ?_⟩
      · rintro (_ | _)
        · exact hk ⟨_, rfl⟩
        · exact hk ⟨_, rfl⟩
      · rintro (_ | _ | _)
        · rfl
        · exact absurd ⟨_, rfl⟩ hk
        · exact absurd ⟨_, rfl⟩ hk
      · rintro rfl
        exact .name hk

/-- A dictionary: null, or a mapping all of whose entries have their form. -/
def Form : Yaml → Prop := NullOr .mapping (∀ e ∈ ·, EntryForm e)

/-- The error of a tree that is no dictionary, that of the first entry that is wrong. -/
def Refused : Yaml → Error → Prop :=
  NullOrRefused .mapping (.incomplete .rootNotMap) (FirstFailure EntryForm EntryRefused)

theorem inOrder_ofYaml {v : Yaml} (hu : v.Untagged) (hd : v.Distinct) :
    InOrder Form Refused [v] (ofYaml v) := by
  refine inOrder_nullOr mapping_injective (by rintro es ⟨⟩) ?_ ?_ fun hnull hmapping ↦ ?_
  · rintro rfl
    exact ⟨{}, rfl⟩
  · rintro entries rfl
    obtain ⟨hkeys, hvalues⟩ := Yaml.untagged_mapping_iff.1 hu
    obtain ⟨-, -, hdistinct⟩ := Yaml.distinct_mapping_iff.1 hd
    exact (inOrder_ofEntries hkeys hvalues hdistinct {}).whole Iff.rfl fun e ↦ Iff.rfl
  · cases v with
    | null => exact absurd rfl hnull
    | mapping es => exact absurd rfl (hmapping es)
    | bool b | number n | string s | sequence items | tagged tag v => rfl

end FeedHarvest.Dictionary
