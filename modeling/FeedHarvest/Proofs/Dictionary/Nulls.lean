import FeedHarvest.Proofs.Dictionary.Reading

/-!
# Nulls among options

An option that is null says no more than one that is not given, so it can be left out. This holds
for both names of the nested path, of which the second counts when the first is null.

It does not hold for both names of `array`: a null under the first hides the second. With it, a
field that is marked under `is_array` is not marked, and nothing is wrong with an `is_array` that is
no truth value. So a null under `array` can be left out only together with `is_array`, or where that
says nothing either.
-/

namespace FeedHarvest.Dictionary

open Yaml (KeysDiffer)

/-! ## Options with and without nulls -/

/-- Whether two mappings have the same option, or it is null in the first and missing in the
second. -/
def NullDropped (es es' : List (Yaml × Yaml)) (name : String) : Prop :=
  option? es name = option? es' name ∨ option? es name = some .null ∧ option? es' name = none

section Readers

variable {es es' : List (Yaml × Yaml)} (field : String)

theorem textOption_eq_of_nullDropped {name : String} (h : NullDropped es es' name) :
    textOption es field name = textOption es' field name := by
  rcases h with h | ⟨h, h'⟩
  · rw [textOption, textOption, h]
  · rw [textOption, textOption, h, h']

private theorem pathOption_eq_of_nullDropped (hsearch : NullDropped es es' "search_path")
    (hnested : NullDropped es es' "nested_path") : pathOption es field = pathOption es' field := by
  rw [pathOption, pathOption, textOption_eq_of_nullDropped field hsearch,
    textOption_eq_of_nullDropped field hnested]

private theorem constantOption_eq_of_nullDropped (h : NullDropped es es' "constant") :
    constantOption es = constantOption es' := by
  rcases h with h | ⟨h, h'⟩
  · rw [constantOption, constantOption, h]
  · rw [constantOption, constantOption, h, h']

private theorem transformationsOption_eq_of_nullDropped (h : NullDropped es es' "transformations") :
    transformationsOption es field = transformationsOption es' field := by
  rcases h with h | ⟨h, h'⟩
  · rw [transformationsOption, transformationsOption, h]
  · rw [transformationsOption, transformationsOption, h, h']

/-- Where `array` is one and the same, a null under `is_array` makes no difference. -/
theorem arrayOption_eq_of_nullDropped (harray : option? es "array" = option? es' "array")
    (h : NullDropped es es' "is_array") : arrayOption es field = arrayOption es' field := by
  rw [arrayOption, arrayOption, harray]
  cases option? es' "array" with
  | some v => rfl
  | none =>
    rcases h with h | ⟨h, h'⟩
    · rw [h]
    · rw [h, h']
      rfl

theorem arrayOption_of_null (h : option? es "array" = some .null) :
    arrayOption es field = .ok false := by
  rw [arrayOption, h]
  rfl

/-- A field is read from its options as far as they are not null, but for its marks as a
collection. -/
theorem FieldSpec.ofYaml_eq_of_nullDropped (harray : arrayOption es field = arrayOption es' field)
    (h : ∀ name, name ≠ "array" → name ≠ "is_array" → NullDropped es es' name) :
    FieldSpec.ofYaml field (.mapping es) = FieldSpec.ofYaml field (.mapping es') := by
  rw [FieldSpec.ofYaml, FieldSpec.ofYaml, harray,
    pathOption_eq_of_nullDropped field (h _ (by decide) (by decide)) (h _ (by decide) (by decide)),
    constantOption_eq_of_nullDropped (h _ (by decide) (by decide)),
    transformationsOption_eq_of_nullDropped field (h _ (by decide) (by decide)),
    textOption_eq_of_nullDropped field (h "source" (by decide) (by decide)),
    textOption_eq_of_nullDropped field (h "copy_from" (by decide) (by decide))]

end Readers

/-! ## Leaving out a null -/

section Drop

variable {before after : List (Yaml × Yaml)} {k : Yaml}

theorem option?_drop {name : String} (hk : k ≠ .string name) (v : Yaml) :
    option? (before ++ (k, v) :: after) name = option? (before ++ after) name := by
  rw [option?, option?, List.find?_append, List.find?_append, List.find?_cons_of_neg]
  cases k with
  | string s => simpa using fun h ↦ hk (congrArg _ h)
  | null | bool b | number n | sequence items | mapping es | tagged tag v => simp

theorem string_not_mem_of_keysDiffer {name : String} {v : Yaml}
    (h : KeysDiffer (before ++ (.string name, v) :: after)) (w : Yaml) :
    (.string name, w) ∉ before ++ after := by
  obtain ⟨-, hafter, hbefore⟩ := List.pairwise_append.1 h
  intro hmem
  rcases List.mem_append.1 hmem with hmem | hmem
  · exact Yaml.same_string_eq_false_iff.1 (hbefore _ hmem _ List.mem_cons_self) rfl
  · exact KeysDiffer.string_not_mem hafter hmem

theorem nullDropped_of_keysDiffer (h : KeysDiffer (before ++ (k, .null) :: after))
    (name : String) : NullDropped (before ++ (k, .null) :: after) (before ++ after) name := by
  by_cases hk : k = .string name
  · subst hk
    refine .inr ⟨(option?_eq_some_iff h).2 ?_, option?_eq_none_iff.2 ?_⟩
    · exact List.mem_append_right before List.mem_cons_self
    · exact string_not_mem_of_keysDiffer h
  · exact .inl (option?_drop hk .null)

end Drop

/-! ## Fields without nulls -/

/-- The names of the mark for collections. -/
def markNames : List String := ["array", "is_array"]

namespace FieldSpec

variable {es before after : List (Yaml × Yaml)} {k : Yaml}

/-- A null can be left out, but one under `array` only where `is_array` does not mark the field. -/
theorem ofYaml_drop_null (h : KeysDiffer (before ++ (k, .null) :: after))
    (harray : k = .string "array" →
      ∀ v, (.string "is_array", v) ∈ before ++ after → v = .null ∨ v = .bool false)
    (field : String) :
    FieldSpec.ofYaml field (.mapping (before ++ (k, .null) :: after))
      = FieldSpec.ofYaml field (.mapping (before ++ after)) := by
  refine ofYaml_eq_of_nullDropped field ?_ fun name _ _ ↦ nullDropped_of_keysDiffer h name
  by_cases hk : k = .string "array"
  · subst hk
    have hnull : option? (before ++ (.string "array", .null) :: after) "array" = some .null :=
      (option?_eq_some_iff h).2 (List.mem_append_right before List.mem_cons_self)
    have hnone : option? (before ++ after) "array" = none :=
      option?_eq_none_iff.2 (string_not_mem_of_keysDiffer h)
    rw [arrayOption_of_null field hnull, arrayOption, hnone]
    cases hv : option? (before ++ after) "is_array" with
    | none => rfl
    | some v =>
      rcases harray rfl v (mem_of_option?_eq_some hv) with rfl | rfl
      · rfl
      · rfl
  · exact arrayOption_eq_of_nullDropped field (option?_drop hk .null)
      (nullDropped_of_keysDiffer h "is_array")

/-- A null under `array` is as good as neither name. -/
theorem ofYaml_of_null_array (h : KeysDiffer es) (hnull : (.string "array", .null) ∈ es)
    (field : String) :
    FieldSpec.ofYaml field (.mapping es)
      = FieldSpec.ofYaml field (.mapping (withoutOptions markNames es)) := by
  refine ofYaml_eq_of_nullDropped field ?_ fun name harray hisArray ↦ .inl ?_
  · rw [arrayOption_of_null field ((option?_eq_some_iff h).2 hnull), arrayOption,
      option?_withoutOptions_of_mem (by decide), option?_withoutOptions_of_mem (by decide)]
    rfl
  · exact (option?_withoutOptions (by simp [markNames, harray, hisArray]) es).symm

end FieldSpec

/-! ## Dictionaries without nulls -/

theorem ofYaml_congr_field {es es' : List (Yaml × Yaml)}
    (h : ∀ field, FieldSpec.ofYaml field (.mapping es) = FieldSpec.ofYaml field (.mapping es'))
    (pre post : List (Yaml × Yaml)) (key : Yaml) :
    ofYaml (.mapping (pre ++ (key, .mapping es) :: post))
      = ofYaml (.mapping (pre ++ (key, .mapping es') :: post)) := by
  have hsame (entries : List (Yaml × Yaml)) : List.Forall₂ ReadAlike entries entries :=
    List.forall₂_same.2 fun _ _ ↦ ⟨rfl, rfl, fun _ ↦ rfl⟩
  have hfield : ReadAlike (key, .mapping es) (key, .mapping es') := ⟨rfl, rfl, h⟩
  exact ofEntries_congr (List.rel_append (hsame pre) (.cons hfield (hsame post))) {}

/-- **A null counts as absent, unless it hides something.** A field is read alike with a null and
without it, as the same field or with the same error, and so is every dictionary with that field, of
a tree or of a text. The exception is a null under `array` in front of an `is_array` that marks the
field or is wrong: then the field is read as if neither of the two were there. -/
theorem null_counts_as_absent_unless_it_hides {k : Yaml} {before after : List (Yaml × Yaml)}
    (h : KeysDiffer (before ++ (k, .null) :: after)) :
    ((k = .string "array" →
        ∀ v, (.string "is_array", v) ∈ before ++ after → v = .null ∨ v = .bool false) →
      (∀ field, FieldSpec.ofYaml field (.mapping (before ++ (k, .null) :: after))
        = FieldSpec.ofYaml field (.mapping (before ++ after))) ∧
      ∀ pre post key, ofYaml (.mapping (pre ++ (key, .mapping (before ++ (k, .null) :: after)) ::
          post)) = ofYaml (.mapping (pre ++ (key, .mapping (before ++ after)) :: post)) ∧
        ∀ text text',
          IsTreeOf text (.mapping (pre ++ (key, .mapping (before ++ (k, .null) :: after)) ::
            post)) →
          IsTreeOf text' (.mapping (pre ++ (key, .mapping (before ++ after)) :: post)) →
          parse text = parse text') ∧
    (k = .string "array" → ∀ field,
      FieldSpec.ofYaml field (.mapping (before ++ (k, .null) :: after))
        = FieldSpec.ofYaml field (.mapping
          (withoutOptions markNames (before ++ (k, .null) :: after)))) := by
  refine ⟨fun harray ↦ ?_, ?_⟩
  · have hfield := FieldSpec.ofYaml_drop_null h harray
    refine ⟨hfield, fun pre post key ↦ ⟨ofYaml_congr_field hfield pre post key, ?_⟩⟩
    intro text text' htext htext'
    rw [parse_of_isTreeOf htext, parse_of_isTreeOf htext']
    exact ofYaml_congr_field hfield pre post key
  · rintro rfl field
    exact FieldSpec.ofYaml_of_null_array h
      (List.mem_append_right before List.mem_cons_self) field

/-- A null under the first name of the nested path, and one under `array` that hides a wrong
`is_array`. -/
theorem null_counts_as_absent_unless_it_hides_of_aliases :
    let path : Yaml × Yaml := (.string "nested_path", .string "offers.price")
    let mark : Yaml × Yaml := (.string "is_array", .string "yes")
    (KeysDiffer [(.string "search_path", .null), path] ∧
      FieldSpec.ofYaml "price" (.mapping [(.string "search_path", .null), path])
        = FieldSpec.ofYaml "price" (.mapping [path])) ∧
    KeysDiffer [mark, (.string "array", .null)] ∧
      FieldSpec.ofYaml "price" (.mapping [mark, (.string "array", .null)])
        = FieldSpec.ofYaml "price" (.mapping []) := by
  intro path mark
  have hpath : KeysDiffer ([] ++ (.string "search_path", .null) :: [path]) := by
    simp [path, KeysDiffer, Yaml.same]
  have hmark : KeysDiffer ([mark] ++ (.string "array", .null) :: []) := by
    simp [mark, KeysDiffer, Yaml.same]
  obtain ⟨hdrop, -⟩ := null_counts_as_absent_unless_it_hides hpath
  obtain ⟨-, hhide⟩ := null_counts_as_absent_unless_it_hides hmark
  exact ⟨⟨hpath, (hdrop (by simp)).1 "price"⟩, hmark, hhide rfl "price"⟩

/-- A null under `array` hides that a field is marked. -/
theorem null_under_array_hides_is_array :
    let es : List (Yaml × Yaml) := [(.string "is_array", .bool true)]
    FieldSpec.ofYaml "bar" (.mapping ((.string "array", .null) :: es)) = .ok {} ∧
      FieldSpec.ofYaml "bar" (.mapping es) = .ok { isArray := true } ∧
      ¬ ∀ field k before after, KeysDiffer (before ++ (k, .null) :: after) →
        FieldSpec.ofYaml field (.mapping (before ++ (k, .null) :: after))
          = FieldSpec.ofYaml field (.mapping (before ++ after)) := by
  refine ⟨rfl, rfl, fun h ↦ ?_⟩
  have hdiffer : KeysDiffer [(.string "array", .null), (.string "is_array", .bool true)] := by
    simp [KeysDiffer, Yaml.same]
  have hread : (.ok {} : Except Error FieldSpec) = .ok { isArray := true } :=
    h "bar" _ [] _ hdiffer
  cases hread

end FeedHarvest.Dictionary
