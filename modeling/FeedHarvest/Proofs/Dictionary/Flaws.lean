import FeedHarvest.Dictionary.Reader
import FeedHarvest.Proofs.Dictionary.Rendering

/-!
# Flaws of trees

A tree that is no dictionary is refused for its form, whatever is in it: names of operations mean
nothing before a dictionary is compiled, so an operation that does not exist is no error yet. Along
the tree, each reader fails with a flaw only, as the readers of its parts do.
-/

namespace FeedHarvest.Dictionary

section Readers

variable {α β : Type}

theorem failsIncomplete_mapM {f : α → Except Error β} (h : ∀ a, FailsIncomplete (f a))
    (as : List α) : FailsIncomplete (as.mapM f) := by
  induction as with
  | nil => exact failsIncomplete_ok []
  | cons a as ih =>
    rw [List.mapM_cons]
    exact (h a).bind fun b ↦ ih.bind_pure

/-! ## Directives -/

theorem failsIncomplete_jsonOf (v : Yaml) : FailsIncomplete (jsonOf v) := by
  rw [jsonOf]
  cases v.toJson with
  | ok j => exact failsIncomplete_ok j
  | error e => exact failsIncomplete_error _

private theorem failsIncomplete_keyedArguments (entries : List (Yaml × Yaml)) :
    FailsIncomplete (keyedArguments entries) := by
  induction entries with
  | nil => exact failsIncomplete_ok []
  | cons e es ih =>
    obtain ⟨k, v⟩ := e
    rw [keyedArguments]
    cases k.text? with
    | none => exact failsIncomplete_error _
    | some key => exact (failsIncomplete_jsonOf v).bind fun value ↦ ih.bind_pure

theorem Arguments.failsIncomplete_ofYaml (v : Yaml) : FailsIncomplete (ofYaml v) := by
  cases v with
  | null => exact failsIncomplete_ok _
  | sequence items => exact (failsIncomplete_mapM failsIncomplete_jsonOf items).bind_pure
  | mapping entries => exact (failsIncomplete_keyedArguments entries).bind_pure
  | bool b | number n | string s | tagged tag v => exact (failsIncomplete_jsonOf _).bind_pure

theorem Directive.failsIncomplete_ofYaml (v : Yaml) : FailsIncomplete (ofYaml v) := by
  rw [ofYaml.eq_def]
  split
  · exact failsIncomplete_ok _
  · split
    · exact (Arguments.failsIncomplete_ofYaml _).bind_pure
    · exact failsIncomplete_error _
  · exact failsIncomplete_error _

/-! ## Fields -/

variable (es : List (Yaml × Yaml)) (field : String)

theorem failsIncomplete_textOption (name : String) :
    FailsIncomplete (textOption es field name) := by
  rw [textOption]
  split
  · exact failsIncomplete_ok _
  · exact failsIncomplete_ok _
  · exact failsIncomplete_ok _
  · exact failsIncomplete_error _

private theorem failsIncomplete_arrayOption : FailsIncomplete (arrayOption es field) := by
  rw [arrayOption]
  split
  · exact failsIncomplete_ok _
  · exact failsIncomplete_ok _
  · exact failsIncomplete_ok _
  · exact failsIncomplete_error _

private theorem NestedPath.failsIncomplete_parse (path : String) :
    FailsIncomplete (parse path) := by
  rw [parse]
  split
  · split
    · exact failsIncomplete_error _
    · exact failsIncomplete_ok _
  · exact failsIncomplete_error _

private theorem failsIncomplete_pathOption : FailsIncomplete (pathOption es field) := by
  refine (failsIncomplete_textOption es field "search_path").bind fun first ↦
    (failsIncomplete_textOption es field "nested_path").bind fun second ↦ ?_
  cases first.or second with
  | none => exact failsIncomplete_ok none
  | some path => exact (NestedPath.failsIncomplete_parse path).bind_pure

private theorem failsIncomplete_constantOption : FailsIncomplete (constantOption es) := by
  rw [constantOption]
  split
  · exact failsIncomplete_ok _
  · exact failsIncomplete_ok _
  · exact (failsIncomplete_jsonOf _).bind_pure

private theorem failsIncomplete_transformationsOption :
    FailsIncomplete (transformationsOption es field) := by
  rw [transformationsOption]
  split
  · exact failsIncomplete_ok _
  · exact failsIncomplete_ok _
  · exact failsIncomplete_mapM Directive.failsIncomplete_ofYaml _
  · exact failsIncomplete_error _

theorem FieldSpec.failsIncomplete_ofYaml (v : Yaml) : FailsIncomplete (ofYaml field v) := by
  cases v with
  | null => exact failsIncomplete_ok _
  | mapping es =>
    exact (failsIncomplete_arrayOption es field).bind fun _ ↦
      (failsIncomplete_pathOption es field).bind fun _ ↦
        (failsIncomplete_constantOption es).bind fun _ ↦
          (failsIncomplete_transformationsOption es field).bind fun _ ↦
            (failsIncomplete_textOption es field "source").bind fun _ ↦
              (failsIncomplete_textOption es field "copy_from").bind_pure
  | bool b | number n | string s | sequence items | tagged tag v => exact failsIncomplete_error _

end Readers

/-! ## The root -/

private theorem failsIncomplete_uniqueFieldsOf (v : Yaml) : FailsIncomplete (uniqueFieldsOf v) := by
  cases v with
  | null => exact failsIncomplete_ok []
  | sequence items =>
    refine failsIncomplete_mapM (fun v ↦ ?_) items
    cases v.text? with
    | none => exact failsIncomplete_error _
    | some s => exact failsIncomplete_ok s
  | bool b | number n | string s | mapping es | tagged tag v => exact failsIncomplete_error _

private theorem failsIncomplete_ofEntries (d : Dictionary) (entries : List (Yaml × Yaml)) :
    FailsIncomplete (ofEntries d entries) := by
  induction entries generalizing d with
  | nil => exact failsIncomplete_ok d
  | cons e es ih =>
    obtain ⟨k, v⟩ := e
    rw [ofEntries]
    split
    · exact failsIncomplete_error _
    · split
      · exact (failsIncomplete_uniqueFieldsOf v).bind fun names ↦ ih _
      · exact (FieldSpec.failsIncomplete_ofYaml _ v).bind fun spec ↦ ih _

theorem failsIncomplete_ofYaml (v : Yaml) : FailsIncomplete (ofYaml v) := by
  cases v with
  | null => exact failsIncomplete_ok _
  | mapping entries => exact failsIncomplete_ofEntries _ entries
  | bool b | number n | string s | sequence items | tagged tag v => exact failsIncomplete_error _

end FeedHarvest.Dictionary
