import FeedHarvest.Proofs.Dictionary.Flaws
import FeedHarvest.Proofs.Dictionary.Grammar
import Mathlib.Data.List.Find

/-!
# What a dictionary that is read holds

The fields of a dictionary are the entries of the root other than the unique fields, one for one and
in their order. A field holds what its options say and nothing else, so options of other names can
be left out before reading. As the keys of the root differ, so do the names of the fields.

Reading a text is reading its tree. Trees of texts have different keys, so nothing has to be
assumed of them but that they are without tags.
-/

namespace FeedHarvest.Dictionary

open Yaml (KeysDiffer)

theorem mapM_eq_ok_iff {α β : Type} {f : α → Except Error β} {as : List α} {bs : List β} :
    as.mapM f = .ok bs ↔ List.Forall₂ (fun a b ↦ f a = .ok b) as bs := by
  induction as generalizing bs with
  | nil =>
    rw [List.forall₂_nil_left_iff]
    exact ⟨by rintro ⟨⟩; rfl, by rintro rfl; rfl⟩
  | cons a as ih =>
    rw [List.mapM_cons, bind_eq_ok_iff, List.forall₂_cons_left_iff]
    constructor
    · rintro ⟨b, hb, h⟩
      obtain ⟨bs', hbs, rfl⟩ := bind_pure_eq_ok_iff.1 h
      exact ⟨b, bs', hb, ih.1 hbs, rfl⟩
    · rintro ⟨b, bs', hb, hbs, rfl⟩
      exact ⟨b, hb, bind_pure_eq_ok_iff.2 ⟨bs', ih.2 hbs, rfl⟩⟩

/-! ## What a field holds -/

/-- The entries of a tree, if it is a mapping. -/
def entriesOf : Yaml → List (Yaml × Yaml)
  | .mapping entries => entries
  | _ => []

/-- What the options of a field say of it. -/
structure FieldSpec.Says (es : List (Yaml × Yaml)) (spec : FieldSpec) : Prop where
  source : ∀ s, spec.source = some s ↔ (.string "source", .string s) ∈ es
  copyFrom : ∀ s, spec.copyFrom = some s ↔ (.string "copy_from", .string s) ∈ es
  constant : ∀ j, spec.constant = some j ↔
    ∃ v, v ≠ .null ∧ (.string "constant", v) ∈ es ∧ v.toJson = .ok j
  isArray : spec.isArray = true ↔ IsArrayValue es (.bool true)
  nestedPath : ∀ p, spec.nestedPath = some p ↔ ∃ s, IsPathText es s ∧ NestedPath.parse s = .ok p
  transformations : ∀ items, (.string "transformations", .sequence items) ∈ es →
    List.Forall₂ (fun x d ↦ Directive.ofYaml x = .ok d) items spec.transformations
  noTransformations : (∀ items, (.string "transformations", .sequence items) ∉ es) →
    spec.transformations = []

section Options

variable {es : List (Yaml × Yaml)} {field : String}

private theorem arrayOption_eq_ok {b : Bool} (h : KeysDiffer es)
    (hb : arrayOption es field = .ok b) :
    b = true ↔ IsArrayValue es (.bool true) := by
  rw [← arrayValue_eq_some_iff h]
  rw [arrayOption] at hb
  cases hv : (option? es "array").or (option? es "is_array") with
  | none =>
    rw [hv] at hb
    cases hb
    simp
  | some v =>
    rw [hv] at hb
    cases v with
    | null =>
      cases hb
      simp
    | bool c =>
      cases hb
      simp
    | string s | number n | sequence items | mapping entries | tagged tag v => cases hb

private theorem pathOption_eq_ok {o : Option NestedPath} (h : KeysDiffer es)
    (ho : pathOption es field = .ok o) (p : NestedPath) :
    o = some p ↔ ∃ s, IsPathText es s ∧ NestedPath.parse s = .ok p := by
  obtain ⟨first, hfirst, ho⟩ := bind_eq_ok_iff.1 ho
  obtain ⟨second, hsecond, ho⟩ := bind_eq_ok_iff.1 ho
  simp only [← or_eq_some_iff_isPathText h hfirst hsecond]
  cases hs : first.or second with
  | none =>
    rw [hs] at ho
    cases ho
    simp
  | some s =>
    rw [hs] at ho
    obtain ⟨q, hq, rfl⟩ := bind_pure_eq_ok_iff.1 ho
    simp [hq]

private theorem jsonOf_eq_ok_iff {v : Yaml} {j : Json} : jsonOf v = .ok j ↔ v.toJson = .ok j := by
  rw [jsonOf]
  cases v.toJson with
  | ok i => rw [Except.ok.injEq, Except.ok.injEq]
  | error e => exact iff_of_false (by rintro ⟨⟩) (by rintro ⟨⟩)

private theorem constantOption_eq_ok {o : Option Json} (h : KeysDiffer es)
    (ho : constantOption es = .ok o) (j : Json) :
    o = some j ↔ ∃ v, v ≠ .null ∧ (.string "constant", v) ∈ es ∧ v.toJson = .ok j := by
  simp only [← option?_eq_some_iff h]
  rw [constantOption] at ho
  cases hv : option? es "constant" with
  | none =>
    rw [hv] at ho
    cases ho
    simp
  | some v =>
    rw [hv] at ho
    cases v with
    | null =>
      cases ho
      simp
    | bool b | string s | number n | sequence items | mapping entries | tagged tag v =>
      obtain ⟨i, hi, rfl⟩ := bind_pure_eq_ok_iff.1 ho
      have hi' := jsonOf_eq_ok_iff.1 hi
      simp [hi']

private theorem transformationsOption_eq_ok {ds : List Directive} (h : KeysDiffer es)
    (hds : transformationsOption es field = .ok ds) :
    (∀ items, (.string "transformations", .sequence items) ∈ es →
        List.Forall₂ (fun x d ↦ Directive.ofYaml x = .ok d) items ds) ∧
      ((∀ items, (.string "transformations", .sequence items) ∉ es) → ds = []) := by
  simp only [← option?_eq_some_iff h]
  rw [transformationsOption] at hds
  cases hv : option? es "transformations" with
  | none =>
    rw [hv] at hds
    cases hds
    simp
  | some v =>
    rw [hv] at hds
    cases v with
    | null =>
      cases hds
      simp
    | sequence items => simpa using mapM_eq_ok_iff.1 hds
    | bool b | string s | number n | mapping entries | tagged tag v => cases hds

end Options

private theorem FieldSpec.says_nil : FieldSpec.Says [] {} := by
  refine ⟨by simp, by simp, by simp, ?_, fun p ↦ ?_, by simp, fun _ ↦ rfl⟩
  · refine iff_of_false (by rintro ⟨⟩) ?_
    rintro (h | ⟨-, h⟩)
    · exact List.not_mem_nil h
    · exact List.not_mem_nil h
  · refine iff_of_false (by rintro ⟨⟩) ?_
    rintro ⟨s, h | ⟨-, h⟩, -⟩
    · exact List.not_mem_nil h
    · exact List.not_mem_nil h

theorem FieldSpec.says_of_ofYaml_eq_ok {field : String} {v : Yaml} {spec : FieldSpec}
    (hd : v.Distinct) (h : FieldSpec.ofYaml field v = .ok spec) :
    FieldSpec.Says (entriesOf v) spec := by
  cases v with
  | null =>
    cases h
    exact says_nil
  | mapping es =>
    obtain ⟨hdiffer, -, -⟩ := Yaml.distinct_mapping_iff.1 hd
    obtain ⟨isArray, harray, h⟩ := bind_eq_ok_iff.1 h
    obtain ⟨nestedPath, hpath, h⟩ := bind_eq_ok_iff.1 h
    obtain ⟨constant, hconstant, h⟩ := bind_eq_ok_iff.1 h
    obtain ⟨transformations, htransformations, h⟩ := bind_eq_ok_iff.1 h
    obtain ⟨source, hsource, h⟩ := bind_eq_ok_iff.1 h
    obtain ⟨copyFrom, hcopyFrom, rfl⟩ := bind_pure_eq_ok_iff.1 h
    obtain ⟨hlist, hnone⟩ := transformationsOption_eq_ok hdiffer htransformations
    exact ⟨(textOption_eq_ok hdiffer hsource).1, (textOption_eq_ok hdiffer hcopyFrom).1,
      constantOption_eq_ok hdiffer hconstant, arrayOption_eq_ok hdiffer harray,
      pathOption_eq_ok hdiffer hpath, hlist, hnone⟩
  | bool b | number n | string s | sequence items | tagged tag v => cases h

/-! ## The entries of the root -/

/-- The entries of the root that are fields. -/
def fieldEntries (entries : List (Yaml × Yaml)) : List (Yaml × Yaml) :=
  entries.filter fun e ↦ e.1.text? != some uniqueFieldsKey

/-- What the entries of the root say of a dictionary. -/
structure Says (entries : List (Yaml × Yaml)) (d : Dictionary) : Prop where
  fields : List.Forall₂ (fun e f ↦ e.1 = .string f.1 ∧ FieldSpec.Says (entriesOf e.2) f.2)
    (fieldEntries entries) d.fields
  nodup : (d.fields.map Prod.fst).Nodup
  uniqueFields : (.string uniqueFieldsKey, .sequence (d.uniqueFields.map .string)) ∈ entries ∨
    d.uniqueFields = [] ∧ ∀ v, (.string uniqueFieldsKey, v) ∈ entries → v = .null

private theorem uniqueFieldsOf_eq_ok {v : Yaml} {names : List String} (hu : v.Untagged)
    (h : uniqueFieldsOf v = .ok names) :
    v = .null ∧ names = [] ∨ v = .sequence (names.map .string) := by
  cases hu with
  | null =>
    cases h
    exact .inl ⟨rfl, rfl⟩
  | sequence hitems =>
    refine .inr (congrArg Yaml.sequence ?_)
    have htexts := mapM_eq_ok_iff.1 h
    clear h
    induction htexts with
    | nil => rfl
    | cons hx _ ih =>
      rcases (hitems _ List.mem_cons_self).isText_or with ⟨s, rfl⟩ | ⟨-, hnone⟩
      · cases hx
        exact congrArg (_ :: ·) (ih fun x hx ↦ hitems x (.tail _ hx))
      · rw [hnone] at hx
        cases hx
  | bool b | number n | string s | mapping hkeys hvalues => cases h

section Entries

variable {entries es : List (Yaml × Yaml)} {k v : Yaml} {d d' : Dictionary}

/-- What reading an entry of the root can do: set the unique fields, or add a field. -/
theorem ofEntries_cons_eq_ok (h : ofEntries d ((k, v) :: es) = .ok d') :
    (∃ names, k.text? = some uniqueFieldsKey ∧ uniqueFieldsOf v = .ok names ∧
        ofEntries { d with uniqueFields := names } es = .ok d') ∨
      ∃ name spec, name ≠ uniqueFieldsKey ∧ k.text? = some name ∧
        FieldSpec.ofYaml name v = .ok spec ∧
        ofEntries { d with fields := d.fields ++ [(name, spec)] } es = .ok d' := by
  rw [ofEntries] at h
  split at h
  · cases h
  · next name hname =>
    split at h
    · next heq =>
      obtain ⟨names, hnames, h⟩ := bind_eq_ok_iff.1 h
      exact .inl ⟨names, eq_of_beq heq ▸ hname, hnames, h⟩
    · next heq =>
      obtain ⟨spec, hspec, h⟩ := bind_eq_ok_iff.1 h
      exact .inr ⟨name, spec, fun hkey ↦ heq (beq_iff_eq.2 hkey), hname, hspec, h⟩

private theorem subset_fields_of_ofEntries_eq_ok (h : ofEntries d es = .ok d') :
    d.fields ⊆ d'.fields := by
  induction es generalizing d with
  | nil =>
    cases h
    exact List.Subset.refl _
  | cons e es ih =>
    rcases ofEntries_cons_eq_ok h with ⟨names, -, -, hrest⟩ | ⟨name, spec, -, -, -, hrest⟩
    · have hsubset := ih hrest
      exact hsubset
    · exact List.Subset.trans (List.subset_append_left _ _) (ih hrest)

theorem exists_field_of_mem (h : ofEntries d es = .ok d') (hmem : (k, v) ∈ es) :
    (∃ names, k.text? = some uniqueFieldsKey ∧ uniqueFieldsOf v = .ok names) ∨
      ∃ name spec, k.text? = some name ∧ FieldSpec.ofYaml name v = .ok spec ∧
        (name, spec) ∈ d'.fields := by
  induction es generalizing d with
  | nil => cases hmem
  | cons e es ih =>
    rcases ofEntries_cons_eq_ok h with
      ⟨names, hk, hnames, hrest⟩ | ⟨name, spec, -, hk, hspec, hrest⟩
    · rcases List.mem_cons.1 hmem with rfl | hmem
      · exact .inl ⟨names, hk, hnames⟩
      · exact ih hrest hmem
    · rcases List.mem_cons.1 hmem with rfl | hmem
      · have hadded : (name, spec) ∈ d.fields ++ [(name, spec)] :=
          List.mem_append_right _ (List.mem_singleton_self _)
        exact .inr ⟨name, spec, hk, hspec, subset_fields_of_ofEntries_eq_ok hrest hadded⟩
      · exact ih hrest hmem

theorem fields_of_ofEntries_eq_ok (hkeys : ∀ e ∈ es, e.1.Untagged)
    (hdistinct : ∀ e ∈ es, e.2.Distinct) (h : ofEntries d es = .ok d') :
    ∃ added, d'.fields = d.fields ++ added ∧
      List.Forall₂ (fun e f ↦ e.1 = .string f.1 ∧ FieldSpec.Says (entriesOf e.2) f.2)
        (fieldEntries es) added := by
  induction es generalizing d with
  | nil =>
    cases h
    exact ⟨[], (List.append_nil _).symm, .nil⟩
  | cons e es ih =>
    obtain ⟨k, v⟩ := e
    have hes {d : Dictionary} (h : ofEntries d es = .ok d') :=
      ih (fun e he ↦ hkeys e (.tail _ he)) (fun e he ↦ hdistinct e (.tail _ he)) h
    have htext {s : String} := (hkeys _ List.mem_cons_self).text?_eq_some_iff (s := s)
    rcases ofEntries_cons_eq_ok h with
      ⟨names, hk, -, hrest⟩ | ⟨name, spec, hname, hk, hspec, hrest⟩
    · obtain rfl := htext.1 hk
      obtain ⟨added, hfields, hadded⟩ := hes hrest
      refine ⟨added, hfields, ?_⟩
      rwa [fieldEntries, List.filter_cons_of_neg (by simp [Yaml.text?])]
    · obtain rfl := htext.1 hk
      obtain ⟨added, hfields, hadded⟩ := hes hrest
      have hsays : FieldSpec.Says (entriesOf v) spec :=
        FieldSpec.says_of_ofYaml_eq_ok (hdistinct _ List.mem_cons_self) hspec
      refine ⟨(name, spec) :: added, ?_, ?_⟩
      · rw [hfields, List.append_assoc, List.singleton_append]
      · rw [fieldEntries, List.filter_cons_of_pos (by simpa [Yaml.text?] using hname)]
        exact .cons ⟨rfl, hsays⟩ hadded

theorem uniqueFields_of_ofEntries_eq_ok (hkeys : ∀ e ∈ es, e.1.Untagged)
    (hdiffer : KeysDiffer es) (h : ofEntries d es = .ok d') :
    (∃ v, (.string uniqueFieldsKey, v) ∈ es ∧ uniqueFieldsOf v = .ok d'.uniqueFields) ∨
      (∀ v, (.string uniqueFieldsKey, v) ∉ es) ∧ d'.uniqueFields = d.uniqueFields := by
  induction es generalizing d with
  | nil =>
    cases h
    exact .inr ⟨fun v ↦ List.not_mem_nil, rfl⟩
  | cons e es ih =>
    obtain ⟨k, v⟩ := e
    have hes {d : Dictionary} (h : ofEntries d es = .ok d') :=
      ih (fun e he ↦ hkeys e (.tail _ he)) hdiffer.tail h
    have htext {s : String} := (hkeys _ List.mem_cons_self).text?_eq_some_iff (s := s)
    rcases ofEntries_cons_eq_ok h with
      ⟨names, hk, hnames, hrest⟩ | ⟨name, spec, hname, hk, -, hrest⟩
    · obtain rfl := htext.1 hk
      rcases hes hrest with ⟨w, hw, -⟩ | ⟨-, heq⟩
      · exact absurd hw hdiffer.string_not_mem
      · exact .inl ⟨v, List.mem_cons_self, heq ▸ hnames⟩
    · obtain rfl := htext.1 hk
      rcases hes hrest with ⟨w, hw, hnames⟩ | ⟨hnot, heq⟩
      · exact .inl ⟨w, .tail _ hw, hnames⟩
      · refine .inr ⟨fun w hw ↦ ?_, heq⟩
        rcases List.mem_cons.1 hw with heq | hw
        · exact hname (Yaml.string.inj (Prod.mk.inj heq).1).symm
        · exact hnot w hw

theorem nodup_of_forall₂ {fields : List (String × FieldSpec)} (hdiffer : KeysDiffer es)
    (h : List.Forall₂ (fun e f ↦ e.1 = .string f.1 ∧ FieldSpec.Says (entriesOf e.2) f.2) es
      fields) : (fields.map Prod.fst).Nodup := by
  have hkeys : es.map Prod.fst = fields.map fun f ↦ Yaml.string f.1 := by
    induction h with
    | nil => rfl
    | cons hef _ ih => rw [List.map_cons, List.map_cons, hef.1, ih hdiffer.tail]
  have hpairs : (es.map Prod.fst).Pairwise fun earlier later ↦ Yaml.same later earlier = false :=
    List.pairwise_map.2 hdiffer
  rw [hkeys, List.pairwise_map] at hpairs
  exact List.pairwise_map.2 (hpairs.imp fun h ↦ (Yaml.same_string_eq_false_iff.1 h).symm)

end Entries

theorem says_of_ofYaml_eq_ok {v : Yaml} {d : Dictionary} (hu : v.Untagged) (hd : v.Distinct)
    (h : ofYaml v = .ok d) : Says (entriesOf v) d := by
  cases v with
  | null =>
    cases h
    exact ⟨.nil, .nil, .inr ⟨rfl, fun v hv ↦ absurd hv List.not_mem_nil⟩⟩
  | mapping entries =>
    obtain ⟨hkeys, hvalues⟩ := Yaml.untagged_mapping_iff.1 hu
    obtain ⟨hdiffer, -, hdistinct⟩ := Yaml.distinct_mapping_iff.1 hd
    obtain ⟨added, hfields, hadded⟩ := fields_of_ofEntries_eq_ok hkeys hdistinct h
    cases hfields
    refine ⟨hadded, nodup_of_forall₂ (hdiffer.filter _) hadded, ?_⟩
    rcases uniqueFields_of_ofEntries_eq_ok hkeys hdiffer h with ⟨v, hv, hnames⟩ | ⟨hnot, heq⟩
    · rcases uniqueFieldsOf_eq_ok (hvalues _ hv) hnames with ⟨rfl, hnil⟩ | rfl
      · exact .inr ⟨hnil, fun w hw ↦ hdiffer.eq_of_mem hw hv⟩
      · exact .inl hv
    · exact .inr ⟨heq, fun v hv ↦ absurd hv (hnot v)⟩
  | bool b | number n | string s | sequence items | tagged tag v => cases h

/-! ## Options of other names -/

def optionNames : List String :=
  ["array", "is_array", "search_path", "nested_path", "constant", "transformations", "source",
    "copy_from"]

/-- Whether a key is the name of an option. -/
def isOptionKey : Yaml → Bool
  | .string s => optionNames.contains s
  | _ => false

/-- A field without options of other names. -/
def knownOptions : Yaml → Yaml
  | .mapping es => .mapping (es.filter fun e ↦ isOptionKey e.1)
  | v => v

/-- A tree all of whose fields are without options of other names. -/
def withoutUnknown : Yaml → Yaml
  | .mapping entries => .mapping (entries.map fun e ↦ (e.1, knownOptions e.2))
  | v => v

section Filter

variable {p : Yaml → Bool} {name : String}

theorem option?_filter (h : p (.string name) = true) (es : List (Yaml × Yaml)) :
    option? (es.filter fun e ↦ p e.1) name = option? es name := by
  rw [option?, option?, List.find?_filter]
  refine congrArg _ (List.find?_congr fun e _ ↦ ?_)
  cases he : e.1 with
  | string s =>
    by_cases hs : s = name
    · simp [hs, h]
    · simp [hs]
  | null | bool b | number n | sequence items | mapping entries | tagged tag v => simp

private theorem option?_filter_of_not_kept (h : p (.string name) = false)
    (es : List (Yaml × Yaml)) :
    option? (es.filter fun e ↦ p e.1) name = none := by
  refine option?_eq_none_iff.2 fun v hmem ↦ ?_
  rw [List.mem_filter, h] at hmem
  cases hmem.2

def isKeyAmong (names : List String) : Yaml → Bool
  | .string s => names.contains s
  | _ => false

/-- The options of a field but for those of the names. -/
def withoutOptions (names : List String) (es : List (Yaml × Yaml)) : List (Yaml × Yaml) :=
  es.filter fun e ↦ !isKeyAmong names e.1

theorem option?_withoutOptions {names : List String} (h : name ∉ names)
    (es : List (Yaml × Yaml)) : option? (withoutOptions names es) name = option? es name :=
  option?_filter (p := fun k ↦ !isKeyAmong names k) (by simpa [isKeyAmong] using h) es

theorem option?_withoutOptions_of_mem {names : List String} (h : name ∈ names)
    (es : List (Yaml × Yaml)) : option? (withoutOptions names es) name = none :=
  option?_filter_of_not_kept (p := fun k ↦ !isKeyAmong names k) (by simpa [isKeyAmong] using h) es

end Filter

private theorem isOptionKey_string {name : String} (h : name ∈ optionNames) :
    isOptionKey (.string name) = true := List.contains_iff_mem.2 h

theorem FieldSpec.ofYaml_congr {field : String} {es es' : List (Yaml × Yaml)}
    (h : ∀ name ∈ optionNames, option? es name = option? es' name) :
    FieldSpec.ofYaml field (.mapping es) = FieldSpec.ofYaml field (.mapping es') := by
  simp only [optionNames, List.forall_mem_cons] at h
  obtain ⟨harray, hisArray, hsearch, hnested, hconstant, htransformations, hsource, hcopy, -⟩ := h
  simp only [FieldSpec.ofYaml, arrayOption, pathOption, constantOption, transformationsOption,
    textOption, harray, hisArray, hsearch, hnested, hconstant, htransformations, hsource, hcopy]

private theorem FieldSpec.ofYaml_knownOptions (field : String) (v : Yaml) :
    FieldSpec.ofYaml field (knownOptions v) = FieldSpec.ofYaml field v := by
  cases v with
  | mapping es => exact FieldSpec.ofYaml_congr fun name h ↦ option?_filter (isOptionKey_string h) es
  | null | bool b | number n | string s | sequence items | tagged tag v => rfl

private theorem uniqueFieldsOf_knownOptions (v : Yaml) :
    uniqueFieldsOf (knownOptions v) = uniqueFieldsOf v := by
  cases v with
  | mapping es => rfl
  | null | bool b | number n | string s | sequence items | tagged tag v => rfl

/-- Whether two entries are under one key and their values are read alike, as unique fields and as
fields. -/
def ReadAlike (e e' : Yaml × Yaml) : Prop :=
  e.1 = e'.1 ∧ uniqueFieldsOf e.2 = uniqueFieldsOf e'.2 ∧
    ∀ field, FieldSpec.ofYaml field e.2 = FieldSpec.ofYaml field e'.2

theorem ofEntries_congr {entries entries' : List (Yaml × Yaml)}
    (h : List.Forall₂ ReadAlike entries entries') (d : Dictionary) :
    ofEntries d entries = ofEntries d entries' := by
  induction h generalizing d with
  | nil => rfl
  | @cons e e' _ _ he _ ih =>
    obtain ⟨k, v⟩ := e
    obtain ⟨k', v'⟩ := e'
    obtain ⟨rfl, hnames, hfield⟩ := he
    simp only at hnames hfield
    simp only [ofEntries, hnames, hfield, ih]

private theorem ofEntries_map_knownOptions (entries : List (Yaml × Yaml)) (d : Dictionary) :
    ofEntries d (entries.map fun e ↦ (e.1, knownOptions e.2)) = ofEntries d entries := by
  refine ofEntries_congr ?_ d
  rw [List.forall₂_map_left_iff, List.forall₂_same]
  exact fun e _ ↦ ⟨rfl, uniqueFieldsOf_knownOptions e.2,
    fun field ↦ FieldSpec.ofYaml_knownOptions field e.2⟩

private theorem ofYaml_withoutUnknown (v : Yaml) : ofYaml (withoutUnknown v) = ofYaml v := by
  cases v with
  | mapping entries => exact ofEntries_map_knownOptions entries {}
  | null | bool b | number n | string s | sequence items | tagged tag v => rfl

/-! ## Texts -/

/-- Whether a text has that tree; a blank text has the tree of null. -/
def IsTreeOf (text : String) (v : Yaml) : Prop :=
  if (Text.trim text.toList).isEmpty then v = .null else Yaml.parse? text.toList = some v

theorem parse_of_isTreeOf {text : String} {v : Yaml} (h : IsTreeOf text v) :
    parse text = ofYaml v := by
  rw [IsTreeOf] at h
  rw [parse]
  split
  · next hblank =>
    rw [if_pos hblank] at h
    rw [h]
    rfl
  · next hblank =>
    rw [if_neg hblank] at h
    rw [h]

private theorem distinct_of_isTreeOf {text : String} {v : Yaml} (h : IsTreeOf text v) :
    v.Distinct := by
  rw [IsTreeOf] at h
  split at h
  · exact h ▸ .null
  · exact Yaml.distinct_of_parse? h

/-- A text whose tree is without tags is a dictionary exactly when its tree has the form of one. -/
theorem exists_parse_eq_ok_iff {text : String} {v : Yaml} (h : IsTreeOf text v)
    (hu : v.Untagged) : (∃ d, parse text = .ok d) ↔ Form v := by
  rw [parse_of_isTreeOf h]
  exact (inOrder_singleton_iff.1 (inOrder_ofYaml hu (distinct_of_isTreeOf h))).1

/-! ## The grammar -/

private theorem exists_flaw_of_not_form {v : Yaml} (hu : v.Untagged) (hd : v.Distinct)
    (h : ¬ Form v) :
    ∃ flaw, ofYaml v = .error (.incomplete flaw) ∧ Refused v (.incomplete flaw) := by
  obtain ⟨hok, herror⟩ := inOrder_singleton_iff.1 (inOrder_ofYaml hu hd)
  cases hv : ofYaml v with
  | ok d => exact absurd (hok.1 ⟨d, hv⟩) h
  | error e =>
    obtain ⟨flaw, rfl⟩ := failsIncomplete_ofYaml v e hv
    exact ⟨flaw, rfl, (herror _).1 hv⟩

/-- **A dictionary is read exactly from a tree that has its form.** Then its fields are the entries
of the root other than the unique fields, in their order and under different names, and options of
other names have no effect. From any other tree nothing is read, and the error is the flaw of the
first entry that is wrong. A text is read as its tree is. -/
theorem reading_follows_grammar {v : Yaml} (hu : v.Untagged) (hd : v.Distinct) :
    ((∃ d, ofYaml v = .ok d) ↔ Form v) ∧
      (∀ d, ofYaml v = .ok d → Says (entriesOf v) d) ∧
      ofYaml (withoutUnknown v) = ofYaml v ∧
      (¬ Form v →
        ∃ flaw, ofYaml v = .error (.incomplete flaw) ∧ Refused v (.incomplete flaw)) ∧
      ∀ text, IsTreeOf text v → parse text = ofYaml v := by
  exact ⟨(inOrder_singleton_iff.1 (inOrder_ofYaml hu hd)).1,
    fun d h ↦ says_of_ofYaml_eq_ok hu hd h, ofYaml_withoutUnknown v,
    exists_flaw_of_not_form hu hd, fun text h ↦ parse_of_isTreeOf h⟩

/-- Unique fields, a field with a null in front of `is_array` and of `nested_path` and with an
option of no known name, and a field that says nothing. -/
def pricesTree : Yaml :=
  .mapping
    [(.string uniqueFieldsKey, .sequence [.string "sku"]),
      (.string "price", .mapping
        [(.string "array", .null), (.string "is_array", .string "hidden"),
          (.string "search_path", .null), (.string "nested_path", .string "offers.price"),
          (.string "constant", .mapping [(.number (.int 1), .null)]),
          (.string "transformations",
            .sequence [.string "downcase", .mapping [(.string "split", .string "-")]]),
          (.string "note", .sequence [])]),
      (.string "name", .null)]

theorem reading_follows_grammar_of_prices :
    (pricesTree.Untagged ∧ pricesTree.Distinct) ∧ Form pricesTree ∧
      ∃ d, ofYaml pricesTree = .ok d ∧ Says (entriesOf pricesTree) d ∧
        d.fields.map Prod.fst = ["price", "name"] := by
  have hu : pricesTree.Untagged := by
    simp [pricesTree, Yaml.untagged_mapping_iff, Yaml.untagged_sequence_iff, Yaml.Untagged.null,
      Yaml.Untagged.number, Yaml.Untagged.string]
  have hd : pricesTree.Distinct := by
    simp [pricesTree, Yaml.distinct_mapping_iff, Yaml.distinct_sequence_iff, Yaml.Distinct.null,
      Yaml.Distinct.number, Yaml.Distinct.string, KeysDiffer, Yaml.same, uniqueFieldsKey]
  obtain ⟨hform, hsays, -⟩ := reading_follows_grammar hu hd
  obtain ⟨d, hread, hnames⟩ :
      ∃ d, ofYaml pricesTree = .ok d ∧ d.fields.map Prod.fst = ["price", "name"] := ⟨_, rfl, rfl⟩
  exact ⟨⟨hu, hd⟩, hform.1 ⟨d, hread⟩, d, hread, hsays d hread, hnames⟩

end FeedHarvest.Dictionary
