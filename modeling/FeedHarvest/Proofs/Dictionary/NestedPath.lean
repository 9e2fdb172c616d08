import FeedHarvest.Proofs.Dictionary.Reading
import Mathlib.Data.List.Count

/-!
# Nested paths

A nested path should be a container and a field inside it, with the one point of the path between
them. A path is cut at its first point, so this is what is read whenever a path has no other point.
A path with more of them is not refused: all of them end up in the inner field, whose name then is a
path again.

What a path is decides what becomes of its field and of the whole dictionary. A good path changes
nothing but the place that it names, and a path without two parts fails both.
-/

namespace FeedHarvest.Dictionary

open Yaml (KeysDiffer)

/-! ## The first point -/

section Point

variable {cs a b : List Char}

theorem splitAtPoint_eq_some_iff :
    splitAtPoint cs = some (a, b) ↔ '.' ∉ a ∧ cs = a ++ '.' :: b := by
  induction cs generalizing a with
  | nil => simp [splitAtPoint]
  | cons c cs ih =>
    by_cases hc : c = '.'
    · subst hc
      rw [splitAtPoint, Option.some.injEq, Prod.mk.injEq]
      constructor
      · rintro ⟨rfl, rfl⟩
        exact ⟨List.not_mem_nil, rfl⟩
      · rintro ⟨ha, heq⟩
        cases a with
        | nil => exact ⟨rfl, (List.cons.inj heq).2⟩
        | cons d a => exact absurd ((List.cons.inj heq).1 ▸ List.mem_cons_self) ha
    · rw [splitAtPoint, Option.map_eq_some_iff]
      · constructor
        · rintro ⟨⟨a', b'⟩, hsplit, heq⟩
          cases heq
          obtain ⟨ha, rfl⟩ := ih.1 hsplit
          exact ⟨by rw [List.mem_cons, not_or]; exact ⟨Ne.symm hc, ha⟩, rfl⟩
        · rintro ⟨ha, heq⟩
          cases a with
          | nil => exact absurd (List.cons.inj heq).1 hc
          | cons d a =>
            obtain ⟨rfl, rfl⟩ := List.cons.inj heq
            exact ⟨(a, b), ih.2 ⟨fun h ↦ ha (.tail _ h), rfl⟩, rfl⟩
      · exact hc

private theorem splitAtPoint_eq_none_iff : splitAtPoint cs = none ↔ '.' ∉ cs := by
  rw [← not_iff_not, not_not, ← Ne, ← Option.isSome_iff_ne_none, Option.isSome_iff_exists]
  constructor
  · rintro ⟨⟨a, b⟩, h⟩
    rw [(splitAtPoint_eq_some_iff.1 h).2]
    exact List.mem_append_right a List.mem_cons_self
  · intro h
    obtain ⟨a, b, rfl, ha⟩ := List.eq_append_cons_of_mem h
    exact ⟨(a, b), splitAtPoint_eq_some_iff.2 ⟨ha, rfl⟩⟩

end Point

namespace NestedPath

/-- Whether a text is a container and a field inside it: it has one point, which neither begins nor
ends it. -/
def IsContainerAndInner (path : String) : Prop :=
  path.toList.count '.' = 1 ∧ path.toList.head? ≠ some '.' ∧ path.toList.getLast? ≠ some '.'

/-- Whether a text has a point besides its first, and does not begin with it. -/
def HasFurtherPoint (path : String) : Prop :=
  2 ≤ path.toList.count '.' ∧ path.toList.head? ≠ some '.'

instance (path : String) : Decidable (IsContainerAndInner path) :=
  inferInstanceAs (Decidable (_ ∧ _ ∧ _))

instance (path : String) : Decidable (HasFurtherPoint path) :=
  inferInstanceAs (Decidable (_ ∧ _))

section Cut

variable {path : String} {a b : List Char}

theorem head?_ne_point_iff (ha : '.' ∉ a) : (a ++ '.' :: b).head? ≠ some '.' ↔ a ≠ [] := by
  cases a with
  | nil => simp
  | cons c a => simpa using fun hc : c = '.' ↦ ha (hc ▸ List.mem_cons_self)

theorem getLast?_ne_point_iff (hb : '.' ∉ b) : (a ++ '.' :: b).getLast? ≠ some '.' ↔ b ≠ [] := by
  cases hlast : b.getLast? with
  | none =>
    obtain rfl := List.getLast?_eq_none_iff.1 hlast
    simp
  | some c =>
    have hc : c ∈ b := List.mem_of_getLast? hlast
    have hne : c ≠ '.' := fun h ↦ hb (h ▸ hc)
    simpa [List.getLast?_append, List.getLast?_cons, hlast, hne] using List.ne_nil_of_mem hc

/-- The one point of a container and a field inside it is its first. -/
theorem isContainerAndInner_iff (ha : '.' ∉ a) (h : path.toList = a ++ '.' :: b) :
    IsContainerAndInner path ↔ a ≠ [] ∧ b ≠ [] ∧ '.' ∉ b := by
  have hcount : (a ++ '.' :: b).count '.' = 1 ↔ '.' ∉ b := by
    rw [List.count_append, List.count_eq_zero_of_not_mem ha, List.count_cons_self, Nat.zero_add,
      Nat.add_eq_right, List.count_eq_zero]
  rw [IsContainerAndInner, h, hcount, head?_ne_point_iff ha]
  constructor
  · rintro ⟨hb, hstart, hend⟩
    exact ⟨hstart, (getLast?_ne_point_iff hb).1 hend, hb⟩
  · rintro ⟨hstart, hend, hb⟩
    exact ⟨hb, hstart, (getLast?_ne_point_iff hb).2 hend⟩

private theorem hasFurtherPoint_iff (ha : '.' ∉ a) (h : path.toList = a ++ '.' :: b) :
    HasFurtherPoint path ↔ a ≠ [] ∧ '.' ∈ b := by
  have hcount : 2 ≤ (a ++ '.' :: b).count '.' ↔ '.' ∈ b := by
    rw [List.count_append, List.count_eq_zero_of_not_mem ha, List.count_cons_self, Nat.zero_add,
      Nat.add_le_add_iff_right (n := 1) (m := 1), ← List.one_le_count_iff]
  rw [HasFurtherPoint, h, hcount, head?_ne_point_iff ha, and_comm]

end Cut

/-! ## What is read of a path -/

section Parse

variable {path : String} {p : NestedPath}

theorem parse_of_not_mem (h : '.' ∉ path.toList) :
    parse path = .error (.incomplete (.nestedPath path)) := by
  rw [parse, splitAtPoint_eq_none_iff.2 h]

theorem parse_of_cut {a b : List Char} (ha : '.' ∉ a) (h : path.toList = a ++ '.' :: b) :
    parse path = if a = [] ∨ b = [] then .error (.incomplete (.nestedPath path))
      else .ok ⟨String.ofList a, String.ofList b⟩ := by
  rw [parse, splitAtPoint_eq_some_iff.2 ⟨ha, h⟩]
  simp only [Bool.or_eq_true, List.isEmpty_iff]

/-- A path is read if it has a point and does not begin with one, unless it ends with its only
point. -/
theorem exists_parse_iff :
    (∃ p, parse path = .ok p) ↔ IsContainerAndInner path ∨ HasFurtherPoint path := by
  by_cases hpoint : '.' ∈ path.toList
  · obtain ⟨a, b, h, ha⟩ := List.eq_append_cons_of_mem hpoint
    rw [parse_of_cut ha h, isContainerAndInner_iff ha h, hasFurtherPoint_iff ha h]
    by_cases hparts : a = [] ∨ b = []
    · rw [if_pos hparts]
      refine iff_of_false (by rintro ⟨p, ⟨⟩⟩) ?_
      rintro (⟨hstart, hend, -⟩ | ⟨hstart, hfurther⟩)
      · exact hparts.elim hstart hend
      · exact hparts.elim hstart (List.ne_nil_of_mem hfurther)
    · rw [if_neg hparts]
      rw [not_or] at hparts
      refine iff_of_true ⟨_, rfl⟩ ?_
      by_cases hb : '.' ∈ b
      · exact .inr ⟨hparts.1, hb⟩
      · exact .inl ⟨hparts.1, hparts.2, hb⟩
  · have hcount : path.toList.count '.' = 0 := List.count_eq_zero_of_not_mem hpoint
    rw [parse_of_not_mem hpoint, IsContainerAndInner, HasFurtherPoint, hcount]
    simp

/-- What is read joins to the path again, and it is the inner field that further points are in. -/
theorem parse_eq_ok (h : parse path = .ok p) :
    p.container ≠ "" ∧ p.inner ≠ "" ∧ '.' ∉ p.container.toList ∧
      p.container ++ "." ++ p.inner = path ∧
      ('.' ∉ p.inner.toList ↔ IsContainerAndInner path) := by
  by_cases hpoint : '.' ∈ path.toList
  · obtain ⟨a, b, hpath, ha⟩ := List.eq_append_cons_of_mem hpoint
    rw [parse_of_cut ha hpath] at h
    split at h
    · cases h
    · next hparts =>
      cases h
      rw [not_or] at hparts
      have hjoined : String.ofList a ++ "." ++ String.ofList b = path := by
        rw [← String.toList_inj, hpath]
        simp
      rw [isContainerAndInner_iff ha hpath]
      simp [ha, hparts, hjoined]
  · rw [parse_of_not_mem hpoint] at h
    cases h

end Parse

end NestedPath

/-! ## The field of a path -/

def pathNames : List String := ["search_path", "nested_path"]

section Field

variable {es : List (Yaml × Yaml)} {field path : String}

private theorem pathOption_withoutOptions (es : List (Yaml × Yaml)) (field : String) :
    pathOption (withoutOptions pathNames es) field = .ok none := by
  rw [pathOption, textOption, textOption, option?_withoutOptions_of_mem (by decide),
    option?_withoutOptions_of_mem (by decide)]
  rfl

theorem pathOption_eq_map_parse (hdiffer : KeysDiffer es) (hpath : IsPathText es path)
    (hnested : Check.Passes es (.text "nested_path")) :
    pathOption es field = (NestedPath.parse path).map some := by
  have hsearch : Check.Passes es (.text "search_path") := by
    intro v hv
    cases hpath with
    | searchPath h => exact .inr ⟨path, hdiffer.eq_of_mem hv h⟩
    | nestedPath hnull h => exact .inl (hnull v hv)
  have hread (name : String) : (∃ o, textOption es field name = .ok o) ↔
      Check.Passes es (.text name) :=
    (inOrder_singleton_iff.1 (inOrder_textOption hdiffer name)).1
  obtain ⟨first, hfirst⟩ := (hread "search_path").2 hsearch
  obtain ⟨second, hsecond⟩ := (hread "nested_path").2 hnested
  have hsome : first.or second = some path :=
    (or_eq_some_iff_isPathText hdiffer hfirst hsecond).2 hpath
  rw [pathOption, hfirst, hsecond]
  simp only [bind, Except.bind, hsome]
  cases NestedPath.parse path with
  | error e => rfl
  | ok p => rfl

theorem FieldSpec.ofYaml_of_parse_eq_ok {p : NestedPath} (hdiffer : KeysDiffer es)
    (hpath : IsPathText es path) (hnested : Check.Passes es (.text "nested_path"))
    (hp : NestedPath.parse path = .ok p) :
    FieldSpec.ofYaml field (.mapping es)
      = (FieldSpec.ofYaml field (.mapping (withoutOptions pathNames es))).map
          fun spec ↦ { spec with nestedPath := some p } := by
  have hsome : pathOption es field = .ok (some p) := by
    rw [pathOption_eq_map_parse hdiffer hpath hnested, hp]
    rfl
  have hoption (name : String) (hname : name ∉ pathNames) :
      option? (withoutOptions pathNames es) name = option? es name :=
    option?_withoutOptions hname es
  simp only [FieldSpec.ofYaml, arrayOption, constantOption, transformationsOption, textOption,
    hsome, pathOption_withoutOptions, hoption "array" (by decide),
    hoption "is_array" (by decide), hoption "constant" (by decide),
    hoption "transformations" (by decide), hoption "source" (by decide),
    hoption "copy_from" (by decide), map_bind_eq]
  rfl

/-- A path that is not read is the first thing wrong with its field, unless `array` is. -/
theorem FieldSpec.ofYaml_of_not_parse {isArray : Bool} (hdiffer : KeysDiffer es)
    (hpath : IsPathText es path) (hnested : Check.Passes es (.text "nested_path"))
    (hp : ¬ ∃ p, NestedPath.parse path = .ok p) (harray : arrayOption es field = .ok isArray) :
    FieldSpec.ofYaml field (.mapping es) = .error (.incomplete (.nestedPath path)) := by
  have herror := ((inOrder_singleton_iff.1 (inOrder_nestedPathParse path)).2 _).2 ⟨hp, rfl⟩
  have hoption : pathOption es field = .error (.incomplete (.nestedPath path)) := by
    rw [pathOption_eq_map_parse hdiffer hpath hnested, herror]
    rfl
  rw [FieldSpec.ofYaml, harray, hoption]
  rfl

theorem FieldSpec.exists_nestedPath_of_ofYaml_eq_ok {spec : FieldSpec}
    (hd : (Yaml.mapping es).Distinct) (hpath : IsPathText es path)
    (h : FieldSpec.ofYaml field (.mapping es) = .ok spec) :
    ∃ p, NestedPath.parse path = .ok p ∧ spec.nestedPath = some p := by
  obtain ⟨hdiffer, -, -⟩ := Yaml.distinct_mapping_iff.1 hd
  obtain ⟨isArray, -, hrest⟩ := bind_eq_ok_iff.1 h
  obtain ⟨o, ho, -⟩ := bind_eq_ok_iff.1 hrest
  obtain ⟨first, hfirst, ho⟩ := bind_eq_ok_iff.1 ho
  obtain ⟨second, hsecond, ho⟩ := bind_eq_ok_iff.1 ho
  rw [(or_eq_some_iff_isPathText hdiffer hfirst hsecond).2 hpath] at ho
  obtain ⟨p, hp, -⟩ := bind_pure_eq_ok_iff.1 ho
  have hnested := (FieldSpec.says_of_ofYaml_eq_ok hd h).nestedPath p
  exact ⟨p, hp, hnested.2 ⟨path, hpath, hp⟩⟩

end Field

/-! ## The dictionary of a path -/

section Root

variable {entries es : List (Yaml × Yaml)} {k : Yaml} {path : String}

theorem exists_nestedPath_of_ofYaml_eq_ok {d : Dictionary} (hd : (Yaml.mapping entries).Distinct)
    (hentry : (k, .mapping es) ∈ entries) (hpath : IsPathText es path)
    (h : ofYaml (.mapping entries) = .ok d) :
    ∃ field spec p, k.text? = some field ∧ (field, spec) ∈ d.fields ∧
      NestedPath.parse path = .ok p ∧ spec.nestedPath = some p := by
  obtain ⟨-, -, hdistinct⟩ := Yaml.distinct_mapping_iff.1 hd
  rcases exists_field_of_mem h hentry with ⟨names, -, hnames⟩ | ⟨field, spec, hk, hspec, hfield⟩
  · cases hnames
  · obtain ⟨p, hp, hsome⟩ :=
      FieldSpec.exists_nestedPath_of_ofYaml_eq_ok (hdistinct _ hentry) hpath hspec
    exact ⟨field, spec, p, hk, hfield, hp, hsome⟩

theorem exists_flaw_of_not_parse (hd : (Yaml.mapping entries).Distinct)
    (hentry : (k, .mapping es) ∈ entries) (hpath : IsPathText es path)
    (hp : ¬ ∃ p, NestedPath.parse path = .ok p) :
    ∃ flaw, ofYaml (.mapping entries) = .error (.incomplete flaw) := by
  cases h : ofYaml (.mapping entries) with
  | ok d =>
    obtain ⟨-, -, p, -, -, hok, -⟩ := exists_nestedPath_of_ofYaml_eq_ok hd hentry hpath h
    exact absurd ⟨p, hok⟩ hp
  | error e =>
    obtain ⟨flaw, rfl⟩ := failsIncomplete_ofYaml _ e h
    exact ⟨flaw, rfl⟩

end Root

/-- **A path is cut at its first point.** A container and a field inside it are read, and so is any
path with further points that does not begin with one; no other path is, and the error names it.
Both parts that are read have text, they join to the path, and the container has no point; the
inner field has none exactly if the path is a container and a field inside it.

In a field, whose paths are texts if they are given, a path that is read adds itself and changes
nothing else, and one that is not fails the field unless `array` does so before. A dictionary with
that field, of a tree or of a text, holds the path if it is read, and fails for a flaw if the path
is not. -/
theorem paths_are_cut_at_their_first_point (path : String) :
    ((∃ p, NestedPath.parse path = .ok p) ↔
      NestedPath.IsContainerAndInner path ∨ NestedPath.HasFurtherPoint path) ∧
    (∀ p, NestedPath.parse path = .ok p → p.container ≠ "" ∧ p.inner ≠ "" ∧
      '.' ∉ p.container.toList ∧ p.container ++ "." ++ p.inner = path ∧
      ('.' ∉ p.inner.toList ↔ NestedPath.IsContainerAndInner path)) ∧
    ((¬ ∃ p, NestedPath.parse path = .ok p) →
      NestedPath.parse path = .error (.incomplete (.nestedPath path))) ∧
    (∀ field es, KeysDiffer es → IsPathText es path → Check.Passes es (.text "nested_path") →
      (∀ p, NestedPath.parse path = .ok p → FieldSpec.ofYaml field (.mapping es)
        = (FieldSpec.ofYaml field (.mapping (withoutOptions pathNames es))).map
            fun spec ↦ { spec with nestedPath := some p }) ∧
      ((¬ ∃ p, NestedPath.parse path = .ok p) → ∀ isArray, arrayOption es field = .ok isArray →
        FieldSpec.ofYaml field (.mapping es) = .error (.incomplete (.nestedPath path)))) ∧
    ∀ entries k es, (Yaml.mapping entries).Distinct → (k, .mapping es) ∈ entries →
      IsPathText es path →
      (∀ d, ofYaml (.mapping entries) = .ok d →
        ∃ field spec p, k.text? = some field ∧ (field, spec) ∈ d.fields ∧
          NestedPath.parse path = .ok p ∧ spec.nestedPath = some p) ∧
      ((¬ ∃ p, NestedPath.parse path = .ok p) →
        ∃ flaw, ofYaml (.mapping entries) = .error (.incomplete flaw)) ∧
      ∀ text, IsTreeOf text (.mapping entries) → parse text = ofYaml (.mapping entries) := by
  refine ⟨NestedPath.exists_parse_iff, fun p hp ↦ NestedPath.parse_eq_ok hp, fun hp ↦ ?_,
    fun field es hdiffer hpath hnested ↦ ⟨fun p hp ↦ ?_, fun hp isArray harray ↦ ?_⟩,
    fun entries k es hd hentry hpath ↦ ⟨fun d h ↦ ?_, fun hp ↦ ?_, fun text h ↦ ?_⟩⟩
  · exact ((inOrder_singleton_iff.1 (inOrder_nestedPathParse path)).2 _).2 ⟨hp, rfl⟩
  · exact FieldSpec.ofYaml_of_parse_eq_ok hdiffer hpath hnested hp
  · exact FieldSpec.ofYaml_of_not_parse hdiffer hpath hnested hp harray
  · exact exists_nestedPath_of_ofYaml_eq_ok hd hentry hpath h
  · exact exists_flaw_of_not_parse hd hentry hpath hp
  · exact parse_of_isTreeOf h

/-- The path of a field whose other name for it is null. -/
theorem paths_are_cut_at_their_first_point_of_price :
    let es : List (Yaml × Yaml) :=
      [(.string "search_path", .null), (.string "nested_path", .string "offers.price"),
        (.string "source", .string "cost")]
    (KeysDiffer es ∧ IsPathText es "offers.price" ∧ Check.Passes es (.text "nested_path")) ∧
      FieldSpec.ofYaml "price" (.mapping es)
        = .ok { source := some "cost", nestedPath := some ⟨"offers", "price"⟩ } ∧
      ∃ d, ofYaml (.mapping [(.string "price", .mapping es)]) = .ok d ∧
        ∃ spec, ("price", spec) ∈ d.fields ∧ spec.nestedPath = some ⟨"offers", "price"⟩ := by
  intro es
  have hdiffer : KeysDiffer es := by simp [es, KeysDiffer, Yaml.same]
  have hpath : IsPathText es "offers.price" := by
    refine .nestedPath (fun v hv ↦ ?_) (.tail _ List.mem_cons_self)
    simpa [es] using hv
  have hnested : Check.Passes es (.text "nested_path") := by
    intro v hv
    exact .inr ⟨"offers.price", by simpa [es] using hv⟩
  have hd : (Yaml.mapping [(.string "price", .mapping es)]).Distinct := by
    simp [es, Yaml.distinct_mapping_iff, Yaml.Distinct.null, Yaml.Distinct.string, KeysDiffer,
      Yaml.same]
  have hparse : NestedPath.parse "offers.price" = .ok ⟨"offers", "price"⟩ := rfl
  obtain ⟨-, -, -, hfield, hroot⟩ := paths_are_cut_at_their_first_point "offers.price"
  obtain ⟨hholds, -, -⟩ := hroot _ _ es hd List.mem_cons_self hpath
  obtain ⟨d, hread⟩ : ∃ d, ofYaml (.mapping [(.string "price", .mapping es)]) = .ok d := ⟨_, rfl⟩
  refine ⟨⟨hdiffer, hpath, hnested⟩, ?_, d, hread, ?_⟩
  · rw [(hfield "price" es hdiffer hpath hnested).1 _ hparse]
    rfl
  · obtain ⟨field, spec, p, hk, hmem, hp, hsome⟩ := hholds d hread
    cases hk
    cases hparse.symm.trans hp
    exact ⟨spec, hmem, hsome⟩

/-- A path with two points is read, with a point in its inner field. -/
theorem path_with_two_points_is_read :
    NestedPath.parse "a.b.c" = .ok ⟨"a", "b.c"⟩ ∧
      ¬ ∀ path, (∃ p, NestedPath.parse path = .ok p) ↔ NestedPath.IsContainerAndInner path :=
  ⟨rfl, fun h ↦ absurd ((h "a.b.c").1 ⟨_, rfl⟩) (by decide)⟩

end FeedHarvest.Dictionary
