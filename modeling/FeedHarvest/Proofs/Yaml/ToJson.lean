import FeedHarvest.Yaml.ToJson

/-!
# Which trees have a form in JSON

Keys alone decide it. A tree becomes JSON exactly when every key in it, however deep, has a text:
a string, a truth value or a finite number. No value stands in the way, not even a number that is
not finite, and neither does a tag.
-/

namespace FeedHarvest.Yaml

inductive HasText : Yaml → Prop
  | string (s : String) : HasText (.string s)
  | bool (b : Bool) : HasText (.bool b)
  | int (n : Int) : HasText (.number (.int n))
  | float (x : Number.Binary64) : HasText (.number (.float x))

inductive Convertible : Yaml → Prop
  | null : Convertible .null
  | bool (b : Bool) : Convertible (.bool b)
  | number (n : Yaml.Number) : Convertible (.number n)
  | string (s : String) : Convertible (.string s)
  | sequence {items : List Yaml} (h : ∀ x ∈ items, Convertible x) : Convertible (.sequence items)
  | mapping {entries : List (Yaml × Yaml)} (hkeys : ∀ e ∈ entries, HasText e.1)
      (h : ∀ e ∈ entries, Convertible e.2) : Convertible (.mapping entries)
  | tagged {tag : String} {v : Yaml} (h : Convertible v) : Convertible (.tagged tag v)

theorem convertible_sequence_iff {items : List Yaml} :
    Convertible (.sequence items) ↔ ∀ x ∈ items, Convertible x := by
  constructor
  · rintro (_ | _ | _ | _ | h)
    exact h
  · exact .sequence

theorem convertible_mapping_iff {entries : List (Yaml × Yaml)} :
    Convertible (.mapping entries) ↔ ∀ e ∈ entries, HasText e.1 ∧ Convertible e.2 := by
  constructor
  · rintro (_ | _ | _ | _ | _ | ⟨hkeys, h⟩) e he
    exact ⟨hkeys e he, h e he⟩
  · exact fun h ↦ .mapping (fun e he ↦ (h e he).1) fun e he ↦ (h e he).2

private theorem exists_keyText_iff {k : Yaml} : (∃ s, k.keyText = .ok s) ↔ k.HasText := by
  constructor
  · rintro ⟨s, h⟩
    cases k with
    | string s => exact .string s
    | bool b => exact .bool b
    | number n =>
      cases n with
      | int n => exact .int n
      | float x => exact .float x
      | infinity negative => cases h
      | nan => cases h
    | null | sequence items | mapping entries | tagged tag v => cases h
  · rintro (s | b | n | x)
    all_goals exact ⟨_, rfl⟩

/-! ## One level -/

theorem exists_itemsToJson_iff {items : List Yaml} :
    (∃ js, itemsToJson items = .ok js) ↔ ∀ x ∈ items, ∃ j, x.toJson = .ok j := by
  induction items with
  | nil => simp [itemsToJson]
  | cons x xs ih =>
    rw [List.forall_mem_cons, ← ih, itemsToJson]
    cases x.toJson <;> cases itemsToJson xs <;> simp [bind, Except.bind, pure, Except.pure]

/-- The members that are there already have no part in whether an entry can be added. -/
theorem exists_entriesToJson_iff {entries : List (Yaml × Yaml)} {before : Json.Members} :
    (∃ ms, entriesToJson before entries = .ok ms) ↔
      ∀ e ∈ entries, e.1.HasText ∧ ∃ j, e.2.toJson = .ok j := by
  induction entries generalizing before with
  | nil => simp [entriesToJson]
  | cons e es ih =>
    obtain ⟨k, v⟩ := e
    rw [List.forall_mem_cons, ← exists_keyText_iff, entriesToJson]
    cases k.keyText with
    | error e => simp [bind, Except.bind]
    | ok key =>
      cases v.toJson with
      | error e => simp [bind, Except.bind]
      | ok j =>
        refine ih.trans ⟨fun h ↦ ⟨⟨⟨key, rfl⟩, j, rfl⟩, h⟩, And.right⟩

/-! ## All levels -/

private theorem Convertible.exists_toJson {v : Yaml} (h : v.Convertible) :
    ∃ j, v.toJson = .ok j := by
  induction h with
  | null => exact ⟨_, by rw [toJson]⟩
  | bool b => exact ⟨_, by rw [toJson]⟩
  | number n => exact ⟨_, by rw [toJson]⟩
  | string s => exact ⟨_, by rw [toJson]⟩
  | sequence _ ih =>
    obtain ⟨js, hjs⟩ := exists_itemsToJson_iff.2 ih
    exact ⟨.array js, by rw [toJson, hjs]; rfl⟩
  | mapping hkeys _ ih =>
    obtain ⟨ms, hms⟩ := exists_entriesToJson_iff.2 fun e he ↦ ⟨hkeys e he, ih e he⟩
    exact ⟨.object ms, by rw [toJson, hms]; rfl⟩
  | tagged _ ih =>
    obtain ⟨j, hj⟩ := ih
    exact ⟨_, by rw [toJson, hj]; rfl⟩

theorem convertible_of_exists_toJson (v : Yaml) (h : ∃ j, v.toJson = .ok j) : v.Convertible := by
  cases v with
  | null => exact .null
  | bool b => exact .bool b
  | number n => exact .number n
  | string s => exact .string s
  | sequence items =>
    have hitems : ∃ js, itemsToJson items = .ok js := by
      rw [toJson] at h
      cases hjs : itemsToJson items with
      | ok js => exact ⟨js, rfl⟩
      | error e => simp [hjs, bind, Except.bind] at h
    exact .sequence fun x hx ↦
      convertible_of_exists_toJson x (exists_itemsToJson_iff.1 hitems x hx)
  | mapping entries =>
    have hentries : ∃ ms, entriesToJson [] entries = .ok ms := by
      rw [toJson] at h
      cases hms : entriesToJson [] entries with
      | ok ms => exact ⟨ms, rfl⟩
      | error e => simp [hms, bind, Except.bind] at h
    have hparts := exists_entriesToJson_iff.1 hentries
    exact .mapping (fun e he ↦ (hparts e he).1) fun e he ↦
      convertible_of_exists_toJson e.2 (hparts e he).2
  | tagged tag v =>
    rw [toJson] at h
    cases hj : v.toJson with
    | ok j => exact .tagged (convertible_of_exists_toJson v ⟨j, hj⟩)
    | error e => simp [hj, bind, Except.bind] at h
termination_by sizeOf v
decreasing_by
  all_goals subst_vars
  · have hlt := List.sizeOf_lt_of_mem hx
    rw [sequence.sizeOf_spec]
    omega
  · have hlt := List.sizeOf_lt_of_mem he
    have hvalue : sizeOf e = 1 + sizeOf e.1 + sizeOf e.2 := Prod.mk.sizeOf_spec e.1 e.2
    rw [mapping.sizeOf_spec]
    omega
  · rw [tagged.sizeOf_spec]
    omega

theorem exists_toJson_iff {v : Yaml} : (∃ j, v.toJson = .ok j) ↔ v.Convertible :=
  ⟨convertible_of_exists_toJson v, Convertible.exists_toJson⟩

end FeedHarvest.Yaml
