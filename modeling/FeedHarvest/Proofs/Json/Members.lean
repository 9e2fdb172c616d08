import FeedHarvest.Json.Basic
import Mathlib.Data.List.Induction
import Mathlib.Data.List.Nodup

/-!
# Objects from lists of members

A list of members is made an object by setting one after the other. So the names stand in the order
in which they first occur, of several values of one name the last counts, and a list without
repeated names is the object itself.
-/

namespace FeedHarvest

theorem nodup_eraseDups (ss : List String) : ss.eraseDups.Nodup := by
  induction ss using List.reverseRecOn with
  | nil => exact List.nodup_nil
  | append_singleton ss s ih =>
    rw [List.eraseDups_append]
    by_cases hs : s ∈ ss
    · simpa [List.removeAll, hs] using ih
    · refine List.Nodup.append ih ?_ ?_
      · simp [List.removeAll, hs, List.eraseDups_cons]
      · simp [List.removeAll, hs, List.eraseDups_cons, List.mem_eraseDups]

namespace Json.Members

theorem insert_of_not_mem {ms : Members} {key : String} (h : key ∉ keys ms) (value : Json) :
    insert ms key value = ms ++ [(key, value)] := by
  induction ms with
  | nil => rfl
  | cons m ms ih =>
    obtain ⟨k, v⟩ := m
    rw [keys_cons, List.mem_cons, not_or] at h
    rw [insert, if_neg (Ne.symm h.1), ih h.2, List.cons_append]

theorem get?_of_not_mem {ms : Members} {key : String} (h : key ∉ keys ms) :
    get? ms key = none := by
  refine List.lookup_eq_none_iff.2 fun m hm ↦ bne_iff_ne.2 ?_
  rintro rfl
  exact h (List.mem_map_of_mem hm)

theorem mem_of_get?_eq_some {ms : Members} {key : String} {value : Json}
    (h : get? ms key = some value) : (key, value) ∈ ms := by
  obtain ⟨before, after, rfl, -⟩ := List.lookup_eq_some_iff.1 h
  exact List.mem_append_right before List.mem_cons_self

theorem get?_eq_none_iff {ms : Members} {key : String} : get? ms key = none ↔ key ∉ keys ms := by
  refine ⟨fun h hmem ↦ ?_, get?_of_not_mem⟩
  obtain ⟨m, hm, rfl⟩ := List.mem_map.1 hmem
  exact bne_iff_ne.1 (List.lookup_eq_none_iff.1 h m hm) rfl

/-- Where no name is repeated, it does not matter which member of a name comes first. -/
theorem get?_eq_some_iff {ms : Members} {key : String} {value : Json} (h : (keys ms).Nodup) :
    get? ms key = some value ↔ (key, value) ∈ ms := by
  refine ⟨mem_of_get?_eq_some, fun hmem ↦ ?_⟩
  obtain ⟨before, after, rfl⟩ := List.append_of_mem hmem
  refine List.lookup_eq_some_iff.2 ⟨before, after, rfl, fun m hm ↦ bne_iff_ne.2 ?_⟩
  rw [keys, List.map_append, List.nodup_append] at h
  exact (h.2.2 m.1 (List.mem_map_of_mem hm) key List.mem_cons_self).symm

theorem get?_concat {ms : Members} {key : String} (h : key ∉ keys ms) (value : Json) :
    get? (ms ++ [(key, value)]) key = some value := by
  rw [← insert_of_not_mem h, get?_insert_self]

theorem insert_concat {ms : Members} {key : String} (h : key ∉ keys ms) (old value : Json) :
    insert (ms ++ [(key, old)]) key value = ms ++ [(key, value)] := by
  induction ms with
  | nil => simp [insert]
  | cons m ms ih =>
    obtain ⟨k, v⟩ := m
    rw [keys_cons, List.mem_cons, not_or] at h
    rw [List.cons_append, insert, if_neg (Ne.symm h.1), ih h.2, List.cons_append]

/-- Setting a member replaces the value at the name's first place, or gives the name the last place,
and the place does not depend on the value. -/
theorem exists_insert_eq (ms : Members) (key : String) :
    ∃ before after, key ∉ keys before ∧
      (ms = before ∧ after = [] ∨ ∃ old, ms = before ++ (key, old) :: after) ∧
      ∀ value, insert ms key value = before ++ (key, value) :: after := by
  induction ms with
  | nil => exact ⟨[], [], List.not_mem_nil, .inl ⟨rfl, rfl⟩, fun _ ↦ rfl⟩
  | cons m ms ih =>
    obtain ⟨k, v⟩ := m
    by_cases hk : k = key
    · refine ⟨[], ms, List.not_mem_nil, .inr ⟨v, by rw [hk]; rfl⟩, fun value ↦ ?_⟩
      rw [insert, if_pos hk, hk]
      rfl
    · obtain ⟨before, after, hkey, hms, hinsert⟩ := ih
      refine ⟨(k, v) :: before, after, ?_, ?_, fun value ↦ ?_⟩
      · rw [keys_cons, List.mem_cons, not_or]
        exact ⟨Ne.symm hk, hkey⟩
      · rcases hms with ⟨rfl, rfl⟩ | ⟨old, rfl⟩
        · exact .inl ⟨rfl, rfl⟩
        · exact .inr ⟨old, rfl⟩
      · rw [insert, if_neg hk, hinsert, List.cons_append]

theorem insert_insert (ms : Members) (key : String) (value value' : Json) :
    insert (insert ms key value) key value' = insert ms key value' := by
  induction ms with
  | nil => simp [insert]
  | cons m ms ih =>
    obtain ⟨k, v⟩ := m
    by_cases hk : k = key
    · simp [insert, hk]
    · rw [insert, if_neg hk, insert, insert, if_neg hk, if_neg hk, ih]

theorem ofList_concat (ms : List (String × Json)) (key : String) (value : Json) :
    ofList (ms ++ [(key, value)]) = insert (ofList ms) key value := by
  rw [ofList, List.foldl_append]
  rfl

theorem keys_concat (ms : List (String × Json)) (key : String) (value : Json) :
    keys (ms ++ [(key, value)]) = keys ms ++ [key] := by
  rw [keys, List.map_append]
  rfl

theorem keys_ofList (ms : List (String × Json)) : keys (ofList ms) = (keys ms).eraseDups := by
  induction ms using List.reverseRecOn with
  | nil => rfl
  | append_singleton ms m ih =>
    obtain ⟨key, value⟩ := m
    have hmem : key ∈ (keys ms).eraseDups ↔ key ∈ keys ms := List.mem_eraseDups
    rw [ofList_concat, keys_insert, ih, keys_concat, List.eraseDups_append]
    by_cases hkey : key ∈ keys ms
    · rw [if_pos (hmem.2 hkey)]
      simp [List.removeAll, hkey]
    · rw [if_neg (mt hmem.1 hkey)]
      simp [List.removeAll, hkey, List.eraseDups_cons]

theorem get?_ofList_append {key : String} (before : List (String × Json)) (value : Json)
    {after : List (String × Json)} (h : key ∉ keys after) :
    get? (ofList (before ++ (key, value) :: after)) key = some value := by
  induction after using List.reverseRecOn with
  | nil => rw [ofList_concat, get?_insert_self]
  | append_singleton after m ih =>
    obtain ⟨k, v⟩ := m
    rw [keys_concat, List.mem_append, not_or, List.mem_singleton] at h
    rw [← List.cons_append, ← List.append_assoc, ofList_concat, get?_insert_of_ne _ _ h.2]
    exact ih h.1

theorem ofList_of_nodup {ms : List (String × Json)} (h : (keys ms).Nodup) : ofList ms = ms := by
  induction ms using List.reverseRecOn with
  | nil => rfl
  | append_singleton ms m ih =>
    obtain ⟨key, value⟩ := m
    rw [keys_concat, List.nodup_append] at h
    have hkey : key ∉ keys ms := fun hmem ↦ h.2.2 key hmem key (List.mem_singleton_self key) rfl
    rw [ofList_concat, ih h.1, insert_of_not_mem hkey]

/-! ### What all values have in common -/

section Values

variable {p : Json → Prop} {ms : Members}

private theorem forall_mem_insert (hms : ∀ m ∈ ms, p m.2) {value : Json} (hvalue : p value)
    (key : String) : ∀ m ∈ insert ms key value, p m.2 := by
  induction ms with
  | nil => simpa [insert] using hvalue
  | cons m ms ih =>
    obtain ⟨k, v⟩ := m
    rw [List.forall_mem_cons] at hms
    rw [insert]
    split
    · exact List.forall_mem_cons.2 ⟨hvalue, hms.2⟩
    · exact List.forall_mem_cons.2 ⟨hms.1, ih hms.2⟩

theorem forall_mem_ofList (h : ∀ m ∈ ms, p m.2) : ∀ m ∈ ofList ms, p m.2 := by
  induction ms using List.reverseRecOn with
  | nil => exact fun m hm ↦ absurd hm List.not_mem_nil
  | append_singleton ms m ih =>
    rw [List.forall_mem_append, List.forall_mem_singleton] at h
    rw [ofList_concat]
    exact forall_mem_insert (ih h.1) h.2 m.1

end Values

/-! ### Members given by their names -/

theorem get?_map {names : List String} {key : String} (h : key ∈ names) (f : String → Json) :
    get? (names.map fun name ↦ (name, f name)) key = some (f key) := by
  induction names with
  | nil => cases h
  | cons name names ih =>
    rw [List.map_cons, get?, List.lookup_cons]
    by_cases hname : key = name
    · rw [hname, beq_self_eq_true]
    · rw [beq_false_of_ne hname]
      exact ih ((List.mem_cons.1 h).resolve_left hname)

private theorem insert_map {names : List String} (hnodup : names.Nodup) {key : String}
    (h : key ∈ names)
    (f : String → Json) (value : Json) :
    insert (names.map fun name ↦ (name, f name)) key value
      = names.map fun name ↦ (name, if name = key then value else f name) := by
  induction names with
  | nil => cases h
  | cons name names ih =>
    rw [List.nodup_cons] at hnodup
    rw [List.map_cons, List.map_cons, insert]
    by_cases hname : name = key
    · subst hname
      rw [if_pos rfl, if_pos rfl]
      refine congrArg _ (List.map_congr_left fun other hother ↦ ?_)
      rw [if_neg (ne_of_mem_of_not_mem hother hnodup.1)]
    · have hrest : key ∈ names := (List.mem_cons.1 h).resolve_left (Ne.symm hname)
      rw [if_neg hname, if_neg hname, ih hnodup.2 hrest]

/-- Setting a member of members that are given by their names: the name takes its first place. -/
theorem insert_map_eraseDups (names : List String) (key : String) (f : String → Json)
    (value : Json) :
    insert (names.eraseDups.map fun name ↦ (name, f name)) key value
      = (names ++ [key]).eraseDups.map fun name ↦ (name, if name = key then value else f name) := by
  rw [List.eraseDups_append]
  by_cases h : key ∈ names
  · have hkey : key ∈ names.eraseDups := List.mem_eraseDups.2 h
    have hnone : [key].removeAll names = [] := by simp [List.removeAll, h]
    rw [insert_map (nodup_eraseDups names) hkey, hnone, List.eraseDups_nil, List.append_nil]
  · have hkey : key ∉ names.eraseDups := mt List.mem_eraseDups.1 h
    have hlast : [key].removeAll names = [key] := by simp [List.removeAll, h]
    have hkeys : key ∉ keys (names.eraseDups.map fun name ↦ (name, f name)) := by
      simpa [keys] using h
    rw [insert_of_not_mem hkeys, hlast, List.map_append]
    refine congrArg₂ _ (List.map_congr_left fun other hother ↦ ?_) ?_
    · rw [if_neg (ne_of_mem_of_not_mem hother hkey)]
    · simp [List.eraseDups_cons]

end Json.Members

end FeedHarvest
