import FeedHarvest.Proofs.Json.Spelling
import FeedHarvest.Proofs.Record.Identity

/-!
# Identities of reordered records

The fields of a record may stand in any order: the names are sorted, or the dictionary gives their
order. Inside a field the order shows. A value goes into an identity by its text, which has the
members of objects as they come, so a record whose feed writes the members of a nested object in
another order is another record. The same goes for zeros of different sign.

So identities of records that say the same are those of the values under the names that count. They
are certainly the same if none of these values has several members anywhere or a zero with a point.
-/

namespace FeedHarvest

open Json (Alike)

namespace Record

/-! ## The texts of fields -/

section Fields

variable {x y : List Char}

private theorem fieldText_append {o o' : Option Json} (h : Option.Rel Alike o o')
    (ho : ∀ v, o = some v → v.WellFormed) (ho' : ∀ v, o' = some v → v.WellFormed)
    (htext : (fieldText o).toList ++ x = (fieldText o').toList ++ y) : o = o' ∧ x = y := by
  cases h with
  | none => exact ⟨rfl, htext⟩
  | @some v w hvw =>
    have hcompact (hv : (fieldText (some v)).toList = v.compactText)
        (hw : (fieldText (some w)).toList = w.compactText) : some v = some w ∧ x = y := by
      rw [hv, hw] at htext
      obtain ⟨rfl, hrest⟩ := Json.eq_of_compactText_append (ho v rfl) (ho' w rfl) hvw htext
      exact ⟨rfl, hrest⟩
    cases v with
    | null =>
      cases w with
      | null => exact ⟨rfl, htext⟩
      | _ => simp [Alike] at hvw
    | string a =>
      cases w with
      | string b =>
        obtain rfl : a = b := by simpa [Alike] using hvw
        exact ⟨rfl, List.append_cancel_left htext⟩
      | _ => simp [Alike] at hvw
    | bool _ | number _ | array _ | object _ =>
      cases w with
      | null | string _ => simp [Alike] at hvw
      | bool _ | number _ | array _ | object _ =>
        exact hcompact (by simp [fieldText, Json.compact]) (by simp [fieldText, Json.compact])

private theorem eq_of_rel_of_rigid {o o' : Option Json} (h : Option.Rel Alike o o')
    (hrigid : ∀ v, o = some v → v.Rigid) : o = o' := by
  cases h with
  | none => rfl
  | some hvw => rw [(hrigid _ rfl).eq_of_alike hvw]

end Fields

/-! ## Joined texts -/

/-- If the parts of two joined texts show where they end, they are compared one by one. -/
theorem forall_of_intercalate_eq {names : List String} {f g : String → String}
    {same : String → Prop}
    (hcancel : ∀ name ∈ names, ∀ x y, (f name).toList ++ x = (g name).toList ++ y →
      same name ∧ x = y)
    (h : unitSeparator.intercalate (names.map f) = unitSeparator.intercalate (names.map g)) :
    ∀ name ∈ names, same name := by
  rw [← String.toList_inj, String.toList_intercalate, String.toList_intercalate, List.map_map,
    List.map_map] at h
  induction names with
  | nil => exact fun name hname ↦ absurd hname List.not_mem_nil
  | cons name names ih =>
    rw [List.forall_mem_cons] at hcancel ⊢
    cases names with
    | nil =>
      have hname := hcancel.1 [] []
      simp only [List.map_cons, List.map_nil, List.intercalate_singleton, Function.comp_apply] at h
      exact ⟨(hname (by rw [h])).1, fun name hname ↦ absurd hname List.not_mem_nil⟩
    | cons next names =>
      simp only [List.map_cons, List.intercalate_cons_cons, Function.comp_apply,
        List.append_assoc] at h ih
      obtain ⟨hname, hrest⟩ := hcancel.1 _ _ h
      exact ⟨hname, ih hcancel.2 (List.append_cancel_left hrest)⟩

/-! ## Records that say the same -/

/-- The names that count for the identity: the unique fields, or all if there are none. -/
def countedNames (r : Record) (fields : List String) : List String :=
  if fields.isEmpty then r.keys else fields

section Records

variable {r s : Record}

private theorem sortedNames_eq_of_alike (hr : (Json.object r).WellFormed)
    (h : Alike (.object r) (.object s)) : r.sortedNames = s.sortedNames :=
  mergeSort_eq_iff_perm.2 (Json.keys_perm_of_alike (Json.wellFormed_object_iff.1 hr).1 h)

/-- One text means the same values, whatever they hold. -/
theorem get?_eq_of_append (hr : (Json.object r).WellFormed) (hs : (Json.object s).WellFormed)
    (h : Alike (.object r) (.object s)) {name : String} {x y : List Char}
    (htext : (fieldText (r.get? name)).toList ++ x = (fieldText (s.get? name)).toList ++ y) :
    r.get? name = s.get? name ∧ x = y := by
  obtain ⟨hnodup, hvalues⟩ := Json.wellFormed_object_iff.1 hr
  have hvalues' := (Json.wellFormed_object_iff.1 hs).2
  exact fieldText_append (Json.rel_get?_of_alike hnodup h name)
    (fun v hv ↦ hvalues _ (Json.Members.mem_of_get?_eq_some hv))
    (fun w hw ↦ hvalues' _ (Json.Members.mem_of_get?_eq_some hw)) htext

private theorem identityText_eq_iff_same_values (hr : (Json.object r).WellFormed)
    (hs : (Json.object s).WellFormed) (h : Alike (.object r) (.object s)) (fields : List String) :
    r.identityText fields = s.identityText fields ↔
      ∀ name ∈ r.countedNames fields, r.get? name = s.get? name := by
  have hnames := sortedNames_eq_of_alike hr h
  by_cases hnil : fields = []
  · subst hnil
    rw [identityText_nil, identityText_nil, ← hnames]
    constructor
    · intro htext name hname
      have hsame : ∀ name ∈ r.sortedNames, r.get? name = s.get? name := by
        refine forall_of_intercalate_eq (fun name _ x y hparts ↦ ?_) htext
        rw [namedText_eq, namedText_eq, List.append_assoc, List.append_assoc,
          List.append_cancel_left_eq] at hparts
        exact get?_eq_of_append hr hs h (List.cons.inj hparts).2
      exact hsame name (mem_sortedNames.2 hname)
    · intro hvalues
      refine congrArg _ (List.map_congr_left fun name hname ↦ ?_)
      rw [namedText, namedText, hvalues name (mem_sortedNames.1 hname)]
  · rw [identityText_of_ne_nil r hnil, identityText_of_ne_nil s hnil, countedNames,
      List.isEmpty_eq_false_iff.2 hnil, if_neg Bool.false_ne_true]
    constructor
    · exact forall_of_intercalate_eq fun name _ x y hparts ↦ get?_eq_of_append hr hs h hparts
    · intro hvalues
      refine congrArg _ (List.map_congr_left fun name hname ↦ ?_)
      rw [hvalues name hname]

end Records

/-- **Records that say the same have one identity if the values that count are written alike.** Of
two records that differ at most in the order of members, at any depth, and in the sign of zeros, the
digested texts are the same exactly when the values under the names that count are: the order of the
fields plays no part, and that of the members inside a value does. If none of these values has an
object of several members in it or a zero with a point, the identities are the same. -/
theorem identity_of_alike_records {r s : Record} (hr : (Json.object r).WellFormed)
    (hs : (Json.object s).WellFormed) (h : Alike (.object r) (.object s)) (fields : List String) :
    (r.identityText fields = s.identityText fields ↔
      ∀ name ∈ r.countedNames fields, r.get? name = s.get? name) ∧
    ((∀ name ∈ r.countedNames fields, r.get? name = s.get? name) →
      r.identity fields = s.identity fields) ∧
    ((∀ name ∈ r.countedNames fields, ∀ v, r.get? name = some v → v.Rigid) →
      r.identity fields = s.identity fields) := by
  have htext := identityText_eq_iff_same_values hr hs h fields
  have hidentity (hvalues : ∀ name ∈ r.countedNames fields, r.get? name = s.get? name) :
      r.identity fields = s.identity fields := congrArg Digest.ofText (htext.2 hvalues)
  refine ⟨htext, hidentity, fun hrigid ↦ hidentity fun name hname ↦ ?_⟩
  exact eq_of_rel_of_rigid (Json.rel_get?_of_alike (Json.wellFormed_object_iff.1 hr).1 h name)
    (hrigid name hname)

def forward : Json := .object [("x", .ofNat 1), ("y", .ofNat 2)]

/-- The same members in another order. -/
def backward : Json := .object [("y", .ofNat 2), ("x", .ofNat 1)]

theorem wellFormed_forward : forward.WellFormed := by
  simp [forward, Json.wellFormed_object_iff, Json.WellFormed.int, Json.ofNat]

theorem wellFormed_backward : backward.WellFormed := by
  simp [backward, Json.wellFormed_object_iff, Json.WellFormed.int, Json.ofNat]

theorem forward_alike_backward : Alike forward backward :=
  Json.alike_of_perm wellFormed_forward (.swap _ _ _)

/-- Reordered members count unless a unique field is declared beside them. -/
theorem identity_of_alike_records_of_nested :
    let r : Record := [("a", forward), ("b", .string "t")]
    let s : Record := [("b", .string "t"), ("a", backward)]
    ((Json.object r).WellFormed ∧ (Json.object s).WellFormed ∧ Alike (.object r) (.object s)) ∧
      r.identity ["b"] = s.identity ["b"] ∧ r.identityText [] ≠ s.identityText [] := by
  intro r s
  have hr : (Json.object r).WellFormed := by
    simp [r, Json.wellFormed_object_iff, wellFormed_forward, Json.WellFormed.string]
  have hs : (Json.object s).WellFormed := by
    simp [s, Json.wellFormed_object_iff, wellFormed_backward, Json.WellFormed.string]
  have h : Alike (.object r) (.object s) := by
    rw [Alike, Json.membersAlike_iff_forall, List.forall_mem_cons, List.forall_mem_singleton]
    exact ⟨rfl, ⟨backward, rfl, forward_alike_backward⟩, _, rfl,
      (Json.WellFormed.string "t").alike_self⟩
  obtain ⟨-, -, hrigid⟩ := identity_of_alike_records hr hs h ["b"]
  obtain ⟨htext, -, -⟩ := identity_of_alike_records hr hs h []
  refine ⟨⟨hr, hs, h⟩, hrigid fun name hname v hv ↦ ?_, fun heq ↦ ?_⟩
  · obtain rfl : name = "b" := List.mem_singleton.1 hname
    obtain rfl : Json.string "t" = v := Option.some.inj hv
    exact .string "t"
  · exact absurd (htext.1 heq "a" (by decide)) (by decide)

/-- Members in another order inside a field give another identity. -/
theorem reordered_members_change_the_identity :
    Alike (.object [("a", forward)]) (.object [("a", backward)]) ∧
      identity [("a", forward)] [] ≠ identity [("a", backward)] [] ∧
      ¬ ∀ (r s : Record) (fields : List String), (Json.object r).WellFormed →
        (Json.object s).WellFormed → Alike (.object r) (.object s) →
        r.identity fields = s.identity fields := by
  have hr : (Json.object [("a", forward)]).WellFormed := by
    simp [Json.wellFormed_object_iff, wellFormed_forward]
  have hs : (Json.object [("a", backward)]).WellFormed := by
    simp [Json.wellFormed_object_iff, wellFormed_backward]
  have h : Alike (.object [("a", forward)]) (.object [("a", backward)]) :=
    (Json.isComparison_alike.single_iff _ _ _ _).2 ⟨rfl, forward_alike_backward⟩
  have hne : identity [("a", forward)] [] ≠ identity [("a", backward)] [] := by decide +kernel
  exact ⟨h, hne, fun hall ↦ hne (hall _ _ [] hr hs h)⟩

end Record

end FeedHarvest
