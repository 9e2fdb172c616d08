import FeedHarvest.Record.Identity
import Mathlib.Data.List.Basic
import Mathlib.Data.String.Basic

/-!
# What identities tell apart

Joining texts with a separator can be undone as long as no text holds the separator. So the texts of
unique fields, of which there is at least one, can be told from what they are joined to.

Without unique fields all fields are joined, in the order of their names. This loses the order in
which they stand and nothing else: a name ends where the first `=` is, and a record without fields
is no special case, since every part of a joined text has an `=`.
-/

namespace FeedHarvest

/-! ## Sorted texts -/

section Sorted

variable {ss ts : List String}

theorem pairwise_le_mergeSort (ss : List String) :
    (ss.mergeSort fun a b ↦ decide (a ≤ b)).Pairwise (· ≤ ·) := by
  have hpairwise : (ss.mergeSort fun a b ↦ decide (a ≤ b)).Pairwise
      fun a b ↦ decide (a ≤ b) = true := by
    refine List.pairwise_mergeSort (fun a b c hab hbc ↦ ?_) (fun a b ↦ ?_) ss
    · exact decide_eq_true (String.le_trans (of_decide_eq_true hab) (of_decide_eq_true hbc))
    · simpa only [Bool.or_eq_true, decide_eq_true_eq] using String.le_total a b
  exact hpairwise.imp of_decide_eq_true

/-- Sorting forgets the order and keeps all else. -/
theorem mergeSort_eq_iff_perm :
    (ss.mergeSort fun a b ↦ decide (a ≤ b)) = (ts.mergeSort fun a b ↦ decide (a ≤ b)) ↔
      ss.Perm ts := by
  constructor
  · intro h
    have hts := List.mergeSort_perm ts fun a b ↦ decide (a ≤ b)
    rw [← h] at hts
    exact (List.mergeSort_perm ss _).symm.trans hts
  · intro h
    refine List.Perm.eq_of_pairwise (fun a b _ _ hab hba ↦ String.le_antisymm hab hba)
      (pairwise_le_mergeSort ss) (pairwise_le_mergeSort ts) ?_
    exact (List.mergeSort_perm ss _).trans (h.trans (List.mergeSort_perm ts _).symm)

end Sorted

namespace Record

/-! ## Joined texts -/

/-- Whether a text does not hold the character that stands between texts. -/
def Unseparated (s : String) : Prop := '\x1f' ∉ s.toList

instance (s : String) : Decidable (Unseparated s) := inferInstanceAs (Decidable (¬ _))

section Joined

variable {ss ts : List String}

theorem splitOn_intercalate (h : ∀ s ∈ ss, Unseparated s) (hne : ss ≠ []) :
    List.splitOn '\x1f' (unitSeparator.intercalate ss).toList = ss.map String.toList := by
  have hparts : ∀ cs ∈ ss.map String.toList, '\x1f' ∉ cs := by
    intro cs hcs
    obtain ⟨s, hs, rfl⟩ := List.mem_map.1 hcs
    exact h s hs
  rw [String.toList_intercalate]
  exact List.splitOn_intercalate '\x1f' hparts (mt List.map_eq_nil_iff.1 hne)

theorem intercalate_eq_iff (hs : ∀ s ∈ ss, Unseparated s) (ht : ∀ t ∈ ts, Unseparated t)
    (hss : ss ≠ []) (hts : ts ≠ []) :
    unitSeparator.intercalate ss = unitSeparator.intercalate ts ↔ ss = ts := by
  constructor
  · intro h
    have hsplit := splitOn_intercalate hs hss
    rw [h, splitOn_intercalate ht hts] at hsplit
    exact (List.map_injective_iff.2 fun _ _ ↦ String.toList_injective) hsplit.symm
  · rintro rfl
    rfl

theorem intercalate_ne_empty (ht : ∀ t ∈ ts, Unseparated t) (hempty : "" ∉ ts) (hne : ts ≠ []) :
    unitSeparator.intercalate ts ≠ "" := by
  intro h
  have hone : ts = [""] := by
    refine (intercalate_eq_iff ht (fun s hs ↦ ?_) hne (List.cons_ne_nil _ _)).1 h
    rw [List.mem_singleton.1 hs]
    decide
  exact hempty (hone ▸ List.mem_singleton_self "")

/-- Where no text is empty, joining no texts is no special case. -/
theorem intercalate_eq_iff_of_ne_empty (hs : ∀ s ∈ ss, Unseparated s)
    (ht : ∀ t ∈ ts, Unseparated t) (hss : "" ∉ ss) (hts : "" ∉ ts) :
    unitSeparator.intercalate ss = unitSeparator.intercalate ts ↔ ss = ts := by
  by_cases hss' : ss = []
  · by_cases hts' : ts = []
    · exact iff_of_true (by rw [hss', hts']) (hss'.trans hts'.symm)
    · rw [hss']
      exact iff_of_false (intercalate_ne_empty ht hts hts').symm (Ne.symm hts')
  · by_cases hts' : ts = []
    · rw [hts']
      exact iff_of_false (intercalate_ne_empty hs hss hss') hss'
    · exact intercalate_eq_iff hs ht hss' hts'

end Joined

/-! ## All fields -/

variable {r s : Record}

theorem namedText_eq (r : Record) (name : String) :
    (r.namedText name).toList = name.toList ++ '=' :: (fieldText (r.get? name)).toList := by
  rw [namedText, String.toList_append, String.toList_append, List.append_assoc]
  rfl

theorem ofList_takeWhile_namedText {name : String} (h : '=' ∉ name.toList) :
    String.ofList ((r.namedText name).toList.takeWhile (· != '=')) = name := by
  have hname : ∀ c ∈ name.toList, (c != '=') = true := by
    intro c hc
    rw [bne_iff_ne]
    rintro rfl
    exact h hc
  rw [namedText_eq, List.takeWhile_append_of_pos hname, List.takeWhile_cons_of_neg (by decide),
    List.append_nil, String.ofList_toList]

theorem mem_sortedNames {name : String} : name ∈ r.sortedNames ↔ name ∈ r.keys :=
  List.mem_mergeSort

/-- Whether the names and texts of a record can be read from what they are joined to. -/
def Separable (r : Record) : Prop :=
  ∀ name ∈ r.keys, Unseparated name ∧ '=' ∉ name.toList ∧ Unseparated (fieldText (r.get? name))

instance (r : Record) : Decidable r.Separable :=
  inferInstanceAs (Decidable (∀ name ∈ r.keys, _))

private theorem Separable.unseparated_namedText (h : r.Separable) {name : String}
    (hname : name ∈ r.keys) :
    Unseparated (r.namedText name) := by
  obtain ⟨hunit, -, htext⟩ := h name hname
  rw [Unseparated, namedText_eq, List.mem_append, List.mem_cons, not_or, not_or]
  exact ⟨hunit, by decide, htext⟩

private theorem namedText_ne_empty (r : Record) (name : String) : r.namedText name ≠ "" := by
  intro h
  have hlist := namedText_eq r name
  rw [h] at hlist
  exact List.append_ne_nil_of_right_ne_nil _ (List.cons_ne_nil _ _) hlist.symm

theorem identityText_nil (r : Record) :
    r.identityText [] = unitSeparator.intercalate (r.sortedNames.map r.namedText) := rfl

theorem identityText_of_ne_nil (r : Record) {fields : List String} (h : fields ≠ []) :
    r.identityText fields
      = unitSeparator.intercalate (fields.map fun name ↦ fieldText (r.get? name)) := by
  rw [identityText, List.isEmpty_eq_false_iff.2 h]
  rfl

/-- The parts of the joined text are the fields in the order of their names. -/
theorem Separable.identityText_nil_eq_iff (hr : r.Separable) (hs : s.Separable) :
    r.identityText [] = s.identityText [] ↔
      r.sortedNames.map r.namedText = s.sortedNames.map s.namedText := by
  have hunseparated : ∀ {t : Record}, t.Separable → ∀ part ∈ t.sortedNames.map t.namedText,
      Unseparated part := by
    intro t ht part hpart
    obtain ⟨name, hname, rfl⟩ := List.mem_map.1 hpart
    exact ht.unseparated_namedText (mem_sortedNames.1 hname)
  have hempty : ∀ t : Record, "" ∉ t.sortedNames.map t.namedText := by
    intro t h
    obtain ⟨name, -, hname⟩ := List.mem_map.1 h
    exact namedText_ne_empty t name hname
  rw [identityText_nil, identityText_nil]
  exact intercalate_eq_iff_of_ne_empty (hunseparated hr) (hunseparated hs) (hempty r) (hempty s)

/-- The names are read from the parts first, and then the texts from what follows them. -/
theorem Separable.map_namedText_eq_iff (hr : r.Separable) (hs : s.Separable) :
    r.sortedNames.map r.namedText = s.sortedNames.map s.namedText ↔
      r.sortedNames = s.sortedNames ∧
        ∀ name ∈ r.keys, fieldText (r.get? name) = fieldText (s.get? name) := by
  have hnames : ∀ {t : Record}, t.Separable →
      (t.sortedNames.map t.namedText).map
        (fun part ↦ String.ofList (part.toList.takeWhile (· != '='))) = t.sortedNames := by
    intro t ht
    rw [List.map_map]
    refine (List.map_congr_left fun name hname ↦ ?_).trans (List.map_id _)
    exact ofList_takeWhile_namedText (ht name (mem_sortedNames.1 hname)).2.1
  constructor
  · intro h
    -- cut at its first equals sign each part is a name again
    have hsame : r.sortedNames = s.sortedNames := by
      rw [← hnames hr, h, hnames hs]
    rw [← hsame, List.map_inj_left] at h
    refine ⟨hsame, fun name hname ↦ ?_⟩
    exact (String.append_right_inj _).1 (h name (mem_sortedNames.2 hname))
  · rintro ⟨hsame, htexts⟩
    rw [← hsame, List.map_inj_left]
    intro name hname
    rw [namedText, namedText, htexts name (mem_sortedNames.1 hname)]

private theorem sortedNames_eq_iff (hr : r.keys.Nodup) (hs : s.keys.Nodup) :
    r.sortedNames = s.sortedNames ↔ ∀ name, name ∈ r.keys ↔ name ∈ s.keys :=
  mergeSort_eq_iff_perm.trans (List.perm_ext_iff_of_nodup hr hs)

/-- **Identities tell apart what they should.** An identity is the digest of a text. With unique
fields, two records have one such text exactly when each unique field has one text in both, as long
as none of those texts holds the separator. Without, they have it exactly when they have the same
names and under each name the same text, wherever it stands, as long as no name or text holds the
separator and no name an equals sign. -/
theorem identityText_eq_iff_same_texts (r s : Record) :
    (∀ t : Record, ∀ fields, t.identity fields = Digest.ofText (t.identityText fields)) ∧
    (∀ fields, fields ≠ [] →
      (∀ name ∈ fields,
        Unseparated (fieldText (r.get? name)) ∧ Unseparated (fieldText (s.get? name))) →
      (r.identityText fields = s.identityText fields ↔
        ∀ name ∈ fields, fieldText (r.get? name) = fieldText (s.get? name))) ∧
    (r.keys.Nodup → s.keys.Nodup → r.Separable → s.Separable →
      (r.identityText [] = s.identityText [] ↔
        (∀ name, name ∈ r.keys ↔ name ∈ s.keys) ∧
          ∀ name ∈ r.keys, fieldText (r.get? name) = fieldText (s.get? name))) := by
  refine ⟨fun _ _ ↦ rfl, fun fields hne hfields ↦ ?_, fun hr hs hr' hs' ↦ ?_⟩
  · have htexts : ∀ t : Record, (∀ name ∈ fields, Unseparated (fieldText (t.get? name))) →
        ∀ text ∈ fields.map (fun name ↦ fieldText (t.get? name)), Unseparated text := by
      intro t ht text htext
      obtain ⟨name, hname, rfl⟩ := List.mem_map.1 htext
      exact ht name hname
    have hmap : ∀ t : Record, fields.map (fun name ↦ fieldText (t.get? name)) ≠ [] := by
      intro t h
      exact hne (List.map_eq_nil_iff.1 h)
    rw [identityText_of_ne_nil r hne, identityText_of_ne_nil s hne,
      intercalate_eq_iff (htexts r fun name h ↦ (hfields name h).1)
        (htexts s fun name h ↦ (hfields name h).2) (hmap r) (hmap s)]
    exact List.map_inj_left
  · rw [hr'.identityText_nil_eq_iff hs', hr'.map_namedText_eq_iff hs', sortedNames_eq_iff hr hs]

/-- A null, a missing and an empty field have one text, which keeps its place among the unique
fields; and the order of fields does not show. -/
theorem identityText_eq_iff_same_texts_of_empty :
    let r : Record := [("a", .string "x"), ("b", .null)]
    let s : Record := [("b", .string ""), ("a", .string "x")]
    let t : Record := [("b", .string "x")]
    r.identityText ["a", "b"] = s.identityText ["a", "b"] ∧
      r.identityText ["a", "b"] ≠ t.identityText ["a", "b"] ∧
      r.identityText [] = s.identityText [] ∧ r.identityText [] ≠ t.identityText [] := by
  intro r s t
  have hr : r.Separable := by decide
  have hs : s.Separable := by decide
  have ht : t.Separable := by decide
  obtain ⟨-, hunique, hall⟩ := identityText_eq_iff_same_texts r s
  obtain ⟨-, hunique', hall'⟩ := identityText_eq_iff_same_texts r t
  refine ⟨(hunique ["a", "b"] (by decide) (by decide)).2 (by decide), ?_,
    (hall (by decide) (by decide) hr hs).2 ⟨?_, by decide⟩, ?_⟩
  · exact mt (hunique' ["a", "b"] (by decide) (by decide)).1 (by decide)
  · intro name
    simp [r, s, or_comm]
  · intro h
    have hnames := ((hall' (by decide) (by decide) hr ht).1 h).1 "a"
    simp [r, t] at hnames

end Record

end FeedHarvest
