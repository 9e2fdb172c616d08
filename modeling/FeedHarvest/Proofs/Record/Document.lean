import FeedHarvest.Proofs.Json.Members
import FeedHarvest.Proofs.Record.Identity
import FeedHarvest.Record.Document
import Mathlib.Data.List.Induction
import Mathlib.Data.List.Nodup

/-!
# Documents and the time of the run

A document knows the time of its run in one place, the value of its stamp. Identities are taken
before the stamp is set, even where a feed has a column of the stamp's name or that column is one of
the unique fields; so two runs over the same records give the same identities, and bodies that are
equal but for one value.

What is said about records that lack unique fields does not know the time at all. It is said once
for all records: how many they are, and which fields any of them lacks.
-/

namespace FeedHarvest

/-! ## Sets of texts -/

theorem pairwise_lt_mergeSort_eraseDups (ss : List String) :
    (ss.eraseDups.mergeSort fun a b ↦ decide (a ≤ b)).Pairwise (· < ·) := by
  have hnodup : (ss.eraseDups.mergeSort fun a b ↦ decide (a ≤ b)).Nodup :=
    (nodup_eraseDups ss).perm (List.mergeSort_perm _ _).symm
  refine ((pairwise_le_mergeSort ss.eraseDups).and hnodup).imp fun h ↦ ?_
  exact lt_of_le_of_ne h.1 h.2

/-! ## Records that lack unique fields -/

namespace Record

/-- Whether a record has nothing, or null, in one of the fields. -/
def Incomplete (r : Record) (fields : List String) : Prop :=
  ∃ name ∈ fields, r.get? name = none ∨ r.get? name = some .null

instance (r : Record) (fields : List String) : Decidable (r.Incomplete fields) :=
  inferInstanceAs (Decidable (∃ name ∈ fields, _))

variable {r : Record} {rs : List Record} {fields : List String} {name : String}

private theorem lacks_iff :
    r.lacks name = true ↔ r.get? name = none ∨ r.get? name = some .null := by
  rw [lacks]
  split <;> simp_all

theorem mem_missingFields :
    name ∈ r.missingFields fields ↔
      name ∈ fields ∧ (r.get? name = none ∨ r.get? name = some .null) := by
  rw [missingFields, List.mem_filter, lacks_iff]

private theorem not_isEmpty_missingFields_iff :
    (!(r.missingFields fields).isEmpty) = true ↔ r.Incomplete fields := by
  rw [Bool.not_eq_true', List.isEmpty_eq_false_iff_exists_mem, Incomplete]
  exact exists_congr fun name ↦ mem_missingFields

end Record

namespace IdentityWarning

variable {rs : List Record} {fields : List String} {w : IdentityWarning}

theorem length_filter_missingFields :
    ((rs.map fun r ↦ r.missingFields fields).filter fun m ↦ !m.isEmpty).length
      = rs.countP fun r ↦ r.Incomplete fields := by
  rw [← List.countP_eq_length_filter, List.countP_map]
  refine List.countP_congr fun r _ ↦ ?_
  rw [Function.comp_apply, Record.not_isEmpty_missingFields_iff, decide_eq_true_eq]

theorem isSome_of?_iff : (of? fields rs).isSome = true ↔ ∃ r ∈ rs, r.Incomplete fields := by
  have hcount : (∃ r ∈ rs, r.Incomplete fields) ↔
      ((rs.map fun r ↦ r.missingFields fields).filter fun m ↦ !m.isEmpty) ≠ [] := by
    rw [← List.length_pos_iff, length_filter_missingFields, List.countP_pos_iff]
    simp only [decide_eq_true_eq]
  rw [hcount, of?]
  split
  · next h => exact iff_of_false (by simp) (not_not_intro (List.isEmpty_iff.1 h))
  · next h => exact iff_of_true rfl (mt List.isEmpty_iff.2 h)

theorem eq_of_of?_eq_some (h : of? fields rs = some w) :
    w.records = (rs.countP fun r ↦ r.Incomplete fields) ∧ w.fields.Pairwise (· < ·) ∧
      ∀ name, name ∈ w.fields ↔
        name ∈ fields ∧ ∃ r ∈ rs, r.get? name = none ∨ r.get? name = some .null := by
  rw [of?] at h
  split at h
  · cases h
  · cases h
    refine ⟨length_filter_missingFields, pairwise_lt_mergeSort_eraseDups _, fun name ↦ ?_⟩
    rw [List.mem_mergeSort, List.mem_eraseDups, List.flatten_filter_not_isEmpty,
      List.mem_flatten]
    constructor
    · rintro ⟨missing, hmissing, hname⟩
      obtain ⟨r, hr, rfl⟩ := List.mem_map.1 hmissing
      obtain ⟨hfield, hlacks⟩ := Record.mem_missingFields.1 hname
      exact ⟨hfield, r, hr, hlacks⟩
    · rintro ⟨hfield, r, hr, hlacks⟩
      exact ⟨_, List.mem_map_of_mem hr, Record.mem_missingFields.2 ⟨hfield, hlacks⟩⟩

end IdentityWarning

/-! ## Documents of a run -/

namespace Dictionary

variable {d : Dictionary} {rs : List Record} {r : Record}

/-- The document of a record at every time: one identity, and one body around the stamp. -/
theorem exists_documents_eq {i : Nat} (h : rs[i]? = some r) :
    ∃ before after, stampField ∉ Json.Members.keys before ∧
      (r.cleaned = before ∧ after = [] ∨
        ∃ old, r.cleaned = before ++ (stampField, old) :: after) ∧
      ∀ t, (d.documents rs t)[i]?
        = some ⟨r.cleaned.identity d.uniqueFields,
          .object (before ++ (stampField, .string t.stamp) :: after)⟩ := by
  obtain ⟨before, after, hkey, hrecord, hinsert⟩ :=
    Json.Members.exists_insert_eq r.cleaned stampField
  refine ⟨before, after, hkey, hrecord, fun t ↦ ?_⟩
  rw [documents, List.getElem?_map, h, Option.map_some, Record.document, Record.stamped, hinsert]

theorem map_id_documents (d : Dictionary) (rs : List Record) (t : Time.Instant) :
    (d.documents rs t).map Document.id = rs.map fun r ↦ r.cleaned.identity d.uniqueFields := by
  rw [documents, List.map_map]
  rfl

/-- Something is said about the records of a run exactly when one of them, once it is cleaned, lacks a
field. -/
theorem isSome_identityWarning?_iff :
    (d.identityWarning? rs).isSome = true ↔ ∃ r ∈ rs, r.cleaned.Incomplete d.uniqueFields := by
  rw [identityWarning?, IdentityWarning.isSome_of?_iff]
  simp only [List.mem_map, exists_exists_and_eq_and]

theorem eq_of_identityWarning?_eq_some {w : IdentityWarning} (h : d.identityWarning? rs = some w) :
    w.records = (rs.countP fun r ↦ r.cleaned.Incomplete d.uniqueFields) ∧
      w.fields.Pairwise (· < ·) ∧
      ∀ name, name ∈ w.fields ↔ name ∈ d.uniqueFields ∧
        ∃ r ∈ rs, r.cleaned.get? name = none ∨ r.cleaned.get? name = some .null := by
  obtain ⟨hcount, hsorted, hmem⟩ := IdentityWarning.eq_of_of?_eq_some h
  rw [List.countP_map] at hcount
  refine ⟨hcount, hsorted, fun name ↦ ?_⟩
  rw [hmem name]
  simp only [List.mem_map, exists_exists_and_eq_and]

/-- **Documents know the time by their stamp only.** Each record has one document, in order. Its
identity is that of the cleaned record, at every time; its body is the cleaned record around the
stamp, which replaces a column of that name in its place and else comes last, so that the bodies of
two runs differ in the stamp at most. Something is said about missing fields exactly when a cleaned
record lacks a unique field or has null in it: how many such records there are, and the fields in
question, each once and in order. -/
theorem documents_differ_by_stamp (d : Dictionary) (rs : List Record) :
    (∀ t, (d.documents rs t).length = rs.length) ∧
    (∀ t₁ t₂, (d.documents rs t₁).map Document.id = (d.documents rs t₂).map Document.id) ∧
    (∀ (i : Nat) (r : Record), rs[i]? = some r → ∃ before after,
      stampField ∉ Json.Members.keys before ∧
      (r.cleaned = before ∧ after = [] ∨
        ∃ old, r.cleaned = before ++ (stampField, old) :: after) ∧
      ∀ t, (d.documents rs t)[i]?
        = some ⟨r.cleaned.identity d.uniqueFields,
          .object (before ++ (stampField, .string t.stamp) :: after)⟩) ∧
    ((d.identityWarning? rs).isSome = true ↔ ∃ r ∈ rs, r.cleaned.Incomplete d.uniqueFields) ∧
    ∀ w, d.identityWarning? rs = some w →
      w.records = (rs.countP fun r ↦ r.cleaned.Incomplete d.uniqueFields) ∧
      w.fields.Pairwise (· < ·) ∧
      ∀ name, name ∈ w.fields ↔ name ∈ d.uniqueFields ∧
        ∃ r ∈ rs, r.cleaned.get? name = none ∨ r.cleaned.get? name = some .null := by
  refine ⟨fun t ↦ List.length_map _, fun t₁ t₂ ↦ ?_, fun i r h ↦ exists_documents_eq h,
    isSome_identityWarning?_iff, fun w hw ↦ eq_of_identityWarning?_eq_some hw⟩
  rw [map_id_documents, map_id_documents]

/-- The stamp's own column is a unique field and null in the first record: it is said to be missing,
and the stamp takes its place. -/
theorem documents_differ_by_stamp_of_column :
    let d : Dictionary := { uniqueFields := [stampField, "id"] }
    let r : Record := [(stampField, .null), ("id", .bool true)]
    let s : Record := [("n", .null)]
    (∀ t, (d.documents [r, s] t)[0]? = some ⟨r.identity d.uniqueFields,
      .object [(stampField, .string t.stamp), ("id", .bool true)]⟩) ∧
    (∀ t, (d.documents [r, s] t)[1]? = some ⟨s.identity d.uniqueFields,
      .object [("n", .null), (stampField, .string t.stamp)]⟩) ∧
    ∃ w, d.identityWarning? [r, s] = some w ∧ w.records = 2 ∧ stampField ∈ w.fields ∧
      "id" ∈ w.fields ∧ "n" ∉ w.fields := by
  intro d r s
  have hr : r.cleaned = r := rfl
  have hs : s.cleaned = s := rfl
  obtain ⟨-, -, hdocuments, hsome, hsaid⟩ := documents_differ_by_stamp d [r, s]
  obtain ⟨before, after, hkey, hrecord, hr'⟩ := hdocuments 0 r rfl
  obtain ⟨before', after', hkey', hrecord', hs'⟩ := hdocuments 1 s rfl
  refine ⟨?_, ?_, ?_⟩
  · rw [hr] at hrecord hr'
    rcases hrecord with ⟨rfl, -⟩ | ⟨old, hold⟩
    · exact absurd List.mem_cons_self hkey
    · cases before with
      | nil =>
        obtain ⟨-, rfl⟩ := List.cons.inj hold
        exact hr'
      | cons m before =>
        obtain ⟨rfl, -⟩ := List.cons.inj hold
        exact absurd List.mem_cons_self hkey
  · rw [hs] at hrecord' hs'
    rcases hrecord' with ⟨rfl, rfl⟩ | ⟨old, hold⟩
    · exact hs'
    · have hmem : stampField ∈ Json.Members.keys s := by
        rw [hold]
        exact List.mem_map_of_mem (List.mem_append_right before' List.mem_cons_self)
      exact absurd hmem (by decide)
  · obtain ⟨w, hw⟩ := Option.isSome_iff_exists.1 (hsome.2 ⟨r, List.mem_cons_self, by decide⟩)
    obtain ⟨hcount, -, hmem⟩ := hsaid w hw
    refine ⟨w, hw, hcount.trans (by decide), (hmem _).2 (by decide), (hmem _).2 (by decide), ?_⟩
    exact mt (hmem _).1 (by decide)

end Dictionary

end FeedHarvest
