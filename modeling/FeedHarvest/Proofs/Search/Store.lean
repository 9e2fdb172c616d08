import FeedHarvest.Search.Store
import Mathlib.Data.List.Induction
import Mathlib.Data.List.Nodup

/-!
# What a store shows

Documents stored one after the other leave, of each identity, the last. So what an index shows
depends on the order in which its documents came only through identities that occur twice, and
batches that share no identity can be stored in any order.
-/

namespace FeedHarvest.Search

/-! ## The last of an identity -/

/-- Whether a document is in a list and none of its identity comes after it. -/
def IsLast (d : Document) (ds : List Document) : Prop :=
  ∃ before after, ds = before ++ d :: after ∧ ∀ e ∈ after, e.id ≠ d.id

variable {d e : Document} {as bs ds contents : List Document}

theorem IsLast.mem (h : IsLast d ds) : d ∈ ds := by
  obtain ⟨before, after, rfl, -⟩ := h
  exact List.mem_append_right _ List.mem_cons_self

theorem not_isLast_nil (d : Document) : ¬ IsLast d [] := fun h ↦ by simpa using h.mem

theorem isLast_append_iff :
    IsLast d (as ++ bs) ↔ IsLast d bs ∨ IsLast d as ∧ ∀ e ∈ bs, e.id ≠ d.id := by
  constructor
  · rintro ⟨before, after, heq, hlast⟩
    rcases List.append_eq_append_iff.1 heq with ⟨mid, rfl, hbs⟩ | ⟨mid, rfl, hmid⟩
    · exact .inl ⟨mid, after, hbs, hlast⟩
    · cases mid with
      | nil => exact .inl ⟨[], after, by simpa using hmid.symm, hlast⟩
      | cons m mid =>
        rw [List.cons_append, List.cons.injEq] at hmid
        obtain ⟨rfl, rfl⟩ := hmid
        exact .inr ⟨⟨before, mid, rfl, fun e he ↦ hlast e (List.mem_append_left _ he)⟩,
          fun e he ↦ hlast e (List.mem_append_right _ he)⟩
  · rintro (⟨before, after, rfl, hlast⟩ | ⟨⟨before, after, rfl, hlast⟩, hbs⟩)
    · exact ⟨as ++ before, after, by rw [List.append_assoc], hlast⟩
    · refine ⟨before, after ++ bs, by rw [List.append_assoc, List.cons_append], fun e he ↦ ?_⟩
      exact (List.mem_append.1 he).elim (hlast e) (hbs e)

private theorem isLast_singleton_iff : IsLast d [e] ↔ d = e := by
  constructor
  · intro h
    exact List.mem_singleton.1 h.mem
  · rintro rfl
    exact ⟨[], [], rfl, fun e he ↦ absurd he List.not_mem_nil⟩

/-- Whether no identity occurs in two batches. -/
def Apart (batches : List (List Document)) : Prop :=
  batches.Pairwise fun b c ↦ ∀ d ∈ b, ∀ e ∈ c, d.id ≠ e.id

/-- In batches that share no identity, the last of an identity is the last in its batch. -/
theorem isLast_flatten_iff {batches : List (List Document)} (h : Apart batches) :
    IsLast d batches.flatten ↔ ∃ b ∈ batches, IsLast d b := by
  induction batches with
  | nil => exact iff_of_false (not_isLast_nil d) (by simp)
  | cons b batches ih =>
    obtain ⟨hb, hbatches⟩ := List.pairwise_cons.1 h
    rw [List.flatten_cons, isLast_append_iff, ih hbatches]
    constructor
    · rintro (⟨c, hc, hd⟩ | ⟨hd, -⟩)
      · exact ⟨c, List.mem_cons_of_mem b hc, hd⟩
      · exact ⟨b, List.mem_cons_self, hd⟩
    · rintro ⟨c, hc, hd⟩
      rcases List.mem_cons.1 hc with rfl | hc
      · refine .inr ⟨hd, fun e he ↦ ?_⟩
        obtain ⟨c', hc', he⟩ := List.mem_flatten.1 he
        exact (hb c' hc' d hd.mem e he).symm
      · exact .inl ⟨c, hc, hd⟩

/-! ## What is shown -/

/-- Whether an index holds, for each identity among documents, the last document of it and nothing
else. -/
structure Shows (contents ds : List Document) : Prop where
  /-- An identity has one document. -/
  nodup_ids : (contents.map Document.id).Nodup
  /-- The documents are the last of their identities. -/
  mem_iff : ∀ d, d ∈ contents ↔ IsLast d ds

private theorem ids_upsert (ds : List Document) (d : Document) :
    (upsert ds d).map Document.id
      = if d.id ∈ ds.map Document.id then ds.map Document.id else ds.map Document.id ++ [d.id] := by
  induction ds with
  | nil => rfl
  | cons e ds ih =>
    by_cases h : e.id = d.id
    · simp [upsert, h]
    · have h' : d.id ≠ e.id := fun heq ↦ h heq.symm
      by_cases hm : d.id ∈ ds.map Document.id <;> simp_all [upsert]

private theorem nodup_ids_upsert (h : (ds.map Document.id).Nodup) (d : Document) :
    ((upsert ds d).map Document.id).Nodup := by
  rw [ids_upsert]
  split
  · exact h
  · next hd => exact List.Nodup.append h (List.nodup_singleton _) (by simpa using hd)

private theorem mem_upsert_iff (h : (ds.map Document.id).Nodup) :
    e ∈ upsert ds d ↔ e = d ∨ e ∈ ds ∧ e.id ≠ d.id := by
  induction ds with
  | nil => simp [upsert]
  | cons x ds ih =>
    obtain ⟨hx, hds⟩ := List.nodup_cons.1 h
    by_cases hid : x.id = d.id
    · rw [upsert, if_pos hid, List.mem_cons, List.mem_cons]
      refine or_congr_right ⟨fun he ↦ ⟨.inr he, fun heq ↦ hx ?_⟩, ?_⟩
      · rw [hid, ← heq]
        exact List.mem_map_of_mem he
      · rintro ⟨rfl | he, hne⟩
        · exact absurd hid hne
        · exact he
    · rw [upsert, if_neg hid, List.mem_cons, List.mem_cons, ih hds]
      constructor
      · rintro (rfl | rfl | ⟨he, hne⟩)
        · exact .inr ⟨.inl rfl, hid⟩
        · exact .inl rfl
        · exact .inr ⟨.inr he, hne⟩
      · rintro (rfl | ⟨rfl | he, hne⟩)
        · exact .inr (.inl rfl)
        · exact .inl rfl
        · exact .inr (.inr ⟨he, hne⟩)

theorem shows_foldl_upsert (ds : List Document) : Shows (ds.foldl upsert []) ds := by
  induction ds using List.reverseRecOn with
  | nil => exact ⟨List.nodup_nil, fun d ↦ iff_of_false List.not_mem_nil (not_isLast_nil d)⟩
  | append_singleton ds x ih =>
    rw [List.foldl_append, List.foldl_cons, List.foldl_nil]
    refine ⟨nodup_ids_upsert ih.nodup_ids x, fun d ↦ ?_⟩
    rw [mem_upsert_iff ih.nodup_ids, ih.mem_iff, isLast_append_iff, isLast_singleton_iff]
    simp [eq_comm]

/-- The order of batches that share no identity does not matter. -/
theorem Shows.of_perm {order batches : List (List Document)} (hp : order.Perm batches)
    (ha : Apart batches) (h : Shows contents order.flatten) : Shows contents batches.flatten := by
  have ha' : Apart order :=
    (hp.pairwise_iff fun hbc d hd e he ↦ (hbc e he d hd).symm).2 ha
  refine ⟨h.nodup_ids, fun d ↦ ?_⟩
  rw [h.mem_iff, isLast_flatten_iff ha', isLast_flatten_iff ha]
  exact exists_congr fun b ↦ and_congr_left fun _ ↦ hp.mem_iff

namespace Store

/-! ## What calls leave behind -/

variable {s : Store} {index : String}

theorem afterAll_bulkIndex (id : String) (batches : List (List Document))
    (h : s.indices index = some contents) :
    (s.afterAll (batches.map (.bulkIndex index id))).indices index
        = some (batches.flatten.foldl upsert contents) ∧
      (s.afterAll (batches.map (.bulkIndex index id))).pipelines = s.pipelines := by
  induction batches generalizing s contents with
  | nil => exact ⟨h, rfl⟩
  | cons b batches ih =>
    have hb : (s.after (.bulkIndex index id b)).indices index
        = some (b.foldl upsert contents) := by
      rw [after, h, Option.getD_some, indices_setIndex_self]
    rw [List.map_cons, afterAll_cons, List.flatten_cons, List.foldl_append]
    exact ih hb

/-- Deleting what is older leaves documents of that very time. -/
theorem after_deleteOlderThan {field : String} {cutoff : Time.Instant}
    (h : s.indices index = some contents)
    (hfield : ∀ d ∈ contents, d.body.get? field = some (.string cutoff.stamp)) :
    (s.after (.deleteOlderThan index field cutoff)).indices index = some contents := by
  rw [after, indices_setIndex_self, h, Option.map_some, List.filter_eq_self.2]
  intro d hd
  rw [not_finds_olderThan (hfield d hd)]
  rfl

end Store

end FeedHarvest.Search
