import FeedHarvest.Proofs.Ingest.Reindexing
import FeedHarvest.Proofs.Search.Client
import FeedHarvest.Proofs.Time.Stamp

/-!
# What pruning removes

A run writes the stamp of its time into every document and then has the engine delete what is below
the stamp of its time. Both are texts, and the engine compares them as texts. That this removes the
documents of earlier runs and no others rests on one fact about stamps: they stand in the order of
the milliseconds.

The instants spoken of can be named and have a year of four digits. Those in leap seconds are among
them.
-/

namespace FeedHarvest.Ingest

variable {field : String} {a b : Time.Instant}

private theorem at?_olderThan (field : String) (cutoff : Time.Instant) :
    (Search.olderThan field cutoff).at? ["query", "range", field, "lt"]
      = some (.string cutoff.stamp) := by
  simp [Json.at?_cons, Json.at?_nil, Search.olderThan, Json.get?, Json.members, Json.Members.get?]

theorem finds_olderThan_iff (ha : a.isValid = true) (ha' : a.HasPlainYear)
    (hb : b.isValid = true) (hb' : b.HasPlainYear) {x : Document}
    (hx : x.body.get? field = some (.string a.stamp)) :
    Search.finds (Search.olderThan field b) x = true ↔ a.IsEarlier b := by
  rw [← Time.Instant.stamp_lt_iff ha ha' hb hb', Search.finds, Search.bound?_olderThan]
  simp only [hx, Option.bind_some, Json.asString?, decide_eq_true_eq]

/-- **What pruning removes.** The stamp that a run writes into its documents is below the bound
that a run prunes by exactly if the first run was earlier, and it is that bound exactly if both were
in the same millisecond; so pruning finds the documents of earlier runs and no others. -/
theorem pruning_follows_time (a b : Time.Instant) (ha : a.isValid = true)
    (ha' : a.HasPlainYear) (hb : b.isValid = true) (hb' : b.HasPlainYear) :
    ∃ stamp limit : String,
      (∀ (d : Dictionary) (records : List Record), ∀ x ∈ d.documents records a,
        x.body.get? stampField = some (.string stamp)) ∧
      (∀ field, (Search.olderThan field b).at? ["query", "range", field, "lt"]
        = some (.string limit)) ∧
      (stamp < limit ↔ a.IsEarlier b) ∧
      (stamp = limit ↔ a.millis = b.millis) ∧
      ∀ (d : Dictionary) (records : List Record), ∀ x ∈ d.documents records a,
        (Search.finds (Search.olderThan stampField b) x = true ↔ a.IsEarlier b) := by
  refine ⟨a.stamp, b.stamp, fun d records x hx ↦ get?_stamp_of_mem_documents hx,
    fun field ↦ at?_olderThan field b, Time.Instant.stamp_lt_iff ha ha' hb hb',
    Time.Instant.stamp_eq_iff ha ha' hb hb', fun d records x hx ↦ ?_⟩
  exact finds_olderThan_iff ha ha' hb hb' (get?_stamp_of_mem_documents hx)

/-- What was written half a second into a leap second is pruned by a run of the next second, at the
start of a year. -/
theorem pruning_follows_time_of_leapSecond :
    let a : Time.Instant := ⟨1483228799, 1500000000⟩
    let b : Time.Instant := ⟨1483228800, 0⟩
    ∃ stamp limit : String,
      (∀ x ∈ ({} : Dictionary).documents [[("id", .string "1")]] a,
        x.body.get? stampField = some (.string stamp)) ∧
      (Search.olderThan stampField b).at? ["query", "range", stampField, "lt"]
        = some (.string limit) ∧ stamp < limit ∧
      ∀ x ∈ ({} : Dictionary).documents [[("id", .string "1")]] a,
        Search.finds (Search.olderThan stampField b) x = true := by
  intro a b
  have ha : a.isValid = true ∧ a.HasPlainYear := ⟨by decide, by decide, by decide⟩
  have hb : b.isValid = true ∧ b.HasPlainYear := ⟨by decide, by decide, by decide⟩
  have hearlier : a.IsEarlier b := Time.Instant.isEarlier_iff.2 (.inl (by decide))
  obtain ⟨stamp, limit, hstamp, hlimit, hlt, -, hfinds⟩ :=
    pruning_follows_time a b ha.1 ha.2 hb.1 hb.2
  exact ⟨stamp, limit, hstamp _ _, hlimit _, hlt.2 hearlier,
    fun x hx ↦ (hfinds _ _ x hx).2 hearlier⟩

end FeedHarvest.Ingest
