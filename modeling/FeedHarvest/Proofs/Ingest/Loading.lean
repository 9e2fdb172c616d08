import FeedHarvest.Ingest.Loading
import Mathlib.Data.List.Perm.Basic
import Mathlib.Data.List.Sigma
import Mathlib.Logic.Relation

/-!
# What every load keeps

Nothing is known about the order in which open calls are answered, so what is said about loads is
said about every state that steps can reach.

The one invariant behind it all counts calls: the calls answered and the calls open are, in some
order, the batches started with their numbers. Since batches are started in order this leaves no
room for a batch that is lost, sent twice, or answered without having been sent, and a load whose
calls are all answered well has stored each document once.
-/

namespace FeedHarvest.Ingest

/-! ## Batches -/

theorem flatten_chunks {α : Type} (size : Nat) (as : List α) : (chunks size as).flatten = as := by
  fun_induction chunks size as with
  | case1 => rfl
  | case2 a as ih => rw [List.flatten_cons, ih, List.take_append_drop]

theorem length_of_mem_chunks {α : Type} {size : Nat} {as b : List α} (h : b ∈ chunks size as) :
    1 ≤ b.length ∧ b.length ≤ max size 1 := by
  fun_induction chunks size as with
  | case1 => cases h
  | case2 a as ih =>
    rcases List.mem_cons.1 h with rfl | h
    · rw [List.length_take, List.length_cons]
      omega
    · exact ih h

/-- All parts but the last are of full length: when there is another part, something was left. -/
theorem length_of_mem_dropLast_chunks {α : Type} {size : Nat} {as b : List α}
    (h : b ∈ (chunks size as).dropLast) : b.length = max size 1 := by
  fun_induction chunks size as with
  | case1 => cases h
  | case2 a as ih =>
    by_cases hrest : (a :: as).drop (max size 1) = []
    · simp [hrest, chunks] at h
    · have hne : chunks size ((a :: as).drop (max size 1)) ≠ [] := by
        intro hnil
        rw [← flatten_chunks size ((a :: as).drop (max size 1)), hnil] at hrest
        exact hrest rfl
      rw [List.dropLast_cons_of_ne_nil hne] at h
      rcases List.mem_cons.1 h with rfl | h
      · rw [List.drop_eq_nil_iff, Nat.not_le] at hrest
        rw [List.length_take]
        omega
      · exact ih h

namespace Load

variable {bound : Nat} {batches : List (List Document)} {l l' : Load}

/-! ## Steps -/

theorem start?_eq_some_iff :
    l.start? bound = some l' ↔
      ∃ b bs, l.waiting = b :: bs ∧ l.opened.length < bound ∧ l.failure = none ∧
        l' = { l with
          waiting := bs
          opened := l.opened ++ [(b, l.started.length)]
          started := l.started ++ [b]
          peak := max l.peak (l.opened.length + 1) } := by
  rw [start?]
  split
  · next b bs hw =>
    by_cases hb : l.opened.length < bound <;> cases hf : l.failure <;>
      simp [hw, hb, eq_comm]
  · next hw => simp [hw]

theorem finish?_eq_some_iff {place : Nat} {answer : BulkCall → Search.Answer} :
    l.finish? place answer = some l' ↔
      ∃ call, l.opened[place]? = some call ∧
        l' = { l with
          opened := l.opened.eraseIdx place
          answered := l.answered ++ [(call, answer call)] } := by
  rw [finish?, Option.map_eq_some_iff]
  simp only [eq_comm]

theorem failure_eq_none_iff :
    l.failure = none ↔ ∀ a ∈ l.answered, ∃ n, a.2 = .ok n := by
  rw [failure, List.findSome?_eq_none_iff]
  refine forall₂_congr fun a _ ↦ ?_
  cases a.2 <;> simp [Search.Answer.error?]

theorem failure_of_answered {call : BulkCall} {a : Search.Answer}
    (h : l'.answered = l.answered ++ [(call, a)]) :
    l'.failure = l.failure.or (Search.Answer.error? a) := by
  rw [failure, failure, h, List.findSome?_append, List.findSome?_singleton]

private theorem exists_mem_answered_of_failure {e : Search.Error} (h : l.failure = some e) :
    ∃ a ∈ l.answered, a = (a.1, .error e) := by
  obtain ⟨a, ha, hae⟩ := List.exists_of_findSome?_eq_some h
  obtain ⟨call, answer⟩ := a
  cases answer with
  | ok n => cases hae
  | error e' =>
    cases hae
    exact ⟨_, ha, rfl⟩

theorem failure_of_step {e : Search.Error} (h : Step bound l l') (hf : l.failure = some e) :
    l'.failure = some e := by
  cases h with
  | start h =>
    obtain ⟨_, _, _, _, hnone, rfl⟩ := start?_eq_some_iff.1 h
    rw [hf] at hnone
    cases hnone
  | finish place answer h =>
    obtain ⟨call, _, rfl⟩ := finish?_eq_some_iff.1 h
    rw [failure_of_answered rfl, hf, Option.some_or]

/-! ## The invariant -/

/-- What steps keep about a load of batches. -/
structure Inv (bound : Nat) (batches : List (List Document)) (l : Load) : Prop where
  /-- Batches are started in their order. -/
  started_append_waiting : l.started ++ l.waiting = batches
  /-- What was started is answered or open, each once. -/
  perm_started : (l.answered.map Prod.fst ++ l.opened).Perm l.started.zipIdx
  length_opened_le : l.opened.length ≤ bound
  peak_le : l.peak ≤ bound

private theorem inv_ofBatches (bound : Nat) (batches : List (List Document)) :
    Inv bound batches (ofBatches batches) where
  started_append_waiting := rfl
  perm_started := List.Perm.nil
  length_opened_le := Nat.zero_le bound
  peak_le := Nat.zero_le bound

theorem inv_of_step (hl : Inv bound batches l) (h : Step bound l l') : Inv bound batches l' := by
  cases h with
  | start h =>
    obtain ⟨b, bs, hw, hroom, -, rfl⟩ := start?_eq_some_iff.1 h
    refine ⟨?_, ?_, ?_, Nat.max_le.2 ⟨hl.peak_le, hroom⟩⟩
    · rw [← hl.started_append_waiting, hw, List.append_assoc, List.singleton_append]
    · rw [List.zipIdx_append, ← List.append_assoc]
      simpa using hl.perm_started.append_right [(b, l.started.length)]
    · rw [List.length_append]
      exact hroom
  | finish place answer h =>
    obtain ⟨call, hcall, rfl⟩ := finish?_eq_some_iff.1 h
    obtain ⟨hplace, rfl⟩ := List.getElem?_eq_some_iff.1 hcall
    refine ⟨hl.started_append_waiting, ?_, ?_, hl.peak_le⟩
    · -- the answered call moves from the one list to the end of the other
      have hopened := List.getElem_cons_eraseIdx_perm hplace
      refine List.Perm.trans ?_ hl.perm_started
      simpa using hopened.append_left (l.answered.map Prod.fst)
    · exact Nat.le_trans (List.length_eraseIdx_le _ _) hl.length_opened_le

namespace Inv

variable (hl : Inv bound batches l)
include hl

theorem started_prefix : l.started <+: batches := ⟨l.waiting, hl.started_append_waiting⟩

private theorem nodup_calls : (l.answered.map Prod.fst ++ l.opened).Nodup :=
  hl.perm_started.nodup_iff.2
    (List.Nodup.of_map Prod.snd (List.nodup_zipIdx_map_snd l.started))

theorem mem_zipIdx_of_mem_answered {a : BulkCall × Search.Answer} (ha : a ∈ l.answered) :
    a.1 ∈ batches.zipIdx := by
  have hstarted : a.1 ∈ l.started.zipIdx :=
    hl.perm_started.subset (List.mem_append_left _ (List.mem_map_of_mem ha))
  rw [← hl.started_append_waiting, List.zipIdx_append]
  exact List.mem_append_left _ hstarted

theorem perm_of_done (hw : l.waiting = []) (ho : l.opened = []) :
    l.started = batches ∧ (l.answered.map Prod.fst).Perm batches.zipIdx := by
  have hstarted : l.started = batches := by
    rw [← hl.started_append_waiting, hw, List.append_nil]
  have hperm := hl.perm_started
  rw [ho, List.append_nil, hstarted] at hperm
  exact ⟨hstarted, hperm⟩

theorem done_of_forall_mem (h : ∀ call ∈ batches.zipIdx, call ∈ l.answered.map Prod.fst) :
    l.waiting = [] ∧ l.opened = [] := by
  have hsub : batches.zipIdx.Subperm (l.answered.map Prod.fst) :=
    List.subperm_of_subset (List.Nodup.of_map Prod.snd (List.nodup_zipIdx_map_snd batches)) h
  have hle := hsub.length_le
  have hcalls := hl.perm_started.length_eq
  have hbatches := congrArg List.length hl.started_append_waiting
  simp only [List.length_append, List.length_zipIdx, List.length_map] at hle hcalls hbatches
  constructor <;> refine List.eq_nil_of_length_eq_zero ?_ <;> omega

end Inv

/-! ## What a load comes to -/

variable {documents : List Document}

/-- Whether the engine has stored a batch and said so. -/
def Acknowledged (l : Load) (call : BulkCall) : Prop := ∃ n, (call, .ok n) ∈ l.answered

theorem result?_of_failure {e : Search.Error} (h : l.failure = some e) :
    l.result? documents = some (.error e) := by
  rw [result?, h]

theorem failure_of_result? {e : Search.Error} (h : l.result? documents = some (.error e)) :
    l.failure = some e := by
  cases hf : l.failure with
  | some e' =>
    rw [result?_of_failure hf] at h
    cases h
    rfl
  | none =>
    simp only [result?, hf] at h
    split at h <;> cases h

theorem result?_eq_some_ok_iff {m : Nat} :
    l.result? documents = some (.ok m) ↔
      l.failure = none ∧ l.waiting = [] ∧ l.opened = [] ∧ m = documents.length := by
  cases hf : l.failure with
  | some e => simp [result?_of_failure hf]
  | none =>
    rw [result?, hf]
    by_cases hdone : l.waiting = [] ∧ l.opened = []
    · simp [hdone, eq_comm]
    · rw [if_neg (by simpa using hdone)]
      exact iff_of_false (by simp) fun h ↦ hdone ⟨h.2.1, h.2.2.1⟩

theorem Inv.result?_eq_some_ok_iff (hl : Inv bound batches l) {m : Nat} :
    l.result? documents = some (.ok m) ↔
      (∀ call ∈ batches.zipIdx, l.Acknowledged call) ∧ m = documents.length := by
  rw [Load.result?_eq_some_ok_iff, ← and_assoc, ← and_assoc, and_assoc (a := l.failure = none)]
  refine and_congr_left fun _ ↦ ⟨?_, fun hall ↦ ?_⟩
  · rintro ⟨hf, hw, ho⟩ call hcall
    obtain ⟨a, ha, rfl⟩ := List.mem_map.1 ((hl.perm_of_done hw ho).2.mem_iff.2 hcall)
    obtain ⟨n, hn⟩ := failure_eq_none_iff.1 hf a ha
    exact ⟨n, by rw [← hn]; exact ha⟩
  · have hmem : ∀ call ∈ batches.zipIdx, call ∈ l.answered.map Prod.fst := by
      intro call hcall
      obtain ⟨n, hn⟩ := hall call hcall
      exact List.mem_map_of_mem hn
    refine ⟨failure_eq_none_iff.2 fun a ha ↦ ?_, hl.done_of_forall_mem hmem⟩
    -- a call has one answer, so this one is the acknowledgement
    obtain ⟨n, hn⟩ := hall a.1 (hl.mem_zipIdx_of_mem_answered ha)
    have hnodup := (List.nodup_append.1 hl.nodup_calls).1
    exact ⟨n, congrArg Prod.snd (List.inj_on_of_nodup_map hnodup ha hn rfl)⟩

/-- A load that has not come to an end can take a step: a call is open, or a batch has room. -/
theorem exists_step (hbound : 0 < bound) (h : l.result? documents = none) :
    ∃ l', Step bound l l' := by
  have hf : l.failure = none := by
    cases hf : l.failure with
    | some e => rw [result?_of_failure hf] at h; cases h
    | none => rfl
  cases ho : l.opened with
  | cons call calls =>
    exact ⟨_, .finish 0 (fun _ ↦ .ok 0) (finish?_eq_some_iff.2 ⟨call, by rw [ho]; rfl, rfl⟩)⟩
  | nil =>
    cases hw : l.waiting with
    | cons b bs =>
      exact ⟨_, .start (start?_eq_some_iff.2 ⟨b, bs, hw, by rw [ho]; exact hbound, hf, rfl⟩)⟩
    | nil => simp [result?, hf, hw, ho] at h

/-- After a failure nothing is started, whatever the calls still open are answered. -/
theorem started_of_failure {e : Search.Error} (hf : l.failure = some e)
    (h : Relation.ReflTransGen (Step bound) l l') :
    l'.started = l.started ∧ l'.failure = some e := by
  induction h with
  | refl => exact ⟨rfl, hf⟩
  | tail _ hstep ih =>
    refine ⟨?_, failure_of_step hstep ih.2⟩
    cases hstep with
    | start h =>
      obtain ⟨_, _, _, _, hnone, rfl⟩ := start?_eq_some_iff.1 h
      rw [ih.2] at hnone
      cases hnone
    | finish place answer h =>
      obtain ⟨_, _, rfl⟩ := finish?_eq_some_iff.1 h
      exact ih.1

end Load

namespace LoadLimits

variable {limits : LoadLimits} {documents : List Document} {l : Load}

/-- Whether a load of documents can come to a state. -/
def Reaches (limits : LoadLimits) (documents : List Document) : Load → Prop :=
  Relation.ReflTransGen (Load.Step limits.inForce.openCalls)
    (Load.ofBatches (limits.batches documents))

theorem openCalls_pos (limits : LoadLimits) : 0 < limits.inForce.openCalls :=
  Nat.lt_of_lt_of_le Nat.zero_lt_one (Nat.le_max_right _ _)

theorem inv_of_reaches (h : limits.Reaches documents l) :
    Load.Inv limits.inForce.openCalls (limits.batches documents) l := by
  induction h with
  | refl => exact Load.inv_ofBatches _ _
  | tail _ hstep ih => exact Load.inv_of_step ih hstep

end LoadLimits

/-! ## The contract -/

/-- What holds at every point of a load of documents under limits. -/
structure LoadContract (limits : LoadLimits) (documents : List Document) (l : Load) : Prop where
  /-- The batches are slices of the documents, one after the other. -/
  flatten_batches : (limits.batches documents).flatten = documents
  /-- Every batch but the last is full. -/
  length_batch : ∀ b ∈ (limits.batches documents).dropLast, b.length = max limits.batchSize 1
  /-- The last batch is not empty. -/
  length_last : ∀ b ∈ (limits.batches documents).getLast?,
    1 ≤ b.length ∧ b.length ≤ max limits.batchSize 1
  /-- Batches are started in their order. -/
  started_prefix : l.started <+: limits.batches documents
  /-- A batch that was started is answered or open, and neither twice nor both. -/
  perm_started : (l.answered.map Prod.fst ++ l.opened).Perm l.started.zipIdx
  /-- No more calls are open than the limits allow. -/
  length_opened_le : l.opened.length ≤ max limits.openCalls 1
  /-- Nor were there ever more. -/
  peak_le : l.peak ≤ max limits.openCalls 1
  /-- The load succeeds exactly when every batch is acknowledged, with the number of documents. -/
  result?_eq_ok_iff : ∀ m, l.result? documents = some (.ok m) ↔
    (∀ call ∈ (limits.batches documents).zipIdx, l.Acknowledged call) ∧ m = documents.length
  /-- A load that succeeds has submitted each document once. -/
  flatten_started : ∀ m, l.result? documents = some (.ok m) → l.started.flatten = documents
  /-- What the load fails with is an answer. -/
  mem_answered_of_error : ∀ e, l.result? documents = some (.error e) →
    ∃ call ∈ (limits.batches documents).zipIdx, (call, .error e) ∈ l.answered
  /-- After a failure nothing is started, and the load fails with it. -/
  after_failure : ∀ e l', l.failure = some e →
    Relation.ReflTransGen (Load.Step limits.inForce.openCalls) l l' →
      l'.started = l.started ∧ l'.result? documents = some (.error e)
  /-- A load that has not come to its end can go on. -/
  exists_step : l.result? documents = none → ∃ l', Load.Step limits.inForce.openCalls l l'
  /-- Without documents no call is made. -/
  of_nil : documents = [] → l.started = [] ∧ l.result? documents = some (.ok 0)

theorem loadContract_of_reaches {limits : LoadLimits} {documents : List Document} {l : Load}
    (h : limits.Reaches documents l) : LoadContract limits documents l := by
  have hl := limits.inv_of_reaches h
  have hflat : (limits.batches documents).flatten = documents := flatten_chunks _ _
  have hsize : max limits.inForce.batchSize 1 = max limits.batchSize 1 := by
    rw [LoadLimits.inForce, Nat.max_assoc, Nat.max_self]
  refine {
    flatten_batches := hflat
    length_batch := fun b hb ↦ hsize ▸ length_of_mem_dropLast_chunks hb
    length_last := fun b hb ↦ hsize ▸ length_of_mem_chunks (List.mem_of_getLast? hb)
    started_prefix := hl.started_prefix
    perm_started := hl.perm_started
    length_opened_le := hl.length_opened_le
    peak_le := hl.peak_le
    result?_eq_ok_iff := fun m ↦ hl.result?_eq_some_ok_iff
    flatten_started := ?_
    mem_answered_of_error := ?_
    after_failure := ?_
    exists_step := Load.exists_step limits.openCalls_pos
    of_nil := ?_ }
  · intro m hm
    obtain ⟨-, hw, ho, -⟩ := Load.result?_eq_some_ok_iff.1 hm
    rw [(hl.perm_of_done hw ho).1, hflat]
  · intro e he
    obtain ⟨a, ha, hae⟩ := Load.exists_mem_answered_of_failure (Load.failure_of_result? he)
    exact ⟨a.1, hl.mem_zipIdx_of_mem_answered ha, hae ▸ ha⟩
  · intro e l' hf hsteps
    obtain ⟨hstarted, hf'⟩ := Load.started_of_failure hf hsteps
    exact ⟨hstarted, Load.result?_of_failure hf'⟩
  · rintro rfl
    have hnil : limits.batches [] = [] := by rw [LoadLimits.batches, chunks]
    rw [hnil] at hl
    obtain ⟨hstarted, hw⟩ := List.append_eq_nil_iff.1 hl.started_append_waiting
    have hcalls := hl.perm_started
    rw [hstarted, List.zipIdx_nil, List.perm_nil, List.append_eq_nil_iff] at hcalls
    have hanswered : l.answered = [] := List.map_eq_nil_iff.1 hcalls.1
    have hf : l.failure = none := by rw [Load.failure, hanswered, List.findSome?_nil]
    exact ⟨hstarted, Load.result?_eq_some_ok_iff.2 ⟨hf, hw, hcalls.2, rfl⟩⟩

end FeedHarvest.Ingest
