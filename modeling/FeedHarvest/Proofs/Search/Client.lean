import FeedHarvest.Proofs.Json.Value
import FeedHarvest.Proofs.Text.Utf8
import FeedHarvest.Search.Client

/-!
# What a client trusts

An engine behind a network is as good as the responses to its requests. A response is trusted if it
says that the call was done, and that is more than its status: the engine answers stored documents
with success even if it refused some of them, and only the body tells. Of a response that is not
trusted the error says what was wrong with it.

Both are stated here of responses alone. The bridge to the client is one equivalence for each: a
call fails exactly when its response is not trusted, so a run of calls goes on exactly as long as
the responses are.
-/

namespace FeedHarvest

namespace Json

/-- The value at the end of a path of member names. -/
def at? (v : Json) (path : List String) : Option Json := path.foldlM get? v

theorem at?_nil (v : Json) : v.at? [] = some v := rfl

theorem at?_cons (v : Json) (key : String) (path : List String) :
    v.at? (key :: path) = (v.get? key).bind (·.at? path) := List.foldlM_cons

/-- A missing value is like a null: neither has members. -/
theorem get?_getD_null (v? : Option Json) (key : String) :
    (v?.getD .null).get? key = v?.bind (·.get? key) := by
  cases v? with
  | none => rfl
  | some v => rfl

end Json

/-- Whether the status is one that means success. -/
def Http.Response.Succeeds (r : Http.Response) : Prop := 200 ≤ r.status ∧ r.status < 300

namespace Search

/-! ## Responses -/

/-- Whether a response to a call says that the call was done. -/
structure Call.Trusts (c : Call) (r : Http.Response) : Prop where
  /-- What is to be deleted may be missing already. -/
  status : r.Succeeds ∨
    r.status = 404 ∧ ((∃ index, c = .deleteIndex index) ∨ ∃ id, c = .deletePipeline id)
  stored : ∀ index id documents, c = .bulkIndex index id documents →
    ∃ v, jsonOf? r = some v ∧ v.get? "errors" ≠ some (.bool true)
  deleted : ∀ index field cutoff, c = .deleteOlderThan index field cutoff →
    ∃ v, jsonOf? r = some v

/-- Whether an item of a response speaks of an error. -/
def hasError (item : Json) : Bool := (item.at? ["index", "error"]).any (· ≠ .null)

/-- The items of a response that speak of errors, in order. -/
def failedItems (v : Json) : List Json :=
  (((v.get? "items").bind Json.asArray?).getD []).filter hasError

/-- The words for an item that speaks of an error. -/
def itemWords (item : Json) : String :=
  ((item.at? ["index", "_id"]).bind Json.asString?).getD "?" ++ ": " ++
    ((item.at? ["index", "error", "reason"]).bind Json.asString?).getD "unknown reason"

/-- The kind of error that is a call's own, and the words that its message begins with. -/
inductive Call.FailsAs : Call → ErrorKind → String → Prop
  | deleteIndex (index : String) :
    FailsAs (.deleteIndex index) .indexDeletion "Index deletion error"
  | deletePipeline (id : String) : FailsAs (.deletePipeline id) .pipeline "Pipeline error"
  | putPipeline (id : String) (pipeline : Pipeline) :
    FailsAs (.putPipeline id pipeline) .pipeline "Pipeline error"
  | createIndex (index : String) :
    FailsAs (.createIndex index) .indexCreation "Index creation error"
  | bulkIndex (index id : String) (documents : List Document) :
    FailsAs (.bulkIndex index id documents) .bulkIndexing "Bulk index error"
  | deleteOlderThan (index field : String) (cutoff : Time.Instant) :
    FailsAs (.deleteOlderThan index field cutoff) .pruning "Delete by query error"
  | refreshIndex (index : String) : FailsAs (.refreshIndex index) .refresh "Refresh error"

/-- Whether an error says of a call what was wrong with its response, or that there was none. -/
structure Call.Faults (c : Call) (response? : Option Http.Response) (e : Error) : Prop where
  kind_of_unreadable : ∀ r ∈ response?, r.Succeeds → jsonOf? r = none → e.kind = .answer
  exists_failsAs : (∀ r ∈ response?, r.Succeeds → jsonOf? r ≠ none) →
    ∃ label, c.FailsAs e.kind label
  message_of_status : ∀ r ∈ response?, ¬ r.Succeeds → ∃ label, c.FailsAs e.kind label ∧
    e.message = label ++ ": Request failed with status " ++ Http.statusText r.status ++ ": " ++
      r.text?.getD ""
  message_of_refused : ∀ index id documents, c = .bulkIndex index id documents →
    ∀ r ∈ response?, r.Succeeds → ∀ v, jsonOf? r = some v → v.get? "errors" = some (.bool true) →
      e.message = "Bulk index error: " ++ toString (failedItems v).length ++ " item(s) failed: " ++
        "; ".intercalate (((failedItems v).take 5).map itemWords)

variable {c : Call} {r : Http.Response}

theorem isSuccess_iff : Http.isSuccess r.status = true ↔ r.Succeeds := by
  simp [Http.isSuccess, Http.Response.Succeeds]

theorem accepts_iff :
    c.accepts r.status = true ↔ r.Succeeds ∨
      r.status = 404 ∧ ((∃ index, c = .deleteIndex index) ∨ ∃ id, c = .deletePipeline id) := by
  rw [Call.accepts, Bool.or_eq_true, isSuccess_iff]
  cases c <;> simp [Call.mayMiss]

theorem jsonOf?_written {v : Json} (hv : v.IsPlain) (hn : v.nesting ≤ Json.maxDepth)
    (status : Nat) : jsonOf? ⟨status, some (Text.Utf8.encode v.compact), none⟩ = some v := by
  simp only [jsonOf?, bind, Option.bind_some, Text.Utf8.decode?_encode, Json.parse?_compact hv hn]

/-! ## Refusals -/

/-- An item is refused if it speaks of an error, and then in these words. -/
theorem refusalOf?_eq (item : Json) :
    (refusalOf? item).map (fun i ↦ i.id ++ ": " ++ i.reason)
      = if hasError item then some (itemWords item) else none := by
  simp only [refusalOf?, hasError, itemWords, Json.get?_getD_null, Json.at?_cons, Json.at?_nil,
    Option.bind_fun_some, ← Option.bind_assoc]
  cases (item.get? "index").bind (·.get? "error") with
  | none => rfl
  | some e => cases e <;> rfl

private theorem map_filterMap_refusalOf? (items : List Json) :
    (items.filterMap refusalOf?).map (fun i ↦ i.id ++ ": " ++ i.reason)
      = (items.filter hasError).map itemWords := by
  induction items with
  | nil => rfl
  | cons item items ih =>
    have hitem := refusalOf?_eq item
    cases he : hasError item with
    | true =>
      rw [he, if_pos rfl, Option.map_eq_some_iff] at hitem
      obtain ⟨refusal, hr, hwords⟩ := hitem
      rw [List.filterMap_cons_some hr, List.filter_cons_of_pos he, List.map_cons, List.map_cons,
        ih, hwords]
    | false =>
      rw [he, if_neg Bool.false_ne_true, Option.map_eq_none_iff] at hitem
      rw [List.filterMap_cons_none hitem, List.filter_cons_of_neg (by rw [he]; simp), ih]

theorem speaksOfErrors_iff {v : Json} :
    ((v.get? "errors").bind Json.asBool? == some true) = true
      ↔ v.get? "errors" = some (.bool true) := by
  rw [beq_iff_eq, Option.bind_eq_some_iff]
  constructor
  · rintro ⟨e, he, hb⟩
    cases e <;> cases hb
    exact he
  · intro h
    exact ⟨_, h, rfl⟩

theorem refusals?_of_errors {v : Json} (h : v.get? "errors" = some (.bool true)) :
    ∃ refusals, refusals? v = some refusals ∧
      Error.message ⟨.bulkIndexing, .refused refusals⟩
        = "Bulk index error: " ++ toString (failedItems v).length ++ " item(s) failed: " ++
          "; ".intercalate (((failedItems v).take 5).map itemWords) := by
  refine ⟨_, if_pos (speaksOfErrors_iff.2 h), ?_⟩
  have hwords := map_filterMap_refusalOf? (((v.get? "items").bind Json.asArray?).getD [])
  have hlength := congrArg List.length hwords
  rw [List.length_map, List.length_map] at hlength
  simp only [Error.message, Cause.text?, ErrorKind.label, quotedRefusals, List.map_take, hwords,
    hlength]
  simp only [failedItems, String.append_assoc]
  rfl

private theorem refusals?_of_no_errors {v : Json} (h : v.get? "errors" ≠ some (.bool true)) :
    refusals? v = none := if_neg (mt speaksOfErrors_iff.1 h)

/-! ## Answers -/

theorem exists_readBody_bulkIndex_eq_ok_iff {index id : String} {documents : List Document} :
    (∃ n, Call.readBody (.bulkIndex index id documents) r = .ok n) ↔
      ∃ v, jsonOf? r = some v ∧ v.get? "errors" ≠ some (.bool true) := by
  cases hv : jsonOf? r with
  | none => simp [Call.readBody, hv]
  | some v =>
    by_cases h : v.get? "errors" = some (.bool true)
    · obtain ⟨refusals, hr, -⟩ := refusals?_of_errors h
      simp [Call.readBody, hv, hr, h]
    · simp [Call.readBody, hv, refusals?_of_no_errors h, h]

theorem exists_readBody_deleteOlderThan_eq_ok_iff {index field : String} {cutoff : Time.Instant} :
    (∃ n, Call.readBody (.deleteOlderThan index field cutoff) r = .ok n) ↔
      ∃ v, jsonOf? r = some v := by
  cases hv : jsonOf? r <;> simp [Call.readBody, hv]

theorem exists_answer_eq_ok_iff : (∃ n, c.answer (some r) = .ok n) ↔ c.Trusts r := by
  rw [Call.answer]
  by_cases ha : c.accepts r.status = true
  · rw [if_pos ha]
    rw [accepts_iff] at ha
    constructor
    · intro h
      refine ⟨ha, ?_, ?_⟩
      · rintro index id documents rfl
        exact exists_readBody_bulkIndex_eq_ok_iff.1 h
      · rintro index field cutoff rfl
        exact exists_readBody_deleteOlderThan_eq_ok_iff.1 h
    · intro h
      cases c with
      | bulkIndex index id documents =>
        exact exists_readBody_bulkIndex_eq_ok_iff.2 (h.stored index id documents rfl)
      | deleteOlderThan index field cutoff =>
        exact exists_readBody_deleteOlderThan_eq_ok_iff.2 (h.deleted index field cutoff rfl)
      | deleteIndex | deletePipeline | putPipeline | createIndex | refreshIndex => exact ⟨0, rfl⟩
  · rw [if_neg ha]
    -- a status that is not accepted is an error before the body is looked at
    refine iff_of_false ?_ fun h ↦ ha (accepts_iff.2 h.status)
    rintro ⟨n, hn⟩
    cases hn

theorem exists_answer_eq_error {response? : Option Http.Response}
    (h : ∀ r, response? = some r → ¬ c.Trusts r) : ∃ e, c.answer response? = .error e := by
  cases ha : c.answer response? with
  | error e => exact ⟨e, rfl⟩
  | ok n =>
    cases response? with
    | none => cases ha
    | some r => exact absurd (exists_answer_eq_ok_iff.1 ⟨n, ha⟩) (h r rfl)

/-- A body is at fault if it is no JSON, or speaks of errors in stored documents. -/
theorem fault_of_readBody {e : Error} (h : c.readBody r = .error e) :
    c.mayMiss = false ∧ (jsonOf? r = none ∧ e = ⟨.answer, .unspoken⟩ ∨
      ∃ v refusals, jsonOf? r = some v ∧ refusals? v = some refusals ∧
        c.errorKind = .bulkIndexing ∧ e = ⟨.bulkIndexing, .refused refusals⟩) := by
  cases c with
  | bulkIndex index id documents =>
    refine ⟨rfl, ?_⟩
    cases hv : jsonOf? r with
    | none =>
      simp only [Call.readBody, hv, Except.error.injEq] at h
      exact .inl ⟨rfl, h.symm⟩
    | some v =>
      cases hr : refusals? v with
      | none => simp [Call.readBody, hv, hr] at h
      | some refusals =>
        simp only [Call.readBody, hv, hr, Except.error.injEq] at h
        exact .inr ⟨v, refusals, rfl, hr, rfl, h.symm⟩
  | deleteOlderThan index field cutoff =>
    refine ⟨rfl, .inl ?_⟩
    cases hv : jsonOf? r with
    | none =>
      simp only [Call.readBody, hv, Except.error.injEq] at h
      exact ⟨rfl, h.symm⟩
    | some v => simp [Call.readBody, hv] at h
  | deleteIndex | deletePipeline | putPipeline | createIndex | refreshIndex => cases h

theorem failsAs_errorKind (c : Call) : c.FailsAs c.errorKind c.errorKind.label := by
  cases c <;> constructor

/-- A call has one error kind of its own, and its errors begin with one label. -/
theorem Call.FailsAs.unique {kind : ErrorKind} {label : String} (h : c.FailsAs kind label) :
    kind = c.errorKind ∧ label = c.errorKind.label := by
  cases h <;> exact ⟨rfl, rfl⟩

private theorem faults_of_status (h : ¬ r.Succeeds) :
    c.Faults (some r) ⟨c.errorKind, .status r.status (r.text?.getD "")⟩ where
  kind_of_unreadable := by
    rintro _ ⟨⟩ hs
    exact absurd hs h
  exists_failsAs _ := ⟨_, failsAs_errorKind c⟩
  message_of_status := by
    rintro _ ⟨⟩ -
    refine ⟨_, failsAs_errorKind c, ?_⟩
    simp only [Error.message, Cause.text?, String.append_assoc]
    rfl
  message_of_refused := by
    rintro - - - - _ ⟨⟩ hs
    exact absurd hs h

private theorem faults_of_unreadable (hs : r.Succeeds) (hv : jsonOf? r = none) :
    c.Faults (some r) ⟨.answer, .unspoken⟩ where
  kind_of_unreadable _ _ _ _ := rfl
  exists_failsAs h := absurd hv (h r rfl hs)
  message_of_status := by
    rintro _ ⟨⟩ h
    exact absurd hs h
  message_of_refused := by
    rintro - - - - _ ⟨⟩ - v hv'
    cases hv.symm.trans hv'

private theorem faults_of_refused {v : Json} {refusals : List Refusal} (hs : r.Succeeds)
    (hv : jsonOf? r = some v) (hr : refusals? v = some refusals)
    (hkind : c.errorKind = .bulkIndexing) :
    c.Faults (some r) ⟨.bulkIndexing, .refused refusals⟩ where
  kind_of_unreadable := by
    rintro _ ⟨⟩ - hv'
    cases hv.symm.trans hv'
  exists_failsAs _ := hkind ▸ ⟨_, failsAs_errorKind c⟩
  message_of_status := by
    rintro _ ⟨⟩ h
    exact absurd hs h
  message_of_refused := by
    rintro - - - - _ ⟨⟩ - v' hv' herrors
    cases hv.symm.trans hv'
    obtain ⟨refusals', hr', hmessage⟩ := refusals?_of_errors herrors
    cases hr.symm.trans hr'
    exact hmessage

theorem faults_of_answer {response? : Option Http.Response} {e : Error}
    (h : c.answer response? = .error e) : c.Faults response? e := by
  cases response? with
  | none =>
    cases h
    exact ⟨nofun, fun _ ↦ ⟨_, failsAs_errorKind c⟩, nofun, nofun⟩
  | some r =>
    rw [Call.answer] at h
    by_cases ha : c.accepts r.status = true
    · rw [if_pos ha] at h
      obtain ⟨hmiss, hfault⟩ := fault_of_readBody h
      -- a call whose body is read may not miss what it is about
      have hs : r.Succeeds := by
        rwa [Call.accepts, hmiss, Bool.false_and, Bool.or_false, isSuccess_iff] at ha
      rcases hfault with ⟨hv, rfl⟩ | ⟨v, refusals, hv, hr, hkind, rfl⟩
      · exact faults_of_unreadable hs hv
      · exact faults_of_refused hs hv hr hkind
    · rw [if_neg ha] at h
      cases h
      exact faults_of_status fun hs ↦ ha (accepts_iff.2 (.inl hs))

/-! ## Runs of calls -/

/-- The response to a call after the calls `made`, where the requests `sent` came before. -/
def Client.response? (client : Client) (network : Http.Network) (sent : List Http.Request)
    (made : List Call) (c : Call) : Option Http.Response :=
  (client.request? c).bind (network (sent ++ made.filterMap client.request?))

/-- Whether the responses to calls that are made in order are all trusted. -/
def Client.Trusts (client : Client) (network : Http.Network) (sent : List Http.Request)
    (calls : List Call) : Prop :=
  ∀ made c, made ++ [c] <+: calls → ∃ r, client.response? network sent made c = some r ∧ c.Trusts r

variable {client : Client} {network : Http.Network} {sent before : List Http.Request}
  {past made : List Call}

theorem trusts_nil (client : Client) (network : Http.Network) (sent : List Http.Request) :
    client.Trusts network sent [] := by
  intro made c h
  exact absurd h (by simp)

/-- One more response is trusted, or not. -/
theorem trusts_concat_iff :
    client.Trusts network sent (made ++ [c]) ↔ client.Trusts network sent made ∧
      ∃ r, client.response? network sent made c = some r ∧ c.Trusts r := by
  constructor
  · intro h
    exact ⟨fun made' c' hfirst ↦ h made' c' (hfirst.trans (List.prefix_append _ _)),
      h made c List.prefix_rfl⟩
  · rintro ⟨hmade, hc⟩ made' c' hfirst
    rcases List.prefix_concat_iff.1 hfirst with heq | hfirst
    · obtain ⟨rfl, hlast⟩ := List.append_inj' heq rfl
      cases hlast
      exact hc
    · exact hmade made' c' hfirst

theorem engine_of_isSome_request? (hc : (client.request? c).isSome) (made : List Call) :
    client.engine network before (past ++ made) c
      = c.answer (client.response? network (before ++ past.filterMap client.request?) made c) := by
  obtain ⟨q, hq⟩ := Option.isSome_iff_exists.1 hc
  rw [Client.engine, Client.response?, hq, List.filterMap_append, List.append_assoc]
  rfl

theorem takes_engine_iff {calls : List Call} (hcalls : ∀ c ∈ calls, (client.request? c).isSome) :
    (client.engine network before).Takes past calls ↔
      client.Trusts network (before ++ past.filterMap client.request?) calls := by
  -- the requests before a call are the same whether its predecessors belong to the past or not
  refine forall_congr' fun made ↦ forall_congr' fun c ↦ forall_congr' fun hc ↦ ?_
  rw [engine_of_isSome_request? (hcalls c (hc.mem (by simp)))]
  cases client.response? network (before ++ past.filterMap client.request?) made c with
  | none => simp [Call.answer]
  | some r => simp [exists_answer_eq_ok_iff]

end Search

end FeedHarvest
