import FeedHarvest.Proofs.Http.Address
import FeedHarvest.Proofs.Names
import FeedHarvest.Search.Client

/-!
# What calls send

A call is sent below the server's own path. The names of indices and pipelines stand in the parts of
that path and in the query, written so that the server reads them there. A path leaves out parts
that are only points; no name of a source is one, as all have their separators in them.
-/

namespace FeedHarvest.Search

open Http (PathSays QuerySays isNameMark)

/-! ## Names in paths and queries -/

section Names

variable {marks : List Char} {b : UInt8} {c : Char} {s t : String}

/-- What a byte of a name is written as. -/
private def byteText (marks : List Char) (b : UInt8) : List Char :=
  if b < 0x80 && ((Char.ofNat b.toNat).isAlphanum || marks.contains (Char.ofNat b.toNat)) then
    [Char.ofNat b.toNat]
  else Http.percentByte b

private theorem percentEncodeBut_eq (marks : List Char) (s : String) :
    percentEncodeBut marks s = (Text.Utf8.encode s).flatMap (byteText marks) := rfl

/-- A byte is written as its own character, which is no sign, or behind a percent sign. -/
private theorem byteText_cases (hm : marks.all ("*,-._".toList.contains ·) = true) (b : UInt8) :
    (∃ c, byteText marks b = [c] ∧ UInt8.ofNat c.toNat = b ∧ isNameMark c = true ∧ c ≠ '+' ∧
      b ≠ 0x25) ∨ byteText marks b = Http.percentByte b := by
  rw [byteText]
  split
  · next h =>
    obtain ⟨hb, hc⟩ := Bool.and_eq_true_iff.1 h
    have hlt : b.toNat < 0x80 := UInt8.lt_iff_toNat_lt.1 (of_decide_eq_true hb)
    have hchar : (Char.ofNat b.toNat).toNat = b.toNat := by
      rw [Char.ofNat, dif_pos (.inl (by omega))]
      rfl
    have hplain : isNameMark (Char.ofNat b.toNat) = true ∧ Char.ofNat b.toNat ≠ '+' ∧
        Char.ofNat b.toNat ≠ '%' := by
      generalize Char.ofNat b.toNat = c at hc
      rw [Bool.or_eq_true] at hc
      rcases hc with hc | hc
      · refine ⟨by rw [isNameMark, hc, Bool.true_or], ?_, ?_⟩
        · rintro rfl
          exact absurd hc (by decide)
        · rintro rfl
          exact absurd hc (by decide)
      · have hmarks : "*,-._".toList.all (fun c ↦ isNameMark c && (c != '+' && c != '%')) = true :=
          by decide
        have hmark := List.all_eq_true.1 hm c (List.contains_iff_mem.1 hc)
        have hcs := List.all_eq_true.1 hmarks c (List.contains_iff_mem.1 hmark)
        simpa using hcs
    refine .inl ⟨_, rfl, by rw [hchar, UInt8.ofNat_toNat], hplain.1, hplain.2.1, ?_⟩
    rintro rfl
    exact hplain.2.2 rfl
  · exact .inr rfl

theorem isNameMark_of_mem_percentEncodeBut (hm : marks.all ("*,-._".toList.contains ·) = true)
    (h : c ∈ percentEncodeBut marks s) : isNameMark c = true ∧ c ≠ '+' := by
  rw [percentEncodeBut_eq] at h
  obtain ⟨b, -, hc⟩ := List.mem_flatMap.1 h
  rcases byteText_cases hm b with ⟨d, hd, -, hmark, hplus, -⟩ | hb
  · rw [hd, List.mem_singleton] at hc
    exact hc ▸ ⟨hmark, hplus⟩
  · rw [hb] at hc
    exact Http.isNameMark_of_mem_percentByte hc

theorem percentDecode_percentEncodeBut (hm : marks.all ("*,-._".toList.contains ·) = true)
    (s : String) (rest : List UInt8) :
    Http.percentDecode ((percentEncodeBut marks s).map (fun c ↦ UInt8.ofNat c.toNat) ++ rest)
      = Text.Utf8.encode s ++ Http.percentDecode rest := by
  rw [percentEncodeBut_eq]
  induction Text.Utf8.encode s with
  | nil => rfl
  | cons b bytes ih =>
    rw [List.flatMap_cons, List.map_append, List.append_assoc, List.cons_append, ← ih]
    rcases byteText_cases hm b with ⟨c, hc, hbyte, -, -, hpercent⟩ | hb
    · rw [hc, List.map_singleton, hbyte, List.singleton_append, Http.percentDecode_cons hpercent]
    · rw [hb, Http.percentDecode_percentByte]

theorem pathSays_pathPart (s : String) : PathSays (String.ofList (pathPart s)) s := by
  have hmarks : ['_', '-', '.', ',', '*'].all ("*,-._".toList.contains ·) = true := by decide
  have hmark : ∀ c ∈ pathPart s, isNameMark c = true := fun c hc ↦
    (isNameMark_of_mem_percentEncodeBut hmarks hc).1
  refine ⟨?_, by rwa [String.toList_ofList]⟩
  have hread := percentDecode_percentEncodeBut hmarks s []
  rw [List.append_nil] at hread
  rw [Text.Utf8.encode_ofList_of_ascii fun c hc ↦ Http.toNat_lt_of_isNameMark (hmark c hc),
    pathPart, hread, Http.percentDecode, List.append_nil]

private theorem byte_ne_of_ne_plus (hmark : isNameMark c = true) (hplus : c ≠ '+') :
    UInt8.ofNat c.toNat ≠ 0x2B := by
  intro h
  have hlt := Http.toNat_lt_of_isNameMark hmark
  have hvalue := congrArg UInt8.toNat h
  rw [Text.Utf8.toNat_ofNat_of_lt (by omega)] at hvalue
  exact hplus (Char.toNat_inj.1 hvalue)

/-- A value of a query is read with its plus signs as spaces. -/
theorem querySays_queryValue (s : String) : QuerySays (String.ofList (queryValue s)) s := by
  have hmarks : ['_', '-', '.', '*'].all ("*,-._".toList.contains ·) = true := by decide
  have hmark : ∀ c ∈ queryValue s, isNameMark c = true := by
    intro c hc
    obtain ⟨d, -, hd⟩ := List.mem_flatMap.1 hc
    split at hd
    · rw [List.mem_singleton.1 hd]
      decide
    · exact (isNameMark_of_mem_percentEncodeBut hmarks hd).1
  refine ⟨?_, by rwa [String.toList_ofList]⟩
  rw [Text.Utf8.encode_ofList_of_ascii fun c hc ↦ Http.toNat_lt_of_isNameMark (hmark c hc),
    queryValue, Text.Utf8.encode_eq]
  induction s.toList with
  | nil => rw [List.flatMap_nil, List.map_nil, List.map_nil, Http.percentDecode, List.flatMap_nil]
  | cons c cs ih =>
    rw [List.flatMap_cons, List.map_append, List.map_append, List.flatMap_cons, ← ih]
    split
    · next hc =>
      obtain rfl : c = ' ' := by simpa using hc
      exact Http.percentDecode_cons (by decide) _
    · have hkept : ((percentEncodeBut ['_', '-', '.', '*'] c.toString).map fun c ↦
          UInt8.ofNat c.toNat).map (fun b ↦ if b = 0x2B then 0x20 else b)
            = (percentEncodeBut ['_', '-', '.', '*'] c.toString).map
                fun c ↦ UInt8.ofNat c.toNat := by
        rw [List.map_map]
        refine List.map_congr_left fun d hd ↦ if_neg ?_
        obtain ⟨hd, hplus⟩ := isNameMark_of_mem_percentEncodeBut hmarks hd
        exact byte_ne_of_ne_plus hd hplus
      have hchar : Text.Utf8.encode c.toString = String.utf8EncodeChar c := by
        rw [Text.Utf8.encode_eq, Char.toString_eq_singleton, String.toList_singleton,
          List.flatMap_singleton]
      rw [hkept, percentDecode_percentEncodeBut hmarks, hchar]

theorem pathPart_injective : Function.Injective pathPart := fun s t h ↦
  (pathSays_pathPart s).unique (h ▸ pathSays_pathPart t)

/-- A name that is not made of points is no part that a path leaves out. -/
theorem pathPart_ne_points (h : ∃ c ∈ s.toList, c ≠ '.') :
    pathPart s ≠ ['.'] ∧ pathPart s ≠ ['.', '.'] := by
  obtain ⟨c, hc, hne⟩ := h
  have hpoint : pathPart "." = ['.'] := by decide
  have hpoints : pathPart ".." = ['.', '.'] := by decide
  refine ⟨fun heq ↦ ?_, fun heq ↦ ?_⟩
  · rw [pathPart_injective (heq.trans hpoint.symm)] at hc
    exact hne (List.mem_singleton.1 hc)
  · rw [pathPart_injective (heq.trans hpoints.symm)] at hc
    simp at hc
    exact hne hc

end Names

/-! ## Requests -/

namespace Client

/-- A request below the server's own path. -/
def ask (client : Client) (method path body : String) : Http.Request :=
  ⟨client.server.site, method, client.server.path ++ path, body⟩

section Targets

variable {index id : String} (client : Client) (method query body : String)

/-- Parts that are no points all stand in the path. -/
private theorem request_eq_ask {parts : List (List Char)}
    (h : ∀ part ∈ parts, part ≠ ['.'] ∧ part ≠ ['.', '.']) :
    client.request method parts query body
      = client.ask method (String.ofList (parts.flatMap ('/' :: ·)) ++ query) body := by
  rw [request, pathOf, Http.withoutPoints_eq_self h, String.append_assoc, ask]

private theorem request_index (h : ∃ c ∈ index.toList, c ≠ '.') :
    client.request method [pathPart index] query body
      = client.ask method ("/" ++ String.ofList (pathPart index) ++ query) body := by
  rw [request_eq_ask]
  · simp
  · exact List.forall_mem_singleton.2 (pathPart_ne_points h)

private theorem request_action (h : ∃ c ∈ index.toList, c ≠ '.') {action : String}
    (haction : action.toList ≠ ['.'] ∧ action.toList ≠ ['.', '.']) :
    client.request method [pathPart index, action.toList] query body = client.ask method
      ("/" ++ String.ofList (pathPart index) ++ ("/" ++ action ++ query)) body := by
  rw [request_eq_ask]
  · simp [String.append_assoc]
  · exact List.forall_mem_cons.2 ⟨pathPart_ne_points h, List.forall_mem_singleton.2 haction⟩

private theorem request_pipelinePath (h : ∃ c ∈ id.toList, c ≠ '.') :
    client.request method (pipelinePath id) query body
      = client.ask method ("/_ingest/pipeline/" ++ String.ofList (pathPart id) ++ query) body := by
  rw [request_eq_ask]
  · refine congrArg (client.ask method · body) (String.toList_inj.1 ?_)
    simp [pipelinePath]
  · exact List.forall_mem_cons.2 ⟨by decide, List.forall_mem_cons.2 ⟨by decide,
      List.forall_mem_singleton.2 (pathPart_ne_points h)⟩⟩

end Targets

section Calls

variable {index id : String} (client : Client)

theorem request?_deleteIndex (h : ∃ c ∈ index.toList, c ≠ '.') :
    client.request? (.deleteIndex index)
      = some (client.ask "DELETE" ("/" ++ String.ofList (pathPart index)) "") := by
  rw [request?, request_index _ _ _ _ h, String.append_empty]

theorem request?_createIndex (h : ∃ c ∈ index.toList, c ≠ '.') :
    client.request? (.createIndex index)
      = some (client.ask "PUT" ("/" ++ String.ofList (pathPart index))
          (indexSettings client.replicas).compact) := by
  rw [request?, request_index _ _ _ _ h, String.append_empty]

theorem request?_deletePipeline (h : ∃ c ∈ id.toList, c ≠ '.') :
    client.request? (.deletePipeline id)
      = some (client.ask "DELETE" ("/_ingest/pipeline/" ++ String.ofList (pathPart id)) "") := by
  rw [request?, request_pipelinePath _ _ _ _ h, String.append_empty]

theorem request?_putPipeline (h : ∃ c ∈ id.toList, c ≠ '.') (pipeline : Pipeline) :
    client.request? (.putPipeline id pipeline)
      = some (client.ask "PUT" ("/_ingest/pipeline/" ++ String.ofList (pathPart id))
          pipeline.toJson.compact) := by
  rw [request?, request_pipelinePath _ _ _ _ h, String.append_empty]

theorem request?_bulkIndex (h : ∃ c ∈ index.toList, c ≠ '.') (id : String)
    {documents : List Document} (hne : documents ≠ []) :
    client.request? (.bulkIndex index id documents)
      = some (client.ask "POST" ("/" ++ String.ofList (pathPart index) ++ "/_bulk?pipeline=" ++
          String.ofList (queryValue id)) (bulkBody documents)) := by
  have hpath : "/" ++ "_bulk" ++ ("?pipeline=" ++ String.ofList (queryValue id))
      = "/_bulk?pipeline=" ++ String.ofList (queryValue id) := by
    rw [← String.append_assoc]
    rfl
  rw [request?, List.isEmpty_eq_false_iff.2 hne, if_neg Bool.false_ne_true,
    request_action _ _ _ _ h (by decide), hpath, ← String.append_assoc]

theorem request?_deleteOlderThan (h : ∃ c ∈ index.toList, c ≠ '.') (field : String)
    (cutoff : Time.Instant) :
    client.request? (.deleteOlderThan index field cutoff)
      = some (client.ask "POST" ("/" ++ String.ofList (pathPart index) ++
          "/_delete_by_query?conflicts=proceed") (olderThan field cutoff).compact) := by
  rw [request?, request_action _ _ _ _ h (by decide)]
  rfl

theorem request?_refreshIndex (h : ∃ c ∈ index.toList, c ≠ '.') :
    client.request? (.refreshIndex index)
      = some (client.ask "POST" ("/" ++ String.ofList (pathPart index) ++ "/_refresh") "") := by
  rw [request?, request_action _ _ _ _ h (by decide)]
  rfl

end Calls

end Client

end FeedHarvest.Search
