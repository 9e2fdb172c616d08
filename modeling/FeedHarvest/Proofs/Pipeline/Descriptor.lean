import FeedHarvest.Pipeline.Basic
import FeedHarvest.Proofs.Json.Alike
import FeedHarvest.Proofs.Pipeline.Script

/-!
# What a descriptor tells about its step

The engine knows a step by its descriptor alone, so whatever a descriptor does not tell is lost. One
thing is meant to be: dropping leading characters is described as the replacement it amounts to, and
a step that was written as that replacement has the same descriptor. Nothing else is.

Descriptors are compared as they are written and by what they say, where the order of members does
not count. Either way the kinds of two steps are equal when their descriptors are, and the kind says
which parameters there are; so one argument serves both, for any `Json.IsComparison`.
-/

namespace FeedHarvest.Pipeline

open Json (IsComparison)
open Json.Members (keys)

namespace Step

/-! ## Steps up to what is meant to be lost -/

/-- The step with every offset said by the pattern of that many leading characters, also inside
wrappers. -/
def withPatterns : Step → Step
  | substringFrom f n m => gsub f (leadingPattern n) "" m
  | foreach f s => foreach f s.withPatterns
  | s => s

/-- Whether two steps are equal, with their constants compared in a given way. -/
def Same (same : Json → Json → Prop) : Step → Step → Prop
  | setConstant f v, setConstant g w => f = g ∧ same v w
  | foreach f s, foreach g t => f = g ∧ s.Same same t
  | s, t => s = t

theorem same_eq_iff {s t : Step} : s.Same (· = ·) t ↔ s = t := by
  induction s generalizing t with
  | setConstant f v => cases t <;> simp [Same]
  | foreach f s ih => cases t <;> simp [Same, ih]
  | _ => simp [Same]

/-! ## Kinds and parameters -/

/-- What the engine is told under the kind of a step. -/
def parameters : Step → Json.Members
  | rename f t | copy f t => [("field", .string f), ("target_field", .string t)]
  | setConstant f v => [("field", .string f), ("value", v)]
  | lowercase f m | uppercase f m => [("field", .string f), ("ignore_missing", .bool m)]
  | gsub f p r m =>
    [("field", .string f), ("pattern", .string p), ("replacement", .string r),
      ("ignore_missing", .bool m)]
  | substringFrom f n m =>
    [("field", .string f), ("pattern", .string (leadingPattern n)), ("replacement", .string ""),
      ("ignore_missing", .bool m)]
  | split f s m => [("field", .string f), ("separator", .string s), ("ignore_missing", .bool m)]
  | reformatDate f t formats i =>
    [("field", .string f), ("target_field", .string t),
      ("formats", .array (formats.map .string)), ("ignore_failure", .bool i)]
  | lookup f t u p v m =>
    [("field", .string f), ("target_field", .string t), ("json_path", .string p),
      ("url_prefix", .string u), ("multi_value", .bool v), ("ignore_missing", .bool m)]
  | foreach f s =>
    [("field", .string f), ("processor", s.toJson), ("ignore_failure", .bool true)]
  | coalesce f => [("source", .string (coalesceScript f))]

/-- The names of the parameters of a kind. -/
def parameterNames (kind : String) : List String :=
  if kind = "rename" ∨ kind = "trim" then ["field", "target_field"]
  else if kind = "set" then ["field", "value"]
  else if kind = "lowercase" ∨ kind = "uppercase" then ["field", "ignore_missing"]
  else if kind = "gsub" then ["field", "pattern", "replacement", "ignore_missing"]
  else if kind = "split" then ["field", "separator", "ignore_missing"]
  else if kind = "date" then ["field", "target_field", "formats", "ignore_failure"]
  else if kind = "json_api" then
    ["field", "target_field", "json_path", "url_prefix", "multi_value", "ignore_missing"]
  else if kind = "foreach" then ["field", "processor", "ignore_failure"]
  else ["source"]

theorem toJson_eq (s : Step) : s.toJson = .object [(s.kind, .object s.parameters)] := by
  cases s <;> rfl

theorem keys_parameters (s : Step) : keys s.parameters = parameterNames s.kind := by
  cases s <;> rfl

private theorem nodup_keys_parameters (s : Step) : (keys s.parameters).Nodup := by
  cases s <;> simp [parameters]

section Comparison

variable {same : Json → Json → Prop} {s t : Step}

theorem same_toJson_iff_parameters (h : IsComparison same) :
    same s.toJson t.toJson ↔
      s.kind = t.kind ∧ List.Forall₂ (fun m n ↦ same m.2 n.2) s.parameters t.parameters := by
  rw [toJson_eq, toJson_eq, h.single_iff]
  refine and_congr_right fun hkind ↦ h.object_iff _ _ ?_ s.nodup_keys_parameters
  rw [keys_parameters, keys_parameters, hkind]

private theorem same_strings_iff (h : IsComparison same) {ss ts : List String} :
    same (.array (ss.map .string)) (.array (ts.map .string)) ↔ ss = ts := by
  rw [h.array_iff, List.forall₂_map_left_iff, List.forall₂_map_right_iff]
  simp only [h.string_iff, List.forall₂_eq_eq_eq]

theorem same_toJson_iff (h : IsComparison same) :
    same s.toJson t.toJson ↔ s.withPatterns.Same same t.withPatterns := by
  -- kinds leave only steps of one constructor, and replacements beside offsets
  induction s generalizing t with
  | foreach f s ih =>
    rw [same_toJson_iff_parameters h]
    cases t <;> simp [kind, parameters, withPatterns, Same, h.string_iff, h.bool_iff, ih]
  | lookup f g u p v m =>
    -- the prefix of the address and the path stand the other way round
    rw [same_toJson_iff_parameters h]
    cases t <;> simp [kind, parameters, withPatterns, Same, h.string_iff, h.bool_iff,
      and_left_comm]
  | _ =>
    rw [same_toJson_iff_parameters h]
    cases t <;> simp [kind, parameters, withPatterns, Same, h.string_iff, h.bool_iff,
      same_strings_iff h, coalesceScript_injective.eq_iff]

end Comparison

end Step

theorem same_toJson_iff {same : Json → Json → Prop} (h : IsComparison same) {p q : Pipeline} :
    same p.toJson q.toJson ↔ p.description = q.description ∧
      List.Forall₂ (fun s t ↦ s.withPatterns.Same same t.withPatterns) p.steps q.steps := by
  have hmembers := h.object_iff
    [("description", .string p.description), ("processors", .array (p.steps.map Step.toJson))]
    [("description", .string q.description), ("processors", .array (q.steps.map Step.toJson))]
    rfl (by simp)
  rw [toJson, toJson, hmembers]
  simp [h.string_iff, h.array_iff, Step.same_toJson_iff h]

/-- **A descriptor tells all about its step but how an offset was written.** Two steps, wrapped in
any way, have equal descriptors exactly when they are equal once every offset is said by its
pattern; and their descriptors differ at most in the order of members and the sign of zeros exactly
when the steps then differ at most so in a constant. The descriptors of pipelines tell their
descriptions besides, and their steps one by one. -/
theorem descriptors_tell_steps_apart :
    (∀ s t : Step, s.toJson = t.toJson ↔ s.withPatterns = t.withPatterns) ∧
    (∀ s t : Step, s.toJson.Alike t.toJson ↔ s.withPatterns.Same Json.Alike t.withPatterns) ∧
    (∀ p q : Pipeline, p.toJson = q.toJson ↔ p.description = q.description ∧
      List.Forall₂ (fun s t ↦ s.withPatterns = t.withPatterns) p.steps q.steps) ∧
    ∀ p q : Pipeline, p.toJson.Alike q.toJson ↔ p.description = q.description ∧
      List.Forall₂ (fun s t ↦ s.withPatterns.Same Json.Alike t.withPatterns) p.steps q.steps := by
  refine ⟨fun s t ↦ ?_, fun s t ↦ Step.same_toJson_iff Json.isComparison_alike, fun p q ↦ ?_,
    fun p q ↦ same_toJson_iff Json.isComparison_alike⟩
  · exact (Step.same_toJson_iff Json.isComparison_eq).trans Step.same_eq_iff
  · refine (same_toJson_iff Json.isComparison_eq).trans (and_congr_right fun _ ↦ ?_)
    simp only [Step.same_eq_iff]

/-- A wrapped offset has the descriptor of the replacement that it amounts to, and of no other
offset. -/
example :
    (Step.foreach "tags" (.substringFrom elementField 2 true)).toJson
        = (Step.foreach "tags" (.gsub elementField "^.\x7b2\x7d" "" true)).toJson ∧
      (Step.substringFrom "code" 2 true).toJson ≠ (Step.substringFrom "code" 12 true).toJson := by
  decide

end FeedHarvest.Pipeline
