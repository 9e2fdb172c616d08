import FeedHarvest.Names
import FeedHarvest.Proofs.Text.Digits
import FeedHarvest.Proofs.Text.Lower
import Mathlib.Data.List.Basic
import Mathlib.Data.String.Basic

/-!
# What names tell apart

Interfaces may be called anything, so the separators of a name may stand in its parts as well. Yet
what differs between the names of one installation is only the interface and the version, and a
version has no separator in it: it begins after the last one. The interface is what stands between
that and a beginning which all names share.

Index names are lower-cased as a whole. Their separator is a barrier to case, so each part has the
lower case that it has by itself, whatever its neighbours are.
-/

namespace FeedHarvest.Naming

/-! ## Names as joined parts -/

/-- What the names of one kind begin with. -/
def stem (n : Naming) (separator : Char) (kind : String) : List Char :=
  n.environment.toList ++ separator :: (n.space.toList ++ separator :: kind.toList)

/-- What stands for a version in a name. -/
def versionText (version : Nat) : List Char := 'v' :: Text.decimal version

theorem toList_intercalate_parts {separator : String} {c : Char} (h : separator.toList = [c])
    (n : Naming) (kind api : String) (version : Nat) :
    (separator.intercalate (n.parts kind api version)).toList
      = n.stem c kind ++ c :: (api.toList ++ c :: versionText version) := by
  have hversion : ("v" ++ toString version).toList = versionText version := by
    rw [String.toList_append, Nat.toString_eq_repr, Nat.toList_repr]
    rfl
  rw [String.toList_intercalate, h, parts]
  simp only [List.map_cons, List.map_nil, List.intercalate_cons_cons, List.intercalate_singleton,
    hversion, stem, List.append_assoc, List.cons_append, List.nil_append]

theorem not_mem_versionText {c : Char} (hc : Text.isDigit c = false) (hv : c ≠ 'v')
    (version : Nat) : c ∉ versionText version := by
  rw [versionText, List.mem_cons, not_or]
  refine ⟨hv, fun hmem ↦ ?_⟩
  rw [Text.isDigit_of_mem_decimal hmem] at hc
  cases hc

theorem versionText_inj {version version' : Nat} :
    versionText version = versionText version' ↔ version = version' := by
  rw [versionText, versionText, List.cons_inj_right, Text.decimal_inj]

/-- The last separator of a text shows where it was joined. -/
theorem append_cons_eq_iff {c : Char} {cs cs' ds ds' : List Char} (h : c ∉ ds) (h' : c ∉ ds') :
    cs ++ c :: ds = cs' ++ c :: ds' ↔ cs = cs' ∧ ds = ds' := by
  constructor
  · intro heq
    rcases List.append_eq_append_iff.1 heq with ⟨as, rfl, has⟩ | ⟨as, rfl, has⟩
    · cases as with
      | nil => exact ⟨(List.append_nil cs).symm, (List.cons.inj has).2⟩
      | cons a as =>
        rw [List.cons_append, List.cons.injEq] at has
        exact absurd (has.2 ▸ List.mem_append_right as List.mem_cons_self) h
    · cases as with
      | nil => exact ⟨List.append_nil cs', (List.cons.inj has).2.symm⟩
      | cons a as =>
        rw [List.cons_append, List.cons.injEq] at has
        exact absurd (has.2 ▸ List.mem_append_right as List.mem_cons_self) h'
  · rintro ⟨rfl, rfl⟩
    rfl

/-! ## Names of pipelines -/

theorem pipelineId_inj {n : Naming} {api api' : String} {version version' : Nat} :
    n.pipelineId api version = n.pipelineId api' version' ↔ api = api' ∧ version = version' := by
  have hcolon (version : Nat) : ':' ∉ versionText version :=
    not_mem_versionText (by decide) (by decide) version
  rw [pipelineId, pipelineId, ← String.toList_inj, toList_intercalate_parts (c := ':') rfl,
    toList_intercalate_parts (c := ':') rfl, List.append_cancel_left_eq, List.cons_inj_right,
    append_cons_eq_iff (hcolon _) (hcolon _), String.toList_inj, versionText_inj]

theorem colon_mem_pipelineId (n : Naming) (api : String) (version : Nat) :
    ':' ∈ (n.pipelineId api version).toList := by
  rw [pipelineId, toList_intercalate_parts (c := ':') rfl]
  exact List.mem_append_right _ List.mem_cons_self

/-! ## Names of indices -/

private theorem lowerFrom_versionText (version : Nat) :
    Text.Case.lowerFrom [] (versionText version) = versionText version := by
  refine Text.Case.lowerFrom_eq_self (fun c hc ↦ ?_) []
  rcases List.mem_cons.1 hc with rfl | hc
  · exact .inr (by decide)
  · have hdigit := Text.toNat_of_isDigit (Text.isDigit_of_mem_decimal hc)
    omega

theorem toList_indexName (n : Naming) (api : String) (version : Nat) :
    (n.indexName api version).toList = Text.Case.lowerFrom [] (n.stem '-' "api_models")
      ++ '-' :: ((Text.lower api).toList ++ '-' :: versionText version) := by
  have hhyphen : Text.Case.lowerChar '-' = '-' := Text.Case.lowerChar_eq_self (by decide)
  rw [indexName, Text.lower, String.toList_ofList, toList_intercalate_parts (c := '-') rfl,
    Text.Case.isBarrier_hyphen.lowerFrom_nil, Text.Case.isBarrier_hyphen.lowerFrom_nil, hhyphen,
    lowerFrom_versionText, Text.lower, String.toList_ofList]

theorem hyphen_mem_indexName (n : Naming) (api : String) (version : Nat) :
    '-' ∈ (n.indexName api version).toList := by
  rw [toList_indexName]
  exact List.mem_append_right _ List.mem_cons_self

theorem indexName_eq_iff {n : Naming} {api api' : String} {version version' : Nat} :
    n.indexName api version = n.indexName api' version'
      ↔ Text.lower api = Text.lower api' ∧ version = version' := by
  have hhyphen (version : Nat) : '-' ∉ versionText version :=
    not_mem_versionText (by decide) (by decide) version
  rw [← String.toList_inj, toList_indexName, toList_indexName, List.append_cancel_left_eq,
    List.cons_inj_right, append_cons_eq_iff (hhyphen _) (hhyphen _), String.toList_inj,
    versionText_inj]

/-- Index names differ if the lower-cased interfaces differ in length, which shows without
lower-casing them. -/
theorem indexName_ne {n : Naming} {api api' : String} {version version' : Nat}
    (h : 'İ' ∉ api.toList) (h' : 'İ' ∉ api'.toList) (hlength : api.length ≠ api'.length) :
    n.indexName api version ≠ n.indexName api' version' := by
  rw [Ne, indexName_eq_iff]
  rintro ⟨heq, -⟩
  have hlengths := congrArg String.length heq
  rw [Text.length_lower h, Text.length_lower h'] at hlengths
  exact hlength hlengths

/-! ## Sources by their names -/

end FeedHarvest.Naming
