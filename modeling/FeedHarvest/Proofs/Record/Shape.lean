import FeedHarvest.Proofs.Record.Cleaning
import FeedHarvest.Proofs.Text.Words
import Mathlib.Data.List.Forall2

/-!
# What cleaning keeps of a record

Cleaning goes down through arrays and nothing else, so that is how a value is looked at here: by
paths of places, each in the array at the one before. At the end of a path a string is found
cleaned, an array as long as it was, and anything else as it was, an object with all that is in it;
and there are no new paths and none is lost. What is found at all paths tells a value from every
other, so nothing more can be said of the shape.

The strings are in the normal form of squishing whether they were read as markup or not. A text
that cannot hold markup keeps its characters but for the blanks.
-/

namespace FeedHarvest

namespace Json

def item? (v : Json) (place : Nat) : Option Json := v.asArray?.bind (·[place]?)

/-- What is found by going down through arrays, from place to place. -/
def itemAt? (v : Json) (path : List Nat) : Option Json := path.foldlM item? v

@[simp] theorem item?_array (vs : List Json) (place : Nat) :
    item? (.array vs) place = vs[place]? := rfl

@[simp] theorem itemAt?_nil (v : Json) : v.itemAt? [] = some v := rfl

@[simp] theorem itemAt?_cons (v : Json) (place : Nat) (path : List Nat) :
    v.itemAt? (place :: path) = (v.item? place).bind (·.itemAt? path) := List.foldlM_cons

end Json

/-! ## Values at paths -/

/-- What cleaning makes of a value where it stands, the items of an array left to places of their
own. -/
inductive CleanedAs : Json → Json → Prop
  | string (s : String) : CleanedAs (.string s) (.string (cleaned s))
  | array {vs ws : List Json} (h : ws.length = vs.length) : CleanedAs (.array vs) (.array ws)
  | other {v : Json} (hstring : v.asString? = none) (harray : v.asArray? = none) : CleanedAs v v

/-- Whether two values have the same paths, and at the end of each the one has what cleaning makes
of what the other has. -/
def CleanedThroughout (v w : Json) : Prop :=
  ∀ path, Option.Rel CleanedAs (v.itemAt? path) (w.itemAt? path)

section Paths

variable {v w : Json}

private theorem cleanedAs_cleanValue (v : Json) : CleanedAs v (cleanValue v) := by
  cases v with
  | string s => exact .string s
  | array vs => exact .array (by rw [cleanValues_eq_map, List.length_map])
  | null | bool | number | object => exact .other rfl rfl

private theorem item?_cleanValue (v : Json) (place : Nat) :
    (cleanValue v).item? place = (v.item? place).map cleanValue := by
  cases v with
  | array vs =>
    rw [cleanValue, cleanValues_eq_map, Json.item?_array, Json.item?_array, List.getElem?_map]
  | null | bool | number | string | object => rfl

/-- Cleaning and going down a path can be done in either order. -/
theorem itemAt?_cleanValue (v : Json) (path : List Nat) :
    (cleanValue v).itemAt? path = (v.itemAt? path).map cleanValue := by
  induction path generalizing v with
  | nil => rfl
  | cons place path ih =>
    rw [Json.itemAt?_cons, Json.itemAt?_cons, item?_cleanValue]
    cases v.item? place with
    | none => rfl
    | some item => exact ih item

private theorem cleanedThroughout_cleanValue (v : Json) : CleanedThroughout v (cleanValue v) := by
  intro path
  rw [itemAt?_cleanValue]
  cases v.itemAt? path with
  | none => exact .none
  | some item => exact .some (cleanedAs_cleanValue item)

theorem CleanedThroughout.root (h : CleanedThroughout v w) : CleanedAs v w := by
  cases h [] with
  | some hroot => exact hroot

theorem CleanedThroughout.item {vs ws : List Json}
    (h : CleanedThroughout (.array vs) (.array ws)) {place : Nat} (hv : vs[place]? = some v)
    (hw : ws[place]? = some w) : CleanedThroughout v w := by
  intro path
  have hpath := h (place :: path)
  rwa [Json.itemAt?_cons, Json.itemAt?_cons, Json.item?_array, Json.item?_array, hv, hw] at hpath

/-- What is found at all paths leaves no choice. -/
theorem CleanedThroughout.eq_cleanValue (v : Json) {w : Json} (h : CleanedThroughout v w) :
    w = cleanValue v := by
  cases v with
  | array vs =>
    cases h.root with
    | @array _ ws hlength =>
      rw [cleanValue, cleanValues_eq_map]
      refine congrArg Json.array (List.ext_getElem (by rw [hlength, List.length_map]) ?_)
      intro place hw hmap
      have hv : place < vs.length := hlength ▸ hw
      have hmem : vs[place] ∈ vs := List.getElem_mem hv
      rw [List.getElem_map]
      exact (h.item (List.getElem?_eq_getElem hv) (List.getElem?_eq_getElem hw)).eq_cleanValue
        vs[place]
    | other _ harray => cases harray
  | string s =>
    cases h.root with
    | string => rfl
    | other hstring => cases hstring
  | null | bool | number | object =>
    cases h.root with
    | other => rfl
termination_by sizeOf v
decreasing_by
  subst_vars
  have hlt := List.sizeOf_lt_of_mem hmem
  rw [Json.array.sizeOf_spec]
  omega

theorem cleanedThroughout_iff : CleanedThroughout v w ↔ w = cleanValue v :=
  ⟨fun h ↦ h.eq_cleanValue v, fun h ↦ h ▸ cleanedThroughout_cleanValue v⟩

end Paths

theorem Record.eq_cleaned_iff {r t : Record} :
    t = r.cleaned ↔ List.Forall₂ (fun m n ↦ n.1 = m.1 ∧ CleanedThroughout m.2 n.2) r t := by
  have hfield (m n : String × Json) :
      n.1 = m.1 ∧ CleanedThroughout m.2 n.2 ↔ (m.1, cleanValue m.2) = n := by
    rw [cleanedThroughout_iff, Prod.ext_iff, eq_comm, eq_comm (a := n.2)]
  calc t = r.cleaned
      ↔ r.map (fun m ↦ (m.1, cleanValue m.2)) = t := eq_comm
    _ ↔ List.Forall₂ (fun m n ↦ (m.1, cleanValue m.2) = n) r t := by
      rw [← List.forall₂_map_left_iff (R := (· = ·)), List.forall₂_eq_eq_eq]
    _ ↔ List.Forall₂ (fun m n ↦ n.1 = m.1 ∧ CleanedThroughout m.2 n.2) r t := by
      simp only [hfield]

/-! ## Strings -/

section Strings

variable {s : String}

private theorem isSquished_cleaned (s : String) : Text.IsSquished (cleaned s).toList := by
  rw [cleaned, String.toList_ofList]
  exact Text.isSquished_squish _

private theorem cleaned_of_isPlainText (h : isPlainText s.toList = true) :
    cleaned s = String.ofList (Text.squish s.toList) := by
  rw [cleaned, cleanText, if_pos h]

end Strings

/-- **Cleaning keeps the shape of a record and cleans the strings that arrays lead to.** The cleaned
record is the one that has the fields of the record in order and, in each of them, what cleaning
makes of what is found at every path through arrays: strings cleaned, arrays of the same length, and
all else as it was. A cleaned string, whatever it was read from, has no blanks but single spaces
between characters that are not blank. A text with neither of the marks that markup needs keeps its
other characters in order, and stays as it is if it had no other blanks. -/
theorem cleaning_keeps_shape :
    (∀ r t : Record, t = r.cleaned ↔
      List.Forall₂ (fun m n ↦ n.1 = m.1 ∧ CleanedThroughout m.2 n.2) r t) ∧
    (∀ s, Text.IsSquished (cleaned s).toList) ∧
    ∀ s : String, (∀ c ∈ s.toList, c ≠ '<' ∧ c ≠ '&') →
      (cleaned s).toList.filter (!Text.isBlank ·) = s.toList.filter (!Text.isBlank ·) ∧
        (cleaned s = s ↔ Text.IsSquished s.toList) := by
  refine ⟨fun r t ↦ Record.eq_cleaned_iff, isSquished_cleaned, fun s hs ↦ ?_⟩
  have hcleaned := cleaned_of_isPlainText (isPlainText_iff.2 hs)
  refine ⟨?_, ?_⟩
  · rw [hcleaned, String.toList_ofList, Text.filter_squish]
  · rw [hcleaned, ← String.toList_inj, String.toList_ofList, Text.squish_eq_self_iff]

/-- Arrays in arrays with a string, an object that holds one, and a string with a blank beyond
ASCII at its end. -/
theorem cleaning_keeps_shape_of_nested :
    let s := " a\u3000 b\u2028"
    let kept := Json.object [("k", .string " <b>")]
    let r : Record := [("tags", .array [.array [.string s, .null], kept]), ("n", .bool true)]
    (∀ c ∈ s.toList, c ≠ '<' ∧ c ≠ '&') ∧
      (cleaned s).toList.filter (!Text.isBlank ·) = ['a', 'b'] ∧ cleaned s ≠ s ∧
      ∃ v, r.cleaned = [("tags", v), ("n", .bool true)] ∧
        v.itemAt? [0, 0] = some (.string (cleaned s)) ∧ v.itemAt? [0, 2] = none ∧
        v.itemAt? [1] = some kept := by
  intro s kept r
  obtain ⟨hrecords, -, hplain⟩ := cleaning_keeps_shape
  have hs : ∀ c ∈ s.toList, c ≠ '<' ∧ c ≠ '&' := isPlainText_iff.1 (by decide)
  obtain ⟨hfilter, hself⟩ := hplain s hs
  refine ⟨hs, ?_, ?_, ?_⟩
  · rw [hfilter]
    decide
  · rw [ne_eq, hself]
    intro h
    have hstart := h.starts ' ' (by simp [s])
    exact absurd hstart (by decide)
  · have hfields := (hrecords r r.cleaned).1 rfl
    generalize r.cleaned = t at hfields
    simp only [r, List.forall₂_cons_left_iff, List.forall₂_nil_left_iff] at hfields
    obtain ⟨⟨k, v⟩, t, ⟨rfl, htags⟩, ⟨⟨l, w⟩, u, ⟨rfl, hn⟩, rfl, rfl⟩, rfl⟩ := hfields
    obtain rfl := cleanedThroughout_iff.1 htags
    obtain rfl := cleanedThroughout_iff.1 hn
    refine ⟨_, rfl, ?_, ?_, ?_⟩
    · rw [itemAt?_cleanValue]
      rfl
    · rw [itemAt?_cleanValue]
      rfl
    · rw [itemAt?_cleanValue]
      rfl

end FeedHarvest
