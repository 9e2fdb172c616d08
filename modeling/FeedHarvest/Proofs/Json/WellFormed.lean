import FeedHarvest.Json.Reader
import FeedHarvest.Proofs.Json.Members
import FeedHarvest.Proofs.Number.Rounding

/-!
# Well-formed values

What all values that are read have in common, at any depth: no object has two members of one name,
and a floating-point number has the one form that decoding 64 bits gives. So a member is known by
its name, and numbers are equal if they have one sign and one magnitude.
-/

open FeedHarvest.Number (Binary64)

namespace FeedHarvest.Json

open Members (keys)

/-- Values in which no object has two members of one name and every floating-point number is
canonical. -/
inductive WellFormed : Json → Prop
  | null : WellFormed .null
  | bool (b : Bool) : WellFormed (.bool b)
  | int (n : Int) : WellFormed (.number (.int n))
  | float {x : Binary64} (h : x.Canonical) : WellFormed (.number (.float x))
  | string (s : String) : WellFormed (.string s)
  | array {items : List Json} (h : ∀ v ∈ items, WellFormed v) : WellFormed (.array items)
  | object {ms : Members} (hkeys : (keys ms).Nodup) (h : ∀ m ∈ ms, WellFormed m.2) :
      WellFormed (.object ms)

theorem wellFormed_float_iff {x : Binary64} :
    WellFormed (.number (.float x)) ↔ x.Canonical := by
  constructor
  · rintro (_ | _ | _ | h)
    exact h
  · exact .float

theorem wellFormed_array_iff {items : List Json} :
    WellFormed (.array items) ↔ ∀ v ∈ items, WellFormed v := by
  constructor
  · rintro (_ | _ | _ | _ | _ | h)
    exact h
  · exact .array

theorem wellFormed_object_iff {ms : Members} :
    WellFormed (.object ms) ↔ (keys ms).Nodup ∧ ∀ m ∈ ms, WellFormed m.2 := by
  constructor
  · rintro (_ | _ | _ | _ | _ | _ | ⟨hkeys, h⟩)
    exact ⟨hkeys, h⟩
  · exact fun h ↦ .object h.1 h.2

/-! ## Reading gives well-formed values -/

private theorem canonical_scaled? {x y : Binary64} {exponent : Int} (hx : x.Canonical)
    (h : scaled? x exponent = some y) : y.Canonical := by
  have hpowers {n : Nat} {power : Binary64} (hpower : Binary64.ofNat? (Nat.pow 10 n) = some power) :
      0 < power.significand :=
    Binary64.significand_pos_of_ofNat? (Nat.pow_pos (by decide)) hpower
  induction x, exponent using scaled?.induct generalizing y with
  | case1 x exponent hsmall =>
    rw [scaled?, dif_pos hsmall] at h
    obtain ⟨power, hpower, h⟩ := Option.bind_eq_some_iff.1 h
    split at h
    · exact Binary64.canonical_mul? h
    · exact Binary64.canonical_div? (hpowers hpower) h
  | case2 x exponent hlarge hzero =>
    rw [scaled?, dif_neg hlarge, if_pos hzero] at h
    cases h
    exact hx
  | case3 x exponent hlarge hzero hsign =>
    rw [scaled?, dif_neg hlarge, if_neg hzero, if_pos hsign] at h
    cases h
  | case4 x exponent hlarge hzero hsign ih =>
    rw [scaled?, dif_neg hlarge, if_neg hzero, if_neg hsign] at h
    obtain ⟨power, hpower, h⟩ := Option.bind_eq_some_iff.1 h
    obtain ⟨z, hz, h⟩ := Option.bind_eq_some_iff.1 h
    exact ih z (Binary64.canonical_div? (hpowers hpower) hz) h

/-- The sign plays no part in being canonical. -/
theorem canonical_value? {n : NumberText} {x : Binary64} (h : n.value? = some (.float x)) :
    x.Canonical := by
  simp only [NumberText.value?] at h
  split at h
  · cases h
  · obtain ⟨y, hy, h⟩ := Option.bind_eq_some_iff.1 h
    obtain ⟨z, hz, h⟩ := Option.bind_eq_some_iff.1 h
    cases h
    have hcanonical : z.Canonical := canonical_scaled? (Binary64.canonical_ofNat? hy) hz
    exact hcanonical

private theorem wellFormed_numberValue? {n : NumberText} {m : Json.Number} (h : n.value? = some m) :
    WellFormed (.number m) := by
  cases m with
  | int m => exact .int m
  | float x => exact .float (canonical_value? h)

private theorem nodup_keys_ofList (ms : List (String × Json)) :
    (keys (Members.ofList ms)).Nodup := by
  rw [Members.keys_ofList]
  exact nodup_eraseDups _

mutual

theorem Source.wellFormed_of_value? : ∀ (s : Source) {depth : Nat} {v : Json},
    s.value? depth = some v → v.WellFormed
  | .null, _, _, h => by
    rw [Source.value?] at h
    cases h
    exact .null
  | .bool b, _, _, h => by
    rw [Source.value?] at h
    cases h
    exact .bool b
  | .number n, _, _, h => by
    rw [Source.value?, Option.map_eq_some_iff] at h
    obtain ⟨m, hm, rfl⟩ := h
    exact wellFormed_numberValue? hm
  | .string _, _, _, h => by
    rw [Source.value?, Option.map_eq_some_iff] at h
    obtain ⟨s, -, rfl⟩ := h
    exact .string s
  | .array _, 0, _, h => by
    rw [Source.value?] at h
    cases h
  | .array items, _ + 1, _, h => by
    rw [Source.value?, Option.map_eq_some_iff] at h
    obtain ⟨vs, hvs, rfl⟩ := h
    exact .array (Source.wellFormed_of_values? items hvs)
  | .object _, 0, _, h => by
    rw [Source.value?] at h
    cases h
  | .object ms, _ + 1, _, h => by
    rw [Source.value?, Option.map_eq_some_iff] at h
    obtain ⟨ns, hns, rfl⟩ := h
    exact .object (nodup_keys_ofList ns)
      (Members.forall_mem_ofList (Source.wellFormed_of_memberValues? ms hns))

theorem Source.wellFormed_of_values? : ∀ (ss : List Source) {depth : Nat} {vs : List Json},
    Source.values? depth ss = some vs → ∀ v ∈ vs, v.WellFormed
  | [], _, _, h => by
    rw [Source.values?] at h
    cases h
    exact fun v hv ↦ absurd hv List.not_mem_nil
  | s :: ss, _, _, h => by
    simp only [Source.values?, bind, Option.bind_eq_some_iff, pure, Option.some.injEq] at h
    obtain ⟨x, hx, xs, hxs, rfl⟩ := h
    exact List.forall_mem_cons.2
      ⟨Source.wellFormed_of_value? s hx, Source.wellFormed_of_values? ss hxs⟩

theorem Source.wellFormed_of_memberValues? : ∀ (ms : List (List StringPart × Source)) {depth : Nat}
    {ns : Members}, Source.memberValues? depth ms = some ns → ∀ m ∈ ns, m.2.WellFormed
  | [], _, _, h => by
    rw [Source.memberValues?] at h
    cases h
    exact fun m hm ↦ absurd hm List.not_mem_nil
  | (_, s) :: ms, _, _, h => by
    simp only [Source.memberValues?, bind, Option.bind_eq_some_iff, pure, Option.some.injEq] at h
    obtain ⟨k, -, x, hx, xs, hxs, rfl⟩ := h
    exact List.forall_mem_cons.2
      ⟨Source.wellFormed_of_value? s hx, Source.wellFormed_of_memberValues? ms hxs⟩

end

theorem wellFormed_of_parse? {text : List Char} {v : Json} (h : parse? text = some v) :
    v.WellFormed := by
  obtain ⟨s, -, hs⟩ := Option.bind_eq_some_iff.1 h
  exact s.wellFormed_of_value? hs

end FeedHarvest.Json
