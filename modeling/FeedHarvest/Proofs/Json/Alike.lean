import FeedHarvest.Proofs.Json.Members
import Mathlib.Data.List.Forall2
import Mathlib.Data.List.Perm.Subperm
import Mathlib.Data.Option.Basic

/-!
# Values that say the same

Two values say the same when they differ at most in the order of members, at any depth, and in the
sign of a zero. So there are two ways to compare values: as they are written, and by what they say.
What is shown of descriptions of steps is shown for both, and needs of a comparison only what
`IsComparison` lists: it looks through arrays item by item and through objects with the same names
member by member, and sees every difference of texts, of truth values and of a single name.
-/

namespace FeedHarvest.Json

open Members (keys)

/-! ## By what values say -/

/-- Whether two numbers have one value. A whole number is never a floating-point number. -/
def Number.Alike : Number → Number → Prop
  | .int m, .int n => m = n
  | .float x, .float y => x = y ∨ x.isZero ∧ y.isZero
  | .int _, .float _ | .float _, .int _ => False

mutual

/-- Whether two values are equal but for the order of members and the sign of zeros. -/
def Alike : Json → Json → Prop
  | .null, .null => True
  | .bool a, .bool b => a = b
  | .number m, .number n => m.Alike n
  | .string a, .string b => a = b
  | .array as, .array bs => ItemsAlike as bs
  | .object ms, .object ns => ms.length = ns.length ∧ MembersAlike ms ns
  | _, _ => False

def ItemsAlike : List Json → List Json → Prop
  | [], [] => True
  | a :: as, b :: bs => Alike a b ∧ ItemsAlike as bs
  | _, _ => False

/-- Whether each member has a member of its name in an object, with a value that is alike. -/
def MembersAlike : List (String × Json) → Members → Prop
  | [], _ => True
  | (k, v) :: ms, ns => (∃ w, ns.get? k = some w ∧ Alike v w) ∧ MembersAlike ms ns

end

/-! ## Ways to compare -/

/-- Whether a relation compares values. -/
structure IsComparison (same : Json → Json → Prop) : Prop where
  string_iff : ∀ a b, same (.string a) (.string b) ↔ a = b
  bool_iff : ∀ a b, same (.bool a) (.bool b) ↔ a = b
  array_iff : ∀ as bs, same (.array as) (.array bs) ↔ List.Forall₂ same as bs
  single_iff : ∀ k l v w, same (.object [(k, v)]) (.object [(l, w)]) ↔ k = l ∧ same v w
  object_iff : ∀ ms ns : Members, keys ms = keys ns → (keys ms).Nodup →
    (same (.object ms) (.object ns) ↔ List.Forall₂ (fun m n ↦ same m.2 n.2) ms ns)

private theorem eq_iff_forall₂_of_keys {ms ns : Members} (h : keys ms = keys ns) :
    ms = ns ↔ List.Forall₂ (fun m n ↦ m.2 = n.2) ms ns := by
  induction ms generalizing ns with
  | nil =>
    cases ns with
    | nil => simp
    | cons n ns => cases h
  | cons m ms ih =>
    cases ns with
    | nil => cases h
    | cons n ns =>
      obtain ⟨k, v⟩ := m
      obtain ⟨l, w⟩ := n
      obtain ⟨rfl, hrest⟩ := List.cons.inj h
      rw [List.forall₂_cons, ← ih hrest]
      simp

theorem isComparison_eq : IsComparison (· = ·) where
  string_iff a b := by simp
  bool_iff a b := by simp
  array_iff as bs := by simp
  single_iff k l v w := by simp
  object_iff ms ns h _ := by rw [object.injEq, eq_iff_forall₂_of_keys h]

theorem itemsAlike_iff {as bs : List Json} : ItemsAlike as bs ↔ List.Forall₂ Alike as bs := by
  induction as generalizing bs with
  | nil => cases bs <;> simp [ItemsAlike]
  | cons a as ih => cases bs <;> simp [ItemsAlike, ih]

theorem membersAlike_cons_of_not_mem {ms ns : Members} {k : String} (h : k ∉ keys ms) (w : Json) :
    MembersAlike ms ((k, w) :: ns) ↔ MembersAlike ms ns := by
  induction ms with
  | nil => simp [MembersAlike]
  | cons m ms ih =>
    obtain ⟨l, v⟩ := m
    rw [Members.keys_cons, List.mem_cons, not_or] at h
    have hget : Members.get? ((k, w) :: ns) l = ns.get? l := by
      rw [Members.get?, List.lookup_cons, beq_false_of_ne (Ne.symm h.1)]
      rfl
    rw [MembersAlike, MembersAlike, ih h.2, hget]

theorem membersAlike_iff_forall {ms ns : Members} :
    MembersAlike ms ns ↔ ∀ m ∈ ms, ∃ w, ns.get? m.1 = some w ∧ Alike m.2 w := by
  induction ms with
  | nil => simp [MembersAlike]
  | cons m ms ih => rw [MembersAlike, ih, List.forall_mem_cons]

theorem keys_perm_of_alike {ms ns : Members} (hnodup : (keys ms).Nodup)
    (h : Alike (.object ms) (.object ns)) : (keys ms).Perm (keys ns) := by
  rw [Alike, membersAlike_iff_forall] at h
  have hsubset : keys ms ⊆ keys ns := by
    intro k hk
    obtain ⟨m, hm, rfl⟩ := List.mem_map.1 hk
    obtain ⟨w, hw, -⟩ := h.2 m hm
    exact List.mem_map.2 ⟨_, Members.mem_of_get?_eq_some hw, rfl⟩
  refine (hnodup.subperm hsubset).perm_of_length_le (Nat.le_of_eq ?_)
  rw [keys, keys, List.length_map, List.length_map, h.1]

theorem rel_get?_of_alike {ms ns : Members} (hnodup : (keys ms).Nodup)
    (h : Alike (.object ms) (.object ns)) (k : String) :
    Option.Rel Alike (ms.get? k) (ns.get? k) := by
  cases hv : ms.get? k with
  | none =>
    have hk : k ∉ keys ns :=
      mt (keys_perm_of_alike hnodup h).mem_iff.2 (Members.get?_eq_none_iff.1 hv)
    rw [Members.get?_eq_none_iff.2 hk]
    exact .none
  | some v =>
    rw [Alike, membersAlike_iff_forall] at h
    obtain ⟨w, hw, hvw⟩ := h.2 _ (Members.mem_of_get?_eq_some hv)
    rw [hw]
    exact .some hvw

private theorem membersAlike_iff {ms ns : Members} (h : keys ms = keys ns)
    (hnodup : (keys ms).Nodup) :
    MembersAlike ms ns ↔ List.Forall₂ (fun m n ↦ Alike m.2 n.2) ms ns := by
  induction ms generalizing ns with
  | nil =>
    cases ns with
    | nil => simp [MembersAlike]
    | cons n ns => cases h
  | cons m ms ih =>
    cases ns with
    | nil => cases h
    | cons n ns =>
      obtain ⟨k, v⟩ := m
      obtain ⟨l, w⟩ := n
      obtain ⟨rfl, hrest⟩ := List.cons.inj h
      rw [Members.keys_cons, List.nodup_cons] at hnodup
      rw [MembersAlike, membersAlike_cons_of_not_mem hnodup.1, ih hrest hnodup.2,
        List.forall₂_cons]
      simp [Members.get?]

theorem isComparison_alike : IsComparison Alike where
  string_iff a b := by simp [Alike]
  bool_iff a b := by simp [Alike]
  array_iff as bs := by rw [Alike, itemsAlike_iff]
  single_iff k l v w := by
    by_cases h : k = l
    · simp [Alike, MembersAlike, Members.get?, h]
    · simp [Alike, MembersAlike, Members.get?, List.lookup_cons, beq_false_of_ne h, h]
  object_iff ms ns h hnodup := by
    have hlength : ms.length = ns.length := by
      rw [← List.length_map (f := Prod.fst), ← List.length_map (f := Prod.fst)]
      exact congrArg List.length h
    rw [Alike, membersAlike_iff h hnodup]
    exact and_iff_right hlength

end FeedHarvest.Json
