import FeedHarvest.Proofs.Json.Alike
import FeedHarvest.Proofs.Json.Token
import FeedHarvest.Proofs.Json.WellFormed

/-!
# The texts of values that say the same

Values that differ in the order of members or in the sign of a zero have different texts, and the
difference shows before either text ends: whatever follows the texts, they can only be equal if the
values are. So members and zeros are all that two texts of one thing can differ in, and a value that
has neither several members anywhere nor a zero with a point is written in one way only.
-/

namespace FeedHarvest.Json

open Members (keys)

section Tokens

variable {x y : List Char}

theorem quoted_append_inj {s t : String} :
    quoted s ++ x = quoted t ++ y ↔ s = t ∧ x = y := by
  constructor
  · intro h
    have hlex (s : String) (rest : List Char) :
        lexString (s.toList.flatMap escape ++ ['"'] ++ rest) = some (partsOf s, rest) := by
      rw [List.append_assoc]
      exact lexString_quoted s.toList rest
    have hbody : s.toList.flatMap escape ++ ['"'] ++ x = t.toList.flatMap escape ++ ['"'] ++ y :=
      (List.cons.inj h).2
    have hsame := hlex s x
    rw [hbody, hlex t y] at hsame
    obtain ⟨hparts, hrest⟩ := Prod.mk.inj (Option.some.inj hsame)
    have htext := text?_partsOf s
    rw [← hparts, text?_partsOf] at htext
    exact ⟨(Option.some.inj htext).symm, hrest.symm⟩
  · rintro ⟨rfl, rfl⟩
    rfl

/-- A zero begins with its sign. -/
theorem zero_text_append_inj {negative negative' : Bool}
    (h : Number.text (.float (.zero negative)) ++ x = Number.text (.float (.zero negative')) ++ y) :
    negative = negative' := by
  cases negative with
  | false =>
    cases negative' with
    | false => rfl
    | true => exact absurd (List.cons.inj h).1 (by decide)
  | true =>
    cases negative' with
    | false => exact absurd (List.cons.inj h).1 (by decide)
    | true => rfl

/-- Numbers of one value differ in the sign of a zero, and with it in their first character. -/
theorem Number.eq_of_text_append {m n : Json.Number} (hm : WellFormed (.number m))
    (hn : WellFormed (.number n)) (h : m.Alike n) (htext : m.text ++ x = n.text ++ y) :
    m = n ∧ x = y := by
  have hsame (heq : m = n) : m = n ∧ x = y := ⟨heq, List.append_cancel_left (heq ▸ htext)⟩
  cases m with
  | int i =>
    cases n with
    | int j => exact hsame (congrArg _ h)
    | float b => exact h.elim
  | float a =>
    cases n with
    | int j => exact h.elim
    | float b =>
      rcases h with rfl | ⟨ha, hb⟩
      · exact hsame rfl
      · have hm' := (wellFormed_float_iff.1 hm).eq_zero ha
        have hn' := (wellFormed_float_iff.1 hn).eq_zero hb
        refine hsame (congrArg _ ?_)
        rw [hm', hn'] at htext ⊢
        rw [zero_text_append_inj htext]

end Tokens

/-! ## Values -/

/-- What comes after the first of several items or members: a comma and the others, if there are
others. -/
def following {α : Type} (others : List α) (text : List Char) : List Char :=
  if others = [] then [] else ',' :: text

theorem following_append_eq {α : Type} {as bs : List α} {s t x y : List Char}
    (hlength : as.length = bs.length) (h : following as s ++ x = following bs t ++ y) :
    as = [] ∧ bs = [] ∧ x = y ∨ s ++ x = t ++ y := by
  cases as with
  | nil =>
    obtain rfl : bs = [] := List.length_eq_zero_iff.1 hlength.symm
    exact .inl ⟨rfl, rfl, h⟩
  | cons a as =>
    cases bs with
    | nil => cases hlength
    | cons b bs => exact .inr (List.cons.inj h).2

theorem compactItems_cons (v : Json) (vs : List Json) :
    compactItems (v :: vs) = compactText v ++ following vs (compactItems vs) := by
  cases vs with
  | nil => simp [compactItems, following]
  | cons w vs => simp [compactItems, following]

theorem compactMembers_cons (k : String) (v : Json) (ms : Members) :
    compactMembers ((k, v) :: ms)
      = quoted k ++ ':' :: (compactText v ++ following ms (compactMembers ms)) := by
  cases ms with
  | nil => simp [compactMembers, following]
  | cons m ms => simp [compactMembers, following]

mutual

/-- No text of a value begins the text of another value that is alike. -/
theorem eq_of_compactText_append : ∀ {v w : Json} {x y : List Char}, WellFormed v → WellFormed w →
    Alike v w → compactText v ++ x = compactText w ++ y → v = w ∧ x = y
  | .null, w, _, _, _, _, h, htext => by
    cases w with
    | null => exact ⟨rfl, List.append_cancel_left htext⟩
    | _ => simp [Alike] at h
  | .bool a, w, _, _, _, _, h, htext => by
    cases w with
    | bool b =>
      rw [Alike] at h
      subst h
      exact ⟨rfl, List.append_cancel_left htext⟩
    | _ => simp [Alike] at h
  | .number m, w, _, _, hv, hw, h, htext => by
    cases w with
    | number n =>
      rw [Alike] at h
      rw [compactText, compactText] at htext
      obtain ⟨rfl, hrest⟩ := Number.eq_of_text_append hv hw h htext
      exact ⟨rfl, hrest⟩
    | _ => simp [Alike] at h
  | .string a, w, _, _, _, _, h, htext => by
    cases w with
    | string b =>
      rw [Alike] at h
      subst h
      exact ⟨rfl, List.append_cancel_left htext⟩
    | _ => simp [Alike] at h
  | .array as, w, _, _, hv, hw, h, htext => by
    cases w with
    | array bs =>
      rw [Alike] at h
      rw [compactText, compactText, List.cons_append, List.cons_append, List.append_assoc,
        List.append_assoc] at htext
      obtain ⟨rfl, hrest⟩ := eq_of_compactItems_append (wellFormed_array_iff.1 hv)
        (wellFormed_array_iff.1 hw) h (List.cons.inj htext).2
      exact ⟨rfl, (List.cons.inj hrest).2⟩
    | _ => simp [Alike] at h
  | .object ms, w, _, _, hv, hw, h, htext => by
    cases w with
    | object ns =>
      rw [Alike] at h
      rw [compactText, compactText, List.cons_append, List.cons_append, List.append_assoc,
        List.append_assoc] at htext
      obtain ⟨hkeys, hms⟩ := wellFormed_object_iff.1 hv
      obtain ⟨rfl, hrest⟩ := eq_of_compactMembers_append hkeys hms (wellFormed_object_iff.1 hw).2
        h.1 h.2 (List.cons.inj htext).2
      exact ⟨rfl, (List.cons.inj hrest).2⟩
    | _ => simp [Alike] at h

theorem eq_of_compactItems_append : ∀ {as bs : List Json} {x y : List Char},
    (∀ a ∈ as, WellFormed a) → (∀ b ∈ bs, WellFormed b) → ItemsAlike as bs →
    compactItems as ++ x = compactItems bs ++ y → as = bs ∧ x = y
  | [], bs, _, _, _, _, h, htext => by
    cases bs with
    | nil => exact ⟨rfl, htext⟩
    | cons b bs => simp [ItemsAlike] at h
  | a :: as, bs, _, _, has, hbs, h, htext => by
    cases bs with
    | nil => simp [ItemsAlike] at h
    | cons b bs =>
      rw [ItemsAlike] at h
      rw [List.forall_mem_cons] at has hbs
      rw [compactItems_cons, compactItems_cons, List.append_assoc, List.append_assoc] at htext
      obtain ⟨rfl, hrest⟩ := eq_of_compactText_append has.1 hbs.1 h.1 htext
      have hlength := (itemsAlike_iff.1 h.2).length_eq
      rcases following_append_eq hlength hrest with ⟨rfl, rfl, rfl⟩ | hrest
      · exact ⟨rfl, rfl⟩
      · obtain ⟨rfl, hend⟩ := eq_of_compactItems_append has.2 hbs.2 h.2 hrest
        exact ⟨rfl, hend⟩

theorem eq_of_compactMembers_append : ∀ {ms ns : Members} {x y : List Char},
    (keys ms).Nodup → (∀ m ∈ ms, WellFormed m.2) → (∀ n ∈ ns, WellFormed n.2) →
    ms.length = ns.length → MembersAlike ms ns →
    compactMembers ms ++ x = compactMembers ns ++ y → ms = ns ∧ x = y
  | [], ns, _, _, _, _, _, hlength, _, htext => by
    cases ns with
    | nil => exact ⟨rfl, htext⟩
    | cons n ns => cases hlength
  | (k, v) :: ms, ns, _, _, hkeys, hms, hns, hlength, h, htext => by
    cases ns with
    | nil => cases hlength
    | cons n ns =>
      obtain ⟨l, w⟩ := n
      rw [MembersAlike] at h
      rw [List.forall_mem_cons] at hms hns
      rw [compactMembers_cons, compactMembers_cons, List.append_assoc, List.append_assoc,
        quoted_append_inj, List.cons_append, List.cons_append, List.append_assoc,
        List.append_assoc] at htext
      obtain ⟨rfl, htext⟩ := htext
      -- the first member of each object is the same, so that it can be left out of both
      obtain ⟨⟨w', hget, halike⟩, hrest⟩ := h
      obtain rfl : w = w' := by simpa [Members.get?] using hget
      obtain ⟨rfl, htail⟩ :=
        eq_of_compactText_append hms.1 hns.1 halike (List.cons.inj htext).2
      rw [Members.keys_cons, List.nodup_cons] at hkeys
      rw [membersAlike_cons_of_not_mem hkeys.1] at hrest
      rcases following_append_eq (Nat.succ.inj hlength) htail with ⟨rfl, rfl, rfl⟩ | htail
      · exact ⟨rfl, rfl⟩
      · obtain ⟨rfl, hend⟩ := eq_of_compactMembers_append hkeys.2 hms.2 hns.2
          (Nat.succ.inj hlength) hrest htail
        exact ⟨rfl, hend⟩

end

/-! ## Members in another order -/

theorem WellFormed.alike_self {v : Json} (hv : v.WellFormed) : Alike v v := by
  induction hv with
  | null => simp [Alike]
  | bool b => simp [Alike]
  | int n => simp [Alike, Number.Alike]
  | float h => simp [Alike, Number.Alike]
  | string s => simp [Alike]
  | array _ ih => exact (isComparison_alike.array_iff _ _).2 (List.forall₂_same.2 ih)
  | object hkeys _ ih =>
    rw [Alike, membersAlike_iff_forall]
    exact ⟨rfl, fun m hm ↦ ⟨m.2, (Members.get?_eq_some_iff hkeys).2 hm, ih m hm⟩⟩

theorem alike_of_perm {ms ns : Members} (hms : WellFormed (.object ms)) (h : ms.Perm ns) :
    Alike (.object ms) (.object ns) := by
  obtain ⟨hkeys, hvalues⟩ := wellFormed_object_iff.1 hms
  have hkeys' : (keys ns).Nodup := (h.map Prod.fst).nodup_iff.1 hkeys
  rw [Alike, membersAlike_iff_forall]
  exact ⟨h.length_eq, fun m hm ↦
    ⟨m.2, (Members.get?_eq_some_iff hkeys').2 (h.mem_iff.1 hm), (hvalues m hm).alike_self⟩⟩

/-! ## Values with one form -/

/-- Values that nothing but themselves is alike: no object has several members, and no zero a
point. -/
inductive Rigid : Json → Prop
  | null : Rigid .null
  | bool (b : Bool) : Rigid (.bool b)
  | int (n : Int) : Rigid (.number (.int n))
  | float {x : FeedHarvest.Number.Binary64} (h : x.isZero = false) : Rigid (.number (.float x))
  | string (s : String) : Rigid (.string s)
  | array {items : List Json} (h : ∀ v ∈ items, Rigid v) : Rigid (.array items)
  | empty : Rigid (.object [])
  | single {k : String} {v : Json} (h : Rigid v) : Rigid (.object [(k, v)])

theorem Rigid.eq_of_alike {v w : Json} (hv : v.Rigid) (h : Alike v w) : v = w := by
  induction hv generalizing w with
  | null =>
    cases w with
    | null => rfl
    | _ => simp [Alike] at h
  | bool a =>
    cases w with
    | bool b => simpa [Alike] using h
    | _ => simp [Alike] at h
  | int i =>
    cases w with
    | number n =>
      cases n with
      | int j => simpa [Alike, Number.Alike] using h
      | float y => simp [Alike, Number.Alike] at h
    | _ => simp [Alike] at h
  | @float x hx =>
    cases w with
    | number n =>
      cases n with
      | int j => simp [Alike, Number.Alike] at h
      | float y => simpa [Alike, Number.Alike, hx] using h
    | _ => simp [Alike] at h
  | string a =>
    cases w with
    | string b => simpa [Alike] using h
    | _ => simp [Alike] at h
  | @array as hrigid ih =>
    cases w with
    | array bs =>
      rw [isComparison_alike.array_iff] at h
      refine congrArg _ ?_
      clear hrigid
      induction h with
      | nil => rfl
      | cons hab _ ih' =>
        rw [List.forall_mem_cons] at ih
        rw [ih.1 hab, ih' ih.2]
    | _ => simp [Alike] at h
  | empty =>
    cases w with
    | object ns =>
      rw [Alike] at h
      rw [List.length_eq_zero_iff.1 h.1.symm]
    | _ => simp [Alike] at h
  | @single k v _ ih =>
    cases w with
    | object ns =>
      obtain ⟨⟨l, w⟩, rfl⟩ : ∃ n, ns = [n] := by
        rw [Alike] at h
        exact List.length_eq_one_iff.1 h.1.symm
      obtain ⟨rfl, hvw⟩ := (isComparison_alike.single_iff k l v w).1 h
      rw [ih hvw]
    | _ => simp [Alike] at h

end FeedHarvest.Json
