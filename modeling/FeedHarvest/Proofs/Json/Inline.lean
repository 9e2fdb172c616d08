import FeedHarvest.Json.Writer
import FeedHarvest.Proofs.Text.Digits

/-!
# Values on one line

Written without blanks, a value has no character below the space, whatever its strings and names:
those are escaped, and everything else is marks, digits and letters. So no value can break the line
that it stands on.
-/

namespace FeedHarvest.Json

/-- Whether a text has no control character: none below the space. -/
def IsInline (cs : List Char) : Prop := ∀ c ∈ cs, 0x20 ≤ c.toNat

-- named, as the one that goes through all characters there are would be found otherwise
instance (cs : List Char) : Decidable (IsInline cs) :=
  List.decidableBAll (fun c : Char ↦ 0x20 ≤ c.toNat) cs

theorem isInline_append {cs ds : List Char} (hcs : IsInline cs) (hds : IsInline ds) :
    IsInline (cs ++ ds) := fun c hc ↦ (List.mem_append.1 hc).elim (hcs c) (hds c)

theorem isInline_cons {c : Char} {cs : List Char} (hc : 0x20 ≤ c.toNat) (hcs : IsInline cs) :
    IsInline (c :: cs) := fun d hd ↦ (List.mem_cons.1 hd).elim (fun h ↦ h ▸ hc) (hcs d)

theorem isInline_decimal (n : Nat) : IsInline (Text.decimal n) := by
  intro c hc
  have hdigit := Text.isDigit_of_mem_decimal hc
  rw [Text.isDigit, Bool.and_eq_true, decide_eq_true_eq, decide_eq_true_eq] at hdigit
  have hzero : ('0').toNat ≤ c.toNat := hdigit.1
  exact Nat.le_trans (by decide) hzero

theorem isInline_singleton {c : Char} (h : 0x20 ≤ c.toNat) : IsInline [c] :=
  isInline_cons h (by simp [IsInline])

private theorem isInline_escape (c : Char) : IsInline (escape c) := by
  have hhex : ∀ n < 16, 0x20 ≤ (Text.digitChar n).toNat := by decide
  by_cases hspecial : c ∈ ['"', '\\', '\x08', '\x0c', '\n', '\r', '\t']
  · have hshort : ['"', '\\', '\x08', '\x0c', '\n', '\r', '\t'].all
        (fun c ↦ decide (IsInline (escape c))) = true := by decide
    exact of_decide_eq_true (List.all_eq_true.1 hshort c hspecial)
  · simp only [List.mem_cons, List.not_mem_nil, or_false, not_or] at hspecial
    simp only [escape, beq_iff_eq, hspecial, if_false]
    split
    · next hcontrol =>
      -- a control character is written by its number, in two digits of base sixteen
      have hhigh := hhex (c.toNat / 16) (by omega)
      have hlow := hhex (c.toNat % 16) (by omega)
      simp [IsInline, hhigh, hlow]
    · next hplain => exact isInline_singleton (Nat.not_lt.1 hplain)

theorem isInline_quoted (s : String) : IsInline (quoted s) := by
  refine isInline_append (isInline_cons (by decide) fun c hc ↦ ?_) (isInline_singleton (by decide))
  obtain ⟨d, -, hd⟩ := List.mem_flatMap.1 hc
  exact isInline_escape d c hd

private theorem isInline_intText (n : Int) : IsInline (intText n) := by
  rw [intText]
  split
  · exact isInline_cons (by decide) (isInline_decimal _)
  · exact isInline_decimal _

private theorem isInline_float (layout : Number.Layout) (x : Number.Binary64) :
    IsInline (layout.text x) := by
  have hdigits := isInline_decimal x.shortest.digits
  have hzeros : ∀ n, IsInline (List.replicate n '0') := by
    intro n c hc
    rw [(List.mem_replicate.1 hc).2]
    decide
  have htake : ∀ n, IsInline ((Text.decimal x.shortest.digits).take n) :=
    fun n c hc ↦ hdigits c (List.mem_of_mem_take hc)
  have hdrop : ∀ n, IsInline ((Text.decimal x.shortest.digits).drop n) :=
    fun n c hc ↦ hdigits c (List.mem_of_mem_drop hc)
  have hsign : ∀ b : Bool, IsInline (if b then ['-'] else []) := by decide
  have hpoint : IsInline ['.', '0'] := by decide
  rw [Number.Layout.text]
  dsimp only
  split
  · exact isInline_append (hsign _) (isInline_cons (by decide) hpoint)
  · refine isInline_append (hsign _) ?_
    split
    · -- positional notation
      split
      · exact isInline_append (isInline_append hdigits (hzeros _)) hpoint
      split
      · exact isInline_append (htake _) (isInline_cons (by decide) (hdrop _))
      · exact isInline_cons (by decide) (isInline_cons (by decide)
          (isInline_append (hzeros _) hdigits))
    · -- scientific notation
      refine isInline_append (isInline_append ?_ (isInline_cons (by decide) ?_))
        (isInline_decimal _)
      · split
        · exact hdigits
        · exact isInline_append (htake _) (isInline_cons (by decide) (hdrop _))
      · split
        · decide
        split <;> decide

mutual

theorem isInline_compactText : ∀ v, IsInline (compactText v)
  | .null => by simp [compactText, IsInline]
  | .bool true => by simp [compactText, IsInline]
  | .bool false => by simp [compactText, IsInline]
  | .number (.int n) => by rw [compactText]; exact isInline_intText n
  | .number (.float x) => by rw [compactText]; exact isInline_float numberLayout x
  | .string s => by rw [compactText]; exact isInline_quoted s
  | .array items => by
    rw [compactText]
    exact isInline_append (isInline_cons (by decide) (isInline_compactItems items))
      (isInline_singleton (by decide))
  | .object ms => by
    rw [compactText]
    exact isInline_append (isInline_cons (by decide) (isInline_compactMembers ms))
      (isInline_singleton (by decide))

theorem isInline_compactItems : ∀ vs, IsInline (compactItems vs)
  | [] => by simp [compactItems, IsInline]
  | [v] => by rw [compactItems]; exact isInline_compactText v
  | v :: w :: vs => by
    rw [compactItems]
    · exact isInline_append (isInline_compactText v)
        (isInline_cons (by decide) (isInline_compactItems (w :: vs)))
    · exact List.cons_ne_nil w vs

theorem isInline_compactMembers : ∀ ms, IsInline (compactMembers ms)
  | [] => by simp [compactMembers, IsInline]
  | [(k, v)] => by
    rw [compactMembers]
    exact isInline_append (isInline_quoted k) (isInline_cons (by decide) (isInline_compactText v))
  | (k, v) :: m :: ms => by
    rw [compactMembers]
    · exact isInline_append (isInline_quoted k) (isInline_cons (by decide)
        (isInline_append (isInline_compactText v)
          (isInline_cons (by decide) (isInline_compactMembers (m :: ms)))))
    · exact List.cons_ne_nil m ms

end

theorem isInline_compact (v : Json) : IsInline v.compact.toList := by
  rw [compact, String.toList_ofList]
  exact isInline_compactText v

theorem newline_not_mem_of_isInline {cs : List Char} (h : IsInline cs) : '\n' ∉ cs := fun hmem ↦
  absurd (h '\n' hmem) (by decide)

theorem newline_not_mem_compact (v : Json) : '\n' ∉ v.compact.toList :=
  newline_not_mem_of_isInline (isInline_compact v)

end FeedHarvest.Json
