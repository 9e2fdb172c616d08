import FeedHarvest.Dictionary.Reader
import FeedHarvest.Proofs.Dictionary.Composition
import FeedHarvest.Proofs.Yaml.Reader
import FeedHarvest.Proofs.Yaml.ToJson

/-!
# Directives that are read

Whatever is read in parts is read in order, up to the first part that is wrong. That is one notion,
`InOrder`, and reading a dictionary has it at each level: the arguments of a directive, the
directives of a field, the checks of a field, the entries of the root. At each level a part has a
form, which says what may stand there, and a refusal, which says which error belongs to which
defect; the level above takes both up.

Here are the lower levels, those of a directive. Trees are without tags, since a tag hides a text at
some places and not at others.
-/

namespace FeedHarvest.Dictionary

open Yaml (IsText KeysDiffer Convertible)

/-! ## Reading in order -/

section InOrder

variable {α β γ δ : Type} {passes : γ → Prop} {fails : γ → Error → Prop} {c : γ} {cs ds : List γ}
variable {x : Except Error α}

/-- Whether something that is read comes from parts in order: it can be read exactly when all parts
pass, and the error is that of the first part that fails. -/
structure InOrder (passes : γ → Prop) (fails : γ → Error → Prop) (parts : List γ)
    (x : Except Error α) : Prop where
  exists_ok_iff : (∃ a, x = .ok a) ↔ ∀ c ∈ parts, passes c
  error_iff : ∀ e, x = .error e ↔ FirstFailure passes fails parts e

theorem inOrder_nil {a : α} : InOrder passes fails [] (.ok a) where
  exists_ok_iff := iff_of_true ⟨a, rfl⟩ fun _ hc ↦ absurd hc List.not_mem_nil
  error_iff _ := iff_of_false (by rintro ⟨⟩) not_firstFailure_nil

theorem firstFailure_singleton_iff {e : Error} : FirstFailure passes fails [c] e ↔ fails c e := by
  rw [firstFailure_cons_iff, or_iff_left]
  exact fun h ↦ not_firstFailure_nil h.2

theorem inOrder_singleton_iff :
    InOrder passes fails [c] x ↔
      ((∃ a, x = .ok a) ↔ passes c) ∧ ∀ e, x = .error e ↔ fails c e := by
  constructor
  · exact fun h ↦ ⟨h.exists_ok_iff.trans List.forall_mem_singleton,
      fun e ↦ (h.error_iff e).trans firstFailure_singleton_iff⟩
  · exact fun h ↦ ⟨h.1.trans List.forall_mem_singleton.symm,
      fun e ↦ (h.2 e).trans firstFailure_singleton_iff.symm⟩

theorem inOrder_ok {a : α} (hpasses : passes c) (hfails : ∀ e, ¬ fails c e) :
    InOrder passes fails [c] (.ok a) :=
  inOrder_singleton_iff.2 ⟨iff_of_true ⟨a, rfl⟩ hpasses,
    fun e ↦ iff_of_false (by rintro ⟨⟩) (hfails e)⟩

/-- What fails at its first part does not depend on the others. -/
theorem inOrder_error {e : Error} (hpasses : ¬ passes c) (hfails : ∀ e', fails c e' ↔ e' = e) :
    InOrder passes fails (c :: cs) (.error e : Except Error α) where
  exists_ok_iff := iff_of_false (by rintro ⟨a, ⟨⟩⟩) fun h ↦ hpasses (h c List.mem_cons_self)
  error_iff e' := by
    rw [firstFailure_cons_iff, hfails, or_iff_left fun h ↦ hpasses h.1]
    exact ⟨by rintro ⟨⟩; rfl, by rintro rfl; rfl⟩

theorem firstFailure_append_iff {e : Error} :
    FirstFailure passes fails (cs ++ ds) e ↔
      FirstFailure passes fails cs e ∨
        (∀ c ∈ cs, passes c) ∧ FirstFailure passes fails ds e := by
  induction cs with
  | nil => simp [not_firstFailure_nil]
  | cons c cs ih =>
    rw [List.cons_append, firstFailure_cons_iff, firstFailure_cons_iff, ih, List.forall_mem_cons]
    tauto

theorem InOrder.bind {f : α → Except Error β} (h : InOrder passes fails cs x)
    (hf : ∀ a, x = .ok a → InOrder passes fails ds (f a)) :
    InOrder passes fails (cs ++ ds) (x >>= f) := by
  cases hx : x with
  | error e =>
    have hfailure : FirstFailure passes fails cs e := (h.error_iff e).1 hx
    have hnot : ¬ ∀ c ∈ cs, passes c := by
      rw [← h.exists_ok_iff, hx]
      rintro ⟨a, ⟨⟩⟩
    refine ⟨iff_of_false (by rintro ⟨b, ⟨⟩⟩) fun hall ↦ hnot fun c hc ↦ ?_, fun e' ↦ ?_⟩
    · exact hall c (List.mem_append_left ds hc)
    · rw [firstFailure_append_iff, ← h.error_iff, hx, or_iff_left fun hall ↦ hnot hall.1]
      exact ⟨by rintro ⟨⟩; rfl, by rintro ⟨⟩; rfl⟩
  | ok a =>
    have hall : ∀ c ∈ cs, passes c := h.exists_ok_iff.1 ⟨a, hx⟩
    have hnot (e : Error) : ¬ FirstFailure passes fails cs e := by
      rw [← h.error_iff, hx]
      rintro ⟨⟩
    refine ⟨(hf a hx).exists_ok_iff.trans ?_, fun e ↦ ((hf a hx).error_iff e).trans ?_⟩
    · rw [List.forall_mem_append]
      exact (and_iff_right hall).symm
    · rw [firstFailure_append_iff, or_iff_right (hnot e), and_iff_right hall]

theorem InOrder.bind_pure {f : α → β} (h : InOrder passes fails cs x) :
    InOrder passes fails cs (x >>= fun a ↦ pure (f a)) := by
  have hnil (a : α) : InOrder passes fails [] (pure (f a) : Except Error β) := inOrder_nil
  have hbind := h.bind fun a _ ↦ hnil a
  rwa [List.append_nil] at hbind

theorem inOrder_mapM {f : γ → Except Error α} (h : ∀ c ∈ cs, InOrder passes fails [c] (f c)) :
    InOrder passes fails cs (cs.mapM f) := by
  induction cs with
  | nil => exact inOrder_nil
  | cons c cs ih =>
    rw [List.mapM_cons]
    exact (h c List.mem_cons_self).bind fun a _ ↦
      (ih fun c hc ↦ h c (List.mem_cons_of_mem _ hc)).bind_pure

/-- Parts that are read in order make up one part of the level above. -/
theorem InOrder.whole {passes' : δ → Prop} {fails' : δ → Error → Prop} {d : δ}
    (h : InOrder passes fails cs x) (hpasses : passes' d ↔ ∀ c ∈ cs, passes c)
    (hfails : ∀ e, fails' d e ↔ FirstFailure passes fails cs e) : InOrder passes' fails' [d] x :=
  inOrder_singleton_iff.2 ⟨h.exists_ok_iff.trans hpasses.symm,
    fun e ↦ (h.error_iff e).trans (hfails e).symm⟩

theorem InOrder.single {passes' : δ → Prop} {fails' : δ → Error → Prop} {d : δ}
    (h : InOrder passes fails [c] x) (hpasses : passes' d ↔ passes c)
    (hfails : ∀ e, fails' d e ↔ fails c e) : InOrder passes' fails' [d] x :=
  h.whole (hpasses.trans List.forall_mem_singleton.symm) fun e ↦
    (hfails e).trans firstFailure_singleton_iff.symm

theorem inOrder_of_option {o : Option δ} {isGiven : δ → Prop} {passes' : δ → Prop}
    {fails' : δ → Error → Prop} (ho : ∀ v, o = some v ↔ isGiven v)
    (hnone : o = none → ∃ a, x = .ok a) (hsome : ∀ v, o = some v → InOrder passes' fails' [v] x)
    (hpasses : passes c ↔ ∀ v, isGiven v → passes' v)
    (hfails : ∀ e, fails c e ↔ ∃ v, isGiven v ∧ fails' v e) : InOrder passes fails [c] x := by
  cases hv : o with
  | none =>
    obtain ⟨a, rfl⟩ := hnone hv
    have hnot (v : δ) : ¬ isGiven v := by
      rw [← ho, hv]
      rintro ⟨⟩
    refine inOrder_ok (hpasses.2 fun v h ↦ absurd h (hnot v)) fun e h ↦ ?_
    obtain ⟨v, hv, -⟩ := (hfails e).1 h
    exact hnot v hv
  | some v =>
    have honly {w : δ} (hw : isGiven w) : w = v := Option.some.inj (((ho w).2 hw).symm.trans hv)
    have hgiven : isGiven v := (ho v).1 hv
    have hall : (∀ w, isGiven w → passes' w) ↔ passes' v :=
      ⟨fun h ↦ h v hgiven, fun h w hw ↦ honly hw ▸ h⟩
    have hexists (e : Error) : (∃ w, isGiven w ∧ fails' w e) ↔ fails' v e := by
      refine ⟨?_, fun h ↦ ⟨v, hgiven, h⟩⟩
      rintro ⟨w, hw, h⟩
      exact honly hw ▸ h
    exact (hsome v hv).single (hpasses.trans hall) fun e ↦ (hfails e).trans (hexists e)

end InOrder

/-! ## Trees as JSON -/

/-- The error of a tree that has no form in JSON. -/
inductive NoJson : Yaml → Error → Prop
  | intro {v : Yaml} {cause : Yaml.KeyError} (h : v.toJson = .error cause) :
    NoJson v (.incomplete (.noJson cause))

theorem inOrder_jsonOf (v : Yaml) : InOrder Convertible NoJson [v] (jsonOf v) := by
  rw [jsonOf]
  cases h : v.toJson with
  | ok j =>
    refine inOrder_ok (Yaml.exists_toJson_iff.1 ⟨j, h⟩) ?_
    rintro e ⟨he⟩
    cases h.symm.trans he
  | error cause =>
    refine inOrder_error (fun hv ↦ ?_) fun e ↦ ⟨?_, ?_⟩
    · obtain ⟨j, hj⟩ := Yaml.exists_toJson_iff.2 hv
      cases h.symm.trans hj
    · rintro ⟨he⟩
      cases h.symm.trans he
      rfl
    · rintro rfl
      exact .intro h

/-! ## Arguments -/

namespace Arguments

/-- A keyed argument: a tree with a form in JSON under a text. -/
def EntryForm (e : Yaml × Yaml) : Prop := e.1.IsText ∧ e.2.Convertible

/-- The error of a keyed argument; the key comes first. -/
inductive EntryRefused : Yaml × Yaml → Error → Prop
  | key {k v : Yaml} (h : ¬ k.IsText) : EntryRefused (k, v) (.incomplete .argumentKeyNotText)
  | value {k v : Yaml} {e : Error} (hk : k.IsText) (h : NoJson v e) : EntryRefused (k, v) e

/-- Arguments: a tree with a form in JSON, with texts for keys if it is a mapping. -/
structure Form (args : Yaml) : Prop where
  convertible : args.Convertible
  isText : ∀ entries, args = .mapping entries → ∀ e ∈ entries, e.1.IsText

/-- The error of arguments, that of the first item or entry that is wrong. -/
inductive Refused : Yaml → Error → Prop
  | items {items : List Yaml} {e : Error} (h : FirstFailure Convertible NoJson items e) :
    Refused (.sequence items) e
  | entries {entries : List (Yaml × Yaml)} {e : Error}
    (h : FirstFailure EntryForm EntryRefused entries e) : Refused (.mapping entries) e

private theorem form_sequence_iff {items : List Yaml} :
    Form (.sequence items) ↔ ∀ x ∈ items, x.Convertible :=
  ⟨fun h ↦ Yaml.convertible_sequence_iff.1 h.convertible,
    fun h ↦ ⟨.sequence h, by rintro _ ⟨⟩⟩⟩

private theorem form_mapping_iff {entries : List (Yaml × Yaml)} :
    Form (.mapping entries) ↔ ∀ e ∈ entries, EntryForm e := by
  constructor
  · intro h e he
    exact ⟨h.isText entries rfl e he, (Yaml.convertible_mapping_iff.1 h.convertible e he).2⟩
  · refine fun h ↦ ⟨.mapping (fun e he ↦ ?_) fun e he ↦ (h e he).2, ?_⟩
    · obtain ⟨s, hs⟩ := (h e he).1
      exact hs ▸ .string s
    · rintro _ ⟨⟩ e he
      exact (h e he).1

private theorem refused_sequence_iff {items : List Yaml} {e : Error} :
    Refused (.sequence items) e ↔ FirstFailure Convertible NoJson items e :=
  ⟨by rintro ⟨h⟩; exact h, .items⟩

private theorem refused_mapping_iff {entries : List (Yaml × Yaml)} {e : Error} :
    Refused (.mapping entries) e ↔ FirstFailure EntryForm EntryRefused entries e :=
  ⟨by rintro (_ | h); exact h, .entries⟩

theorem EntryRefused.noJson {k v : Yaml} {e : Error} (h : EntryRefused (k, v) e) (hk : k.IsText) :
    NoJson v e := by
  rcases h with hnot | ⟨-, h⟩
  · exact absurd hk hnot
  · exact h

private theorem EntryRefused.eq_of_not_isText {k v : Yaml} {e : Error} (h : EntryRefused (k, v) e)
    (hk : ¬ k.IsText) : e = .incomplete .argumentKeyNotText := by
  rcases h with _ | ⟨htext, -⟩
  · rfl
  · exact absurd htext hk

private theorem inOrder_keyedArguments {entries : List (Yaml × Yaml)}
    (h : ∀ e ∈ entries, e.1.Untagged) :
    InOrder EntryForm EntryRefused entries (keyedArguments entries) := by
  induction entries with
  | nil => exact inOrder_nil
  | cons e es ih =>
    obtain ⟨k, v⟩ := e
    have hes : InOrder EntryForm EntryRefused es (keyedArguments es) :=
      ih fun e he ↦ h e (List.mem_cons_of_mem _ he)
    rcases (h (k, v) List.mem_cons_self).isText_or with ⟨s, hs⟩ | ⟨hk, hnone⟩
    · cases hs
      have hv : InOrder EntryForm EntryRefused [(.string s, v)] (jsonOf v) :=
        (inOrder_jsonOf v).single (and_iff_right ⟨s, rfl⟩) fun e ↦
          ⟨fun hrefused ↦ hrefused.noJson ⟨s, rfl⟩, .value ⟨s, rfl⟩⟩
      exact hv.bind fun value _ ↦ hes.bind_pure
    · rw [keyedArguments, hnone]
      exact inOrder_error (fun hform ↦ hk hform.1) fun e ↦
        ⟨fun hrefused ↦ hrefused.eq_of_not_isText hk, by rintro rfl; exact .key hk⟩

theorem inOrder_ofYaml {args : Yaml} (h : args.Untagged) :
    InOrder Form Refused [args] (ofYaml args) := by
  cases h with
  | null => exact inOrder_ok ⟨.null, by rintro _ ⟨⟩⟩ (by rintro e ⟨⟩)
  | bool b => exact inOrder_ok ⟨.bool b, by rintro _ ⟨⟩⟩ (by rintro e ⟨⟩)
  | number n => exact inOrder_ok ⟨.number n, by rintro _ ⟨⟩⟩ (by rintro e ⟨⟩)
  | string s => exact inOrder_ok ⟨.string s, by rintro _ ⟨⟩⟩ (by rintro e ⟨⟩)
  | sequence _ =>
    exact (inOrder_mapM fun x _ ↦ inOrder_jsonOf x).bind_pure.whole form_sequence_iff
      fun e ↦ refused_sequence_iff
  | mapping hkeys _ =>
    exact (inOrder_keyedArguments hkeys).bind_pure.whole form_mapping_iff
      fun e ↦ refused_mapping_iff

end Arguments

/-! ## Directives -/

namespace Directive

/-- A directive: a text, or arguments under one text. -/
inductive Form : Yaml → Prop
  | bare {v : Yaml} (h : v.IsText) : Form v
  | structured {kind args : Yaml} (hkind : kind.IsText) (h : Arguments.Form args) :
    Form (.mapping [(kind, args)])

inductive Refused : Yaml → Error → Prop
  | form {v : Yaml} (htext : ¬ v.IsText) (hone : ∀ kind args, v ≠ .mapping [(kind, args)]) :
    Refused v (.incomplete (.directiveForm v))
  | kind {kind args : Yaml} (h : ¬ kind.IsText) :
    Refused (.mapping [(kind, args)]) (.incomplete .directiveKindNotText)
  | arguments {kind args : Yaml} {e : Error} (hkind : kind.IsText) (h : Arguments.Refused args e) :
    Refused (.mapping [(kind, args)]) e

theorem inOrder_form_error {α : Type} {v : Yaml} (htext : ¬ v.IsText)
    (hone : ∀ kind args, v ≠ .mapping [(kind, args)]) :
    InOrder Form Refused [v] (.error (.incomplete (.directiveForm v)) : Except Error α) := by
  refine inOrder_error ?_ fun e ↦ ⟨?_, ?_⟩
  · rintro (h | _)
    · exact htext h
    · exact hone _ _ rfl
  · rintro (_ | _ | _)
    · rfl
    · exact absurd rfl (hone _ _)
    · exact absurd rfl (hone _ _)
  · rintro rfl
    exact .form htext hone

theorem form_structured_iff {kind args : Yaml} :
    Form (.mapping [(kind, args)]) ↔ kind.IsText ∧ Arguments.Form args := by
  constructor
  · rintro (⟨s, ⟨⟩⟩ | ⟨hkind, h⟩)
    exact ⟨hkind, h⟩
  · exact fun h ↦ .structured h.1 h.2

theorem refused_structured_iff {kind args : Yaml} {e : Error} :
    Refused (.mapping [(kind, args)]) e ↔
      ¬ kind.IsText ∧ e = .incomplete .directiveKindNotText ∨
        kind.IsText ∧ Arguments.Refused args e := by
  constructor
  · rintro (⟨-, hone⟩ | h | ⟨hkind, h⟩)
    · exact absurd rfl (hone kind args)
    · exact .inl ⟨h, rfl⟩
    · exact .inr ⟨hkind, h⟩
  · rintro (⟨h, rfl⟩ | ⟨hkind, h⟩)
    · exact .kind h
    · exact .arguments hkind h

theorem inOrder_ofYaml {v : Yaml} (h : v.Untagged) : InOrder Form Refused [v] (ofYaml v) := by
  cases h with
  | string s =>
    refine inOrder_ok (.bare ⟨s, rfl⟩) ?_
    rintro e ⟨htext, -⟩
    exact htext ⟨s, rfl⟩
  | null | bool b | number n | sequence h =>
    exact inOrder_form_error (by rintro ⟨s, ⟨⟩⟩) (by rintro kind args ⟨⟩)
  | @mapping entries hkeys hvalues =>
    rcases entries with _ | ⟨⟨kind, args⟩, _ | ⟨second, rest⟩⟩
    · exact inOrder_form_error (by rintro ⟨s, ⟨⟩⟩) (by rintro kind args ⟨⟩)
    · rcases (hkeys _ List.mem_cons_self).isText_or with ⟨s, hs⟩ | ⟨hkind, hnone⟩
      · cases hs
        have htext : IsText (.string s) := ⟨s, rfl⟩
        refine (Arguments.inOrder_ofYaml (hvalues _ List.mem_cons_self)).bind_pure.single
          (form_structured_iff.trans (and_iff_right htext)) fun e ↦
            refused_structured_iff.trans ?_
        rw [and_iff_right htext, or_iff_right fun h ↦ h.1 htext]
      · rw [ofYaml, hnone]
        refine inOrder_error (fun h ↦ hkind (form_structured_iff.1 h).1) fun e ↦
          refused_structured_iff.trans ?_
        rw [and_iff_right hkind, or_iff_left fun h ↦ hkind h.1]
    · exact inOrder_form_error (by rintro ⟨s, ⟨⟩⟩) (by rintro kind args ⟨⟩)

end Directive

end FeedHarvest.Dictionary
