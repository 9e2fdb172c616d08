import FeedHarvest.Dictionary.Compiler
import FeedHarvest.Proofs.Dictionary.Rendering

/-!
# Compilation field by field

What the compiler knows about a field it forgets with the field, so the steps of fields are the
steps of each, one block after the other, and a field can be put anywhere among others without a
change to their steps. Names may repeat.

Compilation fails as a whole. Whether a directive renders does not depend on the field or on what
came before it, so the error is that of the first directive that cannot be rendered, counted through
the fields in order. That is `FirstFailure`, and it is met twice: in the directives of a field, and
in the fields of a dictionary.
-/

namespace FeedHarvest.Dictionary

open Pipeline (Step)

/-! ## The first failure -/

section FirstFailure

variable {α : Type} {passes : α → Prop} {fails : α → Error → Prop} {a : α} {as : List α} {e : Error}

/-- Whether an error is that of an item of a list all of whose items before it pass. -/
def FirstFailure (passes : α → Prop) (fails : α → Error → Prop) (as : List α) (e : Error) : Prop :=
  ∃ before a after, as = before ++ a :: after ∧ (∀ b ∈ before, passes b) ∧ fails a e

theorem not_firstFailure_nil : ¬ FirstFailure passes fails [] e := by
  rintro ⟨before, a, after, h, -⟩
  simp at h

theorem firstFailure_cons_iff :
    FirstFailure passes fails (a :: as) e ↔
      fails a e ∨ passes a ∧ FirstFailure passes fails as e := by
  constructor
  · rintro ⟨before, x, after, h, hbefore, hx⟩
    rcases List.cons_eq_append_iff.1 h with ⟨rfl, h⟩ | ⟨before, rfl, rfl⟩
    · obtain ⟨rfl, rfl⟩ := List.cons.inj h
      exact .inl hx
    · refine .inr ⟨hbefore a List.mem_cons_self, before, x, after, rfl, fun b hb ↦ ?_, hx⟩
      exact hbefore b (List.mem_cons_of_mem a hb)
  · rintro (ha | ⟨ha, before, x, after, rfl, hbefore, hx⟩)
    · exact ⟨[], a, as, rfl, fun b hb ↦ absurd hb List.not_mem_nil, ha⟩
    · refine ⟨a :: before, x, after, rfl, fun b hb ↦ ?_, hx⟩
      rcases List.mem_cons.1 hb with rfl | hb
      · exact ha
      · exact hbefore b hb

/-- Where each item passes or fails, a list without a first failure passes. -/
theorem forall_passes_or_exists_firstFailure (h : ∀ a, passes a ∨ ∃ e, fails a e) (as : List α) :
    (∀ a ∈ as, passes a) ∨ ∃ e, FirstFailure passes fails as e := by
  induction as with
  | nil => exact .inl fun a ha ↦ absurd ha List.not_mem_nil
  | cons a as ih =>
    rcases h a with ha | ⟨e, he⟩
    · rcases ih with has | ⟨e, he⟩
      · exact .inl (List.forall_mem_cons.2 ⟨ha, has⟩)
      · exact .inr ⟨e, firstFailure_cons_iff.2 (.inr ⟨ha, he⟩)⟩
    · exact .inr ⟨e, firstFailure_cons_iff.2 (.inl he)⟩

end FirstFailure

/-! ## Directives -/

namespace Directive

/-- Whether a directive renders, whatever the field. -/
def Renders (d : Directive) : Prop := ∀ field, ∃ step, render field d = .ok step

/-- Whether rendering a directive fails with an error, whatever the field. -/
def FailsWith (d : Directive) (e : Error) : Prop := ∀ field, render field d = .error e

variable {d : Directive} {e : Error}

theorem renders_or_failsWith (d : Directive) : d.Renders ∨ ∃ e, d.FailsWith e := by
  obtain ⟨r, -, hrender⟩ := uniform_render d
  cases r with
  | error e => exact .inr ⟨e, hrender⟩
  | ok s => exact .inl fun field ↦ ⟨_, hrender field⟩

theorem Renders.not_failsWith (h : d.Renders) : ¬ d.FailsWith e := by
  intro he
  obtain ⟨step, hstep⟩ := h ""
  cases hstep.symm.trans (he "")

theorem FailsWith.eq {e₁ e₂ : Error} (h₁ : d.FailsWith e₁) (h₂ : d.FailsWith e₂) : e₁ = e₂ :=
  Except.error.inj ((h₁ "").symm.trans (h₂ ""))

end Directive

/-- Whether all directives of a field render. -/
def FieldSpec.Renders (spec : FieldSpec) : Prop := ∀ d ∈ spec.transformations, d.Renders

/-- Whether an error is that of the first directive of a field that does not render. -/
def FieldSpec.FailsWith (spec : FieldSpec) (e : Error) : Prop :=
  FirstFailure Directive.Renders Directive.FailsWith spec.transformations e

theorem FieldSpec.renders_or_failsWith (spec : FieldSpec) :
    spec.Renders ∨ ∃ e, spec.FailsWith e :=
  forall_passes_or_exists_firstFailure Directive.renders_or_failsWith spec.transformations

/-! ## One field -/

section Field

variable {target : String} {spec : FieldSpec} {isCollection : Bool} {d : Directive} {e : Error}

/-- Where the step of a directive is placed has no part in whether there is one. -/
theorem exists_place_of_renders (h : d.Renders) :
    ∃ step, place target spec isCollection d = .ok step := by
  rw [place]
  split
  · next path _ =>
    obtain ⟨step, hstep⟩ := h (elementPath path)
    exact ⟨_, bind_pure_eq_ok_iff.2 ⟨step, hstep, rfl⟩⟩
  · split
    · obtain ⟨step, hstep⟩ := h Pipeline.elementField
      exact ⟨_, bind_pure_eq_ok_iff.2 ⟨step, hstep, rfl⟩⟩
    · exact h target

private theorem place_of_failsWith (h : d.FailsWith e) :
    place target spec isCollection d = .error e := by
  rw [place]
  split
  · exact bind_pure_eq_error_iff.2 (h _)
  · split
    · exact bind_pure_eq_error_iff.2 (h _)
    · exact h target

/-- The state that is carried from directive to directive does not enter the error. -/
theorem transform_eq_error_iff {ds : List Directive} :
    transform target spec isCollection ds = .error e ↔
      FirstFailure Directive.Renders Directive.FailsWith ds e := by
  -- a split turns the field into a collection, so the induction is for either
  induction ds generalizing isCollection with
  | nil => exact iff_of_false (by rintro ⟨⟩) not_firstFailure_nil
  | cons d ds ih =>
    rw [firstFailure_cons_iff]
    rcases d.renders_or_failsWith with hd | ⟨e', hd⟩
    · obtain ⟨step, hstep⟩ : ∃ step, place target spec isCollection d = .ok step :=
        exists_place_of_renders hd
      rw [transform, hstep]
      refine bind_pure_eq_error_iff.trans (ih.trans ?_)
      exact ⟨fun h ↦ .inr ⟨hd, h⟩, fun h ↦ (h.resolve_left hd.not_failsWith).2⟩
    · rw [transform, place_of_failsWith hd]
      constructor
      · rintro ⟨⟩
        exact .inl hd
      · rintro (h | ⟨h, -⟩)
        · rw [h.eq hd]
          rfl
        · exact absurd hd h.not_failsWith

theorem compileField_eq_error_iff : compileField target spec = .error e ↔ spec.FailsWith e :=
  bind_pure_eq_error_iff.trans transform_eq_error_iff

private theorem exists_compileField_of_renders (h : spec.Renders) :
    ∃ steps, compileField target spec = .ok steps := by
  cases hsteps : compileField target spec with
  | ok steps => exact ⟨steps, rfl⟩
  | error e =>
    obtain ⟨before, d, after, hds, -, hd⟩ := compileField_eq_error_iff.1 hsteps
    have hmem : d ∈ spec.transformations := hds ▸ List.mem_append_right _ List.mem_cons_self
    exact absurd hd (h d hmem).not_failsWith

theorem compileField_of_isPassive (h : spec.isPassive = true) :
    compileField target spec = .ok [] := by
  simp only [FieldSpec.isPassive, Bool.and_eq_true, List.isEmpty_iff, Option.isNone_iff_eq_none]
    at h
  obtain ⟨⟨⟨htransformations, hsource⟩, hcopyFrom⟩, hconstant⟩ := h
  rw [compileField, htransformations, placement, hsource, hcopyFrom, hconstant]
  rfl

end Field

/-! ## Fields one after the other -/

section Fields

variable {F G : List (String × FieldSpec)} {name target : String} {spec : FieldSpec} {e : Error}

theorem compileFields_cons_eq_ok_iff {steps : List Step} :
    compileFields ((target, spec) :: F) = .ok steps ↔
      ∃ block rest, compileField target spec = .ok block ∧ compileFields F = .ok rest ∧
        steps = block ++ rest := by
  rw [compileFields]
  cases compileField target spec with
  | error e => exact iff_of_false (by rintro ⟨⟩) (by rintro ⟨block, rest, h, -⟩; cases h)
  | ok block =>
    refine bind_pure_eq_ok_iff.trans ⟨?_, ?_⟩
    · rintro ⟨rest, hrest, rfl⟩
      exact ⟨block, rest, rfl, hrest, rfl⟩
    · rintro ⟨block', rest, ⟨⟩, hrest, rfl⟩
      exact ⟨rest, hrest, rfl⟩

theorem compileFields_append_eq_ok_iff {steps : List Step} :
    compileFields (F ++ G) = .ok steps ↔
      ∃ first second, compileFields F = .ok first ∧ compileFields G = .ok second ∧
        steps = first ++ second := by
  induction F generalizing steps with
  | nil => simp [compileFields]
  | cons f F ih =>
    obtain ⟨target, spec⟩ := f
    rw [List.cons_append, compileFields_cons_eq_ok_iff]
    constructor
    · rintro ⟨block, rest, hblock, hrest, rfl⟩
      obtain ⟨first, second, hfirst, hsecond, rfl⟩ := ih.1 hrest
      refine ⟨block ++ first, second, ?_, hsecond, by rw [List.append_assoc]⟩
      exact compileFields_cons_eq_ok_iff.2 ⟨block, first, hblock, hfirst, rfl⟩
    · rintro ⟨first, second, hfirst, hsecond, rfl⟩
      obtain ⟨block, rest, hblock, hrest, rfl⟩ := compileFields_cons_eq_ok_iff.1 hfirst
      refine ⟨block, rest ++ second, hblock, ?_, by rw [List.append_assoc]⟩
      exact ih.2 ⟨rest, second, hrest, hsecond, rfl⟩

theorem compileFields_eq_error_iff :
    compileFields F = .error e ↔
      FirstFailure (fun f ↦ f.2.Renders) (fun f ↦ f.2.FailsWith) F e := by
  induction F with
  | nil => exact iff_of_false (by rintro ⟨⟩) not_firstFailure_nil
  | cons f F ih =>
    obtain ⟨target, spec⟩ := f
    rw [firstFailure_cons_iff, compileFields]
    cases hfield : compileField target spec with
    | error e' =>
      have hfails : spec.FailsWith e' := compileField_eq_error_iff.1 hfield
      constructor
      · rintro ⟨⟩
        exact .inl hfails
      · rintro (h | ⟨h, -⟩)
        · rw [← compileField_eq_error_iff, hfield] at h
          exact h
        · obtain ⟨steps, hsteps⟩ : ∃ steps, compileField target spec = .ok steps :=
            exists_compileField_of_renders h
          cases hfield.symm.trans hsteps
    | ok steps =>
      have hnot : ∀ e', ¬ spec.FailsWith e' := by
        intro e' h
        cases hfield.symm.trans (compileField_eq_error_iff.2 h)
      have hrenders : spec.Renders := by
        refine spec.renders_or_failsWith.resolve_right ?_
        rintro ⟨e', h⟩
        exact hnot e' h
      refine bind_pure_eq_error_iff.trans (ih.trans ?_)
      exact ⟨fun h ↦ .inr ⟨hrenders, h⟩, fun h ↦ (h.resolve_left (hnot e)).2⟩

/-- A field without steps can be left out, whether the others compile or not. -/
theorem compileFields_insert_of_isPassive (h : spec.isPassive = true) :
    compileFields (F ++ (target, spec) :: G) = compileFields (F ++ G) := by
  induction F with
  | nil =>
    rw [List.nil_append, List.nil_append, compileFields, compileField_of_isPassive h]
    cases compileFields G <;> rfl
  | cons f F ih =>
    obtain ⟨target', spec'⟩ := f
    rw [List.cons_append, List.cons_append, compileFields, compileFields, ih]

end Fields

/-! ## Dictionaries -/

section Dictionaries

variable {F G : List (String × FieldSpec)} {name target : String} {spec : FieldSpec}
  {d : Dictionary} {p : Pipeline} {e : Error}

theorem compile_eq_ok_iff :
    compile name d = .ok p ↔ ∃ steps, compileFields d.fields = .ok steps ∧ p = .named name steps :=
  bind_pure_eq_ok_iff

theorem compile_eq_error_iff : compile name d = .error e ↔ compileFields d.fields = .error e :=
  bind_pure_eq_error_iff

theorem compile_append_eq_ok_iff (u v w : List String) :
    compile name ⟨F ++ G, u⟩ = .ok p ↔
      ∃ q r, compile name ⟨F, v⟩ = .ok q ∧ compile name ⟨G, w⟩ = .ok r ∧
        p = .named name (q.steps ++ r.steps) := by
  rw [compile_eq_ok_iff]
  constructor
  · rintro ⟨steps, hsteps, rfl⟩
    obtain ⟨first, second, hfirst, hsecond, rfl⟩ := compileFields_append_eq_ok_iff.1 hsteps
    exact ⟨.named name first, .named name second, compile_eq_ok_iff.2 ⟨first, hfirst, rfl⟩,
      compile_eq_ok_iff.2 ⟨second, hsecond, rfl⟩, rfl⟩
  · rintro ⟨q, r, hq, hr, rfl⟩
    obtain ⟨first, hfirst, rfl⟩ := compile_eq_ok_iff.1 hq
    obtain ⟨second, hsecond, rfl⟩ := compile_eq_ok_iff.1 hr
    exact ⟨_, compileFields_append_eq_ok_iff.2 ⟨first, second, hfirst, hsecond, rfl⟩, rfl⟩

theorem compile_cons_eq_ok_iff (u v : List String) :
    compile name ⟨(target, spec) :: F, u⟩ = .ok p ↔
      ∃ block q, compileField target spec = .ok block ∧ compile name ⟨F, v⟩ = .ok q ∧
        p = .named name (block ++ q.steps) := by
  rw [compile_eq_ok_iff]
  constructor
  · rintro ⟨steps, hsteps, rfl⟩
    obtain ⟨block, rest, hblock, hrest, rfl⟩ := compileFields_cons_eq_ok_iff.1 hsteps
    exact ⟨block, .named name rest, hblock, compile_eq_ok_iff.2 ⟨rest, hrest, rfl⟩, rfl⟩
  · rintro ⟨block, q, hblock, hq, rfl⟩
    obtain ⟨rest, hrest, rfl⟩ := compile_eq_ok_iff.1 hq
    exact ⟨_, compileFields_cons_eq_ok_iff.2 ⟨block, rest, hblock, hrest, rfl⟩, rfl⟩

/-- The field's steps stand between those of the fields before it and those of the fields after. -/
theorem compile_insert_eq_ok_iff (u v w : List String) :
    compile name ⟨F ++ (target, spec) :: G, u⟩ = .ok p ↔
      ∃ q block r, compile name ⟨F, v⟩ = .ok q ∧ compileField target spec = .ok block ∧
        compile name ⟨G, w⟩ = .ok r ∧
        compile name ⟨F ++ G, u⟩ = .ok (.named name (q.steps ++ r.steps)) ∧
        p = .named name (q.steps ++ block ++ r.steps) := by
  rw [compile_append_eq_ok_iff u v w]
  constructor
  · rintro ⟨q, t, hq, ht, rfl⟩
    obtain ⟨block, r, hblock, hr, rfl⟩ := (compile_cons_eq_ok_iff w w).1 ht
    refine ⟨q, block, r, hq, hblock, hr, ?_, by rw [List.append_assoc]; rfl⟩
    exact (compile_append_eq_ok_iff u v w).2 ⟨q, r, hq, hr, rfl⟩
  · rintro ⟨q, block, r, hq, hblock, hr, -, rfl⟩
    refine ⟨q, .named name (block ++ r.steps), hq, ?_, by rw [List.append_assoc]; rfl⟩
    exact (compile_cons_eq_ok_iff w w).2 ⟨block, r, hblock, hr, rfl⟩

end Dictionaries

/-- **Fields compile one by one.** Two lists of fields compile together exactly when both compile,
and then to the steps of the first and those of the second; so a field put anywhere among others
brings its own steps as one block and changes nothing else, and a passive one changes nothing at
all. When compilation fails, it is with the error of the first directive that does not render, in
the first field that has one. The unique fields have no part in it. -/
theorem compile_field_by_field (name : String) (F G : List (String × FieldSpec))
    (u v w : List String) :
    (∀ p, compile name ⟨F ++ G, u⟩ = .ok p ↔
      ∃ q r, compile name ⟨F, v⟩ = .ok q ∧ compile name ⟨G, w⟩ = .ok r ∧
        p = .named name (q.steps ++ r.steps)) ∧
    (∀ target spec p, compile name ⟨F ++ (target, spec) :: G, u⟩ = .ok p ↔
      ∃ q block r, compile name ⟨F, v⟩ = .ok q ∧ compileField target spec = .ok block ∧
        compile name ⟨G, w⟩ = .ok r ∧
        compile name ⟨F ++ G, u⟩ = .ok (.named name (q.steps ++ r.steps)) ∧
        p = .named name (q.steps ++ block ++ r.steps)) ∧
    (∀ e, compile name ⟨F, u⟩ = .error e ↔
      ∃ before target spec after, F = before ++ (target, spec) :: after ∧
        (∀ f ∈ before, ∀ d ∈ f.2.transformations, d.Renders) ∧
        ∃ earlier d later, spec.transformations = earlier ++ d :: later ∧
          (∀ d' ∈ earlier, d'.Renders) ∧ d.FailsWith e) ∧
    ∀ target spec, spec.isPassive = true →
      compile name ⟨F ++ (target, spec) :: G, u⟩ = compile name ⟨F ++ G, u⟩ := by
  refine ⟨fun p ↦ compile_append_eq_ok_iff u v w,
    fun target spec p ↦ compile_insert_eq_ok_iff u v w, fun e ↦ ?_, fun target spec h ↦ ?_⟩
  · rw [compile_eq_error_iff, compileFields_eq_error_iff]
    constructor
    · rintro ⟨before, ⟨target, spec⟩, after, hF, hbefore, hspec⟩
      exact ⟨before, target, spec, after, hF, hbefore, hspec⟩
    · rintro ⟨before, target, spec, after, hF, hbefore, hspec⟩
      exact ⟨before, (target, spec), after, hF, hbefore, hspec⟩
  · simp only [compile, compileFields_insert_of_isPassive h]

/-- The field after a split is no collection, and a passive collection between them goes by
unseen. -/
theorem compile_field_by_field_of_split :
    let tags : FieldSpec := { transformations := [.structured "split" (.scalar (.string ","))] }
    let note : FieldSpec := { isArray := true }
    let title : FieldSpec := { transformations := [.bare "downcase"] }
    note.isPassive = true ∧
      compile "works" ⟨[("tags", tags), ("note", note), ("title", title)], []⟩
        = .ok (.named "works" [.split "tags" "," true, .lowercase "title" true]) := by
  intro tags note title
  have hnote : note.isPassive = true := rfl
  have htags : compile "works" ⟨[("tags", tags)], []⟩
      = .ok (.named "works" [.split "tags" "," true]) := rfl
  have htitle : compile "works" ⟨[("title", title)], []⟩
      = .ok (.named "works" [.lowercase "title" true]) := rfl
  obtain ⟨hboth, -, -, hpassive⟩ :=
    compile_field_by_field "works" [("tags", tags)] [("title", title)] [] [] []
  refine ⟨hnote, (hpassive "note" note hnote).trans ?_⟩
  exact (hboth _).2 ⟨_, _, htags, htitle, rfl⟩

end FeedHarvest.Dictionary
