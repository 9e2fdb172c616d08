import FeedHarvest.Dictionary.Compiler
import FeedHarvest.Proofs.Dictionary.Rendering

/-!
# Fields without a state

The compiler carries from directive to directive whether the field holds a collection by then. Here
the same steps are said without that: what a directive emits depends on the directives before it
through one question, whether one of them is a split. Compiled fields are equal to this, and what
they look like is read off from it.
-/

namespace FeedHarvest.Dictionary

open Pipeline (Step)

/-! ## What a directive emits -/

variable (target : String) (spec : FieldSpec)

/-- The steps that bring a value into place: a move and a copy unless they are to where the value
is, or, only where neither is asked for, the constant. -/
def relocation : List Step :=
  match spec.source, spec.copyFrom with
  | none, none =>
    match spec.constant with
    | some v => [.setConstant target v]
    | none => []
  | source, copyFrom =>
    (match source with
      | some f => if f = target then [] else [.rename f target]
      | none => []) ++
    (match copyFrom with
      | some f => if f = target then [] else [.copy f target]
      | none => [])

/-- Whether the field holds a collection after directives with these steps. -/
def holdsCollection (before : List (String → Step)) : Bool :=
  spec.isArray || before.any fun s ↦ (s target).isSplit

/-- The step of a directive, where the field calls for it. -/
def stepAfter (before : List (String → Step)) (s : String → Step) : Step :=
  match spec.nestedPath with
  | some ⟨container, inner⟩ => .foreach container (s (Pipeline.elementField ++ "." ++ inner))
  | none =>
    if holdsCollection target spec before then .foreach target (s Pipeline.elementField)
    else s target

/-- What is emitted for a directive after others: its step, and one that flattens what a lookup
found for the elements of a collection. -/
def emittedAfter (before : List (String → Step)) (s : String → Step) : List Step :=
  stepAfter target spec before s ::
    if holdsCollection target spec before && (s target).isMultiValueLookup then [.coalesce target]
    else []

/-- What is emitted for a field with directives that have these steps. -/
def emitted (steps : List (String → Step)) : List Step :=
  relocation target spec ++
    steps.zipIdx.flatMap fun (s, i) ↦ emittedAfter target spec (steps.take i) s

/-- Whether a directive renders to a step for every field. -/
def RendersTo (d : Directive) (s : String → Step) : Prop := ∀ field, render field d = .ok (s field)

variable {target spec}

/-! ## Rendered steps -/

section RendersTo

variable {d : Directive} {s : String → Step}

theorem RendersTo.exists_operation (h : RendersTo d s) :
    ∃ operation : Step, operation.IsOperation ∧ ∀ field, s field = operation.onField field := by
  obtain ⟨operation, hop, hrender⟩ := exists_operation_of_render (h "")
  exact ⟨operation, hop, fun field ↦ Except.ok.inj ((h field).symm.trans (hrender field))⟩

theorem RendersTo.isOperation (h : RendersTo d s) (field : String) : (s field).IsOperation := by
  obtain ⟨operation, hop, hs⟩ := h.exists_operation
  rw [hs]
  exact Step.isOperation_onField field hop

theorem RendersTo.isSplit_eq (h : RendersTo d s) (f g : String) :
    (s f).isSplit = (s g).isSplit := by
  obtain ⟨operation, -, hs⟩ := h.exists_operation
  rw [hs, hs, Step.isSplit_onField, Step.isSplit_onField]

theorem RendersTo.isMultiValueLookup_eq (h : RendersTo d s) (f g : String) :
    (s f).isMultiValueLookup = (s g).isMultiValueLookup := by
  obtain ⟨operation, -, hs⟩ := h.exists_operation
  rw [hs, hs, Step.isMultiValueLookup_onField, Step.isMultiValueLookup_onField]

theorem exists_rendersTo (h : ∃ field step, render field d = .ok step) : ∃ s, RendersTo d s := by
  obtain ⟨field, step, h⟩ := h
  obtain ⟨operation, -, hrender⟩ := exists_operation_of_render h
  exact ⟨fun f ↦ operation.onField f, hrender⟩

theorem exists_forall₂_rendersTo {ds : List Directive}
    (h : ∀ d ∈ ds, ∃ field step, render field d = .ok step) :
    ∃ steps, List.Forall₂ RendersTo ds steps := by
  induction ds with
  | nil => exact ⟨[], .nil⟩
  | cons d ds ih =>
    obtain ⟨s, hs⟩ := exists_rendersTo (h d List.mem_cons_self)
    obtain ⟨steps, hsteps⟩ := ih fun d' hd' ↦ h d' (List.mem_cons_of_mem d hd')
    exact ⟨s :: steps, .cons hs hsteps⟩

theorem exists_rendersTo_of_mem {ds : List Directive} {steps : List (String → Step)}
    (h : List.Forall₂ RendersTo ds steps) : ∀ s ∈ steps, ∃ d, RendersTo d s := by
  induction h with
  | nil => exact fun s hs ↦ absurd hs List.not_mem_nil
  | cons hd _ ih =>
    rintro s hs
    rcases List.mem_cons.1 hs with rfl | hs
    · exact ⟨_, hd⟩
    · exact ih s hs

/-! ## The compiler's steps -/

theorem placement_eq_relocation (target : String) (spec : FieldSpec) :
    placement target spec = relocation target spec := by
  rw [placement, relocation]
  cases spec.source with
  | none =>
    cases spec.copyFrom with
    | none => cases spec.constant <;> rfl
    | some g => by_cases hg : g = target <;> simp [Option.filter, hg]
  | some f =>
    cases spec.copyFrom with
    | none => by_cases hf : f = target <;> simp [Option.filter, hf]
    | some g =>
      by_cases hf : f = target <;> by_cases hg : g = target <;> simp [Option.filter, hf, hg]

variable {before : List (String → Step)}

private theorem place_eq (h : RendersTo d s) :
    place target spec (holdsCollection target spec before) d
      = .ok (stepAfter target spec before s) := by
  rw [place, stepAfter]
  cases spec.nestedPath with
  | some path =>
    simp only [elementPath, h (Pipeline.elementField ++ "." ++ path.inner)]
    rfl
  | none =>
    cases holdsCollection target spec before with
    | true =>
      simp only [h Pipeline.elementField, if_true]
      rfl
    | false => exact h target

private theorem isSplit_stepAfter (h : RendersTo d s) :
    (stepAfter target spec before s).isSplit = (s target).isSplit := by
  rw [stepAfter]
  split
  · rw [Step.isSplit_foreach, h.isSplit_eq]
  · split
    · rw [Step.isSplit_foreach, h.isSplit_eq]
    · rfl

private theorem isMultiValueLookup_stepAfter (h : RendersTo d s) :
    (stepAfter target spec before s).isMultiValueLookup = (s target).isMultiValueLookup := by
  rw [stepAfter]
  split
  · rw [Step.isMultiValueLookup_foreach, h.isMultiValueLookup_eq]
  · split
    · rw [Step.isMultiValueLookup_foreach, h.isMultiValueLookup_eq]
    · rfl

private theorem holdsCollection_append (before : List (String → Step)) (s : String → Step) :
    holdsCollection target spec (before ++ [s])
      = (holdsCollection target spec before || (s target).isSplit) := by
  rw [holdsCollection, holdsCollection, List.any_append, Bool.or_assoc, List.any_cons, List.any_nil,
    Bool.or_false]

/-- What is carried along is what the directives before say. The induction is on those that are
left. -/
theorem transform_eq {ds : List Directive} {steps : List (String → Step)}
    (h : List.Forall₂ RendersTo ds steps) (before : List (String → Step)) :
    transform target spec (holdsCollection target spec before) ds
      = .ok ((steps.zipIdx before.length).flatMap fun (s, i) ↦
          emittedAfter target spec ((before ++ steps).take i) s) := by
  induction h generalizing before with
  | nil => rfl
  | @cons d s ds steps hd _ ih =>
    have hrest := ih (before ++ [s])
    rw [holdsCollection_append, List.length_append, List.append_assoc] at hrest
    rw [transform, place_eq hd]
    simp only [bind, Except.bind, isSplit_stepAfter hd, isMultiValueLookup_stepAfter hd]
    rw [hrest, List.zipIdx_cons, List.flatMap_cons, List.take_left, emittedAfter]
    rfl

theorem compileField_eq_emitted {steps : List (String → Step)}
    (h : List.Forall₂ RendersTo spec.transformations steps) :
    compileField target spec = .ok (emitted target spec steps) := by
  have htransform : transform target spec (holdsCollection target spec []) spec.transformations
      = .ok _ := transform_eq h []
  rw [holdsCollection, List.any_nil, Bool.or_false] at htransform
  rw [compileField, htransform, placement_eq_relocation]
  rfl

/-! ## What the steps look like -/

/-- The kinds of step in a compiled field. -/
inductive EmittedKind (target : String) : Step → Prop
  | constant (value : Json) : EmittedKind target (.setConstant target value)
  | moved {source : String} (h : source ≠ target) : EmittedKind target (.rename source target)
  | copied {source : String} (h : source ≠ target) : EmittedKind target (.copy source target)
  | operation {s : Step} (h : s.IsOperation) : EmittedKind target s
  | forEach (container : String) {s : Step} (h : s.IsOperation) :
      EmittedKind target (.foreach container s)
  | flattened : EmittedKind target (.coalesce target)

private theorem kind_of_mem_relocation {step : Step} (h : step ∈ relocation target spec) :
    EmittedKind target step := by
  rw [relocation] at h
  split at h
  · split at h
    · rw [List.mem_singleton.1 h]
      exact .constant _
    · cases h
  · rcases List.mem_append.1 h with h | h
    · split at h
      · split at h
        · cases h
        · next hne =>
          rw [List.mem_singleton.1 h]
          exact .moved hne
      · cases h
    · split at h
      · split at h
        · cases h
        · next hne =>
          rw [List.mem_singleton.1 h]
          exact .copied hne
      · cases h

/-- A step stands alone or is wrapped once; once the field holds a collection, it is wrapped. -/
theorem stepAfter_eq (target : String) (spec : FieldSpec) (before : List (String → Step))
    (s : String → Step) :
    (∃ f g, stepAfter target spec before s = .foreach f (s g)) ∨
      stepAfter target spec before s = s target ∧ holdsCollection target spec before = false := by
  rw [stepAfter]
  split
  · exact .inl ⟨_, _, rfl⟩
  · split
    · exact .inl ⟨_, _, rfl⟩
    · next h => exact .inr ⟨rfl, Bool.eq_false_iff.2 h⟩

private theorem stepAfter_ne_coalesce (h : RendersTo d s) (before : List (String → Step))
    (field : String) : stepAfter target spec before s ≠ .coalesce field := by
  intro heq
  rcases stepAfter_eq target spec before s with ⟨f, g, hstep⟩ | ⟨hstep, -⟩
  · cases hstep.symm.trans heq
  · have hop := h.isOperation target
    rw [← hstep, heq] at hop
    exact hop

theorem kind_of_mem_emitted {steps : List (String → Step)} {step : Step}
    (h : ∀ s ∈ steps, ∃ d, RendersTo d s) (hmem : step ∈ emitted target spec steps) :
    EmittedKind target step := by
  rcases List.mem_append.1 hmem with hmem | hmem
  · exact kind_of_mem_relocation hmem
  · obtain ⟨⟨s, i⟩, hs, hmem⟩ := List.mem_flatMap.1 hmem
    obtain ⟨d, hd⟩ := h s (List.fst_mem_of_mem_zipIdx hs)
    rcases List.mem_cons.1 hmem with rfl | hmem
    · rcases stepAfter_eq target spec (steps.take i) s with ⟨f, g, hstep⟩ | ⟨hstep, -⟩
      · rw [hstep]
        exact .forEach f (hd.isOperation g)
      · rw [hstep]
        exact .operation (hd.isOperation target)
    · split at hmem
      · rw [List.mem_singleton.1 hmem]
        exact .flattened
      · cases hmem

/-- Whether every flattening comes right after a lookup that finds several values for each element
of a collection. -/
def FlattensLookups (steps : List Step) : Prop :=
  ∀ before field after, steps = before ++ .coalesce field :: after →
    ∃ earlier container f t u p m,
      before = earlier ++ [.foreach container (.lookup f t u p true m)]

theorem flattensLookups_of_forall_ne {steps : List Step}
    (h : ∀ field, Step.coalesce field ∉ steps) : FlattensLookups steps := by
  rintro before field after rfl
  exact absurd (List.mem_append_right before List.mem_cons_self) (h field)

theorem FlattensLookups.append {as bs : List Step} (ha : FlattensLookups as)
    (hb : FlattensLookups bs) : FlattensLookups (as ++ bs) := by
  intro before field after heq
  rcases List.append_eq_append_iff.1 heq with ⟨mid, rfl, hbs⟩ | ⟨mid, has, hmid⟩
  · obtain ⟨earlier, container, f, t, u, p, m, rfl⟩ := hb mid field after hbs
    exact ⟨as ++ earlier, container, f, t, u, p, m, by rw [List.append_assoc]⟩
  · cases mid with
    | nil =>
      obtain ⟨earlier, container, f, t, u, p, m, h⟩ := hb [] field after hmid.symm
      simp at h
    | cons x mid =>
      rw [List.cons_append, List.cons.injEq] at hmid
      obtain ⟨rfl, -⟩ := hmid
      exact ha before field mid has

private theorem flattensLookups_flatMap {α : Type} {as : List α} {steps : α → List Step}
    (h : ∀ a ∈ as, FlattensLookups (steps a)) : FlattensLookups (as.flatMap steps) := by
  induction as with
  | nil => exact flattensLookups_of_forall_ne fun _ ↦ List.not_mem_nil
  | cons a as ih =>
    rw [List.flatMap_cons]
    exact (h a List.mem_cons_self).append (ih fun b hb ↦ h b (List.mem_cons_of_mem a hb))

private theorem flattensLookups_emittedAfter (h : RendersTo d s) (before : List (String → Step)) :
    FlattensLookups (emittedAfter target spec before s) := by
  rintro earlier field after heq
  rw [emittedAfter] at heq
  have hne : stepAfter target spec before s ≠ .coalesce field :=
    stepAfter_ne_coalesce h before field
  cases earlier with
  | nil => exact absurd (List.cons.inj heq).1 hne
  | cons x earlier =>
    obtain ⟨rfl, hrest⟩ := List.cons.inj heq
    split at hrest
    · next hlookup =>
      obtain ⟨hcollection, hmulti⟩ := Bool.and_eq_true_iff.1 hlookup
      rcases stepAfter_eq target spec before s with ⟨f, g, hstep⟩ | ⟨-, hsingle⟩
      · rw [h.isMultiValueLookup_eq target g] at hmulti
        obtain ⟨f', t, u, p, m, hs⟩ := (h.isOperation g).exists_lookup hmulti
        rw [hs] at hstep
        cases earlier with
        | nil => exact ⟨[], f, f', t, u, p, m, by rw [hstep]; rfl⟩
        | cons y earlier =>
          have hlength := congrArg List.length hrest
          simp at hlength
      · rw [hsingle] at hcollection
        cases hcollection
    · simp at hrest

private theorem flattensLookups_emitted {steps : List (String → Step)}
    (h : ∀ s ∈ steps, ∃ d, RendersTo d s) : FlattensLookups (emitted target spec steps) := by
  refine FlattensLookups.append (flattensLookups_of_forall_ne fun field hmem ↦ ?_)
    (flattensLookups_flatMap fun ⟨s, i⟩ hs ↦ ?_)
  · grind [relocation]
  · obtain ⟨d, hd⟩ := h s (List.fst_mem_of_mem_zipIdx hs)
    exact flattensLookups_emittedAfter hd (steps.take i)

end RendersTo

/-- A field whose directives all render compiles to what each directive emits after those before
it, said without the state that the compiler carries along. So no step over a collection wraps
another one, nothing is moved or copied to where it is, and flattening comes right after the lookup
that calls for it. -/
theorem compileField_eq_reference (target : String) (spec : FieldSpec)
    (h : ∀ d ∈ spec.transformations, ∃ field step, render field d = .ok step) :
    ∃ steps : List (String → Step),
      List.Forall₂ (fun d s ↦ ∀ field, render field d = .ok (s field)) spec.transformations steps ∧
      compileField target spec = .ok (emitted target spec steps) ∧
      (∀ field inner, .foreach field inner ∈ emitted target spec steps →
        ∀ field' inner', inner ≠ .foreach field' inner') ∧
      (∀ f t, .rename f t ∈ emitted target spec steps ∨ .copy f t ∈ emitted target spec steps →
        f ≠ t) ∧
      ∀ before field after, emitted target spec steps = before ++ .coalesce field :: after →
        ∃ earlier container f t u p m,
          before = earlier ++ [.foreach container (.lookup f t u p true m)] := by
  obtain ⟨steps, hsteps⟩ := exists_forall₂_rendersTo h
  have hmem := exists_rendersTo_of_mem hsteps
  refine ⟨steps, hsteps, compileField_eq_emitted hsteps, fun field inner hstep ↦ ?_,
    fun f t hstep ↦ ?_, flattensLookups_emitted hmem⟩
  · rintro field' inner' rfl
    cases kind_of_mem_emitted hmem hstep with
    | operation h => exact h
    | forEach _ h => exact h
  · rcases hstep with hstep | hstep
    · cases kind_of_mem_emitted hmem hstep with
      | moved hne => exact hne
      | operation h => exact h.elim
    · cases kind_of_mem_emitted hmem hstep with
      | copied hne => exact hne
      | operation h => exact h.elim

/-- The field holds a collection from the second directive on, and what the lookup finds for each
element is flattened. -/
theorem compileField_eq_reference_of_split :
    let spec : FieldSpec := {
      source := some "labels", copyFrom := some "tags", constant := some .null
      transformations := [.structured "split" (.scalar (.string ",")),
        .structured "external_mapping" (.keyed [("url", .string "http://geo/"),
          ("result_path", .string "$.name"), ("multi_value", .bool true)])] }
    (∀ d ∈ spec.transformations, ∃ field step, render field d = .ok step) ∧
      ∃ steps : List (String → Step),
        compileField "tags" spec = .ok (emitted "tags" spec steps) ∧
        emitted "tags" spec steps = [.rename "labels" "tags", .split "tags" "," true,
          .foreach "tags"
            (.lookup Pipeline.elementField Pipeline.elementField "http://geo/" "$.name" true true),
          .coalesce "tags"] := by
  intro spec
  have hrender : ∀ d ∈ spec.transformations, ∃ field step, render field d = .ok step := by
    intro d hd
    simp only [spec, List.mem_cons, List.not_mem_nil, or_false] at hd
    rcases hd with rfl | rfl
    · exact ⟨"tags", _, rfl⟩
    · exact ⟨"tags", _, rfl⟩
  obtain ⟨steps, -, hcompile, -⟩ := compileField_eq_reference "tags" spec hrender
  exact ⟨hrender, steps, hcompile, Except.ok.inj (hcompile.symm.trans rfl)⟩

end FeedHarvest.Dictionary
