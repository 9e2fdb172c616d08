import FeedHarvest.Proofs.Dictionary.Compiler
import FeedHarvest.Proofs.Dictionary.Composition

/-!
# The marks of a field

A field may be marked as a collection, and as one that is nested in the elements of another field.
The marks say where the directives of the field work. That they say nothing else is a statement
about two compilations, of one dictionary with the marks of a field set differently.

The two are not followed side by side. What a compilation does, apart from the places where it does
it, is read off its steps as `operations` and the steps without their names, and this turns out to
be said by the directives alone. Whether a field compiles, and with which error it does not, depends
on no mark in the first place.
-/

namespace FeedHarvest

namespace Pipeline.Step

/-! ## What is done, and where -/

/-- Whether the step flattens a collection. -/
def isCoalesce : Step → Bool
  | coalesce _ => true
  | _ => false

/-- The step without the names of the field that it works on. Moving, copying and setting a field
are told apart by the names, and keep them. -/
def nameless (s : Step) : Step := s.onField ""

/-- What steps do: the steps inside all wrappers, without the flattening between them. -/
def operations (steps : List Step) : List Step :=
  (steps.map innermost).filter fun s ↦ !s.isCoalesce

theorem onField_onField (f g : String) (s : Step) : (s.onField f).onField g = s.onField g := by
  cases s <;> rfl

theorem IsOperation.innermost_eq {s : Step} (h : s.IsOperation) : s.innermost = s := by
  cases s with
  | foreach => exact h.elim
  | _ => rfl

private theorem IsOperation.isCoalesce_eq {s : Step} (h : s.IsOperation) :
    s.isCoalesce = false := by
  cases s with
  | coalesce => exact h.elim
  | _ => rfl

@[simp] theorem innermost_foreach (field : String) (s : Step) :
    (foreach field s).innermost = s.innermost := rfl

theorem operations_append (as bs : List Step) :
    operations (as ++ bs) = operations as ++ operations bs := by
  rw [operations, List.map_append, List.filter_append, operations, operations]

theorem operations_flatMap {α : Type} (as : List α) (steps : α → List Step) :
    operations (as.flatMap steps) = as.flatMap fun a ↦ operations (steps a) := by
  induction as with
  | nil => rfl
  | cons a as ih => rw [List.flatMap_cons, List.flatMap_cons, operations_append, ih]

end Pipeline.Step

namespace Dictionary

open Pipeline (Step)
open Pipeline.Step (operations nameless)

/-! ## Directives -/

section Directives

variable {target : String} {spec : FieldSpec} {d : Directive} {s : String → Step}
  {steps : List (String → Step)}

private theorem RendersTo.nameless_eq (h : RendersTo d s) (field : String) :
    (s field).nameless = s "" := by
  obtain ⟨operation, -, hs⟩ := h.exists_operation
  rw [hs, hs, nameless, Step.onField_onField]

/-- A directive does its own operation, and nothing that its place would add. -/
theorem operations_emittedAfter (h : RendersTo d s) (before : List (String → Step)) :
    (operations (emittedAfter target spec before s)).map nameless = [s ""] := by
  obtain ⟨field, hinner⟩ :
      ∃ field, (stepAfter target spec before s).innermost = s field := by
    rcases stepAfter_eq target spec before s with ⟨f, g, hstep⟩ | ⟨hstep, -⟩
    · exact ⟨g, by rw [hstep, Step.innermost_foreach, (h.isOperation g).innermost_eq]⟩
    · exact ⟨target, by rw [hstep, (h.isOperation target).innermost_eq]⟩
  have hflatten : ∀ b : Bool, operations (if b then [.coalesce target] else []) = [] := by
    intro b
    cases b <;> rfl
  have hown : operations [stepAfter target spec before s] = [s field] := by
    simp [operations, hinner, (h.isOperation field).isCoalesce_eq]
  rw [emittedAfter, ← List.singleton_append, Step.operations_append, hflatten, List.append_nil,
    hown, List.map_singleton, h.nameless_eq]

/-- What is emitted for the directives of a field. -/
def emittedSteps (target : String) (spec : FieldSpec) (steps : List (String → Step)) : List Step :=
  steps.zipIdx.flatMap fun p ↦ emittedAfter target spec (steps.take p.2) p.1

private theorem emitted_eq (target : String) (spec : FieldSpec) (steps : List (String → Step)) :
    emitted target spec steps = placement target spec ++ emittedSteps target spec steps := by
  rw [placement_eq_relocation]
  rfl

/-- What the directives of a field do is said without the field. -/
theorem operations_emittedSteps (h : ∀ s ∈ steps, ∃ d, RendersTo d s) :
    (operations (emittedSteps target spec steps)).map nameless = steps.map fun s ↦ s "" := by
  have hall : ∀ p ∈ steps.zipIdx,
      (operations (emittedAfter target spec (steps.take p.2) p.1)).map nameless = [p.1 ""] := by
    intro p hp
    obtain ⟨d, hd⟩ := h p.1 (List.fst_mem_of_mem_zipIdx hp)
    exact operations_emittedAfter hd _
  calc (operations (emittedSteps target spec steps)).map nameless
      = steps.zipIdx.flatMap fun p ↦
          (operations (emittedAfter target spec (steps.take p.2) p.1)).map nameless := by
        rw [emittedSteps, Step.operations_flatMap, List.map_flatMap]
    _ = steps.zipIdx.map fun p ↦ p.1 "" := by
        rw [List.flatMap_congr hall, List.map_eq_flatMap]
    _ = steps.map fun s ↦ s "" := by
        conv_rhs => rw [← List.zipIdx_map_fst 0 steps, List.map_map]
        rfl

end Directives

/-! ## Fields -/

section Fields

variable {target : String} {spec : FieldSpec} {block : List Step} {e : Error}

private theorem firstFailure_insert_congr {α : Type} {passes : α → Prop} {fails : α → Error → Prop}
    {a b : α} (hpasses : passes a ↔ passes b) (hfails : fails a e ↔ fails b e)
    (before after : List α) :
    FirstFailure passes fails (before ++ a :: after) e ↔
      FirstFailure passes fails (before ++ b :: after) e := by
  induction before with
  | nil =>
    rw [List.nil_append, List.nil_append, firstFailure_cons_iff, firstFailure_cons_iff, hpasses,
      hfails]
  | cons c before ih =>
    rw [List.cons_append, List.cons_append, firstFailure_cons_iff, firstFailure_cons_iff, ih]

def FieldSpec.marked (spec : FieldSpec) (isArray : Bool) (nestedPath : Option NestedPath) :
    FieldSpec :=
  { spec with isArray := isArray, nestedPath := nestedPath }

private theorem renders_of_compileField (h : compileField target spec = .ok block) :
    spec.Renders := by
  refine spec.renders_or_failsWith.resolve_right ?_
  rintro ⟨e, he⟩
  cases h.symm.trans (compileField_eq_error_iff.2 he)

/-- The steps of a field bring its value into place and then do what its directives say. -/
theorem exists_steps_of_renders (h : spec.Renders) :
    ∃ doings : List Step, ∀ (isArray : Bool) (nestedPath : Option NestedPath),
      ∃ steps, compileField target (spec.marked isArray nestedPath)
          = .ok (placement target spec ++ steps) ∧
        (operations steps).map nameless = doings := by
  obtain ⟨steps, hsteps⟩ := exists_forall₂_rendersTo fun d hd ↦ ⟨"", h d hd ""⟩
  refine ⟨steps.map fun s ↦ s "", fun isArray nestedPath ↦
    ⟨emittedSteps target (spec.marked isArray nestedPath) steps, ?_, ?_⟩⟩
  · have hcompile : compileField target (spec.marked isArray nestedPath)
        = .ok (emitted target (spec.marked isArray nestedPath) steps) :=
      compileField_eq_emitted hsteps
    rw [hcompile, emitted_eq]
    rfl
  · exact operations_emittedSteps (exists_rendersTo_of_mem hsteps)

end Fields

/-- **Marks move the work and leave it as it is.** With the marks of a field set in any other way, a
dictionary compiles or fails as before, and with the same error. Where it compiles, the steps before
and after those of the field are the same, and so are those that bring the field's value into place;
and the steps of its directives do one by one the same, leaving out the flattening, to fields that
may be named otherwise. -/
theorem marks_change_places_only (name target : String) (F G : List (String × FieldSpec))
    (spec : FieldSpec) (isArray : Bool) (nestedPath : Option NestedPath) (u : List String) :
    let schema (s : FieldSpec) : Dictionary := ⟨F ++ (target, s) :: G, u⟩
    let marked := spec.marked isArray nestedPath
    (∀ e, compile name (schema spec) = .error e ↔ compile name (schema marked) = .error e) ∧
    ∀ p, compile name (schema spec) = .ok p →
      ∃ before steps steps' after,
        compileFields F = .ok before ∧ compileFields G = .ok after ∧
        compileField target spec = .ok (placement target spec ++ steps) ∧
        compileField target marked = .ok (placement target spec ++ steps') ∧
        p = .named name (before ++ (placement target spec ++ steps) ++ after) ∧
        compile name (schema marked)
          = .ok (.named name (before ++ (placement target spec ++ steps') ++ after)) ∧
        (operations steps).map nameless = (operations steps').map nameless := by
  intro schema marked
  refine ⟨fun e ↦ ?_, fun p h ↦ ?_⟩
  · rw [compile_eq_error_iff, compile_eq_error_iff, compileFields_eq_error_iff,
      compileFields_eq_error_iff]
    -- the directives of the field are the same, and they are all that can fail
    apply firstFailure_insert_congr
    · exact Iff.rfl
    · exact Iff.rfl
  · obtain ⟨q, block, r, hq, hblock, hr, hothers, rfl⟩ :=
      (compile_insert_eq_ok_iff (F := F) (G := G) u u u).1 h
    obtain ⟨before, hbefore, rfl⟩ := compile_eq_ok_iff.1 hq
    obtain ⟨after, hafter, rfl⟩ := compile_eq_ok_iff.1 hr
    obtain ⟨doings, hdoings⟩ := exists_steps_of_renders (renders_of_compileField hblock)
    obtain ⟨steps, hsteps, hsame⟩ := hdoings spec.isArray spec.nestedPath
    obtain ⟨steps', hsteps', hsame'⟩ := hdoings isArray nestedPath
    cases hblock.symm.trans hsteps
    refine ⟨before, steps, steps', after, hbefore, hafter, hsteps, hsteps', rfl, ?_,
      hsame.trans hsame'.symm⟩
    exact (compile_insert_eq_ok_iff u u u).2 ⟨_, _, _, hq, hsteps', hr, hothers, rfl⟩

/-- What a field does with labels does not change when it is nested, though the split does not make
a collection of the labels then, and each step is done to a field of another name. -/
theorem marks_change_places_only_of_nested :
    let spec : FieldSpec := {
      source := some "labels"
      transformations := [.structured "split" (.scalar (.string ",")), .bare "downcase"] }
    let nested := spec.marked false (some ⟨"works", "labels"⟩)
    compile "d" ⟨[("tags", spec)], []⟩ = .ok (.named "d" [.rename "labels" "tags",
      .split "tags" "," true, .foreach "tags" (.lowercase Pipeline.elementField true)]) ∧
    compile "d" ⟨[("tags", nested)], []⟩ = .ok (.named "d" [.rename "labels" "tags",
      .foreach "works" (.split (Pipeline.elementField ++ "." ++ "labels") "," true),
      .foreach "works" (.lowercase (Pipeline.elementField ++ "." ++ "labels") true)]) ∧
    ∃ steps steps',
      compileField "tags" spec = .ok (placement "tags" spec ++ steps) ∧
      compileField "tags" nested = .ok (placement "tags" spec ++ steps') ∧
      (operations steps).map nameless = (operations steps').map nameless := by
  intro spec nested
  have hspec : compile "d" ⟨[("tags", spec)], []⟩ = .ok (.named "d" [.rename "labels" "tags",
      .split "tags" "," true, .foreach "tags" (.lowercase Pipeline.elementField true)]) := rfl
  obtain ⟨-, hok⟩ :=
    marks_change_places_only "d" "tags" [] [] spec false (some ⟨"works", "labels"⟩) []
  obtain ⟨-, steps, steps', -, -, -, hsteps, hsteps', -, -, hsame⟩ := hok _ hspec
  exact ⟨hspec, rfl, steps, steps', hsteps, hsteps', hsame⟩

end Dictionary

end FeedHarvest
