import FeedHarvest.Dictionary.Reader
import FeedHarvest.Dictionary.Rendering

/-!
# From dictionary to pipeline

Fields are compiled one after the other, and within a field the value is first brought into place
and then transformed, directive by directive. What a directive works on depends on the field: the
inner field of each element when the field has a nested path; else each element once the field holds
a collection, which it does from the start if it is marked so and from the first split on otherwise;
else the field itself. Compilation fails as a whole on the first directive that cannot be rendered.
-/

namespace FeedHarvest.Dictionary

/-- The steps that bring a value into place: a move and a copy, or else a constant. -/
def placement (target : String) (spec : FieldSpec) : List Pipeline.Step :=
  if spec.source.isSome || spec.copyFrom.isSome then
    ((spec.source.filter (· != target)).map (Pipeline.Step.rename · target)).toList ++
      ((spec.copyFrom.filter (· != target)).map (Pipeline.Step.copy · target)).toList
  else (spec.constant.map (Pipeline.Step.setConstant target ·)).toList

/-- The field of the elements of a collection that a nested path names. -/
def elementPath (path : NestedPath) : String := Pipeline.elementField ++ "." ++ path.inner

/-- The step of a directive, where the field calls for it. -/
def place (target : String) (spec : FieldSpec) (isCollection : Bool) (d : Directive) :
    Except Error Pipeline.Step :=
  match spec.nestedPath with
  | some path => do return .foreach path.container (← render (elementPath path) d)
  | none =>
    if isCollection then do return .foreach target (← render Pipeline.elementField d)
    else render target d

/-- The steps of directives on a field that holds a collection or not. -/
def transform (target : String) (spec : FieldSpec) (isCollection : Bool) :
    List Directive → Except Error (List Pipeline.Step)
  | [] => .ok []
  | d :: ds => do
    let step ← place target spec isCollection d
    let flatten : List Pipeline.Step :=
      if isCollection && step.isMultiValueLookup then [.coalesce target] else []
    let rest ← transform target spec (isCollection || step.isSplit) ds
    return step :: flatten ++ rest

def compileField (target : String) (spec : FieldSpec) : Except Error (List Pipeline.Step) := do
  return placement target spec ++ (← transform target spec spec.isArray spec.transformations)

def compileFields : List (String × FieldSpec) → Except Error (List Pipeline.Step)
  | [] => .ok []
  | (target, spec) :: fields => do
    let steps ← compileField target spec
    let rest ← compileFields fields
    return steps ++ rest

def compile (name : String) (d : Dictionary) : Except Error Pipeline := do
  return Pipeline.named name (← compileFields d.fields)

def compileText (name text : String) : Except Error Pipeline := do
  compile name (← parse text)

end FeedHarvest.Dictionary
