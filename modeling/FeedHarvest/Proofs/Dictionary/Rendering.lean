import FeedHarvest.Dictionary.Rendering
import Mathlib.Data.List.Forall2

/-!
# Rendering and the field

What a directive becomes does not depend on the field it is for: rendering fails for every field or
for none, with the same error, and the steps for two fields are one step on one field and on the
other. The steps in question work on one field, in place, and wrap nothing.
-/

namespace FeedHarvest

namespace Pipeline.Step

/-- A step that works on one field in place, done to another field. Any other step stays. -/
def onField (field : String) : Step → Step
  | lowercase _ m => lowercase field m
  | uppercase _ m => uppercase field m
  | gsub _ p r m => gsub field p r m
  | substringFrom _ n m => substringFrom field n m
  | split _ s m => split field s m
  | reformatDate _ _ formats i => reformatDate field field formats i
  | lookup _ _ u p v m => lookup field field u p v m
  | s => s

/-- Whether the step works on one field and wraps nothing. -/
def IsOperation : Step → Prop
  | lowercase .. | uppercase .. | gsub .. | substringFrom .. | split .. | reformatDate ..
  | lookup .. => True
  | rename .. | copy .. | setConstant .. | foreach .. | coalesce .. => False

theorem isOperation_onField {s : Step} (field : String) (h : s.IsOperation) :
    (s.onField field).IsOperation := by
  cases s with
  | rename | copy | setConstant | foreach | coalesce => exact h.elim
  | _ => trivial

@[simp] theorem isSplit_onField (field : String) (s : Step) :
    (s.onField field).isSplit = s.isSplit := by
  cases s <;> rfl

@[simp] theorem isMultiValueLookup_onField (field : String) (s : Step) :
    (s.onField field).isMultiValueLookup = s.isMultiValueLookup := by
  cases s <;> rfl

@[simp] theorem isSplit_foreach (field : String) (s : Step) :
    (foreach field s).isSplit = s.isSplit := rfl

@[simp] theorem isMultiValueLookup_foreach (field : String) (s : Step) :
    (foreach field s).isMultiValueLookup = s.isMultiValueLookup := rfl

theorem IsOperation.exists_lookup {s : Step} (h : s.IsOperation)
    (hs : s.isMultiValueLookup = true) : ∃ f t u p m, s = .lookup f t u p true m := by
  cases s with
  | lookup f t u p v m =>
    have hv : v = true := hs
    rw [hv]
    exact ⟨f, t, u, p, m, rfl⟩
  | foreach => exact h.elim
  | _ => cases hs

end Pipeline.Step

namespace Dictionary

open Pipeline (Step)

section Bind

variable {α β : Type} {x : Except Error α} {e : Error}

theorem bind_eq_ok_iff {f : α → Except Error β} {b : β} :
    x >>= f = .ok b ↔ ∃ a, x = .ok a ∧ f a = .ok b := by
  cases x with
  | error e => exact iff_of_false (by rintro ⟨⟩) (by rintro ⟨a, ⟨⟩, -⟩)
  | ok a =>
    refine ⟨fun h ↦ ⟨a, rfl, h⟩, ?_⟩
    rintro ⟨_, ⟨⟩, h⟩
    exact h

private theorem bind_eq_error_iff {f : α → Except Error β} :
    x >>= f = .error e ↔ x = .error e ∨ ∃ a, x = .ok a ∧ f a = .error e := by
  cases x with
  | error e' =>
    constructor
    · rintro ⟨⟩
      exact .inl rfl
    · rintro (h | ⟨a, h, -⟩)
      · cases h
        rfl
      · cases h
  | ok a =>
    refine ⟨fun h ↦ .inr ⟨a, rfl, h⟩, ?_⟩
    rintro (h | ⟨_, ⟨⟩, h⟩)
    · cases h
    · exact h

variable {f : α → β}

theorem bind_pure_eq_error_iff : (x >>= fun a ↦ pure (f a)) = .error e ↔ x = .error e := by
  cases x with
  | error e' => exact Iff.rfl.trans (by simp [bind, Except.bind])
  | ok a => constructor <;> rintro ⟨⟩

theorem bind_pure_eq_ok_iff {b : β} :
    (x >>= fun a ↦ pure (f a)) = .ok b ↔ ∃ a, x = .ok a ∧ b = f a := by
  cases x with
  | error e => exact iff_of_false (by rintro ⟨⟩) (by rintro ⟨a, h, -⟩; cases h)
  | ok a =>
    constructor
    · rintro ⟨⟩
      exact ⟨a, rfl, rfl⟩
    · rintro ⟨a, ⟨⟩, rfl⟩
      rfl

theorem map_bind_eq {γ : Type} {f : α → Except Error β} {g : β → γ} :
    (x >>= f).map g = x >>= fun a ↦ (f a).map g := by
  cases x with
  | error e => rfl
  | ok a => rfl

/-- Whether a computation fails only because something is missing or of the wrong form. -/
def FailsIncomplete (x : Except Error α) : Prop := ∀ e, x = .error e → ∃ flaw, e = .incomplete flaw

theorem failsIncomplete_ok (a : α) : FailsIncomplete (.ok a) := by
  rintro e ⟨⟩

theorem failsIncomplete_error (flaw : Flaw) :
    FailsIncomplete (.error (.incomplete flaw) : Except Error α) := by
  rintro e ⟨⟩
  exact ⟨flaw, rfl⟩

theorem FailsIncomplete.bind {f : α → Except Error β} (hx : FailsIncomplete x)
    (hf : ∀ a, FailsIncomplete (f a)) : FailsIncomplete (x >>= f) := by
  intro e h
  rcases bind_eq_error_iff.1 h with h | ⟨a, -, h⟩
  · exact hx e h
  · exact hf a e h

theorem FailsIncomplete.bind_pure (hx : FailsIncomplete x) :
    FailsIncomplete (x >>= fun a ↦ pure (f a)) := hx.bind fun a ↦ failsIncomplete_ok (f a)

end Bind

/-! ## One field and another -/

/-- Whether a rendering is an error or an operation, and the same for every field. -/
def Uniform (rendering : String → Except Error Step) : Prop :=
  ∃ r : Except Error Step, (∀ s, r = .ok s → s.IsOperation) ∧
    ∀ field, rendering field = r.map (Step.onField field)

theorem uniform_error (e : Error) : Uniform fun _ ↦ .error e :=
  ⟨.error e, fun _ h ↦ (nomatch h), fun _ ↦ rfl⟩

theorem uniform_ok {s : Step} (h : s.IsOperation) : Uniform fun field ↦ .ok (s.onField field) :=
  ⟨.ok s, fun _ hs ↦ Except.ok.inj hs ▸ h, fun _ ↦ rfl⟩

theorem uniform_bind {α : Type} (argument : Except Error α)
    {rendering : α → String → Except Error Step} (h : ∀ a, Uniform (rendering a)) :
    Uniform fun field ↦ argument >>= fun a ↦ rendering a field := by
  cases argument with
  | error e => exact uniform_error e
  | ok a => exact h a

theorem uniform_renderString (operation : String) (args : Arguments) :
    Uniform fun field ↦ renderString operation field args := by
  unfold renderString
  split
  · exact uniform_ok (s := .lowercase "" true) trivial
  · split
    · exact uniform_ok (s := .uppercase "" true) trivial
    · split
      · exact uniform_bind _ fun p ↦ uniform_bind _ fun r ↦
          uniform_ok (s := .gsub "" p r true) trivial
      · split
        · exact uniform_bind _ fun c ↦ uniform_ok (s := .split "" c true) trivial
        · split
          · exact uniform_bind _ fun n ↦ uniform_ok (s := .substringFrom "" n true) trivial
          · exact uniform_error _

private theorem uniform_reformatDate (format : Option String) : Uniform fun field ↦
    match format with
    | some s => .ok (.reformatDate field field [s] true)
    | none => .error (.incomplete .missingDateFormat) := by
  cases format with
  | none => exact uniform_error _
  | some s => exact uniform_ok (s := .reformatDate "" "" [s] true) trivial

private theorem uniform_renderDate (args : Arguments) : Uniform fun field ↦ renderDate field args :=
  uniform_reformatDate _

private theorem uniform_renderMapping (args : Arguments) :
    Uniform fun field ↦ renderMapping field args := by
  unfold renderMapping
  exact uniform_bind _ fun u ↦ uniform_bind _ fun p ↦ uniform_bind _ fun v ↦
    uniform_ok (s := .lookup "" "" u p v true) trivial

theorem uniform_render (d : Directive) : Uniform fun field ↦ render field d := by
  cases d with
  | bare name => exact uniform_renderString name .none
  | structured kind args =>
    simp only [render]
    cases DedicatedKind.ofName? kind with
    | none => exact uniform_renderString kind args
    | some dedicated =>
      cases dedicated with
      | reformatDate => exact uniform_renderDate args
      | externalMapping => exact uniform_renderMapping args

/-- A directive that renders for one field renders for all, to one operation. -/
theorem exists_operation_of_render {d : Directive} {field : String} {step : Step}
    (h : render field d = .ok step) :
    ∃ s : Step, s.IsOperation ∧ ∀ f, render f d = .ok (s.onField f) := by
  obtain ⟨r, hr, hrender⟩ := uniform_render d
  cases r with
  | error e => cases (hrender field).symm.trans h
  | ok s => exact ⟨s, hr s rfl, hrender⟩

end Dictionary

end FeedHarvest
