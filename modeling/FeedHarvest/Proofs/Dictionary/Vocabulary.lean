import FeedHarvest.Proofs.Dictionary.Arguments

/-!
# The vocabulary of directives

Which directives there are, which arguments each of them needs, and which step it becomes. Five
operations go by a bare name as well as with arguments; two kinds exist with arguments only, and
their names mean nothing when they stand alone.

The step and the arguments are said together, by one rule for each directive, and rendering follows
exactly these rules. A directive outside the vocabulary is told apart from one whose arguments do
not suffice by its error, so errors are followed too: `FailsIncomplete` holds of everything that is
done after the name has been recognised.
-/

namespace FeedHarvest.Dictionary

open Pipeline (Step)

/-! ## What directives become -/

/-- What an operation on texts becomes, and what it needs. Changing case needs nothing. -/
inductive OperationStep (field : String) (args : Arguments) : String → Step → Prop
  | downcase : OperationStep field args "downcase" (.lowercase field true)
  | upcase : OperationStep field args "upcase" (.uppercase field true)
  | gsub {v w : Json} {pattern replacement : String} (hv : args.Gives 0 "pattern" v)
    (hpattern : HasText v pattern) (hw : args.Gives 1 "replacement" w)
    (hreplacement : HasText w replacement) :
    OperationStep field args "gsub" (.gsub field pattern replacement true)
  | split {v : Json} {separator : String} (hv : args.Gives 0 "separator" v)
    (hseparator : HasText v separator) :
    OperationStep field args "split" (.split field separator true)
  | dropLeading {v : Json} {offset : Nat} (hv : args.Gives 0 "offset" v)
    (hoffset : IsOffset v offset) :
    OperationStep field args "from" (.substringFrom field offset true)

/-- The value that names a date format: the one under its name where arguments are keyed, and the
first where they are not. -/
def Arguments.GivesFormat (args : Arguments) (v : Json) : Prop :=
  args.HasKeyed "format" v ∨ (∀ pairs, args ≠ .keyed pairs) ∧ args.values[0]? = some v

/-- Whether a mapping may find several values: it may not unless this is asked for, and null does
not ask. -/
def Arguments.GivesMultiValue (args : Arguments) (multiValue : Bool) : Prop :=
  args.HasKeyed "multi_value" (.bool multiValue) ∨
    (args.LacksKey "multi_value" ∨ args.HasKeyed "multi_value" .null) ∧ multiValue = false

/-- What a directive becomes on a field, and what it needs. The step reads and writes the field. -/
inductive DocumentedStep (field : String) : Directive → Step → Prop
  | operation {d : Directive} {step : Step}
    (h : OperationStep field d.arguments d.name step) : DocumentedStep field d step
  | date {args : Arguments} {v : Json} {format : String} (hv : args.GivesFormat v)
    (hformat : HasText v format) :
    DocumentedStep field (.structured "reformat_date" args)
      (.reformatDate field field [format] true)
  | mapping {args : Arguments} {u p : Json} {url path : String} {multiValue : Bool}
    (hu : args.HasKeyed "url" u) (hurl : HasText u url) (hp : args.HasKeyed "result_path" p)
    (hpath : HasText p path) (hmulti : args.GivesMultiValue multiValue) :
    DocumentedStep field (.structured "external_mapping" args)
      (.lookup field field url path multiValue true)

/-- Whether a directive is of one of the kinds that exist with arguments only. -/
def Directive.IsDedicated : Directive → Prop
  | .bare _ => False
  | .structured kind _ => kind = "reformat_date" ∨ kind = "external_mapping"

/-! ## Arguments that suffice -/

section Ok

variable {operation field key s : String} {args : Arguments} {position : Nat} {step : Step}

/-- The value that a date format is read from. -/
def format? : Arguments → Option Json
  | .keyed pairs => (Arguments.keyed pairs).get? "format"
  | args => args.values.head?

private theorem format?_eq_some_iff {v : Json} : format? args = some v ↔ args.GivesFormat v := by
  cases args with
  | keyed pairs =>
    rw [format?, Arguments.get?_eq_some_iff, Arguments.GivesFormat]
    simp
  | none | scalar _ | positional _ =>
    simp [format?, List.head?_eq_getElem?, Arguments.GivesFormat, Arguments.HasKeyed]

theorem offsetArgument_eq (operation : String) (args : Arguments) :
    offsetArgument operation args
      = orMissing ((args.find? 0 "offset").bind offsetOf?) (.missingOffset operation) := by
  rw [offsetArgument]
  cases (args.find? 0 "offset").bind offsetOf? <;> rfl

theorem mappingArgument_eq (args : Arguments) (key : String) :
    mappingArgument args key
      = orMissing ((args.get? key).bind argumentText?) (.missingMappingArgument key) := by
  rw [mappingArgument]
  cases (args.get? key).bind argumentText? <;> rfl

private theorem formatStep_eq (field : String) (format : Option String) :
    (match format with
      | some s => .ok (.reformatDate field field [s] true)
      | none => .error (.incomplete .missingDateFormat))
      = orMissing format .missingDateFormat >>= fun s ↦
        pure (Step.reformatDate field field [s] true) := by
  cases format <;> rfl

theorem renderDate_eq (field : String) (args : Arguments) :
    renderDate field args =
      orMissing ((format? args).bind argumentText?) .missingDateFormat >>= fun s ↦
        pure (.reformatDate field field [s] true) := by
  cases args with
  | none => rfl
  | keyed _ | scalar _ | positional _ => exact formatStep_eq field _

theorem textArgument_eq_ok_iff :
    textArgument operation args position key = .ok s ↔
      ∃ v, args.Gives position key v ∧ HasText v s := by
  rw [textArgument_eq, orMissing_eq_ok_iff, Option.bind_eq_some_iff]
  simp only [Arguments.find?_eq_some_iff, argumentText?_eq_some_iff]

theorem offsetArgument_eq_ok_iff {n : Nat} :
    offsetArgument operation args = .ok n ↔ ∃ v, args.Gives 0 "offset" v ∧ IsOffset v n := by
  rw [offsetArgument_eq, orMissing_eq_ok_iff, Option.bind_eq_some_iff]
  simp only [Arguments.find?_eq_some_iff, offsetOf?_eq_some_iff]

private theorem mappingArgument_eq_ok_iff :
    mappingArgument args key = .ok s ↔ ∃ v, args.HasKeyed key v ∧ HasText v s := by
  rw [mappingArgument_eq, orMissing_eq_ok_iff, Option.bind_eq_some_iff]
  simp only [Arguments.get?_eq_some_iff, argumentText?_eq_some_iff]

private theorem renderDate_eq_ok_iff :
    renderDate field args = .ok step ↔
      ∃ v format, args.GivesFormat v ∧ HasText v format ∧
        step = .reformatDate field field [format] true := by
  rw [renderDate_eq, bind_pure_eq_ok_iff]
  simp only [orMissing_eq_ok_iff, Option.bind_eq_some_iff, format?_eq_some_iff,
    argumentText?_eq_some_iff]
  constructor
  · rintro ⟨format, ⟨v, hv, hformat⟩, rfl⟩
    exact ⟨v, format, hv, hformat, rfl⟩
  · rintro ⟨v, format, hv, hformat, rfl⟩
    exact ⟨format, ⟨v, hv, hformat⟩, rfl⟩

private theorem multiValueArgument_eq_ok_iff {multiValue : Bool} :
    multiValueArgument args = .ok multiValue ↔ args.GivesMultiValue multiValue := by
  rw [Arguments.GivesMultiValue, ← Arguments.get?_eq_some_iff, ← Arguments.get?_eq_some_iff,
    ← Arguments.get?_eq_none_iff, multiValueArgument]
  cases args.get? "multi_value" with
  | none => simp [eq_comm]
  | some v => cases v <;> simp [eq_comm]

private theorem renderMapping_eq_ok_iff :
    renderMapping field args = .ok step ↔
      ∃ u url p path multiValue, args.HasKeyed "url" u ∧ HasText u url ∧
        args.HasKeyed "result_path" p ∧ HasText p path ∧ args.GivesMultiValue multiValue ∧
        step = .lookup field field url path multiValue true := by
  simp only [renderMapping, bind_eq_ok_iff, mappingArgument_eq_ok_iff,
    multiValueArgument_eq_ok_iff]
  constructor
  · rintro ⟨url, ⟨u, hu, hurl⟩, path, ⟨p, hp, hpath⟩, multiValue, hmulti, ⟨⟩⟩
    exact ⟨u, url, p, path, multiValue, hu, hurl, hp, hpath, hmulti, rfl⟩
  · rintro ⟨u, url, p, path, multiValue, hu, hurl, hp, hpath, hmulti, rfl⟩
    exact ⟨url, ⟨u, hu, hurl⟩, path, ⟨p, hp, hpath⟩, multiValue, hmulti, rfl⟩

theorem renderString_of_not_mem (h : operation ∉ stringOperations) :
    renderString operation field args = .error (.unsupported operation) := by
  simp only [stringOperations, List.mem_cons, List.not_mem_nil, or_false, not_or] at h
  simp [renderString, h]

theorem mem_stringOperations_of_operationStep (h : OperationStep field args operation step) :
    operation ∈ stringOperations := by
  cases h <;> decide

private theorem renderString_eq_ok_iff :
    renderString operation field args = .ok step ↔ OperationStep field args operation step := by
  constructor
  · intro h
    by_cases hmem : operation ∈ stringOperations
    · simp only [stringOperations, List.mem_cons, List.not_mem_nil, or_false] at hmem
      rcases hmem with rfl | rfl | rfl | rfl | rfl
      · cases h
        exact .downcase
      · obtain ⟨n, hn, ⟨⟩⟩ := bind_eq_ok_iff.1 h
        obtain ⟨v, hv, hoffset⟩ := offsetArgument_eq_ok_iff.1 hn
        exact .dropLeading hv hoffset
      · obtain ⟨pattern, hp, h⟩ := bind_eq_ok_iff.1 h
        obtain ⟨replacement, hr, ⟨⟩⟩ := bind_eq_ok_iff.1 h
        obtain ⟨v, hv, hpattern⟩ := textArgument_eq_ok_iff.1 hp
        obtain ⟨w, hw, hreplacement⟩ := textArgument_eq_ok_iff.1 hr
        exact .gsub hv hpattern hw hreplacement
      · obtain ⟨separator, hs, ⟨⟩⟩ := bind_eq_ok_iff.1 h
        obtain ⟨v, hv, hseparator⟩ := textArgument_eq_ok_iff.1 hs
        exact .split hv hseparator
      · cases h
        exact .upcase
    · rw [renderString_of_not_mem hmem] at h
      cases h
  · intro h
    cases h with
    | downcase => rfl
    | upcase => rfl
    | gsub hv hpattern hw hreplacement =>
      exact bind_eq_ok_iff.2 ⟨_, textArgument_eq_ok_iff.2 ⟨_, hv, hpattern⟩,
        bind_eq_ok_iff.2 ⟨_, textArgument_eq_ok_iff.2 ⟨_, hw, hreplacement⟩, rfl⟩⟩
    | split hv hseparator =>
      exact bind_eq_ok_iff.2 ⟨_, textArgument_eq_ok_iff.2 ⟨_, hv, hseparator⟩, rfl⟩
    | dropLeading hv hoffset =>
      exact bind_eq_ok_iff.2 ⟨_, offsetArgument_eq_ok_iff.2 ⟨_, hv, hoffset⟩, rfl⟩

end Ok

/-! ## Arguments that do not suffice -/

section FailsIncomplete

variable {operation field key : String} {args : Arguments} {position : Nat}

theorem failsIncomplete_orMissing {α : Type} (found : Option α) (flaw : Flaw) :
    FailsIncomplete (orMissing found flaw) := by
  cases found with
  | none => exact failsIncomplete_error flaw
  | some a => exact failsIncomplete_ok a

theorem failsIncomplete_textArgument :
    FailsIncomplete (textArgument operation args position key) := by
  rw [textArgument_eq]
  exact failsIncomplete_orMissing _ _

private theorem failsIncomplete_renderString (h : operation ∈ stringOperations) :
    FailsIncomplete (renderString operation field args) := by
  simp only [stringOperations, List.mem_cons, List.not_mem_nil, or_false] at h
  rcases h with rfl | rfl | rfl | rfl | rfl
  · exact failsIncomplete_ok _
  · refine FailsIncomplete.bind ?_ fun _ ↦ failsIncomplete_ok _
    rw [offsetArgument_eq]
    exact failsIncomplete_orMissing _ _
  · exact failsIncomplete_textArgument.bind fun _ ↦ failsIncomplete_textArgument.bind fun _ ↦
      failsIncomplete_ok _
  · exact failsIncomplete_textArgument.bind fun _ ↦ failsIncomplete_ok _
  · exact failsIncomplete_ok _

private theorem failsIncomplete_renderDate : FailsIncomplete (renderDate field args) := by
  rw [renderDate_eq]
  exact (failsIncomplete_orMissing _ _).bind fun _ ↦ failsIncomplete_ok _

theorem failsIncomplete_mappingArgument : FailsIncomplete (mappingArgument args key) := by
  rw [mappingArgument_eq]
  exact failsIncomplete_orMissing _ _

private theorem failsIncomplete_multiValueArgument : FailsIncomplete (multiValueArgument args) := by
  rw [multiValueArgument]
  split
  · exact failsIncomplete_ok _
  · exact failsIncomplete_ok _
  · exact failsIncomplete_ok _
  · exact failsIncomplete_error _

private theorem failsIncomplete_renderMapping : FailsIncomplete (renderMapping field args) :=
  failsIncomplete_mappingArgument.bind fun _ ↦ failsIncomplete_mappingArgument.bind fun _ ↦
    failsIncomplete_multiValueArgument.bind fun _ ↦ failsIncomplete_ok _

end FailsIncomplete

/-! ## Directives -/

section Render

variable {field kind : String} {args : Arguments} {d : Directive} {step : Step}

private theorem render_reformatDate :
    render field (.structured "reformat_date" args) = renderDate field args := rfl

private theorem render_externalMapping :
    render field (.structured "external_mapping" args) = renderMapping field args := rfl

theorem render_of_not_isDedicated (h : ¬ d.IsDedicated) :
    render field d = renderString d.name field d.arguments := by
  cases d with
  | bare name => rfl
  | structured kind args =>
    obtain ⟨hdate, hmapping⟩ := not_or.1 h
    have hnone : DedicatedKind.ofName? kind = none := by
      simp [DedicatedKind.ofName?, DedicatedKind.name, Ne.symm hdate, Ne.symm hmapping]
    rw [render, hnone]
    rfl

theorem exists_of_isDedicated (h : d.IsDedicated) :
    ∃ args, d = .structured "reformat_date" args ∨ d = .structured "external_mapping" args := by
  cases d with
  | bare name => exact h.elim
  | structured kind args =>
    rcases h with rfl | rfl
    · exact ⟨args, .inl rfl⟩
    · exact ⟨args, .inr rfl⟩

private theorem documentedStep_reformatDate_iff :
    DocumentedStep field (.structured "reformat_date" args) step ↔
      ∃ v format, args.GivesFormat v ∧ HasText v format ∧
        step = .reformatDate field field [format] true := by
  constructor
  · generalize hd : Directive.structured "reformat_date" args = d
    rintro (h | ⟨hv, hformat⟩ | _)
    · subst hd
      exact absurd (mem_stringOperations_of_operationStep h) (by decide : "reformat_date" ∉ _)
    · cases hd
      exact ⟨_, _, hv, hformat, rfl⟩
    · simp at hd
  · rintro ⟨v, format, hv, hformat, rfl⟩
    exact .date hv hformat

private theorem documentedStep_externalMapping_iff :
    DocumentedStep field (.structured "external_mapping" args) step ↔
      ∃ u url p path multiValue, args.HasKeyed "url" u ∧ HasText u url ∧
        args.HasKeyed "result_path" p ∧ HasText p path ∧ args.GivesMultiValue multiValue ∧
        step = .lookup field field url path multiValue true := by
  constructor
  · generalize hd : Directive.structured "external_mapping" args = d
    rintro (h | _ | ⟨hu, hurl, hp, hpath, hmulti⟩)
    · subst hd
      exact absurd (mem_stringOperations_of_operationStep h) (by decide : "external_mapping" ∉ _)
    · simp at hd
    · cases hd
      exact ⟨_, _, _, _, _, hu, hurl, hp, hpath, hmulti, rfl⟩
  · rintro ⟨u, url, p, path, multiValue, hu, hurl, hp, hpath, hmulti, rfl⟩
    exact .mapping hu hurl hp hpath hmulti

theorem render_eq_ok_iff : render field d = .ok step ↔ DocumentedStep field d step := by
  by_cases hdedicated : d.IsDedicated
  · obtain ⟨args, rfl | rfl⟩ := exists_of_isDedicated hdedicated
    · rw [render_reformatDate, renderDate_eq_ok_iff, documentedStep_reformatDate_iff]
    · rw [render_externalMapping, renderMapping_eq_ok_iff, documentedStep_externalMapping_iff]
  · rw [render_of_not_isDedicated hdedicated, renderString_eq_ok_iff]
    refine ⟨.operation, fun h ↦ ?_⟩
    cases h with
    | operation h => exact h
    | date => exact absurd (.inl rfl) hdedicated
    | mapping => exact absurd (.inr rfl) hdedicated

theorem render_of_unknown (hname : d.name ∉ stringOperations) (hd : ¬ d.IsDedicated) :
    render field d = .error (.unsupported d.name) := by
  rw [render_of_not_isDedicated hd, renderString_of_not_mem hname]

theorem failsIncomplete_render (h : d.name ∈ stringOperations ∨ d.IsDedicated) :
    FailsIncomplete (render field d) := by
  by_cases hdedicated : d.IsDedicated
  · obtain ⟨args, rfl | rfl⟩ := exists_of_isDedicated hdedicated
    · exact failsIncomplete_renderDate
    · exact failsIncomplete_renderMapping
  · rw [render_of_not_isDedicated hdedicated]
    exact failsIncomplete_renderString (h.resolve_right hdedicated)

end Render

/-- **The vocabulary is exactly what is documented.** A directive is unknown, and named as such,
exactly when its name is that of no operation and it is no date or mapping with arguments. Any other
directive renders exactly when its arguments suffice, to the one step on the field that goes with
them, and is incomplete when they do not. -/
theorem rendering_follows_vocabulary (field : String) (d : Directive) :
    (∀ name, render field d = .error (.unsupported name) ↔
      name = d.name ∧ d.name ∉ stringOperations ∧ ¬ d.IsDedicated) ∧
    (∀ step, render field d = .ok step ↔ DocumentedStep field d step) ∧
    ((∃ flaw, render field d = .error (.incomplete flaw)) ↔
      (d.name ∈ stringOperations ∨ d.IsDedicated) ∧ ∀ step, ¬ DocumentedStep field d step) := by
  have hunknown : ¬ (d.name ∈ stringOperations ∨ d.IsDedicated) →
      render field d = .error (.unsupported d.name) := fun h ↦
    render_of_unknown (fun hname ↦ h (.inl hname)) fun hd ↦ h (.inr hd)
  refine ⟨fun name ↦ ⟨fun h ↦ ?_, ?_⟩, fun step ↦ render_eq_ok_iff, ⟨?_, ?_⟩⟩
  · have hnot : ¬ (d.name ∈ stringOperations ∨ d.IsDedicated) := by
      intro hknown
      obtain ⟨flaw, hflaw⟩ := failsIncomplete_render hknown _ h
      cases hflaw
    rw [hunknown hnot] at h
    cases h
    exact ⟨rfl, not_or.1 hnot⟩
  · rintro ⟨rfl, hname, hd⟩
    exact render_of_unknown hname hd
  · rintro ⟨flaw, h⟩
    refine ⟨by_contra fun hnot ↦ ?_, fun step hstep ↦ ?_⟩
    · rw [hunknown hnot] at h
      cases h
    · rw [render_eq_ok_iff.2 hstep] at h
      cases h
  · rintro ⟨hknown, hnone⟩
    cases hrender : render field d with
    | ok step => exact absurd (render_eq_ok_iff.1 hrender) (hnone step)
    | error e =>
      obtain ⟨flaw, rfl⟩ := failsIncomplete_render hknown e hrender
      exact ⟨flaw, rfl⟩

/-- A number of leading characters may be a text, with a sign and between blanks, and under its name
it need not come first. -/
example : render "code" (.structured "from"
    (.keyed [("unit", .string "characters"), ("offset", .string " +004 ")]))
      = .ok (.substringFrom "code" 4 true) := rfl

end FeedHarvest.Dictionary
