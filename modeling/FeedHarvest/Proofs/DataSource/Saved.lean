import FeedHarvest.DataSource.Saved
import FeedHarvest.Proofs.Json.Source
import FeedHarvest.Proofs.Time.Rfc3339

/-!
# A saved source is read back

Saving a source and loading the text gives the source again, exactly when its version has 32 bits
and its instants can be named; and a source that was loaded, from whatever text, is such a source.
So whatever one process saves the next one has.
-/

namespace FeedHarvest.DataSource

/-! ## Fields -/

@[simp] theorem Field.ofKey?_key (f : Field) : Field.ofKey? f.key = some f := by
  cases f <;> decide

theorem objectFields?_map {fs : List Field} (hfs : fs.Nodup) (value : Field → Json.Source) :
    objectFields? (fs.map fun f ↦ (Json.partsOf f.key, value f))
      = some (fs.map fun f ↦ (f, value f)) := by
  induction fs with
  | nil => rfl
  | cons f fs ih =>
    obtain ⟨hf, hrest⟩ := List.nodup_cons.1 hfs
    have hnew : (fs.map fun f ↦ (f, value f)).any (·.1 == f) = false := by
      rw [List.any_map, List.any_eq_false]
      rintro g hg heq
      rw [Function.comp_apply, beq_iff_eq] at heq
      exact hf (heq ▸ hg)
    rw [List.map_cons, List.map_cons, objectFields?, ih hrest]
    simp only [Json.text?_partsOf, Field.ofKey?_key, bind, Option.bind_some, hnew]
    rfl

private theorem lookup_all (value : Field → Json.Source) (f : Field) :
    (Field.all.map fun g ↦ (g, value g)).lookup f = some (value f) := by
  cases f <;> rfl

/-! ## Values of fields -/

section Values

open Json

theorem readText_string (s : String) : readText (sourceOf (.string s)) = some s := by
  rw [sourceOf, readText, text?_partsOf]

private theorem readBool_bool (b : Bool) : readBool (sourceOf (.bool b)) = some b := by
  rw [sourceOf, readBool]

private theorem readVersion_ofNat {n : Nat} (h : n ≤ maxVersion) :
    readVersion (sourceOf (.ofNat n)) = some n := by
  have hmax : maxVersion = 4294967295 := rfl
  have hcount : Text.maxCount = 18446744073709551615 := rfl
  have hvalue : (intSource n).value? = some (.int n) := value?_intSource (by omega) (by omega)
  have hrange : 0 ≤ (n : Int) ∧ (n : Int) ≤ maxVersion := by omega
  rw [ofNat, sourceOf, readVersion, hvalue]
  dsimp only
  rw [if_pos hrange, Int.toNat_natCast]

private theorem readInstant_text {t : Time.Instant} (h : t.isValid = true) :
    readInstant (sourceOf (.string t.text)) = some t := by
  rw [readInstant, readText_string, Option.bind_eq_bind, Option.bind_some,
    Time.Instant.parse?_text h]

private theorem readState_word (state : IngestState) :
    readState (sourceOf (.string state.word)) = some state := by
  rw [sourceOf, readState]
  · rw [readText, text?_partsOf]
    exact IngestState.ofWord?_word state
  · rintro _ ⟨⟩

/-- A value that may be absent is read back if it is read back when present, because what is
written for it is never null. -/
theorem readOptional_optionalJson {α : Type} {read : Source → Option α} {toJson : α → Json}
    {o : Option α} (hnull : ∀ a, sourceOf (toJson a) ≠ .null)
    (hread : ∀ a ∈ o, read (sourceOf (toJson a)) = some a) :
    readOptional read (sourceOf (optionalJson toJson o)) = some o := by
  cases o with
  | none => rw [optionalJson, sourceOf, readOptional]
  | some a =>
    rw [optionalJson, readOptional, hread a rfl, Option.map_some]
    exact hnull a

theorem sourceOf_string_ne_null (s : String) : sourceOf (.string s) ≠ .null := by
  rw [sourceOf]
  exact nofun

end Values

/-! ## Sources -/

variable {s : DataSource}

theorem isIntegral_optionalJson {α : Type} {toJson : α → Json} (o : Option α)
    (h : ∀ a, Json.IsIntegral (toJson a)) : Json.IsIntegral (optionalJson toJson o) := by
  cases o with
  | none => rw [optionalJson, Json.IsIntegral]; trivial
  | some a => exact h a

private theorem isIntegral_toJson (s : DataSource) : Json.IsIntegral s.toJson := by
  have hstring : ∀ text, Json.IsIntegral (.string text) := fun text ↦ by
    rw [Json.IsIntegral]; trivial
  have hfield : ∀ f, Json.IsIntegral (s.fieldJson f) := by
    intro f
    cases f with
    | description | messageDigest => exact isIntegral_optionalJson _ hstring
    | dataChangedAt | dataImportedAt => exact isIntegral_optionalJson _ fun t ↦ hstring t.text
    | version | published | consolidated =>
      simp only [fieldJson, Json.ofNat, Json.IsIntegral]
    | _ => exact hstring _
  rw [toJson, Json.IsIntegral, Json.membersIntegral_iff]
  intro m hm
  obtain ⟨f, -, rfl⟩ := List.mem_map.1 hm
  exact hfield f

theorem fields?_save (s : DataSource) :
    (Json.Source.parse? s.save.toList).bind fields?
      = some (Field.all.map fun f ↦ (f, Json.sourceOf (s.fieldJson f))) := by
  have hmembers : Json.memberSourcesOf (Field.all.map fun f ↦ (f.key, s.fieldJson f))
      = Field.all.map fun f ↦ (Json.partsOf f.key, Json.sourceOf (s.fieldJson f)) := by
    rw [Json.memberSourcesOf_eq_map, List.map_map]
    rfl
  rw [save, Json.pretty, String.toList_ofList, Json.parse?_prettyText (isIntegral_toJson s),
    Option.bind_some, toJson, Json.sourceOf, hmembers]
  exact objectFields?_map (by decide) _

/-- Whether every part of a source has a text of its own: the version has 32 bits and the instants
can be named. By `Time.Instant.isValid_iff` those are the instants of the calendar's years, in leap
seconds too; but a leap second is the last of its minute, and no text names one elsewhere. -/
structure Storable (s : DataSource) : Prop where
  version_le : s.version ≤ maxVersion
  isValid_dataChangedAt : ∀ t ∈ s.dataChangedAt, t.isValid = true
  isValid_dataImportedAt : ∀ t ∈ s.dataImportedAt, t.isValid = true

/-- A source that was never visited carries no instants. -/
theorem storable_register {api url dictionary : String} {version : Nat}
    (h : version ≤ maxVersion) : (register api version url dictionary).Storable := by
  refine ⟨h, ?_, ?_⟩ <;> rintro _ ⟨⟩

theorem load?_save (h : s.Storable) : load? s.save = some s := by
  obtain ⟨source, hsource, hfields⟩ := Option.bind_eq_some_iff.1 (fields?_save s)
  have htext : ∀ o : Option String,
      readOptional readText (Json.sourceOf (optionalJson .string o)) = some o := fun o ↦
    readOptional_optionalJson sourceOf_string_ne_null fun a _ ↦ readText_string a
  have hinstant : ∀ o : Option Time.Instant, (∀ t ∈ o, t.isValid = true) →
      readOptional readInstant (Json.sourceOf (optionalJson (.string ·.text) o)) = some o :=
    fun o ho ↦ readOptional_optionalJson (fun t ↦ sourceOf_string_ne_null t.text)
      fun t ht ↦ readInstant_text (ho t ht)
  have hlookup := lookup_all fun f ↦ Json.sourceOf (s.fieldJson f)
  rw [load?, hsource, Option.bind_eq_bind, Option.bind_some, hfields, Option.bind_eq_bind,
    Option.bind_some]
  generalize Field.all.map (fun f ↦ (f, Json.sourceOf (s.fieldJson f))) = fields at hlookup ⊢
  simp only [ofFields?, required, withDefault, hlookup, fieldJson, Option.bind_some, bind, pure,
    readText_string, readVersion_ofNat h.version_le, htext, hinstant _ h.isValid_dataChangedAt,
    hinstant _ h.isValid_dataImportedAt, readBool_bool, readState_word]

/-! ### What is loaded -/

private theorem le_of_readVersion {source : Json.Source} {n : Nat}
    (h : readVersion source = some n) :
    n ≤ maxVersion := by
  rw [readVersion.eq_def] at h
  split at h
  · split at h
    · split at h
      · cases h
        omega
      · cases h
    · cases h
  · cases h

private theorem isValid_of_readInstant {source : Json.Source} {t : Time.Instant}
    (h : readInstant source = some t) : t.isValid = true := by
  rw [readInstant, Option.bind_eq_bind, Option.bind_eq_some_iff] at h
  obtain ⟨text, -, htext⟩ := h
  exact Time.Instant.isValid_of_parse? htext

theorem isValid_of_withDefault {fields : List (Field × Json.Source)} {f : Field}
    {o : Option Time.Instant}
    (h : withDefault fields f (readOptional readInstant) none = some o) :
    ∀ t ∈ o, t.isValid = true := by
  intro t ht
  rw [withDefault] at h
  split at h
  · cases h
    cases ht
  · rw [readOptional.eq_def] at h
    split at h
    · cases h
      cases ht
    · obtain ⟨t', ht', rfl⟩ := Option.map_eq_some_iff.1 h
      cases ht
      exact isValid_of_readInstant ht'

/-- The fields of a source that not every value will do for. -/
theorem eq_some_of_ofFields? {fields : List (Field × Json.Source)} (h : ofFields? fields = some s) :
    required fields .version readVersion = some s.version ∧
      withDefault fields .dataChangedAt (readOptional readInstant) none = some s.dataChangedAt ∧
      withDefault fields .dataImportedAt (readOptional readInstant) none
        = some s.dataImportedAt := by
  rw [ofFields?] at h
  obtain ⟨_, -, h⟩ := Option.bind_eq_some_iff.1 h
  obtain ⟨version, hversion, h⟩ := Option.bind_eq_some_iff.1 h
  obtain ⟨_, -, h⟩ := Option.bind_eq_some_iff.1 h
  obtain ⟨_, -, h⟩ := Option.bind_eq_some_iff.1 h
  obtain ⟨_, -, h⟩ := Option.bind_eq_some_iff.1 h
  obtain ⟨_, -, h⟩ := Option.bind_eq_some_iff.1 h
  obtain ⟨_, -, h⟩ := Option.bind_eq_some_iff.1 h
  obtain ⟨changed, hchanged, h⟩ := Option.bind_eq_some_iff.1 h
  obtain ⟨imported, himported, h⟩ := Option.bind_eq_some_iff.1 h
  obtain ⟨_, -, h⟩ := Option.bind_eq_some_iff.1 h
  obtain ⟨_, -, h⟩ := Option.bind_eq_some_iff.1 h
  obtain ⟨_, -, h⟩ := Option.bind_eq_some_iff.1 h
  obtain ⟨_, -, h⟩ := Option.bind_eq_some_iff.1 h
  cases h
  exact ⟨hversion, hchanged, himported⟩

theorem storable_of_load? {text : String} (h : load? text = some s) : s.Storable := by
  obtain ⟨source, -, h⟩ := Option.bind_eq_some_iff.1 h
  obtain ⟨fields, -, h⟩ := Option.bind_eq_some_iff.1 h
  obtain ⟨hversion, hchanged, himported⟩ := eq_some_of_ofFields? h
  obtain ⟨_, -, hread⟩ := Option.bind_eq_some_iff.1 hversion
  constructor
  · exact le_of_readVersion hread
  · exact isValid_of_withDefault hchanged
  · exact isValid_of_withDefault himported

/-- **A saved source is the source.** Loading what was saved gives the source back if and only if
its version has 32 bits and its instants can be named; and whatever text a source was loaded from,
saving it and loading that gives the same source. -/
theorem load_save_iff (s : DataSource) :
    (load? s.save = some s ↔ s.Storable) ∧
      ∀ text, load? text = some s → load? s.save = some s :=
  ⟨⟨storable_of_load?, load?_save⟩, fun _ h ↦ load?_save (storable_of_load? h)⟩

/-- A source that changed half a second into a leap second, was fetched in the year 0, and whose
texts need every kind of escape. -/
theorem load_save_iff_of_leapSecond : ∃ s : DataSource,
    s.version = maxVersion ∧ s.data = "a\tb\n\x01\"\\ü" ∧ s.published = false ∧
    s.dataChangedAt = some ⟨1483228799, 1500000000⟩ ∧
    s.dataImportedAt = some ⟨-62167219200, 1000⟩ ∧ s.ingestState = .dirty ∧
    s.Storable ∧ load? s.save = some s := by
  let s : DataSource := {
    api := "geo", version := maxVersion, data := "a\tb\n\x01\"\\ü", published := false
    dataChangedAt := some ⟨1483228799, 1500000000⟩
    dataImportedAt := some ⟨-62167219200, 1000⟩, ingestState := .dirty }
  have hstorable : s.Storable := by
    constructor
    · exact Nat.le_refl _
    · rintro t ⟨⟩
      decide
    · rintro t ⟨⟩
      decide
  have hload : load? s.save = some s := (load_save_iff s).1.2 hstorable
  exact ⟨s, rfl, rfl, rfl, rfl, rfl, rfl, hstorable, (load_save_iff s).2 s.save hload⟩

end FeedHarvest.DataSource
