import FeedHarvest.Files
import FeedHarvest.Proofs.Text.Utf8

/-!
# Writing files

What is written to a path is read from it afterwards, and the path can be written to again. Writing
turns no folder into a file, since a folder cannot be written to, and so every path that led
somewhere still leads there.

Writing over a file moves nothing else: paths lead where they led, and what other files hold is what
they held. `SeenAlike` says this from the point of view of one path.
-/

namespace FeedHarvest.Files

/-! ## Entries -/

section Entries

variable {parts p : List String} {e d : Entry} {es : List (List String × Entry)}

private theorem lookup_put (parts : List String) (e : Entry) (es : List (List String × Entry)) :
    (put parts e es).lookup parts = some e := by
  induction es with
  | nil => rw [put, List.lookup_cons_self]
  | cons x es ih =>
    rw [put]
    split
    · next heq => rw [heq, List.lookup_cons_self]
    · next hne =>
      rw [List.lookup_cons, beq_false_of_ne (Ne.symm hne)]
      exact ih

private theorem eq_or_mem_of_mem_put (h : (p, d) ∈ put parts e es) :
    p = parts ∧ d = e ∨ (p, d) ∈ es := by
  induction es with
  | nil =>
    rw [put, List.mem_singleton, Prod.mk.injEq] at h
    exact .inl h
  | cons x es ih =>
    rw [put] at h
    split at h
    · next heq =>
      rcases List.mem_cons.1 h with h | h
      · rw [heq, Prod.mk.injEq] at h
        exact .inl h
      · exact .inr (List.mem_cons_of_mem _ h)
    · rcases List.mem_cons.1 h with h | h
      · exact .inr (h ▸ List.mem_cons_self)
      · exact (ih h).imp_right (List.mem_cons_of_mem _)

private theorem mem_put_self (parts : List String) (e : Entry) (es : List (List String × Entry)) :
    (parts, e) ∈ put parts e es := by
  induction es with
  | nil => exact List.mem_singleton.2 rfl
  | cons x es ih =>
    rw [put]
    split
    · next heq => exact heq ▸ List.mem_cons_self
    · exact List.mem_cons_of_mem _ ih

private theorem mem_put_of_ne (hne : p ≠ parts) (h : (p, d) ∈ es) : (p, d) ∈ put parts e es := by
  induction es with
  | nil => cases h
  | cons x es ih =>
    rw [put]
    rcases List.mem_cons.1 h with rfl | h
    · rw [if_neg hne]
      exact List.mem_cons_self
    · split
      · exact List.mem_cons_of_mem _ h
      · exact List.mem_cons_of_mem _ (ih h)

private theorem lookup_put_of_ne (hne : p ≠ parts) : (put parts e es).lookup p = es.lookup p := by
  induction es with
  | nil => rw [put, List.lookup_cons, beq_false_of_ne hne, List.lookup_nil]
  | cons x es ih =>
    rw [put]
    split
    · next heq =>
      obtain rfl := heq
      rw [List.lookup_cons, List.lookup_cons, beq_false_of_ne hne]
    · rw [List.lookup_cons, List.lookup_cons, ih]

/-- A test that an entry passes like the one it replaces does not tell the lists apart. -/
theorem any_put {test : List String × Entry → Bool} (h : es.lookup parts = some d)
    (htest : test (parts, e) = test (parts, d)) : (put parts e es).any test = es.any test := by
  induction es with
  | nil => cases h
  | cons x es ih =>
    rw [put]
    split
    · next heq =>
      obtain ⟨p, d'⟩ := x
      obtain rfl : p = parts := heq
      rw [List.lookup_cons_self, Option.some.injEq] at h
      rw [List.any_cons, List.any_cons, htest, h]
    · next hne =>
      rw [List.lookup_cons, beq_false_of_ne (Ne.symm hne)] at h
      rw [List.any_cons, List.any_cons, ih h]

end Entries

/-! ## Folders -/

variable {fs fs' : Files} {parts ps : List String} {path text : String}

theorem isFolder_iff : fs.isFolder ps = true ↔ ps <+: fs.here ∨
    ∃ p e, (p, e) ∈ fs.entries ∧ (p = ps ∧ e = .folder ∨ ps <+: p ∧ p ≠ ps) := by
  simp only [isFolder, Bool.or_eq_true, List.any_eq_true, Bool.and_eq_true, beq_iff_eq,
    bne_iff_ne, List.isPrefixOf_iff_prefix, Prod.exists]

/-- The tree with a file at parts that lead to no folder. -/
def withFile (fs : Files) (parts : List String) (bytes : List UInt8) : Files :=
  { fs with entries := put parts (.file bytes) fs.entries }

variable {bytes : List UInt8}

theorem isFolder_withFile_of_isFolder (hparts : fs.isFolder parts = false)
    (h : fs.isFolder ps = true) : (fs.withFile parts bytes).isFolder ps = true := by
  rw [isFolder_iff] at h ⊢
  rcases h with h | ⟨p, e, hmem, h⟩
  · exact .inl h
  · by_cases hp : p = parts
    · subst hp
      rcases h with ⟨rfl, rfl⟩ | h
      · have hfolder : fs.isFolder p = true :=
          isFolder_iff.2 (.inr ⟨p, .folder, hmem, .inl ⟨rfl, rfl⟩⟩)
        rw [hfolder] at hparts
        cases hparts
      · exact .inr ⟨p, _, mem_put_self p _ _, .inr h⟩
    · exact .inr ⟨p, e, mem_put_of_ne hp hmem, h⟩

private theorem isFolder_withFile_self (hparts : fs.isFolder parts = false) :
    (fs.withFile parts bytes).isFolder parts = false := by
  rw [Bool.eq_false_iff, Ne, isFolder_iff] at hparts ⊢
  rintro (h | ⟨p, e, hmem, h⟩)
  · exact hparts (.inl h)
  · rcases eq_or_mem_of_mem_put hmem with ⟨rfl, rfl⟩ | hmem
    · rcases h with ⟨-, h⟩ | ⟨-, h⟩
      · cases h
      · exact h rfl
    · exact hparts (.inr ⟨p, e, hmem, h⟩)

/-! ## Paths -/

private theorem foldlM_of_forall {α β : Type} {f g : β → α → Option β}
    (h : ∀ b a c, f b a = some c → g b a = some c) {as : List α} {b c : β}
    (hf : as.foldlM f b = some c) : as.foldlM g b = some c := by
  induction as generalizing b with
  | nil => exact hf
  | cons a as ih =>
    rw [List.foldlM_cons, Option.bind_eq_bind, Option.bind_eq_some_iff] at hf ⊢
    obtain ⟨b', hb', hrest⟩ := hf
    exact ⟨b', h b a b' hb', ih hrest⟩

theorem resolve?_withFile (hparts : fs.isFolder parts = false) (h : fs.resolve? path = some ps) :
    (fs.withFile parts bytes).resolve? path = some ps := by
  have henter : ∀ qs part rs, fs.enter? qs part = some rs →
      (fs.withFile parts bytes).enter? qs part = some rs := by
    intro qs part rs hqs
    rw [enter?] at hqs ⊢
    split at hqs
    · next hfolder => rwa [if_pos (isFolder_withFile_of_isFolder hparts hfolder)]
    · cases hqs
  rw [resolve?] at h ⊢
  split at h
  · cases h
  · next hpath =>
    rw [if_neg hpath]
    exact foldlM_of_forall henter h

theorem write?_eq_some_iff : fs.write? path text = some fs' ↔
    ∃ parts, fs.resolve? path = some parts ∧ fs.isFolder parts = false ∧
      fs.isFolder parts.dropLast = true ∧ fs.withFile parts (Text.Utf8.encode text) = fs' := by
  rw [write?, Option.bind_eq_bind, Option.bind_eq_some_iff]
  refine exists_congr fun parts ↦ and_congr_right fun _ ↦ ?_
  cases fs.isFolder parts with
  | true => simp
  | false =>
    cases fs.isFolder parts.dropLast with
    | true => simp [withFile]
    | false => simp

theorem exists_write?_of_resolve? (hresolve : fs.resolve? path = some parts)
    (hparts : fs.isFolder parts = false) (hparent : fs.isFolder parts.dropLast = true)
    (text : String) : ∃ fs', fs.write? path text = some fs' :=
  ⟨_, write?_eq_some_iff.2 ⟨parts, hresolve, hparts, hparent, rfl⟩⟩

theorem text?_of_write? (h : fs.write? path text = some fs') : fs'.text? path = some text := by
  obtain ⟨parts, hresolve, hparts, -, rfl⟩ := write?_eq_some_iff.1 h
  rw [text?, bytes?, resolve?_withFile hparts hresolve, Option.bind_eq_bind, Option.bind_some,
    withFile, lookup_put]
  exact Text.Utf8.decode?_encode text

theorem exists_write?_of_write? (h : fs.write? path text = some fs') (text' : String) :
    ∃ fs'', fs'.write? path text' = some fs'' := by
  obtain ⟨parts, hresolve, hparts, hparent, rfl⟩ := write?_eq_some_iff.1 h
  exact exists_write?_of_resolve? (resolve?_withFile hparts hresolve)
    (isFolder_withFile_self hparts) (isFolder_withFile_of_isFolder hparts hparent) text'

/-! ## Writing over a file -/

section Overwriting

variable {gs hs : Files} {other : String} {old : List UInt8}

theorem isFolder_withFile_of_lookup (h : fs.entries.lookup parts = some (.file old))
    (ps : List String) : (fs.withFile parts bytes).isFolder ps = fs.isFolder ps := by
  rw [isFolder, isFolder, withFile]
  exact congrArg (ps.isPrefixOf fs.here || ·) (any_put h rfl)

theorem resolve?_withFile_of_lookup (h : fs.entries.lookup parts = some (.file old))
    (path : String) : (fs.withFile parts bytes).resolve? path = fs.resolve? path := by
  have henter : (fs.withFile parts bytes).enter? = fs.enter? := by
    funext qs part
    rw [enter?, enter?, isFolder_withFile_of_lookup h]
  rw [resolve?, resolve?, henter]
  rfl

private theorem exists_lookup_of_text?_eq_some (h : fs.text? path = some text) :
    ∃ parts old, fs.resolve? path = some parts ∧
      fs.entries.lookup parts = some (.file old) := by
  rw [text?, Option.bind_eq_some_iff] at h
  obtain ⟨old, hbytes, -⟩ := h
  rw [bytes?, Option.bind_eq_bind, Option.bind_eq_some_iff] at hbytes
  obtain ⟨parts, hresolve, hentry⟩ := hbytes
  split at hentry
  · next hlookup =>
    cases hentry
    exact ⟨parts, old, hresolve, hlookup⟩
  · cases hentry

/-- Whether paths lead to the same places in two trees, and one path to a file of the same
contents. -/
structure SeenAlike (path : String) (fs gs : Files) : Prop where
  isFolder_eq : gs.isFolder = fs.isFolder
  resolve?_eq : gs.resolve? = fs.resolve?
  text?_eq : gs.text? path = fs.text? path

theorem SeenAlike.refl (path : String) (fs : Files) : SeenAlike path fs fs := ⟨rfl, rfl, rfl⟩

theorem SeenAlike.trans (h : SeenAlike path fs gs) (h' : SeenAlike path gs hs) :
    SeenAlike path fs hs :=
  ⟨h'.isFolder_eq.trans h.isFolder_eq, h'.resolve?_eq.trans h.resolve?_eq,
    h'.text?_eq.trans h.text?_eq⟩

/-- Whether two paths do not lead to one place. -/
def Apart (fs : Files) (path other : String) : Prop :=
  ∀ parts, fs.resolve? path = some parts → fs.resolve? other ≠ some parts

theorem apart_of_resolve?_ne (h : fs.resolve? path ≠ fs.resolve? other) : fs.Apart path other :=
  fun _ hpath hother ↦ h (hpath.trans hother.symm)

theorem Apart.symm (h : fs.Apart path other) : fs.Apart other path :=
  fun parts hother hpath ↦ h parts hpath hother

theorem seenAlike_of_write? (hapart : fs.Apart path other) (hold : fs.text? path = some text)
    {text' : String} (h : fs.write? path text' = some gs) : SeenAlike other fs gs := by
  obtain ⟨parts, hresolve, -, -, rfl⟩ := write?_eq_some_iff.1 h
  obtain ⟨_, old, hresolve', hlookup⟩ := exists_lookup_of_text?_eq_some hold
  obtain rfl := Option.some.inj (hresolve.symm.trans hresolve')
  refine ⟨funext (isFolder_withFile_of_lookup hlookup),
    funext (resolve?_withFile_of_lookup hlookup), ?_⟩
  rw [text?, text?, bytes?, bytes?, resolve?_withFile_of_lookup hlookup, withFile]
  cases hother : fs.resolve? other with
  | none => rfl
  | some ps =>
    have hne : ps ≠ parts := by
      rintro rfl
      exact hapart ps hresolve hother
    simp only [Option.bind_eq_bind, Option.bind_some, lookup_put_of_ne hne]

/-- Trees that are seen alike from a path can both be written to there, or neither can, and whatever
the texts. -/
theorem SeenAlike.isSome_write?_eq (h : SeenAlike path fs gs) (text text' : String) :
    (gs.write? path text').isSome = (fs.write? path text).isSome := by
  rw [write?, write?, h.resolve?_eq, h.isFolder_eq]
  cases fs.resolve? path with
  | none => rfl
  | some parts =>
    simp only [Option.bind_eq_bind, Option.bind_some]
    split <;> rfl

end Overwriting

end FeedHarvest.Files
