import FeedHarvest.Yaml.Reader

/-!
# Trees that are read

No mapping in a tree that is read has a key twice, at any depth, and neither has a key that is
itself a mapping. This is the one thing about reading that what is built on trees relies on: with
it, the value under a key is a matter of which entries there are, not of where they stand.

Reading checks a key against the keys before it, so keys are compared in that direction only.

The other thing that is asked of trees is that they are without tags. Then a text is a string and
nothing else.
-/

namespace FeedHarvest.Yaml

/-! ## Trees without tags -/

inductive Untagged : Yaml → Prop
  | null : Untagged .null
  | bool (b : Bool) : Untagged (.bool b)
  | number (n : Yaml.Number) : Untagged (.number n)
  | string (s : String) : Untagged (.string s)
  | sequence {items : List Yaml} (h : ∀ x ∈ items, Untagged x) : Untagged (.sequence items)
  | mapping {entries : List (Yaml × Yaml)} (hkeys : ∀ e ∈ entries, Untagged e.1)
      (h : ∀ e ∈ entries, Untagged e.2) : Untagged (.mapping entries)

theorem untagged_sequence_iff {items : List Yaml} :
    Untagged (.sequence items) ↔ ∀ x ∈ items, Untagged x := by
  constructor
  · rintro (_ | _ | _ | _ | h)
    exact h
  · exact .sequence

theorem untagged_mapping_iff {entries : List (Yaml × Yaml)} :
    Untagged (.mapping entries) ↔ (∀ e ∈ entries, Untagged e.1) ∧ ∀ e ∈ entries, Untagged e.2 := by
  constructor
  · rintro (_ | _ | _ | _ | _ | ⟨hkeys, h⟩)
    exact ⟨hkeys, h⟩
  · exact fun h ↦ .mapping h.1 h.2

def IsText (v : Yaml) : Prop := ∃ s, v = .string s

theorem Untagged.isText_or {v : Yaml} (h : v.Untagged) :
    (∃ s, v = .string s) ∨ ¬ v.IsText ∧ v.text? = none := by
  cases h with
  | string s => exact .inl ⟨s, rfl⟩
  | null | bool b | number n | sequence h | mapping hkeys h =>
    exact .inr ⟨by rintro ⟨s, ⟨⟩⟩, rfl⟩

theorem Untagged.text?_eq_some_iff {v : Yaml} {s : String} (h : v.Untagged) :
    v.text? = some s ↔ v = .string s := by
  rcases h.isText_or with ⟨t, rfl⟩ | ⟨hnot, hnone⟩
  · rw [text?, Option.some.injEq, string.injEq]
  · refine iff_of_false (fun hs ↦ ?_) fun hs ↦ hnot ⟨s, hs⟩
    rw [hnone] at hs
    cases hs

/-! ## Different keys -/

/-- Whether no key of a mapping is the same as one before it. -/
def KeysDiffer (entries : List (Yaml × Yaml)) : Prop :=
  entries.Pairwise fun earlier later ↦ same later.1 earlier.1 = false

/-- Trees in which no mapping has a key twice. -/
inductive Distinct : Yaml → Prop
  | null : Distinct .null
  | bool (b : Bool) : Distinct (.bool b)
  | number (n : Yaml.Number) : Distinct (.number n)
  | string (s : String) : Distinct (.string s)
  | sequence {items : List Yaml} (h : ∀ x ∈ items, Distinct x) : Distinct (.sequence items)
  | mapping {entries : List (Yaml × Yaml)} (hdiffer : KeysDiffer entries)
      (hkeys : ∀ e ∈ entries, Distinct e.1) (h : ∀ e ∈ entries, Distinct e.2) :
      Distinct (.mapping entries)
  | tagged {tag : String} {v : Yaml} (h : Distinct v) : Distinct (.tagged tag v)

theorem distinct_sequence_iff {items : List Yaml} :
    Distinct (.sequence items) ↔ ∀ x ∈ items, Distinct x := by
  constructor
  · rintro (_ | _ | _ | _ | h)
    exact h
  · exact .sequence

theorem distinct_mapping_iff {entries : List (Yaml × Yaml)} :
    Distinct (.mapping entries) ↔
      KeysDiffer entries ∧ (∀ e ∈ entries, Distinct e.1) ∧ ∀ e ∈ entries, Distinct e.2 := by
  constructor
  · rintro (_ | _ | _ | _ | _ | ⟨hdiffer, hkeys, h⟩)
    exact ⟨hdiffer, hkeys, h⟩
  · exact fun h ↦ .mapping h.1 h.2.1 h.2.2

theorem same_string_eq_false_iff {s t : String} :
    same (.string s) (.string t) = false ↔ s ≠ t := by
  rw [same, beq_eq_false_iff_ne]

theorem KeysDiffer.tail {e : Yaml × Yaml} {entries : List (Yaml × Yaml)}
    (h : KeysDiffer (e :: entries)) : KeysDiffer entries :=
  (List.pairwise_cons.1 h).2

theorem KeysDiffer.string_not_mem {s : String} {v w : Yaml} {entries : List (Yaml × Yaml)}
    (h : KeysDiffer ((.string s, v) :: entries)) : (.string s, w) ∉ entries := by
  intro hmem
  exact same_string_eq_false_iff.1 ((List.pairwise_cons.1 h).1 _ hmem) rfl

theorem KeysDiffer.eq_of_mem {s : String} {v w : Yaml} {entries : List (Yaml × Yaml)}
    (h : KeysDiffer entries) (hv : (.string s, v) ∈ entries) (hw : (.string s, w) ∈ entries) :
    v = w := by
  induction entries with
  | nil => cases hv
  | cons e entries ih =>
    rcases List.mem_cons.1 hv with rfl | hv'
    · rcases List.mem_cons.1 hw with heq | hw'
      · exact (Prod.mk.inj heq).2.symm
      · exact absurd hw' h.string_not_mem
    · rcases List.mem_cons.1 hw with rfl | hw'
      · exact absurd hv' h.string_not_mem
      · exact ih h.tail hv' hw'

/-! ## Reading gives different keys -/

namespace Node

variable {anchors : Anchors} {depth : Nat}

theorem distinct_withTag {p : Properties Nat} {v : Yaml} (h : v.Distinct) :
    (withTag p v).Distinct := by
  rw [withTag]
  split
  · exact .tagged h
  · exact h

private theorem distinct_of_untagged? {s : String} {v : Yaml} (h : untagged? s = some v) :
    v.Distinct := by
  have hother (o : Option Yaml.Number) : (o.elim (.string s) Yaml.number).Distinct := by
    cases o with
    | none => exact .string s
    | some n => exact .number n
  rw [untagged?] at h
  split at h
  · cases h
    exact .null
  · split at h
    · cases h
      exact .bool _
    · dsimp only at h
      generalize (if isPaddedNumber s.toList = true then none else floatOfText? s) = other at h
      split at h
      · split at h
        · cases h
          exact .number _
        · split at h
          · cases h
          · exact Option.some.inj h ▸ hother other
      · exact Option.some.inj h ▸ hother other

private theorem distinct_of_ofStandardTag? {tag s : String} {v : Yaml}
    (h : ofStandardTag? tag s = some v) :
    v.Distinct := by
  rw [ofStandardTag?] at h
  split at h
  · obtain ⟨b, -, rfl⟩ := Option.map_eq_some_iff.1 h
    exact .bool b
  · split at h
    · obtain ⟨n, -, hn⟩ := Option.bind_eq_some_iff.1 h
      split at hn
      · cases hn
        exact .number _
      · cases hn
    · split at h
      · obtain ⟨n, -, rfl⟩ := Option.map_eq_some_iff.1 h
        exact .number n
      · split at h
        · split at h
          · cases h
            exact .null
          · cases h
        · cases h
          exact .string s

private theorem distinct_of_scalarValue? {p : Properties Nat} {text : String} {plain : Bool}
    {v : Yaml}
    (h : scalarValue? p text plain = some v) : v.Distinct := by
  rw [scalarValue?] at h
  split at h
  · exact distinct_of_ofStandardTag? h
  · obtain ⟨w, hw, rfl⟩ := Option.map_eq_some_iff.1 h
    refine distinct_withTag ?_
    cases plain with
    | true => exact distinct_of_untagged? hw
    | false => cases hw; exact .string text

/-- What reading the content of a node at a depth gives has different keys. -/
def ContentDistinct (anchors : Anchors) (depth : Nat) : Prop :=
  ∀ {jumps : Nat} {n : Node Nat} {v : Yaml} {left : Nat},
    content? anchors depth jumps n = some (v, left) → v.Distinct

theorem distinct_of_value? (hcontent : ContentDistinct anchors depth) {jumps : Nat} {n : Node Nat}
    {v : Yaml} {left : Nat} (h : value? anchors depth jumps n = some (v, left)) : v.Distinct := by
  rw [value?.eq_def] at h
  split at h
  · split at h
    · cases h
    · obtain ⟨m, -, hm⟩ := Option.bind_eq_some_iff.1 h
      exact hcontent hm
  · exact hcontent h

private theorem distinct_of_values? (hcontent : ContentDistinct anchors depth)
    {items : List (Node Nat)}
    {jumps left : Nat} {vs : List Yaml} (h : values? anchors depth jumps items = some (vs, left)) :
    ∀ v ∈ vs, v.Distinct := by
  induction items generalizing jumps vs with
  | nil =>
    rw [values?] at h
    cases h
    exact fun v hv ↦ absurd hv List.not_mem_nil
  | cons x xs ih =>
    rw [values?] at h
    obtain ⟨⟨v, jumps'⟩, hv, h⟩ := Option.bind_eq_some_iff.1 h
    obtain ⟨⟨ws, left'⟩, hws, h⟩ := Option.bind_eq_some_iff.1 h
    cases h
    exact List.forall_mem_cons.2 ⟨distinct_of_value? hcontent hv, ih hws⟩

private theorem distinct_mapping_nil : (Yaml.mapping []).Distinct :=
  .mapping .nil (List.forall_mem_nil _) (List.forall_mem_nil _)

private theorem distinct_mapping_snoc {before : List (Yaml × Yaml)} {k v : Yaml}
    (hbefore : (Yaml.mapping before.reverse).Distinct)
    (hnew : ¬ before.any (fun e ↦ same k e.1) = true) (hk : k.Distinct) (hv : v.Distinct) :
    (Yaml.mapping ((k, v) :: before).reverse).Distinct := by
  obtain ⟨hdiffer, hkeys, hvalues⟩ := distinct_mapping_iff.1 hbefore
  have hmem : ∀ e ∈ ((k, v) :: before).reverse, e ∈ before.reverse ∨ e = (k, v) := by
    simp [or_comm]
  refine distinct_mapping_iff.2 ⟨?_, fun e he ↦ ?_, fun e he ↦ ?_⟩
  · rw [KeysDiffer, List.reverse_cons, List.pairwise_append]
    refine ⟨hdiffer, List.pairwise_singleton _ _, fun a ha b hb ↦ ?_⟩
    cases List.mem_singleton.1 hb
    exact Bool.eq_false_iff.2 fun hsame ↦
      hnew (List.any_eq_true.2 ⟨a, List.mem_reverse.1 ha, hsame⟩)
  · rcases hmem e he with he | rfl
    · exact hkeys e he
    · exact hk
  · rcases hmem e he with he | rfl
    · exact hvalues e he
    · exact hv

/-- The keys of entries are read in order, each checked against those before it. -/
theorem distinct_of_entryValues? (hcontent : ContentDistinct anchors depth)
    {entries : List (Node Nat × Node Nat)} {jumps left : Nat} {before es : List (Yaml × Yaml)}
    (h : entryValues? anchors depth jumps before entries = some (es, left))
    (hbefore : (Yaml.mapping before.reverse).Distinct) : (Yaml.mapping es).Distinct := by
  induction entries generalizing jumps before with
  | nil =>
    rw [entryValues?] at h
    cases h
    exact hbefore
  | cons e entries ih =>
    rw [entryValues?] at h
    obtain ⟨⟨key, jumps'⟩, hkey, h⟩ := Option.bind_eq_some_iff.1 h
    dsimp only at h
    split at h
    · cases h
    · next hnew =>
      obtain ⟨⟨v, left'⟩, hv, h⟩ := Option.bind_eq_some_iff.1 h
      exact ih h (distinct_mapping_snoc hbefore hnew (distinct_of_value? hcontent hkey)
        (distinct_of_value? hcontent hv))

private theorem contentDistinct (anchors : Anchors) (depth : Nat) :
    ContentDistinct anchors depth := by
  -- what stands in a collection is read at a depth one less
  induction depth using Nat.strongRecOn with
  | ind depth ih =>
    intro jumps n v left h
    rw [content?.eq_def] at h
    rcases n with a | ⟨p, text, plain⟩ | ⟨p, items⟩ | ⟨p, entries⟩
    · cases h
    · obtain ⟨w, hw, hv⟩ := Option.map_eq_some_iff.1 h
      cases hv
      exact distinct_of_scalarValue? hw
    · cases depth with
      | zero => cases h
      | succ depth =>
        obtain ⟨⟨vs, jumps'⟩, hvs, h⟩ := Option.bind_eq_some_iff.1 h
        cases h
        exact distinct_withTag (.sequence (distinct_of_values? (ih depth depth.lt_succ_self) hvs))
    · cases depth with
      | zero => cases h
      | succ depth =>
        obtain ⟨⟨es, jumps'⟩, hes, h⟩ := Option.bind_eq_some_iff.1 h
        cases h
        exact distinct_withTag
          (distinct_of_entryValues? (ih depth depth.lt_succ_self) hes distinct_mapping_nil)

end Node

/-- **No mapping that is read has a key twice**, at any depth. -/
theorem distinct_of_parse? {text : List Char} {v : Yaml} (h : parse? text = some v) :
    v.Distinct := by
  obtain ⟨written, -, h⟩ := Option.bind_eq_some_iff.1 h
  obtain ⟨⟨n, names⟩, -, h⟩ := Option.bind_eq_some_iff.1 h
  obtain ⟨⟨w, left⟩, hw, h⟩ := Option.bind_eq_some_iff.1 h
  cases h
  exact Node.distinct_of_value? (Node.contentDistinct _ _) hw

end FeedHarvest.Yaml
