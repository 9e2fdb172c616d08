import FeedHarvest.Proofs.Json.Members
import FeedHarvest.Proofs.Json.Source

/-!
# Values read as they were written

A text is read in two steps: as a tree of what was written, and as the value of that tree. The tree
of a written value has that value again if nothing was lost on the way: its numbers are integers
that fit 64 bits, no object has two members of one name, and its containers nest no deeper than
reading allows. The two layouts make no difference, as they are written from the same tree.
-/

namespace FeedHarvest.Json

mutual

/-- Whether a value survives its own tree: its numbers are integers of 64 bits, signed or not, and
no object has two members of one name. -/
def IsPlain : Json → Prop
  | .number (.int n) => -(Nat.pow 2 63 : Nat) ≤ n ∧ n ≤ (Nat.pow 2 64 - 1 : Nat)
  | .number (.float _) => False
  | .null | .bool _ | .string _ => True
  | .array items => ArePlain items
  | .object ms => (Members.keys ms).Nodup ∧ MembersPlain ms

def ArePlain : List Json → Prop
  | [] => True
  | v :: vs => IsPlain v ∧ ArePlain vs

/-- Whether the values of all members are plain. -/
def MembersPlain : List (String × Json) → Prop
  | [] => True
  | (_, v) :: ms => IsPlain v ∧ MembersPlain ms

end

mutual

/-- How deep the containers of a value nest. -/
def nesting : Json → Nat
  | .null | .bool _ | .number _ | .string _ => 0
  | .array items => itemsNesting items + 1
  | .object ms => membersNesting ms + 1

def itemsNesting : List Json → Nat
  | [] => 0
  | v :: vs => max (nesting v) (itemsNesting vs)

def membersNesting : List (String × Json) → Nat
  | [] => 0
  | (_, v) :: ms => max (nesting v) (membersNesting ms)

end

mutual

theorem IsPlain.isIntegral : ∀ {v}, IsPlain v → IsIntegral v
  | .null, _ | .bool _, _ | .number (.int _), _ | .string _, _ => by rw [IsIntegral]; trivial
  | .number (.float _), h => by rw [IsPlain] at h; exact h.elim
  | .array _, h => by
    rw [IsPlain] at h
    rw [IsIntegral]
    exact h.areIntegral
  | .object _, h => by
    rw [IsPlain] at h
    rw [IsIntegral]
    exact h.2.membersIntegral

theorem ArePlain.areIntegral : ∀ {vs}, ArePlain vs → AreIntegral vs
  | [], _ => by rw [AreIntegral]; trivial
  | _ :: _, h => by
    rw [ArePlain] at h
    rw [AreIntegral]
    exact ⟨h.1.isIntegral, h.2.areIntegral⟩

theorem MembersPlain.membersIntegral : ∀ {ms}, MembersPlain ms → MembersIntegral ms
  | [], _ => by rw [MembersIntegral]; trivial
  | _ :: _, h => by
    rw [MembersPlain] at h
    rw [MembersIntegral]
    exact ⟨h.1.isIntegral, h.2.membersIntegral⟩

end

mutual

theorem value?_sourceOf : ∀ {v} (depth : Nat), IsPlain v → nesting v ≤ depth →
    (sourceOf v).value? depth = some v
  | .null, _, _, _ => by rw [sourceOf, Source.value?]
  | .bool _, _, _, _ => by rw [sourceOf, Source.value?]
  | .number (.int n), _, h, _ => by
    rw [IsPlain] at h
    rw [sourceOf, Source.value?, value?_intSource h.1 h.2, Option.map_some]
  | .number (.float _), _, h, _ => by rw [IsPlain] at h; exact h.elim
  | .string s, _, _, _ => by rw [sourceOf, Source.value?, text?_partsOf, Option.map_some]
  | .array vs, 0, _, hn => by rw [nesting] at hn; omega
  | .array vs, depth + 1, h, hn => by
    rw [IsPlain] at h
    rw [nesting, Nat.add_le_add_iff_right] at hn
    rw [sourceOf, Source.value?, values?_sourcesOf depth h hn, Option.map_some]
  | .object ms, 0, _, hn => by rw [nesting] at hn; omega
  | .object ms, depth + 1, h, hn => by
    rw [IsPlain] at h
    rw [nesting, Nat.add_le_add_iff_right] at hn
    rw [sourceOf, Source.value?, memberValues?_memberSourcesOf depth h.2 hn, Option.map_some,
      Members.ofList_of_nodup h.1]

theorem values?_sourcesOf : ∀ {vs} (depth : Nat), ArePlain vs → itemsNesting vs ≤ depth →
    Source.values? depth (sourcesOf vs) = some vs
  | [], _, _, _ => by rw [sourcesOf, Source.values?]
  | v :: vs, depth, h, hn => by
    rw [ArePlain] at h
    rw [itemsNesting, Nat.max_le] at hn
    rw [sourcesOf, Source.values?, value?_sourceOf depth h.1 hn.1,
      values?_sourcesOf depth h.2 hn.2]
    rfl

theorem memberValues?_memberSourcesOf : ∀ {ms} (depth : Nat), MembersPlain ms →
    membersNesting ms ≤ depth → Source.memberValues? depth (memberSourcesOf ms) = some ms
  | [], _, _, _ => by rw [memberSourcesOf, Source.memberValues?]
  | (k, v) :: ms, depth, h, hn => by
    rw [MembersPlain] at h
    rw [membersNesting, Nat.max_le] at hn
    rw [memberSourcesOf, Source.memberValues?, text?_partsOf, value?_sourceOf depth h.1 hn.1,
      memberValues?_memberSourcesOf depth h.2 hn.2]
    rfl

end

/-- A plain value is read back from its text in either layout, with any blanks before it. -/
theorem parse?_written {v : Json} {ws : List Char} {text : String} (h : IsPlain v)
    (hn : nesting v ≤ maxDepth) (hws : ∀ c ∈ ws, isSpace c = true)
    (htext : text = v.compact ∨ text = v.pretty) : parse? (ws ++ text.toList) = some v := by
  have hread : Reads v text.toList := by
    rcases htext with rfl | rfl
    · rw [compact, String.toList_ofList]
      exact reads_compactText v h.isIntegral
    · rw [pretty, String.toList_ofList]
      exact reads_prettyText 0 v h.isIntegral
  have hsource : Source.parse? (ws ++ text.toList) = some (sourceOf v) :=
    parse?_of_reads fun _ _ hs ↦ (hread hs).of_spaces hws
  simp only [parse?, hsource, bind, Option.bind_some, value?_sourceOf maxDepth h hn]

theorem parse?_compact {v : Json} (h : IsPlain v) (hn : nesting v ≤ maxDepth) :
    parse? v.compact.toList = some v := by
  have hread : parse? ([] ++ v.compact.toList) = some v :=
    parse?_written h hn (fun c hc ↦ absurd hc List.not_mem_nil) (.inl rfl)
  rwa [List.nil_append] at hread

end FeedHarvest.Json
