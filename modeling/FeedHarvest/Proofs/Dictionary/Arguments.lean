import FeedHarvest.Proofs.Dictionary.Rendering
import FeedHarvest.Proofs.Text.Digits
import Mathlib.Data.List.Basic

/-!
# Where an operation finds its arguments

An operation looks for a parameter by its name, and by its position where nothing has that name.
Which value it gets is said here for all arguments, and then which texts and which offsets values
stand for.

Names and positions are two conventions, and keyed arguments have both. Where only some of the
parameters are named, the position of one may be the place of the entry that another has by name,
and then one entry serves for both. With the two parameters of a replacement this happens in two
ways, `SharesEntry`, and in no other.
-/

namespace FeedHarvest.Dictionary

/-! ## By name, else by position -/

namespace Arguments

variable {args : Arguments} {position : Nat} {key : String} {v : Json}

/-- Whether a value is the first one under a name. -/
def HasKeyed (args : Arguments) (key : String) (v : Json) : Prop :=
  ∃ before after, args = .keyed (before ++ (key, v) :: after) ∧ ∀ p ∈ before, p.1 ≠ key

def LacksKey (args : Arguments) (key : String) : Prop :=
  ∀ pairs, args = .keyed pairs → ∀ p ∈ pairs, p.1 ≠ key

/-- Whether a parameter gets a value: the one under its name, or, if there is no such name, the one
at its position. -/
def Gives (args : Arguments) (position : Nat) (key : String) (v : Json) : Prop :=
  args.HasKeyed key v ∨ args.LacksKey key ∧ args.values[position]? = some v

theorem get?_eq_some_iff : args.get? key = some v ↔ args.HasKeyed key v := by
  cases args with
  | keyed pairs =>
    rw [get?, List.lookup_eq_some_iff]
    constructor
    · rintro ⟨before, after, rfl, h⟩
      exact ⟨before, after, rfl, fun p hp heq ↦ by simpa [heq] using h p hp⟩
    · rintro ⟨before, after, hpairs, h⟩
      cases hpairs
      exact ⟨before, after, rfl, fun p hp ↦ bne_iff_ne.2 (h p hp).symm⟩
  | none | scalar _ | positional _ =>
    refine iff_of_false (by rintro ⟨⟩) ?_
    rintro ⟨before, after, ⟨⟩, -⟩

theorem get?_eq_none_iff : args.get? key = Option.none ↔ args.LacksKey key := by
  cases args with
  | keyed pairs =>
    rw [get?, List.lookup_eq_none_iff]
    constructor
    · rintro h _ ⟨⟩ p hp heq
      simpa [heq] using h p hp
    · intro h p hp
      exact bne_iff_ne.2 (h pairs rfl p hp).symm
  | none | scalar _ | positional _ =>
    refine iff_of_true rfl ?_
    rintro pairs ⟨⟩

theorem find?_eq_some_iff : args.find? position key = some v ↔ args.Gives position key v := by
  rw [find?, Option.or_eq_some_iff, get?_eq_some_iff, get?_eq_none_iff, Gives]

end Arguments

/-! ## Texts and offsets -/

/-- The text that a single value stands for. Null and collections stand for none. -/
inductive HasText : Json → String → Prop
  | string (s : String) : HasText (.string s) s
  | number (n : Json.Number) : HasText (.number n) (String.ofList n.text)
  | bool (b : Bool) : HasText (.bool b) (toString b)

theorem argumentText?_eq_some_iff {v : Json} {s : String} :
    argumentText? v = some s ↔ HasText v s := by
  constructor
  · intro h
    cases v with
    | null | array _ | object _ => cases h
    | bool b =>
      cases h
      exact .bool b
    | number n =>
      cases h
      exact .number n
    | string _ =>
      cases h
      exact .string s
  · rintro ⟨⟩ <;> rfl

/-- The offset that a value stands for: a whole number below `2^64`, or its digits in a text, with a
plus sign before them or not, between blanks. -/
inductive IsOffset : Json → Nat → Prop
  | number {n : Nat} (hn : n ≤ Text.maxCount) : IsOffset (.number (.int n)) n
  | text {s : String} {before sign digits after : List Char} {n : Nat}
    (hs : s.toList = before ++ (sign ++ digits) ++ after)
    (hbefore : ∀ c ∈ before, Text.isBlank c = true) (hafter : ∀ c ∈ after, Text.isBlank c = true)
    (hsign : sign = [] ∨ sign = ['+']) (hne : digits ≠ []) (hdigits : ∀ c ∈ digits, c.isDigit)
    (hvalue : Nat.ofDigitChars 10 digits 0 = n) (hn : n ≤ Text.maxCount) : IsOffset (.string s) n

theorem offsetOf?_eq_some_iff {v : Json} {n : Nat} : offsetOf? v = some n ↔ IsOffset v n := by
  constructor
  · intro h
    cases v with
    | string s =>
      obtain ⟨before, sign, digits, after, hs, hbefore, hafter, hsign, hdigits, hle⟩ :=
        Text.count?_trim_eq_some_iff.1 h
      obtain ⟨hne, hdigits, hvalue⟩ := Text.natOfDecimal?_eq_some_iff_ofDigitChars.1 hdigits
      exact .text hs hbefore hafter hsign hne hdigits hvalue hle
    | number x =>
      cases x with
      | int i =>
        obtain ⟨hi, hle⟩ := Option.filter_eq_some_iff.1 h
        rw [Json.asNat?] at hi
        split at hi
        · next hnonneg =>
          obtain ⟨m, rfl⟩ := Int.eq_ofNat_of_zero_le hnonneg
          cases hi
          exact .number (of_decide_eq_true hle)
        · cases hi
      | float x => cases h
    | null | bool _ | array _ | object _ => cases h
  · intro h
    cases h with
    | number hn =>
      simp [offsetOf?, Json.asNat?, hn]
    | text hs hbefore hafter hsign hne hdigits hvalue hn =>
      refine Text.count?_trim_eq_some_iff.2 ⟨_, _, _, _, hs, hbefore, hafter, hsign, ?_, hn⟩
      exact Text.natOfDecimal?_eq_some_iff_ofDigitChars.2 ⟨hne, hdigits, hvalue⟩

/-! ## Arguments that are needed -/

/-- What was found, or the error of what is missing. -/
def orMissing {α : Type} (found : Option α) (flaw : Flaw) : Except Error α :=
  found.elim (.error (.incomplete flaw)) .ok

theorem orMissing_eq_ok_iff {α : Type} {found : Option α} {flaw : Flaw} {a : α} :
    orMissing found flaw = .ok a ↔ found = some a := by
  cases found with
  | none => exact iff_of_false (by rintro ⟨⟩) (by rintro ⟨⟩)
  | some b => rw [orMissing, Option.elim_some, Except.ok.injEq, Option.some.injEq]

theorem textArgument_eq (operation : String) (args : Arguments) (position : Nat) (key : String) :
    textArgument operation args position key = orMissing
      ((args.find? position key).bind argumentText?) (.missingArgument operation key) := by
  rw [textArgument]
  cases (args.find? position key).bind argumentText? <;> rfl

/-! ## Two parameters in one list -/

section Entries

open Json.Members (keys)

variable {pairs : List (String × Json)} {position : Nat} {key : String}

/-- The place of the entry that a parameter gets: the first of its name, or, if there is none of its
name, the one at its position. -/
def entryIndex (pairs : List (String × Json)) (position : Nat) (key : String) : Nat :=
  if key ∈ keys pairs then (keys pairs).idxOf key else position

private theorem lookup_eq_getElem?_idxOf (pairs : List (String × Json)) (key : String) :
    pairs.lookup key = (pairs.map Prod.snd)[(keys pairs).idxOf key]? := by
  induction pairs with
  | nil => rfl
  | cons p pairs ih =>
    obtain ⟨k, v⟩ := p
    by_cases hk : key = k
    · subst hk
      simp
    · rw [List.lookup_cons, beq_false_of_ne hk, Json.Members.keys_cons, List.map_cons,
        List.idxOf_cons_ne _ (Ne.symm hk), List.getElem?_cons_succ]
      exact ih

private theorem find?_keyed (pairs : List (String × Json)) (position : Nat) (key : String) :
    (Arguments.keyed pairs).find? position key
      = (pairs.map Prod.snd)[entryIndex pairs position key]? := by
  have hlength : (keys pairs).length = (pairs.map Prod.snd).length := by
    rw [keys, List.length_map, List.length_map]
  rw [Arguments.find?, Arguments.get?, entryIndex, lookup_eq_getElem?_idxOf]
  split
  · next hmem =>
    have hlt := List.idxOf_lt_length_of_mem hmem
    rw [hlength] at hlt
    rw [List.getElem?_eq_getElem hlt, Option.some_or]
  · next hmem =>
    have heq := List.idxOf_eq_length hmem
    rw [hlength] at heq
    rw [heq, List.getElem?_eq_none (Nat.le_refl _), Option.none_or]
    rfl

theorem entryIndex_of_not_mem (h : key ∉ keys pairs) :
    entryIndex pairs position key = position := if_neg h

theorem entryIndex_of_mem (h : key ∈ keys pairs) :
    entryIndex pairs position key = (keys pairs).idxOf key := if_pos h

theorem exists_cons_of_idxOf_eq_zero (hmem : key ∈ keys pairs)
    (h : (keys pairs).idxOf key = 0) : ∃ v rest, pairs = (key, v) :: rest := by
  cases pairs with
  | nil => cases hmem
  | cons p rest =>
    obtain ⟨k, v⟩ := p
    by_cases hk : k = key
    · rw [hk]
      exact ⟨v, rest, rfl⟩
    · rw [Json.Members.keys_cons, List.idxOf_cons_ne _ hk] at h
      cases h

/-- Whether one entry serves for both parameters of a replacement: one of them has no entry of its
name, and at its position stands the entry that the other has by name. -/
inductive SharesEntry : List (String × Json) → Prop
  | pattern {v : Json} {rest : List (String × Json)} (h : "pattern" ∉ keys rest) :
      SharesEntry (("replacement", v) :: rest)
  | replacement {k : String} {v w : Json} {rest : List (String × Json)} (hk : k ≠ "pattern")
      (h : "replacement" ∉ k :: keys rest) : SharesEntry ((k, v) :: ("pattern", w) :: rest)

private theorem entryIndex_eq_of_sharesEntry (h : SharesEntry pairs) :
    entryIndex pairs 0 "pattern" = entryIndex pairs 1 "replacement" := by
  cases h with
  | pattern h =>
    rw [entryIndex_of_not_mem (by simpa using h), entryIndex_of_mem (by simp),
      Json.Members.keys_cons, List.idxOf_cons_self]
  | replacement hk h =>
    rw [entryIndex_of_mem (by simp), entryIndex_of_not_mem (by simpa using h),
      Json.Members.keys_cons, List.idxOf_cons_ne _ hk, Json.Members.keys_cons, List.idxOf_cons_self]

private theorem sharesEntry_of_entryIndex_eq
    (h : entryIndex pairs 0 "pattern" = entryIndex pairs 1 "replacement") : SharesEntry pairs := by
  by_cases hpattern : "pattern" ∈ keys pairs
  · rw [entryIndex_of_mem hpattern] at h
    by_cases hreplacement : "replacement" ∈ keys pairs
    · -- both are named, and an entry has one name
      rw [entryIndex_of_mem hreplacement, List.idxOf_inj hpattern] at h
      exact absurd h (by decide)
    · rw [entryIndex_of_not_mem hreplacement] at h
      cases pairs with
      | nil => cases hpattern
      | cons p rest =>
        obtain ⟨k, v⟩ := p
        have hk : k ≠ "pattern" := by
          rintro rfl
          rw [Json.Members.keys_cons, List.idxOf_cons_self] at h
          cases h
        rw [Json.Members.keys_cons, List.idxOf_cons_ne _ hk] at h
        obtain ⟨w, rest, rfl⟩ := exists_cons_of_idxOf_eq_zero
          ((List.mem_cons.1 hpattern).resolve_left hk.symm) (Nat.succ.inj h)
        exact .replacement hk (by simpa using hreplacement)
  · rw [entryIndex_of_not_mem hpattern] at h
    by_cases hreplacement : "replacement" ∈ keys pairs
    · rw [entryIndex_of_mem hreplacement] at h
      obtain ⟨v, rest, rfl⟩ := exists_cons_of_idxOf_eq_zero hreplacement h.symm
      exact .pattern (by simpa using hpattern)
    · rw [entryIndex_of_not_mem hreplacement] at h
      cases h

theorem entryIndex_eq_iff_sharesEntry :
    entryIndex pairs 0 "pattern" = entryIndex pairs 1 "replacement" ↔ SharesEntry pairs :=
  ⟨sharesEntry_of_entryIndex_eq, entryIndex_eq_of_sharesEntry⟩

/-- Whether the value of the entry at a place stands for a text. -/
def TextAt (pairs : List (String × Json)) (i : Nat) (s : String) : Prop :=
  ∃ p, pairs[i]? = some p ∧ HasText p.2 s

private theorem textArgument_keyed_eq_ok_iff {operation s : String} :
    textArgument operation (.keyed pairs) position key = .ok s ↔
      TextAt pairs (entryIndex pairs position key) s := by
  rw [textArgument_eq, orMissing_eq_ok_iff, find?_keyed, List.getElem?_map, Option.bind_map,
    Option.bind_eq_some_iff, TextAt]
  simp only [Function.comp_apply, argumentText?_eq_some_iff]

/-- A text stands for itself only, so a place has one text. -/
theorem TextAt.eq {i : Nat} {s t : String} (hs : TextAt pairs i s) (ht : TextAt pairs i t) :
    s = t := by
  obtain ⟨p, hp, hs⟩ := hs
  obtain ⟨q, hq, ht⟩ := ht
  cases hp.symm.trans hq
  exact Option.some.inj
    ((argumentText?_eq_some_iff.2 hs).symm.trans (argumentText?_eq_some_iff.2 ht))

end Entries

/-- The parameters of a replacement with keyed arguments are the texts of the entries that each of
them gets, by name or else by position. These are different entries unless the list is one in which
an entry is shared; there the pattern and the replacement are the same text. -/
theorem replacement_takes_two_entries_unless_shared (field : String)
    (pairs : List (String × Json)) (step : Pipeline.Step)
    (h : render field (.structured "gsub" (.keyed pairs)) = .ok step) :
    ∃ i j pattern replacement,
      step = .gsub field pattern replacement true ∧
      i = entryIndex pairs 0 "pattern" ∧ j = entryIndex pairs 1 "replacement" ∧
      TextAt pairs i pattern ∧ TextAt pairs j replacement ∧
      (¬ SharesEntry pairs → i ≠ j) ∧ (SharesEntry pairs → i = j ∧ pattern = replacement) := by
  have hrender : render field (.structured "gsub" (.keyed pairs)) =
      textArgument "gsub" (.keyed pairs) 0 "pattern" >>= fun pattern ↦
        textArgument "gsub" (.keyed pairs) 1 "replacement" >>= fun replacement ↦
          pure (.gsub field pattern replacement true) := rfl
  rw [hrender, bind_eq_ok_iff] at h
  obtain ⟨pattern, hpattern, h⟩ := h
  obtain ⟨replacement, hreplacement, rfl⟩ := bind_pure_eq_ok_iff.1 h
  rw [textArgument_keyed_eq_ok_iff] at hpattern hreplacement
  refine ⟨_, _, pattern, replacement, rfl, rfl, rfl, hpattern, hreplacement, ?_, ?_⟩
  · intro hnot heq
    exact hnot (entryIndex_eq_iff_sharesEntry.1 heq)
  · intro hshares
    have heq := entryIndex_eq_iff_sharesEntry.2 hshares
    rw [← heq] at hreplacement
    exact ⟨heq, hpattern.eq hreplacement⟩

/-- Both parameters by name, in the other order and behind an entry that is neither. -/
theorem replacement_takes_two_entries_unless_shared_of_named :
    let pairs : List (String × Json) :=
      [("flags", .string "i"), ("replacement", .string ""), ("pattern", .string "^.")]
    render "title" (.structured "gsub" (.keyed pairs)) = .ok (.gsub "title" "^." "" true) ∧
      ∃ i j, i ≠ j ∧ TextAt pairs i "^." ∧ TextAt pairs j "" := by
  intro pairs
  have hrender : render "title" (.structured "gsub" (.keyed pairs))
      = .ok (.gsub "title" "^." "" true) := rfl
  obtain ⟨i, j, pattern, replacement, hstep, -, -, hpattern, hreplacement, hne, -⟩ :=
    replacement_takes_two_entries_unless_shared "title" pairs _ hrender
  cases hstep
  have hnot : ¬ SharesEntry pairs := by
    rw [← entryIndex_eq_iff_sharesEntry]
    decide
  exact ⟨hrender, i, j, hne hnot, hpattern, hreplacement⟩

/-- A replacement that is named alone is taken for the pattern as well, though there is no second
entry. -/
theorem lone_replacement_is_its_own_pattern :
    ¬ ∀ (field : String) (pairs : List (String × Json)) (pattern replacement : String),
      render field (.structured "gsub" (.keyed pairs))
          = .ok (.gsub field pattern replacement true) →
        ∃ i j, i ≠ j ∧ TextAt pairs i pattern ∧ TextAt pairs j replacement := by
  intro h
  obtain ⟨i, j, hne, ⟨p, hp, -⟩, ⟨q, hq, -⟩⟩ :=
    h "title" [("replacement", .string "-")] "-" "-" rfl
  have hi := (List.getElem?_eq_some_iff.1 hp).1
  have hj := (List.getElem?_eq_some_iff.1 hq).1
  rw [List.length_singleton] at hi hj
  omega

end FeedHarvest.Dictionary
