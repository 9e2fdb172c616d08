import FeedHarvest.Command.Error
import FeedHarvest.Proofs.Text.Digits

/-!
# Which settings can be used

The three counts are all that settings can fail for. What a text must be to count is said here by
how it is written, `WritesCount`: blanks, a plus sign that may be missing, digits, blanks, and a
positive number that fits 64 bits. A count that is not set is the standard one, which is positive
too; so the limits of a load that come from settings are in force as they are.
-/

namespace FeedHarvest

/-- Whether a text is a positive count as it may be written: digits, with one plus sign before them
at most and blanks around, of a number that fits 64 bits. -/
def WritesCount (s : String) (n : Nat) : Prop :=
  0 < n ∧ n < Nat.pow 2 64 ∧ ∃ before sign digits after,
    s.toList = before ++ (sign ++ digits) ++ after ∧
      (∀ c ∈ before, Text.isBlank c = true) ∧ (∀ c ∈ after, Text.isBlank c = true) ∧
      (sign = [] ∨ sign = ['+']) ∧ digits ≠ [] ∧ (∀ c ∈ digits, c.isDigit = true) ∧
      Nat.ofDigitChars 10 digits 0 = n

namespace Settings

open Ingest (Load LoadLimits Schedule BulkCall chunks)

variable {lookup : Lookup} {v : CountVariable} {s : String} {n : Nat}

/-- Whether the environment gives a count: by its text, or because its variable is not set and the
count is the standard one. -/
def Gives (lookup : Lookup) (v : CountVariable) (n : Nat) : Prop :=
  lookup v.name = none ∧ n = v.standard ∨ ∃ s, lookup v.name = some s ∧ WritesCount s n

/-- Whether a count cannot be used: its variable is set, to a text that is no count. -/
def Refuses (lookup : Lookup) (v : CountVariable) (s : String) : Prop :=
  lookup v.name = some s ∧ ¬ ∃ n, WritesCount s n

/-- Whether an error is about the first of some variables that cannot be used, with its text as it
was given. -/
def FirstRefused (lookup : Lookup) (vs : List CountVariable) (e : CountError) : Prop :=
  ∃ before after, vs = before ++ e.count :: after ∧ (∀ v ∈ before, ∃ n, Gives lookup v n) ∧
    Refuses lookup e.count e.text

/-! ## One count -/

theorem positive?_eq_some_iff : positive? s = some n ↔ WritesCount s n := by
  rw [positive?, Option.filter_eq_some_iff, Text.count?_trim_eq_some_iff, decide_eq_true_eq]
  simp only [Text.natOfDecimal?_eq_some_iff_ofDigitChars, Text.le_maxCount_iff]
  constructor
  · rintro ⟨⟨before, sign, digits, after, hs, hbefore, hafter, hsign, hdigits, hn⟩, hpos⟩
    exact ⟨hpos, hn, before, sign, digits, after, hs, hbefore, hafter, hsign, hdigits⟩
  · rintro ⟨hpos, hn, before, sign, digits, after, hs, hbefore, hafter, hsign, hdigits⟩
    exact ⟨⟨before, sign, digits, after, hs, hbefore, hafter, hsign, hdigits, hn⟩, hpos⟩

private theorem positive?_eq_none_iff : positive? s = none ↔ ¬ ∃ n, WritesCount s n := by
  simp only [← positive?_eq_some_iff, ← Option.isSome_iff_exists, Option.not_isSome_iff_eq_none]

/-- One more than the largest count, a sign twice, a digit beyond ASCII, a blank among digits. -/
example : ∀ s ∈ ["18446744073709551616", "++1", "\u0663", "1 0"], positive? s = none := by
  decide +kernel

theorem count_eq_ok_iff : count lookup v = .ok n ↔ Gives lookup v n := by
  rw [count, Gives]
  cases hv : lookup v.name with
  | none => simp [eq_comm]
  | some s =>
    simp only [reduceCtorEq, false_and, false_or, Option.some.injEq, exists_eq_left',
      ← positive?_eq_some_iff]
    cases positive? s <;> simp

private theorem count_eq_error_iff {e : CountError} :
    count lookup v = .error e ↔ e.count = v ∧ Refuses lookup v e.text := by
  rw [count, Refuses]
  cases hv : lookup v.name with
  | none => simp
  | some s =>
    dsimp only
    cases hs : positive? s with
    | some n =>
      have hn : WritesCount s n := positive?_eq_some_iff.1 hs
      refine iff_of_false (by rintro ⟨⟩) ?_
      rintro ⟨-, ⟨⟩, hnot⟩
      exact hnot ⟨n, hn⟩
    | none =>
      have hnot := positive?_eq_none_iff.1 hs
      constructor
      · rintro ⟨⟩
        exact ⟨rfl, rfl, hnot⟩
      · obtain ⟨w, t⟩ := e
        rintro ⟨rfl, ⟨⟩, -⟩
        rfl

private theorem standard_pos (v : CountVariable) : 0 < v.standard := by
  cases v <;> decide

theorem Gives.pos (h : Gives lookup v n) : 0 < n := by
  rcases h with ⟨-, rfl⟩ | ⟨s, -, hs⟩
  · exact standard_pos v
  · exact hs.1

theorem Gives.unique {m : Nat} (hm : Gives lookup v m) (hn : Gives lookup v n) : m = n := by
  rw [← count_eq_ok_iff] at hm hn
  exact Except.ok.inj (hm.symm.trans hn)

/-! ## All counts -/

/-- The settings with these counts, and the texts as the environment says. -/
def ofCounts (lookup : Lookup) (batchSize openCalls timeout : Nat) : Settings where
  engineAddress := text lookup "OPENSEARCH_URL" "http://localhost:9200"
  naming := ⟨text lookup "FEED_INDEXER_ENV" "development",
    text lookup "FEED_INDEXER_NAMESPACE" "feeds"⟩
  limits := ⟨batchSize, openCalls⟩
  timeout := timeout

theorem ofLookup_eq_ok_iff {settings : Settings} :
    ofLookup lookup = .ok settings ↔ ∃ batchSize openCalls timeout,
      Gives lookup .batchSize batchSize ∧ Gives lookup .openCalls openCalls ∧
        Gives lookup .timeout timeout ∧ settings = ofCounts lookup batchSize openCalls timeout := by
  simp only [← count_eq_ok_iff]
  rw [ofLookup]
  cases count lookup .batchSize with
  | error e => simp [bind, Except.bind]
  | ok batchSize =>
    cases count lookup .openCalls with
    | error e => simp [bind, Except.bind]
    | ok openCalls =>
      cases count lookup .timeout with
      | error e => simp [bind, Except.bind]
      | ok timeout => simp [bind, Except.bind, pure, Except.pure, ofCounts, eq_comm]

private theorem firstRefused_cons_iff {vs : List CountVariable} {e : CountError} :
    FirstRefused lookup (v :: vs) e ↔
      e.count = v ∧ Refuses lookup v e.text ∨
        (∃ n, Gives lookup v n) ∧ FirstRefused lookup vs e := by
  constructor
  · rintro ⟨before, after, hvs, hbefore, he⟩
    rcases List.cons_eq_append_iff.1 hvs with ⟨rfl, hvs⟩ | ⟨before, rfl, rfl⟩
    · obtain ⟨rfl, -⟩ := List.cons.inj hvs
      exact .inl ⟨rfl, he⟩
    · obtain ⟨hv, hbefore⟩ := List.forall_mem_cons.1 hbefore
      exact .inr ⟨hv, before, after, rfl, hbefore, he⟩
  · rintro (⟨rfl, he⟩ | ⟨hv, before, after, rfl, hbefore, he⟩)
    · exact ⟨[], vs, rfl, fun w hw ↦ absurd hw List.not_mem_nil, he⟩
    · exact ⟨v :: before, after, rfl, List.forall_mem_cons.2 ⟨hv, hbefore⟩, he⟩

private theorem not_firstRefused_nil {e : CountError} : ¬ FirstRefused lookup [] e := by
  rintro ⟨before, after, h, -⟩
  simp at h

/-- The counts are read in one order, and the first that cannot be used ends the reading. -/
theorem ofLookup_eq_error_iff {e : CountError} :
    ofLookup lookup = .error e ↔ FirstRefused lookup [.batchSize, .openCalls, .timeout] e := by
  simp only [firstRefused_cons_iff, not_firstRefused_nil, and_false, or_false,
    ← count_eq_error_iff, ← count_eq_ok_iff]
  rw [ofLookup]
  cases count lookup .batchSize with
  | error e => simp [bind, Except.bind]
  | ok batchSize =>
    cases count lookup .openCalls with
    | error e => simp [bind, Except.bind]
    | ok openCalls =>
      cases count lookup .timeout with
      | error e => simp [bind, Except.bind]
      | ok timeout => simp [bind, Except.bind, pure, Except.pure]

/-- Limits from settings are positive, so none is raised to one. -/
theorem inForce_of_ofLookup {settings : Settings} (h : ofLookup lookup = .ok settings) :
    settings.limits.inForce = settings.limits := by
  obtain ⟨batchSize, openCalls, timeout, hbatch, hopen, -, rfl⟩ := ofLookup_eq_ok_iff.1 h
  have hbatchSize : max batchSize 1 = batchSize := Nat.max_eq_left hbatch.pos
  have hopenCalls : max openCalls 1 = openCalls := Nat.max_eq_left hopen.pos
  rw [LoadLimits.inForce, ofCounts]
  dsimp only
  rw [hbatchSize, hopenCalls]

/-- **Settings are accepted exactly when each count is positive and fits 64 bits.** An environment
has settings if and only if each of the three counts is either not set or written as a positive
count, and they hold these counts. Otherwise the error is about the first variable in order whose
text is no such count, and its message has the variable's name and that text with its blanks. A load
with the limits of settings cuts batches of that size and keeps that many calls open: what raises
limits of zero to one has nothing to do. -/
theorem settings_accept_positive_counts :
    (∀ lookup : Lookup, (∃ s, ofLookup lookup = .ok s) ↔ ∀ v, ∃ n, Gives lookup v n) ∧
    (∀ (lookup : Lookup) (s : Settings), ofLookup lookup = .ok s →
      Gives lookup .batchSize s.limits.batchSize ∧ Gives lookup .openCalls s.limits.openCalls ∧
        Gives lookup .timeout s.timeout ∧ s.ingest.limits.inForce = s.limits ∧
        ∀ schedule answer documents,
          s.ingest.limits.run schedule answer documents =
            (Load.ofBatches (chunks s.limits.batchSize documents)).run s.limits.openCalls schedule
              answer (2 * (chunks s.limits.batchSize documents).length)) ∧
    ∀ (lookup : Lookup) (e : CountError),
      (ofLookup lookup = .error e ↔
        FirstRefused lookup [.batchSize, .openCalls, .timeout] e) ∧
      (CommandError.count e).message = "Configuration error: " ++
        (e.count.name ++ " must be a positive integer, got '" ++ e.text ++ "'") := by
  refine ⟨fun lookup ↦ ⟨?_, fun h ↦ ?_⟩, fun lookup s hs ↦ ?_, fun lookup e ↦ ⟨?_, rfl⟩⟩
  · rintro ⟨s, hs⟩ v
    obtain ⟨batchSize, openCalls, timeout, hbatch, hopen, htimeout, -⟩ := ofLookup_eq_ok_iff.1 hs
    cases v with
    | batchSize => exact ⟨batchSize, hbatch⟩
    | openCalls => exact ⟨openCalls, hopen⟩
    | timeout => exact ⟨timeout, htimeout⟩
  · obtain ⟨batchSize, hbatch⟩ := h .batchSize
    obtain ⟨openCalls, hopen⟩ := h .openCalls
    obtain ⟨timeout, htimeout⟩ := h .timeout
    exact ⟨_, ofLookup_eq_ok_iff.2 ⟨_, _, _, hbatch, hopen, htimeout, rfl⟩⟩
  · have hlimits : s.ingest.limits.inForce = s.limits := inForce_of_ofLookup hs
    obtain ⟨batchSize, openCalls, timeout, hbatch, hopen, htimeout, rfl⟩ :=
      ofLookup_eq_ok_iff.1 hs
    refine ⟨hbatch, hopen, htimeout, hlimits, fun schedule answer documents ↦ ?_⟩
    rw [LoadLimits.run, LoadLimits.batches, hlimits]
  · exact ofLookup_eq_error_iff

/-- A count with a plus sign, leading zeros and an ideographic space, the largest count, and one
that is not set. -/
theorem settings_accept_positive_counts_of_padded :
    let lookup : Lookup := fun name ↦
      if name = "INGEST_BATCH_SIZE" then some "\u3000+007\n"
      else if name = "OPENSEARCH_TIMEOUT_SECS" then some "18446744073709551615"
      else none
    ∃ s, ofLookup lookup = .ok s ∧ s.ingest.limits.inForce = ⟨7, 1⟩ ∧
      s.timeout = Nat.pow 2 64 - 1 := by
  intro lookup
  obtain ⟨haccepted, hheld, -⟩ := settings_accept_positive_counts
  have hbatch : Gives lookup .batchSize 7 :=
    .inr ⟨_, rfl, by decide, by decide, ['\u3000'], ['+'], ['0', '0', '7'], ['\n'], by decide,
      List.all_eq_true.1 (by decide), List.all_eq_true.1 (by decide), .inr rfl, by decide,
      List.all_eq_true.1 (by decide), rfl⟩
  have hopen : Gives lookup .openCalls 1 := .inl ⟨rfl, rfl⟩
  have htimeout : Gives lookup .timeout (Nat.pow 2 64 - 1) :=
    .inr ⟨_, rfl, by decide, by decide, [], [], "18446744073709551615".toList, [], by decide,
      List.forall_mem_nil _, List.forall_mem_nil _, .inl rfl, by decide,
      List.all_eq_true.1 (by decide), by decide⟩
  obtain ⟨s, hs⟩ := (haccepted lookup).2 fun v ↦ by
    cases v with
    | batchSize => exact ⟨7, hbatch⟩
    | openCalls => exact ⟨1, hopen⟩
    | timeout => exact ⟨_, htimeout⟩
  obtain ⟨hbatch', hopen', htimeout', hlimits, -⟩ := hheld lookup s hs
  refine ⟨s, hs, ?_, htimeout'.unique htimeout⟩
  rw [hlimits, ← hbatch'.unique hbatch, ← hopen'.unique hopen]

end Settings

end FeedHarvest
