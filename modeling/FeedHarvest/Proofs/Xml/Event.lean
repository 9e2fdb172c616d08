import FeedHarvest.Xml.Event
import Mathlib.Data.List.Induction
import Mathlib.Data.List.TakeWhile

/-!
# Written elements

Elements that are written without attributes are read as their tags, and a text with its references
written is one event that holds the text again. Reading goes by rounds, one for each tag; what is
said of a piece of text is said of it in front of any rest and inside any open elements, with some
rounds to spare, so that pieces can be put behind and inside one another.
-/

namespace FeedHarvest.Xml

/-! ## What is written -/

/-- A character of a text: what begins markup or a reference is written as a reference. -/
def escape (c : Char) : List Char :=
  if c = '&' then "&amp;".toList
  else if c = '<' then "&lt;".toList
  else if c = '>' then "&gt;".toList
  else [c]

/-- A text with references for the characters that markup uses. -/
def escaped (cs : List Char) : List Char := cs.flatMap escape

def tagged (name content : List Char) : List Char :=
  '<' :: (name ++ '>' :: (content ++ '<' :: '/' :: (name ++ ['>'])))

/-- A tag that stands for an element without content. -/
def emptyTag (name : List Char) : List Char := '<' :: (name ++ ['/', '>'])

/-- An element. Without content it may be written as a single tag. -/
def element (short : Bool) (name content : List Char) : List Char :=
  if short && content.isEmpty then emptyTag name else tagged name content

/-- The declaration in front of a document. -/
def declaration : List Char := "<?xml version=\"1.0\"?>".toList

/-- Whether a character may begin an ASCII name. -/
def beginsName (c : Char) : Bool := c.isAlpha || c == '_' || c == ':'

/-- Whether a character may stand in an ASCII name. -/
def inName (c : Char) : Bool := c.isAlphanum || c == '_' || c == ':' || c == '-' || c == '.'

def isName : List Char → Bool
  | [] => false
  | c :: cs => beginsName c && cs.all inName

/-- Whether a text has no blank at either end. -/
def IsTrimmed (cs : List Char) : Prop :=
  (∀ c ∈ cs.head?, isSpace c = false) ∧ ∀ c ∈ cs.getLast?, isSpace c = false

section Names

variable {c : Char} {name : List Char}

private theorem inName_of_beginsName (h : beginsName c = true) : inName c = true := by
  simp only [beginsName, Bool.or_eq_true] at h
  rcases h with (h | h) | h <;> simp [inName, Char.isAlphanum, h]

theorem inName_of_mem (hname : isName name = true) (hc : c ∈ name) : inName c = true := by
  cases name with
  | nil => cases hc
  | cons d ds =>
    rw [isName, Bool.and_eq_true, List.all_eq_true] at hname
    rcases List.mem_cons.1 hc with rfl | hc
    · exact inName_of_beginsName hname.1
    · exact hname.2 c hc

theorem isSpace_of_inName (h : inName c = true) : isSpace c = false := by
  refine Bool.eq_false_iff.2 fun hspace ↦ ?_
  simp only [isSpace, Bool.or_eq_true, beq_iff_eq] at hspace
  rcases hspace with ((rfl | rfl) | rfl) | rfl <;> exact absurd h (by decide)

theorem ne_of_inName {d : Char} (h : inName c = true) (hd : inName d = false) : c ≠ d := by
  rintro rfl
  rw [h] at hd
  cases hd

end Names

/-! ## Blanks -/

private theorem dropWhile_isSpace {cs : List Char} (h : IsTrimmed cs) (hne : cs ≠ [])
    (rest : List Char) :
    (cs ++ rest).dropWhile isSpace = cs ++ rest := by
  cases cs with
  | nil => exact absurd rfl hne
  | cons c cs =>
    rw [List.cons_append, List.dropWhile_cons, h.1 c rfl, if_neg Bool.false_ne_true]

theorem reverse_dropWhile_reverse {cs : List Char} (h : IsTrimmed cs) :
    (cs.reverse.dropWhile isSpace).reverse = cs := by
  rcases hcs : cs.reverse with - | ⟨c, rest⟩
  · rw [List.dropWhile_nil, ← hcs, List.reverse_reverse]
  · have hc : isSpace c = false := h.2 c (by rw [List.getLast?_eq_head?_reverse, hcs]; rfl)
    rw [List.dropWhile_cons, hc, if_neg Bool.false_ne_true, ← hcs, List.reverse_reverse]

private theorem isTrimmed_of_isName {name : List Char} (h : isName name = true) :
    IsTrimmed name := by
  have hmem : ∀ c ∈ name, isSpace c = false := fun c hc ↦ isSpace_of_inName (inName_of_mem h hc)
  exact ⟨fun c hc ↦ hmem c (List.mem_of_head? hc), fun c hc ↦ hmem c (List.mem_of_getLast? hc)⟩

/-! ## References -/

theorem escape_eq_or (c : Char) :
    escape c = [c] ∧ c ≠ '<' ∧ c ≠ '&' ∨
      ∃ name, escape c = '&' :: (name ++ [';']) ∧ reference? name = some c ∧
        ∀ d ∈ name, d ≠ ';' ∧ d ≠ '&' ∧ d ≠ '<' := by
  by_cases hamp : c = '&'
  · subst hamp
    exact .inr ⟨['a', 'm', 'p'], rfl, rfl, by simp⟩
  by_cases hlt : c = '<'
  · subst hlt
    exact .inr ⟨['l', 't'], rfl, rfl, by simp⟩
  by_cases hgt : c = '>'
  · subst hgt
    exact .inr ⟨['g', 't'], rfl, rfl, by simp⟩
  · exact .inl ⟨by rw [escape, if_neg hamp, if_neg hlt, if_neg hgt], hlt, hamp⟩

private theorem resolve?_some_append {name : List Char} (h : ∀ c ∈ name, c ≠ ';' ∧ c ≠ '&')
    (read rest : List Char) :
    resolve? (some read) (name ++ rest) = resolve? (some (name.reverse ++ read)) rest := by
  induction name generalizing read with
  | nil => rfl
  | cons c name ih =>
    obtain ⟨hend, hamp⟩ := h c List.mem_cons_self
    rw [List.cons_append, resolve?]
    rw [beq_false_of_ne hend, if_neg Bool.false_ne_true, beq_false_of_ne hamp,
      if_neg Bool.false_ne_true, ih fun d hd ↦ h d (List.mem_cons_of_mem c hd), List.reverse_cons,
      List.append_assoc, List.singleton_append]

theorem resolve?_reference {name : List Char} {x : Char} (hx : reference? name = some x)
    (h : ∀ c ∈ name, c ≠ ';' ∧ c ≠ '&') (rest : List Char) :
    resolve? none ('&' :: (name ++ ';' :: rest)) = (resolve? none rest).map (x :: ·) := by
  have hname : resolve? none ('&' :: (name ++ ';' :: rest))
      = resolve? (some name.reverse) (';' :: rest) := by
    rw [resolve?, if_pos (beq_self_eq_true _), resolve?_some_append h, List.append_nil]
  rw [hname, resolve?, if_pos (beq_self_eq_true _), List.reverse_reverse, hx]
  cases resolve? none rest <;> rfl

private theorem resolve?_escape (c : Char) (rest : List Char) :
    resolve? none (escape c ++ rest) = (resolve? none rest).map (c :: ·) := by
  rcases escape_eq_or c with ⟨heq, -, hamp⟩ | ⟨name, heq, hc, hname⟩
  · rw [heq, List.singleton_append, resolve?]
    rw [beq_false_of_ne hamp, if_neg Bool.false_ne_true]
  · rw [heq, List.cons_append, List.append_assoc, List.singleton_append]
    exact resolve?_reference hc (fun d hd ↦ ⟨(hname d hd).1, (hname d hd).2.1⟩) rest

theorem unescape?_escaped (cs : List Char) : unescape? (escaped cs) = some cs := by
  rw [unescape?]
  induction cs with
  | nil => rfl
  | cons c cs ih =>
    rw [escaped, List.flatMap_cons, ← escaped, resolve?_escape, ih, Option.map_some]

/-! ### What an escaped text looks like -/

theorem not_mem_escaped (cs : List Char) : '<' ∉ escaped cs := by
  rw [escaped, List.mem_flatMap]
  rintro ⟨c, -, hc⟩
  rcases escape_eq_or c with ⟨heq, hne, -⟩ | ⟨name, heq, -, hname⟩
  · rw [heq, List.mem_singleton] at hc
    exact hne hc.symm
  · have hmem : '<' ∈ name := by simpa [heq] using hc
    exact (hname _ hmem).2.2 rfl

theorem escaped_eq_nil_iff {cs : List Char} : escaped cs = [] ↔ cs = [] := by
  have hne : ∀ c, escape c ≠ [] := fun c ↦ by
    rcases escape_eq_or c with ⟨heq, -⟩ | ⟨name, heq, -⟩ <;> rw [heq] <;> exact List.cons_ne_nil _ _
  cases cs with
  | nil => simp [escaped]
  | cons c cs => simp [escaped, hne]

theorem IsTrimmed.escaped {cs : List Char} (h : IsTrimmed cs) : IsTrimmed (escaped cs) := by
  constructor
  · intro c hc
    cases cs with
    | nil => cases hc
    | cons d cs =>
      rw [Xml.escaped, List.flatMap_cons] at hc
      -- a reference begins with its mark and ends with its own, neither of them a blank
      rcases escape_eq_or d with ⟨heq, -⟩ | ⟨name, heq, -⟩
      · rw [heq] at hc
        exact h.1 c hc
      · rw [heq] at hc
        cases hc
        decide
  · intro c hc
    induction cs using List.reverseRecOn with
    | nil => cases hc
    | append_singleton cs d _ =>
      rw [Xml.escaped, List.flatMap_append, List.flatMap_singleton] at hc
      rcases escape_eq_or d with ⟨heq, -⟩ | ⟨name, heq, -⟩
      · rw [heq, List.getLast?_concat] at hc
        exact h.2 c (by rwa [List.getLast?_concat])
      · rw [heq, ← List.cons_append, ← List.append_assoc, List.getLast?_concat] at hc
        cases hc
        decide

/-! ## Tags -/

section Tags

variable {name rest : List Char} {opened : List (List Char)}

theorem insideTag_append {inside : List Char}
    (h : ∀ c ∈ inside, c ≠ '>' ∧ c ≠ '"' ∧ c ≠ '\x27') (rest : List Char) :
    insideTag none (inside ++ '>' :: rest) = some (inside, rest) := by
  induction inside with
  | nil => rfl
  | cons c inside ih =>
    obtain ⟨hend, hdouble, hsingle⟩ := h c List.mem_cons_self
    rw [List.cons_append, insideTag]
    dsimp only
    rw [beq_false_of_ne hend, if_neg Bool.false_ne_true, beq_false_of_ne hdouble,
      beq_false_of_ne hsingle, Bool.or_false, if_neg Bool.false_ne_true,
      ih fun d hd ↦ h d (List.mem_cons_of_mem c hd), Option.map_some]

theorem insideTag_of_isName (h : isName name = true) (rest : List Char) :
    insideTag none (name ++ '>' :: rest) = some (name, rest) :=
  insideTag_append (fun c hc ↦
    have hin := inName_of_mem h hc
    ⟨ne_of_inName hin (by decide), ne_of_inName hin (by decide), ne_of_inName hin (by decide)⟩) rest

theorem splitName_of_isName (h : isName name = true) : splitName name = (name, []) := by
  have hspace : ∀ c ∈ name, (!isSpace c) = true := fun c hc ↦ by
    rw [isSpace_of_inName (inName_of_mem h hc)]
    rfl
  rw [splitName, List.takeWhile_eq_self_iff.2 hspace, List.dropWhile_eq_nil_iff.2 hspace]

theorem markup?_of_isName (h : isName name = true) (rest : List Char) :
    markup? opened (name ++ rest) = startTag? opened (name ++ rest) := by
  cases name with
  | nil => cases h
  | cons c cs =>
    rw [isName, Bool.and_eq_true] at h
    rw [List.cons_append, markup?]
    -- what else begins with a mark begins with one that no name begins with
    case x_1 | x_2 | x_3 | x_4 =>
      intro _ heq
      rw [(List.cons.inj heq).1] at h
      exact absurd h.1 (by decide)
    case x_5 => rintro ⟨⟩

private theorem markup?_start (h : isName name = true) (rest : List Char) :
    markup? opened (name ++ '>' :: rest) = some (.start name [], name :: opened, rest) := by
  have hlast : (name.getLast? == some '/') = false := by
    refine beq_false_of_ne fun hlast ↦ ?_
    exact absurd (inName_of_mem h (List.mem_of_getLast? hlast)) (by decide)
  rw [markup?_of_isName h, startTag?, insideTag_of_isName h]
  simp only [bind, Option.bind_some, hlast, if_neg Bool.false_ne_true, splitName_of_isName h, pure]

private theorem markup?_empty (h : isName name = true) (rest : List Char) :
    markup? opened (name ++ '/' :: '>' :: rest) = some (.empty name [], opened, rest) := by
  have hinside : insideTag none (name ++ '/' :: '>' :: rest) = some (name ++ ['/'], rest) := by
    rw [← List.singleton_append, ← List.append_assoc]
    refine insideTag_append (fun c hc ↦ ?_) rest
    rcases List.mem_append.1 hc with hc | hc
    · have hin := inName_of_mem h hc
      exact ⟨ne_of_inName hin (by decide), ne_of_inName hin (by decide),
        ne_of_inName hin (by decide)⟩
    · rw [List.mem_singleton.1 hc]
      decide
  rw [markup?_of_isName h, startTag?, hinside]
  simp only [bind, Option.bind_some, List.getLast?_concat, beq_self_eq_true, if_true,
    List.dropLast_concat, splitName_of_isName h, pure]

private theorem markup?_finish (h : isName name = true) (rest : List Char) :
    markup? (name :: opened) ('/' :: (name ++ '>' :: rest)) = some (.finish, opened, rest) := by
  have hne : name.isEmpty = false := by
    cases name with
    | nil => cases h
    | cons c cs => rfl
  have htrim : (name.reverse.dropWhile isSpace).reverse = name :=
    reverse_dropWhile_reverse (isTrimmed_of_isName h)
  rw [markup?, endTag?, insideTag_of_isName h]
  simp only [bind, Option.bind_some, htrim, hne, if_neg Bool.false_ne_true, if_true]

end Tags

/-! ## Reading on -/

/-- Whether a text is read as events, whatever stands around and after it. -/
def Reads (cs : List Char) (es : List Event) : Prop :=
  ∃ rounds ≤ cs.length, ∀ opened fuel rest,
    read (rounds + fuel) opened (cs ++ rest) = es ++ read fuel opened rest

section Reading

variable {name cs ds rest : List Char} {es fs : List Event} {opened opened' : List (List Char)}
  {e : Event}

theorem read_markup (h : markup? opened cs = some (e, opened', rest)) (fuel : Nat) :
    read (fuel + 1) opened ('<' :: cs) = e :: read fuel opened' rest := by
  have hspace : ('<' :: cs).dropWhile isSpace = '<' :: cs := rfl
  have htext : ('<' :: cs).takeWhile (· != '<') = [] := rfl
  have hrest : ('<' :: cs).dropWhile (· != '<') = '<' :: cs := rfl
  rw [read]
  simp only [hspace, htext, hrest, h, List.isEmpty_nil, if_true]

/-- A text is one event, and takes no round of its own. -/
theorem read_text (h : IsTrimmed cs) (hne : cs ≠ []) (hmem : '<' ∉ cs) (fuel : Nat)
    (rest : List Char) :
    read (fuel + 1) opened (cs ++ '<' :: rest)
      = .text cs :: read (fuel + 1) opened ('<' :: rest) := by
  have hp : ∀ c ∈ cs, (c != '<') = true := fun c hc ↦ by
    rw [bne_iff_ne]
    rintro rfl
    exact hmem hc
  have hspace := dropWhile_isSpace h hne ('<' :: rest)
  have htext : (cs ++ '<' :: rest).takeWhile (· != '<') = cs := by
    rw [List.takeWhile_append_of_pos hp]
    simp
  have hrest : (cs ++ '<' :: rest).dropWhile (· != '<') = '<' :: rest := by
    rw [List.dropWhile_append_of_pos hp]
    rfl
  have hempty : cs.isEmpty = false := by
    cases cs with
    | nil => exact absurd rfl hne
    | cons c cs => rfl
  -- behind the text the round goes on at the tag, where there is no text before it
  have hspace' : ('<' :: rest).dropWhile isSpace = '<' :: rest := rfl
  have htext' : ('<' :: rest).takeWhile (· != '<') = [] := rfl
  have hrest' : ('<' :: rest).dropWhile (· != '<') = '<' :: rest := rfl
  rw [read, read]
  simp only [hspace, htext, hrest, hempty, reverse_dropWhile_reverse h, hspace', htext', hrest',
    List.isEmpty_nil, if_true, if_neg Bool.false_ne_true]

theorem reads_nil : Reads [] [] := ⟨0, Nat.zero_le _, fun _ _ _ ↦ by rw [Nat.zero_add]; rfl⟩

theorem Reads.append (hcs : Reads cs es) (hds : Reads ds fs) : Reads (cs ++ ds) (es ++ fs) := by
  obtain ⟨m, hm, hcs⟩ := hcs
  obtain ⟨n, hn, hds⟩ := hds
  refine ⟨m + n, ?_, fun opened fuel rest ↦ ?_⟩
  · rw [List.length_append]
    exact Nat.add_le_add hm hn
  · rw [Nat.add_assoc, List.append_assoc, hcs, hds, List.append_assoc]

theorem Reads.eq_nil (h : Reads [] es) : es = [] := by
  obtain ⟨rounds, hrounds, h⟩ := h
  have hread := h [] 0 []
  rw [Nat.le_zero.1 hrounds] at hread
  exact (List.append_eq_nil_iff.1 hread.symm).1

theorem reads_declaration : Reads declaration [.other] := by
  refine ⟨1, by decide, fun opened fuel rest ↦ ?_⟩
  rw [Nat.add_comm]
  exact read_markup rfl fuel

theorem reads_emptyTag (h : isName name = true) : Reads (emptyTag name) [.empty name []] := by
  refine ⟨1, by simp [emptyTag], fun opened fuel rest ↦ ?_⟩
  rw [Nat.add_comm, emptyTag, List.cons_append, List.append_assoc]
  exact read_markup (markup?_empty h rest) fuel

/-- What stands between tags may need the end tag to be read. -/
theorem reads_tagged (h : isName name = true) {rounds : Nat} (hrounds : rounds ≤ cs.length)
    (hcs : ∀ opened fuel rest, read (rounds + (fuel + 1)) opened (cs ++ '<' :: rest)
      = es ++ read (fuel + 1) opened ('<' :: rest)) :
    Reads (tagged name cs) (.start name [] :: (es ++ [.finish])) := by
  refine ⟨rounds + 2, ?_, fun opened fuel rest ↦ ?_⟩
  · simp only [tagged, List.length_cons, List.length_append]
    omega
  · have hstart : read (rounds + 2 + fuel) opened (tagged name cs ++ rest)
        = .start name [] :: read (rounds + (fuel + 1)) (name :: opened)
          (cs ++ '<' :: '/' :: (name ++ '>' :: rest)) := by
      rw [show rounds + 2 + fuel = rounds + (fuel + 1) + 1 by omega, tagged]
      simp only [List.cons_append, List.append_assoc, List.nil_append]
      exact read_markup (markup?_start h _) _
    rw [hstart, hcs, read_markup (markup?_finish h rest)]
    simp

theorem Reads.tagged (h : isName name = true) (hcs : Reads cs es) :
    Reads (tagged name cs) (.start name [] :: (es ++ [.finish])) := by
  obtain ⟨rounds, hrounds, hcs⟩ := hcs
  exact reads_tagged h hrounds fun opened fuel rest ↦ hcs opened (fuel + 1) ('<' :: rest)

theorem reads_tagged_text (h : isName name = true) (hcs : IsTrimmed cs) (hne : cs ≠ [])
    (hmem : '<' ∉ cs) : Reads (tagged name cs) [.start name [], .text cs, .finish] := by
  have hread : Reads (tagged name cs) (.start name [] :: ([.text cs] ++ [.finish])) := by
    refine reads_tagged h (Nat.zero_le _) fun opened fuel rest ↦ ?_
    rw [Nat.zero_add, read_text hcs hne hmem]
    rfl
  exact hread

theorem Reads.events_eq (h : Reads cs es) : events cs = es := by
  obtain ⟨rounds, hrounds, h⟩ := h
  have hread := h [] (cs.length + 1 - rounds) []
  obtain ⟨fuel, hfuel⟩ : ∃ fuel, cs.length + 1 - rounds = fuel + 1 :=
    ⟨cs.length - rounds, by omega⟩
  rw [Nat.add_sub_cancel' (by omega), List.append_nil, hfuel] at hread
  rw [events, hread, read]
  exact List.append_nil es

end Reading

end FeedHarvest.Xml
