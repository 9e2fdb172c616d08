import FeedHarvest.Xml.Event
import Mathlib.Data.List.Basic

/-!
# Trees of elements

A sequence of events in which every end tag has its start tag stands for a sequence of trees, and
only such a sequence does: that is what `openAfter?_eq_some_zero_iff` says. How many elements are
open is counted along the events, and the count is all that a reader of the flat sequence knows of
the tree around it.

Trees need not have one root: nothing that reads events asks for that.
-/

namespace FeedHarvest.Xml

/-- A piece of an XML text with all that is inside it. -/
inductive Node where
  | element (name attributes : List Char) (children : List Node)
  /-- An element without content that is written as a single tag. -/
  | empty (name attributes : List Char)
  | text (raw : List Char)
  | literal (text : List Char)
  | other

mutual

/-- The events of a tree. -/
def Node.events : Node → List Event
  | .element name attributes children =>
    .start name attributes :: (eventsOf children ++ [.finish])
  | .empty name attributes => [.empty name attributes]
  | .text raw => [.text raw]
  | .literal cs => [.literal cs]
  | .other => [.other]

/-- The events of trees, one after the other. -/
def eventsOf : List Node → List Event
  | [] => []
  | n :: ns => n.events ++ eventsOf ns

end

theorem mem_eventsOf {e : Event} {ns : List Node} : e ∈ eventsOf ns ↔ ∃ n ∈ ns, e ∈ n.events := by
  induction ns with
  | nil => simp [eventsOf]
  | cons n ns ih => simp [eventsOf, ih]

/-- Whether what an event leaves unread can be read: its attributes, or the references in it. -/
def Event.isReadable : Event → Bool
  | .start _ attributes | .empty _ attributes => (attributes? attributes).isSome
  | .text raw => (unescape? raw).isSome
  | .literal _ | .finish | .other => true
  | .fault => false

/-! ## Open elements -/

/-- How many elements are open after an event. An end tag without an open element and a fault have
no place in a tree. -/
def Event.openAfter? : Nat → Event → Option Nat
  | d, .start .. => some (d + 1)
  | d + 1, .finish => some d
  | 0, .finish | _, .fault => none
  | d, .empty .. | d, .text _ | d, .literal _ | d, .other => some d

/-- How many elements are open after events. -/
def openAfter? (d : Nat) (es : List Event) : Option Nat := es.foldlM Event.openAfter? d

section Counting

variable {d d' : Nat} {e : Event} {es fs : List Event}

theorem openAfter?_cons (he : Event.openAfter? d e = some d') :
    openAfter? d (e :: es) = openAfter? d' es := by
  rw [openAfter?, List.foldlM_cons, he]
  rfl

theorem openAfter?_append (hes : openAfter? d es = some d') :
    openAfter? d (es ++ fs) = openAfter? d' fs := by
  rw [openAfter?, List.foldlM_append, ← openAfter?, hes]
  rfl

mutual

theorem Node.openAfter?_events (d : Nat) : ∀ n : Node, openAfter? d n.events = some d
  | .element name attributes children => by
    have hstart : Event.openAfter? d (.start name attributes) = some (d + 1) := rfl
    have hfinish : Event.openAfter? (d + 1) .finish = some d := rfl
    rw [Node.events, openAfter?_cons hstart,
      openAfter?_append (openAfter?_eventsOf (d + 1) children), openAfter?_cons hfinish]
    rfl
  | .empty _ _ | .text _ | .literal _ | .other => rfl

theorem openAfter?_eventsOf (d : Nat) : ∀ ns, openAfter? d (eventsOf ns) = some d
  | [] => rfl
  | n :: ns => by
    rw [eventsOf, openAfter?_append (n.openAfter?_events d), openAfter?_eventsOf d ns]

end

/-- Events that close all open elements are trees with an end tag behind each but the last, one for
every open element. -/
theorem exists_trees_of_openAfter? (h : openAfter? d es = some 0) :
    ∃ (ns : List Node) (nss : List (List Node)), nss.length = d ∧
      es = eventsOf ns ++ nss.flatMap fun ms ↦ .finish :: eventsOf ms := by
  induction es generalizing d with
  | nil =>
    cases h
    exact ⟨[], [], rfl, rfl⟩
  | cons e es ih =>
    obtain ⟨d', he, hes⟩ : ∃ d', Event.openAfter? d e = some d' ∧ openAfter? d' es = some 0 :=
      Option.bind_eq_some_iff.1 h
    obtain ⟨ns, nss, hlength, rfl⟩ := ih hes
    cases e with
    | start name attributes =>
      cases he
      -- the trees up to the next end tag are inside the element, those behind it follow it
      obtain ⟨ms, nss, rfl⟩ := List.exists_cons_of_length_eq_add_one hlength
      refine ⟨.element name attributes ns :: ms, nss, Nat.succ.inj hlength, ?_⟩
      simp [eventsOf, Node.events]
    | finish =>
      cases d with
      | zero => cases he
      | succ d =>
        cases he
        exact ⟨[], ns :: nss, congrArg (· + 1) hlength, rfl⟩
    | empty name attributes =>
      cases he
      exact ⟨.empty name attributes :: ns, nss, hlength, rfl⟩
    | text raw =>
      cases he
      exact ⟨.text raw :: ns, nss, hlength, rfl⟩
    | literal cs =>
      cases he
      exact ⟨.literal cs :: ns, nss, hlength, rfl⟩
    | other =>
      cases he
      exact ⟨.other :: ns, nss, hlength, rfl⟩
    | fault => cases he

theorem openAfter?_eq_some_zero_iff : openAfter? 0 es = some 0 ↔ ∃ ns, eventsOf ns = es := by
  constructor
  · intro h
    obtain ⟨ns, nss, hlength, rfl⟩ := exists_trees_of_openAfter? h
    rw [List.length_eq_zero_iff.1 hlength]
    exact ⟨ns, (List.append_nil _).symm⟩
  · rintro ⟨ns, rfl⟩
    exact openAfter?_eventsOf 0 ns

end Counting

end FeedHarvest.Xml
