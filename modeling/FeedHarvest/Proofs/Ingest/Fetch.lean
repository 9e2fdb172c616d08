import FeedHarvest.Ingest.Fetch

/-!
# Fetching among other requests

If servers know of nothing but the requests that they were sent themselves, then fetching a feed
does not notice the requests sent to a server that it has nothing to do with: neither is the feed
there, nor is any page that the feed's server refers to.
-/

namespace FeedHarvest

/-- Whether each server answers in the light of the requests to it alone. -/
def Http.Network.IsLocal (network : Http.Network) : Prop :=
  ∀ past past' r, past.filter (·.site = r.site) = past'.filter (·.site = r.site) →
    network past r = network past' r

namespace Ingest

variable {network : Http.Network} {past past' asked : List Http.Request} {site : Http.Site}

/-- Whether two histories tell every server but one the same. -/
def SameBut (site : Http.Site) (past past' : List Http.Request) : Prop :=
  ∀ other, other ≠ site → past.filter (·.site = other) = past'.filter (·.site = other)

theorem SameBut.symm (h : SameBut site past past') : SameBut site past' past :=
  fun other hother ↦ (h other hother).symm

theorem SameBut.append_right (h : SameBut site past past') (asked : List Http.Request) :
    SameBut site (past ++ asked) (past' ++ asked) := fun other hother ↦ by
  rw [List.filter_append, List.filter_append, h other hother]

/-- The requests made for a page begin with the one for the page itself. -/
private theorem prefix_askWeb_succ (network : Http.Network) (n : Nat) (past : List Http.Request)
    (r : Http.Request) : past ++ [r] <+: (askWeb network (n + 1) past r).2 := by
  induction n generalizing past r with
  | zero =>
    rw [askWeb]
    split
    · exact List.prefix_rfl
    · split <;> exact List.prefix_rfl
  | succ n ih =>
    rw [askWeb]
    split
    · exact List.prefix_rfl
    · split
      · exact (List.prefix_append _ _).trans (ih _ _)
      · exact List.prefix_rfl

/-- Asking other servers does not notice the requests to one. -/
theorem askWeb_congr (hnetwork : network.IsLocal) (hpast : SameBut site past past') {n : Nat}
    {r : Http.Request} (hasked : (askWeb network n past r).2 = past ++ asked)
    (hsite : ∀ r ∈ asked, r.site ≠ site) :
    askWeb network n past' r = ((askWeb network n past r).1, past' ++ asked) := by
  induction n generalizing past past' r asked with
  | zero =>
    obtain rfl : asked = [] := List.self_eq_append_right.1 hasked
    rw [askWeb, askWeb, List.append_nil]
  | succ n ih =>
    obtain ⟨rest, hrest⟩ := prefix_askWeb_succ network n past r
    obtain rfl : r :: rest = asked := by
      rw [hasked, List.append_assoc] at hrest
      exact List.append_cancel_left hrest
    have hanswer : network past' r = network past r :=
      (hnetwork _ _ r (hpast r.site (hsite r List.mem_cons_self))).symm
    rw [askWeb] at hasked ⊢
    rw [hanswer, askWeb]
    cases hr : network past r with
    | none =>
      rw [hr] at hasked
      rw [List.append_cancel_left hasked]
    | some response =>
      rw [hr] at hasked
      dsimp only at hasked ⊢
      cases hnext : referred? r response with
      | none =>
        rw [hnext] at hasked
        rw [List.append_cancel_left hasked]
      | some next =>
        rw [hnext] at hasked
        rw [List.append_cons past r rest] at hasked
        rw [List.append_cons past' r rest]
        exact ih (hpast.append_right [r]) hasked fun r hr ↦ hsite r (List.mem_cons_of_mem _ hr)

/-- Whether fetching from an address leads to servers other than one, whatever was asked before. -/
def SparesSite (network : Http.Network) (site : Http.Site) (address : String) : Prop :=
  ∀ past, ∃ asked, requestsAfter network past address = past ++ asked ∧
    ∀ r ∈ asked, r.site ≠ site

variable {address : String} {addresses : List String} {files files' : Files}

theorem requestsAfter_congr (hnetwork : network.IsLocal) (hpast : SameBut site past past')
    (hasked : requestsAfter network past address = past ++ asked)
    (hsite : ∀ r ∈ asked, r.site ≠ site) :
    requestsAfter network past' address = past' ++ asked := by
  rw [requestsAfter] at hasked ⊢
  split at hasked
  · next r hpath hr => exact congrArg Prod.snd (askWeb_congr hnetwork hpast hasked hsite)
  · obtain rfl : asked = [] := List.self_eq_append_right.1 hasked
    exact (List.append_nil past').symm

theorem exists_foldl_requestsAfter (hnetwork : network.IsLocal) (hpast : SameBut site past past')
    (hspares : ∀ address ∈ addresses, SparesSite network site address) :
    ∃ asked, addresses.foldl (requestsAfter network) past = past ++ asked ∧
      addresses.foldl (requestsAfter network) past' = past' ++ asked ∧
      ∀ r ∈ asked, r.site ≠ site := by
  induction addresses generalizing past past' with
  | nil => exact ⟨[], (List.append_nil past).symm, (List.append_nil past').symm, by simp⟩
  | cons address addresses ih =>
    obtain ⟨first, hfirst, hsite⟩ := hspares address List.mem_cons_self past
    have hfirst' := requestsAfter_congr hnetwork hpast hfirst hsite
    obtain ⟨rest, hrest, hrest', hsite'⟩ := ih (hpast.append_right first)
      fun a ha ↦ hspares a (List.mem_cons_of_mem _ ha)
    refine ⟨first ++ rest, ?_, ?_, List.forall_mem_append.2 ⟨hsite, hsite'⟩⟩
    · rw [List.foldl_cons, hfirst, hrest, List.append_assoc]
    · rw [List.foldl_cons, hfirst', hrest', List.append_assoc]

/-- A feed is the same if the file that it lies in is, or nothing else was asked of the servers that
fetching it leads to. -/
theorem fetch_congr (hnetwork : network.IsLocal) (hpast : SameBut site past past')
    (hfiles : ∀ path ∈ filePath? address, files'.text? path = files.text? path)
    (hspares : SparesSite network site address) :
    fetch files' network past' address = fetch files network past address := by
  rw [fetch, fetch]
  cases hpath : filePath? address with
  | some path =>
    dsimp only
    rw [hfiles path hpath]
  | none =>
    cases hr : webRequest? address with
    | none => rfl
    | some r =>
      obtain ⟨asked, hasked, hsite⟩ := hspares past
      simp only [requestsAfter, hpath, hr] at hasked
      dsimp only
      rw [askWeb_congr hnetwork hpast hasked hsite]

/-- If requests are always answered alike, it makes no difference what was asked before. -/
theorem fetch_eq_of_steady (hsteady : ∀ past r, network past r = network [] r)
    (past past' : List Http.Request) (address : String) :
    fetch files network past address = fetch files network past' address := by
  have hask : ∀ n past past' r, (askWeb network n past r).1 = (askWeb network n past' r).1 := by
    intro n
    induction n with
    | zero => exact fun _ _ _ ↦ rfl
    | succ n ih =>
      intro past past' r
      rw [askWeb, askWeb, hsteady past, hsteady past']
      split
      · rfl
      · split
        · exact ih _ _ _
        · rfl
  simp only [fetch, hask maxRequests past past']

end Ingest

end FeedHarvest
