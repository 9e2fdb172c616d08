import FeedHarvest.Proofs.Ingest.Loading

/-!
# Loads on schedules

A load on a schedule takes steps that the engine allows and takes them to the end. Conversely every
order of steps that comes to an end is the one that some schedule chooses: the steps that are left
grow fewer with each step, so no state comes back, and a schedule may choose in each state what was
done there.
-/

namespace FeedHarvest.Ingest

namespace Load

variable {bound : Nat} {l l' : Load} {documents : List Document}

/-- The steps that are left: two for a batch that waits, one for an open call. -/
def todo (l : Load) : Nat := 2 * l.waiting.length + l.opened.length

theorem todo_eq_zero_iff : l.todo = 0 ↔ l.waiting = [] ∧ l.opened = [] := by
  rw [← List.length_eq_zero_iff, ← List.length_eq_zero_iff, todo]
  omega

theorem todo_of_step (h : Step bound l l') : l'.todo + 1 = l.todo := by
  cases h with
  | start h =>
    obtain ⟨b, bs, hw, -, -, rfl⟩ := start?_eq_some_iff.1 h
    simp only [todo, hw, List.length_append, List.length_cons, List.length_nil]
    omega
  | finish place answer h =>
    obtain ⟨call, hcall, rfl⟩ := finish?_eq_some_iff.1 h
    obtain ⟨hplace, -⟩ := List.getElem?_eq_some_iff.1 hcall
    simp only [todo, List.length_eraseIdx_of_lt hplace]
    omega

variable {schedule : Schedule} {answer : Load → BulkCall → Search.Answer}

theorem exists_of_next?_eq_some (h : l.next? bound schedule answer = some l') :
    l.start? bound = some l' ∨ ∃ place, l.finish? place (answer l) = some l' := by
  rw [next?, Option.or_eq_some_iff] at h
  rcases h with h | ⟨-, h⟩
  · obtain ⟨place, -, h⟩ := Option.bind_eq_some_iff.1 h
    exact .inr ⟨place, h⟩
  · rcases Option.or_eq_some_iff.1 h with h | ⟨-, h⟩
    · exact .inl h
    · exact .inr ⟨0, h⟩

theorem step_of_next?_eq_some (h : l.next? bound schedule answer = some l') : Step bound l l' := by
  rcases exists_of_next?_eq_some h with h | ⟨place, h⟩
  · exact .start h
  · exact .finish place (answer l) h

theorem todo_of_next?_eq_none (hbound : 0 < bound) (hf : l.failure = none)
    (h : l.next? bound schedule answer = none) : l.todo = 0 := by
  rw [next?, Option.or_eq_none_iff, Option.or_eq_none_iff] at h
  obtain ⟨-, hstart, hfinish⟩ := h
  have ho : l.opened = [] := by simpa [finish?] using hfinish
  cases hw : l.waiting with
  | nil => exact todo_eq_zero_iff.2 ⟨hw, ho⟩
  | cons b bs => simp [start?, hw, ho, hf, hbound] at hstart

theorem run_succ_of_next? (hf : l.failure = none) (hn : l.next? bound schedule answer = some l')
    (fuel : Nat) : l.run bound schedule answer (fuel + 1) = l'.run bound schedule answer fuel := by
  simp only [run, hf, hn, Option.isSome_none, Bool.false_eq_true, if_false]

theorem failure_run_of_forall_ok (hanswer : ∀ l call, ∃ n, answer l call = .ok n)
    (hf : l.failure = none) (fuel : Nat) : (l.run bound schedule answer fuel).failure = none := by
  induction fuel generalizing l with
  | zero => exact hf
  | succ fuel ih =>
    cases hn : l.next? bound schedule answer with
    | none => simp only [run, hf, hn, Option.isSome_none, Bool.false_eq_true, if_false]
    | some l' =>
      rw [run_succ_of_next? hf hn]
      refine ih ?_
      rcases exists_of_next?_eq_some hn with h | ⟨place, h⟩
      · obtain ⟨_, _, _, _, _, rfl⟩ := start?_eq_some_iff.1 h
        exact hf
      · obtain ⟨call, _, rfl⟩ := finish?_eq_some_iff.1 h
        obtain ⟨n, hn⟩ := hanswer l call
        rw [failure_of_answered rfl, hf, hn]
        rfl

/-- One step of a load that has not failed. After a failure nobody waits for the open calls. -/
def AwaitedStep (bound : Nat) (l l' : Load) : Prop := Step bound l l' ∧ l.failure = none

private theorem awaitedSteps_run (fuel : Nat) (l : Load) :
    Relation.ReflTransGen (AwaitedStep bound) l (l.run bound schedule answer fuel) := by
  induction fuel generalizing l with
  | zero => exact .refl
  | succ fuel ih =>
    rw [run]
    cases hf : l.failure with
    | some e => exact .refl
    | none =>
      cases hn : l.next? bound schedule answer with
      | none => exact .refl
      | some l' => exact .head ⟨step_of_next?_eq_some hn, hf⟩ (ih l')

theorem isSome_result?_iff :
    (l.result? documents).isSome ↔ l.failure ≠ none ∨ l.todo = 0 := by
  cases hf : l.failure with
  | some e => simp [result?_of_failure hf]
  | none => simp [result?, hf, todo_eq_zero_iff]

/-- With a step of fuel for each step that is left, a load on a schedule comes to its end. -/
theorem isSome_result?_run (hbound : 0 < bound) {fuel : Nat} (hfuel : l.todo ≤ fuel) :
    ((l.run bound schedule answer fuel).result? documents).isSome := by
  induction fuel generalizing l with
  | zero => exact isSome_result?_iff.2 (.inr (Nat.le_zero.1 hfuel))
  | succ fuel ih =>
    rw [run]
    cases hf : l.failure with
    | some e => exact isSome_result?_iff.2 (.inl (by simp [hf]))
    | none =>
      cases hn : l.next? bound schedule answer with
      | none => exact isSome_result?_iff.2 (.inr (todo_of_next?_eq_none hbound hf hn))
      | some l' =>
        have hstep := todo_of_step (step_of_next?_eq_some hn)
        exact ih (by omega)

/-- Only what a schedule says of the states that are still to come matters. -/
theorem run_congr {schedule' : Schedule} {answer' : Load → BulkCall → Search.Answer}
    (hplace : ∀ x : Load, x.todo ≤ l.todo → schedule.place? x = schedule'.place? x)
    (hanswer : ∀ x : Load, x.todo ≤ l.todo → answer x = answer' x) (fuel : Nat) :
    l.run bound schedule answer fuel = l.run bound schedule' answer' fuel := by
  induction fuel generalizing l with
  | zero => rfl
  | succ fuel ih =>
    have hnext : l.next? bound schedule answer = l.next? bound schedule' answer' := by
      rw [next?, next?, hplace l (Nat.le_refl _), hanswer l (Nat.le_refl _)]
    rw [run, run, hnext]
    cases hn : l.next? bound schedule' answer' with
    | none => rfl
    | some l' =>
      have hstep := todo_of_step (step_of_next?_eq_some hn)
      have hrun := ih (l := l') (fun x hx ↦ hplace x (by omega)) fun x hx ↦ hanswer x (by omega)
      simp only [hrun]

theorem exists_next?_of_step (h : Step bound l l') :
    ∃ place? answer, ∀ (schedule : Schedule) (answers : Load → BulkCall → Search.Answer),
      schedule.place? l = place? → answers l = answer →
        l.next? bound schedule answers = some l' := by
  cases h with
  | start h =>
    refine ⟨none, fun _ ↦ .ok 0, fun schedule answers hplace _ ↦ ?_⟩
    rw [next?, hplace, h]
    rfl
  | finish place answer h =>
    refine ⟨some place, answer, fun schedule answers hplace hanswer ↦ ?_⟩
    rw [next?, hplace, hanswer, Option.bind_some, h, Option.some_or]

theorem run_of_isSome_result? (h : (l.result? documents).isSome) (fuel : Nat) :
    l.run bound schedule answer fuel = l := by
  cases fuel with
  | zero => rfl
  | succ fuel =>
    rw [run]
    rcases isSome_result?_iff.1 h with hf | hdone
    · rw [if_pos (Option.isSome_iff_ne_none.2 hf)]
    · cases hn : l.next? bound schedule answer with
      | none => simp
      | some l' =>
        have hstep := todo_of_step (step_of_next?_eq_some hn)
        omega

open Classical in
/-- Steps that come to an end are the steps on some schedule. Since the steps that are left grow
fewer, what a schedule chooses in one state says nothing yet about the states after it. -/
theorem exists_schedule (hend : (l'.result? documents).isSome)
    (h : Relation.ReflTransGen (AwaitedStep bound) l l') :
    ∃ schedule answer, ∀ fuel, l.todo ≤ fuel → l.run bound schedule answer fuel = l' := by
  induction h using Relation.ReflTransGen.head_induction_on with
  | refl => exact ⟨.prompt, fun _ _ ↦ .ok 0, fun fuel _ ↦ run_of_isSome_result? hend fuel⟩
  | @head l m hstep _ ih =>
    obtain ⟨hstep, hf⟩ := hstep
    obtain ⟨schedule, answers, hrun⟩ := ih
    obtain ⟨place?, answer, hnext⟩ := exists_next?_of_step hstep
    have htodo := todo_of_step hstep
    refine ⟨⟨fun x ↦ if x = l then place? else schedule.place? x⟩,
      fun x ↦ if x = l then answer else answers x, fun fuel hfuel ↦ ?_⟩
    obtain ⟨fuel, rfl⟩ : ∃ n, fuel = n + 1 := ⟨fuel - 1, by omega⟩
    -- the schedule is changed in a state that the rest of the run does not meet
    have hne : ∀ x : Load, x.todo ≤ m.todo → x ≠ l := by
      rintro x hx rfl
      omega
    rw [run_succ_of_next? hf (hnext _ _ (if_pos rfl) (if_pos rfl))]
    refine (run_congr (fun x hx ↦ if_neg (hne x hx)) (fun x hx ↦ if_neg (hne x hx)) fuel).trans ?_
    exact hrun fuel (by omega)

end Load

namespace LoadLimits

variable {limits : LoadLimits} {documents : List Document} {l : Load}

/-- Whether a load of documents can end in a state. -/
def EndsIn (limits : LoadLimits) (documents : List Document) (l : Load) : Prop :=
  Relation.ReflTransGen (Load.AwaitedStep limits.inForce.openCalls)
    (Load.ofBatches (limits.batches documents)) l ∧ (l.result? documents).isSome

theorem EndsIn.reaches (h : limits.EndsIn documents l) : limits.Reaches documents l :=
  Relation.ReflTransGen.mono (fun _ _ hstep ↦ hstep.1) _ _ h.1

theorem endsIn_run (limits : LoadLimits) (schedule : Schedule)
    (answer : Load → BulkCall → Search.Answer) (documents : List Document) :
    limits.EndsIn documents (limits.run schedule answer documents) :=
  ⟨Load.awaitedSteps_run _ _, Load.isSome_result?_run limits.openCalls_pos (Nat.le_refl _)⟩

/-- The ends of loads are those of the loads on schedules, so what holds on every schedule holds in
every order of answers. -/
theorem endsIn_iff_exists_run :
    limits.EndsIn documents l ↔ ∃ schedule answer, limits.run schedule answer documents = l := by
  constructor
  · rintro ⟨hsteps, hend⟩
    obtain ⟨schedule, answer, hrun⟩ := Load.exists_schedule hend hsteps
    exact ⟨schedule, answer, hrun _ (Nat.le_refl _)⟩
  · rintro ⟨schedule, answer, rfl⟩
    exact endsIn_run limits schedule answer documents

/-- A load that ends without a failure has had each of its batches answered once. -/
theorem EndsIn.perm_batches (h : limits.EndsIn documents l) (hf : l.failure = none) :
    (l.answered.map fun a ↦ a.1.1).Perm (limits.batches documents) := by
  have hl := limits.inv_of_reaches h.reaches
  obtain ⟨r, hr⟩ := Option.isSome_iff_exists.1 h.2
  cases r with
  | error e =>
    rw [Load.failure_of_result? hr] at hf
    cases hf
  | ok n =>
    obtain ⟨-, hw, ho, -⟩ := Load.result?_eq_some_ok_iff.1 hr
    have hcalls := (hl.perm_of_done hw ho).2.map Prod.fst
    rwa [List.map_map, List.zipIdx_map_fst] at hcalls

end LoadLimits

/-- In every order of starts and answers a load keeps its contract, and the loads that come to an
end are those of some schedule. -/
theorem load_keeps_contract (limits : LoadLimits) (documents : List Document) :
    (∀ l, limits.Reaches documents l → LoadContract limits documents l) ∧
      ∀ l, limits.EndsIn documents l ↔
        ∃ schedule answer, limits.run schedule answer documents = l :=
  ⟨fun _ h ↦ loadContract_of_reaches h, fun _ ↦ LoadLimits.endsIn_iff_exists_run⟩

/-- Both batches of three documents are started, the second is answered, and the first fails. -/
theorem load_keeps_contract_of_refused :
    let d : Document := ⟨"", .object []⟩
    let e : Search.Error := ⟨.bulkIndexing, .unspoken⟩
    let limits : LoadLimits := ⟨2, 2⟩
    let l : Load := limits.run ⟨fun l ↦ if l.opened.length = 2 then some 1 else none⟩
      (fun _ call ↦ if call.2 = 0 then .error e else .ok 0) [d, d, d]
    l.started = [[d, d], [d]] ∧ l.answered = [(([d], 1), .ok 0), (([d, d], 0), .error e)] ∧
      LoadContract limits [d, d, d] l := by
  intro d e limits l
  have hl : l = {
      waiting := [], started := [[d, d], [d]]
      answered := [(([d], 1), .ok 0), (([d, d], 0), .error e)], peak := 2 } := by
    simp [l, limits, LoadLimits.run, LoadLimits.batches, LoadLimits.inForce, chunks, Load.run,
      Load.ofBatches, Load.failure, Load.next?, Load.start?, Load.finish?, Search.Answer.error?]
  exact ⟨congrArg Load.started hl, congrArg Load.answered hl,
    (load_keeps_contract limits [d, d, d]).1 l (LoadLimits.endsIn_run limits _ _ _).reaches⟩

end FeedHarvest.Ingest
