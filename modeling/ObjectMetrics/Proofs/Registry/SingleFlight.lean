import ObjectMetrics.Proofs.Registry.Flight

/-! What becomes of one caller among others. It returns with the outcome of an attempt that was
completed after its arrival, and if it arrives during a fetch it starts none of its own. -/
namespace ObjectMetrics

/-- Where a caller can stand that saw some attempts completed on its arrival, perhaps during a
fetch, given the outcomes of the attempts completed since. -/
def CallerPhase.Stands (seen : Nat) (busy : Prop) (since : List Outcome) (locked : Bool) :
    CallerPhase → Prop
  | .waiting ticket => ticket = seen ∧ (busy → since ≠ [] ∨ locked = true)
  | .fetching | .concluding _ => ¬busy ∧ since = []
  | .returned _ => True

namespace Flight

variable {singularize : String → String} {f g : Flight} {s : FlightStep} {seen since : List Outcome}
  {busy : Prop} {i : Nat} {phase : CallerPhase}

/-- A caller at one place in the flight. -/
structure Arrived (seen : List Outcome) (busy : Prop) (i : Nat) (since : List Outcome)
    (f : Flight) : Prop where
  orderly : Orderly (seen ++ since) f
  stands : ∃ phase, f.callers[i]? = some phase ∧ phase.Stands seen.length busy since f.locked

/-- A step of the caller itself. If it returns, then with the last outcome since its arrival. -/
theorem Arrived.own_step (orderly : Orderly (seen ++ since) f) (found : f.callers[i]? = some phase)
    (stands : phase.Stands seen.length busy since f.locked) (moved : Move singularize f s g)
    (own : g.callers[i]? ≠ some phase) :
    ∃ next, g.callers[i]? = some next ∧
      next.Stands seen.length busy (since ++ (f.completion? s).toList) g.locked ∧
      ∀ outcome, next = .returned outcome →
        (since ++ (f.completion? s).toList).getLast? = some outcome := by
  have inside : i < f.callers.length := (List.getElem?_eq_some_iff.mp found).1
  have set : ∀ {j : Nat} {next : CallerPhase}, (f.callers.set j next)[i]? ≠ some phase → j = i := by
    intro j next changed
    refine Decidable.byContradiction fun other => changed ?_
    rw [List.getElem?_set_ne other]
    exact found
  cases moved with
  | arrive =>
    refine absurd ?_ own
    simpa [List.getElem?_append_left inside] using found
  | join j ticket outcome free waits newer last =>
    obtain rfl := set own
    obtain rfl := Option.some.inj (found.symm.trans waits)
    obtain ⟨rfl,_⟩ := stands
    have completed : since ≠ [] := by
      rintro rfl
      exact newer (by simpa using orderly.attempts)
    refine ⟨_,List.getElem?_set_self inside,trivial,?_⟩
    rintro _ ⟨⟩
    have same := orderly.last.symm.trans last
    obtain ⟨latest,there⟩ := Option.isSome_iff_exists.mp (List.getLast?_isSome.mpr completed)
    rw [List.getLast?_append,there,Option.some_or] at same
    simpa [completion?,there] using same
  | start j ticket free waits first =>
    obtain rfl := set own
    obtain rfl := Option.some.inj (found.symm.trans waits)
    obtain ⟨rfl,waited⟩ := stands
    have nothing : since = [] := by
      rcases first with same | never
      · have count := orderly.attempts
        rw [same,List.length_append] at count
        exact List.length_eq_zero_iff.mp (by omega)
      · have empty := orderly.last.symm.trans never
        exact (List.append_eq_nil_iff.mp (List.getLast?_eq_none_iff.mp empty)).2
    refine ⟨_,List.getElem?_set_self inside,⟨?_,by simpa [completion?] using nothing⟩,by simp⟩
    intro during
    rcases waited during with done | taken
    · exact done nothing
    · simp [free] at taken
  | fetched j listing fetching =>
    obtain rfl := set own
    obtain rfl := Option.some.inj (found.symm.trans fetching)
    exact ⟨_,List.getElem?_set_self inside,
      by simpa [completion?,CallerPhase.Stands] using stands,by simp⟩
  | release j outcome concludes =>
    obtain rfl := set own
    obtain rfl := Option.some.inj (found.symm.trans concludes)
    refine ⟨_,List.getElem?_set_self inside,trivial,?_⟩
    rintro _ ⟨⟩
    simp [completion?,concludes]

theorem Arrived.other_step (orderly : Orderly (seen ++ since) f)
    (found : f.callers[i]? = some phase) (stands : phase.Stands seen.length busy since f.locked)
    (moved : Move singularize f s g) (kept : g.callers[i]? = some phase) :
    phase.Stands seen.length busy (since ++ (f.completion? s).toList) g.locked := by
  cases moved with
  | arrive | join | fetched => simpa [completion?] using stands
  | start =>
    cases phase with
    | waiting ticket => exact ⟨stands.1,fun _ => .inr rfl⟩
    | returned outcome => trivial
    | fetching | concluding => simpa [completion?,CallerPhase.Stands] using stands
  | release j outcome concludes =>
    have flies : phase.outstanding ≠ 1 := by
      intro one
      obtain rfl := orderly.eq_of_outstanding found one concludes rfl
      have inside := (List.getElem?_eq_some_iff.mp found).1
      rw [List.getElem?_set_self inside,← found,concludes] at kept
      simp at kept
    cases phase with
    | waiting ticket => exact ⟨stands.1,fun _ => .inl (by simp [completion?,concludes])⟩
    | returned outcome => trivial
    | fetching | concluding => exact absurd rfl flies

theorem Arrived.step (arrived : Arrived seen busy i since f) (moved : Move singularize f s g) :
    Arrived seen busy i (since ++ (f.completion? s).toList) g := by
  obtain ⟨orderly,phase,found,stands⟩ := arrived
  refine ⟨by simpa [List.append_assoc] using orderly.step moved,?_⟩
  by_cases kept : g.callers[i]? = some phase
  · exact ⟨phase,kept,other_step orderly found stands moved kept⟩
  · obtain ⟨next,there,holds,_⟩ := own_step orderly found stands moved kept
    exact ⟨next,there,holds⟩

theorem Arrived.run (arrived : Arrived seen busy i since f) (steps : List FlightStep) :
    Arrived seen busy i (since ++ completions singularize f steps) (run singularize f steps) :=
  run_keeps Arrived.step arrived steps

theorem Arrived.last_of_return {outcome : Outcome} (arrived : Arrived seen busy i since f)
    (moved : Move singularize f s g) (before : f.callers[i]? ≠ some (.returned outcome))
    (returned : g.callers[i]? = some (.returned outcome)) :
    (since ++ (f.completion? s).toList).getLast? = some outcome := by
  obtain ⟨orderly,phase,found,stands⟩ := arrived
  have own : g.callers[i]? ≠ some phase := by
    rw [returned,← found]
    exact before.symm
  obtain ⟨next,there,_,last⟩ := own_step orderly found stands moved own
  exact last outcome (Option.some.inj (there.symm.trans returned))

theorem Move.returned_stays {outcome : Outcome} (moved : Move singularize f s g)
    (found : f.callers[i]? = some (.returned outcome)) :
    g.callers[i]? = some (.returned outcome) := by
  by_cases arrival : s = .arrive
  · subst arrival
    cases moved with
    | arrive =>
      rw [List.getElem?_append_left (List.getElem?_eq_some_iff.mp found).1]
      exact found
  · obtain ⟨j,old,next,there,changed,goes,_⟩ := moved.caller arrival
    have apart : j ≠ i := by
      rintro rfl
      obtain rfl := Option.some.inj (there.symm.trans found)
      contradiction
    rw [changed,List.getElem?_set_ne apart]
    exact found

theorem returned_stays {outcome : Outcome} (found : f.callers[i]? = some (.returned outcome))
    (steps : List FlightStep) :
    (run singularize f steps).callers[i]? = some (.returned outcome) := by
  induction steps generalizing f with
  | nil => exact found
  | cons s steps ih =>
    rw [run_cons]
    cases stepped : f.step? singularize s with
    | none => exact ih found
    | some g => exact ih ((step?_eq_some_iff.mp stepped).returned_stays found)

/-- A caller that has returned did so in one of the steps, with the last outcome until then. -/
theorem Arrived.return_step {outcome : Outcome} (arrived : Arrived seen busy i since f)
    (before : ∀ other, f.callers[i]? ≠ some (.returned other)) (steps : List FlightStep)
    (returned : (Flight.run singularize f steps).callers[i]? = some (.returned outcome)) :
    ∃ mid s rest, steps = mid ++ s :: rest ∧
      (∀ other, (Flight.run singularize f mid).callers[i]? ≠ some (.returned other)) ∧
      (Flight.run singularize f (mid ++ [s])).callers[i]? = some (.returned outcome) ∧
      (since ++ completions singularize f (mid ++ [s])).getLast? = some outcome := by
  induction steps generalizing f since with
  | nil => exact absurd returned (before outcome)
  | cons s steps ih =>
    rw [run_cons] at returned
    cases stepped : f.step? singularize s with
    | none =>
      rw [stepped,Option.getD_none] at returned
      obtain ⟨mid,last,rest,rfl,waits,ends,latest⟩ := ih arrived before returned
      refine ⟨s :: mid,last,rest,rfl,?_,?_,?_⟩
      · simpa [run_cons,stepped] using waits
      · simpa [run_cons,stepped] using ends
      · simpa [completions,completion?_of_impossible stepped,stepped] using latest
    | some g =>
      rw [stepped,Option.getD_some] at returned
      have moved := step?_eq_some_iff.mp stepped
      by_cases now : ∃ other, g.callers[i]? = some (.returned other)
      · obtain ⟨other,there⟩ := now
        have same := (returned_stays there steps).symm.trans returned
        rw [same] at there
        refine ⟨[],s,steps,rfl,before,by simpa [Flight.run,stepped] using there,?_⟩
        simpa [completions] using arrived.last_of_return moved (before outcome) there
      · have still : ∀ other, g.callers[i]? ≠ some (.returned other) := by
          intro other there
          exact now ⟨other,there⟩
        obtain ⟨mid,last,rest,rfl,waits,ends,latest⟩ := ih (arrived.step moved) still returned
        refine ⟨s :: mid,last,rest,rfl,?_,?_,?_⟩
        · simpa [run_cons,stepped] using waits
        · simpa [run_cons,stepped] using ends
        · simpa [completions,stepped] using latest

theorem Arrived.of_arrive (orderly : Orderly seen f) (moved : Move singularize f .arrive g) :
    Arrived seen (0 < f.outstanding) f.callers.length [] g := by
  have ordered := orderly.step moved
  cases moved with
  | arrive =>
    refine ⟨by simpa [completion?] using ordered,_,List.getElem?_concat_length,orderly.attempts,?_⟩
    intro busy
    right
    obtain ⟨j,phase,found,flies⟩ : ∃ (j : Nat) (phase : CallerPhase), f.callers[j]? = some phase ∧
        phase.outstanding ≠ 0 := by
      have several := mt (total_eq_zero_iff CallerPhase.outstanding).mpr (Nat.ne_of_gt busy)
      simpa using several
    exact orderly.locked_of_outstanding found flies

theorem Arrived.waits_or_returned (arrived : Arrived seen busy i since f) (during : busy) :
    f.callers[i]? = some (.waiting seen.length) ∨
      ∃ outcome, f.callers[i]? = some (.returned outcome) := by
  obtain ⟨_,phase,found,stands⟩ := arrived
  cases phase with
  | waiting ticket => exact .inl (stands.1 ▸ found)
  | returned outcome => exact .inr ⟨outcome,found⟩
  | fetching | concluding => exact absurd during stands.1

theorem Arrived.returned_of_acquire (arrived : Arrived seen busy i since f) (during : busy)
    (moved : Move singularize f (.acquire i) g) :
    ∃ outcome, g.callers[i]? = some (.returned outcome) := by
  rcases (arrived.step moved).waits_or_returned during with waits | returned
  · obtain ⟨_,_,found,_⟩ := arrived
    have inside := (List.getElem?_eq_some_iff.mp found).1
    cases moved <;> simp [List.getElem?_set_self inside] at waits
  · exact returned

/-- Of callers that regenerate together, in any order of their steps, at most one has a fetch
outstanding, and each fetch belongs to one attempt. A caller that arrives during a fetch starts none
and returns when it gets the lock. Whoever returns does so with the outcome of the last attempt,
which was completed after its arrival. Once no more callers arrive they all return. -/
theorem single_flight (singularize : String → String) (before : List FlightStep) :
    let f := run singularize (ofRegistry .empty) before
    f.outstanding ≤ 1 ∧
    f.registry.attempts = (completions singularize (ofRegistry .empty) before).length ∧
    f.fetches = f.registry.attempts + f.outstanding ∧
    ∀ after : List FlightStep,
      let caller := f.callers.length
      let g := run singularize f (.arrive :: after)
      (0 < f.outstanding →
        (g.callers[caller]? = some (.waiting f.registry.attempts) ∨
          ∃ outcome, g.callers[caller]? = some (.returned outcome)) ∧
        ∀ h, g.step? singularize (.acquire caller) = some h →
          ∃ outcome, h.callers[caller]? = some (.returned outcome)) ∧
      (∀ outcome, g.callers[caller]? = some (.returned outcome) →
        ∃ mid s rest, after = mid ++ s :: rest ∧
          (∀ other, (run singularize f (.arrive :: mid)).callers[caller]? ≠
            some (.returned other)) ∧
          (run singularize f (.arrive :: (mid ++ [s]))).callers[caller]? =
            some (.returned outcome) ∧
          (completions singularize f (.arrive :: (mid ++ [s]))).getLast? = some outcome) ∧
      ∀ steps h, .arrive ∉ steps → g.follow? singularize steps = some h →
        steps.length ≤ 3 * g.callers.length ∧
        (h.Quiet singularize → ∃ outcome, h.callers[caller]? = some (.returned outcome)) := by
  intro f
  have orderly : Orderly (completions singularize (ofRegistry .empty) before) f :=
    orderly_empty.run before
  refine ⟨orderly.outstanding_le,orderly.attempts,orderly.fetches,?_⟩
  intro after caller g
  have first := Arrived.of_arrive orderly (.arrive : Move singularize f .arrive _)
  have arrived : Arrived _ (0 < f.outstanding) caller _ g := first.run after
  refine ⟨?_,?_,?_⟩
  · intro during
    rw [orderly.attempts]
    refine ⟨arrived.waits_or_returned during,?_⟩
    intro h stepped
    exact arrived.returned_of_acquire during (step?_eq_some_iff.mp stepped)
  · intro outcome returned
    exact first.return_step (by simp) after returned
  · intro steps h quiet followed
    obtain ⟨same,bound⟩ := follow?_eq_some followed
    refine ⟨?_,?_⟩
    · have most := work_le g
      have less := bound quiet
      omega
    · intro still
      obtain ⟨ordered,phase,found,_⟩ : Arrived _ _ caller _ h := same ▸ arrived.run steps
      obtain ⟨outcome,rfl⟩ := ordered.returned_of_quiet still found
      exact ⟨outcome,found⟩

theorem single_flight_second_caller :
    0 < (run id (ofRegistry .empty) [.arrive,.acquire 0]).outstanding ∧
    (run id (run id (ofRegistry .empty) [.arrive,.acquire 0])
      [.arrive,.fetched 0 (.ok []),.release 0,.acquire 1]).callers[1]? =
        some (.returned (.ok 1)) ∧
    ∃ mid s rest, [.fetched 0 (.ok []),.release 0,.acquire 1] = mid ++ s :: rest ∧
      (completions id (run id (ofRegistry .empty) [.arrive,.acquire 0])
        (.arrive :: (mid ++ [s]))).getLast? = some (.ok 1) := by
  refine ⟨Nat.one_pos,rfl,?_⟩
  obtain ⟨_,_,_,fate⟩ := single_flight id [.arrive,.acquire 0]
  obtain ⟨mid,s,rest,split,_,_,last⟩ :=
    (fate [.fetched 0 (.ok []),.release 0,.acquire 1]).2.1 (.ok 1) rfl
  exact ⟨mid,s,rest,split,last⟩

end Flight

end ObjectMetrics
