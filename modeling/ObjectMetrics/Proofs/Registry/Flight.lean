import Mathlib.Algebra.GroupWithZero.Nat
import ObjectMetrics.Registry.Flight

/-! What one step of one caller can do, and what a run of steps keeps: the lock has one holder, who
has the only fetch outstanding, and the registry remembers the attempt that was completed last. -/
namespace ObjectMetrics

namespace Registry

@[simp] theorem publish_attempts (singularize : String → String) (r : Registry)
    (listing : Except Failure (List ResourceReport)) :
    (r.publish singularize listing).registry.attempts = r.attempts := by
  cases listing <;> rfl

@[simp] theorem publish_lastOutcome (singularize : String → String) (r : Registry)
    (listing : Except Failure (List ResourceReport)) :
    (r.publish singularize listing).registry.lastOutcome = r.lastOutcome := by
  cases listing <;> rfl

end Registry

namespace CallerPhase

/-- The fetches that a caller has outstanding. A fetch is outstanding until its attempt is
counted. -/
def outstanding : CallerPhase → Nat
  | .fetching | .concluding _ => 1
  | .waiting _ | .returned _ => 0

/-- The steps that a caller still takes at most. -/
def work : CallerPhase → Nat
  | .waiting _ => 3
  | .fetching => 2
  | .concluding _ => 1
  | .returned _ => 0

inductive Next : CallerPhase → CallerPhase → Prop where
  | join (ticket : Nat) (outcome : Outcome) : Next (.waiting ticket) (.returned outcome)
  | start (ticket : Nat) : Next (.waiting ticket) .fetching
  | fetched (outcome : Outcome) : Next .fetching (.concluding outcome)
  | release (outcome : Outcome) : Next (.concluding outcome) (.returned outcome)

end CallerPhase

namespace Flight

variable {singularize : String → String} {f g : Flight}

def total (measure : CallerPhase → Nat) (f : Flight) : Nat := (f.callers.map measure).sum

def outstanding (f : Flight) : Nat := f.total CallerPhase.outstanding

/-- The outcome of the attempt that a step completes. -/
def completion? (f : Flight) : FlightStep → Option Outcome
  | .release i =>
    match f.callers[i]? with
    | some (.concluding outcome) => some outcome
    | _ => none
  | _ => none

/-- The outcomes of the attempts that are completed in some steps. -/
def completions (singularize : String → String) : Flight → List FlightStep → List Outcome
  | _, [] => []
  | f, s :: steps =>
    (f.completion? s).toList ++ completions singularize ((f.step? singularize s).getD f) steps

/-- The steps that are possible, and where they lead. -/
inductive Move (singularize : String → String) (f : Flight) : FlightStep → Flight → Prop where
  | arrive : Move singularize f .arrive
      { f with callers := f.callers ++ [.waiting f.registry.attempts] }
  | join (i ticket : Nat) (outcome : Outcome) (free : f.locked = false)
      (waits : f.callers[i]? = some (.waiting ticket)) (newer : f.registry.attempts ≠ ticket)
      (last : f.registry.lastOutcome = some outcome) :
      Move singularize f (.acquire i) { f with callers := f.callers.set i (.returned outcome) }
  | start (i ticket : Nat) (free : f.locked = false)
      (waits : f.callers[i]? = some (.waiting ticket))
      (first : f.registry.attempts = ticket ∨ f.registry.lastOutcome = none) :
      Move singularize f (.acquire i)
        { f with callers := f.callers.set i .fetching, locked := true, fetches := f.fetches + 1 }
  | fetched (i : Nat) (listing : Except Failure (List ResourceReport))
      (fetching : f.callers[i]? = some .fetching) :
      Move singularize f (.fetched i listing)
        { f with
          registry := (f.registry.publish singularize listing).registry
          callers := f.callers.set i
            (.concluding (f.registry.publish singularize listing).outcome) }
  | release (i : Nat) (outcome : Outcome) (concludes : f.callers[i]? = some (.concluding outcome)) :
      Move singularize f (.release i)
        { f with
          registry := f.registry.conclude outcome
          callers := f.callers.set i (.returned outcome)
          locked := false }

theorem step?_eq_some_iff {s : FlightStep} :
    f.step? singularize s = some g ↔ Move singularize f s g := by
  constructor
  · intro stepped
    cases s with
    | arrive =>
      obtain rfl := Option.some.inj stepped
      exact .arrive
    | acquire i =>
      simp only [step?] at stepped
      split at stepped
      next ticket free waits =>
        unfold Registry.joined? at stepped
        by_cases same : f.registry.attempts = ticket
        · simp only [same,if_true,Option.some.injEq] at stepped
          subst stepped
          exact .start i ticket free waits (.inl same)
        · cases last : f.registry.lastOutcome with
          | none =>
            simp only [same,last,if_false,Option.some.injEq] at stepped
            subst stepped
            exact .start i ticket free waits (.inr last)
          | some outcome =>
            simp only [same,last,if_false,Option.some.injEq] at stepped
            subst stepped
            exact .join i ticket outcome free waits same last
      next => contradiction
    | fetched i listing =>
      simp only [step?] at stepped
      split at stepped
      next fetching =>
        obtain rfl := Option.some.inj stepped
        exact .fetched i listing fetching
      next => contradiction
    | release i =>
      simp only [step?] at stepped
      split at stepped
      next outcome concludes =>
        obtain rfl := Option.some.inj stepped
        exact .release i outcome concludes
      next => contradiction
  · intro moved
    cases moved with
    | arrive => rfl
    | join i ticket outcome free waits newer last =>
      simp [step?,free,waits,Registry.joined?,newer,last]
    | start i ticket free waits first =>
      rcases first with same | none
      · simp [step?,free,waits,Registry.joined?,same]
      · simp [step?,free,waits,Registry.joined?,none]
    | fetched i listing fetching => simp [step?,fetching]
    | release i outcome concludes => simp [step?,concludes]

/-! Sums over all callers. -/

section total

variable (measure : CallerPhase → Nat)

@[simp] theorem total_arrive (r : Registry) (callers : List CallerPhase) (locked : Bool)
    (fetches : Nat) (phase : CallerPhase) :
    total measure ⟨r,callers ++ [phase],locked,fetches⟩ =
      total measure ⟨r,callers,locked,fetches⟩ + measure phase := by
  simp [total]

theorem total_set {i : Nat} {old : CallerPhase} (r : Registry) (locked : Bool) (fetches : Nat)
    (found : f.callers[i]? = some old) (phase : CallerPhase) :
    total measure ⟨r,f.callers.set i phase,locked,fetches⟩ + measure old =
      f.total measure + measure phase := by
  simp only [total]
  generalize f.callers = callers at found ⊢
  induction callers generalizing i with
  | nil => simp at found
  | cons first rest ih =>
    cases i with
    | zero =>
      obtain rfl : first = old := by simpa using found
      simp only [List.set_cons_zero,List.map_cons,List.sum_cons]
      omega
    | succ i =>
      have later := ih (by simpa using found)
      simp only [List.set_cons_succ,List.map_cons,List.sum_cons]
      omega

theorem total_eq_zero_iff :
    f.total measure = 0 ↔ ∀ (i : Nat) (phase : CallerPhase), f.callers[i]? = some phase →
      measure phase = 0 := by
  unfold total
  rw [List.sum_eq_zero_iff_forall_eq_nat,List.forall_mem_map]
  constructor
  · intro zero i phase found
    exact zero phase (List.mem_of_getElem? found)
  · intro zero phase member
    obtain ⟨i,found⟩ := List.getElem?_of_mem member
    exact zero i phase found

end total

/-- Every step but an arrival is one of a caller that goes on, and the others stay where they are. -/
theorem Move.caller {s : FlightStep} (moved : Move singularize f s g) (later : s ≠ .arrive) :
    ∃ i old next, f.callers[i]? = some old ∧ g.callers = f.callers.set i next ∧
      CallerPhase.Next old next ∧
      ∀ measure, g.total measure + measure old = f.total measure + measure next := by
  cases moved with
  | arrive => contradiction
  | join i ticket outcome free waits =>
    exact ⟨i,_,_,waits,rfl,.join ticket outcome,fun _ => total_set _ _ _ _ waits _⟩
  | start i ticket free waits =>
    exact ⟨i,_,_,waits,rfl,.start ticket,fun _ => total_set _ _ _ _ waits _⟩
  | fetched i listing fetching =>
    exact ⟨i,_,_,fetching,rfl,.fetched _,fun _ => total_set _ _ _ _ fetching _⟩
  | release i outcome concludes =>
    exact ⟨i,_,_,concludes,rfl,.release outcome,fun _ => total_set _ _ _ _ concludes _⟩

/-- After some completed attempts the registry counts them and remembers the last, the lock is taken
by the one caller that has a fetch outstanding, and each fetch belongs to an attempt. -/
structure Orderly (completed : List Outcome) (f : Flight) : Prop where
  attempts : f.registry.attempts = completed.length
  last : f.registry.lastOutcome = completed.getLast?
  holder : f.outstanding = if f.locked then 1 else 0
  fetches : f.fetches = f.registry.attempts + f.outstanding

namespace Orderly

variable {completed : List Outcome} {s : FlightStep}

theorem outstanding_le (orderly : Orderly completed f) : f.outstanding ≤ 1 := by
  rw [orderly.holder]
  split <;> omega

theorem locked_of_outstanding (orderly : Orderly completed f) {i : Nat} {phase : CallerPhase}
    (found : f.callers[i]? = some phase) (flying : phase.outstanding ≠ 0) : f.locked = true := by
  cases free : f.locked with
  | true => rfl
  | false =>
    have nobody : f.outstanding = 0 := by simpa [free] using orderly.holder
    exact absurd ((total_eq_zero_iff _).mp nobody i phase found) flying

theorem eq_of_outstanding (orderly : Orderly completed f) {i j : Nat} {phase other : CallerPhase}
    (found : f.callers[i]? = some phase) (flying : phase.outstanding = 1)
    (second : f.callers[j]? = some other) (flies : other.outstanding = 1) : j = i := by
  refine Decidable.byContradiction fun different => ?_
  -- were the first caller to return, the second would still fly
  let landed : Flight := { f with callers := f.callers.set i (.returned (.ok 0)) }
  have rest : landed.outstanding + 1 = f.outstanding := by
    have sum := total_set CallerPhase.outstanding f.registry f.locked f.fetches found
      (.returned (.ok 0))
    rw [flying] at sum
    exact sum
  have nobody : landed.outstanding = 0 := by
    have bound := orderly.outstanding_le
    omega
  have still : landed.callers[j]? = some other := by
    simpa [landed,List.getElem?_set_ne (Ne.symm different)] using second
  have zero := (total_eq_zero_iff _).mp nobody j other still
  omega

theorem step (orderly : Orderly completed f) (moved : Move singularize f s g) :
    Orderly (completed ++ (f.completion? s).toList) g := by
  obtain ⟨attempts,last,holder,fetches⟩ := orderly
  unfold outstanding at holder fetches
  cases moved with
  | arrive =>
    refine ⟨by simpa [completion?] using attempts,by simpa [completion?] using last,?_,?_⟩ <;>
      simpa [outstanding,CallerPhase.outstanding] using ‹_›
  | join i ticket outcome free waits newer remembered =>
    have sum := total_set CallerPhase.outstanding f.registry f.locked f.fetches waits
      (.returned outcome)
    simp only [CallerPhase.outstanding,Nat.add_zero] at sum
    refine ⟨by simpa [completion?] using attempts,by simpa [completion?] using last,?_,?_⟩
    · exact sum.trans holder
    · simpa only [outstanding,sum] using fetches
  | start i ticket free waits first =>
    have sum := total_set CallerPhase.outstanding f.registry true (f.fetches + 1) waits .fetching
    have nobody : f.total CallerPhase.outstanding = 0 := by simpa [free] using holder
    simp only [CallerPhase.outstanding,Nat.add_zero,nobody,Nat.zero_add] at sum
    refine ⟨by simpa [completion?] using attempts,by simpa [completion?] using last,?_,?_⟩
    · exact sum
    · simp only [outstanding,sum]
      omega
  | fetched i listing fetching =>
    have sum := total_set CallerPhase.outstanding (f.registry.publish singularize listing).registry
      f.locked f.fetches fetching (.concluding (f.registry.publish singularize listing).outcome)
    have same := Nat.add_right_cancel sum
    refine ⟨by simpa [completion?] using attempts,by simpa [completion?] using last,?_,?_⟩
    · exact same.trans holder
    · simpa only [outstanding,same,Registry.publish_attempts] using fetches
  | release i outcome concludes =>
    have sum := total_set CallerPhase.outstanding (f.registry.conclude outcome) false f.fetches
      concludes (.returned outcome)
    have taken : f.locked = true := locked_of_outstanding ⟨attempts,last,holder,fetches⟩ concludes
      (by simp [CallerPhase.outstanding])
    simp only [CallerPhase.outstanding,Nat.add_zero] at sum
    simp only [taken,if_true] at holder
    rw [holder] at sum fetches
    have nobody := Nat.add_right_cancel (sum.trans (Nat.zero_add 1).symm)
    refine ⟨?_,?_,nobody,?_⟩
    · simp [completion?,concludes,Registry.conclude,attempts]
    · simp [completion?,concludes,Registry.conclude]
    · simp only [outstanding,nobody]
      exact fetches

end Orderly

theorem completion?_of_impossible {s : FlightStep} (impossible : f.step? singularize s = none) :
    f.completion? s = none := by
  cases s with
  | release i =>
    unfold completion?
    simp only [step?] at impossible ⊢
    split at impossible <;> simp_all
  | _ => rfl

theorem run_cons (singularize : String → String) (f : Flight) (s : FlightStep)
    (steps : List FlightStep) :
    run singularize f (s :: steps) = run singularize ((f.step? singularize s).getD f) steps := rfl

theorem run_keeps {motive : List Outcome → Flight → Prop}
    (keeps : ∀ {completed f g s}, motive completed f → Move singularize f s g →
      motive (completed ++ (f.completion? s).toList) g)
    {completed : List Outcome} (start : motive completed f) (steps : List FlightStep) :
    motive (completed ++ completions singularize f steps) (run singularize f steps) := by
  induction steps generalizing completed f with
  | nil => simpa [completions,run] using start
  | cons s steps ih =>
    simp only [completions,run_cons,← List.append_assoc]
    cases stepped : f.step? singularize s with
    | none =>
      rw [completion?_of_impossible stepped]
      simpa using ih start
    | some g => exact ih (keeps start (step?_eq_some_iff.mp stepped))

theorem orderly_empty : Orderly [] (ofRegistry .empty) := ⟨rfl,rfl,rfl,rfl⟩

theorem Orderly.run {completed : List Outcome} (orderly : Orderly completed f)
    (steps : List FlightStep) :
    Orderly (completed ++ completions singularize f steps) (run singularize f steps) :=
  run_keeps Orderly.step orderly steps

/-! Every caller returns. -/

/-- The flight after some steps, if each is possible in its turn. -/
def follow? (singularize : String → String) (f : Flight) (steps : List FlightStep) :
    Option Flight :=
  steps.foldlM (step? singularize) f

def Quiet (singularize : String → String) (f : Flight) : Prop :=
  ∀ s, s ≠ .arrive → f.step? singularize s = none

theorem Orderly.returned_of_quiet {completed : List Outcome} (orderly : Orderly completed f)
    (quiet : f.Quiet singularize) {i : Nat} {phase : CallerPhase}
    (found : f.callers[i]? = some phase) : ∃ outcome, phase = .returned outcome := by
  have still : ∀ {s g}, Move singularize f s g → s = .arrive := by
    intro s g moved
    refine Classical.byContradiction fun other => ?_
    have impossible := quiet s other
    rw [step?_eq_some_iff.mpr moved] at impossible
    contradiction
  have landed : ∀ (j : Nat) (other : CallerPhase), f.callers[j]? = some other →
      other.outstanding = 0 := by
    intro j other there
    cases other with
    | waiting | returned => rfl
    | fetching => cases still (.fetched j (.ok []) there)
    | concluding outcome => cases still (.release j outcome there)
  have free : f.locked = false := by
    have nobody := orderly.holder
    rw [outstanding,(total_eq_zero_iff _).mpr landed] at nobody
    cases taken : f.locked with
    | false => rfl
    | true => simp [taken] at nobody
  cases phase with
  | returned outcome => exact ⟨outcome,rfl⟩
  | fetching => cases landed i _ found
  | concluding outcome => cases landed i _ found
  | waiting ticket =>
    by_cases same : f.registry.attempts = ticket
    · cases still (.start i ticket free found (.inl same))
    · cases last : f.registry.lastOutcome with
      | none => cases still (.start i ticket free found (.inr last))
      | some outcome => cases still (.join i ticket outcome free found same last)

theorem Move.work_lt {s : FlightStep} (moved : Move singularize f s g) (later : s ≠ .arrive) :
    g.total CallerPhase.work < f.total CallerPhase.work := by
  obtain ⟨i,old,next,_,_,goes,sum⟩ := moved.caller later
  have less : next.work < old.work := by cases goes <;> simp [CallerPhase.work]
  have change := sum CallerPhase.work
  omega

theorem work_le (f : Flight) : f.total CallerPhase.work ≤ 3 * f.callers.length := by
  unfold total
  induction f.callers with
  | nil => simp
  | cons phase rest ih =>
    have most : phase.work ≤ 3 := by cases phase <;> simp [CallerPhase.work]
    simp only [List.map_cons,List.sum_cons,List.length_cons]
    omega

theorem follow?_eq_some {steps : List FlightStep} (followed : f.follow? singularize steps = some g) :
    run singularize f steps = g ∧
      (.arrive ∉ steps → steps.length + g.total CallerPhase.work ≤ f.total CallerPhase.work) := by
  induction steps generalizing f with
  | nil =>
    obtain rfl : f = g := by simpa [follow?] using followed
    exact ⟨rfl,by simp⟩
  | cons s steps ih =>
    cases stepped : f.step? singularize s with
    | none => simp [follow?,stepped] at followed
    | some next =>
      obtain ⟨same,bound⟩ := ih (f := next) (by simpa [follow?,stepped] using followed)
      refine ⟨by simpa [run_cons,stepped] using same,?_⟩
      intro later
      simp only [List.mem_cons,not_or] at later
      have less := (step?_eq_some_iff.mp stepped).work_lt (Ne.symm later.1)
      have rest := bound later.2
      simp only [List.length_cons]
      omega

end Flight

end ObjectMetrics
