import ObjectMetrics.Registry.Basic
/-!
Callers that regenerate together. Each notes the number of completed attempts when it arrives, and
then waits for the lock. Whoever gets the lock and finds the number changed shares the last outcome;
otherwise it fetches a listing, publishes, and gives the lock back when its attempt is counted.
-/
namespace ObjectMetrics

inductive CallerPhase where
  /-- It waits for the lock, with the number of attempts that it saw on arrival. -/
  | waiting (ticket : Nat)
  /-- It holds the lock, and its fetch is outstanding. -/
  | fetching
  /-- It holds the lock, and its fetch has been published or has failed. -/
  | concluding (outcome : Outcome)
  | returned (outcome : Outcome)

structure Flight where
  registry : Registry
  callers : List CallerPhase
  locked : Bool
  fetches : Nat

inductive FlightStep where
  | arrive
  | acquire (caller : Nat)
  | fetched (caller : Nat) (listing : Except Failure (List ResourceReport))
  | release (caller : Nat)

namespace Flight

def ofRegistry (r : Registry) : Flight := ⟨r, [], false, 0⟩

/-- The flight after a step, if the step is possible. -/
def step? (singularize : String → String) (f : Flight) : FlightStep → Option Flight
  | .arrive => some { f with callers := f.callers ++ [.waiting f.registry.ticket] }
  | .acquire i =>
    match f.locked, f.callers[i]? with
    | false, some (.waiting ticket) =>
      match f.registry.joined? ticket with
      | some outcome => some { f with callers := f.callers.set i (.returned outcome) }
      | none =>
        some { f with callers := f.callers.set i .fetching, locked := true, fetches := f.fetches + 1 }
    | _, _ => none
  | .fetched i listing =>
    match f.callers[i]? with
    | some .fetching =>
      let p := f.registry.publish singularize listing
      some { f with registry := p.registry, callers := f.callers.set i (.concluding p.outcome) }
    | _ => none
  | .release i =>
    match f.callers[i]? with
    | some (.concluding outcome) =>
      some { f with
        registry := f.registry.conclude outcome
        callers := f.callers.set i (.returned outcome)
        locked := false }
    | _ => none

/-- The flight after some steps, where impossible ones count for nothing. -/
def run (singularize : String → String) (f : Flight) (steps : List FlightStep) : Flight :=
  steps.foldl (fun f s => (f.step? singularize s).getD f) f

def outcomes (f : Flight) : List Outcome :=
  f.callers.filterMap fun
    | .returned outcome => some outcome
    | _ => none

end Flight
end ObjectMetrics
