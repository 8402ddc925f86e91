import ObjectMetrics.Catalog.Build
/-!
The registry holds the published catalog. A regeneration either publishes a new catalog, with the
next generation, or fails and keeps the old one; either way it is one attempt with an outcome.
-/
namespace ObjectMetrics

/-- What a regeneration answers: the generation that it published, or why it failed. -/
abbrev Outcome := Except Fault Nat

structure Registry where
  catalog : Catalog
  /-- How many regenerations have been completed. -/
  attempts : Nat
  lastOutcome : Option Outcome

namespace Registry

def empty : Registry := ⟨Catalog.empty, 0, none⟩

instance : Inhabited Registry := ⟨empty⟩

structure Publication where
  outcome : Outcome
  registry : Registry
  warnings : List CatalogWarning

/-- Publish the catalog of a listing, or keep the old one if the listing failed. -/
def publish (singularize : String → String) (r : Registry)
    (listing : Except Failure (List ResourceReport)) : Publication :=
  match listing with
  | .error failure => ⟨.error (.transient .discovery failure), r, []⟩
  | .ok reports =>
    let generation := r.catalog.generation + 1
    let (catalog, warnings) := Catalog.build singularize generation reports
    ⟨.ok generation, { r with catalog }, warnings⟩

def conclude (r : Registry) (outcome : Outcome) : Registry :=
  { r with attempts := r.attempts + 1, lastOutcome := some outcome }

def ticket (r : Registry) : Nat := r.attempts

/-- The outcome that a waiting caller shares: the last one, if an attempt was completed since. -/
def joined? (r : Registry) (ticket : Nat) : Option Outcome :=
  if r.attempts = ticket then none else r.lastOutcome

end Registry
end ObjectMetrics
