import ObjectMetrics.Adapter.Basic
import ObjectMetrics.Registry.Flight
/-!
Regenerations that several callers ask for at the same time. While the first caller's fetch is
outstanding the adapter goes on answering from its catalog; when the fetch comes back, the discovery
source is listed once for all of them.
-/
namespace ObjectMetrics
namespace Flight

/-- Callers that arrive together, the first of which gets the lock and starts to fetch. -/
def takeOff (callers : Nat) : List FlightStep := List.replicate callers .arrive ++ [.acquire 0]

/-- The first caller's fetch comes back, and the others get the lock one after another. -/
def landing (callers : Nat) (listing : Except Failure (List ResourceReport)) : List FlightStep :=
  [.fetched 0 listing, .release 0] ++ ((List.range callers).drop 1).map .acquire

end Flight

namespace Adapter

def holdFetch (a : Adapter) (callers : Nat) : Flight :=
  (Flight.ofRegistry a.registry).run a.settings.inflection.singular (Flight.takeOff callers)

def landFetch (a : Adapter) (held : Flight) : List Outcome × Adapter :=
  let singularize := a.settings.inflection.singular
  let landed := held.run singularize (Flight.landing held.callers.length a.discovery.listing)
  if held.fetches = 0 then (landed.outcomes, a)
  else
    let noted := a.noteListing (held.registry.publish singularize a.discovery.listing)
    (landed.outcomes, { noted with registry := landed.registry })

end Adapter
end ObjectMetrics
