import SiteClient.Localized.Loader
/-!
# Resolving strings

Where the texts for a list of string requests come from: from the site, from a list given in
advance, or from nowhere. The requests are recorded.
-/

namespace SiteClient

/-- Where strings come from. -/
inductive StringSource where
  /-- From the site, by way of the cache. -/
  | site
  /-- From a list, whatever is requested. -/
  | given (texts : List Text)
  | failing (e : RemoteError)

/-- The strings that have been loaded and the lists of requests that have been made, oldest
first. -/
structure StringMemory where
  cache : StringCache := []
  requested : List (List StringRequest) := []

namespace StringSource

/-- The texts for requests. -/
def resolve (source : StringSource) (requests : List StringRequest) :
    Job StringMemory (Except RemoteError (List Text)) := do
  Job.modify fun m ↦ { m with requested := m.requested ++ [requests] }
  match source with
  | .failing e => return .error e
  | .given texts => return .ok texts
  | .site => (Localized.lookup requests).zoom StringMemory.cache fun cache m ↦ { m with cache }

end StringSource
end SiteClient
