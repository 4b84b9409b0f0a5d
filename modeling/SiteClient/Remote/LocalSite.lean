import SiteClient.Remote.RoundTrip
/-!
# A site in the same process

A site that answers calls by handlers registered for their methods. It treats a batch as a remote
site does: the calls run in order, and the first exception ends the batch, so the reply stops behind
it. Every round trip is counted and its batch recorded, also while the site is told to fail.

Handlers share a state of type `σ` and may change it.
-/

namespace SiteClient

/-- Answers the arguments of a call. -/
abbrev Handler (σ : Type) := Fields → σ → Except RemoteException Json × σ

/-- A site in the same process. -/
structure LocalSite (σ : Type) where
  handlers : List (Text × Handler σ) := []
  memory : σ
  roundTrips : Nat := 0
  /-- The batches received and not taken away, oldest first. -/
  batches : List (List CallRequest) := []
  /-- The error that round trips fail with for now. -/
  failure : Option RemoteError := none

namespace LocalSite

variable {σ : Type}

/-- Registers a handler for a method, in the place of an earlier one. -/
def register (site : LocalSite σ) (method : Text) (handler : Handler σ) : LocalSite σ :=
  { site with handlers := (method, handler) :: site.handlers.filter fun h ↦ h.1 ≠ method }

/-- Lets every round trip fail from now on. -/
def failWith (site : LocalSite σ) (e : RemoteError) : LocalSite σ :=
  { site with failure := some e }

/-- Lets round trips succeed again. -/
def clearFailure (site : LocalSite σ) : LocalSite σ :=
  { site with failure := none }

/-- The recorded batches, which are forgotten. -/
def takeBatches (site : LocalSite σ) : List (List CallRequest) × LocalSite σ :=
  (site.batches, { site with batches := [] })

/-- The exception for a method without handler. -/
def unknownFunction (method : Text) : RemoteException where
  message := "Unknown function ".toList ++ method
  errorCode := some "servicenotavailable".toList

/-- Answers one call. -/
def invoke (handlers : List (Text × Handler σ)) (method : Text) (args : Fields) (memory : σ) :
    Except RemoteException Json × σ :=
  match handlers.lookup method with
  | some handler => handler args memory
  | none => (.error (unknownFunction method), memory)

/-- Answers requests in order, up to and including the first one that fails. -/
def answerAll (handlers : List (Text × Handler σ)) :
    List CallRequest → σ → List CallResponse × σ
  | [], memory => ([], memory)
  | r :: rest, memory =>
    match invoke handlers r.method r.args memory with
    | (.error e, memory) => ([.failure e], memory)
    | (.ok data, memory) =>
      let (responses, memory) := answerAll handlers rest memory
      (.success data :: responses, memory)

/-- Answers a body. The round trip counts even if the body cannot be read, and its batch is recorded
even if the site is told to fail. -/
def roundTrip (body : Body) (site : LocalSite σ) : Except RemoteError Body × LocalSite σ :=
  let site := { site with roundTrips := site.roundTrips + 1 }
  match Wire.decodeRequests body with
  | .error e => (.error e, site)
  | .ok requests =>
    let site := { site with batches := site.batches ++ [requests] }
    match site.failure with
    | some e => (.error e, site)
    | none =>
      let (responses, memory) := answerAll site.handlers requests site.memory
      (.ok (Wire.encodeResponses responses), { site with memory })

def transport : Transport (LocalSite σ) where
  name := "Local".toList
  roundTrip := roundTrip

end LocalSite
end SiteClient
