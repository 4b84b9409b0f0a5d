import SiteClient.Remote.Message
/-!
# Why a call has no result
-/

namespace SiteClient

/-- Why a call has no result. -/
inductive RemoteError where
  /-- The round trip produced no usable reply. -/
  | transport (reason : Text)
  /-- The reply ended before the response at this place. -/
  | missingResponse (index : Nat)
  /-- The site reported an exception. -/
  | exception (e : RemoteException)
  /-- A message or a value had another shape than expected. -/
  | serialization (reason : Text)
  /-- The round trip was given up before the call had a result. -/
  | dropped
  deriving DecidableEq, Repr

namespace RemoteError

def message : RemoteError → Text
  | .transport reason => "transport failure: ".toList ++ reason
  | .missingResponse index => "missing response for call ".toList ++ Text.ofNat index
  | .exception e => "remote exception: ".toList ++ e.display
  | .serialization reason => "serialization failure: ".toList ++ reason
  | .dropped => "call was dropped before it settled".toList

/-- The error for a text that is not the JSON it should be. -/
def ofRead (e : ReadError) : RemoteError :=
  .serialization e.message

end RemoteError
end SiteClient
