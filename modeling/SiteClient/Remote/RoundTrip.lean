import SiteClient.Remote.Wire
/-!
# Round trips

One round trip carries one batch to the site and brings back one result for each of its calls. The
responses of the reply are matched to the calls by their place. The first response that is missing
or failed decides about its own call and all later ones, whatever their responses say
(`length_settle`, `settle_append`).
-/

namespace SiteClient

/-- The result of a call: what the site answered, or why there is no answer. -/
abbrev CallResult := Except RemoteError Json

/-- The exception of a failed response that states none. -/
def RemoteException.unknown : RemoteException :=
  { message := "Unknown remote error".toList }

/-- The results of the `count` calls at places from `place` on, by the responses to them. -/
def settleFrom (place : Nat) : (count : Nat) → List CallResponse → List CallResult
  | 0, _ => []
  | count + 1, [] => List.replicate (count + 1) (.error (.missingResponse place))
  | count + 1, r :: rest =>
    if r.error then
      List.replicate (count + 1) (.error (.exception (r.exception.getD .unknown)))
    else .ok r.data :: settleFrom (place + 1) count rest

/-- The results of a batch of `count` calls by the responses of the reply. -/
def settle (count : Nat) (responses : List CallResponse) : List CallResult :=
  settleFrom 0 count responses

@[simp] theorem length_settleFrom (place count : Nat) (responses : List CallResponse) :
    (settleFrom place count responses).length = count := by
  fun_induction settleFrom place count responses <;> simp_all

@[simp] theorem length_settle (count : Nat) (responses : List CallResponse) :
    (settle count responses).length = count :=
  length_settleFrom 0 count responses

/-- The results of a batch of `count` calls by what came of its round trip. A round trip without a
reply, or with one that cannot be read, fails every call alike. -/
def outcomes (count : Nat) (reply : Except RemoteError Body) : List CallResult :=
  match reply.bind Wire.decodeResponses with
  | .error e => List.replicate count (.error e)
  | .ok responses => settle count responses

@[simp] theorem length_outcomes (count : Nat) (reply : Except RemoteError Body) :
    (outcomes count reply).length = count := by
  unfold outcomes
  split <;> simp

/-- A way to move a body to the other side and the reply back. The other side has a state of type
`ω`. -/
structure Transport (ω : Type) where
  name : Text
  roundTrip : Body → ω → Except RemoteError Body × ω

/-- Sends calls as one batch. No calls, no round trip. -/
def Transport.exchange {ω : Type} (transport : Transport ω) (calls : List Call) (site : ω) :
    List CallResult × ω :=
  if calls = [] then ([], site)
  else
    let (reply, site) := transport.roundTrip (Wire.encodeRequests (Call.batch calls)) site
    (outcomes calls.length reply, site)

/-- Sends one call as a batch of its own. -/
def Transport.exchangeOne {ω : Type} (transport : Transport ω) (call : Call) (site : ω) :
    CallResult × ω :=
  let (results, site) := transport.exchange [call] site
  (results.headD (.error .dropped), site)

/-- Takes the result of a call of `method` for a value of type `α`. -/
def CallResult.payload {α : Type} (decoder : Decoder α) (method : Text) (result : CallResult) :
    Except RemoteError α := do
  let v ← result
  (decoder.convert v).mapError fun e ↦
    .serialization ("unexpected payload from ".toList ++ method ++ ": ".toList ++ e.message)

end SiteClient
