import SiteClient.Proofs.Remote.Messages
import SiteClient.Remote.LocalSite
/-!
# Round trips to a local site

A batch sent to a local site is the batch its handlers run on, and the responses that come back are
theirs: `LocalSite.exchange_eq`. So a round trip is no more than the handlers run in order, with
their state.

A handler may keep a state and still give answers that depend on its arguments only. Then the
results of a batch are the answers to its calls, up to the first exception
(`LocalSite.exchange_of_answers`).
-/

namespace SiteClient.LocalSite

variable {σ : Type}

theorem decodeRequests_batch {calls : List Call}
    (hcalls : ∀ call ∈ calls, (Json.object call.args).Portable 125) :
    Wire.decodeRequests (Wire.encodeRequests (Call.batch calls)) = .ok (Call.batch calls) := by
  refine Wire.decodeRequests_encodeRequests fun r hr ↦ ?_
  obtain ⟨i, hi, rfl⟩ := List.mem_mapIdx.1 hr
  exact hcalls _ (List.getElem_mem hi)

/-- **A round trip runs the handlers.** The site reads the requests that were written, and replies
with what the handlers answer. -/
theorem roundTrip_eq {calls : List Call} {site : LocalSite σ}
    (hcalls : ∀ call ∈ calls, (Json.object call.args).Portable 125) (hworks : site.failure = none) :
    roundTrip (Wire.encodeRequests (Call.batch calls)) site =
      (.ok (Wire.encodeResponses (answerAll site.handlers (Call.batch calls) site.memory).1),
        { site with
          roundTrips := site.roundTrips + 1
          batches := site.batches ++ [Call.batch calls]
          memory := (answerAll site.handlers (Call.batch calls) site.memory).2 }) := by
  simp only [roundTrip, decodeRequests_batch hcalls, hworks]

/-- A site that is told to fail counts and records the round trip, and leaves it at that. -/
theorem roundTrip_of_failure {calls : List Call} {site : LocalSite σ} {e : RemoteError}
    (hcalls : ∀ call ∈ calls, (Json.object call.args).Portable 125)
    (hfails : site.failure = some e) :
    roundTrip (Wire.encodeRequests (Call.batch calls)) site =
      (.error e,
        { site with
          roundTrips := site.roundTrips + 1
          batches := site.batches ++ [Call.batch calls] }) := by
  simp only [roundTrip, decodeRequests_batch hcalls, hfails]

theorem exchange_eq {calls : List Call} {site : LocalSite σ} (hne : calls ≠ [])
    (hcalls : ∀ call ∈ calls, (Json.object call.args).Portable 125) (hworks : site.failure = none)
    (hanswers : ∀ r ∈ (answerAll site.handlers (Call.batch calls) site.memory).1,
      r.data.Portable 125) :
    transport.exchange calls site =
      (settle calls.length (answerAll site.handlers (Call.batch calls) site.memory).1,
        { site with
          roundTrips := site.roundTrips + 1
          batches := site.batches ++ [Call.batch calls]
          memory := (answerAll site.handlers (Call.batch calls) site.memory).2 }) := by
  rw [Transport.exchange, if_neg hne]
  simp only [transport, roundTrip_eq hcalls hworks, outcomes, Except.bind,
    Wire.decodeResponses_encodeResponses hanswers]

/-! ## Answers that depend on the arguments -/

/-- The results of calls by their answers: what follows the first exception fails with it. -/
def cutOff : List (Except RemoteException Json) → List CallResult
  | [] => []
  | .ok v :: rest => .ok v :: cutOff rest
  | .error e :: rest => List.replicate (rest.length + 1) (.error (.exception e))

/-- Whatever their state, the handlers answer the call so. -/
def Answers (handlers : List (Text × Handler σ)) (call : Call)
    (answer : Except RemoteException Json) : Prop :=
  ∀ memory, (invoke handlers call.method call.args memory).1 = answer

def callOf (r : CallRequest) : Call :=
  ⟨r.method, r.args⟩

theorem map_callOf_batch (calls : List Call) : (Call.batch calls).map callOf = calls := by
  refine List.ext_getElem? fun i ↦ ?_
  rw [List.getElem?_map, Call.batch, List.getElem?_mapIdx]
  cases calls[i]? <;> rfl

section

variable {handlers : List (Text × Handler σ)} {answer : Call → Except RemoteException Json}
  {requests : List CallRequest}

theorem settleFrom_answerAll (h : ∀ r ∈ requests, Answers handlers (callOf r) (answer (callOf r)))
    (place : ℕ) (memory : σ) :
    settleFrom place requests.length (answerAll handlers requests memory).1 =
      cutOff (requests.map fun r ↦ answer (callOf r)) := by
  induction requests generalizing place memory with
  | nil => rfl
  | cons r requests ih =>
    have hr : (invoke handlers r.method r.args memory).1 = answer (callOf r) :=
      h r List.mem_cons_self memory
    have hrest := ih fun r' hr' ↦ h r' (List.mem_cons_of_mem r hr')
    rw [answerAll, List.map_cons, ← hr]
    cases invoke handlers r.method r.args memory with
    | mk result memory' =>
      cases result with
      | error e =>
        -- The reply ends here, and what follows fails with the same exception.
        rw [cutOff, List.length_map]
        rfl
      | ok v =>
        rw [cutOff, ← hrest (place + 1) memory']
        rfl

theorem portable_answerAll {n : ℕ}
    (h : ∀ r ∈ requests, Answers handlers (callOf r) (answer (callOf r)))
    (hanswer : ∀ r ∈ requests, ∀ v, answer (callOf r) = .ok v → v.Portable n) (memory : σ) :
    ∀ r ∈ (answerAll handlers requests memory).1, r.data.Portable n := by
  induction requests generalizing memory with
  | nil => exact fun r hr ↦ absurd hr List.not_mem_nil
  | cons r requests ih =>
    have hr : (invoke handlers r.method r.args memory).1 = answer (callOf r) :=
      h r List.mem_cons_self memory
    have hv := hanswer r List.mem_cons_self
    rw [answerAll]
    rw [← hr] at hv
    cases hinvoke : invoke handlers r.method r.args memory with
    | mk result memory' =>
      rw [hinvoke] at hv
      cases result with
      | error e =>
        intro response hresponse
        obtain rfl := List.mem_singleton.1 hresponse
        exact ⟨trivial, trivial, Nat.zero_le n⟩
      | ok v =>
        intro response hresponse
        obtain rfl | hresponse := List.mem_cons.1 hresponse
        · exact hv v rfl
        · exact ih (fun r' hr' ↦ h r' (List.mem_cons_of_mem r hr'))
            (fun r' hr' ↦ hanswer r' (List.mem_cons_of_mem r hr')) memory' response hresponse

end

/-- The results of a batch are the answers to its calls, and the site goes on with the same
handlers. -/
theorem exchange_of_answers {calls : List Call} {answer : Call → Except RemoteException Json}
    {site : LocalSite σ} (hne : calls ≠ [])
    (hcalls : ∀ call ∈ calls, (Json.object call.args).Portable 125) (hworks : site.failure = none)
    (h : ∀ call ∈ calls, Answers site.handlers call (answer call))
    (hanswer : ∀ call ∈ calls, ∀ v, answer call = .ok v → v.Portable 125) :
    (transport.exchange calls site).1 = cutOff (calls.map answer) ∧
      (transport.exchange calls site).2.handlers = site.handlers ∧
      (transport.exchange calls site).2.failure = none := by
  have hmem : ∀ r ∈ Call.batch calls, callOf r ∈ calls := by
    intro r hr
    have hcall : callOf r ∈ (Call.batch calls).map callOf := List.mem_map_of_mem hr
    rwa [map_callOf_batch] at hcall
  have hlength : calls.length = (Call.batch calls).length := by
    rw [Call.batch, List.length_mapIdx]
  have hresults : (Call.batch calls).map (answer ∘ callOf) = calls.map answer := by
    rw [← List.map_map, map_callOf_batch]
  rw [exchange_eq hne hcalls hworks (portable_answerAll (fun r hr ↦ h _ (hmem r hr))
    (fun r hr ↦ hanswer _ (hmem r hr)) site.memory)]
  refine ⟨?_, rfl, hworks⟩
  rw [settle, hlength, settleFrom_answerAll fun r hr ↦ h _ (hmem r hr), ← hresults]
  rfl

end SiteClient.LocalSite
