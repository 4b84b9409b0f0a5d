import SiteClient.Proofs.Remote.LocalExchange
import SiteClient.Proofs.Remote.Outcome

/-!
# Dispatching to a local site is running its handlers

What it is to run the handlers of a site on some calls is told without batches, bodies and responses
(`LocalSite.Runs`): one handler after the other, with the state that the one before has left, up to
the first exception. A batch that is dispatched to the site comes to the same
(`Dispatcher.dispatch_runs_handlers`): to the same state, and to a result of each call that is what
its handler has returned, or the exception that has ended the run.

The reply of the site is as short as the run, and a short reply would fail the calls behind it as
missing responses. It does not come to that, because what ends a run early is an exception, which is
the last response of the reply (`LocalSite.Runs.settleFrom_eq`).
-/

namespace SiteClient

namespace LocalSite

variable {σ : Type} {handlers : List (Text × Handler σ)} {calls : List Call} {memory memory' : σ}
  {values : List Json} {failure : Option RemoteException}

/-! ## Running handlers -/

/-- Running the handlers on the calls, one after the other, gives values up to the first exception,
and leaves a state. -/
inductive Runs (handlers : List (Text × Handler σ)) :
    List Call → σ → List Json → Option RemoteException → σ → Prop
  /-- No call is left. -/
  | done (memory : σ) : Runs handlers [] memory [] none memory
  /-- The handler returns, and the next call meets the state that it has left. -/
  | returns {call : Call} {calls : List Call} {memory next last : σ}
      {handler : Handler σ} {v : Json}
      {values : List Json} {failure : Option RemoteException}
      (hhandler : handlers.lookup call.method = some handler)
      (hreturns : handler call.args memory = (.ok v, next))
      (hrest : Runs handlers calls next values failure last) :
      Runs handlers (call :: calls) memory (v :: values) failure last
  /-- The handler throws, and the calls behind are not looked at. -/
  | throws {call : Call} (calls : List Call) {memory last : σ} {handler : Handler σ}
      {e : RemoteException}
      (hhandler : handlers.lookup call.method = some handler)
      (hthrows : handler call.args memory = (.error e, last)) :
      Runs handlers (call :: calls) memory [] (some e) last
  /-- There is no handler, which counts as an exception. -/
  | unknown {call : Call} (calls : List Call) (memory : σ)
      (hhandler : handlers.lookup call.method = none) :
      Runs handlers (call :: calls) memory []
        (some { message := "Unknown function ".toList ++ call.method
                errorCode := some "servicenotavailable".toList }) memory

theorem exists_runs (handlers : List (Text × Handler σ)) (calls : List Call) (memory : σ) :
    ∃ values failure last, Runs handlers calls memory values failure last := by
  induction calls generalizing memory with
  | nil => exact ⟨_, _, _, .done memory⟩
  | cons call calls ih =>
    cases hhandler : handlers.lookup call.method with
    | none => exact ⟨_, _, _, .unknown calls memory hhandler⟩
    | some handler =>
      rcases hresult : handler call.args memory with ⟨e | v, next⟩
      · exact ⟨_, _, _, .throws calls hhandler hresult⟩
      · obtain ⟨values, failure, last, hrest⟩ := ih next
        exact ⟨_, _, _, .returns hhandler hresult hrest⟩

theorem Runs.unique {values' : List Json} {failure' : Option RemoteException} {last last' : σ}
    (h : Runs handlers calls memory values failure last)
    (h' : Runs handlers calls memory values' failure' last') :
    values = values' ∧ failure = failure' ∧ last = last' := by
  induction h generalizing values' failure' last' with
  | done => cases h' with
    | done => exact ⟨rfl, rfl, rfl⟩
  | returns hhandler hreturns _ ih => cases h' with
    | returns hhandler' hreturns' hrest' =>
      obtain rfl := Option.some.inj (hhandler.symm.trans hhandler')
      obtain ⟨hv, rfl⟩ := Prod.mk.inj (hreturns.symm.trans hreturns')
      obtain rfl := Except.ok.inj hv
      obtain ⟨rfl, rfl, rfl⟩ := ih hrest'
      exact ⟨rfl, rfl, rfl⟩
    | throws _ hhandler' hthrows' =>
      obtain rfl := Option.some.inj (hhandler.symm.trans hhandler')
      cases hreturns.symm.trans hthrows'
    | unknown _ _ hhandler' => cases hhandler.symm.trans hhandler'
  | throws calls hhandler hthrows => cases h' with
    | returns hhandler' hreturns' _ =>
      obtain rfl := Option.some.inj (hhandler.symm.trans hhandler')
      cases hthrows.symm.trans hreturns'
    | throws _ hhandler' hthrows' =>
      obtain rfl := Option.some.inj (hhandler.symm.trans hhandler')
      obtain ⟨he, rfl⟩ := Prod.mk.inj (hthrows.symm.trans hthrows')
      exact ⟨rfl, congrArg some (Except.error.inj he), rfl⟩
    | unknown _ _ hhandler' => cases hhandler.symm.trans hhandler'
  | unknown calls memory hhandler => cases h' with
    | returns hhandler' _ _ => cases hhandler.symm.trans hhandler'
    | throws _ hhandler' _ => cases hhandler.symm.trans hhandler'
    | unknown => exact ⟨rfl, rfl, rfl⟩

theorem invoke_of_some {r : CallRequest} {handler : Handler σ}
    {result : Except RemoteException Json × σ}
    (hhandler : handlers.lookup (callOf r).method = some handler)
    (hresult : handler (callOf r).args memory = result) :
    invoke handlers r.method r.args memory = result := by
  rw [← hresult, invoke, show handlers.lookup r.method = some handler from hhandler]
  rfl

theorem invoke_of_none {r : CallRequest} (hhandler : handlers.lookup (callOf r).method = none) :
    invoke handlers r.method r.args memory =
      (.error (unknownFunction (callOf r).method), memory) := by
  rw [invoke, show handlers.lookup r.method = none from hhandler]
  rfl

/-- The results of the calls of a run: the values, and from there on the exception. -/
def resultOf (values : List Json) (failure : Option RemoteException) (index : ℕ) :
    Option CallResult :=
  match values[index]? with
  | some v => some (.ok v)
  | none => failure.map fun e ↦ .error (.exception e)

def responsesOf (values : List Json) (failure : Option RemoteException) : List CallResponse :=
  values.map .success ++ (failure.map .failure).toList

theorem portable_responsesOf {n : ℕ} (hvalues : ∀ v ∈ values, v.Portable n)
    (failure : Option RemoteException) : ∀ r ∈ responsesOf values failure, r.data.Portable n := by
  intro r hr
  rcases List.mem_append.mp hr with hr | hr
  · obtain ⟨v, hv, rfl⟩ := List.mem_map.mp hr
    exact hvalues v hv
  · obtain ⟨e, -, rfl⟩ := Option.map_eq_some_iff.mp (Option.mem_toList.mp hr)
    exact ⟨trivial, trivial, Nat.zero_le n⟩

namespace Runs

/-- The site answers a batch by a run of its handlers. -/
theorem answerAll_eq (h : Runs handlers calls memory values failure memory')
    {requests : List CallRequest} (hrequests : requests.map callOf = calls) :
    answerAll handlers requests memory = (responsesOf values failure, memory') := by
  induction h generalizing requests with
  | done memory =>
    obtain rfl := List.map_eq_nil_iff.mp hrequests
    rfl
  | @returns call calls memory next last handler v values failure hhandler hreturns hrest ih =>
    obtain ⟨r, requests, rfl, rfl, hmore⟩ := List.map_eq_cons_iff.mp hrequests
    rw [answerAll, invoke_of_some hhandler hreturns]
    simp only [ih hmore]
    rfl
  | @throws call calls memory last handler e hhandler hthrows =>
    obtain ⟨r, requests, rfl, rfl, -⟩ := List.map_eq_cons_iff.mp hrequests
    rw [answerAll, invoke_of_some hhandler hthrows]
    rfl
  | unknown calls memory hhandler =>
    obtain ⟨r, requests, rfl, rfl, -⟩ := List.map_eq_cons_iff.mp hrequests
    rw [answerAll, invoke_of_none hhandler]
    rfl

/-- **A short reply ends with its exception**, so no call of the batch misses a response. -/
theorem settleFrom_eq (h : Runs handlers calls memory values failure memory') (place : ℕ)
    {index : ℕ} (hindex : index < calls.length) :
    (settleFrom place calls.length (responsesOf values failure))[index]? =
      resultOf values failure index := by
  -- A value fills one place; the exception of a call fills its place and all behind it.
  induction h generalizing place index with
  | done memory => exact absurd hindex (Nat.not_lt_zero _)
  | returns hhandler hreturns hrest ih =>
    cases index with
    | zero => rfl
    | succ index => exact ih (place + 1) (Nat.lt_of_succ_lt_succ hindex)
  | throws calls hhandler hthrows => exact List.getElem?_replicate_of_lt hindex
  | unknown calls memory hhandler => exact List.getElem?_replicate_of_lt hindex

end Runs

/-! ## Round trips -/

/-- What a batch leaves at the site, if its calls have been run: the batch has been recorded as it
was sent, and the handlers have left their state. -/
structure RunFrom (site : LocalSite σ) (calls : List Call) (last : σ) (site' : LocalSite σ) :
    Prop where
  handlers : site'.handlers = site.handlers
  failure : site'.failure = site.failure
  memory : site'.memory = last
  roundTrips : site'.roundTrips = site.roundTrips + 1
  recorded : ∃ batch, site'.batches = site.batches ++ [batch] ∧
    ∀ i : ℕ, batch[i]? = calls[i]?.map fun call ↦ ⟨i.toUInt64, call.method, call.args⟩

theorem roundTrip_of_runs {site : LocalSite σ}
    (hcalls : ∀ call ∈ calls, (Json.object call.args).Portable 125) (hworks : site.failure = none)
    (h : Runs site.handlers calls site.memory values failure memory') :
    (roundTrip (Wire.encodeRequests (Call.batch calls)) site).1 =
        .ok (Wire.encodeResponses (responsesOf values failure)) ∧
      RunFrom site calls memory' (roundTrip (Wire.encodeRequests (Call.batch calls)) site).2 := by
  rw [roundTrip_eq hcalls hworks, h.answerAll_eq (map_callOf_batch calls)]
  exact ⟨rfl, rfl, rfl, rfl, rfl, Call.batch calls, rfl, fun i ↦ List.getElem?_mapIdx⟩

end LocalSite

namespace Dispatcher

open LocalSite (Runs RunFrom resultOf responsesOf)

variable {σ : Type}

/-! ## Batches -/

/-- The batch has come to a run of the handlers of the site, as it was before, on the calls. The
site is as the run has left it, and each handle that is in hand has the result of its call for good.

The values go back in a reply, so they must be such as come back from their text. -/
def HasRun (site : LocalSite σ) (calls : List Call) (batch : ℕ) (inHand : ℕ → Prop)
    (d : Dispatcher (LocalSite σ)) : Prop :=
  ∃ values failure last, Runs site.handlers calls site.memory values failure last ∧
    ((∀ v ∈ values, v.Portable 125) →
      RunFrom site calls last d.site ∧
        ∀ index < calls.length, inHand index → ∃ r, resultOf values failure index = some r ∧
          d.Settled LocalSite.transport batch index r)

theorem hasRun_execute {d : Dispatcher (LocalSite σ)} {batch : ℕ} {f : Flight}
    (hcalls : ∀ call ∈ f.calls, (Json.object call.args).Portable 125)
    (hworks : d.site.failure = none)
    (hf : d.flights[batch]? = some f) (hlength : f.slots.length = f.calls.length)
    (hpending : f.pending) {inHand : ℕ → Prop}
    (hslots : ∀ index < f.calls.length, inHand index →
      ∃ slot, f.slots[index]? = some slot ∧ Idle (slot, f.pending) ∧ slot.taken = false) :
    HasRun d.site f.calls batch inHand (d.execute LocalSite.transport batch) := by
  obtain ⟨values, failure, last, hruns⟩ :=
    LocalSite.exists_runs d.site.handlers f.calls d.site.memory
  obtain ⟨hreply, hsite⟩ := LocalSite.roundTrip_of_runs hcalls hworks hruns
  refine ⟨values, failure, last, hruns, fun hvalues ↦ ⟨?_, fun index hindex hhand ↦ ?_⟩⟩
  · rw [execute_of_pending LocalSite.transport hf hpending]
    exact hsite
  · obtain ⟨slot, hslot, hidle, htaken⟩ := hslots index hindex hhand
    obtain ⟨r, hr, hsettled⟩ := settled_execute LocalSite.transport hf hslot hpending hidle htaken
    refine ⟨r, ?_, hsettled⟩
    have hresponses := Wire.decodeResponses_encodeResponses
      (LocalSite.portable_responsesOf hvalues failure)
    rw [← hruns.settleFrom_eq 0 hindex, ← hr, hlength, reply, LocalSite.transport, hreply, outcomes,
      Except.bind, hresponses]
    rfl

/-- **Dispatching a batch to a local site is running its handlers**, at once or when the pending
round trip is run, whatever has happened until then. -/
theorem dispatch_runs_handlers (d : Dispatcher (LocalSite σ)) {calls : List Call} (hne : calls ≠ [])
    (hcalls : ∀ call ∈ calls, (Json.object call.args).Portable 125) :
    let batch := d.flights.length
    (d.site.failure = none →
      HasRun d.site calls batch (fun _ ↦ True) (d.dispatch LocalSite.transport calls .blocking)) ∧
    ∀ later,
      let d' := (run LocalSite.transport (d.dispatch LocalSite.transport calls .async) later).2
      d'.site.failure = none → (∃ f, d'.flights[batch]? = some f ∧ f.pending) →
        HasRun d'.site calls batch (fun index ↦ later.any (Event.releases batch index) = false)
          (d'.execute LocalSite.transport batch) := by
  intro batch
  constructor
  · intro hworks
    have hlast : (d.enqueue calls).flights[batch]? = some (.start calls) :=
      d.flights_enqueue calls
    have hpending : (Flight.start calls).pending := by
      rwa [Flight.start, Bool.not_eq_true', List.isEmpty_eq_false_iff]
    refine hasRun_execute (d := d.enqueue calls) hcalls hworks hlast (List.length_map _) hpending
      fun index hindex _ ↦ ⟨{}, ?_, fun _ _ ↦ rfl, rfl⟩
    exact (List.getElem?_map).trans (congrArg _ (List.getElem?_eq_getElem hindex))
  · intro later d' hworks hflight
    obtain ⟨f, hf, hpending⟩ := hflight
    -- Whatever has happened, the handles wait for the batch as it was dispatched.
    have hhandle : ∀ index < calls.length, ∃ slot, f.calls = calls ∧ f.slots.length = calls.length ∧
        f.slots[index]? = some slot ∧ Idle (slot, f.pending) ∧
        (later.any (Event.releases batch index) = false → slot.taken = false) := by
      intro index hindex
      obtain ⟨events, hrun, hreleases⟩ :=
        exists_run_dispatch LocalSite.transport d calls .async later index
      obtain ⟨g, slot, hg, hgcalls, hlength, hslot, hidle, hheld⟩ :=
        exists_handle LocalSite.transport d events hindex
      rw [← hrun] at hg
      rw [hreleases] at hheld
      obtain rfl := Option.some.inj (hg.symm.trans hf)
      exact ⟨slot, hgcalls, hlength, hslot, hidle, hheld⟩
    obtain ⟨-, rfl, hlength, -⟩ := hhandle 0 (List.length_pos_of_ne_nil hne)
    refine hasRun_execute hcalls hworks hf hlength hpending fun index hindex hhand ↦ ?_
    obtain ⟨slot, -, -, hslot, hidle, hheld⟩ := hhandle index hindex
    exact ⟨slot, hslot, hidle, hheld hhand⟩

/-! ### A handler that counts -/

/-- What a handler throws that has been called often enough. -/
def enough : RemoteException where
  message := "enough".toList
  link := some []

/-- Counts the calls, and throws from the third one on. -/
def counting : Handler ℕ := fun _ n ↦
  (if n < 2 then .ok (.number (.ofUInt64 n.toUInt64)) else .error enough, n + 1)

/-- A dispatcher over a site that counts. -/
def beforeCounting : Dispatcher (LocalSite ℕ) where
  site := { handlers := [("count".toList, counting)], memory := 0 }

def fourCalls : List Call :=
  List.replicate 4 { method := "count".toList }

theorem dispatch_runs_handlers_of_counting :
    let d := beforeCounting.dispatch LocalSite.transport fourCalls
    (d .blocking).site.memory = 3 ∧
      (d .blocking).Settled LocalSite.transport 0 1 (.ok (.number (.ofUInt64 1))) ∧
      (d .blocking).Settled LocalSite.transport 0 3 (.error (.exception enough)) ∧
      ((run LocalSite.transport (d .async) [.drop 0 1]).2.execute LocalSite.transport 0).Settled
        LocalSite.transport 0 0 (.ok (.number (.ofUInt64 0))) := by
  have hruns : Runs beforeCounting.site.handlers fourCalls 0
      [.number (.ofUInt64 0), .number (.ofUInt64 1)] (some enough) 3 :=
    .returns rfl rfl (.returns rfl rfl (.throws _ rfl rfl))
  have hvalues : ∀ v ∈ [Json.number (.ofUInt64 0), .number (.ofUInt64 1)], v.Portable 125 :=
    List.forall_mem_cons.mpr ⟨⟨trivial, trivial, Nat.zero_le _⟩,
      List.forall_mem_singleton.mpr ⟨trivial, trivial, Nat.zero_le _⟩⟩
  obtain ⟨hblocking, hasync⟩ := dispatch_runs_handlers beforeCounting
    (show fourCalls ≠ [] by decide) (by
      rintro call hcall
      obtain rfl := List.eq_of_mem_replicate hcall
      exact ⟨trivial, ⟨.nil, trivial⟩, by decide⟩)
  obtain ⟨_, _, _, hruns', hrun⟩ := hblocking rfl
  obtain ⟨rfl, rfl, rfl⟩ := hruns.unique hruns'
  obtain ⟨hsite, hsettled⟩ := hrun hvalues
  obtain ⟨_, _, _, hruns'', hrun'⟩ := hasync [.drop 0 1] rfl ⟨_, rfl, rfl⟩
  obtain ⟨rfl, rfl, rfl⟩ := hruns.unique hruns''
  obtain ⟨-, hsettled'⟩ := hrun' hvalues
  obtain ⟨_, hr, hone⟩ := hsettled 1 (by decide) trivial
  obtain rfl := Option.some.inj hr
  obtain ⟨_, hr, hthree⟩ := hsettled 3 (by decide) trivial
  obtain rfl := Option.some.inj hr
  obtain ⟨_, hr, hzero⟩ := hsettled' 0 (by decide) rfl
  obtain rfl := Option.some.inj hr
  exact ⟨hsite.memory, hone, hthree, hzero⟩

end Dispatcher
end SiteClient
