import SiteClient.Localized.Loader
import SiteClient.Proofs.Remote.Caching
import SiteClient.Proofs.Remote.RoundTrips
/-!
# How strings are looked up

A lookup reads the cache twice. What it lacks the first time it asks for, in one call, and it stores
the texts that arrive; the second time it takes the texts for its requests (`lookup_eq`). Each
string that it asked for was stored before it reads again, by itself or by another lookup, and
nothing is ever taken out of the cache. So the second time nothing is lacking, and every request has
a text (`mapM_fulfil`).
-/

namespace SiteClient.Localized

/-! ## What is asked for -/

def idsOf (requests : List StringRequest) : List StringId :=
  requests.map StringRequest.id

theorem missing_eq (cache : StringCache) (requests : List StringRequest) :
    cache.missing requests = lacking cache (idsOf requests) := by
  induction requests using List.reverseRecOn with
  | nil => rfl
  | append_singleton requests r ih =>
    have hstep : cache.missing (requests ++ [r]) =
        if (cache.get? r.id).isSome || r.id ∈ cache.missing requests then cache.missing requests
        else cache.missing requests ++ [r.id] := by
      rw [StringCache.missing, List.foldl_concat]
      rfl
    have hids : idsOf (requests ++ [r]) = idsOf requests ++ [r.id] := List.map_append
    rw [hstep, ih, hids, lacking_concat]
    refine if_congr ?_ rfl rfl
    rw [Bool.or_eq_true, decide_eq_true_eq]
    rfl

theorem loadCall_inj {ids others : List StringId} (h : loadCall ids = loadCall others) :
    ids = others := by
  have hargs : (loadCall ids).args.get? "strings".toList =
      (loadCall others).args.get? "strings".toList := by rw [h]
  rw [loadCall, loadCall, Call.arg, Call.arg, Fields.get?_insert_self, Fields.get?_insert_self,
    Option.some_inj, Json.array.injEq] at hargs
  refine (List.map_inj_right fun id other hid ↦ ?_).mp hargs
  have hfields :
      [("component".toList, Json.string id.component), ("stringid".toList, .string id.key)] =
        [("component".toList, Json.string other.component),
          ("stringid".toList, .string other.key)] :=
    Json.object.inj hid
  simp only [List.cons.injEq, Prod.mk.injEq, Json.string.injEq, true_and, and_true] at hfields
  cases id
  cases other
  simpa only [StringId.mk.injEq] using hfields

/-! ## What arrives -/

theorem length_of_received {ids : List StringId} {result : CallResult} {found : List Text}
    (h : received ids result = .ok found) : found.length = ids.length := by
  unfold received at h
  cases result with
  | error e => exact absurd h (by simp [bind, Except.bind])
  | ok payload =>
    cases htexts : texts payload with
    | error e => exact absurd h (by simp [bind, Except.bind, htexts])
    | ok entries =>
      simp only [bind, Except.bind, htexts] at h
      split at h
      · rename_i hlength
        rwa [← Except.ok.inj h]
      · exact absurd h (by simp [throw, throwThe, MonadExceptOf.throw])

/-- What is done with the texts received for strings. -/
def storeReceived (ids : List StringId) :
    Except RemoteError (List Text) → Job StringCache (Except RemoteError Unit)
  | .error e => .pure (.error e)
  | .ok found => .access (fun cache ↦ insertAll cache (ids.zip found)) fun _ ↦ .pure (.ok ())

theorem loadMissing_eq (requests : List StringRequest) :
    loadMissing requests = .access id fun cache ↦
      if lacking cache (idsOf requests) = [] then .pure (.ok ())
      else .request [loadCall (lacking cache (idsOf requests))] fun results ↦
        storeReceived (lacking cache (idsOf requests))
          (received (lacking cache (idsOf requests)) (results.headD (.error .dropped))) := by
  refine congrArg (Job.access id) (funext fun cache ↦ ?_)
  simp only [Job.bind, missing_eq]
  split
  · rfl
  · refine congrArg (Job.request _) (funext fun results ↦ ?_)
    simp only [Job.bind]
    cases received (lacking cache (idsOf requests)) (results.headD (.error .dropped)) <;> rfl

/-! ## The texts for requests -/

/-- Takes the texts for requests out of the cache. -/
def readTexts (requests : List StringRequest) : Job StringCache (Except RemoteError (List Text)) :=
  .access id fun cache ↦ .pure (requests.mapM (fulfil cache))

theorem lookup_eq (requests : List StringRequest) :
    lookup requests = .access id fun cache ↦
      if lacking cache (idsOf requests) = [] then readTexts requests
      else .request [loadCall (lacking cache (idsOf requests))] fun results ↦
        (storeReceived (lacking cache (idsOf requests))
          (received (lacking cache (idsOf requests)) (results.headD (.error .dropped)))).andThen
            fun () ↦ readTexts requests := by
  rw [lookup, loadMissing_eq]
  refine congrArg (Job.access id) (funext fun cache ↦ ?_)
  by_cases hnone : lacking cache (idsOf requests) = []
  · simp only [if_pos hnone]
    rfl
  · simp only [if_neg hnone]
    rfl

/-- The texts that a cache has for requests, filled with their parameters. -/
def filled (cache : StringCache) (requests : List StringRequest) : List Text :=
  requests.map fun r ↦ format ((cache.get? r.id).getD []) r.param

theorem mapM_fulfil {cache : StringCache} {requests : List StringRequest}
    (h : ∀ id ∈ idsOf requests, (cache.lookup id).isSome) :
    requests.mapM (fulfil cache) = .ok (filled cache requests) := by
  induction requests with
  | nil => rfl
  | cons r requests ih =>
    obtain ⟨hr, hrest⟩ := List.forall_mem_cons.mp h
    obtain ⟨text, htext⟩ := Option.isSome_iff_exists.mp hr
    have hfulfil : fulfil cache r = .ok (format ((cache.get? r.id).getD []) r.param) := by
      rw [fulfil, StringCache.get?, htext]
      rfl
    rw [List.mapM_cons, hfulfil, ih hrest]
    rfl

theorem filled_of_extends {cache later : StringCache} {requests : List StringRequest}
    (h : ∀ id ∈ idsOf requests, (cache.lookup id).isSome) (hlater : Extends cache later) :
    filled later requests = filled cache requests := by
  refine List.map_congr_left fun r hr ↦ ?_
  obtain ⟨text, htext⟩ := Option.isSome_iff_exists.mp (h r.id (List.mem_map_of_mem hr))
  rw [StringCache.get?, StringCache.get?, htext, hlater htext]

/-! ## A lookup on its own -/

/-- The round trip of a lookup: one call for what the cache lacks, or none. -/
def stringTrips (cache : StringCache) (requests : List StringRequest) : List (List Call) :=
  if lacking cache (idsOf requests) = [] then [] else [[loadCall (lacking cache (idsOf requests))]]

theorem length_stringTrips_le (cache : StringCache) (requests : List StringRequest) :
    (stringTrips cache requests).length ≤ 1 := by
  unfold stringTrips
  split
  · exact Nat.zero_le 1
  · exact Nat.le_refl 1

theorem stringTrips_eq_nil {cache : StringCache} {requests : List StringRequest}
    (h : ∀ id ∈ idsOf requests, (cache.lookup id).isSome) : stringTrips cache requests = [] :=
  if_pos (lacking_eq_nil.mpr h)

section Run

variable {ω : Type} (transport : Transport ω) (requests : List StringRequest) (cache : StringCache)
  (site : ω)

theorem trips_storeReceived (ids : List StringId) (found : Except RemoteError (List Text)) :
    ((storeReceived ids found).andThen fun () ↦ readTexts requests).trips transport cache site =
      [] := by
  cases found <;> rfl

theorem trips_lookup :
    (lookup requests).trips transport cache site = stringTrips cache requests := by
  rw [lookup_eq, Job.trips, id, stringTrips]
  split
  · rfl
  · rw [Job.trips, trips_storeReceived]
    rfl

variable {transport requests cache site}

/-- After a lookup that succeeded the cache has all that was requested. -/
theorem isSome_of_run_lookup {found : List Text}
    (h : ((lookup requests).run transport cache site).1 = .ok found) :
    ∀ id ∈ idsOf requests, (((lookup requests).run transport cache site).2.1.lookup id).isSome := by
  rw [lookup_eq, Job.run, id] at h ⊢
  by_cases hnone : lacking cache (idsOf requests) = []
  · rw [if_pos hnone]
    exact lacking_eq_nil.mp hnone
  · rw [if_neg hnone, Job.run] at h ⊢
    cases hreceived : received (lacking cache (idsOf requests))
        ((transport.exchange [loadCall (lacking cache (idsOf requests))] site).1.headD
          (.error .dropped)) with
    | error e =>
      simp only [hreceived] at h
      exact absurd h (by simp [storeReceived, Job.andThen, Job.bind, Job.run])
    | ok texts =>
      simp only [hreceived]
      exact isSome_insertAll_lacking (refl_of Extends cache) (length_of_received hreceived)

end Run

end SiteClient.Localized
