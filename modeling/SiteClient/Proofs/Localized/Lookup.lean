import SiteClient.Proofs.Json.Decoding
import SiteClient.Proofs.Localized.Sharing
/-!
# What a lookup comes to

When no other lookup uses the cache, the one call of a lookup settles it. If its result has one text
for each string that was asked for, all of them are added to the cache, and every request gets the
text of its string, filled with its own parameter. Whatever else the result is, nothing is added
(`lookup_alone`).

Strings are asked for in the order in which they were first requested, each once, and requests find
their texts by the strings and not by their places. So it does not matter how requests for cached,
missing and repeated strings are mixed.
-/

namespace SiteClient.Localized

/-! ## The call -/

/-- The entry of a call names the string. -/
def Names (id : StringId) (entry : Json) : Prop :=
  ∃ fields, entry = .object fields ∧
    Fields.get? fields "component".toList = some (.string id.component) ∧
    Fields.get? fields "stringid".toList = some (.string id.key)

/-- The call asks for the strings, in this order, and for nothing else. -/
structure Asks (ids : List StringId) (call : Call) : Prop where
  method_eq : call.method = "core_get_strings".toList
  args_eq : ∃ entries, call.args = [("strings".toList, .array entries)] ∧
    List.Forall₂ Names ids entries

theorem asks_loadCall (ids : List StringId) : Asks ids (loadCall ids) where
  method_eq := rfl
  args_eq := by
    refine ⟨_, rfl, ?_⟩
    rw [List.forall₂_map_right_iff, List.forall₂_same]
    exact fun id _ ↦ ⟨_, rfl, rfl, rfl⟩

/-- The round trips of a lookup: one, with one call for all of the strings, or none if there are no
strings. -/
def AskedOnce (ids : List StringId) (trips : List (List Call)) : Prop :=
  if ids = [] then trips = [] else ∃ call, Asks ids call ∧ trips = [[call]]

theorem askedOnce_stringTrips (cache : StringCache) (requests : List StringRequest) :
    AskedOnce (lacking cache (idsOf requests)) (stringTrips cache requests) := by
  unfold AskedOnce stringTrips
  split
  · rfl
  · exact ⟨_, asks_loadCall _, rfl⟩

/-! ## Its result -/

/-- The entry of an answer is the text, or a record with the text in it. -/
inductive Gives : Json → Text → Prop
  | text (t : Text) : Gives (.string t) t
  | record {fields : Fields} {t : Text}
      (h : Fields.get? fields "string".toList = some (.string t)) : Gives (.object fields) t

/-- The call is fulfilled with a list of these texts, one for each string. -/
structure Supplies (ids : List StringId) (result : CallResult) (texts : List Text) : Prop where
  payload_eq : ∃ entries, result = .ok (.array entries) ∧ List.Forall₂ Gives entries texts
  length_eq : texts.length = ids.length

variable {ids : List StringId} {result : CallResult} {found : List Text} {e : RemoteError}

theorem entryText_eq_ok_iff {entry : Json} {t : Text} :
    entryText entry = .ok t ↔ Gives entry t := by
  constructor
  · intro h
    unfold entryText at h
    split at h
    · obtain rfl := Except.ok.inj h
      exact .text _
    · split at h
      · rename_i hfield
        obtain rfl := Except.ok.inj h
        exact .record hfield
      · cases h
    · cases h
  · rintro (_ | hfield)
    · rfl
    · rw [entryText, hfield]

theorem mapM_entryText_eq_ok_iff {entries : List Json} :
    entries.mapM entryText = .ok found ↔ List.Forall₂ Gives entries found := by
  constructor
  · exact fun h ↦ (Decoder.forall₂_of_mapM h).imp fun _ _ ↦ entryText_eq_ok_iff.mp
  · intro h
    induction h with
    | nil => rfl
    | cons hentry _ ih =>
      rw [List.mapM_cons, entryText_eq_ok_iff.mpr hentry, ih]
      rfl

theorem received_eq_ok_iff : received ids result = .ok found ↔ Supplies ids result found := by
  constructor
  · intro h
    refine ⟨?_, length_of_received h⟩
    obtain ⟨payload, rfl, hpayload⟩ := exists_of_bind h
    obtain ⟨given, htexts, hgiven⟩ := exists_of_bind hpayload
    split at hgiven
    · obtain rfl := Except.ok.inj hgiven
      cases payload with
      | array entries => exact ⟨entries, rfl, mapM_entryText_eq_ok_iff.mp htexts⟩
      | null | bool b | number n | string t | object fields => cases htexts
    · cases hgiven
  · rintro ⟨⟨entries, rfl, hentries⟩, hlength⟩
    have htexts : texts (.array entries) = .ok found := mapM_entryText_eq_ok_iff.mpr hentries
    simp only [received, bind, Except.bind, htexts, if_pos hlength]
    rfl

/-- What is wrong with an answer is the error of the call, or told of its payload. -/
theorem eq_of_received_eq_error (h : received ids result = .error e) :
    result = .error e ∨ (∃ payload, result = .ok payload) ∧ ∀ id, e ≠ lostError id := by
  cases result with
  | error e' =>
    obtain rfl : e' = e := by simpa [received, bind, Except.bind] using h
    exact .inl rfl
  | ok payload =>
    refine .inr ⟨⟨payload, rfl⟩, ?_⟩
    rintro id rfl
    exact received_ne_lostError ids payload id h

/-! ## The lookup -/

/-- The strings that are requested and not in the cache, each once, in the order of the requests. -/
def wanted (cache : StringCache) (requests : List StringRequest) : List StringId :=
  lacking cache (idsOf requests)

/-- The texts that the cache has for the requests, in order, each filled with the parameter of its
request. -/
def Answers (cache : StringCache) (requests : List StringRequest) (found : List Text) : Prop :=
  List.Forall₂ (fun r t ↦ ∃ text, cache.get? r.id = some text ∧ t = format text r.param)
    requests found

/-- What a lookup comes to, on its own. -/
structure Lookup {ω : Type} (transport : Transport ω) (cache : StringCache)
    (requests : List StringRequest) (site : ω) : Prop where
  /-- If nothing is wanted, nothing is sent. -/
  cached : wanted cache requests = [] → (lookup requests).trips transport cache site = [] ∧
    ∃ found, Answers cache requests found ∧
      (lookup requests).run transport cache site = (.ok found, cache, site)
  /-- If something is, it is asked for by one call. Either all of it is supplied, and added to the
  cache, or there is an error, and the cache is as before. The error is that of the call or, if the
  call was fulfilled, none that tells of a lost string. -/
  fetched : wanted cache requests ≠ [] → ∃ call result later, Asks (wanted cache requests) call ∧
    (lookup requests).trips transport cache site = [[call]] ∧
    transport.exchange [call] site = ([result], later) ∧
    ((∃ texts found, Supplies (wanted cache requests) result texts ∧
        Answers (cache ++ (wanted cache requests).zip texts) requests found ∧
        (lookup requests).run transport cache site =
          (.ok found, cache ++ (wanted cache requests).zip texts, later)) ∨
      (¬∃ texts, Supplies (wanted cache requests) result texts) ∧
        ∃ e, (lookup requests).run transport cache site = (.error e, cache, later) ∧
          (result = .error e ∨ (∃ payload, result = .ok payload) ∧ ∀ id, e ≠ lostError id))

section Run

variable {ω : Type} {transport : Transport ω} {cache : StringCache} {requests : List StringRequest}
  {site later : ω}

theorem answers_filled (h : ∀ id ∈ idsOf requests, (cache.lookup id).isSome) :
    Answers cache requests (filled cache requests) := by
  rw [Answers, filled, List.forall₂_map_right_iff, List.forall₂_same]
  intro r hr
  obtain ⟨text, htext⟩ := Option.isSome_iff_exists.mp (h r.id (List.mem_map_of_mem hr))
  exact ⟨text, htext, by rw [StringCache.get?, htext]; rfl⟩

theorem run_readTexts (h : ∀ id ∈ idsOf requests, (cache.lookup id).isSome) :
    (readTexts requests).run transport cache site = (.ok (filled cache requests), cache, site) := by
  rw [readTexts, Job.run, id, mapM_fulfil h]
  rfl

theorem run_lookup_of_cached (h : wanted cache requests = []) :
    (lookup requests).run transport cache site = (.ok (filled cache requests), cache, site) := by
  rw [lookup_eq, Job.run, id, ← wanted, if_pos h]
  exact run_readTexts (lacking_eq_nil.mp h)

theorem run_lookup_of_wanted (h : wanted cache requests ≠ [])
    (hexchange : transport.exchange [loadCall (wanted cache requests)] site = ([result], later)) :
    (lookup requests).run transport cache site =
      ((storeReceived (wanted cache requests) (received (wanted cache requests) result)).andThen
        fun () ↦ readTexts requests).run transport cache later := by
  rw [lookup_eq, Job.run, id, ← wanted, if_neg h, Job.run, hexchange]
  rfl

theorem run_lookup_of_supplies (h : wanted cache requests ≠ [])
    (hexchange : transport.exchange [loadCall (wanted cache requests)] site = ([result], later))
    (hsupplies : Supplies (wanted cache requests) result found) :
    Answers (cache ++ (wanted cache requests).zip found) requests
        (filled (cache ++ (wanted cache requests).zip found) requests) ∧
      (lookup requests).run transport cache site =
        (.ok (filled (cache ++ (wanted cache requests).zip found) requests),
          cache ++ (wanted cache requests).zip found, later) := by
  have hinsert : insertAll cache ((wanted cache requests).zip found) =
      cache ++ (wanted cache requests).zip found :=
    insertAll_zip (nodup_lacking cache _) fun id hid ↦ (mem_lacking.mp hid).2
  have hfound : ∀ id ∈ idsOf requests,
      ((cache ++ (wanted cache requests).zip found).lookup id).isSome :=
    hinsert ▸ isSome_insertAll_lacking (refl_of Extends cache) hsupplies.length_eq
  refine ⟨answers_filled hfound, ?_⟩
  have hstore : ((storeReceived (wanted cache requests) (.ok found)).andThen fun () ↦
        readTexts requests).run transport cache later =
      (readTexts requests).run transport (insertAll cache ((wanted cache requests).zip found))
        later :=
    rfl
  rw [run_lookup_of_wanted h hexchange, received_eq_ok_iff.mpr hsupplies, hstore, hinsert,
    run_readTexts hfound]

theorem run_lookup_of_refused (h : wanted cache requests ≠ [])
    (hexchange : transport.exchange [loadCall (wanted cache requests)] site = ([result], later))
    (hreceived : received (wanted cache requests) result = .error e) :
    (lookup requests).run transport cache site = (.error e, cache, later) := by
  rw [run_lookup_of_wanted h hexchange, hreceived]
  rfl

/-- **A lookup adds all that it asked for to the cache, or nothing.** -/
theorem lookup_alone (transport : Transport ω) (cache : StringCache) (requests : List StringRequest)
    (site : ω) : Lookup transport cache requests site where
  cached h :=
    ⟨(trips_lookup transport requests cache site).trans (if_pos h), _,
      answers_filled (lacking_eq_nil.mp h), run_lookup_of_cached h⟩
  fetched h := by
    obtain ⟨result, hresult⟩ := List.length_eq_one_iff.mp
      (transport.length_exchange [loadCall (wanted cache requests)] site)
    have hexchange : transport.exchange [loadCall (wanted cache requests)] site =
        ([result], (transport.exchange [loadCall (wanted cache requests)] site).2) :=
      Prod.ext hresult rfl
    refine ⟨_, result, _, asks_loadCall _, ?_, hexchange, ?_⟩
    · exact (trips_lookup transport requests cache site).trans (if_neg h)
    · cases hreceived : received (wanted cache requests) result with
      | ok found =>
        have hsupplies := received_eq_ok_iff.mp hreceived
        exact .inl ⟨found, _, hsupplies, run_lookup_of_supplies h hexchange hsupplies⟩
      | error e =>
        refine .inr ⟨?_, e, run_lookup_of_refused h hexchange hreceived,
          eq_of_received_eq_error hreceived⟩
        rintro ⟨found, hsupplies⟩
        rw [received_eq_ok_iff.mpr hsupplies] at hreceived
        cases hreceived

end Run

end SiteClient.Localized
